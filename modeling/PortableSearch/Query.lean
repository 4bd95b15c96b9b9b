import PortableSearch.Geo

/-! Portable queries: the search language callers write, independent of any engine, of boolean
composition and leaf queries on one field. -/

namespace PortableSearch

/-- A bound of a date range. -/
inductive DateBound where
  | instant (t : Time.Stamp)
  | int (n : Int)
  | float (x : Float)
  /-- Date-math text, evaluated by the engine. -/
  | expression (text : String)

def DateBound.isExpression : DateBound → Bool
  | .expression _ => true
  | _ => false

/-- A portable query. -/
inductive Query where
  | allOf (children : List Query)
  | anyOf (children : List Query)
  | noneOf (children : List Query)
  | matchAll
  | term (field : String) (value : Value)
  | terms (field : String) (values : List Value)
  | fullText (field text : String) (operator : Option String)
  | range (field : String) (gte gt lte lt : Value)
  /-- Date bounds on the field, with the zone that date-math bounds are evaluated in. -/
  | dateRange (field : String) (gte gt lte lt : Option DateBound) (timeZone : Option String)
  | regex (field pattern : String)
  | startsWith (field text : String)
  | wildcard (field pattern : String)
  | hasField (field : String) (present : Bool)
  | withinBox (field : String) (box : Envelope)
  /-- A query in the engine's own query-string syntax. -/
  | queryString (text : String) (defaultField : Option String) (defaultOperator : String)
  /-- A query of no particular kind. -/
  | generic

def dateBounds (gte gt lte lt : Option DateBound) : List DateBound :=
  [gte, gt, lte, lt].filterMap id

end PortableSearch
