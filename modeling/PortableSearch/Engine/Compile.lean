import PortableSearch.Query
import PortableSearch.Engine.Query
import PortableSearch.Value.Display
import PortableSearch.Fault

/-! Compiling portable queries to engine queries, child by child: a term is matched as its display
text, a date range names a time zone only for date-math bounds, and the generic query fails. -/

namespace PortableSearch

/-- The text that a term value is matched as. -/
def termText : Value → String
  | .bool b => if b then "true" else "false"
  | .null => "null"
  | v => v.display

def DateBound.toValue : DateBound → Value
  | .instant t => .str t.isoText
  | .int n => .int n
  | .float x => .float x
  | .expression s => .str s

def DateBound.optionValue : Option DateBound → Value
  | some b => b.toValue
  | none => .null

/-- The zone for the date math of a range: its own when nonempty, else the compilation's. -/
def rangeZone (own context : Option String) : Option String :=
  match own with
  | some z => if z.isEmpty then context else some z
  | none => context

mutual

/-- The engine query of a portable query; `zone` is the time zone of the compilation. -/
def Query.compile (zone : Option String) : Query → Outcome Engine.Query
  | .allOf qs => do
    let cs ← Query.compileAll zone qs
    pure (.bool cs [] [] [])
  | .anyOf qs => do
    let cs ← Query.compileAll zone qs
    pure (.bool [] [] cs [])
  | .noneOf qs => do
    let cs ← Query.compileAll zone qs
    pure (.bool [] [] [] cs)
  | .matchAll => pure .matchAll
  | .term field value => pure (.term field (termText value) none)
  | .terms field values => pure (.terms field (values.map termText) none)
  | .fullText field text operator => pure (.fullText field text operator none)
  | .range field gte gt lte lt => pure (.range field gte gt lte lt none none none)
  | .dateRange field gte gt lte lt own =>
    let math := (dateBounds gte gt lte lt).any DateBound.isExpression
    pure (.range field (DateBound.optionValue gte) (DateBound.optionValue gt)
      (DateBound.optionValue lte) (DateBound.optionValue lt) none none
      (if math then rangeZone own zone else none))
  | .regex field pattern => pure (.regexp field pattern none)
  | .startsWith field text => pure (.startsWith field text none)
  | .wildcard field pattern => pure (.wildcard field pattern)
  | .hasField field present =>
    pure (if present then .hasField field else .bool [] [] [] [.hasField field])
  | .withinBox field box => pure (.geoBox field box)
  | .queryString text defaultField defaultOperator =>
    pure (.queryString text defaultField (some defaultOperator))
  | .generic => throw (.unsupportedQuery "Query")

def Query.compileAll (zone : Option String) : List Query → Outcome (List Engine.Query)
  | [] => pure []
  | q :: rest => do
    let c ← Query.compile zone q
    let cs ← Query.compileAll zone rest
    pure (c :: cs)

end

end PortableSearch
