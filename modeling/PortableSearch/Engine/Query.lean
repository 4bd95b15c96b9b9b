import PortableSearch.Geo

/-! The engine's query language as a tree, and its JSON (`Query.toJson?`): unset parts and empty
clause lists are left out, and the abstract query has no rendering. A `terms` query keeps its field
name beside the member `boost` in one object. -/

namespace PortableSearch.Engine

/-- A query of the search engine. -/
inductive Query where
  /-- Boolean composition: all of `must`, all of `filter` (unscored), some of `should`, none
  of `mustNot`. -/
  | bool (must filter should mustNot : List Query)
  | matchAll
  | range (field : String) (gte gt lte lt : Value) (boost : Option Float) (format timeZone : Option String)
  | term (field value : String) (boost : Option Float)
  | terms (field : String) (values : List String) (boost : Option Float)
  | fullText (field value : String) (operator : Option String) (boost : Option Float)
  | wildcard (field value : String)
  | regexp (field value : String) (boost : Option Float)
  | startsWith (field value : String) (boost : Option Float)
  | queryString (query : String) (defaultField defaultOperator : Option String)
  | inlineTemplate (template : String) (params : Members)
  | storedTemplate (id : String) (params : Members)
  | geoBox (field : String) (box : Envelope)
  | hasField (field : String)
  /-- A query of no particular kind. -/
  | abstract

def boostValue : Option Float → Value
  | some b => .float b
  | none => .null

def textValue : Option String → Value
  | some s => .str s
  | none => .null

def single (k : String) (v : Value) : Value := .obj [(k, v)]

mutual

/-- The JSON object of a query; none when the abstract query occurs in it. -/
def Query.toJson? : Query → Option Value
  | .bool must filter should mustNot => do
    let m ← Query.listToJson? must
    let f ← Query.listToJson? filter
    let s ← Query.listToJson? should
    let n ← Query.listToJson? mustNot
    let clauses := [("must", m), ("filter", f), ("should", s), ("must_not", n)]
    pure (single "bool" (.obj ((clauses.filter (fun c => !c.2.isEmpty)).map fun c => (c.1, .list c.2))))
  | .matchAll => some (single "match_all" (.obj []))
  | .range field gte gt lte lt boost format timeZone =>
    some (single "range" (single field (.obj (Members.compact
      [("gte", gte), ("gt", gt), ("lte", lte), ("lt", lt), ("boost", boostValue boost),
        ("format", textValue format), ("time_zone", textValue timeZone)]))))
  | .term field value boost =>
    some (single "term" (single field (.obj (Members.compact [("value", .str value), ("boost", boostValue boost)]))))
  | .terms field values boost =>
    some (single "terms" (.obj (Members.compact
      (Members.ofList [(field, .list (values.map .str)), ("boost", boostValue boost)]))))
  | .fullText field value operator boost =>
    some (single "match" (single field (.obj (Members.compact
      [("query", .str value), ("boost", boostValue boost), ("operator", textValue operator)]))))
  | .wildcard field value => some (single "wildcard" (single field (single "value" (.str value))))
  | .regexp field value boost =>
    some (single "regexp" (single field (.obj (Members.compact [("value", .str value), ("boost", boostValue boost)]))))
  | .startsWith field value boost =>
    some (single "prefix" (single field (.obj (Members.compact [("value", .str value), ("boost", boostValue boost)]))))
  | .queryString query defaultField defaultOperator =>
    some (single "query_string" (.obj (Members.compact
      [("query", .str query), ("default_field", textValue defaultField),
        ("default_operator", textValue defaultOperator)])))
  | .inlineTemplate template params =>
    some (single "template" (.obj [("inline", .str template), ("params", .obj params)]))
  | .storedTemplate id params =>
    some (single "template" (.obj [("id", .str id), ("params", .obj params)]))
  | .geoBox field box =>
    some (single "geo_bounding_box" (single field (.obj
      [("top_left", .obj [("lon", .float box.minX), ("lat", .float box.maxY)]),
        ("bottom_right", .obj [("lon", .float box.maxX), ("lat", .float box.minY)])])))
  | .hasField field => some (single "exists" (single "field" (.str field)))
  | .abstract => none

def Query.listToJson? : List Query → Option (List Value)
  | [] => some []
  | q :: rest => do
    let v ← Query.toJson? q
    let vs ← Query.listToJson? rest
    pure (v :: vs)

end

end PortableSearch.Engine
