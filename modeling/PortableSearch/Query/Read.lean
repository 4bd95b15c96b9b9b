import PortableSearch.Query
import PortableSearch.Fault
import PortableSearch.Time.Rfc3339

/-! Reading portable queries from documents: the kind is named in `type`, the children listed in `of`
are built first and the first failure stops the reading, then every failing field is reported. -/

namespace PortableSearch

open PortableSearch.Model

namespace Model

/-- A date bound. -/
def dateBound : Value → Checked DateBound
  | .time t => .ok (.instant t)
  | .int n => .ok (.int n)
  | .float x => .ok (.float x)
  | .str s => .ok (.expression s)
  | .bool b => .ok (.int (if b then 1 else 0))
  | .bytes b =>
    match (Value.bytes b).asStr? with
    | some s =>
      match Time.Stamp.ofDateTimeText? s, intOfText s, floatOfText s with
      | some t, _, _ => .ok (.instant t)
      | none, some n, _ => .ok (.int n)
      | none, none, some x => .ok (.float x)
      | none, none, none => .ok (.expression s)
    | none => .failed [[.name "datetime"], [.name "float"], [.name "int"], [.name "str"]]
  | _ => .failed [[.name "datetime"], [.name "float"], [.name "int"], [.name "str"]]

def nonEmpty {α : Type} (name : String) (c : Checked (List α)) : Checked (List α) :=
  c.andThen fun xs => if xs.isEmpty then .failed [[.name name]] else .ok xs

end Model

def Query.checkLeaf (kind : String) (fs : Fields) : Option (Checked Query) :=
  match kind with
  | "MatchAllQuery" => some (pure .matchAll)
  | "TermQuery" => some (Query.term <$> required fs "field" str <*> required fs "value" any)
  | "TermsQuery" => some (Query.terms <$> required fs "field" str <*> required fs "value" (listOf any))
  | "MatchQuery" => some (Query.fullText <$> required fs "field" str <*> required fs "value" str <*>
      optional fs "operator" str)
  | "RangeQuery" => some (Query.range <$> required fs "field" str <*>
      withDefault fs "gte" .null any <*> withDefault fs "gt" .null any <*>
      withDefault fs "lte" .null any <*> withDefault fs "lt" .null any)
  | "DateRangeQuery" => some (Query.dateRange <$> required fs "field" str <*>
      optional fs "gte" dateBound <*> optional fs "gt" dateBound <*>
      optional fs "lte" dateBound <*> optional fs "lt" dateBound <*> optional fs "time_zone" str)
  | "RegexQuery" => some (Query.regex <$> required fs "field" str <*> required fs "value" str)
  | "PrefixQuery" => some (Query.startsWith <$> required fs "field" str <*> required fs "value" str)
  | "WildcardQuery" => some (Query.wildcard <$> required fs "field" str <*> required fs "value" str)
  | "ExistsQuery" => some (Query.hasField <$> required fs "field" str <*> withDefault fs "value" true bool)
  | "BboxQuery" => some (Query.withinBox <$> required fs "field" str <*>
      required fs "value" (nested "Envelope" Envelope.check))
  | "LuceneQuery" => some (Query.queryString <$> required fs "query" str <*>
      optional fs "default_field" str <*> withDefault fs "default_operator" "and" str)
  | "Query" => some (pure .generic)
  | _ => none

def Query.composition? : String → Option (List Query → Query)
  | "AndQuery" => some .allOf
  | "OrQuery" => some .anyOf
  | "NotQuery" => some .noneOf
  | _ => none

/-- Build a query from a document, children first; `fuel` bounds the nesting. A document
must be an object; a date-time, bytes or a typed record, each written as an object in the input,
is an object whose kind is missing. -/
def Query.build : Nat → Value → Outcome Query
  | 0, _ => .error (.invalid [[]])
  | _ + 1, .null | _ + 1, .bool _ | _ + 1, .int _ | _ + 1, .float _ | _ + 1, .str _
  | _ + 1, .list _ | _ + 1, .mapping _ | _ + 1, .tuple _ => .error (.notAnObject "query")
  | _ + 1, .bytes _ | _ + 1, .time _ | _ + 1, .record _ _ => .error (.unknownKind "Query" .null)
  | fuel + 1, .obj ms =>
    let fs : Fields := ms
    let tag := (fs.get? "type").getD .null
    match tag with
    | .str kind =>
      match Query.composition? kind with
      | some compose => do
        let built ← buildChildren (Query.build fuel) ["of"] fs
        (compose <$> nonEmpty "of" (childField built "of" none)).toOutcome
      | none =>
        match Query.checkLeaf kind fs with
        | some c => do
          let _ ← buildChildren (Query.build fuel) ["of"] fs
          c.toOutcome
        | none => .error (.unknownKind "Query" tag)
    | _ => .error (.unknownKind "Query" tag)

end PortableSearch
