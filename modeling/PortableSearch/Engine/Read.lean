import PortableSearch.Engine.Query
import PortableSearch.Fault

/-! Reading engine queries from documents: the kind is named in `type`, the child queries under the
clause names are built first, then every failing field of the query is reported. -/

namespace PortableSearch.Engine

open PortableSearch.Model

def clauseNames : List String := ["must", "filter", "should", "must_not"]

def Query.checkLeaf (kind : String) (fs : Fields) : Option (Checked Query) :=
  match kind with
  | "EsMatchAllQuery" => some (pure .matchAll)
  | "EsRangeQuery" => some (Query.range <$> required fs "field" str <*>
      withDefault fs "gte" .null any <*> withDefault fs "gt" .null any <*>
      withDefault fs "lte" .null any <*> withDefault fs "lt" .null any <*>
      optional fs "boost" float <*> optional fs "format" str <*> optional fs "time_zone" str)
  | "EsTermQuery" => some (Query.term <$> required fs "field" str <*> required fs "value" str <*>
      optional fs "boost" float)
  | "EsTermsQuery" => some (Query.terms <$> required fs "field" str <*>
      required fs "value" (listOf str) <*> optional fs "boost" float)
  | "EsMatchQuery" => some (Query.fullText <$> required fs "field" str <*> required fs "value" str <*>
      optional fs "operator" str <*> optional fs "boost" float)
  | "EsWildcardQuery" => some (Query.wildcard <$> required fs "field" str <*> required fs "value" str)
  | "EsRegexpQuery" => some (Query.regexp <$> required fs "field" str <*> required fs "value" str <*>
      optional fs "boost" float)
  | "EsPrefixQuery" => some (Query.startsWith <$> required fs "field" str <*>
      required fs "value" str <*> optional fs "boost" float)
  | "EsQueryStringQuery" => some (Query.queryString <$> required fs "query" str <*>
      optional fs "default_field" str <*> optional fs "default_operator" str)
  | "EsInlineTemplateQuery" => some (Query.inlineTemplate <$> required fs "template" str <*>
      withDefault fs "params" [] (mapOf any))
  | "EsStoredTemplateQuery" => some (Query.storedTemplate <$> required fs "id" str <*>
      withDefault fs "params" [] (mapOf any))
  | "EsGeoBoundingBoxQuery" => some (Query.geoBox <$> required fs "field" str <*>
      required fs "bbox" (nested "Envelope" Envelope.check))
  | "EsExistsQuery" => some (Query.hasField <$> required fs "field" str)
  | "EsQuery" => some (pure .abstract)
  | _ => none

/-- Build an engine query from a document, children first; `fuel` bounds the nesting. A document
must be an object; a date-time, bytes or a typed record, each written as an object in the input,
is an object whose kind is missing. -/
def Query.build : Nat → Value → Outcome Query
  | 0, _ => .error (.invalid [[]])
  | _ + 1, .null | _ + 1, .bool _ | _ + 1, .int _ | _ + 1, .float _ | _ + 1, .str _
  | _ + 1, .list _ | _ + 1, .mapping _ | _ + 1, .tuple _ => .error (.notAnObject "query")
  | _ + 1, .bytes _ | _ + 1, .time _ | _ + 1, .record _ _ => .error (.unknownKind "EsQuery" .null)
  | fuel + 1, .obj ms =>
    let fs : Fields := ms
    let tag := (fs.get? "type").getD .null
    match tag with
    | .str "EsBoolQuery" => do
      let built ← buildChildren (Query.build fuel) clauseNames fs
      (Query.bool <$> childField built "must" (some []) <*> childField built "filter" (some []) <*>
        childField built "should" (some []) <*> childField built "must_not" (some [])).toOutcome
    | .str kind =>
      match Query.checkLeaf kind fs with
      | some c => do
        let _ ← buildChildren (Query.build fuel) clauseNames fs
        c.toOutcome
      | none => .error (.unknownKind "EsQuery" tag)
    | _ => .error (.unknownKind "EsQuery" tag)

end PortableSearch.Engine
