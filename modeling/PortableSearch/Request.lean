import PortableSearch.Aggregation.Read
import PortableSearch.Time.Rfc3339

/-! Search requests: the context of a compilation (the time zone of date math and the instant `now`)
and the `SearchRequest` a caller makes, read from a document. -/

namespace PortableSearch

open PortableSearch.Model

/-- The time zone and the instant `now` of one compilation. -/
structure Context where
  timeZone : Option String := none
  now : Time.Stamp

namespace Model

/-- A date-time: one given as such, RFC 3339 text or a Unix timestamp as text (also as UTF-8
bytes), or a Unix timestamp as a number. -/
def dateTime : Value → Checked Time.Stamp
  | .time t => .ok t
  | .str s => .ofOption (Time.Stamp.ofDateTimeText? s)
  | .bytes b => .ofOption ((Value.bytes b).asStr?.bind Time.Stamp.ofDateTimeText?)
  | .int n => .ofOption (Time.Stamp.ofUnix? n 0)
  | .float x => .ofOption (Time.Stamp.ofUnixFloat? x)
  | _ => .here

end Model

def Context.recordFields (fs : Fields) : Checked Members :=
  (fun timeZone now => [("time_zone", (timeZone.map Value.str).getD .null),
      ("now", (now.map Value.time).getD .null)]) <$>
    optional fs "time_zone" str <*> optional fs "now" dateTime

def Context.check (defaultNow : Time.Stamp) (fs : Fields) : Checked Context :=
  (fun timeZone now => { timeZone, now := now.getD defaultNow }) <$>
    optional fs "time_zone" str <*> optional fs "now" dateTime

structure SortField where
  field : String
  direction : Direction := .ascending

def SortField.check (fs : Fields) : Checked SortField :=
  SortField.mk <$> required fs "field" str <*> withDefault fs "direction" .ascending Model.direction

def SortField.fields (s : SortField) : Members :=
  [("field", .str s.field), ("direction", .str s.direction.text)]

/-- A portable search request. -/
structure SearchRequest where
  offset : Int := 0
  limit : Option Int := none
  query : Option Query := none
  aggs : List Aggregation := []
  sorts : List SortField := []
  fields : List String := []
  storedFields : Option (List String) := none
  params : Members := []

def defaultLimit : Int := 50

/-- The built parts of a request: its query and its aggregations, each when the document gives
them. -/
structure RequestParts where
  query : Option (Checked (Option Query)) := none
  aggs : Option (Checked (List Aggregation)) := none

def RequestParts.build (fuel : Nat) (fs : Fields) : Outcome RequestParts := do
  let query ← match fs.get? "query" with
    | some .null => pure (some (.ok none))
    | some q => do
      let q ← Query.build fuel q
      pure (some (.ok (some q)))
    | none => pure none
  let aggs ← match fs.get? "aggs" with
    | some (.list xs) => (buildItems (Aggregation.build fuel) xs).map some
    | some _ => pure (some .here)
    | none => pure none
  pure { query, aggs }

/-- Build a search request from a document, its query and aggregations first; `fuel` bounds
their nesting. -/
def SearchRequest.build (fuel : Nat) (v : Value) : Outcome SearchRequest := do
  let fs := v.members
  let parts ← RequestParts.build fuel fs
  let limit : Checked (Option Int) := match fs.get? "limit" with
    | some x => (int x).map some |>.under (.name "limit")
    | none => .ok none
  (SearchRequest.mk <$> withDefault fs "offset" 0 int <*> limit <*>
      builtField parts.query "query" (some none) <*> builtField parts.aggs "aggs" (some []) <*>
      withDefault fs "sorts" [] (listOf (nested "DocSort" SortField.check)) <*>
      withDefault fs "fields" [] (listOf str) <*> optional fs "stored_fields" (listOf str) <*>
      withDefault fs "params" [] (mapOf any)).toOutcome

def firstTruthy : List Value → Value
  | [] => .null
  | [v] => v
  | v :: rest => if v.truthy then v else firstTruthy rest

/-- The context a request asks for: the time zone of its parameter `timeZone`, else of
`time_zone`, else `defaultZone`, the first that is set and nonempty; it must be a string or
null. -/
def SearchRequest.context (r : SearchRequest) (defaultZone : Value) (now : Time.Stamp) :
    Checked Context :=
  let zone := firstTruthy [(r.params.get? "timeZone").getD .null,
    (r.params.get? "time_zone").getD .null, defaultZone]
  (fun timeZone => ({ timeZone := timeZone, now := now } : Context)) <$>
    optional [("time_zone", zone)] "time_zone" str

/-! ## Requests as typed records

A request may also be given as a typed record, its fields checked as the model declares them.
There its query and its aggregations are records of the base models, which keep only what every
query and every aggregation has: a query keeps nothing, an aggregation its key, its child
aggregations and its least document count. -/

def baseQueryRecord : Value → Checked Value
  | .obj _ => .ok (.record "Query" [])
  | _ => .here

/-- An aggregation as a record of the base model, its child aggregations records of it as well;
`fuel` bounds the nesting. -/
def baseAggRecord : Nat → Value → Checked Value
  | 0, _ => .here
  | fuel + 1, .obj fs =>
    (fun key aggs minDocCount => .record "Agg"
        [("key", .str key), ("aggs", .list aggs), ("min_doc_count", (minDocCount.map .int).getD .null)]) <$>
      required fs "key" str <*> withDefault fs "aggs" [] (listOf (baseAggRecord fuel)) <*>
      optional fs "min_doc_count" int
  | _ + 1, _ => .here

/-- The fields of a request given as a typed record, in the order the model declares them, each
checked and defaulted as it declares; `fuel` bounds the nesting of aggregations. -/
def SearchRequest.recordFields (fuel : Nat) (fs : Fields) : Checked Members :=
  (fun offset limit query aggs sorts fields storedFields params =>
      [("offset", .int offset), ("limit", .int limit), ("query", query.getD .null),
        ("aggs", .list aggs), ("sorts", .list (sorts.map fun s => .record "DocSort" s.fields)),
        ("fields", .list (fields.map .str)), ("stored_fields", (storedFields.map fun xs => .list (xs.map .str)).getD .null),
        ("params", .obj params)]) <$>
    withDefault fs "offset" 0 int <*> withDefault fs "limit" defaultLimit int <*>
    optional fs "query" baseQueryRecord <*> withDefault fs "aggs" [] (listOf (baseAggRecord fuel)) <*>
    withDefault fs "sorts" [] (listOf (nested "DocSort" SortField.check)) <*>
    withDefault fs "fields" [] (listOf str) <*> optional fs "stored_fields" (listOf str) <*>
    withDefault fs "params" [] (mapOf any)

end PortableSearch
