import PortableSearch.Reply
import PortableSearch.Fault
import PortableSearch.Json.Read

/-! Reading search replies: `Reply.check` reads one from the members of a JSON object, leniently as
`Model.Check` does, and `RawReply.decode` reads one as a transport hands it over. An underscored
name (`_index`, `_shards`, ...) is read before the plain one, which then stays an extra member. -/

namespace PortableSearch

open PortableSearch.Model

namespace Model

/-- The member a field is read from: `spelling` when it is given, else `name`. -/
def memberOf (fs : Fields) (spelling name : String) : String :=
  if fs.contains spelling then spelling else name

def extraMembers (fs : Fields) (used : List String) : Members :=
  fs.filter fun (k, _) => !used.contains k

def objectOf {α : Type} (check : Fields → Checked α) : Value → Checked α
  | .obj ms => check ms
  | _ => .here

def members : Value → Checked Members := objectOf pure

end Model

def ShardCounts.check (fs : Fields) : Checked ShardCounts :=
  (fun total successful failed =>
      { total, successful, failed, extra := extraMembers fs ["total", "successful", "failed"] }) <$>
    withDefault fs "total" 0 int <*> withDefault fs "successful" 0 int <*> withDefault fs "failed" 0 int

def Hit.check (fs : Fields) : Checked Hit :=
  let index := memberOf fs "_index" "index"
  let docType := memberOf fs "_type" "type"
  let id := memberOf fs "_id" "id"
  let score := memberOf fs "_score" "score"
  let source := memberOf fs "_source" "source"
  Hit.mk <$> optional fs index str <*> optional fs docType str <*> optional fs id str <*>
    optional fs score float <*> optional fs source members <*>
    optional fs "fields" (mapOf (listOf any)) <*>
    pure (extraMembers fs [index, docType, id, score, source, "fields"])

/-- The total of the hits as given: an object stands for its `value` member, 0 when missing. -/
def totalOf : Value → Value
  | .obj ms => (Members.get? ms "value").getD (.int 0)
  | v => v

def Hits.check (fs : Fields) : Checked Hits :=
  Hits.mk <$> (match fs.get? "total" with
      | some v => (int (totalOf v)).under (.name "total")
      | none => .ok 0) <*>
    optional fs "max_score" float <*> withDefault fs "hits" [] (listOf (objectOf Hit.check))

/-- A bucket key as read: null and strings as they are, anything else as its display text. -/
def keyText : Value → Value
  | .null => .null
  | .str s => .str s
  | v => .str v.display

def Bucket.check (fs : Fields) : Checked Bucket :=
  let lower := memberOf fs "from" "from_"
  Bucket.mk <$> (match fs.get? "key" with
      | some v => (match keyText v with
        | .str s => Checked.ok (some s)
        | _ => .ok none)
      | none => .ok none) <*>
    optional fs "key_as_string" str <*> withDefault fs "doc_count" 0 int <*>
    withDefault fs lower .null any <*> withDefault fs "to" .null any <*>
    pure (extraMembers fs ["key", "key_as_string", "doc_count", lower, "to"])

/-- The buckets as given: an object from key to bucket is a list of its buckets, each object
bucket with its member name as key; none when null; a failure for anything else. -/
def bucketList : Value → Checked (Option (List Value))
  | .null => .ok none
  | .list xs => .ok (some xs)
  | .obj ms => .ok (some (ms.map fun (name, b) => match b with
      | .obj bs => .obj (Members.put bs "key" (.str name))
      | other => other))
  | _ => .here

def statNames : List String := ["min", "max", "avg", "sum"]

def AggResult.check (fs : Fields) : Checked AggResult :=
  let buckets : Checked (Option (List Bucket)) := match fs.get? "buckets" with
    | some v => ((bucketList v).andThen fun
        | some xs => (eachItem (objectOf Bucket.check) xs 0).map some
        | none => .ok none).under (.name "buckets")
    | none => .ok none
  AggResult.mk <$> buckets <*> optional fs "doc_count" int <*>
    optional fs "doc_count_error_upper_bound" int <*> optional fs "sum_other_doc_count" int <*>
    optional fs "count" int <*> optional fs "min" float <*> optional fs "max" float <*>
    optional fs "avg" float <*> optional fs "sum" float <*>
    pure (statNames.any fs.contains) <*>
    pure (extraMembers fs (["buckets", "doc_count", "doc_count_error_upper_bound",
      "sum_other_doc_count", "count"] ++ statNames))

def Reply.check (fs : Fields) : Checked Reply :=
  let shards := memberOf fs "_shards" "shards"
  let scrollId := memberOf fs "_scroll_id" "scroll_id"
  Reply.mk <$> required fs "took" int <*> withDefault fs "timed_out" false bool <*>
    withDefault fs shards {} (objectOf ShardCounts.check) <*> optional fs scrollId str <*>
    required fs "hits" (objectOf Hits.check) <*>
    withDefault fs "aggregations" [] (mapOf (objectOf AggResult.check)) <*>
    pure (extraMembers fs ["took", "timed_out", shards, scrollId, "hits", "aggregations"])

/-- What a metric result stands for. -/
inductive MetricValue where
  | box (e : Envelope)
  | point (c : Coordinate)
  | plain (v : Value)

def lookupIn (v : Value) (k : String) : Outcome Value :=
  match v with
  | .obj ms => .ok ((Members.get? ms k).getD .null)
  | other => if other.truthy then .error (.noMembers other.typeName) else .ok .null

/-- The value of a result: a box for `bounds`, a point for `location`, the `value` member, else
the extra members, or null when there are none. -/
def AggResult.value (a : AggResult) : Outcome MetricValue := do
  match a.extra.get? "bounds" with
  | some (.obj bounds) =>
    let topLeft := (Members.get? bounds "top_left").getD .null
    let bottomRight := (Members.get? bounds "bottom_right").getD .null
    let minX ← lookupIn topLeft "lon"
    let maxX ← lookupIn bottomRight "lon"
    let minY ← lookupIn bottomRight "lat"
    let maxY ← lookupIn topLeft "lat"
    let e ← (Envelope.check [("min_x", minX), ("max_x", maxX), ("min_y", minY), ("max_y", maxY)]).toOutcome
    pure (.box e)
  | _ =>
    match a.extra.get? "location" with
    | some (.obj location) =>
      let c ← (Coordinate.check [("lon", (Members.get? location "lon").getD .null),
        ("lat", (Members.get? location "lat").getD .null)]).toOutcome
      pure (.point c)
    | _ =>
      match a.extra.get? "value" with
      | some v => pure (.plain v)
      | none => pure (.plain (if a.extra.isEmpty then .null else .obj a.extra))

/-- The results of the child aggregations of a bucket: each extra member that is an object,
in order; the first that does not read fails them all, at its own locations. -/
def Bucket.subAggregations (b : Bucket) : Outcome (List (String × AggResult)) :=
  (b.extra.filterMap fun (k, v) => match v with
    | .obj ms => some (k, ms)
    | _ => none).mapM fun (k, ms) =>
      match AggResult.check ms with
      | .ok a => .ok (k, a)
      | .failed ls => .error (.invalid ls)

/-- A search reply as a transport hands it over. -/
inductive RawReply where
  | text (s : String)
  | bytes (bs : List UInt8)
  | parsed (v : Value)
  /-- A response object whose body is the value. -/
  | wrapped (v : Value)

/-- How replies are read as JSON text: strictly, with integers of any length, and no value
inside more than 200 arrays and objects. -/
def replyDialect : Json.Dialect :=
  { loneSurrogates := .refuse, digitLimit := none, nesting := .valuesWithin 200 }

def replyOfText (text : String) : Outcome Reply :=
  match Json.readJson text replyDialect with
  | .ok (.obj ms) => match Reply.check ms with
    | .ok r => .ok r
    | .failed ls => .error (.malformedReplyAt ls)
  | _ => .error (.malformedReplyAt [[]])

def replyOfMembers (ms : Members) : Outcome Reply :=
  match Reply.check ms with
  | .ok r => .ok r
  | .failed ls => .error (.malformedReplyAt ls)

/-- Decode a raw reply. -/
def RawReply.decode : RawReply → Outcome Reply
  | .text s => replyOfText s
  | .bytes bs => match Text.decodeUtf8 bs with
    | .ok s => replyOfText s
    | .error _ => .error (.malformedReplyAt [[]])
  | .parsed (.obj ms) => replyOfMembers ms
  | .parsed v => .error (.malformedReply ("unsupported reply type " ++ v.typeName))
  | .wrapped (.obj ms) => replyOfMembers ms
  | .wrapped _ => .error (.malformedReply "unsupported reply type ObjectApiResponse")

end PortableSearch
