import PortableSearch.Engine.Aggregations
import PortableSearch.Request
import PortableSearch.Settings
import PortableSearch.Scroll

/-! Searchers: the body the engine is sent for a request (`SearchRequest.body`), and a `Searcher` that
compiles requests for one index, sends them and decodes the replies. -/

namespace PortableSearch

/-- The distinct texts of a list, each once, in increasing order of their code points. -/
def sortedDistinct (xs : List String) : List String :=
  ((xs.map Text.points).eraseDups.mergeSort Text.pointsLE).map Text.ofPoints

def SortField.toValue (s : SortField) : Value :=
  .obj [(s.field, .str s.direction.text)]

/-- The body of the engine request for a portable request, in a context. -/
def SearchRequest.body (r : SearchRequest) (ctx : Context) : Outcome Members := do
  let query ← match r.query with
    | some q => do
      let e ← q.compile ctx.timeZone
      match e.toJson? with
      | some v => pure [("query", v)]
      | none => throw .abstractQuery
    | none => pure []
  let aggs ← if r.aggs.isEmpty then pure [] else Aggregation.compileAll ctx [] r.aggs
  pure ([("from", .int r.offset), ("size", .int (r.limit.getD defaultLimit))] ++ query ++
    (if r.fields.isEmpty then [] else [("_source", .list ((sortedDistinct r.fields).map .str))]) ++
    (if aggs.isEmpty then [] else [("aggs", .obj aggs)]) ++
    (if r.sorts.isEmpty then [] else [("sort", .list (r.sorts.map SortField.toValue))]) ++
    (match r.storedFields with
      | some fs => if fs.isEmpty then [] else [("stored_fields", .list (fs.map .str))]
      | none => []))

/-- The body for a request in the given context, or else in the context the request asks for
(`SearchRequest.context`), with the default zone `defaultZone` and the instant `now`. -/
def SearchRequest.compile (r : SearchRequest) (given : Option Context) (defaultZone : Value)
    (now : Time.Stamp) : Outcome Members :=
  match given with
  | some c => r.body c
  | none => do
    let c ← (r.context defaultZone now).toOutcome
    r.body c

/-- A client of one index. -/
structure Searcher where
  index : String
  documentType : Option String
  scrollKeepAlive : String := "1m"
  pageSize : Option Int := none
  defaultZone : Value := .null

/-- The searcher that settings describe, searching `index` when it is given and nonempty, else
the settings' index. -/
def Searcher.ofSettings (s : Settings) (index : Option String) : Outcome Searcher :=
  let chosen := match index with
    | some i => if i.isEmpty then s.index else some i
    | none => s.index
  match chosen with
  | some i =>
    if i.isEmpty then .error .indexRequired
    else .ok { index := i, documentType := some s.documentType,
               scrollKeepAlive := s.scrollKeepAlive, pageSize := some s.pageSize,
               defaultZone := .str s.timeZone }
  | none => .error .indexRequired

def Searcher.paged (r : Searcher) (req : SearchRequest) : SearchRequest :=
  match r.pageSize, req.limit with
  | some n, none => { req with limit := some n }
  | _, _ => req

def Searcher.compile (r : Searcher) (req : SearchRequest) (ctx : Context) : Outcome Members :=
  (r.paged req).body ctx

structure QueryResult where
  totalHits : Int
  documents : List Members
  aggregations : List (String × AggResult)
  metadata : Members

def QueryResult.ofReply (r : Reply) : QueryResult :=
  { totalHits := r.hits.total
    documents := r.hits.hits.filterMap Hit.source
    aggregations := r.aggregations
    metadata := [("took", .int r.took), ("timed_out", .bool r.timedOut),
        ("shards", .obj r.shards.toMembers)] ++
      (match r.hits.maxScore with
        | some s => [("max_score", .float s)]
        | none => []) ++
      (match r.scrollId with
        | some id => [("scroll_id", .str id)]
        | none => []) }

/-- Send a body, asking for a scroll cursor kept alive for `scroll` when it is given, and
decode the reply. -/
def Searcher.search (r : Searcher) (t : Replay) (body : Members) (scroll : Option String) :
    Outcome Reply × Replay :=
  let (raw, t) := t.search { index := r.index, documentType := r.documentType, body, scroll }
  (raw.decode, t)

def Searcher.query (r : Searcher) (t : Replay) (req : SearchRequest) (ctx : Context) :
    Outcome QueryResult × Replay :=
  match r.compile req ctx with
  | .error f => (.error f, t)
  | .ok body =>
    let (reply, t) := r.search t body none
    (reply.map QueryResult.ofReply, t)

/-- Start a scrolled search of a request, its cursor kept alive for `keepAlive`, or for the
searcher's keep-alive when that is empty or not given. -/
def Searcher.scroll (r : Searcher) (t : Replay) (req : SearchRequest) (ctx : Context)
    (keepAlive : Option String) : Outcome Cursor × Replay :=
  let keepAlive := match keepAlive with
    | some k => if k.isEmpty then r.scrollKeepAlive else k
    | none => r.scrollKeepAlive
  match r.compile req ctx with
  | .error f => (.error f, t)
  | .ok body =>
    let (reply, t) := r.search t body (some keepAlive)
    (reply.map (Cursor.start · keepAlive), t)

end PortableSearch
