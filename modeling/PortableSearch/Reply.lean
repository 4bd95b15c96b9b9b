import PortableSearch.Geo

/-! Search replies, to a search or to the continuation of a scroll. Members that no field names are
kept, in order, as the `extra` members of the part they belong to. -/

namespace PortableSearch

structure ShardCounts where
  total : Int := 0
  successful : Int := 0
  failed : Int := 0
  extra : Members := []

structure Hit where
  index : Option String := none
  docType : Option String := none
  id : Option String := none
  score : Option Float := none
  source : Option Members := none
  fields : Option (List (String × List Value)) := none
  extra : Members := []

structure Hits where
  total : Int := 0
  maxScore : Option Float := none
  hits : List Hit := []

/-- One bucket of an aggregation result; the results of child aggregations are among its extra
members. -/
structure Bucket where
  key : Option String := none
  keyAsString : Option String := none
  docCount : Int := 0
  lower : Value := .null
  upper : Value := .null
  extra : Members := []

structure AggResult where
  buckets : Option (List Bucket) := none
  docCount : Option Int := none
  docCountErrorUpperBound : Option Int := none
  sumOtherDocCount : Option Int := none
  count : Option Int := none
  min : Option Float := none
  max : Option Float := none
  avg : Option Float := none
  sum : Option Float := none
  /-- Whether the reply gave one of `min`, `max`, `avg` and `sum`, even as null. -/
  statsGiven : Bool := false
  extra : Members := []

/-- A reply to a search or to a scroll continuation. -/
structure Reply where
  took : Int
  timedOut : Bool := false
  shards : ShardCounts := {}
  scrollId : Option String := none
  hits : Hits
  aggregations : List (String × AggResult) := []
  extra : Members := []

structure Stats where
  count : Option Int
  min : Option Float
  max : Option Float
  avg : Option Float
  sum : Option Float

/-- The statistics of a result that gave some of them. -/
def AggResult.stats (a : AggResult) : Option Stats :=
  if a.statsGiven then some ⟨a.count, a.min, a.max, a.avg, a.sum⟩ else none

def ShardCounts.toMembers (s : ShardCounts) : Members :=
  [("total", .int s.total), ("successful", .int s.successful), ("failed", .int s.failed)] ++ s.extra

end PortableSearch
