import PortableSearch.Query

/-! Portable aggregations: buckets or statistics of the documents a search matches, under a key the
caller chooses, with child aggregations computed within each bucket. -/

namespace PortableSearch

inductive Direction where
  | ascending
  | descending
  deriving DecidableEq, Repr

/-- What the buckets of a terms aggregation are ordered by. -/
inductive SortKey where
  | count
  | lexical
  deriving DecidableEq, Repr

structure BucketOrder where
  key : SortKey := .count
  direction : Direction := .descending
  deriving Repr

/-- A half-open interval `[lower, upper)` with an optional key chosen by the caller; a null end
is open. -/
structure KeyedRange where
  key : Option String
  lower : Value
  upper : Value

/-- What an aggregation computes. -/
inductive Operation where
  /-- One bucket per term of the field: at most `size` of them, in `order`, with documents
  lacking the field counted under `missing` when it is not null. -/
  | terms (field : String) (size : Int) (order : Option BucketOrder) (missing : Value)
  | missing (field : String)
  | cardinality (field : String)
  | histogram (field : String) (interval : Float) (offset : Option Float)
  | dateHistogram (field interval : String) (format offset timeZone : Option String)
  | stats (field : String)
  | ranges (field : String) (ranges : List KeyedRange)
  /-- One bucket per range of dates; string ends are date math, evaluated in the zone. -/
  | dateRanges (field : String) (ranges : List KeyedRange) (format timeZone : Option String)
  | geohash (field : String) (precision size : Option Int)
  | geoCentroid (field : String)
  | geoBounds (field : String)
  | geoDistance (field : String) (origin : Coordinate) (unit : Option String) (ranges : List KeyedRange)
  | filters (filters : List (String × Query))
  /-- A body in the engine's own language: an object, JSON text or a record. -/
  | native (body : Value)
  /-- An aggregation of no particular kind, named by `kind`. -/
  | generic (kind : String)

/-- An aggregation: its key, its child aggregations, the least number of documents of a
reported bucket, and what it computes. -/
inductive Aggregation where
  | mk (key : String) (children : List Aggregation) (minDocCount : Option Int) (operation : Operation)

namespace Aggregation

def key : Aggregation → String
  | .mk k _ _ _ => k

def children : Aggregation → List Aggregation
  | .mk _ cs _ _ => cs

end Aggregation

end PortableSearch
