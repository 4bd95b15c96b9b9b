import PortableSearch.Aggregation
import PortableSearch.Query.Read

/-! Reading portable aggregations from documents: the kind is named in `type` and the fields stand
beside it. The children in `aggs`, and the queries of a filters aggregation, are built first and
the first failure stops the reading; then every failing field of the aggregation is reported. -/

namespace PortableSearch

open PortableSearch.Model

def Direction.text : Direction → String
  | .ascending => "asc"
  | .descending => "desc"

def SortKey.text : SortKey → String
  | .count => "count"
  | .lexical => "lexical"

namespace Model

def direction : Value → Checked Direction
  | .str "asc" => .ok .ascending
  | .str "desc" => .ok .descending
  | _ => .here

def sortKey : Value → Checked SortKey
  | .str "count" => .ok .count
  | .str "lexical" => .ok .lexical
  | _ => .here

end Model

def BucketOrder.check (fs : Fields) : Checked BucketOrder :=
  BucketOrder.mk <$> withDefault fs "type" .count sortKey <*>
    withDefault fs "direction" .descending Model.direction

def BucketOrder.fields (o : BucketOrder) : Members :=
  [("type", .str o.key.text), ("direction", .str o.direction.text)]

/-- Read a keyed range from its fields; the lower end is named `from`, or `from_` when `from`
is not given. -/
def KeyedRange.check (fs : Fields) : Checked KeyedRange :=
  let lowerName := if fs.contains "from" then "from" else "from_"
  KeyedRange.mk <$> optional fs "key" str <*> withDefault fs lowerName .null any <*>
    withDefault fs "to" .null any

def KeyedRange.fields (r : KeyedRange) : Members :=
  [("key", match r.key with
    | some k => .str k
    | none => .null), ("from", r.lower), ("to", r.upper)]

def keyedRanges (fs : Fields) : Checked (List KeyedRange) :=
  withDefault fs "ranges" [] (listOf (nested "Range" KeyedRange.check))

/-- Check the fields of an aggregation over one field, of kind `kind`; none when no such kind
has that name. -/
def Operation.checkField (kind : String) (fs : Fields) : Option (Checked Operation) :=
  let field := required fs "field" str
  match kind with
  | "TermsAgg" => some (Operation.terms <$> field <*> withDefault fs "size" 10 int <*>
      optional fs "sort" (nested "AggSort" BucketOrder.check) <*> withDefault fs "missing" .null any)
  | "MissingAgg" => some (Operation.missing <$> field)
  | "CardinalityAgg" => some (Operation.cardinality <$> field)
  | "HistogramAgg" => some (Operation.histogram <$> field <*> required fs "interval" float <*>
      optional fs "offset" float)
  | "DateHistogramAgg" => some (Operation.dateHistogram <$> field <*> required fs "interval" str <*>
      optional fs "format" str <*> optional fs "offset" str <*> optional fs "time_zone" str)
  | "StatsAgg" => some (Operation.stats <$> field)
  | "RangeAgg" => some (Operation.ranges <$> field <*> keyedRanges fs)
  | "DateRangeAgg" => some (Operation.dateRanges <$> field <*> keyedRanges fs <*>
      optional fs "format" str <*> optional fs "time_zone" str)
  | "GeoHashAgg" => some (Operation.geohash <$> field <*> optional fs "precision" int <*>
      optional fs "size" int)
  | "GeoCentroidAgg" => some (Operation.geoCentroid <$> field)
  | "GeoBoundsAgg" => some (Operation.geoBounds <$> field)
  | "GeoDistanceAgg" => some (Operation.geoDistance <$> field <*>
      required fs "origin" (nested "Coordinate" Coordinate.check) <*> optional fs "unit" str <*>
      keyedRanges fs)
  | "FieldAgg" => some ((fun _ => Operation.generic "FieldAgg") <$> field)
  | _ => none

/-- The fields with the key taken from the field when no key, or an empty one, is given and
the field is set. -/
def keyFromField (fs : Fields) : Fields :=
  let keyGiven := match fs.get? "key" with
    | some k => k.truthy
    | none => false
  match fs.get? "field" with
  | some f => if !keyGiven && f.truthy then fs.put "key" f else fs
  | none => fs

/-- The built children of an aggregation: its child aggregations and its filter queries,
each when the document gives them. -/
structure Children where
  aggs : Option (Checked (List Aggregation)) := none
  filters : Option (Checked (List (String × Query))) := none

/-- Build the children that the members give, child aggregations first and then filter
queries, the order the models declare them in: `filters` is built whenever it is an object, and
anything else there fails only when `withFilters` holds. -/
def Children.build (agg : Value → Outcome Aggregation) (query : Value → Outcome Query)
    (withFilters : Bool) (fs : Fields) : Outcome Children := do
  let aggs ← match fs.get? "aggs" with
    | some (.list xs) => do
      let items ← buildItems agg xs
      pure (some items)
    | some _ => pure (some .here)
    | none => pure none
  let filters ← match fs.get? "filters" with
    | some (.obj ms) => do
      let entries ← buildEntries query ms
      pure (some entries)
    | some _ => pure (if withFilters then some .here else none)
    | none => pure none
  pure { aggs, filters }

def builtField {α : Type} (c : Option (Checked α)) (name : String) (default : Option α) : Checked α :=
  match c with
  | some r => r.under (.name name)
  | none => match default with
    | some d => .ok d
    | none => .failed [[.name name]]

def isFieldKind (kind : String) : Bool := (Operation.checkField kind []).isSome

/-- Check the operation of an aggregation of kind `kind`, its filter queries given built; none
when no kind has that name. -/
def Operation.check (kind : String) (filters : Option (Checked (List (String × Query))))
    (fs : Fields) : Option (Checked Operation) :=
  match kind with
  | "Agg" => some (pure (.generic "Agg"))
  | "FiltersAgg" => some (Operation.filters <$> builtField filters "filters" none)
  | "NativeAgg" => some (Operation.native <$> required fs "value" any)
  | _ => Operation.checkField kind fs

/-- Build an aggregation from a document, children first; `fuel` bounds the nesting. A document
must be an object; a date-time, bytes or a typed record, each written as an object in the input,
is an object whose kind is missing. -/
def Aggregation.build : Nat → Value → Outcome Aggregation
  | 0, _ => .error (.invalid [[]])
  | _ + 1, .null | _ + 1, .bool _ | _ + 1, .int _ | _ + 1, .float _ | _ + 1, .str _
  | _ + 1, .list _ | _ + 1, .mapping _ | _ + 1, .tuple _ => .error (.notAnObject "agg")
  | _ + 1, .bytes _ | _ + 1, .time _ | _ + 1, .record _ _ => .error (.unknownKind "Agg" .null)
  | fuel + 1, .obj ms =>
    let fs : Fields := ms
    let tag := (fs.get? "type").getD .null
    match tag with
    | .str kind =>
      if (Operation.check kind none []).isNone then .error (.unknownKind "Agg" tag)
      else do
        let children ← Children.build (Aggregation.build fuel) (Query.build fuel)
          (kind = "FiltersAgg") fs
        let fs := if isFieldKind kind then keyFromField fs else fs
        let op := (Operation.check kind children.filters fs).getD .here
        (Aggregation.mk <$> required fs "key" str <*> builtField children.aggs "aggs" (some []) <*>
          optional fs "min_doc_count" int <*> op).toOutcome
    | _ => .error (.unknownKind "Agg" tag)

end PortableSearch
