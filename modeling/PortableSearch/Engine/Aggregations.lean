import PortableSearch.Aggregation
import PortableSearch.Engine.Compile
import PortableSearch.DateMath
import PortableSearch.Request
import PortableSearch.Json.Bytes

/-! The aggregations section of an engine request: an object from aggregation key to entry, in the
order of the aggregations, a later key taking the place of an earlier one. Children are compiled
before their parent, so a failure among them is reported first. -/

namespace PortableSearch

/-- How a date histogram's interval is sent. -/
inductive IntervalKind where
  | calendar
  | fixed
  deriving DecidableEq, Repr

def calendarIntervals : List String :=
  ["minute", "1m", "hour", "1h", "day", "1d", "week", "1w", "month", "1M", "quarter", "1q",
    "year", "1y"]

def calendarOnlyUnits : List String := ["w", "M", "q", "y"]

def isAsciiLetter (c : Char) : Bool := ('a' ≤ c && c ≤ 'z') || ('A' ≤ c && c ≤ 'Z')

/-- The unit of an interval written as decimal digits and then ASCII letters, a final line
break allowed; none for any other text. -/
def intervalUnit? (interval : String) : Option String :=
  let cs := interval.toList
  let body := if cs.getLast? = some '\n' then cs.dropLast else cs
  let digits := body.takeWhile fun c => (Text.decimalValue? c).isSome
  let letters := body.drop digits.length
  if !digits.isEmpty && !letters.isEmpty && letters.all isAsciiLetter then some (String.ofList letters)
  else none

/-- How an interval is sent; none for a multiple of a unit that exists only on the calendar. -/
def IntervalKind.of? (interval : String) : Option IntervalKind :=
  if calendarIntervals.contains interval then some .calendar
  else match intervalUnit? interval with
    | some unit => if calendarOnlyUnits.contains unit then none else some .fixed
    | none => some .fixed

def IntervalKind.memberName : IntervalKind → String
  | .calendar => "calendar_interval"
  | .fixed => "fixed_interval"

def setMembers (ms : List (String × Option Value)) : Members :=
  ms.filterMap fun (k, v) => v.map (k, ·)

def KeyedRange.toMembers (r : KeyedRange) : Members :=
  Members.compact [("key", match r.key with
    | some k => .str k
    | none => .null), ("from", r.lower), ("to", r.upper)]

/-- A date-range end as the engine reads it: date math and date-times as milliseconds since the
epoch. -/
def resolveEnd (zone : Zone) (now : Time.Stamp) : Value → Outcome Value
  | .str s => (DateMath.evaluate s now false zone).map .int
  | .time t => .ok (.int (t.utcMicros / 1000))
  | v => .ok v

def resolveRanges (zone : Zone) (now : Time.Stamp) : List KeyedRange → Outcome (List Value)
  | [] => .ok []
  | r :: rest => do
    let lower ← resolveEnd zone now r.lower
    let upper ← resolveEnd zone now r.upper
    let others ← resolveRanges zone now rest
    pure (.obj (Members.compact [("key", match r.key with
      | some k => .str k
      | none => .null), ("from", lower), ("to", upper)]) :: others)

def compileFilters (zone : Option String) : List (String × Query) → Outcome Members
  | [] => .ok []
  | (label, q) :: rest => do
    let e ← q.compile zone
    let v ← match e.toJson? with
      | some v => pure v
      | none => throw .abstractQuery
    let others ← compileFilters zone rest
    pure ((label, v) :: others)

/-- The engine's name for an operation and its body; none for a native or generic one. -/
def Operation.body (ctx : Context) (key : String) : Operation → Outcome (Option (String × Members))
  | .terms field size order absent =>
    let sortName := match order with
      | some o => if o.key = .lexical then "_key" else "_count"
      | none => "_count"
    let direction := match order with
      | some o => if o.direction = .ascending then "asc" else "desc"
      | none => "desc"
    pure (some ("terms", [("field", .str field), ("size", .int size),
      ("order", .obj [(sortName, .str direction)])] ++
      (if absent.isNull then [] else [("missing", absent)])))
  | .missing field => pure (some ("missing", [("field", .str field)]))
  | .cardinality field => pure (some ("cardinality", [("field", .str field)]))
  | .histogram field interval offset =>
    pure (some ("histogram", [("field", .str field), ("interval", .float interval)] ++
      setMembers [("offset", offset.map .float)]))
  | .dateHistogram field interval format offset timeZone => do
    let kind ← match IntervalKind.of? interval with
      | some k => pure k
      | none => throw (.invalidInterval key interval)
    pure (some ("date_histogram", [("field", .str field), (kind.memberName, .str interval)] ++
      setMembers [("format", format.map .str), ("offset", offset.map .str),
        ("time_zone", (rangeZone timeZone ctx.timeZone).map .str)]))
  | .stats field => pure (some ("stats", [("field", .str field)]))
  | .ranges field rs =>
    pure (some ("range", [("field", .str field), ("ranges", .list (rs.map (.obj ·.toMembers)))]))
  | .dateRanges field rs format timeZone => do
    let zone ← Zone.resolve ((rangeZone timeZone ctx.timeZone).getD "")
    let resolved ← resolveRanges zone ctx.now rs
    pure (some ("date_range", [("field", .str field)] ++ setMembers [("format", format.map .str)] ++
      [("ranges", .list resolved)]))
  | .geohash field precision size =>
    pure (some ("geohash_grid", [("field", .str field)] ++
      setMembers [("precision", precision.map .int), ("size", size.map .int)]))
  | .geoCentroid field => pure (some ("geo_centroid", [("field", .str field)]))
  | .geoBounds field => pure (some ("geo_bounds", [("field", .str field)]))
  | .geoDistance field origin unit rs =>
    pure (some ("geo_distance", [("field", .str field),
      ("origin", .obj [("lat", .float origin.lat), ("lon", .float origin.lon)])] ++
      setMembers [("unit", unit.map .str)] ++
      [("ranges", .list (rs.map (.obj ·.toMembers)))]))
  | .filters named => do
    let compiled ← compileFilters ctx.timeZone named
    pure (some ("filters", [("filters", .obj compiled)]))
  | .native _ => pure none
  | .generic _ => pure none

def frozenModels : List String := ["CompileContext"]

mutual

/-- The type that keeps a value from being a key of a mapping, if any: arrays, objects, mappings
and records of models that are not frozen are no keys, and a tuple is one when its items are. -/
def Value.unhashableType? : Value → Option String
  | .list _ => some "list"
  | .obj _ | .mapping _ => some "dict"
  | .record m _ => if frozenModels.contains m then none else some m
  | .tuple xs => Value.unhashableItem? xs
  | _ => none

def Value.unhashableItem? : List Value → Option String
  | [] => none
  | x :: rest => (Value.unhashableType? x).orElse fun _ => Value.unhashableItem? rest

end

def keyedPair (k v : Value) : Except MappingIssue (Value × Value) :=
  match k.unhashableType? with
  | none => .ok (k, v)
  | some t => .error (.unhashable t)

def Value.wholeKey? : Value → Option Int
  | .bool b => some (if b then 1 else 0)
  | .int n => some n
  | _ => none

mutual

/-- Whether two keys of a mapping are one key: booleans, integers and doubles by their numeric
value (not-a-number equal to itself), date-times by their instant when both have an offset and by
their wall clock when neither has, records by model and fields, other values by kind and
content. -/
def Value.sameKey : Value → Value → Bool
  | .float x, .float y => (x.isNaN && y.isNaN) || x == y
  | .float x, v | v, .float x =>
    match v.wholeKey? with
    | some n => Float.toIntExact? x == some n
    | none => false
  | .str a, .str b => a == b
  | .null, .null => true
  | .bytes a, .bytes b => a == b
  | .time s, .time t =>
    match s.offset, t.offset with
    | some _, some _ => s.utcMicros == t.utcMicros
    | none, none => s.wall == t.wall
    | _, _ => false
  | .record m fs, .record n gs => m == n && sameFields fs gs
  | .tuple xs, .tuple ys => sameItems xs ys
  | v, w =>
    match v.wholeKey?, w.wholeKey? with
    | some a, some b => a == b
    | _, _ => false

def sameFields : List (String × Value) → List (String × Value) → Bool
  | [], [] => true
  | (k, v) :: rest, (j, w) :: more => k == j && v.sameKey w && sameFields rest more
  | _, _ => false

def sameItems : List Value → List Value → Bool
  | [], [] => true
  | v :: rest, w :: more => v.sameKey w && sameItems rest more
  | _, _ => false

end

/-- Set the entry of key `k` to `v`: the first equal key keeps its place and takes the value,
else the entry goes at the end. -/
def putEntry : List (Value × Value) → Value → Value → List (Value × Value)
  | [], k, v => [(k, v)]
  | (j, w) :: rest, k, v => if j.sameKey k then (j, v) :: rest else (j, w) :: putEntry rest k v

/-- The pair that an element of a sequence stands for, as a mapping is built from pairs: a
sequence of two, or a record of two fields, which stands for its fields' `(name, value)` tuples. -/
def pairOf (i : Nat) : Value → Except MappingIssue (Value × Value)
  | .list [k, v] | .tuple [k, v] => keyedPair k v
  | .list ys | .tuple ys => .error (.elementLength i ys.length)
  | .str s => match s.toList with
    | [a, b] => .ok (.str a.toString, .str b.toString)
    | cs => .error (.elementLength i cs.length)
  | .obj ms => match ms with
    | [(a, _), (b, _)] => .ok (.str a, .str b)
    | _ => .error (.elementLength i ms.length)
  | .mapping es => match es with
    | [(a, _), (b, _)] => .ok (a, b)
    | _ => .error (.elementLength i es.length)
  | .bytes bs => match bs with
    | [a, b] => .ok (.int a.toNat, .int b.toNat)
    | _ => .error (.elementLength i bs.length)
  | .record _ fs => match fs with
    | [(a, x), (b, y)] =>
      keyedPair (.tuple [.str (fieldAttribute a), x]) (.tuple [.str (fieldAttribute b), y])
    | _ => .error (.elementLength i fs.length)
  | _ => .error (.elementNotSequence i)

def pairsOf (acc : List (Value × Value)) (i : Nat) : List Value → Except MappingIssue (List (Value × Value))
  | [] => .ok acc
  | x :: rest => do
    let (k, v) ← pairOf i x
    pairsOf (putEntry acc k v) (i + 1) rest

/-- The entries of the mapping a value stands for: an object's members, a record's fields, a
mapping's entries, or a sequence of key-value pairs. -/
def mappingOf : Value → Except MappingIssue (List (Value × Value))
  | .obj ms => .ok (ms.map fun (k, v) => (.str k, v))
  | .record _ fs => .ok (fs.map fun (k, v) => (.str (fieldAttribute k), v))
  | .mapping es => .ok es
  | .list xs | .tuple xs => pairsOf [] 0 xs
  | .str s => if s.isEmpty then .ok [] else .error (.elementLength 0 1)
  | .bytes bs => if bs.isEmpty then .ok [] else .error (.elementNotSequence 0)
  | .time _ => .error (.notIterable "datetime.datetime")
  | v => .error (.notIterable v.typeName)

mutual

/-- A value as plain data: every record in it, at any depth, made an object of its set fields,
as a record is dumped leaving out the fields that are not set. -/
def Value.plain : Value → Value
  | .record _ fs => .obj (Value.plainFields fs)
  | .list xs => .list (Value.plainItems xs)
  | .obj ms => .obj (Value.plainMembers ms)
  | .mapping es => .mapping (Value.plainEntries es)
  | .tuple xs => .tuple (Value.plainItems xs)
  | v => v

def Value.plainFields : List (String × Value) → Members
  | [] => []
  | (k, v) :: rest =>
    if v.isNull then Value.plainFields rest else (k, Value.plain v) :: Value.plainFields rest

def Value.plainItems : List Value → List Value
  | [] => []
  | x :: rest => Value.plain x :: Value.plainItems rest

def Value.plainMembers : List (String × Value) → Members
  | [] => []
  | (k, v) :: rest => (k, Value.plain v) :: Value.plainMembers rest

def Value.plainEntries : List (Value × Value) → List (Value × Value)
  | [] => []
  | (k, v) :: rest => (k, Value.plain v) :: Value.plainEntries rest

end

/-- How a native body given as text reads: unpaired surrogates written as escapes are kept, and
arrays and objects nest to any depth. -/
def nativeDialect : Json.Dialect := { loneSurrogates := .keep }

def nativeFault (key : String) (text : List Nat) (e : Json.ReadError) : Fault :=
  .invalidNative key (e.describePoints text)

/-- The value of a native body under `key` given as text or bytes, or why it is not JSON; none
for a body of another kind. -/
def readNative (key : String) : Value → Option (Outcome Value)
  | .str text => some <| match Json.readJson text nativeDialect with
    | .ok v => .ok v
    | .error e => .error (nativeFault key (Text.points text) e)
  | .bytes bs => some <| match Json.readJsonBytes bs nativeDialect with
    | .ok v => .ok v
    | .error (.malformed text e) => .error (nativeFault key text e)
    | .error e => .error (.invalidNative key e.message)
  | _ => none

def entryValue? (es : List (Value × Value)) (k : Value) : Option Value :=
  (es.find? fun (j, _) => j.sameKey k).map Prod.snd

def nativeObject (key : String) (v : Value) : Outcome (List (Value × Value)) := do
  let parsed ← match readNative key v, v with
    | some (.ok p), _ => pure p
    | some (.error fault), _ => throw fault
    | none, .record _ _ => pure v.plain
    | none, .obj _ | none, .mapping _ => pure v
    | none, other => throw (.invalidNative key ("unsupported value type " ++ other.typeName))
  match parsed with
  | .obj ms => pure (ms.map fun (k, w) => (.str k, w))
  | .mapping es => pure es
  | other => throw (.invalidNative key ("expected an object, got " ++ other.typeName))

/-- A native body with child aggregations merged into its `aggs` member. -/
def mergeChildren (body : List (Value × Value)) (sub : Members) :
    Outcome (List (Value × Value)) :=
  if sub.isEmpty then .ok body
  else
    let current := (entryValue? body (.str "aggs")).getD .null
    let base : Except MappingIssue (List (Value × Value)) :=
      if current.truthy then mappingOf current else .ok []
    match base with
    | .ok es =>
      .ok (putEntry body (.str "aggs")
        (Value.ofEntries (sub.foldl (fun acc (k, v) => putEntry acc (.str k) v) es)))
    | .error issue => .error (.notMapping issue)

def withMinDocCount (body : List (Value × Value)) : Option Int → List (Value × Value)
  | some n => putEntry body (.str "min_doc_count") (.int n)
  | none => body

/-- The entry of an aggregation, its children compiled to `sub`. -/
def entryOf (ctx : Context) (key : String) (sub : Members) (minDocCount : Option Int) :
    Operation → Outcome Value
  | .native v => do
    let body ← nativeObject key v
    let body ← mergeChildren body sub
    pure (Value.ofEntries (withMinDocCount body minDocCount))
  | .generic kind => throw (.unsupportedAgg key kind)
  | op => do
    match ← op.body ctx key with
    | some (name, body) =>
      let body := match minDocCount with
        | some n => body.put "min_doc_count" (.int n)
        | none => body
      pure (.obj ([(name, .obj body)] ++
        (if sub.isEmpty then [] else [("aggs", .obj sub)])))
    | none => throw (.unsupportedAgg key "Agg")

mutual

def Aggregation.compileInto (ctx : Context) (entries : Members) : Aggregation → Outcome Members
  | .mk key children minDocCount op => do
    let sub ← Aggregation.compileAll ctx [] children
    let entry ← entryOf ctx key sub minDocCount op
    pure (entries.put key entry)

/-- Add the entries of aggregations to a section, in order. -/
def Aggregation.compileAll (ctx : Context) (entries : Members) : List Aggregation → Outcome Members
  | [] => pure entries
  | a :: rest => do
    let s ← Aggregation.compileInto ctx entries a
    Aggregation.compileAll ctx s rest

end

end PortableSearch
