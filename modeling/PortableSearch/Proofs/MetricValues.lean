import PortableSearch.Proofs.BucketShapes
import PortableSearch.Engine.Aggregations
import PortableSearch.Proofs.Outcome

/-! The value of a metric result, read from the members no field reads: a `bounds` object gives a
box, else a `location` object a point, else the `value` member or the members themselves
(`metric_value_cases`). Written corners and origins read back (`geo_shapes_read_back`). -/

namespace PortableSearch

open PortableSearch.Model

/-! ## Looking up the members of a corner -/

/-- Whether members can be looked up in a value as in a mapping: an object, or a falsy value,
which stands for an empty one. -/
def Value.lookupable : Value → Bool
  | .obj _ => true
  | v => !v.truthy

theorem lookupIn_of_lookupable {v : Value} (ok : v.lookupable = true) (k : String) :
    lookupIn v k = .ok ((v.get? k).getD .null) := by
  cases v <;> simp_all [Value.lookupable, lookupIn, Value.get?, Value.members, Members.get?]

theorem lookupIn_of_not_lookupable {v : Value} (bad : v.lookupable = false) (k : String) :
    lookupIn v k = .error (.noMembers v.typeName) := by
  cases v <;> simp_all [Value.lookupable, lookupIn]

def corner (bounds : Members) (name : String) : Value := (bounds.get? name).getD .null

/-- The fields of the box two corners span: the upper-left corner gives the least longitude and
the greatest latitude, the lower-right corner the greatest longitude and the least latitude. -/
def boxFields (topLeft bottomRight : Value) : Fields :=
  [("min_x", (topLeft.get? "lon").getD .null), ("max_x", (bottomRight.get? "lon").getD .null),
    ("min_y", (bottomRight.get? "lat").getD .null), ("max_y", (topLeft.get? "lat").getD .null)]

def pointFields (location : Members) : Fields :=
  [("lon", (location.get? "lon").getD .null), ("lat", (location.get? "lat").getD .null)]

/-! ## The value, case by case -/

section Value

variable {a : AggResult}

theorem AggResult.value_of_bounds {bounds : Members}
    (given : a.extra.get? "bounds" = some (.obj bounds))
    (topLeft : (corner bounds "top_left").lookupable = true)
    (bottomRight : (corner bounds "bottom_right").lookupable = true) :
    a.value = .box <$> (Envelope.check
      (boxFields (corner bounds "top_left") (corner bounds "bottom_right"))).toOutcome := by
  simp only [AggResult.value, given, ← corner.eq_1]
  rw [lookupIn_of_lookupable topLeft, lookupIn_of_lookupable bottomRight,
    lookupIn_of_lookupable bottomRight, lookupIn_of_lookupable topLeft]
  simp only [ok_bind, ← boxFields.eq_1]
  cases Envelope.check (boxFields (corner bounds "top_left") (corner bounds "bottom_right")) <;> rfl

theorem AggResult.value_of_topLeft_fault {bounds : Members}
    (given : a.extra.get? "bounds" = some (.obj bounds))
    (bad : (corner bounds "top_left").lookupable = false) :
    a.value = .error (.noMembers (corner bounds "top_left").typeName) := by
  simp only [AggResult.value, given, ← corner.eq_1]
  rw [lookupIn_of_not_lookupable bad]
  rfl

theorem AggResult.value_of_bottomRight_fault {bounds : Members}
    (given : a.extra.get? "bounds" = some (.obj bounds))
    (topLeft : (corner bounds "top_left").lookupable = true)
    (bad : (corner bounds "bottom_right").lookupable = false) :
    a.value = .error (.noMembers (corner bounds "bottom_right").typeName) := by
  simp only [AggResult.value, given, ← corner.eq_1]
  rw [lookupIn_of_lookupable topLeft, lookupIn_of_not_lookupable bad]
  rfl

theorem AggResult.value_of_location {location : Members}
    (noBounds : ∀ bounds, a.extra.get? "bounds" ≠ some (.obj bounds))
    (given : a.extra.get? "location" = some (.obj location)) :
    a.value = .point <$> (Coordinate.check (pointFields location)).toOutcome := by
  unfold AggResult.value
  split
  · rename_i bounds found
    exact absurd found (noBounds bounds)
  · simp only [given, pointFields]
    cases Coordinate.check _ <;> rfl

theorem AggResult.value_of_plain
    (noBounds : ∀ bounds, a.extra.get? "bounds" ≠ some (.obj bounds))
    (noLocation : ∀ location, a.extra.get? "location" ≠ some (.obj location)) :
    a.value = .ok (.plain ((a.extra.get? "value").getD
      (if a.extra.isEmpty then .null else .obj a.extra))) := by
  unfold AggResult.value
  split
  · rename_i bounds found
    exact absurd found (noBounds bounds)
  · split
    · rename_i location found
      exact absurd found (noLocation location)
    · cases a.extra.get? "value" <;> rfl

end Value

/-! ## Models of doubles -/

def MissingDouble (fs : Fields) (names : List String) (l : Loc) : Prop :=
  ∃ k ∈ names, l = [.name k] ∧ (fs.get? k).bind Value.asFloat? = none

/-- A failure of reading doubles from the fields `fs`: it has locations, each a field among
`names` that `fs` does not give as a double. -/
def MissingDoubles (fs : Fields) (names : List String) (ls : List Loc) : Prop :=
  ls ≠ [] ∧ ∀ l ∈ ls, MissingDouble fs names l

/-- A check of doubles from the fields `fs` at the names `names`: a value, or a failure at
missing or non-numeric fields among them. -/
def DoublesChecked {α : Type} (fs : Fields) (names : List String) : Checked α → Prop
  | .ok _ => True
  | .failed ls => MissingDoubles fs names ls

namespace MissingDoubles

variable {fs : Fields} {names more : List String} {ls ls' : List Loc}

theorem widen (missing : MissingDoubles fs names ls) (within : names ⊆ more) :
    MissingDoubles fs more ls :=
  ⟨missing.1, fun l mem => by
    obtain ⟨k, named, rfl, none⟩ := missing.2 l mem
    exact ⟨k, within named, rfl, none⟩⟩

theorem append (first : MissingDoubles fs names ls) (second : MissingDoubles fs names ls') :
    MissingDoubles fs names (ls ++ ls') :=
  ⟨by simp [first.1], fun l mem => (List.mem_append.mp mem).elim (first.2 l) (second.2 l)⟩

end MissingDoubles

theorem required_float_eq (fs : Fields) (k : String) :
    required fs k float = match (fs.get? k).bind Value.asFloat? with
      | some x => .ok x
      | none => .failed [[.name k]] := by
  unfold required
  cases fs.get? k with
  | none => rfl
  | some v =>
    simp only [Option.bind_some, float, byReading]
    cases v.asFloat? <;> rfl

namespace DoublesChecked

variable {α β : Type} {fs : Fields} {names more : List String}

theorem required_float (fs : Fields) (k : String) : DoublesChecked fs [k] (required fs k float) := by
  rw [required_float_eq]
  cases given : (fs.get? k).bind Value.asFloat? with
  | some x => trivial
  | none => exact ⟨by simp, fun l mem => ⟨k, List.mem_singleton_self k, by simpa using mem, given⟩⟩

theorem map {x : Checked α} (checked : DoublesChecked fs names x) (f : α → β) :
    DoublesChecked fs names (f <$> x) := by
  cases x
  · trivial
  · exact checked

theorem seq {f : Checked (α → β)} {x : Checked α} (first : DoublesChecked fs names f)
    (second : DoublesChecked fs more x) : DoublesChecked fs (names ++ more) (f <*> x) := by
  -- a failure gathers the failures of both sides, each at a name of its own side
  have left : names ⊆ names ++ more := List.subset_append_left names more
  have right : more ⊆ names ++ more := List.subset_append_right names more
  cases f with
  | ok g =>
    cases x with
    | ok a => trivial
    | failed ls =>
      show MissingDoubles fs _ ([] ++ ls)
      exact (List.nil_append ls).symm ▸ MissingDoubles.widen second right
  | failed ls =>
    cases x with
    | ok a =>
      show MissingDoubles fs _ (ls ++ [])
      exact (List.append_nil ls).symm ▸ MissingDoubles.widen first left
    | failed ls' =>
      exact (MissingDoubles.widen first left).append (MissingDoubles.widen second right)

end DoublesChecked

theorem Envelope.check_doublesChecked (fs : Fields) :
    DoublesChecked fs ["min_x", "max_x", "min_y", "max_y"] (Envelope.check fs) :=
  ((((DoublesChecked.required_float fs "min_x").map Envelope.mk).seq
    (DoublesChecked.required_float fs "max_x")).seq (DoublesChecked.required_float fs "min_y")).seq
    (DoublesChecked.required_float fs "max_y")

theorem Coordinate.check_doublesChecked (fs : Fields) :
    DoublesChecked fs ["lon", "lat"] (Coordinate.check fs) :=
  ((DoublesChecked.required_float fs "lon").map Coordinate.mk).seq
    (DoublesChecked.required_float fs "lat")

theorem DoublesChecked.wrap {α : Type} {fs : Fields} {names : List String} {x : Checked α}
    (checked : DoublesChecked fs names x) (wrap : α → MetricValue) :
    (∃ m, wrap <$> x.toOutcome = .ok (wrap m)) ∨
      ∃ ls, wrap <$> x.toOutcome = .error (.invalid ls) ∧ MissingDoubles fs names ls := by
  cases x with
  | ok m => exact .inl ⟨m, rfl⟩
  | failed ls => exact .inr ⟨ls, rfl, checked⟩

/-! ## The value of a result read from its members -/

theorem AggResult.check_extra_get? {fs : Members} {a : AggResult} (read : AggResult.check fs = .ok a)
    {k : String} (unread : k ∉ AggResult.fieldNames) : a.extra.get? k = fs.get? k := by
  rw [(AggResult.check_ok read).1, extraMembers]
  exact Members.get?_filter_of_keeps (by simpa using unread) fs

/-- What the value of a result with a bounds object of corners `topLeft` and `bottomRight` is:
when both corners can be looked up, a box or a validation failure at coordinates that are
missing or not numeric; else the first corner that cannot be looked up stops the reading,
named by its type. -/
def BoundsValue (topLeft bottomRight : Value) (r : Outcome MetricValue) : Prop :=
  if topLeft.lookupable then
    if bottomRight.lookupable then
      (∃ e, r = .ok (.box e)) ∨ ∃ ls, r = .error (.invalid ls) ∧
        MissingDoubles (boxFields topLeft bottomRight) ["min_x", "max_x", "min_y", "max_y"] ls
    else r = .error (.noMembers bottomRight.typeName)
  else r = .error (.noMembers topLeft.typeName)

theorem AggResult.value_boundsValue {a : AggResult} {bounds : Members}
    (given : a.extra.get? "bounds" = some (.obj bounds)) :
    BoundsValue (corner bounds "top_left") (corner bounds "bottom_right") a.value := by
  unfold BoundsValue
  split
  · rename_i topLeft
    split
    · rename_i bottomRight
      rw [AggResult.value_of_bounds given topLeft bottomRight]
      exact (Envelope.check_doublesChecked _).wrap .box
    · rename_i bottomRight
      exact AggResult.value_of_bottomRight_fault given topLeft (by simpa using bottomRight)
  · rename_i topLeft
    exact AggResult.value_of_topLeft_fault given (by simpa using topLeft)

/-- The value of every result the decoder accepts, by the precedence of its members: a `bounds`
object gives a box, failing only at missing or non-numeric coordinates or at a corner that is
neither an object nor falsy; else a `location` object gives a point, failing only at missing or
non-numeric coordinates; else the `value` member is the value, even when null; else the members
no field reads are, or null when there are none. -/
theorem metric_value_cases {fs : Members} {a : AggResult} (read : AggResult.check fs = .ok a) :
    (∀ bounds, fs.get? "bounds" = some (.obj bounds) →
      BoundsValue (corner bounds "top_left") (corner bounds "bottom_right") a.value) ∧
    ((∀ bounds, fs.get? "bounds" ≠ some (.obj bounds)) →
      ∀ location, fs.get? "location" = some (.obj location) →
        (∃ c, a.value = .ok (.point c)) ∨
          ∃ ls, a.value = .error (.invalid ls) ∧
            MissingDoubles (pointFields location) ["lon", "lat"] ls) ∧
    ((∀ bounds, fs.get? "bounds" ≠ some (.obj bounds)) →
      (∀ location, fs.get? "location" ≠ some (.obj location)) →
        (∀ v, fs.get? "value" = some v → a.value = .ok (.plain v)) ∧
        (fs.get? "value" = none →
          a.value = .ok (.plain (if a.extra.isEmpty then .null else .obj a.extra)))) := by
  have bounds := AggResult.check_extra_get? read (k := "bounds") (by decide)
  have location := AggResult.check_extra_get? read (k := "location") (by decide)
  have value := AggResult.check_extra_get? read (k := "value") (by decide)
  refine ⟨fun b given => AggResult.value_boundsValue (bounds.trans given), ?_, ?_⟩
  · intro noBounds l given
    rw [AggResult.value_of_location (bounds ▸ noBounds) (location.trans given)]
    exact (Coordinate.check_doublesChecked _).wrap .point
  · intro noBounds noLocation
    rw [AggResult.value_of_plain (bounds ▸ noBounds) (location ▸ noLocation), value]
    exact ⟨fun v given => by rw [given]; rfl, fun given => by rw [given]; rfl⟩

/-- A result whose bounds have a null lower-right corner is read, and both its corners can be
looked up: its value is a box or a validation failure at the coordinates the null corner leaves
missing. -/
theorem null_corner_bounds_value :
    ∃ a, AggResult.check [("bounds", .obj [("top_left", .obj [("lat", .float 61.3),
        ("lon", .float (-155.7))]), ("bottom_right", .null)])] = .ok a ∧
      BoundsValue (.obj [("lat", .float 61.3), ("lon", .float (-155.7))]) .null a.value := by
  obtain ⟨a, read⟩ : ∃ a, AggResult.check [("bounds", .obj [("top_left", .obj [("lat", .float 61.3),
      ("lon", .float (-155.7))]), ("bottom_right", .null)])] = .ok a := ⟨_, rfl⟩
  exact ⟨a, read, (metric_value_cases read).1 _ rfl⟩

/-- A bounds object whose upper-left corner is an array stops with an attribute error naming
the array type, not with a validation error. -/
theorem array_corner_has_no_members :
    ∃ a, AggResult.check [("bounds", .obj [("bottom_right", .obj [("lat", .int 4), ("lon", .int 3)]),
        ("top_left", .list [.int 1])])] = .ok a ∧
      a.value = .error (.noMembers "list") ∧ (Fault.noMembers "list").kind = "AttributeError" :=
  ⟨_, rfl, rfl, rfl⟩

/-! ## Corners and origins read back -/

theorem AggResult.check_of_unread {fs : Members} (unread : ∀ m ∈ fs, m.1 ∉ AggResult.fieldNames) :
    AggResult.check fs = .ok { extra := fs } := by
  have absent : ∀ k ∈ AggResult.fieldNames, fs.get? k = none := by
    intro k field
    induction fs with
    | nil => rfl
    | cons m rest ih =>
      have other : m.1 ≠ k := fun same => unread m List.mem_cons_self (same ▸ field)
      simpa [Members.get?, other] using ih fun n mem => unread n (List.mem_cons_of_mem _ mem)
  have kept : extraMembers fs AggResult.fieldNames = fs :=
    List.filter_eq_self.mpr fun m mem => by simpa using unread m mem
  unfold AggResult.fieldNames statNames at absent kept
  simp only [List.mem_append, List.mem_cons, List.not_mem_nil, or_false] at absent
  simp only [List.cons_append, List.nil_append] at kept
  simp [AggResult.check, Model.optional, Members.contains_eq_isSome, statNames, absent, kept,
    Seq.seq, Checked.seq, Functor.map, Checked.map, pure]

theorem AggResult.value_of_corner_objects {a : AggResult} {bounds topLeft bottomRight : Members}
    {e : Envelope} (given : a.extra.get? "bounds" = some (.obj bounds))
    (upper : bounds.get? "top_left" = some (.obj topLeft))
    (lower : bounds.get? "bottom_right" = some (.obj bottomRight))
    (minX : topLeft.get? "lon" = some (.float e.minX)) (maxY : topLeft.get? "lat" = some (.float e.maxY))
    (maxX : bottomRight.get? "lon" = some (.float e.maxX))
    (minY : bottomRight.get? "lat" = some (.float e.minY)) :
    a.value = .ok (.box e) := by
  rw [AggResult.value_of_bounds given (by simp [corner, upper, Value.lookupable])
    (by simp [corner, lower, Value.lookupable])]
  simp only [boxFields, corner, upper, lower, Option.getD_some, Value.get?, Value.members, minX,
    maxY, maxX, minY]
  rfl

theorem AggResult.value_of_point_object {a : AggResult} {location : Members} {p : Coordinate}
    (noBounds : ∀ bounds, a.extra.get? "bounds" ≠ some (.obj bounds))
    (given : a.extra.get? "location" = some (.obj location))
    (lon : location.get? "lon" = some (.float p.lon)) (lat : location.get? "lat" = some (.float p.lat)) :
    a.value = .ok (.point p) := by
  rw [AggResult.value_of_location noBounds given]
  simp only [pointFields, lon, lat, Option.getD_some]
  rfl

/-- The corners a bounding-box query writes for a box, given as the bounds of a result, read
back as the box; the origin a distance aggregation writes for a point, given as the location of
a result, reads back as the point. -/
theorem geo_shapes_read_back (field : String) (e : Envelope) (ctx : Context) (key : String)
    (p : Coordinate) (unit : Option String) (ranges : List KeyedRange) :
    (∃ corners, (Engine.Query.geoBox field e).toJson? =
        some (.obj [("geo_bounding_box", .obj [(field, corners)])]) ∧
      ∃ a, AggResult.check [("bounds", corners)] = .ok a ∧ a.value = .ok (.box e)) ∧
    (∃ body origin, Operation.body ctx key (.geoDistance field p unit ranges) =
        .ok (some ("geo_distance", body)) ∧ body.get? "origin" = some origin ∧
      ∃ a, AggResult.check [("location", origin)] = .ok a ∧ a.value = .ok (.point p)) := by
  refine ⟨⟨_, rfl, _, AggResult.check_of_unread (by simp [AggResult.fieldNames, statNames]), ?_⟩,
    ⟨_, _, rfl, rfl, _, AggResult.check_of_unread (by simp [AggResult.fieldNames, statNames]), ?_⟩⟩
  · exact AggResult.value_of_corner_objects rfl rfl rfl rfl rfl rfl rfl
  · exact AggResult.value_of_point_object (fun _ found => by simp [Members.get?] at found) rfl rfl rfl

end PortableSearch
