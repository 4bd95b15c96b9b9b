import Mathlib.Data.List.Forall2
import PortableSearch.Reply.Read
import PortableSearch.Proofs.DistinctNames

/-! Decoding a reply loses no member at the levels that keep the rest: the reply, its shard counts,
each hit, each aggregation result and bucket, to any depth. Every member populates a field or is
among the level's extra members, in order and unchanged (`Kept`). -/

namespace PortableSearch

open PortableSearch.Model

/-! ## Kept members -/

/-- The members `fs` of one level of a reply are kept by the extra members `extra` when its fields
read the names `read`: no name is given twice, and the extra members are those that no field
reads, in order and unchanged. -/
structure Kept (fs : Members) (read : List String) (extra : Members) : Prop where
  distinct : (fs.map Prod.fst).Nodup
  extra_eq : extra = fs.filter fun m => m.1 ∉ read

theorem Kept.of_distinct {fs : Members} {read : List String} {extra : Members}
    (distinct : (Value.obj fs).Distinct) (unread : extra = extraMembers fs read) :
    Kept fs read extra :=
  ⟨distinct.of_obj.1, by simp [unread, extraMembers]⟩

theorem filter_name_eq_singleton {fs : Members} (distinct : (fs.map Prod.fst).Nodup)
    {m : String × Value} (mem : m ∈ fs) : fs.filter (·.1 = m.1) = [m] := by
  induction fs with
  | nil => cases mem
  | cons n rest ih =>
    rw [List.map_cons, List.nodup_cons] at distinct
    rcases List.mem_cons.mp mem with rfl | later
    · -- no later member has the name of the first
      have none : rest.filter (·.1 = m.1) = [] :=
        List.filter_eq_nil_iff.mpr fun x xmem same => distinct.1 (by
          simpa [of_decide_eq_true same] using List.mem_map_of_mem (f := Prod.fst) xmem)
      simp [none]
    · have differ : n.1 ≠ m.1 := fun same => distinct.1 (same ▸ List.mem_map_of_mem later)
      simp [differ, ih distinct.2 later]

/-- Every member of a kept level is represented exactly once: it populates a field and no extra
member has its name, or it is the one extra member of its name. -/
theorem Kept.represented {fs : Members} {read : List String} {extra : Members}
    (kept : Kept fs read extra) {m : String × Value} (mem : m ∈ fs) :
    (m.1 ∈ read ∧ ∀ v, (m.1, v) ∉ extra) ∨ (m.1 ∉ read ∧ extra.filter (·.1 = m.1) = [m]) := by
  rw [kept.extra_eq]
  by_cases field : m.1 ∈ read
  · exact .inl ⟨field, fun v kept => by simp [field] at kept⟩
  · refine .inr ⟨field, ?_⟩
    rw [List.filter_filter, ← filter_name_eq_singleton kept.distinct mem]
    exact List.filter_congr fun x _ => by by_cases same : x.1 = m.1 <;> simp [same, field]

/-! ## Reading a checked value back -/

namespace Checked

variable {α β : Type}

theorem map_eq_ok {f : α → β} {x : Checked α} {b : β} :
    f <$> x = .ok b ↔ ∃ a, x = .ok a ∧ f a = b := by
  cases x <;> simp [Functor.map, Checked.map]

theorem seq_eq_ok {f : Checked (α → β)} {x : Checked α} {b : β} :
    f <*> x = .ok b ↔ ∃ g a, f = .ok g ∧ x = .ok a ∧ g a = b := by
  cases f <;> cases x <;> simp [Seq.seq, Checked.seq]

theorem pure_eq_ok {a b : α} : (pure a : Checked α) = .ok b ↔ a = b := by
  simp [pure]

theorem under_eq_ok {x : Checked α} {s : Step} {a : α} : x.under s = .ok a ↔ x = .ok a := by
  cases x <;> simp [Checked.under]

theorem andThen_eq_ok {x : Checked α} {f : α → Checked β} {b : β} :
    x.andThen f = .ok b ↔ ∃ a, x = .ok a ∧ f a = .ok b := by
  cases x <;> simp [Checked.andThen]

end Checked

/-! ## Fields and the names they read -/

/-- The names the fields of a reply read: `_shards` and `_scroll_id` when given, else `shards`
and `scroll_id`. -/
def Reply.fieldNames (fs : Members) : List String :=
  ["took", "timed_out", memberOf fs "_shards" "shards", memberOf fs "_scroll_id" "scroll_id",
    "hits", "aggregations"]

def ShardCounts.fieldNames : List String := ["total", "successful", "failed"]

def Hit.fieldNames (fs : Members) : List String :=
  [memberOf fs "_index" "index", memberOf fs "_type" "type", memberOf fs "_id" "id",
    memberOf fs "_score" "score", memberOf fs "_source" "source", "fields"]

def Bucket.fieldNames (fs : Members) : List String :=
  ["key", "key_as_string", "doc_count", memberOf fs "from" "from_", "to"]

def AggResult.fieldNames : List String :=
  ["buckets", "doc_count", "doc_count_error_upper_bound", "sum_other_doc_count", "count"] ++
    statNames

/-! ## Reading fields -/

namespace Model

theorem withDefault_ok {α : Type} {fs : Fields} {k : String} {d a : α} {f : Value → Checked α}
    {v : Value} (read : withDefault fs k d f = .ok a) (given : Members.get? fs k = some v) :
    f v = .ok a := by
  simpa [withDefault, given, Checked.under_eq_ok] using read

theorem required_ok {α : Type} {fs : Fields} {k : String} {a : α} {f : Value → Checked α}
    (read : required fs k f = .ok a) : ∃ v, Members.get? fs k = some v ∧ f v = .ok a := by
  unfold required at read
  cases given : Members.get? fs k with
  | none => simp [given] at read
  | some v => exact ⟨v, rfl, by simpa [given, Checked.under_eq_ok] using read⟩

theorem objectOf_ok {α : Type} {check : Fields → Checked α} {v : Value} {a : α}
    (read : objectOf check v = .ok a) : ∃ ms, v = .obj ms ∧ check ms = .ok a := by
  cases v <;> simp_all [objectOf, Checked.here]

theorem eachItem_ok {α : Type} {f : Value → Checked α} :
    ∀ {xs : List Value} {i : Nat} {ys : List α}, eachItem f xs i = .ok ys →
      List.Forall₂ (fun x y => f x = .ok y) xs ys
  | [], _, _, read => by
    simp only [eachItem, Checked.ok.injEq] at read
    exact read ▸ .nil
  | x :: rest, i, ys, read => by
    simp only [eachItem, Checked.seq_eq_ok, Checked.map_eq_ok, Checked.under_eq_ok] at read
    obtain ⟨_, later, ⟨y, first, rfl⟩, others, rfl⟩ := read
    exact .cons first (eachItem_ok others)

theorem eachMember_ok {α : Type} {f : Value → Checked α} :
    ∀ {ms : Members} {ys : List (String × α)}, eachMember f ms = .ok ys →
      List.Forall₂ (fun m y => y.1 = m.1 ∧ f m.2 = .ok y.2) ms ys
  | [], _, read => by
    simp only [eachMember, Checked.ok.injEq] at read
    exact read ▸ .nil
  | (k, v) :: rest, ys, read => by
    simp only [eachMember, Checked.seq_eq_ok, Checked.map_eq_ok, Checked.under_eq_ok] at read
    obtain ⟨_, later, ⟨⟨_, y⟩, mapped, rfl⟩, others, rfl⟩ := read
    cases value : f v with
    | failed ls => simp [value, Checked.map] at mapped
    | ok a =>
      simp only [value, Checked.map, Checked.ok.injEq, Prod.mk.injEq] at mapped
      obtain ⟨rfl, rfl⟩ := mapped
      exact .cons ⟨rfl, value⟩ (eachMember_ok others)

end Model

theorem forall₂_of_mem_imp {α β : Type} {R S : α → β → Prop} :
    ∀ {xs : List α} {ys : List β}, (∀ x ∈ xs, ∀ y, R x y → S x y) → List.Forall₂ R xs ys →
      List.Forall₂ S xs ys
  | _, _, _, .nil => .nil
  | _, _, imp, .cons first rest =>
    .cons (imp _ List.mem_cons_self _ first)
      (forall₂_of_mem_imp (fun x mem => imp x (List.mem_cons_of_mem _ mem)) rest)

theorem Members.mem_of_get? {ms : Members} {k : String} {v : Value} (found : ms.get? k = some v) :
    (k, v) ∈ ms := by
  induction ms with
  | nil => cases found
  | cons m rest ih =>
    unfold get? at found
    split at found
    · rename_i same
      cases found
      exact same ▸ List.mem_cons_self
    · exact List.mem_cons_of_mem _ (ih found)

theorem Value.Inside.trans {u v w : Value} (inner : u.Inside v) (outer : v.Inside w) : u.Inside w := by
  induction outer with
  | refl => exact inner
  | member mem _ ih => exact .member mem ih
  | item mem _ ih => exact .item mem ih

theorem Value.inside_of_get? {ms : Members} {k : String} {v : Value} (found : ms.get? k = some v) :
    v.Inside (.obj ms) :=
  .member (m := (k, v)) (Members.mem_of_get? found) .refl

/-! ## What each level reads -/

theorem ShardCounts.check_extra {fs : Members} {s : ShardCounts}
    (checked : ShardCounts.check fs = .ok s) : s.extra = extraMembers fs ShardCounts.fieldNames := by
  simp only [ShardCounts.check, Checked.seq_eq_ok, Checked.map_eq_ok] at checked
  obtain ⟨_, _, ⟨_, _, ⟨_, -, rfl⟩, -, rfl⟩, -, rfl⟩ := checked
  rfl

-- Each check builds its record from its fields with the extra members last; peeling the
-- applicative chain from the last field back leaves the record built from them.

theorem Hit.check_extra {fs : Members} {h : Hit} (checked : Hit.check fs = .ok h) :
    h.extra = extraMembers fs (Hit.fieldNames fs) := by
  simp only [Hit.check, Checked.seq_eq_ok, Checked.map_eq_ok, Checked.pure_eq_ok] at checked
  obtain ⟨_, _, ⟨_, _, ⟨_, _, ⟨_, _, ⟨_, _, ⟨_, _, ⟨_, -, rfl⟩, -, rfl⟩, -, rfl⟩, -, rfl⟩, -, rfl⟩,
    -, rfl⟩, rfl, rfl⟩ := checked
  rfl

theorem Bucket.check_extra {fs : Members} {b : Bucket} (checked : Bucket.check fs = .ok b) :
    b.extra = extraMembers fs (Bucket.fieldNames fs) := by
  simp only [Bucket.check, Checked.seq_eq_ok, Checked.map_eq_ok, Checked.pure_eq_ok] at checked
  obtain ⟨_, _, ⟨_, _, ⟨_, _, ⟨_, _, ⟨_, _, ⟨_, -, rfl⟩, -, rfl⟩, -, rfl⟩, -, rfl⟩, -, rfl⟩,
    rfl, rfl⟩ := checked
  rfl

theorem AggResult.check_ok {fs : Members} {a : AggResult} (checked : AggResult.check fs = .ok a) :
    a.extra = extraMembers fs AggResult.fieldNames ∧
      ∀ bs, a.buckets = some bs → ∃ v xs, Members.get? fs "buckets" = some v ∧
        bucketList v = .ok (some xs) ∧ eachItem (objectOf Bucket.check) xs 0 = .ok bs := by
  simp only [AggResult.check, Checked.seq_eq_ok, Checked.map_eq_ok, Checked.pure_eq_ok] at checked
  obtain ⟨_, _, ⟨_, _, ⟨_, _, ⟨_, _, ⟨_, _, ⟨_, _, ⟨_, _, ⟨_, _, ⟨_, _, ⟨_, _,
    ⟨buckets, read, rfl⟩, -, rfl⟩, -, rfl⟩, -, rfl⟩, -, rfl⟩, -, rfl⟩, -, rfl⟩, -, rfl⟩, -, rfl⟩,
    rfl, rfl⟩, rfl, rfl⟩ := checked
  refine ⟨rfl, fun bs given => ?_⟩
  change buckets = some bs at given
  subst given
  cases member : Members.get? fs "buckets" with
  | none => simp [member] at read
  | some v =>
    simp only [member, Checked.under_eq_ok, Checked.andThen_eq_ok] at read
    obtain ⟨listed, shape, items⟩ := read
    cases listed with
    | none => cases items
    | some xs =>
      cases each : eachItem (objectOf Bucket.check) xs 0 with
      | failed ls => simp [each, Checked.map] at items
      | ok ys =>
        simp only [each, Checked.map, Checked.ok.injEq, Option.some.injEq] at items
        exact ⟨v, xs, rfl, shape, items ▸ each⟩

theorem Reply.check_ok {fs : Members} {r : Reply} (checked : Reply.check fs = .ok r) :
    r.extra = extraMembers fs (Reply.fieldNames fs) ∧
      withDefault fs (memberOf fs "_shards" "shards") {} (objectOf ShardCounts.check) = .ok r.shards ∧
      required fs "hits" (objectOf Hits.check) = .ok r.hits ∧
      withDefault fs "aggregations" [] (mapOf (objectOf AggResult.check)) = .ok r.aggregations := by
  simp only [Reply.check, Checked.seq_eq_ok, Checked.map_eq_ok, Checked.pure_eq_ok] at checked
  obtain ⟨_, _, ⟨_, _, ⟨_, _, ⟨_, _, ⟨_, _, ⟨_, _, ⟨_, -, rfl⟩, -, rfl⟩, shards, rfl⟩, -, rfl⟩,
    hits, rfl⟩, aggregations, rfl⟩, rfl, rfl⟩ := checked
  exact ⟨rfl, shards, hits, aggregations⟩

/-! ## Buckets and child results -/

theorem bucketList_object {v : Value} {xs : List Value} (listed : bucketList v = .ok (some xs))
    {bfs : Members} (mem : Value.obj bfs ∈ xs) :
    (v.Distinct → (Value.obj bfs).Distinct) ∧
      ∀ k ms, (k, Value.obj ms) ∈ bfs → (Value.obj ms).Inside v := by
  cases v
  case list items =>
    simp only [bucketList, Checked.ok.injEq, Option.some.injEq] at listed
    subst listed
    have bucket : (Value.obj bfs).Inside (.list _) := .item mem .refl
    exact ⟨fun distinct => distinct.inside bucket,
      fun k ms member => Value.Inside.trans (.member (m := (k, .obj ms)) member .refl) bucket⟩
  case obj keyed =>
    simp only [bucketList, Checked.ok.injEq, Option.some.injEq] at listed
    subst listed
    obtain ⟨⟨name, b⟩, source, made⟩ := List.mem_map.mp mem
    cases b
    case obj bs =>
      simp only [Value.obj.injEq] at made
      subst made
      have bucket : (Value.obj bs).Inside (.obj keyed) := .member source .refl
      refine ⟨fun distinct => (distinct.inside bucket).put "key" (.leaf rfl), fun k ms member => ?_⟩
      rcases Members.mem_put member with kept | named
      · exact Value.Inside.trans (.member (m := (k, .obj ms)) kept .refl) bucket
      · simp at named
    all_goals cases made
  all_goals simp [bucketList, Checked.here] at listed

theorem mapM_ok_mem {α β : Type} {f : α → Outcome β} :
    ∀ {xs : List α} {ys : List β}, xs.mapM f = .ok ys → ∀ y ∈ ys, ∃ x ∈ xs, f x = .ok y
  | [], ys, read => by
    simp only [List.mapM_nil, pure, Except.pure, Except.ok.injEq] at read
    subst read
    simp
  | x :: rest, ys, read => by
    rw [List.mapM_cons] at read
    cases first : f x with
    | error e => simp [first, bind, Except.bind] at read
    | ok y =>
      cases others : rest.mapM f with
      | error e => simp [first, others, bind, Except.bind] at read
      | ok zs =>
        simp only [first, others, bind, Except.bind, pure, Except.pure, Except.ok.injEq] at read
        subst read
        intro z mem
        rcases List.mem_cons.mp mem with rfl | later
        · exact ⟨x, List.mem_cons_self, first⟩
        · obtain ⟨w, within, read⟩ := mapM_ok_mem others z later
          exact ⟨w, List.mem_cons_of_mem _ within, read⟩

theorem Bucket.subAggregations_ok {b : Bucket} {subs : List (String × AggResult)}
    (read : b.subAggregations = .ok subs) :
    ∀ k c, (k, c) ∈ subs → ∃ ms, (k, Value.obj ms) ∈ b.extra ∧ AggResult.check ms = .ok c := by
  intro k c mem
  obtain ⟨⟨name, ms⟩, source, step⟩ := mapM_ok_mem read _ mem
  obtain ⟨⟨name', v⟩, extra, picked⟩ := List.mem_filterMap.mp source
  cases v
  case obj ms' =>
    simp only [Option.some.injEq, Prod.mk.injEq] at picked
    obtain ⟨rfl, rfl⟩ := picked
    cases checked : AggResult.check ms' with
    | ok a =>
      simp only [checked, Except.ok.injEq, Prod.mk.injEq] at step
      obtain ⟨rfl, rfl⟩ := step
      exact ⟨ms', extra, checked⟩
    | failed ls => simp [checked] at step
  all_goals cases picked

theorem exists_of_forall₂_mem_right {α β : Type} {R : α → β → Prop} :
    ∀ {xs : List α} {ys : List β}, List.Forall₂ R xs ys → ∀ y ∈ ys, ∃ x ∈ xs, R x y
  | _, _, .nil, _, mem => by cases mem
  | _, _, .cons first rest, y, mem => by
    rcases List.mem_cons.mp mem with rfl | later
    · exact ⟨_, List.mem_cons_self, first⟩
    · obtain ⟨x, within, related⟩ := exists_of_forall₂_mem_right rest y later
      exact ⟨x, List.mem_cons_of_mem _ within, related⟩

/-! ## Aggregation results at every depth -/

/-- What an aggregation result `a` read from the members `fs` keeps: its own members, and those of
each bucket object its buckets are read from; each child result of a bucket is read from one of
its extra members. -/
structure ResultKept (fs : Members) (a : AggResult) : Prop where
  result : Kept fs AggResult.fieldNames a.extra
  buckets : ∀ bs, a.buckets = some bs → ∃ v xs, Members.get? fs "buckets" = some v ∧
    bucketList v = .ok (some xs) ∧
    List.Forall₂ (fun x b => ∃ bfs, x = .obj bfs ∧ Kept bfs (Bucket.fieldNames bfs) b.extra) xs bs
  children : ∀ b ∈ a.buckets.getD [], ∀ subs, b.subAggregations = .ok subs →
    ∀ k c, (k, c) ∈ subs → ∃ ms, (k, Value.obj ms) ∈ b.extra ∧ AggResult.check ms = .ok c

/-- The members `fs` of an aggregation result are kept at every depth: the result read from them
keeps them as `ResultKept` says, and so, in turn, does every object among the extra members of
its buckets, from which the child results are read. -/
inductive KeptResult : Members → Prop
  | mk {fs : Members} (levels : ∀ a, AggResult.check fs = .ok a → ResultKept fs a)
      (children : ∀ a, AggResult.check fs = .ok a → ∀ b ∈ a.buckets.getD [], ∀ k ms,
        (k, Value.obj ms) ∈ b.extra → KeptResult ms) :
      KeptResult fs

theorem resultKept {fs : Members} {a : AggResult} (distinct : (Value.obj fs).Distinct)
    (checked : AggResult.check fs = .ok a) : ResultKept fs a := by
  obtain ⟨extra, buckets⟩ := AggResult.check_ok checked
  refine ⟨Kept.of_distinct distinct extra, fun bs given => ?_,
    fun b _ subs read => Bucket.subAggregations_ok read⟩
  obtain ⟨v, xs, found, listed, items⟩ := buckets bs given
  have member : v.Distinct := distinct.inside (Value.inside_of_get? found)
  refine ⟨v, xs, found, listed, forall₂_of_mem_imp (fun x mem b read => ?_) (Model.eachItem_ok items)⟩
  obtain ⟨bfs, rfl, bucket⟩ := Model.objectOf_ok read
  exact ⟨bfs, rfl, Kept.of_distinct ((bucketList_object listed mem).1 member) (Bucket.check_extra bucket)⟩

theorem child_inside {fs : Members} {a : AggResult} (checked : AggResult.check fs = .ok a)
    {b : Bucket} (bucket : b ∈ a.buckets.getD []) {k : String} {ms : Members}
    (child : (k, Value.obj ms) ∈ b.extra) : ∃ v, ("buckets", v) ∈ fs ∧ (Value.obj ms).Inside v := by
  cases given : a.buckets with
  | none => simp [given] at bucket
  | some bs =>
    rw [given] at bucket
    obtain ⟨v, xs, found, listed, items⟩ := (AggResult.check_ok checked).2 bs given
    obtain ⟨x, mem, read⟩ := exists_of_forall₂_mem_right (Model.eachItem_ok items) b bucket
    obtain ⟨bfs, rfl, read⟩ := Model.objectOf_ok read
    rw [Bucket.check_extra read, extraMembers, List.mem_filter] at child
    exact ⟨v, Members.mem_of_get? found, (bucketList_object listed mem).2 k ms child.1⟩

/-- Every aggregation result whose members stand inside a distinct value is kept at every
depth; by induction on the distinct value, a child result standing inside the `buckets` member of
its parent. -/
theorem keptResult_of_inside {v : Value} (distinct : v.Distinct) :
    ∀ fs, (Value.obj fs).Inside v → KeptResult fs := by
  induction distinct with
  | obj names values ih =>
    intro fs inside
    cases inside with
    | refl =>
      refine .mk (fun a checked => resultKept (.obj names values) checked)
        fun a checked b bucket k ms child => ?_
      obtain ⟨w, member, within⟩ := child_inside checked bucket child
      exact ih _ member ms within
    | member mem within => exact ih _ mem fs within
  | list items ih =>
    intro fs inside
    cases inside with
    | item mem within => exact ih _ mem fs within
  | leaf plain =>
    intro fs inside
    cases inside <;> cases plain

/-! ## The reply -/

/-- What a reply `r` read from the members `fs` keeps: its own members, those of its shard counts
and of each hit, and those of each aggregation result at every depth. -/
structure ReplyKept (fs : Members) (r : Reply) : Prop where
  reply : Kept fs (Reply.fieldNames fs) r.extra
  shards : ∀ sfs, Members.get? fs (memberOf fs "_shards" "shards") = some (.obj sfs) →
    Kept sfs ShardCounts.fieldNames r.shards.extra
  hits : ∀ hs xs, Members.get? fs "hits" = some (.obj hs) → Members.get? hs "hits" = some (.list xs) →
    List.Forall₂ (fun x h => ∃ hfs, x = .obj hfs ∧ Kept hfs (Hit.fieldNames hfs) h.extra) xs r.hits.hits
  aggregations : ∀ afs, Members.get? fs "aggregations" = some (.obj afs) →
    List.Forall₂ (fun m a => a.1 = m.1 ∧ ∃ ms, m.2 = .obj ms ∧ AggResult.check ms = .ok a.2 ∧
      KeptResult ms) afs r.aggregations

theorem Hits.check_hits {fs : Members} {h : Hits} (checked : Hits.check fs = .ok h) :
    withDefault fs "hits" [] (listOf (objectOf Hit.check)) = .ok h.hits := by
  simp only [Hits.check, Checked.seq_eq_ok, Checked.map_eq_ok] at checked
  obtain ⟨_, _, ⟨_, _, ⟨_, -, rfl⟩, -, rfl⟩, hits, rfl⟩ := checked
  exact hits

theorem replyKept {fs : Members} {r : Reply} (distinct : (Value.obj fs).Distinct)
    (checked : Reply.check fs = .ok r) : ReplyKept fs r := by
  obtain ⟨extra, shards, hits, aggregations⟩ := Reply.check_ok checked
  refine ⟨Kept.of_distinct distinct extra, fun sfs found => ?_,
    fun hs xs found listed => ?_, fun afs found => ?_⟩
  · -- the shard counts
    have read : ShardCounts.check sfs = .ok r.shards := Model.withDefault_ok shards found
    exact Kept.of_distinct (distinct.inside (Value.inside_of_get? found)) (ShardCounts.check_extra read)
  · -- each hit
    obtain ⟨v, given, read⟩ := Model.required_ok hits
    rw [found, Option.some.injEq] at given
    subst given
    have read : Hits.check hs = .ok r.hits := read
    have items := Model.withDefault_ok (Hits.check_hits read) listed
    simp only [listOf] at items
    have hitsList : (Value.list xs).Inside (.obj fs) :=
      (Value.inside_of_get? listed).trans (Value.inside_of_get? found)
    refine forall₂_of_mem_imp (fun x mem h read => ?_) (Model.eachItem_ok items)
    obtain ⟨hfs, rfl, hit⟩ := Model.objectOf_ok read
    exact ⟨hfs, rfl,
      Kept.of_distinct (distinct.inside ((Value.Inside.item mem .refl).trans hitsList)) (Hit.check_extra hit)⟩
  · -- each aggregation result, at every depth
    have entries := Model.withDefault_ok aggregations found
    simp only [mapOf] at entries
    refine forall₂_of_mem_imp (fun m mem a read => ?_) (Model.eachMember_ok entries)
    obtain ⟨named, read⟩ := read
    obtain ⟨ms, shape, result⟩ := Model.objectOf_ok read
    have inside : (Value.obj ms).Inside (.obj fs) :=
      (Value.Inside.member mem (shape ▸ .refl)).trans (Value.inside_of_get? found)
    exact ⟨named, ms, shape, result, keptResult_of_inside distinct ms inside⟩

/-! ## Decoding -/

def objectOfText (text : String) : Option Members :=
  match Json.readJson text replyDialect with
  | .ok (.obj ms) => some ms
  | _ => none

/-- The object a raw reply holds as the decoder reads it: JSON text, or UTF-8 bytes of it, read as
JSON, or the object given. -/
def RawReply.object : RawReply → Option Members
  | .text s => objectOfText s
  | .bytes bs => match Text.decodeUtf8 bs with
    | .ok s => objectOfText s
    | .error _ => none
  | .parsed (.obj ms) | .wrapped (.obj ms) => some ms
  | _ => none

theorem replyOfText_ok {text : String} {r : Reply} (decoded : replyOfText text = .ok r) :
    ∃ fs, objectOfText text = some fs ∧ (Value.obj fs).Distinct ∧ Reply.check fs = .ok r := by
  unfold replyOfText at decoded
  split at decoded
  · rename_i fs read
    refine ⟨fs, by simp [objectOfText, read], Json.readJson_distinct read, ?_⟩
    split at decoded
    · rename_i checked
      cases decoded
      exact checked
    · cases decoded
  · cases decoded

theorem replyOfMembers_ok {fs : Members} {r : Reply} (decoded : replyOfMembers fs = .ok r) :
    Reply.check fs = .ok r := by
  unfold replyOfMembers at decoded
  split at decoded
  · rename_i checked
    cases decoded
    exact checked
  · cases decoded

theorem decode_ok {raw : RawReply} {r : Reply} (decoded : raw.decode = .ok r)
    (mapping : ∀ v, (raw = .parsed v ∨ raw = .wrapped v) → v.Distinct) :
    ∃ fs, raw.object = some fs ∧ (Value.obj fs).Distinct ∧ Reply.check fs = .ok r := by
  cases raw with
  | text s => exact replyOfText_ok decoded
  | bytes bs =>
    simp only [RawReply.decode] at decoded
    cases utf8 : Text.decodeUtf8 bs with
    | ok s =>
      rw [utf8] at decoded
      simpa [RawReply.object, utf8] using replyOfText_ok decoded
    | error e =>
      rw [utf8] at decoded
      cases decoded
  | parsed v =>
    cases v
    case obj fs => exact ⟨fs, rfl, mapping _ (.inl rfl), replyOfMembers_ok decoded⟩
    all_goals cases decoded
  | wrapped v =>
    cases v
    case obj fs => exact ⟨fs, rfl, mapping _ (.inr rfl), replyOfMembers_ok decoded⟩
    all_goals cases decoded

/-- Decoding a reply loses no member at the levels that keep the rest: the reply, its shard
counts, each hit, and each aggregation result and bucket at every depth keep the members their
fields do not read, in order and unchanged, each exactly once (`Kept.represented`). -/
theorem decode_keeps_members {raw : RawReply} {r : Reply} (decoded : raw.decode = .ok r)
    (mapping : ∀ v, (raw = .parsed v ∨ raw = .wrapped v) → v.Distinct) :
    ∃ fs, raw.object = some fs ∧ ReplyKept fs r := by
  obtain ⟨fs, held, distinct, checked⟩ := decode_ok decoded mapping
  exact ⟨fs, held, replyKept distinct checked⟩

/-- A reply giving its shard counts both as `_shards` and as `shards` reads the first and keeps
the second among its extra members. -/
theorem decode_keeps_shadowed_shards :
    ∃ r, (RawReply.parsed (.obj [("took", .int 3), ("hits", .obj []), ("shards", .int 2),
        ("_shards", .obj [])])).decode = .ok r ∧ r.extra = [("shards", .int 2)] ∧
      ∃ fs, (RawReply.parsed (.obj [("took", .int 3), ("hits", .obj []), ("shards", .int 2),
        ("_shards", .obj [])])).object = some fs ∧ ReplyKept fs r := by
  refine ⟨_, rfl, rfl, decode_keeps_members rfl fun v source => ?_⟩
  rcases source with given | given <;> cases given
  refine .obj (by decide) fun m mem => ?_
  simp only [List.mem_cons, List.not_mem_nil, or_false] at mem
  rcases mem with rfl | rfl | rfl | rfl
  · exact .leaf rfl
  · exact .obj (by simp) (by simp)
  · exact .leaf rfl
  · exact .obj (by simp) (by simp)

end PortableSearch
