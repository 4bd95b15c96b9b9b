import PortableSearch.Proofs.ReplyMembers

/-! The two shapes of a bucket container read alike: an array of bucket objects with their `key`
members, and an object from key to bucket, whose member names are read as keys
(`keyed_buckets_read_as_listed`). -/

namespace PortableSearch

open PortableSearch.Model

/-! ## Lookups past a removed or set member -/

namespace Members

theorem contains_eq_isSome (ms : Members) (k : String) : ms.contains k = (ms.get? k).isSome := by
  induction ms with
  | nil => rfl
  | cons m rest ih =>
    by_cases named : m.1 = k
    · simp [contains, get?, named]
    · simp [contains, get?, named, ih]

theorem get?_filter_of_keeps {p : String × Value → Bool} {k : String}
    (keeps : ∀ w, p (k, w) = true) (ms : Members) : get? (ms.filter p) k = ms.get? k := by
  induction ms with
  | nil => rfl
  | cons m rest ih =>
    by_cases named : m.1 = k
    · obtain ⟨name, w⟩ := m
      simp only at named
      subst named
      simp [keeps, get?]
    · -- the member is skipped by the lookup whether or not the filter keeps it
      by_cases kept : p m = true <;> simp [kept, get?, named, ih]

theorem get?_erase_of_ne (ms : Members) {k j : String} (differ : j ≠ k) :
    (ms.erase k).get? j = ms.get? j :=
  get?_filter_of_keeps (by simpa using differ) ms

theorem filter_put_of_drops {p : String × Value → Bool} {k : String}
    (drops : ∀ w, p (k, w) = false) (ms : Members) (v : Value) :
    (ms.put k v).filter p = ms.filter p := by
  induction ms with
  | nil => simp [put, drops]
  | cons m rest ih =>
    by_cases named : m.1 = k
    · obtain ⟨name, w⟩ := m
      simp only at named
      subst named
      simp [put, drops]
    · simp [put, named, List.filter_cons, ih]

end Members

theorem extraMembers_put_of_mem {used : List String} {k : String} (read : k ∈ used)
    (ms : Members) (v : Value) : extraMembers (ms.put k v) used = extraMembers ms used :=
  Members.filter_put_of_drops (by simp [read]) ms v

theorem extraMembers_put_erase {used : List String} {k : String} (read : k ∈ used)
    (ms : Members) (v : Value) : extraMembers ((ms.erase k).put k v) used = extraMembers ms used := by
  rw [extraMembers_put_of_mem read, extraMembers, extraMembers, Members.erase, List.filter_filter]
  refine List.filter_congr fun m _ => ?_
  by_cases named : m.1 = k
  · simp [named, read]
  · simp [named]

/-! ## One bucket -/

theorem keyText_of_ne_null {v : Value} (set : v ≠ .null) : keyText v = .str v.display := by
  cases v
  case null => exact absurd rfl set
  case str s => simp [keyText, Value.display]
  all_goals rfl

theorem Bucket.check_put_erase_key {b : Members} {v : Value} (given : b.get? "key" = some v)
    (set : v ≠ .null) :
    Bucket.check ((b.erase "key").put "key" (.str v.display)) = Bucket.check b := by
  have others : ∀ j, j ≠ "key" → ((b.erase "key").put "key" (.str v.display)).get? j = b.get? j :=
    fun j differ => by rw [Members.get?_put, if_neg differ, Members.get?_erase_of_ne _ differ]
  have lower : memberOf ((b.erase "key").put "key" (.str v.display)) "from" "from_" =
      memberOf b "from" "from_" := by
    simp only [memberOf, Members.contains_eq_isSome, others "from" (by decide)]
  have lowerOther : memberOf b "from" "from_" ≠ "key" := by
    unfold memberOf
    split <;> decide
  simp only [Bucket.check, lower, Model.optional, withDefault]
  rw [Members.get?_put, if_pos rfl, given, others "key_as_string" (by decide),
    others "doc_count" (by decide), others _ lowerOther, others "to" (by decide),
    extraMembers_put_erase (by simp) b (.str v.display)]
  simp only [keyText_of_ne_null set]
  rfl

/-! ## The buckets of a result -/

theorem eachItem_map_congr {α β : Type} {f : Value → Checked α} {g h : β → Value} {xs : List β}
    (agree : ∀ x ∈ xs, f (g x) = f (h x)) (i : Nat) :
    eachItem f (xs.map g) i = eachItem f (xs.map h) i := by
  induction xs generalizing i with
  | nil => rfl
  | cons x rest ih =>
    simp only [List.map_cons, eachItem]
    rw [agree x List.mem_cons_self, ih (fun y mem => agree y (List.mem_cons_of_mem _ mem))]

/-- An aggregation result reads its `buckets` member only through the bucket values it lists:
two containers listing values whose buckets read alike give the same result. -/
theorem AggResult.check_put_buckets_congr (fs : Members) {v w : Value} {xs ys : List Value}
    (listedV : bucketList v = .ok (some xs)) (listedW : bucketList w = .ok (some ys))
    (items : eachItem (objectOf Bucket.check) xs 0 = eachItem (objectOf Bucket.check) ys 0) :
    AggResult.check (fs.put "buckets" v) = AggResult.check (fs.put "buckets" w) := by
  have used : "buckets" ∈ ["buckets", "doc_count", "doc_count_error_upper_bound",
      "sum_other_doc_count", "count"] ++ statNames := by simp
  have stats : ∀ u, statNames.any (fs.put "buckets" u).contains = statNames.any fs.contains := by
    intro u
    simp [statNames, Members.contains_eq_isSome, Members.get?_put]
  simp only [AggResult.check, Model.optional, Members.get?_put, extraMembers_put_of_mem used, stats]
  simp only [↓reduceIte, String.reduceEq, listedV, listedW, Checked.andThen, items]

/-- The keyed container of a list of buckets: each bucket without its key member, under the
display text of its key. -/
def keyedBuckets (bs : List Members) : Value :=
  .obj (bs.map fun b => (((b.get? "key").getD .null).display, .obj (b.erase "key")))

theorem bucketList_keyedBuckets (bs : List Members) :
    bucketList (keyedBuckets bs) = .ok (some (bs.map fun b =>
      .obj ((b.erase "key").put "key" (.str ((b.get? "key").getD .null).display)))) := by
  simp [keyedBuckets, bucketList]

/-- A result reads its buckets alike from a keyed container and from the array of the same
buckets, when each bucket sets its key: the results are the same, or fail at the same
locations. -/
theorem keyed_buckets_read_as_listed (fs : Members) (bs : List Members)
    (keyed : ∀ b ∈ bs, ∃ v, b.get? "key" = some v ∧ v ≠ .null) :
    AggResult.check (fs.put "buckets" (keyedBuckets bs)) =
      AggResult.check (fs.put "buckets" (.list (bs.map .obj))) := by
  refine AggResult.check_put_buckets_congr fs (bucketList_keyedBuckets bs) rfl
    (eachItem_map_congr (fun b mem => ?_) 0)
  obtain ⟨v, given, set⟩ := keyed b mem
  simp only [objectOf, given, Option.getD_some]
  exact Bucket.check_put_erase_key given set

/-- A date bucket keyed by its epoch milliseconds and a bucket keyed by a boolean, carrying a
child result, read alike from both containers. -/
theorem numeric_and_boolean_keys_read_alike :
    (∀ b ∈ [[("key", .int 1416268800000), ("key_as_string", .str "2014-11-18"), ("doc_count", .int 4)],
        [("doc_count", .int 38), ("key", .bool true), ("mag_stats", .obj [("count", .int 38)])]],
        ∃ v, Members.get? b "key" = some v ∧ v ≠ .null) ∧
      AggResult.check (Members.put [("sum_other_doc_count", .int 0)] "buckets" (keyedBuckets
        [[("key", .int 1416268800000), ("key_as_string", .str "2014-11-18"), ("doc_count", .int 4)],
          [("doc_count", .int 38), ("key", .bool true), ("mag_stats", .obj [("count", .int 38)])]])) =
        AggResult.check (Members.put [("sum_other_doc_count", .int 0)] "buckets" (.list
          ([[("key", .int 1416268800000), ("key_as_string", .str "2014-11-18"), ("doc_count", .int 4)],
            [("doc_count", .int 38), ("key", .bool true),
              ("mag_stats", .obj [("count", .int 38)])]].map .obj))) := by
  have keyed : ∀ b ∈ [[("key", .int 1416268800000), ("key_as_string", .str "2014-11-18"),
      ("doc_count", .int 4)], [("doc_count", .int 38), ("key", .bool true),
      ("mag_stats", .obj [("count", .int 38)])]], ∃ v, Members.get? b "key" = some v ∧ v ≠ .null := by
    simp [Members.get?]
  exact ⟨keyed, keyed_buckets_read_as_listed _ _ keyed⟩

end PortableSearch
