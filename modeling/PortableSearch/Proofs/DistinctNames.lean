import PortableSearch.Json.Read

/-! Values in which no object gives a name twice, at any depth (`Value.Distinct`). Setting a member
keeps the names of an object distinct, so the JSON reader yields only distinct values. -/

namespace PortableSearch

def Value.isObjOrList : Value → Bool
  | .obj _ | .list _ => true
  | _ => false

/-- A value in which no object gives a name twice, at any depth. -/
inductive Value.Distinct : Value → Prop
  | obj {ms : Members} (names : (ms.map Prod.fst).Nodup) (values : ∀ m ∈ ms, m.2.Distinct) :
      Value.Distinct (.obj ms)
  | list {xs : List Value} (items : ∀ x ∈ xs, x.Distinct) : Value.Distinct (.list xs)
  | leaf {v : Value} (plain : v.isObjOrList = false) : Value.Distinct v

/-- `w` stands inside `v`: it is `v`, or it stands inside a member value or an item of `v`. -/
inductive Value.Inside (w : Value) : Value → Prop
  | refl : Value.Inside w w
  | member {ms : Members} {m : String × Value} : m ∈ ms → Value.Inside w m.2 →
      Value.Inside w (.obj ms)
  | item {xs : List Value} {x : Value} : x ∈ xs → Value.Inside w x → Value.Inside w (.list xs)

namespace Value.Distinct

theorem of_obj {ms : Members} (distinct : (Value.obj ms).Distinct) :
    (ms.map Prod.fst).Nodup ∧ ∀ m ∈ ms, m.2.Distinct := by
  cases distinct with
  | obj names values => exact ⟨names, values⟩
  | leaf plain => cases plain

theorem of_list {xs : List Value} (distinct : (Value.list xs).Distinct) : ∀ x ∈ xs, x.Distinct := by
  cases distinct with
  | list items => exact items
  | leaf plain => cases plain

/-- Every value inside a distinct value is distinct. -/
theorem inside {v w : Value} (distinct : v.Distinct) (inside : w.Inside v) : w.Distinct := by
  induction inside with
  | refl => exact distinct
  | member mem _ ih => exact ih ((of_obj distinct).2 _ mem)
  | item mem _ ih => exact ih (of_list distinct _ mem)

end Value.Distinct

/-! ## Setting a member -/

namespace Members

theorem contains_iff (ms : Members) (k : String) : ms.contains k = true ↔ k ∈ ms.map Prod.fst := by
  induction ms with
  | nil => simp [contains]
  | cons m rest ih =>
    simp only [contains, Bool.or_eq_true, beq_iff_eq, ih, List.map_cons, List.mem_cons]
    exact or_congr_left eq_comm

theorem mem_put {ms : Members} {k : String} {v : Value} {m : String × Value}
    (mem : m ∈ ms.put k v) : m ∈ ms ∨ m = (k, v) := by
  induction ms with
  | nil => simpa [put] using mem
  | cons n rest ih =>
    unfold put at mem
    split at mem
    · rcases List.mem_cons.mp mem with same | later
      · exact .inr same
      · exact .inl (List.mem_cons_of_mem _ later)
    · rcases List.mem_cons.mp mem with same | later
      · exact .inl (same ▸ List.mem_cons_self)
      · exact (ih later).imp_left (List.mem_cons_of_mem _)

theorem nodup_put {ms : Members} (distinct : (ms.map Prod.fst).Nodup) (k : String) (v : Value) :
    ((ms.put k v).map Prod.fst).Nodup := by
  have named := names_put ms k v
  simp only [names] at named
  rw [named]
  cases present : ms.contains k with
  | true => exact distinct
  | false =>
    have fresh : k ∉ ms.map Prod.fst := by
      rw [← contains_iff, present]
      exact Bool.false_ne_true
    refine List.nodup_append.mpr ⟨distinct, by simp, fun a mem b last same => ?_⟩
    rw [List.mem_singleton.mp last] at same
    exact fresh (same ▸ mem)

end Members

/-- Setting a distinct value into a distinct object keeps it distinct. -/
theorem Value.Distinct.put {ms : Members} (distinct : (Value.obj ms).Distinct) (k : String)
    {v : Value} (value : v.Distinct) : (Value.obj (ms.put k v)).Distinct := by
  obtain ⟨names, values⟩ := distinct.of_obj
  refine .obj (Members.nodup_put names k v) fun m mem => ?_
  rcases Members.mem_put mem with kept | rfl
  · exact values m kept
  · exact value

/-! ## The JSON reader -/

namespace Json

variable (d : Dialect) (cs : Array Nat)

theorem finish_distinct {negative : Bool} {intStart intEnd j : Nat} {v : Value}
    (scanned : scanNumber.finish d cs negative intStart intEnd = .ok (some (v, j))) : v.Distinct := by
  unfold scanNumber.finish at scanned
  split at scanned <;> dsimp only at scanned
  all_goals
    generalize (@ite (Nat × Int) (_ = true) (instDecidableEqBool _ _) _ _) = exponent at scanned
    repeat' split at scanned
  all_goals cases scanned
  all_goals exact .leaf rfl

theorem scanNumber_distinct {i j : Nat} {v : Value} (scanned : scanNumber d cs i = .ok (some (v, j))) :
    v.Distinct := by
  unfold scanNumber at scanned
  dsimp only at scanned
  split at scanned
  · exact finish_distinct d cs scanned
  · split at scanned
    · exact finish_distinct d cs scanned
    · cases scanned
  · cases scanned

/-- Each scan reads a distinct value, when the items an array has read so far, and the object
read so far, are distinct; by induction on the fuel. -/
theorem scan_distinct : ∀ fuel,
    (∀ depth i v j, scanValue d cs depth fuel i = .ok (v, j) → v.Distinct) ∧
    (∀ depth i first acc v j, (∀ x ∈ acc, x.Distinct) →
      scanArray d cs depth fuel i first acc = .ok (v, j) → v.Distinct) ∧
    (∀ depth i first acc v j, (Value.obj acc).Distinct →
      scanObject d cs depth fuel i first acc = .ok (v, j) → v.Distinct) := by
  intro fuel
  induction fuel with
  | zero =>
    refine ⟨fun _ _ _ _ scanned => ?_, fun _ _ _ _ _ _ _ scanned => ?_,
      fun _ _ _ _ _ _ _ scanned => ?_⟩ <;> simp [scanValue, scanArray, scanObject] at scanned
  | succ fuel ih =>
    obtain ⟨values, arrays, objects⟩ := ih
    refine ⟨fun depth i v j scanned => ?_, fun depth i first acc v j items scanned => ?_,
      fun depth i first acc v j object scanned => ?_⟩
    · rw [scanValue] at scanned
      split at scanned
      · cases scanned
      split at scanned
      case h_1 =>
        cases text : scanString d cs i (i + 1) #[] with
        | error e => simp [text, Except.map] at scanned
        | ok r =>
          simp only [text, Except.map, Except.ok.injEq, Prod.mk.injEq] at scanned
          rw [← scanned.1]
          exact .leaf rfl
      case h_2 => exact objects _ _ _ _ v j (.obj (by simp) (by simp)) scanned
      case h_3 => exact arrays _ _ _ _ v j (by simp) scanned
      case h_4 | h_5 | h_6 | h_7 | h_8 =>
        split at scanned
        · cases scanned
          exact .leaf rfl
        · cases scanned
      case h_9 =>
        split at scanned
        · cases scanned
          exact .leaf rfl
        · split at scanned
          · cases scanned
            exact scanNumber_distinct d cs ‹_›
          all_goals cases scanned
      case h_10 =>
        split at scanned
        · cases scanned
          exact scanNumber_distinct d cs ‹_›
        all_goals cases scanned
      case h_11 => cases scanned
    · rw [scanArray] at scanned
      split at scanned
      · cases scanned
        exact .list fun x mem => items x (List.mem_reverse.mp mem)
      split at scanned
      · cases scanned
      rename_i w k item
      have more : ∀ x ∈ w :: acc, x.Distinct := by
        simpa [values _ _ _ _ item] using items
      dsimp only at scanned
      split at scanned
      · cases scanned
        exact .list fun x mem => more x (List.mem_reverse.mp mem)
      · exact arrays _ _ _ _ v j more scanned
      · cases scanned
    · rw [scanObject] at scanned
      split at scanned
      · cases scanned
        exact object
      split at scanned
      · cases scanned
      split at scanned
      · cases scanned
      rename_i name k _
      dsimp only at scanned
      split at scanned
      · cases scanned
      split at scanned
      · cases scanned
      rename_i w m member
      have more := object.put (Text.ofPoints name.toList) (values _ _ _ _ member)
      split at scanned
      · cases scanned
        exact more
      · exact objects _ _ _ _ v j more scanned
      · cases scanned

/-- Reading JSON text yields a distinct value: a repeated member name keeps its first place and
takes its last value. -/
theorem readJson_distinct {text : String} {d : Dialect} {v : Value} (read : readJson text d = .ok v) :
    v.Distinct := by
  unfold readJson readValueOf at read
  dsimp only at read
  split at read
  · cases read
  cases scanned : scanValue d (Text.points text).toArray 0 (2 * (Text.points text).toArray.size + 2)
      (skipBlank (Text.points text).toArray 0) with
  | error e =>
    simp only [scanned, bind, Except.bind] at read
    cases read
  | ok r =>
    simp only [scanned, bind, Except.bind] at read
    split at read
    · cases read
    · cases read
      exact (scan_distinct d _ _).1 _ _ _ _ scanned

end Json

end PortableSearch
