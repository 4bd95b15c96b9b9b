import Mathlib
import PortableSearch.Value

/-! Objects built by setting members one after another: `Members.put` keeps a name at its first
place and gives it the new value, so building from entries yields `Members.lastWins`. -/

namespace PortableSearch.Members

def lastValue (es : List (String × Value)) (k : String) : Value :=
  (es.reverse.lookup k).getD .null

/-- One member per name of the entries, in order of first occurrence, holding the value of the
name's last entry. -/
def lastWins (es : List (String × Value)) : Members :=
  (es.map Prod.fst).eraseDups.map fun k => (k, lastValue es k)

def putAll (acc : Members) (es : List (String × Value)) : Members :=
  es.foldl (fun ms e => ms.put e.1 e.2) acc

theorem nodup_eraseDups {α : Type} [BEq α] [LawfulBEq α] : (xs : List α) → xs.eraseDups.Nodup
  | [] => by simp
  | x :: rest => by
    rw [List.eraseDups_cons, List.nodup_cons]
    -- the rest is filtered before it is deduplicated, so the recursion is on a shorter list
    have shorter : (rest.filter fun y => !y == x).length < rest.length + 1 :=
      Nat.lt_add_one_of_le (List.length_filter_le _ rest)
    exact ⟨by simp [List.mem_eraseDups], nodup_eraseDups _⟩
termination_by xs => xs.length

theorem eraseDups_append_singleton (xs : List String) (k : String) :
    (xs ++ [k]).eraseDups = if k ∈ xs then xs.eraseDups else xs.eraseDups ++ [k] := by
  rw [List.eraseDups_append]
  by_cases present : k ∈ xs <;> simp [List.removeAll, List.eraseDups_cons, present]

theorem lastValue_append_singleton (es : List (String × Value)) (k j : String) (v : Value) :
    lastValue (es ++ [(k, v)]) j = if j = k then v else lastValue es j := by
  by_cases same : j = k
  · simp [lastValue, same]
  · have differ : (j == k) = false := by simp [same]
    simp [lastValue, List.lookup, differ, same]

/-- Setting a member of an object with distinct names: an existing name takes the value in
its place, a new one goes last. -/
theorem put_map (ns : List String) (g : String → Value) (k : String) (v : Value)
    (distinct : ns.Nodup) :
    put (ns.map fun j => (j, g j)) k v =
      (if k ∈ ns then ns else ns ++ [k]).map fun j => (j, if j = k then v else g j) := by
  induction ns with
  | nil => simp [put]
  | cons n rest ih =>
    rw [List.nodup_cons] at distinct
    by_cases same : n = k
    · subst same
      have fresh : ∀ j ∈ rest, j ≠ n := fun j mem eq => distinct.1 (eq ▸ mem)
      simp only [List.map_cons, put, if_true, List.mem_cons, true_or]
      congr 1
      apply List.map_congr_left
      intro j mem
      simp [fresh j mem]
    · simp only [List.map_cons, put, same, if_false, ih distinct.2]
      by_cases present : k ∈ rest
      · simp [present, same]
      · simp [present, same, Ne.symm same]

theorem put_lastWins (es : List (String × Value)) (k : String) (v : Value) :
    put (lastWins es) k v = lastWins (es ++ [(k, v)]) := by
  rw [lastWins, put_map _ _ _ _ (nodup_eraseDups _), lastWins]
  simp only [List.map_append, List.map_cons, List.map_nil]
  rw [eraseDups_append_singleton]
  have present : (k ∈ (es.map Prod.fst).eraseDups) = (k ∈ es.map Prod.fst) := by
    simp [List.mem_eraseDups]
  simp only [present, lastValue_append_singleton]

@[simp] theorem putAll_cons (acc : Members) (k : String) (v : Value) (es : List (String × Value)) :
    putAll acc ((k, v) :: es) = putAll (acc.put k v) es := rfl

/-- Setting further entries into the object of earlier ones gives the object of all of them. -/
theorem putAll_lastWins (pre es : List (String × Value)) :
    putAll (lastWins pre) es = lastWins (pre ++ es) := by
  induction es generalizing pre with
  | nil => simp [putAll]
  | cons e rest ih =>
    rw [putAll_cons, put_lastWins, ih]
    simp

theorem putAll_eq_lastWins (es : List (String × Value)) : putAll [] es = lastWins es :=
  putAll_lastWins [] es

end PortableSearch.Members
