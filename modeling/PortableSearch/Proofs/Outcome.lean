import PortableSearch.Fault

/-! Peeling `Outcome` computations apart: what a bind that succeeds or fails says about its
first step, so that a proof follows a `do` block step by step. -/

namespace PortableSearch

variable {α β : Type} {x : Outcome α} {f : α → Outcome β}

theorem bind_eq_ok {b : β} : x >>= f = .ok b ↔ ∃ a, x = .ok a ∧ f a = .ok b := by
  cases x <;> simp [bind, Except.bind]

@[simp] theorem ok_bind (a : α) : (Except.ok a : Outcome α) >>= f = f a := rfl

@[simp] theorem error_bind (e : Fault) : (Except.error e : Outcome α) >>= f = .error e := rfl

@[simp] theorem map_ok (g : α → β) (a : α) : g <$> (Except.ok a : Outcome α) = .ok (g a) := rfl

@[simp] theorem map_error (g : α → β) (e : Fault) :
    g <$> (Except.error e : Outcome α) = .error e := rfl

/-- Two continuations that agree on every result of the first step give the same run. -/
theorem bind_congr_ok {g : α → Outcome β} (agree : ∀ a, x = .ok a → f a = g a) :
    x >>= f = x >>= g := by
  cases x with
  | error e => rfl
  | ok a => exact agree a rfl

/-- The fault an outcome failed with, if it failed. -/
def faultOf {α : Type} : Outcome α → Option Fault
  | .error f => some f
  | .ok _ => none

@[simp] theorem faultOf_ok (a : α) : faultOf (Except.ok a : Outcome α) = none := rfl

@[simp] theorem faultOf_error (e : Fault) : faultOf (Except.error e : Outcome α) = some e := rfl

@[simp] theorem faultOf_map (g : α → β) (x : Outcome α) : faultOf (g <$> x) = faultOf x := by
  cases x <;> rfl

@[simp] theorem faultOf_bind_pure (g : α → β) (x : Outcome α) :
    faultOf (x >>= fun a => pure (g a)) = faultOf x := by
  cases x <;> rfl

end PortableSearch
