import PortableSearch.DateMath
import PortableSearch.Proofs.Outcome

/-! The forms of a date-math expression: stripped of white space, its text is empty, or `now` and
operations, or a date, `||` and operations. Either anchor is read first, then the operations from
it (`DateMath.finish`). -/

namespace PortableSearch

theorem Text.strip_toList (s : String) :
    (Text.strip s).toList =
      ((s.toList.dropWhile Text.isSpace).reverse.dropWhile Text.isSpace).reverse := by
  simp [Text.strip]

theorem Text.strip_of_ends {s : String} (first : ∀ a r, s.toList = a :: r → Text.isSpace a = false)
    (last : ∀ a r, s.toList.reverse = a :: r → Text.isSpace a = false) : Text.strip s = s := by
  have front : s.toList.dropWhile Text.isSpace = s.toList := by
    cases whole : s.toList with
    | nil => rfl
    | cons a r => exact List.dropWhile_cons_of_neg (by simp [first a r whole])
  have back : s.toList.reverse.dropWhile Text.isSpace = s.toList.reverse := by
    cases whole : s.toList.reverse with
    | nil => rfl
    | cons a r => exact List.dropWhile_cons_of_neg (by simp [last a r whole])
  apply String.toList_inj.mp
  rw [Text.strip_toList, front, back, List.reverse_reverse]

theorem Text.strip_now {s : String} {middle : List Char} {last : Char}
    (chars : s.toList = 'n' :: 'o' :: 'w' :: (middle ++ [last]))
    (notSpace : Text.isSpace last = false) :
    (Text.strip s).toList = 'n' :: 'o' :: 'w' :: (middle ++ [last]) := by
  rw [Text.strip_of_ends, chars]
  · intro a r first
    rw [chars, List.cons.injEq] at first
    rw [← first.1]
    decide
  · intro a r final
    rw [chars] at final
    simp only [List.reverse_cons, List.reverse_append, List.reverse_nil, List.nil_append,
      List.append_assoc, List.cons_append, List.cons.injEq] at final
    rw [← final.1]
    exact notSpace

theorem Text.strip_ends {s : String} (bare : Text.strip s = s) :
    (∀ a r, s.toList = a :: r → Text.isSpace a = false) ∧
      (∀ a r, s.toList.reverse = a :: r → Text.isSpace a = false) := by
  have key := Text.strip_toList s
  rw [bare] at key
  obtain ⟨front, hfront⟩ : ∃ front, front = s.toList.dropWhile Text.isSpace := ⟨_, rfl⟩
  obtain ⟨back, hback⟩ : ∃ back, back = front.reverse.dropWhile Text.isSpace := ⟨_, rfl⟩
  rw [← hfront, ← hback] at key
  constructor
  · intro a r first
    have whole : front = s.toList ++ (front.reverse.takeWhile Text.isSpace).reverse := by
      calc front = (front.reverse.takeWhile Text.isSpace ++ back).reverse := by
            rw [hback, List.takeWhile_append_dropWhile, List.reverse_reverse]
        _ = s.toList ++ (front.reverse.takeWhile Text.isSpace).reverse := by
            rw [List.reverse_append, ← key]
    rw [first, List.cons_append] at whole
    obtain ⟨t, dropped⟩ : ∃ t, s.toList.dropWhile Text.isSpace = a :: t := ⟨_, hfront ▸ whole⟩
    have stop := @List.head_dropWhile_not _ Text.isSpace s.toList (by simp [dropped])
    simpa [dropped] using stop
  · intro a r last
    rw [key, List.reverse_reverse, hback] at last
    have stop := @List.head_dropWhile_not _ Text.isSpace front.reverse (by simp [last])
    simpa [last] using stop

namespace DateMath

open PortableSearch.Time

/-- The moment `now` stands for, on the clock of the expression's zone. -/
def nowMoment (now : Stamp) (zone : Zone) : Outcome Moment :=
  (match now.offset with
    | some o => zoneOfOffset o
    | none => Zone.utc).convert { wall := now.wall } zone

/-- What the operations after an anchor give: their steps applied in order from the anchor, then
the first operation that does not read reported, else the instant in milliseconds, rounded
down. -/
def finish (e : String) (math : List Char) (up : Bool) (zone : Zone) (anchor : Moment) :
    Outcome Int := do
  let z ← apply { zone, moment := anchor } up (steps e math).1
  if let some f := (steps e math).2 then throw f
  let instant ← z.zone.instant z.moment
  pure (instant / 1000)

theorem evaluate_empty {e : String} (now : Stamp) (up : Bool) (zone : Zone)
    (blank : (Text.strip e).toList = []) :
    evaluate e now up zone = .error (.invalidDateMath e .empty) := by
  have empty : (Text.strip e).isEmpty = true :=
    String.isEmpty_iff.mpr (String.toList_eq_nil_iff.mp blank)
  unfold evaluate
  simp only [empty, if_true]
  rfl

theorem evaluate_now {e : String} {math : List Char} (now : Stamp) (up : Bool) (zone : Zone)
    (text : (Text.strip e).toList = 'n' :: 'o' :: 'w' :: math) :
    evaluate e now up zone = nowMoment now zone >>= finish e math up zone := by
  have given : (Text.strip e).isEmpty = false := by
    simp [← String.toList_inj, text]
  have anchored : (Text.strip e).startsWith "now" = true :=
    String.startsWith_string_iff.mpr (by simp [text])
  have after : ((Text.strip e).drop 3).toString.toList = math := by
    simp [String.Slice.toString_eq, String.toList_copy_drop, text]
  unfold evaluate
  simp only [given, anchored, Bool.false_eq_true, if_false, if_true]
  simp only [pure_bind, after]
  rfl

/-- Any other expression is evaluated from the date before its first `||`, stripped of white
space, and the operations after it. -/
theorem evaluate_date {e : String} {cs : List Char} (now : Stamp) (up : Bool) (zone : Zone)
    (text : (Text.strip e).toList = cs) (given : cs ≠ []) (notNow : ¬['n', 'o', 'w'] <+: cs) :
    evaluate e now up zone =
      anchorOfDate e (Text.strip (String.ofList (splitAnchorChars cs).1)) zone >>=
        finish e (splitAnchorChars cs).2 up zone := by
  have nonempty : (Text.strip e).isEmpty = false := by
    simpa [← String.toList_inj, text] using given
  have unanchored : (Text.strip e).startsWith "now" = false := by
    simpa [String.startsWith_string_iff, text] using notNow
  have split : splitAnchor (Text.strip e) =
      (String.ofList (splitAnchorChars cs).1, String.ofList (splitAnchorChars cs).2) := by
    simp [splitAnchor, text]
  unfold evaluate
  simp only [nonempty, unanchored, split, Bool.false_eq_true, if_false, pure_bind,
    String.toList_ofList]
  rfl

/-- The text of an expression that holds its anchor: it starts with `now`, or has `||` after its
date. -/
def Anchored (cs : List Char) : Prop :=
  ['n', 'o', 'w'] <+: cs ∨ ∃ date math, cs = date ++ '|' :: '|' :: math

theorem splitAnchorChars_append {cs : List Char}
    (bars : ∃ date math, cs = date ++ '|' :: '|' :: math) (ys : List Char) :
    splitAnchorChars (cs ++ ys) = ((splitAnchorChars cs).1, (splitAnchorChars cs).2 ++ ys) := by
  obtain ⟨date, math, rfl⟩ := bars
  induction date with
  | nil => simp [splitAnchorChars.eq_2]
  | cons c rest ih =>
    by_cases cut : c = '|' ∧ ∃ r, rest ++ '|' :: '|' :: math = '|' :: r
    · obtain ⟨rfl, r, start⟩ := cut
      rw [List.cons_append, List.cons_append, start, List.cons_append]
      simp [splitAnchorChars.eq_2]
    · have keep : ∀ r, c = '|' → rest ++ '|' :: '|' :: math = '|' :: r → False :=
        fun r bar start => cut ⟨bar, r, start⟩
      have keep' : ∀ r, c = '|' → rest ++ '|' :: '|' :: math ++ ys = '|' :: r → False := by
        intro r bar start
        cases after : rest ++ '|' :: '|' :: math with
        | nil => simp at after
        | cons x xs =>
          rw [after, List.cons_append, List.cons.injEq] at start
          exact keep xs bar (by rw [after, start.1])
      rw [List.cons_append, List.cons_append, splitAnchorChars.eq_3 _ _ keep',
        splitAnchorChars.eq_3 _ _ keep, ih]

theorem not_now_append {cs : List Char} (notNow : ¬['n', 'o', 'w'] <+: cs)
    (bars : ∃ date math, cs = date ++ '|' :: '|' :: math) (ys : List Char) :
    ¬['n', 'o', 'w'] <+: cs ++ ys := by
  intro anchored
  by_cases long : 3 ≤ cs.length
  · exact notNow (List.prefix_of_prefix_length_le anchored (List.prefix_append cs ys) long)
  · -- a text of fewer than three characters holding `||` is `||`
    obtain ⟨date, math, rfl⟩ := bars
    have short : date = [] ∧ math = [] := by
      simp only [List.length_append, List.length_cons] at long
      exact ⟨List.eq_nil_of_length_eq_zero (by omega), List.eq_nil_of_length_eq_zero (by omega)⟩
    obtain ⟨rfl, rfl⟩ := short
    simp at anchored

/-- The anchor a date text gives does not depend on the expression it is written in; only its
faults name the expression. -/
theorem anchorOfDate_ok {e text : String} {zone : Zone} {m : Moment}
    (read : anchorOfDate e text zone = .ok m) (e' : String) : anchorOfDate e' text zone = .ok m := by
  unfold anchorOfDate at read ⊢
  split
  · rwa [if_pos ‹_›] at read
  · rw [if_neg ‹_›] at read
    cases loose : Loose.read text with
    | ok stamp => simpa [loose] using read
    | error failure =>
      rw [loose] at read
      split at read
      · cases read
      · cases read
      · rename_i impossible
        cases impossible

/-! ## Runs of steps -/

def Step.isRound : Step → Bool
  | .round _ => true
  | .add _ _ => false

theorem steps_round (expression : String) (u : Char) (unit : TimeUnit)
    (named : unitOf? u = some unit) (rest : List Char) :
    steps expression ('/' :: u :: rest) =
      (.round unit :: (steps expression rest).1, (steps expression rest).2) := by
  have letter : Text.isDigitLike u = false := by
    unfold unitOf? at named
    split at named
    case h_9 => cases named
    all_goals decide
  rw [steps]
  simp only [ne_eq, not_true_eq_false, and_false, if_false, List.takeWhile_cons, letter,
    Bool.false_eq_true, List.isEmpty_nil, if_true]
  split
  · rename_i dropped
    simp [letter] at dropped
  · rename_i v more dropped
    simp only [List.dropWhile_cons, letter, Bool.false_eq_true, if_false, List.cons.injEq] at dropped
    obtain ⟨rfl, rfl⟩ := dropped
    simp [stepOf, named]

theorem Zoned.add_zone {z z' : Zoned} {n : Int} {u : TimeUnit} (added : z.add n u = .ok z') :
    z'.zone = z.zone := by
  unfold Zoned.add at added
  cases u <;> simp only [bind_eq_ok, pure, Except.pure, Except.ok.injEq] at added
  case year | month | week | day =>
    obtain ⟨_, _, _, _, rfl⟩ := added
    rfl
  all_goals
    obtain ⟨_, _, _, _, _, _, _, _, rfl⟩ := added
    rfl

theorem Zoned.round_zone {z z' : Zoned} {u : TimeUnit} {up : Bool}
    (rounded : z.round u up = .ok z') : z'.zone = if up then .utc else z.zone := by
  unfold Zoned.round at rounded
  simp only [bind_eq_ok] at rounded
  obtain ⟨floor, -, resolved, -, rest⟩ := rounded
  cases up
  · simp only [pure, Except.pure, Except.ok.injEq, Bool.false_eq_true, if_false] at rest ⊢
    rw [← rest]
  · simp only [if_true, bind_eq_ok, pure, Except.pure, Except.ok.injEq] at rest
    obtain ⟨_, _, _, _, _, _, rfl⟩ := rest
    rfl

theorem apply_append (z : Zoned) (up : Bool) (xs ys : List Step) :
    apply z up (xs ++ ys) = apply z up xs >>= fun s => apply s up ys := by
  induction xs generalizing z with
  | nil => rfl
  | cons step rest ih =>
    cases step <;> simp only [List.cons_append, apply, ih, bind_assoc]

theorem apply_of_no_round {steps : List Step} (adds : ∀ step ∈ steps, step.isRound = false)
    (z : Zoned) (up up' : Bool) : apply z up steps = apply z up' steps := by
  induction steps generalizing z with
  | nil => rfl
  | cons step rest ih =>
    have more : ∀ step ∈ rest, step.isRound = false :=
      fun s mem => adds s (List.mem_cons_of_mem _ mem)
    cases step with
    | add n u => simp only [apply, ih more]
    | round u => simp [Step.isRound] at adds

/-- The clock a run ends on: the starting one, unless a rounding step ran while rounding up,
which leaves the moment in UTC for every later step. -/
theorem apply_zone {z z' : Zoned} {up : Bool} {steps : List Step}
    (run : apply z up steps = .ok z') :
    z'.zone = if up && steps.any Step.isRound then .utc else z.zone := by
  induction steps generalizing z with
  | nil =>
    simp only [apply, Except.ok.injEq] at run
    simp [run]
  | cons step rest ih =>
    cases step with
    | add n u =>
      simp only [apply, bind_eq_ok] at run
      obtain ⟨s, added, later⟩ := run
      simp [ih later, Zoned.add_zone added, Step.isRound]
    | round u =>
      simp only [apply, bind_eq_ok] at run
      obtain ⟨s, rounded, later⟩ := run
      rw [ih later, Zoned.round_zone rounded]
      cases up <;> simp [Step.isRound]

end DateMath

end PortableSearch
