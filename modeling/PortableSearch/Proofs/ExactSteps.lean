import Mathlib
import PortableSearch.Proofs.ZoneArithmetic
import PortableSearch.Proofs.ExpressionForms
import PortableSearch.Proofs.DateMathGrammar

/-! Exact steps of date math. An addition of a unit of fixed length moves the value of an expression
by exactly that length in every zone that reads back its instants, unless a range error stops it;
a zone whose daylight time is behind its standard time does not read back its instants. -/

namespace PortableSearch.DateMath

open PortableSearch.Time

def OpText.amount (o : OpText) : Int :=
  let n := if o.digits = [] then 1 else amountValue o.digits
  if o.operator = '-' then -n else n

theorem OpText.toStep_add {o : OpText} (adds : o.operator ≠ '/') (u : TimeUnit) :
    o.toStep u = .add o.amount u := by
  simp [OpText.toStep, OpText.amount, adds]

/-- An operation that moves the instant by `shift` microseconds in `zone`: a well-formed `+` or
`-` of a unit whose length is fixed there. -/
structure OpText.Shifts (zone : Zone) (o : OpText) (shift : Int) : Prop where
  wf : o.WellFormed
  adds : o.operator ≠ '/'
  fixed : ∃ u len, unitOf? o.letter = some u ∧ FixedIn zone u len ∧ shift = o.amount * len

/-- The clocks a run of steps can be on: the expression's zone, or UTC after a rounding up. -/
def OnClock (zone : Zone) (z : Zoned) : Prop := z.zone = zone ∨ z.zone = .utc

theorem OnClock.readsBack {zone : Zone} {z : Zoned} (clock : OnClock zone z)
    (readsBack : zone.ReadsBack) : z.zone.ReadsBack := by
  rcases clock with same | utc
  · rw [same]; exact readsBack
  · rw [utc]; exact Zone.utc_readsBack

theorem OnClock.fixed {zone : Zone} {z : Zoned} {u : TimeUnit} {len : Int} (clock : OnClock zone z)
    (fixed : FixedIn zone u len) : FixedIn z.zone u len := by
  rcases clock with same | utc
  · rw [same]; exact fixed
  · rw [utc]; exact fixed.utc

/-- Additions of units of fixed length, applied in order from a moment of instant `I`, end on
the same clock at instant `I` plus the sum of their shifts, unless a range error stops them. -/
theorem apply_shifts {zone : Zone} (readsBack : zone.ReadsBack) {ops : List OpText}
    {shifts : List Int} (all : List.Forall₂ (OpText.Shifts zone) ops shifts) (up : Bool) {z : Zoned}
    (clock : OnClock zone z) {I : Int} (inst : z.zone.instant z.moment = .ok I) :
    OkOrRange (apply z up (ops.filterMap OpText.step?))
      (fun z' => z'.zone = z.zone ∧ z'.zone.instant z'.moment = .ok (I + shifts.sum)) := by
  induction all generalizing z I with
  | nil => exact .of_ok ⟨rfl, by simpa using inst⟩
  | @cons o shift ops shifts first rest ih =>
    obtain ⟨-, adds, u, len, unit, fixed, rfl⟩ := first
    have step : o.step? = some (.add o.amount u) := by
      simp [OpText.step?, unit, OpText.toStep_add adds]
    rw [List.filterMap_cons_some step]
    refine (Zoned.add_fixed (clock.readsBack readsBack) (clock.fixed fixed) inst o.amount).bind ?_
    rintro z' ⟨same, moved⟩
    refine (ih (by rw [OnClock, same]; exact clock) moved).mono ?_
    rintro z'' ⟨same', moved'⟩
    exact ⟨by rw [same', same], by rw [moved', List.sum_cons, Int.add_assoc]⟩

theorem shifts_whole_millis {zone : Zone} {ops : List OpText} {shifts : List Int}
    (all : List.Forall₂ (OpText.Shifts zone) ops shifts) : 1000 ∣ shifts.sum := by
  induction all with
  | nil => exact Int.dvd_zero 1000
  | cons first rest ih =>
    obtain ⟨-, -, u, len, -, fixed, rfl⟩ := first
    rw [List.sum_cons]
    exact Int.dvd_add (Int.dvd_mul_of_dvd_right fixed.whole_millis) ih

theorem Shifts.wellFormed {zone : Zone} {ops : List OpText} {shifts : List Int}
    (all : List.Forall₂ (OpText.Shifts zone) ops shifts) : ∀ o ∈ ops, o.WellFormed := by
  induction all with
  | nil => simp
  | cons first rest ih =>
    intro o mem
    rcases List.mem_cons.mp mem with rfl | mem
    · exact first.wf
    · exact ih o mem

theorem finish_ok {e : String} {math : List Char} {up : Bool} {zone : Zone} {anchor : Moment}
    {v : Int} (accepted : finish e math up zone anchor = .ok v) :
    (steps e math).2 = none ∧ ∃ z I, apply { zone, moment := anchor } up (steps e math).1 = .ok z ∧
      z.zone.instant z.moment = .ok I ∧ v = I / 1000 := by
  unfold finish at accepted
  obtain ⟨z, run, rest⟩ := bind_eq_ok.mp accepted
  cases read : (steps e math).2 with
  | some f =>
    simp only [read] at rest
    cases rest
  | none =>
    simp only [read] at rest
    obtain ⟨I, inst, value⟩ := bind_eq_ok.mp rest
    exact ⟨rfl, z, I, run, inst, (Except.ok.inj value).symm⟩

theorem finish_nil (e : String) (up : Bool) {zone : Zone} {anchor : Moment} {I : Int}
    (inst : zone.instant anchor = .ok I) : finish e [] up zone anchor = .ok (I / 1000) := by
  simp [finish, steps, apply, inst]

/-- Additions of units of fixed length written after the operations of an accepted expression
move its value by the sum of their shifts, in milliseconds, unless a range error stops them. -/
theorem finish_append {zone : Zone} (readsBack : zone.ReadsBack) {ops : List OpText}
    {shifts : List Int} (all : List.Forall₂ (OpText.Shifts zone) ops shifts) {e : String}
    {math : List Char} {up : Bool} {anchor : Moment} {v : Int}
    (accepted : finish e math up zone anchor = .ok v) (e' : String) :
    OkOrRange (finish e' (math ++ ops.flatMap OpText.chars) up zone anchor)
      (· = v + shifts.sum / 1000) := by
  obtain ⟨read, z, I, run, inst, rfl⟩ := finish_ok accepted
  have more : steps e' (math ++ ops.flatMap OpText.chars) =
      ((steps e math).1 ++ ops.filterMap OpText.step?, none) := by
    rw [steps_append_of_read read e', steps_ops e' ops (Shifts.wellFormed all)]
  -- the earlier steps end on the expression's clock, or on UTC after a rounding up
  have clock : OnClock zone z := by
    unfold OnClock
    rw [apply_zone run]
    split
    · exact .inr rfl
    · exact .inl rfl
  unfold finish
  rw [more, apply_append, run, ok_bind]
  exact (apply_shifts readsBack all up clock inst).bind fun z' ⟨_, moved⟩ => by
    simp only [moved, ok_bind]
    exact .of_ok (Int.add_ediv_of_dvd_right (shifts_whole_millis all))

theorem stampZone_constant {now : Time.Stamp}
    (short : ∀ o, now.offset = some o → o.natAbs < 86400000000) :
    (match now.offset with
      | some o => zoneOfOffset o
      | none => Zone.utc).Constant (now.offset.getD 0) := by
  cases given : now.offset with
  | none => exact Zone.constant_utc
  | some o =>
    simp only [Option.getD_some, zoneOfOffset]
    by_cases zero : o = 0
    · rw [if_pos zero, zero]
      exact Zone.constant_utc
    · rw [if_neg zero]
      exact Zone.constant_fixed (short o given)

theorem nowMoment_okOrRange {zone : Zone} (readsBack : zone.ReadsBack) {now : Time.Stamp}
    (short : ∀ o, now.offset = some o → o.natAbs < 86400000000) :
    OkOrRange (nowMoment now zone) (fun m => zone.instant m = .ok now.utcMicros) :=
  Zone.convert_okOrRange ((stampZone_constant short).instant _) readsBack

theorem isSpace_of_unit {c : Char} {u : TimeUnit} (named : unitOf? c = some u) :
    Text.isSpace c = false := by
  unfold unitOf? at named
  split at named
  case h_9 => cases named
  all_goals decide

theorem flatMap_chars_reverse {ops : List OpText} (given : ops ≠ []) :
    ∃ o ∈ ops, ∃ r, (ops.flatMap OpText.chars).reverse = o.letter :: r := by
  induction ops with
  | nil => exact absurd rfl given
  | cons o more ih =>
    by_cases last : more = []
    · subst last
      exact ⟨o, List.mem_cons_self, (o.operator :: o.digits).reverse, by simp [OpText.chars]⟩
    · obtain ⟨o', mem, r, reversed⟩ := ih last
      refine ⟨o', List.mem_cons_of_mem o mem, r ++ o.chars.reverse, ?_⟩
      rw [List.flatMap_cons, List.reverse_append, reversed, List.cons_append]

theorem strip_append_ops {E : String} (bare : Text.strip E = E) (given : E.toList ≠ [])
    {ops : List OpText} (named : ∀ o ∈ ops, (unitOf? o.letter).isSome) :
    Text.strip (E ++ String.ofList (ops.flatMap OpText.chars)) =
      E ++ String.ofList (ops.flatMap OpText.chars) := by
  obtain ⟨first, last⟩ := Text.strip_ends bare
  apply Text.strip_of_ends
  · intro a r whole
    obtain ⟨b, rest, start⟩ := List.exists_cons_of_ne_nil given
    rw [String.toList_append, start, List.cons_append, List.cons.injEq] at whole
    rw [← whole.1]
    exact first b rest start
  · intro a r whole
    rw [String.toList_append, String.toList_ofList, List.reverse_append] at whole
    by_cases none : ops = []
    · subst none
      exact last a r (by simpa using whole)
    · obtain ⟨o, mem, r', reversed⟩ := flatMap_chars_reverse none
      rw [reversed, List.cons_append, List.cons.injEq] at whole
      obtain ⟨u, unit⟩ := Option.isSome_iff_exists.mp (named o mem)
      rw [← whole.1]
      exact isSpace_of_unit unit

/-- Additions of fixed length written after an expression that holds its anchor, has no white space
at its ends and evaluates to `v` move `v` by the sum of their lengths, unless a range error stops
them: the anchor is read as before, and the steps of the expression are taken before theirs. -/
theorem evaluate_append_shifts {zone : Zone} (readsBack : zone.ReadsBack) {E : String} {v : Int}
    {ops : List OpText} {shifts : List Int} {now : Time.Stamp} {up : Bool} (bare : Text.strip E = E)
    (anchored : Anchored E.toList) (accepted : evaluate E now up zone = .ok v)
    (all : List.Forall₂ (OpText.Shifts zone) ops shifts) :
    OkOrRange (evaluate (E ++ String.ofList (ops.flatMap OpText.chars)) now up zone)
      (· = v + shifts.sum / 1000) := by
  have named : ∀ o ∈ ops, (unitOf? o.letter).isSome := fun o mem => (Shifts.wellFormed all o mem).unit
  have given : E.toList ≠ [] := by
    rcases anchored with ⟨rest, whole⟩ | ⟨date, math, whole⟩
    · rw [← whole]
      simp
    · rw [whole]
      simp
  have text : (Text.strip (E ++ String.ofList (ops.flatMap OpText.chars))).toList =
      E.toList ++ ops.flatMap OpText.chars := by
    rw [strip_append_ops bare given named, String.toList_append, String.toList_ofList]
  have textE : (Text.strip E).toList = E.toList := by rw [bare]
  by_cases nowForm : ['n', 'o', 'w'] <+: E.toList
  · obtain ⟨math, whole⟩ := nowForm
    rw [evaluate_now now up zone (by rw [textE, ← whole]; rfl)] at accepted
    obtain ⟨m, moment, finished⟩ := bind_eq_ok.mp accepted
    rw [@evaluate_now _ (math ++ ops.flatMap OpText.chars) now up zone
      (by rw [text, ← whole]; rfl), moment, ok_bind]
    exact finish_append readsBack all finished _
  · have bars := anchored.resolve_left nowForm
    rw [evaluate_date now up zone textE given nowForm] at accepted
    obtain ⟨m, anchor, finished⟩ := bind_eq_ok.mp accepted
    rw [evaluate_date now up zone text (by simp [given]) (not_now_append nowForm bars _),
      splitAnchorChars_append bars, anchorOfDate_ok anchor, ok_bind]
    exact finish_append readsBack all finished _

theorem evaluate_now_shifts {zone : Zone} (readsBack : zone.ReadsBack) {now : Time.Stamp}
    (short : ∀ o, now.offset = some o → o.natAbs < 86400000000) (up : Bool) {ops : List OpText}
    {shifts : List Int} (all : List.Forall₂ (OpText.Shifts zone) ops shifts) :
    OkOrRange (evaluate ("now" ++ String.ofList (ops.flatMap OpText.chars)) now up zone)
      (· = now.utcMicros / 1000 + shifts.sum / 1000) := by
  have named : ∀ o ∈ ops, (unitOf? o.letter).isSome := fun o mem => (Shifts.wellFormed all o mem).unit
  have text : (Text.strip ("now" ++ String.ofList (ops.flatMap OpText.chars))).toList =
      'n' :: 'o' :: 'w' :: ([] ++ ops.flatMap OpText.chars) := by
    rw [strip_append_ops (by decide) (by decide) named]
    simp
  rw [evaluate_now now up zone text]
  exact (nowMoment_okOrRange readsBack short).bind fun m inst =>
    finish_append readsBack all (finish_nil "now" up inst) _

/-- Steps of fixed length are exact in every zone that reads back its instants: seconds, minutes
and hours, and days and weeks where the offset is constant. Written after an expression that
holds its anchor, has no white space at its ends and evaluates to `v`, such additions give `v`
moved by the sum of their lengths in milliseconds; `now` followed only by such additions gives
the milliseconds of `now` moved by that sum, whatever the zone. Either may instead stop with a
range error. -/
theorem fixed_steps_are_exact {zone : Zone} (readsBack : zone.ReadsBack) (now : Stamp) (up : Bool) :
    (∀ (E : String) (v : Int) (ops : List OpText) (shifts : List Int), Text.strip E = E →
        Anchored E.toList → evaluate E now up zone = .ok v →
        List.Forall₂ (OpText.Shifts zone) ops shifts →
        OkOrRange (evaluate (E ++ String.ofList (ops.flatMap OpText.chars)) now up zone)
          (· = v + shifts.sum / 1000)) ∧
      ((∀ o, now.offset = some o → o.natAbs < 86400000000) →
        ∀ (ops : List OpText) (shifts : List Int), List.Forall₂ (OpText.Shifts zone) ops shifts →
        OkOrRange (evaluate ("now" ++ String.ofList (ops.flatMap OpText.chars)) now up zone)
          (· = now.utcMicros / 1000 + shifts.sum / 1000)) := by
  refine ⟨?_, ?_⟩
  · intro E v ops shifts bare anchored accepted all
    exact evaluate_append_shifts readsBack bare anchored accepted all
  · intro short ops shifts all
    exact evaluate_now_shifts readsBack short up all

/-- Ninety minutes after 2014-11-18T10:30Z, five and a half hours east of UTC, is ninety minutes
of milliseconds later, unless a range error stops it. -/
theorem ninety_minutes_after_now_east :
    OkOrRange
      (evaluate ("now" ++ String.ofList (([⟨'+', ['9', '0'], 'm'⟩] : List OpText).flatMap OpText.chars))
        { wall := 1416306600000000 } false (.fixed 19800000000))
      (· = 1416306600000 + 5400000) := by
  have digits : ∀ c ∈ ['9', '0'], IsAmountDigit c := by
    intro c mem
    simp only [List.mem_cons, List.not_mem_nil, or_false] at mem
    rcases mem with rfl | rfl <;> exact ⟨by decide, by decide⟩
  have shift : OpText.Shifts (.fixed 19800000000) ⟨'+', ['9', '0'], 'm'⟩ 5400000000 :=
    ⟨⟨.inl rfl, digits, by decide, rfl⟩, by decide, .minute, 60000000, rfl, .minute, by decide⟩
  exact (fixed_steps_are_exact (Zone.constant_fixed (by decide)).readsBack
    { wall := 1416306600000000 } false).2 (fun _ none => by cases none) _ _ (.cons shift .nil)

/-- In the zone of the TZ text `IST-1GMT0,M10.5.0,M3.5.0/1`, an hour east of UTC as its standard
time and UTC as its daylight time from the last Sunday of October to the last Sunday of March,
an hour added at 00:30 UTC on 26 October 2014, half an hour before its clocks go back, is lost:
the instant an hour later is shown as the clock time 01:30, which the zone reads back as
standard time, the instant of `now` itself. -/
theorem hour_lost_when_clocks_go_back :
    ∃ z, Zone.Yearly.ofText "IST-1GMT0,M10.5.0,M3.5.0/1" = .ok (some z) ∧
      evaluate "now" { wall := 1414283400000000 } false (.yearly z) = .ok 1414283400000 ∧
      evaluate "now+1h" { wall := 1414283400000000 } false (.yearly z) = .ok 1414283400000 := by
  let lastSunday (month : Nat) : Zone.YearShift :=
    { month := some month, day := some 31, seconds := 7200, move := some { weekday := 6, n := -1 } }
  have hour : (⟨'+', ['1'], 'h'⟩ : OpText).WellFormed :=
    ⟨.inl rfl, fun c mem => by simp only [List.mem_singleton] at mem; subst mem; exact ⟨by decide, by decide⟩,
      by decide, rfl⟩
  have read : steps "now+1h" ['+', '1', 'h'] = ([.add 1 .hour], none) := by
    rw [show ['+', '1', 'h'] = OpText.chars ⟨'+', ['1'], 'h'⟩ ++ [] from rfl,
      steps_op "now+1h" hour rfl []]
    have one : amountValue ['1'] = 1 := by decide
    simp [steps, OpText.toStep, one]
  refine ⟨{ standard := 3600, daylight := 0, changes := some (lastSunday 10, lastSunday 3) },
    by cbv, ?_, ?_⟩
  · rw [evaluate_now _ _ _ (show (Text.strip "now").toList = ['n', 'o', 'w'] ++ [] by decide)]
    cbv
  · rw [evaluate_now _ _ _ (show (Text.strip "now+1h").toList =
      'n' :: 'o' :: 'w' :: ['+', '1', 'h'] by decide)]
    show _ >>= (fun m => finish _ _ _ _ m) = _
    simp only [finish, read]
    cbv

end PortableSearch.DateMath
