import Mathlib
import PortableSearch.Proofs.ConstantRounding
import PortableSearch.Proofs.RegularZones

/-! Rounding brackets a period of the zone's wall clock: `/u` rounds down to the first instant of
the unit holding the moment reached and up to one millisecond before the first instant of the next.
A round-up leaves its moment in UTC, so a later rounding reads UTC's clock. -/

namespace PortableSearch.DateMath

open PortableSearch.Time

/-- The first instant of the period of unit `u` of a zone's wall clock that holds moment `m`. -/
def periodStart (zone : Zone) (u : TimeUnit) (m : Moment) : Outcome Int :=
  zone.firstInstant (1000 * unitStart u (m.wall / 1000))

/-- The first instant of the period after the one holding `m`. -/
def nextPeriodStart (zone : Zone) (u : TimeUnit) (m : Moment) : Outcome Int :=
  zone.firstInstant (1000 * nextUnitStart u (m.wall / 1000))

theorem unitStart_le (u : TimeUnit) (L : Int) : unitStart u L ≤ L := by
  have first := daysFromCivil_first_le (L / 86400000)
  have january := @daysFromCivil_january_le (civilFromDays (L / 86400000)).1 _
    ⟨(civilFromDays_valid (L / 86400000)).1, (civilFromDays_valid (L / 86400000)).2.1⟩
  cases u <;> simp only [unitStart] <;> omega

theorem lt_nextUnitStart (u : TimeUnit) (L : Int) : L < nextUnitStart u L := by
  obtain ⟨low, high, -, long⟩ := civilFromDays_valid (L / 86400000)
  have back := daysFromCivil_civilFromDays (L / 86400000)
  cases u
  case month =>
    simp only [nextUnitStart]
    generalize civilFromDays (L / 86400000) = c at low high long back
    obtain ⟨y, m, d⟩ := c
    dsimp only at low high long back ⊢
    by_cases last : m = 12
    · subst last
      have before := daysFromCivil_lt_next_year ⟨le_refl 1 |>.trans (by decide), le_refl 12⟩ long
      rw [if_pos rfl]
      omega
    · have before := daysFromCivil_lt_next_month ⟨low, by omega⟩ long
      rw [if_neg last]
      omega
  case year =>
    have before := daysFromCivil_lt_next_year ⟨low, high⟩ long
    simp only [nextUnitStart]
    omega
  all_goals simp only [nextUnitStart, unitStart]; omega

theorem unitStart_le_wall (u : TimeUnit) (w : Int) : 1000 * unitStart u (w / 1000) ≤ w := by
  have := unitStart_le u (w / 1000)
  omega

theorem wall_lt_nextUnitStart (u : TimeUnit) (w : Int) : w < 1000 * nextUnitStart u (w / 1000) := by
  have := lt_nextUnitStart u (w / 1000)
  omega

/-! ## From the start of a unit to the start of the next -/

theorem Zoned.add_calendar_unitStart {zone : Zone} {F : Moment} {u : TimeUnit} {L : Int}
    (calendar : u = .year ∨ u = .month ∨ u = .week ∨ u = .day) (start : F.wall = 1000 * unitStart u L)
    (next : zone.exists { wall := 1000 * nextUnitStart u L } = .ok true) :
    OkOrRange (Zoned.add { zone, moment := F } 1 u)
      (· = { zone, moment := { wall := 1000 * nextUnitStart u L } }) := by
  have kept (years months days : Int)
      (added : OkOrRange (F.addCalendar years months days) (·.wall = 1000 * nextUnitStart u L)) :
      OkOrRange (do
          let m ← F.addCalendar years months days
          let m ← zone.resolveGap m
          pure ({ zone, moment := m } : Zoned))
        (· = { zone, moment := { wall := 1000 * nextUnitStart u L } }) :=
    (Moment.addCalendar_moment added).bind fun n reached => by
      rw [reached, Zone.resolveGap_of_exists next]
      exact .of_ok rfl
  obtain ⟨w, fold⟩ := F
  simp only at start
  subst start
  rcases calendar with rfl | rfl | rfl | rfl
  · refine kept 1 0 0 ?_
    simp only [unitStart, nextUnitStart, millis_days]
    exact Moment.addCalendar_first_okOrRange ⟨le_refl 1, by decide⟩ ⟨le_refl 1, by decide⟩
      (show splitMonths 0 = (0, 0) from rfl) (by simp [carryMonth]) fold
  · refine kept 0 1 0 ?_
    obtain ⟨low, high, -⟩ := civilFromDays_valid (L / 86400000)
    simp only [unitStart, nextUnitStart, millis_days]
    generalize civilFromDays (L / 86400000) = c at low high ⊢
    obtain ⟨y, m, d⟩ := c
    dsimp only at low high ⊢
    by_cases last : m = 12
    · subst last
      rw [if_pos rfl]
      exact Moment.addCalendar_first_okOrRange ⟨low, high⟩ ⟨le_refl 1, by decide⟩
        (show splitMonths 1 = (0, 1) from rfl) (by simp [carryMonth]) fold
    · rw [if_neg last]
      exact Moment.addCalendar_first_okOrRange ⟨low, high⟩ ⟨by omega, by omega⟩
        (show splitMonths 1 = (0, 1) from rfl)
        (by simp only [carryMonth]; rw [if_neg (by omega), if_neg (by omega)]; simp) fold
  · refine kept 0 0 (7 * 1) ((Moment.addCalendar_days _ _).mono fun n wall => ?_)
    rw [wall]
    simp only [unitStart, nextUnitStart]
    unfold microsPerDay
    omega
  · refine kept 0 0 1 ((Moment.addCalendar_days _ _).mono fun n wall => ?_)
    rw [wall]
    simp only [unitStart, nextUnitStart]
    unfold microsPerDay
    omega

section Rounding

variable {zone : Zone} {u : TimeUnit} {L : Int}

/-- One unit added to the start of a unit reaches the first instant of the next start: calendar
units on the wall clock, clock units on the time line of a zone that keeps its offset over the
unit. -/
theorem Zoned.add_reaches_next (regular : zone.Regular) {F : Moment}
    (start : F.wall = 1000 * unitStart u L) (once : zone.ShowsOnce (1000 * unitStart u L))
    (next : zone.ShowsOnce (1000 * nextUnitStart u L))
    (steady : (u = .hour ∨ u = .minute ∨ u = .second) →
      zone.offset { wall := 1000 * nextUnitStart u L } = zone.offset { wall := 1000 * unitStart u L })
    {N : Int} (first : zone.firstInstant (1000 * nextUnitStart u L) = .ok N) :
    OkOrRange (Zoned.add { zone, moment := F } 1 u) (fun n => n.zone.instant n.moment = .ok N) := by
  by_cases clock : u = .hour ∨ u = .minute ∨ u = .second
  · obtain ⟨o, offset, startInstant⟩ := once.firstInstant_ok
    have inst : zone.instant F = .ok (1000 * unitStart u L - o) :=
      (once.instant start).trans startInstant
    have reached : N = 1000 * unitStart u L - o + 1 * u.micros := by
      rw [Zone.firstInstant, Zone.instant, steady clock, offset, ok_bind] at first
      have same : 1000 * nextUnitStart u L - o = N := Except.ok.inj first
      rw [nextUnitStart_clock clock] at same
      omega
    refine (Zoned.add_clock regular.readsBack clock inst 1).mono fun n moved => ?_
    rw [← reached] at moved
    exact moved.2
  · have calendar : u = .year ∨ u = .month ∨ u = .week ∨ u = .day := by
      cases u <;> simp_all
    exact (Zoned.add_calendar_unitStart calendar start next.1).mono fun n reached => by
      rw [reached]
      exact first

theorem Zoned.round_down_start {s : Moment} (once : zone.ShowsOnce (1000 * unitStart u (s.wall / 1000))) :
    OkOrRange (Zoned.round { zone, moment := s } u false)
      (fun r => r.zone = zone ∧ zone.instant r.moment = zone.firstInstant (1000 * unitStart u (s.wall / 1000))) := by
  unfold Zoned.round
  refine (Moment.floor_okOrRange s u).bind fun F start => ?_
  rw [Zone.resolveGap_of_exists (once.shown start), ok_bind]
  exact .of_ok ⟨rfl, once.instant start⟩

theorem Zoned.round_up_start {s : Moment} {N : Int}
    (once : zone.ShowsOnce (1000 * unitStart u (s.wall / 1000)))
    (next : ∀ F : Moment, F.wall = 1000 * unitStart u (s.wall / 1000) →
      OkOrRange (Zoned.add { zone, moment := F } 1 u) (fun n => n.zone.instant n.moment = .ok N)) :
    OkOrRange (Zoned.round { zone, moment := s } u true)
      (fun r => r.zone = .utc ∧ r.moment.wall = N - 1000) := by
  unfold Zoned.round
  refine (Moment.floor_okOrRange s u).bind fun F start => ?_
  rw [Zone.resolveGap_of_exists (once.shown start), ok_bind]
  simp only [if_true]
  exact (next F start).bind fun n inst =>
    (Zone.convert_okOrRange inst Zone.utc_readsBack).bind fun v utc =>
      (Moment.shift_okOrRange v (-1000)).bind fun last wall => .of_ok ⟨rfl, by
        rw [Zone.instant_utc, Except.ok.injEq] at utc
        rw [wall, utc]
        omega⟩

end Rounding

/-! ## Expressions ending in a rounding -/

theorem nowMoment_of_shown {zone : Zone} {now : Stamp}
    (short : ∀ o, now.offset = some o → o.natAbs < 86400000000) {m : Moment}
    (shown : zone.fromUtc now.utcMicros = .ok m) : OkOrRange (nowMoment now zone) (· = m) :=
  (stampZone_constant short).convert_shown shown

theorem finish_rounding {zone : Zone} {e : String} {ops : List OpText}
    (adds : ∀ o ∈ ops, o.WellFormed ∧ o.operator ≠ '/') {c : Char} {u : TimeUnit}
    (unit : unitOf? c = some u) {m s : Moment}
    (reached : apply { zone, moment := m } false (ops.filterMap OpText.step?) = .ok { zone, moment := s })
    (up : Bool) :
    finish e ((ops ++ [(⟨'/', [], c⟩ : OpText)]).flatMap OpText.chars) up zone m = (do
      let r ← Zoned.round { zone, moment := s } u up
      let i ← r.zone.instant r.moment
      pure (i / 1000)) := by
  have rounding : (⟨'/', [], c⟩ : OpText).WellFormed :=
    ⟨by simp [TakesAmount], by simp, by simp, by simp [unit]⟩
  have wf : ∀ o ∈ ops ++ [(⟨'/', [], c⟩ : OpText)], o.WellFormed := by
    intro o mem
    rcases List.mem_append.mp mem with mem | mem
    · exact (adds o mem).1
    · rw [List.mem_singleton.mp mem]
      exact rounding
  have roundStep : (⟨'/', [], c⟩ : OpText).step? = some (.round u) := by
    simp [OpText.step?, unit, OpText.toStep]
  have noRound : ∀ step ∈ ops.filterMap OpText.step?, step.isRound = false := by
    intro step mem
    obtain ⟨o, memo, stepped⟩ := List.mem_filterMap.mp mem
    simp only [OpText.step?, OpText.toStep_add (adds o memo).2, Option.map_eq_some_iff] at stepped
    obtain ⟨u', -, rfl⟩ := stepped
    rfl
  unfold finish
  rw [steps_ops e _ wf, List.filterMap_append, List.filterMap_cons_some roundStep, List.filterMap_nil,
    apply_append, apply_of_no_round noRound _ up false, reached, ok_bind]
  simp only [apply, bind_assoc, ok_bind]

/-- Paris in 2014: two hours east of UTC until its clocks went back an hour at 01:00 UTC on
26 October. -/
def parisAutumn2014 : Zone := .table (Zone.Table.oneChange 1414285200 7200 3600)

private theorem evaluate_now_day_day (up : Bool) :
    evaluate "now/d/d" { wall := 1416306615000000, offset := some 0 } up (.fixed 18000000000) =
      (apply { zone := .fixed 18000000000, moment := { wall := 1416324615000000 } } up
        [.round .day, .round .day] >>= fun z => (fun i => i / 1000) <$> z.zone.instant z.moment) := by
  have strip : Text.strip "now/d/d" = "now/d/d" := by decide
  have present : "now/d/d".isEmpty = false := by decide
  have starts : "now/d/d".startsWith "now" = true := by cbv
  have math : ("now/d/d".drop 3).toString.toList = ['/', 'd', '/', 'd'] := by decide
  have read : steps "now/d/d" ['/', 'd', '/', 'd'] = ([.round .day, .round .day], none) := by
    rw [steps_round _ 'd' .day rfl, steps_round _ 'd' .day rfl]
    simp [steps]
  have anchor : (zoneOfOffset 0).convert { wall := 1416306615000000 } (.fixed 18000000000) =
      .ok { wall := 1416324615000000 } := by cbv
  simp only [evaluate, strip, present, starts, if_true, Bool.false_eq_true, if_false, anchor,
    ok_bind, pure_bind]
  rw [math, read]
  rfl

end PortableSearch.DateMath
