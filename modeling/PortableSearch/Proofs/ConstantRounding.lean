import PortableSearch.Proofs.ExactSteps

/-! Rounding in a zone of constant offset is integer arithmetic on local milliseconds: `now/u` is the
start of the unit holding the local time less the offset, and rounding up gives the next start less
the offset and one millisecond, while every date-time on the way is in range (`RoundingInRange`). -/

namespace PortableSearch.DateMath

open PortableSearch.Time

/-- The start, in local milliseconds, of the unit `u` that holds local millisecond count `L`. -/
def unitStart (u : TimeUnit) (L : Int) : Int :=
  match u with
  | .second => L / 1000 * 1000
  | .minute => L / 60000 * 60000
  | .hour => L / 3600000 * 3600000
  | .day => L / 86400000 * 86400000
  | .week => (L / 86400000 - (L / 86400000 + 3) % 7) * 86400000
  | .month =>
    daysFromCivil (civilFromDays (L / 86400000)).1 (civilFromDays (L / 86400000)).2.1 1 * 86400000
  | .year => daysFromCivil (civilFromDays (L / 86400000)).1 1 1 * 86400000

/-- The start of the unit after the one that holds `L`. -/
def nextUnitStart (u : TimeUnit) (L : Int) : Int :=
  match u with
  | .second => unitStart .second L + 1000
  | .minute => unitStart .minute L + 60000
  | .hour => unitStart .hour L + 3600000
  | .day => unitStart .day L + 86400000
  | .week => unitStart .week L + 604800000
  | .month =>
    let (y, m, _) := civilFromDays (L / 86400000)
    (if m = 12 then daysFromCivil (y + 1) 1 1 else daysFromCivil y (m + 1) 1) * 86400000
  | .year => daysFromCivil ((civilFromDays (L / 86400000)).1 + 1) 1 1 * 86400000

-- 2014-11-18T10:30:15.123, a Tuesday: its week starts on Monday 2014-11-17
example : unitStart .week 1416306615123 = 1416182400000 := by decide
example : nextUnitStart .month 1416306615123 = 1417392000000 := by decide

/-- Every date-time that rounding local millisecond count `L` to `u` passes through, on a clock
`o` milliseconds east of UTC, lies in years 1 to 9999: `L` and the start of its unit and of the
next one, on that clock and in UTC, and the millisecond before the next start in UTC. -/
structure RoundingInRange (u : TimeUnit) (L o : Int) : Prop where
  now : inRange (1000 * (L - o)) = true
  clock : inRange (1000 * L) = true
  start : inRange (1000 * unitStart u L) = true
  startUtc : inRange (1000 * (unitStart u L - o)) = true
  next : inRange (1000 * nextUnitStart u L) = true
  nextUtc : inRange (1000 * (nextUnitStart u L - o)) = true
  last : inRange (1000 * (nextUnitStart u L - o - 1)) = true

theorem millis_days (D : Int) : 1000 * (D * 86400000) = D * microsPerDay := by
  unfold microsPerDay
  omega

theorem floor_toMicros (w : Int) {u : TimeUnit} (notWeek : u ≠ .week) :
    ((Reading.ofMicros w).floor u).toMicros = 1000 * unitStart u (w / 1000) := by
  have day : w / 1000 / 86400000 = w / microsPerDay := by
    unfold microsPerDay
    omega
  have date := daysFromCivil_civilFromDays (w / microsPerDay)
  cases u
  case week => exact absurd rfl notWeek
  all_goals
    simp only [Reading.floor, Reading.toMicros, Reading.timeMicros, Reading.ofMicros, unitStart, day]
    generalize civilFromDays (w / microsPerDay) = c at date ⊢
    obtain ⟨y, m, d⟩ := c
    dsimp only at date ⊢
    unfold microsPerDay at *
    omega

theorem unitStart_monday (w : Int) :
    unitStart .day ((w + -(weekdayOf w : Int) * microsPerDay) / 1000) = unitStart .week (w / 1000) := by
  simp only [unitStart, weekdayOf, weekdayOfDays, dayOf]
  unfold microsPerDay
  omega

theorem Moment.floor_unitStart {w : Int} (range : inRange w = true) (u : TimeUnit) :
    Moment.floor { wall := w } u = .ok { wall := 1000 * unitStart u (w / 1000) } := by
  by_cases week : u = .week
  · subst week
    have sameDay : ∀ r : Reading, (r.floor .week).toMicros = (r.floor .day).toMicros := fun _ => rfl
    simp only [Moment.floor, if_true, Moment.shift, Moment.checked_ok (inRange_monday range),
      ok_bind, sameDay, floor_toMicros _ (by decide : TimeUnit.day ≠ .week), unitStart_monday]
    rfl
  · simp only [Moment.floor, if_neg week, pure_bind, floor_toMicros w week]
    rfl

/-- The start of the unit holding a moment is the start of its unit on the wall clock, unless
the Monday of its week is out of range. -/
theorem Moment.floor_okOrRange (m : Moment) (u : TimeUnit) :
    OkOrRange (m.floor u) (·.wall = 1000 * unitStart u (m.wall / 1000)) := by
  unfold Moment.floor
  by_cases week : u = .week
  · subst week
    have sameDay : ∀ r : Reading, (r.floor .week).toMicros = (r.floor .day).toMicros := fun _ => rfl
    simp only [if_true]
    refine (Moment.shift_okOrRange m _).bind fun monday wall => .of_ok ?_
    simp only [sameDay, floor_toMicros _ (by decide : TimeUnit.day ≠ .week), wall, unitStart_monday]
  · simp only [if_neg week, pure_bind]
    exact .of_ok (floor_toMicros _ week)

theorem Zoned.add_clock_ok {zone : Zone} {o w : Int} (constant : zone.Constant o) {u : TimeUnit}
    (clock : u = .hour ∨ u = .minute ∨ u = .second) (utc : inRange (w - o) = true)
    (utcAfter : inRange (w + u.micros - o) = true) (after : inRange (w + u.micros) = true) :
    Zoned.add { zone, moment := { wall := w } } 1 u =
      .ok { zone, moment := { wall := w + u.micros } } := by
  have there := constant.convert_ok Zone.constant_utc utc (by rwa [Int.add_zero])
  rw [Int.add_zero] at there
  have inUtc : w - o + u.micros = w + u.micros - o := by omega
  have shifted : ({ wall := w - o } : Moment).shift u.micros = .ok { wall := w - o + u.micros } :=
    Moment.checked_ok (by rwa [inUtc])
  have moved : w - o + u.micros - 0 + o = w + u.micros := by omega
  have back := @Zone.Constant.convert_ok .utc zone 0 o (w - o + u.micros) Zone.constant_utc constant
    (by rwa [Int.sub_zero, inUtc]) (by rwa [moved])
  rw [moved] at back
  have span : durationMicros (1 * u.micros) = .ok u.micros := by
    rcases clock with rfl | rfl | rfl <;> rfl
  have onUtc : Zoned.add { zone, moment := { wall := w } } 1 u = (do
      let v ← zone.convert { wall := w } .utc
      let d ← durationMicros (1 * u.micros)
      let s ← v.shift d
      let back ← Zone.utc.convert s zone
      pure { zone, moment := back }) := by
    rcases clock with rfl | rfl | rfl <;> rfl
  rw [onUtc, there, ok_bind, span, ok_bind, shifted, ok_bind, back]
  rfl

theorem nextUnitStart_clock {u : TimeUnit} (clock : u = .hour ∨ u = .minute ∨ u = .second)
    (L : Int) : 1000 * nextUnitStart u L = 1000 * unitStart u L + u.micros := by
  rcases clock with rfl | rfl | rfl <;> simp only [nextUnitStart, TimeUnit.micros] <;> omega

theorem Zoned.add_unitStart {zone : Zone} {o L : Int} (constant : zone.Constant (1000 * o))
    {u : TimeUnit} (range : RoundingInRange u L o) :
    Zoned.add { zone, moment := { wall := 1000 * unitStart u L } } 1 u =
      .ok { zone, moment := { wall := 1000 * nextUnitStart u L } } := by
  have startUtc : inRange (1000 * unitStart u L - 1000 * o) = true := by
    rw [← Int.mul_sub]
    exact range.startUtc
  have nextUtc : inRange (1000 * nextUnitStart u L - 1000 * o) = true := by
    rw [← Int.mul_sub]
    exact range.nextUtc
  have next := range.next
  have clock (isClock : u = .hour ∨ u = .minute ∨ u = .second) :
      Zoned.add { zone, moment := { wall := 1000 * unitStart u L } } 1 u =
        .ok { zone, moment := { wall := 1000 * nextUnitStart u L } } := by
    rw [nextUnitStart_clock isClock] at nextUtc next ⊢
    exact Zoned.add_clock_ok constant isClock startUtc nextUtc next
  have calendar (years months days : Int)
      (added : Moment.addCalendar { wall := 1000 * unitStart u L } years months days =
        .ok { wall := 1000 * nextUnitStart u L }) :
      (do
        let m ← Moment.addCalendar { wall := 1000 * unitStart u L } years months days
        let m ← zone.resolveGap m
        pure ({ zone, moment := m } : Zoned)) =
        .ok { zone, moment := { wall := 1000 * nextUnitStart u L } } := by
    rw [added, ok_bind, constant.resolveGap_ok nextUtc next]
    rfl
  have days (n : Int) (span : durationMicros (n * microsPerDay) = .ok (n * microsPerDay))
      (step : 1000 * nextUnitStart u L = 1000 * unitStart u L + n * microsPerDay) :
      Moment.addCalendar { wall := 1000 * unitStart u L } 0 0 n =
        .ok { wall := 1000 * nextUnitStart u L } := by
    rw [step] at next ⊢
    exact Moment.addCalendar_days_ok range.start span next
  cases u with
  | hour => exact clock (.inl rfl)
  | minute => exact clock (.inr (.inl rfl))
  | second => exact clock (.inr (.inr rfl))
  | day =>
    refine calendar 0 0 1 (days 1 rfl ?_)
    simp only [nextUnitStart]
    unfold microsPerDay
    omega
  | week =>
    refine calendar 0 0 (7 * 1) (days (7 * 1) rfl ?_)
    simp only [nextUnitStart]
    unfold microsPerDay
    omega
  | month =>
    apply calendar 0 1 0
    obtain ⟨low, high, -⟩ := civilFromDays_valid (L / 86400000)
    simp only [unitStart, nextUnitStart] at next ⊢
    generalize civilFromDays (L / 86400000) = c at low high next ⊢
    obtain ⟨y, m, d⟩ := c
    dsimp only at low high next ⊢
    simp only [millis_days] at next ⊢
    by_cases last : m = 12
    · subst last
      rw [if_pos rfl] at next ⊢
      exact Moment.addCalendar_first ⟨low, high⟩ ⟨le_refl 1, by decide⟩ rfl (by simp [carryMonth])
        next
    · rw [if_neg last] at next ⊢
      exact Moment.addCalendar_first ⟨low, high⟩ ⟨by omega, by omega⟩ rfl
        (by simp only [carryMonth]; rw [if_neg (by omega), if_neg (by omega)]; simp) next
  | year =>
    apply calendar 1 0 0
    simp only [unitStart, nextUnitStart] at next ⊢
    generalize (civilFromDays (L / 86400000)).1 = y at next ⊢
    simp only [millis_days] at next ⊢
    exact Moment.addCalendar_first ⟨le_refl 1, by decide⟩ ⟨le_refl 1, by decide⟩ rfl
      (by simp [carryMonth]) next

/-- A moment of a zone of constant offset rounds down to the start of its unit, on the zone's
clock, and up to one millisecond before the start of the next, in UTC. -/
theorem Zoned.round_unitStart {zone : Zone} {o w : Int} (constant : zone.Constant (1000 * o))
    {u : TimeUnit} (range : RoundingInRange u (w / 1000) o) (up : Bool) :
    Zoned.round { zone, moment := { wall := w } } u up =
      .ok (if up then { zone := .utc, moment := { wall := 1000 * (nextUnitStart u (w / 1000) - o - 1) } }
        else { zone, moment := { wall := 1000 * unitStart u (w / 1000) } }) := by
  have floor := Moment.floor_unitStart (inRange_of_millis range.clock) u
  have resolved := constant.resolveGap_ok (by rw [← Int.mul_sub]; exact range.startUtc) range.start
  cases up
  · simp only [Zoned.round, floor, resolved, ok_bind]
    rfl
  · have inUtc := constant.convert_ok Zone.constant_utc
      (by rw [← Int.mul_sub]; exact range.nextUtc)
      (by rw [Int.add_zero, ← Int.mul_sub]; exact range.nextUtc)
    have last : ({ wall := 1000 * nextUnitStart u (w / 1000) - 1000 * o + 0 } : Moment).shift (-1000) =
        .ok { wall := 1000 * (nextUnitStart u (w / 1000) - o - 1) } := by
      rw [Moment.shift, show 1000 * nextUnitStart u (w / 1000) - 1000 * o + 0 + -1000 =
        1000 * (nextUnitStart u (w / 1000) - o - 1) by omega]
      exact Moment.checked_ok range.last
    simp only [Zoned.round, floor, resolved, ok_bind, Zoned.add_unitStart constant range, inUtc, last]
    rfl

/-- `now/u` in a zone `o` milliseconds east of UTC is the start of the unit holding the local
time `t + o`, less `o`; rounding up, it is the start of the next unit less `o` and one
millisecond. -/
theorem rounding_in_constant_zone {zone : Zone} {o : Int} (constant : zone.Constant (1000 * o))
    {now : Stamp} (short : ∀ s, now.offset = some s → s.natAbs < 86400000000)
    {c : Char} {u : TimeUnit} (unit : unitOf? c = some u)
    (range : RoundingInRange u (now.utcMicros / 1000 + o) o) :
    evaluate ("now/" ++ String.singleton c) now false zone =
        .ok (unitStart u (now.utcMicros / 1000 + o) - o) ∧
      evaluate ("now/" ++ String.singleton c) now true zone =
        .ok (nextUnitStart u (now.utcMicros / 1000 + o) - o - 1) := by
  have onClock : (now.utcMicros + 1000 * o) / 1000 = now.utcMicros / 1000 + o := by omega
  have anchor : nowMoment now zone = .ok { wall := now.utcMicros + 1000 * o } := by
    have utc := @inRange_of_millis now.utcMicros (by simpa using range.now)
    have shown := @inRange_of_millis (now.utcMicros + 1000 * o) (by rw [onClock]; exact range.clock)
    exact (stampZone_constant short).convert_ok constant utc shown
  have chars : ("now/" ++ String.singleton c).toList = ['n', 'o', 'w', '/', c] := by simp
  have text : (Text.strip ("now/" ++ String.singleton c)).toList = 'n' :: 'o' :: 'w' :: ['/', c] :=
    @Text.strip_now _ ['/'] c chars (isSpace_of_unit unit)
  have read : steps ("now/" ++ String.singleton c) ['/', c] = ([.round u], none) := by
    rw [steps_round _ c u unit []]
    simp [steps]
  have rounds := Zoned.round_unitStart constant (onClock ▸ range)
  rw [onClock] at rounds
  refine ⟨?_, ?_⟩
  all_goals
    rw [evaluate_now _ _ _ text, anchor, ok_bind]
    simp only [finish, read, apply, rounds, ok_bind, Bool.false_eq_true, if_false, if_true,
      constant.instant, Zone.instant_utc]
    exact congrArg Except.ok (by omega)

/-- At five hours thirty east of UTC, 2014-11-18T10:30:15.123Z rounds down to the first of the
local month, 2014-10-31T18:30Z, and up to one millisecond before the first of the next. -/
theorem month_rounding_east_of_utc :
    evaluate ("now/" ++ String.singleton 'M') { wall := 1416306615123000 } false
        (.fixed 19800000000) = .ok 1414780200000 ∧
      evaluate ("now/" ++ String.singleton 'M') { wall := 1416306615123000 } true
        (.fixed 19800000000) = .ok 1417372199999 := by
  let now : Stamp := { wall := 1416306615123000 }
  have range : RoundingInRange .month (now.utcMicros / 1000 + 19800000) 19800000 :=
    ⟨by decide, by decide, by decide, by decide, by decide, by decide, by decide⟩
  have start : unitStart .month (now.utcMicros / 1000 + 19800000) = 1414800000000 := by decide
  have next : nextUnitStart .month (now.utcMicros / 1000 + 19800000) = 1417392000000 := by decide
  obtain ⟨down, up⟩ := @rounding_in_constant_zone (.fixed 19800000000) 19800000
    (Zone.constant_fixed (by decide)) now (by simp [now]) 'M' .month rfl range
  rw [start] at down
  rw [next] at up
  exact ⟨down, up⟩

end PortableSearch.DateMath
