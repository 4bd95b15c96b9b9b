import PortableSearch.Proofs.CivilCalendar
import PortableSearch.Proofs.Outcome
import PortableSearch.DateMath

/-! Date-time arithmetic in zones, up to the range errors it may stop with (`OkOrRange`). On a clock
that reads back its instants, seconds, minutes and hours move the instant by their length; days
and weeks do so where the offset is constant. -/

namespace PortableSearch

open PortableSearch.Time

/-- The faults of date-time arithmetic that leaves its range: a moment outside years 1 to 9999,
a year field out of range, a duration too long, an integer too wide for its word. -/
def Fault.isRangeError : Fault → Bool
  | .dateOutOfRange | .yearOutOfRange _ | .durationOutOfRange _ | .overflow _ => true
  | _ => false

/-- An outcome that is a value with property `p`, unless date-time arithmetic left its range. -/
def OkOrRange {α : Type} (x : Outcome α) (p : α → Prop) : Prop :=
  (∃ a, x = .ok a ∧ p a) ∨ ∃ f, x = .error f ∧ f.isRangeError = true

namespace OkOrRange

variable {α β : Type} {x : Outcome α} {p p' : α → Prop} {q : β → Prop}

theorem of_ok {a : α} (holds : p a) : OkOrRange (.ok a) p := .inl ⟨a, rfl, holds⟩

theorem of_range {f : Fault} (range : f.isRangeError = true) : OkOrRange (.error f : Outcome α) p :=
  .inr ⟨f, rfl, range⟩

theorem bind {g : α → Outcome β} (first : OkOrRange x p) (next : ∀ a, p a → OkOrRange (g a) q) :
    OkOrRange (x >>= g) q := by
  rcases first with ⟨a, rfl, holds⟩ | ⟨f, rfl, range⟩
  · exact next a holds
  · exact of_range range

theorem mono (outcome : OkOrRange x p) (weaker : ∀ a, p a → p' a) : OkOrRange x p' := by
  rcases outcome with ⟨a, rfl, holds⟩ | ⟨f, rfl, range⟩
  · exact of_ok (weaker a holds)
  · exact of_range range

theorem holds {a : α} (outcome : OkOrRange x p) (given : x = .ok a) : p a := by
  rcases outcome with ⟨b, same, has⟩ | ⟨f, failed, -⟩
  · rw [given, Except.ok.injEq] at same
    exact same ▸ has
  · rw [given] at failed
    cases failed

end OkOrRange

theorem Moment.checked_okOrRange (w : Int) : OkOrRange (Moment.checked w) (·.wall = w) := by
  unfold Moment.checked
  split
  · exact .of_ok rfl
  · exact .of_range rfl

theorem Moment.checked_ok {w : Int} (range : inRange w = true) :
    Moment.checked w = .ok { wall := w } := by
  simp [Moment.checked, range]

theorem Moment.checked_fold {w : Int} {m : Moment} (checked : Moment.checked w = .ok m) :
    m.fold = false := by
  unfold Moment.checked at checked
  split at checked
  · cases checked
    rfl
  · cases checked

theorem Moment.shift_okOrRange (m : Moment) (d : Int) :
    OkOrRange (m.shift d) (·.wall = m.wall + d) :=
  Moment.checked_okOrRange _

theorem durationMicros_okOrRange (d : Int) : OkOrRange (durationMicros d) (· = d) := by
  unfold durationMicros
  dsimp only
  split
  · exact .of_range rfl
  split
  · exact .of_range rfl
  · exact .of_ok rfl

theorem checkYear_okOrRange (year : Int) : OkOrRange (checkYear year) (fun _ => True) := by
  unfold checkYear
  split
  · exact .of_range rfl
  split
  · exact .of_range rfl
  · exact .of_ok trivial

theorem checkYear_ok {year : Int} (low : 1 ≤ year) (high : year ≤ 9999) :
    checkYear year = .ok () := by
  have narrow : Narrowing.check32 year = none := by
    unfold Narrowing.check32 int64Bound int32Bound
    rw [if_neg (by omega), if_neg (by omega), if_neg (by omega)]
  simp only [checkYear, narrow]
  rw [if_neg (by omega)]

/-- A zone reads back the instants it shows: the moment it shows for an instant has that instant,
unless the moment is out of range. -/
def Zone.ReadsBack (zone : Zone) : Prop :=
  ∀ u, OkOrRange (zone.fromUtc u) (fun m => zone.instant m = .ok u)

/-- A zone of constant offset `o`: every moment has it, and every instant is shown at it, a first
occurrence, unless the moment shown is out of range. -/
structure Zone.Constant (zone : Zone) (o : Int) : Prop where
  offset : ∀ m, zone.offset m = .ok o
  fromUtc : ∀ u, zone.fromUtc u = .ok { wall := u + o } ∨
    inRange (u + o) = false ∧ zone.fromUtc u = .error .dateOutOfRange

namespace Zone

variable {zone : Zone} {o : Int}

theorem Constant.fromUtc_okOrRange (constant : zone.Constant o) (u : Int) :
    OkOrRange (zone.fromUtc u) (·.wall = u + o) := by
  rcases constant.fromUtc u with shown | ⟨-, out⟩
  · exact shown ▸ .of_ok rfl
  · exact out ▸ .of_range rfl

theorem Constant.fromUtc_ok (constant : zone.Constant o) {u : Int} (range : inRange (u + o) = true) :
    zone.fromUtc u = .ok { wall := u + o } := by
  rcases constant.fromUtc u with shown | ⟨out, -⟩
  · exact shown
  · rw [range] at out
    cases out

theorem Constant.instant (constant : zone.Constant o) (m : Moment) :
    zone.instant m = .ok (m.wall - o) := by
  simp [Zone.instant, constant.offset m]

theorem Constant.readsBack (constant : zone.Constant o) : zone.ReadsBack := fun u =>
  (constant.fromUtc_okOrRange u).mono fun m wall => by rw [constant.instant, wall, Int.add_sub_cancel]

theorem constant_utc : Zone.utc.Constant 0 where
  offset _ := rfl
  fromUtc u := .inl (by rw [Int.add_zero]; rfl)

theorem constant_fixed (short : o.natAbs < 86400000000) : (Zone.fixed o).Constant o where
  offset _ := by simp [Zone.offset, Zone.checkOffset, Nat.not_le.mpr short]
  fromUtc u := by
    show Moment.checked (u + o) = _ ∨ _ ∧ Moment.checked (u + o) = _
    unfold Moment.checked
    by_cases range : inRange (u + o) = true
    · exact .inl (by rw [if_pos range])
    · exact .inr ⟨by simpa using range, by rw [if_neg range]⟩

end Zone

theorem Zone.instant_utc (m : Moment) : Zone.utc.instant m = .ok m.wall := by
  simp [Zone.instant, Zone.offset]

theorem Zone.utc_readsBack : Zone.utc.ReadsBack := fun _ => .of_ok (Zone.instant_utc _)

/-- A moment converted to a zone that reads back its instants keeps its instant. -/
theorem Zone.convert_okOrRange {source target : Zone} {m : Moment} {I : Int}
    (inst : source.instant m = .ok I) (readsBack : target.ReadsBack) :
    OkOrRange (source.convert m target) (fun m' => target.instant m' = .ok I) := by
  obtain ⟨o, offset, read⟩ := bind_eq_ok.mp inst
  cases read
  unfold Zone.convert
  split
  · rename_i both
    have utc : source = .utc ∧ target = .utc := by
      cases source <;> cases target <;> simp [Zone.isUtc] at both ⊢
    obtain ⟨rfl, rfl⟩ := utc
    exact .of_ok inst
  · simp only [Zone.toUtc, offset, ok_bind]
    exact (Moment.shift_okOrRange m (-o)).bind fun u wall =>
      (readsBack u.wall).mono fun m' back => by rw [back, wall, Int.sub_eq_add_neg]

theorem carryMonth_same {y : Int} {m : Nat} (hm : 1 ≤ m ∧ m ≤ 12) :
    carryMonth (y + 0 + 0) ((m : Int) + 0) = (y, (m : Int)) := by
  unfold carryMonth
  split_ifs <;> simp <;> omega

theorem Moment.addCalendar_days (m : Moment) (days : Int) :
    OkOrRange (m.addCalendar 0 0 days) (·.wall = m.wall + days * microsPerDay) := by
  obtain ⟨low, high, -, long⟩ := Reading.ofMicros_valid m.wall
  unfold Moment.addCalendar
  simp only [show splitMonths 0 = (0, 0) from rfl, carryMonth_same ⟨low, high⟩, Int.toNat_natCast,
    Nat.min_eq_right long]
  exact (checkYear_okOrRange _).bind fun _ _ => (durationMicros_okOrRange _).bind fun d same =>
    (Moment.checked_okOrRange _).mono fun m' wall => by
      rw [wall, same]
      exact congrArg (· + days * microsPerDay) (Reading.toMicros_ofMicros m.wall)

theorem Moment.addCalendar_days_ok {w days : Int} (range : inRange w = true)
    (span : durationMicros (days * microsPerDay) = .ok (days * microsPerDay))
    (after : inRange (w + days * microsPerDay) = true) :
    Moment.addCalendar { wall := w } 0 0 days = .ok { wall := w + days * microsPerDay } := by
  obtain ⟨low, high, -, long⟩ := Reading.ofMicros_valid w
  obtain ⟨first, last⟩ := Reading.year_of_inRange range
  unfold Moment.addCalendar
  simp only [show splitMonths 0 = (0, 0) from rfl, carryMonth_same ⟨low, high⟩, Int.toNat_natCast,
    Nat.min_eq_right long, checkYear_ok first last, span, ok_bind]
  calc Moment.checked ((Reading.ofMicros w).toMicros + days * microsPerDay)
      = Moment.checked (w + days * microsPerDay) := by rw [Reading.toMicros_ofMicros]
    _ = .ok { wall := w + days * microsPerDay } := Moment.checked_ok after

theorem Moment.addCalendar_first {y Y years months carried rest : Int} {m M : Nat}
    (hm : 1 ≤ m ∧ m ≤ 12) (hM : 1 ≤ M ∧ M ≤ 12) (split : splitMonths months = (carried, rest))
    (reached : carryMonth (y + years + carried) (m + rest) = (Y, (M : Int)))
    (after : inRange (daysFromCivil Y M 1 * microsPerDay) = true) :
    Moment.addCalendar { wall := daysFromCivil y m 1 * microsPerDay } years months 0 =
      .ok { wall := daysFromCivil Y M 1 * microsPerDay } := by
  have first : 1 ≤ daysInMonth y m := le_trans (by decide) (twentyEight_le_daysInMonth hm)
  have firstThen : 1 ≤ daysInMonth Y M := le_trans (by decide) (twentyEight_le_daysInMonth hM)
  have year := Reading.year_of_inRange after
  rw [Reading.ofMicros_midnight hM ⟨le_refl 1, firstThen⟩] at year
  dsimp only at year
  unfold Moment.addCalendar
  simp only [Reading.ofMicros_midnight hm ⟨le_refl 1, first⟩, split, reached, Int.toNat_natCast,
    Nat.min_eq_right firstThen, checkYear_ok year.1 year.2, ok_bind]
  have none : durationMicros (0 * microsPerDay) = .ok 0 := rfl
  have midnight : ({ year := Y, month := M, day := 1 } : Reading).toMicros + 0 =
      daysFromCivil Y M 1 * microsPerDay := by
    simp [Reading.toMicros, Reading.timeMicros]
  rw [none, ok_bind, midnight]
  exact Moment.checked_ok after

theorem Moment.addCalendar_fold {m n : Moment} {years months days : Int}
    (added : m.addCalendar years months days = .ok n) : n.fold = false := by
  unfold Moment.addCalendar at added
  obtain ⟨_, -, rest⟩ := bind_eq_ok.mp added
  obtain ⟨_, -, checked⟩ := bind_eq_ok.mp rest
  exact Moment.checked_fold checked

theorem Moment.addCalendar_moment {m : Moment} {years months days w : Int}
    (added : OkOrRange (m.addCalendar years months days) (·.wall = w)) :
    OkOrRange (m.addCalendar years months days) (· = { wall := w }) := by
  rcases added with ⟨n, reached, wall⟩ | ⟨f, failed, range⟩
  · refine .inl ⟨n, reached, ?_⟩
    obtain ⟨w', fold⟩ := n
    have first := Moment.addCalendar_fold reached
    simp only at wall first
    rw [wall, first]
  · exact .inr ⟨f, failed, range⟩

theorem Moment.addCalendar_first_okOrRange {y Y years months carried rest : Int} {m M : Nat}
    (hm : 1 ≤ m ∧ m ≤ 12) (hM : 1 ≤ M ∧ M ≤ 12) (split : splitMonths months = (carried, rest))
    (reached : carryMonth (y + years + carried) (m + rest) = (Y, (M : Int))) (fold : Bool) :
    OkOrRange (Moment.addCalendar { wall := daysFromCivil y m 1 * microsPerDay, fold } years months 0)
      (·.wall = daysFromCivil Y M 1 * microsPerDay) := by
  have first : 1 ≤ daysInMonth y m := le_trans (by decide) (twentyEight_le_daysInMonth hm)
  have firstThen : 1 ≤ daysInMonth Y M := le_trans (by decide) (twentyEight_le_daysInMonth hM)
  have midnight : ({ year := Y, month := M, day := 1 } : Reading).toMicros + 0 =
      daysFromCivil Y M 1 * microsPerDay := by
    simp [Reading.toMicros, Reading.timeMicros]
  unfold Moment.addCalendar
  simp only [Reading.ofMicros_midnight hm ⟨le_refl 1, first⟩, split, reached, Int.toNat_natCast,
    Nat.min_eq_right firstThen]
  exact (checkYear_okOrRange _).bind fun _ _ => by
    rw [show durationMicros (0 * microsPerDay) = .ok 0 from rfl, ok_bind, midnight]
    exact Moment.checked_okOrRange _

theorem Zone.Constant.utc_convert {zone : Zone} {o : Int} (constant : zone.Constant o) (v : Moment) :
    OkOrRange (Zone.utc.convert v zone) (·.wall = v.wall + o) := by
  unfold Zone.convert
  split
  · rename_i both
    have utc : zone = .utc := by cases zone <;> simp [Zone.isUtc] at both ⊢
    subst utc
    have none : o = 0 := by simpa [Zone.offset] using (constant.offset v).symm
    exact .of_ok (by rw [none, Int.add_zero])
  · simp only [Zone.toUtc, Zone.offset, ok_bind]
    exact (Moment.shift_okOrRange v (-0)).bind fun u wall =>
      (constant.fromUtc_okOrRange u.wall).mono fun m moved => by rw [moved, wall, Int.neg_zero, Int.add_zero]

theorem Zone.resolveGap_of_exists {zone : Zone} {m : Moment} (present : zone.exists m = .ok true) :
    zone.resolveGap m = .ok m := by
  unfold Zone.resolveGap
  rw [present]
  rfl

/-- Every clock time of a zone of constant offset exists, so moving a skipped time forward keeps
every moment. -/
theorem Zone.Constant.resolveGap {zone : Zone} {o : Int} (constant : zone.Constant o) (m : Moment) :
    OkOrRange (zone.resolveGap m) (· = m) := by
  have present : OkOrRange (zone.exists m) (· = true) := by
    unfold Zone.exists
    exact (Zone.convert_okOrRange (constant.instant m) Zone.utc_readsBack).bind fun u inst =>
      (constant.utc_convert u).bind fun back moved => .of_ok (by
        rw [Zone.instant_utc, Except.ok.injEq] at inst
        simp [moved, inst])
  unfold Zone.resolveGap
  exact present.bind fun b kept => by
    subst kept
    exact .of_ok rfl

theorem Zone.Constant.convert_ok {source target : Zone} {os ot w : Int}
    (fromZone : source.Constant os) (toZone : target.Constant ot)
    (utc : inRange (w - os) = true) (shown : inRange (w - os + ot) = true) :
    source.convert { wall := w } target = .ok { wall := w - os + ot } := by
  unfold Zone.convert
  split
  · rename_i both
    obtain ⟨rfl, rfl⟩ : source = .utc ∧ target = .utc := by
      cases source <;> cases target <;> simp [Zone.isUtc] at both ⊢
    have none : os = 0 ∧ ot = 0 := by
      simpa [Zone.offset] using
        And.intro (fromZone.offset { wall := w }).symm (toZone.offset { wall := w }).symm
    rw [none.1, none.2, Int.sub_zero, Int.add_zero]
  · simp only [Zone.toUtc, fromZone.offset, ok_bind, Moment.shift, ← Int.sub_eq_add_neg,
      Moment.checked_ok utc]
    exact toZone.fromUtc_ok shown

/-- A wall-clock time of a zone of constant offset, brought to another zone, is the moment that
zone shows at its instant. -/
theorem Zone.Constant.convert_shown {zone src : Zone} {os w : Int} {m : Moment}
    (source : src.Constant os) (shown : zone.fromUtc (w - os) = .ok m) :
    OkOrRange (src.convert { wall := w } zone) (· = m) := by
  unfold Zone.convert
  split
  · rename_i both
    obtain ⟨rfl, rfl⟩ : src = .utc ∧ zone = .utc := by
      cases src <;> cases zone <;> simp_all [Zone.isUtc]
    have zero : os = 0 := by
      simpa [Zone.offset] using (source.offset { wall := 0 }).symm
    rw [zero, Int.sub_zero] at shown
    exact .of_ok (Except.ok.inj shown)
  · simp only [Zone.toUtc, source.offset, ok_bind]
    refine (Moment.shift_okOrRange _ _).bind fun v wall => ?_
    have instant : v.wall = w - os := by
      rw [wall]
      dsimp only
      omega
    rw [instant, shown]
    exact .of_ok rfl

theorem Zone.Constant.resolveGap_ok {zone : Zone} {o w : Int} (constant : zone.Constant o)
    (utc : inRange (w - o) = true) (range : inRange w = true) :
    zone.resolveGap { wall := w } = .ok { wall := w } := by
  have there := constant.convert_ok Zone.constant_utc utc (by rwa [Int.add_zero])
  have back := @Zone.Constant.convert_ok .utc zone 0 o (w - o) Zone.constant_utc constant
    (by rwa [Int.sub_zero]) (by rwa [Int.sub_zero, Int.sub_add_cancel])
  rw [Int.add_zero] at there
  rw [Int.sub_zero, Int.sub_add_cancel] at back
  simp [Zone.resolveGap, Zone.exists, there, back]
  rfl

/-- A unit whose length is fixed in a zone, with that length in microseconds: seconds, minutes
and hours in every zone, days and weeks in a zone of constant offset. -/
inductive FixedIn (zone : Zone) : TimeUnit → Int → Prop
  | second : FixedIn zone .second 1000000
  | minute : FixedIn zone .minute 60000000
  | hour : FixedIn zone .hour 3600000000
  | day {o : Int} (constant : zone.Constant o) : FixedIn zone .day microsPerDay
  | week {o : Int} (constant : zone.Constant o) : FixedIn zone .week (7 * microsPerDay)

namespace FixedIn

variable {zone : Zone} {u : TimeUnit} {len : Int}

theorem utc (fixed : FixedIn zone u len) : FixedIn .utc u len := by
  cases fixed with
  | second => exact .second
  | minute => exact .minute
  | hour => exact .hour
  | day => exact .day Zone.constant_utc
  | week => exact .week Zone.constant_utc

theorem whole_millis (fixed : FixedIn zone u len) : 1000 ∣ len := by
  cases fixed <;> exact Int.dvd_of_emod_eq_zero rfl

end FixedIn

namespace DateMath

/-- Adding `n` seconds, minutes or hours moves the instant by `n` of them, on a clock that reads
back its instants: they are added on the UTC time line. -/
theorem Zoned.add_clock {z : Zoned} {u : TimeUnit} {I : Int} (readsBack : z.zone.ReadsBack)
    (clock : u = .hour ∨ u = .minute ∨ u = .second) (inst : z.zone.instant z.moment = .ok I)
    (n : Int) :
    OkOrRange (z.add n u)
      (fun z' => z'.zone = z.zone ∧ z'.zone.instant z'.moment = .ok (I + n * u.micros)) := by
  have onUtc : OkOrRange (do
      let v ← z.zone.convert z.moment .utc
      let d ← durationMicros (n * u.micros)
      let w ← v.shift d
      let back ← Zone.utc.convert w z.zone
      pure { z with moment := back } : Outcome Zoned)
      (fun z' => z'.zone = z.zone ∧ z'.zone.instant z'.moment = .ok (I + n * u.micros)) :=
    (Zone.convert_okOrRange inst Zone.utc_readsBack).bind fun v wall =>
      (durationMicros_okOrRange _).bind fun d same =>
        (Moment.shift_okOrRange v d).bind fun w shifted =>
          (Zone.convert_okOrRange (Zone.instant_utc w) readsBack).bind fun back moved => .of_ok ⟨rfl, by
            rw [Zone.instant_utc, Except.ok.injEq] at wall
            rw [moved, shifted, wall, same]⟩
  rcases clock with rfl | rfl | rfl <;> exact onUtc

/-- Adding `n` days moves the instant by `n` days in a zone of constant offset: they are added on
the wall clock, where no time is skipped. -/
theorem Zoned.add_days {z : Zoned} {o I : Int} (constant : z.zone.Constant o)
    (inst : z.zone.instant z.moment = .ok I) (days : Int) :
    OkOrRange (do
        let m ← z.moment.addCalendar 0 0 days
        let m ← z.zone.resolveGap m
        pure { z with moment := m } : Outcome Zoned)
      (fun z' => z'.zone = z.zone ∧ z'.zone.instant z'.moment = .ok (I + days * microsPerDay)) := by
  have start := constant.instant z.moment
  rw [inst, Except.ok.injEq] at start
  exact (Moment.addCalendar_days z.moment days).bind fun m wall =>
    (constant.resolveGap m).bind fun m' same =>
      .of_ok ⟨rfl, by rw [same, constant.instant, wall, start]; congr 1; omega⟩

theorem Zoned.add_fixed {z : Zoned} {u : TimeUnit} {len I : Int} (readsBack : z.zone.ReadsBack)
    (fixed : FixedIn z.zone u len) (inst : z.zone.instant z.moment = .ok I) (n : Int) :
    OkOrRange (z.add n u)
      (fun z' => z'.zone = z.zone ∧ z'.zone.instant z'.moment = .ok (I + n * len)) := by
  cases fixed with
  | second => exact Zoned.add_clock readsBack (.inr (.inr rfl)) inst n
  | minute => exact Zoned.add_clock readsBack (.inr (.inl rfl)) inst n
  | hour => exact Zoned.add_clock readsBack (.inl rfl) inst n
  | day constant => exact Zoned.add_days constant inst n
  | week constant =>
    exact (Zoned.add_days constant inst (7 * n)).mono fun z' ⟨zone, moved⟩ =>
      ⟨zone, by rw [moved, Int.mul_comm 7 n, Int.mul_assoc]⟩

end DateMath

end PortableSearch
