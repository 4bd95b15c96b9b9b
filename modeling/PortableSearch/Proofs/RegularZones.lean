import PortableSearch.Proofs.ZoneArithmetic

/-! Zones whose wall clock behaves as a clock: it reads back the instants it shows, and the first
instants of its clock times come in their order. Zones of constant offset are such, and so is every
zone whose offset changes once, forward or back. -/

namespace PortableSearch

open PortableSearch.Time

namespace Zone

def firstInstant (zone : Zone) (w : Int) : Outcome Int := zone.instant { wall := w }

/-- A wall-clock time that a zone's clock shows once: it is not skipped, and read as a first or
as a second occurrence it has one offset. -/
def ShowsOnce (zone : Zone) (w : Int) : Prop :=
  zone.exists { wall := w } = .ok true ∧ zone.offset { wall := w, fold := true } = zone.offset { wall := w }

/-- A zone whose clock behaves as a clock. It reads back every instant it shows; a wall-clock
time at or before the time it shows at an instant is first shown no later than that instant, and
one after it that it shows once is first shown after it; its offsets are whole milliseconds. -/
structure Regular (zone : Zone) : Prop where
  readsBack : zone.ReadsBack
  firstInstant_le : ∀ {x w i : Int} {m : Moment}, zone.fromUtc x = .ok m → w ≤ m.wall →
    zone.exists { wall := w } = .ok true → zone.firstInstant w = .ok i → i ≤ x
  lt_firstInstant : ∀ {x w i : Int} {m : Moment}, zone.fromUtc x = .ok m → m.wall < w →
    zone.ShowsOnce w → zone.firstInstant w = .ok i → x < i
  whole : ∀ {m : Moment} {o : Int}, zone.offset m = .ok o → 1000 ∣ o

variable {zone : Zone}

theorem isUtc_eq_false (other : zone ≠ .utc) : zone.isUtc = false := by
  cases zone <;> simp_all [Zone.isUtc]

theorem instant_congr {m m' : Moment} (wall : m.wall = m'.wall)
    (offset : zone.offset m = zone.offset m') : zone.instant m = zone.instant m' := by
  simp only [Zone.instant, offset, wall]

theorem exists_congr {m m' : Moment} (wall : m.wall = m'.wall)
    (offset : zone.offset m = zone.offset m') : zone.exists m = zone.exists m' := by
  by_cases utc : zone = .utc
  · subst utc
    simp [Zone.exists, Zone.convert, Zone.isUtc]
  · simp [Zone.exists, Zone.convert, Zone.toUtc, Moment.shift, isUtc_eq_false utc, offset, wall]

theorem offset_of_exists {m : Moment} (shown : zone.exists m = .ok true) :
    ∃ o, zone.offset m = .ok o := by
  cases given : zone.offset m with
  | ok o => exact ⟨o, rfl⟩
  | error f =>
    by_cases utc : zone = .utc
    · subst utc
      simp [Zone.offset] at given
    · simp [Zone.exists, Zone.convert, Zone.toUtc, isUtc_eq_false utc, given] at shown

namespace ShowsOnce

variable {w : Int} (once : zone.ShowsOnce w) {m : Moment} (wall : m.wall = w)
include once wall

theorem offset_eq : zone.offset m = zone.offset { wall := w } := by
  obtain ⟨w', fold⟩ := m
  simp only at wall
  subst wall
  cases fold
  · rfl
  · exact once.2

theorem shown : zone.exists m = .ok true :=
  (exists_congr wall (once.offset_eq wall)).trans once.1

theorem instant : zone.instant m = zone.firstInstant w :=
  instant_congr wall (once.offset_eq wall)

end ShowsOnce

theorem ShowsOnce.firstInstant_ok {w : Int} (once : zone.ShowsOnce w) :
    ∃ o, zone.offset { wall := w } = .ok o ∧ zone.firstInstant w = .ok (w - o) := by
  obtain ⟨o, offset⟩ := offset_of_exists once.1
  exact ⟨o, offset, by simp [firstInstant, Zone.instant, offset]⟩

theorem Constant.fromUtc_wall {o x : Int} {m : Moment} (constant : zone.Constant o)
    (shown : zone.fromUtc x = .ok m) : m.wall = x + o :=
  (constant.fromUtc_okOrRange x).holds shown

/-- A zone of constant offset, a whole number of milliseconds, behaves as a clock. -/
theorem Constant.regular {o : Int} (constant : zone.Constant o) (whole : 1000 ∣ o) :
    zone.Regular where
  readsBack := constant.readsBack
  firstInstant_le {x w i m} shown before _ first := by
    have start : w - o = i := Except.ok.inj ((constant.instant _).symm.trans first)
    have wall := constant.fromUtc_wall shown
    omega
  lt_firstInstant {x w i m} shown after _ first := by
    have start : w - o = i := Except.ok.inj ((constant.instant _).symm.trans first)
    have wall := constant.fromUtc_wall shown
    omega
  whole offset := by
    rw [constant.offset, Except.ok.injEq] at offset
    exact offset ▸ whole

/-! ## A zone whose offset changes once -/

/-- The table of a zone `a` seconds east of UTC until second `T` and `b` seconds east after it. -/
def Table.oneChange (T a b : Int) : Table :=
  Table.ofTransitions #[⟨a, false⟩, ⟨b, true⟩] [(T, 1)] none

theorem bisectRight_single (v x : Int) : bisectRight #[v] x 0 1 = if x < v then 0 else 1 := by
  have mid : #[v].getD ((0 + 1) / 2) 0 = v := rfl
  rw [bisectRight]
  simp only [Nat.zero_lt_one, dite_true, mid]
  split
  all_goals
    rw [bisectRight]
    simp [*]

theorem oneChange_offsetAtWall (T a b w : Int) (fold : Bool) :
    (Table.oneChange T a b).offsetAtWall w fold =
      if wholeSecond w < T + (if fold then min a b else max a b) then a else b := by
  cases fold
  all_goals
    simp only [Table.oneChange, Table.ofTransitions, Table.offsetAtWall, wallTimes, beforeType]
    simp [bisectRight_single, Rule.offsetAtWall]
    split_ifs <;> rfl

theorem oneChange_offsetAtInstant (T a b x : Int) :
    (Table.oneChange T a b).offsetAtInstant x =
      if wholeSecond x < T then (a, false) else (b, decide (b < a ∧ wholeSecond x < T + (a - b))) := by
  simp only [Table.oneChange, Table.ofTransitions, Table.offsetAtInstant, beforeType]
  simp [bisectRight_single, Rule.offsetAtInstant]
  split_ifs <;> first | rfl | omega |
    (simp; by_cases lower : b < a <;> simp [lower] <;> omega)

theorem table_fromUtc (t : Table) (x : Int) :
    OkOrRange ((Zone.table t).fromUtc x) (fun m =>
      m.wall = x + secondsMicros (t.offsetAtInstant x).1 ∧ m.fold = (t.offsetAtInstant x).2) := by
  unfold Zone.fromUtc
  dsimp only
  rcases Moment.checked_okOrRange (x + secondsMicros (t.offsetAtInstant x).1) with
    ⟨m, checked, wall⟩ | ⟨f, failed, range⟩
  · rw [checked]
    exact .of_ok ⟨wall, rfl⟩
  · rw [failed]
    exact .of_range range

theorem table_exists_offset {t : Table} {m : Moment} (shown : (Zone.table t).exists m = .ok true) :
    (t.offsetAtInstant (m.wall - secondsMicros (t.offsetAtWall m.wall m.fold))).1 =
      t.offsetAtWall m.wall m.fold := by
  simp only [Zone.exists, Zone.convert, Zone.isUtc, Zone.toUtc, Zone.offset, Bool.false_eq_true,
    false_and, and_false, if_false, ok_bind, Moment.shift, Zone.fromUtc, bind_eq_ok] at shown
  obtain ⟨u, ⟨v, shifted, toUtc⟩, back, ⟨v', shifted', read⟩, same⟩ := shown
  injection toUtc with toUtc
  subst toUtc
  have atUtc : v.wall = _ := (Moment.checked_okOrRange _).holds shifted
  have again : v'.wall = _ := (Moment.checked_okOrRange _).holds shifted'
  have shownBack := ((table_fromUtc t _).holds read).1
  have kept : back.wall = m.wall := by simpa [pure, Except.pure] using same
  simp only at atUtc again
  rw [again, atUtc, show ∀ a b : Int, a + -b + -0 = a - b by omega] at shownBack
  unfold secondsMicros at *
  omega

theorem oneChange_fromUtc (T a b x : Int) :
    OkOrRange ((Zone.table (Table.oneChange T a b)).fromUtc x) (fun m =>
      m.wall = x + (if x / 1000000 < T then a else b) * 1000000 ∧
        m.fold = decide (T ≤ x / 1000000 ∧ b < a ∧ x / 1000000 < T + (a - b))) := by
  refine (table_fromUtc _ x).mono fun m read => ?_
  obtain ⟨wall, fold⟩ := read
  rw [oneChange_offsetAtInstant] at wall fold
  simp only [wholeSecond, secondsMicros] at wall fold
  by_cases before : x / 1000000 < T
  · simp only [before, if_true] at wall fold ⊢
    refine ⟨wall, ?_⟩
    rw [fold]
    exact (decide_eq_false (by omega)).symm
  · simp only [before, if_false] at wall fold ⊢
    refine ⟨wall, ?_⟩
    rw [fold]
    exact decide_eq_decide.mpr (by omega)

theorem oneChange_offset (T a b w : Int) (fold : Bool) :
    (Zone.table (Table.oneChange T a b)).offset { wall := w, fold } =
      .ok ((if w / 1000000 < T + (if fold then min a b else max a b) then a else b) * 1000000) := by
  simp only [Zone.offset, oneChange_offsetAtWall, wholeSecond, secondsMicros]
  rfl

theorem oneChange_firstInstant {T a b w i : Int}
    (first : (Zone.table (Table.oneChange T a b)).firstInstant w = .ok i) :
    w - (if w / 1000000 < T + max a b then a else b) * 1000000 = i := by
  simp only [firstInstant, Zone.instant, oneChange_offset, ok_bind, Bool.false_eq_true,
    if_false] at first
  exact Except.ok.inj first

/-- Away from the stretch between its two clocks, a zone whose offset changes once shows every
wall-clock time once, when the time and its instant are in range. -/
theorem oneChange_showsOnce {T a b w : Int}
    (away : w / 1000000 < T + min a b ∨ T + max a b ≤ w / 1000000) (range : inRange w = true)
    (utcRange : inRange (w - (if w / 1000000 < T + max a b then a else b) * 1000000) = true) :
    (Zone.table (Table.oneChange T a b)).ShowsOnce w := by
  have low := min_le_left a b
  have high := le_max_right a b
  have offset := oneChange_offset T a b w false
  simp only [Bool.false_eq_true, if_false] at offset
  generalize same : (if w / 1000000 < T + max a b then a else b) = c at offset utcRange
  have back : (Table.oneChange T a b).offsetAtInstant (w - c * 1000000) = (c, false) := by
    rw [oneChange_offsetAtInstant,
      show wholeSecond (w - c * 1000000) = w / 1000000 - c by unfold wholeSecond; omega]
    rcases away with before | after
    · obtain rfl : a = c := by rw [← same, if_pos (by omega)]
      rw [if_pos (by omega)]
    · obtain rfl : b = c := by rw [← same, if_neg (by omega)]
      rw [if_neg (by omega), decide_eq_false (by omega)]
  have there : Moment.checked (w + -(c * 1000000)) = .ok { wall := w - c * 1000000 } := by
    rw [← Int.sub_eq_add_neg]
    exact Moment.checked_ok utcRange
  have kept : Moment.checked (w - c * 1000000 + -0) = .ok { wall := w - c * 1000000 } := by
    rw [Int.neg_zero, Int.add_zero]
    exact Moment.checked_ok utcRange
  have home : Moment.checked (w - c * 1000000 + secondsMicros c) = .ok { wall := w } := by
    rw [secondsMicros, Int.sub_add_cancel]
    exact Moment.checked_ok range
  refine ⟨?_, ?_⟩
  · simp only [Zone.exists, Zone.convert, Zone.isUtc, Bool.false_eq_true, and_false, false_and,
      if_false, Zone.toUtc, offset, ok_bind, Moment.shift, there]
    simp only [Zone.fromUtc, Zone.offset, ok_bind, kept, back, home, beq_self_eq_true]
    rfl
  · rw [oneChange_offset, offset]
    congr 2
    omega

/-- A zone whose offset changes once behaves as a clock, whichever way the change goes. -/
theorem oneChange_regular (T a b : Int) : (Zone.table (Table.oneChange T a b)).Regular where
  readsBack x := by
    refine (oneChange_fromUtc T a b x).mono fun m read => ?_
    obtain ⟨wall, fold⟩ := read
    obtain ⟨w, f⟩ := m
    simp only at wall fold
    subst wall fold
    simp only [Zone.instant, oneChange_offset, ok_bind]
    show Except.ok _ = Except.ok x
    congr 1
    split_ifs <;> simp only [decide_eq_true_eq] at * <;> omega
  firstInstant_le {x w i m} shown before present first := by
    have wall := ((oneChange_fromUtc T a b x).holds shown).1
    have start := oneChange_firstInstant first
    -- a wall-clock time the zone shows is not in the gap of a change forward
    have gap := table_exists_offset present
    simp only [oneChange_offsetAtInstant, oneChange_offsetAtWall, wholeSecond, secondsMicros,
      Bool.false_eq_true, if_false] at gap
    split_ifs at * <;> omega
  lt_firstInstant {x w i m} shown after once first := by
    have wall := ((oneChange_fromUtc T a b x).holds shown).1
    have start := oneChange_firstInstant first
    -- a wall-clock time shown once is not in the hour repeated by a change back
    have single := once.2
    rw [oneChange_offset, oneChange_offset, Except.ok.injEq] at single
    simp only [if_true, Bool.false_eq_true, if_false] at single
    split_ifs at * <;> omega
  whole {m o} offset := by
    obtain ⟨w, fold⟩ := m
    rw [oneChange_offset, Except.ok.injEq] at offset
    omega

end Zone

end PortableSearch
