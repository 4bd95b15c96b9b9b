import Mathlib.Tactic.IntervalCases
import PortableSearch.Time.Stamp

/-! The day numbers of the proleptic Gregorian calendar: `civilFromDays` and `daysFromCivil` are
inverse bijections between day numbers and valid dates. Both cut the day count into 400-year eras,
on whose decomposition into centuries, four-year runs and years the divisions are taken. -/

namespace PortableSearch.Time

section Era

variable {c q k doy : Nat}

theorem era_yearStart (hq : q ≤ 24) (hk : k ≤ 3) :
    365 * (100 * c + 4 * q + k) + (100 * c + 4 * q + k) / 4 - (100 * c + 4 * q + k) / 100 =
      36524 * c + 1461 * q + 365 * k := by
  omega

theorem era_div1460 (hc : c ≤ 3) (hq : q ≤ 24) (hk : k ≤ 3) (hd : doy ≤ 365) :
    (36524 * c + 1461 * q + 365 * k + doy) / 1460 =
      25 * c + q + (if 1460 ≤ 24 * c + q + 365 * k + doy then 1 else 0) := by
  split <;> omega

theorem era_div36524 (hq : q ≤ 24) (hk : k ≤ 3) (hd : doy ≤ 365) :
    (36524 * c + 1461 * q + 365 * k + doy) / 36524 =
      c + (if q = 24 ∧ k = 3 ∧ doy = 365 then 1 else 0) := by
  split <;> omega

theorem era_div146096 (hc : c ≤ 3) (hq : q ≤ 24) (hk : k ≤ 3) (hd : doy ≤ 365) :
    (36524 * c + 1461 * q + 365 * k + doy) / 146096 =
      if c = 3 ∧ q = 24 ∧ k = 3 ∧ doy = 365 then 1 else 0 := by
  split <;> omega

/-- The year of the era that `civilFromDays` finds for a day of it is the year the day is in. -/
theorem era_year (hc : c ≤ 3) (hq : q ≤ 24) (hk : k ≤ 3) (hd : doy ≤ 365)
    (leap : doy = 365 → k = 3 ∧ (q < 24 ∨ c = 3)) :
    let doe := 36524 * c + 1461 * q + 365 * k + doy
    (doe - doe / 1460 + doe / 36524 - doe / 146096) / 365 = 100 * c + 4 * q + k := by
  intro doe
  rw [era_div1460 hc hq hk hd, era_div36524 hq hk hd, era_div146096 hc hq hk hd]
  split <;> split <;> split <;> omega

/-- Every day of an era is a day of one of its years. -/
theorem era_decompose {doe : Nat} (h : doe ≤ 146096) :
    ∃ c q k doy, c ≤ 3 ∧ q ≤ 24 ∧ k ≤ 3 ∧ doy ≤ 365 ∧ (doy = 365 → k = 3 ∧ (q < 24 ∨ c = 3)) ∧
      doe = 36524 * c + 1461 * q + 365 * k + doy := by
  let c := min (doe / 36524) 3
  let q := (doe - 36524 * c) / 1461
  let k := min ((doe - 36524 * c - 1461 * q) / 365) 3
  refine ⟨c, q, k, doe - 36524 * c - 1461 * q - 365 * k, ?_⟩
  omega

theorem era_year_decompose {yoe : Nat} (h : yoe ≤ 399) :
    ∃ c q k, c ≤ 3 ∧ q ≤ 24 ∧ k ≤ 3 ∧ yoe = 100 * c + 4 * q + k :=
  ⟨yoe / 100, yoe % 100 / 4, yoe % 4, by omega, by omega, by omega, by omega⟩

end Era

theorem day_of_era (z : Int) :
    ∃ era : Int, ∃ doe : Nat, z + 719468 = era * 146097 + doe ∧ doe ≤ 146096 :=
  ⟨(z + 719468) / 146097, (z + 719468 - (z + 719468) / 146097 * 146097).toNat, by omega, by omega⟩

theorem civilFromDays_of_era {z era : Int} {c q k doy : Nat} (hc : c ≤ 3) (hq : q ≤ 24)
    (hk : k ≤ 3) (hd : doy ≤ 365) (leap : doy = 365 → k = 3 ∧ (q < 24 ∨ c = 3))
    (split : z + 719468 = era * 146097 + (36524 * c + 1461 * q + 365 * k + doy : Nat)) :
    civilFromDays z =
      let mp := (5 * doy + 2) / 153
      let m := if mp < 10 then mp + 3 else mp - 9
      let y := ((100 * c + 4 * q + k : Nat) : Int) + era * 400
      (if m ≤ 2 then y + 1 else y, m, doy - (153 * mp + 2) / 5 + 1) := by
  have inEra : (z + 719468) / 146097 = era := by omega
  have dayOfEra : (z + 719468 - era * 146097).toNat = 36524 * c + 1461 * q + 365 * k + doy := by
    omega
  have dayOfYear : 36524 * c + 1461 * q + 365 * k + doy -
      (365 * (100 * c + 4 * q + k) + (100 * c + 4 * q + k) / 4 - (100 * c + 4 * q + k) / 100) =
      doy := by
    rw [era_yearStart hq hk]
    omega
  unfold civilFromDays
  simp only [inEra, dayOfEra, era_year hc hq hk hd leap, dayOfYear]

/-- The day number of a date, read off the era and the year of the era of its March-based
year. -/
theorem daysFromCivil_of_era {y era : Int} {m d c q k : Nat} (hc : c ≤ 3) (hq : q ≤ 24) (hk : k ≤ 3)
    (year : (if m ≤ 2 then y - 1 else y) = ((100 * c + 4 * q + k : Nat) : Int) + era * 400) :
    daysFromCivil y m d =
      era * 146097 + ((36524 * c + 1461 * q + 365 * k + dayOfMarchYear m d : Nat) : Int) - 719468 := by
  have inEra : (((100 * c + 4 * q + k : Nat) : Int) + era * 400) / 400 = era := by omega
  have ofEra : (((100 * c + 4 * q + k : Nat) : Int) + era * 400 - era * 400).toNat =
      100 * c + 4 * q + k := by omega
  have start : (100 * c + 4 * q + k) * 365 + (100 * c + 4 * q + k) / 4 - (100 * c + 4 * q + k) / 100 =
      36524 * c + 1461 * q + 365 * k := by omega
  unfold daysFromCivil
  dsimp only
  rw [year, inEra, ofEra, start]

theorem dayOfMarchYear_month {doy : Nat} (hd : doy ≤ 365) :
    dayOfMarchYear (if (5 * doy + 2) / 153 < 10 then (5 * doy + 2) / 153 + 3 else (5 * doy + 2) / 153 - 9)
      (doy - (153 * ((5 * doy + 2) / 153) + 2) / 5 + 1) = doy := by
  have month : (5 * doy + 2) / 153 ≤ 11 := by omega
  generalize hmp : (5 * doy + 2) / 153 = mp at month
  have low : 153 * mp ≤ 5 * doy + 2 := by omega
  interval_cases mp <;> simp [dayOfMarchYear] <;> omega

section Month

variable {y : Int} {m d : Nat}

theorem dayOfMarchYear_index (hm : 1 ≤ m ∧ m ≤ 12) (hd : 1 ≤ d ∧ d ≤ daysInMonth y m) :
    (5 * dayOfMarchYear m d + 2) / 153 = if 2 < m then m - 3 else m + 9 := by
  obtain ⟨low, high⟩ := hm
  obtain ⟨first, last⟩ := hd
  interval_cases m <;> simp [dayOfMarchYear, daysInMonth] at last ⊢ <;>
    (try split_ifs at last) <;> omega

/-- Only February 29 of a leap year is the 366th day of a March-based year. -/
theorem dayOfMarchYear_last (hm : 1 ≤ m ∧ m ≤ 12) (hd : 1 ≤ d ∧ d ≤ daysInMonth y m) :
    dayOfMarchYear m d ≤ 365 ∧ (dayOfMarchYear m d = 365 → m = 2 ∧ isLeapYear y) := by
  obtain ⟨low, high⟩ := hm
  obtain ⟨first, last⟩ := hd
  interval_cases m <;> simp [dayOfMarchYear, daysInMonth] at last ⊢ <;>
    (try split_ifs at last) <;> simp_all <;> omega

theorem month_of_dayOfMarchYear (hm : 1 ≤ m ∧ m ≤ 12) (hd : 1 ≤ d ∧ d ≤ daysInMonth y m) :
    (if (5 * dayOfMarchYear m d + 2) / 153 < 10 then (5 * dayOfMarchYear m d + 2) / 153 + 3
      else (5 * dayOfMarchYear m d + 2) / 153 - 9) = m ∧
      dayOfMarchYear m d - (153 * ((5 * dayOfMarchYear m d + 2) / 153) + 2) / 5 + 1 = d := by
  rw [dayOfMarchYear_index hm hd]
  unfold dayOfMarchYear
  split_ifs <;> omega

end Month

theorem civilFromDays_valid (z : Int) :
    1 ≤ (civilFromDays z).2.1 ∧ (civilFromDays z).2.1 ≤ 12 ∧ 1 ≤ (civilFromDays z).2.2 ∧
      (civilFromDays z).2.2 ≤ daysInMonth (civilFromDays z).1 (civilFromDays z).2.1 := by
  obtain ⟨era, doe, split, bound⟩ := day_of_era z
  obtain ⟨c, q, k, doy, hc, hq, hk, hd, leap, rfl⟩ := era_decompose bound
  rw [civilFromDays_of_era hc hq hk hd leap split]
  have month : (5 * doy + 2) / 153 ≤ 11 := by omega
  generalize hmp : (5 * doy + 2) / 153 = mp at month
  have low : 153 * mp ≤ 5 * doy + 2 := by omega
  have high : 5 * doy + 2 < 153 * (mp + 1) := by omega
  interval_cases mp
  -- February ends the March-based year, and only its length depends on the year
  case «11» =>
    simp [daysInMonth, isLeapYear]
    split_ifs <;> omega
  all_goals simp [daysInMonth]; omega

theorem daysFromCivil_civilFromDays (z : Int) :
    daysFromCivil (civilFromDays z).1 (civilFromDays z).2.1 (civilFromDays z).2.2 = z := by
  obtain ⟨era, doe, split, bound⟩ := day_of_era z
  obtain ⟨c, q, k, doy, hc, hq, hk, hd, leap, rfl⟩ := era_decompose bound
  rw [civilFromDays_of_era hc hq hk hd leap split]
  dsimp only
  rw [@daysFromCivil_of_era _ era _ _ _ _ _ hc hq hk (by split_ifs <;> omega),
    dayOfMarchYear_month hd]
  omega

theorem civilFromDays_daysFromCivil {y : Int} {m d : Nat} (hm : 1 ≤ m ∧ m ≤ 12)
    (hd : 1 ≤ d ∧ d ≤ daysInMonth y m) : civilFromDays (daysFromCivil y m d) = (y, m, d) := by
  obtain ⟨month, day⟩ := month_of_dayOfMarchYear hm hd
  obtain ⟨short, leapDay⟩ := dayOfMarchYear_last hm hd
  obtain ⟨era, hera⟩ : ∃ era, era = (if m ≤ 2 then y - 1 else y) / 400 := ⟨_, rfl⟩
  obtain ⟨c, q, k, hc, hq, hk, yoe⟩ :=
    @era_year_decompose ((if m ≤ 2 then y - 1 else y) - era * 400).toNat (by omega)
  have year : (if m ≤ 2 then y - 1 else y) = ((100 * c + 4 * q + k : Nat) : Int) + era * 400 := by
    omega
  have leap : dayOfMarchYear m d = 365 → k = 3 ∧ (q < 24 ∨ c = 3) := by
    intro last
    obtain ⟨rfl, leapYear⟩ := leapDay last
    simp only [isLeapYear, bne_iff_ne, ne_eq, Bool.and_eq_true, beq_iff_eq, Bool.or_eq_true]
      at leapYear
    simp only [show 2 ≤ 2 from le_refl 2, if_true] at year
    omega
  have split : daysFromCivil y m d + 719468 =
      era * 146097 + ((36524 * c + 1461 * q + 365 * k + dayOfMarchYear m d : Nat) : Int) := by
    rw [daysFromCivil_of_era hc hq hk year]
    omega
  rw [civilFromDays_of_era hc hq hk short leap split]
  dsimp only
  rw [month, day, Prod.mk.injEq]
  refine ⟨?_, rfl⟩
  split_ifs <;> omega

theorem twentyEight_le_daysInMonth {y : Int} {m : Nat} (hm : 1 ≤ m ∧ m ≤ 12) :
    28 ≤ daysInMonth y m := by
  obtain ⟨low, high⟩ := hm
  interval_cases m <;> simp [daysInMonth]
  split_ifs <;> omega

theorem daysFromCivil_day (y : Int) (m : Nat) {d : Nat} (hd : 1 ≤ d) :
    daysFromCivil y m d = daysFromCivil y m 1 + (d - 1 : Nat) := by
  simp only [daysFromCivil, dayOfMarchYear]
  omega

theorem daysFromCivil_first_le (z : Int) :
    daysFromCivil (civilFromDays z).1 (civilFromDays z).2.1 1 ≤ z := by
  have back := daysFromCivil_civilFromDays z
  rw [daysFromCivil_day _ _ (civilFromDays_valid z).2.2.1] at back
  omega

/-- Two dates of one March-based year are as many days apart as their days of that year. -/
theorem daysFromCivil_sub_of_marchYear {y y' : Int} {m m' d d' : Nat}
    (same : (if m ≤ 2 then y - 1 else y) = (if m' ≤ 2 then y' - 1 else y')) :
    daysFromCivil y m d - daysFromCivil y' m' d' = dayOfMarchYear m d - dayOfMarchYear m' d' := by
  simp only [daysFromCivil]
  rw [same]
  omega

theorem daysFromCivil_march (y : Int) : daysFromCivil y 3 1 = daysFromCivil y 2 1 + daysInMonth y 2 := by
  simp only [daysFromCivil, dayOfMarchYear, daysInMonth, isLeapYear]
  split_ifs <;> simp_all <;> omega

theorem dayOfMarchYear_lt_next_month {y : Int} {m d : Nat} (hm : 1 ≤ m ∧ m ≤ 11) (notFeb : m ≠ 2)
    (hd : d ≤ daysInMonth y m) : dayOfMarchYear m d < dayOfMarchYear (m + 1) 1 := by
  obtain ⟨lo, hi⟩ := hm
  interval_cases m <;> simp_all [dayOfMarchYear, daysInMonth] <;> omega

theorem dayOfMarchYear_lt_january {y : Int} {m d : Nat} (hm : 3 ≤ m ∧ m ≤ 12)
    (hd : d ≤ daysInMonth y m) : dayOfMarchYear m d < dayOfMarchYear 1 1 := by
  obtain ⟨lo, hi⟩ := hm
  interval_cases m <;> simp_all [dayOfMarchYear, daysInMonth] <;> omega

theorem daysFromCivil_january_le {y : Int} {m : Nat} (hm : 1 ≤ m ∧ m ≤ 12) :
    daysFromCivil y 1 1 ≤ daysFromCivil y m 1 := by
  by_cases early : m ≤ 2
  · have within := @daysFromCivil_sub_of_marchYear y y m 1 1 1 (by simp [early])
    have first : dayOfMarchYear 1 1 ≤ dayOfMarchYear m 1 := by
      unfold dayOfMarchYear
      split_ifs <;> omega
    omega
  · have fromMarch := @daysFromCivil_sub_of_marchYear y y m 3 1 1 (by simp [early])
    have february := @daysFromCivil_sub_of_marchYear y y 2 1 1 1 rfl
    have march := daysFromCivil_march y
    have days : dayOfMarchYear 3 1 = 0 ∧ dayOfMarchYear 1 1 ≤ dayOfMarchYear 2 1 := by decide
    omega

theorem daysFromCivil_lt_next_month {y : Int} {m d : Nat} (hm : 1 ≤ m ∧ m ≤ 11)
    (hd : d ≤ daysInMonth y m) : daysFromCivil y m d < daysFromCivil y (m + 1) 1 := by
  by_cases feb : m = 2
  · subst feb
    have within := @daysFromCivil_sub_of_marchYear y y 2 2 d 1 rfl
    have days : dayOfMarchYear 2 d = 337 + d - 1 ∧ dayOfMarchYear 2 1 = 337 := ⟨rfl, rfl⟩
    have march := daysFromCivil_march y
    have short := @twentyEight_le_daysInMonth y 2 ⟨by decide, by decide⟩
    show daysFromCivil y 2 d < daysFromCivil y 3 1
    omega
  · have within := @daysFromCivil_sub_of_marchYear y y m (m + 1) d 1 (by split_ifs <;> omega)
    have before := dayOfMarchYear_lt_next_month hm feb hd
    omega

theorem daysFromCivil_lt_next_year {y : Int} {m d : Nat} (hm : 1 ≤ m ∧ m ≤ 12)
    (hd : d ≤ daysInMonth y m) : daysFromCivil y m d < daysFromCivil (y + 1) 1 1 := by
  have newYear := @daysFromCivil_sub_of_marchYear (y + 1) y 1 3 1 1 (by simp)
  have days : dayOfMarchYear 3 1 = 0 := rfl
  by_cases early : m ≤ 2
  · have february := @daysFromCivil_lt_next_month y 2 1 ⟨by decide, by decide⟩
      (le_trans (by decide) (twentyEight_le_daysInMonth ⟨by decide, by decide⟩))
    have toMarch : daysFromCivil y m d < daysFromCivil y 3 1 := by
      obtain ⟨lo, -⟩ := hm
      interval_cases m
      · exact (daysFromCivil_lt_next_month ⟨le_refl 1, by decide⟩ hd).trans february
      · exact daysFromCivil_lt_next_month ⟨by decide, by decide⟩ hd
    omega
  · have within := @daysFromCivil_sub_of_marchYear y (y + 1) m 1 d 1 (by simp [early])
    have before := dayOfMarchYear_lt_january ⟨by omega, hm.2⟩ hd
    omega

/-- The range of wall-clock counts, years 1 to 9999, in days: from 0001-01-01, day -719162, up
to 10000-01-01, day 2932897. -/
theorem inRange_iff {t : Int} :
    inRange t = true ↔ -719162 * microsPerDay ≤ t ∧ t < 2932897 * microsPerDay := by
  have first : daysFromCivil 1 1 1 = -719162 := by decide
  have last : daysFromCivil 10000 1 1 = 2932897 := by decide
  simp only [inRange, minMicros, maxMicros, first, last, Bool.and_eq_true, decide_eq_true_eq]
  omega

theorem inRange_of_millis {w : Int} (range : inRange (1000 * (w / 1000)) = true) :
    inRange w = true := by
  rw [inRange_iff] at range ⊢
  unfold microsPerDay at *
  omega

theorem inRange_monday {w : Int} (range : inRange w = true) :
    inRange (w + -(weekdayOf w : Int) * microsPerDay) = true := by
  rw [inRange_iff] at range ⊢
  simp only [weekdayOf, weekdayOfDays, dayOf]
  unfold microsPerDay at *
  omega

namespace Reading

theorem timeMicros_ofMicros (t : Int) : ((ofMicros t).timeMicros : Int) = t % microsPerDay := by
  simp only [ofMicros, timeMicros, microsPerDay]
  omega

/-- A wall-clock count read as a date and a time of day is read back as itself. -/
theorem toMicros_ofMicros (t : Int) : (ofMicros t).toMicros = t := by
  rw [toMicros, timeMicros_ofMicros]
  simp only [ofMicros]
  rw [daysFromCivil_civilFromDays]
  unfold microsPerDay
  omega

theorem ofMicros_valid (t : Int) :
    1 ≤ (ofMicros t).month ∧ (ofMicros t).month ≤ 12 ∧ 1 ≤ (ofMicros t).day ∧
      (ofMicros t).day ≤ daysInMonth (ofMicros t).year (ofMicros t).month :=
  civilFromDays_valid (t / microsPerDay)

theorem year_of_inRange {t : Int} (range : inRange t = true) :
    1 ≤ (ofMicros t).year ∧ (ofMicros t).year ≤ 9999 := by
  rw [inRange_iff] at range
  obtain ⟨era, doe, split, bound⟩ := day_of_era (t / microsPerDay)
  obtain ⟨c, q, k, doy, hc, hq, hk, hd, leap, rfl⟩ := era_decompose bound
  show 1 ≤ (civilFromDays (t / microsPerDay)).1 ∧ (civilFromDays (t / microsPerDay)).1 ≤ 9999
  rw [civilFromDays_of_era hc hq hk hd leap split]
  unfold microsPerDay at split range
  dsimp only
  split_ifs <;> omega

theorem ofMicros_midnight {y : Int} {m d : Nat} (hm : 1 ≤ m ∧ m ≤ 12)
    (hd : 1 ≤ d ∧ d ≤ daysInMonth y m) :
    ofMicros (daysFromCivil y m d * microsPerDay) = { year := y, month := m, day := d } := by
  have whole : daysFromCivil y m d * microsPerDay / microsPerDay = daysFromCivil y m d := by
    unfold microsPerDay
    omega
  have rest : daysFromCivil y m d * microsPerDay % microsPerDay = 0 := by
    unfold microsPerDay
    omega
  simp only [ofMicros, whole, rest, civilFromDays_daysFromCivil hm hd]
  rfl

end Reading

end PortableSearch.Time
