import Mathlib.Data.List.Basic

/-!
# The proleptic Gregorian calendar

Dates as year, month and day of month, and days counted from 1970-01-01. A year is taken to begin
on the first of March, so that a leap day ends its year: `marchFromDays` splits a day number into
such a year and a day of it, and `civilFromDays` renumbers the months.
-/

namespace Calendar

/-- A calendar date; the month counts from 1. -/
structure CivilDate where
  year : Int
  month : Int
  day : Int
  deriving DecidableEq, Repr

/-- The days from 1970-01-01 to day `d` of month `m` (in `1..12`) of year `y`. The day may lie
outside the month; it then counts into the months before or after. -/
def daysFromCivil (y m d : Int) : Int :=
  let y' := if m ≤ 2 then y - 1 else y
  let mp := if m ≤ 2 then m + 9 else m - 3
  y' * 365 + y' / 4 - y' / 100 + y' / 400 + (153 * mp + 2) / 5 + d - 719469

theorem daysFromCivil_add (y m d k : Int) :
    daysFromCivil y m (d + k) = daysFromCivil y m d + k := by
  simp only [daysFromCivil]
  omega

def isLeap (y : Int) : Bool := y % 4 = 0 ∧ (y % 100 ≠ 0 ∨ y % 400 = 0)

/-- The length of month `m` of year `y`. -/
def daysIn (m y : Int) : Int :=
  if m = 2 then (if isLeap y then 29 else 28)
  else if m = 4 ∨ m = 6 ∨ m = 9 ∨ m = 11 then 30 else 31

/-- A year that begins on the first of March, and the day of it, counted from 0. -/
structure MarchDate where
  year : Int
  yday : Int

/-- Days are split into 400, 100, 4 and 1 years; the last century of four and the last year of four
keep the extra day. -/
def marchFromDays (z : Int) : MarchDate :=
  let era := (z + 719468) / 146097
  let doe := (z + 719468) % 146097
  let c := min (doe / 36524) 3
  let q := (doe - 36524 * c) / 1461
  let r := (doe - 36524 * c) % 1461
  let n := min (r / 365) 3
  ⟨400 * era + 100 * c + 4 * q + n, r - 365 * n⟩

/-- The date that lies `z` days after 1970-01-01. -/
def civilFromDays (z : Int) : CivilDate :=
  let md := marchFromDays z
  let mp := (5 * md.yday + 2) / 153
  let m := if mp < 10 then mp + 3 else mp - 9
  ⟨if m ≤ 2 then md.year + 1 else md.year, m, md.yday - (153 * mp + 2) / 5 + 1⟩

example : civilFromDays (daysFromCivil 2024 2 29) = ⟨2024, 2, 29⟩ := by decide

theorem marchFromDays_parts (z : Int) : ∃ era c q n : Int,
    (marchFromDays z).year = 400 * era + 100 * c + 4 * q + n ∧
    z + 719468 = 146097 * era + 36524 * c + 1461 * q + 365 * n + (marchFromDays z).yday ∧
    (0 ≤ c ∧ c ≤ 3) ∧ (0 ≤ q ∧ q ≤ 24) ∧ (0 ≤ n ∧ n ≤ 3) ∧
    (0 ≤ (marchFromDays z).yday ∧ (marchFromDays z).yday ≤ 365) ∧
    ((marchFromDays z).yday = 365 → n = 3 ∧ (q ≤ 23 ∨ c = 3)) := by
  have hera := Int.mul_ediv_add_emod (z + 719468) 146097
  have hdoe : 0 ≤ (z + 719468) % 146097 ∧ (z + 719468) % 146097 < 146097 := by omega
  refine ⟨_, _, _, _, rfl, ?_⟩
  simp only [marchFromDays]
  -- each quotient is named before the next is taken, which keeps the goals linear
  generalize (z + 719468) / 146097 = era at hera ⊢
  generalize (z + 719468) % 146097 = doe at hera hdoe ⊢
  have hc : 0 ≤ min (doe / 36524) 3 ∧ min (doe / 36524) 3 ≤ 3 ∧
      0 ≤ doe - 36524 * min (doe / 36524) 3 ∧
      (min (doe / 36524) 3 < 3 → doe - 36524 * min (doe / 36524) 3 < 36524) ∧
      doe - 36524 * min (doe / 36524) 3 ≤ 36524 := by omega
  generalize min (doe / 36524) 3 = c at hc ⊢
  generalize hr : doe - 36524 * c = r at hc ⊢
  have hq := Int.mul_ediv_add_emod r 1461
  have hq' : 0 ≤ r / 1461 ∧ 0 ≤ r % 1461 ∧ r % 1461 < 1461 := by omega
  generalize r / 1461 = q at hq hq' ⊢
  generalize r % 1461 = u at hq hq' ⊢
  omega

theorem marchFromDays_yday (z : Int) :
    0 ≤ (marchFromDays z).yday ∧ (marchFromDays z).yday ≤ 365 := by
  obtain ⟨_, _, _, _, _, _, _, _, _, h, -⟩ := marchFromDays_parts z
  exact h

/-- The day numbers of the years before and of the day in its year add up to the day number. -/
theorem marchFromDays_sum (z : Int) : let md := marchFromDays z
    md.year * 365 + md.year / 4 - md.year / 100 + md.year / 400 + md.yday = z + 719468 := by
  obtain ⟨era, c, q, n, hy, hz, hc, hq, hn, -, -⟩ := marchFromDays_parts z
  have h4 : (marchFromDays z).year / 4 = 100 * era + 25 * c + q := by omega
  have h100 : (marchFromDays z).year / 100 = 4 * era + c := by omega
  have h400 : (marchFromDays z).year / 400 = era := by omega
  simp only [h4, h100, h400]
  omega

/-- Only a year whose February is a leap one has a day 365. -/
theorem marchFromDays_leap (z : Int) (h : (marchFromDays z).yday = 365) :
    isLeap ((marchFromDays z).year + 1) := by
  obtain ⟨era, c, q, n, hy, -, hc, hq, hn, -, hl⟩ := marchFromDays_parts z
  obtain ⟨rfl, hqc⟩ := hl h
  simp only [isLeap, decide_eq_true_eq]
  omega

theorem daysFromCivil_civilFromDays (z : Int) :
    daysFromCivil (civilFromDays z).year (civilFromDays z).month (civilFromDays z).day = z := by
  have hs := marchFromDays_sum z
  obtain ⟨h0, h1⟩ := marchFromDays_yday z
  simp only [daysFromCivil, civilFromDays] at *
  omega

theorem civilFromDays_month (z : Int) :
    1 ≤ (civilFromDays z).month ∧ (civilFromDays z).month ≤ 12 := by
  obtain ⟨h0, h1⟩ := marchFromDays_yday z
  simp only [civilFromDays]
  omega

/-- The day found lies in its month. -/
theorem civilFromDays_day (z : Int) :
    1 ≤ (civilFromDays z).day ∧
      (civilFromDays z).day ≤ daysIn (civilFromDays z).month (civilFromDays z).year := by
  obtain ⟨h0, h1⟩ := marchFromDays_yday z
  have hl := marchFromDays_leap z
  simp only [civilFromDays, daysIn]
  split <;> split <;> grind

/-! ## Valid dates -/

namespace CivilDate

/-- A date that the calendar has. -/
structure Valid (c : CivilDate) : Prop where
  month : 1 ≤ c.month ∧ c.month ≤ 12
  day : 1 ≤ c.day ∧ c.day ≤ daysIn c.month c.year

/-- The day number of a date. -/
def days (c : CivilDate) : Int := daysFromCivil c.year c.month c.day

/-- The earlier of two years, months or days comes first. -/
inductive Before (c c' : CivilDate) : Prop
  | year (h : c.year < c'.year)
  | month (hy : c.year = c'.year) (h : c.month < c'.month)
  | day (hy : c.year = c'.year) (hm : c.month = c'.month) (h : c.day < c'.day)

end CivilDate

theorem valid_civilFromDays (z : Int) : (civilFromDays z).Valid :=
  ⟨civilFromDays_month z, civilFromDays_day z⟩

/-- The days before the year `y`, which begins in March. -/
def daysBefore (y : Int) : Int := y * 365 + y / 4 - y / 100 + y / 400

theorem daysBefore_succ (y : Int) :
    daysBefore (y + 1) = daysBefore y + if isLeap (y + 1) then 366 else 365 := by
  simp only [daysBefore, isLeap, decide_eq_true_eq]
  split <;> omega

theorem daysBefore_mono {x y : Int} (h : x ≤ y) : daysBefore x ≤ daysBefore y := by
  simp only [daysBefore]
  omega

/-- The year beginning in March that a date lies in, and its day there. -/
def toMarch (c : CivilDate) : MarchDate :=
  ⟨if c.month ≤ 2 then c.year - 1 else c.year,
    (153 * (if c.month ≤ 2 then c.month + 9 else c.month - 3) + 2) / 5 + c.day - 1⟩

theorem days_eq_toMarch (c : CivilDate) :
    c.days = daysBefore (toMarch c).year + (toMarch c).yday - 719468 := by
  simp only [CivilDate.days, daysFromCivil, daysBefore, toMarch]
  omega

namespace CivilDate

variable {c c' : CivilDate}

theorem Valid.yday (h : c.Valid) : 0 ≤ (toMarch c).yday ∧
    (toMarch c).yday < if isLeap ((toMarch c).year + 1) then 366 else 365 := by
  obtain ⟨hm, hd⟩ := h
  obtain ⟨y, m, d⟩ := c
  simp only [toMarch, daysIn] at *
  by_cases h₂ : m ≤ 2
  · simp only [if_pos h₂, Int.sub_add_cancel] at *
    split at hd <;> split <;> simp_all <;> omega
  · simp only [if_neg h₂, if_neg (show m ≠ 2 by omega)] at *
    split at hd <;> split <;> omega

/-- Day numbers follow the calendar. -/
theorem Before.days_lt (hb : c.Before c') (h : c.Valid) (h' : c'.Valid) : c.days < c'.days := by
  rw [days_eq_toMarch, days_eq_toMarch]
  have hy := h.yday
  have hy' := h'.yday
  by_cases hyear : (toMarch c).year < (toMarch c').year
  · have hsucc := daysBefore_succ (toMarch c).year
    have hmono := daysBefore_mono (show (toMarch c).year + 1 ≤ (toMarch c').year from hyear)
    omega
  · -- within a year the months follow one another and each holds its days
    have hsame : (toMarch c).year = (toMarch c').year := by
      obtain ⟨hm, -⟩ := h
      obtain ⟨hm', -⟩ := h'
      simp only [toMarch] at hyear ⊢
      cases hb <;> split at hyear <;> split at hyear <;> omega
    rw [hsame]
    suffices hlt : (toMarch c).yday < (toMarch c').yday by omega
    obtain ⟨hm, hd⟩ := h
    obtain ⟨hm', hd'⟩ := h'
    simp only [toMarch, daysIn] at *
    cases hb <;> split at hsame <;> split at hsame <;> grind

end CivilDate

/-- The year of a day, from the first day of a year on. -/
theorem le_year_of_le {y z : Int} (h : daysFromCivil y 1 1 ≤ z) : y ≤ (civilFromDays z).year := by
  by_contra hlt
  have hfirst : (⟨y, 1, 1⟩ : CivilDate).Valid := ⟨by simp, by simp [daysIn]⟩
  have hb : (civilFromDays z).Before ⟨y, 1, 1⟩ := .year (Int.not_le.1 hlt)
  have hdays := hb.days_lt (valid_civilFromDays z) hfirst
  rw [CivilDate.days, daysFromCivil_civilFromDays] at hdays
  exact absurd h (Int.not_le.2 hdays)

/-- The year of a day, up to the last day of a year. -/
theorem year_le_of_le {y z : Int} (h : z ≤ daysFromCivil y 12 31) : (civilFromDays z).year ≤ y := by
  by_contra hlt
  have hlast : (⟨y, 12, 31⟩ : CivilDate).Valid := ⟨by simp, by simp [daysIn]⟩
  have hb : CivilDate.Before ⟨y, 12, 31⟩ (civilFromDays z) := .year (Int.not_le.1 hlt)
  have hdays := hb.days_lt hlast (valid_civilFromDays z)
  rw [CivilDate.days, CivilDate.days, daysFromCivil_civilFromDays] at hdays
  exact absurd h (Int.not_le.2 hdays)

end Calendar
