import GbcVenue.Time.Timeutil

/-!
# The text of dates and clock times

What `GetOperationalDayBounds` makes of the text that Go formats. A clock time `HH:MM` and a date of
a year with four digits come back as they are. The text of a later year is longer than the ten
characters that are read: of a year with five digits the last digit of the day is cut off, and
beyond that nothing is left of it.
-/

namespace GbcVenue

open GoTime Calendar

/-- The text `YYYY-MM-DD` of a date, as `Format` writes it. -/
def dateChars (c : CivilDate) : List Char :=
  (if c.year < 0 then ['-'] else []) ++ decimal 4 c.year.natAbs ++
    '-' :: decimal 2 c.month.toNat ++ '-' :: decimal 2 c.day.toNat

theorem formatDate_eq (t : Int) : formatDate t = String.ofList (dateChars (civil t)) := rfl

/-- A valid 24-hour clock time. -/
structure ClockTime where
  hour : Nat
  minute : Nat
  hour_lt : hour < 24
  minute_lt : minute < 60
  deriving DecidableEq

namespace ClockTime

/-- `HH:MM`. -/
def text (c : ClockTime) : String := String.ofList (decimal 2 c.hour ++ ':' :: decimal 2 c.minute)

/-- The seconds of the day. -/
def seconds (c : ClockTime) : Int := c.hour * 3600 + c.minute * 60

/-- `HH:00`. -/
def oClock (hour : Fin 24) : ClockTime := ⟨hour, 0, hour.2, by decide⟩

theorem seconds_nonneg (c : ClockTime) : 0 ≤ c.seconds := by
  unfold seconds
  omega

theorem seconds_lt (c : ClockTime) : c.seconds < 86400 := by
  have h := c.hour_lt
  have h' := c.minute_lt
  unfold seconds
  omega

end ClockTime

/-! ## Numbers -/

theorem digit_isDigit (n : Nat) : (digit (n % 10)).isDigit :=
  (by decide : ∀ d < 10, (digit d).isDigit) _ (Nat.mod_lt _ (by decide))

theorem not_mem_decimal {c : Char} (h : c.isDigit = false) (width n : Nat) :
    c ∉ decimal width n := by
  intro hc
  rw [isDigit_of_mem_decimal hc] at h
  cases h

/-- A number of five digits. -/
theorem decimal_five {n : Nat} (h : 10000 ≤ n) (h' : n < 100000) :
    decimal 4 n = [digit (n / 10 / 10 / 10 / 10 % 10), digit (n / 10 / 10 / 10 % 10),
      digit (n / 10 / 10 % 10), digit (n / 10 % 10), digit (n % 10)] := by
  have hfirst : ∀ k < 10, k ≠ 0 → Nat.toDigits 10 k = [digit (k % 10)] := by decide
  have hk : n / 10 / 10 / 10 / 10 ≠ 0 := by omega
  simp [decimal, hk, hfirst _ (by omega : n / 10 / 10 / 10 / 10 < 10) hk]

theorem le_length_toDigits {n : Nat} (h : 10 ≤ n) : 2 ≤ (Nat.toDigits 10 n).length := by
  rw [Nat.toDigits_of_base_le (by decide) h, List.length_append, List.length_singleton]
  have hpos := List.length_pos_of_ne_nil (Nat.toDigits_ne_nil (n := n / 10) (b := 10))
  omega

/-- A longer number. -/
theorem le_length_decimal {n : Nat} (h : 100000 ≤ n) : 6 ≤ (decimal 4 n).length := by
  have hk : n / 10 / 10 / 10 / 10 ≠ 0 := by omega
  have hlen := le_length_toDigits (show 10 ≤ n / 10 / 10 / 10 / 10 by omega)
  simp only [decimal, if_neg hk, List.length_append, List.length_singleton]
  omega

theorem digit_mod_inj {n m : Nat} (h : digit (n % 10) = digit (m % 10)) : n % 10 = m % 10 := by
  have hval := congrArg digitVal h
  rwa [digitVal_digit_mod, digitVal_digit_mod, Option.some.injEq] at hval

theorem decimal_inj {width : Nat} : ∀ {n m : Nat}, decimal width n = decimal width m → n = m := by
  induction width with
  | zero =>
    intro n m h
    simp only [decimal] at h
    split at h <;> split at h
    · omega
    · exact absurd h.symm Nat.toDigits_ne_nil
    · exact absurd h Nat.toDigits_ne_nil
    · rw [← Nat.ofDigitChars_ten_toDigits (n := n), h, Nat.ofDigitChars_ten_toDigits]
  | succ width ih =>
    intro n m h
    rw [decimal, decimal] at h
    obtain ⟨hinit, hlast⟩ := List.append_inj' h rfl
    have hdiv := ih hinit
    have hmod := digit_mod_inj (List.singleton_inj.1 hlast)
    omega

theorem length_decimal_two {n : Nat} (h : n < 100) : (decimal 2 n).length = 2 := by
  rw [decimal_two h]
  rfl

/-- Two dates with the same text are the same. -/
theorem dateChars_inj {c c' : CivilDate} (hc : c.Valid) (hc' : c'.Valid)
    (h : dateChars c = dateChars c') : c = c' := by
  have hm := hc.month
  have hm' := hc'.month
  have hd := hc.day
  have hd' := hc'.day
  have hday := daysIn_le c.month c.year
  have hday' := daysIn_le c'.month c'.year
  obtain ⟨h, hd₂⟩ := List.append_inj' h (by simp [length_decimal_two (n := c.day.toNat) (by omega),
    length_decimal_two (n := c'.day.toNat) (by omega)])
  obtain ⟨h, hm₂⟩ := List.append_inj' h (by simp [length_decimal_two (n := c.month.toNat) (by omega),
    length_decimal_two (n := c'.month.toNat) (by omega)])
  have hday₂ := decimal_inj (List.cons.inj hd₂).2
  have hmonth₂ := decimal_inj (List.cons.inj hm₂).2
  have hsign : ∀ n k, '-' :: decimal 4 n ≠ decimal 4 k := fun n k heq =>
    not_mem_decimal (by decide) 4 k (heq ▸ List.mem_cons_self)
  have hyear : c.year = c'.year := by
    split at h <;> split at h
    · have habs := decimal_inj (List.cons.inj h).2
      omega
    · exact absurd h (hsign _ _)
    · exact absurd h.symm (hsign _ _)
    · have habs := decimal_inj h
      omega
  obtain ⟨y, m, d⟩ := c
  obtain ⟨y', m', d'⟩ := c'
  simp only [CivilDate.mk.injEq] at *
  omega

namespace Timeutil

theorem le_foldlM_digits {cs : List Char} : ∀ {n k : Nat},
    cs.foldlM (fun n c => (digitVal c).map (10 * n + ·)) n = some k → n ≤ k := by
  induction cs with
  | nil =>
    intro n k h
    exact (Option.some.inj h).le
  | cons c cs ih =>
    intro n k h
    obtain ⟨m, hm, hk⟩ := Option.bind_eq_some_iff.1 h
    obtain ⟨d, -, rfl⟩ := Option.map_eq_some_iff.1 hm
    have hle := ih hk
    omega

/-- A number that fits is the value of its digits. -/
theorem parseDigits_of_foldlM {cs : List Char} : ∀ {n k : Nat}, k < 2 ^ 64 →
    cs.foldlM (fun n c => (digitVal c).map (10 * n + ·)) n = some k → parseDigits n cs = some k := by
  induction cs with
  | nil => exact fun _ h => h
  | cons c cs ih =>
    intro n k hk h
    obtain ⟨m, hm, hrest⟩ := Option.bind_eq_some_iff.1 h
    obtain ⟨d, hd, rfl⟩ := Option.map_eq_some_iff.1 hm
    have hle := le_foldlM_digits hrest
    simp only [parseDigits, hd]
    rw [if_pos (by omega)]
    exact ih hk hrest

/-- The value of a digit string. -/
def digits : List Char → Option Nat
  | [] => none
  | cs => cs.foldlM (fun n c => (digitVal c).map (10 * n + ·)) 0

theorem parseUint_of_digits {cs : List Char} {k : Nat} (h : digits cs = some k) (hk : k < 2 ^ 64) :
    parseUint cs = some k := by
  cases cs with
  | nil => cases h
  | cons c cs => exact parseDigits_of_foldlM hk h

/-- Digits are read as the number that they denote. -/
theorem atoi_digits {cs : List Char} (hcs : ∀ c ∈ cs, c.isDigit) {k : Nat}
    (h : digits cs = some k) (hk : k < 2 ^ 63) : atoi cs = ((k : Int), true) := by
  have hdash : ¬ '-'.isDigit := by decide
  have hplus : ¬ '+'.isDigit := by decide
  unfold atoi
  split
  rename_i neg ds hsign
  split at hsign
  · exact absurd (hcs '-' (by simp)) hdash
  · exact absurd (hcs '+' (by simp)) hplus
  · cases hsign
    simpa [parseUint_of_digits h (by omega)] using hk

theorem atoi_nil : atoi [] = (0, false) := rfl

theorem atoi_one {n : Nat} (h : n < 10) : atoi [digit (n % 10)] = ((n : Int), true) := by
  refine atoi_digits ?_ ?_ (by omega)
  · simp [digit_isDigit]
  · simp only [digits, List.foldlM_cons, List.foldlM_nil, digitVal_digit_mod, Option.map_some,
      Option.bind_eq_bind, Option.bind_some, Option.pure_def, Option.some.injEq]
    omega

theorem atoi_decimal_two {n : Nat} (h : n < 100) : atoi (decimal 2 n) = ((n : Int), true) := by
  refine atoi_digits (fun c hc => isDigit_of_mem_decimal hc) ?_ (by omega)
  simp only [decimal_two h, digits, List.foldlM_cons, List.foldlM_nil, digitVal_digit_mod,
    Option.map_some, Option.bind_eq_bind, Option.bind_some, Option.pure_def, Option.some.injEq]
  omega

theorem atoi_decimal_four {n : Nat} (h : n < 100000) : atoi (decimal 4 n) = ((n : Int), true) := by
  refine atoi_digits (fun c hc => isDigit_of_mem_decimal hc) ?_ (by omega)
  by_cases h' : n < 10000
  · simp only [decimal_four h', digits, List.foldlM_cons, List.foldlM_nil, digitVal_digit_mod,
      Option.map_some, Option.bind_eq_bind, Option.bind_some, Option.pure_def, Option.some.injEq]
    omega
  · simp only [decimal_five (not_lt.1 h') h, digits, List.foldlM_cons, List.foldlM_nil,
      digitVal_digit_mod, Option.map_some, Option.bind_eq_bind, Option.bind_some, Option.pure_def,
      Option.some.injEq]
    omega

/-! ## Clock times -/

theorem clockParts_text (c : ClockTime) (default : Int × Int) :
    clockParts c.text default = ((c.hour : Int), (c.minute : Int)) := by
  have hh := c.hour_lt
  have hm := c.minute_lt
  unfold clockParts ClockTime.text
  rw [String.toList_ofList,
    List.splitOn_append_cons_self_of_not_mem (not_mem_decimal (by decide) _ _),
    List.splitOn_eq_singleton (not_mem_decimal (by decide) _ _)]
  simp only [atoi_decimal_two (show c.hour < 100 by omega),
    atoi_decimal_two (show c.minute < 100 by omega)]

/-- The seconds of the day that a clock text stands for. -/
def clockSeconds (s : String) (default : Int × Int) : Int :=
  (clockParts s default).1 * 3600 + (clockParts s default).2 * 60

theorem clockSeconds_text (c : ClockTime) (default : Int × Int) :
    clockSeconds c.text default = c.seconds := by
  rw [clockSeconds, clockParts_text, ClockTime.seconds]

/-! ## Bounds -/

/-- The window from the opening time of day `D` to the closing time of the next day. -/
def dayBounds (offset openSeconds closeSeconds D : Int) : DayBounds :=
  ⟨(D * 86400 + openSeconds - offset) * second, ((D + 1) * 86400 + closeSeconds - offset) * second⟩

/-- The window that the code has for it. -/
def wrappedBounds (offset openSeconds closeSeconds D : Int) : DayBounds :=
  ⟨unixTime (D * 86400 + openSeconds - offset) 0,
    unixTime ((D + 1) * 86400 + closeSeconds - offset) 0⟩

theorem wrappedBounds_eq {offset openSeconds closeSeconds D : Int}
    (hzone : -364 * 86400 ≤ offset ∧ offset ≤ 364 * 86400)
    (hopen : 0 ≤ openSeconds ∧ openSeconds < 86400) (hclose : 0 ≤ closeSeconds ∧ closeSeconds < 86400)
    (hD : -10 ^ 12 ≤ D ∧ D ≤ 10 ^ 12) :
    wrappedBounds offset openSeconds closeSeconds D =
      dayBounds offset openSeconds closeSeconds D := by
  rw [wrappedBounds, dayBounds, unixTime_eq (by omega) (by omega), unixTime_eq (by omega) (by omega),
    Int.add_zero, Int.add_zero]

theorem dateIn_clock {y m d h mi offset : Int} (hm : 1 ≤ m ∧ m ≤ 12) :
    dateIn offset y m d h mi 0 0 =
      unixTime (daysFromCivil y m d * 86400 + (h * 3600 + mi * 60) - offset) 0 := by
  have h₁ : (m - 1) / 12 = 0 := by omega
  have h₂ : (m - 1) % 12 + 1 = m := by omega
  simp only [dateIn, h₁, h₂, Int.add_zero, Int.add_assoc]

theorem bounds_of_parts {dateStr : String} {p₀ p₁ p₂ : List Char} {y m d : Int}
    (hsplit : (dateStr.toList.take 10).splitOn '-' = [p₀, p₁, p₂]) (h₀ : atoi p₀ = (y, true))
    (h₁ : atoi p₁ = (m, true)) (h₂ : atoi p₂ = (d, true)) (hm : 1 ≤ m ∧ m ≤ 12)
    (offset : Int) (venueStartTime venueCloseTime : String) :
    getOperationalDayBounds offset dateStr venueStartTime venueCloseTime =
      .ok (wrappedBounds offset (clockSeconds venueStartTime (9, 0))
        (clockSeconds venueCloseTime (6, 0)) (daysFromCivil y m d)) := by
  unfold getOperationalDayBounds
  simp only [hsplit, h₀, h₁, h₂, and_self, not_true_eq_false, if_false, dateIn_clock hm,
    daysFromCivil_add, wrappedBounds, clockSeconds]

/-- The day that `GetOperationalDayBounds` takes the text of a date for. -/
def dayNamed (c : CivilDate) : Option Int :=
  if 0 ≤ c.year ∧ c.year ≤ 9999 then some c.days
  else if 10000 ≤ c.year ∧ c.year ≤ 99999 then some (c.days - c.day + c.day / 10)
  else none

section

variable {c : CivilDate} (offset : Int) (venueStartTime venueCloseTime : String)

theorem dayNamed_eq_some {D : Int} (h : dayNamed c = some D) :
    (0 ≤ c.year ∧ c.year ≤ 9999 ∧ D = c.days) ∨
      (10000 ≤ c.year ∧ c.year ≤ 99999 ∧ D = c.days - c.day + c.day / 10) := by
  unfold dayNamed at h
  split at h
  · rename_i hy
    cases h
    exact .inl ⟨hy.1, hy.2, rfl⟩
  · split at h
    · rename_i hy
      cases h
      exact .inr ⟨hy.1, hy.2, rfl⟩
    · cases h

/-- Such a day lies within a few thousand centuries of 1970. -/
theorem dayNamed_bounds (hc : c.Valid) {D : Int} (h : dayNamed c = some D) :
    -10 ^ 12 ≤ D ∧ D ≤ 10 ^ 12 := by
  obtain ⟨hm, hd⟩ := hc
  have hday := daysIn_le c.month c.year
  rcases dayNamed_eq_some h with ⟨hy, hy', rfl⟩ | ⟨hy, hy', rfl⟩ <;>
    simp only [CivilDate.days, daysFromCivil] <;> omega

/-- The bounds of the day that a date text names. -/
theorem bounds_of_dayNamed (hc : c.Valid) {D : Int} (h : dayNamed c = some D) :
    getOperationalDayBounds offset (String.ofList (dateChars c)) venueStartTime venueCloseTime =
      .ok (wrappedBounds offset (clockSeconds venueStartTime (9, 0))
        (clockSeconds venueCloseTime (6, 0)) D) := by
  obtain ⟨hm, hd⟩ := hc
  have hday := daysIn_le c.month c.year
  have hmonth : (c.month.toNat : Int) = c.month := by omega
  have hdash : '-'.isDigit = false := by decide
  have h₁ : atoi (decimal 2 c.month.toNat) = (c.month, true) := by
    rw [atoi_decimal_two (by omega), hmonth]
  rcases dayNamed_eq_some h with ⟨hy, hy', rfl⟩ | ⟨hy, hy', rfl⟩
  · have hyear : (c.year.natAbs : Int) = c.year := by omega
    have hneg : ¬ c.year < 0 := by omega
    have htext : (dateChars c).take 10 = dateChars c := by
      simp [dateChars, hneg, decimal_four (show c.year.natAbs < 10000 by omega),
        decimal_two (show c.month.toNat < 100 by omega),
        decimal_two (show c.day.toNat < 100 by omega)]
    have hsplit : (dateChars c).splitOn '-' =
        [decimal 4 c.year.natAbs, decimal 2 c.month.toNat, decimal 2 c.day.toNat] := by
      rw [dateChars, if_neg hneg, List.nil_append, List.append_assoc, List.cons_append,
        List.splitOn_append_cons_self_of_not_mem (not_mem_decimal hdash _ _),
        List.splitOn_append_cons_self_of_not_mem (not_mem_decimal hdash _ _),
        List.splitOn_eq_singleton (not_mem_decimal hdash _ _)]
    refine bounds_of_parts (by rw [String.toList_ofList, htext, hsplit]) ?_ h₁ ?_ hm ..
    · rw [atoi_decimal_four (by omega), hyear]
    · rw [atoi_decimal_two (by omega)]
      congr 1
      omega
  · have hyear : (c.year.natAbs : Int) = c.year := by omega
    have hneg : ¬ c.year < 0 := by omega
    have htext : (dateChars c).take 10 = decimal 4 c.year.natAbs ++
        '-' :: (decimal 2 c.month.toNat ++ '-' :: [digit (c.day.toNat / 10 % 10)]) := by
      simp [dateChars, hneg,
        decimal_five (show 10000 ≤ c.year.natAbs by omega) (by omega),
        decimal_two (show c.month.toNat < 100 by omega),
        decimal_two (show c.day.toNat < 100 by omega)]
    have hsplit : ((dateChars c).take 10).splitOn '-' =
        [decimal 4 c.year.natAbs, decimal 2 c.month.toNat, [digit (c.day.toNat / 10 % 10)]] := by
      rw [htext, List.splitOn_append_cons_self_of_not_mem (not_mem_decimal hdash _ _),
        List.splitOn_append_cons_self_of_not_mem (not_mem_decimal hdash _ _),
        List.splitOn_eq_singleton]
      simp only [List.mem_singleton]
      intro heq
      have hdigit := digit_isDigit (c.day.toNat / 10)
      rw [← heq, hdash] at hdigit
      cases hdigit
    have hdays : c.days - c.day + c.day / 10 = daysFromCivil c.year c.month (c.day / 10) := by
      have hadd := daysFromCivil_add c.year c.month (c.day / 10) (c.day - c.day / 10)
      rw [show c.day / 10 + (c.day - c.day / 10) = c.day by omega] at hadd
      rw [CivilDate.days, hadd]
      omega
    rw [hdays]
    refine bounds_of_parts (by rw [String.toList_ofList, hsplit]) ?_ h₁ ?_ hm ..
    · rw [atoi_decimal_four (by omega), hyear]
    · rw [atoi_one (by omega)]
      congr 1
      omega

/-- Text of three parts with an empty one is refused. -/
theorem bounds_error {dateStr : String} {p : List (List Char)}
    (hsplit : (dateStr.toList.take 10).splitOn '-' = p)
    (h : ∀ p₀ p₁ p₂, p = [p₀, p₁, p₂] → p₀ = [] ∨ p₂ = []) :
    ∃ e, getOperationalDayBounds offset dateStr venueStartTime venueCloseTime = .error e := by
  unfold getOperationalDayBounds
  simp only [hsplit]
  split
  · rename_i p₀ p₁ p₂
    rcases h p₀ p₁ p₂ rfl with rfl | rfl <;> simp [atoi_nil]
  · exact ⟨_, rfl⟩

/-- The text of any other date is refused: a negative year begins with a dash, and of a longer one
nothing is left of the day. -/
theorem bounds_of_dayNamed_none (hc : c.Valid) (h : dayNamed c = none) :
    ∃ e, getOperationalDayBounds offset (String.ofList (dateChars c)) venueStartTime
      venueCloseTime = .error e := by
  have hdash : '-'.isDigit = false := by decide
  refine bounds_error _ _ _ (by rw [String.toList_ofList]) ?_
  intro p₀ p₁ p₂ hp
  by_cases hneg : c.year < 0
  · left
    have htext : (dateChars c).take 10 = [] ++ '-' :: ((dateChars c).drop 1).take 9 := by
      simp [dateChars, hneg]
    rw [htext, List.splitOn_append_cons_self_of_not_mem (by simp)] at hp
    exact (List.cons.inj hp).1.symm
  · right
    have hlong : 100000 ≤ c.year.natAbs := by
      unfold dayNamed at h
      split at h
      · cases h
      · split at h
        · cases h
        · omega
    have hlen := le_length_decimal hlong
    have hnot := not_mem_decimal hdash 4 c.year.natAbs
    rw [dateChars, if_neg hneg, List.nil_append, List.append_assoc, List.cons_append] at hp
    generalize decimal 4 c.year.natAbs = ds at hlen hnot hp
    have htake : ∀ cs : List Char, (ds ++ cs).take 10 = ds.take 10 ++ cs.take (10 - ds.length) :=
      fun cs => List.take_append
    rw [htake] at hp
    by_cases hten : 10 ≤ ds.length
    · rw [Nat.sub_eq_zero_of_le hten, List.take_zero, List.append_nil,
        List.splitOn_eq_singleton fun h => hnot (List.mem_of_mem_take h)] at hp
      cases hp
    · obtain ⟨k, hk⟩ : ∃ k, 10 - ds.length = k + 1 := ⟨9 - ds.length, by omega⟩
      rw [List.take_of_length_le (by omega), hk, List.take_succ_cons,
        List.splitOn_append_cons_self_of_not_mem hnot] at hp
      have hmonth := decimal_two (show c.month.toNat < 100 by have := hc.month; omega)
      have hnot' := not_mem_decimal hdash 2 c.month.toNat
      by_cases hk' : k = 3
      · rw [hk', hmonth] at hp
        have hcut : ([digit (c.month.toNat / 10 % 10), digit (c.month.toNat % 10)] ++
            '-' :: decimal 2 c.day.toNat).take 3 =
            [digit (c.month.toNat / 10 % 10), digit (c.month.toNat % 10)] ++ '-' :: [] := rfl
        rw [hcut, ← hmonth, List.splitOn_append_cons_self_of_not_mem hnot', List.splitOn_nil] at hp
        simp only [List.cons.injEq] at hp
        exact hp.2.2.1.symm
      · have hcut : (decimal 2 c.month.toNat ++ '-' :: decimal 2 c.day.toNat).take k =
            (decimal 2 c.month.toNat).take k :=
          List.take_append_of_le_length (by rw [hmonth]; simp only [List.length_cons]; omega)
        rw [hcut, List.splitOn_eq_singleton fun h => hnot' (List.mem_of_mem_take h)] at hp
        cases hp

end

end Timeutil

end GbcVenue
