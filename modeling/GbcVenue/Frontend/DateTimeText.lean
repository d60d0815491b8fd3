import GbcVenue.Frontend.JsDate
import GbcVenue.Time.GoTime
import Mathlib.Algebra.Group.Nat.Defs
import Mathlib.Data.List.DropRight

/-!
# Instants on their way between the frontend and the backend

The frontend sends an instant as `toISOString` writes it, and the backend as `MarshalJSON` of
`time.Time` does: RFC 3339 with the fraction of the second, as far as it is not zero. An instant of the
years 0 to 9999 comes back as it is, in both directions.
-/

namespace GbcVenue

open Calendar GoTime

namespace JsDate

/-- The text of `toISOString()`: a year beyond four digits has a sign and six. -/
def isoChars (t : Int) : List Char :=
  let c := civilFromDays (t / msPerDay)
  let year := if 0 ≤ c.year ∧ c.year ≤ 9999 then decimal 4 c.year.toNat
    else (if c.year < 0 then '-' else '+') :: decimal 6 c.year.natAbs
  let ms := (t % msPerDay).toNat
  year ++ '-' :: decimal 2 c.month.toNat ++ '-' :: decimal 2 c.day.toNat ++
    'T' :: decimal 2 (ms / 3600000) ++ ':' :: decimal 2 (ms / 60000 % 60) ++
    ':' :: decimal 2 (ms / 1000 % 60) ++ '.' :: decimal 3 (ms % 1000) ++ ['Z']

/-- `new Date(ms).toISOString()`; `none` is the `RangeError`. -/
def toISOString (ms : Option Int) : Option String :=
  (ms.bind timeClip).map fun t => String.ofList (isoChars t)

/-- `new Date(s).getTime()` of a date-time that the backend writes; digits beyond the milliseconds are
dropped. -/
def dateParse (s : String) : Option Int := (parseRFC3339 s).bind fun t => timeClip (unixMilli t)

end JsDate

namespace GoTime

/-- The fraction of a second in the layout `.999999999`: without trailing zeros, or left out. -/
def fractionChars (nsec : Nat) : List Char :=
  if nsec = 0 then [] else '.' :: (decimal 9 nsec).rdropWhile (· = '0')

/-- `MarshalJSON` of an instant in UTC, without the quotes; `none` is the error for a year outside of
0 to 9999. -/
def marshalJSON (t : Int) : Option String :=
  if 0 ≤ (civil t).year ∧ (civil t).year ≤ 9999 then
    some (String.ofList (dateTimeChars t ++ (fractionChars (t % second).toNat ++ ['Z'])))
  else none

/-! ## Fractions -/

/-- The number that some digits denote. -/
def valueOf (ds : List Nat) : Nat := ds.foldl (fun n d => 10 * n + d) 0

theorem valueOf_append (ds : List Nat) (d : Nat) : valueOf (ds ++ [d]) = 10 * valueOf ds + d := by
  rw [valueOf, List.foldl_append]
  rfl

theorem valueOf_zeros (ds : List Nat) (k : Nat) :
    valueOf (ds ++ List.replicate k 0) = valueOf ds * 10 ^ k := by
  induction k with
  | zero => simp
  | succ k ih =>
    rw [List.replicate_succ', ← List.append_assoc, valueOf_append, ih, Nat.add_zero, Nat.pow_succ,
      Nat.mul_comm 10, Nat.mul_assoc]

theorem div_lt_pow {width n : Nat} (h : n < 10 ^ (width + 1)) : n / 10 < 10 ^ width := by
  rw [Nat.pow_succ] at h
  omega

theorem valueOf_decimal {width : Nat} : ∀ {n : Nat}, n < 10 ^ width →
    valueOf ((decimal width n).filterMap digitVal) = n := by
  induction width with
  | zero =>
    intro n h
    obtain rfl : n = 0 := by omega
    rfl
  | succ width ih =>
    intro n h
    rw [decimal, List.filterMap_append, List.filterMap_cons_some (digitVal_digit_mod n),
      List.filterMap_nil, valueOf_append, ih (div_lt_pow h)]
    omega

theorem length_decimal {width : Nat} : ∀ {n : Nat}, n < 10 ^ width → (decimal width n).length = width := by
  induction width with
  | zero =>
    intro n h
    obtain rfl : n = 0 := by omega
    rfl
  | succ width ih =>
    intro n h
    rw [decimal, List.length_append, ih (div_lt_pow h)]
    rfl

theorem digitVal_of_mem_decimal {c : Char} {width n : Nat} (h : n < 10 ^ width)
    (hc : c ∈ decimal width n) : ∃ d, digitVal c = some d := by
  induction width generalizing n with
  | zero =>
    obtain rfl : n = 0 := by omega
    exact absurd hc List.not_mem_nil
  | succ width ih =>
    rw [decimal, List.mem_append, List.mem_singleton] at hc
    rcases hc with hc | rfl
    · exact ih (div_lt_pow h) hc
    · exact ⟨_, digitVal_digit_mod n⟩

theorem spanDigits_append {cs : List Char} (hcs : ∀ c ∈ cs, ∃ d, digitVal c = some d) {c : Char}
    (hc : digitVal c = none) (rest : List Char) :
    spanDigits (cs ++ c :: rest) = (cs.filterMap digitVal, c :: rest) := by
  induction cs with
  | nil => rw [List.nil_append, spanDigits, hc, List.filterMap_nil]
  | cons a cs ih =>
    obtain ⟨d, hd⟩ := hcs a List.mem_cons_self
    rw [List.cons_append, spanDigits, hd, ih fun c hc => hcs c (List.mem_cons_of_mem _ hc),
      List.filterMap_cons_some hd]

theorem length_filterMap_digitVal {cs : List Char} (hcs : ∀ c ∈ cs, ∃ d, digitVal c = some d) :
    (cs.filterMap digitVal).length = cs.length := by
  induction cs with
  | nil => rfl
  | cons c cs ih =>
    obtain ⟨d, hd⟩ := hcs c List.mem_cons_self
    rw [List.filterMap_cons_some hd, List.length_cons, List.length_cons,
      ih fun c hc => hcs c (List.mem_cons_of_mem _ hc)]

/-- Digits after the point count as nine. -/
theorem nanoseconds_eq {ds : List Nat} {k : Nat} (h : ds.length + k = 9) :
    nanoseconds ds = valueOf ds * 10 ^ k := by
  have htake : (ds ++ List.replicate 9 0).take 9 = ds ++ List.replicate k 0 := by
    rw [List.take_append, List.take_of_length_le (by omega), List.take_replicate]
    congr 2
    omega
  rw [nanoseconds, htake]
  exact valueOf_zeros ds k

/-- A point and some digits are a fraction of a second. -/
theorem getfraction_digits {cs : List Char} (hcs : ∀ c ∈ cs, ∃ d, digitVal c = some d) (hne : cs ≠ [])
    {k : Nat} (hlen : cs.length + k = 9) :
    getfraction ('.' :: (cs ++ ['Z'])) = (valueOf (cs.filterMap digitVal) * 10 ^ k, ['Z']) := by
  have hspan := spanDigits_append hcs (by decide : digitVal 'Z' = none) []
  have hlength := length_filterMap_digitVal hcs
  have hdigits : cs.filterMap digitVal ≠ [] := by
    intro hnil
    rw [hnil] at hlength
    exact hne (List.length_eq_zero_iff.1 hlength.symm)
  rw [getfraction, hspan, if_pos ⟨.inl rfl, hdigits⟩, nanoseconds_eq (by rw [hlength]; exact hlen)]

theorem getfraction_fractionChars {nsec : Nat} (h : nsec < 10 ^ 9) :
    getfraction (fractionChars nsec ++ ['Z']) = (nsec, ['Z']) := by
  unfold fractionChars
  split
  · rename_i hzero
    rw [hzero]
    rfl
  · rename_i hne
    -- the digits that are left, and the zeros that are not written
    have hsplit := (List.rdropWhile_append_rtakeWhile (l := decimal 9 nsec) (p := (· = '0'))).symm
    have hall : (decimal 9 nsec).rtakeWhile (· = '0') =
        List.replicate ((decimal 9 nsec).rtakeWhile (· = '0')).length '0' := by
      refine List.eq_replicate_of_mem fun c hc => ?_
      have hzero := List.mem_rtakeWhile_imp hc
      exact of_decide_eq_true hzero
    generalize (decimal 9 nsec).rdropWhile (· = '0') = kept at *
    generalize (decimal 9 nsec).rtakeWhile (· = '0') = zeros at *
    have hlength := length_decimal h
    have hvalue := valueOf_decimal h
    rw [hsplit, List.length_append] at hlength
    rw [hsplit, hall, List.filterMap_append, List.filterMap_replicate_of_some (by decide :
      digitVal '0' = some 0), valueOf_zeros] at hvalue
    have hdigits : ∀ c ∈ kept, ∃ d, digitVal c = some d := by
      intro c hc
      exact digitVal_of_mem_decimal h (hsplit ▸ List.mem_append_left _ hc)
    have hkept' : kept ≠ [] := by
      rintro rfl
      exact hne (hvalue.symm.trans (Nat.zero_mul _))
    rw [List.cons_append, getfraction_digits hdigits hkept' hlength, hvalue]

/-- The backend's text of a time is read back by any RFC 3339 reader. -/
theorem parse_marshalJSON {t : Int} {s : String} (h : marshalJSON t = some s) :
    parseRFC3339 s = some t := by
  unfold marshalJSON at h
  split at h
  · rename_i hyear
    cases h
    have hnsec : (t % second).toNat < 10 ^ 9 := by
      simp only [second]
      omega
    rw [parseRFC3339, String.toList_ofList,
      parse_dateTime hyear (getfraction_fractionChars hnsec)]
    simp only [truncateSecond, unix, second, Option.some.injEq]
    omega
  · cases h

end GoTime

namespace JsDate

theorem civil_ofUnixMilli (t : Int) : civil (ofUnixMilli t) = civilFromDays (t / msPerDay) := by
  simp only [civil, unix, ofUnixMilli, second, msPerDay]
  congr 1
  omega

/-- Within four digits of the year both texts have the same date and time. -/
theorem isoChars_eq {t : Int}
    (hyear : 0 ≤ (civil (ofUnixMilli t)).year ∧ (civil (ofUnixMilli t)).year ≤ 9999) :
    isoChars t = dateTimeChars (ofUnixMilli t) ++ '.' :: (decimal 3 (t % 1000).toNat ++ ['Z']) := by
  have hunix : (unix (ofUnixMilli t) % 86400).toNat = (t % msPerDay).toNat / 1000 := by
    simp only [unix, ofUnixMilli, second, msPerDay]
    omega
  have hsub : (t % msPerDay).toNat % 1000 = (t % 1000).toNat := by
    simp only [msPerDay]
    omega
  have hy : (civilFromDays (t / msPerDay)).year.natAbs = (civilFromDays (t / msPerDay)).year.toNat := by
    rw [civil_ofUnixMilli] at hyear
    omega
  have hdiv : ∀ n : Nat, n / 1000 / 3600 = n / 3600000 ∧ n / 1000 / 60 % 60 = n / 60000 % 60 := by
    omega
  rw [civil_ofUnixMilli] at hyear
  simp only [isoChars, dateTimeChars, civil_ofUnixMilli, hunix, hsub, hy, (hdiv _).1, (hdiv _).2,
    if_pos hyear, List.append_assoc, List.cons_append]

/-- What `toISOString` writes is read back by the backend, if the year has four digits. -/
theorem parse_toISOString {ms : Option Int} {s : String} (h : toISOString ms = some s) :
    ∃ t, ms = some t ∧ parseRFC3339 s =
      if 0 ≤ (civil (ofUnixMilli t)).year ∧ (civil (ofUnixMilli t)).year ≤ 9999
      then some (ofUnixMilli t) else none := by
  obtain ⟨t', hclip, rfl⟩ := Option.map_eq_some_iff.1 h
  obtain ⟨t, rfl, hclip⟩ := Option.bind_eq_some_iff.1 hclip
  obtain rfl := timeClip_eq_some hclip
  refine ⟨t', rfl, ?_⟩
  rw [parseRFC3339, String.toList_ofList]
  split
  · rename_i hyear
    have hms : (t' % 1000).toNat < 10 ^ 3 := by omega
    have hfraction := getfraction_digits (k := 6)
      (fun c hc => digitVal_of_mem_decimal hms hc) (by
        intro hnil
        have hlength := length_decimal hms
        rw [hnil] at hlength
        cases hlength) (by rw [length_decimal hms])
    rw [valueOf_decimal hms] at hfraction
    rw [isoChars_eq hyear, parse_dateTime hyear hfraction]
    simp only [truncateSecond, unix, ofUnixMilli, second, Option.some.injEq]
    omega
  · rename_i hyear
    rw [civil_ofUnixMilli] at hyear
    simp only [isoChars, if_neg hyear, List.append_assoc, List.cons_append]
    split
    · exact parse_sign digitVal_dash _
    · exact parse_sign (by decide) _

/-- The frontend reads the instants of the backend, to the millisecond. -/
theorem dateParse_marshalJSON {t : Int} {s : String} (h : marshalJSON t = some s) :
    dateParse s = timeClip (unixMilli t) := by
  rw [dateParse, parse_marshalJSON h, Option.bind_some]

theorem toISOString_ne_empty {ms : Option Int} {s : String} (h : toISOString ms = some s) :
    s ≠ "" := by
  rintro rfl
  obtain ⟨t, -, htext⟩ := Option.map_eq_some_iff.1 h
  have hlist := congrArg String.toList htext
  rw [String.toList_ofList] at hlist
  exact absurd hlist (by simp [isoChars])

/-- A time that the frontend sends and the backend can read comes back as it was. -/
theorem sent_time_back {ms : Option Int} {s : String} (h : toISOString ms = some s) {t : Int}
    (hread : parseRFC3339 s = some t) :
    ms = some (unixMilli t) ∧
      (marshalJSON (ofUnixMilli (unixMilli t))).bind dateParse = some (unixMilli t) := by
  obtain ⟨t₀, rfl, hparse⟩ := parse_toISOString h
  rw [hread] at hparse
  split at hparse
  · rename_i hyear
    obtain rfl := Option.some.inj hparse
    have hmilli : unixMilli (ofUnixMilli t₀) = t₀ := by
      simp only [unixMilli, ofUnixMilli]
      omega
    obtain ⟨t₁, hclip, -⟩ := Option.map_eq_some_iff.1 h
    have hclip' : timeClip t₀ = some t₀ := by
      rw [Option.bind_some] at hclip
      rw [hclip, timeClip_eq_some hclip]
    rw [hmilli]
    refine ⟨rfl, ?_⟩
    rw [marshalJSON, if_pos hyear, Option.bind_some, dateParse_marshalJSON (if_pos hyear), hmilli, hclip']
  · cases hparse

example : toISOString (some 1893492000120) = some "2030-01-01T10:00:00.120Z" := by decide

example : marshalJSON (ofUnixMilli 1893492000120) = some "2030-01-01T10:00:00.12Z" := by decide

end JsDate

end GbcVenue
