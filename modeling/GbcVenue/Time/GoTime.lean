import GbcVenue.Calendar.Civil
import Mathlib.Data.Option.Basic

/-!
# Instants and RFC 3339 text

Go's `time.Time` as an `Int`, the nanoseconds since 1970-01-01T00:00:00Z, with the two conversions
the backend uses:
`time.Parse(time.RFC3339, s)` and `t.UTC().Format(time.RFC3339)`. The parser follows
`time.Parse` on this layout: a one-digit hour, a fraction of a second after the seconds (with a
point or a comma) and zone offsets up to `24:60` are accepted. Formatting drops the fraction of a
second.
-/

namespace GbcVenue

namespace GoTime

open Calendar

def second : Int := 1000000000

def minute : Int := 60 * second

/-- The whole second an instant lies in. -/
def unix (t : Int) : Int := t / second

/-- BSON stores a `time.Time` as milliseconds since the epoch. -/
def unixMilli (t : Int) : Int := t / 1000000

/-- The instant a BSON date decodes to. -/
def ofUnixMilli (ms : Int) : Int := ms * 1000000

/-- `t.Truncate(time.Second)`, for the epoch-based clock. -/
def truncateSecond (t : Int) : Int := unix t * second

/-- What an `int64` makes of an integer. -/
def int64 (n : Int) : Int := n.bmod 18446744073709551616

/-- `unixTime(sec, nsec)`: a time counts its seconds from the first of January of year 1 on, in an
`int64`. -/
def unixTime (sec nsec : Int) : Int := (int64 (sec + 62135596800) - 62135596800) * second + nsec

/-- `time.Date(y, m, d, h, mi, s, ns, loc)` in a zone `offset` seconds east of UTC, for `ns` below a
second: values out of range count into the larger unit. Each `int64` on the way wraps, and so do the
seconds in the end. -/
def dateIn (offset y m d h mi s ns : Int) : Int :=
  unixTime (daysFromCivil (y + (m - 1) / 12) ((m - 1) % 12 + 1) d * 86400 + h * 3600 + mi * 60 + s -
    offset) ns

/-- `time.Date(y, m, d, h, mi, s, ns, time.UTC)`. -/
def date (y m d h mi s ns : Int) : Int := dateIn 0 y m d h mi s ns

/-- `t.Sub(u)`: a `Duration` saturates at the range of an `int64`. -/
def sub (t u : Int) : Int := max (-9223372036854775808) (min 9223372036854775807 (t - u))

/-- The zero `time.Time`, the first of January of year 1. -/
def zeroTime : Int := date 1 1 1 0 0 0 0

/-- The calendar date of an instant in UTC. -/
def civil (t : Int) : CivilDate := civilFromDays (unix t / 86400)

/-! ## Digits -/

def digit (n : Nat) : Char := Char.ofNat (48 + n)

def digitVal (c : Char) : Option Nat :=
  if '0' ≤ c ∧ c ≤ '9' then some (c.toNat - 48) else none

/-- `appendInt` for a natural number: at least `width` digits, zero padded. -/
def decimal : (width n : Nat) → List Char
  | 0, n => if n = 0 then [] else Nat.toDigits 10 n
  | width + 1, n => decimal width (n / 10) ++ [digit (n % 10)]

theorem digitVal_digit : ∀ n < 10, digitVal (digit n) = some n := by decide

theorem digitVal_dash : digitVal '-' = none := by decide

/-! ## Formatting -/

/-- `t.UTC().Format(time.RFC3339)`, as characters. -/
def formatRFC3339Chars (t : Int) : List Char :=
  let c := civil t
  let sod := (unix t % 86400).toNat
  (if c.year < 0 then ['-'] else []) ++ decimal 4 c.year.natAbs ++ '-' :: decimal 2 c.month.toNat ++
    '-' :: decimal 2 c.day.toNat ++ 'T' :: decimal 2 (sod / 3600) ++
    ':' :: decimal 2 (sod / 60 % 60) ++ ':' :: decimal 2 (sod % 60) ++ ['Z']

def formatRFC3339 (t : Int) : String := String.ofList (formatRFC3339Chars t)

/-- `t.UTC().Format("2006-01-02")`. -/
def formatDate (t : Int) : String :=
  let c := civil t
  String.ofList ((if c.year < 0 then ['-'] else []) ++ decimal 4 c.year.natAbs ++
    '-' :: decimal 2 c.month.toNat ++ '-' :: decimal 2 c.day.toNat)

/-! ## Parsing -/

/-- Go's `getnum`: two digits, or one if `fixed` is not set. -/
def getnum (fixed : Bool) : List Char → Option (Nat × List Char)
  | [] => none
  | [c] => if fixed then none else (digitVal c).map fun a => (a, [])
  | c :: c' :: cs =>
    match digitVal c, digitVal c' with
    | some a, some b => some (10 * a + b, cs)
    | some a, none => if fixed then none else some (a, c' :: cs)
    | none, _ => none

/-- The four-digit year. -/
def getyear : List Char → Option (Nat × List Char)
  | c₀ :: c₁ :: c₂ :: c₃ :: cs => do
    let a ← digitVal c₀
    let b ← digitVal c₁
    let c ← digitVal c₂
    let d ← digitVal c₃
    some (1000 * a + 100 * b + 10 * c + d, cs)
  | _ => none

/-- Go's `skip` for a one-character prefix. -/
def skip (c : Char) : List Char → Option (List Char)
  | [] => none
  | c' :: cs => if c' = c then some cs else none

/-- The digits at the front. -/
def spanDigits : List Char → List Nat × List Char
  | [] => ([], [])
  | c :: cs =>
    match digitVal c with
    | some a => (a :: (spanDigits cs).1, (spanDigits cs).2)
    | none => ([], c :: cs)

/-- Go's `parseNanoseconds`: nine digits of a fraction of a second, later ones dropped. -/
def nanoseconds (ds : List Nat) : Nat :=
  ((ds ++ List.replicate 9 0).take 9).foldl (fun n d => 10 * n + d) 0

/-- The fraction of a second, which may be missing. -/
def getfraction : List Char → Nat × List Char
  | c :: cs =>
    if (c = '.' ∨ c = ',') ∧ (spanDigits cs).1 ≠ [] then
      (nanoseconds (spanDigits cs).1, (spanDigits cs).2)
    else (0, c :: cs)
  | [] => (0, [])

/-- The zone `Z07:00`: the offset from UTC in seconds. Nothing may follow it. -/
def getzone : List Char → Option Int
  | ['Z'] => some 0
  | [sign, h₀, h₁, ':', m₀, m₁] => do
    let (hr, _) ← getnum true [h₀, h₁]
    let (mm, _) ← getnum true [m₀, m₁]
    guard (hr ≤ 24 ∧ mm ≤ 60)
    if sign = '+' then some ((hr * 60 + mm) * 60)
    else if sign = '-' then some (-((hr * 60 + mm) * 60))
    else none
  | _ => none

def parseRFC3339Chars (cs : List Char) : Option Int := do
  let (year, cs) ← getyear cs
  let cs ← skip '-' cs
  let (month, cs) ← getnum true cs
  let cs ← skip '-' cs
  let (day, cs) ← getnum true cs
  let cs ← skip 'T' cs
  let (hour, cs) ← getnum false cs
  let cs ← skip ':' cs
  let (min, cs) ← getnum true cs
  let cs ← skip ':' cs
  let (sec, cs) ← getnum true cs
  let (nsec, cs) := getfraction cs
  let offset ← getzone cs
  guard (1 ≤ month ∧ month ≤ 12 ∧ hour < 24 ∧ min < 60 ∧ sec < 60)
  guard (1 ≤ day ∧ day ≤ daysIn month year)
  some (date year month day hour min sec nsec - offset * second)

/-- `time.Parse(time.RFC3339, s)`; `none` stands for the error. -/
def parseRFC3339 (s : String) : Option Int := parseRFC3339Chars s.toList

example : parseRFC3339 "2024-02-29T18:30:00.25+05:30" = some (date 2024 2 29 13 0 0 250000000) := by
  decide

/-! ## Round trip -/

theorem digitVal_digit_mod (n : Nat) : digitVal (digit (n % 10)) = some (n % 10) :=
  digitVal_digit _ (Nat.mod_lt _ (by decide))

theorem skip_cons (c : Char) (cs : List Char) : skip c (c :: cs) = some cs := by simp [skip]

theorem getfraction_Z : getfraction ['Z'] = (0, ['Z']) := by decide

theorem guard_eq {p : Prop} [Decidable p] (h : p) : (guard p : Option Unit) = some () :=
  if_pos h

theorem daysIn_le (m y : Int) : daysIn m y ≤ 31 := by
  unfold daysIn
  split <;> split <;> omega

theorem decimal_two {n : Nat} (h : n < 100) :
    decimal 2 n = [digit (n / 10 % 10), digit (n % 10)] := by
  have h0 : n / 10 / 10 = 0 := by omega
  simp [decimal, h0]

theorem decimal_four {n : Nat} (h : n < 10000) :
    decimal 4 n = [digit (n / 10 / 10 / 10 % 10), digit (n / 10 / 10 % 10), digit (n / 10 % 10),
      digit (n % 10)] := by
  have h0 : n / 10 / 10 / 10 / 10 = 0 := by omega
  simp [decimal, h0]

theorem getyear_decimal {n : Nat} (h : n < 10000) (cs : List Char) :
    getyear (decimal 4 n ++ cs) = some (n, cs) := by
  simp only [decimal_four h, List.cons_append, List.nil_append, getyear, digitVal_digit_mod,
    Option.bind_eq_bind, Option.bind_some, Option.some.injEq, Prod.mk.injEq, and_true]
  omega

theorem getnum_decimal {n : Nat} (h : n < 100) (fixed : Bool) (cs : List Char) :
    getnum fixed (decimal 2 n ++ cs) = some (n, cs) := by
  simp only [decimal_two h, List.cons_append, List.nil_append, getnum, digitVal_digit_mod,
    Option.some.injEq, Prod.mk.injEq, and_true]
  omega

/-- A separator with two digits after it. -/
theorem bind_skip_getnum {α : Type} {n : Nat} (h : n < 100) (sep : Char) (fixed : Bool)
    (cs : List Char) (f : Nat × List Char → Option α) :
    ((skip sep (sep :: (decimal 2 n ++ cs))).bind fun cs => (getnum fixed cs).bind f) =
      f (n, cs) := by
  rw [skip_cons, Option.bind_some, getnum_decimal h, Option.bind_some]

theorem isDigit_of_mem_decimal {c : Char} : ∀ {width n : Nat}, c ∈ decimal width n → c.isDigit
  | 0, n, h => by
    rw [decimal] at h
    split at h
    · simp at h
    · exact Nat.isDigit_of_mem_toDigits (by decide) (by decide) h
  | width + 1, n, h => by
    rw [decimal, List.mem_append, List.mem_singleton] at h
    rcases h with h | rfl
    · exact isDigit_of_mem_decimal h
    · exact (by decide : ∀ d < 10, (digit d).isDigit) _ (Nat.mod_lt _ (by decide))

theorem getyear_rest {c₀ c₁ c₂ c₃ : Char} {cs cs' : List Char} {y : Nat}
    (h : getyear (c₀ :: c₁ :: c₂ :: c₃ :: cs) = some (y, cs')) : cs' = cs := by
  simp only [getyear, Option.bind_eq_bind, Option.bind_eq_some_iff, Option.some.injEq,
    Prod.mk.injEq] at h
  obtain ⟨_, _, _, _, _, _, _, _, _, rfl⟩ := h
  rfl

/-- A year does not begin with a sign. -/
theorem parse_sign {c : Char} (hc : digitVal c = none) (cs : List Char) :
    parseRFC3339Chars (c :: cs) = none := by
  match cs with
  | [] | [_] | [_, _] => rfl
  | _ :: _ :: _ :: _ =>
    rw [parseRFC3339Chars, getyear, hc]
    rfl

/-- A year of five digits or more leaves a digit where the parser wants a dash. -/
theorem parse_long_year {n : Nat} (h : 10000 ≤ n) (cs : List Char) :
    parseRFC3339Chars (decimal 4 n ++ cs) = none := by
  have hlen : 5 ≤ (decimal 4 n).length := by
    have h0 : n / 10 / 10 / 10 / 10 ≠ 0 := by omega
    have := List.length_pos_of_ne_nil (Nat.toDigits_ne_nil (n := n / 10 / 10 / 10 / 10) (b := 10))
    simp only [decimal, if_neg h0, List.length_append, List.length_singleton]
    omega
  obtain ⟨c₀, c₁, c₂, c₃, c₄, rest, hd⟩ : ∃ c₀ c₁ c₂ c₃ c₄ rest,
      decimal 4 n = c₀ :: c₁ :: c₂ :: c₃ :: c₄ :: rest := by
    match decimal 4 n, hlen with
    | c₀ :: c₁ :: c₂ :: c₃ :: c₄ :: rest, _ => exact ⟨_, _, _, _, _, _, rfl⟩
  have hdash : c₄ ≠ '-' := by
    rintro rfl
    exact absurd (isDigit_of_mem_decimal (hd ▸ by simp : '-' ∈ decimal 4 n)) (by decide)
  rw [hd, parseRFC3339Chars]
  cases hy : getyear (c₀ :: c₁ :: c₂ :: c₃ :: c₄ :: rest ++ cs) with
  | none => rfl
  | some p =>
    obtain ⟨y, cs'⟩ := p
    obtain rfl : cs' = c₄ :: rest ++ cs := getyear_rest hy
    have hskip : skip '-' (c₄ :: rest ++ cs) = none := if_neg hdash
    show (skip '-' (c₄ :: rest ++ cs)).bind _ = none
    rw [hskip, Option.bind_none]

theorem int64_eq (n : Int) :
    int64 n = (n + 9223372036854775808) % 18446744073709551616 - 9223372036854775808 := by
  rw [int64, Int.bmod_def]
  split <;> omega

/-- Seconds that an `int64` can count from the year 1 on. -/
theorem unixTime_eq {sec : Int} (hlow : -4611686018427387904 ≤ sec)
    (hhigh : sec ≤ 4611686018427387904) (nsec : Int) : unixTime sec nsec = sec * second + nsec := by
  rw [unixTime, int64, Int.bmod_eq_of_le_mul_two (by omega) (by omega), Int.add_sub_cancel]

/-- The instants of the years with at most four digits. -/
theorem unix_of_year {t : Int} (hyear : 0 ≤ (civil t).year ∧ (civil t).year ≤ 9999) :
    -719528 ≤ unix t / 86400 ∧ unix t / 86400 ≤ 2932896 := by
  have hbefore : daysFromCivil (-1) 12 31 = -719529 := by decide
  have hafter : daysFromCivil 10000 1 1 = 2932897 := by decide
  unfold civil at hyear
  constructor
  · by_contra hlt
    have hle := year_le_of_le (y := -1) (z := unix t / 86400) (by omega)
    omega
  · by_contra hlt
    have hge := le_year_of_le (y := 10000) (z := unix t / 86400) (by omega)
    omega

theorem date_truncateSecond {t : Int} (hyear : 0 ≤ (civil t).year ∧ (civil t).year ≤ 9999)
    (nsec : Int) :
    let c := civil t
    let sod := unix t % 86400
    date c.year c.month c.day (sod / 3600) (sod / 60 % 60) (sod % 60) nsec =
      truncateSecond t + nsec := by
  have hbounds := unix_of_year hyear
  have hd := daysFromCivil_civilFromDays (unix t / 86400)
  obtain ⟨hm₁, hm₂⟩ := civilFromDays_month (unix t / 86400)
  have hy : ((civilFromDays (unix t / 86400)).month - 1) / 12 = 0 := by omega
  have hm : ((civilFromDays (unix t / 86400)).month - 1) % 12 + 1 =
      (civilFromDays (unix t / 86400)).month := by omega
  simp only [date, dateIn, civil, hy, hm, Int.add_zero, hd, truncateSecond]
  rw [unixTime_eq (by omega) (by omega)]
  congr 2
  omega

/-- The date and the time of the day in UTC, before the fraction of a second and the zone. -/
def dateTimeChars (t : Int) : List Char :=
  let c := civil t
  let sod := (unix t % 86400).toNat
  decimal 4 c.year.natAbs ++ '-' :: (decimal 2 c.month.toNat ++ '-' :: (decimal 2 c.day.toNat ++
    'T' :: (decimal 2 (sod / 3600) ++ ':' :: (decimal 2 (sod / 60 % 60) ++
      ':' :: decimal 2 (sod % 60)))))

/-- A date and a time are read back together with the fraction that follows them. -/
theorem parse_dateTime {t : Int} (hyear : 0 ≤ (civil t).year ∧ (civil t).year ≤ 9999)
    {tail : List Char} {nsec : Nat} (htail : getfraction tail = (nsec, ['Z'])) :
    parseRFC3339Chars (dateTimeChars t ++ tail) = some (truncateSecond t + nsec) := by
  obtain ⟨hm₁, hm₂⟩ := civilFromDays_month (unix t / 86400)
  obtain ⟨hd₁, hd₂⟩ := civilFromDays_day (unix t / 86400)
  have hd₃ := daysIn_le (civilFromDays (unix t / 86400)).month
    (civilFromDays (unix t / 86400)).year
  have hdate := date_truncateSecond hyear nsec
  simp only [dateTimeChars, List.append_assoc, List.cons_append]
  simp only [civil] at hdate hyear ⊢
  generalize civilFromDays (unix t / 86400) = c at *
  have hsod : 0 ≤ unix t % 86400 ∧ unix t % 86400 < 86400 := by omega
  generalize unix t % 86400 = sod at *
  rw [parseRFC3339Chars, getyear_decimal (by omega)]
  dsimp only [Option.bind_eq_bind, Option.bind_some]
  rw [bind_skip_getnum (by omega)]
  dsimp only
  rw [bind_skip_getnum (by omega)]
  dsimp only
  rw [bind_skip_getnum (by omega)]
  dsimp only
  rw [bind_skip_getnum (by omega)]
  dsimp only
  rw [bind_skip_getnum (by omega)]
  simp only [htail, Option.bind_some, getzone]
  have hy : (c.year.natAbs : Int) = c.year := by omega
  have hm : (c.month.toNat : Int) = c.month := by omega
  have hd : (c.day.toNat : Int) = c.day := by omega
  have h₁ : ((sod.toNat / 3600 : Nat) : Int) = sod / 3600 := by omega
  have h₂ : ((sod.toNat / 60 % 60 : Nat) : Int) = sod / 60 % 60 := by omega
  have h₃ : ((sod.toNat % 60 : Nat) : Int) = sod % 60 := by omega
  have hclock : 1 ≤ c.month.toNat ∧ c.month.toNat ≤ 12 ∧ sod.toNat / 3600 < 24 ∧
      sod.toNat / 60 % 60 < 60 ∧ sod.toNat % 60 < 60 := by omega
  have hday : 1 ≤ c.day.toNat ∧ (c.day.toNat : Int) ≤ daysIn c.month.toNat c.year.natAbs := by
    rw [hy, hm, hd]
    omega
  rw [guard_eq hclock, guard_eq hday]
  simp only [Option.bind_some, hy, hm, hd, h₁, h₂, h₃, Int.zero_mul, Int.sub_zero]
  rw [hdate]

/-- Formatting keeps the whole second; a year outside `0..9999` does not parse back. -/
theorem parseRFC3339_formatRFC3339 (t : Int) :
    parseRFC3339 (formatRFC3339 t) =
      if 0 ≤ (civil t).year ∧ (civil t).year ≤ 9999 then some (truncateSecond t) else none := by
  have hchars : formatRFC3339Chars t =
      (if (civil t).year < 0 then ['-'] else []) ++ (dateTimeChars t ++ ['Z']) := by
    simp only [formatRFC3339Chars, dateTimeChars, List.append_assoc, List.cons_append]
  rw [parseRFC3339, formatRFC3339, String.toList_ofList, hchars]
  by_cases hneg : (civil t).year < 0
  · rw [if_pos hneg, if_neg (by omega)]
    exact parse_sign digitVal_dash _
  rw [if_neg hneg, List.nil_append]
  by_cases hlong : (civil t).year ≤ 9999
  · rw [if_pos ⟨by omega, hlong⟩, parse_dateTime ⟨by omega, hlong⟩ getfraction_Z]
    exact congrArg some (Int.add_zero _)
  · rw [if_neg (by omega), dateTimeChars, List.append_assoc]
    exact parse_long_year (by omega) _

/-- Only the whole second of an instant reaches its text. -/
theorem formatRFC3339_congr {t t' : Int} (h : unix t = unix t') :
    formatRFC3339 t = formatRFC3339 t' := by
  unfold formatRFC3339 formatRFC3339Chars civil
  rw [h]

/-- Storing an instant in milliseconds keeps its whole second. -/
theorem unix_ofUnixMilli (t : Int) : unix (ofUnixMilli (unixMilli t)) = unix t := by
  simp only [unix, ofUnixMilli, unixMilli, second]
  omega

end GoTime

end GbcVenue
