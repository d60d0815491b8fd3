import GbcVenue.Calendar.Civil

/-!
# The `Date` object in a fixed time zone

The methods of JavaScript's `Date` that the frontend calls, and `parseInt`. A time value counts the
milliseconds since 1970 in UTC; `none` is `NaN`. The zone is `offset` seconds east of UTC.
-/

namespace GbcVenue

open Calendar

namespace JsDate

def msPerHour : Int := 3600000

def msPerDay : Int := 86400000

/-- `TimeClip`. -/
def timeClip (t : Int) : Option Int :=
  if -8640000000000000 ≤ t ∧ t ≤ 8640000000000000 then some t else none

section

variable (offset t : Int)

/-- `LocalTime(t)`. -/
def localTime : Int := t + offset * 1000

def getHours : Int := localTime offset t / msPerHour % 24

def getMinutes : Int := localTime offset t / 60000 % 60

/-- `getDate()`: the day of the month. -/
def getDate : Int := (civilFromDays (localTime offset t / msPerDay)).day

/-- `setDate(dt)`: day `dt` of the month, counted on from its first, at the same time of the day. -/
def setDate (dt : Int) : Option Int :=
  let c := civilFromDays (localTime offset t / msPerDay)
  timeClip ((daysFromCivil c.year c.month 1 + dt - 1) * msPerDay + localTime offset t % msPerDay -
    offset * 1000)

/-- `setHours(hour, min, sec, ms)`, on the same day. -/
def setHours (hour min sec ms : Int) : Option Int :=
  timeClip (localTime offset t / msPerDay * msPerDay +
    (hour * msPerHour + min * 60000 + sec * 1000 + ms) - offset * 1000)

end

/-- The characters that `parseInt` skips. -/
def isStrWhiteSpace (c : Char) : Bool :=
  c.isWhitespace ∨ c.toNat = 0xb ∨ c.toNat = 0xc ∨ c.toNat = 0xa0 ∨ c.toNat = 0x1680 ∨
    (0x2000 ≤ c.toNat ∧ c.toNat ≤ 0x200a) ∨ c.toNat = 0x2028 ∨ c.toNat = 0x2029 ∨
    c.toNat = 0x202f ∨ c.toNat = 0x205f ∨ c.toNat = 0x3000 ∨ c.toNat = 0xfeff

/-- `trim()`. -/
def trim (cs : List Char) : List Char :=
  (((cs.dropWhile isStrWhiteSpace).reverse).dropWhile isStrWhiteSpace).reverse

/-- `Number(cs)` of decimal integers; the other numerals are no part of a time of the clock. -/
def number (cs : List Char) : Option Int :=
  let (sign, ds) := match trim cs with
    | '-' :: ds => (-1, ds)
    | '+' :: ds => (1, ds)
    | ds => (1, ds)
  if trim cs = [] then some 0
  else if ds ≠ [] ∧ ds.all Char.isDigit then some (sign * Nat.ofDigitChars 10 ds 0) else none

/-- `x < y`, which is false of `NaN`. -/
def numLt : Option Int → Option Int → Prop
  | some x, some y => x < y
  | _, _ => False

instance : ∀ x y, Decidable (numLt x y)
  | some x, some y => inferInstanceAs (Decidable (x < y))
  | some _, none => .isFalse id
  | none, some _ => .isFalse id
  | none, none => .isFalse id

/-- `parseInt(cs, 10)`, exact where JavaScript rounds to a `Number`. -/
def parseInt (cs : List Char) : Option Int :=
  let (sign, ds) := match cs.dropWhile isStrWhiteSpace with
    | '-' :: ds => (-1, ds)
    | '+' :: ds => (1, ds)
    | ds => (1, ds)
  match ds.takeWhile Char.isDigit with
  | [] => none
  | ds => some (sign * Nat.ofDigitChars 10 ds 0)

theorem timeClip_eq_some {t ms : Int} (h : timeClip t = some ms) : ms = t := by
  unfold timeClip at h
  split at h
  · exact (Option.some.inj h).symm
  · cases h

theorem timeClip_of_le {t : Int} (h : -8640000000000000 ≤ t) (h' : t ≤ 8640000000000000) :
    timeClip t = some t := if_pos ⟨h, h'⟩

/-- `n` days later, at the same time. -/
theorem setDate_add (offset t n : Int) :
    setDate offset t (getDate offset t + n) = timeClip (t + n * msPerDay) := by
  have hdays := daysFromCivil_civilFromDays (localTime offset t / msPerDay)
  have hday : ∀ d : Int, d = 1 + (d - 1) := by omega
  rw [hday (civilFromDays _).day, daysFromCivil_add] at hdays
  simp only [setDate, getDate, localTime, msPerDay] at *
  congr 1
  omega

/-- The day before, at the same time. -/
theorem setDate_yesterday (offset t : Int) :
    setDate offset t (getDate offset t - 1) = timeClip (t - msPerDay) := by
  rw [Int.sub_eq_add_neg, setDate_add]
  congr 1

@[simp] theorem numLt_some {x y : Int} : numLt (some x) (some y) ↔ x < y := Iff.rfl

@[simp] theorem not_numLt_none {x : Option Int} : ¬ numLt x none := by
  cases x <;> exact id

@[simp] theorem not_none_numLt {x : Option Int} : ¬ numLt none x := by
  cases x <;> exact id

end JsDate

end GbcVenue
