import GbcVenue.Domain.Types
import GbcVenue.Time.GoTime
import Mathlib.Algebra.Group.Int.Defs
import Mathlib.Algebra.Group.Nat.Defs

/-!
# Operational days

`backend/pkg/timeutil/time.go`. The venue location is a fixed offset from UTC, in seconds.
-/

namespace GbcVenue.Timeutil

open GoTime

/-- `DayBounds`. -/
structure DayBounds where
  start : Int
  stop : Int
  deriving DecidableEq, Repr

/-- The loop of `strconv.ParseUint`, from the value `n` of the digits so far on. A `uint64` that is too
small ends it with the greatest one, whatever characters are left. -/
def parseDigits : (n : Nat) → List Char → Option Nat
  | n, [] => some n
  | n, c :: cs =>
    match digitVal c with
    | none => none
    | some d => if 10 * n + d < 2 ^ 64 then parseDigits (10 * n + d) cs else some (2 ^ 64 - 1)

/-- `strconv.ParseUint(s, 10, 64)`; `none` is a syntax error. -/
def parseUint : List Char → Option Nat
  | [] => none
  | cs => parseDigits 0 cs

/-- `strconv.Atoi`: the value it returns and whether there was no error. The value is 0 after a
syntax error and the nearest `int64` after a range error. -/
def atoi (cs : List Char) : Int × Bool :=
  let (neg, ds) := match cs with
    | '-' :: ds => (true, ds)
    | '+' :: ds => (false, ds)
    | ds => (false, ds)
  match parseUint ds with
  | none => (0, false)
  | some n =>
    if neg then if n ≤ 2 ^ 63 then (-n, true) else (-2 ^ 63, false)
    else if n < 2 ^ 63 then (n, true) else (2 ^ 63 - 1, false)

/-- The hour and minute of an `HH:MM` string; without a colon, those of `default`. -/
def clockParts (s : String) (default : Int × Int) : Int × Int :=
  match s.toList.splitOn ':' with
  | h :: m :: _ => ((atoi h).1, (atoi m).1)
  | _ => default

/-- Go `GetOperationalDayBounds` (`time.go:79-121`). -/
def getOperationalDayBounds (offset : Int) (dateStr venueStartTime venueCloseTime : String) :
    Except GoError DayBounds :=
  let dateOnly := dateStr.toList.take 10
  match dateOnly.splitOn '-' with
  | [p₀, p₁, p₂] =>
    let (year, ok₁) := atoi p₀
    let (month, ok₂) := atoi p₁
    let (day, ok₃) := atoi p₂
    if ¬ (ok₁ ∧ ok₂ ∧ ok₃) then
      .error (.text ("timeutil: non-numeric date components in " ++ dateStr.quote))
    else
      let (startHour, startMin) := clockParts venueStartTime (9, 0)
      let (closeHour, closeMin) := clockParts venueCloseTime (6, 0)
      .ok ⟨dateIn offset year month day startHour startMin 0 0,
        dateIn offset year month (day + 1) closeHour closeMin 0 0⟩
  | _ => .error (.text ("timeutil: invalid date " ++ dateStr.quote ++ ", expected YYYY-MM-DD"))

/-- Go `TodayVenueString` (`time.go:123-139`): the operational date at instant `now`. A `Duration` is an
`int64` of nanoseconds. -/
def todayVenueString (offset now : Int) (venueCloseTime : String) : String :=
  let (closeHour, closeMin) := clockParts venueCloseTime (6, 0)
  let shiftDuration := int64 ((closeHour * 3600 + closeMin * 60) * second)
  formatDate (now + offset * second + int64 (-shiftDuration))

-- A range error comes before the syntax error of a later character.
example : atoi "99999999999999999999x".toList = (2 ^ 63 - 1, false) := by decide

example : getOperationalDayBounds 19800 "2024-03-01" "09:00" "06:00" =
    .ok ⟨date 2024 3 1 3 30 0 0, date 2024 3 2 0 30 0 0⟩ := by decide

end GbcVenue.Timeutil
