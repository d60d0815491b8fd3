import GbcVenue.Frontend.TimelineBooking
import GbcVenue.Frontend.TimelineUtils
import Mathlib.Algebra.Order.Floor.Ring
import Mathlib.Data.Rat.Floor

/-!
# The end of the drawn axis

`getDynamicCloseHour` of `frontend/src/components/timeline/timelineUtils.js`, and the closing hour that
`BookingTimeline.jsx` calls it with. The axis reaches the closing hour and all bookings of the day, but
never further than twenty hours: `axis_covers_day_iff`.
-/

namespace GbcVenue

open TimelineUtils JsDate

namespace TimelineUtils

/-- `getMinutesFromOpen` (`timelineUtils.js:38-43`), at the clock reading `baseDate`. -/
def getMinutesFromOpen (offset timestamp openHour baseDate : Int) : Option Int :=
  if timestamp = 0 then some 0
  else (getTimelineStartOfDay offset baseDate openHour).map fun openTimeMs =>
    (timestamp - openTimeMs) / 60000

/-- `endHour` of `getDynamicCloseHour`; `none` is `NaN`. -/
def endHour (offset today openHour : Int) (b : TimelineBooking) : Option Int :=
  (getMinutesFromOpen offset b.startTime openHour today).map fun startMins =>
    openHour + ⌈((startMins : ℚ) + b.duration / 60000) / 60⌉

/-- One turn of the loop of `getDynamicCloseHour`. -/
def raise (offset today openHour maxHour : Int) (b : TimelineBooking) : Int :=
  match endHour offset today openHour b with
  | none => maxHour
  | some hour => if maxHour < hour then hour else maxHour

/-- `getDynamicCloseHour` (`timelineUtils.js:7-19`). -/
def getDynamicCloseHour (offset today : Int) (bookings : List TimelineBooking)
    (openHour defaultCloseHour : Int) : Int :=
  min (bookings.foldl (raise offset today openHour) defaultCloseHour) (openHour + 20)

theorem le_raise (offset today openHour maxHour : Int) (b : TimelineBooking) :
    maxHour ≤ raise offset today openHour maxHour b := by
  unfold raise
  split
  · exact le_rfl
  · split <;> omega

/-- The loop only moves the closing hour back. -/
theorem le_foldl_raise {offset today openHour : Int} {bookings : List TimelineBooking} :
    ∀ maxHour, maxHour ≤ bookings.foldl (raise offset today openHour) maxHour := by
  induction bookings with
  | nil => exact fun _ => le_rfl
  | cons b bookings ih =>
    intro maxHour
    exact (le_raise offset today openHour maxHour b).trans (ih _)

end TimelineUtils

namespace BookingTimeline

/-- `parsedCloseHour` (`BookingTimeline.jsx:19`). -/
def parsedCloseHour (venueCloseTime : String) : Option Int :=
  if venueCloseTime = "" then some 24
  else parseInt ((venueCloseTime.toList.splitOn ':').headD [])

/-- `baseCloseHour` (`BookingTimeline.jsx:20`). -/
def baseCloseHour (parsedCloseHour openHour : Int) : Int :=
  if parsedCloseHour = 0 then 24
  else if parsedCloseHour < openHour then parsedCloseHour + 24 else parsedCloseHour

/-- `closeHour` (`BookingTimeline.jsx:60`). -/
def closeHour (offset today : Int) (venueStartTime venueCloseTime : String)
    (bookings : List TimelineBooking) : Option Int := do
  let openHour ← openHour venueStartTime
  let parsedCloseHour ← parsedCloseHour venueCloseTime
  return getDynamicCloseHour offset today bookings openHour (baseCloseHour parsedCloseHour openHour)

/-- The closing hour of a day that opens at `h`: the first hour `k` of the clock after that, counted
past 24 if it falls on the next morning. -/
def closing (h k : Fin 24) : Int := if h < k then (k : Int) else (k : Int) + 24

theorem parsedCloseHour_text (k : Fin 24) :
    parsedCloseHour (ClockTime.oClock k).text = some (k : Int) := by
  revert k
  decide

theorem closeHour_text (offset today : Int) (h k : Fin 24) (bookings : List TimelineBooking) :
    closeHour offset today (ClockTime.oClock h).text (ClockTime.oClock k).text bookings =
      some (getDynamicCloseHour offset today bookings h (baseCloseHour k h)) := by
  rw [closeHour, openHour_text, parsedCloseHour_text]
  rfl

/-- The closing hour of the code is that of the day, unless the venue closes at the hour at which it
opens. -/
theorem baseCloseHour_eq {h k : Fin 24} (hne : h ≠ k) : baseCloseHour k h = closing h k := by
  have hne' : (h : Nat) ≠ k := fun heq => hne (Fin.ext heq)
  simp only [baseCloseHour, closing, Fin.lt_def]
  split <;> split <;> omega

/-- The axis reaches the closing hour and the end of every booking. -/
structure AxisCovers (openTimeMs : Int) (h k : Fin 24) (bookings : List TimelineBooking)
    (closeHour : Int) : Prop where
  closing : closing h k ≤ closeHour
  bookings : ∀ b ∈ bookings, b.endTime ≤ openTimeMs + (closeHour - h) * 3600000

/-- The axis covers a day exactly if the day is at most twenty hours long. -/
theorem axis_covers_day_iff {offset today openTimeMs : Int} {h k : Fin 24}
    {bookings : List TimelineBooking}
    (hday : ∀ b ∈ bookings, b.endTime ≤ openTimeMs + (closing h k - h) * 3600000) :
    (∃ hour, closeHour offset today (ClockTime.oClock h).text (ClockTime.oClock k).text bookings =
        some hour ∧ AxisCovers openTimeMs h k bookings hour) ↔ closing h k ≤ h + 20 := by
  simp only [closeHour_text, Option.some.injEq, exists_eq_left']
  constructor
  · intro hcovers
    exact hcovers.closing.trans (min_le_right _ _)
  · intro hshort
    have hne : h ≠ k := by
      rintro rfl
      rw [closing, if_neg (Fin.lt_irrefl h)] at hshort
      omega
    have hreach : closing h k ≤ getDynamicCloseHour offset today bookings h (baseCloseHour k h) := by
      rw [baseCloseHour_eq hne]
      exact le_min (le_foldl_raise _) hshort
    refine ⟨hreach, fun b hb => (hday b hb).trans ?_⟩
    omega

/-- Ann's booking on a day from ten in the morning to six in the morning. -/
theorem axis_covers_day_ten_to_six :
    ∃ hour, closeHour 0 1893493800000 (ClockTime.oClock 10).text (ClockTime.oClock 6).text
      [annsBooking] = some hour ∧ AxisCovers 1893492000000 10 6 [annsBooking] hour :=
  (axis_covers_day_iff (by decide)).2 (by decide)

/-- A day from nine in the morning to six in the morning: the axis ends at five. -/
theorem axis_can_end_early :
    ¬ ∀ (offset today openTimeMs : Int) (h k : Fin 24) (bookings : List TimelineBooking),
      getTimelineStartOfDay offset today h = some openTimeMs →
      (∀ b ∈ bookings, openTimeMs ≤ b.startTime ∧
        b.endTime ≤ openTimeMs + (closing h k - h) * 3600000) →
      ∃ hour, closeHour offset today (ClockTime.oClock h).text (ClockTime.oClock k).text bookings =
        some hour ∧ AxisCovers openTimeMs h k bookings hour := by
  intro hclaim
  obtain ⟨hour, hhour, hcovers⟩ :=
    hclaim 0 1893493800000 1893488400000 9 6 [] (by decide) (by decide)
  have hfive : closeHour 0 1893493800000 (ClockTime.oClock 9).text (ClockTime.oClock 6).text [] =
      some 29 := by decide
  rw [hfive, Option.some.injEq] at hhour
  have hclosing := hcovers.closing
  rw [← hhour] at hclosing
  exact absurd hclosing (by decide)

end BookingTimeline

end GbcVenue
