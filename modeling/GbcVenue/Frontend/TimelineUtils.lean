import GbcVenue.Frontend.JsDate
import GbcVenue.Time.OperationalDay

/-!
# The origin of the drawn axis

`frontend/src/components/timeline/timelineUtils.js`. The axis begins at the last opening hour, while
the backend's day changes at the closing time: `axis_origin_agrees_iff` says when both mean the same
day, for a browser in the time zone of the venue.
-/

namespace GbcVenue

open Calendar GoTime Timeutil

namespace TimelineUtils

open JsDate

/-- `openHour` of `BookingTimeline.jsx:17`. -/
def openHour (venueStartTime : String) : Option Int :=
  if venueStartTime = "" then some 10
  else parseInt ((venueStartTime.toList.splitOn ':').headD [])

/-- `getTimelineStartOfDay`. -/
def getTimelineStartOfDay (offset baseDate openHour : Int) : Option Int :=
  let d := if getHours offset baseDate < openHour
    then setDate offset baseDate (getDate offset baseDate - 1) else some baseDate
  d.bind fun d => setHours offset d openHour 0 0 0

/-- The local day that the axis of `baseDate` begins on. -/
def axisDay (offset baseDate openHour : Int) : Int :=
  if localTime offset baseDate % msPerDay < openHour * msPerHour
  then localTime offset baseDate / msPerDay - 1 else localTime offset baseDate / msPerDay

theorem openHour_text (h : Fin 24) : openHour (ClockTime.oClock h).text = some (h : Int) := by
  revert h
  decide

theorem getHours_lt_iff {offset t h : Int} :
    getHours offset t < h ↔ localTime offset t % msPerDay < h * msPerHour := by
  simp only [getHours, msPerDay, msPerHour]
  omega

theorem getTimelineStartOfDay_eq {offset t h ms : Int}
    (hms : getTimelineStartOfDay offset t h = some ms) :
    ms = axisDay offset t h * msPerDay + h * msPerHour - offset * 1000 := by
  simp only [getTimelineStartOfDay, getHours_lt_iff] at hms
  obtain ⟨d, hd, hset⟩ := Option.bind_eq_some_iff.1 hms
  have hms' := timeClip_eq_some hset
  split at hd
  · rename_i hbefore
    rw [setDate_yesterday] at hd
    have hd' := timeClip_eq_some hd
    rw [axisDay, if_pos hbefore, hms', hd']
    simp only [localTime, msPerDay, msPerHour]
    omega
  · rename_i hbefore
    cases hd
    rw [axisDay, if_neg hbefore, hms']
    omega

theorem getTimelineStartOfDay_of_le {offset t h : Int} (hh : 0 ≤ h ∧ h < 24)
    (hlow : -8639999000000000 ≤ t) (hhigh : t ≤ 8639999000000000) :
    getTimelineStartOfDay offset t h =
      some (axisDay offset t h * msPerDay + h * msPerHour - offset * 1000) := by
  have hsome : ∃ ms, getTimelineStartOfDay offset t h = some ms := by
    unfold getTimelineStartOfDay
    rw [setDate_yesterday, timeClip_of_le (by simp only [msPerDay]; omega)
      (by simp only [msPerDay]; omega)]
    split
    · refine ⟨_, timeClip_of_le ?_ ?_⟩ <;>
      · simp only [localTime, msPerDay, msPerHour]
        omega
    · refine ⟨_, timeClip_of_le ?_ ?_⟩ <;>
      · simp only [localTime, msPerDay, msPerHour]
        omega
  obtain ⟨ms, hms⟩ := hsome
  rw [hms, getTimelineStartOfDay_eq hms]

section

variable {offset now : Int}

theorem axisDay_now (h : Int) : axisDay offset (unixMilli now) h =
    if (unix now + offset) % 86400 < 3600 * h then (unix now + offset) / 86400 - 1
    else (unix now + offset) / 86400 := by
  have hlocal : localTime offset (unixMilli now) / msPerDay = (unix now + offset) / 86400 := by
    simp only [localTime, unixMilli, unix, second, msPerDay]
    omega
  have hlt : localTime offset (unixMilli now) % msPerDay < h * msPerHour ↔
      (unix now + offset) % 86400 < 3600 * h := by
    simp only [localTime, unixMilli, unix, second, msPerDay, msPerHour]
    omega
  simp only [axisDay, hlocal, hlt]

theorem operationalDay_now {closeSeconds : Int} (h : 0 ≤ closeSeconds ∧ closeSeconds < 86400) :
    operationalDay offset closeSeconds now =
      if (unix now + offset) % 86400 < closeSeconds then (unix now + offset) / 86400 - 1
      else (unix now + offset) / 86400 := by
  rw [operationalDay]
  split <;> omega

end

/-- At `now` the axis of a browser in the venue's time zone begins at the start of the day that
`GetTodayTimeline` shows. -/
def AxisAgrees (offset now : Int) (venueStartTime venueCloseTime : String) : Prop :=
  ∃ today, getOperationalDayBounds offset (todayVenueString offset now venueCloseTime)
      venueStartTime venueCloseTime = .ok today ∧
    ∃ ms, ((openHour venueStartTime).bind (getTimelineStartOfDay offset (unixMilli now))) = some ms ∧
      ofUnixMilli ms = today.start

/-- The axis begins on day `D` of the backend exactly if that is the day of the last opening hour. -/
theorem axis_begins_iff {offset now D : Int} (h : Fin 24) {closeSeconds : Int}
    (hlow : -8639999000000000 ≤ unixMilli now) (hhigh : unixMilli now ≤ 8639999000000000) :
    (∃ ms, getTimelineStartOfDay offset (unixMilli now) h = some ms ∧
        ofUnixMilli ms = (dayBounds offset (ClockTime.oClock h).seconds closeSeconds D).start) ↔
      axisDay offset (unixMilli now) h = D := by
  have hh : (0 : Int) ≤ (h : Nat) ∧ ((h : Nat) : Int) < 24 := by omega
  rw [getTimelineStartOfDay_of_le hh hlow hhigh]
  simp only [Option.some.injEq, exists_eq_left', ofUnixMilli, dayBounds, ClockTime.oClock,
    ClockTime.seconds, second, msPerDay, msPerHour]
  omega

/-- In the years 0 to 99999 the clock of the browser is far from the last time value. -/
theorem unixMilli_bounds {offset closeSeconds now : Int}
    (hzone : -86400 < offset ∧ offset < 86400) (hclose : 0 ≤ closeSeconds ∧ closeSeconds < 86400)
    (hlow : 0 ≤ (civilFromDays (operationalDay offset closeSeconds now)).year)
    (hhigh : (civilFromDays (operationalDay offset closeSeconds now)).year ≤ 99999) :
    -8639999000000000 ≤ unixMilli now ∧ unixMilli now ≤ 8639999000000000 := by
  have hfirst : -719528 ≤ operationalDay offset closeSeconds now := by
    by_contra hlt
    have hyear := year_le_of_le (y := -1) (z := operationalDay offset closeSeconds now)
      (by have hlast : daysFromCivil (-1) 12 31 = -719529 := by decide
          omega)
    omega
  have hlast : operationalDay offset closeSeconds now ≤ 35804721 := by
    by_contra hlt
    have hyear := le_year_of_le (y := 100000) (z := operationalDay offset closeSeconds now)
      (by have hfirst : daysFromCivil 100000 1 1 = 35804722 := by decide
          omega)
    omega
  simp only [operationalDay, unix, second] at hfirst hlast
  simp only [unixMilli]
  omega

/-- The axis and the backend agree exactly while the venue's clock is on the same side of the opening
hour and of the closing time; beyond the year 9999, whose dates lose their last digit, between
closing and opening on the first of a month. -/
theorem axis_origin_agrees_iff {offset : Int} (hzone : -86400 < offset ∧ offset < 86400)
    (h : Fin 24) (closeTime : ClockTime) (now : Int) :
    AxisAgrees offset now (ClockTime.oClock h).text closeTime.text ↔
      let today := civilFromDays (operationalDay offset closeTime.seconds now)
      let clock := (unix now + offset) % 86400
      (0 ≤ today.year ∧ today.year ≤ 9999 ∧
        (clock < 3600 * (h : Int) ↔ clock < closeTime.seconds)) ∨
      (10000 ≤ today.year ∧ today.year ≤ 99999 ∧
        today.day = 1 ∧ closeTime.seconds ≤ clock ∧ clock < 3600 * (h : Int)) := by
  rw [AxisAgrees, exists_bounds_today_iff (by omega), exists_dayNamed_iff, openHour_text,
    Option.bind_some]
  have hclose : 0 ≤ closeTime.seconds ∧ closeTime.seconds < 86400 :=
    ⟨closeTime.seconds_nonneg, closeTime.seconds_lt⟩
  have hD : operationalDay offset closeTime.seconds now = _ := operationalDay_now hclose
  have haxis : axisDay offset (unixMilli now) h = _ := axisDay_now h
  have hbounds := @unixMilli_bounds offset closeTime.seconds now hzone hclose
  have hday := (valid_civilFromDays (operationalDay offset closeTime.seconds now)).day.1
  dsimp only
  refine or_congr ?_ ?_
  · refine and_congr_right fun hlow => and_congr_right fun hhigh => ?_
    obtain ⟨hlow', hhigh'⟩ := hbounds hlow (by omega)
    rw [axis_begins_iff h hlow' hhigh', haxis, hD]
    split <;> split <;> omega
  · refine and_congr_right fun hlow => and_congr_right fun hhigh => ?_
    obtain ⟨hlow', hhigh'⟩ := hbounds (by omega) hhigh
    rw [axis_begins_iff h hlow' hhigh', haxis]
    split at hD <;> split <;> omega

/-- Four in the afternoon in Colombo, with opening at nine and closing at six. -/
theorem axis_origin_agrees_afternoon :
    AxisAgrees 19800 1893493800000000000 (ClockTime.oClock 9).text (ClockTime.oClock 6).text :=
  (axis_origin_agrees_iff (by decide) 9 (.oClock 6) _).2 (by decide)

/-- Seven in the morning there: the axis is still that of the day before, the backend has left it. -/
theorem axis_origin_can_differ :
    ¬ ∀ offset : Int, -86400 < offset ∧ offset < 86400 → ∀ (h : Fin 24) (closeTime : ClockTime),
      ∀ now, AxisAgrees offset now (ClockTime.oClock h).text closeTime.text := by
  intro hclaim
  obtain ⟨today, htoday, ms, hms, hstart⟩ :=
    hclaim 19800 (by decide) 9 (.oClock 6) 1893547800000000000
  have hbounds : getOperationalDayBounds 19800
      (todayVenueString 19800 1893547800000000000 (ClockTime.oClock 6).text)
      (ClockTime.oClock 9).text (ClockTime.oClock 6).text =
        .ok ⟨date 2030 1 2 3 30 0 0, date 2030 1 3 0 30 0 0⟩ := by decide
  have haxis : (openHour (ClockTime.oClock 9).text).bind
      (getTimelineStartOfDay 19800 (unixMilli 1893547800000000000)) = some 1893468600000 := by
    decide
  rw [hbounds] at htoday
  rw [haxis] at hms
  cases htoday
  cases hms
  exact absurd hstart (by decide)

end TimelineUtils

end GbcVenue
