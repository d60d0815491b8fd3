import GbcVenue.Server.Handlers
import GbcVenue.Service.Timeline
import GbcVenue.Time.OperationalDay

/-!
# The current day on three paths

The staff restriction of `CreateBooking` and the default date of the timeline endpoint
(`backend/internal/handler/helpers.go`) take the calendar date in UTC for the current operational
day; `GetTodayTimeline` takes the venue's date after the last closing time.
`current_day_paths_agree_iff`: they agree, and the restriction is drawn at the start of the day that
is shown, exactly while the two dates are the same and the venue has opened.
-/

namespace GbcVenue

open Interleaving BookingService GoTime Calendar Timeutil

/-- A creation by staff that is served at `now` gets past the temporal restriction. -/
def PassesTemporalCheck (w : World) (now checkIn : Int) : Prop :=
  ∃ w', Prog.Runs (sem (atNow now)) 0 (staffRefused checkIn now "staff") w false w'

theorem passesTemporalCheck_iff {w : World} {now checkIn : Int} :
    PassesTemporalCheck w now checkIn ↔ ¬ (checkIn < now ∧
      beforeOperationalDay w.venueOffset checkIn now (timesOf w.config).1 (timesOf w.config).2) := by
  unfold PassesTemporalCheck staffRefused
  by_cases hpast : checkIn < now
  · rw [if_pos ⟨hpast, by decide⟩]
    simp only [runs_venueTimes, venueLocation, Prog.call_bind, runs_venueLocation, Prog.pure_eq,
      Prog.runs_ret]
    simp [hpast]
  · rw [if_neg fun h => hpast h.1]
    simp [Prog.pure_eq, Prog.runs_ret, hpast]

/-- At `now` the date in UTC, to which `CreateBooking` restricts staff, is that of `GetTodayTimeline`; the
timeline endpoint answers without a date as this does; and a check-in passes the restriction if it is not
before the start of that day. -/
structure OneCurrentDay (w : World) (now : Int) (venueStart venueClose : String) : Prop where
  created : formatDate now = todayVenueString w.venueOffset now venueClose
  requested : ∀ r w', Prog.Runs (sem (atNow now)) 0 (BookingHandler.getTimeline "") w r w' ↔
    Prog.Runs (sem (atNow now)) 0 getTodayTimeline w r w'
  staff : ∃ today, getOperationalDayBounds w.venueOffset
      (todayVenueString w.venueOffset now venueClose) venueStart venueClose = .ok today ∧
    ∀ checkIn, PassesTemporalCheck w now checkIn ↔ today.start ≤ checkIn

theorem formatDate_eq_today_iff {offset now : Int} {closeTime : ClockTime} :
    formatDate now = todayVenueString offset now closeTime.text ↔
      unix now / 86400 = operationalDay offset closeTime.seconds now := by
  rw [formatDate_eq, todayVenueString_text, String.ofList_inj, civil]
  constructor
  · intro h
    have hdate := dateChars_inj (valid_civilFromDays _) (valid_civilFromDays _) h
    rw [← daysFromCivil_civilFromDays (unix now / 86400), hdate, daysFromCivil_civilFromDays]
  · intro h
    rw [h]

theorem beforeOperationalDay_eq {offset now : Int} {venueStart venueClose : String}
    {today : DayBounds}
    (h : getOperationalDayBounds offset (formatDate now) venueStart venueClose = .ok today)
    (checkIn : Int) : beforeOperationalDay offset checkIn now venueStart venueClose =
      decide (checkIn < today.start) := by
  unfold beforeOperationalDay
  split
  · rename_i heq
    rw [h] at heq
    cases heq
    rfl
  · rename_i heq
    rw [h] at heq
    cases heq

/-- The restriction is drawn at the start of the day of `formatDate now` once that has begun. -/
theorem restriction_at_start_iff {w : World} {now : Int} {today : DayBounds}
    (h : getOperationalDayBounds w.venueOffset (formatDate now) (timesOf w.config).1
      (timesOf w.config).2 = .ok today) :
    (∀ checkIn, PassesTemporalCheck w now checkIn ↔ today.start ≤ checkIn) ↔
      today.start ≤ now := by
  simp only [passesTemporalCheck_iff, beforeOperationalDay_eq h, decide_eq_true_eq]
  constructor
  · intro hall
    have hnow := hall now
    omega
  · intro hstart checkIn
    omega

/-- Without a date the endpoint takes the one in UTC. -/
theorem runs_getTimeline_default {w w' : World} {now : Int} {r : Except GoError (List Booking)} :
    Prog.Runs (sem (atNow now)) 0 (BookingHandler.getTimeline "") w r w' ↔
      Prog.Runs (sem (atNow now)) 0 (BookingService.getTimeline (formatDate now)) w r w' := by
  unfold BookingHandler.getTimeline timeNow
  rw [if_pos rfl]
  simp only [Prog.call_bind]
  exact runs_timeNow

theorem oneCurrentDay_iff {w : World} {now : Int} {venueStart venueClose : String}
    (hcfg : timesOf w.config = (venueStart, venueClose)) :
    OneCurrentDay w now venueStart venueClose ↔
      formatDate now = todayVenueString w.venueOffset now venueClose ∧
        ∃ today, getOperationalDayBounds w.venueOffset
            (todayVenueString w.venueOffset now venueClose) venueStart venueClose = .ok today ∧
          today.start ≤ now := by
  constructor
  · rintro ⟨hcreated, -, today, htoday, hstaff⟩
    rw [restriction_at_start_iff (by rw [hcfg, hcreated]; exact htoday)] at hstaff
    exact ⟨hcreated, today, htoday, hstaff⟩
  · rintro ⟨hcreated, today, htoday, hstart⟩
    refine ⟨hcreated, fun r w' => ?_, today, htoday, ?_⟩
    · rw [runs_getTimeline_default, runs_getTodayTimeline, hcfg, hcreated]
    · rw [restriction_at_start_iff (by rw [hcfg, hcreated]; exact htoday)]
      exact hstart

/-- The three paths agree exactly if the date in UTC is that of the operational day and this day has
begun; beyond the year 9999, whose dates lose their last digit, the day that is left always has. -/
theorem current_day_paths_agree_iff {w : World} {openTime closeTime : ClockTime}
    (hcfg : timesOf w.config = (openTime.text, closeTime.text)) (now : Int) :
    OneCurrentDay w now openTime.text closeTime.text ↔
      let D := operationalDay w.venueOffset closeTime.seconds now
      let today := civilFromDays D
      unix now / 86400 = D ∧
        ((0 ≤ today.year ∧ today.year ≤ 9999 ∧
          (dayBounds w.venueOffset openTime.seconds closeTime.seconds D).start ≤ now) ∨
        (10000 ≤ today.year ∧ today.year ≤ 99999)) := by
  rw [oneCurrentDay_iff hcfg, formatDate_eq_today_iff]
  refine and_congr_right fun hday => ?_
  -- where the two dates are the same the zone is less than two days away from UTC
  have hzone : -364 * 86400 ≤ w.venueOffset ∧ w.venueOffset ≤ 364 * 86400 := by
    have hnonneg := closeTime.seconds_nonneg
    have hlt := closeTime.seconds_lt
    rw [operationalDay] at hday
    omega
  rw [exists_bounds_today_iff hzone, exists_dayNamed_iff]
  refine or_congr_right ?_
  have hstart := start_le_of_lt_operationalDay
    (lost_digit_lt (operationalDay w.venueOffset closeTime.seconds now)) openTime.seconds_lt
    closeTime.seconds_nonneg
  simp only [hstart, and_true]

/-- Four in the afternoon in Colombo, with opening at nine and closing at six. -/
theorem current_day_paths_agree_afternoon :
    OneCurrentDay (World.start .empty (some ⟨0, "06:00", "09:00", 0⟩) 19800) 1893493800000000000
      (ClockTime.oClock 9).text (ClockTime.oClock 6).text := by
  have hcfg : timesOf (some (⟨0, "06:00", "09:00", 0⟩ : VenueConfig)) =
      ((ClockTime.oClock 9).text, (ClockTime.oClock 6).text) := by decide
  exact (current_day_paths_agree_iff
    (w := World.start .empty (some ⟨0, "06:00", "09:00", 0⟩) 19800) hcfg _).2 (by decide)

/-- A quarter to six in the morning there: the date in UTC is already the next one. -/
theorem current_day_paths_can_differ :
    ¬ ∀ (w : World) (openTime closeTime : ClockTime),
      timesOf w.config = (openTime.text, closeTime.text) →
      ∀ now, OneCurrentDay w now openTime.text closeTime.text := by
  intro hclaim
  have hcfg : timesOf (some (⟨0, "06:00", "09:00", 0⟩ : VenueConfig)) =
      ((ClockTime.oClock 9).text, (ClockTime.oClock 6).text) := by decide
  have hagree := hclaim (World.start .empty (some ⟨0, "06:00", "09:00", 0⟩) 19800) (.oClock 9)
    (.oClock 6) hcfg 1893543300000000000
  exact absurd (formatDate_eq_today_iff.1 hagree.created) (by decide)

end GbcVenue
