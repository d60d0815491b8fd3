import GbcVenue.Time.DateText

/-!
# The operational day of an instant

`TodayVenueString` takes the closing time off the clock and keeps the date, so the day changes at the
closing time. `operationalDay` is the number of that day; `today_is_operational` says that its window
is the right one: it has not ended, and it holds the instant whenever any day's window does.
-/

namespace GbcVenue

open GoTime Calendar

namespace Timeutil

/-- The number of the operational day at `now`: the days since 1970-01-01 on the venue's clock set
back by the closing time. -/
def operationalDay (offset closeSeconds now : Int) : Int :=
  (unix now + offset - closeSeconds) / 86400

theorem civil_shift (now k : Int) :
    civil (now + k * second) = civilFromDays ((unix now + k) / 86400) := by
  have hunix : unix (now + k * second) = unix now + k := by
    simp only [unix, second]
    omega
  rw [civil, hunix]

/-- A `Duration` of less than a day does not overflow. -/
theorem int64_day {k : Int} (h : -86400 < k ∧ k < 86400) : int64 (k * second) = k * second := by
  unfold int64 second
  exact Int.bmod_eq_of_le_mul_two (by omega) (by omega)

/-- The text of today is the text of the operational day. -/
theorem todayVenueString_text (offset now : Int) (closeTime : ClockTime) :
    todayVenueString offset now closeTime.text = String.ofList (dateChars (civilFromDays
      (operationalDay offset closeTime.seconds now))) := by
  have hnonneg := closeTime.seconds_nonneg
  have hlt := closeTime.seconds_lt
  have htext : todayVenueString offset now closeTime.text = formatDate (now + offset * second +
      int64 (-int64 (clockSeconds closeTime.text (6, 0) * second))) := rfl
  have hshift : now + offset * second + -closeTime.seconds * second =
      now + (offset - closeTime.seconds) * second := by
    rw [Int.sub_mul, Int.neg_mul]
    omega
  rw [htext, clockSeconds_text, int64_day (by omega), ← Int.neg_mul, int64_day (by omega), hshift,
    formatDate_eq, civil_shift, operationalDay, Int.add_sub_assoc]

section

variable {offset openSeconds closeSeconds now D : Int}

theorem dayBounds_le_iff : (dayBounds offset openSeconds closeSeconds D).start ≤ now ↔
    D * 86400 + openSeconds - offset ≤ unix now := by
  simp only [dayBounds, unix, second]
  omega

theorem lt_dayBounds_iff : now < (dayBounds offset openSeconds closeSeconds D).stop ↔
    unix now < (D + 1) * 86400 + closeSeconds - offset := by
  simp only [dayBounds, unix, second]
  omega

/-- The operational day has not ended. -/
theorem lt_stop_operationalDay : now < (dayBounds offset openSeconds closeSeconds
    (operationalDay offset closeSeconds now)).stop := by
  rw [lt_dayBounds_iff, operationalDay]
  omega

/-- A day whose window holds `now` is not before the operational day. -/
theorem operationalDay_le (h : now < (dayBounds offset openSeconds closeSeconds D).stop) :
    operationalDay offset closeSeconds now ≤ D := by
  rw [lt_dayBounds_iff] at h
  rw [operationalDay]
  omega

/-- From the opening time of the operational day on its window holds `now`; before that no window
does. -/
theorem start_operationalDay_le (h : (dayBounds offset openSeconds closeSeconds D).start ≤ now)
    (h' : now < (dayBounds offset openSeconds closeSeconds D).stop) :
    (dayBounds offset openSeconds closeSeconds (operationalDay offset closeSeconds now)).start ≤
      now := by
  have hle := operationalDay_le h'
  rw [dayBounds_le_iff] at h ⊢
  omega

/-- Every earlier day has begun. -/
theorem start_le_of_lt_operationalDay (h : D < operationalDay offset closeSeconds now)
    (hopen : openSeconds < 86400) (hclose : 0 ≤ closeSeconds) :
    (dayBounds offset openSeconds closeSeconds D).start ≤ now := by
  rw [dayBounds_le_iff]
  rw [operationalDay] at h
  omega

end

/-- The day that the text of day `D` names. -/
theorem exists_dayNamed_iff {D : Int} {P : Int → Prop} :
    (∃ D', dayNamed (civilFromDays D) = some D' ∧ P D') ↔
      (0 ≤ (civilFromDays D).year ∧ (civilFromDays D).year ≤ 9999 ∧ P D) ∨
        (10000 ≤ (civilFromDays D).year ∧ (civilFromDays D).year ≤ 99999 ∧
          P (D - (civilFromDays D).day + (civilFromDays D).day / 10)) := by
  have hdays : (civilFromDays D).days = D := daysFromCivil_civilFromDays D
  constructor
  · rintro ⟨D', hD', hP⟩
    rcases dayNamed_eq_some hD' with ⟨h₀, h₁, rfl⟩ | ⟨h₀, h₁, rfl⟩
    · rw [hdays] at hP
      exact .inl ⟨h₀, h₁, hP⟩
    · rw [hdays] at hP
      exact .inr ⟨h₀, h₁, hP⟩
  · rintro (⟨h₀, h₁, hP⟩ | ⟨h₀, h₁, hP⟩)
    · refine ⟨D, ?_, hP⟩
      rw [dayNamed, if_pos ⟨h₀, h₁⟩, hdays]
    · refine ⟨_, ?_, hP⟩
      rw [dayNamed, if_neg (by omega), if_pos ⟨h₀, h₁⟩, hdays]

/-- A date that has lost the last digit of its day is an earlier one. -/
theorem lost_digit_lt (D : Int) :
    D - (civilFromDays D).day + (civilFromDays D).day / 10 < D := by
  have hday : 1 ≤ (civilFromDays D).day := (valid_civilFromDays D).day.1
  omega

/-- The text of the operational day has a year of four digits, at any instant of the years 1 to 9998
in a zone less than a year away from UTC. -/
theorem dayNamed_operationalDay {offset closeSeconds now : Int}
    (hyear : 1 ≤ (civil now).year ∧ (civil now).year ≤ 9998)
    (hzone : -364 * 86400 ≤ offset ∧ offset ≤ 364 * 86400)
    (hclose : 0 ≤ closeSeconds ∧ closeSeconds < 86400) :
    dayNamed (civilFromDays (operationalDay offset closeSeconds now)) =
      some (operationalDay offset closeSeconds now) := by
  obtain ⟨hy₁, hy₂⟩ := hyear
  have hlow : daysFromCivil 1 1 1 ≤ unix now / 86400 := by
    by_contra hlt
    have hyear := year_le_of_le (y := 0) (z := unix now / 86400)
      (by have hlast : daysFromCivil 0 12 31 = daysFromCivil 1 1 1 - 1 := by decide
          omega)
    rw [civil] at hy₁
    omega
  have hhigh : unix now / 86400 ≤ daysFromCivil 9998 12 31 := by
    by_contra hlt
    have hyear := le_year_of_le (y := 9999) (z := unix now / 86400)
      (by have hlast : daysFromCivil 9999 1 1 = daysFromCivil 9998 12 31 + 1 := by decide
          omega)
    rw [civil] at hy₂
    omega
  have hfirst : daysFromCivil 1 1 1 = -719162 := by decide
  have hlast : daysFromCivil 9998 12 31 = 2932531 := by decide
  have hD₁ : daysFromCivil 0 1 1 ≤ operationalDay offset closeSeconds now := by
    have hzero : daysFromCivil 0 1 1 = -719528 := by decide
    rw [operationalDay]
    omega
  have hD₂ : operationalDay offset closeSeconds now ≤ daysFromCivil 9999 12 31 := by
    have hend : daysFromCivil 9999 12 31 = 2932896 := by decide
    rw [operationalDay]
    omega
  rw [dayNamed, if_pos ⟨le_year_of_le hD₁, year_le_of_le hD₂⟩, CivilDate.days,
    daysFromCivil_civilFromDays]

section

variable {offset now : Int} {openTime closeTime : ClockTime}

/-- The bounds of the day that a date text names, with valid clock times. -/
theorem bounds_of_dayNamed_text (hzone : -364 * 86400 ≤ offset ∧ offset ≤ 364 * 86400)
    {c : CivilDate} (hc : c.Valid) {D : Int} (h : dayNamed c = some D) :
    getOperationalDayBounds offset (String.ofList (dateChars c)) openTime.text closeTime.text =
      .ok (dayBounds offset openTime.seconds closeTime.seconds D) := by
  rw [bounds_of_dayNamed _ _ _ hc h, clockSeconds_text, clockSeconds_text,
    wrappedBounds_eq hzone ⟨openTime.seconds_nonneg, openTime.seconds_lt⟩
      ⟨closeTime.seconds_nonneg, closeTime.seconds_lt⟩ (dayNamed_bounds hc h)]

/-- The bounds of today. -/
theorem bounds_today (hzone : -364 * 86400 ≤ offset ∧ offset ≤ 364 * 86400) {D : Int}
    (h : dayNamed (civilFromDays (operationalDay offset closeTime.seconds now)) = some D) :
    getOperationalDayBounds offset (todayVenueString offset now closeTime.text) openTime.text
        closeTime.text =
      .ok (dayBounds offset openTime.seconds closeTime.seconds D) := by
  rw [todayVenueString_text]
  exact bounds_of_dayNamed_text hzone (valid_civilFromDays _) h

theorem bounds_today_error
    (h : dayNamed (civilFromDays (operationalDay offset closeTime.seconds now)) = none) :
    ∃ e, getOperationalDayBounds offset (todayVenueString offset now closeTime.text) openTime.text
      closeTime.text = .error e := by
  rw [todayVenueString_text]
  exact bounds_of_dayNamed_none _ _ _ (valid_civilFromDays _) h

theorem exists_bounds_today_iff (hzone : -364 * 86400 ≤ offset ∧ offset ≤ 364 * 86400)
    {P : DayBounds → Prop} :
    (∃ today, getOperationalDayBounds offset (todayVenueString offset now closeTime.text)
        openTime.text closeTime.text = .ok today ∧ P today) ↔
      ∃ D, dayNamed (civilFromDays (operationalDay offset closeTime.seconds now)) = some D ∧
        P (dayBounds offset openTime.seconds closeTime.seconds D) := by
  cases hD : dayNamed (civilFromDays (operationalDay offset closeTime.seconds now)) with
  | none =>
    obtain ⟨e, he⟩ := @bounds_today_error _ _ openTime _ hD
    simp [he]
  | some D =>
    rw [bounds_today hzone hD]
    simp

end

/-- Today has not ended, and its window holds every instant that lies in the window of any date. -/
theorem today_is_operational {offset now : Int}
    (hyear : 1 ≤ (civil now).year ∧ (civil now).year ≤ 9998)
    (hzone : -364 * 86400 ≤ offset ∧ offset ≤ 364 * 86400) (openTime closeTime : ClockTime) :
    ∃ bounds, getOperationalDayBounds offset (todayVenueString offset now closeTime.text)
        openTime.text closeTime.text = .ok bounds ∧ now < bounds.stop ∧
      ∀ date : CivilDate, date.Valid → ∀ window, getOperationalDayBounds offset
          (String.ofList (dateChars date)) openTime.text closeTime.text = .ok window →
        window.start ≤ now → now < window.stop → bounds.start ≤ now := by
  have hnamed := dayNamed_operationalDay hyear hzone
    ⟨closeTime.seconds_nonneg, closeTime.seconds_lt⟩
  refine ⟨_, bounds_today hzone hnamed, lt_stop_operationalDay, ?_⟩
  intro date hdate window hwindow hstart hstop
  cases hD : dayNamed date with
  | none =>
    obtain ⟨e, he⟩ := bounds_of_dayNamed_none offset openTime.text closeTime.text hdate hD
    rw [he] at hwindow
    cases hwindow
  | some D =>
    rw [bounds_of_dayNamed_text hzone hdate hD] at hwindow
    cases hwindow
    exact start_operationalDay_le hstart hstop

/-- Four in the afternoon in Colombo, with opening at nine and closing at six. -/
theorem today_is_operational_afternoon :
    ∃ bounds, getOperationalDayBounds 19800
        (todayVenueString 19800 1893493800000000000 (ClockTime.oClock 6).text)
        (ClockTime.oClock 9).text (ClockTime.oClock 6).text = .ok bounds ∧
      1893493800000000000 < bounds.stop ∧
      ∀ date : CivilDate, date.Valid → ∀ window, getOperationalDayBounds 19800
          (String.ofList (dateChars date)) (ClockTime.oClock 9).text (ClockTime.oClock 6).text =
            .ok window →
        window.start ≤ 1893493800000000000 → 1893493800000000000 < window.stop →
        bounds.start ≤ 1893493800000000000 :=
  today_is_operational (by decide) (by decide) _ _

end Timeutil

end GbcVenue
