import GbcVenue.Frontend.BookingModal

/-!
# Edits of the form

Runs of the change handlers of `CreateBookingModal.jsx`. The form is checked on its two texts and
confirmed with its first text and its duration. Each handler that changes a time puts the three in
step, as far as a duration is shorter than a day: `confirmed_is_checked_iff`.
-/

namespace GbcVenue

open GoTime JsDate TimelineUtils TimelineRow

namespace CreateBookingModal

/-- An edit of the form. The times are texts that an `input` of type `time` can hold. -/
inductive Edit where
  | checkIn (val : ClockTime)
  /-- one of the buttons -/
  | duration (val : Int)
  /-- the fields of the hours and of the minutes -/
  | hoursMins (h m : Int)
  | checkOut (val : ClockTime)
  | player (val : String)
  | mobile (val : String)
  | amount (val : String)
  | isPaid (val : Bool)

def Edit.isTime : Edit → Bool
  | checkIn _ | duration _ | hoursMins _ _ | checkOut _ => true
  | player _ | mobile _ | amount _ | isPaid _ => false

/-- The handlers of the inputs (`CreateBookingModal.jsx:250-391`). -/
def Edit.apply (g : Globals) (o : Opened) (form : Form) : Edit → Form
  | checkIn val => handleCheckInChange g o form val.text
  | duration val => handleDurationChange g o form val
  | hoursMins h m => handleDurationChange g o form (h * 60 + m)
  | checkOut val => handleCheckOutChange g o form val.text
  | player val => { form with player := val }
  | mobile val => { form with
      mobile := String.ofList (val.toList.filter fun c => c.isDigit ∨ c = '+') }
  | amount val => { form with amount := val }
  | isPaid val => { form with isPaid := val }

/-- The form after some edits. -/
def edited (g : Globals) (o : Opened) (edits : List Edit) : Form :=
  edits.foldl (Edit.apply g o) (o.form g)

/-- The form shows a check-in and a duration, and some check-out. -/
structure Shows (form : Form) (checkIn : ClockTime) (durMins : Int) : Prop where
  checkIn : form.checkIn = checkIn.text
  duration : form.durationMins = some durMins
  checkOut : form.checkOut = "NaN:NaN" ∨ ∃ checkOut : ClockTime, form.checkOut = checkOut.text

/-- The check-out of the form is its check-in and its duration. -/
def InStep (form : Form) : Prop :=
  ∀ checkIn durMins, Shows form checkIn durMins → 0 < durMins → durMins < 24 * 60 →
    form.checkOut = (clockOf (minuteOf checkIn + durMins)).text

/-- The part of the form that its times are. -/
def Form.times (form : Form) : String × String × Option Int :=
  (form.checkIn, form.checkOut, form.durationMins)

theorem Shows.of_times {form form' : Form} {checkIn : ClockTime} {durMins : Int}
    (h : Shows form checkIn durMins) (heq : form'.times = form.times) :
    Shows form' checkIn durMins := by
  obtain ⟨hin, hout, hdur⟩ : form'.checkIn = form.checkIn ∧ form'.checkOut = form.checkOut ∧
      form'.durationMins = form.durationMins := by
    simpa only [Form.times, Prod.mk.injEq] using heq
  exact ⟨hin.trans h.checkIn, hdur.trans h.duration, by rw [hout]; exact h.checkOut⟩

theorem InStep.of_times {form form' : Form} (h : InStep form) (heq : form'.times = form.times) :
    InStep form' := by
  intro checkIn durMins hshows hpos hlt
  have hout : form'.checkOut = form.checkOut := congrArg (fun times => times.2.1) heq
  rw [hout]
  exact h checkIn durMins (hshows.of_times heq.symm) hpos hlt

section

variable {g : Globals} {o : Opened} {form : Form} {startOfDay durMins : Int} {checkIn : ClockTime}

theorem format_cases (ms : Option Int) :
    formatTimeForInput g ms = "NaN:NaN" ∨ ∃ c : ClockTime, formatTimeForInput g ms = c.text := by
  cases hms : ms.bind timeClip with
  | none =>
    rw [formatTimeForInput, hms]
    exact .inl rfl
  | some t =>
    have hclip : timeClip t = some t := by
      obtain ⟨t', -, ht'⟩ := Option.bind_eq_some_iff.1 hms
      rw [timeClip_eq_some ht']
      exact (timeClip_eq_some ht').symm ▸ ht'
    have hshow : formatTimeForInput g ms = formatTimeForInput g (some t) := by
      rw [formatTimeForInput, formatTimeForInput, hms, Option.bind_some, hclip]
    rw [hshow]
    exact .inr ⟨_, formatTimeForInput_eq hclip⟩

/-! ## One edit -/

/-- An edit of something else leaves the times alone. -/
theorem apply_times {e : Edit} (he : e.isTime = false) : (e.apply g o form).times = form.times := by
  cases e with
  | checkIn _ | duration _ | hoursMins _ _ | checkOut _ => cases he
  | player _ | mobile _ | amount _ | isPaid _ => rfl

theorem handleCheckInChange_spec (hrange : InRange g o.getBaseMs startOfDay)
    (h : Shows form checkIn durMins) (val : ClockTime) :
    Shows (handleCheckInChange g o form val.text) val durMins ∧
      InStep (handleCheckInChange g o form val.text) := by
  have hiff : numLt (some 0) form.durationMins ↔ 0 < durMins := by
    rw [h.duration]
    exact numLt_some
  unfold handleCheckInChange
  by_cases hpos : 0 < durMins
  · rw [if_pos (hiff.2 hpos)]
    refine ⟨⟨rfl, h.duration, format_cases _⟩, ?_⟩
    intro checkIn' durMins' hshows _ hlt
    cases text_inj hshows.checkIn
    cases h.duration.symm.trans hshows.duration
    dsimp only
    rw [parse_text hrange, h.duration]
    exact format_inputTime hrange val (by omega)
  · rw [if_neg (mt hiff.1 hpos)]
    refine ⟨⟨rfl, h.duration, h.checkOut⟩, ?_⟩
    intro checkIn' durMins' hshows hpos'
    cases h.duration.symm.trans hshows.duration
    exact absurd hpos' hpos

theorem handleDurationChange_spec (hrange : InRange g o.getBaseMs startOfDay)
    (h : Shows form checkIn durMins) (val : Int) :
    Shows (handleDurationChange g o form val) checkIn val ∧
      InStep (handleDurationChange g o form val) := by
  have hne : form.checkIn ≠ "" := h.checkIn ▸ text_ne_empty checkIn
  unfold handleDurationChange
  by_cases hpos : 0 < val
  · rw [if_pos ⟨hpos, hne⟩]
    refine ⟨⟨h.checkIn, rfl, format_cases _⟩, ?_⟩
    intro checkIn' durMins' hshows _ hlt
    cases text_inj (h.checkIn.symm.trans hshows.checkIn)
    cases hshows.duration
    dsimp only
    rw [h.checkIn, parse_text hrange]
    exact format_inputTime hrange checkIn (by omega)
  · rw [if_neg fun hboth => hpos hboth.1]
    refine ⟨⟨h.checkIn, rfl, h.checkOut⟩, ?_⟩
    intro checkIn' durMins' hshows hpos'
    cases hshows.duration
    exact absurd hpos' hpos

theorem handleCheckOutChange_spec (hrange : InRange g o.getBaseMs startOfDay)
    (h : Shows form checkIn durMins) (val : ClockTime) :
    Shows (handleCheckOutChange g o form val.text) checkIn
        ((minuteOf val - minuteOf checkIn) % 1440) ∧
      InStep (handleCheckOutChange g o form val.text) := by
  have hne : form.checkIn ≠ "" := h.checkIn ▸ text_ne_empty checkIn
  have hdiff : (if inputTime g startOfDay val - inputTime g startOfDay checkIn < 0 then
      inputTime g startOfDay val - inputTime g startOfDay checkIn + 24 * 3600000
      else inputTime g startOfDay val - inputTime g startOfDay checkIn) / 60000 =
      (minuteOf val - minuteOf checkIn) % 1440 := by
    have hv := val.hour_lt
    have hv' := val.minute_lt
    have hc := checkIn.hour_lt
    have hc' := checkIn.minute_lt
    simp only [inputTime, minuteOf, msPerDay]
    split <;> split <;> split <;> omega
  have hshows : Shows (handleCheckOutChange g o form val.text) checkIn
      ((minuteOf val - minuteOf checkIn) % 1440) := by
    unfold handleCheckOutChange
    rw [if_pos hne]
    refine ⟨h.checkIn, ?_, .inr ⟨val, rfl⟩⟩
    dsimp only
    rw [h.checkIn, parse_text hrange, parse_text hrange]
    exact congrArg some hdiff
  refine ⟨hshows, ?_⟩
  intro checkIn' durMins' hshows' _ _
  cases text_inj (hshows.checkIn.symm.trans hshows'.checkIn)
  cases hshows.duration.symm.trans hshows'.duration
  unfold handleCheckOutChange
  rw [if_pos hne]
  refine congrArg ClockTime.text ?_
  rw [← clockOf_minuteOf val]
  exact clockOf_congr (by rw [minuteOf_clockOf]; omega)

/-- What an edit does to the times that the form shows. -/
theorem apply_shows (hrange : InRange g o.getBaseMs startOfDay) (h : Shows form checkIn durMins)
    (e : Edit) : ∃ checkIn' durMins', Shows (e.apply g o form) checkIn' durMins' := by
  cases e with
  | checkIn val => exact ⟨_, _, (handleCheckInChange_spec hrange h val).1⟩
  | duration val => exact ⟨_, _, (handleDurationChange_spec hrange h val).1⟩
  | hoursMins hh mm => exact ⟨_, _, (handleDurationChange_spec hrange h (hh * 60 + mm)).1⟩
  | checkOut val => exact ⟨_, _, (handleCheckOutChange_spec hrange h val).1⟩
  | player _ | mobile _ | amount _ | isPaid _ => exact ⟨_, _, h.of_times (apply_times rfl)⟩

/-- An edit of a time puts the form in step. -/
theorem apply_inStep (hrange : InRange g o.getBaseMs startOfDay) (h : Shows form checkIn durMins)
    {e : Edit} (he : e.isTime) : InStep (e.apply g o form) := by
  cases e with
  | checkIn val => exact (handleCheckInChange_spec hrange h val).2
  | duration val => exact (handleDurationChange_spec hrange h val).2
  | hoursMins hh mm => exact (handleDurationChange_spec hrange h (hh * 60 + mm)).2
  | checkOut val => exact (handleCheckOutChange_spec hrange h val).2
  | player _ | mobile _ | amount _ | isPaid _ => cases he

/-! ## Runs of edits -/

theorem foldl_times {edits : List Edit} :
    ∀ form : Form, (∀ e ∈ edits, e.isTime = false) →
      (edits.foldl (Edit.apply g o) form).times = form.times := by
  induction edits with
  | nil => exact fun _ _ => rfl
  | cons e edits ih =>
    intro form h
    rw [List.foldl_cons, ih _ fun e' he' => h e' (List.mem_cons_of_mem _ he')]
    exact apply_times (h e List.mem_cons_self)

theorem foldl_shows (hrange : InRange g o.getBaseMs startOfDay) {edits : List Edit} :
    ∀ (form : Form) (checkIn : ClockTime) (durMins : Int), Shows form checkIn durMins →
      ∃ checkIn' durMins', Shows (edits.foldl (Edit.apply g o) form) checkIn' durMins' := by
  induction edits with
  | nil => exact fun _ checkIn durMins h => ⟨checkIn, durMins, h⟩
  | cons e edits ih =>
    intro form checkIn durMins h
    obtain ⟨checkIn', durMins', h'⟩ := apply_shows hrange h e
    exact ih _ checkIn' durMins' h'

/-- A run with an edit of a time leaves the form in step. -/
theorem foldl_inStep (hrange : InRange g o.getBaseMs startOfDay) {edits : List Edit} :
    ∀ (form : Form) (checkIn : ClockTime) (durMins : Int), Shows form checkIn durMins →
      (∃ e ∈ edits, e.isTime) → InStep (edits.foldl (Edit.apply g o) form) := by
  induction edits with
  | nil =>
    intro form checkIn durMins _ htime
    obtain ⟨e, he, -⟩ := htime
    exact absurd he List.not_mem_nil
  | cons e edits ih =>
    intro form checkIn durMins h htime
    obtain ⟨checkIn', durMins', h'⟩ := apply_shows hrange h e
    by_cases hlater : ∃ e ∈ edits, e.isTime
    · exact ih _ checkIn' durMins' h' hlater
    · have hrest : ∀ e ∈ edits, e.isTime = false := by
        intro e' he'
        exact Bool.eq_false_iff.2 fun htrue => hlater ⟨e', he', htrue⟩
      have he : e.isTime := by
        obtain ⟨e', he', htrue⟩ := htime
        rcases List.mem_cons.1 he' with rfl | he'
        · exact htrue
        · exact absurd ⟨e', he', htrue⟩ hlater
      exact (apply_inStep hrange h he).of_times (foldl_times _ hrest)

/-! ## Check and confirmation -/

/-- The minutes between the two texts of a booking are those that its duration is rounded to. -/
def Opened.MinutesAgree (g : Globals) : Opened → Prop
  | slot _ _ => True
  | existingBooking b =>
    localTime g.offset (b.startTime + b.duration) / 60000 - localTime g.offset b.startTime / 60000 =
      (b.duration + 30000) / 60000

theorem form_shows (hrange : InRange g o.getBaseMs startOfDay) :
    ∃ durMins, Shows (o.form g) (clockOf (localTime g.offset o.getBaseMs / 60000)) durMins := by
  have hclip : timeClip o.getBaseMs = some o.getBaseMs :=
    timeClip_of_le (by have hlow := hrange.base.1; omega) (by have hhigh := hrange.base.2; omega)
  cases o with
  | slot tableId s => exact ⟨_, formatTimeForInput_eq hclip, rfl, format_cases _⟩
  | existingBooking b => exact ⟨_, formatTimeForInput_eq hclip, rfl, format_cases _⟩

/-- The check-out that the form opens with. -/
theorem form_checkOut_iff (hrange : InRange g o.getBaseMs startOfDay)
    (h : Shows (o.form g) checkIn durMins) (hpos : 0 < durMins) (hlt : durMins < 24 * 60) :
    (o.form g).checkOut = (clockOf (minuteOf checkIn + durMins)).text ↔ o.MinutesAgree g := by
  obtain ⟨hlow, hhigh⟩ := hrange.base
  obtain ⟨durMins', hopen⟩ := form_shows hrange
  cases text_inj (hopen.checkIn.symm.trans h.checkIn)
  cases o with
  | slot tableId s =>
    cases h.duration
    dsimp only [Opened.getBaseMs] at hlow hhigh
    refine iff_of_true ?_ trivial
    refine (formatTimeForInput_eq (timeClip_of_le (by omega) (by omega))).trans ?_
    refine congrArg ClockTime.text (clockOf_congr ?_)
    rw [minuteOf_clockOf]
    simp only [localTime, Opened.getBaseMs]
    omega
  | existingBooking b =>
    cases h.duration
    dsimp only [Opened.getBaseMs] at hlow hhigh
    have hout : ((Opened.existingBooking b).form g).checkOut =
        (clockOf (localTime g.offset (b.startTime + b.duration) / 60000)).text :=
      formatTimeForInput_eq (timeClip_of_le (by omega) (by omega))
    rw [hout, Opened.MinutesAgree]
    constructor
    · intro htext
      have hminute := congrArg minuteOf (text_inj htext)
      simp only [minuteOf_clockOf, localTime, Opened.getBaseMs] at hminute ⊢
      omega
    · intro hagree
      refine congrArg ClockTime.text (clockOf_congr ?_)
      simp only [minuteOf_clockOf, localTime, Opened.getBaseMs] at hagree ⊢
      omega

/-- A form of less than a day is in step if a time was edited, or from the beginning. -/
theorem edited_checkOut_iff (hrange : InRange g o.getBaseMs startOfDay) {edits : List Edit}
    (h : Shows (edited g o edits) checkIn durMins) (hpos : 0 < durMins) (hlt : durMins < 24 * 60) :
    (edited g o edits).checkOut = (clockOf (minuteOf checkIn + durMins)).text ↔
      ((∀ e ∈ edits, e.isTime = false) → o.MinutesAgree g) := by
  by_cases htime : ∃ e ∈ edits, e.isTime
  · obtain ⟨durMins', hopen⟩ := form_shows hrange
    refine iff_of_true (foldl_inStep hrange _ _ _ hopen htime _ _ h hpos hlt) ?_
    intro hnone
    obtain ⟨e, he, htrue⟩ := htime
    exact absurd (hnone e he) (by rw [htrue]; decide)
  · have hnone : ∀ e ∈ edits, e.isTime = false := by
      intro e he
      exact Bool.eq_false_iff.2 fun htrue => htime ⟨e, he, htrue⟩
    have hsame : (edited g o edits).times = (o.form g).times := foldl_times _ hnone
    have hout : (edited g o edits).checkOut = (o.form g).checkOut :=
      congrArg (fun times => times.2.1) hsame
    rw [hout, form_checkOut_iff hrange (h.of_times hsame.symm) hpos hlt]
    exact ⟨fun hagree _ => hagree, fun hagree => hagree hnone⟩

end

/-- What is confirmed is the interval that was checked. -/
def Submits (c : Confirmed) (checked : Option Int × Option Int) : Prop :=
  ∃ startTime duration, c.startTime = some startTime ∧ c.duration = some duration ∧
    checked = (some startTime, some (startTime + duration))

/-- The duration of the form is shorter than a day and, if no time has been edited, the minutes of
the booking agree; or the duration is zero, and the form shows an hour. -/
def FormAgrees (g : Globals) (o : Opened) (edits : List Edit) : Prop :=
  (∃ durMins, (edited g o edits).durationMins = some durMins ∧ 0 < durMins ∧ durMins < 24 * 60 ∧
      ((∀ e ∈ edits, e.isTime = false) → o.MinutesAgree g)) ∨
    ((edited g o edits).durationMins = some 0 ∧ ∃ checkIn : ClockTime,
      (edited g o edits).checkIn = checkIn.text ∧
        (edited g o edits).checkOut = (clockOf (minuteOf checkIn + 60)).text)

section

variable {g : Globals} {o : Opened} {startOfDay : Int}

theorem handleSubmit_ok {form : Form} {tableBookings : List TimelineBooking}
    {checked : Option Int × Option Int} (h : handleSubmit g o form tableBookings = .ok checked) :
    checked = interval g o form ∧
      ¬ numLt (do return ((← checked.2) - (← checked.1)) / 60000) (some 15) ∧
      windowError g tableBookings checked.1 checked.2 o = none := by
  unfold handleSubmit at h
  split at h
  · cases h
  · dsimp only at h
    split at h
    · cases h
    · rename_i hlong
      split at h
      · cases h
      · rename_i hwindow
        cases h
        exact ⟨rfl, hlong, hwindow⟩

/-- A check-out that is no time is no end of an interval. -/
theorem not_submits_nan {form : Form} (hnan : form.checkOut = "NaN:NaN") (c : Confirmed) :
    ¬ Submits c (interval g o form) := by
  have hend : (interval g o form).2 = none := by
    simp only [interval, hnan, parse_nan, not_none_numLt, if_false]
  rintro ⟨_, _, -, -, hchecked⟩
  rw [hchecked] at hend
  cases hend

/-- The check-out is `d` minutes after the check-in, on the clock. -/
theorem text_after_iff {checkIn checkOut : ClockTime} (d : Int) :
    checkOut.text = (clockOf (minuteOf checkIn + d)).text ↔
      (minuteOf checkOut - minuteOf checkIn) % 1440 = d % 1440 := by
  have hci := minuteOf_bounds checkIn
  have hco := minuteOf_bounds checkOut
  constructor
  · intro htext
    rw [text_inj htext, minuteOf_clockOf]
    omega
  · intro hmod
    refine congrArg ClockTime.text ?_
    rw [← clockOf_minuteOf checkOut]
    exact clockOf_congr (by omega)

/-- The two lengths that a form has. -/
theorem submits_iff (hrange : InRange g o.getBaseMs startOfDay) {form : Form}
    {checkIn checkOut : ClockTime} {durMins : Int} (h : Shows form checkIn durMins)
    (hout : form.checkOut = checkOut.text) :
    Submits (handleConfirm g o form) (interval g o form) ↔
      (minuteOf checkOut - minuteOf checkIn) % 1440 = if durMins = 0 then 60 else durMins := by
  have hstart : (handleConfirm g o form).startTime = some (inputTime g startOfDay checkIn) := by
    rw [← parse_text hrange, ← h.checkIn]
    rfl
  have hduration : (handleConfirm g o form).duration =
      some ((if durMins = 0 then 60 else durMins) * 60000) := by
    simp only [handleConfirm, h.duration]
    split <;> simp_all
  rw [interval_text o hrange h.checkIn hout]
  simp only [Submits, hstart, hduration, Option.some.injEq, Prod.mk.injEq, exists_and_left,
    exists_eq_left', true_and]
  omega

theorem long_of_accept (hrange : InRange g o.getBaseMs startOfDay) {form : Form}
    {checkIn checkOut : ClockTime} (hin : form.checkIn = checkIn.text)
    (hout : form.checkOut = checkOut.text) {tableBookings : List TimelineBooking}
    {checked : Option Int × Option Int} (h : handleSubmit g o form tableBookings = .ok checked) :
    15 ≤ (minuteOf checkOut - minuteOf checkIn) % 1440 := by
  obtain ⟨hchecked, hlong, -⟩ := handleSubmit_ok h
  rw [hchecked, interval_text o hrange hin hout] at hlong
  simp only [Option.bind_eq_bind, Option.bind_some, Option.pure_def, numLt_some] at hlong
  omega

/-- A form that is accepted is confirmed with the interval that was checked exactly if it agrees. -/
theorem confirmed_is_checked_iff (hrange : InRange g o.getBaseMs startOfDay) (edits : List Edit)
    {tableBookings : List TimelineBooking} {checked : Option Int × Option Int}
    (haccept : handleSubmit g o (edited g o edits) tableBookings = .ok checked) :
    Submits (handleConfirm g o (edited g o edits)) checked ↔ FormAgrees g o edits := by
  obtain ⟨_, hopen⟩ := form_shows hrange
  obtain ⟨checkIn, durMins, hshows⟩ : ∃ checkIn durMins, Shows (edited g o edits) checkIn durMins :=
    foldl_shows hrange _ _ _ hopen
  have hstep : 0 < durMins → durMins < 24 * 60 →
      ((edited g o edits).checkOut = (clockOf (minuteOf checkIn + durMins)).text ↔
        ((∀ e ∈ edits, e.isTime = false) → o.MinutesAgree g)) := edited_checkOut_iff hrange hshows
  rw [(handleSubmit_ok haccept).1, FormAgrees, hshows.duration]
  rcases hshows.checkOut with hnan | ⟨checkOut, hout⟩
  · refine iff_of_false (not_submits_nan hnan _) ?_
    rintro (⟨durMins', hdur, hpos, hlt, hagree⟩ | ⟨-, c, -, hhour⟩)
    · cases hdur
      exact text_ne_nan _ (((hstep hpos hlt).2 hagree).symm.trans hnan)
    · exact text_ne_nan _ (hhour.symm.trans hnan)
  · have hlong := long_of_accept hrange hshows.checkIn hout haccept
    rw [hout] at hstep ⊢
    rw [submits_iff hrange hshows hout]
    by_cases hzero : durMins = 0
    · rw [if_pos hzero]
      constructor
      · intro hhour
        exact .inr ⟨congrArg some hzero, checkIn, hshows.checkIn, (text_after_iff 60).2 hhour⟩
      · rintro (⟨durMins', hdur, hpos, -⟩ | ⟨-, c, hc, hhour⟩)
        · cases hdur
          omega
        · cases text_inj (hshows.checkIn.symm.trans hc)
          exact (text_after_iff 60).1 hhour
    · rw [if_neg hzero]
      constructor
      · intro heq
        have hpos : 0 < durMins := by omega
        have hlt : durMins < 24 * 60 := by omega
        exact .inl ⟨durMins, rfl, hpos, hlt, (hstep hpos hlt).1 ((text_after_iff durMins).2 (by omega))⟩
      · rintro (⟨durMins', hdur, hpos, hlt, hagree⟩ | ⟨hdur, -⟩)
        · cases hdur
          have hmod := (text_after_iff durMins).1 ((hstep hpos hlt).2 hagree)
          omega
        · exact absurd (Option.some.inj hdur) hzero

end

/-- Ann's booking is made an hour longer. -/
theorem confirmed_is_checked_two_hours :
    Submits (handleConfirm colombo (.existingBooking annsBooking)
      (edited colombo (.existingBooking annsBooking) [.hoursMins 2 0]))
      (some 1893492000000, some 1893499200000) := by
  have hrange : InRange colombo (Opened.existingBooking annsBooking).getBaseMs 1893468600000 :=
    ⟨by decide, by decide, by decide⟩
  have haccept : handleSubmit colombo (.existingBooking annsBooking)
      (edited colombo (.existingBooking annsBooking) [.hoursMins 2 0]) [annsBooking] =
        .ok (some 1893492000000, some 1893499200000) := by decide +kernel
  refine (confirmed_is_checked_iff hrange _ haccept).2 (.inl ⟨120, rfl, by decide, by decide, ?_⟩)
  intro hnone
  exact absurd (hnone _ List.mem_cons_self) (by decide)

/-- One hour is checked and twenty-five are confirmed. -/
theorem confirmed_can_be_longer :
    ¬ ∀ (g : Globals) (o : Opened) (startOfDay : Int), InRange g o.getBaseMs startOfDay →
      ∀ (edits : List Edit) (tableBookings : List TimelineBooking) checked,
        handleSubmit g o (edited g o edits) tableBookings = .ok checked →
          Submits (handleConfirm g o (edited g o edits)) checked := by
  intro hclaim
  have haccept : handleSubmit colombo (.slot 1 ⟨1893468600000, 46800000⟩)
      (edited colombo (.slot 1 ⟨1893468600000, 46800000⟩) [.player "Ann", .hoursMins 25 0]) [] =
        .ok (some 1893468600000, some 1893472200000) := by decide +kernel
  obtain ⟨start, duration, hstart, hduration, hchecked⟩ :=
    hclaim _ _ 1893468600000 ⟨by decide, by decide, by decide⟩ _ _ _ haccept
  have hlength : (handleConfirm colombo (.slot 1 ⟨1893468600000, 46800000⟩)
      (edited colombo (.slot 1 ⟨1893468600000, 46800000⟩)
        [.player "Ann", .hoursMins 25 0])).duration = some 90000000 := rfl
  cases hlength.symm.trans hduration
  have hend := (Prod.mk.inj hchecked).2
  rw [Option.some.injEq] at hend
  have hstart' := Option.some.inj (Prod.mk.inj hchecked).1
  omega

end CreateBookingModal

end GbcVenue
