import GbcVenue.Frontend.FreeSlots
import GbcVenue.Time.DateText

/-!
# The booking modal

`frontend/src/components/timeline/CreateBookingModal.jsx`. The form keeps the times of a booking as
texts `HH:MM` and as a number of minutes. A booking that is opened and read back as `handleSubmit`
does is the same: `reopened_interval`.
-/

namespace GbcVenue

open GoTime JsDate TimelineUtils TimelineRow

namespace CreateBookingModal

/-- What the modal was opened on: `slot` or `existingBooking`. -/
inductive Opened where
  | slot (tableId : Int) (slot : FreeSlot)
  | existingBooking (b : TimelineBooking)

/-- `form`. -/
structure Form where
  checkIn : String
  checkOut : String
  durationMins : Option Int
  player : String
  mobile : String
  amount : String
  isPaid : Bool
  deriving DecidableEq

/-- What the modal reads from its surroundings: the zone of the browser in seconds, the opening hour,
and the conversions between amounts and texts, which are made in floating point. -/
structure Globals where
  offset : Int
  openHour : Int
  /-- `HOURLY_RATE` -/
  hourlyRate : ℚ
  /-- `String(amount)` -/
  amountText : ℚ → String
  /-- `String(((durMins / 60) * HOURLY_RATE).toFixed(2))` -/
  priceText : Option Int → String
  /-- `parseFloat(amount) || 0` -/
  parseAmount : String → ℚ

/-- `getBaseMs` (`CreateBookingModal.jsx:72`). -/
def Opened.getBaseMs : Opened → Int
  | slot _ s => s.startTimestamp
  | existingBooking b => b.startTime

variable (g : Globals)

/-- `formatTimeForInput` (`CreateBookingModal.jsx:74-79`). -/
def formatTimeForInput (ms : Option Int) : String :=
  match ms.bind timeClip with
  | none => "NaN:NaN"
  | some d => String.ofList
      (decimal 2 (getHours g.offset d).toNat ++ ':' :: decimal 2 (getMinutes g.offset d).toNat)

/-- `parseTimeFromInput` (`CreateBookingModal.jsx:81-93`). -/
def parseTimeFromInput (timeStr : String) (baseMs : Int) : Option Int :=
  if timeStr = "" then some 0
  else
    let parts := (timeStr.toList.splitOn ':').map number
    do
      let hh ← parts.headD none
      let mm ← parts.tail.headD none
      let startOfDay ← getTimelineStartOfDay g.offset baseMs g.openHour
      let d ← setHours g.offset startOfDay hh mm 0 0
      if hh < g.openHour then setDate g.offset d (getDate g.offset d + 1) else some d

/-- The form as the modal opens (`CreateBookingModal.jsx:39-69`). -/
def Opened.form : Opened → Form
  | existingBooking b =>
    { checkIn := formatTimeForInput g (some b.startTime)
      checkOut := formatTimeForInput g (some (b.startTime + b.duration))
      durationMins := some ((b.duration + 30000) / 60000)
      player := b.player
      mobile := b.mobile
      amount := g.amountText b.amount
      isPaid := b.paid }
  | slot _ s =>
    { checkIn := formatTimeForInput g (some s.startTimestamp)
      checkOut := formatTimeForInput g (some (s.startTimestamp + 60 * 60000))
      durationMins := some 60
      player := ""
      mobile := ""
      amount := g.amountText g.hourlyRate
      isPaid := false }

variable (o : Opened) (form : Form)

/-- `handleCheckInChange` (`CreateBookingModal.jsx:95-109`). -/
def handleCheckInChange (val : String) : Form :=
  let newCheckInMs := parseTimeFromInput g val o.getBaseMs
  if numLt (some 0) form.durationMins then
    let newCheckOutMs := do return (← newCheckInMs) + (← form.durationMins) * 60000
    { form with checkIn := val, checkOut := formatTimeForInput g newCheckOutMs }
  else { form with checkIn := val }

/-- `handleDurationChange` (`CreateBookingModal.jsx:111-130`), on the number of minutes. -/
def handleDurationChange (durMins : Int) : Form :=
  if 0 < durMins ∧ form.checkIn ≠ "" then
    let checkInMs := parseTimeFromInput g form.checkIn o.getBaseMs
    { form with
      durationMins := some durMins
      checkOut := formatTimeForInput g (checkInMs.map (· + durMins * 60000))
      amount := g.priceText (some durMins) }
  else { form with durationMins := some durMins }

/-- `handleCheckOutChange` (`CreateBookingModal.jsx:132-153`). The times of a day are whole minutes
apart, so the division is exact. -/
def handleCheckOutChange (val : String) : Form :=
  let newCheckOutMs := parseTimeFromInput g val o.getBaseMs
  if form.checkIn ≠ "" then
    let checkInMs := parseTimeFromInput g form.checkIn o.getBaseMs
    let durMins := do
      let diffMs := (← newCheckOutMs) - (← checkInMs)
      return (if diffMs < 0 then diffMs + 24 * 3600000 else diffMs) / 60000
    { form with checkOut := val, durationMins := durMins, amount := g.priceText durMins }
  else { form with checkOut := val }

/-- `checkInMs` and `checkOutMs` of `handleSubmit` (`CreateBookingModal.jsx:163-168`). -/
def interval : Option Int × Option Int :=
  let checkInMs := parseTimeFromInput g form.checkIn o.getBaseMs
  let checkOutMs := parseTimeFromInput g form.checkOut o.getBaseMs
  (checkInMs,
    if numLt checkOutMs checkInMs then checkOutMs.map (· + 24 * 3600000) else checkOutMs)

/-- The overlap test of the edit mode (`CreateBookingModal.jsx:183`). -/
def overlaps (checkInMs checkOutMs : Option Int) (b : TimelineBooking) : Prop :=
  numLt checkInMs (some (b.startTime + b.duration)) ∧ numLt (some b.startTime) checkOutMs

instance (checkInMs checkOutMs : Option Int) (b : TimelineBooking) :
    Decidable (overlaps checkInMs checkOutMs b) := inferInstanceAs (Decidable (_ ∧ _))

/-- The tests of `handleSubmit` against the other bookings or the slot (`CreateBookingModal.jsx:175-211`):
the error, if there is one. -/
def windowError (tableBookings : List TimelineBooking) (checkInMs checkOutMs : Option Int) :
    Opened → Option String
  | .existingBooking existing =>
    (tableBookings.find? fun b =>
      b.bookingId ≠ existing.bookingId ∧ overlaps checkInMs checkOutMs b).map fun b =>
        "These times overlap with " ++ b.player ++ "'s booking from " ++
          formatTimeForInput g (some b.startTime) ++ " to " ++
          formatTimeForInput g (some (b.startTime + b.duration)) ++ "."
  | .slot _ s =>
    let slotStartMs := s.startTimestamp
    let slotEndMs := s.startTimestamp + s.durationMs
    let minCheckIn := slotStartMs - 15 * 60000
    let maxCheckIn := slotEndMs - 15 * 60000
    if numLt checkInMs (some minCheckIn) then
      some ("Check-in cannot be earlier than " ++ formatTimeForInput g (some minCheckIn))
    else if numLt (some maxCheckIn) checkInMs then
      some ("Check-in cannot be later than " ++ formatTimeForInput g (some maxCheckIn))
    else if numLt checkOutMs (some slotStartMs) then
      some ("Check-out cannot be earlier than " ++ formatTimeForInput g (some slotStartMs))
    else if numLt (some slotEndMs) checkOutMs then
      some ("Check-out cannot be later than " ++ formatTimeForInput g (some slotEndMs))
    else none

/-- `handleSubmit` (`CreateBookingModal.jsx:155-214`): the error, or the times that were accepted. -/
def handleSubmit (tableBookings : List TimelineBooking) : Except String (Option Int × Option Int) :=
  if trim form.player.toList = [] then .error "Please enter the player name"
  else
    let (checkInMs, checkOutMs) := interval g o form
    let durMins := do return ((← checkOutMs) - (← checkInMs)) / 60000
    if numLt durMins (some 15) then .error "Minimum booking duration is 15 minutes."
    else match windowError g tableBookings checkInMs checkOutMs o with
      | some error => .error error
      | none => .ok (checkInMs, checkOutMs)

/-- The argument of `onConfirm`. -/
structure Confirmed where
  tableId : Int
  player : String
  mobile : String
  startTime : Option Int
  duration : Option Int
  amount : ℚ
  paid : Bool
  deriving DecidableEq

/-- `handleConfirm` (`CreateBookingModal.jsx:216-230`). -/
def handleConfirm : Confirmed :=
  let durMins := match form.durationMins with
    | none | some 0 => 60
    | some durMins => durMins
  { tableId := match o with
      | .existingBooking b => b.tableId
      | .slot tableId _ => tableId
    player := form.player
    mobile := form.mobile
    startTime := parseTimeFromInput g form.checkIn o.getBaseMs
    duration := some (durMins * 60000)
    amount := g.parseAmount form.amount
    paid := form.isPaid }

/-! ## Reading back -/

/-- The clock that shows minute `m`, counted from any midnight. -/
def clockOf (m : Int) : ClockTime :=
  ⟨(m / 60 % 24).toNat, (m % 60).toNat, by omega, by omega⟩

/-- The minute of the day. -/
def minuteOf (c : ClockTime) : Int := c.hour * 60 + c.minute

theorem minuteOf_clockOf (m : Int) : minuteOf (clockOf m) = m % 1440 := by
  simp only [minuteOf, clockOf]
  omega

theorem clockOf_minuteOf (c : ClockTime) : clockOf (minuteOf c) = c := by
  obtain ⟨h, m, hh, hm⟩ := c
  simp only [clockOf, minuteOf, ClockTime.mk.injEq]
  omega

theorem clockOf_congr {m n : Int} (h : m % 1440 = n % 1440) : clockOf m = clockOf n := by
  simp only [clockOf, ClockTime.mk.injEq]
  omega

theorem minuteOf_bounds (c : ClockTime) : 0 ≤ minuteOf c ∧ minuteOf c < 1440 := by
  have hh := c.hour_lt
  have hm := c.minute_lt
  simp only [minuteOf]
  omega

theorem text_inj {c c' : ClockTime} (h : c.text = c'.text) : c = c' := by
  have hparts := Timeutil.clockParts_text c (0, 0)
  rw [h, Timeutil.clockParts_text] at hparts
  obtain ⟨hh, hm⟩ := Prod.mk.inj hparts
  rw [← clockOf_minuteOf c, ← clockOf_minuteOf c', minuteOf, minuteOf, hh, hm]

theorem text_ne_empty (c : ClockTime) : c.text ≠ "" := by
  intro h
  have hlist := congrArg String.toList h
  rw [ClockTime.text, String.toList_ofList] at hlist
  exact absurd hlist (by simp)

theorem text_ne_nan (c : ClockTime) : c.text ≠ "NaN:NaN" := by
  intro h
  have hlist := congrArg (List.length ∘ String.toList) h
  have hh := c.hour_lt
  have hm := c.minute_lt
  simp only [Function.comp_apply, ClockTime.text, String.toList_ofList, List.length_append,
    List.length_cons, length_decimal_two (show c.hour < 100 by omega),
    length_decimal_two (show c.minute < 100 by omega)] at hlist
  exact absurd hlist (by decide)

theorem number_decimal_two : ∀ n < 100, number (decimal 2 n) = some (n : Int) := by decide

section

variable {g}

theorem formatTimeForInput_eq {t : Int} (h : timeClip t = some t) :
    formatTimeForInput g (some t) = (clockOf (localTime g.offset t / 60000)).text := by
  have hhours : getHours g.offset t = localTime g.offset t / 60000 / 60 % 24 := by
    simp only [getHours, msPerHour]
    omega
  rw [formatTimeForInput, Option.bind_some, h]
  simp only [hhours, getMinutes]
  rfl

/-- The time that the form understands by a text: on the day of the axis, or after its midnight. -/
def inputTime (g : Globals) (startOfDay : Int) (c : ClockTime) : Int :=
  localTime g.offset startOfDay / msPerDay * msPerDay + minuteOf c * 60000 - g.offset * 1000 +
    if (c.hour : Int) < g.openHour then msPerDay else 0

/-- The day of a form lies in the range of `Date`. -/
structure InRange (g : Globals) (baseMs startOfDay : Int) : Prop where
  base : -8639999000000000 ≤ baseMs ∧ baseMs ≤ 8639999000000000
  axis : getTimelineStartOfDay g.offset baseMs g.openHour = some startOfDay
  day : -8639999500000000 ≤ startOfDay ∧ startOfDay ≤ 8639999500000000

variable {baseMs startOfDay : Int}

theorem parse_text (h : InRange g baseMs startOfDay) (c : ClockTime) :
    parseTimeFromInput g c.text baseMs = some (inputTime g startOfDay c) := by
  have hh := c.hour_lt
  have hm := c.minute_lt
  obtain ⟨hlow, hhigh⟩ := h.day
  have hset : setHours g.offset startOfDay c.hour c.minute 0 0 =
      some (localTime g.offset startOfDay / msPerDay * msPerDay + minuteOf c * 60000 -
        g.offset * 1000) := by
    have heq : (c.hour : Int) * msPerHour + c.minute * 60000 + 0 * 1000 + 0 = minuteOf c * 60000 := by
      simp only [msPerHour, minuteOf]
      omega
    rw [setHours, heq]
    simp only [localTime, msPerDay, minuteOf]
    exact timeClip_of_le (by omega) (by omega)
  have hparts : c.text.toList.splitOn ':' = [decimal 2 c.hour, decimal 2 c.minute] := by
    rw [ClockTime.text, String.toList_ofList,
      List.splitOn_append_cons_self_of_not_mem (not_mem_decimal (by decide) _ _),
      List.splitOn_eq_singleton (not_mem_decimal (by decide) _ _)]
  simp only [parseTimeFromInput, if_neg (text_ne_empty c), hparts, List.map_cons, List.map_nil,
    List.headD_cons, List.tail_cons, number_decimal_two _ (show c.hour < 100 by omega),
    number_decimal_two _ (show c.minute < 100 by omega), Option.bind_eq_bind, Option.bind_some, h.axis,
    hset, inputTime]
  split
  · rw [setDate_add, Int.one_mul]
    simp only [localTime, msPerDay, minuteOf]
    exact timeClip_of_le (by omega) (by omega)
  · rw [Int.add_zero]

theorem parse_nan (baseMs : Int) : parseTimeFromInput g "NaN:NaN" baseMs = none := by
  have hparts : ("NaN:NaN".toList.splitOn ':').map number = [none, none] := by decide
  simp only [parseTimeFromInput, hparts]
  rfl

/-- `d` minutes after the time of a text the clock shows `d` minutes more. -/
theorem format_inputTime (h : InRange g baseMs startOfDay) (c : ClockTime) {d : Int}
    (hd : -1440 ≤ d ∧ d ≤ 1440) :
    formatTimeForInput g (some (inputTime g startOfDay c + d * 60000)) =
      (clockOf (minuteOf c + d)).text := by
  obtain ⟨hlow, hhigh⟩ := h.day
  have hc := minuteOf_bounds c
  rw [formatTimeForInput_eq]
  · congr 1
    refine clockOf_congr ?_
    simp only [inputTime, localTime, msPerDay]
    split <;> omega
  · simp only [inputTime, localTime, msPerDay]
    split <;> exact timeClip_of_le (by omega) (by omega)

/-- The two times of a form: the second is the next time after the first that the clock shows its
text. -/
theorem interval_text (h : InRange g o.getBaseMs startOfDay) {form : Form} {checkIn checkOut : ClockTime}
    (hin : form.checkIn = checkIn.text) (hout : form.checkOut = checkOut.text) :
    interval g o form = (some (inputTime g startOfDay checkIn),
      some (inputTime g startOfDay checkIn +
        (minuteOf checkOut - minuteOf checkIn) % 1440 * 60000)) := by
  simp only [interval, hin, hout, parse_text h, numLt_some, Option.map_some]
  congr 1
  have hi := checkIn.hour_lt
  have hi' := checkIn.minute_lt
  have ho := checkOut.hour_lt
  have ho' := checkOut.minute_lt
  simp only [inputTime, minuteOf, msPerDay]
  split <;> split <;> split <;> simp only [Option.some.injEq] <;> omega

theorem axisDay_cases (offset baseDate openHour : Int) :
    (localTime offset baseDate % msPerDay < openHour * msPerHour ∧
        axisDay offset baseDate openHour = localTime offset baseDate / msPerDay - 1) ∨
      (openHour * msPerHour ≤ localTime offset baseDate % msPerDay ∧
        axisDay offset baseDate openHour = localTime offset baseDate / msPerDay) := by
  unfold axisDay
  split
  · rename_i h
    exact .inl ⟨h, rfl⟩
  · rename_i h
    exact .inr ⟨Int.not_lt.1 h, rfl⟩

/-- On a day with an opening hour the times of a form lie in the range of `Date`, and an instant is
understood from its own clock. -/
theorem inRange_of_hour (hopen : 0 ≤ g.openHour ∧ g.openHour < 24)
    (hbase : -8639999000000000 ≤ baseMs ∧ baseMs ≤ 8639999000000000) :
    ∃ startOfDay, InRange g baseMs startOfDay ∧
      startOfDay = axisDay g.offset baseMs g.openHour * msPerDay + g.openHour * msPerHour -
        g.offset * 1000 := by
  refine ⟨_, ⟨hbase, getTimelineStartOfDay_of_le hopen hbase.1 hbase.2, ?_⟩, rfl⟩
  rcases axisDay_cases g.offset baseMs g.openHour with ⟨hclock, haxis⟩ | ⟨hclock, haxis⟩ <;>
  · rw [haxis]
    simp only [localTime, msPerDay, msPerHour] at *
    omega

/-- A whole minute of the day of the form is understood from its own clock. -/
theorem inputTime_clock (hopen : 0 ≤ g.openHour ∧ g.openHour < 24)
    (halign : localTime g.offset baseMs % 60000 = 0)
    (hday : startOfDay = axisDay g.offset baseMs g.openHour * msPerDay + g.openHour * msPerHour -
      g.offset * 1000) :
    inputTime g startOfDay (clockOf (localTime g.offset baseMs / 60000)) = baseMs := by
  have hlocal : localTime g.offset startOfDay / msPerDay = axisDay g.offset baseMs g.openHour := by
    rw [hday]
    simp only [localTime, msPerDay, msPerHour]
    omega
  have hhour : ((clockOf (localTime g.offset baseMs / 60000)).hour : Int) =
      localTime g.offset baseMs % msPerDay / msPerHour := by
    simp only [clockOf, msPerDay, msPerHour]
    omega
  rw [inputTime, hlocal, minuteOf_clockOf, hhour]
  rcases axisDay_cases g.offset baseMs g.openHour with ⟨hclock, haxis⟩ | ⟨hclock, haxis⟩
  · rw [haxis, if_pos (by simp only [msPerDay, msPerHour] at *; omega)]
    simp only [localTime, msPerDay] at *
    omega
  · rw [haxis, if_neg (by simp only [msPerDay, msPerHour] at *; omega)]
    simp only [localTime, msPerDay] at *
    omega

/-- A booking that begins at a whole minute and is shorter than a day comes back as it is. -/
theorem reopened_interval {b : TimelineBooking} (hopen : 0 ≤ g.openHour ∧ g.openHour < 24)
    (hbase : -8639999000000000 ≤ b.startTime ∧ b.startTime ≤ 8639999000000000)
    (halign : localTime g.offset b.startTime % 60000 = 0) {d : Int} (hd : 0 < d ∧ d < 24 * 60)
    (hduration : b.duration = d * 60000) :
    interval g (.existingBooking b) ((Opened.existingBooking b).form g) =
      (some b.startTime, some (b.startTime + b.duration)) := by
  obtain ⟨startOfDay, hrange, hday⟩ := inRange_of_hour hopen hbase
  have hstart : inputTime g startOfDay (clockOf (localTime g.offset b.startTime / 60000)) =
      b.startTime := inputTime_clock hopen halign hday
  have hin : ((Opened.existingBooking b).form g).checkIn =
      (clockOf (localTime g.offset b.startTime / 60000)).text :=
    formatTimeForInput_eq (timeClip_of_le (by omega) (by omega))
  have hout : ((Opened.existingBooking b).form g).checkOut =
      (clockOf (localTime g.offset b.startTime / 60000 + d)).text := by
    have hshow := format_inputTime hrange (clockOf (localTime g.offset b.startTime / 60000))
      (d := d) (by omega)
    rw [hstart, minuteOf_clockOf, ← hduration] at hshow
    rw [Opened.form, hshow]
    refine congrArg ClockTime.text (clockOf_congr ?_)
    omega
  rw [interval_text (.existingBooking b) hrange hin hout, hstart, minuteOf_clockOf, minuteOf_clockOf,
    hduration]
  congr 3
  omega

end

/-- A browser in Colombo, in a venue that opens at nine and takes 60 for an hour. -/
def colombo : Globals where
  offset := 19800
  openHour := 9
  hourlyRate := 60
  amountText amount := toString amount.num
  priceText
    | some durMins => toString durMins ++ ".00"
    | none => "NaN"
  parseAmount text := ((parseInt (text.toList.takeWhile (· ≠ '.'))).getD 0 : Int)

theorem reopened_interval_ten :
    interval colombo (.existingBooking annsBooking)
      ((Opened.existingBooking annsBooking).form colombo) =
      (some 1893492000000, some 1893495600000) :=
  reopened_interval (by decide) (by decide) (by decide) (d := 60) (by decide) rfl

end CreateBookingModal

end GbcVenue
