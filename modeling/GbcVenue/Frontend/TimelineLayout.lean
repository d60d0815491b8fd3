import GbcVenue.Frontend.DrawnAxis
import GbcVenue.Frontend.FreeSlots

/-!
# The timeline in pixels

The rest of `frontend/src/components/timeline/timelineUtils.js`, and the boxes that `TimelineRow.jsx`
draws for the bookings and the free slots of a table. A pixel of the axis stands for twenty seconds.
A booking is drawn at least fifty pixels wide. `row_shows_time`: if each booking of the day takes
seventeen minutes and ends within twenty hours, then no two boxes of a row meet, none leaves the axis,
each stands under the label of the hour it begins in, and none is more than a minute off at its left or
two at its right.
-/

namespace GbcVenue

open JsDate Intervals

namespace TimelineUtils

/-- `TIMELINE_CONFIG.PIXELS_PER_MINUTE` (`timelineUtils.js:2`). -/
def pixelsPerMinute : Int := 3

/-- `getTotalTimelineWidth` (`timelineUtils.js:22-25`). -/
def getTotalTimelineWidth (openHour closeHour : Int) : Int :=
  (closeHour - openHour) * 60 * pixelsPerMinute

/-- `timeToPixels` (`timelineUtils.js:46-49`), at the clock reading `today`. -/
def timeToPixels (offset today timestamp openHour : Int) : Option Int :=
  (getMinutesFromOpen offset timestamp openHour today).map (· * pixelsPerMinute)

/-- `durationToPixels` (`timelineUtils.js:52-55`). -/
def durationToPixels (durationMs : Int) : Int := durationMs / 60000 * pixelsPerMinute

inductive Marker
  | hour (label : String)
  | quarter
  | half
  deriving DecidableEq

/-- An element of `headers`. -/
structure Header where
  marker : Marker
  left : Int
  deriving DecidableEq

/-- The label of an hour (`timelineUtils.js:61-64`). -/
def hourLabel (hour24 : Int) : String :=
  let hour12 := if hour24 = 0 then 12 else if hour24.tmod 12 = 0 then 12 else hour24.tmod 12
  let ampm := if hour24 = 0 then "AM" else if hour24 < 12 then "AM" else "PM"
  toString hour12 ++ ":00 " ++ ampm

/-- One turn of the loop of `getTimelineHeaders`. -/
def headersAt (openHour closeHour h : Int) : List Header :=
  ⟨.hour (hourLabel (h.tmod 24)), (h - openHour) * 60 * pixelsPerMinute⟩ ::
    if h < closeHour then
      [⟨.quarter, ((h - openHour) * 60 + 15) * pixelsPerMinute⟩,
        ⟨.half, ((h - openHour) * 60 + 30) * pixelsPerMinute⟩,
        ⟨.quarter, ((h - openHour) * 60 + 45) * pixelsPerMinute⟩]
    else []

/-- `getTimelineHeaders` (`timelineUtils.js:58-89`). -/
def getTimelineHeaders (openHour closeHour : Int) : List Header :=
  (List.range (closeHour - openHour + 1).toNat).flatMap fun (n : Nat) =>
    headersAt openHour closeHour (openHour + n)

end TimelineUtils

open TimelineUtils

/-- The `left` and the `width` of an element, in pixels. -/
structure Box where
  left : Int
  width : Int
  deriving DecidableEq

namespace Box

def right (box : Box) : Int := box.left + box.width

/-- The boxes do not meet. -/
def Beside (a b : Box) : Prop := a.right ≤ b.left ∨ b.right ≤ a.left

instance (a b : Box) : Decidable (Beside a b) := inferInstanceAs (Decidable (_ ∨ _))

end Box

namespace TimelineRow

/-- The box of what begins at `start` and takes `duration`. -/
def boxOf (offset today openHour start duration : Int) : Option Box :=
  (timeToPixels offset today start openHour).map fun left => ⟨left, durationToPixels duration⟩

/-- The box of a `BookingBlock` (`BookingBlock.jsx:17-18`, `64`). -/
def bookingBox (offset today openHour : Int) (b : TimelineBooking) : Option Box :=
  (boxOf offset today openHour b.startTime b.duration).map fun box =>
    { box with width := max box.width 50 }

/-- The box of a `FreeSlotButton` (`FreeSlotButton.jsx:4-5`). -/
def slotBox (offset today openHour : Int) (s : FreeSlot) : Option Box :=
  boxOf offset today openHour s.startTimestamp s.durationMs

/-- The boxes of `TimelineRow` (`TimelineRow.jsx:52-73`). -/
def row (offset today openHour closeHour currentTime : Int) (bookings : List TimelineBooking) :
    List (Option Box) :=
  bookings.map (bookingBox offset today openHour) ++
    (calculateFreeSlots offset today bookings closeHour currentTime openHour).map
      (slotBox offset today openHour)

/-- What a free slot takes up. -/
def FreeSlot.stretch (s : FreeSlot) : Stretch Int :=
  ⟨s.startTimestamp, s.startTimestamp + s.durationMs⟩

/-- What a row shows: its bookings and its free slots. -/
def shown (offset today openHour closeHour currentTime : Int) (bookings : List TimelineBooking) :
    List (Stretch Int) :=
  bookings.map TimelineBooking.interval ++
    (calculateFreeSlots offset today bookings closeHour currentTime openHour).map FreeSlot.stretch

/-- The box of a stretch on an axis that begins at `openTimeMs`. -/
def place (openTimeMs : Int) (i : Stretch Int) : Box :=
  ⟨(i.start - openTimeMs) / 60000 * pixelsPerMinute,
    (i.stop - i.start) / 60000 * pixelsPerMinute⟩

/-- How long after the beginning of the axis an instant is, rounded down to the minute. -/
def toMinute (openTimeMs t : Int) : Int := (t - openTimeMs) / 60000 * 60000

/-- The instant that a pixel of the axis stands for. -/
def instantAt (openTimeMs x : Int) : Int := openTimeMs + x * 20000

/-- The row `is` of an axis from `openTimeMs` on is drawn as it is: no two boxes meet, and each lies on
the axis, at its time, and under the label of the hour that it begins in. -/
structure ShowsTime (offset openTimeMs openHour closeHour : Int) (is : List (Stretch Int)) : Prop where
  apart : (is.map (place openTimeMs)).Pairwise Box.Beside
  within : ∀ i ∈ is, 0 ≤ (place openTimeMs i).left ∧
    (place openTimeMs i).right ≤ getTotalTimelineWidth openHour closeHour
  starts : ∀ i ∈ is, instantAt openTimeMs (place openTimeMs i).left ≤ i.start ∧
    i.start < instantAt openTimeMs (place openTimeMs i).left + 60000
  stops : ∀ i ∈ is, instantAt openTimeMs (place openTimeMs i).right ≤ i.stop ∧
    i.stop < instantAt openTimeMs (place openTimeMs i).right + 120000
  hours : ∀ i ∈ is, ∃ header ∈ getTimelineHeaders openHour closeHour,
    header.marker = .hour (hourLabel (getHours offset i.start)) ∧
    header.left ≤ (place openTimeMs i).left ∧
    (place openTimeMs i).left < header.left + 60 * pixelsPerMinute

/-! ## One box -/

section

variable {offset today openHour closeHour openTimeMs currentTime : Int}
  {bookings : List TimelineBooking} {i j : Stretch Int}

theorem boxOf_eq (hopen : getTimelineStartOfDay offset today openHour = some openTimeMs)
    (hera : 0 < openTimeMs) {start duration : Int} (hstart : openTimeMs ≤ start) :
    boxOf offset today openHour start duration =
      some (place openTimeMs ⟨start, start + duration⟩) := by
  have hne : start ≠ 0 := by omega
  have hduration : start + duration - start = duration := by omega
  rw [boxOf, timeToPixels, getMinutesFromOpen, if_neg hne, hopen, place, hduration]
  rfl

/-- The box of a booking of seventeen minutes is wide enough. -/
theorem bookingBox_eq (hopen : getTimelineStartOfDay offset today openHour = some openTimeMs)
    (hera : 0 < openTimeMs) {b : TimelineBooking} (hstart : openTimeMs ≤ b.startTime)
    (hlong : 17 * 60000 ≤ b.duration) :
    bookingBox offset today openHour b = some (place openTimeMs b.interval) := by
  have hwide : (b.startTime + b.duration - b.startTime) / 60000 * pixelsPerMinute ≥ 50 := by
    unfold pixelsPerMinute
    omega
  rw [bookingBox, boxOf_eq hopen hera hstart, Option.map_some, place]
  dsimp only
  rw [max_eq_left hwide]
  rfl

theorem beside_of_le (h : i.stop ≤ j.start) :
    (place openTimeMs i).right ≤ (place openTimeMs j).left := by
  simp only [place, Box.right, pixelsPerMinute]
  omega

theorem place_within (hstart : openTimeMs ≤ i.start)
    (hstop : toMinute openTimeMs i.start + (i.stop - i.start) ≤ (closeHour - openHour) * 3600000) :
    0 ≤ (place openTimeMs i).left ∧
      (place openTimeMs i).right ≤ getTotalTimelineWidth openHour closeHour := by
  unfold toMinute at hstop
  simp only [place, Box.right, getTotalTimelineWidth, pixelsPerMinute]
  omega

theorem place_starts : instantAt openTimeMs (place openTimeMs i).left ≤ i.start ∧
    i.start < instantAt openTimeMs (place openTimeMs i).left + 60000 := by
  simp only [place, instantAt, pixelsPerMinute]
  omega

theorem place_stops : instantAt openTimeMs (place openTimeMs i).right ≤ i.stop ∧
    i.stop < instantAt openTimeMs (place openTimeMs i).right + 120000 := by
  simp only [place, Box.right, instantAt, pixelsPerMinute]
  omega

/-! ## The labels -/

theorem mem_getTimelineHeaders {h : Int} (hfrom : openHour ≤ h) (hto : h ≤ closeHour) :
    ⟨.hour (hourLabel (h.tmod 24)), (h - openHour) * 60 * pixelsPerMinute⟩ ∈
      getTimelineHeaders openHour closeHour := by
  have hturn : (h - openHour).toNat < (closeHour - openHour + 1).toNat := by omega
  refine List.mem_flatMap.2 ⟨(h - openHour).toNat, List.mem_range.2 hturn, ?_⟩
  have hhour : openHour + ((h - openHour).toNat : Int) = h := by omega
  rw [hhour]
  exact List.mem_cons_self

/-- The hours of the axis are those of the clock, counted on past midnight. -/
theorem getHours_axis (hopen : getTimelineStartOfDay offset today openHour = some openTimeMs)
    (t : Int) : getHours offset t = (openHour + (t - openTimeMs) / 3600000) % 24 := by
  rw [getTimelineStartOfDay_eq hopen]
  simp only [getHours, localTime, msPerDay, msPerHour]
  omega

theorem place_hours (hopen : getTimelineStartOfDay offset today openHour = some openTimeMs)
    (hhour : 0 ≤ openHour) (hstart : openTimeMs ≤ i.start)
    (hstop : i.start ≤ openTimeMs + (closeHour - openHour) * 3600000) :
    ∃ header ∈ getTimelineHeaders openHour closeHour,
      header.marker = .hour (hourLabel (getHours offset i.start)) ∧
      header.left ≤ (place openTimeMs i).left ∧
      (place openTimeMs i).left < header.left + 60 * pixelsPerMinute := by
  have hmem : ⟨.hour (hourLabel ((openHour + (i.start - openTimeMs) / 3600000).tmod 24)),
      (openHour + (i.start - openTimeMs) / 3600000 - openHour) * 60 * pixelsPerMinute⟩ ∈
      getTimelineHeaders openHour closeHour := mem_getTimelineHeaders (by omega) (by omega)
  refine ⟨_, hmem, ?_, ?_, ?_⟩
  · rw [getHours_axis hopen, Int.tmod_eq_emod_of_nonneg (by omega)]
  · simp only [place, pixelsPerMinute]
    omega
  · simp only [place, pixelsPerMinute]
    omega

end

/-- The bookings of a table begin on the axis, end there if their starts are rounded to the minute, and
lie apart. -/
structure OnAxis (openTimeMs openHour closeHour : Int) (bookings : List TimelineBooking) : Prop where
  starts : ∀ b ∈ bookings, openTimeMs ≤ b.startTime ∧
    b.startTime ≤ openTimeMs + (closeHour - openHour) * 3600000
  long : ∀ b ∈ bookings, 17 * 60000 ≤ b.duration
  stops : ∀ b ∈ bookings,
    toMinute openTimeMs b.startTime + b.duration ≤ (closeHour - openHour) * 3600000
  apart : bookings.Pairwise fun b c => b.endTime ≤ c.startTime ∨ c.endTime ≤ b.startTime

/-! ## The row -/

section

variable {offset today openHour closeHour openTimeMs currentTime : Int}
  {bookings : List TimelineBooking}

theorem calculateFreeSlots_eq (hopen : getTimelineStartOfDay offset today openHour = some openTimeMs) :
    calculateFreeSlots offset today bookings closeHour currentTime openHour =
      slotsFrom openTimeMs bookings closeHour currentTime openHour := by
  rw [calculateFreeSlots, hopen]

theorem shown_eq (hopen : getTimelineStartOfDay offset today openHour = some openTimeMs) :
    shown offset today openHour closeHour currentTime bookings =
      bookings.map TimelineBooking.interval ++
        (slotsFrom openTimeMs bookings closeHour currentTime openHour).map FreeSlot.stretch := by
  rw [shown, calculateFreeSlots_eq hopen]

theorem slot_stops (haxis : OnAxis openTimeMs openHour closeHour bookings) {s : FreeSlot}
    (hs : s ∈ slotsFrom openTimeMs bookings closeHour currentTime openHour) :
    s.stretch.stop ≤ openTimeMs + (closeHour - openHour) * 3600000 := by
  obtain ⟨g, hg, hclip⟩ := exists_gap_of_slot hs
  rw [FreeSlot.stretch, (clip_eq_some hclip).2.1]
  refine stop_le_of_mem (fun i hi => ?_) g hg
  obtain ⟨b, hb, rfl⟩ := mem_intervals.1 hi
  exact (haxis.starts b hb).2

/-- All that a row shows lies on the axis. -/
theorem shown_on_axis (hopen : getTimelineStartOfDay offset today openHour = some openTimeMs)
    (haxis : OnAxis openTimeMs openHour closeHour bookings) {i : Stretch Int}
    (hi : i ∈ shown offset today openHour closeHour currentTime bookings) :
    openTimeMs ≤ i.start ∧ i.start ≤ openTimeMs + (closeHour - openHour) * 3600000 ∧
      toMinute openTimeMs i.start + (i.stop - i.start) ≤ (closeHour - openHour) * 3600000 := by
  rw [shown_eq hopen] at hi
  rcases List.mem_append.1 hi with hi | hi
  · obtain ⟨b, hb, rfl⟩ := List.mem_map.1 hi
    have hduration : b.interval.stop - b.interval.start = b.duration := by
      simp only [TimelineBooking.interval, TimelineBooking.endTime]
      omega
    rw [hduration]
    exact ⟨(haxis.starts b hb).1, (haxis.starts b hb).2, haxis.stops b hb⟩
  · obtain ⟨s, hs, rfl⟩ := List.mem_map.1 hi
    have hstart : openTimeMs ≤ s.stretch.start := (le_max_left _ _).trans (slot_starts hs)
    have hlong := slot_long hs
    have hstop := slot_stops haxis hs
    unfold minSlotMs at hlong
    simp only [FreeSlot.stretch, toMinute] at hstart hstop ⊢
    omega

theorem shown_apart (hopen : getTimelineStartOfDay offset today openHour = some openTimeMs)
    (haxis : OnAxis openTimeMs openHour closeHour bookings) :
    (shown offset today openHour closeHour currentTime bookings).Pairwise
      fun i j => i.stop ≤ j.start ∨ j.stop ≤ i.start := by
  rw [shown_eq hopen]
  refine List.pairwise_append.2 ⟨List.pairwise_map.2 haxis.apart,
    List.pairwise_map.2 ((slots_in_order fun b hb => by have := haxis.long b hb; omega).imp .inl), ?_⟩
  intro i hi j hj
  obtain ⟨b, hb, rfl⟩ := List.mem_map.1 hi
  obtain ⟨s, hs, rfl⟩ := List.mem_map.1 hj
  exact (slot_beside hs hb).symm

theorem row_eq (hopen : getTimelineStartOfDay offset today openHour = some openTimeMs)
    (hera : 0 < openTimeMs) (haxis : OnAxis openTimeMs openHour closeHour bookings) :
    row offset today openHour closeHour currentTime bookings =
      (shown offset today openHour closeHour currentTime bookings).map fun i =>
        some (place openTimeMs i) := by
  rw [row, shown, calculateFreeSlots_eq hopen, List.map_append, List.map_map, List.map_map]
  congr 1
  · exact List.map_congr_left fun b hb =>
      bookingBox_eq hopen hera (haxis.starts b hb).1 (haxis.long b hb)
  · refine List.map_congr_left fun s hs => boxOf_eq hopen hera ?_
    exact (le_max_left _ _).trans (slot_starts hs)

theorem showsTime (hopen : getTimelineStartOfDay offset today openHour = some openTimeMs)
    (hhour : 0 ≤ openHour) (haxis : OnAxis openTimeMs openHour closeHour bookings) :
    ShowsTime offset openTimeMs openHour closeHour
      (shown offset today openHour closeHour currentTime bookings) := by
  constructor
  case apart =>
    exact List.pairwise_map.2 ((shown_apart hopen haxis).imp fun hapart =>
      hapart.imp beside_of_le beside_of_le)
  case within =>
    intro i hi
    obtain ⟨hstart, -, hstop⟩ := shown_on_axis hopen haxis hi
    exact place_within hstart hstop
  case starts => exact fun i _ => place_starts
  case stops => exact fun i _ => place_stops
  case hours =>
    intro i hi
    obtain ⟨hstart, hend, -⟩ := shown_on_axis hopen haxis hi
    exact place_hours hopen hhour hstart hend

end

/-! ## The drawn axis -/

/-- A booking of the day: it begins after the opening, takes seventeen minutes or more, and ends within
twenty hours. -/
structure OnDay (openTimeMs : Int) (b : TimelineBooking) : Prop where
  start : openTimeMs ≤ b.startTime
  long : 17 * 60000 ≤ b.duration
  stop : b.endTime ≤ openTimeMs + 20 * 3600000

/-- The row of a table, on the axis that is drawn for the bookings of all tables
(`BookingTimeline.jsx:59-66`, `161-174`). -/
def drawnRow (offset today openHour baseCloseHour currentTime tableId : Int)
    (bookings : List TimelineBooking) : List (Option Box) :=
  row offset today openHour (getDynamicCloseHour offset today bookings openHour baseCloseHour)
    currentTime (bookings.filter (·.tableId = tableId))

section

variable {offset today openHour openTimeMs : Int} {bookings : List TimelineBooking}
  {b : TimelineBooking}

/-- The loop moves the closing hour behind every booking. -/
theorem endHour_le_foldl {hour : Int} (hend : endHour offset today openHour b = some hour) :
    ∀ {maxHour}, b ∈ bookings → hour ≤ bookings.foldl (raise offset today openHour) maxHour := by
  induction bookings with
  | nil => exact fun hb => absurd hb List.not_mem_nil
  | cons c bookings ih =>
    intro maxHour hb
    rcases List.mem_cons.1 hb with rfl | hb
    · have hraise : hour ≤ raise offset today openHour maxHour b := by
        unfold raise
        rw [hend]
        dsimp only
        split <;> omega
      exact hraise.trans (le_foldl_raise _)
    · exact ih hb

theorem endHour_eq (hopen : getTimelineStartOfDay offset today openHour = some openTimeMs)
    (hera : 0 < openTimeMs) (hstart : openTimeMs ≤ b.startTime) :
    endHour offset today openHour b =
      some (openHour + ⌈((toMinute openTimeMs b.startTime + b.duration : Int) : ℚ) / 3600000⌉) := by
  have hne : b.startTime ≠ 0 := by omega
  have hminutes : (((b.startTime - openTimeMs) / 60000 : Int) : ℚ) + b.duration / 60000 =
      ((toMinute openTimeMs b.startTime + b.duration : Int) : ℚ) / 60000 := by
    unfold toMinute
    push_cast
    ring
  have hend : endHour offset today openHour b = some (openHour +
      ⌈((((b.startTime - openTimeMs) / 60000 : Int) : ℚ) + b.duration / 60000) / 60⌉) := by
    rw [endHour, getMinutesFromOpen, if_neg hne, hopen]
    rfl
  rw [hend, hminutes, div_div]
  norm_num

/-- The axis reaches the end of each booking of the day, if its start is rounded to the minute. -/
theorem drawn_reaches (hopen : getTimelineStartOfDay offset today openHour = some openTimeMs)
    (hera : 0 < openTimeMs) (hb : b ∈ bookings) (hday : OnDay openTimeMs b) (baseCloseHour : Int) :
    toMinute openTimeMs b.startTime + b.duration ≤
      (getDynamicCloseHour offset today bookings openHour baseCloseHour - openHour) * 3600000 := by
  obtain ⟨hstart, -, hstop⟩ := hday
  have hend := endHour_eq hopen hera hstart
  have hcap : toMinute openTimeMs b.startTime + b.duration ≤ 20 * 3600000 := by
    unfold TimelineBooking.endTime at hstop
    unfold toMinute
    omega
  generalize toMinute openTimeMs b.startTime + b.duration = reach at *
  have hceil : reach ≤ ⌈(reach : ℚ) / 3600000⌉ * 3600000 := by
    have hle := Int.le_ceil ((reach : ℚ) / 3600000)
    rw [div_le_iff₀ (by norm_num)] at hle
    exact_mod_cast hle
  have htwenty : ⌈(reach : ℚ) / 3600000⌉ ≤ 20 := by
    rw [Int.ceil_le, div_le_iff₀ (by norm_num)]
    exact_mod_cast hcap
  have hclose : openHour + ⌈(reach : ℚ) / 3600000⌉ ≤
      getDynamicCloseHour offset today bookings openHour baseCloseHour :=
    le_min (endHour_le_foldl hend hb) (by omega)
  omega

theorem onAxis_drawn (hopen : getTimelineStartOfDay offset today openHour = some openTimeMs)
    (hera : 0 < openTimeMs) (hday : ∀ b ∈ bookings, OnDay openTimeMs b) {tableId : Int}
    (hapart : (bookings.filter (·.tableId = tableId)).Pairwise
      fun b c => b.endTime ≤ c.startTime ∨ c.endTime ≤ b.startTime) (baseCloseHour : Int) :
    OnAxis openTimeMs openHour
      (getDynamicCloseHour offset today bookings openHour baseCloseHour)
      (bookings.filter (·.tableId = tableId)) := by
  constructor
  case starts =>
    intro b hb
    have hmem := (List.mem_filter.1 hb).1
    obtain ⟨hstart, hlong, -⟩ := hday b hmem
    have hreach := drawn_reaches hopen hera hmem (hday b hmem) baseCloseHour
    unfold toMinute at hreach
    exact ⟨hstart, by omega⟩
  case long => exact fun b hb => (hday b (List.mem_filter.1 hb).1).long
  case stops =>
    intro b hb
    have hmem := (List.mem_filter.1 hb).1
    exact drawn_reaches hopen hera hmem (hday b hmem) baseCloseHour
  case apart => exact hapart

/-- On the axis that is drawn, whatever closing hour the venue has, a row shows the bookings and the free
slots of its table at their times. -/
theorem row_shows_time (hopen : getTimelineStartOfDay offset today openHour = some openTimeMs)
    (hera : 0 < openTimeMs) (hhour : 0 ≤ openHour) (hday : ∀ b ∈ bookings, OnDay openTimeMs b)
    (tableId : Int) (hapart : (bookings.filter (·.tableId = tableId)).Pairwise
      fun b c => b.endTime ≤ c.startTime ∨ c.endTime ≤ b.startTime)
    (baseCloseHour currentTime : Int) :
    let closeHour := getDynamicCloseHour offset today bookings openHour baseCloseHour
    let is := shown offset today openHour closeHour currentTime (bookings.filter (·.tableId = tableId))
    drawnRow offset today openHour baseCloseHour currentTime tableId bookings =
        is.map (fun i => some (place openTimeMs i)) ∧
      ShowsTime offset openTimeMs openHour closeHour is := by
  have haxis := onAxis_drawn hopen hera hday hapart baseCloseHour
  exact ⟨row_eq hopen hera haxis, showsTime hopen hhour haxis⟩

/-- Ann's booking on a day from ten to midnight, seen half an hour in: an hour at the left end of the
axis, and thirteen free ones beside it. -/
theorem row_shows_time_ann :
    drawnRow 0 1893493800000 10 24 1893493800000 1 [annsBooking] =
        [some ⟨0, 180⟩, some ⟨180, 2340⟩] ∧
      ShowsTime 0 1893492000000 10 24
        [⟨1893492000000, 1893495600000⟩, ⟨1893495600000, 1893542400000⟩] := by
  have hclose : getDynamicCloseHour 0 1893493800000 [annsBooking] 10 24 = 24 := by decide +kernel
  have hshown : shown 0 1893493800000 10 24 1893493800000 [annsBooking] =
      [⟨1893492000000, 1893495600000⟩, ⟨1893495600000, 1893542400000⟩] := rfl
  have hopen : getTimelineStartOfDay 0 1893493800000 10 = some 1893492000000 := by decide
  have hday : ∀ b ∈ [annsBooking], OnDay 1893492000000 b := by
    intro b hb
    obtain rfl := List.mem_singleton.1 hb
    exact ⟨by decide, by decide, by decide⟩
  have hrow := row_shows_time hopen (by decide) (by decide) hday 1
    (List.pairwise_singleton _ _) 24 1893493800000
  have hfilter : [annsBooking].filter (·.tableId = 1) = [annsBooking] := rfl
  dsimp only at hrow
  rw [hclose, hfilter, hshown] at hrow
  exact hrow

end

end TimelineRow

end GbcVenue
