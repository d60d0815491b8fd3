import GbcVenue.Frontend.TimelineBooking
import GbcVenue.Frontend.TimelineUtils
import GbcVenue.Intervals.Gaps
import Mathlib.Data.List.Sort

/-!
# Free slots

`calculateFreeSlots` of `frontend/src/components/timeline/TimelineRow.jsx`. The slots are the gaps
between the bookings, cut off at the present and at least 15 minutes long: `free_slots_exact`.
-/

namespace GbcVenue

open TimelineUtils Intervals

namespace TimelineRow

/-- An element of `freeSlots`. -/
structure FreeSlot where
  startTimestamp : Int
  durationMs : Int
  deriving DecidableEq

/-- The instants of a slot. -/
def FreeSlot.window (s : FreeSlot) : Set Int :=
  Set.Ico s.startTimestamp (s.startTimestamp + s.durationMs)

/-- `TIMELINE_CONFIG.MIN_SLOT_MINS * 60000` (`timelineUtils.js:3`). -/
def minSlotMs : Int := 15 * 60000

/-- `addSlotIfValid` (`TimelineRow.jsx:15-30`). -/
def addSlotIfValid (now : Int) (freeSlots : List FreeSlot) (start duration : Int) : List FreeSlot :=
  let slotEnd := start + duration
  let slotStart := if start < now then now else start
  let newDuration := slotEnd - slotStart
  if minSlotMs ≤ newDuration then freeSlots ++ [⟨slotStart, newDuration⟩] else freeSlots

/-- One turn of the loop (`TimelineRow.jsx:35-41`), on `currentCursor` and `freeSlots`. -/
def visit (now : Int) (s : Int × List FreeSlot) (b : TimelineBooking) : Int × List FreeSlot :=
  let gap := b.startTime - s.1
  (max s.1 (b.startTime + b.duration), if 0 < gap then addSlotIfValid now s.2 s.1 gap else s.2)

/-- The order of `sort((a, b) => a.startTime - b.startTime)`. -/
def startsBefore (a b : TimelineBooking) : Prop := a.startTime ≤ b.startTime

instance (a b : TimelineBooking) : Decidable (startsBefore a b) :=
  inferInstanceAs (Decidable (_ ≤ _))

/-- The slots from the opening time on (`TimelineRow.jsx:10-49`). -/
def slotsFrom (openTimeMs : Int) (bookings : List TimelineBooking)
    (closeHour currentTime openHour : Int) : List FreeSlot :=
  let closeTimeMs := openTimeMs + (closeHour - openHour) * 3600000
  let swept := (bookings.insertionSort startsBefore).foldl (visit currentTime) (openTimeMs, [])
  let endGap := closeTimeMs - swept.1
  if 0 < endGap then addSlotIfValid currentTime swept.2 swept.1 endGap else swept.2

/-- `calculateFreeSlots`, at the clock reading `today`. An opening time that is no number leaves no
slot. -/
def calculateFreeSlots (offset today : Int) (bookings : List TimelineBooking)
    (closeHour currentTime openHour : Int) : List FreeSlot :=
  match getTimelineStartOfDay offset today openHour with
  | none => []
  | some openTimeMs => slotsFrom openTimeMs bookings closeHour currentTime openHour

end TimelineRow

/-- The instants of a booking. -/
def TimelineBooking.interval (b : TimelineBooking) : Stretch Int := ⟨b.startTime, b.endTime⟩

namespace TimelineRow

/-- What `addSlotIfValid` makes of a gap. -/
def clip (now : Int) (g : Stretch Int) : Option FreeSlot :=
  let slotStart := max g.start now
  if minSlotMs ≤ g.stop - slotStart then some ⟨slotStart, g.stop - slotStart⟩ else none

section

variable {now : Int}

theorem addSlotIfValid_eq (freeSlots : List FreeSlot) (start stop : Int) :
    addSlotIfValid now freeSlots start (stop - start) =
      freeSlots ++ (clip now ⟨start, stop⟩).toList := by
  have hstart : (if start < now then now else start) = max start now := by
    split <;> omega
  have hstop : start + (stop - start) = stop := by omega
  simp only [addSlotIfValid, clip, hstart, hstop]
  split <;> simp

/-- A gap that is there or not, as the code asks for it. -/
theorem addSlot_gap (freeSlots : List FreeSlot) (start stop : Int) :
    (if 0 < stop - start then addSlotIfValid now freeSlots start (stop - start) else freeSlots) =
      freeSlots ++ (gap start stop).filterMap (clip now) := by
  by_cases h : start < stop
  · rw [if_pos (by omega), addSlotIfValid_eq, gap, if_pos h, List.filterMap_cons]
    cases clip now ⟨start, stop⟩ <;> rfl
  · rw [if_neg (by omega), gap, if_neg h, List.filterMap_nil, List.append_nil]

theorem visit_eq (cursor : Int) (freeSlots : List FreeSlot) (b : TimelineBooking) :
    visit now (cursor, freeSlots) b =
      (max cursor b.endTime, freeSlots ++ (gap cursor b.startTime).filterMap (clip now)) :=
  Prod.ext rfl (addSlot_gap _ _ _)

/-- The loop sweeps the gaps. -/
theorem foldl_visit {closeTimeMs : Int} {bs : List TimelineBooking} :
    ∀ (cursor : Int) (freeSlots : List FreeSlot),
      (bs.foldl (visit now) (cursor, freeSlots)).2 ++
          (gap (bs.foldl (visit now) (cursor, freeSlots)).1 closeTimeMs).filterMap (clip now) =
        freeSlots ++ (gaps closeTimeMs cursor (bs.map TimelineBooking.interval)).filterMap
          (clip now) := by
  induction bs with
  | nil => exact fun _ _ => rfl
  | cons b bs ih =>
    intro cursor freeSlots
    rw [List.foldl_cons, visit_eq, ih, List.map_cons, gaps, List.filterMap_append, List.append_assoc]
    rfl

/-- The slots are the gaps between the bookings, clipped. -/
theorem slotsFrom_eq (openTimeMs : Int) (bookings : List TimelineBooking)
    (closeHour currentTime openHour : Int) :
    slotsFrom openTimeMs bookings closeHour currentTime openHour =
      (gaps (openTimeMs + (closeHour - openHour) * 3600000) openTimeMs
        ((bookings.insertionSort startsBefore).map TimelineBooking.interval)).filterMap
          (clip currentTime) := by
  rw [slotsFrom, addSlot_gap, foldl_visit, List.nil_append]

theorem clip_eq_some {g : Stretch Int} {s : FreeSlot} (h : clip now g = some s) :
    s.startTimestamp = max g.start now ∧ s.startTimestamp + s.durationMs = g.stop ∧
      minSlotMs ≤ s.durationMs := by
  simp only [clip] at h
  split at h
  · rename_i hlong
    cases h
    exact ⟨rfl, by dsimp only; omega, hlong⟩
  · cases h

theorem sorted_intervals (bookings : List TimelineBooking) :
    ((bookings.insertionSort startsBefore).map TimelineBooking.interval).Pairwise
      fun i j => i.start ≤ j.start := by
  have htotal : Std.Total startsBefore := ⟨fun a b => Int.le_total a.startTime b.startTime⟩
  have htrans : IsTrans TimelineBooking startsBefore := ⟨fun _ _ _ => Int.le_trans⟩
  exact List.pairwise_map.2 (List.pairwise_insertionSort startsBefore bookings)

theorem mem_intervals {bookings : List TimelineBooking} {i : Stretch Int} :
    i ∈ (bookings.insertionSort startsBefore).map TimelineBooking.interval ↔
      ∃ b ∈ bookings, b.interval = i := by
  simp only [List.mem_map, List.mem_insertionSort]

variable {openTimeMs closeHour openHour : Int} {bookings : List TimelineBooking} {s : FreeSlot}

/-- A slot is a gap between the bookings that has been clipped. -/
theorem exists_gap_of_slot (h : s ∈ slotsFrom openTimeMs bookings closeHour now openHour) :
    ∃ g ∈ gaps (openTimeMs + (closeHour - openHour) * 3600000) openTimeMs
        ((bookings.insertionSort startsBefore).map TimelineBooking.interval), clip now g = some s := by
  rw [slotsFrom_eq] at h
  exact List.mem_filterMap.1 h

theorem slot_starts (h : s ∈ slotsFrom openTimeMs bookings closeHour now openHour) :
    max openTimeMs now ≤ s.startTimestamp := by
  obtain ⟨g, hg, hclip⟩ := exists_gap_of_slot h
  rw [(clip_eq_some hclip).1]
  exact max_le_max_right now (cursor_le_of_mem g hg)

theorem slot_long (h : s ∈ slotsFrom openTimeMs bookings closeHour now openHour) :
    minSlotMs ≤ s.durationMs := by
  obtain ⟨g, -, hclip⟩ := exists_gap_of_slot h
  exact (clip_eq_some hclip).2.2

/-- A slot ends before a booking starts, or starts after it has ended. -/
theorem slot_beside (h : s ∈ slotsFrom openTimeMs bookings closeHour now openHour)
    {b : TimelineBooking} (hb : b ∈ bookings) :
    s.startTimestamp + s.durationMs ≤ b.startTime ∨ b.endTime ≤ s.startTimestamp := by
  obtain ⟨g, hg, hclip⟩ := exists_gap_of_slot h
  obtain ⟨hstart, hstop, -⟩ := clip_eq_some hclip
  rw [hstop, hstart]
  refine (gap_beside (sorted_intervals bookings) g hg _ (mem_intervals.2 ⟨b, hb, rfl⟩)).imp_right ?_
  exact fun hend => hend.trans (le_max_left g.start now)

theorem slots_in_order (hbookings : ∀ b ∈ bookings, 0 ≤ b.duration) :
    (slotsFrom openTimeMs bookings closeHour now openHour).Pairwise
      fun s t => s.startTimestamp + s.durationMs ≤ t.startTimestamp := by
  have hproper : ∀ i ∈ (bookings.insertionSort startsBefore).map TimelineBooking.interval,
      i.start ≤ i.stop := by
    intro i hi
    obtain ⟨b, hb, rfl⟩ := mem_intervals.1 hi
    have hnonneg := hbookings b hb
    simp only [TimelineBooking.interval, TimelineBooking.endTime]
    omega
  rw [slotsFrom_eq]
  refine (pairwise_gaps hproper openTimeMs).filterMap (clip now) ?_
  intro g h hgh s hs t ht
  rw [(clip_eq_some hs).2.1, (clip_eq_some ht).1]
  exact hgh.trans (le_max_left _ _)

/-- A stretch beside all bookings that is long enough lies inside a slot. -/
theorem exists_slot {start stop : Int} (hstart : max openTimeMs now ≤ start)
    (hstop : stop ≤ openTimeMs + (closeHour - openHour) * 3600000) (hlong : minSlotMs ≤ stop - start)
    (hbeside : ∀ b ∈ bookings, b.endTime ≤ start ∨ stop ≤ b.startTime) :
    ∃ s ∈ slotsFrom openTimeMs bookings closeHour now openHour,
      s.startTimestamp ≤ start ∧ stop ≤ s.startTimestamp + s.durationMs := by
  have hlt : start < stop := by
    unfold minSlotMs at hlong
    omega
  have hbeside' : ∀ i ∈ (bookings.insertionSort startsBefore).map TimelineBooking.interval,
      i.stop ≤ start ∨ stop ≤ i.start := by
    intro i hi
    obtain ⟨b, hb, rfl⟩ := mem_intervals.1 hi
    exact hbeside b hb
  obtain ⟨g, hg, hle, hge⟩ :=
    exists_gap hlt hstop hbeside' ((le_max_left openTimeMs now).trans hstart)
  have hfrom : max g.start now ≤ start := max_le hle ((le_max_right openTimeMs now).trans hstart)
  have hclip : clip now g = some ⟨max g.start now, g.stop - max g.start now⟩ :=
    if_pos (by omega)
  rw [slotsFrom_eq]
  exact ⟨_, List.mem_filterMap.2 ⟨g, hg, hclip⟩, hfrom, by dsimp only; omega⟩

end

/-- The slots are all of the free time from the opening time and the present on: in order, without a
common instant among them or with a booking, each long enough, and each stretch of free time that is
long enough inside one of them. -/
structure ExactSlots (openTimeMs closeTimeMs now : Int) (bookings : List TimelineBooking)
    (slots : List FreeSlot) : Prop where
  sorted : slots.Pairwise fun s t => s.startTimestamp < t.startTimestamp
  apart : slots.Pairwise fun s t => Disjoint s.window t.window
  starts : ∀ s ∈ slots, max openTimeMs now ≤ s.startTimestamp
  long : ∀ s ∈ slots, 15 * 60000 ≤ s.durationMs
  free : ∀ s ∈ slots, ∀ b ∈ bookings, Disjoint s.window b.interval.points
  maximal : ∀ start stop, max openTimeMs now ≤ start → stop ≤ closeTimeMs →
    15 * 60000 ≤ stop - start → (∀ b ∈ bookings, Disjoint (Set.Ico start stop) b.interval.points) →
    ∃ s ∈ slots, Set.Ico start stop ⊆ s.window

/-- The free slots of a day are all of its free time. -/
theorem free_slots_exact {offset today : Int} {bookings : List TimelineBooking}
    (hbookings : ∀ b ∈ bookings, 0 < b.duration) {openHour openTimeMs : Int}
    (hopen : getTimelineStartOfDay offset today openHour = some openTimeMs)
    (closeHour currentTime : Int) :
    ExactSlots openTimeMs (openTimeMs + (closeHour - openHour) * 3600000) currentTime bookings
      (calculateFreeSlots offset today bookings closeHour currentTime openHour) := by
  have heq : calculateFreeSlots offset today bookings closeHour currentTime openHour =
      slotsFrom openTimeMs bookings closeHour currentTime openHour := by
    rw [calculateFreeSlots, hopen]
  rw [heq]
  have horder : (slotsFrom openTimeMs bookings closeHour currentTime openHour).Pairwise
      fun s t => s.startTimestamp + s.durationMs ≤ t.startTimestamp :=
    slots_in_order fun b hb => (hbookings b hb).le
  refine ⟨?_, ?_, fun s hs => slot_starts hs, fun s hs => slot_long hs, ?_, ?_⟩
  · refine horder.imp_of_mem fun hs _ hle => ?_
    have hlong := slot_long hs
    unfold minSlotMs at hlong
    omega
  · exact horder.imp fun hle => Set.Ico_disjoint_Ico.2
      ((min_le_left _ _).trans (hle.trans (le_max_right _ _)))
  · intro s hs b hb
    exact disjoint_of_beside (i := ⟨_, _⟩) (slot_beside hs hb)
  · intro start stop hstart hstop hlong hfree
    have hbeside : ∀ b ∈ bookings, b.endTime ≤ start ∨ stop ≤ b.startTime := by
      intro b hb
      have hproper : b.interval.start < b.interval.stop := by
        have hpos := hbookings b hb
        simp only [TimelineBooking.interval, TimelineBooking.endTime]
        omega
      exact (beside_of_disjoint (i := ⟨start, stop⟩) (by dsimp only; omega) hproper (hfree b hb)).symm
    obtain ⟨s, hs, hle, hge⟩ := exists_slot hstart hstop hlong hbeside
    exact ⟨s, hs, Set.Ico_subset_Ico hle hge⟩

/-- The day from nine to eleven at night, seen at half past nine: half an hour before the booking,
and the time after it. -/
theorem free_slots_exact_day :
    ExactSlots 1893488400000 1893538800000 1893490200000 [annsBooking]
      [⟨1893490200000, 1800000⟩, ⟨1893495600000, 43200000⟩] := by
  have hslots : calculateFreeSlots 0 1893490200000 [annsBooking] 23 1893490200000 9 =
      [⟨1893490200000, 1800000⟩, ⟨1893495600000, 43200000⟩] := by decide
  have hopen : getTimelineStartOfDay 0 1893490200000 9 = some 1893488400000 := by decide
  rw [← hslots]
  exact free_slots_exact (by decide) hopen 23 1893490200000

end TimelineRow

end GbcVenue
