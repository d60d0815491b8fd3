import GbcVenue.Frontend.BookingForm

/-!
# New bookings in a free slot

The create mode of `handleSubmit` tests the bounds of the slot and leaves a quarter of an hour before
it, while the edit mode tests each booking. A slot lies beside all bookings, so what is accepted can
overlap one only by a check-in before its end, in that quarter of an hour: `accepted_is_free_iff`.
-/

namespace GbcVenue

open JsDate TimelineUtils TimelineRow

namespace CreateBookingModal

variable {g : Globals} {tableId : Int} {slot : FreeSlot} {tableBookings : List TimelineBooking}
  {checkIn checkOut : Option Int}

/-- What the create mode tests. -/
theorem windowError_slot
    (h : windowError g tableBookings checkIn checkOut (.slot tableId slot) = none) :
    ¬ numLt checkIn (some (slot.startTimestamp - 15 * 60000)) ∧
      ¬ numLt (some (slot.startTimestamp + slot.durationMs - 15 * 60000)) checkIn ∧
      ¬ numLt checkOut (some slot.startTimestamp) ∧
      ¬ numLt (some (slot.startTimestamp + slot.durationMs)) checkOut := by
  simp only [windowError] at h
  split at h
  · cases h
  · rename_i hearly
    split at h
    · cases h
    · rename_i hlate
      split at h
      · cases h
      · rename_i hshort
        split at h
        · cases h
        · rename_i hlong
          exact ⟨hearly, hlate, hshort, hlong⟩

/-- The edit mode accepts nothing that overlaps another booking. -/
theorem accepted_edit_is_free {existing : TimelineBooking} {form : Form}
    {checked : Option Int × Option Int}
    (haccept : handleSubmit g (.existingBooking existing) form tableBookings = .ok checked) :
    ∀ b ∈ tableBookings, b.bookingId ≠ existing.bookingId → ¬ overlaps checked.1 checked.2 b := by
  obtain ⟨-, -, hwindow⟩ := handleSubmit_ok haccept
  intro b hb hid hoverlaps
  have hfind := List.find?_eq_none.1 (Option.map_eq_none_iff.1 hwindow) b hb
  exact hfind (decide_eq_true ⟨hid, hoverlaps⟩)

theorem slot_beside_of_mem {offset today closeHour currentTime openHour : Int}
    {bookings : List TimelineBooking}
    (h : slot ∈ calculateFreeSlots offset today bookings closeHour currentTime openHour)
    {b : TimelineBooking} (hb : b ∈ bookings) :
    slot.startTimestamp + slot.durationMs ≤ b.startTime ∨ b.endTime ≤ slot.startTimestamp := by
  unfold calculateFreeSlots at h
  split at h
  · cases h
  · exact slot_beside h hb

/-- What is accepted ends with the slot, so a booking after the slot is no obstacle. -/
theorem not_overlaps_later (h : ¬ numLt (some (slot.startTimestamp + slot.durationMs)) checkOut)
    {b : TimelineBooking} (hb : slot.startTimestamp + slot.durationMs ≤ b.startTime) :
    ¬ overlaps checkIn checkOut b := by
  rintro ⟨-, hlt⟩
  cases checkOut with
  | none => exact not_numLt_none hlt
  | some checkOutMs =>
    rw [numLt_some] at h hlt
    omega

/-- What is accepted ends after the slot begins, so a check-in before the end of a booking that is over
by then is an overlap. -/
theorem overlaps_of_early (hshort : ¬ numLt checkOut (some slot.startTimestamp))
    (hout : checkOut ≠ none) {b : TimelineBooking} (hb : 0 < b.duration)
    (hover : b.endTime ≤ slot.startTimestamp) (hearly : numLt checkIn (some b.endTime)) :
    overlaps checkIn checkOut b := by
  refine ⟨hearly, ?_⟩
  cases checkOut with
  | none => exact absurd rfl hout
  | some checkOutMs =>
    rw [numLt_some] at hshort ⊢
    unfold TimelineBooking.endTime at hover
    omega

theorem interval_checkOut {o : Opened} {form : Form} :
    (interval g o form).2 = none ↔ parseTimeFromInput g form.checkOut o.getBaseMs = none := by
  unfold interval
  dsimp only
  split
  · exact Option.map_eq_none_iff
  · exact Iff.rfl

/-- What the create mode accepts overlaps no booking exactly if the check-out is no time, or the check-in
is not before the end of any booking that is over when the slot begins. -/
theorem accepted_is_free_iff {today closeHour currentTime openHour : Int}
    {bookings : List TimelineBooking} (hbookings : ∀ b ∈ bookings, 0 < b.duration)
    (hslot : slot ∈ calculateFreeSlots g.offset today bookings closeHour currentTime openHour)
    {form : Form} {checked : Option Int × Option Int}
    (haccept : handleSubmit g (.slot tableId slot) form tableBookings = .ok checked) :
    (∀ b ∈ bookings, ¬ overlaps checked.1 checked.2 b) ↔
      parseTimeFromInput g form.checkOut (Opened.slot tableId slot).getBaseMs = none ∨
        ∀ b ∈ bookings, b.endTime ≤ slot.startTimestamp →
          ¬ numLt (parseTimeFromInput g form.checkIn (Opened.slot tableId slot).getBaseMs)
            (some b.endTime) := by
  obtain ⟨htyped, -, hwindow⟩ := handleSubmit_ok haccept
  obtain ⟨-, -, hshort, hend⟩ := windowError_slot hwindow
  have hin : checked.1 = parseTimeFromInput g form.checkIn (Opened.slot tableId slot).getBaseMs := by
    rw [htyped]
    rfl
  rw [← interval_checkOut, ← htyped, ← hin]
  constructor
  · intro hfree
    refine or_iff_not_imp_left.2 fun hout b hb hover hearly => ?_
    exact hfree b hb (overlaps_of_early hshort hout (hbookings b hb) hover hearly)
  · rintro (hnan | hbefore) b hb hoverlaps
    · have hstart := hoverlaps.2
      rw [hnan] at hstart
      exact hstart
    · rcases slot_beside_of_mem hslot hb with hlater | hover
      · exact not_overlaps_later hend hlater hoverlaps
      · exact hbefore b hb hover hoverlaps.1

/-- A day in Colombo, from nine in the morning to eleven at night, on which Ann's booking ends at half
past four. -/
def afterAnn : FreeSlot := ⟨1893495600000, 23400000⟩

theorem afterAnn_free :
    afterAnn ∈ calculateFreeSlots colombo.offset 1893470000000 [annsBooking] 23 1893470000000 9 := by
  decide

/-- From a quarter to five. -/
theorem accepted_is_free_after_ann :
    ¬ overlaps (some 1893496500000) (some 1893501000000) annsBooking := by
  have haccept : handleSubmit colombo (.slot 1 afterAnn)
      (edited colombo (.slot 1 afterAnn)
        [.player "Ben", .checkIn ⟨16, 45, by decide, by decide⟩, .checkOut ⟨18, 0, by decide, by decide⟩])
      [annsBooking] = .ok (some 1893496500000, some 1893501000000) := by decide +kernel
  refine (accepted_is_free_iff (by decide) afterAnn_free haccept).2 (.inr ?_) annsBooking
    List.mem_cons_self
  decide +kernel

/-- From twenty past four, ten minutes before Ann's booking ends. -/
theorem accepted_can_overlap :
    ¬ ∀ (g : Globals) (tableId today closeHour currentTime openHour : Int)
      (bookings : List TimelineBooking),
      ∀ slot ∈ calculateFreeSlots g.offset today bookings closeHour currentTime openHour,
      ∀ (edits : List Edit) (checked : Option Int × Option Int),
        handleSubmit g (.slot tableId slot) (edited g (.slot tableId slot) edits) bookings =
          .ok checked → ∀ b ∈ bookings, ¬ overlaps checked.1 checked.2 b := by
  intro hclaim
  have haccept : handleSubmit colombo (.slot 1 afterAnn)
      (edited colombo (.slot 1 afterAnn)
        [.player "Ben", .checkIn ⟨16, 20, by decide, by decide⟩, .checkOut ⟨18, 0, by decide, by decide⟩])
      [annsBooking] = .ok (some 1893495000000, some 1893501000000) := by decide +kernel
  exact absurd (hclaim colombo 1 1893470000000 23 1893470000000 9 [annsBooking] afterAnn afterAnn_free _ _
    haccept annsBooking List.mem_cons_self) (by decide)

end CreateBookingModal

end GbcVenue
