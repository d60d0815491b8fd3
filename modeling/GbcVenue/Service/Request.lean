import GbcVenue.Backend.Frame
import GbcVenue.Repository.CollectionProps

/-!
# Booking requests and their sequential meaning

`SpecStep` says what a booking request does to the store when nothing runs beside it: which reply it
may give, and the store it leaves. It has no mutexes, no clock and no cache. `faults` lists the
database failures that may happen.
-/

namespace GbcVenue

open Interleaving BookingService

/-- A write request of the HTTP API. -/
inductive Request
  | create (dto : CreateBookingInput) (createdBy role : String)
  | update (id : String) (dto : UpdateBookingInput)
  | cancel (id : String)

/-- What a request answers. -/
abbrev Reply := Except GoError Booking

/-- The program that serves a request. -/
def Request.program : Request → Go Reply
  | .create dto createdBy role => createBooking dto createdBy role
  | .update id dto => updateBooking id dto
  | .cancel id => cancelBooking id

/-- Why an update or a cancellation finds nothing to work on. -/
inductive Missed (faults : Option String → Prop) (c : BookingCollection) (id : String) :
    GoError → Prop
  | fetch {f : Option String} {e : GoError} (hf : faults f) (h : c.findByID f id = .error e) :
      Missed faults c id (.wrap "fetch booking" e)
  | none {f : Option String} (hf : faults f) (h : c.findByID f id = .ok none) :
      Missed faults c id notFound
  | cancelled {f : Option String} {b : Booking} (hf : faults f)
      (h : c.findByID f id = .ok (some b)) (hb : b.status = .cancelled) :
      Missed faults c id notFound
  | refetch {f : Option String} {e : GoError} {d : BookingDoc} (hf : faults f)
      (h : c.findByID f id = .error e) (hd : d ∈ c.docs) (hid : objectIDFromHex id = some d.id)
      (hl : d.live) : Missed faults c id notFound

/-- The overlap check of an update lets the window through. -/
def WindowFree (faults : Option String → Prop) (c : BookingCollection) (tableID : Int)
    (exclude : String) : Option (Int × Int) → Prop
  | none => True
  | some (newIn, newOut) => ∃ f, faults f ∧ c.hasOverlap f tableID newIn newOut exclude = .ok false

/-- The sequential meaning of a request. -/
inductive SpecStep (faults : Option String → Prop) :
    Request → BookingCollection → Reply → BookingCollection → Prop
  | createInvalid {c : BookingCollection} {dto : CreateBookingInput} {createdBy role : String}
      {e : GoError} (h : parseTimes dto.checkInTime dto.checkOutTime = .error e) :
      SpecStep faults (.create dto createdBy role) c (.error e) c
  | createInPast {c : BookingCollection} {dto : CreateBookingInput} {createdBy role : String}
      (h : role ≠ "admin") :
      SpecStep faults (.create dto createdBy role) c (.error staffInPast) c
  | createUnchecked {c : BookingCollection} {dto : CreateBookingInput} {createdBy role : String}
      {checkIn checkOut duration : Int} {f : Option String} {e : GoError}
      (h : parseTimes dto.checkInTime dto.checkOutTime = .ok (checkIn, checkOut, duration))
      (hf : faults f) (ho : c.hasOverlap f dto.tableID checkIn checkOut "" = .error e) :
      SpecStep faults (.create dto createdBy role) c (.error (.wrap "overlap check" e)) c
  | createConflict {c : BookingCollection} {dto : CreateBookingInput} {createdBy role : String}
      {checkIn checkOut duration : Int} {f : Option String}
      (h : parseTimes dto.checkInTime dto.checkOutTime = .ok (checkIn, checkOut, duration))
      (hf : faults f) (ho : c.hasOverlap f dto.tableID checkIn checkOut "" = .ok true) :
      SpecStep faults (.create dto createdBy role) c (.error (alreadyBooked dto.tableID)) c
  | createFailed {c : BookingCollection} {dto : CreateBookingInput} {createdBy role : String}
      {checkIn checkOut duration now : Int} {f : Option String} {oid : ObjectID} {t : Int}
      {e : GoError}
      (h : parseTimes dto.checkInTime dto.checkOutTime = .ok (checkIn, checkOut, duration))
      (hf : faults f) (hc : (c.create f oid t
        (newBooking dto createdBy checkIn checkOut duration now)).1 = .error e) :
      SpecStep faults (.create dto createdBy role) c (.error (.wrap "create booking" e)) c
  | created {c c' : BookingCollection} {dto : CreateBookingInput} {createdBy role : String}
      {checkIn checkOut duration now : Int} {f : Option String} {oid : ObjectID} {t : Int}
      {id : String}
      (h : parseTimes dto.checkInTime dto.checkOutTime = .ok (checkIn, checkOut, duration))
      (ho : c.overlapping dto.tableID checkIn checkOut (objectIDFromHex "") = false) (hf : faults f)
      (hc : c.create f oid t (newBooking dto createdBy checkIn checkOut duration now) =
        (.ok id, c')) :
      SpecStep faults (.create dto createdBy role) c
        (.ok ((newBooking dto createdBy checkIn checkOut duration now).withID id)) c'
  | updateMissed {c : BookingCollection} {id : String} {dto : UpdateBookingInput} {e : GoError}
      (h : Missed faults c id e) : SpecStep faults (.update id dto) c (.error e) c
  | updateInvalid {c : BookingCollection} {id : String} {dto : UpdateBookingInput} {e : GoError}
      {d : BookingDoc} (hd : d ∈ c.docs) (hid : objectIDFromHex id = some d.id) (hl : d.live)
      (h : requestedWindow (docToBooking d) dto = .error e) :
      SpecStep faults (.update id dto) c (.error e) c
  | updateUnchecked {c : BookingCollection} {id : String} {dto : UpdateBookingInput}
      {d : BookingDoc} {newIn newOut : Int} {f : Option String} {e : GoError}
      (hd : d ∈ c.docs) (hid : objectIDFromHex id = some d.id) (hl : d.live)
      (h : requestedWindow (docToBooking d) dto = .ok (some (newIn, newOut)))
      (hf : faults f) (ho : c.hasOverlap f d.tableID newIn newOut id = .error e) :
      SpecStep faults (.update id dto) c (.error (.wrap "overlap check" e)) c
  | updateConflict {c : BookingCollection} {id : String} {dto : UpdateBookingInput}
      {d : BookingDoc} {newIn newOut : Int} {f : Option String}
      (hd : d ∈ c.docs) (hid : objectIDFromHex id = some d.id) (hl : d.live)
      (h : requestedWindow (docToBooking d) dto = .ok (some (newIn, newOut)))
      (hf : faults f) (ho : c.hasOverlap f d.tableID newIn newOut id = .ok true) :
      SpecStep faults (.update id dto) c (.error (alreadyBookedInWindow d.tableID)) c
  | updateFailed {c : BookingCollection} {id : String} {dto : UpdateBookingInput}
      {d : BookingDoc} {window : Option (Int × Int)} {e : String}
      (hd : d ∈ c.docs) (hid : objectIDFromHex id = some d.id) (hl : d.live)
      (h : requestedWindow (docToBooking d) dto = .ok window)
      (hw : WindowFree faults c d.tableID id window) (hf : faults (some e)) :
      SpecStep faults (.update id dto) c (.error (.wrap "save booking" (.text e))) c
  | updated {c : BookingCollection} {id : String} {dto : UpdateBookingInput} {d : BookingDoc}
      {window : Option (Int × Int)}
      (hd : d ∈ c.docs) (hid : objectIDFromHex id = some d.id) (hl : d.live)
      (h : requestedWindow (docToBooking d) dto = .ok window)
      (hw : WindowFree faults c d.tableID id window) :
      SpecStep faults (.update id dto) c (.ok (updated (docToBooking d) dto window))
        (c.replaceOne (docOf d.id (updated (docToBooking d) dto window)))
  | cancelMissed {c : BookingCollection} {id : String} {e : GoError} (h : Missed faults c id e) :
      SpecStep faults (.cancel id) c (.error e) c
  | cancelFailed {c : BookingCollection} {id : String} {d : BookingDoc} {e : String}
      (hd : d ∈ c.docs) (hid : objectIDFromHex id = some d.id) (hl : d.live)
      (hf : faults (some e)) :
      SpecStep faults (.cancel id) c (.error (.wrap "save cancelled booking" (.text e))) c
  | cancelled {c : BookingCollection} {id : String} {d : BookingDoc}
      (hd : d ∈ c.docs) (hid : objectIDFromHex id = some d.id) (hl : d.live) :
      SpecStep faults (.cancel id) c (.ok (BookingService.cancelled (docToBooking d)))
        (c.replaceOne (docOf d.id (BookingService.cancelled (docToBooking d))))

/-! ## Properties of the sequential steps -/

theorem updated_id (b : Booking) (dto : UpdateBookingInput) (window : Option (Int × Int)) :
    (updated b dto window).id = b.id := by cases window <;> rfl

theorem updated_tableID (b : Booking) (dto : UpdateBookingInput) (window : Option (Int × Int)) :
    (updated b dto window).tableID = b.tableID := by cases window <;> rfl

theorem updated_status (b : Booking) (dto : UpdateBookingInput) (window : Option (Int × Int)) :
    (updated b dto window).status = b.status := by cases window <;> rfl

theorem updated_none_times (b : Booking) (dto : UpdateBookingInput) :
    (updated b dto none).checkInTime = b.checkInTime ∧
      (updated b dto none).checkOutTime = b.checkOutTime := ⟨rfl, rfl⟩

theorem updated_some_times (b : Booking) (dto : UpdateBookingInput) (newIn newOut : Int) :
    (updated b dto (some (newIn, newOut))).checkInTime = newIn ∧
      (updated b dto (some (newIn, newOut))).checkOutTime = newOut := ⟨rfl, rfl⟩

/-- A request leaves the times or names a window, of which each end is read or as before. -/
theorem requestedWindow_cases {fresh : Booking} {dto : UpdateBookingInput}
    {window : Option (Int × Int)} (h : requestedWindow fresh dto = .ok window) :
    (dto.checkInTime = "" ∧ dto.checkOutTime = "" ∧ window = none) ∨
      ∃ newIn newOut, window = some (newIn, newOut) ∧ newIn < newOut ∧
        (if dto.checkInTime = "" then some fresh.checkInTime
          else GoTime.parseRFC3339 dto.checkInTime) = some newIn ∧
        (if dto.checkOutTime = "" then some fresh.checkOutTime
          else GoTime.parseRFC3339 dto.checkOutTime) = some newOut := by
  unfold requestedWindow at h
  split at h
  · rename_i hnone
    cases h
    exact .inl ⟨hnone.2, hnone.1, rfl⟩
  · split at h
    · cases h
    · rename_i newIn hin
      split at h
      · cases h
      · rename_i newOut hout
        split at h
        · rename_i hlt
          cases h
          exact .inr ⟨newIn, newOut, rfl, hlt, hin, hout⟩
        · cases h

/-- Malformed times are answered with 400, and not with the message of the temporal check. -/
theorem validation_of_parseTimes {checkIn checkOut : String} {e : GoError}
    (h : parseTimes checkIn checkOut = .error e) :
    ∃ message, e = .validation 400 message ∧ e ≠ staffInPast := by
  unfold parseTimes at h
  split at h
  · cases h
    exact ⟨_, rfl, by simp [staffInPast]⟩
  · split at h
    · cases h
      exact ⟨_, rfl, by simp [staffInPast]⟩
    · dsimp only at h
      split at h
      · cases h
        exact ⟨_, rfl, by simp [staffInPast]⟩
      · cases h

/-- The document an update stores, on the record `d` and the request `dto` with this window. -/
def updatedDoc (d : BookingDoc) (dto : UpdateBookingInput) (window : Option (Int × Int)) :
    BookingDoc :=
  docOf d.id (updated (docToBooking d) dto window)

@[simp] theorem updatedDoc_id (d : BookingDoc) (dto : UpdateBookingInput)
    (window : Option (Int × Int)) : (updatedDoc d dto window).id = d.id := rfl

@[simp] theorem updatedDoc_tableID (d : BookingDoc) (dto : UpdateBookingInput)
    (window : Option (Int × Int)) : (updatedDoc d dto window).tableID = d.tableID :=
  updated_tableID (docToBooking d) dto window

theorem updatedDoc_live {d : BookingDoc} {dto : UpdateBookingInput}
    {window : Option (Int × Int)} (hl : d.live) : (updatedDoc d dto window).live := by
  have hstatus := updated_status (docToBooking d) dto window
  rw [BookingDoc.live_iff] at hl ⊢
  rw [← hl]
  exact hstatus

/-- What an update that succeeds has found, answers and leaves. -/
theorem SpecStep.of_updated {faults : Option String → Prop} {c c' : BookingCollection} {id : String}
    {dto : UpdateBookingInput} {b : Booking} (h : SpecStep faults (.update id dto) c (.ok b) c') :
    ∃ d ∈ c.docs, objectIDFromHex id = some d.id ∧ d.live ∧ ∃ window,
      requestedWindow (docToBooking d) dto = .ok window ∧
      WindowFree faults c d.tableID id window ∧
      b = BookingService.updated (docToBooking d) dto window ∧
      c' = c.replaceOne (updatedDoc d dto window) := by
  generalize hreply : (Except.ok b : Reply) = r at h
  cases h with
  | updated hd hid hl hwindow hfree =>
    exact ⟨_, hd, hid, hl, _, hwindow, hfree, Except.ok.inj hreply, rfl⟩
  | _ => cases hreply

theorem hasOverlap_eq_ok {c : BookingCollection} {f : Option String} {tableID checkIn checkOut : Int}
    {exclude : String} {b : Bool} (h : c.hasOverlap f tableID checkIn checkOut exclude = .ok b) :
    c.overlapping tableID checkIn checkOut (objectIDFromHex exclude) = b := by
  unfold BookingCollection.hasOverlap at h
  split at h
  · cases h
  · simpa using h

/-- The window an update leaves a booking with is free among the other bookings of its table. -/
theorem WindowFree.free {faults : Option String → Prop} {c : BookingCollection} {id : String}
    {dto : UpdateBookingInput} {d : BookingDoc} {window : Option (Int × Int)}
    (hc : c.NoDoubleBooking) (hd : d ∈ c.docs) (hid : objectIDFromHex id = some d.id) (hl : d.live)
    (hw : WindowFree faults c d.tableID id window) :
    ∀ e ∈ c.docs, e.id ≠ d.id → e.tableID = d.tableID → e.live →
      e.checkOutTime ≤ (docOf d.id (updated (docToBooking d) dto window)).checkInTime ∨
        (docOf d.id (updated (docToBooking d) dto window)).checkOutTime ≤ e.checkInTime := by
  intro e he hne ht hel
  cases window with
  | none =>
    have := hc e he d hd hne ht hel hl
    simpa [docOf, updated_none_times, docToBooking] using this
  | some window =>
    obtain ⟨newIn, newOut⟩ := window
    obtain ⟨f, -, ho⟩ := hw
    have hfree := BookingCollection.overlapping_eq_false.1 (hasOverlap_eq_ok ho) e he ht hel
    rw [hid] at hfree
    exact hfree (by simpa using hne)

/-- A creation that is answered with an id has stored the booking under it. -/
theorem created_docs {c c' : BookingCollection} {f : Option String} {oid : ObjectID} {stamp : Int}
    {dto : CreateBookingInput} {createdBy id : String} {checkIn checkOut duration now : Int}
    (h : c.create f oid stamp (newBooking dto createdBy checkIn checkOut duration now) =
      (.ok id, c')) :
    id = oid.hex ∧ c'.docs = c.docs ++ [BookingCollection.newDoc oid stamp
      (newBooking dto createdBy checkIn checkOut duration now)] ∧ ∀ d ∈ c.docs, d.id ≠ oid := by
  rcases c.create_cases f oid stamp
    (b := newBooking dto createdBy checkIn checkOut duration now) rfl with
    ⟨e, he⟩ | ⟨c₁, hcreated, hdocs, hfresh⟩
  · rw [he] at h
    cases h
  · rw [hcreated] at h
    cases h
    exact ⟨rfl, hdocs, hfresh⟩

/-- Every sequential step keeps the store without double bookings. -/
theorem SpecStep.noDoubleBooking {faults : Option String → Prop} {req : Request}
    {c c' : BookingCollection} {r : Reply} (h : SpecStep faults req c r c')
    (hc : c.NoDoubleBooking) : c'.NoDoubleBooking := by
  cases h with
  | created h ho hf hcreate =>
    obtain ⟨-, hdocs, -⟩ := created_docs hcreate
    refine hc.append hdocs fun e he ht hel => ?_
    rw [BookingCollection.newDoc_checkInTime, BookingCollection.newDoc_checkOutTime]
    have hempty : objectIDFromHex "" = none := by decide
    rw [hempty] at ho
    exact BookingCollection.overlapping_eq_false.1 ho e he
      (by rw [ht, BookingCollection.newDoc_tableID]; rfl) hel nofun
  | updated hd hid hl h hw =>
    refine hc.replaceOne fun _ e he hne ht hel => ?_
    exact hw.free hc hd hid hl e he hne (by rw [ht, docOf, updated_tableID]; rfl) hel
  | cancelled hd hid hl =>
    refine hc.replaceOne fun hlive => ?_
    simp [BookingDoc.live, docOf, BookingService.cancelled] at hlive
  | _ => exact hc

/-! ## A sample -/

/-- A booking of table 1 from ten to eleven. -/
def tenToEleven (status : BookingStatus) : BookingDoc :=
  ⟨.ofNat 7, 1, "Ann", "0", 1893492000000, 1893495600000, 60, 0, false, status, "ann", 0⟩

theorem nodup_tenToEleven (status : BookingStatus) :
    ([tenToEleven status].map BookingDoc.id).Nodup :=
  List.nodup_singleton _

/-- Half past ten, with timer 0 the one to fire. -/
def halfPastTen : Env := ⟨GoTime.ofUnixMilli 1893493800000, .zero, none, 0⟩

/-- The booking from ten to eleven as the cache shows it. -/
def shownTenToEleven : CurrentBooking := currentBookingOf (docToBooking (tenToEleven .active))

/-- A request for an update of nothing but a new check-out. -/
def untilCheckOut (checkOutTime : String) : UpdateBookingInput :=
  ⟨none, none, "", checkOutTime, none, none⟩

/-- A request for table 1 from ten to eleven. -/
def askTenToEleven : CreateBookingInput :=
  ⟨1, "Ann", "0", "2030-01-01T10:00:00Z", "2030-01-01T11:00:00Z", 0, false⟩

/-- Nine o'clock, with the object id of the sample the next one. -/
def nineOClock : Env := ⟨GoTime.ofUnixMilli 1893488400000, .ofNat 7, none, 0⟩

/-- Eleven o'clock, with timer 0 the one to fire. -/
def elevenOClock : Env := ⟨GoTime.ofUnixMilli 1893495600000, .zero, none, 0⟩

end GbcVenue
