import GbcVenue.Frontend.BookingModal
import GbcVenue.Frontend.DateTimeText
import GbcVenue.Service.Effect

/-!
# An edit on its way to the store and back

`updateBooking` of `frontend/src/api/bookings.js`, the PATCH that it issues, and the mapping of
`frontend/src/pages/Bookings.jsx`. What the backend accepts comes back to the millisecond, but the
request has no field for the player and the mobile number: `edit_round_trip_iff`.
-/

namespace GbcVenue

open Interleaving GoTime JsDate BookingService

namespace BookingsApi

/-- The body of the PATCH; a field that is not set is absent. -/
structure PatchPayload where
  checkInTime : Option String
  checkOutTime : Option String
  amount : Option ℚ
  isPaid : Option Bool

/-- `updateBooking` (`bookings.js:18-36`) up to the request, on what the modal confirms, which has a
value in each field; `none` is the `RangeError` of `toISOString`. -/
def updateBooking (updatedData : CreateBookingModal.Confirmed) : Option PatchPayload := do
  let checkInTime ← toISOString updatedData.startTime
  let checkOutTime ← toISOString do
    return (← updatedData.startTime) + (← updatedData.duration)
  return ⟨some checkInTime, some checkOutTime, some updatedData.amount, some updatedData.paid⟩

/-- What `BodyParser` makes of the body (`booking_handler.go:75-96`). -/
def PatchPayload.input (payload : PatchPayload) : UpdateBookingInput where
  bookerName := none
  bookerMobile := none
  checkInTime := payload.checkInTime.getD ""
  checkOutTime := payload.checkOutTime.getD ""
  amount := payload.amount
  isPaid := payload.isPaid

end BookingsApi

namespace BookingsPage

/-- `b.bookerName || 'Unknown'`. -/
def playerOf (bookerName : String) : String := if bookerName = "" then "Unknown" else bookerName

/-- An element of `timelineBookings` (`Bookings.jsx:203-212`), from the JSON of a booking; `none` if that
cannot be written. -/
def timelineBooking (b : Booking) : Option TimelineBooking := do
  let startTime ← (marshalJSON b.checkInTime).bind dateParse
  let endTime ← (marshalJSON b.checkOutTime).bind dateParse
  return {
    bookingId := b.id
    tableId := b.tableID
    player := playerOf b.bookerName
    mobile := b.bookerMobile
    startTime := startTime
    duration := endTime - startTime
    amount := b.amount
    paid := b.isPaid }

end BookingsPage

open BookingsApi BookingsPage CreateBookingModal

/-- The page shows booking `d'`, stored in place of `d`, with the values of the edit, and what the modal
cannot change is as it was. -/
structure EditKept (edit : Confirmed) (d d' : BookingDoc) : Prop where
  shown : ∃ b, timelineBooking (docToBooking d') = some b ∧ b.player = edit.player ∧
    b.mobile = edit.mobile ∧ some b.startTime = edit.startTime ∧ some b.duration = edit.duration ∧
    b.amount = edit.amount ∧ b.paid = edit.paid
  id : d'.id = d.id
  tableID : d'.tableID = d.tableID
  status : d'.status = d.status
  createdBy : d'.createdBy = d.createdBy
  createdAt : d'.createdAt = d.createdAt

section

variable {edit : Confirmed} {payload : PatchPayload} {d : BookingDoc}

/-- The window that the backend reads is that of the edit, and can be shown again. -/
theorem requestedWindow_edit (hpayload : updateBooking edit = some payload)
    {window : Option (Int × Int)}
    (h : requestedWindow (docToBooking d) payload.input = .ok window) :
    ∃ newIn newOut, window = some (newIn, newOut) ∧
      edit.startTime = some (unixMilli newIn) ∧
      edit.duration = some (unixMilli newOut - unixMilli newIn) ∧
      (marshalJSON (ofUnixMilli (unixMilli newIn))).bind dateParse = some (unixMilli newIn) ∧
      (marshalJSON (ofUnixMilli (unixMilli newOut))).bind dateParse = some (unixMilli newOut) ∧
      payload.amount = some edit.amount ∧ payload.isPaid = some edit.paid := by
  obtain ⟨checkIn, hin, hrest⟩ := Option.bind_eq_some_iff.1 hpayload
  obtain ⟨checkOut, hout, hpay⟩ := Option.bind_eq_some_iff.1 hrest
  cases hpay
  have hin' := toISOString_ne_empty hin
  have hout' := toISOString_ne_empty hout
  rcases requestedWindow_cases h with ⟨hempty, -, -⟩ | ⟨newIn, newOut, rfl, -, hreadIn, hreadOut⟩
  · exact absurd hempty hin'
  · simp only [PatchPayload.input, Option.getD_some, hin', if_false] at hreadIn
    simp only [PatchPayload.input, Option.getD_some, hout', if_false] at hreadOut
    obtain ⟨hstart, hback⟩ := sent_time_back hin hreadIn
    obtain ⟨hend, hback'⟩ := sent_time_back hout hreadOut
    refine ⟨newIn, newOut, rfl, hstart, ?_, hback, hback', rfl, rfl⟩
    rw [hstart, Option.bind_eq_bind, Option.bind_some] at hend
    obtain ⟨duration, hduration, hsum⟩ := Option.bind_eq_some_iff.1 hend
    have hsum' := Option.some.inj hsum
    rw [hduration]
    exact congrArg some (by omega)

/-- What is shown of a booking after a PATCH that stored it. -/
theorem timelineBooking_updated {newIn newOut : Int}
    (hin : (marshalJSON (ofUnixMilli (unixMilli newIn))).bind dateParse = some (unixMilli newIn))
    (hout : (marshalJSON (ofUnixMilli (unixMilli newOut))).bind dateParse = some (unixMilli newOut))
    (hamount : payload.amount = some edit.amount) (hpaid : payload.isPaid = some edit.paid) :
    timelineBooking (docToBooking (updatedDoc d payload.input (some (newIn, newOut)))) = some
      { bookingId := d.id.hex
        tableId := d.tableID
        player := playerOf d.bookerName
        mobile := d.bookerMobile
        startTime := unixMilli newIn
        duration := unixMilli newOut - unixMilli newIn
        amount := edit.amount
        paid := edit.paid } := by
  simp only [timelineBooking, docToBooking, updatedDoc, docOf, updated, PatchPayload.input, hin, hout,
    hamount, hpaid, Option.getD_none, Option.getD_some, Option.bind_eq_bind, Option.bind_some,
    Option.pure_def]

/-- What a PATCH that succeeds has stored, as the page shows it. -/
theorem stored_edit {E : Env → Prop} {m m' : Timed World Int} {b : Booking}
    (hd : d ∈ m.state.bookings.docs) (hpayload : updateBooking edit = some payload)
    (h : Prog.Runs (backend E) 0 (BookingService.updateBooking d.id.hex payload.input) m (.ok b) m') :
    ∃ window startTime duration, edit.startTime = some startTime ∧ edit.duration = some duration ∧
      m'.state.bookings.find d.id = some (updatedDoc d payload.input window) ∧
      timelineBooking (docToBooking (updatedDoc d payload.input window)) = some
        { bookingId := d.id.hex
          tableId := d.tableID
          player := playerOf d.bookerName
          mobile := d.bookerMobile
          startTime := startTime
          duration := duration
          amount := edit.amount
          paid := edit.paid } := by
  have hstep := (runs_updateBooking (h.simulate (venue_simulates E))).store
  obtain ⟨d₁, hd₁, hid, -, window, hwindow, -, -, hstore⟩ := hstep.of_updated
  rw [ObjectID.objectIDFromHex_hex, Option.some.injEq] at hid
  obtain rfl := m.state.bookings.id_inj hd hd₁ hid
  obtain ⟨newIn, newOut, rfl, hstart, hduration, hin, hout, hamount, hpaid⟩ :=
    requestedWindow_edit hpayload hwindow
  refine ⟨_, _, _, hstart, hduration, ?_, timelineBooking_updated hin hout hamount hpaid⟩
  have hdocs : m'.state.bookings = _ := hstore
  rw [hdocs, BookingCollection.find_eq_some, BookingCollection.mem_replaceOne]
  exact ⟨.inl ⟨rfl, d, hd, rfl⟩, rfl⟩

/-- An edit is kept exactly if it leaves the player and the mobile number as the page shows them. -/
theorem edit_round_trip_iff {E : Env → Prop} {m m' : Timed World Int} {b : Booking}
    (hd : d ∈ m.state.bookings.docs) (hpayload : updateBooking edit = some payload)
    (h : Prog.Runs (backend E) 0 (BookingService.updateBooking d.id.hex payload.input) m (.ok b) m') :
    (∃ d', m'.state.bookings.find d.id = some d' ∧ EditKept edit d d') ↔
      edit.player = playerOf d.bookerName ∧ edit.mobile = d.bookerMobile := by
  obtain ⟨window, startTime, duration, hstart, hduration, hfind, hshown⟩ := stored_edit hd hpayload h
  rw [hfind]
  constructor
  · rintro ⟨d', hd', ⟨shown, hb, hplayer, hmobile, -⟩, -⟩
    obtain rfl := Option.some.inj hd'
    rw [hshown] at hb
    obtain rfl := Option.some.inj hb
    exact ⟨hplayer.symm, hmobile.symm⟩
  · rintro ⟨hplayer, hmobile⟩
    refine ⟨_, rfl, ⟨_, hshown, hplayer.symm, hmobile.symm, hstart.symm, hduration.symm, rfl, rfl⟩,
      rfl, updatedDoc_tableID d payload.input window, ?_, ?_, ?_⟩
    · exact updated_status (docToBooking d) payload.input window
    · cases window <;> rfl
    · cases window <;> exact unixMilli_ofUnixMilli d.createdAt

end

/-- Ann's booking is edited: an hour longer, paid, and under this name. -/
def editTo (player : String) : Confirmed :=
  ⟨1, player, "0", some 1893492000000, some 7200000, 120, true⟩

/-- The PATCH of that edit, served at half past ten. -/
def patchTo (player : String) : Option (Reply × Timed World Int) := do
  let payload ← updateBooking (editTo player)
  complete (List.replicate 30 halfPastTen)
    (BookingService.updateBooking (tenToEleven .active).id.hex payload.input)
    ⟨World.start ⟨[tenToEleven .active], nodup_tenToEleven _⟩ none 0, halfPastTen.now⟩

theorem exists_patch (player : String) (h : ((patchTo player).map fun p => p.1.isOk) = some true) :
    ∃ payload b m', updateBooking (editTo player) = some payload ∧
      Prog.Runs (backend fun _ => True) 0
        (BookingService.updateBooking (tenToEleven .active).id.hex payload.input)
        ⟨World.start ⟨[tenToEleven .active], nodup_tenToEleven _⟩ none 0, halfPastTen.now⟩
        (.ok b) m' := by
  obtain ⟨⟨r, m'⟩, hpatch, hok⟩ := Option.map_eq_some_iff.1 h
  unfold patchTo at hpatch
  obtain ⟨payload, hpayload, hrun⟩ := Option.bind_eq_some_iff.1 hpatch
  cases r with
  | error e => cases hok
  | ok b => exact ⟨payload, b, m', hpayload, runs_of_complete (fun _ _ => trivial) hrun⟩

/-- The name stays. -/
theorem edit_round_trip_longer : ∃ (m' : Timed World Int) (d' : BookingDoc),
    m'.state.bookings.find (tenToEleven .active).id = some d' ∧
      EditKept (editTo "Ann") (tenToEleven .active) d' := by
  obtain ⟨payload, b, m', hpayload, hrun⟩ := exists_patch "Ann" (by decide +kernel)
  exact ⟨m', (edit_round_trip_iff List.mem_cons_self hpayload hrun).2 (by decide)⟩

/-- A new name is lost. -/
theorem edit_can_be_lost :
    ¬ ∀ (m m' : Timed World Int) (d : BookingDoc) (edit : Confirmed) (payload : PatchPayload)
      (b : Booking), d ∈ m.state.bookings.docs → updateBooking edit = some payload →
      Prog.Runs (backend fun _ => True) 0
        (BookingService.updateBooking d.id.hex payload.input) m (.ok b) m' →
      ∃ d', m'.state.bookings.find d.id = some d' ∧ EditKept edit d d' := by
  intro hclaim
  obtain ⟨payload, b, m', hpayload, hrun⟩ := exists_patch "Bob" (by decide +kernel)
  obtain ⟨d', hd', ⟨shown, hb, hplayer, -⟩, -⟩ :=
    hclaim _ m' _ (editTo "Bob") payload b List.mem_cons_self hpayload hrun
  obtain ⟨window, startTime, duration, -, -, hfind, hshown⟩ :=
    stored_edit List.mem_cons_self hpayload hrun
  obtain rfl := Option.some.inj (hd'.symm.trans hfind)
  obtain rfl := Option.some.inj (hb.symm.trans hshown)
  have hname : playerOf (tenToEleven .active).bookerName = (editTo "Bob").player := hplayer
  exact absurd hname (by decide)

end GbcVenue
