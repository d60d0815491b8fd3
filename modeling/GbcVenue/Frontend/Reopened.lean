import GbcVenue.Frontend.BookingForm
import GbcVenue.Frontend.EditBooking
import GbcVenue.Server.Replies

/-!
# A form that is filled in and opened again

`createBooking` of `frontend/src/api/bookings.js` and the POST that it issues, after which the booking
is drawn from the timeline and opened in the modal once more. `created_form_reopens`: what opens is the
form that was filled in. `edited_form_reopens` is the same of an edit, but for the player and the mobile
number, which the PATCH does not carry.
-/

namespace GbcVenue

open Interleaving GoTime JsDate TimelineUtils TimelineRow BookingService CreateBookingModal
  BookingsPage Server

namespace BookingsApi

/-- `createBooking` (`bookings.js:3-16`) up to the request, as its body is parsed; `none` is the
`RangeError` of `toISOString`. -/
def createBooking (bookingData : Confirmed) : Option BookingHandler.CreateBody := do
  let checkInTime ← toISOString bookingData.startTime
  let checkOutTime ← toISOString do
    return (← bookingData.startTime) + (← bookingData.duration)
  return ⟨bookingData.tableId, bookingData.player, bookingData.mobile, checkInTime, checkOutTime,
    bookingData.amount, bookingData.paid⟩

end BookingsApi

open BookingsApi

/-- The timeline draws `b` with the values of `c`. -/
structure DrawnAs (c : Confirmed) (b : TimelineBooking) : Prop where
  startTime : c.startTime = some b.startTime
  duration : c.duration = some b.duration
  amount : b.amount = c.amount
  paid : b.paid = c.paid

/-! ## The request -/

section

variable {E : Env → Prop} {m m' : Timed World Int} {i : Nat} {c : Confirmed}
  {body : BookingHandler.CreateBody}

/-- What the body says of the booking besides its times. -/
theorem fields_created (hbody : createBooking c = some body) :
    body.tableID = c.tableId ∧ body.bookerName = c.player ∧ body.bookerMobile = c.mobile ∧
      body.amount = c.amount ∧ body.isPaid = c.paid := by
  obtain ⟨checkInTime, -, hrest⟩ := Option.bind_eq_some_iff.1 hbody
  obtain ⟨checkOutTime, -, hpay⟩ := Option.bind_eq_some_iff.1 hrest
  cases hpay
  exact ⟨rfl, rfl, rfl, rfl, rfl⟩

theorem name_of_accepted (h : body.refusal = none) : body.bookerName ≠ "" := by
  intro hempty
  unfold BookingHandler.CreateBody.refusal at h
  rw [hempty] at h
  split at h
  · cases h
  · rw [if_pos rfl] at h
    cases h

/-- The window that the backend reads is the one that was confirmed, and can be shown. -/
theorem parseTimes_created {checkIn checkOut duration : Int} (hbody : createBooking c = some body)
    (h : parseTimes body.checkInTime body.checkOutTime = .ok (checkIn, checkOut, duration)) :
    c.startTime = some (unixMilli checkIn) ∧
      c.duration = some (unixMilli checkOut - unixMilli checkIn) ∧
      (marshalJSON (ofUnixMilli (unixMilli checkIn))).bind dateParse = some (unixMilli checkIn) ∧
      (marshalJSON (ofUnixMilli (unixMilli checkOut))).bind dateParse = some (unixMilli checkOut) := by
  obtain ⟨checkInTime, hin, hrest⟩ := Option.bind_eq_some_iff.1 hbody
  obtain ⟨checkOutTime, hout, hpay⟩ := Option.bind_eq_some_iff.1 hrest
  cases hpay
  obtain ⟨hreadIn, hreadOut, -, -⟩ := parseTimes_eq_ok h
  obtain ⟨hstart, hback⟩ := sent_time_back hin hreadIn
  obtain ⟨hend, hback'⟩ := sent_time_back hout hreadOut
  refine ⟨hstart, ?_, hback, hback'⟩
  rw [hstart, Option.bind_eq_bind, Option.bind_some] at hend
  obtain ⟨d, hd, hsum⟩ := Option.bind_eq_some_iff.1 hend
  have hsum' := Option.some.inj hsum
  rw [hd]
  exact congrArg some (by omega)

/-- What is drawn of a booking that a POST has inserted. -/
theorem timelineBooking_newDoc {oid : ObjectID} {stamp : Int} {b : Booking} {startTime endTime : Int}
    (hin : (marshalJSON (ofUnixMilli (unixMilli b.checkInTime))).bind dateParse = some startTime)
    (hout : (marshalJSON (ofUnixMilli (unixMilli b.checkOutTime))).bind dateParse = some endTime) :
    timelineBooking (docToBooking (BookingCollection.newDoc oid stamp b)) = some
      { bookingId := oid.hex
        tableId := b.tableID
        player := playerOf b.bookerName
        mobile := b.bookerMobile
        startTime := startTime
        duration := endTime - startTime
        amount := b.amount
        paid := b.isPaid } := by
  have hdoc : timelineBooking (docToBooking (BookingCollection.newDoc oid stamp b)) =
      timelineBooking (docToBooking (docOf oid b)) := by
    unfold BookingCollection.newDoc
    split <;> rfl
  rw [hdoc]
  simp only [timelineBooking, docToBooking, docOf, hin, hout, Option.bind_eq_bind, Option.bind_some,
    Option.pure_def]

/-- What a POST that is answered with a booking has inserted, and how that is drawn. -/
theorem drawn_create {user : AuthUser} {b : Booking} (hbody : createBooking c = some body)
    (h : Prog.Runs (backend E) i (BookingHandler.create user (some body)) m ⟨201, .booking b⟩ m') :
    ∃ d shown, m'.state.bookings.docs = m.state.bookings.docs ++ [d] ∧ d.live ∧
      timelineBooking (docToBooking d) = some shown ∧ shown.bookingId = d.id.hex ∧
      shown.tableId = c.tableId ∧ shown.player = c.player ∧ shown.mobile = c.mobile ∧
      DrawnAs c shown := by
  unfold BookingHandler.create at h
  dsimp only at h
  split at h
  · obtain ⟨hreply, -⟩ := Prog.runs_ret.1 h
    cases hreply
  · rename_i haccepted
    obtain ⟨r, m₁, hrun, hret⟩ := Prog.runs_bind.1 h
    obtain ⟨hreply, rfl⟩ := Prog.runs_ret.1 hret
    cases r with
    | error e =>
      rw [BookingHandler.respondWith, handleSvcError_eq, HttpReply.mk.injEq] at hreply
      cases hreply.2
    | ok b' =>
      cases hreply
      obtain ⟨hstep, -⟩ := effect_of_run (.create body.input user.email user.role) hrun
      obtain ⟨checkIn, checkOut, duration, made, oid, stamp, htimes, -, rfl, hdocs⟩ :=
        stored_of_created hstep
      obtain ⟨hstart, hlength, hin, hout⟩ := parseTimes_created hbody htimes
      obtain ⟨htable, hname, hmobile, hamount, hpaid⟩ := fields_created hbody
      refine ⟨_, _, hdocs, ?_, timelineBooking_newDoc hin hout, ?_, htable, ?_, hmobile,
        hstart, hlength, hamount, hpaid⟩
      · rw [BookingDoc.live, BookingCollection.newDoc_status]
        rfl
      · rw [BookingCollection.newDoc_id]
      · exact (if_neg (name_of_accepted haccepted)).trans hname

end

/-! ## The form -/

section

variable {g : Globals} {o : Opened} {form : Form} {startOfDay durMins : Int} {checkIn : ClockTime}
  {b : TimelineBooking}

/-- A booking that is drawn lies in the range of `Date`. -/
theorem base_of_drawn {stored : Booking} (h : timelineBooking stored = some b) :
    -8639999000000000 ≤ b.startTime ∧ b.startTime ≤ 8639999000000000 := by
  obtain ⟨startTime, hstart, hrest⟩ := Option.bind_eq_some_iff.1 h
  obtain ⟨endTime, -, hb⟩ := Option.bind_eq_some_iff.1 hrest
  cases hb
  obtain ⟨s, hmarshal, hparse⟩ := Option.bind_eq_some_iff.1 hstart
  rw [dateParse_marshalJSON hmarshal] at hparse
  rw [timeClip_eq_some hparse]
  unfold marshalJSON at hmarshal
  split at hmarshal
  · rename_i hyear
    have hday : Timeutil.operationalDay 0 0 stored.checkInTime =
        unix stored.checkInTime / 86400 := by
      rw [Timeutil.operationalDay, Int.add_zero, Int.sub_zero]
    have hbounds := @unixMilli_bounds 0 0 stored.checkInTime (by decide) (by decide)
    rw [hday] at hbounds
    exact hbounds hyear.1 (hyear.2.trans (by decide))
  · cases hmarshal

/-- What the form confirms, when its texts are in step. -/
theorem confirmed_times (hrange : InRange g o.getBaseMs startOfDay) (h : Shows form checkIn durMins)
    (hpos : 0 < durMins) :
    (handleConfirm g o form).startTime = some (inputTime g startOfDay checkIn) ∧
      (handleConfirm g o form).duration = some (durMins * 60000) := by
  constructor
  · rw [← parse_text hrange, ← h.checkIn]
    rfl
  · simp only [handleConfirm, h.duration]
    split
    · rename_i hnone
      cases hnone
    · rename_i hzero
      cases hzero
      omega
    · rename_i hsome
      cases hsome
      rfl

/-- The modal opened on `b` shows the times of `form`, the amount as it was understood and the paid flag,
and confirms the same times. -/
structure Reopens (g : Globals) (o : Opened) (form : Form) (b : TimelineBooking) : Prop where
  times : ((Opened.existingBooking b).form g).times = form.times
  amount : ((Opened.existingBooking b).form g).amount = g.amountText (g.parseAmount form.amount)
  isPaid : ((Opened.existingBooking b).form g).isPaid = form.isPaid
  startTime : (handleConfirm g (.existingBooking b) ((Opened.existingBooking b).form g)).startTime =
    (handleConfirm g o form).startTime
  duration : (handleConfirm g (.existingBooking b) ((Opened.existingBooking b).form g)).duration =
    (handleConfirm g o form).duration

theorem times_eq {form' : Form} (hin : form'.checkIn = form.checkIn)
    (hout : form'.checkOut = form.checkOut) (hduration : form'.durationMins = form.durationMins) :
    form'.times = form.times := by
  rw [Form.times, hin, hout, hduration]
  rfl

/-- A form whose texts are in step opens with the same times again. -/
theorem reopens_of_drawn (hopen : 0 ≤ g.openHour ∧ g.openHour < 24)
    (hrange : InRange g o.getBaseMs startOfDay) (h : Shows form checkIn durMins)
    (hpos : 0 < durMins) (hlt : durMins < 24 * 60)
    (hout : form.checkOut = (clockOf (minuteOf checkIn + durMins)).text)
    (hdrawn : DrawnAs (handleConfirm g o form) b)
    (hbase : -8639999000000000 ≤ b.startTime ∧ b.startTime ≤ 8639999000000000) :
    Reopens g o form b := by
  obtain ⟨hconfirmed, hconfirmed'⟩ := confirmed_times hrange h hpos
  have hstart : b.startTime = inputTime g startOfDay checkIn :=
    Option.some.inj (hdrawn.startTime.symm.trans hconfirmed)
  have hduration : b.duration = durMins * 60000 :=
    Option.some.inj (hdrawn.duration.symm.trans hconfirmed')
  have hin : formatTimeForInput g (some b.startTime) = form.checkIn := by
    have hshow := format_inputTime hrange checkIn (d := 0) (by omega)
    rw [Int.zero_mul, Int.add_zero, Int.add_zero, clockOf_minuteOf, ← hstart] at hshow
    rw [hshow, h.checkIn]
  have hout' : formatTimeForInput g (some (b.startTime + b.duration)) = form.checkOut := by
    rw [hstart, hduration, hout]
    exact format_inputTime hrange checkIn (by omega)
  have hminutes : some ((b.duration + 30000) / 60000) = form.durationMins := by
    rw [h.duration, hduration]
    exact congrArg some (by omega)
  have htimes : ((Opened.existingBooking b).form g).times = form.times := times_eq hin hout' hminutes
  -- on the way back the check-in is understood on the day of the booking itself
  obtain ⟨startOfDay', hrange', hday⟩ := inRange_of_hour hopen hbase
  have halign : localTime g.offset b.startTime % 60000 = 0 := by
    rw [hstart]
    simp only [localTime, inputTime, msPerDay]
    split <;> omega
  have hback : inputTime g startOfDay' checkIn = b.startTime := by
    have hclock := inputTime_clock hopen halign hday
    have htext : (clockOf (localTime g.offset b.startTime / 60000)).text = checkIn.text := by
      rw [← formatTimeForInput_eq (timeClip_of_le (by omega) (by omega)), hin, h.checkIn]
    rwa [text_inj htext] at hclock
  obtain ⟨hagain, hagain'⟩ :=
    confirmed_times (o := .existingBooking b) hrange' (h.of_times htimes) hpos
  refine ⟨htimes, congrArg g.amountText hdrawn.amount, hdrawn.paid, ?_, ?_⟩
  · rw [hagain, hback, hdrawn.startTime]
  · rw [hagain', hconfirmed']

/-! ## There and back -/

/-- Every timeline that `b` touches lists it. -/
def OnTimelines (c : BookingCollection) (b : TimelineBooking) : Prop :=
  ∀ start stop bs, c.findTimeline none start stop = .ok bs → b.startTime < unixMilli stop →
    unixMilli start < b.startTime + b.duration → ∃ stored ∈ bs, timelineBooking stored = some b

theorem fields_of_drawn {stored : Booking} (h : timelineBooking stored = some b) :
    b.bookingId = stored.id ∧ b.tableId = stored.tableID ∧ b.player = playerOf stored.bookerName ∧
      b.mobile = stored.bookerMobile := by
  obtain ⟨startTime, -, hrest⟩ := Option.bind_eq_some_iff.1 h
  obtain ⟨endTime, -, hb⟩ := Option.bind_eq_some_iff.1 hrest
  cases hb
  exact ⟨rfl, rfl, rfl, rfl⟩

theorem times_of_drawn {d : BookingDoc} (h : timelineBooking (docToBooking d) = some b) :
    b.startTime = d.checkInTime ∧ b.startTime + b.duration = d.checkOutTime := by
  obtain ⟨startTime, hstart, hrest⟩ := Option.bind_eq_some_iff.1 h
  obtain ⟨endTime, hend, hb⟩ := Option.bind_eq_some_iff.1 hrest
  cases hb
  have hread : ∀ ms t, (marshalJSON (ofUnixMilli ms)).bind dateParse = some t → t = ms := by
    intro ms t hread
    obtain ⟨s, hmarshal, hparse⟩ := Option.bind_eq_some_iff.1 hread
    rw [dateParse_marshalJSON hmarshal, unixMilli_ofUnixMilli] at hparse
    exact timeClip_eq_some hparse
  refine ⟨hread _ _ hstart, ?_⟩
  have hend' := hread _ _ hend
  dsimp only
  omega

theorem onTimelines_of_mem {c : BookingCollection} {d : BookingDoc} (hd : d ∈ c.docs) (hlive : d.live)
    (h : timelineBooking (docToBooking d) = some b) : OnTimelines c b := by
  intro start stop bs hbs hstop hstart
  obtain ⟨hin, hout⟩ := times_of_drawn h
  rw [hin] at hstop
  rw [hout] at hstart
  unfold BookingCollection.findTimeline at hbs
  obtain rfl := Except.ok.inj hbs
  refine ⟨docToBooking d, List.mem_map_of_mem ?_, h⟩
  rw [List.mem_mergeSort, List.mem_filter]
  exact ⟨hd, decide_eq_true ⟨hlive, hstop, hstart⟩⟩

end

section

variable {E : Env → Prop} {m m' : Timed World Int} {g : Globals} {edits : List Edit} {durMins : Int}

/-- What the modal shows of a free slot after any edits, confirmed and answered with a booking, is
drawn under the form's table, player and mobile number, and opens as the form it was. -/
theorem created_form_reopens {tableId : Int} {slot : FreeSlot} {i : Nat} {user : AuthUser}
    {stored : Booking} {body : BookingHandler.CreateBody}
    (hopen : 0 ≤ g.openHour ∧ g.openHour < 24)
    (hbase : -8639999000000000 ≤ slot.startTimestamp ∧ slot.startTimestamp ≤ 8639999000000000)
    (hdur : (edited g (.slot tableId slot) edits).durationMins = some durMins)
    (hpos : 0 < durMins) (hlt : durMins < 24 * 60)
    (hbody : createBooking (handleConfirm g (.slot tableId slot)
      (edited g (.slot tableId slot) edits)) = some body)
    (hserved : Prog.Runs (backend E) i (BookingHandler.create user (some body)) m
      ⟨201, .booking stored⟩ m') :
    ∃ d b, m'.state.bookings.docs = m.state.bookings.docs ++ [d] ∧
      timelineBooking (docToBooking d) = some b ∧ b.bookingId = d.id.hex ∧ b.tableId = tableId ∧
      b.player = (edited g (.slot tableId slot) edits).player ∧
      b.mobile = (edited g (.slot tableId slot) edits).mobile ∧
      Reopens g (.slot tableId slot) (edited g (.slot tableId slot) edits) b ∧
      OnTimelines m'.state.bookings b := by
  obtain ⟨startOfDay, hrange, -⟩ := inRange_of_hour hopen hbase
  obtain ⟨d, b, hdocs, hlive, hshown, hid, htable, hplayer, hmobile, hdrawn⟩ :=
    drawn_create hbody hserved
  obtain ⟨_, hform⟩ := form_shows (o := .slot tableId slot) hrange
  obtain ⟨checkIn, durMins', hshows⟩ : ∃ checkIn durMins',
      Shows (edited g (.slot tableId slot) edits) checkIn durMins' :=
    foldl_shows (o := .slot tableId slot) hrange _ _ _ hform
  obtain rfl := Option.some.inj (hdur.symm.trans hshows.duration)
  have hout := (edited_checkOut_iff (o := .slot tableId slot) hrange hshows hpos hlt).2
    fun _ => trivial
  have hmem : d ∈ m'.state.bookings.docs := by
    rw [hdocs]
    exact List.mem_append_right _ (List.mem_singleton.2 rfl)
  exact ⟨d, b, hdocs, hshown, hid, htable, hplayer, hmobile,
    reopens_of_drawn hopen hrange hshows hpos hlt hout hdrawn (base_of_drawn hshown),
    onTimelines_of_mem hmem hlive hshown⟩

/-- The reply carries a booking. -/
def answersWith (status : Nat) : HttpReply → Bool
  | ⟨s, .booking _⟩ => s = status
  | _ => false

theorem booking_of_answersWith {status : Nat} {reply : HttpReply} (h : answersWith status reply) :
    ∃ b, reply = ⟨status, .booking b⟩ := by
  unfold answersWith at h
  split at h
  · rename_i s b
    exact ⟨b, congrArg (HttpReply.mk · (.booking b)) (of_decide_eq_true h)⟩
  · cases h

/-- The day from ten on. -/
def fromTen : FreeSlot := ⟨1893492000000, 46800000⟩

/-- Ben, from a quarter to five to six. -/
def bensForm : Form :=
  edited colombo (.slot 1 fromTen)
    [.player "Ben", .checkIn (clockOf 1005), .checkOut (clockOf 1080)]

theorem created_form_reopens_ben : ∃ b : TimelineBooking, b.player = "Ben" ∧
    Reopens colombo (.slot 1 fromTen) bensForm b := by
  have hrun : ((createBooking (handleConfirm colombo (.slot 1 fromTen) bensForm)).bind fun body =>
      (complete (List.replicate 16 nineOClock) (BookingHandler.create ⟨"kim", "kim@club", "staff"⟩
        (some body)) emptyVenue).map fun x => answersWith 201 x.1) = some true := by
    decide +kernel
  obtain ⟨body, hbody, hserved⟩ := Option.bind_eq_some_iff.1 hrun
  obtain ⟨⟨reply, m'⟩, hcomplete, hreply⟩ := Option.map_eq_some_iff.1 hserved
  obtain ⟨stored, rfl⟩ := booking_of_answersWith hreply
  have hdur : bensForm.durationMins = some 75 := by decide +kernel
  obtain ⟨d, b, -, -, -, -, hplayer, -, hreopens, -⟩ :=
    created_form_reopens (by decide) (by decide) hdur (by decide) (by decide) hbody
      (runs_of_complete (E := fun _ => True) (fun _ _ => trivial) hcomplete)
  exact ⟨b, hplayer, hreopens⟩

/-- A PATCH that is answered with a booking has stored it in place of the one that was edited. -/
theorem drawn_update {c : Confirmed} {payload : PatchPayload} {d : BookingDoc} {stored : Booking}
    (hd : d ∈ m.state.bookings.docs) (hpayload : updateBooking c = some payload)
    (h : Prog.Runs (backend E) 0 (BookingHandler.update d.id.hex (some payload.input)) m
      ⟨200, .booking stored⟩ m') :
    ∃ d' b, m'.state.bookings.find d.id = some d' ∧ d'.live ∧
      timelineBooking (docToBooking d') = some b ∧ b.bookingId = d.id.hex ∧ b.tableId = d.tableID ∧
      b.player = playerOf d.bookerName ∧ b.mobile = d.bookerMobile ∧ DrawnAs c b := by
  obtain ⟨r, m₁, hrun, hret⟩ := Prog.runs_bind.1 h
  obtain ⟨hreply, rfl⟩ := Prog.runs_ret.1 hret
  cases r with
  | error e =>
    rw [BookingHandler.respondWith, handleSvcError_eq, HttpReply.mk.injEq] at hreply
    cases hreply.2
  | ok b' =>
    obtain ⟨window, startTime, duration, hstart, hduration, hfind, hshown⟩ :=
      stored_edit hd hpayload hrun
    obtain ⟨d₁, hd₁, hid, hlive, -, -⟩ :=
      stored_of_updated (effect_of_run (.update d.id.hex payload.input) hrun).1
    rw [ObjectID.objectIDFromHex_hex, Option.some.injEq] at hid
    obtain rfl := m.state.bookings.id_inj hd hd₁ hid
    refine ⟨_, _, hfind, ?_, hshown, rfl, rfl, rfl, rfl, hstart, hduration, rfl, rfl⟩
    rw [BookingDoc.live, show (updatedDoc d payload.input window).status = d.status from
      updated_status (docToBooking d) payload.input window]
    exact hlive

/-- What the modal shows of a booking after any edits, confirmed and answered with a booking, opens as
the form it was; the player and the mobile number are those from before. -/
theorem edited_form_reopens {d : BookingDoc} {b : TimelineBooking} {stored : Booking}
    {payload : PatchPayload} (hopen : 0 ≤ g.openHour ∧ g.openHour < 24)
    (hd : d ∈ m.state.bookings.docs) (hb : timelineBooking (docToBooking d) = some b)
    (hdur : (edited g (.existingBooking b) edits).durationMins = some durMins)
    (hpos : 0 < durMins) (hlt : durMins < 24 * 60)
    (hagree : (∀ e ∈ edits, e.isTime = false) → (Opened.existingBooking b).MinutesAgree g)
    (hpayload : updateBooking (handleConfirm g (.existingBooking b)
      (edited g (.existingBooking b) edits)) = some payload)
    (hserved : Prog.Runs (backend E) 0 (BookingHandler.update b.bookingId (some payload.input)) m
      ⟨200, .booking stored⟩ m') :
    ∃ d' b', m'.state.bookings.find d.id = some d' ∧ timelineBooking (docToBooking d') = some b' ∧
      b'.bookingId = b.bookingId ∧ b'.tableId = b.tableId ∧ b'.player = b.player ∧
      b'.mobile = b.mobile ∧
      Reopens g (.existingBooking b) (edited g (.existingBooking b) edits) b' ∧
      OnTimelines m'.state.bookings b' := by
  obtain ⟨hid, htable, hplayer, hmobile⟩ := fields_of_drawn hb
  rw [hid] at hserved
  obtain ⟨startOfDay, hrange, -⟩ := inRange_of_hour hopen (base_of_drawn hb)
  obtain ⟨d', b', hfind, hlive, hshown, hid', htable', hplayer', hmobile', hdrawn⟩ :=
    drawn_update hd hpayload hserved
  obtain ⟨_, hform⟩ := form_shows (o := .existingBooking b) hrange
  obtain ⟨checkIn, durMins', hshows⟩ : ∃ checkIn durMins',
      Shows (edited g (.existingBooking b) edits) checkIn durMins' :=
    foldl_shows (o := .existingBooking b) hrange _ _ _ hform
  obtain rfl := Option.some.inj (hdur.symm.trans hshows.duration)
  have hout := (edited_checkOut_iff (o := .existingBooking b) hrange hshows hpos hlt).2 hagree
  have hmem : d' ∈ m'.state.bookings.docs := (BookingCollection.find_eq_some.1 hfind).1
  exact ⟨d', b', hfind, hshown, hid'.trans hid.symm, htable'.trans htable.symm,
    hplayer'.trans hplayer.symm, hmobile'.trans hmobile.symm,
    reopens_of_drawn hopen hrange hshows hpos hlt hout hdrawn (base_of_drawn hshown),
    onTimelines_of_mem hmem hlive hshown⟩

/-- Half past ten, with Ann's booking. -/
def annsVenue : Timed World Int :=
  ⟨World.start ⟨[tenToEleven .active], nodup_tenToEleven _⟩ none 0, halfPastTen.now⟩

/-- Ann stays an hour longer. -/
theorem edited_form_reopens_longer : ∃ b b' : TimelineBooking, b'.player = b.player ∧
    Reopens colombo (.existingBooking b) (edited colombo (.existingBooking b) [.hoursMins 2 0]) b' := by
  have hrun : ((timelineBooking (docToBooking (tenToEleven .active))).bind fun b =>
      (updateBooking (handleConfirm colombo (.existingBooking b)
        (edited colombo (.existingBooking b) [.hoursMins 2 0]))).bind fun payload =>
      (complete (List.replicate 30 halfPastTen)
        (BookingHandler.update b.bookingId (some payload.input)) annsVenue).map fun x =>
          (answersWith 200 x.1, (edited colombo (.existingBooking b) [.hoursMins 2 0]).durationMins)) =
      some (true, some 120) := by
    decide +kernel
  obtain ⟨b, hb, hrest⟩ := Option.bind_eq_some_iff.1 hrun
  obtain ⟨payload, hpayload, hserved⟩ := Option.bind_eq_some_iff.1 hrest
  obtain ⟨⟨reply, m'⟩, hcomplete, hseen⟩ := Option.map_eq_some_iff.1 hserved
  obtain ⟨hreply, hdur⟩ := Prod.mk.inj hseen
  obtain ⟨stored, rfl⟩ := booking_of_answersWith hreply
  obtain ⟨d', b', -, -, -, -, hplayer, -, hreopens, -⟩ :=
    edited_form_reopens (by decide) (List.mem_singleton.2 rfl) hb hdur (by decide) (by decide)
      (fun hnone => absurd (hnone _ List.mem_cons_self) (by decide)) hpayload
      (runs_of_complete (E := fun _ => True) (fun _ _ => trivial) hcomplete)
  exact ⟨b, b', hplayer, hreopens⟩

end

end GbcVenue
