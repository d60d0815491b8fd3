import GbcVenue.Agreement.Shown

/-!
# What a reconcile pass can repair

A reconcile pass frees a table whose cached check-out has come and fills an AVAILABLE one.
`Reconcilable` says that nothing else is wrong with the cache: what it shows is over, or it runs and
ends when the cache says. Updates that move a shown booking out of the present are what can break it.
-/

namespace GbcVenue

open Interleaving BookingService GoTime Scheduler

/-- A check-out that comes back from the cache as it is: a whole second of the years that the text
has room for. -/
def Showable (checkOut : Int) : Prop :=
  checkOut % second = 0 ∧ 0 ≤ (civil checkOut).year ∧ (civil checkOut).year ≤ 9999

/-- The check-out that is shown of `d` has come, or `d` has begun and ends then. -/
def Current (now : Int) (d : BookingDoc) (cb : CurrentBooking) : Prop :=
  ∃ checkOut, parseRFC3339 cb.checkOutTime = some checkOut ∧ (checkOut ≤ now ∨
    (d.live ∧ ofUnixMilli d.checkInTime ≤ now ∧ checkOut = ofUnixMilli d.checkOutTime))

/-- Nothing is wrong that a reconcile pass would not see. -/
structure Reconcilable (v : Venue) (now : Int) : Prop where
  showable : ∀ d ∈ v.bookings.docs, Showable (ofUnixMilli d.checkOutTime)
  timers : ∀ a ∈ v.armed, Stored a.bookingID a.key.tableID v.bookings
  inService : ∀ t, 1 ≤ t → t ≤ 4 → v.tables.InService t
  shown : ShownAs (Current now) v.bookings v.tables

/-- The condition on an event: requested check-outs are showable; an update of a booking that its
table shows, and whose shown check-out has not come, leaves it begun and not over, or over no
earlier than is shown; and a cancellation of a shown booking names it as it is stored. -/
def KeepsCurrent (v : Venue) (start stop : Int) : Event → Prop
  | .request (.create dto _ _) => ∀ checkIn checkOut duration,
      parseTimes dto.checkInTime dto.checkOutTime = .ok (checkIn, checkOut, duration) →
      Showable checkOut
  | .request (.update id dto) => ∀ d ∈ v.bookings.docs, objectIDFromHex id = some d.id →
      ∀ newIn newOut, requestedWindow (docToBooking d) dto = .ok (some (newIn, newOut)) →
        Showable newOut ∧
        ∀ cb checkOut, v.tables.ShowsBusy d.tableID cb → cb.bookingID = d.id.hex →
          parseRFC3339 cb.checkOutTime = some checkOut →
          checkOut ≤ start ∨ (newIn ≤ start ∧ (stop < newOut ∨ checkOut ≤ newOut))
  | .request (.cancel id) => ∀ d ∈ v.bookings.docs, objectIDFromHex id = some d.id →
      ∀ cb, v.tables.ShowsBusy d.tableID cb → cb.bookingID = d.id.hex → id = d.id.hex
  | _ => True

/-! ## What is shown of a booking -/

theorem parse_showable {b : Booking} (h : Showable b.checkOutTime) :
    parseRFC3339 (currentBookingOf b).checkOutTime = some b.checkOutTime := by
  obtain ⟨hwhole, hyear⟩ := h
  simp only [currentBookingOf, parseRFC3339_formatRFC3339, if_pos hyear,
    (unixMilli_whole hwhole).2.2]

theorem Current.mono {now now' : Int} {d : BookingDoc} {cb : CurrentBooking}
    (h : Current now d cb) (hle : now ≤ now') : Current now' d cb := by
  obtain ⟨checkOut, hparse, hover | ⟨hl, hin, hout⟩⟩ := h
  · exact ⟨checkOut, hparse, .inl (hover.trans hle)⟩
  · exact ⟨checkOut, hparse, .inr ⟨hl, hin.trans hle, hout⟩⟩

theorem ofUnixMilli_unixMilli_le (t : Int) : ofUnixMilli (unixMilli t) ≤ t := by
  simp only [ofUnixMilli, unixMilli]
  omega

/-- What a sync writes of a booking that runs then. -/
theorem current_written {d : BookingDoc} {b : Booking} {now stop : Int} (hl : d.live)
    (hin : d.checkInTime = unixMilli b.checkInTime) (hshow : Showable b.checkOutTime)
    (hout : ofUnixMilli d.checkOutTime = b.checkOutTime) (hcovers : covers b now)
    (hnow : now ≤ stop) : Current stop d (currentBookingOf b) := by
  refine ⟨b.checkOutTime, parse_showable hshow, .inr ⟨hl, ?_, hout.symm⟩⟩
  rw [hin]
  exact (ofUnixMilli_unixMilli_le _).trans ((covers_iff.1 hcovers).1.trans hnow)

theorem current_stored {d : BookingDoc} {now stop : Int}
    (hshow : Showable (ofUnixMilli d.checkOutTime)) (hr : d.runsAt now) (hnow : now ≤ stop) :
    Current stop d (currentBookingOf (docToBooking d)) :=
  current_written hr.1 (unixMilli_ofUnixMilli d.checkInTime).symm hshow rfl hr.2 hnow

/-! ## The invariant over one event -/

section

variable {v v' : Venue} {faults : Option String → Prop}

theorem Reconcilable.mono {now now' : Int} (h : Reconcilable v now) (hle : now ≤ now') :
    Reconcilable v now' :=
  ⟨h.showable, h.timers, h.inService, h.shown.mono fun _ _ hS => hS.mono hle⟩

/-- A started process. -/
theorem reconcilable_start {c : BookingCollection}
    (hshow : ∀ d ∈ c.docs, Showable (ofUnixMilli d.checkOutTime)) (config : Option VenueConfig)
    (offset now : Int) : Reconcilable (World.start c config offset).venue now :=
  ⟨hshow, nofun, fun _ h₁ h₄ => inService_new h₁ h₄, shownAs_new⟩

theorem Reconcilable.handled {now stop : Int} (h : Reconcilable v now) (hle : now ≤ stop)
    (hh : Handled stop v v') : Reconcilable v' stop := by
  refine ⟨?_, hh.timers h.timers, fun t h₁ h₄ => hh.inService t (h.inService t h₁ h₄),
    h.shown.handled (fun _ _ hS => hS.mono hle) hh ?_⟩
  · rw [hh.bookings]
    exact h.showable
  · rintro d hd ⟨now', hnow', hr⟩
    exact current_stored (h.showable d hd) hr hnow'

theorem inService_sync (req : Request) (b : Booking) (now : Int) {t : Int} {ts : Tables}
    (h : ts.InService t) : (req.sync b now ts).InService t := by
  cases req with
  | create dto createdBy role =>
    rw [Request.sync]
    split
    · exact inService_activateTable h
    · exact h
  | update id dto =>
    rw [Request.sync]
    split
    · exact inService_updateCurrentBooking h
    · exact h
  | cancel id =>
    rw [Request.sync]
    split
    · exact inService_deactivateTable h
    · exact h

theorem Reconcilable.create {c : BookingCollection} {oid : ObjectID} {start stop now clock : Int}
    {b : Booking} (h : Reconcilable v start) (hshow : Showable b.checkOutTime)
    (hactive : b.status = .active)
    (hdocs : c.docs = v.bookings.docs ++ [BookingCollection.newDoc oid clock b])
    (hstart : start ≤ now) (hstop : now ≤ stop) :
    Reconcilable { v with
      bookings := c
      tables := if covers (b.withID oid.hex) now then
        v.tables.activateTable b.tableID (currentBookingOf (b.withID oid.hex)) else v.tables }
      stop := by
  have hexact := (unixMilli_whole hshow.1).2.1
  refine ⟨?_, fun a ha => (h.timers a ha).persists (persists_append hdocs), ?_,
    h.shown.create (fun _ _ hS => hS.mono (hstart.trans hstop)) hdocs fun hcovers => ?_⟩
  · intro d hd
    rw [hdocs, List.mem_append, List.mem_singleton] at hd
    rcases hd with hd | rfl
    · exact h.showable d hd
    · rw [BookingCollection.newDoc_checkOutTime, hexact]
      exact hshow
  · intro t h₁ h₄
    simp only
    split
    · exact inService_activateTable (h.inService t h₁ h₄)
    · exact h.inService t h₁ h₄
  · refine current_written ?_ (BookingCollection.newDoc_checkInTime ..) hshow ?_ hcovers hstop
    · rw [BookingDoc.live_iff, BookingCollection.newDoc_status]
      exact hactive
    · rw [BookingCollection.newDoc_checkOutTime]
      exact hexact

theorem Reconcilable.update {d : BookingDoc} {id : String} {dto : UpdateBookingInput}
    {window : Option (Int × Int)} {start stop now : Int} (h : Reconcilable v start)
    (hd : d ∈ v.bookings.docs) (hid : objectIDFromHex id = some d.id) (hl : d.live)
    (hwindow : requestedWindow (docToBooking d) dto = .ok window)
    (hok : KeepsCurrent v start stop (.request (.update id dto))) (hstart : start ≤ now)
    (hstop : now ≤ stop) :
    Reconcilable { v with
      bookings := v.bookings.replaceOne (updatedDoc d dto window)
      tables := (Request.update id dto).sync (updated (docToBooking d) dto window) now v.tables }
      stop := by
  have hwhole : d.checkOutTime % 1000 = 0 := by
    have hsecond := (h.showable d hd).1
    simp only [ofUnixMilli, second] at hsecond
    omega
  have hask : ∀ newIn newOut, window = some (newIn, newOut) → newOut % second = 0 := by
    rintro newIn newOut rfl
    exact (hok d hd hid newIn newOut hwindow).1.1
  have hexact := (@updatedDoc_checkOut d dto window hwhole hask).2
  have hshow : Showable (updated (docToBooking d) dto window).checkOutTime := by
    cases window with
    | none => exact h.showable d hd
    | some window => exact (hok d hd hid _ _ hwindow).1
  refine ⟨?_, fun a ha => (h.timers a ha).persists (persists_updatedDoc hd hl), ?_,
    h.shown.update id (fun _ _ hS => hS.mono (hstart.trans hstop)) hd ?_ ?_⟩
  · intro e he
    rcases BookingCollection.mem_replaceOne.1 he with ⟨rfl, -⟩ | ⟨he, -⟩
    · rw [hexact]
      exact hshow
    · exact h.showable e he
  · exact fun t h₁ h₄ => inService_sync (.update id dto) _ now (h.inService t h₁ h₄)
  · exact fun hcovers => current_written (updatedDoc_live hl) rfl hshow hexact hcovers hstop
  · rintro cb hcb hcb_id hnot ⟨checkOut, hparse, hcurrent⟩
    refine ⟨checkOut, hparse, ?_⟩
    cases window with
    | none =>
      -- the times of the record are as before
      have htimes : (updatedDoc d dto none).checkInTime = d.checkInTime ∧
          (updatedDoc d dto none).checkOutTime = d.checkOutTime := by
        simp [updatedDoc, docOf, updated_none_times, docToBooking]
      rw [htimes.1, htimes.2]
      rcases hcurrent with hover | ⟨-, hin, hout⟩
      · exact .inl (hover.trans (hstart.trans hstop))
      · exact .inr ⟨updatedDoc_live hl, hin.trans (hstart.trans hstop), hout⟩
    | some window =>
      obtain ⟨newIn, newOut⟩ := window
      left
      rcases (hok d hd hid newIn newOut hwindow).2 cb checkOut hcb hcb_id hparse with
        hover | ⟨hin, hout⟩
      · exact hover.trans (hstart.trans hstop)
      · rw [covers_iff, (updated_some_times ..).1, (updated_some_times ..).2] at hnot
        omega

/-- A cancellation: if it leaves the booking shown, its check-out has come. -/
theorem Reconcilable.cancel {d : BookingDoc} {id : String} {start stop now : Int}
    (h : Reconcilable v start) (hd : d ∈ v.bookings.docs) (hid : objectIDFromHex id = some d.id)
    (hok : KeepsCurrent v start stop (.request (.cancel id))) (hstart : start ≤ now)
    (hstop : now ≤ stop) :
    Reconcilable { v with
      bookings := v.bookings.replaceOne (docOf d.id (cancelled (docToBooking d)))
      tables := (Request.cancel id).sync (cancelled (docToBooking d)) now v.tables } stop := by
  have hdead : ¬ (docOf d.id (cancelled (docToBooking d))).live := by
    simp [BookingDoc.live, docOf, cancelled]
  have hpersists : Persists v.bookings
      (v.bookings.replaceOne (docOf d.id (cancelled (docToBooking d)))) :=
    persists_replaceOne ⟨d, hd, rfl, rfl⟩ fun hl => absurd hl hdead
  refine ⟨?_, fun a ha => (h.timers a ha).persists hpersists, ?_,
    h.shown.cancel (fun _ _ hS => hS.mono (hstart.trans hstop)) hd ?_⟩
  · intro e he
    rcases BookingCollection.mem_replaceOne.1 he with ⟨rfl, -⟩ | ⟨he, -⟩
    · simpa [docOf, cancelled, docToBooking] using h.showable d hd
    · exact h.showable e he
  · exact fun t h₁ h₄ => inService_sync (.cancel id) _ now (h.inService t h₁ h₄)
  · rintro cb hcb hcb_id ⟨checkOut, hparse, hcurrent⟩
    refine ⟨checkOut, hparse, .inl ?_⟩
    have hcb₀ := sync_cancel_shows hcb
    rcases hcurrent with hover | ⟨-, hin, hout⟩
    · exact hover.trans (hstart.trans hstop)
    · -- the sync saw the booking not running, or it would have freed the table
      have hnot : ¬ covers (cancelled (docToBooking d)) now := by
        intro hcovers
        have hshows : (v.tables d.tableID).isSome ∧
            (v.tables.get d.tableID).currentBooking.map CurrentBooking.bookingID = some id := by
          refine ⟨Tables.isSome_of_showsBusy hcb₀, ?_⟩
          rw [hcb₀.2, Option.map_some, hcb_id, hok d hd hid cb hcb₀ hcb_id]
        rw [Request.sync, if_pos ⟨hcovers, hshows⟩] at hcb
        exact (Tables.showsBusy_deactivateTable.1 hcb).1 rfl
      rw [covers_iff] at hnot
      simp only [cancelled, docToBooking] at hnot
      omega

/-- A booking request. -/
theorem Reconcilable.request {req : Request} {r : Reply} {m m' : Timed Venue Int}
    (h : Reconcilable m.state m.clock) (heffect : RequestEffect faults req r m m')
    (hok : KeepsCurrent m.state m.clock m'.clock (.request req)) :
    Reconcilable m'.state m'.clock := by
  obtain ⟨now, hstart, hstop, hstate⟩ := heffect.state_eq
  have hstore := heffect.store
  rw [hstate]
  generalize m'.state.bookings = c at hstore ⊢
  cases hstore with
  | @created _ _ dto createdBy role checkIn checkOut duration clock f oid stamp id hparse ho hf
      hcreate =>
    obtain ⟨rfl, hdocs, -⟩ := created_docs hcreate
    exact h.create (hok checkIn checkOut duration hparse) rfl hdocs hstart hstop
  | updated hd hid hl hwindow hfree => exact h.update hd hid hl hwindow hok hstart hstop
  | cancelled hd hid hl => exact h.cancel hd hid hok hstart hstop
  | _ => exact h.mono (hstart.trans hstop)

/-- Whatever happens, under the condition. -/
theorem Reconcilable.happens {E : Env → Prop} {ev : Event} {m m' : Timed World Int}
    (h : Reconcilable m.state.venue m.clock) (hev : Happens E ev m m')
    (hok : KeepsCurrent m.state.venue m.clock m'.clock ev) :
    Reconcilable m'.state.venue m'.clock := by
  rcases hev.effect h.timers with ⟨req, r, rfl, heffect⟩ | hh | hh
  · exact h.request heffect hok
  · exact h.handled hev.clock_le hh
  · exact (reconcilable_start h.showable m.state.config m.state.venueOffset m.clock).handled
      hev.clock_le hh

end

/-! ## Runs -/

/-- One event, no earlier than the last one ended, under the condition. -/
def HappensInPlace (E : Env → Prop) (m m' : Timed World Int) : Prop :=
  ∃ ev start, m.clock ≤ start ∧ Happens E ev ⟨m.state, start⟩ m' ∧
    KeepsCurrent m.state.venue start m'.clock ev

/-- The invariant in every state that a run reaches. -/
theorem reconcilable_of_run {E : Env → Prop} {c : BookingCollection}
    (hshow : ∀ d ∈ c.docs, Showable (ofUnixMilli d.checkOutTime)) {config : Option VenueConfig}
    {offset now : Int} {m : Timed World Int}
    (h : Relation.ReflTransGen (HappensInPlace E) ⟨World.start c config offset, now⟩ m) :
    Reconcilable m.state.venue m.clock := by
  induction h with
  | refl => exact reconcilable_start hshow config offset now
  | tail _ hstep ih =>
    obtain ⟨ev, start, hclock, hev, hok⟩ := hstep
    exact Reconcilable.happens (m := ⟨_, start⟩) (ih.mono hclock) hev hok

end GbcVenue
