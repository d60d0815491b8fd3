import GbcVenue.Agreement.Shown

/-!
# The check-outs that timers and cache hold

An end timer holds the check-out of the moment it was armed, and a reconcile pass reads the one the
cache holds. `EndsOnTime` says that neither is before the stored one; updates are what can break it.
-/

namespace GbcVenue

open Interleaving BookingService GoTime Scheduler

/-- The check-out that is shown of `d`, if `d` is live, is not before the stored one. -/
def NotEarlier (d : BookingDoc) (cb : CurrentBooking) : Prop :=
  d.live → ∀ checkOut, parseRFC3339 cb.checkOutTime = some checkOut →
    ofUnixMilli d.checkOutTime ≤ checkOut

/-- No end timer, and no check-out in the cache, is before the stored check-out of a live booking;
and timers and cache speak of stored bookings of their table. -/
structure EndsOnTime (v : Venue) : Prop where
  whole : ∀ d ∈ v.bookings.docs, d.checkOutTime % 1000 = 0
  timers : ∀ a ∈ v.armed, Stored a.bookingID a.key.tableID v.bookings
  ends : ∀ a ∈ v.armed, a.key.kind = .onEnd → ∀ d ∈ v.bookings.docs, d.id.hex = a.bookingID →
    d.live → ofUnixMilli d.checkOutTime ≤ a.deadline
  shown : ShownAs NotEarlier v.bookings v.tables

/-- The condition on an event: requested check-outs are whole seconds; and an update that moves the
check-out moves it past no end timer armed for the booking, and past a check-out in the cache only if
the requested window covers the clock while the update runs. -/
def KeepsEnds (v : Venue) (start stop : Int) : Event → Prop
  | .request (.create dto _ _) => ∀ checkIn checkOut duration,
      parseTimes dto.checkInTime dto.checkOutTime = .ok (checkIn, checkOut, duration) →
      checkOut % second = 0
  | .request (.update id dto) => ∀ d ∈ v.bookings.docs, objectIDFromHex id = some d.id →
      ∀ newIn newOut, requestedWindow (docToBooking d) dto = .ok (some (newIn, newOut)) →
        newOut % second = 0 ∧
        (∀ a ∈ v.armed, a.key.kind = .onEnd → a.bookingID = d.id.hex → newOut ≤ a.deadline) ∧
        (∀ t cb, v.tables.ShowsBusy t cb → cb.bookingID = d.id.hex →
          (newIn ≤ start ∧ stop < newOut) ∨ ∀ checkOut,
            parseRFC3339 cb.checkOutTime = some checkOut → newOut ≤ checkOut)
  | _ => True

/-! ## The invariant over one event -/

section

variable {v v' : Venue} {faults : Option String → Prop}

/-- What the cache shows of a booking whose check-out is a whole second. -/
theorem notEarlier_of_whole {d : BookingDoc} {b : Booking}
    (h : ofUnixMilli d.checkOutTime ≤ truncateSecond b.checkOutTime) :
    NotEarlier d (currentBookingOf b) := by
  intro _ checkOut hparse
  rw [parse_shown_checkOut hparse]
  exact h

/-- A started process: nothing is armed or shown. -/
theorem endsOnTime_start {c : BookingCollection} (hwhole : ∀ d ∈ c.docs, d.checkOutTime % 1000 = 0)
    (config : Option VenueConfig) (offset : Int) :
    EndsOnTime (World.start c config offset).venue :=
  ⟨hwhole, nofun, nofun, shownAs_new⟩

theorem EndsOnTime.handled {stop : Int} (h : EndsOnTime v) (hh : Handled stop v v') :
    EndsOnTime v' := by
  refine ⟨?_, hh.timers h.timers, ?_, h.shown.handled (fun _ _ h => h) hh ?_⟩
  · rw [hh.bookings]
    exact h.whole
  · intro a ha hkind e he hide hl
    rw [hh.bookings] at he
    rcases hh.armed a ha with ha | ⟨d, hd, hid, -, hend⟩
    · exact h.ends a ha hkind e he hide hl
    · rw [v.bookings.id_inj he hd (ObjectID.hex_inj (hide.trans hid))]
      exact hend hkind
  · intro d hd _
    exact notEarlier_of_whole (truncateSecond_stored (h.whole d hd)).ge

/-- The store and the timers after a request that adds or changes a booking. -/
theorem EndsOnTime.stored {c : BookingCollection} {ts : Tables} (h : EndsOnTime v)
    (hpersists : Persists v.bookings c)
    (hnew : ∀ d ∈ c.docs, d ∈ v.bookings.docs ∨ (d.checkOutTime % 1000 = 0 ∧
      ∀ a ∈ v.armed, a.key.kind = .onEnd → d.id.hex = a.bookingID → d.live →
        ofUnixMilli d.checkOutTime ≤ a.deadline)) (hshown : ShownAs NotEarlier c ts) :
    EndsOnTime { v with bookings := c, tables := ts } := by
  refine ⟨?_, fun a ha => (h.timers a ha).persists hpersists, ?_, hshown⟩
  · intro d hd
    rcases hnew d hd with hd | ⟨hwhole, -⟩
    · exact h.whole d hd
    · exact hwhole
  · intro a ha hkind d hd hid hl
    rcases hnew d hd with hd | ⟨-, hend⟩
    · exact h.ends a ha hkind d hd hid hl
    · exact hend a ha hkind hid hl

/-- A creation, and its sync of the cache. -/
theorem EndsOnTime.create {c : BookingCollection} {oid : ObjectID} {now clock : Int} {b : Booking}
    (h : EndsOnTime v) (hwhole : b.checkOutTime % second = 0)
    (hdocs : c.docs = v.bookings.docs ++ [BookingCollection.newDoc oid clock b])
    (hfresh : ∀ d ∈ v.bookings.docs, d.id ≠ oid) :
    EndsOnTime { v with
      bookings := c
      tables := if covers (b.withID oid.hex) now then
        v.tables.activateTable b.tableID (currentBookingOf (b.withID oid.hex)) else v.tables } := by
  obtain ⟨hmilli, hexact, htrunc⟩ := unixMilli_whole hwhole
  refine h.stored (persists_append hdocs) ?_ (h.shown.create (fun _ _ h => h) hdocs fun _ => ?_)
  · intro d hd
    rw [hdocs, List.mem_append, List.mem_singleton] at hd
    rcases hd with hd | rfl
    · exact .inl hd
    · rw [BookingCollection.newDoc_checkOutTime, BookingCollection.newDoc_id]
      refine .inr ⟨hmilli, fun a ha _ hida => ?_⟩
      obtain ⟨d₀, hd₀, hid₀, -⟩ := h.timers a ha
      exact absurd (ObjectID.hex_inj (hid₀.trans hida.symm)) (hfresh d₀ hd₀)
  · apply notEarlier_of_whole
    rw [BookingCollection.newDoc_checkOutTime]
    exact (hexact.trans htrunc.symm).le

/-- An update of `d`, and its sync of the cache. -/
theorem EndsOnTime.update {d : BookingDoc} {id : String} {dto : UpdateBookingInput}
    {window : Option (Int × Int)} {start stop now : Int} (h : EndsOnTime v)
    (hd : d ∈ v.bookings.docs) (hid : objectIDFromHex id = some d.id) (hl : d.live)
    (hwindow : requestedWindow (docToBooking d) dto = .ok window)
    (hok : KeepsEnds v start stop (.request (.update id dto))) (hstart : start ≤ now)
    (hstop : now ≤ stop) :
    EndsOnTime { v with
      bookings := v.bookings.replaceOne (updatedDoc d dto window)
      tables :=
        (Request.update id dto).sync (updated (docToBooking d) dto window) now v.tables } := by
  have hask : ∀ newIn newOut, window = some (newIn, newOut) → newOut % second = 0 := by
    rintro newIn newOut rfl
    exact (hok d hd hid newIn newOut hwindow).1
  obtain ⟨hmilli, hexact⟩ := @updatedDoc_checkOut d dto window (h.whole d hd) hask
  refine h.stored (persists_updatedDoc hd hl) ?_ (h.shown.update id (fun _ _ h => h) hd ?_ ?_)
  · intro e he
    rcases BookingCollection.mem_replaceOne.1 he with ⟨rfl, -⟩ | ⟨he, -⟩
    · refine .inr ⟨hmilli, fun a ha hkind hida _ => ?_⟩
      rw [hexact]
      cases window with
      | none => exact h.ends a ha hkind d hd hida hl
      | some window => exact (hok d hd hid _ _ hwindow).2.1 a ha hkind hida.symm
    · exact .inl he
  · intro _
    apply notEarlier_of_whole
    rw [hexact]
    cases window with
    | none =>
      rw [(updated_none_times (docToBooking d) dto).2, truncateSecond_stored (h.whole d hd)]
      exact le_rfl
    | some window => exact (unixMilli_whole (hask _ _ rfl)).2.2.ge
  · intro cb hcb hcb_id hnot hlast _ checkOut hparse
    rw [hexact]
    cases window with
    | none => exact hlast hl checkOut hparse
    | some window =>
      obtain ⟨newIn, newOut⟩ := window
      rcases (hok d hd hid newIn newOut hwindow).2.2 d.tableID cb hcb hcb_id with ⟨hin, hout⟩ | hpast
      · refine absurd (covers_iff.2 ?_) hnot
        rw [(updated_some_times ..).1, (updated_some_times ..).2]
        omega
      · exact hpast checkOut hparse

/-- A cancellation of `d`, and its sync of the cache. -/
theorem EndsOnTime.cancel {d : BookingDoc} {id : String} {now : Int} (h : EndsOnTime v)
    (hd : d ∈ v.bookings.docs) :
    EndsOnTime { v with
      bookings := v.bookings.replaceOne (docOf d.id (cancelled (docToBooking d)))
      tables := (Request.cancel id).sync (cancelled (docToBooking d)) now v.tables } := by
  have hdead : ¬ (docOf d.id (cancelled (docToBooking d))).live := by
    simp [BookingDoc.live, docOf, cancelled]
  refine h.stored (persists_replaceOne ⟨d, hd, rfl, rfl⟩ fun hl => absurd hl hdead) ?_
    (h.shown.cancel (fun _ _ h => h) hd fun _ _ _ _ hl => absurd hl hdead)
  intro e he
  rcases BookingCollection.mem_replaceOne.1 he with ⟨rfl, -⟩ | ⟨he, -⟩
  · refine .inr ⟨?_, fun _ _ _ _ hl => absurd hl hdead⟩
    simpa [docOf, cancelled, docToBooking] using h.whole d hd
  · exact .inl he

/-- A booking request. -/
theorem EndsOnTime.request {req : Request} {r : Reply} {m m' : Timed Venue Int}
    (h : EndsOnTime m.state) (heffect : RequestEffect faults req r m m')
    (hok : KeepsEnds m.state m.clock m'.clock (.request req)) : EndsOnTime m'.state := by
  obtain ⟨now, hstart, hstop, hstate⟩ := heffect.state_eq
  have hstore := heffect.store
  rw [hstate]
  generalize m'.state.bookings = c at hstore ⊢
  cases hstore with
  | @created _ _ dto createdBy role checkIn checkOut duration clock f oid stamp id hparse ho hf
      hcreate =>
    obtain ⟨rfl, hdocs, hfresh⟩ := created_docs hcreate
    exact h.create (hok checkIn checkOut duration hparse) hdocs hfresh
  | updated hd hid hl hwindow hfree => exact h.update hd hid hl hwindow hok hstart hstop
  | cancelled hd hid hl => exact h.cancel hd
  | _ => exact h

/-- Whatever happens, under the condition. -/
theorem EndsOnTime.happens {E : Env → Prop} {ev : Event} {m m' : Timed World Int}
    (h : EndsOnTime m.state.venue) (hev : Happens E ev m m')
    (hok : KeepsEnds m.state.venue m.clock m'.clock ev) : EndsOnTime m'.state.venue := by
  rcases hev.effect h.timers with ⟨req, r, rfl, heffect⟩ | hh | hh
  · exact h.request heffect hok
  · exact h.handled hh
  · exact (endsOnTime_start h.whole m.state.config m.state.venueOffset).handled hh

end

/-! ## Runs -/

/-- One event at any time, under the condition. -/
def HappensOnTime (E : Env → Prop) (w w' : World) : Prop :=
  ∃ ev start stop, Happens E ev ⟨w, start⟩ ⟨w', stop⟩ ∧ KeepsEnds w.venue start stop ev

/-- The invariant in every state that a run reaches. -/
theorem endsOnTime_of_run {E : Env → Prop} {c : BookingCollection}
    (hwhole : ∀ d ∈ c.docs, d.checkOutTime % 1000 = 0) {config : Option VenueConfig} {offset : Int}
    {w : World} (h : Relation.ReflTransGen (HappensOnTime E) (World.start c config offset) w) :
    EndsOnTime w.venue := by
  induction h with
  | refl => exact endsOnTime_start hwhole config offset
  | tail _ hstep ih =>
    obtain ⟨ev, start, stop, hev, hok⟩ := hstep
    exact ih.happens hev hok

end GbcVenue
