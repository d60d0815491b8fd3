import GbcVenue.Scheduler.Handled

/-!
# What the cache shows of stored bookings

`ShownAs S` relates each booking that the cache shows to its record by `S`. One lemma for each kind
of event takes it from `S` to an `S'` that holds later on, and says what has to be known of the two:
the invariants of the next modules differ in them alone.
-/

namespace GbcVenue

open Interleaving BookingService GoTime Scheduler

/-- Every booking that a table shows is stored on that table, in the relation `S` to what is shown
of it. -/
def ShownAs (S : BookingDoc → CurrentBooking → Prop) (c : BookingCollection) (ts : Tables) : Prop :=
  ∀ t cb, ts.ShowsBusy t cb → ∃ d ∈ c.docs, d.id.hex = cb.bookingID ∧ d.tableID = t ∧ S d cb

section

variable {S S' : BookingDoc → CurrentBooking → Prop} {c c' : BookingCollection} {ts : Tables}

theorem ShownAs.mono (h : ShownAs S c ts) (hS : ∀ d cb, S d cb → S' d cb) : ShownAs S' c ts := by
  intro t cb hcb
  obtain ⟨d, hd, hid, ht, hlast⟩ := h t cb hcb
  exact ⟨d, hd, hid, ht, hS d cb hlast⟩

theorem shownAs_new : ShownAs S c Tables.new :=
  fun t cb hcb => absurd hcb (Tables.not_showsBusy_new t cb)

/-- A handler of the scheduler shows stored bookings at moments at which they run. -/
theorem ShownAs.handled {stop : Int} {v v' : Venue} (h : ShownAs S v.bookings v.tables)
    (hS : ∀ d cb, S d cb → S' d cb) (hh : Handled stop v v')
    (hnew : ∀ d ∈ v.bookings.docs, (∃ now ≤ stop, d.runsAt now) →
      S' d (currentBookingOf (docToBooking d))) :
    ShownAs S' v'.bookings v'.tables := by
  intro t cb hcb
  rw [hh.bookings]
  rcases hh.shown t cb hcb with hcb | ⟨d, hd, ht, hr, rfl⟩
  · exact h.mono hS t cb hcb
  · exact ⟨d, hd, rfl, ht, hnew d hd hr⟩

/-- A creation, and its sync of the cache. -/
theorem ShownAs.create {oid : ObjectID} {clock now : Int} {b : Booking} (h : ShownAs S c ts)
    (hS : ∀ d cb, S d cb → S' d cb)
    (hdocs : c'.docs = c.docs ++ [BookingCollection.newDoc oid clock b])
    (hnew : covers (b.withID oid.hex) now →
      S' (BookingCollection.newDoc oid clock b) (currentBookingOf (b.withID oid.hex))) :
    ShownAs S' c' (if covers (b.withID oid.hex) now then
      ts.activateTable b.tableID (currentBookingOf (b.withID oid.hex)) else ts) := by
  have hold : ∀ t cb, ts.ShowsBusy t cb →
      ∃ d ∈ c'.docs, d.id.hex = cb.bookingID ∧ d.tableID = t ∧ S' d cb := by
    intro t cb hcb
    obtain ⟨d, hd, hrest⟩ := h.mono hS t cb hcb
    refine ⟨d, ?_, hrest⟩
    rw [hdocs]
    exact List.mem_append_left _ hd
  intro t cb hcb
  split at hcb
  · rename_i hcovers
    rw [Tables.showsBusy_activateTable] at hcb
    split at hcb
    · rename_i ht
      subst ht hcb
      refine ⟨BookingCollection.newDoc oid clock b, ?_, ?_, ?_, hnew hcovers⟩
      · rw [hdocs]
        simp
      · rw [BookingCollection.newDoc_id]
        rfl
      · rw [BookingCollection.newDoc_tableID]
    · exact hold t cb hcb
  · exact hold t cb hcb

/-- An update of `d`, and its sync of the cache: what the table shows of `d` afterwards is what the
sync wrote or, where it saw the booking not running, what was there. -/
theorem ShownAs.update {d : BookingDoc} {dto : UpdateBookingInput} {window : Option (Int × Int)}
    {now : Int} (h : ShownAs S c ts) (id : String) (hS : ∀ d cb, S d cb → S' d cb) (hd : d ∈ c.docs)
    (hseen : covers (updated (docToBooking d) dto window) now →
      S' (updatedDoc d dto window) (currentBookingOf (updated (docToBooking d) dto window)))
    (hkept : ∀ cb, ts.ShowsBusy d.tableID cb → cb.bookingID = d.id.hex →
      ¬ covers (updated (docToBooking d) dto window) now → S d cb →
      S' (updatedDoc d dto window) cb) :
    ShownAs S' (c.replaceOne (updatedDoc d dto window))
      ((Request.update id dto).sync (updated (docToBooking d) dto window) now ts) := by
  have htable : (updated (docToBooking d) dto window).tableID = d.tableID :=
    updated_tableID (docToBooking d) dto window
  have hmem : updatedDoc d dto window ∈ (c.replaceOne (updatedDoc d dto window)).docs :=
    BookingCollection.mem_replaceOne.2 (.inl ⟨rfl, d, hd, rfl⟩)
  have hold : ∀ t cb, ts.ShowsBusy t cb →
      (t = d.tableID → ¬ covers (updated (docToBooking d) dto window) now) →
      ∃ e ∈ (c.replaceOne (updatedDoc d dto window)).docs, e.id.hex = cb.bookingID ∧
        e.tableID = t ∧ S' e cb := by
    intro t cb hcb hnot
    obtain ⟨e, he, hid, ht, hlast⟩ := h t cb hcb
    by_cases hed : e.id = d.id
    · have heq : e = d := c.id_inj he hd hed
      subst heq ht
      exact ⟨_, hmem, hid, updatedDoc_tableID e dto window, hkept cb hcb hid.symm (hnot rfl) hlast⟩
    · exact ⟨e, BookingCollection.mem_replaceOne.2 (.inr ⟨he, hed⟩), hid, ht,
        hS e cb hlast⟩
  intro t cb hcb
  rw [sync_update_shows, htable] at hcb
  split at hcb
  · rename_i ht
    subst ht
    split at hcb
    · rename_i hcovers
      obtain ⟨-, rfl⟩ := hcb
      refine ⟨_, hmem, ?_, updatedDoc_tableID d dto window, hseen hcovers⟩
      exact (updated_id (docToBooking d) dto window).symm
    · rename_i hcovers
      exact hold d.tableID cb hcb fun _ => hcovers
  · rename_i ht
    exact hold t cb hcb fun h => absurd h ht

/-- A cancellation of `d`, and its sync of the cache. -/
theorem ShownAs.cancel {d : BookingDoc} {id : String} {now : Int} (h : ShownAs S c ts)
    (hS : ∀ d cb, S d cb → S' d cb) (hd : d ∈ c.docs)
    (hkept : ∀ cb, ((Request.cancel id).sync (cancelled (docToBooking d)) now ts).ShowsBusy
        d.tableID cb → cb.bookingID = d.id.hex → S d cb →
      S' (docOf d.id (cancelled (docToBooking d))) cb) :
    ShownAs S' (c.replaceOne (docOf d.id (cancelled (docToBooking d))))
      ((Request.cancel id).sync (cancelled (docToBooking d)) now ts) := by
  intro t cb hcb
  obtain ⟨e, he, hid, ht, hlast⟩ := h t cb (sync_cancel_shows hcb)
  by_cases hed : e.id = d.id
  · have heq : e = d := c.id_inj he hd hed
    subst heq ht
    exact ⟨_, BookingCollection.mem_replaceOne.2 (.inl ⟨rfl, e, hd, rfl⟩), hid, rfl,
      hkept cb hcb hid.symm hlast⟩
  · exact ⟨e, BookingCollection.mem_replaceOne.2 (.inr ⟨he, hed⟩), hid, ht, hS e cb hlast⟩

end

/-! ## Check-outs -/

theorem unixMilli_whole {t : Int} (h : t % second = 0) :
    unixMilli t % 1000 = 0 ∧ ofUnixMilli (unixMilli t) = t ∧ truncateSecond t = t := by
  simp only [second, unixMilli, ofUnixMilli, truncateSecond, unix] at *
  omega

theorem parse_shown_checkOut {b : Booking} {checkOut : Int}
    (h : parseRFC3339 (currentBookingOf b).checkOutTime = some checkOut) :
    checkOut = truncateSecond b.checkOutTime := by
  simp only [currentBookingOf, parseRFC3339_formatRFC3339] at h
  split at h
  · exact (Option.some.inj h).symm
  · cases h

theorem truncateSecond_stored {d : BookingDoc} (h : d.checkOutTime % 1000 = 0) :
    truncateSecond (docToBooking d).checkOutTime = ofUnixMilli d.checkOutTime := by
  simp only [docToBooking, second, ofUnixMilli, truncateSecond, unix] at *
  omega

/-- An update of a live booking keeps it in its place. -/
theorem persists_updatedDoc {c : BookingCollection} {d : BookingDoc} {dto : UpdateBookingInput}
    {window : Option (Int × Int)} (hd : d ∈ c.docs) (hl : d.live) :
    Persists c (c.replaceOne (updatedDoc d dto window)) := by
  refine persists_replaceOne ⟨d, hd, rfl, (updatedDoc_tableID d dto window).symm⟩ ?_
  intro _ e he hide
  rw [c.id_inj he hd hide]
  exact hl

/-- The record that an update leaves has the check-out it had or the one that was requested. -/
theorem updatedDoc_checkOut {d : BookingDoc} {dto : UpdateBookingInput}
    {window : Option (Int × Int)} (hd : d.checkOutTime % 1000 = 0)
    (hwindow : ∀ newIn newOut, window = some (newIn, newOut) → newOut % second = 0) :
    (updatedDoc d dto window).checkOutTime % 1000 = 0 ∧
      ofUnixMilli (updatedDoc d dto window).checkOutTime =
        (updated (docToBooking d) dto window).checkOutTime := by
  cases window with
  | none =>
    have hsame : (updatedDoc d dto none).checkOutTime = d.checkOutTime := by
      simp [updatedDoc, docOf, updated_none_times, docToBooking]
    rw [hsame, (updated_none_times (docToBooking d) dto).2]
    exact ⟨hd, rfl⟩
  | some window =>
    obtain ⟨newIn, newOut⟩ := window
    obtain ⟨hmilli, hexact, -⟩ := unixMilli_whole (hwindow newIn newOut rfl)
    exact ⟨hmilli, hexact⟩

end GbcVenue
