import GbcVenue.Service.Effect

/-!
# When the cache agrees with the store

At an instant the cache should show exactly the bookings that run then. This module says so, and
what each write of the cache makes of the shown bookings.
-/

namespace GbcVenue

open GoTime BookingService

/-- Not cancelled, and its window holds the instant `now`. -/
def BookingDoc.runsAt (d : BookingDoc) (now : Int) : Prop := d.live ∧ covers (docToBooking d) now

/-- At `now` the cache shows, on each of the four tables, the booking that runs there, with its
fields. -/
def Agrees (c : BookingCollection) (ts : Tables) (now : Int) : Prop :=
  ∀ t, 1 ≤ t → t ≤ 4 → ∀ cb, ts.ShowsBusy t cb ↔
    ∃ d ∈ c.docs, d.tableID = t ∧ d.runsAt now ∧ cb = currentBookingOf (docToBooking d)

/-- The live bookings of a table have disjoint windows. -/
def BookingCollection.DisjointWindows (c : BookingCollection) : Prop :=
  ∀ d ∈ c.docs, ∀ e ∈ c.docs, d ≠ e → d.tableID = e.tableID → d.live → e.live →
    Disjoint (Set.Ico d.checkInTime d.checkOutTime) (Set.Ico e.checkInTime e.checkOutTime)

theorem covers_iff {b : Booking} {now : Int} :
    covers b now ↔ b.checkInTime ≤ now ∧ now < b.checkOutTime := by
  simp [covers]

/-- A stored booking covers an instant if its window holds the instant's millisecond. -/
theorem covers_docToBooking {d : BookingDoc} {now : Int} :
    covers (docToBooking d) now ↔
      d.checkInTime ≤ unixMilli now ∧ unixMilli now < d.checkOutTime := by
  simp only [covers_iff, docToBooking, ofUnixMilli, unixMilli]
  omega

/-- The windows of two live bookings of a table do not hold the same instant. -/
theorem BookingCollection.DisjointWindows.unique {c : BookingCollection} (h : c.DisjointWindows)
    {d e : BookingDoc} {now : Int} (hd : d ∈ c.docs) (he : e ∈ c.docs) (ht : d.tableID = e.tableID)
    (hdr : d.runsAt now) (her : e.runsAt now) : d = e := by
  by_contra hne
  exact Set.disjoint_left.1 (h d hd e he hne ht hdr.1 her.1) (covers_docToBooking.1 hdr.2)
    (covers_docToBooking.1 her.2)

/-- No live booking of table `t` starts or ends after `start` and by `stop`. -/
def NoBoundary (c : BookingCollection) (t start stop : Int) : Prop :=
  ∀ d ∈ c.docs, d.live → d.tableID = t → ofUnixMilli d.checkInTime ∉ Set.Ioc start stop ∧
    ofUnixMilli d.checkOutTime ∉ Set.Ioc start stop

theorem runsAt_iff {d : BookingDoc} {now : Int} :
    d.runsAt now ↔ d.live ∧ ofUnixMilli d.checkInTime ≤ now ∧ now < ofUnixMilli d.checkOutTime := by
  rw [BookingDoc.runsAt, covers_iff]
  rfl

/-- Without a boundary in between, the same bookings run. -/
theorem NoBoundary.runsAt_iff {c : BookingCollection} {t start stop now now' : Int}
    (h : NoBoundary c t start stop) (h₁ : start ≤ now) (h₂ : now ≤ now') (h₃ : now' ≤ stop)
    {d : BookingDoc} (hd : d ∈ c.docs) (ht : d.tableID = t) : d.runsAt now ↔ d.runsAt now' := by
  rw [GbcVenue.runsAt_iff, GbcVenue.runsAt_iff]
  constructor
  · rintro ⟨hl, hin, hout⟩
    have hnot := (h d hd hl ht).2
    simp only [Set.mem_Ioc] at hnot
    exact ⟨hl, by omega, by omega⟩
  · rintro ⟨hl, hin, hout⟩
    have hnot := (h d hd hl ht).1
    simp only [Set.mem_Ioc] at hnot
    exact ⟨hl, by omega, by omega⟩

/-- Storing a booking in milliseconds does not show in the cache, whose times are whole seconds. -/
theorem currentBookingOf_stored {b : Booking} {oid : ObjectID} (hid : b.id = oid.hex) :
    currentBookingOf (docToBooking (docOf oid b)) = currentBookingOf b := by
  have hin := formatRFC3339_congr (unix_ofUnixMilli b.checkInTime)
  have hout := formatRFC3339_congr (unix_ofUnixMilli b.checkOutTime)
  simp [currentBookingOf, docToBooking, docOf, hid, hin, hout]

/-- What the cache shows after the sync of an update. -/
theorem sync_update_shows {ts : Tables} {id : String} {dto : UpdateBookingInput} {b : Booking}
    {now t : Int} {cb : CurrentBooking} :
    ((Request.update id dto).sync b now ts).ShowsBusy t cb ↔
      if t = b.tableID then
        if covers b now then (∃ cb₀, ts.ShowsBusy t cb₀) ∧ cb = currentBookingOf b
        else ts.ShowsBusy t cb
      else ts.ShowsBusy t cb := by
  rw [Request.sync]
  split
  · rw [Tables.showsBusy_updateCurrentBooking]
    split
    · rename_i ht
      rw [ht]
    · rfl
  · rw [ite_self]

/-- After the sync of a cancellation the cache shows no more than before. -/
theorem sync_cancel_shows {ts : Tables} {id : String} {b : Booking} {now t : Int}
    {cb : CurrentBooking} (h : ((Request.cancel id).sync b now ts).ShowsBusy t cb) :
    ts.ShowsBusy t cb := by
  rw [Request.sync] at h
  split at h
  · exact (Tables.showsBusy_deactivateTable.1 h).2
  · exact h

end GbcVenue
