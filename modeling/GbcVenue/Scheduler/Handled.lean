import GbcVenue.Agreement.Agreement
import GbcVenue.Scheduler.Events

/-!
# What the scheduler leaves behind

Whatever a handler of the scheduler does, and whatever the boot sequence does, it changes no
booking, and it puts nothing into the cache or the timers that is not stored. `Handled` says so once
for all handlers; `Happens.effect` sets it beside the effect of a request.
-/

namespace GbcVenue

open Interleaving BookingService GoTime Scheduler

/-- A table that is there and either AVAILABLE or BUSY with a booking. -/
def Tables.InService (ts : Tables) (t : Int) : Prop :=
  (ts t).isSome ∧ ((ts.get t).status = .available ∨ ∃ cb, ts.ShowsBusy t cb)

/-- What is left by `stop`: the bookings are as before, the cache shows what it showed or a stored
booking at a moment at which it ran, and each timer is an old one or runs for a booking of its
table, no end timer before the check-out. -/
structure Handled (stop : Int) (v v' : Venue) : Prop where
  bookings : v'.bookings = v.bookings
  shown : ∀ t cb, v'.tables.ShowsBusy t cb → v.tables.ShowsBusy t cb ∨
    ∃ d ∈ v.bookings.docs, d.tableID = t ∧ (∃ now ≤ stop, d.runsAt now) ∧
      cb = currentBookingOf (docToBooking d)
  inService : ∀ t, v.tables.InService t → v'.tables.InService t
  armed : ∀ a ∈ v'.armed, a ∈ v.armed ∨ ∃ d ∈ v.bookings.docs, a.bookingID = d.id.hex ∧
    d.tableID = a.key.tableID ∧ (a.key.kind = .onEnd → ofUnixMilli d.checkOutTime ≤ a.deadline)

section

variable {faults : Option String → Prop} {stop : Int} {v v' v'' : Venue}

theorem Rearmed.handled (h : Rearmed v v') : Handled stop v v' := by
  refine ⟨h.bookings, ?_, ?_, h.armed⟩
  · intro t cb hcb
    rw [h.tables] at hcb
    exact .inl hcb
  · intro t ht
    rw [h.tables]
    exact ht

/-- The timers go on to stand for stored bookings. -/
theorem Handled.timers (h : Handled stop v v')
    (htimers : ∀ a ∈ v.armed, Stored a.bookingID a.key.tableID v.bookings) :
    ∀ a ∈ v'.armed, Stored a.bookingID a.key.tableID v'.bookings := by
  intro a ha
  rw [h.bookings]
  rcases h.armed a ha with ha | ⟨d, hd, hid, ht, -⟩
  · exact htimers a ha
  · exact ⟨d, hd, hid.symm, ht⟩

theorem Handled.trans (h : Handled stop v v') (h' : Handled stop v' v'') : Handled stop v v'' := by
  refine ⟨h'.bookings.trans h.bookings, ?_, fun t ht => h'.inService t (h.inService t ht), ?_⟩
  · intro t cb hcb
    rcases h'.shown t cb hcb with hcb | hd
    · exact h.shown t cb hcb
    · rw [h.bookings] at hd
      exact .inr hd
  · intro a ha
    rcases h'.armed a ha with ha | hd
    · exact h.armed a ha
    · rw [h.bookings] at hd
      exact .inr hd

theorem inService_activateTable {ts : Tables} {t u : Int} {cb : CurrentBooking}
    (h : ts.InService u) : (ts.activateTable t cb).InService u := by
  unfold Tables.InService Tables.ShowsBusy Tables.activateTable at *
  by_cases hu : u = t
  · subst hu
    simp [Tables.set]
  · simpa [Tables.set, Tables.get, hu] using h

theorem inService_deactivateTable {ts : Tables} {t u : Int} (h : ts.InService u) :
    (ts.deactivateTable t).InService u := by
  unfold Tables.InService Tables.ShowsBusy Tables.deactivateTable at *
  by_cases hu : u = t
  · subst hu
    simp [Tables.set]
  · simpa [Tables.set, Tables.get, hu] using h

theorem inService_hydrateTable {ts : Tables} {t u : Int} {b : CurrentBooking}
    (h : ts.InService u) : (ts.hydrateTable t (some b)).InService u := by
  unfold Tables.InService Tables.ShowsBusy Tables.hydrateTable at *
  by_cases hu : u = t
  · subst hu
    simp [Tables.set]
  · simpa [Tables.set, Tables.get, hu] using h

theorem inService_hydrated {ts : Tables} {bs : List Booking} {t : Int} (h : ts.InService t) :
    (hydrated ts bs).InService t := by
  induction bs generalizing ts with
  | nil => exact h
  | cons b bs ih => exact ih (inService_hydrateTable h)

theorem inService_updateCurrentBooking {ts : Tables} {t u : Int} {b : CurrentBooking}
    (h : ts.InService u) : (ts.updateCurrentBooking t b).InService u := by
  unfold Tables.updateCurrentBooking
  split
  · unfold Tables.InService Tables.ShowsBusy at *
    by_cases hu : u = t
    · subst hu
      rcases h with ⟨-, hfree | ⟨cb, hbusy, -⟩⟩
      · simp [Tables.set, hfree]
      · simp [Tables.set, hbusy]
    · simpa [Tables.set, Tables.get, hu] using h
  · exact h

theorem inService_new {t : Int} (h₁ : 1 ≤ t) (h₄ : t ≤ 4) : Tables.new.InService t := by
  simp [Tables.InService, Tables.get, Tables.new, h₁, h₄]

/-- A change of the cache alone, after which it shows what it showed or one stored booking. -/
theorem Handled.write {c : CacheWrite}
    (hc : ∀ t cb, (v.write c).tables.ShowsBusy t cb → v.tables.ShowsBusy t cb ∨
      ∃ d ∈ v.bookings.docs, d.tableID = t ∧ (∃ now ≤ stop, d.runsAt now) ∧
        cb = currentBookingOf (docToBooking d))
    (hs : ∀ t, v.tables.InService t → (v.write c).tables.InService t) :
    Handled stop v (v.write c) :=
  ⟨rfl, hc, hs, fun _ ha => .inl ha⟩

theorem handled_deactivate (v : Venue) (t : Int) :
    Handled stop v (v.write (.deactivateTable t)) := by
  refine Handled.write (fun u cb hcb => .inl ?_) fun u hu => inService_deactivateTable hu
  exact (Tables.showsBusy_deactivateTable.1 hcb).2

theorem handled_activate {t now : Int} {d : BookingDoc} (hd : d ∈ v.bookings.docs)
    (ht : d.tableID = t) (hnow : now ≤ stop) (hr : d.runsAt now) :
    Handled stop v (v.write (.activateTable t (currentBookingOf (docToBooking d)))) := by
  refine Handled.write (fun u cb hcb => ?_) fun u hu => inService_activateTable hu
  have hcb := Tables.showsBusy_activateTable.1 hcb
  split at hcb
  · rename_i hu
    exact .inr ⟨d, hd, ht.trans hu.symm, ⟨now, hnow, hr⟩, hcb⟩
  · exact .inl hcb

/-! ## The handlers -/

theorem Scheduler.Started.handled {t now : Int} {id : String} (hnow : now ≤ stop)
    (hstored : Stored id t v.bookings) (h : Started faults t id now v v') : Handled stop v v' := by
  have hdel : Handled stop v (v.deleteTimer (startKey t)) := (rearmed_deleteTimer v _).handled
  cases h with
  | failed => exact hdel
  | gone hd hid hnot hre => exact hdel.trans hre.rearmed.handled
  | missing hnone hre => exact hdel.trans hre.rearmed.handled
  | @activated d deadline hd hid hl hcovers hdeadline =>
    have ht : d.tableID = t := by
      obtain ⟨d₀, hd₀, rfl, ht₀⟩ := hstored
      rw [ObjectID.objectIDFromHex_hex, Option.some.injEq] at hid
      rw [← v.bookings.id_inj hd₀ hd hid]
      exact ht₀
    refine (hdel.trans (handled_activate hd ht hnow ⟨hl, hcovers⟩)).trans (Rearmed.handled ?_)
    exact rearmed_setTimer hd ht fun _ => hdeadline

theorem Scheduler.Ended.handled {t now : Int} {id : String} (h : Ended faults t id now v v') :
    Handled stop v v' := by
  have hdel : Handled stop v (v.deleteTimer (endKey t)) := (rearmed_deleteTimer v _).handled
  refine Handled.trans ?_ (Scheduler.Chained.rearmed h).handled
  unfold endedTable
  split
  · exact hdel.trans (handled_deactivate _ t)
  · exact hdel

theorem Scheduler.Fired.handled {now : Int} {a : ArmedTimer} (hnow : now ≤ stop)
    (hstored : Stored a.bookingID a.key.tableID v.bookings) (h : Fired faults now v a v') :
    Handled stop v v' := by
  have hless : Rearmed v { v with armed := v.armed.filter fun a' => a'.id ≠ a.id } :=
    .of_subset rfl rfl fun _ h => List.mem_of_mem_filter h
  cases h with
  | started hkind hstart => exact hless.handled.trans (hstart.handled hnow hstored)
  | ended hkind hend => exact hless.handled.trans hend.handled

theorem runsAt_of_activeAt {d : BookingDoc} {now : Int} :
    d.activeAt (unixMilli now) ↔ d.runsAt now := by
  rw [BookingDoc.activeAt_iff, BookingDoc.runsAt, covers_docToBooking]

theorem not_runsAt_of_current_none {c : BookingCollection} {t now : Int}
    (h : c.current t now = none) {d : BookingDoc} (hd : d ∈ c.docs) (ht : d.tableID = t) :
    ¬ d.runsAt now := by
  intro hr
  have hnot := List.find?_eq_none.1 h d hd
  exact hnot (decide_eq_true ⟨ht, runsAt_of_activeAt.2 hr⟩)

theorem Scheduler.Reconciled.handled {t now now' : Int} (hnow : now ≤ stop)
    (h : Reconciled faults t now now' v v') : Handled stop v v' := by
  cases h with
  | expired hshown hex hre => exact (handled_deactivate v t).trans hre.rearmed.handled
  | missed hfree hd hre =>
    obtain ⟨hmem, ht, hactive⟩ := BookingCollection.current_mem hd
    exact (handled_activate hmem ht hnow (runsAt_of_activeAt.1 hactive)).trans hre.rearmed.handled
  | _ => exact (Rearmed.refl v).handled

theorem Scheduler.ReconciledAll.handled {now : Int} {ts : List Int} (hnow : now ≤ stop)
    (h : ReconciledAll faults now ts v v') : Handled stop v v' := by
  induction ts generalizing v with
  | nil =>
    rw [ReconciledAll] at h
    rw [h]
    exact (Rearmed.refl v).handled
  | cons t ts ih =>
    obtain ⟨now', v₁, hfirst, hrest⟩ := h
    exact (hfirst.handled hnow).trans (ih hrest)

/-- Hydration shows stored bookings that run. -/
theorem handled_hydrated (v : Venue) {now : Int} (hnow : now ≤ stop) :
    Handled stop v { v with tables := hydrated v.tables (activeNow v.bookings now) } := by
  refine ⟨rfl, ?_, fun t ht => inService_hydrated ht, fun _ ha => .inl ha⟩
  intro t cb hcb
  rcases showsBusy_hydrated hcb with ⟨b, hb, ht, rfl⟩ | hcb
  · obtain ⟨d, hd, hactive, rfl⟩ := mem_activeNow hb
    exact .inr ⟨d, hd, ht, ⟨now, hnow, runsAt_of_activeAt.1 hactive⟩, rfl⟩
  · exact .inl hcb

end

theorem tables_of_mem {t : Int} : t ∈ [1, 2, 3, 4] ↔ 1 ≤ t ∧ t ≤ 4 := by
  simp only [List.mem_cons, List.not_mem_nil, or_false]
  omega

/-! ## Events -/

/-- What an event does to the venue: a request has its effect, and all else is handled, a restart
from a new cache without timers. -/
theorem Happens.effect {E : Env → Prop} {ev : Event} {m m' : Timed World Int}
    (h : Happens E ev m m')
    (hstored : ∀ a ∈ m.state.armed, Stored a.bookingID a.key.tableID m.state.bookings) :
    (∃ req r, ev = .request req ∧
      RequestEffect (faultsOf E) req r (venueAt m) (venueAt m')) ∨
    Handled m'.clock m.state.venue m'.state.venue ∨
    Handled m'.clock m.state.restarted.venue m'.state.venue := by
  cases h with
  | @request req r m m' hrun =>
    exact .inl ⟨req, r, rfl, runs_request (hrun.simulate (venue_simulates E))⟩
  | fire hrun =>
    obtain ⟨a, ha, now, -, -, hnow, hfire⟩ := runs_timerFires (hrun.simulate (venue_simulates E))
    exact .inr (.inl (hfire.handled hnow (hstored a ha)))
  | reconcile hrun =>
    obtain ⟨now, -, hnow, hre⟩ := runs_reconcile (hrun.simulate (venue_simulates E))
    exact .inr (.inl (hre.handled hnow))
  | loseTimer id w now =>
    have hless : Rearmed w.venue (w.loseTimer id).venue :=
      .of_subset rfl rfl fun _ ha => List.mem_of_mem_filter ha
    exact .inr (.inl hless.handled)
  | @restart w now m' hrun =>
    obtain ⟨v, now', -, hnow', hv, hre⟩ := runs_boot (hrun.simulate (venue_simulates E))
    refine .inr (.inr (Handled.trans ?_ hre.rearmed.handled))
    rcases hv with ⟨-, rfl⟩ | ⟨now'', -, hnow'', rfl⟩
    · exact (Rearmed.refl _).handled
    · exact handled_hydrated _ (hnow''.trans hnow')

end GbcVenue
