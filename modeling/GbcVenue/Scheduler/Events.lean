import GbcVenue.Scheduler.Effect

/-!
# What happens to a running backend

Requests, fired timers and reconcile passes one at a time, the loss of a timer, and a restart of the
process over its database. `Rearmed` is what every handler of the scheduler does with the timers.
-/

namespace GbcVenue

open Interleaving BookingService GoTime Scheduler

inductive Event
  | request (req : Request)
  | fire
  | reconcile
  | loseTimer (id : Nat)
  | restart

/-- A process started over the database of `w`. -/
def World.restarted (w : World) : World := World.start w.bookings w.config w.venueOffset

/-- A timer that never fires. -/
def World.loseTimer (w : World) (id : Nat) : World :=
  { w with armed := w.armed.filter fun a => a.id ≠ id }

/-- One event, from the moment it begins to the moment it ends. -/
inductive Happens (E : Env → Prop) : Event → Timed World Int → Timed World Int → Prop
  | request {req : Request} {r : Reply} {m m' : Timed World Int}
      (h : Prog.Runs (backend E) 0 req.program m r m') : Happens E (.request req) m m'
  | fire {m m' : Timed World Int} (h : Prog.Runs (backend E) 0 timerFires m () m') :
      Happens E .fire m m'
  | reconcile {m m' : Timed World Int} (h : Prog.Runs (backend E) 0 reconcile m () m') :
      Happens E .reconcile m m'
  | loseTimer (id : Nat) (w : World) (now : Int) :
      Happens E (.loseTimer id) ⟨w, now⟩ ⟨w.loseTimer id, now⟩
  | restart {w : World} {now : Int} {m' : Timed World Int}
      (h : Prog.Runs (backend E) 0 boot ⟨w.restarted, now⟩ () m') : Happens E .restart ⟨w, now⟩ m'

theorem Happens.clock_le {E : Env → Prop} {ev : Event} {m m' : Timed World Int}
    (h : Happens E ev m m') : m.clock ≤ m'.clock := by
  cases h with
  | request h => exact h.clock_le
  | fire h => exact h.clock_le
  | reconcile h => exact h.clock_le
  | loseTimer => exact le_rfl
  | restart h => exact h.clock_le

/-- Follows an event on the contributions `es` of the outside world. -/
def Event.exec (es : List Env) : Event → Timed World Int → Option (Timed World Int)
  | .request req, m => (complete es req.program m).map Prod.snd
  | .fire, m => (complete es timerFires m).map Prod.snd
  | .reconcile, m => (complete es Scheduler.reconcile m).map Prod.snd
  | .loseTimer id, m => some ⟨m.state.loseTimer id, m.clock⟩
  | .restart, m => (complete es boot ⟨m.state.restarted, m.clock⟩).map Prod.snd

theorem happens_of_exec {E : Env → Prop} {es : List Env} {ev : Event} {m m' : Timed World Int}
    (hE : ∀ e ∈ es, E e) (h : ev.exec es m = some m') : Happens E ev m m' := by
  cases ev with
  | loseTimer id =>
    cases h
    exact .loseTimer id m.state m.clock
  | _ =>
    simp only [Event.exec, Option.map_eq_some_iff] at h
    obtain ⟨⟨_, _⟩, h, rfl⟩ := h
    constructor
    exact runs_of_complete hE h

/-! ## The store -/

theorem SpecStep.persists {faults : Option String → Prop} {req : Request}
    {c c' : BookingCollection} {r : Reply} (h : SpecStep faults req c r c') : Persists c c' := by
  cases h with
  | created h ho hf hcreate =>
    obtain ⟨-, hdocs, -⟩ := created_docs hcreate
    exact persists_append hdocs
  | @updated _ _ dto d window hd hid hl h hw =>
    refine persists_replaceOne ⟨d, hd, rfl, (updated_tableID (docToBooking d) dto window).symm⟩ ?_
    intro _ e he hide
    rw [c.id_inj he hd hide]
    exact hl
  | @cancelled _ _ d hd hid hl =>
    refine persists_replaceOne ⟨d, hd, rfl, rfl⟩ ?_
    intro _ e he hide
    rw [c.id_inj he hd hide]
    exact hl
  | _ => exact .refl _

/-! ## The timers -/

/-- The bookings and the cache are as before, and each timer is an old one or runs for a booking of
its table, no end timer before the check-out. -/
structure Rearmed (v v' : Venue) : Prop where
  bookings : v'.bookings = v.bookings
  tables : v'.tables = v.tables
  armed : ∀ a ∈ v'.armed, a ∈ v.armed ∨ ∃ d ∈ v.bookings.docs, a.bookingID = d.id.hex ∧
    d.tableID = a.key.tableID ∧ (a.key.kind = .onEnd → ofUnixMilli d.checkOutTime ≤ a.deadline)

theorem Rearmed.refl (v : Venue) : Rearmed v v := ⟨rfl, rfl, fun _ ha => .inl ha⟩

theorem Rearmed.trans {v v' v'' : Venue} (h : Rearmed v v') (h' : Rearmed v' v'') :
    Rearmed v v'' := by
  refine ⟨h'.bookings.trans h.bookings, h'.tables.trans h.tables, ?_⟩
  intro a ha
  rcases h'.armed a ha with ha | hd
  · exact h.armed a ha
  · rw [h.bookings] at hd
    exact .inr hd

/-- Fewer timers. -/
theorem Rearmed.of_subset {v v' : Venue} (hb : v'.bookings = v.bookings)
    (ht : v'.tables = v.tables) (ha : ∀ a ∈ v'.armed, a ∈ v.armed) : Rearmed v v' :=
  ⟨hb, ht, fun a h => .inl (ha a h)⟩

theorem rearmed_deleteTimer (v : Venue) (key : TimerKey) : Rearmed v (v.deleteTimer key) :=
  .of_subset rfl rfl fun _ h => h

theorem rearmed_clearTable (v : Venue) (t : Int) : Rearmed v (clearTable v t) :=
  .of_subset (clearTable_bookings v t) (clearTable_tables v t) fun _ => mem_clearTable

theorem rearmed_setTimer {v : Venue} {key : TimerKey} {d : BookingDoc} {deadline : Int}
    (hd : d ∈ v.bookings.docs) (ht : d.tableID = key.tableID)
    (hend : key.kind = .onEnd → ofUnixMilli d.checkOutTime ≤ deadline) :
    Rearmed v (v.setTimer key d.id.hex deadline) := by
  refine ⟨Venue.setTimer_bookings .., Venue.setTimer_tables .., ?_⟩
  intro a ha
  rcases Venue.mem_setTimer ha with ha | rfl
  · exact .inl ha
  · exact .inr ⟨d, hd, rfl, ht, hend⟩

theorem BookingCollection.upcoming_mem {c : BookingCollection} {t after : Int} {d : BookingDoc}
    (h : c.upcoming t after = some d) :
    d ∈ c.docs ∧ d.tableID = t ∧ d.live ∧ unixMilli after < d.checkInTime := by
  have hmem := List.argmin_mem h
  simp only [List.mem_filter, decide_eq_true_eq] at hmem
  exact hmem

theorem BookingCollection.current_mem {c : BookingCollection} {t now : Int} {d : BookingDoc}
    (h : c.current t now = some d) :
    d ∈ c.docs ∧ d.tableID = t ∧ d.activeAt (unixMilli now) := by
  have hcond := List.find?_some h
  simp only [decide_eq_true_eq] at hcond
  exact ⟨List.mem_of_find?_eq_some h, hcond⟩

section

variable {faults : Option String → Prop} {t now : Int} {v v' : Venue}

theorem Scheduler.Chained.rearmed (h : Chained faults t now v v') : Rearmed v v' := by
  cases h with
  | failed h => exact .refl v
  | last h => exact .refl v
  | next h hd =>
    obtain ⟨hmem, ht, -⟩ := BookingCollection.upcoming_mem h
    exact rearmed_setTimer hmem ht nofun

theorem Scheduler.Rescheduled.rearmed (h : Rescheduled faults t now v v') : Rearmed v v' := by
  have hclear := rearmed_clearTable v t
  cases h with
  | failed h => exact hclear
  | current h hd =>
    obtain ⟨hmem, ht, -⟩ := BookingCollection.current_mem h
    rw [← clearTable_bookings v t] at hmem
    exact hclear.trans (rearmed_setTimer hmem ht fun _ => hd)
  | chained h hnext => exact hclear.trans hnext.rearmed

theorem Scheduler.RescheduledAll.rearmed {start stop : Int} {ts : List Int}
    (h : RescheduledAll faults start stop ts v v') : Rearmed v v' := by
  induction ts generalizing v with
  | nil =>
    rw [RescheduledAll] at h
    rw [h]
    exact .refl v
  | cons t ts ih =>
    obtain ⟨now, v₁, -, -, hre, hrest⟩ := h
    exact hre.rearmed.trans (ih hrest)

end

/-! ## Hydration -/

theorem showsBusy_hydrateTable {ts : Tables} {t u : Int} {b cb : CurrentBooking} :
    (ts.hydrateTable t (some b)).ShowsBusy u cb ↔
      if u = t then cb = b else ts.ShowsBusy u cb := by
  unfold Tables.ShowsBusy Tables.hydrateTable
  by_cases h : u = t
  · subst h
    simp [eq_comm]
  · simp [h]

/-- What a hydrated cache shows, it shows of one of the bookings or showed before. -/
theorem showsBusy_hydrated {ts : Tables} {bs : List Booking} {t : Int} {cb : CurrentBooking}
    (h : (hydrated ts bs).ShowsBusy t cb) :
    (∃ b ∈ bs, b.tableID = t ∧ cb = currentBookingOf b) ∨ ts.ShowsBusy t cb := by
  induction bs generalizing ts with
  | nil => exact .inr h
  | cons b bs ih =>
    rcases ih h with ⟨b', hb', hshown⟩ | h
    · exact .inl ⟨b', List.mem_cons_of_mem _ hb', hshown⟩
    · rw [showsBusy_hydrateTable] at h
      split at h
      · rename_i ht
        exact .inl ⟨b, by simp, ht.symm, h⟩
      · exact .inr h

theorem mem_activeNow {c : BookingCollection} {now : Int} {b : Booking} (h : b ∈ activeNow c now) :
    ∃ d ∈ c.docs, d.activeAt (unixMilli now) ∧ docToBooking d = b := by
  simp only [activeNow, List.mem_map, List.mem_filter] at h
  obtain ⟨d, ⟨hd, hactive⟩, hb⟩ := h
  exact ⟨d, hd, hactive, hb⟩

/-! ## A sample -/

/-- The sample alone in the database of a process that has not started. -/
def tenToElevenStored : World := World.start ⟨[tenToEleven .active], nodup_tenToEleven _⟩ none 0

theorem noDoubleBooking_tenToEleven : tenToElevenStored.bookings.NoDoubleBooking := by
  intro d hd e he hne
  obtain rfl := List.mem_singleton.1 hd
  obtain rfl := List.mem_singleton.1 he
  exact absurd rfl hne

/-- The sample update to a quarter to eleven asks for a window that ends then. -/
theorem requestedWindow_quarterToEleven :
    requestedWindow (docToBooking (tenToEleven .active)) (untilCheckOut "2030-01-01T10:45:00Z") =
      .ok (some (ofUnixMilli 1893492000000, ofUnixMilli 1893494700000)) := by decide

/-- The process starts at half past ten, and at once the check-out of the sample is changed. -/
def bootThenUpdate (checkOutTime : String) :
    Option (Timed World Int × Timed World Int) := do
  let m ← Event.restart.exec (List.replicate 60 halfPastTen) ⟨tenToElevenStored, halfPastTen.now⟩
  let m' ← (Event.request (.update (ObjectID.ofNat 7).hex (untilCheckOut checkOutTime))).exec
    (List.replicate 60 halfPastTen) m
  return (m, m')

end GbcVenue
