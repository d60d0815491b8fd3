import GbcVenue.Backend.Runs
import GbcVenue.Concurrency.BookingThreads

/-!
# The sequential meaning is what a request does alone

`SpecStep.exists_runs`: for every sequential step of an update or a cancellation, the program of the
request, run alone in a process at rest, has a run with that reply and that store.
-/

namespace GbcVenue

open Interleaving BookingService

/-- No mutex is held, and the tables have mutexes of their own. -/
structure Idle (w : World) : Prop where
  free : ∀ m, w.held m = none
  mutexes : MutexesDistinct w

theorem idle_start (c : BookingCollection) (config : Option VenueConfig) (offset : Int) :
    Idle (World.start c config offset) := by
  refine ⟨fun _ => rfl, ⟨fun t t' n h h' => ?_, fun t n h => ?_⟩⟩
  · simp only [World.start, Option.ite_none_right_eq_some, Option.some.injEq] at h h'
    omega
  · simp only [World.start, Option.ite_none_right_eq_some, Option.some.injEq] at h ⊢
    omega

/-- The store is `c`, and nothing else that a request shares with others has changed. -/
structure Wrote (c : BookingCollection) (w w' : World) : Prop where
  bookings : w'.bookings = c
  held : w'.held = w.held
  tblMu : w'.tblMu = w.tblMu
  nextMutex : w'.nextMutex = w.nextMutex

section

variable {faults : Option String → Prop} {i : Nat}

/-- An environment with a given database fault. -/
def envOf (f : Option String) : Env := ⟨0, .zero, f, 0⟩

theorem exists_runs_getTableMutex (hnone : faults none) {w : World} (hw : Idle w) (t : Int) :
    ∃ n w', Prog.Runs (sem (faulty faults)) i (getTableMutex t) w (.table n) w' ∧
      w'.bookings = w.bookings ∧ Idle w' := by
  let w₁ : World := { w with held := Function.update w.held .service (some i) }
  let w₂ : World := { (w₁.tableMutex t).2 with
    held := Function.update (w₁.tableMutex t).2.held .service none }
  obtain ⟨hm, -, -, hb, hheld⟩ := tableMutex_spec (w := w₁) (hw.mutexes.congr rfl rfl) t
  have he : faulty faults (envOf none) := hnone
  refine ⟨(w₁.tableMutex t).1, w₂, ?_, hb, ⟨fun m => ?_, hm.congr rfl rfl⟩⟩
  · refine runs_lock.2 ⟨_, he, hw.free _, ?_⟩
    refine runs_tableMutex.2 ⟨_, he, ?_⟩
    exact runs_unlock.2 ⟨_, he, by simp [hheld, w₁], .ret _ _⟩
  · by_cases h : m = .service
    · subst h
      simp [w₂]
    · simp [w₂, hheld, w₁, h, hw.free]

/-- A critical section of a table, entered at rest. -/
theorem exists_runs_withLock {n : Nat} {w : World} (hnone : faults none) (hw : Idle w)
    {c : BookingCollection} {body : Go Reply} {r : Reply}
    (hbody : ∀ w₁ : World, w₁.bookings = w.bookings →
      ∃ w₂, Prog.Runs (sem (faulty faults)) i body w₁ r w₂ ∧ Wrote c w₁ w₂) :
    ∃ w', Prog.Runs (sem (faulty faults)) i (withLock (.table n) body) w r w' ∧
      w'.bookings = c ∧ Idle w' := by
  have he : faulty faults (envOf none) := hnone
  let w₁ : World := { w with held := Function.update w.held (.table n) (some i) }
  obtain ⟨w₂, hrun, hwrote⟩ := hbody w₁ rfl
  let w₃ : World := { w₂ with held := Function.update w₂.held (.table n) none }
  refine ⟨w₃, ?_, hwrote.bookings,
    ⟨fun m => ?_, hw.mutexes.congr hwrote.tblMu hwrote.nextMutex⟩⟩
  · simp only [withLock, Prog.call_bind, Prog.pure_eq]
    refine runs_lock.2 ⟨_, he, hw.free _, Prog.runs_bind.2 ⟨r, w₂, hrun, ?_⟩⟩
    exact runs_unlock.2 ⟨_, he, by simp [hwrote.held, w₁], .ret _ _⟩
  · by_cases h : m = .table n
    · subst h
      simp [w₃]
    · simp [w₃, hwrote.held, w₁, h, hw.free]

theorem not_cancelled_of_live {d : BookingDoc} (hl : d.live) :
    ¬ (docToBooking d).status = .cancelled := by
  simpa [BookingDoc.live] using hl

/-- The reads that an update or a cancellation starts with, when the first finds a document. -/
theorem exists_runs_withFresh {id : String} {body : Booking → Go Reply} {w : World} {d : BookingDoc}
    (hnone : faults none) (hw : Idle w) (hd : d ∈ w.bookings.docs)
    (hid : objectIDFromHex id = some d.id) (hl : d.live) {c : BookingCollection} {r : Reply}
    (hbody : ∀ w₁ : World, w₁.bookings = w.bookings →
      ∃ w₂, Prog.Runs (sem (faulty faults)) i (refetch id body) w₁ r w₂ ∧ Wrote c w₁ w₂) :
    ∃ w', Prog.Runs (sem (faulty faults)) i (withFresh id body) w r w' ∧
      w'.bookings = c ∧ Idle w' := by
  obtain ⟨n, w₁, hmutex, hb, hw₁⟩ := exists_runs_getTableMutex (i := i) hnone hw d.tableID
  obtain ⟨w', hlock, hc, hw'⟩ := exists_runs_withLock (n := n) hnone hw₁
    fun w₂ h₂ => hbody w₂ (h₂.trans hb)
  refine ⟨w', runs_findByID.2 ⟨envOf none, hnone, ?_⟩, hc, hw'⟩
  simp only [envOf, BookingCollection.findByID_of_mem hd hid, Prog.bind_eq, Prog.ret_bind,
    not_cancelled_of_live hl, if_false]
  exact Prog.runs_bind.2 ⟨_, w₁, hmutex, hlock⟩

/-- Both reads find the document. -/
theorem exists_runs_fresh {id : String} {body : Booking → Go Reply} {w : World} {d : BookingDoc}
    (hnone : faults none) (hw : Idle w) (hd : d ∈ w.bookings.docs)
    (hid : objectIDFromHex id = some d.id) (hl : d.live) {c : BookingCollection} {r : Reply}
    (hbody : ∀ w₁ : World, w₁.bookings = w.bookings →
      ∃ w₂, Prog.Runs (sem (faulty faults)) i (body (docToBooking d)) w₁ r w₂ ∧ Wrote c w₁ w₂) :
    ∃ w', Prog.Runs (sem (faulty faults)) i (withFresh id body) w r w' ∧
      w'.bookings = c ∧ Idle w' := by
  refine exists_runs_withFresh hnone hw hd hid hl fun w₁ h₁ => ?_
  obtain ⟨w₂, hrun, hwrote⟩ := hbody w₁ h₁
  rw [← h₁] at hd
  refine ⟨w₂, runs_findByID.2 ⟨envOf none, hnone, ?_⟩, hwrote⟩
  simpa only [envOf, BookingCollection.findByID_of_mem hd hid, Prog.bind_eq, Prog.ret_bind,
    not_cancelled_of_live hl, if_false] using hrun

/-- Every reason for finding nothing is one that the request, alone, answers with. -/
theorem Missed.exists_runs {id : String} {body : Booking → Go Reply} {w : World} {e : GoError}
    (h : Missed faults w.bookings id e) (hnone : faults Option.none) (hw : Idle w) :
    ∃ w', Prog.Runs (sem (faulty faults)) i (withFresh id body) w (.error e) w' ∧
      w'.bookings = w.bookings ∧ Idle w' := by
  cases h with
  | @fetch f e hf h =>
    refine ⟨w, runs_findByID.2 ⟨envOf f, hf, ?_⟩, rfl, hw⟩
    simpa only [envOf, h] using .ret _ _
  | @none f hf h =>
    refine ⟨w, runs_findByID.2 ⟨envOf f, hf, ?_⟩, rfl, hw⟩
    simpa only [envOf, h] using .ret _ _
  | @cancelled f b hf h hb =>
    refine ⟨w, runs_findByID.2 ⟨envOf f, hf, ?_⟩, rfl, hw⟩
    simpa only [envOf, h, Prog.bind_eq, Prog.ret_bind, hb, if_true] using .ret _ _
  | @refetch f e d hf h hd hid hl =>
    refine exists_runs_withFresh hnone hw hd hid hl fun w₁ h₁ => ?_
    refine ⟨w₁, runs_findByID.2 ⟨envOf f, hf, ?_⟩, h₁, rfl, rfl, rfl⟩
    simpa only [envOf, h₁, h] using .ret _ _

/-- The overlap check of an update that lets the window through. -/
theorem exists_runs_checkWindow {id : String} {w : World} {t : Int} {window : Option (Int × Int)}
    (h : WindowFree faults w.bookings t id window) :
    Prog.Runs (sem (faulty faults)) i (checkWindow t window id) w (.ok ()) w := by
  cases window with
  | none => exact .ret _ _
  | some window =>
    obtain ⟨newIn, newOut⟩ := window
    obtain ⟨f, hf, ho⟩ := h
    exact runs_hasOverlap.2 ⟨envOf f, hf, by simpa only [envOf, ho] using .ret _ _⟩

/-- The write of a request and its quiet end. -/
theorem exists_runs_saved (hnone : faults none) {w : World} {oid : ObjectID} {b : Booking}
    (hid : b.id = oid.hex) {p : Go Unit} (hp : p.All fun o => o.quiet) :
    ∃ w', (∀ k : Except GoError Unit → Go Reply, k (.ok ()) = (p >>= fun _ => .ret (.ok b)) →
        Prog.Runs (sem (faulty faults)) i (.act (Op.save b) k) w (.ok b) w') ∧
      Wrote (w.bookings.replaceOne (docOf oid b)) w w' := by
  have he : faulty faults (envOf none) := hnone
  rcases w.bookings.save_cases none hid with ⟨_, ⟨⟩, -⟩ | ⟨-, hsave⟩
  let w₁ : World := { w with bookings := w.bookings.replaceOne (docOf oid b) }
  obtain ⟨_, w₂, hrun, hsame⟩ := exists_runs_of_quiet he hp i w₁
  refine ⟨w₂, fun k hk => runs_save.2 ⟨envOf none, he, ?_⟩,
    ⟨hsame.bookings, hsame.held, hsame.tblMu, hsame.nextMutex⟩⟩
  simp only [envOf, hsave, hk]
  exact Prog.runs_bind.2 ⟨_, w₂, hrun, .ret _ _⟩

/-- The write of a request, when the database fails. -/
theorem exists_runs_unsaved {e : String} (he : faults (some e)) {w : World} {oid : ObjectID}
    {b : Booking} (hid : b.id = oid.hex) {k : Except GoError Unit → Go Reply} {r : Reply}
    (hk : k (.error (.text e)) = .ret r) :
    Prog.Runs (sem (faulty faults)) i (.act (Op.save b) k) w r w := by
  rcases w.bookings.save_cases (some e) hid with ⟨_, ⟨⟩, hsave⟩ | ⟨⟨⟩, -⟩
  refine runs_save.2 ⟨envOf (some e), he, ?_⟩
  simp only [envOf, hsave, hk]
  exact .ret _ _

theorem exists_runs_update {id : String} {dto : UpdateBookingInput} {w : World}
    {c' : BookingCollection} {r : Reply} (hnone : faults none) (hw : Idle w)
    (h : SpecStep faults (.update id dto) w.bookings r c') :
    ∃ w', Prog.Runs (sem (faulty faults)) i (updateBooking id dto) w r w' ∧
      w'.bookings = c' ∧ Idle w' := by
  cases h with
  | updateMissed h => exact h.exists_runs hnone hw
  | @updateInvalid _ _ _ e d hd hid hl h =>
    refine exists_runs_fresh hnone hw hd hid hl fun w₁ h₁ => ⟨w₁, ?_, h₁, rfl, rfl, rfl⟩
    rw [updateFresh, h]
    exact .ret _ _
  | @updateUnchecked _ _ _ d newIn newOut f e hd hid hl h hf ho =>
    refine exists_runs_fresh hnone hw hd hid hl fun w₁ h₁ => ⟨w₁, ?_, h₁, rfl, rfl, rfl⟩
    rw [updateFresh, h]
    exact runs_hasOverlap.2 ⟨envOf f, hf, by simp [envOf, h₁, ho]⟩
  | @updateConflict _ _ _ d newIn newOut f hd hid hl h hf ho =>
    refine exists_runs_fresh hnone hw hd hid hl fun w₁ h₁ => ⟨w₁, ?_, h₁, rfl, rfl, rfl⟩
    rw [updateFresh, h]
    exact runs_hasOverlap.2 ⟨envOf f, hf, by simp [envOf, h₁, ho]⟩
  | @updateFailed _ _ _ d window e hd hid hl h hfree hf =>
    refine exists_runs_fresh hnone hw hd hid hl fun w₁ h₁ => ⟨w₁, ?_, h₁, rfl, rfl, rfl⟩
    rw [updateFresh, h]
    rw [← h₁] at hfree
    exact Prog.runs_bind.2 ⟨_, w₁, exists_runs_checkWindow hfree,
      exists_runs_unsaved hf (updated_id _ _ _) rfl⟩
  | @updated _ _ _ d window hd hid hl h hfree =>
    refine exists_runs_fresh hnone hw hd hid hl fun w₁ h₁ => ?_
    obtain ⟨w₂, hrun, hwrote⟩ := exists_runs_saved (i := i) (w := w₁) hnone
      (updated_id (docToBooking d) dto window) (syncUpdated_quiet _)
    refine ⟨w₂, ?_, h₁ ▸ hwrote⟩
    rw [updateFresh, h]
    rw [← h₁] at hfree
    exact Prog.runs_bind.2 ⟨_, w₁, exists_runs_checkWindow hfree, hrun _ rfl⟩

theorem exists_runs_cancel {id : String} {w : World} {c' : BookingCollection} {r : Reply}
    (hnone : faults none) (hw : Idle w) (h : SpecStep faults (.cancel id) w.bookings r c') :
    ∃ w', Prog.Runs (sem (faulty faults)) i (cancelBooking id) w r w' ∧
      w'.bookings = c' ∧ Idle w' := by
  cases h with
  | cancelMissed h => exact h.exists_runs hnone hw
  | @cancelFailed _ _ d e hd hid hl hf =>
    refine exists_runs_fresh hnone hw hd hid hl fun w₁ h₁ => ⟨w₁, ?_, h₁, rfl, rfl, rfl⟩
    have hid' : (BookingService.cancelled (docToBooking d)).id = d.id.hex := rfl
    exact exists_runs_unsaved hf hid' rfl
  | @cancelled _ _ d hd hid hl =>
    refine exists_runs_fresh hnone hw hd hid hl fun w₁ h₁ => ?_
    have hid' : (BookingService.cancelled (docToBooking d)).id = d.id.hex := rfl
    obtain ⟨w₂, hrun, hwrote⟩ := exists_runs_saved (i := i) (w := w₁) hnone hid'
      (syncCancelled_quiet id _)
    exact ⟨w₂, hrun _ rfl, h₁ ▸ hwrote⟩

end

end GbcVenue
