import GbcVenue.Concurrency.SchedulerJobs
import GbcVenue.Concurrency.Bookings

/-!
# The scheduler and the booking requests do not undo each other

In the runs without a disturbed check: a scheduler thread that deactivates a table because a booking has
ended removes no other booking, and once all have returned no cancelled booking is shown.
`cancelled_can_be_shown` is a run with a disturbed one.
-/

namespace GbcVenue

open Interleaving BookingService Scheduler

/-- Timers are armed for bookings of their table, and BUSY tables show live bookings of their own. -/
def Coherent (w : World) : Prop :=
  (∀ a ∈ w.armed, Stored a.bookingID a.key.tableID w.bookings) ∧
    ∀ t cb, w.tables.ShowsBusy t cb → StoredLive cb.bookingID t w.bookings

/-- A started process is coherent. -/
theorem coherent_start (bookings : BookingCollection) (config : Option VenueConfig) (offset : Int) :
    Coherent (World.start bookings config offset) := by
  refine ⟨by simp [World.start], ?_⟩
  intro t cb hcb
  exact absurd hcb (Tables.not_showsBusy_new t cb)

theorem Coherent.inv {w : World} (h : Coherent w) (past : Nat → List ((o : Op) × Res o)) :
    SchedulerInv ⟨w, past⟩ fun _ => none := by
  refine ⟨h.1, ?_⟩
  intro t cb hcb
  obtain ⟨d, hd, hid, ht, hl⟩ := h.2 t cb hcb
  exact ⟨d, hd, hid, ht, .inl hl⟩

/-- Once nothing is to be removed the state is coherent again. -/
theorem SchedulerInv.coherent {s : TracedWorld} {g : Removing} (h : SchedulerInv s g)
    (hg : ∀ i, g i = none) : Coherent s.state := by
  refine ⟨h.timers, ?_⟩
  intro t cb hcb
  obtain ⟨d, hd, hid, ht, hl | ⟨i, hi⟩⟩ := h.shown t cb hcb
  · exact ⟨d, hd, hid, ht, hl⟩
  · rw [hg i] at hi
    cases hi

theorem Coherent.cancelledNotShown {w : World} (h : Coherent w) : CancelledNotShown w := by
  intro t cb hcb d hd hid hcancelled
  obtain ⟨d', hd', hid', -, hl⟩ := h.2 t cb hcb
  have hdd : d' = d := w.bookings.id_inj hd' hd (ObjectID.hex_inj (hid'.trans hid.symm))
  subst hdd
  simp [BookingDoc.live, hcancelled] at hl

/-- Every job keeps the contract. -/
theorem job_triple {jobs : List Job} {i : Nat} {job : Job} (hi : jobs[i]? = some job)
    (hid : ∀ id, job = .cancel id → Canonical id) :
    (schedulerContract jobs).Triple i (Unbegun i) job.program fun _ => Clear i fun _ => True := by
  cases job with
  | create dto createdBy role =>
    exact create_job_triple.conseq (fun _ _ _ h => h.1) fun _ _ _ _ h => h
  | cancel id =>
    refine (cancel_job_triple ?_ (hid id rfl)).conseq (fun _ _ _ h => h.1) fun _ _ _ _ h => h
    rintro ⟨job, hjob, hsched⟩
    rw [hi, Option.some.injEq] at hjob
    subst hjob
    cases hsched
  | timer => exact timerFires_triple hi
  | reconcile => exact reconcile_triple hi

/-- Undisturbed runs keep the invariant, and each thread returns with nothing to remove. -/
theorem jobs_sound {jobs : List Job} {w : World} {c : Config Res Nat TracedWorld Unit}
    (hw : Coherent w) (hid : ∀ id, Job.cancel id ∈ jobs → Canonical id)
    (h : Reaches (traced (sem fun _ => True)) (undisturbed jobs) (startJobs jobs w) c) :
    ∃ g, SchedulerInv c.state g ∧ ∀ i, (schedulerContract jobs).Safe i (c.threads i)
      (fun _ => Clear i fun _ => True) c.state g := by
  refine Contract.sound (C := schedulerContract jobs) (c := startJobs jobs w) (hw.inv _) ?_ h
  intro i
  simp only [startJobs, jobThread]
  cases hi : jobs[i]? with
  | none => exact clear_ret lasting_true (fun _ h => h) _ _ (hw.inv _) ⟨rfl, trivial⟩
  | some job =>
    refine job_triple hi ?_ _ _ (hw.inv _) ⟨⟨rfl, trivial⟩, rfl⟩
    rintro id rfl
    exact hid id (List.mem_of_getElem? hi)

/-- In every undisturbed run, a scheduler thread that deactivates a table because a booking has ended
removes no other booking, and once all threads have returned no table shows a cancelled booking. -/
theorem jobs_do_not_undo {jobs : List Job} {w : World} {c : Config Res Nat TracedWorld Unit}
    (hw : Coherent w) (hid : ∀ id, Job.cancel id ∈ jobs → Canonical id)
    (h : Reaches (traced (sem fun _ => True)) (undisturbed jobs) (startJobs jobs w) c) :
    RemovesOnlyEnded jobs c ∧
      ((∀ i < jobs.length, c.threads i = .ret ()) → CancelledNotShown c.state.state) := by
  obtain ⟨g, hinv, hsafe⟩ := jobs_sound hw hid h
  constructor
  · intro i t k job hjob hi hact
    have hsafe_i := hsafe i
    rw [hact] at hsafe_i
    exact hsafe_i.checked hinv job hjob hi
  · intro hdone
    refine (hinv.coherent fun i => ?_).cancelledNotShown
    have hret : c.threads i = .ret () := by
      by_cases hi : i < jobs.length
      · exact hdone i hi
      · refine Reaches.returned h ?_
        simp [startJobs, jobThread, List.getElem?_eq_none (Nat.le_of_not_lt hi)]
    have hsafe_i := hsafe i
    rw [hret] at hsafe_i
    exact (hsafe_i.result hinv).1

/-! ## Runs on fixed inputs -/

/-- A process with that booking, one timer due for it, and the given tables. -/
def withTimer (kind : TimerKind) (tables : Tables) : World :=
  { World.start ⟨[tenToEleven .active], nodup_tenToEleven _⟩ none 0 with
    armed := [⟨0, ⟨1, kind⟩, (ObjectID.ofNat 7).hex, GoTime.ofUnixMilli 1893492000000⟩]
    nextTimer := 1
    tables := tables }

theorem stored_tenToEleven (kind : TimerKind) (tables : Tables) :
    StoredLive (ObjectID.ofNat 7).hex 1 (withTimer kind tables).bookings :=
  ⟨tenToEleven .active, by simp [withTimer, World.start], rfl, rfl, rfl⟩

theorem coherent_withTimer (kind : TimerKind) {tables : Tables}
    (h : ∀ t cb, tables.ShowsBusy t cb → t = 1 ∧ cb.bookingID = (ObjectID.ofNat 7).hex) :
    Coherent (withTimer kind tables) := by
  constructor
  · intro a ha
    simp only [withTimer, List.mem_singleton] at ha
    subst ha
    exact (stored_tenToEleven kind tables).stored
  · intro t cb hcb
    obtain ⟨rfl, hid⟩ := h t cb hcb
    rw [hid]
    exact stored_tenToEleven kind tables

theorem canonical_hex (o : ObjectID) : Canonical o.hex := by
  intro oid hoid
  rw [ObjectID.objectIDFromHex_hex, Option.some.injEq] at hoid
  rw [hoid]

/-- `covers` as a check on the clock of a cancellation. -/
def readInWindow (s : TracedWorld) (i : Nat) (now : Int) : Bool :=
  match s.last i with
  | some ⟨.save b, _⟩ => covers b now
  | _ => true

/-- The same check as a test on every step. -/
def stepInWindow (s : TracedWorld) (i : Nat) (o : Op) (r : Res o) : Bool :=
  match o, r with
  | .now, now => readInWindow s i now
  | _, _ => true

/-- A thread that has returned, or whose next action neither reads the clock nor writes the cache. -/
def notActing : Go Unit → Bool
  | .act .now _ | .act (.write _) _ => false
  | _ => true

theorem not_upcoming_of_notActing {p : Go Unit} (h : notActing p) (write : CacheWrite) :
    ¬ p.Upcoming Op.clockReading (.write write) := by
  intro hup
  cases p with
  | ret a => exact Prog.not_upcoming_ret a _ hup
  | act o k =>
    rcases Prog.upcoming_act.1 hup with heq | ⟨hskip, -⟩
    · subst heq
      cases h
    · cases o with
      | now => cases h
      | _ => exact hskip

/-- A cancellation of the running booking, and then its end timer. -/
theorem jobs_do_not_undo_in_turn : ∃ c : Config Res Nat TracedWorld Unit,
    c.state.state.bookings.docs = [tenToEleven .cancelled] ∧
    (c.state.state.tables.get 1).status = .available ∧ CancelledNotShown c.state.state := by
  let jobs : List Job := [.cancel (ObjectID.ofNat 7).hex, .timer]
  let w := withTimer .onEnd (Tables.new.activateTable 1 shownTenToEleven)
  let schedule : List (Nat × Env) := List.replicate 22 (0, halfPastTen) ++
    List.replicate 5 (1, halfPastTen)
  let adm (c : Config Res Nat TracedWorld Unit) (i : Nat) (o : Op) (r : Res o) : Bool :=
    decide (i < 2) && notActing (c.threads (1 - i)) && stepInWindow c.state i o r
  have hrun : ((startJobs jobs w).exec (Traced.perform perform) adm schedule).map (fun c =>
      (c.result 0, c.result 1, c.state.state.bookings.docs,
        (c.state.state.tables.get 1).status)) =
      some (some (), some (), [tenToEleven .cancelled], .available) := by
    decide +kernel
  obtain ⟨c, hc, hend⟩ := Option.map_eq_some_iff.1 hrun
  simp only [Prod.mk.injEq] at hend
  obtain ⟨h₀, h₁, hdocs, hstatus⟩ := hend
  have hcoherent : Coherent w := by
    apply coherent_withTimer
    intro t cb hcb
    rw [Tables.showsBusy_activateTable] at hcb
    split at hcb
    · rename_i ht
      exact ⟨ht, by rw [hcb]; rfl⟩
    · exact absurd hcb (Tables.not_showsBusy_new t cb)
  have hreach : Reaches (traced (sem fun _ => True)) (undisturbed jobs) (startJobs jobs w) c := by
    refine Config.reaches_of_exec (I := fun c => ∀ j, 2 ≤ j → c.threads j = .ret ())
      (fun p _ i o s r s' h => Traced.perform_sem (fun o s r s' h => ⟨p.2, trivial, h⟩) h)
      ?_ ?_ ?_ hc
    · intro c c' hstep hidle j hj
      exact Reaches.returned (.single hstep) (hidle j hj)
    · intro c i o r hidle hadm
      simp only [adm, Bool.and_eq_true, decide_eq_true_eq] at hadm
      obtain ⟨⟨hi, hother⟩, hnow⟩ := hadm
      have hnone : ∀ j, j ≠ i → ∀ write,
          ¬ (c.threads j).Upcoming Op.clockReading (.write write) := by
        intro j hj write
        apply not_upcoming_of_notActing
        by_cases h2 : 2 ≤ j
        · rw [hidle j h2]
          rfl
        · have hj' : j = 1 - i := by omega
          rw [hj']
          exact hother
      cases o with
      | save b => exact fun _ _ j hj t cb hup => absurd hup (hnone j hj _)
      | write write =>
        cases write with
        | activateTable t cb => exact fun j hj _ => hnone j hj _
        | _ => trivial
      | now =>
        intro b hlast _ cb _ _
        simp only [stepInWindow, readInWindow, hlast] at hnow
        exact hnow
      | _ => trivial
    · intro j hj
      have hnone : jobs[j]? = none := List.getElem?_eq_none hj
      simp [startJobs, jobThread, hnone]
  have hids : ∀ id, Job.cancel id ∈ jobs → Canonical id := by
    intro id hid
    simp only [jobs, List.mem_cons, Job.cancel.injEq, List.not_mem_nil, or_false, reduceCtorEq] at hid
    rw [hid]
    exact canonical_hex _
  have hdone : ∀ i < jobs.length, c.threads i = .ret () := Config.threads_of_two h₀ h₁
  exact ⟨c, hdocs, hstatus, (jobs_do_not_undo hcoherent hids hreach).2 hdone⟩

/-- Without that condition it fails: a start timer reads the booking, the booking is cancelled, and
the timer activates it. -/
theorem cancelled_can_be_shown :
    ¬ ∀ (jobs : List Job) (w : World) (c : Config Res Nat TracedWorld Unit), Coherent w →
      (∀ id, Job.cancel id ∈ jobs → Canonical id) →
      Reaches (traced (sem fun _ => True)) anyStep (startJobs jobs w) c →
      RemovesOnlyEnded jobs c ∧
        ((∀ i < jobs.length, c.threads i = .ret ()) → CancelledNotShown c.state.state) := by
  intro hclaim
  let jobs : List Job := [.timer, .cancel (ObjectID.ofNat 7).hex]
  let w := withTimer .onStart Tables.new
  let schedule : List (Nat × Env) := List.replicate 4 (0, halfPastTen) ++
    List.replicate 17 (1, halfPastTen) ++ List.replicate 9 (0, halfPastTen)
  have hrun : ((startJobs jobs w).exec (Traced.perform perform) (fun _ _ _ _ => true)
      schedule).map (fun c => (c.result 0, c.result 1, c.state.state.bookings.docs,
        (c.state.state.tables.get 1).status, (c.state.state.tables.get 1).currentBooking)) =
      some (some (), some (), [tenToEleven .cancelled], .busy, some shownTenToEleven) := by
    decide +kernel
  obtain ⟨c, hc, hend⟩ := Option.map_eq_some_iff.1 hrun
  simp only [Prod.mk.injEq] at hend
  obtain ⟨h₀, h₁, hdocs, hstatus, hcb⟩ := hend
  have hcoherent : Coherent w := by
    apply coherent_withTimer
    intro t cb hcb
    exact absurd hcb (Tables.not_showsBusy_new t cb)
  have hids : ∀ id, Job.cancel id ∈ jobs → Canonical id := by
    intro id hid
    simp only [jobs, List.mem_cons, Job.cancel.injEq, List.not_mem_nil, or_false, reduceCtorEq,
      false_or] at hid
    rw [hid]
    exact canonical_hex _
  have hreach : Reaches (traced (sem fun _ => True)) anyStep (startJobs jobs w) c :=
    Config.reaches_of_exec_any
      (fun p _ i o s r s' h => Traced.perform_sem (fun o s r s' h => ⟨p.2, trivial, h⟩) h) hc
  have hdone : ∀ i < jobs.length, c.threads i = .ret () := Config.threads_of_two h₀ h₁
  refine (hclaim jobs w c hcoherent hids hreach).2 hdone 1 shownTenToEleven ⟨hstatus, hcb⟩
    (tenToEleven .cancelled) ?_ rfl rfl
  rw [hdocs]
  exact List.mem_singleton.2 rfl

end GbcVenue
