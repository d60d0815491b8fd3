import GbcVenue.Backend.Frame
import GbcVenue.Interleaving.Traced
import GbcVenue.Repository.CollectionProps

/-!
# The scheduler beside booking requests

Creations, cancellations, fired timers and reconcile passes as threads. Each scheduler path checks
and then acts, with no lock over the two. `undisturbed` names the steps that spoil such a check; the
contract below holds of the runs without them. Its ghost state says which cancellation has still to
take its booking off the table.
-/

namespace GbcVenue

open Interleaving BookingService

/-- What may run at the same time. A fired timer runs `handleStartFired` or `handleEndFired`. -/
inductive Job
  | create (dto : CreateBookingInput) (createdBy role : String)
  | cancel (id : String)
  | timer
  | reconcile

namespace Job

def program : Job → Go Unit
  | create dto createdBy role => do
    let _ ← createBooking dto createdBy role
    return
  | cancel id => do
    let _ ← cancelBooking id
    return
  | timer => Scheduler.timerFires
  | reconcile => Scheduler.reconcile

/-- The jobs of the scheduler. -/
def isScheduler : Job → Bool
  | timer | reconcile => true
  | create .. | cancel _ => false

end Job

/-- The world, and what each thread has done. -/
abbrev TracedWorld := Traced Res Nat World

def jobThread (jobs : List Job) (i : Nat) : Go Unit :=
  match jobs[i]? with
  | some job => job.program
  | none => return

/-- The moment at which all the jobs start. -/
def startJobs (jobs : List Job) (w : World) : Config Res Nat TracedWorld Unit :=
  ⟨⟨w, fun _ => []⟩, jobThread jobs⟩

/-- Thread `i` serves a job of the scheduler. -/
def SchedulerThread (jobs : List Job) (i : Nat) : Prop :=
  ∃ job, jobs[i]? = some job ∧ job.isScheduler

/-! ## What is claimed of a run -/

/-- The cache does not show a cancelled booking as BUSY. -/
def CancelledNotShown (w : World) : Prop :=
  ∀ t cb, w.tables.ShowsBusy t cb → ∀ d ∈ w.bookings.docs, d.id.hex = cb.bookingID →
    d.status ≠ .cancelled

/-- The id of the booking in an answer of `GetTable`. -/
def shownID (r : TableState × Bool) : Option String :=
  r.1.currentBooking.map CurrentBooking.bookingID

/-- The booking whose end makes thread `i` deactivate the table: the one of the end timer whose firing
began the thread, or the one that it found there past its check-out, by the clock that it read first. -/
def Job.EndedBooking (job : Job) (i : Nat) (t : Int) (s : TracedWorld) (id : String) : Prop :=
  match job with
  | timer => ∃ a : ArmedTimer, s.first i = some ⟨.fire, a⟩ ∧ a.key = Scheduler.endKey t ∧
      a.bookingID = id
  | reconcile => ∃ (now : Int) (r : TableState × Bool) (cb : CurrentBooking),
      s.first i = some ⟨.now, now⟩ ∧ s.last i = some ⟨.getTable t, r⟩ ∧
      r.1.currentBooking = some cb ∧ Scheduler.expired cb now ∧ cb.bookingID = id
  | create .. | cancel _ => False

/-- A BUSY table shows no other booking than the one whose end makes the thread deactivate it. -/
def Removable (job : Job) (i : Nat) (t : Int) (s : TracedWorld) : Prop :=
  ∃ id, job.EndedBooking i t s id ∧ ∀ cb, s.state.tables.ShowsBusy t cb → cb.bookingID = id

/-- A scheduler thread that is about to deactivate a table because a booking has ended removes no other
booking. -/
def RemovesOnlyEnded (jobs : List Job) (c : Config Res Nat TracedWorld Unit) : Prop :=
  ∀ i t k job, jobs[i]? = some job → job.isScheduler →
    c.threads i = .act (.write (.deactivateTable t)) k → Removable job i t c.state

/-! ## The steps that disturb a check -/

/-- Reading the clock: the one action between a read of the scheduler and the write it decides. -/
def Op.clockReading : Op → Prop
  | .now => True
  | _ => False

/-- No step comes between another thread's check and its action in a way that matters:
no cancellation is saved for a booking that another thread is about to activate; no booking is activated
on a table between the `GetTable` and the `DeactivateTable` of a scheduler thread; and a cancellation
whose booking the cache shows reads a clock within that booking's window. -/
def undisturbed (jobs : List Job) (c : Config Res Nat TracedWorld Unit) (i : Nat) :
    (o : Op) → Res o → Prop
  | .save b, r => b.status = .cancelled → r = .ok () → ∀ j, j ≠ i → ∀ t cb,
      (c.threads j).Upcoming Op.clockReading (.write (.activateTable t cb)) → cb.bookingID ≠ b.id
  | .write (.activateTable t _), _ => ∀ j, j ≠ i → SchedulerThread jobs j →
      ¬ (c.threads j).Upcoming Op.clockReading (.write (.deactivateTable t))
  | .now, now => ∀ b, c.state.last i = some ⟨.save b, .ok ()⟩ → b.status = .cancelled →
      ∀ cb, c.state.state.tables.ShowsBusy b.tableID cb → cb.bookingID = b.id → covers b now
  | _, _ => True

/-! ## The contract -/

/-- Which booking a cancellation has saved and not yet taken off its table. -/
abbrev Removing := Nat → Option ObjectID

/-- The invariant: timers run for bookings of their table, and a BUSY table shows a booking of its
own that is live or that some cancellation is about to remove. -/
structure SchedulerInv (s : TracedWorld) (g : Removing) : Prop where
  timers : ∀ a ∈ s.state.armed, Stored a.bookingID a.key.tableID s.state.bookings
  shown : ∀ t cb, s.state.tables.ShowsBusy t cb → ∃ d ∈ s.state.bookings.docs,
    d.id.hex = cb.bookingID ∧ d.tableID = t ∧ (d.live ∨ ∃ i, g i = some d.id)

/-- What the threads other than `i` may do while it is stopped before the actions `up`. -/
structure SchedulerRely (jobs : List Job) (i : Nat) (up : Op → Prop) (s : TracedWorld) (g : Removing)
    (s' : TracedWorld) (g' : Removing) : Prop where
  removing : g' i = g i
  past : s'.past i = s.past i
  persists : Persists s.state.bookings s'.state.bookings
  live : ∀ t cb, up (.write (.activateTable t cb)) → StoredLive cb.bookingID t s.state.bookings →
    StoredLive cb.bookingID t s'.state.bookings
  shown : ∀ t, up (.write (.deactivateTable t)) → SchedulerThread jobs i →
    ∀ cb, s'.state.tables.ShowsBusy t cb → s.state.tables.ShowsBusy t cb

theorem SchedulerRely.trans {jobs : List Job} {i : Nat} {up : Op → Prop} {s s' s'' : TracedWorld}
    {g g' g'' : Removing} (h : SchedulerRely jobs i up s g s' g')
    (h' : SchedulerRely jobs i up s' g' s'' g'') : SchedulerRely jobs i up s g s'' g'' where
  removing := h'.removing.trans h.removing
  past := h'.past.trans h.past
  persists := h.persists.trans h'.persists
  live t cb hup hl := h'.live t cb hup (h.live t cb hup hl)
  shown t hup hi cb hcb := h.shown t hup hi cb (h'.shown t hup hi cb hcb)

theorem SchedulerRely.last {jobs : List Job} {i : Nat} {up : Op → Prop} {s s' : TracedWorld}
    {g g' : Removing} (h : SchedulerRely jobs i up s g s' g') : s'.last i = s.last i :=
  congrArg List.head? h.past

theorem SchedulerRely.first {jobs : List Job} {i : Nat} {up : Op → Prop} {s s' : TracedWorld}
    {g g' : Removing} (h : SchedulerRely jobs i up s g s' g') : s'.first i = s.first i :=
  congrArg List.getLast? h.past

/-- A thread that is about to deactivate a table may go on to do so. -/
theorem SchedulerRely.removable {jobs : List Job} {i : Nat} {up : Op → Prop} {s s' : TracedWorld}
    {g g' : Removing} (h : SchedulerRely jobs i up s g s' g') {t : Int}
    (hup : up (.write (.deactivateTable t))) (hi : SchedulerThread jobs i) {job : Job}
    (hjob : Removable job i t s) : Removable job i t s' := by
  obtain ⟨id, hended, hshown⟩ := hjob
  refine ⟨id, ?_, fun cb hcb => hshown cb (h.shown t hup hi cb hcb)⟩
  cases job with
  | timer =>
    rw [Job.EndedBooking, h.first]
    exact hended
  | reconcile =>
    rw [Job.EndedBooking, h.first, h.last]
    exact hended
  | _ => exact hended

/-- What must hold when thread `i` acts: a scheduler thread deactivates what has ended. -/
def deactivatesEnded (jobs : List Job) (i : Nat) (s : TracedWorld) : Op → Prop
  | .write (.deactivateTable t) => ∀ job, jobs[i]? = some job → job.isScheduler → Removable job i t s
  | _ => True

/-- The contract of the scheduler and the booking requests. -/
def schedulerContract (jobs : List Job) : Contract Res Nat TracedWorld Removing Unit where
  sem := traced (sem fun _ => True)
  ok := undisturbed jobs
  skip := Op.clockReading
  inv := SchedulerInv
  check i o s _ := deactivatesEnded jobs i s o
  rely := SchedulerRely jobs
  rely_refl _ _ _ _ := ⟨rfl, rfl, .refl _, fun _ _ _ h => h, fun _ _ _ _ h => h⟩
  rely_trans _ _ _ _ _ _ _ _ h h' := h.trans h'
  rely_mono _ _ _ _ _ _ _ hmono h :=
    ⟨h.removing, h.past, h.persists, fun t cb hup => h.live t cb (hmono _ hup),
      fun t hup => h.shown t (hmono _ hup)⟩

/-- An action that touches neither the store nor the tables is within every rely. -/
theorem rely_of_same {jobs : List Job} {j : Nat} {up : Op → Prop} {s s' : TracedWorld}
    {g g' : Removing} (hpast : s'.past j = s.past j)
    (hb : s'.state.bookings = s.state.bookings) (ht : s'.state.tables = s.state.tables)
    (hg : g' j = g j) : SchedulerRely jobs j up s g s' g' :=
  ⟨hg, hpast, by rw [hb]; exact .refl _, fun t cb _ h => by rwa [hb],
    fun t _ _ cb hcb => by rwa [ht] at hcb⟩

/-! ## Actions that disturb nothing -/

/-- The actions that write neither the store nor the cache and arm no timer. -/
def Op.calm : Op → Bool
  | .create _ | .save _ | .write _ | .afterFunc .. => false
  | _ => true

theorem Op.calm_of_timeline {o : Op} (h : o.timeline) : o.calm := by
  cases o <;> first | rfl | cases h

theorem perform_calm {o : Op} (h : o.calm) {i : Nat} {e : Env} {w w' : World} {r : Res o}
    (hp : perform i e o w = some (r, w')) :
    w'.bookings = w.bookings ∧ w'.tables = w.tables ∧ ∀ a ∈ w'.armed, a ∈ w.armed := by
  cases o
  case lock m =>
    simp only [perform] at hp
    split at hp
    · cases hp
      exact ⟨rfl, rfl, fun _ h => h⟩
    · cases hp
  case unlock m =>
    simp only [perform] at hp
    split at hp
    · cases hp
      exact ⟨rfl, rfl, fun _ h => h⟩
    · cases hp
  case tableMutex t =>
    have hw : w' = (w.tableMutex t).2 := by
      rw [Option.some.inj hp]
    rw [hw, World.tableMutex]
    split <;> exact ⟨rfl, rfl, fun _ h => h⟩
  case clearTimer key =>
    cases hp
    unfold World.clearTimer
    split
    · exact ⟨rfl, rfl, fun _ h => List.mem_of_mem_filter h⟩
    · exact ⟨rfl, rfl, fun _ h => h⟩
  case fire =>
    simp only [perform] at hp
    split at hp
    · cases hp
      exact ⟨rfl, rfl, fun _ h => List.mem_of_mem_filter h⟩
    · cases hp
  all_goals first | (cases hp; exact ⟨rfl, rfl, fun _ h => h⟩) | cases h

end GbcVenue
