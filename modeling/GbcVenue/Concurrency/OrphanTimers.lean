import GbcVenue.Concurrency.Schedulers
import GbcVenue.Concurrency.TimerStages

/-!
# Orphan timers

The goroutines of the scheduler in any number and any interleaving, with `StopAll` at any moment.
`no_orphan_timers`: as long as two calls that set a timer of one key do not overlap, none starts while a
callback of the key has not taken its record away, and none is under way at `StopAll` or starts after it,
every armed timer whose setter is done is the one recorded under its key.
-/

namespace GbcVenue

open Interleaving BookingService Scheduler

/-- Go `StopAll` (`scheduler.go:97-105`), one critical section over the whole map. A timer is recorded
under no other key than its own, so it is looked for there. -/
def World.stopAll (w : World) : World :=
  { w with
    timers := fun _ => none
    armed := w.armed.filter fun a => w.timers a.key ≠ some a.id }

/-- The actions of the scheduler on its timers. -/
def Op.onTimers : Op → Bool
  | .clearTimer _ | .afterFunc .. | .recordTimer .. | .deleteTimer _ | .fire => true
  | _ => false

/-- The actions by which timers are armed, recorded, deleted and fired. -/
def Op.movesTimer : Op → Bool
  | .afterFunc .. | .recordTimer .. | .deleteTimer _ | .fire => true
  | _ => false

/-- The goroutines over the shared state, and whether `StopAll` was called. -/
structure Runtime where
  pool : Config Res Nat World Unit
  stopped : Bool

/-- The stage of a goroutine, by the action that it takes next. -/
def stageOf : Go Unit → Stage
  | .act (.afterFunc _ key _) _ => .arming key
  | .act (.recordTimer key n) _ => .recording key n
  | .act (.deleteTimer key) _ => .deleting key
  | _ => .free

/-- The key for which a goroutine is about to start setting a timer. The `clearTimer` calls of
`clearTableTimers` start nothing. -/
def startsSetting : Go Unit → Option TimerKey
  | .act (.clearTimer key) k => if stageOf (k ()) = .arming key then some key else none
  | _ => none

/-- A goroutine starts setting a timer only before `StopAll`, and only where no other is in the middle of
setting one of the same key and no timer of the key has fired whose record is still to be deleted. -/
def SetsApart (stopped : Bool) (c : Config Res Nat World Unit) (i : Nat) : Prop :=
  ∀ key, startsSetting (c.threads i) = some key → stopped = false ∧
    ∀ j, j ≠ i → ¬ (stageOf (c.threads j)).sets key ∧ stageOf (c.threads j) ≠ .deleting key

/-- No goroutine is in the middle of setting a timer. -/
def NoneSets (c : Config Res Nat World Unit) : Prop := ∀ i key, ¬ (stageOf (c.threads i)).sets key

namespace Runtime

def armed (c : Runtime) : List ArmedTimer := c.pool.state.armed

def timers (c : Runtime) : TimerKey → Option Nat := c.pool.state.timers

/-- One step: an action of goroutine `i` where `ok` admits it, or `StopAll` where `okStop` does. -/
inductive Step (ok : Bool → Config Res Nat World Unit → Nat → Prop)
    (okStop : Config Res Nat World Unit → Prop) : Runtime → Runtime → Prop
  | act {pool pool' : Config Res Nat World Unit} {stopped : Bool}
      (h : Interleaving.Step (sem fun _ => True) (fun c i _ _ => ok stopped c i) pool pool') :
      Step ok okStop ⟨pool, stopped⟩ ⟨pool', stopped⟩
  | stopAll (pool : Config Res Nat World Unit) (stopped : Bool) (hok : okStop pool) :
      Step ok okStop ⟨pool, stopped⟩ ⟨{ pool with state := pool.state.stopAll }, true⟩

def Reaches (ok : Bool → Config Res Nat World Unit → Nat → Prop)
    (okStop : Config Res Nat World Unit → Prop) : Runtime → Runtime → Prop :=
  Relation.ReflTransGen (Step ok okStop)

/-- A goroutine of the scheduler, or another that has nothing to do with timers. -/
def Goroutine (p : Go Unit) : Prop :=
  p = initAll ∨ p = reconcile ∨ p = timerFires ∨ (∃ t, p = rescheduleTable t) ∨
    p.All fun o => !o.onTimers

/-- The start of the process. -/
structure Start (c : Runtime) : Prop where
  stopped : c.stopped = false
  timers : ∀ key, c.timers key = none
  armed : c.armed = []
  threads : ∀ i, Goroutine (c.pool.threads i)

/-- The setter of the timer is between `time.AfterFunc` and the record. -/
def BeingSet (c : Runtime) (a : ArmedTimer) : Prop :=
  ∃ i k, c.pool.threads i = .act (.recordTimer a.key a.id) k

/-- A goroutine that has returned, or that waits for a timer. -/
def Resting (p : Go Unit) : Prop := p = .ret () ∨ ∃ k, p = .act .fire k

/-- There are no orphan timers. -/
structure NoOrphans (c : Runtime) : Prop where
  stored : ∀ a ∈ c.armed, ¬ c.BeingSet a → c.timers a.key = some a.id
  alone : ∀ a ∈ c.armed, ∀ b ∈ c.armed, a.key = b.key → a = b
  stopped : c.stopped → (∀ i, Resting (c.pool.threads i)) → c.armed = []

end Runtime

/-! ## Programs that set timers -/

/-- The program arms timers in `set*Timer` alone, between clearing the key and recording, and what it does
first after a timer has fired is to delete the record of its key. -/
inductive Sets {α : Type} : Go α → Prop
  | ret (a : α) : Sets (.ret a)
  | set {delay : Int} {key : TimerKey} {id : String} {k : Nat → Go α} (h : ∀ n, Sets (k n)) :
      Sets (.act (.clearTimer key) fun _ =>
        .act (.afterFunc delay key id) fun n => .act (.recordTimer key n) fun _ => k n)
  | fire {k : ArmedTimer → Go α} {g : ArmedTimer → Unit → Go α}
      (hk : ∀ a, k a = .act (.deleteTimer a.key) (g a)) (h : ∀ a, Sets (g a ())) :
      Sets (.act .fire k)
  | act {o : Op} {k : Res o → Go α} (ho : o.movesTimer = false) (h : ∀ r, Sets (k r)) :
      Sets (.act o k)

section

variable {α β : Type}

theorem Sets.bind {p : Go α} {f : α → Go β} (hp : Sets p) (hf : ∀ a, Sets (f a)) :
    Sets (p >>= f) := by
  induction hp with
  | ret a => exact hf a
  | set _ ih => exact .set ih
  | @fire k g hk _ ih =>
    refine .fire (g := fun a r => g a r >>= f) (fun a => ?_) ih
    rw [hk a]
    rfl
  | act ho _ ih => exact .act ho ih

theorem Sets.of_all {p : Go α} (hp : p.All fun o => !o.onTimers) : Sets p := by
  induction p with
  | ret a => exact .ret a
  | act o k ih =>
    refine .act ?_ fun r => ih r (hp.2 r)
    have ho := hp.1
    cases o <;> first | rfl | cases ho

theorem Sets.when {c : Bool} {p : Go Unit} (hp : Sets p) : Sets (Prog.when c p) := by
  cases c
  · exact .ret ()
  · exact hp

theorem setTimer_sets (key : TimerKey) (id : String) (instant : Int) : Sets (setTimer key id instant) :=
  .act rfl fun _ => .set fun _ => .ret ()

theorem scheduleNext_sets (t now : Int) : Sets (scheduleNext t now) := by
  refine .act rfl fun r => ?_
  rcases r with _ | _ | next
  · exact .ret ()
  · exact .ret ()
  · exact setTimer_sets _ _ _

theorem rescheduleTable_sets (t : Int) : Sets (rescheduleTable t) := by
  refine .act rfl fun _ => .act rfl fun _ => .act rfl fun now => .act rfl fun r => ?_
  rcases r with _ | _ | active
  · exact .ret ()
  · exact scheduleNext_sets t now
  · exact setTimer_sets _ _ _

theorem initAll_sets : Sets initAll :=
  (rescheduleTable_sets 1).bind fun _ => (rescheduleTable_sets 2).bind fun _ =>
    (rescheduleTable_sets 3).bind fun _ => rescheduleTable_sets 4

theorem tableWrite_sets (c : CacheWrite) : Sets (TableCache.write c) :=
  .of_all ⟨rfl, fun _ => Prog.all_when ⟨rfl, fun _ => ⟨rfl, fun _ => trivial⟩⟩⟩

theorem sendMqttCommand_sets (t : Int) (state : LightState) :
    Sets (TableService.sendMqttCommand t state) :=
  .of_all ⟨rfl, fun _ => ⟨rfl, fun _ => trivial⟩⟩

theorem activateTable_sets (t : Int) (cb : CurrentBooking) : Sets (TableService.activateTable t cb) :=
  (tableWrite_sets _).bind fun _ => sendMqttCommand_sets t .on

theorem deactivateTable_sets (t : Int) : Sets (TableService.deactivateTable t) :=
  (tableWrite_sets _).bind fun _ => sendMqttCommand_sets t .off

theorem handleStartFired_sets (t : Int) (id : String) :
    ∃ k, handleStartFired t id = .act (.deleteTimer (startKey t)) k ∧ Sets (k ()) := by
  refine ⟨_, rfl, .act rfl fun r => ?_⟩
  simp only [Prog.bind_eq, Prog.ret_bind]
  split
  · exact .ret ()
  · exact rescheduleTable_sets t
  · split
    · exact rescheduleTable_sets t
    · refine .act rfl fun now => ?_
      simp only [Prog.bind_eq, Prog.ret_bind]
      split
      · exact (activateTable_sets _ _).bind fun _ => setTimer_sets _ _ _
      · exact rescheduleTable_sets t

theorem handleEndFired_sets (t : Int) (id : String) :
    ∃ k, handleEndFired t id = .act (.deleteTimer (endKey t)) k ∧ Sets (k ()) :=
  ⟨_, rfl, .act rfl fun _ => (Sets.when (deactivateTable_sets t)).bind fun _ =>
    .act rfl fun now => scheduleNext_sets t now⟩

/-- A callback starts with deleting the record of its timer's key. -/
theorem callback_sets (a : ArmedTimer) :
    ∃ k, callback a = .act (.deleteTimer a.key) k ∧ Sets (k ()) := by
  obtain ⟨n, ⟨t, kind⟩, id, deadline⟩ := a
  cases kind with
  | onStart => exact handleStartFired_sets t id
  | onEnd => exact handleEndFired_sets t id

theorem timerFires_sets : Sets timerFires := by
  choose k hk hsets using callback_sets
  exact .fire hk hsets

theorem reconcileTable_sets (now t : Int) : Sets (reconcileTable now t) := by
  refine .act rfl fun table => ?_
  simp only [Prog.bind_eq, Prog.ret_bind]
  split
  · exact .ret ()
  · split
    · exact .when ((deactivateTable_sets t).bind fun _ => rescheduleTable_sets t)
    · refine .act rfl fun r => ?_
      rcases r with _ | _ | active
      · exact .ret ()
      · exact .ret ()
      · exact (activateTable_sets _ _).bind fun _ => rescheduleTable_sets t
    · exact .ret ()

theorem reconcile_sets : Sets reconcile :=
  .act rfl fun now => (reconcileTable_sets now 1).bind fun _ => (reconcileTable_sets now 2).bind fun _ =>
    (reconcileTable_sets now 3).bind fun _ => reconcileTable_sets now 4

theorem Runtime.Goroutine.sets {p : Go Unit} (h : Runtime.Goroutine p) : Sets p := by
  rcases h with rfl | rfl | rfl | ⟨t, rfl⟩ | h
  · exact initAll_sets
  · exact reconcile_sets
  · exact timerFires_sets
  · exact rescheduleTable_sets t
  · exact .of_all h

end

/-! ## What an action does to the timers -/

theorem Sets.stageOf {p : Go Unit} (h : Sets p) : stageOf p = .free := by
  cases h with
  | ret a => rfl
  | set h => rfl
  | fire hk h => rfl
  | act ho h =>
    rename_i o k
    cases o <;> first | rfl | cases ho

/-- The actions that set no timer. -/
theorem fewer_of_step {e : Env} {o : Op} {v v' : Venue} {r : Res o} (ho : o.movesTimer = false)
    (h : venueStep e o v r v') : Fewer v v' := by
  cases o
  case clearTimer key =>
    obtain rfl := h
    exact fewer_clearTimer _ key
  case create b =>
    obtain ⟨c, -, rfl⟩ := h
    exact fewer_of_timers rfl rfl rfl
  case save b =>
    obtain ⟨c, -, rfl⟩ := h
    exact fewer_of_timers rfl rfl rfl
  case write c =>
    obtain rfl := h
    exact fewer_of_timers rfl rfl rfl
  case deleteTimer => cases ho
  case fire => cases ho
  case afterFunc => cases ho
  case recordTimer => cases ho
  all_goals
    obtain rfl := venueStep_aside rfl h
    exact fewer_of_timers rfl rfl rfl

/-- A goroutine that goes on as `Sets` says from the stage where it stands. -/
inductive Disciplined : Go Unit → Prop
  | sets {p : Go Unit} (h : Sets p) : Disciplined p
  | arming {delay : Int} {key : TimerKey} {id : String} {k : Nat → Go Unit} (h : ∀ n, Sets (k n)) :
      Disciplined (.act (.afterFunc delay key id) fun n => .act (.recordTimer key n) fun _ => k n)
  | recording {key : TimerKey} {n : Nat} {k : Unit → Go Unit} (h : Sets (k ())) :
      Disciplined (.act (.recordTimer key n) k)
  | deleting {key : TimerKey} {k : Unit → Go Unit} (h : Sets (k ())) :
      Disciplined (.act (.deleteTimer key) k)

/-- `StopAll` stops every timer that is recorded under any key. -/
theorem mem_stopAll {w : World} (h : WellArmed w.venue) {a : ArmedTimer} :
    a ∈ w.stopAll.armed ↔ a ∈ w.armed ∧ ∀ key, w.timers key ≠ some a.id := by
  simp only [World.stopAll, List.mem_filter, decide_eq_true_eq]
  constructor
  · rintro ⟨ha, hrec⟩
    refine ⟨ha, fun key hkey => hrec ?_⟩
    rw [(h.recorded key a.id hkey).2 a ha rfl]
    exact hkey
  · exact fun ⟨ha, hrec⟩ => ⟨ha, hrec a.key⟩

/-! ## The invariant -/

/-- The actions of a disciplined goroutine take it from stage to stage. -/
theorem Disciplined.step {e : Env} {o : Op} {k : Res o → Go Unit} {r : Res o} {v v' : Venue}
    (hp : Disciplined (.act o k)) (hv : venueStep e o v r v') :
    TimerStep v (stageOf (.act o k)) v' (stageOf (k r)) ∧ Disciplined (k r) ∧
      ∀ key, stageOf (k r) = .arming key → startsSetting (.act o k) = some key := by
  cases hp with
  | sets h =>
    cases h with
    | @set delay key id k h =>
      obtain rfl := hv
      refine ⟨.clear key, .arming h, fun key' hkey => ?_⟩
      cases hkey
      exact if_pos rfl
    | @fire k k' hk h =>
      obtain ⟨ha, -, rfl⟩ := hv
      rw [hk]
      exact ⟨.fire ha, .deleting (h r), nofun⟩
    | act ho h =>
      have hstage := Sets.stageOf (.act ho h)
      rw [hstage, (h r).stageOf]
      exact ⟨.fewer (fewer_of_step ho hv), .sets (h r), nofun⟩
  | arming h =>
    obtain ⟨rfl, rfl⟩ := hv
    exact ⟨.arm _ _, .recording (h _), nofun⟩
  | recording h =>
    obtain rfl := hv
    have hstage := h.stageOf
    exact ⟨hstage ▸ .record, .sets h, fun key hkey => nomatch hstage.symm.trans hkey⟩
  | deleting h =>
    obtain rfl := hv
    have hstage := h.stageOf
    exact ⟨hstage ▸ .delete, .sets h, fun key hkey => nomatch hstage.symm.trans hkey⟩

namespace Runtime

structure Inv (c : Runtime) : Prop where
  staged : Staged c.pool.state.venue (stageOf ∘ c.pool.threads)
  threads : ∀ i, Disciplined (c.pool.threads i)
  stopped : c.stopped → c.armed = [] ∧ NoneSets c.pool

theorem Start.inv {c : Runtime} (h : Start c) : c.Inv := by
  have harmed : ∀ a, a ∉ c.armed := by simp [h.armed]
  have hfree : ∀ i, stageOf (c.pool.threads i) = .free := fun i => (h.threads i).sets.stageOf
  refine ⟨⟨⟨fun a ha => absurd ha (harmed a), fun a ha => absurd ha (harmed a), fun key n hn => ?_⟩,
    fun a ha => absurd ha (harmed a), fun a ha => absurd ha (harmed a), fun i _ key hi => ?_,
    fun i key hi => ?_, fun i key n hi => ?_, fun i key hi => ?_⟩, fun i => .sets (h.threads i).sets,
    fun hstopped => nomatch h.stopped.symm.trans hstopped⟩
  · cases (h.timers key).symm.trans hn
  · rw [Function.comp_apply, hfree] at hi
    exact hi.elim
  all_goals
    rw [Function.comp_apply, hfree] at hi
    cases hi

theorem Inv.stopAll {c : Runtime} (h : c.Inv) (hok : NoneSets c.pool) :
    Inv ⟨{ c.pool with state := c.pool.state.stopAll }, true⟩ := by
  have hnone : ∀ i key, ¬ ((stageOf ∘ c.pool.threads) i).sets key := hok
  have hempty : ∀ a, a ∉ c.pool.state.stopAll.armed := by
    intro a ha
    obtain ⟨ha, hrec⟩ := (mem_stopAll h.staged.wellArmed).1 ha
    rcases h.staged.stored a ha with hstored | ⟨i, hi⟩
    · exact hrec a.key hstored
    · exact hnone i a.key (by rw [hi]; rfl)
  refine ⟨⟨⟨fun a ha => absurd ha (hempty a), fun a ha => absurd ha (hempty a), nofun⟩,
    fun a ha => absurd ha (hempty a), fun a ha => absurd ha (hempty a), h.staged.exclusive,
    fun i key hi => ?_, fun i key n hi => ?_, fun i key hi a ha => absurd ha (hempty a)⟩, h.threads,
    fun _ => ⟨List.eq_nil_iff_forall_not_mem.2 hempty, hok⟩⟩
  · exact absurd (by rw [hi]; rfl) (hnone i key)
  · exact absurd (by rw [hi]; rfl) (hnone i key)

theorem Inv.step {c c' : Runtime} (h : c.Inv) (hstep : Step SetsApart NoneSets c c') : c'.Inv := by
  cases hstep with
  | stopAll pool stopped hok => exact h.stopAll hok
  | @act pool pool' stopped hact =>
    cases hact with
    | @act i o k r w hi hsem hok =>
      obtain ⟨e, -, hp⟩ := hsem
      have hthread := h.threads i
      rw [hi] at hthread
      obtain ⟨hmoves, hdisciplined, hstarts⟩ := hthread.step (perform_venueStep hp)
      rw [← hi] at hmoves hstarts
      have hstage : stageOf ∘ Function.update pool.threads i (k r) =
          Function.update (stageOf ∘ pool.threads) i (stageOf (k r)) := Function.comp_update _ _ _ _
      refine ⟨?_, fun j => ?_, fun hstopped => ?_⟩
      · show Staged w.venue (stageOf ∘ Function.update pool.threads i (k r))
        rw [hstage]
        exact h.staged.step hmoves fun key hkey => (hok key (hstarts key hkey)).2
      · by_cases hj : j = i
        · subst hj
          simpa using hdisciplined
        · simpa [hj] using h.threads j
      · obtain ⟨harmed, hnone⟩ := h.stopped hstopped
        obtain ⟨harmed', hnone'⟩ := hmoves.idle harmed (hnone i) fun key hkey => by
          cases hstopped.symm.trans (hok key (hstarts key hkey)).1
        refine ⟨harmed', fun j key => ?_⟩
        show ¬ ((stageOf ∘ Function.update pool.threads i (k r)) j).sets key
        rw [hstage]
        rcases update_cases (stageOf ∘ pool.threads) i (stageOf (k r)) j with ⟨-, hj⟩ | ⟨-, hj⟩ <;> rw [hj]
        · exact hnone' key
        · exact hnone j key

/-- A goroutine whose stage is recording is about to record. -/
theorem beingSet_of_stage {c : Runtime} {a : ArmedTimer} {i : Nat}
    (h : stageOf (c.pool.threads i) = .recording a.key a.id) : c.BeingSet a := by
  cases hi : c.pool.threads i with
  | ret u =>
    rw [hi] at h
    cases h
  | act o k =>
    rw [hi] at h
    cases o <;> cases h
    exact ⟨i, k, hi⟩

theorem Inv.noOrphans {c : Runtime} (h : c.Inv) : c.NoOrphans :=
  ⟨fun a ha hset => (h.staged.stored a ha).resolve_right fun ⟨_, hi⟩ => hset (beingSet_of_stage hi),
    h.staged.alone, fun hstopped _ => (h.stopped hstopped).1⟩

/-- In every run in which calls that set a timer of one key do not overlap, none starts between the firing
of a timer of the key and the deletion of its record, and none overlaps or follows `StopAll`, there are no
orphan timers. -/
theorem no_orphan_timers {c c' : Runtime} (hc : Start c) (h : Reaches SetsApart NoneSets c c') :
    c'.NoOrphans := by
  suffices hinv : c'.Inv from hinv.noOrphans
  induction h with
  | refl => exact hc.inv
  | tail _ hlast ih => exact ih.step hlast

/-- A run of the goroutines in which `StopAll` is not called. -/
theorem reaches_of_pool {ok : Bool → Config Res Nat World Unit → Nat → Prop}
    {okStop : Config Res Nat World Unit → Prop} {stopped : Bool} {pool pool' : Config Res Nat World Unit}
    (h : Interleaving.Reaches (sem fun _ => True) (fun c i _ _ => ok stopped c i) pool pool') :
    Reaches ok okStop ⟨pool, stopped⟩ ⟨pool', stopped⟩ := by
  induction h with
  | refl => exact .refl
  | tail _ hlast ih => exact .tail ih (.act hlast)

/-- `InitAll`, a timer and the reconcile loop, in a process in which a booking from ten to eleven is
stored. -/
def sampleRuntime : Runtime where
  pool := ⟨tenToElevenStored, fun i => match i with
    | 0 => initAll
    | 1 => timerFires
    | 2 => reconcile
    | _ => .ret ()⟩
  stopped := false

theorem sampleRuntime_start : Start sampleRuntime := by
  refine ⟨rfl, fun _ => rfl, rfl, fun i => ?_⟩
  match i with
  | 0 => exact .inl rfl
  | 1 => exact .inr (.inr (.inl rfl))
  | 2 => exact .inr (.inl rfl)
  | _ + 3 => exact .inr (.inr (.inr (.inr trivial)))

/-- Ten o'clock, with timer 0 the one to fire. -/
def tenOClock : Env := ⟨GoTime.ofUnixMilli 1893492000000, .zero, none, 0⟩

/-- The armed timers, and the record of the end timer of table 1. -/
def endOfTable1 (c : Config Res Nat World Unit) : List (Nat × TimerKey) × Option Nat :=
  (c.state.armed.map fun a => (a.id, a.key), c.state.timers (endKey 1))

/-- `InitAll` runs at nine, and the start timer it sets fires at ten. -/
def chainedSchedule : List (Nat × Env) :=
  List.replicate 24 (0, nineOClock) ++ List.replicate 13 (1, tenOClock)

/-- The other two of the three goroutines are neither setting a timer nor deleting a record. -/
def othersFree (c : Config Res Nat World Unit) (i : Nat) : Bool :=
  (List.range 3).all fun j => j = i ∨ stageOf (c.threads j) = .free

/-- The start timer is set at nine and fires at ten; its callback sets the end timer, which `StopAll`
stops. -/
theorem no_orphan_timers_chained : ∃ c c' : Runtime,
    endOfTable1 c.pool = ([(1, endKey 1)], some 1) ∧ c.NoOrphans ∧
    endOfTable1 c'.pool = ([], none) ∧ c'.stopped ∧ c'.NoOrphans := by
  have hrun : (sampleRuntime.pool.exec perform (fun c i _ _ => othersFree c i) chainedSchedule).map
      (fun c => (endOfTable1 c, endOfTable1 { c with state := c.state.stopAll }, othersFree c 3)) =
      some (([(1, endKey 1)], some 1), ([], none), true) := by decide +kernel
  obtain ⟨c, hc, hend⟩ := Option.map_eq_some_iff.1 hrun
  obtain ⟨hend, hstopped⟩ := Prod.mk.inj hend
  obtain ⟨hend', hfree⟩ := Prod.mk.inj hstopped
  have hothers : ∀ {c : Config Res Nat World Unit} {i j : Nat}, (∀ j, 3 ≤ j → c.threads j = .ret ()) →
      othersFree c i → j ≠ i → stageOf (c.threads j) = .free := by
    intro c i j hidle hothers hj
    by_cases h3 : j < 3
    · have hjfree := of_decide_eq_true (List.all_eq_true.1 hothers j (List.mem_range.2 h3))
      exact hjfree.resolve_left hj
    · rw [hidle j (Nat.le_of_not_lt h3)]
      rfl
  have hret : ∀ j, 3 ≤ j → sampleRuntime.pool.threads j = .ret () := by
    intro j hj
    match j, hj with
    | _ + 3, _ => rfl
  have hreach : Interleaving.Reaches (sem fun _ => True) (fun c i _ _ => SetsApart false c i)
      sampleRuntime.pool c := by
    refine Config.reaches_of_exec (I := fun c => ∀ j, 3 ≤ j → c.threads j = .ret ())
      (fun p _ i o s r s' hp => ⟨p.2, trivial, hp⟩) (fun c c' hstep hidle j hj => ?_)
      (fun c i o r hidle hadm key _ => ⟨rfl, fun j hj => ?_⟩) hret hc
    · exact Interleaving.Reaches.returned (.single hstep) (hidle j hj)
    · rw [hothers hidle hadm hj]
      exact ⟨id, nofun⟩
  have hnone : NoneSets c := by
    intro j key
    have hfreej : stageOf (c.threads j) = .free := by
      by_cases h3 : j = 3
      · subst h3
        rw [Interleaving.Reaches.returned hreach (hret 3 (Nat.le_refl 3))]
        rfl
      · exact hothers (fun j hj => Interleaving.Reaches.returned hreach (hret j hj)) hfree h3
    rw [hfreej]
    exact id
  have hpool : Reaches SetsApart NoneSets sampleRuntime ⟨c, false⟩ := reaches_of_pool hreach
  exact ⟨⟨c, false⟩, _, hend, no_orphan_timers sampleRuntime_start hpool, hend', rfl,
    no_orphan_timers sampleRuntime_start (hpool.tail (.stopAll c false hnone))⟩

/-- As `chainedSchedule`, but the reconcile loop reads the table before the callback activates it, and both
clear the end timer before either arms one. -/
def racingSchedule : List (Nat × Env) :=
  List.replicate 24 (0, nineOClock) ++ List.replicate 4 (1, tenOClock) ++
    List.replicate 3 (2, tenOClock) ++ List.replicate 7 (1, tenOClock) ++
    List.replicate 11 (2, tenOClock) ++ List.replicate 2 (1, tenOClock) ++
    List.replicate 8 (2, tenOClock)

/-- The start timer fires and the reconcile loop finds the booking at once: both set an end timer, and
one of the two stays armed without a record. -/
theorem timers_can_be_orphaned :
    ¬ ∀ c c' : Runtime, Start c → Reaches (fun _ _ _ => True) (fun _ => True) c c' → c'.NoOrphans := by
  intro h
  have hrun : (sampleRuntime.pool.exec perform (fun _ _ _ _ => true) racingSchedule).map
      (fun c => (endOfTable1 c, c.result 1, c.result 2)) =
      some (([(1, endKey 1), (2, endKey 1)], some 2), some (), some ()) := by decide +kernel
  obtain ⟨c, hc, hend⟩ := Option.map_eq_some_iff.1 hrun
  have hno := h sampleRuntime ⟨c, false⟩ sampleRuntime_start <| reaches_of_pool <|
    Config.reaches_of_exec_any (fun p _ i o s r s' hp => ⟨p.2, trivial, hp⟩) hc
  obtain ⟨harmed, -⟩ := Prod.mk.inj (Prod.mk.inj hend).1
  obtain ⟨a, rest, hc, ha, hrest⟩ := List.map_eq_cons_iff.1 harmed
  obtain ⟨b, rest, hrest, hb, -⟩ := List.map_eq_cons_iff.1 hrest
  obtain ⟨haid, hakey⟩ := Prod.mk.inj ha
  obtain ⟨hbid, hbkey⟩ := Prod.mk.inj hb
  have hmem : ∀ t, t = a ∨ t = b → t ∈ c.state.armed := by
    rintro t (rfl | rfl) <;> simp [hc, hrest]
  have hab := hno.alone a (hmem a (.inl rfl)) b (hmem b (.inr rfl)) (hakey.trans hbkey.symm)
  rw [← hab, haid] at hbid
  cases hbid

end Runtime

end GbcVenue
