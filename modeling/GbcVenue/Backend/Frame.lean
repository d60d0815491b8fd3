import GbcVenue.Scheduler.Scheduler

/-!
# What the actions leave alone

Most actions neither write the store nor touch a mutex, and never block. They are `quiet`; so is
everything a booking request does after its write.
-/

namespace GbcVenue

open Interleaving

/-- The parts of the world that the booking requests are serialised over. -/
structure SameStore (w w' : World) : Prop where
  bookings : w'.bookings = w.bookings
  held : w'.held = w.held
  tblMu : w'.tblMu = w.tblMu
  nextMutex : w'.nextMutex = w.nextMutex

theorem SameStore.refl (w : World) : SameStore w w := ⟨rfl, rfl, rfl, rfl⟩

theorem SameStore.trans {w w' w'' : World} (h : SameStore w w') (h' : SameStore w' w'') :
    SameStore w w'' :=
  ⟨h'.bookings.trans h.bookings, h'.held.trans h.held, h'.tblMu.trans h.tblMu,
    h'.nextMutex.trans h.nextMutex⟩

/-- The actions that leave the store and the mutexes alone and that nothing can block. -/
def Op.quiet : Op → Bool
  | .lock _ | .unlock _ | .tableMutex _ | .create _ | .save _ | .fire => false
  | _ => true

/-- The actions that compute and publish a timeline. -/
def Op.timeline : Op → Bool
  | .now | .venueLocation | .getConfig | .findTimeline .. | .sendTimeline _ => true
  | _ => false

theorem Op.quiet_of_timeline {o : Op} (h : o.timeline) : o.quiet := by
  cases o <;> first | rfl | cases h

/-- Every action but taking a mutex, giving one back and firing can be performed at once. -/
theorem perform_quiet_total {o : Op} (h : o.quiet) (i : Nat) (e : Env) (w : World) :
    ∃ r w', perform i e o w = some (r, w') := by
  cases o <;> first | exact ⟨_, _, rfl⟩ | cases h

theorem perform_quiet {o : Op} (h : o.quiet) {i : Nat} {e : Env} {w w' : World} {r : Res o}
    (hp : perform i e o w = some (r, w')) : SameStore w w' := by
  cases o
  case clearTimer key =>
    cases hp
    unfold World.clearTimer
    split <;> exact ⟨rfl, rfl, rfl, rfl⟩
  all_goals first | (cases hp; exact ⟨rfl, rfl, rfl, rfl⟩) | cases h

/-- The actions that leave the cache and the command channel alone. -/
def Op.apart : Op → Bool
  | .write _ | .sendMqtt _ => false
  | _ => true

/-- No action changes the configuration or the zone, and few the cache or the command channel. -/
theorem perform_frame {o : Op} {i : Nat} {e : Env} {w w' : World} {r : Res o}
    (h : perform i e o w = some (r, w')) :
    w'.config = w.config ∧ w'.venueOffset = w.venueOffset ∧
      (o.apart → w'.tables = w.tables ∧ w'.mqttCmdChan = w.mqttCmdChan) := by
  cases o
  case write c =>
    cases h
    exact ⟨rfl, rfl, nofun⟩
  case sendMqtt cmd =>
    cases h
    exact ⟨rfl, rfl, nofun⟩
  case clearTimer key =>
    cases h
    unfold World.clearTimer
    split <;> exact ⟨rfl, rfl, fun _ => ⟨rfl, rfl⟩⟩
  case tableMutex t =>
    simp only [perform, Option.some.injEq] at h
    have hw : w' = (w.tableMutex t).2 := by rw [h]
    rw [hw]
    unfold World.tableMutex
    split <;> exact ⟨rfl, rfl, fun _ => ⟨rfl, rfl⟩⟩
  case lock m =>
    simp only [perform] at h
    split at h <;> cases h
    exact ⟨rfl, rfl, fun _ => ⟨rfl, rfl⟩⟩
  case unlock m =>
    simp only [perform] at h
    split at h <;> cases h
    exact ⟨rfl, rfl, fun _ => ⟨rfl, rfl⟩⟩
  case fire =>
    simp only [perform] at h
    split at h <;> cases h
    exact ⟨rfl, rfl, fun _ => ⟨rfl, rfl⟩⟩
  all_goals cases h; exact ⟨rfl, rfl, fun _ => ⟨rfl, rfl⟩⟩

theorem perform_write {c : CacheWrite} {i : Nat} {e : Env} {w w' : World} {r : Bool}
    (h : perform i e (Op.write c) w = some (r, w')) :
    r = (c.apply w.tables).2 ∧ w' = { w with tables := (c.apply w.tables).1 } := by
  simp only [perform, Option.some.injEq, Prod.mk.injEq] at h
  exact ⟨h.1.symm, h.2.symm⟩

/-- A program of quiet actions alone returns, whatever the state, and leaves the store alone. -/
theorem exists_runs_of_quiet {α : Type} {E : Env → Prop} {e : Env} (he : E e) {p : Go α}
    (hp : p.All fun o => o.quiet) (i : Nat) (w : World) :
    ∃ a w', Prog.Runs (sem E) i p w a w' ∧ SameStore w w' := by
  induction p generalizing w with
  | ret a => exact ⟨a, w, .ret a w, .refl w⟩
  | act o k ih =>
    obtain ⟨r, w₁, hr⟩ := perform_quiet_total hp.1 i e w
    obtain ⟨a, w', hrun, hsame⟩ := ih r (hp.2 r) w₁
    exact ⟨a, w', .act ⟨e, he, hr⟩ hrun, (perform_quiet hp.1 hr).trans hsame⟩

/-! ## The quiet parts of the requests -/

theorem TableCache.write_quiet (c : CacheWrite) : (TableCache.write c).All fun o => o.quiet :=
  ⟨rfl, fun _ => Prog.all_when ⟨rfl, fun _ => ⟨rfl, fun _ => trivial⟩⟩⟩

theorem TableService.sendMqttCommand_quiet (tableID : Int) (s : LightState) :
    (TableService.sendMqttCommand tableID s).All fun o => o.quiet :=
  ⟨rfl, fun _ => ⟨rfl, fun _ => trivial⟩⟩

theorem TableService.activateTable_quiet (tableID : Int) (b : CurrentBooking) :
    (TableService.activateTable tableID b).All fun o => o.quiet :=
  Prog.all_bind (TableCache.write_quiet _) fun _ => sendMqttCommand_quiet _ _

theorem TableService.deactivateTable_quiet (tableID : Int) :
    (TableService.deactivateTable tableID).All fun o => o.quiet :=
  Prog.all_bind (TableCache.write_quiet _) fun _ => sendMqttCommand_quiet _ _

namespace BookingService

theorem venueTimes_timeline : venueTimes.All fun o => o.timeline := by
  refine Prog.all_call_bind rfl fun r => ?_
  split <;> trivial

theorem getTimeline_timeline (dateStr : String) :
    (getTimeline dateStr).All fun o => o.timeline := by
  refine Prog.all_bind venueTimes_timeline fun _ => Prog.all_call_bind rfl fun offset => ?_
  split
  · trivial
  · exact (Prog.all_call _ _).2 rfl

theorem getTodayTimeline_timeline : getTodayTimeline.All fun o => o.timeline :=
  Prog.all_bind venueTimes_timeline fun _ => Prog.all_call_bind rfl fun _ =>
    Prog.all_call_bind rfl fun _ => getTimeline_timeline _

theorem emitTimelineUpdate_timeline : emitTimelineUpdate.All fun o => o.timeline := by
  refine Prog.all_bind getTodayTimeline_timeline fun r => ?_
  split
  · trivial
  · exact (Prog.all_call _ _).2 rfl

theorem venueTimes_quiet : venueTimes.All fun o => o.quiet :=
  venueTimes_timeline.mono fun _ => Op.quiet_of_timeline

theorem emitTimelineUpdate_quiet : emitTimelineUpdate.All fun o => o.quiet :=
  emitTimelineUpdate_timeline.mono fun _ => Op.quiet_of_timeline

theorem syncCreated_quiet (b : Booking) : (syncCreated b).All fun o => o.quiet :=
  Prog.all_call_bind rfl fun _ =>
    Prog.all_bind (Prog.all_when (TableService.activateTable_quiet _ _))
      fun _ => emitTimelineUpdate_quiet

theorem syncUpdated_quiet (b : Booking) : (syncUpdated b).All fun o => o.quiet :=
  Prog.all_call_bind rfl fun _ =>
    Prog.all_bind (Prog.all_when (TableCache.write_quiet _)) fun _ => emitTimelineUpdate_quiet

theorem syncCancelled_quiet (id : String) (b : Booking) :
    (syncCancelled id b).All fun o => o.quiet :=
  Prog.all_call_bind rfl fun _ =>
    Prog.all_bind (Prog.all_when (Prog.all_call_bind rfl fun _ =>
      Prog.all_when (TableService.deactivateTable_quiet _))) fun _ => emitTimelineUpdate_quiet

end BookingService

end GbcVenue
