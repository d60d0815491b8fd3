import GbcVenue.Backend.Frame
import GbcVenue.Interleaving.Timed

/-!
# The venue: bookings, tables and timers

Of a backend whose calls run one at a time, `Venue` keeps what its calls depend on and leaves out
the mutexes, the channels and the configuration. `venueStep` says what an action does to it, with
any answer allowed to an action that asks for what was left out. `venue_simulates` carries every run
of the backend over, so a fact about all runs of a program on the venue is one about the backend.
-/

namespace GbcVenue

open Interleaving

structure Venue where
  bookings : BookingCollection
  tables : Tables
  timers : TimerKey → Option Nat
  armed : List ArmedTimer
  nextTimer : Nat

/-- What the venue knows of the backend. -/
def World.venue (w : World) : Venue := ⟨w.bookings, w.tables, w.timers, w.armed, w.nextTimer⟩

namespace Venue

def clearTimer (v : Venue) (key : TimerKey) : Venue :=
  match v.timers key with
  | some n => { v with
      timers := Function.update v.timers key none
      armed := v.armed.filter fun t => t.id ≠ n }
  | none => v

def afterFunc (v : Venue) (deadline : Int) (key : TimerKey) (bookingID : String) : Venue :=
  { v with
    armed := v.armed ++ [⟨v.nextTimer, key, bookingID, deadline⟩]
    nextTimer := v.nextTimer + 1 }

/-- A timer set anew: the one recorded under its key is stopped first. -/
def setTimer (v : Venue) (key : TimerKey) (bookingID : String) (deadline : Int) : Venue :=
  let v' := (v.clearTimer key).afterFunc deadline key bookingID
  { v' with timers := Function.update v'.timers key (some v.nextTimer) }

def deleteTimer (v : Venue) (key : TimerKey) : Venue :=
  { v with timers := Function.update v.timers key none }

def write (v : Venue) (c : CacheWrite) : Venue := { v with tables := (c.apply v.tables).1 }

@[simp] theorem clearTimer_bookings (v : Venue) (key : TimerKey) :
    (v.clearTimer key).bookings = v.bookings := by unfold clearTimer; split <;> rfl

@[simp] theorem clearTimer_tables (v : Venue) (key : TimerKey) :
    (v.clearTimer key).tables = v.tables := by unfold clearTimer; split <;> rfl

@[simp] theorem clearTimer_nextTimer (v : Venue) (key : TimerKey) :
    (v.clearTimer key).nextTimer = v.nextTimer := by unfold clearTimer; split <;> rfl

theorem mem_clearTimer {v : Venue} {key : TimerKey} {a : ArmedTimer}
    (h : a ∈ (v.clearTimer key).armed) : a ∈ v.armed := by
  unfold clearTimer at h
  split at h
  · exact List.mem_of_mem_filter h
  · exact h

@[simp] theorem setTimer_bookings (v : Venue) (key : TimerKey) (id : String) (deadline : Int) :
    (v.setTimer key id deadline).bookings = v.bookings := clearTimer_bookings v key

@[simp] theorem setTimer_tables (v : Venue) (key : TimerKey) (id : String) (deadline : Int) :
    (v.setTimer key id deadline).tables = v.tables := clearTimer_tables v key

/-- After `setTimer` the timers are some of those before and the new one. -/
theorem mem_setTimer {v : Venue} {key : TimerKey} {id : String} {deadline : Int} {a : ArmedTimer}
    (h : a ∈ (v.setTimer key id deadline).armed) :
    a ∈ v.armed ∨ a = ⟨v.nextTimer, key, id, deadline⟩ := by
  simp only [setTimer, afterFunc, clearTimer_nextTimer, List.mem_append, List.mem_singleton] at h
  exact h.imp mem_clearTimer fun h => h

end Venue

/-- What an action does to the venue. -/
def venueStep (e : Env) : (o : Op) → Venue → Res o → Venue → Prop
  | .now, v, r, v' => r = e.now ∧ v' = v
  | .create b, v, r, v' => ∃ c, v.bookings.create e.fault e.objectID e.now b = (r, c) ∧
      v' = { v with bookings := c }
  | .findByID id, v, r, v' => r = v.bookings.findByID e.fault id ∧ v' = v
  | .save b, v, r, v' => ∃ c, v.bookings.save e.fault b = (r, c) ∧ v' = { v with bookings := c }
  | .findCurrentForTable t now, v, r, v' =>
      r = v.bookings.findCurrentForTable e.fault t now ∧ v' = v
  | .findNextUpcoming t after, v, r, v' =>
      r = v.bookings.findNextUpcoming e.fault t after ∧ v' = v
  | .findAllActiveNow now, v, r, v' => r = v.bookings.findAllActiveNow e.fault now ∧ v' = v
  | .hasOverlap t checkIn checkOut id, v, r, v' =>
      r = v.bookings.hasOverlap e.fault t checkIn checkOut id ∧ v' = v
  | .getTable t, v, r, v' => r = v.tables.getTable t ∧ v' = v
  | .write c, v, _, v' => v' = v.write c
  | .clearTimer key, v, _, v' => v' = v.clearTimer key
  | .afterFunc delay key id, v, r, v' => r = v.nextTimer ∧ v' = v.afterFunc (e.now + delay) key id
  | .recordTimer key n, v, _, v' => v' = { v with timers := Function.update v.timers key (some n) }
  | .deleteTimer key, v, _, v' => v' = v.deleteTimer key
  | .fire, v, t, v' => t ∈ v.armed ∧ t.deadline ≤ e.now ∧
      v' = { v with armed := v.armed.filter fun t' => t'.id ≠ t.id }
  | _, v, _, v' => v' = v

theorem World.venue_clearTimer (w : World) (key : TimerKey) :
    (w.clearTimer key).venue = w.venue.clearTimer key := by
  cases h : w.timers key <;> simp [World.clearTimer, Venue.clearTimer, World.venue, h]

theorem World.venue_tableMutex (w : World) (t : Int) : (w.tableMutex t).2.venue = w.venue := by
  unfold World.tableMutex
  split <;> rfl

/-- The venue follows what the backend performs. -/
theorem perform_venueStep {i : Nat} {e : Env} {o : Op} {w w' : World} {r : Res o}
    (h : perform i e o w = some (r, w')) : venueStep e o w.venue r w'.venue := by
  cases o
  case create b =>
    simp only [perform, Option.some.injEq, Prod.mk.injEq] at h
    exact ⟨_, Prod.ext h.1 rfl, by rw [← h.2]; rfl⟩
  case save b =>
    simp only [perform, Option.some.injEq, Prod.mk.injEq] at h
    exact ⟨_, Prod.ext h.1 rfl, by rw [← h.2]; rfl⟩
  case clearTimer key =>
    cases h
    exact w.venue_clearTimer key
  case tableMutex t =>
    simp only [perform, Option.some.injEq] at h
    have hw : w' = (w.tableMutex t).2 := by rw [h]
    show w'.venue = w.venue
    rw [hw]
    exact w.venue_tableMutex t
  case lock m =>
    simp only [perform] at h
    split at h <;> cases h
    rfl
  case unlock m =>
    simp only [perform] at h
    split at h <;> cases h
    rfl
  case fire =>
    simp only [perform] at h
    split at h
    · rename_i t hfind
      cases h
      have hcond := List.find?_some hfind
      simp only [decide_eq_true_eq] at hcond
      exact ⟨List.mem_of_find?_eq_some hfind, hcond.2, rfl⟩
    · cases h
  all_goals cases h; first | exact ⟨rfl, rfl⟩ | rfl

/-! ## Runs of the backend alone, against a clock -/

/-- The backend against a clock; `E` is what is assumed of the outside world besides. -/
def backend (E : Env → Prop) : Sem Res Nat (Timed World Int) :=
  timed fun now => sem fun e => e.now = now ∧ E e

/-- Follows a program of the backend on the contributions `es` of the outside world. -/
def follow {α : Type} (es : List Env) (p : Go α) (m : Timed World Int) :
    Option (Go α × Timed World Int) :=
  Prog.advance (Timed.perform Env.now perform) 0 es p m

/-- Runs a program of the backend to its end. -/
def complete {α : Type} (es : List Env) (p : Go α) (m : Timed World Int) :
    Option (α × Timed World Int) :=
  Prog.eval (Timed.perform Env.now perform) 0 es p m

theorem backend_of_perform {E : Env → Prop} {i : Nat} {e : Env} (he : E e) {o : Op}
    {m m' : Timed World Int} {r : Res o} (h : Timed.perform Env.now perform i e o m = some (r, m')) :
    backend E i o m r m' :=
  Timed.perform_sem (fun _ _ _ _ hp => ⟨e, ⟨rfl, he⟩, hp⟩) h

theorem passes_of_follow {α : Type} {E : Env → Prop} {es : List Env} {p q : Go α}
    {m m' : Timed World Int} (hE : ∀ e ∈ es, E e) (h : follow es p m = some (q, m')) :
    Prog.Passes (backend E) 0 p m q m' :=
  Prog.passes_of_advance (fun e he _ _ _ _ hp => backend_of_perform (hE e he) hp) h

theorem runs_of_complete {α : Type} {E : Env → Prop} {es : List Env} {p : Go α} {a : α}
    {m m' : Timed World Int} (hE : ∀ e ∈ es, E e) (h : complete es p m = some (a, m')) :
    Prog.Runs (backend E) 0 p m a m' :=
  Prog.runs_of_eval (fun e he _ _ _ _ hp => backend_of_perform (hE e he) hp) h

def onVenue (E : Env → Prop) : Sem Res Nat (Timed Venue Int) :=
  timed fun now _ o v r v' => ∃ e, (e.now = now ∧ E e) ∧ venueStep e o v r v'

def venueAt (m : Timed World Int) : Timed Venue Int := ⟨m.state.venue, m.clock⟩

theorem venue_simulates (E : Env → Prop) : Prog.Simulates (backend E) (onVenue E) venueAt := by
  rintro i o s r s' ⟨hclock, e, he, hperf⟩
  exact ⟨hclock, e, he, perform_venueStep hperf⟩

section

variable {α β : Type} {E : Env → Prop} {i : Nat} {m m' : Timed Venue Int} {a : α}

/-- What a run that starts with the action `o` does first. -/
theorem venue_act {o : Op} {k : Res o → Go α}
    (h : Prog.Runs (onVenue E) i (.act o k) m a m') :
    ∃ e r v, E e ∧ m.clock ≤ e.now ∧ venueStep e o m.state r v ∧
      Prog.Runs (onVenue E) i (k r) ⟨v, e.now⟩ a m' := by
  obtain ⟨r, m₁, ⟨hclock, e, ⟨hnow, he⟩, hstep⟩, hk⟩ := Prog.runs_act.1 h
  obtain ⟨v, now⟩ := m₁
  subst hnow
  exact ⟨e, r, v, he, hclock, hstep, hk⟩

theorem venue_now {k : Int → Go α} (h : Prog.Runs (onVenue E) i (.act Op.now k) m a m') :
    ∃ now, m.clock ≤ now ∧ Prog.Runs (onVenue E) i (k now) ⟨m.state, now⟩ a m' := by
  obtain ⟨e, r, v, -, hclock, ⟨rfl, rfl⟩, hk⟩ := venue_act h
  exact ⟨e.now, hclock, hk⟩

/-- The actions that leave the venue as it is. -/
def Op.aside : Op → Bool
  | .create _ | .save _ | .write _ | .clearTimer _ | .afterFunc .. | .recordTimer .. | .deleteTimer _
  | .fire => false
  | _ => true

theorem venueStep_aside {o : Op} (ho : o.aside) {e : Env} {v v' : Venue} {r : Res o}
    (h : venueStep e o v r v') : v' = v := by
  cases o <;> first | exact h | exact h.2 | cases ho

theorem runs_aside {p : Go α} (hp : p.All fun o => o.aside)
    (h : Prog.Runs (onVenue E) i p m a m') : m'.state = m.state := by
  refine h.preserves (R := fun m m' => m'.state = m.state) (fun _ => rfl) ?_ ?_ hp
  · intro s s' s'' h h'
    exact h'.trans h
  · rintro o s r s' ho ⟨-, e, -, hstep⟩
    exact venueStep_aside ho hstep

/-- An action to the side, at the front of a program. -/
theorem venue_aside {o : Op} {k : Res o → Go α} (ho : o.aside)
    (h : Prog.Runs (onVenue E) i (.act o k) m a m') :
    ∃ e r, E e ∧ m.clock ≤ e.now ∧ venueStep e o m.state r m.state ∧
      Prog.Runs (onVenue E) i (k r) ⟨m.state, e.now⟩ a m' := by
  obtain ⟨e, r, v, he, hclock, hstep, hk⟩ := venue_act h
  have hv := venueStep_aside ho hstep
  subst hv
  exact ⟨e, r, he, hclock, hstep, hk⟩

/-- A program to the side, at the front of another. -/
theorem venue_aside_bind {p : Go β} {f : β → Go α} (hp : p.All fun o => o.aside)
    (h : Prog.Runs (onVenue E) i (p >>= f) m a m') :
    ∃ b now, m.clock ≤ now ∧ Prog.Runs (onVenue E) i (f b) ⟨m.state, now⟩ a m' := by
  obtain ⟨b, m₁, hrun, hk⟩ := Prog.runs_bind.1 h
  have hstate := runs_aside hp hrun
  have hclock := hrun.clock_le
  obtain ⟨v, now⟩ := m₁
  subst hstate
  exact ⟨b, now, hclock, hk⟩

end

/-! ## Programs to the side -/

theorem TableCache.broadcast_aside : TableCache.broadcast.All fun o => o.aside :=
  ⟨rfl, fun _ => ⟨rfl, fun _ => trivial⟩⟩

theorem TableService.sendMqttCommand_aside (t : Int) (state : LightState) :
    (TableService.sendMqttCommand t state).All fun o => o.aside :=
  ⟨rfl, fun _ => ⟨rfl, fun _ => trivial⟩⟩

namespace BookingService

theorem emitTimelineUpdate_aside : emitTimelineUpdate.All fun o => o.aside :=
  emitTimelineUpdate_timeline.mono fun o ho => by cases o <;> first | rfl | cases ho

theorem venueTimes_aside : venueTimes.All fun o => o.aside :=
  venueTimes_timeline.mono fun o ho => by cases o <;> first | rfl | cases ho

theorem staffRefused_aside (checkIn now : Int) (role : String) :
    (staffRefused checkIn now role).All fun o => o.aside := by
  unfold staffRefused
  split
  · exact Prog.all_bind venueTimes_aside fun _ => ⟨rfl, fun _ => trivial⟩
  · trivial

theorem getTableMutex_aside (t : Int) : (getTableMutex t).All fun o => o.aside :=
  ⟨rfl, fun _ => ⟨rfl, fun _ => ⟨rfl, fun _ => trivial⟩⟩⟩

end BookingService

end GbcVenue
