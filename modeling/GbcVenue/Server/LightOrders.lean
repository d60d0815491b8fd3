import GbcVenue.Agreement.Cancels
import GbcVenue.Server.Integrity

/-!
# What the server asks of the lights

A program `Orders` lights if every write of the cache that asks for a light is followed by its command,
and it overrides no light but those of `byHand`; all programs of the server are such. `Ordered` is what
a run of one does to the cache and the command channel: calls of the table service, one after another,
each a write and a send, with bookings exchanged in between.
-/

namespace GbcVenue

open Interleaving BookingService Access

namespace Server

/-- The program goes on with whole calls of the table service, and leaves the cache and the command
channel alone in between. -/
inductive Orders (byHand : Int → Prop) {α : Type} : Go α → Prop
  | ret (a : α) : Orders byHand (.ret a)
  | act {o : Op} {k : Res o → Go α} (ho : o.apart) (hk : ∀ r, Orders byHand (k r)) :
      Orders byHand (.act o k)
  | booking {t : Int} {cb : CurrentBooking} {k : Unit → Go α} (hk : ∀ a, Orders byHand (k a)) :
      Orders byHand (TableService.updateCurrentBooking t cb >>= k)
  | activate {t : Int} {cb : CurrentBooking} {k : Unit → Go α} (hk : ∀ a, Orders byHand (k a)) :
      Orders byHand (TableService.activateTable t cb >>= k)
  | deactivate {t : Int} {k : Unit → Go α} (hk : ∀ a, Orders byHand (k a)) :
      Orders byHand (TableService.deactivateTable t >>= k)
  | setLight {t : Int} {state : LightStatus} {k : Unit → Go α} (ht : byHand t)
      (hk : ∀ a, Orders byHand (k a)) : Orders byHand (TableService.setLightStatus t state >>= k)

/-- One call: the cache and the command channel before and after. -/
inductive Ordered (byHand : Int → Prop) :
    Tables × Chan MqttCommand → Tables × Chan MqttCommand → Prop
  | call {ts : Tables} {ch : Chan MqttCommand} (call : LightCall) (now : Int)
      (hhand : ∀ t state, call = .setLight t state → byHand call.tableID) :
      Ordered byHand (ts, ch) ((call.cacheWrite.apply ts).1, ch.trySend (call.command now))
  | booking {ts : Tables} {ch : Chan MqttCommand} (t : Int) (cb : CurrentBooking) :
      Ordered byHand (ts, ch) (ts.updateCurrentBooking t cb, ch)

/-- The lights of the cache, and the commands that wait. -/
def lights (w : World) : Tables × Chan MqttCommand := (w.tables, w.mqttCmdChan)

/-! ## Programs -/

section

variable {byHand : Int → Prop} {α β : Type}

theorem bind_assoc_go {γ : Type} (p : Go γ) (k : γ → Go β) (f : β → Go α) :
    ((p >>= k) >>= f) = p >>= fun a => k a >>= f := by
  induction p with
  | ret a => rfl
  | act o k' ih =>
    simp only [Prog.act_bind]
    exact congrArg _ (funext fun r => ih r)

theorem bind_ret_go (p : Go α) : (p >>= Prog.ret) = p := by
  induction p with
  | ret a => rfl
  | act o k ih =>
    rw [Prog.act_bind]
    exact congrArg _ (funext fun r => ih r)

theorem orders_bind {p : Go β} {f : β → Go α} (hp : Orders byHand p)
    (hf : ∀ b, Orders byHand (f b)) : Orders byHand (p >>= f) := by
  induction hp with
  | ret b => exact hf b
  | act ho _ ih => exact .act ho ih
  | booking _ ih =>
    rw [bind_assoc_go]
    exact .booking ih
  | activate _ ih =>
    rw [bind_assoc_go]
    exact .activate ih
  | deactivate _ ih =>
    rw [bind_assoc_go]
    exact .deactivate ih
  | setLight ht _ ih =>
    rw [bind_assoc_go]
    exact .setLight ht ih

theorem orders_call_bind {o : Op} {f : Res o → Go α} (ho : o.apart)
    (hf : ∀ r, Orders byHand (f r)) : Orders byHand (Prog.call o >>= f) := .act ho hf

theorem orders_of_apart {p : Go α} (h : p.All fun o => o.apart) : Orders byHand p := by
  induction p with
  | ret a => exact .ret a
  | act o k ih => exact .act h.1 fun r => ih r (h.2 r)

theorem orders_when {c : Bool} {p : Go Unit} (h : Orders byHand p) : Orders byHand (Prog.when c p) := by
  cases c
  · exact .ret ()
  · exact h

theorem orders_withLock {m : MutexRef} {body : Go α} (h : Orders byHand body) :
    Orders byHand (withLock m body) :=
  orders_call_bind rfl fun _ => orders_bind h fun _ => orders_call_bind rfl fun _ => .ret _

theorem orders_updateCurrentBooking (t : Int) (cb : CurrentBooking) :
    Orders byHand (TableService.updateCurrentBooking t cb) := by
  rw [← bind_ret_go (TableService.updateCurrentBooking t cb)]
  exact .booking .ret

theorem orders_activateTable (t : Int) (cb : CurrentBooking) :
    Orders byHand (TableService.activateTable t cb) := by
  rw [← bind_ret_go (TableService.activateTable t cb)]
  exact .activate .ret

theorem orders_deactivateTable (t : Int) : Orders byHand (TableService.deactivateTable t) := by
  rw [← bind_ret_go (TableService.deactivateTable t)]
  exact .deactivate .ret

theorem orders_setLightStatus {t : Int} (ht : byHand t) (state : LightStatus) :
    Orders byHand (TableService.setLightStatus t state) := by
  rw [← bind_ret_go (TableService.setLightStatus t state)]
  exact .setLight ht .ret

/-! ## The scheduler -/

theorem setTimer_apart (key : TimerKey) (bookingID : String) (instant : Int) :
    (Scheduler.setTimer key bookingID instant).All fun o => o.apart :=
  ⟨rfl, fun _ => ⟨rfl, fun _ => ⟨rfl, fun _ => ⟨rfl, fun _ => trivial⟩⟩⟩⟩

theorem scheduleNext_apart (t now : Int) :
    (Scheduler.scheduleNext t now).All fun o => o.apart := by
  refine Prog.all_call_bind rfl fun found => ?_
  rcases found with e | _ | next
  · trivial
  · trivial
  · exact setTimer_apart _ _ _

theorem rescheduleTable_apart (t : Int) : (Scheduler.rescheduleTable t).All fun o => o.apart := by
  refine Prog.all_bind ⟨rfl, fun _ => ⟨rfl, fun _ => trivial⟩⟩ fun _ => ?_
  refine Prog.all_call_bind rfl fun now => Prog.all_call_bind rfl fun found => ?_
  rcases found with e | _ | active
  · trivial
  · exact scheduleNext_apart t now
  · exact setTimer_apart _ _ _

theorem orders_rescheduleTable (t : Int) : Orders byHand (Scheduler.rescheduleTable t) :=
  orders_of_apart (rescheduleTable_apart t)

theorem orders_handleStartFired (t : Int) (bookingID : String) :
    Orders byHand (Scheduler.handleStartFired t bookingID) := by
  refine orders_call_bind rfl fun _ => orders_call_bind rfl fun found => ?_
  rcases found with e | _ | b
  · exact .ret ()
  · exact orders_rescheduleTable t
  · dsimp only
    split
    · exact orders_rescheduleTable t
    · refine orders_call_bind rfl fun now => ?_
      split
      · exact orders_bind (orders_activateTable t _) fun _ => orders_of_apart (setTimer_apart _ _ _)
      · exact orders_rescheduleTable t

theorem orders_handleEndFired (t : Int) (bookingID : String) :
    Orders byHand (Scheduler.handleEndFired t bookingID) :=
  orders_call_bind rfl fun _ => orders_call_bind rfl fun _ =>
    orders_bind (orders_when (orders_deactivateTable t)) fun _ =>
      orders_call_bind rfl fun now => orders_of_apart (scheduleNext_apart t now)

theorem orders_timerFires : Orders byHand Scheduler.timerFires := by
  refine orders_call_bind rfl fun t => ?_
  unfold Scheduler.callback
  split
  · exact orders_handleStartFired _ _
  · exact orders_handleEndFired _ _

theorem orders_reconcileTable (now t : Int) : Orders byHand (Scheduler.reconcileTable now t) := by
  refine orders_call_bind rfl fun found => ?_
  obtain ⟨table, ok⟩ := found
  dsimp only
  split
  · exact .ret ()
  · split
    · exact orders_when (orders_bind (orders_deactivateTable t) fun _ => orders_rescheduleTable t)
    · refine orders_call_bind rfl fun found => ?_
      rcases found with e | _ | active
      · exact .ret ()
      · exact .ret ()
      · exact orders_bind (orders_activateTable t _) fun _ => orders_rescheduleTable t
    · exact .ret ()

theorem orders_reconcile : Orders byHand Scheduler.reconcile :=
  orders_call_bind rfl fun now => orders_bind (orders_reconcileTable now 1) fun _ =>
    orders_bind (orders_reconcileTable now 2) fun _ =>
      orders_bind (orders_reconcileTable now 3) fun _ => orders_reconcileTable now 4

/-! ## The requests -/

theorem getTableMutex_apart (t : Int) : (getTableMutex t).All fun o => o.apart :=
  ⟨rfl, fun _ => ⟨rfl, fun _ => ⟨rfl, fun _ => trivial⟩⟩⟩

theorem timeline_apart {p : Go α} (h : p.All fun o => o.timeline) : p.All fun o => o.apart :=
  h.mono fun o ho => by cases o <;> first | rfl | cases ho

theorem orders_createBooking (dto : CreateBookingInput) (createdBy role : String) :
    Orders byHand (createBooking dto createdBy role) := by
  refine orders_bind (orders_of_apart (getTableMutex_apart _)) fun m => orders_withLock ?_
  unfold createLocked
  split
  · exact .ret _
  · refine orders_call_bind rfl fun now => orders_bind ?_ fun refused => ?_
    · unfold staffRefused
      split
      · exact orders_bind (orders_of_apart (timeline_apart venueTimes_timeline)) fun _ =>
          orders_call_bind rfl fun _ => .ret _
      · exact .ret _
    cases refused with
    | true => exact .ret _
    | false =>
      refine orders_call_bind rfl fun overlap => ?_
      rcases overlap with e | _ | _
      · exact .ret _
      · refine orders_call_bind rfl fun id => ?_
        cases id with
        | error e => exact .ret _
        | ok id =>
          refine orders_bind (orders_call_bind rfl fun now => ?_) fun _ => .ret _
          exact orders_bind (orders_when (orders_activateTable _ _)) fun _ =>
            orders_of_apart emitTimelineUpdate_apart
      · exact .ret _

theorem orders_withFresh {id : String} {body : Booking → Go (Except GoError Booking)}
    (hbody : ∀ fresh, Orders byHand (body fresh)) : Orders byHand (withFresh id body) := by
  refine orders_call_bind rfl fun found => ?_
  rcases found with e | _ | b
  · exact .ret _
  · exact .ret _
  · dsimp only
    split
    · exact .ret _
    · refine orders_bind (orders_of_apart (getTableMutex_apart _)) fun m => orders_withLock ?_
      refine orders_call_bind rfl fun again => ?_
      rcases again with e | _ | fresh
      · exact .ret _
      · exact .ret _
      · dsimp only
        split
        · exact .ret _
        · exact hbody fresh

theorem orders_updateBooking (id : String) (dto : UpdateBookingInput) :
    Orders byHand (updateBooking id dto) := by
  refine orders_withFresh fun fresh => ?_
  unfold updateFresh
  split
  · exact .ret _
  · rename_i window _
    refine orders_bind ?_ fun checked => ?_
    · cases window with
      | none => exact .ret _
      | some window =>
        refine orders_call_bind rfl fun overlap => ?_
        rcases overlap with e | _ | _ <;> exact .ret _
    cases checked with
    | error e => exact .ret _
    | ok _ =>
      refine orders_call_bind rfl fun saved => ?_
      cases saved with
      | error e => exact .ret _
      | ok _ =>
        refine orders_bind (orders_call_bind rfl fun now => ?_) fun _ => .ret _
        exact orders_bind (orders_when (orders_updateCurrentBooking _ _)) fun _ =>
          orders_of_apart emitTimelineUpdate_apart

theorem orders_cancelBooking (id : String) : Orders byHand (cancelBooking id) := by
  refine orders_withFresh fun fresh => orders_call_bind rfl fun saved => ?_
  cases saved with
  | error e => exact .ret _
  | ok _ =>
    refine orders_bind (orders_call_bind rfl fun now => ?_) fun _ => .ret _
    refine orders_bind (orders_when ?_) fun _ => orders_of_apart emitTimelineUpdate_apart
    exact orders_call_bind rfl fun _ => orders_when (orders_deactivateTable _)

theorem orders_toggle {body : Option LightsHandler.ToggleBody}
    (hbody : ∀ b ∈ body, ∀ t ∈ LightsHandler.addressed b.tableID, byHand t) :
    Orders byHand (LightsHandler.toggle body) := by
  cases body with
  | none => exact .ret _
  | some body =>
    unfold LightsHandler.toggle
    dsimp only
    split
    · exact .ret _
    · rename_i t ht
      split
      · exact .ret _
      · refine orders_bind ?_ fun ok => ?_
        · unfold LightsHandler.known
          split
          · exact orders_call_bind rfl fun _ => .ret _
          · exact .ret _
        · split
          · exact orders_bind (orders_setLightStatus (hbody body rfl t ht) _) fun _ => .ret _
          · exact .ret _

theorem orders_handle {q : ServerRequest} (locals : Locals) (e : Endpoint)
    (hbody : ∀ b ∈ q.toggleBody, ∀ t ∈ LightsHandler.addressed b.tableID, byHand t) :
    Orders byHand (handle q locals e) := by
  cases e with
  | createBooking =>
    cases locals with
    | none => exact .ret _
    | some user =>
      refine orders_bind ?_ fun _ => .ret _
      cases q.createBody with
      | none => exact .ret _
      | some body =>
        unfold BookingHandler.create
        dsimp only
        split
        · exact .ret _
        · exact orders_bind (orders_createBooking _ _ _) fun _ => .ret _
  | getTimeline =>
    refine orders_bind (orders_bind ?_ fun r => ?_) fun _ => .ret _
    · unfold BookingHandler.getTimeline
      split
      · exact orders_call_bind rfl fun now => orders_of_apart (timeline_apart (getTimeline_timeline _))
      · exact orders_of_apart (timeline_apart (getTimeline_timeline _))
    · cases r <;> exact .ret _
  | updateBooking id =>
    refine orders_bind ?_ fun _ => .ret _
    cases q.updateBody with
    | none => exact .ret _
    | some body => exact orders_bind (orders_updateBooking id body) fun _ => .ret _
  | cancelBooking id =>
    exact orders_bind (orders_bind (orders_cancelBooking id) fun _ => .ret _) fun _ => .ret _
  | toggleLight => exact orders_bind (orders_toggle hbody) fun _ => .ret _
  | hardwareHealth =>
    refine orders_bind ?_ fun _ => .ret _
    cases q.hardware with
    | data r => exact orders_call_bind rfl fun _ => .ret _
    | timedOut => exact .ret _
    | disconnected => exact .ret _
  | getConfig =>
    refine orders_bind (orders_call_bind rfl fun cfg => ?_) fun _ => .ret _
    cases cfg <;> exact .ret _
  | health | webSocket | updateConfig | listUsers | setRole _ | deleteUser _ => exact .ret _

theorem orders_serve (router : Middleware.Router HttpRequest) (verifyIDToken : String → Option Token)
    {q : ServerRequest}
    (hbody : ∀ b ∈ q.toggleBody, ∀ t ∈ LightsHandler.addressed b.tableID, byHand t) :
    Orders byHand (serve router verifyIDToken q) := by
  unfold serve
  split
  · exact orders_handle _ _ hbody
  all_goals exact .ret _

end

/-! ## Runs -/

section

variable {byHand : Int → Prop} {staff : String → Prop} {α : Type} {E : Env → Prop} {i : Nat}
  {w w' : World} {a : α}

/-- A write of the cache, with its broadcast. -/
theorem lights_of_write {c : CacheWrite} {u : Unit}
    (h : Prog.Runs (sem E) i (TableCache.write c) w u w') :
    lights w' = ((c.apply w.tables).1, w.mqttCmdChan) := by
  simp only [TableCache.write, Prog.call_bind] at h
  obtain ⟨e, -, r, w₁, hwrite, h⟩ := runs_op.1 h
  obtain ⟨-, rfl⟩ := perform_write hwrite
  have hbroadcast : (Prog.when r TableCache.broadcast).All fun o => o.apart :=
    Prog.all_when ⟨rfl, fun _ => ⟨rfl, fun _ => trivial⟩⟩
  have hsame := runs_apart hbroadcast h
  exact Prod.ext hsame.tables hsame.mqttCmdChan

/-- A call of the table service is one write and one send. -/
theorem lights_of_call (call : LightCall) {u : Unit}
    (h : Prog.Runs (sem E) i call.program w u w') :
    ∃ now, lights w' =
      ((call.cacheWrite.apply w.tables).1, w.mqttCmdChan.trySend (call.command now)) := by
  rw [call.program_eq_command] at h
  obtain ⟨_, w₁, hwrite, h⟩ := Prog.runs_bind.1 h
  obtain ⟨htables, hchan⟩ := Prod.mk.inj (lights_of_write hwrite)
  simp only [timeNow, Prog.call_bind] at h
  obtain ⟨e, -, now, w₂, hnow, h⟩ := runs_op.1 h
  have hsame := perform_apart rfl hnow
  obtain ⟨e', -, _, w₃, hsend, h⟩ := runs_op.1 h
  obtain ⟨-, rfl⟩ := Prog.runs_ret.1 h
  cases hsend
  refine ⟨now, ?_⟩
  rw [lights, hsame.tables, hsame.mqttCmdChan, htables, hchan]

theorem perform_keeps : ∀ o w r w', WorldInOrder staff w → orderly staff o → sem E i o w r w' →
    WorldInOrder staff w' ∧ answered staff o r := by
  rintro o w r w' hw ho ⟨e, -, hperf⟩
  exact perform_inOrder hw ho hperf

/-- A run of a program that orders lights is a sequence of calls, all for tables of the venue. -/
theorem ordered_of_runs {p : Go α} (hp : Orders byHand p) (htidy : Tidy staff p)
    (hw : WorldInOrder staff w) (h : Prog.Runs (sem E) i p w a w') :
    Relation.ReflTransGen (Ordered byHand) (lights w) (lights w') ∧ WorldInOrder staff w' := by
  induction hp generalizing w with
  | ret b =>
    obtain ⟨-, rfl⟩ := Prog.runs_ret.1 h
    exact ⟨.refl, hw⟩
  | @act o k ho _ ih =>
    obtain ⟨r, w₁, hact, hrest⟩ := Prog.runs_act.1 h
    obtain ⟨hw₁, hanswered⟩ := perform_keeps o w r w₁ hw htidy.1 hact
    obtain ⟨e, -, hperf⟩ := hact
    have hsame := perform_apart ho hperf
    have hlights : lights w₁ = lights w := Prod.ext hsame.tables hsame.mqttCmdChan
    rw [← hlights]
    exact ih r (htidy.2 r hanswered) hw₁ hrest
  | @booking t cb k _ ih =>
    obtain ⟨u, w₁, hcall, hrest⟩ := Prog.runs_bind.1 h
    obtain ⟨hw₁, hk⟩ := htidy.runs_bind _ perform_keeps hw hcall
    obtain ⟨hordered, hw'⟩ := ih u hk hw₁ hrest
    rw [lights_of_write hcall] at hordered
    exact ⟨.head (.booking t cb) hordered, hw'⟩
  | @activate t cb k _ ih =>
    obtain ⟨u, w₁, hcall, hrest⟩ := Prog.runs_bind.1 h
    obtain ⟨hw₁, hk⟩ := htidy.runs_bind _ perform_keeps hw hcall
    obtain ⟨hordered, hw'⟩ := ih u hk hw₁ hrest
    have ht : OfVenue t := htidy.1
    obtain ⟨now, hlights⟩ := lights_of_call (.activate ⟨t, ht⟩ cb) hcall
    rw [hlights] at hordered
    exact ⟨.head (.call _ now fun _ _ hset => by cases hset) hordered, hw'⟩
  | @deactivate t k _ ih =>
    obtain ⟨u, w₁, hcall, hrest⟩ := Prog.runs_bind.1 h
    obtain ⟨hw₁, hk⟩ := htidy.runs_bind _ perform_keeps hw hcall
    obtain ⟨hordered, hw'⟩ := ih u hk hw₁ hrest
    have ht : OfVenue t := htidy.1
    obtain ⟨now, hlights⟩ := lights_of_call (.deactivate ⟨t, ht⟩) hcall
    rw [hlights] at hordered
    exact ⟨.head (.call _ now fun _ _ hset => by cases hset) hordered, hw'⟩
  | @setLight t state k hhand _ ih =>
    obtain ⟨u, w₁, hcall, hrest⟩ := Prog.runs_bind.1 h
    obtain ⟨hw₁, hk⟩ := htidy.runs_bind _ perform_keeps hw hcall
    obtain ⟨hordered, hw'⟩ := ih u hk hw₁ hrest
    by_cases hall : t = 0
    · subst hall
      obtain ⟨now, hlights⟩ := lights_of_call (.setLight none state) hcall
      rw [hlights] at hordered
      exact ⟨.head (.call (.setLight none state) now fun _ _ _ => hhand) hordered, hw'⟩
    · have ht : OfVenue t := by
        have hone := htidy
        unfold TableService.setLightStatus at hone
        rw [if_neg hall] at hone
        exact hone.1
      obtain ⟨now, hlights⟩ := lights_of_call (.setLight (some ⟨t, ht⟩) state) hcall
      rw [hlights] at hordered
      exact ⟨.head (.call (.setLight (some ⟨t, ht⟩) state) now fun _ _ _ => hhand) hordered, hw'⟩

end

end Server

end GbcVenue
