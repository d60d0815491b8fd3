import GbcVenue.Cache.Representation
import GbcVenue.Interleaving.Discipline
import GbcVenue.Scheduler.Scheduler
import GbcVenue.Server.Handlers
import GbcVenue.Service.Durations

/-!
# What the handlers keep out

The services take any table number and any text for who made a booking; the handlers and the middlewares
see to it that there are no others than those of the venue. `venue_stays_in_order`: in any interleaving of
HTTP requests, timers, reconcile passes and messages of the device, every booking is of one of the four
tables and was made by someone with a verified token of the staff, and nothing the backend does is about
any other table.
-/

namespace GbcVenue

open Interleaving BookingService Access

namespace Server

/-- What runs in the backend: the requests, the callbacks of timers, the reconcile passes, the messages of
the device, and the boot. -/
inductive Goroutine
  | serve (q : ServerRequest)
  | timer
  | reconcile
  | message (msg : MqttMessage)
  | boot

section

variable (router : Middleware.Router HttpRequest) (verifyIDToken : String → Option Token)

def Goroutine.program : Goroutine → Go (Option HttpReply)
  | .serve q => Server.serve router verifyIDToken q
  | .timer => do
    Scheduler.timerFires
    return none
  | .reconcile => do
    Scheduler.reconcile
    return none
  | .message msg => do
    let _ ← MqttClient.handleRaw msg
    return none
  | .boot => do
    Scheduler.boot
    return none

def goroutine (gs : List Goroutine) (i : Nat) : Go (Option HttpReply) :=
  match gs[i]? with
  | some g => g.program router verifyIDToken
  | none => return none

/-- All of them at their start. -/
def startAll (gs : List Goroutine) (w : World) : Config Res Nat World (Option HttpReply) :=
  ⟨w, goroutine router verifyIDToken gs⟩

/-- Somebody of the staff has this email, by a verified token. -/
def OfStaff (email : String) : Prop :=
  ∃ text token, verifyIDToken text = some token ∧ (Token.user token).email = email ∧
    (Token.user token).role ∈ ["admin", "staff"]

end

/-- A message as the device publishes it, about all tables or one of the four. -/
def FromDevice (msg : MqttMessage) : Prop :=
  ∃ up, msg = MqttClient.messageOf up ∧
    ∀ commandID tableID lightState, up = .ack commandID tableID lightState →
      0 ≤ tableID ∧ tableID ≤ 4

/-- A table of the venue. -/
abbrev OfVenue (tableID : Int) : Prop := 1 ≤ tableID ∧ tableID ≤ 4

section

variable (staff : String → Prop)

/-- A document of a table of the venue, made by one of the staff, that does not end before it begins. -/
structure Accounted (d : BookingDoc) : Prop where
  table : OfVenue d.tableID
  createdBy : staff d.createdBy
  window : d.checkInTime ≤ d.checkOutTime

/-- A record that is stored as such a document. -/
def AccountedBooking (b : Booking) : Prop := ∀ oid, Accounted staff (docOf oid b)

/-- An action that is about the tables of the venue alone. -/
def orderly : Op → Prop
  | .create b | .save b => AccountedBooking staff b
  | .tableMutex t => OfVenue t
  | .write c => c.Valid
  | .sendMqtt cmd => cmd.tableID = 0 ∨ OfVenue cmd.tableID
  | .afterFunc _ key _ => OfVenue key.tableID
  | _ => True

/-- What the goroutines may assume of an answer. -/
def answered : (o : Op) → Res o → Prop
  | .findByID _, .ok (some b) => AccountedBooking staff b
  | .findAllActiveNow _, .ok bs => ∀ b ∈ bs, OfVenue b.tableID
  | .fire, t => OfVenue t.key.tableID
  | _, _ => True

/-- The bookings are accounted for, the cache holds the venue, no timer is for another table, and there are
no mutexes but those of the four tables. -/
structure WorldInOrder (w : World) : Prop where
  bookings : ∀ d ∈ w.bookings.docs, Accounted staff d
  tables : w.tables.Represents
  timers : ∀ a ∈ w.armed, OfVenue a.key.tableID
  mutexes : w.nextMutex = 5 ∧ ∀ t, (w.tblMu t).isSome ↔ OfVenue t

/-- So is the world, and so is what any goroutine is about to do. -/
structure InOrder (c : Config Res Nat World (Option HttpReply)) : Prop where
  world : WorldInOrder staff c.state
  next : ∀ i o k, c.threads i = .act o k → orderly staff o

end

/-! ## Programs -/

variable {staff : String → Prop}

abbrev Tidy (staff : String → Prop) {α : Type} (p : Go α) : Prop :=
  p.Keeps (orderly staff) (answered staff)

theorem tidy_of_timeline {α : Type} {p : Go α} (h : p.All fun o => o.timeline) : Tidy staff p :=
  Prog.keeps_of_all (h.mono fun o ho => by cases o <;> trivial)

theorem tidy_withLock {α : Type} {m : MutexRef} {body : Go α} (h : Tidy staff body) :
    Tidy staff (withLock m body) :=
  Prog.keeps_call_bind trivial fun _ _ => Prog.keeps_bind h fun _ =>
    Prog.keeps_call_bind trivial fun _ _ => trivial

theorem tidy_getTableMutex {t : Int} (ht : OfVenue t) : Tidy staff (getTableMutex t) :=
  Prog.keeps_bind (tidy_withLock ⟨ht, fun _ _ => trivial⟩) fun _ => trivial

theorem tidy_when {c : Bool} {p : Go Unit} (h : Tidy staff p) : Tidy staff (Prog.when c p) := by
  cases c
  · trivial
  · exact h

theorem tidy_write {c : CacheWrite} (hc : c.Valid) : Tidy staff (TableCache.write c) :=
  Prog.keeps_call_bind hc fun _ _ => tidy_when
    (Prog.keeps_call_bind trivial fun _ _ => ⟨trivial, fun _ _ => trivial⟩)

theorem tidy_sendMqttCommand {t : Int} (ht : t = 0 ∨ OfVenue t) (state : LightState) :
    Tidy staff (TableService.sendMqttCommand t state) :=
  Prog.keeps_call_bind trivial fun _ _ => ⟨ht, fun _ _ => trivial⟩

theorem tidy_activateTable {t : Int} (ht : OfVenue t) (cb : CurrentBooking) :
    Tidy staff (TableService.activateTable t cb) :=
  Prog.keeps_bind (tidy_write ht) fun _ => tidy_sendMqttCommand (.inr ht) _

theorem tidy_deactivateTable {t : Int} (ht : OfVenue t) : Tidy staff (TableService.deactivateTable t) :=
  Prog.keeps_bind (tidy_write ht) fun _ => tidy_sendMqttCommand (.inr ht) _

theorem tidy_setLightStatus {t : Int} (ht : t = 0 ∨ OfVenue t) (state : LightStatus) :
    Tidy staff (TableService.setLightStatus t state) := by
  unfold TableService.setLightStatus
  by_cases hall : t = 0
  · rw [if_pos hall]
    exact Prog.keeps_bind (tidy_write trivial) fun _ => tidy_sendMqttCommand ht _
  · rw [if_neg hall]
    exact Prog.keeps_bind (tidy_write (ht.resolve_left hall)) fun _ => tidy_sendMqttCommand ht _

/-! ## The scheduler -/

theorem tidy_setTimer {key : TimerKey} (ht : OfVenue key.tableID) (bookingID : String) (instant : Int) :
    Tidy staff (Scheduler.setTimer key bookingID instant) :=
  Prog.keeps_call_bind trivial fun _ _ => Prog.keeps_call_bind trivial fun _ _ =>
    Prog.keeps_call_bind ht fun _ _ => ⟨trivial, fun _ _ => trivial⟩

theorem tidy_scheduleNext {t : Int} (ht : OfVenue t) (now : Int) :
    Tidy staff (Scheduler.scheduleNext t now) := by
  refine Prog.keeps_call_bind trivial fun found _ => ?_
  rcases found with e | _ | next
  · trivial
  · trivial
  · exact tidy_setTimer ht _ _

theorem tidy_rescheduleTable {t : Int} (ht : OfVenue t) : Tidy staff (Scheduler.rescheduleTable t) := by
  refine Prog.keeps_bind (Prog.keeps_call_bind trivial fun _ _ => ⟨trivial, fun _ _ => trivial⟩)
    fun _ => ?_
  refine Prog.keeps_call_bind trivial fun now _ => Prog.keeps_call_bind trivial fun found _ => ?_
  rcases found with e | _ | active
  · trivial
  · exact tidy_scheduleNext ht now
  · exact tidy_setTimer ht _ _

theorem tidy_handleStartFired {t : Int} (ht : OfVenue t) (bookingID : String) :
    Tidy staff (Scheduler.handleStartFired t bookingID) := by
  refine Prog.keeps_call_bind trivial fun _ _ => Prog.keeps_call_bind trivial fun found _ => ?_
  rcases found with e | _ | b
  · trivial
  · exact tidy_rescheduleTable ht
  · dsimp only
    split
    · exact tidy_rescheduleTable ht
    · refine Prog.keeps_call_bind trivial fun now _ => ?_
      split
      · exact Prog.keeps_bind (tidy_activateTable ht _) fun _ => tidy_setTimer ht _ _
      · exact tidy_rescheduleTable ht

theorem tidy_handleEndFired {t : Int} (ht : OfVenue t) (bookingID : String) :
    Tidy staff (Scheduler.handleEndFired t bookingID) :=
  Prog.keeps_call_bind trivial fun _ _ => Prog.keeps_call_bind trivial fun _ _ =>
    Prog.keeps_bind (tidy_when (tidy_deactivateTable ht)) fun _ =>
      Prog.keeps_call_bind trivial fun now _ => tidy_scheduleNext ht now

theorem tidy_timerFires : Tidy staff Scheduler.timerFires := by
  refine Prog.keeps_call_bind trivial fun t ht => ?_
  unfold Scheduler.callback
  split
  · exact tidy_handleStartFired ht _
  · exact tidy_handleEndFired ht _

theorem tidy_reconcileTable {t : Int} (ht : OfVenue t) (now : Int) :
    Tidy staff (Scheduler.reconcileTable now t) := by
  refine Prog.keeps_call_bind trivial fun found _ => ?_
  obtain ⟨table, ok⟩ := found
  dsimp only
  split
  · trivial
  · split
    · exact tidy_when (Prog.keeps_bind (tidy_deactivateTable ht) fun _ => tidy_rescheduleTable ht)
    · refine Prog.keeps_call_bind trivial fun found _ => ?_
      rcases found with e | _ | active
      · trivial
      · trivial
      · exact Prog.keeps_bind (tidy_activateTable ht _) fun _ => tidy_rescheduleTable ht
    · trivial

theorem tidy_reconcile : Tidy staff Scheduler.reconcile :=
  Prog.keeps_call_bind trivial fun now _ =>
    Prog.keeps_bind (tidy_reconcileTable (by decide) now) fun _ =>
      Prog.keeps_bind (tidy_reconcileTable (by decide) now) fun _ =>
        Prog.keeps_bind (tidy_reconcileTable (by decide) now) fun _ =>
          tidy_reconcileTable (by decide) now

theorem tidy_hydrateEach {bs : List Booking} (h : ∀ b ∈ bs, OfVenue b.tableID) :
    Tidy staff (Scheduler.hydrateEach bs) := by
  induction bs with
  | nil => trivial
  | cons b bs ih =>
    refine Prog.keeps_bind (tidy_write (h b List.mem_cons_self)) fun _ => ?_
    exact ih fun b hb => h b (List.mem_cons_of_mem _ hb)

theorem tidy_boot : Tidy staff Scheduler.boot := by
  refine Prog.keeps_bind (Prog.keeps_call_bind trivial fun now _ =>
    Prog.keeps_call_bind trivial fun found hfound => ?_) fun _ => ?_
  · cases found with
    | error e => trivial
    | ok bs => exact tidy_hydrateEach hfound
  · exact Prog.keeps_bind (tidy_rescheduleTable (by decide)) fun _ =>
      Prog.keeps_bind (tidy_rescheduleTable (by decide)) fun _ =>
        Prog.keeps_bind (tidy_rescheduleTable (by decide)) fun _ => tidy_rescheduleTable (by decide)

/-! ## The booking requests -/

theorem accounted_docToBooking {d : BookingDoc} (h : Accounted staff d) :
    AccountedBooking staff (docToBooking d) := by
  refine fun oid => ⟨h.table, h.createdBy, ?_⟩
  simp only [docOf, docToBooking, unixMilli_ofUnixMilli]
  exact h.window

theorem AccountedBooking.table {b : Booking} (h : AccountedBooking staff b) : OfVenue b.tableID :=
  (h .zero).table

theorem unixMilli_le {t t' : Int} (h : t ≤ t') : GoTime.unixMilli t ≤ GoTime.unixMilli t' := by
  unfold GoTime.unixMilli
  omega

theorem accounted_newBooking {dto : CreateBookingInput} {createdBy : String}
    {checkIn checkOut duration now : Int} (ht : OfVenue dto.tableID) (hstaff : staff createdBy)
    (h : parseTimes dto.checkInTime dto.checkOutTime = .ok (checkIn, checkOut, duration)) :
    AccountedBooking staff (newBooking dto createdBy checkIn checkOut duration now) := by
  have hwindow := half_minute_of_parseTimes h
  refine fun oid => ⟨ht, hstaff, unixMilli_le ?_⟩
  unfold GoTime.second at hwindow
  show checkIn ≤ checkOut
  omega

theorem accounted_updated {fresh : Booking} {dto : UpdateBookingInput} {window : Option (Int × Int)}
    (h : AccountedBooking staff fresh) (hwindow : requestedWindow fresh dto = .ok window) :
    AccountedBooking staff (updated fresh dto window) := by
  intro oid
  obtain ⟨htable, hcreated, hold⟩ := h oid
  rcases requestedWindow_cases hwindow with ⟨-, -, rfl⟩ | ⟨newIn, newOut, rfl, hlt, -⟩
  · exact ⟨htable, hcreated, hold⟩
  · exact ⟨htable, hcreated, unixMilli_le hlt.le⟩

theorem tidy_createBooking {dto : CreateBookingInput} {createdBy : String} (role : String)
    (ht : OfVenue dto.tableID) (hstaff : staff createdBy) :
    Tidy staff (createBooking dto createdBy role) := by
  refine Prog.keeps_bind (tidy_getTableMutex ht) fun m => tidy_withLock ?_
  unfold createLocked
  split
  · trivial
  · rename_i checkIn checkOut duration hparse
    refine Prog.keeps_call_bind trivial fun now _ => ?_
    refine Prog.keeps_bind ?_ fun refused => ?_
    · unfold staffRefused
      split
      · exact Prog.keeps_bind (tidy_of_timeline venueTimes_timeline) fun _ => ⟨trivial, fun _ _ => trivial⟩
      · trivial
    cases refused with
    | true => trivial
    | false =>
      refine Prog.keeps_call_bind trivial fun overlap _ => ?_
      rcases overlap with e | _ | _
      · trivial
      · refine Prog.keeps_call_bind (accounted_newBooking ht hstaff hparse) fun id _ => ?_
        cases id with
        | error e => trivial
        | ok id =>
          refine Prog.keeps_bind (Prog.keeps_call_bind trivial fun syncNow _ => ?_) fun _ => trivial
          exact Prog.keeps_bind (tidy_when (tidy_activateTable ht _)) fun _ =>
            tidy_of_timeline emitTimelineUpdate_timeline
      · trivial

theorem tidy_withFresh {id : String} {body : Booking → Go (Except GoError Booking)}
    (hbody : ∀ fresh, AccountedBooking staff fresh → Tidy staff (body fresh)) :
    Tidy staff (withFresh id body) := by
  refine Prog.keeps_call_bind trivial fun found hfound => ?_
  rcases found with e | _ | b
  · trivial
  · trivial
  · dsimp only
    split
    · trivial
    · have hb : AccountedBooking staff b := hfound
      refine Prog.keeps_bind (tidy_getTableMutex hb.table) fun m => tidy_withLock ?_
      refine Prog.keeps_call_bind trivial fun again hagain => ?_
      rcases again with e | _ | fresh
      · trivial
      · trivial
      · dsimp only
        split
        · trivial
        · exact hbody fresh hagain

theorem tidy_checkWindow (t : Int) (window : Option (Int × Int)) (id : String) :
    Tidy staff (checkWindow t window id) := by
  cases window with
  | none => trivial
  | some window =>
    refine Prog.keeps_call_bind trivial fun overlap _ => ?_
    rcases overlap with e | _ | _ <;> trivial

theorem tidy_updateBooking (id : String) (dto : UpdateBookingInput) :
    Tidy staff (updateBooking id dto) := by
  refine tidy_withFresh fun fresh hfresh => ?_
  unfold updateFresh
  split
  · trivial
  · rename_i window hwindow
    have hupdated := accounted_updated hfresh hwindow
    refine Prog.keeps_bind (tidy_checkWindow _ _ _) fun checked => ?_
    cases checked with
    | error e => trivial
    | ok _ =>
      refine Prog.keeps_call_bind hupdated fun saved _ => ?_
      cases saved with
      | error e => trivial
      | ok _ =>
        refine Prog.keeps_bind (Prog.keeps_call_bind trivial fun now _ => ?_) fun _ => trivial
        exact Prog.keeps_bind (tidy_when (tidy_write hupdated.table)) fun _ =>
          tidy_of_timeline emitTimelineUpdate_timeline

theorem tidy_cancelBooking (id : String) : Tidy staff (cancelBooking id) := by
  refine tidy_withFresh fun fresh hfresh => ?_
  have hcancelled : AccountedBooking staff (cancelled fresh) := fun oid =>
    ⟨(hfresh oid).table, (hfresh oid).createdBy, (hfresh oid).window⟩
  refine Prog.keeps_call_bind hcancelled fun saved _ => ?_
  cases saved with
  | error e => trivial
  | ok _ =>
    refine Prog.keeps_bind (Prog.keeps_call_bind trivial fun now _ => ?_) fun _ => trivial
    refine Prog.keeps_bind (tidy_when ?_) fun _ => tidy_of_timeline emitTimelineUpdate_timeline
    exact Prog.keeps_call_bind trivial fun _ _ => tidy_when (tidy_deactivateTable hfresh.table)

/-! ## The handlers -/

theorem tidy_create {user : AuthUser} (hstaff : staff user.email)
    (body : Option BookingHandler.CreateBody) : Tidy staff (BookingHandler.create user body) := by
  cases body with
  | none => trivial
  | some body =>
    unfold BookingHandler.create
    dsimp only
    split
    · trivial
    · rename_i hrefusal
      have ht : OfVenue body.input.tableID := by
        unfold BookingHandler.CreateBody.refusal at hrefusal
        split at hrefusal
        · cases hrefusal
        · rename_i hrange
          rw [not_or, not_lt, not_lt] at hrange
          exact hrange
      exact Prog.keeps_bind (tidy_createBooking user.role ht hstaff) fun _ => trivial

theorem tidy_timelineReply (date : String) : Tidy staff (BookingHandler.timelineReply date) := by
  refine Prog.keeps_bind ?_ fun r => ?_
  · unfold BookingHandler.getTimeline
    split
    · exact Prog.keeps_call_bind trivial fun now _ => tidy_of_timeline (getTimeline_timeline _)
    · exact tidy_of_timeline (getTimeline_timeline _)
  · cases r <;> trivial

theorem ofVenue_of_addressed {tableID : Option Json} {t : Int}
    (h : LightsHandler.addressed tableID = some t) : t = 0 ∨ OfVenue t := by
  unfold LightsHandler.addressed at h
  split at h
  · exact .inl (Option.some.inj h).symm
  · split at h
    · split at h
      · cases h
      · rename_i hrange
        obtain rfl := Option.some.inj h
        rw [not_or, not_lt, not_lt] at hrange
        exact .inr hrange
    · cases h

theorem tidy_toggle (body : Option LightsHandler.ToggleBody) :
    Tidy staff (LightsHandler.toggle body) := by
  cases body with
  | none => trivial
  | some body =>
    unfold LightsHandler.toggle
    dsimp only
    split
    · trivial
    · rename_i t ht
      split
      · trivial
      · refine Prog.keeps_bind ?_ fun ok => ?_
        · unfold LightsHandler.known
          split
          · exact ⟨trivial, fun _ _ => trivial⟩
          · trivial
        · split
          · exact Prog.keeps_bind (tidy_setLightStatus (ofVenue_of_addressed ht) _) fun _ => trivial
          · trivial

theorem tidy_handle {q : ServerRequest} {locals : Locals} {e : Endpoint}
    (hstaff : ∀ user, locals = some user → e = .createBooking → staff user.email) :
    Tidy staff (handle q locals e) := by
  cases e with
  | createBooking =>
    cases locals with
    | none => trivial
    | some user => exact Prog.keeps_bind (tidy_create (hstaff user rfl rfl) _) fun _ => trivial
  | getTimeline => exact Prog.keeps_bind (tidy_timelineReply _) fun _ => trivial
  | updateBooking id =>
    refine Prog.keeps_bind ?_ fun _ => trivial
    cases q.updateBody with
    | none => trivial
    | some body => exact Prog.keeps_bind (tidy_updateBooking id body) fun _ => trivial
  | cancelBooking id =>
    exact Prog.keeps_bind (Prog.keeps_bind (tidy_cancelBooking id) fun _ => trivial) fun _ => trivial
  | toggleLight => exact Prog.keeps_bind (tidy_toggle _) fun _ => trivial
  | hardwareHealth =>
    refine Prog.keeps_bind ?_ fun _ => trivial
    cases q.hardware with
    | data r => exact ⟨trivial, fun _ _ => trivial⟩
    | timedOut => trivial
    | disconnected => trivial
  | getConfig =>
    refine Prog.keeps_bind (Prog.keeps_call_bind trivial fun cfg _ => ?_) fun _ => trivial
    cases cfg <;> trivial
  | health | webSocket | updateConfig | listUsers | setRole _ | deleteUser _ => trivial

theorem tidy_serve {router : Middleware.Router HttpRequest} (hrouter : router.Respects app)
    (verifyIDToken : String → Option Token) (q : ServerRequest) :
    Tidy (OfStaff verifyIDToken) (serve router verifyIDToken q) := by
  unfold serve
  split
  · rename_i e locals hhandled
    refine tidy_handle ?_
    rintro user rfl rfl
    obtain ⟨-, -, token, hverified, rfl, -, hrole⟩ := (respond_eq_handled_iff hrouter).1 hhandled
    obtain ⟨text, -, htext⟩ := Option.bind_eq_some_iff.1 hverified
    exact ⟨text, token, htext, rfl, hrole⟩
  all_goals trivial

theorem tidy_message {msg : MqttMessage} (h : FromDevice msg) : Tidy staff (MqttClient.handleRaw msg) := by
  obtain ⟨up, rfl, htable⟩ := h
  rw [MqttClient.handleRaw_messageOf htable]
  cases up with
  | ack commandID tableID lightState =>
    have hstatus : (if lightState = .on then LightStatus.on else .off) = .on ∨
        (if lightState = .on then LightStatus.on else .off) = .off := by
      split
      · exact .inl rfl
      · exact .inr rfl
    refine Prog.keeps_bind (p := TableService.confirmLightStatus _ _) ?_ fun _ => trivial
    unfold TableService.confirmLightStatus
    split
    · exact tidy_write hstatus
    · rename_i hone
      have hrange := htable commandID tableID lightState rfl
      exact tidy_write ⟨⟨by omega, hrange.2⟩, hstatus⟩
  | syncAck commandID => exact Prog.keeps_bind (tidy_write trivial) fun _ => trivial
  | syncRequest => exact ⟨trivial, fun _ _ => trivial⟩

/-! ## The actions -/

theorem accounted_create {c : BookingCollection} {fault : Option String} {oid : ObjectID} {now : Int}
    {b : Booking} (hdocs : ∀ d ∈ c.docs, Accounted staff d) (hb : AccountedBooking staff b) :
    ∀ d ∈ (c.create fault oid now b).2.docs, Accounted staff d := by
  unfold BookingCollection.create
  split
  · exact hdocs
  · rename_i doc hdoc
    obtain ⟨oid', rfl⟩ := docOf_of_bookingToDoc hdoc
    dsimp only
    split
    · exact hdocs
    · split
      · exact hdocs
      · rename_i c' hinsert
        rw [(BookingCollection.insertOne_docs hinsert).1]
        intro d hd
        rcases List.mem_append.1 hd with hd | hd
        · exact hdocs d hd
        · obtain rfl := List.mem_singleton.1 hd
          -- the fresh id and the time of creation are not what it accounts for
          split <;> exact ⟨(hb oid').table, (hb oid').createdBy, (hb oid').window⟩

theorem accounted_save {c : BookingCollection} {fault : Option String} {b : Booking}
    (hdocs : ∀ d ∈ c.docs, Accounted staff d) (hb : AccountedBooking staff b) :
    ∀ d ∈ (c.save fault b).2.docs, Accounted staff d := by
  intro d hd
  rcases mem_save hd with hd | ⟨oid, rfl⟩
  · exact hdocs d hd
  · exact hb oid

theorem WorldInOrder.clearTimer {w : World} (h : WorldInOrder staff w) (key : TimerKey) :
    WorldInOrder staff (w.clearTimer key) := by
  unfold World.clearTimer
  split
  · exact ⟨h.bookings, h.tables, fun a ha => h.timers a (List.mem_filter.1 ha).1, h.mutexes⟩
  · exact h

theorem WorldInOrder.afterFunc {w : World} (h : WorldInOrder staff w) {key : TimerKey}
    (hkey : OfVenue key.tableID) (now delay : Int) (bookingID : String) :
    WorldInOrder staff (w.afterFunc now delay key bookingID) := by
  refine ⟨h.bookings, h.tables, fun a ha => ?_, h.mutexes⟩
  rcases List.mem_append.1 ha with ha | ha
  · exact h.timers a ha
  · obtain rfl := List.mem_singleton.1 ha
    exact hkey

/-- A table of the venue has its mutex from the start. -/
theorem WorldInOrder.tableMutex {w : World} (h : WorldInOrder staff w) {t : Int} (ht : OfVenue t) :
    (w.tableMutex t).2 = w := by
  unfold World.tableMutex
  obtain ⟨m, hm⟩ := Option.isSome_iff_exists.1 ((h.mutexes.2 t).2 ht)
  rw [hm]

/-- An action in order keeps the world in order, and its answer is as the goroutines assume. -/
theorem perform_inOrder {i : Nat} {e : Env} {o : Op} {w w' : World} {r : Res o}
    (hw : WorldInOrder staff w) (ho : orderly staff o) (h : perform i e o w = some (r, w')) :
    WorldInOrder staff w' ∧ answered staff o r := by
  cases o
  case create b =>
    cases h
    exact ⟨⟨accounted_create hw.bookings ho, hw.tables, hw.timers, hw.mutexes⟩, trivial⟩
  case save b =>
    cases h
    exact ⟨⟨accounted_save hw.bookings ho, hw.tables, hw.timers, hw.mutexes⟩, trivial⟩
  case write c =>
    cases h
    exact ⟨⟨hw.bookings, hw.tables.apply ho, hw.timers, hw.mutexes⟩, trivial⟩
  case clearTimer key =>
    cases h
    exact ⟨hw.clearTimer key, trivial⟩
  case afterFunc delay key bookingID =>
    cases h
    exact ⟨hw.afterFunc ho e.now delay bookingID, trivial⟩
  case tableMutex t =>
    have hworld : w' = (w.tableMutex t).2 := by
      simp only [perform, Option.some.injEq] at h
      rw [h]
    rw [hworld, hw.tableMutex ho]
    exact ⟨hw, trivial⟩
  case fire =>
    simp only [perform] at h
    split at h
    · rename_i hfind
      cases h
      refine ⟨⟨hw.bookings, hw.tables, fun a ha => hw.timers a (List.mem_filter.1 ha).1, hw.mutexes⟩, ?_⟩
      exact hw.timers _ (List.mem_of_find?_eq_some hfind)
    · cases h
  case findByID id =>
    cases h
    refine ⟨hw, ?_⟩
    rcases hfound : w.bookings.findByID e.fault id with err | _ | b
    · trivial
    · trivial
    · obtain ⟨d, hd, -, rfl⟩ := BookingCollection.findByID_eq_some hfound
      exact accounted_docToBooking (hw.bookings d hd)
  case findAllActiveNow now =>
    cases h
    refine ⟨hw, ?_⟩
    unfold BookingCollection.findAllActiveNow
    cases e.fault with
    | some err => trivial
    | none =>
      intro b hb
      obtain ⟨d, hd, rfl⟩ := List.mem_map.1 hb
      exact (hw.bookings d (List.mem_filter.1 hd).1).table
  case lock m =>
    simp only [perform] at h
    split at h <;> cases h
    exact ⟨⟨hw.bookings, hw.tables, hw.timers, hw.mutexes⟩, trivial⟩
  case unlock m =>
    simp only [perform] at h
    split at h <;> cases h
    exact ⟨⟨hw.bookings, hw.tables, hw.timers, hw.mutexes⟩, trivial⟩
  all_goals
    cases h
    exact ⟨⟨hw.bookings, hw.tables, hw.timers, hw.mutexes⟩, trivial⟩

/-! ## Every run -/

theorem tidy_program {router : Middleware.Router HttpRequest} (hrouter : router.Respects app)
    (verifyIDToken : String → Option Token) {g : Goroutine}
    (hg : ∀ msg, g = .message msg → FromDevice msg) :
    Tidy (OfStaff verifyIDToken) (g.program router verifyIDToken) := by
  cases g with
  | serve q => exact tidy_serve hrouter verifyIDToken q
  | timer => exact Prog.keeps_bind tidy_timerFires fun _ => trivial
  | reconcile => exact Prog.keeps_bind tidy_reconcile fun _ => trivial
  | message msg => exact Prog.keeps_bind (tidy_message (hg msg rfl)) fun _ => trivial
  | boot => exact Prog.keeps_bind tidy_boot fun _ => trivial

theorem Prog.Keeps.of_act {α : Type} {pre : Op → Prop} {post : (o : Op) → Res o → Prop} {p : Go α}
    (h : p.Keeps pre post) {o : Op} {k : Res o → Go α} (hp : p = .act o k) : pre o := by
  subst hp
  exact h.1

/-- Start any requests, timers, reconcile passes and messages of the device, in any number, over a world in
order, and let them take turns in any way: every state they reach is in order, so every booking is of one
of the four tables and was made with a verified token of an admin or of staff, and nothing that anyone is
about to write, to tell the hardware or to set a timer for is about another table. -/
theorem venue_stays_in_order {router : Middleware.Router HttpRequest} (hrouter : router.Respects app)
    (verifyIDToken : String → Option Token) {gs : List Goroutine}
    (hdevice : ∀ msg, .message msg ∈ gs → FromDevice msg) {w₀ : World}
    (hstart : WorldInOrder (OfStaff verifyIDToken) w₀) {c : Config Res Nat World (Option HttpReply)}
    (h : Reaches (sem fun _ => True) anyStep (startAll router verifyIDToken gs w₀) c) :
    InOrder (OfStaff verifyIDToken) c := by
  have hthreads : ∀ i, Tidy (OfStaff verifyIDToken) (goroutine router verifyIDToken gs i) := by
    intro i
    unfold goroutine
    split
    · rename_i g hg
      refine tidy_program hrouter verifyIDToken ?_
      rintro msg rfl
      exact hdevice msg (List.mem_of_getElem? hg)
    · trivial
  have hkept := Reaches.keeps (WorldInOrder (OfStaff verifyIDToken)) ?_ hstart hthreads h
  · exact ⟨hkept.1, fun i o k hi => Prog.Keeps.of_act (hkept.2 i) hi⟩
  · rintro c i o r s' hinv ho ⟨e, -, hperf⟩ -
    exact perform_inOrder hinv ho hperf

/-- So is a started process over documents that are accounted for. -/
theorem inOrder_start {bookings : BookingCollection} (h : ∀ d ∈ bookings.docs, Accounted staff d)
    {config : Option VenueConfig} {venueOffset : Int} :
    WorldInOrder staff (World.start bookings config venueOffset) := by
  refine ⟨h, Tables.represents_new, fun a ha => absurd ha List.not_mem_nil, rfl, fun t => ?_⟩
  show (if 1 ≤ t ∧ t ≤ 4 then some t.toNat else none).isSome ↔ 1 ≤ t ∧ t ≤ 4
  split <;> simp [*]

/-- Somebody of the staff books table 1 from ten to eleven. -/
def staffBooks : ServerRequest where
  http := ⟨"POST", "/api/bookings", "Bearer k", "", false⟩
  date := ""
  createBody := some ⟨1, "Ann", "0", "2030-01-01T10:00:00Z", "2030-01-01T11:00:00Z", 0, false⟩
  updateBody := none
  toggleBody := none
  hardware := .timedOut

def staffToken (text : String) : Option Token :=
  if text = "k" then some ⟨"kim", [("email", .string "kim@club"), ("role", .string "staff")]⟩ else none

theorem venue_stays_in_order_booked : ∃ c : Config Res Nat World (Option HttpReply),
    c.state.bookings.docs.map (fun d => (d.tableID, d.createdBy)) = [(1, "kim@club")] ∧
      InOrder (OfStaff staffToken) c := by
  have hrun : ((startAll textRouter staffToken [.serve staffBooks, .timer]
      (World.start .empty none 0)).exec perform (fun _ _ _ _ => true)
      (List.replicate 16 (0, nineOClock))).map
      (fun c => c.state.bookings.docs.map fun d => (d.tableID, d.createdBy)) =
        some [(1, "kim@club")] := by
    decide +kernel
  obtain ⟨c, hc, hbooked⟩ := Option.map_eq_some_iff.1 hrun
  have hdevice : ∀ msg, .message msg ∈ [Goroutine.serve staffBooks, .timer] → FromDevice msg := by
    intro msg hmsg
    simp at hmsg
  refine ⟨c, hbooked, venue_stays_in_order textRouter_respects staffToken hdevice ?_
    (Config.reaches_of_exec_any (fun p _ i o s r s' h => ⟨p.2, trivial, h⟩) hc)⟩
  exact inOrder_start fun d hd => absurd hd List.not_mem_nil

end Server

end GbcVenue
