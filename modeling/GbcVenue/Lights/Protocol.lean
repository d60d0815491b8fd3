import GbcVenue.Interleaving.Guarded
import GbcVenue.Lights.MqttClient
import Mathlib.Data.List.Perm.Basic

/-!
# The light protocol

The backend, the device and the two links between them as one system: calls that write the cache and
then send a command, the command loop, the syncs with their snapshots, the relay controller and the
acks on their way back. `lights_agree_at_rest`: once everything has arrived, the cache says of each
light what its relay is, if no sync overtakes the last command for a table with another state.
-/

namespace GbcVenue

open Interleaving MqttClient

/-- The state of the whole system. `sending` holds the commands of the calls that have written the
cache and not sent yet; `published` and `synced` only record the commands published so far and
whether a sync ack has been handled. -/
structure LightSystem where
  tables : Tables
  sending : List MqttCommand
  mqttCmdChan : List MqttCommand
  snapshots : List (List TableState)
  down : List DownMessage
  up : List UpMessage
  device : Hardware.Tables
  published : List MqttCommand
  synced : Bool

namespace LightSystem

/-- The backend and the device have booted. -/
def start (bookings : Int → Option CurrentBooking) : LightSystem :=
  ⟨Tables.hydrated bookings, [], [], [], [], [], Hardware.begin, [], false⟩

inductive Action
  | write (call : LightCall) (now : Int)
  | send (n : Nat)
  | publishCommand
  | snapshot
  | publishSync (k : Nat) (now : Int)
  | requestSync
  | receive (millis : UInt32)
  | update (millis : UInt32)
  | handle

/-- One step. A connection asks for a snapshot, and so does the sync request of a device. -/
def step (s : LightSystem) : Action → Option LightSystem
  | .write call now => some
      { s with
        tables := (call.cacheWrite.apply s.tables).1
        sending := s.sending ++ [call.command now] }
  | .send n => s.sending[n]?.map fun cmd =>
      { s with sending := s.sending.eraseIdx n, mqttCmdChan := s.mqttCmdChan ++ [cmd] }
  | .publishCommand =>
      match s.mqttCmdChan with
      | [] => none
      | cmd :: rest => some
          { s with
            mqttCmdChan := rest
            down := s.down ++ (publishRelayCommand true cmd).toList
            published := s.published ++ [cmd] }
  | .snapshot => some { s with snapshots := s.snapshots ++ [s.tables.getAll] }
  | .publishSync k now => s.snapshots[k]?.map fun snapshot =>
      { s with
        snapshots := s.snapshots.eraseIdx k
        down := s.down ++ [publishFullStateSync now snapshot] }
  | .requestSync => some { s with up := s.up ++ [.syncRequest] }
  | .receive millis =>
      match s.down with
      | [] => none
      | msg :: rest => some
          { s with
            down := rest
            device := (Hardware.eventData s.device millis msg).1
            up := s.up ++ (Hardware.eventData s.device millis msg).2 }
  | .update millis => some
      { s with
        device := (Hardware.update s.device millis).1
        up := s.up ++ (Hardware.update s.device millis).2 }
  | .handle =>
      match s.up with
      | [] => none
      | msg :: rest => some
          { s with
            up := rest
            tables := confirmed s.tables msg
            snapshots := s.snapshots ++ (requested s.tables msg).toList
            synced := s.synced || msg.isSyncAck }

/-- The light of a table in the cache. -/
def light (s : LightSystem) (t : TableNo) : LightStatus := (s.tables.get t).lightStatus

/-- A command for the table is not published yet. -/
def Waiting (s : LightSystem) (t : TableNo) : Prop :=
  ∃ cmd ∈ s.sending ++ s.mqttCmdChan, Addresses cmd.tableID t

/-- A sync says of every table that has no command waiting what its last published command asked. -/
def InTurn (s : LightSystem) : Action → Prop
  | .publishSync k _ => ∀ snapshot, s.snapshots[k]? = some snapshot → ∀ t, ¬ s.Waiting t →
      ∀ cmd, lastFor t s.published = some cmd → ∀ state, ((t : Int), state) ∈ syncTables snapshot →
        state = cmd.lightState
  | _ => True

/-- No command, snapshot or message is under way, and no relay change is pending. -/
structure AtRest (s : LightSystem) : Prop where
  sending : s.sending = []
  mqttCmdChan : s.mqttCmdChan = []
  snapshots : s.snapshots = []
  down : s.down = []
  up : s.up = []
  device : ∀ t : TableNo, (s.device t).pending = false

instance (s : LightSystem) : Decidable s.AtRest :=
  decidable_of_iff (s.sending.isEmpty ∧ s.mqttCmdChan.isEmpty ∧ s.snapshots.isEmpty ∧
      s.down.isEmpty ∧ s.up.isEmpty ∧
      ∀ t ∈ ([1, 2, 3, 4] : List Int), (s.device t).pending = false) <| by
    simp only [List.isEmpty_iff]
    constructor
    · rintro ⟨h₁, h₂, h₃, h₄, h₅, hdevice⟩
      refine ⟨h₁, h₂, h₃, h₄, h₅, fun t => hdevice t ?_⟩
      have ht := t.2
      simp only [List.mem_cons, List.not_mem_nil, or_false]
      omega
    · intro h
      refine ⟨h.sending, h.mqttCmdChan, h.snapshots, h.down, h.up, fun t ht => ?_⟩
      simp only [List.mem_cons, List.not_mem_nil, or_false] at ht
      exact h.device ⟨t, by omega⟩

/-! ## What is under way for a table -/

/-- A message that asks nothing but `state` of a table, and that not by a command. -/
def Quiet (t : TableNo) (state : LightState) : DownMessage → Prop
  | .set _ tableID _ => ¬ Addresses tableID t
  | .sync _ tables => ∀ s, ((t : Int), s) ∈ tables → s = state

/-- A message that confirms nothing but `state` of a table. -/
def Confirms (t : TableNo) (state : LightState) : UpMessage → Prop
  | .ack _ tableID lightState => Addresses tableID t → lightState = state
  | _ => True

/-- What the light of a table becomes once the messages under way to the backend are handled. -/
def eventually (s : LightSystem) (t : TableNo) : LightStatus :=
  s.up.foldl (confirmedLight t) (s.light t)

/-- A table that no command was published for keeps the state that it was hydrated with. -/
structure Untouched (s : LightSystem) (t : TableNo) (state : LightState) : Prop where
  down : ∀ msg ∈ s.down, Quiet t state msg
  snapshots : ∀ snapshot ∈ s.snapshots, ∀ u, ((t : Int), u) ∈ syncTables snapshot → u = state
  up : ∀ msg ∈ s.up, Confirms t state msg
  light : s.light t = pendingOf state ∨ s.light t = statusOf state
  idle : (s.device t).pending = false
  relay : (∃ msg ∈ s.up, msg.isSyncAck) ∨ s.synced → (s.device t).isOn = state.isOn
  settled : s.synced → s.light t = statusOf state

/-- The last command for a table, which asks `state`, is on its way to the device. -/
def Underway (s : LightSystem) (t : TableNo) (state : LightState) : Prop :=
  ∃ before commandID tableID after,
    s.down = before ++ .set commandID tableID state :: after ∧ Addresses tableID t ∧
    Hardware.copyCommandID commandID ≠ "" ∧ ∀ msg ∈ after, Quiet t state msg

/-- The last command for a table, which asks `state`, has arrived at the device: the relay follows it
or will, and so does the cache. -/
structure Arrived (s : LightSystem) (t : TableNo) (state : LightState) : Prop where
  down : ∀ msg ∈ s.down, Quiet t state msg
  target : (s.device t).pending = true → (s.device t).targetIsOn = state.isOn
  relay : (s.device t).pending = false → (s.device t).isOn = state.isOn
  light : (s.device t).pending = true ∧ (s.device t).commandID ≠ "" ∨
    s.eventually t = statusOf state

/-- Where a table stands that no command waits for. -/
def Followed (s : LightSystem) (t : TableNo) : Prop :=
  (∃ state, s.Untouched t state) ∨ ∃ cmd, lastFor t s.published = some cmd ∧
    (s.Underway t cmd.lightState ∨ s.Arrived t cmd.lightState)

structure Inv (s : LightSystem) : Prop where
  numbered : ∀ t : TableNo, (s.tables.get t).tableID = t
  commandIDs : ∀ cmd ∈ s.sending ++ s.mqttCmdChan, Hardware.copyCommandID cmd.commandID ≠ ""
  snapshots : ∀ snapshot ∈ s.snapshots, ∀ t : TableNo, ∃ u, ((t : Int), u) ∈ syncTables snapshot
  syncs : ∀ commandID tables, .sync commandID tables ∈ s.down →
    ∀ t : TableNo, ∃ u, ((t : Int), u) ∈ tables
  followed : ∀ t, ¬ s.Waiting t → s.Followed t

variable {s s' : LightSystem} {t : TableNo} {state : LightState}

theorem confirmedLight_statusOf {msg : UpMessage} (h : Confirms t state msg) :
    confirmedLight t (statusOf state) msg = statusOf state := by
  cases msg with
  | ack commandID tableID lightState =>
    rw [confirmedLight]
    split
    · rename_i haddr
      rw [h haddr]
    · rfl
  | syncAck commandID => cases state <;> rfl
  | syncRequest => rfl

/-- Messages that confirm nothing but `state` leave a table in it, or bring it there. -/
theorem foldl_confirmedLight {l : List UpMessage} (hall : ∀ msg ∈ l, Confirms t state msg) :
    ∀ status, (status = statusOf state ∨
      ∃ commandID tableID, .ack commandID tableID state ∈ l ∧ Addresses tableID t) →
    l.foldl (confirmedLight t) status = statusOf state := by
  induction l with
  | nil =>
    intro status h
    rcases h with rfl | ⟨_, _, hmem, -⟩
    · rfl
    · exact absurd hmem List.not_mem_nil
  | cons msg l ih =>
    intro status h
    have htail := ih fun m hm => hall m (List.mem_cons_of_mem _ hm)
    rw [List.foldl_cons]
    rcases h with rfl | ⟨commandID, tableID, hmem, haddr⟩
    · rw [confirmedLight_statusOf (hall msg List.mem_cons_self)]
      exact htail _ (.inl rfl)
    · rcases List.mem_cons.1 hmem with rfl | hmem
      · exact htail _ (.inl (if_pos haddr))
      · exact htail _ (.inr ⟨commandID, tableID, hmem, haddr⟩)

/-- A quiet message leaves a table of the device alone, or sets its relay to the state. -/
theorem eventData_quiet (ts : Hardware.Tables) (millis : UInt32) {msg : DownMessage}
    (h : Quiet t state msg) :
    ((Hardware.eventData ts millis msg).1 t = ts t ∨
      (Hardware.eventData ts millis msg).1 t = { ts t with isOn := state.isOn }) ∧
    ∀ ack ∈ (Hardware.eventData ts millis msg).2, Confirms t state ack := by
  cases msg with
  | set commandID tableID lightState =>
    have hall : tableID ≠ 0 := fun h0 => h (.inr h0)
    have ht : (t : Int) ≠ tableID := fun heq => h (.inl heq.symm)
    rw [Hardware.eventData, if_neg hall]
    exact ⟨.inl (Hardware.queueState_other ts millis ht _ _), fun ack hack => by cases hack⟩
  | sync commandID tables =>
    refine ⟨Hardware.foldl_setImmediate tables ts h, ?_⟩
    intro ack hack
    rw [List.mem_singleton.1 hack]
    trivial

/-- A command for the table is queued, and acked at once if it is for all tables. -/
theorem eventData_command (ts : Hardware.Tables) (millis : UInt32) (commandID : String)
    (state : LightState) {tableID : Int} (haddr : Addresses tableID t) :
    let r := Hardware.eventData ts millis (.set commandID tableID state)
    (r.1 t).pending = true ∧ (r.1 t).targetIsOn = state.isOn ∧
      ((r.1 t).commandID = Hardware.copyCommandID commandID ∨ r.2 = [.ack commandID 0 state]) := by
  by_cases hall : tableID = 0
  · simp [Hardware.eventData, hall, Hardware.queueStateAll, t.2]
  · obtain rfl := haddr.resolve_right hall
    simp [Hardware.eventData, hall, Hardware.queueState_self ts millis t.2]

/-- `update` acks of a table only what it was told. -/
theorem update_confirms {ts : Hardware.Tables} {millis : UInt32}
    (h : (ts t).pending = true → (ts t).targetIsOn = state.isOn) :
    ∀ ack ∈ (Hardware.update ts millis).2, Confirms t state ack := by
  intro ack hack
  obtain ⟨u, hu, hdue, -, rfl⟩ := Hardware.mem_update_acks.1 hack
  intro haddr
  obtain rfl : u = t := haddr.resolve_right (by omega)
  rw [h (Hardware.pending_of_due hdue), LightState.ofBool_isOn]

/-! ## What each step keeps -/

/-- A step in which a table only sees messages `msgs` leave for the device. -/
structure Beside (t : TableNo) (msgs : List DownMessage) (s s' : LightSystem) : Prop where
  down : s'.down = s.down ++ msgs
  up : s'.up = s.up
  device : s'.device = s.device
  light : s'.light t = s.light t
  published : lastFor t s'.published = lastFor t s.published
  synced : s'.synced = s.synced

section

variable {msgs : List DownMessage}

theorem quiet_append {l msgs : List DownMessage} (hl : ∀ msg ∈ l, Quiet t state msg)
    (hmsgs : ∀ msg ∈ msgs, Quiet t state msg) : ∀ msg ∈ l ++ msgs, Quiet t state msg := by
  intro msg hmem
  rcases List.mem_append.1 hmem with hmem | hmem
  · exact hl msg hmem
  · exact hmsgs msg hmem

theorem Untouched.beside (h : s.Untouched t state) (hb : Beside t msgs s s')
    (hmsgs : ∀ msg ∈ msgs, Quiet t state msg)
    (hsnapshots : ∀ snapshot ∈ s'.snapshots, ∀ u, ((t : Int), u) ∈ syncTables snapshot →
      u = state) : s'.Untouched t state where
  down := by rw [hb.down]; exact quiet_append h.down hmsgs
  snapshots := hsnapshots
  up := by rw [hb.up]; exact h.up
  light := by rw [hb.light]; exact h.light
  idle := by rw [hb.device]; exact h.idle
  relay := by rw [hb.up, hb.device, hb.synced]; exact h.relay
  settled := by rw [hb.light, hb.synced]; exact h.settled

theorem Underway.beside (h : s.Underway t state) (hb : Beside t msgs s s')
    (hmsgs : ∀ msg ∈ msgs, Quiet t state msg) : s'.Underway t state := by
  obtain ⟨before, commandID, tableID, after, hdown, haddr, hid, hafter⟩ := h
  refine ⟨before, commandID, tableID, after ++ msgs, ?_, haddr, hid, quiet_append hafter hmsgs⟩
  rw [hb.down, hdown, List.append_assoc, List.cons_append]

theorem Arrived.beside (h : s.Arrived t state) (hb : Beside t msgs s s')
    (hmsgs : ∀ msg ∈ msgs, Quiet t state msg) : s'.Arrived t state where
  down := by rw [hb.down]; exact quiet_append h.down hmsgs
  target := by rw [hb.device]; exact h.target
  relay := by rw [hb.device]; exact h.relay
  light := by rw [eventually, hb.up, hb.device, hb.light]; exact h.light

theorem Followed.beside (msgs : List DownMessage) (h : s.Followed t) (hb : Beside t msgs s s')
    (huntouched : ∀ state, s.Untouched t state → (∀ msg ∈ msgs, Quiet t state msg) ∧
      ∀ snapshot ∈ s'.snapshots, ∀ u, ((t : Int), u) ∈ syncTables snapshot → u = state)
    (hcommanded : ∀ cmd, lastFor t s.published = some cmd →
      ∀ msg ∈ msgs, Quiet t cmd.lightState msg) : s'.Followed t := by
  rcases h with ⟨state, h⟩ | ⟨cmd, hlast, h⟩
  · obtain ⟨hmsgs, hsnapshots⟩ := huntouched state h
    exact .inl ⟨state, h.beside hb hmsgs hsnapshots⟩
  · have hmsgs := hcommanded cmd hlast
    exact .inr ⟨cmd, hb.published.trans hlast, h.imp (·.beside hb hmsgs) (·.beside hb hmsgs)⟩

end

/-- A step that sends messages to the backend. -/
structure Acking (t : TableNo) (acks : List UpMessage) (s s' : LightSystem) : Prop where
  up : s'.up = s.up ++ acks
  snapshots : s'.snapshots = s.snapshots
  light : s'.light t = s.light t
  published : s'.published = s.published
  synced : s'.synced = s.synced

section

variable {acks : List UpMessage}

theorem Acking.eventually (ha : Acking t acks s s') :
    s'.eventually t = acks.foldl (confirmedLight t) (s.eventually t) := by
  rw [LightSystem.eventually, ha.up, ha.light, List.foldl_append, LightSystem.eventually]

/-- The device has received a quiet message or none. -/
theorem Untouched.acking (h : s.Untouched t state) (ha : Acking t acks s s')
    (hdown : ∀ msg ∈ s'.down, msg ∈ s.down) (hacks : ∀ ack ∈ acks, Confirms t state ack)
    (hidle : (s'.device t).pending = false)
    (hrelay : (s.device t).isOn = state.isOn → (s'.device t).isOn = state.isOn)
    (hsync : (∃ ack ∈ acks, ack.isSyncAck) → (s'.device t).isOn = state.isOn) :
    s'.Untouched t state where
  down msg hmsg := h.down msg (hdown msg hmsg)
  snapshots := by rw [ha.snapshots]; exact h.snapshots
  up msg hmsg := by
    rw [ha.up] at hmsg
    rcases List.mem_append.1 hmsg with hmsg | hmsg
    · exact h.up msg hmsg
    · exact hacks msg hmsg
  light := by rw [ha.light]; exact h.light
  idle := hidle
  relay hsynced := by
    rw [ha.up, ha.synced] at hsynced
    rcases hsynced with ⟨msg, hmsg, hack⟩ | hsynced
    · rcases List.mem_append.1 hmsg with hmsg | hmsg
      · exact hrelay (h.relay (.inl ⟨msg, hmsg, hack⟩))
      · exact hsync ⟨msg, hmsg, hack⟩
    · exact hrelay (h.relay (.inr hsynced))
  settled := by rw [ha.light, ha.synced]; exact h.settled

/-- The device has received a quiet message or none, and a change that it has executed is acked. -/
theorem Arrived.acking (h : s.Arrived t state) (ha : Acking t acks s s')
    (hdown : ∀ msg ∈ s'.down, msg ∈ s.down) (hacks : ∀ ack ∈ acks, Confirms t state ack)
    (htarget : (s'.device t).pending = true → (s'.device t).targetIsOn = state.isOn)
    (hrelay : (s'.device t).pending = false → (s'.device t).isOn = state.isOn)
    (hlight : (s.device t).pending = true → (s.device t).commandID ≠ "" →
      ((s'.device t).pending = true ∧ (s'.device t).commandID ≠ "") ∨
      ∃ commandID tableID, .ack commandID tableID state ∈ acks ∧ Addresses tableID t) :
    s'.Arrived t state where
  down msg hmsg := h.down msg (hdown msg hmsg)
  target := htarget
  relay := hrelay
  light := by
    rw [ha.eventually]
    rcases h.light with ⟨hpending, hid⟩ | heventually
    · exact (hlight hpending hid).imp_right fun hack =>
        foldl_confirmedLight hacks _ (.inr hack)
    · exact .inr (foldl_confirmedLight hacks _ (.inl heventually))

/-- A new snapshot tells the state of an untouched table. -/
theorem Untouched.getAll (h : s.Untouched t state) (hs : s.Inv) :
    ∀ u, ((t : Int), u) ∈ syncTables s.tables.getAll → u = state := by
  intro u hu
  have htold := (mem_syncTables_getAll hs.numbered).1 hu
  rcases h.light with hlight | hlight
  · rwa [← LightSystem.light, hlight, toldState_pendingOf] at htold
  · rwa [← LightSystem.light, hlight, toldState_statusOf] at htold

theorem Followed.requestSync (h : s.Followed t) :
    Followed { s with up := s.up ++ [.syncRequest] } t := by
  have ha : Acking t [.syncRequest] s { s with up := s.up ++ [.syncRequest] } :=
    ⟨rfl, rfl, rfl, rfl, rfl⟩
  have hacks : ∀ state, ∀ ack ∈ [UpMessage.syncRequest], Confirms t state ack := by
    intro state ack hack
    rw [List.mem_singleton.1 hack]
    trivial
  rcases h with ⟨state, h⟩ | ⟨cmd, hlast, h | h⟩
  · refine .inl ⟨state, h.acking ha (fun _ hmsg => hmsg) (hacks state) h.idle (fun h => h) ?_⟩
    rintro ⟨ack, hack, hsync⟩
    rw [List.mem_singleton.1 hack] at hsync
    cases hsync
  · exact .inr ⟨cmd, hlast, .inl h⟩
  · exact .inr ⟨cmd, hlast, .inr (h.acking ha (fun _ hmsg => hmsg) (hacks _) h.target h.relay
      fun hpending hid => .inl ⟨hpending, hid⟩)⟩

end

theorem Followed.receive (hs : s.Inv) (h : s.Followed t) {millis : UInt32}
    (hstep : s.step (.receive millis) = some s') : s'.Followed t := by
  rcases hdown : s.down with _ | ⟨msg, rest⟩
  · simp only [step, hdown] at hstep
    cases hstep
  simp only [step, hdown, Option.some.injEq] at hstep
  have ha : Acking t (Hardware.eventData s.device millis msg).2 s s' := by
    subst hstep
    exact ⟨rfl, rfl, rfl, rfl, rfl⟩
  have hdevice : s'.device = (Hardware.eventData s.device millis msg).1 := by rw [← hstep]
  have hrest : s'.down = rest := by rw [← hstep]
  have hmem : ∀ m ∈ s'.down, m ∈ s.down := by
    intro m hm
    rw [hrest] at hm
    rw [hdown]
    exact List.mem_cons_of_mem _ hm
  have hhead : msg ∈ s.down := by
    rw [hdown]
    exact List.mem_cons_self
  rcases h with ⟨state, h⟩ | ⟨cmd, hlast, h | h⟩
  · obtain ⟨hrelay, hacks⟩ := eventData_quiet s.device millis (h.down msg hhead)
    rw [← hdevice] at hrelay
    refine .inl ⟨state, h.acking ha hmem hacks ?_ ?_ ?_⟩
    · rcases hrelay with hrelay | hrelay <;> rw [hrelay] <;> exact h.idle
    · intro hon
      rcases hrelay with hrelay | hrelay
      · rw [hrelay]
        exact hon
      · rw [hrelay]
    · rintro ⟨ack, hack, hsync⟩
      cases msg with
      | set commandID tableID lightState =>
        simp only [Hardware.eventData] at hack
        split at hack
        · rw [List.mem_singleton.1 hack] at hsync
          cases hsync
        · cases hack
      | sync commandID tables =>
        have hquiet := h.down _ hhead
        obtain ⟨u, hu⟩ := hs.syncs commandID tables hhead t
        rw [hquiet u hu] at hu
        rw [hdevice]
        exact Hardware.foldl_setImmediate_isOn t.2 tables s.device hquiet hu
  · obtain ⟨before, commandID, tableID, after, hsplit, haddr, hid, hafter⟩ := h
    rw [hdown] at hsplit
    refine .inr ⟨cmd, by rw [ha.published]; exact hlast, ?_⟩
    rcases before with _ | ⟨first, before⟩
    · rw [List.nil_append, List.cons.injEq] at hsplit
      obtain ⟨rfl, rfl⟩ := hsplit
      obtain ⟨hpending, htarget, hack⟩ :=
        eventData_command s.device millis commandID cmd.lightState haddr
      rw [← hdevice] at hpending htarget hack
      refine .inr ⟨by rw [hrest]; exact hafter, fun _ => htarget, ?_, ?_⟩
      · intro hidle
        rw [hpending] at hidle
        cases hidle
      · rcases hack with hcopied | hacked
        · exact .inl ⟨hpending, by rw [hcopied]; exact hid⟩
        · refine .inr ?_
          rw [ha.eventually, hacked]
          exact if_pos (.inr rfl)
    · rw [List.cons_append, List.cons.injEq] at hsplit
      exact .inl ⟨before, commandID, tableID, after, hrest.trans hsplit.2, haddr, hid, hafter⟩
  · obtain ⟨hrelay, hacks⟩ := eventData_quiet s.device millis (h.down msg hhead)
    rw [← hdevice] at hrelay
    refine .inr ⟨cmd, by rw [ha.published]; exact hlast, .inr (h.acking ha hmem hacks ?_ ?_ ?_)⟩
    · rcases hrelay with hrelay | hrelay <;> rw [hrelay] <;> exact h.target
    · rcases hrelay with hrelay | hrelay
      · rw [hrelay]
        exact h.relay
      · rw [hrelay]
        exact fun _ => rfl
    · intro hpending hid
      rcases hrelay with hrelay | hrelay <;> rw [hrelay] <;> exact .inl ⟨hpending, hid⟩

theorem Followed.update (h : s.Followed t) {millis : UInt32}
    (hstep : s.step (.update millis) = some s') : s'.Followed t := by
  simp only [step, Option.some.injEq] at hstep
  have ha : Acking t (Hardware.update s.device millis).2 s s' := by
    subst hstep
    exact ⟨rfl, rfl, rfl, rfl, rfl⟩
  have hdown : s'.down = s.down := by rw [← hstep]
  have hmem : ∀ msg ∈ s'.down, msg ∈ s.down := by rw [hdown]; exact fun _ h => h
  have hdevice : s'.device t = if (s.device t).due millis then
      { s.device t with isOn := (s.device t).targetIsOn, pending := false } else s.device t := by
    rw [← hstep]
    exact Hardware.update_apply s.device millis t.2
  rcases h with ⟨state, h⟩ | ⟨cmd, hlast, h | h⟩
  · have hpending : (s.device t).pending ≠ true := by
      rw [h.idle]
      exact Bool.false_ne_true
    rw [if_neg fun hdue => hpending (Hardware.pending_of_due hdue)] at hdevice
    refine .inl ⟨state, h.acking ha hmem
      (update_confirms fun htrue => absurd htrue hpending) ?_ ?_ ?_⟩
    · rw [hdevice]
      exact h.idle
    · rw [hdevice]
      exact fun hon => hon
    · rintro ⟨ack, hack, hsync⟩
      obtain ⟨u, -, -, -, rfl⟩ := Hardware.mem_update_acks.1 hack
      cases hsync
  · obtain ⟨before, commandID, tableID, after, hsplit, h⟩ := h
    refine .inr ⟨cmd, by rw [ha.published]; exact hlast, .inl ?_⟩
    exact ⟨before, commandID, tableID, after, hdown.trans hsplit, h⟩
  · refine .inr ⟨cmd, by rw [ha.published]; exact hlast, .inr ?_⟩
    by_cases hdue : (s.device t).due millis = true
    · have htarget := h.target (Hardware.pending_of_due hdue)
      rw [if_pos hdue] at hdevice
      refine h.acking ha hmem (update_confirms h.target) ?_ ?_ ?_
      · rw [hdevice]
        exact fun _ => htarget
      · rw [hdevice]
        exact fun _ => htarget
      · intro _ hid
        have hack : .ack (s.device t).commandID t cmd.lightState ∈
            (Hardware.update s.device millis).2 := by
          refine Hardware.mem_update_acks.2 ⟨t, t.2, hdue, hid, ?_⟩
          rw [htarget, LightState.ofBool_isOn]
        exact .inr ⟨_, t, hack, addresses_self t⟩
    · rw [if_neg hdue] at hdevice
      refine h.acking ha hmem (update_confirms h.target) ?_ ?_ ?_
      · rw [hdevice]
        exact h.target
      · rw [hdevice]
        exact h.relay
      · rw [hdevice]
        exact fun hpending hid => .inl ⟨hpending, hid⟩

/-- What an untouched light can become. -/
theorem confirmedLight_untouched {status : LightStatus} {msg : UpMessage}
    (h : Confirms t state msg) (hstatus : status = pendingOf state ∨ status = statusOf state) :
    (confirmedLight t status msg = pendingOf state ∨
      confirmedLight t status msg = statusOf state) ∧
    (msg.isSyncAck → confirmedLight t status msg = statusOf state) := by
  cases msg with
  | ack commandID tableID lightState =>
    refine ⟨?_, fun hsync => by cases hsync⟩
    rw [confirmedLight]
    split
    · rename_i haddr
      rw [h haddr]
      exact .inr rfl
    · exact hstatus
  | syncAck commandID =>
    have hsettled : Tables.settle status = statusOf state := by
      rcases hstatus with rfl | rfl <;> cases state <;> rfl
    exact ⟨.inr hsettled, fun _ => hsettled⟩
  | syncRequest => exact ⟨hstatus, fun hsync => by cases hsync⟩

theorem Followed.handle (hs : s.Inv) (h : s.Followed t) (hstep : s.step .handle = some s') :
    s'.Followed t := by
  rcases hup : s.up with _ | ⟨msg, rest⟩
  · simp only [step, hup] at hstep
    cases hstep
  simp only [step, hup, Option.some.injEq] at hstep
  have hlight : s'.light t = confirmedLight t (s.light t) msg := by
    rw [← hstep, LightSystem.light, get_confirmed, LightSystem.light]
  have hdown : s'.down = s.down := by rw [← hstep]
  have hdevice : s'.device = s.device := by rw [← hstep]
  have hrest : s'.up = rest := by rw [← hstep]
  have hpublished : s'.published = s.published := by rw [← hstep]
  have hsynced : s'.synced = (s.synced || msg.isSyncAck) := by rw [← hstep]
  have hhead : msg ∈ s.up := by
    rw [hup]
    exact List.mem_cons_self
  rcases h with ⟨state, h⟩ | ⟨cmd, hlast, h | h⟩
  · obtain ⟨hstatus, hsettled⟩ := confirmedLight_untouched (h.up msg hhead) h.light
    rw [← hlight] at hstatus hsettled
    refine .inl ⟨state, by rw [hdown]; exact h.down, ?_, ?_, hstatus, by rw [hdevice]; exact h.idle,
      ?_, ?_⟩
    · intro snapshot hsnapshot
      rw [← hstep] at hsnapshot
      rcases List.mem_append.1 hsnapshot with hsnapshot | hsnapshot
      · exact h.snapshots snapshot hsnapshot
      · rw [eq_getAll_of_requested hsnapshot]
        exact h.getAll hs
    · intro m hm
      refine h.up m ?_
      rw [hup]
      exact List.mem_cons_of_mem _ (hrest ▸ hm)
    · rw [hdevice, hrest, hsynced]
      rintro (⟨m, hm, hack⟩ | hor)
      · refine h.relay (.inl ⟨m, ?_, hack⟩)
        rw [hup]
        exact List.mem_cons_of_mem _ hm
      · rcases Bool.or_eq_true_iff.1 hor with hbefore | hnow
        · exact h.relay (.inr hbefore)
        · exact h.relay (.inl ⟨msg, hhead, hnow⟩)
    · rw [hsynced]
      intro hor
      rcases Bool.or_eq_true_iff.1 hor with hbefore | hnow
      · rw [hlight, h.settled hbefore]
        exact confirmedLight_statusOf (h.up msg hhead)
      · exact hsettled hnow
  · obtain ⟨before, commandID, tableID, after, hsplit, h⟩ := h
    refine .inr ⟨cmd, by rw [hpublished]; exact hlast, .inl ?_⟩
    exact ⟨before, commandID, tableID, after, hdown.trans hsplit, h⟩
  · refine .inr ⟨cmd, by rw [hpublished]; exact hlast, .inr ⟨?_, ?_, ?_, ?_⟩⟩
    · rw [hdown]
      exact h.down
    · rw [hdevice]
      exact h.target
    · rw [hdevice]
      exact h.relay
    · have heventually : s'.eventually t = s.eventually t := by
        rw [LightSystem.eventually, LightSystem.eventually, hrest, hup, hlight, List.foldl_cons]
      rw [hdevice, heventually]
      exact h.light

/-! ## The invariant -/

theorem copyCommandID_command (call : LightCall) (now : Int) :
    Hardware.copyCommandID (call.command now).commandID ≠ "" := by
  simp only [LightCall.command, String.append_assoc]
  exact Hardware.copyCommandID_ne

/-- Nothing is under way yet, and every light is as a boot leaves it. -/
theorem inv_fresh {ts : Tables} (hnumbered : ∀ t : TableNo, (ts.get t).tableID = t)
    (hlight : ∀ t : TableNo, ∃ state, (ts.get t).lightStatus = pendingOf state ∨
      (ts.get t).lightStatus = statusOf state) :
    Inv ⟨ts, [], [], [], [], [], Hardware.begin, [], false⟩ where
  numbered := hnumbered
  commandIDs _ h := absurd h List.not_mem_nil
  snapshots _ h := absurd h List.not_mem_nil
  syncs _ _ h := absurd h List.not_mem_nil
  followed t _ := by
    obtain ⟨state, hstate⟩ := hlight t
    refine .inl ⟨state, fun _ h => absurd h List.not_mem_nil, fun _ h => absurd h List.not_mem_nil,
      fun _ h => absurd h List.not_mem_nil, hstate, rfl, ?_, fun h => by cases h⟩
    rintro (⟨_, h, -⟩ | h)
    · exact absurd h List.not_mem_nil
    · cases h

theorem inv_start (bookings : Int → Option CurrentBooking) : (start bookings).Inv := by
  refine inv_fresh (fun t => Tables.tableID_hydrated bookings t.2) fun t => ?_
  rcases Tables.light_hydrated bookings t.2 with hlight | hlight
  · exact ⟨.on, .inr hlight⟩
  · exact ⟨.off, .inl hlight⟩

theorem Inv.write (h : s.Inv) {call : LightCall} {now : Int}
    (hstep : s.step (.write call now) = some s') : s'.Inv := by
  cases hstep
  refine ⟨fun t => (Tables.tableID_apply _ _ _).trans (h.numbered t), ?_, h.snapshots, h.syncs, ?_⟩
  · intro cmd hcmd
    simp only [List.mem_append, List.mem_singleton] at hcmd
    rcases hcmd with (hcmd | rfl) | hcmd
    · exact h.commandIDs cmd (List.mem_append_left _ hcmd)
    · exact copyCommandID_command call now
    · exact h.commandIDs cmd (List.mem_append_right _ hcmd)
  · intro t hwaiting
    have haddr : ¬ Addresses call.tableID t := fun haddr =>
      hwaiting ⟨call.command now, by simp, haddr⟩
    have hbefore : ¬ s.Waiting t := by
      rintro ⟨cmd, hcmd, hcmd'⟩
      refine hwaiting ⟨cmd, ?_, hcmd'⟩
      simp only [List.mem_append] at hcmd ⊢
      exact hcmd.imp_left .inl
    have hlight : ((call.cacheWrite.apply s.tables).1.get t).lightStatus = s.light t := by
      rw [light_after_write, if_neg haddr, light]
    refine (h.followed t hbefore).beside []
      ⟨(List.append_nil _).symm, rfl, rfl, hlight, rfl, rfl⟩ ?_ ?_
    · exact fun state hu => ⟨fun _ hmem => absurd hmem List.not_mem_nil, hu.snapshots⟩
    · exact fun _ _ _ hmem => absurd hmem List.not_mem_nil

theorem Inv.send (h : s.Inv) {n : Nat} (hstep : s.step (.send n) = some s') : s'.Inv := by
  obtain ⟨cmd, hcmd, rfl⟩ := Option.map_eq_some_iff.1 hstep
  obtain ⟨hn, rfl⟩ := List.getElem?_eq_some_iff.1 hcmd
  have hmem : ∀ cmd, cmd ∈ s.sending.eraseIdx n ++ (s.mqttCmdChan ++ [s.sending[n]]) ↔
      cmd ∈ s.sending ++ s.mqttCmdChan := by
    intro cmd
    have hperm := (List.getElem_cons_eraseIdx_perm hn).mem_iff (a := cmd)
    simp only [List.mem_append, List.mem_cons, List.not_mem_nil, or_false] at hperm ⊢
    rw [← hperm]
    tauto
  refine ⟨h.numbered, fun cmd hc => h.commandIDs cmd ((hmem cmd).1 hc), h.snapshots, h.syncs, ?_⟩
  intro t hwaiting
  have hbefore : ¬ s.Waiting t := fun ⟨cmd, hc, haddr⟩ => hwaiting ⟨cmd, (hmem cmd).2 hc, haddr⟩
  refine (h.followed t hbefore).beside []
    ⟨(List.append_nil _).symm, rfl, rfl, rfl, rfl, rfl⟩ ?_ ?_
  · exact fun state hu => ⟨fun _ hmem => absurd hmem List.not_mem_nil, hu.snapshots⟩
  · exact fun _ _ _ hmem => absurd hmem List.not_mem_nil

theorem Inv.publishCommand (h : s.Inv) (hstep : s.step .publishCommand = some s') : s'.Inv := by
  rcases hchan : s.mqttCmdChan with _ | ⟨cmd, rest⟩
  · simp only [step, hchan] at hstep
    cases hstep
  simp only [step, hchan, Option.some.injEq] at hstep
  have hdown : s'.down = s.down ++ [.set cmd.commandID cmd.tableID cmd.lightState] := by
    rw [← hstep]
    rfl
  have hpublished : s'.published = s.published ++ [cmd] := by rw [← hstep]
  have hsub : ∀ c ∈ s'.sending ++ s'.mqttCmdChan, c ∈ s.sending ++ s.mqttCmdChan := by
    intro c hc
    rw [← hstep] at hc
    rw [hchan]
    simp only [List.mem_append, List.mem_cons] at hc ⊢
    exact hc.imp_right .inr
  have hhead : cmd ∈ s.sending ++ s.mqttCmdChan := by
    rw [hchan]
    exact List.mem_append_right _ List.mem_cons_self
  refine ⟨by rw [← hstep]; exact h.numbered, fun c hc => h.commandIDs c (hsub c hc),
    by rw [← hstep]; exact h.snapshots, ?_, ?_⟩
  · intro commandID tables hmem
    rw [hdown] at hmem
    rcases List.mem_append.1 hmem with hmem | hmem
    · exact h.syncs commandID tables hmem
    · cases List.mem_singleton.1 hmem
  · intro t hwaiting
    by_cases haddr : Addresses cmd.tableID t
    · refine .inr ⟨cmd, ?_, .inl ⟨s.down, _, _, [], hdown, haddr, h.commandIDs cmd hhead,
        fun _ hmem => absurd hmem List.not_mem_nil⟩⟩
      rw [hpublished, lastFor_append, if_pos haddr]
    · have hbefore : ¬ s.Waiting t := by
        rintro ⟨c, hc, hc'⟩
        refine hwaiting ⟨c, ?_, hc'⟩
        rw [hchan] at hc
        rw [← hstep]
        simp only [List.mem_append, List.mem_cons] at hc ⊢
        refine hc.imp_right fun hc => hc.resolve_left ?_
        rintro rfl
        exact haddr hc'
      have hquiet : ∀ state, ∀ msg ∈ [DownMessage.set cmd.commandID cmd.tableID cmd.lightState],
          Quiet t state msg := by
        intro state msg hmsg
        rw [List.mem_singleton.1 hmsg]
        exact haddr
      refine (h.followed t hbefore).beside
        [.set cmd.commandID cmd.tableID cmd.lightState] ⟨hdown, ?_, ?_, ?_, ?_, ?_⟩ ?_ ?_
      · rw [← hstep]
      · rw [← hstep]
      · rw [← hstep, light, light]
      · rw [hpublished, lastFor_append, if_neg haddr]
      · rw [← hstep]
      · exact fun state hu => ⟨hquiet state, by rw [← hstep]; exact hu.snapshots⟩
      · exact fun c _ => hquiet c.lightState

theorem exists_mem_getAll (h : s.Inv) (t : TableNo) :
    ∃ u, ((t : Int), u) ∈ syncTables s.tables.getAll :=
  ⟨_, (mem_syncTables_getAll h.numbered).2 rfl⟩

theorem Inv.snapshot (h : s.Inv) (hstep : s.step .snapshot = some s') : s'.Inv := by
  cases hstep
  refine ⟨h.numbered, h.commandIDs, ?_, h.syncs, ?_⟩
  · intro snapshot hmem t
    rcases List.mem_append.1 hmem with hmem | hmem
    · exact h.snapshots snapshot hmem t
    · rw [List.mem_singleton.1 hmem]
      exact exists_mem_getAll h t
  · intro t hwaiting
    refine (h.followed t hwaiting).beside []
      ⟨(List.append_nil _).symm, rfl, rfl, rfl, rfl, rfl⟩ ?_ ?_
    · refine fun state hu => ⟨fun _ hmem => absurd hmem List.not_mem_nil, ?_⟩
      intro snapshot hmem
      rcases List.mem_append.1 hmem with hmem | hmem
      · exact hu.snapshots snapshot hmem
      · rw [List.mem_singleton.1 hmem]
        exact hu.getAll h
    · exact fun _ _ _ hmem => absurd hmem List.not_mem_nil

theorem Inv.publishSync (h : s.Inv) {k : Nat} {now : Int} (hok : s.InTurn (.publishSync k now))
    (hstep : s.step (.publishSync k now) = some s') : s'.Inv := by
  obtain ⟨snapshot, hsnapshot, rfl⟩ := Option.map_eq_some_iff.1 hstep
  have hmem : snapshot ∈ s.snapshots := List.mem_of_getElem? hsnapshot
  refine ⟨h.numbered, h.commandIDs, fun _ hm => h.snapshots _ (List.mem_of_mem_eraseIdx hm), ?_, ?_⟩
  · intro commandID tables hm
    rcases List.mem_append.1 hm with hm | hm
    · exact h.syncs commandID tables hm
    · cases List.mem_singleton.1 hm
      exact h.snapshots snapshot hmem
  · intro t hwaiting
    refine (h.followed t hwaiting).beside [publishFullStateSync now snapshot]
      ⟨rfl, rfl, rfl, rfl, rfl, rfl⟩ ?_ ?_
    · intro state hu
      refine ⟨?_, fun _ hm => hu.snapshots _ (List.mem_of_mem_eraseIdx hm)⟩
      intro msg hmsg
      rw [List.mem_singleton.1 hmsg]
      exact hu.snapshots snapshot hmem
    · intro cmd hlast msg hmsg
      rw [List.mem_singleton.1 hmsg]
      exact hok snapshot hsnapshot t hwaiting cmd hlast

theorem Inv.receive (h : s.Inv) {millis : UInt32} (hstep : s.step (.receive millis) = some s') :
    s'.Inv := by
  have hfollowed : ∀ t, s.Followed t → s'.Followed t := fun t hf => hf.receive h hstep
  rcases hdown : s.down with _ | ⟨msg, rest⟩
  · simp only [step, hdown] at hstep
    cases hstep
  simp only [step, hdown, Option.some.injEq] at hstep
  subst hstep
  refine ⟨h.numbered, h.commandIDs, h.snapshots, ?_, fun t hw => hfollowed t (h.followed t hw)⟩
  intro commandID tables hmem
  refine h.syncs commandID tables ?_
  rw [hdown]
  exact List.mem_cons_of_mem _ hmem

theorem Inv.handle (h : s.Inv) (hstep : s.step .handle = some s') : s'.Inv := by
  have hfollowed : ∀ t, s.Followed t → s'.Followed t := fun t hf => hf.handle h hstep
  rcases hup : s.up with _ | ⟨msg, rest⟩
  · simp only [step, hup] at hstep
    cases hstep
  simp only [step, hup, Option.some.injEq] at hstep
  subst hstep
  refine ⟨?_, h.commandIDs, ?_, h.syncs, fun t hw => hfollowed t (h.followed t hw)⟩
  · intro t
    rw [get_confirmed]
    exact h.numbered t
  · intro snapshot hmem t
    rcases List.mem_append.1 hmem with hmem | hmem
    · exact h.snapshots snapshot hmem t
    · rw [eq_getAll_of_requested hmem]
      exact exists_mem_getAll h t

theorem Inv.step (h : s.Inv) {a : Action} (hok : s.InTurn a) (hstep : s.step a = some s') :
    s'.Inv := by
  cases a with
  | write call now => exact h.write hstep
  | send n => exact h.send hstep
  | publishCommand => exact h.publishCommand hstep
  | snapshot => exact h.snapshot hstep
  | publishSync k now => exact h.publishSync hok hstep
  | requestSync =>
    cases hstep
    exact ⟨h.numbered, h.commandIDs, h.snapshots, h.syncs,
      fun t hwaiting => (h.followed t hwaiting).requestSync⟩
  | receive millis => exact h.receive hstep
  | update millis =>
    have hfollowed : ∀ t, s.Followed t → s'.Followed t := fun t hf => hf.update hstep
    cases hstep
    exact ⟨h.numbered, h.commandIDs, h.snapshots, h.syncs,
      fun t hwaiting => hfollowed t (h.followed t hwaiting)⟩
  | handle => exact h.handle hstep

theorem inv_of_reaches {bookings : Int → Option CurrentBooking}
    (h : GuardedReaches LightSystem.step InTurn (start bookings) s) : s.Inv :=
  h.invariant (inv_start bookings) fun _ _ _ hs hok hstep => hs.step hok hstep

/-- A table that follows its last command, or its hydration, agrees with its relay at rest. -/
theorem Followed.agree (h : s.Followed t) (hsynced : s.synced = true) (hrest : s.AtRest) :
    s.light t = statusOf (LightState.ofBool (s.device t).isOn) := by
  rcases h with ⟨state, h⟩ | ⟨cmd, -, ⟨before, _, _, after, hdown, -⟩ | h⟩
  · rw [h.settled hsynced, h.relay (.inr hsynced), LightState.ofBool_isOn]
  · rw [hrest.down] at hdown
    exact absurd hdown.symm (by simp)
  · rw [h.relay (hrest.device t), LightState.ofBool_isOn]
    rcases h.light with ⟨hpending, -⟩ | hlight
    · rw [hrest.device t] at hpending
      cases hpending
    · rwa [eventually, hrest.up] at hlight

end LightSystem

/-- If no sync says of a table without a waiting command something else than its last published
command asked, then, at rest and after a first sync, the cache shows each light ON or OFF as its
relay is. -/
theorem lights_agree_at_rest {bookings : Int → Option CurrentBooking} {s : LightSystem}
    (h : GuardedReaches LightSystem.step LightSystem.InTurn (.start bookings) s)
    (hsynced : s.synced = true) (hrest : s.AtRest) (t : TableNo) :
    s.light t = statusOf (LightState.ofBool (s.device t).isOn) := by
  refine ((LightSystem.inv_of_reaches h).followed t ?_).agree hsynced hrest
  rintro ⟨cmd, hcmd, -⟩
  rw [hrest.sending, hrest.mqttCmdChan] at hcmd
  exact absurd hcmd List.not_mem_nil

/-- The steps of a run that publishes its syncs before any command. -/
def syncsFirst (s : LightSystem) : LightSystem.Action → Bool
  | .publishSync .. => s.published.isEmpty
  | _ => true

theorem inTurn_of_syncsFirst {s : LightSystem} {a : LightSystem.Action} (h : syncsFirst s a) :
    s.InTurn a := by
  cases a with
  | publishSync k now =>
    intro snapshot _ t _ cmd hlast
    rw [List.isEmpty_iff.1 h] at hlast
    cases hlast
  | _ => trivial

/-- The steps from a call that switches the light of table 1 on to the handling of its ack. -/
def switchOn : List LightSystem.Action :=
  [.write (.setLight (some tableOne) .on) 0, .send 0, .publishCommand, .receive 0, .update 500,
    .handle]

/-- The first sync is published, and the light of table 1 is switched on. -/
theorem lights_agree_at_rest_on : ∃ s : LightSystem, s.AtRest ∧ (s.device tableOne).isOn = true ∧
    s.light tableOne = statusOf (LightState.ofBool (s.device tableOne).isOn) := by
  have hrun : (runIf LightSystem.step (fun s a => syncsFirst s a = true)
      ([.snapshot, .publishSync 0 0, .receive 0, .handle] ++ switchOn)
      (.start fun _ => none)).map
      (fun s => (s.synced, decide s.AtRest, (s.device tableOne).isOn)) =
      some (true, true, true) := by
    decide +kernel
  obtain ⟨s, hs, hend⟩ := Option.map_eq_some_iff.1 hrun
  simp only [Prod.mk.injEq, decide_eq_true_eq] at hend
  obtain ⟨hsynced, hrest, hon⟩ := hend
  have hreach : GuardedReaches LightSystem.step LightSystem.InTurn (.start fun _ => none) s :=
    (reaches_of_runIf hs).mono fun _ _ => inTurn_of_syncsFirst
  exact ⟨s, hrest, hon, lights_agree_at_rest hreach hsynced hrest tableOne⟩

/-- Without that condition it fails: a sync whose snapshot was taken before the light of table 1 was
switched on is published after it, and the relay goes off while the cache says ON. -/
theorem lights_can_disagree_at_rest :
    ¬ ∀ (bookings : Int → Option CurrentBooking) (s : LightSystem),
      GuardedReaches LightSystem.step (fun _ _ => True) (.start bookings) s → s.synced = true →
      s.AtRest → ∀ t, s.light t = statusOf (LightState.ofBool (s.device t).isOn) := by
  intro hclaim
  have hrun : (runIf LightSystem.step (fun _ _ => True)
      ([.snapshot] ++ switchOn ++ [.publishSync 0 0, .receive 600, .handle])
      (.start fun _ => none)).map
      (fun s => (s.synced, decide s.AtRest, s.light tableOne, (s.device tableOne).isOn)) =
      some (true, true, .on, false) := by
    decide +kernel
  obtain ⟨s, hs, hend⟩ := Option.map_eq_some_iff.1 hrun
  simp only [Prod.mk.injEq, decide_eq_true_eq] at hend
  obtain ⟨hsynced, hrest, hlight, hoff⟩ := hend
  have hagree := hclaim _ s (reaches_of_runIf hs) hsynced hrest tableOne
  rw [hlight, hoff] at hagree
  cases hagree

end GbcVenue
