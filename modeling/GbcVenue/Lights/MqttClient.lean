import GbcVenue.Concurrency.LightCommands
import GbcVenue.Lights.Device
import GbcVenue.Service.Effect

/-!
# The MQTT client

`backend/internal/hardware/mqtt_client.go`: what is published for a command and for a full state
sync, and what the client does with the messages of the device. `handleMessage` reads no command id.
-/

namespace GbcVenue

open Interleaving

namespace LightCall

/-- The command of a call that reads the clock at `now`. -/
def command (call : LightCall) (now : Int) : MqttCommand :=
  ⟨"cmd_" ++ toString (GoTime.unixMilli now) ++ "_" ++ toString call.tableID, call.tableID,
    call.wants⟩

theorem program_eq_command (call : LightCall) :
    call.program = (TableCache.write call.cacheWrite >>= fun _ => timeNow >>= fun now =>
      Prog.call (Op.sendMqtt (call.command now))) :=
  call.program_eq

/-- What a call does to the venue. -/
theorem runs_program {E : Env → Prop} {i : Nat} {m m' : Timed Venue Int} {a : Unit}
    {call : LightCall} (h : Prog.Runs (onVenue E) i call.program m a m') :
    m'.state = m.state.write call.cacheWrite := by
  rw [program_eq] at h
  obtain ⟨_, m₁, hwrite, hsend⟩ := Prog.runs_bind.1 h
  rw [runs_aside (TableService.sendMqttCommand_aside _ _) hsend]
  exact runs_cacheWrite hwrite

end LightCall

/-- The confirmed status of a light. -/
def statusOf : LightState → LightStatus
  | .on => .on
  | .off => .off

/-- The state that a full sync tells the device for a light. -/
def toldState (status : LightStatus) : LightState :=
  if status = .on ∨ status = .pendingOn then .on else .off

theorem toldState_pendingOf (state : LightState) : toldState (pendingOf state) = state := by
  cases state <;> rfl

theorem toldState_statusOf (state : LightState) : toldState (statusOf state) = state := by
  cases state <;> rfl

namespace MqttClient

/-- Go `publishRelayCommand` (`mqtt_client.go:240-260`): without a connection the command is
dropped. -/
def publishRelayCommand (isConnected : Bool) (cmd : MqttCommand) : Option DownMessage :=
  if isConnected then some (.set cmd.commandID cmd.tableID cmd.lightState) else none

/-- The `tables` of a full state sync. -/
def syncTables (snapshot : List TableState) : List (Int × LightState) :=
  snapshot.map fun t => (t.tableID, toldState t.lightStatus)

/-- What `publishFullStateSync` (`mqtt_client.go:262-282`) publishes at `now` for a snapshot. -/
def publishFullStateSync (now : Int) (snapshot : List TableState) : DownMessage :=
  .sync ("sync_" ++ toString (GoTime.unixMilli now)) (syncTables snapshot)

/-- Go `handleMessage` (`mqtt_client.go:181-238`) for the messages of a device that is about lights;
for a sync request it answers the snapshot that is published next. -/
def handleMessage : UpMessage → Go (Option (List TableState))
  | .ack _ tableID lightState => do
      TableService.confirmLightStatus tableID (if lightState = .on then .on else .off)
      return none
  | .syncAck _ => do
      TableService.confirmFullSync
      return none
  | .syncRequest => do
      let snapshot ← TableService.getCacheSnapshot
      return some snapshot

/-- The cache after a message. -/
def confirmed (ts : Tables) : UpMessage → Tables
  | .ack _ tableID lightState =>
      if tableID = 0 then (ts.confirmAllLightStatuses (statusOf lightState)).1
      else (ts.confirmLightStatus tableID (statusOf lightState)).1
  | .syncAck _ => ts.confirmFullSync
  | .syncRequest => ts

/-- The snapshot that a message asks for. -/
def requested (ts : Tables) : UpMessage → Option (List TableState)
  | .syncRequest => some ts.getAll
  | _ => none

/-- A snapshot tells the state of each table. -/
theorem mem_syncTables_getAll {ts : Tables} (h : ∀ t : TableNo, (ts.get t).tableID = t)
    {t : TableNo} {state : LightState} :
    ((t : Int), state) ∈ syncTables ts.getAll ↔ state = toldState (ts.get t).lightStatus := by
  have h1 : (ts.get 1).tableID = 1 := h ⟨1, by decide⟩
  have h2 : (ts.get 2).tableID = 2 := h ⟨2, by decide⟩
  have h3 : (ts.get 3).tableID = 3 := h ⟨3, by decide⟩
  have h4 : (ts.get 4).tableID = 4 := h ⟨4, by decide⟩
  obtain ⟨t, ht⟩ := t
  obtain rfl | rfl | rfl | rfl : t = 1 ∨ t = 2 ∨ t = 3 ∨ t = 4 := by omega
  all_goals simp [syncTables, Tables.getAll, h1, h2, h3, h4]

theorem eq_getAll_of_requested {ts : Tables} {msg : UpMessage} {snapshot : List TableState}
    (h : snapshot ∈ (requested ts msg).toList) : snapshot = ts.getAll := by
  cases msg with
  | syncRequest => exact List.mem_singleton.1 h
  | _ => cases h

section

variable {E : Env → Prop} {i : Nat} {msg : UpMessage} {a : Option (List TableState)}

/-- An ack is one write of the cache. -/
theorem confirmLightStatus_eq (tableID : Int) (lightState : LightState) :
    TableService.confirmLightStatus tableID (if lightState = .on then .on else .off) =
      TableCache.write (if tableID = 0 then .confirmAllLightStatuses (statusOf lightState)
        else .confirmLightStatus tableID (statusOf lightState)) := by
  have hstatus : (if lightState = .on then LightStatus.on else .off) = statusOf lightState := by
    cases lightState <;> rfl
  rw [TableService.confirmLightStatus, hstatus]
  split <;> rfl

theorem confirmed_ack (ts : Tables) (commandID : String) (tableID : Int) (lightState : LightState) :
    confirmed ts (.ack commandID tableID lightState) =
      (CacheWrite.apply ts (if tableID = 0 then .confirmAllLightStatuses (statusOf lightState)
        else .confirmLightStatus tableID (statusOf lightState))).1 := by
  rw [confirmed]
  split <;> rfl

/-- What the handling of a message does to the venue. -/
theorem runs_handleMessage {m m' : Timed Venue Int}
    (h : Prog.Runs (onVenue E) i (handleMessage msg) m a m') :
    m'.state = { m.state with tables := confirmed m.state.tables msg } := by
  cases msg with
  | ack commandID tableID lightState =>
    obtain ⟨_, m₁, hconfirm, hret⟩ := Prog.runs_bind.1 h
    obtain ⟨rfl, rfl⟩ := Prog.runs_ret.1 hret
    rw [confirmLightStatus_eq] at hconfirm
    rw [confirmed_ack]
    exact runs_cacheWrite hconfirm
  | syncAck commandID =>
    obtain ⟨_, m₁, hconfirm, hret⟩ := Prog.runs_bind.1 h
    obtain ⟨rfl, rfl⟩ := Prog.runs_ret.1 hret
    exact runs_cacheWrite hconfirm
  | syncRequest =>
    obtain ⟨e, r, -, -, -, hret⟩ := venue_aside rfl h
    obtain ⟨rfl, rfl⟩ := Prog.runs_ret.1 hret
    rfl

/-- What the handling of a message answers. -/
theorem handleMessage_requested {m m' : Timed World Int}
    (h : Prog.Runs (backend E) i (handleMessage msg) m a m') :
    a = requested m.state.tables msg := by
  cases msg with
  | ack commandID tableID lightState =>
    obtain ⟨_, _, _, hret⟩ := Prog.runs_bind.1 h
    exact (Prog.runs_ret.1 hret).1
  | syncAck commandID =>
    obtain ⟨_, _, _, hret⟩ := Prog.runs_bind.1 h
    exact (Prog.runs_ret.1 hret).1
  | syncRequest =>
    obtain ⟨r, _, ⟨-, e, -, hperf⟩, hret⟩ := Prog.runs_act.1 h
    obtain rfl : m.state.tables.getAll = r := congrArg Prod.fst (Option.some.inj hperf)
    exact (Prog.runs_ret.1 hret).1

end

/-! ## The lights of the cache -/

/-- What a message makes of the light of a table. -/
def confirmedLight (t : TableNo) (status : LightStatus) : UpMessage → LightStatus
  | .ack _ tableID lightState => if Addresses tableID t then statusOf lightState else status
  | .syncAck _ => Tables.settle status
  | .syncRequest => status

/-- A message changes nothing of a table but its light. -/
theorem get_confirmed (ts : Tables) (t : TableNo) (msg : UpMessage) :
    (confirmed ts msg).get t =
      { ts.get t with lightStatus := confirmedLight t (ts.get t).lightStatus msg } := by
  cases msg with
  | ack commandID tableID lightState =>
    rw [confirmed, confirmedLight]
    by_cases hall : tableID = 0
    · rw [if_pos hall, if_pos (.inr hall), Tables.get_confirmAllLightStatuses ts t.2]
    · rw [if_neg hall, Tables.get_confirmLightStatus]
      by_cases ht : (t : Int) = tableID
      · rw [if_pos ht, if_pos (.inl ht.symm)]
      · have hnot : ¬ Addresses tableID t := not_or.2 ⟨Ne.symm ht, hall⟩
        rw [if_neg ht, if_neg hnot]
  | syncAck commandID => exact Tables.get_confirmFullSync ts t
  | syncRequest => rfl

end MqttClient

end GbcVenue
