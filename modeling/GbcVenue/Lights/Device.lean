import GbcVenue.Domain.Types
import GbcVenue.Time.Counter
import Mathlib.Logic.Function.Basic

/-!
# The relay controller

`hardware/main/main.ino`: four relays, whose commands are debounced, and the handler of the messages
that arrive for them. A device message is typed here; in the source it is JSON on a topic, and table 0
stands for the target `"ALL"`. The handler and the loop do not interrupt each other.
-/

namespace GbcVenue

/-- Whether `"ON"` is asked for. -/
def LightState.isOn : LightState → Bool
  | .on => true
  | .off => false

/-- `isTurnedOn ? "ON" : "OFF"`. -/
def LightState.ofBool (isTurnedOn : Bool) : LightState := if isTurnedOn then .on else .off

@[simp] theorem LightState.ofBool_isOn (s : LightState) : ofBool s.isOn = s := by cases s <;> rfl

/-- A message to the device: a relay command (`gbc/hardware/table/+/set`) or a full state sync
(`gbc/hardware/sync/response`). -/
inductive DownMessage
  | set (commandID : String) (tableID : Int) (lightState : LightState)
  | sync (commandID : String) (tables : List (Int × LightState))
  deriving DecidableEq

/-- A message of the device: an ack of a command (`gbc/hardware/table/+/ack`), an ack of a sync
(`gbc/hardware/sync/ack`) or a request for one (`gbc/hardware/sync/request`). -/
inductive UpMessage
  | ack (commandID : String) (tableID : Int) (lightState : LightState)
  | syncAck (commandID : String)
  | syncRequest
  deriving DecidableEq

def UpMessage.isSyncAck : UpMessage → Bool
  | .syncAck _ => true
  | _ => false

namespace Hardware

/-- `Hardware::TableState`. The relay is on while its pin is LOW. -/
structure TableState where
  isOn : Bool
  pending : Bool
  targetIsOn : Bool
  commandID : String
  timestamp : UInt32
  deriving DecidableEq

/-- `tables`, by table number. -/
abbrev Tables := Int → TableState

/-- `Hardware::begin` (`main.ino:100-118`): every pin HIGH, nothing pending. -/
def begin : Tables := fun _ => ⟨false, false, false, "", 0⟩

/-- `setImmediate` (`main.ino:120-124`). -/
def setImmediate (ts : Tables) (id : Int) (isOn : Bool) : Tables :=
  if 1 ≤ id ∧ id ≤ 4 then Function.update ts id { ts id with isOn := isOn } else ts

/-- The copy into `char commandId[40]`, which leaves room for the terminator. -/
def copyCommandID (cmdID : String) : String := String.ofList (cmdID.toList.take 39)

/-- `queueState` (`main.ino:126-134`). -/
def queueState (ts : Tables) (millis : UInt32) (id : Int) (isOn : Bool) (cmdID : String) : Tables :=
  if 1 ≤ id ∧ id ≤ 4 then
    Function.update ts id { ts id with
      pending := true
      targetIsOn := isOn
      commandID := copyCommandID cmdID
      timestamp := millis }
  else ts

/-- `queueStateAll` (`main.ino:136-144`). -/
def queueStateAll (ts : Tables) (millis : UInt32) (isOn : Bool) : Tables := fun id =>
  if 1 ≤ id ∧ id ≤ 4 then
    { ts id with pending := true, targetIsOn := isOn, commandID := "", timestamp := millis }
  else ts id

/-- A pending change whose debounce delay is over; the clock of the device wraps around. -/
def TableState.due (t : TableState) (millis : UInt32) : Bool :=
  t.pending ∧ 500 ≤ millis - t.timestamp

/-- The ack of a table in `update`, if the change came with a command id. -/
def TableState.executedAck (t : TableState) (millis : UInt32) (id : Int) : Option UpMessage :=
  if t.due millis ∧ t.commandID ≠ "" then
    some (.ack t.commandID id (LightState.ofBool t.targetIsOn))
  else none

/-- The relays in `update` (`main.ino:157-175`): each due change is executed, and acked if it came
with a command id. -/
def update (ts : Tables) (millis : UInt32) : Tables × List UpMessage :=
  (fun id => if 1 ≤ id ∧ id ≤ 4 ∧ (ts id).due millis then
      { ts id with isOn := (ts id).targetIsOn, pending := false }
    else ts id,
    [1, 2, 3, 4].filterMap fun id => (ts id).executedAck millis id)

/-- The data case of `mqtt_event_handler` (`main.ino:338-385`): a sync is applied at once, an ALL
command is acked before it is queued, and a table command is queued. -/
def eventData (ts : Tables) (millis : UInt32) : DownMessage → Tables × List UpMessage
  | .sync cmdID tables =>
      (tables.foldl (fun ts table => setImmediate ts table.1 table.2.isOn) ts, [.syncAck cmdID])
  | .set cmdID tableID lightState =>
      if tableID = 0 then (queueStateAll ts millis lightState.isOn, [.ack cmdID 0 lightState])
      else (queueState ts millis tableID lightState.isOn cmdID, [])

/-! ## One table at a time -/

/-- A relay may be set, and nothing else. -/
theorem setImmediate_apply (ts : Tables) (id : Int) (isOn : Bool) (t : Int) :
    ∃ b, setImmediate ts id isOn t = { ts t with isOn := b } := by
  unfold setImmediate
  split
  · by_cases ht : t = id
    · subst ht
      exact ⟨isOn, Function.update_self _ _ _⟩
    · exact ⟨(ts t).isOn, Function.update_of_ne ht _ _⟩
  · exact ⟨(ts t).isOn, rfl⟩

/-- A sync that says nothing but `state` of a table sets its relay to that, if it says anything. -/
theorem foldl_setImmediate {t : Int} {state : LightState} :
    ∀ (tables : List (Int × LightState)) (ts : Tables), (∀ s, (t, s) ∈ tables → s = state) →
      tables.foldl (fun ts table => setImmediate ts table.1 table.2.isOn) ts t = ts t ∨
      tables.foldl (fun ts table => setImmediate ts table.1 table.2.isOn) ts t =
        { ts t with isOn := state.isOn } := by
  intro tables
  induction tables with
  | nil => exact fun ts _ => .inl rfl
  | cons table tables ih =>
    intro ts hall
    have hhead : setImmediate ts table.1 table.2.isOn t = ts t ∨
        setImmediate ts table.1 table.2.isOn t = { ts t with isOn := state.isOn } := by
      unfold setImmediate
      split
      · by_cases ht : t = table.1
        · subst ht
          rw [Function.update_self, hall table.2 List.mem_cons_self]
          exact .inr rfl
        · exact .inl (Function.update_of_ne ht _ _)
      · exact .inl rfl
    rw [List.foldl_cons]
    rcases ih (setImmediate ts table.1 table.2.isOn) fun s hs => hall s (List.mem_cons_of_mem _ hs)
      with htail | htail <;> rcases hhead with hhead | hhead <;> simp [htail, hhead]

/-- A sync that says `state` of a table sets its relay to that. -/
theorem foldl_setImmediate_isOn {t : Int} (ht : 1 ≤ t ∧ t ≤ 4) {state : LightState} :
    ∀ (tables : List (Int × LightState)) (ts : Tables), (∀ s, (t, s) ∈ tables → s = state) →
      (t, state) ∈ tables →
      (tables.foldl (fun ts table => setImmediate ts table.1 table.2.isOn) ts t).isOn =
        state.isOn := by
  intro tables
  induction tables with
  | nil => exact fun ts _ h => absurd h List.not_mem_nil
  | cons table tables ih =>
    intro ts hall hmem
    have hrest : ∀ s, (t, s) ∈ tables → s = state := fun s hs => hall s (List.mem_cons_of_mem _ hs)
    rw [List.foldl_cons]
    rcases List.mem_cons.1 hmem with rfl | hmem
    · have hset : (setImmediate ts t state.isOn t).isOn = state.isOn := by
        rw [setImmediate, if_pos ht, Function.update_self]
      rcases foldl_setImmediate tables (setImmediate ts t state.isOn) hrest with h | h
      · rw [h, hset]
      · rw [h]
    · exact ih _ hrest hmem

/-- What `update` makes of a table. -/
theorem update_apply (ts : Tables) (millis : UInt32) {t : Int} (ht : 1 ≤ t ∧ t ≤ 4) :
    (update ts millis).1 t =
      if (ts t).due millis then { ts t with isOn := (ts t).targetIsOn, pending := false }
      else ts t := by
  simp [update, ht]

/-- The acks of `update`. -/
theorem mem_update_acks {ts : Tables} {millis : UInt32} {msg : UpMessage} :
    msg ∈ (update ts millis).2 ↔ ∃ t, (1 ≤ t ∧ t ≤ 4) ∧ (ts t).due millis ∧
      (ts t).commandID ≠ "" ∧
      msg = .ack (ts t).commandID t (LightState.ofBool (ts t).targetIsOn) := by
  simp only [update, List.mem_filterMap, TableState.executedAck]
  constructor
  · rintro ⟨t, ht, hmsg⟩
    split at hmsg
    · rename_i hdue
      cases hmsg
      refine ⟨t, ?_, hdue.1, hdue.2, rfl⟩
      simp only [List.mem_cons, List.not_mem_nil, or_false] at ht
      omega
    · cases hmsg
  · rintro ⟨t, ht, hdue, hid, rfl⟩
    refine ⟨t, ?_, if_pos ⟨hdue, hid⟩⟩
    simp only [List.mem_cons, List.not_mem_nil, or_false]
    omega

/-- The debounce delay is measured on the counter. -/
theorem due_iff {table : TableState} {now queued : Nat} (h : table.timestamp = .ofNat queued) :
    table.due (.ofNat now) ↔
      table.pending ∧ 500 ≤ WrappingCounter.age (2 ^ 32) queued now := by
  simp only [TableState.due, h, decide_eq_true_eq, UInt32.le_iff_toNat_le,
    WrappingCounter.toNat_ofNat_sub]
  rfl

theorem pending_of_due {table : TableState} {millis : UInt32} (h : table.due millis) :
    table.pending := by
  simp only [TableState.due, Bool.decide_and, Bool.and_eq_true, decide_eq_true_eq] at h
  exact h.1

theorem queueState_self (ts : Tables) (millis : UInt32) {t : Int} (ht : 1 ≤ t ∧ t ≤ 4) (isOn : Bool)
    (cmdID : String) :
    queueState ts millis t isOn cmdID t =
      { ts t with
        pending := true
        targetIsOn := isOn
        commandID := copyCommandID cmdID
        timestamp := millis } := by
  rw [queueState, if_pos ht, Function.update_self]

theorem queueState_other (ts : Tables) (millis : UInt32) {t u : Int} (h : t ≠ u) (isOn : Bool)
    (cmdID : String) : queueState ts millis u isOn cmdID t = ts t := by
  unfold queueState
  split
  · exact Function.update_of_ne h _ _
  · rfl

theorem length_le_utf8ByteSize (l : List Char) : l.length ≤ (String.ofList l).utf8ByteSize := by
  induction l with
  | nil => exact Nat.zero_le _
  | cons c l ih =>
    have hc := c.utf8Size_pos
    rw [← List.singleton_append, String.ofList_append, String.utf8ByteSize_append,
      ← String.singleton_eq_ofList, String.utf8ByteSize_singleton, List.length_append,
      List.length_singleton]
    omega

/-- An id of at most 39 bytes is copied whole. -/
theorem copyCommandID_eq {cmdID : String} (h : cmdID.utf8ByteSize ≤ 39) :
    copyCommandID cmdID = cmdID := by
  have hlength := length_le_utf8ByteSize cmdID.toList
  rw [String.ofList_toList] at hlength
  rw [copyCommandID, List.take_of_length_le (hlength.trans h), String.ofList_toList]

/-- The id of a relay command survives the copy. -/
theorem copyCommandID_ne {s : String} : copyCommandID ("cmd_" ++ s) ≠ "" := by
  intro h
  have hlist := congrArg String.toList h
  simp [copyCommandID] at hlist

end Hardware

end GbcVenue
