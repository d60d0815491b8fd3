import GbcVenue.Cache.Representation
import GbcVenue.Domain.Json
import GbcVenue.Lights.MqttClient

/-!
# Raw messages

`handleMessage` of `mqtt_client.go` on a topic and a JSON payload. For a message that the device makes it
does what it does for the typed one (`handleRaw_messageOf`); other payloads come through as well, and 0
stands for ALL. `ack_touches_named_iff`: an ack touches the table it names exactly if its `tableId` is one
of the numbers 1 to 4 or the string `ALL`, or if there is nothing to change.
-/

namespace GbcVenue

open Interleaving

/-- A `mqtt.Message`. A payload that is no JSON is `none`. -/
structure MqttMessage where
  topic : String
  payload : Option Json

namespace MqttClient

/-- `fmt.Sprintf("%v", v) == "ALL"`. A string is printed as it is; every other value is printed as
`<nil>`, `true`, `false`, a numeral, `[...]` or `map[...]`. -/
def printsALL : Option Json → Bool
  | some (.string s) => s = "ALL"
  | _ => false

/-- The table of an ack (`mqtt_client.go:194-199`). -/
def ackTableID (data : JsonMap) : Int :=
  if printsALL (data.get "tableId") then 0 else intOfFloat (data.jsonFloat "tableId")

/-- The state of an ack (`mqtt_client.go:200-207`). -/
def ackLight (data : JsonMap) : LightStatus :=
  if data.jsonString "lightState" = "ON" then .on else .off

def isAckTopic (topic : String) : Bool :=
  "gbc/hardware/table/".toList.isPrefixOf topic.toList ∧ "/ack".toList.isSuffixOf topic.toList

/-- Go `handleMessage` (`mqtt_client.go:181-238`). For a sync request it answers the snapshot that is
published next; a health response and a status concern neither the cache nor the commands. -/
def handleRaw (msg : MqttMessage) : Go (Option (List TableState)) := do
  match unmarshalMap msg.payload with
  | none => return none
  | some data =>
    if isAckTopic msg.topic then
      TableService.confirmLightStatus (ackTableID data) (ackLight data)
      return none
    else if msg.topic = "gbc/hardware/sync/request" then
      let snapshot ← TableService.getCacheSnapshot
      return some snapshot
    else if msg.topic = "gbc/hardware/sync/ack" then
      TableService.confirmFullSync
      return none
    else return none

/-! ## The messages of the device -/

/-- `isTurnedOn ? "ON" : "OFF"`, as text. -/
def lightText : LightState → String
  | .on => "ON"
  | .off => "OFF"

/-- The `tableId` in an ack of the device (`main.ino:306-312`). -/
def tableJson (tableID : Int) : Json := if tableID = 0 then .string "ALL" else .number tableID

/-- The segment for the table in the topic of an ack. -/
def tableSegment (tableID : Int) : String := if tableID = 0 then "ALL" else toString tableID

/-- The fields of an ack (`main.ino:298-312`). -/
def ackFields (commandID : String) (tableID : Int) (lightState : LightState) : JsonMap :=
  [("commandId", .string commandID), ("lightState", .string (lightText lightState)),
    ("executed", .bool true), ("tableId", tableJson tableID)]

/-- A message as the device publishes it (`main.ino:297-316` and `acknowledgeSync`, `requestSync`). -/
def messageOf : UpMessage → MqttMessage
  | .ack commandID tableID lightState =>
      ⟨"gbc/hardware/table/" ++ tableSegment tableID ++ "/ack",
        some (.object (ackFields commandID tableID lightState))⟩
  | .syncAck commandID =>
      ⟨"gbc/hardware/sync/ack", some (.object [("commandId", .string commandID)])⟩
  | .syncRequest => ⟨"gbc/hardware/sync/request", some (.object [])⟩

theorem isAckTopic_append (segment : String) :
    isAckTopic ("gbc/hardware/table/" ++ segment ++ "/ack") := by
  rw [isAckTopic, decide_eq_true_eq, List.isPrefixOf_iff_prefix, List.isSuffixOf_iff_suffix,
    String.toList_append]
  constructor
  · rw [String.toList_append, List.append_assoc]
    exact List.prefix_append _ _
  · exact List.suffix_append _ _

theorem isAckTopic_sync : isAckTopic "gbc/hardware/sync/ack" = false ∧
    isAckTopic "gbc/hardware/sync/request" = false := by decide +kernel

section

variable (commandID : String) (tableID : Int) (lightState : LightState)

theorem get_ackFields_tableId :
    (ackFields commandID tableID lightState).get "tableId" = some (tableJson tableID) := rfl

theorem ackTableID_ackFields (h : 0 ≤ tableID ∧ tableID ≤ 4) :
    ackTableID (ackFields commandID tableID lightState) = tableID := by
  rw [ackTableID, JsonMap.jsonFloat, get_ackFields_tableId, tableJson]
  by_cases hall : tableID = 0
  · rw [if_pos hall]
    exact hall.symm
  · rw [if_neg hall]
    exact intOfFloat_intCast (by omega) (by omega)

theorem ackLight_ackFields :
    ackLight (ackFields commandID tableID lightState) = if lightState = .on then .on else .off := by
  have hget : (ackFields commandID tableID lightState).get "lightState" =
      some (.string (lightText lightState)) := rfl
  rw [ackLight, JsonMap.jsonString, hget]
  cases lightState <;> rfl

end

/-- What the device publishes is handled as the typed message. -/
theorem handleRaw_messageOf {msg : UpMessage}
    (h : ∀ commandID tableID lightState, msg = .ack commandID tableID lightState →
      0 ≤ tableID ∧ tableID ≤ 4) :
    handleRaw (messageOf msg) = handleMessage msg := by
  cases msg with
  | ack commandID tableID lightState =>
    have htable := h commandID tableID lightState rfl
    unfold handleRaw messageOf handleMessage
    simp only [unmarshalMap, isAckTopic_append, if_true,
      ackTableID_ackFields commandID tableID lightState htable, ackLight_ackFields]
  | syncAck commandID =>
    unfold handleRaw messageOf handleMessage
    simp [unmarshalMap, isAckTopic_sync]
  | syncRequest =>
    unfold handleRaw messageOf handleMessage
    simp [unmarshalMap, isAckTopic_sync]

/-! ## What an ack changes -/

/-- The cache after `ConfirmLightStatus` of the table service. -/
def lightConfirmed (ts : Tables) (tableID : Int) (state : LightStatus) : Tables :=
  if tableID = 0 then (ts.confirmAllLightStatuses state).1 else (ts.confirmLightStatus tableID state).1

/-- A run of `handleMessage` on an ack. -/
theorem runs_handleRaw {E : Env → Prop} {i : Nat} {msg : MqttMessage} {m m' : Timed Venue Int}
    {a : Option (List TableState)} (htopic : isAckTopic msg.topic)
    (h : Prog.Runs (onVenue E) i (handleRaw msg) m a m') :
    m'.state.tables = match unmarshalMap msg.payload with
      | none => m.state.tables
      | some data => lightConfirmed m.state.tables (ackTableID data) (ackLight data) := by
  unfold handleRaw at h
  cases hdata : unmarshalMap msg.payload with
  | none =>
    rw [hdata] at h
    rw [(Prog.runs_ret.1 h).2]
  | some data =>
    simp only [hdata, htopic, if_true] at h
    obtain ⟨_, m₁, hconfirm, hret⟩ := Prog.runs_bind.1 h
    obtain ⟨rfl, rfl⟩ := Prog.runs_ret.1 hret
    simp only [lightConfirmed]
    unfold TableService.confirmLightStatus at hconfirm
    split at hconfirm
    · rename_i hall
      rw [if_pos hall, runs_cacheWrite hconfirm]
      rfl
    · rename_i hone
      rw [if_neg hone, runs_cacheWrite hconfirm]
      rfl

/-- The payload names table `t`: its `tableId` is that number or the string `ALL`. -/
def NamesTable (payload : Option Json) (t : Int) : Prop :=
  1 ≤ t ∧ t ≤ 4 ∧ ∃ data, unmarshalMap payload = some data ∧
    (data.get "tableId" = some (.number t) ∨ data.get "tableId" = some (.string "ALL"))

/-- From `ts` to `ts'` the keys of the cache are still 1 to 4, and nothing changes but the light of tables
that the payload names. -/
structure TouchesNamed (payload : Option Json) (ts ts' : Tables) : Prop where
  keyed : ts'.Keyed
  lights : ∀ t, ts'.get t = { ts.get t with lightStatus := (ts'.get t).lightStatus }
  named : ∀ t, ts' t ≠ ts t → NamesTable payload t

/-- The tables that the number addresses are of the venue, and their lights are in the state. -/
def AlreadyConfirmed (ts : Tables) (tableID : Int) (state : LightStatus) : Prop :=
  if tableID = 0 then ∀ t, 1 ≤ t ∧ t ≤ 4 → (ts.get t).lightStatus = state
  else (1 ≤ tableID ∧ tableID ≤ 4) ∧ (ts.get tableID).lightStatus = state

theorem lightConfirmed_apply (ts : Tables) (tableID : Int) (state : LightStatus) (t : Int) :
    lightConfirmed ts tableID state t =
      if (tableID = 0 ∧ 1 ≤ t ∧ t ≤ 4 ∨ tableID ≠ 0 ∧ t = tableID) ∧ (ts.get t).lightStatus ≠ state
      then some { ts.get t with lightStatus := state } else ts t := by
  unfold lightConfirmed
  by_cases hall : tableID = 0
  · rw [if_pos hall]
    simp [Tables.confirmAllLightStatuses, hall, and_assoc]
  · rw [if_neg hall]
    unfold Tables.confirmLightStatus
    by_cases ht : t = tableID
    · subst ht
      split
      · rename_i hchange
        simp [Tables.set, hall, hchange]
      · rename_i hsame
        simp [hsame]
    · split <;> simp [Tables.set, hall, ht]

section

variable {ts : Tables} {tableID t : Int} {state : LightStatus} {data : JsonMap}

theorem get_lightConfirmed (ts : Tables) (tableID t : Int) (state : LightStatus) :
    (lightConfirmed ts tableID state).get t =
      { ts.get t with lightStatus := ((lightConfirmed ts tableID state).get t).lightStatus } := by
  rw [Tables.get, lightConfirmed_apply]
  split <;> rfl

/-- A table that an ack addresses changes exactly if its light is in another state. -/
theorem lightConfirmed_ne_iff :
    lightConfirmed ts tableID state t ≠ ts t ↔
      (tableID = 0 ∧ 1 ≤ t ∧ t ≤ 4 ∨ tableID ≠ 0 ∧ t = tableID) ∧ (ts.get t).lightStatus ≠ state := by
  rw [lightConfirmed_apply]
  split
  · rename_i h
    refine ⟨fun _ => h, fun _ heq => h.2 ?_⟩
    rw [Tables.get, ← heq, Option.getD_some]
  · rename_i h
    exact ⟨fun hne => absurd rfl hne, fun h' => absurd h' h⟩

/-- The light of a table that is not in the cache is in no state that an ack asks for. -/
theorem range_of_ackLight (hkeyed : ts.Keyed) (h : (ts.get t).lightStatus = ackLight data) :
    1 ≤ t ∧ t ≤ 4 := by
  rw [← hkeyed t]
  by_contra hnone
  rw [Option.not_isSome_iff_eq_none] at hnone
  rw [Tables.get, hnone, ackLight] at h
  split at h <;> cases h

theorem ackTableID_all (h : data.get "tableId" = some (.string "ALL")) : ackTableID data = 0 := by
  rw [ackTableID, h]
  rfl

theorem ackTableID_number (ht : 1 ≤ t ∧ t ≤ 4) (h : data.get "tableId" = some (.number t)) :
    ackTableID data = t := by
  rw [ackTableID, JsonMap.jsonFloat, h]
  exact intOfFloat_intCast (by omega) (by omega)

/-- The `tableId` is one of the four numbers, or the string `ALL`. -/
def NamesTables (data : JsonMap) : Prop :=
  data.get "tableId" = some (.string "ALL") ∨
    ∃ t : TableNo, data.get "tableId" = some (.number ((t : Int) : ℚ))

/-- An ack that names no table and does no harm finds all that it addresses confirmed. -/
theorem alreadyConfirmed_of_touches (hkeyed : ts.Keyed) {payload : Option Json}
    (hdata : unmarshalMap payload = some data) (hnot : ¬ NamesTables data)
    (h : TouchesNamed payload ts (lightConfirmed ts (ackTableID data) (ackLight data))) :
    AlreadyConfirmed ts (ackTableID data) (ackLight data) := by
  have hsame : ∀ t, lightConfirmed ts (ackTableID data) (ackLight data) t = ts t := by
    intro t
    by_contra hne
    obtain ⟨h1, h4, data', hdata', hname⟩ := h.named t hne
    obtain rfl := Option.some.inj (hdata.symm.trans hdata')
    rcases hname with hname | hname
    · exact hnot (.inr ⟨⟨t, h1, h4⟩, hname⟩)
    · exact hnot (.inl hname)
  unfold AlreadyConfirmed
  split
  · rename_i hall
    intro t ht
    by_contra hlight
    exact lightConfirmed_ne_iff.2 ⟨.inl ⟨hall, ht⟩, hlight⟩ (hsame t)
  · rename_i hone
    have hlight : (ts.get (ackTableID data)).lightStatus = ackLight data := by
      by_contra hlight
      exact lightConfirmed_ne_iff.2 ⟨.inr ⟨hone, rfl⟩, hlight⟩ (hsame _)
    exact ⟨range_of_ackLight hkeyed hlight, hlight⟩

theorem touchesNamed_of_alreadyConfirmed (hkeyed : ts.Keyed) (payload : Option Json)
    (h : AlreadyConfirmed ts tableID state) :
    TouchesNamed payload ts (lightConfirmed ts tableID state) := by
  have hsame : lightConfirmed ts tableID state = ts := by
    funext t
    by_contra hne
    obtain ⟨haddr, hlight⟩ := lightConfirmed_ne_iff.1 hne
    unfold AlreadyConfirmed at h
    rcases haddr with ⟨hall, ht⟩ | ⟨hone, rfl⟩
    · rw [if_pos hall] at h
      exact hlight (h t ht)
    · rw [if_neg hone] at h
      exact hlight h.2
  rw [hsame]
  exact ⟨hkeyed, fun _ => rfl, fun _ hne => absurd rfl hne⟩

theorem touchesNamed_of_namesTables (hkeyed : ts.Keyed) {payload : Option Json}
    (hdata : unmarshalMap payload = some data) (h : NamesTables data) (state : LightStatus) :
    TouchesNamed payload ts (lightConfirmed ts (ackTableID data) state) := by
  have hnamed : ∀ t, lightConfirmed ts (ackTableID data) state t ≠ ts t → NamesTable payload t := by
    intro t hne
    obtain ⟨haddr, -⟩ := lightConfirmed_ne_iff.1 hne
    rcases h with hall | ⟨u, hu⟩
    · rw [ackTableID_all hall] at haddr
      obtain ⟨-, ht⟩ := haddr.resolve_right fun h => h.1 rfl
      exact ⟨ht.1, ht.2, data, hdata, .inr hall⟩
    · rw [ackTableID_number u.2 hu] at haddr
      obtain rfl : t = u := by
        have := u.2
        rcases haddr with haddr | haddr <;> omega
      exact ⟨u.2.1, u.2.2, data, hdata, .inl hu⟩
  refine ⟨fun t => ?_, fun t => get_lightConfirmed ts _ t state, hnamed⟩
  by_cases hne : lightConfirmed ts (ackTableID data) state t = ts t
  · rw [hne]
    exact hkeyed t
  · obtain ⟨h1, h4, -⟩ := hnamed t hne
    rw [lightConfirmed_apply, if_pos (lightConfirmed_ne_iff.1 hne)]
    exact iff_of_true rfl ⟨h1, h4⟩

end

/-- An ack touches nothing but the lights of tables that it names exactly if its payload is no JSON
object, or if it names tables by one of the numbers 1 to 4 or the string `ALL`, or if the tables that
its number addresses, cut off and 0 for a missing one, are in its state already. -/
theorem ack_touches_named_iff {E : Env → Prop} {i : Nat} {msg : MqttMessage}
    {m m' : Timed World Int} {a : Option (List TableState)} (htopic : isAckTopic msg.topic)
    (hkeyed : m.state.tables.Keyed) (h : Prog.Runs (backend E) i (handleRaw msg) m a m') :
    TouchesNamed msg.payload m.state.tables m'.state.tables ↔
      ∀ data, unmarshalMap msg.payload = some data →
        NamesTables data ∨ AlreadyConfirmed m.state.tables (ackTableID data) (ackLight data) := by
  have htables : m'.state.tables = match unmarshalMap msg.payload with
      | none => m.state.tables
      | some data => lightConfirmed m.state.tables (ackTableID data) (ackLight data) :=
    runs_handleRaw htopic (h.simulate (venue_simulates E))
  rw [htables]
  cases hdata : unmarshalMap msg.payload with
  | none => exact iff_of_true ⟨hkeyed, fun _ => rfl, fun _ hne => absurd rfl hne⟩ nofun
  | some data =>
    constructor
    · rintro htouches data' hdata'
      obtain rfl := Option.some.inj hdata'
      by_cases hnames : NamesTables data
      · exact .inl hnames
      · exact .inr (alreadyConfirmed_of_touches hkeyed hdata hnames htouches)
    · intro hok
      rcases hok data rfl with hnames | hconfirmed
      · exact touchesNamed_of_namesTables hkeyed hdata hnames _
      · exact touchesNamed_of_alreadyConfirmed hkeyed _ hconfirmed

/-- An ack on the topic of table 2. -/
def ackOnTwo (fields : JsonMap) : MqttMessage :=
  ⟨"gbc/hardware/table/2/ack", some (.object fields)⟩

theorem isAckTopic_ackOnTwo (fields : JsonMap) : isAckTopic (ackOnTwo fields).topic :=
  isAckTopic_append "2"

/-- A started process. -/
def started : Timed World Int := ⟨World.start .empty none 0, 0⟩

/-- The process handles an ack. -/
theorem exists_handled (fields : JsonMap)
    (h : (complete (List.replicate 4 nineOClock) (handleRaw (ackOnTwo fields)) started).isSome) :
    ∃ a m', Prog.Runs (backend noFaults) 0 (handleRaw (ackOnTwo fields)) started a m' := by
  obtain ⟨⟨a, m'⟩, hrun⟩ := Option.isSome_iff_exists.1 h
  exact ⟨a, m', runs_of_complete (noFaults_replicate 4 nineOClock rfl) hrun⟩

/-- Table 2 is confirmed to be on. -/
theorem ack_touches_named_two : ∃ m' : Timed World Int,
    TouchesNamed (ackOnTwo [("tableId", .number 2), ("lightState", .string "ON")]).payload
      Tables.new m'.state.tables := by
  obtain ⟨a, m', hrun⟩ := exists_handled
    [("tableId", .number 2), ("lightState", .string "ON")] (by decide +kernel)
  refine ⟨m', (ack_touches_named_iff (isAckTopic_ackOnTwo _) Tables.keyed_new hrun).2 ?_⟩
  intro data hdata
  obtain rfl := Option.some.inj hdata
  exact .inl (.inr ⟨⟨2, by decide⟩, rfl⟩)

/-- An ack without a `tableId` switches all four lights on. -/
theorem ack_can_touch_all : ¬ ∀ (msg : MqttMessage) (m m' : Timed World Int)
    (a : Option (List TableState)), isAckTopic msg.topic → m.state.tables.Keyed →
    Prog.Runs (backend noFaults) 0 (handleRaw msg) m a m' →
    TouchesNamed msg.payload m.state.tables m'.state.tables := by
  intro hclaim
  obtain ⟨a, m', hrun⟩ := exists_handled [("lightState", .string "ON")] (by decide +kernel)
  have htouches := hclaim _ _ _ _ (isAckTopic_ackOnTwo _) Tables.keyed_new hrun
  have htables := runs_handleRaw (isAckTopic_ackOnTwo _) (hrun.simulate (venue_simulates noFaults))
  have hchanged : m'.state.tables 1 ≠ Tables.new 1 := by
    have hone : m'.state.tables 1 = lightConfirmed Tables.new 0 .on 1 := congrFun htables 1
    rw [hone]
    exact lightConfirmed_ne_iff.2 ⟨.inl ⟨rfl, by decide⟩, by decide⟩
  obtain ⟨-, -, data, hdata, hname⟩ := htouches.named 1 hchanged
  obtain rfl := Option.some.inj hdata
  rcases hname with hname | hname <;> cases hname

end MqttClient

end GbcVenue
