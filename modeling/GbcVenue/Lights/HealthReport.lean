import GbcVenue.Lights.Protocol
import GbcVenue.Server.Handlers

/-!
# The report of the hardware

The health response of the device (`main.ino:454-475`) on its way through `Health` of
`hardware_handler.go`, at any point of a run of the light protocol. `health_reconciles`: the rows name
the four tables, and say of each what its relay was and what the cache asks of it; a row that is not in
sync means that something is under way, that no sync has arrived, or that the relay has changed since.
-/

namespace GbcVenue

open Interleaving MqttClient HardwareHandler

namespace Hardware

/-- What the board and its WiFi say of themselves. -/
structure Metrics where
  deviceName : String
  mac : String
  uptime : Nat
  freeHeap : Nat
  heapSize : Nat
  temperature : ℚ
  ssid : String
  rssi : Int
  ipAddress : String

/-- `isTableOn(i) ? "ON" : "OFF"`. -/
def relayText (ts : Tables) (id : Int) : String := lightText (.ofBool (ts id).isOn)

/-- `publishHealthStatus` (`main.ino:454-475`), a document that fits into its buffer. -/
def publishHealthStatus (ts : Tables) (board : Metrics) (commandID : String) : JsonMap :=
  [("commandId", .string commandID), ("deviceName", .string board.deviceName),
    ("mac", .string board.mac), ("uptime", .number board.uptime),
    ("freeHeap", .number board.freeHeap), ("heapSize", .number board.heapSize),
    ("temperature", .number board.temperature), ("ssid", .string board.ssid),
    ("rssi", .number board.rssi), ("ipAddress", .string board.ipAddress),
    ("tables", .object (([1, 2, 3, 4] : List Int).map fun i => (toString i, .string (relayText ts i))))]

end Hardware

open Hardware

/-- The `"metadata"` for what the board said. -/
def metadataOf (board : Metrics) : List (String × Option Json) :=
  [("deviceName", some (.string board.deviceName)), ("macAddress", some (.string board.mac)),
    ("uptimeMillis", some (.number board.uptime)), ("freeHeap", some (.number board.freeHeap)),
    ("heapSize", some (.number board.heapSize)), ("temperature", some (.number board.temperature)),
    ("ssid", some (.string board.ssid)), ("rssi", some (.number board.rssi)),
    ("ipAddress", some (.string board.ipAddress))]

/-- The rows of an answer, when the device had the relays of `ts` and the system is in state `s`. -/
structure Reconciled (ts : Hardware.Tables) (s : LightSystem) (rows : List TableReconcile) : Prop where
  tables : rows.map TableReconcile.tableID = [1, 2, 3, 4]
  hardware : ∀ row ∈ rows, row.hardwareState = relayText ts row.tableID
  backend : ∀ row ∈ rows,
    row.backendState = lightText (toldState (s.tables.get row.tableID).lightStatus)
  isSynced : ∀ row ∈ rows, row.isSynced =
    decide (toldState (s.tables.get row.tableID).lightStatus = .ofBool (ts row.tableID).isOn)
  rest : s.synced = true → s.AtRest → (∀ t : TableNo, (s.device t).isOn = (ts t).isOn) →
    ∀ row ∈ rows, row.isSynced = true

theorem lightText_inj {a b : LightState} : lightText a = lightText b ↔ a = b := by
  cases a <;> cases b <;> simp [lightText]

theorem backendState_eq (table : TableState) :
    backendState table = lightText (toldState table.lightStatus) := by
  unfold backendState toldState
  split <;> rfl

theorem metadata_publishHealthStatus (ts : Hardware.Tables) (board : Metrics) (commandID : String) :
    (metadataFields.map fun (name, field) =>
      (name, (publishHealthStatus ts board commandID).get field)) = metadataOf board := by
  rfl

theorem hwState_publishHealthStatus (ts : Hardware.Tables) (board : Metrics) (commandID : String)
    (t : TableNo) :
    hwState (hwTables (publishHealthStatus ts board commandID)) t = relayText ts t := by
  obtain ⟨t, hlow, hhigh⟩ := t
  have hcases : t = 1 ∨ t = 2 ∨ t = 3 ∨ t = 4 := by omega
  rcases hcases with rfl | rfl | rfl | rfl <;> rfl

theorem reconcile_publishHealthStatus {ts : Hardware.Tables} {board : Metrics} {commandID : String}
    {table : TableState} {t : TableNo} (ht : table.tableID = t) :
    reconcile (publishHealthStatus ts board commandID) table =
      ⟨t, lightText (toldState table.lightStatus), relayText ts t,
        decide (toldState table.lightStatus = .ofBool (ts t).isOn)⟩ := by
  rw [reconcile, ht, backendState_eq, hwState_publishHealthStatus, relayText]
  simp only [lightText_inj]

theorem reconciled_getAll {bookings : Int → Option CurrentBooking} {s : LightSystem}
    (h : GuardedReaches LightSystem.step LightSystem.InTurn (.start bookings) s)
    (ts : Hardware.Tables) (board : Metrics) (commandID : String) :
    Reconciled ts s (s.tables.getAll.map (reconcile (publishHealthStatus ts board commandID))) := by
  have hinv := LightSystem.inv_of_reaches h
  have hrows : ∀ row ∈ s.tables.getAll.map (reconcile (publishHealthStatus ts board commandID)),
      ∃ t : TableNo, row = ⟨t, lightText (toldState (s.light t)), relayText ts t,
        decide (toldState (s.light t) = .ofBool (ts t).isOn)⟩ := by
    intro row hrow
    obtain ⟨table, htable, rfl⟩ := List.mem_map.1 hrow
    obtain ⟨t, rfl⟩ : ∃ t : TableNo, table = s.tables.get t := by
      simp only [Tables.getAll, List.mem_cons, List.not_mem_nil, or_false] at htable
      rcases htable with rfl | rfl | rfl | rfl
      · exact ⟨⟨1, by decide⟩, rfl⟩
      · exact ⟨⟨2, by decide⟩, rfl⟩
      · exact ⟨⟨3, by decide⟩, rfl⟩
      · exact ⟨⟨4, by decide⟩, rfl⟩
    exact ⟨t, reconcile_publishHealthStatus (hinv.numbered t)⟩
  refine ⟨?_, fun row hrow => ?_, fun row hrow => ?_, fun row hrow => ?_,
    fun hsynced hrest hsame row hrow => ?_⟩
  · have h1 := hinv.numbered ⟨1, by decide⟩
    have h2 := hinv.numbered ⟨2, by decide⟩
    have h3 := hinv.numbered ⟨3, by decide⟩
    have h4 := hinv.numbered ⟨4, by decide⟩
    simp only [Tables.getAll, List.map_cons, List.map_nil, reconcile]
    rw [h1, h2, h3, h4]
  · obtain ⟨t, rfl⟩ := hrows row hrow
    rfl
  · obtain ⟨t, rfl⟩ := hrows row hrow
    rfl
  · obtain ⟨t, rfl⟩ := hrows row hrow
    rfl
  · obtain ⟨t, rfl⟩ := hrows row hrow
    have hagree : s.light t = statusOf (.ofBool (s.device t).isOn) := by
      refine (hinv.followed t ?_).agree hsynced hrest
      rintro ⟨cmd, hcmd, -⟩
      rw [hrest.sending, hrest.mqttCmdChan] at hcmd
      exact absurd hcmd List.not_mem_nil
    refine decide_eq_true ?_
    rw [hagree, hsame t]
    cases (ts t).isOn <;> rfl

/-- Whenever the device reports and whenever its report is read. -/
theorem health_reconciles {bookings : Int → Option CurrentBooking} {s : LightSystem}
    (h : GuardedReaches LightSystem.step LightSystem.InTurn (.start bookings) s)
    (ts : Hardware.Tables) (board : Metrics) (commandID : String) (origin : Nat)
    {E : Env → Prop} {i : Nat} {m m' : Timed World Int} {reply : HttpReply}
    (hm : m.state.tables = s.tables)
    (hserved : Prog.Runs (backend E) i
      (health (.data ⟨origin, publishHealthStatus ts board commandID⟩)) m reply m') :
    m'.state = m.state ∧ ∃ rows, reply = ⟨200, .online (metadataOf board) rows⟩ ∧
      Reconciled ts s rows := by
  obtain ⟨tables, m₁, ⟨-, e, -, hread⟩, hret⟩ := Prog.runs_act.1 hserved
  obtain ⟨rfl, rfl⟩ := Prog.runs_ret.1 hret
  obtain ⟨rfl, hsame⟩ := Prod.mk.inj (Option.some.inj hread)
  refine ⟨hsame.symm, _, ?_, reconciled_getAll h ts board commandID⟩
  rw [hm]
  rfl

def sampleBoard : Metrics :=
  ⟨"GBC", "24:6F:28:00:00:01", 60, 200000, 320000, 41, "club", -52, "10.0.0.7"⟩

/-- The rows of an answer. -/
def rowsOf (reply : HttpReply) : List TableReconcile :=
  match reply.body with
  | .online _ rows => rows
  | _ => []

/-- The light of table 1 is switched on, and the device reports after that. -/
theorem health_reconciles_on : ∃ (s : LightSystem) (rows : List TableReconcile),
    rows.map TableReconcile.hardwareState = ["ON", "OFF", "OFF", "OFF"] ∧
      Reconciled s.device s rows := by
  have hrun : ((runIf LightSystem.step (fun s a => syncsFirst s a = true)
      ([.snapshot, .publishSync 0 0, .receive 0, .handle] ++ switchOn) (.start fun _ => none)).bind
      fun s => (complete [nineOClock]
        (health (.data ⟨0, publishHealthStatus s.device sampleBoard "h"⟩))
        ⟨{ World.start .empty none 0 with tables := s.tables }, 0⟩).map
          fun x => (rowsOf x.1).map TableReconcile.hardwareState) =
      some ["ON", "OFF", "OFF", "OFF"] := by
    decide +kernel
  obtain ⟨s, hs, hserved⟩ := Option.bind_eq_some_iff.1 hrun
  obtain ⟨⟨reply, m'⟩, hcomplete, hseen⟩ := Option.map_eq_some_iff.1 hserved
  have hreach : GuardedReaches LightSystem.step LightSystem.InTurn (.start fun _ => none) s :=
    (reaches_of_runIf hs).mono fun _ _ => inTurn_of_syncsFirst
  obtain ⟨-, rows, rfl, hrows⟩ := health_reconciles hreach s.device sampleBoard "h" 0 rfl
    (runs_of_complete (E := fun _ => True) (fun _ _ => trivial) hcomplete)
  exact ⟨s, rows, hseen, hrows⟩

end GbcVenue
