import GbcVenue.Interleaving.Guarded
import GbcVenue.Lights.Device
import Mathlib.Data.List.Basic

/-!
# The device in real time

All of `namespace Hardware` (`hardware/main/main.ino:80-212`): the relays of `Lights.Device` with what a
pass of `update` writes and acks, one table after another, and the connection indicator. Its functions are
called one at a time, at moments in milliseconds since the boot, of which `millis()` shows 32 bits.
-/

namespace GbcVenue

open Interleaving

namespace Hardware

/-! ## The relays -/

/-- What `update` does for a table: a relay write, or the ack callback. -/
inductive Output
  | digitalWrite (id : Int) (isOn : Bool)
  | onStateChanged (id : Int) (cmdID : String) (isTurnedOn : Bool)
  deriving DecidableEq

def Output.table : Output → Int
  | .digitalWrite id _ | .onStateChanged id .. => id

/-- `acknowledgeCommand`, which `begin` sets as the callback (`main.ino:297-316`). -/
def Output.ack : Output → Option UpMessage
  | .digitalWrite .. => none
  | .onStateChanged id cmdID isTurnedOn => some (.ack cmdID id (.ofBool isTurnedOn))

/-- A table after its iteration of the loop. -/
def TableState.served (t : TableState) (millis : UInt32) : TableState :=
  if t.due millis then { t with isOn := t.targetIsOn, pending := false } else t

/-- The outputs of this iteration: a due change is written and, if it came with a command id, acked. -/
def TableState.outputs (t : TableState) (millis : UInt32) (id : Int) : List Output :=
  if t.due millis then
    .digitalWrite id t.targetIsOn ::
      if t.commandID ≠ "" then [.onStateChanged id t.commandID t.targetIsOn] else []
  else []

/-- One iteration of the relay loop (`main.ino:161-173`). -/
def relay (millis : UInt32) (r : Tables × List Output) (id : Int) : Tables × List Output :=
  (Function.update r.1 id ((r.1 id).served millis), r.2 ++ (r.1 id).outputs millis id)

/-- The relay loop (`main.ino:160-174`). -/
def relays (ts : Tables) (millis : UInt32) : Tables × List Output :=
  [1, 2, 3, 4].foldl (relay millis) (ts, [])

/-! ## The indicator -/

inductive IndicatorState
  | netDisconnected | netNoInternet | netOnline
  deriving DecidableEq

/-- The connection indicator. It is on while pin 27 is LOW. -/
structure Indicator where
  indicatorState : IndicatorState
  winkPending : Bool
  winkEndTime : UInt32
  isOn : Bool
  deriving DecidableEq

namespace Indicator

/-- The initial values (`main.ino:98-100`), and the pin set HIGH by `begin`. -/
def begin : Indicator := ⟨.netDisconnected, false, 0, false⟩

/-- `winkNetworkIndicator` (`main.ino:150-155`). -/
def winkNetworkIndicator (n : Indicator) (millis : UInt32) : Indicator :=
  if n.indicatorState ≠ .netOnline ∨ n.winkPending then n
  else { n with winkPending := true, winkEndTime := millis + 100, isOn := false }

/-- `desired`, by `Connection::isConnected` and `Cloud::isConnected`. -/
def desired (wifi mqtt : Bool) : IndicatorState :=
  if !wifi then .netDisconnected else if !mqtt then .netNoInternet else .netOnline

/-- The solid states (`main.ino:182-188`). -/
def solid (n : Indicator) (desired : IndicatorState) : Indicator :=
  if desired ≠ n.indicatorState then { n with
    winkPending := false
    indicatorState := desired
    isOn := match desired with
      | .netDisconnected => false
      | .netOnline => true
      | .netNoInternet => n.isOn }
  else n

/-- The double pulse (`main.ino:190-195`). -/
def doublePulse (n : Indicator) (millis : UInt32) : Indicator :=
  if n.indicatorState = .netNoInternet then { n with
    winkPending := false
    isOn := millis / 100 % 12 ≠ 0 ∧ millis / 100 % 12 ≠ 2 }
  else n

/-- The end of a wink (`main.ino:197-203`). -/
def restoreWink (n : Indicator) (millis : UInt32) : Indicator :=
  if n.winkPending ∧ n.winkEndTime ≤ millis then { n with
    winkPending := false
    isOn := if n.indicatorState = .netOnline then true else n.isOn }
  else n

/-- The indicator in `update` (`main.ino:176-203`). -/
def update (n : Indicator) (millis : UInt32) (wifi mqtt : Bool) : Indicator :=
  ((n.solid (desired wifi mqtt)).doublePulse millis).restoreWink millis

end Indicator

/-! ## The calls in real time -/

/-- A command for one table, with the moment at which it was queued. -/
structure Command where
  isOn : Bool
  cmdID : String
  queued : Nat
  deriving DecidableEq

/-- What happens to a table: a command is queued, or a call of `update` has these outputs for it. -/
inductive TableEvent
  | queued (c : Command)
  | updated (moment : Nat) (outputs : List Output)
  deriving DecidableEq

/-- A call of `update` with both connections up that met a wink: when the wink began, when the call came,
and what it left. -/
structure WinkUpdate where
  began : Nat
  moment : Nat
  winkPending : Bool
  isOn : Bool
  deriving DecidableEq

/-- The device at a moment. No code reads the rest: the moments of the calls of `update`, what happened to
each table, the beginning of the last wink, and the calls of `update` that met one, the newest first. -/
structure Device where
  tables : Tables
  indicator : Indicator
  now : Nat
  updates : List Nat
  events : Int → List TableEvent
  began : Nat
  winks : List WinkUpdate

inductive Call
  | wait (n : Nat)
  | setImmediate (id : Int) (isOn : Bool)
  | queueState (id : Int) (isOn : Bool) (cmdID : String)
  | queueStateAll (isOn : Bool)
  | winkNetworkIndicator
  | update (wifi mqtt : Bool)

namespace Device

/-- The boot. -/
def start : Device := ⟨Hardware.begin, .begin, 0, [], fun _ => [], 0, []⟩

/-- `millis()`. -/
def millis (s : Device) : UInt32 := .ofNat s.now

/-- What a call of `update` does for one table now. -/
def outputs (s : Device) (id : Int) : List Output :=
  (relays s.tables s.millis).2.filter fun o => o.table = id

/-- The events of a table after a call of `update`, of which the outputs count if there are any. -/
def eventsAfter (s : Device) (id : Int) : List TableEvent :=
  if s.outputs id = [] then s.events id else .updated s.now (s.outputs id) :: s.events id

/-- One call, or some time without any. -/
def step (s : Device) : Call → Option Device
  | .wait n => some { s with now := s.now + n }
  | .setImmediate id isOn => some { s with tables := Hardware.setImmediate s.tables id isOn }
  | .queueState id isOn cmdID => some { s with
      tables := Hardware.queueState s.tables s.millis id isOn cmdID
      events := if 1 ≤ id ∧ id ≤ 4 then
        Function.update s.events id (.queued ⟨isOn, cmdID, s.now⟩ :: s.events id) else s.events }
  | .queueStateAll isOn => some { s with
      tables := Hardware.queueStateAll s.tables s.millis isOn
      events := fun id =>
        if 1 ≤ id ∧ id ≤ 4 then .queued ⟨isOn, "", s.now⟩ :: s.events id else s.events id }
  | .winkNetworkIndicator => some { s with
      indicator := s.indicator.winkNetworkIndicator s.millis
      began := if s.indicator.indicatorState ≠ .netOnline ∨ s.indicator.winkPending then s.began
        else s.now }
  | .update wifi mqtt =>
    let indicator := s.indicator.update s.millis wifi mqtt
    some { s with
      tables := (relays s.tables s.millis).1
      indicator := indicator
      updates := s.now :: s.updates
      events := s.eventsAfter
      winks := if s.indicator.winkPending ∧ wifi ∧ mqtt then
        ⟨s.began, s.now, indicator.winkPending, indicator.isOn⟩ :: s.winks else s.winks }

abbrev Reaches (ok : Device → Call → Prop) : Device → Device → Prop := GuardedReaches step ok

end Device

/-! ## The relay loop as a whole -/

section

variable {ts : Tables} {millis : UInt32} {id : Int}

/-- Each iteration looks at its own table only. -/
theorem foldl_relay {ids : List Int} (hids : ids.Nodup) (ts : Tables) (out : List Output) :
    ids.foldl (relay millis) (ts, out) =
      (fun id => if id ∈ ids then (ts id).served millis else ts id,
        out ++ ids.flatMap fun id => (ts id).outputs millis id) := by
  induction ids generalizing ts out with
  | nil => simp
  | cons cur ids ih =>
    obtain ⟨hcur, hids⟩ := List.nodup_cons.1 hids
    have hother : ∀ id ∈ ids,
        Function.update ts cur ((ts cur).served millis) id = ts id := fun id hid =>
      Function.update_of_ne (ne_of_mem_of_not_mem hid hcur) _ _
    rw [List.foldl_cons, relay, ih hids]
    refine Prod.ext (funext fun id => ?_) ?_
    · by_cases hid : id = cur
      · subst hid
        simp [hcur]
      · simp [hid]
    · have hrest : (ids.flatMap fun id =>
          (Function.update ts cur ((ts cur).served millis) id).outputs millis id) =
          ids.flatMap fun id => (ts id).outputs millis id :=
        List.flatMap_congr fun id hid => by rw [hother id hid]
      simp only [hrest, List.flatMap_cons, List.append_assoc]

theorem relays_eq (ts : Tables) (millis : UInt32) : relays ts millis =
    (fun id => if id ∈ [1, 2, 3, 4] then (ts id).served millis else ts id,
      [1, 2, 3, 4].flatMap fun id => (ts id).outputs millis id) :=
  foldl_relay (by decide) ts []

theorem mem_tables : id ∈ ([1, 2, 3, 4] : List Int) ↔ 1 ≤ id ∧ id ≤ 4 := by
  simp only [List.mem_cons, List.not_mem_nil, or_false]
  omega

/-- The loop leaves the tables that `update` of `Lights.Device` leaves, and sends its acks. -/
theorem relays_update (ts : Tables) (millis : UInt32) :
    ((relays ts millis).1, (relays ts millis).2.filterMap Output.ack) = Hardware.update ts millis := by
  rw [relays_eq]
  refine Prod.ext (funext fun id => ?_) ?_
  · simp only [mem_tables, TableState.served, Hardware.update]
    grind
  · have hack : ∀ id, ((ts id).outputs millis id).filterMap Output.ack =
        ((ts id).executedAck millis id).toList := by
      intro id
      unfold TableState.outputs TableState.executedAck
      by_cases hdue : (ts id).due millis <;> by_cases hid : (ts id).commandID = "" <;>
        simp [List.filterMap, hdue, hid, Output.ack]
    simp only [Hardware.update, List.filterMap_flatMap, hack]
    rw [List.filterMap_eq_flatMap_toList]

theorem relays_table (hid : 1 ≤ id ∧ id ≤ 4) :
    (relays ts millis).1 id = (ts id).served millis := by
  rw [relays_eq]
  exact if_pos (mem_tables.2 hid)

theorem table_of_mem_outputs {t : TableState} {o : Output} (h : o ∈ t.outputs millis id) :
    o.table = id := by
  unfold TableState.outputs at h
  split at h
  · rcases List.mem_cons.1 h with rfl | h
    · rfl
    · split at h
      · rw [List.mem_singleton.1 h]
        rfl
      · cases h
  · cases h

/-- The outputs for a table are those of its iteration. -/
theorem filter_relays (hid : 1 ≤ id ∧ id ≤ 4) :
    (relays ts millis).2.filter (fun o => o.table = id) = (ts id).outputs millis id := by
  have hother : ∀ cur, ((ts cur).outputs millis cur).filter (fun o => o.table = id) =
      if cur = id then (ts cur).outputs millis cur else [] := by
    intro cur
    split
    · rename_i hcur
      refine List.filter_eq_self.2 fun o ho => ?_
      simp [table_of_mem_outputs ho, hcur]
    · rename_i hcur
      refine List.filter_eq_nil_iff.2 fun o ho => ?_
      simp [table_of_mem_outputs ho, hcur]
  rw [relays_eq]
  simp only [List.filter_flatMap, hother]
  obtain rfl | rfl | rfl | rfl : id = 1 ∨ id = 2 ∨ id = 3 ∨ id = 4 := by omega
  all_goals simp

theorem filter_relays_other (hid : ¬ (1 ≤ id ∧ id ≤ 4)) :
    (relays ts millis).2.filter (fun o => o.table = id) = [] := by
  rw [relays_eq]
  refine List.filter_eq_nil_iff.2 fun o ho => ?_
  obtain ⟨cur, hcur, ho⟩ := List.mem_flatMap.1 ho
  have hne : cur ≠ id := fun heq => hid (heq ▸ mem_tables.1 hcur)
  simp [table_of_mem_outputs ho, hne]

end

namespace Device

variable {s s' : Device}

theorem step_update {wifi mqtt : Bool} (hstep : s.step (.update wifi mqtt) = some s') :
    s'.tables = (relays s.tables s.millis).1 ∧
      s'.indicator = s.indicator.update s.millis wifi mqtt ∧ s'.events = s.eventsAfter ∧
      s'.began = s.began ∧ s'.updates = s.now :: s.updates ∧ s'.now = s.now ∧
      s'.winks = if s.indicator.winkPending ∧ wifi ∧ mqtt then
        ⟨s.began, s.now, (s.indicator.update s.millis wifi mqtt).winkPending,
          (s.indicator.update s.millis wifi mqtt).isOn⟩ :: s.winks else s.winks := by
  obtain rfl := Option.some.inj hstep
  exact ⟨rfl, rfl, rfl, rfl, rfl, rfl, rfl⟩

/-- The calls of `update` lie in the past. -/
theorem updates_le_cons (h : ∀ u ∈ s.updates, u ≤ s.now) (hupdates : s'.updates = s.now :: s.updates)
    (hnow : s'.now = s.now) : ∀ u ∈ s'.updates, u ≤ s'.now := by
  rw [hupdates, hnow]
  exact List.forall_mem_cons.2 ⟨le_rfl, h⟩

end Device

end Hardware

end GbcVenue
