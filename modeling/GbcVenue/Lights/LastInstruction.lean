import GbcVenue.Lights.Device
import Mathlib.Data.List.Induction

/-!
# The last instruction to a relay

Runs of the device: messages, handled one at a time, and turns of its loop, at any times. A sync is
applied at once and leaves a pending change in place, which is executed afterwards all the same. Where
no sync says otherwise than a pending change, the last instruction wins: `last_instruction_wins`.
-/

namespace GbcVenue

namespace Hardware

/-- What the device does: it handles a message, or takes a turn of its loop. -/
inductive Event
  | message (millis : UInt32) (msg : DownMessage)
  | update (millis : UInt32)

def handle (ts : Tables) : Event → Tables
  | .message millis msg => (eventData ts millis msg).1
  | .update millis => (Hardware.update ts millis).1

/-- The device after some events. -/
def after (history : List Event) : Tables := history.foldl handle begin

/-- What a message says of table `t`, in its last word about it. -/
def demandOf (t : Int) : DownMessage → Option LightState
  | .set _ tableID lightState => if tableID = 0 ∨ tableID = t then some lightState else none
  | .sync _ tables => ((tables.filter fun table => table.1 = t).getLast?).map Prod.snd

def Event.demand (t : Int) : Event → Option LightState
  | .message _ msg => demandOf t msg
  | .update _ => none

/-- What the last message that addressed table `t` says of it. -/
def lastDemand (t : Int) (history : List Event) : Option LightState :=
  (history.filterMap (Event.demand t)).getLast?

/-- An event is no sync that says otherwise of table `t` than its pending change. -/
def Event.Agrees (t : Int) (ts : Tables) : Event → Prop
  | .message _ (.sync cmdID tables) => (ts t).pending →
      ∀ s, demandOf t (.sync cmdID tables) = some s → s.isOn = (ts t).targetIsOn
  | _ => True

/-- A table is on its way to what was last said of it, or there. -/
structure Obeys (table : TableState) (last : Option LightState) : Prop where
  pending : table.pending → ∀ s, last = some s → table.targetIsOn = s.isOn
  settled : table.pending = false → ∀ s, last = some s → table.isOn = s.isOn

section

variable {t : Int} {ts : Tables} {last : Option LightState}

/-- The last entry of a sync about a table sets its relay, and nothing else. -/
theorem foldl_setImmediate_last (ht : 1 ≤ t ∧ t ≤ 4) (tables : List (Int × LightState)) (ts : Tables) :
    tables.foldl (fun ts table => setImmediate ts table.1 table.2.isOn) ts t =
      match ((tables.filter fun table => table.1 = t).getLast?).map Prod.snd with
      | some s => { ts t with isOn := s.isOn }
      | none => ts t := by
  induction tables using List.reverseRecOn with
  | nil => rfl
  | append_singleton tables table ih =>
    rw [List.foldl_append, List.foldl_cons, List.foldl_nil, List.filter_append]
    by_cases htable : table.1 = t
    · have hword : [table].filter (fun table => table.1 = t) = [table] := by simp [htable]
      rw [hword, List.getLast?_append, List.getLast?_singleton, Option.some_or, Option.map_some,
        htable, setImmediate, if_pos ht, Function.update_self, ih]
      split <;> rfl
    · have hword : [table].filter (fun table => table.1 = t) = [] := by simp [htable]
      rw [hword, List.append_nil, ← ih]
      unfold setImmediate
      split
      · exact Function.update_of_ne (Ne.symm htable) _ _
      · rfl

theorem obeys_sync (ht : 1 ≤ t ∧ t ≤ 4) (h : Obeys (ts t) last) {millis : UInt32} {cmdID : String}
    {tables : List (Int × LightState)}
    (hagrees : Event.Agrees t ts (.message millis (.sync cmdID tables))) :
    Obeys ((eventData ts millis (.sync cmdID tables)).1 t)
      ((demandOf t (.sync cmdID tables)).or last) := by
  have hset := foldl_setImmediate_last ht tables ts
  simp only [eventData, hset, demandOf]
  simp only [Event.Agrees, demandOf] at hagrees
  cases hdemand : ((tables.filter fun table => table.1 = t).getLast?).map Prod.snd with
  | none => exact h
  | some s =>
    rw [hdemand] at hagrees
    refine ⟨fun hpending s' hs' => ?_, fun _ s' hs' => ?_⟩
    · cases hs'
      exact (hagrees hpending s rfl).symm
    · cases hs'
      rfl

theorem queueStateAll_self (ts : Tables) (millis : UInt32) (ht : 1 ≤ t ∧ t ≤ 4) (isOn : Bool) :
    queueStateAll ts millis isOn t =
      { ts t with pending := true, targetIsOn := isOn, commandID := "", timestamp := millis } :=
  if_pos ht

theorem obeys_set (ht : 1 ≤ t ∧ t ≤ 4) (h : Obeys (ts t) last) (millis : UInt32) (cmdID : String)
    (tableID : Int) (s : LightState) :
    Obeys ((eventData ts millis (.set cmdID tableID s)).1 t)
      ((demandOf t (.set cmdID tableID s)).or last) := by
  simp only [eventData, demandOf]
  by_cases hall : tableID = 0
  · rw [if_pos hall, if_pos (.inl hall)]
    dsimp only
    rw [queueStateAll_self ts millis ht]
    refine ⟨fun _ s' hs' => ?_, nofun⟩
    cases hs'
    rfl
  · rw [if_neg hall]
    by_cases hid : tableID = t
    · subst hid
      rw [if_pos (.inr rfl)]
      dsimp only
      rw [queueState_self ts millis ht]
      refine ⟨fun _ s' hs' => ?_, nofun⟩
      cases hs'
      rfl
    · rw [if_neg fun hor => hor.elim hall hid]
      dsimp only
      rw [queueState_other ts millis (Ne.symm hid)]
      exact h

theorem obeys_update (ht : 1 ≤ t ∧ t ≤ 4) (h : Obeys (ts t) last) (millis : UInt32) :
    Obeys ((Hardware.update ts millis).1 t) last := by
  rw [update_apply ts millis ht]
  split
  · rename_i hdue
    exact ⟨nofun, fun _ => h.pending (pending_of_due hdue)⟩
  · exact h

theorem Obeys.handle (ht : 1 ≤ t ∧ t ≤ 4) (h : Obeys (ts t) last) {e : Event} (he : e.Agrees t ts) :
    Obeys (Hardware.handle ts e t) ((e.demand t).or last) := by
  cases e with
  | message millis msg =>
    cases msg with
    | set cmdID tableID s => exact obeys_set ht h millis cmdID tableID s
    | sync cmdID tables => exact obeys_sync ht h he
  | update millis => exact obeys_update ht h millis

theorem lastDemand_snoc (t : Int) (history : List Event) (e : Event) :
    lastDemand t (history ++ [e]) = (e.demand t).or (lastDemand t history) := by
  rw [lastDemand, List.filterMap_append, List.getLast?_append]
  cases hdemand : e.demand t with
  | none => simp [hdemand, lastDemand]
  | some s => simp [hdemand]

/-- In a run in which no sync says otherwise than a pending change, each table is on its way to what was
last said of it, or there. -/
theorem obeys_after (ht : 1 ≤ t ∧ t ≤ 4) {history : List Event}
    (hagrees : ∀ before e rest, history = before ++ e :: rest → e.Agrees t (after before)) :
    Obeys (after history t) (lastDemand t history) := by
  induction history using List.reverseRecOn with
  | nil => exact ⟨nofun, nofun⟩
  | append_singleton history e ih =>
    have hbefore := ih fun before e' rest heq =>
      hagrees before e' (rest ++ [e]) (by rw [heq, List.append_assoc, List.cons_append])
    rw [lastDemand_snoc, after, List.foldl_append]
    exact hbefore.handle ht (hagrees history e [] rfl)

end

/-- In a run in which no sync says otherwise than a change that is pending at table `t`, the relay is in
the state that was last demanded whenever nothing is pending. -/
theorem last_instruction_wins {t : Int} (ht : 1 ≤ t ∧ t ≤ 4) {history : List Event}
    (hagrees : ∀ before e rest, history = before ++ e :: rest → e.Agrees t (after before))
    (hsettled : (after history t).pending = false) {s : LightState}
    (hlast : lastDemand t history = some s) : (after history t).isOn = s.isOn :=
  (obeys_after ht hagrees).settled hsettled s hlast

/-- A table command, its execution half a second later, and a sync. -/
theorem last_instruction_wins_sync :
    (after [.message 0 (.set "cmd_1" 1 .on), .update 500, .message 600 (.sync "sync_1" [(1, .off)])]
      1).isOn = LightState.off.isOn := by
  refine last_instruction_wins (by decide) ?_ (by decide) (by decide)
  intro before e rest heq
  rcases before with _ | ⟨e₁, _ | ⟨e₂, _ | ⟨e₃, before⟩⟩⟩
  · cases heq
    trivial
  · cases heq
    trivial
  · cases heq
    exact fun hpending => absurd hpending (by decide)
  · simp at heq

/-- A sync that comes within half a second of a command is undone by it. -/
theorem last_instruction_can_lose :
    ¬ ∀ (t : Int) (history : List Event), 1 ≤ t ∧ t ≤ 4 → (after history t).pending = false →
      ∀ s, lastDemand t history = some s → (after history t).isOn = s.isOn := by
  intro hclaim
  have hlost := hclaim 1
    [.message 0 (.set "cmd_1" 1 .on), .message 100 (.sync "sync_1" [(1, .off)]), .update 500]
    (by decide) (by decide) .off (by decide)
  exact absurd hlost (by decide)

end Hardware

end GbcVenue
