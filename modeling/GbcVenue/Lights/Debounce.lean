import GbcVenue.Lights.Controller

/-!
# The debounce delay

`debounce_exact`: `update` switches a relay for the last command of its table only, at least 500 ms of
real time after it and in the first call for which that is so, and acks it once if it has an id, however
often the counter of `millis()` wraps.
-/

namespace GbcVenue

open Interleaving

namespace Hardware

/-- The execution of a command. -/
def Command.outputs (c : Command) (id : Int) : List Output :=
  .digitalWrite id c.isOn ::
    if c.cmdID ≠ "" then [.onStateChanged id c.cmdID c.isOn] else []

/-- The histories of a table, newest first, in which a call of `update` has outputs for it only directly
after a command, 500 ms or more later, and executes that one. A command that another one follows is
executed by none, and none is executed twice. -/
inductive Served (id : Int) : List TableEvent → Prop
  | nil : Served id []
  | queued {older : List TableEvent} (c : Command) (h : Served id older) :
      Served id (.queued c :: older)
  | updated {older : List TableEvent} {c : Command} {moment : Nat} (h : Served id (.queued c :: older))
      (hold : c.queued + 500 ≤ moment) :
      Served id (.updated moment (c.outputs id) :: .queued c :: older)

namespace Device

/-- A command id fits its slot, and less than `2 ^ 32 - 500` ms lie between two calls of `update`. -/
def Timely (s : Device) : Call → Prop
  | .queueState _ _ cmdID => cmdID.utf8ByteSize ≤ 39
  | .update .. => ∀ u ∈ s.updates.head?, s.now < u + (2 ^ 32 - 500)
  | _ => True

instance (s : Device) : ∀ a, Decidable (s.Timely a)
  | .queueState _ _ cmdID => inferInstanceAs (Decidable (cmdID.utf8ByteSize ≤ 39))
  | .update .. => inferInstanceAs (Decidable (∀ u ∈ s.updates.head?, s.now < u + (2 ^ 32 - 500)))
  | .wait _ | .setImmediate .. | .queueStateAll _ | .winkNetworkIndicator =>
    inferInstanceAs (Decidable True)

/-- No call of `update` was late enough for the command. If the very first call comes a whole period of
the counter after it, nothing is said. -/
def NoneMissed (s : Device) (c : Command) : Prop :=
  (∀ first ∈ s.updates.getLast?, first < c.queued + 2 ^ 32) → ∀ u ∈ s.updates, u < c.queued + 500

/-- The outputs of `update` execute the commands, and a command that still waits was not missed. -/
structure Debounced (s : Device) : Prop where
  served : ∀ id, Served id (s.events id)
  waiting : ∀ id c older, s.events id = .queued c :: older → s.NoneMissed c

/-! ## What waits in a slot -/

/-- The command is in the slot of its table. -/
structure Waits (s : Device) (id : Int) (c : Command) : Prop where
  pending : (s.tables id).pending
  targetIsOn : (s.tables id).targetIsOn = c.isOn
  commandID : (s.tables id).commandID = c.cmdID
  timestamp : (s.tables id).timestamp = .ofNat c.queued
  queued_le : c.queued ≤ s.now
  none_missed : s.NoneMissed c

/-- The slot of a table holds the command that comes last in its history, if that is the last event. -/
def Slot (s : Device) (id : Int) : Prop :=
  match s.events id with
  | .queued c :: _ => s.Waits id c
  | _ => (s.tables id).pending = false

structure Inv (s : Device) : Prop where
  updates_le : ∀ u ∈ s.updates, u ≤ s.now
  served : ∀ id, Served id (s.events id)
  slot : ∀ id, 1 ≤ id → id ≤ 4 → s.Slot id
  other : ∀ id, ¬ (1 ≤ id ∧ id ≤ 4) → s.events id = []

section

variable {s s' : Device} {id : Int} {c : Command}

theorem slot_queued {older : List TableEvent} (h : s.events id = .queued c :: older) :
    s.Slot id ↔ s.Waits id c := by
  unfold Slot
  rw [h]

theorem slot_idle (h : ∀ c older, s.events id ≠ .queued c :: older) :
    s.Slot id ↔ (s.tables id).pending = false := by
  unfold Slot
  split
  · rename_i c older hevents
    exact absurd hevents (h c older)
  · rfl

/-- A call that leaves what waits for a table. -/
structure Leaves (s s' : Device) (id : Int) : Prop where
  pending : (s'.tables id).pending = (s.tables id).pending
  targetIsOn : (s'.tables id).targetIsOn = (s.tables id).targetIsOn
  commandID : (s'.tables id).commandID = (s.tables id).commandID
  timestamp : (s'.tables id).timestamp = (s.tables id).timestamp
  events : s'.events id = s.events id

theorem Leaves.of_eq (htable : s'.tables id = s.tables id) (hevents : s'.events id = s.events id) :
    s.Leaves s' id := by
  refine ⟨?_, ?_, ?_, ?_, hevents⟩
  · rw [htable]
  · rw [htable]
  · rw [htable]
  · rw [htable]

theorem Slot.leaves (h : s.Slot id) (hleaves : s.Leaves s' id) (hnow : s.now ≤ s'.now)
    (hmissed : ∀ c older, s.events id = .queued c :: older → s.Waits id c → s'.NoneMissed c) :
    s'.Slot id := by
  by_cases hqueued : ∃ c older, s.events id = .queued c :: older
  · obtain ⟨c, older, hevents⟩ := hqueued
    have hwaits := (slot_queued hevents).1 h
    refine (slot_queued (hleaves.events.trans hevents)).2 ⟨?_, ?_, ?_, ?_, ?_, ?_⟩
    · exact hleaves.pending.trans hwaits.pending
    · exact hleaves.targetIsOn.trans hwaits.targetIsOn
    · exact hleaves.commandID.trans hwaits.commandID
    · exact hleaves.timestamp.trans hwaits.timestamp
    · exact hwaits.queued_le.trans hnow
    · exact hmissed c older hevents hwaits
  · have hidle : ∀ c older, s.events id ≠ .queued c :: older := fun c older hevents =>
      hqueued ⟨c, older, hevents⟩
    refine (slot_idle fun c older => ?_).2 (hleaves.pending.trans ((slot_idle hidle).1 h))
    rw [hleaves.events]
    exact hidle c older

/-- A call that queues a command for a table. -/
structure Fills (s s' : Device) (id : Int) (c : Command) : Prop where
  table : 1 ≤ id ∧ id ≤ 4
  pending : (s'.tables id).pending
  targetIsOn : (s'.tables id).targetIsOn = c.isOn
  commandID : (s'.tables id).commandID = c.cmdID
  timestamp : (s'.tables id).timestamp = s'.millis
  queued : c.queued = s'.now
  events : s'.events id = .queued c :: s.events id

/-- A call other than `update`. -/
theorem Inv.set (h : s.Inv) (hnow : s.now ≤ s'.now) (hupdates : s'.updates = s.updates)
    (hids : ∀ id, s.Leaves s' id ∨ ∃ c, s.Fills s' id c) : s'.Inv := by
  have hle : ∀ u ∈ s'.updates, u ≤ s'.now := fun u hu =>
    (h.updates_le u (hupdates ▸ hu)).trans hnow
  refine ⟨hle, fun id => ?_, fun id h1 h4 => ?_, fun id hid => ?_⟩
  · rcases hids id with hleaves | ⟨c, hfills⟩
    · rw [hleaves.events]
      exact h.served id
    · rw [hfills.events]
      exact .queued c (h.served id)
  · rcases hids id with hleaves | ⟨c, hfills⟩
    · refine (h.slot id h1 h4).leaves hleaves hnow fun c older _ hwaits => ?_
      have hmissed := hwaits.none_missed
      unfold NoneMissed at hmissed ⊢
      rwa [hupdates]
    · refine (slot_queued hfills.events).2 ⟨hfills.pending, hfills.targetIsOn, hfills.commandID, ?_,
        hfills.queued.le, fun _ u hu => ?_⟩
      · rw [hfills.timestamp, hfills.queued]
        rfl
      · have hu := hle u hu
        have hqueued := hfills.queued
        omega
  · rcases hids id with hleaves | ⟨c, hfills⟩
    · rw [hleaves.events]
      exact h.other id hid
    · exact absurd hfills.table hid

theorem Inv.queueState (h : s.Inv) {isOn : Bool} {cmdID : String}
    (hok : s.Timely (.queueState id isOn cmdID))
    (hstep : s.step (.queueState id isOn cmdID) = some s') : s'.Inv := by
  obtain rfl := Option.some.inj hstep
  have hcopy : copyCommandID cmdID = cmdID := copyCommandID_eq hok
  refine h.set le_rfl rfl fun cur => ?_
  by_cases hid : 1 ≤ id ∧ id ≤ 4
  · by_cases hcur : cur = id
    · subst hcur
      have htable := queueState_self s.tables s.millis hid isOn cmdID
      refine .inr ⟨⟨isOn, cmdID, s.now⟩, hid, ?_, ?_, ?_, ?_, rfl, ?_⟩
      · exact congrArg TableState.pending htable
      · exact congrArg TableState.targetIsOn htable
      · exact (congrArg TableState.commandID htable).trans hcopy
      · exact congrArg TableState.timestamp htable
      · exact (congrFun (if_pos hid) cur).trans (Function.update_self _ _ _)
    · refine .inl (.of_eq (queueState_other s.tables s.millis hcur isOn cmdID) ?_)
      exact (congrFun (if_pos hid) cur).trans (Function.update_of_ne hcur _ _)
  · exact .inl (.of_eq (congrFun (if_neg hid) cur) (congrFun (if_neg hid) cur))

theorem Inv.queueStateAll (h : s.Inv) {isOn : Bool}
    (hstep : s.step (.queueStateAll isOn) = some s') : s'.Inv := by
  obtain rfl := Option.some.inj hstep
  refine h.set le_rfl rfl fun cur => ?_
  by_cases hid : 1 ≤ cur ∧ cur ≤ 4
  · have htable : Hardware.queueStateAll s.tables s.millis isOn cur = _ := if_pos hid
    refine .inr ⟨⟨isOn, "", s.now⟩, hid, ?_, ?_, ?_, ?_, rfl, if_pos hid⟩
    · exact congrArg TableState.pending htable
    · exact congrArg TableState.targetIsOn htable
    · exact congrArg TableState.commandID htable
    · exact congrArg TableState.timestamp htable
  · exact .inl (.of_eq (if_neg hid) (if_neg hid))

theorem Inv.setImmediate (h : s.Inv) {isOn : Bool} (hstep : s.step (.setImmediate id isOn) = some s') :
    s'.Inv := by
  obtain rfl := Option.some.inj hstep
  refine h.set le_rfl rfl fun cur => .inl ?_
  obtain ⟨b, htable⟩ := setImmediate_apply s.tables id isOn cur
  constructor <;> simp only [htable]

/-! ## A call of `update` -/

/-- A table that is found due has been waiting for 500 ms, wrapped or not. -/
theorem Waits.old_of_due (h : s.Waits id c) (hdue : (s.tables id).due s.millis) :
    c.queued + 500 ≤ s.now :=
  WrappingCounter.le_of_le_age (by decide) h.queued_le ((due_iff h.timestamp).1 hdue).2

/-- The calls of `update` come often enough that the age of a command does not wrap. -/
theorem Waits.lt_of_timely (h : s.Waits id c) {wifi mqtt : Bool} (hok : s.Timely (.update wifi mqtt))
    (hfirst : ∀ first ∈ (s.now :: s.updates).getLast?, first < c.queued + 2 ^ 32) :
    s.now < c.queued + 2 ^ 32 := by
  have hmissed := h.none_missed
  unfold NoneMissed at hmissed
  unfold Timely at hok
  cases hupdates : s.updates with
  | nil =>
    rw [hupdates] at hfirst
    exact hfirst s.now rfl
  | cons u rest =>
    rw [hupdates] at hfirst hok hmissed
    rw [List.getLast?_cons_cons] at hfirst
    have hu : u < c.queued + 500 := hmissed hfirst u List.mem_cons_self
    have hgap := hok u rfl
    omega

/-- A command that a call of `update` leaves in its slot is not old enough. -/
theorem Waits.lt_of_not_due (h : s.Waits id c) (hdue : ¬ (s.tables id).due s.millis)
    (hlt : s.now < c.queued + 2 ^ 32) : s.now < c.queued + 500 := by
  by_contra hold
  refine hdue ((due_iff h.timestamp).2 ⟨h.pending, ?_⟩)
  exact (WrappingCounter.le_age_iff h.queued_le hlt).2 (Nat.not_lt.1 hold)

theorem eventsAfter_of_due (h : s.Waits id c) (hid : 1 ≤ id ∧ id ≤ 4)
    (hdue : (s.tables id).due s.millis) :
    s.eventsAfter id = .updated s.now (c.outputs id) :: s.events id := by
  have houtputs : s.outputs id = c.outputs id := by
    rw [outputs, filter_relays hid, TableState.outputs, if_pos hdue, h.commandID, h.targetIsOn]
    rfl
  rw [eventsAfter, houtputs]
  exact if_neg (List.cons_ne_nil _ _)

theorem eventsAfter_of_not_due (hid : 1 ≤ id ∧ id ≤ 4) (hdue : ¬ (s.tables id).due s.millis) :
    s.eventsAfter id = s.events id := by
  have houtputs : s.outputs id = [] := by
    rw [outputs, filter_relays hid, TableState.outputs, if_neg hdue]
  exact if_pos houtputs

theorem eventsAfter_other (hid : ¬ (1 ≤ id ∧ id ≤ 4)) : s.eventsAfter id = s.events id :=
  if_pos (filter_relays_other hid)

/-- Only a table with a command in its slot is found due. -/
theorem Slot.exists_waits (h : s.Slot id) (hdue : (s.tables id).due s.millis) :
    ∃ c older, s.events id = .queued c :: older ∧ s.Waits id c := by
  by_cases hqueued : ∃ c older, s.events id = .queued c :: older
  · obtain ⟨c, older, hevents⟩ := hqueued
    exact ⟨c, older, hevents, (slot_queued hevents).1 h⟩
  · have hidle := (slot_idle fun c older hevents => hqueued ⟨c, older, hevents⟩).1 h
    rw [pending_of_due hdue] at hidle
    cases hidle

theorem served_eventsAfter (h : Served id (s.events id)) (hslot : 1 ≤ id → id ≤ 4 → s.Slot id) :
    Served id (s.eventsAfter id) := by
  by_cases hid : 1 ≤ id ∧ id ≤ 4
  · by_cases hdue : (s.tables id).due s.millis
    · obtain ⟨c, older, hevents, hw⟩ := (hslot hid.1 hid.2).exists_waits hdue
      rw [eventsAfter_of_due hw hid hdue]
      rw [hevents] at h ⊢
      exact .updated h (hw.old_of_due hdue)
    · rwa [eventsAfter_of_not_due hid hdue]
  · rwa [eventsAfter_other hid]

/-- A due command leaves its slot, and another one stays there. -/
theorem Slot.update (h : s.Slot id) (hid : 1 ≤ id ∧ id ≤ 4) (hle : ∀ u ∈ s.updates, u ≤ s.now)
    {wifi mqtt : Bool} (hok : s.Timely (.update wifi mqtt))
    (hstep : s.step (.update wifi mqtt) = some s') : s'.Slot id := by
  obtain ⟨htables, -, hevents, -, hupdates, hnow, -⟩ := step_update hstep
  by_cases hdue : (s.tables id).due s.millis
  · obtain ⟨c, older, -, hw⟩ := h.exists_waits hdue
    refine (slot_idle fun c older hqueued => ?_).2 ?_
    · rw [hevents, eventsAfter_of_due hw hid hdue] at hqueued
      cases hqueued
    · rw [htables, relays_table hid, TableState.served, if_pos hdue]
  · have htable : s'.tables id = s.tables id := by
      rw [htables, relays_table hid, TableState.served, if_neg hdue]
    have hsame : s'.events id = s.events id := by
      rw [hevents, eventsAfter_of_not_due hid hdue]
    refine h.leaves (.of_eq htable hsame) hnow.ge fun c older _ hw hfirst => ?_
    rw [hupdates] at hfirst ⊢
    have hlt := hw.lt_of_not_due hdue (hw.lt_of_timely hok hfirst)
    rintro u (_ | ⟨_, hu⟩)
    · exact hlt
    · exact lt_of_le_of_lt (hle u hu) hlt

theorem Inv.update (h : s.Inv) {wifi mqtt : Bool} (hok : s.Timely (.update wifi mqtt))
    (hstep : s.step (.update wifi mqtt) = some s') : s'.Inv := by
  obtain ⟨-, -, hevents, -, hupdates, hnow, -⟩ := step_update hstep
  refine ⟨updates_le_cons h.updates_le hupdates hnow, fun id => ?_, fun id h1 h4 => ?_,
    fun id hid => ?_⟩
  · rw [hevents]
    exact served_eventsAfter (h.served id) (h.slot id)
  · exact (h.slot id h1 h4).update ⟨h1, h4⟩ h.updates_le hok hstep
  · rw [hevents, eventsAfter_other hid]
    exact h.other id hid

end

/-! ## Every run -/

theorem inv_start : start.Inv := by
  refine ⟨nofun, fun _ => .nil, fun id _ _ => ?_, fun _ _ => rfl⟩
  exact (slot_idle fun c older hevents => by cases hevents).2 rfl

theorem Inv.step {s s' : Device} {a : Call} (h : s.Inv) (hok : s.Timely a)
    (hstep : s.step a = some s') : s'.Inv := by
  cases a with
  | wait n =>
    obtain rfl := Option.some.inj hstep
    exact h.set (Nat.le_add_right _ _) rfl fun _ => .inl (.of_eq rfl rfl)
  | setImmediate id isOn => exact h.setImmediate hstep
  | queueState id isOn cmdID => exact h.queueState hok hstep
  | queueStateAll isOn => exact h.queueStateAll hstep
  | winkNetworkIndicator =>
    obtain rfl := Option.some.inj hstep
    exact h.set le_rfl rfl fun _ => .inl (.of_eq rfl rfl)
  | update wifi mqtt => exact h.update hok hstep

theorem Inv.debounced {s : Device} (h : s.Inv) : s.Debounced := by
  refine ⟨h.served, fun id c older hevents => ?_⟩
  by_cases hid : 1 ≤ id ∧ id ≤ 4
  · exact ((slot_queued hevents).1 (h.slot id hid.1 hid.2)).none_missed
  · rw [h.other id hid] at hevents
    cases hevents

/-- In every run in which `update` is called often enough, it executes the last command of a table, that
one only, once, and not before 500 ms have passed. -/
theorem debounce_exact {s : Device} (h : Reaches Timely start s) : s.Debounced :=
  (h.invariant inv_start fun _ _ _ hs hok hstep => hs.step hok hstep).debounced

/-- A command is superseded, and the counter wraps before the second one is executed. -/
theorem debounce_exact_wrapped : ∃ s : Device,
    s.events 1 = [.updated 4294967600 [.digitalWrite 1 false, .onStateChanged 1 "cmd_2" false],
      .queued ⟨false, "cmd_2", 4294967100⟩, .queued ⟨true, "cmd_1", 4294966900⟩] ∧ s.Debounced := by
  have hrun : (runIf step Timely [.wait 4294966900, .queueState 1 true "cmd_1", .update true true,
      .wait 200, .queueState 1 false "cmd_2", .wait 300, .update true true, .wait 200,
      .update true true, .wait 100, .update true true] start).map (fun s => s.events 1) =
      some [.updated 4294967600 [.digitalWrite 1 false, .onStateChanged 1 "cmd_2" false],
        .queued ⟨false, "cmd_2", 4294967100⟩, .queued ⟨true, "cmd_1", 4294966900⟩] := by
    decide +kernel
  obtain ⟨s, hs, hevents⟩ := Option.map_eq_some_iff.1 hrun
  exact ⟨s, hevents, debounce_exact (reaches_of_runIf hs)⟩

end Device

end Hardware

end GbcVenue
