import GbcVenue.Interleaving.Guarded
import GbcVenue.Lights.Device
import Mathlib.Logic.Function.Iterate

/-!
# The two tasks of the device

The loop task goes through `Hardware::update` one step at a time, and the MQTT task may queue a command
between any two of its steps. `no_command_lost`: as long as no command comes while its table is served,
nor in a pass whose clock reading is older than it before its table is tested, every accepted command is
executed by a relay write at least 500 ms later unless a newer one for its table supersedes it.
-/

namespace GbcVenue

open Interleaving

namespace Hardware

/-- Where the loop task is in the relay loop of `update` (`main.ino:157-174`), with the moment at which
`currentMillis` was read and the number of the table. -/
inductive LoopTask
  | idle
  | test (read : Nat) (id : Int)
  | write (read : Nat) (id : Int)
  | ack (read : Nat) (id : Int)
  | clear (read : Nat) (id : Int)

def LoopTask.read : LoopTask → Nat
  | .idle => 0
  | .test read _ | .write read _ | .ack read _ | .clear read _ => read

/-- A command for one table: the state and the moment at which it was queued. -/
structure Accepted where
  isOn : Bool
  queued : Nat

/-- A relay write of the loop task. -/
structure RelayWrite where
  isOn : Bool
  moment : Nat

/-- The device at a moment in milliseconds since the boot, which the 32 bits of `millis()` wrap. `acks` is
what was published. No code reads the rest: the commands of each table and the writes to its relay, the
newest first, and the clock readings of the passes of the loop that are over. -/
structure Tasks where
  tables : Tables
  task : LoopTask
  now : Nat
  acks : List UpMessage
  accepted : Int → List Accepted
  writes : Int → List RelayWrite
  passes : List Nat

inductive TaskAction
  | loop
  | tick (n : Nat)
  | queueState (id : Int) (isOn : Bool) (cmdID : String)
  | queueStateAll (isOn : Bool)
  | setImmediate (id : Int) (isOn : Bool)

namespace Tasks

/-- The boot. -/
def start : Tasks := ⟨begin, .idle, 0, [], fun _ => [], fun _ => [], []⟩

/-- `millis()`. -/
def millis (s : Tasks) : UInt32 := .ofNat s.now

/-- The loop goes on to the next table, or the pass is over. -/
def next (s : Tasks) (read : Nat) (id : Int) : Tasks :=
  if id < 4 then { s with task := .test read (id + 1) }
  else { s with task := .idle, passes := read :: s.passes }

/-- One step of the loop task. -/
def loopStep (s : Tasks) : Tasks :=
  match s.task with
  | .idle => { s with task := .test s.now 1 }
  | .test read id =>
    if (s.tables id).due (.ofNat read) then { s with task := .write read id } else s.next read id
  | .write read id => { s with
      tables := Function.update s.tables id { s.tables id with isOn := (s.tables id).targetIsOn }
      writes := Function.update s.writes id (⟨(s.tables id).targetIsOn, s.now⟩ :: s.writes id)
      task := .ack read id }
  | .ack read id => { s with
      acks := s.acks ++ if (s.tables id).commandID ≠ "" then
        [.ack (s.tables id).commandID id (.ofBool (s.tables id).targetIsOn)] else []
      task := .clear read id }
  | .clear read id => { s with
      tables := Function.update s.tables id { s.tables id with pending := false } }.next read id

/-- One action. Those of the MQTT task are atomic. -/
def step (s : Tasks) : TaskAction → Option Tasks
  | .loop => some s.loopStep
  | .tick n => some { s with now := s.now + n }
  | .queueState id isOn cmdID => some { s with
      tables := Hardware.queueState s.tables s.millis id isOn cmdID
      accepted := if 1 ≤ id ∧ id ≤ 4 then
        Function.update s.accepted id (⟨isOn, s.now⟩ :: s.accepted id) else s.accepted }
  | .queueStateAll isOn => some { s with
      tables := Hardware.queueStateAll s.tables s.millis isOn
      accepted := fun id =>
        if 1 ≤ id ∧ id ≤ 4 then ⟨isOn, s.now⟩ :: s.accepted id else s.accepted id }
  | .setImmediate id isOn => some { s with tables := Hardware.setImmediate s.tables id isOn }

/-- A command queued now is not taken for an old one by a pass that read the clock at `read`. -/
def fresh (s : Tasks) (read : Nat) : Bool := UInt32.ofNat read - s.millis < 500

/-- The loop task is not at the table, and if the pass is still to come to it, it leaves a command queued
now alone. -/
def apart (s : Tasks) (id : Int) : Bool :=
  match s.task with
  | .idle => true
  | .test read cur => cur > id || s.fresh read
  | .write read cur | .ack read cur | .clear read cur => cur > id || cur < id && s.fresh read

/-- No command comes in the wrong moment. -/
def undisturbed (s : Tasks) : TaskAction → Bool
  | .queueState id _ _ => !(1 ≤ id ∧ id ≤ 4) || s.apart id
  | .queueStateAll _ => s.apart 1 && s.apart 2 && s.apart 3 && s.apart 4
  | _ => true

abbrev Reaches (ok : Tasks → TaskAction → Prop) : Tasks → Tasks → Prop := GuardedReaches step ok

/-- A relay write of the state of a command, not earlier than 500 ms after it. -/
def Executed (s : Tasks) (id : Int) (c : Accepted) : Prop :=
  ∃ w ∈ s.writes id, w.isOn = c.isOn ∧ c.queued + 500 ≤ w.moment

/-- By the clock of this pass the command is 500 ms old, and `millis()` has not come round since. -/
def DueIn (c : Accepted) (read : Nat) : Prop := c.queued + 500 ≤ read ∧ read < c.queued + 2 ^ 32

/-- The command is in its table's slot, and no pass in which it was due is over. -/
def Waiting (s : Tasks) (id : Int) (c : Accepted) : Prop :=
  (s.tables id).pending ∧ (s.tables id).targetIsOn = c.isOn ∧ ∀ read ∈ s.passes, ¬ DueIn c read

/-- No command is lost. -/
structure NoneLost (s : Tasks) : Prop where
  command : ∀ id, 1 ≤ id → id ≤ 4 → ∀ newer c older, s.accepted id = newer ++ c :: older →
    newer ≠ [] ∨ s.Executed id c ∨ s.Waiting id c
  pass_ends : ∃ n, (loopStep^[n] s).task = .idle

/-! ## The clock -/

/-- A pass with this clock reading does not take the command for an old one before its time. -/
def Unwrapped (c : Accepted) (read : Nat) : Prop :=
  c.queued ≤ read ∨ UInt32.ofNat read - UInt32.ofNat c.queued < 500

/-- A table that is found due has been waiting for 500 ms. -/
theorem old_of_due {t : TableState} {c : Accepted} {read : Nat} (ht : t.timestamp = .ofNat c.queued)
    (hc : Unwrapped c read) (hdue : t.due (.ofNat read)) : c.queued + 500 ≤ read := by
  have hage := ((due_iff ht).1 hdue).2
  rcases hc with hc | hc
  · exact WrappingCounter.le_of_le_age (by decide) hc hage
  · have hlt := UInt32.lt_iff_toNat_lt.1 hc
    rw [WrappingCounter.toNat_ofNat_sub] at hlt
    exact absurd hlt (Nat.not_lt.2 hage)

/-- A table that has been waiting for 500 ms is found due. -/
theorem due_of_dueIn {t : TableState} {c : Accepted} {read : Nat}
    (ht : t.timestamp = .ofNat c.queued) (hpending : t.pending) (hc : DueIn c read) :
    t.due (.ofNat read) := by
  obtain ⟨hold, hyoung⟩ := hc
  exact (due_iff ht).2 ⟨hpending, (WrappingCounter.le_age_iff (by omega) hyoung).2 hold⟩

theorem not_dueIn_of_le {c : Accepted} {read : Nat} (h : read ≤ c.queued) : ¬ DueIn c read := by
  rintro ⟨hold, -⟩
  omega

/-! ## The newest command of a table -/

/-- What holds of a command that waits in its slot while the loop is there. -/
def Placed (id : Int) (c : Accepted) : LoopTask → Prop
  | .idle => True
  | .test read cur => (cur ≤ id → Unwrapped c read) ∧ (id < cur → ¬ DueIn c read)
  | .write read cur => (cur < id → Unwrapped c read) ∧ (cur = id → c.queued + 500 ≤ read) ∧
      (id < cur → ¬ DueIn c read)
  | .ack read cur | .clear read cur => (cur < id → Unwrapped c read) ∧ cur ≠ id ∧
      (id < cur → ¬ DueIn c read)

/-- The command is in its table's slot and will be executed. -/
structure Held (s : Tasks) (id : Int) (c : Accepted) : Prop where
  pending : (s.tables id).pending
  targetIsOn : (s.tables id).targetIsOn = c.isOn
  timestamp : (s.tables id).timestamp = .ofNat c.queued
  passes : ∀ read ∈ s.passes, ¬ DueIn c read
  placed : Placed id c s.task

structure Inv (s : Tasks) : Prop where
  read_le : s.task.read ≤ s.now
  passes_le : ∀ read ∈ s.passes, read ≤ s.now
  queued_le : ∀ id, ∀ c ∈ (s.accepted id).head?, c.queued ≤ s.now
  newest : ∀ id, 1 ≤ id → id ≤ 4 → ∀ c ∈ (s.accepted id).head?, s.Executed id c ∨ s.Held id c

/-! ## The steps of the loop -/

section

variable {s : Tasks} {id : Int} {c : Accepted} {read : Nat} {cur : Int}

/-- A step that leaves the slot of a table and the passes alone. -/
theorem Held.congr {s' : Tasks} (h : s.Held id c) (htable : s'.tables id = s.tables id)
    (hpasses : s'.passes = s.passes) (hplaced : Placed id c s'.task) : s'.Held id c := by
  refine ⟨?_, ?_, ?_, ?_, hplaced⟩
  · rw [htable]
    exact h.pending
  · rw [htable]
    exact h.targetIsOn
  · rw [htable]
    exact h.timestamp
  · rw [hpasses]
    exact h.passes

/-- The loop leaves a table. -/
theorem Held.next (h : s.Held id c) (hbefore : cur < id → Unwrapped c read)
    (hafter : id ≤ cur → ¬ DueIn c read) (hid : id ≤ 4) : (s.next read cur).Held id c := by
  unfold Tasks.next
  split
  · refine h.congr rfl rfl ⟨fun hcur => hbefore ?_, fun hcur => hafter ?_⟩ <;> omega
  · refine ⟨h.pending, h.targetIsOn, h.timestamp, ?_, trivial⟩
    rintro read' (_ | ⟨_, hread'⟩)
    · exact hafter (by omega)
    · exact h.passes read' hread'

theorem next_writes : (s.next read cur).writes = s.writes := by
  unfold Tasks.next
  split <;> rfl

theorem next_accepted : (s.next read cur).accepted = s.accepted := by
  unfold Tasks.next
  split <;> rfl

theorem next_now : (s.next read cur).now = s.now := by
  unfold Tasks.next
  split <;> rfl

theorem Held.begins (h : s.Held id c) (hqueued : c.queued ≤ s.now) (hid : 1 ≤ id) :
    ({ s with task := .test s.now 1 } : Tasks).Held id c :=
  h.congr rfl rfl ⟨fun _ => .inl hqueued, fun hlt => by omega⟩

theorem Held.tests (h : s.Held id c) (hid : id ≤ 4) (htask : s.task = .test read cur) :
    (if (s.tables cur).due (.ofNat read) then { s with task := .write read cur }
      else s.next read cur).Held id c := by
  have hplaced := h.placed
  rw [htask] at hplaced
  obtain ⟨hbefore, hafter⟩ := hplaced
  split
  · rename_i hdue
    refine h.congr rfl rfl ⟨fun hlt => hbefore (by omega), ?_, hafter⟩
    rintro rfl
    exact old_of_due h.timestamp (hbefore le_rfl) hdue
  · rename_i hdue
    refine h.next (fun hlt => hbefore (by omega)) (fun hle => ?_) hid
    by_cases hcur : cur = id
    · subst hcur
      exact fun hdueIn => hdue (due_of_dueIn h.timestamp h.pending hdueIn)
    · exact hafter (by omega)

/-- The relay write executes the command that waits in the slot. -/
theorem Held.writes (h : s.Held id c) (hread : read ≤ s.now) (htask : s.task = .write read cur) :
    s.loopStep.Executed id c ∨ s.loopStep.Held id c := by
  have hplaced := h.placed
  rw [htask] at hplaced
  obtain ⟨hbefore, hat, hafter⟩ := hplaced
  unfold loopStep
  rw [htask]
  by_cases hcur : cur = id
  · subst hcur
    refine .inl ⟨⟨(s.tables cur).targetIsOn, s.now⟩, ?_, h.targetIsOn, (hat rfl).trans hread⟩
    show _ ∈ Function.update s.writes cur _ cur
    rw [Function.update_self]
    exact List.mem_cons_self
  · exact .inr (h.congr (Function.update_of_ne (Ne.symm hcur) _ _) rfl ⟨hbefore, hcur, hafter⟩)

theorem Held.clears (h : s.Held id c) (hid : id ≤ 4) (htask : s.task = .clear read cur) :
    s.loopStep.Held id c := by
  have hplaced := h.placed
  rw [htask] at hplaced
  obtain ⟨hbefore, hcur, hafter⟩ := hplaced
  unfold loopStep
  rw [htask]
  have hheld : ({ s with
      tables := Function.update s.tables cur { s.tables cur with pending := false } } : Tasks).Held
        id c := h.congr (Function.update_of_ne (Ne.symm hcur) _ _) rfl h.placed
  exact hheld.next hbefore (fun hle => hafter (by omega)) hid

/-- A write that was made stays made. -/
theorem Executed.loopStep (h : s.Executed id c) : s.loopStep.Executed id c := by
  obtain ⟨w, hw, hexecuted⟩ := h
  refine ⟨w, ?_, hexecuted⟩
  unfold Tasks.loopStep
  split
  · exact hw
  · split
    · exact hw
    · rwa [next_writes]
  · rename_i read cur _
    show w ∈ Function.update s.writes cur _ id
    by_cases hcur : id = cur
    · subst hcur
      rw [Function.update_self]
      exact List.mem_cons_of_mem _ hw
    · rwa [Function.update_of_ne hcur]
  · exact hw
  · rwa [next_writes]

theorem loopStep_now : s.loopStep.now = s.now := by
  unfold loopStep
  split
  case h_2 => split <;> simp only [next_now]
  all_goals simp only [next_now]

theorem loopStep_accepted : s.loopStep.accepted = s.accepted := by
  unfold loopStep
  split
  case h_2 => split <;> simp only [next_accepted]
  all_goals simp only [next_accepted]

theorem Held.loopStep (h : s.Held id c) (hread : s.task.read ≤ s.now) (hqueued : c.queued ≤ s.now)
    (h1 : 1 ≤ id) (h4 : id ≤ 4) : s.loopStep.Executed id c ∨ s.loopStep.Held id c := by
  cases htask : s.task with
  | idle =>
    unfold Tasks.loopStep
    rw [htask]
    exact .inr (h.begins hqueued h1)
  | test read cur =>
    unfold Tasks.loopStep
    rw [htask]
    exact .inr (h.tests h4 htask)
  | write read cur =>
    rw [htask] at hread
    exact h.writes hread htask
  | ack read cur =>
    have hplaced := h.placed
    unfold Tasks.loopStep
    rw [htask] at hplaced ⊢
    exact .inr (h.congr rfl rfl hplaced)
  | clear read cur => exact .inr (h.clears h4 htask)

/-- The clock readings stay in the past. -/
theorem loopStep_reads (hread : s.task.read ≤ s.now) (hpasses : ∀ read ∈ s.passes, read ≤ s.now) :
    s.loopStep.task.read ≤ s.now ∧ ∀ read ∈ s.loopStep.passes, read ≤ s.now := by
  have hnext : ∀ {s' : Tasks} {read cur}, read ≤ s.now → s'.passes = s.passes →
      (s'.next read cur).task.read ≤ s.now ∧ ∀ read' ∈ (s'.next read cur).passes, read' ≤ s.now := by
    intro s' read cur hread hs'
    unfold Tasks.next
    split
    · exact ⟨hread, by rwa [hs']⟩
    · refine ⟨Nat.zero_le _, ?_⟩
      rintro read' (_ | ⟨_, hread'⟩)
      · exact hread
      · rw [hs'] at hread'
        exact hpasses read' hread'
  unfold Tasks.loopStep
  split
  · exact ⟨le_rfl, hpasses⟩
  · rename_i htask
    rw [htask] at hread
    split
    · exact ⟨hread, hpasses⟩
    · exact hnext hread rfl
  · rename_i htask
    rw [htask] at hread
    exact ⟨hread, hpasses⟩
  · rename_i htask
    rw [htask] at hread
    exact ⟨hread, hpasses⟩
  · rename_i htask
    rw [htask] at hread
    exact hnext hread rfl

theorem Inv.loopStep (h : s.Inv) : s.loopStep.Inv := by
  obtain ⟨hread, hpasses⟩ := loopStep_reads h.read_le h.passes_le
  refine ⟨?_, ?_, fun id c hc => ?_, fun id h1 h4 c hc => ?_⟩
  · rwa [loopStep_now]
  · rwa [loopStep_now]
  · rw [loopStep_accepted] at hc
    rw [loopStep_now]
    exact h.queued_le id c hc
  · rw [loopStep_accepted] at hc
    rcases h.newest id h1 h4 c hc with hexecuted | hheld
    · exact .inl hexecuted.loopStep
    · exact hheld.loopStep h.read_le (h.queued_le id c hc) h1 h4

end

/-! ## The steps of the MQTT task -/

section

variable {s s' : Tasks} {id : Int} {c : Accepted} {isOn : Bool}

/-- A command that comes in time will be executed. -/
theorem placed_of_apart (hread : s.task.read ≤ s.now) (h : s.apart id) :
    Placed id ⟨isOn, s.now⟩ s.task := by
  have hfresh : ∀ {read}, s.fresh read → Unwrapped ⟨isOn, s.now⟩ read := fun hfresh =>
    .inr (of_decide_eq_true hfresh)
  unfold apart at h
  cases htask : s.task with
  | idle => trivial
  | test read cur =>
    rw [htask] at h hread
    simp only [Bool.or_eq_true, decide_eq_true_eq] at h
    refine ⟨fun hle => hfresh ?_, fun _ => not_dueIn_of_le hread⟩
    rcases h with hlt | hfresh
    · omega
    · exact hfresh
  | write read cur | ack read cur | clear read cur =>
    rw [htask] at h hread
    simp only [Bool.or_eq_true, Bool.and_eq_true, decide_eq_true_eq] at h
    refine ⟨fun hlt => hfresh ?_, ?_, fun _ => not_dueIn_of_le hread⟩
    · rcases h with hgt | ⟨-, hfresh⟩
      · omega
      · exact hfresh
    · omega

/-- Nothing happens to what waits for a table. -/
structure Leaves (s s' : Tasks) (id : Int) : Prop where
  pending : (s'.tables id).pending = (s.tables id).pending
  targetIsOn : (s'.tables id).targetIsOn = (s.tables id).targetIsOn
  timestamp : (s'.tables id).timestamp = (s.tables id).timestamp
  accepted : s'.accepted id = s.accepted id

/-- A table gets a command, and in time. -/
structure Accepts (s s' : Tasks) (id : Int) (isOn : Bool) : Prop where
  apart : s.apart id
  pending : (s'.tables id).pending
  targetIsOn : (s'.tables id).targetIsOn = isOn
  timestamp : (s'.tables id).timestamp = s.millis
  accepted : s'.accepted id = ⟨isOn, s.now⟩ :: s.accepted id

/-- An action of the MQTT task sets the tables and the commands. -/
theorem Inv.set (h : s.Inv) {b : Bool} {tables : Tables} {accepted : Int → List Accepted}
    (hqueued : ∀ id, ∀ c ∈ (accepted id).head?, c ∈ (s.accepted id).head? ∨ c.queued = s.now)
    (hids : ∀ id, 1 ≤ id → id ≤ 4 → s.Leaves { s with tables := tables, accepted := accepted } id ∨
      s.Accepts { s with tables := tables, accepted := accepted } id b) :
    ({ s with tables := tables, accepted := accepted } : Tasks).Inv := by
  refine ⟨h.read_le, h.passes_le, fun id c hc => ?_, fun id h1 h4 c hc => ?_⟩
  · rcases hqueued id c hc with hc | hc
    · exact h.queued_le id c hc
    · exact hc.le
  · rcases hids id h1 h4 with hleaves | haccepts
    · rw [hleaves.accepted] at hc
      rcases h.newest id h1 h4 c hc with hexecuted | hheld
      · exact .inl hexecuted
      · exact .inr ⟨hleaves.pending.trans hheld.pending, hleaves.targetIsOn.trans hheld.targetIsOn,
          hleaves.timestamp.trans hheld.timestamp, hheld.passes, hheld.placed⟩
    · rw [haccepts.accepted] at hc
      obtain rfl : ⟨b, s.now⟩ = c := Option.some.inj hc
      exact .inr ⟨haccepts.pending, haccepts.targetIsOn, haccepts.timestamp,
        fun read hread => not_dueIn_of_le (h.passes_le read hread),
        placed_of_apart h.read_le haccepts.apart⟩

theorem Inv.queueState (h : s.Inv) {cmdID : String} (hok : s.undisturbed (.queueState id isOn cmdID))
    (hstep : s.step (.queueState id isOn cmdID) = some s') : s'.Inv := by
  obtain rfl := Option.some.inj hstep
  by_cases hid : 1 ≤ id ∧ id ≤ 4
  · have hapart : s.apart id := by simpa [undisturbed, hid] using hok
    refine h.set (b := isOn) (fun id' c hc => ?_) fun id' _ _ => ?_
    · rw [if_pos hid] at hc
      by_cases hid' : id' = id
      · subst hid'
        rw [Function.update_self] at hc
        obtain rfl : _ = c := Option.some.inj hc
        exact .inr rfl
      · rw [Function.update_of_ne hid'] at hc
        exact .inl hc
    · by_cases hid' : id' = id
      · subst hid'
        have htable := queueState_self s.tables s.millis hid isOn cmdID
        refine .inr ⟨hapart, ?_, ?_, ?_, ?_⟩
        · exact congrArg TableState.pending htable
        · exact congrArg TableState.targetIsOn htable
        · exact congrArg TableState.timestamp htable
        · exact (congrFun (if_pos hid) id').trans (Function.update_self _ _ _)
      · have htable := queueState_other s.tables s.millis hid' isOn cmdID
        refine .inl ⟨?_, ?_, ?_, ?_⟩
        · exact congrArg TableState.pending htable
        · exact congrArg TableState.targetIsOn htable
        · exact congrArg TableState.timestamp htable
        · exact (congrFun (if_pos hid) id').trans (Function.update_of_ne hid' _ _)
  · have htables : Hardware.queueState s.tables s.millis id isOn cmdID = s.tables := if_neg hid
    rw [htables, if_neg hid]
    exact h

theorem Inv.queueStateAll (h : s.Inv) (hok : s.undisturbed (.queueStateAll isOn))
    (hstep : s.step (.queueStateAll isOn) = some s') : s'.Inv := by
  obtain rfl := Option.some.inj hstep
  simp only [undisturbed, Bool.and_eq_true] at hok
  refine h.set (b := isOn) (fun id' c hc => ?_) fun id' h1 h4 => .inr ?_
  · split at hc
    · obtain rfl : _ = c := Option.some.inj hc
      exact .inr rfl
    · exact .inl hc
  · have hid : 1 ≤ id' ∧ id' ≤ 4 := ⟨h1, h4⟩
    have htable : Hardware.queueStateAll s.tables s.millis isOn id' = _ := if_pos hid
    refine ⟨?_, ?_, ?_, ?_, if_pos hid⟩
    · obtain rfl | rfl | rfl | rfl : id' = 1 ∨ id' = 2 ∨ id' = 3 ∨ id' = 4 := by omega
      · exact hok.1.1.1
      · exact hok.1.1.2
      · exact hok.1.2
      · exact hok.2
    · exact congrArg TableState.pending htable
    · exact congrArg TableState.targetIsOn htable
    · exact congrArg TableState.timestamp htable

theorem Inv.setImmediate (h : s.Inv) (hstep : s.step (.setImmediate id isOn) = some s') : s'.Inv := by
  obtain rfl := Option.some.inj hstep
  refine h.set (b := isOn) (fun id' c hc => .inl hc) fun id' _ _ => .inl ?_
  obtain ⟨b, htable⟩ := setImmediate_apply s.tables id isOn id'
  constructor <;> simp only [htable]

end

/-! ## Every run -/

theorem inv_start : start.Inv :=
  ⟨Nat.zero_le _, nofun, nofun, nofun⟩

theorem Inv.step {s s' : Tasks} {a : TaskAction} (h : s.Inv) (hok : s.undisturbed a)
    (hstep : s.step a = some s') : s'.Inv := by
  cases a with
  | loop =>
    obtain rfl := Option.some.inj hstep
    exact h.loopStep
  | tick n =>
    obtain rfl := Option.some.inj hstep
    have hle : s.now ≤ s.now + n := Nat.le_add_right _ _
    refine ⟨h.read_le.trans hle, fun read hread => (h.passes_le read hread).trans hle,
      fun id c hc => (h.queued_le id c hc).trans hle, fun id h1 h4 c hc => ?_⟩
    rcases h.newest id h1 h4 c hc with hexecuted | hheld
    · exact .inl hexecuted
    · exact .inr (hheld.congr rfl rfl hheld.placed)
  | queueState id isOn cmdID => exact h.queueState hok hstep
  | queueStateAll isOn => exact h.queueStateAll hok hstep
  | setImmediate id isOn => exact h.setImmediate hstep

/-- How many steps the pass of the loop still takes at most. -/
def LoopTask.left : LoopTask → Nat
  | .idle => 0
  | .test _ id => 4 * (4 - id).toNat + 4
  | .write _ id => 4 * (4 - id).toNat + 3
  | .ack _ id => 4 * (4 - id).toNat + 2
  | .clear _ id => 4 * (4 - id).toNat + 1

theorem next_left (s : Tasks) (read : Nat) (id : Int) :
    LoopTask.left (s.next read id).task ≤ 4 * (4 - id).toNat := by
  unfold Tasks.next
  split
  · show 4 * (4 - (id + 1)).toNat + 4 ≤ _
    omega
  · exact Nat.zero_le _

theorem loopStep_left {s : Tasks} (h : s.task ≠ .idle) :
    LoopTask.left s.loopStep.task < LoopTask.left s.task := by
  unfold Tasks.loopStep
  cases htask : s.task with
  | idle => exact absurd htask h
  | test read id =>
    dsimp only
    split
    · exact Nat.lt_succ_self _
    · exact (next_left s read id).trans_lt (Nat.lt_add_of_pos_right (by decide))
  | write read id => exact Nat.lt_succ_self _
  | ack read id => exact Nat.lt_succ_self _
  | clear read id => exact (next_left _ read id).trans_lt (Nat.lt_succ_self _)

/-- A pass of the loop ends. -/
theorem pass_ends (s : Tasks) : ∃ n, (Tasks.loopStep^[n] s).task = .idle := by
  induction hleft : LoopTask.left s.task using Nat.strong_induction_on generalizing s with
  | h left ih =>
    by_cases hidle : s.task = .idle
    · exact ⟨0, hidle⟩
    · obtain ⟨n, hn⟩ := ih _ (hleft ▸ loopStep_left hidle) s.loopStep rfl
      exact ⟨n + 1, hn⟩

theorem Inv.noneLost {s : Tasks} (h : s.Inv) : s.NoneLost := by
  refine ⟨fun id h1 h4 newer c older haccepted => ?_, pass_ends s⟩
  cases newer with
  | cons d newer => exact .inl (List.cons_ne_nil d newer)
  | nil =>
    have hhead : c ∈ (s.accepted id).head? := by
      rw [haccepted]
      rfl
    rcases h.newest id h1 h4 c hhead with hexecuted | hheld
    · exact .inr (.inl hexecuted)
    · exact .inr (.inr ⟨hheld.pending, hheld.targetIsOn, hheld.passes⟩)

/-- In every run in which no command comes while the loop serves its table, nor in a pass whose clock
reading is older than it before its table is tested, no command is lost. -/
theorem no_command_lost {s : Tasks} (h : Reaches (fun s a => s.undisturbed a) start s) : s.NoneLost :=
  (h.invariant inv_start fun _ _ _ hs hok hstep => hs.step hok hstep).noneLost

/-- The states of the commands for a table and of the writes to its relay. -/
def seen (s : Tasks) (id : Int) : List (Bool × Nat) × List (Bool × Nat) :=
  ((s.accepted id).map fun c => (c.isOn, c.queued), (s.writes id).map fun w => (w.isOn, w.moment))

/-- The lamp of table 1 is asked for, then all are switched off, and the loop goes on once. -/
theorem no_command_lost_superseded :
    ∃ s : Tasks, s.seen 1 = ([(false, 100), (true, 0)], [(false, 700)]) ∧ s.NoneLost := by
  let actions : List TaskAction := [.queueState 1 true "cmd_1", .loop, .tick 100, .loop, .loop, .loop,
    .loop, .queueStateAll false, .tick 600, .loop, .loop, .loop, .loop, .loop]
  have hrun : (runIf step (fun s a => s.undisturbed a) actions start).map (seen · 1) =
      some ([(false, 100), (true, 0)], [(false, 700)]) := by decide +kernel
  obtain ⟨s, hs, hseen⟩ := Option.map_eq_some_iff.1 hrun
  exact ⟨s, hseen, no_command_lost (reaches_of_runIf hs)⟩

/-- A command that comes between the relay write and the end of the service of its table. -/
theorem command_can_be_lost :
    ¬ ∀ s : Tasks, Reaches (fun _ _ => True) start s → s.NoneLost := by
  intro h
  let actions : List TaskAction := [.queueState 1 true "cmd_1", .tick 500, .loop, .loop, .loop,
    .queueState 1 false "cmd_2", .loop, .loop]
  have hrun : (runIf step (fun _ _ => True) actions start).map
      (fun s => (s.seen 1, (s.tables 1).pending)) =
      some (([(false, 500), (true, 0)], [(true, 500)]), false) := by decide +kernel
  obtain ⟨s, hs, hseen⟩ := Option.map_eq_some_iff.1 hrun
  obtain ⟨hseen, hpending⟩ := Prod.mk.inj hseen
  obtain ⟨haccepted, hwrites⟩ := Prod.mk.inj hseen
  obtain ⟨c, older, hc, hoff, -⟩ := List.map_eq_cons_iff.1 haccepted
  rcases (h s (reaches_of_runIf hs)).command 1 (by decide) (by decide) [] c older hc with
    hnew | ⟨w, hw, hstate, -⟩ | ⟨hwaits, -⟩
  · exact hnew rfl
  · have hmem := List.mem_map_of_mem (f := fun w => (w.isOn, w.moment)) hw
    rw [hwrites, hstate, (Prod.mk.inj hoff).1] at hmem
    cases (Prod.mk.inj (List.mem_singleton.1 hmem)).1
  · rw [hpending] at hwaits
    cases hwaits

end Tasks

end Hardware

end GbcVenue
