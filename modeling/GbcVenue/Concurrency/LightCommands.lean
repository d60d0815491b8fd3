import GbcVenue.Backend.Frame

/-!
# Concurrent light commands

`ActivateTable`, `DeactivateTable` and `SetLightStatus` each write the cache and then send a command,
with no lock over the two. Between its write and its send a call is `Crossed` by another call if that
one writes the opposite state to a table both address; the commands then leave in the other order
than the writes. `last_command_agrees`: without such a crossing the last command for a table asks for
what the cache says. `last_command_disagrees` is a run with one.
-/

namespace GbcVenue

open Interleaving

/-- A call of the table service that commands lights; `none` stands for all tables. -/
inductive LightCall
  | activate (t : TableNo) (booking : CurrentBooking)
  | deactivate (t : TableNo)
  | setLight (t : Option TableNo) (targetState : LightStatus)

namespace LightCall

/-- The table id in the command of a call. -/
def tableID : LightCall → Int
  | activate t _ => t
  | deactivate t => t
  | setLight (some t) _ => t
  | setLight none _ => 0

/-- The state a call asks for. -/
def wants : LightCall → LightState
  | activate .. => .on
  | deactivate _ => .off
  | setLight _ targetState => if targetState = .on then .on else .off

/-- The cache write of a call. -/
def cacheWrite : LightCall → CacheWrite
  | activate t booking => .activateTable t booking
  | deactivate t => .deactivateTable t
  | setLight (some t) targetState => .setLightStatus t targetState
  | setLight none targetState => .setAllLightStatuses targetState

/-- The program of a call. -/
def program : LightCall → Go Unit
  | activate t booking => TableService.activateTable t booking
  | deactivate t => TableService.deactivateTable t
  | setLight (some t) targetState => TableService.setLightStatus t targetState
  | setLight none targetState => TableService.setLightStatus 0 targetState

/-- Every call is one write of the cache and one send. -/
theorem program_eq (call : LightCall) :
    call.program = (TableCache.write call.cacheWrite >>= fun _ =>
      TableService.sendMqttCommand call.tableID call.wants) := by
  rcases call with ⟨t, booking⟩ | t | ⟨_ | t, targetState⟩
  · rfl
  · rfl
  · rfl
  · have ht : (t : Int) ≠ 0 := by
      have := t.2
      omega
    simp [program, TableService.setLightStatus, ht, cacheWrite, tableID, wants,
      TableCache.setLightStatus]

end LightCall

/-- A command for `tableID` addresses table `t`. -/
def Addresses (tableID : Int) (t : TableNo) : Prop := tableID = t ∨ tableID = 0

instance (tableID : Int) (t : TableNo) : Decidable (Addresses tableID t) :=
  inferInstanceAs (Decidable (_ ∨ _))

/-- The pending status of a commanded state. -/
def pendingOf : LightState → LightStatus
  | .on => .pendingOn
  | .off => .pendingOff

/-- The light status of a table in the cache. -/
def lightOf (w : World) (t : TableNo) : LightStatus := (w.tables.get t).lightStatus

/-- The last command in a channel that addresses a table. -/
def lastFor (t : TableNo) (buf : List MqttCommand) : Option MqttCommand :=
  (buf.filter fun cmd => Addresses cmd.tableID t).getLast?

theorem lastFor_append (t : TableNo) (buf : List MqttCommand) (cmd : MqttCommand) :
    lastFor t (buf ++ [cmd]) = if Addresses cmd.tableID t then some cmd else lastFor t buf := by
  unfold lastFor
  by_cases h : Addresses cmd.tableID t <;> simp [h]

theorem addresses_self (t : TableNo) : Addresses t t := .inl rfl

theorem not_addresses {t u : TableNo} (h : t ≠ u) : ¬ Addresses u t := by
  intro hu
  have hpos := u.2
  rcases hu with hu | hu
  · exact h (Subtype.ext hu.symm)
  · omega

theorem lightOf_set (ts : Tables) (t u : TableNo) (s : TableState) :
    ((ts.set u s).get t).lightStatus =
      if Addresses u t then s.lightStatus else (ts.get t).lightStatus := by
  by_cases h : t = u
  · subst h
    rw [if_pos (addresses_self t), Tables.get_set_self]
  · have hne : (t : Int) ≠ u := fun hv => h (Subtype.ext hv)
    rw [if_neg (not_addresses h), Tables.get_set_ne _ _ hne]

/-- The write of a call sets the light of the tables it addresses, and no other. -/
theorem light_after_write (call : LightCall) (ts : Tables) (t : TableNo) :
    ((call.cacheWrite.apply ts).1.get t).lightStatus =
      if Addresses call.tableID t then pendingOf call.wants else (ts.get t).lightStatus := by
  rcases call with ⟨u, booking⟩ | u | ⟨_ | u, targetState⟩
  · exact lightOf_set ts t u _
  · exact lightOf_set ts t u _
  · have ht := t.2
    rw [if_pos (.inr rfl)]
    by_cases hs : targetState = .on <;>
      simp [LightCall.cacheWrite, CacheWrite.apply, Tables.setAllLightStatuses, LightCall.wants,
        pendingOf, Tables.pendingFor, Tables.get, ht, hs]
  · have hpending : pendingOf (LightCall.setLight (some u) targetState).wants =
        Tables.pendingFor targetState := by
      by_cases hs : targetState = .on <;>
        simp [LightCall.wants, pendingOf, Tables.pendingFor, hs]
    rw [hpending]
    exact lightOf_set ts t u _

/-! ## The contract -/

/-- The program of thread `i` when the calls run concurrently. -/
def lightThread (calls : List LightCall) (i : Nat) : Go Unit :=
  match calls[i]? with
  | some call => call.program
  | none => return

/-- The moment at which all the calls start. -/
def startCalls (calls : List LightCall) (w : World) : Config Res Nat World Unit :=
  ⟨w, lightThread calls⟩

/-- The actions of a call between its cache write and its send. -/
def Op.betweenWriteAndSend : Op → Prop
  | .now | .getAll | .sendBroadcast _ => True
  | _ => False

/-- The command channel has room at every send. -/
def neverFull (c : Config Res Nat World Unit) (_ : Nat) : (o : Op) → Res o → Prop
  | .sendMqtt _, _ => c.state.mqttCmdChan.buf.length < c.state.mqttCmdChan.cap
  | _, _ => True

/-- No call writes a state to the cache while another call, which asks the opposite state of a table
both address, is between its cache write and its send. -/
def notCrossed (c : Config Res Nat World Unit) (i : Nat) : (o : Op) → Res o → Prop
  | .write write, _ => ∀ j, j ≠ i → ∀ cmd,
      (c.threads j).Upcoming Op.betweenWriteAndSend (.sendMqtt cmd) →
      ∀ call : LightCall, call.cacheWrite = write → ∀ t, Addresses call.tableID t →
        Addresses cmd.tableID t → call.wants = cmd.lightState
  | _, _ => True

/-- Which calls are between their cache write and their send: the table id and the state of the
command to come. -/
abbrev Midway := Nat → Option (Int × LightState)

/-- The invariant: for a table that no midway call addresses, the last command agrees with the
cache. -/
def LightInv (w : World) (g : Midway) : Prop :=
  ∀ t : TableNo, (∀ i p, g i = some p → ¬ Addresses p.1 t) →
    ∀ cmd, lastFor t w.mqttCmdChan.buf = some cmd → lightOf w t = pendingOf cmd.lightState

/-- What the calls other than `i` may do: they leave its midway entry alone, they only add commands,
and they do not take back the light of a command that it is about to send. -/
structure LightRely (i : Nat) (up : Op → Prop) (w : World) (g : Midway) (w' : World) (g' : Midway) :
    Prop where
  midway : g' i = g i
  grows : ∃ l, w'.mqttCmdChan.buf = w.mqttCmdChan.buf ++ l
  lights : ∀ cmd, up (.sendMqtt cmd) → ∀ t, Addresses cmd.tableID t →
    lightOf w t = pendingOf cmd.lightState → lightOf w' t = pendingOf cmd.lightState

/-- The contract of the light calls. -/
def lightContract : Contract Res Nat World Midway Unit where
  sem := sem fun _ => True
  ok c i o r := neverFull c i o r ∧ notCrossed c i o r
  skip := Op.betweenWriteAndSend
  inv := LightInv
  check _ _ _ _ := True
  rely := LightRely
  rely_refl i up w g := ⟨rfl, ⟨[], by simp⟩, fun _ _ _ _ h => h⟩
  rely_trans i up w g w' g' w'' g'' h h' := by
    obtain ⟨l, hl⟩ := h.grows
    obtain ⟨l', hl'⟩ := h'.grows
    refine ⟨h'.midway.trans h.midway, ⟨l ++ l', by rw [hl', hl, List.append_assoc]⟩, ?_⟩
    intro cmd hup t ht hw
    exact h'.lights cmd hup t ht (h.lights cmd hup t ht hw)
  rely_mono i up up' w g w' g' hmono h :=
    ⟨h.midway, h.grows, fun cmd hup => h.lights cmd (hmono _ hup)⟩

section

variable {i : Nat}

/-- Thread `i` has written `state` for `tableID` and not yet sent the command. -/
def Owes (i : Nat) (tableID : Int) (state : LightState) (w : World) (g : Midway) : Prop :=
  g i = some (tableID, state) ∧ ∀ t, Addresses tableID t → lightOf w t = pendingOf state

/-- Thread `i` is not midway, and its command for `tableID` is in the channel. -/
def Sent (i : Nat) (tableID : Int) (w : World) (g : Midway) : Prop :=
  g i = none ∧ ∃ cmd ∈ w.mqttCmdChan.buf, cmd.tableID = tableID

/-- A debt survives the other calls as long as its send lies ahead. -/
theorem owes_stable {α : Type} {p : Go α} {tableID : Int} {state : LightState} {w w' : World}
    {g g' : Midway} {cmd : MqttCommand} (hup : p.Upcoming Op.betweenWriteAndSend (.sendMqtt cmd))
    (hcmd : cmd.tableID = tableID ∧ cmd.lightState = state)
    (h : LightRely i (p.Upcoming Op.betweenWriteAndSend) w g w' g')
    (ho : Owes i tableID state w g) : Owes i tableID state w' g' := by
  obtain ⟨rfl, rfl⟩ := hcmd
  refine ⟨h.midway.trans ho.1, ?_⟩
  intro t ht
  exact h.lights cmd hup t ht (ho.2 t ht)

theorem sent_stable {up : Op → Prop} {tableID : Int} {w w' : World} {g g' : Midway}
    (h : LightRely i up w g w' g') (hs : Sent i tableID w g) : Sent i tableID w' g' := by
  obtain ⟨hg, cmd, hcmd, ht⟩ := hs
  obtain ⟨l, hl⟩ := h.grows
  refine ⟨h.midway.trans hg, cmd, ?_, ht⟩
  rw [hl]
  exact List.mem_append_left l hcmd

/-- An action between the write and the send changes neither lights nor commands. -/
theorem between_step {o : Op} (ho : o.betweenWriteAndSend) {e : Env} {w w' : World} {r : Res o}
    (h : perform i e o w = some (r, w')) :
    w'.tables = w.tables ∧ w'.mqttCmdChan = w.mqttCmdChan := by
  have hapart : o.apart := by cases o <;> first | rfl | cases ho
  obtain ⟨-, -, hsame⟩ := perform_frame h
  exact hsame hapart

/-- The rule for an action between the write and the send. -/
theorem between_triple {α : Type} {o : Op} {k : Res o → Go α} {tableID : Int} {state : LightState}
    {Q : α → World → Midway → Prop} (ho : o.betweenWriteAndSend)
    (hup : ∃ cmd, (Prog.act o k).Upcoming Op.betweenWriteAndSend (.sendMqtt cmd) ∧
      cmd.tableID = tableID ∧ cmd.lightState = state)
    (hk : ∀ r, lightContract.Triple i (Owes i tableID state) (k r) Q) :
    lightContract.Triple i (Owes i tableID state) (.act o k) Q := by
  obtain ⟨cmd, hup, hcmd⟩ := hup
  refine .act (fun _ => Owes i tableID state) ?_ (fun _ _ _ _ => trivial) ?_ hk
  · intro w g w' g' hr _ ho
    exact owes_stable hup hcmd hr ho
  · intro threads w g r w' hinv howes hsem _
    obtain ⟨e, -, hperf⟩ := hsem
    obtain ⟨htables, hchan⟩ := between_step ho hperf
    have hlight : ∀ t, lightOf w' t = lightOf w t := by
      intro t
      rw [lightOf, htables, lightOf]
    refine ⟨g, ?_, ?_, howes.1, ?_⟩
    · intro t hmid c hc
      rw [hchan] at hc
      rw [hlight]
      exact hinv t hmid c hc
    · intro j _
      refine ⟨rfl, ⟨[], by rw [hchan, List.append_nil]⟩, ?_⟩
      intro c _ t _ hl
      rw [hlight]
      exact hl
    · intro t ht
      rw [hlight]
      exact howes.2 t ht

/-- The rule for the cache write of a call. -/
theorem write_triple {α : Type} (call : LightCall) {k : Bool → Go α}
    {Q : α → World → Midway → Prop}
    (hk : ∀ r, lightContract.Triple i (Owes i call.tableID call.wants) (k r) Q) :
    lightContract.Triple i (fun _ g => g i = none) (.act (Op.write call.cacheWrite) k) Q := by
  refine .act (fun _ => Owes i call.tableID call.wants) ?_ (fun _ _ _ _ => trivial) ?_ hk
  · intro w g w' g' hr _ hg
    exact hr.midway.trans hg
  · intro threads w g r w' hinv hg hsem hok
    obtain ⟨e, -, hperf⟩ := hsem
    obtain ⟨rfl, rfl⟩ := perform_write hperf
    have hlight := light_after_write call w.tables
    refine ⟨Function.update g i (some (call.tableID, call.wants)), ?_, ?_, ?_, ?_⟩
    · intro t hmid cmd hcmd
      -- the call itself is midway now, so it does not address `t`
      have ht : ¬ Addresses call.tableID t := hmid i (call.tableID, call.wants) (by simp)
      rw [lightOf, hlight, if_neg ht]
      refine hinv t ?_ cmd hcmd
      intro j p hj
      have hne : j ≠ i := by
        intro hji
        rw [hji, hg] at hj
        cases hj
      exact hmid j p (by simpa [hne] using hj)
    · intro j hj
      refine ⟨by simp [hj], ⟨[], by simp⟩, ?_⟩
      intro cmd hup t ht hl
      rw [lightOf, hlight]
      by_cases haddr : Addresses call.tableID t
      · rw [if_pos haddr, hok.2 j hj cmd hup call rfl t haddr ht]
      · rw [if_neg haddr]
        exact hl
    · simp
    · intro t ht
      rw [lightOf, hlight, if_pos ht]

/-- The rule for the send of a call. -/
theorem send_triple {tableID : Int} {state : LightState} {commandID : String} :
    lightContract.Triple i (Owes i tableID state)
      (.act (Op.sendMqtt ⟨commandID, tableID, state⟩) .ret) fun _ => Sent i tableID := by
  refine .act (fun _ => Sent i tableID) ?_ (fun _ _ _ _ => trivial) ?_ ?_
  · intro w g w' g' hr _ ho
    exact owes_stable (.here _ _) ⟨rfl, rfl⟩ hr ho
  · intro threads w g r w' hinv howes hsem hok
    obtain ⟨e, -, hperf⟩ := hsem
    cases hperf
    have hroom : w.mqttCmdChan.buf.length < w.mqttCmdChan.cap := hok.1
    have hbuf : (w.mqttCmdChan.trySend ⟨commandID, tableID, state⟩).buf =
        w.mqttCmdChan.buf ++ [⟨commandID, tableID, state⟩] := by
      rw [Chan.trySend, if_pos hroom]
    refine ⟨Function.update g i none, ?_, ?_, ?_, ?_⟩
    · intro t hmid cmd hcmd
      rw [hbuf, lastFor_append] at hcmd
      by_cases haddr : Addresses tableID t
      · rw [if_pos haddr] at hcmd
        cases hcmd
        exact howes.2 t haddr
      · rw [if_neg haddr] at hcmd
        refine hinv t ?_ cmd hcmd
        intro j p hj
        by_cases hji : j = i
        · rw [hji, howes.1] at hj
          cases hj
          exact haddr
        · exact hmid j p (by simpa [hji] using hj)
    · intro j hj
      exact ⟨by simp [hj], ⟨_, hbuf⟩, fun _ _ _ _ h => h⟩
    · simp
    · refine ⟨⟨commandID, tableID, state⟩, ?_, rfl⟩
      rw [hbuf]
      simp
  · intro r
    refine .ret ?_ fun _ _ _ h => h
    intro up w g w' g' hr _ hs
    exact sent_stable hr hs

/-- A call keeps the contract, and has sent its command when it returns. -/
theorem call_triple (call : LightCall) :
    lightContract.Triple i (fun _ g => g i = none) call.program
      fun _ => Sent i call.tableID := by
  rw [call.program_eq, TableCache.write]
  have hsend : lightContract.Triple i (Owes i call.tableID call.wants)
      (TableService.sendMqttCommand call.tableID call.wants) fun _ => Sent i call.tableID := by
    refine between_triple trivial ⟨_, .later (0 : Int) trivial (.here _ _), rfl, rfl⟩ ?_
    intro now
    exact send_triple
  refine write_triple call fun broadcasts => ?_
  cases broadcasts with
  | false => exact hsend
  | true =>
    refine between_triple trivial ⟨_, .later ([] : List TableState) trivial
      (.later () trivial (.later (0 : Int) trivial (.here _ _))), rfl, rfl⟩ ?_
    intro snapshot
    refine between_triple trivial ⟨_, .later () trivial (.later (0 : Int) trivial (.here _ _)),
      rfl, rfl⟩ ?_
    intro _
    exact hsend

end

/-- In every interleaving of light calls that never fills the channel and in which no call crosses
another, once all have returned, the last command for a table asks for ON exactly if the cache says
PENDING-ON; and there is one for every table that a call addressed. -/
theorem last_command_agrees (calls : List LightCall) {w₀ : World} {c : Config Res Nat World Unit}
    (hempty : w₀.mqttCmdChan.buf = [])
    (h : Reaches (sem fun _ => True) (fun c i o r => neverFull c i o r ∧ notCrossed c i o r)
      (startCalls calls w₀) c)
    (hdone : ∀ i < calls.length, c.threads i = .ret ()) (t : TableNo) :
    (∀ cmd, lastFor t c.state.mqttCmdChan.buf = some cmd →
      (cmd.lightState = .on ↔ lightOf c.state t = .pendingOn)) ∧
    ((∃ call ∈ calls, Addresses call.tableID t) →
      lastFor t c.state.mqttCmdChan.buf ≠ none) := by
  have hinv₀ : LightInv w₀ fun _ => none := by
    intro t _ cmd hcmd
    rw [hempty] at hcmd
    cases hcmd
  have hsafe₀ : ∀ i, lightContract.Safe i (lightThread calls i)
      (fun _ w g => match calls[i]? with
        | some call => Sent i call.tableID w g
        | none => g i = none) w₀ fun _ => none := by
    intro i
    unfold lightThread
    cases hcall : calls[i]? with
    | some call => exact call_triple call w₀ _ hinv₀ rfl
    | none =>
      intro w g hr _
      exact hr.midway
  obtain ⟨g, hinv, hsafe⟩ := Contract.sound (c := startCalls calls w₀) hinv₀ hsafe₀ h
  have hresult : ∀ i, match calls[i]? with
      | some call => Sent i call.tableID c.state g
      | none => g i = none := by
    intro i
    have hsafe_i := hsafe i
    by_cases hi : i < calls.length
    · rw [hdone i hi] at hsafe_i
      exact hsafe_i.result hinv
    · have hret : c.threads i = .ret () :=
        Reaches.returned h (by simp [startCalls, lightThread, Nat.le_of_not_lt hi])
      rw [hret] at hsafe_i
      exact hsafe_i.result hinv
  have hidle : ∀ i, g i = none := by
    intro i
    have hi := hresult i
    cases hcall : calls[i]? with
    | some call =>
      rw [hcall] at hi
      exact hi.1
    | none =>
      rw [hcall] at hi
      exact hi
  constructor
  · intro cmd hcmd
    have hlight := hinv t (by simp [hidle]) cmd hcmd
    rw [hlight]
    cases cmd.lightState <;> simp [pendingOf]
  · rintro ⟨call, hcall, haddr⟩ hnone
    obtain ⟨i, hi⟩ := List.getElem?_of_mem hcall
    have hsent := hresult i
    rw [hi] at hsent
    obtain ⟨-, cmd, hmem, hid⟩ := hsent
    rw [lastFor, List.getLast?_eq_none_iff, List.filter_eq_nil_iff] at hnone
    exact hnone cmd hmem (by simpa [hid] using haddr)

/-! ## Runs on fixed inputs -/

def tableOne : TableNo := ⟨1, by decide⟩

/-- A booking as the cache shows it. -/
def annsHour : CurrentBooking :=
  ⟨(ObjectID.ofNat 7).hex, "Ann", "0", "2030-01-01T10:00:00Z", "2030-01-01T11:00:00Z", 60, 0, false⟩

/-- Any clock, without faults. -/
def anyTime : Env := ⟨0, .zero, none, 0⟩

/-- `neverFull` as a check. -/
def hasRoom (c : Config Res Nat World Unit) (_ : Nat) : (o : Op) → Res o → Bool
  | .sendMqtt _, _ => c.state.mqttCmdChan.buf.length < c.state.mqttCmdChan.cap
  | _, _ => true

theorem neverFull_of_hasRoom {c : Config Res Nat World Unit} {i : Nat} {o : Op} {r : Res o}
    (h : hasRoom c i o r) : neverFull c i o r := by
  cases o with
  | sendMqtt cmd => simpa [hasRoom, neverFull] using h
  | _ => trivial

/-- A thread that has returned or is yet to write the cache. -/
def notMidway : Go Unit → Bool
  | .ret _ => true
  | .act (.write _) _ => true
  | .act _ _ => false

theorem not_upcoming_of_notMidway {p : Go Unit} (h : notMidway p) (cmd : MqttCommand) :
    ¬ p.Upcoming Op.betweenWriteAndSend (.sendMqtt cmd) := by
  intro hup
  cases p with
  | ret a => exact Prog.not_upcoming_ret a _ hup
  | act o k =>
    cases o with
    | write write =>
      rcases Prog.upcoming_act.1 hup with heq | ⟨hskip, -⟩
      · cases heq
      · exact hskip
    | _ => cases h

/-- Two calls one after the other: the table is activated, then deactivated. -/
theorem last_command_agrees_in_turn : ∃ c : Config Res Nat World Unit,
    c.state.mqttCmdChan.buf.length = 2 ∧
    ∀ cmd, lastFor tableOne c.state.mqttCmdChan.buf = some cmd →
      (cmd.lightState = .on ↔ lightOf c.state tableOne = .pendingOn) := by
  let calls : List LightCall := [.activate tableOne annsHour, .deactivate tableOne]
  let schedule : List (Nat × Env) := List.replicate 5 (0, anyTime) ++ List.replicate 5 (1, anyTime)
  let adm (c : Config Res Nat World Unit) (i : Nat) (o : Op) (r : Res o) : Bool :=
    hasRoom c i o r && decide (i < 2) && notMidway (c.threads (1 - i))
  have hrun : ((startCalls calls (World.start .empty none 0)).exec perform adm schedule).map
      (fun c => (c.state.mqttCmdChan.buf.length, c.result 0, c.result 1)) =
      some (2, some (), some ()) := by decide +kernel
  obtain ⟨c, hc, hend⟩ := Option.map_eq_some_iff.1 hrun
  simp only [Prod.mk.injEq] at hend
  have hreach : Reaches (sem fun _ => True) (fun c i o r => neverFull c i o r ∧ notCrossed c i o r)
      (startCalls calls (World.start .empty none 0)) c := by
    refine Config.reaches_of_exec (I := fun c => ∀ j, 2 ≤ j → c.threads j = .ret ())
      (fun p _ i o s r s' h => ⟨p.2, trivial, h⟩) ?_ ?_ ?_ hc
    · intro c c' hstep hidle j hj
      exact Reaches.returned (.single hstep) (hidle j hj)
    · intro c i o r hidle hadm
      simp only [adm, Bool.and_eq_true, decide_eq_true_eq] at hadm
      refine ⟨neverFull_of_hasRoom hadm.1.1, ?_⟩
      cases o with
      | write write =>
        intro j hj cmd hup
        have hmid : notMidway (c.threads j) := by
          by_cases h2 : 2 ≤ j
          · rw [hidle j h2]
            rfl
          · have hother : j = 1 - i := by
              have := hadm.1.2
              omega
            rw [hother]
            exact hadm.2
        exact absurd hup (not_upcoming_of_notMidway hmid cmd)
      | _ => trivial
    · intro j hj
      have hnone : calls[j]? = none := List.getElem?_eq_none hj
      simp [startCalls, lightThread, hnone]
  have hdone : ∀ i < calls.length, c.threads i = .ret () :=
    Config.threads_of_two hend.2.1 hend.2.2
  exact ⟨c, hend.1, (last_command_agrees calls rfl hreach hdone tableOne).1⟩

/-- Without that condition it fails: a deactivation writes first and sends last, and the table that
the cache shows BUSY and PENDING-ON is told OFF. -/
theorem last_command_can_disagree :
    ¬ ∀ (calls : List LightCall) (w₀ : World) (c : Config Res Nat World Unit),
      w₀.mqttCmdChan.buf = [] → Reaches (sem fun _ => True) neverFull (startCalls calls w₀) c →
      (∀ i < calls.length, c.threads i = .ret ()) → ∀ t cmd,
        lastFor t c.state.mqttCmdChan.buf = some cmd →
        (cmd.lightState = .on ↔ lightOf c.state t = .pendingOn) := by
  intro hclaim
  let calls : List LightCall := [.deactivate tableOne, .activate tableOne annsHour]
  let schedule : List (Nat × Env) := List.replicate 1 (0, anyTime) ++
    List.replicate 5 (1, anyTime) ++ List.replicate 4 (0, anyTime)
  have hrun : ((startCalls calls (World.start .empty none 0)).exec perform hasRoom schedule).map
      (fun c => (c.result 0, c.result 1, lightOf c.state tableOne,
        (lastFor tableOne c.state.mqttCmdChan.buf).map MqttCommand.lightState)) =
      some (some (), some (), .pendingOn, some .off) := by decide +kernel
  obtain ⟨c, hc, hend⟩ := Option.map_eq_some_iff.1 hrun
  simp only [Prod.mk.injEq] at hend
  obtain ⟨h₀, h₁, hlight, hlast⟩ := hend
  obtain ⟨cmd, hcmd, hoff⟩ := Option.map_eq_some_iff.1 hlast
  have hreach : Reaches (sem fun _ => True) neverFull
      (startCalls calls (World.start .empty none 0)) c :=
    Config.reaches_of_exec (I := fun _ => True) (fun p _ i o s r s' h => ⟨p.2, trivial, h⟩)
      (fun _ _ _ _ => trivial) (fun c i o r _ h => neverFull_of_hasRoom h) trivial hc
  have hdone : ∀ i < calls.length, c.threads i = .ret () := Config.threads_of_two h₀ h₁
  have hagree := hclaim calls _ c rfl hreach hdone tableOne cmd hcmd
  rw [hoff, hlight] at hagree
  exact absurd (hagree.2 rfl) (by decide)

end GbcVenue
