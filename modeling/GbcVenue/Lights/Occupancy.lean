import GbcVenue.Lights.Protocol

/-!
# Lights that go with the tables

The light protocol when its commands come from calls that make a table BUSY or AVAILABLE, and overrides
of some tables. `Lit` is what every step keeps: for a table that nobody overrides the last command, or
without one the cache, asks for the light while the table is BUSY, and the relay is on its way to what
the last command that was published asks. `Lit.at_rest`: at rest the light is on exactly then.
-/

namespace GbcVenue

open Interleaving MqttClient

/-- The state that the light of a table should have. -/
def wanted (ts : Tables) (t : TableNo) : LightState := LightState.ofBool ((ts.get t).status = .busy)

theorem LightState.ofBool_inj {b c : Bool} : ofBool b = ofBool c ↔ b = c := by
  cases b <;> cases c <;> simp [ofBool]

/-- The state that a relay is in, or on its way to. -/
def Hardware.TableState.aim (table : Hardware.TableState) : Bool :=
  if table.pending then table.targetIsOn else table.isOn

namespace LightSystem

/-- The state that was asked of a table last: by a command, or by what the cache tells the device. -/
def asked (s : LightSystem) (t : TableNo) : LightState :=
  match lastFor t (s.published ++ s.mqttCmdChan) with
  | some cmd => cmd.lightState
  | none => toldState (s.light t)

/-- Once the messages are received, the relay of the table aims at `state`: it does so now, or a command
for the table asks that, and what comes after says nothing else. -/
def Heads (t : TableNo) (state : LightState) (table : Hardware.TableState) (down : List DownMessage) :
    Prop :=
  (table.aim = state.isOn ∧ ∀ msg ∈ down, Quiet t state msg) ∨
  ∃ before commandID tableID after, down = before ++ .set commandID tableID state :: after ∧
    Addresses tableID t ∧ ∀ msg ∈ after, Quiet t state msg

/-- The steps that go through the cache: a call of the table service, and the handling of a message. -/
def Action.ofBackend : Action → Bool
  | .write .. | .send _ | .handle => true
  | _ => false

structure Lit (byHand : Int → Prop) (s : LightSystem) : Prop where
  inv : s.Inv
  sending : s.sending = []
  acks : ∀ commandID tableID lightState, .ack commandID tableID lightState ∈ s.up →
    0 ≤ tableID ∧ tableID ≤ 4
  heads : ∀ (t : TableNo) (cmd : MqttCommand), ¬ s.Waiting t → lastFor t s.published = some cmd →
    Heads t cmd.lightState (s.device t) s.down
  asked : ∀ t : TableNo, ¬ byHand t → ¬ byHand 0 → s.asked t = wanted s.tables t

variable {byHand : Int → Prop} {s s' : LightSystem} {t : TableNo} {state : LightState}

/-! ## Commands -/

theorem lastFor_append_list (l l' : List MqttCommand) :
    lastFor t (l ++ l') = (lastFor t l').or (lastFor t l) := by
  rw [lastFor, List.filter_append, List.getLast?_append, lastFor, lastFor]

theorem lastFor_eq_none {l : List MqttCommand} :
    lastFor t l = none ↔ ∀ cmd ∈ l, ¬ Addresses cmd.tableID t := by
  simp [lastFor]

theorem asked_of_some {cmd : MqttCommand}
    (h : lastFor t (s.published ++ s.mqttCmdChan) = some cmd) : s.asked t = cmd.lightState := by
  rw [LightSystem.asked, h]

theorem asked_of_none (h : lastFor t (s.published ++ s.mqttCmdChan) = none) :
    s.asked t = toldState (s.light t) := by
  rw [LightSystem.asked, h]

theorem asked_congr (hcmds : lastFor t (s'.published ++ s'.mqttCmdChan) =
      lastFor t (s.published ++ s.mqttCmdChan)) (hlight : s'.light t = s.light t) :
    s'.asked t = s.asked t := by
  rw [LightSystem.asked, LightSystem.asked, hcmds, hlight]

/-! ## The device -/

theorem Heads.append {table : Hardware.TableState} {down msgs : List DownMessage}
    (h : Heads t state table down) (hmsgs : ∀ msg ∈ msgs, Quiet t state msg) :
    Heads t state table (down ++ msgs) := by
  rcases h with ⟨haim, hdown⟩ | ⟨before, commandID, tableID, after, rfl, haddr, hafter⟩
  · exact .inl ⟨haim, quiet_append hdown hmsgs⟩
  · refine .inr ⟨before, commandID, tableID, after ++ msgs, ?_, haddr, quiet_append hafter hmsgs⟩
    rw [List.append_assoc, List.cons_append]

theorem Heads.receive {ts : Hardware.Tables} {millis : UInt32} {msg : DownMessage}
    {rest : List DownMessage} (h : Heads t state (ts t) (msg :: rest)) :
    Heads t state ((Hardware.eventData ts millis msg).1 t) rest := by
  rcases h with ⟨haim, hdown⟩ | ⟨before, commandID, tableID, after, hsplit, haddr, hafter⟩
  · refine .inl ⟨?_, fun m hm => hdown m (List.mem_cons_of_mem _ hm)⟩
    rcases (eventData_quiet ts millis (hdown msg List.mem_cons_self)).1 with hrelay | hrelay
    · rw [hrelay]
      exact haim
    · -- a sync sets the relay and leaves a pending change as it is
      rw [hrelay]
      unfold Hardware.TableState.aim at haim ⊢
      dsimp only
      split
      · rename_i hpending
        rwa [if_pos hpending] at haim
      · rfl
  · rcases before with _ | ⟨first, before⟩
    · rw [List.nil_append, List.cons.injEq] at hsplit
      obtain ⟨rfl, rfl⟩ := hsplit
      obtain ⟨hpending, htarget, -⟩ := eventData_command ts millis commandID state haddr
      refine .inl ⟨?_, hafter⟩
      rw [Hardware.TableState.aim, if_pos hpending, htarget]
    · rw [List.cons_append, List.cons.injEq] at hsplit
      exact .inr ⟨before, commandID, tableID, after, hsplit.2, haddr, hafter⟩

theorem aim_update (ts : Hardware.Tables) (millis : UInt32) :
    ((Hardware.update ts millis).1 t).aim = (ts t).aim := by
  rw [Hardware.update_apply ts millis t.2]
  split
  · rename_i hdue
    simp [Hardware.TableState.aim, Hardware.pending_of_due hdue]
  · rfl

theorem Heads.update {ts : Hardware.Tables} {down : List DownMessage} (millis : UInt32)
    (h : Heads t state (ts t) down) : Heads t state ((Hardware.update ts millis).1 t) down :=
  h.imp_left fun hnow => ⟨(aim_update ts millis).trans hnow.1, hnow.2⟩

/-! ## The cache -/

theorem told_untouched {status : LightStatus}
    (h : status = pendingOf state ∨ status = statusOf state) : toldState status = state := by
  rcases h with rfl | rfl
  · exact toldState_pendingOf state
  · exact toldState_statusOf state

/-- An ack or a sync ack leaves what the cache tells of a table that has had no command. -/
theorem told_handle (h : s.Inv) {msg : UpMessage} (hmsg : msg ∈ s.up)
    (hwaiting : ¬ s.Waiting t) (hnone : lastFor t s.published = none) :
    toldState (confirmedLight t (s.light t) msg) = toldState (s.light t) := by
  rcases h.followed t hwaiting with ⟨state, hu⟩ | ⟨cmd, hlast, -⟩
  · have hafter := (confirmedLight_untouched (hu.up msg hmsg) hu.light).1
    rw [told_untouched hafter, told_untouched hu.light]
  · rw [hnone] at hlast
    cases hlast

theorem status_after_write {call : LightCall} (ts : Tables) (h : ¬ Addresses call.tableID t) :
    ((call.cacheWrite.apply ts).1.get t).status = (ts.get t).status := by
  rcases call with ⟨u, booking⟩ | u | ⟨_ | u, targetState⟩
  · exact congrArg _ (Tables.get_set_ne ts _ fun hu => h (.inl hu.symm))
  · exact congrArg _ (Tables.get_set_ne ts _ fun hu => h (.inl hu.symm))
  · exact absurd (.inr rfl) h
  · exact congrArg _ (Tables.get_set_ne ts _ fun hu => h (.inl hu.symm))

/-- A call that is no override makes the table as it commands the light. -/
theorem wanted_after_write {call : LightCall} (ts : Tables) (haddr : Addresses call.tableID t)
    (hcall : ∀ u state, call ≠ .setLight u state) :
    wanted (call.cacheWrite.apply ts).1 t = call.wants := by
  have hself : ∀ u : TableNo, Addresses u t → u = t := fun u hu =>
    Subtype.ext (hu.resolve_right (by have := u.2; omega))
  rcases call with ⟨u, booking⟩ | u | ⟨u, targetState⟩
  · obtain rfl := hself u haddr
    simp [wanted, LightCall.cacheWrite, CacheWrite.apply, Tables.activateTable, LightCall.wants,
      LightState.ofBool]
  · obtain rfl := hself u haddr
    simp [wanted, LightCall.cacheWrite, CacheWrite.apply, Tables.deactivateTable, LightCall.wants,
      LightState.ofBool]
  · exact absurd rfl (hcall u targetState)

/-! ## What each step keeps -/

/-- A step that leaves the cache, the commands and what is on its way to a table's relay alone. -/
theorem Lit.aside (h : s.Lit byHand) (hinv : s'.Inv) (hsending : s'.sending = s.sending)
    (hchan : s'.mqttCmdChan = s.mqttCmdChan) (hpublished : s'.published = s.published)
    (htables : s'.tables = s.tables)
    (hacks : ∀ commandID tableID lightState, .ack commandID tableID lightState ∈ s'.up →
      0 ≤ tableID ∧ tableID ≤ 4)
    (hheads : ∀ (t : TableNo) (cmd : MqttCommand), ¬ s.Waiting t → lastFor t s.published = some cmd →
      Heads t cmd.lightState (s.device t) s.down → Heads t cmd.lightState (s'.device t) s'.down) :
    s'.Lit byHand := by
  refine ⟨hinv, hsending.trans h.sending, hacks, ?_, ?_⟩
  · intro t cmd hwaiting hlast
    rw [Waiting, hsending, hchan] at hwaiting
    rw [hpublished] at hlast
    exact hheads t cmd hwaiting hlast (h.heads t cmd hwaiting hlast)
  · intro t hhand hall
    have hasked : s'.asked t = s.asked t :=
      asked_congr (by rw [hchan, hpublished]) (by rw [light, light, htables])
    rw [hasked, htables]
    exact h.asked t hhand hall

theorem Lit.publishCommand (h : s.Lit byHand) (hstep : s.step .publishCommand = some s') :
    s'.Lit byHand := by
  have hinv := h.inv.publishCommand hstep
  rcases hchan : s.mqttCmdChan with _ | ⟨cmd, rest⟩
  · simp only [step, hchan] at hstep
    cases hstep
  simp only [step, hchan, Option.some.injEq] at hstep
  have hdown : s'.down = s.down ++ [.set cmd.commandID cmd.tableID cmd.lightState] := by
    rw [← hstep]
    rfl
  have hpublished : s'.published = s.published ++ [cmd] := by rw [← hstep]
  have hrest : s'.mqttCmdChan = rest := by rw [← hstep]
  have htables : s'.tables = s.tables := by rw [← hstep]
  have hdevice : s'.device = s.device := by rw [← hstep]
  have hup : s'.up = s.up := by rw [← hstep]
  have hsending : s'.sending = s.sending := by rw [← hstep]
  refine ⟨hinv, hsending.trans h.sending, by rw [hup]; exact h.acks, ?_, ?_⟩
  · intro t last hwaiting hlast
    rw [hdevice, hdown]
    rw [hpublished, lastFor_append] at hlast
    by_cases haddr : Addresses cmd.tableID t
    · rw [if_pos haddr] at hlast
      cases hlast
      exact .inr ⟨s.down, _, _, [], rfl, haddr, fun _ hmem => absurd hmem List.not_mem_nil⟩
    · rw [if_neg haddr] at hlast
      have hbefore : ¬ s.Waiting t := by
        rintro ⟨c, hc, hc'⟩
        rw [h.sending, hchan, List.nil_append] at hc
        rcases List.mem_cons.1 hc with rfl | hc
        · exact haddr hc'
        · exact hwaiting ⟨c, List.mem_append_right _ (hrest ▸ hc), hc'⟩
      refine (h.heads t last hbefore hlast).append fun msg hmsg => ?_
      rw [List.mem_singleton.1 hmsg]
      exact haddr
  · intro t hhand hall
    have hasked : s'.asked t = s.asked t :=
      asked_congr (by rw [hpublished, hrest, hchan, List.append_assoc]; rfl)
        (by rw [light, light, htables])
    rw [hasked, htables]
    exact h.asked t hhand hall

theorem acks_eventData {ts : Hardware.Tables} {millis : UInt32} {msg : DownMessage}
    {commandID : String} {tableID : Int} {lightState : LightState}
    (h : .ack commandID tableID lightState ∈ (Hardware.eventData ts millis msg).2) :
    0 ≤ tableID ∧ tableID ≤ 4 := by
  cases msg with
  | sync cmdID tables => cases List.mem_singleton.1 h
  | set cmdID u state =>
    simp only [Hardware.eventData] at h
    split at h
    · cases List.mem_singleton.1 h
      omega
    · cases h

theorem Lit.link (h : s.Lit byHand) {a : Action} (ha : a.ofBackend = false) (hok : s.InTurn a)
    (hstep : s.step a = some s') : s'.Lit byHand := by
  have hinv := h.inv.step hok hstep
  cases a with
  | write call now => cases ha
  | send n => cases ha
  | publishCommand => exact h.publishCommand hstep
  | snapshot =>
    cases hstep
    exact h.aside hinv rfl rfl rfl rfl h.acks fun _ _ _ _ hheads => hheads
  | publishSync k now =>
    obtain ⟨snapshot, hsnapshot, rfl⟩ := Option.map_eq_some_iff.1 hstep
    refine h.aside hinv rfl rfl rfl rfl h.acks fun t cmd hwaiting hlast hheads => ?_
    refine hheads.append fun msg hmsg => ?_
    rw [List.mem_singleton.1 hmsg]
    exact hok snapshot hsnapshot t hwaiting cmd hlast
  | requestSync =>
    cases hstep
    refine h.aside hinv rfl rfl rfl rfl ?_ fun _ _ _ _ hheads => hheads
    intro commandID tableID lightState hmem
    rcases List.mem_append.1 hmem with hmem | hmem
    · exact h.acks _ _ _ hmem
    · cases List.mem_singleton.1 hmem
  | receive millis =>
    rcases hdown : s.down with _ | ⟨msg, rest⟩
    · simp only [step, hdown] at hstep
      cases hstep
    simp only [step, hdown, Option.some.injEq] at hstep
    subst hstep
    refine h.aside hinv rfl rfl rfl rfl ?_ fun t cmd _ _ hheads => ?_
    · intro commandID tableID lightState hmem
      rcases List.mem_append.1 hmem with hmem | hmem
      · exact h.acks _ _ _ hmem
      · exact acks_eventData hmem
    · rw [hdown] at hheads
      exact hheads.receive
  | update millis =>
    cases hstep
    refine h.aside hinv rfl rfl rfl rfl ?_ fun t cmd _ _ hheads => hheads.update millis
    intro commandID tableID lightState hmem
    rcases List.mem_append.1 hmem with hmem | hmem
    · exact h.acks _ _ _ hmem
    · obtain ⟨u, hu, -, -, hack⟩ := Hardware.mem_update_acks.1 hmem
      cases hack
      omega
  | handle => cases ha

theorem step_link {a : Action} (ha : a.ofBackend = false) (hstep : s.step a = some s') :
    s'.tables = s.tables ∧ s'.sending = s.sending := by
  cases a with
  | write call now => cases ha
  | send n => cases ha
  | handle => cases ha
  | publishCommand =>
    simp only [step] at hstep
    split at hstep
    · cases hstep
    · cases hstep
      exact ⟨rfl, rfl⟩
  | publishSync k now =>
    obtain ⟨snapshot, -, rfl⟩ := Option.map_eq_some_iff.1 hstep
    exact ⟨rfl, rfl⟩
  | receive millis =>
    simp only [step] at hstep
    split at hstep
    · cases hstep
    · cases hstep
      exact ⟨rfl, rfl⟩
  | snapshot | requestSync | update millis =>
    cases hstep
    exact ⟨rfl, rfl⟩

theorem Lit.handle (h : s.Lit byHand) (hstep : s.step .handle = some s') : s'.Lit byHand := by
  have hinv := h.inv.handle hstep
  rcases hup : s.up with _ | ⟨msg, rest⟩
  · simp only [step, hup] at hstep
    cases hstep
  simp only [step, hup, Option.some.injEq] at hstep
  subst hstep
  refine ⟨hinv, h.sending, fun _ _ _ hmem => h.acks _ _ _ (hup ▸ List.mem_cons_of_mem _ hmem),
    h.heads, ?_⟩
  intro t hhand hall
  have hwanted : wanted (confirmed s.tables msg) t = wanted s.tables t := by
    rw [wanted, get_confirmed, wanted]
  rw [hwanted, ← h.asked t hhand hall]
  rcases hlast : lastFor t (s.published ++ s.mqttCmdChan) with _ | cmd
  · have hnone := hlast
    rw [lastFor_append_list, Option.or_eq_none_iff, lastFor_eq_none] at hnone
    have hwaiting : ¬ s.Waiting t := by
      rintro ⟨cmd, hcmd, haddr⟩
      rw [h.sending, List.nil_append] at hcmd
      exact hnone.1 cmd hcmd haddr
    refine Eq.trans (asked_of_none hlast) (Eq.trans ?_ (asked_of_none hlast).symm)
    rw [light, get_confirmed]
    exact told_handle h.inv (hup ▸ List.mem_cons_self) hwaiting hnone.2
  · exact Eq.trans (asked_of_some hlast) (asked_of_some hlast).symm

/-- A call of the table service, whose send finds room. -/
theorem Lit.call (h : s.Lit byHand) (call : LightCall) (now : Int)
    (hhand : ∀ u state, call = .setLight u state → byHand call.tableID) :
    Lit byHand { s with
      tables := (call.cacheWrite.apply s.tables).1
      mqttCmdChan := s.mqttCmdChan ++ [call.command now] } := by
  have hwrite : s.step (.write call now) = some { s with
      tables := (call.cacheWrite.apply s.tables).1, sending := [call.command now] } := by
    simp [step, h.sending]
  refine ⟨(h.inv.write hwrite).send (n := 0) ?_, h.sending, h.acks, ?_, ?_⟩
  · simp [step, h.sending]
  · intro t cmd hwaiting hlast
    refine h.heads t cmd (fun hw => hwaiting ?_) hlast
    obtain ⟨c, hc, haddr⟩ := hw
    refine ⟨c, ?_, haddr⟩
    rw [← List.append_assoc]
    exact List.mem_append_left _ hc
  · intro t hnot hall
    have hlast := lastFor_append t (s.published ++ s.mqttCmdChan) (call.command now)
    rw [List.append_assoc] at hlast
    by_cases haddr : Addresses call.tableID t
    · rw [if_pos (show Addresses (call.command now).tableID t from haddr)] at hlast
      rw [asked_of_some hlast]
      refine (wanted_after_write s.tables haddr fun u state hset => ?_).symm
      rcases haddr with haddr | haddr
      · exact hnot (haddr ▸ hhand u state hset)
      · exact hall (haddr ▸ hhand u state hset)
    · rw [if_neg (show ¬ Addresses (call.command now).tableID t from haddr)] at hlast
      rw [asked_congr (s := s) hlast (by rw [light, light_after_write, if_neg haddr, light]),
        h.asked t hnot hall, wanted, wanted, status_after_write s.tables haddr]

/-- The cache has changed, but no table's number, status or light. -/
theorem Lit.retable (h : s.Lit byHand) {ts : Tables}
    (hsame : ∀ t : TableNo, (ts.get t).tableID = (s.tables.get t).tableID ∧
      (ts.get t).status = (s.tables.get t).status ∧
      (ts.get t).lightStatus = (s.tables.get t).lightStatus) :
    Lit byHand { s with tables := ts } := by
  refine ⟨⟨fun t => (hsame t).1.trans (h.inv.numbered t), h.inv.commandIDs, h.inv.snapshots,
    h.inv.syncs, ?_⟩, h.sending, h.acks, h.heads, ?_⟩
  · intro t hwaiting
    refine (h.inv.followed t hwaiting).beside []
      ⟨(List.append_nil _).symm, rfl, rfl, (hsame t).2.2, rfl, rfl⟩ ?_ ?_
    · exact fun state hu => ⟨fun _ hmem => absurd hmem List.not_mem_nil, hu.snapshots⟩
    · exact fun _ _ _ hmem => absurd hmem List.not_mem_nil
  · intro t hhand hall
    rw [wanted, (hsame t).2.1, ← wanted, ← h.asked t hhand hall]
    exact asked_congr rfl (hsame t).2.2

theorem lit_fresh {ts : Tables} (hnumbered : ∀ t : TableNo, (ts.get t).tableID = t)
    (hlight : ∀ t : TableNo, (ts.get t).lightStatus = pendingOf (wanted ts t) ∨
      (ts.get t).lightStatus = statusOf (wanted ts t)) :
    Lit byHand ⟨ts, [], [], [], [], [], Hardware.begin, [], false⟩ :=
  ⟨inv_fresh hnumbered fun t => ⟨_, hlight t⟩, rfl, fun _ _ _ h => absurd h List.not_mem_nil,
    fun _ _ _ hlast => absurd hlast (by simp [lastFor]), fun t _ _ => told_untouched (hlight t)⟩

/-- At rest the light of a table that nobody overrides is on exactly if the table is BUSY. -/
theorem Lit.at_rest (h : s.Lit byHand) (hsynced : s.synced = true) (hrest : s.AtRest)
    (hhand : ¬ byHand t) (hall : ¬ byHand 0) :
    LightState.ofBool (s.device t).isOn = wanted s.tables t := by
  have hwaiting : ¬ s.Waiting t := by
    rintro ⟨cmd, hcmd, -⟩
    rw [hrest.sending, hrest.mqttCmdChan] at hcmd
    exact absurd hcmd List.not_mem_nil
  have hasked := h.asked t hhand hall
  rcases hlast : lastFor t s.published with _ | cmd
  · rw [asked_of_none (by rwa [hrest.mqttCmdChan, List.append_nil]),
      (h.inv.followed t hwaiting).agree hsynced hrest, toldState_statusOf] at hasked
    exact hasked
  · rw [asked_of_some (by rwa [hrest.mqttCmdChan, List.append_nil])] at hasked
    rcases h.heads t cmd hwaiting hlast with ⟨haim, -⟩ | ⟨before, _, _, after, hdown, -⟩
    · rw [Hardware.TableState.aim, hrest.device t] at haim
      rw [← hasked, ← LightState.ofBool_isOn cmd.lightState, ← haim]
      rfl
    · rw [hrest.down] at hdown
      exact absurd hdown.symm (by simp)

end LightSystem

end GbcVenue
