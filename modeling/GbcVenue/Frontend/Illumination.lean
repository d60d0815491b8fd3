import GbcVenue.Cache.Representation
import GbcVenue.Frontend.MemoCards
import GbcVenue.Interleaving.Guarded
import GbcVenue.Server.Replies

/-!
# The toggles of the illumination page

`Illumination` (`Illumination.jsx:134-182`): the light states that its clicks ask for, the requests that
are under way, and the tables as they come from the socket. `waits_for_request`: a card that waits for a
click does so for the newest request about its table, which is still under way, and shows what the server's
cache will have by it; with none under way the memoised cards show the lights as the socket brought them.
`one_request_a_table`: without the buttons for all tables a card waits exactly while a request about its
table is under way, and there is one at most.
-/

namespace GbcVenue.Illumination

open Interleaving Server

/-- What a card shows but for the session: its light, whether it waits, and whether the table is taken. -/
def View.light (v : View) : Bool × Bool × Bool := (v.isOn, v.isPending, v.isBusy)

/-- The `tableId` of a request: a table, or `"ALL"` with the tables of the page at the click. -/
inductive Target
  | table (tableID : Int)
  | all (tableIDs : List Int)

/-- The tables whose entries of `pendingActions` a request sets and deletes. -/
def Target.covers (t : Int) : Target → Prop
  | .table tableID => t = tableID
  | .all tableIDs => t ∈ tableIDs

instance (t : Int) : (target : Target) → Decidable (target.covers t)
  | .table tableID => inferInstanceAs (Decidable (t = tableID))
  | .all tableIDs => inferInstanceAs (Decidable (t ∈ tableIDs))

/-- A request of the page; `shownOn` is what the clicked card showed, `none` for a button. -/
structure Request where
  target : Target
  targetState : LightState
  shownOn : Option Bool
  settled : Bool

namespace Request

def covers (r : Request) (t : Int) : Prop := r.target.covers t

instance (r : Request) (t : Int) : Decidable (r.covers t) :=
  inferInstanceAs (Decidable (r.target.covers t))

/-- `targetState === 'ON' ? 'PENDING-ON' : 'PENDING-OFF'`. -/
def pendingState (r : Request) : LightStatus :=
  if r.targetState = .on then .pendingOn else .pendingOff

/-- What `toggleLight` of `frontend/src/api/lights.js` sends. -/
def body (r : Request) : LightsHandler.ToggleBody where
  tableID := match r.target with
    | .table tableID => some (.number tableID)
    | .all _ => some (.string "ALL")
  targetState := if r.targetState = .on then "ON" else "OFF"

end Request

structure Page where
  tables : List TableState
  pendingActions : Int → Option LightStatus
  requests : List Request

inductive PageEvent
  | setTables (tables : List TableState)
  | click (k : Nat)
  | toggleAll (targetState : LightState)
  | settled (i : Nat)

namespace Page

def start : Page := ⟨[], fun _ => none, []⟩

/-- The props of the card of a table. -/
def propsOf (s : Page) (table : TableState) : Props := ⟨table, s.pendingActions table.tableID⟩

/-- `toggleLight` of the page up to its `await` (`Illumination.jsx:142-147`). -/
def toggleLight (s : Page) (table : TableState) (shownOn : Bool) : Page :=
  let targetState :=
    if table.lightStatus = .on ∨ table.lightStatus = .pendingOn then LightState.off else .on
  let r : Request := ⟨.table table.tableID, targetState, some shownOn, false⟩
  { s with
    pendingActions := Function.update s.pendingActions table.tableID (some r.pendingState)
    requests := s.requests ++ [r] }

/-- `toggleAllLights` up to its `await` (`Illumination.jsx:162-169`). -/
def toggleAllLights (s : Page) (targetState : LightState) : Page :=
  let r : Request := ⟨.all (s.tables.map TableState.tableID), targetState, none, false⟩
  { s with
    pendingActions := fun t => if r.covers t then some r.pendingState else s.pendingActions t
    requests := s.requests ++ [r] }

/-- The `finally` of both, of request `i` (`Illumination.jsx:153-159`, `175-181`). -/
def finish (s : Page) (i : Nat) (r : Request) : Page :=
  { s with
    pendingActions := fun t => if r.covers t then none else s.pendingActions t
    requests := s.requests.set i { r with settled := true } }

/-- A click is a call of `toggleLight` if the card does not show that it waits; the requests end in any
order, well or not. -/
def step (localeTime : Option Int → String) (s : Page) : PageEvent → Option Page
  | .setTables tables => some { s with tables := tables }
  | .click k => match s.tables[k]? with
    | some table =>
      let view := render localeTime (s.propsOf table)
      some (if view.isPending then s else s.toggleLight table view.isOn)
    | none => none
  | .toggleAll targetState => some (s.toggleAllLights targetState)
  | .settled i => match s.requests[i]? with
    | some r => if r.settled then none else some (s.finish i r)
    | none => none

abbrev Reaches (localeTime : Option Int → String) (ok : Page → PageEvent → Prop) : Page → Page → Prop :=
  GuardedReaches (step localeTime) ok

/-- Request `i` is under way. -/
def UnderWay (s : Page) (i : Nat) (r : Request) : Prop := s.requests[i]? = some r ∧ r.settled = false

/-- Request `i` is the newest about table `t`. -/
def Newest (s : Page) (t : Int) (i : Nat) (r : Request) : Prop :=
  s.requests[i]? = some r ∧ r.covers t ∧ ∀ j r', i < j → s.requests[j]? = some r' → ¬ r'.covers t

/-- The socket brings the tables that the cache lists. -/
def FromServer (_ : Page) : PageEvent → Prop
  | .setTables tables => tables.map TableState.tableID = [1, 2, 3, 4]
  | _ => True

/-- What the server makes of a request: it accepts it, and of the tables it covers the cache then has the
state that the cards wait with. -/
def ServedAsShown (r : Request) : Prop :=
  ∀ (E : Env → Prop) (i : Nat) (m m' : Timed World Int) (reply : HttpReply),
    m.state.tables.Represents → Prog.Runs (backend E) i (LightsHandler.toggle (some r.body)) m reply m' →
      reply.status = 200 ∧ ∀ t, 1 ≤ t ∧ t ≤ 4 → r.covers t →
        (m'.state.tables.get t).lightStatus = r.pendingState

instance (s : Page) : (e : PageEvent) → Decidable (FromServer s e)
  | .setTables tables => inferInstanceAs (Decidable (tables.map TableState.tableID = [1, 2, 3, 4]))
  | .click _ | .toggleAll _ | .settled _ => isTrue trivial

/-- The same without the buttons for all tables. -/
def CardsOnly (_ : Page) : PageEvent → Prop
  | .setTables tables => tables.map TableState.tableID = [1, 2, 3, 4]
  | .toggleAll _ => False
  | _ => True

instance (s : Page) : (e : PageEvent) → Decidable (CardsOnly s e)
  | .setTables tables => inferInstanceAs (Decidable (tables.map TableState.tableID = [1, 2, 3, 4]))
  | .toggleAll _ => isFalse id
  | .click _ | .settled _ => isTrue trivial

/-- An entry of `pendingActions` is for the newest request about its table, which is still under way; with
none under way every card, whatever it was rendered with before, shows the light as the socket brought it;
a click asks for the opposite of what its card showed; and the server does what is asked for. -/
structure Waits (localeTime : Option Int → String) (s : Page) : Prop where
  entry : ∀ t p, s.pendingActions t = some p →
    ∃ i r, s.Newest t i r ∧ s.UnderWay i r ∧ p = r.pendingState
  rest : (∀ i r, ¬ s.UnderWay i r) → ∀ table ∈ s.tables, ∀ first history,
    (render localeTime ((card localeTime).shown first (history ++ [s.propsOf table]))).light =
      (render localeTime ⟨table, none⟩).light
  opposite : ∀ r ∈ s.requests, ∀ shown, r.shownOn = some shown → (r.targetState = .on ↔ shown = false)
  served : ∀ r ∈ s.requests, ServedAsShown r

/-- An entry of `pendingActions` for each table that a request under way covers, and for no other; no two
of these requests cover one table. -/
structure OneEach (s : Page) : Prop where
  waits : ∀ t, s.pendingActions t ≠ none ↔ ∃ i r, s.UnderWay i r ∧ r.covers t
  one : ∀ t i r j r', s.UnderWay i r → r.covers t → s.UnderWay j r' → r'.covers t → i = j

/-! ## The server -/

/-- The targets of requests are tables of the venue. -/
def OfPage : Target → Prop
  | .table tableID => OfVenue tableID
  | .all _ => True

theorem addressed_table {t : Int} (ht : OfVenue t) :
    LightsHandler.addressed (some (.number t)) = some t := by
  have hnum : LightsHandler.atoiPrinted (some (.number t)) = some t := by
    obtain ⟨hlow, hhigh⟩ := ht
    simp only [LightsHandler.atoiPrinted, Rat.den_intCast, Rat.num_intCast]
    rw [if_pos ⟨trivial, by omega, by omega⟩]
  obtain ⟨hlow, hhigh⟩ := ht
  simp only [LightsHandler.addressed, MqttClient.printsALL, hnum]
  rw [if_neg (by decide), if_neg (by omega)]

theorem addressed_all : LightsHandler.addressed (some (.string "ALL")) = some 0 := by decide

theorem targetState_ok (r : Request) :
    ¬ (r.body.targetState ≠ "ON" ∧ r.body.targetState ≠ "OFF") ∧
      (if r.body.targetState = "ON" then LightStatus.on else .off) =
        if r.targetState = .on then .on else .off := by
  cases hstate : r.targetState <;> simp [Request.body, hstate]

theorem light_setLightStatus {ts : Tables} {t u : Int} (ht : 1 ≤ t ∧ t ≤ 4) (state : LightStatus)
    (hu : u = 0 ∨ t = u) :
    ((if u = 0 then ts.setAllLightStatuses state else ts.setLightStatus u state).get t).lightStatus =
      Tables.pendingFor state := by
  rcases hu with rfl | rfl
  · simp [Tables.setAllLightStatuses, Tables.get, ht]
  · have hne : t ≠ 0 := by omega
    rw [if_neg hne, Tables.setLightStatus, Tables.get_set_self]

theorem target_addressed {r : Request} (h : OfPage r.target) :
    ∃ u, LightsHandler.addressed r.body.tableID = some u ∧ (u = 0 ∨ OfVenue u) ∧
      ∀ t, r.covers t → u = 0 ∨ t = u := by
  obtain ⟨target, targetState, shownOn, settled⟩ := r
  cases target with
  | table tableID => exact ⟨tableID, addressed_table h, .inr h, fun t ht => .inr ht⟩
  | all tableIDs => exact ⟨0, addressed_all, .inl rfl, fun t ht => .inl rfl⟩

theorem served_of_target {r : Request} (h : OfPage r.target) : ServedAsShown r := by
  intro E i m m' reply hrep hrun
  obtain ⟨hvalid, hstatus⟩ := targetState_ok r
  obtain ⟨u, haddressed, hu, hcovers⟩ := target_addressed h
  simp only [LightsHandler.toggle, haddressed] at hrun
  rw [if_neg hvalid] at hrun
  obtain ⟨ok, m₁, hknown, hrest⟩ := Prog.runs_bind.1 hrun
  obtain ⟨hworld, hunknown⟩ := runs_known hknown
  have hok : ok = true := by
    by_contra hno
    obtain ⟨hone, hnone⟩ := hunknown (by simpa using hno)
    rw [(hrep.keyed u).2 (hu.resolve_left hone)] at hnone
    cases hnone
  rw [if_pos hok, hstatus] at hrest
  obtain ⟨_, m₂, hset, hret⟩ := Prog.runs_bind.1 hrest
  obtain ⟨rfl, rfl⟩ := Prog.runs_ret.1 hret
  obtain ⟨htables, -⟩ := runs_setLightStatus hset
  refine ⟨rfl, fun t ht hcover => ?_⟩
  rw [htables, hworld, light_setLightStatus ht _ (hcovers t hcover)]
  cases hstate : r.targetState <;> simp [Tables.pendingFor, Request.pendingState, hstate]

/-! ## What a step keeps -/

variable {localeTime : Option Int → String} {s s' : Page}

/-- The entries, the tables and the requests of a page. -/
structure Inv (s : Page) : Prop where
  entry : ∀ t p, s.pendingActions t = some p →
    ∃ i r, s.Newest t i r ∧ s.UnderWay i r ∧ p = r.pendingState
  tables : s.tables = [] ∨ s.tables.map TableState.tableID = [1, 2, 3, 4]
  opposite : ∀ r ∈ s.requests, ∀ shown, r.shownOn = some shown → (r.targetState = .on ↔ shown = false)
  targets : ∀ r ∈ s.requests, OfPage r.target

theorem pendingState_cases (r : Request) :
    r.pendingState = .pendingOn ∨ r.pendingState = .pendingOff := by
  unfold Request.pendingState
  split
  · exact .inl rfl
  · exact .inr rfl

theorem request_of_concat {rs : List Request} {r r' : Request} {j : Nat}
    (h : (rs ++ [r])[j]? = some r') : rs[j]? = some r' ∨ (j = rs.length ∧ r' = r) := by
  rcases lt_or_ge j rs.length with hlt | hge
  · rw [List.getElem?_append_left hlt] at h
    exact .inl h
  · rw [List.getElem?_append_right hge, List.getElem?_singleton] at h
    split at h
    · exact .inr ⟨by omega, (Option.some.inj h).symm⟩
    · cases h

/-- A request that is sent takes over the entries of the tables it covers. -/
theorem Inv.send (h : s.Inv) {r : Request} {pendingActions : Int → Option LightStatus}
    (hr : r.settled = false)
    (hpending : ∀ t, pendingActions t = if r.covers t then some r.pendingState else s.pendingActions t)
    (hopposite : ∀ shown, r.shownOn = some shown → (r.targetState = .on ↔ shown = false))
    (htarget : OfPage r.target) :
    Inv { s with pendingActions := pendingActions, requests := s.requests ++ [r] } := by
  refine ⟨fun t p hp => ?_, h.tables, fun r' hr' => ?_, fun r' hr' => ?_⟩
  · dsimp only at hp
    rw [hpending] at hp
    split at hp
    · rename_i hcovers
      refine ⟨s.requests.length, r, ⟨List.getElem?_concat_length, hcovers, fun j r' hj hr' => ?_⟩,
        ⟨List.getElem?_concat_length, hr⟩, (Option.some.inj hp).symm⟩
      have hlt := (List.getElem?_eq_some_iff.1 hr').1
      simp only [List.length_append, List.length_singleton] at hlt
      omega
    · rename_i hnot
      obtain ⟨i, r', ⟨hi, hcovers, hnewest⟩, hway, hstate⟩ := h.entry t p hp
      have hold : (s.requests ++ [r])[i]? = some r' := by
        rw [List.getElem?_append_left (List.getElem?_eq_some_iff.1 hi).1, hi]
      refine ⟨i, r', ⟨hold, hcovers, fun j r'' hj hr'' => ?_⟩, ⟨hold, hway.2⟩, hstate⟩
      rcases request_of_concat hr'' with hr'' | ⟨-, rfl⟩
      · exact hnewest j r'' hj hr''
      · exact hnot
  · rcases List.mem_append.1 hr' with hr' | hr'
    · exact h.opposite r' hr'
    · obtain rfl := List.mem_singleton.1 hr'
      exact hopposite
  · rcases List.mem_append.1 hr' with hr' | hr'
    · exact h.targets r' hr'
    · obtain rfl := List.mem_singleton.1 hr'
      exact htarget

/-- A request that ends deletes the entries of the tables it covers, also those of newer requests. -/
theorem Inv.finish (h : s.Inv) {i : Nat} {r : Request} (hi : s.requests[i]? = some r) :
    (s.finish i r).Inv := by
  have hlt := (List.getElem?_eq_some_iff.1 hi).1
  have hmem : ∀ r' ∈ s.requests.set i { r with settled := true },
      r' = { r with settled := true } ∨ r' ∈ s.requests := by
    intro r' hr'
    rcases List.mem_or_eq_of_mem_set hr' with hr' | rfl
    · exact .inr hr'
    · exact .inl rfl
  have hold : r ∈ s.requests := List.mem_of_getElem? hi
  refine ⟨fun t p hp => ?_, h.tables, fun r' hr' => ?_, fun r' hr' => ?_⟩
  · simp only [Page.finish] at hp
    split at hp
    · cases hp
    · rename_i hnot
      obtain ⟨i', r', ⟨hi', hcovers, hnewest⟩, hway, hstate⟩ := h.entry t p hp
      have hne : i ≠ i' := by
        rintro rfl
        obtain rfl := Option.some.inj (hi.symm.trans hi')
        exact hnot hcovers
      have hkept : (s.finish i r).requests[i']? = some r' := by
        rw [Page.finish, List.getElem?_set_ne hne, hi']
      refine ⟨i', r', ⟨hkept, hcovers, fun j r'' hj hr'' => ?_⟩, ⟨hkept, hway.2⟩, hstate⟩
      rcases eq_or_ne i j with rfl | hij
      · rw [Page.finish, List.getElem?_set_self hlt] at hr''
        obtain rfl := Option.some.inj hr''
        exact hnot
      · rw [Page.finish, List.getElem?_set_ne hij] at hr''
        exact hnewest j r'' hj hr''
  · rcases hmem r' hr' with rfl | hr'
    · exact h.opposite r hold
    · exact h.opposite r' hr'
  · rcases hmem r' hr' with rfl | hr'
    · exact h.targets r hold
    · exact h.targets r' hr'

/-- The comparison of a card covers what it shows of the light, so that a click reads the last props. -/
theorem light_shown {first next : Props} {history : List Props} :
    (render localeTime ((card localeTime).shown first (history ++ [next]))).light =
      (render localeTime next).light := by
  refine Memo.render_covered (m := card localeTime) (g := View.light) fun prev next heq => ?_
  simp only [card, tablePropsAreEqual, decide_eq_true_eq] at heq
  obtain ⟨hstatus, hlight, -, hpending⟩ := heq
  have heffective : effectiveLightStatus prev = effectiveLightStatus next := by
    simp only [effectiveLightStatus, hlight, hpending]
  simp only [card, render, View.light, heffective, hstatus]

/-- A card that does not wait has no entry, and shows the light of its table. -/
theorem Inv.not_pending (h : s.Inv) {table : TableState}
    (hview : (render localeTime (s.propsOf table)).isPending = false) :
    s.pendingActions table.tableID = none ∧
      (render localeTime (s.propsOf table)).isOn = decide (table.lightStatus = .on) ∧
      table.lightStatus ≠ .pendingOn := by
  have hnone : s.pendingActions table.tableID = none := by
    cases hentry : s.pendingActions table.tableID with
    | none => rfl
    | some p =>
      obtain ⟨i, r, -, -, rfl⟩ := h.entry _ p hentry
      rcases pendingState_cases r with hstate | hstate <;>
        simp [render, effectiveLightStatus, propsOf, hentry, hstate] at hview
  refine ⟨hnone, ?_⟩
  cases hlight : table.lightStatus <;>
    simp [render, effectiveLightStatus, propsOf, hnone, hlight] at hview ⊢

theorem pendingActions_toggleLight (table : TableState) {shownOn : Bool} {targetState : LightState}
    (t : Int) :
    let r : Request := ⟨.table table.tableID, targetState, some shownOn, false⟩
    Function.update s.pendingActions table.tableID (some r.pendingState) t =
      if r.covers t then some r.pendingState else s.pendingActions t := by
  by_cases ht : t = table.tableID
  · subst ht
    exact (Function.update_self ..).trans (if_pos rfl).symm
  · exact (Function.update_of_ne ht ..).trans (if_neg ht).symm

theorem Inv.click (h : s.Inv) {table : TableState} (htable : table ∈ s.tables)
    (hview : (render localeTime (s.propsOf table)).isPending = false) :
    (s.toggleLight table (render localeTime (s.propsOf table)).isOn).Inv := by
  obtain ⟨hnone, hon, hlight⟩ := h.not_pending hview
  refine h.send rfl (pendingActions_toggleLight table) ?_ ?_
  · rintro shown ⟨⟩
    rw [hon]
    by_cases hlit : table.lightStatus = .on <;> simp [hlit, hlight]
  · rcases h.tables with hempty | hvenue
    · rw [hempty] at htable
      cases htable
    · have hid : table.tableID ∈ [1, 2, 3, 4] := hvenue ▸ List.mem_map_of_mem htable
      simp only [List.mem_cons, List.not_mem_nil, or_false] at hid
      show 1 ≤ table.tableID ∧ table.tableID ≤ 4
      omega

theorem inv_start : start.Inv :=
  ⟨fun _ _ h => absurd h (by simp [start]), .inl rfl, fun _ h => absurd h List.not_mem_nil,
    fun _ h => absurd h List.not_mem_nil⟩

theorem Inv.step {e : PageEvent} (h : s.Inv) (he : FromServer s e)
    (hstep : s.step localeTime e = some s') : s'.Inv := by
  cases e with
  | setTables tables =>
    obtain rfl := Option.some.inj hstep
    exact ⟨h.entry, .inr he, h.opposite, h.targets⟩
  | click k =>
    simp only [Page.step] at hstep
    split at hstep
    · rename_i table htable
      obtain rfl := Option.some.inj hstep
      split
      · exact h
      · rename_i hview
        exact h.click (List.mem_of_getElem? htable) (by simpa using hview)
    · cases hstep
  | toggleAll targetState =>
    obtain rfl := Option.some.inj hstep
    exact h.send rfl (fun t => rfl) (fun _ h => absurd h (by simp)) trivial
  | settled i =>
    simp only [Page.step] at hstep
    split at hstep
    · rename_i r hi
      split at hstep
      · cases hstep
      · obtain rfl := Option.some.inj hstep
        exact h.finish hi
    · cases hstep

/-! ## Cards only -/

theorem fromServer_of_cardsOnly {e : PageEvent} (h : CardsOnly s e) : FromServer s e := by
  cases e with
  | setTables tables => exact h
  | toggleAll targetState => exact h.elim
  | click k => exact h
  | settled i => exact h

theorem underWay_concat {r r' : Request} {pendingActions : Int → Option LightStatus} {i : Nat}
    (hr : r.settled = false) :
    UnderWay { s with pendingActions := pendingActions, requests := s.requests ++ [r] } i r' ↔
      s.UnderWay i r' ∨ (i = s.requests.length ∧ r' = r) := by
  constructor
  · rintro ⟨hi, hway⟩
    rcases request_of_concat hi with hi | hlast
    · exact .inl ⟨hi, hway⟩
    · exact .inr hlast
  · rintro (⟨hi, hway⟩ | ⟨rfl, rfl⟩)
    · refine ⟨?_, hway⟩
      rw [List.getElem?_append_left (List.getElem?_eq_some_iff.1 hi).1, hi]
    · exact ⟨List.getElem?_concat_length, hr⟩

theorem underWay_finish {r r' : Request} {i j : Nat} (hi : s.requests[i]? = some r) :
    (s.finish i r).UnderWay j r' ↔ s.UnderWay j r' ∧ j ≠ i := by
  rcases eq_or_ne i j with rfl | hij
  · refine ⟨fun ⟨hj, hway⟩ => ?_, fun h => absurd rfl h.2⟩
    rw [finish, List.getElem?_set_self (List.getElem?_eq_some_iff.1 hi).1] at hj
    rw [← Option.some.inj hj] at hway
    cases hway
  · rw [UnderWay, UnderWay, finish, List.getElem?_set_ne hij]
    exact ⟨fun h => ⟨h, hij.symm⟩, And.left⟩

/-- A request about tables that no request under way covers. -/
theorem OneEach.send (h : s.OneEach) {r : Request} {pendingActions : Int → Option LightStatus}
    (hr : r.settled = false)
    (hpending : ∀ t, pendingActions t = if r.covers t then some r.pendingState else s.pendingActions t)
    (hfree : ∀ t, r.covers t → s.pendingActions t = none) :
    OneEach { s with pendingActions := pendingActions, requests := s.requests ++ [r] } := by
  have hnew : ∀ t i r', s.UnderWay i r' → r'.covers t → ¬ r.covers t := fun t i r' hway hcovers hr =>
    (h.waits t).2 ⟨i, r', hway, hcovers⟩ (hfree t hr)
  refine ⟨fun t => ?_, fun t i r₁ j r₂ h₁ hcovers₁ h₂ hcovers₂ => ?_⟩
  · simp only [underWay_concat hr, hpending]
    split
    · rename_i hcovers
      exact ⟨fun _ => ⟨_, r, .inr ⟨rfl, rfl⟩, hcovers⟩, fun _ => by simp⟩
    · rename_i hnot
      rw [h.waits]
      constructor
      · rintro ⟨i, r', hway, hcovers⟩
        exact ⟨i, r', .inl hway, hcovers⟩
      · rintro ⟨i, r', hway | ⟨-, rfl⟩, hcovers⟩
        · exact ⟨i, r', hway, hcovers⟩
        · exact absurd hcovers hnot
  · rcases (underWay_concat hr).1 h₁ with h₁ | ⟨hi, hr₁⟩ <;>
      rcases (underWay_concat hr).1 h₂ with h₂ | ⟨hj, hr₂⟩
    · exact h.one t i r₁ j r₂ h₁ hcovers₁ h₂ hcovers₂
    · exact absurd (hr₂ ▸ hcovers₂) (hnew t i r₁ h₁ hcovers₁)
    · exact absurd (hr₁ ▸ hcovers₁) (hnew t j r₂ h₂ hcovers₂)
    · rw [hi, hj]

theorem OneEach.finish (h : s.OneEach) {i : Nat} {r : Request} (hi : s.UnderWay i r) :
    (s.finish i r).OneEach := by
  refine ⟨fun t => ?_, fun t i₁ r₁ i₂ r₂ h₁ hcovers₁ h₂ hcovers₂ => ?_⟩
  · simp only [underWay_finish hi.1]
    by_cases hcovers : r.covers t
    · have hgone : (s.finish i r).pendingActions t = none := if_pos hcovers
      refine iff_of_false (fun hset => hset hgone) ?_
      rintro ⟨j, r', ⟨hway, hne⟩, hcovers'⟩
      exact hne (h.one t j r' i r hway hcovers' hi hcovers)
    · have hkept : (s.finish i r).pendingActions t = s.pendingActions t := if_neg hcovers
      rw [hkept, h.waits]
      constructor
      · rintro ⟨j, r', hway, hcovers'⟩
        refine ⟨j, r', ⟨hway, ?_⟩, hcovers'⟩
        rintro rfl
        exact hcovers (Option.some.inj (hi.1.symm.trans hway.1) ▸ hcovers')
      · rintro ⟨j, r', ⟨hway, -⟩, hcovers'⟩
        exact ⟨j, r', hway, hcovers'⟩
  · exact h.one t i₁ r₁ i₂ r₂ ((underWay_finish hi.1).1 h₁).1 hcovers₁ ((underWay_finish hi.1).1 h₂).1
      hcovers₂

theorem oneEach_start : start.OneEach := by
  refine ⟨fun t => iff_of_false (fun hset => hset rfl) ?_, fun t i r j r' hi => ?_⟩
  · rintro ⟨i, r, hi, -⟩
    exact absurd hi.1 (by simp [start])
  · exact absurd hi.1 (by simp [start])

theorem OneEach.step {e : PageEvent} (h : s.OneEach) (hinv : s.Inv) (he : CardsOnly s e)
    (hstep : s.step localeTime e = some s') : s'.OneEach := by
  cases e with
  | setTables tables =>
    obtain rfl := Option.some.inj hstep
    exact ⟨h.waits, h.one⟩
  | click k =>
    simp only [Page.step] at hstep
    split at hstep
    · rename_i table htable
      obtain rfl := Option.some.inj hstep
      split
      · exact h
      · rename_i hview
        obtain ⟨hnone, -, -⟩ := hinv.not_pending (by simpa using hview)
        refine h.send rfl (pendingActions_toggleLight table) ?_
        rintro t rfl
        exact hnone
    · cases hstep
  | toggleAll targetState => exact he.elim
  | settled i =>
    simp only [Page.step] at hstep
    split at hstep
    · rename_i r hi
      split at hstep
      · cases hstep
      · rename_i hway
        obtain rfl := Option.some.inj hstep
        exact h.finish ⟨hi, by simpa using hway⟩
    · cases hstep

/-- The tables of a venue that has just started. -/
def firstTables : List TableState :=
  [1, 2, 3, 4].map fun t => ⟨t, "Table", .available, .off, none⟩

/-- However clicks, requests and tables of the socket come, a card that waits for a click waits for the
newest request about its table, and with no request under way the cards show the lights of the socket. -/
theorem waits_for_request (h : Reaches localeTime FromServer start s) : s.Waits localeTime := by
  have hinv : s.Inv := h.invariant inv_start fun _ _ _ hs he hstep => hs.step he hstep
  refine ⟨hinv.entry, fun hidle table htable first history => ?_, hinv.opposite,
    fun r hr => served_of_target (hinv.targets r hr)⟩
  have hnone : s.pendingActions table.tableID = none := by
    cases hentry : s.pendingActions table.tableID with
    | none => rfl
    | some p =>
      obtain ⟨i, r, -, hway, -⟩ := hinv.entry _ p hentry
      exact absurd hway (hidle i r)
  rw [light_shown, propsOf, hnone]

/-- Card 2 is clicked while the request of the button waits, and again when that is over. -/
theorem waits_for_request_all : ∃ s : Page, s.requests.length = 2 ∧
    s.pendingActions 2 = some .pendingOn ∧ s.pendingActions 1 = none ∧ s.Waits fun _ => "" := by
  have hrun : (runIf (step fun _ => "") FromServer [.setTables firstTables, .toggleAll .off, .click 1,
      .settled 0, .click 1] start).map (fun s => (s.requests.length, s.pendingActions 2,
        s.pendingActions 1)) = some (2, some .pendingOn, none) := by
    decide +kernel
  obtain ⟨s, hs, hseen⟩ := Option.map_eq_some_iff.1 hrun
  obtain ⟨hlength, htwo, hone⟩ := by simpa only [Prod.mk.injEq] using hseen
  exact ⟨s, hlength, htwo, hone, waits_for_request (reaches_of_runIf hs)⟩

/-- With clicks on cards only, a card waits exactly while a request about its table is under way, and no
table has two of them. -/
theorem one_request_a_table (h : Reaches localeTime CardsOnly start s) : s.OneEach := by
  have hboth : s.Inv ∧ s.OneEach := by
    apply h.invariant (I := fun s => s.Inv ∧ s.OneEach) ⟨inv_start, oneEach_start⟩
    rintro s e s' ⟨hinv, hone⟩ he hstep
    exact ⟨hinv.step (fromServer_of_cardsOnly he) hstep, hone.step hinv he hstep⟩
  exact hboth.2

/-- Two clicks on card 1 and one on card 3. -/
theorem one_request_a_table_clicks : ∃ s : Page, s.requests.length = 2 ∧ s.OneEach := by
  have hrun : (runIf (step fun _ => "") CardsOnly [.setTables firstTables, .click 0, .click 2, .click 0,
      .settled 1] start).map (fun s => s.requests.length) = some 2 := by
    decide +kernel
  obtain ⟨s, hs, hlength⟩ := Option.map_eq_some_iff.1 hrun
  exact ⟨s, hlength, one_request_a_table (reaches_of_runIf hs)⟩

end Page

end GbcVenue.Illumination
