import GbcVenue.Domain.Types
import Mathlib.Logic.Function.Basic

/-!
# The venue cache

`backend/internal/cache/venue_cache.go`. The map of table states is a function from table ids;
`none` is a missing key. Each mutating method of the cache is one critical section, `CacheWrite`,
which also tells whether the method goes on to broadcast a snapshot.
-/

namespace GbcVenue

/-- The map `tables` of `VenueCache`. -/
abbrev Tables := Int → Option TableState

namespace Tables

/-- The zero `TableState`, which a Go map answers for a missing key. -/
def zeroState : TableState := ⟨0, "", .empty, .empty, none⟩

/-- `c.tables[tableID]`. -/
def get (ts : Tables) (tableID : Int) : TableState := (ts tableID).getD zeroState

def set (ts : Tables) (tableID : Int) (t : TableState) : Tables :=
  fun i => if i = tableID then some t else ts i

@[simp] theorem get_set_self (ts : Tables) (tableID : Int) (t : TableState) :
    (ts.set tableID t).get tableID = t := by simp [get, set]

@[simp] theorem get_set_ne (ts : Tables) {i tableID : Int} (t : TableState) (h : i ≠ tableID) :
    (ts.set tableID t).get i = ts.get i := by simp [get, set, h]

/-- The table is BUSY with the given booking. -/
def ShowsBusy (ts : Tables) (tableID : Int) (cb : CurrentBooking) : Prop :=
  (ts.get tableID).status = .busy ∧ (ts.get tableID).currentBooking = some cb

instance (ts : Tables) (tableID : Int) (cb : CurrentBooking) :
    Decidable (ts.ShowsBusy tableID cb) := inferInstanceAs (Decidable (_ ∧ _))

/-- Go `New` (`venue_cache.go:23-39`): four tables, AVAILABLE and PENDING-OFF. -/
def new : Tables := fun i =>
  if 1 ≤ i ∧ i ≤ 4 then some ⟨i, "Table 0" ++ toString i, .available, .pendingOff, none⟩ else none

/-- Go `GetTable`: the state, and whether the key exists. -/
def getTable (ts : Tables) (tableID : Int) : TableState × Bool :=
  (ts.get tableID, (ts tableID).isSome)

/-- Go `GetAll`: tables 1 to 4 in order. -/
def getAll (ts : Tables) : List TableState := [ts.get 1, ts.get 2, ts.get 3, ts.get 4]

/-- Go `HydrateTable` (`venue_cache.go:65-79`). -/
def hydrateTable (ts : Tables) (tableID : Int) (booking : Option CurrentBooking) : Tables :=
  let t := ts.get tableID
  match booking with
  | some b => ts.set tableID { t with status := .busy, lightStatus := .on, currentBooking := some b }
  | none => ts.set tableID
      { t with status := .available, lightStatus := .pendingOff, currentBooking := none }

/-- Go `ActivateTable` (`venue_cache.go:84-94`). -/
def activateTable (ts : Tables) (tableID : Int) (booking : CurrentBooking) : Tables :=
  ts.set tableID { ts.get tableID with
    status := .busy, lightStatus := .pendingOn, currentBooking := some booking }

/-- Go `DeactivateTable` (`venue_cache.go:97-107`). -/
def deactivateTable (ts : Tables) (tableID : Int) : Tables :=
  ts.set tableID { ts.get tableID with
    status := .available, lightStatus := .pendingOff, currentBooking := none }

/-- The pending state a manual override leaves. -/
def pendingFor (targetState : LightStatus) : LightStatus :=
  if targetState = .on then .pendingOn else .pendingOff

/-- Go `SetLightStatus` (`venue_cache.go:110-122`). -/
def setLightStatus (ts : Tables) (tableID : Int) (targetState : LightStatus) : Tables :=
  ts.set tableID { ts.get tableID with lightStatus := pendingFor targetState }

/-- Go `SetAllLightStatuses` (`venue_cache.go:125-139`). -/
def setAllLightStatuses (ts : Tables) (targetState : LightStatus) : Tables := fun i =>
  if 1 ≤ i ∧ i ≤ 4 then some { ts.get i with lightStatus := pendingFor targetState } else ts i

/-- Go `ConfirmLightStatus` (`venue_cache.go:142-155`), and whether anything changed. -/
def confirmLightStatus (ts : Tables) (tableID : Int) (state : LightStatus) : Tables × Bool :=
  if (ts.get tableID).lightStatus ≠ state then
    (ts.set tableID { ts.get tableID with lightStatus := state }, true)
  else (ts, false)

/-- Go `ConfirmAllLightStatuses` (`venue_cache.go:158-174`). -/
def confirmAllLightStatuses (ts : Tables) (state : LightStatus) : Tables × Bool :=
  (fun i => if 1 ≤ i ∧ i ≤ 4 ∧ (ts.get i).lightStatus ≠ state then
      some { ts.get i with lightStatus := state } else ts i,
    ts.getAll.any fun t => t.lightStatus ≠ state)

/-- What a full sync ack makes of a light status. -/
def settle : LightStatus → LightStatus
  | .pendingOn => .on
  | .pendingOff => .off
  | s => s

/-- Go `ConfirmFullSync` (`venue_cache.go:177-196`). -/
def confirmFullSync (ts : Tables) : Tables := fun i =>
  (ts i).map fun t => { t with lightStatus := settle t.lightStatus }

/-- Go `UpdateCurrentBooking` (`venue_cache.go:199-210`): a table without a booking is left as it
is. -/
def updateCurrentBooking (ts : Tables) (tableID : Int) (partialBooking : CurrentBooking) : Tables :=
  if (ts tableID).isSome ∧ (ts.get tableID).currentBooking.isSome then
    ts.set tableID { ts.get tableID with currentBooking := some partialBooking }
  else ts

/-! ## What a confirmation leaves -/

theorem get_confirmLightStatus (ts : Tables) (t u : Int) (state : LightStatus) :
    (ts.confirmLightStatus u state).1.get t =
      if t = u then { ts.get t with lightStatus := state } else ts.get t := by
  unfold confirmLightStatus
  by_cases hu : t = u
  · subst hu
    by_cases hs : (ts.get t).lightStatus = state
    · subst hs
      simp
    · simp [hs]
  · rw [if_neg hu]
    split
    · exact get_set_ne ts _ hu
    · rfl

theorem get_confirmAllLightStatuses (ts : Tables) {t : Int} (ht : 1 ≤ t ∧ t ≤ 4)
    (state : LightStatus) :
    (ts.confirmAllLightStatuses state).1.get t = { ts.get t with lightStatus := state } := by
  by_cases hs : (ts.get t).lightStatus = state
  · subst hs
    simp only [get, confirmAllLightStatuses, ne_eq, not_true_eq_false, and_false, if_false]
  · have hchange : 1 ≤ t ∧ t ≤ 4 ∧ (ts.get t).lightStatus ≠ state := ⟨ht.1, ht.2, hs⟩
    simp only [confirmAllLightStatuses]
    rw [get, if_pos hchange, Option.getD_some]

theorem get_confirmFullSync (ts : Tables) (t : Int) :
    ts.confirmFullSync.get t = { ts.get t with lightStatus := settle (ts.get t).lightStatus } := by
  rw [get, confirmFullSync, get]
  cases ts t <;> rfl

/-! ## What a table shows -/

/-- A new cache shows no booking. -/
theorem not_showsBusy_new (t : Int) (cb : CurrentBooking) : ¬ new.ShowsBusy t cb := by
  rintro ⟨-, hcb⟩
  simp only [get, new] at hcb
  split at hcb <;> cases hcb

theorem isSome_of_showsBusy {ts : Tables} {t : Int} {cb : CurrentBooking} (h : ts.ShowsBusy t cb) :
    (ts t).isSome := by
  by_contra hnone
  rw [Option.not_isSome_iff_eq_none] at hnone
  have hbusy := h.1
  rw [get, hnone] at hbusy
  cases hbusy

theorem showsBusy_unique {ts : Tables} {t : Int} {cb cb' : CurrentBooking} (h : ts.ShowsBusy t cb)
    (h' : ts.ShowsBusy t cb') : cb = cb' :=
  Option.some.inj (h.2.symm.trans h'.2)

theorem showsBusy_updateCurrentBooking {ts : Tables} {t u : Int} {cb cb' : CurrentBooking} :
    (ts.updateCurrentBooking t cb').ShowsBusy u cb ↔
      if u = t then (∃ cb₀, ts.ShowsBusy t cb₀) ∧ cb = cb' else ts.ShowsBusy u cb := by
  unfold updateCurrentBooking
  split
  · rename_i hsome
    obtain ⟨cb₀, hcb₀⟩ := Option.isSome_iff_exists.1 hsome.2
    by_cases hu : u = t
    · subst hu
      simp [ShowsBusy, hcb₀, eq_comm]
    · simp [ShowsBusy, hu]
  · rename_i hnone
    split
    · rename_i hu
      subst hu
      have hnot : ∀ cb₀, ¬ ts.ShowsBusy u cb₀ := fun cb₀ h =>
        hnone ⟨isSome_of_showsBusy h, by rw [h.2]; rfl⟩
      simp [hnot]
    · rfl

theorem showsBusy_activateTable {ts : Tables} {t u : Int} {cb cb' : CurrentBooking} :
    (ts.activateTable t cb).ShowsBusy u cb' ↔ if u = t then cb' = cb else ts.ShowsBusy u cb' := by
  unfold ShowsBusy activateTable
  by_cases h : u = t
  · subst h
    simp [eq_comm]
  · simp [h]

theorem showsBusy_deactivateTable {ts : Tables} {t u : Int} {cb : CurrentBooking} :
    (ts.deactivateTable t).ShowsBusy u cb ↔ u ≠ t ∧ ts.ShowsBusy u cb := by
  unfold ShowsBusy deactivateTable
  by_cases h : u = t
  · subst h
    simp
  · simp [h]

end Tables

/-- The critical sections of the cache's mutating methods. -/
inductive CacheWrite
  | hydrateTable (tableID : Int) (booking : Option CurrentBooking)
  | activateTable (tableID : Int) (booking : CurrentBooking)
  | deactivateTable (tableID : Int)
  | setLightStatus (tableID : Int) (targetState : LightStatus)
  | setAllLightStatuses (targetState : LightStatus)
  | confirmLightStatus (tableID : Int) (state : LightStatus)
  | confirmAllLightStatuses (state : LightStatus)
  | confirmFullSync
  | updateCurrentBooking (tableID : Int) (partialBooking : CurrentBooking)
  deriving DecidableEq

/-- The new map, and whether the method broadcasts afterwards: a confirmation only if it changed
something, an update of the booking only if the key exists, hydration never. -/
def CacheWrite.apply (ts : Tables) : CacheWrite → Tables × Bool
  | .hydrateTable tableID booking => (ts.hydrateTable tableID booking, false)
  | .activateTable tableID booking => (ts.activateTable tableID booking, true)
  | .deactivateTable tableID => (ts.deactivateTable tableID, true)
  | .setLightStatus tableID targetState => (ts.setLightStatus tableID targetState, true)
  | .setAllLightStatuses targetState => (ts.setAllLightStatuses targetState, true)
  | .confirmLightStatus tableID state => ts.confirmLightStatus tableID state
  | .confirmAllLightStatuses state => ts.confirmAllLightStatuses state
  | .confirmFullSync => (ts.confirmFullSync,
      ts.getAll.any fun t => t.lightStatus = .pendingOn ∨ t.lightStatus = .pendingOff)
  | .updateCurrentBooking tableID partialBooking =>
      (ts.updateCurrentBooking tableID partialBooking, (ts tableID).isSome)

namespace Tables

theorem tableID_set (ts : Tables) (t u : Int) (s : TableState) :
    ((ts.set u s).get t).tableID = if t = u then s.tableID else (ts.get t).tableID := by
  by_cases h : t = u
  · subst h
    rw [get_set_self, if_pos rfl]
  · rw [get_set_ne ts s h, if_neg h]

/-- No write renumbers a table. -/
theorem tableID_apply (c : CacheWrite) (ts : Tables) (t : Int) :
    ((c.apply ts).1.get t).tableID = (ts.get t).tableID := by
  have hset : ∀ u s, s.tableID = (ts.get u).tableID →
      ((ts.set u s).get t).tableID = (ts.get t).tableID := by
    intro u s hs
    rw [tableID_set]
    split
    · rename_i ht
      rw [hs, ht]
    · rfl
  cases c with
  | hydrateTable u booking => cases booking <;> exact hset u _ rfl
  | activateTable u booking => exact hset u _ rfl
  | deactivateTable u => exact hset u _ rfl
  | setLightStatus u targetState => exact hset u _ rfl
  | setAllLightStatuses targetState =>
    simp only [CacheWrite.apply, setAllLightStatuses, get]
    split <;> rfl
  | confirmLightStatus u state =>
    rw [CacheWrite.apply, get_confirmLightStatus]
    split <;> rfl
  | confirmAllLightStatuses state =>
    by_cases ht : 1 ≤ t ∧ t ≤ 4
    · rw [CacheWrite.apply, get_confirmAllLightStatuses ts ht]
    · have hsame : (ts.confirmAllLightStatuses state).1 t = ts t :=
        if_neg fun h => ht ⟨h.1, h.2.1⟩
      rw [CacheWrite.apply, get, hsame, get]
  | confirmFullSync =>
    rw [CacheWrite.apply, get_confirmFullSync]
  | updateCurrentBooking u partialBooking =>
    simp only [CacheWrite.apply, updateCurrentBooking]
    split
    · exact hset u _ rfl
    · rfl

/-- The cache after the boot, which hydrates each table with its running booking, if it has one. -/
def hydrated (bookings : Int → Option CurrentBooking) : Tables :=
  [1, 2, 3, 4].foldl (fun ts t => ts.hydrateTable t (bookings t)) new

/-- What a new cache satisfies and a hydration keeps holds of the hydrated cache. -/
theorem hydrated_induction {P : Tables → Prop} (bookings : Int → Option CurrentBooking)
    (hnew : P new) (hstep : ∀ ts t, P ts → P (ts.hydrateTable t (bookings t))) :
    P (hydrated bookings) := by
  have hfold : ∀ (l : List Int) (ts : Tables), P ts →
      P (l.foldl (fun ts t => ts.hydrateTable t (bookings t)) ts) := by
    intro l
    induction l with
    | nil => exact fun _ h => h
    | cons t l ih => exact fun ts h => ih _ (hstep ts t h)
  exact hfold _ _ hnew

theorem tableID_hydrated (bookings : Int → Option CurrentBooking) {t : Int} (ht : 1 ≤ t ∧ t ≤ 4) :
    ((hydrated bookings).get t).tableID = t := by
  apply hydrated_induction bookings (P := fun ts => (ts.get t).tableID = t)
  · rw [get, new, if_pos ht, Option.getD_some]
  · intro ts u h
    exact (tableID_apply (.hydrateTable u (bookings u)) ts t).trans h

theorem light_hydrated (bookings : Int → Option CurrentBooking) {t : Int} (ht : 1 ≤ t ∧ t ≤ 4) :
    ((hydrated bookings).get t).lightStatus = .on ∨
      ((hydrated bookings).get t).lightStatus = .pendingOff := by
  apply hydrated_induction bookings
    (P := fun ts => (ts.get t).lightStatus = .on ∨ (ts.get t).lightStatus = .pendingOff)
  · rw [get, new, if_pos ht, Option.getD_some]
    exact .inr rfl
  · intro ts u h
    by_cases hu : t = u
    · subst hu
      cases bookings t <;> simp [hydrateTable]
    · cases bookings u <;> simpa [hydrateTable, hu] using h

theorem light_hydrated_booked {bookings : Int → Option CurrentBooking} {t : Int}
    (hbooked : (bookings t).isSome) (ht : 1 ≤ t ∧ t ≤ 4) :
    ((hydrated bookings).get t).lightStatus = .on := by
  obtain ⟨booking, hbooking⟩ := Option.isSome_iff_exists.1 hbooked
  have hstep : ∀ (ts : Tables) (u : Int), t ≠ u →
      ((ts.hydrateTable u (bookings u)).get t).lightStatus = (ts.get t).lightStatus := by
    intro ts u hu
    cases bookings u <;> simp [hydrateTable, hu]
  have hself : ∀ ts : Tables, ((ts.hydrateTable t (bookings t)).get t).lightStatus = .on := by
    intro ts
    rw [hbooking]
    simp [hydrateTable]
  simp only [hydrated, List.foldl_cons, List.foldl_nil]
  obtain rfl | rfl | rfl | rfl : t = 1 ∨ t = 2 ∨ t = 3 ∨ t = 4 := by omega
  · rw [hstep _ 4 (by decide), hstep _ 3 (by decide), hstep _ 2 (by decide), hself]
  · rw [hstep _ 4 (by decide), hstep _ 3 (by decide), hself]
  · rw [hstep _ 4 (by decide), hself]
  · rw [hself]

end Tables

end GbcVenue
