import GbcVenue.Cache.VenueCache
import Mathlib.Data.List.Induction

/-!
# What the cache represents

After any sequence of calls with tables of the venue, the cache has tables 1 to 4, and each is BUSY
exactly if it has a booking. Light operations and booking operations keep to their own fields.
-/

namespace GbcVenue

namespace CacheWrite

/-- A call with a table of the venue and a state that hardware confirms. -/
def Valid : CacheWrite → Prop
  | hydrateTable t _ | activateTable t _ | deactivateTable t | setLightStatus t _
  | updateCurrentBooking t _ => 1 ≤ t ∧ t ≤ 4
  | confirmLightStatus t state => (1 ≤ t ∧ t ≤ 4) ∧ (state = .on ∨ state = .off)
  | confirmAllLightStatuses state => state = .on ∨ state = .off
  | setAllLightStatuses _ | confirmFullSync => True

/-- The operations on lights. -/
def isLight : CacheWrite → Bool
  | setLightStatus .. | setAllLightStatuses _ | confirmLightStatus .. | confirmAllLightStatuses _
  | confirmFullSync => true
  | _ => false

/-- The table of an operation on bookings. -/
def bookingTable : CacheWrite → Option Int
  | hydrateTable t _ | activateTable t _ | deactivateTable t | updateCurrentBooking t _ => some t
  | _ => none

/-- The confirmations, and the hydration at boot. -/
def settles : CacheWrite → Bool
  | hydrateTable .. | confirmLightStatus .. | confirmAllLightStatuses _ | confirmFullSync => true
  | _ => false

/-- Whether the operation is about table `t`. -/
def reaches (t : Int) : CacheWrite → Bool
  | hydrateTable u _ | activateTable u _ | deactivateTable u | setLightStatus u _
  | confirmLightStatus u _ | updateCurrentBooking u _ => t = u
  | setAllLightStatuses _ | confirmAllLightStatuses _ | confirmFullSync => true

/-- What the operation makes of a table that it is about. -/
def rewrite (s : TableState) : CacheWrite → TableState
  | hydrateTable _ (some b) => { s with status := .busy, lightStatus := .on, currentBooking := some b }
  | hydrateTable _ none | deactivateTable _ =>
      { s with status := .available, lightStatus := .pendingOff, currentBooking := none }
  | activateTable _ b =>
      { s with status := .busy, lightStatus := .pendingOn, currentBooking := some b }
  | setLightStatus _ targetState | setAllLightStatuses targetState =>
      { s with lightStatus := Tables.pendingFor targetState }
  | confirmLightStatus _ state | confirmAllLightStatuses state => { s with lightStatus := state }
  | confirmFullSync => { s with lightStatus := Tables.settle s.lightStatus }
  | updateCurrentBooking _ b =>
      { s with currentBooking := if s.currentBooking.isSome then some b else none }

end CacheWrite

namespace Tables

/-- The keys of the cache are 1 to 4. -/
def Keyed (ts : Tables) : Prop := ∀ t, (ts t).isSome ↔ 1 ≤ t ∧ t ≤ 4

/-- A table is BUSY with a booking or AVAILABLE without one. -/
def Coupled (s : TableState) : Prop :=
  s.status = if s.currentBooking.isSome then .busy else .available

/-- The cache holds the tables of the venue, each under its number. -/
structure Represents (ts : Tables) : Prop where
  keyed : ts.Keyed
  numbered : ∀ t, 1 ≤ t ∧ t ≤ 4 → (ts.get t).tableID = t
  coupled : ∀ t, 1 ≤ t ∧ t ≤ 4 → Coupled (ts.get t)

/-- The cache after some calls. -/
def after (calls : List CacheWrite) : Tables := calls.foldl (fun ts c => (c.apply ts).1) new

theorem keyed_new : new.Keyed := by
  intro t
  unfold new
  split <;> simp [*]

theorem represents_new : new.Represents := by
  refine ⟨keyed_new, fun t ht => ?_, fun t ht => ?_⟩
  · rw [get, new, if_pos ht, Option.getD_some]
  · rw [get, new, if_pos ht, Option.getD_some]
    rfl

/-! ## One call -/

section

variable {ts : Tables} {c : CacheWrite} {t : Int} {s : TableState}

theorem some_get (hkeyed : ts.Keyed) (ht : 1 ≤ t ∧ t ≤ 4) : ts t = some (ts.get t) := by
  obtain ⟨s, hs⟩ := Option.isSome_iff_exists.1 ((hkeyed t).2 ht)
  rw [get, hs, Option.getD_some]

/-- Writing one table. -/
theorem set_eq (f : TableState → TableState) (u : Int) :
    ts.set u (f (ts.get u)) t = if decide (t = u) then some (f (ts.get t)) else ts t := by
  unfold set
  by_cases h : t = u
  · subst h
    simp
  · simp [h]

/-- Writing one table with what it was. -/
theorem eq_of_rewrite_eq (hkeyed : ts.Keyed) (ht : 1 ≤ t ∧ t ≤ 4) {p : Bool}
    (h : p → s = ts.get t) : ts t = if p then some s else ts t := by
  split
  · rename_i hp
    rw [h hp]
    exact some_get hkeyed ht
  · rfl

/-- A call leaves a table as it is or rewrites it, and it rewrites only what it is about. -/
theorem apply_eq (hkeyed : ts.Keyed) (ht : 1 ≤ t ∧ t ≤ 4) :
    (c.apply ts).1 t = if c.reaches t then some (c.rewrite (ts.get t)) else ts t := by
  cases c with
  | hydrateTable u booking =>
    cases booking with
    | none => exact set_eq (CacheWrite.rewrite · (.hydrateTable u none)) u
    | some b => exact set_eq (CacheWrite.rewrite · (.hydrateTable u (some b))) u
  | activateTable u b => exact set_eq (CacheWrite.rewrite · (.activateTable u b)) u
  | deactivateTable u => exact set_eq (CacheWrite.rewrite · (.deactivateTable u)) u
  | setLightStatus u targetState => exact set_eq (CacheWrite.rewrite · (.setLightStatus u targetState)) u
  | setAllLightStatuses targetState => exact if_pos ht
  | confirmLightStatus u state =>
    simp only [CacheWrite.apply, confirmLightStatus]
    split
    · exact set_eq (CacheWrite.rewrite · (.confirmLightStatus u state)) u
    · rename_i hsame
      refine eq_of_rewrite_eq hkeyed ht fun hu => ?_
      obtain rfl : t = u := of_decide_eq_true hu
      rw [CacheWrite.rewrite, ← not_not.1 hsame]
  | confirmAllLightStatuses state =>
    simp only [CacheWrite.apply, confirmAllLightStatuses]
    split
    · rfl
    · rename_i hsame
      refine eq_of_rewrite_eq hkeyed ht fun _ => ?_
      have hlight : (ts.get t).lightStatus = state := by
        by_contra hne
        exact hsame ⟨ht.1, ht.2, hne⟩
      rw [CacheWrite.rewrite, ← hlight]
  | confirmFullSync =>
    simp only [CacheWrite.apply, confirmFullSync]
    rw [some_get hkeyed ht]
    rfl
  | updateCurrentBooking u b =>
    simp only [CacheWrite.apply, updateCurrentBooking]
    split
    · rename_i hsome
      have hset : ts.set u (CacheWrite.rewrite (ts.get u) (.updateCurrentBooking u b)) t = _ :=
        set_eq (CacheWrite.rewrite · (.updateCurrentBooking u b)) u
      rwa [CacheWrite.rewrite, if_pos hsome.2] at hset
    · rename_i hnone
      refine eq_of_rewrite_eq hkeyed ht fun hu => ?_
      obtain rfl : t = u := of_decide_eq_true hu
      have hfree : (ts.get t).currentBooking = none := by
        have hkey : (ts t).isSome := (hkeyed t).2 ht
        simpa [hkey] using hnone
      rw [CacheWrite.rewrite, hfree]
      exact congrArg (fun b => { ts.get t with currentBooking := b }) hfree.symm

/-- A call with a table of the venue makes no other entry. -/
theorem apply_outside (hkeyed : ts.Keyed) (hc : c.Valid) (ht : ¬ (1 ≤ t ∧ t ≤ 4)) :
    (c.apply ts).1 t = ts t := by
  have hset : ∀ u s, 1 ≤ u ∧ u ≤ 4 → ts.set u s t = ts t := by
    intro u s hu
    refine if_neg ?_
    rintro rfl
    exact ht hu
  cases c with
  | hydrateTable u booking => cases booking <;> exact hset u _ hc
  | activateTable u b => exact hset u _ hc
  | deactivateTable u => exact hset u _ hc
  | setLightStatus u targetState => exact hset u _ hc
  | setAllLightStatuses targetState => exact if_neg ht
  | confirmLightStatus u state =>
    simp only [CacheWrite.apply, confirmLightStatus]
    split
    · exact hset u _ hc.1
    · rfl
  | confirmAllLightStatuses state => exact if_neg fun h => ht ⟨h.1, h.2.1⟩
  | confirmFullSync =>
    have hnone : ts t = none := by
      rw [← Option.not_isSome_iff_eq_none, hkeyed t]
      exact ht
    simp only [CacheWrite.apply, confirmFullSync, hnone, Option.map_none]
  | updateCurrentBooking u b =>
    simp only [CacheWrite.apply, updateCurrentBooking]
    split
    · exact hset u _ hc
    · rfl

/-- A table after a call. -/
theorem get_apply (hkeyed : ts.Keyed) (ht : 1 ≤ t ∧ t ≤ 4) :
    (c.apply ts).1.get t = if c.reaches t then c.rewrite (ts.get t) else ts.get t := by
  rw [get, apply_eq hkeyed ht]
  split <;> rfl

theorem Coupled.rewrite (h : Coupled s) (c : CacheWrite) : Coupled (c.rewrite s) := by
  unfold Coupled at *
  cases c with
  | hydrateTable u booking => cases booking <;> rfl
  | updateCurrentBooking u b =>
    rw [CacheWrite.rewrite]
    cases hb : s.currentBooking <;> simpa [hb] using h
  | activateTable u b => rfl
  | deactivateTable u => rfl
  | _ => exact h

/-- A light operation rewrites the light alone. -/
theorem rewrite_isLight (hc : c.isLight) (s : TableState) :
    (c.rewrite s).status = s.status ∧ (c.rewrite s).currentBooking = s.currentBooking := by
  cases c <;> first | exact ⟨rfl, rfl⟩ | cases hc

/-- A light that another operation than a confirmation or the hydration rewrites is pending. -/
theorem rewrite_not_settles (hc : ¬ c.settles) (s : TableState) :
    (c.rewrite s).lightStatus = s.lightStatus ∨ (c.rewrite s).lightStatus = .pendingOn ∨
      (c.rewrite s).lightStatus = .pendingOff := by
  have hpending : ∀ targetState, pendingFor targetState = .pendingOn ∨
      pendingFor targetState = .pendingOff := by
    intro targetState
    unfold pendingFor
    split
    · exact .inl rfl
    · exact .inr rfl
  cases c with
  | activateTable u b => exact .inr (.inl rfl)
  | deactivateTable u => exact .inr (.inr rfl)
  | setLightStatus u targetState => exact .inr (hpending targetState)
  | setAllLightStatuses targetState => exact .inr (hpending targetState)
  | updateCurrentBooking u b => exact .inl rfl
  | _ => exact absurd rfl hc

theorem Represents.apply (h : ts.Represents) (hc : c.Valid) : (c.apply ts).1.Represents := by
  refine ⟨fun t => ?_, fun t ht => ?_, fun t ht => ?_⟩
  · by_cases ht : 1 ≤ t ∧ t ≤ 4
    · rw [apply_eq h.keyed ht]
      refine iff_of_true ?_ ht
      split
      · rfl
      · exact (h.keyed t).2 ht
    · rw [apply_outside h.keyed hc ht]
      exact h.keyed t
  · rw [tableID_apply]
    exact h.numbered t ht
  · rw [get_apply h.keyed ht]
    split
    · exact (h.coupled t ht).rewrite c
    · exact h.coupled t ht

end

/-! ## All calls -/

/-- The cache represents the venue after any calls. -/
theorem represents_after {calls : List CacheWrite} (hcalls : ∀ c ∈ calls, c.Valid) :
    (after calls).Represents := by
  induction calls using List.reverseRecOn with
  | nil => exact represents_new
  | append_singleton calls c ih =>
    have hbefore := ih fun c' hc' => hcalls c' (List.mem_append_left _ hc')
    rw [after, List.foldl_append]
    exact hbefore.apply (hcalls c (List.mem_append_right _ List.mem_cons_self))

/-- `GetAll` lists tables 1 to 4 in order, each BUSY with a booking or AVAILABLE without one. -/
structure ListsVenue (ts : Tables) : Prop where
  inOrder : ts.getAll.map TableState.tableID = [1, 2, 3, 4]
  busy_iff : ∀ s ∈ ts.getAll, s.status = .busy ↔ s.currentBooking.isSome
  available_iff : ∀ s ∈ ts.getAll, s.status = .available ↔ s.currentBooking = none

theorem mem_getAll {ts : Tables} {s : TableState} :
    s ∈ ts.getAll ↔ ∃ t, (1 ≤ t ∧ t ≤ 4) ∧ s = ts.get t := by
  constructor
  · intro hs
    simp only [getAll, List.mem_cons, List.not_mem_nil, or_false] at hs
    rcases hs with hs | hs | hs | hs <;> exact ⟨_, by decide, hs⟩
  · rintro ⟨t, ht, rfl⟩
    obtain rfl | rfl | rfl | rfl : t = 1 ∨ t = 2 ∨ t = 3 ∨ t = 4 := by omega
    all_goals simp [getAll]

theorem Represents.listsVenue {ts : Tables} (h : ts.Represents) : ts.ListsVenue := by
  refine ⟨?_, fun s hs => ?_, fun s hs => ?_⟩
  · simp [getAll, h.numbered]
  · obtain ⟨t, ht, rfl⟩ := mem_getAll.1 hs
    rw [h.coupled t ht]
    cases (ts.get t).currentBooking <;> simp
  · obtain ⟨t, ht, rfl⟩ := mem_getAll.1 hs
    rw [h.coupled t ht]
    cases (ts.get t).currentBooking <;> simp

/-- What call `c` changes of a table, from `s` to `s'`. -/
structure KeepsApart (c : CacheWrite) (t : Int) (s s' : TableState) : Prop where
  light : c.isLight → s'.status = s.status ∧ s'.currentBooking = s.currentBooking
  elsewhere : ∀ u, c.bookingTable = some u → t ≠ u → s' = s
  settled : s'.lightStatus = .on ∨ s'.lightStatus = .off → s'.lightStatus ≠ s.lightStatus → c.settles

theorem Represents.keepsApart {ts : Tables} (h : ts.Represents) (c : CacheWrite) {t : Int}
    (ht : 1 ≤ t ∧ t ≤ 4) : KeepsApart c t (ts.get t) ((c.apply ts).1.get t) := by
  rw [get_apply h.keyed ht]
  split
  · rename_i hreach
    refine ⟨fun hc => rewrite_isLight hc _, fun u hu hne => ?_, fun hsettled hchanged => ?_⟩
    · cases c <;> cases hu <;> exact absurd (of_decide_eq_true hreach) hne
    · by_contra hc
      rcases rewrite_not_settles hc (ts.get t) with hsame | hpending | hpending
      · exact hchanged hsame
      · rw [hpending] at hsettled
        rcases hsettled with hsettled | hsettled <;> cases hsettled
      · rw [hpending] at hsettled
        rcases hsettled with hsettled | hsettled <;> cases hsettled
  · exact ⟨fun _ => ⟨rfl, rfl⟩, fun _ _ _ => rfl, fun _ hchanged => absurd rfl hchanged⟩

/-- After any calls with tables of the venue and confirmed states, `GetAll` lists tables 1 to 4, BUSY
exactly with a booking; and of a further call, a light operation changes no status and no booking, a
booking operation no other table, and a light becomes ON or OFF only if it is confirmed or hydrated. -/
theorem cache_represents_venue {calls : List CacheWrite} (hcalls : ∀ c ∈ calls, c.Valid) :
    (after calls).ListsVenue ∧ ∀ c : CacheWrite, c.Valid → ∀ t, 1 ≤ t ∧ t ≤ 4 →
      KeepsApart c t ((after calls).get t) ((after (calls ++ [c])).get t) := by
  have h := represents_after hcalls
  refine ⟨h.listsVenue, fun c _ t ht => ?_⟩
  have hnext : after (calls ++ [c]) = (c.apply (after calls)).1 := by
    rw [after, List.foldl_append]
    rfl
  rw [hnext]
  exact h.keepsApart c ht

/-- A booking of table 2 as the cache holds it. -/
def sampleBooking : CurrentBooking :=
  ⟨"b1", "Ann", "0", "2030-01-01T10:00:00Z", "2030-01-01T11:00:00Z", 60, 0, false⟩

/-- A booking that starts, has its light confirmed and ends. -/
theorem cache_represents_venue_session :
    (after [.activateTable 2 sampleBooking, .confirmLightStatus 2 .on,
      .deactivateTable 2]).ListsVenue := by
  refine (cache_represents_venue ?_).1
  intro c hc
  simp only [List.mem_cons, List.not_mem_nil, or_false] at hc
  rcases hc with rfl | rfl | rfl
  · exact ⟨by decide, by decide⟩
  · exact ⟨⟨by decide, by decide⟩, .inl rfl⟩
  · exact ⟨by decide, by decide⟩

end Tables

end GbcVenue
