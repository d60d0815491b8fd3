import GbcVenue.Lights.Controller
import Mathlib.Data.List.Chain

/-!
# The end of a wink

`update` ends a wink when the reading of `millis()` has reached that computed for the end, and not by the
difference as it does for the relays. `winks_exact_iff`: this is right in every call exactly as long as
the counter does not wrap between the call and the end of the wink.
-/

namespace GbcVenue

open Interleaving WrappingCounter

namespace Hardware

namespace WinkUpdate

/-- The call restores the solid light if the wink began 100 ms ago or more, and otherwise leaves the
wink. -/
def Exact (e : WinkUpdate) : Prop :=
  (e.began + 100 ≤ e.moment → e.winkPending = false ∧ e.isOn) ∧
    (e.moment < e.began + 100 → e.winkPending)

/-- The call and the end of the wink lie in the same period of the counter. -/
def Unwrapped (e : WinkUpdate) : Prop := SamePeriod (2 ^ 32) e.moment (e.began + 100)

instance (e : WinkUpdate) : Decidable e.Unwrapped :=
  inferInstanceAs (Decidable (SamePeriod (2 ^ 32) e.moment (e.began + 100)))

end WinkUpdate

namespace Device

/-- Every call of `update` that met a wink did right. -/
def WinksExact (s : Device) : Prop := ∀ e ∈ s.winks, e.Exact

def WinksUnwrapped (s : Device) : Prop := ∀ e ∈ s.winks, e.Unwrapped

/-- At most `D` ms lie between two calls of `update`. -/
def UpdatesWithin (D : Nat) (s : Device) : Prop := s.updates.IsChain fun u v => u ≤ v + D

end Device

/-! ## The indicator in `update` -/

namespace Indicator

variable {n : Indicator} {millis : UInt32} {wifi mqtt : Bool}

theorem desired_eq_netOnline : desired wifi mqtt = .netOnline ↔ wifi ∧ mqtt := by
  cases wifi <;> cases mqtt <;> decide

theorem solid_indicatorState (state : IndicatorState) : (n.solid state).indicatorState = state := by
  unfold solid
  split
  · rfl
  · rename_i h
    exact (not_not.1 h).symm

theorem update_indicatorState :
    (n.update millis wifi mqtt).indicatorState = desired wifi mqtt := by
  have hpulse : ∀ n : Indicator, (n.doublePulse millis).indicatorState = n.indicatorState := by
    intro n
    unfold doublePulse
    split <;> rfl
  have hrestore : ∀ n : Indicator, (n.restoreWink millis).indicatorState = n.indicatorState := by
    intro n
    unfold restoreWink
    split <;> rfl
  rw [update, hrestore, hpulse, solid_indicatorState]

/-- With both connections up an indicator that is online goes through `restoreWink` only. -/
theorem update_of_online (h : n.indicatorState = .netOnline) (hup : wifi ∧ mqtt) :
    n.update millis wifi mqtt = n.restoreWink millis := by
  have hsolid : n.solid (desired wifi mqtt) = n := by
    rw [desired_eq_netOnline.2 hup, ← h]
    exact if_neg (not_not.2 rfl)
  have hpulse : n.doublePulse millis = n := by
    refine if_neg ?_
    rw [h]
    exact nofun
  rw [update, hsolid, hpulse]

/-- At the end of a wink the light is solid again. -/
theorem restoreWink_over (h : n.indicatorState = .netOnline) (hpending : n.winkPending)
    (hover : n.winkEndTime ≤ millis) :
    n.restoreWink millis = { n with winkPending := false, isOn := true } := by
  rw [restoreWink, if_pos ⟨hpending, hover⟩, if_pos h]

theorem restoreWink_not_over (hover : ¬ n.winkEndTime ≤ millis) : n.restoreWink millis = n :=
  if_neg fun h => hover h.2

theorem restoreWink_winkPending (h : n.winkPending = false) :
    (n.restoreWink millis).winkPending = false := by
  unfold restoreWink
  split
  · rfl
  · exact h

/-- Without both connections no wink outlasts the call. -/
theorem update_winkPending (h : n.winkPending → n.indicatorState = .netOnline)
    (hup : ¬ (n.winkPending ∧ wifi ∧ mqtt)) : (n.update millis wifi mqtt).winkPending = false := by
  have hsolid : (n.solid (desired wifi mqtt)).winkPending = false := by
    unfold solid
    split
    · rfl
    · rename_i hstate
      by_contra hpending
      rw [Bool.not_eq_false] at hpending
      refine hup ⟨hpending, desired_eq_netOnline.1 ?_⟩
      rw [not_not.1 hstate, h hpending]
  refine restoreWink_winkPending ?_
  unfold doublePulse
  split
  · rfl
  · exact hsolid

end Indicator

/-! ## One call of `update` -/

namespace Device

/-- A wink that began at the recorded moment is pending. -/
structure Winking (s : Device) : Prop where
  online : s.indicator.indicatorState = .netOnline
  winkEndTime : s.indicator.winkEndTime = .ofNat (s.began + 100)
  began_le : s.began ≤ s.now

/-- What the call of `update` with both connections up records. -/
def winkUpdate (s : Device) : WinkUpdate :=
  ⟨s.began, s.now, (s.indicator.restoreWink s.millis).winkPending,
    (s.indicator.restoreWink s.millis).isOn⟩

variable {s s' : Device}

/-- It does right if and only if the readings compare as the moments do. -/
theorem Winking.exact_iff (h : s.Winking) (hpending : s.indicator.winkPending) :
    s.winkUpdate.Exact ↔
      ((s.began + 100) % 2 ^ 32 ≤ s.now % 2 ^ 32 ↔ s.began + 100 ≤ s.now) := by
  have hreading : s.indicator.winkEndTime ≤ s.millis ↔
      (s.began + 100) % 2 ^ 32 ≤ s.now % 2 ^ 32 := by
    rw [h.winkEndTime]
    exact ofNat_le_ofNat
  unfold WinkUpdate.Exact winkUpdate
  rw [← hreading]
  by_cases hover : s.indicator.winkEndTime ≤ s.millis
  · rw [Indicator.restoreWink_over h.online hpending hover]
    simp only [hover, true_iff, true_and, imp_true_iff, Bool.false_eq_true, imp_false, not_lt]
  · rw [Indicator.restoreWink_not_over hover]
    simp only [hpending, hover, false_iff, Bool.true_eq_false, false_and, imp_false, imp_true_iff,
      and_true]

theorem Winking.exact_of_unwrapped (h : s.Winking) (hpending : s.indicator.winkPending)
    (hsame : s.winkUpdate.Unwrapped) : s.winkUpdate.Exact :=
  (h.exact_iff hpending).2 (mod_le_mod_iff hsame)

/-- Less than a period after the end of the wink, the call does right only if the counter has not
wrapped. -/
theorem Winking.unwrapped_of_exact (h : s.Winking) (hpending : s.indicator.winkPending)
    (hlate : s.now < s.began + 100 + 2 ^ 32) (hexact : s.winkUpdate.Exact) : s.winkUpdate.Unwrapped := by
  have hbegan := h.began_le
  exact (mod_le_mod_right_iff (by omega) hlate).1 ((h.exact_iff hpending).1 hexact)

/-! ## Every run -/

structure WinkInv (D : Nat) (s : Device) : Prop where
  updates_le : ∀ u ∈ s.updates, u ≤ s.now
  online : s.indicator.indicatorState = .netOnline → s.updates ≠ []
  winking : s.indicator.winkPending → s.Winking
  exact_of_unwrapped : s.WinksUnwrapped → s.WinksExact
  unwrapped_of_exact : s.UpdatesWithin D → s.WinksExact → s.WinksUnwrapped
  last_early : s.UpdatesWithin D → s.WinksExact → s.indicator.winkPending →
    ∀ u ∈ s.updates.head?, u < s.began + 100

variable {D : Nat}

theorem winkInv_start : WinkInv D start :=
  ⟨nofun, nofun, nofun, fun _ => nofun, fun _ _ => nofun, nofun⟩

/-- The relays and the passing of time make no difference. -/
theorem WinkInv.frame (h : s.WinkInv D) (tables : Tables) (events : Int → List TableEvent) {now : Nat}
    (hnow : s.now ≤ now) :
    WinkInv D { s with tables := tables, events := events, now := now } := by
  refine ⟨fun u hu => (h.updates_le u hu).trans hnow, h.online, fun hpending => ?_,
    h.exact_of_unwrapped, h.unwrapped_of_exact, h.last_early⟩
  obtain ⟨honline, hend, hbegan⟩ := h.winking hpending
  exact ⟨honline, hend, hbegan.trans hnow⟩

theorem WinkInv.winkNetworkIndicator (h : s.WinkInv D)
    (hstep : s.step .winkNetworkIndicator = some s') : s'.WinkInv D := by
  obtain rfl := Option.some.inj hstep
  by_cases hblocked : s.indicator.indicatorState ≠ .netOnline ∨ s.indicator.winkPending
  · have hsame : s.indicator.winkNetworkIndicator s.millis = s.indicator := if_pos hblocked
    rw [hsame, if_pos hblocked]
    exact h
  · have hnew : s.indicator.winkNetworkIndicator s.millis = { s.indicator with
        winkPending := true, winkEndTime := s.millis + 100, isOn := false } := if_neg hblocked
    have honline : s.indicator.indicatorState = .netOnline :=
      not_not.1 fun hstate => hblocked (.inl hstate)
    rw [hnew, if_neg hblocked]
    refine ⟨h.updates_le, h.online, fun _ => ⟨honline, ?_, le_rfl⟩, h.exact_of_unwrapped,
      h.unwrapped_of_exact, fun _ _ _ u hu => ?_⟩
    · exact (UInt32.ofNat_add s.now 100).symm
    · have hle : u ≤ s.now := h.updates_le u (List.mem_of_mem_head? hu)
      exact Nat.lt_of_le_of_lt hle (Nat.lt_add_of_pos_right (by decide))

theorem UpdatesWithin.before (hupdates : s'.updates = s.now :: s.updates) (h : s'.UpdatesWithin D) :
    (∀ u ∈ s.updates.head?, s.now ≤ u + D) ∧ s.UpdatesWithin D := by
  unfold UpdatesWithin at h
  rw [hupdates] at h
  exact List.isChain_cons.1 h

/-- As long as every call did right, the one before was early, and this one is not a period late. -/
theorem WinkInv.not_late (h : s.WinkInv D) (hD : D < 2 ^ 31) (hpending : s.indicator.winkPending)
    (hgap : ∀ u ∈ s.updates.head?, s.now ≤ u + D) (hwithin : s.UpdatesWithin D)
    (hexact : s.WinksExact) : s.now < s.began + 100 + 2 ^ 32 := by
  have hearly := h.last_early hwithin hexact hpending
  cases hupdates : s.updates with
  | nil => exact absurd hupdates (h.online (h.winking hpending).online)
  | cons u rest =>
    rw [hupdates] at hgap hearly
    have hle := hgap u rfl
    have hlt := hearly u rfl
    omega

/-- A call that meets a wink with both connections up. -/
theorem WinkInv.update_winking (h : s.WinkInv D) (hD : D < 2 ^ 31) {wifi mqtt : Bool}
    (hup : s.indicator.winkPending ∧ wifi ∧ mqtt)
    (hstep : s.step (.update wifi mqtt) = some s') : s'.WinkInv D := by
  have hwinking := h.winking hup.1
  obtain ⟨-, hindicator, -, hbegan, hupdates, hnow, hwinks⟩ := step_update hstep
  rw [Indicator.update_of_online hwinking.online hup.2] at hindicator hwinks
  rw [if_pos hup] at hwinks
  have hexact : s'.WinksExact ↔ s.winkUpdate.Exact ∧ s.WinksExact := by
    unfold WinksExact
    rw [hwinks, List.forall_mem_cons, winkUpdate]
  have hunwrapped : s'.WinksUnwrapped ↔ s.winkUpdate.Unwrapped ∧ s.WinksUnwrapped := by
    unfold WinksUnwrapped
    rw [hwinks, List.forall_mem_cons, winkUpdate]
  have hstays : s'.indicator.winkPending → s'.indicator = s.indicator := by
    intro hpending
    rw [hindicator] at hpending ⊢
    by_cases hover : s.indicator.winkEndTime ≤ s.millis
    · rw [Indicator.restoreWink_over hwinking.online hup.1 hover] at hpending
      cases hpending
    · exact Indicator.restoreWink_not_over hover
  refine ⟨updates_le_cons h.updates_le hupdates hnow, fun _ => ?_, fun hpending => ?_, fun hall => ?_,
    fun hwithin hall => ?_, fun hwithin hall hpending u hu => ?_⟩
  · rw [hupdates]
    exact List.cons_ne_nil _ _
  · have hsame := hstays hpending
    refine ⟨?_, ?_, ?_⟩
    · rw [hsame]
      exact hwinking.online
    · rw [hsame, hbegan]
      exact hwinking.winkEndTime
    · rw [hbegan, hnow]
      exact hwinking.began_le
  · obtain ⟨hlast, hall⟩ := hunwrapped.1 hall
    exact hexact.2 ⟨hwinking.exact_of_unwrapped hup.1 hlast, h.exact_of_unwrapped hall⟩
  · obtain ⟨hgap, hwithin⟩ := hwithin.before hupdates
    obtain ⟨hlast, hall⟩ := hexact.1 hall
    have hlate := h.not_late hD hup.1 hgap hwithin hall
    exact hunwrapped.2 ⟨hwinking.unwrapped_of_exact hup.1 hlate hlast,
      h.unwrapped_of_exact hwithin hall⟩
  · rw [hupdates] at hu
    obtain rfl : s.now = u := Option.some.inj hu
    rw [hbegan]
    by_contra hold
    have hover := ((hexact.1 hall).1.1 (Nat.not_lt.1 hold)).1
    rw [hindicator] at hpending
    exact absurd hpending (Bool.eq_false_iff.1 hover)

/-- A call that meets no wink, or ends it for want of a connection. -/
theorem WinkInv.update_other (h : s.WinkInv D) {wifi mqtt : Bool}
    (hup : ¬ (s.indicator.winkPending ∧ wifi ∧ mqtt))
    (hstep : s.step (.update wifi mqtt) = some s') : s'.WinkInv D := by
  obtain ⟨-, hindicator, -, -, hupdates, hnow, hwinks⟩ := step_update hstep
  rw [if_neg hup] at hwinks
  have hnot : ¬ s'.indicator.winkPending := by
    rw [hindicator, Bool.not_eq_true]
    exact Indicator.update_winkPending (fun hpending => (h.winking hpending).online) hup
  have hexact : s'.WinksExact ↔ s.WinksExact := by
    unfold WinksExact
    rw [hwinks]
  have hunwrapped : s'.WinksUnwrapped ↔ s.WinksUnwrapped := by
    unfold WinksUnwrapped
    rw [hwinks]
  refine ⟨updates_le_cons h.updates_le hupdates hnow, fun _ => ?_, fun h => absurd h hnot,
    fun hall => ?_, fun hwithin hall => ?_, fun _ _ h => absurd h hnot⟩
  · rw [hupdates]
    exact List.cons_ne_nil _ _
  · exact hexact.2 (h.exact_of_unwrapped (hunwrapped.1 hall))
  · exact hunwrapped.2 (h.unwrapped_of_exact (hwithin.before hupdates).2 (hexact.1 hall))

theorem WinkInv.step (h : s.WinkInv D) (hD : D < 2 ^ 31) {a : Call} (hstep : s.step a = some s') :
    s'.WinkInv D := by
  cases a with
  | wait n =>
    obtain rfl := Option.some.inj hstep
    exact h.frame s.tables s.events (Nat.le_add_right _ _)
  | setImmediate id isOn =>
    obtain rfl := Option.some.inj hstep
    exact h.frame _ s.events le_rfl
  | queueState id isOn cmdID =>
    obtain rfl := Option.some.inj hstep
    exact h.frame _ _ le_rfl
  | queueStateAll isOn =>
    obtain rfl := Option.some.inj hstep
    exact h.frame _ _ le_rfl
  | winkNetworkIndicator => exact h.winkNetworkIndicator hstep
  | update wifi mqtt =>
    by_cases hup : s.indicator.winkPending ∧ wifi ∧ mqtt
    · exact h.update_winking hD hup hstep
    · exact h.update_other hup hstep

/-- In every run every call of `update` does right by the wink that it meets if both the call and the end of
the wink lie in one period of the counter, and if the calls are at most `D` ms apart, only then. -/
theorem winks_exact_iff (hD : D < 2 ^ 31) (h : Reaches (fun _ _ => True) start s) :
    (s.WinksUnwrapped → s.WinksExact) ∧
      (s.UpdatesWithin D → s.WinksExact → s.WinksUnwrapped) := by
  have hinv : s.WinkInv D :=
    h.invariant winkInv_start fun _ _ _ hs _ hstep => hs.step hD hstep
  exact ⟨hinv.exact_of_unwrapped, hinv.unwrapped_of_exact⟩

/-- The counter wraps between the beginning of a wink and its end. -/
theorem winks_exact_iff_wrapped :
    ∃ s : Device, s.winks = [⟨4294967236, 4294967340, false, true⟩] ∧ s.WinksExact := by
  have hrun : (runIf step (fun _ _ => True) [.wait 4294967000, .update true true, .wait 236,
      .winkNetworkIndicator, .wait 104, .update true true] start).map winks =
      some [⟨4294967236, 4294967340, false, true⟩] := by decide +kernel
  obtain ⟨s, hs, hwinks⟩ := Option.map_eq_some_iff.1 hrun
  have hunwrapped : s.WinksUnwrapped := by
    unfold WinksUnwrapped
    rw [hwinks]
    decide +kernel
  exact ⟨s, hwinks, (winks_exact_iff (D := 1000) (by decide) (reaches_of_runIf hs)).1 hunwrapped⟩

/-- `update` is called every 20 ms, and the counter wraps between the last reading below that of the end
and the next one: the wink goes on. -/
theorem wink_can_get_stuck : ¬ ∀ D s, D < 2 ^ 31 → Reaches (fun _ _ => True) start s →
    s.UpdatesWithin D → s.WinksExact := by
  intro h
  have hrun : (runIf step (fun _ _ => True) [.wait 4294967180, .update true true, .wait 10,
      .winkNetworkIndicator, .wait 10, .update true true, .wait 20, .update true true, .wait 20,
      .update true true, .wait 20, .update true true, .wait 20, .update true true, .wait 20,
      .update true true] start).map (fun s => (s.winks.head?, s.updates)) =
      some (some ⟨4294967190, 4294967300, true, false⟩, [4294967300, 4294967280, 4294967260,
        4294967240, 4294967220, 4294967200, 4294967180]) := by decide +kernel
  obtain ⟨s, hs, hend⟩ := Option.map_eq_some_iff.1 hrun
  obtain ⟨hwinks, hupdates⟩ := Prod.mk.inj hend
  have hwithin : s.UpdatesWithin 20 := by
    unfold UpdatesWithin
    rw [hupdates]
    decide +kernel
  have hlast := h 20 s (by decide) (reaches_of_runIf hs) hwithin _ (List.mem_of_mem_head? hwinks)
  cases (hlast.1 (by decide)).1

end Device

end Hardware

end GbcVenue
