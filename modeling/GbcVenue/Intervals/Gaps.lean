import Mathlib.Data.Set.Lattice
import Mathlib.Order.CompletePartialOrder
import Mathlib.Order.Interval.Set.Disjoint
import Mathlib.Order.Interval.Set.LinearOrder

/-!
# Gaps between intervals

A sweep over half-open intervals in the order of their starts leaves the stretches between them, up to
a limit. The gaps come in order, none meets an interval, and a stretch that meets no interval lies
inside one of them.
-/

namespace Intervals

/-- The interval from `start` to `stop`, without `stop`. -/
structure Stretch (α : Type) where
  start : α
  stop : α

variable {α : Type} [LinearOrder α]

/-- The points of an interval. -/
def Stretch.points (i : Stretch α) : Set α := Set.Ico i.start i.stop

/-- The gap between two points, if there is one. -/
def gap (start stop : α) : List (Stretch α) := if start < stop then [⟨start, stop⟩] else []

/-- The gaps of a sweep that has come to `cursor`. -/
def gaps (limit : α) : α → List (Stretch α) → List (Stretch α)
  | cursor, [] => gap cursor limit
  | cursor, i :: is => gap cursor i.start ++ gaps limit (max cursor i.stop) is

theorem mem_gap {start stop : α} {g : Stretch α} (h : g ∈ gap start stop) :
    g = ⟨start, stop⟩ ∧ start < stop := by
  unfold gap at h
  split at h
  · rename_i hlt
    exact ⟨List.mem_singleton.1 h, hlt⟩
  · cases h

theorem pairwise_gap (start stop : α) (R : Stretch α → Stretch α → Prop) :
    (gap start stop).Pairwise R := by
  unfold gap
  split
  · exact List.pairwise_singleton _ _
  · exact .nil

/-- No gap begins before the sweep. -/
theorem cursor_le_of_mem {limit : α} {is : List (Stretch α)} :
    ∀ {cursor : α}, ∀ g ∈ gaps limit cursor is, cursor ≤ g.start := by
  induction is with
  | nil =>
    intro cursor g hg
    rw [(mem_gap hg).1]
  | cons i is ih =>
    intro cursor g hg
    rcases List.mem_append.1 hg with hg | hg
    · rw [(mem_gap hg).1]
    · exact (le_max_left cursor i.stop).trans (ih g hg)

/-- No gap ends after the limit, if no interval begins after it. -/
theorem stop_le_of_mem {limit : α} {is : List (Stretch α)} (hlimit : ∀ i ∈ is, i.start ≤ limit) :
    ∀ {cursor : α}, ∀ g ∈ gaps limit cursor is, g.stop ≤ limit := by
  induction is with
  | nil =>
    intro cursor g hg
    rw [(mem_gap hg).1]
  | cons i is ih =>
    intro cursor g hg
    rcases List.mem_append.1 hg with hg | hg
    · rw [(mem_gap hg).1]
      exact hlimit i List.mem_cons_self
    · exact ih (fun j hj => hlimit j (List.mem_cons_of_mem _ hj)) g hg

/-- Each gap ends before the next begins. -/
theorem pairwise_gaps {limit : α} {is : List (Stretch α)} (hproper : ∀ i ∈ is, i.start ≤ i.stop) :
    ∀ cursor, (gaps limit cursor is).Pairwise fun g h => g.stop ≤ h.start := by
  induction is with
  | nil =>
    intro cursor
    exact pairwise_gap cursor limit _
  | cons i is ih =>
    intro cursor
    have htail := ih (fun j hj => hproper j (List.mem_cons_of_mem _ hj)) (max cursor i.stop)
    refine List.pairwise_append.2 ⟨pairwise_gap cursor i.start _, htail, ?_⟩
    intro g hg h hh
    rw [(mem_gap hg).1]
    calc i.start ≤ i.stop := hproper i List.mem_cons_self
      _ ≤ max cursor i.stop := le_max_right _ _
      _ ≤ h.start := cursor_le_of_mem h hh

/-- A gap between sorted intervals ends before each of them or begins after it. -/
theorem gap_beside {limit : α} {is : List (Stretch α)}
    (hsorted : is.Pairwise fun i j => i.start ≤ j.start) :
    ∀ {cursor : α}, ∀ g ∈ gaps limit cursor is, ∀ i ∈ is, g.stop ≤ i.start ∨ i.stop ≤ g.start := by
  induction is with
  | nil => exact fun g _ i hi => absurd hi List.not_mem_nil
  | cons i is ih =>
    intro cursor g hg j hj
    rw [List.pairwise_cons] at hsorted
    rcases List.mem_append.1 hg with hg | hg
    · rw [(mem_gap hg).1]
      rcases List.mem_cons.1 hj with rfl | hj
      · exact .inl le_rfl
      · exact .inl (hsorted.1 j hj)
    · rcases List.mem_cons.1 hj with rfl | hj
      · exact .inr ((le_max_right _ _).trans (cursor_le_of_mem g hg))
      · exact ih hsorted.2 g hg j hj

/-- A stretch beside all intervals, between the cursor and the limit, lies inside a gap. -/
theorem exists_gap {limit start stop : α} {is : List (Stretch α)} (hlt : start < stop)
    (hlimit : stop ≤ limit) (hbeside : ∀ i ∈ is, i.stop ≤ start ∨ stop ≤ i.start) :
    ∀ {cursor : α}, cursor ≤ start → ∃ g ∈ gaps limit cursor is, g.start ≤ start ∧ stop ≤ g.stop := by
  induction is with
  | nil =>
    intro cursor hcursor
    have hroom : cursor < limit := hcursor.trans_lt (hlt.trans_le hlimit)
    refine ⟨⟨cursor, limit⟩, ?_, hcursor, hlimit⟩
    rw [gaps, gap, if_pos hroom]
    exact List.mem_singleton_self _
  | cons i is ih =>
    intro cursor hcursor
    rcases hbeside i List.mem_cons_self with hbefore | hafter
    · obtain ⟨g, hg, hin⟩ := ih (fun j hj => hbeside j (List.mem_cons_of_mem _ hj))
        (max_le hcursor hbefore)
      exact ⟨g, List.mem_append_right _ hg, hin⟩
    · have hroom : cursor < i.start := hcursor.trans_lt (hlt.trans_le hafter)
      refine ⟨⟨cursor, i.start⟩, List.mem_append_left _ ?_, hcursor, hafter⟩
      rw [gap, if_pos hroom]
      exact List.mem_singleton_self _

/-- Nonempty intervals without a common point lie beside each other. -/
theorem beside_of_disjoint {i j : Stretch α} (hi : i.start < i.stop) (hj : j.start < j.stop)
    (h : Disjoint i.points j.points) : i.stop ≤ j.start ∨ j.stop ≤ i.start := by
  have hle := Set.Ico_disjoint_Ico.1 h
  rw [min_le_iff, le_max_iff, le_max_iff] at hle
  rcases hle with (hle | hle) | hle | hle
  · exact absurd hi hle.not_gt
  · exact .inl hle
  · exact .inr hle
  · exact absurd hj hle.not_gt

theorem disjoint_of_beside {i j : Stretch α} (h : i.stop ≤ j.start ∨ j.stop ≤ i.start) :
    Disjoint i.points j.points := by
  refine Set.Ico_disjoint_Ico.2 ?_
  rw [min_le_iff, le_max_iff, le_max_iff]
  rcases h with h | h
  · exact .inl (.inr h)
  · exact .inr (.inl h)

end Intervals
