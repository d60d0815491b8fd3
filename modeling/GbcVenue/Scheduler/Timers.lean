import GbcVenue.Scheduler.Handled

/-!
# The timers of one table

The ids of timers do not repeat and a recorded id belongs to its key (`WellArmed`), so what a
handler does for one table leaves the others alone: their bookings, what the cache shows of them
and the timers armed for them (`Apart`).
-/

namespace GbcVenue

open Interleaving BookingService GoTime Scheduler

/-- The ids of armed timers are distinct and none will be given again, and a recorded id is that of
a timer of its key. -/
structure WellArmed (v : Venue) : Prop where
  fresh : ∀ a ∈ v.armed, a.id < v.nextTimer
  distinct : ∀ a ∈ v.armed, ∀ b ∈ v.armed, a.id = b.id → a = b
  recorded : ∀ key n, v.timers key = some n →
    n < v.nextTimer ∧ ∀ a ∈ v.armed, a.id = n → a.key = key

/-- The timers armed for table `t`. -/
def Venue.armedOn (v : Venue) (t : Int) : List ArmedTimer :=
  v.armed.filter fun a => a.key.tableID = t

/-- Nothing has changed for table `t`. -/
structure Apart (t : Int) (v v' : Venue) : Prop where
  bookings : v'.bookings = v.bookings
  table : v'.tables.get t = v.tables.get t
  armed : v'.armedOn t = v.armedOn t
  wellArmed : WellArmed v'

theorem Apart.trans {t : Int} {v v' v'' : Venue} (h : Apart t v v') (h' : Apart t v' v'') :
    Apart t v v'' :=
  ⟨h'.bookings.trans h.bookings, h'.table.trans h.table, h'.armed.trans h.armed, h'.wellArmed⟩

theorem WellArmed.apart {v : Venue} (h : WellArmed v) (t : Int) : Apart t v v := ⟨rfl, rfl, rfl, h⟩

theorem Venue.mem_armedOn {v : Venue} {t : Int} {a : ArmedTimer} :
    a ∈ v.armedOn t ↔ a ∈ v.armed ∧ a.key.tableID = t := by
  simp [armedOn]

/-! ## Setting and clearing -/

section

variable {v v' : Venue} {t : Int} {key : TimerKey}

theorem wellArmed_start (c : BookingCollection) (config : Option VenueConfig) (offset : Int) :
    WellArmed (World.start c config offset).venue :=
  ⟨nofun, nofun, nofun⟩

/-- Fewer timers, armed and recorded. -/
theorem WellArmed.fewer (h : WellArmed v) (harmed : ∀ a ∈ v'.armed, a ∈ v.armed)
    (htimers : ∀ key n, v'.timers key = some n → v.timers key = some n)
    (hnext : v'.nextTimer = v.nextTimer) : WellArmed v' := by
  refine ⟨?_, fun a ha b hb => h.distinct a (harmed a ha) b (harmed b hb), ?_⟩
  · intro a ha
    rw [hnext]
    exact h.fresh a (harmed a ha)
  · intro key n hn
    obtain ⟨hlt, hkey⟩ := h.recorded key n (htimers key n hn)
    rw [hnext]
    exact ⟨hlt, fun a ha => hkey a (harmed a ha)⟩

theorem timers_update_none {timers : TimerKey → Option Nat} {k : TimerKey} {n : Nat}
    (h : Function.update timers key none k = some n) : timers k = some n := by
  by_cases hk : k = key
  · subst hk
    rw [Function.update_self] at h
    cases h
  · rwa [Function.update_of_ne hk] at h

theorem WellArmed.clearTimer (h : WellArmed v) (key : TimerKey) : WellArmed (v.clearTimer key) := by
  refine h.fewer (fun a => Venue.mem_clearTimer) ?_ (Venue.clearTimer_nextTimer v key)
  intro k n hn
  unfold Venue.clearTimer at hn
  split at hn
  · exact timers_update_none hn
  · exact hn

theorem WellArmed.deleteTimer (h : WellArmed v) (key : TimerKey) : WellArmed (v.deleteTimer key) :=
  h.fewer (fun _ ha => ha) (fun _ _ hn => timers_update_none hn) rfl

theorem WellArmed.write (h : WellArmed v) (c : CacheWrite) : WellArmed (v.write c) :=
  h.fewer (fun _ ha => ha) (fun _ _ hn => hn) rfl

theorem WellArmed.fire (h : WellArmed v) (n : Nat) :
    WellArmed { v with armed := v.armed.filter fun a => a.id ≠ n } :=
  h.fewer (fun _ ha => List.mem_of_mem_filter ha) (fun _ _ hn => hn) rfl

theorem Venue.mem_afterFunc {deadline : Int} {id : String} {a : ArmedTimer}
    (ha : a ∈ (v.afterFunc deadline key id).armed) :
    a ∈ v.armed ∨ a = ⟨v.nextTimer, key, id, deadline⟩ :=
  (List.mem_append.1 ha).imp_right List.mem_singleton.1

theorem WellArmed.afterFunc (h : WellArmed v) (deadline : Int) (key : TimerKey) (id : String) :
    WellArmed (v.afterFunc deadline key id) := by
  refine ⟨?_, ?_, ?_⟩
  · intro a ha
    show a.id < v.nextTimer + 1
    rcases Venue.mem_afterFunc ha with ha | rfl
    · exact Nat.lt_succ_of_lt (h.fresh a ha)
    · exact Nat.lt_succ_self _
  · intro a ha b hb hid
    rcases Venue.mem_afterFunc ha with ha | rfl
    · rcases Venue.mem_afterFunc hb with hb | rfl
      · exact h.distinct a ha b hb hid
      · exact absurd hid (h.fresh a ha).ne
    · rcases Venue.mem_afterFunc hb with hb | rfl
      · exact absurd hid.symm (h.fresh b hb).ne
      · rfl
  · intro k n hn
    obtain ⟨hlt, hkey⟩ := h.recorded k n hn
    refine ⟨Nat.lt_succ_of_lt hlt, ?_⟩
    intro a ha hid
    rcases Venue.mem_afterFunc ha with ha | rfl
    · exact hkey a ha hid
    · exact absurd hid hlt.ne'

theorem WellArmed.recordTimer (h : WellArmed v) {n : Nat} (hn : n < v.nextTimer)
    (hkey : ∀ a ∈ v.armed, a.id = n → a.key = key) :
    WellArmed { v with timers := Function.update v.timers key (some n) } := by
  refine ⟨h.fresh, h.distinct, ?_⟩
  intro k m hm
  have hm : Function.update v.timers key (some n) k = some m := hm
  by_cases hk : k = key
  · subst hk
    rw [Function.update_self, Option.some.injEq] at hm
    subst hm
    exact ⟨hn, hkey⟩
  · rw [Function.update_of_ne hk] at hm
    exact h.recorded k m hm

theorem WellArmed.setTimer (h : WellArmed v) (key : TimerKey) (id : String) (deadline : Int) :
    WellArmed (v.setTimer key id deadline) := by
  have hc := h.clearTimer key
  have hnext := Venue.clearTimer_nextTimer v key
  refine (hc.afterFunc deadline key id).recordTimer ?_ ?_
  · rw [← hnext]
    exact Nat.lt_succ_self _
  · intro a ha hid
    rcases Venue.mem_afterFunc ha with ha | rfl
    · have hlt := hc.fresh a ha
      rw [hnext] at hlt
      exact absurd hid hlt.ne
    · rfl

/-- Clearing a timer of another table. -/
theorem armedOn_clearTimer (h : WellArmed v) (hne : key.tableID ≠ t) :
    (v.clearTimer key).armedOn t = v.armedOn t := by
  unfold Venue.clearTimer
  split
  · rename_i n hn
    unfold Venue.armedOn
    rw [List.filter_filter]
    refine List.filter_congr fun a ha => ?_
    by_cases hat : a.key.tableID = t
    · have hid : a.id ≠ n := by
        intro hid
        exact hne (by rw [← (h.recorded key n hn).2 a ha hid]; exact hat)
      simp [hid]
    · simp [hat]
  · rfl

theorem armedOn_clearTimer_nil (h : v.armedOn t = []) (key : TimerKey) :
    (v.clearTimer key).armedOn t = [] := by
  rw [List.eq_nil_iff_forall_not_mem] at h ⊢
  intro a ha
  rw [Venue.mem_armedOn] at ha
  exact h a (Venue.mem_armedOn.2 ⟨Venue.mem_clearTimer ha.1, ha.2⟩)

theorem armedOn_setTimer (id : String) (deadline : Int) :
    (v.setTimer key id deadline).armedOn t = (v.clearTimer key).armedOn t ++
      if key.tableID = t then [⟨v.nextTimer, key, id, deadline⟩] else [] := by
  simp only [Venue.armedOn, Venue.setTimer, Venue.afterFunc, List.filter_append,
    Venue.clearTimer_nextTimer, List.filter_singleton]
  split <;> simp_all

/-- The only timer of a table for which none was armed. -/
theorem armedOn_setTimer_self {k : TimerKey} (h : v.armedOn k.tableID = []) (id : String)
    (deadline : Int) :
    (v.setTimer k id deadline).armedOn k.tableID = [⟨v.nextTimer, k, id, deadline⟩] := by
  rw [armedOn_setTimer, armedOn_clearTimer_nil h, if_pos rfl, List.nil_append]

/-- The table of a timer that has just fired has no other. -/
theorem armedOn_fire {a : ArmedTimer} (h : v.armedOn t = [a]) :
    ({ v with armed := v.armed.filter fun a' => a'.id ≠ a.id } : Venue).armedOn t = [] := by
  rw [List.eq_nil_iff_forall_not_mem]
  intro b hb
  simp only [Venue.armedOn, List.mem_filter, decide_eq_true_eq] at hb
  have hmem : b ∈ v.armedOn t := Venue.mem_armedOn.2 ⟨hb.1.1, hb.2⟩
  rw [h, List.mem_singleton] at hmem
  exact hb.1.2 (by rw [hmem])

end

/-! ## Handlers of another table -/

section

variable {faults : Option String → Prop} {v v' : Venue} {t u now : Int} {key : TimerKey}

theorem WellArmed.apart_clearTimer (h : WellArmed v) (hne : key.tableID ≠ t) :
    Apart t v (v.clearTimer key) :=
  ⟨Venue.clearTimer_bookings .., by rw [Venue.clearTimer_tables], armedOn_clearTimer h hne,
    h.clearTimer key⟩

theorem WellArmed.apart_setTimer (h : WellArmed v) (hne : key.tableID ≠ t) (id : String)
    (deadline : Int) : Apart t v (v.setTimer key id deadline) := by
  refine ⟨Venue.setTimer_bookings .., by rw [Venue.setTimer_tables], ?_, h.setTimer key id deadline⟩
  rw [armedOn_setTimer, armedOn_clearTimer h hne, if_neg hne, List.append_nil]

theorem WellArmed.apart_deleteTimer (h : WellArmed v) (key : TimerKey) :
    Apart t v (v.deleteTimer key) :=
  ⟨rfl, rfl, rfl, h.deleteTimer key⟩

theorem WellArmed.apart_activate (h : WellArmed v) (hne : t ≠ u) (cb : CurrentBooking) :
    Apart t v (v.write (.activateTable u cb)) :=
  ⟨rfl, Tables.get_set_ne v.tables _ hne, rfl, h.write _⟩

theorem WellArmed.apart_deactivate (h : WellArmed v) (hne : t ≠ u) :
    Apart t v (v.write (.deactivateTable u)) :=
  ⟨rfl, Tables.get_set_ne v.tables _ hne, rfl, h.write _⟩

theorem WellArmed.apart_clearTable (h : WellArmed v) (hne : t ≠ u) :
    Apart t v (clearTable v u) := by
  have hstart : Apart t v (v.clearTimer (startKey u)) := h.apart_clearTimer (Ne.symm hne)
  exact hstart.trans (hstart.wellArmed.apart_clearTimer (Ne.symm hne))

theorem Scheduler.Chained.apart (h : WellArmed v) (hne : t ≠ u) (hc : Chained faults u now v v') :
    Apart t v v' := by
  cases hc with
  | failed => exact h.apart t
  | last => exact h.apart t
  | next => exact h.apart_setTimer (Ne.symm hne) _ _

theorem Scheduler.Rescheduled.apart (h : WellArmed v) (hne : t ≠ u)
    (hre : Rescheduled faults u now v v') : Apart t v v' := by
  have hclear : Apart t v (clearTable v u) := h.apart_clearTable hne
  cases hre with
  | failed => exact hclear
  | current => exact hclear.trans (hclear.wellArmed.apart_setTimer (Ne.symm hne) _ _)
  | chained _ hnext => exact hclear.trans (hnext.apart hclear.wellArmed hne)

theorem Scheduler.RescheduledAll.apart {start stop : Int} {us : List Int} (h : WellArmed v)
    (hmem : t ∉ us) (hre : RescheduledAll faults start stop us v v') : Apart t v v' := by
  induction us generalizing v with
  | nil =>
    rw [RescheduledAll] at hre
    rw [hre]
    exact h.apart t
  | cons u us ih =>
    rw [List.mem_cons, not_or] at hmem
    obtain ⟨now, v₁, -, -, hfirst, hrest⟩ := hre
    have hfirst := hfirst.apart h hmem.1
    exact hfirst.trans (ih hfirst.wellArmed hmem.2 hrest)

theorem Scheduler.Started.apart {id : String} (h : WellArmed v) (hne : t ≠ u)
    (hs : Started faults u id now v v') : Apart t v v' := by
  have hdel : Apart t v (v.deleteTimer (startKey u)) := h.apart_deleteTimer _
  cases hs with
  | failed => exact hdel
  | gone _ _ _ hre => exact hdel.trans (hre.apart hdel.wellArmed hne)
  | missing _ hre => exact hdel.trans (hre.apart hdel.wellArmed hne)
  | @activated d deadline =>
    have hactivate :=
      hdel.trans (hdel.wellArmed.apart_activate hne (currentBookingOf (docToBooking d)))
    exact hactivate.trans (hactivate.wellArmed.apart_setTimer (Ne.symm hne) _ _)

theorem Scheduler.Ended.apart {id : String} (h : WellArmed v) (hne : t ≠ u)
    (he : Ended faults u id now v v') : Apart t v v' := by
  have hdel : Apart t v (v.deleteTimer (endKey u)) := h.apart_deleteTimer _
  have hended : Apart t v (endedTable u id (v.deleteTimer (endKey u))) := by
    unfold endedTable
    split
    · exact hdel.trans (hdel.wellArmed.apart_deactivate hne)
    · exact hdel
  exact hended.trans (Scheduler.Chained.apart hended.wellArmed hne he)

/-- A timer of another table fires. -/
theorem Scheduler.Fired.apart {a : ArmedTimer} (h : WellArmed v) (ha : a ∈ v.armed)
    (hne : t ≠ a.key.tableID) (hfire : Fired faults now v a v') : Apart t v v' := by
  have hless : Apart t v { v with armed := v.armed.filter fun a' => a'.id ≠ a.id } := by
    refine ⟨rfl, rfl, ?_, h.fire a.id⟩
    unfold Venue.armedOn
    simp only
    rw [List.filter_filter]
    refine List.filter_congr fun b hb => ?_
    by_cases hbt : b.key.tableID = t
    · have hid : b.id ≠ a.id := by
        intro hid
        exact hne (by rw [← h.distinct b hb a ha hid]; exact hbt.symm)
      simp [hid]
    · simp [hbt]
  cases hfire with
  | started _ hs => exact hless.trans (hs.apart hless.wellArmed hne)
  | ended _ he => exact hless.trans (he.apart hless.wellArmed hne)

end

end GbcVenue
