import GbcVenue.Backend.Frame

/-!
# Runs of a backend program, action by action

One equivalence for each action that the proofs about requests run through: what a program that
starts with it does alone.
-/

namespace GbcVenue

open Interleaving

section

variable {α : Type} {E : Env → Prop} {i : Nat} {w w' : World} {a : α}

theorem runs_op {o : Op} {k : Res o → Go α} :
    Prog.Runs (sem E) i (.act o k) w a w' ↔
      ∃ e, E e ∧ ∃ r w₁, perform i e o w = some (r, w₁) ∧ Prog.Runs (sem E) i (k r) w₁ a w' := by
  rw [Prog.runs_act]
  constructor
  · rintro ⟨r, w₁, ⟨e, he, h⟩, hk⟩
    exact ⟨e, he, r, w₁, h, hk⟩
  · rintro ⟨e, he, r, w₁, h, hk⟩
    exact ⟨r, w₁, ⟨e, he, h⟩, hk⟩

/-- An action that nothing can block. -/
theorem runs_total {o : Op} {k : Res o → Go α} (f : Env → Res o) (g : Env → World)
    (h : ∀ e, perform i e o w = some (f e, g e)) :
    Prog.Runs (sem E) i (.act o k) w a w' ↔
      ∃ e, E e ∧ Prog.Runs (sem E) i (k (f e)) (g e) a w' := by
  simp only [runs_op, h, Option.some.injEq, Prod.mk.injEq]
  constructor
  · rintro ⟨e, he, r, w₁, ⟨rfl, rfl⟩, hk⟩
    exact ⟨e, he, hk⟩
  · rintro ⟨e, he, hk⟩
    exact ⟨e, he, _, _, ⟨rfl, rfl⟩, hk⟩

theorem runs_findByID {id : String} {k : Except GoError (Option Booking) → Go α} :
    Prog.Runs (sem E) i (.act (Op.findByID id) k) w a w' ↔
      ∃ e, E e ∧ Prog.Runs (sem E) i (k (w.bookings.findByID e.fault id)) w a w' :=
  runs_total _ _ fun _ => rfl

theorem runs_hasOverlap {t checkIn checkOut : Int} {id : String}
    {k : Except GoError Bool → Go α} :
    Prog.Runs (sem E) i (.act (Op.hasOverlap t checkIn checkOut id) k) w a w' ↔
      ∃ e, E e ∧
        Prog.Runs (sem E) i (k (w.bookings.hasOverlap e.fault t checkIn checkOut id)) w a w' :=
  runs_total _ _ fun _ => rfl

theorem runs_save {b : Booking} {k : Except GoError Unit → Go α} :
    Prog.Runs (sem E) i (.act (Op.save b) k) w a w' ↔
      ∃ e, E e ∧ Prog.Runs (sem E) i (k (w.bookings.save e.fault b).1)
        { w with bookings := (w.bookings.save e.fault b).2 } a w' :=
  runs_total _ _ fun _ => rfl

theorem runs_tableMutex {t : Int} {k : Nat → Go α} :
    Prog.Runs (sem E) i (.act (Op.tableMutex t) k) w a w' ↔
      ∃ e, E e ∧ Prog.Runs (sem E) i (k (w.tableMutex t).1) (w.tableMutex t).2 a w' :=
  runs_total _ _ fun _ => rfl

theorem runs_lock {m : MutexRef} {k : Unit → Go α} :
    Prog.Runs (sem E) i (.act (Op.lock m) k) w a w' ↔
      ∃ e, E e ∧ w.held m = none ∧ Prog.Runs (sem E) i (k ())
        { w with held := Function.update w.held m (some i) } a w' := by
  rw [runs_op]
  constructor
  · rintro ⟨e, he, r, w₁, h, hk⟩
    simp only [perform] at h
    split at h
    · rename_i hm
      cases h
      exact ⟨e, he, hm, hk⟩
    · cases h
  · rintro ⟨e, he, hm, hk⟩
    exact ⟨e, he, (), _, by simp [perform, hm], hk⟩

theorem runs_unlock {m : MutexRef} {k : Unit → Go α} :
    Prog.Runs (sem E) i (.act (Op.unlock m) k) w a w' ↔
      ∃ e, E e ∧ w.held m ≠ none ∧ Prog.Runs (sem E) i (k ())
        { w with held := Function.update w.held m none } a w' := by
  rw [runs_op]
  constructor
  · rintro ⟨e, he, r, w₁, h, hk⟩
    simp only [perform] at h
    split at h
    · rename_i j hm
      cases h
      exact ⟨e, he, by simp [hm], hk⟩
    · cases h
  · rintro ⟨e, he, hm, hk⟩
    obtain ⟨j, hj⟩ := Option.ne_none_iff_exists'.1 hm
    exact ⟨e, he, (), _, by simp [perform, hj], hk⟩

end

end GbcVenue
