import Mathlib.Logic.Relation

/-!
# Guarded runs of a partial step function

A component whose steps a function `step` computes, `none` for a step that cannot be taken, and runs
of it in which every step is of a kind `ok`: the states they reach, the induction for what every step
keeps, and a function that follows a list of steps.
-/

namespace Interleaving

variable {σ α : Type}

/-- The states that steps of the kind `ok` lead to. -/
def GuardedReaches (step : σ → α → Option σ) (ok : σ → α → Prop) : σ → σ → Prop :=
  Relation.ReflTransGen fun s s' => ∃ a, ok s a ∧ step s a = some s'

variable {step : σ → α → Option σ} {ok : σ → α → Prop} {s s' : σ}

/-- What every step keeps holds of every state that is reached. -/
theorem GuardedReaches.invariant {I : σ → Prop} (h : GuardedReaches step ok s s') (hs : I s)
    (hstep : ∀ s a s', I s → ok s a → step s a = some s' → I s') : I s' := by
  induction h with
  | refl => exact hs
  | tail _ hlast ih =>
    obtain ⟨a, hok, ha⟩ := hlast
    exact hstep _ a _ ih hok ha

theorem GuardedReaches.mono {ok' : σ → α → Prop} (h : GuardedReaches step ok s s')
    (hok : ∀ s a, ok s a → ok' s a) : GuardedReaches step ok' s s' := by
  induction h with
  | refl => exact .refl
  | tail _ hlast ih =>
    obtain ⟨a, ha, hstep⟩ := hlast
    exact .tail ih ⟨a, hok _ a ha, hstep⟩

/-- Takes the steps of a list while they are of the kind `ok`. -/
def runIf (step : σ → α → Option σ) (ok : σ → α → Prop) [∀ s a, Decidable (ok s a)] :
    List α → σ → Option σ
  | [], s => some s
  | a :: as, s => if ok s a then (step s a).bind (runIf step ok as) else none

theorem reaches_of_runIf [∀ s a, Decidable (ok s a)] {as : List α}
    (h : runIf step ok as s = some s') : GuardedReaches step ok s s' := by
  induction as generalizing s with
  | nil =>
    cases h
    exact .refl
  | cons a as ih =>
    rw [runIf] at h
    split at h
    · rename_i hok
      obtain ⟨s₁, hstep, hrest⟩ := Option.bind_eq_some_iff.1 h
      exact .head ⟨a, hok, hstep⟩ (ih hrest)
    · cases h

end Interleaving
