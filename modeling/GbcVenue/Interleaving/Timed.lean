import GbcVenue.Interleaving.Program
import Mathlib.Order.Basic

/-!
# Programs against a clock, and what a run may do next

`timed` gives a semantics whose actions happen at a moment; the moments of a run never go back.
`Simulates` carries runs from one semantics to a more abstract one. `Checked` says of a program that
every action it ever performs, on whatever path, is performed in a state that allows it.
-/

namespace Interleaving

variable {Op : Type} {Res : Op → Type} {ι σ ρ τ α β : Type}

/-- A state at a moment. -/
structure Timed (σ τ : Type) where
  state : σ
  clock : τ

/-- `sem now` is what an action does at the moment `now`; each happens at the last one's or later. -/
def timed [Preorder τ] (sem : τ → Sem Res ι σ) : Sem Res ι (Timed σ τ) :=
  fun i o s r s' => s.clock ≤ s'.clock ∧ sem s'.clock i o s.state r s'.state

/-- The executable form of `timed`, when each contribution of the outside world has a moment. -/
def Timed.perform {ε : Type} [Preorder τ] [DecidableLE τ] (clock : ε → τ)
    (perform : ι → ε → (o : Op) → σ → Option (Res o × σ)) (i : ι) (e : ε) (o : Op)
    (s : Timed σ τ) : Option (Res o × Timed σ τ) :=
  if s.clock ≤ clock e then
    match perform i e o s.state with
    | some (r, s') => some (r, ⟨s', clock e⟩)
    | none => none
  else none

theorem Timed.perform_sem {ε : Type} [Preorder τ] [DecidableLE τ] {clock : ε → τ}
    {perform : ι → ε → (o : Op) → σ → Option (Res o × σ)} {sem : τ → Sem Res ι σ} {i : ι} {e : ε}
    (hsem : ∀ o s r s', perform i e o s = some (r, s') → sem (clock e) i o s r s') {o : Op}
    {s s' : Timed σ τ} {r : Res o} (h : Timed.perform clock perform i e o s = some (r, s')) :
    timed sem i o s r s' := by
  unfold Timed.perform at h
  split at h
  · rename_i hclock
    split at h
    · rename_i r₁ s₁ hp
      cases h
      exact ⟨hclock, hsem o _ _ _ hp⟩
    · cases h
  · cases h

namespace Prog

/-- An abstraction of the states that every action respects. -/
def Simulates (semA : Sem Res ι σ) (semB : Sem Res ι ρ) (f : σ → ρ) : Prop :=
  ∀ i o s r s', semA i o s r s' → semB i o (f s) r (f s')

variable {semA : Sem Res ι σ} {semB : Sem Res ι ρ} {f : σ → ρ}

theorem Runs.simulate (hf : Simulates semA semB f) {i : ι} {p : Prog Res α} {s s' : σ} {a : α}
    (h : Runs semA i p s a s') : Runs semB i p (f s) a (f s') := by
  induction h with
  | ret a s => exact .ret a _
  | act h _ ih => exact .act (hf _ _ _ _ _ h) ih

theorem Passes.simulate (hf : Simulates semA semB f) {i : ι} {p q : Prog Res α} {s s' : σ}
    (h : Passes semA i p s q s') : Passes semB i p (f s) q (f s') := by
  induction h with
  | refl p s => exact .refl p _
  | act h _ ih => exact .act (hf _ _ _ _ _ h) ih

theorem Runs.clock_le [Preorder τ] {sem : τ → Sem Res ι σ} {i : ι} {p : Prog Res α}
    {s s' : Timed σ τ} {a : α} (h : Runs (timed sem) i p s a s') : s.clock ≤ s'.clock := by
  induction h with
  | ret a s => exact le_rfl
  | act h _ ih => exact h.1.trans ih

/-! ## Checks before actions -/

section

variable (sem : Sem Res ι σ) (i : ι) (check : Op → σ → Prop)

/-- Wherever a run of `p` from `s` alone gets to, its next action is one that `check` allows. -/
def Checked (p : Prog Res α) (s : σ) : Prop :=
  ∀ o k s', Passes sem i p s (.act o k) s' → check o s'

variable {sem i check}

theorem checked_ret (a : α) (s : σ) : Checked sem i check (ret a : Prog Res α) s := by
  intro o k s' h
  cases h

theorem checked_act {o : Op} {k : Res o → Prog Res α} {s : σ} (ho : check o s)
    (hk : ∀ r s', sem i o s r s' → Checked sem i check (k r) s') :
    Checked sem i check (act o k) s := by
  intro o' k' s' h
  cases h with
  | refl => exact ho
  | act hstep hrest => exact hk _ _ hstep _ _ _ hrest

/-- Where a run of a sequence gets to, it is still in the first part or already in the second. -/
theorem Passes.bind_cases {p : Prog Res α} {g : α → Prog Res β} {q : Prog Res β} {s s' : σ}
    (h : Passes sem i (p >>= g) s q s') :
    (∃ p', Passes sem i p s p' s' ∧ q = (p' >>= g)) ∨
      ∃ a s₁, Runs sem i p s a s₁ ∧ Passes sem i (g a) s₁ q s' := by
  induction p generalizing s with
  | ret a => exact .inr ⟨a, s, .ret a s, h⟩
  | act o k ih =>
    cases h with
    | refl => exact .inl ⟨Prog.act o k, .refl _ _, rfl⟩
    | act hstep hrest =>
      rcases ih _ hrest with ⟨p', hp', hq⟩ | ⟨a, s₁, hrun, hg⟩
      · exact .inl ⟨p', .act hstep hp', hq⟩
      · exact .inr ⟨a, s₁, .act hstep hrun, hg⟩

theorem checked_bind {p : Prog Res α} {g : α → Prog Res β} {s : σ} (hp : Checked sem i check p s)
    (hg : ∀ a s', Runs sem i p s a s' → Checked sem i check (g a) s') :
    Checked sem i check (p >>= g) s := by
  intro o k s' h
  rcases h.bind_cases with ⟨p', hp', hq⟩ | ⟨a, s₁, hrun, hrest⟩
  · cases p' with
    | ret a =>
      refine hg a s' hp'.runs o k s' ?_
      rw [hq]
      exact .refl _ _
    | act o' k' =>
      cases hq
      exact hp _ _ _ hp'
  · exact hg a s₁ hrun o k s' hrest

/-- A program whose actions are all allowed everywhere. -/
theorem checked_all {p : Prog Res α} (hp : p.All fun o => ∀ s, check o s) (s : σ) :
    Checked sem i check p s := by
  induction p generalizing s with
  | ret a => exact checked_ret a s
  | act o k ih => exact checked_act (hp.1 s) fun r s' _ => ih r (hp.2 r) s'

end

end Prog

end Interleaving
