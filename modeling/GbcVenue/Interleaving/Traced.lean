import GbcVenue.Interleaving.Pool

/-!
# Remembering what each thread has done

A property or an admission rule may speak of what a thread has read or written. `traced` adds to any
semantics a record of each thread's actions and their answers, which no program can read.
-/

namespace Interleaving

variable {Op : Type} {Res : Op → Type} {ι σ γ α β : Type}

/-- A state together with the actions of every thread and what they answered, newest first. -/
structure Traced (Res : Op → Type) (ι σ : Type) where
  state : σ
  past : ι → List ((o : Op) × Res o)

namespace Traced

/-- The last action of a thread. -/
def last (s : Traced Res ι σ) (i : ι) : Option ((o : Op) × Res o) := (s.past i).head?

/-- The first action of a thread. -/
def first (s : Traced Res ι σ) (i : ι) : Option ((o : Op) × Res o) := (s.past i).getLast?

end Traced

/-- The semantics `sem`, with its record. -/
def traced [DecidableEq ι] (sem : Sem Res ι σ) : Sem Res ι (Traced Res ι σ) :=
  fun i o s r s' => sem i o s.state r s'.state ∧
    s'.past = Function.update s.past i (⟨o, r⟩ :: s.past i)

/-- The executable form of `traced`. -/
def Traced.perform [DecidableEq ι] {ε : Type}
    (perform : ι → ε → (o : Op) → σ → Option (Res o × σ)) (i : ι) (e : ε) (o : Op)
    (s : Traced Res ι σ) : Option (Res o × Traced Res ι σ) :=
  match perform i e o s.state with
  | some (r, s') => some (r, ⟨s', Function.update s.past i (⟨o, r⟩ :: s.past i)⟩)
  | none => none

theorem Traced.perform_sem [DecidableEq ι] {ε : Type}
    {perform : ι → ε → (o : Op) → σ → Option (Res o × σ)} {sem : Sem Res ι σ} {i : ι} {e : ε}
    (hsem : ∀ o s r s', perform i e o s = some (r, s') → sem i o s r s') {o : Op}
    {s s' : Traced Res ι σ} {r : Res o} (h : Traced.perform perform i e o s = some (r, s')) :
    traced sem i o s r s' := by
  unfold Traced.perform at h
  split at h
  · rename_i r₁ s₁ hp
    cases h
    exact ⟨hsem o _ _ _ hp, rfl⟩
  · cases h

section

variable [DecidableEq ι] {sem : Sem Res ι σ} {i : ι} {o : Op} {r : Res o} {s s' : Traced Res ι σ}

theorem traced_last (h : traced sem i o s r s') : s'.last i = some ⟨o, r⟩ := by
  rw [Traced.last, h.2, Function.update_self, List.head?_cons]

theorem traced_other (h : traced sem i o s r s') {j : ι} (hj : j ≠ i) : s'.past j = s.past j := by
  rw [h.2, Function.update_of_ne hj]

/-- A thread's first action stays its first. -/
theorem traced_first {x : (o : Op) × Res o} (h : traced sem i o s r s') (hx : s.first i = some x) :
    s'.first i = some x := by
  rw [Traced.first] at hx ⊢
  rw [h.2, Function.update_self, List.getLast?_cons, hx, Option.getD_some]

theorem traced_first_of_none (h : traced sem i o s r s') (hnone : s.past i = []) :
    s'.first i = some ⟨o, r⟩ := by
  rw [Traced.first, h.2, Function.update_self, hnone, List.getLast?_singleton]

end

end Interleaving
