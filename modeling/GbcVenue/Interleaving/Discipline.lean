import GbcVenue.Interleaving.Pool

/-!
# A discipline of actions and answers

Where an invariant of the shared state says something about every answer, and it is enough that every
action has a property of its own for the invariant to be kept, the threads can be looked at one by one
(`Reaches.keeps`): each must have its actions in order as long as the answers are.
-/

namespace Interleaving

variable {Op : Type} {Res : Op → Type} {ι σ α β : Type}

namespace Prog

/-- While every answer satisfies `post`, every action of the program satisfies `pre`. -/
def Keeps (pre : Op → Prop) (post : (o : Op) → Res o → Prop) : Prog Res α → Prop
  | ret _ => True
  | act o k => pre o ∧ ∀ r, post o r → (k r).Keeps pre post

variable {pre : Op → Prop} {post : (o : Op) → Res o → Prop}

theorem keeps_call_bind {o : Op} {f : Res o → Prog Res α} (ho : pre o)
    (hf : ∀ r, post o r → (f r).Keeps pre post) : (call o >>= f).Keeps pre post := ⟨ho, hf⟩

theorem keeps_bind {p : Prog Res α} {f : α → Prog Res β} (hp : p.Keeps pre post)
    (hf : ∀ a, (f a).Keeps pre post) : (p >>= f).Keeps pre post := by
  induction p with
  | ret a => exact hf a
  | act o k ih => exact ⟨hp.1, fun r hr => ih r (hp.2 r hr)⟩

/-- A program whose actions are in order whatever the answers. -/
theorem keeps_of_all {p : Prog Res α} (h : p.All pre) : p.Keeps pre post := by
  induction p with
  | ret a => trivial
  | act o k ih => exact ⟨h.1, fun r _ => ih r (h.2 r)⟩

/-- Where actions that satisfy `pre` keep the invariant and are answered with `post`, a run of the first
part of such a program keeps it, and the second part goes on in the same discipline. -/
theorem Keeps.runs_bind {sem : Sem Res ι σ} {i : ι} (inv : σ → Prop)
    (hstep : ∀ o s r s', inv s → pre o → sem i o s r s' → inv s' ∧ post o r) {p : Prog Res α}
    {f : α → Prog Res β} (hp : (p >>= f).Keeps pre post) {s s' : σ} {a : α} (hs : inv s)
    (h : Runs sem i p s a s') : inv s' ∧ (f a).Keeps pre post := by
  induction h with
  | ret a s => exact ⟨hs, hp⟩
  | act hact _ ih =>
    obtain ⟨hinv, hpost⟩ := hstep _ _ _ _ hs hp.1 hact
    exact ih (hp.2 _ hpost) hinv

end Prog

/-- If admitted actions that satisfy `pre` keep the invariant and are answered with `post`, threads that
keep to this discipline keep the invariant in every interleaving. -/
theorem Reaches.keeps [DecidableEq ι] {sem : Sem Res ι σ}
    {ok : Config Res ι σ α → ι → (o : Op) → Res o → Prop} {pre : Op → Prop}
    {post : (o : Op) → Res o → Prop} {c c' : Config Res ι σ α} (inv : σ → Prop)
    (hstep : ∀ c i o r s', inv c.state → pre o → sem i o c.state r s' → ok c i o r →
      inv s' ∧ post o r)
    (hinv : inv c.state) (hthreads : ∀ i, (c.threads i).Keeps pre post) (h : Reaches sem ok c c') :
    inv c'.state ∧ ∀ i, (c'.threads i).Keeps pre post := by
  induction h with
  | refl => exact ⟨hinv, hthreads⟩
  | tail _ hlast ih =>
    obtain ⟨hinv₁, hthreads₁⟩ := ih
    cases hlast with
    | @act i o k r s' hi hsem hok =>
      have hact := hthreads₁ i
      rw [hi] at hact
      obtain ⟨hinv₂, hpost⟩ := hstep _ i o r s' hinv₁ hact.1 hsem hok
      refine ⟨hinv₂, fun j => ?_⟩
      by_cases hj : j = i
      · subst hj
        simpa using hact.2 r hpost
      · simpa [hj] using hthreads₁ j

end Interleaving
