import GbcVenue.Interleaving.Program
import Mathlib.Logic.Relation

/-!
# Threads and rely–guarantee contracts

A configuration is a shared state and the rest of every thread's program. A step lets one thread
perform its next action; `ok` restricts which steps a run may take, so that a theorem about the
runs of a restricted scheduler is stated with the same step relation.

A `Contract` names an invariant of the shared state and, for each thread, a `rely`: what the other
threads do to the state while this one is stopped at a given point of its program. `Safe` says
that a program keeps its part of the contract, and `Contract.sound` that threads which are all
`Safe` keep the invariant in every interleaving. The ghost component of type `γ` is proof state:
it is chosen at each step and no action reads it.
-/

namespace Interleaving

variable {Op : Type} {Res : Op → Type} {ι σ γ α β δ : Type}

/-- A shared state and what is left of each thread's program. -/
structure Config (Res : Op → Type) (ι σ α : Type) where
  state : σ
  threads : ι → Prog Res α

/-- One thread performs its next action, if the run admits it. -/
inductive Step [DecidableEq ι] (sem : Sem Res ι σ)
    (ok : Config Res ι σ α → ι → (o : Op) → Res o → Prop) :
    Config Res ι σ α → Config Res ι σ α → Prop
  | act {c : Config Res ι σ α} {i : ι} {o : Op} {k : Res o → Prog Res α} {r : Res o} {s' : σ}
      (hi : c.threads i = .act o k) (h : sem i o c.state r s') (hok : ok c i o r) :
      Step sem ok c ⟨s', Function.update c.threads i (k r)⟩

/-- The admission rule that admits every step. -/
def anyStep (_ : Config Res ι σ α) (_ : ι) (o : Op) (_ : Res o) : Prop := True

/-- The configurations a run of admitted steps reaches. -/
def Reaches [DecidableEq ι] (sem : Sem Res ι σ)
    (ok : Config Res ι σ α → ι → (o : Op) → Res o → Prop) :
    Config Res ι σ α → Config Res ι σ α → Prop :=
  Relation.ReflTransGen (Step sem ok)

/-- A thread that has returned stays as it is. -/
theorem Reaches.returned [DecidableEq ι] {sem : Sem Res ι σ}
    {ok : Config Res ι σ α → ι → (o : Op) → Res o → Prop} {c c' : Config Res ι σ α} {j : ι} {a : α}
    (h : Reaches sem ok c c') (hj : c.threads j = .ret a) : c'.threads j = .ret a := by
  induction h with
  | refl => exact hj
  | tail _ hstep ih =>
    cases hstep with
    | @act i o k r s' hi _ _ =>
      have hne : j ≠ i := by
        rintro rfl
        rw [ih] at hi
        cases hi
      simpa [hne] using ih

namespace Config

/-- What a thread has returned. -/
def result (c : Config Res ι σ α) (i : ι) : Option α :=
  match c.threads i with
  | .ret a => some a
  | .act .. => none

theorem threads_of_result {c : Config Res ι σ α} {i : ι} {a : α} (h : c.result i = some a) :
    c.threads i = .ret a := by
  unfold result at h
  split at h
  · rename_i b hb
    cases h
    exact hb
  · cases h

/-- Two threads that have both returned. -/
theorem threads_of_two {c : Config Res Nat σ α} {a : α} (h₀ : c.result 0 = some a)
    (h₁ : c.result 1 = some a) : ∀ i < 2, c.threads i = .ret a := by
  intro i hi
  match i, hi with
  | 0, _ => exact threads_of_result h₀
  | 1, _ => exact threads_of_result h₁

/-- Follows a schedule: who acts next, and what the outside world (`ε`) contributes to the action.
`none` if a scheduled thread is blocked or has returned, or if `adm` turns the action down. -/
def exec [DecidableEq ι] {ε : Type} (perform : ι → ε → (o : Op) → σ → Option (Res o × σ))
    (adm : Config Res ι σ α → ι → (o : Op) → Res o → Bool) :
    List (ι × ε) → Config Res ι σ α → Option (Config Res ι σ α)
  | [], c => some c
  | (i, e) :: schedule, c => match c.threads i with
    | .ret _ => none
    | .act o k => match perform i e o c.state with
      | none => none
      | some (r, s') => if adm c i o r then
          exec perform adm schedule ⟨s', Function.update c.threads i (k r)⟩
        else none

/-- A schedule that can be followed is a run. -/
theorem reaches_of_exec [DecidableEq ι] {ε : Type}
    {perform : ι → ε → (o : Op) → σ → Option (Res o × σ)} {sem : Sem Res ι σ}
    {adm : Config Res ι σ α → ι → (o : Op) → Res o → Bool}
    {ok : Config Res ι σ α → ι → (o : Op) → Res o → Prop} {I : Config Res ι σ α → Prop}
    {schedule : List (ι × ε)} {c c' : Config Res ι σ α}
    (hsem : ∀ p ∈ schedule, ∀ i o s r s', perform i p.2 o s = some (r, s') → sem i o s r s')
    (hI : ∀ c c', Step sem ok c c' → I c → I c')
    (hadm : ∀ c i o r, I c → adm c i o r → ok c i o r) (hc : I c)
    (h : exec perform adm schedule c = some c') : Reaches sem ok c c' := by
  induction schedule generalizing c with
  | nil =>
    cases h
    exact .refl
  | cons p schedule ih =>
    obtain ⟨i, e⟩ := p
    unfold exec at h
    split at h
    · cases h
    · rename_i o k hi
      split at h
      · cases h
      · rename_i r s' hp
        split at h
        · rename_i ha
          have hstep : Step sem ok c ⟨s', Function.update c.threads i (k r)⟩ :=
            .act hi (hsem (i, e) (by simp) i o c.state r s' hp) (hadm c i o r hc ha)
          exact .head hstep (ih (fun p hp => hsem p (by simp [hp])) (hI _ _ hstep hc) h)
        · cases h

/-- A schedule that is followed without a check. -/
theorem reaches_of_exec_any [DecidableEq ι] {ε : Type}
    {perform : ι → ε → (o : Op) → σ → Option (Res o × σ)} {sem : Sem Res ι σ}
    {schedule : List (ι × ε)} {c c' : Config Res ι σ α}
    (hsem : ∀ p ∈ schedule, ∀ i o s r s', perform i p.2 o s = some (r, s') → sem i o s r s')
    (h : exec perform (fun _ _ _ _ => true) schedule c = some c') : Reaches sem anyStep c c' :=
  reaches_of_exec (I := fun _ => True) hsem (fun _ _ _ _ => trivial) (fun _ _ _ _ _ _ => trivial)
    trivial h

end Config

/-- An invariant, what each thread may rely on, and what must hold before each action. The rely
of a thread depends on the actions it is about to perform, clock readings and the like (`skip`)
aside: a thread close to acting on what it has read may ask more of the others. -/
structure Contract (Res : Op → Type) (ι σ γ α : Type) where
  sem : Sem Res ι σ
  ok : Config Res ι σ α → ι → (o : Op) → Res o → Prop
  skip : Op → Prop
  inv : σ → γ → Prop
  check : ι → Op → σ → γ → Prop
  rely : ι → (Op → Prop) → σ → γ → σ → γ → Prop
  rely_refl : ∀ i up s g, rely i up s g s g
  rely_trans : ∀ i up s g s' g' s'' g'', rely i up s g s' g' → rely i up s' g' s'' g'' →
    rely i up s g s'' g''
  rely_mono : ∀ i (up up' : Op → Prop) s g s' g', (∀ o, up o → up' o) →
    rely i up' s g s' g' → rely i up s g s' g'

namespace Contract

variable (C : Contract Res ι σ γ α)

/-- What thread `i`, stopped at `p`, may rely on. -/
def Rely (i : ι) (p : Prog Res β) : σ → γ → σ → γ → Prop := C.rely i (p.Upcoming C.skip)

/-- From `s`, thread `i` running `p` among threads that respect its rely keeps the invariant and
the relies of the others, and returns only with `Q`. -/
def Safe (i : ι) : Prog Res β → (β → σ → γ → Prop) → σ → γ → Prop
  | .ret a, Q, s, g => ∀ s' g', C.Rely i (.ret a : Prog Res β) s g s' g' → C.inv s' g' → Q a s' g'
  | .act o k, Q, s, g => ∀ s' g', C.Rely i (.act o k) s g s' g' → C.inv s' g' →
      C.check i o s' g' ∧ ∀ threads r s'', C.sem i o s' r s'' → C.ok ⟨s', threads⟩ i o r →
        ∃ g'', C.inv s'' g'' ∧ (∀ j, j ≠ i → C.Rely j (threads j) s' g' s'' g'') ∧
          Safe i (k r) Q s'' g''

variable {C}

/-- Safety survives what the other threads do. -/
theorem Safe.of_rely {i : ι} {p : Prog Res β} {Q : β → σ → γ → Prop} {s s' : σ} {g g' : γ}
    (h : C.Safe i p Q s g) (hr : C.Rely i p s g s' g') : C.Safe i p Q s' g' := by
  cases p with
  | ret a => exact fun s₁ g₁ h₁ => h s₁ g₁ (C.rely_trans _ _ _ _ _ _ _ _ hr h₁)
  | act o k => exact fun s₁ g₁ h₁ => h s₁ g₁ (C.rely_trans _ _ _ _ _ _ _ _ hr h₁)

theorem Safe.step {i : ι} {o : Op} {k : Res o → Prog Res β} {Q : β → σ → γ → Prop} {s s' : σ}
    {g : γ} {threads : ι → Prog Res α} {r : Res o} (h : C.Safe i (.act o k) Q s g)
    (hinv : C.inv s g) (hsem : C.sem i o s r s') (hok : C.ok ⟨s, threads⟩ i o r) :
    ∃ g', C.inv s' g' ∧ (∀ j, j ≠ i → C.Rely j (threads j) s g s' g') ∧ C.Safe i (k r) Q s' g' :=
  (h s g (C.rely_refl _ _ _ _) hinv).2 threads r s' hsem hok

theorem Safe.result {i : ι} {a : β} {Q : β → σ → γ → Prop} {s : σ} {g : γ}
    (h : C.Safe i (.ret a) Q s g) (hinv : C.inv s g) : Q a s g :=
  h s g (C.rely_refl _ _ _ _) hinv

theorem Safe.checked {i : ι} {o : Op} {k : Res o → Prog Res β} {Q : β → σ → γ → Prop} {s : σ}
    {g : γ} (h : C.Safe i (.act o k) Q s g) (hinv : C.inv s g) : C.check i o s g :=
  (h s g (C.rely_refl _ _ _ _) hinv).1

/-- Every interleaving of threads that keep the contract keeps the invariant, and leaves every
thread keeping the contract. -/
theorem sound [DecidableEq ι] {Q : ι → α → σ → γ → Prop} {c c' : Config Res ι σ α} {g : γ}
    (hinv : C.inv c.state g) (hsafe : ∀ i, C.Safe i (c.threads i) (Q i) c.state g)
    (h : Reaches C.sem C.ok c c') :
    ∃ g', C.inv c'.state g' ∧ ∀ i, C.Safe i (c'.threads i) (Q i) c'.state g' := by
  induction h with
  | refl => exact ⟨g, hinv, hsafe⟩
  | tail _ hstep ih =>
    obtain ⟨g₁, hinv₁, hsafe₁⟩ := ih
    cases hstep with
    | @act i o k r s' hi hsem hok =>
      have hact := hsafe₁ i
      rw [hi] at hact
      obtain ⟨g₂, hinv₂, hrely, hnext⟩ := hact.step hinv₁ hsem hok
      refine ⟨g₂, hinv₂, fun j => ?_⟩
      by_cases hj : j = i
      · subst hj
        simpa using hnext
      · simpa [hj] using (hsafe₁ j).of_rely (hrely j hj)

/-- A thread that has returned sees, over any run of the others, only what it may rely on. -/
theorem observe [DecidableEq ι] {Q : ι → α → σ → γ → Prop} {c c' : Config Res ι σ α} {g : γ}
    {j : ι} {a : α} (hinv : C.inv c.state g) (hsafe : ∀ i, C.Safe i (c.threads i) (Q i) c.state g)
    (hj : c.threads j = .ret a) (h : Reaches C.sem C.ok c c') :
    ∃ g', C.Rely j (.ret a : Prog Res α) c.state g c'.state g' := by
  have main : ∃ g', C.inv c'.state g' ∧ (∀ i, C.Safe i (c'.threads i) (Q i) c'.state g') ∧
      C.Rely j (.ret a : Prog Res α) c.state g c'.state g' := by
    induction h with
    | refl => exact ⟨g, hinv, hsafe, C.rely_refl _ _ _ _⟩
    | tail hreach hstep ih =>
      have hj₁ := Reaches.returned hreach hj
      obtain ⟨g₁, hinv₁, hsafe₁, hrely₁⟩ := ih
      cases hstep with
      | @act i o k r s' hi hsem hok =>
        have hact := hsafe₁ i
        rw [hi] at hact
        obtain ⟨g₂, hinv₂, hrely, hnext⟩ := hact.step hinv₁ hsem hok
        have hne : j ≠ i := by
          rintro rfl
          rw [hj₁] at hi
          cases hi
        have hrely₂ := hrely j hne
        rw [hj₁] at hrely₂
        refine ⟨g₂, hinv₂, fun i' => ?_, C.rely_trans _ _ _ _ _ _ _ _ hrely₁ hrely₂⟩
        by_cases hi' : i' = i
        · subst hi'
          simpa using hnext
        · simpa [hi'] using (hsafe₁ i').of_rely (hrely i' hi')
  obtain ⟨g', -, -, hrely⟩ := main
  exact ⟨g', hrely⟩

/-- `P` before the program gives safety with result `Q`. -/
def Triple (C : Contract Res ι σ γ α) (i : ι) (P : σ → γ → Prop) (p : Prog Res β)
    (Q : β → σ → γ → Prop) : Prop :=
  ∀ s g, C.inv s g → P s g → C.Safe i p Q s g

/-- `P` survives whatever the other threads do while thread `i` is stopped anywhere. -/
def Stable (C : Contract Res ι σ γ α) (i : ι) (P : σ → γ → Prop) : Prop :=
  ∀ up s g s' g', C.rely i up s g s' g' → C.inv s' g' → P s g → P s' g'

theorem Triple.ret {i : ι} {P : σ → γ → Prop} {Q : β → σ → γ → Prop} {a : β}
    (hP : C.Stable i P) (h : ∀ s g, C.inv s g → P s g → Q a s g) :
    C.Triple i P (.ret a) Q :=
  fun s g _ hp s' g' hr hi => h s' g' hi (hP _ s g s' g' hr hi hp)

/-- The rule for one action: `P` survives the others, the action keeps the contract, and what it
establishes starts the rest of the program. -/
theorem Triple.act {i : ι} {P : σ → γ → Prop} {Q : β → σ → γ → Prop} {o : Op}
    {k : Res o → Prog Res β} (R : Res o → σ → γ → Prop)
    (hP : ∀ s g s' g', C.Rely i (.act o k) s g s' g' → C.inv s' g' → P s g → P s' g')
    (hcheck : ∀ s g, C.inv s g → P s g → C.check i o s g)
    (hstep : ∀ threads s g r s', C.inv s g → P s g → C.sem i o s r s' → C.ok ⟨s, threads⟩ i o r →
      ∃ g', C.inv s' g' ∧ (∀ j, j ≠ i → C.Rely j (threads j) s g s' g') ∧ R r s' g')
    (hk : ∀ r, C.Triple i (R r) (k r) Q) : C.Triple i P (.act o k) Q := by
  intro s g _ hp s' g' hr hi
  have hp' := hP s g s' g' hr hi hp
  refine ⟨hcheck s' g' hi hp', fun threads r s'' hsem hok => ?_⟩
  obtain ⟨g'', hinv, hrely, hR⟩ := hstep threads s' g' r s'' hi hp' hsem hok
  exact ⟨g'', hinv, hrely, hk r s'' g'' hinv hR⟩

/-- The rule for sequencing. The first program is stopped at fewer points than the whole, so what
it relies on is no more than what the whole relies on. -/
theorem Triple.bind {i : ι} {p : Prog Res β} {f : β → Prog Res δ} {P : σ → γ → Prop}
    {R : β → σ → γ → Prop} {Q : δ → σ → γ → Prop} (hp : C.Triple i P p R)
    (hf : ∀ a, C.Triple i (R a) (f a) Q) : C.Triple i P (p >>= f) Q := by
  have main : ∀ s g, C.inv s g → C.Safe i p R s g → C.Safe i (p >>= f) Q s g := by
    clear hp
    induction p with
    | ret a => exact fun s g hinv h => hf a s g hinv (h.result hinv)
    | act o k ih =>
      intro s g _ h s' g' hr hi
      obtain ⟨hc, hs⟩ := h s' g' (C.rely_mono _ _ _ _ _ _ _ (fun _ hup => hup.bind f) hr) hi
      refine ⟨hc, fun threads r s'' hsem hok => ?_⟩
      obtain ⟨g'', hinv, hrely, hk⟩ := hs threads r s'' hsem hok
      exact ⟨g'', hinv, hrely, ih r s'' g'' hinv hk⟩
  exact fun s g hinv h => main s g hinv (hp s g hinv h)

theorem Safe.mono {i : ι} {p : Prog Res β} {Q Q' : β → σ → γ → Prop}
    (hQ : ∀ a s g, C.inv s g → Q a s g → Q' a s g) {s : σ} {g : γ} (h : C.Safe i p Q s g) :
    C.Safe i p Q' s g := by
  induction p generalizing s g with
  | ret a => exact fun s' g' hr hi => hQ a s' g' hi (h s' g' hr hi)
  | act o k ih =>
    intro s' g' hr hi
    obtain ⟨hc, hs⟩ := h s' g' hr hi
    refine ⟨hc, fun threads r s'' hsem hok => ?_⟩
    obtain ⟨g'', hinv, hrely, hk⟩ := hs threads r s'' hsem hok
    exact ⟨g'', hinv, hrely, ih r hk⟩

theorem Triple.conseq {i : ι} {p : Prog Res β} {P P' : σ → γ → Prop}
    {Q Q' : β → σ → γ → Prop} (h : C.Triple i P p Q) (hP : ∀ s g, C.inv s g → P' s g → P s g)
    (hQ : ∀ a s g, C.inv s g → Q a s g → Q' a s g) : C.Triple i P' p Q' :=
  fun s g hinv hp => (h s g hinv (hP s g hinv hp)).mono hQ

/-- What neither the others nor the thread itself can change still holds when the program returns. -/
theorem Safe.frame {i : ι} {p : Prog Res β} {Q : β → σ → γ → Prop} {F : σ → Prop}
    (hrely : ∀ up s g s' g', C.rely i up s g s' g' → F s → F s')
    (hstep : ∀ o s r s', C.sem i o s r s' → F s → F s') {s : σ} {g : γ} (h : C.Safe i p Q s g)
    (hF : F s) : C.Safe i p (fun a s g => Q a s g ∧ F s) s g := by
  induction p generalizing s g with
  | ret a => exact fun s' g' hr hi => ⟨h s' g' hr hi, hrely _ s g s' g' hr hF⟩
  | act o k ih =>
    intro s' g' hr hi
    obtain ⟨hc, hs⟩ := h s' g' hr hi
    refine ⟨hc, fun threads r s'' hsem hok => ?_⟩
    obtain ⟨g'', hinv, hothers, hk⟩ := hs threads r s'' hsem hok
    exact ⟨g'', hinv, hothers, ih r hk (hstep o s' r s'' hsem (hrely _ s g s' g' hr hF))⟩

theorem Triple.frame {i : ι} {p : Prog Res β} {P : σ → γ → Prop} {Q : β → σ → γ → Prop}
    {F : σ → Prop} (hrely : ∀ up s g s' g', C.rely i up s g s' g' → F s → F s')
    (hstep : ∀ o s r s', C.sem i o s r s' → F s → F s') (h : C.Triple i P p Q) :
    C.Triple i (fun s g => P s g ∧ F s) p fun a s g => Q a s g ∧ F s :=
  fun s g hinv hp => (h s g hinv hp.1).frame hrely hstep hp.2

theorem Triple.exists {i : ι} {p : Prog Res β} {P : δ → σ → γ → Prop} {Q : β → σ → γ → Prop}
    (h : ∀ d, C.Triple i (P d) p Q) : C.Triple i (fun s g => ∃ d, P d s g) p Q :=
  fun s g hinv ⟨d, hd⟩ => h d s g hinv hd

/-- A precondition that speaks of no state may be assumed. -/
theorem Triple.pure {i : ι} {p : Prog Res β} {φ : Prop} {P : σ → γ → Prop}
    {Q : β → σ → γ → Prop} (h : φ → C.Triple i P p Q) :
    C.Triple i (fun s g => φ ∧ P s g) p Q :=
  fun s g hinv hp => h hp.1 s g hinv hp.2

end Contract

end Interleaving
