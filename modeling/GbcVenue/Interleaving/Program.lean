import Mathlib.Logic.Function.Basic

/-!
# Programs over atomic actions

A sequential program is a tree of atomic actions: `act o k` performs `o` and goes on with `k`
applied to the answer. The tree fixes the order of the actions and nothing else; what an action
does to the shared state is a relation `Sem` supplied separately, so the same program can be run
alone (`Runs`) or as one thread among many (`Pool`).
-/

namespace Interleaving

/-- A program over the actions `Op`; `Res o` is the type of what action `o` answers. -/
inductive Prog {Op : Type} (Res : Op → Type) (α : Type) : Type
  | ret (a : α)
  | act (o : Op) (k : Res o → Prog Res α)

/-- `sem i o s r s'`: thread `i` may perform `o` in state `s`, which answers `r` and leaves `s'`.
A thread with no such `r` and `s'` is blocked. -/
abbrev Sem {Op : Type} (Res : Op → Type) (ι σ : Type) :=
  ι → (o : Op) → σ → Res o → σ → Prop

namespace Prog

variable {Op : Type} {Res : Op → Type} {α β γ : Type}

/-- Sequencing: the second program starts where the first returns. -/
def bind : Prog Res α → (α → Prog Res β) → Prog Res β
  | ret a, f => f a
  | act o k, f => act o fun r => (k r).bind f

instance : Monad (Prog Res) where
  pure := ret
  bind := bind

/-- The program that performs one action and returns its answer. -/
def call (o : Op) : Prog Res (Res o) := act o ret

/-- `if c { p }`. -/
def when (c : Bool) (p : Prog Res Unit) : Prog Res Unit := if c then p else ret ()

@[simp] theorem when_true (p : Prog Res Unit) : when true p = p := rfl

@[simp] theorem when_false (p : Prog Res Unit) : when false p = ret () := rfl

@[simp] theorem pure_eq (a : α) : (pure a : Prog Res α) = ret a := rfl

@[simp] theorem bind_eq (p : Prog Res α) (f : α → Prog Res β) : p.bind f = (p >>= f) := rfl

@[simp] theorem ret_bind (a : α) (f : α → Prog Res β) : (ret a >>= f : Prog Res β) = f a := rfl

@[simp] theorem act_bind (o : Op) (k : Res o → Prog Res α) (f : α → Prog Res β) :
    (act o k >>= f : Prog Res β) = act o fun r => k r >>= f := rfl

@[simp] theorem call_bind (o : Op) (f : Res o → Prog Res β) :
    (call o >>= f : Prog Res β) = act o f := rfl

/-- Every action of the program, on every path, satisfies `φ`. -/
def All (φ : Op → Prop) : Prog Res α → Prop
  | ret _ => True
  | act o k => φ o ∧ ∀ r, (k r).All φ

@[simp] theorem all_ret (φ : Op → Prop) (a : α) : (ret a : Prog Res α).All φ := trivial

@[simp] theorem all_act (φ : Op → Prop) (o : Op) (k : Res o → Prog Res α) :
    (act o k).All φ ↔ φ o ∧ ∀ r, (k r).All φ := Iff.rfl

@[simp] theorem all_call (φ : Op → Prop) (o : Op) : (call o : Prog Res (Res o)).All φ ↔ φ o :=
  ⟨fun h => h.1, fun h => ⟨h, fun _ => trivial⟩⟩

theorem all_call_bind {φ : Op → Prop} {o : Op} {f : Res o → Prog Res α} (ho : φ o)
    (hf : ∀ r, (f r).All φ) : (call o >>= f).All φ := ⟨ho, hf⟩

theorem all_when {φ : Op → Prop} {c : Bool} {p : Prog Res Unit} (hp : p.All φ) :
    (when c p).All φ := by
  cases c
  · trivial
  · exact hp

theorem all_bind {φ : Op → Prop} {p : Prog Res α} {f : α → Prog Res β} (hp : p.All φ)
    (hf : ∀ a, (f a).All φ) : (p >>= f).All φ := by
  induction p with
  | ret a => exact hf a
  | act o k ih => exact ⟨hp.1, fun r => ih r (hp.2 r)⟩

theorem All.mono {φ ψ : Op → Prop} {p : Prog Res α} (h : p.All φ) (hφ : ∀ o, φ o → ψ o) :
    p.All ψ := by
  induction p with
  | ret a => trivial
  | act o k ih => exact ⟨hφ o h.1, fun r => ih r (h.2 r)⟩

/-- `p.Upcoming skip o`: on some path of `p` the first action outside `skip` is `o`. -/
inductive Upcoming (skip : Op → Prop) : Prog Res α → Op → Prop
  | here (o : Op) (k : Res o → Prog Res α) : Upcoming skip (act o k) o
  | later {o o' : Op} {k : Res o → Prog Res α} (r : Res o) (ho : skip o)
      (h : Upcoming skip (k r) o') : Upcoming skip (act o k) o'

theorem not_upcoming_ret {skip : Op → Prop} (a : α) (o : Op) :
    ¬ (ret a : Prog Res α).Upcoming skip o := nofun

theorem upcoming_act {skip : Op → Prop} {o o' : Op} {k : Res o → Prog Res α} :
    (act o k).Upcoming skip o' ↔ o' = o ∨ (skip o ∧ ∃ r, (k r).Upcoming skip o') := by
  constructor
  · rintro (_ | ⟨r, ho, h⟩)
    · exact .inl rfl
    · exact .inr ⟨ho, r, h⟩
  · rintro (rfl | ⟨ho, r, h⟩)
    · exact .here _ k
    · exact .later r ho h

theorem Upcoming.bind {skip : Op → Prop} {p : Prog Res α} {o : Op} (f : α → Prog Res β)
    (h : p.Upcoming skip o) : (p >>= f).Upcoming skip o := by
  induction h with
  | here o k => exact .here o _
  | later r ho _ ih => exact .later r ho ih

section Alone

variable {ι σ : Type} (sem : Sem Res ι σ) (i : ι)

/-- Thread `i` runs `p` alone from `s`, returning `a` in `s'`. -/
inductive Runs : Prog Res α → σ → α → σ → Prop
  | ret (a : α) (s : σ) : Runs (ret a) s a s
  | act {o : Op} {k : Res o → Prog Res α} {s s' s'' : σ} {r : Res o} {a : α}
      (h : sem i o s r s') (hk : Runs (k r) s' a s'') : Runs (act o k) s a s''

/-- Thread `i`, running alone, takes the program `p` in state `s` to the rest `q` in `s'`. -/
inductive Passes : Prog Res α → σ → Prog Res α → σ → Prop
  | refl (p : Prog Res α) (s : σ) : Passes p s p s
  | act {o : Op} {k : Res o → Prog Res α} {s s' s'' : σ} {r : Res o} {q : Prog Res α}
      (h : sem i o s r s') (hk : Passes (k r) s' q s'') : Passes (act o k) s q s''

variable {sem i}

@[simp] theorem runs_ret {a b : α} {s s' : σ} :
    Runs sem i (ret a : Prog Res α) s b s' ↔ b = a ∧ s' = s := by
  constructor
  · rintro ⟨⟩
    exact ⟨rfl, rfl⟩
  · rintro ⟨rfl, rfl⟩
    exact .ret _ _

theorem runs_act {o : Op} {k : Res o → Prog Res α} {s s'' : σ} {a : α} :
    Runs sem i (act o k) s a s'' ↔ ∃ r s', sem i o s r s' ∧ Runs sem i (k r) s' a s'' := by
  constructor
  · rintro (_ | ⟨h, hk⟩)
    exact ⟨_, _, h, hk⟩
  · rintro ⟨r, s', h, hk⟩
    exact .act h hk

theorem Runs.when_cases {c : Bool} {p : Prog Res Unit} {s s' : σ} {a : Unit}
    (h : Runs sem i (when c p) s a s') : (c = true ∧ Runs sem i p s a s') ∨ (c = false ∧ s' = s) := by
  cases c with
  | true => exact .inl ⟨rfl, h⟩
  | false => exact .inr ⟨rfl, (runs_ret.1 h).2⟩

/-- A run of a sequence is a run of its first part followed by a run of the second. -/
theorem runs_bind {p : Prog Res α} {f : α → Prog Res β} {s s'' : σ} {b : β} :
    Runs sem i (p >>= f) s b s'' ↔ ∃ a s', Runs sem i p s a s' ∧ Runs sem i (f a) s' b s'' := by
  induction p generalizing s with
  | ret a =>
    simp only [ret_bind, runs_ret]
    constructor
    · exact fun h => ⟨a, s, ⟨rfl, rfl⟩, h⟩
    · rintro ⟨_, _, ⟨rfl, rfl⟩, h⟩
      exact h
  | act o k ih =>
    simp only [act_bind, runs_act, ih]
    constructor
    · rintro ⟨r, s₁, h, a, s', hk, hf⟩
      exact ⟨a, s', ⟨r, s₁, h, hk⟩, hf⟩
    · rintro ⟨a, s', ⟨r, s₁, h, hk⟩, hf⟩
      exact ⟨r, s₁, h, a, s', hk, hf⟩

/-- A property of states kept by every action of the program is kept by a run of it. -/
theorem Runs.preserves {φ : Op → Prop} {R : σ → σ → Prop} (hrefl : ∀ s, R s s)
    (htrans : ∀ s s' s'', R s s' → R s' s'' → R s s'')
    (hstep : ∀ o s r s', φ o → sem i o s r s' → R s s') {p : Prog Res α} {s s' : σ} {a : α}
    (h : Runs sem i p s a s') (hp : p.All φ) : R s s' := by
  induction h with
  | ret a s => exact hrefl s
  | act h _ ih => exact htrans _ _ _ (hstep _ _ _ _ hp.1 h) (ih (hp.2 _))

/-- Follows a program on what the outside world (`ε`) contributes to its actions, until that is used
up or the program returns. -/
def advance {ε : Type} (perform : ι → ε → (o : Op) → σ → Option (Res o × σ)) (i : ι) :
    List ε → Prog Res α → σ → Option (Prog Res α × σ)
  | [], p, s => some (p, s)
  | _ :: _, ret a, s => some (ret a, s)
  | e :: es, act o k, s => match perform i e o s with
    | some (r, s') => advance perform i es (k r) s'
    | none => none

theorem passes_of_advance {ε : Type} {perform : ι → ε → (o : Op) → σ → Option (Res o × σ)}
    {es : List ε} {p q : Prog Res α} {s s' : σ}
    (hsem : ∀ e ∈ es, ∀ o s r s', perform i e o s = some (r, s') → sem i o s r s')
    (h : advance perform i es p s = some (q, s')) : Passes sem i p s q s' := by
  induction es generalizing p s with
  | nil =>
    cases h
    exact .refl _ _
  | cons e es ih =>
    cases p with
    | ret b =>
      cases h
      exact .refl _ _
    | act o k =>
      rw [advance] at h
      split at h
      · rename_i r s₁ hperf
        exact .act (hsem e (by simp) _ _ _ _ hperf) (ih (fun e he => hsem e (by simp [he])) h)
      · cases h

/-- A program that has come to its end has run. -/
theorem Passes.runs {p : Prog Res α} {s s' : σ} {a : α} (h : Passes sem i p s (ret a) s') :
    Runs sem i p s a s' := by
  generalize hq : (ret a : Prog Res α) = q at h
  induction h with
  | refl p s =>
    subst hq
    exact .ret _ _
  | act hstep _ ih => exact .act hstep (ih hq)

/-- Runs a program to its end. -/
def eval {ε : Type} (perform : ι → ε → (o : Op) → σ → Option (Res o × σ)) (i : ι) (es : List ε)
    (p : Prog Res α) (s : σ) : Option (α × σ) :=
  match advance perform i es p s with
  | some (ret a, s') => some (a, s')
  | _ => none

theorem runs_of_eval {ε : Type} {perform : ι → ε → (o : Op) → σ → Option (Res o × σ)}
    {es : List ε} {p : Prog Res α} {s s' : σ} {a : α}
    (hsem : ∀ e ∈ es, ∀ o s r s', perform i e o s = some (r, s') → sem i o s r s')
    (h : eval perform i es p s = some (a, s')) : Runs sem i p s a s' := by
  unfold eval at h
  split at h
  · rename_i b s₁ hadvance
    cases h
    exact (passes_of_advance hsem hadvance).runs
  · cases h

end Alone

end Prog

/-- The threads of `order` run their programs alone, one after another, each answering as listed. -/
inductive Serial {Op : Type} {Res : Op → Type} {ι σ α : Type} (sem : Sem Res ι σ)
    (prog : ι → Prog Res α) : List (ι × α) → σ → σ → Prop
  | nil (s : σ) : Serial sem prog [] s s
  | snoc {l : List (ι × α)} {s s' s'' : σ} {i : ι} {a : α} (h : Serial sem prog l s s')
      (hi : Prog.Runs sem i (prog i) s' a s'') : Serial sem prog (l ++ [(i, a)]) s s''

/-- A run of labelled steps, with the label of each and the states before and after it. -/
inductive Steps {σ τ : Type} (step : σ → τ → σ → Prop) (s : σ) : List (σ × τ × σ) → σ → Prop
  | nil : Steps step s [] s
  | snoc {l : List (σ × τ × σ)} {s' s'' : σ} {a : τ} (h : Steps step s l s')
      (hstep : step s' a s'') : Steps step s (l ++ [(s', a, s'')]) s''

/-- The entries of a run are steps. -/
theorem Steps.of_mem {σ τ : Type} {step : σ → τ → σ → Prop} {s s' : σ} {l : List (σ × τ × σ)}
    (h : Steps step s l s') : ∀ x ∈ l, step x.1 x.2.1 x.2.2 := by
  induction h with
  | nil => exact fun _ hmem => absurd hmem List.not_mem_nil
  | snoc _ hstep ih =>
    intro x hmem
    rcases List.mem_append.1 hmem with hmem | hmem
    · exact ih x hmem
    · obtain rfl := List.mem_singleton.1 hmem
      exact hstep

end Interleaving
