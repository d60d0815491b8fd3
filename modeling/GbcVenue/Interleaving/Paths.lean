import GbcVenue.Interleaving.Program

/-!
# Paths

A path of a program is what it does on given answers, whatever the states that give them. A run is a
path along which the states follow (`runs_iff_path`), so what the answers decide is proved about paths
and what the states decide about `Along`.
-/

namespace Interleaving

/-- The actions of a run, each with its answer. -/
abbrev Log {Op : Type} (Res : Op → Type) := List ((o : Op) × Res o)

namespace Prog

variable {Op : Type} {Res : Op → Type} {α β : Type}

/-- On the answers of `l`, program `p` performs the actions of `l` and returns `a`. -/
inductive Path : Prog Res α → Log Res → α → Prop
  | ret (a : α) : Path (ret a) [] a
  | act {o : Op} {k : Res o → Prog Res α} {r : Res o} {l : Log Res} {a : α} (h : Path (k r) l a) :
      Path (act o k) (⟨o, r⟩ :: l) a

@[simp] theorem path_ret {a b : α} {l : Log Res} : (ret a).Path l b ↔ l = [] ∧ b = a := by
  constructor
  · rintro ⟨⟩
    exact ⟨rfl, rfl⟩
  · rintro ⟨rfl, rfl⟩
    exact .ret _

theorem path_act {o : Op} {k : Res o → Prog Res α} {l : Log Res} {a : α} :
    (act o k).Path l a ↔ ∃ r l', l = ⟨o, r⟩ :: l' ∧ (k r).Path l' a := by
  constructor
  · rintro (_ | ⟨h⟩)
    exact ⟨_, _, rfl, h⟩
  · rintro ⟨r, l', rfl, h⟩
    exact .act h

/-- A path of a sequence is a path of its first part followed by one of the second. -/
theorem path_bind {p : Prog Res α} {f : α → Prog Res β} {l : Log Res} {b : β} :
    (p >>= f).Path l b ↔ ∃ l₁ l₂ a, l = l₁ ++ l₂ ∧ p.Path l₁ a ∧ (f a).Path l₂ b := by
  induction p generalizing l with
  | ret a =>
    simp only [ret_bind, path_ret]
    constructor
    · exact fun h => ⟨[], l, a, rfl, ⟨rfl, rfl⟩, h⟩
    · rintro ⟨_, _, _, rfl, ⟨rfl, rfl⟩, h⟩
      exact h
  | act o k ih =>
    simp only [act_bind, path_act, ih]
    constructor
    · rintro ⟨r, l', rfl, l₁, l₂, a, rfl, hk, hf⟩
      exact ⟨⟨o, r⟩ :: l₁, l₂, a, rfl, ⟨r, l₁, rfl, hk⟩, hf⟩
    · rintro ⟨_, l₂, a, rfl, ⟨r, l₁, rfl, hk⟩, hf⟩
      exact ⟨r, l₁ ++ l₂, rfl, l₁, l₂, a, rfl, hk, hf⟩

/-- The actions of a path satisfy what every action of the program does. -/
theorem Path.all {φ : Op → Prop} {p : Prog Res α} {l : Log Res} {a : α} (h : p.Path l a)
    (hp : p.All φ) : ∀ x ∈ l, φ x.1 := by
  induction h with
  | ret a => exact fun _ hx => absurd hx List.not_mem_nil
  | act _ ih =>
    intro x hx
    rcases List.mem_cons.1 hx with rfl | hx
    · exact hp.1
    · exact ih (hp.2 _) x hx

section States

variable {ι σ : Type} (sem : Sem Res ι σ) (i : ι)

/-- Thread `i`, from `s`, performs the actions of `l` with these answers and comes to `s'`. -/
inductive Along : Log Res → σ → σ → Prop
  | nil (s : σ) : Along [] s s
  | cons {o : Op} {r : Res o} {l : Log Res} {s s' s'' : σ} (h : sem i o s r s')
      (hl : Along l s' s'') : Along (⟨o, r⟩ :: l) s s''

variable {sem i}

/-- A run is a path along which the states follow. -/
theorem runs_iff_path {p : Prog Res α} {s s' : σ} {a : α} :
    Runs sem i p s a s' ↔ ∃ l, p.Path l a ∧ Along sem i l s s' := by
  constructor
  · intro h
    induction h with
    | ret a s => exact ⟨[], .ret a, .nil s⟩
    | act hstep _ ih =>
      obtain ⟨l, hpath, halong⟩ := ih
      exact ⟨_ :: l, .act hpath, .cons hstep halong⟩
  · rintro ⟨l, hpath, halong⟩
    induction halong generalizing p with
    | nil s =>
      cases hpath
      exact .ret a s
    | cons hstep _ ih =>
      cases hpath with
      | act h => exact .act hstep (ih h)

/-- What every action of a log preserves. -/
theorem Along.preserves {R : σ → σ → Prop} (hrefl : ∀ s, R s s)
    (htrans : ∀ s s' s'', R s s' → R s' s'' → R s s'') {l : Log Res} {s s' : σ}
    (h : Along sem i l s s') (hstep : ∀ x ∈ l, ∀ s s', sem i x.1 s x.2 s' → R s s') : R s s' := by
  induction h with
  | nil s => exact hrefl s
  | cons h _ ih =>
    refine htrans _ _ _ (hstep _ List.mem_cons_self _ _ h) (ih fun x hx => ?_)
    exact hstep x (List.mem_cons_of_mem _ hx)

/-- Runs a program to its end and keeps the log. -/
def record {ε : Type} (perform : ι → ε → (o : Op) → σ → Option (Res o × σ)) (i : ι) :
    List ε → Prog Res α → σ → Option (Log Res × α × σ)
  | _, ret a, s => some ([], a, s)
  | [], act _ _, _ => none
  | e :: es, act o k, s => match perform i e o s with
    | none => none
    | some (r, s') => (record perform i es (k r) s').map fun x => (⟨o, r⟩ :: x.1, x.2)

theorem path_of_record {ε : Type} {perform : ι → ε → (o : Op) → σ → Option (Res o × σ)}
    {es : List ε} {p : Prog Res α} {s s' : σ} {l : Log Res} {a : α}
    (hsem : ∀ e ∈ es, ∀ o s r s', perform i e o s = some (r, s') → sem i o s r s')
    (h : record perform i es p s = some (l, a, s')) : p.Path l a ∧ Along sem i l s s' := by
  induction es generalizing p s l with
  | nil =>
    cases p with
    | ret b =>
      cases h
      exact ⟨.ret _, .nil _⟩
    | act o k => cases h
  | cons e es ih =>
    cases p with
    | ret b =>
      cases h
      exact ⟨.ret _, .nil _⟩
    | act o k =>
      rw [record] at h
      split at h
      · cases h
      · rename_i r s₁ hperf
        obtain ⟨⟨l', a', s₂⟩, hrec, heq⟩ := Option.map_eq_some_iff.1 h
        cases heq
        obtain ⟨hpath, halong⟩ := ih (fun e he => hsem e (List.mem_cons_of_mem _ he)) hrec
        exact ⟨.act hpath, .cons (hsem e List.mem_cons_self _ _ _ _ hperf) halong⟩

end States

end Prog

end Interleaving
