import Mathlib.Data.List.Basic

/-!
# Request stacks

A server whose routes and middlewares are registered in one list. A request goes down the list: a
middleware that is registered under a prefix of its path answers it or passes it on with other locals,
and the first route that it matches has it. `rows` is the table a reader makes of such a list, each
route with all that guards it, and `serve_of_firstMatch` says that the server follows the table.
-/

namespace Middleware

/-- What a middleware makes of a request: an answer, or new locals. -/
inductive Verdict (E L : Type)
  | reply (e : E)
  | next (locals : L)

/-- What becomes of a request: a middleware answered, a route has it, or nothing matched. -/
inductive Outcome (E A L : Type)
  | refused (e : E)
  | handled (endpoint : A) (locals : L)
  | unrouted
  deriving DecidableEq

/-- A route: its own guards come before its endpoint, which may depend on a parameter of the path. -/
structure Route (G A : Type) where
  methods : List String
  pattern : String
  guards : List G
  endpoint : String → A

inductive Registration (G A : Type)
  | use (pathPrefix : String) (guard : G)
  | route (r : Route G A)

/-- How paths are matched: `uses` for a prefix, `param` for a pattern, with the value of its parameter. -/
structure Router (Q : Type) where
  method : Q → String
  uses : String → Q → Bool
  param : String → Q → Option String

section

variable {Q G A E L : Type} (router : Router Q) (run : G → Q → L → Verdict E L)

/-- The endpoint a request has at a route. -/
def Route.answer (r : Route G A) (q : Q) : Option A :=
  if router.method q ∈ r.methods then (router.param r.pattern q).map r.endpoint else none

def Verdict.andThen (v : Verdict E L) (rest : L → Verdict E L) : Verdict E L :=
  match v with
  | .reply e => .reply e
  | .next locals => rest locals

/-- The guards of a route, one after the other. -/
def runAll (gs : List G) (q : Q) (locals : L) : Verdict E L :=
  match gs with
  | [] => .next locals
  | g :: gs => (run g q locals).andThen (runAll gs q)

/-- The outcome at a route whose guards have spoken. -/
def Verdict.finish (a : A) : Verdict E L → Outcome E A L
  | .reply e => .refused e
  | .next locals => .handled a locals

def serve (q : Q) (locals : L) : List (Registration G A) → Outcome E A L
  | [] => .unrouted
  | .use pathPrefix g :: rest =>
    if router.uses pathPrefix q then
      match run g q locals with
      | .reply e => .refused e
      | .next locals => serve q locals rest
    else serve q locals rest
  | .route r :: rest =>
    match r.answer router q with
    | some a => (runAll run r.guards q locals).finish a
    | none => serve q locals rest

/-! ## The table -/

/-- A route with a guard before its own, if the guard's prefix is one of its pattern. -/
def Route.guarded (pathPrefix : String) (g : G) (r : Route G A) : Route G A :=
  if pathPrefix.toList <+: r.pattern.toList then { r with guards := g :: r.guards } else r

/-- Every route with all the guards before it. -/
def rows : List (Registration G A) → List (Route G A)
  | [] => []
  | .use pathPrefix g :: rest => (rows rest).map (Route.guarded pathPrefix g)
  | .route r :: rest => r :: rows rest

/-- The first route that a request matches, with its endpoint there. -/
def firstMatch (q : Q) : List (Route G A) → Option (Route G A × A)
  | [] => none
  | r :: rest =>
    match r.answer router q with
    | some a => some (r, a)
    | none => firstMatch q rest

/-- A router that treats a group's prefix as it treats the group's routes. -/
def Router.Respects (regs : List (Registration G A)) : Prop :=
  ∀ pathPrefix g, .use pathPrefix g ∈ regs → ∀ r, .route r ∈ regs → ∀ q v,
    router.param r.pattern q = some v →
      (router.uses pathPrefix q = true ↔ pathPrefix.toList <+: r.pattern.toList)

variable {router run} {regs : List (Registration G A)} {q : Q}

@[simp] theorem Verdict.andThen_next (v : Verdict E L) : v.andThen .next = v := by
  cases v <;> rfl

@[simp] theorem answer_guarded (pathPrefix : String) (g : G) (r : Route G A) :
    (r.guarded pathPrefix g).answer router q = r.answer router q := by
  unfold Route.guarded
  split <;> rfl

theorem firstMatch_map_guarded (pathPrefix : String) (g : G) (rs : List (Route G A)) :
    firstMatch router q (rs.map (Route.guarded pathPrefix g)) =
      (firstMatch router q rs).map (Prod.map (Route.guarded pathPrefix g) id) := by
  induction rs with
  | nil => rfl
  | cons r rs ih =>
    simp only [List.map_cons, firstMatch, answer_guarded, ih]
    split <;> rfl

theorem answer_of_firstMatch {rs : List (Route G A)} {r : Route G A} {a : A}
    (h : firstMatch router q rs = some (r, a)) : r ∈ rs ∧ r.answer router q = some a := by
  induction rs with
  | nil => cases h
  | cons r₀ rs ih =>
    rw [firstMatch] at h
    split at h
    · rename_i a₀ ha
      cases h
      exact ⟨List.mem_cons_self, ha⟩
    · exact ⟨List.mem_cons_of_mem _ (ih h).1, (ih h).2⟩

/-- A row has the pattern of a route that was registered. -/
theorem pattern_of_mem_rows {r : Route G A} (h : r ∈ rows regs) :
    ∃ r₀, .route r₀ ∈ regs ∧ r₀.pattern = r.pattern := by
  induction regs generalizing r with
  | nil => cases h
  | cons reg rest ih =>
    cases reg with
    | use pathPrefix g =>
      obtain ⟨r₁, hr₁, rfl⟩ := List.mem_map.1 h
      obtain ⟨r₀, hr₀, heq⟩ := ih hr₁
      refine ⟨r₀, List.mem_cons_of_mem _ hr₀, heq.trans ?_⟩
      unfold Route.guarded
      split <;> rfl
    | route r₀ =>
      rcases List.mem_cons.1 h with rfl | hr
      · exact ⟨r, List.mem_cons_self, rfl⟩
      · obtain ⟨r₁, hr₁, heq⟩ := ih hr
        exact ⟨r₁, List.mem_cons_of_mem _ hr₁, heq⟩

theorem Router.Respects.tail {reg : Registration G A} (h : router.Respects (reg :: regs)) :
    router.Respects regs :=
  fun pathPrefix g hg r hr => h pathPrefix g (List.mem_cons_of_mem _ hg) r (List.mem_cons_of_mem _ hr)

/-- A request that matches no route reaches no endpoint. -/
theorem serve_ne_handled {locals locals' : L} {a : A} (h : firstMatch router q (rows regs) = none) :
    serve router run q locals regs ≠ .handled a locals' := by
  induction regs generalizing locals with
  | nil => nofun
  | cons reg rest ih =>
    cases reg with
    | route r =>
      simp only [rows, firstMatch] at h
      simp only [serve]
      cases hanswer : r.answer router q with
      | some a₀ => simp [hanswer] at h
      | none => exact ih (by simpa [hanswer] using h)
    | use pathPrefix g =>
      rw [rows, firstMatch_map_guarded, Option.map_eq_none_iff] at h
      rw [serve]
      split
      · split
        · nofun
        · exact ih h
      · exact ih h

/-- A request that matches a route is answered by the guards of that route's row, or reaches its
endpoint. -/
theorem serve_of_firstMatch (hr : router.Respects regs) {locals : L} {r : Route G A} {a : A}
    (h : firstMatch router q (rows regs) = some (r, a)) :
    serve router run q locals regs = (runAll run r.guards q locals).finish a := by
  induction regs generalizing locals r with
  | nil => cases h
  | cons reg rest ih =>
    cases reg with
    | route r₀ =>
      simp only [rows, firstMatch] at h
      simp only [serve]
      cases hanswer : r₀.answer router q with
      | some a₀ =>
        rw [hanswer] at h
        cases h
        rfl
      | none =>
        rw [hanswer] at h
        exact ih hr.tail h
    | use pathPrefix g =>
      rw [rows, firstMatch_map_guarded] at h
      obtain ⟨⟨r₁, a₁⟩, hfirst, heq⟩ := Option.map_eq_some_iff.1 h
      obtain ⟨rfl, rfl⟩ := Prod.mk.inj heq
      have huses : router.uses pathPrefix q = true ↔ pathPrefix.toList <+: r₁.pattern.toList := by
        obtain ⟨hmem, hanswer⟩ := answer_of_firstMatch hfirst
        obtain ⟨r₀, hr₀, hpattern⟩ := pattern_of_mem_rows hmem
        obtain ⟨v, hv, -⟩ := Option.map_eq_some_iff.1 (Option.ite_none_right_eq_some.1 hanswer).2
        rw [← hpattern] at hv ⊢
        exact hr pathPrefix g List.mem_cons_self r₀ (List.mem_cons_of_mem _ hr₀) q v hv
      rw [serve]
      by_cases hprefix : pathPrefix.toList <+: r₁.pattern.toList
      · rw [if_pos (huses.2 hprefix), Route.guarded, if_pos hprefix, runAll]
        cases run g q locals with
        | reply e => rfl
        | next l => exact ih hr.tail hfirst
      · rw [if_neg (mt huses.1 hprefix), Route.guarded, if_neg hprefix]
        exact ih hr.tail hfirst

end

end Middleware
