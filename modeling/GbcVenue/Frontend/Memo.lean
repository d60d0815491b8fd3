import Mathlib.Data.List.Induction

/-!
# Components that skip renderings

A component of which a comparison decides whether new props are rendered at all. A skip is invisible if
both props would look the same; where every skip is, the component looks at any time as if it had rendered
the last props it got (`Memo.render_shown`). What the comparison covers is so whatever it skips
(`Memo.render_covered`).
-/

/-- A component with its comparison, and what it makes of its props. -/
structure Memo (P V : Type) where
  propsAreEqual : P → P → Bool
  render : P → V

namespace Memo

variable {P V : Type} (m : Memo P V)

/-- If `next` is skipped after `prev`, one cannot tell. -/
def Invisible (prev next : P) : Prop := m.propsAreEqual prev next → m.render prev = m.render next

/-- The props that are shown after new ones have come. -/
def receive (shown next : P) : P := if m.propsAreEqual shown next then shown else next

/-- The props that are shown after a history of them. -/
def shown (first : P) (history : List P) : P := history.foldl m.receive first

variable {m} {first prev next : P} {history : List P}

theorem shown_append (next : P) :
    m.shown first (history ++ [next]) = m.receive (m.shown first history) next := by
  simp [shown]

theorem render_receive (h : m.Invisible prev next) :
    m.render (m.receive prev next) = m.render next := by
  unfold receive
  split
  · rename_i heq
    exact h heq
  · rfl

/-- What is shown has come at some time. -/
theorem shown_mem : m.shown first history ∈ first :: history := by
  induction history using List.reverseRecOn with
  | nil => exact List.mem_singleton_self first
  | append_singleton history next ih =>
    rw [shown_append, receive]
    split
    · exact List.mem_append_left [next] ih
    · exact List.mem_append_right (first :: history) (List.mem_singleton_self next)

/-- With invisible skips alone the component looks as the last props do. -/
theorem render_shown (h : ∀ prev ∈ first :: history, ∀ next ∈ history, m.Invisible prev next) :
    m.render (m.shown first history) = m.render (history.getLast?.getD first) := by
  rcases List.eq_nil_or_concat history with rfl | ⟨earlier, last, rfl⟩
  · rfl
  · rw [List.concat_eq_append] at h ⊢
    rw [shown_append, List.getLast?_concat]
    apply render_receive
    apply h
    · exact List.mem_append_left [last] shown_mem
    · exact List.mem_append_right earlier (List.mem_singleton_self last)

/-- A part of the view that the comparison covers is that of the last props. -/
theorem render_covered {W : Type} {g : V → W}
    (h : ∀ prev next, m.propsAreEqual prev next → g (m.render prev) = g (m.render next)) :
    g (m.render (m.shown first (history ++ [next]))) = g (m.render next) := by
  rw [shown_append, receive]
  split
  · rename_i heq
    exact h _ _ heq
  · rfl

end Memo
