import Mathlib.Data.List.Infix
import Mathlib.Data.List.Nodup

/-!
# Items in pages

A sequence of items that a server hands out in pages, each of which names the next one by a token, and the
iterator of a client that fetches a page when it runs out of items. Pages may be empty. The iterator hands
out what remains in order (`Iterator.next_spec`), and its pages become fewer (`Iterator.next_pending`).
-/

namespace Paging

variable {α : Type}

structure Page (α : Type) where
  token : String
  items : List α

/-- The pages of a server. The first one has the empty token. -/
structure Source (α : Type) where
  pages : List (Page α)
  first : ∃ page rest, pages = page :: rest ∧ page.token = ""
  nodup : (pages.map Page.token).Nodup

/-- The items of some pages. -/
def items (pages : List (Page α)) : List α := pages.flatMap Page.items

/-- The pages from that with a token on. -/
def Source.pagesFrom (src : Source α) (token : String) : List (Page α) :=
  src.pages.dropWhile fun page => page.token ≠ token

/-- The items that were fetched and not handed out, and the pages that were not fetched. -/
structure Iterator (α : Type) where
  buffer : List α
  pending : List (Page α)

namespace Iterator

/-- The token of the page after the last one fetched, empty after the last page. -/
def token (it : Iterator α) : String :=
  match it.pending with
  | [] => ""
  | page :: _ => page.token

def remaining (it : Iterator α) : List α := it.buffer ++ items it.pending

/-- The next item, from the first page that has one if there is none in the buffer. -/
def nextFrom : List α → List (Page α) → Option (α × Iterator α)
  | a :: buffer, pending => some (a, ⟨buffer, pending⟩)
  | [], page :: pending => nextFrom page.items pending
  | [], [] => none

def next (it : Iterator α) : Option (α × Iterator α) := nextFrom it.buffer it.pending

/-- At most `n` items, and the iterator after them. -/
def collect : Nat → Iterator α → List α × Iterator α
  | 0, it => ([], it)
  | n + 1, it => match it.next with
    | none => ([], it)
    | some (a, it') => (a :: (collect n it').1, (collect n it').2)

variable {it it' : Iterator α} {a : α}

theorem items_cons (page : Page α) (pages : List (Page α)) :
    items (page :: pages) = page.items ++ items pages := List.flatMap_cons

theorem nextFrom_spec (buffer : List α) (pending : List (Page α)) :
    match nextFrom buffer pending with
    | none => buffer ++ items pending = []
    | some (a, it) => buffer ++ items pending = a :: it.remaining ∧ it.pending <:+ pending := by
  induction pending generalizing buffer with
  | nil =>
    cases buffer with
    | nil => rfl
    | cons a buffer => exact ⟨rfl, List.suffix_refl []⟩
  | cons page pending ih =>
    cases buffer with
    | nil =>
      have hpage := ih page.items
      rw [nextFrom, List.nil_append, items_cons]
      split
      · rename_i hnone
        rwa [hnone] at hpage
      · rename_i a it hsome
        rw [hsome] at hpage
        exact ⟨hpage.1, hpage.2.trans (List.suffix_cons page pending)⟩
    | cons a buffer => exact ⟨rfl, List.suffix_refl _⟩

theorem next_none (h : it.next = none) : it.remaining = [] := by
  have hspec := nextFrom_spec it.buffer it.pending
  rwa [show nextFrom it.buffer it.pending = none from h] at hspec

/-- The next item is the first that remains. -/
theorem next_spec (h : it.next = some (a, it')) : it.remaining = a :: it'.remaining := by
  have hspec := nextFrom_spec it.buffer it.pending
  rw [show nextFrom it.buffer it.pending = some (a, it') from h] at hspec
  exact hspec.1

theorem next_pending (h : it.next = some (a, it')) : it'.pending <:+ it.pending := by
  have hspec := nextFrom_spec it.buffer it.pending
  rw [show nextFrom it.buffer it.pending = some (a, it') from h] at hspec
  exact hspec.2

/-- An iterator without a buffer fetches a page for its next item. -/
theorem next_fetches {page : Page α} {pages : List (Page α)}
    (h : (⟨[], page :: pages⟩ : Iterator α).next = some (a, it')) : it'.pending <:+ pages := by
  have hspec := nextFrom_spec page.items pages
  rw [show nextFrom page.items pages = some (a, it') from h] at hspec
  exact hspec.2

theorem collect_items (n : Nat) (it : Iterator α) : (it.collect n).1 = it.remaining.take n := by
  induction n generalizing it with
  | zero => rfl
  | succ n ih =>
    rw [collect]
    split
    · rename_i hnone
      rw [next_none hnone]
      rfl
    · rename_i a it' hsome
      rw [next_spec hsome, List.take_succ_cons, ih]

theorem collect_remaining (n : Nat) (it : Iterator α) :
    (it.collect n).2.remaining = it.remaining.drop n := by
  induction n generalizing it with
  | zero => rfl
  | succ n ih =>
    rw [collect]
    split
    · rename_i hnone
      rw [next_none hnone]
      rfl
    · rename_i a it' hsome
      rw [next_spec hsome, List.drop_succ_cons, ih]

theorem collect_pending (n : Nat) (it : Iterator α) : (it.collect n).2.pending <:+ it.pending := by
  induction n generalizing it with
  | zero => exact List.suffix_refl _
  | succ n ih =>
    rw [collect]
    split
    · exact List.suffix_refl _
    · rename_i a it' hsome
      exact (ih it').trans (next_pending hsome)

/-- Once the iterator has been used, the first of its pages is no more to come. -/
theorem collect_fetches {page : Page α} {pages : List (Page α)} {n : Nat}
    (h : ((⟨[], page :: pages⟩ : Iterator α).collect (n + 1)).2.next = some (a, it')) :
    it'.pending <:+ pages := by
  rw [collect] at h
  split at h
  · exact next_fetches h
  · rename_i b it₁ hfirst
    exact ((next_pending h).trans (collect_pending n it₁)).trans (next_fetches hfirst)

end Iterator

namespace Source

variable {src : Source α} {page : Page α} {rest : List (Page α)}

/-- The pages that the token of a page names are that page and those after it. -/
theorem pagesFrom_token (h : page :: rest <:+ src.pages) :
    src.pagesFrom page.token = page :: rest := by
  obtain ⟨earlier, hpages⟩ := h
  have hnodup := src.nodup
  rw [← hpages, List.map_append] at hnodup
  have hearlier : ∀ p ∈ earlier, p.token ≠ page.token := by
    intro p hp heq
    have hdisjoint := List.disjoint_of_nodup_append hnodup
    exact hdisjoint (List.mem_map_of_mem hp) (heq ▸ List.mem_map_of_mem List.mem_cons_self)
  rw [pagesFrom, ← hpages, List.dropWhile_append_of_pos (by simpa using hearlier)]
  simp

end Source

end Paging
