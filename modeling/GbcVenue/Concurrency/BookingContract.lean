import GbcVenue.Service.Request

/-!
# The rely–guarantee contract of the booking requests

Any number of booking requests run as threads. The ghost state is a history: which request took
effect when, and what it answered. The invariant says that the store is what the requests of the
history, run one at a time by `SpecStep`, leave behind. A thread relies on the others for four
things: they respect the mutexes it holds, they leave the documents of its locked tables alone, no
document vanishes or changes table, and a cancelled document stays as it is.
-/

namespace GbcVenue

open Interleaving BookingService

/-- The requests that took effect, in order, with their replies. -/
abbrev Timeline := List (Nat × Reply)

/-- The entries of thread `i`. -/
def Timeline.entries (g : Timeline) (i : Nat) : Timeline := g.filter fun e => e.1 = i

theorem Timeline.entries_append_self {g : Timeline} {i : Nat} (h : g.entries i = []) (r : Reply) :
    (g ++ [(i, r)]).entries i = [(i, r)] := by
  simp only [entries] at h ⊢
  simp [h]

theorem Timeline.entries_append_ne (g : Timeline) {i j : Nat} (h : i ≠ j) (r : Reply) :
    (g ++ [(i, r)]).entries j = g.entries j := by
  simp [entries, h]

/-- The requests of the timeline, run one at a time, lead from one store to the other. -/
inductive SpecRun (faults : Option String → Prop) (reqs : List Request) (c₀ : BookingCollection) :
    Timeline → BookingCollection → Prop
  | nil : SpecRun faults reqs c₀ [] c₀
  | snoc {g : Timeline} {c c' : BookingCollection} {i : Nat} {req : Request} {r : Reply}
      (h : SpecRun faults reqs c₀ g c) (hnew : g.entries i = []) (hi : reqs[i]? = some req)
      (hr : SpecStep faults req c r c') : SpecRun faults reqs c₀ (g ++ [(i, r)]) c'

theorem SpecRun.preserves {faults : Option String → Prop} {reqs : List Request}
    {c₀ c : BookingCollection} {g : Timeline} {P : BookingCollection → Prop}
    (hstep : ∀ req c r c', SpecStep faults req c r c' → P c → P c')
    (h : SpecRun faults reqs c₀ g c) (h₀ : P c₀) : P c := by
  induction h with
  | nil => exact h₀
  | snoc _ _ _ hr ih => exact hstep _ _ _ _ hr ih

/-- Distinct tables have distinct mutexes, all of them already made. -/
structure MutexesDistinct (w : World) : Prop where
  inj : ∀ t t' n, w.tblMu t = some n → w.tblMu t' = some n → t = t'
  lt : ∀ t n, w.tblMu t = some n → n < w.nextMutex

theorem MutexesDistinct.congr {w w' : World} (h : MutexesDistinct w) (ht : w'.tblMu = w.tblMu)
    (hn : w'.nextMutex = w.nextMutex) : MutexesDistinct w' :=
  ⟨by rw [ht]; exact h.inj, by rw [ht, hn]; exact h.lt⟩

/-- Thread `i` holds the mutex of table `t`. -/
def Locked (i : Nat) (t : Int) (w : World) : Prop :=
  ∃ n, w.tblMu t = some n ∧ w.held (.table n) = some i

/-- What the threads other than `i` may do to the world and the timeline. -/
structure StoreRely (i : Nat) (w : World) (g : Timeline) (w' : World) (g' : Timeline) : Prop where
  held : ∀ m, w.held m = some i ↔ w'.held m = some i
  tblMu : ∀ t n, w.tblMu t = some n → w'.tblMu t = some n
  locked : ∀ t, Locked i t w → ∀ d : BookingDoc, d.tableID = t →
    (d ∈ w.bookings.docs ↔ d ∈ w'.bookings.docs)
  persist : ∀ d ∈ w.bookings.docs, ∃ d' ∈ w'.bookings.docs, d'.id = d.id ∧ d'.tableID = d.tableID
  frozen : ∀ d ∈ w.bookings.docs, d.status = .cancelled → d ∈ w'.bookings.docs
  entries : g'.entries i = g.entries i

theorem StoreRely.refl (i : Nat) (w : World) (g : Timeline) : StoreRely i w g w g :=
  ⟨fun _ => Iff.rfl, fun _ _ h => h, fun _ _ _ _ => Iff.rfl, fun d hd => ⟨d, hd, rfl, rfl⟩,
    fun _ hd _ => hd, rfl⟩

theorem StoreRely.keeps_locked {i : Nat} {w w' : World} {g g' : Timeline}
    (h : StoreRely i w g w' g') {t : Int} : Locked i t w → Locked i t w'
  | ⟨n, hn, hheld⟩ => ⟨n, h.tblMu t n hn, (h.held _).1 hheld⟩

theorem StoreRely.trans {i : Nat} {w w' w'' : World} {g g' g'' : Timeline}
    (h : StoreRely i w g w' g') (h' : StoreRely i w' g' w'' g'') : StoreRely i w g w'' g'' where
  held m := (h.held m).trans (h'.held m)
  tblMu t n hn := h'.tblMu t n (h.tblMu t n hn)
  locked t hl d hd := (h.locked t hl d hd).trans (h'.locked t (h.keeps_locked hl) d hd)
  persist d hd := by
    obtain ⟨d', hd', hid, ht⟩ := h.persist d hd
    obtain ⟨d'', hd'', hid', ht'⟩ := h'.persist d' hd'
    exact ⟨d'', hd'', hid'.trans hid, ht'.trans ht⟩
  frozen d hd hc := h'.frozen d (h.frozen d hd hc) hc
  entries := h'.entries.trans h.entries

/-- What thread `i` does in one action: it takes and gives back mutexes of its own, writes only
documents of tables it has locked, and adds at most an entry of its own to the timeline. -/
structure Guarantee (i : Nat) (w : World) (g : Timeline) (w' : World) (g' : Timeline) : Prop where
  held : ∀ m, w'.held m = w.held m ∨
    ((w.held m = none ∨ w.held m = some i) ∧ (w'.held m = none ∨ w'.held m = some i))
  tblMu : ∀ t n, w.tblMu t = some n → w'.tblMu t = some n
  docs : ∀ d : BookingDoc, (d ∈ w.bookings.docs ↔ d ∈ w'.bookings.docs) ∨ Locked i d.tableID w
  persist : ∀ d ∈ w.bookings.docs, ∃ d' ∈ w'.bookings.docs, d'.id = d.id ∧ d'.tableID = d.tableID
  frozen : ∀ d ∈ w.bookings.docs, d.status = .cancelled → d ∈ w'.bookings.docs
  timeline : g' = g ∨ ∃ r, g' = g ++ [(i, r)]

/-- The guarantee of one thread is within the rely of every other. -/
theorem Guarantee.rely {i j : Nat} {w w' : World} {g g' : Timeline} (h : Guarantee i w g w' g')
    (hij : j ≠ i) : StoreRely j w g w' g' where
  held m := by
    rcases h.held m with heq | ⟨h₁, h₂⟩
    · rw [heq]
    · have hne : ∀ o : Option Nat, o = none ∨ o = some i → o ≠ some j := by
        rintro _ (rfl | rfl) <;> simp [hij.symm]
      simp [hne _ h₁, hne _ h₂]
  tblMu := h.tblMu
  locked t := by
    rintro ⟨n, hn, hheld⟩ d rfl
    refine (h.docs d).resolve_right ?_
    rintro ⟨n', hn', hheld'⟩
    rw [hn] at hn'
    cases hn'
    rw [hheld] at hheld'
    exact hij (Option.some.inj hheld')
  persist := h.persist
  frozen := h.frozen
  entries := by
    rcases h.timeline with rfl | ⟨r, rfl⟩
    · rfl
    · exact Timeline.entries_append_ne g hij.symm r

/-- An action that leaves the store alone, and takes and gives back no mutex but its own. -/
theorem Guarantee.of_bookings {i : Nat} {w w' : World} {g g' : Timeline}
    (hb : w'.bookings = w.bookings)
    (hheld : ∀ m, w'.held m = w.held m ∨
      ((w.held m = none ∨ w.held m = some i) ∧ (w'.held m = none ∨ w'.held m = some i)))
    (htbl : ∀ t n, w.tblMu t = some n → w'.tblMu t = some n)
    (hg : g' = g ∨ ∃ r, g' = g ++ [(i, r)]) : Guarantee i w g w' g' where
  held := hheld
  tblMu := htbl
  docs d := .inl (by rw [hb])
  persist d hd := ⟨d, hb ▸ hd, rfl, rfl⟩
  frozen d hd _ := hb ▸ hd
  timeline := hg

section

variable (faults : Option String → Prop) (reqs : List Request) (c₀ : BookingCollection)

/-- The invariant: the timeline explains the store, and the mutexes of the tables are distinct. -/
structure BookingInv (w : World) (g : Timeline) : Prop where
  run : SpecRun faults reqs c₀ g w.bookings
  mutexes : MutexesDistinct w

/-- The environments in which a database call fails only as `faults` says. -/
def faulty (e : Env) : Prop := faults e.fault

/-- Any database call may fail. -/
def anyFault (_ : Option String) : Prop := True

/-- No database call fails. -/
def noFault (f : Option String) : Prop := f = none

/-- The contract of the booking requests. -/
def bookingContract : Contract Res Nat World Timeline (Option Reply) where
  sem := sem (faulty faults)
  ok := anyStep
  skip _ := False
  inv := BookingInv faults reqs c₀
  check _ _ _ _ := True
  rely i _ := StoreRely i
  rely_refl i _ w g := StoreRely.refl i w g
  rely_trans _ _ _ _ _ _ _ _ h h' := h.trans h'
  rely_mono _ _ _ _ _ _ _ _ h := h

end

end GbcVenue
