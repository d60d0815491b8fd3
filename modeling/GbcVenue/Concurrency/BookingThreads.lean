import GbcVenue.Concurrency.BookingContract

/-!
# Proof rules for the threads of booking requests

One rule for each kind of action of a request. A request is `Pending` until the action at which it
takes effect, where its entry goes into the timeline; from then on its reply is `Recorded`. A
refusal takes effect at the read that decides it, and a success at its write.
-/

namespace GbcVenue

open Interleaving BookingService

/-- Thread `i` has not taken effect. -/
def Pending (i : Nat) (g : Timeline) : Prop := g.entries i = []

/-- Thread `i` took effect once, with the reply `r`. -/
def Recorded (i : Nat) (r : Reply) (g : Timeline) : Prop := g.entries i = [(i, r)]

/-- Thread `i` is inside the critical section of table `t`, whose mutex is `n`. -/
def Held (i : Nat) (t : Int) (n : Nat) (w : World) : Prop :=
  w.tblMu t = some n ∧ w.held (.table n) = some i

theorem Held.locked {i n : Nat} {t : Int} {w : World} (h : Held i t n w) : Locked i t w :=
  ⟨n, h.1, h.2⟩

theorem Pending.record {i : Nat} {g : Timeline} (h : Pending i g) (r : Reply) :
    Recorded i r (g ++ [(i, r)]) := Timeline.entries_append_self h r

/-- The assertion `R` holds, or holds once thread `i` takes effect here and now, without a write. -/
def Effect (faults : Option String → Prop) (reqs : List Request) (i : Nat) (w : World) (g : Timeline)
    (R : World → Timeline → Prop) : Prop :=
  R w g ∨ ∃ req reply, reqs[i]? = some req ∧ Pending i g ∧
    SpecStep faults req w.bookings reply w.bookings ∧ R w (g ++ [(i, reply)])

theorem Effect.timeline {faults : Option String → Prop} {reqs : List Request}
    {c₀ : BookingCollection} {i : Nat} {w w' : World} {g : Timeline} {R : World → Timeline → Prop}
    (h : Effect faults reqs i w' g R) (hinv : BookingInv faults reqs c₀ w g)
    (hb : w'.bookings = w.bookings) (hm : MutexesDistinct w') :
    ∃ g', BookingInv faults reqs c₀ w' g' ∧ (g' = g ∨ ∃ r, g' = g ++ [(i, r)]) ∧ R w' g' := by
  have hrun : SpecRun faults reqs c₀ g w'.bookings := hb ▸ hinv.run
  rcases h with hR | ⟨req, reply, hreq, hpending, hspec, hR⟩
  · exact ⟨g, ⟨hrun, hm⟩, .inl rfl, hR⟩
  · exact ⟨_, ⟨.snoc hrun hpending hreq hspec, hm⟩, .inr ⟨reply, rfl⟩, hR⟩

section

variable {faults : Option String → Prop} {reqs : List Request} {c₀ : BookingCollection} {i : Nat}

theorem stable_entries {P : Timeline → Prop}
    (hP : ∀ g g' : Timeline, g'.entries i = g.entries i → P g → P g') :
    (bookingContract faults reqs c₀).Stable i fun _ g => P g :=
  fun _ _ g _ g' h _ hp => hP g g' h.entries hp

theorem stable_pending : (bookingContract faults reqs c₀).Stable i fun _ g => Pending i g :=
  stable_entries fun _ _ h hp => h.trans hp

theorem stable_recorded (r : Reply) :
    (bookingContract faults reqs c₀).Stable i fun _ g => Recorded i r g :=
  stable_entries fun _ _ h hp => h.trans hp

theorem stable_held (t : Int) (n : Nat) :
    (bookingContract faults reqs c₀).Stable i fun w _ => Held i t n w :=
  fun _ _ _ _ _ h _ hp => ⟨h.tblMu t n hp.1, (h.held _).1 hp.2⟩

theorem stable_and {P Q : World → Timeline → Prop} (hP : (bookingContract faults reqs c₀).Stable i P)
    (hQ : (bookingContract faults reqs c₀).Stable i Q) :
    (bookingContract faults reqs c₀).Stable i fun w g => P w g ∧ Q w g :=
  fun up w g w' g' h hi hp => ⟨hP up w g w' g' h hi hp.1, hQ up w g w' g' h hi hp.2⟩

/-- The rule for a quiet action, at which the request may take effect without a write. -/
theorem triple_quiet {α : Type} {P : World → Timeline → Prop} {Q : α → World → Timeline → Prop}
    {o : Op} {k : Res o → Go α} (R : Res o → World → Timeline → Prop) (ho : o.quiet)
    (hP : (bookingContract faults reqs c₀).Stable i P)
    (hstep : ∀ w g e r w', BookingInv faults reqs c₀ w g → P w g → faults e.fault →
      perform i e o w = some (r, w') → SameStore w w' → Effect faults reqs i w' g (R r))
    (hk : ∀ r, (bookingContract faults reqs c₀).Triple i (R r) (k r) Q) :
    (bookingContract faults reqs c₀).Triple i P (.act o k) Q := by
  refine .act R (fun w g w' g' hr hi hp => hP _ w g w' g' hr hi hp) (fun _ _ _ _ => trivial) ?_ hk
  rintro threads w g r w' hinv hp ⟨e, he, hperf⟩ -
  have hsame := perform_quiet ho hperf
  have hm : MutexesDistinct w' := hinv.mutexes.congr hsame.tblMu hsame.nextMutex
  obtain ⟨g', hinv', hg, hR⟩ :=
    (hstep w g e r w' hinv hp he hperf hsame).timeline hinv hsame.bookings hm
  have hguar : Guarantee i w g w' g' :=
    .of_bookings hsame.bookings (fun m => .inl (by rw [hsame.held]))
      (fun t n h => by rw [hsame.tblMu]; exact h) hg
  exact ⟨g', hinv', fun j hj => hguar.rely hj, hR⟩

/-- The rule for a program of quiet actions. -/
theorem triple_quiet_all {α : Type} {P : World → Timeline → Prop} {p : Go α}
    (hp : p.All fun o => o.quiet) (hP : (bookingContract faults reqs c₀).Stable i P)
    (hsame : ∀ w w' g, SameStore w w' → P w g → P w' g) :
    (bookingContract faults reqs c₀).Triple i P p fun _ => P := by
  induction p with
  | ret a => exact .ret hP fun _ _ _ h => h
  | act o k ih =>
    refine triple_quiet (fun _ => P) hp.1 hP ?_ fun r => ih r (hp.2 r)
    exact fun w g e r w' _ h _ _ hs => .inl (hsame w w' g hs h)

/-! ## Mutexes -/

/-- Taking a mutex; the request may take effect here, if its arguments alone decide the reply. -/
theorem triple_lock {α : Type} {m : MutexRef} {P : World → Timeline → Prop}
    {R : World → Timeline → Prop} {Q : α → World → Timeline → Prop} {k : Unit → Go α}
    (hP : (bookingContract faults reqs c₀).Stable i P)
    (hR : ∀ w w' g, P w g → w'.bookings = w.bookings → w'.tblMu = w.tblMu →
      w'.held m = some i → Effect faults reqs i w' g R)
    (hk : (bookingContract faults reqs c₀).Triple i R (k ()) Q) :
    (bookingContract faults reqs c₀).Triple i P (.act (Op.lock m) k) Q := by
  refine .act (fun _ => R) (fun w g w' g' hr hi hp => hP _ w g w' g' hr hi hp)
    (fun _ _ _ _ => trivial) ?_ fun _ => hk
  rintro threads w g r w' hinv hp ⟨e, -, hperf⟩ -
  simp only [perform] at hperf
  split at hperf
  · rename_i hfree
    cases hperf
    have heff := hR w { w with held := Function.update w.held m (some i) } g hp rfl rfl (by simp)
    obtain ⟨g', hinv', hg, hR'⟩ := heff.timeline hinv rfl (hinv.mutexes.congr rfl rfl)
    have hguar : Guarantee i w g { w with held := Function.update w.held m (some i) } g' := by
      refine .of_bookings rfl (fun m' => ?_) (fun _ _ h => h) hg
      by_cases h : m' = m
      · subst h
        exact .inr ⟨.inl hfree, .inr (by simp)⟩
      · exact .inl (by simp [h])
    exact ⟨g', hinv', fun j hj => hguar.rely hj, hR'⟩
  · cases hperf

/-- Giving back a mutex the thread holds. -/
theorem triple_unlock {α : Type} {m : MutexRef} {P : World → Timeline → Prop}
    {R : World → Timeline → Prop} {Q : α → World → Timeline → Prop} {k : Unit → Go α}
    (hP : (bookingContract faults reqs c₀).Stable i P) (hheld : ∀ w g, P w g → w.held m = some i)
    (hR : ∀ w w' g, P w g → w'.bookings = w.bookings → w'.tblMu = w.tblMu → R w' g)
    (hk : (bookingContract faults reqs c₀).Triple i R (k ()) Q) :
    (bookingContract faults reqs c₀).Triple i P (.act (Op.unlock m) k) Q := by
  refine .act (fun _ => R) (fun w g w' g' hr hi hp => hP _ w g w' g' hr hi hp)
    (fun _ _ _ _ => trivial) ?_ fun _ => hk
  rintro threads w g r w' hinv hp ⟨e, -, hperf⟩ -
  simp only [perform, hheld w g hp] at hperf
  cases hperf
  have hguar : Guarantee i w g { w with held := Function.update w.held m none } g := by
    refine .of_bookings rfl (fun m' => ?_) (fun _ _ h => h) (.inl rfl)
    by_cases h : m' = m
    · subst h
      exact .inr ⟨.inr (hheld w g hp), .inl (by simp)⟩
    · exact .inl (by simp [h])
  exact ⟨g, ⟨hinv.run, hinv.mutexes.congr rfl rfl⟩, fun j hj => hguar.rely hj, hR w _ g hp rfl rfl⟩

/-- Looking up or making the mutex of a table keeps the mutexes distinct. -/
theorem tableMutex_spec {w : World} (hw : MutexesDistinct w) (t : Int) :
    MutexesDistinct (w.tableMutex t).2 ∧
      (∀ t' n, w.tblMu t' = some n → (w.tableMutex t).2.tblMu t' = some n) ∧
      (w.tableMutex t).2.tblMu t = some (w.tableMutex t).1 ∧
      (w.tableMutex t).2.bookings = w.bookings ∧ (w.tableMutex t).2.held = w.held := by
  unfold World.tableMutex
  split
  · rename_i m hm
    exact ⟨hw, fun _ _ h => h, hm, rfl, rfl⟩
  · rename_i hnone
    refine ⟨⟨fun t₁ t₂ n h₁ h₂ => ?_, fun t₁ n h₁ => ?_⟩, fun t' n h => ?_, by simp, rfl, rfl⟩
    · simp only [Function.update_apply] at h₁ h₂
      split at h₁ <;> split at h₂
      · simp_all
      · have := hw.lt t₂ n h₂
        have : w.nextMutex = n := by simpa using h₁
        omega
      · have := hw.lt t₁ n h₁
        have : w.nextMutex = n := by simpa using h₂
        omega
      · exact hw.inj t₁ t₂ n h₁ h₂
    · simp only [Function.update_apply] at h₁
      split at h₁
      · have : w.nextMutex = n := by simpa using h₁
        simp only
        omega
      · have := hw.lt t₁ n h₁
        simp only
        omega
    · have hne : t' ≠ t := by
        rintro rfl
        rw [hnone] at h
        cases h
      simp [hne, h]

/-- `getTableMutex` keeps any assertion on the store and the timeline, and returns the mutex the
table keeps from then on. -/
theorem getTableMutex_triple {P : BookingCollection → Timeline → Prop} (t : Int)
    (hP : (bookingContract faults reqs c₀).Stable i fun w g => P w.bookings g) :
    (bookingContract faults reqs c₀).Triple i (fun w g => P w.bookings g) (getTableMutex t)
      fun m w g => P w.bookings g ∧ ∃ n, m = .table n ∧ w.tblMu t = some n := by
  have hheld : (bookingContract faults reqs c₀).Stable i
      fun w _ => w.held .service = some i := fun _ _ _ _ _ h _ hp => (h.held _).1 hp
  have htbl : ∀ n, (bookingContract faults reqs c₀).Stable i fun w _ => w.tblMu t = some n :=
    fun n _ _ _ _ _ h _ hp => h.tblMu t n hp
  refine triple_lock (R := fun w g => P w.bookings g ∧ w.held .service = some i) hP
    (fun w w' g hp hb _ hh => .inl ⟨hb ▸ hp, hh⟩) ?_
  refine .act (fun n w g => (P w.bookings g ∧ w.held .service = some i) ∧ w.tblMu t = some n)
    (fun w g w' g' hr hi hp => stable_and hP hheld _ w g w' g' hr hi hp)
    (fun _ _ _ _ => trivial) ?_ fun n => ?_
  · rintro threads w g r w' hinv ⟨hp, hh⟩ ⟨e, -, hperf⟩ -
    obtain ⟨rfl, rfl⟩ : r = (w.tableMutex t).1 ∧ w' = (w.tableMutex t).2 := by
      rw [Option.some.inj hperf]
      exact ⟨rfl, rfl⟩
    obtain ⟨hm, hmono, hself, hb, hheld'⟩ := tableMutex_spec hinv.mutexes t
    have hguar : Guarantee i w g (w.tableMutex t).2 g :=
      .of_bookings hb (fun m => .inl (by rw [hheld'])) hmono (.inl rfl)
    exact ⟨g, ⟨hb ▸ hinv.run, hm⟩, fun j hj => hguar.rely hj, ⟨hb ▸ hp, hheld' ▸ hh⟩, hself⟩
  · refine triple_unlock (R := fun w g => P w.bookings g ∧ w.tblMu t = some n)
      (stable_and (stable_and hP hheld) (htbl n)) (fun w g h => h.1.2)
      (fun w w' g h hb ht => ⟨hb ▸ h.1.1, ht ▸ h.2⟩) ?_
    exact .ret (stable_and hP (htbl n)) fun w g _ h => ⟨h.1, n, rfl, h.2⟩

/-- A critical section of a table. -/
theorem withLock_triple {t : Int} {n : Nat} {P B : BookingCollection → Timeline → Prop}
    {body : Go Reply} (hP : (bookingContract faults reqs c₀).Stable i fun w g => P w.bookings g)
    (hlock : ∀ w g, P w.bookings g → Held i t n w →
      Effect faults reqs i w g fun w g => Held i t n w ∧ B w.bookings g)
    (hbody : (bookingContract faults reqs c₀).Triple i
      (fun w g => Held i t n w ∧ B w.bookings g) body
      fun r w g => Held i t n w ∧ Recorded i r g) :
    (bookingContract faults reqs c₀).Triple i
      (fun w g => P w.bookings g ∧ w.tblMu t = some n) (withLock (.table n) body)
      fun r _ g => Recorded i r g := by
  have htbl : (bookingContract faults reqs c₀).Stable i fun w _ => w.tblMu t = some n :=
    fun _ _ _ _ _ h _ hp => h.tblMu t n hp
  refine triple_lock (R := fun w g => Held i t n w ∧ B w.bookings g) (stable_and hP htbl)
    (fun w w' g hp hb ht hh => hlock w' g (hb ▸ hp.1) ⟨ht ▸ hp.2, hh⟩) ?_
  refine hbody.bind fun r => ?_
  refine triple_unlock (R := fun _ g => Recorded i r g)
    (stable_and (stable_held t n) (stable_recorded r)) (fun w g h => h.1.2)
    (fun w w' g h _ _ => h.2) ?_
  exact .ret (stable_recorded r) fun w g _ h => h

/-! ## Reads and writes of the store -/

/-- What is known of the documents of a locked table stays true. -/
theorem stable_table {t : Int} {n : Nat} {P : BookingCollection → Prop}
    (hP : ∀ c c' : BookingCollection,
      (∀ d : BookingDoc, d.tableID = t → (d ∈ c.docs ↔ d ∈ c'.docs)) → P c → P c') :
    (bookingContract faults reqs c₀).Stable i fun w _ => Held i t n w ∧ P w.bookings :=
  fun up w g w' g' h hi hp => ⟨stable_held t n up w g w' g' h hi hp.1,
    hP _ _ (fun d hd => h.locked t hp.1.locked d hd) hp.2⟩

/-- A booking that was found keeps its table, whatever the others do to it. -/
def Found (id : String) (t : Int) (c : BookingCollection) : Prop :=
  ∃ d ∈ c.docs, objectIDFromHex id = some d.id ∧ d.tableID = t

theorem stable_found (id : String) (t : Int) :
    (bookingContract faults reqs c₀).Stable i fun w _ => Found id t w.bookings := by
  rintro up w g w' g' h hi ⟨d, hd, hid, rfl⟩
  obtain ⟨d', hd', hid', ht'⟩ := h.persist d hd
  exact ⟨d', hd', hid' ▸ hid, ht'⟩

theorem overlapping_congr {c c' : BookingCollection} {t checkIn checkOut : Int}
    {exclude : Option ObjectID}
    (h : ∀ d : BookingDoc, d.tableID = t → (d ∈ c.docs ↔ d ∈ c'.docs))
    (ho : c.overlapping t checkIn checkOut exclude = false) :
    c'.overlapping t checkIn checkOut exclude = false := by
  rw [BookingCollection.overlapping_eq_false] at ho ⊢
  exact fun d hd ht => ho d ((h d ht).2 hd) ht

theorem WindowFree.congr {c c' : BookingCollection} {t : Int} {exclude : String}
    {window : Option (Int × Int)}
    (h : ∀ d : BookingDoc, d.tableID = t → (d ∈ c.docs ↔ d ∈ c'.docs))
    (hw : WindowFree faults c t exclude window) : WindowFree faults c' t exclude window := by
  cases window with
  | none => trivial
  | some window =>
    obtain ⟨f, hf, ho⟩ := hw
    cases f with
    | some e => cases ho
    | none =>
      have hfree := overlapping_congr h (hasOverlap_eq_ok ho)
      exact ⟨none, hf, by simp [BookingCollection.hasOverlap, hfree]⟩

/-- Replacing a live document of a locked table, under the same id and for the same table. -/
theorem guarantee_replaceOne {w : World} {g : Timeline} {n : Nat} {d d' : BookingDoc}
    (hheld : Held i d.tableID n w) (hd : d ∈ w.bookings.docs) (hl : d.live) (hid : d'.id = d.id)
    (ht : d'.tableID = d.tableID) (r : Reply) :
    Guarantee i w g { w with bookings := w.bookings.replaceOne d' } (g ++ [(i, r)]) where
  held _ := .inl rfl
  tblMu _ _ h := h
  docs e := by
    by_cases htable : e.tableID = d.tableID
    · exact .inr (htable ▸ hheld.locked)
    · have hne : e ∈ w.bookings.docs → e.id ≠ d'.id := fun he heid =>
        htable (by rw [w.bookings.id_inj he hd (heid.trans hid)])
      refine .inl ⟨fun he => BookingCollection.mem_replaceOne.2 (.inr ⟨he, hne he⟩), fun he => ?_⟩
      rcases BookingCollection.mem_replaceOne.1 he with ⟨rfl, -⟩ | ⟨he, -⟩
      · exact absurd ht htable
      · exact he
  persist e he := by
    by_cases heid : e.id = d.id
    · refine ⟨d', BookingCollection.mem_replaceOne.2 (.inl ⟨rfl, d, hd, hid.symm⟩),
        hid.trans heid.symm, ?_⟩
      rw [w.bookings.id_inj he hd heid, ht]
    · exact ⟨e, BookingCollection.mem_replaceOne.2 (.inr ⟨he, hid ▸ heid⟩), rfl, rfl⟩
  frozen e he hc := by
    refine BookingCollection.mem_replaceOne.2 (.inr ⟨he, fun heid => ?_⟩)
    rw [w.bookings.id_inj he hd (heid.trans hid)] at hc
    rw [BookingDoc.live_iff, hc] at hl
    cases hl
  timeline := .inr ⟨r, rfl⟩

/-- Saving a booking of a locked table is where its request takes effect. -/
theorem triple_save {α : Type} {n : Nat} {d : BookingDoc} {b : Booking} {context : String}
    {req : Request} {B : BookingCollection → Prop} {k : Except GoError Unit → Go α}
    {Q : α → World → Timeline → Prop} (hreq : reqs[i]? = some req) (hid : b.id = d.id.hex)
    (ht : b.tableID = d.tableID) (hl : d.live)
    (hB : ∀ c c' : BookingCollection,
      (∀ e : BookingDoc, e.tableID = d.tableID → (e ∈ c.docs ↔ e ∈ c'.docs)) → B c → B c')
    (hok : ∀ c, d ∈ c.docs → B c → SpecStep faults req c (.ok b) (c.replaceOne (docOf d.id b)))
    (hfail : ∀ c e, d ∈ c.docs → B c → faults (some e) →
      SpecStep faults req c (.error (.wrap context (.text e))) c)
    (hk : ∀ r, (bookingContract faults reqs c₀).Triple i
      (fun w g => Held i d.tableID n w ∧ Recorded i (match r with
        | .ok () => .ok b
        | .error e => .error (.wrap context e)) g) (k r) Q) :
    (bookingContract faults reqs c₀).Triple i
      (fun w g => Pending i g ∧ Held i d.tableID n w ∧ d ∈ w.bookings.docs ∧ B w.bookings)
      (.act (Op.save b) k) Q := by
  have hstable : (bookingContract faults reqs c₀).Stable i fun w g =>
      Pending i g ∧ Held i d.tableID n w ∧ d ∈ w.bookings.docs ∧ B w.bookings :=
    stable_and stable_pending (stable_table (P := fun c => d ∈ c.docs ∧ B c)
      fun c c' h hc => ⟨(h d rfl).1 hc.1, hB c c' h hc.2⟩)
  refine .act _ (fun w g w' g' hr hi hp => hstable _ w g w' g' hr hi hp)
    (fun _ _ _ _ => trivial) ?_ hk
  rintro threads w g r w' hinv ⟨hp, hheld, hd, hBw⟩ ⟨e, he, hperf⟩ -
  simp only [perform] at hperf
  rcases w.bookings.save_cases e.fault hid with ⟨err, hf, hsave⟩ | ⟨-, hsave⟩
  · simp only [hsave, Option.some.injEq, Prod.mk.injEq] at hperf
    obtain ⟨rfl, rfl⟩ := hperf
    have hspec := hfail _ err hd hBw (hf ▸ he)
    have hguar : Guarantee i w g w (g ++ [(i, .error (.wrap context (.text err)))]) :=
      .of_bookings rfl (fun _ => .inl rfl) (fun _ _ h => h) (.inr ⟨_, rfl⟩)
    exact ⟨_, ⟨.snoc hinv.run hp hreq hspec, hinv.mutexes.congr rfl rfl⟩,
      fun j hj => hguar.rely hj, hheld, hp.record _⟩
  · simp only [hsave, Option.some.injEq, Prod.mk.injEq] at hperf
    obtain ⟨rfl, rfl⟩ := hperf
    have hdoc : (docOf d.id b).id = d.id := rfl
    have hguar := guarantee_replaceOne (g := g) hheld hd hl hdoc ht (.ok b)
    exact ⟨_, ⟨.snoc hinv.run hp hreq (hok _ hd hBw), hinv.mutexes.congr rfl rfl⟩,
      fun j hj => hguar.rely hj, hheld, hp.record _⟩

end

end GbcVenue
