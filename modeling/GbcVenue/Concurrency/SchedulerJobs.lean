import GbcVenue.Concurrency.SchedulerThreads

/-!
# The jobs of the scheduler and the booking requests beside it

A triple for each function of the scheduler, from the arming of a timer up to the callbacks and the
reconcile pass, and for a creation and a cancellation.
-/

namespace GbcVenue.Scheduler

open Interleaving BookingService

section

variable {jobs : List Job} {i : Nat} {A : BookingCollection → Prop}

/-! ## Timers -/

/-- `time.AfterFunc` for a booking of the table. -/
theorem afterFunc_triple {α : Type} {delay : Int} {key : TimerKey} {id : String} {k : Nat → Go α}
    {Q : α → TracedWorld → Removing → Prop} (hA : Lasting A)
    (hstored : ∀ c, A c → Stored id key.tableID c)
    (hk : ∀ r, (schedulerContract jobs).Triple i (Clear i A) (k r) Q) :
    (schedulerContract jobs).Triple i (Clear i A) (.act (Op.afterFunc delay key id) k) Q := by
  refine .act (fun _ => Clear i A) ?_ (fun _ _ _ _ => trivial) ?_ hk
  · intro s g s' g' hr _ h
    exact h.rely hA hr
  · intro threads s g r s' hinv h hsem _
    have htraced : traced (sem fun _ => True) i _ s r s' := hsem
    obtain ⟨⟨e, -, hperf⟩, -⟩ := hsem
    have hw : s'.state = s.state.afterFunc e.now delay key id := by
      simp only [perform, Option.some.injEq, Prod.mk.injEq] at hperf
      exact hperf.2.symm
    have hb : s'.state.bookings = s.state.bookings := by rw [hw]; rfl
    have ht : s'.state.tables = s.state.tables := by rw [hw]; rfl
    refine ⟨g, ⟨?_, ?_⟩, fun j hj => rely_of_same (traced_other htraced hj) hb ht rfl, h.1,
      by rw [hb]; exact h.2⟩
    · intro a ha
      rw [hb]
      rw [hw] at ha
      simp only [World.afterFunc, List.mem_append, List.mem_singleton] at ha
      rcases ha with ha | rfl
      · exact hinv.timers a ha
      · exact hstored _ h.2
    · intro t cb hcb
      rw [ht] at hcb
      rw [hb]
      exact hinv.shown t cb hcb

theorem setTimer_triple {key : TimerKey} {id : String} {instant : Int} (hA : Lasting A)
    (hstored : ∀ c, A c → Stored id key.tableID c) :
    (schedulerContract jobs).Triple i (Clear i A) (setTimer key id instant) fun _ => Clear i A := by
  simp only [setTimer, clearTimer, timeNow, Prog.call_bind]
  refine clear_triple rfl hA fun now => clear_triple rfl hA fun _ => ?_
  exact afterFunc_triple hA hstored fun timer => clear_all ((Prog.all_call _ _).2 rfl) hA

theorem findNextUpcoming_stored {c : BookingCollection} {fault : Option String} {t after : Int}
    {b : Booking} (h : c.findNextUpcoming fault t after = .ok (some b)) : Stored b.id t c := by
  unfold BookingCollection.findNextUpcoming at h
  split at h
  · cases h
  · simp only [Except.ok.injEq, Option.map_eq_some_iff] at h
    obtain ⟨d, hd, rfl⟩ := h
    have hmem := List.argmin_mem hd
    simp only [List.mem_filter, decide_eq_true_eq] at hmem
    exact ⟨d, hmem.1, rfl, hmem.2.1⟩

theorem findCurrentForTable_live {c : BookingCollection} {fault : Option String} {t now : Int}
    {b : Booking} (h : c.findCurrentForTable fault t now = .ok (some b)) : StoredLive b.id t c := by
  unfold BookingCollection.findCurrentForTable at h
  split at h
  · cases h
  · simp only [Except.ok.injEq, Option.map_eq_some_iff] at h
    obtain ⟨d, hd, rfl⟩ := h
    have hmem := List.mem_of_find?_eq_some hd
    have hfilter := List.find?_some hd
    simp only [decide_eq_true_eq, BookingDoc.activeAt_iff] at hfilter
    exact ⟨d, hmem, rfl, hfilter.1, hfilter.2.1⟩

/-- The booking in a repository's answer is stored on table `t`. -/
def AnswerStored (t : Int) (r : Except GoError (Option Booking)) (c : BookingCollection) : Prop :=
  ∀ b, r = .ok (some b) → Stored b.id t c

theorem lasting_answer (hA : Lasting A) (t : Int) (r : Except GoError (Option Booking)) :
    Lasting fun c => A c ∧ AnswerStored t r c :=
  fun _ _ hp h => ⟨hA _ _ hp h.1, fun b hb => (h.2 b hb).persists hp⟩

theorem scheduleNext_triple {t now : Int} (hA : Lasting A) :
    (schedulerContract jobs).Triple i (Clear i A) (scheduleNext t now) fun _ => Clear i A := by
  simp only [scheduleNext, BookingRepository.findNextUpcoming, Prog.call_bind]
  refine read_triple rfl hA
    (B := fun r c => A c ∧ AnswerStored t r c) ?_ fun r => ?_
  · intro e w r w' hp hAw
    refine ⟨hAw, ?_⟩
    rintro b rfl
    exact findNextUpcoming_stored (Prod.mk.inj (Option.some.inj hp)).1
  · have hB := lasting_answer hA t r
    split
    · rename_i next
      exact (setTimer_triple hB fun c h => h.2 next rfl).conseq (fun _ _ _ h => h)
        fun _ _ _ _ h => ⟨h.1, h.2.1⟩
    · exact clear_ret hB fun _ h => h.1

theorem rescheduleTable_triple {t : Int} (hA : Lasting A) :
    (schedulerContract jobs).Triple i (Clear i A) (rescheduleTable t) fun _ => Clear i A := by
  simp only [rescheduleTable, clearTableTimers, clearTimer, timeNow,
    BookingRepository.findCurrentForTable, Prog.call_bind]
  refine clear_triple rfl hA fun _ => clear_triple rfl hA fun _ => clear_triple rfl hA fun now => ?_
  refine read_triple rfl hA
    (B := fun r c => A c ∧ AnswerStored t r c) ?_ fun r => ?_
  · intro e w r w' hp hAw
    refine ⟨hAw, ?_⟩
    rintro b rfl
    exact (findCurrentForTable_live (Prod.mk.inj (Option.some.inj hp)).1).stored
  · have hB := lasting_answer hA t r
    split
    · exact clear_ret hB fun _ h => h.1
    · rename_i active
      exact (setTimer_triple hB fun c h => h.2 active rfl).conseq (fun _ _ _ h => h)
        fun _ _ _ _ h => ⟨h.1, h.2.1⟩
    · exact (scheduleNext_triple hB).conseq (fun _ _ _ h => h) fun _ _ _ _ h => ⟨h.1, h.2.1⟩

/-! ## Callbacks -/

/-- A booking that covers some instant is stored live on table `t`. -/
def LiveIfCovering (b : Booking) (t : Int) (c : BookingCollection) : Prop :=
  (∃ now, covers b now) → StoredLive b.id t c

/-- The pattern of both activations of one booking: the clock is read, and a booking that covers the
instant is activated on its table. -/
theorem activateCovering_triple {α : Type} {t : Int} {b : Booking} {f : Int → Unit → Go α}
    {q : Int → Go α} {Q : α → TracedWorld → Removing → Prop} (hA : Lasting A)
    (hf : ∀ now r, (schedulerContract jobs).Triple i (Clear i A) (f now r) Q)
    (hq : ∀ now, (schedulerContract jobs).Triple i (Clear i A) (q now) Q) :
    (schedulerContract jobs).Triple i
      (fun s g => Clear i A s g ∧ LiveIfCovering b t s.state.bookings)
      (timeNow >>= fun now =>
        if covers b now then TableService.activateTable t (currentBookingOf b) >>= f now
        else q now) Q := by
  simp only [timeNow, Prog.call_bind]
  refine calm_triple (R := fun now s g => Clear i A s g ∧
    (covers b now → StoredLive b.id t s.state.bookings)) rfl ?_ ?_ fun now => ?_
  · intro s g s' g' hr h
    refine ⟨h.1.rely hA hr, ?_⟩
    rintro ⟨now, hnow⟩
    refine hr.live t (currentBookingOf b) ?_ (h.2 ⟨now, hnow⟩)
    refine .later now trivial ?_
    rw [if_pos hnow]
    exact .here _ _
  · intro s g now s' e h _ _ _ hb _
    exact ⟨⟨h.1.1, by rw [hb]; exact h.1.2⟩, fun hnow => by rw [hb]; exact h.2 ⟨now, hnow⟩⟩
  · split
    · rename_i hnow
      have hactivate := @activateTable_triple jobs i t (currentBookingOf b) _ hA
      exact (hactivate.bind fun r => hf now r).conseq (fun _ _ _ h => ⟨h.1, h.2 hnow⟩)
        fun _ _ _ _ h => h
    · exact (hq now).conseq (fun _ _ _ h => h.1) fun _ _ _ _ h => h

/-- The booking that `FindByID` answers for an id of table `t`. -/
def AnswerOf (id : String) (t : Int) (r : Except GoError (Option Booking))
    (c : BookingCollection) : Prop :=
  ∀ b, r = .ok (some b) → b.id = id ∧ (b.status ≠ .cancelled → StoredLive b.id t c)

/-- The booking in a repository's answer is stored live on table `t`. -/
def AnswerLive (t : Int) (r : Except GoError (Option Booking)) (c : BookingCollection) : Prop :=
  ∀ b, r = .ok (some b) → StoredLive b.id t c

theorem findByID_answerOf {c : BookingCollection} {fault : Option String} {id : String} {t : Int}
    (h : Stored id t c) : AnswerOf id t (c.findByID fault id) c := by
  intro b hb
  obtain ⟨d, hd, hid, rfl⟩ := BookingCollection.findByID_eq_some hb
  obtain ⟨d₀, hd₀, rfl, ht⟩ := h
  rw [ObjectID.objectIDFromHex_hex, Option.some.injEq] at hid
  have hdd : d₀ = d := c.id_inj hd₀ hd hid
  subst hdd
  exact ⟨rfl, fun hstatus => ⟨d₀, hd₀, rfl, ht, by simpa [BookingDoc.live] using hstatus⟩⟩

theorem handleStartFired_triple {t : Int} {id : String} :
    (schedulerContract jobs).Triple i (Clear i (Stored id t)) (handleStartFired t id)
      fun _ => Clear i (Stored id t) := by
  have hA := lasting_stored id t
  simp only [handleStartFired, BookingRepository.findByID, Prog.call_bind]
  refine clear_triple rfl hA fun _ => ?_
  refine calm_triple (R := fun r s g => Clear i (Stored id t) s g ∧
    AnswerOf id t r s.state.bookings) rfl ?_ ?_ fun r => ?_
  · intro s g s' g' hr h
    exact h.rely hA hr
  · intro s g r s' e h _ hperf _ hb _
    rw [Clear, hb]
    refine ⟨h, ?_⟩
    rw [← (Prod.mk.inj (Option.some.inj hperf)).1]
    exact findByID_answerOf h.2
  · have hreschedule : (schedulerContract jobs).Triple i (Clear i (Stored id t))
        (rescheduleTable t) fun _ => Clear i (Stored id t) := rescheduleTable_triple hA
    split
    · exact (clear_ret hA fun _ h => h).conseq (fun _ _ _ h => h.1) fun _ _ _ _ h => h
    · exact hreschedule.conseq (fun _ _ _ h => h.1) fun _ _ _ _ h => h
    · rename_i b
      by_cases hstatus : b.status = .cancelled
      · rw [if_pos hstatus]
        exact hreschedule.conseq (fun _ _ _ h => h.1) fun _ _ _ _ h => h
      · rw [if_neg hstatus]
        intro s g hinv h
        obtain ⟨hid, hlive⟩ := h.2 b rfl
        refine activateCovering_triple (A := Stored id t) hA (fun now r => ?_)
          (fun now => hreschedule) s g hinv ⟨h.1, fun _ => hlive hstatus⟩
        rw [hid]
        exact setTimer_triple hA fun _ hc => hc

/-- What `GetTable` answered is what the table shows. -/
theorem shownID_getTable {ts : Tables} {t : Int} {cb : CurrentBooking} (h : ts.ShowsBusy t cb) :
    shownID (ts.getTable t) = some cb.bookingID := by
  simp [shownID, Tables.getTable, h.2]

/-! ## Deactivations -/

variable {x : (o : Op) × Res o}

/-- The rule for a calm action of a thread that began with `x`. -/
theorem began_triple {α : Type} {o : Op} {k : Res o → Go α} {Q : α → TracedWorld → Removing → Prop}
    (ho : o.calm) (hA : Lasting A)
    (hk : ∀ r, (schedulerContract jobs).Triple i (fun s g => Clear i A s g ∧ s.first i = some x)
      (k r) Q) :
    (schedulerContract jobs).Triple i (fun s g => Clear i A s g ∧ s.first i = some x) (.act o k) Q := by
  refine calm_triple (R := fun _ s g => Clear i A s g ∧ s.first i = some x) ho ?_ ?_ hk
  · intro s g s' g' hr h
    exact ⟨h.1.rely hA hr, hr.first.trans h.2⟩
  · intro s g r s' e h _ _ hsem hb _
    exact ⟨⟨h.1.1, by rw [hb]; exact h.1.2⟩, traced_first hsem h.2⟩

/-- A thread that began with `x` has begun with it when a program of it returns. -/
theorem began_frame {α : Type} {p : Go α} {P : TracedWorld → Removing → Prop}
    {Q : α → TracedWorld → Removing → Prop} (h : (schedulerContract jobs).Triple i P p Q) :
    (schedulerContract jobs).Triple i (fun s g => P s g ∧ s.first i = some x) p
      fun a s g => Q a s g ∧ s.first i = some x := by
  refine Contract.Triple.frame ?_ (fun _ _ _ _ => traced_first) h
  intro up s g s' g' hr hx
  exact (SchedulerRely.first hr).trans hx

/-- Thread `i`, which began with `x`, has just read table `t`. -/
structure Seen (i : Nat) (x : (o : Op) × Res o) (t : Int) (r : TableState × Bool) (s : TracedWorld) :
    Prop where
  first : s.first i = some x
  last : s.last i = some ⟨.getTable t, r⟩
  shown : ∀ cb, s.state.tables.ShowsBusy t cb → shownID r = some cb.bookingID

theorem getTable_triple {α : Type} {t : Int} {k : TableState × Bool → Go α}
    {Q : α → TracedWorld → Removing → Prop} (hA : Lasting A)
    (hk : ∀ r, (schedulerContract jobs).Triple i (fun s g => Clear i A s g ∧ Seen i x t r s) (k r)
      Q) :
    (schedulerContract jobs).Triple i (fun s g => Clear i A s g ∧ s.first i = some x)
      (.act (Op.getTable t) k) Q := by
  refine calm_triple (R := fun r s g => Clear i A s g ∧ Seen i x t r s) rfl ?_ ?_ hk
  · intro s g s' g' hr h
    exact ⟨h.1.rely hA hr, hr.first.trans h.2⟩
  · intro s g r s' e h _ hperf hsem hb ht
    refine ⟨⟨h.1.1, by rw [hb]; exact h.1.2⟩, traced_first hsem h.2, traced_last hsem, ?_⟩
    intro cb hcb
    rw [ht] at hcb
    have hr : r = s.state.tables.getTable t := (Prod.mk.inj (Option.some.inj hperf)).1.symm
    rw [hr]
    exact shownID_getTable hcb

/-- `DeactivateTable` by a scheduler thread because a booking has ended. -/
theorem deactivateEnded_triple {t : Int} {job : Job} (hjob : jobs[i]? = some job)
    (hi : job.isScheduler) (hA : Lasting A) :
    (schedulerContract jobs).Triple i (fun s g => Clear i A s g ∧ Removable job i t s)
      (TableService.deactivateTable t) fun _ => Clear i A := by
  refine deactivateTable_triple hA ?_ ?_ ?_
  · intro s g s' g' hr h
    exact ⟨h.1.rely hA hr, hr.removable rfl ⟨job, hjob, hi⟩ h.2⟩
  · intro s g h job' hjob' _
    obtain rfl := Option.some.inj (hjob.symm.trans hjob')
    exact h.2
  · intro s g h
    refine ⟨h.1.2, ?_⟩
    intro oid hoid
    rw [h.1.1] at hoid
    cases hoid

/-- A fired end timer finds its booking on the table. -/
theorem Seen.removable_timer {a : ArmedTimer} {t : Int} {r : TableState × Bool} {s : TracedWorld}
    (h : Seen i ⟨.fire, a⟩ t r s) (hkey : a.key = endKey t)
    (hshows : showsBooking r a.bookingID = true) : Removable .timer i t s := by
  refine ⟨a.bookingID, ⟨a, h.first, hkey, rfl⟩, fun cb hcb => ?_⟩
  simp only [showsBooking, decide_eq_true_eq] at hshows
  exact Option.some.inj ((h.shown cb hcb).symm.trans hshows.2.2)

/-- A reconcile pass finds a booking on the table that is past its check-out. -/
theorem Seen.removable_reconcile {now t : Int} {r : TableState × Bool} {cb : CurrentBooking}
    {s : TracedWorld} (h : Seen i ⟨.now, now⟩ t r s) (hcb : r.1.currentBooking = some cb)
    (hexpired : expired cb now = true) : Removable .reconcile i t s := by
  refine ⟨cb.bookingID, ⟨now, r, cb, h.first, h.last, hcb, hexpired, rfl⟩, fun cb' hcb' => ?_⟩
  have hshown := h.shown cb' hcb'
  rw [shownID, hcb, Option.map_some] at hshown
  exact (Option.some.inj hshown).symm

theorem handleEndFired_triple {a : ArmedTimer} {t : Int} (hjob : jobs[i]? = some .timer)
    (hkey : a.key = endKey t) (hA : Lasting A) :
    (schedulerContract jobs).Triple i (fun s g => Clear i A s g ∧ s.first i = some ⟨.fire, a⟩)
      (handleEndFired t a.bookingID) fun _ => Clear i A := by
  simp only [handleEndFired, TableService.getTable, TableCache.getTable, Prog.call_bind]
  refine began_triple rfl hA fun _ => getTable_triple hA fun table => ?_
  have hrest : ∀ r, (schedulerContract jobs).Triple i (Clear i A)
      ((fun _ : Unit => timeNow >>= fun now => scheduleNext t now) r) fun _ => Clear i A :=
    fun _ => clear_triple rfl hA fun now => scheduleNext_triple hA
  cases hshows : showsBooking table a.bookingID with
  | true =>
    rw [Prog.when_true]
    exact ((deactivateEnded_triple hjob rfl hA).bind hrest).conseq
      (fun _ _ _ h => ⟨h.1, h.2.removable_timer hkey hshows⟩) fun _ _ _ _ h => h
  | false =>
    rw [Prog.when_false]
    exact (hrest ()).conseq (fun _ _ _ h => h.1) fun _ _ _ _ h => h

theorem reconcileTable_triple {t now : Int} (hjob : jobs[i]? = some .reconcile) (hA : Lasting A) :
    (schedulerContract jobs).Triple i (fun s g => Clear i A s g ∧ s.first i = some ⟨.now, now⟩)
      (reconcileTable now t) fun _ s g => Clear i A s g ∧ s.first i = some ⟨.now, now⟩ := by
  suffices h : (schedulerContract jobs).Triple i
      (fun s g => Clear i A s g ∧ s.first i = some ⟨.now, now⟩) (reconcileTable now t)
      fun _ => Clear i A from (began_frame h).conseq (fun _ _ _ h => ⟨h, h.2⟩) fun _ _ _ _ h => h
  have hret : ∀ r, (schedulerContract jobs).Triple i
      (fun s g => Clear i A s g ∧ Seen i ⟨.now, now⟩ t r s) (Prog.ret ()) fun _ => Clear i A :=
    fun r => (clear_ret hA fun _ h => h).conseq (fun _ _ _ h => h.1) fun _ _ _ _ h => h
  simp only [reconcileTable, TableService.getTable, TableCache.getTable, Prog.call_bind]
  refine getTable_triple hA fun table => ?_
  obtain ⟨table, ok⟩ := table
  cases ok with
  | false => exact hret _
  | true =>
    simp only [Bool.not_true, Bool.false_eq_true, if_false]
    split
    · rename_i cb _ hcb
      cases hexpired : expired cb now with
      | true =>
        exact ((deactivateEnded_triple hjob rfl hA).bind fun _ => rescheduleTable_triple hA).conseq
          (fun _ _ _ h => ⟨h.1, h.2.removable_reconcile hcb hexpired⟩) fun _ _ _ _ h => h
      | false => exact hret _
    · simp only [BookingRepository.findCurrentForTable, Prog.call_bind]
      suffices h : (schedulerContract jobs).Triple i (Clear i A) _ fun _ => Clear i A from
        h.conseq (fun _ _ _ h => h.1) fun _ _ _ _ h => h
      refine calm_triple (R := fun r s g => Clear i A s g ∧ AnswerLive t r s.state.bookings) rfl
        ?_ ?_ fun r => ?_
      · intro s g s' g' hr h
        exact h.rely hA hr
      · intro s g r s' e h _ hperf _ hb _
        rw [Clear, hb]
        refine ⟨h, ?_⟩
        rw [← (Prod.mk.inj (Option.some.inj hperf)).1]
        exact fun b => findCurrentForTable_live
      · split
        · rename_i active
          exact (activateTable_triple hA).bind (fun _ => rescheduleTable_triple hA) |>.conseq
            (fun _ _ _ h => ⟨h.1, h.2 active rfl⟩) fun _ _ _ _ h => h
        · exact (clear_ret hA fun _ h => h).conseq (fun _ _ _ h => h.1) fun _ _ _ _ h => h
    · exact hret _

/-- A thread that has done nothing yet. -/
def Unbegun (i : Nat) (s : TracedWorld) (g : Removing) : Prop :=
  Clear i (fun _ => True) s g ∧ s.past i = []

theorem Unbegun.rely {up : Op → Prop} {s s' : TracedWorld} {g g' : Removing}
    (hr : SchedulerRely jobs i up s g s' g') (h : Unbegun i s g) : Unbegun i s' g' :=
  ⟨h.1.rely lasting_true hr, hr.past.trans h.2⟩

theorem reconcile_triple (hjob : jobs[i]? = some .reconcile) :
    (schedulerContract jobs).Triple i (Unbegun i) reconcile fun _ => Clear i fun _ => True := by
  have htable : ∀ now t, (schedulerContract jobs).Triple i
      (fun s g => Clear i (fun _ => True) s g ∧ s.first i = some ⟨.now, now⟩) (reconcileTable now t)
      fun _ s g => Clear i (fun _ => True) s g ∧ s.first i = some ⟨.now, now⟩ :=
    fun now t => reconcileTable_triple hjob lasting_true
  simp only [reconcile, timeNow, Prog.call_bind]
  refine calm_triple (R := fun now s g => Clear i (fun _ => True) s g ∧
    s.first i = some ⟨.now, now⟩) rfl ?_ ?_ fun now => ?_
  · intro s g s' g' hr h
    exact h.rely hr
  · intro s g now s' e h _ _ hsem _ _
    exact ⟨⟨h.1.1, trivial⟩, traced_first_of_none hsem h.2⟩
  · refine (htable now 1).bind fun _ => (htable now 2).bind fun _ => (htable now 3).bind fun _ => ?_
    exact (htable now 4).conseq (fun _ _ _ h => h) fun _ _ _ _ h => h.1

theorem callback_triple (hjob : jobs[i]? = some .timer) (a : ArmedTimer) :
    (schedulerContract jobs).Triple i
      (fun s g => Clear i (Stored a.bookingID a.key.tableID) s g ∧ s.first i = some ⟨.fire, a⟩)
      (callback a) fun _ => Clear i (Stored a.bookingID a.key.tableID) := by
  unfold callback
  cases hkind : a.key.kind with
  | onStart => exact handleStartFired_triple.conseq (fun _ _ _ h => h.1) fun _ _ _ _ h => h
  | onEnd =>
    have hkey : a.key = endKey a.key.tableID := by
      rw [endKey, ← hkind]
    exact handleEndFired_triple hjob hkey (lasting_stored _ _)

/-- A timer that fires is an armed one, so its booking is stored on its table. -/
theorem timerFires_triple (hjob : jobs[i]? = some .timer) :
    (schedulerContract jobs).Triple i (Unbegun i) timerFires fun _ => Clear i fun _ => True := by
  simp only [timerFires, Prog.call_bind]
  refine calm_triple (o := .fire) (R := fun (a : ArmedTimer) s g =>
    Clear i (Stored a.bookingID a.key.tableID) s g ∧ s.first i = some ⟨.fire, a⟩) rfl ?_ ?_
    fun a => ?_
  · intro s g s' g' hr h
    exact h.rely hr
  · intro s g a s' e h hinv hperf hsem hb _
    refine ⟨⟨h.1.1, ?_⟩, traced_first_of_none hsem h.2⟩
    rw [hb]
    simp only [perform] at hperf
    split at hperf
    · rename_i a' hfind
      rw [← (Prod.mk.inj (Option.some.inj hperf)).1]
      exact hinv.timers a' (List.mem_of_find?_eq_some hfind)
    · cases hperf
  · exact (callback_triple hjob a).conseq (fun _ _ _ h => h) fun _ _ _ _ h => ⟨h.1, trivial⟩

/-! ## Creations -/

/-- `Create`: a booking that it stores is live on its table. -/
theorem create_triple {α : Type} {b : Booking} {k : Except GoError String → Go α}
    {Q : α → TracedWorld → Removing → Prop} (hid : b.id = "") (hactive : b.status = .active)
    (hk : ∀ r, (schedulerContract jobs).Triple i (fun s g => Clear i (fun _ => True) s g ∧
      ∀ id, r = .ok id → StoredLive id b.tableID s.state.bookings) (k r) Q) :
    (schedulerContract jobs).Triple i (Clear i fun _ => True) (.act (Op.create b) k) Q := by
  refine .act (fun (r : Except GoError String) s g => Clear i (fun _ => True) s g ∧
    ∀ id, r = .ok id → StoredLive id b.tableID s.state.bookings) ?_ (fun _ _ _ _ => trivial) ?_ hk
  · intro s g s' g' hr _ h
    exact h.rely lasting_true hr
  · intro threads s g r s' hinv h hsem _
    have htraced : traced (sem fun _ => True) i _ s r s' := hsem
    obtain ⟨⟨e, -, hperf⟩, -⟩ := hsem
    simp only [perform, Option.some.injEq, Prod.mk.injEq] at hperf
    obtain ⟨hr, hw⟩ := hperf
    have ht : s'.state.tables = s.state.tables := by rw [← hw]
    have harmed : s'.state.armed = s.state.armed := by rw [← hw]
    have hb : s'.state.bookings = (s.state.bookings.create e.fault e.objectID e.now b).2 := by
      rw [← hw]
    rcases s.state.bookings.create_cases e.fault e.objectID e.now hid with
      ⟨err, hc⟩ | ⟨c, hc, hdocs, hfresh⟩
    · rw [hc] at hr hb
      refine ⟨g, ⟨?_, ?_⟩, fun j hj => rely_of_same (traced_other htraced hj) hb ht rfl,
        ⟨h.1, trivial⟩, ?_⟩
      · rw [harmed, hb]
        exact hinv.timers
      · rw [ht, hb]
        exact hinv.shown
      · rintro id rfl
        cases hr
    · rw [hc] at hr hb
      have hsub : ∀ d ∈ s.state.bookings.docs, d ∈ s'.state.bookings.docs := by
        intro d hd
        rw [hb, hdocs]
        exact List.mem_append_left _ hd
      have hpersists : Persists s.state.bookings s'.state.bookings :=
        fun d hd => ⟨d, hsub d hd, rfl, rfl, fun hl => hl⟩
      refine ⟨g, ⟨?_, ?_⟩, ?_, ⟨h.1, trivial⟩, ?_⟩
      · intro a ha
        rw [harmed] at ha
        exact (hinv.timers a ha).persists hpersists
      · intro t cb hcb
        rw [ht] at hcb
        obtain ⟨d, hd, hd'⟩ := hinv.shown t cb hcb
        exact ⟨d, hsub d hd, hd'⟩
      · intro j hj
        refine ⟨rfl, traced_other htraced hj, hpersists, ?_, ?_⟩
        · rintro t cb - ⟨d, hd, hd'⟩
          exact ⟨d, hsub d hd, hd'⟩
        · exact fun t _ _ cb hcb => by rwa [ht] at hcb
      · rintro id rfl
        cases hr
        refine ⟨BookingCollection.newDoc e.objectID e.now b, ?_, by simp, by simp, ?_⟩
        · rw [hb, hdocs]
          simp
        · simp [BookingDoc.live, hactive]

theorem syncCreated_triple {b : Booking} :
    (schedulerContract jobs).Triple i
      (fun s g => Clear i (fun _ => True) s g ∧ LiveIfCovering b b.tableID s.state.bookings)
      (syncCreated b) fun _ => Clear i fun _ => True := by
  have hemit := @clear_all jobs i _ _ _ emitTimelineUpdate_calm lasting_true
  have h := @activateCovering_triple jobs i (fun _ => True) Unit b.tableID b _ _ _
    lasting_true (fun _ _ => hemit) fun _ => hemit
  refine Eq.mp ?_ h
  congr 1
  simp only [syncCreated, timeNow, Prog.call_bind]
  congr 1
  funext now
  cases covers b now <;> rfl

theorem createLocked_triple {dto : CreateBookingInput} {createdBy role : String} :
    (schedulerContract jobs).Triple i (Clear i fun _ => True) (createLocked dto createdBy role)
      fun _ => Clear i fun _ => True := by
  have hret : ∀ r : Except GoError Booking, (schedulerContract jobs).Triple i
      (Clear i fun _ => True) (Prog.ret r) fun _ => Clear i fun _ => True :=
    fun r => clear_ret lasting_true fun _ h => h
  unfold createLocked
  split
  · exact hret _
  · rename_i checkIn checkOut duration _
    simp only [timeNow, BookingRepository.hasOverlap, BookingRepository.create, Prog.call_bind]
    refine clear_triple rfl lasting_true fun now => ?_
    refine (clear_all (staffRefused_calm checkIn now role) lasting_true).bind fun refused => ?_
    cases refused with
    | true => exact hret _
    | false =>
      refine clear_triple rfl lasting_true fun r => ?_
      split
      · exact hret _
      · exact hret _
      · refine create_triple rfl rfl fun r => ?_
        split
        · exact (hret _).conseq (fun _ _ _ h => h.1) fun _ _ _ _ h => h
        · rename_i id
          refine (syncCreated_triple.bind fun _ => hret _).conseq ?_ fun _ _ _ _ h => h
          exact fun s g _ h => ⟨h.1, fun _ => h.2 id rfl⟩

theorem create_job_triple {dto : CreateBookingInput} {createdBy role : String} :
    (schedulerContract jobs).Triple i (Clear i fun _ => True)
      (Job.create dto createdBy role).program fun _ => Clear i fun _ => True := by
  refine Contract.Triple.bind ?_ fun _ => clear_ret lasting_true fun _ h => h
  refine (clear_all (getTableMutex_calm dto.tableID) lasting_true).bind fun m => ?_
  refine clear_triple rfl lasting_true fun _ => ?_
  refine createLocked_triple.bind fun _ => ?_
  exact clear_triple rfl lasting_true fun _ => clear_ret lasting_true fun _ h => h

/-! ## Cancellations -/

/-- Thread `i` has cancelled booking `oid` of table `t`, and has still to take it off the table. -/
def Withdraws (i : Nat) (oid : ObjectID) (t : Int) (s : TracedWorld) (g : Removing) : Prop :=
  g i = some oid ∧ Stored oid.hex t s.state.bookings

theorem Withdraws.rely {oid : ObjectID} {t : Int} {up : Op → Prop} {s s' : TracedWorld}
    {g g' : Removing} (hr : SchedulerRely jobs i up s g s' g') (h : Withdraws i oid t s g) :
    Withdraws i oid t s' g' :=
  ⟨hr.removing.trans h.1, h.2.persists hr.persists⟩

/-- A cancelled booking that its table does not show need not be removed. -/
theorem Withdraws.drop {oid : ObjectID} {t : Int} {s : TracedWorld} {g : Removing}
    (h : Withdraws i oid t s g) (hinv : SchedulerInv s g)
    (hnot : ∀ cb, s.state.tables.ShowsBusy t cb → cb.bookingID ≠ oid.hex) :
    SchedulerInv s (Function.update g i none) := by
  refine ⟨hinv.timers, ?_⟩
  intro u cb hcb
  obtain ⟨d, hd, hid, htd, hl⟩ := hinv.shown u cb hcb
  refine ⟨d, hd, hid, htd, hl.imp id ?_⟩
  rintro ⟨j, hj⟩
  refine ⟨j, ?_⟩
  have hne : j ≠ i := by
    rintro rfl
    have hoid : oid = d.id := Option.some.inj (h.1.symm.trans hj)
    obtain ⟨d', hd', hid', ht'⟩ := h.2
    have hdd : d' = d := s.state.bookings.id_inj hd' hd ((ObjectID.hex_inj hid').trans hoid)
    rw [hdd, htd] at ht'
    subst ht'
    exact hnot cb hcb (by rw [hoid, hid])
  rw [Function.update_of_ne hne]
  exact hj

/-- After the write of a cancellation: it has failed, or the booking is to be withdrawn. -/
def CancelSaved (i : Nat) (oid : ObjectID) (b : Booking) (r : Except GoError Unit)
    (s : TracedWorld) (g : Removing) : Prop :=
  match r with
  | .error _ => Clear i (fun _ => True) s g
  | .ok () => Withdraws i oid b.tableID s g ∧ s.last i = some ⟨.save b, .ok ()⟩

/-- `Save` of a cancelled booking: no other thread is about to activate it. -/
theorem saveCancelled_triple {α : Type} {b : Booking} {oid : ObjectID}
    {k : Except GoError Unit → Go α} {Q : α → TracedWorld → Removing → Prop} (hid : b.id = oid.hex)
    (hcancelled : b.status = .cancelled)
    (hk : ∀ r, (schedulerContract jobs).Triple i (CancelSaved i oid b r) (k r) Q) :
    (schedulerContract jobs).Triple i (Clear i (Stored oid.hex b.tableID)) (.act (Op.save b) k)
      Q := by
  refine .act (CancelSaved i oid b) ?_ (fun _ _ _ _ => trivial) ?_ hk
  · intro s g s' g' hr _ h
    exact h.rely (lasting_stored _ _) hr
  · intro threads s g r s' hinv h hsem hok
    have htraced : traced (sem fun _ => True) i _ s r s' := hsem
    obtain ⟨⟨e, -, hperf⟩, -⟩ := hsem
    simp only [perform, Option.some.injEq, Prod.mk.injEq] at hperf
    obtain ⟨hr, hw⟩ := hperf
    have ht : s'.state.tables = s.state.tables := by rw [← hw]
    have harmed : s'.state.armed = s.state.armed := by rw [← hw]
    have hb : s'.state.bookings = (s.state.bookings.save e.fault b).2 := by rw [← hw]
    rcases s.state.bookings.save_cases e.fault hid with ⟨err, -, hc⟩ | ⟨-, hc⟩
    · rw [hc] at hr hb
      subst hr
      refine ⟨g, ⟨?_, ?_⟩, fun j hj => rely_of_same (traced_other htraced hj) hb ht rfl, h.1, trivial⟩
      · rw [harmed, hb]
        exact hinv.timers
      · rw [ht, hb]
        exact hinv.shown
    · rw [hc] at hr hb
      subst hr
      have hdead : ¬ (docOf oid b).live := by simp [BookingDoc.live, docOf, hcancelled]
      have hpersists : Persists s.state.bookings s'.state.bookings := by
        rw [hb]
        exact persists_replaceOne h.2 fun hl => absurd hl hdead
      have hkept : ∀ d ∈ s.state.bookings.docs, d.id ≠ oid → d ∈ s'.state.bookings.docs := by
        intro d hd hne
        rw [hb]
        exact BookingCollection.mem_replaceOne.2 (.inr ⟨hd, hne⟩)
      refine ⟨Function.update g i (some oid), ⟨?_, ?_⟩, ?_,
        ⟨by simp, h.2.persists hpersists⟩, traced_last htraced⟩
      · intro a ha
        rw [harmed] at ha
        exact (hinv.timers a ha).persists hpersists
      · intro t cb hcb
        rw [ht] at hcb
        obtain ⟨d, hd, hid', htd, hl⟩ := hinv.shown t cb hcb
        by_cases hd_id : d.id = oid
        · obtain ⟨d', hd', hdd, htd', -⟩ := hpersists d hd
          exact ⟨d', hd', by rw [hdd, hid'], htd'.trans htd, .inr ⟨i, by simp [hdd, hd_id]⟩⟩
        · refine ⟨d, hkept d hd hd_id, hid', htd, hl.imp id ?_⟩
          rintro ⟨j, hj⟩
          refine ⟨j, ?_⟩
          have hne : j ≠ i := by
            rintro rfl
            rw [h.1] at hj
            cases hj
          rw [Function.update_of_ne hne]
          exact hj
      · intro j hj
        refine ⟨by simp [hj], traced_other htraced hj, hpersists, ?_, ?_⟩
        · rintro t cb hup ⟨d, hd, hid', htd, hl⟩
          refine ⟨d, hkept d hd ?_, hid', htd, hl⟩
          rintro rfl
          exact hok hcancelled rfl j hj t cb hup (by rw [← hid', hid])
        · exact fun t _ _ cb hcb => by rwa [ht] at hcb

/-- The look at the cache by which a cancellation takes its booking off the table. -/
theorem withdraw_triple {oid : ObjectID} {t : Int} (hi : ¬ SchedulerThread jobs i) :
    (schedulerContract jobs).Triple i (Withdraws i oid t)
      (TableService.getTable t >>= fun table =>
        Prog.when (table.2 ∧ table.1.currentBooking.map CurrentBooking.bookingID = some oid.hex)
          (TableService.deactivateTable t)) fun _ => Clear i fun _ => True := by
  simp only [TableService.getTable, TableCache.getTable, Prog.call_bind]
  refine calm_removing_triple (o := .getTable t) (R := fun (table : TableState × Bool) s g =>
    if table.2 ∧ table.1.currentBooking.map CurrentBooking.bookingID = some oid.hex then
      Withdraws i oid t s g
    else Clear i (fun _ => True) s g) rfl ?_ ?_ fun table => ?_
  · intro s g s' g' hr h
    exact h.rely hr
  · intro threads s g table s' e h hinv hinv' hperf _ hb ht _
    have htable : table = s.state.tables.getTable t := (Prod.mk.inj (Option.some.inj hperf)).1.symm
    have h' : Withdraws i oid t s' g := ⟨h.1, by rw [hb]; exact h.2⟩
    by_cases hseen : table.2 ∧ table.1.currentBooking.map CurrentBooking.bookingID = some oid.hex
    · refine ⟨g, fun _ _ => rfl, hinv', ?_⟩
      rw [if_pos hseen]
      exact h'
    · refine ⟨Function.update g i none, fun j hj => by simp [hj], h'.drop hinv' ?_, ?_⟩
      · intro cb hcb hid
        rw [ht] at hcb
        apply hseen
        rw [htable]
        refine ⟨?_, by rw [← hid]; exact shownID_getTable hcb⟩
        by_contra hnone
        simp only [Tables.getTable, Option.not_isSome_iff_eq_none] at hnone
        have hbusy := hcb.1
        rw [Tables.get, hnone] at hbusy
        cases hbusy
      · rw [if_neg hseen]
        exact ⟨by simp, trivial⟩
  · by_cases hseen : table.2 ∧ table.1.currentBooking.map CurrentBooking.bookingID = some oid.hex
    · simp only [hseen, and_self, decide_true, Prog.when_true, if_true]
      refine deactivateTable_triple lasting_true (fun s g s' g' hr h => h.rely hr)
        (fun _ _ _ job hjob hsched => absurd ⟨job, hjob, hsched⟩ hi) ?_
      intro s g h
      refine ⟨trivial, ?_⟩
      intro oid' hoid'
      rw [h.1, Option.some.injEq] at hoid'
      rw [← hoid']
      exact h.2
    · simp only [hseen, decide_false, Prog.when_false, if_false]
      exact clear_ret lasting_true fun _ h => h

theorem syncCancelled_triple {b : Booking} {oid : ObjectID} (hi : ¬ SchedulerThread jobs i)
    (hid : b.id = oid.hex) (hcancelled : b.status = .cancelled) :
    (schedulerContract jobs).Triple i (CancelSaved i oid b (.ok ())) (syncCancelled oid.hex b)
      fun _ => Clear i fun _ => True := by
  have hemit := @clear_all jobs i _ _ _ emitTimelineUpdate_calm lasting_true
  simp only [syncCancelled, timeNow, Prog.call_bind]
  refine calm_removing_triple (o := .now) (R := fun (now : Int) s g =>
    if covers b now then Withdraws i oid b.tableID s g else Clear i (fun _ => True) s g)
    rfl ?_ ?_ fun now => ?_
  · intro s g s' g' hr h
    exact ⟨h.1.rely hr, hr.last.trans h.2⟩
  · intro threads s g now s' e h _ hinv' _ _ hb ht hok
    have h' : Withdraws i oid b.tableID s' g := ⟨h.1.1, by rw [hb]; exact h.1.2⟩
    by_cases hcovers : covers b now
    · refine ⟨g, fun _ _ => rfl, hinv', ?_⟩
      rw [if_pos hcovers]
      exact h'
    · refine ⟨Function.update g i none, fun j hj => by simp [hj], h'.drop hinv' ?_, ?_⟩
      · intro cb hcb hcb_id
        rw [ht] at hcb
        exact hcovers (hok b h.2 hcancelled cb hcb (hcb_id.trans hid.symm))
      · rw [if_neg hcovers]
        exact ⟨by simp, trivial⟩
  · cases covers b now with
    | true => exact (withdraw_triple hi).bind fun _ => hemit
    | false => exact hemit

theorem cancelFresh_triple {fresh : Booking} {oid : ObjectID} (hi : ¬ SchedulerThread jobs i)
    (hid : fresh.id = oid.hex) :
    (schedulerContract jobs).Triple i (Clear i (Stored oid.hex fresh.tableID))
      (cancelFresh oid.hex fresh) fun _ => Clear i fun _ => True := by
  simp only [cancelFresh, BookingRepository.save, Prog.call_bind]
  refine saveCancelled_triple (b := cancelled fresh) hid rfl fun r => ?_
  split
  · exact clear_ret lasting_true fun _ h => h
  · refine (syncCancelled_triple hi (b := cancelled fresh) hid rfl).bind fun _ => ?_
    exact clear_ret lasting_true fun _ h => h

/-- The booking that `FindByID` answers is stored, under the id as the store spells it. -/
def AnswerSpelled (id : String) (r : Except GoError (Option Booking)) (c : BookingCollection) :
    Prop :=
  ∀ b, r = .ok (some b) → ∃ oid : ObjectID, id = oid.hex ∧ b.id = oid.hex ∧
    Stored oid.hex b.tableID c

/-- `id` is spelled as the store spells ids, in lower case. -/
def Canonical (id : String) : Prop := ∀ oid, objectIDFromHex id = some oid → id = oid.hex

theorem refetch_triple {id : String} (hi : ¬ SchedulerThread jobs i) (hid : Canonical id) :
    (schedulerContract jobs).Triple i (Clear i fun _ => True) (refetch id (cancelFresh id))
      fun _ => Clear i fun _ => True := by
  simp only [refetch, BookingRepository.findByID, Prog.call_bind]
  refine read_triple rfl lasting_true (B := AnswerSpelled id) ?_ fun r => ?_
  · intro e w r w' hperf _
    rw [← (Prod.mk.inj (Option.some.inj hperf)).1]
    intro b hb
    obtain ⟨d, hd, hoid, rfl⟩ := BookingCollection.findByID_eq_some hb
    exact ⟨d.id, hid d.id hoid, rfl, d, hd, rfl, rfl⟩
  · have hB : Lasting (AnswerSpelled id r) := by
      intro c c' hp h b hb
      obtain ⟨oid, h₁, h₂, h₃⟩ := h b hb
      exact ⟨oid, h₁, h₂, h₃.persists hp⟩
    split
    · rename_i fresh
      split
      · exact clear_ret hB fun _ _ => trivial
      · intro s g hinv h
        obtain ⟨oid, hid', hfresh, hstored⟩ := h.2 fresh rfl
        rw [hid']
        exact cancelFresh_triple hi hfresh s g hinv ⟨h.1, hstored⟩
    · exact clear_ret hB fun _ _ => trivial

theorem cancel_job_triple {id : String} (hi : ¬ SchedulerThread jobs i) (hid : Canonical id) :
    (schedulerContract jobs).Triple i (Clear i fun _ => True) (Job.cancel id).program
      fun _ => Clear i fun _ => True := by
  have hret : ∀ r : Except GoError Booking, (schedulerContract jobs).Triple i
      (Clear i fun _ => True) (Prog.ret r) fun _ => Clear i fun _ => True :=
    fun r => clear_ret lasting_true fun _ h => h
  refine Contract.Triple.bind ?_ fun _ => clear_ret lasting_true fun _ h => h
  simp only [cancelBooking, withFresh, BookingRepository.findByID, Prog.call_bind]
  refine clear_triple rfl lasting_true fun r => ?_
  split
  · exact hret _
  · exact hret _
  · rename_i b
    by_cases hstatus : b.status = .cancelled
    · rw [if_pos hstatus]
      exact hret _
    · rw [if_neg hstatus]
      refine (clear_all (getTableMutex_calm b.tableID) lasting_true).bind fun m => ?_
      refine clear_triple rfl lasting_true fun _ => ?_
      refine (refetch_triple hi hid).bind fun _ => ?_
      exact clear_triple rfl lasting_true fun _ => hret _

end

end GbcVenue.Scheduler
