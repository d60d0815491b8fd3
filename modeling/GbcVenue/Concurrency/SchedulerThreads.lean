import GbcVenue.Concurrency.SchedulerContract

/-!
# Every job keeps the scheduler's contract

Rules for the actions of the jobs, and a triple for each function of the scheduler and for the two
booking requests.
-/

namespace GbcVenue.Scheduler

open Interleaving BookingService

section

variable {jobs : List Job} {i : Nat}

/-- Thread `i` has nothing to remove, and `A` holds of the store. -/
def Clear (i : Nat) (A : BookingCollection → Prop) (s : TracedWorld) (g : Removing) : Prop :=
  g i = none ∧ A s.state.bookings

/-- What lasts in a store that keeps its bookings. -/
def Lasting (A : BookingCollection → Prop) : Prop := ∀ c c', Persists c c' → A c → A c'

theorem lasting_true : Lasting fun _ => True := fun _ _ _ _ => trivial

theorem lasting_stored (id : String) (t : Int) : Lasting (Stored id t) :=
  fun _ _ hp h => h.persists hp

theorem Clear.rely {A : BookingCollection → Prop} (hA : Lasting A) {up : Op → Prop}
    {s s' : TracedWorld} {g g' : Removing} (hr : SchedulerRely jobs i up s g s' g')
    (h : Clear i A s g) : Clear i A s' g' :=
  ⟨hr.removing.trans h.1, hA _ _ hr.persists h.2⟩

theorem stable_clear {A : BookingCollection → Prop} (hA : Lasting A) :
    (schedulerContract jobs).Stable i (Clear i A) := by
  intro up s g s' g' hr _ h
  exact h.rely hA hr

/-- The rule for a calm action, after which the thread may have less to remove. -/
theorem calm_removing_triple {α : Type} {o : Op} {k : Res o → Go α}
    {P : TracedWorld → Removing → Prop} {R : Res o → TracedWorld → Removing → Prop}
    {Q : α → TracedWorld → Removing → Prop} (ho : o.calm)
    (hP : ∀ s g s' g', SchedulerRely jobs i ((Prog.act o k).Upcoming Op.clockReading) s g s' g' →
      P s g → P s' g')
    (hR : ∀ threads s g r s' e, P s g → SchedulerInv s g → SchedulerInv s' g →
      perform i e o s.state = some (r, s'.state) → traced (sem fun _ => True) i o s r s' →
      s'.state.bookings = s.state.bookings → s'.state.tables = s.state.tables →
      undisturbed jobs ⟨s, threads⟩ i o r →
      ∃ g', (∀ j, j ≠ i → g' j = g j) ∧ SchedulerInv s' g' ∧ R r s' g')
    (hk : ∀ r, (schedulerContract jobs).Triple i (R r) (k r) Q) :
    (schedulerContract jobs).Triple i P (.act o k) Q := by
  refine .act R (fun s g s' g' hr _ => hP s g s' g' hr) ?_ ?_ hk
  · intro s g _ _
    cases o with
    | write => cases ho
    | _ => trivial
  · intro threads s g r s' hinv hp hsem hok
    have htraced : traced (sem fun _ => True) i _ s r s' := hsem
    obtain ⟨⟨e, -, hperf⟩, -⟩ := hsem
    obtain ⟨hb, ht, harmed⟩ := perform_calm ho hperf
    have hinv' : SchedulerInv s' g := by
      constructor
      · intro a ha
        rw [hb]
        exact hinv.timers a (harmed a ha)
      · intro t cb hcb
        rw [ht] at hcb
        rw [hb]
        exact hinv.shown t cb hcb
    obtain ⟨g', hg, hinv'', hr⟩ :=
      hR threads s g r s' e hp hinv hinv' hperf htraced hb ht hok
    exact ⟨g', hinv'', fun j hj => rely_of_same (traced_other htraced hj) hb ht (hg j hj), hr⟩

/-- The rule for a calm action that removes nothing. -/
theorem calm_triple {α : Type} {o : Op} {k : Res o → Go α} {P : TracedWorld → Removing → Prop}
    {R : Res o → TracedWorld → Removing → Prop} {Q : α → TracedWorld → Removing → Prop}
    (ho : o.calm)
    (hP : ∀ s g s' g', SchedulerRely jobs i ((Prog.act o k).Upcoming Op.clockReading) s g s' g' →
      P s g → P s' g')
    (hR : ∀ s g r s' e, P s g → SchedulerInv s g → perform i e o s.state = some (r, s'.state) →
      traced (sem fun _ => True) i o s r s' → s'.state.bookings = s.state.bookings →
      s'.state.tables = s.state.tables → R r s' g)
    (hk : ∀ r, (schedulerContract jobs).Triple i (R r) (k r) Q) :
    (schedulerContract jobs).Triple i P (.act o k) Q := by
  refine calm_removing_triple ho hP ?_ hk
  intro threads s g r s' e hp hinv hinv' hperf hsem hb ht _
  exact ⟨g, fun _ _ => rfl, hinv', hR s g r s' e hp hinv hperf hsem hb ht⟩

/-- The rule for a calm action from `Clear`. -/
theorem clear_triple {α : Type} {o : Op} {k : Res o → Go α} {A : BookingCollection → Prop}
    {Q : α → TracedWorld → Removing → Prop} (ho : o.calm) (hA : Lasting A)
    (hk : ∀ r, (schedulerContract jobs).Triple i (Clear i A) (k r) Q) :
    (schedulerContract jobs).Triple i (Clear i A) (.act o k) Q := by
  refine calm_triple (R := fun _ => Clear i A) ho ?_ ?_ hk
  · intro s g s' g' hr h
    exact h.rely hA hr
  · intro s g r s' e h _ _ _ hb _
    exact ⟨h.1, by rw [hb]; exact h.2⟩

/-- The rule for a program of calm actions. -/
theorem clear_all {α : Type} {p : Go α} {A : BookingCollection → Prop} (hp : p.All fun o => o.calm)
    (hA : Lasting A) : (schedulerContract jobs).Triple i (Clear i A) p fun _ => Clear i A := by
  induction p with
  | ret a => exact .ret (stable_clear hA) fun _ _ _ h => h
  | act o k ih => exact clear_triple hp.1 hA fun r => ih r (hp.2 r)

theorem clear_ret {α : Type} {a : α} {A B : BookingCollection → Prop} (hA : Lasting A)
    (h : ∀ c, A c → B c) :
    (schedulerContract jobs).Triple i (Clear i A) (.ret a) fun _ => Clear i B :=
  .ret (stable_clear hA) fun _ _ _ hc => ⟨hc.1, h _ hc.2⟩

/-- A read of the store: what the answer says of the store is kept as long as it lasts. -/
theorem read_triple {α : Type} {o : Op} {k : Res o → Go α} {A : BookingCollection → Prop}
    {B : Res o → BookingCollection → Prop} {Q : α → TracedWorld → Removing → Prop}
    (ho : o.calm) (hA : Lasting A)
    (hread : ∀ e w r w', perform i e o w = some (r, w') → A w.bookings → B r w.bookings)
    (hk : ∀ r, (schedulerContract jobs).Triple i (Clear i (B r)) (k r) Q) :
    (schedulerContract jobs).Triple i (Clear i A) (.act o k) Q := by
  refine calm_triple (R := fun r => Clear i (B r)) ho ?_ ?_ hk
  · intro s g s' g' hr h
    exact h.rely hA hr
  · intro s g r s' e h _ hperf _ hb _
    exact ⟨h.1, by rw [hb]; exact hread e _ r _ hperf h.2⟩

/-! ## Calm parts -/

theorem broadcast_calm : TableCache.broadcast.All fun o => o.calm :=
  ⟨rfl, fun _ => ⟨rfl, fun _ => trivial⟩⟩

theorem sendMqttCommand_calm (t : Int) (state : LightState) :
    (TableService.sendMqttCommand t state).All fun o => o.calm :=
  ⟨rfl, fun _ => ⟨rfl, fun _ => trivial⟩⟩

theorem emitTimelineUpdate_calm : emitTimelineUpdate.All fun o => o.calm :=
  emitTimelineUpdate_timeline.mono fun _ => Op.calm_of_timeline

theorem staffRefused_calm (checkIn now : Int) (role : String) :
    (staffRefused checkIn now role).All fun o => o.calm := by
  unfold staffRefused
  split
  · exact Prog.all_bind (venueTimes_timeline.mono fun _ => Op.calm_of_timeline)
      fun _ => ⟨rfl, fun _ => trivial⟩
  · trivial

theorem getTableMutex_calm (t : Int) : (getTableMutex t).All fun o => o.calm :=
  ⟨rfl, fun _ => ⟨rfl, fun _ => ⟨rfl, fun _ => trivial⟩⟩⟩

/-! ## Cache writes -/

/-- After the write of `ActivateTable` or `DeactivateTable`: a broadcast and a command. -/
theorem afterWrite_triple {t : Int} {state : LightState} {A : BookingCollection → Prop}
    (hA : Lasting A) (broadcasts : Bool) :
    (schedulerContract jobs).Triple i (Clear i A)
      (Prog.when broadcasts TableCache.broadcast >>= fun _ => TableService.sendMqttCommand t state)
      fun _ => Clear i A :=
  (clear_all (Prog.all_when broadcast_calm) hA).bind fun _ =>
    clear_all (sendMqttCommand_calm t state) hA

/-- `ActivateTable` for a booking that is live: it stays so until the write, for a cancellation in
between would disturb the check. -/
theorem activateTable_triple {t : Int} {cb : CurrentBooking} {A : BookingCollection → Prop}
    (hA : Lasting A) :
    (schedulerContract jobs).Triple i
      (fun s g => Clear i A s g ∧ StoredLive cb.bookingID t s.state.bookings)
      (TableService.activateTable t cb) fun _ => Clear i A := by
  simp only [TableService.activateTable, TableCache.activateTable, TableCache.write, Prog.call_bind,
    Prog.act_bind]
  refine .act (fun _ => Clear i A) ?_ (fun _ _ _ _ => trivial) ?_ fun r => ?_
  · intro s g s' g' hr _ h
    exact ⟨h.1.rely hA hr, hr.live t cb (.here _ _) h.2⟩
  · intro threads s g r s' hinv h hsem hok
    have htraced : traced (sem fun _ => True) i _ s r s' := hsem
    obtain ⟨⟨e, -, hperf⟩, -⟩ := hsem
    obtain ⟨rfl, hw⟩ := perform_write hperf
    have hb : s'.state.bookings = s.state.bookings := by rw [hw]
    have ht : s'.state.tables = s.state.tables.activateTable t cb := by rw [hw]; rfl
    refine ⟨g, ⟨?_, ?_⟩, ?_, ?_⟩
    · intro a ha
      rw [hw] at ha ⊢
      exact hinv.timers a ha
    · intro u cb' hcb
      rw [ht, Tables.showsBusy_activateTable] at hcb
      rw [hb]
      split at hcb
      · rename_i hu
        subst hu hcb
        obtain ⟨d, hd, hid, htd, hl⟩ := h.2
        exact ⟨d, hd, hid, htd, .inl hl⟩
      · exact hinv.shown u cb' hcb
    · intro j hj
      refine ⟨rfl, traced_other htraced hj, by rw [hb]; exact .refl _, fun _ _ _ hl => by rwa [hb], ?_⟩
      intro u hup hsched cb' hcb
      rw [ht, Tables.showsBusy_activateTable] at hcb
      split at hcb
      · rename_i hu
        subst hu
        exact absurd hup (hok j hj hsched)
      · exact hcb
    · exact ⟨h.1.1, by rw [hb]; exact h.1.2⟩
  · exact afterWrite_triple hA r

/-- `DeactivateTable`, by a thread that may: a scheduler thread of what has ended, and a cancellation
of the booking it has to remove. -/
theorem deactivateTable_triple {t : Int} {P : TracedWorld → Removing → Prop}
    {A : BookingCollection → Prop} (hA : Lasting A)
    (hP : ∀ s g s' g', SchedulerRely jobs i
      (fun o => o = .write (.deactivateTable t)) s g s' g' → P s g → P s' g')
    (hcheck : ∀ s g, P s g → deactivatesEnded jobs i s (.write (.deactivateTable t)))
    (hclear : ∀ s g, P s g → A s.state.bookings ∧
      ∀ oid, g i = some oid → Stored oid.hex t s.state.bookings) :
    (schedulerContract jobs).Triple i P (TableService.deactivateTable t) fun _ => Clear i A := by
  simp only [TableService.deactivateTable, TableCache.deactivateTable, TableCache.write,
    Prog.call_bind, Prog.act_bind]
  refine .act (fun _ => Clear i A) ?_ ?_ ?_ fun r => ?_
  · intro s g s' g' hr _ h
    refine hP s g s' g' ((schedulerContract jobs).rely_mono i _ _ s g s' g' ?_ hr) h
    rintro _ rfl
    exact .here _ _
  · intro s g _ h
    exact hcheck s g h
  · intro threads s g r s' hinv h hsem _
    have htraced : traced (sem fun _ => True) i _ s r s' := hsem
    obtain ⟨⟨e, -, hperf⟩, -⟩ := hsem
    obtain ⟨rfl, hw⟩ := perform_write hperf
    have hb : s'.state.bookings = s.state.bookings := by rw [hw]
    have ht : s'.state.tables = s.state.tables.deactivateTable t := by rw [hw]; rfl
    obtain ⟨hAs, hremoving⟩ := hclear s g h
    refine ⟨Function.update g i none, ⟨?_, ?_⟩, ?_, by simp, by rw [hb]; exact hAs⟩
    · intro a ha
      rw [hw] at ha ⊢
      exact hinv.timers a ha
    · intro u cb hcb
      rw [ht, Tables.showsBusy_deactivateTable] at hcb
      rw [hb]
      obtain ⟨d, hd, hid, htd, hl⟩ := hinv.shown u cb hcb.2
      refine ⟨d, hd, hid, htd, hl.imp id ?_⟩
      rintro ⟨j, hj⟩
      refine ⟨j, ?_⟩
      have hne : j ≠ i := by
        rintro rfl
        obtain ⟨d', hd', hid', ht'⟩ := hremoving _ hj
        have hdd : d' = d := s.state.bookings.id_inj hd' hd (ObjectID.hex_inj hid')
        rw [hdd, htd] at ht'
        exact hcb.1 ht'
      rw [Function.update_of_ne hne]
      exact hj
    · intro j hj
      refine ⟨by simp [hj], traced_other htraced hj, by rw [hb]; exact .refl _,
        fun _ _ _ hl => by rwa [hb], ?_⟩
      intro u _ _ cb hcb
      rw [ht, Tables.showsBusy_deactivateTable] at hcb
      exact hcb.2
  · exact afterWrite_triple hA r

end

end GbcVenue.Scheduler
