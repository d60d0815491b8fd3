import GbcVenue.Scheduler.Chain

/-!
# The chain skips no booking

From boot on, while only timers fire and each in time, the chain of a table goes through every
booking that ends after the boot, and comes to an end.
-/

namespace GbcVenue

open Interleaving BookingService GoTime Scheduler

/-! ## Boot -/

section

variable {faults : Option String → Prop} {t boot now start stop : Int} {v v' : Venue}
  {c : BookingCollection} {ts : Tables} {bs : List Booking}

theorem hydrated_get (h : ∀ b ∈ bs, b.tableID ≠ t) : (hydrated ts bs).get t = ts.get t := by
  induction bs generalizing ts with
  | nil => rfl
  | cons b bs ih =>
    have hne : t ≠ b.tableID := fun ht => h b (by simp) ht.symm
    have hrest : (hydrated (ts.hydrateTable b.tableID (some (currentBookingOf b))) bs).get t = _ :=
      ih fun b' hb' => h b' (List.mem_cons_of_mem _ hb')
    exact hrest.trans (Tables.get_set_ne ts _ hne)

/-- Hydration shows the one booking of a table. -/
theorem hydrated_shows {b : Booking} (hb : b ∈ bs) (ht : b.tableID = t)
    (hall : ∀ b' ∈ bs, b'.tableID = t → b' = b) :
    (hydrated ts bs).ShowsBusy t (currentBookingOf b) := by
  induction bs generalizing ts with
  | nil => exact absurd hb List.not_mem_nil
  | cons b₀ bs ih =>
    by_cases hmem : b ∈ bs
    · exact ih hmem fun b' hb' => hall b' (List.mem_cons_of_mem _ hb')
    · have heq : b = b₀ := (List.mem_cons.1 hb).resolve_right hmem
      subst heq
      have hothers : ∀ b' ∈ bs, b'.tableID ≠ t := by
        intro b' hb' ht'
        exact hmem (hall b' (List.mem_cons_of_mem _ hb') ht' ▸ hb')
      have hget : (hydrated (ts.hydrateTable b.tableID (some (currentBookingOf b))) bs).get t = _ :=
        hydrated_get hothers
      show ((hydrated _ bs).get t).status = .busy ∧ ((hydrated _ bs).get t).currentBooking = _
      rw [hget]
      exact showsBusy_hydrateTable.2 (by rw [if_pos ht.symm])

/-- Of all that rescheduling the tables does, what it does for `t`. -/
theorem Scheduler.RescheduledAll.at {us : List Int} (hw : WellArmed v) (hus : us.Nodup)
    (ht : t ∈ us) (h : RescheduledAll faults start stop us v v') :
    ∃ now v₁ v₂, start ≤ now ∧ now ≤ stop ∧ Apart t v v₁ ∧ Rescheduled faults t now v₁ v₂ ∧
      Apart t v₂ v' := by
  induction us generalizing v with
  | nil => exact absurd ht List.not_mem_nil
  | cons u us ih =>
    rw [List.nodup_cons] at hus
    obtain ⟨now, v₁, hstart, hstop, hfirst, hrest⟩ := h
    have hw₁ : WellArmed v₁ := (hfirst.apart (t := u + 1) hw (by omega)).wellArmed
    rcases List.mem_cons.1 ht with rfl | ht
    · exact ⟨now, v, v₁, hstart, hstop, hw.apart t, hfirst, hrest.apart hw₁ hus.1⟩
    · have hne : t ≠ u := fun h => hus.1 (h ▸ ht)
      obtain ⟨now', w₁, w₂, hstart', hstop', hbefore, hre, hafter⟩ := ih hw₁ hus.2 ht hrest
      exact ⟨now', w₁, w₂, hstart', hstop', (hfirst.apart hw hne).trans hbefore, hre, hafter⟩

/-- Rescheduling a table that shows what runs and has no timer starts its chain. -/
theorem phase_rescheduled (hseq : InSequence v.bookings t) (hfaults : ∀ f, ¬ faults (some f))
    (hnil : v.armedOn t = []) (hboot : boot ≤ now) (hstop : now ≤ stop)
    (hquiet : NoBoundary v.bookings t boot stop)
    (hshown : ∀ d ∈ v.bookings.docs, d.tableID = t → d.runsAt now →
      v.tables.ShowsBusy t (currentBookingOf (docToBooking d)))
    (hfree : (∀ d ∈ v.bookings.docs, d.tableID = t → ¬ d.runsAt now) →
      (v.tables.get t).status = .available) (h : Rescheduled faults t now v v') :
    Phase t boot (fun _ => False) [] v' := by
  have hclear : (clearTable v t).armedOn t = [] :=
    armedOn_clearTimer_nil (armedOn_clearTimer_nil hnil _) _
  -- what is ahead and does not run now is still to begin
  have hlater : ∀ e, Ahead v.bookings t boot e → ¬ e.runsAt now →
      now < ofUnixMilli e.checkInTime := by
    intro e he hnot
    rw [runsAt_iff] at hnot
    have hout := (hquiet e he.mem he.live he.table).2
    have hahead := he.out
    rw [Set.mem_Ioc] at hout
    by_contra hbegun
    exact hnot ⟨he.live, by omega, by omega⟩
  cases h with
  | failed hf => exact absurd hf (hfaults _)
  | @current d deadline hcurrent hdue =>
    obtain ⟨hd, ht, hactive⟩ := BookingCollection.current_mem hcurrent
    have hr := runsAt_of_activeAt.1 hactive
    obtain ⟨hl, hin, hout⟩ := runsAt_iff.1 hr
    have hahead : Ahead v.bookings t boot d := ⟨hd, hl, ht, by omega⟩
    have harmed := armedOn_setTimer_self (k := endKey t) hclear d.id.hex deadline
    refine .running (d := d) ?_ ?_ harmed hdue ?_ nofun
    · rw [Venue.setTimer_bookings, clearTable_bookings]
      exact hahead
    · rw [Venue.setTimer_tables, clearTable_tables]
      exact hshown d hd ht hr
    · intro e he
      rw [Venue.setTimer_bookings, clearTable_bookings] at he
      right
      by_cases hed : e = d
      · rw [hed]
      · have hnot : ¬ e.runsAt now := by
          intro her
          rw [runsAt_iff] at her
          rcases hseq.disjoint e he.mem d hd hed he.table ht he.live hl with h | h <;>
            have h := ofUnixMilli_le.2 h <;> omega
        have hlt := hlater e he hnot
        rw [← ofUnixMilli_le]
        omega
  | chained hnone hnext =>
    have hnot : ∀ d ∈ v.bookings.docs, d.tableID = t → ¬ d.runsAt now :=
      fun d hd ht => not_runsAt_of_current_none hnone hd ht
    refine phase_chained (v := clearTable v t) ?_ hfaults hclear ?_ hboot ?_ nofun hnext
    · rw [clearTable_bookings]
      exact hseq
    · rw [clearTable_tables]
      exact hfree hnot
    · intro e he
      rw [clearTable_bookings] at he
      exact .inr (hlater e he (hnot e he.mem he.table))

/-- The table as boot comes to reschedule it at `now`: no timer is armed and it shows what runs. -/
structure Hydrated (c : BookingCollection) (t now : Int) (v : Venue) : Prop where
  bookings : v.bookings = c
  armed : v.armedOn t = []
  shown : ∀ d ∈ c.docs, d.tableID = t → d.runsAt now →
    v.tables.ShowsBusy t (currentBookingOf (docToBooking d))
  free : (∀ d ∈ c.docs, d.tableID = t → ¬ d.runsAt now) → (v.tables.get t).status = .available

/-- Of all that boot does, what it does for `t`, if no booking of the table starts or ends. -/
theorem boot_at {config : Option VenueConfig} {offset : Int} {m : Timed World Int}
    (hunique : ∀ now, ∀ d ∈ c.docs, ∀ e ∈ c.docs, d.tableID = t → e.tableID = t →
      d.runsAt now → e.runsAt now → d = e) (h₁ : 1 ≤ t) (h₄ : t ≤ 4)
    (hrun : Prog.Runs (backend noFaults) 0 Scheduler.boot ⟨World.start c config offset, start⟩ () m)
    (hquiet : NoBoundary c t start m.clock) :
    ∃ now v v', start ≤ now ∧ now ≤ m.clock ∧ Hydrated c t now v ∧
      Rescheduled (faultsOf noFaults) t now v v' ∧ Apart t v' m.state.venue := by
  obtain ⟨v, mid, hmid, hmid', hv, hre⟩ := runs_boot (hrun.simulate (venue_simulates noFaults))
  rcases hv with ⟨⟨f, hf⟩, -⟩ | ⟨now, hnow, hnow', rfl⟩
  · exact absurd hf (not_faultsOf_noFaults f)
  simp only [venueAt] at hmid hmid' hnow hre
  have hw : WellArmed { (World.start c config offset).venue with
      tables := hydrated (World.start c config offset).venue.tables (activeNow c now) } :=
    (wellArmed_start c config offset).fewer (fun _ ha => ha) (fun _ _ hn => hn) rfl
  obtain ⟨now', v₁, v₂, hstart', hstop', hbefore, hsched, hafter⟩ :=
    hre.at hw (by decide) (tables_of_mem.2 ⟨h₁, h₄⟩)
  have hsame : ∀ d ∈ c.docs, d.tableID = t → (d.runsAt now ↔ d.runsAt now') :=
    fun d hd ht => hquiet.runsAt_iff hnow (hnow'.trans hstart') hstop' hd ht
  refine ⟨now', v₁, v₂, hmid.trans hstart', hstop', ⟨hbefore.bookings, hbefore.armed, ?_, ?_⟩,
    hsched, hafter⟩
  · intro d hd ht hr
    unfold Tables.ShowsBusy
    rw [hbefore.table]
    have hr' := (hsame d hd ht).2 hr
    refine hydrated_shows (b := docToBooking d) ?_ ht ?_
    · simp only [activeNow, List.mem_map, List.mem_filter]
      exact ⟨d, ⟨hd, runsAt_of_activeAt.2 hr'⟩, rfl⟩
    · intro b hb ht'
      obtain ⟨e, he, hactive, rfl⟩ := mem_activeNow hb
      rw [hunique now e he d hd ht' ht (runsAt_of_activeAt.1 hactive) hr']
  · intro hnone
    rw [hbefore.table]
    show ((hydrated Tables.new (activeNow c now)).get t).status = .available
    rw [hydrated_get]
    · simp [Tables.get, Tables.new, h₁, h₄]
    · intro b hb ht'
      obtain ⟨e, he, hactive, rfl⟩ := mem_activeNow hb
      exact hnone e he ht' ((hsame e he ht').1 (runsAt_of_activeAt.1 hactive))

/-- The process boots while no booking of the table starts or ends. -/
theorem phase_boot {config : Option VenueConfig} {offset : Int} {m : Timed World Int}
    (hseq : InSequence c t) (h₁ : 1 ≤ t) (h₄ : t ≤ 4)
    (hrun : Prog.Runs (backend noFaults) 0 Scheduler.boot ⟨World.start c config offset, start⟩ () m)
    (hquiet : NoBoundary c t start m.clock) :
    m.state.bookings = c ∧ WellArmed m.state.venue ∧
      Phase t start (fun _ => False) [] m.state.venue := by
  have hunique : ∀ now, ∀ d ∈ c.docs, ∀ e ∈ c.docs, d.tableID = t → e.tableID = t →
      d.runsAt now → e.runsAt now → d = e := by
    intro now d hd e he ht ht' hdr her
    by_contra hne
    obtain ⟨hdl, hdin, hdout⟩ := runsAt_iff.1 hdr
    obtain ⟨hel, hein, heout⟩ := runsAt_iff.1 her
    rcases hseq.disjoint d hd e he hne ht ht' hdl hel with h | h <;>
      have h := ofUnixMilli_le.2 h <;> omega
  obtain ⟨now, v, v', hstart, hstop, hhydrated, hsched, hafter⟩ :=
    boot_at hunique h₁ h₄ hrun hquiet
  have hb := hhydrated.bookings
  refine ⟨(hafter.bookings.trans hsched.rearmed.bookings).trans hb, hafter.wellArmed, ?_⟩
  refine Phase.apart (phase_rescheduled (v := v) ?_ not_faultsOf_noFaults hhydrated.armed hstart
    hstop ?_ ?_ ?_ hsched) hafter
  · rw [hb]
    exact hseq
  · rw [hb]
    exact hquiet
  · rw [hb]
    exact hhydrated.shown
  · rw [hb]
    exact hhydrated.free

end

/-! ## Runs -/

/-- Timer `a` fires and its callback runs. -/
inductive Fires (E : Env → Prop) (m : Timed World Int) (a : ArmedTimer) (m' : Timed World Int) : Prop
  | fired {mid : Timed World Int} (h : backend E 0 Op.fire m a mid)
      (hrun : Prog.Runs (backend E) 0 (callback a) mid () m')

/-- A run of the goroutine of the runtime is the firing of some timer. -/
theorem timerFires_iff {E : Env → Prop} {m m' : Timed World Int} :
    Prog.Runs (backend E) 0 timerFires m () m' ↔ ∃ a, Fires E m a m' := by
  simp only [timerFires, Prog.call_bind, Prog.runs_act]
  constructor
  · rintro ⟨a, mid, h, hrun⟩
    exact ⟨a, .fired h hrun⟩
  · rintro ⟨a, h, hrun⟩
    exact ⟨a, _, h, hrun⟩

theorem Fires.effect {E : Env → Prop} {m m' : Timed World Int} {a : ArmedTimer}
    (h : Fires E m a m') :
    a ∈ m.state.armed ∧ ∃ now, a.deadline ≤ now ∧ m.clock ≤ now ∧ now ≤ m'.clock ∧
      Fired (faultsOf E) now m.state.venue a m'.state.venue := by
  obtain ⟨h, hrun⟩ := h
  exact runs_fired (venue_simulates E _ _ _ _ _ h) (hrun.simulate (venue_simulates E))

/-- Timer `a` fires without database failures, and its callback ends before the next booking of its
table starts or ends after the instant that the timer stands for. -/
def FiresInTime (m : Timed World Int) (a : ArmedTimer) (m' : Timed World Int) : Prop :=
  Fires noFaults m a m' ∧ ∀ d ∈ m.state.bookings.docs, d.id.hex = a.bookingID →
    NoBoundary m.state.bookings a.key.tableID (instantOf a.key.kind d) m'.clock

/-- In this step of a run the table shows `d`, its own end timer fires, and the table is freed. -/
def EndsBooking (t : Int) (d : BookingDoc)
    (s : Timed World Int × ArmedTimer × Timed World Int) : Prop :=
  s.2.1.key = endKey t ∧ s.2.1.bookingID = d.id.hex ∧
    s.1.state.tables.ShowsBusy t (currentBookingOf (docToBooking d)) ∧
    (s.2.2.state.tables.get t).status = .available

/-- The steps of a run in which a timer of the table fires. -/
def stepsOn (t : Int) (steps : List (Timed World Int × ArmedTimer × Timed World Int)) :
    List (Timed World Int × ArmedTimer × Timed World Int) :=
  steps.filter fun s => s.2.1.key.tableID = t

/-- The live bookings of table `t`. -/
def liveOn (c : BookingCollection) (t : Int) : List BookingDoc :=
  c.docs.filter fun d => d.live ∧ d.tableID = t

/-- What holds after the steps of a run: the instants at which timers of the table have fired are
those of its bookings, each later than the one before. -/
structure ChainInv (c : BookingCollection) (t boot : Int)
    (steps : List (Timed World Int × ArmedTimer × Timed World Int)) (m : Timed World Int)
    (past : List Int) : Prop where
  bookings : m.state.bookings = c
  wellArmed : WellArmed m.state.venue
  phase : Phase t boot (fun d => ∃ s ∈ steps, EndsBooking t d s) past m.state.venue
  increasing : past.Pairwise (· < ·)
  instants : ∀ x ∈ past, ∃ d ∈ liveOn c t, ∃ kind, x = instantOf kind d
  counted : past.length = (stepsOn t steps).length

section

variable {c : BookingCollection} {t boot : Int} {m m' : Timed World Int} {past : List Int}
  {steps : List (Timed World Int × ArmedTimer × Timed World Int)} {a : ArmedTimer}

theorem ChainInv.step (hseq : InSequence c t) (hgaps : Gaps c t boot)
    (h : ChainInv c t boot steps m past) (hfire : FiresInTime m a m') :
    ∃ past', ChainInv c t boot (steps ++ [(m, a, m')]) m' past' := by
  obtain ⟨ha, now, hdue, -, hstop, hfired⟩ := hfire.1.effect
  -- what is the same whatever the timer's table
  have hother := hfired.apart (t := a.key.tableID + 1) h.wellArmed ha (by omega)
  have hb : m'.state.bookings = c := hother.bookings.trans h.bookings
  have hmono : ∀ d, (∃ s ∈ steps, EndsBooking t d s) →
      ∃ s ∈ steps ++ [(m, a, m')], EndsBooking t d s := by
    rintro d ⟨s, hs, hd⟩
    exact ⟨s, List.mem_append_left _ hs, hd⟩
  by_cases hat : a.key.tableID = t
  · have hmem : a ∈ m.state.venue.armedOn t := Venue.mem_armedOn.2 ⟨ha, hat⟩
    have hseq' : InSequence m.state.venue.bookings t := by
      show InSequence m.state.bookings t
      rw [h.bookings]
      exact hseq
    have hgaps' : Gaps m.state.venue.bookings t boot := by
      show Gaps m.state.bookings t boot
      rw [h.bookings]
      exact hgaps
    obtain ⟨d, hd, hpast, hphase⟩ := h.phase.fired hseq' hgaps' not_faultsOf_noFaults hmem hdue hstop
      (fun d hd hid => hat ▸ hfire.2 d hd hid) hfired
    have hdlive : d ∈ liveOn c t := by
      have hdc : d ∈ c.docs := by
        rw [← h.bookings]
        exact hd.mem
      simp only [liveOn, List.mem_filter, decide_eq_true_eq]
      exact ⟨hdc, hd.live, hd.table⟩
    refine ⟨past ++ [instantOf a.key.kind d], hb, hother.wellArmed, ?_, ?_, ?_, ?_⟩
    · rcases hphase with hphase | ⟨hkey, hid, hshown, hfree, hphase⟩
      · exact hphase.mono hmono
      · refine hphase.mono fun e he => ?_
        rcases he with he | rfl
        · exact hmono e he
        · exact ⟨(m, a, m'), by simp, hkey, hid, hshown, hfree⟩
    · rw [List.pairwise_append]
      refine ⟨h.increasing, List.pairwise_singleton _ _, fun x hx y hy => ?_⟩
      rw [List.mem_singleton.1 hy]
      exact hpast x hx
    · intro x hx
      rcases List.mem_append.1 hx with hx | hx
      · exact h.instants x hx
      · exact ⟨d, hdlive, a.key.kind, List.mem_singleton.1 hx⟩
    · simp [stepsOn, hat, h.counted]
  · refine ⟨past, hb, hother.wellArmed, ?_, h.increasing, h.instants, ?_⟩
    · exact (h.phase.mono hmono).apart (hfired.apart h.wellArmed ha fun h => hat h.symm)
    · simp [stepsOn, hat, h.counted]

/-- Each booking has two instants. -/
theorem ChainInv.bounded (h : ChainInv c t boot steps m past) :
    (stepsOn t steps).length ≤ 2 * (liveOn c t).length := by
  have hnodup : past.Nodup := h.increasing.imp fun hlt => hlt.ne
  have hsub : past ⊆
      (liveOn c t).map (instantOf .onStart) ++ (liveOn c t).map (instantOf .onEnd) := by
    intro x hx
    obtain ⟨d, hd, kind, rfl⟩ := h.instants x hx
    cases kind with
    | onStart => exact List.mem_append_left _ (List.mem_map_of_mem hd)
    | onEnd => exact List.mem_append_right _ (List.mem_map_of_mem hd)
  have hle := List.Nodup.length_le_of_subset hnodup hsub
  simp only [List.length_append, List.length_map] at hle
  rw [← h.counted]
  omega

theorem chainInv_of_run {m₀ : Timed World Int} (hseq : InSequence c t) (hgaps : Gaps c t boot)
    (hb : m₀.state.bookings = c) (hw : WellArmed m₀.state.venue)
    (hphase : Phase t boot (fun _ => False) [] m₀.state.venue)
    (hrun : Steps FiresInTime m₀ steps m) : ∃ past, ChainInv c t boot steps m past := by
  induction hrun with
  | nil => exact ⟨[], hb, hw, hphase.mono fun _ h => h.elim, .nil, nofun, rfl⟩
  | snoc _ hstep ih =>
    obtain ⟨past, h⟩ := ih
    exact h.step hseq hgaps hstep

end

/-- A process boots while no booking of the table starts or ends; from then on only timers fire, each
in time. If no booking of the table that ends after the boot does so at the instant at which another
begins, then no more timers of the table fire than twice the number of its bookings; and when none is
armed any more, each booking that ends after the boot has been shown and ended by its own timer. -/
theorem timer_chain_skips_none {c : BookingCollection} {t : Int} (h₁ : 1 ≤ t) (h₄ : t ≤ 4)
    (hseq : InSequence c t) {start : Int} (hgaps : Gaps c t start) {config : Option VenueConfig}
    {offset : Int} {m₀ m : Timed World Int}
    (hboot : Prog.Runs (backend noFaults) 0 Scheduler.boot ⟨World.start c config offset, start⟩ () m₀)
    (hquiet : NoBoundary c t start m₀.clock)
    {steps : List (Timed World Int × ArmedTimer × Timed World Int)}
    (hrun : Steps FiresInTime m₀ steps m) :
    (stepsOn t steps).length ≤ 2 * (liveOn c t).length ∧
      ((∀ a ∈ m.state.armed, a.key.tableID ≠ t) →
        ∀ d, Ahead c t start d → ∃ s ∈ steps, EndsBooking t d s) := by
  obtain ⟨hb, hw, hphase⟩ := phase_boot hseq h₁ h₄ hboot hquiet
  obtain ⟨past, hinv⟩ := chainInv_of_run hseq hgaps hb hw hphase hrun
  refine ⟨hinv.bounded, fun hnone d hd => ?_⟩
  have hnil : m.state.venue.armedOn t = [] := by
    rw [List.eq_nil_iff_forall_not_mem]
    intro a ha
    rw [Venue.mem_armedOn] at ha
    exact hnone a ha.1 ha.2
  have hmb : m.state.venue.bookings = c := hinv.bookings
  cases hinv.phase with
  | waiting _ _ harmed _ _ _ =>
    rw [hnil] at harmed
    cases harmed
  | running _ _ harmed _ _ _ =>
    rw [hnil] at harmed
    cases harmed
  | finished _ hrest =>
    rw [hmb] at hrest
    exact hrest d hd

/-! ## Runs on fixed inputs -/

/-- A timer fires, and its callback runs, at the very instant that it stands for. -/
def fireOnTime (e : Env) (m : Timed World Int) : Option (ArmedTimer × Timed World Int) := do
  let (a, mid) ← Timed.perform Env.now perform 0 e Op.fire m
  let (_, m') ← complete (List.replicate 20 e) (callback a) mid
  if ∀ d ∈ m.state.bookings.docs, d.id.hex = a.bookingID → instantOf a.key.kind d = m'.clock then
    some (a, m')
  else none

theorem firesInTime_of_fireOnTime {e : Env} {m m' : Timed World Int} {a : ArmedTimer}
    (h : fireOnTime e m = some (a, m')) (he : noFaults e) : FiresInTime m a m' := by
  simp only [fireOnTime, Option.bind_eq_bind, Option.bind_eq_some_iff,
    Option.ite_none_right_eq_some, Option.some.injEq, Prod.mk.injEq] at h
  obtain ⟨⟨_, mid⟩, hfire, ⟨_, _⟩, hrun, hinstant, rfl, rfl⟩ := h
  have hall := noFaults_replicate 20 e he
  refine ⟨.fired (backend_of_perform he hfire) (runs_of_complete hall hrun), ?_⟩
  intro d hd hid d' _ _ _
  rw [hinstant d hd hid, Set.Ioc_self]
  exact ⟨fun h => h, fun h => h⟩

/-- A booking of table 1 beside the one from ten to eleven, with these times. -/
def another (checkInTime checkOutTime : Int) : BookingDoc :=
  { tenToEleven .active with
    id := .ofNat 8
    checkInTime := checkInTime
    checkOutTime := checkOutTime }

/-- The sample and another booking. -/
def twoBookings (checkInTime checkOutTime : Int) : BookingCollection :=
  ⟨[tenToEleven .active, another checkInTime checkOutTime], by
    have hne : ObjectID.ofNat 7 ≠ ObjectID.ofNat 8 := by decide
    simpa [tenToEleven, another] using hne⟩

theorem inSequence_twoBookings {checkInTime checkOutTime : Int} (h : checkInTime < checkOutTime)
    (hafter : 1893495600000 ≤ checkInTime) :
    InSequence (twoBookings checkInTime checkOutTime) 1 := by
  have hcases : ∀ d ∈ (twoBookings checkInTime checkOutTime).docs,
      d = tenToEleven .active ∨ d = another checkInTime checkOutTime := by
    intro d hd
    simpa [twoBookings] using hd
  constructor
  · intro d hd _ _
    rcases hcases d hd with rfl | rfl
    · decide
    · exact h
  · intro d hd e he hne _ _ _ _
    rcases hcases d hd with rfl | rfl <;> rcases hcases e he with rfl | rfl
    · exact absurd rfl hne
    · exact .inl hafter
    · exact .inr hafter
    · exact absurd rfl hne

/-- A process boots at half past ten over the sample and another booking. -/
def bootWith (checkInTime checkOutTime : Int) : Option (Unit × Timed World Int) :=
  complete (List.replicate 60 halfPastTen) Scheduler.boot
    ⟨World.start (twoBookings checkInTime checkOutTime) none 0, halfPastTen.now⟩

/-- At this millisecond, with this timer the one to fire. -/
def atMilli (ms : Int) (timer : Nat) : Env := ⟨ofUnixMilli ms, .zero, none, timer⟩

/-- With an hour between the two bookings the chain goes through both. -/
theorem timer_chain_skips_none_gap :
    ∃ steps : List (Timed World Int × ArmedTimer × Timed World Int), steps.length = 3 ∧
      ∀ d ∈ (twoBookings 1893499200000 1893502800000).docs, ∃ s ∈ steps, EndsBooking 1 d s := by
  have hrun : (do
      let (_, m₀) ← bootWith 1893499200000 1893502800000
      let (_, m₁) ← fireOnTime (atMilli 1893495600000 0) m₀
      let (_, m₂) ← fireOnTime (atMilli 1893499200000 1) m₁
      let (_, m₃) ← fireOnTime (atMilli 1893502800000 2) m₂
      return (m₀.clock, m₃.state.armed)) = some (halfPastTen.now, []) := by
    decide +kernel
  simp only [Option.bind_eq_bind, Option.bind_eq_some_iff, Option.pure_def, Option.some.injEq,
    Prod.mk.injEq] at hrun
  obtain ⟨⟨_, m₀⟩, hboot, ⟨a₁, m₁⟩, h₁, ⟨a₂, m₂⟩, h₂, ⟨a₃, m₃⟩, h₃, hclock, harmed⟩ := hrun
  have hquiet : NoBoundary (twoBookings 1893499200000 1893502800000) 1 halfPastTen.now m₀.clock := by
    intro d _ _ _
    rw [hclock, Set.Ioc_self]
    exact ⟨fun h => h, fun h => h⟩
  have hgaps : Gaps (twoBookings 1893499200000 1893502800000) 1 halfPastTen.now := by
    intro d hd e he _ _
    have hall : ∀ d ∈ (twoBookings 1893499200000 1893502800000).docs,
        ∀ e ∈ (twoBookings 1893499200000 1893502800000).docs, d.checkOutTime ≠ e.checkInTime := by
      decide
    exact hall d hd.mem e he
  have hsteps : Steps FiresInTime m₀ [(m₀, a₁, m₁), (m₁, a₂, m₂), (m₂, a₃, m₃)] m₃ :=
    .snoc (.snoc (.snoc .nil (firesInTime_of_fireOnTime h₁ rfl)) (firesInTime_of_fireOnTime h₂ rfl))
      (firesInTime_of_fireOnTime h₃ rfl)
  have hskip := timer_chain_skips_none le_rfl (by decide)
    (inSequence_twoBookings (by decide) (by decide)) hgaps
    (runs_of_complete (noFaults_replicate 60 halfPastTen rfl) hboot) hquiet hsteps
  refine ⟨_, rfl, fun d hd => hskip.2 ?_ d ?_⟩
  · intro a ha
    rw [harmed] at ha
    exact absurd ha List.not_mem_nil
  · have hall : ∀ d ∈ (twoBookings 1893499200000 1893502800000).docs, d.live ∧ d.tableID = 1 ∧
        halfPastTen.now < ofUnixMilli d.checkOutTime := by
      decide
    obtain ⟨hl, ht, hout⟩ := hall d hd
    exact ⟨hd, hl, ht, hout⟩

/-- Without that condition it fails: a booking that begins as the running one ends is never shown. -/
theorem timer_chain_can_skip :
    ¬ ∀ (c : BookingCollection) (t : Int), 1 ≤ t → t ≤ 4 → InSequence c t →
      ∀ (start : Int) (config : Option VenueConfig) (offset : Int) (m₀ m : Timed World Int),
      Prog.Runs (backend noFaults) 0 Scheduler.boot ⟨World.start c config offset, start⟩ () m₀ →
      NoBoundary c t start m₀.clock →
      ∀ steps : List (Timed World Int × ArmedTimer × Timed World Int),
      Steps FiresInTime m₀ steps m → (∀ a ∈ m.state.armed, a.key.tableID ≠ t) →
      ∀ d, Ahead c t start d → ∃ s ∈ steps, EndsBooking t d s := by
  intro hclaim
  have hrun : (do
      let (_, m₀) ← bootWith 1893495600000 1893499200000
      let (a₁, m₁) ← fireOnTime (atMilli 1893495600000 0) m₀
      return (m₀.clock, a₁.bookingID, m₁.state.armed)) =
      some (halfPastTen.now, (ObjectID.ofNat 7).hex, []) := by
    decide +kernel
  simp only [Option.bind_eq_bind, Option.bind_eq_some_iff, Option.pure_def, Option.some.injEq,
    Prod.mk.injEq] at hrun
  obtain ⟨⟨_, m₀⟩, hboot, ⟨a₁, m₁⟩, h₁, hclock, hid, harmed⟩ := hrun
  have hquiet : NoBoundary (twoBookings 1893495600000 1893499200000) 1 halfPastTen.now m₀.clock := by
    intro d _ _ _
    rw [hclock, Set.Ioc_self]
    exact ⟨fun h => h, fun h => h⟩
  have hsteps : Steps FiresInTime m₀ [(m₀, a₁, m₁)] m₁ :=
    .snoc .nil (firesInTime_of_fireOnTime h₁ rfl)
  obtain ⟨s, hs, -, hends, -⟩ := hclaim (twoBookings 1893495600000 1893499200000) 1 le_rfl (by decide)
    (inSequence_twoBookings (by decide) (by decide)) halfPastTen.now none 0 m₀ m₁
    (runs_of_complete (noFaults_replicate 60 halfPastTen rfl) hboot) hquiet _ hsteps
    (by
      intro a ha
      rw [harmed] at ha
      exact absurd ha List.not_mem_nil)
    (another 1893495600000 1893499200000)
    ⟨by simp [twoBookings], by decide, rfl, by decide⟩
  rw [List.mem_singleton.1 hs] at hends
  have hne : (ObjectID.ofNat 7).hex ≠ (ObjectID.ofNat 8).hex := by decide
  exact hne (hid.symm.trans hends)

end GbcVenue
