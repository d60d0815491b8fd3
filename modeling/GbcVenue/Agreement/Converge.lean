import GbcVenue.Agreement.Current

/-!
# Two reconcile passes repair the cache

The first pass frees every table that shows a booking whose time is over, or leaves it showing what
runs; the second fills what the first has freed. `Settled` is where a table ends up.
-/

namespace GbcVenue

open Interleaving BookingService GoTime Scheduler

/-- At `now` the table is BUSY with booking `id` exactly if that is a live booking of the table whose
window holds `now`, and AVAILABLE exactly if there is none. -/
def ShowsRunning (c : BookingCollection) (ts : Tables) (t now : Int) : Prop :=
  (∀ id, (∃ cb, ts.ShowsBusy t cb ∧ cb.bookingID = id) ↔
    ∃ d ∈ c.docs, d.id.hex = id ∧ d.tableID = t ∧ d.runsAt now) ∧
  ((ts.get t).status = .available ↔ ¬ ∃ d ∈ c.docs, d.tableID = t ∧ d.runsAt now)

/-- The table shows a booking that runs, with its check-out, or it is AVAILABLE and none runs. -/
def Settled (v : Venue) (t now : Int) : Prop :=
  (∃ d ∈ v.bookings.docs, d.tableID = t ∧ d.runsAt now ∧ ∃ cb, v.tables.ShowsBusy t cb ∧
    cb.bookingID = d.id.hex ∧ parseRFC3339 cb.checkOutTime = some (ofUnixMilli d.checkOutTime)) ∨
  ((v.tables.get t).status = .available ∧ ∀ d ∈ v.bookings.docs, d.tableID = t → ¬ d.runsAt now)

/-- What has settled shows what runs, as bookings of a table do not overlap. -/
theorem Settled.showsRunning {v : Venue} {t now : Int} (h : Settled v t now)
    (hc : v.bookings.NoDoubleBooking) : ShowsRunning v.bookings v.tables t now := by
  rcases h with ⟨d, hd, ht, hr, cb, hcb, hid, -⟩ | ⟨hfree, hnone⟩
  · refine ⟨fun id => ⟨?_, ?_⟩, ?_, fun hnone => absurd ⟨d, hd, ht, hr⟩ hnone⟩
    · rintro ⟨cb', hcb', rfl⟩
      rw [Tables.showsBusy_unique hcb' hcb]
      exact ⟨d, hd, hid.symm, ht, hr⟩
    · rintro ⟨e, he, rfl, hte, her⟩
      have heq : e = d := hc.unique he hd (hte.trans ht.symm) (runsAt_of_activeAt.2 her)
        (runsAt_of_activeAt.2 hr)
      exact ⟨cb, hcb, by rw [hid, heq]⟩
    · intro hfree
      rw [hcb.1] at hfree
      cases hfree
  · refine ⟨fun id => ⟨?_, ?_⟩, fun _ => ?_, fun _ => hfree⟩
    · rintro ⟨cb, hcb, -⟩
      rw [hcb.1] at hfree
      cases hfree
    · rintro ⟨d, hd, -, ht, hr⟩
      exact absurd hr (hnone d hd ht)
    · rintro ⟨d, hd, ht, hr⟩
      exact hnone d hd ht hr

/-! ## One table of a pass -/

section

variable {faults : Option String → Prop} {v v' : Venue} {t u now now' : Int}

/-- A pass over one table leaves the others alone. -/
theorem Scheduler.Reconciled.frame (h : Reconciled faults u now now' v v') (hne : t ≠ u) :
    v'.tables.get t = v.tables.get t := by
  cases h with
  | expired hshown hex hre =>
    rw [hre.rearmed.tables]
    exact Tables.get_set_ne v.tables _ hne
  | missed hfree hd hre =>
    rw [hre.rearmed.tables]
    exact Tables.get_set_ne v.tables _ hne
  | _ => rfl

theorem Settled.congr (h : Settled v t now) (hb : v'.bookings = v.bookings)
    (ht : v'.tables.get t = v.tables.get t) : Settled v' t now := by
  unfold Settled Tables.ShowsBusy at *
  rw [hb, ht]
  exact h

/-- A table without a booking settles. -/
theorem settled_of_available (hv : Reconcilable v now) (hfaults : ∀ f, ¬ faults (some f))
    (hfree : (v.tables.get t).status = .available) (hsome : (v.tables t).isSome)
    (h : Reconciled faults t now now' v v') : Settled v' t now := by
  cases h with
  | failed hf => exact absurd hf (hfaults _)
  | unknown hnone =>
    rw [hsome] at hnone
    cases hnone
  | running hcb _ =>
    rw [hcb.1] at hfree
    cases hfree
  | expired hcb _ _ =>
    rw [hcb.1] at hfree
    cases hfree
  | free _ hnone => exact .inr ⟨hfree, fun d hd ht => not_runsAt_of_current_none hnone hd ht⟩
  | @missed d v' _ hd hre =>
    obtain ⟨hmem, ht, hactive⟩ := BookingCollection.current_mem hd
    rw [Settled, hre.rearmed.bookings, hre.rearmed.tables]
    refine .inl ⟨d, hmem, ht, runsAt_of_activeAt.1 hactive, currentBookingOf (docToBooking d), ?_,
      rfl,
      parse_showable (hv.showable d hmem)⟩
    exact Tables.showsBusy_activateTable.2 (by rw [if_pos rfl])
  | other hnot _ => exact absurd hfree hnot

/-- The first pass settles a table or frees it. -/
theorem reconciled_first (hv : Reconcilable v now) (hfaults : ∀ f, ¬ faults (some f)) (h₁ : 1 ≤ t)
    (h₄ : t ≤ 4) (h : Reconciled faults t now now' v v') :
    Settled v' t now ∨ (v'.tables.get t).status = .available := by
  obtain ⟨hsome, hfree | hbusy⟩ := hv.inService t h₁ h₄
  · exact .inl (settled_of_available hv hfaults hfree hsome h)
  · cases h with
    | failed hf => exact absurd hf (hfaults _)
    | unknown hnone =>
      rw [hsome] at hnone
      cases hnone
    | @running cb hcb hex =>
      obtain ⟨d, hd, hid, ht, checkOut, hparse, hcurrent⟩ := hv.shown t cb hcb
      have hlater : now < checkOut := by
        simpa [Scheduler.expired, hparse] using hex
      rcases hcurrent with hover | ⟨hl, hin, rfl⟩
      · omega
      · exact .inl (.inl ⟨d, hd, ht, runsAt_iff.2 ⟨hl, hin, hlater⟩, cb, hcb, hid.symm, hparse⟩)
    | expired hcb hex hre =>
      right
      rw [hre.rearmed.tables]
      show ((v.tables.deactivateTable t).get t).status = .available
      rw [Tables.deactivateTable, Tables.get_set_self]
    | free hfree => exact .inr hfree
    | missed hfree _ _ =>
      exact .inl (settled_of_available hv hfaults hfree hsome (.missed hfree ‹_› ‹_›))
    | other hnot hnone =>
      obtain ⟨cb, hcb⟩ := hbusy
      exact absurd hcb (hnone cb)

/-- The second pass settles what is settled or free. -/
theorem reconciled_second (hv : Reconcilable v now) (hfaults : ∀ f, ¬ faults (some f)) (h₁ : 1 ≤ t)
    (h₄ : t ≤ 4) (hfirst : Settled v t now ∨ (v.tables.get t).status = .available)
    (h : Reconciled faults t now now' v v') : Settled v' t now := by
  obtain ⟨hsome, -⟩ := hv.inService t h₁ h₄
  have havailable : (v.tables.get t).status = .available → Settled v' t now :=
    fun hfree => settled_of_available hv hfaults hfree hsome h
  rcases hfirst with (⟨d, hd, ht, hr, cb, hcb, hid, hparse⟩ | ⟨hfree, -⟩) | hfree
  · have hsame : Settled v t now := .inl ⟨d, hd, ht, hr, cb, hcb, hid, hparse⟩
    cases h with
    | expired hcb' hex _ =>
      rw [Tables.showsBusy_unique hcb' hcb] at hex
      simp only [Scheduler.expired, hparse, decide_eq_true_eq] at hex
      exact absurd (runsAt_iff.1 hr).2.2 (not_lt.2 hex)
    | missed hfree _ _ => exact havailable hfree
    | _ => exact hsame
  · exact havailable hfree
  · exact havailable hfree

/-! ## A whole pass -/

/-- What one table of a pass makes of `P`, on that table, the pass makes of it on all of them, if the
other tables leave it and its outcome alone. -/
theorem Scheduler.ReconciledAll.each {P Q : Int → Venue → Prop} {ts : List Int}
    (hP : ∀ t u v v' now', t ≠ u → Reconciled faults u now now' v v' → P t v → P t v')
    (hQ : ∀ t u v v' now', t ≠ u → Reconciled faults u now now' v v' → Q t v → Q t v')
    (hstep : ∀ t ∈ ts, ∀ v v' now', Reconciled faults t now now' v v' → P t v → Q t v')
    (hts : ts.Nodup) (h : ReconciledAll faults now ts v v') (hv : ∀ t ∈ ts, P t v) :
    ∀ t ∈ ts, Q t v' := by
  have hrest : ∀ {us : List Int} {w w' : Venue} {t : Int}, t ∉ us →
      ReconciledAll faults now us w w' → Q t w → Q t w' := by
    intro us
    induction us with
    | nil =>
      intro w w' t _ h hw
      rw [ReconciledAll] at h
      rw [h]
      exact hw
    | cons u us ih =>
      intro w w' t hmem h hw
      rw [List.mem_cons, not_or] at hmem
      obtain ⟨now', w₁, hfirst, hrest⟩ := h
      exact ih hmem.2 hrest (hQ t u _ _ now' hmem.1 hfirst hw)
  induction ts generalizing v with
  | nil => exact fun t ht => absurd ht List.not_mem_nil
  | cons u us ih =>
    rw [List.nodup_cons] at hts
    obtain ⟨now', v₁, hfirst, hothers⟩ := h
    intro t ht
    rcases List.mem_cons.1 ht with rfl | ht
    · exact hrest hts.1 hothers (hstep t (by simp) _ _ now' hfirst (hv t (by simp)))
    · refine ih (fun t ht => hstep t (List.mem_cons_of_mem _ ht)) hts.2 hothers ?_ t ht
      intro t ht
      have hne : t ≠ u := fun h => hts.1 (h ▸ ht)
      exact hP t u _ _ now' hne hfirst (hv t (List.mem_cons_of_mem _ ht))

/-- What is settled stays so while the same bookings run. -/
theorem Settled.same (h : Settled v t now)
    (hsame : ∀ d ∈ v.bookings.docs, d.tableID = t → (d.runsAt now ↔ d.runsAt now')) :
    Settled v t now' := by
  rcases h with ⟨d, hd, ht, hr, hcb⟩ | ⟨hfree, hnone⟩
  · exact .inl ⟨d, hd, ht, (hsame d hd ht).1 hr, hcb⟩
  · exact .inr ⟨hfree, fun d hd ht hr => hnone d hd ht ((hsame d hd ht).2 hr)⟩

theorem first_pass (hv : Reconcilable v now) (hfaults : ∀ f, ¬ faults (some f))
    (h : ReconciledAll faults now [1, 2, 3, 4] v v') :
    ∀ t, 1 ≤ t → t ≤ 4 → Settled v' t now ∨ (v'.tables.get t).status = .available := by
  have hall := h.each (P := fun _ v => Reconcilable v now)
    (Q := fun t v => Settled v t now ∨ (v.tables.get t).status = .available) ?_ ?_ ?_ (by decide)
    (fun _ _ => hv)
  · exact fun t h₁ h₄ => hall t (tables_of_mem.2 ⟨h₁, h₄⟩)
  · exact fun t u v v' now' _ hre hv => hv.handled le_rfl (hre.handled le_rfl)
  · intro t u v v' now' hne hre hQ
    have hb : v'.bookings = v.bookings := (hre.handled le_rfl).bookings
    rw [hre.frame hne]
    exact hQ.imp_left fun h => h.congr hb (hre.frame hne)
  · intro t ht v v' now' hre hv
    obtain ⟨h₁, h₄⟩ := tables_of_mem.1 ht
    exact reconciled_first hv hfaults h₁ h₄ hre

theorem second_pass (hv : Reconcilable v now) (hfaults : ∀ f, ¬ faults (some f))
    (hfirst : ∀ t, 1 ≤ t → t ≤ 4 → Settled v t now ∨ (v.tables.get t).status = .available)
    (h : ReconciledAll faults now [1, 2, 3, 4] v v') :
    ∀ t, 1 ≤ t → t ≤ 4 → Settled v' t now := by
  have hall := h.each (Q := fun t v => Settled v t now)
    (P := fun t v => Reconcilable v now ∧ (Settled v t now ∨ (v.tables.get t).status = .available))
    ?_ ?_ ?_ (by decide) ?_
  · exact fun t h₁ h₄ => hall t (tables_of_mem.2 ⟨h₁, h₄⟩)
  · rintro t u v v' now' hne hre ⟨hv, hQ⟩
    have hh := hre.handled (le_refl now)
    rw [hre.frame hne]
    exact ⟨hv.handled le_rfl hh, hQ.imp_left fun h => h.congr hh.bookings (hre.frame hne)⟩
  · exact fun t u v v' now' hne hre h =>
      h.congr (hre.handled (le_refl now)).bookings (hre.frame hne)
  · rintro t ht v v' now' hre ⟨hv, hfirst⟩
    obtain ⟨h₁, h₄⟩ := tables_of_mem.1 ht
    exact reconciled_second hv hfaults h₁ h₄ hfirst hre
  · intro t ht
    obtain ⟨h₁, h₄⟩ := tables_of_mem.1 ht
    exact ⟨hv, hfirst t h₁ h₄⟩

end

theorem Happens.noDoubleBooking {E : Env → Prop} {ev : Event} {m m' : Timed World Int}
    (h : Happens E ev m m')
    (hstored : ∀ a ∈ m.state.armed, Stored a.bookingID a.key.tableID m.state.bookings)
    (hc : m.state.bookings.NoDoubleBooking) : m'.state.bookings.NoDoubleBooking := by
  rcases h.effect hstored with ⟨req, r, -, heffect⟩ | hh | hh
  · exact heffect.store.noDoubleBooking hc
  · have hb : m'.state.bookings = m.state.bookings := hh.bookings
    rw [hb]
    exact hc
  · have hb : m'.state.bookings = m.state.bookings := hh.bookings
    rw [hb]
    exact hc

theorem noDoubleBooking_of_run {E : Env → Prop} {c : BookingCollection}
    (hshow : ∀ d ∈ c.docs, Showable (ofUnixMilli d.checkOutTime)) (hc : c.NoDoubleBooking)
    {config : Option VenueConfig} {offset now : Int} {m : Timed World Int}
    (h : Relation.ReflTransGen (HappensInPlace E) ⟨World.start c config offset, now⟩ m) :
    m.state.bookings.NoDoubleBooking := by
  induction h with
  | refl => exact hc
  | tail hrun hstep ih =>
    obtain ⟨ev, start, -, hev, -⟩ := hstep
    exact hev.noDoubleBooking (reconcilable_of_run hshow hrun).timers ih

/-- After every run whose events keep the cache current, two reconcile passes without database
failures and without a boundary in between leave each table of the venue showing what runs. -/
theorem reconcile_converges {E : Env → Prop} {c : BookingCollection}
    (hshow : ∀ d ∈ c.docs, Showable (ofUnixMilli d.checkOutTime)) (hc : c.NoDoubleBooking)
    {config : Option VenueConfig} {offset now : Int} {m m₁ m₂ : Timed World Int}
    (hrun : Relation.ReflTransGen (HappensInPlace E) ⟨World.start c config offset, now⟩ m)
    {start₁ start₂ : Int} (h₁ : m.clock ≤ start₁)
    (hpass₁ : Happens noFaults .reconcile ⟨m.state, start₁⟩ m₁) (h₂ : m₁.clock ≤ start₂)
    (hpass₂ : Happens noFaults .reconcile ⟨m₁.state, start₂⟩ m₂)
    (hquiet : ∀ t, 1 ≤ t → t ≤ 4 → NoBoundary m.state.bookings t start₁ m₂.clock) :
    ∀ t, 1 ≤ t → t ≤ 4 → ShowsRunning m₂.state.bookings m₂.state.tables t m₂.clock := by
  have hv := reconcilable_of_run hshow hrun
  have hdisjoint := noDoubleBooking_of_run hshow hc hrun
  cases hpass₁ with
  | reconcile hrun₁ =>
  cases hpass₂ with
  | reconcile hrun₂ =>
  obtain ⟨now₁, hnow₁, hle₁, hre₁⟩ := runs_reconcile (hrun₁.simulate (venue_simulates noFaults))
  obtain ⟨now₂, hnow₂, hle₂, hre₂⟩ := runs_reconcile (hrun₂.simulate (venue_simulates noFaults))
  simp only [venueAt] at hnow₁ hle₁ hre₁ hnow₂ hle₂ hre₂
  have hb₁ : m₁.state.bookings = m.state.bookings := (hre₁.handled (le_refl now₁)).bookings
  have hb₂ : m₂.state.bookings = m₁.state.bookings := (hre₂.handled (le_refl now₂)).bookings
  have hv₁ := hv.mono (h₁.trans hnow₁)
  have hfirst := first_pass hv₁ not_faultsOf_noFaults hre₁
  have hv₂ := hv₁.handled le_rfl (hre₁.handled (le_refl now₁))
  have hle : now₁ ≤ now₂ := hle₁.trans (h₂.trans hnow₂)
  have hfirst₂ : ∀ t, 1 ≤ t → t ≤ 4 → Settled m₁.state.venue t now₂ ∨
      (m₁.state.venue.tables.get t).status = .available := by
    intro t h₁ h₄
    refine (hfirst t h₁ h₄).imp_left fun h => h.same fun d hd ht => ?_
    have hd : d ∈ m.state.bookings.docs := by
      rw [← hb₁]
      exact hd
    exact (hquiet t h₁ h₄).runsAt_iff hnow₁ hle hle₂ hd ht
  intro t h₁ h₄
  have hsecond := second_pass (hv₂.mono hle) not_faultsOf_noFaults hfirst₂ hre₂ t h₁ h₄
  refine (hsecond.same fun d hd ht => ?_).showsRunning ?_
  · have hd : d ∈ m.state.bookings.docs := by
      rw [← hb₁, ← hb₂]
      exact hd
    exact (hquiet t h₁ h₄).runsAt_iff (hnow₁.trans hle) hle₂ le_rfl hd ht
  · show m₂.state.bookings.NoDoubleBooking
    rw [hb₂, hb₁]
    exact hdisjoint

/-! ## Runs on fixed inputs -/

theorem showable_tenToEleven :
    ∀ d ∈ tenToElevenStored.bookings.docs, Showable (ofUnixMilli d.checkOutTime) := by
  intro d hd
  obtain rfl := List.mem_singleton.1 hd
  exact ⟨by decide, by decide, by decide⟩

/-- Two reconcile passes at the moment of `e`. -/
def reconcileTwice (e : Env) (m : Timed World Int) :
    Option (Timed World Int × Timed World Int) := do
  let m₁ ← Event.reconcile.exec (List.replicate 40 e) ⟨m.state, e.now⟩
  let m₂ ← Event.reconcile.exec (List.replicate 40 e) ⟨m₁.state, e.now⟩
  return (m₁, m₂)

/-- The check-out of the running booking is brought forward, its end timer is lost, and two passes
come after it. -/
theorem reconcile_converges_lost_timer : ∃ m : Timed World Int,
    m.state.armed = [] ∧ ∀ t, 1 ≤ t → t ≤ 4 →
      ShowsRunning m.state.bookings m.state.tables t elevenOClock.now := by
  have hrun : (do
      let (m₁, m₂) ← bootThenUpdate "2030-01-01T10:45:00Z"
      let m₃ ← (Event.loseTimer 0).exec [] m₂
      let (m₄, m₅) ← reconcileTwice elevenOClock m₃
      return (m₁.state.bookings.docs, (m₁.clock, m₂.clock), (m₄.clock, m₅.clock),
        m₅.state.armed)) = some ([tenToEleven .active], (halfPastTen.now, halfPastTen.now),
        (elevenOClock.now, elevenOClock.now), []) := by
    decide +kernel
  simp only [bootThenUpdate, reconcileTwice, Option.bind_eq_bind, Option.bind_eq_some_iff,
    Option.pure_def, Option.some.injEq, Prod.mk.injEq] at hrun
  obtain ⟨_, ⟨⟨w₁, now₁⟩, hboot, ⟨w₂, now₂⟩, hupdate, rfl⟩, m₃, hlose, _, ⟨m₄, hpass₁, m₅, hpass₂,
    rfl⟩, hdocs, ⟨hclock₁, hclock₂⟩, ⟨hclock₄, hclock₅⟩, harmed⟩ := hrun
  simp only at hboot hupdate hpass₁ hpass₂ hdocs hclock₁ hclock₂ hclock₄ hclock₅ harmed
  subst hclock₁ hclock₂
  cases hlose
  have hall : ∀ (e : Env), e ∈ List.replicate 60 halfPastTen → True := fun _ _ => trivial
  have hnone := noFaults_replicate 40 elevenOClock rfl
  have hupdate_ok : KeepsCurrent w₁.venue halfPastTen.now halfPastTen.now
      (.request (.update (ObjectID.ofNat 7).hex (untilCheckOut "2030-01-01T10:45:00Z"))) := by
    intro d hd _ newIn newOut hwindow
    simp only [World.venue, hdocs, List.mem_singleton] at hd
    subst hd
    rw [requestedWindow_quarterToEleven, Except.ok.injEq, Option.some.injEq, Prod.mk.injEq] at hwindow
    obtain ⟨rfl, rfl⟩ := hwindow
    exact ⟨⟨by decide, by decide, by decide⟩, fun _ _ _ _ _ => .inr ⟨by decide, .inl (by decide)⟩⟩
  have hquiet : ∀ t, 1 ≤ t → t ≤ 4 →
      NoBoundary (w₂.loseTimer 0).bookings t elevenOClock.now m₅.clock := by
    intro t _ _ d _ _ _
    rw [hclock₅, Set.Ioc_self]
    exact ⟨fun h => h, fun h => h⟩
  have hreach : Relation.ReflTransGen (HappensInPlace fun _ => True)
      ⟨tenToElevenStored, halfPastTen.now⟩ ⟨w₂.loseTimer 0, halfPastTen.now⟩ :=
    .tail (.tail (.single ⟨.restart, _, le_rfl, happens_of_exec hall hboot, trivial⟩)
      ⟨_, _, le_rfl, happens_of_exec hall hupdate, hupdate_ok⟩)
      ⟨.loseTimer 0, _, le_rfl, .loseTimer 0 w₂ _, trivial⟩
  refine ⟨m₅, harmed, ?_⟩
  rw [← hclock₅]
  exact reconcile_converges showable_tenToEleven noDoubleBooking_tenToEleven hreach
    (show halfPastTen.now ≤ elevenOClock.now by decide) (happens_of_exec hnone hpass₁) hclock₄.le
    (happens_of_exec hnone hpass₂) hquiet

/-- Without that condition it fails: the running booking is moved to end in the past, and its table
stays BUSY with it through both passes. -/
theorem reconcile_can_miss :
    ¬ ∀ (c : BookingCollection), (∀ d ∈ c.docs, Showable (ofUnixMilli d.checkOutTime)) →
      c.NoDoubleBooking →
      ∀ (config : Option VenueConfig) (offset now : Int) (m m₁ m₂ : Timed World Int),
      Relation.ReflTransGen (fun m m' => ∃ ev start, m.clock ≤ start ∧
        Happens (fun _ => True) ev ⟨m.state, start⟩ m') ⟨World.start c config offset, now⟩ m →
      ∀ start₁ start₂, m.clock ≤ start₁ → Happens noFaults .reconcile ⟨m.state, start₁⟩ m₁ →
      m₁.clock ≤ start₂ → Happens noFaults .reconcile ⟨m₁.state, start₂⟩ m₂ →
      (∀ t, 1 ≤ t → t ≤ 4 → NoBoundary m.state.bookings t start₁ m₂.clock) →
      ∀ t, 1 ≤ t → t ≤ 4 → ShowsRunning m₂.state.bookings m₂.state.tables t m₂.clock := by
  intro hclaim
  let moved : BookingDoc :=
    { tenToEleven .active with checkOutTime := 1893492900000, durationMinutes := 15 }
  have hrun : (do
      let (_, m) ← bootThenUpdate "2030-01-01T10:15:00Z"
      let (m₁, m₂) ← reconcileTwice halfPastTen m
      return (m.clock, m₁.clock, m₂.clock, m₂.state.bookings.docs,
        (m₂.state.tables.get 1).status)) = some
      (halfPastTen.now, halfPastTen.now, halfPastTen.now, [moved], .busy) := by
    decide +kernel
  simp only [bootThenUpdate, reconcileTwice, Option.bind_eq_bind, Option.bind_eq_some_iff,
    Option.pure_def, Option.some.injEq, Prod.mk.injEq] at hrun
  obtain ⟨_, ⟨m₀, hboot, m, hupdate, rfl⟩, _, ⟨m₁, hpass₁, m₂, hpass₂, rfl⟩, hclock, hclock₁,
    hclock₂, hdocs, hstatus⟩ := hrun
  simp only at hpass₁ hclock hclock₁ hclock₂ hdocs hstatus
  have hall : ∀ (e : Env), e ∈ List.replicate 60 halfPastTen → True := fun _ _ => trivial
  have hnone := noFaults_replicate 40 halfPastTen rfl
  have hquiet : ∀ t, 1 ≤ t → t ≤ 4 →
      NoBoundary m.state.bookings t halfPastTen.now m₂.clock := by
    intro t _ _ d _ _ _
    rw [hclock₂, Set.Ioc_self]
    exact ⟨fun h => h, fun h => h⟩
  have hshows := hclaim tenToElevenStored.bookings showable_tenToEleven noDoubleBooking_tenToEleven
    none 0 halfPastTen.now m m₁ m₂
    (.tail (.single ⟨.restart, _, le_rfl, happens_of_exec hall hboot⟩)
      ⟨_, _, le_rfl, happens_of_exec hall hupdate⟩)
    _ _ hclock.le (happens_of_exec hnone hpass₁) hclock₁.le (happens_of_exec hnone hpass₂) hquiet
    1 le_rfl (by decide)
  have havailable : (m₂.state.tables.get 1).status = .available := by
    refine hshows.2.2 ?_
    rw [hdocs]
    rintro ⟨d, hd, -, hr⟩
    obtain rfl := List.mem_singleton.1 hd
    rw [hclock₂] at hr
    exact absurd (runsAt_iff.1 hr).2.2 (by decide)
  rw [hstatus] at havailable
  cases havailable

end GbcVenue
