import GbcVenue.Agreement.Follows

/-!
# Timers follow booking mutations

`RescheduleTable` is there to be called after any booking mutation, and no booking request calls it.
So the timers of a table stay right as long as requests leave alone what the table waits for: the
check-out of the booking that runs or, where none runs or none is shown, the next check-in.
-/

namespace GbcVenue

open Interleaving BookingService GoTime Scheduler

/-! ## Requests -/

/-- What a request that ends at `stop` leaves of the store and the cache keeps the timers right: it
has nothing to do with the table; or no booking is left on it; or no timer is due, and the same
booking runs until the same check-out, the table is BUSY with the same booking as before, and the
next check-in is the same, unless the running booking is shown. -/
inductive Spared (t slack stop : Int) (v : Venue) (c : BookingCollection) (ts : Tables) : Prop
  | elsewhere (hdocs : ∀ d, d.tableID = t → (d ∈ c.docs ↔ d ∈ v.bookings.docs))
      (htable : ts.get t = v.tables.get t)
  | nothingLeft (hcurrent : c.current t stop = none) (hnext : c.upcoming t stop = none)
  | same (hquiet : ∀ a ∈ v.armedOn t, stop + slack < a.deadline)
      (hcurrent : (c.current t stop).map (fun d => (d.id, d.checkOutTime)) =
        (v.bookings.current t stop).map fun d => (d.id, d.checkOutTime))
      (hshown : ts.busyWith t = v.tables.busyWith t)
      (hnext : v.bookings.current t stop = none ∨ v.tables.busyWith t = none →
        (c.upcoming t stop).map BookingDoc.checkInTime =
          (v.bookings.upcoming t stop).map BookingDoc.checkInTime)

/-- Every answer that the request can have, between `start` and `stop`, spares the table. -/
def Spares (faults : Option String → Prop) (t slack start stop : Int) (v : Venue) (req : Request) :
    Prop :=
  ∀ r c, SpecStep faults req v.bookings r c → ∀ now, start ≤ now → now ≤ stop →
    Spared t slack stop v c (req.synced r now v.tables)

section

variable {t slack clock stop : Int} {v v' : Venue} {c : BookingCollection} {ts : Tables}

theorem Follows.elsewhere (h : Follows t slack clock v)
    (hdocs : ∀ d, d.tableID = t → (d ∈ c.docs ↔ d ∈ v.bookings.docs))
    (htable : ts.get t = v.tables.get t) :
    Follows t slack clock { v with bookings := c, tables := ts } := by
  have hbusy : ts.busyWith t = v.tables.busyWith t := by
    unfold Tables.busyWith
    rw [htable]
  have hbegun : ∀ {now}, AllBegun v.bookings t now → AllBegun c t now :=
    fun h e he hl ht => h e ((hdocs e ht).1 he) hl ht
  cases h with
  | ending hd hl ht hin harmed hdue hshown =>
    rw [← hbusy] at hshown
    exact .ending ((hdocs _ ht).2 hd) hl ht hin harmed hdue hshown
  | starting hd hl ht harmed hdue hnext hshown =>
    exact .starting ((hdocs _ ht).2 hd) hl ht harmed hdue
      (fun e he hel het => hnext e ((hdocs e het).1 he) hel het) (hbusy.trans hshown)
  | idle hcount hall hshown =>
    rw [← hbusy] at hshown
    refine .idle hcount (hbegun hall) (hshown.imp_right fun hover => ⟨hbegun hover.1, ?_⟩)
    exact fun e he hl ht => hover.2 e ((hdocs e ht).1 he) hl ht

theorem Follows.spared (h : Follows t slack clock v) (hno : v.bookings.NoDoubleBooking)
    (hclock : clock ≤ stop) (hspared : Spared t slack stop v c ts) :
    Follows t slack stop { v with bookings := c, tables := ts } := by
  cases hspared with
  | elsewhere hdocs htable => exact (h.mono hclock).elsewhere hdocs htable
  | nothingLeft hcurrent hnext =>
    exact .idle h.count (allBegun_iff.2 hnext) (.inr (allOver_of_none hnext hcurrent))
  | same hquiet hcurrent hbusy hnext =>
    cases h with
    | @ending d n deadline hd hl ht hin harmed hdue hshown =>
      have hlater : stop < ofUnixMilli d.checkOutTime := by
        have hlate := hquiet ⟨n, endKey t, d.id.hex, deadline⟩ (by rw [harmed]; simp)
        have hle := hdue.2
        simp only at hlate
        omega
      have hr : d.runsAt stop := runsAt_iff.2 ⟨hl, hin.trans hclock, hlater⟩
      have hd₀ : v.bookings.current t stop = some d := by
        cases hnone : v.bookings.current t stop with
        | none => exact absurd hr (not_runsAt_of_current_none hnone hd ht)
        | some e =>
          obtain ⟨he, het, hactive⟩ := BookingCollection.current_mem hnone
          rw [hno.unique he hd (het.trans ht.symm) hactive (runsAt_of_activeAt.2 hr)]
      rw [hd₀, Option.map_some, Option.map_eq_some_iff] at hcurrent
      obtain ⟨d', hd', heq⟩ := hcurrent
      obtain ⟨hid, hout⟩ := Prod.mk.inj heq
      obtain ⟨hmem, ht', hactive⟩ := BookingCollection.current_mem hd'
      obtain ⟨hl', hin', -⟩ := runsAt_iff.1 (runsAt_of_activeAt.1 hactive)
      rw [← hid] at harmed hshown
      rw [← hout] at hdue
      rw [← hbusy] at hshown
      exact .ending hmem hl' ht' hin' harmed hdue hshown
    | @starting d n id deadline hd hl ht harmed hdue hfirst hshown =>
      have hlater : stop < ofUnixMilli d.checkInTime := by
        have hlate := hquiet ⟨n, startKey t, id, deadline⟩ (by rw [harmed]; simp)
        have hle := hdue.2
        simp only at hlate
        omega
      have hsame := hnext (.inr hshown)
      cases hup : v.bookings.upcoming t stop with
      | none => exact absurd (allBegun_iff.2 hup d hd hl ht) hlater.not_ge
      | some f =>
        have hf := next_checkIn hd hl ht hfirst hclock hlater hup
        rw [hup, Option.map_some, hf, Option.map_eq_some_iff] at hsame
        obtain ⟨d', hd', hin⟩ := hsame
        obtain ⟨hmem, ht', hl', -⟩ := BookingCollection.upcoming_mem hd'
        rw [← hin] at hdue
        refine .starting hmem hl' ht' harmed hdue ?_ (hbusy.trans hshown)
        intro e he hel het
        by_cases hbegun : ofUnixMilli e.checkInTime ≤ stop
        · exact .inl hbegun
        · refine .inr (BookingCollection.upcoming_le hd' he het hel (unixMilli_lt.2 ?_))
          exact not_le.1 hbegun
    | idle hcount hbegun hshown =>
      have hnone : v.bookings.current t stop = none ∨ v.tables.busyWith t = none :=
        hshown.symm.imp_left fun hover => (hover.mono hclock).current_none
      have hup := hnext hnone
      rw [allBegun_iff.1 (hbegun.mono hclock), Option.map_none, Option.map_eq_none_iff] at hup
      refine .idle hcount (allBegun_iff.2 hup) ?_
      rcases hshown with hshown | hover
      · exact .inl (hbusy.trans hshown)
      · rw [(hover.mono hclock).current_none, Option.map_none, Option.map_eq_none_iff] at hcurrent
        exact .inr (allOver_of_none hup hcurrent)

end

/-! ## Runs -/

/-- A request that begins at `start` and that `Q` allows, or a timer that fires after `start` and
whose callback ends within `slack` of it. -/
inductive Mutation (E : Env → Prop) (slack : Int) (Q : Int → Int → Venue → Request → Prop)
    (m m' : Timed World Int) : Prop
  | request {start : Int} {req : Request} {r : Reply} (hclock : m.clock ≤ start)
      (hrun : Prog.Runs (backend E) 0 req.program ⟨m.state, start⟩ r m')
      (hreq : Q start m'.clock m.state.venue req)
  | fire {start : Int} {a : ArmedTimer} (hclock : m.clock ≤ start)
      (hfire : Fires noFaults ⟨m.state, start⟩ a m') (hslack : m'.clock ≤ start + slack)

/-- What holds between the steps of a run. -/
structure FollowInv (t slack : Int) (m : Timed World Int) : Prop where
  noDouble : m.state.bookings.NoDoubleBooking
  wellArmed : WellArmed m.state.venue
  stored : ∀ a ∈ m.state.armed, Stored a.bookingID a.key.tableID m.state.bookings
  follows : Follows t slack m.clock m.state.venue

section

variable {E : Env → Prop} {c : BookingCollection} {t slack start : Int} {m m' : Timed World Int}

/-- The process boots while no booking of the table starts or ends. -/
theorem followInv_boot {config : Option VenueConfig} {offset : Int} (hno : c.NoDoubleBooking)
    (h₁ : 1 ≤ t) (h₄ : t ≤ 4)
    (hrun : Prog.Runs (backend noFaults) 0 Scheduler.boot ⟨World.start c config offset, start⟩ () m)
    (hquiet : NoBoundary c t start m.clock) (hslack : m.clock ≤ start + slack) :
    FollowInv t slack m := by
  have hvenue := hrun.simulate (venue_simulates noFaults)
  have hunique : ∀ now, ∀ d ∈ c.docs, ∀ e ∈ c.docs, d.tableID = t → e.tableID = t →
      d.runsAt now → e.runsAt now → d = e := by
    intro now d hd e he ht ht' hdr her
    exact hno.unique hd he (ht.trans ht'.symm) (runsAt_of_activeAt.2 hdr)
      (runsAt_of_activeAt.2 her)
  obtain ⟨now, v, v', hstart, hstop, hhydrated, hsched, hafter⟩ :=
    boot_at hunique h₁ h₄ hrun hquiet
  have hpunctual := (prompt_boot hvenue).punctual (t := t) rfl hslack
  have hb : m.state.bookings = c :=
    (hafter.bookings.trans hsched.rearmed.bookings).trans hhydrated.bookings
  refine ⟨by rw [hb]; exact hno, hafter.wellArmed, ?_, ?_⟩
  · have hhandled : Handled m.clock (World.start c config offset).venue m.state.venue := by
      obtain ⟨v₀, now₀, -, hnow₀, hv₀, hre⟩ := runs_boot hvenue
      refine Handled.trans ?_ hre.rearmed.handled
      rcases hv₀ with ⟨-, rfl⟩ | ⟨now₁, -, hnow₁, rfl⟩
      · exact (Rearmed.refl _).handled
      · exact handled_hydrated _ (hnow₁.trans hnow₀)
    intro a ha
    rcases hhandled.armed a ha with hold | ⟨d, hd, hid, ht, -⟩
    · exact absurd hold List.not_mem_nil
    · rw [hb]
      exact ⟨d, hd, hid.symm, ht⟩
  · refine (follows_rescheduled not_faultsOf_noFaults hhydrated.armed ?_ hstart hstop
      (hpunctual.apart hafter) hsched).apart hafter
    rw [hhydrated.bookings]
    cases hcurrent : c.current t now with
    | none =>
      have hfree := hhydrated.free fun d hd ht => not_runsAt_of_current_none hcurrent hd ht
      exact .inl (by simp [Tables.busyWith, hfree])
    | some d =>
      obtain ⟨hd, ht, hactive⟩ := BookingCollection.current_mem hcurrent
      have hshown := hhydrated.shown d hd ht (runsAt_of_activeAt.1 hactive)
      exact .inr (.inr ⟨d, rfl, busyWith_eq_some.2 ⟨_, hshown, rfl⟩⟩)

theorem FollowInv.request {req : Request} {r : Reply} (h : FollowInv t slack m)
    (hclock : m.clock ≤ start) (hrun : Prog.Runs (backend E) 0 req.program ⟨m.state, start⟩ r m')
    (hreq : Spares (faultsOf E) t slack start m'.clock m.state.venue req) :
    FollowInv t slack m' := by
  have heffect := runs_request (hrun.simulate (venue_simulates E))
  have harmed : m'.state.armed = m.state.armed := heffect.armed
  refine ⟨heffect.store.noDoubleBooking h.noDouble, ?_, ?_, ?_⟩
  · refine h.wellArmed.fewer (fun a ha => ?_) (fun key n hn => ?_) heffect.nextTimer
    · show a ∈ m.state.armed
      rw [← harmed]
      exact ha
    · have htimers : m'.state.venue.timers = m.state.venue.timers := heffect.timers
      rwa [htimers] at hn
  · intro a ha
    rw [harmed] at ha
    exact (h.stored a ha).persists heffect.store.persists
  · obtain ⟨now, hstart, hstop, hstate⟩ := heffect.state_eq
    simp only [venueAt] at hstart hstop hstate
    rw [hstate]
    exact h.follows.spared h.noDouble (hclock.trans (hstart.trans hstop))
      (hreq r _ heffect.store now hstart hstop)

theorem FollowInv.fire {a : ArmedTimer} (h : FollowInv t slack m) (hclock : m.clock ≤ start)
    (hfire : Fires noFaults ⟨m.state, start⟩ a m') (hslack : m'.clock ≤ start + slack) :
    FollowInv t slack m' := by
  obtain ⟨ha, now, -, -, hstop, hfired⟩ := hfire.effect
  have hother := hfired.apart (t := a.key.tableID + 1) h.wellArmed ha (by omega)
  have hb : m'.state.bookings = m.state.bookings := hother.bookings
  refine ⟨by rw [hb]; exact h.noDouble, hother.wellArmed, ?_, ?_⟩
  · intro b hmem
    rw [hb]
    rcases (hfired.handled hstop (h.stored a ha)).armed b hmem with hold | ⟨d, hd, hid, ht, -⟩
    · exact h.stored b hold
    · exact ⟨d, hd, hid.symm, ht⟩
  · exact Follows.fires (m := ⟨m.state, start⟩) h.follows h.wellArmed h.stored hclock hslack hfire

theorem followInv_of_run {m₀ : Timed World Int} (h : FollowInv t slack m₀)
    (hrun : Relation.ReflTransGen (Mutation E slack (Spares (faultsOf E) t slack)) m₀ m) :
    FollowInv t slack m := by
  induction hrun with
  | refl => exact h
  | tail _ hstep ih =>
    cases hstep with
    | request hclock hrun hreq => exact ih.request hclock hrun hreq
    | fire hclock hfire hslack => exact ih.fire hclock hfire hslack

end

/-- A process boots while no booking of the table starts or ends; from then on there are requests
and timer callbacks, in any order. If each request spares what the table waits for, then whenever no
timer of the table is due its timers are right. -/
theorem timers_follow_mutations {E : Env → Prop} {c : BookingCollection} {t : Int} (h₁ : 1 ≤ t)
    (h₄ : t ≤ 4) (hno : c.NoDoubleBooking) {start slack : Int} {config : Option VenueConfig}
    {offset : Int} {m₀ m : Timed World Int}
    (hboot : Prog.Runs (backend noFaults) 0 Scheduler.boot ⟨World.start c config offset, start⟩ () m₀)
    (hquiet : NoBoundary c t start m₀.clock) (hslack : m₀.clock ≤ start + slack)
    (hrun : Relation.ReflTransGen (Mutation E slack (Spares (faultsOf E) t slack)) m₀ m) {now : Int}
    (hnow : m.clock ≤ now) (hdue : ∀ a ∈ m.state.venue.armedOn t, now + slack < a.deadline) :
    TimersFollow slack t now m.state.venue :=
  (followInv_of_run (followInv_boot hno h₁ h₄ hboot hquiet hslack) hrun).follows.timersFollow hnow
    hdue

/-! ## Runs on fixed inputs -/

theorem busyWith_updateCurrentBooking {ts : Tables} {t : Int} {cb : CurrentBooking} :
    (ts.updateCurrentBooking t cb).busyWith t = (ts.busyWith t).map fun _ => cb.bookingID := by
  cases hbusy : ts.busyWith t with
  | none =>
    cases hnew : (ts.updateCurrentBooking t cb).busyWith t with
    | none => rfl
    | some id =>
      obtain ⟨cb', hcb', -⟩ := busyWith_eq_some.1 hnew
      rw [Tables.showsBusy_updateCurrentBooking, if_pos rfl] at hcb'
      obtain ⟨⟨cb₀, hcb₀⟩, -⟩ := hcb'
      rw [busyWith_eq_some.2 ⟨cb₀, hcb₀, rfl⟩] at hbusy
      cases hbusy
  | some id =>
    obtain ⟨cb₀, hcb₀, -⟩ := busyWith_eq_some.1 hbusy
    refine busyWith_eq_some.2 ⟨cb, ?_, rfl⟩
    rw [Tables.showsBusy_updateCurrentBooking, if_pos rfl]
    exact ⟨⟨cb₀, hcb₀⟩, rfl⟩

/-- A request to give the sample another name. -/
def renameTenToEleven : Request :=
  .update (ObjectID.ofNat 7).hex ⟨some "Bob", none, "", "", none, none⟩

/-- At half past ten the sample runs and is shown, and its end timer is armed: another name for the
sample spares the table. -/
theorem spares_rename {faults : Option String → Prop} {v : Venue}
    (hdocs : v.bookings.docs = [tenToEleven .active])
    (hquiet : ∀ a ∈ v.armedOn 1, halfPastTen.now + 0 < a.deadline)
    (hbusy : v.tables.busyWith 1 = some (ObjectID.ofNat 7).hex) :
    Spares faults 1 0 halfPastTen.now halfPastTen.now v renameTenToEleven := by
  intro r c h now hstart hstop
  cases h with
  | @updated _ _ _ d window hd hid hl hwindow hfree =>
    rw [hdocs, List.mem_singleton] at hd
    subst hd
    cases hwindow
    refine .same hquiet ?_ ?_ ?_
    · simp only [BookingCollection.current, BookingCollection.replaceOne, hdocs]
      decide
    · rw [hbusy]
      show ((Request.sync _ now v.tables renameTenToEleven).busyWith 1) = _
      rw [renameTenToEleven, Request.sync]
      split
      · exact (busyWith_updateCurrentBooking (t := 1)).trans (by rw [hbusy]; rfl)
      · exact hbusy
    · intro _
      simp only [BookingCollection.upcoming, BookingCollection.replaceOne, hdocs]
      decide
  | _ => exact .elsewhere (fun _ _ => Iff.rfl) rfl

/-- The process boots at half past ten over the sample, and the sample gets another name. -/
theorem timers_follow_mutations_rename : ∃ m : Timed World Int,
    (m.state.bookings.docs.map BookingDoc.bookerName = ["Bob"]) ∧
      TimersFollow 0 1 halfPastTen.now m.state.venue := by
  have hrun : (do
      let booted ← complete (List.replicate 60 halfPastTen) Scheduler.boot
        ⟨tenToElevenStored, halfPastTen.now⟩
      let renamed ← complete (List.replicate 60 halfPastTen) renameTenToEleven.program booted.2
      let (m₀, m) := (booted.2, renamed.2)
      return ((m₀.clock, m.clock), m₀.state.bookings.docs, m₀.state.tables.busyWith 1,
        ((m₀.state.armed ++ m.state.armed).map ArmedTimer.deadline),
        m.state.bookings.docs.map BookingDoc.bookerName)) =
      some ((halfPastTen.now, halfPastTen.now), [tenToEleven .active],
        some (ObjectID.ofNat 7).hex, [elevenOClock.now, elevenOClock.now], ["Bob"]) := by
    decide +kernel
  simp only [Option.bind_eq_bind, Option.bind_eq_some_iff, Option.pure_def, Option.some.injEq,
    Prod.mk.injEq] at hrun
  obtain ⟨⟨_, m₀⟩, hboot, ⟨r, m⟩, hrename, ⟨hclock₀, hclock⟩, hdocs, hbusy, harmed, hname⟩ := hrun
  have hdue : ∀ a ∈ m₀.state.armed ++ m.state.armed, halfPastTen.now + 0 < a.deadline := by
    intro a ha
    have hmem := List.mem_map_of_mem (f := ArmedTimer.deadline) ha
    rw [harmed, List.mem_pair, or_self] at hmem
    rw [hmem]
    decide
  have hall := noFaults_replicate 60 halfPastTen rfl
  refine ⟨m, hname, ?_⟩
  refine timers_follow_mutations (E := noFaults) (m := m) le_rfl (by decide)
    noDoubleBooking_tenToEleven (runs_of_complete hall hboot) ?_ (by rw [hclock₀, Int.add_zero])
    (.single (.request (by rw [hclock₀]) (runs_of_complete hall hrename) ?_)) (by rw [hclock]) ?_
  · intro d _ _ _
    rw [hclock₀, Set.Ioc_self]
    exact ⟨fun h => h, fun h => h⟩
  · rw [hclock₀, hclock]
    refine spares_rename hdocs (fun a ha => hdue a ?_) hbusy
    exact List.mem_append_left _ (Venue.mem_armedOn.1 ha).1
  · intro a ha
    exact hdue a (List.mem_append_right _ (Venue.mem_armedOn.1 ha).1)

/-- Without that condition it fails: a booking made after the boot has no start timer. -/
theorem timers_can_miss_mutations :
    ¬ ∀ (c : BookingCollection) (t : Int), 1 ≤ t → t ≤ 4 → c.NoDoubleBooking →
      ∀ (start slack : Int) (config : Option VenueConfig) (offset : Int) (m₀ m : Timed World Int),
      Prog.Runs (backend noFaults) 0 Scheduler.boot ⟨World.start c config offset, start⟩ () m₀ →
      NoBoundary c t start m₀.clock → m₀.clock ≤ start + slack →
      Relation.ReflTransGen (Mutation noFaults slack fun _ _ _ _ => True) m₀ m →
      ∀ now, m.clock ≤ now → (∀ a ∈ m.state.venue.armedOn t, now + slack < a.deadline) →
        TimersFollow slack t now m.state.venue := by
  intro hclaim
  have hrun : (do
      let booted ← complete (List.replicate 60 nineOClock) Scheduler.boot
        ⟨World.start .empty none 0, nineOClock.now⟩
      let created ← complete (List.replicate 60 nineOClock)
        (Request.create askTenToEleven "ann" "admin").program booted.2
      let (m₀, m) := (booted.2, created.2)
      return ((m₀.clock, m.clock), m.state.armed.length,
        (m.state.bookings.upcoming 1 nineOClock.now).map BookingDoc.checkInTime,
        m.state.bookings.current 1 nineOClock.now)) =
      some ((nineOClock.now, nineOClock.now), 0, some 1893492000000, none) := by
    decide +kernel
  simp only [Option.bind_eq_bind, Option.bind_eq_some_iff, Option.pure_def, Option.some.injEq,
    Prod.mk.injEq, List.length_eq_zero_iff, Option.map_eq_some_iff] at hrun
  obtain ⟨⟨_, m₀⟩, hboot, ⟨r, m⟩, hcreate, ⟨hclock₀, hclock⟩, harmed, ⟨d, hd, -⟩, hcurrent⟩ := hrun
  have hall := noFaults_replicate 60 nineOClock rfl
  have hfollow := hclaim .empty 1 le_rfl (by decide) BookingCollection.noDoubleBooking_empty
    nineOClock.now 0 none 0 m₀ m (runs_of_complete hall hboot)
    (fun d hd => absurd hd List.not_mem_nil)
    (by rw [hclock₀, Int.add_zero])
    (.single (.request (by rw [hclock₀]) (runs_of_complete hall hcreate) trivial))
    nineOClock.now (by rw [hclock]) fun a ha => ?_
  · obtain ⟨a, ha, -⟩ := hfollow.upcoming
      (fun e he ht => not_runsAt_of_current_none hcurrent he ht) d hd
    have hnil : m.state.venue.armed = [] := harmed
    rw [hnil] at ha
    exact absurd ha List.not_mem_nil
  · have hnil : m.state.venue.armed = [] := harmed
    rw [Venue.mem_armedOn, hnil] at ha
    exact absurd ha.1 List.not_mem_nil

end GbcVenue
