import GbcVenue.Agreement.NoSkip
import GbcVenue.Scheduler.Prompt

/-!
# What a table waits for

`TimersFollow` says that the timers of a table are right. `Follows` is the invariant behind it: one
timer is armed, for the end of a booking or for the next beginning, or there is nothing to wait for.
The callbacks keep it, however late they run, if their database reads succeed.
-/

namespace GbcVenue

open Interleaving BookingService GoTime Scheduler

/-- The id of the booking with which the table is BUSY. -/
def Tables.busyWith (ts : Tables) (t : Int) : Option String :=
  if (ts.get t).status = .busy then (ts.get t).currentBooking.map CurrentBooking.bookingID else none

/-- A timer for this instant, set by a handler that takes no longer than `slack`. -/
def OnTime (slack instant deadline : Int) : Prop := instant ≤ deadline ∧ deadline ≤ instant + slack

/-- At `now` an end timer is armed for the booking that runs and is shown, and if none runs a start
timer for the next check-in. -/
structure TimersFollow (slack t now : Int) (v : Venue) : Prop where
  running : ∀ d ∈ v.bookings.docs, d.tableID = t → d.runsAt now →
    v.tables.busyWith t = some d.id.hex → ∃ a ∈ v.armed, a.key = endKey t ∧
      a.bookingID = d.id.hex ∧ OnTime slack (ofUnixMilli d.checkOutTime) a.deadline
  upcoming : (∀ d ∈ v.bookings.docs, d.tableID = t → ¬ d.runsAt now) →
    ∀ d, v.bookings.upcoming t now = some d → ∃ a ∈ v.armed, a.key = startKey t ∧
      OnTime slack (ofUnixMilli d.checkInTime) a.deadline

/-- No live booking of table `t` begins after `now`. -/
def AllBegun (c : BookingCollection) (t now : Int) : Prop :=
  ∀ e ∈ c.docs, e.live → e.tableID = t → ofUnixMilli e.checkInTime ≤ now

/-- No live booking of table `t` runs at `now` or begins later. -/
def AllOver (c : BookingCollection) (t now : Int) : Prop :=
  AllBegun c t now ∧ ∀ e ∈ c.docs, e.live → e.tableID = t → ofUnixMilli e.checkOutTime ≤ now

/-- What the table has waited for since `clock`: the end of a booking, the next beginning, or
nothing. At most one timer is armed for it. -/
inductive Follows (t slack clock : Int) (v : Venue) : Prop
  | ending {d : BookingDoc} {n : Nat} {deadline : Int} (hd : d ∈ v.bookings.docs) (hl : d.live)
      (ht : d.tableID = t) (hin : ofUnixMilli d.checkInTime ≤ clock)
      (harmed : v.armedOn t = [⟨n, endKey t, d.id.hex, deadline⟩])
      (hdue : OnTime slack (ofUnixMilli d.checkOutTime) deadline)
      (hshown : v.tables.busyWith t = none ∨ v.tables.busyWith t = some d.id.hex)
  | starting {d : BookingDoc} {n : Nat} {id : String} {deadline : Int} (hd : d ∈ v.bookings.docs)
      (hl : d.live) (ht : d.tableID = t) (harmed : v.armedOn t = [⟨n, startKey t, id, deadline⟩])
      (hdue : OnTime slack (ofUnixMilli d.checkInTime) deadline)
      (hnext : ∀ e ∈ v.bookings.docs, e.live → e.tableID = t →
        ofUnixMilli e.checkInTime ≤ clock ∨ d.checkInTime ≤ e.checkInTime)
      (hshown : v.tables.busyWith t = none)
  | idle (hcount : (v.armedOn t).length ≤ 1) (hbegun : AllBegun v.bookings t clock)
      (hshown : v.tables.busyWith t = none ∨ AllOver v.bookings t clock)

/-! ## What the invariant says -/

section

variable {c : BookingCollection} {t slack clock clock' now start stop : Int} {v v' : Venue}
  {id : String} {ts : Tables}

theorem busyWith_eq_some :
    ts.busyWith t = some id ↔ ∃ cb, ts.ShowsBusy t cb ∧ cb.bookingID = id := by
  unfold Tables.busyWith Tables.ShowsBusy
  split
  · rename_i hbusy
    simp only [Option.map_eq_some_iff, hbusy, true_and]
  · rename_i hfree
    simp [hfree]

theorem AllBegun.mono (h : AllBegun c t clock) (hclock : clock ≤ clock') : AllBegun c t clock' :=
  fun e he hl ht => (h e he hl ht).trans hclock

theorem AllOver.mono (h : AllOver c t clock) (hclock : clock ≤ clock') : AllOver c t clock' :=
  ⟨h.1.mono hclock, fun e he hl ht => (h.2 e he hl ht).trans hclock⟩

/-- Where none is upcoming, all have begun. -/
theorem allBegun_iff : AllBegun c t now ↔ c.upcoming t now = none := by
  constructor
  · intro h
    rw [← Option.not_isSome_iff_eq_none, Option.isSome_iff_exists]
    rintro ⟨d, hd⟩
    obtain ⟨hmem, ht, hl, hlater⟩ := BookingCollection.upcoming_mem hd
    exact (h d hmem hl ht).not_gt (unixMilli_lt.1 hlater)
  · intro h e he hl ht
    have hle := BookingCollection.upcoming_none h he ht hl
    rw [← not_lt, ← unixMilli_lt]
    exact hle.not_gt

/-- Where none is upcoming or current, all are over. -/
theorem allOver_of_none (hnext : c.upcoming t now = none) (hcurrent : c.current t now = none) :
    AllOver c t now := by
  have hbegun := allBegun_iff.2 hnext
  refine ⟨hbegun, fun e he hl ht => ?_⟩
  by_contra hout
  refine not_runsAt_of_current_none hcurrent he ht (runsAt_iff.2 ⟨hl, hbegun e he hl ht, ?_⟩)
  exact not_le.1 hout

theorem AllOver.not_runsAt (h : AllOver c t now) {d : BookingDoc} (hd : d ∈ c.docs)
    (ht : d.tableID = t) : ¬ d.runsAt now := by
  intro hr
  obtain ⟨hl, -, hout⟩ := runsAt_iff.1 hr
  exact (h.2 d hd hl ht).not_gt hout

theorem AllOver.current_none (h : AllOver c t now) : c.current t now = none := by
  rw [← Option.not_isSome_iff_eq_none, Option.isSome_iff_exists]
  rintro ⟨d, hd⟩
  obtain ⟨hmem, ht, hactive⟩ := BookingCollection.current_mem hd
  exact h.not_runsAt hmem ht (runsAt_of_activeAt.1 hactive)

theorem Follows.mono (h : Follows t slack clock v) (hclock : clock ≤ clock') :
    Follows t slack clock' v := by
  cases h with
  | ending hd hl ht hin harmed hdue hshown =>
    exact .ending hd hl ht (hin.trans hclock) harmed hdue hshown
  | starting hd hl ht harmed hdue hnext hshown =>
    exact .starting hd hl ht harmed hdue
      (fun e he hel het => (hnext e he hel het).imp_left fun h => h.trans hclock) hshown
  | idle hcount hbegun hshown =>
    exact .idle hcount (hbegun.mono hclock) (hshown.imp_right fun h => h.mono hclock)

theorem Follows.apart (h : Follows t slack clock v) (ha : Apart t v v') :
    Follows t slack clock v' := by
  have hbusy : v'.tables.busyWith t = v.tables.busyWith t := by
    unfold Tables.busyWith
    rw [ha.table]
  cases h with
  | ending hd hl ht hin harmed hdue hshown =>
    rw [← ha.bookings] at hd
    rw [← hbusy] at hshown
    exact .ending hd hl ht hin (ha.armed.trans harmed) hdue hshown
  | starting hd hl ht harmed hdue hnext hshown =>
    rw [← ha.bookings] at hd hnext
    exact .starting hd hl ht (ha.armed.trans harmed) hdue hnext (hbusy.trans hshown)
  | idle hcount hbegun hshown =>
    rw [← ha.armed] at hcount
    rw [← ha.bookings] at hbegun hshown
    rw [← hbusy] at hshown
    exact .idle hcount hbegun hshown

/-- The next booking is no earlier than one that is the next since `clock`. -/
theorem next_checkIn {d f : BookingDoc} (hd : d ∈ c.docs) (hl : d.live) (ht : d.tableID = t)
    (hnext : ∀ e ∈ c.docs, e.live → e.tableID = t →
      ofUnixMilli e.checkInTime ≤ clock ∨ d.checkInTime ≤ e.checkInTime) (hclock : clock ≤ now)
    (hlater : now < ofUnixMilli d.checkInTime) (hf : c.upcoming t now = some f) :
    f.checkInTime = d.checkInTime := by
  obtain ⟨hmem, hft, hfl, hflater⟩ := BookingCollection.upcoming_mem hf
  have hle := BookingCollection.upcoming_le hf hd ht hl (unixMilli_lt.2 hlater)
  rcases hnext f hmem hfl hft with hbegun | hge
  · exact absurd (unixMilli_lt.1 hflater) (hbegun.trans hclock).not_gt
  · exact le_antisymm hle hge

/-- While no timer of the table is due, its timers are right. -/
theorem Follows.timersFollow (h : Follows t slack clock v) (hclock : clock ≤ now)
    (hquiet : ∀ a ∈ v.armedOn t, now + slack < a.deadline) : TimersFollow slack t now v := by
  cases h with
  | @ending d n deadline hd hl ht hin harmed hdue hshown =>
    have hmem : ⟨n, endKey t, d.id.hex, deadline⟩ ∈ v.armedOn t := by
      rw [harmed]
      exact List.mem_singleton.2 rfl
    have hlater := hquiet _ hmem
    have hout : now < ofUnixMilli d.checkOutTime := by
      have hle := hdue.2
      simp only at hlater
      omega
    constructor
    · intro e he het hr hbusy
      rcases hshown with hnone | hsome
      · rw [hnone] at hbusy
        cases hbusy
      · rw [hsome, Option.some.injEq] at hbusy
        have heq : d = e := v.bookings.id_inj hd he (ObjectID.hex_inj hbusy)
        subst heq
        exact ⟨_, (Venue.mem_armedOn.1 hmem).1, rfl, rfl, hdue⟩
    · intro hnone
      exact absurd (runsAt_iff.2 ⟨hl, hin.trans hclock, hout⟩) (hnone d hd ht)
  | @starting d n id deadline hd hl ht harmed hdue hnext hshown =>
    have hmem : ⟨n, startKey t, id, deadline⟩ ∈ v.armedOn t := by
      rw [harmed]
      exact List.mem_singleton.2 rfl
    have hlater := hquiet _ hmem
    have hin : now < ofUnixMilli d.checkInTime := by
      have hle := hdue.2
      simp only at hlater
      omega
    constructor
    · intro e he het hr hbusy
      rw [hshown] at hbusy
      cases hbusy
    · intro hnone f hf
      refine ⟨_, (Venue.mem_armedOn.1 hmem).1, rfl, ?_⟩
      rw [next_checkIn hd hl ht hnext hclock hin hf]
      exact hdue
  | idle hcount hbegun hshown =>
    constructor
    · intro e he het hr hbusy
      rcases hshown with hnone | hover
      · rw [hnone] at hbusy
        cases hbusy
      · exact absurd hr ((hover.mono hclock).not_runsAt he het)
    · intro hnone f hf
      rw [allBegun_iff.1 (hbegun.mono hclock)] at hf
      cases hf

end

/-! ## Callbacks -/

/-- The timers armed for the table since `start` are due promptly. -/
def Punctual (t slack start : Int) (v : Venue) : Prop :=
  ∀ a ∈ v.armedOn t, ∀ d ∈ v.bookings.docs, a.bookingID = d.id.hex →
    start ≤ instantOf a.key.kind d → a.deadline ≤ instantOf a.key.kind d + slack

section

variable {faults : Option String → Prop} {t slack clock now start stop : Int} {v v' : Venue}
  {id : String} {m m' : Timed Venue Int}

/-- A handler that begins without timers of the table sets them punctually. -/
theorem Prompt.punctual (h : Prompt m m') (hnil : m.state.armedOn t = [])
    (hslack : m'.clock ≤ m.clock + slack) : Punctual t slack m.clock m'.state := by
  intro a ha d hd hid hlater
  rw [Venue.mem_armedOn] at ha
  rcases h.armed a ha.1 with hold | ⟨e, he, hide, hdue⟩
  · have hmem : a ∈ m.state.armedOn t := Venue.mem_armedOn.2 ⟨hold, ha.2⟩
    rw [hnil] at hmem
    exact absurd hmem List.not_mem_nil
  · rw [h.bookings] at hd
    have heq : e = d := m.state.bookings.id_inj he hd (ObjectID.hex_inj (hide.symm.trans hid))
    subst heq
    omega

theorem Punctual.apart (h : Punctual t slack start v') (ha : Apart t v v') :
    Punctual t slack start v := by
  intro a hmem d hd
  rw [← ha.armed] at hmem
  rw [← ha.bookings] at hd
  exact h a hmem d hd

theorem Punctual.setTimer {key : TimerKey} {d : BookingDoc} {deadline : Int}
    (h : Punctual key.tableID slack start (v.setTimer key d.id.hex deadline))
    (hnil : v.armedOn key.tableID = []) (hd : d ∈ v.bookings.docs)
    (hlater : start ≤ instantOf key.kind d) : deadline ≤ instantOf key.kind d + slack := by
  refine h ⟨v.nextTimer, key, d.id.hex, deadline⟩ ?_ d ?_ rfl hlater
  · rw [armedOn_setTimer_self hnil]
    exact List.mem_singleton.2 rfl
  · rw [Venue.setTimer_bookings]
    exact hd

/-- The chaining step, on a table without timers that is not BUSY or has no bookings left. -/
theorem follows_chained (hfaults : ∀ f, ¬ faults (some f)) (hnil : v.armedOn t = [])
    (hfree : v.tables.busyWith t = none ∨ AllOver v.bookings t now) (hstart : start ≤ now)
    (hstop : now ≤ stop) (hpunctual : Punctual t slack start v')
    (h : Chained faults t now v v') : Follows t slack stop v' := by
  cases h with
  | failed hf => exact absurd hf (hfaults _)
  | last hnone =>
    refine .idle (by rw [hnil]; exact Nat.zero_le 1) ((allBegun_iff.2 hnone).mono hstop) ?_
    exact hfree.imp_right fun h => h.mono hstop
  | @next d deadline hnext hdue =>
    obtain ⟨hd, ht, hl, hlater⟩ := BookingCollection.upcoming_mem hnext
    have hlater := unixMilli_lt.1 hlater
    have harmed := armedOn_setTimer_self (k := startKey t) hnil d.id.hex deadline
    have hprompt : deadline ≤ ofUnixMilli d.checkInTime + slack :=
      Punctual.setTimer hpunctual hnil hd (hstart.trans hlater.le)
    refine .starting (d := d) ?_ hl ht harmed ⟨hdue, hprompt⟩ ?_ ?_
    · rw [Venue.setTimer_bookings]
      exact hd
    · intro e he hel het
      rw [Venue.setTimer_bookings] at he
      by_cases hbegun : ofUnixMilli e.checkInTime ≤ now
      · exact .inl (hbegun.trans hstop)
      · refine .inr (BookingCollection.upcoming_le hnext he het hel (unixMilli_lt.2 ?_))
        exact not_le.1 hbegun
    · rw [Venue.setTimer_tables]
      refine hfree.resolve_right fun hover => ?_
      exact (hover.1 d hd hl ht).not_gt hlater

/-- `RescheduleTable`, on such a table or on one that shows what runs. -/
theorem follows_rescheduled (hfaults : ∀ f, ¬ faults (some f)) (hnil : v.armedOn t = [])
    (hfree : v.tables.busyWith t = none ∨ AllOver v.bookings t now ∨
      ∃ d, v.bookings.current t now = some d ∧ v.tables.busyWith t = some d.id.hex)
    (hstart : start ≤ now) (hstop : now ≤ stop) (hpunctual : Punctual t slack start v')
    (h : Rescheduled faults t now v v') : Follows t slack stop v' := by
  have hclear : (clearTable v t).armedOn t = [] :=
    armedOn_clearTimer_nil (armedOn_clearTimer_nil hnil _) _
  cases h with
  | failed hf => exact absurd hf (hfaults _)
  | @current d deadline hcurrent hdue =>
    obtain ⟨hd, ht, hactive⟩ := BookingCollection.current_mem hcurrent
    obtain ⟨hl, hin, hout⟩ := runsAt_iff.1 (runsAt_of_activeAt.1 hactive)
    have harmed := armedOn_setTimer_self (k := endKey t) hclear d.id.hex deadline
    have hmem : d ∈ (clearTable v t).bookings.docs := by
      rw [clearTable_bookings]
      exact hd
    have hprompt : deadline ≤ ofUnixMilli d.checkOutTime + slack :=
      Punctual.setTimer hpunctual hclear hmem (hstart.trans hout.le)
    refine .ending (d := d) ?_ hl ht (hin.trans hstop) harmed ⟨hdue, hprompt⟩ ?_
    · rw [Venue.setTimer_bookings]
      exact hmem
    rw [Venue.setTimer_tables, clearTable_tables]
    rcases hfree with hnone | hover | ⟨e, he, hshown⟩
    · exact .inl hnone
    · rw [hover.current_none] at hcurrent
      cases hcurrent
    · rw [hcurrent, Option.some.injEq] at he
      rw [he]
      exact .inr hshown
  | chained hnone hnext =>
    refine follows_chained hfaults hclear ?_ hstart hstop hpunctual hnext
    rw [clearTable_bookings, clearTable_tables]
    rcases hfree with hfree | hover | ⟨e, he, -⟩
    · exact .inl hfree
    · exact .inr hover
    · rw [hnone] at he
      cases he

end

section

variable {E : Env → Prop} {i : Nat} {t slack clock : Int} {id : String} {m m' : Timed Venue Int}
  {u : Unit}

theorem busyWith_activateTable {ts : Tables} {cb : CurrentBooking} :
    (ts.activateTable t cb).busyWith t = some cb.bookingID :=
  busyWith_eq_some.2 ⟨cb, Tables.showsBusy_activateTable.2 (by rw [if_pos rfl]), rfl⟩

theorem busyWith_deactivateTable {ts : Tables} : (ts.deactivateTable t).busyWith t = none := by
  simp [Tables.busyWith, Tables.deactivateTable]

/-- The callback of a start timer, on a table that has no other and is not BUSY or has no bookings
left. -/
theorem follows_handleStartFired (hnil : m.state.armedOn t = [])
    (hstored : Stored id t m.state.bookings)
    (hfree : m.state.tables.busyWith t = none ∨ AllOver m.state.bookings t m.clock)
    (hslack : m'.clock ≤ m.clock + slack)
    (h : Prog.Runs (onVenue noFaults) i (handleStartFired t id) m u m') :
    Follows t slack m'.clock m'.state := by
  have hpunctual := (prompt_handleStartFired h).punctual hnil hslack
  obtain ⟨d₀, hd₀, rfl, ht₀⟩ := hstored
  rcases handleStartFired_cases h with
    ⟨⟨f, hf⟩ | hbad, -⟩ | ⟨now, hclock, -, hre⟩ |
      ⟨d, hd, hid, now, now', hclock, hclock', hr, hset⟩
  · exact absurd hf (not_faultsOf_noFaults f)
  · rw [ObjectID.objectIDFromHex_hex] at hbad
    cases hbad
  · obtain ⟨now', hnow', hstop, hre⟩ := runs_rescheduleTable hre
    refine follows_rescheduled (v := m.state.deleteTimer (startKey t)) not_faultsOf_noFaults hnil ?_
      (hclock.trans hnow') hstop hpunctual hre
    exact hfree.imp_right fun hover => .inl (hover.mono (hclock.trans hnow'))
  · rw [ObjectID.objectIDFromHex_hex, Option.some.injEq] at hid
    have heq : d₀ = d := m.state.bookings.id_inj hd₀ hd hid
    subst heq
    obtain ⟨hl, hin, hout⟩ := runsAt_iff.1 hr
    have hstop := hset.clock_le
    obtain ⟨deadline, hdue, hstate⟩ := runs_setTimer hset
    simp only at hstate hstop
    rw [hstate] at hpunctual ⊢
    have harmed := armedOn_setTimer_self (k := endKey t)
      (v := (m.state.deleteTimer (startKey t)).write
        (.activateTable t (currentBookingOf (docToBooking d₀)))) hnil d₀.id.hex deadline
    have hprompt : deadline ≤ ofUnixMilli d₀.checkOutTime + slack :=
      Punctual.setTimer hpunctual hnil hd (hclock.trans hout.le)
    refine .ending (d := d₀) ?_ hl ht₀ (hin.trans (hclock'.trans hstop)) harmed ⟨hdue, hprompt⟩ ?_
    · rw [Venue.setTimer_bookings]
      exact hd
    · rw [Venue.setTimer_tables]
      exact .inr busyWith_activateTable

/-- The callback of an end timer, on a table that has no other and is not BUSY, BUSY with this very
booking, or without bookings that are left. -/
theorem follows_handleEndFired (hnil : m.state.armedOn t = [])
    (hfree : m.state.tables.busyWith t = none ∨ m.state.tables.busyWith t = some id ∨
      AllOver m.state.bookings t m.clock)
    (hslack : m'.clock ≤ m.clock + slack)
    (h : Prog.Runs (onVenue noFaults) i (handleEndFired t id) m u m') :
    Follows t slack m'.clock m'.state := by
  have hpunctual := (prompt_handleEndFired h).punctual hnil hslack
  obtain ⟨now, hstart, hstop, hended⟩ := runs_handleEndFired h
  rw [Ended] at hended
  refine follows_chained not_faultsOf_noFaults ?_ ?_ hstart hstop hpunctual hended
  · unfold endedTable
    split <;> exact hnil
  · unfold endedTable
    split
    · exact .inl busyWith_deactivateTable
    · rename_i hnot
      rcases hfree with hfree | hbusy | hover
      · exact .inl hfree
      · obtain ⟨cb, hcb, rfl⟩ := busyWith_eq_some.1 hbusy
        refine absurd (decide_eq_true ⟨Tables.isSome_of_showsBusy hcb, hcb.1, ?_⟩) hnot
        show (m.state.tables.get t).currentBooking.map CurrentBooking.bookingID = some cb.bookingID
        rw [hcb.2]
        rfl
      · exact .inr (hover.mono hstart)

end

theorem Follows.count {t slack clock : Int} {v : Venue} (h : Follows t slack clock v) :
    (v.armedOn t).length ≤ 1 := by
  cases h with
  | ending _ _ _ _ harmed => rw [harmed, List.length_singleton]
  | starting _ _ _ harmed => rw [harmed, List.length_singleton]
  | idle hcount => exact hcount

/-- A timer fires and its callback takes no longer than `slack`. -/
theorem Follows.fires {t slack clock : Int} {m m' : Timed World Int} {a : ArmedTimer}
    (h : Follows t slack clock m.state.venue) (hw : WellArmed m.state.venue)
    (hstored : ∀ a ∈ m.state.armed, Stored a.bookingID a.key.tableID m.state.bookings)
    (hclock : clock ≤ m.clock) (hslack : m'.clock ≤ m.clock + slack) (hfire : Fires noFaults m a m') :
    Follows t slack m'.clock m'.state.venue := by
  obtain ⟨hmem, now, -, hnow, hstop, hfired⟩ := hfire.effect
  by_cases hat : a.key.tableID = t
  swap
  · exact (h.apart (hfired.apart hw hmem fun h => hat h.symm)).mono (hclock.trans (hnow.trans hstop))
  subst hat
  obtain @⟨⟨w, start⟩, hperform, hrun⟩ := hfire
  obtain ⟨hle, e, -, -, -, hstate⟩ := venue_simulates noFaults _ _ _ _ _ hperform
  simp only [venueAt] at hle hstate
  have hrun := hrun.simulate (venue_simulates noFaults)
  simp only [venueAt, hstate] at hrun
  have hstart := hclock.trans hle
  have honly : m.state.venue.armedOn a.key.tableID = [a] := by
    obtain ⟨b, hb⟩ := List.length_eq_one_iff.1 (le_antisymm h.count
      (List.length_pos_of_mem (Venue.mem_armedOn.2 ⟨hmem, rfl⟩)))
    have ha : a ∈ m.state.venue.armedOn a.key.tableID := Venue.mem_armedOn.2 ⟨hmem, rfl⟩
    rw [hb, List.mem_singleton] at ha
    rw [hb, ha]
  have hnil := armedOn_fire honly
  have hslack' : m'.clock ≤ start + slack := by omega
  unfold callback at hrun
  cases hkind : a.key.kind with
  | onStart =>
    rw [hkind] at hrun
    refine follows_handleStartFired hnil (hstored a hmem) ?_ hslack' hrun
    cases h with
    | ending _ _ _ _ harmed =>
      rw [honly, List.singleton_inj] at harmed
      rw [harmed] at hkind
      cases hkind
    | starting _ _ _ _ _ _ hshown => exact .inl hshown
    | idle _ _ hshown => exact hshown.imp_right fun hover => hover.mono hstart
  | onEnd =>
    rw [hkind] at hrun
    refine follows_handleEndFired hnil ?_ hslack' hrun
    cases h with
    | ending _ _ _ _ harmed _ hshown =>
      rw [honly, List.singleton_inj] at harmed
      have hid := congrArg ArmedTimer.bookingID harmed
      exact hshown.imp_right fun hbusy => .inl (by rw [hbusy, hid])
    | starting _ _ _ _ _ _ hshown => exact .inl hshown
    | idle _ _ hshown => exact hshown.imp_right fun hover => .inr (hover.mono hstart)

end GbcVenue
