import GbcVenue.Service.Effect
import GbcVenue.Scheduler.Scheduler

/-!
# What the scheduler does to the venue

One relation for each function of the scheduler, with the reading of the clock that it acts on, and
the proof that a run of the function alone is related so. A timer is armed with a deadline that is
not before the instant it stands for. `faults` lists the database failures that may happen.
-/

namespace GbcVenue.Scheduler

open Interleaving BookingService GoTime

/-- `clearTableTimers`. -/
def clearTable (v : Venue) (t : Int) : Venue := (v.clearTimer (startKey t)).clearTimer (endKey t)

@[simp] theorem clearTable_bookings (v : Venue) (t : Int) :
    (clearTable v t).bookings = v.bookings := by simp [clearTable]

@[simp] theorem clearTable_tables (v : Venue) (t : Int) : (clearTable v t).tables = v.tables := by
  simp [clearTable]

theorem mem_clearTable {v : Venue} {t : Int} {a : ArmedTimer} (h : a ∈ (clearTable v t).armed) :
    a ∈ v.armed :=
  Venue.mem_clearTimer (Venue.mem_clearTimer h)

section

variable (faults : Option String → Prop)

/-- The chaining step at `now`: a start timer for the next booking of the table. -/
inductive Chained (t now : Int) (v : Venue) : Venue → Prop
  | failed {e : String} (h : faults (some e)) : Chained t now v v
  | last (h : v.bookings.upcoming t now = none) : Chained t now v v
  | next {d : BookingDoc} {deadline : Int} (h : v.bookings.upcoming t now = some d)
      (hd : ofUnixMilli d.checkInTime ≤ deadline) :
      Chained t now v (v.setTimer (startKey t) d.id.hex deadline)

/-- `RescheduleTable` at `now`. -/
inductive Rescheduled (t now : Int) (v : Venue) : Venue → Prop
  | failed {e : String} (h : faults (some e)) : Rescheduled t now v (clearTable v t)
  | current {d : BookingDoc} {deadline : Int} (h : v.bookings.current t now = some d)
      (hd : ofUnixMilli d.checkOutTime ≤ deadline) :
      Rescheduled t now v ((clearTable v t).setTimer (endKey t) d.id.hex deadline)
  | chained {v' : Venue} (h : v.bookings.current t now = none)
      (hnext : Chained faults t now (clearTable v t) v') : Rescheduled t now v v'

/-- `handleStartFired`, which looks at the booking at `now`. -/
inductive Started (t : Int) (id : String) (now : Int) (v : Venue) : Venue → Prop
  | failed (h : (∃ e, faults (some e)) ∨ objectIDFromHex id = none) :
      Started t id now v (v.deleteTimer (startKey t))
  | gone {v' : Venue} {d : BookingDoc} {now' : Int} (hd : d ∈ v.bookings.docs)
      (hid : objectIDFromHex id = some d.id) (h : ¬ (d.live ∧ covers (docToBooking d) now))
      (hre : Rescheduled faults t now' (v.deleteTimer (startKey t)) v') : Started t id now v v'
  | missing {v' : Venue} {now' : Int} (h : ∀ d ∈ v.bookings.docs, objectIDFromHex id ≠ some d.id)
      (hre : Rescheduled faults t now' (v.deleteTimer (startKey t)) v') : Started t id now v v'
  | activated {d : BookingDoc} {deadline : Int} (hd : d ∈ v.bookings.docs)
      (hid : objectIDFromHex id = some d.id) (hl : d.live) (h : covers (docToBooking d) now)
      (hdeadline : ofUnixMilli d.checkOutTime ≤ deadline) :
      Started t id now v (((v.deleteTimer (startKey t)).write
        (.activateTable t (currentBookingOf (docToBooking d)))).setTimer (endKey t) d.id.hex deadline)

/-- The cache after `handleEndFired`: deactivated only if it shows this very booking. -/
def endedTable (t : Int) (id : String) (v : Venue) : Venue :=
  if showsBooking (v.tables.getTable t) id then v.write (.deactivateTable t) else v

/-- `handleEndFired`, which looks for the next booking at `now`. -/
def Ended (t : Int) (id : String) (now : Int) (v v' : Venue) : Prop :=
  Chained faults t now (endedTable t id (v.deleteTimer (endKey t))) v'

/-- One table of a reconcile pass that has read the clock at `now` and goes on at `now'`. -/
inductive Reconciled (t now now' : Int) (v : Venue) : Venue → Prop
  | failed {e : String} (h : faults (some e)) : Reconciled t now now' v v
  | unknown (h : (v.tables t).isSome = false) : Reconciled t now now' v v
  | running {cb : CurrentBooking} (h : v.tables.ShowsBusy t cb) (hex : expired cb now = false) :
      Reconciled t now now' v v
  | expired {cb : CurrentBooking} {v' : Venue} (h : v.tables.ShowsBusy t cb)
      (hex : expired cb now = true)
      (hre : Rescheduled faults t now' (v.write (.deactivateTable t)) v') : Reconciled t now now' v v'
  | free (h : (v.tables.get t).status = .available) (hnone : v.bookings.current t now = none) :
      Reconciled t now now' v v
  | missed {d : BookingDoc} {v' : Venue} (h : (v.tables.get t).status = .available)
      (hd : v.bookings.current t now = some d)
      (hre : Rescheduled faults t now'
        (v.write (.activateTable t (currentBookingOf (docToBooking d)))) v') :
      Reconciled t now now' v v'
  | other (h : (v.tables.get t).status ≠ .available) (hcb : ∀ cb, ¬ v.tables.ShowsBusy t cb) :
      Reconciled t now now' v v

/-- A reconcile pass over the tables `ts`, which has read the clock at `now`. -/
def ReconciledAll (now : Int) : List Int → Venue → Venue → Prop
  | [], v, v' => v' = v
  | t :: ts, v, v' => ∃ now' v₁, Reconciled faults t now now' v v₁ ∧ ReconciledAll now ts v₁ v'

/-- `RescheduleTable` for each of the tables `ts`, between two moments. -/
def RescheduledAll (start stop : Int) : List Int → Venue → Venue → Prop
  | [], v, v' => v' = v
  | t :: ts, v, v' => ∃ now v₁, start ≤ now ∧ now ≤ stop ∧ Rescheduled faults t now v v₁ ∧
      RescheduledAll start stop ts v₁ v'

end

/-- The cache after hydration with the bookings `bs`. -/
def hydrated (ts : Tables) (bs : List Booking) : Tables :=
  bs.foldl (fun ts b => ts.hydrateTable b.tableID (some (currentBookingOf b))) ts

/-- The bookings that `FindAllActiveNow` answers. -/
def activeNow (c : BookingCollection) (now : Int) : List Booking :=
  (c.docs.filter fun d => d.activeAt (unixMilli now)).map docToBooking

section

variable {E : Env → Prop} {i : Nat} {m m' : Timed Venue Int} {t : Int}

theorem runs_setTimer {key : TimerKey} {id : String} {instant : Int} {a : Unit}
    (h : Prog.Runs (onVenue E) i (setTimer key id instant) m a m') :
    ∃ deadline, instant ≤ deadline ∧ m'.state = m.state.setTimer key id deadline := by
  simp only [setTimer, clearTimer, timeNow, Prog.call_bind] at h
  obtain ⟨now, -, h⟩ := venue_now h
  obtain ⟨e₁, _, _, -, hnow₁, rfl, h⟩ := venue_act h
  obtain ⟨e₂, timer, _, -, hnow₂, ⟨rfl, rfl⟩, h⟩ := venue_act h
  obtain ⟨e₃, _, _, -, -, rfl, h⟩ := venue_act h
  obtain ⟨-, rfl⟩ := Prog.runs_ret.1 h
  refine ⟨e₂.now + if instant - now < 0 then 0 else instant - now, ?_, ?_⟩
  · simp only at hnow₁ hnow₂
    split <;> omega
  · simp [Venue.setTimer, Venue.afterFunc]

theorem runs_scheduleNext {now : Int} {a : Unit}
    (h : Prog.Runs (onVenue E) i (scheduleNext t now) m a m') :
    Chained (faultsOf E) t now m.state m'.state := by
  simp only [scheduleNext, BookingRepository.findNextUpcoming, Prog.call_bind] at h
  obtain ⟨e, answer, he, -, ⟨hanswer, -⟩, h⟩ := venue_aside rfl h
  unfold BookingCollection.findNextUpcoming at hanswer
  cases hfault : e.fault with
  | some err =>
    rw [hfault] at hanswer
    subst hanswer
    obtain ⟨-, rfl⟩ := Prog.runs_ret.1 h
    exact .failed ⟨e, he, hfault⟩
  | none =>
    rw [hfault] at hanswer
    subst hanswer
    cases hnext : m.state.bookings.upcoming t now with
    | none =>
      rw [hnext] at h
      obtain ⟨-, rfl⟩ := Prog.runs_ret.1 h
      exact .last hnext
    | some d =>
      rw [hnext] at h
      obtain ⟨deadline, hdeadline, hstate⟩ := runs_setTimer h
      rw [hstate]
      exact .next hnext hdeadline

theorem runs_rescheduleTable {a : Unit}
    (h : Prog.Runs (onVenue E) i (rescheduleTable t) m a m') :
    ∃ now, m.clock ≤ now ∧ now ≤ m'.clock ∧ Rescheduled (faultsOf E) t now m.state m'.state := by
  simp only [rescheduleTable, clearTableTimers, clearTimer, timeNow,
    BookingRepository.findCurrentForTable, Prog.call_bind, Prog.act_bind] at h
  obtain ⟨e₁, _, _, -, hnow₁, rfl, h⟩ := venue_act h
  obtain ⟨e₂, _, _, -, hnow₂, rfl, h⟩ := venue_act h
  obtain ⟨now, hnow, h⟩ := venue_now h
  refine ⟨now, hnow₁.trans (hnow₂.trans hnow), h.clock_le, ?_⟩
  obtain ⟨e, answer, he, -, ⟨hanswer, -⟩, h⟩ := venue_aside rfl h
  unfold BookingCollection.findCurrentForTable at hanswer
  cases hfault : e.fault with
  | some err =>
    rw [hfault] at hanswer
    subst hanswer
    obtain ⟨-, rfl⟩ := Prog.runs_ret.1 h
    exact .failed ⟨e, he, hfault⟩
  | none =>
    rw [hfault] at hanswer
    subst hanswer
    cases hcurrent : m.state.bookings.current t now with
    | none =>
      have hcurrent' := hcurrent
      rw [← clearTable_bookings m.state t] at hcurrent'
      simp only [clearTable] at hcurrent'
      rw [hcurrent'] at h
      exact .chained hcurrent (runs_scheduleNext h)
    | some d =>
      have hcurrent' := hcurrent
      rw [← clearTable_bookings m.state t] at hcurrent'
      simp only [clearTable] at hcurrent'
      rw [hcurrent'] at h
      obtain ⟨deadline, hdeadline, hstate⟩ := runs_setTimer h
      rw [hstate]
      exact .current hcurrent hdeadline

theorem not_covers_of_not_started {d : BookingDoc} {now : Int}
    (h : (docToBooking d).status = .cancelled ∨ covers (docToBooking d) now = false) :
    ¬ (d.live ∧ covers (docToBooking d) now) := by
  rintro ⟨hl, hcovers⟩
  rcases h with h | h
  · rw [BookingDoc.live_iff] at hl
    rw [docToBooking_status, hl] at h
    cases h
  · rw [h] at hcovers
    cases hcovers

theorem findByID_failed {c : BookingCollection} {e : Env} (he : E e) {id : String} {err : GoError}
    (h : c.findByID e.fault id = .error err) :
    (∃ f, faultsOf E (some f)) ∨ objectIDFromHex id = none := by
  unfold BookingCollection.findByID at h
  split at h
  · exact .inr (by assumption)
  · split at h
    · rename_i f hf
      exact .inl ⟨f, e, he, hf⟩
    · cases h

theorem findByID_missing {c : BookingCollection} {fault : Option String} {id : String}
    (h : c.findByID fault id = .ok none) : ∀ d ∈ c.docs, objectIDFromHex id ≠ some d.id := by
  intro d hd hid
  cases fault with
  | some f =>
    unfold BookingCollection.findByID at h
    rw [hid] at h
    cases h
  | none =>
    rw [BookingCollection.findByID_of_mem hd hid] at h
    cases h

/-- What the callback of a start timer goes on to do: nothing, a reschedule, or, for a booking that
runs, the activation of the table and its end timer. -/
theorem handleStartFired_cases {id : String} {u : Unit}
    (h : Prog.Runs (onVenue E) i (handleStartFired t id) m u m') :
    (((∃ f, faultsOf E (some f)) ∨ objectIDFromHex id = none) ∧ m.clock ≤ m'.clock ∧
      m'.state = m.state.deleteTimer (startKey t)) ∨
    (∃ now, m.clock ≤ now ∧
      ((∀ d ∈ m.state.bookings.docs, objectIDFromHex id ≠ some d.id) ∨
        ∃ d ∈ m.state.bookings.docs, objectIDFromHex id = some d.id ∧
          ¬ (d.live ∧ covers (docToBooking d) now)) ∧
      Prog.Runs (onVenue E) i (rescheduleTable t) ⟨m.state.deleteTimer (startKey t), now⟩ u m') ∨
    ∃ d ∈ m.state.bookings.docs, objectIDFromHex id = some d.id ∧ ∃ now now', m.clock ≤ now ∧
      now ≤ now' ∧ (d.live ∧ covers (docToBooking d) now) ∧
      Prog.Runs (onVenue E) i (setTimer (endKey t) d.id.hex (ofUnixMilli d.checkOutTime))
        ⟨(m.state.deleteTimer (startKey t)).write
          (.activateTable t (currentBookingOf (docToBooking d))), now'⟩ u m' := by
  simp only [handleStartFired, BookingRepository.findByID, timeNow, Prog.call_bind] at h
  obtain ⟨e₁, _, _, -, hnow₁, rfl, h⟩ := venue_act h
  obtain ⟨e, answer, he, hnow₂, ⟨hanswer, -⟩, h⟩ := venue_aside rfl h
  have hclock := hnow₁.trans hnow₂
  split at h
  · obtain ⟨-, rfl⟩ := Prog.runs_ret.1 h
    exact .inl ⟨findByID_failed he hanswer.symm, hclock, rfl⟩
  · exact .inr (.inl ⟨e.now, hclock, .inl (findByID_missing hanswer.symm), h⟩)
  · rename_i b
    obtain ⟨d, hd, hid, rfl⟩ := BookingCollection.findByID_eq_some hanswer.symm
    split at h
    · rename_i hcancelled
      exact .inr (.inl ⟨e.now, hclock,
        .inr ⟨d, hd, hid, not_covers_of_not_started (.inl hcancelled)⟩, h⟩)
    · rename_i hactive
      obtain ⟨now, hnow, h⟩ := venue_now h
      split at h
      · rename_i hcovers
        obtain ⟨_, ⟨v, now'⟩, hactivate, hset⟩ := Prog.runs_bind.1 h
        have hstate := runs_activateTable hactivate
        have hl : d.live := by simpa [BookingDoc.live] using hactive
        simp only at hstate
        subst hstate
        exact .inr (.inr ⟨d, hd, hid, now, now', hclock.trans hnow, hactivate.clock_le,
          ⟨hl, hcovers⟩, hset⟩)
      · rename_i hcovers
        exact .inr (.inl ⟨now, hclock.trans hnow,
          .inr ⟨d, hd, hid, not_covers_of_not_started (.inr (by simpa using hcovers))⟩, h⟩)

theorem runs_handleStartFired {id : String} {a : Unit}
    (h : Prog.Runs (onVenue E) i (handleStartFired t id) m a m') :
    ∃ now, m.clock ≤ now ∧ now ≤ m'.clock ∧
      Started (faultsOf E) t id now m.state m'.state := by
  rcases handleStartFired_cases h with
    ⟨hfailed, hclock, hstate⟩ | ⟨now, hclock, hnot, hre⟩ |
      ⟨d, hd, hid, now, now', hclock, hclock', hruns, hset⟩
  · refine ⟨m'.clock, hclock, le_rfl, ?_⟩
    rw [hstate]
    exact .failed hfailed
  · obtain ⟨now', hnow', hle, hre⟩ := runs_rescheduleTable hre
    refine ⟨now, hclock, hnow'.trans hle, ?_⟩
    rcases hnot with hmissing | ⟨d, hd, hid, hnot⟩
    · exact .missing hmissing hre
    · exact .gone hd hid hnot hre
  · refine ⟨now, hclock, hclock'.trans hset.clock_le, ?_⟩
    obtain ⟨deadline, hdeadline, hstate⟩ := runs_setTimer hset
    rw [hstate]
    exact .activated hd hid hruns.1 hruns.2 hdeadline

theorem runs_handleEndFired {id : String} {a : Unit}
    (h : Prog.Runs (onVenue E) i (handleEndFired t id) m a m') :
    ∃ now, m.clock ≤ now ∧ now ≤ m'.clock ∧ Ended (faultsOf E) t id now m.state m'.state := by
  simp only [handleEndFired, TableService.getTable, TableCache.getTable, timeNow,
    Prog.call_bind] at h
  obtain ⟨e₁, _, _, -, hnow₁, rfl, h⟩ := venue_act h
  obtain ⟨e, table, he, hnow₂, ⟨rfl, -⟩, h⟩ := venue_aside rfl h
  obtain ⟨_, ⟨v, now₃⟩, hwhen, h⟩ := Prog.runs_bind.1 h
  obtain ⟨now, hnow, h⟩ := venue_now h
  have hclock := hnow₁.trans (hnow₂.trans (hwhen.clock_le.trans hnow))
  refine ⟨now, hclock, h.clock_le, ?_⟩
  have hv : v = endedTable t id (m.state.deleteTimer (endKey t)) := by
    rcases hwhen.when_cases with ⟨hshows, hrun⟩ | ⟨hshows, hsame⟩
    · rw [endedTable, if_pos hshows]
      exact runs_deactivateTable hrun
    · rw [endedTable, if_neg (by simp [hshows])]
      exact congrArg Timed.state hsame
  subst hv
  exact runs_scheduleNext h

theorem runs_reconcileTable {now : Int} {a : Unit}
    (h : Prog.Runs (onVenue E) i (reconcileTable now t) m a m') :
    ∃ now', Reconciled (faultsOf E) t now now' m.state m'.state := by
  simp only [reconcileTable, TableService.getTable, TableCache.getTable, Prog.call_bind] at h
  obtain ⟨e, table, -, -, ⟨rfl, -⟩, h⟩ := venue_aside rfl h
  split at h
  · rename_i hunknown
    obtain ⟨-, rfl⟩ := Prog.runs_ret.1 h
    exact ⟨now, .unknown (by simpa [Tables.getTable] using hunknown)⟩
  · simp only [Tables.getTable] at h
    split at h
    · rename_i cb hstatus hcb
      rcases h.when_cases with ⟨hex, h⟩ | ⟨hex, rfl⟩
      · obtain ⟨_, m₁, hdeactivate, h⟩ := Prog.runs_bind.1 h
        have hstate := runs_deactivateTable hdeactivate
        obtain ⟨now', -, -, hre⟩ := runs_rescheduleTable h
        rw [hstate] at hre
        exact ⟨now', .expired ⟨hstatus, hcb⟩ hex hre⟩
      · exact ⟨now, .running ⟨hstatus, hcb⟩ hex⟩
    · rename_i hstatus
      simp only [BookingRepository.findCurrentForTable, Prog.call_bind] at h
      obtain ⟨e', answer, he', -, ⟨hanswer, -⟩, h⟩ := venue_aside rfl h
      unfold BookingCollection.findCurrentForTable at hanswer
      cases hfault : e'.fault with
      | some err =>
        rw [hfault] at hanswer
        subst hanswer
        obtain ⟨-, rfl⟩ := Prog.runs_ret.1 h
        exact ⟨now, .failed ⟨e', he', hfault⟩⟩
      | none =>
        rw [hfault] at hanswer
        subst hanswer
        cases hcurrent : m.state.bookings.current t now with
        | none =>
          rw [hcurrent] at h
          obtain ⟨-, rfl⟩ := Prog.runs_ret.1 h
          exact ⟨now, .free hstatus hcurrent⟩
        | some d =>
          rw [hcurrent] at h
          obtain ⟨_, m₁, hactivate, h⟩ := Prog.runs_bind.1 h
          have hstate := runs_activateTable hactivate
          obtain ⟨now', -, -, hre⟩ := runs_rescheduleTable h
          rw [hstate] at hre
          exact ⟨now', .missed hstatus hcurrent hre⟩
    · rename_i havailable hbusy
      obtain ⟨-, rfl⟩ := Prog.runs_ret.1 h
      exact ⟨now, .other havailable fun cb hcb => hbusy cb hcb.1 hcb.2⟩

/-- A reconcile pass. -/
theorem runs_reconcile {a : Unit} (h : Prog.Runs (onVenue E) i reconcile m a m') :
    ∃ now, m.clock ≤ now ∧ now ≤ m'.clock ∧
      ReconciledAll (faultsOf E) now [1, 2, 3, 4] m.state m'.state := by
  simp only [reconcile, timeNow, Prog.call_bind] at h
  obtain ⟨now, hnow, h⟩ := venue_now h
  refine ⟨now, hnow, h.clock_le, ?_⟩
  obtain ⟨_, m₁, h₁, h⟩ := Prog.runs_bind.1 h
  obtain ⟨_, m₂, h₂, h⟩ := Prog.runs_bind.1 h
  obtain ⟨_, m₃, h₃, h₄⟩ := Prog.runs_bind.1 h
  obtain ⟨n₁, hr₁⟩ := runs_reconcileTable h₁
  obtain ⟨n₂, hr₂⟩ := runs_reconcileTable h₂
  obtain ⟨n₃, hr₃⟩ := runs_reconcileTable h₃
  obtain ⟨n₄, hr₄⟩ := runs_reconcileTable h₄
  exact ⟨n₁, _, hr₁, n₂, _, hr₂, n₃, _, hr₃, n₄, _, hr₄, rfl⟩

/-- What a fired timer does, at its deadline or later. -/
inductive Fired (faults : Option String → Prop) (now : Int) (v : Venue) (a : ArmedTimer) :
    Venue → Prop
  | started {v' : Venue} (hkind : a.key.kind = .onStart)
      (h : Started faults a.key.tableID a.bookingID now
        { v with armed := v.armed.filter fun a' => a'.id ≠ a.id } v') : Fired faults now v a v'
  | ended {v' : Venue} (hkind : a.key.kind = .onEnd)
      (h : Ended faults a.key.tableID a.bookingID now
        { v with armed := v.armed.filter fun a' => a'.id ≠ a.id } v') : Fired faults now v a v'

/-- A timer fires, and its callback runs. -/
theorem runs_fired {a : ArmedTimer} {mid : Timed Venue Int} {u : Unit}
    (h : onVenue E i Op.fire m a mid) (hrun : Prog.Runs (onVenue E) i (callback a) mid u m') :
    a ∈ m.state.armed ∧ ∃ now, a.deadline ≤ now ∧ m.clock ≤ now ∧ now ≤ m'.clock ∧
      Fired (faultsOf E) now m.state a m'.state := by
  obtain ⟨hclock, e, ⟨hnow, -⟩, ha, hdeadline, hstate⟩ := h
  obtain ⟨v, clock⟩ := mid
  simp only at hclock hnow hstate
  subst hnow hstate
  refine ⟨ha, ?_⟩
  unfold callback at hrun
  cases hkind : a.key.kind with
  | onStart =>
    rw [hkind] at hrun
    obtain ⟨now, hle, hstop, hstarted⟩ := runs_handleStartFired hrun
    exact ⟨now, hdeadline.trans hle, hclock.trans hle, hstop, .started hkind hstarted⟩
  | onEnd =>
    rw [hkind] at hrun
    obtain ⟨now, hle, hstop, hended⟩ := runs_handleEndFired hrun
    exact ⟨now, hdeadline.trans hle, hclock.trans hle, hstop, .ended hkind hended⟩

theorem runs_timerFires {u : Unit} (h : Prog.Runs (onVenue E) i timerFires m u m') :
    ∃ a ∈ m.state.armed, ∃ now, a.deadline ≤ now ∧ m.clock ≤ now ∧ now ≤ m'.clock ∧
      Fired (faultsOf E) now m.state a m'.state := by
  simp only [timerFires, Prog.call_bind] at h
  obtain ⟨a, mid, hfire, hrun⟩ := Prog.runs_act.1 h
  exact ⟨a, runs_fired hfire hrun⟩

/-! ## Boot -/

theorem runs_hydrateEach {bs : List Booking} {a : Unit}
    (h : Prog.Runs (onVenue E) i (hydrateEach bs) m a m') :
    m'.state = { m.state with tables := hydrated m.state.tables bs } := by
  induction bs generalizing m with
  | nil =>
    obtain ⟨-, rfl⟩ := Prog.runs_ret.1 h
    rfl
  | cons b bs ih =>
    obtain ⟨_, m₁, hwrite, h⟩ := Prog.runs_bind.1 h
    have hstate := runs_cacheWrite hwrite
    rw [ih h, hstate]
    rfl

theorem runs_hydrateCache {a : Unit} (h : Prog.Runs (onVenue E) i hydrateCache m a m') :
    ((∃ f, faultsOf E (some f)) ∧ m'.state = m.state) ∨
      ∃ now, m.clock ≤ now ∧ now ≤ m'.clock ∧ m'.state =
        { m.state with tables := hydrated m.state.tables (activeNow m.state.bookings now) } := by
  simp only [hydrateCache, timeNow, BookingRepository.findAllActiveNow, Prog.call_bind] at h
  obtain ⟨now, hnow, h⟩ := venue_now h
  have hle := h.clock_le
  obtain ⟨e, answer, he, -, ⟨hanswer, -⟩, h⟩ := venue_aside rfl h
  unfold BookingCollection.findAllActiveNow at hanswer
  cases hfault : e.fault with
  | some err =>
    rw [hfault] at hanswer
    subst hanswer
    obtain ⟨-, rfl⟩ := Prog.runs_ret.1 h
    exact .inl ⟨⟨err, e, he, hfault⟩, rfl⟩
  | none =>
    rw [hfault] at hanswer
    subst hanswer
    have hstate := runs_hydrateEach h
    exact .inr ⟨now, hnow, hle, hstate⟩

theorem runs_initAll {a : Unit} (h : Prog.Runs (onVenue E) i initAll m a m') :
    RescheduledAll (faultsOf E) m.clock m'.clock [1, 2, 3, 4] m.state m'.state := by
  obtain ⟨_, m₁, h₁, h⟩ := Prog.runs_bind.1 h
  obtain ⟨_, m₂, h₂, h⟩ := Prog.runs_bind.1 h
  obtain ⟨_, m₃, h₃, h₄⟩ := Prog.runs_bind.1 h
  have hc₁ := h₁.clock_le
  have hc₂ := h₂.clock_le
  have hc₃ := h₃.clock_le
  have hc₄ := h₄.clock_le
  obtain ⟨n₁, ha₁, hb₁, hr₁⟩ := runs_rescheduleTable h₁
  obtain ⟨n₂, ha₂, hb₂, hr₂⟩ := runs_rescheduleTable h₂
  obtain ⟨n₃, ha₃, hb₃, hr₃⟩ := runs_rescheduleTable h₃
  obtain ⟨n₄, ha₄, hb₄, hr₄⟩ := runs_rescheduleTable h₄
  exact ⟨n₁, _, by omega, by omega, hr₁, n₂, _, by omega, by omega, hr₂, n₃, _, by omega, by omega,
    hr₃, n₄, _, by omega, by omega, hr₄, rfl⟩

/-- Boot: hydration, and a reschedule of each table. -/
theorem runs_boot {a : Unit} (h : Prog.Runs (onVenue E) i boot m a m') :
    ∃ v now, m.clock ≤ now ∧ now ≤ m'.clock ∧
      ((∃ f, faultsOf E (some f)) ∧ v = m.state ∨ ∃ now', m.clock ≤ now' ∧ now' ≤ now ∧
        v = { m.state with tables := hydrated m.state.tables (activeNow m.state.bookings now') }) ∧
      RescheduledAll (faultsOf E) now m'.clock [1, 2, 3, 4] v m'.state := by
  obtain ⟨_, m₁, hhydrate, hinit⟩ := Prog.runs_bind.1 h
  exact ⟨m₁.state, m₁.clock, hhydrate.clock_le, hinit.clock_le, runs_hydrateCache hhydrate,
    runs_initAll hinit⟩

end

end GbcVenue.Scheduler
