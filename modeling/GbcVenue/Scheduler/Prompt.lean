import GbcVenue.Scheduler.Chain

/-!
# Timers are set promptly

A handler sets a timer for an instant of a booking of its table. The deadline is not before this
instant, and here it is shown to be no later than the instant and the time the handler takes, or
than the end of the handler, if the instant is past by then.
-/

namespace GbcVenue

open Interleaving BookingService GoTime Scheduler

/-- The bookings are as before, and each new timer is promptly due. -/
structure Prompt (m m' : Timed Venue Int) : Prop where
  bookings : m'.state.bookings = m.state.bookings
  clock : m.clock ≤ m'.clock
  armed : ∀ a ∈ m'.state.armed, a ∈ m.state.armed ∨
    ∃ d ∈ m.state.bookings.docs, a.bookingID = d.id.hex ∧
      a.deadline ≤ max m'.clock (instantOf a.key.kind d + (m'.clock - m.clock))

namespace BookingCollection

theorem findNextUpcoming_eq_some {c : BookingCollection} {fault : Option String} {t after : Int}
    {b : Booking} (h : c.findNextUpcoming fault t after = .ok (some b)) :
    ∃ d, c.upcoming t after = some d ∧ docToBooking d = b := by
  unfold findNextUpcoming at h
  split at h
  · cases h
  · rw [Except.ok.injEq, Option.map_eq_some_iff] at h
    exact h

theorem findCurrentForTable_eq_some {c : BookingCollection} {fault : Option String} {t now : Int}
    {b : Booking} (h : c.findCurrentForTable fault t now = .ok (some b)) :
    ∃ d, c.current t now = some d ∧ docToBooking d = b := by
  unfold findCurrentForTable at h
  split at h
  · cases h
  · rw [Except.ok.injEq, Option.map_eq_some_iff] at h
    exact h

end BookingCollection

section

variable {E : Env → Prop} {i : Nat} {m m' m'' : Timed Venue Int} {t : Int} {u : Unit}

/-- No new timer. -/
theorem Prompt.of_subset (hb : m'.state.bookings = m.state.bookings) (hclock : m.clock ≤ m'.clock)
    (ha : ∀ a ∈ m'.state.armed, a ∈ m.state.armed) : Prompt m m' :=
  ⟨hb, hclock, fun a h => .inl (ha a h)⟩

theorem Prompt.trans (h : Prompt m m') (h' : Prompt m' m'') : Prompt m m'' := by
  refine ⟨h'.bookings.trans h.bookings, h.clock.trans h'.clock, ?_⟩
  have hclock := h.clock
  have hclock' := h'.clock
  intro a ha
  rcases h'.armed a ha with ha | ⟨d, hd, hid, hdue⟩
  · rcases h.armed a ha with ha | ⟨d, hd, hid, hdue⟩
    · exact .inl ha
    · exact .inr ⟨d, hd, hid, by omega⟩
  · rw [h.bookings] at hd
    exact .inr ⟨d, hd, hid, by omega⟩

theorem prompt_setTimer {key : TimerKey} {d : BookingDoc} (hd : d ∈ m.state.bookings.docs)
    (h : Prog.Runs (onVenue E) i (setTimer key d.id.hex (instantOf key.kind d)) m u m') :
    Prompt m m' := by
  have hclock := h.clock_le
  simp only [setTimer, clearTimer, timeNow, Prog.call_bind] at h
  obtain ⟨now, hnow, h⟩ := venue_now h
  obtain ⟨e₁, _, _, -, hnow₁, rfl, h⟩ := venue_act h
  obtain ⟨e₂, timer, _, -, hnow₂, ⟨rfl, rfl⟩, h⟩ := venue_act h
  obtain ⟨e₃, _, _, -, hnow₃, rfl, h⟩ := venue_act h
  obtain ⟨-, rfl⟩ := Prog.runs_ret.1 h
  simp only at hnow₁ hnow₂ hnow₃
  refine ⟨Venue.clearTimer_bookings m.state key, hclock, ?_⟩
  intro a ha
  simp only [Venue.afterFunc, Venue.clearTimer_nextTimer, List.mem_append,
    List.mem_singleton] at ha
  rcases ha with ha | rfl
  · exact .inl (Venue.mem_clearTimer ha)
  · refine .inr ⟨d, hd, rfl, ?_⟩
    show e₂.now + (if instantOf key.kind d - now < 0 then 0 else instantOf key.kind d - now) ≤
      max e₃.now (instantOf key.kind d + (e₃.now - m.clock))
    split <;> omega

/-! ## The handlers -/

theorem prompt_scheduleNext {now : Int}
    (h : Prog.Runs (onVenue E) i (scheduleNext t now) m u m') : Prompt m m' := by
  simp only [scheduleNext, BookingRepository.findNextUpcoming, Prog.call_bind] at h
  obtain ⟨e, answer, -, hclock, ⟨hanswer, -⟩, h⟩ := venue_aside rfl h
  have hread : Prompt m ⟨m.state, e.now⟩ := .of_subset rfl hclock fun _ ha => ha
  refine hread.trans ?_
  split at h
  · rename_i next
    obtain ⟨d, hd, rfl⟩ := BookingCollection.findNextUpcoming_eq_some hanswer.symm
    exact prompt_setTimer (BookingCollection.upcoming_mem hd).1 h
  · obtain ⟨-, rfl⟩ := Prog.runs_ret.1 h
    exact .of_subset rfl le_rfl fun _ ha => ha

theorem prompt_rescheduleTable (h : Prog.Runs (onVenue E) i (rescheduleTable t) m u m') :
    Prompt m m' := by
  simp only [rescheduleTable, clearTableTimers, clearTimer, timeNow,
    BookingRepository.findCurrentForTable, Prog.call_bind, Prog.act_bind] at h
  obtain ⟨e₁, _, _, -, hnow₁, rfl, h⟩ := venue_act h
  obtain ⟨e₂, _, _, -, hnow₂, rfl, h⟩ := venue_act h
  obtain ⟨now, hnow, h⟩ := venue_now h
  obtain ⟨e, answer, -, hnow₃, ⟨hanswer, -⟩, h⟩ := venue_aside rfl h
  simp only at hnow₁ hnow₂ hnow hnow₃ hanswer
  have hclear : Prompt m ⟨clearTable m.state t, e.now⟩ :=
    .of_subset (clearTable_bookings m.state t) (by dsimp only; omega) fun _ ha => mem_clearTable ha
  refine hclear.trans ?_
  split at h
  · obtain ⟨-, rfl⟩ := Prog.runs_ret.1 h
    exact .of_subset rfl le_rfl fun _ ha => ha
  · obtain ⟨d, hd, rfl⟩ := BookingCollection.findCurrentForTable_eq_some hanswer.symm
    exact prompt_setTimer (BookingCollection.current_mem hd).1 h
  · exact prompt_scheduleNext h

/-- A change of the cache alone. -/
theorem Prompt.write {c : CacheWrite} (hclock : m.clock ≤ m'.clock)
    (hstate : m'.state = m.state.write c) : Prompt m m' := by
  refine .of_subset ?_ hclock fun a ha => ?_
  · rw [hstate]
    rfl
  · rw [hstate] at ha
    exact ha

theorem prompt_handleStartFired {id : String}
    (h : Prog.Runs (onVenue E) i (handleStartFired t id) m u m') : Prompt m m' := by
  rcases handleStartFired_cases h with
    ⟨-, hclock, hstate⟩ | ⟨now, hclock, -, hre⟩ |
      ⟨d, hd, -, now, now', hclock, hclock', -, hset⟩
  · refine .of_subset ?_ hclock fun a ha => ?_
    · rw [hstate]
      rfl
    · rw [hstate] at ha
      exact ha
  · have hread : Prompt m ⟨m.state.deleteTimer (startKey t), now⟩ :=
      .of_subset rfl hclock fun _ ha => ha
    exact hread.trans (prompt_rescheduleTable hre)
  · have hshown : Prompt m ⟨(m.state.deleteTimer (startKey t)).write
        (.activateTable t (currentBookingOf (docToBooking d))), now'⟩ :=
      .of_subset rfl (hclock.trans hclock') fun _ ha => ha
    exact hshown.trans (prompt_setTimer hd hset)

theorem prompt_handleEndFired {id : String}
    (h : Prog.Runs (onVenue E) i (handleEndFired t id) m u m') : Prompt m m' := by
  simp only [handleEndFired, TableService.getTable, TableCache.getTable, timeNow,
    Prog.call_bind] at h
  obtain ⟨e₁, _, _, -, hnow₁, rfl, h⟩ := venue_act h
  obtain ⟨e, table, -, hnow₂, ⟨rfl, -⟩, h⟩ := venue_aside rfl h
  have hread : Prompt m ⟨m.state.deleteTimer (endKey t), e.now⟩ :=
    .of_subset rfl (hnow₁.trans hnow₂) fun _ ha => ha
  obtain ⟨_, m₁, hwhen, h⟩ := Prog.runs_bind.1 h
  obtain ⟨now, hnow, h⟩ := venue_now h
  have hfreed : Prompt ⟨m.state.deleteTimer (endKey t), e.now⟩ m₁ := by
    rcases hwhen.when_cases with ⟨-, hrun⟩ | ⟨-, rfl⟩
    · exact .write hrun.clock_le (runs_deactivateTable hrun)
    · exact .of_subset rfl le_rfl fun _ ha => ha
  have hlooked : Prompt m₁ ⟨m₁.state, now⟩ := .of_subset rfl hnow fun _ ha => ha
  exact hread.trans (hfreed.trans (hlooked.trans (prompt_scheduleNext h)))

theorem prompt_initAll (h : Prog.Runs (onVenue E) i initAll m u m') : Prompt m m' := by
  obtain ⟨_, m₁, h₁, h⟩ := Prog.runs_bind.1 h
  obtain ⟨_, m₂, h₂, h⟩ := Prog.runs_bind.1 h
  obtain ⟨_, m₃, h₃, h₄⟩ := Prog.runs_bind.1 h
  have hfirst := (prompt_rescheduleTable h₁).trans (prompt_rescheduleTable h₂)
  exact hfirst.trans ((prompt_rescheduleTable h₃).trans (prompt_rescheduleTable h₄))

theorem prompt_boot (h : Prog.Runs (onVenue E) i boot m u m') : Prompt m m' := by
  obtain ⟨_, m₁, hhydrate, hinit⟩ := Prog.runs_bind.1 h
  have hshown : Prompt m m₁ := by
    rcases runs_hydrateCache hhydrate with ⟨-, hstate⟩ | ⟨now, -, -, hstate⟩
    · refine .of_subset ?_ hhydrate.clock_le fun a ha => ?_
      · rw [hstate]
      · rwa [hstate] at ha
    · refine .of_subset ?_ hhydrate.clock_le fun a ha => ?_
      · rw [hstate]
      · rwa [hstate] at ha
  exact hshown.trans (prompt_initAll hinit)

end

end GbcVenue
