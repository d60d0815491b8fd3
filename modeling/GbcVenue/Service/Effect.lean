import GbcVenue.Backend.Venue
import GbcVenue.Service.Request

/-!
# What a booking request does to the venue

`runs_request`: a request that runs alone takes a step of its sequential meaning on the store, sets
no timer, and, if it succeeds, syncs the cache by the record it stored and one reading of the clock.
-/

namespace GbcVenue

open Interleaving BookingService

/-- What a request that stored `b` makes of the cache, at the clock reading `now`. -/
def Request.sync (b : Booking) (now : Int) (ts : Tables) : Request → Tables
  | .create .. => if covers b now then ts.activateTable b.tableID (currentBookingOf b) else ts
  | .update .. => if covers b now then ts.updateCurrentBooking b.tableID (currentBookingOf b) else ts
  | .cancel id =>
      if covers b now ∧ (ts b.tableID).isSome ∧
          (ts.get b.tableID).currentBooking.map CurrentBooking.bookingID = some id then
        ts.deactivateTable b.tableID
      else ts

/-- The cache after a request with reply `r`. -/
def Request.synced (req : Request) (r : Reply) (now : Int) (ts : Tables) : Tables :=
  match r with
  | .ok b => req.sync b now ts
  | .error _ => ts

/-- What request `req` with reply `r` does to the venue. -/
structure RequestEffect (faults : Option String → Prop) (req : Request) (r : Reply)
    (m m' : Timed Venue Int) : Prop where
  store : SpecStep faults req m.state.bookings r m'.state.bookings
  tables : ∃ now, m.clock ≤ now ∧ now ≤ m'.clock ∧
    m'.state.tables = req.synced r now m.state.tables
  timers : m'.state.timers = m.state.timers
  armed : m'.state.armed = m.state.armed
  nextTimer : m'.state.nextTimer = m.state.nextTimer

section

variable {faults : Option String → Prop} {req : Request} {r : Reply} {m m' : Timed Venue Int}

/-- What happens within a stretch of time happens within a longer one. -/
theorem RequestEffect.widen (h : RequestEffect faults req r m m') {now now' : Int}
    (hnow : now ≤ m.clock) (hnow' : m'.clock ≤ now') :
    RequestEffect faults req r ⟨m.state, now⟩ ⟨m'.state, now'⟩ := by
  obtain ⟨t, h₁, h₂, ht⟩ := h.tables
  exact ⟨h.store, ⟨t, hnow.trans h₁, h₂.trans hnow', ht⟩, h.timers, h.armed, h.nextTimer⟩

/-- The venue after a request is as before but for the store and the cache. -/
theorem RequestEffect.state_eq (h : RequestEffect faults req r m m') :
    ∃ now, m.clock ≤ now ∧ now ≤ m'.clock ∧ m'.state =
      { m.state with bookings := m'.state.bookings, tables := req.synced r now m.state.tables } := by
  obtain ⟨-, ⟨now, hstart, hstop, htables⟩, htimers, harmed, hnext⟩ := h
  refine ⟨now, hstart, hstop, ?_⟩
  obtain ⟨⟨c', ts', timers', armed', next'⟩, stop⟩ := m'
  simp only at htables htimers harmed hnext ⊢
  rw [htables, htimers, harmed, hnext]

/-- A request that answers with an error leaves the venue as it is. -/
theorem RequestEffect.refused {e : GoError} (hclock : m.clock ≤ m'.clock)
    (hstate : m'.state = m.state) (hstep : SpecStep faults req m.state.bookings (.error e)
      m.state.bookings) : RequestEffect faults req (.error e) m m' := by
  refine ⟨by rw [hstate]; exact hstep, ⟨m.clock, le_rfl, hclock, ?_⟩, ?_, ?_, ?_⟩ <;> rw [hstate]
  rfl

end

/-- The faults that the outside world may come up with. -/
def faultsOf (E : Env → Prop) (f : Option String) : Prop := ∃ e, E e ∧ e.fault = f

/-- The outside world without database failures. -/
def noFaults (e : Env) : Prop := e.fault = none

theorem noFaults_replicate (n : Nat) (e : Env) (he : noFaults e) :
    ∀ e' ∈ List.replicate n e, noFaults e' := by
  intro e' he'
  rw [List.eq_of_mem_replicate he']
  exact he

theorem not_faultsOf_noFaults (f : String) : ¬ faultsOf noFaults (some f) := by
  rintro ⟨e, he, hf⟩
  rw [he] at hf
  cases hf

section

variable {E : Env → Prop} {i : Nat} {m m' : Timed Venue Int} {r : Reply}

/-- A critical section, seen from the venue. -/
theorem runs_withLock {α : Type} {mutex : MutexRef} {body : Go α} {a : α}
    (h : Prog.Runs (onVenue E) i (withLock mutex body) m a m') :
    ∃ now m₁, m.clock ≤ now ∧ Prog.Runs (onVenue E) i body ⟨m.state, now⟩ a m₁ ∧
      m'.state = m₁.state ∧ m₁.clock ≤ m'.clock := by
  simp only [withLock, Prog.call_bind, Prog.pure_eq] at h
  obtain ⟨e, -, -, hclock, -, h⟩ := venue_aside rfl h
  obtain ⟨b, m₁, hbody, h⟩ := Prog.runs_bind.1 h
  obtain ⟨e', -, -, hclock', -, h⟩ := venue_aside rfl h
  obtain ⟨rfl, rfl⟩ := Prog.runs_ret.1 h
  exact ⟨e.now, m₁, hclock, hbody, rfl, hclock'⟩

/-- A mutating method of the cache. -/
theorem runs_cacheWrite {c : CacheWrite} {a : Unit}
    (h : Prog.Runs (onVenue E) i (TableCache.write c) m a m') : m'.state = m.state.write c := by
  simp only [TableCache.write, Prog.call_bind] at h
  obtain ⟨e, broadcasts, v, -, -, rfl, h⟩ := venue_act h
  exact runs_aside (Prog.all_when TableCache.broadcast_aside) h

theorem runs_activateTable {t : Int} {cb : CurrentBooking} {a : Unit}
    (h : Prog.Runs (onVenue E) i (TableService.activateTable t cb) m a m') :
    m'.state = m.state.write (.activateTable t cb) := by
  obtain ⟨_, m₁, hwrite, hsend⟩ := Prog.runs_bind.1 h
  rw [runs_aside (TableService.sendMqttCommand_aside t .on) hsend]
  exact runs_cacheWrite hwrite

theorem runs_deactivateTable {t : Int} {a : Unit}
    (h : Prog.Runs (onVenue E) i (TableService.deactivateTable t) m a m') :
    m'.state = m.state.write (.deactivateTable t) := by
  obtain ⟨_, m₁, hwrite, hsend⟩ := Prog.runs_bind.1 h
  rw [runs_aside (TableService.sendMqttCommand_aside t .off) hsend]
  exact runs_cacheWrite hwrite

/-- The end of a request: a sync that depends on the clock. The timeline makes no difference. -/
theorem runs_sync {c : Int → Bool} {p : Go Unit} {a : Unit}
    (h : Prog.Runs (onVenue E) i (do let now ← timeNow; Prog.when (c now) p; emitTimelineUpdate) m a m') :
    ∃ now, m.clock ≤ now ∧ now ≤ m'.clock ∧
      ((c now = true ∧ ∃ m₁ a₁, Prog.Runs (onVenue E) i p ⟨m.state, now⟩ a₁ m₁ ∧
        m'.state = m₁.state) ∨ (c now = false ∧ m'.state = m.state)) := by
  simp only [timeNow, Prog.call_bind] at h
  obtain ⟨now, hclock, h⟩ := venue_now h
  refine ⟨now, hclock, h.clock_le, ?_⟩
  obtain ⟨_, m₁, hwhen, hemit⟩ := Prog.runs_bind.1 h
  rw [runs_aside emitTimelineUpdate_aside hemit]
  rcases hwhen.when_cases with ⟨hc, hrun⟩ | ⟨hc, rfl⟩
  · exact .inl ⟨hc, m₁, _, hrun, rfl⟩
  · exact .inr ⟨hc, rfl⟩

/-! ## Creations -/

theorem runs_syncCreated {b : Booking} {a : Unit}
    (h : Prog.Runs (onVenue E) i (syncCreated b) m a m') :
    ∃ now, m.clock ≤ now ∧ now ≤ m'.clock ∧ m'.state =
      { m.state with tables := if covers b now then
          m.state.tables.activateTable b.tableID (currentBookingOf b) else m.state.tables } := by
  obtain ⟨now, hclock, hle, ⟨hcovers, m₁, _, hrun, hstate⟩ | ⟨hcovers, hstate⟩⟩ :=
    runs_sync (c := covers b) h
  · refine ⟨now, hclock, hle, ?_⟩
    rw [hstate, runs_activateTable hrun, hcovers]
    rfl
  · refine ⟨now, hclock, hle, ?_⟩
    rw [hstate, hcovers]
    rfl

theorem not_admin_of_refused {checkIn now : Int} {role : String}
    (h : Prog.Runs (onVenue E) i (staffRefused checkIn now role) m true m') : role ≠ "admin" := by
  unfold staffRefused at h
  split at h
  · rename_i hrole
    exact hrole.2
  · obtain ⟨hfalse, -⟩ := Prog.runs_ret.1 h
    cases hfalse

theorem runs_createLocked {dto : CreateBookingInput} {createdBy role : String}
    (h : Prog.Runs (onVenue E) i (createLocked dto createdBy role) m r m') :
    RequestEffect (faultsOf E) (.create dto createdBy role) r m m' := by
  have hclock := h.clock_le
  unfold createLocked at h
  split at h
  · rename_i e hparse
    obtain ⟨rfl, rfl⟩ := Prog.runs_ret.1 h
    exact .refused le_rfl rfl (.createInvalid hparse)
  · rename_i checkIn checkOut duration hparse
    simp only [timeNow, BookingRepository.hasOverlap, BookingRepository.create, Prog.call_bind] at h
    obtain ⟨now, hnow, h⟩ := venue_now h
    obtain ⟨refused, ⟨v, now₁⟩, hstaff, h⟩ := Prog.runs_bind.1 h
    have hv := runs_aside (staffRefused_aside checkIn now role) hstaff
    have hnow₁ := hnow.trans hstaff.clock_le
    simp only at hv
    subst hv
    cases refused with
    | true =>
      obtain ⟨rfl, rfl⟩ := Prog.runs_ret.1 h
      exact .refused hclock rfl (.createInPast (not_admin_of_refused hstaff))
    | false =>
      obtain ⟨e, overlap, he, hnow₂, ⟨hoverlap, -⟩, h⟩ := venue_aside rfl h
      replace hoverlap := hoverlap.symm
      split at h
      · obtain ⟨rfl, rfl⟩ := Prog.runs_ret.1 h
        exact .refused hclock rfl (.createUnchecked hparse ⟨e, he, rfl⟩ hoverlap)
      · obtain ⟨rfl, rfl⟩ := Prog.runs_ret.1 h
        exact .refused hclock rfl (.createConflict hparse ⟨e, he, rfl⟩ hoverlap)
      · obtain ⟨e', answer, v, he', hnow₃, ⟨c, hcreate, rfl⟩, h⟩ := venue_act h
        have hb : (newBooking dto createdBy checkIn checkOut duration now).id = "" := rfl
        split at h
        · rename_i err
          obtain ⟨rfl, rfl⟩ := Prog.runs_ret.1 h
          rcases m.state.bookings.create_cases e'.fault e'.objectID e'.now hb with
            ⟨err', hfail⟩ | ⟨c', hok, -, -⟩
          · rw [hfail] at hcreate
            cases hcreate
            exact .refused hclock rfl (.createFailed hparse ⟨e', he', rfl⟩ (by rw [hfail]))
          · rw [hok] at hcreate
            cases hcreate
        · rename_i id
          obtain ⟨_, m₄, hsync, h⟩ := Prog.runs_bind.1 h
          obtain ⟨rfl, rfl⟩ := Prog.runs_ret.1 h
          obtain ⟨syncNow, h₁, h₂, hstate⟩ := runs_syncCreated hsync
          have hfree := hasOverlap_eq_ok hoverlap
          have hsyncNow : m.clock ≤ syncNow := hnow₁.trans (hnow₂.trans (hnow₃.trans h₁))
          refine ⟨?_, ⟨syncNow, hsyncNow, h₂, by rw [hstate]; rfl⟩, ?_, ?_, ?_⟩ <;> rw [hstate]
          exact .created hparse hfree ⟨e', he', rfl⟩ hcreate

/-- A creation alone. -/
theorem runs_createBooking {dto : CreateBookingInput} {createdBy role : String}
    (h : Prog.Runs (onVenue E) i (createBooking dto createdBy role) m r m') :
    RequestEffect (faultsOf E) (.create dto createdBy role) r m m' := by
  obtain ⟨mutex, now, hnow, h⟩ := venue_aside_bind (getTableMutex_aside dto.tableID) h
  obtain ⟨now', ⟨v, now₁⟩, hnow', hbody, hstate, hclock⟩ := runs_withLock h
  simp only at hstate
  subst hstate
  exact (runs_createLocked hbody).widen (hnow.trans hnow') hclock

/-! ## Updates and cancellations -/

/-- The reads of an update or a cancellation: it finds nothing to work on, or goes on with the
record it finds. -/
theorem runs_withFresh {id : String} {body : Booking → Go Reply}
    (h : Prog.Runs (onVenue E) i (withFresh id body) m r m') :
    (∃ e, r = .error e ∧ m'.state = m.state ∧ Missed (faultsOf E) m.state.bookings id e) ∨
    ∃ d ∈ m.state.bookings.docs, objectIDFromHex id = some d.id ∧ d.live ∧ ∃ now m₁,
      m.clock ≤ now ∧ Prog.Runs (onVenue E) i (body (docToBooking d)) ⟨m.state, now⟩ r m₁ ∧
      m'.state = m₁.state ∧ m₁.clock ≤ m'.clock := by
  simp only [withFresh, BookingRepository.findByID, Prog.call_bind] at h
  obtain ⟨e, answer, he, hnow, ⟨hfind, -⟩, h⟩ := venue_aside rfl h
  replace hfind := hfind.symm
  split at h
  · rename_i err
    obtain ⟨rfl, rfl⟩ := Prog.runs_ret.1 h
    exact .inl ⟨_, rfl, rfl, .fetch ⟨e, he, rfl⟩ hfind⟩
  · obtain ⟨rfl, rfl⟩ := Prog.runs_ret.1 h
    exact .inl ⟨_, rfl, rfl, .none ⟨e, he, rfl⟩ hfind⟩
  · rename_i b
    by_cases hb : b.status = .cancelled
    · rw [if_pos hb] at h
      obtain ⟨rfl, rfl⟩ := Prog.runs_ret.1 h
      exact .inl ⟨_, rfl, rfl, .cancelled ⟨e, he, rfl⟩ hfind hb⟩
    · rw [if_neg hb] at h
      obtain ⟨d, hd, hid, rfl⟩ := BookingCollection.findByID_eq_some hfind
      have hl : d.live := by simpa [BookingDoc.live] using hb
      obtain ⟨mutex, now₁, hnow₁, h⟩ := venue_aside_bind (getTableMutex_aside _) h
      obtain ⟨now₂, m₁, hnow₂, hbody, hstate, hclock⟩ := runs_withLock h
      simp only [refetch, BookingRepository.findByID, Prog.call_bind] at hbody
      obtain ⟨e', answer', he', hnow₃, ⟨hfind', -⟩, hbody⟩ := venue_aside rfl hbody
      replace hfind' := hfind'.symm
      split at hbody
      · rename_i fresh
        obtain ⟨d', hd', hid', rfl⟩ := BookingCollection.findByID_eq_some hfind'
        have hdd : d' = d := by
          rw [hid, Option.some.injEq] at hid'
          exact m.state.bookings.id_inj hd' hd hid'.symm
        subst hdd
        rw [if_neg hb] at hbody
        refine .inr ⟨d', hd, hid, hl, e'.now, m₁, ?_, hbody, hstate, hclock⟩
        exact hnow.trans (hnow₁.trans (hnow₂.trans hnow₃))
      · rename_i hother
        obtain ⟨rfl, rfl⟩ := Prog.runs_ret.1 hbody
        refine .inl ⟨_, rfl, hstate, ?_⟩
        cases answer' with
        | error err => exact .refetch ⟨e', he', rfl⟩ hfind' hd hid hl
        | ok found =>
          cases found with
          | none => exact .none ⟨e', he', rfl⟩ hfind'
          | some fresh => exact absurd rfl (hother fresh)

theorem runs_checkWindow {t : Int} {window : Option (Int × Int)} {id : String}
    {a : Except GoError Unit} (h : Prog.Runs (onVenue E) i (checkWindow t window id) m a m') :
    m'.state = m.state ∧ ((a = .ok () ∧ WindowFree (faultsOf E) m.state.bookings t id window) ∨
      ∃ newIn newOut f, window = some (newIn, newOut) ∧ faultsOf E f ∧
        ((∃ e, a = .error (.wrap "overlap check" e) ∧
            m.state.bookings.hasOverlap f t newIn newOut id = .error e) ∨
          (a = .error (alreadyBookedInWindow t) ∧
            m.state.bookings.hasOverlap f t newIn newOut id = .ok true))) := by
  cases window with
  | none =>
    obtain ⟨rfl, rfl⟩ := Prog.runs_ret.1 h
    exact ⟨rfl, .inl ⟨rfl, trivial⟩⟩
  | some window =>
    obtain ⟨newIn, newOut⟩ := window
    simp only [checkWindow, BookingRepository.hasOverlap, Prog.call_bind] at h
    obtain ⟨e, answer, he, -, ⟨hoverlap, -⟩, h⟩ := venue_aside rfl h
    replace hoverlap := hoverlap.symm
    split at h <;> obtain ⟨rfl, rfl⟩ := Prog.runs_ret.1 h
    · exact ⟨rfl, .inr ⟨newIn, newOut, e.fault, rfl, ⟨e, he, rfl⟩, .inl ⟨_, rfl, hoverlap⟩⟩⟩
    · exact ⟨rfl, .inr ⟨newIn, newOut, e.fault, rfl, ⟨e, he, rfl⟩, .inr ⟨rfl, hoverlap⟩⟩⟩
    · exact ⟨rfl, .inl ⟨rfl, e.fault, ⟨e, he, rfl⟩, hoverlap⟩⟩

theorem runs_syncUpdated {b : Booking} {a : Unit}
    (h : Prog.Runs (onVenue E) i (syncUpdated b) m a m') :
    ∃ now, m.clock ≤ now ∧ now ≤ m'.clock ∧ m'.state =
      { m.state with tables := if covers b now then
          m.state.tables.updateCurrentBooking b.tableID (currentBookingOf b)
        else m.state.tables } := by
  obtain ⟨now, hclock, hle, ⟨hcovers, m₁, _, hrun, hstate⟩ | ⟨hcovers, hstate⟩⟩ :=
    runs_sync (c := covers b) h
  · refine ⟨now, hclock, hle, ?_⟩
    rw [hstate, runs_cacheWrite hrun, hcovers]
    rfl
  · refine ⟨now, hclock, hle, ?_⟩
    rw [hstate, hcovers]
    rfl

/-- An update alone. -/
theorem runs_updateBooking {id : String} {dto : UpdateBookingInput}
    (h : Prog.Runs (onVenue E) i (updateBooking id dto) m r m') :
    RequestEffect (faultsOf E) (.update id dto) r m m' := by
  have hclock := h.clock_le
  rcases runs_withFresh h with
    ⟨e, rfl, hstate, hmissed⟩ | ⟨d, hd, hid, hl, now, m₁, hnow, hbody, hstate, hclock₁⟩
  · exact .refused hclock hstate (.updateMissed hmissed)
  · unfold updateFresh at hbody
    split at hbody
    · rename_i e hwindow
      obtain ⟨rfl, rfl⟩ := Prog.runs_ret.1 hbody
      exact .refused hclock hstate (.updateInvalid hd hid hl hwindow)
    · rename_i window hwindow
      obtain ⟨checked, ⟨v, now₂⟩, hcheck, hbody⟩ := Prog.runs_bind.1 hbody
      have hnow₂ := hcheck.clock_le
      obtain ⟨hv, hfree⟩ := runs_checkWindow hcheck
      simp only at hv
      subst hv
      rcases hfree with ⟨rfl, hfree⟩ | ⟨newIn, newOut, f, rfl, hf, ⟨e, rfl, ho⟩ | ⟨rfl, ho⟩⟩
      · simp only [BookingRepository.save, Prog.call_bind] at hbody
        obtain ⟨e', answer, v, he', hnow₃, ⟨c, hsave, rfl⟩, hbody⟩ := venue_act hbody
        rcases m.state.bookings.save_cases e'.fault (updated_id (docToBooking d) dto window) with
          ⟨err, hfault, hfail⟩ | ⟨-, hok⟩
        · rw [hfail] at hsave
          cases hsave
          obtain ⟨rfl, rfl⟩ := Prog.runs_ret.1 hbody
          exact .refused hclock hstate
            (.updateFailed hd hid hl hwindow hfree ⟨e', he', hfault⟩)
        · rw [hok] at hsave
          cases hsave
          obtain ⟨_, m₄, hsync, hbody⟩ := Prog.runs_bind.1 hbody
          obtain ⟨rfl, rfl⟩ := Prog.runs_ret.1 hbody
          obtain ⟨syncNow, h₁, h₂, hsynced⟩ := runs_syncUpdated hsync
          have hsyncNow : m.clock ≤ syncNow := hnow.trans (hnow₂.trans (hnow₃.trans h₁))
          rw [hsynced] at hstate
          refine ⟨?_, ⟨syncNow, hsyncNow, h₂.trans hclock₁, by rw [hstate]; rfl⟩, ?_, ?_, ?_⟩ <;>
            rw [hstate]
          exact .updated hd hid hl hwindow hfree
      · obtain ⟨rfl, rfl⟩ := Prog.runs_ret.1 hbody
        exact .refused hclock hstate (.updateUnchecked hd hid hl hwindow hf ho)
      · obtain ⟨rfl, rfl⟩ := Prog.runs_ret.1 hbody
        exact .refused hclock hstate (.updateConflict hd hid hl hwindow hf ho)

theorem runs_syncCancelled {id : String} {b : Booking} {a : Unit}
    (h : Prog.Runs (onVenue E) i (syncCancelled id b) m a m') :
    ∃ now, m.clock ≤ now ∧ now ≤ m'.clock ∧ m'.state =
      { m.state with tables := (Request.cancel id).sync b now m.state.tables } := by
  obtain ⟨now, hclock, hle, hcases⟩ := runs_sync (c := covers b) h
  refine ⟨now, hclock, hle, ?_⟩
  rcases hcases with ⟨hcovers, m₁, _, hrun, hstate⟩ | ⟨hcovers, hstate⟩ <;> rw [hstate]
  · simp only [TableService.getTable, TableCache.getTable, Prog.call_bind] at hrun
    obtain ⟨e, table, -, -, ⟨rfl, -⟩, hrun⟩ := venue_aside rfl hrun
    rcases hrun.when_cases with ⟨hseen, hrun⟩ | ⟨hseen, rfl⟩
    · have hstate := runs_deactivateTable hrun
      rw [hstate, Request.sync, if_pos ⟨hcovers, of_decide_eq_true hseen⟩]
      rfl
    · have hseen := of_decide_eq_false hseen
      rw [Request.sync, if_neg (fun h => hseen h.2)]
  · rw [Request.sync, if_neg (by simp [hcovers])]

/-- A cancellation alone. -/
theorem runs_cancelBooking {id : String}
    (h : Prog.Runs (onVenue E) i (cancelBooking id) m r m') :
    RequestEffect (faultsOf E) (.cancel id) r m m' := by
  have hclock := h.clock_le
  rcases runs_withFresh h with
    ⟨e, rfl, hstate, hmissed⟩ | ⟨d, hd, hid, hl, now, m₁, hnow, hbody, hstate, hclock₁⟩
  · exact .refused hclock hstate (.cancelMissed hmissed)
  · simp only [cancelFresh, BookingRepository.save, Prog.call_bind] at hbody
    obtain ⟨e', answer, v, he', hnow₃, ⟨c, hsave, rfl⟩, hbody⟩ := venue_act hbody
    have hb : (cancelled (docToBooking d)).id = d.id.hex := rfl
    rcases m.state.bookings.save_cases e'.fault hb with ⟨err, hfault, hfail⟩ | ⟨-, hok⟩
    · rw [hfail] at hsave
      cases hsave
      obtain ⟨rfl, rfl⟩ := Prog.runs_ret.1 hbody
      exact .refused hclock hstate (.cancelFailed hd hid hl ⟨e', he', hfault⟩)
    · rw [hok] at hsave
      cases hsave
      obtain ⟨_, m₄, hsync, hbody⟩ := Prog.runs_bind.1 hbody
      obtain ⟨rfl, rfl⟩ := Prog.runs_ret.1 hbody
      obtain ⟨syncNow, h₁, h₂, hsynced⟩ := runs_syncCancelled hsync
      have hsyncNow : m.clock ≤ syncNow := hnow.trans (hnow₃.trans h₁)
      rw [hsynced] at hstate
      refine ⟨?_, ⟨syncNow, hsyncNow, h₂.trans hclock₁, by rw [hstate]; rfl⟩, ?_, ?_, ?_⟩ <;>
        rw [hstate]
      exact .cancelled hd hid hl

/-- A booking request alone. -/
theorem runs_request {req : Request} (h : Prog.Runs (onVenue E) i req.program m r m') :
    RequestEffect (faultsOf E) req r m m' := by
  cases req with
  | create dto createdBy role => exact runs_createBooking h
  | update id dto => exact runs_updateBooking h
  | cancel id => exact runs_cancelBooking h

end

end GbcVenue
