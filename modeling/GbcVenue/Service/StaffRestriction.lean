import GbcVenue.Service.Timeline

/-!
# The restriction of staff to the current day

`CreateBooking` refuses staff a check-in that is past and before the current operational day;
`UpdateBooking` does not know the role. In a run of creations and updates by staff each check-in is as
the restriction wants it if no update names one that is past when it arrives: `staff_keep_day`.
-/

namespace GbcVenue

open Interleaving BookingService GoTime

/-- What `CreateBooking` takes for the opening and the closing time, if the read of the configuration
ends with `fault`. -/
def timesRead (fault : Option String) (config : Option VenueConfig) : String × String :=
  timesOf (if fault.isSome then none else config)

/-- The restriction of `CreateBooking` at `now`: the check-in is not before `now`, or not before the
start of the operational day that it computes then. -/
def AllowedToStaff (E : Env → Prop) (w : World) (now checkIn : Int) : Prop :=
  now ≤ checkIn ∨ ∃ f, faultsOf E f ∧ beforeOperationalDay w.venueOffset checkIn now
    (timesRead f w.config).1 (timesRead f w.config).2 = false

/-- A creation or an update by staff; the route of the update hands on no role. -/
def Request.byStaff : Request → Prop
  | .create _ _ role => role = "staff"
  | .update .. => True
  | .cancel _ => False

/-- The text of the check-in that a request sets, if it sets one. -/
def Request.checkInText : Request → Option String
  | .create dto _ _ => some dto.checkInTime
  | .update _ dto => if dto.checkInTime = "" then none else some dto.checkInTime
  | .cancel _ => none

/-- A request of staff, the moment at which it arrives and its answer. -/
structure StaffRequest where
  req : Request
  byStaff : req.byStaff
  arrived : Int
  reply : Reply

/-- The backend serves a request that arrives. -/
def Serves (E : Env → Prop) (m : Timed World Int) (s : StaffRequest) (m' : Timed World Int) : Prop :=
  m.clock ≤ s.arrived ∧ Prog.Runs (backend E) 0 s.req.program ⟨m.state, s.arrived⟩ s.reply m'

/-- The booking is stored with its check-in, of which the database keeps the milliseconds. -/
def HasCheckIn (c : BookingCollection) (b : Booking) : Prop :=
  ∃ d ∈ c.docs, d.id.hex = b.id ∧ d.checkInTime = unixMilli b.checkInTime

/-- If the request sets a check-in and succeeds, the booking that it answers is stored with a check-in
that the restriction allows while the request is served. -/
def KeepsDay (E : Env → Prop) (m : Timed World Int) (s : StaffRequest) (m' : Timed World Int) : Prop :=
  ∀ b, s.reply = .ok b → s.req.checkInText ≠ none → HasCheckIn m'.state.bookings b ∧
    ∃ now, s.arrived ≤ now ∧ now ≤ m'.clock ∧ AllowedToStaff E m.state now b.checkInTime

/-- An update names no check-in that is past when it arrives. -/
def NamesNoPast (s : StaffRequest) : Prop :=
  ∀ id dto checkIn, s.req = .update id dto → parseRFC3339 dto.checkInTime = some checkIn →
    s.arrived ≤ checkIn

/-! ## What a run does not change -/

/-- Later, with the same configuration and the same zone. -/
structure Later (m m' : Timed World Int) : Prop where
  clock : m.clock ≤ m'.clock
  config : m'.state.config = m.state.config
  venueOffset : m'.state.venueOffset = m.state.venueOffset

theorem Later.trans {m m' m'' : Timed World Int} (h : Later m m') (h' : Later m' m'') : Later m m'' :=
  ⟨h.clock.trans h'.clock, h'.config.trans h.config, h'.venueOffset.trans h.venueOffset⟩

section

variable {α : Type} {E : Env → Prop} {i : Nat} {m m' : Timed World Int} {a : α}

theorem later_of_step {o : Op} {r : Res o} (h : backend E i o m r m') : Later m m' := by
  obtain ⟨hclock, e, -, hperf⟩ := h
  obtain ⟨hconfig, hoffset, -⟩ := perform_frame hperf
  exact ⟨hclock, hconfig, hoffset⟩

theorem later_of_runs {p : Go α} (h : Prog.Runs (backend E) i p m a m') : Later m m' := by
  induction h with
  | ret a m => exact ⟨le_rfl, rfl, rfl⟩
  | act h _ ih => exact (later_of_step h).trans ih

/-! ## Creations -/

theorem runs_venueTimes_read {times : String × String}
    (h : Prog.Runs (backend E) i venueTimes m times m') :
    ∃ f, faultsOf E f ∧ times = timesRead f m.state.config := by
  simp only [venueTimes, ConfigRepository.get, Prog.call_bind] at h
  obtain ⟨r, m₁, ⟨-, e, ⟨-, he⟩, hperf⟩, h⟩ := Prog.runs_act.1 h
  refine ⟨e.fault, ⟨e, he, rfl⟩, ?_⟩
  simp only [perform, Option.some.injEq, Prod.mk.injEq] at hperf
  obtain ⟨rfl, -⟩ := hperf
  cases hfault : e.fault with
  | some err =>
    rw [hfault] at h
    exact (Prog.runs_ret.1 h).1
  | none =>
    rw [hfault] at h
    cases hconfig : m.state.config with
    | none =>
      rw [hconfig] at h
      exact (Prog.runs_ret.1 h).1
    | some cfg =>
      rw [hconfig] at h
      exact (Prog.runs_ret.1 h).1

/-- The restriction lets staff through only where it allows the check-in. -/
theorem allowed_of_staffRefused {checkIn now : Int}
    (h : Prog.Runs (backend E) i (staffRefused checkIn now "staff") m false m') :
    AllowedToStaff E m.state now checkIn := by
  unfold staffRefused at h
  by_cases hpast : checkIn < now
  · rw [if_pos ⟨hpast, by decide⟩] at h
    obtain ⟨times, m₁, htimes, h⟩ := Prog.runs_bind.1 h
    obtain ⟨f, hf, rfl⟩ := runs_venueTimes_read htimes
    simp only [venueLocation, Prog.call_bind] at h
    obtain ⟨offset, m₂, ⟨-, e, -, hperf⟩, h⟩ := Prog.runs_act.1 h
    simp only [perform, Option.some.injEq, Prod.mk.injEq] at hperf
    obtain ⟨rfl, -⟩ := hperf
    rw [(later_of_runs htimes).venueOffset] at h
    exact .inr ⟨f, hf, (Prog.runs_ret.1 h).1.symm⟩
  · exact .inl (not_lt.1 hpast)

/-- A creation by staff that succeeds reads the clock at a moment at which the restriction allows its
check-in. -/
theorem allowed_of_createBooking {dto : CreateBookingInput} {createdBy : String} {b : Booking}
    (h : Prog.Runs (backend E) i (createBooking dto createdBy "staff") m (.ok b) m') :
    ∃ checkIn checkOut duration now,
      parseTimes dto.checkInTime dto.checkOutTime = .ok (checkIn, checkOut, duration) ∧
      m.clock ≤ now ∧ now ≤ m'.clock ∧ AllowedToStaff E m.state now checkIn := by
  obtain ⟨mutex, m₁, hmutex, h⟩ := Prog.runs_bind.1 h
  simp only [withLock, Prog.call_bind, Prog.pure_eq] at h
  obtain ⟨_, m₂, hlock, h⟩ := Prog.runs_act.1 h
  have hbefore := (later_of_runs hmutex).trans (later_of_step hlock)
  obtain ⟨r, m₃, hbody, h⟩ := Prog.runs_bind.1 h
  have hafter := (later_of_runs h).clock
  obtain ⟨_, m₄, -, h⟩ := Prog.runs_act.1 h
  obtain ⟨rfl, -⟩ := Prog.runs_ret.1 h
  unfold createLocked at hbody
  split at hbody
  · cases (Prog.runs_ret.1 hbody).1
  · rename_i checkIn checkOut duration hparse
    simp only [timeNow, Prog.call_bind] at hbody
    obtain ⟨now, m₅, hnow, hbody⟩ := Prog.runs_act.1 hbody
    have hread : now = m₅.clock := by
      obtain ⟨-, e, ⟨hclock, -⟩, hperf⟩ := hnow
      simp only [perform, Option.some.injEq, Prod.mk.injEq] at hperf
      exact hperf.1.symm.trans hclock
    have hlater := hbefore.trans (later_of_step hnow)
    have hstop := (later_of_runs hbody).clock.trans hafter
    obtain ⟨refused, m₆, hrefused, hbody⟩ := Prog.runs_bind.1 hbody
    cases refused with
    | true => cases (Prog.runs_ret.1 hbody).1
    | false =>
      have hallowed := allowed_of_staffRefused hrefused
      unfold AllowedToStaff at hallowed
      rw [hlater.config, hlater.venueOffset] at hallowed
      subst hread
      exact ⟨checkIn, checkOut, duration, m₅.clock, hparse, hlater.clock, hstop, hallowed⟩

end

/-! ## The written record -/

section

variable {faults : Option String → Prop} {c c' : BookingCollection} {b : Booking}

theorem SpecStep.checkIn_created {dto : CreateBookingInput} {createdBy role : String}
    (h : SpecStep faults (.create dto createdBy role) c (.ok b) c') :
    HasCheckIn c' b ∧ ∃ checkOut duration, parseTimes dto.checkInTime dto.checkOutTime =
      .ok (b.checkInTime, checkOut, duration) := by
  generalize hreply : (Except.ok b : Reply) = r at h
  cases h with
  | created hparse _ _ hcreate =>
    obtain rfl := Except.ok.inj hreply
    obtain ⟨rfl, hdocs, -⟩ := created_docs hcreate
    refine ⟨?_, _, _, hparse⟩
    rw [HasCheckIn, hdocs]
    exact ⟨_, List.mem_append_right _ List.mem_cons_self,
      congrArg ObjectID.hex (BookingCollection.newDoc_id ..), BookingCollection.newDoc_checkInTime ..⟩
  | _ => cases hreply

theorem SpecStep.checkIn_updated {id : String} {dto : UpdateBookingInput}
    (h : SpecStep faults (.update id dto) c (.ok b) c') (hset : dto.checkInTime ≠ "") :
    HasCheckIn c' b ∧ parseRFC3339 dto.checkInTime = some b.checkInTime := by
  obtain ⟨d, hd, -, -, window, hwindow, -, rfl, rfl⟩ := h.of_updated
  constructor
  · refine ⟨updatedDoc d dto window, ?_, (updated_id (docToBooking d) dto window).symm, rfl⟩
    exact BookingCollection.mem_replaceOne.2 (.inl ⟨rfl, d, hd, rfl⟩)
  · rcases requestedWindow_cases hwindow with ⟨hempty, -, -⟩ | ⟨newIn, newOut, rfl, -, hin, -⟩
    · exact absurd hempty hset
    · rw [if_neg hset] at hin
      exact hin

end

/-! ## Runs of requests -/

/-- One request. -/
theorem Serves.keepsDay {E : Env → Prop} {m m' : Timed World Int} {s : StaffRequest} (h : Serves E m s m')
    (hnames : NamesNoPast s) : KeepsDay E m s m' := by
  obtain ⟨-, hrun⟩ := h
  obtain ⟨req, hstaff, arrived, reply⟩ := s
  rintro b hreply hset
  obtain rfl : reply = .ok b := hreply
  have hstore := (runs_request (hrun.simulate (venue_simulates E))).store
  cases req with
  | create dto createdBy role =>
    obtain rfl : role = "staff" := hstaff
    obtain ⟨checkIn, checkOut, duration, now, hparse, hnow, hstop, hallowed⟩ :=
      allowed_of_createBooking hrun
    obtain ⟨hstored, checkOut', duration', hparse'⟩ := hstore.checkIn_created
    rw [hparse, Except.ok.injEq, Prod.mk.injEq] at hparse'
    rw [hparse'.1] at hallowed
    exact ⟨hstored, now, hnow, hstop, hallowed⟩
  | update id dto =>
    have hnonempty : dto.checkInTime ≠ "" := by
      intro hempty
      exact hset (if_pos hempty)
    obtain ⟨hstored, hparse⟩ := hstore.checkIn_updated hnonempty
    exact ⟨hstored, arrived, le_rfl, (later_of_runs hrun).clock, .inl (hnames id dto _ rfl hparse)⟩
  | cancel id => exact absurd rfl hset

/-- In a run of requests by staff whose updates name no past check-in, every write that sets a check-in
keeps to the restriction. -/
theorem staff_keep_day {E : Env → Prop} {m₀ m : Timed World Int}
    {l : List (Timed World Int × StaffRequest × Timed World Int)} (hrun : Steps (Serves E) m₀ l m)
    (hnames : ∀ step ∈ l, NamesNoPast step.2.1) :
    ∀ step ∈ l, KeepsDay E step.1 step.2.1 step.2.2 :=
  fun step hmem => (hrun.of_mem step hmem).keepsDay (hnames step hmem)

/-- A venue that is open from nine to six, at nine o'clock. -/
def openAtNine : Timed World Int :=
  ⟨World.start .empty (some ⟨0, "06:00", "09:00", 0⟩) 0, nineOClock.now⟩

/-- A request for a new window. -/
def moveTo (checkInTime checkOutTime : String) : UpdateBookingInput :=
  ⟨none, none, checkInTime, checkOutTime, none, none⟩

/-- At nine o'clock staff book table 1 from ten to eleven, and then move the booking. -/
def bookAndMove (checkInTime checkOutTime : String) :
    Option ((Reply × Timed World Int) × (Reply × Timed World Int)) := do
  let p ← complete (List.replicate 60 nineOClock) (createBooking askTenToEleven "ann" "staff")
    openAtNine
  let q ← complete (List.replicate 60 nineOClock)
    (updateBooking (ObjectID.ofNat 7).hex (moveTo checkInTime checkOutTime)) p.2
  return (p, q)

/-- The two requests as a run. -/
theorem exists_move (checkInTime checkOutTime : String)
    (h : (bookAndMove checkInTime checkOutTime).any fun (p, q) =>
      p.2.clock = nineOClock.now ∧ q.1.isOk ∧ q.2.clock = nineOClock.now) :
    ∃ s₁ m₁ s₂ m₂ b, Steps (Serves noFaults) openAtNine [(openAtNine, s₁, m₁), (m₁, s₂, m₂)] m₂ ∧
      s₁.req = .create askTenToEleven "ann" "staff" ∧
      s₂.req = .update (ObjectID.ofNat 7).hex (moveTo checkInTime checkOutTime) ∧
      s₂.reply = .ok b ∧ s₂.arrived = nineOClock.now ∧ m₂.clock = nineOClock.now ∧
      Later openAtNine m₁ := by
  obtain ⟨⟨⟨r, m₁⟩, ⟨r', m₂⟩⟩, hrun, hvals⟩ := (Option.any_eq_true _ _).1 h
  simp only [decide_eq_true_eq] at hvals
  obtain ⟨hclock, hok, hclock'⟩ := hvals
  unfold bookAndMove at hrun
  obtain ⟨p, hbook, hrun⟩ := Option.bind_eq_some_iff.1 hrun
  obtain ⟨q, hmove, hpair⟩ := Option.bind_eq_some_iff.1 hrun
  cases hpair
  have hnone := noFaults_replicate 60 nineOClock rfl
  have hbooked := runs_of_complete hnone hbook
  have hmoved := runs_of_complete hnone hmove
  cases r' with
  | error e => cases hok
  | ok b =>
    refine ⟨⟨.create askTenToEleven "ann" "staff", rfl, nineOClock.now, r⟩, m₁,
      ⟨.update _ _, trivial, nineOClock.now, .ok b⟩, m₂, b, ?_, rfl, rfl, rfl, rfl, hclock',
      later_of_runs hbooked⟩
    refine .snoc (l := [_]) (.snoc (l := []) .nil ⟨le_rfl, hbooked⟩) ⟨hclock.le, ?_⟩
    rw [← hclock]
    exact hmoved

/-- From half past ten on. -/
theorem staff_keep_day_half_past_ten : ∃ m₁ s₂ m₂ b, s₂.reply = .ok b ∧
    KeepsDay noFaults m₁ s₂ m₂ := by
  obtain ⟨s₁, m₁, s₂, m₂, b, hrun, hs₁, hs₂, hreply, harrived, hclock, -⟩ :=
    exists_move "2030-01-01T10:30:00Z" "2030-01-01T11:30:00Z" (by decide +kernel)
  refine ⟨m₁, s₂, m₂, b, hreply, staff_keep_day hrun ?_ _ (.tail _ List.mem_cons_self)⟩
  intro step hmem id dto checkIn hreq hparse
  rcases List.mem_cons.1 hmem with rfl | hmem
  · cases hs₁.symm.trans hreq
  · obtain rfl := List.mem_singleton.1 hmem
    cases hs₂.symm.trans hreq
    have hten : parseRFC3339 "2030-01-01T10:30:00Z" = some (ofUnixMilli 1893493800000) := by decide
    obtain rfl := Option.some.inj (hten.symm.trans hparse)
    rw [harrived]
    decide

/-- Into the week before. -/
theorem staff_can_move_into_past :
    ¬ ∀ (cfg : VenueConfig) (offset start : Int) (m : Timed World Int)
      (l : List (Timed World Int × StaffRequest × Timed World Int)),
      Steps (Serves noFaults) ⟨World.start .empty (some cfg) offset, start⟩ l m →
      ∀ step ∈ l, KeepsDay noFaults step.1 step.2.1 step.2.2 := by
  intro hclaim
  obtain ⟨s₁, m₁, s₂, m₂, b, hrun, -, hs₂, hreply, harrived, hclock, hlater⟩ :=
    exists_move "2029-12-25T10:00:00Z" "2029-12-25T11:00:00Z" (by decide +kernel)
  have hserves := (hrun.of_mem _ (.tail _ List.mem_cons_self)).2
  have hstore := (runs_request (hserves.simulate (venue_simulates noFaults))).store
  have hset : s₂.req.checkInText ≠ none := by
    rw [hs₂]
    decide
  obtain ⟨-, now, hnow, hstop, hallowed⟩ :=
    hclaim _ _ _ _ _ hrun _ (.tail _ List.mem_cons_self) b hreply hset
  obtain rfl : now = nineOClock.now := le_antisymm (hclock ▸ hstop) (harrived ▸ hnow)
  rw [hs₂, hreply] at hstore
  obtain ⟨-, hparse⟩ := hstore.checkIn_updated (by decide)
  have hweek : parseRFC3339 "2029-12-25T10:00:00Z" = some (ofUnixMilli 1892887200000) := by decide
  obtain hin := Option.some.inj (hweek.symm.trans hparse)
  rw [← hin] at hallowed
  unfold AllowedToStaff at hallowed
  rw [hlater.config, hlater.venueOffset] at hallowed
  rcases hallowed with hpast | ⟨f, ⟨e, he, rfl⟩, hday⟩
  · exact absurd hpast (by decide)
  · rw [he] at hday
    exact absurd hday (by decide)

end GbcVenue
