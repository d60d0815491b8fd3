import GbcVenue.Service.Effect
import GbcVenue.Service.RequestLogs

/-!
# Booking requests that fail

`failed_request_leaves_no_trace`: a request of which a step up to its write fails answers with an error,
and one that answers with an error leaves the bookings, the cache, the commands and the timelines as they
are. What follows the write cannot fail it: a timeline that cannot be read is not sent, and that is all.
-/

namespace GbcVenue

open Interleaving GoTime BookingService

namespace BookingService

/-- A call that the booking service makes of a repository, and that answered with an error it returns. -/
def failedCall : (o : Op) × Res o → Bool
  | ⟨.findByID _, .error _⟩ | ⟨.hasOverlap .., .error _⟩ | ⟨.create _, .error _⟩
  | ⟨.save _, .error _⟩ => true
  | _ => false

/-- The read of the timeline that follows a write, with an error, which is logged
(`booking_service.go:305-308`). -/
def failedTimeline : (o : Op) × Res o → Bool
  | ⟨.findTimeline .., .error _⟩ => true
  | _ => false

/-- Any call of a repository that answered with an error. -/
def failedRead : (o : Op) × Res o → Bool
  | ⟨.getConfig, .error _⟩ => true
  | x => failedCall x || failedTimeline x

/-- The first clock reading of a log, and what follows it. -/
def firstNow : Log Res → Option (Int × Log Res)
  | [] => none
  | ⟨.now, now⟩ :: l => some (now, l)
  | _ :: l => firstNow l

/-- The opening and closing times for an answer of `configRepo.Get`, the defaults for an error. -/
def timesAnswered (cfg : Except GoError (Option VenueConfig)) : String × String :=
  timesOf cfg.toOption.join

/-- The temporal restriction refuses a creation: the check-in is past at its first clock reading, the role
is not admin, and the check-in lies before the operational day of the times that are read then. -/
def Restricted (dto : CreateBookingInput) (role : String) (l : Log Res) : Prop :=
  role ≠ "admin" ∧ ∃ checkIn now cfg offset rest, parseRFC3339 dto.checkInTime = some checkIn ∧
    firstNow l = some (now, ⟨.getConfig, cfg⟩ :: ⟨.venueLocation, offset⟩ :: rest) ∧ checkIn < now ∧
      beforeOperationalDay offset checkIn now (timesAnswered cfg).1 (timesAnswered cfg).2

/-- An end of the window that an update asks for: as stored, if the request leaves it. -/
def askedEnd (stored : Int) (text : String) : Option Int :=
  if text = "" then some stored else parseRFC3339 text

/-- A step of a request, up to its write, fails. -/
inductive StepFails (c : BookingCollection) (l : Log Res) : Request → Prop
  | repository {req : Request} {x : (o : Op) × Res o} (hx : x ∈ l) (h : failedCall x) :
      StepFails c l req
  | createMalformed {dto : CreateBookingInput} {createdBy role : String}
      (h : parseRFC3339 dto.checkInTime = none ∨ parseRFC3339 dto.checkOutTime = none) :
      StepFails c l (.create dto createdBy role)
  | createReversed {dto : CreateBookingInput} {createdBy role : String} {checkIn checkOut : Int}
      (hin : parseRFC3339 dto.checkInTime = some checkIn)
      (hout : parseRFC3339 dto.checkOutTime = some checkOut) (h : checkOut ≤ checkIn) :
      StepFails c l (.create dto createdBy role)
  | createRestricted {dto : CreateBookingInput} {createdBy role : String}
      (h : Restricted dto role l) : StepFails c l (.create dto createdBy role)
  | createOverlap {dto : CreateBookingInput} {createdBy role : String} {checkIn checkOut : Int}
      (hin : parseRFC3339 dto.checkInTime = some checkIn)
      (hout : parseRFC3339 dto.checkOutTime = some checkOut)
      (h : c.overlapping dto.tableID checkIn checkOut none) : StepFails c l (.create dto createdBy role)
  | updateMissing {id : String} {dto : UpdateBookingInput}
      (h : ∀ d ∈ c.docs, objectIDFromHex id = some d.id → ¬ d.live) : StepFails c l (.update id dto)
  | updateMalformed {id : String} {dto : UpdateBookingInput} {d : BookingDoc} (hd : d ∈ c.docs)
      (hid : objectIDFromHex id = some d.id)
      (h : askedEnd (ofUnixMilli d.checkInTime) dto.checkInTime = none ∨
        askedEnd (ofUnixMilli d.checkOutTime) dto.checkOutTime = none) : StepFails c l (.update id dto)
  | updateReversed {id : String} {dto : UpdateBookingInput} {d : BookingDoc} {newIn newOut : Int}
      (hd : d ∈ c.docs) (hid : objectIDFromHex id = some d.id)
      (htimes : dto.checkInTime ≠ "" ∨ dto.checkOutTime ≠ "")
      (hin : askedEnd (ofUnixMilli d.checkInTime) dto.checkInTime = some newIn)
      (hout : askedEnd (ofUnixMilli d.checkOutTime) dto.checkOutTime = some newOut)
      (h : newOut ≤ newIn) : StepFails c l (.update id dto)
  | updateOverlap {id : String} {dto : UpdateBookingInput} {d : BookingDoc} {newIn newOut : Int}
      (hd : d ∈ c.docs) (hid : objectIDFromHex id = some d.id)
      (htimes : dto.checkInTime ≠ "" ∨ dto.checkOutTime ≠ "")
      (hin : askedEnd (ofUnixMilli d.checkInTime) dto.checkInTime = some newIn)
      (hout : askedEnd (ofUnixMilli d.checkOutTime) dto.checkOutTime = some newOut)
      (h : c.overlapping d.tableID newIn newOut (some d.id)) : StepFails c l (.update id dto)
  | cancelMissing {id : String} (h : ∀ d ∈ c.docs, objectIDFromHex id = some d.id → ¬ d.live) :
      StepFails c l (.cancel id)

/-- What a failed request may not change. -/
structure NoTrace (w w' : World) : Prop where
  bookings : w'.bookings = w.bookings
  tables : w'.tables = w.tables
  mqttCmdChan : w'.mqttCmdChan = w.mqttCmdChan
  timelineChan : w'.timelineChan = w.timelineChan

/-- Document `d'` is `d` but for the fields that the request has, and the duration that goes with a new
window. -/
structure Patched (dto : UpdateBookingInput) (d d' : BookingDoc) : Prop where
  fields : d' = { d with
    bookerName := dto.bookerName.getD d.bookerName
    bookerMobile := dto.bookerMobile.getD d.bookerMobile
    checkInTime := d'.checkInTime
    checkOutTime := d'.checkOutTime
    durationMinutes := d'.durationMinutes
    amount := dto.amount.getD d.amount
    isPaid := dto.isPaid.getD d.isPaid }
  checkInTime : (askedEnd (ofUnixMilli d.checkInTime) dto.checkInTime).map unixMilli =
    some d'.checkInTime
  checkOutTime : (askedEnd (ofUnixMilli d.checkOutTime) dto.checkOutTime).map unixMilli =
    some d'.checkOutTime
  durationMinutes : dto.checkInTime = "" → dto.checkOutTime = "" →
    d'.durationMinutes = d.durationMinutes

/-! ## Logs of the parts -/

/-- The actions that only follow a write. -/
def afterWrite : Op → Bool
  | .write _ | .sendMqtt _ | .sendTimeline _ | .findTimeline .. => true
  | _ => false

theorem afterWrite_of_failedTimeline {x : (o : Op) × Res o} (h : failedTimeline x) :
    afterWrite x.1 := by
  obtain ⟨o, r⟩ := x
  cases o <;> first | rfl | cases h

/-- Nothing in the log fails the request or follows a write. -/
def Passed (l : Log Res) : Prop := ∀ x ∈ l, ¬ afterWrite x.1 ∧ ¬ failedCall x

/-- What the log of a request with reply `r` has and does not have: after an error nothing that follows a
write, and otherwise no failed call, and no timeline sent if its read failed. -/
def Replied (l : Log Res) : Reply → Prop
  | .error _ => ∀ x ∈ l, ¬ afterWrite x.1
  | .ok _ => (∀ x ∈ l, ¬ failedCall x) ∧
      ((∃ x ∈ l, failedTimeline x) → ∀ x ∈ l, ∀ timeline, x.1 ≠ .sendTimeline timeline)

section

variable {l l₁ l₂ : Log Res} {r : Reply}

theorem passed_nil : Passed [] := fun _ hx => absurd hx List.not_mem_nil

theorem Passed.cons {o : Op} {a : Res o} (ho : afterWrite o = false) (ha : failedCall ⟨o, a⟩ = false)
    (h : Passed l) : Passed (⟨o, a⟩ :: l) := by
  intro x hx
  rcases List.mem_cons.1 hx with rfl | hx
  · exact ⟨Bool.eq_false_iff.1 ho, Bool.eq_false_iff.1 ha⟩
  · exact h x hx

theorem Passed.append (h₁ : Passed l₁) (h₂ : Passed l₂) : Passed (l₁ ++ l₂) := by
  intro x hx
  rcases List.mem_append.1 hx with hx | hx
  · exact h₁ x hx
  · exact h₂ x hx

theorem Passed.not_failedTimeline (h : Passed l) : ∀ x ∈ l, ¬ failedTimeline x :=
  fun x hx hfailed => (h x hx).1 (afterWrite_of_failedTimeline hfailed)

theorem Passed.not_sendTimeline (h : Passed l) :
    ∀ x ∈ l, ∀ timeline, x.1 ≠ .sendTimeline timeline := by
  intro x hx timeline heq
  have hx := (h x hx).1
  rw [heq] at hx
  exact hx rfl

/-- What passes before an answer makes no difference to it. -/
theorem Replied.prepend (h₁ : Passed l₁) (h : Replied l r) : Replied (l₁ ++ l) r := by
  cases r with
  | error e =>
    intro x hx
    rcases List.mem_append.1 hx with hx | hx
    · exact (h₁ x hx).1
    · exact h x hx
  | ok b =>
    obtain ⟨hcalls, htimeline⟩ := h
    refine ⟨fun x hx => ?_, ?_⟩
    · rcases List.mem_append.1 hx with hx | hx
      · exact (h₁ x hx).2
      · exact hcalls x hx
    · rintro ⟨x, hx, hfailed⟩ y hy
      rcases List.mem_append.1 hx with hx | hx
      · exact absurd hfailed (h₁.not_failedTimeline x hx)
      · rcases List.mem_append.1 hy with hy | hy
        · exact h₁.not_sendTimeline y hy
        · exact htimeline ⟨x, hx, hfailed⟩ y hy

theorem Replied.cons {o : Op} {a : Res o} (ho : afterWrite o = false) (ha : failedCall ⟨o, a⟩ = false)
    (h : Replied l r) : Replied (⟨o, a⟩ :: l) r :=
  h.prepend (.cons ho ha passed_nil)

/-- Neither does what passes after it. -/
theorem Replied.append (h : Replied l r) (h₂ : Passed l₂) : Replied (l ++ l₂) r := by
  have hmem : ∀ x, x ∈ l ++ l₂ → x ∈ l₂ ++ l := fun x hx => by
    rw [List.mem_append] at hx ⊢
    exact hx.symm
  have hswap := h.prepend h₂
  cases r with
  | error e => exact fun x hx => hswap x (hmem x hx)
  | ok b =>
    refine ⟨fun x hx => hswap.1 x (hmem x hx), ?_⟩
    rintro ⟨x, hx, hfailed⟩ y hy
    exact hswap.2 ⟨x, hmem x hx, hfailed⟩ y (hmem y hy)

/-- An error that is answered before the write. -/
theorem Replied.error {e : GoError} (h : Passed l) : Replied l (.error e) := fun x hx => (h x hx).1

/-- An error on the answer of one call. -/
theorem replied_single {o : Op} {a : Res o} {e : GoError} (ho : afterWrite o = false) :
    Replied [⟨o, a⟩] (.error e) := by
  intro x hx
  obtain rfl := List.mem_singleton.1 hx
  exact Bool.eq_false_iff.1 ho

end

/-- A critical section answers what its body does. -/
theorem Replied.locked {m : MutexRef} {l : Log Res} {r : Reply} (h : Replied l r) :
    Replied ([⟨.lock m, ()⟩] ++ (l ++ [⟨.unlock m, ()⟩])) r :=
  .cons rfl rfl (h.append (.cons rfl rfl passed_nil))

/-- A log begins with a clock reading, or with what `firstNow` passes over. -/
theorem firstNow_cons (x : (o : Op) × Res o) :
    (∃ now : Int, x = ⟨.now, now⟩) ∨ ∀ l, firstNow (x :: l) = firstNow l := by
  obtain ⟨o, r⟩ := x
  cases o
  case now => exact .inl ⟨r, rfl⟩
  all_goals exact .inr fun l => rfl

@[simp] theorem firstNow_now (now : Int) (l : Log Res) :
    firstNow (⟨.now, now⟩ :: l) = some (now, l) := rfl

theorem firstNow_append {l₁ : Log Res} (h : firstNow l₁ = none) (l₂ : Log Res) :
    firstNow (l₁ ++ l₂) = firstNow l₂ := by
  induction l₁ with
  | nil => rfl
  | cons x l₁ ih =>
    rcases firstNow_cons x with ⟨now, rfl⟩ | hnext
    · cases h
    · rw [List.cons_append, hnext]
      exact ih ((hnext l₁).symm.trans h)

theorem firstNow_append_of_some {l₁ rest : Log Res} {now : Int} (h : firstNow l₁ = some (now, rest))
    (l₂ : Log Res) : firstNow (l₁ ++ l₂) = some (now, rest ++ l₂) := by
  induction l₁ with
  | nil => cases h
  | cons x l₁ ih =>
    rcases firstNow_cons x with ⟨now', rfl⟩ | hnext
    · rw [firstNow_now] at h
      cases h
      rfl
    · rw [List.cons_append, hnext]
      exact ih ((hnext l₁).symm.trans h)

theorem passed_getTableMutex {t : Int} {l : Log Res} {m : MutexRef}
    (h : (getTableMutex t).Path l m) : Passed l ∧ firstNow l = none := by
  simp only [getTableMutex, withLock, Prog.call_bind, Prog.act_bind] at h
  obtain ⟨a, l₁, rfl, hk⟩ := Prog.path_act.1 h
  obtain ⟨n, l₂, rfl, hk₂⟩ := Prog.path_act.1 hk
  obtain ⟨c, l₃, rfl, hk₃⟩ := Prog.path_act.1 hk₂
  obtain ⟨rfl, rfl⟩ := Prog.path_ret.1 hk₃
  exact ⟨.cons rfl rfl (.cons rfl rfl (.cons rfl rfl passed_nil)), rfl⟩

theorem path_venueTimes {l : Log Res} {times : String × String} (h : venueTimes.Path l times) :
    ∃ cfg, l = [⟨.getConfig, cfg⟩] ∧ times = timesAnswered cfg := by
  simp only [venueTimes, ConfigRepository.get, Prog.call_bind] at h
  obtain ⟨cfg, l', rfl, hk⟩ := Prog.path_act.1 h
  refine ⟨cfg, ?_⟩
  have hret : l' = [] ∧ times = timesAnswered cfg := by
    rcases cfg with e | _ | cfg <;> exact Prog.path_ret.1 hk
  obtain ⟨rfl, rfl⟩ := hret
  exact ⟨rfl, rfl⟩

/-- The temporal restriction reads the times of the venue and nothing else. -/
theorem path_staffRefused {checkIn now : Int} {role : String} {l : Log Res} {refused : Bool}
    (h : (staffRefused checkIn now role).Path l refused) :
    (¬ (checkIn < now ∧ role ≠ "admin") ∧ l = [] ∧ refused = false) ∨
      ∃ cfg offset, l = [⟨.getConfig, cfg⟩, ⟨.venueLocation, offset⟩] ∧
        refused = beforeOperationalDay offset checkIn now (timesAnswered cfg).1 (timesAnswered cfg).2 := by
  unfold staffRefused at h
  split at h
  · obtain ⟨l₁, l₂, times, rfl, htimes, hk⟩ := Prog.path_bind.1 h
    obtain ⟨cfg, rfl, rfl⟩ := path_venueTimes htimes
    simp only [venueLocation, Prog.call_bind] at hk
    obtain ⟨offset, l₃, rfl, hret⟩ := Prog.path_act.1 hk
    obtain ⟨rfl, hrefused⟩ := Prog.path_ret.1 hret
    exact .inr ⟨cfg, offset, rfl, hrefused⟩
  · rename_i hopen
    obtain ⟨rfl, rfl⟩ := Prog.path_ret.1 h
    exact .inl ⟨hopen, rfl, rfl⟩

theorem passed_staffRefused {checkIn now : Int} {role : String} {l : Log Res} {refused : Bool}
    (h : (staffRefused checkIn now role).Path l refused) : Passed l := by
  rcases path_staffRefused h with ⟨-, rfl, -⟩ | ⟨cfg, offset, rfl, -⟩
  · exact passed_nil
  · exact .cons rfl rfl (.cons rfl rfl passed_nil)

/-! ## The end of a request -/

/-- The actions of a cache sync. -/
def syncs : Op → Bool
  | .now | .getTable _ | .write _ | .getAll | .sendBroadcast _ | .sendMqtt _ => true
  | _ => false

theorem not_failedCall_of_timeline {x : (o : Op) × Res o} (h : x.1.timeline) : ¬ failedCall x := by
  obtain ⟨o, r⟩ := x
  cases o <;> first | (cases h; done) | exact nofun

theorem not_failed_of_syncs {x : (o : Op) × Res o} (h : syncs x.1) :
    ¬ failedCall x ∧ ¬ failedTimeline x ∧ ∀ timeline, x.1 ≠ .sendTimeline timeline := by
  obtain ⟨o, r⟩ := x
  cases o <;> first | (cases h; done) | exact ⟨nofun, nofun, nofun⟩

theorem cacheWrite_syncs (c : CacheWrite) : (TableCache.write c).All fun o => syncs o :=
  ⟨rfl, fun _ => Prog.all_when ⟨rfl, fun _ => ⟨rfl, fun _ => trivial⟩⟩⟩

theorem sendMqttCommand_syncs (t : Int) (state : LightState) :
    (TableService.sendMqttCommand t state).All fun o => syncs o :=
  ⟨rfl, fun _ => ⟨rfl, fun _ => trivial⟩⟩

theorem activateTable_syncs (t : Int) (b : CurrentBooking) :
    (TableService.activateTable t b).All fun o => syncs o :=
  Prog.all_bind (cacheWrite_syncs _) fun _ => sendMqttCommand_syncs _ _

theorem deactivateTable_syncs (t : Int) : (TableService.deactivateTable t).All fun o => syncs o :=
  Prog.all_bind (cacheWrite_syncs _) fun _ => sendMqttCommand_syncs _ _

/-- The read of a timeline sends none, and returns the error of the query. -/
theorem path_getTimeline {dateStr : String} {l : Log Res} {r : Except GoError (List Booking)}
    (h : (getTimeline dateStr).Path l r) :
    (∀ x ∈ l, ∀ timeline, x.1 ≠ .sendTimeline timeline) ∧
      ((∃ x ∈ l, failedTimeline x) → ∃ e, r = .error e) := by
  obtain ⟨l₁, l₂, times, rfl, htimes, hk⟩ := Prog.path_bind.1 h
  obtain ⟨cfg, rfl, rfl⟩ := path_venueTimes htimes
  simp only [venueLocation, Prog.call_bind] at hk
  obtain ⟨offset, l₃, rfl, hbounds⟩ := Prog.path_act.1 hk
  split at hbounds
  · obtain ⟨rfl, rfl⟩ := Prog.path_ret.1 hbounds
    exact ⟨by simp, fun _ => ⟨_, rfl⟩⟩
  · obtain ⟨answer, l₄, rfl, hret⟩ := Prog.path_act.1 hbounds
    obtain ⟨rfl, rfl⟩ := Prog.path_ret.1 hret
    refine ⟨by simp, fun hfailed => ?_⟩
    cases r with
    | error e => exact ⟨e, rfl⟩
    | ok timeline => simp [failedTimeline] at hfailed

theorem path_getTodayTimeline {l : Log Res} {r : Except GoError (List Booking)}
    (h : getTodayTimeline.Path l r) :
    (∀ x ∈ l, ∀ timeline, x.1 ≠ .sendTimeline timeline) ∧
      ((∃ x ∈ l, failedTimeline x) → ∃ e, r = .error e) := by
  obtain ⟨l₁, l₂, times, rfl, htimes, hk⟩ := Prog.path_bind.1 h
  obtain ⟨cfg, rfl, rfl⟩ := path_venueTimes htimes
  simp only [venueLocation, timeNow, Prog.call_bind] at hk
  obtain ⟨offset, l₃, rfl, hk₁⟩ := Prog.path_act.1 hk
  obtain ⟨now, l₄, rfl, hk₂⟩ := Prog.path_act.1 hk₁
  obtain ⟨hsend, hfailed⟩ := path_getTimeline hk₂
  refine ⟨by simpa using hsend, fun h => hfailed ?_⟩
  simpa [failedTimeline] using h

/-- A timeline whose read failed is not sent. -/
theorem path_emitTimelineUpdate {l : Log Res} {a : Unit} (h : emitTimelineUpdate.Path l a)
    (hfailed : ∃ x ∈ l, failedTimeline x) :
    ∀ x ∈ l, ∀ timeline, x.1 ≠ .sendTimeline timeline := by
  obtain ⟨l₁, l₂, r, rfl, hread, hk⟩ := Prog.path_bind.1 h
  obtain ⟨hsend, herror⟩ := path_getTodayTimeline hread
  cases r with
  | error e =>
    obtain ⟨rfl, -⟩ := Prog.path_ret.1 hk
    rwa [List.append_nil]
  | ok timeline =>
    obtain ⟨answer, l₃, rfl, hret⟩ := Prog.path_act.1 hk
    obtain ⟨rfl, -⟩ := Prog.path_ret.1 hret
    obtain ⟨x, hx, hfailed⟩ := hfailed
    rcases List.mem_append.1 hx with hx | hx
    · obtain ⟨e, he⟩ := herror ⟨x, hx, hfailed⟩
      cases he
    · obtain rfl := List.mem_singleton.1 hx
      cases hfailed

/-- The end of a request: a cache sync that depends on the clock, and the timeline. -/
theorem replied_sync {c : Int → Bool} {p : Go Unit} (hp : p.All fun o => syncs o) {l : Log Res}
    {a : Unit} (b : Booking)
    (h : Prog.Path (do let now ← timeNow; Prog.when (c now) p; emitTimelineUpdate) l a) :
    Replied l (.ok b) := by
  simp only [timeNow, Prog.call_bind] at h
  obtain ⟨now, l₁, rfl, hk⟩ := Prog.path_act.1 h
  obtain ⟨l₂, l₃, _, rfl, hwhen, hemit⟩ := Prog.path_bind.1 hk
  have hsync := hwhen.all (Prog.all_when hp)
  have hfirst : ∀ x ∈ (⟨.now, now⟩ : (o : Op) × Res o) :: l₂, syncs x.1 := by
    intro x hx
    rcases List.mem_cons.1 hx with rfl | hx
    · rfl
    · exact hsync x hx
  have hcalls := hemit.all emitTimelineUpdate_timeline
  rw [← List.cons_append]
  refine ⟨fun x hx => ?_, ?_⟩
  · rcases List.mem_append.1 hx with hx | hx
    · exact (not_failed_of_syncs (hfirst x hx)).1
    · exact not_failedCall_of_timeline (hcalls x hx)
  · rintro ⟨x, hx, hfailed⟩ y hy
    rcases List.mem_append.1 hx with hx | hx
    · exact absurd hfailed (not_failed_of_syncs (hfirst x hx)).2.1
    · rcases List.mem_append.1 hy with hy | hy
      · exact (not_failed_of_syncs (hfirst y hy)).2.2
      · exact path_emitTimelineUpdate hemit ⟨x, hx, hfailed⟩ y hy

/-! ## The requests -/

theorem parseTimes_eq_ok {checkInStr checkOutStr : String} {checkIn checkOut duration : Int}
    (h : parseTimes checkInStr checkOutStr = .ok (checkIn, checkOut, duration)) :
    parseRFC3339 checkInStr = some checkIn ∧ parseRFC3339 checkOutStr = some checkOut ∧
      duration = roundMinutes (sub checkOut checkIn) ∧ 0 < duration := by
  unfold parseTimes at h
  split at h
  · cases h
  · rename_i hin
    split at h
    · cases h
    · rename_i hout
      dsimp only at h
      split at h
      · cases h
      · rename_i hpositive
        cases h
        exact ⟨hin, hout, rfl, not_le.1 hpositive⟩

theorem lt_of_roundMinutes_pos {checkIn checkOut : Int}
    (h : 0 < roundMinutes (sub checkOut checkIn)) : checkIn < checkOut := by
  by_contra hle
  have hsub : sub checkOut checkIn ≤ 0 := by
    unfold sub
    omega
  unfold roundMinutes minute second at h
  split at h <;> omega

/-- A creation that the temporal restriction lets pass is not restricted. -/
theorem not_restricted {dto : CreateBookingInput} {role : String} {l l₁ l₂ : Log Res}
    {checkIn now : Int} (hin : parseRFC3339 dto.checkInTime = some checkIn)
    (hfirst : firstNow l = some (now, l₁ ++ l₂))
    (hstaff : (staffRefused checkIn now role).Path l₁ false) : ¬ Restricted dto role l := by
  rintro ⟨hrole, checkIn', now', cfg, offset, rest, hin', hnow, hpast, hbefore⟩
  obtain rfl := Option.some.inj (hin.symm.trans hin')
  obtain ⟨rfl, hrest⟩ := Prod.mk.inj (Option.some.inj (hfirst.symm.trans hnow))
  rcases path_staffRefused hstaff with ⟨hopen, -, -⟩ | ⟨cfg', offset', rfl, hrefused⟩
  · exact hopen ⟨hpast, hrole⟩
  · injection hrest with hcfg hrest
    injection hrest with hoffset
    cases hcfg
    cases hoffset
    rw [← hrefused] at hbefore
    cases hbefore

/-- The log of a creation with reply `r` shows the temporal check after the first reading of the clock, and
the reply says what came of it. A creation with malformed times ends before. -/
def Checked (dto : CreateBookingInput) (role : String) (l : Log Res) (r : Reply) : Prop :=
  (firstNow l = none ∧ ∃ e, r = .error e ∧ e ≠ staffInPast) ∨
    ∃ checkIn now l₁ l₂ refused, parseRFC3339 dto.checkInTime = some checkIn ∧
      firstNow l = some (now, l₁ ++ l₂) ∧ (staffRefused checkIn now role).Path l₁ refused ∧
      (r = .error staffInPast ↔ refused = true)

theorem replied_storeLog {checkIn checkOut : Int} {b : Booking} {l : Log Res} {r : Reply}
    (h : StoreLog checkIn checkOut b l r) : Replied l r ∧ r ≠ .error staffInPast := by
  cases h with
  | unchecked => exact ⟨replied_single rfl, by simp [staffInPast]⟩
  | overlap => exact ⟨replied_single rfl, by simp [staffInPast, alreadyBooked]⟩
  | failed => exact ⟨.cons rfl rfl (replied_single rfl), by simp [staffInPast]⟩
  | stored hsync =>
    exact ⟨.cons rfl rfl (.cons rfl rfl (replied_sync (activateTable_syncs _ _) _ hsync)), by simp⟩

theorem path_createLocked {dto : CreateBookingInput} {createdBy role : String} {l : Log Res}
    {r : Reply} (h : (createLocked dto createdBy role).Path l r) :
    Replied l r ∧ Checked dto role l r := by
  cases createLog_of_path h with
  | @invalid e hparse =>
    obtain ⟨-, -, hother⟩ := validation_of_parseTimes hparse
    exact ⟨.error passed_nil, .inl ⟨rfl, e, rfl, hother⟩⟩
  | @inPast checkIn checkOut duration now l htimes hstaff =>
    refine ⟨.error (.cons rfl rfl (passed_staffRefused hstaff)), .inr ⟨checkIn, now, l, [], true,
      (parseTimes_eq_ok htimes).1, ?_, hstaff, iff_of_true rfl rfl⟩⟩
    rw [firstNow_now, List.append_nil]
  | @allowed checkIn checkOut duration now l l' r htimes hstaff hstore =>
    obtain ⟨hreplied, hne⟩ := replied_storeLog hstore
    exact ⟨.cons rfl rfl (.prepend (passed_staffRefused hstaff) hreplied), .inr ⟨checkIn, now, l, l',
      false, (parseTimes_eq_ok htimes).1, rfl, hstaff, iff_of_false hne Bool.false_ne_true⟩⟩

theorem path_createBooking {dto : CreateBookingInput} {createdBy role : String} {l : Log Res}
    {r : Reply} (h : (createBooking dto createdBy role).Path l r) :
    Replied l r ∧ Checked dto role l r := by
  obtain ⟨l₁, l₂, m, rfl, hmutex, hlocked⟩ := Prog.path_bind.1 h
  obtain ⟨l₃, rfl, hbody⟩ := path_withLock hlocked
  obtain ⟨hpassed, hnow⟩ := passed_getTableMutex hmutex
  obtain ⟨hanswered, hchecked⟩ := path_createLocked hbody
  refine ⟨hanswered.locked.prepend hpassed, ?_⟩
  have hfirst : firstNow (l₁ ++ ([⟨.lock m, ()⟩] ++ (l₃ ++ [⟨.unlock m, ()⟩]))) =
      firstNow (l₃ ++ [⟨.unlock m, ()⟩]) := firstNow_append hnow _
  rcases hchecked with ⟨hnone, e, he⟩ | ⟨checkIn, now, l₄, l₅, refused, hin, hsome, hstaff, hr⟩
  · exact .inl ⟨hfirst.trans (firstNow_append hnone _), e, he⟩
  · refine .inr ⟨checkIn, now, l₄, l₅ ++ [⟨.unlock m, ()⟩], refused, hin, ?_, hstaff, hr⟩
    rw [hfirst, firstNow_append_of_some hsome, List.append_assoc]

/-- A creation that succeeds was not restricted. -/
theorem Checked.not_restricted {dto : CreateBookingInput} {role : String} {l : Log Res} {b : Booking}
    (h : Checked dto role l (.ok b)) : ¬ Restricted dto role l := by
  rcases h with ⟨-, e, he, -⟩ | ⟨checkIn, now, l₁, l₂, refused, hin, hfirst, hstaff, hr⟩
  · cases he
  · cases refused with
    | true => cases hr.2 rfl
    | false => exact BookingService.not_restricted hin hfirst hstaff

/-- The temporal check that could not read the configuration goes by the default hours. -/
theorem Checked.defaults {dto : CreateBookingInput} {role : String} {l rest : Log Res} {r : Reply}
    {checkIn now offset : Int} {e : GoError} (h : Checked dto role l r) (hrole : role ≠ "admin")
    (hin : parseRFC3339 dto.checkInTime = some checkIn) (hpast : checkIn < now)
    (hread : firstNow l = some (now, ⟨.getConfig, .error e⟩ :: ⟨.venueLocation, offset⟩ :: rest)) :
    r = .error staffInPast ↔ beforeOperationalDay offset checkIn now "09:00" "06:00" := by
  rcases h with ⟨hnone, -⟩ | ⟨checkIn', now', l₁, l₂, refused, hin', hfirst, hstaff, hr⟩
  · cases hnone.symm.trans hread
  · obtain rfl := Option.some.inj (hin.symm.trans hin')
    obtain ⟨rfl, hrest⟩ := Prod.mk.inj (Option.some.inj (hfirst.symm.trans hread))
    rcases path_staffRefused hstaff with ⟨hopen, -, -⟩ | ⟨cfg, offset', rfl, hrefused⟩
    · exact absurd ⟨hpast, hrole⟩ hopen
    · obtain ⟨hcfg, hrest⟩ := List.cons.inj hrest
      obtain ⟨hoffset, -⟩ := List.cons.inj hrest
      cases hcfg
      cases hoffset
      rw [hr, hrefused]
      exact Iff.rfl

/-- What an update or a cancellation does with the record it works on is what it answers. -/
theorem replied_withFresh {id : String} {body : Booking → Go Reply} {l : Log Res} {r : Reply}
    (hbody : ∀ fresh l, (body fresh).Path l r → Replied l r) (h : (withFresh id body).Path l r) :
    Replied l r := by
  cases freshLog_of_path h with
  | unfetched => exact replied_single rfl
  | missing => exact replied_single rfl
  | gone hmutex =>
    exact .cons rfl rfl (.prepend (passed_getTableMutex hmutex).1 (.locked (replied_single rfl)))
  | found hmutex hfresh =>
    exact .cons rfl rfl (.prepend (passed_getTableMutex hmutex).1
      (.locked (.cons rfl rfl (hbody _ _ hfresh))))

/-- An overlap check that an update passes has answered without an error. -/
theorem passed_windowLog {t : Int} {window : Option (Int × Int)} {id : String} {l : Log Res}
    (h : WindowLog t id window l (.ok ())) : Passed l := by
  cases h with
  | unasked => exact passed_nil
  | free => exact .cons rfl rfl passed_nil

theorem replied_windowLog {t : Int} {window : Option (Int × Int)} {id : String} {l : Log Res}
    {e e' : GoError} (h : WindowLog t id window l (.error e)) : Replied l (.error e') := by
  cases h <;> exact replied_single rfl

theorem replied_updateFresh {id : String} {dto : UpdateBookingInput} {fresh : Booking} {l : Log Res}
    {r : Reply} (h : (updateFresh id dto fresh).Path l r) : Replied l r := by
  cases updateLog_of_path h with
  | invalid => exact .error passed_nil
  | refused hcheck => exact replied_windowLog hcheck
  | failed hcheck => exact .prepend (passed_windowLog hcheck) (replied_single rfl)
  | saved hcheck hsync =>
    exact .prepend (passed_windowLog hcheck)
      (.cons rfl rfl (replied_sync (cacheWrite_syncs _) _ hsync))

theorem replied_cancelFresh {id : String} {fresh : Booking} {l : Log Res} {r : Reply}
    (h : (cancelFresh id fresh).Path l r) : Replied l r := by
  cases cancelLog_of_path h with
  | failed => exact replied_single rfl
  | saved hsync =>
    refine .cons rfl rfl (replied_sync ?_ _ hsync)
    exact Prog.all_call_bind rfl fun _ => Prog.all_when (deactivateTable_syncs _)

/-- What the log of a request shows of its reply. -/
theorem replied_request {req : Request} {l : Log Res} {r : Reply} (h : req.program.Path l r) :
    Replied l r := by
  cases req with
  | create dto createdBy role => exact (path_createBooking h).1
  | update id dto => exact replied_withFresh (fun _ _ => replied_updateFresh) h
  | cancel id => exact replied_withFresh (fun _ _ => replied_cancelFresh) h

/-! ## What a request does -/

theorem perform_timelineChan {o : Op} (ho : ∀ timeline, o ≠ .sendTimeline timeline) {i : Nat}
    {e : Env} {w w' : World} {r : Res o} (h : perform i e o w = some (r, w')) :
    w'.timelineChan = w.timelineChan := by
  cases o
  case sendTimeline timeline => exact absurd rfl (ho timeline)
  case clearTimer key =>
    cases h
    unfold World.clearTimer
    split <;> rfl
  case tableMutex t =>
    simp only [perform, Option.some.injEq] at h
    have hw : w' = (w.tableMutex t).2 := by rw [h]
    rw [hw]
    unfold World.tableMutex
    split <;> rfl
  case lock m =>
    simp only [perform] at h
    split at h <;> cases h
    rfl
  case unlock m =>
    simp only [perform] at h
    split at h <;> cases h
    rfl
  case fire =>
    simp only [perform] at h
    split at h <;> cases h
    rfl
  all_goals cases h; rfl

theorem perform_channels {o : Op} (ho : ¬ afterWrite o) {i : Nat} {e : Env} {w w' : World} {r : Res o}
    (h : perform i e o w = some (r, w')) :
    w'.mqttCmdChan = w.mqttCmdChan ∧ w'.timelineChan = w.timelineChan := by
  have hapart : o.apart := by
    cases o <;> first | rfl | exact absurd rfl ho
  refine ⟨((perform_frame h).2.2 hapart).2, perform_timelineChan ?_ h⟩
  rintro timeline rfl
  exact ho rfl

end BookingService

namespace SpecStep

variable {faults : Option String → Prop} {c c' : BookingCollection} {b : Booking}

theorem bookings_of_error {req : Request} {e : GoError} (h : SpecStep faults req c (.error e) c') :
    c' = c := by
  generalize hreply : (Except.error e : Reply) = r at h
  cases h <;> first | rfl | cases hreply

/-- A creation that succeeds has found its window in order and free. -/
theorem of_created {dto : CreateBookingInput} {createdBy role : String}
    (h : SpecStep faults (.create dto createdBy role) c (.ok b) c') :
    ∃ checkIn checkOut, parseRFC3339 dto.checkInTime = some checkIn ∧
      parseRFC3339 dto.checkOutTime = some checkOut ∧ checkIn < checkOut ∧
      c.overlapping dto.tableID checkIn checkOut none = false := by
  generalize hreply : (Except.ok b : Reply) = r at h
  cases h with
  | created hparse hfree =>
    obtain ⟨hin, hout, hduration, hpositive⟩ := parseTimes_eq_ok hparse
    refine ⟨_, _, hin, hout, ?_, ?_⟩
    · rw [hduration] at hpositive
      exact lt_of_roundMinutes_pos hpositive
    · rwa [show objectIDFromHex "" = none by decide] at hfree
  | _ => cases hreply

theorem of_cancelled {id : String} (h : SpecStep faults (.cancel id) c (.ok b) c') :
    ∃ d ∈ c.docs, objectIDFromHex id = some d.id ∧ d.live := by
  generalize hreply : (Except.ok b : Reply) = r at h
  cases h with
  | cancelled hd hid hl => exact ⟨_, hd, hid, hl⟩
  | _ => cases hreply

/-- An update that succeeds leaves the times, or has found its window in order and free. -/
theorem window_of_updated {id : String} {dto : UpdateBookingInput} {d : BookingDoc}
    (h : SpecStep faults (.update id dto) c (.ok b) c') (hd : d ∈ c.docs)
    (hid : objectIDFromHex id = some d.id) :
    (dto.checkInTime = "" ∧ dto.checkOutTime = "") ∨ ∃ newIn newOut, newIn < newOut ∧
      askedEnd (ofUnixMilli d.checkInTime) dto.checkInTime = some newIn ∧
      askedEnd (ofUnixMilli d.checkOutTime) dto.checkOutTime = some newOut ∧
      c.overlapping d.tableID newIn newOut (some d.id) = false := by
  obtain ⟨e, he, hid', -, window, hwindow, hfree, -, -⟩ := h.of_updated
  obtain rfl := c.id_inj hd he (Option.some.inj (hid.symm.trans hid'))
  rcases requestedWindow_cases hwindow with ⟨hin, hout, -⟩ | ⟨newIn, newOut, rfl, hlt, hin, hout⟩
  · exact .inl ⟨hin, hout⟩
  · obtain ⟨f, -, hoverlap⟩ := hfree
    rw [← hid]
    exact .inr ⟨newIn, newOut, hlt, hin, hout, hasOverlap_eq_ok hoverlap⟩

/-- An update that succeeds patches one document. -/
theorem patched_of_updated {id : String} {dto : UpdateBookingInput}
    (h : SpecStep faults (.update id dto) c (.ok b) c') :
    ∃ d d', d ∈ c.docs ∧ objectIDFromHex id = some d.id ∧ Patched dto d d' ∧
      c'.docs = c.docs.map fun e => if e.id = d.id then d' else e := by
  obtain ⟨d, hd, hid, -, window, hwindow, -, -, rfl⟩ := h.of_updated
  refine ⟨d, updatedDoc d dto window, hd, hid, ?_, rfl⟩
  rcases requestedWindow_cases hwindow with
    ⟨hin, hout, rfl⟩ | ⟨newIn, newOut, rfl, -, hin, hout⟩
  · refine ⟨?_, ?_, ?_, fun _ _ => rfl⟩
    · simp [updatedDoc, BookingService.updated, docOf, docToBooking]
    · simp [askedEnd, hin, updatedDoc, BookingService.updated, docOf, docToBooking]
    · simp [askedEnd, hout, updatedDoc, BookingService.updated, docOf, docToBooking]
  · refine ⟨?_, ?_, ?_, fun hin' hout' => ?_⟩
    · simp [updatedDoc, BookingService.updated, docOf, docToBooking]
    · exact congrArg (Option.map unixMilli) hin
    · exact congrArg (Option.map unixMilli) hout
    · simp [requestedWindow, hin', hout'] at hwindow

end SpecStep

namespace BookingService

section

variable {E : Env → Prop} {i : Nat} {req : Request} {l : Log Res} {r : Reply} {m m' : Timed World Int}

/-- A request that answers with an error leaves no trace. -/
theorem noTrace_of_error {e : GoError} (hpath : req.program.Path l (.error e))
    (halong : Prog.Along (backend E) i l m m') : NoTrace m.state m'.state := by
  have hrun : Prog.Runs (backend E) i req.program m (.error e) m' :=
    Prog.runs_iff_path.2 ⟨l, hpath, halong⟩
  obtain ⟨hstore, ⟨now, -, -, htables⟩, -⟩ := runs_request (hrun.simulate (venue_simulates E))
  have hanswered : ∀ x ∈ l, ¬ afterWrite x.1 := replied_request hpath
  have hchannels : m'.state.mqttCmdChan = m.state.mqttCmdChan ∧
      m'.state.timelineChan = m.state.timelineChan := by
    refine halong.preserves (R := fun m m' => m'.state.mqttCmdChan = m.state.mqttCmdChan ∧
      m'.state.timelineChan = m.state.timelineChan) (fun _ => ⟨rfl, rfl⟩) ?_ ?_
    · intro s s' s'' h h'
      exact ⟨h'.1.trans h.1, h'.2.trans h.2⟩
    · rintro x hx s s' ⟨-, e, -, hperf⟩
      exact perform_channels (hanswered x hx) hperf
  exact ⟨hstore.bookings_of_error, htables, hchannels.1, hchannels.2⟩

/-- A failed read of the timeline does not fail the request, and sends no timeline. -/
theorem timeline_dropped (hpath : req.program.Path l r) (halong : Prog.Along (backend E) i l m m')
    (h : ∃ x ∈ l, failedTimeline x) :
    (∃ b, r = .ok b) ∧ m'.state.timelineChan = m.state.timelineChan := by
  have hanswered := replied_request hpath
  cases r with
  | error e =>
    obtain ⟨x, hx, hfailed⟩ := h
    exact absurd (afterWrite_of_failedTimeline hfailed) (hanswered x hx)
  | ok b =>
    refine ⟨⟨b, rfl⟩, ?_⟩
    refine halong.preserves (R := fun m m' => m'.state.timelineChan = m.state.timelineChan)
      (fun _ => rfl) ?_ ?_
    · intro s s' s'' h h'
      exact h'.trans h
    · rintro x hx s s' ⟨-, e, -, hperf⟩
      exact perform_timelineChan (hanswered.2 h x hx) hperf

/-- A request of which a step up to its write fails answers with an error. -/
theorem StepFails.error (hpath : req.program.Path l r) (halong : Prog.Along (backend E) i l m m')
    (h : StepFails m.state.bookings l req) : ∃ e, r = .error e := by
  cases r with
  | error e => exact ⟨e, rfl⟩
  | ok b =>
    exfalso
    have hrun : Prog.Runs (backend E) i req.program m (.ok b) m' :=
      Prog.runs_iff_path.2 ⟨l, hpath, halong⟩
    have hstep : SpecStep (faultsOf E) req m.state.bookings (.ok b) m'.state.bookings :=
      (runs_request (hrun.simulate (venue_simulates E))).store
    cases h with
    | repository hx hfailed => exact (replied_request hpath).1 _ hx hfailed
    | createMalformed h =>
      obtain ⟨checkIn, checkOut, hin, hout, -, -⟩ := hstep.of_created
      rcases h with h | h
      · rw [h] at hin
        cases hin
      · rw [h] at hout
        cases hout
    | createReversed hin hout hreversed =>
      obtain ⟨checkIn, checkOut, hin', hout', hlt, -⟩ := hstep.of_created
      cases hin.symm.trans hin'
      cases hout.symm.trans hout'
      exact absurd hlt (not_lt.2 hreversed)
    | createRestricted h => exact (path_createBooking hpath).2.not_restricted h
    | createOverlap hin hout hoverlap =>
      obtain ⟨checkIn, checkOut, hin', hout', -, hfree⟩ := hstep.of_created
      cases hin.symm.trans hin'
      cases hout.symm.trans hout'
      rw [hoverlap] at hfree
      cases hfree
    | updateMissing h =>
      obtain ⟨d, hd, hid, hl, -⟩ := hstep.of_updated
      exact h d hd hid hl
    | updateMalformed hd hid h =>
      rcases hstep.window_of_updated hd hid with
        ⟨hnone, hnone'⟩ | ⟨newIn, newOut, -, hin, hout, -⟩
      · rw [hnone, hnone'] at h
        rcases h with h | h <;> cases h
      · rw [hin, hout] at h
        rcases h with h | h <;> cases h
    | updateReversed hd hid htimes hin hout hreversed =>
      rcases hstep.window_of_updated hd hid with
        ⟨hnone, hnone'⟩ | ⟨newIn, newOut, hlt, hin', hout', -⟩
      · exact htimes.elim (fun h => h hnone) fun h => h hnone'
      · cases hin.symm.trans hin'
        cases hout.symm.trans hout'
        exact absurd hlt (not_lt.2 hreversed)
    | updateOverlap hd hid htimes hin hout hoverlap =>
      rcases hstep.window_of_updated hd hid with
        ⟨hnone, hnone'⟩ | ⟨newIn, newOut, -, hin', hout', hfree⟩
      · exact htimes.elim (fun h => h hnone) fun h => h hnone'
      · cases hin.symm.trans hin'
        cases hout.symm.trans hout'
        rw [hoverlap] at hfree
        cases hfree
    | cancelMissing h =>
      obtain ⟨d, hd, hid, hl⟩ := hstep.of_cancelled
      exact h d hd hid hl

end

/-- What a request with the log `l` and the reply `r` makes of the world. -/
structure LeavesNoTrace (req : Request) (l : Log Res) (r : Reply) (w w' : World) : Prop where
  fails : StepFails w.bookings l req → ∃ e, r = .error e
  defaults : ∀ dto createdBy role checkIn now e offset rest, req = .create dto createdBy role →
    role ≠ "admin" → parseRFC3339 dto.checkInTime = some checkIn → checkIn < now →
    firstNow l = some (now, ⟨.getConfig, .error e⟩ :: ⟨.venueLocation, offset⟩ :: rest) →
    (r = .error staffInPast ↔ beforeOperationalDay offset checkIn now "09:00" "06:00")
  noTrace : ∀ e, r = .error e → NoTrace w w'
  timeline : (∃ x ∈ l, failedTimeline x) → (∃ b, r = .ok b) ∧ w'.timelineChan = w.timelineChan
  frame : ∀ id dto b, req = .update id dto → r = .ok b →
    ∃ d d', d ∈ w.bookings.docs ∧ objectIDFromHex id = some d.id ∧ Patched dto d d' ∧
      w'.bookings.docs = w.bookings.docs.map fun e => if e.id = d.id then d' else e

/-- A request that fails up to its write answers with an error and leaves no trace; a configuration that
cannot be read fails nothing and is replaced by the default hours; a timeline that cannot be read after the
write is not sent; and an update that succeeds changes one document, by what it was given. -/
theorem failed_request_leaves_no_trace {E : Env → Prop} {i : Nat} {req : Request} {l : Log Res}
    {r : Reply} {m m' : Timed World Int} (hpath : req.program.Path l r)
    (halong : Prog.Along (backend E) i l m m') : LeavesNoTrace req l r m.state m'.state := by
  refine ⟨StepFails.error hpath halong, ?_, ?_, timeline_dropped hpath halong, ?_⟩
  · rintro dto createdBy role checkIn now e offset rest rfl hrole hin hpast hread
    exact (path_createBooking hpath).2.defaults hrole hin hpast hread
  · rintro e rfl
    exact noTrace_of_error hpath halong
  · rintro id dto b rfl rfl
    have hrun := Prog.runs_iff_path.2 ⟨l, hpath, halong⟩
    exact (runs_request (hrun.simulate (venue_simulates E))).store.patched_of_updated

/-- A started process without bookings. -/
def emptyVenue : Timed World Int := ⟨World.start .empty none 0, 0⟩

/-- A creation that ends before it starts. -/
def endsBefore : CreateBookingInput :=
  ⟨1, "Ann", "0", "2030-01-01T11:00:00Z", "2030-01-01T10:00:00Z", 0, false⟩

/-- The backend runs the request and keeps its log. -/
def recorded (es : List Env) (req : Request) : Option (Log Res × Reply × Timed World Int) :=
  Prog.record (Timed.perform Env.now perform) 0 es req.program emptyVenue

theorem recorded_path {es : List Env} {req : Request} {l : Log Res} {r : Reply}
    {m' : Timed World Int} (h : recorded es req = some (l, r, m')) :
    req.program.Path l r ∧ Prog.Along (backend fun _ => True) 0 l emptyVenue m' :=
  Prog.path_of_record (fun _ _ _ _ _ _ hp => backend_of_perform trivial hp) h

theorem failed_request_leaves_no_trace_reversed : ∃ e m',
    Prog.Runs (backend fun _ => True) 0 (Request.program (.create endsBefore "ann" "staff")) emptyVenue
      (.error e) m' ∧ NoTrace emptyVenue.state m'.state := by
  have hsome : (recorded (List.replicate 5 nineOClock) (.create endsBefore "ann" "staff")).isSome := by
    decide +kernel
  obtain ⟨⟨l, r, m'⟩, hrecorded⟩ := Option.isSome_iff_exists.1 hsome
  obtain ⟨hpath, halong⟩ := recorded_path hrecorded
  have houtcome := failed_request_leaves_no_trace hpath halong
  have hin : parseRFC3339 endsBefore.checkInTime = some (ofUnixMilli 1893495600000) := by
    decide +kernel
  have hout : parseRFC3339 endsBefore.checkOutTime = some (ofUnixMilli 1893492000000) := by
    decide +kernel
  obtain ⟨e, rfl⟩ := houtcome.fails (.createReversed hin hout (by decide +kernel))
  exact ⟨e, m', Prog.runs_iff_path.2 ⟨l, hpath, halong⟩, houtcome.noTrace e rfl⟩

/-- Nine o'clock, with a database that fails. -/
def failingAtNine : Env := { nineOClock with fault := some "connection closed" }

/-- A creation whose timeline cannot be read succeeds all the same. -/
theorem failed_read_can_leave_a_trace : ¬ ∀ (req : Request) (l : Log Res) (r : Reply)
    (m m' : Timed World Int), req.program.Path l r → Prog.Along (backend fun _ => True) 0 l m m' →
    (∃ x ∈ l, failedRead x) → (∃ e, r = .error e) ∧ NoTrace m.state m'.state := by
  intro hclaim
  have hrun : (recorded (List.replicate 13 nineOClock ++ [failingAtNine, nineOClock])
      (.create askTenToEleven "ann" "admin")).map (fun x => (x.1.any failedRead, x.2.1.isOk)) =
      some (true, true) := by
    decide +kernel
  obtain ⟨⟨l, r, m'⟩, hrecorded, hseen⟩ := Option.map_eq_some_iff.1 hrun
  obtain ⟨hread, hok⟩ := Prod.mk.inj hseen
  obtain ⟨hpath, halong⟩ := recorded_path hrecorded
  obtain ⟨⟨e, rfl⟩, -⟩ := hclaim _ _ _ _ _ hpath halong (List.any_eq_true.1 hread)
  cases hok

end BookingService

end GbcVenue
