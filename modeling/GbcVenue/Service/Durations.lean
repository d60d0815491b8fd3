import GbcVenue.Concurrency.Bookings
import GbcVenue.Interleaving.Discipline
import GbcVenue.Service.Failures

/-!
# Durations

`durations_rounded`: as long as no update saves a window of less than half a minute, every stored booking
has its length in minutes, rounded, as its duration, and its window is one that a creation accepts.
-/

namespace GbcVenue

open Interleaving GoTime BookingService

/-- An instant of whole milliseconds. -/
def Precise (t : Int) : Prop := 1000000 ∣ t

/-- A text that gives no instant but one of whole milliseconds. -/
def PreciseText (s : String) : Prop := ∀ t, parseRFC3339 s = some t → Precise t

/-- A request with its times at millisecond precision. -/
def Request.Precise : Request → Prop
  | .create dto .. => PreciseText dto.checkInTime ∧ PreciseText dto.checkOutTime
  | .update _ dto => PreciseText dto.checkInTime ∧ PreciseText dto.checkOutTime
  | .cancel _ => True

/-- The stored duration is the length of the window in minutes, rounded half up, and at least 1; and a
creation with texts for this window computes the same. Windows of 292 years and more do not count. -/
def BookingDoc.Rounded (d : BookingDoc) : Prop :=
  (d.checkOutTime - d.checkInTime) * 1000000 < 9223372036854775808 →
    d.durationMinutes = (d.checkOutTime - d.checkInTime + 30000) / 60000 ∧ 1 ≤ d.durationMinutes ∧
    ∀ checkInStr checkOutStr, parseRFC3339 checkInStr = some (ofUnixMilli d.checkInTime) →
      parseRFC3339 checkOutStr = some (ofUnixMilli d.checkOutTime) →
      parseTimes checkInStr checkOutStr =
        .ok (ofUnixMilli d.checkInTime, ofUnixMilli d.checkOutTime, d.durationMinutes)

/-- No window of less than half a minute is saved. -/
def savesHalfMinute (_ : Config Res Nat World (Option Reply)) (_ : Nat) (o : Op) (_ : Res o) : Prop :=
  ∀ b, o = .save b → 30 * second ≤ b.checkOutTime - b.checkInTime

/-- A record at millisecond precision whose document is rounded. -/
structure RoundedBooking (b : Booking) : Prop where
  checkInTime : Precise b.checkInTime
  checkOutTime : Precise b.checkOutTime
  rounded : ∀ oid, (docOf oid b).Rounded

/-- What the requests see to before they act. -/
def roundedAction : Op → Prop
  | .create b => RoundedBooking b
  | .save b => 30 * second ≤ b.checkOutTime - b.checkInTime → RoundedBooking b
  | _ => True

/-- What they may assume of an answer. -/
def roundedAnswer : (o : Op) → Res o → Prop
  | .findByID _, .ok (some b) => RoundedBooking b
  | _, _ => True

theorem ofUnixMilli_unixMilli {t : Int} (h : Precise t) : ofUnixMilli (unixMilli t) = t := by
  unfold Precise at h
  unfold ofUnixMilli unixMilli
  omega

theorem precise_ofUnixMilli (ms : Int) : Precise (ofUnixMilli ms) := ⟨ms, Int.mul_comm ms 1000000⟩

/-- The length of a window in minutes, exactly. -/
theorem roundMinutes_sub {checkIn checkOut : Int} (hpos : 0 ≤ checkOut - checkIn)
    (hlt : (checkOut - checkIn) * 1000000 < 9223372036854775808) :
    roundMinutes (sub (ofUnixMilli checkOut) (ofUnixMilli checkIn)) =
      (checkOut - checkIn + 30000) / 60000 := by
  unfold sub ofUnixMilli roundMinutes minute second
  omega

/-- A window of at least half a minute is stored with its duration, rounded. -/
theorem rounded_of_window {d : BookingDoc} (h : 30000 ≤ d.checkOutTime - d.checkInTime)
    (hd : d.durationMinutes =
      roundMinutes (sub (ofUnixMilli d.checkOutTime) (ofUnixMilli d.checkInTime))) : d.Rounded := by
  intro hlt
  have hround := roundMinutes_sub (by omega) hlt
  have hpos : 1 ≤ d.durationMinutes := by omega
  refine ⟨hd.trans hround, hpos, fun checkInStr checkOutStr hin hout => ?_⟩
  rw [parseTimes, hin, hout]
  simp only [← hd]
  exact if_neg (by omega)

/-- Only the window and its duration count. -/
theorem BookingDoc.Rounded.congr {d d' : BookingDoc} (h : d.Rounded)
    (hin : d'.checkInTime = d.checkInTime) (hout : d'.checkOutTime = d.checkOutTime)
    (hd : d'.durationMinutes = d.durationMinutes) : d'.Rounded := by
  unfold BookingDoc.Rounded at *
  rwa [hin, hout, hd]

/-! ## Records -/

theorem roundedBooking_docToBooking {d : BookingDoc} (h : d.Rounded) :
    RoundedBooking (docToBooking d) := by
  refine ⟨precise_ofUnixMilli _, precise_ofUnixMilli _, fun oid => h.congr ?_ ?_ rfl⟩
  · exact unixMilli_ofUnixMilli d.checkInTime
  · exact unixMilli_ofUnixMilli d.checkOutTime

/-- A record with a window of at least half a minute and its duration. -/
theorem roundedBooking_of_window {b : Booking} (hin : Precise b.checkInTime)
    (hout : Precise b.checkOutTime) (h : 30 * second ≤ b.checkOutTime - b.checkInTime)
    (hd : b.durationMinutes = roundMinutes (sub b.checkOutTime b.checkInTime)) :
    RoundedBooking b := by
  refine ⟨hin, hout, fun oid => rounded_of_window ?_ ?_⟩
  · obtain ⟨m, hm⟩ := hin
    obtain ⟨n, hn⟩ := hout
    unfold second at h
    simp only [docOf, unixMilli]
    omega
  · simp only [docOf]
    rw [ofUnixMilli_unixMilli hin, ofUnixMilli_unixMilli hout, hd]

theorem RoundedBooking.congr {b b' : Booking} (h : RoundedBooking b)
    (hin : b'.checkInTime = b.checkInTime) (hout : b'.checkOutTime = b.checkOutTime)
    (hd : b'.durationMinutes = b.durationMinutes) : RoundedBooking b' := by
  obtain ⟨hprecise, hprecise', hrounded⟩ := h
  refine ⟨hin ▸ hprecise, hout ▸ hprecise', fun oid => (hrounded oid).congr ?_ ?_ hd⟩
  · exact congrArg unixMilli hin
  · exact congrArg unixMilli hout

theorem half_minute_of_parseTimes {checkInStr checkOutStr : String} {checkIn checkOut duration : Int}
    (h : parseTimes checkInStr checkOutStr = .ok (checkIn, checkOut, duration)) :
    30 * second ≤ checkOut - checkIn := by
  obtain ⟨-, -, hduration, hpositive⟩ := parseTimes_eq_ok h
  rw [hduration] at hpositive
  unfold sub roundMinutes minute second at *
  split at hpositive <;> omega

theorem roundedBooking_newBooking {dto : CreateBookingInput} {createdBy : String}
    {checkIn checkOut duration now : Int} (hin : PreciseText dto.checkInTime)
    (hout : PreciseText dto.checkOutTime)
    (h : parseTimes dto.checkInTime dto.checkOutTime = .ok (checkIn, checkOut, duration)) :
    RoundedBooking (newBooking dto createdBy checkIn checkOut duration now) := by
  have hwindow := half_minute_of_parseTimes h
  obtain ⟨hparse, hparse', hduration, -⟩ := parseTimes_eq_ok h
  exact roundedBooking_of_window (hin _ hparse) (hout _ hparse') hwindow hduration

theorem precise_askedEnd {stored t : Int} {text : String} (hstored : Precise stored)
    (htext : PreciseText text) (h : askedEnd stored text = some t) : Precise t := by
  unfold askedEnd at h
  split at h
  · cases h
    exact hstored
  · exact htext t h

theorem roundedBooking_updated {fresh : Booking} {dto : UpdateBookingInput}
    {window : Option (Int × Int)} (hfresh : RoundedBooking fresh)
    (hin : PreciseText dto.checkInTime) (hout : PreciseText dto.checkOutTime)
    (hwindow : requestedWindow fresh dto = .ok window)
    (h : 30 * second ≤ (updated fresh dto window).checkOutTime -
      (updated fresh dto window).checkInTime) : RoundedBooking (updated fresh dto window) := by
  rcases requestedWindow_cases hwindow with ⟨-, -, rfl⟩ | ⟨newIn, newOut, rfl, -, hnewIn, hnewOut⟩
  · exact hfresh.congr rfl rfl rfl
  · refine roundedBooking_of_window ?_ ?_ h rfl
    · exact precise_askedEnd hfresh.checkInTime hin hnewIn
    · exact precise_askedEnd hfresh.checkOutTime hout hnewOut

/-! ## Requests -/

theorem roundedAction_of_quiet {o : Op} (h : o.quiet) : roundedAction o := by
  cases o <;> trivial

theorem keeps_of_quiet {α : Type} {p : Go α} (h : p.All fun o => o.quiet) :
    p.Keeps roundedAction roundedAnswer :=
  Prog.keeps_of_all (h.mono fun _ => roundedAction_of_quiet)

theorem keeps_withLock {α : Type} {m : MutexRef} {body : Go α}
    (h : body.Keeps roundedAction roundedAnswer) :
    (withLock m body).Keeps roundedAction roundedAnswer :=
  Prog.keeps_call_bind trivial fun _ _ => Prog.keeps_bind h fun _ =>
    Prog.keeps_call_bind trivial fun _ _ => trivial

theorem keeps_getTableMutex (t : Int) : (getTableMutex t).Keeps roundedAction roundedAnswer :=
  Prog.keeps_bind (keeps_withLock ⟨trivial, fun _ _ => trivial⟩) fun _ => trivial

theorem staffRefused_quiet (checkIn now : Int) (role : String) :
    (staffRefused checkIn now role).All fun o => o.quiet := by
  unfold staffRefused
  split
  · exact Prog.all_bind venueTimes_quiet fun _ => ⟨rfl, fun _ => trivial⟩
  · trivial

theorem checkWindow_quiet (t : Int) (window : Option (Int × Int)) (id : String) :
    (checkWindow t window id).All fun o => o.quiet := by
  cases window with
  | none => trivial
  | some window =>
    refine Prog.all_call_bind rfl fun overlap => ?_
    rcases overlap with e | _ | _ <;> trivial

theorem keeps_createBooking {dto : CreateBookingInput} {createdBy role : String}
    (hin : PreciseText dto.checkInTime) (hout : PreciseText dto.checkOutTime) :
    (createBooking dto createdBy role).Keeps roundedAction roundedAnswer := by
  refine Prog.keeps_bind (keeps_getTableMutex _) fun m => keeps_withLock ?_
  unfold createLocked
  split
  · trivial
  · rename_i checkIn checkOut duration hparse
    refine Prog.keeps_call_bind trivial fun now _ => ?_
    refine Prog.keeps_bind (keeps_of_quiet ?_) fun refused => ?_
    · exact staffRefused_quiet _ _ _
    cases refused with
    | true => trivial
    | false =>
      refine Prog.keeps_call_bind trivial fun overlap _ => ?_
      rcases overlap with e | _ | _
      · trivial
      · refine Prog.keeps_call_bind (roundedBooking_newBooking hin hout hparse) fun id _ => ?_
        cases id with
        | error e => trivial
        | ok id =>
          exact Prog.keeps_bind (keeps_of_quiet (syncCreated_quiet _)) fun _ => trivial
      · trivial

theorem keeps_withFresh {id : String} {body : Booking → Go Reply}
    (hbody : ∀ fresh, RoundedBooking fresh → (body fresh).Keeps roundedAction roundedAnswer) :
    (withFresh id body).Keeps roundedAction roundedAnswer := by
  refine Prog.keeps_call_bind trivial fun found _ => ?_
  rcases found with e | _ | b
  · trivial
  · trivial
  · dsimp only
    split
    · trivial
    · refine Prog.keeps_bind (keeps_getTableMutex _) fun m => keeps_withLock ?_
      refine Prog.keeps_call_bind trivial fun again hagain => ?_
      rcases again with e | _ | fresh
      · trivial
      · trivial
      · dsimp only
        split
        · trivial
        · exact hbody fresh hagain

theorem keeps_updateFresh {id : String} {dto : UpdateBookingInput} {fresh : Booking}
    (hin : PreciseText dto.checkInTime) (hout : PreciseText dto.checkOutTime)
    (hfresh : RoundedBooking fresh) :
    (updateFresh id dto fresh).Keeps roundedAction roundedAnswer := by
  unfold updateFresh
  split
  · trivial
  · rename_i window hwindow
    refine Prog.keeps_bind (keeps_of_quiet (checkWindow_quiet _ _ _)) fun checked => ?_
    cases checked with
    | error e => trivial
    | ok _ =>
      refine Prog.keeps_call_bind (roundedBooking_updated hfresh hin hout hwindow) fun saved _ => ?_
      cases saved with
      | error e => trivial
      | ok _ => exact Prog.keeps_bind (keeps_of_quiet (syncUpdated_quiet _)) fun _ => trivial

theorem keeps_cancelFresh {id : String} {fresh : Booking} (hfresh : RoundedBooking fresh) :
    (cancelFresh id fresh).Keeps roundedAction roundedAnswer := by
  refine Prog.keeps_call_bind (fun _ => hfresh.congr rfl rfl rfl) fun saved _ => ?_
  cases saved with
  | error e => trivial
  | ok _ => exact Prog.keeps_bind (keeps_of_quiet (syncCancelled_quiet id _)) fun _ => trivial

theorem keeps_request {req : Request} (h : req.Precise) :
    req.program.Keeps roundedAction roundedAnswer := by
  cases req with
  | create dto createdBy role => exact keeps_createBooking h.1 h.2
  | update id dto => exact keeps_withFresh fun _ => keeps_updateFresh h.1 h.2
  | cancel id => exact keeps_withFresh fun _ => keeps_cancelFresh

/-! ## The store -/

theorem docOf_of_bookingToDoc {b : Booking} {d : BookingDoc} (h : bookingToDoc b = .ok d) :
    ∃ oid, d = docOf oid b := by
  unfold bookingToDoc at h
  split at h
  · cases h
    exact ⟨_, rfl⟩
  · split at h
    · cases h
    · cases h
      exact ⟨_, rfl⟩

/-- A document after a `Create` was there before, or has the window of the new booking. -/
theorem mem_create {c : BookingCollection} {fault : Option String} {oid : ObjectID} {now : Int}
    {b : Booking} {d : BookingDoc} (h : d ∈ (c.create fault oid now b).2.docs) :
    d ∈ c.docs ∨ ∃ oid', d.checkInTime = (docOf oid' b).checkInTime ∧
      d.checkOutTime = (docOf oid' b).checkOutTime ∧
      d.durationMinutes = (docOf oid' b).durationMinutes := by
  unfold BookingCollection.create at h
  split at h
  · exact .inl h
  · rename_i doc hdoc
    obtain ⟨oid', rfl⟩ := docOf_of_bookingToDoc hdoc
    dsimp only at h
    split at h
    · exact .inl h
    · split at h
      · exact .inl h
      · rename_i c' hinsert
        rw [(BookingCollection.insertOne_docs hinsert).1] at h
        rcases List.mem_append.1 h with h | h
        · exact .inl h
        · obtain rfl := List.mem_singleton.1 h
          refine .inr ⟨oid', ?_⟩
          split <;> exact ⟨rfl, rfl, rfl⟩

/-- A document after a `Save` was there before, or is the one of the booking. -/
theorem mem_save {c : BookingCollection} {fault : Option String} {b : Booking} {d : BookingDoc}
    (h : d ∈ (c.save fault b).2.docs) : d ∈ c.docs ∨ ∃ oid, d = docOf oid b := by
  unfold BookingCollection.save at h
  split at h
  · exact .inl h
  · split at h
    · exact .inl h
    · rename_i doc hdoc
      split at h
      · exact .inl h
      · obtain ⟨e, he, hd⟩ := List.mem_map.1 h
        split at hd
        · exact .inr (hd ▸ docOf_of_bookingToDoc hdoc)
        · exact .inl (hd ▸ he)

/-- The actions that write the store. -/
def Op.stores : Op → Bool
  | .create _ | .save _ => true
  | _ => false

theorem perform_bookings {i : Nat} {e : Env} {o : Op} {w w' : World} {r : Res o}
    (ho : o.stores = false) (h : perform i e o w = some (r, w')) : w'.bookings = w.bookings := by
  have hstep := perform_venueStep h
  show w'.venue.bookings = w.venue.bookings
  cases o with
  | create b => cases ho
  | save b => cases ho
  | write c => rw [hstep]; rfl
  | clearTimer key => rw [hstep, Venue.clearTimer_bookings]
  | afterFunc delay key id => rw [hstep.2]; rfl
  | recordTimer key n => rw [hstep]
  | deleteTimer key => rw [hstep]; rfl
  | fire => rw [hstep.2.2]
  | _ => rw [venueStep_aside rfl hstep]

/-- An action in order keeps the documents rounded, and so are the records it reads. -/
theorem rounded_perform {i : Nat} {e : Env} {o : Op} {w w' : World} {r : Res o}
    (hw : ∀ d ∈ w.bookings.docs, d.Rounded) (ho : roundedAction o)
    (hsave : ∀ b, o = .save b → 30 * second ≤ b.checkOutTime - b.checkInTime)
    (h : perform i e o w = some (r, w')) :
    (∀ d ∈ w'.bookings.docs, d.Rounded) ∧ roundedAnswer o r := by
  cases o
  case create b =>
    simp only [perform, Option.some.injEq, Prod.mk.injEq] at h
    obtain ⟨-, rfl⟩ := h
    refine ⟨fun d hd => ?_, trivial⟩
    rcases mem_create hd with hd | ⟨oid, hin, hout, hduration⟩
    · exact hw d hd
    · exact (ho.rounded oid).congr hin hout hduration
  case save b =>
    simp only [perform, Option.some.injEq, Prod.mk.injEq] at h
    obtain ⟨-, rfl⟩ := h
    refine ⟨fun d hd => ?_, trivial⟩
    rcases mem_save hd with hd | ⟨oid, rfl⟩
    · exact hw d hd
    · exact (ho (hsave b rfl)).rounded oid
  case findByID id =>
    cases h
    refine ⟨hw, ?_⟩
    rcases hfound : w.bookings.findByID e.fault id with err | _ | b
    · trivial
    · trivial
    · obtain ⟨d, hd, -, rfl⟩ := BookingCollection.findByID_eq_some hfound
      exact roundedBooking_docToBooking (hw d hd)
  all_goals
    refine ⟨?_, trivial⟩
    rw [perform_bookings (by rfl) h]
    exact hw

/-! ## Every run -/

/-- In any interleaving of requests with times of whole milliseconds, in which no update saves a window
of less than half a minute, every stored booking has its length in minutes, rounded, as its duration. -/
theorem durations_rounded {reqs : List Request} (hprecise : ∀ req ∈ reqs, req.Precise) {w₀ : World}
    (hstart : ∀ d ∈ w₀.bookings.docs, d.Rounded) {c : Config Res Nat World (Option Reply)}
    (h : Reaches (sem fun _ => True) savesHalfMinute (startRequests reqs w₀) c) :
    ∀ d ∈ c.state.bookings.docs, d.Rounded := by
  have hthreads : ∀ i, (thread reqs i).Keeps roundedAction roundedAnswer := by
    intro i
    unfold thread
    split
    · rename_i req hreq
      exact Prog.keeps_bind (keeps_request (hprecise req (List.mem_of_getElem? hreq))) fun _ => trivial
    · trivial
  refine (Reaches.keeps (fun w => ∀ d ∈ w.bookings.docs, d.Rounded) ?_ hstart hthreads h).1
  rintro c i o r s' hinv ho ⟨e, -, hperf⟩ hok
  exact rounded_perform hinv ho hok hperf

/-- The executable form of `savesHalfMinute`. -/
def admitsHalfMinute (_ : Config Res Nat World (Option Reply)) (_ : Nat) (o : Op) (_ : Res o) : Bool :=
  match o with
  | .save b => 30 * second ≤ b.checkOutTime - b.checkInTime
  | _ => true

/-- A creation from ten to eleven and, after it, an update with another check-out. -/
def createThenShorten (checkOutTime : String) : List Request :=
  [.create askTenToEleven "ann" "admin", .update (ObjectID.ofNat 7).hex (untilCheckOut checkOutTime)]

/-- One request after the other, at nine o'clock. -/
def oneByOne : List (Nat × Env) :=
  List.replicate 16 (0, nineOClock) ++ List.replicate 17 (1, nineOClock)

theorem preciseText_of_parse {s : String} {ms : Int} (h : parseRFC3339 s = some (ofUnixMilli ms)) :
    PreciseText s := by
  intro t ht
  obtain rfl := Option.some.inj (h.symm.trans ht)
  exact precise_ofUnixMilli ms

theorem precise_createThenShorten {checkOutTime : String} (h : PreciseText checkOutTime) :
    ∀ req ∈ createThenShorten checkOutTime, req.Precise := by
  have hten : parseRFC3339 "2030-01-01T10:00:00Z" = some (ofUnixMilli 1893492000000) := by
    decide +kernel
  have heleven : parseRFC3339 "2030-01-01T11:00:00Z" = some (ofUnixMilli 1893495600000) := by
    decide +kernel
  have hempty : parseRFC3339 "" = none := by decide +kernel
  intro req hreq
  simp only [createThenShorten, List.mem_cons, List.not_mem_nil, or_false] at hreq
  rcases hreq with rfl | rfl
  · exact ⟨preciseText_of_parse hten, preciseText_of_parse heleven⟩
  · refine ⟨fun t ht => ?_, h⟩
    cases hempty.symm.trans ht

/-- The check-out moves to half a minute past half past ten: 30.5 minutes are stored as 31. -/
theorem durations_rounded_half_up : ∃ c : Config Res Nat World (Option Reply),
    c.state.bookings.docs.map BookingDoc.durationMinutes = [31] ∧
      ∀ d ∈ c.state.bookings.docs, d.Rounded := by
  have hrun : ((startRequests (createThenShorten "2030-01-01T10:30:30Z")
      (World.start .empty none 0)).exec perform admitsHalfMinute oneByOne).map
      (fun c => c.state.bookings.docs.map BookingDoc.durationMinutes) = some [31] := by
    decide +kernel
  have htext : parseRFC3339 "2030-01-01T10:30:30Z" = some (ofUnixMilli 1893493830000) := by
    decide +kernel
  obtain ⟨c, hc, hduration⟩ := Option.map_eq_some_iff.1 hrun
  refine ⟨c, hduration, ?_⟩
  have hstart : ∀ d ∈ (World.start .empty none 0).bookings.docs, d.Rounded :=
    fun d hd => absurd hd List.not_mem_nil
  refine durations_rounded (precise_createThenShorten (preciseText_of_parse htext)) hstart ?_
  refine Config.reaches_of_exec (I := fun _ => True) (fun p _ i o s r s' h => ⟨p.2, trivial, h⟩)
    (fun _ _ _ _ => trivial) ?_ trivial hc
  rintro c i o r - hadmits b rfl
  exact of_decide_eq_true hadmits

/-- The check-out moves to twenty seconds after the check-in: the duration is 0. -/
theorem duration_can_be_zero : ¬ ∀ (reqs : List Request) (c : Config Res Nat World (Option Reply)),
    (∀ req ∈ reqs, req.Precise) →
    Reaches (sem fun _ => True) anyStep (startRequests reqs (World.start .empty none 0)) c →
    ∀ d ∈ c.state.bookings.docs, d.Rounded := by
  intro hclaim
  have hrun : ((startRequests (createThenShorten "2030-01-01T10:00:20Z")
      (World.start .empty none 0)).exec perform (fun _ _ _ _ => true) oneByOne).map
      (fun c => c.state.bookings.docs.any fun d => d.checkOutTime - d.checkInTime < 60000 ∧
        d.durationMinutes = 0) = some true := by
    decide +kernel
  have htext : parseRFC3339 "2030-01-01T10:00:20Z" = some (ofUnixMilli 1893492020000) := by
    decide +kernel
  obtain ⟨c, hc, hzero⟩ := Option.map_eq_some_iff.1 hrun
  obtain ⟨d, hd, hdoc⟩ := List.any_eq_true.1 hzero
  obtain ⟨hshort, hduration⟩ := of_decide_eq_true hdoc
  have hrounded := hclaim _ c (precise_createThenShorten (preciseText_of_parse htext))
    (Config.reaches_of_exec_any (fun p _ i o s r s' h => ⟨p.2, trivial, h⟩) hc) d hd
  obtain ⟨-, hpositive, -⟩ := hrounded (by omega)
  omega

end GbcVenue
