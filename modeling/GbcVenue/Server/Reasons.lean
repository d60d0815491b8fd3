import GbcVenue.Server.Integrity
import GbcVenue.Service.Alone
import GbcVenue.Service.Failures

/-!
# Why a request is refused or fails

The reasons for which an endpoint answers with an error, each with the status it gives. A request that
fails at the database names the call of its log that failed, and its answer has the error of that call.
-/

namespace GbcVenue

open Interleaving BookingService Access GoTime

namespace Server

/-! ## The errors of the service -/

/-- The status that an error is answered with. -/
def errorStatus : GoError → Nat
  | .validation code _ => code
  | _ => 500

theorem handleSvcError_eq (e : GoError) : handleSvcError e = ⟨errorStatus e, .error e.error⟩ := by
  cases e <;> rfl

/-! ## Calls that fail -/

/-- The error that a call of a repository answered with. -/
def callError : (o : Op) × Res o → Option GoError
  | ⟨.findByID _, .error e⟩ | ⟨.hasOverlap .., .error e⟩ | ⟨.create _, .error e⟩ | ⟨.save _, .error e⟩
  | ⟨.findTimeline .., .error e⟩ | ⟨.getConfig, .error e⟩ => some e
  | _ => none

/-- The calls whose error an endpoint passes on to its answer. The others go on without. -/
def passesOn : Endpoint → Op → Bool
  | .createBooking, .hasOverlap .. | .createBooking, .create _ => true
  | .updateBooking id, .findByID id' | .cancelBooking id, .findByID id' => id' = id
  | .updateBooking _, .hasOverlap .. | .updateBooking _, .save _ | .cancelBooking _, .save _ => true
  | .getTimeline, .findTimeline .. => true
  | .getConfig, .getConfig => true
  | _, _ => false

/-- The answer `err` has the error of a call. -/
def Wraps (err cause : GoError) : Prop := err = cause ∨ ∃ context, err = .wrap context cause

/-- Why a call of a repository over the bookings `c` fails: the database does, an id is no hex id, or the
id that is drawn for a new booking is taken. -/
inductive CallFails (E : Env → Prop) (c : BookingCollection) : Op → GoError → Prop
  | database {o : Op} {failure : String} {cause : GoError} (h : faultsOf E (some failure))
      (hcause : Wraps cause (.text failure)) : CallFails E c o cause
  | badID {id : String} {cause : GoError} (h : objectIDFromHex id = none) :
      CallFails E c (.findByID id) cause
  | badBooking {o : Op} {b : Booking} {cause : GoError} (ho : o = .create b ∧ b.id ≠ "" ∨ o = .save b)
      (h : objectIDFromHex b.id = none) : CallFails E c o cause
  | idTaken {b : Booking} {e : Env} (he : E e) (h : ∃ d ∈ c.docs, d.id = e.objectID) :
      CallFails E c (.create b) (.wrap "booking create" (.text "duplicate key"))

/-- What the error of a booking request comes from: the service, or a call of the log that has failed. -/
inductive ErrorFrom (endpoint : Endpoint) (l : Log Res) : GoError → Prop
  | own (code : Nat) (message : String) : ErrorFrom endpoint l (.validation code message)
  | call {o : Op} {r : Res o} {context : String} {cause : GoError} (hmem : ⟨o, r⟩ ∈ l)
      (ho : passesOn endpoint o) (hcall : callError ⟨o, r⟩ = some cause) :
      ErrorFrom endpoint l (.wrap context cause)

theorem ErrorFrom.mono {endpoint : Endpoint} {l l' : Log Res} {err : GoError}
    (h : ErrorFrom endpoint l err) (hl : ∀ x ∈ l, x ∈ l') : ErrorFrom endpoint l' err := by
  cases h with
  | own code message => exact .own code message
  | call hmem ho hcall => exact .call (hl _ hmem) ho hcall

section

variable {E : Env → Prop} {i : Nat} {m m' : Timed World Int}

end

/-! ## The reasons -/

/-- What the handler of an endpoint, or `parseTimes`, finds wrong with a body. -/
def Malformed (q : ServerRequest) : Endpoint → Prop
  | .createBooking => ∀ body, q.createBody = some body → body.refusal = none →
      ∃ e, parseTimes body.checkInTime body.checkOutTime = .error e
  | .updateBooking _ => q.updateBody = none
  | .toggleLight => ∀ body, q.toggleBody = some body → LightsHandler.addressed body.tableID = none ∨
      (body.targetState ≠ "ON" ∧ body.targetState ≠ "OFF")
  | _ => False

/-- The endpoint is for the booking with this id. -/
def aboutBooking (id : String) : Endpoint → Prop
  | .updateBooking id' | .cancelBooking id' => id' = id
  | _ => False

section

variable (E : Env → Prop) (q : ServerRequest) (user : Locals) (l : Log Res)
  (m m' : Timed World Int)

/-- What the configuration was read as: as stored, unless the database failed. -/
def ConfigRead (cfg : Except GoError (Option VenueConfig)) : Prop :=
  ⟨.getConfig, cfg⟩ ∈ l ∧ (cfg = .ok m.state.config ∨
    ∃ failure, faultsOf E (some failure) ∧ cfg = .error (.wrap "config get" (.text failure)))

/-- Why a request with the log `l` is answered with this status and message. -/
inductive Because : Endpoint → Nat → String → Prop
  | malformed {e : Endpoint} {message : String} (h : Malformed q e) : Because e 400 message
  | unknownTable {t : Int} {message : String} (h : (m.state.tables t).isSome = false) :
      Because .toggleLight 400 message
  | restricted {caller : AuthUser} {body : BookingHandler.CreateBody} {checkIn now : Int}
      {cfg : Except GoError (Option VenueConfig)} {message : String} (hcaller : user = some caller)
      (hrole : caller.role ≠ "admin") (hbody : q.createBody = some body)
      (hin : parseRFC3339 body.checkInTime = some checkIn) (hnow : m.clock ≤ now ∧ now ≤ m'.clock)
      (hpast : checkIn < now) (hcfg : ConfigRead E l m cfg)
      (hbefore : beforeOperationalDay m.state.venueOffset checkIn now (timesAnswered cfg).1
        (timesAnswered cfg).2) : Because .createBooking 400 message
  | badWindow {id : String} {dto : UpdateBookingInput} {d : BookingDoc} {e : GoError} {message : String}
      (hbody : q.updateBody = some dto) (hd : d ∈ m.state.bookings.docs)
      (hid : objectIDFromHex id = some d.id) (hlive : d.live)
      (h : requestedWindow (docToBooking d) dto = .error e) : Because (.updateBooking id) 400 message
  | missing {e : Endpoint} {id : String} {oid : ObjectID} {message : String} (he : aboutBooking id e)
      (hid : objectIDFromHex id = some oid) (h : ∀ d ∈ m.state.bookings.docs, d.id = oid → ¬ d.live) :
      Because e 404 message
  | unfetched {e : Endpoint} {id : String} {cause : GoError} {message : String} (he : aboutBooking id e)
      (hmem : ⟨.findByID id, .error cause⟩ ∈ l)
      (h : CallFails E m.state.bookings (.findByID id) cause) : Because e 404 message
  | taken {body : BookingHandler.CreateBody} {checkIn checkOut duration : Int} {message : String}
      (hbody : q.createBody = some body)
      (htimes : parseTimes body.checkInTime body.checkOutTime = .ok (checkIn, checkOut, duration))
      (h : m.state.bookings.overlapping body.tableID checkIn checkOut none = true) :
      Because .createBooking 409 message
  | takenByOther {id : String} {dto : UpdateBookingInput} {d : BookingDoc} {newIn newOut : Int}
      {message : String} (hbody : q.updateBody = some dto) (hd : d ∈ m.state.bookings.docs)
      (hid : objectIDFromHex id = some d.id)
      (hwindow : requestedWindow (docToBooking d) dto = .ok (some (newIn, newOut)))
      (h : m.state.bookings.overlapping d.tableID newIn newOut (some d.id) = true) :
      Because (.updateBooking id) 409 message
  | noSuchDay {date : String} {cfg : Except GoError (Option VenueConfig)} {cause : GoError}
      (hdate : if q.date = "" then ∃ now, (m.clock ≤ now ∧ now ≤ m'.clock) ∧ date = timeNowDate now
        else date = q.date) (hcfg : ConfigRead E l m cfg)
      (h : Timeutil.getOperationalDayBounds m.state.venueOffset date (timesAnswered cfg).1
        (timesAnswered cfg).2 = .error cause) :
      Because .getTimeline 500 (GoError.wrap "timeline bounds" cause).error
  | failed {e : Endpoint} {o : Op} {r : Res o} {err cause : GoError} (hmem : ⟨o, r⟩ ∈ l)
      (ho : passesOn e o) (hcall : callError ⟨o, r⟩ = some cause)
      (h : CallFails E m.state.bookings o cause) (herr : Wraps err cause) :
      Because e 500 err.error

end

section

variable {E : Env → Prop} {q : ServerRequest} {user : Locals} {l : Log Res}
  {m m' : Timed World Int}

end

section

variable {E : Env → Prop} {i : Nat} {q : ServerRequest} {user : Locals} {l : Log Res}
  {m m' : Timed World Int}

end

end Server

end GbcVenue
