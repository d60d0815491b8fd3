import GbcVenue.Access.Auth
import GbcVenue.Lights.Health
import GbcVenue.Lights.Payloads
import GbcVenue.Service.Timeline

/-!
# The handlers of bookings, lights and the hardware

`backend/internal/handler`: `booking_handler.go`, `lights_handler.go`, `hardware_handler.go` and
`helpers.go`, the route to them (`main.go:145-205`), and what a whole request does. A body is what the
parser of the web framework makes of it, `none` for an error.
-/

namespace GbcVenue

open Interleaving

/-- `err.Error()`. -/
def GoError.error : GoError → String
  | .validation _ message => message
  | .text message => message
  | .wrap context cause => context ++ ": " ++ cause.error

/-- A table in the answer of `Health`. -/
structure TableReconcile where
  tableID : Int
  backendState : String
  hardwareState : String
  isSynced : Bool
  deriving DecidableEq

/-- The JSON of a response; a field of `"metadata"` that the hardware did not send is `none`. -/
inductive ReplyBody
  | error (message : String)
  | booking (b : Booking)
  | bookings (bs : List Booking)
  | toggled (tableID : Option Json) (targetState : String)
  | offline (error : String)
  | online (metadata : List (String × Option Json)) (tables : List TableReconcile)
  | config (cfg : Option VenueConfig)

structure HttpReply where
  status : Nat
  body : ReplyBody

def badRequest (message : String) : HttpReply := ⟨400, .error message⟩

/-- `handleSvcError` (`helpers.go:11-16`). -/
def handleSvcError : GoError → HttpReply
  | .validation code message => ⟨code, .error message⟩
  | e => ⟨500, .error e.error⟩

/-- Go `timeNowDate` (`helpers.go:18-21`). -/
def timeNowDate (now : Int) : String := GoTime.formatDate now

namespace BookingHandler

/-- The body of a creation. -/
structure CreateBody where
  tableID : Int
  bookerName : String
  bookerMobile : String
  checkInTime : String
  checkOutTime : String
  amount : ℚ
  isPaid : Bool

def CreateBody.input (body : CreateBody) : BookingService.CreateBookingInput where
  tableID := body.tableID
  bookerName := body.bookerName
  bookerMobile := body.bookerMobile
  checkInTime := body.checkInTime
  checkOutTime := body.checkOutTime
  amount := body.amount
  isPaid := body.isPaid

/-- What `Create` checks of a body itself (`booking_handler.go:34-42`). -/
def CreateBody.refusal (body : CreateBody) : Option String :=
  if body.tableID < 1 ∨ 4 < body.tableID then some "tableId must be 1–4"
  else if body.bookerName = "" then some "bookerName is required"
  else if body.checkInTime = "" ∨ body.checkOutTime = "" then
    some "checkInTime and checkOutTime are required"
  else none

/-- The end of the three handlers that write. -/
def respondWith (status : Nat) (r : Except GoError Booking) : HttpReply :=
  match r with
  | .ok b => ⟨status, .booking b⟩
  | .error e => handleSvcError e

/-- `Create` (`booking_handler.go:19-57`). -/
def create (user : AuthUser) : Option CreateBody → Go HttpReply
  | none => return badRequest "invalid request body"
  | some body =>
    match body.refusal with
    | some message => return badRequest message
    | none => do
      let r ← BookingService.createBooking body.input user.email user.role
      return respondWith 201 r

/-- `GetTimeline` (`booking_handler.go:60-70`), from the query parameter on. -/
def getTimeline (date : String) : Go (Except GoError (List Booking)) := do
  if date = "" then
    let now ← timeNow
    BookingService.getTimeline (timeNowDate now)
  else BookingService.getTimeline date

/-- The same up to its response. -/
def timelineReply (date : String) : Go HttpReply := do
  match ← getTimeline date with
  | .error e => return handleSvcError e
  | .ok bookings => return ⟨200, .bookings bookings⟩

/-- `Update` (`booking_handler.go:73-100`); the fields of the body are those of the input. -/
def update (id : String) : Option BookingService.UpdateBookingInput → Go HttpReply
  | none => return badRequest "invalid request body"
  | some body => do
    let r ← BookingService.updateBooking id body
    return respondWith 200 r

/-- `Cancel` (`booking_handler.go:103-110`). -/
def cancel (id : String) : Go HttpReply := do
  let r ← BookingService.cancelBooking id
  return respondWith 200 r

end BookingHandler

namespace LightsHandler

/-- The body of a toggle; `tableId` may be of any type. -/
structure ToggleBody where
  tableID : Option Json
  targetState : String

/-- `strconv.Atoi` of a value as `%v` prints it. A number is printed without a point and an exponent only
if it is an integer of less than seven digits. -/
def atoiPrinted : Option Json → Option Int
  | some (.string s) => match Timeutil.atoi s.toList with
    | (n, true) => some n
    | _ => none
  | some (.number x) =>
    if x.den = 1 ∧ -1000000 < x.num ∧ x.num < 1000000 then some x.num else none
  | _ => none

/-- The table that a body addresses, 0 for all (`lights_handler.go:32-43`). -/
def addressed (tableID : Option Json) : Option Int :=
  if MqttClient.printsALL tableID then some 0
  else match atoiPrinted tableID with
    | some parsed => if parsed < 1 ∨ 4 < parsed then none else some parsed
    | none => none

/-- The lookup of one table (`lights_handler.go:49-53`). -/
def known (tableID : Int) : Go Bool := do
  if tableID ≠ 0 then
    let (_, ok) ← TableService.getTable tableID
    return ok
  else return true

/-- `Toggle` (`lights_handler.go:23-68`). -/
def toggle : Option ToggleBody → Go HttpReply
  | none => return badRequest "invalid request body"
  | some body =>
    match addressed body.tableID with
    | none => return badRequest "tableId must be 1–4 or 'ALL'"
    | some tableID =>
      if body.targetState ≠ "ON" ∧ body.targetState ≠ "OFF" then
        return badRequest "targetState must be ON or OFF"
      else do
        if ← known tableID then
          TableService.setLightStatus tableID (if body.targetState = "ON" then .on else .off)
          return ⟨200, .toggled body.tableID body.targetState⟩
        else return badRequest "table not found"

end LightsHandler

namespace HardwareHandler

/-- The fields that `"metadata"` has, with those of the response they come from. -/
def metadataFields : List (String × String) :=
  [("deviceName", "deviceName"), ("macAddress", "mac"), ("uptimeMillis", "uptime"),
    ("freeHeap", "freeHeap"), ("heapSize", "heapSize"), ("temperature", "temperature"),
    ("ssid", "ssid"), ("rssi", "rssi"), ("ipAddress", "ipAddress")]

/-- `hwData["tables"].(map[string]any)`; `none` is the nil map. -/
def hwTables (hwData : JsonMap) : Option JsonMap :=
  match hwData.get "tables" with
  | some (.object fields) => some fields
  | _ => none

/-- What the hardware says of a table; a value that is no string is empty. -/
def hwState (tables : Option JsonMap) (tableID : Int) : String :=
  match tables.bind fun fields => fields.get (toString tableID) with
  | some (.string s) => s
  | some _ => ""
  | none => "UNKNOWN"

def backendState (t : TableState) : String :=
  if t.lightStatus = .on ∨ t.lightStatus = .pendingOn then "ON" else "OFF"

/-- One turn of the loop over the cache (`hardware_handler.go:60-78`). -/
def reconcile (hwData : JsonMap) (t : TableState) : TableReconcile where
  tableID := t.tableID
  backendState := backendState t
  hardwareState := hwState (hwTables hwData) t.tableID
  isSynced := backendState t = hwState (hwTables hwData) t.tableID

def disconnectedText : String := "MQTT broker is disconnected"

def timedOutText : String := "hardware health request timed out — ESP32 may be offline"

/-- `Health` (`hardware_handler.go:29-85`) on what `RequestHardwareHealth` returns. -/
def health : HealthResult Nat → Go HttpReply
  | .disconnected => return ⟨503, .offline disconnectedText⟩
  | .timedOut => return ⟨503, .offline timedOutText⟩
  | .data r => do
    let tables ← TableService.getCacheSnapshot
    let metadata := metadataFields.map fun (name, field) => (name, r.data.get field)
    return ⟨200, .online metadata (tables.map (reconcile r.data))⟩

end HardwareHandler

/-- `Get` of `config_handler.go`. -/
def ConfigHandler.get : Go HttpReply := do
  match ← ConfigRepository.get with
  | .error e => return ⟨500, .error (GoError.wrap "get config" e).error⟩
  | .ok cfg => return ⟨200, .config cfg⟩

/-! ## A whole request -/

/-- A request as the server reads it: what the middlewares read, the query of `GetTimeline`, the bodies,
and what `RequestHardwareHealth` returns if it is called. -/
structure ServerRequest where
  http : HttpRequest
  date : String
  createBody : Option BookingHandler.CreateBody
  updateBody : Option BookingService.UpdateBookingInput
  toggleBody : Option LightsHandler.ToggleBody
  hardware : HealthResult Nat

namespace Server

open Access

/-- The answer of the recovery middleware to `c.Locals("user").(domain.AuthUser)` without a user. -/
def noUser : HttpReply :=
  ⟨500, .error "interface conversion: interface {} is nil, not domain.AuthUser"⟩

/-- The handler of an endpoint. `none` stands for the endpoints that neither write nor read what bookings
and lights are kept in: they answer from the accounts and from the document of the configuration. -/
def handle (q : ServerRequest) (locals : Locals) : Endpoint → Go (Option HttpReply)
  | .createBooking => match locals with
    | some user => do
      let reply ← BookingHandler.create user q.createBody
      return some reply
    | none => return some noUser
  | .getTimeline => do
    let reply ← BookingHandler.timelineReply q.date
    return some reply
  | .updateBooking id => do
    let reply ← BookingHandler.update id q.updateBody
    return some reply
  | .cancelBooking id => do
    let reply ← BookingHandler.cancel id
    return some reply
  | .toggleLight => do
    let reply ← LightsHandler.toggle q.toggleBody
    return some reply
  | .hardwareHealth => do
    let reply ← HardwareHandler.health q.hardware
    return some reply
  | .getConfig => do
    let reply ← ConfigHandler.get
    return some reply
  | .health | .webSocket | .updateConfig | .listUsers | .setRole _ | .deleteUser _ => return none

/-- What becomes of a request. `none` also stands for the answers of the web framework: to a preflight, and
to a request without a route. -/
def serve (router : Middleware.Router HttpRequest) (verifyIDToken : String → Option Token)
    (q : ServerRequest) : Go (Option HttpReply) :=
  match respond router verifyIDToken q.http with
  | .handled endpoint locals => handle q locals endpoint
  | .refused (.error status message) => return some ⟨status, .error message⟩
  | .refused .preflight | .unrouted => return none

end Server

end GbcVenue
