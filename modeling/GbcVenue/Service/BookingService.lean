import GbcVenue.Service.TableService
import GbcVenue.Time.Timeutil

/-!
# The booking service

`backend/internal/service/booking_service.go`: the three booking writes, each under the mutex of the
booking's table, and the timeline update they end with.
-/

namespace GbcVenue.BookingService

open Interleaving GoTime

/-- `CreateBookingInput`. -/
structure CreateBookingInput where
  tableID : Int
  bookerName : String
  bookerMobile : String
  checkInTime : String
  checkOutTime : String
  amount : ℚ
  isPaid : Bool

/-- `UpdateBookingInput`: an absent time is the empty string. -/
structure UpdateBookingInput where
  bookerName : Option String
  bookerMobile : Option String
  checkInTime : String
  checkOutTime : String
  amount : Option ℚ
  isPaid : Option Bool

/-- `int(math.Round(d.Minutes()))`, half away from zero; exact where Go computes in `float64`. -/
def roundMinutes (d : Int) : Int :=
  if 0 ≤ d then (2 * d + minute) / (2 * minute) else -((2 * -d + minute) / (2 * minute))

/-- Go `parseTimes` (`booking_service.go:316-330`). -/
def parseTimes (checkInStr checkOutStr : String) : Except GoError (Int × Int × Int) :=
  match parseRFC3339 checkInStr with
  | none => .error (.validation 400 "invalid checkInTime: must be ISO 8601")
  | some checkIn => match parseRFC3339 checkOutStr with
    | none => .error (.validation 400 "invalid checkOutTime: must be ISO 8601")
    | some checkOut =>
      let duration := roundMinutes (sub checkOut checkIn)
      if duration ≤ 0 then .error (.validation 400 "checkOutTime must be after checkInTime")
      else .ok (checkIn, checkOut, duration)

/-- The `CurrentBooking` literal that the booking service and the scheduler fill from a booking. -/
def currentBookingOf (b : Booking) : CurrentBooking where
  bookingID := b.id
  bookerName := b.bookerName
  bookerMobile := b.bookerMobile
  checkInTime := formatRFC3339 b.checkInTime
  checkOutTime := formatRFC3339 b.checkOutTime
  durationMinutes := b.durationMinutes
  amount := b.amount
  isPaid := b.isPaid

/-- `!b.CheckInTime.After(now) && b.CheckOutTime.After(now)`. -/
def covers (b : Booking) (now : Int) : Bool := b.checkInTime ≤ now ∧ now < b.checkOutTime

/-- Go `getTableMutex` (`booking_service.go:54-63`). -/
def getTableMutex (tableID : Int) : Go MutexRef := do
  let m ← withLock .service (Prog.call (Op.tableMutex tableID) : Go Nat)
  return .table m

/-- The opening and closing times of a configuration, or the defaults. -/
def timesOf : Option VenueConfig → String × String
  | some cfg => (cfg.venueStartTime, cfg.venueCloseTime)
  | none => ("09:00", "06:00")

/-- `cfg, _ := s.configRepo.Get()` and the times of `cfg`, which is nil after an error. -/
def venueTimes : Go (String × String) := do
  match ← ConfigRepository.get with
  | .ok cfg => return timesOf cfg
  | .error _ => return timesOf none

/-- Go `GetTimeline` (`booking_service.go:144-157`). -/
def getTimeline (dateStr : String) : Go (Except GoError (List Booking)) := do
  let (venueStart, venueClose) ← venueTimes
  let offset ← venueLocation
  match Timeutil.getOperationalDayBounds offset dateStr venueStart venueClose with
  | .error e => return .error (.wrap "timeline bounds" e)
  | .ok bounds => BookingRepository.findTimeline bounds.start bounds.stop

/-- Go `GetTodayTimeline` (`booking_service.go:162-169`). -/
def getTodayTimeline : Go (Except GoError (List Booking)) := do
  let (_, venueClose) ← venueTimes
  let offset ← venueLocation
  let now ← timeNow
  getTimeline (Timeutil.todayVenueString offset now venueClose)

/-- Go `emitTimelineUpdate` (`booking_service.go:303-314`). -/
def emitTimelineUpdate : Go Unit := do
  match ← getTodayTimeline with
  | .error _ => return
  | .ok tl => Prog.call (Op.sendTimeline tl)

/-- Whether a check-in lies before the current operational day; the zero bounds, if the venue times
do not parse (`booking_service.go:88-89`). -/
def beforeOperationalDay (offset checkIn now : Int) (venueStart venueClose : String) : Bool :=
  match Timeutil.getOperationalDayBounds offset (formatDate now) venueStart venueClose with
  | .ok bounds => checkIn < bounds.start
  | .error _ => checkIn < zeroTime

/-- The temporal restriction of `CreateBooking` (`booking_service.go:80-92`): whether a check-in is
refused to this role. -/
def staffRefused (checkIn now : Int) (role : String) : Go Bool := do
  if checkIn < now ∧ role ≠ "admin" then
    let (venueStart, venueClose) ← venueTimes
    let offset ← venueLocation
    return beforeOperationalDay offset checkIn now venueStart venueClose
  else return false

/-- The `ValidationError` for a booking that is missing or cancelled. -/
def notFound : GoError := .validation 404 "booking not found or already cancelled"

def staffInPast : GoError :=
  .validation 400 "staff cannot create bookings in the past outside the current operational day"

def alreadyBooked (tableID : Int) : GoError :=
  .validation 409 ("table " ++ toString tableID ++ " is already booked during this time window")

def alreadyBookedInWindow (tableID : Int) : GoError :=
  .validation 409 ("table " ++ toString tableID ++ " already booked in this window")

/-- The record that `CreateBooking` stores (`booking_service.go:103-115`). -/
def newBooking (dto : CreateBookingInput) (createdBy : String) (checkIn checkOut duration now : Int) :
    Booking where
  id := ""
  tableID := dto.tableID
  bookerName := dto.bookerName
  bookerMobile := dto.bookerMobile
  checkInTime := checkIn
  checkOutTime := checkOut
  durationMinutes := duration
  amount := dto.amount
  isPaid := dto.isPaid
  status := .active
  createdBy := createdBy
  createdAt := now

/-- The cache sync and the timeline update that end `CreateBooking` (`booking_service.go:122-137`). -/
def syncCreated (b : Booking) : Go Unit := do
  let syncNow ← timeNow
  Prog.when (covers b syncNow) (TableService.activateTable b.tableID (currentBookingOf b))
  emitTimelineUpdate

/-- `CreateBooking` under the mutex of the table (`booking_service.go:73-138`). -/
def createLocked (dto : CreateBookingInput) (createdBy role : String) :
    Go (Except GoError Booking) := do
  match parseTimes dto.checkInTime dto.checkOutTime with
  | .error e => return .error e
  | .ok (checkIn, checkOut, duration) =>
  let now ← timeNow
  if ← staffRefused checkIn now role then return .error staffInPast
  else
  match ← BookingRepository.hasOverlap dto.tableID checkIn checkOut "" with
  | .error e => return .error (.wrap "overlap check" e)
  | .ok true => return .error (alreadyBooked dto.tableID)
  | .ok false =>
  let b := newBooking dto createdBy checkIn checkOut duration now
  match ← BookingRepository.create b with
  | .error e => return .error (.wrap "create booking" e)
  | .ok id =>
  syncCreated (b.withID id)
  return .ok (b.withID id)

/-- Go `CreateBooking` (`booking_service.go:68-139`). -/
def createBooking (dto : CreateBookingInput) (createdBy role : String) :
    Go (Except GoError Booking) := do
  let m ← getTableMutex dto.tableID
  withLock m (createLocked dto createdBy role)

/-- The window an update asks for (`booking_service.go:194-211`); `none` if it leaves the times. -/
def requestedWindow (fresh : Booking) (dto : UpdateBookingInput) :
    Except GoError (Option (Int × Int)) :=
  if dto.checkOutTime = "" ∧ dto.checkInTime = "" then .ok none
  else
    match if dto.checkInTime = "" then some fresh.checkInTime
      else parseRFC3339 dto.checkInTime with
    | none => .error (.validation 400 "invalid checkInTime")
    | some newIn =>
      match if dto.checkOutTime = "" then some fresh.checkOutTime
        else parseRFC3339 dto.checkOutTime with
      | none => .error (.validation 400 "invalid checkOutTime")
      | some newOut =>
        if newIn < newOut then .ok (some (newIn, newOut))
        else .error (.validation 400 "checkOutTime must be after checkInTime")

/-- The record an update saves (`booking_service.go:219-234`). -/
def updated (fresh : Booking) (dto : UpdateBookingInput) (window : Option (Int × Int)) : Booking :=
  let b := match window with
    | none => fresh
    | some (newIn, newOut) => { fresh with
        checkInTime := newIn
        checkOutTime := newOut
        durationMinutes := roundMinutes (sub newOut newIn) }
  { b with
    bookerName := dto.bookerName.getD b.bookerName
    bookerMobile := dto.bookerMobile.getD b.bookerMobile
    amount := dto.amount.getD b.amount
    isPaid := dto.isPaid.getD b.isPaid }

/-- The overlap check of an update, made only for a new window (`booking_service.go:212-218`). -/
def checkWindow (tableID : Int) (window : Option (Int × Int)) (id : String) :
    Go (Except GoError Unit) := do
  match window with
  | none => return .ok ()
  | some (newIn, newOut) =>
    match ← BookingRepository.hasOverlap tableID newIn newOut id with
    | .error e => return .error (.wrap "overlap check" e)
    | .ok true => return .error (alreadyBookedInWindow tableID)
    | .ok false => return .ok ()

/-- The second read of an update or a cancellation, under the mutex of the table
(`booking_service.go:189-192` and `276-279`); `body` works on what it finds. -/
def refetch (id : String) (body : Booking → Go (Except GoError Booking)) :
    Go (Except GoError Booking) := do
  match ← BookingRepository.findByID id with
  | .ok (some fresh) => if fresh.status = .cancelled then return .error notFound else body fresh
  | _ => return .error notFound

/-- An update or a cancellation (`booking_service.go:176-192` and `264-279`): an unlocked read finds
the table, whose mutex is then held. -/
def withFresh (id : String) (body : Booking → Go (Except GoError Booking)) :
    Go (Except GoError Booking) := do
  match ← BookingRepository.findByID id with
  | .error e => return .error (.wrap "fetch booking" e)
  | .ok none => return .error notFound
  | .ok (some b) =>
    if b.status = .cancelled then return .error notFound
    else
    let m ← getTableMutex b.tableID
    withLock m (refetch id body)

/-- The cache sync and the timeline update that end `UpdateBooking` (`booking_service.go:241-256`). -/
def syncUpdated (b : Booking) : Go Unit := do
  let now ← timeNow
  Prog.when (covers b now) (TableService.updateCurrentBooking b.tableID (currentBookingOf b))
  emitTimelineUpdate

/-- `UpdateBooking` on the record read under the mutex (`booking_service.go:194-257`). -/
def updateFresh (id : String) (dto : UpdateBookingInput) (fresh : Booking) :
    Go (Except GoError Booking) := do
  match requestedWindow fresh dto with
  | .error e => return .error e
  | .ok window =>
  match ← checkWindow fresh.tableID window id with
  | .error e => return .error e
  | .ok () =>
  match ← BookingRepository.save (updated fresh dto window) with
  | .error e => return .error (.wrap "save booking" e)
  | .ok () =>
  syncUpdated (updated fresh dto window)
  return .ok (updated fresh dto window)

/-- Go `UpdateBooking` (`booking_service.go:174-258`). -/
def updateBooking (id : String) (dto : UpdateBookingInput) : Go (Except GoError Booking) :=
  withFresh id (updateFresh id dto)

/-- The record a cancellation saves. -/
def cancelled (fresh : Booking) : Booking := { fresh with status := .cancelled }

/-- The cache sync and the timeline update that end `CancelBooking` (`booking_service.go:287-297`):
the table is deactivated only if the cache shows this very id. -/
def syncCancelled (id : String) (b : Booking) : Go Unit := do
  let now ← timeNow
  Prog.when (covers b now) do
    let (table, ok) ← TableService.getTable b.tableID
    Prog.when (ok ∧ table.currentBooking.map CurrentBooking.bookingID = some id)
      (TableService.deactivateTable b.tableID)
  emitTimelineUpdate

/-- `CancelBooking` on the record read under the mutex (`booking_service.go:281-298`). -/
def cancelFresh (id : String) (fresh : Booking) : Go (Except GoError Booking) := do
  match ← BookingRepository.save (cancelled fresh) with
  | .error e => return .error (.wrap "save cancelled booking" e)
  | .ok () =>
  syncCancelled id (cancelled fresh)
  return .ok (cancelled fresh)

/-- Go `CancelBooking` (`booking_service.go:263-299`). -/
def cancelBooking (id : String) : Go (Except GoError Booking) :=
  withFresh id (cancelFresh id)

end GbcVenue.BookingService
