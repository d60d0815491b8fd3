import GbcVenue.Service.BookingService

/-!
# The scheduler

`backend/internal/scheduler/scheduler.go`, and the boot sequence of `cmd/server/main.go` that runs
before it: one start timer and one end timer for each table, whose callbacks chain, and a reconcile
pass over tables 1 to 4. No path of the scheduler takes a booking mutex.
-/

namespace GbcVenue.Scheduler

open Interleaving BookingService

def startKey (tableID : Int) : TimerKey := ⟨tableID, .onStart⟩

def endKey (tableID : Int) : TimerKey := ⟨tableID, .onEnd⟩

/-- Go `clearTimer` (`scheduler.go:265-272`). -/
def clearTimer (key : TimerKey) : Go Unit := Prog.call (Op.clearTimer key)

/-- Go `clearTableTimers` (`scheduler.go:260-263`). -/
def clearTableTimers (tableID : Int) : Go Unit := do
  clearTimer (startKey tableID)
  clearTimer (endKey tableID)

/-- `setStartTimer` and `setEndTimer` (`scheduler.go:109-145`), which differ in the key alone: the
delay is computed before the old timer is cleared, and a past instant fires at once. The delay is
exact: where Go's saturates, at 292 years, the timer outlives the process. -/
def setTimer (key : TimerKey) (bookingID : String) (instant : Int) : Go Unit := do
  let now ← timeNow
  let delay := if instant - now < 0 then 0 else instant - now
  clearTimer key
  let timer ← (Prog.call (Op.afterFunc delay key bookingID) : Go Nat)
  Prog.call (Op.recordTimer key timer)

/-- Go `setStartTimer` (`scheduler.go:109-126`). -/
def setStartTimer (tableID : Int) (bookingID : String) (checkIn : Int) : Go Unit :=
  setTimer (startKey tableID) bookingID checkIn

/-- Go `setEndTimer` (`scheduler.go:128-145`). -/
def setEndTimer (tableID : Int) (bookingID : String) (checkOut : Int) : Go Unit :=
  setTimer (endKey tableID) bookingID checkOut

/-- The chaining step of `RescheduleTable` and `handleEndFired`: a start timer for the next booking
that begins strictly after `now`. -/
def scheduleNext (tableID now : Int) : Go Unit := do
  match ← BookingRepository.findNextUpcoming tableID now with
  | .ok (some next) => setStartTimer tableID next.id next.checkInTime
  | _ => return

/-- Go `RescheduleTable` (`scheduler.go:54-77`); its callers drop or log the error. -/
def rescheduleTable (tableID : Int) : Go Unit := do
  clearTableTimers tableID
  let now ← timeNow
  match ← BookingRepository.findCurrentForTable tableID now with
  | .error _ => return
  | .ok (some active) => setEndTimer tableID active.id active.checkOutTime
  | .ok none => scheduleNext tableID now

/-- Go `InitAll` (`scheduler.go:43-50`). -/
def initAll : Go Unit := do
  rescheduleTable 1
  rescheduleTable 2
  rescheduleTable 3
  rescheduleTable 4

/-- Go `handleStartFired` (`scheduler.go:151-186`). -/
def handleStartFired (tableID : Int) (bookingID : String) : Go Unit := do
  let _ ← (Prog.call (Op.deleteTimer (startKey tableID)) : Go Unit)
  match ← BookingRepository.findByID bookingID with
  | .error _ => return
  | .ok none => rescheduleTable tableID
  | .ok (some b) =>
    if b.status = .cancelled then rescheduleTable tableID
    else
    let now ← timeNow
    if covers b now then
      TableService.activateTable tableID (currentBookingOf b)
      setEndTimer tableID b.id b.checkOutTime
    else rescheduleTable tableID

/-- `ok && Status == BUSY && CurrentBooking != nil && CurrentBooking.BookingID == bookingID`. -/
def showsBooking (table : TableState × Bool) (bookingID : String) : Bool :=
  table.2 ∧ table.1.status = .busy ∧
    table.1.currentBooking.map CurrentBooking.bookingID = some bookingID

/-- Go `handleEndFired` (`scheduler.go:190-213`). It compares the booking's id with the cache and
looks at no check-out time. -/
def handleEndFired (tableID : Int) (bookingID : String) : Go Unit := do
  let _ ← (Prog.call (Op.deleteTimer (endKey tableID)) : Go Unit)
  let table ← TableService.getTable tableID
  Prog.when (showsBooking table bookingID) (TableService.deactivateTable tableID)
  let now ← timeNow
  scheduleNext tableID now

/-- Whether the cached check-out, as text with a precision of seconds, has been reached. -/
def expired (cb : CurrentBooking) (now : Int) : Bool :=
  match GoTime.parseRFC3339 cb.checkOutTime with
  | some checkOut => checkOut ≤ now
  | none => false

/-- One iteration of `reconcile` (`scheduler.go:220-254`). -/
def reconcileTable (now tableID : Int) : Go Unit := do
  let (table, ok) ← TableService.getTable tableID
  if !ok then return
  else
  match table.status, table.currentBooking with
  | .busy, some cb =>
    Prog.when (expired cb now) do
      TableService.deactivateTable tableID
      rescheduleTable tableID
  | .available, _ =>
    match ← BookingRepository.findCurrentForTable tableID now with
    | .ok (some active) =>
      TableService.activateTable tableID (currentBookingOf active)
      rescheduleTable tableID
    | _ => return
  | _, _ => return

/-- Go `reconcile` (`scheduler.go:217-256`): one reading of the clock for all four tables. -/
def reconcile : Go Unit := do
  let now ← timeNow
  reconcileTable now 1
  reconcileTable now 2
  reconcileTable now 3
  reconcileTable now 4

/-- The callback of a fired timer (`scheduler.go:117-119` and `136-138`). -/
def callback (t : ArmedTimer) : Go Unit :=
  match t.key.kind with
  | .onStart => handleStartFired t.key.tableID t.bookingID
  | .onEnd => handleEndFired t.key.tableID t.bookingID

/-- A goroutine of the runtime: a due timer fires and its callback runs. -/
def timerFires : Go Unit := do
  let t ← (Prog.call Op.fire : Go ArmedTimer)
  callback t

/-- The loop of `hydrateCache`. -/
def hydrateEach : List Booking → Go Unit
  | [] => return
  | b :: bs => do
    TableCache.hydrateTable b.tableID (some (currentBookingOf b))
    hydrateEach bs

/-- Go `hydrateCache` (`main.go:247-270`). -/
def hydrateCache : Go Unit := do
  let now ← timeNow
  match ← BookingRepository.findAllActiveNow now with
  | .error _ => return
  | .ok bs => hydrateEach bs

/-- The boot sequence (`main.go:117` and `127-128`). -/
def boot : Go Unit := do
  hydrateCache
  initAll

end GbcVenue.Scheduler
