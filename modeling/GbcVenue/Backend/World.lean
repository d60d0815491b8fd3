import GbcVenue.Interleaving.Pool
import GbcVenue.Repository.BookingRepo
import GbcVenue.Cache.VenueCache

/-!
# The backend's shared state and its atomic actions

`World` is everything the goroutines of the backend share: the database, the mutexes, the cache,
the channels and the timers. An `Op` is one atomic action on it: one acquisition or release of a
mutex, one repository call, one critical section of the cache, one channel send, one clock
reading, one critical section of the scheduler's timer map. `perform` says what each does; what it
cannot know (the clock, a fresh object id, a database failure, which due timer fires) is supplied
by an `Env`, so a run in which these vary is a run with a different `Env` at each action.
-/

namespace GbcVenue

open Interleaving

/-- A buffered channel and what is in it. -/
structure Chan (α : Type) where
  cap : Nat
  buf : List α
  deriving DecidableEq

/-- A send in a `select` with a `default`: a full channel drops the value. -/
def Chan.trySend {α : Type} (c : Chan α) (a : α) : Chan α :=
  if c.buf.length < c.cap then { c with buf := c.buf ++ [a] } else c

/-- `BookingService.mu`, and the per-table mutexes by the order of their creation. -/
inductive MutexRef
  | service
  | table (n : Nat)
  deriving DecidableEq

/-- The kind of a deadline timer: `"start"` or `"end"` in its key. -/
inductive TimerKind
  | onStart
  | onEnd
  deriving DecidableEq, Repr

/-- A key of `Scheduler.timers`, `"{tableId}:start"` or `"{tableId}:end"`. -/
structure TimerKey where
  tableID : Int
  kind : TimerKind
  deriving DecidableEq

/-- A `time.Timer` that was neither stopped nor has fired: its callback is the handler of the key's
kind, applied to the key's table and to `bookingID`. -/
structure ArmedTimer where
  id : Nat
  key : TimerKey
  bookingID : String
  deadline : Int
  deriving DecidableEq

structure World where
  bookings : BookingCollection
  config : Option VenueConfig
  venueOffset : Int
  held : MutexRef → Option Nat
  tblMu : Int → Option Nat
  nextMutex : Nat
  tables : Tables
  broadcastChan : Chan (List TableState)
  mqttCmdChan : Chan MqttCommand
  timelineChan : Chan (List Booking)
  timers : TimerKey → Option Nat
  armed : List ArmedTimer
  nextTimer : Nat

/-- A started process over a database: `NewBookingService` makes the mutexes of tables 1 to 4, and
the channels have the capacities of `main.go:95-98`. -/
def World.start (bookings : BookingCollection) (config : Option VenueConfig) (venueOffset : Int) :
    World where
  bookings := bookings
  config := config
  venueOffset := venueOffset
  held := fun _ => none
  tblMu := fun i => if 1 ≤ i ∧ i ≤ 4 then some i.toNat else none
  nextMutex := 5
  tables := Tables.new
  broadcastChan := ⟨16, []⟩
  mqttCmdChan := ⟨16, []⟩
  timelineChan := ⟨8, []⟩
  timers := fun _ => none
  armed := []
  nextTimer := 0

/-- What an action reads from outside the process. -/
structure Env where
  now : Int
  objectID : ObjectID
  fault : Option String
  timer : Nat

inductive Op
  | now
  | venueLocation
  | lock (m : MutexRef)
  | unlock (m : MutexRef)
  | tableMutex (tableID : Int)
  | create (b : Booking)
  | findByID (id : String)
  | save (b : Booking)
  | findTimeline (start stop : Int)
  | findCurrentForTable (tableID now : Int)
  | findNextUpcoming (tableID after : Int)
  | findAllActiveNow (now : Int)
  | hasOverlap (tableID checkIn checkOut : Int) (excludeID : String)
  | getConfig
  | getTable (tableID : Int)
  | getAll
  | write (c : CacheWrite)
  | sendBroadcast (snapshot : List TableState)
  | sendMqtt (cmd : MqttCommand)
  | sendTimeline (timeline : List Booking)
  | clearTimer (key : TimerKey)
  | afterFunc (delay : Int) (key : TimerKey) (bookingID : String)
  | recordTimer (key : TimerKey) (timer : Nat)
  | deleteTimer (key : TimerKey)
  | fire

/-- What an action answers. -/
@[reducible] def Res : Op → Type
  | .now | .venueLocation => Int
  | .tableMutex _ | .afterFunc .. => Nat
  | .create _ => Except GoError String
  | .findByID _ | .findCurrentForTable .. | .findNextUpcoming .. =>
      Except GoError (Option Booking)
  | .save _ => Except GoError Unit
  | .findTimeline .. | .findAllActiveNow _ => Except GoError (List Booking)
  | .hasOverlap .. => Except GoError Bool
  | .getConfig => Except GoError (Option VenueConfig)
  | .getTable _ => TableState × Bool
  | .getAll => List TableState
  | .write _ => Bool
  | .fire => ArmedTimer
  | .lock _ | .unlock _ | .sendBroadcast _ | .sendMqtt _ | .sendTimeline _ | .clearTimer _
  | .recordTimer .. | .deleteTimer _ => Unit

namespace World

/-- `clearTimer` (`scheduler.go:265-272`): stop the recorded timer and forget it. -/
def clearTimer (w : World) (key : TimerKey) : World :=
  match w.timers key with
  | some n => { w with
      timers := Function.update w.timers key none
      armed := w.armed.filter fun t => t.id ≠ n }
  | none => w

/-- `time.AfterFunc(delay, f)` at `now`. -/
def afterFunc (w : World) (now delay : Int) (key : TimerKey) (bookingID : String) : World :=
  { w with
    armed := w.armed ++ [⟨w.nextTimer, key, bookingID, now + delay⟩]
    nextTimer := w.nextTimer + 1 }

/-- `getTableMutex` between the lock and the unlock of `mu` (`booking_service.go:57-62`). -/
def tableMutex (w : World) (tableID : Int) : Nat × World :=
  match w.tblMu tableID with
  | some m => (m, w)
  | none => (w.nextMutex, { w with
      tblMu := Function.update w.tblMu tableID (some w.nextMutex)
      nextMutex := w.nextMutex + 1 })

end World

/-- What thread `i` does to the shared state with one action; `none` if it is blocked. -/
def perform (i : Nat) (e : Env) : (o : Op) → World → Option (Res o × World)
  | .now, w => some (e.now, w)
  | .venueLocation, w => some (w.venueOffset, w)
  | .lock m, w => match w.held m with
    | none => some ((), { w with held := Function.update w.held m (some i) })
    | some _ => none
  | .unlock m, w => match w.held m with
    | some _ => some ((), { w with held := Function.update w.held m none })
    | none => none
  | .tableMutex tableID, w => some (w.tableMutex tableID)
  | .create b, w =>
    let (r, c) := w.bookings.create e.fault e.objectID e.now b
    some (r, { w with bookings := c })
  | .findByID id, w => some (w.bookings.findByID e.fault id, w)
  | .save b, w =>
    let (r, c) := w.bookings.save e.fault b
    some (r, { w with bookings := c })
  | .findTimeline start stop, w => some (w.bookings.findTimeline e.fault start stop, w)
  | .findCurrentForTable tableID now, w =>
    some (w.bookings.findCurrentForTable e.fault tableID now, w)
  | .findNextUpcoming tableID after, w =>
    some (w.bookings.findNextUpcoming e.fault tableID after, w)
  | .findAllActiveNow now, w => some (w.bookings.findAllActiveNow e.fault now, w)
  | .hasOverlap tableID checkIn checkOut excludeID, w =>
    some (w.bookings.hasOverlap e.fault tableID checkIn checkOut excludeID, w)
  | .getConfig, w => some (match e.fault with
      | some err => .error (.wrap "config get" (.text err))
      | none => .ok w.config, w)
  | .getTable tableID, w => some (w.tables.getTable tableID, w)
  | .getAll, w => some (w.tables.getAll, w)
  | .write c, w =>
    let (ts, broadcasts) := c.apply w.tables
    some (broadcasts, { w with tables := ts })
  | .sendBroadcast snapshot, w =>
    some ((), { w with broadcastChan := w.broadcastChan.trySend snapshot })
  | .sendMqtt cmd, w => some ((), { w with mqttCmdChan := w.mqttCmdChan.trySend cmd })
  | .sendTimeline timeline, w =>
    some ((), { w with timelineChan := w.timelineChan.trySend timeline })
  | .clearTimer key, w => some ((), w.clearTimer key)
  | .afterFunc delay key bookingID, w =>
    some (w.nextTimer, w.afterFunc e.now delay key bookingID)
  | .recordTimer key timer, w =>
    some ((), { w with timers := Function.update w.timers key (some timer) })
  | .deleteTimer key, w => some ((), { w with timers := Function.update w.timers key none })
  | .fire, w => match w.armed.find? fun t => t.id = e.timer ∧ t.deadline ≤ e.now with
    | some t => some (t, { w with armed := w.armed.filter fun t' => t'.id ≠ t.id })
    | none => none

/-- The actions as a relation, when the outside world answers as `E` allows. -/
def sem (E : Env → Prop) : Sem Res Nat World :=
  fun i o w r w' => ∃ e, E e ∧ perform i e o w = some (r, w')

/-- A program of the backend. -/
abbrev Go (α : Type) := Prog Res α

end GbcVenue
