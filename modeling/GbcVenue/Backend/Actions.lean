import GbcVenue.Backend.World

/-!
# The interfaces the services call

One program for each method of `BookingRepository`, `ConfigRepository` and `TableCache` and for
each standard library call with an effect. A method is a single atomic action, except that a
mutating method of the cache releases the lock before it broadcasts (`venue_cache.go:216-223`).
-/

namespace GbcVenue

open Interleaving

/-- `time.Now()`. -/
def timeNow : Go Int := Prog.call Op.now

/-- `VenueLocation()`. -/
def venueLocation : Go Int := Prog.call Op.venueLocation

/-- `m.Lock()`, the body, and the deferred `m.Unlock()`. -/
def withLock {α : Type} (m : MutexRef) (body : Go α) : Go α := do
  let _ ← Prog.call (Op.lock m)
  let a ← body
  let _ ← Prog.call (Op.unlock m)
  return a

namespace BookingRepository

def create (b : Booking) : Go (Except GoError String) := Prog.call (Op.create b)

def findByID (id : String) : Go (Except GoError (Option Booking)) := Prog.call (Op.findByID id)

def save (b : Booking) : Go (Except GoError Unit) := Prog.call (Op.save b)

def findTimeline (start stop : Int) : Go (Except GoError (List Booking)) :=
  Prog.call (Op.findTimeline start stop)

def findCurrentForTable (tableID now : Int) : Go (Except GoError (Option Booking)) :=
  Prog.call (Op.findCurrentForTable tableID now)

def findNextUpcoming (tableID after : Int) : Go (Except GoError (Option Booking)) :=
  Prog.call (Op.findNextUpcoming tableID after)

def findAllActiveNow (now : Int) : Go (Except GoError (List Booking)) :=
  Prog.call (Op.findAllActiveNow now)

def hasOverlap (tableID checkIn checkOut : Int) (excludeID : String) : Go (Except GoError Bool) :=
  Prog.call (Op.hasOverlap tableID checkIn checkOut excludeID)

end BookingRepository

/-- `ConfigRepository.Get`. -/
def ConfigRepository.get : Go (Except GoError (Option VenueConfig)) := Prog.call Op.getConfig

namespace TableCache

def getTable (tableID : Int) : Go (TableState × Bool) := Prog.call (Op.getTable tableID)

def getAll : Go (List TableState) := Prog.call Op.getAll

/-- `broadcast`: a snapshot and a send that a full channel drops. -/
def broadcast : Go Unit := do
  let snapshot ← getAll
  Prog.call (Op.sendBroadcast snapshot)

/-- A mutating method: its critical section, then the broadcast. -/
def write (c : CacheWrite) : Go Unit := do
  let broadcasts ← (Prog.call (Op.write c) : Go Bool)
  Prog.when broadcasts broadcast

def hydrateTable (tableID : Int) (booking : Option CurrentBooking) : Go Unit :=
  write (.hydrateTable tableID booking)

def activateTable (tableID : Int) (booking : CurrentBooking) : Go Unit :=
  write (.activateTable tableID booking)

def deactivateTable (tableID : Int) : Go Unit := write (.deactivateTable tableID)

def setLightStatus (tableID : Int) (targetState : LightStatus) : Go Unit :=
  write (.setLightStatus tableID targetState)

def setAllLightStatuses (targetState : LightStatus) : Go Unit :=
  write (.setAllLightStatuses targetState)

def confirmLightStatus (tableID : Int) (state : LightStatus) : Go Unit :=
  write (.confirmLightStatus tableID state)

def confirmAllLightStatuses (state : LightStatus) : Go Unit :=
  write (.confirmAllLightStatuses state)

def confirmFullSync : Go Unit := write .confirmFullSync

def updateCurrentBooking (tableID : Int) (partialBooking : CurrentBooking) : Go Unit :=
  write (.updateCurrentBooking tableID partialBooking)

end TableCache

end GbcVenue
