import Mathlib.Data.Int.Order.Basic
import Mathlib.Data.Rat.Defs

/-!
# Domain types

The types of `backend/internal/domain/types.go`. Instants are nanoseconds since the Unix epoch.
An amount is a `float64` that is stored and copied but never computed with; it is a rational here.
A string type with named constants is an enumeration, with a constructor for Go's zero value where
a map lookup can produce it.
-/

namespace GbcVenue

/-- The order of instants. It is found before the order of `Int` as a lattice, which does not
compute. -/
instance (priority := high) instantOrder : Preorder Int := Int.instLinearOrder.toPreorder

/-- `TableStatus`. -/
inductive TableStatus
  | empty
  | available
  | busy
  | pending
  deriving DecidableEq, Repr

/-- `LightStatus`. -/
inductive LightStatus
  | empty
  | on
  | off
  | pendingOn
  | pendingOff
  deriving DecidableEq, Repr

/-- The `LightState` of an `MqttCommand`, `"ON"` or `"OFF"`. -/
inductive LightState
  | on
  | off
  deriving DecidableEq, Repr

/-- The `Status` of a `Booking`, `"ACTIVE"` or `"CANCELLED"`. -/
inductive BookingStatus
  | active
  | cancelled
  deriving DecidableEq, Repr

/-- The number of a table of the venue. -/
abbrev TableNo := { n : Int // 1 ≤ n ∧ n ≤ 4 }

/-- `CurrentBooking`: the live booking metadata of a BUSY table. The times are RFC 3339 text. -/
structure CurrentBooking where
  bookingID : String
  bookerName : String
  bookerMobile : String
  checkInTime : String
  checkOutTime : String
  durationMinutes : Int
  amount : ℚ
  isPaid : Bool
  deriving DecidableEq

/-- `TableState`: the runtime state of one table in the cache. -/
structure TableState where
  tableID : Int
  tableName : String
  status : TableStatus
  lightStatus : LightStatus
  currentBooking : Option CurrentBooking
  deriving DecidableEq

/-- `Booking`. -/
structure Booking where
  id : String
  tableID : Int
  bookerName : String
  bookerMobile : String
  checkInTime : Int
  checkOutTime : Int
  durationMinutes : Int
  amount : ℚ
  isPaid : Bool
  status : BookingStatus
  createdBy : String
  createdAt : Int
  deriving DecidableEq

/-- `b.ID = id`. -/
def Booking.withID (b : Booking) (id : String) : Booking := { b with id := id }

/-- `VenueConfig`. -/
structure VenueConfig where
  hourlyRate : ℚ
  venueCloseTime : String
  venueStartTime : String
  updatedAt : Int
  deriving DecidableEq

/-- `MqttCommand`: what the table service queues for the MQTT client. Table 0 stands for all. -/
structure MqttCommand where
  commandID : String
  tableID : Int
  lightState : LightState
  deriving DecidableEq

/-- An `error`: a `ValidationError` with its HTTP status, a text, or `fmt.Errorf` around another. -/
inductive GoError
  | validation (code : Nat) (message : String)
  | text (message : String)
  | wrap (context : String) (cause : GoError)
  deriving DecidableEq, Repr

end GbcVenue
