import Mathlib.Data.Rat.Defs

/-!
# Bookings in the frontend

The shape that `frontend/src/pages/Bookings.jsx:201-212` gives a booking, and that the timeline and the
booking modal work on. Times are milliseconds since 1970.
-/

namespace GbcVenue

/-- An element of `timelineBookings`. -/
structure TimelineBooking where
  bookingId : String
  tableId : Int
  player : String
  mobile : String
  startTime : Int
  duration : Int
  amount : ℚ
  paid : Bool
  deriving DecidableEq

namespace TimelineBooking

def endTime (b : TimelineBooking) : Int := b.startTime + b.duration

end TimelineBooking

/-- A booking from ten to eleven. -/
def annsBooking : TimelineBooking :=
  ⟨"1", 1, "Ann", "", 1893492000000, 3600000, 0, false⟩

end GbcVenue
