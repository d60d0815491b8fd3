import GbcVenue.Domain.Types
import GbcVenue.Repository.ObjectID
import GbcVenue.Time.GoTime
import Mathlib.Data.List.MinMax

/-!
# The bookings collection

`backend/internal/repository/booking_repo.go` over a MongoDB collection. Documents hold their times
in milliseconds, and a query compares in milliseconds as well. MongoDB keeps `_id` unique, which
the collection carries as a field; where a query may match several documents the first in natural
order is returned. `fault` is the driver's error when a call to the database fails; a call that
fails changes nothing.
-/

namespace GbcVenue

open GoTime

/-- `bookingDoc`. -/
structure BookingDoc where
  id : ObjectID
  tableID : Int
  bookerName : String
  bookerMobile : String
  checkInTime : Int
  checkOutTime : Int
  durationMinutes : Int
  amount : ℚ
  isPaid : Bool
  status : BookingStatus
  createdBy : String
  createdAt : Int
  deriving DecidableEq

/-- `docToBooking`. -/
def docToBooking (d : BookingDoc) : Booking where
  id := d.id.hex
  tableID := d.tableID
  bookerName := d.bookerName
  bookerMobile := d.bookerMobile
  checkInTime := ofUnixMilli d.checkInTime
  checkOutTime := ofUnixMilli d.checkOutTime
  durationMinutes := d.durationMinutes
  amount := d.amount
  isPaid := d.isPaid
  status := d.status
  createdBy := d.createdBy
  createdAt := ofUnixMilli d.createdAt

def invalidHex : GoError := .text "the provided hex string is not a valid ObjectID"

/-- The document with id `oid` that `bookingToDoc` builds from the fields of a booking. -/
def docOf (oid : ObjectID) (b : Booking) : BookingDoc where
  id := oid
  tableID := b.tableID
  bookerName := b.bookerName
  bookerMobile := b.bookerMobile
  checkInTime := unixMilli b.checkInTime
  checkOutTime := unixMilli b.checkOutTime
  durationMinutes := b.durationMinutes
  amount := b.amount
  isPaid := b.isPaid
  status := b.status
  createdBy := b.createdBy
  createdAt := unixMilli b.createdAt

/-- `bookingToDoc`. -/
def bookingToDoc (b : Booking) : Except GoError BookingDoc :=
  if b.id = "" then .ok (docOf .zero b)
  else match objectIDFromHex b.id with
    | none => .error (.wrap ("bookingToDoc: invalid id " ++ b.id.quote) invalidHex)
    | some oid => .ok (docOf oid b)

/-- The `bookings` collection: documents in natural order with distinct ids. -/
structure BookingCollection where
  docs : List BookingDoc
  nodup : (docs.map BookingDoc.id).Nodup

namespace BookingDoc

/-- `status: {$ne: "CANCELLED"}`. -/
def live (d : BookingDoc) : Bool := d.status ≠ .cancelled

/-- The filter of `FindCurrentForTable` and `FindAllActiveNow`: not cancelled, and its window holds
the millisecond `now`. -/
def activeAt (d : BookingDoc) (now : Int) : Bool :=
  d.live ∧ d.checkInTime ≤ now ∧ now < d.checkOutTime

/-- The filter of `HasOverlap`: a live booking of the table whose window meets the given one. -/
def overlaps (d : BookingDoc) (tableID checkIn checkOut : Int) : Bool :=
  d.tableID = tableID ∧ d.live ∧ d.checkInTime < checkOut ∧ checkIn < d.checkOutTime

end BookingDoc

namespace BookingCollection

def empty : BookingCollection := ⟨[], List.nodup_nil⟩

/-- The document with a given `_id`. -/
def find (c : BookingCollection) (oid : ObjectID) : Option BookingDoc :=
  c.docs.find? fun d => d.id = oid

/-- `InsertOne`; `none` stands for the duplicate key error. -/
def insertOne (c : BookingCollection) (d : BookingDoc) : Option BookingCollection :=
  if h : d.id ∈ c.docs.map BookingDoc.id then none
  else some ⟨c.docs ++ [d], by
    rw [List.map_append, List.nodup_append]
    refine ⟨c.nodup, by simp, fun a ha b hb => ?_⟩
    rw [List.map_singleton, List.mem_singleton] at hb
    rintro rfl
    exact h (hb ▸ ha)⟩

/-- `ReplaceOne` on `_id`; without a match it changes nothing. -/
def replaceOne (c : BookingCollection) (d : BookingDoc) : BookingCollection where
  docs := c.docs.map fun e => if e.id = d.id then d else e
  nodup := by
    have hids : (c.docs.map fun e => if e.id = d.id then d else e).map BookingDoc.id =
        c.docs.map BookingDoc.id := by
      rw [List.map_map]
      apply List.map_congr_left
      intro e _
      simp only [Function.comp]
      split
      · exact (by assumption : e.id = d.id).symm
      · rfl
    rw [hids]
    exact c.nodup

/-- Go `Create` (`booking_repo.go:92-107`): the hex id of the new document. -/
def create (c : BookingCollection) (fault : Option String) (objectID : ObjectID) (now : Int)
    (b : Booking) : Except GoError String × BookingCollection :=
  match bookingToDoc b with
  | .error e => (.error e, c)
  | .ok doc =>
    let doc := { doc with id := objectID }
    let doc := if b.createdAt = zeroTime then { doc with createdAt := unixMilli now } else doc
    match fault with
    | some e => (.error (.wrap "booking create" (.text e)), c)
    | none => match c.insertOne doc with
      | none => (.error (.wrap "booking create" (.text "duplicate key")), c)
      | some c' => (.ok objectID.hex, c')

/-- Go `FindByID` (`booking_repo.go:109-124`). -/
def findByID (c : BookingCollection) (fault : Option String) (id : String) :
    Except GoError (Option Booking) :=
  match objectIDFromHex id with
  | none => .error (.wrap ("invalid booking id " ++ id.quote) invalidHex)
  | some oid => match fault with
    | some e => .error (.wrap "booking find" (.text e))
    | none => .ok ((c.find oid).map docToBooking)

/-- Go `Save` (`booking_repo.go:126-137`). -/
def save (c : BookingCollection) (fault : Option String) (b : Booking) :
    Except GoError Unit × BookingCollection :=
  match objectIDFromHex b.id with
  | none => (.error (.wrap ("invalid booking id " ++ b.id.quote) invalidHex), c)
  | some _ => match bookingToDoc b with
    | .error e => (.error e, c)
    | .ok doc => match fault with
      | some e => (.error (.text e), c)
      | none => (.ok (), c.replaceOne doc)

/-- Go `FindTimeline` (`booking_repo.go:139-160`). -/
def findTimeline (c : BookingCollection) (fault : Option String) (start stop : Int) :
    Except GoError (List Booking) :=
  match fault with
  | some e => .error (.wrap "booking timeline" (.text e))
  | none =>
    let docs := c.docs.filter fun d =>
      d.live ∧ d.checkInTime < unixMilli stop ∧ unixMilli start < d.checkOutTime
    let sorted := docs.mergeSort fun d e =>
      d.tableID < e.tableID ∨ (d.tableID = e.tableID ∧ d.checkInTime ≤ e.checkInTime)
    .ok (sorted.map docToBooking)

/-- The document `FindCurrentForTable` returns. -/
def current (c : BookingCollection) (tableID now : Int) : Option BookingDoc :=
  c.docs.find? fun d => d.tableID = tableID ∧ d.activeAt (unixMilli now)

/-- Go `FindCurrentForTable` (`booking_repo.go:162-179`). -/
def findCurrentForTable (c : BookingCollection) (fault : Option String) (tableID now : Int) :
    Except GoError (Option Booking) :=
  match fault with
  | some e => .error (.wrap "findCurrentForTable" (.text e))
  | none => .ok ((c.current tableID now).map docToBooking)

/-- The document `FindNextUpcoming` returns: the earliest that starts after `after`. -/
def upcoming (c : BookingCollection) (tableID after : Int) : Option BookingDoc :=
  (c.docs.filter fun d => d.tableID = tableID ∧ d.live ∧ unixMilli after < d.checkInTime).argmin
    BookingDoc.checkInTime

/-- Go `FindNextUpcoming` (`booking_repo.go:181-198`). -/
def findNextUpcoming (c : BookingCollection) (fault : Option String) (tableID after : Int) :
    Except GoError (Option Booking) :=
  match fault with
  | some e => .error (.wrap "findNextUpcoming" (.text e))
  | none => .ok ((c.upcoming tableID after).map docToBooking)

/-- Go `FindAllActiveNow` (`booking_repo.go:200-220`). -/
def findAllActiveNow (c : BookingCollection) (fault : Option String) (now : Int) :
    Except GoError (List Booking) :=
  match fault with
  | some e => .error (.wrap "findAllActiveNow" (.text e))
  | none => .ok ((c.docs.filter fun d => d.activeAt (unixMilli now)).map docToBooking)

/-- The query of `HasOverlap`, with the id it leaves out. -/
def overlapping (c : BookingCollection) (tableID checkIn checkOut : Int)
    (exclude : Option ObjectID) : Bool :=
  c.docs.any fun d => d.overlaps tableID (unixMilli checkIn) (unixMilli checkOut) ∧
    some d.id ≠ exclude

/-- Go `HasOverlap` (`booking_repo.go:222-240`). An `excludeID` that is no hex id excludes
nothing, and neither does the empty string. -/
def hasOverlap (c : BookingCollection) (fault : Option String) (tableID checkIn checkOut : Int)
    (excludeID : String) : Except GoError Bool :=
  match fault with
  | some e => .error (.wrap "hasOverlap" (.text e))
  | none => .ok (c.overlapping tableID checkIn checkOut (objectIDFromHex excludeID))

end BookingCollection

end GbcVenue
