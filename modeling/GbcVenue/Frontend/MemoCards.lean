import GbcVenue.Cache.VenueCache
import GbcVenue.Frontend.JsDate
import GbcVenue.Frontend.Memo
import GbcVenue.Frontend.TvDisplay
import GbcVenue.Service.Request
import Mathlib.Algebra.Order.Ring.Unbundled.Rat

/-!
# The memoised table cards

The cards of a table in `Bookings.jsx`, `TvDisplay.jsx` and `Illumination.jsx`, each with the comparison
that decides whether it is rendered again. `cards_fresh_iff`: none of the comparisons looks at all that its
card shows of a running booking, and what it leaves out is exactly what can be stale. The colours and the
names of the tables are no part of what is shown here. `localeTime` is `toLocaleTimeString` in the zone of
the browser, of which nothing is assumed; `none` is an invalid date.
-/

namespace GbcVenue

open JsDate

/-- `s || fallback`. -/
def orElse (s fallback : String) : String := if s = "" then fallback else s

/-- `charAt(0)`, as a UTF-16 code unit. -/
def charAt0 (s : String) : Option Nat :=
  s.toList.head?.map fun c =>
    if c.toNat < 0x10000 then c.toNat else 0xd800 + (c.toNat - 0x10000) / 0x400

/-- `currentBooking?.bookingId`. -/
def TableState.bookingID (table : TableState) : Option String :=
  table.currentBooking.map CurrentBooking.bookingID

/-- The booking that is shown while the table is busy. -/
def TableState.running (table : TableState) : Option CurrentBooking :=
  if table.status = .busy then table.currentBooking else none

/-! ## The card of the bookings page -/

namespace SummaryCard

/-- `tablePropsAreEqual` (`Bookings.jsx:35-45`). -/
def tablePropsAreEqual (prev next : TableState) : Bool :=
  prev.status = next.status ∧ prev.bookingID = next.bookingID ∧
    prev.currentBooking.map CurrentBooking.isPaid = next.currentBooking.map CurrentBooking.isPaid ∧
    prev.currentBooking.map CurrentBooking.amount = next.currentBooking.map CurrentBooking.amount

/-- `formatTime` (`Bookings.jsx:8-11`); `none` is `null` or `NaN`. -/
def formatTime (localeTime : Option Int → String) (ms : Option Int) : String :=
  match ms with
  | none | some 0 => "--:--"
  | some ms => localeTime (some ms)

/-- `startTime` and `endTime` (`Bookings.jsx:57-58`). -/
def timeOf (isoString : String) : Option Int :=
  if isoString = "" then none else dateParse isoString

/-- The user and the session of a running booking. -/
structure Session where
  initial : Option Nat
  player : String
  mobile : String
  startTime : String
  endTime : String

/-- What the card shows of the booking: the link, its title, the badge with the paid flag and the amount,
and the session. -/
structure View where
  isBusy : Bool
  href : Option String
  title : String
  badge : Option (Bool × Int)
  session : Option Session

def player (booking : CurrentBooking) : String := orElse booking.bookerName "Walk-in"

def session (localeTime : Option Int → String) (booking : CurrentBooking) : Session where
  initial := charAt0 (player booking)
  player := player booking
  mobile := booking.bookerMobile
  startTime := formatTime localeTime (timeOf booking.checkInTime)
  endTime := formatTime localeTime (timeOf booking.checkOutTime)

/-- `TableSummaryCard` (`Bookings.jsx:47-140`). -/
def render (localeTime : Option Int → String) (table : TableState) : View :=
  let isBusy := table.status = .busy
  let player := (table.currentBooking.map player).getD "Walk-in"
  let mobile := (table.currentBooking.map CurrentBooking.bookerMobile).getD ""
  let isPaid := (table.currentBooking.map CurrentBooking.isPaid).getD false
  let amount := (table.currentBooking.map CurrentBooking.amount).getD 0
  { isBusy := isBusy
    href := if isBusy ∧ mobile ≠ "" then
      some ("tel:" ++ String.ofList (mobile.toList.filter fun c => !isStrWhiteSpace c)) else none
    title := if isBusy then "Call " ++ player else "Assign Table"
    badge := if isBusy then some (isPaid, amount.floor) else none
    session := table.running.map (session localeTime) }

def card (localeTime : Option Int → String) : Memo TableState View :=
  ⟨tablePropsAreEqual, render localeTime⟩

/-- Two bookings that look the same but for what the comparison looks at. -/
structure Same (localeTime : Option Int → String) (b b' : CurrentBooking) : Prop where
  player : player b = player b'
  mobile : b.bookerMobile = b'.bookerMobile
  startTime : formatTime localeTime (timeOf b.checkInTime) = formatTime localeTime (timeOf b'.checkInTime)
  endTime : formatTime localeTime (timeOf b.checkOutTime) = formatTime localeTime (timeOf b'.checkOutTime)

end SummaryCard

/-! ## The card of the TV display -/

namespace TvDisplay

/-- `tablePropsAreEqual` (`TvDisplay.jsx:83-93`). -/
def tablePropsAreEqual (prev next : TableState) : Bool :=
  prev.status = next.status ∧ prev.bookingID = next.bookingID ∧
    prev.currentBooking.map CurrentBooking.checkInTime =
      next.currentBooking.map CurrentBooking.checkInTime ∧
    prev.currentBooking.map CurrentBooking.checkOutTime =
      next.currentBooking.map CurrentBooking.checkOutTime

/-- `n.toString().padStart(2, '0')`. -/
def padStart2 (n : Int) : String :=
  if (toString n).length < 2 then "0" ++ toString n else toString n

/-- `formatTimeRemaining` (`TvDisplay.jsx:6-16`). -/
def formatTimeRemaining (start duration : Option Int) (now : Int) : String :=
  match start, duration with
  | some start, some duration =>
    let remainingMs := start + duration - now
    if remainingMs ≤ 0 then "00:00:00"
    else
      let totalSeconds := remainingMs / 1000
      padStart2 (totalSeconds / 3600) ++ ":" ++ padStart2 (totalSeconds % 3600 / 60) ++ ":" ++
        padStart2 (totalSeconds % 60)
  | _, _ => "NaN:NaN:NaN"

/-- `a + b` and `a - b` of numbers, of which `none` is `NaN`. -/
def addNum (a b : Option Int) : Option Int := a.bind fun a => b.map fun b => a + b

def subNum (a b : Option Int) : Option Int := a.bind fun a => b.map fun b => a - b

/-- `formatTimeRange` (`TvDisplay.jsx:18-24`). -/
def formatTimeRange (localeTime : Option Int → String) (start duration : Option Int) : String :=
  localeTime start ++ " - " ++ localeTime (addNum start duration)

/-- `getProgress` (`TvDisplay.jsx:26-32`). -/
def getProgress (start duration : Option Int) (now : Int) : ℚ :=
  match start, duration with
  | some start, some duration =>
    if duration = 0 then 0 else min (max ((now - start : ℚ) / duration * 100) 0) 100
  | _, _ => 0

/-- The badge of a busy table. -/
inductive Badge
  | inPlay
  | endingSoon
  | finalMins
  | timeUp

/-- `isEnded`, `isFinalMinutes` and `isEndingSoon` (`TvDisplay.jsx:193-195`). -/
def badge (remainingMs : Option Int) : Badge :=
  match remainingMs with
  | none => .inPlay
  | some ms => if ms ≤ 0 then .timeUp else if ms ≤ 180000 then .finalMins
    else if ms ≤ 600000 then .endingSoon else .inPlay

/-- What the card shows of a busy table. -/
structure View where
  badge : Badge
  timeRemaining : String
  player : String
  session : String
  progress : ℚ

def player (booking : CurrentBooking) : String := orElse booking.bookerName "Walk-in"

/-- `TableCard` (`TvDisplay.jsx:95-279`) at a moment; `none` is the card of an available table. -/
def render (localeTime : Option Int → String) (now : Int) (table : TableState) : Option View :=
  if isBusy table then
    let duration := subNum (endTime table) (startTime table)
    let badge := badge (subNum (endTime table) (some now))
    some {
      badge := badge
      timeRemaining := match badge with
        | .timeUp => "00:00:00"
        | _ => formatTimeRemaining (startTime table) duration now
      player := (table.currentBooking.map player).getD "Walk-in"
      session := formatTimeRange localeTime (startTime table) duration
      progress := getProgress (startTime table) duration now }
  else none

def card (localeTime : Option Int → String) (now : Int) : Memo TableState (Option View) :=
  ⟨tablePropsAreEqual, render localeTime now⟩

end TvDisplay

/-! ## The card of the illumination page -/

namespace Illumination

/-- The props of a card: the table, and the state that a click has asked for. -/
structure Props where
  table : TableState
  localPendingState : Option LightStatus

/-- `tablePropsAreEqual` (`Illumination.jsx:29-39`). -/
def tablePropsAreEqual (prev next : Props) : Bool :=
  prev.table.status = next.table.status ∧ prev.table.lightStatus = next.table.lightStatus ∧
    prev.table.bookingID = next.table.bookingID ∧ prev.localPendingState = next.localPendingState

/-- `formatTime` (`Illumination.jsx:20-24`). -/
def formatTime (localeTime : Option Int → String) (isoString : String) : String :=
  if isoString = "" then "" else localeTime (dateParse isoString)

/-- `localPendingState || table.lightStatus`. -/
def effectiveLightStatus (p : Props) : LightStatus :=
  match p.localPendingState with
  | none | some .empty => p.table.lightStatus
  | some state => state

/-- The user and the end of a running booking. -/
structure Session where
  initial : Option Nat
  name : String
  mobile : String
  endsAt : String

structure View where
  isOn : Bool
  isPending : Bool
  isBusy : Bool
  session : Option Session

def session (localeTime : Option Int → String) (booking : CurrentBooking) : Session where
  initial := (charAt0 booking.bookerName).or (charAt0 "?")
  name := orElse booking.bookerName "Walk-in"
  mobile := booking.bookerMobile
  endsAt := formatTime localeTime booking.checkOutTime

/-- `TableCard` (`Illumination.jsx:41-133`). -/
def render (localeTime : Option Int → String) (p : Props) : View :=
  let status := effectiveLightStatus p
  { isOn := status = .on ∨ status = .pendingOn
    isPending := status = .pendingOn ∨ status = .pendingOff
    isBusy := p.table.status = .busy
    session := p.table.running.map (session localeTime) }

def card (localeTime : Option Int → String) : Memo Props View :=
  ⟨tablePropsAreEqual, render localeTime⟩

/-- Two bookings that look the same but for what the comparison looks at. -/
structure Same (localeTime : Option Int → String) (b b' : CurrentBooking) : Prop where
  name : b.bookerName = b'.bookerName
  mobile : b.bookerMobile = b'.bookerMobile
  endsAt : formatTime localeTime b.checkOutTime = formatTime localeTime b'.checkOutTime

end Illumination

/-! ## What the comparisons leave out -/

theorem TableState.mem_running {table : TableState} {b : CurrentBooking} :
    b ∈ table.running ↔ table.status = .busy ∧ table.currentBooking = some b := by
  unfold running
  split
  · rename_i hbusy
    exact ⟨fun h => ⟨hbusy, h⟩, And.right⟩
  · rename_i hbusy
    exact ⟨nofun, fun h => absurd h.1 hbusy⟩

/-- Two tables with the same status and bookings of the same id: both show a booking, or none does. -/
theorem running_cases {prev next : TableState} (hstatus : prev.status = next.status)
    (hid : prev.bookingID = next.bookingID) :
    (∃ b b', prev.running = some b ∧ next.running = some b' ∧ next.status = .busy ∧
      prev.currentBooking = some b ∧ next.currentBooking = some b') ∨
    (prev.running = none ∧ next.running = none ∧
      (next.status = .busy → prev.currentBooking = none ∧ next.currentBooking = none)) := by
  unfold TableState.running
  rw [hstatus]
  unfold TableState.bookingID at hid
  split
  · rename_i hbusy
    cases hprev : prev.currentBooking <;> cases hnext : next.currentBooking <;>
      simp only [hprev, hnext, Option.map_none, Option.map_some, reduceCtorEq] at hid
    · exact .inr ⟨rfl, rfl, fun _ => ⟨rfl, rfl⟩⟩
    · exact .inl ⟨_, _, rfl, rfl, hbusy, rfl, rfl⟩
  · rename_i hbusy
    exact .inr ⟨rfl, rfl, fun h => absurd h hbusy⟩

namespace SummaryCard

variable {localeTime : Option Int → String} {prev next : TableState}

theorem session_eq_iff {b b' : CurrentBooking} :
    session localeTime b = session localeTime b' ↔ Same localeTime b b' := by
  constructor
  · intro h
    exact ⟨congrArg Session.player h, congrArg Session.mobile h, congrArg Session.startTime h,
      congrArg Session.endTime h⟩
  · intro h
    simp only [session, h.player, h.mobile, h.startTime, h.endTime]

theorem invisible_iff : (card localeTime).Invisible prev next ↔
    (tablePropsAreEqual prev next →
      ∀ b ∈ prev.running, ∀ b' ∈ next.running, Same localeTime b b') := by
  refine forall_congr' fun heq => ?_
  simp only [card, tablePropsAreEqual, decide_eq_true_eq] at heq
  obtain ⟨hstatus, hid, hpaid, hamount⟩ := heq
  rcases running_cases hstatus hid with ⟨b, b', hprev, hnext, hbusy, hb, hb'⟩ | ⟨hprev, hnext, hnone⟩
  · have hsession : (render localeTime prev).session = some (session localeTime b) := by
      simp only [render, hprev, Option.map_some]
    have hsession' : (render localeTime next).session = some (session localeTime b') := by
      simp only [render, hnext, Option.map_some]
    rw [hb, hb', Option.map_some, Option.map_some, Option.some.injEq] at hpaid hamount
    simp only [card, hprev, hnext, Option.mem_some_iff, forall_eq', ← session_eq_iff]
    constructor
    · intro h
      have heq := congrArg View.session h
      rw [hsession, hsession'] at heq
      exact Option.some.inj heq
    · intro h
      have hsame := session_eq_iff.1 h
      simp only [render, hprev, hnext, hstatus, hpaid, hamount, hb, hb', Option.map_some,
        Option.getD_some, hsame.player, hsame.mobile, h]
  · simp only [hprev, hnext, Option.not_mem_none, false_implies, implies_true, iff_true]
    by_cases hbusy : next.status = .busy
    · obtain ⟨hb, hb'⟩ := hnone hbusy
      simp only [card, render, hprev, hnext, hstatus, hb, hb']
    · simp only [card, render, hprev, hnext, hstatus, hbusy, decide_false, false_and, if_false]

end SummaryCard

namespace TvDisplay

variable {localeTime : Option Int → String} {now : Int} {prev next : TableState}

/-- The times depend on nothing but what the comparison looks at. -/
theorem timeOf_congr {field : CurrentBooking → String} (hstatus : prev.status = next.status)
    (hfield : prev.currentBooking.map field = next.currentBooking.map field) :
    timeOf prev field = timeOf next field := by
  unfold timeOf isBusy
  rw [hstatus]
  cases hprev : prev.currentBooking <;> cases hnext : next.currentBooking <;>
    simp only [hprev, hnext, Option.map_none, Option.map_some, reduceCtorEq, Option.some.injEq] at hfield
  · rfl
  · simp only [hfield]

theorem invisible_iff : (card localeTime now).Invisible prev next ↔
    (tablePropsAreEqual prev next →
      ∀ b ∈ prev.running, ∀ b' ∈ next.running, player b = player b') := by
  refine forall_congr' fun heq => ?_
  simp only [card, tablePropsAreEqual, decide_eq_true_eq] at heq
  obtain ⟨hstatus, hid, hin, hout⟩ := heq
  have hstart : startTime prev = startTime next := timeOf_congr hstatus hin
  have hend : endTime prev = endTime next := timeOf_congr hstatus hout
  have hbusy_eq : isBusy prev = isBusy next := by simp only [isBusy, hstatus]
  rcases running_cases hstatus hid with ⟨b, b', hprev, hnext, hbusy, hb, hb'⟩ | ⟨hprev, hnext, hnone⟩
  · have hbusy : isBusy next = true := decide_eq_true hbusy
    simp only [card, hprev, hnext, Option.mem_some_iff, forall_eq', render, hstart, hend, hbusy_eq,
      hbusy, if_true, hb, hb', Option.map_some, Option.getD_some, Option.some.injEq, View.mk.injEq,
      true_and, and_true]
  · simp only [hprev, hnext, Option.not_mem_none, false_implies, implies_true, iff_true]
    by_cases hbusy : next.status = .busy
    · obtain ⟨hb, hb'⟩ := hnone hbusy
      simp only [card, render, hbusy_eq, hstart, hend, hb, hb']
    · have hbusy : isBusy next = false := decide_eq_false hbusy
      simp only [card, render, hbusy_eq, hbusy, Bool.false_eq_true, if_false]

end TvDisplay

namespace Illumination

variable {localeTime : Option Int → String} {prev next : Props}

/-- The initial tells an empty name from the one that is shown in its place. -/
theorem name_eq_of_initial {s s' : String}
    (hinitial : (charAt0 s).or (charAt0 "?") = (charAt0 s').or (charAt0 "?"))
    (hname : orElse s "Walk-in" = orElse s' "Walk-in") : s = s' := by
  have hwalkIn : (charAt0 "").or (charAt0 "?") ≠ (charAt0 "Walk-in").or (charAt0 "?") := by decide
  unfold orElse at hname
  split at hname <;> split at hname
  · rename_i hs hs'
    rw [hs, hs']
  · rename_i hs hs'
    rw [hs, ← hname] at hinitial
    exact absurd hinitial hwalkIn
  · rename_i hs hs'
    rw [hs', hname] at hinitial
    exact absurd hinitial.symm hwalkIn
  · exact hname

theorem session_eq_iff {b b' : CurrentBooking} :
    session localeTime b = session localeTime b' ↔ Same localeTime b b' := by
  constructor
  · intro h
    exact ⟨name_eq_of_initial (congrArg Session.initial h) (congrArg Session.name h),
      congrArg Session.mobile h, congrArg Session.endsAt h⟩
  · intro h
    simp only [session, h.name, h.mobile, h.endsAt]

theorem invisible_iff : (card localeTime).Invisible prev next ↔
    (tablePropsAreEqual prev next →
      ∀ b ∈ prev.table.running, ∀ b' ∈ next.table.running, Same localeTime b b') := by
  refine forall_congr' fun heq => ?_
  simp only [card, tablePropsAreEqual, decide_eq_true_eq] at heq
  obtain ⟨hstatus, hlight, hid, hpending⟩ := heq
  have heffective : effectiveLightStatus prev = effectiveLightStatus next := by
    simp only [effectiveLightStatus, hpending, hlight]
  have hview : render localeTime prev = render localeTime next ↔
      prev.table.running.map (session localeTime) = next.table.running.map (session localeTime) := by
    simp only [render, heffective, hstatus, View.mk.injEq, true_and]
  rw [show (card localeTime).render = render localeTime from rfl, hview]
  rcases running_cases hstatus hid with ⟨b, b', hprev, hnext, -⟩ | ⟨hprev, hnext, -⟩
  · simp only [hprev, hnext, Option.map_some, Option.some.injEq, Option.mem_some_iff, forall_eq',
      session_eq_iff]
  · simp only [hprev, hnext, Option.map_none, Option.not_mem_none, false_implies, implies_true]

end Illumination

/-! ## The cards -/

/-- No running booking is edited, but for its amount and its paid flag. -/
def Unedited (tables : List TableState) : Prop :=
  ∀ prev ∈ tables, ∀ next ∈ tables, ∀ b ∈ prev.running, ∀ b' ∈ next.running,
    b.bookingID = b'.bookingID → b.bookerName = b'.bookerName ∧ b.bookerMobile = b'.bookerMobile ∧
      b.checkInTime = b'.checkInTime ∧ b.checkOutTime = b'.checkOutTime

theorem bookingID_eq_of_running {prev next : TableState} (h : prev.bookingID = next.bookingID)
    {b b' : CurrentBooking} (hb : b ∈ prev.running) (hb' : b' ∈ next.running) :
    b.bookingID = b'.bookingID := by
  unfold TableState.bookingID at h
  rw [(TableState.mem_running.1 hb).2, (TableState.mem_running.1 hb').2] at h
  exact Option.some.inj h

/-- While no running booking is edited, each card looks at any time as its latest props do. -/
theorem cards_show_latest {localeTime : Option Int → String} {now : Int} {first : Illumination.Props}
    {history : List Illumination.Props} (h : Unedited ((first :: history).map Illumination.Props.table)) :
    let table := first.table
    let tables := history.map Illumination.Props.table
    SummaryCard.render localeTime ((SummaryCard.card localeTime).shown table tables) =
        SummaryCard.render localeTime (tables.getLast?.getD table) ∧
      TvDisplay.render localeTime now ((TvDisplay.card localeTime now).shown table tables) =
        TvDisplay.render localeTime now (tables.getLast?.getD table) ∧
      Illumination.render localeTime ((Illumination.card localeTime).shown first history) =
        Illumination.render localeTime (history.getLast?.getD first) := by
  refine ⟨?_, ?_, ?_⟩
  · refine Memo.render_shown fun prev hprev next hnext => SummaryCard.invisible_iff.2 ?_
    intro heq b hb b' hb'
    simp only [SummaryCard.tablePropsAreEqual, decide_eq_true_eq] at heq
    obtain ⟨hname, hmobile, hin, hout⟩ := h prev hprev next (List.mem_cons_of_mem _ hnext) b hb b' hb'
      (bookingID_eq_of_running heq.2.1 hb hb')
    constructor <;> simp only [SummaryCard.player, hname, hmobile, hin, hout]
  · refine Memo.render_shown fun prev hprev next hnext => TvDisplay.invisible_iff.2 ?_
    intro heq b hb b' hb'
    simp only [TvDisplay.tablePropsAreEqual, decide_eq_true_eq] at heq
    obtain ⟨hname, -⟩ := h prev hprev next (List.mem_cons_of_mem _ hnext) b hb b' hb'
      (bookingID_eq_of_running heq.2.1 hb hb')
    simp only [TvDisplay.player, hname]
  · refine Memo.render_shown fun prev hprev next hnext => Illumination.invisible_iff.2 ?_
    intro heq b hb b' hb'
    simp only [Illumination.tablePropsAreEqual, decide_eq_true_eq] at heq
    obtain ⟨hname, hmobile, -, hout⟩ := h prev.table (List.mem_map_of_mem hprev) next.table
      (List.mem_map_of_mem (List.mem_cons_of_mem _ hnext)) b hb b' hb'
      (bookingID_eq_of_running heq.2.2.1 hb hb')
    constructor <;> simp only [hname, hmobile, hout]

/-- What a skipped rendering hides: for each card, exactly a change of what its comparison leaves out of a
booking that is shown before and after. -/
theorem cards_fresh_iff (localeTime : Option Int → String) (now : Int) (prev next : TableState)
    (prevPending nextPending : Option LightStatus) :
    ((SummaryCard.card localeTime).Invisible prev next ↔
      (SummaryCard.tablePropsAreEqual prev next →
        ∀ b ∈ prev.running, ∀ b' ∈ next.running, SummaryCard.Same localeTime b b')) ∧
    ((TvDisplay.card localeTime now).Invisible prev next ↔
      (TvDisplay.tablePropsAreEqual prev next →
        ∀ b ∈ prev.running, ∀ b' ∈ next.running, TvDisplay.player b = TvDisplay.player b')) ∧
    ((Illumination.card localeTime).Invisible ⟨prev, prevPending⟩ ⟨next, nextPending⟩ ↔
      (Illumination.tablePropsAreEqual ⟨prev, prevPending⟩ ⟨next, nextPending⟩ →
        ∀ b ∈ prev.running, ∀ b' ∈ next.running, Illumination.Same localeTime b b')) :=
  ⟨SummaryCard.invisible_iff, TvDisplay.invisible_iff, Illumination.invisible_iff⟩

/-- A running booking whose booker is renamed. -/
theorem cards_can_be_stale :
    ¬ ∀ (localeTime : Option Int → String) (now : Int) (prev next : TableState)
      (pending : Option LightStatus),
      (SummaryCard.card localeTime).Invisible prev next ∧
        (TvDisplay.card localeTime now).Invisible prev next ∧
        (Illumination.card localeTime).Invisible ⟨prev, pending⟩ ⟨next, pending⟩ := by
  intro h
  let tables := Tables.new.activateTable 1 shownTenToEleven
  let renamed := tables.updateCurrentBooking 1 { shownTenToEleven with bookerName := "Bob" }
  have htv := (h (fun _ => "") 0 (tables.get 1) (renamed.get 1) none).2.1
  have hplayer := TvDisplay.invisible_iff.1 htv (by decide +kernel) shownTenToEleven rfl
    { shownTenToEleven with bookerName := "Bob" } rfl
  revert hplayer
  decide

end GbcVenue
