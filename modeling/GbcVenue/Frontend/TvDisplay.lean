import GbcVenue.Domain.Types
import GbcVenue.Frontend.DateTimeText

/-!
# The alerts of the TV display

The audio logic of `TableCard` in `frontend/src/pages/TvDisplay.jsx`. An alert sounds at the first
moment in its band and sets a flag. The flags are kept by table and nothing clears them, so an alert
that a booking has had is missing for all later bookings of the table: `alerts_kept_iff`.
-/

namespace GbcVenue

open JsDate

namespace TvDisplay

/-- The four sounds. -/
inductive Alert
  | started
  | endingSoon
  | finalMinutes
  | ended
  deriving DecidableEq

/-- The flags `alertedStarted`, `alertedEndingSoon`, `alertedFinal` and `alertedEnded` of a table. -/
abbrev AlertFlags := Alert → Bool

section

variable (table : TableState) (now : Int)

def isBusy : Bool := table.status = .busy

/-- `startTime` and `endTime` (`TvDisplay.jsx:112-113`), from the text that `field` picks. -/
def timeOf (field : CurrentBooking → String) : Option Int :=
  match table.currentBooking with
  | none => some 0
  | some booking =>
    if isBusy table ∧ field booking ≠ "" then dateParse (field booking) else some 0

def startTime : Option Int := timeOf table CurrentBooking.checkInTime

def endTime : Option Int := timeOf table CurrentBooking.checkOutTime

/-- `elapsed` (`TvDisplay.jsx:119`). -/
def elapsed : Option Int :=
  if isBusy table then (startTime table).map fun startTime => now - startTime else some 0

/-- `totalSeconds` (`TvDisplay.jsx:118-120`). -/
def totalSeconds : Option Int :=
  if isBusy table then (endTime table).map fun endTime => (endTime - now) / 1000 else some 0

/-- The bands of the alerts (`TvDisplay.jsx:133-148`). `NaN` is in none. -/
def inBand : Alert → Bool
  | .started => (elapsed table now).any fun ms => 0 ≤ ms ∧ ms ≤ 60000
  | .endingSoon => (totalSeconds table now).any fun s => s ≤ 600 ∧ 180 < s
  | .finalMinutes => (totalSeconds table now).any fun s => s ≤ 180 ∧ 0 < s
  | .ended => (totalSeconds table now).any fun s => s ≤ 0

/-- `previousStatesRef.current[tableId]`, or flags that are not set. -/
def flagsOf (previousStates : Int → Option AlertFlags) (tableID : Int) : AlertFlags :=
  (previousStates tableID).getD fun _ => false

/-- The audio effect (`TvDisplay.jsx:123-154`): the sounds that it plays, and `previousStatesRef`. -/
def audioEffect (previousStates : Int → Option AlertFlags) :
    List Alert × (Int → Option AlertFlags) :=
  if isBusy table then
    let prevState := flagsOf previousStates table.tableID
    ([.started, .endingSoon, .finalMinutes, .ended].filter fun a =>
        inBand table now a ∧ prevState a = false,
      Function.update previousStates table.tableID
        (some fun a => prevState a || inBand table now a))
  else ([], previousStates)

end

/-- A table as a card shows it at a moment: with a booking or free. -/
structure Render where
  table : TableState
  now : Int
  busy_iff : isBusy table ↔ table.currentBooking.isSome

namespace Render

/-- The id of the booking that is shown. -/
def bookingID (r : Render) : Option String := r.table.currentBooking.map CurrentBooking.bookingID

/-- The card of table `t` shows a moment in the band of `a`. -/
def rings (t : Int) (a : Alert) (r : Render) : Bool :=
  r.table.tableID = t ∧ isBusy r.table ∧ inBand r.table r.now a

end Render

/-- The sounds of a history, each with the moment at which it is played. -/
def sounds : (Int → Option AlertFlags) → List Render → List (Render × Alert)
  | _, [] => []
  | previousStates, r :: history =>
    (audioEffect r.table r.now previousStates).1.map (fun a => (r, a)) ++
      sounds (audioEffect r.table r.now previousStates).2 history

/-- The sounds after the display was opened. -/
def soundsOf (history : List Render) : List (Render × Alert) := sounds (fun _ => none) history

/-- The sounds of alert `a` at table `t`. -/
def isSound (t : Int) (a : Alert) (s : Render × Alert) : Bool := s.1.table.tableID = t ∧ s.2 = a

section

variable {previousStates : Int → Option AlertFlags} {r : Render} {t : Int} {a : Alert}

/-- A moment in the band of an alert sets its flag, and no other flag changes. -/
theorem flagsOf_audioEffect :
    flagsOf (audioEffect r.table r.now previousStates).2 t a =
      (flagsOf previousStates t a || r.rings t a) := by
  unfold audioEffect Render.rings
  by_cases hbusy : isBusy r.table
  · rw [if_pos hbusy]
    by_cases ht : r.table.tableID = t
    · subst ht
      simp [flagsOf, hbusy]
    · simp [flagsOf, Function.update_of_ne (Ne.symm ht), ht]
  · simp [hbusy]

theorem filter_alerts (p : Alert → Bool) (a : Alert) :
    (([.started, .endingSoon, .finalMinutes, .ended].filter p).filter fun a' => a' = a) =
      if p a then [a] else [] := by
  rw [List.filter_filter]
  cases a <;> simp [List.filter_cons]

/-- An alert sounds at a moment in its band if its flag is not set. -/
theorem filter_audioEffect :
    ((audioEffect r.table r.now previousStates).1.map fun a => (r, a)).filter (isSound t a) =
      if r.rings t a ∧ flagsOf previousStates t a = false then [(r, a)] else [] := by
  unfold audioEffect
  by_cases hbusy : isBusy r.table
  · rw [if_pos hbusy, List.filter_map]
    by_cases ht : r.table.tableID = t
    · subst ht
      have hsound : isSound r.table.tableID a ∘ (fun a => (r, a)) = fun a' => decide (a' = a) := by
        funext a'
        simp [isSound]
      rw [hsound, filter_alerts]
      simp [Render.rings, hbusy, apply_ite]
    · have hother : isSound t a ∘ (fun a => (r, a)) = fun _ => false := by
        funext a'
        simp [isSound, ht]
      rw [hother]
      simp [Render.rings, ht]
  · simp [Render.rings, hbusy]

/-- Of the moments in the band of an alert only the first sounds. -/
theorem filter_sounds {history : List Render} :
    ∀ previousStates, (sounds previousStates history).filter (isSound t a) =
      if flagsOf previousStates t a then []
      else ((history.filter (Render.rings t a)).take 1).map fun r => (r, a) := by
  induction history with
  | nil =>
    intro previousStates
    split <;> rfl
  | cons r history ih =>
    intro previousStates
    rw [sounds, List.filter_append, filter_audioEffect, ih, flagsOf_audioEffect, List.filter_cons]
    cases hflag : flagsOf previousStates t a with
    | true => simp
    | false => cases hrings : r.rings t a <;> simp

end

/-- Each alert sounds for a booking at most once, and once for a booking that a card shows at a moment
in the band of the alert. -/
structure AlertsKept (history : List Render) : Prop where
  once : ∀ t id a, ((soundsOf history).filter fun s =>
    isSound t a s ∧ s.1.bookingID = some id).length ≤ 1
  sounds : ∀ r ∈ history, ∀ t a id, r.rings t a → r.bookingID = some id →
    ∃ s ∈ soundsOf history, isSound t a s ∧ s.1.bookingID = some id

theorem filter_soundsOf (history : List Render) (t : Int) (a : Alert) :
    (soundsOf history).filter (isSound t a) =
      ((history.filter (Render.rings t a)).take 1).map fun r => (r, a) :=
  filter_sounds _

/-- No alert sounds twice at a table. -/
theorem sounds_once (history : List Render) (t : Int) (a : Alert) (p : Render × Alert → Bool) :
    ((soundsOf history).filter fun s => isSound t a s ∧ p s).length ≤ 1 := by
  have hfilter : ((soundsOf history).filter fun s => isSound t a s ∧ p s) =
      ((soundsOf history).filter (isSound t a)).filter p := by
    rw [List.filter_filter]
    congr 1
    funext s
    simp [Bool.and_comm]
  rw [hfilter, filter_soundsOf]
  refine (List.length_filter_le _ _).trans ?_
  rw [List.length_map, List.length_take]
  exact min_le_left _ _

/-- The sounds of an alert at a table are the first moment in its band. -/
theorem exists_sound_iff {history : List Render} {t : Int} {a : Alert} {q : Render → Prop} :
    (∃ s ∈ soundsOf history, isSound t a s ∧ q s.1) ↔
      ∃ r, (history.filter (Render.rings t a)).head? = some r ∧ q r := by
  have hmem : ∀ s, s ∈ soundsOf history ∧ isSound t a s ↔
      s ∈ ((history.filter (Render.rings t a)).take 1).map fun r => (r, a) := by
    intro s
    rw [← filter_soundsOf, List.mem_filter]
  constructor
  · rintro ⟨s, hs, hsound, hq⟩
    obtain ⟨r, hr, rfl⟩ := List.mem_map.1 ((hmem s).1 ⟨hs, hsound⟩)
    cases hf : history.filter (Render.rings t a) with
    | nil => simp [hf] at hr
    | cons r' rest =>
      rw [hf, List.take_succ_cons, List.take_zero, List.mem_singleton] at hr
      exact ⟨r', rfl, hr ▸ hq⟩
  · rintro ⟨r, hr, hq⟩
    obtain ⟨hs, hsound⟩ := (hmem (r, a)).2 (by
      cases hf : history.filter (Render.rings t a) with
      | nil => simp [hf] at hr
      | cons r' rest =>
        rw [hf, List.head?_cons, Option.some.injEq] at hr
        simp [hr])
    exact ⟨(r, a), hs, hsound, hq⟩

theorem Render.exists_bookingID {r : Render} {t : Int} {a : Alert} (h : r.rings t a) :
    ∃ id, r.bookingID = some id := by
  simp only [rings, decide_eq_true_eq] at h
  obtain ⟨booking, hbooking⟩ := Option.isSome_iff_exists.1 (r.busy_iff.1 h.2.1)
  exact ⟨booking.bookingID, congrArg (Option.map _) hbooking⟩

/-- All bookings have their alerts exactly if, at each table, all moments in the band of an alert are
moments of one booking. -/
theorem alerts_kept_iff (history : List Render) :
    AlertsKept history ↔ ∀ t a, ∀ r ∈ history, ∀ r' ∈ history, r.rings t a → r'.rings t a →
      r.bookingID = r'.bookingID := by
  constructor
  · intro hkept t a r hr r' hr' hrings hrings'
    have hfirst : ∀ r ∈ history, r.rings t a → ∃ r₀,
        (history.filter (Render.rings t a)).head? = some r₀ ∧ r₀.bookingID = r.bookingID := by
      intro r hr hrings
      obtain ⟨id, hid⟩ := r.exists_bookingID hrings
      rw [hid]
      exact exists_sound_iff.1 (hkept.sounds r hr t a id hrings hid)
    obtain ⟨r₀, hhead, heq⟩ := hfirst r hr hrings
    obtain ⟨r₁, hhead', heq'⟩ := hfirst r' hr' hrings'
    obtain rfl := Option.some.inj (hhead.symm.trans hhead')
    exact heq.symm.trans heq'
  · intro hone
    refine ⟨fun t id a => ?_, fun r hr t a id hrings hid => ?_⟩
    · have honce := sounds_once history t a fun s => decide (s.1.bookingID = some id)
      simpa only [decide_eq_true_eq] using honce
    · refine (exists_sound_iff (q := fun r => r.bookingID = some id)).2 ?_
      have hmem : r ∈ history.filter (Render.rings t a) := List.mem_filter.2 ⟨hr, hrings⟩
      cases hf : history.filter (Render.rings t a) with
      | nil =>
        rw [hf] at hmem
        exact absurd hmem List.not_mem_nil
      | cons r₀ rest =>
        have hr₀ := List.mem_filter.1 (hf ▸ List.mem_cons_self : r₀ ∈ history.filter (Render.rings t a))
        exact ⟨r₀, rfl, (hone t a r₀ hr₀.1 r hr hr₀.2 hrings).trans hid⟩

/-- Table 1 with a booking of an hour. -/
def showing (bookingID checkInTime checkOutTime : String) (now : Int) : Render :=
  ⟨⟨1, "Table 1", .busy, .on, some ⟨bookingID, "Ann", "0", checkInTime, checkOutTime, 60, 0, false⟩⟩,
    now, iff_of_true rfl rfl⟩

/-- The next booking of the table starts without a sound. -/
theorem alerts_can_be_missing : ¬ ∀ history : List Render, AlertsKept history := by
  intro hclaim
  have hkept := hclaim
    [showing "1" "2030-01-01T10:00:00Z" "2030-01-01T11:00:00Z" 1893492000000,
      showing "2" "2030-01-01T11:00:00Z" "2030-01-01T12:00:00Z" 1893495600000]
  obtain ⟨s, hs, hsound, hid⟩ := hkept.sounds
    (showing "2" "2030-01-01T11:00:00Z" "2030-01-01T12:00:00Z" 1893495600000)
    (List.mem_cons_of_mem _ List.mem_cons_self) 1 .started "2" (by decide) rfl
  have hfirst : (soundsOf
      [showing "1" "2030-01-01T10:00:00Z" "2030-01-01T11:00:00Z" 1893492000000,
        showing "2" "2030-01-01T11:00:00Z" "2030-01-01T12:00:00Z" 1893495600000]).all
          fun s => s.1.bookingID ≠ some "2" := by decide
  exact of_decide_eq_true (List.all_eq_true.1 hfirst s hs) hid

end TvDisplay

end GbcVenue
