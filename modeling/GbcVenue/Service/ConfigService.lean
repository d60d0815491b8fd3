import GbcVenue.Domain.Types
import GbcVenue.Time.OperationalDay

/-!
# The configuration and the operational days it sets

`backend/internal/service/config_service.go` and `backend/internal/repository/config_repo.go`. An
update checks the names of the fields and nothing of their values. `operational_days_partition`: the
operational days of a venue follow one another exactly if it does not close later in the day than it
opens, because the closing time is always taken on the next day.
-/

namespace GbcVenue

open GoTime Calendar Timeutil

namespace ConfigService

/-- A value of a request, as MongoDB stores it. -/
inductive ConfigValue
  | string (s : String)
  | number (x : ℚ)
  | bool (b : Bool)
  | null
  | other
  deriving DecidableEq

/-- The document with key `GLOBAL_CONFIG`; `none` is a field that is missing. -/
structure ConfigDoc where
  hourlyRate : Option ConfigValue
  venueCloseTime : Option ConfigValue
  venueStartTime : Option ConfigValue
  updatedAt : Int

/-- The driver's decoding into a `string`, which has its zero value for a missing or null field. -/
def decodeString : Option ConfigValue → Option String
  | none => some ""
  | some (.string s) => some s
  | some .null => some ""
  | some _ => none

/-- The driver's decoding into a `float64`. -/
def decodeFloat : Option ConfigValue → Option ℚ
  | none => some 0
  | some (.number x) => some x
  | some (.bool b) => some (if b then 1 else 0)
  | some .null => some 0
  | some _ => none

/-- `Decode` into a `configDoc`, and the `VenueConfig` made of it. -/
def decode (context : String) (doc : ConfigDoc) : Except GoError VenueConfig :=
  match decodeFloat doc.hourlyRate, decodeString doc.venueCloseTime,
    decodeString doc.venueStartTime with
  | some hourlyRate, some venueCloseTime, some venueStartTime =>
      .ok ⟨hourlyRate, venueCloseTime, venueStartTime, doc.updatedAt⟩
  | none, _, _ => .error (.wrap context (.text "error decoding key hourlyRate"))
  | some _, none, _ => .error (.wrap context (.text "error decoding key venueCloseTime"))
  | some _, some _, none => .error (.wrap context (.text "error decoding key venueStartTime"))

/-- Go `Get` of the repository (`config_repo.go:53-69`). -/
def get (fault : Option String) (doc : Option ConfigDoc) : Except GoError (Option VenueConfig) :=
  match fault with
  | some e => .error (.wrap "config get" (.text e))
  | none => match doc with
    | none => .ok none
    | some doc => (decode "config get" doc).map some

/-- One field of a `$set`. -/
def ConfigDoc.set (doc : ConfigDoc) : String × ConfigValue → ConfigDoc
  | ("hourlyRate", v) => { doc with hourlyRate := some v }
  | ("venueCloseTime", v) => { doc with venueCloseTime := some v }
  | ("venueStartTime", v) => { doc with venueStartTime := some v }
  | _ => doc

/-- Go `Update` of the repository (`config_repo.go:71-90`): what it answers and what is stored. The
document is stored before it is decoded. -/
def update (fault : Option String) (now : Int) (updates : List (String × ConfigValue))
    (doc : Option ConfigDoc) : Except GoError VenueConfig × Option ConfigDoc :=
  match fault with
  | some e => (.error (.wrap "config update" (.text e)), doc)
  | none =>
    let doc' := updates.foldl ConfigDoc.set (doc.getD ⟨none, none, none, 0⟩)
    let doc' := { doc' with updatedAt := ofUnixMilli (unixMilli now) }
    (decode "config update" doc', some doc')

def allowed (key : String) : Bool :=
  key = "hourlyRate" ∨ key = "venueCloseTime" ∨ key = "venueStartTime"

/-- Go `UpdateConfig` (`config_service.go:31-45`); the fields come in the order of the map's
iteration. -/
def updateConfig (fault : Option String) (now : Int) (updates : List (String × ConfigValue))
    (doc : Option ConfigDoc) : Except GoError VenueConfig × Option ConfigDoc :=
  match updates.find? fun kv => !allowed kv.1 with
  | some (k, _) => (.error (.validation 400 ("unknown config field: " ++ k)), doc)
  | none => match update fault now updates doc with
    | (.error e, doc') => (.error (.wrap "update config" e), doc')
    | (.ok cfg, doc') => (.ok cfg, doc')

theorem decode_context {context context' : String} {doc : ConfigDoc} {cfg : VenueConfig}
    (h : decode context doc = .ok cfg) : decode context' doc = .ok cfg := by
  unfold decode at *
  split at h <;> simp_all

theorem update_ok {fault : Option String} {now : Int} {updates : List (String × ConfigValue)}
    {doc doc' : Option ConfigDoc} {cfg : VenueConfig}
    (h : update fault now updates doc = (.ok cfg, doc')) :
    ∃ d, doc' = some d ∧ decode "config update" d = .ok cfg := by
  cases fault with
  | some e => cases h
  | none =>
    simp only [update, Prod.mk.injEq] at h
    exact ⟨_, h.2.symm, h.1⟩

theorem updateConfig_ok {fault : Option String} {now : Int} {updates : List (String × ConfigValue)}
    {doc doc' : Option ConfigDoc} {cfg : VenueConfig}
    (h : updateConfig fault now updates doc = (.ok cfg, doc')) :
    (∀ kv ∈ updates, allowed kv.1) ∧ update fault now updates doc = (.ok cfg, doc') := by
  unfold updateConfig at h
  split at h
  · cases h
  · rename_i hfind
    refine ⟨fun kv hkv => by simpa using List.find?_eq_none.1 hfind kv hkv, ?_⟩
    split at h
    · cases h
    · rename_i hupdate
      cases h
      exact hupdate

/-- What an update answers is what is read from then on. -/
theorem get_of_updateConfig {fault : Option String} {now : Int}
    {updates : List (String × ConfigValue)} {doc doc' : Option ConfigDoc} {cfg : VenueConfig}
    (h : updateConfig fault now updates doc = (.ok cfg, doc')) :
    get none doc' = .ok (some cfg) := by
  obtain ⟨d, rfl, hd⟩ := update_ok (updateConfig_ok h).2
  simp [get, decode_context hd, Except.map]

/-- An update that is accepted and stored leaves these opening and closing times. -/
def Accepted (venueStartTime venueCloseTime : String) : Prop :=
  ∃ now updates doc cfg doc', updateConfig none now updates doc = (.ok cfg, doc') ∧
    cfg.venueStartTime = venueStartTime ∧ cfg.venueCloseTime = venueCloseTime

/-- Any two texts are accepted. -/
theorem accepted (venueStartTime venueCloseTime : String) :
    Accepted venueStartTime venueCloseTime :=
  ⟨0, [("venueStartTime", .string venueStartTime), ("venueCloseTime", .string venueCloseTime)],
    none, ⟨0, venueCloseTime, venueStartTime, 0⟩, _, rfl, rfl, rfl⟩

end ConfigService

/-- A date of a year with four digits. -/
structure FourDigitDate (date : CivilDate) : Prop where
  valid : date.Valid
  year : 0 ≤ date.year ∧ date.year ≤ 9999

theorem FourDigitDate.dayNamed {date : CivilDate} (h : FourDigitDate date) :
    Timeutil.dayNamed date = some date.days := if_pos h.year

/-- The operational days of a venue partition time: each takes time, no more than a day, and ends
before any later one begins. -/
def DaysPartition (offset : Int) (venueStartTime venueCloseTime : String) : Prop :=
  ∀ date, FourDigitDate date → ∃ window,
    getOperationalDayBounds offset (String.ofList (dateChars date)) venueStartTime venueCloseTime =
      .ok window ∧ window.start < window.stop ∧ window.stop ≤ window.start + 86400 * second ∧
    ∀ later, FourDigitDate later → date.Before later → ∀ window',
      getOperationalDayBounds offset (String.ofList (dateChars later)) venueStartTime
        venueCloseTime = .ok window' → window.stop ≤ window'.start

/-- The seconds from the closing to the opening time, modulo 2^64, as an `int64` has them. -/
def secondsClosed (openSeconds closeSeconds : Int) : Int := (openSeconds - closeSeconds) % 2 ^ 64

/-- How far into the range of `time.Time` the first day of the year 0 begins, in seconds. -/
def firstOpening (offset openSeconds : Int) : Int :=
  (-719528 * 86400 + openSeconds - offset + 62135596800 + 2 ^ 63) % 2 ^ 64

/-- The closing time is not after the opening time and less than a day before it, and the 3652425 days
of the years 0 to 9999 end within the range of `time.Time`. -/
structure Tiles (offset openSeconds closeSeconds : Int) : Prop where
  closed : secondsClosed openSeconds closeSeconds < 86400
  fits : firstOpening offset openSeconds + 3652425 * 86400 - secondsClosed openSeconds closeSeconds <
    2 ^ 64

section

variable {offset openSeconds closeSeconds D : Int}

/-- The bounds of a day, from the first opening on. -/
theorem wrappedBounds_seconds : ∃ start stop : Int,
    wrappedBounds offset openSeconds closeSeconds D = ⟨start * second, stop * second⟩ ∧
      start + 62135596800 + 2 ^ 63 =
        (firstOpening offset openSeconds + (D + 719528) * 86400) % 2 ^ 64 ∧
      stop + 62135596800 + 2 ^ 63 =
        (firstOpening offset openSeconds + (D + 719529) * 86400 -
          secondsClosed openSeconds closeSeconds) % 2 ^ 64 := by
  refine ⟨_, _, by rw [wrappedBounds, unixTime, unixTime, Int.add_zero, Int.add_zero], ?_, ?_⟩
  · rw [int64_eq, firstOpening]
    omega
  · rw [int64_eq, firstOpening, secondsClosed]
    omega

/-- Days that tile time are the exact ones, from a first opening on. -/
theorem Tiles.bounds (h : Tiles offset openSeconds closeSeconds)
    (hD : -719528 ≤ D ∧ D ≤ 2932896) : ∃ start : Int,
    wrappedBounds offset openSeconds closeSeconds D =
      ⟨start * second, (start + 86400 - secondsClosed openSeconds closeSeconds) * second⟩ ∧
    start = firstOpening offset openSeconds + (D + 719528) * 86400 - (62135596800 + 2 ^ 63) := by
  obtain ⟨hclosed, hfits⟩ := h
  have hnonneg : 0 ≤ secondsClosed openSeconds closeSeconds := Int.emod_nonneg _ (by decide)
  have hfirst : 0 ≤ firstOpening offset openSeconds := Int.emod_nonneg _ (by decide)
  obtain ⟨start, stop, heq, hstart, hstop⟩ :=
    @wrappedBounds_seconds offset openSeconds closeSeconds D
  rw [Int.emod_eq_of_lt (by omega) (by omega)] at hstart hstop
  have hstop' : stop = start + 86400 - secondsClosed openSeconds closeSeconds := by omega
  exact ⟨start, by rw [heq, hstop'], by omega⟩

theorem FourDigitDate.days_bounds {date : CivilDate} (h : FourDigitDate date) :
    -719528 ≤ date.days ∧ date.days ≤ 2932896 := by
  obtain ⟨⟨hm, hd⟩, hy⟩ := h
  have hday := daysIn_le date.month date.year
  have hfeb : date.month = 2 → date.day ≤ 29 := by
    intro hmonth
    rw [daysIn, if_pos hmonth] at hd
    split at hd <;> omega
  simp only [CivilDate.days, daysFromCivil]
  omega

end

/-- Every pair of texts is accepted as opening and closing time; the operational days partition time
exactly if the closing time is not later in the day than the opening time and less than a day before it,
in seconds modulo 2^64, and no bound overflows. -/
theorem operational_days_partition (venueStartTime venueCloseTime : String) :
    ConfigService.Accepted venueStartTime venueCloseTime ∧
      ∀ offset, DaysPartition offset venueStartTime venueCloseTime ↔
        Tiles offset (clockSeconds venueStartTime (9, 0)) (clockSeconds venueCloseTime (6, 0)) := by
  refine ⟨ConfigService.accepted _ _, fun offset => ?_⟩
  generalize ho : clockSeconds venueStartTime (9, 0) = openSeconds
  generalize hc : clockSeconds venueCloseTime (6, 0) = closeSeconds
  have hclosed : 0 ≤ secondsClosed openSeconds closeSeconds ∧
      secondsClosed openSeconds closeSeconds < 2 ^ 64 := by
    unfold secondsClosed
    omega
  have hfirst : 0 ≤ firstOpening offset openSeconds ∧ firstOpening offset openSeconds < 2 ^ 64 := by
    unfold firstOpening
    omega
  have hbounds : ∀ date, FourDigitDate date → getOperationalDayBounds offset
      (String.ofList (dateChars date)) venueStartTime venueCloseTime =
        .ok (wrappedBounds offset openSeconds closeSeconds date.days) := by
    intro date hdate
    rw [bounds_of_dayNamed _ _ _ hdate.valid hdate.dayNamed, ho, hc]
  constructor
  · -- the first and the last date tell: a wrap between them would put the last day before the first
    intro h
    have hdate : FourDigitDate ⟨0, 1, 1⟩ := ⟨⟨by decide, by decide⟩, by decide⟩
    have hlast : FourDigitDate ⟨9999, 12, 31⟩ := ⟨⟨by decide, by decide⟩, by decide⟩
    obtain ⟨_, hwindow, hlt, hle, hlater⟩ := h _ hdate
    obtain ⟨_, hwindow', hlt', hle', -⟩ := h _ hlast
    have hdisjoint := hlater _ hlast (.year (by decide)) _ hwindow'
    rw [hbounds _ hdate] at hwindow
    rw [hbounds _ hlast] at hwindow'
    have hdays : (⟨0, 1, 1⟩ : CivilDate).days = -719528 := by decide
    have hdays' : (⟨9999, 12, 31⟩ : CivilDate).days = 2932896 := by decide
    rw [hdays] at hwindow
    rw [hdays'] at hwindow'
    obtain ⟨start, stop, heq, hstart, hstop⟩ :=
      @wrappedBounds_seconds offset openSeconds closeSeconds (-719528)
    obtain ⟨start', stop', heq', hstart', hstop'⟩ :=
      @wrappedBounds_seconds offset openSeconds closeSeconds 2932896
    rw [heq] at hwindow
    rw [heq'] at hwindow'
    cases hwindow
    cases hwindow'
    simp only [second] at hlt hle hlt' hle' hdisjoint
    constructor <;> omega
  · intro h date hdate
    have hday := h.closed
    obtain ⟨start, heq, hstart⟩ := h.bounds hdate.days_bounds
    refine ⟨_, by rw [hbounds _ hdate, heq], ?_, ?_, ?_⟩
    · simp only [second]
      omega
    · simp only [second]
      omega
    · intro later hlater hbefore window' hwindow'
      have hlt := hbefore.days_lt hdate.valid hlater.valid
      obtain ⟨start', heq', hstart'⟩ := h.bounds hlater.days_bounds
      rw [hbounds _ hlater, heq'] at hwindow'
      cases hwindow'
      simp only [second]
      omega

/-- A venue that opens at nine and closes at eleven in the evening of the same day: its operational
days take 38 hours each. -/
theorem operational_days_can_overlap :
    ¬ ∀ venueStartTime venueCloseTime : String,
      ConfigService.Accepted venueStartTime venueCloseTime →
      ∀ offset, DaysPartition offset venueStartTime venueCloseTime := by
  intro hclaim
  have hdate : FourDigitDate ⟨2024, 2, 29⟩ := ⟨⟨by decide, by decide⟩, by decide⟩
  obtain ⟨window, hwindow, -, hle, -⟩ :=
    hclaim "09:00" "23:00" (ConfigService.accepted _ _) 19800 _ hdate
  have heval : getOperationalDayBounds 19800 (String.ofList (dateChars ⟨2024, 2, 29⟩)) "09:00"
      "23:00" = .ok ⟨date 2024 2 29 3 30 0 0, date 2024 3 1 17 30 0 0⟩ := by decide
  rw [heval] at hwindow
  cases hwindow
  exact absurd hle (by decide)

end GbcVenue
