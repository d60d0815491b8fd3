import GbcVenue.Backend.Runs
import GbcVenue.Service.Effect

/-!
# Reading the timeline

What `GetTimeline` and `GetTodayTimeline` answer when they run alone, at one instant and without
database failures: the live bookings that meet the window of the day.
-/

namespace GbcVenue

open Interleaving BookingService GoTime Calendar Timeutil

/-- Everything happens at `now` and the database answers. -/
def atNow (now : Int) (e : Env) : Prop := e.now = now ∧ noFaults e

section

variable {α : Type} {i : Nat} {now : Int} {w w' : World} {a : α}

/-- An action with one answer, which changes nothing. -/
theorem runs_read {o : Op} {k : Res o → Go α} (r : Res o)
    (h : ∀ e, atNow now e → perform i e o w = some (r, w)) :
    Prog.Runs (sem (atNow now)) i (.act o k) w a w' ↔
      Prog.Runs (sem (atNow now)) i (k r) w a w' := by
  rw [runs_op]
  constructor
  · rintro ⟨e, he, r', w₁, hperf, hk⟩
    rw [h e he, Option.some.injEq, Prod.mk.injEq] at hperf
    obtain ⟨rfl, rfl⟩ := hperf
    exact hk
  · intro hk
    have he : atNow now ⟨now, .zero, none, 0⟩ := ⟨rfl, rfl⟩
    exact ⟨_, he, r, w, h _ he, hk⟩

theorem runs_venueTimes {k : String × String → Go α} :
    Prog.Runs (sem (atNow now)) i (venueTimes >>= k) w a w' ↔
      Prog.Runs (sem (atNow now)) i (k (timesOf w.config)) w a w' := by
  unfold venueTimes ConfigRepository.get
  simp only [Prog.call_bind, Prog.act_bind]
  rw [runs_read (o := .getConfig) (.ok w.config : Except GoError (Option VenueConfig))
    fun e he => by rw [perform, show e.fault = none from he.2]]
  cases w.config <;> rfl

theorem runs_venueLocation {k : Int → Go α} :
    Prog.Runs (sem (atNow now)) i (.act Op.venueLocation k) w a w' ↔
      Prog.Runs (sem (atNow now)) i (k w.venueOffset) w a w' :=
  runs_read (o := .venueLocation) w.venueOffset fun _ _ => rfl

theorem runs_timeNow {k : Int → Go α} :
    Prog.Runs (sem (atNow now)) i (.act Op.now k) w a w' ↔
      Prog.Runs (sem (atNow now)) i (k now) w a w' :=
  runs_read (o := .now) now fun e he => by rw [perform, he.1]

theorem runs_getTodayTimeline {r : Except GoError (List Booking)} :
    Prog.Runs (sem (atNow now)) i getTodayTimeline w r w' ↔
      Prog.Runs (sem (atNow now)) i
        (getTimeline (todayVenueString w.venueOffset now (timesOf w.config).2)) w r w' := by
  unfold getTodayTimeline venueLocation timeNow
  rw [runs_venueTimes]
  simp only [Prog.call_bind]
  rw [runs_venueLocation, runs_timeNow]

end

end GbcVenue
