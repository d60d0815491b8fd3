import GbcVenue.Lights.Wink

/-!
# The connection in the main loop

`Connection::keepAlive` and the indicator after `setup()` (`hardware/main/main.ino:214-280,475-493`). The
setup leaves the indicator as its blinking happened to end, and the loop then calls `update` and
`keepAlive` over and over while the MQTT task calls into `Hardware`. `wifi_checked_in_time` says how far
apart two checks of the WiFi connection are, across the wrap-around of `millis()`, and
`indicator_tells_connection` what the light says at any moment.
-/

namespace GbcVenue

open Interleaving WrappingCounter

namespace Hardware

/-- `toggleNetworkIndicator` (`main.ino:146-148`). -/
def Indicator.toggleNetworkIndicator (n : Indicator) : Indicator := { n with isOn := !n.isOn }

/-- The device with `lastWiFiCheck`. No code reads the rest: the calls of `update` with what the two
connections were, the moments of the calls of `keepAlive`, the checks with their results and the calls of
`WiFi.reconnect()`, the newest first; `checked` is the moment that `lastWiFiCheck` shows. -/
structure Board where
  device : Device
  lastWiFiCheck : UInt32
  updated : List (Nat × Bool × Bool)
  kept : List Nat
  checks : List (Nat × Bool)
  reconnects : List Nat
  checked : Nat

inductive BoardEvent
  | call (c : Call)
  | keepAlive (gap : Nat) (wifi : Bool)

namespace Board

/-- After `setup()`, `ms` milliseconds after the boot, with so many toggles of the indicator. -/
def setup (toggles ms : Nat) : Board where
  device := { Device.start with
    indicator := Indicator.toggleNetworkIndicator^[toggles] .begin
    now := ms }
  lastWiFiCheck := 0
  updated := []
  kept := []
  checks := []
  reconnects := []
  checked := 0

/-- `keepAlive` (`main.ino:271-279`), with whether it calls `WiFi.reconnect()`. `gap` is the time between
its two readings of `millis()`. -/
def keepAlive (gap : Nat) (wifi : Bool) (s : Board) : Board × Bool :=
  let s := { s with kept := s.device.now :: s.kept }
  if 60000 ≤ s.device.millis - s.lastWiFiCheck then
    let now := s.device.now + gap
    ({ s with
      device := { s.device with now := now }
      lastWiFiCheck := .ofNat now
      checks := (now, wifi) :: s.checks
      checked := now }, !wifi)
  else (s, false)

/-- A call of `keepAlive`, and the reconnection that it forces. -/
def keep (gap : Nat) (wifi : Bool) (s : Board) : Board :=
  let kept := s.keepAlive gap wifi
  { kept.1 with
    reconnects := if kept.2 then kept.1.device.now :: kept.1.reconnects else kept.1.reconnects }

def step (s : Board) : BoardEvent → Option Board
  | .call c => (s.device.step c).map fun device => { s with
      device := device
      updated := match c with
        | .update wifi mqtt => (s.device.now, wifi, mqtt) :: s.updated
        | _ => s.updated }
  | .keepAlive gap wifi => some (s.keep gap wifi)

/-- The boards that events of the kind `ok` lead to. -/
abbrev Reaches (ok : Board → BoardEvent → Prop) : Board → Board → Prop := GuardedReaches step ok

/-! ## The checks of the WiFi connection -/

/-- `keepAlive` is called within `D` ms of the call before, or of the boot, and reads the clock twice
within `G` ms. -/
def InTime (D G : Nat) (s : Board) : BoardEvent → Prop
  | .keepAlive gap _ => s.device.now ≤ s.kept.headD 0 + D ∧ gap ≤ G
  | _ => True

instance (D G : Nat) (s : Board) (e : BoardEvent) : Decidable (InTime D G s e) :=
  match e with
  | .keepAlive gap _ => inferInstanceAs (Decidable (s.device.now ≤ s.kept.headD 0 + D ∧ gap ≤ G))
  | .call _ => .isTrue trivial

/-- The moments of two checks, or of the boot and a check, lie between one minute and what the calls'
distance adds. -/
def Apart (D G : Nat) (later earlier : Nat) : Prop :=
  earlier + 60000 ≤ later ∧ later < earlier + 60000 + D + G

/-- The moments of the checks that found no connection. -/
def lost (s : Board) : List Nat := (s.checks.filter fun c => !c.2).map Prod.fst

/-- The checks come in time: from the boot on, two in a row are a minute apart at least and `D + G` more
at most; a call of `keepAlive` leaves no check overdue; and reconnections are forced by the checks that
find no connection, by all of them and by nothing else, so that they are a minute apart. -/
structure ChecksInTime (D G : Nat) (s : Board) : Prop where
  apart : (s.checks.map Prod.fst ++ [0]).IsChain (Apart D G)
  fresh : ∀ m ∈ s.kept.head?, m < s.checked + 60000
  reconnects : s.reconnects.IsChain fun later earlier => earlier + 60000 ≤ later
  forced : s.reconnects = s.lost

variable {D G toggles ms : Nat} {s s' : Board}

/-- Does `keepAlive` check now? -/
def Due (s : Board) : Prop := 60000 ≤ s.device.millis - s.lastWiFiCheck

/-- What `keepAlive` can do. -/
theorem step_keepAlive {gap : Nat} {wifi : Bool} (hstep : s.step (.keepAlive gap wifi) = some s') :
    s'.kept = s.device.now :: s.kept ∧
      ((s.Due ∧ s'.device.now = s.device.now + gap ∧ s'.lastWiFiCheck = .ofNat (s.device.now + gap) ∧
          s'.checks = (s.device.now + gap, wifi) :: s.checks ∧ s'.checked = s.device.now + gap ∧
          s'.reconnects = if wifi then s.reconnects else (s.device.now + gap) :: s.reconnects) ∨
        (¬ s.Due ∧ s'.device = s.device ∧ s'.lastWiFiCheck = s.lastWiFiCheck ∧ s'.checks = s.checks ∧
          s'.checked = s.checked ∧ s'.reconnects = s.reconnects)) := by
  obtain rfl := Option.some.inj hstep
  by_cases hdue : s.Due
  · have hkeep : s.keepAlive gap wifi = ({ s with
        kept := s.device.now :: s.kept
        device := { s.device with now := s.device.now + gap }
        lastWiFiCheck := .ofNat (s.device.now + gap)
        checks := (s.device.now + gap, wifi) :: s.checks
        checked := s.device.now + gap }, !wifi) := if_pos hdue
    rw [keep, hkeep]
    exact ⟨rfl, .inl ⟨hdue, rfl, rfl, rfl, rfl, by cases wifi <;> rfl⟩⟩
  · have hkeep : s.keepAlive gap wifi = ({ s with kept := s.device.now :: s.kept }, false) := if_neg hdue
    rw [keep, hkeep]
    exact ⟨rfl, .inr ⟨hdue, rfl, rfl, rfl, rfl, rfl⟩⟩

/-- A call does not turn back the clock. -/
theorem now_le_of_call {d d' : Device} {c : Call} (hstep : d.step c = some d') : d.now ≤ d'.now := by
  cases c with
  | wait n =>
    obtain rfl := Option.some.inj hstep
    exact Nat.le_add_right _ _
  | setImmediate id isOn =>
    obtain rfl := Option.some.inj hstep
    exact le_rfl
  | queueState id isOn cmdID =>
    obtain rfl := Option.some.inj hstep
    exact le_rfl
  | queueStateAll isOn =>
    obtain rfl := Option.some.inj hstep
    exact le_rfl
  | winkNetworkIndicator =>
    obtain rfl := Option.some.inj hstep
    exact le_rfl
  | update wifi mqtt =>
    obtain rfl := Option.some.inj hstep
    exact le_rfl

structure CheckInv (D G : Nat) (s : Board) : Prop where
  shown : s.lastWiFiCheck = .ofNat s.checked
  checked_le : s.checked ≤ s.device.now
  newest : (s.checks.map Prod.fst ++ [0]).head? = some s.checked
  apart : (s.checks.map Prod.fst ++ [0]).IsChain (Apart D G)
  early : s.kept.headD 0 < s.checked + 60000
  forced : s.reconnects = s.lost

theorem checkInv_setup : CheckInv D G (setup toggles ms) :=
  ⟨rfl, Nat.zero_le _, rfl, .singleton 0, show 0 < 0 + 60000 by decide, rfl⟩

/-- A call that comes in time finds a check due exactly when one minute has passed. -/
theorem CheckInv.due_iff (h : s.CheckInv D G) (hD : D + 60000 ≤ 2 ^ 32)
    (hcall : s.device.now ≤ s.kept.headD 0 + D) : s.Due ↔ s.checked + 60000 ≤ s.device.now := by
  have hearly := h.early
  have hnear : s.device.now < s.checked + 2 ^ 32 := by omega
  have hage : s.Due ↔ 60000 ≤ age (2 ^ 32) s.checked s.device.now := by
    rw [← toNat_ofNat_sub, ← h.shown]
    exact UInt32.le_iff_toNat_le
  exact hage.trans (le_age_iff h.checked_le hnear)

theorem CheckInv.keepAlive (h : s.CheckInv D G) (hD : D + 60000 ≤ 2 ^ 32) {gap : Nat} {wifi : Bool}
    (hok : InTime D G s (.keepAlive gap wifi)) (hstep : s.step (.keepAlive gap wifi) = some s') :
    s'.CheckInv D G := by
  have hdue := h.due_iff hD hok.1
  have hearly := h.early
  obtain ⟨hcall, hgap⟩ := hok
  obtain ⟨hkept, ⟨hcheck, hnow, hlast, hchecks, hchecked, hreconnects⟩ |
    ⟨hcheck, hdevice, hlast, hchecks, hchecked, hreconnects⟩⟩ := step_keepAlive hstep
  · have hlate := hdue.1 hcheck
    refine ⟨by rw [hlast, hchecked], by rw [hchecked, hnow], by rw [hchecks, hchecked]; rfl, ?_, ?_, ?_⟩
    · rw [hchecks, List.map_cons, List.cons_append, List.isChain_cons]
      refine ⟨fun earlier hearlier => ?_, h.apart⟩
      rw [h.newest] at hearlier
      obtain rfl := Option.some.inj hearlier
      exact ⟨by omega, by omega⟩
    · rw [hkept, hchecked, List.headD_cons]
      omega
    · rw [hreconnects, lost, hchecks, h.forced, lost]
      cases wifi <;> rfl
  · have hnot : ¬ s.checked + 60000 ≤ s.device.now := fun hle => hcheck (hdue.2 hle)
    refine ⟨by rw [hlast, hchecked, h.shown], by rw [hchecked, hdevice]; exact h.checked_le,
      by rw [hchecks, hchecked, h.newest], by rw [hchecks]; exact h.apart, ?_,
      by rw [hreconnects, lost, hchecks, h.forced, lost]⟩
    rw [hkept, hchecked, List.headD_cons]
    exact Nat.not_le.1 hnot

theorem CheckInv.call (h : s.CheckInv D G) {c : Call} (hstep : s.step (.call c) = some s') :
    s'.CheckInv D G := by
  obtain ⟨device, hdevice, rfl⟩ := Option.map_eq_some_iff.1 hstep
  exact ⟨h.shown, h.checked_le.trans (now_le_of_call hdevice), h.newest, h.apart, h.early,
    h.forced⟩

/-- A list in which consecutive moments are a minute apart keeps that when some are left out. -/
theorem isChain_minute {l l' : List Nat} (h : l.IsChain (Apart D G)) (hsub : l'.Sublist l) :
    l'.IsChain fun later earlier => earlier + 60000 ≤ later := by
  have htrans : IsTrans Nat fun later earlier => earlier + 60000 ≤ later :=
    ⟨fun a b c hab hbc => by omega⟩
  have hminute : l.IsChain fun later earlier => earlier + 60000 ≤ later :=
    h.imp fun _ _ hapart => hapart.1
  exact List.isChain_iff_pairwise.2 ((List.isChain_iff_pairwise.1 hminute).sublist hsub)

/-- As long as `keepAlive` is called often enough for the counter, also across its wraps, the WiFi
connection is checked in time. -/
theorem wifi_checked_in_time (hD : D + 60000 ≤ 2 ^ 32)
    (h : Board.Reaches (InTime D G) (setup toggles ms) s) : ChecksInTime D G s := by
  have hinv : s.CheckInv D G := h.invariant checkInv_setup fun s a s' hs hok hstep => by
    cases a with
    | call c => exact hs.call hstep
    | keepAlive gap wifi => exact hs.keepAlive hD hok hstep
  refine ⟨hinv.apart, fun m hm => ?_, ?_, hinv.forced⟩
  · have hearly := hinv.early
    rw [List.headD_eq_head?_getD, Option.mem_def.1 hm] at hearly
    exact hearly
  · have hsub : s.lost.Sublist (s.checks.map Prod.fst) := List.filter_sublist.map _
    rw [hinv.forced]
    exact isChain_minute hinv.apart (hsub.trans (List.sublist_append_left _ _))

/-- Half a minute of setup, and a connection that is lost for a check. -/
theorem wifi_checked_in_time_lost : ∃ s, s.reconnects = [70001] ∧ ChecksInTime 60000 5 s := by
  have hrun : (runIf step (InTime 60000 5) [.keepAlive 0 true, .call (.wait 40000),
      .keepAlive 1 false, .call (.wait 59000), .keepAlive 0 true] (setup 150 30000)).map
        (fun s => s.reconnects) = some [70001] := by decide +kernel
  obtain ⟨s, hs, hreconnects⟩ := Option.map_eq_some_iff.1 hrun
  exact ⟨s, hreconnects, wifi_checked_in_time (by decide) (reaches_of_runIf hs)⟩

end Board

/-! ## What the light says -/

namespace Indicator

variable {n : Indicator} {millis : UInt32} {mqtt : Bool}

/-- Is the light on at this moment of the double pulse? -/
def pulseOn (millis : UInt32) : Bool := millis / 100 % 12 ≠ 0 ∧ millis / 100 % 12 ≠ 2

theorem update_disconnected (h : n.indicatorState = .netDisconnected) (hwink : n.winkPending = false) :
    n.update millis false mqtt = n := by
  have hsolid : n.solid (desired false mqtt) = n := if_neg (not_not.2 h.symm)
  have hpulse : n.doublePulse millis = n := if_neg (by rw [h]; decide)
  have hrestore : n.restoreWink millis = n := if_neg fun hover => by
    rw [hwink] at hover
    cases hover.1
  rw [update, hsolid, hpulse, hrestore]

theorem update_disconnects (h : n.indicatorState ≠ .netDisconnected) :
    n.update millis false mqtt = { n with
      winkPending := false, indicatorState := .netDisconnected, isOn := false } := by
  have hsolid : n.solid (desired false mqtt) = { n with
      winkPending := false, indicatorState := .netDisconnected, isOn := false } := if_pos h.symm
  rw [update, hsolid]
  rfl

theorem update_noInternet : n.update millis true false = { n with
    winkPending := false, indicatorState := .netNoInternet, isOn := pulseOn millis } := by
  have hpulse : (n.solid (desired true false)).doublePulse millis = { n with
      winkPending := false, indicatorState := .netNoInternet, isOn := pulseOn millis } := by
    unfold solid
    split
    · rfl
    · rename_i hstate
      have hstate : n.indicatorState = .netNoInternet := (not_not.1 hstate).symm
      rw [doublePulse, if_pos hstate, ← hstate]
      rfl
  rw [update, hpulse]
  rfl

theorem update_goes_online (h : n.indicatorState ≠ .netOnline) :
    n.update millis true true = { n with
      winkPending := false, indicatorState := .netOnline, isOn := true } := by
  have hsolid : n.solid (desired true true) = { n with
      winkPending := false, indicatorState := .netOnline, isOn := true } := if_pos h.symm
  rw [update, hsolid]
  rfl

end Indicator

namespace Board

/-- The state of the connection that the last call of `update` saw. -/
def seen (s : Board) : IndicatorState :=
  match s.updated with
  | [] => .netDisconnected
  | (_, wifi, mqtt) :: _ => Indicator.desired wifi mqtt

/-- The light by the calls of `update` so far and the toggles of the setup. Online it is on but for a
wink, without the server it pulses, and without WiFi it is off. Until the WiFi is there for the first
time, though, it stays as the blinking of the setup left it. -/
def light (toggles : Nat) (s : Board) : Bool :=
  match s.updated with
  | [] => decide (toggles % 2 = 1)
  | (_, false, _) :: before => decide (toggles % 2 = 1) && !before.any fun u => u.2.1
  | (moment, true, false) :: _ => Indicator.pulseOn (.ofNat moment)
  | (_, true, true) :: _ => !s.device.indicator.winkPending

structure TellsConnection (toggles : Nat) (s : Board) : Prop where
  indicatorState : s.device.indicator.indicatorState = s.seen
  isOn : s.device.indicator.isOn = s.light toggles
  winks_online : s.device.indicator.winkPending → s.seen = .netOnline

variable {toggles ms : Nat} {s s' : Board}

theorem toggles_isOn (toggles : Nat) :
    Indicator.toggleNetworkIndicator^[toggles] .begin =
      { Indicator.begin with isOn := decide (toggles % 2 = 1) } := by
  induction toggles with
  | zero => rfl
  | succ toggles ih =>
    rw [Function.iterate_succ_apply', ih, Indicator.toggleNetworkIndicator]
    rcases Nat.mod_two_eq_zero_or_one toggles with heven | hodd
    · have hodd : (toggles + 1) % 2 = 1 := by omega
      simp [heven, hodd]
    · have heven : (toggles + 1) % 2 = 0 := by omega
      simp [hodd, heven]

theorem tells_setup : TellsConnection toggles (setup toggles ms) := by
  have hindicator : (setup toggles ms).device.indicator = _ := toggles_isOn toggles
  refine ⟨?_, ?_, ?_⟩
  all_goals rw [hindicator]
  · rfl
  · rfl
  · exact nofun

/-- What is seen without WiFi, or with it. -/
theorem seen_eq_disconnected : s.seen = .netDisconnected ↔ ∀ u ∈ s.updated.head?, u.2.1 = false := by
  unfold seen
  split
  · simp_all
  · rename_i m wifi mqtt before hupdated
    rw [hupdated]
    cases wifi <;> cases mqtt <;> simp [Indicator.desired]

theorem light_of_disconnected (h : s.seen = .netDisconnected) :
    s.light toggles = (decide (toggles % 2 = 1) && !s.updated.any fun u => u.2.1) := by
  have hhead := seen_eq_disconnected.1 h
  unfold light
  split
  · simp_all
  all_goals
    rename_i hupdated
    rw [hupdated] at hhead
    have hwifi := hhead _ rfl
    simp_all

theorem light_of_online (h : s.seen = .netOnline) :
    s.light toggles = !s.device.indicator.winkPending := by
  unfold seen at h
  unfold light
  split at h
  · cases h
  · rename_i wifi mqtt before hupdated
    obtain ⟨rfl, rfl⟩ := Indicator.desired_eq_netOnline.1 h
    rw [hupdated]

/-- What changes neither the indicator nor the calls of `update`. -/
theorem TellsConnection.frame (h : s.TellsConnection toggles)
    (hindicator : s'.device.indicator = s.device.indicator) (hupdated : s'.updated = s.updated) :
    s'.TellsConnection toggles := by
  have hseen : s'.seen = s.seen := by rw [seen, hupdated, seen]
  have hlight : s'.light toggles = s.light toggles := by rw [light, hupdated, hindicator, light]
  refine ⟨?_, ?_, ?_⟩
  · rw [hindicator, hseen, h.indicatorState]
  · rw [hindicator, hlight, h.isOn]
  · rw [hindicator, hseen]
    exact h.winks_online

theorem step_update {wifi mqtt : Bool} (hstep : s.step (.call (.update wifi mqtt)) = some s') :
    s'.device.indicator = s.device.indicator.update s.device.millis wifi mqtt ∧
      s'.updated = (s.device.now, wifi, mqtt) :: s.updated := by
  obtain rfl := Option.some.inj hstep
  exact ⟨rfl, rfl⟩

/-- Without WiFi the light goes off, or stays as it is. -/
theorem TellsConnection.update_disconnected (h : s.TellsConnection toggles) {mqtt : Bool}
    (hstep : s.step (.call (.update false mqtt)) = some s') : s'.TellsConnection toggles := by
  obtain ⟨hindicator, hupdated⟩ := step_update hstep
  have hseen : s'.seen = .netDisconnected := by
    rw [seen, hupdated]
    rfl
  have hlight : s'.light toggles = (decide (toggles % 2 = 1) && !s.updated.any fun u => u.2.1) := by
    rw [light, hupdated]
  by_cases hbefore : s.seen = .netDisconnected
  · have hwink : s.device.indicator.winkPending = false := by
      by_contra hpending
      have honline := h.winks_online (Bool.not_eq_false _ ▸ hpending)
      rw [hbefore] at honline
      cases honline
    rw [Indicator.update_disconnected (h.indicatorState.trans hbefore) hwink] at hindicator
    refine ⟨?_, ?_, ?_⟩
    · rw [hindicator, hseen, h.indicatorState, hbefore]
    · rw [hindicator, hlight, h.isOn, light_of_disconnected hbefore]
    · rw [hindicator, hwink]
      exact nofun
  · have hany : s.updated.any (fun u => u.2.1) = true := by
      by_contra hnone
      refine hbefore (seen_eq_disconnected.2 fun u hu => ?_)
      rw [List.any_eq_true, not_exists] at hnone
      exact Bool.eq_false_iff.2 fun hwifi => hnone u ⟨List.mem_of_mem_head? hu, hwifi⟩
    rw [Indicator.update_disconnects (h.indicatorState ▸ hbefore)] at hindicator
    refine ⟨?_, ?_, ?_⟩
    · rw [hindicator, hseen]
    · rw [hindicator, hlight, hany, Bool.not_true, Bool.and_false]
    · rw [hindicator]
      exact nofun

/-- Without the server it pulses. -/
theorem TellsConnection.update_noInternet
    (hstep : s.step (.call (.update true false)) = some s') : s'.TellsConnection toggles := by
  obtain ⟨hindicator, hupdated⟩ := step_update hstep
  rw [Indicator.update_noInternet] at hindicator
  have hseen : s'.seen = .netNoInternet := by
    rw [seen, hupdated]
    rfl
  refine ⟨?_, ?_, ?_⟩
  · rw [hindicator, hseen]
  · rw [hindicator, light, hupdated]
    rfl
  · rw [hindicator]
    exact nofun

/-- With both connections it is on, or a wink goes on. -/
theorem TellsConnection.update_online (h : s.TellsConnection toggles)
    (hstep : s.step (.call (.update true true)) = some s') : s'.TellsConnection toggles := by
  obtain ⟨hindicator, hupdated⟩ := step_update hstep
  have hseen : s'.seen = .netOnline := by
    rw [seen, hupdated]
    rfl
  have hstate : s'.device.indicator.indicatorState = s'.seen := by
    rw [hindicator, Indicator.update_indicatorState, hseen]
    rfl
  refine ⟨hstate, ?_, fun _ => hseen⟩
  rw [light_of_online hseen, hindicator]
  by_cases hbefore : s.seen = .netOnline
  · have honline := h.indicatorState.trans hbefore
    have hisOn : s.device.indicator.isOn = !s.device.indicator.winkPending :=
      h.isOn.trans (light_of_online hbefore)
    rw [Indicator.update_of_online honline ⟨rfl, rfl⟩]
    by_cases hover : s.device.indicator.winkPending ∧ s.device.indicator.winkEndTime ≤ s.device.millis
    · rw [Indicator.restoreWink_over honline hover.1 hover.2]
      rfl
    · have hsame : s.device.indicator.restoreWink s.device.millis = s.device.indicator := if_neg hover
      rw [hsame, hisOn]
  · rw [Indicator.update_goes_online (h.indicatorState ▸ hbefore)]
    rfl

theorem step_winkNetworkIndicator (hstep : s.step (.call .winkNetworkIndicator) = some s') :
    s'.device.indicator = s.device.indicator.winkNetworkIndicator s.device.millis ∧
      s'.updated = s.updated := by
  obtain rfl := Option.some.inj hstep
  exact ⟨rfl, rfl⟩

/-- A wink turns the light off, and only a light that is on. -/
theorem TellsConnection.winkNetworkIndicator (h : s.TellsConnection toggles)
    (hstep : s.step (.call .winkNetworkIndicator) = some s') : s'.TellsConnection toggles := by
  obtain ⟨hindicator, hupdated⟩ := step_winkNetworkIndicator hstep
  by_cases hblocked :
      s.device.indicator.indicatorState ≠ .netOnline ∨ s.device.indicator.winkPending
  · have hsame : s.device.indicator.winkNetworkIndicator s.device.millis = s.device.indicator :=
      if_pos hblocked
    exact h.frame (hindicator.trans hsame) hupdated
  · have hnew : s.device.indicator.winkNetworkIndicator s.device.millis = { s.device.indicator with
        winkPending := true, winkEndTime := s.device.millis + 100, isOn := false } := if_neg hblocked
    have honline : s.device.indicator.indicatorState = .netOnline :=
      not_not.1 fun hstate => hblocked (.inl hstate)
    have hseen : s'.seen = .netOnline := by
      rw [seen, hupdated]
      exact h.indicatorState.symm.trans honline
    rw [hnew] at hindicator
    refine ⟨?_, ?_, fun _ => hseen⟩
    · rw [hindicator, hseen, honline]
    · rw [light_of_online hseen, hindicator]
      rfl

theorem keepAlive_indicator (gap : Nat) (wifi : Bool) (s : Board) :
    (s.keepAlive gap wifi).1.device.indicator = s.device.indicator ∧
      (s.keepAlive gap wifi).1.updated = s.updated := by
  by_cases hdue : s.Due
  · have hkeep : s.keepAlive gap wifi = _ := if_pos hdue
    rw [hkeep]
    exact ⟨rfl, rfl⟩
  · have hkeep : s.keepAlive gap wifi = _ := if_neg hdue
    rw [hkeep]
    exact ⟨rfl, rfl⟩

theorem TellsConnection.step (h : s.TellsConnection toggles) {e : BoardEvent}
    (hstep : s.step e = some s') : s'.TellsConnection toggles := by
  cases e with
  | keepAlive gap wifi =>
    obtain rfl := Option.some.inj hstep
    obtain ⟨hindicator, hupdated⟩ := keepAlive_indicator gap wifi s
    exact h.frame hindicator hupdated
  | call c =>
    cases c with
    | winkNetworkIndicator => exact h.winkNetworkIndicator hstep
    | update wifi mqtt =>
      match wifi, mqtt with
      | false, _ => exact h.update_disconnected hstep
      | true, false => exact .update_noInternet hstep
      | true, true => exact h.update_online hstep
    | wait n =>
      obtain rfl := Option.some.inj hstep
      exact h.frame rfl rfl
    | setImmediate id isOn =>
      obtain rfl := Option.some.inj hstep
      exact h.frame rfl rfl
    | queueState id isOn cmdID =>
      obtain rfl := Option.some.inj hstep
      exact h.frame rfl rfl
    | queueStateAll isOn =>
      obtain rfl := Option.some.inj hstep
      exact h.frame rfl rfl

/-- In every run of the loop and the calls of the MQTT task the light tells the connection that the last
call of `update` saw. -/
theorem indicator_tells_connection
    (h : Board.Reaches (fun _ _ => True) (setup toggles ms) s) : s.TellsConnection toggles :=
  h.invariant tells_setup fun _ _ _ hs _ hstep => hs.step hstep

/-- The blinking of the setup ends with the light on, which then stays on without WiFi until the WiFi has
been there. -/
theorem indicator_tells_connection_boot : ∃ s s' : Board, s.TellsConnection 151 ∧ s'.TellsConnection 151 ∧
    s.seen = .netDisconnected ∧ s.light 151 = true ∧ s'.seen = .netDisconnected ∧
      s'.light 151 = false := by
  have hrun : (runIf step (fun _ _ => True) [.call (.update false false)] (setup 151 30000)).map
      (fun s => (s.seen, s.light 151)) = some (.netDisconnected, true) := by decide +kernel
  have hrun' : (runIf step (fun _ _ => True) [.call (.update false false), .call (.update true true),
      .call .winkNetworkIndicator, .call (.update false false)] (setup 151 30000)).map
      (fun s => (s.seen, s.light 151)) = some (.netDisconnected, false) := by decide +kernel
  obtain ⟨s, hs, hend⟩ := Option.map_eq_some_iff.1 hrun
  obtain ⟨s', hs', hend'⟩ := Option.map_eq_some_iff.1 hrun'
  obtain ⟨hseen, hlight⟩ := Prod.mk.inj hend
  obtain ⟨hseen', hlight'⟩ := Prod.mk.inj hend'
  exact ⟨s, s', indicator_tells_connection (reaches_of_runIf hs),
    indicator_tells_connection (reaches_of_runIf hs'), hseen, hlight, hseen', hlight'⟩

end Board

end Hardware

end GbcVenue
