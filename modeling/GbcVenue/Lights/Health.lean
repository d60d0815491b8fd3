import GbcVenue.Domain.Json
import GbcVenue.Interleaving.Guarded
import GbcVenue.Time.GoTime
import Std.Data.String.ToInt

/-!
# Health requests

Any number of concurrent calls of `RequestHardwareHealth`, the map under which they wait, and the handler
of the responses. The id of a call is made of its reading of the clock. `health_requests_matched`: as long
as no two calls in progress read the same millisecond, no response is delivered while another call has the
reading of the one it answers, and no call takes its timer while a response is in its channel, every call
gets the response to its own request.
-/

namespace GbcVenue

open Interleaving

/-- A message on `gbc/hardware/health/response`, with the call whose request it answers, which no code
reads. -/
structure HealthResponse (κ : Type) where
  origin : κ
  data : JsonMap

/-- The id of a request made at this reading of the clock (`mqtt_client.go:127`). -/
def healthID (ms : Int) : String := "health_" ++ toString ms

theorem healthID_inj {ms ms' : Int} : healthID ms = healthID ms' ↔ ms = ms' := by
  refine ⟨fun h => Int.repr_inj.1 ?_, fun h => by rw [h]⟩
  exact String.append_right_inj _ |>.1 h

/-- `jsonString(data, "commandId")`. -/
def HealthResponse.cmdID {κ : Type} (r : HealthResponse κ) : String := r.data.jsonString "commandId"

/-- What a call returns: the data of a response, or one of two errors. -/
inductive HealthResult (κ : Type)
  | data (r : HealthResponse κ)
  | timedOut
  | disconnected

section

variable {n : Nat}

/-- How far a call of `RequestHardwareHealth` has come (`mqtt_client.go:123-151`). -/
inductive HealthCall (n : Nat)
  | idle
  | stamped (cmdID : String)
  | registered (cmdID : String)
  | waiting (cmdID : String)
  | expired (cmdID : String)
  | returned (a : HealthResult (Fin n))

/-- The call has registered its channel and not returned yet. -/
def HealthCall.inProgress : HealthCall n → Bool
  | .registered _ | .waiting _ | .expired _ => true
  | _ => false

/-- The id that the call has made for its request. -/
def HealthCall.cmdID : HealthCall n → Option String
  | .stamped cmdID | .registered cmdID | .waiting cmdID | .expired cmdID => some cmdID
  | _ => none

/-- The calls, `healthPending` with a channel named by its call, the channels, and the response that the
handler holds between its lookup and its send. The client runs one handler at a time. `responses` are the
ones the device makes; `handled` remembers whose own response was handled before its timeout, and `clock`
what a call read of the clock for its id. -/
structure HealthState (n : Nat) where
  call : Fin n → HealthCall n
  pending : String → Option (Fin n)
  ch : Fin n → List (HealthResponse (Fin n))
  sending : Option (Fin n × HealthResponse (Fin n))
  responses : List (HealthResponse (Fin n))
  handled : Fin n → Bool
  clock : Fin n → Int

inductive HealthAction (n : Nat)
  | stamp (j : Fin n) (isConnected : Bool) (now : Int)
  | register (j : Fin n)
  | publish (j : Fin n) (fields : JsonMap)
  | lookup (i : Nat)
  | lookupUnknown (data : JsonMap)
  | send
  | receive (j : Fin n)
  | timeout (j : Fin n)
  | expire (j : Fin n)

end

namespace HealthState

section

variable {n : Nat}

def start : HealthState n :=
  ⟨fun _ => .idle, fun _ => none, fun _ => [], none, [], fun _ => false, fun _ => 0⟩

def setCall (s : HealthState n) (j : Fin n) (c : HealthCall n) : HealthState n :=
  { s with call := Function.update s.call j c }

/-- The response has been handled; it counts for its call if that still waits. -/
def markHandled (s : HealthState n) (r : HealthResponse (Fin n)) : HealthState n :=
  match s.call r.origin with
  | .waiting _ => { s with handled := Function.update s.handled r.origin true }
  | _ => s

/-- The handler under `healthMu` (`mqtt_client.go:222-227`). Without an entry it is done. -/
def lookUp (s : HealthState n) (r : HealthResponse (Fin n)) : HealthState n :=
  match s.pending r.cmdID with
  | some c => { s with pending := Function.update s.pending r.cmdID none, sending := some (c, r) }
  | none => s.markHandled r

/-- One action, `none` if it cannot be taken. A response can be delivered at any time after its request
was published and any number of times; `lookupUnknown` is a response under an id that is not pending. -/
def step (s : HealthState n) : HealthAction n → Option (HealthState n)
  | .stamp j isConnected now => match s.call j with
    | .idle => some { s.setCall j (if isConnected then .stamped (healthID (GoTime.unixMilli now))
          else .returned .disconnected) with
        clock := Function.update s.clock j (GoTime.unixMilli now) }
    | _ => none
  | .register j => match s.call j with
    | .stamped cmdID => some { s.setCall j (.registered cmdID) with
        pending := Function.update s.pending cmdID (some j) }
    | _ => none
  | .publish j fields => match s.call j with
    | .registered cmdID => some { s.setCall j (.waiting cmdID) with
        responses := s.responses ++ [⟨j, fields ++ [("commandId", .string cmdID)]⟩] }
    | _ => none
  | .lookup i => match s.sending, s.responses[i]? with
    | none, some r => some (s.lookUp r)
    | _, _ => none
  | .lookupUnknown data =>
    if s.sending = none ∧ s.pending (data.jsonString "commandId") = none then some s else none
  | .send => match s.sending with
    | some (c, r) =>
      -- the channel has one slot
      if (s.ch c).length < 1 then some
        ({ s with ch := Function.update s.ch c (s.ch c ++ [r]), sending := none }.markHandled r)
      else none
    | none => none
  | .receive j => match s.call j, s.ch j with
    | .waiting _, r :: rest => some { s.setCall j (.returned (.data r)) with
        ch := Function.update s.ch j rest }
    | _, _ => none
  | .timeout j => match s.call j with
    | .waiting cmdID => some (s.setCall j (.expired cmdID))
    | _ => none
  | .expire j => match s.call j with
    | .expired cmdID => some { s.setCall j (.returned .timedOut) with
        pending := Function.update s.pending cmdID none }
    | _ => none

/-- No call in progress but `j` read the clock as `j` did. -/
def AloneAt (s : HealthState n) (j : Fin n) : Prop :=
  ∀ k, k ≠ j → (s.call k).inProgress → s.clock k ≠ s.clock j

instance (s : HealthState n) (j : Fin n) : Decidable (s.AloneAt j) :=
  inferInstanceAs (Decidable (∀ k, k ≠ j → (s.call k).inProgress → s.clock k ≠ s.clock j))

/-- A call registers only while no call in progress read the same millisecond; a response is delivered
only while no other call in progress has the reading of the call that it answers, which a late one or a
duplicate may find; and a call takes its timer only while its channel is empty. -/
def apart (s : HealthState n) : HealthAction n → Bool
  | .register j => s.AloneAt j
  | .lookup i => s.responses[i]?.all fun r => s.AloneAt r.origin
  | .timeout j => (s.ch j).isEmpty
  | _ => true

/-- Runs of actions of the kind `ok` from the start of the process. -/
abbrev Reaches (ok : HealthState n → HealthAction n → Prop) : HealthState n → HealthState n → Prop :=
  GuardedReaches step ok

/-- The call is over. -/
def Done (s : HealthState n) (j : Fin n) : Prop := s.call j = .idle ∨ ∃ a, s.call j = .returned a

/-- The health requests are matched one to one. -/
structure Matched (s : HealthState n) : Prop where
  inTime : ∀ j, s.handled j → (∃ r, s.call j = .returned (.data r) ∧ r.origin = j) ∨
    ∃ cmdID r, s.call j = .waiting cmdID ∧ s.ch j = [r] ∧ r.origin = j
  own : ∀ j r, s.call j = .returned (.data r) → r.origin = j
  once : ∀ j a s', s.call j = .returned a → Reaches (fun _ _ => True) s s' → s'.call j = .returned a
  unblocked : s.sending.isSome → (s.step .send).isSome
  cleared : (∀ j, s.Done j) → ∀ cmdID, s.pending cmdID = none

/-! ## Where the channel of a call is -/

/-- What there is of the channel of a call outside of the call. -/
inductive Place (n : Nat)
  | nowhere
  | listed (cmdID : String)
  | inHand (r : HealthResponse (Fin n))
  | delivered (r : HealthResponse (Fin n))

def Place.contents : Place n → List (HealthResponse (Fin n))
  | .delivered r => [r]
  | _ => []

/-- The channel of call `j` is at that place and nowhere else; a response in it is one to the call. -/
structure At (s : HealthState n) (j : Fin n) (p : Place n) : Prop where
  pending : ∀ cmdID, s.pending cmdID = some j ↔ p = .listed cmdID
  sending : ∀ r, s.sending = some (j, r) ↔ p = .inHand r
  ch : s.ch j = p.contents
  own : ∀ r, p = .inHand r ∨ p = .delivered r → r.origin = j

/-- What may be at a place in this stage of call `j`. -/
def Fits (j : Fin n) (handled : Bool) : HealthCall n → Place n → Prop
  | .idle, p | .stamped _, p | .returned .disconnected, p => p = .nowhere ∧ handled = false
  | .registered cmdID, p => p = .listed cmdID ∧ handled = false
  | .waiting cmdID, p =>
      ((p = .listed cmdID ∨ ∃ r, p = .inHand r) ∧ handled = false) ∨ ∃ r, p = .delivered r
  | .expired cmdID, p => (∀ cmdID', p = .listed cmdID' → cmdID' = cmdID) ∧ handled = false
  | .returned .timedOut, p => (∀ cmdID, p ≠ .listed cmdID) ∧ handled = false
  | .returned (.data r), p => p = .nowhere ∧ r.origin = j

/-- The response answers a request of its call. -/
def Answers (r : HealthResponse (Fin n)) : HealthCall n → Prop
  | .idle | .stamped _ | .registered _ => False
  | .waiting cmdID | .expired cmdID => r.cmdID = cmdID
  | .returned _ => True

structure Inv (s : HealthState n) : Prop where
  place : ∀ j, ∃ p, s.At j p ∧ Fits j (s.handled j) (s.call j) p
  answers : ∀ r ∈ s.responses, Answers r (s.call r.origin)

/-- The ids go with the readings of the clock, and calls in progress have different readings. -/
structure Clocks (s : HealthState n) : Prop where
  call : ∀ j cmdID, (s.call j).cmdID = some cmdID → cmdID = healthID (s.clock j)
  responses : ∀ r ∈ s.responses, r.cmdID = healthID (s.clock r.origin)
  distinct : ∀ j k, (s.call j).inProgress → (s.call k).inProgress → s.clock j = s.clock k → j = k

/-- From `s` to `s'` nothing happens to call `k` and its channel. -/
structure Untouched (k : Fin n) (s s' : HealthState n) : Prop where
  call : s'.call k = s.call k
  handled : s'.handled k = s.handled k
  pending : ∀ cmdID, s'.pending cmdID = some k ↔ s.pending cmdID = some k
  sending : ∀ r, s'.sending = some (k, r) ↔ s.sending = some (k, r)
  ch : s'.ch k = s.ch k

section

variable {s s' : HealthState n} {j : Fin n}

theorem At.untouched {k : Fin n} {p : Place n} (h : s.At k p) (hk : Untouched k s s') : s'.At k p :=
  ⟨fun cmdID => (hk.pending cmdID).trans (h.pending cmdID),
    fun r => (hk.sending r).trans (h.sending r), hk.ch.trans h.ch, h.own⟩

/-- A step that concerns one call keeps the invariant if it keeps it for that call. -/
theorem Inv.of_call (h : s.Inv) {c : HealthCall n} (hcall : s'.call j = c)
    (hothers : ∀ k, k ≠ j → Untouched k s s') (hplace : ∃ p, s'.At j p ∧ Fits j (s'.handled j) c p)
    (hanswers : ∀ r ∈ s'.responses, r.origin = j → Answers r c)
    (hresponses : ∀ r ∈ s'.responses, r.origin ≠ j → r ∈ s.responses) : s'.Inv := by
  subst hcall
  refine ⟨fun k => ?_, fun r hr => ?_⟩
  · by_cases hk : k = j
    · subst hk
      exact hplace
    · obtain ⟨p, hat, hfits⟩ := h.place k
      refine ⟨p, hat.untouched (hothers k hk), ?_⟩
      rwa [(hothers k hk).call, (hothers k hk).handled]
  · by_cases hk : r.origin = j
    · rw [hk]
      exact hanswers r hr hk
    · rw [(hothers _ hk).call]
      exact h.answers r (hresponses r hr hk)

/-- A new stage of a call leaves the others alone. -/
theorem untouched_setCall {k : Fin n} (hk : k ≠ j) (c : HealthCall n) : Untouched k s (s.setCall j c) :=
  ⟨Function.update_of_ne hk _ _, rfl, fun _ => Iff.rfl, fun _ => Iff.rfl, rfl⟩

theorem At.setCall {k : Fin n} {p : Place n} (h : s.At k p) (c : HealthCall n) : (s.setCall j c).At k p :=
  ⟨h.pending, h.sending, h.ch, h.own⟩

theorem setCall_call (s : HealthState n) (j : Fin n) (c : HealthCall n) : (s.setCall j c).call j = c :=
  Function.update_self _ _ _

/-- A step that only takes a call to its next stage. -/
theorem Inv.setCall (h : s.Inv) {c : HealthCall n}
    (hfits : ∀ p, s.At j p → Fits j (s.handled j) (s.call j) p → Fits j (s.handled j) c p)
    (hanswers : ∀ r, Answers r (s.call j) → Answers r c) : (s.setCall j c).Inv := by
  refine h.of_call (setCall_call s j c) (fun k hk => untouched_setCall hk c) ?_ ?_ fun r hr _ => hr
  · obtain ⟨p, hat, hfit⟩ := h.place j
    exact ⟨p, hat.setCall c, hfits p hat hfit⟩
  · rintro r hr rfl
    exact hanswers r (h.answers r hr)

end

/-! ## Ids and readings -/

section

variable {s s' : HealthState n} {j : Fin n}

/-- A call that is listed is in progress under that id. -/
theorem Fits.listed {handled : Bool} {call : HealthCall n} {cmdID : String}
    (h : Fits j handled call (.listed cmdID)) : call.inProgress ∧ call.cmdID = some cmdID := by
  cases call with
  | idle => cases h.1
  | stamped => cases h.1
  | registered cmdID' =>
    cases h.1
    exact ⟨rfl, rfl⟩
  | waiting cmdID' =>
    rcases h with ⟨heq | ⟨r, heq⟩, -⟩ | ⟨r, heq⟩ <;> cases heq
    exact ⟨rfl, rfl⟩
  | expired cmdID' =>
    obtain rfl := h.1 cmdID rfl
    exact ⟨rfl, rfl⟩
  | returned a =>
    cases a with
    | timedOut => exact absurd rfl (h.1 cmdID)
    | data r => cases h.1
    | disconnected => cases h.1

/-- The call that an entry of the map is of is in progress, and its reading of the clock makes the id. -/
theorem Inv.entry (h : s.Inv) (hc : s.Clocks) {cmdID : String} {k : Fin n}
    (hpending : s.pending cmdID = some k) :
    (s.call k).inProgress ∧ cmdID = healthID (s.clock k) := by
  obtain ⟨p, hat, hfits⟩ := h.place k
  obtain rfl := (hat.pending cmdID).1 hpending
  exact ⟨hfits.listed.1, hc.call k cmdID hfits.listed.2⟩

/-- A step of one call that reads no clock. The call keeps its id, and if it comes to be in progress by it,
no other call in progress has its reading. -/
theorem Clocks.of_call (h : s.Clocks) (hclock : s'.clock = s.clock)
    (hothers : ∀ k, k ≠ j → s'.call k = s.call k)
    (hid : ∀ cmdID, (s'.call j).cmdID = some cmdID → (s.call j).cmdID = some cmdID)
    (hprogress : (s'.call j).inProgress → (s.call j).inProgress ∨ s.AloneAt j)
    (hresponses : ∀ r ∈ s'.responses, r ∈ s.responses ∨ r.cmdID = healthID (s.clock r.origin)) :
    s'.Clocks := by
  have hdistinct : ∀ k, k ≠ j → (s'.call j).inProgress → (s'.call k).inProgress →
      s.clock k ≠ s.clock j := by
    intro k hk hj hother heq
    rw [hothers k hk] at hother
    rcases hprogress hj with hbefore | halone
    · exact hk (h.distinct k j hother hbefore heq)
    · exact halone k hk hother heq
  refine ⟨fun k cmdID hcmdID => ?_, fun r hr => ?_, fun k l hk hl heq => ?_⟩
  · rw [hclock]
    by_cases hk : k = j
    · subst hk
      exact h.call k cmdID (hid cmdID hcmdID)
    · exact h.call k cmdID (hothers k hk ▸ hcmdID)
  · rw [hclock]
    exact (hresponses r hr).elim (h.responses r) id
  · rw [hclock] at heq
    by_cases hkj : k = j
    · subst hkj
      by_contra hne
      exact hdistinct l (Ne.symm hne) hk hl heq.symm
    · by_cases hlj : l = j
      · subst hlj
        exact absurd heq (hdistinct k hkj hl hk)
      · rw [hothers k hkj] at hk
        rw [hothers l hlj] at hl
        exact h.distinct k l hk hl heq

/-- A step that takes a call to its next stage. -/
theorem Clocks.setCall (h : s.Clocks) {c : HealthCall n} (hclock : s'.clock = s.clock)
    (hcall : s'.call = (s.setCall j c).call) (hresponses : s'.responses = s.responses)
    (hid : ∀ cmdID, c.cmdID = some cmdID → (s.call j).cmdID = some cmdID)
    (hprogress : c.inProgress → (s.call j).inProgress ∨ s.AloneAt j) : s'.Clocks := by
  have hj : s'.call j = c := by rw [hcall, setCall_call]
  refine h.of_call hclock (fun k hk => ?_) (hj ▸ hid) (hj ▸ hprogress) fun r hr => .inl ?_
  · rw [hcall]
    exact Function.update_of_ne hk _ _
  · rwa [hresponses] at hr

end

/-! ## The actions -/

section

variable {s s' : HealthState n} {j : Fin n}

theorem Inv.stamp (h : s.Inv) {isConnected : Bool} {now : Int}
    (hstep : s.step (.stamp j isConnected now) = some s') : s'.Inv := by
  simp only [step] at hstep
  split at hstep
  · rename_i hcall
    cases hstep
    have hset := h.setCall (c := if isConnected then .stamped (healthID (GoTime.unixMilli now))
      else .returned .disconnected) (fun p _ hfits => by
        rw [hcall] at hfits
        cases isConnected <;> exact hfits) fun r hr => by
        rw [hcall] at hr
        cases hr
    exact ⟨fun k => (hset.place k).imp fun p hp => ⟨⟨hp.1.pending, hp.1.sending, hp.1.ch, hp.1.own⟩, hp.2⟩,
      hset.answers⟩
  · cases hstep

theorem Inv.timeout (h : s.Inv) (hok : s.apart (.timeout j))
    (hstep : s.step (.timeout j) = some s') : s'.Inv := by
  simp only [step] at hstep
  split at hstep
  · rename_i cmdID hcall
    cases hstep
    refine h.setCall (fun p hat hfits => ?_) fun r hr => ?_
    · rw [hcall] at hfits
      rcases hfits with ⟨hp | ⟨r, hp⟩, hhandled⟩ | ⟨r, rfl⟩
      · refine ⟨fun cmdID' hp' => ?_, hhandled⟩
        cases hp.symm.trans hp'
        rfl
      · refine ⟨fun cmdID' hp' => ?_, hhandled⟩
        cases hp.symm.trans hp'
      · have hempty : s.ch j = [] := List.isEmpty_iff.1 hok
        cases hempty.symm.trans hat.ch
    · rw [hcall] at hr
      exact hr
  · cases hstep

/-- An entry under an id that was free. -/
theorem update_pending_iff {cmdID cmdID' : String} {k : Fin n} (hfree : s.pending cmdID = none)
    (hk : k ≠ j) : Function.update s.pending cmdID (some j) cmdID' = some k ↔
      s.pending cmdID' = some k := by
  by_cases h : cmdID' = cmdID
  · subst h
    rw [Function.update_self, hfree]
    exact iff_of_false (fun h => hk (Option.some.inj h).symm) nofun
  · rw [Function.update_of_ne h]

/-- An entry removed. -/
theorem update_pending_none_iff {cmdID cmdID' : String} {k : Fin n} (hother : s.pending cmdID ≠ some k) :
    Function.update s.pending cmdID none cmdID' = some k ↔ s.pending cmdID' = some k := by
  by_cases h : cmdID' = cmdID
  · subst h
    rw [Function.update_self]
    exact iff_of_false nofun hother
  · rw [Function.update_of_ne h]

theorem Inv.register (h : s.Inv) (hc : s.Clocks) (hok : s.apart (.register j))
    (hstep : s.step (.register j) = some s') : s'.Inv := by
  simp only [step] at hstep
  split at hstep
  · rename_i cmdID hcall
    cases hstep
    have hfree : s.pending cmdID = none := by
      refine Option.eq_none_iff_forall_ne_some.2 fun k hk => ?_
      obtain ⟨hprogress, hid⟩ := h.entry hc hk
      have hne : k ≠ j := by
        rintro rfl
        rw [hcall] at hprogress
        cases hprogress
      have halone : s.AloneAt j := of_decide_eq_true hok
      refine halone k hne hprogress ?_
      rw [← healthID_inj, ← hid, ← hc.call j cmdID (by rw [hcall]; rfl)]
    refine h.of_call (setCall_call s j _) (fun k hk => ?_) ?_ (fun r hr hj => ?_) fun r hr _ => hr
    · exact ⟨Function.update_of_ne hk _ _, rfl, fun _ => update_pending_iff hfree hk,
        fun _ => Iff.rfl, rfl⟩
    · obtain ⟨p, hat, hfits⟩ := h.place j
      rw [hcall] at hfits
      obtain ⟨rfl, hhandled⟩ := hfits
      refine ⟨.listed cmdID, ⟨fun cmdID' => ?_, fun r => ?_, hat.ch, nofun⟩, ?_⟩
      · by_cases hid : cmdID' = cmdID
        · subst hid
          exact iff_of_true (Function.update_self _ _ _) rfl
        · refine iff_of_false ?_ fun heq => hid (Place.listed.inj heq).symm
          show ¬ Function.update s.pending cmdID (some j) cmdID' = some j
          rw [Function.update_of_ne hid, hat.pending]
          nofun
      · exact iff_of_false (fun hr => nomatch (hat.sending r).1 hr) nofun
      · exact ⟨rfl, hhandled⟩
    · have hanswers := h.answers r hr
      rw [hj, hcall] at hanswers
      cases hanswers
  · cases hstep

theorem jsonString_append (fields : JsonMap) (key s : String) :
    (fields ++ [(key, .string s)] : JsonMap).jsonString key = s := by
  simp [JsonMap.jsonString, JsonMap.get]

theorem Inv.publish (h : s.Inv) {fields : JsonMap} (hstep : s.step (.publish j fields) = some s') :
    s'.Inv := by
  simp only [step] at hstep
  split at hstep
  · rename_i cmdID hcall
    cases hstep
    refine h.of_call (setCall_call s j _) (fun k hk => ?_) ?_ (fun r hr hj => ?_) fun r hr hj => ?_
    · exact ⟨Function.update_of_ne hk _ _, rfl, fun _ => Iff.rfl, fun _ => Iff.rfl, rfl⟩
    · obtain ⟨p, hat, hfits⟩ := h.place j
      rw [hcall] at hfits
      exact ⟨p, ⟨hat.pending, hat.sending, hat.ch, hat.own⟩, .inl ⟨.inl hfits.1, hfits.2⟩⟩
    · rcases List.mem_append.1 hr with hr | hr
      · have hanswers := h.answers r hr
        rw [hj, hcall] at hanswers
        cases hanswers
      · obtain rfl := List.mem_singleton.1 hr
        exact jsonString_append fields "commandId" cmdID
    · rcases List.mem_append.1 hr with hr | hr
      · exact hr
      · obtain rfl := List.mem_singleton.1 hr
        exact absurd rfl hj
  · cases hstep

end

/-! ## The handler -/

section

variable {s s' : HealthState n} {j : Fin n} {r : HealthResponse (Fin n)}

/-- Without its entry a call is listed nowhere. -/
theorem At.not_pending {cmdID : String} (h : s.At j (.listed cmdID)) (cmdID' : String) :
    Function.update s.pending cmdID none cmdID' ≠ some j := by
  by_cases hid : cmdID' = cmdID
  · subst hid
    rw [Function.update_self]
    nofun
  · rw [Function.update_of_ne hid, ne_eq, h.pending]
    exact fun heq => hid (Place.listed.inj heq).symm

/-- The response to a call may be taken in hand with its entry. -/
theorem Fits.taken {handled : Bool} {call : HealthCall n} {cmdID : String}
    (h : Fits j handled call (.listed cmdID)) (hr : Answers r call) :
    Fits j handled call (.inHand r) := by
  cases call with
  | idle => cases hr
  | stamped => cases hr
  | registered => cases hr
  | waiting => exact h.imp (fun h => ⟨.inr ⟨r, rfl⟩, h.2⟩) fun ⟨r', hr'⟩ => nomatch hr'
  | expired => exact ⟨nofun, h.2⟩
  | returned a =>
    cases a with
    | timedOut => exact absurd rfl (h.1 cmdID)
    | data r' => cases h.1
    | disconnected => cases h.1

/-- The response in hand may be delivered. -/
theorem Fits.put {handled : Bool} {call : HealthCall n} (h : Fits j handled call (.inHand r)) :
    Fits j handled call (.delivered r) := by
  cases call with
  | idle => cases h.1
  | stamped => cases h.1
  | registered => cases h.1
  | waiting => exact .inr ⟨r, rfl⟩
  | expired => exact ⟨nofun, h.2⟩
  | returned a =>
    cases a with
    | timedOut => exact ⟨nofun, h.2⟩
    | data r' => cases h.1
    | disconnected => cases h.1

/-- The handler takes an entry out of the map and the channel with it. -/
theorem Inv.take (h : s.Inv) (hr : r ∈ s.responses) (hsending : s.sending = none)
    (hlisted : s.pending r.cmdID = some r.origin) :
    ({ s with
      pending := Function.update s.pending r.cmdID none
      sending := some (r.origin, r) } : HealthState n).Inv := by
  refine h.of_call (j := r.origin) rfl (fun k hk => ?_) ?_ (fun r' hr' hj => ?_) fun r' hr' _ => hr'
  · refine ⟨rfl, rfl, fun _ => update_pending_none_iff ?_, fun r' => ?_, rfl⟩
    · rw [hlisted]
      exact fun h => hk (Option.some.inj h).symm
    · rw [hsending]
      exact iff_of_false (fun h => hk (Prod.mk.inj (Option.some.inj h)).1.symm) nofun
  · obtain ⟨p, hat, hfits⟩ := h.place r.origin
    obtain rfl := (hat.pending r.cmdID).1 hlisted
    refine ⟨.inHand r, ⟨fun cmdID => ?_, fun r' => ?_, hat.ch, ?_⟩, hfits.taken (h.answers r hr)⟩
    · exact iff_of_false (hat.not_pending cmdID) nofun
    · show some (r.origin, r) = some (r.origin, r') ↔ _
      simp
    · rintro r' (heq | heq)
      · cases heq
        rfl
      · cases heq
  · have hanswers := h.answers r' hr'
    rwa [hj] at hanswers

/-- A response has been handled whose call, if it waits, has it in its channel. -/
theorem Inv.markHandled (h : s.Inv)
    (hdelivered : ∀ cmdID, s.call r.origin = .waiting cmdID → s.ch r.origin ≠ []) :
    (s.markHandled r).Inv := by
  unfold HealthState.markHandled
  split
  · rename_i cmdID hcall
    refine h.of_call (j := r.origin) rfl (fun k hk => ?_) ?_ (fun r' hr' hj => ?_) fun r' hr' _ => hr'
    · exact ⟨rfl, Function.update_of_ne hk _ _, fun _ => Iff.rfl, fun _ => Iff.rfl, rfl⟩
    · obtain ⟨p, hat, hfits⟩ := h.place r.origin
      refine ⟨p, ⟨hat.pending, hat.sending, hat.ch, hat.own⟩, ?_⟩
      show Fits _ _ (s.call r.origin) p
      rw [hcall] at hfits ⊢
      rcases hfits with ⟨hp | ⟨r', hp⟩, -⟩ | hp
      · subst hp
        exact absurd hat.ch (hdelivered cmdID hcall)
      · subst hp
        exact absurd hat.ch (hdelivered cmdID hcall)
      · exact .inr hp
    · have hanswers := h.answers r' hr'
      rwa [hj] at hanswers
  · exact h

theorem Inv.lookup (h : s.Inv) (hc : s.Clocks) {i : Nat} (hok : s.apart (.lookup i))
    (hstep : s.step (.lookup i) = some s') : s'.Inv := by
  simp only [step] at hstep
  split at hstep
  · rename_i r hsending hr
    cases hstep
    have hmem : r ∈ s.responses := List.mem_of_getElem? hr
    have halone : s.AloneAt r.origin := by simpa [apart, hr] using hok
    have hentry : s.pending r.cmdID = none ∨ s.pending r.cmdID = some r.origin := by
      rcases hpending : s.pending r.cmdID with _ | k
      · exact .inl rfl
      · obtain ⟨hprogress, hid⟩ := h.entry hc hpending
        refine .inr (congrArg some (by_contra fun hne => halone k hne hprogress ?_))
        rw [← healthID_inj, ← hid, ← hc.responses r hmem]
    unfold lookUp
    rcases hentry with hnone | hlisted
    · rw [hnone]
      refine h.markHandled fun cmdID hcall hempty => ?_
      have hanswers := h.answers r hmem
      obtain ⟨p, hat, hfits⟩ := h.place r.origin
      rw [hcall] at hfits hanswers
      rcases hfits with ⟨hp | ⟨r', hp⟩, -⟩ | ⟨r', hp⟩
      · have hlisted := (hat.pending cmdID).2 hp
        rw [← hanswers, hnone] at hlisted
        cases hlisted
      · cases hsending.symm.trans ((hat.sending r').2 hp)
      · rw [hat.ch, hp] at hempty
        cases hempty
    · rw [hlisted]
      exact h.take hmem hsending hlisted
  · cases hstep

end

section

variable {s s' : HealthState n} {j : Fin n} {r : HealthResponse (Fin n)}

/-- The response in the handler's hand is one to the call that its channel is of. -/
theorem Inv.sending_spec (h : s.Inv) {c : Fin n} (hsending : s.sending = some (c, r)) :
    r.origin = c ∧ s.ch c = [] ∧ s.At c (.inHand r) ∧ Fits c (s.handled c) (s.call c) (.inHand r) := by
  obtain ⟨p, hat, hfits⟩ := h.place c
  obtain rfl := (hat.sending r).1 hsending
  exact ⟨hat.own r (.inl rfl), hat.ch, hat, hfits⟩

/-- The handler puts the response into the channel. -/
theorem Inv.put (h : s.Inv) (hsending : s.sending = some (j, r)) :
    ({ s with
      ch := Function.update s.ch j (s.ch j ++ [r])
      sending := none } : HealthState n).Inv := by
  obtain ⟨rfl, hempty, hat, hfits⟩ := h.sending_spec hsending
  refine h.of_call (j := r.origin) rfl (fun k hk => ?_) ?_ (fun r' hr' hj => ?_) fun r' hr' _ => hr'
  · refine ⟨rfl, rfl, fun _ => Iff.rfl, fun r' => iff_of_false nofun ?_,
      Function.update_of_ne hk _ _⟩
    rw [hsending]
    exact fun heq => hk (Prod.mk.inj (Option.some.inj heq)).1.symm
  · refine ⟨.delivered r, ⟨fun cmdID => ?_, fun r' => iff_of_false nofun nofun, ?_, ?_⟩, hfits.put⟩
    · exact iff_of_false (fun hp => nomatch (hat.pending cmdID).1 hp) nofun
    · show Function.update s.ch r.origin _ r.origin = _
      rw [Function.update_self, hempty]
      rfl
    · rintro r' (heq | heq)
      · cases heq
      · cases heq
        rfl
  · have hanswers := h.answers r' hr'
    rwa [hj] at hanswers

theorem Inv.send (h : s.Inv) (hstep : s.step .send = some s') : s'.Inv := by
  simp only [step] at hstep
  split at hstep
  · rename_i c r hsending
    split at hstep
    · cases hstep
      obtain ⟨rfl, -⟩ := h.sending_spec hsending
      refine (h.put hsending).markHandled fun cmdID _ hempty => ?_
      simp at hempty
    · cases hstep
  · cases hstep

theorem Inv.receive (h : s.Inv) (hstep : s.step (.receive j) = some s') : s'.Inv := by
  simp only [step] at hstep
  split at hstep
  · rename_i cmdID r rest hcall hch
    cases hstep
    obtain ⟨p, hat, hfits⟩ := h.place j
    rw [hcall] at hfits
    have hcontents : p.contents = r :: rest := hat.ch.symm.trans hch
    obtain ⟨hp, rfl⟩ : p = .delivered r ∧ rest = [] := by
      cases p <;> cases hcontents
      exact ⟨rfl, rfl⟩
    subst hp
    refine h.of_call (setCall_call s j _) (fun k hk => ?_) ?_ (fun r' hr' hj => ?_) fun r' hr' _ => hr'
    · exact ⟨Function.update_of_ne hk _ _, rfl, fun _ => Iff.rfl, fun _ => Iff.rfl,
        Function.update_of_ne hk _ _⟩
    · refine ⟨.nowhere, ⟨fun cmdID' => ?_, fun r' => ?_, Function.update_self _ _ _, nofun⟩, ?_⟩
      · exact iff_of_false (fun hp => nomatch (hat.pending cmdID').1 hp) nofun
      · exact iff_of_false (fun hp => nomatch (hat.sending r').1 hp) nofun
      · exact ⟨rfl, hat.own r (.inr rfl)⟩
    · trivial
  · cases hstep

theorem Inv.expire (h : s.Inv) (hc : s.Clocks) (hstep : s.step (.expire j) = some s') : s'.Inv := by
  simp only [step] at hstep
  split at hstep
  · rename_i cmdID hcall
    cases hstep
    have hentry : s.pending cmdID = none ∨ s.pending cmdID = some j := by
      rcases hpending : s.pending cmdID with _ | k
      · exact .inl rfl
      · obtain ⟨hprogress, hid⟩ := h.entry hc hpending
        refine .inr (congrArg some (hc.distinct k j hprogress (by rw [hcall]; rfl) ?_))
        rw [← healthID_inj, ← hid, ← hc.call j cmdID (by rw [hcall]; rfl)]
    obtain ⟨p, hat, hfits⟩ := h.place j
    rw [hcall] at hfits
    obtain ⟨hlisted, hhandled⟩ := hfits
    refine h.of_call (setCall_call s j _) (fun k hk => ?_) ?_ (fun r' hr' hj => ?_) fun r' hr' _ => hr'
    · refine ⟨Function.update_of_ne hk _ _, rfl, fun _ => update_pending_none_iff ?_,
        fun _ => Iff.rfl, rfl⟩
      rcases hentry with hentry | hentry
      · rw [hentry]
        nofun
      · rw [hentry]
        exact fun heq => hk (Option.some.inj heq).symm
    · by_cases hp : p = .listed cmdID
      · subst hp
        refine ⟨.nowhere, ⟨fun cmdID' => ?_, fun r => ?_, hat.ch, nofun⟩, nofun, hhandled⟩
        · exact iff_of_false (hat.not_pending cmdID') nofun
        · exact iff_of_false (fun hr => nomatch (hat.sending r).1 hr) nofun
      · have hnone : ∀ cmdID', p ≠ .listed cmdID' := by
          rintro cmdID' rfl
          exact hp (by rw [hlisted cmdID' rfl])
        refine ⟨p, ⟨fun cmdID' => ?_, hat.sending, hat.ch, hat.own⟩, hnone, hhandled⟩
        refine (update_pending_none_iff fun hmem => ?_).trans (hat.pending cmdID')
        exact hnone cmdID ((hat.pending cmdID).1 hmem)
    · trivial
  · cases hstep

end

/-! ## Every run -/

theorem inv_start : (start : HealthState n).Inv :=
  ⟨fun _ => ⟨.nowhere, ⟨fun _ => iff_of_false nofun nofun, fun _ => iff_of_false nofun nofun, rfl, nofun⟩,
    rfl, rfl⟩, nofun⟩

theorem clocks_start : (start : HealthState n).Clocks :=
  ⟨nofun, nofun, nofun⟩

theorem Inv.step {s s' : HealthState n} {a : HealthAction n} (h : s.Inv) (hc : s.Clocks)
    (hok : s.apart a) (hstep : s.step a = some s') : s'.Inv := by
  cases a with
  | stamp j isConnected now => exact h.stamp hstep
  | register j => exact h.register hc hok hstep
  | publish j fields => exact h.publish hstep
  | lookup i => exact h.lookup hc hok hstep
  | lookupUnknown data =>
    simp only [HealthState.step, Option.ite_none_right_eq_some, Option.some.injEq] at hstep
    rw [← hstep.2]
    exact h
  | send => exact h.send hstep
  | receive j => exact h.receive hstep
  | timeout j => exact h.timeout hok hstep
  | expire j => exact h.expire hc hstep

theorem markHandled_call (s : HealthState n) (r : HealthResponse (Fin n)) :
    (s.markHandled r).call = s.call := by
  unfold markHandled
  split <;> rfl

theorem Clocks.of_same {s s' : HealthState n} (h : s.Clocks) (hcall : s'.call = s.call)
    (hclock : s'.clock = s.clock) (hresponses : s'.responses = s.responses) : s'.Clocks := by
  refine ⟨?_, ?_, ?_⟩
  · rw [hcall, hclock]
    exact h.call
  · rw [hresponses, hclock]
    exact h.responses
  · rw [hcall, hclock]
    exact h.distinct

theorem Clocks.markHandled {s : HealthState n} (h : s.Clocks) (r : HealthResponse (Fin n)) :
    (s.markHandled r).Clocks := by
  unfold HealthState.markHandled
  split
  · exact h.of_same rfl rfl rfl
  · exact h

/-- A call that is stamped takes its reading with its id; no response to it is there yet. -/
theorem Clocks.stamp {s s' : HealthState n} (h : s.Clocks) (hi : s.Inv) {j : Fin n} {isConnected : Bool}
    {now : Int} (hstep : s.step (.stamp j isConnected now) = some s') : s'.Clocks := by
  simp only [HealthState.step] at hstep
  split at hstep
  · rename_i hcall
    cases hstep
    set c : HealthCall n := if isConnected then .stamped (healthID (GoTime.unixMilli now))
      else .returned .disconnected with hc
    have hother : ∀ k, k ≠ j → (s.setCall j c).call k = s.call k := fun k hk =>
      Function.update_of_ne hk _ _
    have hself : Function.update s.clock j (GoTime.unixMilli now) j = GoTime.unixMilli now :=
      Function.update_self _ _ _
    have hne : ∀ k, ((s.setCall j c).call k).inProgress → k ≠ j := by
      rintro k hk rfl
      rw [setCall_call, hc] at hk
      cases isConnected <;> cases hk
    refine ⟨fun k cmdID hk => ?_, fun r hr => ?_, fun k l hk hl heq => ?_⟩
    · have hid : ((s.setCall j c).call k).cmdID = some cmdID := hk
      by_cases hkj : k = j
      · subst hkj
        rw [setCall_call, hc] at hid
        cases isConnected <;> cases hid
        exact congrArg healthID hself.symm
      · rw [hother k hkj] at hid
        exact (h.call k cmdID hid).trans (congrArg healthID (Function.update_of_ne hkj _ _).symm)
    · have horigin : r.origin ≠ j := by
        intro heq
        have hanswers := hi.answers r hr
        rw [heq, hcall] at hanswers
        cases hanswers
      exact (h.responses r hr).trans (congrArg healthID (Function.update_of_ne horigin _ _).symm)
    · have hkj := hne k hk
      have hlj := hne l hl
      simp only [Function.update_of_ne hkj, Function.update_of_ne hlj] at heq
      exact h.distinct k l (hother k hkj ▸ hk) (hother l hlj ▸ hl) heq
  · cases hstep

theorem Clocks.publish {s s' : HealthState n} (h : s.Clocks) {j : Fin n} {fields : JsonMap}
    (hstep : s.step (.publish j fields) = some s') : s'.Clocks := by
  simp only [HealthState.step] at hstep
  split at hstep
  · rename_i cmdID hcall
    cases hstep
    refine h.of_call (j := j) rfl (fun k hk => Function.update_of_ne hk _ _) ?_ ?_ fun r hr => ?_
    · rw [hcall]
      show ∀ cmdID', ((s.setCall j (.waiting cmdID)).call j).cmdID = some cmdID' → _
      rw [setCall_call]
      exact fun _ hid => hid
    · exact fun _ => .inl (by rw [hcall]; rfl)
    · rcases List.mem_append.1 hr with hr | hr
      · exact .inl hr
      · obtain rfl := List.mem_singleton.1 hr
        refine .inr ((jsonString_append fields "commandId" cmdID).trans (h.call j cmdID ?_))
        rw [hcall]
        rfl
  · cases hstep

theorem Clocks.step {s s' : HealthState n} {a : HealthAction n} (h : s.Clocks) (hi : s.Inv)
    (hok : s.apart a) (hstep : s.step a = some s') : s'.Clocks := by
  cases a
  case stamp => exact h.stamp hi hstep
  case publish => exact h.publish hstep
  case register j =>
    simp only [HealthState.step] at hstep
    split at hstep
    · rename_i hcall
      cases hstep
      exact h.setCall rfl rfl rfl (fun _ hid => hcall ▸ hid) fun _ => .inr (of_decide_eq_true hok)
    · cases hstep
  case timeout =>
    simp only [HealthState.step] at hstep
    split at hstep
    · rename_i hcall
      cases hstep
      exact h.setCall rfl rfl rfl (fun _ hid => hcall ▸ hid) fun _ => .inl (by rw [hcall]; rfl)
    · cases hstep
  case receive | expire =>
    simp only [HealthState.step] at hstep
    split at hstep
    · cases hstep
      exact h.setCall rfl rfl rfl nofun nofun
    · cases hstep
  case lookup =>
    simp only [HealthState.step] at hstep
    split at hstep
    · cases hstep
      unfold lookUp
      split
      · exact h.of_same rfl rfl rfl
      · exact h.markHandled _
    · cases hstep
  case lookupUnknown =>
    simp only [HealthState.step, Option.ite_none_right_eq_some, Option.some.injEq] at hstep
    rwa [← hstep.2]
  case send =>
    simp only [HealthState.step] at hstep
    split at hstep
    · split at hstep
      · cases hstep
        refine Clocks.markHandled ?_ _
        exact h.of_same rfl rfl rfl
      · cases hstep
    · cases hstep

/-- No action concerns a call that has returned. -/
theorem returned_step {s s' : HealthState n} {j : Fin n} {b : HealthResult (Fin n)} {a : HealthAction n}
    (h : s.call j = .returned b) (hstep : s.step a = some s') : s'.call j = .returned b := by
  have hset : ∀ {k c}, (∀ b, s.call k ≠ .returned b) → (s.setCall k c).call j = .returned b := by
    intro k c hk
    have hne : j ≠ k := by
      rintro rfl
      exact hk b h
    exact (Function.update_of_ne hne _ _).trans h
  cases a
  case stamp | register | publish | timeout | expire =>
    simp only [step] at hstep
    split at hstep
    · rename_i hcall
      cases hstep
      exact hset fun b hb => nomatch hcall.symm.trans hb
    · cases hstep
  case receive =>
    simp only [step] at hstep
    split at hstep
    · rename_i hcall _
      cases hstep
      exact hset fun b hb => nomatch hcall.symm.trans hb
    · cases hstep
  case lookup =>
    simp only [step] at hstep
    split at hstep
    · cases hstep
      unfold lookUp
      split
      · exact h
      · rwa [markHandled_call]
    · cases hstep
  case lookupUnknown =>
    simp only [step, Option.ite_none_right_eq_some, Option.some.injEq] at hstep
    rwa [← hstep.2]
  case send =>
    simp only [step] at hstep
    split at hstep
    · split at hstep
      · cases hstep
        rwa [markHandled_call]
      · cases hstep
    · cases hstep

theorem Inv.matched {s : HealthState n} (h : s.Inv) : s.Matched := by
  refine ⟨fun j hj => ?_, fun j r hj => ?_, fun j a s' hj hreach => ?_, fun hsending => ?_,
    fun hdone cmdID => ?_⟩
  · obtain ⟨p, hat, hfits⟩ := h.place j
    rw [hj] at hfits
    cases hcall : s.call j with
    | waiting cmdID =>
      rw [hcall] at hfits
      rcases hfits with ⟨-, hfalse⟩ | ⟨r, rfl⟩
      · cases hfalse
      · exact .inr ⟨cmdID, r, rfl, hat.ch, hat.own r (.inr rfl)⟩
    | returned a =>
      rw [hcall] at hfits
      cases a with
      | data r => exact .inl ⟨r, rfl, hfits.2⟩
      | timedOut => cases hfits.2
      | disconnected => cases hfits.2
    | _ =>
      rw [hcall] at hfits
      cases hfits.2
  · obtain ⟨p, -, hfits⟩ := h.place j
    rw [hj] at hfits
    exact hfits.2
  · exact hreach.invariant hj fun s a s' h _ hstep => returned_step h hstep
  · obtain ⟨⟨c, r⟩, hsending⟩ := Option.isSome_iff_exists.1 hsending
    obtain ⟨-, hempty, -⟩ := h.sending_spec hsending
    simp [HealthState.step, hsending, hempty]
  · rcases hentry : s.pending cmdID with _ | j
    · rfl
    · obtain ⟨p, hat, hfits⟩ := h.place j
      obtain rfl := (hat.pending cmdID).1 hentry
      rcases hdone j with hcall | ⟨a, hcall⟩
      · rw [hcall] at hfits
        cases hfits.1
      · rw [hcall] at hfits
        cases a with
        | timedOut => exact absurd rfl (hfits.1 cmdID)
        | data r => cases hfits.1
        | disconnected => cases hfits.1

/-- In every state of a run whose calls in progress have read different milliseconds, whose responses come
while no other call has the reading of the one they answer, and whose calls take no timer while a response
is in their channel, the health requests are matched one to one. -/
theorem health_requests_matched {s : HealthState n} (h : Reaches (fun s a => s.apart a) start s) :
    s.Matched := by
  have hinv : s.Inv ∧ s.Clocks := by
    refine h.invariant (I := fun s => s.Inv ∧ s.Clocks) ⟨inv_start, clocks_start⟩ ?_
    rintro s a s' ⟨hinv, hclocks⟩ hok hstep
    exact ⟨hinv.step hclocks hok hstep, hclocks.step hinv hok hstep⟩
  exact hinv.1.matched

/-- Whose response a call has returned. -/
def gotResponseTo (s : HealthState n) (j : Fin n) : Option (Fin n) :=
  match s.call j with
  | .returned (.data r) => some r.origin
  | _ => none

/-- Two calls a millisecond apart; the response to the second comes first, and once more later. -/
theorem health_requests_matched_two :
    ∃ s : HealthState 2, s.gotResponseTo 0 = some 0 ∧ s.gotResponseTo 1 = some 1 ∧ s.Matched := by
  let actions : List (HealthAction 2) := [.stamp 0 true 0, .stamp 1 true 1000000, .register 0,
    .register 1, .publish 0 [], .publish 1 [], .lookup 1, .send, .receive 1, .lookup 0, .send, .lookup 1,
    .receive 0]
  have hrun : (runIf step (fun s a => s.apart a) actions start).map
      (fun s => (s.gotResponseTo 0, s.gotResponseTo 1)) = some (some 0, some 1) := by decide +kernel
  obtain ⟨s, hs, hgot⟩ := Option.map_eq_some_iff.1 hrun
  obtain ⟨h0, h1⟩ := Prod.mk.inj hgot
  exact ⟨s, h0, h1, health_requests_matched (reaches_of_runIf hs)⟩

/-- Two calls in the same millisecond: the second gets the response to the first. -/
theorem health_responses_can_be_swapped :
    ¬ ∀ (n : Nat) (s : HealthState n), Reaches (fun _ _ => True) start s → s.Matched := by
  intro h
  let actions : List (HealthAction 2) := [.stamp 0 true 0, .stamp 1 true 0, .register 0, .register 1,
    .publish 0 [], .publish 1 [], .lookup 0, .send, .receive 1]
  have hrun : (runIf step (fun _ _ => True) actions start).map (gotResponseTo · 1) = some (some 0) := by
    decide +kernel
  obtain ⟨s, hs, hgot⟩ := Option.map_eq_some_iff.1 hrun
  have hown := (h 2 s (reaches_of_runIf hs)).own 1
  unfold gotResponseTo at hgot
  split at hgot
  · rename_i r hcall
    have horigin : r.origin = 0 := Option.some.inj hgot
    rw [hown r hcall] at horigin
    cases horigin
  · cases hgot

end

end HealthState

end GbcVenue
