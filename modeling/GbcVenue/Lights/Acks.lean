import GbcVenue.Interleaving.Guarded
import GbcVenue.Lights.MqttClient

/-!
# Acks and newer commands

`handleMessage` reads no command id, so an ack settles its tables whatever has been issued since.
Here the messages to the device are numbered as they are issued, and the ack of any of them can come
at any time, any number of times. `acks_respect_newer`: no ack takes back a newer command as long as
every sync says what the cache says when it is published, and the ack of an overtaken message comes only
after that of the newest one, and, for a command, if the newest asks for the same state.
-/

namespace GbcVenue

open Interleaving MqttClient

namespace MqttClient

/-- The ack of a message. -/
def ackOf : DownMessage → UpMessage
  | .set commandID tableID lightState => .ack commandID tableID lightState
  | .sync commandID _ => .syncAck commandID

/-- The state that a message asks of a table, if it is about the table. -/
def asks (t : TableNo) : DownMessage → Option LightState
  | .set _ tableID lightState => if Addresses tableID t then some lightState else none
  | .sync _ tables => (tables.find? fun table => table.1 = (t : Int)).map Prod.snd

/-- A light that the ack of a message leaves as it is. -/
def SettledFor (status : LightStatus) : DownMessage → Prop
  | .set _ _ lightState => status = statusOf lightState
  | .sync .. => status = .on ∨ status = .off

/-- A full sync changes a light only to the state that the light asks for. -/
theorem settle_eq (status : LightStatus) :
    Tables.settle status = status ∨ Tables.settle status = statusOf (toldState status) := by
  cases status <;> first | exact .inl rfl | exact .inr rfl

end MqttClient

/-- The cache, the snapshots that are taken but not published yet, the messages issued so far, and the
acks handled so far, which no code reads: the number of the message and how many were issued by then. -/
structure Traffic where
  tables : Tables
  snapshots : List (List TableState)
  issued : List DownMessage
  acked : List (Nat × Nat)

namespace Traffic

/-- The state after a boot. -/
def start (bookings : Int → Option CurrentBooking) : Traffic :=
  ⟨Tables.hydrated bookings, [], [], []⟩

inductive Action
  | call (call : LightCall) (now : Int)
  | snapshot
  | publishSync (k : Nat) (now : Int)
  | ack (n : Nat)

/-- A call writes the cache and issues its command, a sync is issued when it is published, and an
ack of message `n` does to the cache what `handleMessage` does. -/
def step (s : Traffic) : Action → Option Traffic
  | .call call now => some
      { s with
        tables := (call.cacheWrite.apply s.tables).1
        issued := s.issued ++ (publishRelayCommand true (call.command now)).toList }
  | .snapshot => some { s with snapshots := s.snapshots ++ [s.tables.getAll] }
  | .publishSync k now => s.snapshots[k]?.map fun snapshot =>
      { s with
        snapshots := s.snapshots.eraseIdx k
        issued := s.issued ++ [publishFullStateSync now snapshot] }
  | .ack n => s.issued[n]?.map fun msg =>
      { s with
        tables := confirmed s.tables (ackOf msg)
        acked := s.acked ++ [(n, s.issued.length)] }

/-- The light of a table in the cache. -/
def light (s : Traffic) (t : TableNo) : LightStatus := (s.tables.get t).lightStatus

/-- A message for the table was issued after message `n`. -/
def Overtaken (s : Traffic) (n : Nat) (t : TableNo) : Prop :=
  ∃ msg ∈ s.issued.drop (n + 1), asks t msg ≠ none

/-- The state that the last message for a table asks of it. -/
def lastAsked (s : Traffic) (t : TableNo) : Option LightState :=
  (s.issued.filterMap (asks t)).getLast?

/-- No command for the table was issued after the first `k` messages. -/
def NoCommandSince (s : Traffic) (k : Nat) (t : TableNo) : Prop :=
  ∀ commandID tableID lightState, .set commandID tableID lightState ∈ s.issued.drop k →
    ¬ Addresses tableID t

/-- An ack of the message that was the newest one for the table was handled, and no command for the
table was issued since. A table with a booking at the boot waits for no ack before its first command. -/
def Answered (bookings : Int → Option CurrentBooking) (s : Traffic) (t : TableNo) : Prop :=
  (bookings t).isSome ∧ s.NoCommandSince 0 t ∨
    ∃ n k, (n, k) ∈ s.acked ∧ (∃ msg, s.issued[n]? = some msg ∧ asks t msg ≠ none) ∧
      (∀ msg ∈ (s.issued.take k).drop (n + 1), asks t msg = none) ∧ s.NoCommandSince k t

/-- A sync is published while it says of every table what the cache says. The ack of a message that a
newer one has overtaken comes when the table has been answered, and that of a command only if the newest
message for the table asks for the same state. -/
def InTurn (bookings : Int → Option CurrentBooking) (s : Traffic) : Action → Prop
  | .call .. | .snapshot => True
  | .publishSync k now => ∀ snapshot, s.snapshots[k]? = some snapshot → ∀ t state,
      asks t (publishFullStateSync now snapshot) = some state → toldState (s.light t) = state
  | .ack n => ∀ msg, s.issued[n]? = some msg → ∀ t, asks t msg ≠ none → s.Overtaken n t →
      s.Answered bookings t ∧
        ∀ commandID tableID state, msg = .set commandID tableID state → s.lastAsked t = some state

/-- Snapshots and syncs are about every table, the cache says what the last message for a table asks
of it, and the light of a table that has been answered is settled. -/
structure Inv (bookings : Int → Option CurrentBooking) (s : Traffic) : Prop where
  numbered : ∀ t : TableNo, (s.tables.get t).tableID = t
  snapshots : ∀ snapshot ∈ s.snapshots, ∀ t : TableNo, ∃ table ∈ snapshot, table.tableID = t
  syncs : ∀ commandID tables, .sync commandID tables ∈ s.issued →
    ∀ t, asks t (.sync commandID tables) ≠ none
  last : ∀ t state, s.lastAsked t = some state → toldState (s.light t) = state
  lit : ∀ t, s.light t ≠ .empty
  acked : ∀ n k, (n, k) ∈ s.acked → n < k ∧ k ≤ s.issued.length
  answered : ∀ t, s.Answered bookings t → s.light t = statusOf (toldState (s.light t))

variable {bookings : Int → Option CurrentBooking} {s s' : Traffic} {n : Nat} {t : TableNo}
  {msg : DownMessage}

theorem inv_start (bookings : Int → Option CurrentBooking) : (start bookings).Inv bookings where
  numbered t := Tables.tableID_hydrated bookings t.2
  snapshots _ h := absurd h List.not_mem_nil
  syncs _ _ h := absurd h List.not_mem_nil
  last _ _ h := by cases h
  lit t h := by
    rcases Tables.light_hydrated bookings t.2 with hlight | hlight <;>
      exact absurd (hlight.symm.trans h) (by decide)
  acked _ _ h := absurd h List.not_mem_nil
  answered t h := by
    rcases h with ⟨hbooked, -⟩ | ⟨_, _, hmem, -⟩
    · rw [light, start, Tables.light_hydrated_booked hbooked t.2]
      rfl
    · exact absurd hmem List.not_mem_nil

/-- A message that is no command for the table leaves it answered only if it was. -/
theorem answered_of_append {tables : Tables} {snapshots : List (List TableState)}
    (hacked : ∀ n k, (n, k) ∈ s.acked → n < k ∧ k ≤ s.issued.length)
    (h : Answered bookings ⟨tables, snapshots, s.issued ++ [msg], s.acked⟩ t) :
    s.Answered bookings t := by
  have hsince : ∀ k ≤ s.issued.length,
      NoCommandSince ⟨tables, snapshots, s.issued ++ [msg], s.acked⟩ k t → s.NoCommandSince k t := by
    intro k hk hnone commandID tableID lightState hmem
    refine hnone commandID tableID lightState ?_
    rw [List.drop_append_of_le_length hk]
    exact List.mem_append_left _ hmem
  rcases h with ⟨hbooked, hnone⟩ | ⟨n, k, hmem, ⟨m, hm, hasks⟩, hnewest, hnone⟩
  · exact .inl ⟨hbooked, hsince 0 (Nat.zero_le _) hnone⟩
  · obtain ⟨hn, hk⟩ := hacked n k hmem
    dsimp only at hm hnewest
    rw [List.getElem?_append_left (hn.trans_le hk)] at hm
    rw [List.take_append_of_le_length hk] at hnewest
    exact .inr ⟨n, k, hmem, ⟨m, hm, hasks⟩, hnewest, hsince k hk hnone⟩

/-- A command for the table leaves it unanswered. -/
theorem not_answered_of_command {tables : Tables} {snapshots : List (List TableState)}
    (hacked : ∀ n k, (n, k) ∈ s.acked → n < k ∧ k ≤ s.issued.length) {commandID : String}
    {tableID : Int} {lightState : LightState} (haddr : Addresses tableID t) :
    ¬ Answered bookings
      ⟨tables, snapshots, s.issued ++ [.set commandID tableID lightState], s.acked⟩ t := by
  have hlast : ∀ k ≤ s.issued.length, ¬ NoCommandSince
      ⟨tables, snapshots, s.issued ++ [.set commandID tableID lightState], s.acked⟩ k t := by
    intro k hk hnone
    refine hnone commandID tableID lightState ?_ haddr
    rw [List.drop_append_of_le_length hk]
    exact List.mem_append_right _ (List.mem_singleton.2 rfl)
  rintro (⟨-, hnone⟩ | ⟨n, k, hmem, -, -, hnone⟩)
  · exact hlast 0 (Nat.zero_le _) hnone
  · exact hlast k (hacked n k hmem).2 hnone

theorem lastAsked_append (s : Traffic) (msg : DownMessage) (t : TableNo) :
    ((s.issued ++ [msg]).filterMap (asks t)).getLast? = (asks t msg).or (s.lastAsked t) := by
  rw [List.filterMap_append, lastAsked]
  cases h : asks t msg <;> simp [h]

/-- The message for a table that no newer one has overtaken is the last one for it. -/
theorem lastAsked_of_not_overtaken {state : LightState} (hmsg : s.issued[n]? = some msg)
    (hasks : asks t msg = some state) (hlate : ¬ s.Overtaken n t) : s.lastAsked t = some state := by
  obtain ⟨hn, rfl⟩ := List.getElem?_eq_some_iff.1 hmsg
  have hnone : (s.issued.drop (n + 1)).filterMap (asks t) = [] := by
    rw [List.filterMap_eq_nil_iff]
    intro m hm
    by_contra h
    exact hlate ⟨m, hm, h⟩
  rw [lastAsked, ← List.take_append_drop n s.issued, List.drop_eq_getElem_cons hn,
    List.filterMap_append, List.filterMap_cons, hasks, hnone, List.getLast?_append,
    List.getLast?_singleton, Option.some_or]

/-- An ack of a message that is not about the table leaves its light alone. -/
theorem Inv.light_ack_elsewhere (h : s.Inv bookings) (hmsg : s.issued[n]? = some msg)
    (hasks : asks t msg = none) : confirmedLight t (s.light t) (ackOf msg) = s.light t := by
  cases msg with
  | set commandID tableID lightState =>
    have hnot : ¬ Addresses tableID t := by
      intro haddr
      rw [asks, if_pos haddr] at hasks
      cases hasks
    exact if_neg hnot
  | sync commandID tables =>
    exact absurd hasks (h.syncs commandID tables (List.mem_of_getElem? hmsg) t)

theorem light_ack_settled (h : SettledFor (s.light t) msg) :
    confirmedLight t (s.light t) (ackOf msg) = s.light t := by
  cases msg with
  | set commandID tableID lightState =>
    rw [ackOf, confirmedLight]
    split
    · exact h.symm
    · rfl
  | sync commandID tables =>
    rw [ackOf, confirmedLight]
    rcases h with h | h <;> rw [h] <;> rfl

/-- A late ack finds its table settled. -/
theorem Inv.settledFor (h : s.Inv bookings) (hok : s.InTurn bookings (.ack n))
    (hmsg : s.issued[n]? = some msg) (hasks : asks t msg ≠ none) (hlate : s.Overtaken n t) :
    SettledFor (s.light t) msg := by
  obtain ⟨hanswered, hsame⟩ := hok msg hmsg t hasks hlate
  have hsettled := h.answered t hanswered
  cases msg with
  | set commandID tableID lightState =>
    rw [SettledFor, hsettled, h.last t lightState (hsame commandID tableID lightState rfl)]
  | sync commandID tables =>
    rw [SettledFor, hsettled]
    cases toldState (s.light t)
    · exact .inl rfl
    · exact .inr rfl

/-- An ack leaves a light alone, or gives it the state that the last message for the table asks. -/
theorem Inv.light_ack (h : s.Inv bookings) (hok : s.InTurn bookings (.ack n))
    (hmsg : s.issued[n]? = some msg) (t : TableNo) :
    confirmedLight t (s.light t) (ackOf msg) = s.light t ∨
      ∃ state, ¬ s.Overtaken n t ∧ asks t msg = some state ∧ toldState (s.light t) = state ∧
        confirmedLight t (s.light t) (ackOf msg) = statusOf state := by
  rcases hasks : asks t msg with _ | state
  · exact .inl (h.light_ack_elsewhere hmsg hasks)
  by_cases hlate : s.Overtaken n t
  · exact .inl (light_ack_settled (h.settledFor hok hmsg (by simp [hasks]) hlate))
  have htold : toldState (s.light t) = state :=
    h.last t state (lastAsked_of_not_overtaken hmsg hasks hlate)
  cases msg with
  | set commandID tableID lightState =>
    rw [asks] at hasks
    split at hasks
    · rename_i haddr
      cases hasks
      exact .inr ⟨_, hlate, rfl, htold, if_pos haddr⟩
    · cases hasks
  | sync commandID tables =>
    rcases settle_eq (s.light t) with hsame | hsettled
    · exact .inl hsame
    · exact .inr ⟨_, hlate, rfl, htold, by rw [← htold]; exact hsettled⟩

theorem Inv.call (h : s.Inv bookings) {call : LightCall} {now : Int}
    (hstep : s.step (.call call now) = some s') : s'.Inv bookings := by
  cases hstep
  refine ⟨fun t => (Tables.tableID_apply _ _ _).trans (h.numbered t), h.snapshots, ?_, ?_, ?_, ?_, ?_⟩
  · intro commandID tables hmem
    rcases List.mem_append.1 hmem with hmem | hmem
    · exact h.syncs commandID tables hmem
    · cases List.mem_singleton.1 hmem
  · intro t state hlast
    have hasked : (asks t (.set (call.command now).commandID call.tableID call.wants)).or
        (s.lastAsked t) = some state := (lastAsked_append s _ t).symm.trans hlast
    rw [asks] at hasked
    rw [light, light_after_write]
    by_cases haddr : Addresses call.tableID t
    · rw [if_pos haddr] at hasked ⊢
      cases hasked
      exact toldState_pendingOf _
    · rw [if_neg haddr] at hasked ⊢
      exact h.last t state hasked
  · intro t
    rw [light, light_after_write]
    split
    · cases call.wants <;> decide
    · exact h.lit t
  · intro n k hmem
    exact (h.acked n k hmem).imp_right fun hk => hk.trans (by simp)
  · intro t hanswered
    rw [light, light_after_write]
    by_cases haddr : Addresses call.tableID t
    · exact absurd hanswered (not_answered_of_command h.acked haddr)
    · rw [if_neg haddr]
      exact h.answered t (answered_of_append h.acked hanswered)

theorem Inv.snapshot (h : s.Inv bookings) (hstep : s.step .snapshot = some s') :
    s'.Inv bookings := by
  cases hstep
  refine ⟨h.numbered, ?_, h.syncs, h.last, h.lit, h.acked, h.answered⟩
  intro snapshot hmem t
  rcases List.mem_append.1 hmem with hmem | hmem
  · exact h.snapshots snapshot hmem t
  · rw [List.mem_singleton.1 hmem]
    refine ⟨s.tables.get t, ?_, h.numbered t⟩
    obtain ⟨t, h1, h4⟩ := t
    rw [Tables.getAll]
    obtain rfl | rfl | rfl | rfl : t = 1 ∨ t = 2 ∨ t = 3 ∨ t = 4 := by omega
    all_goals simp

/-- A published sync is about every table of its snapshot. -/
theorem asks_publishFullStateSync {now : Int} {snapshot : List TableState}
    (h : ∃ table ∈ snapshot, table.tableID = t) :
    asks t (publishFullStateSync now snapshot) ≠ none := by
  obtain ⟨table, hmem, ht⟩ := h
  rw [publishFullStateSync, asks, ne_eq, Option.map_eq_none_iff, List.find?_eq_none]
  intro hnone
  refine hnone (table.tableID, toldState table.lightStatus) (List.mem_map_of_mem hmem) ?_
  simpa using ht

theorem Inv.publishSync (h : s.Inv bookings) {k : Nat} {now : Int}
    (hok : s.InTurn bookings (.publishSync k now))
    (hstep : s.step (.publishSync k now) = some s') : s'.Inv bookings := by
  obtain ⟨snapshot, hsnapshot, rfl⟩ := Option.map_eq_some_iff.1 hstep
  refine ⟨h.numbered, fun _ hmem => h.snapshots _ (List.mem_of_mem_eraseIdx hmem), ?_, ?_, h.lit, ?_, ?_⟩
  · intro commandID tables hmem t
    rcases List.mem_append.1 hmem with hmem | hmem
    · exact h.syncs commandID tables hmem t
    · rw [List.mem_singleton.1 hmem]
      exact asks_publishFullStateSync (h.snapshots snapshot (List.mem_of_getElem? hsnapshot) t)
  · intro t state hlast
    rw [lastAsked, lastAsked_append, Option.or_eq_some_iff] at hlast
    rcases hlast with hasks | ⟨-, hlast⟩
    · exact hok snapshot hsnapshot t state hasks
    · exact h.last t state hlast
  · intro n k hmem
    exact (h.acked n k hmem).imp_right fun hk => hk.trans (by simp)
  · exact fun t hanswered => h.answered t (answered_of_append h.acked hanswered)

/-- The ack of the newest message for a table settles its light. -/
theorem light_ack_newest {state : LightState} (hlit : s.light t ≠ .empty)
    (hmsg : asks t msg = some state) :
    confirmedLight t (s.light t) (ackOf msg) =
      statusOf (toldState (confirmedLight t (s.light t) (ackOf msg))) := by
  cases msg with
  | set commandID tableID lightState =>
    rw [asks] at hmsg
    split at hmsg
    · rename_i haddr
      rw [ackOf, confirmedLight, if_pos haddr, toldState_statusOf]
    · cases hmsg
  | sync commandID tables =>
    rw [ackOf, confirmedLight]
    cases hlight : s.light t with
    | empty => exact absurd hlight hlit
    | _ => rfl

theorem Inv.ack (h : s.Inv bookings) (hok : s.InTurn bookings (.ack n))
    (hstep : s.step (.ack n) = some s') : s'.Inv bookings := by
  obtain ⟨msg, hmsg, rfl⟩ := Option.map_eq_some_iff.1 hstep
  have hn : n < s.issued.length := (List.getElem?_eq_some_iff.1 hmsg).1
  refine ⟨?_, h.snapshots, h.syncs, ?_, ?_, ?_, ?_⟩
  · intro t
    rw [get_confirmed]
    exact h.numbered t
  · intro t state hlast
    rw [light, get_confirmed]
    rcases h.light_ack hok hmsg t with hsame | ⟨state', -, -, htold, hlight⟩
    · exact (congrArg toldState hsame).trans (h.last t state hlast)
    · refine (congrArg toldState hlight).trans ?_
      rw [toldState_statusOf, ← htold]
      exact h.last t state hlast
  · intro t
    rw [light, get_confirmed]
    rcases h.light_ack hok hmsg t with hsame | ⟨state, -, -, -, hlight⟩
    · exact hsame.trans_ne (h.lit t)
    · exact hlight.trans_ne (by cases state <;> decide)
  · intro n' k' hmem
    rcases List.mem_append.1 hmem with hmem | hmem
    · exact h.acked n' k' hmem
    · cases List.mem_singleton.1 hmem
      exact ⟨hn, le_rfl⟩
  · intro t hanswered
    rw [light, get_confirmed]
    -- the table was answered before, or this ack is of the newest message for it
    have hold : s.Answered bookings t → confirmedLight t (s.light t) (ackOf msg) =
        statusOf (toldState (confirmedLight t (s.light t) (ackOf msg))) := by
      intro hbefore
      rcases h.light_ack hok hmsg t with hsame | ⟨state, -, -, -, hlight⟩
      · rw [hsame]
        exact h.answered t hbefore
      · rw [hlight, toldState_statusOf]
    rcases hanswered with hboot | ⟨n', k', hmem, hasked, hnewest, hnone⟩
    · exact hold (.inl hboot)
    · rcases List.mem_append.1 hmem with hmem | hmem
      · exact hold (.inr ⟨n', k', hmem, hasked, hnewest, hnone⟩)
      · cases List.mem_singleton.1 hmem
        obtain ⟨m, hm, hasks⟩ := hasked
        cases hmsg.symm.trans hm
        obtain ⟨state, hstate⟩ := Option.ne_none_iff_exists'.1 hasks
        exact light_ack_newest (h.lit t) hstate

theorem Inv.step (h : s.Inv bookings) {a : Action} (hok : s.InTurn bookings a)
    (hstep : s.step a = some s') : s'.Inv bookings := by
  cases a with
  | call call now => exact h.call hstep
  | snapshot => exact h.snapshot hstep
  | publishSync k now => exact h.publishSync hok hstep
  | ack n => exact h.ack hok hstep

theorem inv_of_reaches (h : GuardedReaches Traffic.step (InTurn bookings) (start bookings) s) :
    s.Inv bookings :=
  h.invariant (inv_start bookings) fun _ _ _ hs hok hstep => hs.step hok hstep

end Traffic

/-- While every sync is published with what the cache says and late acks come in turn, an ack changes a
light only to what the last message issued for the table asks, and leaves a pending light that a newer
message or the opposite state stands for. -/
theorem acks_respect_newer {bookings : Int → Option CurrentBooking} {s s' : Traffic} {n : Nat}
    {msg : DownMessage}
    (h : GuardedReaches Traffic.step (Traffic.InTurn bookings) (.start bookings) s)
    (hok : s.InTurn bookings (.ack n)) (hmsg : s.issued[n]? = some msg)
    (hstep : s.step (.ack n) = some s')
    (t : TableNo) :
    (s'.light t ≠ s.light t → ¬ s.Overtaken n t ∧
      ∃ state, asks t msg = some state ∧ s'.light t = statusOf state) ∧
    ∀ state, s.light t = pendingOf state → s.Overtaken n t ∨ asks t msg ≠ some state →
      s'.light t = s.light t := by
  rw [Traffic.step, hmsg] at hstep
  cases hstep
  rw [Traffic.light, get_confirmed]
  rcases (Traffic.inv_of_reaches h).light_ack hok hmsg t with
    hsame | ⟨asked, hlast, hasks, htold, hlight⟩
  · exact ⟨fun hne => absurd hsame hne, fun _ _ _ => hsame⟩
  · refine ⟨fun _ => ⟨hlast, asked, hasks, hlight⟩, ?_⟩
    intro state hpending hstale
    rw [hpending, toldState_pendingOf] at htold
    rcases hstale with hlate | hopposite
    · exact absurd hlate hlast
    · exact absurd (htold ▸ hasks) hopposite

/-- The light of table 1 is switched on twice, and the ack of the first command comes after that of the
second. -/
theorem acks_respect_newer_on : ∃ s s' : Traffic, s.Overtaken 0 tableOne ∧
    s.step (.ack 0) = some s' ∧ s.light tableOne = .on ∧ s'.light tableOne = s.light tableOne := by
  let call : LightCall := .setLight (some tableOne) .on
  have hreach : ∃ s, GuardedReaches Traffic.step (Traffic.InTurn fun _ => none)
      (.start fun _ => none) s ∧ s.light tableOne = .on ∧ s.acked = [(1, 2)] ∧
        ∃ first second, s.issued = [.set first 1 .on, .set second 1 .on] := by
    refine ⟨_, .tail (.tail (.single ⟨.call call 0, trivial, rfl⟩)
      ⟨.call call 1000000, trivial, rfl⟩) ⟨.ack 1, ?_, rfl⟩, rfl, rfl, _, _, rfl⟩
    rintro msg - t - ⟨later, hlater, -⟩
    exact absurd hlater List.not_mem_nil
  obtain ⟨s, hreach, hlight, hacked, first, second, hissued⟩ := hreach
  have hmsg : s.issued[0]? = some (.set first 1 .on) := by
    rw [hissued]
    rfl
  have hlate : s.Overtaken 0 tableOne := by
    rw [Traffic.Overtaken, hissued]
    exact ⟨_, List.mem_singleton.2 rfl, nofun⟩
  have hturn : s.InTurn (fun _ => none) (.ack 0) := by
    rintro msg hmsg' t hasks -
    cases hmsg.symm.trans hmsg'
    have haddr : Addresses 1 t := by
      by_contra hnot
      exact hasks (if_neg hnot)
    have hasked : ∀ id, asks t (.set id 1 .on) = some .on := fun _ => if_pos haddr
    refine ⟨.inr ⟨1, 2, by rw [hacked]; exact List.mem_singleton.2 rfl, ?_, ?_, ?_⟩, ?_⟩
    · rw [hissued]
      exact ⟨_, rfl, by rw [hasked]; exact Option.some_ne_none _⟩
    · rw [hissued]
      exact fun _ h => absurd h List.not_mem_nil
    · rw [Traffic.NoCommandSince, hissued]
      exact fun _ _ _ h => absurd h List.not_mem_nil
    · rintro _ _ _ ⟨⟩
      rw [Traffic.lastAsked, hissued]
      simp [hasked]
  obtain ⟨s', hstep⟩ : ∃ s', s.step (.ack 0) = some s' := ⟨_, by rw [Traffic.step, hmsg]; rfl⟩
  refine ⟨s, s', hlate, hstep, hlight, ?_⟩
  by_contra hne
  exact ((acks_respect_newer hreach hturn hmsg hstep tableOne).1 hne).1 hlate

/-- Without that condition it fails: a light is switched on and off again, and the late ack of the
first command turns PENDING-OFF into ON. -/
theorem acks_can_override_newer :
    ¬ ∀ (bookings : Int → Option CurrentBooking) (s s' : Traffic) (n : Nat) (msg : DownMessage),
      GuardedReaches Traffic.step (fun _ _ => True) (.start bookings) s →
      s.issued[n]? = some msg → s.step (.ack n) = some s' → ∀ t,
      (s'.light t ≠ s.light t → ¬ s.Overtaken n t ∧
        ∃ state, asks t msg = some state ∧ s'.light t = statusOf state) ∧
      ∀ state, s.light t = pendingOf state → s.Overtaken n t ∨ asks t msg ≠ some state →
        s'.light t = s.light t := by
  intro hclaim
  have hreach : ∃ s, GuardedReaches Traffic.step (fun _ _ => True) (.start fun _ => none) s ∧
      s.light tableOne = .pendingOff ∧ ∃ on off, s.issued = [on, off] ∧
        asks tableOne on = some .on ∧ asks tableOne off = some .off ∧
        confirmedLight tableOne .pendingOff (ackOf on) = .on :=
    ⟨_, .tail (.single ⟨.call (.setLight (some tableOne) .on) 0, trivial, rfl⟩)
      ⟨.call (.setLight (some tableOne) .off) 1000000, trivial, rfl⟩, rfl, _, _, rfl, rfl, rfl, rfl⟩
  obtain ⟨s, hreach, hpending, on, off, hissued, hon, hoff, hack⟩ := hreach
  have hmsg : s.issued[0]? = some on := by
    rw [hissued]
    rfl
  have hstep : s.step (.ack 0) = some { s with
      tables := confirmed s.tables (ackOf on), acked := s.acked ++ [(0, s.issued.length)] } := by
    rw [Traffic.step, hmsg]
    rfl
  have hlate : s.Overtaken 0 tableOne := by
    rw [Traffic.Overtaken, hissued]
    exact ⟨off, List.mem_singleton.2 rfl, by simp [hoff]⟩
  have hsame := (hclaim _ s _ 0 on hreach hmsg hstep tableOne).2 .off hpending (.inl hlate)
  rw [Traffic.light, get_confirmed, hpending] at hsame
  rw [Traffic.light] at hpending
  simp only [hpending, hack] at hsame
  cases hsame

end GbcVenue
