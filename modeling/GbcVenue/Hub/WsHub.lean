import GbcVenue.Backend.World
import GbcVenue.Interleaving.Guarded

/-!
# The WebSocket hub

`backend/internal/hub/ws_hub.go`, with what feeds it: the cache and the two channels. `σ` is what
`GetAll` of the cache answers and `τ` a timeline. Every connection has the goroutine that makes its
`INITIAL_STATE` and the write pump, and the hub has one goroutine; an `Action` is one step of one of
them. A broadcast is one step: it runs under the read lock that registration takes for writing, and
a turn of its loop touches one client's queue only, so that what happens to that queue meanwhile can
be put before or after it.
-/

namespace GbcVenue.Hub

open Interleaving

/-- What the hub sends to a browser. -/
inductive Message (σ τ : Type)
  | initialState (serverTime : String) (tables : σ) (timeline : Option τ)
  | tablesUpdated (tables : σ)
  | timelineUpdated (timeline : τ)
  deriving DecidableEq

/-- How far `sendInitialState` has come. -/
inductive Initial (σ τ : Type)
  | begun
  | tablesRead (serverTime : String) (tables : σ)
  | marshalled (data : Message σ τ)
  | over
  deriving DecidableEq

/-- Where `HandleConn` is: before `unregister`, before `cancel`, or returned. -/
inductive Connection
  | registered
  | unregistered
  | cancelled
  deriving DecidableEq

/-- A `Client`, with its goroutines and what has been written to its connection. -/
structure Client (σ τ : Type) where
  role : String
  send : Chan (Message σ τ)
  initial : Initial σ τ
  connection : Connection
  pumping : Bool
  wire : List (Message σ τ)
  deriving DecidableEq

/-- The hub and its surroundings: `snapshots` are those that mutating calls have taken and not sent
yet, `received` are those that the hub has taken from the channel, and `hand` is the message it is
about to broadcast. -/
structure State (σ τ : Type) where
  cache : σ
  snapshots : List σ
  tablesCh : Chan σ
  timelineCh : Chan τ
  received : List σ
  hand : Option (Message σ τ)
  clients : List (Client σ τ)
  deriving DecidableEq

/-- A step of the goroutines of one client. -/
inductive ClientAction (τ : Type)
  | readTables (now : Int)
  | readTimeline (answer : Option τ)
  | sendInitial
  | abandonInitial
  | write
  | failWrite
  | stopPump
  | unregister
  | cancel

inductive Action (σ τ : Type)
  | mutate (tables : σ)
  | takeSnapshot
  | sendSnapshot (k : Nat)
  | sendTimeline (timeline : τ)
  | receiveTables
  | receiveTimeline
  | broadcast
  | connect (role : String)
  | client (i : Nat) (a : ClientAction τ)

def sendBufSize : Nat := 32

variable {σ τ : Type}

/-- The roles that `sendInitialState` and the broadcasts test for. -/
def isStaff (role : String) : Bool := role = "admin" ∨ role = "staff"

/-- The tables that a message replaces the browser's by. -/
def Message.tables : Message σ τ → Option σ
  | .initialState _ tables _ => some tables
  | .tablesUpdated tables => some tables
  | .timelineUpdated _ => none

/-- Whether a message holds bookings of the timeline. -/
def Message.hasTimeline : Message σ τ → Bool
  | .initialState _ _ timeline => timeline.isSome
  | .tablesUpdated _ => false
  | .timelineUpdated _ => true

/-- A new client, registered (`ws_hub.go:96-105`). -/
def Client.new (role : String) : Client σ τ :=
  ⟨role, ⟨sendBufSize, []⟩, .begun, .registered, true, []⟩

/-- One turn of the loop of a broadcast; the context of a registered client is not done. -/
def Client.offer (c : Client σ τ) (data : Message σ τ) : Client σ τ :=
  if ¬ isStaff c.role then c else { c with send := c.send.trySend data }

/-- The loop of a broadcast over the registered clients. -/
def offerAll (data : Message σ τ) (clients : List (Client σ τ)) : List (Client σ τ) :=
  clients.map fun c => if c.connection = .registered then c.offer data else c

/-- Go `broadcastToAll` (`ws_hub.go:173-197`). -/
def broadcastToAll (tables : σ) (clients : List (Client σ τ)) : List (Client σ τ) :=
  offerAll (.tablesUpdated tables) clients

/-- Go `broadcastTimeline` (`ws_hub.go:199-221`). -/
def broadcastTimeline (timeline : τ) (clients : List (Client σ τ)) : List (Client σ τ) :=
  offerAll (.timelineUpdated timeline) clients

/-- One step of a client, while `GetAll` answers `tables`. The timeline is read by staff only, and the
read may fail. `INITIAL_STATE` waits for room in the queue; the other case of that `select` is taken
only when the context is done. -/
def Client.step (tables : σ) (c : Client σ τ) : ClientAction τ → Option (Client σ τ)
  | .readTables now => match c.initial with
    | .begun => some { c with initial := .tablesRead (GoTime.formatRFC3339 now) tables }
    | _ => none
  | .readTimeline answer => match c.initial with
    | .tablesRead serverTime tables =>
      let timeline := if isStaff c.role then answer else none
      some { c with initial := .marshalled (.initialState serverTime tables timeline) }
    | _ => none
  | .sendInitial => match c.initial with
    | .marshalled data =>
      if c.send.buf.length < c.send.cap then
        some { c with send := c.send.trySend data, initial := .over }
      else none
    | _ => none
  | .abandonInitial => match c.initial, c.connection with
    | .marshalled _, .cancelled => some { c with initial := .over }
    | _, _ => none
  | .write => match c.pumping, c.send.buf with
    | true, msg :: rest =>
      some { c with send := { c.send with buf := rest }, wire := c.wire ++ [msg] }
    | _, _ => none
  | .failWrite => match c.pumping, c.send.buf with
    | true, _ :: rest => some { c with send := { c.send with buf := rest }, pumping := false }
    | _, _ => none
  | .stopPump => if c.pumping then some { c with pumping := false } else none
  | .unregister => match c.connection with
    | .registered => some { c with connection := .unregistered }
    | _ => none
  | .cancel => match c.connection with
    | .unregistered => some { c with connection := .cancelled }
    | _ => none

namespace State

/-- A hub that has just been made, with no client; the channels as `main.go:95-98` makes them. -/
def start (cache : σ) : State σ τ := ⟨cache, [], ⟨16, []⟩, ⟨8, []⟩, [], none, []⟩

/-- One step. The hub's `select` takes from a channel only between two broadcasts. -/
def step (s : State σ τ) : Action σ τ → Option (State σ τ)
  | .mutate tables => some { s with cache := tables }
  | .takeSnapshot => some { s with snapshots := s.snapshots ++ [s.cache] }
  | .sendSnapshot k => (s.snapshots[k]?).map fun tables => { s with
      snapshots := s.snapshots.eraseIdx k
      tablesCh := s.tablesCh.trySend tables }
  | .sendTimeline timeline => some { s with timelineCh := s.timelineCh.trySend timeline }
  | .receiveTables => match s.hand, s.tablesCh.buf with
    | none, tables :: rest => some { s with
        tablesCh := { s.tablesCh with buf := rest }
        received := s.received ++ [tables]
        hand := some (.tablesUpdated tables) }
    | _, _ => none
  | .receiveTimeline => match s.hand, s.timelineCh.buf with
    | none, timeline :: rest => some { s with
        timelineCh := { s.timelineCh with buf := rest }
        hand := some (.timelineUpdated timeline) }
    | _, _ => none
  | .broadcast => match s.hand with
    | some (.tablesUpdated tables) => some { s with
        hand := none
        clients := broadcastToAll tables s.clients }
    | some (.timelineUpdated timeline) => some { s with
        hand := none
        clients := broadcastTimeline timeline s.clients }
    | _ => none
  | .connect role => some { s with clients := s.clients ++ [.new role] }
  | .client i a => (s.clients[i]?).bind fun c =>
    (c.step s.cache a).map fun c' => { s with clients := s.clients.set i c' }

end State

/-- The states that steps of the kind `ok` lead to from a hub that has just been made. -/
def Reaches (ok : State σ τ → Action σ τ → Prop) (cache : σ) : State σ τ → Prop :=
  GuardedReaches State.step ok (.start cache)

/-! ## What a step does -/

/-- The messages put into the queue of a client and not lost on the way, oldest first. -/
def Client.queued (c : Client σ τ) : List (Message σ τ) := c.wire ++ c.send.buf

theorem trySend_buf {α : Type} (c : Chan α) (a : α) :
    (c.trySend a).buf = c.buf ∨ (c.trySend a).buf = c.buf ++ [a] := by
  unfold Chan.trySend
  split
  · exact .inr rfl
  · exact .inl rfl

theorem trySend_room {α : Type} {c : Chan α} (a : α) (h : c.buf.length < c.cap) :
    c.trySend a = { c with buf := c.buf ++ [a] } := if_pos h

theorem Client.offer_queued (c : Client σ τ) (data : Message σ τ) :
    (c.offer data).queued = c.queued ∨
      isStaff c.role ∧ (c.offer data).queued = c.queued ++ [data] := by
  unfold Client.offer
  split
  · exact .inl rfl
  · rename_i hrole
    rcases trySend_buf c.send data with h | h
    · exact .inl (by simp [queued, h])
    · exact .inr ⟨not_not.1 hrole, by simp [queued, h]⟩

theorem Client.offer_eq (c : Client σ τ) (data : Message σ τ) :
    (c.offer data).role = c.role ∧ (c.offer data).initial = c.initial ∧
      (c.offer data).connection = c.connection := by
  unfold Client.offer
  split <;> exact ⟨rfl, rfl, rfl⟩

theorem Client.step_cases {tables : σ} {c c' : Client σ τ} {a : ClientAction τ}
    (h : c.step tables a = some c') :
    (c'.role = c.role ∧ c'.initial = c.initial ∧ c'.queued.Sublist c.queued ∧
      (c'.connection = .registered → c.connection = .registered)) ∨
    (∃ now, a = .readTables now ∧ c.initial = .begun ∧
      c' = { c with initial := .tablesRead (GoTime.formatRFC3339 now) tables }) ∨
    (∃ serverTime t answer, c.initial = .tablesRead serverTime t ∧ c' = { c with
      initial := .marshalled
        (.initialState serverTime t (if isStaff c.role then answer else none)) }) ∨
    (∃ data, a = .sendInitial ∧ c.initial = .marshalled data ∧ c' = { c with
      send := { c.send with buf := c.send.buf ++ [data] }, initial := .over }) ∨
    (c.connection = .cancelled ∧ c' = { c with initial := .over }) := by
  cases a with
  | readTables now =>
    simp only [step] at h
    split at h
    · rename_i hbegun
      cases h
      exact .inr (.inl ⟨now, rfl, hbegun, rfl⟩)
    · cases h
  | readTimeline answer =>
    simp only [step] at h
    split at h
    · rename_i hread
      cases h
      exact .inr (.inr (.inl ⟨_, _, _, hread, rfl⟩))
    · cases h
  | sendInitial =>
    simp only [step] at h
    split at h
    · rename_i data hdata
      split at h
      · rename_i hroom
        cases h
        refine .inr (.inr (.inr (.inl ⟨data, rfl, hdata, ?_⟩)))
        rw [trySend_room data hroom]
      · cases h
    · cases h
  | abandonInitial =>
    simp only [step] at h
    split at h
    · rename_i hcancelled
      cases h
      exact .inr (.inr (.inr (.inr ⟨hcancelled, rfl⟩)))
    · cases h
  | write =>
    simp only [step] at h
    split at h
    · rename_i msg rest _ hbuf
      cases h
      exact .inl ⟨rfl, rfl, by simp [queued, hbuf], id⟩
    · cases h
  | failWrite =>
    simp only [step] at h
    split at h
    · rename_i msg rest _ hbuf
      cases h
      refine .inl ⟨rfl, rfl, ?_, id⟩
      simp only [queued, hbuf]
      exact (List.sublist_cons_self msg rest).append_left c.wire
    · cases h
  | stopPump =>
    simp only [step] at h
    split at h
    · cases h
      exact .inl ⟨rfl, rfl, .refl _, id⟩
    · cases h
  | unregister =>
    simp only [step] at h
    split at h
    · cases h
      exact .inl ⟨rfl, rfl, .refl _, nofun⟩
    · cases h
  | cancel =>
    simp only [step] at h
    split at h
    · cases h
      exact .inl ⟨rfl, rfl, .refl _, nofun⟩
    · cases h

/-- The clients after a step: one more, all offered the message in hand, or one has taken a step. -/
theorem State.step_clients {s s' : State σ τ} {a : Action σ τ} (h : s.step a = some s') :
    (s'.clients = s.clients) ∨
    (∃ role, a = .connect role ∧ s'.clients = s.clients ++ [.new role]) ∨
    (∃ data, a = .broadcast ∧ s.hand = some data ∧ s'.clients = offerAll data s.clients) ∨
    (∃ i b c c', a = .client i b ∧ s.clients[i]? = some c ∧ c.step s.cache b = some c' ∧
      s'.clients = s.clients.set i c') := by
  cases a with
  | connect role =>
    cases h
    exact .inr (.inl ⟨role, rfl, rfl⟩)
  | broadcast =>
    simp only [step] at h
    split at h
    · rename_i tables hhand
      cases h
      exact .inr (.inr (.inl ⟨_, rfl, hhand, rfl⟩))
    · rename_i timeline hhand
      cases h
      exact .inr (.inr (.inl ⟨_, rfl, hhand, rfl⟩))
    · cases h
  | client i b =>
    obtain ⟨c, hc, h⟩ := Option.bind_eq_some_iff.1 h
    obtain ⟨c', hc', rfl⟩ := Option.map_eq_some_iff.1 h
    exact .inr (.inr (.inr ⟨i, b, c, c', rfl, hc, hc', rfl⟩))
  | sendSnapshot k =>
    obtain ⟨_, _, rfl⟩ := Option.map_eq_some_iff.1 h
    exact .inl rfl
  | receiveTables | receiveTimeline =>
    simp only [step] at h
    split at h
    · cases h
      exact .inl rfl
    · cases h
  | _ =>
    cases h
    exact .inl rfl

/-- What new clients have and both offers and their own steps keep, every client has. -/
theorem Reaches.forall_clients {ok : State σ τ → Action σ τ → Prop} {cache : σ} {s : State σ τ}
    {P : Client σ τ → Prop} (hnew : ∀ role, P (.new role))
    (hoffer : ∀ c data, P c → P (c.offer data))
    (hstep : ∀ tables c a c', P c → c.step tables a = some c' → P c')
    (h : Reaches ok cache s) : ∀ c ∈ s.clients, P c := by
  refine GuardedReaches.invariant (I := fun s => ∀ c ∈ s.clients, P c) h nofun ?_
  intro s a s' ih _ hs
  rcases State.step_clients hs with h | ⟨role, -, h⟩ | ⟨data, -, -, h⟩ | ⟨i, b, c, c', -, hc, hcc, h⟩
  · rwa [h]
  · rw [h]
    intro c hc
    rcases List.mem_append.1 hc with hc | hc
    · exact ih c hc
    · rw [List.mem_singleton.1 hc]
      exact hnew role
  · rw [h]
    intro c hc
    obtain ⟨c₀, hc₀, rfl⟩ := List.mem_map.1 hc
    split
    · exact hoffer c₀ data (ih c₀ hc₀)
    · exact ih c₀ hc₀
  · rw [h]
    intro d hd
    rcases List.mem_or_eq_of_mem_set hd with hd | rfl
    · exact ih d hd
    · exact hstep _ _ _ _ (ih c (List.mem_of_getElem? hc)) hcc

end GbcVenue.Hub
