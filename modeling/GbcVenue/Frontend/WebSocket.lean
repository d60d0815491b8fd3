import GbcVenue.Interleaving.Guarded
import Mathlib.Algebra.Order.Ring.Unbundled.Rat

/-!
# The browser's WebSocket wrapper

`frontend/src/services/websocket.js`. A page creates sockets, the browser calls their handlers, and
all the handlers share the fields of one wrapper.
-/

namespace GbcVenue.WebSocket

open Interleaving

inductive ReadyState
  | connecting
  | open
  | closing
  | closed
  deriving DecidableEq, Repr

/-- A socket that was created. -/
structure Socket where
  url : String
  readyState : ReadyState
  deriving DecidableEq

/-- A `WebSocketWrapper`: `socket` is the number of the socket it holds, `reconnectTimeout` whether
the timer is armed. -/
structure Wrapper where
  socket : Option Nat
  token : Option String
  reconnectTimeout : Bool
  reconnectDelay : ℚ
  maxReconnectDelay : ℚ
  intentionalDisconnect : Bool
  deriving DecidableEq

/-- All sockets ever created, in order, the module's `socketInstance`, and what the store was last
told of the connection. -/
structure Page where
  sockets : List Socket
  socketInstance : Option Wrapper
  isConnected : Bool
  deriving DecidableEq

/-- A call of the module, or an event that the browser delivers. -/
inductive Event
  | connectSocket (token : String)
  | disconnectSocket
  | opened (i : Nat)
  | peerCloses (i : Nat)
  | closed (i : Nat)
  | error (i : Nat)
  | message (i : Nat)
  | reconnect
  deriving DecidableEq

/-- The constructor. -/
def Wrapper.new : Wrapper := ⟨none, none, false, 1000, 5000, false⟩

/-- `BACKEND_URL.replace(/^http/, 'ws')`, a slash and the query. -/
def wsUrl (backendUrl token : String) : String :=
  let url := if backendUrl.startsWith "http" then "ws" ++ (backendUrl.drop 4).toString else backendUrl
  let url := if url.endsWith "/" then url else url ++ "/"
  url ++ "ws?token=" ++ token

/-- The ready state of the socket a wrapper holds. -/
def heldState (sockets : List Socket) (w : Wrapper) : Option ReadyState :=
  w.socket.bind fun i => (sockets[i]?).map Socket.readyState

/-- `socket.close()`. -/
def Socket.close (s : Socket) : Socket :=
  match s.readyState with
  | .connecting | .open => { s with readyState := .closing }
  | .closing | .closed => s

/-- `if (token) this.token = token`: a missing or empty token leaves the stored one. -/
def storeToken (token : Option String) (w : Wrapper) : Wrapper :=
  match token with
  | some t => if t = "" then w else { w with token := some t }
  | none => w

section

variable (backendUrl : String)

/-- `connect(token)`; `none` is a call without a token. -/
def connect (token : Option String) (sockets : List Socket) (w : Wrapper) :
    List Socket × Wrapper :=
  let w := storeToken token w
  match w.token with
  | none => (sockets, w)
  | some t =>
    if t = "" then (sockets, w)
    else (sockets ++ [⟨wsUrl backendUrl t, .connecting⟩],
      { w with intentionalDisconnect := false, socket := some sockets.length })

/-- `disconnect()`. -/
def disconnect (sockets : List Socket) (w : Wrapper) : List Socket × Wrapper :=
  (match w.socket with
    | some i => sockets.modify i Socket.close
    | none => sockets,
    { w with intentionalDisconnect := true, reconnectTimeout := false, socket := none })

/-- `scheduleReconnect()`. -/
def scheduleReconnect (w : Wrapper) : Wrapper :=
  if w.reconnectTimeout then w else { w with reconnectTimeout := true }

namespace Page

/-- `connectSocket(token)`. -/
def connectSocket (token : String) (p : Page) : Page :=
  let w := p.socketInstance.getD .new
  if w.token ≠ some token then
    let (sockets, w) := disconnect p.sockets { w with token := some token }
    let (sockets, w) := connect backendUrl (some token) sockets w
    { p with sockets := sockets, socketInstance := some w }
  else if heldState p.sockets w ≠ some .open then
    let (sockets, w) := connect backendUrl (some token) p.sockets w
    { p with sockets := sockets, socketInstance := some w }
  else { p with socketInstance := some w }

/-- `disconnectSocket()`. -/
def disconnectSocket (p : Page) : Page :=
  match p.socketInstance with
  | some w =>
    let (sockets, w) := disconnect p.sockets w
    ⟨sockets, some w, false⟩
  | none => p

/-- `onopen`. -/
def onopen (p : Page) : Page :=
  { p with
    socketInstance := p.socketInstance.map fun w => { w with reconnectDelay := 1000 }
    isConnected := true }

/-- `onclose`, of whichever socket. -/
def onclose (p : Page) : Page :=
  { p with
    socketInstance := p.socketInstance.map fun w =>
      let w := { w with socket := none }
      if w.intentionalDisconnect then w else scheduleReconnect w
    isConnected := false }

/-- The callback of the reconnect timer. -/
def onReconnect (p : Page) : Option Page :=
  match p.socketInstance with
  | some w =>
    if w.reconnectTimeout then
      let (sockets, w) := connect backendUrl none p.sockets { w with reconnectTimeout := false }
      let delay := min (w.reconnectDelay * (3 / 2)) w.maxReconnectDelay
      some { p with sockets := sockets, socketInstance := some { w with reconnectDelay := delay } }
    else none
  | none => none

/-- A change of one socket's ready state, from one of `source`. -/
def become (p : Page) (i : Nat) (source : List ReadyState) (target : ReadyState) : Option Page :=
  match p.sockets[i]? with
  | some s =>
    if s.readyState ∈ source then
      some { p with sockets := p.sockets.set i { s with readyState := target } }
    else none
  | none => none

/-- One call or event. A socket opens only if it was not closed before; a peer that closes leaves it
closing until its close event. An error is logged, and a message goes to the store. -/
def step (p : Page) : Event → Option Page
  | .connectSocket token => some (p.connectSocket backendUrl token)
  | .disconnectSocket => some p.disconnectSocket
  | .opened i => (p.become i [.connecting] .open).map onopen
  | .peerCloses i => p.become i [.open] .closing
  | .closed i => (p.become i [.connecting, .open, .closing] .closed).map onclose
  | .error i => (p.sockets[i]?).map fun _ => p
  | .message i => p.become i [.open] .open
  | .reconnect => p.onReconnect backendUrl

/-- A page that has just been loaded. -/
def start : Page := ⟨[], none, false⟩

/-- The pages that calls and events of the kind `ok` lead to. -/
def Reaches (ok : Page → Event → Prop) : Page → Page → Prop :=
  GuardedReaches (step backendUrl) ok

end Page

end

/-! ## Live sockets -/

/-- Socket `i` is neither closing nor closed. -/
def LiveIn (sockets : List Socket) (i : Nat) : Prop :=
  ∃ s, sockets[i]? = some s ∧ (s.readyState = .connecting ∨ s.readyState = .open)

section

variable {sockets : List Socket} {i j : Nat}

theorem liveIn_close : LiveIn (sockets.modify i Socket.close) j ↔ LiveIn sockets j ∧ j ≠ i := by
  unfold LiveIn
  by_cases hji : i = j
  · subst hji
    rw [List.getElem?_modify_eq]
    simp only [ne_eq, not_true_eq_false, and_false, iff_false]
    rintro ⟨s, hs, hlive⟩
    obtain ⟨s₀, -, rfl⟩ := Option.map_eq_some_iff.1 hs
    unfold Socket.close at hlive
    split at hlive <;> simp_all
  · rw [List.getElem?_modify_ne _ _ hji]
    simp [Ne.symm hji]

theorem liveIn_append {url : String} :
    LiveIn (sockets ++ [⟨url, .connecting⟩]) j ↔ LiveIn sockets j ∨ j = sockets.length := by
  unfold LiveIn
  rcases Nat.lt_trichotomy j sockets.length with h | rfl | h
  · rw [List.getElem?_append_left h]
    simp [h.ne]
  · simp
  · have hnone : ∀ url, (sockets ++ [(⟨url, .connecting⟩ : Socket)])[j]? = none := by
      intro url
      rw [List.getElem?_eq_none_iff, List.length_append, List.length_singleton]
      exact h
    rw [hnone, List.getElem?_eq_none_iff.2 h.le]
    simp [h.ne']

theorem liveIn_set {s : Socket} {target : ReadyState} (hs : sockets[i]? = some s) :
    LiveIn (sockets.set i { s with readyState := target }) j ↔
      if j = i then target = .connecting ∨ target = .open else LiveIn sockets j := by
  unfold LiveIn
  by_cases hji : j = i
  · subst hji
    have hlt := (List.getElem?_eq_some_iff.1 hs).1
    simp [hlt]
  · rw [List.getElem?_set_ne (Ne.symm hji), if_neg hji]

end

end GbcVenue.WebSocket
