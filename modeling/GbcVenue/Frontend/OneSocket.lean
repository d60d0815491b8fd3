import GbcVenue.Frontend.WebSocket

/-!
# One live socket

`OneLive` says that the wrapper holds the only socket that is neither closing nor closed, and
`OneLive.step` that every call and event keeps it which is `Regular`: no close event comes from a
superseded socket while a newer one is held, `connectSocket` does not meet a held socket that is still
connecting, and the timer does not fire while a live socket is held. `one_live_socket` is the result
for runs; `superseded_close_clears` is a run with such a close event.
-/

namespace GbcVenue.WebSocket

open Interleaving

/-- The socket that the wrapper of the page holds. -/
def Page.held (p : Page) : Option Nat := p.socketInstance.bind Wrapper.socket

def Page.Live (p : Page) (i : Nat) : Prop := LiveIn p.sockets i

/-- Whether the reconnect timer is armed. -/
def Page.armed (p : Page) : Bool := (p.socketInstance.map Wrapper.reconnectTimeout).getD false

/-- The calls and events that do not meet the module in a state it does not expect. -/
def Regular (p : Page) : Event → Prop
  | .closed i => p.held = some i ∨ p.held = none
  | .connectSocket token => ∀ w ∈ p.socketInstance, w.token = some token →
      heldState p.sockets w ≠ some .connecting
  | .reconnect => ∀ i ∈ p.held, ¬ p.Live i
  | _ => True

/-- A wrapper that holds the only live socket; without a socket it has been disconnected or is going
to reconnect. -/
structure OneLive (sockets : List Socket) (w : Wrapper) : Prop where
  live : ∀ i, LiveIn sockets i → w.socket = some i
  idle : w.socket = none → w.intentionalDisconnect ∨ w.reconnectTimeout
  armed : w.reconnectTimeout → ¬ w.intentionalDisconnect
  token : ¬ w.intentionalDisconnect → ∃ t, w.token = some t ∧ t ≠ ""

/-- A page is as it should be: without a wrapper there is no socket. -/
def Page.Sound (p : Page) : Prop :=
  match p.socketInstance with
  | some w => OneLive p.sockets w
  | none => p.sockets = []

section

variable {backendUrl : String} {sockets : List Socket} {w : Wrapper}

theorem connect_of_token {token : Option String} {t : String} (hw : w.token = some t)
    (htoken : token = none ∨ token = some t) :
    connect backendUrl token sockets w =
      if t = "" then (sockets, w)
      else (sockets ++ [⟨wsUrl backendUrl t, .connecting⟩],
        { w with intentionalDisconnect := false, socket := some sockets.length }) := by
  have hkept : storeToken token w = w := by
    rcases htoken with rfl | rfl
    · rfl
    · unfold storeToken
      dsimp only
      rw [← hw]
      split <;> rfl
  unfold connect
  rw [hkept]
  simp only [hw]

/-- A connection, when no socket is live: by the timer, or by a call. -/
theorem OneLive.connect {token : Option String} {t : String} (hw : w.token = some t)
    (htoken : token = none ∨ token = some t) (hnone : ∀ i, ¬ LiveIn sockets i)
    (hidle : t = "" → w.intentionalDisconnect ∧ ¬ w.reconnectTimeout) :
    OneLive (connect backendUrl token sockets w).1 (connect backendUrl token sockets w).2 := by
  rw [connect_of_token hw htoken]
  split
  · rename_i hempty
    obtain ⟨hintentional, hdisarmed⟩ := hidle hempty
    exact ⟨fun i hi => absurd hi (hnone i), fun _ => .inl hintentional,
      fun harmed => absurd harmed hdisarmed, fun hnot => absurd hintentional hnot⟩
  · rename_i htext
    refine ⟨?_, nofun, fun _ => by simp, fun _ => ⟨t, hw, htext⟩⟩
    intro i hi
    rcases liveIn_append.1 hi with hi | rfl
    · exact absurd hi (hnone i)
    · rfl

theorem not_liveIn_disconnect (h : ∀ i, LiveIn sockets i → w.socket = some i) (j : Nat) :
    ¬ LiveIn (disconnect sockets w).1 j := by
  intro hj
  unfold disconnect at hj
  cases hw : w.socket with
  | none =>
    rw [hw] at hj
    have hheld := h j hj
    rw [hw] at hheld
    cases hheld
  | some i =>
    rw [hw] at hj
    obtain ⟨hj, hne⟩ := liveIn_close.1 hj
    have hheld := h j hj
    rw [hw, Option.some.injEq] at hheld
    exact hne hheld.symm

theorem OneLive.disconnect (h : ∀ i, LiveIn sockets i → w.socket = some i) :
    OneLive (disconnect sockets w).1 (disconnect sockets w).2 :=
  ⟨fun i hi => absurd hi (not_liveIn_disconnect h i), fun _ => .inl rfl, nofun,
    fun hnot => absurd rfl hnot⟩

/-! ## One call or event -/

variable {p p' : Page} {i : Nat}

theorem become_eq_some {source : List ReadyState} {target : ReadyState}
    (h : p.become i source target = some p') :
    ∃ s, p.sockets[i]? = some s ∧ s.readyState ∈ source ∧
      p' = { p with sockets := p.sockets.set i { s with readyState := target } } := by
  unfold Page.become at h
  split at h
  · rename_i s hs
    split at h
    · rename_i hmem
      cases h
      exact ⟨s, hs, hmem, rfl⟩
    · cases h
  · cases h

theorem getD_socket (p : Page) : (p.socketInstance.getD .new).socket = p.held := by
  rw [Page.held]
  cases p.socketInstance <;> rfl

/-- The wrapper of a sound page holds every live socket. -/
theorem Page.Sound.live (h : p.Sound) {i : Nat} (hi : p.Live i) : p.held = some i := by
  unfold Page.Sound at h
  split at h
  · rename_i w hw
    rw [Page.held, hw]
    exact h.live i hi
  · obtain ⟨s, hs, -⟩ := hi
    rw [h] at hs
    cases hs

theorem Page.Sound.connectSocket (h : p.Sound) {token : String}
    (hregular : Regular p (.connectSocket token)) :
    (p.connectSocket backendUrl token).Sound := by
  unfold Page.connectSocket
  by_cases htoken : (p.socketInstance.getD .new).token ≠ some token
  · rw [if_pos htoken]
    refine OneLive.connect (t := token) rfl (.inr rfl) (not_liveIn_disconnect ?_) ?_
    · exact fun i hi => (getD_socket p).trans (h.live hi)
    · exact fun _ => ⟨rfl, nofun⟩
  · rw [if_neg htoken]
    rw [not_not] at htoken
    cases hw : p.socketInstance with
    | none =>
      rw [hw] at htoken
      cases htoken
    | some w =>
      rw [hw, Option.getD_some] at htoken
      rw [Option.getD_some]
      have hsound : OneLive p.sockets w := by
        rw [Page.Sound, hw] at h
        exact h
      split
      · rename_i hnotOpen
        refine OneLive.connect htoken (.inr rfl) ?_ ?_
        · rintro i hi
          obtain ⟨s, hs, hstate⟩ := id hi
          have hheld : heldState p.sockets w = some s.readyState := by
            rw [heldState, hsound.live i hi, Option.bind_some, hs, Option.map_some]
          rcases hstate with hstate | hstate
          · exact hregular w hw htoken (by rw [hheld, hstate])
          · exact hnotOpen (by rw [hheld, hstate])
        · intro hempty
          have hintentional : w.intentionalDisconnect := by
            by_contra hnot
            obtain ⟨t, ht, htext⟩ := hsound.token hnot
            rw [htoken, Option.some.injEq] at ht
            exact htext (ht.symm.trans hempty)
          exact ⟨hintentional, fun harmed => hsound.armed harmed hintentional⟩
      · exact hsound

theorem Page.Sound.disconnectSocket (h : p.Sound) : p.disconnectSocket.Sound := by
  unfold Page.disconnectSocket
  cases hw : p.socketInstance with
  | none => exact h
  | some w =>
    rw [Page.Sound, hw] at h
    exact OneLive.disconnect h.live

/-- A change of ready states after which no socket is live that was not. -/
theorem Page.Sound.setSocket (h : p.Sound) {i : Nat} {s s' : Socket} (hs : p.sockets[i]? = some s)
    (hlive : ∀ j, LiveIn (p.sockets.set i s') j → LiveIn p.sockets j) :
    Page.Sound { p with sockets := p.sockets.set i s' } := by
  unfold Page.Sound at *
  cases hw : p.socketInstance with
  | none =>
    rw [hw] at h
    rw [show p.sockets = [] from h] at hs
    cases hs
  | some w =>
    rw [hw] at h
    exact ⟨fun j hj => h.live j (hlive j hj), h.idle, h.armed, h.token⟩

theorem Page.Sound.onopen (h : p.Sound) : p.onopen.Sound := by
  unfold Page.onopen Page.Sound at *
  cases hw : p.socketInstance with
  | none =>
    rw [hw] at h
    exact h
  | some w =>
    rw [hw] at h
    exact ⟨h.live, h.idle, h.armed, h.token⟩

/-- The close event of the held socket, or of a superseded one while none is held. -/
theorem Page.Sound.onclose (h : p.Sound) (hnone : ∀ j, ¬ p.Live j) : p.onclose.Sound := by
  unfold Page.onclose Page.Sound at *
  cases hw : p.socketInstance with
  | none =>
    rw [hw] at h
    exact h
  | some w =>
    rw [hw] at h
    dsimp only [Option.map_some]
    by_cases hintentional : w.intentionalDisconnect
    · rw [if_pos hintentional]
      exact ⟨fun j hj => absurd hj (hnone j), fun _ => .inl hintentional, h.armed, h.token⟩
    · rw [if_neg hintentional, scheduleReconnect]
      split
      · rename_i harmed
        exact ⟨fun j hj => absurd hj (hnone j), fun _ => .inr harmed, h.armed, h.token⟩
      · exact ⟨fun j hj => absurd hj (hnone j), fun _ => .inr rfl, fun _ => hintentional, h.token⟩

theorem Page.Sound.reconnect (h : p.Sound) (hregular : Regular p .reconnect)
    (hstep : p.onReconnect backendUrl = some p') : p'.Sound := by
  unfold Page.onReconnect at hstep
  split at hstep
  · rename_i w hw
    split at hstep
    · rename_i harmed
      cases hstep
      have hsound : OneLive p.sockets w := by
        rw [Page.Sound, hw] at h
        exact h
      obtain ⟨t, ht, htext⟩ := hsound.token (hsound.armed harmed)
      have hnone : ∀ i, ¬ LiveIn p.sockets i := by
        intro i hi
        refine hregular i ?_ hi
        rw [Page.held, hw]
        exact hsound.live i hi
      have hconnect : OneLive (connect backendUrl none p.sockets _).1
          (connect backendUrl none p.sockets { w with reconnectTimeout := false }).2 :=
        OneLive.connect ht (.inl rfl) hnone fun hempty => absurd hempty htext
      exact ⟨hconnect.live, hconnect.idle, hconnect.armed, hconnect.token⟩
    · cases hstep
  · cases hstep

theorem Page.Sound.step {e : Event} (h : p.Sound) (hregular : Regular p e)
    (hstep : p.step backendUrl e = some p') : p'.Sound := by
  cases e with
  | connectSocket token =>
    cases hstep
    exact h.connectSocket hregular
  | disconnectSocket =>
    cases hstep
    exact h.disconnectSocket
  | opened i =>
    obtain ⟨p₁, hbecome, rfl⟩ := Option.map_eq_some_iff.1 hstep
    obtain ⟨s, hs, hstate, rfl⟩ := become_eq_some hbecome
    refine (h.setSocket hs fun j hj => ?_).onopen
    rw [liveIn_set hs] at hj
    split at hj
    · rename_i hji
      rw [hji]
      exact ⟨s, hs, .inl (List.mem_singleton.1 hstate)⟩
    · exact hj
  | peerCloses i =>
    obtain ⟨s, hs, hstate, rfl⟩ := become_eq_some hstep
    refine h.setSocket hs fun j hj => ?_
    rw [liveIn_set hs] at hj
    split at hj
    · simp at hj
    · exact hj
  | closed i =>
    obtain ⟨p₁, hbecome, rfl⟩ := Option.map_eq_some_iff.1 hstep
    obtain ⟨s, hs, hstate, rfl⟩ := become_eq_some hbecome
    have hlive : ∀ j, LiveIn (p.sockets.set i { s with readyState := .closed }) j →
        j ≠ i ∧ LiveIn p.sockets j := by
      intro j hj
      rw [liveIn_set hs] at hj
      split at hj
      · simp at hj
      · rename_i hne
        exact ⟨hne, hj⟩
    refine (h.setSocket hs fun j hj => (hlive j hj).2).onclose ?_
    intro j hj
    obtain ⟨hne, hj⟩ := hlive j hj
    have hheld := h.live hj
    rcases hregular with hi | hnone
    · rw [hheld, Option.some.injEq] at hi
      exact hne hi
    · rw [hheld] at hnone
      cases hnone
  | error i =>
    obtain ⟨_, _, rfl⟩ := Option.map_eq_some_iff.1 hstep
    exact h
  | message i =>
    obtain ⟨s, hs, hstate, rfl⟩ := become_eq_some hstep
    refine h.setSocket hs fun j hj => ?_
    rw [liveIn_set hs] at hj
    split at hj
    · rename_i hji
      rw [hji]
      exact ⟨s, hs, .inr (List.mem_singleton.1 hstate)⟩
    · exact hj
  | reconnect => exact h.reconnect hregular hstep

/-- The close event of a superseded socket that meets no newer one changes nothing in the wrapper. -/
theorem Page.Sound.superseded (h : p.Sound) (hregular : Regular p (.closed i))
    (hstep : p.step backendUrl (.closed i) = some p') (hi : p.held ≠ some i) :
    p'.held = p.held ∧ p'.armed = p.armed := by
  have hnone : p.held = none := hregular.resolve_left hi
  obtain ⟨p₁, hbecome, rfl⟩ := Option.map_eq_some_iff.1 hstep
  obtain ⟨s, hs, hstate, rfl⟩ := become_eq_some hbecome
  unfold Page.Sound at h
  simp only [Page.held, Page.armed, Page.onclose] at *
  cases hw : p.socketInstance with
  | none => exact ⟨rfl, rfl⟩
  | some w =>
    rw [hw] at h hnone
    rw [Option.bind_some] at hnone
    simp only [Option.map_some, Option.bind_some, Option.getD_some]
    by_cases hintentional : w.intentionalDisconnect
    · rw [if_pos hintentional]
      exact ⟨hnone.symm, rfl⟩
    · have harmed : w.reconnectTimeout := (h.idle hnone).resolve_left hintentional
      rw [if_neg hintentional, scheduleReconnect, if_pos harmed]
      exact ⟨hnone.symm, rfl⟩

/-! ## Which sockets come to be live -/

/-- Sockets are added at the end, and no other socket comes to be live. -/
structure Evolves (sockets sockets' : List Socket) : Prop where
  length : sockets.length ≤ sockets'.length
  live : ∀ i, LiveIn sockets' i → LiveIn sockets i ∨ sockets.length ≤ i

theorem Evolves.refl : Evolves sockets sockets := ⟨le_rfl, fun _ => .inl⟩

theorem Evolves.trans {sockets₁ sockets₂ : List Socket} (h : Evolves sockets sockets₁)
    (h' : Evolves sockets₁ sockets₂) : Evolves sockets sockets₂ := by
  refine ⟨h.length.trans h'.length, fun i hi => ?_⟩
  rcases h'.live i hi with hi | hi
  · exact h.live i hi
  · exact .inr (h.length.trans hi)

theorem evolves_connect (token : Option String) :
    Evolves sockets (connect backendUrl token sockets w).1 := by
  unfold connect
  dsimp only
  split
  · exact .refl
  · split
    · exact .refl
    · exact ⟨by simp, fun i hi => (liveIn_append.1 hi).imp_right fun h => h.ge⟩

theorem evolves_disconnect : Evolves sockets (disconnect sockets w).1 := by
  unfold disconnect
  cases w.socket with
  | none => exact .refl
  | some j => exact ⟨by simp, fun i hi => .inl (liveIn_close.1 hi).1⟩

theorem Page.evolves_become {source : List ReadyState} {target : ReadyState}
    (hsource : (target = .connecting ∨ target = .open) →
      ∀ state ∈ source, state = .connecting ∨ state = .open)
    (h : p.become i source target = some p') : Evolves p.sockets p'.sockets := by
  obtain ⟨s, hs, hstate, rfl⟩ := become_eq_some h
  refine ⟨by simp, fun j hj => .inl ?_⟩
  rw [liveIn_set hs] at hj
  split at hj
  · rename_i hji
    rw [hji]
    exact ⟨s, hs, hsource hj s.readyState hstate⟩
  · exact hj

theorem Page.evolves_step {e : Event} (h : p.step backendUrl e = some p') :
    Evolves p.sockets p'.sockets := by
  cases e with
  | connectSocket token =>
    cases h
    unfold Page.connectSocket
    dsimp only
    split
    · exact evolves_disconnect.trans (evolves_connect _)
    · split
      · exact evolves_connect _
      · exact .refl
  | disconnectSocket =>
    cases h
    unfold Page.disconnectSocket
    split
    · exact evolves_disconnect
    · exact .refl
  | opened j =>
    obtain ⟨p₁, hbecome, rfl⟩ := Option.map_eq_some_iff.1 h
    have hevolves : Evolves p.sockets p₁.sockets := evolves_become (by simp) hbecome
    exact hevolves
  | peerCloses j =>
    have hbecome : p.become j [.open] .closing = some p' := h
    exact evolves_become (by simp) hbecome
  | closed j =>
    obtain ⟨p₁, hbecome, rfl⟩ := Option.map_eq_some_iff.1 h
    have hevolves : Evolves p.sockets p₁.sockets := evolves_become (by simp) hbecome
    exact hevolves
  | error j =>
    obtain ⟨_, _, rfl⟩ := Option.map_eq_some_iff.1 h
    exact .refl
  | message j =>
    have hbecome : p.become j [.open] .open = some p' := h
    exact evolves_become (by simp) hbecome
  | reconnect =>
    simp only [Page.step, Page.onReconnect] at h
    split at h
    · split at h
      · cases h
        exact evolves_connect _
      · cases h
    · cases h

/-- A message comes from a socket that is open, and stays so. -/
theorem Page.live_of_message (h : p.step backendUrl (.message i) = some p') : p'.Live i := by
  obtain ⟨s, hs, -, rfl⟩ := become_eq_some h
  rw [Page.Live, liveIn_set hs, if_pos rfl]
  exact .inr rfl

/-! ## After a disconnection -/

/-- No socket is live, and nothing is going to make one. -/
structure Quiet (p : Page) : Prop where
  live : ∀ i, ¬ p.Live i
  idle : ∀ w ∈ p.socketInstance, w.intentionalDisconnect ∧ ¬ w.reconnectTimeout

theorem Page.Sound.quiet (h : p.Sound) : Quiet p.disconnectSocket := by
  unfold Page.disconnectSocket
  cases hw : p.socketInstance with
  | none =>
    constructor
    · intro i hi
      have hheld := h.live hi
      rw [Page.held, hw] at hheld
      cases hheld
    · rw [hw]
      nofun
  | some w =>
    rw [Page.Sound, hw] at h
    refine ⟨not_liveIn_disconnect h.live, ?_⟩
    rintro w' ⟨⟩
    exact ⟨rfl, nofun⟩

theorem Quiet.become (h : Quiet p) {source : List ReadyState} {target : ReadyState}
    (hp : p.become i source target = some p')
    (htarget : target = .closing ∨ target = .closed) : Quiet p' := by
  obtain ⟨s, hs, hstate, rfl⟩ := become_eq_some hp
  refine ⟨?_, h.idle⟩
  intro j hj
  rw [Page.Live, liveIn_set hs] at hj
  split at hj
  · rcases htarget with rfl | rfl <;> simp at hj
  · exact h.live j hj

theorem Quiet.onclose (h : Quiet p) : Quiet p.onclose := by
  refine ⟨h.live, ?_⟩
  intro w hw
  obtain ⟨w₀, hw₀, rfl⟩ := Option.map_eq_some_iff.1 hw
  obtain ⟨hintentional, hdisarmed⟩ := h.idle w₀ hw₀
  rw [if_pos hintentional]
  exact ⟨hintentional, hdisarmed⟩

theorem Quiet.disconnectSocket (h : Quiet p) : Quiet p.disconnectSocket := by
  unfold Page.disconnectSocket
  cases hw : p.socketInstance with
  | none => exact h
  | some w =>
    refine ⟨not_liveIn_disconnect fun i hi => absurd hi (h.live i), ?_⟩
    rintro w' ⟨⟩
    exact ⟨rfl, nofun⟩

theorem Quiet.step {e : Event} (h : Quiet p) (he : ∀ token, e ≠ .connectSocket token)
    (hstep : p.step backendUrl e = some p') : Quiet p' := by
  cases e with
  | connectSocket token => exact absurd rfl (he token)
  | disconnectSocket =>
    cases hstep
    exact h.disconnectSocket
  | opened j =>
    obtain ⟨p₁, hbecome, rfl⟩ := Option.map_eq_some_iff.1 hstep
    obtain ⟨s, hs, hstate, rfl⟩ := become_eq_some hbecome
    exact absurd ⟨s, hs, .inl (List.mem_singleton.1 hstate)⟩ (h.live j)
  | peerCloses j => exact h.become hstep (.inl rfl)
  | closed j =>
    obtain ⟨p₁, hbecome, rfl⟩ := Option.map_eq_some_iff.1 hstep
    exact (h.become hbecome (.inr rfl)).onclose
  | error j =>
    obtain ⟨_, _, rfl⟩ := Option.map_eq_some_iff.1 hstep
    exact h
  | message j =>
    obtain ⟨s, hs, hstate, rfl⟩ := become_eq_some hstep
    exact absurd ⟨s, hs, .inr (List.mem_singleton.1 hstate)⟩ (h.live j)
  | reconnect =>
    simp only [Page.step, Page.onReconnect] at hstep
    split at hstep
    · rename_i w hw
      rw [if_neg (h.idle w hw).2] at hstep
      cases hstep
    · cases hstep

end

/-! ## Runs -/

/-- In runs of calls and events of the kind `ok`: the wrapper holds every live socket, so that there
is one at most; the close event of a superseded socket changes neither the held socket nor the timer;
and after `disconnectSocket`, until the next `connectSocket`, no socket is live and no timer armed. -/
structure SingleSocket (backendUrl : String) (ok : Page → Event → Prop) (p : Page) : Prop where
  held : ∀ i, p.Live i → p.held = some i
  superseded : ∀ i p', ok p (.closed i) → p.step backendUrl (.closed i) = some p' →
    p.held ≠ some i → p'.held = p.held ∧ p'.armed = p.armed
  disconnected : ∀ p', Page.Reaches backendUrl (fun _ e => ∀ token, e ≠ .connectSocket token)
    p.disconnectSocket p' → (∀ i, ¬ p'.Live i) ∧ p'.armed = false

theorem one_live_socket {backendUrl : String} {p : Page}
    (h : Page.Reaches backendUrl Regular .start p) : SingleSocket backendUrl Regular p := by
  have hsound : p.Sound :=
    GuardedReaches.invariant h rfl fun _ _ _ hs hregular hstep => hs.step hregular hstep
  refine ⟨fun i hi => hsound.live hi, ?_, ?_⟩
  · exact fun i p' hregular hstep hi => hsound.superseded hregular hstep hi
  · intro p' hreach
    have hquiet : Quiet p' :=
      GuardedReaches.invariant hreach hsound.quiet fun _ _ _ hs he hstep => hs.step he hstep
    refine ⟨hquiet.live, ?_⟩
    rw [Page.armed]
    cases hw : p'.socketInstance with
    | none => rfl
    | some w => simpa using (hquiet.idle w hw).2

instance (sockets : List Socket) (i : Nat) : Decidable (LiveIn sockets i) :=
  match h : sockets[i]? with
  | some s => decidable_of_iff (s.readyState = .connecting ∨ s.readyState = .open)
      (by simp [LiveIn, h])
  | none => isFalse (by simp [LiveIn, h])

instance (p : Page) (i : Nat) : Decidable (p.Live i) := inferInstanceAs (Decidable (LiveIn _ _))

instance (p : Page) (e : Event) : Decidable (Regular p e) := by
  cases e <;> unfold Regular <;> infer_instance

/-- The connection is lost, and the timer makes a new one. -/
theorem one_live_socket_reconnected :
    ∃ p : Page, p.sockets.map Socket.readyState = [.closed, .open] ∧ p.held = some 1 ∧
      SingleSocket "" Regular p := by
  have hrun : (runIf (Page.step "") Regular
      [.connectSocket "a", .opened 0, .closed 0, .reconnect, .opened 1] .start).map
        (fun p => (p.sockets.map Socket.readyState, p.held)) =
      some ([.closed, .open], some 1) := by decide
  obtain ⟨p, hp, hend⟩ := Option.map_eq_some_iff.1 hrun
  obtain ⟨hstates, hheld⟩ := Prod.mk.inj hend
  exact ⟨p, hstates, hheld, one_live_socket (reaches_of_runIf hp)⟩

/-- A refreshed token replaces the socket, and then the close event of the replaced one arrives: the
wrapper forgets the new socket, which lives on. -/
theorem superseded_close_clears :
    ¬ ∀ (backendUrl : String) (p : Page), Page.Reaches backendUrl (fun _ _ => True) .start p →
      SingleSocket backendUrl (fun _ _ => True) p := by
  intro hclaim
  have hrun : (runIf (Page.step "") (fun _ _ => True)
      [.connectSocket "a", .opened 0, .connectSocket "b", .opened 1, .closed 0] .start).map
        (fun p => (decide (p.Live 1), p.held)) = some (true, none) := by decide
  obtain ⟨p, hp, hend⟩ := Option.map_eq_some_iff.1 hrun
  obtain ⟨hlive, hheld⟩ := Prod.mk.inj hend
  have hone := (hclaim "" p (reaches_of_runIf hp)).held 1 (of_decide_eq_true hlive)
  rw [hheld] at hone
  cases hone

end GbcVenue.WebSocket
