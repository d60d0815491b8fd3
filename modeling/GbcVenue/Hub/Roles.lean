import GbcVenue.Hub.WsHub

/-!
# What each role is sent

Bookings of the timeline reach the queues of staff only. Of the table broadcasts, too, only staff
get theirs: `role_correct_delivery` holds for every population of clients and every run, and
`tv_misses_tables` is a run with a display on which the tables stay as they were when it connected.
-/

namespace GbcVenue.Hub

open Interleaving

variable {σ τ : Type}

/-- Nothing with a timeline is queued, or about to be, for a client that is not staff. -/
structure Confidential (c : Client σ τ) : Prop where
  queued : ∀ msg ∈ c.queued, msg.hasTimeline → isStaff c.role
  marshalled : ∀ msg, c.initial = .marshalled msg → msg.hasTimeline → isStaff c.role

theorem Confidential.offer {c : Client σ τ} (h : Confidential c) (data : Message σ τ) :
    Confidential (c.offer data) := by
  obtain ⟨hrole, hinitial, -⟩ := c.offer_eq data
  constructor
  · intro msg hmsg htimeline
    rw [hrole]
    rcases c.offer_queued data with hqueued | ⟨hstaff, -⟩
    · rw [hqueued] at hmsg
      exact h.queued msg hmsg htimeline
    · exact hstaff
  · rw [hrole, hinitial]
    exact h.marshalled

theorem Confidential.step {tables : σ} {c c' : Client σ τ} {a : ClientAction τ}
    (h : Confidential c) (hstep : c.step tables a = some c') : Confidential c' := by
  rcases Client.step_cases hstep with ⟨hrole, hinitial, hsub, -⟩ | ⟨_, -, -, rfl⟩ |
    ⟨_, _, answer, -, rfl⟩ | ⟨data, -, hdata, rfl⟩ | ⟨-, rfl⟩
  · constructor
    · rw [hrole]
      exact fun msg hmsg => h.queued msg (hsub.subset hmsg)
    · rw [hrole, hinitial]
      exact h.marshalled
  · exact ⟨h.queued, nofun⟩
  · refine ⟨h.queued, ?_⟩
    intro msg hmsg htimeline
    cases hmsg
    by_contra hrole
    simp [Message.hasTimeline, hrole] at htimeline
  · refine ⟨?_, nofun⟩
    intro msg hmsg htimeline
    rcases List.mem_append.1 hmsg with hmsg | hmsg
    · exact h.queued msg (List.mem_append_left _ hmsg) htimeline
    · rcases List.mem_append.1 hmsg with hmsg | hmsg
      · exact h.queued msg (List.mem_append_right _ hmsg) htimeline
      · rw [List.mem_singleton.1 hmsg] at htimeline
        exact h.marshalled data hdata htimeline
  · exact ⟨h.queued, nofun⟩

theorem confidential {ok : State σ τ → Action σ τ → Prop} {cache : σ} {s : State σ τ}
    (h : Reaches ok cache s) : ∀ c ∈ s.clients, Confidential c :=
  h.forall_clients (fun _ => ⟨nofun, nofun⟩) (fun _ data hc => hc.offer data)
    fun _ _ _ _ hc hstep => hc.step hstep

/-- A client that the broadcast of `data` leaves with it at the end of its queue. -/
def Gets (s : State σ τ) (i : Nat) (c : Client σ τ) (data : Message σ τ) : Prop :=
  ∃ s' c', s.step .broadcast = some s' ∧ s'.clients[i]? = some c' ∧
    c'.send.buf = c.send.buf ++ [data]

theorem gets_iff {s : State σ τ} {i : Nat} {c : Client σ τ} {tables : σ}
    (hhand : s.hand = some (.tablesUpdated tables)) (hc : s.clients[i]? = some c)
    (hregistered : c.connection = .registered) (hroom : c.send.buf.length < c.send.cap) :
    Gets s i c (.tablesUpdated tables) ↔ isStaff c.role := by
  have hstep : s.step .broadcast =
      some { s with hand := none, clients := broadcastToAll tables s.clients } := by
    rw [State.step, hhand]
  have hget : (broadcastToAll tables s.clients)[i]? = some (c.offer (.tablesUpdated tables)) := by
    rw [broadcastToAll, offerAll, List.getElem?_map, hc, Option.map_some, if_pos hregistered]
  constructor
  · rintro ⟨s', c', hs', hc', hbuf⟩
    rw [hstep, Option.some.injEq] at hs'
    subst hs'
    rw [hget, Option.some.injEq] at hc'
    subst hc'
    by_contra hrole
    rw [Client.offer, if_pos hrole] at hbuf
    simp at hbuf
  · intro hrole
    refine ⟨_, _, hstep, hget, ?_⟩
    rw [Client.offer, if_neg (not_not.2 hrole), trySend_room _ hroom]

/-- In every run no client that is not staff has bookings of the timeline in its queue, and a
registered client with room in its queue gets a broadcast of the tables exactly if it is staff. -/
theorem role_correct_delivery {cache : σ} {s : State σ τ}
    (h : Reaches (fun _ _ => True) cache s) :
    (∀ c ∈ s.clients, ∀ msg ∈ c.send.buf, msg.hasTimeline → c.role = "admin" ∨ c.role = "staff") ∧
      ∀ tables, s.hand = some (.tablesUpdated tables) → ∀ i c, s.clients[i]? = some c →
        c.connection = .registered → c.send.buf.length < c.send.cap →
        (Gets s i c (.tablesUpdated tables) ↔ c.role = "admin" ∨ c.role = "staff") := by
  constructor
  · intro c hc msg hmsg htimeline
    have hstaff := (confidential h c hc).queued msg (List.mem_append_right _ hmsg) htimeline
    simpa [isStaff] using hstaff
  · intro tables hhand i c hc hregistered hroom
    rw [gets_iff hhand hc hregistered hroom]
    simp [isStaff]

/-- A client connects with a role, and a changed cache makes its way to the hub. -/
def oneBroadcast (role : String) : List (Action Nat Nat) :=
  [.connect role, .mutate 1, .takeSnapshot, .sendSnapshot 0, .receiveTables]

/-- The only client is an admin. -/
theorem role_correct_delivery_admin :
    ∃ (s : State Nat Nat) (c : Client Nat Nat), Reaches (fun _ _ => True) 0 s ∧
      s.hand = some (.tablesUpdated 1) ∧ s.clients = [c] ∧ Gets s 0 c (.tablesUpdated 1) := by
  have hrun : (runIf State.step (fun _ _ => True) (oneBroadcast "admin") (.start 0)).map
      (fun s => (s.hand, s.clients)) =
        some (some (.tablesUpdated 1), [(.new "admin" : Client Nat Nat)]) := by decide
  obtain ⟨s, hs, hmap⟩ := Option.map_eq_some_iff.1 hrun
  obtain ⟨hhand, hclients⟩ := Prod.mk.inj hmap
  have hreach := reaches_of_runIf hs
  refine ⟨s, .new "admin", hreach, hhand, hclients, ?_⟩
  exact ((role_correct_delivery hreach).2 1 hhand 0 _ (by rw [hclients]; rfl) rfl
    (by decide)).2 (.inl rfl)

/-- The only client is a display. -/
theorem tv_misses_tables :
    ¬ ∀ (cache : Nat) (s : State Nat Nat), Reaches (fun _ _ => True) cache s →
      (∀ c ∈ s.clients, ∀ msg ∈ c.send.buf, msg.hasTimeline →
        c.role = "admin" ∨ c.role = "staff") ∧
      ∀ tables, s.hand = some (.tablesUpdated tables) → ∀ i c, s.clients[i]? = some c →
        c.role ≠ "" → c.connection = .registered → c.send.buf.length < c.send.cap →
        Gets s i c (.tablesUpdated tables) := by
  intro hclaim
  have hrun : (runIf State.step (fun _ _ => True) (oneBroadcast "tv") (.start 0)).map
      (fun s => (s.hand, s.clients)) =
        some (some (.tablesUpdated 1), [(.new "tv" : Client Nat Nat)]) := by decide
  obtain ⟨s, hs, hmap⟩ := Option.map_eq_some_iff.1 hrun
  obtain ⟨hhand, hclients⟩ := Prod.mk.inj hmap
  have hget : s.clients[0]? = some (.new "tv") := by rw [hclients]; rfl
  have hgets := (hclaim 0 s (reaches_of_runIf hs)).2 1 hhand 0 _ hget (by decide) rfl (by decide)
  exact absurd ((gets_iff hhand hget rfl (by decide)).1 hgets) (by decide)

end GbcVenue.Hub
