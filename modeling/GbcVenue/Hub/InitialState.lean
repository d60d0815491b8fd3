import GbcVenue.Hub.WsHub

/-!
# The order of the table states of a client

A client is registered for broadcasts before its `INITIAL_STATE` is queued, so the tables that this
holds may be older than a broadcast before it or newer than one after it. `never_goes_back`: the
versions a client is sent never decrease in a run in which the cache is read for `INITIAL_STATE` only
while no older snapshot is on its way, and no mutation is broadcast between this read and the enqueue;
`initial_state_goes_back` is a run in which one is.
-/

namespace GbcVenue.Hub

open Interleaving

variable {σ τ : Type} (version : σ → Nat)

/-- The tables of the message in hand. -/
def State.inHand (s : State σ τ) : Option σ := s.hand.bind Message.tables

/-- The snapshots that were taken and not broadcast yet. -/
def State.onTheWay (s : State σ τ) : List σ := s.snapshots ++ s.tablesCh.buf ++ s.inHand.toList

/-- The tables that the goroutine of `INITIAL_STATE` holds. -/
def Initial.tables : Initial σ τ → Option σ
  | .tablesRead _ tables => some tables
  | .marshalled data => data.tables
  | _ => none

/-- The table states that a client is sent, oldest first. -/
def Client.states (c : Client σ τ) : List σ := c.queued.filterMap Message.tables

/-- Mutations number the states of the cache, snapshots arrive at the hub in the order of the cache,
and no queue is full. -/
def Orderly (s : State σ τ) : Action σ τ → Prop
  | .mutate tables => version s.cache < version tables
  | .sendSnapshot k => s.tablesCh.buf.length < s.tablesCh.cap ∧ ∀ tables ∈ s.snapshots[k]?,
      ∀ t ∈ s.received ++ s.tablesCh.buf, version t ≤ version tables
  | .broadcast => ∀ c ∈ s.clients, c.send.buf.length < c.send.cap
  | _ => True

/-- `INITIAL_STATE` is queued for staff when no newer tables were sent to the client and, if it is
still registered, no older ones are on their way. -/
def Timely (s : State σ τ) : Action σ τ → Prop
  | .client i .sendInitial => ∀ c ∈ s.clients[i]?, isStaff c.role → ∀ tables ∈ c.initial.tables,
      (∀ t ∈ c.states, version t ≤ version tables) ∧
        (c.connection = .registered → ∀ t ∈ s.onTheWay, version tables ≤ version t)
  | _ => True

/-- A client that the hub broadcasts to. -/
def Client.Listens (c : Client σ τ) : Prop := isStaff c.role ∧ c.connection = .registered

/-- For the clients of a kind `heard`: `GetAll` is not called while a snapshot of another state is on its
way, and until `INITIAL_STATE` is queued no other tables are broadcast than those that it answered. -/
def Undisturbed (heard : Client σ τ → Prop) (s : State σ τ) : Action σ τ → Prop
  | .client i (.readTables _) => ∀ c ∈ s.clients[i]?, heard c → ∀ t ∈ s.onTheWay, t = s.cache
  | .broadcast => ∀ c ∈ s.clients, heard c → ∀ tables ∈ c.initial.tables, ∀ t ∈ s.inHand, t = tables
  | _ => True

/-- Nothing older than `t` will be broadcast from now on. -/
def Settled (s : State σ τ) (t : σ) : Prop :=
  (∃ r ∈ s.received, version t ≤ version r) ∨
    version t ≤ version s.cache ∧ ∀ u ∈ s.onTheWay, version t ≤ version u

/-- A client of which only `INITIAL_STATE` is known if it is not staff. -/
structure Unbroadcast (c : Client σ τ) : Prop where
  fresh : ¬ isStaff c.role → c.initial ≠ .over → c.states = []
  once : ¬ isStaff c.role → c.states.length ≤ 1

structure ClientInOrder (s : State σ τ) (c : Client σ τ) : Prop where
  read : ∀ t ∈ c.initial.tables, version t ≤ version s.cache
  states : c.states.Pairwise fun t u => version t ≤ version u
  settled : isStaff c.role → c.connection = .registered → ∀ t ∈ c.states, Settled version s t

structure InOrder (s : State σ τ) : Prop where
  arrived : (s.received ++ s.tablesCh.buf).Pairwise fun t u => version t ≤ version u
  hand : ∀ t ∈ s.inHand, ∃ earlier, s.received = earlier ++ [t]
  clients : ∀ c ∈ s.clients, ClientInOrder version s c

section

variable {version} {ok : State σ τ → Action σ τ → Prop} {cache : σ} {s s' : State σ τ}
  {a : Action σ τ} {c c' : Client σ τ}

theorem Client.offer_states (c : Client σ τ) (data : Message σ τ) :
    (c.offer data).states = c.states ∨
      isStaff c.role ∧ (c.offer data).states = c.states ++ data.tables.toList := by
  rcases c.offer_queued data with h | ⟨hrole, h⟩
  · exact .inl (by rw [states, h, states])
  · refine .inr ⟨hrole, ?_⟩
    rw [states, h, List.filterMap_append, states]
    cases hdata : data.tables <;> simp [hdata]

theorem Unbroadcast.offer (h : Unbroadcast c) (data : Message σ τ) : Unbroadcast (c.offer data) := by
  obtain ⟨hrole, hinitial, -⟩ := c.offer_eq data
  rcases c.offer_states data with hstates | ⟨hstaff, -⟩
  · constructor
    · rw [hrole, hinitial, hstates]
      exact h.fresh
    · rw [hrole, hstates]
      exact h.once
  · rw [← hrole] at hstaff
    exact ⟨fun hnot => absurd hstaff hnot, fun hnot => absurd hstaff hnot⟩

theorem Client.sent_states (c : Client σ τ) (data : Message σ τ) :
    Client.states { c with send := { c.send with buf := c.send.buf ++ [data] }, initial := .over } =
      c.states ++ data.tables.toList := by
  simp only [states, queued, ← List.append_assoc, List.filterMap_append]
  cases hdata : data.tables <;> simp [hdata]

theorem Unbroadcast.step {tables : σ} {a : ClientAction τ} (h : Unbroadcast c)
    (hstep : c.step tables a = some c') : Unbroadcast c' := by
  rcases Client.step_cases hstep with ⟨hrole, hinitial, hsub, -⟩ | ⟨_, rfl, hbegun, rfl⟩ |
    ⟨_, _, _, hread, rfl⟩ | ⟨data, -, hdata, rfl⟩ | ⟨-, rfl⟩
  · have hstates : c'.states.Sublist c.states := hsub.filterMap _
    constructor
    · rw [hrole, hinitial]
      intro hstaff hover
      rw [h.fresh hstaff hover] at hstates
      exact List.sublist_nil.1 hstates
    · rw [hrole]
      exact fun hstaff => hstates.length_le.trans (h.once hstaff)
  · exact ⟨fun hstaff _ => h.fresh hstaff (by rw [hbegun]; nofun), h.once⟩
  · exact ⟨fun hstaff _ => h.fresh hstaff (by rw [hread]; nofun), h.once⟩
  · refine ⟨fun _ hover => absurd rfl hover, ?_⟩
    intro hstaff
    rw [Client.sent_states, h.fresh hstaff (by rw [hdata]; nofun)]
    cases data.tables <;> simp
  · exact ⟨fun _ hover => absurd rfl hover, h.once⟩

theorem unbroadcast (h : Reaches ok cache s) : ∀ c ∈ s.clients, Unbroadcast c :=
  h.forall_clients (fun _ => ⟨fun _ _ => rfl, fun _ => Nat.zero_le _⟩)
    (fun _ data hc => hc.offer data) fun _ _ _ _ hc hstep => hc.step hstep

/-! ## One step -/

theorem Settled.mono {t : σ} (h : Settled version s t) (hreceived : ∀ r ∈ s.received, r ∈ s'.received)
    (hcache : version s.cache ≤ version s'.cache)
    (hway : ∀ u ∈ s'.onTheWay, u ∈ s.onTheWay ∨ u = s.cache) : Settled version s' t := by
  rcases h with ⟨r, hr, hle⟩ | ⟨hle, hall⟩
  · exact .inl ⟨r, hreceived r hr, hle⟩
  · refine .inr ⟨hle.trans hcache, ?_⟩
    intro u hu
    rcases hway u hu with hu | rfl
    · exact hall u hu
    · exact hle

/-- What a step does outside the clients. -/
theorem State.step_frame (hstep : s.step a = some s') (hok : Orderly version s a) :
    (∀ r ∈ s.received, r ∈ s'.received) ∧ version s.cache ≤ version s'.cache ∧
      ∀ u ∈ s'.onTheWay, u ∈ s.onTheWay ∨ u = s.cache := by
  cases a with
  | mutate tables =>
    cases hstep
    exact ⟨fun _ hr => hr, hok.le, fun _ hu => .inl hu⟩
  | takeSnapshot =>
    cases hstep
    refine ⟨fun _ hr => hr, le_rfl, ?_⟩
    intro u hu
    simp only [onTheWay, inHand, List.mem_append, List.mem_singleton] at hu ⊢
    tauto
  | sendSnapshot k =>
    obtain ⟨tables, htables, rfl⟩ := Option.map_eq_some_iff.1 hstep
    refine ⟨fun _ hr => hr, le_rfl, ?_⟩
    intro u hu
    rw [trySend_room _ hok.1] at hu
    simp only [onTheWay, inHand, List.mem_append, List.mem_singleton] at hu ⊢
    rcases hu with (hu | hu | rfl) | hu
    · exact .inl (.inl (.inl (List.mem_of_mem_eraseIdx hu)))
    · exact .inl (.inl (.inr hu))
    · exact .inl (.inl (.inl (List.mem_of_getElem? htables)))
    · exact .inl (.inr hu)
  | receiveTables =>
    simp only [step] at hstep
    split at hstep
    · rename_i tables rest hhand hbuf
      cases hstep
      refine ⟨fun _ hr => List.mem_append_left _ hr, le_rfl, ?_⟩
      intro u hu
      simp only [onTheWay, inHand, hbuf, List.mem_append, List.mem_cons] at hu ⊢
      simp [Message.tables] at hu
      tauto
    · cases hstep
  | receiveTimeline | broadcast =>
    simp only [step] at hstep
    split at hstep <;> cases hstep
    all_goals
      refine ⟨fun _ hr => hr, le_rfl, ?_⟩
      intro u hu
      simp only [onTheWay, inHand, List.mem_append] at hu ⊢
      simp [Message.tables] at hu
      tauto
  | sendTimeline timeline =>
    cases hstep
    exact ⟨fun _ hr => hr, le_rfl, fun _ hu => .inl hu⟩
  | connect role =>
    cases hstep
    exact ⟨fun _ hr => hr, le_rfl, fun _ hu => .inl hu⟩
  | client i b =>
    obtain ⟨c, hc, hstep⟩ := Option.bind_eq_some_iff.1 hstep
    obtain ⟨c', hc', rfl⟩ := Option.map_eq_some_iff.1 hstep
    exact ⟨fun _ hr => hr, le_rfl, fun _ hu => .inl hu⟩

theorem InOrder.step_arrived (h : InOrder version s) (hstep : s.step a = some s')
    (hok : Orderly version s a) :
    (s'.received ++ s'.tablesCh.buf).Pairwise (fun t u => version t ≤ version u) ∧
      ∀ t ∈ s'.inHand, ∃ earlier, s'.received = earlier ++ [t] := by
  cases a with
  | sendSnapshot k =>
    obtain ⟨tables, htables, rfl⟩ := Option.map_eq_some_iff.1 hstep
    refine ⟨?_, h.hand⟩
    rw [trySend_room _ hok.1, ← List.append_assoc, List.pairwise_append]
    refine ⟨h.arrived, List.pairwise_singleton _ _, ?_⟩
    intro t ht u hu
    rw [List.mem_singleton.1 hu]
    exact hok.2 tables htables t ht
  | receiveTables =>
    simp only [State.step] at hstep
    split at hstep
    · rename_i tables rest hhand hbuf
      cases hstep
      have harrived := h.arrived
      rw [hbuf] at harrived
      refine ⟨by rwa [List.append_assoc], ?_⟩
      intro t ht
      cases ht
      exact ⟨_, rfl⟩
    · cases hstep
  | receiveTimeline | broadcast =>
    simp only [State.step] at hstep
    split at hstep <;> cases hstep
    all_goals
      refine ⟨h.arrived, ?_⟩
      intro t ht
      cases ht
  | client i b =>
    obtain ⟨c, hc, hstep⟩ := Option.bind_eq_some_iff.1 hstep
    obtain ⟨c', hc', rfl⟩ := Option.map_eq_some_iff.1 hstep
    exact ⟨h.arrived, h.hand⟩
  | _ =>
    cases hstep
    exact ⟨h.arrived, h.hand⟩

/-- Nothing that is settled is newer than the tables in hand. -/
theorem InOrder.settled_le (h : InOrder version s) {t u : σ} (ht : Settled version s t)
    (hu : u ∈ s.inHand) : version t ≤ version u := by
  rcases ht with ⟨r, hr, hle⟩ | ⟨-, hall⟩
  · obtain ⟨earlier, hreceived⟩ := h.hand u hu
    have harrived := (List.pairwise_append.1 h.arrived).1
    rw [hreceived, List.pairwise_append] at harrived
    rw [hreceived, List.mem_append, List.mem_singleton] at hr
    rcases hr with hr | rfl
    · exact hle.trans (harrived.2.2 r hr u (List.mem_singleton.2 rfl))
    · exact hle
  · exact hall u (List.mem_append_right _ (Option.mem_toList.2 hu))

theorem ClientInOrder.frame (h : ClientInOrder version s c) (hstep : s.step a = some s')
    (hok : Orderly version s a) : ClientInOrder version s' c := by
  obtain ⟨hreceived, hcache, hway⟩ := State.step_frame hstep hok
  exact ⟨fun t ht => (h.read t ht).trans hcache, h.states,
    fun hrole hregistered t ht => (h.settled hrole hregistered t ht).mono hreceived hcache hway⟩

/-- The turn of a registered client in a broadcast, after which `s'` is the hub. -/
theorem ClientInOrder.offer (hs : InOrder version s) (h : ClientInOrder version s c)
    (hregistered : c.connection = .registered) {data : Message σ τ} (hdata : s.hand = some data)
    (h' : ClientInOrder version s' c) (hreceived : s'.received = s.received) :
    ClientInOrder version s' (c.offer data) := by
  obtain ⟨hrole, hinitial, hconnection⟩ := c.offer_eq data
  rcases c.offer_states data with hstates | ⟨hstaff, hstates⟩
  · refine ⟨by rw [hinitial]; exact h'.read, by rw [hstates]; exact h'.states, ?_⟩
    rw [hrole, hstates, hconnection]
    exact h'.settled
  · have hhand : ∀ t ∈ data.tables, t ∈ s.inHand := by
      intro t ht
      rw [State.inHand, hdata]
      exact ht
    refine ⟨by rw [hinitial]; exact h'.read, ?_, ?_⟩
    · rw [hstates, List.pairwise_append]
      refine ⟨h.states, by cases data.tables <;> simp, ?_⟩
      intro t ht u hu
      exact hs.settled_le (h.settled hstaff hregistered t ht) (hhand u (Option.mem_toList.1 hu))
    · intro _ _ t ht
      rw [hstates, List.mem_append] at ht
      rcases ht with ht | ht
      · exact h'.settled hstaff hregistered t ht
      · obtain ⟨earlier, hlast⟩ := hs.hand t (hhand t (Option.mem_toList.1 ht))
        refine .inl ⟨t, ?_, le_rfl⟩
        rw [hreceived, hlast]
        exact List.mem_append_right _ (List.mem_singleton.2 rfl)

/-- A step of the client's own goroutines, which changes nothing else. -/
theorem ClientInOrder.step (h : ClientInOrder version s c) (hc : Unbroadcast c) {i : Nat}
    {b : ClientAction τ} (hget : s.clients[i]? = some c) (htimely : Timely version s (.client i b))
    (hstep : c.step s.cache b = some c') : ClientInOrder version s c' := by
  rcases Client.step_cases hstep with ⟨hrole, hinitial, hsub, hconnection⟩ | ⟨_, -, hbegun, rfl⟩ |
    ⟨_, t, _, hread, rfl⟩ | ⟨data, rfl, hdata, rfl⟩ | ⟨-, rfl⟩
  · have hstates : c'.states.Sublist c.states := hsub.filterMap _
    refine ⟨by rw [hinitial]; exact h.read, h.states.sublist hstates, ?_⟩
    rw [hrole]
    exact fun hstaff hregistered t ht =>
      h.settled hstaff (hconnection hregistered) t (hstates.subset ht)
  · refine ⟨?_, h.states, h.settled⟩
    rintro t ⟨⟩
    exact le_rfl
  · refine ⟨?_, h.states, h.settled⟩
    intro u hu
    refine h.read u ?_
    rw [hread]
    exact hu
  · have hinitial : c.initial.tables = data.tables := by rw [hdata]; rfl
    refine ⟨nofun, ?_, ?_⟩
    · rw [Client.sent_states, List.pairwise_append]
      refine ⟨h.states, by cases data.tables <;> simp, ?_⟩
      intro t ht u hu
      by_cases hstaff : isStaff c.role
      · exact (htimely c hget hstaff u (by rw [hinitial]; exact Option.mem_toList.1 hu)).1 t ht
      · rw [hc.fresh hstaff (by rw [hdata]; nofun)] at ht
        cases ht
    · intro hstaff hregistered t ht
      rw [Client.sent_states, List.mem_append] at ht
      rcases ht with ht | ht
      · exact h.settled hstaff hregistered t ht
      · have htables : t ∈ c.initial.tables := by rw [hinitial]; exact Option.mem_toList.1 ht
        exact .inr ⟨h.read t htables, (htimely c hget hstaff t htables).2 hregistered⟩
  · exact ⟨nofun, h.states, h.settled⟩

theorem InOrder.step (h : InOrder version s) (hclients : ∀ c ∈ s.clients, Unbroadcast c)
    (hok : Orderly version s a) (htimely : Timely version s a) (hstep : s.step a = some s') :
    InOrder version s' := by
  obtain ⟨harrived, hhand⟩ := h.step_arrived hstep hok
  have hframe : ∀ c ∈ s.clients, ClientInOrder version s' c :=
    fun c hc => (h.clients c hc).frame hstep hok
  refine ⟨harrived, hhand, ?_⟩
  rcases State.step_clients hstep with hc | ⟨role, -, hc⟩ | ⟨data, rfl, hdata, hc⟩ |
    ⟨i, b, c, c', rfl, hget, hcc, hc⟩
  · rwa [hc]
  · rw [hc]
    intro c hmem
    rcases List.mem_append.1 hmem with hmem | hmem
    · exact hframe c hmem
    · rw [List.mem_singleton.1 hmem]
      exact ⟨nofun, .nil, nofun⟩
  · rw [hc]
    intro d hd
    obtain ⟨c, hmem, rfl⟩ := List.mem_map.1 hd
    split
    · rename_i hregistered
      refine .offer h (h.clients c hmem) hregistered hdata (hframe c hmem) ?_
      simp only [State.step, hdata] at hstep
      split at hstep <;> cases hstep <;> rfl
    · exact hframe c hmem
  · rw [hc]
    intro d hd
    rcases List.mem_or_eq_of_mem_set hd with hd | rfl
    · exact hframe d hd
    · have hmem := List.mem_of_getElem? hget
      exact ((h.clients c hmem).step (hclients c hmem) hget htimely hcc).frame hstep hok

end

/-! ## Undisturbed runs -/

/-- Who listens is of the kind, and no client comes to be of it later on. -/
structure Audience (heard : Client σ τ → Prop) : Prop where
  listens : ∀ c, c.Listens → heard c
  keeps : ∀ c c' : Client σ τ, heard c' → c'.role = c.role →
    (c'.connection = .registered → c.connection = .registered) → heard c

theorem audience_listens : Audience (Client.Listens (σ := σ) (τ := τ)) where
  listens _ h := h
  keeps _ _ h hrole hconnection := ⟨hrole ▸ h.1, hconnection h.2⟩

/-- What `GetAll` answered for `INITIAL_STATE` is no older than what the client was sent, and for a
client of the kind no newer than what is on its way. -/
structure InitialFits (version : σ → Nat) (heard : Client σ τ → Prop) (s : State σ τ)
    (c : Client σ τ) : Prop where
  states : ∀ t ∈ c.states, version t ≤ version s.cache
  read : ∀ tables ∈ c.initial.tables, version tables ≤ version s.cache
  sent : ∀ tables ∈ c.initial.tables, ∀ t ∈ c.states, version t ≤ version tables
  coming : heard c → ∀ tables ∈ c.initial.tables, ∀ t ∈ s.onTheWay, version tables ≤ version t

structure InitialInv (version : σ → Nat) (heard : Client σ τ → Prop) (s : State σ τ) : Prop where
  way : ∀ t ∈ s.onTheWay, version t ≤ version s.cache
  clients : ∀ c ∈ s.clients, InitialFits version heard s c

section

variable {version : σ → Nat} {heard : Client σ τ → Prop} {s s' : State σ τ} {a : Action σ τ}
  {c c' : Client σ τ}

theorem InitialFits.new (role : String) : InitialFits version heard s (.new role : Client σ τ) :=
  ⟨nofun, nofun, nofun, fun _ => nofun⟩

theorem InitialFits.frame (h : InitialFits version heard s c) (hstep : s.step a = some s')
    (hok : Orderly version s a) : InitialFits version heard s' c := by
  obtain ⟨-, hcache, hway⟩ := State.step_frame hstep hok
  refine ⟨fun t ht => (h.states t ht).trans hcache, fun t ht => (h.read t ht).trans hcache,
    h.sent, ?_⟩
  intro hheard tables htables t ht
  rcases hway t ht with ht | rfl
  · exact h.coming hheard tables htables t ht
  · exact h.read tables htables

theorem InitialFits.offer (haudience : Audience heard) (h : InitialFits version heard s c)
    (hregistered : c.connection = .registered) {data : Message σ τ}
    (hcache : ∀ t ∈ data.tables, version t ≤ version s.cache)
    (hsame : heard c → ∀ tables ∈ c.initial.tables, ∀ t ∈ data.tables, t = tables) :
    InitialFits version heard s (c.offer data) := by
  obtain ⟨hrole, hinitial, hconnection⟩ := c.offer_eq data
  have hcoming : heard (c.offer data) → ∀ tables ∈ c.initial.tables, ∀ t ∈ s.onTheWay,
      version tables ≤ version t :=
    fun hheard => h.coming (haudience.keeps _ _ hheard hrole fun h => hconnection ▸ h)
  rcases c.offer_states data with hstates | ⟨hstaff, hstates⟩
  · constructor
    · rw [hstates]
      exact h.states
    · rw [hinitial]
      exact h.read
    · rw [hstates, hinitial]
      exact h.sent
    · rw [hinitial]
      exact hcoming
  · constructor
    · rw [hstates]
      intro t ht
      rcases List.mem_append.1 ht with ht | ht
      · exact h.states t ht
      · exact hcache t (Option.mem_toList.1 ht)
    · rw [hinitial]
      exact h.read
    · rw [hstates, hinitial]
      intro tables htables t ht
      rcases List.mem_append.1 ht with ht | ht
      · exact h.sent tables htables t ht
      · have hheard := haudience.listens c ⟨hstaff, hregistered⟩
        rw [hsame hheard tables htables t (Option.mem_toList.1 ht)]
    · rw [hinitial]
      exact hcoming

theorem InitialFits.step (haudience : Audience heard) (h : InitialFits version heard s c) {i : Nat}
    {b : ClientAction τ} (hget : s.clients[i]? = some c)
    (hundisturbed : Undisturbed heard s (.client i b)) (hstep : c.step s.cache b = some c') :
    InitialFits version heard s c' := by
  rcases Client.step_cases hstep with ⟨hrole, hinitial, hsub, hconnection⟩ | ⟨_, rfl, -, rfl⟩ |
    ⟨_, t, _, hread, rfl⟩ | ⟨data, rfl, hdata, rfl⟩ | ⟨-, rfl⟩
  · have hstates : c'.states.Sublist c.states := hsub.filterMap _
    refine ⟨fun t ht => h.states t (hstates.subset ht), ?_, ?_, ?_⟩
    · rw [hinitial]
      exact h.read
    · rw [hinitial]
      exact fun tables htables t ht => h.sent tables htables t (hstates.subset ht)
    · rw [hinitial]
      exact fun hheard => h.coming (haudience.keeps _ _ hheard hrole hconnection)
  · refine ⟨h.states, ?_, ?_, ?_⟩
    · rintro tables ⟨⟩
      exact le_rfl
    · rintro tables ⟨⟩
      exact h.states
    · rintro hheard tables ⟨⟩ t ht
      have hcurrent := hundisturbed c hget (haudience.keeps c _ hheard rfl id) t ht
      rw [hcurrent]
  · have htables : c.initial.tables = some t := by
      rw [hread]
      rfl
    refine ⟨h.states, fun u hu => h.read u (htables ▸ hu), fun u hu => h.sent u (htables ▸ hu), ?_⟩
    exact fun hheard u hu => h.coming (haudience.keeps c _ hheard rfl id) u (htables ▸ hu)
  · have htables : c.initial.tables = data.tables := by
      rw [hdata]
      rfl
    refine ⟨?_, nofun, nofun, fun _ => nofun⟩
    intro t ht
    rw [Client.sent_states] at ht
    rcases List.mem_append.1 ht with ht | ht
    · exact h.states t ht
    · exact h.read t (htables ▸ Option.mem_toList.1 ht)
  · exact ⟨h.states, nofun, nofun, fun _ => nofun⟩

theorem InitialInv.step (haudience : Audience heard) (h : InitialInv version heard s)
    (hok : Orderly version s a) (hundisturbed : Undisturbed heard s a) (hstep : s.step a = some s') :
    InitialInv version heard s' := by
  obtain ⟨-, hcache, hway⟩ := State.step_frame hstep hok
  constructor
  · intro t ht
    rcases hway t ht with ht | rfl
    · exact (h.way t ht).trans hcache
    · exact hcache
  rcases State.step_clients hstep with hc | ⟨role, -, hc⟩ | ⟨data, rfl, hdata, hc⟩ |
    ⟨i, b, c, c', rfl, hget, hcc, hc⟩
  · rw [hc]
    exact fun c hmem => (h.clients c hmem).frame hstep hok
  · rw [hc]
    intro c hmem
    rcases List.mem_append.1 hmem with hmem | hmem
    · exact (h.clients c hmem).frame hstep hok
    · rw [List.mem_singleton.1 hmem]
      exact .new role
  · have hhand : ∀ t ∈ data.tables, t ∈ s.inHand := by
      intro t ht
      rw [State.inHand, hdata]
      exact ht
    rw [hc]
    intro d hd
    obtain ⟨c, hmem, rfl⟩ := List.mem_map.1 hd
    split
    · rename_i hregistered
      refine .frame (.offer haudience (h.clients c hmem) hregistered ?_ ?_) hstep hok
      · exact fun t ht => h.way t (List.mem_append_right _ (Option.mem_toList.2 (hhand t ht)))
      · exact fun hheard tables htables t ht =>
          hundisturbed c hmem hheard tables htables t (hhand t ht)
    · exact (h.clients c hmem).frame hstep hok
  · rw [hc]
    intro d hd
    rcases List.mem_or_eq_of_mem_set hd with hd | rfl
    · exact (h.clients d hd).frame hstep hok
    · refine .frame ?_ hstep hok
      exact (h.clients c (List.mem_of_getElem? hget)).step haudience hget hundisturbed hcc

/-- Nothing that the client was sent is newer than its `INITIAL_STATE`, and nothing on its way older. -/
theorem InitialInv.fits (h : InitialInv version heard s) {i : Nat} (hget : s.clients[i]? = some c)
    {tables : σ} (htables : tables ∈ c.initial.tables) :
    (∀ t ∈ c.states, version t ≤ version tables) ∧
      (heard c → ∀ t ∈ s.onTheWay, version tables ≤ version t) :=
  have hfits := h.clients c (List.mem_of_getElem? hget)
  ⟨hfits.sent tables htables, fun hheard => hfits.coming hheard tables htables⟩

theorem InitialInv.timely (haudience : Audience heard) (h : InitialInv version heard s) :
    Timely version s a := by
  cases a with
  | client i b =>
    cases b with
    | sendInitial =>
      intro c hc hstaff tables htables
      obtain ⟨hsent, hcoming⟩ := h.fits hc htables
      exact ⟨hsent, fun hregistered => hcoming (haudience.listens c ⟨hstaff, hregistered⟩)⟩
    | _ => trivial
  | _ => trivial

/-- An undisturbed run is one in which every `INITIAL_STATE` is timely. -/
theorem reaches_timely (haudience : Audience heard) {cache : σ}
    (h : Reaches (fun s a => Orderly version s a ∧ Undisturbed heard s a) cache s) :
    Reaches (fun s a => Orderly version s a ∧ Timely version s a) cache s ∧
      InitialInv version heard s := by
  induction h with
  | refl => exact ⟨.refl, nofun, nofun⟩
  | tail _ hlast ih =>
    obtain ⟨hreach, hinv⟩ := ih
    obtain ⟨a, ⟨hok, hundisturbed⟩, hstep⟩ := hlast
    exact ⟨hreach.tail ⟨a, ⟨hok, hinv.timely haudience⟩, hstep⟩,
      hinv.step haudience hok hundisturbed hstep⟩

end

/-! ## Runs -/

/-- What the client is sent never goes back, so the last of it is the newest. -/
structure NeverBack (c : Client σ τ) : Prop where
  states : c.states.Pairwise fun t u => version t ≤ version u
  last : ∀ newest ∈ c.states.getLast?, ∀ t ∈ c.states, version t ≤ version newest

variable {version}

theorem neverBack_of_pairwise {c : Client σ τ}
    (h : c.states.Pairwise fun t u => version t ≤ version u) : NeverBack version c := by
  refine ⟨h, ?_⟩
  intro newest hlast t ht
  obtain ⟨earlier, hstates⟩ := List.getLast?_eq_some_iff.1 hlast
  rw [hstates, List.pairwise_append] at h
  rw [hstates, List.mem_append, List.mem_singleton] at ht
  rcases ht with ht | rfl
  · exact h.2.2 t ht newest (List.mem_singleton.2 rfl)
  · exact le_rfl

theorem reaches_inOrder {cache : σ} {s : State σ τ}
    (h : Reaches (fun s a => Orderly version s a ∧ Timely version s a) cache s) :
    InOrder version s := by
  induction h with
  | refl => exact ⟨.nil, nofun, nofun⟩
  | tail hreach hlast ih =>
    obtain ⟨a, ⟨hok, htimely⟩, hstep⟩ := hlast
    exact ih.step (unbroadcast hreach) hok htimely hstep

/-- In an orderly run in which nothing disturbs an `INITIAL_STATE`, no client goes back in time. -/
theorem never_goes_back {cache : σ} {s : State σ τ}
    (h : Reaches (fun s a => Orderly version s a ∧ Undisturbed Client.Listens s a) cache s) :
    ∀ c ∈ s.clients, NeverBack version c := by
  intro c hc
  have hreach := (reaches_timely audience_listens h).1
  exact neverBack_of_pairwise ((reaches_inOrder hreach).clients c hc).states

/-! ## Samples -/

instance (s : State Nat τ) (a : Action Nat τ) : Decidable (Orderly id s a) := by
  cases a <;> unfold Orderly <;> infer_instance

instance (c : Client Nat τ) : Decidable c.Listens := inferInstanceAs (Decidable (_ ∧ _))

instance (heard : Client Nat τ → Prop) [DecidablePred heard] (s : State Nat τ) (a : Action Nat τ) :
    Decidable (Undisturbed heard s a) := by
  unfold Undisturbed
  split <;> infer_instance

/-- An admin connects, and the cache is read for it. -/
def connectAndRead : List (Action Nat Nat) := [.connect "admin", .client 0 (.readTables 0)]

def sendInitialState : List (Action Nat Nat) :=
  [.client 0 (.readTimeline none), .client 0 .sendInitial]

def mutateAndBroadcast : List (Action Nat Nat) :=
  [.mutate 1, .takeSnapshot, .sendSnapshot 0, .receiveTables, .broadcast]

theorem never_goes_back_in_turn :
    ∃ (s : State Nat Nat) (c : Client Nat Nat), s.clients = [c] ∧ c.states = [0, 1] ∧
      NeverBack id c := by
  have hrun : (runIf State.step (fun s a => Orderly id s a ∧ Undisturbed Client.Listens s a)
      (connectAndRead ++ sendInitialState ++ mutateAndBroadcast) (.start 0)).map
        (fun s => s.clients.map Client.states) = some [[0, 1]] := by decide
  obtain ⟨s, hs, hstates⟩ := Option.map_eq_some_iff.1 hrun
  obtain ⟨c, hc, hstates⟩ := List.map_eq_singleton_iff.1 hstates
  exact ⟨s, c, hc, hstates,
    never_goes_back (reaches_of_runIf hs) c (by rw [hc]; exact List.mem_singleton.2 rfl)⟩

/-- The broadcast of a mutation overtakes the `INITIAL_STATE` that was read before it. -/
theorem initial_state_goes_back :
    ¬ ∀ (cache : Nat) (s : State Nat Nat), Reaches (Orderly id) cache s →
      ∀ c ∈ s.clients, NeverBack id c := by
  intro hclaim
  have hrun : (runIf State.step (Orderly id)
      (connectAndRead ++ mutateAndBroadcast ++ sendInitialState) (.start 0)).map
        (fun s => s.clients.map Client.states) = some [[1, 0]] := by decide
  obtain ⟨s, hs, hstates⟩ := Option.map_eq_some_iff.1 hrun
  obtain ⟨c, hc, hstates⟩ := List.map_eq_singleton_iff.1 hstates
  have hback := (hclaim 0 s (reaches_of_runIf hs) c
    (by rw [hc]; exact List.mem_singleton.2 rfl)).states
  rw [hstates] at hback
  exact absurd hback (by decide)

end GbcVenue.Hub
