import GbcVenue.Hub.WsHub

/-!
# What a client gets of the broadcasts

The hub with a journal of what its producers send, of what it broadcasts, and of the time each client is
registered. `broadcasts_in_order`: whatever the order of all steps and whatever is lost, the hub broadcasts
what was sent in the order of the sends, and a client gets broadcasts of the time it is registered in their
order and none twice, if it is staff, and none otherwise. `all_broadcasts_delivered`: nothing is lost as
long as every queue has room and every write succeeds.
-/

namespace GbcVenue.Hub

open Interleaving

/-- When a client registered and unregistered, as the number of broadcasts before. -/
structure Subscription where
  joined : Nat
  left : Option Nat
  deriving DecidableEq

/-- The hub with its journal, which no code reads: the snapshots and timelines in the order in which they
were sent to the hub, the broadcasts, and the subscriptions of the clients. -/
structure Journal (σ τ : Type) where
  hub : State σ τ
  tables : List σ
  timelines : List τ
  broadcasts : List (Message σ τ)
  subscriptions : List Subscription

variable {σ τ : Type}

def Message.snapshot : Message σ τ → Option σ
  | .tablesUpdated tables => some tables
  | _ => none

def Message.timeline : Message σ τ → Option τ
  | .timelineUpdated timeline => some timeline
  | _ => none

def Message.isInitial : Message σ τ → Bool
  | .initialState .. => true
  | _ => false

/-- The broadcasts that a client was sent, and its `INITIAL_STATE`s. -/
def Client.heard (c : Client σ τ) : List (Message σ τ) := c.queued.filter fun m => !m.isInitial

def Client.greetings (c : Client σ τ) : List (Message σ τ) := c.queued.filter Message.isInitial

namespace Journal

def start (cache : σ) : Journal σ τ := ⟨.start cache, [], [], [], []⟩

/-- One step of the hub, written down. -/
def record (s : Journal σ τ) (hub : State σ τ) : Action σ τ → Journal σ τ
  | .sendSnapshot k => { s with hub := hub, tables := s.tables ++ s.hub.snapshots[k]?.toList }
  | .sendTimeline timeline => { s with hub := hub, timelines := s.timelines ++ [timeline] }
  | .broadcast => { s with hub := hub, broadcasts := s.broadcasts ++ s.hub.hand.toList }
  | .connect _ => { s with
      hub := hub
      subscriptions := s.subscriptions ++ [⟨s.broadcasts.length, none⟩] }
  | .client i .unregister => { s with
      hub := hub
      subscriptions := s.subscriptions.modify i fun x => { x with left := some s.broadcasts.length } }
  | _ => { s with hub := hub }

def step (s : Journal σ τ) (a : Action σ τ) : Option (Journal σ τ) :=
  (s.hub.step a).map fun hub => s.record hub a

/-- The journals of a hub that has just been made, over steps of the kind `ok`. -/
def Reaches (ok : Journal σ τ → Action σ τ → Prop) (cache : σ) : Journal σ τ → Prop :=
  GuardedReaches step ok (.start cache)

/-- The broadcasts from the registration of a client to its unregistration, or so far. -/
def span (s : Journal σ τ) (x : Subscription) : List (Message σ τ) :=
  (s.broadcasts.take (x.left.getD s.broadcasts.length)).drop x.joined

/-- What the hub has taken from its channels, the message it is about to broadcast included. -/
def taken (s : Journal σ τ) : List (Message σ τ) := s.broadcasts ++ s.hub.hand.toList

/-- Client `i`, with its subscription. -/
def Subscribed (s : Journal σ τ) (i : Nat) (c : Client σ τ) (x : Subscription) : Prop :=
  s.hub.clients[i]? = some c ∧ s.subscriptions[i]? = some x

/-- The broadcasts are what was sent, in the order of the sends. A client is sent broadcasts of its span, in
their order, if it is staff, and none otherwise; one `INITIAL_STATE` at most; and no more than 32 messages
wait for it. -/
structure InOrder (s : Journal σ τ) : Prop where
  tables : (s.taken.filterMap Message.snapshot).Sublist s.tables
  timelines : (s.taken.filterMap Message.timeline).Sublist s.timelines
  staff : ∀ i c x, s.Subscribed i c x → isStaff c.role → c.heard.Sublist (s.span x)
  others : ∀ i c x, s.Subscribed i c x → ¬ isStaff c.role → c.heard = []
  greetings : ∀ c ∈ s.hub.clients, c.greetings.length ≤ 1
  waiting : ∀ c ∈ s.hub.clients, c.send.buf.length ≤ sendBufSize

/-- Every queue has room for what comes, and no write fails. -/
def Roomy (s : Journal σ τ) : Action σ τ → Prop
  | .sendSnapshot _ => s.hub.tablesCh.buf.length < s.hub.tablesCh.cap
  | .sendTimeline _ => s.hub.timelineCh.buf.length < s.hub.timelineCh.cap
  | .broadcast => ∀ c ∈ s.hub.clients, c.connection = .registered → isStaff c.role →
      c.send.buf.length < c.send.cap
  | .client _ .failWrite => False
  | _ => True

instance (s : Journal σ τ) (a : Action σ τ) : Decidable (Roomy s a) :=
  match a with
  | .sendSnapshot _ => inferInstanceAs (Decidable (s.hub.tablesCh.buf.length < s.hub.tablesCh.cap))
  | .sendTimeline _ =>
    inferInstanceAs (Decidable (s.hub.timelineCh.buf.length < s.hub.timelineCh.cap))
  | .broadcast => inferInstanceAs (Decidable (∀ c ∈ s.hub.clients, c.connection = .registered →
      isStaff c.role → c.send.buf.length < c.send.cap))
  | .client _ a => match a with
    | .failWrite => .isFalse id
    | .readTables _ | .readTimeline _ | .sendInitial | .abandonInitial | .write | .stopPump
    | .unregister | .cancel => .isTrue trivial
  | .mutate _ | .takeSnapshot | .receiveTables | .receiveTimeline | .connect _ => .isTrue trivial

/-- Everything sent is broadcast or still in its channel, and a client of the staff has been sent every
broadcast of its span. -/
structure Complete (s : Journal σ τ) : Prop where
  tables : s.taken.filterMap Message.snapshot ++ s.hub.tablesCh.buf = s.tables
  timelines : s.taken.filterMap Message.timeline ++ s.hub.timelineCh.buf = s.timelines
  staff : ∀ i c x, s.Subscribed i c x → isStaff c.role → c.heard = s.span x

end Journal

/-! ## One client -/

/-- What holds of a client if the broadcasts of its span are `bs`. -/
structure Client.Gets (c : Client σ τ) (bs : List (Message σ τ)) : Prop where
  staff : isStaff c.role → c.heard.Sublist bs
  others : ¬ isStaff c.role → c.heard = []
  fresh : c.initial ≠ .over → c.greetings = []
  once : c.greetings.length ≤ 1
  marshalled : ∀ data, c.initial = .marshalled data → data.isInitial
  cap : c.send.cap = sendBufSize
  waiting : c.send.buf.length ≤ sendBufSize

namespace Client

variable {c c' : Client σ τ} {data : Message σ τ} {bs : List (Message σ τ)} {tables : σ}
  {a : ClientAction τ}

theorem gets_new (role : String) (bs : List (Message σ τ)) : (Client.new role).Gets bs :=
  ⟨fun _ => List.nil_sublist bs, fun _ => rfl, fun _ => rfl, Nat.zero_le _, nofun, rfl, Nat.zero_le _⟩

theorem heard_append (h : c'.queued = c.queued ++ [data]) (hdata : data.isInitial = false) :
    c'.heard = c.heard ++ [data] ∧ c'.greetings = c.greetings := by
  constructor
  · rw [heard, h, List.filter_append, heard]
    simp [hdata]
  · rw [greetings, h, List.filter_append, greetings]
    simp [hdata]

theorem greetings_append (h : c'.queued = c.queued ++ [data]) (hdata : data.isInitial) :
    c'.heard = c.heard ∧ c'.greetings = c.greetings ++ [data] := by
  constructor
  · rw [heard, h, List.filter_append, heard]
    simp [hdata]
  · rw [greetings, h, List.filter_append, greetings]
    simp [hdata]

theorem offer_send (c : Client σ τ) (data : Message σ τ) : (c.offer data).send.cap = c.send.cap ∧
    (c.send.buf.length ≤ c.send.cap → (c.offer data).send.buf.length ≤ c.send.cap) := by
  unfold offer
  split
  · exact ⟨rfl, id⟩
  · unfold Chan.trySend
    split
    · rename_i hroom
      exact ⟨rfl, fun _ => by simpa using Nat.succ_le_of_lt hroom⟩
    · exact ⟨rfl, id⟩

/-- A broadcast is put at the end, or lost. -/
theorem Gets.offer (h : c.Gets bs) (hdata : data.isInitial = false) :
    (c.offer data).Gets (bs ++ [data]) := by
  obtain ⟨hrole, hinitial, -⟩ := c.offer_eq data
  obtain ⟨hcap, hwaiting⟩ := c.offer_send data
  have hgreetings : (c.offer data).greetings = c.greetings := by
    rcases c.offer_queued data with hsame | ⟨-, hnew⟩
    · rw [greetings, hsame, greetings]
    · exact (heard_append hnew hdata).2
  refine ⟨fun hstaff => ?_, fun hother => ?_, ?_, ?_, ?_, ?_, ?_⟩
  · rw [hrole] at hstaff
    rcases c.offer_queued data with hsame | ⟨-, hnew⟩
    · rw [heard, hsame]
      exact (h.staff hstaff).trans (List.sublist_append_left _ _)
    · rw [(heard_append hnew hdata).1]
      exact (h.staff hstaff).append (.refl _)
  · rw [hrole] at hother
    have hsame : c.offer data = c := if_pos hother
    rw [hsame]
    exact h.others hother
  · rw [hinitial, hgreetings]
    exact h.fresh
  · rw [hgreetings]
    exact h.once
  · rw [hinitial]
    exact h.marshalled
  · rw [hcap, h.cap]
  · rw [h.cap] at hwaiting
    exact hwaiting h.waiting

/-- What a step leaves alone in any case. -/
theorem step_eq (hstep : c.step tables a = some c') :
    c'.role = c.role ∧ c'.send.cap = c.send.cap ∧ ((c'.connection = .registered ↔
      c.connection = .registered) ∧ a ≠ .unregister ∨
        a = .unregister ∧ c.connection = .registered ∧ c'.connection ≠ .registered) := by
  cases a with
  | unregister =>
    simp only [step] at hstep
    split at hstep
    · rename_i hregistered
      cases hstep
      exact ⟨rfl, rfl, .inr ⟨rfl, hregistered, by simp⟩⟩
    · cases hstep
  | cancel =>
    simp only [step] at hstep
    split at hstep
    · rename_i hunregistered
      cases hstep
      exact ⟨rfl, rfl, .inl ⟨by simp [hunregistered], by simp⟩⟩
    · cases hstep
  | sendInitial =>
    simp only [step] at hstep
    split at hstep
    · rename_i data _
      split at hstep
      · rename_i hroom
        cases hstep
        rw [trySend_room data hroom]
        exact ⟨rfl, rfl, .inl ⟨Iff.rfl, by simp⟩⟩
      · cases hstep
    · cases hstep
  | _ =>
    simp only [step] at hstep
    split at hstep
    all_goals
      cases hstep
      try exact ⟨rfl, rfl, .inl ⟨Iff.rfl, by simp⟩⟩

/-- A step queues the `INITIAL_STATE`, or nothing; a failed write loses a message. -/
theorem step_queued (hstep : c.step tables a = some c') :
    (∃ data, c.initial = .marshalled data ∧ c'.initial = .over ∧ c'.queued = c.queued ++ [data] ∧
      c'.send.buf.length ≤ c.send.cap) ∨
    (c'.queued.Sublist c.queued ∧ (a ≠ .failWrite → c'.queued = c.queued) ∧
      c'.send.buf.length ≤ c.send.buf.length ∧ (c.initial = .over → c'.initial = .over) ∧
      ∀ data, c'.initial = .marshalled data → c.initial = .marshalled data ∨ data.isInitial) := by
  cases a with
  | readTables now =>
    simp only [step] at hstep
    split at hstep
    · rename_i hbegun
      cases hstep
      exact .inr ⟨.refl _, fun _ => rfl, le_rfl, by simp [hbegun], by simp⟩
    · cases hstep
  | readTimeline answer =>
    simp only [step] at hstep
    split at hstep
    · rename_i hread
      cases hstep
      refine .inr ⟨.refl _, fun _ => rfl, le_rfl, by simp [hread], fun data hdata => .inr ?_⟩
      cases hdata
      rfl
    · cases hstep
  | sendInitial =>
    simp only [step] at hstep
    split at hstep
    · rename_i data hdata
      split at hstep
      · rename_i hroom
        cases hstep
        refine .inl ⟨data, hdata, rfl, ?_, ?_⟩
        · simp [queued, trySend_room data hroom]
        · simpa [trySend_room data hroom] using Nat.succ_le_of_lt hroom
      · cases hstep
    · cases hstep
  | abandonInitial =>
    simp only [step] at hstep
    split at hstep
    · cases hstep
      exact .inr ⟨.refl _, fun _ => rfl, le_rfl, fun _ => rfl, by simp⟩
    · cases hstep
  | write =>
    simp only [step] at hstep
    split at hstep
    · rename_i msg rest _ hbuf
      cases hstep
      have hsame : c.wire ++ [msg] ++ rest = c.queued := by
        simp [queued, hbuf]
      refine .inr ⟨?_, fun _ => hsame, ?_, id, fun _ => .inl⟩
      · rw [← hsame]
        exact .refl _
      · simp [hbuf]
    · cases hstep
  | failWrite =>
    simp only [step] at hstep
    split at hstep
    · rename_i msg rest _ hbuf
      cases hstep
      refine .inr ⟨?_, fun hnot => absurd rfl hnot, ?_, id, fun _ => .inl⟩
      · simp only [queued, hbuf]
        exact (List.sublist_cons_self msg rest).append_left c.wire
      · simp [hbuf]
    · cases hstep
  | stopPump | unregister | cancel =>
    simp only [step] at hstep
    split at hstep
    · cases hstep
      exact .inr ⟨.refl _, fun _ => rfl, le_rfl, id, fun _ => .inl⟩
    · cases hstep

theorem Gets.step (h : c.Gets bs) (hstep : c.step tables a = some c') : c'.Gets bs := by
  obtain ⟨hrole, hcap, -⟩ := step_eq hstep
  rcases step_queued hstep with ⟨data, hinitial, hover, hqueued, hroom⟩ |
    ⟨hqueued, -, hroom, hover, hmarshalled⟩
  · have hgreeting := h.marshalled data hinitial
    obtain ⟨hheard, hgreetings⟩ := greetings_append hqueued hgreeting
    have hfresh : c.greetings = [] := h.fresh (by rw [hinitial]; nofun)
    refine ⟨?_, ?_, fun hnot => absurd hover hnot, ?_, ?_, hcap.trans h.cap, ?_⟩
    · rw [hrole, hheard]
      exact h.staff
    · rw [hrole, hheard]
      exact h.others
    · rw [hgreetings, hfresh]
      exact le_rfl
    · rw [hover]
      exact nofun
    · rw [← h.cap]
      exact hroom
  · have hheard : c'.heard.Sublist c.heard := hqueued.filter _
    have hgreetings : c'.greetings.Sublist c.greetings := hqueued.filter _
    refine ⟨?_, ?_, fun hnot => ?_, ?_, fun data hdata => ?_, hcap.trans h.cap, ?_⟩
    · rw [hrole]
      exact fun hstaff => hheard.trans (h.staff hstaff)
    · rw [hrole]
      exact fun hother => List.sublist_nil.1 (h.others hother ▸ hheard)
    · have hfresh := h.fresh fun hover' => hnot (hover hover')
      exact List.sublist_nil.1 (hfresh ▸ hgreetings)
    · exact hgreetings.length_le.trans h.once
    · exact (hmarshalled data hdata).elim (h.marshalled data) id
    · exact hroom.trans h.waiting

/-- A client that was sent all broadcasts of its span, if it is staff. -/
structure GetsAll (c : Client σ τ) (bs : List (Message σ τ)) : Prop where
  gets : c.Gets bs
  all : isStaff c.role → c.heard = bs

theorem GetsAll.offer (h : c.GetsAll bs) (hdata : data.isInitial = false)
    (hroom : isStaff c.role → c.send.buf.length < c.send.cap) :
    (c.offer data).GetsAll (bs ++ [data]) := by
  refine ⟨h.gets.offer hdata, fun hstaff => ?_⟩
  rw [(c.offer_eq data).1] at hstaff
  have hsend : c.offer data = { c with send := { c.send with buf := c.send.buf ++ [data] } } := by
    rw [← trySend_room data (hroom hstaff)]
    exact if_neg (not_not.2 hstaff)
  have hqueued : (c.offer data).queued = c.queued ++ [data] := by
    simp [hsend, queued]
  rw [(heard_append hqueued hdata).1, h.all hstaff]

theorem GetsAll.step (h : c.GetsAll bs) (ha : a ≠ .failWrite) (hstep : c.step tables a = some c') :
    c'.GetsAll bs := by
  refine ⟨h.gets.step hstep, ?_⟩
  rw [(step_eq hstep).1]
  intro hstaff
  rw [← h.all hstaff]
  rcases step_queued hstep with ⟨data, hinitial, -, hqueued, -⟩ | ⟨-, hqueued, -⟩
  · exact (greetings_append hqueued (h.gets.marshalled data hinitial)).1
  · rw [heard, hqueued ha, heard]

end Client

/-! ## All clients -/

namespace Journal

variable {s s' : Journal σ τ} {a : Action σ τ} {P : Client σ τ → List (Message σ τ) → Prop}

/-- Every client has `P` of the broadcasts of its span, which ends when it unregisters. -/
structure Served (P : Client σ τ → List (Message σ τ) → Prop) (s : Journal σ τ) : Prop where
  length : s.subscriptions.length = s.hub.clients.length
  bounds : ∀ x ∈ s.subscriptions, x.joined ≤ s.broadcasts.length ∧
    ∀ n ∈ x.left, n ≤ s.broadcasts.length
  registered : ∀ i c x, s.Subscribed i c x → (x.left = none ↔ c.connection = .registered)
  span : ∀ i c x, s.Subscribed i c x → P c (s.span x)

theorem step_record (h : s.step a = some s') :
    ∃ hub, s.hub.step a = some hub ∧ s' = s.record hub a := by
  obtain ⟨hub, hhub, rfl⟩ := Option.map_eq_some_iff.1 h
  exact ⟨hub, hhub, rfl⟩

/-- What concerns no client. -/
theorem Served.frame (h : s.Served P) (hclients : s'.hub.clients = s.hub.clients)
    (hbroadcasts : s'.broadcasts = s.broadcasts) (hsubscriptions : s'.subscriptions = s.subscriptions) :
    s'.Served P := by
  have hiff : ∀ i c x, s'.Subscribed i c x ↔ s.Subscribed i c x := by
    intro i c x
    rw [Subscribed, hclients, hsubscriptions, Subscribed]
  have hspan : ∀ x, s'.span x = s.span x := by
    intro x
    rw [Journal.span, hbroadcasts, Journal.span]
  refine ⟨?_, ?_, fun i c x hx => h.registered i c x ((hiff i c x).1 hx), fun i c x hx => ?_⟩
  · rw [hclients, hsubscriptions]
    exact h.length
  · rw [hbroadcasts, hsubscriptions]
    exact h.bounds
  · rw [hspan]
    exact h.span i c x ((hiff i c x).1 hx)

/-- The span of a client that is registered grows with every broadcast; the others' do not. -/
theorem span_append (m : Message σ τ) (hbroadcasts : s'.broadcasts = s.broadcasts ++ [m])
    {x : Subscription} (hjoined : x.joined ≤ s.broadcasts.length)
    (hleft : ∀ n ∈ x.left, n ≤ s.broadcasts.length) :
    s'.span x = if x.left = none then s.span x ++ [m] else s.span x := by
  rw [span, hbroadcasts, span]
  cases hx : x.left with
  | none =>
    rw [if_pos rfl, Option.getD_none, Option.getD_none, List.take_length, List.take_length,
      List.drop_append_of_le_length hjoined]
  | some n =>
    have hn : n ≤ s.broadcasts.length := hleft n hx
    rw [if_neg nofun, Option.getD_some, Option.getD_some, List.take_append_of_le_length hn]

theorem Served.broadcast (h : s.Served P) {m : Message σ τ}
    (hclients : s'.hub.clients = offerAll m s.hub.clients)
    (hbroadcasts : s'.broadcasts = s.broadcasts ++ [m])
    (hsubscriptions : s'.subscriptions = s.subscriptions)
    (hoffer : ∀ c ∈ s.hub.clients, c.connection = .registered → ∀ bs, P c bs →
      P (c.offer m) (bs ++ [m])) : s'.Served P := by
  have hbefore : ∀ i c x, s'.Subscribed i c x → ∃ c₀, s.Subscribed i c₀ x ∧
      c = if c₀.connection = .registered then c₀.offer m else c₀ := by
    rintro i c x ⟨hc, hx⟩
    rw [hclients, offerAll, List.getElem?_map] at hc
    obtain ⟨c₀, hc₀, rfl⟩ := Option.map_eq_some_iff.1 hc
    rw [hsubscriptions] at hx
    exact ⟨c₀, ⟨hc₀, hx⟩, rfl⟩
  refine ⟨?_, ?_, ?_, ?_⟩
  · rw [hclients, hsubscriptions, offerAll, List.length_map]
    exact h.length
  · rw [hsubscriptions, hbroadcasts, List.length_append]
    intro x hx
    obtain ⟨hjoined, hleft⟩ := h.bounds x hx
    exact ⟨hjoined.trans (Nat.le_add_right _ _), fun n hn => (hleft n hn).trans (Nat.le_add_right _ _)⟩
  · intro i c x hx
    obtain ⟨c₀, hc₀, rfl⟩ := hbefore i c x hx
    rw [h.registered i c₀ x hc₀]
    split
    · rw [(c₀.offer_eq m).2.2]
    · exact Iff.rfl
  · intro i c x hx
    obtain ⟨c₀, hc₀, rfl⟩ := hbefore i c x hx
    obtain ⟨hjoined, hleft⟩ := h.bounds x (List.mem_of_getElem? hc₀.2)
    rw [span_append m hbroadcasts hjoined hleft]
    by_cases hregistered : c₀.connection = .registered
    · rw [if_pos hregistered, if_pos ((h.registered i c₀ x hc₀).2 hregistered)]
      exact hoffer c₀ (List.mem_of_getElem? hc₀.1) hregistered _ (h.span i c₀ x hc₀)
    · rw [if_neg hregistered, if_neg fun hleft => hregistered ((h.registered i c₀ x hc₀).1 hleft)]
      exact h.span i c₀ x hc₀

theorem Served.connect (h : s.Served P) {role : String}
    (hclients : s'.hub.clients = s.hub.clients ++ [.new role])
    (hbroadcasts : s'.broadcasts = s.broadcasts)
    (hsubscriptions : s'.subscriptions = s.subscriptions ++ [⟨s.broadcasts.length, none⟩])
    (hnew : P (.new role) []) : s'.Served P := by
  have hspan : ∀ x, s'.span x = s.span x := by
    intro x
    rw [Journal.span, hbroadcasts, Journal.span]
  have hbefore : ∀ i c x, s'.Subscribed i c x → s.Subscribed i c x ∨
      c = .new role ∧ x = ⟨s.broadcasts.length, none⟩ := by
    rintro i c x ⟨hc, hx⟩
    rw [hclients] at hc
    rw [hsubscriptions] at hx
    have hlength := h.length
    rcases Nat.lt_or_ge i s.hub.clients.length with hi | hi
    · rw [List.getElem?_append_left hi] at hc
      rw [List.getElem?_append_left (hlength ▸ hi)] at hx
      exact .inl ⟨hc, hx⟩
    · rw [List.getElem?_append_right hi] at hc
      rw [List.getElem?_append_right (hlength ▸ hi)] at hx
      refine .inr ⟨?_, ?_⟩
      · exact List.mem_singleton.1 (List.mem_of_getElem? hc)
      · exact List.mem_singleton.1 (List.mem_of_getElem? hx)
  refine ⟨?_, ?_, ?_, ?_⟩
  · rw [hclients, hsubscriptions, List.length_append, List.length_append, h.length]
    rfl
  · rw [hsubscriptions, hbroadcasts]
    intro x hx
    rcases List.mem_append.1 hx with hx | hx
    · exact h.bounds x hx
    · obtain rfl := List.mem_singleton.1 hx
      exact ⟨le_rfl, nofun⟩
  · intro i c x hx
    rcases hbefore i c x hx with hx | ⟨rfl, rfl⟩
    · exact h.registered i c x hx
    · exact iff_of_true rfl rfl
  · intro i c x hx
    rw [hspan]
    rcases hbefore i c x hx with hx | ⟨rfl, rfl⟩
    · exact h.span i c x hx
    · rw [Journal.span, Option.getD_none, List.take_length, List.drop_length]
      exact hnew

/-- A step of client `j`, whose subscription becomes `y`. -/
theorem Served.client (h : s.Served P) {j : Nat} {c₀ c' : Client σ τ} {x₀ y : Subscription}
    (hj : s.Subscribed j c₀ x₀) (hclients : s'.hub.clients = s.hub.clients.set j c')
    (hbroadcasts : s'.broadcasts = s.broadcasts)
    (hsubscriptions : s'.subscriptions = s.subscriptions.set j y) (hjoined : y.joined = x₀.joined)
    (hleft : ∀ n ∈ y.left, n ≤ s.broadcasts.length) (hspan : s.span y = s.span x₀)
    (hregistered : y.left = none ↔ c'.connection = .registered) (hc' : P c' (s.span x₀)) :
    s'.Served P := by
  have hspan' : ∀ x, s'.span x = s.span x := by
    intro x
    rw [Journal.span, hbroadcasts, Journal.span]
  have hbefore : ∀ i c x, s'.Subscribed i c x → s.Subscribed i c x ∨ c = c' ∧ x = y := by
    rintro i c x ⟨hc, hx⟩
    rw [hclients, List.getElem?_set] at hc
    rw [hsubscriptions, List.getElem?_set] at hx
    by_cases hij : j = i
    · subst hij
      have hlt := List.getElem?_eq_some_iff.1 hj.1
      have hlt' := List.getElem?_eq_some_iff.1 hj.2
      simp only [if_true, hlt.1, hlt'.1, Option.some.injEq] at hc hx
      exact .inr ⟨hc.symm, hx.symm⟩
    · rw [if_neg hij] at hc hx
      exact .inl ⟨hc, hx⟩
  refine ⟨?_, ?_, ?_, ?_⟩
  · rw [hclients, hsubscriptions, List.length_set, List.length_set]
    exact h.length
  · rw [hsubscriptions, hbroadcasts]
    intro x hx
    rcases List.mem_or_eq_of_mem_set hx with hx | rfl
    · exact h.bounds x hx
    · rw [hjoined]
      exact ⟨(h.bounds x₀ (List.mem_of_getElem? hj.2)).1, hleft⟩
  · intro i c x hx
    rcases hbefore i c x hx with hx | ⟨rfl, rfl⟩
    · exact h.registered i c x hx
    · exact hregistered
  · intro i c x hx
    rw [hspan']
    rcases hbefore i c x hx with hx | ⟨rfl, rfl⟩
    · exact h.span i c x hx
    · rw [hspan]
      exact hc'

/-- A client that unregisters has the same span until the next broadcast. -/
theorem span_leave (x : Subscription) (hx : x.left = none) :
    s.span { x with left := some s.broadcasts.length } = s.span x := by
  rw [span, span, hx]
  rfl

/-- Where new clients have `P`, and offers and their own steps keep it, every client has it. -/
theorem Served.step (h : s.Served P) (hstep : s.step a = some s') (hnew : ∀ role, P (.new role) [])
    (hoffer : ∀ m ∈ s.hub.hand, a = .broadcast → ∀ c ∈ s.hub.clients, c.connection = .registered →
      ∀ bs, P c bs → P (c.offer m) (bs ++ [m]))
    (hclient : ∀ i b, a = .client i b → ∀ c c', c.step s.hub.cache b = some c' →
      ∀ bs, P c bs → P c' bs) : s'.Served P := by
  obtain ⟨hub, hhub, rfl⟩ := step_record hstep
  cases a with
  | mutate tables | takeSnapshot | sendTimeline timeline =>
    cases hhub
    exact h.frame rfl rfl rfl
  | sendSnapshot k =>
    obtain ⟨tables, -, rfl⟩ := Option.map_eq_some_iff.1 hhub
    exact h.frame rfl rfl rfl
  | receiveTables | receiveTimeline =>
    simp only [State.step] at hhub
    split at hhub
    · cases hhub
      exact h.frame rfl rfl rfl
    · cases hhub
  | connect role =>
    cases hhub
    exact h.connect rfl rfl rfl (hnew role)
  | broadcast =>
    simp only [State.step] at hhub
    split at hhub
    · rename_i tables hhand
      cases hhub
      have hm : Message.tablesUpdated tables ∈ s.hub.hand := hhand
      exact h.broadcast rfl (by simp [record, hhand]) rfl fun c hc => hoffer _ hm rfl c hc
    · rename_i timeline hhand
      cases hhub
      have hm : Message.timelineUpdated timeline ∈ s.hub.hand := hhand
      exact h.broadcast rfl (by simp [record, hhand]) rfl fun c hc => hoffer _ hm rfl c hc
    · cases hhub
  | client j b =>
    obtain ⟨c, hc, hhub⟩ := Option.bind_eq_some_iff.1 hhub
    obtain ⟨c', hc', rfl⟩ := Option.map_eq_some_iff.1 hhub
    have hlt : j < s.subscriptions.length := by
      rw [h.length]
      exact (List.getElem?_eq_some_iff.1 hc).1
    have hx : s.Subscribed j c s.subscriptions[j] := ⟨hc, List.getElem?_eq_getElem hlt⟩
    have hP : P c' (s.span s.subscriptions[j]) := hclient j b rfl c c' hc' _ (h.span j c _ hx)
    rcases (Client.step_eq hc').2.2 with ⟨hregistered, hb⟩ | ⟨rfl, hbefore, hafter⟩
    · have hsame : (s.record { s.hub with clients := s.hub.clients.set j c' } (.client j b)) =
          { s with hub := { s.hub with clients := s.hub.clients.set j c' } } := by
        cases b with
        | unregister => exact absurd rfl hb
        | _ => rfl
      rw [hsame]
      refine h.client hx rfl rfl (List.set_getElem_self hlt).symm rfl ?_ rfl ?_ hP
      · exact (h.bounds _ (List.getElem_mem hlt)).2
      · rw [hregistered]
        exact h.registered j c _ hx
    · have hnone := (h.registered j c _ hx).2 hbefore
      refine h.client (y := { s.subscriptions[j] with left := some s.broadcasts.length }) hx rfl rfl ?_
        rfl ?_ (span_leave _ hnone) ?_ hP
      · exact List.modify_eq_set_get _ hlt
      · intro n hn
        obtain rfl := Option.some.inj hn
        exact le_rfl
      · exact iff_of_false (by simp) hafter

/-! ## The channels -/

/-- What has come out of a channel and what is still in it. -/
def tablesFlow (s : Journal σ τ) : List σ := s.taken.filterMap Message.snapshot ++ s.hub.tablesCh.buf

def timelinesFlow (s : Journal σ τ) : List τ :=
  s.taken.filterMap Message.timeline ++ s.hub.timelineCh.buf

/-- A step of a channel: nothing is sent, or one value, which is lost if the channel is full. -/
def Flows {α : Type} (sent flow sent' flow' : List α) (room : Prop) : Prop :=
  (sent' = sent ∧ flow' = flow) ∨
    ∃ v, sent' = sent ++ [v] ∧ (flow' = flow ++ [v] ∨ flow' = flow ∧ ¬ room)

theorem Flows.sublist {α : Type} {sent flow sent' flow' : List α} {room : Prop}
    (h : Flows sent flow sent' flow' room) (hsub : flow.Sublist sent) : flow'.Sublist sent' := by
  rcases h with ⟨rfl, rfl⟩ | ⟨v, rfl, rfl | ⟨rfl, -⟩⟩
  · exact hsub
  · exact hsub.append (.refl _)
  · exact hsub.trans (List.sublist_append_left _ _)

theorem Flows.eq {α : Type} {sent flow sent' flow' : List α} {room : Prop}
    (h : Flows sent flow sent' flow' room) (hroom : room) (heq : flow = sent) : flow' = sent' := by
  rcases h with ⟨rfl, rfl⟩ | ⟨v, rfl, rfl | ⟨-, hfull⟩⟩
  · exact heq
  · rw [heq]
  · exact absurd hroom hfull

theorem flows_trySend {α : Type} (sent out : List α) (ch : Chan α) (v : α) :
    Flows sent (out ++ ch.buf) (sent ++ [v]) (out ++ (ch.trySend v).buf)
      (ch.buf.length < ch.cap) := by
  refine .inr ⟨v, rfl, ?_⟩
  by_cases hroom : ch.buf.length < ch.cap
  · rw [trySend_room v hroom, List.append_assoc]
    exact .inl rfl
  · have hfull : ch.trySend v = ch := if_neg hroom
    rw [hfull]
    exact .inr ⟨rfl, hroom⟩

theorem step_flows (hstep : s.step a = some s') :
    Flows s.tables s.tablesFlow s'.tables s'.tablesFlow (Roomy s a) ∧
      Flows s.timelines s.timelinesFlow s'.timelines s'.timelinesFlow (Roomy s a) := by
  obtain ⟨hub, hhub, rfl⟩ := step_record hstep
  cases a with
  | mutate tables | takeSnapshot | connect role =>
    cases hhub
    exact ⟨.inl ⟨rfl, rfl⟩, .inl ⟨rfl, rfl⟩⟩
  | sendSnapshot k =>
    obtain ⟨tables, htables, rfl⟩ := Option.map_eq_some_iff.1 hhub
    refine ⟨?_, .inl ⟨rfl, rfl⟩⟩
    have hsent : ∀ hub, (s.record hub (.sendSnapshot k)).tables = s.tables ++ [tables] := by
      intro hub
      rw [record, htables]
      rfl
    rw [hsent]
    exact flows_trySend s.tables _ s.hub.tablesCh tables
  | sendTimeline timeline =>
    cases hhub
    exact ⟨.inl ⟨rfl, rfl⟩, flows_trySend s.timelines _ s.hub.timelineCh timeline⟩
  | receiveTables =>
    simp only [State.step] at hhub
    split at hhub
    · rename_i tables rest hhand hbuf
      cases hhub
      refine ⟨.inl ⟨rfl, ?_⟩, .inl ⟨rfl, ?_⟩⟩
      · simp [tablesFlow, taken, record, hhand, hbuf, Message.snapshot]
      · simp [timelinesFlow, taken, record, hhand, Message.timeline]
    · cases hhub
  | receiveTimeline =>
    simp only [State.step] at hhub
    split at hhub
    · rename_i timeline rest hhand hbuf
      cases hhub
      refine ⟨.inl ⟨rfl, ?_⟩, .inl ⟨rfl, ?_⟩⟩
      · simp [tablesFlow, taken, record, hhand, Message.snapshot]
      · simp [timelinesFlow, taken, record, hhand, hbuf, Message.timeline]
    · cases hhub
  | broadcast =>
    simp only [State.step] at hhub
    split at hhub
    · cases hhub
      refine ⟨.inl ⟨rfl, ?_⟩, .inl ⟨rfl, ?_⟩⟩ <;> simp [tablesFlow, timelinesFlow, taken, record]
    · cases hhub
      refine ⟨.inl ⟨rfl, ?_⟩, .inl ⟨rfl, ?_⟩⟩ <;> simp [tablesFlow, timelinesFlow, taken, record]
    · cases hhub
  | client j b =>
    obtain ⟨c, -, hhub⟩ := Option.bind_eq_some_iff.1 hhub
    obtain ⟨c', -, rfl⟩ := Option.map_eq_some_iff.1 hhub
    cases b <;> exact ⟨.inl ⟨rfl, rfl⟩, .inl ⟨rfl, rfl⟩⟩

/-- The hub broadcasts no `INITIAL_STATE`. -/
theorem step_hand (hstep : s.step a = some s') (h : ∀ m ∈ s.hub.hand, m.isInitial = false) :
    ∀ m ∈ s'.hub.hand, m.isInitial = false := by
  obtain ⟨hub, hhub, rfl⟩ := step_record hstep
  have hrecord : (s.record hub a).hub = hub := by
    cases a with
    | client i b => cases b <;> rfl
    | _ => rfl
  rw [hrecord]
  cases a with
  | mutate tables | takeSnapshot | sendTimeline timeline | connect role =>
    cases hhub
    exact h
  | sendSnapshot k =>
    obtain ⟨tables, -, rfl⟩ := Option.map_eq_some_iff.1 hhub
    exact h
  | receiveTables | receiveTimeline =>
    simp only [State.step] at hhub
    split at hhub
    · cases hhub
      rintro m ⟨⟩
      rfl
    · cases hhub
  | broadcast =>
    simp only [State.step] at hhub
    split at hhub <;> cases hhub <;> exact fun m hm => absurd hm (Option.not_mem_none m)
  | client j b =>
    obtain ⟨c, -, hhub⟩ := Option.bind_eq_some_iff.1 hhub
    obtain ⟨c', -, rfl⟩ := Option.map_eq_some_iff.1 hhub
    exact h

/-! ## Every run -/

variable {ok : Journal σ τ → Action σ τ → Prop} {cache : σ}

theorem served_start : (start cache : Journal σ τ).Served P :=
  ⟨rfl, nofun, fun _ _ _ h => (nomatch h.1), fun _ _ _ h => (nomatch h.1)⟩

structure Inv (s : Journal σ τ) : Prop where
  hand : ∀ m ∈ s.hub.hand, m.isInitial = false
  tables : s.tablesFlow.Sublist s.tables
  timelines : s.timelinesFlow.Sublist s.timelines
  clients : s.Served Client.Gets

theorem Inv.step (h : s.Inv) (hstep : s.step a = some s') : s'.Inv := by
  obtain ⟨htables, htimelines⟩ := step_flows hstep
  refine ⟨step_hand hstep h.hand, htables.sublist h.tables, htimelines.sublist h.timelines, ?_⟩
  refine h.clients.step hstep (fun role => Client.gets_new role []) ?_ ?_
  · exact fun m hm _ c _ _ bs hc => hc.offer (h.hand m hm)
  · exact fun i b _ c c' hc' bs hc => hc.step hc'

theorem Reaches.inv (h : Reaches ok cache s) : s.Inv :=
  h.invariant ⟨nofun, .refl _, .refl _, served_start⟩ fun _ _ _ hs _ hstep => hs.step hstep

/-- In every run, whatever is lost on the way, what clients get of the broadcasts is in order. -/
theorem broadcasts_in_order (h : Reaches ok cache s) : s.InOrder := by
  have hinv := h.inv
  have hclient : ∀ c ∈ s.hub.clients, ∃ x i, s.Subscribed i c x := by
    intro c hc
    obtain ⟨i, hi, rfl⟩ := List.mem_iff_getElem.1 hc
    have hi' : i < s.subscriptions.length := hinv.clients.length ▸ hi
    exact ⟨_, i, List.getElem?_eq_getElem hi, List.getElem?_eq_getElem hi'⟩
  refine ⟨?_, ?_, fun i c x hx => (hinv.clients.span i c x hx).staff,
    fun i c x hx => (hinv.clients.span i c x hx).others, fun c hc => ?_, fun c hc => ?_⟩
  · exact (List.sublist_append_left _ _).trans hinv.tables
  · exact (List.sublist_append_left _ _).trans hinv.timelines
  · obtain ⟨x, i, hx⟩ := hclient c hc
    exact (hinv.clients.span i c x hx).once
  · obtain ⟨x, i, hx⟩ := hclient c hc
    exact (hinv.clients.span i c x hx).waiting

/-- A write to a client of the staff fails; the next broadcast is in its queue, and the TV gets none. -/
theorem broadcasts_in_order_lost : ∃ s : Journal Nat Nat, s.InOrder ∧
    s.broadcasts = [.tablesUpdated 1, .timelineUpdated 7] ∧
    s.hub.clients.map Client.heard = [[.timelineUpdated 7], []] := by
  have hrun : (runIf step (fun _ _ => True) [.connect "staff", .connect "tv", .mutate 1, .takeSnapshot,
      .sendSnapshot 0, .receiveTables, .broadcast, .client 0 .failWrite, .sendTimeline 7,
      .receiveTimeline, .broadcast] (start 0 : Journal Nat Nat)).map
        (fun s => (s.broadcasts, s.hub.clients.map Client.heard)) =
      some ([.tablesUpdated 1, .timelineUpdated 7], [[.timelineUpdated 7], []]) := by decide +kernel
  obtain ⟨s, hs, hend⟩ := Option.map_eq_some_iff.1 hrun
  obtain ⟨hbroadcasts, hheard⟩ := Prod.mk.inj hend
  exact ⟨s, broadcasts_in_order (reaches_of_runIf hs), hbroadcasts, hheard⟩

/-- What holds besides while nothing is lost. -/
structure FullInv (s : Journal σ τ) : Prop where
  hand : ∀ m ∈ s.hub.hand, m.isInitial = false
  tables : s.tablesFlow = s.tables
  timelines : s.timelinesFlow = s.timelines
  clients : s.Served Client.GetsAll

theorem FullInv.step (h : s.FullInv) (hroomy : Roomy s a) (hstep : s.step a = some s') :
    s'.FullInv := by
  obtain ⟨htables, htimelines⟩ := step_flows hstep
  refine ⟨step_hand hstep h.hand, htables.eq hroomy h.tables, htimelines.eq hroomy h.timelines, ?_⟩
  refine h.clients.step hstep (fun role => ⟨Client.gets_new role [], fun _ => rfl⟩) ?_ ?_
  · rintro m hm rfl c hc hregistered bs hall
    exact hall.offer (h.hand m hm) (hroomy c hc hregistered)
  · rintro i b rfl c c' hc' bs hall
    refine hall.step ?_ hc'
    rintro rfl
    exact hroomy

/-- In a run in which every queue has room and every write succeeds nothing is lost. -/
theorem all_broadcasts_delivered (h : Reaches Roomy cache s) : s.Complete := by
  have hinv : s.FullInv := h.invariant ⟨nofun, rfl, rfl, served_start⟩
    fun _ _ _ hs hroomy hstep => hs.step hroomy hstep
  exact ⟨hinv.tables, hinv.timelines, fun i c x hx => (hinv.clients.span i c x hx).all⟩

/-- A client of the staff comes between two broadcasts. -/
theorem all_broadcasts_delivered_late : ∃ s : Journal Nat Nat, s.Complete ∧ s.tables = [1, 2] ∧
    s.hub.clients.map Client.heard = [[.tablesUpdated 2]] := by
  have hrun : (runIf step Roomy [.mutate 1, .takeSnapshot, .sendSnapshot 0, .receiveTables, .broadcast,
      .connect "admin", .mutate 2, .takeSnapshot, .sendSnapshot 0, .client 0 (.readTables 0),
      .receiveTables, .broadcast, .client 0 .write] (start 0 : Journal Nat Nat)).map
        (fun s => (s.tables, s.hub.clients.map Client.heard)) =
      some ([1, 2], [[.tablesUpdated 2]]) := by decide +kernel
  obtain ⟨s, hs, hend⟩ := Option.map_eq_some_iff.1 hrun
  obtain ⟨htables, hheard⟩ := Prod.mk.inj hend
  exact ⟨s, all_broadcasts_delivered (reaches_of_runIf hs), htables, hheard⟩

end Journal

end GbcVenue.Hub
