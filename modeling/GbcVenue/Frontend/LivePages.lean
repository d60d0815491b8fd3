import GbcVenue.Frontend.OneSocket
import GbcVenue.Hub.InitialState

/-!
# Pages that follow the cache

What a page makes of the messages of the hub: `onmessage` of `frontend/src/services/websocket.js` with the
listeners that write to the store. A `Site` is the hub with the calls that mutate the cache and all the
pages, each with all the sockets that its wrapper makes. `pages_follow`: as long as snapshots come in the
order of the cache, no queue is full, nothing disturbs an `INITIAL_STATE` and the calls and events of every
page are regular, a page never goes back to an older state of the tables, over any number of connections,
and once the hub is quiet every page of the staff that has handled all its frames shows the cache.
-/

namespace GbcVenue.LivePages

open Interleaving Hub

/-- What `useStore` keeps of the messages; `none` is the empty array that it is created with. -/
structure Store (σ τ : Type) where
  tables : Option σ
  timeline : Option τ
  deriving DecidableEq

/-- A page: the store, the sockets with their wrapper, the client at the other end of a socket with the
number of frames that the socket has delivered, and the states of the tables that the page has shown,
oldest first, which no code reads. -/
structure Page (σ τ : Type) where
  store : Store σ τ
  connections : WebSocket.Page
  link : Nat → Option (Nat × Nat)
  shown : List σ

/-- `mutating` is the number of calls that have changed the cache and taken no snapshot yet. -/
structure Site (σ τ : Type) where
  hub : State σ τ
  mutating : Nat
  pages : List (Page σ τ)

/-- The server accepts socket `i` of page `p`, or the socket delivers its next frame; any other event of
the page, or a call of its code. -/
inductive Action (σ τ : Type)
  | hub (a : Hub.Action σ τ)
  | openPage
  | accept (p i : Nat) (role : String)
  | event (p : Nat) (e : WebSocket.Event)
  | frame (p i : Nat)

variable {σ τ : Type}

namespace Store

def setTables (tables : σ) (s : Store σ τ) : Store σ τ := { s with tables := some tables }

def setTimeline (timeline : τ) (s : Store σ τ) : Store σ τ := { s with timeline := some timeline }

/-- `onmessage` and the listeners of the event (`websocket.js:72-96`, `websocket.js:142-160`). Arrays
are truthy, so `INITIAL_STATE` sets all that it carries. -/
def onmessage (s : Store σ τ) : Message σ τ → Store σ τ
  | .initialState _ tables timeline =>
    let s := s.setTables tables
    match timeline with
    | some timeline => s.setTimeline timeline
    | none => s
  | .tablesUpdated tables => s.setTables tables
  | .timelineUpdated timeline => s.setTimeline timeline

theorem onmessage_tables (s : Store σ τ) (m : Message σ τ) :
    (s.onmessage m).tables = m.tables.or s.tables := by
  cases m with
  | initialState serverTime tables timeline => cases timeline <;> rfl
  | tablesUpdated tables => rfl
  | timelineUpdated timeline => rfl

end Store

namespace Page

def new : Page σ τ := ⟨⟨none, none⟩, .start, fun _ => none, []⟩

/-- Frame `n` of client `j`, which socket `i` delivers. -/
def handle (m : Message σ τ) (i j n : Nat) (p : Page σ τ) : Page σ τ := { p with
  store := p.store.onmessage m
  link := Function.update p.link i (some (j, n + 1))
  shown := p.shown ++ m.tables.toList }

/-- A socket opens only if the server has accepted it, and a message comes with its frame. -/
def Meets (p : Page σ τ) : WebSocket.Event → Bool
  | .opened i => (p.link i).isSome
  | .message _ => false
  | _ => true

end Page

namespace Site

def start (cache : σ) : Site σ τ := ⟨.start cache, 0, []⟩

/-- One step of the hub or of what feeds it. A call takes its snapshot after it has changed the cache;
only pages connect. -/
def hubStep (s : Site σ τ) (a : Hub.Action σ τ) : Option (Site σ τ) :=
  match a with
  | .connect _ => none
  | .mutate _ => (s.hub.step a).map fun hub => { s with hub := hub, mutating := s.mutating + 1 }
  | .takeSnapshot => if s.mutating = 0 then none else
      (s.hub.step a).map fun hub => { s with hub := hub, mutating := s.mutating - 1 }
  | a => (s.hub.step a).map fun hub => { s with hub := hub }

/-- The next frame of socket `i` of a page, if it has been written. -/
def nextFrame (s : Site σ τ) (p : Page σ τ) (i : Nat) : Option (Nat × Nat × Message σ τ) :=
  (p.link i).bind fun x => (s.hub.clients[x.1]?).bind fun c =>
    (c.wire[x.2]?).map fun m => (x.1, x.2, m)

/-- One step. A frame comes from a socket that is open. -/
def step (backendUrl : String) (s : Site σ τ) : Action σ τ → Option (Site σ τ)
  | .hub a => s.hubStep a
  | .openPage => some { s with pages := s.pages ++ [.new] }
  | .accept p i role => (s.pages[p]?).bind fun page =>
    if i < page.connections.sockets.length ∧ page.link i = none then
      (s.hub.step (.connect role)).map fun hub => { s with
        hub := hub
        pages := s.pages.set p
          { page with link := Function.update page.link i (some (s.hub.clients.length, 0)) } }
    else none
  | .event p e => (s.pages[p]?).bind fun page =>
    if page.Meets e then (page.connections.step backendUrl e).map fun connections => { s with
      pages := s.pages.set p { page with connections := connections } }
    else none
  | .frame p i => (s.pages[p]?).bind fun page =>
    (page.connections.step backendUrl (.message i)).bind fun connections =>
      (s.nextFrame page i).map fun x => { s with
        pages := s.pages.set p
          ({ page with connections := connections }.handle x.2.2 i x.1 x.2.1) }

/-- No call is between its change of the cache and its snapshot, and no snapshot is on its way. -/
def Quiet (s : Site σ τ) : Prop := s.mutating = 0 ∧ s.hub.onTheWay = []

/-- The page has a live socket as staff and has handled all that it is sent, `INITIAL_STATE` included. -/
def UpToDate (s : Site σ τ) (p : Page σ τ) : Prop :=
  ∃ i j c, p.connections.Live i ∧ p.link i = some (j, c.wire.length) ∧ s.hub.clients[j]? = some c ∧
    c.connection = .registered ∧ isStaff c.role ∧ c.pumping ∧ c.initial = .over ∧ c.send.buf = []

variable (version : σ → Nat)

/-- The steps of a run in which nothing is lost, nothing overtakes and no page is surprised. -/
def Steady (s : Site σ τ) : Action σ τ → Prop
  | .hub a => Orderly version s.hub a ∧ Undisturbed (fun _ => True) s.hub a
  | .event p e => ∀ page ∈ s.pages[p]?, WebSocket.Regular page.connections e
  | _ => True

def Reaches (backendUrl : String) (cache : σ) : Site σ τ → Prop :=
  GuardedReaches (step backendUrl) (Steady version) (.start cache)

/-- A state that the cache has now or had before. -/
def Known (s : State σ τ) (t : σ) : Prop := t = s.cache ∨ version t < version s.cache

/-- The pages show what the cache has or had, the store what was shown last, no page goes back, and
once the hub is quiet a page that is up to date shows the cache. -/
structure Follows (s : Site σ τ) : Prop where
  known : ∀ p ∈ s.pages, ∀ t ∈ p.shown, Known version s.hub t
  store : ∀ p ∈ s.pages, p.store.tables = p.shown.getLast?
  neverBack : ∀ p ∈ s.pages, p.shown.Pairwise fun t u => version t ≤ version u
  current : s.Quiet → ∀ p ∈ s.pages, s.UpToDate p → p.store.tables = some s.hub.cache

end Site

/-! ## One client -/

/-- As long as it is connected as staff, the client was sent the tables, or its `INITIAL_STATE` is to
carry them. -/
def Has (tables : σ) (c : Client σ τ) : Prop :=
  c.connection = .registered → isStaff c.role → c.pumping →
    tables ∈ c.states ∨ c.initial = .begun ∨ tables ∈ c.initial.tables

/-- What a step `a` of the hub in `s` makes of a client. -/
structure Moves (s : State σ τ) (a : Hub.Action σ τ) (c c' : Client σ τ) : Prop where
  wire : ∃ more, c'.wire = c.wire ++ more
  states : c'.states.Sublist c.states ∨
    (∃ data, s.hand = some data ∧ c'.states = c.states ++ data.tables.toList) ∨
    (∃ i, a = .client i .sendInitial ∧ s.clients[i]? = some c) ∧
      c'.states = c.states ++ c.initial.tables.toList
  initial : ∀ t ∈ c'.initial.tables, t ∈ c.initial.tables ∨ t = s.cache
  has : Has s.cache c → Has s.cache c'

section

variable {s s' : State σ τ} {a : Hub.Action σ τ} {c c' : Client σ τ} {b : ClientAction τ} {tables : σ}

theorem Moves.refl : Moves s a c c :=
  ⟨⟨[], (List.append_nil _).symm⟩, .inl (.refl _), fun _ => .inl, id⟩

theorem offer_frame (c : Client σ τ) (data : Message σ τ) :
    (c.offer data).wire = c.wire ∧ (c.offer data).pumping = c.pumping := by
  unfold Client.offer
  split <;> exact ⟨rfl, rfl⟩

theorem Moves.offer {data : Message σ τ} (h : s.hand = some data) : Moves s a c (c.offer data) := by
  obtain ⟨hrole, hinitial, hconnection⟩ := c.offer_eq data
  obtain ⟨hwire, hpumping⟩ := offer_frame c data
  refine ⟨⟨[], by rw [hwire, List.append_nil]⟩, ?_, ?_, ?_⟩
  · rcases c.offer_states data with hstates | ⟨-, hstates⟩
    · rw [hstates]
      exact .inl (.refl _)
    · exact .inr (.inl ⟨data, h, hstates⟩)
  · rw [hinitial]
    exact fun _ => .inl
  · intro hhas hregistered hstaff hpump
    rw [hinitial]
    rw [hconnection] at hregistered
    rw [hrole] at hstaff
    rw [hpumping] at hpump
    refine (hhas hregistered hstaff hpump).imp_left fun hmem => ?_
    rcases c.offer_states data with hstates | ⟨-, hstates⟩
    · rwa [hstates]
    · rw [hstates]
      exact List.mem_append_left _ hmem

/-- What a broadcast holds, every registered client of the staff with room is sent. -/
theorem has_offer {data : Message σ τ} (hroom : c.send.buf.length < c.send.cap)
    (hdata : data.tables = some tables) : Has tables (c.offer data) := by
  intro _ hstaff _
  rw [(c.offer_eq data).1] at hstaff
  have hsend : c.offer data = { c with send := { c.send with buf := c.send.buf ++ [data] } } := by
    rw [← trySend_room data hroom]
    exact if_neg (not_not.2 hstaff)
  left
  rw [hsend, Client.states, Client.queued]
  simp [hdata]

theorem step_wire (h : c.step tables b = some c') : ∃ more, c'.wire = c.wire ++ more := by
  cases b with
  | write =>
    simp only [Client.step] at h
    split at h
    · cases h
      exact ⟨_, rfl⟩
    · cases h
  | sendInitial =>
    simp only [Client.step] at h
    split at h
    · split at h
      · cases h
        exact ⟨[], (List.append_nil _).symm⟩
      · cases h
    · cases h
  | _ =>
    simp only [Client.step] at h
    split at h
    all_goals
      cases h
      try exact ⟨[], (List.append_nil _).symm⟩

/-- A client loses a message only with its write pump. -/
theorem step_states (h : c.step tables b = some c') (hpumping : c'.pumping) :
    c.pumping ∧ c.states.Sublist c'.states := by
  cases b with
  | write =>
    simp only [Client.step] at h
    split at h
    · rename_i msg rest hpump hbuf
      cases h
      refine ⟨hpump, ?_⟩
      simp [Client.states, Client.queued, hbuf]
    · cases h
  | failWrite =>
    simp only [Client.step] at h
    split at h
    · cases h
      cases hpumping
    · cases h
  | stopPump =>
    simp only [Client.step] at h
    split at h
    · cases h
      cases hpumping
    · cases h
  | sendInitial =>
    simp only [Client.step] at h
    split at h
    · split at h
      · rename_i data _ hroom
        cases h
        refine ⟨hpumping, ?_⟩
        rw [trySend_room _ hroom, Client.sent_states]
        exact List.sublist_append_left _ _
      · cases h
    · cases h
  | _ =>
    simp only [Client.step] at h
    split at h
    all_goals
      cases h
      try exact ⟨hpumping, .refl _⟩

theorem Moves.client {i : Nat} (hc : s.clients[i]? = some c) (h : c.step s.cache b = some c') :
    Moves s (.client i b) c c' := by
  have hhas : Has s.cache c → c'.role = c.role →
      (c'.connection = .registered → c.connection = .registered) →
      (c.initial = .begun ∨ s.cache ∈ c.initial.tables → s.cache ∈ c'.states ∨
        c'.initial = .begun ∨ s.cache ∈ c'.initial.tables) → Has s.cache c' := by
    intro hhas hrole hconnection hinitial hregistered hstaff hpumping
    obtain ⟨hpump, hstates⟩ := step_states h hpumping
    rw [hrole] at hstaff
    rcases hhas (hconnection hregistered) hstaff hpump with hmem | hmore
    · exact .inl (hstates.subset hmem)
    · exact hinitial hmore
  rcases Client.step_cases h with ⟨hrole, hinitial, hsub, hconnection⟩ | ⟨_, -, hbegun, rfl⟩ |
    ⟨_, t, _, hread, rfl⟩ | ⟨data, rfl, hdata, rfl⟩ | ⟨hcancelled, rfl⟩
  · refine ⟨step_wire h, .inl (hsub.filterMap _), by rw [hinitial]; exact fun _ => .inl, ?_⟩
    refine fun hc => hhas hc hrole hconnection ?_
    rw [hinitial]
    exact .inr
  · refine ⟨step_wire h, .inl (.refl _), ?_, fun hc => hhas hc rfl id fun _ => .inr (.inr rfl)⟩
    rintro t ⟨⟩
    exact .inr rfl
  · have htables : c.initial.tables = some t := by rw [hread]; rfl
    refine ⟨step_wire h, .inl (.refl _), ?_, fun hc => hhas hc rfl id ?_⟩
    · rw [htables]
      exact fun _ => .inl
    · rw [htables, hread]
      exact fun hor => hor.elim nofun fun hmem => .inr (.inr hmem)
  · have htables : c.initial.tables = data.tables := by rw [hdata]; rfl
    refine ⟨step_wire h, .inr (.inr ⟨⟨i, rfl, hc⟩, ?_⟩), nofun, fun hc => hhas hc rfl id ?_⟩
    · rw [Client.sent_states, htables]
    · rw [htables, hdata, Client.sent_states]
      exact fun hor => hor.elim nofun fun hmem =>
        .inl (List.mem_append_right _ (Option.mem_toList.2 hmem))
  · refine ⟨step_wire h, .inl (.refl _), nofun, fun _ hregistered => ?_⟩
    exact absurd (hcancelled.symm.trans hregistered) (by simp)

/-- Every client of before has made a move, and all others are new. -/
theorem step_moves (hstep : s.step a = some s') :
    (∀ (i : Nat) c, s.clients[i]? = some c → ∃ c', s'.clients[i]? = some c' ∧ Moves s a c c') ∧
      ∀ c' ∈ s'.clients, (∃ c ∈ s.clients, Moves s a c c') ∨ ∃ role, c' = .new role := by
  rcases State.step_clients hstep with h | ⟨role, -, h⟩ | ⟨data, -, hhand, h⟩ |
    ⟨j, b, c₀, c₁, rfl, hc₀, hcc, h⟩
  · rw [h]
    exact ⟨fun i c hc => ⟨c, hc, .refl⟩, fun c hc => .inl ⟨c, hc, .refl⟩⟩
  · rw [h]
    constructor
    · intro i c hc
      exact ⟨c, by rw [List.getElem?_append_left (List.getElem?_eq_some_iff.1 hc).1, hc], .refl⟩
    · intro c hc
      rcases List.mem_append.1 hc with hc | hc
      · exact .inl ⟨c, hc, .refl⟩
      · exact .inr ⟨role, List.mem_singleton.1 hc⟩
  · rw [h, offerAll]
    have hmoves : ∀ c, Moves s a c (if c.connection = .registered then c.offer data else c) := by
      intro c
      split
      · exact .offer hhand
      · exact .refl
    constructor
    · intro i c hc
      exact ⟨_, by rw [List.getElem?_map, hc]; rfl, hmoves c⟩
    · intro c' hc'
      obtain ⟨c, hc, rfl⟩ := List.mem_map.1 hc'
      exact .inl ⟨c, hc, hmoves c⟩
  · rw [h]
    constructor
    · intro i c hc
      by_cases hij : j = i
      · subst hij
        obtain rfl := Option.some.inj (hc₀.symm.trans hc)
        refine ⟨c₁, ?_, .client hc₀ hcc⟩
        rw [List.getElem?_set_self (List.getElem?_eq_some_iff.1 hc).1]
      · exact ⟨c, by rw [List.getElem?_set_ne hij, hc], .refl⟩
    · intro c' hc'
      rcases List.mem_or_eq_of_mem_set hc' with hc' | rfl
      · exact .inl ⟨c', hc', .refl⟩
      · exact .inl ⟨c₀, List.mem_of_getElem? hc₀, .client hc₀ hcc⟩

end

/-! ## What is on its way -/

section

variable {version : σ → Nat} {s s' : State σ τ} {a : Hub.Action σ τ}

/-- A snapshot leaves its way with a broadcast of it, and a new one is of the cache. -/
theorem way_step (hstep : s.step a = some s') (hok : Orderly version s a)
    (hmutate : ∀ tables, a ≠ .mutate tables) : s'.cache = s.cache ∧
      (a = .takeSnapshot → s.cache ∈ s'.onTheWay) ∧
      ∀ t ∈ s.onTheWay, t ∈ s'.onTheWay ∨ a = .broadcast ∧ t ∈ s.inHand := by
  cases a with
  | mutate tables => exact absurd rfl (hmutate tables)
  | takeSnapshot =>
    cases hstep
    refine ⟨rfl, fun _ => by simp [State.onTheWay], fun t ht => .inl ?_⟩
    simp only [State.onTheWay, State.inHand, List.mem_append, List.mem_singleton] at ht ⊢
    tauto
  | sendSnapshot k =>
    obtain ⟨tables, htables, rfl⟩ := Option.map_eq_some_iff.1 hstep
    refine ⟨rfl, by simp, fun t ht => .inl ?_⟩
    rw [trySend_room _ hok.1]
    simp only [State.onTheWay, State.inHand, List.mem_append, List.mem_singleton] at ht ⊢
    rcases ht with (ht | ht) | ht
    · obtain ⟨j, hj⟩ := List.mem_iff_getElem?.1 ht
      by_cases hjk : j = k
      · subst hjk
        exact .inl (.inr (.inr (Option.some.inj (hj.symm.trans htables))))
      · exact .inl (.inl (List.mem_eraseIdx_iff_getElem?.2 ⟨j, hjk, hj⟩))
    · exact .inl (.inr (.inl ht))
    · exact .inr ht
  | sendTimeline timeline =>
    cases hstep
    exact ⟨rfl, by simp, fun t ht => .inl ht⟩
  | receiveTables =>
    simp only [State.step] at hstep
    split at hstep
    · rename_i tables rest hhand hbuf
      cases hstep
      refine ⟨rfl, by simp, fun t ht => .inl ?_⟩
      simp only [State.onTheWay, State.inHand, hhand, hbuf, List.mem_append, List.mem_cons] at ht ⊢
      simp [Message.tables] at ht ⊢
      tauto
    · cases hstep
  | receiveTimeline =>
    simp only [State.step] at hstep
    split at hstep
    · rename_i timeline rest hhand hbuf
      cases hstep
      refine ⟨rfl, by simp, fun t ht => .inl ?_⟩
      simp only [State.onTheWay, State.inHand, hhand, List.mem_append] at ht ⊢
      simp at ht ⊢
      tauto
    · cases hstep
  | broadcast =>
    have hway : ∀ t ∈ s.onTheWay, t ∈ s.snapshots ++ s.tablesCh.buf ∨ t ∈ s.inHand := by
      intro t ht
      exact (List.mem_append.1 ht).imp_right Option.mem_toList.1
    have hleft : ∀ s' : State σ τ, ∀ t ∈ s'.snapshots ++ s'.tablesCh.buf, t ∈ s'.onTheWay :=
      fun _ _ ht => List.mem_append_left _ ht
    simp only [State.step] at hstep
    split at hstep
    · cases hstep
      exact ⟨rfl, by simp, fun t ht => (hway t ht).imp (hleft _ t) fun hhand => ⟨rfl, hhand⟩⟩
    · cases hstep
      exact ⟨rfl, by simp, fun t ht => (hway t ht).imp (hleft _ t) fun hhand => ⟨rfl, hhand⟩⟩
    · cases hstep
  | connect role =>
    cases hstep
    exact ⟨rfl, by simp, fun t ht => .inl ht⟩
  | client i b =>
    obtain ⟨c, hc, hstep⟩ := Option.bind_eq_some_iff.1 hstep
    obtain ⟨c', hc', rfl⟩ := Option.map_eq_some_iff.1 hstep
    exact ⟨rfl, by simp, fun t ht => .inl ht⟩

theorem Known.step {t : σ} (h : Site.Known version s t) (hstep : s.step a = some s')
    (hok : Orderly version s a) : Site.Known version s' t := by
  by_cases hmutate : ∃ tables, a = .mutate tables
  · obtain ⟨tables, rfl⟩ := hmutate
    cases hstep
    right
    rcases h with rfl | hlt
    · exact hok
    · exact hlt.trans hok
  · rw [Site.Known, (way_step hstep hok fun tables htables => hmutate ⟨tables, htables⟩).1]
    exact h

end

/-! ## The site -/

/-- `before` is what a page had shown when its socket became client `c`; what it gets since is not
older. -/
structure Attached (version : σ → Nat) (p : Page σ τ) (c : Client σ τ) (n : Nat) (before : List σ) :
    Prop where
  shown : p.shown = before ++ (c.wire.take n).filterMap Message.tables
  handled : n ≤ c.wire.length
  initial : ∀ t ∈ c.initial.tables, ∀ u ∈ before, version u ≤ version t
  states : ∀ t ∈ c.states, ∀ u ∈ before, version u ≤ version t

structure PageInv (version : σ → Nat) (s : State σ τ) (p : Page σ τ) : Prop where
  sound : p.connections.Sound
  linked : ∀ i, p.link i ≠ none → i < p.connections.sockets.length
  store : p.store.tables = p.shown.getLast?
  shown : ∀ t ∈ p.shown, Site.Known version s t ∧ Settled version s t
  order : p.shown.Pairwise fun t u => version t ≤ version u
  attached : ∀ i j n, p.connections.Live i → p.link i = some (j, n) →
    ∃ c before, s.clients[j]? = some c ∧ Attached version p c n before

structure ClientInv (version : σ → Nat) (s : State σ τ) (c : Client σ τ) : Prop where
  states : ∀ t ∈ c.states, Site.Known version s t ∧ Settled version s t
  initial : ∀ t ∈ c.initial.tables, Site.Known version s t

structure Inv (version : σ → Nat) (cache : σ) (s : Site σ τ) : Prop where
  hub : Hub.Reaches (fun s a => Orderly version s a ∧ Undisturbed (fun _ => True) s a) cache s.hub
  way : ∀ t ∈ s.hub.onTheWay, Site.Known version s.hub t
  clients : ∀ c ∈ s.hub.clients, ClientInv version s.hub c
  has : s.mutating = 0 → s.hub.cache ∉ s.hub.onTheWay → ∀ c ∈ s.hub.clients, Has s.hub.cache c
  pages : ∀ p ∈ s.pages, PageInv version s.hub p

section

variable {version : σ → Nat} {s s' : State σ τ} {a : Hub.Action σ τ} {c c' : Client σ τ}

theorem Known.le {t : σ} (h : Site.Known version s t) : version t ≤ version s.cache :=
  h.elim (fun heq => heq ▸ le_rfl) le_of_lt

/-- `INITIAL_STATE` is queued when no older tables are on their way. -/
def Punctual (version : σ → Nat) (s : State σ τ) : Hub.Action σ τ → Prop
  | .client i .sendInitial => ∀ c ∈ s.clients[i]?, ∀ tables ∈ c.initial.tables,
      ∀ t ∈ s.onTheWay, version tables ≤ version t
  | _ => True

theorem audience_all : Audience fun _ : Client σ τ => True :=
  ⟨fun _ _ => trivial, fun _ _ _ _ _ => trivial⟩

theorem punctual_of_undisturbed (h : InitialInv version (fun _ => True) s) : Punctual version s a := by
  cases a with
  | client i b =>
    cases b with
    | sendInitial =>
      intro c hc tables htables
      exact (h.fits hc htables).2 trivial
    | _ => trivial
  | _ => trivial

theorem settled_step {t : σ} (h : Settled version s t) (hstep : s.step a = some s')
    (hok : Orderly version s a) : Settled version s' t :=
  have ⟨hreceived, hcache, hway⟩ := State.step_frame hstep hok
  h.mono hreceived hcache hway

/-- What a client is sent in a step was sent before, is in hand, or is its punctual `INITIAL_STATE`. -/
theorem Moves.sent (h : Moves s a c c') (hpunctual : Punctual version s a) :
    ∀ t ∈ c'.states, t ∈ c.states ∨ t ∈ s.inHand ∨
      t ∈ c.initial.tables ∧ ∀ u ∈ s.onTheWay, version t ≤ version u := by
  intro t ht
  rcases h.states with hsub | ⟨data, hdata, hstates⟩ | ⟨⟨i, rfl, hc⟩, hstates⟩
  · exact .inl (hsub.subset ht)
  · rw [hstates, List.mem_append, Option.mem_toList] at ht
    refine ht.imp_right fun ht => .inl ?_
    rw [State.inHand, hdata]
    exact ht
  · rw [hstates, List.mem_append, Option.mem_toList] at ht
    exact ht.imp_right fun ht => .inr ⟨ht, hpunctual c hc t ht⟩

theorem ClientInv.move (h : ClientInv version s c) (hs : InOrder version s)
    (hway : ∀ t ∈ s.onTheWay, Site.Known version s t) (hmoves : Moves s a c c')
    (hstep : s.step a = some s') (hok : Orderly version s a)
    (hpunctual : Punctual version s a) : ClientInv version s' c' := by
  constructor
  · intro t ht
    have hknown : Site.Known version s t ∧ Settled version s t := by
      rcases hmoves.sent hpunctual t ht with ht | ht | ⟨ht, hall⟩
      · exact h.states t ht
      · obtain ⟨earlier, hreceived⟩ := hs.hand t ht
        refine ⟨hway t (List.mem_append_right _ (Option.mem_toList.2 ht)), .inl ⟨t, ?_, le_rfl⟩⟩
        rw [hreceived]
        exact List.mem_append_right _ (List.mem_singleton.2 rfl)
      · exact ⟨h.initial t ht, .inr ⟨Known.le (h.initial t ht), hall⟩⟩
    exact ⟨Known.step hknown.1 hstep hok, settled_step hknown.2 hstep hok⟩
  · intro t ht
    refine Known.step ?_ hstep hok
    rcases hmoves.initial t ht with ht | rfl
    · exact h.initial t ht
    · exact .inl rfl

theorem Attached.move {p : Page σ τ} {n : Nat} {before : List σ} (h : Attached version p c n before)
    (hp : PageInv version s p) (hs : InOrder version s) (hmoves : Moves s a c c')
    (hpunctual : Punctual version s a) : Attached version p c' n before := by
  have hbefore : ∀ u ∈ before, Site.Known version s u ∧ Settled version s u := by
    intro u hu
    refine hp.shown u ?_
    rw [h.shown]
    exact List.mem_append_left _ hu
  obtain ⟨more, hwire⟩ := hmoves.wire
  refine ⟨?_, ?_, ?_, ?_⟩
  · rw [hwire, List.take_append_of_le_length h.handled]
    exact h.shown
  · rw [hwire, List.length_append]
    exact h.handled.trans (Nat.le_add_right _ _)
  · intro t ht u hu
    rcases hmoves.initial t ht with ht | rfl
    · exact h.initial t ht u hu
    · exact Known.le (hbefore u hu).1
  · intro t ht u hu
    rcases hmoves.sent hpunctual t ht with ht | ht | ⟨ht, -⟩
    · exact h.states t ht u hu
    · exact hs.settled_le (hbefore u hu).2 ht
    · exact h.initial t ht u hu

theorem PageInv.move {p : Page σ τ} (h : PageInv version s p) (hs : InOrder version s)
    (hstep : s.step a = some s') (hok : Orderly version s a)
    (hpunctual : Punctual version s a) : PageInv version s' p := by
  refine ⟨h.sound, h.linked, h.store, fun t ht => ?_, h.order, fun i j n hlive hlink => ?_⟩
  · exact ⟨Known.step (h.shown t ht).1 hstep hok, settled_step (h.shown t ht).2 hstep hok⟩
  · obtain ⟨c, before, hc, hattached⟩ := h.attached i j n hlive hlink
    obtain ⟨c', hc', hmoves⟩ := (step_moves hstep).1 j c hc
    exact ⟨c', before, hc', hattached.move h hs hmoves hpunctual⟩

/-- The server accepts a socket of the page. -/
theorem PageInv.accept {p : Page σ τ} (h : PageInv version s p) {i : Nat} {role : String}
    (hi : i < p.connections.sockets.length) :
    PageInv version { s with clients := s.clients ++ [.new role] }
      { p with link := Function.update p.link i (some (s.clients.length, 0)) } := by
  refine ⟨h.sound, ?_, h.store, h.shown, h.order, ?_⟩
  · intro j hj
    by_cases hji : j = i
    · rwa [hji]
    · have hlink : Function.update p.link i (some (s.clients.length, 0)) j ≠ none := hj
      rw [Function.update_of_ne hji] at hlink
      exact h.linked j hlink
  · intro j k n hlive hlink
    dsimp only at hlink
    by_cases hji : j = i
    · subst hji
      rw [Function.update_self] at hlink
      obtain ⟨rfl, rfl⟩ := Prod.mk.inj (Option.some.inj hlink)
      refine ⟨.new role, p.shown, by simp, by simp, Nat.zero_le _, ?_, ?_⟩
      · exact fun t ht => absurd ht (Option.not_mem_none t)
      · exact fun t ht => absurd ht List.not_mem_nil
    · rw [Function.update_of_ne hji] at hlink
      obtain ⟨c, before, hc, hattached⟩ := h.attached j k n hlive hlink
      refine ⟨c, before, ?_, hattached.shown, hattached.handled, hattached.initial, hattached.states⟩
      rw [List.getElem?_append_left (List.getElem?_eq_some_iff.1 hc).1, hc]

/-- A regular call or event of the page: a socket that comes to be live is a new one. -/
theorem PageInv.event {p : Page σ τ} (h : PageInv version s p) {backendUrl : String}
    {e : WebSocket.Event} {connections : WebSocket.Page}
    (hregular : WebSocket.Regular p.connections e)
    (hstep : p.connections.step backendUrl e = some connections) :
    PageInv version s { p with connections := connections } := by
  have hevolves := WebSocket.Page.evolves_step hstep
  refine ⟨h.sound.step hregular hstep, fun i hi => ?_, h.store, h.shown, h.order, ?_⟩
  · exact (h.linked i hi).trans_le hevolves.length
  · intro i j n hlive hlink
    rcases hevolves.live i hlive with hlive | hnew
    · obtain ⟨c, before, hc, hattached⟩ := h.attached i j n hlive hlink
      exact ⟨c, before, hc, hattached.shown, hattached.handled, hattached.initial, hattached.states⟩
    · have hlt := h.linked i (by rw [hlink]; exact Option.some_ne_none _)
      exact absurd hnew (Nat.not_le.2 hlt)

/-- The page shows the tables of the frame last, if it has any. The frame comes from the one socket that
is live. -/
theorem PageInv.handle {p : Page σ τ} (h : PageInv version s p) (hs : InOrder version s)
    (hclients : ∀ c ∈ s.clients, ClientInv version s c) {i j n : Nat} {m : Message σ τ}
    (hlive : p.connections.Live i) (hlink : p.link i = some (j, n)) (hc : s.clients[j]? = some c)
    (hm : c.wire[n]? = some m) : PageInv version s (p.handle m i j n) := by
  obtain ⟨c₁, before, hc₁, hattached⟩ := h.attached i j n hlive hlink
  obtain rfl := Option.some.inj (hc.symm.trans hc₁)
  have hmem := List.mem_of_getElem? hc
  have hshown : p.shown ++ m.tables.toList =
      before ++ (c.wire.take (n + 1)).filterMap Message.tables := by
    rw [hattached.shown, List.take_add_one, hm, List.filterMap_append, List.append_assoc]
    cases htables : m.tables <;> simp [htables]
  have hsub : (p.shown ++ m.tables.toList).Sublist (before ++ c.states) := by
    rw [hshown, Client.states, Client.queued]
    exact (((List.take_sublist _ _).trans (List.sublist_append_left _ _)).filterMap _).append_left _
  refine ⟨h.sound, ?_, ?_, ?_, ?_, ?_⟩
  · intro k hk
    by_cases hki : k = i
    · rw [hki]
      exact h.linked i (by rw [hlink]; exact Option.some_ne_none _)
    · have hlink' : Function.update p.link i (some (j, n + 1)) k ≠ none := hk
      rw [Function.update_of_ne hki] at hlink'
      exact h.linked k hlink'
  · simp only [Page.handle, Store.onmessage_tables, h.store]
    cases m.tables <;> simp
  · intro t ht
    rcases List.mem_append.1 ht with ht | ht
    · exact h.shown t ht
    · refine (hclients c hmem).states t (List.mem_filterMap.2 ⟨m, ?_, Option.mem_toList.1 ht⟩)
      exact List.mem_append_left _ (List.mem_of_getElem? hm)
  · refine List.Pairwise.sublist hsub (List.pairwise_append.2 ⟨?_, (hs.clients c hmem).states, ?_⟩)
    · refine h.order.sublist ?_
      rw [hattached.shown]
      exact List.sublist_append_left _ _
    · exact fun u hu t ht => hattached.states t ht u hu
  · intro k j' n' hlive' hlink'
    have hki : k = i := by
      have hheld := h.sound.live hlive'
      rw [h.sound.live hlive, Option.some.injEq] at hheld
      exact hheld.symm
    subst hki
    simp only [Page.handle, Function.update_self] at hlink'
    obtain ⟨rfl, rfl⟩ := Prod.mk.inj (Option.some.inj hlink')
    exact ⟨c, before, hc, hshown, Nat.succ_le_of_lt (List.getElem?_eq_some_iff.1 hm).1,
      hattached.initial, hattached.states⟩

end

/-! ## Every run -/

section

variable {version : σ → Nat} {cache : σ} {s s' : Site σ τ} {a : Hub.Action σ τ}

theorem Site.hubStep_cases (h : s.hubStep a = some s') :
    s.hub.step a = some s'.hub ∧ s'.pages = s.pages ∧ (∀ role, a ≠ .connect role) ∧
      ((∃ tables, a = .mutate tables) ∧ s'.mutating ≠ 0 ∨ a = .takeSnapshot ∨
        (∀ tables, a ≠ .mutate tables) ∧ a ≠ .takeSnapshot ∧ s'.mutating = s.mutating) := by
  cases a with
  | connect role => cases h
  | mutate tables =>
    cases h
    exact ⟨rfl, rfl, nofun, .inl ⟨⟨_, rfl⟩, Nat.succ_ne_zero _⟩⟩
  | takeSnapshot =>
    simp only [Site.hubStep] at h
    split at h
    · cases h
    · cases h
      exact ⟨rfl, rfl, nofun, .inr (.inl rfl)⟩
  | sendTimeline timeline =>
    cases h
    exact ⟨rfl, rfl, nofun, .inr (.inr ⟨nofun, nofun, rfl⟩)⟩
  | _ =>
    obtain ⟨hub, hhub, rfl⟩ := Option.map_eq_some_iff.1 h
    exact ⟨hhub, rfl, nofun, .inr (.inr ⟨nofun, nofun, rfl⟩)⟩

/-- The hub has become quiet about the cache because it broadcasts the cache, or it was so before. -/
theorem Site.hubStep_has (hstep : s.hubStep a = some s') (hok : Orderly version s.hub a)
    (hhas : s.mutating = 0 → s.hub.cache ∉ s.hub.onTheWay → ∀ c ∈ s.hub.clients, Has s.hub.cache c)
    (hzero : s'.mutating = 0) (hway : s'.hub.cache ∉ s'.hub.onTheWay) :
    ∀ c ∈ s'.hub.clients, Has s'.hub.cache c := by
  obtain ⟨hhub, -, -, ⟨-, hmutating⟩ | hrest⟩ := Site.hubStep_cases hstep
  · exact absurd hzero hmutating
  · have hmutate : ∀ tables, a ≠ .mutate tables := by
      rintro tables rfl
      rcases hrest with h | ⟨h, -⟩
      · cases h
      · exact h tables rfl
    obtain ⟨hcache, hsnapshot, hleave⟩ := way_step hhub hok hmutate
    rw [hcache] at hway ⊢
    rcases hrest with htake | ⟨-, -, hmutating⟩
    · exact absurd (hsnapshot htake) hway
    · intro c' hc'
      by_cases hbefore : s.hub.cache ∈ s.hub.onTheWay
      · obtain ⟨rfl, hhand⟩ := (hleave _ hbefore).resolve_left hway
        obtain ⟨data, hdata, htables⟩ := Option.bind_eq_some_iff.1 hhand
        have hclients : s'.hub.clients = offerAll data s.hub.clients := by
          simp only [State.step, hdata] at hhub
          split at hhub
          · rename_i hmessage
            rw [← Option.some.inj hhub, Option.some.inj hmessage]
            rfl
          · rename_i hmessage
            rw [← Option.some.inj hhub, Option.some.inj hmessage]
            rfl
          · cases hhub
        rw [hclients, offerAll] at hc'
        obtain ⟨c, hc, rfl⟩ := List.mem_map.1 hc'
        split
        · exact has_offer (hok c hc) htables
        · rename_i hnot
          exact fun hregistered => absurd hregistered hnot
      · rcases (step_moves hhub).2 c' hc' with ⟨c, hc, hmoves⟩ | ⟨role, rfl⟩
        · exact hmoves.has (hhas (hmutating ▸ hzero) hbefore c hc)
        · exact fun _ _ _ => .inr (.inl rfl)

theorem inv_start : Inv version cache (.start cache : Site σ τ) :=
  ⟨.refl, fun _ h => absurd h List.not_mem_nil, fun _ h => absurd h List.not_mem_nil,
    fun _ _ _ h => absurd h List.not_mem_nil, fun _ h => absurd h List.not_mem_nil⟩

theorem Inv.inOrder (h : Inv version cache s) :
    InOrder version s.hub ∧ InitialInv version (fun _ => True) s.hub :=
  (reaches_timely audience_all h.hub).imp_left reaches_inOrder

/-- A step of the hub itself, by `hubStep` or for a socket that is accepted. -/
theorem Inv.hub_step (h : Inv version cache s) (hstep : s.hub.step a = some s'.hub)
    (hok : Orderly version s.hub a) (hundisturbed : Undisturbed (fun _ => True) s.hub a)
    (hhas : s'.mutating = 0 → s'.hub.cache ∉ s'.hub.onTheWay →
      ∀ c ∈ s'.hub.clients, Has s'.hub.cache c)
    (hpages : ∀ p ∈ s'.pages, PageInv version s'.hub p) : Inv version cache s' := by
  obtain ⟨hs, hinitial⟩ := h.inOrder
  refine ⟨h.hub.tail ⟨a, ⟨hok, hundisturbed⟩, hstep⟩, ?_, ?_, hhas, hpages⟩
  · intro t ht
    refine Known.step ?_ hstep hok
    rcases (State.step_frame hstep hok).2.2 t ht with ht | rfl
    · exact h.way t ht
    · exact .inl rfl
  · intro c' hc'
    rcases (step_moves hstep).2 c' hc' with ⟨c, hc, hmoves⟩ | ⟨role, rfl⟩
    · exact (h.clients c hc).move hs h.way hmoves hstep hok (punctual_of_undisturbed hinitial)
    · exact ⟨fun _ ht => absurd ht List.not_mem_nil, fun t ht => absurd ht (Option.not_mem_none t)⟩

/-- A step that changes one page only. -/
theorem Inv.set_page (h : Inv version cache s) {k : Nat} {p' : Page σ τ}
    (hp' : PageInv version s.hub p') : Inv version cache { s with pages := s.pages.set k p' } := by
  refine ⟨h.hub, h.way, h.clients, h.has, fun q hq => ?_⟩
  rcases List.mem_or_eq_of_mem_set hq with hq | rfl
  · exact h.pages q hq
  · exact hp'

theorem Inv.step {backendUrl : String} {b : Action σ τ} (h : Inv version cache s)
    (hok : Site.Steady version s b) (hstep : s.step backendUrl b = some s') :
    Inv version cache s' := by
  obtain ⟨hs, hinitial⟩ := h.inOrder
  cases b with
  | hub a =>
    obtain ⟨hhub, hpages, -, -⟩ := Site.hubStep_cases hstep
    refine h.hub_step hhub hok.1 hok.2 (Site.hubStep_has hstep hok.1 h.has) fun p hp => ?_
    rw [hpages] at hp
    exact (h.pages p hp).move hs hhub hok.1 (punctual_of_undisturbed hinitial)
  | openPage =>
    cases hstep
    refine ⟨h.hub, h.way, h.clients, h.has, fun p hp => ?_⟩
    rcases List.mem_append.1 hp with hp | hp
    · exact h.pages p hp
    · rw [List.mem_singleton.1 hp]
      exact ⟨rfl, fun _ h => absurd rfl h, rfl, fun _ ht => absurd ht List.not_mem_nil, .nil,
        fun _ _ _ _ h => by cases h⟩
  | accept k i role =>
    obtain ⟨p, hp, hstep⟩ := Option.bind_eq_some_iff.1 hstep
    split at hstep
    · rename_i hi
      cases hstep
      refine h.hub_step (a := .connect role) rfl trivial trivial ?_ ?_
      · intro hzero hway c hc
        rcases List.mem_append.1 hc with hc | hc
        · exact h.has hzero hway c hc
        · rw [List.mem_singleton.1 hc]
          exact fun _ _ _ => .inr (.inl rfl)
      · intro q hq
        rcases List.mem_or_eq_of_mem_set hq with hq | rfl
        · exact (h.pages q hq).move (a := .connect role) hs rfl trivial trivial
        · exact (h.pages p (List.mem_of_getElem? hp)).accept hi.1
    · cases hstep
  | event k e =>
    obtain ⟨p, hp, hstep⟩ := Option.bind_eq_some_iff.1 hstep
    split at hstep
    · obtain ⟨connections, hconnections, rfl⟩ := Option.map_eq_some_iff.1 hstep
      exact h.set_page ((h.pages p (List.mem_of_getElem? hp)).event (hok p hp) hconnections)
    · cases hstep
  | frame k i =>
    obtain ⟨p, hp, hstep⟩ := Option.bind_eq_some_iff.1 hstep
    obtain ⟨connections, hconnections, hstep⟩ := Option.bind_eq_some_iff.1 hstep
    obtain ⟨x, hx, rfl⟩ := Option.map_eq_some_iff.1 hstep
    obtain ⟨⟨j, n⟩, hlink, hx⟩ := Option.bind_eq_some_iff.1 hx
    obtain ⟨c, hc, hx⟩ := Option.bind_eq_some_iff.1 hx
    obtain ⟨m, hm, rfl⟩ := Option.map_eq_some_iff.1 hx
    have hpage := (h.pages p (List.mem_of_getElem? hp)).event (e := .message i) trivial hconnections
    refine h.set_page (hpage.handle hs h.clients ?_ hlink hc hm)
    exact WebSocket.Page.live_of_message hconnections

theorem Inv.current (h : Inv version cache s) (hquiet : s.Quiet) {p : Page σ τ} (hp : p ∈ s.pages)
    (hup : s.UpToDate p) : p.store.tables = some s.hub.cache := by
  obtain ⟨i, j, c, hlive, hlink, hc, hregistered, hstaff, hpumping, hover, hempty⟩ := hup
  have hpage := h.pages p hp
  obtain ⟨c₁, before, hc₁, hattached⟩ := hpage.attached i j _ hlive hlink
  obtain rfl := Option.some.inj (hc.symm.trans hc₁)
  have hway : s.hub.cache ∉ s.hub.onTheWay := by
    rw [hquiet.2]
    exact List.not_mem_nil
  have hsent : s.hub.cache ∈ c.states := by
    refine (h.has hquiet.1 hway c (List.mem_of_getElem? hc) hregistered hstaff hpumping).elim id ?_
    rw [hover]
    exact fun hmore => hmore.elim (fun h => by cases h) fun h => absurd h (Option.not_mem_none _)
  have hmem : s.hub.cache ∈ p.shown := by
    rw [hattached.shown, List.take_length]
    rw [Client.states, Client.queued, hempty, List.append_nil] at hsent
    exact List.mem_append_right _ hsent
  rw [hpage.store]
  cases hlast : p.shown.getLast? with
  | none =>
    rw [List.getLast?_eq_none_iff.1 hlast] at hmem
    exact absurd hmem List.not_mem_nil
  | some t =>
    obtain ⟨earlier, hshown⟩ := List.getLast?_eq_some_iff.1 hlast
    -- nothing that is shown after the cache is older, and nothing is newer
    rcases (hpage.shown t (List.mem_of_getLast? hlast)).1 with rfl | hlt
    · rfl
    · have horder := hpage.order
      rw [hshown, List.pairwise_append] at horder
      rw [hshown, List.mem_append, List.mem_singleton] at hmem
      rcases hmem with hmem | rfl
      · exact absurd (horder.2.2 _ hmem t (List.mem_singleton.2 rfl)) (Nat.not_le.2 hlt)
      · rfl

/-- In every steady run the pages follow the cache. -/
theorem Site.pages_follow {backendUrl : String} (h : Site.Reaches version backendUrl cache s) :
    Site.Follows version s := by
  have hinv : Inv version cache s :=
    h.invariant inv_start fun _ _ _ hs hok hstep => Inv.step hs hok hstep
  exact ⟨fun p hp t ht => ((hinv.pages p hp).shown t ht).1, fun p hp => (hinv.pages p hp).store,
    fun p hp => (hinv.pages p hp).order, fun hquiet p hp hup => Inv.current hinv hquiet hp hup⟩

end

instance (s : Site Nat τ) (a : Action Nat τ) : Decidable (Site.Steady id s a) := by
  cases a <;> unfold Site.Steady <;> infer_instance

/-- The mutation to `tables`, its snapshot and the broadcast. -/
def mutateAndBroadcast (tables : Nat) : List (Action Nat Nat) :=
  [.hub (.mutate tables), .hub .takeSnapshot, .hub (.sendSnapshot 0), .hub .receiveTables,
    .hub .broadcast]

/-- `INITIAL_STATE` of client `i`, read, queued and written. -/
def greet (i : Nat) : List (Action Nat Nat) :=
  [.hub (.client i (.readTables 0)), .hub (.client i (.readTimeline (some 7))),
    .hub (.client i .sendInitial), .hub (.client i .write)]

/-- Socket `i` of page `p` is accepted and opens. -/
def accepted (p i : Nat) (role : String) : List (Action Nat Nat) :=
  [.accept p i role, .event p (.opened i)]

/-- An admin's page loses its connection, reconnects and is sent a broadcast before its second
`INITIAL_STATE`; a TV connects in between. -/
theorem pages_follow_reconnected : ∃ s : Site Nat Nat, Site.Follows id s ∧ s.Quiet ∧
    s.pages.map (fun p => (p.store, p.shown)) =
      [(⟨some 2, some 7⟩, [0, 1, 2, 2]), (⟨some 1, none⟩, [1])] := by
  have hrun : (runIf (Site.step "") (Site.Steady id)
      ([.openPage, .event 0 (.connectSocket "a")] ++ accepted 0 0 "admin" ++ greet 0 ++ [.frame 0 0] ++
        mutateAndBroadcast 1 ++ [.hub (.client 0 .write), .frame 0 0, .event 0 (.closed 0),
        .event 0 .reconnect] ++ accepted 0 1 "admin" ++ [.openPage, .event 1 (.connectSocket "t")] ++
        accepted 1 0 "tv" ++ greet 2 ++ [.frame 1 0] ++ mutateAndBroadcast 2 ++ greet 1 ++
        [.hub (.client 1 .write), .frame 0 1, .frame 0 1]) (.start 0 : Site Nat Nat)).map
      (fun s => (s.mutating, s.hub.onTheWay, s.pages.map fun p => (p.store, p.shown))) =
      some (0, [], [(⟨some 2, some 7⟩, [0, 1, 2, 2]), (⟨some 1, none⟩, [1])]) := by decide +kernel
  obtain ⟨s, hs, hend⟩ := Option.map_eq_some_iff.1 hrun
  obtain ⟨hmutating, hend⟩ := Prod.mk.inj hend
  obtain ⟨hway, hpages⟩ := Prod.mk.inj hend
  exact ⟨s, Site.pages_follow (reaches_of_runIf hs), ⟨hmutating, hway⟩, hpages⟩

end GbcVenue.LivePages
