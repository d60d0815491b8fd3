import GbcVenue.Frontend.OneSocket

/-!
# The socket of a session

`AuthContext` and `SocketManager` around the WebSocket module: the provider reports users, React runs
effects, and calls for tokens end some time after they began. `SignedOut` says that once the effects have
seen a sign-out no socket is live and none is on its way, and `signed_out_no_socket` that this holds in
every run in which no token that a tab asked for on becoming visible arrives after the sign-out: of all
the calls for tokens that is the one whose result is not checked again.
-/

namespace GbcVenue.WebSocket

open Interleaving

/-- A call for a token or its claims that has not ended: `AuthContext`'s, that of an effect with its
`mounted` flag, the one of a tab that became visible, and the one after a refresh. -/
inductive Task
  | claims
  | setup (mounted : Bool)
  | visible
  | refreshed
  deriving DecidableEq

/-- The `WebSocket` module, `auth.currentUser`, the state of `AuthContext`, where the objects for users
have numbers, the user that the effects of `SocketManager` last saw, and the calls for tokens. -/
structure Session where
  page : Page
  currentUser : Bool
  user : Option Nat
  loading : Bool
  users : Nat
  seen : Option (Option Nat)
  tasks : List Task
  deriving DecidableEq

inductive SessionEvent
  | authStateChanged (signedIn : Bool)
  | effects
  | visibilityChange
  | idTokenChanged
  | resolved (i : Nat) (token : String)
  | rejected (i : Nat)
  | socket (e : Event)
  deriving DecidableEq

/-- `socket && socket.connected`. -/
def Page.connected (p : Page) : Bool :=
  (p.socketInstance.bind fun w => heldState p.sockets w) = some .open

/-- `socket.auth.token`. -/
def Page.token (p : Page) : Option String := p.socketInstance.bind Wrapper.token

/-- The effect's cleanup. -/
def Task.unmount : Task → Task
  | .setup _ => .setup false
  | t => t

/-- Whether a token that a call brings goes to `connectSocket`. -/
def Task.connects (p : Page) (token : String) : Task → Bool
  | .claims => false
  | .setup mounted => mounted
  | .visible => true
  | .refreshed => p.connected ∧ p.token ≠ some token

/-- An event of the browser, not a call of the module. -/
def Event.ofBrowser : Event → Bool
  | .connectSocket _ | .disconnectSocket => false
  | _ => true

namespace Session

variable (backendUrl : String)

/-- The effects of `SocketManager` after a render: it is mounted once nothing is loading, and they run
when the user is another one. -/
def effects (s : Session) : Option Session :=
  if s.loading ∨ s.seen = some s.user then none
  else
    let s := { s with tasks := s.tasks.map Task.unmount, seen := some s.user }
    match s.user with
    | some _ => some (if s.currentUser then { s with tasks := s.tasks ++ [.setup true] } else s)
    | none => some { s with page := s.page.disconnectSocket }

def step (s : Session) : SessionEvent → Option Session
  | .authStateChanged true => some { s with currentUser := true, tasks := s.tasks ++ [.claims] }
  | .authStateChanged false => some { s with currentUser := false, user := none, loading := false }
  | .effects => s.effects
  | .visibilityChange =>
    match s.seen with
    | some (some _) =>
      some (if s.currentUser ∧ ¬ s.page.connected then { s with tasks := s.tasks ++ [.visible] } else s)
    | _ => none
  | .idTokenChanged =>
    match s.seen with
    | some _ => some (if s.currentUser then { s with tasks := s.tasks ++ [.refreshed] } else s)
    | none => none
  | .resolved i token =>
    match s.tasks[i]? with
    | some task =>
      let s := { s with tasks := s.tasks.eraseIdx i }
      if task = .claims then some { s with user := some s.users, users := s.users + 1, loading := false }
      else if task.connects s.page token then some { s with page := s.page.connectSocket backendUrl token }
      else some s
    | none => none
  | .rejected i =>
    match s.tasks[i]? with
    | some task =>
      let s := { s with tasks := s.tasks.eraseIdx i }
      some (if task = .claims then { s with user := none, loading := false } else s)
    | none => none
  | .socket e =>
    if e.ofBrowser then (s.page.step backendUrl e).map fun page => { s with page := page } else none

/-- The app that has just been opened. -/
def start : Session := ⟨.start, false, none, true, 0, none, []⟩

/-- Events that keep to what the module expects, and no token of a tab that became visible arrives once
the effects have seen a sign-out. -/
def Prompt (s : Session) : SessionEvent → Prop
  | .resolved i token => ∀ task ∈ s.tasks[i]?,
      (task.connects s.page token → Regular s.page (.connectSocket token)) ∧
        (task = .visible → s.seen ≠ some none)
  | .socket e => Regular s.page e
  | _ => True

/-- The sessions that events of the kind `ok` lead to. -/
abbrev Reaches (ok : Session → SessionEvent → Prop) : Session → Session → Prop :=
  GuardedReaches (step backendUrl) ok

end Session

/-! ## The invariant -/

/-- The module is sound; it is quiet unless the effects have seen a user, and only then an effect still
waits for its token. -/
structure Session.Inv (s : Session) : Prop where
  sound : s.page.Sound
  quiet : (∀ u, s.seen ≠ some (some u)) → Quiet s.page
  setup : .setup true ∈ s.tasks → ∃ u, s.seen = some (some u)
  started : s.seen = none → .visible ∉ s.tasks

section

variable {backendUrl : String} {s s' : Session}

theorem Quiet.not_connected {p : Page} (h : Quiet p) : p.connected = false := by
  rw [Page.connected, decide_eq_false_iff_not]
  intro hopen
  obtain ⟨w, -, hheld⟩ := Option.bind_eq_some_iff.1 hopen
  obtain ⟨i, -, hi⟩ := Option.bind_eq_some_iff.1 hheld
  obtain ⟨socket, hsocket, hstate⟩ := Option.map_eq_some_iff.1 hi
  exact h.live i ⟨socket, hsocket, .inr hstate⟩

theorem mem_map_unmount {tasks : List Task} : .setup true ∉ tasks.map Task.unmount := by
  intro h
  obtain ⟨t, -, ht⟩ := List.mem_map.1 h
  cases t <;> cases ht

/-- A change of the calls for tokens and of what no effect has seen yet. -/
theorem Session.Inv.update (h : s.Inv) (hpage : s'.page = s.page) (hseen : s'.seen = s.seen)
    (hsetup : .setup true ∈ s'.tasks → .setup true ∈ s.tasks)
    (hvisible : .visible ∈ s'.tasks → .visible ∈ s.tasks) : s'.Inv := by
  refine ⟨hpage ▸ h.sound, ?_, ?_, ?_⟩
  · rw [hpage, hseen]
    exact h.quiet
  · rw [hseen]
    exact fun hmem => h.setup (hsetup hmem)
  · rw [hseen]
    exact fun hnone hmem => h.started hnone (hvisible hmem)

theorem Session.Inv.effects (h : s.Inv) (hstep : s.effects = some s') : s'.Inv := by
  unfold Session.effects at hstep
  split at hstep
  · cases hstep
  · cases huser : s.user with
    | none =>
      simp only [huser] at hstep
      cases hstep
      exact ⟨h.sound.disconnectSocket, fun _ => h.sound.quiet,
        fun hmem => absurd hmem mem_map_unmount, nofun⟩
    | some u =>
      simp only [huser, Option.some.injEq] at hstep
      have hpage : s'.page = s.page := by
        rw [← hstep]
        split <;> rfl
      have hseen : s'.seen = some (some u) := by
        rw [← hstep]
        split <;> rfl
      refine ⟨hpage ▸ h.sound, fun hnot => absurd hseen (hnot u), fun _ => ⟨u, hseen⟩, ?_⟩
      rw [hseen]
      nofun

/-- A token arrives for a call that passes it on. -/
theorem Session.Inv.connects (h : s.Inv) {task : Task} (htask : task ∈ s.tasks) {token : String}
    (hconnects : task.connects s.page token) (hvisible : task = .visible → s.seen ≠ some none) :
    ∃ u, s.seen = some (some u) := by
  by_contra hnot
  rw [not_exists] at hnot
  cases task with
  | claims => cases hconnects
  | setup mounted =>
    cases hconnects
    obtain ⟨u, hu⟩ := h.setup htask
    exact hnot u hu
  | visible =>
    cases hseen : s.seen with
    | none => exact h.started hseen htask
    | some user =>
      cases user with
      | none => exact hvisible rfl hseen
      | some u => exact hnot u hseen
  | refreshed =>
    have hconnected := (of_decide_eq_true hconnects).1
    rw [(h.quiet hnot).not_connected] at hconnected
    cases hconnected

theorem Session.Inv.step (h : s.Inv) {e : SessionEvent} (he : s.Prompt e)
    (hstep : s.step backendUrl e = some s') : s'.Inv := by
  cases e with
  | authStateChanged signedIn =>
    cases signedIn with
    | true =>
      cases hstep
      exact h.update rfl rfl (by simp) (by simp)
    | false =>
      cases hstep
      exact h.update rfl rfl id id
  | effects => exact h.effects hstep
  | visibilityChange =>
    simp only [Session.step] at hstep
    split at hstep
    · rename_i u hseen
      cases hstep
      split
      · refine ⟨h.sound, h.quiet, ?_, fun hnone => ?_⟩
        · exact fun _ => ⟨u, hseen⟩
        · rw [hseen] at hnone
          cases hnone
      · exact h
    · cases hstep
  | idTokenChanged =>
    simp only [Session.step] at hstep
    split at hstep
    · cases hstep
      split
      · exact h.update rfl rfl (by simp) (by simp)
      · exact h
    · cases hstep
  | resolved i token =>
    simp only [Session.step] at hstep
    split at hstep
    · rename_i task hi
      have hmem := List.mem_of_getElem? hi
      obtain ⟨hregular, hvisible⟩ := he task hi
      split_ifs at hstep with hclaims hconnects
      · cases hstep
        exact h.update rfl rfl List.mem_of_mem_eraseIdx List.mem_of_mem_eraseIdx
      · cases hstep
        obtain ⟨u, hu⟩ := h.connects hmem hconnects hvisible
        refine ⟨h.sound.step (hregular hconnects) rfl, fun hnot => absurd hu (hnot u), fun _ => ⟨u, hu⟩,
          fun hnone => ?_⟩
        exact absurd (hu.symm.trans hnone) nofun
      · cases hstep
        exact h.update rfl rfl List.mem_of_mem_eraseIdx List.mem_of_mem_eraseIdx
    · cases hstep
  | rejected i =>
    simp only [Session.step] at hstep
    split at hstep
    · cases hstep
      split
      · exact h.update rfl rfl List.mem_of_mem_eraseIdx List.mem_of_mem_eraseIdx
      · exact h.update rfl rfl List.mem_of_mem_eraseIdx List.mem_of_mem_eraseIdx
    · cases hstep
  | socket e =>
    simp only [Session.step] at hstep
    split at hstep
    · rename_i hbrowser
      obtain ⟨page, hpage, rfl⟩ := Option.map_eq_some_iff.1 hstep
      refine ⟨h.sound.step he hpage, fun hnot => (h.quiet hnot).step ?_ hpage, h.setup, h.started⟩
      rintro token rfl
      cases hbrowser
    · cases hstep

end

/-! ## Runs -/

/-- There is one live socket at most, the one that the module holds; and once the effects have seen that
nobody is signed in, until they see a user, no socket is live and no reconnection is due. -/
structure SignedOut (s : Session) : Prop where
  held : ∀ i, s.page.Live i → s.page.held = some i
  live : s.seen = some none → ∀ i, ¬ s.page.Live i
  armed : s.seen = some none → s.page.armed = false

theorem signed_out_no_socket {backendUrl : String} {s : Session}
    (h : Session.Reaches backendUrl Session.Prompt .start s) : SignedOut s := by
  have hinv : s.Inv := by
    refine h.invariant ⟨rfl, fun _ => ⟨?_, nofun⟩, nofun, nofun⟩
      fun _ _ _ hs he hstep => hs.step he hstep
    rintro i ⟨socket, hsocket, -⟩
    cases hsocket
  have hquiet : s.seen = some none → Quiet s.page :=
    fun hseen => hinv.quiet fun u hu => absurd (hseen.symm.trans hu) nofun
  refine ⟨fun i hi => hinv.sound.live hi, fun hseen => (hquiet hseen).live, fun hseen => ?_⟩
  rw [Page.armed]
  cases hw : s.page.socketInstance with
  | none => rfl
  | some w => simpa using ((hquiet hseen).idle w hw).2

instance (s : Session) (e : SessionEvent) : Decidable (s.Prompt e) := by
  cases e <;> unfold Session.Prompt <;> infer_instance

/-- A user signs in, gets a socket, and signs out while a tab still asks for a token. -/
theorem signed_out_no_socket_user :
    ∃ s : Session, s.seen = some none ∧ s.page.sockets.length = 1 ∧ s.tasks = [.visible] ∧
      SignedOut s := by
  have hrun : (runIf (Session.step "") Session.Prompt
      [.authStateChanged true, .resolved 0 "", .effects, .visibilityChange, .resolved 0 "t",
        .socket (.opened 0), .authStateChanged false, .effects] .start).map
        (fun s => (s.seen, s.page.sockets.length, s.tasks)) =
      some (some none, 1, [.visible]) := by decide
  obtain ⟨s, hs, hend⟩ := Option.map_eq_some_iff.1 hrun
  obtain ⟨hseen, hrest⟩ := Prod.mk.inj hend
  obtain ⟨hsockets, htasks⟩ := Prod.mk.inj hrest
  exact ⟨s, hseen, hsockets, htasks, signed_out_no_socket (reaches_of_runIf hs)⟩

-- When that token arrives after all, the signed-out page has a live socket.
example : (runIf (Session.step "") (fun _ _ => True)
    [.authStateChanged true, .resolved 0 "", .effects, .visibilityChange, .resolved 0 "t",
      .socket (.opened 0), .authStateChanged false, .effects, .resolved 0 "u"] .start).map
      (fun s => (s.seen, decide (s.page.Live 1))) = some (some none, true) := by
  decide

end GbcVenue.WebSocket
