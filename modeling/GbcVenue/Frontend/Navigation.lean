import GbcVenue.Access.Auth
import GbcVenue.Interleaving.Guarded

/-!
# Where a browser ends up

The routes of `frontend/src/App.jsx` with `ProtectedRoute`, the redirects of `Login`, `Dashboard` and
`PendingApproval`, and the pages' calls of the API. `view` is what a location renders for a user, and
`Browser` the state that sign-ins, visits, redirects and pending logouts change. `redirects_settle` says
that redirects always end and where, and `shown_pages_may_call` that a page is never shown to a user
whose role the server would turn away from one of its calls.
-/

namespace GbcVenue.Navigation

open Interleaving Access Middleware

/-- The `user` of `AuthContext`. -/
structure User where
  email : String
  role : Option String
  deriving DecidableEq

/-- The routes of the app. -/
inductive Page
  | home
  | login
  | pendingApproval
  | tvDisplay
  | bookings
  | dashboard
  | illumination
  | admin
  | hardware
  deriving DecidableEq

namespace Page

def path : Page → String
  | home => "/"
  | login => "/login"
  | pendingApproval => "/pending-approval"
  | tvDisplay => "/tv-display"
  | bookings => "/bookings"
  | dashboard => "/dashboard"
  | illumination => "/illumination"
  | admin => "/admin"
  | hardware => "/hardware"

/-- The `allowedRoles` of a route; `none` for a public one. -/
def allowedRoles : Page → Option (List String)
  | home | login | pendingApproval => none
  | tvDisplay => some ["tv", "staff", "admin"]
  | bookings | dashboard | illumination | hardware => some ["staff", "admin"]
  | admin => some ["admin"]

end Page

/-- `user.role`, empty for a missing one. -/
def User.roleText (u : User) : String := u.role.getD ""

/-- What a location renders: a page, a redirect, or nothing while a user without a role is logged out. -/
inductive View
  | page (p : Page)
  | redirect (target : Page)
  | leaving (u : User)
  | nothing
  deriving DecidableEq

/-- `ProtectedRoute` around `children`. -/
def protectedRoute (user : Option User) (allowedRoles : Option (List String)) (children : View) : View :=
  match user with
  | none => .redirect .login
  | some u =>
    if u.roleText = "" then .leaving u
    else match allowedRoles with
      | none => children
      | some roles =>
        if u.roleText ∈ roles then children
        else if u.roleText = "tv" then .redirect .tvDisplay
        else if u.roleText = "staff" then .redirect .bookings
        else if u.roleText = "admin" then .redirect .dashboard
        else .redirect .home

/-- The effect of `Login`: the page is shown until the effect has run. -/
def loginEffect : Option User → View
  | none => .page .login
  | some u =>
    if u.roleText = "admin" then .redirect .dashboard
    else if u.roleText = "staff" then .redirect .bookings
    else if u.roleText = "tv" then .redirect .tvDisplay
    else .leaving u

/-- What a route renders; `email` is the one of the location's state. -/
def render (user : Option User) (email : Option String) : Page → View
  | .home => .page .home
  | .login => loginEffect user
  | .pendingApproval => if email.getD "" = "" then .redirect .home else .page .pendingApproval
  | .tvDisplay => protectedRoute user (Page.allowedRoles .tvDisplay) (.page .tvDisplay)
  | .dashboard =>
    protectedRoute user none (protectedRoute user (Page.allowedRoles .dashboard) (.redirect .bookings))
  | p => protectedRoute user none (protectedRoute user p.allowedRoles (.page p))

/-- The app in a browser: the user, whether `AuthContext` still waits for the first answer, the location
with the email of its state, and the navigations that wait for a logout. -/
structure Browser where
  user : Option User
  loading : Bool
  path : String
  email : Option String
  pending : List (Page × Option String)

section

variable (matchRoutes : String → Option Page)

/-- What is on the screen. A path that matches no route renders nothing. -/
def Browser.view (b : Browser) : View :=
  if b.loading then .nothing
  else match matchRoutes b.path with
    | some p => render b.user b.email p
    | none => .nothing

/-- `navigate(target, { replace: true })`. -/
def Browser.navigate (b : Browser) (target : Page) (email : Option String) : Browser :=
  { b with path := target.path, email := email }

inductive Event
  | authStateChanged (user : Option User)
  | visit (path : String)
  | rendered
  | logoutClicked
  | loggedOut (i : Nat)

/-- An event of the browser: the provider reports a user, somebody goes to a path, a rendering takes
effect, the logout button, or a logout that is done. -/
def Browser.step (b : Browser) : Event → Option Browser
  | .authStateChanged user => some { b with user := user, loading := false }
  | .visit path => some { b with path := path, email := none }
  | .rendered =>
    match b.view matchRoutes with
    | .redirect target => some (b.navigate target none)
    | .leaving u => some { b with pending := b.pending ++ [(.pendingApproval, some u.email)] }
    | .page _ | .nothing => some b
  | .logoutClicked => some { b with pending := b.pending ++ [(.login, none)] }
  | .loggedOut i =>
    match b.pending[i]? with
    | some (target, email) => some { b.navigate target email with pending := b.pending.eraseIdx i }
    | none => none

/-- Follows redirects. -/
def Browser.follow : Nat → Browser → Browser
  | 0, b => b
  | n + 1, b =>
    match b.view matchRoutes with
    | .redirect target => Browser.follow n (b.navigate target none)
    | _ => b

end

/-! ## Where redirects lead -/

/-- The page of a role after signing in. -/
def landing (role : String) : Page :=
  if role = "admin" ∨ role = "staff" then .bookings else if role = "tv" then .tvDisplay else .home

/-- Where a user who asks for a page ends up. -/
def destination (user : Option User) (email : Option String) (p : Page) : Page :=
  match p.allowedRoles, user with
  | none, some u =>
    match p with
    | .login => if u.roleText ∈ ["admin", "staff", "tv"] then landing u.roleText else .login
    | .pendingApproval => if email.getD "" = "" then .home else .pendingApproval
    | _ => .home
  | none, none =>
    match p with
    | .pendingApproval => if email.getD "" = "" then .home else .pendingApproval
    | p => p
  | some _, none => .login
  | some roles, some u =>
    if u.roleText = "" then p
    else if u.roleText ∈ roles then (if p = .dashboard then .bookings else p)
    else landing u.roleText

/-- A route table that matches every page's own path. -/
def MatchesPaths (matchRoutes : String → Option Page) : Prop := ∀ p : Page, matchRoutes p.path = some p

section

variable {matchRoutes : String → Option Page} {b b' : Browser} {p : Page}

theorem view_of_match (hloading : b.loading = false) (hp : matchRoutes b.path = some p) :
    b.view matchRoutes = render b.user b.email p := by
  simp [Browser.view, hloading, hp]

/-- A signed-in user with a role, on a page that is not public. -/
theorem render_protected {u : User} {email : Option String} {roles : List String}
    (hroles : p.allowedRoles = some roles) (hrole : u.roleText ≠ "") :
    render (some u) email p =
      if u.roleText ∈ roles then (if p = .dashboard then .redirect .bookings else .page p)
      else if u.roleText = "tv" then .redirect .tvDisplay
      else if u.roleText = "staff" then .redirect .bookings
      else if u.roleText = "admin" then .redirect .dashboard
      else .redirect .home := by
  cases p <;> simp [Page.allowedRoles] at hroles <;> subst hroles <;>
    simp [render, protectedRoute, Page.allowedRoles, hrole]

/-- The page that a page redirects to, and the email that the location then has. -/
def next (user : Option User) (l : Page × Option String) : Option (Page × Option String) :=
  match render user l.2 l.1 with
  | .redirect target => some (target, none)
  | _ => none

/-- A location whose path matches `l.1`. -/
def At (b : Browser) (matchRoutes : String → Option Page) (l : Page × Option String) : Prop :=
  b.loading = false ∧ matchRoutes b.path = some l.1 ∧ b.email = l.2

theorem At.follow_of_next_none {l : Page × Option String} (h : At b matchRoutes l)
    (hnext : next b.user l = none) (n : Nat) :
    b.follow matchRoutes n = b ∧ ∀ target, b.view matchRoutes ≠ .redirect target := by
  obtain ⟨hloading, hmatch, hemail⟩ := h
  have hends : ∀ target, b.view matchRoutes ≠ .redirect target := by
    intro target hview
    rw [view_of_match hloading hmatch, hemail] at hview
    simp [next, hview] at hnext
  refine ⟨?_, hends⟩
  cases n with
  | zero => rfl
  | succ n =>
    rw [Browser.follow]
    split
    · rename_i target hview
      exact absurd hview (hends target)
    · rfl

theorem At.follow_of_next {l l' : Page × Option String} (hpaths : MatchesPaths matchRoutes)
    (h : At b matchRoutes l) (hnext : next b.user l = some l') (n : Nat) :
    ∃ b', b.follow matchRoutes (n + 1) = b'.follow matchRoutes n ∧ b'.user = b.user ∧
      At b' matchRoutes l' := by
  obtain ⟨hloading, hmatch, hemail⟩ := h
  unfold next at hnext
  split at hnext
  · rename_i target hrender
    cases hnext
    have hview : b.view matchRoutes = .redirect target := by
      rw [view_of_match hloading hmatch, hemail, hrender]
    refine ⟨b.navigate target none, ?_, rfl, hloading, hpaths target, rfl⟩
    rw [Browser.follow, hview]
  · cases hnext

/-- The redirects of a page, for every user: two at most, and they end at the destination. -/
theorem next_chain (user : Option User) (email : Option String) (p : Page) :
    (next user (p, email) = none ∧ destination user email p = p) ∨
      ∃ p₁, next user (p, email) = some (p₁, none) ∧
        ((next user (p₁, none) = none ∧ destination user email p = p₁) ∨
          ∃ p₂, next user (p₁, none) = some (p₂, none) ∧ next user (p₂, none) = none ∧
            destination user email p = p₂) := by
  cases user with
  | none =>
    cases p <;> by_cases hemail : email.getD "" = "" <;>
      simp [next, render, protectedRoute, loginEffect, destination, Page.allowedRoles, hemail]
  | some u =>
    have hroles : u.roleText = "" ∨ u.roleText = "admin" ∨ u.roleText = "staff" ∨ u.roleText = "tv" ∨
        (u.roleText ≠ "" ∧ u.roleText ≠ "admin" ∧ u.roleText ≠ "staff" ∧ u.roleText ≠ "tv") := by
      tauto
    rcases hroles with hrole | hrole | hrole | hrole | hrole <;> cases p <;>
      by_cases hemail : email.getD "" = "" <;>
      simp [next, render, protectedRoute, loginEffect, destination, landing, Page.allowedRoles, hemail,
        hrole]

/-- A page is only shown at its own route, and to a user with one of its roles. -/
theorem render_eq_page {user : Option User} {email : Option String} {p' : Page}
    (h : render user email p = .page p') :
    p' = p ∧ (p.allowedRoles = none ∨
      ∃ u roles, user = some u ∧ p.allowedRoles = some roles ∧ u.roleText ∈ roles) := by
  cases hroles : p.allowedRoles with
  | none =>
    refine ⟨?_, .inl rfl⟩
    cases p <;> simp [Page.allowedRoles] at hroles
    · cases h
      rfl
    · cases user with
      | none =>
        cases h
        rfl
      | some u =>
        simp only [render, loginEffect] at h
        split_ifs at h
    · simp only [render] at h
      split_ifs at h
      cases h
      rfl
  | some roles =>
    cases user with
    | none => cases p <;> simp [Page.allowedRoles] at hroles <;> cases h
    | some u =>
      by_cases hrole : u.roleText = ""
      · cases p <;> simp [Page.allowedRoles] at hroles <;> simp [render, protectedRoute, hrole] at h
      · rw [render_protected hroles hrole] at h
        split_ifs at h with hmem
        cases h
        exact ⟨rfl, .inr ⟨u, roles, rfl, rfl, hmem⟩⟩

/-- Redirects end after two at most, at the destination of the location that was asked for; and what is
shown on the way is public or for the user's role. -/
structure Settles (matchRoutes : String → Option Page) (b : Browser) : Prop where
  ends : ∀ target, (b.follow matchRoutes 2).view matchRoutes ≠ .redirect target
  arrives : b.loading = false → ∀ p, matchRoutes b.path = some p →
    matchRoutes (b.follow matchRoutes 2).path = some (destination b.user b.email p)
  shown : ∀ p, b.view matchRoutes = .page p → p.allowedRoles = none ∨
    ∃ u roles, b.user = some u ∧ p.allowedRoles = some roles ∧ u.roleText ∈ roles

theorem At.settles (hpaths : MatchesPaths matchRoutes) (h : At b matchRoutes (p, b.email)) :
    (∀ target, (b.follow matchRoutes 2).view matchRoutes ≠ .redirect target) ∧
      matchRoutes (b.follow matchRoutes 2).path = some (destination b.user b.email p) := by
  rcases next_chain b.user b.email p with
    ⟨hend, hdest⟩ | ⟨p₁, hnext, ⟨hend, hdest⟩ | ⟨p₂, hnext₂, hend, hdest⟩⟩
  · obtain ⟨hfollow, hends⟩ := h.follow_of_next_none hend 2
    rw [hfollow, hdest]
    exact ⟨hends, h.2.1⟩
  · obtain ⟨b₁, hfollow, huser, hat⟩ := h.follow_of_next hpaths hnext 1
    obtain ⟨hfollow₁, hends⟩ := hat.follow_of_next_none (by rw [huser]; exact hend) 1
    rw [hfollow, hfollow₁, hdest]
    exact ⟨hends, hat.2.1⟩
  · obtain ⟨b₁, hfollow, huser, hat⟩ := h.follow_of_next hpaths hnext 1
    obtain ⟨b₂, hfollow₁, huser₁, hat₁⟩ := hat.follow_of_next hpaths (by rw [huser]; exact hnext₂) 0
    obtain ⟨-, hends⟩ := hat₁.follow_of_next_none (by rw [huser₁, huser]; exact hend) 0
    rw [hfollow, hfollow₁, hdest]
    exact ⟨hends, hat₁.2.1⟩

end

/-- Redirects settle, for every user, with any role text, and every path. -/
theorem redirects_settle {matchRoutes : String → Option Page} (hpaths : MatchesPaths matchRoutes)
    (b : Browser) : Settles matchRoutes b := by
  have hstays : ∀ {v : View}, b.view matchRoutes = v → (∀ target, v ≠ .redirect target) →
      b.follow matchRoutes 2 = b := by
    intro v hview hv
    rw [Browser.follow]
    split
    · rename_i target hredirect
      exact absurd (hview.symm.trans hredirect) (hv target)
    · rfl
  by_cases hloading : b.loading
  · have hview : b.view matchRoutes = .nothing := by simp [Browser.view, hloading]
    refine ⟨?_, fun h => absurd hloading (by simp [h]), fun p hp => ?_⟩
    · rw [hstays hview nofun, hview]
      nofun
    · rw [hview] at hp
      cases hp
  · rw [Bool.not_eq_true] at hloading
    cases hmatch : matchRoutes b.path with
    | none =>
      have hview : b.view matchRoutes = .nothing := by simp [Browser.view, hloading, hmatch]
      refine ⟨?_, fun _ p hp => ?_, fun p hp => ?_⟩
      · rw [hstays hview nofun, hview]
        nofun
      · rw [hmatch] at hp
        cases hp
      · rw [hview] at hp
        cases hp
    | some p =>
      obtain ⟨hends, harrives⟩ := At.settles hpaths ⟨hloading, hmatch, rfl⟩
      refine ⟨hends, fun _ p' hp' => ?_, fun p' hp' => ?_⟩
      · rw [hmatch] at hp'
        cases hp'
        exact harrives
      · rw [view_of_match hloading hmatch] at hp'
        obtain ⟨rfl, hroles⟩ := render_eq_page hp'
        exact hroles

/-- A router that knows the pages' own paths. -/
def ownPaths (path : String) : Option Page :=
  [Page.home, .login, .pendingApproval, .tvDisplay, .bookings, .dashboard, .illumination, .admin,
    .hardware].find? fun p => p.path = path

theorem ownPaths_matches : MatchesPaths ownPaths := by
  intro p
  cases p <;> rfl

/-- An admin who comes back to the login page. -/
theorem redirects_settle_admin :
    Settles ownPaths ⟨some ⟨"ann@club", some "admin"⟩, false, "/login", none, []⟩ :=
  redirects_settle ownPaths_matches _

/-! ## What pages ask of the server -/

/-- The calls of the API that a page makes, its components' included. -/
inductive Page.Calls : Page → Endpoint → Prop
  | bookingsConfig : Calls .bookings .getConfig
  | bookingsTimeline : Calls .bookings .getTimeline
  | bookingsCreate : Calls .bookings .createBooking
  | bookingsUpdate (id : String) : Calls .bookings (.updateBooking id)
  | bookingsCancel (id : String) : Calls .bookings (.cancelBooking id)
  | illuminationToggle : Calls .illumination .toggleLight
  | adminList : Calls .admin .listUsers
  | adminRole (uid : String) : Calls .admin (.setRole uid)
  | adminDelete (uid : String) : Calls .admin (.deleteUser uid)
  | adminConfig : Calls .admin .getConfig
  | adminUpdateConfig : Calls .admin .updateConfig
  | hardwareHealth : Calls .hardware .hardwareHealth

/-- The items of the navigation bar (`Navigation.jsx:11-18`). -/
def navItems (user : Option User) : List Page :=
  [.bookings, .illumination, .tvDisplay, .hardware] ++
    if user.bind User.role = some "admin" then [.admin] else []

/-- The pages of `MainLayout`, which show the navigation bar. -/
def Page.inLayout : Page → Bool
  | bookings | dashboard | illumination | admin | hardware => true
  | home | login | pendingApproval | tvDisplay => false

theorem Page.Calls.lets {p : Page} {e : Endpoint} (h : p.Calls e) {roles : List String} {role : String}
    (hroles : p.allowedRoles = some roles) (hrole : role ∈ roles) :
    policy e ≠ .anyone ∧ (policy e).lets role := by
  cases h <;> cases hroles <;> refine ⟨nofun, ?_⟩ <;>
    simp only [List.mem_cons, List.not_mem_nil, or_false] at hrole <;>
    simp only [policy, Policy.lets, List.mem_cons, List.not_mem_nil, or_false]
  case adminConfig => simp [hrole]
  case bookingsConfig => rcases hrole with rfl | rfl <;> decide
  all_goals tauto

theorem Page.Calls.not_public {p : Page} {e : Endpoint} (h : p.Calls e) : p.allowedRoles ≠ none := by
  cases h <;> nofun

/-- The two sides agree on a page that is shown: with a token of the user's role, the server hands every
call of the page to its handler, and no item of the navigation bar leads to another page. -/
structure AgreesWithServer (matchRoutes : String → Option Page) (router : Router HttpRequest)
    (b : Browser) (p : Page) : Prop where
  calls : ∀ e, p.Calls e → ∀ (verifyIDToken : String → Option Token) (q : HttpRequest),
    routed router q = some e → q.preflight = false → ∀ token,
      verified verifyIDToken q (policy e) = some token →
      b.user.map User.roleText = some (Token.user token).role →
        respond router verifyIDToken q = .handled e (some (Token.user token))
  menu : p.inLayout → ∀ item ∈ navItems b.user,
    (b.navigate item none).view matchRoutes = .page item

theorem inLayout_roles {p : Page} (h : p.inLayout) {roles : List String} {role : String}
    (hroles : p.allowedRoles = some roles) (hrole : role ∈ roles) : role = "admin" ∨ role = "staff" := by
  cases p <;> cases hroles <;> simp_all [Page.inLayout] <;> tauto

theorem inLayout_not_public {p : Page} (h : p.inLayout) : p.allowedRoles ≠ none := by
  cases p <;> simp_all [Page.inLayout, Page.allowedRoles]

/-- Every item of the bar is a page for the user who sees the bar. -/
theorem render_navItem {u : User} (hrole : u.roleText = "admin" ∨ u.roleText = "staff") {item : Page}
    (hitem : item ∈ navItems (some u)) (email : Option String) :
    render (some u) email item = .page item := by
  have hadmin : u.role = some "admin" → u.roleText = "admin" := by
    intro h
    simp [User.roleText, h]
  simp only [navItems, Option.bind_some, List.mem_append, List.mem_cons, List.not_mem_nil,
    or_false] at hitem
  rcases hitem with (rfl | rfl | rfl | rfl) | hitem
  · rcases hrole with hrole | hrole <;> simp [render, protectedRoute, Page.allowedRoles, hrole]
  · rcases hrole with hrole | hrole <;> simp [render, protectedRoute, Page.allowedRoles, hrole]
  · rcases hrole with hrole | hrole <;> simp [render, protectedRoute, Page.allowedRoles, hrole]
  · rcases hrole with hrole | hrole <;> simp [render, protectedRoute, Page.allowedRoles, hrole]
  · split at hitem
    · rename_i h
      rw [List.mem_singleton] at hitem
      subst hitem
      simp [render, protectedRoute, Page.allowedRoles, hadmin h]
    · cases hitem

/-- A page that is shown may make all its calls, whoever the user is. -/
theorem shown_pages_may_call {matchRoutes : String → Option Page} (hpaths : MatchesPaths matchRoutes)
    {router : Router HttpRequest} (hrouter : router.Respects app) {b : Browser} {p : Page}
    (h : b.view matchRoutes = .page p) : AgreesWithServer matchRoutes router b p := by
  have hloading : b.loading = false := by
    by_contra hloading
    rw [Bool.not_eq_false] at hloading
    simp [Browser.view, hloading] at h
  have hroles : p.allowedRoles = none ∨
      ∃ u roles, b.user = some u ∧ p.allowedRoles = some roles ∧ u.roleText ∈ roles := by
    cases hmatch : matchRoutes b.path with
    | none => simp [Browser.view, hloading, hmatch] at h
    | some p₀ =>
      rw [view_of_match hloading hmatch] at h
      obtain ⟨rfl, hroles⟩ := render_eq_page h
      exact hroles
  constructor
  · intro e hcall verifyIDToken q he hpreflight token hverified hrole
    obtain ⟨u, roles, hu, hallowed, hmem⟩ := hroles.resolve_left hcall.not_public
    obtain ⟨hpolicy, hlets⟩ := hcall.lets hallowed hmem
    rw [hu, Option.map_some, Option.some.injEq] at hrole
    rw [hrole] at hlets hmem
    refine (respond_eq_handled_iff hrouter).2 ⟨he, hpreflight, token, hverified, rfl, ?_, hlets⟩
    rintro hempty
    rw [hempty] at hmem
    cases hcall <;> cases hallowed <;> simp at hmem
  · intro hlayout item hitem
    obtain ⟨u, roles, hu, hallowed, hmem⟩ := hroles.resolve_left (inLayout_not_public hlayout)
    rw [hu] at hitem
    rw [view_of_match (b := b.navigate item none) hloading (hpaths item)]
    change render b.user none item = .page item
    rw [hu]
    exact render_navItem (inLayout_roles hlayout hallowed hmem) hitem none

/-- The admin page, where every call is let in. -/
theorem shown_pages_may_call_admin :
    AgreesWithServer ownPaths textRouter ⟨some ⟨"ann@club", some "admin"⟩, false, "/admin", none, []⟩
      .admin :=
  shown_pages_may_call ownPaths_matches textRouter_respects rfl

/-! ## Accounts without a role -/

/-- What happens while an account without a role is logged out, in any order: renderings, the report of
the sign-out, logouts that are done. -/
def LogsOut (_ : Browser) : Event → Prop
  | .rendered | .authStateChanged none | .loggedOut _ => True
  | _ => False

/-- The browser of an account that waits for approval: on its way out, or at the page that says so. -/
structure Leaving (matchRoutes : String → Option Page) (u : User) (b : Browser) : Prop where
  loading : b.loading = false
  user : b.user = some u ∨ b.user = none
  pending : ∀ x ∈ b.pending, x = (.pendingApproval, some u.email)
  place : (∃ p, matchRoutes b.path = some p ∧ p ≠ .home ∧ p ≠ .pendingApproval) ∨
    (b.path = Page.pendingApproval.path ∧ b.email = some u.email)

section

variable {matchRoutes : String → Option Page} {u : User} {b b' : Browser}

theorem view_pendingApproval (hpaths : MatchesPaths matchRoutes) (hemail : u.email ≠ "")
    (hloading : b.loading = false) (hpath : b.path = Page.pendingApproval.path)
    (hstate : b.email = some u.email) : b.view matchRoutes = .page .pendingApproval := by
  rw [view_of_match hloading (hpath ▸ hpaths .pendingApproval), hstate]
  simp [render, hemail]

/-- Without a role, or signed out, a location that is neither home nor the pending page shows nothing
but the login page. -/
theorem Leaving.view (h : Leaving matchRoutes u b) (hpaths : MatchesPaths matchRoutes)
    (hrole : u.roleText = "") (hemail : u.email ≠ "") :
    b.view matchRoutes = .leaving u ∨ b.view matchRoutes = .redirect .login ∨
      b.view matchRoutes = .page .login ∨
        (b.view matchRoutes = .page .pendingApproval ∧ b.path = Page.pendingApproval.path ∧
          b.email = some u.email) := by
  rcases h.place with ⟨p, hmatch, hhome, hpendingApproval⟩ | ⟨hpath, hstate⟩
  · rw [view_of_match h.loading hmatch]
    rcases h.user with hu | hu <;> rw [hu] <;>
      cases p <;> simp_all [render, loginEffect, protectedRoute]
  · exact .inr (.inr (.inr ⟨view_pendingApproval hpaths hemail h.loading hpath hstate, hpath, hstate⟩))

theorem Leaving.step (hpaths : MatchesPaths matchRoutes) (hrole : u.roleText = "")
    (hemail : u.email ≠ "") (h : Leaving matchRoutes u b) {e : Event} (he : LogsOut b e)
    (hstep : b.step matchRoutes e = some b') : Leaving matchRoutes u b' := by
  cases e with
  | authStateChanged user =>
    cases user with
    | some _ => cases he
    | none =>
      cases hstep
      exact ⟨rfl, .inr rfl, h.pending, h.place⟩
  | visit path => cases he
  | logoutClicked => cases he
  | rendered =>
    simp only [Browser.step] at hstep
    rcases h.view hpaths hrole hemail with hview | hview | hview | ⟨hview, -, -⟩ <;> rw [hview] at hstep
    · cases hstep
      refine ⟨h.loading, h.user, fun x hx => ?_, h.place⟩
      rcases List.mem_append.1 hx with hx | hx
      · exact h.pending x hx
      · exact List.mem_singleton.1 hx
    · cases hstep
      exact ⟨h.loading, h.user, h.pending, .inl ⟨.login, hpaths .login, nofun, nofun⟩⟩
    · cases hstep
      exact h
    · cases hstep
      exact h
  | loggedOut i =>
    simp only [Browser.step] at hstep
    split at hstep
    · rename_i target email hi
      cases h.pending _ (List.mem_of_getElem? hi)
      cases hstep
      exact ⟨h.loading, h.user, fun x hx => h.pending x (List.mem_of_mem_eraseIdx hx), .inr ⟨rfl, rfl⟩⟩
    · cases hstep

/-- The browser shows the pending page of the account. -/
def AtPending (u : User) (b : Browser) : Prop :=
  b.path = Page.pendingApproval.path ∧ b.email = some u.email

theorem Leaving.atPending_of_loggedOut (h : Leaving matchRoutes u b) {i : Nat}
    (hstep : b.step matchRoutes (.loggedOut i) = some b') : AtPending u b' := by
  simp only [Browser.step] at hstep
  split at hstep
  · rename_i target email hi
    cases h.pending _ (List.mem_of_getElem? hi)
    cases hstep
    exact ⟨rfl, rfl⟩
  · cases hstep

/-- Nothing of all this leads away from the pending page. -/
theorem Leaving.atPending_step (hpaths : MatchesPaths matchRoutes) (hemail : u.email ≠ "")
    (h : Leaving matchRoutes u b) (hat : AtPending u b) {e : Event} (he : LogsOut b e)
    (hstep : b.step matchRoutes e = some b') : AtPending u b' := by
  cases e with
  | authStateChanged user =>
    cases user with
    | some _ => cases he
    | none =>
      cases hstep
      exact hat
  | visit path => cases he
  | logoutClicked => cases he
  | rendered =>
    simp only [Browser.step, view_pendingApproval hpaths hemail h.loading hat.1 hat.2] at hstep
    cases hstep
    exact hat
  | loggedOut i => exact h.atPending_of_loggedOut hstep

theorem protectedRoute_eq_leaving {user : Option User} {roles : Option (List String)} {children : View}
    (h : protectedRoute user roles children = .leaving u) : user = some u ∨ children = .leaving u := by
  cases user with
  | none => cases h
  | some u' =>
    by_cases hrole : u'.roleText = ""
    · simp only [protectedRoute, hrole, if_true, View.leaving.injEq] at h
      exact .inl (congrArg some h)
    · simp only [protectedRoute, hrole, if_false] at h
      cases roles with
      | none => exact .inr h
      | some roles =>
        dsimp only at h
        split_ifs at h
        exact .inr h

/-- Only the user of the browser is logged out, and not at the public pages. -/
theorem render_eq_leaving {user : Option User} {email : Option String} {p : Page}
    (h : render user email p = .leaving u) : user = some u ∧ p ≠ .home ∧ p ≠ .pendingApproval := by
  have hnested : ∀ {roles : Option (List String)} {v : View}, v ≠ .leaving u →
      protectedRoute user none (protectedRoute user roles v) = .leaving u → user = some u := by
    intro roles v hv h
    rcases protectedRoute_eq_leaving h with huser | h
    · exact huser
    · exact (protectedRoute_eq_leaving h).resolve_right hv
  cases p with
  | home => cases h
  | login =>
    refine ⟨?_, nofun, nofun⟩
    cases user with
    | none => cases h
    | some u' =>
      simp only [render, loginEffect] at h
      split_ifs at h
      cases h
      rfl
  | pendingApproval =>
    simp only [render] at h
    split_ifs at h
  | tvDisplay =>
    simp only [render] at h
    exact ⟨(protectedRoute_eq_leaving h).resolve_right (by simp), nofun, nofun⟩
  | bookings | dashboard | illumination | admin | hardware =>
    simp only [render] at h
    refine ⟨hnested ?_ h, nofun, nofun⟩
    simp

theorem leaving_of_view (hview : b.view matchRoutes = .leaving u)
    (hpending : b.pending = []) : Leaving matchRoutes u b := by
  have hloading : b.loading = false := by
    by_contra hloading
    rw [Bool.not_eq_false] at hloading
    simp [Browser.view, hloading] at hview
  cases hmatch : matchRoutes b.path with
  | none => simp [Browser.view, hloading, hmatch] at hview
  | some p =>
    rw [view_of_match hloading hmatch] at hview
    obtain ⟨huser, hhome, hpendingApproval⟩ := render_eq_leaving hview
    exact ⟨hloading, .inl huser, by simp [hpending], .inl ⟨p, hmatch, hhome, hpendingApproval⟩⟩

end

/-- The browser of an account without a role shows no page but the login and the pending page, and from
the first logout that is done it shows the pending page, with the account's email. -/
structure EndsPending (matchRoutes : String → Option Page) (u : User) (b : Browser) : Prop where
  shown : ∀ p, b.view matchRoutes = .page p → p = .login ∨ p = .pendingApproval
  after : ∀ i b₁ b₂, b.step matchRoutes (.loggedOut i) = some b₁ →
    GuardedReaches (Browser.step matchRoutes) LogsOut b₁ b₂ →
      b₂.view matchRoutes = .page .pendingApproval ∧ b₂.email = some u.email

/-- An account without a role ends at the pending page, in whatever order renderings, the report of the
sign-out and the finished logouts come. -/
theorem roleless_ends_pending {matchRoutes : String → Option Page} (hpaths : MatchesPaths matchRoutes)
    {u : User} (hrole : u.roleText = "") (hemail : u.email ≠ "") {b₀ b : Browser}
    (hview : b₀.view matchRoutes = .leaving u) (hpending : b₀.pending = [])
    (h : GuardedReaches (Browser.step matchRoutes) LogsOut b₀ b) : EndsPending matchRoutes u b := by
  have hleaving : Leaving matchRoutes u b :=
    h.invariant (leaving_of_view hview hpending)
      fun _ _ _ hb he hstep => hb.step hpaths hrole hemail he hstep
  constructor
  · intro p hp
    rcases hleaving.view hpaths hrole hemail with hv | hv | hv | ⟨hv, -, -⟩ <;> rw [hv] at hp <;>
      cases hp
    · exact .inl rfl
    · exact .inr rfl
  · intro i b₁ b₂ hstep hreach
    have hend : Leaving matchRoutes u b₂ ∧ AtPending u b₂ := by
      refine hreach.invariant (I := fun b => Leaving matchRoutes u b ∧ AtPending u b)
        ⟨hleaving.step hpaths hrole hemail (e := .loggedOut i) trivial hstep,
          hleaving.atPending_of_loggedOut hstep⟩ ?_
      rintro b e b' ⟨hb, hat⟩ he hstep
      exact ⟨hb.step hpaths hrole hemail he hstep, hb.atPending_step hpaths hemail hat he hstep⟩
    exact ⟨view_pendingApproval hpaths hemail hend.1.loading hend.2.1 hend.2.2, hend.2.2⟩

/-- Ann has no role: the sign-out is reported and the login page opened before the logout is done. -/
theorem roleless_ends_pending_ann :
    ∃ b : Browser, b.path = "/pending-approval" ∧ EndsPending ownPaths ⟨"ann@club", none⟩ b := by
  have hview : Browser.view ownPaths ⟨some ⟨"ann@club", none⟩, false, "/bookings", none, []⟩ =
      .leaving ⟨"ann@club", none⟩ := rfl
  refine ⟨_, rfl, roleless_ends_pending ownPaths_matches rfl (by decide) hview rfl
    (.tail (.tail (.tail (.tail .refl ⟨.rendered, trivial, rfl⟩) ⟨.authStateChanged none, trivial, rfl⟩)
      ⟨.rendered, trivial, rfl⟩) ⟨.loggedOut 0, trivial, rfl⟩)⟩

end GbcVenue.Navigation
