import GbcVenue.Access.Middleware
import GbcVenue.Domain.Json

/-!
# Who may call what

The middlewares of `backend/internal/handler/middleware/auth.go` and the registrations of `main.go`, as
a request stack. `server_follows_policy` is the access policy of the server: a handler gets a request if
and only if the request names it and the caller's verified role is one of those the policy lists.
-/

namespace GbcVenue

open Middleware

/-- `AuthUser`. -/
structure AuthUser where
  uid : String
  email : String
  role : String
  deriving DecidableEq

/-- A verified ID token, with its claims. -/
structure Token where
  uid : String
  claims : JsonMap

/-- What the middlewares read of a request; `token` is the query's. A header or query value that is
missing is empty. `preflight` tells the requests that the CORS middleware answers itself. -/
structure HttpRequest where
  method : String
  path : String
  authorization : String
  token : String
  preflight : Bool

namespace Access

/-- The handlers, with the parameter of the path they are called for. -/
inductive Endpoint
  | health
  | webSocket
  | createBooking
  | getTimeline
  | updateBooking (id : String)
  | cancelBooking (id : String)
  | toggleLight
  | hardwareHealth
  | getConfig
  | updateConfig
  | listUsers
  | setRole (uid : String)
  | deleteUser (uid : String)
  deriving DecidableEq

inductive Guard
  | recover
  | cors
  | wsRequireAuth
  | requireAuth
  | requireRole (roles : List String)
  deriving DecidableEq

/-- An answer of a middleware: a preflight's, or an error with its status. -/
inductive Answer
  | preflight
  | error (status : Nat) (message : String)
  deriving DecidableEq

/-- `c.Locals("user")`. -/
abbrev Locals := Option AuthUser

/-- The user that the middlewares make of a token. -/
def Token.user (t : Token) : AuthUser :=
  ⟨t.uid, t.claims.jsonString "email", t.claims.jsonString "role"⟩

def bearer : String := "Bearer "

/-- `strings.TrimPrefix(authHeader, "Bearer ")`. -/
def trimBearer (authHeader : String) : String :=
  if bearer.toList <+: authHeader.toList then String.ofList (authHeader.toList.drop 7) else authHeader

section

variable (verifyIDToken : String → Option Token)

/-- The end of both middlewares: the token is verified and must carry a role. -/
def authenticate (invalid noRole idToken : String) : Verdict Answer Locals :=
  match verifyIDToken idToken with
  | none => .reply (.error 401 invalid)
  | some token =>
    if (Token.user token).role = "" then .reply (.error 403 noRole) else .next (some (Token.user token))

/-- `RequireAuth`. -/
def requireAuth (q : HttpRequest) : Verdict Answer Locals :=
  if q.authorization = "" ∨ ¬ bearer.toList <+: q.authorization.toList then
    .reply (.error 401 "missing or malformed Authorization header")
  else authenticate verifyIDToken "invalid or expired token" "no role assigned to this account"
    (trimBearer q.authorization)

/-- The token of a WebSocket handshake: the query's, or else the header's. -/
def wsToken (q : HttpRequest) : String := if q.token = "" then trimBearer q.authorization else q.token

/-- `WSRequireAuth`. -/
def wsRequireAuth (q : HttpRequest) : Verdict Answer Locals :=
  if wsToken q = "" then .reply (.error 401 "missing token")
  else authenticate verifyIDToken "invalid token" "no role assigned" (wsToken q)

/-- `RequireRole`. -/
def requireRole (roles : List String) (locals : Locals) : Verdict Answer Locals :=
  match locals with
  | some user => if user.role ∈ roles then .next locals else .reply (.error 403 "insufficient permissions")
  | none => .reply (.error 403 "insufficient permissions")

/-- The handler of a registration. -/
def handlerOf : Guard → HttpRequest → Locals → Verdict Answer Locals
  | .recover, _, locals => .next locals
  | .cors, q, locals => if q.preflight then .reply .preflight else .next locals
  | .wsRequireAuth, q, _ => wsRequireAuth verifyIDToken q
  | .requireAuth, q, _ => requireAuth verifyIDToken q
  | .requireRole roles, _, locals => requireRole roles locals

end

/-- `Get` registers a route for `HEAD` as well. -/
def get (pattern : String) (guards : List Guard) (endpoint : Endpoint) : Registration Guard Endpoint :=
  .route ⟨["GET", "HEAD"], pattern, guards, fun _ => endpoint⟩

def on (method pattern : String) (guards : List Guard) (endpoint : String → Endpoint) :
    Registration Guard Endpoint :=
  .route ⟨[method], pattern, guards, endpoint⟩

/-- The registrations (`main.go:145-205`), with the groups' prefixes written out. -/
def app : List (Registration Guard Endpoint) :=
  [.use "/" .recover,
    .use "/" .cors,
    get "/health" [] .health,
    .use "/ws" .wsRequireAuth,
    get "/ws" [] .webSocket,
    .use "/api" .requireAuth,
    .use "/api/bookings" (.requireRole ["admin", "staff"]),
    on "POST" "/api/bookings/" [] fun _ => .createBooking,
    get "/api/bookings/timeline" [] .getTimeline,
    on "PATCH" "/api/bookings/:id" [] .updateBooking,
    on "DELETE" "/api/bookings/:id" [] .cancelBooking,
    on "POST" "/api/lights/toggle" [.requireRole ["admin", "staff"]] fun _ => .toggleLight,
    get "/api/hardware/health" [.requireRole ["admin", "staff"]] .hardwareHealth,
    get "/api/configs" [] .getConfig,
    on "PATCH" "/api/configs" [.requireRole ["admin"]] fun _ => .updateConfig,
    .use "/api/users" (.requireRole ["admin"]),
    get "/api/users/" [] .listUsers,
    on "PATCH" "/api/users/:uid/role" [] .setRole,
    on "DELETE" "/api/users/:uid" [] .deleteUser]

/-- What becomes of a request. -/
def respond (router : Router HttpRequest) (verifyIDToken : String → Option Token) (q : HttpRequest) :
    Outcome Answer Endpoint Locals :=
  serve router (handlerOf verifyIDToken) q none app

/-! ## The policy -/

/-- Who may call an endpoint: anyone, or who has a role of a list, or any role. -/
inductive Policy
  | anyone
  | socket
  | anyRole
  | oneOf (roles : List String)

def policy : Endpoint → Policy
  | .health => .anyone
  | .webSocket => .socket
  | .getConfig => .anyRole
  | .createBooking | .getTimeline | .updateBooking _ | .cancelBooking _ | .toggleLight |
    .hardwareHealth => .oneOf ["admin", "staff"]
  | .updateConfig | .listUsers | .setRole _ | .deleteUser _ => .oneOf ["admin"]

/-- Whether a policy lets a role in. -/
def Policy.lets (role : String) : Policy → Prop
  | .anyone => True
  | .socket | .anyRole => role ≠ ""
  | .oneOf roles => role ∈ roles

/-- The token that a policy's callers present. -/
def presented (q : HttpRequest) : Policy → Option String
  | .anyone => none
  | .socket => if wsToken q = "" then none else some (wsToken q)
  | .anyRole | .oneOf _ =>
    if bearer.toList <+: q.authorization.toList then some (trimBearer q.authorization) else none

/-- The verified token of a request under a policy. -/
def verified (verifyIDToken : String → Option Token) (q : HttpRequest) (p : Policy) : Option Token :=
  (presented q p).bind verifyIDToken

/-- A request is let in, as the user of the locals. -/
def Admits (verifyIDToken : String → Option Token) (q : HttpRequest) (p : Policy) : Locals → Prop
  | none => p = .anyone
  | some user => ∃ token, verified verifyIDToken q p = some token ∧ Token.user token = user ∧
      user.role ≠ "" ∧ p.lets user.role

/-- The endpoint that a request names: the first one of its method whose pattern its path matches. -/
def routed (router : Router HttpRequest) (q : HttpRequest) : Option Endpoint :=
  (firstMatch router q (rows app)).map Prod.snd

/-! ## The server follows the policy -/

section

variable {verifyIDToken : String → Option Token} {q : HttpRequest} {p : Policy}

/-- What the guards of a policy make of a request, `found` being its verified token. -/
def Decision (p : Policy) (v : Verdict Answer Locals) : Option Token → Prop
  | none => ∃ message, v = .reply (.error 401 message)
  | some token =>
    ((Token.user token).role ≠ "" ∧ p.lets (Token.user token).role ∧ v = .next (some (Token.user token))) ∨
      (((Token.user token).role = "" ∨ ¬ p.lets (Token.user token).role) ∧
        ∃ message, v = .reply (.error 403 message))

theorem authenticate_decision {invalid noRole idToken : String}
    (hp : ∀ role, p.lets role ↔ role ≠ "") :
    Decision p (authenticate verifyIDToken invalid noRole idToken) (verifyIDToken idToken) := by
  unfold authenticate
  cases verifyIDToken idToken with
  | none => exact ⟨invalid, rfl⟩
  | some token =>
    by_cases hrole : (Token.user token).role = ""
    · exact .inr ⟨.inl hrole, noRole, by simp [hrole]⟩
    · exact .inl ⟨hrole, (hp _).2 hrole, by simp [hrole]⟩

theorem bearer_ne_empty (h : bearer.toList <+: q.authorization.toList) : q.authorization ≠ "" := by
  intro hempty
  rw [hempty] at h
  exact absurd h (by decide)

theorem requireAuth_decision :
    Decision .anyRole (requireAuth verifyIDToken q) (verified verifyIDToken q .anyRole) := by
  unfold requireAuth verified presented
  by_cases h : bearer.toList <+: q.authorization.toList
  · have hne := bearer_ne_empty h
    simp only [hne, h, not_true_eq_false, or_self, if_false, if_true, Option.bind_some]
    exact authenticate_decision fun role => Iff.rfl
  · simp [h, Decision]

theorem wsRequireAuth_decision :
    Decision .socket (wsRequireAuth verifyIDToken q) (verified verifyIDToken q .socket) := by
  unfold wsRequireAuth verified presented
  by_cases h : wsToken q = ""
  · simp [h, Decision]
  · simp only [h, if_false, Option.bind_some]
    exact authenticate_decision fun role => Iff.rfl

/-- `RequireRole` after `RequireAuth`. -/
theorem requireRole_decision {roles : List String} {v : Verdict Answer Locals} {found : Option Token}
    (h : Decision .anyRole v found) : Decision (.oneOf roles) (v.andThen (requireRole roles)) found := by
  cases found with
  | none =>
    obtain ⟨message, rfl⟩ := h
    exact ⟨message, rfl⟩
  | some token =>
    rcases h with ⟨hne, -, rfl⟩ | ⟨hrole, message, rfl⟩
    · by_cases hmem : (Token.user token).role ∈ roles
      · exact .inl ⟨hne, hmem, if_pos hmem⟩
      · exact .inr ⟨.inr hmem, _, if_neg hmem⟩
    · exact .inr ⟨.inl (hrole.elim id fun h => not_not.1 h), message, rfl⟩

/-- The guards before an endpoint that a policy asks for. -/
def Policy.guards : Policy → List Guard
  | .anyone => [.recover, .cors]
  | .socket => [.recover, .cors, .wsRequireAuth]
  | .anyRole => [.recover, .cors, .requireAuth]
  | .oneOf roles => [.recover, .cors, .requireAuth, .requireRole roles]

theorem runAll_guards_decision (hp : p ≠ .anyone) (hpreflight : q.preflight = false) :
    Decision p (runAll (handlerOf verifyIDToken) p.guards q none) (verified verifyIDToken q p) := by
  have hfirst : ∀ gs, runAll (handlerOf verifyIDToken) (.recover :: .cors :: gs) q none =
      runAll (handlerOf verifyIDToken) gs q none := by
    intro gs
    simp [runAll, handlerOf, hpreflight, Verdict.andThen]
  cases p with
  | anyone => exact absurd rfl hp
  | socket =>
    rw [Policy.guards, hfirst]
    simp only [runAll, Verdict.andThen_next]
    exact wsRequireAuth_decision
  | anyRole =>
    rw [Policy.guards, hfirst]
    simp only [runAll, Verdict.andThen_next]
    exact requireAuth_decision
  | oneOf roles =>
    rw [Policy.guards, hfirst]
    simp only [runAll, Verdict.andThen_next]
    exact requireRole_decision requireAuth_decision

/-- The rows of the registrations, in their order. -/
theorem rows_app :
    rows app =
      [⟨["GET", "HEAD"], "/health", Policy.anyone.guards, fun _ => .health⟩,
        ⟨["GET", "HEAD"], "/ws", Policy.socket.guards, fun _ => .webSocket⟩,
        ⟨["POST"], "/api/bookings/", (Policy.oneOf ["admin", "staff"]).guards, fun _ => .createBooking⟩,
        ⟨["GET", "HEAD"], "/api/bookings/timeline", (Policy.oneOf ["admin", "staff"]).guards,
          fun _ => .getTimeline⟩,
        ⟨["PATCH"], "/api/bookings/:id", (Policy.oneOf ["admin", "staff"]).guards, .updateBooking⟩,
        ⟨["DELETE"], "/api/bookings/:id", (Policy.oneOf ["admin", "staff"]).guards, .cancelBooking⟩,
        ⟨["POST"], "/api/lights/toggle", (Policy.oneOf ["admin", "staff"]).guards, fun _ => .toggleLight⟩,
        ⟨["GET", "HEAD"], "/api/hardware/health", (Policy.oneOf ["admin", "staff"]).guards,
          fun _ => .hardwareHealth⟩,
        ⟨["GET", "HEAD"], "/api/configs", Policy.anyRole.guards, fun _ => .getConfig⟩,
        ⟨["PATCH"], "/api/configs", (Policy.oneOf ["admin"]).guards, fun _ => .updateConfig⟩,
        ⟨["GET", "HEAD"], "/api/users/", (Policy.oneOf ["admin"]).guards, fun _ => .listUsers⟩,
        ⟨["PATCH"], "/api/users/:uid/role", (Policy.oneOf ["admin"]).guards, .setRole⟩,
        ⟨["DELETE"], "/api/users/:uid", (Policy.oneOf ["admin"]).guards, .deleteUser⟩] := rfl

/-- In the table of the registrations, an endpoint has the guards that its policy asks for. -/
theorem guards_of_mem_rows {r : Route Guard Endpoint} (h : r ∈ rows app) (v : String) :
    r.guards = (policy (r.endpoint v)).guards := by
  have hall : ∀ r ∈ rows app, r.guards = (policy (r.endpoint v)).guards := by
    simp only [rows_app, List.forall_mem_cons, policy, List.not_mem_nil, false_implies, implies_true,
      and_self]
  exact hall r h

theorem guards_of_firstMatch {router : Router HttpRequest} {r : Route Guard Endpoint} {e : Endpoint}
    (h : firstMatch router q (rows app) = some (r, e)) : r.guards = (policy e).guards := by
  obtain ⟨hmem, hanswer⟩ := answer_of_firstMatch h
  obtain ⟨v, -, rfl⟩ := Option.map_eq_some_iff.1 (Option.ite_none_right_eq_some.1 hanswer).2
  exact guards_of_mem_rows hmem v

end

/-! ## Requests and the policy -/

section

variable {router : Router HttpRequest} {verifyIDToken : String → Option Token} {q : HttpRequest}
  {e : Endpoint}

theorem respond_of_routed (hrouter : router.Respects app) (he : routed router q = some e) :
    respond router verifyIDToken q =
      (runAll (handlerOf verifyIDToken) (policy e).guards q none).finish e := by
  obtain ⟨⟨r, e'⟩, hfirst, rfl⟩ := Option.map_eq_some_iff.1 he
  rw [respond, serve_of_firstMatch hrouter hfirst, guards_of_firstMatch hfirst]

/-- What becomes of a request for an endpoint that is not for everyone. -/
theorem respond_decision (verifyIDToken : String → Option Token) (hrouter : router.Respects app)
    (he : routed router q = some e) (hpreflight : q.preflight = false) (hp : policy e ≠ .anyone) :
    ∃ v, respond router verifyIDToken q = v.finish e ∧
      Decision (policy e) v (verified verifyIDToken q (policy e)) :=
  ⟨_, respond_of_routed hrouter he, runAll_guards_decision hp hpreflight⟩

theorem respond_anyone (hrouter : router.Respects app) (he : routed router q = some e)
    (hpreflight : q.preflight = false) (hp : policy e = .anyone) :
    respond router verifyIDToken q = .handled e none := by
  rw [respond_of_routed hrouter he, hp]
  simp [Policy.guards, runAll, handlerOf, hpreflight, Verdict.andThen, Verdict.finish]

theorem respond_preflight (hrouter : router.Respects app) (he : routed router q = some e)
    (hpreflight : q.preflight = true) : respond router verifyIDToken q = .refused .preflight := by
  rw [respond_of_routed hrouter he]
  cases policy e <;> simp [Policy.guards, runAll, handlerOf, hpreflight, Verdict.andThen, Verdict.finish]

theorem Decision.finish_eq_handled_iff {p : Policy} {v : Verdict Answer Locals} {found : Option Token}
    {e' : Endpoint} {locals : Locals} (h : Decision p v found) :
    v.finish e = .handled e' locals ↔ e = e' ∧ ∃ token, found = some token ∧
      locals = some (Token.user token) ∧ (Token.user token).role ≠ "" ∧ p.lets (Token.user token).role := by
  cases found with
  | none =>
    obtain ⟨message, rfl⟩ := h
    simp [Verdict.finish]
  | some token =>
    rcases h with ⟨hne, hlets, rfl⟩ | ⟨hnot, message, rfl⟩
    · simp only [Verdict.finish, Outcome.handled.injEq, Option.some.injEq, exists_eq_left', hlets,
        and_true]
      exact and_congr_right fun _ => ⟨fun h => ⟨h.symm, hne⟩, fun h => h.1.symm⟩
    · simp only [Verdict.finish, reduceCtorEq, Option.some.injEq, exists_eq_left', false_iff]
      rintro ⟨-, -, hne, hlets⟩
      exact hnot.elim hne fun h => h hlets

theorem respond_eq_handled_iff (hrouter : router.Respects app) {locals : Locals} :
    respond router verifyIDToken q = .handled e locals ↔
      routed router q = some e ∧ q.preflight = false ∧ Admits verifyIDToken q (policy e) locals := by
  cases he : routed router q with
  | none =>
    have hnone : firstMatch router q (rows app) = none := Option.map_eq_none_iff.1 he
    simp [respond, serve_ne_handled hnone]
  | some e₀ =>
    rw [Option.some.injEq]
    cases hpreflight : q.preflight with
    | true => simp [respond_preflight hrouter he hpreflight]
    | false =>
      simp only [true_and]
      by_cases hp : policy e₀ = .anyone
      · rw [respond_anyone hrouter he hpreflight hp]
        simp only [Outcome.handled.injEq]
        refine and_congr_right fun heq => ?_
        subst heq
        cases locals <;> simp [Admits, hp, verified, presented]
      · obtain ⟨v, hv, hdecision⟩ :=
          respond_decision verifyIDToken hrouter he hpreflight hp
        rw [hv, hdecision.finish_eq_handled_iff]
        refine and_congr_right fun heq => ?_
        subst heq
        cases locals with
        | none => simp [Admits, hp]
        | some user =>
          simp only [Admits, Option.some.injEq]
          constructor
          · rintro ⟨token, hfound, rfl, hne, hlets⟩
            exact ⟨token, hfound, rfl, hne, hlets⟩
          · rintro ⟨token, hfound, rfl, hne, hlets⟩
            exact ⟨token, hfound, rfl, hne, hlets⟩

/-- The policy is what the server does: a handler gets the requests that name it and that the policy
lets in, with the user of their verified token; a request for an endpoint that is not for everyone is
answered with 401 if and only if it has no verified token, and with 403 if and only if the token's role
is empty or not let in. -/
structure FollowsPolicy (router : Router HttpRequest) (verifyIDToken : String → Option Token)
    (q : HttpRequest) : Prop where
  handled : ∀ e locals, respond router verifyIDToken q = .handled e locals ↔
    routed router q = some e ∧ q.preflight = false ∧ Admits verifyIDToken q (policy e) locals
  unauthorized : ∀ e, routed router q = some e → q.preflight = false → policy e ≠ .anyone →
    ((∃ message, respond router verifyIDToken q = .refused (.error 401 message)) ↔
      verified verifyIDToken q (policy e) = none)
  forbidden : ∀ e, routed router q = some e → q.preflight = false → policy e ≠ .anyone →
    ((∃ message, respond router verifyIDToken q = .refused (.error 403 message)) ↔
      ∃ token, verified verifyIDToken q (policy e) = some token ∧
        ((Token.user token).role = "" ∨ ¬ (policy e).lets (Token.user token).role))

end

/-- The server of `main.go` follows the policy, for every request and whatever tokens verify. -/
theorem server_follows_policy {router : Router HttpRequest} (hrouter : router.Respects app)
    (verifyIDToken : String → Option Token) (q : HttpRequest) :
    FollowsPolicy router verifyIDToken q := by
  refine ⟨fun e locals => respond_eq_handled_iff hrouter, ?_, ?_⟩
  all_goals
    intro e he hpreflight hp
    obtain ⟨v, hv, hdecision⟩ :=
      respond_decision verifyIDToken hrouter he hpreflight hp
    rw [hv]
    cases hfound : verified verifyIDToken q (policy e) with
    | none =>
      rw [hfound] at hdecision
      obtain ⟨message, rfl⟩ := hdecision
      simp [Verdict.finish]
    | some token =>
      rw [hfound] at hdecision
      rcases hdecision with ⟨hne, hlets, rfl⟩ | ⟨hnot, message, rfl⟩
      · simp [Verdict.finish, hne, hlets]
      · simp [Verdict.finish, hnot]

/-! ## A router for paths as text -/

/-- A pattern against a path: a parameter stands for a segment that is not empty. -/
def matchPath : List Char → List Char → Option (List Char)
  | [], [] => some []
  | [], _ :: _ => none
  | c :: pattern, path =>
    if c = ':' then
      let value := path.takeWhile (· ≠ '/')
      if value ≠ [] ∧ path.dropWhile (· ≠ '/') = pattern.dropWhile (· ≠ '/') then some value else none
    else
      match path with
      | [] => none
      | d :: path => if c = d then matchPath pattern path else none

/-- A path without the slash it may end in. -/
def withoutSlash (path : List Char) : List Char :=
  if path.getLast? = some '/' then path.dropLast else path

/-- A router that compares paths as texts and overlooks a slash at their end. -/
def textRouter : Router HttpRequest where
  method := HttpRequest.method
  uses pathPrefix q := pathPrefix.toList.isPrefixOf q.path.toList
  param pattern q :=
    (matchPath (withoutSlash pattern.toList) (withoutSlash q.path.toList)).map String.ofList

/-- The part of a pattern before its parameter. -/
def fixedPart (pattern : List Char) : List Char := pattern.takeWhile (· ≠ ':')

theorem fixedPart_prefix_of_matchPath {pattern path value : List Char}
    (h : matchPath pattern path = some value) : fixedPart pattern <+: path := by
  induction pattern generalizing path with
  | nil => exact List.nil_prefix
  | cons c pattern ih =>
    unfold matchPath at h
    by_cases hc : c = ':'
    · simp [fixedPart, hc]
    · rw [if_neg hc] at h
      cases path with
      | nil => cases h
      | cons d path =>
        dsimp only at h
        split at h
        · rename_i hcd
          subst hcd
          have hcons : fixedPart (c :: pattern) = c :: fixedPart pattern := by simp [fixedPart, hc]
          rw [hcons, List.cons_prefix_cons]
          exact ⟨rfl, ih h⟩
        · cases h

theorem isPrefix_withoutSlash (path : List Char) : withoutSlash path <+: path := by
  unfold withoutSlash
  split
  · exact path.dropLast_prefix
  · exact List.prefix_rfl

def Registration.prefixOf : Registration Guard Endpoint → Option String
  | .use pathPrefix _ => some pathPrefix
  | .route _ => none

def Registration.patternOf : Registration Guard Endpoint → Option String
  | .use _ _ => none
  | .route r => some r.pattern

/-- A prefix of the registrations lies in the fixed part of a pattern, or branches off it. -/
theorem prefix_in_fixedPart :
    ∀ pathPrefix ∈ app.filterMap Registration.prefixOf,
      ∀ pattern ∈ app.filterMap Registration.patternOf,
        pathPrefix.toList <+: fixedPart (withoutSlash pattern.toList) ∨
          ¬ fixedPart (withoutSlash pattern.toList) <+: pathPrefix.toList := by
  decide

theorem textRouter_respects : textRouter.Respects app := by
  intro pathPrefix g hg r hr q v hv
  obtain ⟨value, hmatch, -⟩ := Option.map_eq_some_iff.1 hv
  have hfixed := fixedPart_prefix_of_matchPath hmatch
  have hpattern : fixedPart (withoutSlash r.pattern.toList) <+: r.pattern.toList :=
    (List.takeWhile_prefix _).trans (isPrefix_withoutSlash _)
  have hpath : fixedPart (withoutSlash r.pattern.toList) <+: q.path.toList :=
    hfixed.trans (isPrefix_withoutSlash _)
  have hplace := prefix_in_fixedPart pathPrefix (List.mem_filterMap.2 ⟨_, hg, rfl⟩) r.pattern
    (List.mem_filterMap.2 ⟨_, hr, rfl⟩)
  -- The path and the pattern begin with the same fixed part, and that decides.
  have hdecides : ∀ text, fixedPart (withoutSlash r.pattern.toList) <+: text →
      (pathPrefix.toList <+: text ↔ pathPrefix.toList <+: fixedPart (withoutSlash r.pattern.toList)) := by
    intro text htext
    refine ⟨fun h => ?_, fun h => h.trans htext⟩
    rcases hplace with hin | hnot
    · exact hin
    · exact (List.prefix_or_prefix_of_prefix h htext).resolve_right hnot
  rw [hdecides _ hpattern, ← hdecides _ hpath]
  exact List.isPrefixOf_iff_prefix

/-- A TV account that asks for another role for somebody. -/
def tvAsks : HttpRequest := ⟨"PATCH", "/api/users/bob/role", "Bearer t", "", false⟩

def tvToken (text : String) : Option Token :=
  if text = "t" then some ⟨"ann", [("role", .string "tv")]⟩ else none

theorem server_follows_policy_tv :
    routed textRouter tvAsks = some (.setRole "bob") ∧ FollowsPolicy textRouter tvToken tvAsks :=
  ⟨rfl, server_follows_policy textRouter_respects tvToken tvAsks⟩

example : respond textRouter tvToken tvAsks = .refused (.error 403 "insufficient permissions") := by
  decide

end Access

end GbcVenue
