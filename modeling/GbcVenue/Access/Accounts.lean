import GbcVenue.Access.Auth
import GbcVenue.Interleaving.Guarded
import Mathlib.Logic.Function.Basic

/-!
# Accounts and their roles

The identity provider's accounts, the ID tokens that it issues, and the two handlers that change
accounts, `SetRole` and `DeleteUser` of `backend/internal/handler/user_handler.go`. A token carries the
role its account had when it was issued, and keeps it until it expires: a request is judged by a role
that may be out of date. `Within` says that only trusted accounts and tokens are admins, and
`privileges_stay_within` that requests of all others change nothing; `roles_stay_valid` and
`an_admin_remains` are about the roles that accounts can come to have.
-/

namespace GbcVenue.Access

open Middleware Interleaving

/-- An account of the identity provider, with its custom claims. -/
structure Account where
  email : String
  claims : JsonMap

def Account.role (a : Account) : String := a.claims.jsonString "role"

abbrev Accounts := String → Option Account

/-- The accounts, and the texts that verify as ID tokens. -/
structure Identity where
  accounts : Accounts
  tokens : String → Option Token

/-- The answer of a handler for users. -/
inductive UserReply
  | error (status : Nat) (message : String)
  | done (message uid : String) (role : Option String)
  deriving DecidableEq

/-- A call of the identity provider for one account; `fault` is the text of an error it has. An account
it does not know is an error. -/
def providerCall (fault : Option String) (accounts : Accounts) (uid : String)
    (change : Account → Option Account) : Except String Accounts :=
  match fault, accounts uid with
  | some message, _ => .error message
  | none, none => .error "no user record"
  | none, some a => .ok (Function.update accounts uid (change a))

/-- `validRoles`. -/
def validRoles : List String := ["admin", "staff", "tv", ""]

/-- `SetRole`; `body` is the role of the parsed body, `none` for a body that does not parse. -/
def setRole (fault : Option String) (uid : String) (body : Option String) (accounts : Accounts) :
    UserReply × Accounts :=
  if uid = "" then (.error 400 "uid is required", accounts)
  else match body with
    | none => (.error 400 "invalid request body", accounts)
    | some role =>
      if role ∉ validRoles then (.error 400 "role must be admin, staff, tv, or empty", accounts)
      else match providerCall fault accounts uid fun a => some { a with claims := [("role", .string role)] } with
        | .error message => (.error 500 message, accounts)
        | .ok accounts' =>
          (.done ("role '" ++ role ++ "' assigned to user " ++ uid) uid (some role), accounts')

/-- `DeleteUser`. -/
def deleteUser (fault : Option String) (caller : AuthUser) (uid : String) (accounts : Accounts) :
    UserReply × Accounts :=
  if uid = "" then (.error 400 "uid is required", accounts)
  else if uid = caller.uid then (.error 400 "you cannot delete your own account", accounts)
  else match providerCall fault accounts uid fun _ => none with
    | .error message => (.error 500 message, accounts)
    | .ok accounts' => (.done ("user " ++ uid ++ " deleted") uid none, accounts')

/-- The ID token that an account gets now. -/
def Account.token (a : Account) (uid : String) : Token := ⟨uid, a.claims ++ [("email", .string a.email)]⟩

section

variable (router : Router HttpRequest)

/-- A request at the server: the handler's reply, when it is one for users, and the accounts then. -/
def answer (s : Identity) (q : HttpRequest) (body fault : Option String) : Option UserReply × Accounts :=
  match respond router s.tokens q with
  | .handled (.setRole uid) _ =>
    let (reply, accounts) := setRole fault uid body s.accounts
    (some reply, accounts)
  | .handled (.deleteUser uid) (some caller) =>
    let (reply, accounts) := deleteUser fault caller uid s.accounts
    (some reply, accounts)
  | _ => (none, s.accounts)

/-- What happens at the identity provider: somebody signs in for the first time, an account gets a
token, a token expires, or the server gets a request. -/
inductive Event
  | signUp (uid email : String)
  | getIdToken (uid text : String)
  | expire (text : String)
  | request (q : HttpRequest) (body fault : Option String)

def Identity.step (s : Identity) : Event → Option Identity
  | .signUp uid email =>
    match s.accounts uid with
    | some _ => none
    | none => some { s with accounts := Function.update s.accounts uid (some ⟨email, []⟩) }
  | .getIdToken uid text =>
    match s.accounts uid, s.tokens text with
    | some a, none => some { s with tokens := Function.update s.tokens text (some (a.token uid)) }
    | _, _ => none
  | .expire text => some { s with tokens := Function.update s.tokens text none }
  | .request q body fault => some { s with accounts := (answer router s q body fault).2 }

/-- The identities that events of the kind `ok` lead to. -/
abbrev Identity.Reaches (ok : Identity → Event → Prop) : Identity → Identity → Prop :=
  GuardedReaches (Identity.step router) ok

end

/-! ## What a request can do -/

/-- The caller of a handler that is not for everyone holds a token of this text. -/
structure CalledBy (s : Identity) (e : Endpoint) (caller : AuthUser) (token : Token) : Prop where
  held : ∃ text, s.tokens text = some token
  user : Token.user token = caller
  allowed : (policy e).lets caller.role

/-- What a request makes of the accounts. -/
inductive Change (router : Router HttpRequest) (s : Identity) (q : HttpRequest) (body : Option String) :
    Accounts → Prop
  | same : Change router s q body s.accounts
  | role {uid : String} {caller : AuthUser} {token : Token} {a : Account} {role : String}
      (handled : respond router s.tokens q = .handled (.setRole uid) (some caller))
      (calledBy : CalledBy s (.setRole uid) caller token) (asked : body = some role)
      (valid : role ∈ validRoles) (known : s.accounts uid = some a) :
      Change router s q body
        (Function.update s.accounts uid (some { a with claims := [("role", .string role)] }))
  | deleted {uid : String} {caller : AuthUser} {token : Token} {a : Account}
      (handled : respond router s.tokens q = .handled (.deleteUser uid) (some caller))
      (calledBy : CalledBy s (.deleteUser uid) caller token) (other : uid ≠ caller.uid)
      (known : s.accounts uid = some a) :
      Change router s q body (Function.update s.accounts uid none)

section

variable {router : Router HttpRequest} {s s' : Identity} {q : HttpRequest} {body fault : Option String}

theorem calledBy_of_handled (hrouter : router.Respects app) {e : Endpoint} {locals : Locals}
    (h : respond router s.tokens q = .handled e locals) (hp : policy e ≠ .anyone) :
    ∃ caller token, locals = some caller ∧ CalledBy s e caller token := by
  obtain ⟨-, -, hadmits⟩ := (respond_eq_handled_iff hrouter).1 h
  cases locals with
  | none => exact absurd hadmits hp
  | some caller =>
    obtain ⟨token, hverified, huser, -, hlets⟩ := hadmits
    obtain ⟨text, -, htoken⟩ := Option.bind_eq_some_iff.1 hverified
    exact ⟨caller, token, rfl, ⟨text, htoken⟩, huser, hlets⟩

theorem providerCall_eq_ok {accounts accounts' : Accounts} {uid : String}
    {change : Account → Option Account} (h : providerCall fault accounts uid change = .ok accounts') :
    ∃ a, accounts uid = some a ∧ accounts' = Function.update accounts uid (change a) := by
  unfold providerCall at h
  split at h
  · cases h
  · cases h
  · rename_i a ha
    cases h
    exact ⟨a, ha, rfl⟩

theorem setRole_cases (fault : Option String) (uid : String) (body : Option String)
    (accounts : Accounts) :
    (setRole fault uid body accounts).2 = accounts ∨
      ∃ a role, body = some role ∧ role ∈ validRoles ∧ accounts uid = some a ∧
        (setRole fault uid body accounts).2 =
          Function.update accounts uid (some { a with claims := [("role", .string role)] }) := by
  unfold setRole
  split
  · exact .inl rfl
  · cases body with
    | none => exact .inl rfl
    | some role =>
      dsimp only
      split
      · exact .inl rfl
      · rename_i hvalid
        split
        · exact .inl rfl
        · rename_i accounts' hcall
          obtain ⟨a, ha, rfl⟩ := providerCall_eq_ok hcall
          exact .inr ⟨a, role, rfl, not_not.1 hvalid, ha, rfl⟩

theorem deleteUser_cases (fault : Option String) (caller : AuthUser) (uid : String)
    (accounts : Accounts) :
    (deleteUser fault caller uid accounts).2 = accounts ∨
      ∃ a, uid ≠ caller.uid ∧ accounts uid = some a ∧
        (deleteUser fault caller uid accounts).2 = Function.update accounts uid none := by
  unfold deleteUser
  split
  · exact .inl rfl
  · split
    · exact .inl rfl
    · rename_i hother
      split
      · exact .inl rfl
      · rename_i accounts' hcall
        obtain ⟨a, ha, rfl⟩ := providerCall_eq_ok hcall
        exact .inr ⟨a, hother, ha, rfl⟩

theorem answer_change (hrouter : router.Respects app) :
    Change router s q body (answer router s q body fault).2 := by
  unfold answer
  split
  · rename_i uid locals h
    obtain ⟨caller, token, rfl, hcalled⟩ := calledBy_of_handled hrouter h (by simp [policy])
    rcases setRole_cases fault uid body s.accounts with heq | ⟨a, role, hbody, hvalid, ha, heq⟩
    · dsimp only
      rw [heq]
      exact .same
    · dsimp only
      rw [heq]
      exact .role h hcalled hbody hvalid ha
  · rename_i uid caller h
    obtain ⟨_, token, ⟨⟩, hcalled⟩ := calledBy_of_handled hrouter h (by simp [policy])
    rcases deleteUser_cases fault caller uid s.accounts with heq | ⟨a, hother, ha, heq⟩
    · dsimp only
      rw [heq]
      exact .same
    · dsimp only
      rw [heq]
      exact .deleted h hcalled hother ha
  · exact .same

/-- What an event can do, request or not. -/
theorem step_cases (hrouter : router.Respects app) {e : Event} (h : s.step router e = some s') :
    (∃ uid email, e = .signUp uid email ∧ s.accounts uid = none ∧
        s' = { s with accounts := Function.update s.accounts uid (some ⟨email, []⟩) }) ∨
      (∃ uid text a, e = .getIdToken uid text ∧ s.accounts uid = some a ∧
        s' = { s with tokens := Function.update s.tokens text (some (a.token uid)) }) ∨
      (∃ text, e = .expire text ∧ s' = { s with tokens := Function.update s.tokens text none }) ∨
      ∃ q body fault, e = .request q body fault ∧ s'.tokens = s.tokens ∧
        Change router s q body s'.accounts := by
  cases e with
  | signUp uid email =>
    simp only [Identity.step] at h
    split at h
    · cases h
    · rename_i hnone
      exact .inl ⟨uid, email, rfl, hnone, (Option.some.inj h).symm⟩
  | getIdToken uid text =>
    simp only [Identity.step] at h
    split at h
    · rename_i a ha _
      exact .inr (.inl ⟨uid, text, a, rfl, ha, (Option.some.inj h).symm⟩)
    · cases h
  | expire text => exact .inr (.inr (.inl ⟨text, rfl, (Option.some.inj h).symm⟩))
  | request q body fault =>
    cases h
    exact .inr (.inr (.inr ⟨q, body, fault, rfl, rfl, answer_change hrouter⟩))

/-! ## Roles of accounts and tokens -/

@[simp] theorem Account.token_role (a : Account) (uid : String) :
    (Token.user (a.token uid)).role = a.role := by
  unfold Account.role Token.user Account.token JsonMap.jsonString JsonMap.get
  simp [List.lookup_cons]

@[simp] theorem Account.role_set (a : Account) (role : String) :
    Account.role { a with claims := [("role", .string role)] } = role := by
  simp [Account.role, JsonMap.jsonString, JsonMap.get]

@[simp] theorem Account.role_new (email : String) : Account.role ⟨email, []⟩ = "" := rfl

/-- Every account and every token has a role of the kind `P`. -/
structure EveryRole (P : String → String → Prop) (s : Identity) : Prop where
  accounts : ∀ uid a, s.accounts uid = some a → P uid a.role
  tokens : ∀ text token, s.tokens text = some token → P token.uid (Token.user token).role

section

variable {P : String → String → Prop}

/-- Roles stay of a kind that new accounts have and that requests ask for. -/
theorem EveryRole.change (hs : EveryRole P s)
    (hset : ∀ uid caller token role, respond router s.tokens q = .handled (.setRole uid) (some caller) →
      CalledBy s (.setRole uid) caller token → body = some role → role ∈ validRoles → P uid role)
    {accounts' : Accounts} (h : Change router s q body accounts') (uid : String) (a : Account)
    (ha : accounts' uid = some a) : P uid a.role := by
  cases h with
  | same => exact hs.accounts uid a ha
  | @role uid' caller token a' role hhandled hcalled hasked hvalid hknown =>
    rcases eq_or_ne uid uid' with rfl | hne
    · simp only [Function.update_self, Option.some.injEq] at ha
      subst ha
      rw [Account.role_set]
      exact hset uid caller token role hhandled hcalled hasked hvalid
    · rw [Function.update_of_ne hne] at ha
      exact hs.accounts uid a ha
  | @deleted uid' caller token a' hhandled hcalled hother hknown =>
    rcases eq_or_ne uid uid' with rfl | hne
    · simp at ha
    · rw [Function.update_of_ne hne] at ha
      exact hs.accounts uid a ha

theorem EveryRole.step (hrouter : router.Respects app) (hs : EveryRole P s) (hnew : ∀ uid, P uid "")
    {e : Event} (h : s.step router e = some s')
    (hset : ∀ q body fault, e = .request q body fault → ∀ uid caller token role,
      respond router s.tokens q = .handled (.setRole uid) (some caller) →
      CalledBy s (.setRole uid) caller token → body = some role → role ∈ validRoles → P uid role) :
    EveryRole P s' := by
  rcases step_cases hrouter h with ⟨uid, email, rfl, hnone, rfl⟩ | ⟨uid, text, a, rfl, ha, rfl⟩ |
    ⟨text, rfl, rfl⟩ | ⟨q, body, fault, rfl, htokens, hchange⟩
  · refine ⟨fun uid' a' ha' => ?_, hs.tokens⟩
    rcases eq_or_ne uid' uid with rfl | hne
    · simp only [Function.update_self, Option.some.injEq] at ha'
      subst ha'
      exact hnew uid'
    · simp only [Function.update_of_ne hne] at ha'
      exact hs.accounts uid' a' ha'
  · refine ⟨hs.accounts, fun text' token htoken => ?_⟩
    rcases eq_or_ne text' text with rfl | hne
    · simp only [Function.update_self, Option.some.injEq] at htoken
      subst htoken
      rw [Account.token_role]
      exact hs.accounts uid a ha
    · simp only [Function.update_of_ne hne] at htoken
      exact hs.tokens text' token htoken
  · refine ⟨hs.accounts, fun text' token htoken => ?_⟩
    rcases eq_or_ne text' text with rfl | hne
    · simp at htoken
    · simp only [Function.update_of_ne hne] at htoken
      exact hs.tokens text' token htoken
  · exact ⟨hs.change (hset q body fault rfl) hchange, by rw [htokens]; exact hs.tokens⟩

end

/-! ## Privileges -/

/-- Only accounts and tokens of `S` are admins. -/
abbrev Within (S : String → Prop) : Identity → Prop := EveryRole fun uid role => role = "admin" → S uid

/-- A request of someone in `S` makes nobody outside of `S` an admin. -/
def Trusted (router : Router HttpRequest) (S : String → Prop) (s : Identity) : Event → Prop
  | .request q body _ => ∀ uid caller, respond router s.tokens q = .handled (.setRole uid) (some caller) →
      S caller.uid → body = some "admin" → S uid
  | _ => True

theorem CalledBy.admin {e : Endpoint} {caller : AuthUser} {token : Token}
    (h : CalledBy s e caller token) (he : policy e = .oneOf ["admin"]) : caller.role = "admin" := by
  have hallowed := h.allowed
  rw [he] at hallowed
  exact List.mem_singleton.1 hallowed

section

variable {S : String → Prop}

/-- Whoever changes accounts is in `S`. -/
theorem CalledBy.within {e : Endpoint} {caller : AuthUser} {token : Token}
    (h : CalledBy s e caller token) (hs : Within S s) (he : policy e = .oneOf ["admin"]) :
    S caller.uid := by
  obtain ⟨text, htext⟩ := h.held
  have hrole := h.admin he
  rw [← h.user] at hrole ⊢
  exact hs.tokens text token htext hrole

theorem within_step (hrouter : router.Respects app) (hs : Within S s) {e : Event}
    (he : Trusted router S s e) (h : s.step router e = some s') : Within S s' := by
  refine hs.step hrouter (fun uid hrole => by simp at hrole) h ?_
  rintro q body fault rfl uid caller token role hhandled hcalled hasked - rfl
  exact he uid caller hhandled (hcalled.within hs rfl) hasked

/-- The requests of everybody outside of `S` leave the accounts as they are. -/
theorem Change.untouched {accounts' : Accounts} (h : Change router s q body accounts')
    (hs : Within S s)
    (houtside : ∀ e caller, respond router s.tokens q = .handled e (some caller) → ¬ S caller.uid) :
    accounts' = s.accounts := by
  cases h with
  | same => rfl
  | role hhandled hcalled hasked hvalid hknown =>
    exact absurd (hcalled.within hs rfl) (houtside _ _ hhandled)
  | deleted hhandled hcalled hother hknown =>
    exact absurd (hcalled.within hs rfl) (houtside _ _ hhandled)

end

end

/-- Only members of `S` are admins, by account or token, and a request whose caller is not one of them
changes no account. -/
structure Confined (router : Router HttpRequest) (S : String → Prop) (s : Identity) : Prop where
  within : Within S s
  powerless : ∀ q body fault, (∀ e caller, respond router s.tokens q = .handled e (some caller) →
    ¬ S caller.uid) → (answer router s q body fault).2 = s.accounts

/-- Privileges stay within a set of accounts: if all admins belong to it at first, and the requests of
its members make nobody else an admin, then so it is after every run of sign-ups, tokens and requests,
whatever everybody else asks for and however old the tokens are. -/
theorem privileges_stay_within {router : Router HttpRequest} (hrouter : router.Respects app)
    {S : String → Prop} {s s' : Identity} (h : Identity.Reaches router (Trusted router S) s s')
    (hs : Within S s) : Confined router S s' := by
  have hwithin : Within S s' :=
    h.invariant hs fun _ _ _ hs he hstep => within_step hrouter hs he hstep
  exact ⟨hwithin, fun q body fault houtside => (answer_change hrouter).untouched hwithin houtside⟩

/-- Bob and Carol are admins; nobody has a token. -/
def club : Identity where
  accounts uid :=
    if uid = "bob" ∨ uid = "carol" then some ⟨uid ++ "@club", [("role", .string "admin")]⟩ else none
  tokens _ := none

def askRole (uid text : String) (role : String) : Event :=
  .request ⟨"PATCH", "/api/users/" ++ uid ++ "/role", "Bearer " ++ text, "", false⟩ (some role) none

def askDelete (uid text : String) : Event :=
  .request ⟨"DELETE", "/api/users/" ++ uid, "Bearer " ++ text, "", false⟩ none none

/-- Follows a list of events. -/
def follow (es : List Event) : Option Identity :=
  runIf (Identity.step textRouter) (fun _ _ => True) es club

/-- Ann signs up and asks for a role, which she does not get. -/
theorem privileges_stay_within_club :
    ∃ s, follow [.signUp "ann" "ann@club", .getIdToken "ann" "a", askRole "ann" "a" "admin"] = some s ∧
      Confined textRouter (fun uid => uid = "bob" ∨ uid = "carol") s := by
  have hstart : Within (fun uid => uid = "bob" ∨ uid = "carol") club := by
    refine ⟨fun uid a ha _ => ?_, nofun⟩
    exact (Option.ite_none_right_eq_some.1 ha).1
  have hrefused : respond textRouter (fun text => if text = "a" then
      some (Account.token ⟨"ann@club", []⟩ "ann") else none)
      ⟨"PATCH", "/api/users/ann/role", "Bearer a", "", false⟩ =
        .refused (.error 403 "no role assigned to this account") := by
    decide
  refine ⟨_, rfl, privileges_stay_within textRouter_respects (.tail (.tail (.tail .refl
    ⟨.signUp "ann" "ann@club", trivial, rfl⟩) ⟨.getIdToken "ann" "a", trivial, rfl⟩)
    ⟨askRole "ann" "a" "admin", ?_, rfl⟩) hstart⟩
  intro uid caller hhandled
  cases hrefused.symm.trans hhandled

/-! ## Roles -/

/-- Accounts and tokens carry roles that `SetRole` accepts. -/
abbrev RolesValid : Identity → Prop := EveryRole fun _ role => role ∈ validRoles

/-- A handler's user has one of the three roles, and a TV account reaches only the socket and the
configuration. -/
structure CallersValid (router : Router HttpRequest) (s : Identity) : Prop where
  roles : RolesValid s
  callers : ∀ q e caller, respond router s.tokens q = .handled e (some caller) →
    caller.role ∈ ["admin", "staff", "tv"]
  tv : ∀ q e caller, respond router s.tokens q = .handled e (some caller) → caller.role = "tv" →
    e = .webSocket ∨ e = .getConfig

/-- In every run from valid roles, the roles stay valid, of accounts and of tokens however old. -/
theorem roles_stay_valid {router : Router HttpRequest} (hrouter : router.Respects app)
    {s s' : Identity} (h : Identity.Reaches router (fun _ _ => True) s s') (hs : RolesValid s) :
    CallersValid router s' := by
  have hvalid : RolesValid s' := by
    refine h.invariant hs fun s e s' hs _ hstep => hs.step hrouter (fun _ => by simp [validRoles]) hstep ?_
    exact fun _ _ _ _ _ _ _ _ _ _ _ hrole => hrole
  have hcaller : ∀ q e caller, respond router s'.tokens q = .handled e (some caller) →
      caller.role ≠ "" ∧ (policy e).lets caller.role ∧ policy e ≠ .anyone ∧
        ∃ text token, s'.tokens text = some token ∧ Token.user token = caller := by
    intro q e caller h
    obtain ⟨-, -, token, hverified, huser, hne, hlets⟩ := (respond_eq_handled_iff hrouter).1 h
    obtain ⟨text, hpresented, htoken⟩ := Option.bind_eq_some_iff.1 hverified
    refine ⟨hne, hlets, ?_, text, token, htoken, huser⟩
    rintro hanyone
    rw [hanyone] at hpresented
    cases hpresented
  refine ⟨hvalid, fun q e caller h => ?_, fun q e caller h htv => ?_⟩
  · obtain ⟨hne, -, -, text, token, htoken, rfl⟩ := hcaller q e caller h
    have hrole := hvalid.tokens text token htoken
    simp only [validRoles, List.mem_cons, List.not_mem_nil, or_false] at hrole ⊢
    tauto
  · obtain ⟨-, hlets, hanyone, -⟩ := hcaller q e caller h
    rw [htv] at hlets
    cases e <;> simp_all [policy, Policy.lets]

/-- Ann signs up, Bob makes her account one for a TV, and she gets a token. -/
theorem roles_stay_valid_club :
    ∃ s, (s.accounts "ann").map Account.role = some "tv" ∧ CallersValid textRouter s := by
  have hstart : RolesValid club := by
    refine ⟨fun uid a ha => ?_, nofun⟩
    obtain ⟨-, ha⟩ := Option.ite_none_right_eq_some.1 ha
    cases ha
    exact List.mem_cons_self
  have hrun : (follow [.signUp "ann" "ann@club", .getIdToken "bob" "b", askRole "ann" "b" "tv",
      .getIdToken "ann" "a"]).map (fun s => (s.accounts "ann").map Account.role) =
        some (some "tv") := by
    decide
  obtain ⟨s, hs, hrole⟩ := Option.map_eq_some_iff.1 hrun
  exact ⟨s, hrole, roles_stay_valid textRouter_respects (reaches_of_runIf hs) hstart⟩

/-! ## The last admin -/

def HasAdmin (s : Identity) : Prop := ∃ uid a, s.accounts uid = some a ∧ a.role = "admin"

/-- A request that changes accounts comes with the token of an account that is still an admin, and does
not take the role from the caller itself. -/
def Considerate (router : Router HttpRequest) (s : Identity) : Event → Prop
  | .request q body _ => ∀ e caller, respond router s.tokens q = .handled e (some caller) →
      (∃ uid, e = .setRole uid ∨ e = .deleteUser uid) →
      (∃ a, s.accounts caller.uid = some a ∧ a.role = "admin") ∧
        (e = .setRole caller.uid → body = some "admin")
  | _ => True

/-- The caller remains an admin, unless nothing changes. -/
theorem HasAdmin.change {router : Router HttpRequest} {s s' : Identity} {q : HttpRequest}
    {body fault : Option String} (hs : HasAdmin s) (he : Considerate router s (.request q body fault))
    (h : Change router s q body s'.accounts) : HasAdmin s' := by
  generalize hafter : s'.accounts = accounts' at h
  unfold HasAdmin
  rw [hafter]
  cases h with
  | same => exact hs
  | @role uid caller token a role hhandled hcalled hasked hvalid hknown =>
    obtain ⟨⟨a', ha', hrole'⟩, hown⟩ := he _ caller hhandled ⟨uid, .inl rfl⟩
    rcases eq_or_ne caller.uid uid with heq | hne
    · have hadmin : role = "admin" := by
        have hbody := hown (by rw [heq])
        rw [hasked] at hbody
        exact Option.some.inj hbody
      exact ⟨uid, _, Function.update_self .., by rw [Account.role_set, hadmin]⟩
    · exact ⟨caller.uid, a', (Function.update_of_ne hne _ _).trans ha', hrole'⟩
  | @deleted uid caller token a hhandled hcalled hother hknown =>
    obtain ⟨⟨a', ha', hrole'⟩, -⟩ := he _ caller hhandled ⟨uid, .inr rfl⟩
    exact ⟨caller.uid, a', (Function.update_of_ne hother.symm _ _).trans ha', hrole'⟩

theorem HasAdmin.step {router : Router HttpRequest} (hrouter : router.Respects app) {s s' : Identity}
    (hs : HasAdmin s) {e : Event} (he : Considerate router s e) (h : s.step router e = some s') :
    HasAdmin s' := by
  rcases step_cases hrouter h with ⟨uid, email, rfl, hnone, rfl⟩ | ⟨uid, text, a, rfl, ha, rfl⟩ |
    ⟨text, rfl, rfl⟩ | ⟨q, body, fault, rfl, htokens, hchange⟩
  · obtain ⟨uid', a, ha, hrole⟩ := hs
    have hne : uid' ≠ uid := by
      rintro rfl
      rw [hnone] at ha
      cases ha
    exact ⟨uid', a, (Function.update_of_ne hne _ _).trans ha, hrole⟩
  · exact hs
  · exact hs
  · exact hs.change he hchange

/-- An admin remains: in every run in which accounts are only changed with tokens that are up to date,
and nobody gives away the own role, some account is an admin. -/
theorem an_admin_remains {router : Router HttpRequest} (hrouter : router.Respects app)
    {s s' : Identity} (h : Identity.Reaches router (Considerate router) s s') (hs : HasAdmin s) :
    HasAdmin s' :=
  h.invariant hs fun _ _ _ hs he hstep => hs.step hrouter he hstep

/-- Bob deletes Carol's account, and Bob is left. -/
theorem an_admin_remains_club :
    ∃ s, follow [.getIdToken "bob" "b", askDelete "carol" "b"] = some s ∧
      (s.accounts "carol").isNone ∧ HasAdmin s := by
  have hhandled : respond textRouter (fun text => if text = "b" then
      some (Account.token ⟨"bob@club", [("role", .string "admin")]⟩ "bob") else none)
      ⟨"DELETE", "/api/users/carol", "Bearer b", "", false⟩ =
        .handled (.deleteUser "carol") (some ⟨"bob", "bob@club", "admin"⟩) := by
    decide
  have hstart : HasAdmin club := ⟨"bob", _, rfl, rfl⟩
  refine ⟨_, rfl, rfl, an_admin_remains textRouter_respects (.tail (.tail .refl
    ⟨.getIdToken "bob" "b", trivial, rfl⟩) ⟨askDelete "carol" "b", ?_, rfl⟩) hstart⟩
  intro e caller h _
  cases hhandled.symm.trans h
  exact ⟨⟨_, rfl, rfl⟩, nofun⟩

-- With tokens that outlive their accounts, two admins can delete each other.
example : (follow [.getIdToken "bob" "b", .getIdToken "carol" "c", askDelete "carol" "b",
    askDelete "bob" "c"]).map (fun s => ((s.accounts "bob").isSome, (s.accounts "carol").isSome)) =
      some (false, false) := by
  decide

end GbcVenue.Access
