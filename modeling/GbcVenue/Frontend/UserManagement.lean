import GbcVenue.Access.Accounts
import GbcVenue.Users.ListUsers

/-!
# The users of the admin page

`UserManagement` (`Admin.jsx:30-86`), the list it fetches and the two handlers that it calls. A call that
succeeds puts the list that was shown at its click, with its own change made, in place of the list that is
shown then. `users_agree`: with one call at a time, and no success unheard of, the list shown at rest is
that of the accounts, whatever succeeds and fails; `users_can_differ`: with calls that overlap it need not
be.
-/

namespace GbcVenue.UserManagement

open Access Interleaving

/-- A user in the list, as far as the page changes it. -/
structure User where
  uid : String
  role : String
  deriving DecidableEq

/-- What a row of the list asks for. -/
inductive Change
  | setRole (uid role : String)
  | delete (uid : String)
  deriving DecidableEq

namespace Change

def uid : Change → String
  | setRole uid _ => uid
  | delete uid => uid

/-- The change that is made to the list (`Admin.jsx:62`, `76`). -/
def apply : Change → List User → List User
  | setRole uid role, users => users.map fun u => if u.uid = uid then { u with role := role } else u
  | delete uid, users => users.filter fun u => u.uid ≠ uid

/-- What the server makes of it. -/
def serve (fault : Option String) (caller : AuthUser) : Change → Accounts → UserReply × Accounts
  | setRole uid role, accounts => Access.setRole fault uid (some role) accounts
  | delete uid, accounts => deleteUser fault caller uid accounts

end Change

def isDone : UserReply → Bool
  | .done .. => true
  | .error .. => false

/-- How far a call has come; `answered` with whether the page gets a success. -/
inductive Stage
  | sent
  | answered (ok : Bool)
  deriving DecidableEq

/-- A call of `handleRoleChange` or `handleDelete`, with the list of the rendering it belongs to. -/
structure Call where
  change : Change
  users : List User
  stage : Stage

/-- The accounts, the page, and its calls under way. -/
structure Page where
  accounts : Accounts
  users : List User
  updatingUser : Option String
  calls : List Call

inductive Event
  | change (c : Change)
  | serve (i : Nat) (fault : Option String)
  | lost (i : Nat)
  | settle (i : Nat)

namespace Page

/-- One step; the row of `updatingUser` is disabled. -/
def step (caller : AuthUser) (s : Page) : Event → Option Page
  | .change c =>
    if c.uid ∈ s.users.map User.uid ∧ s.updatingUser ≠ some c.uid then some
      { s with
        updatingUser := some c.uid
        calls := s.calls ++ [⟨c, s.users, .sent⟩] }
    else none
  | .serve i fault => match s.calls[i]? with
    | some call =>
      if call.stage = .sent then
        let (reply, accounts) := call.change.serve fault caller s.accounts
        some { s with
          accounts := accounts
          calls := s.calls.set i { call with stage := .answered (isDone reply) } }
      else none
    | none => none
  | .lost i => match s.calls[i]? with
    | some call => some { s with calls := s.calls.set i { call with stage := .answered false } }
    | none => none
  | .settle i => match s.calls[i]? with
    | some ⟨change, users, .answered ok⟩ => some
      { s with
        users := if ok then change.apply users else s.users
        updatingUser := none
        calls := s.calls.eraseIdx i }
    | _ => none

abbrev Reaches (caller : AuthUser) (ok : Page → Event → Prop) : Page → Page → Prop :=
  GuardedReaches (step caller) ok

/-- One call at a time, and no success that the page does not hear of. -/
def Alone (s : Page) : Event → Prop
  | .change _ => s.calls = []
  | .lost i => ∀ call ∈ s.calls[i]?, call.stage ≠ .answered true
  | _ => True

instance (s : Page) : (e : Event) → Decidable (s.Alone e)
  | .change _ => decidable_of_iff s.calls.isEmpty List.isEmpty_iff
  | .lost i => inferInstanceAs (Decidable (∀ call ∈ s.calls[i]?, call.stage ≠ .answered true))
  | .serve _ _ | .settle _ => isTrue trivial

end Page

/-- A list shows each of its users once and with the role of the account, and all of `uids` that have
one. -/
structure Agrees (accounts : Accounts) (uids : List String) (users : List User) : Prop where
  distinct : (users.map User.uid).Nodup
  shown : ∀ u ∈ users, (accounts u.uid).map Account.role = some u.role
  kept : ∀ uid ∈ uids, (accounts uid).isSome → uid ∈ users.map User.uid

/-! ## The list -/

/-- The directory has no account twice, and each as it is. -/
structure Lists (dir : Directory) (accounts : Accounts) : Prop where
  nodup : (dir.users.map UserRecord.uid).Nodup
  account : ∀ u ∈ dir.users, accounts u.uid = some ⟨u.email, u.customClaims.getD []⟩

/-- `fetchUsers` (`Admin.jsx:36-47`) with the defaults of `frontend/src/api/users.js`; without an answer
the list stays empty. -/
def fetchUsers (dir : Directory) : List User :=
  match listUsers dir "100" "" with
  | .ok users _ => users.map fun u => ⟨u.uid, u.role⟩
  | .internalError _ => []

/-- The row of a user. -/
def rowOf (u : UserRecord) : User := ⟨u.view.uid, u.view.role⟩

theorem fetchUsers_eq (dir : Directory) :
    fetchUsers dir = (dir.users.take (maxResults "100")).map rowOf := by
  obtain ⟨page, rest, hpages, htoken⟩ := dir.source.first
  have hfirst : page :: rest <:+ dir.source.pages := hpages ▸ List.suffix_rfl
  obtain ⟨nextToken, hlisted, -⟩ := listUsers_spec "100" hfirst
  rw [htoken] at hlisted
  rw [fetchUsers, hlisted, Directory.users, hpages]
  exact List.map_map

theorem role_rowOf {u : UserRecord} {a : Account} (ha : a = ⟨u.email, u.customClaims.getD []⟩) :
    a.role = (rowOf u).role := by
  rw [ha, Account.role, rowOf, UserRecord.view]
  cases u.customClaims <;> rfl

/-- What is fetched shows the accounts as they are. -/
theorem agrees_fetchUsers {dir : Directory} {accounts : Accounts} (h : Lists dir accounts) :
    Agrees accounts ((fetchUsers dir).map User.uid) (fetchUsers dir) := by
  refine ⟨?_, fun row hrow => ?_, fun uid huid _ => huid⟩
  · rw [fetchUsers_eq, List.map_map]
    exact h.nodup.sublist ((List.take_sublist _ _).map _)
  · rw [fetchUsers_eq] at hrow
    obtain ⟨u, hu, rfl⟩ := List.mem_map.1 hrow
    have haccount : accounts (rowOf u).uid = _ := h.account u (List.mem_of_mem_take hu)
    rw [haccount, Option.map_some, role_rowOf rfl]

/-! ## One call -/

section

variable {accounts : Accounts} {uids : List String} {users : List User}

theorem map_uid_setRole (uid role : String) (users : List User) :
    ((Change.setRole uid role).apply users).map User.uid = users.map User.uid := by
  rw [Change.apply, List.map_map]
  refine List.map_congr_left fun u _ => ?_
  dsimp only [Function.comp]
  split <;> rfl

theorem Agrees.setRole (h : Agrees accounts uids users) {uid role : String} {a : Account}
    (ha : accounts uid = some a) :
    Agrees (Function.update accounts uid (some { a with claims := [("role", .string role)] })) uids
      ((Change.setRole uid role).apply users) := by
  refine ⟨?_, fun u hu => ?_, fun uid' huid' hsome => ?_⟩
  · rw [map_uid_setRole]
    exact h.distinct
  · obtain ⟨u', hu', rfl⟩ := List.mem_map.1 hu
    by_cases hsame : u'.uid = uid
    · rw [if_pos hsame]
      dsimp only
      rw [hsame, Function.update_self]
      rfl
    · rw [if_neg hsame, Function.update_of_ne hsame]
      exact h.shown u' hu'
  · rw [map_uid_setRole]
    refine h.kept uid' huid' ?_
    by_cases hsame : uid' = uid
    · rw [hsame, ha]
      rfl
    · rwa [Function.update_of_ne hsame] at hsome

theorem Agrees.delete (h : Agrees accounts uids users) (uid : String) :
    Agrees (Function.update accounts uid none) uids ((Change.delete uid).apply users) := by
  refine ⟨?_, fun u hu => ?_, fun uid' huid' hsome => ?_⟩
  · exact h.distinct.sublist (List.filter_sublist.map _)
  · obtain ⟨hu, hne⟩ := List.mem_filter.1 hu
    rw [Function.update_of_ne (of_decide_eq_true hne)]
    exact h.shown u hu
  · have hne : uid' ≠ uid := by
      rintro rfl
      rw [Function.update_self] at hsome
      cases hsome
    rw [Function.update_of_ne hne] at hsome
    obtain ⟨u, hu, rfl⟩ := List.mem_map.1 (h.kept uid' huid' hsome)
    exact List.mem_map_of_mem (List.mem_filter.2 ⟨hu, decide_eq_true hne⟩)

theorem setRole_done (fault : Option String) (uid role : String) (accounts : Accounts) :
    (isDone (Access.setRole fault uid (some role) accounts).1 = false ∧
      (Access.setRole fault uid (some role) accounts).2 = accounts) ∨
    isDone (Access.setRole fault uid (some role) accounts).1 = true ∧ ∃ a, accounts uid = some a ∧
      (Access.setRole fault uid (some role) accounts).2 =
        Function.update accounts uid (some { a with claims := [("role", .string role)] }) := by
  unfold Access.setRole
  split
  · exact .inl ⟨rfl, rfl⟩
  · dsimp only
    split
    · exact .inl ⟨rfl, rfl⟩
    · split
      · exact .inl ⟨rfl, rfl⟩
      · rename_i accounts' hcall
        obtain ⟨a, ha, rfl⟩ := providerCall_eq_ok hcall
        exact .inr ⟨rfl, a, ha, rfl⟩

theorem deleteUser_done (fault : Option String) (caller : AuthUser) (uid : String)
    (accounts : Accounts) :
    (isDone (deleteUser fault caller uid accounts).1 = false ∧
      (deleteUser fault caller uid accounts).2 = accounts) ∨
    isDone (deleteUser fault caller uid accounts).1 = true ∧
      (deleteUser fault caller uid accounts).2 = Function.update accounts uid none := by
  unfold deleteUser
  split
  · exact .inl ⟨rfl, rfl⟩
  · split
    · exact .inl ⟨rfl, rfl⟩
    · split
      · exact .inl ⟨rfl, rfl⟩
      · rename_i accounts' hcall
        obtain ⟨a, -, rfl⟩ := providerCall_eq_ok hcall
        exact .inr ⟨rfl, rfl⟩

/-- A call that the server has done is to be made to the list, one that it refused is not. -/
theorem Agrees.serve (h : Agrees accounts uids users) (c : Change) (fault : Option String)
    (caller : AuthUser) :
    Agrees (c.serve fault caller accounts).2 uids
      (if isDone (c.serve fault caller accounts).1 then c.apply users else users) := by
  cases c with
  | setRole uid role =>
    rw [Change.serve]
    rcases setRole_done fault uid role accounts with ⟨hrefused, hsame⟩ | ⟨hdone, a, ha, hchanged⟩
    · rw [hrefused, hsame]
      exact h
    · rw [hdone, hchanged]
      exact h.setRole ha
  | delete uid =>
    rw [Change.serve]
    rcases deleteUser_done fault caller uid accounts with ⟨hrefused, hsame⟩ | ⟨hdone, hchanged⟩
    · rw [hrefused, hsame]
      exact h
    · rw [hdone, hchanged]
      exact h.delete uid

end

/-! ## Runs -/

/-- The list that the call leaves if it is settled as it stands. -/
def Call.leaves (call : Call) (users : List User) : List User :=
  if call.stage = .answered true then call.change.apply users else users

namespace Page

variable {caller : AuthUser} {uids : List String} {s s' : Page}

/-- No call is under way and the list agrees, or one that was made from the list that is shown, and the
list that it leaves agrees. -/
inductive Inv (uids : List String) (s : Page) : Prop
  | rest (hcalls : s.calls = []) (h : Agrees s.accounts uids s.users)
  | call (call : Call) (hcalls : s.calls = [call]) (husers : call.users = s.users)
      (h : Agrees s.accounts uids (call.leaves s.users))

theorem only_call {call call' : Call} {i : Nat} (h : s.calls = [call])
    (hi : s.calls[i]? = some call') : i = 0 ∧ call' = call := by
  rw [h, List.getElem?_singleton] at hi
  split at hi
  · rename_i hzero
    exact ⟨hzero, (Option.some.inj hi).symm⟩
  · cases hi

/-- A call under way is the one, and its list is the one that is shown. -/
theorem Inv.of_call (h : s.Inv uids) {i : Nat} {call : Call} (hi : s.calls[i]? = some call) :
    i = 0 ∧ s.calls = [call] ∧ call.users = s.users ∧
      Agrees s.accounts uids (call.leaves s.users) := by
  cases h with
  | rest hcalls => simp [hcalls] at hi
  | call call' hcalls husers hagrees =>
    obtain ⟨hzero, rfl⟩ := only_call hcalls hi
    exact ⟨hzero, hcalls, husers, hagrees⟩

theorem Inv.change (h : s.Inv uids) (c : Change) (hrest : s.calls = []) :
    Inv uids { s with
      updatingUser := some c.uid
      calls := s.calls ++ [⟨c, s.users, .sent⟩] } := by
  cases h with
  | rest _ hagrees => exact .call ⟨c, s.users, .sent⟩ (by rw [hrest]; rfl) rfl hagrees
  | call call hcalls => exact absurd (hrest.symm.trans hcalls) (by simp)

theorem Inv.serve (h : s.Inv uids) {i : Nat} {call : Call} (hi : s.calls[i]? = some call)
    (hsent : call.stage = .sent) (fault : Option String) :
    Inv uids { s with
      accounts := (call.change.serve fault caller s.accounts).2
      calls := s.calls.set i
        { call with stage := .answered (isDone (call.change.serve fault caller s.accounts).1) } } := by
  obtain ⟨rfl, hcalls, husers, hagrees⟩ := h.of_call hi
  refine .call { call with stage := .answered (isDone (call.change.serve fault caller s.accounts).1) }
    (by rw [hcalls]; rfl) husers ?_
  rw [Call.leaves, if_neg (by rw [hsent]; simp)] at hagrees
  have hserved := hagrees.serve call.change fault caller
  simpa only [Call.leaves, Stage.answered.injEq] using hserved

theorem Inv.lost (h : s.Inv uids) {i : Nat} {call : Call} (hi : s.calls[i]? = some call)
    (hok : call.stage ≠ .answered true) :
    Inv uids { s with calls := s.calls.set i { call with stage := .answered false } } := by
  obtain ⟨rfl, hcalls, husers, hagrees⟩ := h.of_call hi
  refine .call { call with stage := .answered false } (by rw [hcalls]; rfl) husers ?_
  rwa [Call.leaves, if_neg hok] at hagrees

theorem Inv.settle (h : s.Inv uids) {i : Nat} {change : Change} {users : List User} {ok : Bool}
    (hi : s.calls[i]? = some ⟨change, users, .answered ok⟩) :
    Inv uids { s with
      users := if ok then change.apply users else s.users
      updatingUser := none
      calls := s.calls.eraseIdx i } := by
  obtain ⟨rfl, hcalls, rfl, hagrees⟩ := h.of_call hi
  refine .rest (by rw [hcalls]; rfl) ?_
  simpa only [Call.leaves, Stage.answered.injEq] using hagrees

theorem Inv.step {e : Event} (h : s.Inv uids) (hok : s.Alone e) (hstep : s.step caller e = some s') :
    s'.Inv uids := by
  cases e with
  | change c =>
    simp only [Page.step] at hstep
    split at hstep
    · obtain rfl := Option.some.inj hstep
      exact h.change c hok
    · cases hstep
  | serve i fault =>
    simp only [Page.step] at hstep
    split at hstep
    · rename_i call hi
      split at hstep
      · rename_i hsent
        obtain rfl := Option.some.inj hstep
        exact h.serve hi hsent fault
      · cases hstep
    · cases hstep
  | lost i =>
    simp only [Page.step] at hstep
    split at hstep
    · rename_i call hi
      obtain rfl := Option.some.inj hstep
      exact h.lost hi (hok call hi)
    · cases hstep
  | settle i =>
    simp only [Page.step] at hstep
    split at hstep
    · rename_i change users ok hi
      obtain rfl := Option.some.inj hstep
      exact h.settle hi
    · cases hstep

/-- However calls are refused, fail or succeed. -/
theorem users_agree {dir : Directory} {accounts : Accounts} (hdir : Lists dir accounts)
    (h : Reaches caller Alone ⟨accounts, fetchUsers dir, none, []⟩ s) (hrest : s.calls = []) :
    Agrees s.accounts ((fetchUsers dir).map User.uid) s.users := by
  have hinv : s.Inv ((fetchUsers dir).map User.uid) :=
    h.invariant (.rest rfl (agrees_fetchUsers hdir)) fun _ _ _ hs hok hstep => hs.step hok hstep
  cases hinv with
  | rest _ hagrees => exact hagrees
  | call call hcalls => exact absurd (hrest.symm.trans hcalls) (by simp)

/-- An admin and a new account. -/
def twoAccounts : Accounts := fun uid =>
  if uid = "ann" then some ⟨"ann@club", [("role", .string "admin")]⟩
  else if uid = "ben" then some ⟨"ben@club", []⟩ else none

def twoDirectory : Directory where
  source := {
    pages := [⟨"", [⟨"ann", "ann@club", "", "", false, some [("role", .string "admin")], 0, 0⟩,
      ⟨"ben", "ben@club", "", "", false, none, 0, 0⟩]⟩]
    first := ⟨_, _, rfl, rfl⟩
    nodup := List.nodup_singleton "" }
  invalidToken := "invalid"

theorem fetchUsers_two : fetchUsers twoDirectory = [⟨"ann", "admin"⟩, ⟨"ben", ""⟩] := by
  decide +kernel

theorem lists_two : Lists twoDirectory twoAccounts := by
  refine ⟨by decide, ?_⟩
  intro u hu
  simp only [Directory.users, twoDirectory, Paging.items, List.flatMap_cons, List.flatMap_nil,
    List.append_nil, List.mem_cons, List.not_mem_nil, or_false] at hu
  rcases hu with rfl | rfl <;> rfl

def ann : AuthUser := ⟨"ann", "ann@club", "admin"⟩

/-- Ann makes Ben staff, and cannot delete herself. -/
theorem users_agree_two : ∃ s : Page, s.users = [⟨"ann", "admin"⟩, ⟨"ben", "staff"⟩] ∧
    Agrees s.accounts ["ann", "ben"] s.users := by
  have hrun : (runIf (step ann) Alone [.change (.setRole "ben" "staff"), .serve 0 none, .settle 0,
      .change (.delete "ann"), .serve 0 none, .settle 0]
      ⟨twoAccounts, fetchUsers twoDirectory, none, []⟩).map
      (fun s => (s.users, s.calls.isEmpty)) =
      some ([⟨"ann", "admin"⟩, ⟨"ben", "staff"⟩], true) := by
    decide +kernel
  obtain ⟨s, hs, hseen⟩ := Option.map_eq_some_iff.1 hrun
  obtain ⟨husers, hrest⟩ := Prod.mk.inj hseen
  have hagrees := users_agree lists_two (reaches_of_runIf hs) (List.isEmpty_iff.1 hrest)
  rw [fetchUsers_two] at hagrees
  exact ⟨s, husers, hagrees⟩

/-- Ann makes Ben staff and herself a display before the first answer is there. -/
theorem users_can_differ :
    ¬ ∀ (caller : AuthUser) (dir : Directory) (accounts : Accounts) (s : Page), Lists dir accounts →
      Reaches caller (fun _ _ => True) ⟨accounts, fetchUsers dir, none, []⟩ s → s.calls = [] →
        Agrees s.accounts ((fetchUsers dir).map User.uid) s.users := by
  intro hclaim
  have hrun : (runIf (step ann) (fun _ _ => True) [.change (.setRole "ben" "staff"),
      .change (.setRole "ann" "tv"), .serve 0 none, .settle 0, .serve 0 none, .settle 0]
      ⟨twoAccounts, fetchUsers twoDirectory, none, []⟩).map (fun s => (s.users,
        (s.accounts "ben").map Account.role, s.calls.isEmpty)) = some ([⟨"ann", "tv"⟩, ⟨"ben", ""⟩], some "staff", true) := by
    decide +kernel
  obtain ⟨s, hs, hseen⟩ := Option.map_eq_some_iff.1 hrun
  simp only [Prod.mk.injEq] at hseen
  obtain ⟨husers, hrole, hrest⟩ := hseen
  have hshown := (hclaim ann _ _ s lists_two (reaches_of_runIf hs)
    (List.isEmpty_iff.1 hrest)).shown ⟨"ben", ""⟩ (by rw [husers]; decide)
  rw [hrole] at hshown
  exact absurd hshown (by decide)

end Page

end GbcVenue.UserManagement
