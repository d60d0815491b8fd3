import GbcVenue.Domain.Json
import GbcVenue.Time.DateText
import GbcVenue.Users.Paging

/-!
# The listing of the users

`ListUsers` in `backend/internal/handler/user_handler.go`, and a client that calls it with each token that
it returns until that is empty. The handler looks for one user more than it returns, and the token goes
with the page that this user came from: `list_users_complete_iff`.
-/

namespace GbcVenue

open Paging Timeutil

/-- `auth.ExportedUserRecord`; `none` is the `nil` of a user without claims. -/
structure UserRecord where
  uid : String
  email : String
  displayName : String
  photoURL : String
  disabled : Bool
  customClaims : Option JsonMap
  creationTimestamp : Int
  lastLogInTimestamp : Int

/-- An entry of `"users"` in the response. -/
structure UserView where
  uid : String
  email : String
  displayName : String
  photoURL : String
  disabled : Bool
  role : String
  creationTime : Int
  lastSignInTime : Int
  deriving DecidableEq

/-- The entry for a user (`user_handler.go:48-61`); a role that is no string is left out. -/
def UserRecord.view (u : UserRecord) : UserView where
  uid := u.uid
  email := u.email
  displayName := u.displayName
  photoURL := u.photoURL
  disabled := u.disabled
  role := match u.customClaims with
    | some claims => claims.jsonString "role"
    | none => ""
  creationTime := u.creationTimestamp
  lastSignInTime := u.lastLogInTimestamp

/-- The accounts as Firebase hands them out, and the error for a token that it has not given. -/
structure Directory where
  source : Source UserRecord
  invalidToken : String

def Directory.users (dir : Directory) : List UserRecord := items dir.source.pages

inductive ListResponse
  | ok (users : List UserView) (pageToken : String)
  | internalError (error : String)
  deriving DecidableEq

/-- The bound on the users of a response (`user_handler.go:27-31`); an empty query is a missing one. -/
def maxResults (maxResultsStr : String) : Nat :=
  let (n, ok) := atoi (if maxResultsStr = "" then "100" else maxResultsStr).toList
  if ok = false ∨ n ≤ 0 then 100 else n.toNat

/-- Go `ListUsers` (`user_handler.go:26-82`). -/
def listUsers (dir : Directory) (maxResultsStr pageToken : String) : ListResponse :=
  match dir.source.pagesFrom pageToken with
  | [] => .internalError ("failed to list users: " ++ dir.invalidToken)
  | pages =>
    let (users, iter) := (⟨[], pages⟩ : Iterator UserRecord).collect (maxResults maxResultsStr)
    let nextToken := match iter.next with
      | some (_, iter') => iter'.token
      | none => ""
    .ok (users.map UserRecord.view) nextToken

/-- The calls from a token on, until one returns the empty token: the users of all their responses. -/
inductive Listed (dir : Directory) (maxResultsStr : String) : String → List UserView → Prop
  | last {pageToken : String} {users : List UserView}
      (h : listUsers dir maxResultsStr pageToken = .ok users "") :
      Listed dir maxResultsStr pageToken users
  | more {pageToken nextToken : String} {users rest : List UserView}
      (h : listUsers dir maxResultsStr pageToken = .ok users nextToken) (hnext : nextToken ≠ "")
      (hrest : Listed dir maxResultsStr nextToken rest) :
      Listed dir maxResultsStr pageToken (users ++ rest)

/-! ## The bound -/

theorem maxResults_pos (maxResultsStr : String) : 0 < maxResults maxResultsStr := by
  unfold maxResults
  generalize atoi _ = r
  obtain ⟨n, ok⟩ := r
  dsimp only
  split
  · decide
  · rename_i hpos
    have hn := (not_or.1 hpos).2
    omega

theorem foldlM_toDigits (n : Nat) :
    (Nat.toDigits 10 n).foldlM (fun n c => (GoTime.digitVal c).map (10 * n + ·)) 0 = some n := by
  induction n using Nat.strong_induction_on with
  | h n ih =>
    have hdigit : ∀ d < 10, GoTime.digitVal d.digitChar = some d := by decide
    by_cases hn : n < 10
    · rw [Nat.toDigits_of_lt_base hn]
      simp [hdigit n hn]
    · rw [Nat.toDigits_of_base_le (by decide) (by omega), List.foldlM_append, ih (n / 10) (by omega)]
      simp only [List.foldlM_cons, List.foldlM_nil, hdigit (n % 10) (by omega), Option.bind_eq_bind,
        Option.bind_some, Option.map_some, Option.pure_def, Option.some.injEq]
      omega

/-- Every positive `int` is the bound that its text asks for. -/
theorem maxResults_toString {n : Nat} (hpos : 0 < n) (hn : n < 2 ^ 63) : maxResults (toString n) = n := by
  have hlist : (toString n).toList = Nat.toDigits 10 n := Nat.toList_repr
  have hne : toString n ≠ "" := by
    intro h
    rw [h] at hlist
    exact Nat.toDigits_ne_nil hlist.symm
  have hdigits : digits (Nat.toDigits 10 n) = some n := by
    unfold digits
    split
    · rename_i hnil
      exact absurd hnil Nat.toDigits_ne_nil
    · exact foldlM_toDigits n
  have hatoi : atoi (Nat.toDigits 10 n) = ((n : Int), true) :=
    atoi_digits (fun c hc => Nat.isDigit_of_mem_toDigits (by decide) (by decide) hc) hdigits hn
  unfold maxResults
  rw [if_neg hne, hlist, hatoi]
  have hbound : ¬ (true = false ∨ (n : Int) ≤ 0) := by
    simp only [reduceCtorEq, false_or]
    omega
  exact if_neg hbound

/-! ## One call -/

section

variable {dir : Directory} {maxResultsStr : String} {page : Page UserRecord}
  {rest : List (Page UserRecord)}

/-- A call with the token of a page returns the first users from there on. If there are no more, its token
is empty. A token that is not is that of a later page, and one user at least is left out before that. -/
theorem listUsers_spec (maxResultsStr : String) (h : page :: rest <:+ dir.source.pages) :
    ∃ nextToken, listUsers dir maxResultsStr page.token =
        .ok (((items (page :: rest)).take (maxResults maxResultsStr)).map UserRecord.view) nextToken ∧
      ((items (page :: rest)).length ≤ maxResults maxResultsStr → nextToken = "") ∧
      (nextToken ≠ "" → ∃ later pages, later.token = nextToken ∧ later :: pages <:+ rest ∧
        maxResults maxResultsStr + (items (later :: pages)).length < (items (page :: rest)).length) := by
  obtain ⟨n, hn⟩ := Nat.exists_eq_succ_of_ne_zero (maxResults_pos maxResultsStr).ne'
  let start : Iterator UserRecord := ⟨[], page :: rest⟩
  have hremaining : start.remaining = items (page :: rest) := List.nil_append _
  have hleft := start.collect_remaining (maxResults maxResultsStr)
  rw [hremaining] at hleft
  have hcall : listUsers dir maxResultsStr page.token =
      .ok (((items (page :: rest)).take (maxResults maxResultsStr)).map UserRecord.view)
        (match (start.collect (maxResults maxResultsStr)).2.next with
          | some (_, iter') => iter'.token
          | none => "") := by
    rw [← hremaining, ← start.collect_items, listUsers, Source.pagesFrom_token h]
  rcases hpeek : (start.collect (maxResults maxResultsStr)).2.next with _ | ⟨u, iter⟩
  · rw [hpeek] at hcall
    exact ⟨"", hcall, fun _ => rfl, fun hne => absurd rfl hne⟩
  · rw [hpeek] at hcall
    rw [Iterator.next_spec hpeek] at hleft
    have hlength := congrArg List.length hleft
    rw [List.length_cons, List.length_drop] at hlength
    refine ⟨iter.token, hcall, fun hle => by omega, fun hne => ?_⟩
    have hpending : iter.pending <:+ rest := by
      rw [hn] at hpeek
      exact Iterator.collect_fetches hpeek
    unfold Iterator.token at hne ⊢
    rcases hpages : iter.pending with _ | ⟨later, pages⟩
    · rw [hpages] at hne
      exact absurd rfl hne
    · rw [hpages] at hpending
      refine ⟨later, pages, rfl, hpending, ?_⟩
      have hle : (items (later :: pages)).length ≤ iter.remaining.length := by
        rw [← hpages, Iterator.remaining, List.length_append]
        exact Nat.le_add_left _ _
      omega

/-! ## All calls -/

/-- The calls from a page on end. -/
theorem calls_end (h : page :: rest <:+ dir.source.pages) :
    ∃ users, Listed dir maxResultsStr page.token users := by
  induction hlength : rest.length using Nat.strong_induction_on generalizing page rest with
  | h n ih =>
    obtain ⟨nextToken, hcall, -, hlater⟩ := listUsers_spec maxResultsStr h
    by_cases hne : nextToken = ""
    · subst hne
      exact ⟨_, .last hcall⟩
    · obtain ⟨later, pages, rfl, hsuffix, -⟩ := hlater hne
      have hshorter : pages.length < n := by
        have hle := hsuffix.length_le
        rw [List.length_cons] at hle
        omega
      obtain ⟨users, husers⟩ := ih pages.length hshorter
        ((hsuffix.trans (List.suffix_cons page rest)).trans h) rfl
      exact ⟨_, .more hcall hne husers⟩

/-- From a page on, no more users are returned than there are, and fewer if one call does not do. -/
theorem Listed.length_le {token : String} {users : List UserView}
    (h : Listed dir maxResultsStr token users) (hpage : page :: rest <:+ dir.source.pages)
    (htoken : page.token = token) : users.length ≤ (items (page :: rest)).length ∧
      (maxResults maxResultsStr < (items (page :: rest)).length →
        users.length < (items (page :: rest)).length) := by
  induction h generalizing page rest with
  | last hcall =>
    obtain ⟨nextToken, hspec, -⟩ := listUsers_spec maxResultsStr hpage
    rw [htoken, hcall] at hspec
    obtain ⟨rfl, -⟩ := ListResponse.ok.inj hspec
    rw [List.length_map, List.length_take]
    omega
  | more hcall hnext _ ih =>
    obtain ⟨nextToken, hspec, -, hlater⟩ := listUsers_spec maxResultsStr hpage
    rw [htoken, hcall] at hspec
    obtain ⟨rfl, rfl⟩ := ListResponse.ok.inj hspec
    obtain ⟨later, pages, heq, hsuffix, hless⟩ := hlater hnext
    have hrest := (ih ((hsuffix.trans (List.suffix_cons page rest)).trans hpage) heq).1
    rw [List.length_append, List.length_map, List.length_take]
    omega

end

/-- Listing the users from the empty token on always ends, and it returns all of them in their order if and
only if one response holds them all. -/
theorem list_users_complete_iff (dir : Directory) (maxResultsStr : String) :
    (∃ users, Listed dir maxResultsStr "" users) ∧
      (Listed dir maxResultsStr "" (dir.users.map UserRecord.view) ↔
        dir.users.length ≤ maxResults maxResultsStr) := by
  obtain ⟨page, rest, hpages, htoken⟩ := dir.source.first
  have hsuffix : page :: rest <:+ dir.source.pages := hpages ▸ List.suffix_refl _
  have husers : dir.users = items (page :: rest) := congrArg items hpages
  refine ⟨htoken ▸ calls_end hsuffix, fun h => ?_, fun h => ?_⟩
  · have hless := (h.length_le hsuffix htoken).2
    rw [List.length_map, husers] at hless
    rw [husers]
    exact Nat.le_of_not_lt fun hlt => lt_irrefl _ (hless hlt)
  · obtain ⟨nextToken, hcall, hempty, -⟩ := listUsers_spec maxResultsStr hsuffix
    rw [husers] at h ⊢
    rw [htoken, hempty h, List.take_of_length_le h] at hcall
    exact .last hcall

/-- A directory of one page with two accounts. -/
def twoUsers : Directory where
  source := ⟨[⟨"", [⟨"u1", "", "", "", false, none, 0, 0⟩, ⟨"u2", "", "", "", false, none, 0, 0⟩]⟩],
    ⟨_, _, rfl, rfl⟩, List.nodup_singleton _⟩
  invalidToken := ""

/-- One user at a time: the first response is the last, and the second user is not in it. -/
theorem users_can_be_lost :
    ¬ ∀ (dir : Directory) (maxResultsStr : String),
      Listed dir maxResultsStr "" (dir.users.map UserRecord.view) := by
  intro h
  have hless := ((h twoUsers "1").length_le (List.suffix_refl _) rfl).2 (by decide)
  exact absurd hless (by decide)

end GbcVenue
