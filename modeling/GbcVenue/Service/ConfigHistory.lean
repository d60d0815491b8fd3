import GbcVenue.Interleaving.Guarded
import GbcVenue.Service.ConfigUpdate

/-!
# The configuration over boots and updates

The collection `configs` under any number of servers: each boots with `EnsureDefault`
(`config_repo.go:30-51`), whose count and insertion are two calls of the database, and serves updates
after that. `last_written`: as long as no boot counts between the count and the insertion of another,
there is one document at most, it is there once a server is up, and each field has the value that was
written last; the configuration can be read exactly while each of these values can be decoded, whatever
was written before.
-/

namespace GbcVenue

open Interleaving GoTime

namespace ConfigService

/-- How far a server has come. -/
inductive BootStage
  | down
  | counted
  | up
  deriving DecidableEq

/-- The documents with the key `GLOBAL_CONFIG`, in their natural order, and the servers. `log` are the
writes that were stored, in their order. -/
structure ConfigStore where
  docs : List ConfigDoc
  server : Nat → BootStage
  log : List (String × ConfigValue)

inductive ConfigStep
  | count (i : Nat) (fault : Option String)
  | insert (i : Nat) (fault : Option String) (now : Int)
  | exit (i : Nat)
  | update (i : Nat) (fault : Option String) (now : Int) (body : Option GoMap)

/-- The document that `EnsureDefault` inserts. -/
def defaultConfig (now : Int) : ConfigDoc :=
  ⟨some (.number 1500), some (.string "00:00"), some (.string "09:00"), ofUnixMilli (unixMilli now)⟩

def defaultWrites : List (String × ConfigValue) :=
  [("hourlyRate", .number 1500), ("venueCloseTime", .string "00:00"),
    ("venueStartTime", .string "09:00")]

/-- The fields of a body that `Update` stores. -/
def storedWrites (fault : Option String) : Option GoMap → List (String × ConfigValue)
  | some m => if fault = none ∧ ∀ kv ∈ m.entries, allowed kv.1 then updatesOf m else []
  | none => []

/-- The value that was written last for a field. -/
def lastWrite (log : List (String × ConfigValue)) (key : String) : Option ConfigValue :=
  log.reverse.lookup key

namespace ConfigStore

/-- Nothing is stored, no server is up. -/
def start : ConfigStore := ⟨[], fun _ => .down, []⟩

def setServer (s : ConfigStore) (i : Nat) (stage : BootStage) : ConfigStore :=
  { s with server := Function.update s.server i stage }

/-- One step. A server whose database fails while it boots exits; an update changes the first document,
or inserts one. -/
def step (s : ConfigStore) : ConfigStep → Option ConfigStore
  | .count i fault =>
    if s.server i = .down then
      match fault with
      | some _ => some s
      | none => some (s.setServer i (if 0 < s.docs.length then .up else .counted))
    else none
  | .insert i fault now =>
    if s.server i = .counted then
      match fault with
      | some _ => some (s.setServer i .down)
      | none => some
        { s.setServer i .up with
          docs := s.docs ++ [defaultConfig now]
          log := s.log ++ defaultWrites }
    else none
  | .exit i => some (s.setServer i .down)
  | .update i fault now body =>
    if s.server i = .up then some
      { s with
        docs := (updateBody fault now body s.docs.head?).2.toList ++ s.docs.tail
        log := s.log ++ storedWrites fault body }
    else none

/-- No boot counts while another is about to insert. -/
def OneBoot (s : ConfigStore) : ConfigStep → Prop
  | .count _ _ => ∀ j, s.server j ≠ .counted
  | _ => True

/-- There is one document at most, which says what was written last. -/
structure LastWritten (s : ConfigStore) : Prop where
  one : s.docs.length ≤ 1
  present : ∀ i, s.server i = .up → s.docs.length = 1
  field : ∀ doc ∈ s.docs, ∀ key, allowed key → doc.field key = lastWrite s.log key
  readable : ∀ doc ∈ s.docs, (∃ cfg, get none (some doc) = .ok (some cfg)) ↔
    ∀ key, allowed key → decodes key (lastWrite s.log key)
  read : ∀ doc ∈ s.docs, ∀ cfg, get none (some doc) = .ok (some cfg) →
    decodeFloat (lastWrite s.log "hourlyRate") = some cfg.hourlyRate ∧
      decodeString (lastWrite s.log "venueCloseTime") = some cfg.venueCloseTime ∧
      decodeString (lastWrite s.log "venueStartTime") = some cfg.venueStartTime

end ConfigStore

/-! ## Last writes -/

theorem lastWrite_append (log log' : List (String × ConfigValue)) (key : String) :
    lastWrite (log ++ log') key = (lastWrite log' key).or (lastWrite log key) := by
  rw [lastWrite, List.reverse_append, List.lookup_append]
  rfl

/-- A fold of writes leaves each field with the value written last, if there is one. -/
theorem field_foldl {updates : List (String × ConfigValue)} (doc : ConfigDoc) {key : String}
    (hallowed : ∀ kv ∈ updates, allowed kv.1) :
    (updates.foldl ConfigDoc.set doc).field key = (lastWrite updates key).or (doc.field key) := by
  induction updates generalizing doc with
  | nil => rfl
  | cons kv updates ih =>
    have hrest : ∀ kv ∈ updates, allowed kv.1 := fun kv hkv =>
      hallowed kv (List.mem_cons_of_mem _ hkv)
    rw [List.foldl_cons, ih _ hrest, field_set (hallowed kv List.mem_cons_self),
      ← List.singleton_append, lastWrite_append, Option.or_assoc]
    congr 1
    obtain ⟨key', v⟩ := kv
    by_cases hkey : key = key'
    · simp [lastWrite, hkey]
    · have hnone : lastWrite [(key', v)] key = none := by
        rw [lastWrite, List.reverse_singleton, List.lookup_eq_none_iff]
        simpa using hkey
      rw [hnone, Option.none_or, if_neg hkey]

/-! ## Steps -/

section

variable {s s' : ConfigStore} {doc : ConfigDoc}

theorem field_defaultConfig (now : Int) {key : String} (h : allowed key) :
    (defaultConfig now).field key = lastWrite defaultWrites key := by
  rcases allowed_cases h with rfl | rfl | rfl <;> rfl

/-- What an update makes of the document is its stored writes, in all cases. -/
theorem field_updateBody (fault : Option String) (now : Int) (body : Option GoMap) (doc : ConfigDoc) :
    ∃ doc', (updateBody fault now body (some doc)).2 = some doc' ∧ ∀ key,
      doc'.field key = (lastWrite (storedWrites fault body) key).or (doc.field key) := by
  cases body with
  | none => exact ⟨doc, rfl, fun key => rfl⟩
  | some m =>
    by_cases hallowed : ∀ kv ∈ m.entries, allowed kv.1
    · cases fault with
      | some message =>
        obtain ⟨e, he⟩ := updateBody_fault message now (some doc) hallowed
        refine ⟨doc, congrArg Prod.snd he, fun key => ?_⟩
        rw [storedWrites, if_neg (fun h => absurd h.1 (by simp))]
        rfl
      | none =>
        have hwritten : (updateBody none now (some m) (some doc)).2 =
            some (written now m (some doc)) := by
          rcases updateBody_written now (some doc) hallowed with ⟨cfg, -, hbody⟩ | ⟨-, e, hbody⟩
          · exact congrArg Prod.snd hbody
          · exact congrArg Prod.snd hbody
        refine ⟨_, hwritten, fun key => ?_⟩
        rw [storedWrites, if_pos ⟨rfl, hallowed⟩]
        exact field_foldl doc (allowed_updatesOf hallowed)
    · have hunknown : ∃ kv ∈ m.entries, ¬ allowed kv.1 := by simpa using hallowed
      obtain ⟨e, he⟩ := updateBody_unknown fault now (some doc) hunknown
      refine ⟨doc, congrArg Prod.snd he, fun key => ?_⟩
      rw [storedWrites, if_neg (fun h => hallowed h.2)]
      rfl

namespace ConfigStore

/-- What every step keeps; a server that has counted no document is the only one, and there is none. -/
structure Inv (s : ConfigStore) : Prop where
  docs : s.docs = [] ∧ s.log = [] ∨ ∃ doc, s.docs = [doc] ∧
    ∀ key, allowed key → doc.field key = lastWrite s.log key
  counted : ∀ i, s.server i = .counted → s.docs = [] ∧ ∀ j, s.server j = .counted → j = i
  up : ∀ i, s.server i = .up → s.docs ≠ []

theorem inv_start : start.Inv where
  docs := .inl ⟨rfl, rfl⟩
  counted _ h := by cases h
  up _ h := by cases h

theorem setServer_self {i : Nat} {stage : BootStage} : (s.setServer i stage).server i = stage :=
  Function.update_self ..

theorem setServer_other {i j : Nat} {stage : BootStage} (h : j ≠ i) :
    (s.setServer i stage).server j = s.server j :=
  Function.update_of_ne h ..

theorem Inv.setServer (h : s.Inv) {i : Nat} {stage : BootStage}
    (hcounted : stage = .counted → s.docs = [] ∧ ∀ j, s.server j ≠ .counted)
    (hup : stage = .up → s.docs ≠ []) : (s.setServer i stage).Inv := by
  refine ⟨h.docs, fun k hk => ?_, fun k hk => ?_⟩
  · rcases eq_or_ne k i with rfl | hne
    · rw [setServer_self] at hk
      obtain ⟨hdocs, hnone⟩ := hcounted hk
      refine ⟨hdocs, fun j hj => ?_⟩
      by_contra hj'
      rw [setServer_other hj'] at hj
      exact hnone j hj
    · rw [setServer_other hne] at hk
      obtain ⟨hdocs, hunique⟩ := h.counted k hk
      refine ⟨hdocs, fun j hj => ?_⟩
      rcases eq_or_ne j i with rfl | hj'
      · rw [setServer_self] at hj
        exact absurd hk ((hcounted hj).2 k)
      · rw [setServer_other hj'] at hj
        exact hunique j hj
  · rcases eq_or_ne k i with rfl | hne
    · rw [setServer_self] at hk
      exact hup hk
    · rw [setServer_other hne] at hk
      exact h.up k hk

/-- An insertion is made into an empty collection. -/
theorem Inv.insert (h : s.Inv) {i : Nat} (hi : s.server i = .counted) (now : Int) :
    Inv { s.setServer i .up with
      docs := s.docs ++ [defaultConfig now]
      log := s.log ++ defaultWrites } := by
  obtain ⟨hempty, hunique⟩ := h.counted i hi
  have hlog : s.log = [] := by
    rcases h.docs with ⟨-, hlog⟩ | ⟨doc, hdoc, -⟩
    · exact hlog
    · rw [hempty] at hdoc
      cases hdoc
  refine ⟨.inr ⟨defaultConfig now, ?_, fun key hkey => ?_⟩, fun k hk => ?_, fun k _ => ?_⟩
  · rw [hempty]
    rfl
  · rw [hlog]
    exact field_defaultConfig now hkey
  · rcases eq_or_ne k i with rfl | hne
    · rw [show _ = BootStage.up from setServer_self] at hk
      cases hk
    · exact absurd (hunique k ((setServer_other hne).symm.trans hk)) hne
  · simp

theorem Inv.update (h : s.Inv) {i : Nat} (hi : s.server i = .up) (fault : Option String) (now : Int)
    (body : Option GoMap) :
    Inv { s with
      docs := (updateBody fault now body s.docs.head?).2.toList ++ s.docs.tail
      log := s.log ++ storedWrites fault body } := by
  rcases h.docs with ⟨hempty, -⟩ | ⟨doc, hdoc, hfield⟩
  · exact absurd hempty (h.up i hi)
  · obtain ⟨doc', hdoc', hfield'⟩ := field_updateBody fault now body doc
    have hdocs : (updateBody fault now body s.docs.head?).2.toList ++ s.docs.tail = [doc'] := by
      rw [hdoc, List.head?_cons, hdoc']
      rfl
    refine ⟨.inr ⟨doc', hdocs, fun key hkey => ?_⟩, fun k hk => ?_, fun k _ => ?_⟩
    · rw [hfield', hfield key hkey, lastWrite_append]
    · have hnone := (h.counted k hk).1
      rw [hdoc] at hnone
      cases hnone
    · simp [hdocs]

theorem Inv.step {a : ConfigStep} (h : s.Inv) (hok : s.OneBoot a) (hstep : s.step a = some s') :
    s'.Inv := by
  cases a with
  | count i fault =>
    simp only [ConfigStore.step] at hstep
    split at hstep
    · cases fault with
      | some e =>
        obtain rfl := Option.some.inj hstep
        exact h
      | none =>
        obtain rfl := Option.some.inj hstep
        refine h.setServer (fun hcounted => ?_) (fun hup => ?_)
        · split at hcounted
          · cases hcounted
          · rename_i hnone
            exact ⟨List.length_eq_zero_iff.1 (by omega), hok⟩
        · split at hup
          · rename_i hsome
            exact List.ne_nil_of_length_pos hsome
          · cases hup
    · cases hstep
  | insert i fault now =>
    simp only [ConfigStore.step] at hstep
    split at hstep
    · rename_i hi
      cases fault with
      | some e =>
        obtain rfl := Option.some.inj hstep
        exact h.setServer (fun hdown => by cases hdown) (fun hdown => by cases hdown)
      | none =>
        obtain rfl := Option.some.inj hstep
        exact h.insert hi now
    · cases hstep
  | exit i =>
    obtain rfl := Option.some.inj hstep
    exact h.setServer (fun hdown => by cases hdown) (fun hdown => by cases hdown)
  | update i fault now body =>
    simp only [ConfigStore.step] at hstep
    split at hstep
    · rename_i hi
      obtain rfl := Option.some.inj hstep
      exact h.update hi fault now body
    · cases hstep

theorem readable_iff (hfield : ∀ key, allowed key → doc.field key = lastWrite s.log key) :
    (∃ cfg, get none (some doc) = .ok (some cfg)) ↔
      ∀ key, allowed key → decodes key (lastWrite s.log key) := by
  have hdecode : (∃ cfg, get none (some doc) = .ok (some cfg)) ↔
      ∃ cfg, decode "config get" doc = .ok cfg := by
    constructor
    · rintro ⟨cfg, hcfg⟩
      rcases hdoc : decode "config get" doc with e | cfg'
      · simp [get, hdoc, Except.map] at hcfg
      · exact ⟨cfg', rfl⟩
    · rintro ⟨cfg, hcfg⟩
      exact ⟨cfg, get_some hcfg⟩
  rw [hdecode, exists_decode_iff]
  constructor
  · intro h key hkey
    rw [← hfield key hkey]
    exact h key hkey
  · intro h key hkey
    rw [hfield key hkey]
    exact h key hkey

theorem decode_of_get {cfg : VenueConfig} (h : get none (some doc) = .ok (some cfg)) :
    decode "config get" doc = .ok cfg := by
  rcases hdoc : decode "config get" doc with e | cfg'
  · simp [get, hdoc, Except.map] at h
  · simp only [get, hdoc, Except.map, Except.ok.injEq, Option.some.injEq] at h
    rw [h]

/-- However servers boot, fail, exit and serve updates, with right values and wrong ones. -/
theorem last_written (h : GuardedReaches step OneBoot start s) : s.LastWritten := by
  have hinv : s.Inv := h.invariant inv_start fun _ _ _ hs hok hstep => hs.step hok hstep
  have hfield : ∀ doc ∈ s.docs, ∀ key, allowed key → doc.field key = lastWrite s.log key := by
    intro doc hdoc
    rcases hinv.docs with ⟨hempty, -⟩ | ⟨doc', hdocs, hfield⟩
    · rw [hempty] at hdoc
      cases hdoc
    · rw [hdocs, List.mem_singleton] at hdoc
      rwa [hdoc]
  have hlength : s.docs.length ≤ 1 := by
    rcases hinv.docs with ⟨hempty, -⟩ | ⟨doc, hdocs, -⟩
    · simp [hempty]
    · simp [hdocs]
  refine ⟨hlength, fun i hi => ?_, hfield, fun doc hdoc => readable_iff (hfield doc hdoc),
    fun doc hdoc cfg hcfg => ?_⟩
  · have hpos := List.length_pos_of_ne_nil (hinv.up i hi)
    omega
  · obtain ⟨hrate, hclose, hstart, -⟩ := decode_eq_ok.1 (decode_of_get hcfg)
    exact ⟨hfield doc hdoc "hourlyRate" rfl ▸ hrate, hfield doc hdoc "venueCloseTime" rfl ▸ hclose,
      hfield doc hdoc "venueStartTime" rfl ▸ hstart⟩

/-- A start time that is no text is stored, and replaced by one that is. -/
theorem last_written_repaired : ∃ s : ConfigStore,
    lastWrite s.log "venueStartTime" = some (.string "10:00") ∧ s.LastWritten := by
  refine ⟨_, ?_, last_written (.tail (.tail (.tail (.single ⟨.count 0 none, ?_, rfl⟩)
    ⟨.insert 0 none 0, trivial, rfl⟩)
    ⟨.update 0 none 1 (some (single "venueStartTime" (.number 10))), trivial, rfl⟩)
    ⟨.update 0 none 2 (some (single "venueStartTime" (.string "10:00"))), trivial, rfl⟩)⟩
  · rfl
  · exact fun j hj => by cases hj

end ConfigStore

end

end ConfigService

end GbcVenue
