import GbcVenue.Domain.Json
import GbcVenue.Service.ConfigService
import Mathlib.Data.List.Nodup

/-!
# Updates of the configuration

`PATCH /api/configs` on any JSON object or `null`. `config_update_all_or_nothing_iff`: an update is all or
nothing exactly if the database fails, the body is `null` or has an unknown field, or every value is of the
type of its field; otherwise the document is stored before it turns out that it cannot be read back.
-/

namespace GbcVenue

/-- A Go `map[string]any` that is not nil, as the entries in the order of an iteration. -/
structure GoMap where
  entries : List (String × Json)
  nodup : (entries.map Prod.fst).Nodup

namespace ConfigService

/-- A JSON value as `$set` stores it. -/
def configValue : Json → ConfigValue
  | .null => .null
  | .bool b => .bool b
  | .number x => .number x
  | .string s => .string s
  | .array _ | .object _ => .other

/-- What `UpdateConfig` ends with: a panic reaches the caller, whose handler answers it with a 500. -/
inductive Outcome
  | returned (r : Except GoError VenueConfig)
  | panicked (message : String)

/-- Go `UpdateConfig` on a decoded body. The nil map of a `null` has no field to refuse, and the write of
`updatedAt` into it panics (`config_repo.go:72`). -/
def updateBody (fault : Option String) (now : Int) (body : Option GoMap) (doc : Option ConfigDoc) :
    Outcome × Option ConfigDoc :=
  match body with
  | none => (.panicked "assignment to entry in nil map", doc)
  | some m =>
    let updates := m.entries.map fun kv => (kv.1, configValue kv.2)
    let (r, doc') := updateConfig fault now updates doc
    (.returned r, doc')

/-- `cfg` has the value that was sent for the field. -/
def HasSent (cfg : VenueConfig) : String × Json → Prop
  | ("hourlyRate", .number x) => cfg.hourlyRate = x
  | ("venueCloseTime", .string s) => cfg.venueCloseTime = s
  | ("venueStartTime", .string s) => cfg.venueStartTime = s
  | _ => False

/-- The value is of the type of its field. -/
def Typed : String × Json → Bool
  | ("hourlyRate", .number _) | ("venueCloseTime", .string _) | ("venueStartTime", .string _) => true
  | _ => false

/-- An update that does not return success leaves the document as it was and readable; after one that
does, what is read is what was returned and what was sent. -/
structure AllOrNothing (body : Option GoMap) (outcome : Outcome) (doc doc' : Option ConfigDoc) :
    Prop where
  failed : (∀ cfg, outcome ≠ .returned (.ok cfg)) → doc' = doc ∧ ∃ cfg, get none doc' = .ok cfg
  succeeded : ∀ cfg, outcome = .returned (.ok cfg) → get none doc' = .ok (some cfg) ∧
    ∀ m, body = some m → ∀ kv ∈ m.entries, HasSent cfg kv

/-! ## Fields -/

/-- A field of the document by its name. -/
def ConfigDoc.field (doc : ConfigDoc) : String → Option ConfigValue
  | "hourlyRate" => doc.hourlyRate
  | "venueCloseTime" => doc.venueCloseTime
  | "venueStartTime" => doc.venueStartTime
  | _ => none

/-- The field can be decoded. -/
def decodes (key : String) (v : Option ConfigValue) : Bool :=
  if key = "hourlyRate" then (decodeFloat v).isSome else (decodeString v).isSome

theorem allowed_cases {key : String} (h : allowed key) :
    key = "hourlyRate" ∨ key = "venueCloseTime" ∨ key = "venueStartTime" := of_decide_eq_true h

theorem field_set {doc : ConfigDoc} {key key' : String} {v : ConfigValue} (h : allowed key) :
    (doc.set (key, v)).field key' = if key' = key then some v else doc.field key' := by
  rcases allowed_cases h with rfl | rfl | rfl
  all_goals
    by_cases hrate : key' = "hourlyRate"
    · subst hrate
      rfl
    · by_cases hclose : key' = "venueCloseTime"
      · subst hclose
        rfl
      · by_cases hstart : key' = "venueStartTime"
        · subst hstart
          rfl
        · simp [ConfigDoc.field, hrate, hclose, hstart]

/-- A fold of writes leaves the fields that it does not name. -/
theorem field_foldl_of_notMem {updates : List (String × ConfigValue)} (doc : ConfigDoc) {key : String}
    (hallowed : ∀ kv ∈ updates, allowed kv.1) (hkey : key ∉ updates.map Prod.fst) :
    (updates.foldl ConfigDoc.set doc).field key = doc.field key := by
  induction updates generalizing doc with
  | nil => rfl
  | cons kv updates ih =>
    rw [List.map_cons, List.mem_cons, not_or] at hkey
    rw [List.foldl_cons, ih _ (fun kv hkv => hallowed kv (List.mem_cons_of_mem _ hkv)) hkey.2,
      field_set (hallowed kv List.mem_cons_self), if_neg hkey.1]

/-- A fold of writes to different fields makes each. -/
theorem field_foldl_of_mem {updates : List (String × ConfigValue)} {doc : ConfigDoc}
    {kv : String × ConfigValue} (hallowed : ∀ kv ∈ updates, allowed kv.1)
    (hnodup : (updates.map Prod.fst).Nodup) (hkv : kv ∈ updates) :
    (updates.foldl ConfigDoc.set doc).field kv.1 = some kv.2 := by
  induction updates generalizing doc with
  | nil => cases hkv
  | cons head updates ih =>
    rw [List.map_cons, List.nodup_cons] at hnodup
    have hrest : ∀ kv ∈ updates, allowed kv.1 := fun kv hkv =>
      hallowed kv (List.mem_cons_of_mem _ hkv)
    rw [List.foldl_cons]
    rcases List.mem_cons.1 hkv with rfl | hkv
    · rw [field_foldl_of_notMem _ hrest hnodup.1, field_set (hallowed kv List.mem_cons_self),
        if_pos rfl]
    · exact ih hrest hnodup.2 hkv

/-- A document is decoded field by field. -/
theorem decode_eq_ok {context : String} {doc : ConfigDoc} {cfg : VenueConfig} :
    decode context doc = .ok cfg ↔ decodeFloat doc.hourlyRate = some cfg.hourlyRate ∧
      decodeString doc.venueCloseTime = some cfg.venueCloseTime ∧
      decodeString doc.venueStartTime = some cfg.venueStartTime ∧ doc.updatedAt = cfg.updatedAt := by
  unfold decode
  constructor
  · intro h
    split at h <;> cases h
    rename_i hrate hclose hstart
    exact ⟨hrate, hclose, hstart, rfl⟩
  · rintro ⟨hrate, hclose, hstart, hupdated⟩
    rw [hrate, hclose, hstart, hupdated]

theorem exists_decode_iff {context : String} {doc : ConfigDoc} :
    (∃ cfg, decode context doc = .ok cfg) ↔ ∀ key, allowed key → decodes key (doc.field key) := by
  constructor
  · rintro ⟨cfg, hcfg⟩ key hkey
    obtain ⟨hrate, hclose, hstart, -⟩ := decode_eq_ok.1 hcfg
    rcases allowed_cases hkey with rfl | rfl | rfl
    · exact Option.isSome_iff_exists.2 ⟨_, hrate⟩
    · exact Option.isSome_iff_exists.2 ⟨_, hclose⟩
    · exact Option.isSome_iff_exists.2 ⟨_, hstart⟩
  · intro h
    obtain ⟨rate, hrate⟩ := Option.isSome_iff_exists.1 (h "hourlyRate" rfl)
    obtain ⟨close, hclose⟩ := Option.isSome_iff_exists.1 (h "venueCloseTime" rfl)
    obtain ⟨start, hstart⟩ := Option.isSome_iff_exists.1 (h "venueStartTime" rfl)
    exact ⟨⟨rate, close, start, doc.updatedAt⟩, decode_eq_ok.2 ⟨hrate, hclose, hstart, rfl⟩⟩

/-! ## Updates -/

/-- The fields of a body, as `$set` gets them. -/
def updatesOf (m : GoMap) : List (String × ConfigValue) :=
  m.entries.map fun kv => (kv.1, configValue kv.2)

/-- The document after a write of the fields. -/
def written (now : Int) (m : GoMap) (doc : Option ConfigDoc) : ConfigDoc :=
  { (updatesOf m).foldl ConfigDoc.set (doc.getD ⟨none, none, none, 0⟩) with
    updatedAt := GoTime.ofUnixMilli (GoTime.unixMilli now) }

section

variable {now : Int} {m : GoMap} {doc : Option ConfigDoc}

theorem nodup_updatesOf (m : GoMap) : ((updatesOf m).map Prod.fst).Nodup := by
  rw [updatesOf, List.map_map]
  exact m.nodup

theorem allowed_updatesOf (h : ∀ kv ∈ m.entries, allowed kv.1) : ∀ kv ∈ updatesOf m, allowed kv.1 := by
  intro kv hkv
  obtain ⟨kv', hkv', rfl⟩ := List.mem_map.1 hkv
  exact h kv' hkv'

/-- A body with an unknown field is refused. -/
theorem updateBody_unknown (fault : Option String) (now : Int) (doc : Option ConfigDoc)
    (h : ∃ kv ∈ m.entries, ¬ allowed kv.1) :
    ∃ e, updateBody fault now (some m) doc = (.returned (.error e), doc) := by
  obtain ⟨kv, hkv, hunknown⟩ := h
  have hfind : ((updatesOf m).find? fun kv => !allowed kv.1).isSome := by
    rw [List.find?_isSome]
    exact ⟨_, List.mem_map_of_mem hkv, by simpa using hunknown⟩
  obtain ⟨unknown, hfound⟩ := Option.isSome_iff_exists.1 hfind
  refine ⟨.validation 400 ("unknown config field: " ++ unknown.1), ?_⟩
  unfold updatesOf at hfound
  simp only [updateBody, updateConfig, hfound]

theorem find_unknown_eq_none (h : ∀ kv ∈ m.entries, allowed kv.1) :
    (updatesOf m).find? (fun kv => !allowed kv.1) = none := by
  rw [List.find?_eq_none]
  intro kv hkv
  simp [allowed_updatesOf h kv hkv]

/-- A database that fails changes nothing. -/
theorem updateBody_fault (message : String) (now : Int) (doc : Option ConfigDoc)
    (h : ∀ kv ∈ m.entries, allowed kv.1) :
    ∃ e, updateBody (some message) now (some m) doc = (.returned (.error e), doc) := by
  have hfind := find_unknown_eq_none h
  unfold updatesOf at hfind
  refine ⟨.wrap "update config" (.wrap "config update" (.text message)), ?_⟩
  simp only [updateBody, updateConfig, hfind, update]

/-- Otherwise the fields are written, whether the document can then be decoded or not. -/
theorem updateBody_written (now : Int) (doc : Option ConfigDoc) (h : ∀ kv ∈ m.entries, allowed kv.1) :
    (∃ cfg, decode "config update" (written now m doc) = .ok cfg ∧
      updateBody none now (some m) doc = (.returned (.ok cfg), some (written now m doc))) ∨
    (∀ cfg, decode "config update" (written now m doc) ≠ .ok cfg) ∧
      ∃ e, updateBody none now (some m) doc = (.returned (.error e), some (written now m doc)) := by
  have hfind := find_unknown_eq_none h
  unfold updatesOf at hfind
  rcases hdecode : decode "config update" (written now m doc) with e | cfg
  · refine .inr ⟨nofun, .wrap "update config" e, ?_⟩
    unfold written updatesOf at *
    simp only [updateBody, updateConfig, hfind, update, hdecode]
  · refine .inl ⟨cfg, rfl, ?_⟩
    unfold written updatesOf at *
    simp only [updateBody, updateConfig, hfind, update, hdecode]

/-- A field that is sent is written as it is. -/
theorem field_written (now : Int) (doc : Option ConfigDoc) (h : ∀ kv ∈ m.entries, allowed kv.1)
    {kv : String × Json} (hkv : kv ∈ m.entries) :
    (written now m doc).field kv.1 = some (configValue kv.2) := by
  have hmem : (kv.1, configValue kv.2) ∈ updatesOf m := List.mem_map_of_mem hkv
  exact field_foldl_of_mem (allowed_updatesOf h) (nodup_updatesOf m) hmem

theorem allowed_of_typed {kv : String × Json} (h : Typed kv) : allowed kv.1 := by
  unfold Typed at h
  split at h
  · rfl
  · rfl
  · rfl
  · cases h

/-- A decoded document has what was sent exactly if the values are of the types of their fields. -/
theorem hasSent_iff (h : ∀ kv ∈ m.entries, allowed kv.1) {cfg : VenueConfig} {kv : String × Json}
    (hkv : kv ∈ m.entries) (hcfg : decode "config update" (written now m doc) = .ok cfg) :
    HasSent cfg kv ↔ Typed kv := by
  have hfield := field_written now doc h hkv
  obtain ⟨hrate, hclose, hstart, -⟩ := decode_eq_ok.1 hcfg
  obtain ⟨key, v⟩ := kv
  rcases allowed_cases (h _ hkv) with rfl | rfl | rfl
  · cases v with
    | number x =>
      have hx : (written now m doc).hourlyRate = some (.number x) := hfield
      rw [hx] at hrate
      exact iff_of_true (Option.some.inj hrate).symm rfl
    | _ => exact iff_of_false id Bool.false_ne_true
  · cases v with
    | string s =>
      have hs : (written now m doc).venueCloseTime = some (.string s) := hfield
      rw [hs] at hclose
      exact iff_of_true (Option.some.inj hclose).symm rfl
    | _ => exact iff_of_false id Bool.false_ne_true
  · cases v with
    | string s =>
      have hs : (written now m doc).venueStartTime = some (.string s) := hfield
      rw [hs] at hstart
      exact iff_of_true (Option.some.inj hstart).symm rfl
    | _ => exact iff_of_false id Bool.false_ne_true

theorem decodes_of_typed {kv : String × Json} (h : Typed kv) :
    decodes kv.1 (some (configValue kv.2)) := by
  unfold Typed at h
  split at h
  · rfl
  · rfl
  · rfl
  · cases h

/-- What can be read can be decoded; without a document there is nothing to decode. -/
theorem exists_decode_of_get (h : ∃ cfg, get none doc = .ok cfg) :
    ∃ cfg, decode "config get" (doc.getD ⟨none, none, none, 0⟩) = .ok cfg := by
  obtain ⟨found, hfound⟩ := h
  cases doc with
  | none => exact ⟨_, rfl⟩
  | some doc =>
    rcases hdecode : decode "config get" doc with e | cfg
    · simp [get, hdecode, Except.map] at hfound
    · exact ⟨cfg, hdecode⟩

/-- A document that could be decoded can be decoded with values of the right types in it. -/
theorem exists_decode_written (now : Int) (hdoc : ∃ cfg, get none doc = .ok cfg)
    (h : ∀ kv ∈ m.entries, Typed kv) :
    ∃ cfg, decode "config update" (written now m doc) = .ok cfg := by
  have hallowed : ∀ kv ∈ m.entries, allowed kv.1 := fun kv hkv => allowed_of_typed (h kv hkv)
  rw [exists_decode_iff]
  intro key hkey
  by_cases hsent : key ∈ m.entries.map Prod.fst
  · obtain ⟨kv, hkv, rfl⟩ := List.mem_map.1 hsent
    rw [field_written now doc hallowed hkv]
    exact decodes_of_typed (h kv hkv)
  · have hkept : key ∉ (updatesOf m).map Prod.fst := by
      rwa [updatesOf, List.map_map]
    have hfield := field_foldl_of_notMem (doc.getD ⟨none, none, none, 0⟩)
      (allowed_updatesOf hallowed) hkept
    have hold := exists_decode_iff.1 (exists_decode_of_get hdoc) key hkey
    rw [← hfield] at hold
    exact hold

end

theorem get_some {doc : ConfigDoc} {context : String} {cfg : VenueConfig}
    (h : decode context doc = .ok cfg) : get none (some doc) = .ok (some cfg) := by
  simp [get, decode_context h, Except.map]

/-- An update that changes nothing and does not succeed. -/
theorem allOrNothing_of_refused {body : Option GoMap} {outcome : Outcome} {doc : Option ConfigDoc}
    (hdoc : ∃ cfg, get none doc = .ok cfg) (h : ∀ cfg, outcome ≠ .returned (.ok cfg)) :
    AllOrNothing body outcome doc doc :=
  ⟨fun _ => ⟨rfl, hdoc⟩, fun cfg hcfg => absurd hcfg (h cfg)⟩

/-- A write of the fields of a body is all or nothing exactly if they are of the right types. -/
theorem allOrNothing_written_iff {now : Int} {m : GoMap} {doc : Option ConfigDoc}
    (hdoc : ∃ cfg, get none doc = .ok cfg) (hallowed : ∀ kv ∈ m.entries, allowed kv.1) :
    AllOrNothing (some m) (updateBody none now (some m) doc).1 doc
      (updateBody none now (some m) doc).2 ↔ ∀ kv ∈ m.entries, Typed kv := by
  rcases updateBody_written now doc hallowed with
    ⟨cfg, hcfg, hbody⟩ | ⟨hfailed, e, hbody⟩
  · rw [hbody]
    constructor
    · intro h kv hkv
      exact (hasSent_iff hallowed hkv hcfg).1 ((h.succeeded cfg rfl).2 m rfl kv hkv)
    · intro htyped
      refine ⟨fun h => absurd rfl (h cfg), ?_⟩
      rintro cfg' ⟨⟩
      refine ⟨get_some hcfg, ?_⟩
      rintro m' ⟨⟩ kv hkv
      exact (hasSent_iff hallowed hkv hcfg).2 (htyped kv hkv)
  · rw [hbody]
    constructor
    · intro h
      obtain ⟨-, hread⟩ := h.failed nofun
      obtain ⟨cfg, hcfg⟩ := exists_decode_of_get hread
      exact absurd (decode_context hcfg) (hfailed cfg)
    · intro htyped
      obtain ⟨cfg, hcfg⟩ := exists_decode_written now hdoc htyped
      exact absurd hcfg (hfailed cfg)

/-- An update of a readable configuration is all or nothing exactly if the database fails, the body is
`null` or has an unknown field, or every value is of the type of its field. -/
theorem config_update_all_or_nothing_iff {fault : Option String} {now : Int} {body : Option GoMap}
    {doc : Option ConfigDoc} (hdoc : ∃ cfg, get none doc = .ok cfg) :
    AllOrNothing body (updateBody fault now body doc).1 doc (updateBody fault now body doc).2 ↔
      fault ≠ none ∨ ∀ m, body = some m →
        (∃ kv ∈ m.entries, ¬ allowed kv.1) ∨ ∀ kv ∈ m.entries, Typed kv := by
  cases body with
  | none =>
    refine iff_of_true (allOrNothing_of_refused hdoc nofun) (.inr nofun)
  | some m =>
    by_cases hunknown : ∃ kv ∈ m.entries, ¬ allowed kv.1
    · obtain ⟨e, hbody⟩ := updateBody_unknown fault now doc hunknown
      rw [hbody]
      refine iff_of_true (allOrNothing_of_refused hdoc nofun) (.inr ?_)
      rintro m' ⟨⟩
      exact .inl hunknown
    · have hallowed : ∀ kv ∈ m.entries, allowed kv.1 := by
        intro kv hkv
        by_contra hkey
        exact hunknown ⟨kv, hkv, hkey⟩
      cases fault with
      | some message =>
        obtain ⟨e, hbody⟩ := updateBody_fault message now doc hallowed
        rw [hbody]
        exact iff_of_true (allOrNothing_of_refused hdoc nofun) (.inl nofun)
      | none =>
        rw [allOrNothing_written_iff hdoc hallowed]
        constructor
        · rintro htyped
          refine .inr ?_
          rintro m' ⟨⟩
          exact .inr htyped
        · intro h
          exact ((h.resolve_left fun h => h rfl) m rfl).resolve_left hunknown

/-- The document that `EnsureDefault` stores. -/
def defaultDoc : ConfigDoc :=
  ⟨some (.number 1500), some (.string "00:00"), some (.string "09:00"), 0⟩

theorem get_defaultDoc : ∃ cfg, get none (some defaultDoc) = .ok cfg := ⟨_, rfl⟩

/-- A body with one field. -/
def single (key : String) (v : Json) : GoMap := ⟨[(key, v)], List.nodup_singleton key⟩

/-- A new opening time. -/
theorem config_update_all_or_nothing_opening :
    AllOrNothing (some (single "venueStartTime" (.string "10:00")))
      (updateBody none 0 (some (single "venueStartTime" (.string "10:00"))) (some defaultDoc)).1
      (some defaultDoc)
      (updateBody none 0 (some (single "venueStartTime" (.string "10:00"))) (some defaultDoc)).2 := by
  refine (config_update_all_or_nothing_iff get_defaultDoc).2 (.inr ?_)
  rintro m ⟨⟩
  refine .inr fun kv hkv => ?_
  obtain rfl := List.mem_singleton.1 hkv
  rfl

/-- A rate that is a string is refused only after it has been stored. -/
theorem config_update_can_break_config : ¬ ∀ (body : Option GoMap) (doc : Option ConfigDoc),
    (∃ cfg, get none doc = .ok cfg) →
    AllOrNothing body (updateBody none 0 body doc).1 doc (updateBody none 0 body doc).2 := by
  intro hclaim
  have h := hclaim (some (single "hourlyRate" (.string "abc"))) (some defaultDoc) get_defaultDoc
  obtain ⟨-, cfg, hcfg⟩ := h.failed nofun
  cases hcfg

end ConfigService

end GbcVenue
