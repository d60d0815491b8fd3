import GbcVenue.Repository.BookingRepo
import Mathlib.Data.Set.Lattice
import Mathlib.Order.CompletePartialOrder
import Mathlib.Order.Interval.Set.Basic
import Mathlib.Data.List.Nodup

/-!
# Facts about the bookings collection

What a lookup finds, what an insertion or a replacement leaves, and the two properties of the store
that the booking requests keep: no double booking, and cancelled bookings that stay as they are.
-/

namespace GbcVenue

open GoTime

@[simp] theorem unixMilli_ofUnixMilli (ms : Int) : unixMilli (ofUnixMilli ms) = ms := by
  simp [unixMilli, ofUnixMilli]

@[simp] theorem docToBooking_tableID (d : BookingDoc) : (docToBooking d).tableID = d.tableID := rfl

@[simp] theorem docToBooking_status (d : BookingDoc) : (docToBooking d).status = d.status := rfl

@[simp] theorem docToBooking_id (d : BookingDoc) : (docToBooking d).id = d.id.hex := rfl

/-- `bookingToDoc` on a booking that carries a hex id. -/
theorem bookingToDoc_hex {b : Booking} {oid : ObjectID} (h : b.id = oid.hex) :
    bookingToDoc b = .ok (docOf oid b) := by
  simp [bookingToDoc, h, ObjectID.hex_ne_empty]

theorem bookingToDoc_empty {b : Booking} (h : b.id = "") :
    bookingToDoc b = .ok (docOf .zero b) := by
  simp [bookingToDoc, h]

namespace BookingDoc

theorem live_iff {d : BookingDoc} : d.live ↔ d.status = .active := by
  cases h : d.status <;> simp [live, h]

theorem activeAt_iff {d : BookingDoc} {now : Int} :
    d.activeAt now ↔ d.live ∧ d.checkInTime ≤ now ∧ now < d.checkOutTime := by
  simp [activeAt]

theorem overlaps_iff {d : BookingDoc} {tableID checkIn checkOut : Int} :
    d.overlaps tableID checkIn checkOut ↔
      d.tableID = tableID ∧ d.live ∧ d.checkInTime < checkOut ∧ checkIn < d.checkOutTime := by
  simp [overlaps]

end BookingDoc

namespace BookingCollection

theorem id_inj (c : BookingCollection) {d e : BookingDoc} (hd : d ∈ c.docs) (he : e ∈ c.docs)
    (h : d.id = e.id) : d = e :=
  List.inj_on_of_nodup_map c.nodup hd he h

theorem find_eq_some {c : BookingCollection} {oid : ObjectID} {d : BookingDoc} :
    c.find oid = some d ↔ d ∈ c.docs ∧ d.id = oid := by
  constructor
  · intro h
    exact ⟨List.mem_of_find?_eq_some h, by simpa using List.find?_some h⟩
  · rintro ⟨hd, rfl⟩
    obtain ⟨e, he⟩ : ∃ e, c.find d.id = some e := by
      rw [← Option.isSome_iff_exists, find, List.find?_isSome]
      exact ⟨d, hd, by simp⟩
    have hid : e.id = d.id := by simpa using List.find?_some he
    rw [he, c.id_inj (List.mem_of_find?_eq_some he) hd hid]

/-- What a successful `FindByID` found. -/
theorem findByID_eq_some {c : BookingCollection} {fault : Option String} {id : String}
    {b : Booking} (h : c.findByID fault id = .ok (some b)) :
    ∃ d ∈ c.docs, objectIDFromHex id = some d.id ∧ docToBooking d = b := by
  unfold findByID at h
  split at h
  · cases h
  · rename_i oid hoid
    split at h
    · cases h
    · simp only [Except.ok.injEq, Option.map_eq_some_iff] at h
      obtain ⟨d, hd, rfl⟩ := h
      obtain ⟨hmem, rfl⟩ := find_eq_some.1 hd
      exact ⟨d, hmem, hoid, rfl⟩

theorem findByID_of_mem {c : BookingCollection} {id : String} {d : BookingDoc} (hd : d ∈ c.docs)
    (hid : objectIDFromHex id = some d.id) : c.findByID none id = .ok (some (docToBooking d)) := by
  simp [findByID, hid, find_eq_some.2 ⟨hd, rfl⟩]

/-! ## Writes -/

theorem insertOne_docs {c c' : BookingCollection} {d : BookingDoc} (h : c.insertOne d = some c') :
    c'.docs = c.docs ++ [d] ∧ ∀ e ∈ c.docs, e.id ≠ d.id := by
  unfold insertOne at h
  split at h
  · cases h
  · rename_i hd
    cases h
    exact ⟨rfl, fun e he heq => hd (List.mem_map.2 ⟨e, he, heq⟩)⟩

theorem mem_replaceOne {c : BookingCollection} {d e : BookingDoc} :
    e ∈ (c.replaceOne d).docs ↔
      (e = d ∧ ∃ d₀ ∈ c.docs, d₀.id = d.id) ∨ (e ∈ c.docs ∧ e.id ≠ d.id) := by
  simp only [replaceOne, List.mem_map]
  constructor
  · rintro ⟨d₀, hd₀, rfl⟩
    by_cases h : d₀.id = d.id
    · simp [h]
      exact ⟨d₀, hd₀, h⟩
    · simp [h, hd₀]
  · rintro (⟨rfl, d₀, hd₀, h⟩ | ⟨he, h⟩)
    · exact ⟨d₀, hd₀, by simp [h]⟩
    · exact ⟨e, he, by simp [h]⟩

/-- The document that `Create` inserts for a new booking. -/
def newDoc (objectID : ObjectID) (now : Int) (b : Booking) : BookingDoc :=
  if b.createdAt = zeroTime then { docOf objectID b with createdAt := unixMilli now }
  else docOf objectID b

@[simp] theorem newDoc_id (oid : ObjectID) (now : Int) (b : Booking) :
    (newDoc oid now b).id = oid := by unfold newDoc; split <;> rfl

@[simp] theorem newDoc_tableID (oid : ObjectID) (now : Int) (b : Booking) :
    (newDoc oid now b).tableID = b.tableID := by unfold newDoc; split <;> rfl

@[simp] theorem newDoc_checkInTime (oid : ObjectID) (now : Int) (b : Booking) :
    (newDoc oid now b).checkInTime = unixMilli b.checkInTime := by unfold newDoc; split <;> rfl

@[simp] theorem newDoc_checkOutTime (oid : ObjectID) (now : Int) (b : Booking) :
    (newDoc oid now b).checkOutTime = unixMilli b.checkOutTime := by unfold newDoc; split <;> rfl

@[simp] theorem newDoc_status (oid : ObjectID) (now : Int) (b : Booking) :
    (newDoc oid now b).status = b.status := by unfold newDoc; split <;> rfl

/-- A `Create` of a booking without an id either fails and changes nothing, or inserts its document
under a fresh id. -/
theorem create_cases (c : BookingCollection) (fault : Option String) (oid : ObjectID) (now : Int)
    {b : Booking} (hb : b.id = "") :
    (∃ e, c.create fault oid now b = (.error e, c)) ∨
    (∃ c', c.create fault oid now b = (.ok oid.hex, c') ∧
      c'.docs = c.docs ++ [newDoc oid now b] ∧ ∀ d ∈ c.docs, d.id ≠ oid) := by
  have hdoc : (if b.createdAt = zeroTime then
      { { docOf .zero b with id := oid } with createdAt := unixMilli now }
      else { docOf .zero b with id := oid }) = newDoc oid now b := rfl
  simp only [create, bookingToDoc_empty hb, hdoc]
  split
  · exact .inl ⟨_, rfl⟩
  · split
    · exact .inl ⟨_, rfl⟩
    · rename_i c' hc
      obtain ⟨hdocs, hfresh⟩ := insertOne_docs hc
      exact .inr ⟨c', rfl, hdocs, by simpa using hfresh⟩

/-- A `Save` of a booking that carries a hex id either fails and changes nothing, or replaces the
document. -/
theorem save_cases (c : BookingCollection) (fault : Option String) {b : Booking} {oid : ObjectID}
    (hb : b.id = oid.hex) :
    (∃ e, fault = some e ∧ c.save fault b = (.error (.text e), c)) ∨
      (fault = none ∧ c.save fault b = (.ok (), c.replaceOne (docOf oid b))) := by
  cases fault with
  | some e => exact .inl ⟨e, rfl, by simp [save, hb, bookingToDoc_hex hb]⟩
  | none => exact .inr ⟨rfl, by simp [save, hb, bookingToDoc_hex hb]⟩

/-! ## No double booking -/

/-- Distinct live bookings of one table follow one another. -/
def NoDoubleBooking (c : BookingCollection) : Prop :=
  ∀ d ∈ c.docs, ∀ e ∈ c.docs, d.id ≠ e.id → d.tableID = e.tableID → d.live → e.live →
    d.checkOutTime ≤ e.checkInTime ∨ e.checkOutTime ≤ d.checkInTime

theorem noDoubleBooking_empty : empty.NoDoubleBooking := by simp [NoDoubleBooking, empty]

/-- The windows of a store without double bookings are disjoint. -/
theorem NoDoubleBooking.disjoint {c : BookingCollection} (h : c.NoDoubleBooking)
    {d e : BookingDoc} (hd : d ∈ c.docs) (he : e ∈ c.docs) (hne : d ≠ e)
    (ht : d.tableID = e.tableID) (hdl : d.live) (hel : e.live) :
    Disjoint (Set.Ico d.checkInTime d.checkOutTime) (Set.Ico e.checkInTime e.checkOutTime) := by
  rw [Set.disjoint_left]
  rintro x ⟨h₁, h₂⟩ ⟨h₃, h₄⟩
  rcases h d hd e he (fun hid => hne (c.id_inj hd he hid)) ht hdl hel with h | h <;> omega

/-- At most one booking of a table is live at an instant. -/
theorem NoDoubleBooking.unique {c : BookingCollection} (h : c.NoDoubleBooking) {d e : BookingDoc}
    {now : Int} (hd : d ∈ c.docs) (he : e ∈ c.docs) (ht : d.tableID = e.tableID)
    (hda : d.activeAt now) (hea : e.activeAt now) : d = e := by
  rw [BookingDoc.activeAt_iff] at hda hea
  by_contra hne
  rcases h d hd e he (fun hid => hne (c.id_inj hd he hid)) ht hda.1 hea.1 with h | h <;> omega

theorem overlapping_eq_false {c : BookingCollection} {tableID checkIn checkOut : Int}
    {exclude : Option ObjectID} :
    c.overlapping tableID checkIn checkOut exclude = false ↔
      ∀ d ∈ c.docs, d.tableID = tableID → d.live → some d.id ≠ exclude →
        d.checkOutTime ≤ unixMilli checkIn ∨ unixMilli checkOut ≤ d.checkInTime := by
  simp only [overlapping, List.any_eq_false, decide_eq_true_eq, BookingDoc.overlaps_iff]
  refine forall₂_congr fun d _ => ?_
  constructor
  · intro h ht hl hx
    by_contra hc
    exact h ⟨⟨ht, hl, by omega, by omega⟩, hx⟩
  · rintro h ⟨⟨ht, hl, h₁, h₂⟩, hx⟩
    have := h ht hl hx
    omega

/-- Adding a booking whose window is free keeps the store without double bookings. -/
theorem NoDoubleBooking.append {c c' : BookingCollection} {d : BookingDoc} (h : c.NoDoubleBooking)
    (hdocs : c'.docs = c.docs ++ [d])
    (hfree : ∀ e ∈ c.docs, e.tableID = d.tableID → e.live →
      e.checkOutTime ≤ d.checkInTime ∨ d.checkOutTime ≤ e.checkInTime) :
    c'.NoDoubleBooking := by
  intro x hx y hy hne ht hxl hyl
  simp only [hdocs, List.mem_append, List.mem_singleton] at hx hy
  rcases hx with hx | rfl <;> rcases hy with hy | rfl
  · exact h x hx y hy hne ht hxl hyl
  · exact hfree x hx ht hxl
  · exact (hfree y hy ht.symm hyl).symm
  · exact absurd rfl hne

/-- So does replacing a booking by one whose window is free among the others, or by a cancelled
one. -/
theorem NoDoubleBooking.replaceOne {c : BookingCollection} {d : BookingDoc}
    (h : c.NoDoubleBooking)
    (hfree : d.live → ∀ e ∈ c.docs, e.id ≠ d.id → e.tableID = d.tableID → e.live →
      e.checkOutTime ≤ d.checkInTime ∨ d.checkOutTime ≤ e.checkInTime) :
    (c.replaceOne d).NoDoubleBooking := by
  intro x hx y hy hne ht hxl hyl
  rcases mem_replaceOne.1 hx with ⟨rfl, -⟩ | ⟨hx', hxd⟩ <;>
    rcases mem_replaceOne.1 hy with ⟨rfl, -⟩ | ⟨hy', hyd⟩
  · exact absurd rfl hne
  · exact (hfree hxl y hy' hyd ht.symm hyl).symm
  · exact hfree hyl x hx' hxd ht hxl
  · exact h x hx' y hy' hne ht hxl hyl

end BookingCollection

/-! ## Stored bookings and what lasts of them -/

/-- A booking with this id is stored on table `t`. -/
def Stored (id : String) (t : Int) (c : BookingCollection) : Prop :=
  ∃ d ∈ c.docs, d.id.hex = id ∧ d.tableID = t

/-- A live booking with this id is stored on table `t`. -/
def StoredLive (id : String) (t : Int) (c : BookingCollection) : Prop :=
  ∃ d ∈ c.docs, d.id.hex = id ∧ d.tableID = t ∧ d.live

/-- Documents keep their id and table, and cancelled ones stay cancelled. -/
def Persists (c c' : BookingCollection) : Prop :=
  ∀ d ∈ c.docs, ∃ d' ∈ c'.docs, d'.id = d.id ∧ d'.tableID = d.tableID ∧ (d'.live → d.live)

theorem Persists.refl (c : BookingCollection) : Persists c c :=
  fun d hd => ⟨d, hd, rfl, rfl, fun h => h⟩

theorem Persists.trans {c c' c'' : BookingCollection} (h : Persists c c') (h' : Persists c' c'') :
    Persists c c'' := by
  intro d hd
  obtain ⟨d', hd', hid, ht, hl⟩ := h d hd
  obtain ⟨d'', hd'', hid', ht', hl'⟩ := h' d' hd'
  exact ⟨d'', hd'', hid'.trans hid, ht'.trans ht, fun h => hl (hl' h)⟩

theorem Stored.persists {id : String} {t : Int} {c c' : BookingCollection} (h : Stored id t c)
    (hp : Persists c c') : Stored id t c' := by
  obtain ⟨d, hd, rfl, rfl⟩ := h
  obtain ⟨d', hd', hid, ht, -⟩ := hp d hd
  exact ⟨d', hd', by rw [hid], ht⟩

theorem StoredLive.stored {id : String} {t : Int} {c : BookingCollection} (h : StoredLive id t c) :
    Stored id t c := by
  obtain ⟨d, hd, hid, ht, -⟩ := h
  exact ⟨d, hd, hid, ht⟩

/-- Appending keeps what is there. -/
theorem persists_append {c c' : BookingCollection} {d : BookingDoc}
    (h : c'.docs = c.docs ++ [d]) : Persists c c' := by
  intro e he
  exact ⟨e, by rw [h]; exact List.mem_append_left _ he, rfl, rfl, fun hl => hl⟩

/-- Replacing a document by one of the same table that is not live unless the document was. -/
theorem persists_replaceOne {c : BookingCollection} {d : BookingDoc}
    (ht : Stored d.id.hex d.tableID c) (hl : d.live → ∀ e ∈ c.docs, e.id = d.id → e.live) :
    Persists c (c.replaceOne d) := by
  intro e he
  by_cases hid : e.id = d.id
  · obtain ⟨d₀, hd₀, hid₀, ht₀⟩ := ht
    have hde : d₀ = e := c.id_inj hd₀ he ((ObjectID.hex_inj hid₀).trans hid.symm)
    subst hde
    exact ⟨d, BookingCollection.mem_replaceOne.2 (.inl ⟨rfl, d₀, hd₀, hid⟩), hid.symm, ht₀.symm,
      fun h => hl h d₀ he hid⟩
  · exact ⟨e, BookingCollection.mem_replaceOne.2 (.inr ⟨he, hid⟩), rfl, rfl, fun hl => hl⟩

end GbcVenue
