import GbcVenue.Concurrency.BookingThreads

/-!
# Every booking request keeps the contract

`request_triple`: a thread that serves a booking request takes effect exactly once, as its
sequential meaning allows, and answers what its entry of the timeline says.
-/

namespace GbcVenue

open Interleaving BookingService

section

variable {faults : Option String → Prop} {reqs : List Request} {c₀ : BookingCollection} {i : Nat}

/-- A refusal of thread `i` for a reason in `Missed` takes effect at the read. -/
theorem effect_missed {id : String} {req : Request} {w : World} {g : Timeline} {e : GoError}
    {R : World → Timeline → Prop} (hreq : reqs[i]? = some req)
    (hmissed : ∀ c e, Missed faults c id e → SpecStep faults req c (.error e) c)
    (hp : Pending i g) (hm : Missed faults w.bookings id e)
    (hR : Recorded i (.error e) (g ++ [(i, .error e)]) → R w (g ++ [(i, .error e)])) :
    Effect faults reqs i w g R :=
  .inr ⟨req, _, hreq, hp, hmissed _ _ hm, hR (hp.record _)⟩

/-- What the read under the mutex leaves for its answer: a request refused, or a live document that
no other thread can change. -/
def Refetched (i : Nat) (id : String) (t : Int) (n : Nat) (B : BookingDoc → Timeline → Prop) :
    Except GoError (Option Booking) → World → Timeline → Prop
  | .ok (some fresh), w, g =>
      (fresh.status = .cancelled ∧ Held i t n w ∧ Recorded i (.error notFound) g) ∨
      ∃ d, (docToBooking d = fresh ∧ d.tableID = t ∧ objectIDFromHex id = some d.id ∧ d.live) ∧
        Held i d.tableID n w ∧ d ∈ w.bookings.docs ∧ B d g
  | _, w, g => Held i t n w ∧ Recorded i (.error notFound) g

/-- The read under the mutex either refuses the request or hands `body` a live document that no
other thread can change. -/
theorem refetch_triple {id : String} {req : Request} {body : Booking → Go Reply}
    {B : BookingDoc → Timeline → Prop} {t : Int} {n : Nat} (hnone : faults none)
    (hreq : reqs[i]? = some req)
    (hmissed : ∀ c e, Missed faults c id e → SpecStep faults req c (.error e) c)
    (hfresh : ∀ w g d, d ∈ w.bookings.docs → objectIDFromHex id = some d.id → d.live →
      Pending i g → Effect faults reqs i w g fun _ g => B d g)
    (hbody : ∀ d n, objectIDFromHex id = some d.id → d.live →
      (bookingContract faults reqs c₀).Triple i
        (fun w g => Held i d.tableID n w ∧ d ∈ w.bookings.docs ∧ B d g) (body (docToBooking d))
        fun r w g => Held i d.tableID n w ∧ Recorded i r g) :
    (bookingContract faults reqs c₀).Triple i
      (fun w g => Held i t n w ∧ Pending i g ∧ Found id t w.bookings) (refetch id body)
      fun r w g => Held i t n w ∧ Recorded i r g := by
  have hnot : (bookingContract faults reqs c₀).Triple i
      (fun w g => Held i t n w ∧ Recorded i (.error notFound) g)
      (.ret (.error notFound)) fun r w g => Held i t n w ∧ Recorded i r g :=
    .ret (stable_and (stable_held _ _) (stable_recorded _)) fun _ _ _ h => h
  simp only [refetch, BookingRepository.findByID, Prog.call_bind]
  refine triple_quiet (Refetched i id t n B) rfl
    (stable_and (stable_held _ _) (stable_and stable_pending (stable_found _ _))) ?_ fun r => ?_
  · rintro w g e r w' - ⟨hh, hp, d, hd, hid, rfl⟩ he hperf hsame
    simp only [perform, Option.some.injEq, Prod.mk.injEq] at hperf
    obtain ⟨rfl, rfl⟩ := hperf
    rcases hr : w.bookings.findByID e.fault id with err | (_ | fresh)
    · by_cases hl : d.live
      · exact effect_missed hreq hmissed hp (.refetch he hr hd hid hl) fun h => ⟨hh, h⟩
      · have hc : (docToBooking d).status = .cancelled := by
          simpa [BookingDoc.live] using hl
        exact effect_missed hreq hmissed hp
          (.cancelled hnone (BookingCollection.findByID_of_mem hd hid) hc) fun h => ⟨hh, h⟩
    · exact effect_missed hreq hmissed hp (.none he hr) fun h => ⟨hh, h⟩
    · by_cases hc : fresh.status = .cancelled
      · exact effect_missed hreq hmissed hp (.cancelled he hr hc) fun h => .inl ⟨hc, hh, h⟩
      · obtain ⟨d', hd', hid', rfl⟩ := BookingCollection.findByID_eq_some hr
        obtain rfl : d = d' := w.bookings.id_inj hd hd' (Option.some.inj (hid.symm.trans hid'))
        have hl : d.live := by simpa [BookingDoc.live] using hc
        have hkeep : ∀ g', B d g' → ∃ e, (docToBooking e = docToBooking d ∧ e.tableID = d.tableID ∧
            objectIDFromHex id = some e.id ∧ e.live) ∧ Held i e.tableID n w ∧
            e ∈ w.bookings.docs ∧ B e g' := fun g' hB => ⟨d, ⟨rfl, rfl, hid, hl⟩, hh, hd, hB⟩
        rcases hfresh w g d hd hid hl hp with hB | ⟨req', reply, hreq', hp', hspec, hB⟩
        · exact .inl (.inr (hkeep g hB))
        · exact .inr ⟨req', reply, hreq', hp', hspec, .inr (hkeep _ hB)⟩
  · rcases r with err | (_ | fresh)
    · exact hnot
    · exact hnot
    · dsimp only
      split
      · rename_i hc
        refine .conseq hnot (fun w g _ h => ?_) fun _ _ _ _ h => h
        rcases h with ⟨-, h⟩ | ⟨d, ⟨rfl, -, -, hl⟩, -⟩
        · exact h
        · rw [BookingDoc.live_iff] at hl
          simp [hl] at hc
      · rename_i hc
        refine .conseq (P := fun w g => ∃ d, (docToBooking d = fresh ∧ d.tableID = t ∧
          objectIDFromHex id = some d.id ∧ d.live) ∧ Held i d.tableID n w ∧
          d ∈ w.bookings.docs ∧ B d g) (.exists fun d => .pure ?_)
          (fun w g _ h => h.resolve_left fun h => hc h.1) fun _ _ _ _ h => h
        rintro ⟨rfl, rfl, hid, hl⟩
        exact hbody d n hid hl

/-- What the unlocked read leaves for its answer. -/
def Fetched (i : Nat) (id : String) : Except GoError (Option Booking) → World → Timeline → Prop
  | .error e, _, g => Recorded i (.error (.wrap "fetch booking" e)) g
  | .ok none, _, g => Recorded i (.error notFound) g
  | .ok (some b), w, g => (b.status = .cancelled ∧ Recorded i (.error notFound) g) ∨
      (b.status ≠ .cancelled ∧ Pending i g ∧ Found id b.tableID w.bookings)

/-- An update or a cancellation: the unlocked read only chooses the mutex. -/
theorem withFresh_triple {id : String} {req : Request} {body : Booking → Go Reply}
    {B : BookingDoc → Timeline → Prop} (hnone : faults none) (hreq : reqs[i]? = some req)
    (hmissed : ∀ c e, Missed faults c id e → SpecStep faults req c (.error e) c)
    (hfresh : ∀ w g d, d ∈ w.bookings.docs → objectIDFromHex id = some d.id → d.live →
      Pending i g → Effect faults reqs i w g fun _ g => B d g)
    (hbody : ∀ d n, objectIDFromHex id = some d.id → d.live →
      (bookingContract faults reqs c₀).Triple i
        (fun w g => Held i d.tableID n w ∧ d ∈ w.bookings.docs ∧ B d g) (body (docToBooking d))
        fun r w g => Held i d.tableID n w ∧ Recorded i r g) :
    (bookingContract faults reqs c₀).Triple i (fun _ g => Pending i g) (withFresh id body)
      fun r _ g => Recorded i r g := by
  have hrecorded : ∀ r, (bookingContract faults reqs c₀).Triple i (fun _ g => Recorded i r g)
      (.ret r) fun r _ g => Recorded i r g := fun r => .ret (stable_recorded r) fun _ _ _ h => h
  simp only [withFresh, BookingRepository.findByID, Prog.call_bind]
  refine triple_quiet (Fetched i id) rfl stable_pending ?_ fun r => ?_
  · rintro w g e r w' - hp he hperf -
    simp only [perform, Option.some.injEq, Prod.mk.injEq] at hperf
    obtain ⟨rfl, rfl⟩ := hperf
    rcases hr : w.bookings.findByID e.fault id with err | (_ | b)
    · exact effect_missed hreq hmissed hp (.fetch he hr) fun h => h
    · exact effect_missed hreq hmissed hp (.none he hr) fun h => h
    · by_cases hb : b.status = .cancelled
      · exact effect_missed hreq hmissed hp (.cancelled he hr hb) fun h => .inl ⟨hb, h⟩
      · obtain ⟨d, hd, hid, rfl⟩ := BookingCollection.findByID_eq_some hr
        exact .inl (.inr ⟨hb, hp, d, hd, hid, rfl⟩)
  rcases r with err | (_ | b)
  · exact hrecorded _
  · exact hrecorded _
  dsimp only
  split
  · rename_i hc
    exact .conseq (hrecorded _) (fun w g _ h => (h.resolve_right fun h => h.1 hc).2)
      fun _ _ _ _ h => h
  · rename_i hc
    refine .conseq (P := fun w g => Pending i g ∧ Found id b.tableID w.bookings) ?_
      (fun w g _ h => (h.resolve_left fun h => hc h.1).2) fun _ _ _ _ h => h
    refine (getTableMutex_triple (P := fun c g => Pending i g ∧ Found id b.tableID c) b.tableID
      (stable_and stable_pending (stable_found _ _))).bind fun m => ?_
    refine .conseq (P := fun w g => ∃ n, m = .table n ∧
        (Pending i g ∧ Found id b.tableID w.bookings) ∧ w.tblMu b.tableID = some n)
      (.exists fun n => .pure fun hm => ?_) (fun w g _ h => ?_) fun _ _ _ _ h => h
    rotate_left
    · obtain ⟨hp, n, hm, hn⟩ := h
      exact ⟨n, hm, hp, hn⟩
    subst hm
    exact withLock_triple (P := fun c g => Pending i g ∧ Found id b.tableID c)
      (B := fun c g => Pending i g ∧ Found id b.tableID c)
      (stable_and stable_pending (stable_found _ _)) (fun w g hp hh => .inl ⟨hh, hp⟩)
      (refetch_triple hnone hreq hmissed hfresh hbody)

/-- The state of an update that goes on: not in effect yet, with its document locked. -/
def Working (i : Nat) (d : BookingDoc) (n : Nat) (w : World) (g : Timeline) : Prop :=
  Pending i g ∧ Held i d.tableID n w ∧ d ∈ w.bookings.docs

theorem stable_working (d : BookingDoc) (n : Nat) :
    (bookingContract faults reqs c₀).Stable i (Working i d n) :=
  stable_and stable_pending (stable_table (P := fun c => d ∈ c.docs)
    fun _ _ h hd => (h d rfl).1 hd)

theorem checkWindow_triple {id : String} {dto : UpdateBookingInput} {d : BookingDoc} {n : Nat}
    {window : Option (Int × Int)} (hreq : reqs[i]? = some (.update id dto))
    (hid : objectIDFromHex id = some d.id) (hl : d.live)
    (hwindow : requestedWindow (docToBooking d) dto = .ok window) :
    (bookingContract faults reqs c₀).Triple i (Working i d n) (checkWindow d.tableID window id)
      fun r w g => match r with
        | .ok () => Pending i g ∧ Held i d.tableID n w ∧ d ∈ w.bookings.docs ∧
            WindowFree faults w.bookings d.tableID id window
        | .error e => Held i d.tableID n w ∧ Recorded i (.error e) g := by
  have hfree : (bookingContract faults reqs c₀).Stable i fun w g =>
      Pending i g ∧ Held i d.tableID n w ∧ d ∈ w.bookings.docs ∧
        WindowFree faults w.bookings d.tableID id window :=
    stable_and stable_pending (stable_table
      (P := fun c => d ∈ c.docs ∧ WindowFree faults c d.tableID id window)
      fun _ _ h hc => ⟨(h d rfl).1 hc.1, hc.2.congr h⟩)
  have hrecorded : ∀ e, (bookingContract faults reqs c₀).Stable i fun w g =>
      Held i d.tableID n w ∧ Recorded i (.error e) g :=
    fun e => stable_and (stable_held _ _) (stable_recorded _)
  cases window with
  | none => exact .ret (stable_working d n) fun w g _ h => ⟨h.1, h.2.1, h.2.2, trivial⟩
  | some window =>
    obtain ⟨newIn, newOut⟩ := window
    simp only [checkWindow, BookingRepository.hasOverlap, Prog.call_bind]
    refine triple_quiet (fun r w g => match r with
      | .error e => Held i d.tableID n w ∧ Recorded i (.error (.wrap "overlap check" e)) g
      | .ok true => Held i d.tableID n w ∧ Recorded i (.error (alreadyBookedInWindow d.tableID)) g
      | .ok false => Pending i g ∧ Held i d.tableID n w ∧ d ∈ w.bookings.docs ∧
          WindowFree faults w.bookings d.tableID id (some (newIn, newOut)))
      rfl (stable_working d n) ?_ fun r => ?_
    · rintro w g e r w' - ⟨hp, hh, hd⟩ he hperf -
      simp only [perform, Option.some.injEq, Prod.mk.injEq] at hperf
      obtain ⟨rfl, rfl⟩ := hperf
      rcases hr : w.bookings.hasOverlap e.fault d.tableID newIn newOut id with err | (_ | _)
      · exact .inr ⟨_, _, hreq, hp, .updateUnchecked hd hid hl hwindow he hr, hh, hp.record _⟩
      · exact .inl ⟨hp, hh, hd, _, he, hr⟩
      · exact .inr ⟨_, _, hreq, hp, .updateConflict hd hid hl hwindow he hr, hh, hp.record _⟩
    · rcases r with err | (_ | _)
      · exact .ret (hrecorded _) fun _ _ _ h => h
      · exact .ret hfree fun _ _ _ h => h
      · exact .ret (hrecorded _) fun _ _ _ h => h

/-- The end of a request that took effect: quiet actions, and its reply. -/
theorem tail_triple {t : Int} {n : Nat} {p : Go Unit} {r : Reply} (hp : p.All fun o => o.quiet) :
    (bookingContract faults reqs c₀).Triple i (fun w g => Held i t n w ∧ Recorded i r g)
      (p >>= fun _ => .ret r) fun r w g => Held i t n w ∧ Recorded i r g := by
  have hstable : (bookingContract faults reqs c₀).Stable i fun w g =>
      Held i t n w ∧ Recorded i r g := stable_and (stable_held _ _) (stable_recorded _)
  refine (triple_quiet_all hp hstable fun w w' g hs h => ?_).bind fun _ =>
    .ret hstable fun _ _ _ h => h
  exact ⟨⟨by rw [hs.tblMu]; exact h.1.1, by rw [hs.held]; exact h.1.2⟩, h.2⟩

/-- A request whose times are read: an error in them is its answer. -/
def TimesRead {α : Type} (i : Nat) : Except GoError α → Timeline → Prop
  | .error e, g => Recorded i (.error e) g
  | .ok _, g => Pending i g

theorem update_triple {id : String} {dto : UpdateBookingInput} (hnone : faults none)
    (hreq : reqs[i]? = some (.update id dto)) :
    (bookingContract faults reqs c₀).Triple i (fun _ g => Pending i g) (updateBooking id dto)
      fun r _ g => Recorded i r g := by
  refine withFresh_triple (B := fun d g => TimesRead i (requestedWindow (docToBooking d) dto) g)
    hnone hreq (fun _ _ h => .updateMissed h) ?_ ?_
  · intro w g d hd hid hl hp
    rcases hw : requestedWindow (docToBooking d) dto with e | window
    · exact .inr ⟨_, _, hreq, hp, .updateInvalid hd hid hl hw, hp.record _⟩
    · exact .inl hp
  · intro d n hid hl
    rw [updateFresh]
    rcases hw : requestedWindow (docToBooking d) dto with e | window
    · refine .conseq (.ret (stable_and (stable_held d.tableID n) (stable_recorded (.error e)))
        fun _ _ _ h => h) (fun w g _ h => ⟨h.1, h.2.2⟩) fun _ _ _ _ h => h
    · refine .conseq ((checkWindow_triple hreq hid hl hw).bind fun r => ?_)
        (fun w g _ h => ⟨h.2.2, h.1, h.2.1⟩) fun _ _ _ _ h => h
      rcases r with e | ⟨⟩
      · exact .ret (stable_and (stable_held _ _) (stable_recorded _)) fun _ _ _ h => h
      refine triple_save (B := fun c => WindowFree faults c d.tableID id window) hreq
        (updated_id _ _ _) (updated_tableID _ _ _) hl (fun c c' h hc => hc.congr h)
        (fun c hd hf => .updated hd hid hl hw hf)
        (fun c e hd hf he => .updateFailed hd hid hl hw hf he) fun r => ?_
      rcases r with e | ⟨⟩
      · exact .ret (stable_and (stable_held _ _) (stable_recorded _)) fun _ _ _ h => h
      · exact tail_triple (syncUpdated_quiet _)

theorem cancel_triple {id : String} (hnone : faults none) (hreq : reqs[i]? = some (.cancel id)) :
    (bookingContract faults reqs c₀).Triple i (fun _ g => Pending i g) (cancelBooking id)
      fun r _ g => Recorded i r g := by
  refine withFresh_triple (B := fun _ g => Pending i g) hnone hreq (fun _ _ h => .cancelMissed h)
    (fun w g d _ _ _ hp => .inl hp) fun d n hid hl => ?_
  refine .conseq (triple_save (B := fun _ => True) hreq rfl rfl hl (fun _ _ _ h => h)
    (fun c hd _ => .cancelled hd hid hl) (fun c e hd _ he => .cancelFailed hd hid hl he)
    fun r => ?_) (fun w g _ h => ⟨h.2.2, h.1, h.2.1, trivial⟩) fun _ _ _ _ h => h
  rcases r with e | ⟨⟩
  · exact .ret (stable_and (stable_held _ _) (stable_recorded _)) fun _ _ _ h => h
  · exact tail_triple (syncCancelled_quiet _ _)

/-! ## Creation -/

/-- Inserting a document for a locked table. -/
theorem guarantee_append {w : World} {c : BookingCollection} {g : Timeline} {n : Nat}
    {d : BookingDoc} (hheld : Held i d.tableID n w) (hdocs : c.docs = w.bookings.docs ++ [d])
    (r : Reply) : Guarantee i w g { w with bookings := c } (g ++ [(i, r)]) where
  held _ := .inl rfl
  tblMu _ _ h := h
  docs e := by
    by_cases he : e = d
    · exact .inr (he ▸ hheld.locked)
    · exact .inl (by simp [hdocs, he])
  persist e he := ⟨e, by simp [hdocs, he], rfl, rfl⟩
  frozen e he _ := by simp [hdocs, he]
  timeline := .inr ⟨r, rfl⟩

/-- The check that refuses staff a check-in before the current operational day. -/
theorem staffRefused_triple {dto : CreateBookingInput} {createdBy role : String} {t : Int} {n : Nat}
    {checkIn now : Int} (hreq : reqs[i]? = some (.create dto createdBy role)) :
    (bookingContract faults reqs c₀).Triple i (fun w g => Held i t n w ∧ Pending i g)
      (staffRefused checkIn now role)
      fun r w g => Held i t n w ∧
        if r then Recorded i (.error staffInPast) g else Pending i g := by
  have hpending : (bookingContract faults reqs c₀).Stable i
      fun w g => Held i t n w ∧ Pending i g := stable_and (stable_held _ _) stable_pending
  have hkeep : ∀ w w' g, SameStore w w' → Held i t n w ∧ Pending i g →
      Held i t n w' ∧ Pending i g := fun w w' g hs h =>
    ⟨⟨by rw [hs.tblMu]; exact h.1.1, by rw [hs.held]; exact h.1.2⟩, h.2⟩
  rw [staffRefused]
  split
  · rename_i hrole
    refine (triple_quiet_all venueTimes_quiet hpending hkeep).bind fun (start, close) => ?_
    -- the answer is known at the reading of the location, the last action of the check
    refine triple_quiet (fun offset w g => Held i t n w ∧
      if beforeOperationalDay offset checkIn now start close then Recorded i (.error staffInPast) g
      else Pending i g) rfl hpending ?_ fun offset => ?_
    · intro w g e offset w' _ h _ _ hs
      have h' := hkeep w w' g hs h
      cases href : beforeOperationalDay offset checkIn now start close with
      | true => exact .inr ⟨_, _, hreq, h'.2, .createInPast hrole.2, h'.1, h'.2.record _⟩
      | false => exact .inl h'
    · refine .ret ?_ fun _ _ _ h => h
      cases beforeOperationalDay offset checkIn now start close with
      | true => exact stable_and (stable_held _ _) (stable_recorded _)
      | false => exact hpending
  · exact .ret hpending fun _ _ _ h => ⟨h.1, by simpa using h.2⟩

/-- What the overlap check of a creation leaves for its answer. -/
def Checked (i : Nat) (t : Int) (n : Nat) (checkIn checkOut : Int) :
    Except GoError Bool → World → Timeline → Prop
  | .error e, w, g => Held i t n w ∧ Recorded i (.error (.wrap "overlap check" e)) g
  | .ok true, w, g => Held i t n w ∧ Recorded i (.error (alreadyBooked t)) g
  | .ok false, w, g => Pending i g ∧ Held i t n w ∧
      w.bookings.overlapping t checkIn checkOut (objectIDFromHex "") = false

/-- What a creation answers once its insertion has. -/
def created (b : Booking) : Except GoError String → Reply
  | .ok id => .ok (b.withID id)
  | .error e => .error (.wrap "create booking" e)

theorem createLocked_triple {dto : CreateBookingInput} {createdBy role : String} {n : Nat}
    (hreq : reqs[i]? = some (.create dto createdBy role)) :
    (bookingContract faults reqs c₀).Triple i
      (fun w g => Held i dto.tableID n w ∧
        TimesRead i (parseTimes dto.checkInTime dto.checkOutTime) g)
      (createLocked dto createdBy role)
      fun r w g => Held i dto.tableID n w ∧ Recorded i r g := by
  have hrecorded : ∀ r, (bookingContract faults reqs c₀).Triple i
      (fun w g => Held i dto.tableID n w ∧ Recorded i r g) (.ret r)
      fun r w g => Held i dto.tableID n w ∧ Recorded i r g :=
    fun r => .ret (stable_and (stable_held _ _) (stable_recorded _)) fun _ _ _ h => h
  have hpending : (bookingContract faults reqs c₀).Stable i
      fun w g => Held i dto.tableID n w ∧ Pending i g := stable_and (stable_held _ _) stable_pending
  rw [createLocked]
  rcases hparse : parseTimes dto.checkInTime dto.checkOutTime with e | ⟨checkIn, checkOut, duration⟩
  · exact hrecorded _
  refine triple_quiet (fun _ w g => Held i dto.tableID n w ∧ Pending i g) rfl hpending
    (fun w g e now w' _ h _ _ hs => .inl ⟨⟨by rw [hs.tblMu]; exact h.1.1,
      by rw [hs.held]; exact h.1.2⟩, h.2⟩) fun now => ?_
  refine (staffRefused_triple hreq).bind fun refused => ?_
  cases refused with
  | true => exact hrecorded _
  | false =>
  refine triple_quiet (Checked i dto.tableID n checkIn checkOut) rfl hpending ?_ fun r => ?_
  · rintro w g e r w' - ⟨hh, hp⟩ he hperf -
    simp only [perform, Option.some.injEq, Prod.mk.injEq] at hperf
    obtain ⟨rfl, rfl⟩ := hperf
    rcases hr : w.bookings.hasOverlap e.fault dto.tableID checkIn checkOut "" with err | (_ | _)
    · exact .inr ⟨_, _, hreq, hp, .createUnchecked hparse he hr, hh, hp.record _⟩
    · exact .inl ⟨hp, hh, hasOverlap_eq_ok hr⟩
    · exact .inr ⟨_, _, hreq, hp, .createConflict hparse he hr, hh, hp.record _⟩
  rcases r with err | (_ | _)
  · exact hrecorded _
  swap
  · exact hrecorded _
  have hfree : (bookingContract faults reqs c₀).Stable i fun w g =>
      Pending i g ∧ Held i dto.tableID n w ∧
        w.bookings.overlapping dto.tableID checkIn checkOut (objectIDFromHex "") = false :=
    stable_and stable_pending (stable_table
      (P := fun c => c.overlapping dto.tableID checkIn checkOut (objectIDFromHex "") = false)
      fun _ _ h ho => overlapping_congr h ho)
  let b := newBooking dto createdBy checkIn checkOut duration now
  refine .act (fun r w g => Held i dto.tableID n w ∧ Recorded i (created b r) g)
    (fun w g w' g' hr hi hp => hfree _ w g w' g' hr hi hp) (fun _ _ _ _ => trivial) ?_ fun r => ?_
  · rintro threads w g r w' hinv ⟨hp, hh, ho⟩ ⟨e, he, hperf⟩ -
    simp only [perform] at hperf
    rcases w.bookings.create_cases e.fault e.objectID e.now (b := b) rfl with
      ⟨err, hc⟩ | ⟨c', hc, hdocs, -⟩
    · have hspec : SpecStep faults (.create dto createdBy role) w.bookings
          (.error (.wrap "create booking" err)) w.bookings :=
        .createFailed hparse he (by rw [hc])
      simp only [b, hc, Option.some.injEq, Prod.mk.injEq] at hperf
      obtain ⟨rfl, rfl⟩ := hperf
      have hguar : Guarantee i w g w (g ++ [(i, .error (.wrap "create booking" err))]) :=
        .of_bookings rfl (fun _ => .inl rfl) (fun _ _ h => h) (.inr ⟨_, rfl⟩)
      exact ⟨_, ⟨.snoc hinv.run hp hreq hspec, hinv.mutexes.congr rfl rfl⟩,
        fun j hj => hguar.rely hj, hh, hp.record _⟩
    · simp only [b, hc, Option.some.injEq, Prod.mk.injEq] at hperf
      obtain ⟨rfl, rfl⟩ := hperf
      have hheld : Held i (BookingCollection.newDoc e.objectID e.now b).tableID n w := by
        rw [BookingCollection.newDoc_tableID]
        exact hh
      exact ⟨_, ⟨.snoc hinv.run hp hreq (.created hparse ho he hc), hinv.mutexes.congr rfl rfl⟩,
        fun j hj => (guarantee_append hheld hdocs _).rely hj, hh, hp.record _⟩
  · rcases r with e | id
    · exact hrecorded _
    · exact tail_triple (syncCreated_quiet _)

theorem create_triple {dto : CreateBookingInput} {createdBy role : String}
    (hreq : reqs[i]? = some (.create dto createdBy role)) :
    (bookingContract faults reqs c₀).Triple i (fun _ g => Pending i g)
      (createBooking dto createdBy role) fun r _ g => Recorded i r g := by
  refine (getTableMutex_triple (P := fun _ g => Pending i g) dto.tableID stable_pending).bind
    fun m => ?_
  refine .conseq (P := fun w g => ∃ n, m = .table n ∧ Pending i g ∧ w.tblMu dto.tableID = some n)
    (.exists fun n => .pure fun hm => ?_) (fun w g _ h => ?_) fun _ _ _ _ h => h
  rotate_left
  · obtain ⟨hp, n, hm, hn⟩ := h
    exact ⟨n, hm, hp, hn⟩
  subst hm
  refine withLock_triple (P := fun _ g => Pending i g) (B := fun _ g =>
    TimesRead i (parseTimes dto.checkInTime dto.checkOutTime) g) stable_pending
    (fun w g hp hh => ?_) (createLocked_triple hreq)
  rcases hparse : parseTimes dto.checkInTime dto.checkOutTime with e | times
  · exact .inr ⟨_, _, hreq, hp, .createInvalid hparse, hh, hp.record _⟩
  · exact .inl ⟨hh, hp⟩

/-- A thread that serves a request answers what its entry of the timeline says. -/
theorem request_triple {req : Request} (hnone : faults none) (hreq : reqs[i]? = some req) :
    (bookingContract faults reqs c₀).Triple i (fun _ g => Pending i g) req.program
      fun r _ g => Recorded i r g := by
  cases req with
  | create dto createdBy role => exact create_triple hreq
  | update id dto => exact update_triple hnone hreq
  | cancel id => exact cancel_triple hnone hreq

end

end GbcVenue
