import GbcVenue.Agreement.Agreement

/-!
# When an update keeps the cache in agreement

`UpdateBooking` touches the cache only if the new window covers the clock, and then through
`UpdateCurrentBooking`, which neither makes a table BUSY nor AVAILABLE. `update_agrees_iff` says
exactly when that is enough.
-/

namespace GbcVenue

open Interleaving GoTime BookingService

/-- Storing `b` over the record `d` moves a booking that runs at `now` not out of the present, and
one that does not run not into it. The times of `b` may have fractions of a millisecond, which the
cache sync sees and the store does not: a booking that runs must cover `now` in both or leave the
shown fields alone, and one that does not run must not cover `now` by such a fraction while another
booking runs. -/
def InPlace (c : BookingCollection) (d : BookingDoc) (b : Booking) (now : Int) : Prop :=
  (d.runsAt now → (docOf d.id b).runsAt now ∧
    (covers b now ∨ currentBookingOf b = currentBookingOf (docToBooking d))) ∧
  (¬ d.runsAt now → ¬ (docOf d.id b).runsAt now ∧
    (covers b now → ∀ e ∈ c.docs, e.tableID = d.tableID → ¬ e.runsAt now))

/-- The request leaves the booking, if it is one of a table of the venue, in place. -/
def StaysInPlace (c : BookingCollection) (id : String) (dto : UpdateBookingInput) (now : Int) :
    Prop :=
  ∀ d ∈ c.docs, objectIDFromHex id = some d.id → 1 ≤ d.tableID → d.tableID ≤ 4 →
    ∀ window, requestedWindow (docToBooking d) dto = .ok window →
      InPlace c d (updated (docToBooking d) dto window) now

section

variable {c : BookingCollection} {ts : Tables} {now : Int} {id : String} {dto : UpdateBookingInput}
  {d : BookingDoc} {window : Option (Int × Int)}

/-- After the update no booking runs beside the updated one. -/
theorem not_runsAt_beside {faults : Option String → Prop} (hc : c.DisjointWindows) (hd : d ∈ c.docs)
    (hid : objectIDFromHex id = some d.id) (hl : d.live)
    (hfree : WindowFree faults c d.tableID id window) {e : BookingDoc} (he : e ∈ c.docs)
    (hne : e.id ≠ d.id) (ht : e.tableID = d.tableID) (her : e.runsAt now) :
    ¬ (updatedDoc d dto window).runsAt now := by
  rintro ⟨-, hnew⟩
  rw [updatedDoc, covers_docToBooking] at hnew
  have her' := covers_docToBooking.1 her.2
  cases window with
  | none =>
    have hd' : d.runsAt now := by
      refine ⟨hl, covers_docToBooking.2 ?_⟩
      simpa [docOf, updated_none_times, docToBooking] using hnew
    exact hne (congrArg BookingDoc.id (hc.unique he hd ht her hd'))
  | some window =>
    obtain ⟨newIn, newOut⟩ := window
    obtain ⟨f, -, hoverlap⟩ := hfree
    have hout := BookingCollection.overlapping_eq_false.1 (hasOverlap_eq_ok hoverlap) e he ht her.1
    rw [hid] at hout
    have hout := hout (by simpa using hne)
    simp only [docOf, updated_some_times] at hnew
    omega

/-- What runs on a table after the update: the updated booking, or one of the others as before. -/
theorem runs_updated_iff (hd : d ∈ c.docs) {t : Int} {cb : CurrentBooking} :
    (∃ e ∈ (c.replaceOne (updatedDoc d dto window)).docs, e.tableID = t ∧ e.runsAt now ∧
        cb = currentBookingOf (docToBooking e)) ↔
      (d.tableID = t ∧ (updatedDoc d dto window).runsAt now ∧
        cb = currentBookingOf (docToBooking (updatedDoc d dto window))) ∨
      ∃ e ∈ c.docs, e.id ≠ d.id ∧ e.tableID = t ∧ e.runsAt now ∧
        cb = currentBookingOf (docToBooking e) := by
  constructor
  · rintro ⟨e, he, ht, hr, hcb⟩
    rcases BookingCollection.mem_replaceOne.1 he with ⟨rfl, -⟩ | ⟨he, hne⟩
    · rw [updatedDoc_tableID] at ht
      exact .inl ⟨ht, hr, hcb⟩
    · exact .inr ⟨e, he, hne, ht, hr, hcb⟩
  · rintro (⟨ht, hr, hcb⟩ | ⟨e, he, hne, ht, hr, hcb⟩)
    · refine ⟨updatedDoc d dto window, ?_, (updatedDoc_tableID d dto window).trans ht, hr, hcb⟩
      exact BookingCollection.mem_replaceOne.2 (.inl ⟨rfl, d, hd, rfl⟩)
    · exact ⟨e, BookingCollection.mem_replaceOne.2 (.inr ⟨he, hne⟩), ht, hr, hcb⟩

theorem runs_iff (hd : d ∈ c.docs) {t : Int} {cb : CurrentBooking} :
    (∃ e ∈ c.docs, e.tableID = t ∧ e.runsAt now ∧ cb = currentBookingOf (docToBooking e)) ↔
      (d.tableID = t ∧ d.runsAt now ∧ cb = currentBookingOf (docToBooking d)) ∨
      ∃ e ∈ c.docs, e.id ≠ d.id ∧ e.tableID = t ∧ e.runsAt now ∧
        cb = currentBookingOf (docToBooking e) := by
  constructor
  · rintro ⟨e, he, h⟩
    by_cases hid : e.id = d.id
    · rw [c.id_inj he hd hid] at h
      exact .inl h
    · exact .inr ⟨e, he, hid, h⟩
  · rintro (h | ⟨e, he, -, h⟩)
    · exact ⟨d, hd, h⟩
    · exact ⟨e, he, h⟩

/-- One table. `x` and `y` are the fields of the booking before and after the update, `others` those
of the other bookings that run there. If the sync sees the booking running (`seen`), it writes `y`
over whatever the table shows. -/
theorem table_agrees_iff {shows shows' others : CurrentBooking → Prop} {old new seen : Prop}
    [Decidable seen] {x y : CurrentBooking}
    (hshows : ∀ cb, shows cb ↔ (old ∧ cb = x) ∨ others cb)
    (hshows' : ∀ cb, shows' cb ↔ if seen then (∃ cb₀, shows cb₀) ∧ cb = y else shows cb)
    (hold : old → ∀ cb, ¬ others cb) (hnew : new → ∀ cb, ¬ others cb) (hy : ¬ others y) :
    (∀ cb, shows' cb ↔ (new ∧ cb = y) ∨ others cb) ↔
      (old → new ∧ (seen ∨ y = x)) ∧ (¬ old → ¬ new ∧ (seen → ∀ cb, ¬ others cb)) := by
  by_cases h : old
  · have hshow : ∀ cb, shows cb ↔ cb = x := by
      intro cb
      rw [hshows cb]
      simp [h, hold h cb]
    simp only [h, true_implies, not_true_eq_false, false_implies, and_true]
    by_cases hseen : seen
    · simp only [hseen, if_true, hshow, exists_eq, true_and] at hshows'
      simp only [hshows', hold h, or_false, hseen, true_or, and_true]
      constructor
      · intro hall
        exact ((hall y).1 rfl).1
      · intro hn cb
        exact ⟨fun hcb => ⟨hn, hcb⟩, And.right⟩
    · simp only [hseen, if_false, hshow] at hshows'
      simp only [hshows', hold h, or_false, hseen, false_or]
      constructor
      · intro hall
        obtain ⟨hn, hxy⟩ := (hall x).1 rfl
        exact ⟨hn, hxy.symm⟩
      · rintro ⟨hn, rfl⟩ cb
        exact ⟨fun hcb => ⟨hn, hcb⟩, And.right⟩
  · simp only [h, false_and, false_or] at hshows
    simp only [h, false_implies, not_false_eq_true, true_implies, true_and]
    by_cases hseen : seen
    · simp only [hseen, if_true] at hshows'
      simp only [hshows', hshows, hseen, true_implies]
      constructor
      · intro hall
        have hnone : ∀ cb, ¬ others cb := by
          intro cb hcb
          rcases (hall y).1 ⟨⟨cb, hcb⟩, rfl⟩ with ⟨hn, -⟩ | hoy
          · exact hnew hn cb hcb
          · exact hy hoy
        refine ⟨fun hn => ?_, hnone⟩
        obtain ⟨cb, hcb⟩ := ((hall y).2 (.inl ⟨hn, rfl⟩)).1
        exact hnone cb hcb
      · rintro ⟨hn, hnone⟩ cb
        simp [hn, hnone]
    · simp only [hseen, if_false] at hshows'
      simp only [hshows', hshows, hseen, false_implies, and_true]
      constructor
      · intro hall hn
        exact hnew hn y ((hall y).2 (.inl ⟨hn, rfl⟩))
      · intro hn cb
        simp [hn]

/-- The fields of the bookings other than `d` that run on table `t`. -/
def OthersRun (c : BookingCollection) (d : BookingDoc) (now t : Int) (cb : CurrentBooking) : Prop :=
  ∃ e ∈ c.docs, e.id ≠ d.id ∧ e.tableID = t ∧ e.runsAt now ∧
    cb = currentBookingOf (docToBooking e)

/-- The table of the updated booking. -/
theorem table_updated_iff {faults : Option String → Prop} (hc : c.DisjointWindows)
    (hagree : Agrees c ts now) (hd : d ∈ c.docs) (hid : objectIDFromHex id = some d.id)
    (hl : d.live) (hfree : WindowFree faults c d.tableID id window) (h₁ : 1 ≤ d.tableID)
    (h₄ : d.tableID ≤ 4) :
    (∀ cb, ((Request.update id dto).sync (updated (docToBooking d) dto window) now ts).ShowsBusy
        d.tableID cb ↔
      ((updatedDoc d dto window).runsAt now ∧
          cb = currentBookingOf (updated (docToBooking d) dto window)) ∨
        OthersRun c d now d.tableID cb) ↔
      InPlace c d (updated (docToBooking d) dto window) now := by
  have htable : (updated (docToBooking d) dto window).tableID = d.tableID :=
    updated_tableID (docToBooking d) dto window
  have hshows : ∀ cb, ts.ShowsBusy d.tableID cb ↔
      (d.runsAt now ∧ cb = currentBookingOf (docToBooking d)) ∨ OthersRun c d now d.tableID cb := by
    intro cb
    rw [hagree d.tableID h₁ h₄ cb, runs_iff hd]
    simp [OthersRun]
  have hshows' : ∀ cb, ((Request.update id dto).sync (updated (docToBooking d) dto window) now
      ts).ShowsBusy d.tableID cb ↔ if covers (updated (docToBooking d) dto window) now then
        (∃ cb₀, ts.ShowsBusy d.tableID cb₀) ∧
          cb = currentBookingOf (updated (docToBooking d) dto window)
      else ts.ShowsBusy d.tableID cb := by
    intro cb
    rw [sync_update_shows, htable, if_pos rfl]
  have hold : d.runsAt now → ∀ cb, ¬ OthersRun c d now d.tableID cb := by
    rintro hr cb ⟨e, he, hne, ht, her, -⟩
    exact hne (congrArg BookingDoc.id (hc.unique he hd ht her hr))
  have hnew : (updatedDoc d dto window).runsAt now →
      ∀ cb, ¬ OthersRun c d now d.tableID cb := by
    rintro hr cb ⟨e, he, hne, ht, her, -⟩
    exact not_runsAt_beside hc hd hid hl hfree he hne ht her hr
  have hy : ¬ OthersRun c d now d.tableID
      (currentBookingOf (updated (docToBooking d) dto window)) := by
    rintro ⟨e, he, hne, -, -, hy⟩
    have hids : (updated (docToBooking d) dto window).id = e.id.hex :=
      congrArg CurrentBooking.bookingID hy
    rw [updated_id] at hids
    exact hne (ObjectID.hex_inj hids.symm)
  rw [table_agrees_iff hshows hshows' hold hnew hy, InPlace]
  refine and_congr Iff.rfl (imp_congr_right fun hr => and_congr Iff.rfl ?_)
  refine imp_congr_right fun _ => ?_
  constructor
  · intro hnone e he ht her
    have hne : e.id ≠ d.id := by
      intro h
      rw [c.id_inj he hd h] at her
      exact hr her
    exact hnone _ ⟨e, he, hne, ht, her, rfl⟩
  · rintro hnone cb ⟨e, he, -, ht, her, -⟩
    exact hnone e he ht her

/-- The store and the cache after an update at `now` agree exactly if it stays in place. -/
theorem agrees_updated_iff {faults : Option String → Prop} (hc : c.DisjointWindows)
    (hagree : Agrees c ts now) (hd : d ∈ c.docs) (hid : objectIDFromHex id = some d.id)
    (hl : d.live) (hfree : WindowFree faults c d.tableID id window)
    (hwindow : requestedWindow (docToBooking d) dto = .ok window) :
    Agrees (c.replaceOne (updatedDoc d dto window))
        ((Request.update id dto).sync (updated (docToBooking d) dto window) now ts) now ↔
      StaysInPlace c id dto now := by
  have htable : (updated (docToBooking d) dto window).tableID = d.tableID :=
    updated_tableID (docToBooking d) dto window
  have hcb : currentBookingOf (docToBooking (updatedDoc d dto window)) =
      currentBookingOf (updated (docToBooking d) dto window) :=
    currentBookingOf_stored (updated_id (docToBooking d) dto window)
  constructor
  · intro hafter e he hide h₁ h₄ window' hwindow'
    have hed : e = d := by
      rw [hid, Option.some.injEq] at hide
      exact c.id_inj he hd hide.symm
    subst hed
    rw [hwindow, Except.ok.injEq] at hwindow'
    subst hwindow'
    refine (table_updated_iff hc hagree hd hid hl hfree h₁ h₄).1 fun cb => ?_
    rw [hafter e.tableID h₁ h₄ cb, runs_updated_iff hd, hcb]
    simp [OthersRun]
  · intro hin t h₁ h₄ cb
    rw [runs_updated_iff hd, hcb]
    by_cases ht : t = d.tableID
    · subst ht
      have hiff := (table_updated_iff hc hagree hd hid hl hfree h₁ h₄).2
        (hin d hd hid h₁ h₄ window hwindow)
      rw [hiff cb]
      simp [OthersRun]
    · have ht' : d.tableID ≠ t := fun h => ht h.symm
      rw [sync_update_shows, htable, if_neg ht, hagree t h₁ h₄ cb, runs_iff hd]
      simp [ht']

end

/-- An update that runs at `now` and succeeds, on a store with disjoint bookings and a cache that
agrees with it, leaves the cache in agreement exactly if the update stays in place. -/
theorem update_agrees_iff {E : Env → Prop} {i : Nat} {id : String} {dto : UpdateBookingInput}
    {now : Int} {w w' : World} {b : Booking} (hc : w.bookings.DisjointWindows)
    (hagree : Agrees w.bookings w.tables now)
    (hrun : Prog.Runs (backend E) i (updateBooking id dto) ⟨w, now⟩ (.ok b) ⟨w', now⟩) :
    Agrees w'.bookings w'.tables now ↔ StaysInPlace w.bookings id dto now := by
  have heffect := runs_updateBooking (hrun.simulate (venue_simulates E))
  obtain ⟨syncNow, h₁, h₂, htables⟩ := heffect.tables
  have hnow : syncNow = now := le_antisymm h₂ h₁
  subst hnow
  have hstore := heffect.store
  simp only [venueAt, World.venue, Request.synced] at htables hstore
  generalize hb : w'.bookings = c' at hstore ⊢
  cases hstore with
  | updated hd hid hl hwindow hfree =>
    rw [htables]
    exact agrees_updated_iff hc hagree hd hid hl hfree hwindow

/-! ## Runs on fixed inputs -/

/-- A process whose cache shows the running booking from ten to eleven. -/
def showingTenToEleven : World :=
  { World.start ⟨[tenToEleven .active], nodup_tenToEleven _⟩ none 0 with
    tables := Tables.new.activateTable 1 shownTenToEleven }

theorem disjointWindows_sample : showingTenToEleven.bookings.DisjointWindows := by
  intro d hd e he hne
  simp only [showingTenToEleven, World.start, List.mem_singleton] at hd he
  exact absurd (hd.trans he.symm) hne

theorem agrees_sample :
    Agrees showingTenToEleven.bookings showingTenToEleven.tables halfPastTen.now := by
  intro t _ _ cb
  have hruns : (tenToEleven .active).runsAt halfPastTen.now := ⟨rfl, by decide⟩
  simp only [showingTenToEleven, World.start, Tables.showsBusy_activateTable,
    Tables.not_showsBusy_new, List.mem_singleton, exists_eq_left, hruns, true_and]
  split
  · rename_i ht
    subst ht
    exact ⟨fun h => ⟨rfl, h⟩, And.right⟩
  · rename_i ht
    exact ⟨False.elim, fun h => ht h.1.symm⟩

/-- An update of the sample at half past ten. -/
def runUpdate (dto : UpdateBookingInput) : Option (Reply × Timed World Int) :=
  complete (List.replicate 30 halfPastTen) (updateBooking (ObjectID.ofNat 7).hex dto)
    ⟨showingTenToEleven, halfPastTen.now⟩

/-- A longer stay: the running booking stays in the present. -/
theorem update_agrees_longer : ∃ w' : World,
    (w'.tables.get 1).currentBooking.map CurrentBooking.checkOutTime =
      some "2030-01-01T12:00:00Z" ∧
    Agrees w'.bookings w'.tables halfPastTen.now := by
  have hrun : (runUpdate (untilCheckOut "2030-01-01T12:00:00Z")).map (fun p =>
      (p.1.isOk, p.2.clock, (p.2.state.tables.get 1).currentBooking.map
        CurrentBooking.checkOutTime)) =
      some (true, halfPastTen.now, some "2030-01-01T12:00:00Z") := by decide +kernel
  obtain ⟨⟨r, w', now⟩, hend, hvals⟩ := Option.map_eq_some_iff.1 hrun
  simp only [Prod.mk.injEq] at hvals
  obtain ⟨hok, rfl, hout⟩ := hvals
  cases r with
  | error e => cases hok
  | ok b =>
    refine ⟨w', hout, (update_agrees_iff disjointWindows_sample agrees_sample
      (runs_of_complete (fun _ _ => trivial) hend)).2 ?_⟩
    intro d hd _ _ _ window hwindow
    obtain rfl := List.mem_singleton.1 hd
    have hasked : requestedWindow (docToBooking (tenToEleven .active))
        (untilCheckOut "2030-01-01T12:00:00Z") =
        .ok (some (ofUnixMilli 1893492000000, ofUnixMilli 1893499200000)) := by decide
    rw [hasked, Except.ok.injEq] at hwindow
    subst hwindow
    have hruns : (tenToEleven .active).runsAt halfPastTen.now := ⟨rfl, by decide⟩
    exact ⟨fun _ => ⟨⟨rfl, by decide⟩, .inl (by decide)⟩, fun h => absurd hruns h⟩

/-- Without that condition it fails: a running booking is cut short to end in the past, and its
table stays BUSY. -/
theorem update_can_disagree :
    ¬ ∀ (i : Nat) (id : String) (dto : UpdateBookingInput) (now : Int) (w w' : World) (b : Booking),
      w.bookings.DisjointWindows → Agrees w.bookings w.tables now →
      Prog.Runs (backend fun _ => True) i (updateBooking id dto) ⟨w, now⟩ (.ok b) ⟨w', now⟩ →
      Agrees w'.bookings w'.tables now := by
  intro hclaim
  have hrun : (runUpdate (untilCheckOut "2030-01-01T10:15:00Z")).map (fun p =>
      (p.1.isOk, p.2.clock, (p.2.state.tables.get 1).status,
        (p.2.state.tables.get 1).currentBooking, p.2.state.bookings.docs)) =
      some (true, halfPastTen.now, .busy, some shownTenToEleven,
        [{ tenToEleven .active with checkOutTime := 1893492900000, durationMinutes := 15 }]) := by
    decide +kernel
  obtain ⟨⟨r, w', now⟩, hend, hvals⟩ := Option.map_eq_some_iff.1 hrun
  simp only [Prod.mk.injEq] at hvals
  obtain ⟨hok, rfl, hstatus, hcb, hdocs⟩ := hvals
  cases r with
  | error e => cases hok
  | ok b =>
    have hagree := hclaim 0 _ _ _ _ _ _ disjointWindows_sample agrees_sample
      (runs_of_complete (fun _ _ => trivial) hend)
    obtain ⟨d, hd, -, ⟨-, hcovers⟩, -⟩ := (hagree 1 (by decide) (by decide) _).1 ⟨hstatus, hcb⟩
    rw [hdocs, List.mem_singleton] at hd
    subst hd
    exact absurd hcovers (by decide)

end GbcVenue
