import GbcVenue.Agreement.EndsOnTime

/-!
# No table is shut off early

A fired end timer and a reconcile pass deactivate a table for what a timer or the cache says of its
booking. While `EndsOnTime` holds of these, what they remove is cancelled or over in the store.
-/

namespace GbcVenue

open Interleaving BookingService GoTime Scheduler

/-! ## What a deactivation may remove -/

/-- The check before each action: what a deactivated table showed is cancelled or over. -/
def RemovesOver : Op → Timed Venue Int → Prop
  | .write (.deactivateTable t), m => ∀ cb, m.state.tables.ShowsBusy t cb →
      ∀ d ∈ m.state.bookings.docs, d.id.hex = cb.bookingID →
        d.status = .cancelled ∨ ofUnixMilli d.checkOutTime ≤ m.clock
  | _, _ => True

/-- The actions that deactivate no table. -/
def Op.keepsShown : Op → Bool
  | .write (.deactivateTable _) => false
  | _ => true

theorem removesOver_of_keeps {o : Op} (h : o.keepsShown) (m : Timed Venue Int) : RemovesOver o m := by
  unfold RemovesOver
  split
  · cases h
  · trivial

section

variable {E : Env → Prop} {i : Nat} {α : Type} {m : Timed Venue Int}

theorem checked_keeps {p : Go α} (hp : p.All fun o => o.keepsShown) :
    Prog.Checked (onVenue E) i RemovesOver p m :=
  Prog.checked_all (hp.mono fun _ ho => removesOver_of_keeps ho) m

theorem sendMqttCommand_keeps (t : Int) (state : LightState) :
    (TableService.sendMqttCommand t state).All fun o => o.keepsShown :=
  ⟨rfl, fun _ => ⟨rfl, fun _ => trivial⟩⟩

theorem broadcast_keeps : TableCache.broadcast.All fun o => o.keepsShown :=
  ⟨rfl, fun _ => ⟨rfl, fun _ => trivial⟩⟩

theorem activateTable_keeps (t : Int) (cb : CurrentBooking) :
    (TableService.activateTable t cb).All fun o => o.keepsShown :=
  Prog.all_bind (Prog.all_call_bind rfl fun _ => Prog.all_when broadcast_keeps)
    fun _ => sendMqttCommand_keeps t .on

theorem setTimer_keeps (key : TimerKey) (id : String) (instant : Int) :
    (setTimer key id instant).All fun o => o.keepsShown :=
  ⟨rfl, fun _ => ⟨rfl, fun _ => ⟨rfl, fun _ => ⟨rfl, fun _ => trivial⟩⟩⟩⟩

theorem scheduleNext_keeps (t now : Int) : (scheduleNext t now).All fun o => o.keepsShown := by
  refine Prog.all_call_bind rfl fun r => ?_
  split
  · exact setTimer_keeps _ _ _
  · trivial

theorem rescheduleTable_keeps (t : Int) : (rescheduleTable t).All fun o => o.keepsShown := by
  refine ⟨rfl, fun _ => ⟨rfl, fun _ => Prog.all_call_bind rfl fun now =>
    Prog.all_call_bind rfl fun r => ?_⟩⟩
  split
  · trivial
  · exact setTimer_keeps _ _ _
  · exact scheduleNext_keeps t now

theorem handleStartFired_keeps (t : Int) (id : String) :
    (handleStartFired t id).All fun o => o.keepsShown := by
  refine ⟨rfl, fun _ => Prog.all_call_bind rfl fun r => ?_⟩
  split
  · trivial
  · exact rescheduleTable_keeps t
  · split
    · exact rescheduleTable_keeps t
    · refine Prog.all_call_bind rfl fun now => ?_
      split
      · exact Prog.all_bind (activateTable_keeps _ _) fun _ => setTimer_keeps _ _ _
      · exact rescheduleTable_keeps t

/-- `DeactivateTable`, where the check holds. -/
theorem checked_deactivateTable {t : Int} (h : RemovesOver (.write (.deactivateTable t)) m) :
    Prog.Checked (onVenue E) i RemovesOver (TableService.deactivateTable t) m := by
  refine Prog.checked_act h fun r m' _ => checked_keeps ?_
  exact Prog.all_bind (Prog.all_when broadcast_keeps) fun _ => sendMqttCommand_keeps t .off

/-- Reading a table leaves the state, at a later moment. -/
theorem checked_getTable {t : Int} {k : TableState × Bool → Go α}
    (hk : ∀ now, m.clock ≤ now →
      Prog.Checked (onVenue E) i RemovesOver (k (m.state.tables.getTable t)) ⟨m.state, now⟩) :
    Prog.Checked (onVenue E) i RemovesOver (.act (Op.getTable t) k) m := by
  refine Prog.checked_act trivial ?_
  rintro r ⟨v, now⟩ ⟨hclock, e, -, rfl, rfl⟩
  exact hk now hclock

theorem checked_when {c : Bool} {p : Go Unit}
    (hp : c = true → Prog.Checked (onVenue E) i RemovesOver p m) :
    Prog.Checked (onVenue E) i RemovesOver (Prog.when c p) m := by
  cases c with
  | true => exact hp rfl
  | false => exact Prog.checked_ret _ _

/-- The cached booking of a live record shows no check-out before the stored one. -/
theorem removesOver_of_past {t n : Int}
    (hlast : ∀ cb, m.state.tables.ShowsBusy t cb → ∀ d ∈ m.state.bookings.docs,
      d.id.hex = cb.bookingID → d.live → ofUnixMilli d.checkOutTime ≤ n) (hle : n ≤ m.clock) :
    RemovesOver (.write (.deactivateTable t)) m := by
  intro cb hcb d hd hid
  cases hstatus : d.status with
  | cancelled => exact .inl rfl
  | active => exact .inr ((hlast cb hcb d hd hid (BookingDoc.live_iff.2 hstatus)).trans hle)

theorem checked_handleEndFired {a : ArmedTimer} {v : Venue} (h : EndsOnTime v) (ha : a ∈ v.armed)
    (hkind : a.key.kind = .onEnd) (hb : m.state.bookings = v.bookings) (hdue : a.deadline ≤ m.clock) :
    Prog.Checked (onVenue E) i RemovesOver (handleEndFired a.key.tableID a.bookingID) m := by
  simp only [handleEndFired, TableService.getTable, TableCache.getTable, Prog.call_bind]
  refine Prog.checked_act trivial ?_
  rintro r ⟨v₁, now₁⟩ ⟨hclock₁, e₁, -, rfl⟩
  refine checked_getTable fun now₂ hclock₂ => ?_
  refine Prog.checked_bind (checked_when fun hshows => checked_deactivateTable ?_) ?_
  · have hshows := of_decide_eq_true hshows
    refine removesOver_of_past ?_ (hdue.trans (hclock₁.trans hclock₂))
    intro cb hcb d hd hid hl
    have hcb_id : cb.bookingID = a.bookingID := by
      have hsome := hshows.2.2
      simp only [Tables.getTable] at hsome
      rw [hcb.2, Option.map_some, Option.some.injEq] at hsome
      exact hsome
    exact h.ends a ha hkind d (hb ▸ hd) (hid.trans hcb_id) hl
  · intro _ m' _
    exact checked_keeps (Prog.all_call_bind rfl fun now => scheduleNext_keeps _ now)

theorem checked_timerFires (h : EndsOnTime m.state) :
    Prog.Checked (onVenue E) i RemovesOver timerFires m := by
  simp only [timerFires, Prog.call_bind]
  refine Prog.checked_act trivial ?_
  rintro a ⟨v, now⟩ ⟨-, e, ⟨hnow, -⟩, ha, hdue, rfl⟩
  unfold callback
  cases hkind : a.key.kind with
  | onStart => exact checked_keeps (handleStartFired_keeps _ _)
  | onEnd => exact checked_handleEndFired h ha hkind rfl (by rw [← hnow]; exact hdue)

theorem checked_reconcileTable {now t : Int} (h : EndsOnTime m.state) (hnow : now ≤ m.clock) :
    Prog.Checked (onVenue E) i RemovesOver (reconcileTable now t) m := by
  simp only [reconcileTable, TableService.getTable, TableCache.getTable, Prog.call_bind]
  refine checked_getTable fun now' hclock => ?_
  split
  · exact Prog.checked_ret _ _
  · simp only [Tables.getTable]
    split
    · rename_i cb hstatus hcb
      refine checked_when fun hex => Prog.checked_bind (checked_deactivateTable ?_) ?_
      · obtain ⟨d₀, hd₀, hid₀, -, hlast⟩ := h.shown t cb ⟨hstatus, hcb⟩
        refine removesOver_of_past (n := now) ?_ (hnow.trans hclock)
        intro cb' hcb' d hd hid hl
        have hcb_eq : cb' = cb := Tables.showsBusy_unique hcb' ⟨hstatus, hcb⟩
        subst hcb_eq
        have hdd : d₀ = d := m.state.bookings.id_inj hd₀ hd (ObjectID.hex_inj (hid₀.trans hid.symm))
        subst hdd
        unfold expired at hex
        split at hex
        · rename_i checkOut hparse
          exact (hlast hl checkOut hparse).trans (of_decide_eq_true hex)
        · cases hex
      · intro _ m' _
        exact checked_keeps (rescheduleTable_keeps t)
    · refine checked_keeps (Prog.all_call_bind rfl fun r => ?_)
      split
      · exact Prog.all_bind (activateTable_keeps _ _) fun _ => rescheduleTable_keeps t
      · trivial
    · exact Prog.checked_ret _ _

theorem checked_reconcile (h : EndsOnTime m.state) :
    Prog.Checked (onVenue E) i RemovesOver reconcile m := by
  have hnext : ∀ {t now : Int} {a : Unit} {m m' : Timed Venue Int}, EndsOnTime m.state →
      now ≤ m.clock → Prog.Runs (onVenue E) i (reconcileTable now t) m a m' →
      EndsOnTime m'.state ∧ now ≤ m'.clock := by
    intro t now a m m' h hnow hrun
    obtain ⟨now', hre⟩ := runs_reconcileTable hrun
    have hnow' := hnow.trans hrun.clock_le
    exact ⟨h.handled (hre.handled hnow'), hnow'⟩
  simp only [reconcile, timeNow, Prog.call_bind]
  refine Prog.checked_act trivial ?_
  rintro now ⟨v, clock⟩ ⟨-, e, ⟨rfl, -⟩, rfl, rfl⟩
  refine Prog.checked_bind (checked_reconcileTable h le_rfl) fun _ m₁ hrun₁ => ?_
  obtain ⟨h₁, hnow₁⟩ := hnext (m := ⟨m.state, e.now⟩) h le_rfl hrun₁
  refine Prog.checked_bind (checked_reconcileTable h₁ hnow₁) fun _ m₂ hrun₂ => ?_
  obtain ⟨h₂, hnow₂⟩ := hnext h₁ hnow₁ hrun₂
  refine Prog.checked_bind (checked_reconcileTable h₂ hnow₂) fun _ m₃ hrun₃ => ?_
  obtain ⟨h₃, hnow₃⟩ := hnext h₂ hnow₂ hrun₃
  exact checked_reconcileTable h₃ hnow₃

end

/-- A handler of the scheduler that may deactivate a table: a fired timer or a reconcile pass. -/
def Event.deactivates : Event → Option (Go Unit)
  | .fire => some Scheduler.timerFires
  | .reconcile => some Scheduler.reconcile
  | _ => none

/-- In every run whose events keep the ends, a fired timer or a reconcile pass deactivates a table
that shows a booking only if that booking is cancelled or its check-out has come. -/
theorem no_premature_shut_off {E : Env → Prop} {c : BookingCollection}
    (hwhole : ∀ d ∈ c.docs, d.checkOutTime % 1000 = 0) {config : Option VenueConfig} {offset : Int}
    {w : World} (hrun : Relation.ReflTransGen (HappensOnTime E) (World.start c config offset) w)
    {ev : Event} {p : Go Unit} (hp : ev.deactivates = some p) {start : Int} {t : Int}
    {k : Bool → Go Unit} {m : Timed World Int}
    (hpass : Prog.Passes (backend E) 0 p ⟨w, start⟩ (.act (Op.write (.deactivateTable t)) k) m) :
    ∀ cb, m.state.tables.ShowsBusy t cb → ∀ d ∈ m.state.bookings.docs, d.id.hex = cb.bookingID →
      d.status = .cancelled ∨ ofUnixMilli d.checkOutTime ≤ m.clock := by
  have hinv : EndsOnTime (venueAt ⟨w, start⟩).state := endsOnTime_of_run hwhole hrun
  have hchecked : Prog.Checked (onVenue E) 0 RemovesOver p (venueAt ⟨w, start⟩) := by
    cases ev with
    | fire =>
      cases hp
      exact checked_timerFires hinv
    | reconcile =>
      cases hp
      exact checked_reconcile hinv
    | _ => cases hp
  exact hchecked _ _ _ (hpass.simulate (venue_simulates E))

/-! ## Runs on fixed inputs -/

/-- The table that a program is about to deactivate. -/
def deactivating : Go Unit → Option Int
  | .act (.write (.deactivateTable t)) _ => some t
  | _ => none

theorem act_of_deactivating {p : Go Unit} {t : Int} (h : deactivating p = some t) :
    ∃ k, p = .act (Op.write (.deactivateTable t)) k := by
  unfold deactivating at h
  split at h
  · cases h
    exact ⟨_, rfl⟩
  · cases h

theorem whole_tenToEleven : ∀ d ∈ tenToElevenStored.bookings.docs, d.checkOutTime % 1000 = 0 := by
  decide

/-- A shorter stay, cut off by a reconcile pass at eleven. -/
theorem no_premature_shut_off_shortened : ∃ (w : World) (m : Timed World Int) (k : Bool → Go Unit),
    Relation.ReflTransGen (HappensOnTime fun _ => True) tenToElevenStored w ∧
    Prog.Passes (backend fun _ => True) 0 reconcile ⟨w, elevenOClock.now⟩
      (.act (Op.write (.deactivateTable 1)) k) m ∧
    ∀ cb, m.state.tables.ShowsBusy 1 cb → ∀ d ∈ m.state.bookings.docs, d.id.hex = cb.bookingID →
      d.status = .cancelled ∨ ofUnixMilli d.checkOutTime ≤ m.clock := by
  have hrun : (do
      let (m₁, m₂) ← bootThenUpdate "2030-01-01T10:45:00Z"
      let (p, _) ← follow (List.replicate 2 elevenOClock) reconcile ⟨m₂.state, elevenOClock.now⟩
      return (m₁.state.armed.map ArmedTimer.deadline, m₁.state.bookings.docs, m₁.clock,
        m₂.clock, deactivating p)) = some
      ([elevenOClock.now], [tenToEleven .active], halfPastTen.now, halfPastTen.now, some 1) := by
    decide +kernel
  simp only [bootThenUpdate, Option.bind_eq_bind, Option.bind_eq_some_iff, Option.pure_def,
    Option.some.injEq, Prod.mk.injEq] at hrun
  obtain ⟨_, ⟨⟨w₁, now₁⟩, hboot, ⟨w₂, now₂⟩, hupdate, rfl⟩, ⟨p, m⟩, hfollow, harmed, hdocs, hclock₁,
    hclock₂, hp⟩ := hrun
  simp only at harmed hdocs hclock₁ hclock₂ hfollow hp
  subst hclock₁ hclock₂
  obtain ⟨k, rfl⟩ := act_of_deactivating hp
  have hall : ∀ (e : Env), e ∈ List.replicate 60 halfPastTen → True := fun _ _ => trivial
  have hupdate_ok : KeepsEnds w₁.venue halfPastTen.now halfPastTen.now
      (.request (.update (ObjectID.ofNat 7).hex (untilCheckOut "2030-01-01T10:45:00Z"))) := by
    intro d hd _ newIn newOut hwindow
    simp only [World.venue, hdocs, List.mem_singleton] at hd
    subst hd
    rw [requestedWindow_quarterToEleven, Except.ok.injEq, Option.some.injEq, Prod.mk.injEq] at hwindow
    obtain ⟨rfl, rfl⟩ := hwindow
    refine ⟨by decide, fun a ha _ _ => ?_, fun _ _ _ _ => .inl (by decide)⟩
    have hdeadline : a.deadline ∈ [elevenOClock.now] := by
      rw [← harmed]
      exact List.mem_map_of_mem ha
    rw [List.mem_singleton.1 hdeadline]
    decide
  have hreach : Relation.ReflTransGen (HappensOnTime fun _ => True) tenToElevenStored w₂ :=
    .tail (.single ⟨.restart, _, _, happens_of_exec hall hboot, trivial⟩)
      ⟨_, _, _, happens_of_exec hall hupdate, hupdate_ok⟩
  have hpass := passes_of_follow (E := fun _ => True) (fun _ _ => trivial) hfollow
  exact ⟨w₂, m, k, hreach, hpass,
    no_premature_shut_off whole_tenToEleven hreach
      (show Event.reconcile.deactivates = some reconcile from rfl) hpass⟩

/-- Without that condition it fails: a running booking is extended, and the end timer armed before
fires at the old check-out. -/
theorem shut_off_can_be_premature :
    ¬ ∀ (c : BookingCollection), (∀ d ∈ c.docs, d.checkOutTime % 1000 = 0) →
      ∀ (config : Option VenueConfig) (offset : Int) (w : World),
      Relation.ReflTransGen (fun w w' => ∃ ev start stop,
        Happens (fun _ => True) ev ⟨w, start⟩ ⟨w', stop⟩) (World.start c config offset) w →
      ∀ (ev : Event) (p : Go Unit), ev.deactivates = some p →
      ∀ (start t : Int) (k : Bool → Go Unit) (m : Timed World Int),
      Prog.Passes (backend fun _ => True) 0 p ⟨w, start⟩
        (.act (Op.write (.deactivateTable t)) k) m →
      ∀ cb, m.state.tables.ShowsBusy t cb → ∀ d ∈ m.state.bookings.docs, d.id.hex = cb.bookingID →
        d.status = .cancelled ∨ ofUnixMilli d.checkOutTime ≤ m.clock := by
  intro hclaim
  let later : BookingDoc :=
    { tenToEleven .active with checkOutTime := 1893499200000, durationMinutes := 120 }
  have hrun : (do
      let (_, m₂) ← bootThenUpdate "2030-01-01T12:00:00Z"
      let (p, m) ← follow (List.replicate 3 elevenOClock) timerFires ⟨m₂.state, elevenOClock.now⟩
      return (deactivating p, m.clock, (m.state.tables.get 1).status,
        (m.state.tables.get 1).currentBooking.map CurrentBooking.bookingID,
        m.state.bookings.docs)) = some
      (some 1, elevenOClock.now, .busy, some (ObjectID.ofNat 7).hex, [later]) := by
    decide +kernel
  simp only [bootThenUpdate, Option.bind_eq_bind, Option.bind_eq_some_iff, Option.pure_def,
    Option.some.injEq, Prod.mk.injEq] at hrun
  obtain ⟨_, ⟨m₁, hboot, m₂, hupdate, rfl⟩, ⟨p, m⟩, hfollow, hp, hclock, hstatus, hcb, hdocs⟩ := hrun
  simp only at hfollow hp hclock hstatus hcb hdocs
  obtain ⟨k, rfl⟩ := act_of_deactivating hp
  obtain ⟨cb, hcb, hid⟩ := Option.map_eq_some_iff.1 hcb
  have hall : ∀ (e : Env), e ∈ List.replicate 60 halfPastTen → True := fun _ _ => trivial
  have hover := hclaim _ whole_tenToEleven none 0 m₂.state
    (.tail (.single ⟨.restart, _, _, happens_of_exec hall hboot⟩)
      ⟨_, _, _, happens_of_exec hall hupdate⟩)
    .fire _ rfl _ 1 k m (passes_of_follow (fun _ _ => trivial) hfollow)
    cb ⟨hstatus, hcb⟩ later (by rw [hdocs]; exact List.mem_singleton.2 rfl) hid.symm
  rw [hclock] at hover
  rcases hover with hover | hover
  · cases hover
  · exact absurd hover (by decide)

end GbcVenue
