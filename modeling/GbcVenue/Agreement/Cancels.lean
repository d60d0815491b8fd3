import GbcVenue.Agreement.Visible

/-!
# What a cancellation leaves on its table

`CancelBooking` frees the table only if the stored window covers the clock and the caller spells the id
as the cache does. `Switches` says of a program what it does to the cache and to the command channel at
once; `cancel_frees_iff` says when a cancelled booking is gone from its table.
-/

namespace GbcVenue

open Interleaving BookingService GoTime

/-- The cache entry of the booking's table shows the booking. -/
def Shown (w : World) (d : BookingDoc) : Prop :=
  (w.tables.get d.tableID).currentBooking.map CurrentBooking.bookingID = some d.id.hex

/-- The booking `d` is gone from the cache in `w'`, and if it was shown in `w`, its table is AVAILABLE
and a command to switch its light off was queued, if there was room. -/
structure Freed (w w' : World) (d : BookingDoc) : Prop where
  hidden : ¬ Shown w' d
  available : Shown w d → (w'.tables.get d.tableID).status = .available
  off : Shown w d → w.mqttCmdChan.buf.length < w.mqttCmdChan.cap →
    ∃ commandID, w'.mqttCmdChan.buf = w.mqttCmdChan.buf ++ [⟨commandID, d.tableID, .off⟩]

/-! ## The cache and the command channel -/

/-- The cache and the command channel are as before. -/
structure SameLights (w w' : World) : Prop where
  tables : w'.tables = w.tables
  mqttCmdChan : w'.mqttCmdChan = w.mqttCmdChan

/-- As before, or a table was deactivated and an OFF command for it sent. -/
def Switched (w w' : World) : Prop :=
  SameLights w w' ∨ ∃ t commandID, w'.tables = w.tables.deactivateTable t ∧
    w'.mqttCmdChan = w.mqttCmdChan.trySend ⟨commandID, t, .off⟩

/-- Every run of the program switches off at most one table. -/
def Switches {α : Type} (p : Go α) : Prop :=
  ∀ (E : Env → Prop) i w a w', Prog.Runs (sem E) i p w a w' → Switched w w'

theorem SameLights.trans {w w' w'' : World} (h : SameLights w w') (h' : SameLights w' w'') :
    SameLights w w'' :=
  ⟨h'.tables.trans h.tables, h'.mqttCmdChan.trans h.mqttCmdChan⟩

theorem perform_apart {o : Op} (ho : o.apart) {i : Nat} {e : Env} {w w' : World} {r : Res o}
    (h : perform i e o w = some (r, w')) : SameLights w w' := by
  obtain ⟨-, -, hsame⟩ := perform_frame h
  obtain ⟨htables, hchan⟩ := hsame ho
  exact ⟨htables, hchan⟩

section

variable {α β : Type}

theorem runs_apart {E : Env → Prop} {i : Nat} {p : Go α} {w w' : World} {a : α}
    (hp : p.All fun o => o.apart) (h : Prog.Runs (sem E) i p w a w') : SameLights w w' := by
  refine h.preserves (R := SameLights) (fun _ => ⟨rfl, rfl⟩) (fun _ _ _ => SameLights.trans) ?_ hp
  rintro o s r s' ho ⟨e, -, hperf⟩
  exact perform_apart ho hperf

theorem switches_apart {p : Go α} (hp : p.All fun o => o.apart) : Switches p :=
  fun _ _ _ _ _ h => .inl (runs_apart hp h)

/-- A program that leaves the lights alone may come before another. -/
theorem switches_bind {p : Go β} {f : β → Go α} (hp : p.All fun o => o.apart)
    (hf : ∀ b, Switches (f b)) : Switches (p >>= f) := by
  intro E i w a w' h
  obtain ⟨b, w₁, hrun, hrest⟩ := Prog.runs_bind.1 h
  have hsame := runs_apart hp hrun
  rcases hf b E i w₁ a w' hrest with hsame' | ⟨t, commandID, htables, hchan⟩
  · exact .inl (hsame.trans hsame')
  · rw [hsame.tables] at htables
    rw [hsame.mqttCmdChan] at hchan
    exact .inr ⟨t, commandID, htables, hchan⟩

/-- Or after it. -/
theorem switches_bind_apart {p : Go β} {f : β → Go α} (hp : Switches p)
    (hf : ∀ b, (f b).All fun o => o.apart) : Switches (p >>= f) := by
  intro E i w a w' h
  obtain ⟨b, w₁, hrun, hrest⟩ := Prog.runs_bind.1 h
  have hsame := runs_apart (hf b) hrest
  rcases hp E i w b w₁ hrun with hsame' | ⟨t, commandID, htables, hchan⟩
  · exact .inl (hsame'.trans hsame)
  · exact .inr ⟨t, commandID, hsame.tables.trans htables, hsame.mqttCmdChan.trans hchan⟩

theorem switches_act {o : Op} {k : Res o → Go α} (ho : o.apart) (hk : ∀ r, Switches (k r)) :
    Switches (.act o k) :=
  switches_bind (p := Prog.call o) ⟨ho, fun _ => trivial⟩ hk

theorem switches_ret (a : α) : Switches (.ret a) :=
  switches_apart trivial

theorem switches_when {c : Bool} {p : Go Unit} (hp : Switches p) : Switches (Prog.when c p) := by
  cases c
  · exact switches_ret ()
  · exact hp

end

/-! ## A cancellation -/

theorem deactivateTable_switches (t : Int) : Switches (TableService.deactivateTable t) := by
  intro E i w a w' h
  simp only [TableService.deactivateTable, TableCache.deactivateTable, TableCache.write,
    Prog.call_bind, Prog.act_bind] at h
  obtain ⟨e, -, r, w₁, hwrite, h⟩ := runs_op.1 h
  obtain ⟨-, rfl⟩ := perform_write hwrite
  obtain ⟨_, w₂, hbroadcast, h⟩ := Prog.runs_bind.1 h
  have hquiet : (Prog.when r TableCache.broadcast).All fun o => o.apart :=
    Prog.all_when ⟨rfl, fun _ => ⟨rfl, fun _ => trivial⟩⟩
  have hsame := runs_apart hquiet hbroadcast
  simp only [TableService.sendMqttCommand, timeNow, Prog.call_bind] at h
  obtain ⟨e₁, -, now, w₃, hnow, h⟩ := runs_op.1 h
  have hsame' := hsame.trans (perform_apart rfl hnow)
  obtain ⟨e₂, -, _, w₄, hsend, h⟩ := runs_op.1 h
  obtain ⟨-, rfl⟩ := Prog.runs_ret.1 h
  cases hsend
  exact .inr ⟨t, _, hsame'.tables, by rw [hsame'.mqttCmdChan]⟩

theorem emitTimelineUpdate_apart : emitTimelineUpdate.All fun o => o.apart :=
  emitTimelineUpdate_timeline.mono fun o ho => by cases o <;> first | rfl | cases ho

theorem syncCancelled_switches (id : String) (b : Booking) : Switches (syncCancelled id b) := by
  simp only [syncCancelled, timeNow, TableService.getTable, TableCache.getTable, Prog.call_bind]
  apply switches_act rfl
  intro now
  refine switches_bind_apart ?_ fun _ => emitTimelineUpdate_apart
  apply switches_when
  apply switches_act rfl
  intro table
  exact switches_when (deactivateTable_switches b.tableID)

theorem withLock_switches {α : Type} {m : MutexRef} {body : Go α} (h : Switches body) :
    Switches (withLock m body) := by
  simp only [withLock, Prog.call_bind, Prog.pure_eq]
  apply switches_act rfl
  intro _
  exact switches_bind_apart h fun _ => ⟨rfl, fun _ => trivial⟩

theorem withFresh_switches {id : String} {body : Booking → Go (Except GoError Booking)}
    (h : ∀ b, Switches (body b)) : Switches (withFresh id body) := by
  simp only [withFresh, BookingRepository.findByID, Prog.call_bind, Prog.pure_eq]
  apply switches_act rfl
  intro answer
  split
  · exact switches_ret _
  · exact switches_ret _
  · rename_i b
    split
    · exact switches_ret _
    · refine switches_bind ⟨rfl, fun _ => ⟨rfl, fun _ => ⟨rfl, fun _ => trivial⟩⟩⟩ fun m => ?_
      apply withLock_switches
      simp only [refetch, BookingRepository.findByID, Prog.call_bind, Prog.pure_eq]
      apply switches_act rfl
      intro answer'
      split
      · split
        · exact switches_ret _
        · exact h _
      · exact switches_ret _

theorem cancelBooking_switches (id : String) : Switches (cancelBooking id) := by
  apply withFresh_switches
  intro fresh
  simp only [cancelFresh, BookingRepository.save, Prog.call_bind, Prog.pure_eq]
  apply switches_act rfl
  intro answer
  split
  · exact switches_ret _
  · exact switches_bind_apart (syncCancelled_switches id _) fun _ => trivial

theorem backend_simulates (E : Env → Prop) :
    Prog.Simulates (backend E) (sem E) (Timed.state (τ := Int)) := by
  rintro i o s r s' ⟨-, e, ⟨-, he⟩, hperf⟩
  exact ⟨e, he, hperf⟩

/-- What a cancellation answers is the booking that its id spells, cancelled. -/
theorem SpecStep.cancelled_reply {faults : Option String → Prop} {c c' : BookingCollection}
    {id : String} {b : Booking} {d : BookingDoc} (h : SpecStep faults (.cancel id) c (.ok b) c')
    (hd : d ∈ c.docs) (hid : objectIDFromHex id = some d.id) :
    b = BookingService.cancelled (docToBooking d) := by
  generalize hreply : (Except.ok b : Reply) = r at h
  cases h with
  | cancelled hd₁ hid₁ _ =>
    rw [hid, Option.some.injEq] at hid₁
    obtain rfl := c.id_inj hd hd₁ hid₁
    exact Except.ok.inj hreply
  | _ => cases hreply

section

variable {w w' : World} {d : BookingDoc} {t : Int}

theorem not_shown_deactivateTable (h : w'.tables = w.tables.deactivateTable d.tableID) :
    ¬ Shown w' d ∧ (w'.tables.get d.tableID).status = .available := by
  rw [Shown, h, Tables.deactivateTable, Tables.get_set_self]
  exact ⟨nofun, rfl⟩

theorem shown_deactivateTable (h : w'.tables = w.tables.deactivateTable t) (ht : d.tableID ≠ t) :
    Shown w' d ↔ Shown w d := by
  rw [Shown, h, Tables.deactivateTable, Tables.get_set_ne _ _ ht, Shown]

theorem isSome_of_shown (h : Shown w d) : (w.tables d.tableID).isSome := by
  unfold Shown Tables.get at h
  cases htable : w.tables d.tableID with
  | none =>
    rw [htable] at h
    cases h
  | some table => rfl

/-- A shown booking whose table shows it no longer was switched off. -/
theorem Switched.off (h : Switched w w') (hshown : Shown w d) (hhidden : ¬ Shown w' d)
    (hroom : w.mqttCmdChan.buf.length < w.mqttCmdChan.cap) :
    ∃ commandID, w'.mqttCmdChan.buf = w.mqttCmdChan.buf ++ [⟨commandID, d.tableID, .off⟩] := by
  rcases h with hsame | ⟨t, commandID, htables, hchan⟩
  · rw [Shown, hsame.tables] at hhidden
    exact absurd hshown hhidden
  · by_cases ht : d.tableID = t
    · subst ht
      rw [hchan, Chan.trySend, if_pos hroom]
      exact ⟨commandID, rfl⟩
    · exact absurd ((shown_deactivateTable htables ht).2 hshown) hhidden

end

/-- A cancellation at `now` frees the table exactly if, where the table showed the booking, the id is
spelled as the cache has it and the stored window covers `now`. -/
theorem cancel_frees_iff {E : Env → Prop} {i : Nat} {id : String} {now : Int} {w w' : World}
    {b : Booking} {d : BookingDoc} (hd : d ∈ w.bookings.docs) (hid : objectIDFromHex id = some d.id)
    (hrun : Prog.Runs (backend E) i (cancelBooking id) ⟨w, now⟩ (.ok b) ⟨w', now⟩) :
    Freed w w' d ↔ (Shown w d → id = d.id.hex ∧ covers (docToBooking d) now) := by
  have heffect := runs_cancelBooking (hrun.simulate (venue_simulates E))
  have hswitched := cancelBooking_switches id E i _ _ _ (hrun.simulate (backend_simulates E))
  obtain ⟨syncNow, h₁, h₂, htables⟩ := heffect.tables
  obtain rfl : syncNow = now := le_antisymm h₂ h₁
  obtain rfl := heffect.store.cancelled_reply hd hid
  have hsync : w'.tables = (Request.cancel id).sync (cancelled (docToBooking d)) syncNow w.tables :=
    htables
  rw [Request.sync] at hsync
  constructor
  · intro hfreed hshown
    split at hsync
    · rename_i hcond
      obtain ⟨hcovers, -, hcached⟩ := hcond
      exact ⟨Option.some.inj (hcached.symm.trans hshown), hcovers⟩
    · have hhidden := hfreed.hidden
      rw [Shown, hsync] at hhidden
      exact absurd hshown hhidden
  · intro hcond
    by_cases hshown : Shown w d
    · obtain ⟨rfl, hcovers⟩ := hcond hshown
      rw [if_pos ⟨hcovers, isSome_of_shown hshown, hshown⟩] at hsync
      obtain ⟨hhidden, havailable⟩ := not_shown_deactivateTable hsync
      exact ⟨hhidden, fun _ => havailable, fun _ => hswitched.off hshown hhidden⟩
    · refine ⟨?_, fun h => absurd h hshown, fun h => absurd h hshown⟩
      split at hsync
      · exact (not_shown_deactivateTable hsync).1
      · rw [Shown, hsync]
        exact hshown

/-- Half past ten, with a next object id that has a letter. -/
def halfPastTenLetter : Env := { halfPastTen with objectID := .ofNat 10 }

/-- Table 1 is booked at half past ten from ten to eleven, and the booking is cancelled by the id. -/
def bookAndCancel (id : String) : Option (Timed World Int × Reply × Timed World Int) := do
  let m ← (Event.request (.create askTenToEleven "ann" "admin")).exec
    (List.replicate 60 halfPastTenLetter)
    ⟨World.start .empty (some ⟨0, "06:00", "09:00", 0⟩) 0, halfPastTenLetter.now⟩
  let p ← complete (List.replicate 40 halfPastTenLetter) (cancelBooking id) m
  return (m, p)

/-- What the two requests do, if they go as they should, and whether the booking is shown in the end. -/
theorem exists_cancel (id : String) (shown : Option String)
    (h : (bookAndCancel id).any fun (m, r, m') =>
      m.clock = halfPastTen.now ∧ r.isOk ∧ m'.clock = halfPastTen.now ∧
      (m.state.bookings.docs.map fun d => (d.id, d.tableID, covers (docToBooking d) m.clock)) =
        [(.ofNat 10, 1, true)] ∧
      (m.state.tables.get 1).currentBooking.map CurrentBooking.bookingID =
        some (ObjectID.ofNat 10).hex ∧
      (m'.state.tables.get 1).currentBooking.map CurrentBooking.bookingID = shown) :
    ∃ w w' b d, ReachedByRequests ⟨0, "06:00", "09:00", 0⟩ 0 ⟨w, halfPastTen.now⟩ ∧
      Prog.Runs (backend noFaults) 0 (cancelBooking id) ⟨w, halfPastTen.now⟩ (.ok b)
        ⟨w', halfPastTen.now⟩ ∧ d ∈ w.bookings.docs ∧ d.id = .ofNat 10 ∧ Shown w d ∧
      covers (docToBooking d) halfPastTen.now ∧
      (Shown w' d ↔ shown = some (ObjectID.ofNat 10).hex) := by
  obtain ⟨⟨⟨w, now⟩, r, ⟨w', now'⟩⟩, hrun, hvals⟩ := (Option.any_eq_true _ _).1 h
  simp only [decide_eq_true_eq] at hvals
  obtain ⟨rfl, hok, rfl, hdocs, hshown, rfl⟩ := hvals
  unfold bookAndCancel at hrun
  obtain ⟨m, hbook, hrun⟩ := Option.bind_eq_some_iff.1 hrun
  obtain ⟨p, hcancel, hpair⟩ := Option.bind_eq_some_iff.1 hrun
  cases hpair
  obtain ⟨d, hd⟩ := List.length_eq_one_iff.1 (by simpa using congrArg List.length hdocs)
  simp only [hd, List.map_singleton, List.cons.injEq, Prod.mk.injEq, and_true] at hdocs
  obtain ⟨hid, htable, hcovers⟩ := hdocs
  cases r with
  | error e => cases hok
  | ok b =>
    have hbooked := happens_of_exec (noFaults_replicate 60 halfPastTenLetter rfl) hbook
    have hcancelled := runs_of_complete (noFaults_replicate 40 halfPastTenLetter rfl) hcancel
    have hmem : d ∈ w.bookings.docs := by
      rw [hd]
      exact List.mem_singleton.2 rfl
    refine ⟨w, w', b, d, ⟨_, .single ⟨_, hbooked⟩⟩, hcancelled, hmem, hid, ?_, hcovers, ?_⟩
    · rw [Shown, htable, hid]
      exact hshown
    · rw [Shown, htable, hid]

/-- Under the id as `Hex` spells it. -/
theorem cancel_frees_lower_case : ∃ w w' d, Shown w d ∧ Freed w w' d := by
  obtain ⟨w, w', b, d, -, hrun, hd, hid, hshown, hcovers, -⟩ :=
    exists_cancel (ObjectID.ofNat 10).hex none (by decide +kernel)
  refine ⟨w, w', d, hshown, (cancel_frees_iff hd ?_ hrun).2 fun _ => ⟨by rw [hid], hcovers⟩⟩
  rw [ObjectID.objectIDFromHex_hex, hid]

/-- Under the same id in capitals the booking is cancelled and its table stays BUSY. -/
theorem cancel_can_leave_busy :
    ¬ ∀ (cfg : VenueConfig) (offset now : Int) (w : World),
      ReachedByRequests cfg offset ⟨w, now⟩ → ∀ (id : String) (d : BookingDoc) (b : Booking)
      (w' : World), d ∈ w.bookings.docs → objectIDFromHex id = some d.id →
      Prog.Runs (backend noFaults) 0 (cancelBooking id) ⟨w, now⟩ (.ok b) ⟨w', now⟩ →
      Freed w w' d := by
  intro hclaim
  obtain ⟨w, w', b, d, hreached, hrun, hd, hid, -, -, hshown⟩ :=
    exists_cancel "00000000000000000000000A" (some (ObjectID.ofNat 10).hex) (by decide +kernel)
  have hfreed := hclaim _ _ _ w hreached _ d b w' hd (by rw [hid]; decide) hrun
  exact hfreed.hidden (hshown.2 rfl)

end GbcVenue
