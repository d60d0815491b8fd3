import GbcVenue.Scheduler.Timers

/-!
# The chain of deadline timers

After boot, and while nothing but timers happens, at most one timer of a table is armed: a start
timer for the next booking while the table is AVAILABLE, or the end timer of the booking it shows.
`Phase` says which. Each callback hands over to the next, as long as no booking begins at the very
instant at which another ends: the search for the next one is strict.
-/

namespace GbcVenue

open Interleaving BookingService GoTime Scheduler

/-- A live booking of table `t` that ends after the boot. -/
structure Ahead (c : BookingCollection) (t boot : Int) (d : BookingDoc) : Prop where
  mem : d ∈ c.docs
  live : d.live
  table : d.tableID = t
  out : boot < ofUnixMilli d.checkOutTime

/-- The live bookings of table `t` take time and follow one another. -/
structure InSequence (c : BookingCollection) (t : Int) : Prop where
  windows : ∀ d ∈ c.docs, d.live → d.tableID = t → d.checkInTime < d.checkOutTime
  disjoint : ∀ d ∈ c.docs, ∀ e ∈ c.docs, d ≠ e → d.tableID = t → e.tableID = t → d.live → e.live →
    d.checkOutTime ≤ e.checkInTime ∨ e.checkOutTime ≤ d.checkInTime

/-- No live booking of table `t` begins at the instant at which one that is ahead ends. -/
def Gaps (c : BookingCollection) (t boot : Int) : Prop :=
  ∀ d, Ahead c t boot d → ∀ e ∈ c.docs, e.live → e.tableID = t → d.checkOutTime ≠ e.checkInTime

/-- The instant that a timer of this kind stands for. -/
def instantOf (kind : TimerKind) (d : BookingDoc) : Int :=
  match kind with
  | .onStart => ofUnixMilli d.checkInTime
  | .onEnd => ofUnixMilli d.checkOutTime

/-- Where the chain of the table stands: it waits for a booking to begin or to end, or it is over.
`done` are the bookings it has been through, `past` the instants of the timers that have fired. -/
inductive Phase (t boot : Int) (done : BookingDoc → Prop) (past : List Int) (v : Venue) : Prop
  | waiting {d : BookingDoc} {n : Nat} {deadline : Int} (hd : Ahead v.bookings t boot d)
      (hfree : (v.tables.get t).status = .available)
      (harmed : v.armedOn t = [⟨n, startKey t, d.id.hex, deadline⟩])
      (hdue : ofUnixMilli d.checkInTime ≤ deadline)
      (hrest : ∀ e, Ahead v.bookings t boot e → done e ∨ d.checkInTime ≤ e.checkInTime)
      (hpast : ∀ x ∈ past, x < ofUnixMilli d.checkInTime)
  | running {d : BookingDoc} {n : Nat} {deadline : Int} (hd : Ahead v.bookings t boot d)
      (hshown : v.tables.ShowsBusy t (currentBookingOf (docToBooking d)))
      (harmed : v.armedOn t = [⟨n, endKey t, d.id.hex, deadline⟩])
      (hdue : ofUnixMilli d.checkOutTime ≤ deadline)
      (hrest : ∀ e, Ahead v.bookings t boot e → done e ∨ d.checkInTime ≤ e.checkInTime)
      (hpast : ∀ x ∈ past, x < ofUnixMilli d.checkOutTime)
  | finished (harmed : v.armedOn t = []) (hrest : ∀ e, Ahead v.bookings t boot e → done e)

section

variable {faults : Option String → Prop} {t boot now stop : Int} {done done' : BookingDoc → Prop}
  {past : List Int} {v v' : Venue} {c : BookingCollection}

theorem ofUnixMilli_lt {x y : Int} : ofUnixMilli x < ofUnixMilli y ↔ x < y := by
  simp only [ofUnixMilli]
  omega

theorem ofUnixMilli_le {x y : Int} : ofUnixMilli x ≤ ofUnixMilli y ↔ x ≤ y := by
  simp only [ofUnixMilli]
  omega

theorem unixMilli_lt {x now : Int} : unixMilli now < x ↔ now < ofUnixMilli x := by
  simp only [ofUnixMilli, unixMilli]
  omega

/-- A later booking begins no earlier than an earlier one ends. -/
theorem InSequence.after (h : InSequence c t) {d e : BookingDoc} (hd : Ahead c t boot d)
    (he : Ahead c t boot e) (hne : e ≠ d) (hle : d.checkInTime ≤ e.checkInTime) :
    d.checkOutTime ≤ e.checkInTime := by
  have hwindow := h.windows e he.mem he.live he.table
  rcases h.disjoint d hd.mem e he.mem hne.symm hd.table he.table hd.live he.live with h | h
  · exact h
  · omega

theorem Phase.apart (h : Phase t boot done past v) (ha : Apart t v v') :
    Phase t boot done past v' := by
  cases h with
  | waiting hd hfree harmed hdue hrest hpast =>
    rw [← ha.bookings] at hd hrest
    rw [← ha.table] at hfree
    exact .waiting hd hfree (ha.armed.trans harmed) hdue hrest hpast
  | running hd hshown harmed hdue hrest hpast =>
    rw [← ha.bookings] at hd hrest
    unfold Tables.ShowsBusy at hshown
    rw [← ha.table] at hshown
    exact .running hd hshown (ha.armed.trans harmed) hdue hrest hpast
  | finished harmed hrest =>
    rw [← ha.bookings] at hrest
    exact .finished (ha.armed.trans harmed) hrest

theorem Phase.mono (h : Phase t boot done past v) (hdone : ∀ d, done d → done' d) :
    Phase t boot done' past v := by
  cases h with
  | waiting hd hfree harmed hdue hrest hpast =>
    exact .waiting hd hfree harmed hdue (fun e he => (hrest e he).imp_left (hdone e)) hpast
  | running hd hshown harmed hdue hrest hpast =>
    exact .running hd hshown harmed hdue (fun e he => (hrest e he).imp_left (hdone e)) hpast
  | finished harmed hrest => exact .finished harmed fun e he => hdone e (hrest e he)

/-! ## Hand-overs -/

/-- The search for the next booking finds the first of those that begin later. -/
theorem BookingCollection.upcoming_le {c : BookingCollection} {t after : Int} {d e : BookingDoc}
    (h : c.upcoming t after = some d) (he : e ∈ c.docs) (ht : e.tableID = t) (hl : e.live)
    (hlater : unixMilli after < e.checkInTime) : d.checkInTime ≤ e.checkInTime := by
  refine List.le_of_mem_argmin (m := d) ?_ h
  simp only [List.mem_filter, decide_eq_true_eq]
  exact ⟨he, ht, hl, hlater⟩

theorem BookingCollection.upcoming_none {c : BookingCollection} {t after : Int} {e : BookingDoc}
    (h : c.upcoming t after = none) (he : e ∈ c.docs) (ht : e.tableID = t) (hl : e.live) :
    e.checkInTime ≤ unixMilli after := by
  by_contra hlater
  have hmem : e ∈
      c.docs.filter fun d => d.tableID = t ∧ d.live ∧ unixMilli after < d.checkInTime := by
    simp only [List.mem_filter, decide_eq_true_eq]
    exact ⟨he, ht, hl, by omega⟩
  rw [List.argmin_eq_none.1 h] at hmem
  exact List.not_mem_nil hmem

/-- The chaining step, on a table that is AVAILABLE and has no timer. -/
theorem phase_chained (hseq : InSequence v.bookings t) (hfaults : ∀ f, ¬ faults (some f))
    (hnil : v.armedOn t = []) (hfree : (v.tables.get t).status = .available) (hboot : boot ≤ now)
    (hrest : ∀ e, Ahead v.bookings t boot e → done e ∨ now < ofUnixMilli e.checkInTime)
    (hpast : ∀ x ∈ past, x ≤ now) (h : Chained faults t now v v') :
    Phase t boot done past v' := by
  cases h with
  | failed hf => exact absurd hf (hfaults _)
  | last hnone =>
    refine .finished hnil fun e he => ?_
    rcases hrest e he with hdone | hlater
    · exact hdone
    · have hle := BookingCollection.upcoming_none hnone he.mem he.table he.live
      rw [← unixMilli_lt] at hlater
      omega
  | @next d deadline hnext hdue =>
    obtain ⟨hd, ht, hl, hlater⟩ := BookingCollection.upcoming_mem hnext
    have hwindow := ofUnixMilli_lt.2 (hseq.windows d hd hl ht)
    have hlater := unixMilli_lt.1 hlater
    have hahead : Ahead v.bookings t boot d := ⟨hd, hl, ht, by omega⟩
    have harmed := armedOn_setTimer_self (k := startKey t) hnil d.id.hex deadline
    refine .waiting ?_ ?_ harmed hdue ?_ ?_
    · rw [Venue.setTimer_bookings]
      exact hahead
    · rw [Venue.setTimer_tables]
      exact hfree
    · intro e he
      rw [Venue.setTimer_bookings] at he
      exact (hrest e he).imp_right fun h =>
        BookingCollection.upcoming_le hnext he.mem he.table he.live (unixMilli_lt.2 h)
    · exact fun x hx => (hpast x hx).trans_lt hlater

/-- The start timer of `d` fires in time: the table shows `d` and its end timer is armed. -/
theorem phase_started {d : BookingDoc} (hseq : InSequence v.bookings t)
    (hfaults : ∀ f, ¬ faults (some f)) (hd : Ahead v.bookings t boot d) (hnil : v.armedOn t = [])
    (hnow : ofUnixMilli d.checkInTime ≤ now) (hstop : now ≤ stop)
    (hquiet : NoBoundary v.bookings t (ofUnixMilli d.checkInTime) stop)
    (hrest : ∀ e, Ahead v.bookings t boot e → done e ∨ d.checkInTime ≤ e.checkInTime)
    (hpast : ∀ x ∈ past, x ≤ ofUnixMilli d.checkInTime)
    (h : Started faults t d.id.hex now v v') : Phase t boot done past v' := by
  have hwindow := ofUnixMilli_lt.2 (hseq.windows d hd.mem hd.live hd.table)
  have hcovers : covers (docToBooking d) now := by
    have hnot := (hquiet d hd.mem hd.live hd.table).2
    rw [Set.mem_Ioc] at hnot
    refine covers_iff.2 ⟨hnow, ?_⟩
    show now < ofUnixMilli d.checkOutTime
    omega
  cases h with
  | failed hf =>
    rcases hf with ⟨e, he⟩ | hid
    · exact absurd he (hfaults e)
    · rw [ObjectID.objectIDFromHex_hex] at hid
      cases hid
  | gone he hid hnot hre =>
    rw [ObjectID.objectIDFromHex_hex, Option.some.injEq] at hid
    rw [← v.bookings.id_inj hd.mem he hid] at hnot
    exact absurd ⟨hd.live, hcovers⟩ hnot
  | missing hnone hre => exact absurd (ObjectID.objectIDFromHex_hex d.id) (hnone d hd.mem)
  | @activated e deadline he hid hl hcov hdue =>
    rw [ObjectID.objectIDFromHex_hex, Option.some.injEq] at hid
    have heq : d = e := v.bookings.id_inj hd.mem he hid
    subst heq
    have harmed := armedOn_setTimer_self (k := endKey t) (v := (v.deleteTimer (startKey t)).write
      (.activateTable t (currentBookingOf (docToBooking d)))) hnil d.id.hex deadline
    refine .running (d := d) ?_ ?_ harmed hdue ?_ ?_
    · rw [Venue.setTimer_bookings]
      exact hd
    · rw [Venue.setTimer_tables]
      exact Tables.showsBusy_activateTable.2 (by rw [if_pos rfl])
    · rw [Venue.setTimer_bookings]
      exact hrest
    · exact fun x hx => (hpast x hx).trans_lt hwindow

/-- The end timer of `d` fires in time: the table is freed and the next booking is waited for. -/
theorem phase_ended {d : BookingDoc} (hseq : InSequence v.bookings t)
    (hgaps : Gaps v.bookings t boot) (hfaults : ∀ f, ¬ faults (some f))
    (hd : Ahead v.bookings t boot d) (hnil : v.armedOn t = [])
    (hshown : v.tables.ShowsBusy t (currentBookingOf (docToBooking d)))
    (hnow : ofUnixMilli d.checkOutTime ≤ now) (hstop : now ≤ stop)
    (hquiet : NoBoundary v.bookings t (ofUnixMilli d.checkOutTime) stop)
    (hrest : ∀ e, Ahead v.bookings t boot e → done e ∨ d.checkInTime ≤ e.checkInTime)
    (hpast : ∀ x ∈ past, x ≤ ofUnixMilli d.checkOutTime) (h : Ended faults t d.id.hex now v v') :
    (v'.tables.get t).status = .available ∧ Phase t boot (fun e => done e ∨ e = d) past v' := by
  have hshows : showsBooking (v.tables.getTable t) d.id.hex = true := by
    refine decide_eq_true ⟨Tables.isSome_of_showsBusy hshown, hshown.1, ?_⟩
    show (v.tables.get t).currentBooking.map CurrentBooking.bookingID = some d.id.hex
    rw [hshown.2]
    rfl
  have hended : endedTable t d.id.hex (v.deleteTimer (endKey t)) =
      (v.deleteTimer (endKey t)).write (.deactivateTable t) := if_pos hshows
  rw [Ended, hended] at h
  have hfree : ((v.tables.deactivateTable t).get t).status = .available := by
    rw [Tables.deactivateTable, Tables.get_set_self]
  refine ⟨?_, ?_⟩
  · rw [(Scheduler.Chained.rearmed h).tables]
    exact hfree
  · have hout := hd.out
    refine phase_chained (v := (v.deleteTimer (endKey t)).write (.deactivateTable t)) hseq hfaults
      hnil hfree (hout.le.trans hnow) ?_
      (fun x hx => (hpast x hx).trans hnow) h
    intro e he
    rcases hrest e he with hdone | hle
    · exact .inl (.inl hdone)
    · by_cases hed : e = d
      · exact .inl (.inr hed)
      · -- a booking after `d` begins after its end, so not before the next boundary
        right
        have hafter := hseq.after hd he hed hle
        have hne := hgaps d hd e he.mem he.live he.table
        have hlt := ofUnixMilli_lt.2 (lt_of_le_of_ne hafter hne)
        have hnot := (hquiet e he.mem he.live he.table).1
        rw [Set.mem_Ioc] at hnot
        omega

/-- A timer of the table fires in time. -/
theorem Phase.fired (h : Phase t boot done past v)
    (hseq : InSequence v.bookings t) (hgaps : Gaps v.bookings t boot)
    (hfaults : ∀ f, ¬ faults (some f)) {a : ArmedTimer} (ha : a ∈ v.armedOn t)
    (hdue : a.deadline ≤ now) (hstop : now ≤ stop)
    (hquiet : ∀ d ∈ v.bookings.docs, d.id.hex = a.bookingID →
      NoBoundary v.bookings t (instantOf a.key.kind d) stop) (hfire : Fired faults now v a v') :
    ∃ d, Ahead v.bookings t boot d ∧ (∀ x ∈ past, x < instantOf a.key.kind d) ∧
      (Phase t boot done (past ++ [instantOf a.key.kind d]) v' ∨
        (a.key = endKey t ∧ a.bookingID = d.id.hex ∧
          v.tables.ShowsBusy t (currentBookingOf (docToBooking d)) ∧
          (v'.tables.get t).status = .available ∧
          Phase t boot (fun e => done e ∨ e = d) (past ++ [instantOf a.key.kind d]) v')) := by
  have hpast' : ∀ {y : Int}, (∀ x ∈ past, x < y) → ∀ x ∈ past ++ [y], x ≤ y := by
    intro y hy x hx
    rcases List.mem_append.1 hx with hx | hx
    · exact (hy x hx).le
    · exact (List.mem_singleton.1 hx).le
  let fired : Venue := { v with armed := v.armed.filter fun a' => a'.id ≠ a.id }
  have hnil : v.armedOn t = [a] → fired.armedOn t = [] := fun h => armedOn_fire h
  cases h with
  | @waiting d n deadline hd hfree harmed hdeadline hrest hpast =>
    rw [harmed, List.mem_singleton] at ha
    subst ha
    refine ⟨d, hd, hpast, .inl ?_⟩
    cases hfire with
    | started _ hs =>
      exact phase_started (v := fired) hseq hfaults hd (hnil harmed) (hdeadline.trans hdue) hstop
        (hquiet d hd.mem rfl) hrest (hpast' hpast) hs
    | ended hkind _ => cases hkind
  | @running d n deadline hd hshown harmed hdeadline hrest hpast =>
    rw [harmed, List.mem_singleton] at ha
    subst ha
    refine ⟨d, hd, hpast, .inr ?_⟩
    cases hfire with
    | started hkind _ => cases hkind
    | ended _ he =>
      exact ⟨rfl, rfl, hshown, phase_ended (v := fired) hseq hgaps hfaults hd
        (hnil harmed) hshown (hdeadline.trans hdue) hstop (hquiet d hd.mem rfl) hrest
        (hpast' hpast) he⟩
  | finished harmed hrest =>
    rw [harmed] at ha
    exact absurd ha List.not_mem_nil

end

end GbcVenue
