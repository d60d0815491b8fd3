import GbcVenue.Concurrency.BookingRequests
import GbcVenue.Service.Alone
import Mathlib.Data.List.Range

/-!
# Concurrent booking requests

The two results about any number of booking requests in any interleaving: the store never holds a
double booking, and updates and cancellations are serialisable.
-/

namespace GbcVenue

open Interleaving BookingService

/-- The program of thread `i` when the requests `reqs` are served concurrently. -/
def thread (reqs : List Request) (i : Nat) : Go (Option Reply) :=
  match reqs[i]? with
  | some req => do
    let reply ← req.program
    return some reply
  | none => return none

/-- The moment at which all the requests have arrived. -/
def startRequests (reqs : List Request) (w : World) : Config Res Nat World (Option Reply) :=
  ⟨w, thread reqs⟩

/-- What a thread has returned, against the timeline. -/
def Answered (reqs : List Request) (i : Nat) (a : Option Reply) (g : Timeline) : Prop :=
  match reqs[i]? with
  | some _ => ∃ r, a = some r ∧ Recorded i r g
  | none => a = none

section

variable {faults : Option String → Prop} {reqs : List Request} {w₀ : World}

theorem thread_safe (hnone : faults none) (hidle : Idle w₀) (i : Nat) :
    (bookingContract faults reqs w₀.bookings).Safe i (thread reqs i)
      (fun a _ g => Answered reqs i a g) w₀ [] := by
  have hinv : BookingInv faults reqs w₀.bookings w₀ [] := ⟨.nil, hidle.mutexes⟩
  unfold thread Answered
  rcases hreq : reqs[i]? with _ | req
  · exact fun _ _ _ _ => rfl
  · refine Contract.Triple.bind (request_triple hnone hreq) (fun r => ?_) w₀ [] hinv rfl
    exact .ret (stable_recorded r) fun w g _ h => ⟨r, rfl, h⟩

/-- Every interleaving keeps a timeline that explains the store and the replies. -/
theorem requests_sound (hnone : faults none) (hidle : Idle w₀)
    {c : Config Res Nat World (Option Reply)}
    (h : Reaches (sem (faulty faults)) anyStep (startRequests reqs w₀) c) :
    ∃ g, BookingInv faults reqs w₀.bookings c.state g ∧
      ∀ i, (bookingContract faults reqs w₀.bookings).Safe i (c.threads i)
        (fun a _ g => Answered reqs i a g) c.state g := by
  have hinv : BookingInv faults reqs w₀.bookings w₀ [] := ⟨.nil, hidle.mutexes⟩
  exact Contract.sound (C := bookingContract faults reqs w₀.bookings)
    (c := startRequests reqs w₀) (g := []) hinv
    (fun i => thread_safe hnone hidle i) h

end

/-! ## No double booking -/

/-- In every state that any interleaving of booking requests reaches from an empty store, whatever
the clock says and whichever database calls fail, two bookings of one table that are not cancelled
have disjoint windows. -/
theorem no_double_booking (reqs : List Request) {w₀ : World}
    {c : Config Res Nat World (Option Reply)} (hidle : Idle w₀) (hempty : w₀.bookings = .empty)
    (h : Reaches (sem (faulty anyFault)) anyStep (startRequests reqs w₀) c) :
    ∀ d ∈ c.state.bookings.docs, ∀ e ∈ c.state.bookings.docs, d ≠ e → d.tableID = e.tableID →
      d.status ≠ .cancelled → e.status ≠ .cancelled →
      Disjoint (Set.Ico d.checkInTime d.checkOutTime) (Set.Ico e.checkInTime e.checkOutTime) := by
  have hnone : anyFault none := trivial
  obtain ⟨g, hinv, -⟩ := requests_sound hnone hidle h
  have hstore : c.state.bookings.NoDoubleBooking := by
    refine hinv.run.preserves (fun _ _ _ _ hs hc => hs.noDoubleBooking hc) ?_
    rw [hempty]
    exact BookingCollection.noDoubleBooking_empty
  intro d hd e he hne ht hdc hec
  exact hstore.disjoint hd he hne ht (by simpa [BookingDoc.live] using hdc)
    (by simpa [BookingDoc.live] using hec)

/-- Nine o'clock UTC on the first of January 2030, as the clock of a run on fixed inputs. -/
def nine (n : Nat) : Env := ⟨1893488400000000000, .ofNat n, none, 0⟩

/-- A booking of table 1 for an hour of that day. -/
def hourFrom (start stop : String) : CreateBookingInput where
  tableID := 1
  bookerName := "Ann"
  bookerMobile := "0"
  checkInTime := "2030-01-01T" ++ start ++ ":00:00Z"
  checkOutTime := "2030-01-01T" ++ stop ++ ":00:00Z"
  amount := 0
  isPaid := false

/-- Two creations race for adjoining hours: the second waits for the mutex, and both succeed. -/
theorem no_double_booking_adjoining : ∃ c : Config Res Nat World (Option Reply),
    c.state.bookings.docs.length = 2 ∧ ∀ d ∈ c.state.bookings.docs, ∀ e ∈ c.state.bookings.docs,
      d ≠ e → d.tableID = e.tableID → d.status ≠ .cancelled → e.status ≠ .cancelled →
      Disjoint (Set.Ico d.checkInTime d.checkOutTime) (Set.Ico e.checkInTime e.checkOutTime) := by
  let reqs : List Request :=
    [.create (hourFrom "10" "11") "ann" "staff", .create (hourFrom "11" "12") "bob" "staff"]
  let schedule : List (Nat × Env) :=
    List.replicate 3 (1, nine 2) ++ List.replicate 16 (0, nine 1) ++ List.replicate 13 (1, nine 2)
  have hrun : ((startRequests reqs (World.start .empty none 0)).exec perform (fun _ _ _ _ => true)
      schedule).map
      (fun c => c.state.bookings.docs.length) = some 2 := by decide +kernel
  obtain ⟨c, hc, hlen⟩ := Option.map_eq_some_iff.1 hrun
  refine ⟨c, hlen, no_double_booking reqs (idle_start .empty none 0) rfl ?_⟩
  exact Config.reaches_of_exec_any (fun p _ i o s r s' h => ⟨p.2, trivial, h⟩) hc

/-! ## Serialisability -/

/-- A request other than a creation. -/
def Request.modifies : Request → Bool
  | .create .. => false
  | .update .. | .cancel _ => true

/-- The sequential steps of a timeline are runs of the threads, one at a time. -/
theorem SpecRun.serial {faults : Option String → Prop} {reqs : List Request} {w₀ : World}
    (hnone : faults none) (hidle : Idle w₀) (hreqs : ∀ req ∈ reqs, req.modifies) {g : Timeline}
    {c : BookingCollection} (h : SpecRun faults reqs w₀.bookings g c) :
    ∃ w, Serial (sem (faulty faults)) (thread reqs) (g.map fun e => (e.1, some e.2)) w₀ w ∧
      w.bookings = c ∧ Idle w := by
  induction h with
  | nil => exact ⟨w₀, .nil w₀, rfl, hidle⟩
  | @snoc g c c' i req r _ _ hi hr ih =>
    obtain ⟨w, hserial, rfl, hw⟩ := ih
    have hrun : ∃ w', Prog.Runs (sem (faulty faults)) i req.program w r w' ∧
        w'.bookings = c' ∧ Idle w' := by
      cases req with
      | create => exact absurd (hreqs _ (List.mem_of_getElem? hi)) (by simp [Request.modifies])
      | update id dto => exact exists_runs_update hnone hw hr
      | cancel id => exact exists_runs_cancel hnone hw hr
    obtain ⟨w', hrun, hc, hw'⟩ := hrun
    refine ⟨w', ?_, hc, hw'⟩
    rw [List.map_append]
    refine .snoc hserial ?_
    rw [thread, hi]
    exact Prog.runs_bind.2 ⟨r, w', hrun, .ret _ _⟩

/-- When every thread has returned, the timeline lists each of them once. -/
theorem SpecRun.threads_perm {faults : Option String → Prop} {reqs : List Request}
    {c₀ c : BookingCollection} {g : Timeline} (h : SpecRun faults reqs c₀ g c)
    (hall : ∀ i < reqs.length, g.entries i ≠ []) :
    (g.map Prod.fst).Perm (List.range reqs.length) := by
  have hg : (g.map Prod.fst).Nodup ∧ ∀ i ∈ g.map Prod.fst, i < reqs.length := by
    clear hall
    induction h with
    | nil => simp
    | @snoc g c c' i req r _ hnew hi _ ih =>
      rw [List.map_append, List.nodup_append]
      have hfresh : i ∉ g.map Prod.fst := by
        rintro hmem
        obtain ⟨e, he, rfl⟩ := List.mem_map.1 hmem
        have hin : e ∈ g.entries e.1 := by simp [Timeline.entries, he]
        rw [hnew] at hin
        cases hin
      refine ⟨⟨ih.1, by simp, ?_⟩, ?_⟩
      · rintro a ha b hb rfl
        simp only [List.map_cons, List.map_nil, List.mem_singleton] at hb
        exact hfresh (hb ▸ ha)
      · intro j hj
        rcases List.mem_append.1 hj with hj | hj
        · exact ih.2 j hj
        · simp only [List.map_cons, List.map_nil, List.mem_singleton] at hj
          subst hj
          exact (List.getElem?_eq_some_iff.1 hi).1
  rw [List.perm_ext_iff_of_nodup hg.1 List.nodup_range]
  intro i
  rw [List.mem_range]
  refine ⟨hg.2 i, fun hi => ?_⟩
  obtain ⟨e, he⟩ := List.exists_mem_of_ne_nil _ (hall i hi)
  simp only [Timeline.entries, List.mem_filter, decide_eq_true_eq] at he
  exact List.mem_map.2 ⟨e, he.1, he.2⟩

/-- Any interleaving of updates and cancellations, when all of them have answered, has the store and
the replies of running them one at a time in some order; and a cancelled record is never changed. -/
theorem modifications_serializable (reqs : List Request) {w₀ : World}
    {c : Config Res Nat World (Option Reply)} (hreqs : ∀ req ∈ reqs, req.modifies)
    (hidle : Idle w₀)
    (h : Reaches (sem (faulty noFault)) anyStep (startRequests reqs w₀) c) :
    ((∀ i < reqs.length, ∃ a, c.threads i = .ret a) →
      ∃ (order : List (Nat × Option Reply)) (w : World),
        (order.map Prod.fst).Perm (List.range reqs.length) ∧
        Serial (sem (faulty noFault)) (thread reqs) order w₀ w ∧
        w.bookings = c.state.bookings ∧ ∀ p ∈ order, c.threads p.1 = .ret p.2) ∧
    ∀ c', Reaches (sem (faulty noFault)) anyStep c c' →
      ∀ d ∈ c.state.bookings.docs, d.status = .cancelled → d ∈ c'.state.bookings.docs := by
  have hnone : noFault none := rfl
  obtain ⟨g, hinv, hsafe⟩ := requests_sound hnone hidle h
  have hrecorded : ∀ i < reqs.length, ∀ a, c.threads i = .ret a →
      ∃ r, a = some r ∧ Recorded i r g := by
    intro i hi a ha
    have hres := hsafe i
    rw [ha] at hres
    have hans := hres.result hinv
    rw [Answered, List.getElem?_eq_getElem hi] at hans
    exact hans
  refine ⟨fun hdone => ?_, fun c' h' d hd hcancelled => ?_⟩
  · obtain ⟨w, hserial, hw, -⟩ := hinv.run.serial hnone hidle hreqs
    have hall : ∀ i < reqs.length, g.entries i ≠ [] := by
      intro i hi
      obtain ⟨a, ha⟩ := hdone i hi
      obtain ⟨r, -, hr⟩ := hrecorded i hi a ha
      rw [hr]
      simp
    have hperm := hinv.run.threads_perm hall
    refine ⟨_, w, ?_, hserial, hw, fun p hp => ?_⟩
    · rw [List.map_map]
      exact hperm
    · obtain ⟨e, he, rfl⟩ := List.mem_map.1 hp
      have hi : e.1 < reqs.length := by
        have := (hperm.mem_iff (a := e.1)).1 (List.mem_map.2 ⟨e, he, rfl⟩)
        simpa using this
      obtain ⟨a, ha⟩ := hdone e.1 hi
      obtain ⟨r, rfl, hr⟩ := hrecorded e.1 hi a ha
      have hmem : e ∈ g.entries e.1 := by simp [Timeline.entries, he]
      rw [hr, List.mem_singleton] at hmem
      rw [ha, hmem]
  · -- the thread with the first free number serves nothing and sees all the others do
    have hnil : c.threads reqs.length = .ret none :=
      Reaches.returned h (by simp [startRequests, thread])
    obtain ⟨g', hrely⟩ := Contract.observe
      (C := bookingContract noFault reqs w₀.bookings) hinv hsafe hnil h'
    exact hrely.frozen d hd hcancelled

/-- An update reads a booking that a cancellation then overtakes: the update must answer 404, as it
does when it runs second. -/
theorem modifications_serializable_overtaken : ∃ c : Config Res Nat World (Option Reply),
    c.threads 0 = .ret (some (.error notFound)) ∧
    c.state.bookings.docs = [tenToEleven .cancelled] ∧
    ∃ (order : List (Nat × Option Reply)) (w : World), (order.map Prod.fst).Perm [0, 1] ∧
      w.bookings = c.state.bookings ∧ ∀ p ∈ order, c.threads p.1 = .ret p.2 := by
  let reqs : List Request := [.update (ObjectID.ofNat 7).hex ⟨some "Bob", none, "", "", none, none⟩,
    .cancel (ObjectID.ofNat 7).hex]
  let w₀ : World := World.start ⟨[tenToEleven .active], nodup_tenToEleven _⟩ none 0
  let schedule : List (Nat × Env) :=
    List.replicate 1 (0, nine 0) ++ List.replicate 16 (1, nine 0) ++ List.replicate 6 (0, nine 0)
  have hrun : ((startRequests reqs w₀).exec perform (fun _ _ _ _ => true) schedule).map
      (fun c => (c.result 0, (c.result 1).isSome, c.state.bookings.docs)) =
      some (some (some (.error notFound)), true, [tenToEleven .cancelled]) := by decide +kernel
  obtain ⟨c, hc, hend⟩ := Option.map_eq_some_iff.1 hrun
  simp only [Prod.mk.injEq] at hend
  obtain ⟨h₀, h₁, hdocs⟩ := hend
  obtain ⟨a, h₁⟩ := Option.isSome_iff_exists.1 h₁
  have hreach : Reaches (sem (faulty noFault)) anyStep (startRequests reqs w₀) c := by
    have henv : ∀ p ∈ schedule, p.2.fault = none := by decide
    exact Config.reaches_of_exec_any (fun p hp i o s r s' h => ⟨p.2, henv p hp, h⟩) hc
  have hdone : ∀ i < reqs.length, ∃ a, c.threads i = .ret a := by
    intro i hi
    match i, hi with
    | 0, _ => exact ⟨_, Config.threads_of_result h₀⟩
    | 1, _ => exact ⟨a, Config.threads_of_result h₁⟩
  obtain ⟨order, w, hperm, -, hw, hret⟩ :=
    (modifications_serializable reqs (by decide) (idle_start _ none 0) hreach).1 hdone
  exact ⟨c, Config.threads_of_result h₀, hdocs, order, w, hperm, hw, hret⟩

end GbcVenue
