import GbcVenue.Backend.Frame
import GbcVenue.Interleaving.Guarded

/-!
# Snapshots on their way to the hub

A mutating method of the cache changes it under the lock, and then takes a snapshot and sends it
without the lock; a full channel drops the snapshot. The hub receives from the channel meanwhile.
`hub_ends_current`: whenever every call that has begun has returned and the channel is drained, the hub
has the final state, if each send that no other is to follow is of the snapshot taken last and finds room.
`last_snapshot_can_be_stale` is a run in which a slower call sends an older snapshot after a newer one.
-/

namespace GbcVenue

open Interleaving

/-- The program of thread `i` when the calls run concurrently. -/
def writeThread (calls : List CacheWrite) (i : Nat) : Go Unit :=
  match calls[i]? with
  | some c => TableCache.write c
  | none => return

/-- The moment at which all the calls start. -/
def startWrites (calls : List CacheWrite) (w : World) : Config Res Nat World Unit :=
  ⟨w, writeThread calls⟩

/-- The calls, the snapshots that the hub has received, and the call that took its snapshot last, which
no code reads. -/
structure Broadcasting where
  config : Config Res Nat World Unit
  received : List (List TableState)
  lastTaker : Option Nat

namespace Broadcasting

/-- A call takes its next step, or the hub receives from the channel. -/
inductive Action
  | call (i : Nat) (e : Env)
  | receive

def start (calls : List CacheWrite) (w : World) : Broadcasting := ⟨startWrites calls w, [], none⟩

/-- What is in the channel. -/
def queue (b : Broadcasting) : List (List TableState) := b.config.state.broadcastChan.buf

/-- `GetAll()`. -/
def current (b : Broadcasting) : List TableState := b.config.state.tables.getAll

/-- The snapshot that the hub has or will have last; `initial` if there was none. -/
def last (b : Broadcasting) (initial : List TableState) : List TableState :=
  (b.received ++ b.queue).getLast?.getD initial

/-- The hub takes a snapshot from the channel. -/
def take (b : Broadcasting) (snapshot : List TableState) (rest : List (List TableState)) :
    Broadcasting := { b with
  config := { b.config with
    state := { b.config.state with
      broadcastChan := { b.config.state.broadcastChan with buf := rest } } }
  received := b.received ++ [snapshot] }

/-- Call `i` has performed `o` and goes on with `p`. -/
def goOn (b : Broadcasting) (i : Nat) (o : Op) (w : World) (p : Go Unit) : Broadcasting := { b with
  config := ⟨w, Function.update b.config.threads i p⟩
  lastTaker := match o with
    | .getAll => some i
    | _ => b.lastTaker }

def step (b : Broadcasting) : Action → Option Broadcasting
  | .call i e => match b.config.threads i with
    | .ret _ => none
    | .act o k => (perform i e o b.config.state).map fun x => b.goOn i o x.2 (k x.1)
  | .receive => match b.queue with
    | [] => none
    | snapshot :: rest => some (b.take snapshot rest)

/-- Runs from `b` whose steps are of the kind `ok`. -/
def Reaches (ok : Broadcasting → Action → Prop) : Broadcasting → Broadcasting → Prop :=
  GuardedReaches step ok

end Broadcasting

/-- The points at which a call can be: before its critical section, before its snapshot, before its
send, and at its end. -/
inductive WriteStage : Go Unit → Prop
  | begun {c : CacheWrite} (h : ∀ t b, c ≠ .hydrateTable t b) :
      WriteStage (.act (Op.write c) fun broadcasts => Prog.when broadcasts TableCache.broadcast)
  | written : WriteStage TableCache.broadcast
  | holding (snapshot : List TableState) : WriteStage (.act (Op.sendBroadcast snapshot) .ret)
  | returned : WriteStage (.ret ())

/-- A call with its snapshot still to send. -/
def sends : Go Unit → Bool
  | .act .getAll _ => true
  | .act (.sendBroadcast _) _ => true
  | _ => false

/-- If no other call has its snapshot still to send, then the call that sends took its snapshot last
and finds room in the channel. -/
def InOrder (calls : List CacheWrite) (b : Broadcasting) : Broadcasting.Action → Prop
  | .call i _ => match b.config.threads i with
    | .act (.sendBroadcast _) _ =>
      (∀ j < calls.length, j ≠ i → sends (b.config.threads j) = false) →
        b.lastTaker = some i ∧ b.queue.length < b.config.state.broadcastChan.cap
    | _ => True
  | .receive => True

/-! ## The critical sections -/

theorem Tables.getAll_congr {ts ts' : Tables} (h : ∀ t, 1 ≤ t → t ≤ 4 → ts'.get t = ts.get t) :
    ts'.getAll = ts.getAll := by
  simp only [getAll, h 1 (by decide) (by decide), h 2 (by decide) (by decide),
    h 3 (by decide) (by decide), h 4 (by decide) (by decide)]

theorem Tables.any_getAll {ts : Tables} {f : TableState → Bool} :
    ts.getAll.any f = false ↔ ∀ t, 1 ≤ t → t ≤ 4 → f (ts.get t) = false := by
  simp only [getAll, List.any_cons, List.any_nil, Bool.or_false, Bool.or_eq_false_iff]
  constructor
  · rintro ⟨h₁, h₂, h₃, h₄⟩ t ht₁ ht₂
    obtain rfl | rfl | rfl | rfl : t = 1 ∨ t = 2 ∨ t = 3 ∨ t = 4 := by omega
    · exact h₁
    · exact h₂
    · exact h₃
    · exact h₄
  · intro h
    exact ⟨h 1 (by decide) (by decide), h 2 (by decide) (by decide), h 3 (by decide) (by decide),
      h 4 (by decide) (by decide)⟩

/-- A call that does not broadcast has changed nothing of what `GetAll` answers. -/
theorem getAll_of_silent {c : CacheWrite} (hc : ∀ t b, c ≠ .hydrateTable t b) {ts : Tables}
    (h : (c.apply ts).2 = false) : (c.apply ts).1.getAll = ts.getAll := by
  cases c with
  | hydrateTable t b => exact absurd rfl (hc t b)
  | confirmLightStatus t state =>
    simp only [CacheWrite.apply, Tables.confirmLightStatus] at h ⊢
    split at h
    · cases h
    · rename_i hsame
      rw [if_neg hsame]
  | confirmAllLightStatuses state =>
    simp only [CacheWrite.apply, Tables.confirmAllLightStatuses] at h ⊢
    refine Tables.getAll_congr fun t ht₁ ht₂ => ?_
    have hsame := Tables.any_getAll.1 h t ht₁ ht₂
    simp only [decide_eq_false_iff_not] at hsame
    rw [Tables.get, if_neg fun hlight => hsame hlight.2.2, Tables.get]
  | confirmFullSync =>
    simp only [CacheWrite.apply] at h ⊢
    refine Tables.getAll_congr fun t ht₁ ht₂ => ?_
    have hsame := Tables.any_getAll.1 h t ht₁ ht₂
    rw [decide_eq_false_iff_not, not_or, Tables.get] at hsame
    simp only [Tables.get, Tables.confirmFullSync]
    cases hts : ts t with
    | none => rfl
    | some st =>
      rw [hts, Option.getD_some] at hsame
      have hsettle : Tables.settle st.lightStatus = st.lightStatus := by
        cases hlight : st.lightStatus <;> simp_all [Tables.settle]
      rw [Option.map_some, Option.getD_some, Option.getD_some, hsettle]
  | updateCurrentBooking t b =>
    simp only [CacheWrite.apply, Tables.updateCurrentBooking] at h ⊢
    rw [if_neg fun hsome => by rw [h] at hsome; exact absurd hsome.1 (by decide)]
  | _ => cases h

/-! ## One step -/

/-- Every call is at one of its points, and the last snapshot is the current one or some call is to
send one; what the call holds that took its snapshot last is the current one or some call is to take
another. -/
structure Converging (initial : List TableState) (b : Broadcasting) : Prop where
  stages : ∀ i, WriteStage (b.config.threads i)
  current : b.last initial = b.current ∨ ∃ j, sends (b.config.threads j)
  taken : ∀ i snapshot, b.lastTaker = some i →
    b.config.threads i = .act (Op.sendBroadcast snapshot) .ret →
      snapshot = b.current ∨ ∃ j, b.config.threads j = TableCache.broadcast

section

variable {initial : List TableState} {b b' : Broadcasting} {calls : List CacheWrite} {i : Nat}

theorem Broadcasting.last_take {snapshot : List TableState} {rest : List (List TableState)}
    (h : b.queue = snapshot :: rest) : (b.take snapshot rest).last initial = b.last initial := by
  simp only [last, h]
  simp [take, queue]

theorem stages_update {threads : Nat → Go Unit} (h : ∀ j, WriteStage (threads j)) {p : Go Unit}
    (hp : WriteStage p) (j : Nat) : WriteStage (Function.update threads i p j) := by
  by_cases hj : j = i
  · rw [hj, Function.update_self]
    exact hp
  · rw [Function.update_of_ne hj]
    exact h j

/-- What another call is about to do it is about to do after the step. -/
theorem exists_update {P : Go Unit → Prop} {threads : Nat → Go Unit} {p : Go Unit}
    (h : ∃ j, P (threads j)) (hi : ¬ P (threads i)) : ∃ j, P (Function.update threads i p j) := by
  obtain ⟨j, hj⟩ := h
  refine ⟨j, ?_⟩
  rw [Function.update_of_ne]
  · exact hj
  · rintro rfl
    exact hi hj

/-- A call that returns is not the one that holds the snapshot that was taken last. -/
theorem Converging.taken_of_returned (h : Converging initial b)
    (hi : b.config.threads i ≠ TableCache.broadcast) {j : Nat} {snapshot : List TableState}
    (hj : b.lastTaker = some j)
    (hthread : Function.update b.config.threads i (.ret ()) j =
      .act (Op.sendBroadcast snapshot) .ret) :
    snapshot = b.current ∨
      ∃ k, Function.update b.config.threads i (.ret ()) k = TableCache.broadcast := by
  by_cases hji : j = i
  · rw [hji, Function.update_self] at hthread
    cases hthread
  · rw [Function.update_of_ne hji] at hthread
    exact (h.taken j snapshot hj hthread).imp_right fun hex =>
      exists_update (P := fun q => q = TableCache.broadcast) hex hi

theorem Converging.write (h : Converging initial b) {c : CacheWrite}
    (hc : ∀ t bk, c ≠ .hydrateTable t bk) {k : Bool → Go Unit}
    (hi : b.config.threads i = .act (Op.write c) k) :
    Converging initial (b.goOn i (Op.write c)
      { b.config.state with tables := (c.apply b.config.state.tables).1 }
      (Prog.when (c.apply b.config.state.tables).2 TableCache.broadcast)) := by
  cases hbroadcasts : (c.apply b.config.state.tables).2 with
  | true =>
    have hself : Function.update b.config.threads i TableCache.broadcast i = TableCache.broadcast :=
      Function.update_self ..
    exact ⟨stages_update h.stages .written, .inr ⟨i, by exact congrArg sends hself⟩,
      fun _ _ _ _ => .inr ⟨i, hself⟩⟩
  | false =>
    have hsame := getAll_of_silent hc hbroadcasts
    have hcurrent : (b.goOn i (Op.write c)
        { b.config.state with tables := (c.apply b.config.state.tables).1 } (.ret ())).current =
        b.current := hsame
    refine ⟨stages_update h.stages .returned, ?_, ?_⟩
    · refine h.current.imp (fun hlast => hlast.trans hcurrent.symm) fun hex => ?_
      exact exists_update (P := fun q => sends q) hex (by rw [hi]; exact Bool.false_ne_true)
    · intro j snapshot hj hthread
      rw [Prog.when_false] at hthread ⊢
      rw [hcurrent]
      exact h.taken_of_returned (by rw [hi]; nofun) hj hthread

theorem Converging.snapshot (h : Converging initial b) (i : Nat) :
    Converging initial (b.goOn i Op.getAll b.config.state
      (.act (Op.sendBroadcast b.current) .ret)) := by
  have hself : Function.update b.config.threads i (.act (Op.sendBroadcast b.current) .ret) i =
      .act (Op.sendBroadcast b.current) .ret := Function.update_self ..
  refine ⟨stages_update h.stages (.holding _), .inr ⟨i, by exact congrArg sends hself⟩, ?_⟩
  intro j snapshot hj hthread
  cases hj
  cases hthread.symm.trans hself
  exact .inl rfl

theorem Converging.send (h : Converging initial b) {snapshot : List TableState}
    (hi : b.config.threads i = .act (Op.sendBroadcast snapshot) .ret)
    (hok : (∀ j, j ≠ i → sends (b.config.threads j) = false) →
      b.lastTaker = some i ∧ b.queue.length < b.config.state.broadcastChan.cap) :
    Converging initial (b.goOn i (Op.sendBroadcast snapshot)
      { b.config.state with broadcastChan := b.config.state.broadcastChan.trySend snapshot }
      (.ret ())) := by
  refine ⟨stages_update h.stages .returned, ?_, ?_⟩
  · by_cases hmore : ∃ j, j ≠ i ∧ sends (b.config.threads j)
    · obtain ⟨j, hj, hsends⟩ := hmore
      refine .inr ⟨j, ?_⟩
      have hthread := Function.update_of_ne hj (.ret ()) b.config.threads
      exact (congrArg sends hthread).trans hsends
    · have hnone : ∀ j, j ≠ i → sends (b.config.threads j) = false :=
        fun j hj => Bool.eq_false_iff.2 fun hsends => hmore ⟨j, hj, hsends⟩
      obtain ⟨hlast, hroom⟩ := hok hnone
      -- nobody is to take another snapshot, so the one that was taken last is the current one
      have hcurrent : snapshot = b.current := by
        refine (h.taken i snapshot hlast hi).resolve_right ?_
        rintro ⟨j, hj⟩
        by_cases hji : j = i
        · rw [hji, hi] at hj
          cases hj
        · have hsends := hnone j hji
          rw [hj] at hsends
          cases hsends
      left
      rw [hcurrent]
      have hqueue : (b.goOn i (Op.sendBroadcast b.current)
          { b.config.state with
            broadcastChan := b.config.state.broadcastChan.trySend b.current } (.ret ())).queue =
          b.queue ++ [b.current] := by
        change (b.config.state.broadcastChan.trySend b.current).buf = _
        exact congrArg Chan.buf (if_pos hroom)
      rw [Broadcasting.last, hqueue]
      simp [Broadcasting.goOn, Broadcasting.current]
  · intro j snapshot' hj hthread
    exact h.taken_of_returned (by rw [hi]; nofun) hj hthread

/-- Threads beyond the calls have nothing to do. -/
def Within (calls : List CacheWrite) (b : Broadcasting) : Prop :=
  ∀ i, calls.length ≤ i → b.config.threads i = .ret ()

theorem Converging.step {a : Broadcasting.Action} (h : Converging initial b) (hw : Within calls b)
    (hok : InOrder calls b a) (hstep : b.step a = some b') :
    Converging initial b' ∧ Within calls b' := by
  cases a with
  | receive =>
    simp only [Broadcasting.step] at hstep
    split at hstep
    · cases hstep
    · rename_i snapshot rest hqueue
      cases hstep
      refine ⟨⟨h.stages, ?_, h.taken⟩, hw⟩
      rw [Broadcasting.last_take hqueue]
      exact h.current
  | call i e =>
    simp only [Broadcasting.step] at hstep
    split at hstep
    · cases hstep
    · rename_i o k hi
      obtain ⟨⟨r, w⟩, hperf, rfl⟩ := Option.map_eq_some_iff.1 hstep
      constructor
      · have hstage := h.stages i
        rw [hi] at hstage
        cases hstage with
        | begun hc =>
          obtain ⟨rfl, rfl⟩ := perform_write hperf
          exact h.write hc hi
        | written =>
          cases hperf
          exact h.snapshot i
        | holding snapshot =>
          cases hperf
          rw [InOrder, hi] at hok
          refine h.send hi fun hnone => hok fun j _ hj => hnone j hj
      · intro j hj
        have hne : j ≠ i := by
          rintro rfl
          rw [hw j hj] at hi
          cases hi
        exact (Function.update_of_ne hne _ _).trans (hw j hj)

end

/-! ## Runs -/

theorem writeStage_writeThread {calls : List CacheWrite}
    (hcalls : ∀ c ∈ calls, ∀ t b, c ≠ .hydrateTable t b) (i : Nat) :
    WriteStage (writeThread calls i) := by
  unfold writeThread
  cases hc : calls[i]? with
  | none => exact .returned
  | some c => exact .begun (hcalls c (List.mem_of_getElem? hc))

theorem sends_writeThread (calls : List CacheWrite) (i : Nat) :
    sends (writeThread calls i) = false := by
  unfold writeThread
  split <;> rfl

/-- In every run in which each send that no other is to follow is of the snapshot taken last and finds
room: whenever the calls that have begun have returned and the channel is drained, the hub has the
current state. -/
theorem hub_ends_current {calls : List CacheWrite}
    (hcalls : ∀ c ∈ calls, ∀ t b, c ≠ .hydrateTable t b) {w₀ : World}
    (hempty : w₀.broadcastChan.buf = []) {b : Broadcasting}
    (hrun : Broadcasting.Reaches (InOrder calls) (.start calls w₀) b)
    (hdone : ∀ i < calls.length,
      b.config.threads i = writeThread calls i ∨ b.config.threads i = .ret ())
    (hdrained : b.queue = []) : b.received.getLast?.getD w₀.tables.getAll = b.current := by
  have hinv : Converging w₀.tables.getAll b ∧ Within calls b := by
    refine GuardedReaches.invariant
      (I := fun b => Converging w₀.tables.getAll b ∧ Within calls b) hrun ?_
      fun _ _ _ h hok hstep => h.1.step h.2 hok hstep
    refine ⟨⟨writeStage_writeThread hcalls, .inl ?_, nofun⟩, fun i hi => ?_⟩
    · simp [Broadcasting.last, Broadcasting.queue, Broadcasting.current, Broadcasting.start,
        startWrites, hempty]
    · simp [Broadcasting.start, startWrites, writeThread, hi]
  rcases hinv.1.current with hlast | ⟨j, hj⟩
  · rwa [Broadcasting.last, hdrained, List.append_nil] at hlast
  · have hquiet : sends (b.config.threads j) = false := by
      by_cases hlt : j < calls.length
      · rcases hdone j hlt with hthread | hthread
        · rw [hthread, sends_writeThread]
        · rw [hthread]
          rfl
      · rw [hinv.2 j (Nat.le_of_not_lt hlt)]
        rfl
    rw [hquiet] at hj
    cases hj

/-! ## Runs on fixed inputs -/

/-- Manual overrides of table 1, one for each state asked for. -/
def overrides (states : List LightStatus) : List CacheWrite := states.map (.setLightStatus 1)

/-- Steps of the calls, by their numbers. -/
def schedule (calls : List Nat) : List Broadcasting.Action :=
  calls.map fun i => .call i ⟨0, .zero, none, 0⟩

theorem overrides_mutate (states : List LightStatus) :
    ∀ c ∈ overrides states, ∀ t b, c ≠ .hydrateTable t b := by
  intro c hc t b hcb
  rw [overrides, List.mem_map] at hc
  obtain ⟨_, _, rfl⟩ := hc
  cases hcb

instance (calls : List CacheWrite) (b : Broadcasting) (a : Broadcasting.Action) :
    Decidable (InOrder calls b a) := by
  unfold InOrder
  split
  · split <;> infer_instance
  · infer_instance

/-- Two overrides whose steps alternate. -/
theorem hub_ends_current_in_turn : ∃ b : Broadcasting, b.received.length = 2 ∧ b.queue = [] ∧
    b.received.getLast?.getD Tables.new.getAll = b.current := by
  let w₀ := World.start .empty none 0
  have hrun : (runIf Broadcasting.step (InOrder (overrides [.on, .off]))
      (schedule [0, 1, 0, 1, 0, 1] ++ [.receive, .receive])
      (.start (overrides [.on, .off]) w₀)).map
      (fun b => (b.received.length, b.queue.length, b.config.result 0, b.config.result 1)) =
        some (2, 0, some (), some ()) := by decide +kernel
  obtain ⟨b, hb, hend⟩ := Option.map_eq_some_iff.1 hrun
  simp only [Prod.mk.injEq] at hend
  obtain ⟨hlength, hdrained, h₀, h₁⟩ := hend
  have hempty : b.queue = [] := List.length_eq_zero_iff.1 hdrained
  refine ⟨b, hlength, hempty, ?_⟩
  exact hub_ends_current (overrides_mutate [.on, .off]) rfl (reaches_of_runIf hb)
    (fun i hi => .inr (Config.threads_of_two h₀ h₁ i hi)) hempty

/-- The call that switches on is slower: it takes its snapshot first and sends it last. -/
theorem last_snapshot_can_be_stale :
    ¬ ∀ (calls : List CacheWrite), (∀ c ∈ calls, ∀ t b, c ≠ .hydrateTable t b) →
      ∀ (w₀ : World), w₀.broadcastChan = ⟨16, []⟩ → ∀ b : Broadcasting,
      Broadcasting.Reaches (fun _ _ => True) (.start calls w₀) b →
      (∀ i < calls.length, b.config.threads i = .ret ()) → b.queue = [] →
      b.received.getLast?.getD w₀.tables.getAll = b.current := by
  intro hclaim
  let w₀ := World.start .empty none 0
  have hrun : (runIf Broadcasting.step (fun _ _ => True)
      (schedule [0, 0, 1, 1, 1, 0] ++ [.receive, .receive])
      (.start (overrides [.on, .off]) w₀)).map
      (fun b => (b.queue.length, b.config.result 0, b.config.result 1,
        (b.received.getLast?.getD w₀.tables.getAll).map TableState.lightStatus,
        b.current.map TableState.lightStatus)) =
      some (0, some (), some (), [.pendingOn, .pendingOff, .pendingOff, .pendingOff],
        [.pendingOff, .pendingOff, .pendingOff, .pendingOff]) := by decide +kernel
  obtain ⟨b, hb, hend⟩ := Option.map_eq_some_iff.1 hrun
  simp only [Prod.mk.injEq] at hend
  obtain ⟨hdrained, h₀, h₁, hlast, hcurrent⟩ := hend
  have hfinal := hclaim (overrides [.on, .off]) (overrides_mutate [.on, .off]) w₀ rfl b
    (reaches_of_runIf hb) (Config.threads_of_two h₀ h₁)
    (List.length_eq_zero_iff.1 hdrained)
  rw [hfinal, hcurrent] at hlast
  exact absurd hlast (by decide)

end GbcVenue
