import GbcVenue.Scheduler.Timers

/-!
# The stages of setting a timer

The scheduler sets a timer in three steps, clearing the key, arming and recording, and a fired timer takes
its record away before anything else. `Staged` is what holds of the timers and of the goroutines that are
between such steps, as long as a goroutine starts to set a timer only where no other is in the middle of
setting or of taking away one of the same key. Every step keeps it.
-/

namespace GbcVenue

open Interleaving BookingService Scheduler

/-- Where a goroutine stands: in `set*Timer` after its `clearTimer`, there after `time.AfterFunc`, or at the
start of a callback whose timer has fired (`scheduler.go:109-145`, `scheduler.go:151-153`). -/
inductive Stage
  | free
  | arming (key : TimerKey)
  | recording (key : TimerKey) (n : Nat)
  | deleting (key : TimerKey)
deriving DecidableEq

/-- The goroutine is setting a timer of the key. -/
def Stage.sets (key : TimerKey) : Stage → Prop
  | .arming key' | .recording key' _ => key' = key
  | _ => False

/-- An action that sets no timer, and how it may change the timers: those armed become fewer, those
recorded too, and the record of a timer that stays armed is kept. -/
structure Fewer (v v' : Venue) : Prop where
  armed : ∀ a ∈ v'.armed, a ∈ v.armed
  timers : ∀ key n, v'.timers key = some n → v.timers key = some n
  kept : ∀ a ∈ v'.armed, v.timers a.key = some a.id → v'.timers a.key = some a.id
  nextTimer : v'.nextTimer = v.nextTimer

/-- One step of a goroutine on the timers, from stage to stage. -/
inductive TimerStep (v : Venue) : Stage → Venue → Stage → Prop
  | fewer {v' : Venue} (h : Fewer v v') : TimerStep v .free v' .free
  | clear (key : TimerKey) : TimerStep v .free (v.clearTimer key) (.arming key)
  | arm {key : TimerKey} (deadline : Int) (id : String) :
      TimerStep v (.arming key) (v.afterFunc deadline key id) (.recording key v.nextTimer)
  | record {key : TimerKey} {n : Nat} : TimerStep v (.recording key n)
      { v with timers := Function.update v.timers key (some n) } .free
  | fire {a : ArmedTimer} (ha : a ∈ v.armed) : TimerStep v .free
      { v with armed := v.armed.filter fun b => b.id ≠ a.id } (.deleting a.key)
  | delete {key : TimerKey} : TimerStep v (.deleting key) (v.deleteTimer key) .free

/-- The timers and where the goroutines stand. An armed timer is recorded or about to be, it is the only
one of its key, one goroutine at most is setting a timer of a key, none of the key is armed where it arms
one, and what a callback deletes is no record of an armed timer. -/
structure Staged (v : Venue) (stage : Nat → Stage) : Prop where
  wellArmed : WellArmed v
  stored : ∀ a ∈ v.armed, v.timers a.key = some a.id ∨ ∃ i, stage i = .recording a.key a.id
  alone : ∀ a ∈ v.armed, ∀ b ∈ v.armed, a.key = b.key → a = b
  exclusive : ∀ i j key, (stage i).sets key → (stage j).sets key → i = j
  arming : ∀ i key, stage i = .arming key → (∀ a ∈ v.armed, a.key ≠ key) ∧ ∀ j, stage j ≠ .deleting key
  recording : ∀ i key n, stage i = .recording key n → n < v.nextTimer ∧ ∀ a ∈ v.armed,
    (a.id = n → a.key = key) ∧ (a.key = key → a.id = n ∧ ∀ j, stage j ≠ .deleting key)
  deleting : ∀ i key, stage i = .deleting key → ∀ a ∈ v.armed, v.timers key ≠ some a.id

/-! ## Fewer timers -/

theorem fewer_of_timers {v v' : Venue} (htimers : v'.timers = v.timers) (harmed : v'.armed = v.armed)
    (hnext : v'.nextTimer = v.nextTimer) : Fewer v v' := by
  refine ⟨fun a ha => ?_, fun key n hn => ?_, fun a _ ha => ?_, hnext⟩
  · rwa [harmed] at ha
  · rwa [htimers] at hn
  · rwa [htimers]

theorem fewer_clearTimer (v : Venue) (key : TimerKey) : Fewer v (v.clearTimer key) := by
  cases hn : v.timers key with
  | none =>
    have hv : v.clearTimer key = v := by simp [Venue.clearTimer, hn]
    rw [hv]
    exact fewer_of_timers rfl rfl rfl
  | some n =>
    have hv : v.clearTimer key = { v with
        timers := Function.update v.timers key none
        armed := v.armed.filter fun t => t.id ≠ n } := by simp [Venue.clearTimer, hn]
    rw [hv]
    refine ⟨fun a ha => List.mem_of_mem_filter ha, fun k m hm => timers_update_none hm,
      fun a ha hrec => ?_, rfl⟩
    have hne : a.key ≠ key := by
      rintro rfl
      have hid := (List.mem_filter.1 ha).2
      rw [hn] at hrec
      simp [Option.some.inj hrec] at hid
    exact (Function.update_of_ne hne _ _).trans hrec

/-- `clearTimer` stops the timer that is recorded under the key. -/
theorem clearTimer_stops {v : Venue} {key : TimerKey} {a : ArmedTimer} (hrec : v.timers key = some a.id) :
    a ∉ (v.clearTimer key).armed := by
  intro ha
  simp [Venue.clearTimer, hrec] at ha

theorem fewer_deleteTimer {v : Venue} {key : TimerKey}
    (hrec : ∀ a ∈ v.armed, v.timers key ≠ some a.id) : Fewer v (v.deleteTimer key) := by
  refine ⟨fun a ha => ha, fun k m hm => timers_update_none hm, fun a ha hkey => ?_, rfl⟩
  have hne : a.key ≠ key := by
    rintro rfl
    exact hrec a ha hkey
  exact (Function.update_of_ne hne _ _).trans hkey

theorem fewer_fire (v : Venue) (n : Nat) :
    Fewer v { v with armed := v.armed.filter fun a => a.id ≠ n } :=
  ⟨fun _ ha => List.mem_of_mem_filter ha, fun _ _ hn => hn, fun _ _ hrec => hrec, rfl⟩

/-! ## The steps -/

/-- The stages after a goroutine has come to another. -/
theorem update_cases (stage : Nat → Stage) (i : Nat) (s : Stage) (j : Nat) :
    (j = i ∧ Function.update stage i s j = s) ∨ (j ≠ i ∧ Function.update stage i s j = stage j) := by
  by_cases hj : j = i
  · subst hj
    exact .inl ⟨rfl, Function.update_self _ _ _⟩
  · exact .inr ⟨hj, Function.update_of_ne hj _ _⟩

theorem update_free {stage : Nat → Stage} {i j : Nat} {s : Stage}
    (h : Function.update stage i .free j = s) (hs : s ≠ .free) : j ≠ i ∧ stage j = s := by
  rcases update_cases stage i .free j with ⟨-, hj⟩ | ⟨hji, hj⟩ <;> rw [hj] at h
  · exact absurd h.symm hs
  · exact ⟨hji, h⟩

theorem update_free_sets {stage : Nat → Stage} {i j : Nat} {key : TimerKey}
    (h : (Function.update stage i .free j).sets key) : (stage j).sets key := by
  rcases update_cases stage i .free j with ⟨-, hj⟩ | ⟨-, hj⟩ <;> rw [hj] at h
  · exact h.elim
  · exact h

namespace Staged

variable {v v' : Venue} {stage : Nat → Stage} {i : Nat} {key : TimerKey}

/-- A goroutine that sets no timer leaves fewer. -/
theorem fewer (h : Staged v stage) (hv : Fewer v v') (hi : ∀ key, ¬ (stage i).sets key) :
    Staged v' (Function.update stage i .free) := by
  refine ⟨h.wellArmed.fewer hv.armed hv.timers hv.nextTimer, fun a ha => ?_,
    fun a ha b hb => h.alone a (hv.armed a ha) b (hv.armed b hb), fun j k key hj hk => ?_,
    fun j key hj => ?_, fun j key n hj => ?_, fun j key hj a ha hrec => ?_⟩
  · refine (h.stored a (hv.armed a ha)).imp (hv.kept a ha) fun ⟨j, hj⟩ => ⟨j, ?_⟩
    have hne : j ≠ i := by
      rintro rfl
      exact hi a.key (by rw [hj]; rfl)
    rwa [Function.update_of_ne hne]
  · exact h.exclusive j k key (update_free_sets hj) (update_free_sets hk)
  · obtain ⟨hnone, hdeleting⟩ := h.arming j key (update_free hj nofun).2
    exact ⟨fun a ha => hnone a (hv.armed a ha), fun k hk => hdeleting k (update_free hk nofun).2⟩
  · obtain ⟨hn, hids⟩ := h.recording j key n (update_free hj nofun).2
    rw [hv.nextTimer]
    refine ⟨hn, fun a ha => ?_⟩
    obtain ⟨hkey, hid⟩ := hids a (hv.armed a ha)
    exact ⟨hkey, fun heq => ⟨(hid heq).1, fun k hk => (hid heq).2 k (update_free hk nofun).2⟩⟩
  · exact h.deleting j key (update_free hj nofun).2 a (hv.armed a ha) (hv.timers key a.id hrec)

/-- A callback takes the record of its key away. -/
theorem delete (h : Staged v stage) (hi : stage i = .deleting key) :
    Staged (v.deleteTimer key) (Function.update stage i .free) := by
  refine h.fewer (fewer_deleteTimer (h.deleting i key hi)) fun key' hsets => ?_
  rw [hi] at hsets
  exact hsets

/-- A goroutine that stays free leaves fewer timers. -/
theorem fewer_free (h : Staged v stage) (hv : Fewer v v') (hi : stage i = .free) : Staged v' stage := by
  have hstage : Function.update stage i .free = stage := by rw [← hi, Function.update_eq_self]
  rw [← hstage]
  refine h.fewer hv fun key hsets => ?_
  rw [hi] at hsets
  exact hsets

/-- A free goroutine comes to arm a timer of a key, or to take one away, where none of the key is armed. -/
theorem enter (h : Staged v stage) (hi : stage i = .free) (hnone : ∀ a ∈ v.armed, a.key ≠ key) {s : Stage}
    (hs : (s = .arming key ∧ ∀ j, ¬ (stage j).sets key ∧ stage j ≠ .deleting key) ∨
      (s = .deleting key ∧ ∀ j, stage j ≠ .arming key)) :
    Staged v (Function.update stage i s) := by
  have hcases := update_cases stage i s
  have hsets : ∀ key', s.sets key' → ∀ j, ¬ (stage j).sets key' := by
    rintro key' hkey j hj
    rcases hs with ⟨rfl, hothers⟩ | ⟨rfl, -⟩
    · cases (hkey : key = key')
      exact (hothers j).1 hj
    · exact hkey
  refine ⟨h.wellArmed, fun a ha => ?_, h.alone, fun j k key' hj hk => ?_, fun j key' hj => ?_,
    fun j key' n hj => ?_, fun j key' hj a ha hrec => ?_⟩
  · refine (h.stored a ha).imp_right fun ⟨j, hj⟩ => ⟨j, ?_⟩
    have hne : j ≠ i := by
      rintro rfl
      cases hi.symm.trans hj
    rwa [Function.update_of_ne hne]
  · rcases hcases j with ⟨rfl, hsj⟩ | ⟨-, hsj⟩ <;> rcases hcases k with ⟨rfl, hsk⟩ | ⟨-, hsk⟩ <;>
      rw [hsj] at hj <;> rw [hsk] at hk
    · exact absurd hk (hsets key' hj k)
    · exact absurd hj (hsets key' hk j)
    · exact h.exclusive j k key' hj hk
  · rcases hcases j with ⟨rfl, hsj⟩ | ⟨-, hsj⟩ <;> rw [hsj] at hj
    · rcases hs with ⟨rfl, hothers⟩ | ⟨rfl, -⟩
      · cases hj
        refine ⟨hnone, fun k hk => ?_⟩
        rcases hcases k with ⟨rfl, hsk⟩ | ⟨-, hsk⟩ <;> rw [hsk] at hk
        · cases hk
        · exact (hothers k).2 hk
      · cases hj
    · obtain ⟨hnone', hdeleting⟩ := h.arming j key' hj
      refine ⟨hnone', fun k hk => ?_⟩
      rcases hcases k with ⟨rfl, hsk⟩ | ⟨-, hsk⟩ <;> rw [hsk] at hk
      · rcases hs with ⟨rfl, -⟩ | ⟨rfl, harming⟩
        · cases hk
        · cases hk
          exact harming j hj
      · exact hdeleting k hk
  · rcases hcases j with ⟨rfl, hsj⟩ | ⟨-, hsj⟩ <;> rw [hsj] at hj
    · rcases hs with ⟨rfl, -⟩ | ⟨rfl, -⟩ <;> cases hj
    · obtain ⟨hn, hids⟩ := h.recording j key' n hj
      refine ⟨hn, fun a ha => ⟨(hids a ha).1, fun hkey => ⟨((hids a ha).2 hkey).1, fun k hk => ?_⟩⟩⟩
      rcases hcases k with ⟨rfl, hsk⟩ | ⟨-, hsk⟩ <;> rw [hsk] at hk
      · rcases hs with ⟨rfl, -⟩ | ⟨rfl, -⟩ <;> cases hk
        exact hnone a ha hkey
      · exact ((hids a ha).2 hkey).2 k hk
  · rcases hcases j with ⟨rfl, hsj⟩ | ⟨-, hsj⟩ <;> rw [hsj] at hj
    · rcases hs with ⟨rfl, -⟩ | ⟨rfl, -⟩ <;> cases hj
      exact hnone a ha ((h.wellArmed.recorded key a.id hrec).2 a ha rfl)
    · exact h.deleting j key' hj a ha hrec

/-- `set*Timer` clears its key where no other goroutine is setting a timer of the key or taking one away:
all timers of the key that are armed are recorded then, so none is armed after it. -/
theorem clear (h : Staged v stage) (hi : stage i = .free)
    (hothers : ∀ j, j ≠ i → ¬ (stage j).sets key ∧ stage j ≠ .deleting key) :
    Staged (v.clearTimer key) (Function.update stage i (.arming key)) := by
  have hall : ∀ j, ¬ (stage j).sets key ∧ stage j ≠ .deleting key := by
    intro j
    by_cases hj : j = i
    · subst hj
      rw [hi]
      exact ⟨id, nofun⟩
    · exact hothers j hj
  refine (h.fewer_free (fewer_clearTimer v key) hi).enter hi ?_ (.inl ⟨rfl, hall⟩)
  rintro a ha rfl
  rcases h.stored a (Venue.mem_clearTimer ha) with hrec | ⟨j, hj⟩
  · exact clearTimer_stops hrec ha
  · exact (hall j).1 (by rw [hj]; rfl)

/-- A timer fires. It was the only one of its key that was armed. -/
theorem fire (h : Staged v stage) (hi : stage i = .free) {a : ArmedTimer} (ha : a ∈ v.armed) :
    Staged { v with armed := v.armed.filter fun b => b.id ≠ a.id }
      (Function.update stage i (.deleting a.key)) := by
  refine (h.fewer_free (fewer_fire v a.id) hi).enter hi ?_ (.inr ⟨rfl, fun j hj => ?_⟩)
  · intro b hb hkey
    obtain ⟨hb, hid⟩ := List.mem_filter.1 hb
    rw [h.alone b hb a ha hkey] at hid
    simp at hid
  · exact (h.arming j a.key hj).1 a ha rfl

/-- `time.AfterFunc`: no other timer of the key is armed. -/
theorem arm (h : Staged v stage) (hi : stage i = .arming key) (deadline : Int) (id : String) :
    Staged (v.afterFunc deadline key id) (Function.update stage i (.recording key v.nextTimer)) := by
  obtain ⟨hnone, hdeleting⟩ := h.arming i key hi
  have hmem : ∀ a ∈ (v.afterFunc deadline key id).armed,
      a ∈ v.armed ∨ a = ⟨v.nextTimer, key, id, deadline⟩ := fun a => Venue.mem_afterFunc
  have hcases := update_cases stage i (.recording key v.nextTimer)
  have hsets : ∀ {j key'}, (Function.update stage i (.recording key v.nextTimer) j).sets key' →
      (stage j).sets key' := by
    intro j key' hj
    rcases hcases j with ⟨rfl, hsj⟩ | ⟨-, hsj⟩ <;> rw [hsj] at hj
    · rw [hi]
      exact hj
    · exact hj
  have hdeleting' : ∀ {j key'}, Function.update stage i (.recording key v.nextTimer) j = .deleting key' →
      stage j = .deleting key' := by
    intro j key' hj
    rcases hcases j with ⟨rfl, hsj⟩ | ⟨-, hsj⟩ <;> rw [hsj] at hj
    · cases hj
    · exact hj
  -- no other goroutine is setting a timer of the key
  have hother : ∀ j, j ≠ i → ¬ (stage j).sets key := fun j hj hset =>
    hj (h.exclusive j i key hset (by rw [hi]; rfl))
  refine ⟨h.wellArmed.afterFunc deadline key id, fun a ha => ?_, fun a ha b hb hkey => ?_,
    fun j k key' hj hk => h.exclusive j k key' (hsets hj) (hsets hk), fun j key' hj => ?_,
    fun j key' n hj => ?_, fun j key' hj a ha hrec => ?_⟩
  · rcases hmem a ha with ha | rfl
    · refine (h.stored a ha).imp_right fun ⟨j, hj⟩ => ⟨j, ?_⟩
      have hne : j ≠ i := by
        rintro rfl
        cases hi.symm.trans hj
      rwa [Function.update_of_ne hne]
    · exact .inr ⟨i, Function.update_self _ _ _⟩
  · rcases hmem a ha with ha | rfl
    · rcases hmem b hb with hb | rfl
      · exact h.alone a ha b hb hkey
      · exact absurd hkey (hnone a ha)
    · rcases hmem b hb with hb | rfl
      · exact absurd hkey.symm (hnone b hb)
      · rfl
  · rcases hcases j with ⟨rfl, hsj⟩ | ⟨hji, hsj⟩ <;> rw [hsj] at hj
    · cases hj
    · obtain ⟨hnone', hdel⟩ := h.arming j key' hj
      refine ⟨fun a ha => ?_, fun k hk => hdel k (hdeleting' hk)⟩
      rcases hmem a ha with ha | rfl
      · exact hnone' a ha
      · rintro rfl
        exact hother j hji (by rw [hj]; rfl)
  · rcases hcases j with ⟨rfl, hsj⟩ | ⟨hji, hsj⟩ <;> rw [hsj] at hj
    · cases hj
      refine ⟨Nat.lt_succ_self _, fun a ha => ?_⟩
      rcases hmem a ha with ha | rfl
      · exact ⟨fun hid => absurd hid (h.wellArmed.fresh a ha).ne, fun hkey => absurd hkey (hnone a ha)⟩
      · exact ⟨fun _ => rfl, fun _ => ⟨rfl, fun k hk => hdeleting k (hdeleting' hk)⟩⟩
    · obtain ⟨hn, hids⟩ := h.recording j key' n hj
      refine ⟨Nat.lt_succ_of_lt hn, fun a ha => ?_⟩
      rcases hmem a ha with ha | rfl
      · exact ⟨(hids a ha).1, fun hkey => ⟨((hids a ha).2 hkey).1, fun k hk =>
          ((hids a ha).2 hkey).2 k (hdeleting' hk)⟩⟩
      · refine ⟨fun hid => absurd hid hn.ne', ?_⟩
        rintro rfl
        exact absurd (by rw [hj]; rfl) (hother j hji)
  · have hj := hdeleting' hj
    rcases hmem a ha with ha | rfl
    · exact h.deleting j key' hj a ha hrec
    · exact (h.wellArmed.recorded key' v.nextTimer hrec).1.ne rfl

/-- `s.timers[key] = timer`. -/
theorem record (h : Staged v stage) {n : Nat} (hi : stage i = .recording key n) :
    Staged { v with timers := Function.update v.timers key (some n) }
      (Function.update stage i .free) := by
  obtain ⟨hn, hids⟩ := h.recording i key n hi
  have htimers : ∀ {key' m}, Function.update v.timers key (some n) key' = some m →
      (key' = key ∧ m = n) ∨ v.timers key' = some m := by
    intro key' m hm
    by_cases hkey : key' = key
    · subst hkey
      rw [Function.update_self] at hm
      exact .inl ⟨rfl, (Option.some.inj hm).symm⟩
    · rw [Function.update_of_ne hkey] at hm
      exact .inr hm
  have hstored : ∀ a ∈ v.armed, v.timers a.key = some a.id ∨ (a.key = key ∧ a.id = n) →
      Function.update v.timers key (some n) a.key = some a.id := by
    intro a ha hrec
    by_cases hkey : a.key = key
    · rw [hkey, Function.update_self, ((hids a ha).2 hkey).1]
    · rw [Function.update_of_ne hkey]
      exact hrec.resolve_right fun heq => hkey heq.1
  refine ⟨h.wellArmed.recordTimer hn fun a ha => (hids a ha).1, fun a ha => ?_, h.alone,
    fun j k key' hj hk => h.exclusive j k key' (update_free_sets hj) (update_free_sets hk),
    fun j key' hj => ?_, fun j key' m hj => ?_, fun j key' hj a ha hrec => ?_⟩
  · rcases h.stored a ha with hrec | ⟨j, hj⟩
    · exact .inl (hstored a ha (.inl hrec))
    · by_cases hji : j = i
      · subst hji
        cases hi.symm.trans hj
        exact .inl (hstored a ha (.inr ⟨rfl, rfl⟩))
      · exact .inr ⟨j, by rwa [Function.update_of_ne hji]⟩
  · obtain ⟨hnone, hdeleting⟩ := h.arming j key' (update_free hj nofun).2
    exact ⟨hnone, fun k hk => hdeleting k (update_free hk nofun).2⟩
  · obtain ⟨hm, hids'⟩ := h.recording j key' m (update_free hj nofun).2
    exact ⟨hm, fun a ha => ⟨(hids' a ha).1, fun hkey => ⟨((hids' a ha).2 hkey).1, fun k hk =>
      ((hids' a ha).2 hkey).2 k (update_free hk nofun).2⟩⟩⟩
  · have hj := (update_free hj nofun).2
    rcases htimers hrec with ⟨rfl, hid⟩ | hrec
    · exact ((hids a ha).2 ((hids a ha).1 hid)).2 j hj
    · exact h.deleting j key' hj a ha hrec

/-- Every step keeps it, where none starts to set a timer beside another of the key. -/
theorem step (h : Staged v stage) {s : Stage} (hstep : TimerStep v (stage i) v' s)
    (hapart : ∀ key, s = .arming key → ∀ j, j ≠ i → ¬ (stage j).sets key ∧ stage j ≠ .deleting key) :
    Staged v' (Function.update stage i s) := by
  generalize hi : stage i = s₀ at hstep
  cases hstep with
  | fewer hv =>
    refine h.fewer hv fun key hsets => ?_
    rw [hi] at hsets
    exact hsets
  | clear key => exact h.clear hi (hapart key rfl)
  | arm deadline id => exact h.arm hi deadline id
  | record => exact h.record hi
  | fire ha => exact h.fire hi ha
  | delete => exact h.delete hi

end Staged

/-- Once no timer is armed and none is being set, a step that starts to set none arms none. -/
theorem TimerStep.idle {v v' : Venue} {s s' : Stage} (h : TimerStep v s v' s') (hv : v.armed = [])
    (hs : ∀ key, ¬ s.sets key) (hs' : ∀ key, s' ≠ .arming key) :
    v'.armed = [] ∧ ∀ key, ¬ s'.sets key := by
  cases h with
  | fewer h =>
    refine ⟨List.eq_nil_iff_forall_not_mem.2 fun a ha => ?_, fun _ => id⟩
    have hmem := h.armed a ha
    rw [hv] at hmem
    cases hmem
  | clear key => exact absurd rfl (hs' key)
  | @arm key => exact absurd rfl (hs key)
  | @record key => exact absurd rfl (hs key)
  | fire ha =>
    rw [hv] at ha
    cases ha
  | delete => exact ⟨hv, fun _ => id⟩

end GbcVenue
