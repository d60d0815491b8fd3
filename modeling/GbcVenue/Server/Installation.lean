import GbcVenue.Agreement.Converge
import GbcVenue.Lights.Occupancy
import GbcVenue.Lights.Payloads
import GbcVenue.Server.LightOrders

/-!
# The installation

The backend with all its goroutines, the device, and the two links between them. The goroutines run one
at a time. `lights_follow_bookings`: as long as the command channel has room and no sync overtakes a
command with another state, at rest the lamp over a table that nobody overrides is lit exactly while the
cache shows a booking there, and so while a booking runs, where the cache shows what runs.
-/

namespace GbcVenue

open Interleaving MqttClient Access LightSystem

namespace Server

/-- `published` and `synced` are those of `LightSystem`. -/
structure Installation where
  world : World
  snapshots : List (List TableState)
  down : List DownMessage
  up : List UpMessage
  device : Hardware.Tables
  published : List MqttCommand
  synced : Bool

/-- What happens: a goroutine runs on what the outside world contributes to its actions, a message of the
device is handled, or the links and the device take a step. -/
inductive Installation.Action
  | run (g : Goroutine) (es : List Env)
  | handle (es : List Env)
  | link (a : LightSystem.Action)

namespace Installation

/-- A process that has booted, and a device that has just been switched on. -/
def start (w : World) : Installation := ⟨w, [], [], [], Hardware.begin, [], false⟩

/-- The installation for given lights of the cache and commands that wait. -/
def links (s : Installation) (x : Tables × Chan MqttCommand) : LightSystem :=
  ⟨x.1, [], x.2.buf, s.snapshots, s.down, s.up, s.device, s.published, s.synced⟩

/-- The light protocol's part of it. -/
def system (s : Installation) : LightSystem := s.links (lights s.world)

section

variable (router : Middleware.Router HttpRequest) (verifyIDToken : String → Option Token)

def step (s : Installation) : Action → Option Installation
  | .run g es =>
      (Prog.eval perform 0 es (g.program router verifyIDToken) s.world).map fun r =>
        { s with world := r.2 }
  | .handle es =>
      match s.up with
      | [] => none
      | msg :: rest =>
          (Prog.eval perform 0 es (handleRaw (messageOf msg)) s.world).map fun r =>
            { s with
              world := r.2
              up := rest
              snapshots := s.snapshots ++ r.1.toList
              synced := s.synced || msg.isSyncAck }
  | .link a =>
      if a.ofBackend then none
      else (s.system.step a).map fun l =>
        { world := { s.world with
            mqttCmdChan := { s.world.mqttCmdChan with buf := l.mqttCmdChan } }
          snapshots := l.snapshots
          down := l.down
          up := l.up
          device := l.device
          published := l.published
          synced := l.synced }

/-- The goroutines that come and go while the process is up, with overrides of no light but those of
`byHand`; the messages of the device have a step of their own. -/
def Steady (byHand : Int → Prop) : Goroutine → Prop
  | .serve q => ∀ b ∈ q.toggleBody, ∀ t ∈ LightsHandler.addressed b.tableID, byHand t
  | .timer | .reconcile => True
  | .message _ | .boot => False

/-- The command channel is not full at the end of a goroutine, and no sync overtakes a command with
another state. -/
def InTurn (byHand : Int → Prop) (s : Installation) : Action → Prop
  | .run g es => Steady byHand g ∧
      ∀ s', step router verifyIDToken s (.run g es) = some s' →
        s'.world.mqttCmdChan.buf.length < s'.world.mqttCmdChan.cap
  | .handle _ => True
  | .link a => s.system.InTurn a

abbrev Reaches (byHand : Int → Prop) : Installation → Installation → Prop :=
  GuardedReaches (step router verifyIDToken) (InTurn router verifyIDToken byHand)

end

/-- The lamp of the table is lit exactly while the table is BUSY, the cache says so, and where it shows
the bookings that run, a lamp is lit exactly while one runs. -/
structure LitWhileBooked (s : Installation) (t : TableNo) : Prop where
  busy : (s.device t).isOn = true ↔ (s.world.tables.get t).status = .busy
  cache : (s.world.tables.get t).lightStatus = statusOf (LightState.ofBool (s.device t).isOn)
  booked : ∀ now, ShowsRunning s.world.bookings s.world.tables t now →
    ((s.device t).isOn = true ↔ ∃ d ∈ s.world.bookings.docs, d.tableID = t ∧ d.runsAt now)

structure Inv (staff : String → Prop) (byHand : Int → Prop) (s : Installation) : Prop where
  world : WorldInOrder staff s.world
  lit : s.system.Lit byHand

end Installation

section

variable {byHand : Int → Prop} {staff : String → Prop} {α : Type} {E : Env → Prop} {i : Nat}
  {w w' : World} {a : α} {s s' : Installation}

theorem inOrder_of_runs {p : Go α} (htidy : Tidy staff p) (hw : WorldInOrder staff w)
    (h : Prog.Runs (sem E) i p w a w') : WorldInOrder staff w' :=
  (Prog.Keeps.runs_bind _ perform_keeps (f := Prog.ret)
    (Prog.keeps_bind htidy fun _ => trivial) hw h).1

theorem runs_of_performed {es : List Env} {p : Go α}
    (h : Prog.eval perform i es p w = some (a, w')) : Prog.Runs (sem fun _ => True) i p w a w' :=
  Prog.runs_of_eval (fun e _ _ _ _ _ hperf => ⟨e, trivial, hperf⟩) h

/-! ## The goroutines -/

/-- The command channel only grows while they run. -/
theorem le_of_ordered {x z : Tables × Chan MqttCommand}
    (h : Relation.ReflTransGen (Ordered byHand) x z) :
    z.2.cap = x.2.cap ∧ x.2.buf.length ≤ z.2.buf.length := by
  induction h with
  | refl => exact ⟨rfl, le_refl _⟩
  | tail _ hlast ih =>
    cases hlast with
    | call call now _ =>
      unfold Chan.trySend
      split
      · refine ⟨ih.1, ih.2.trans ?_⟩
        simp
      · exact ih
    | booking t cb => exact ih

theorem lit_of_ordered {x z : Tables × Chan MqttCommand}
    (h : Relation.ReflTransGen (Ordered byHand) x z) (hroom : z.2.buf.length < z.2.cap)
    (hlit : (s.links x).Lit byHand) : (s.links z).Lit byHand := by
  induction h using Relation.ReflTransGen.head_induction_on with
  | refl => exact hlit
  | head hfirst hrest ih =>
    refine ih ?_
    have hle := le_of_ordered hrest
    cases hfirst with
    | @call ts ch call now hhand =>
      have hfree : ch.buf.length < ch.cap := by
        by_contra hfull
        rw [Chan.trySend, if_neg hfull] at hle
        dsimp only at hle
        omega
      have hcall := hlit.call call now hhand
      rw [Chan.trySend, if_pos hfree]
      exact hcall
    | booking t cb =>
      refine hlit.retable fun u => ?_
      simp only [Tables.updateCurrentBooking]
      split
      · by_cases hu : (u : Int) = t
        · subst hu
          simp [Installation.links]
        · rw [Tables.get_set_ne _ _ hu]
          exact ⟨rfl, rfl, rfl⟩
      · exact ⟨rfl, rfl, rfl⟩

theorem orders_program {router : Middleware.Router HttpRequest}
    {verifyIDToken : String → Option Token} {g : Goroutine} (hg : Installation.Steady byHand g) :
    Orders byHand (g.program router verifyIDToken) := by
  cases g with
  | serve q => exact orders_serve router verifyIDToken hg
  | timer => exact orders_bind orders_timerFires fun _ => .ret _
  | reconcile => exact orders_bind orders_reconcile fun _ => .ret _
  | message msg => exact hg.elim
  | boot => exact hg.elim

/-! ## The messages of the device -/

theorem runs_handled {msg : UpMessage} {asked : Option (List TableState)}
    (h : Prog.Runs (sem E) i (handleMessage msg) w asked w') :
    lights w' = (confirmed w.tables msg, w.mqttCmdChan) ∧ asked = requested w.tables msg := by
  cases msg with
  | ack commandID tableID lightState =>
    obtain ⟨_, w₁, hconfirm, hret⟩ := Prog.runs_bind.1 h
    obtain ⟨rfl, rfl⟩ := Prog.runs_ret.1 hret
    rw [confirmLightStatus_eq] at hconfirm
    rw [confirmed_ack]
    exact ⟨lights_of_write hconfirm, rfl⟩
  | syncAck commandID =>
    obtain ⟨_, w₁, hconfirm, hret⟩ := Prog.runs_bind.1 h
    obtain ⟨rfl, rfl⟩ := Prog.runs_ret.1 hret
    exact ⟨lights_of_write hconfirm, rfl⟩
  | syncRequest =>
    obtain ⟨e, -, r, w₁, hperf, hret⟩ := runs_op.1 h
    obtain ⟨rfl, rfl⟩ := Prog.runs_ret.1 hret
    cases hperf
    exact ⟨rfl, rfl⟩

/-! ## The boot -/

/-- The lights of the cache as a boot leaves them, without a command. -/
structure Fresh (w : World) : Prop where
  light : ∀ t : TableNo, (w.tables.get t).lightStatus = pendingOf (wanted w.tables t) ∨
    (w.tables.get t).lightStatus = statusOf (wanted w.tables t)
  mqttCmdChan : w.mqttCmdChan.buf = []

/-- The actions of the boot: bookings are hydrated, and the rest leaves the lights alone. -/
def Op.boots (o : Op) : Prop := o.apart ∨ ∃ t cb, o = .write (.hydrateTable t (some cb))

theorem Fresh.hydrate (h : Fresh w) (t : Int) (cb : CurrentBooking) :
    Fresh { w with tables := w.tables.hydrateTable t (some cb) } := by
  refine ⟨fun u => ?_, h.mqttCmdChan⟩
  by_cases hu : (u : Int) = t
  · subst hu
    exact .inr (by simp [wanted, Tables.hydrateTable, LightState.ofBool, statusOf])
  · have hget : (w.tables.hydrateTable t (some cb)).get u = w.tables.get u :=
      Tables.get_set_ne _ _ hu
    simp only [wanted, hget]
    exact h.light u

theorem boots_of_apart {p : Go α} (h : p.All fun o => o.apart) : p.All Op.boots :=
  h.mono fun _ ho => .inl ho

theorem boot_boots : Scheduler.boot.All Op.boots := by
  have hinit : Scheduler.initAll.All Op.boots := boots_of_apart <|
    Prog.all_bind (rescheduleTable_apart 1) fun _ => Prog.all_bind (rescheduleTable_apart 2) fun _ =>
      Prog.all_bind (rescheduleTable_apart 3) fun _ => rescheduleTable_apart 4
  refine Prog.all_bind ?_ fun _ => hinit
  refine Prog.all_call_bind (.inl rfl) fun now => Prog.all_call_bind (.inl rfl) fun found => ?_
  cases found with
  | error e => trivial
  | ok bs =>
    dsimp only
    induction bs with
    | nil => trivial
    | cons b bs ih =>
      refine Prog.all_bind (p := TableCache.write _) ?_ fun _ => ih
      refine Prog.all_call_bind (.inr ⟨_, _, rfl⟩) fun r => boots_of_apart ?_
      exact Prog.all_when ⟨rfl, fun _ => ⟨rfl, fun _ => trivial⟩⟩

theorem fresh_of_boot (hw : Fresh w) (h : Prog.Runs (sem E) i Scheduler.boot w () w') : Fresh w' := by
  refine h.preserves (R := fun w w' => Fresh w → Fresh w') (fun _ hw => hw)
    (fun _ _ _ h h' hw => h' (h hw)) ?_ boot_boots hw
  rintro o w r w' (ho | ⟨t, cb, rfl⟩) ⟨e, -, hperf⟩ hw
  · have hsame := perform_apart ho hperf
    exact ⟨by rw [hsame.tables]; exact hw.light, by rw [hsame.mqttCmdChan]; exact hw.mqttCmdChan⟩
  · obtain ⟨-, rfl⟩ := perform_write hperf
    exact hw.hydrate t cb

theorem fresh_start (bookings : BookingCollection) (config : Option VenueConfig) (venueOffset : Int) :
    Fresh (World.start bookings config venueOffset) := by
  refine ⟨fun t => .inl ?_, rfl⟩
  have ht := t.2
  simp [World.start, wanted, Tables.new, Tables.get, ht, LightState.ofBool, pendingOf]

/-! ## The invariant -/

namespace Installation

theorem inv_start {bookings : BookingCollection} (hdocs : ∀ d ∈ bookings.docs, Accounted staff d)
    {config : Option VenueConfig} {venueOffset : Int}
    (h : Prog.Runs (sem E) i Scheduler.boot (World.start bookings config venueOffset) () w) :
    (start w).Inv staff byHand := by
  have hworld := inOrder_of_runs tidy_boot (inOrder_start hdocs) h
  have hfresh := fresh_of_boot (fresh_start bookings config venueOffset) h
  refine ⟨hworld, ?_⟩
  have hlit : Lit byHand ⟨w.tables, [], [], [], [], [], Hardware.begin, [], false⟩ :=
    lit_fresh (fun t => hworld.tables.numbered t t.2) hfresh.light
  have hsystem : (start w).system =
      ⟨w.tables, [], [], [], [], [], Hardware.begin, [], false⟩ := by
    simp only [system, start, links, lights, hfresh.mqttCmdChan]
  rw [hsystem]
  exact hlit

variable {router : Middleware.Router HttpRequest} {verifyIDToken : String → Option Token}

theorem Inv.run (hrouter : router.Respects app) (h : s.Inv (OfStaff verifyIDToken) byHand)
    {g : Goroutine} {es : List Env} (hok : s.InTurn router verifyIDToken byHand (.run g es))
    (hstep : s.step router verifyIDToken (.run g es) = some s') :
    s'.Inv (OfStaff verifyIDToken) byHand := by
  have hroom := hok.2 s' hstep
  obtain ⟨r, heval, rfl⟩ := Option.map_eq_some_iff.1 hstep
  have htidy : Tidy (OfStaff verifyIDToken) (g.program router verifyIDToken) := by
    refine tidy_program hrouter verifyIDToken ?_
    rintro msg rfl
    exact hok.1.elim
  obtain ⟨hordered, hworld⟩ :=
    ordered_of_runs (orders_program hok.1) htidy h.world (runs_of_performed heval)
  exact ⟨hworld, lit_of_ordered hordered hroom h.lit⟩

theorem Inv.handle (h : s.Inv staff byHand) {es : List Env}
    (hstep : s.step router verifyIDToken (.handle es) = some s') : s'.Inv staff byHand := by
  rcases hup : s.up with _ | ⟨msg, rest⟩
  · simp only [step, hup] at hstep
    cases hstep
  simp only [step, hup] at hstep
  obtain ⟨r, heval, rfl⟩ := Option.map_eq_some_iff.1 hstep
  have htable : ∀ commandID tableID lightState, msg = .ack commandID tableID lightState →
      0 ≤ tableID ∧ tableID ≤ 4 := by
    rintro commandID tableID lightState rfl
    refine h.lit.acks commandID tableID lightState ?_
    rw [show s.system.up = s.up from rfl, hup]
    exact List.mem_cons_self
  have hruns := runs_of_performed heval
  refine ⟨inOrder_of_runs (tidy_message ⟨msg, rfl, htable⟩) h.world hruns, ?_⟩
  rw [handleRaw_messageOf htable] at hruns
  obtain ⟨hlights, hasked⟩ := runs_handled hruns
  refine h.lit.handle ?_
  unfold system
  dsimp only
  rw [hlights, hasked]
  simp only [LightSystem.step, links, hup]
  rfl

theorem Inv.link (h : s.Inv staff byHand) {a : LightSystem.Action} (hok : s.system.InTurn a)
    (hstep : s.step router verifyIDToken (.link a) = some s') : s'.Inv staff byHand := by
  simp only [step] at hstep
  split at hstep
  · cases hstep
  rename_i hlink
  obtain ⟨l, hl, rfl⟩ := Option.map_eq_some_iff.1 hstep
  have hlink' : a.ofBackend = false := by simpa using hlink
  obtain ⟨htables, hsending⟩ := step_link hlink' hl
  refine ⟨⟨h.world.bookings, h.world.tables, h.world.timers, h.world.mutexes⟩, ?_⟩
  have hlit := h.lit.link hlink' hok hl
  obtain ⟨ts, sending, chan, snapshots, down, up, device, published, synced⟩ := l
  obtain rfl : ts = s.world.tables := htables
  obtain rfl : sending = [] := hsending
  exact hlit

theorem Inv.step (hrouter : router.Respects app) (h : s.Inv (OfStaff verifyIDToken) byHand)
    {a : Action} (hok : s.InTurn router verifyIDToken byHand a)
    (hstep : s.step router verifyIDToken a = some s') : s'.Inv (OfStaff verifyIDToken) byHand := by
  cases a with
  | run g es => exact h.run hrouter hok hstep
  | handle es => exact h.handle hstep
  | link a => exact h.link hok hstep

/-- A table is BUSY or AVAILABLE, so what it shows tells whether a booking runs. -/
theorem busy_iff_of_showsRunning (h : s.world.tables.Represents) {t : TableNo} {now : Int}
    (hshows : ShowsRunning s.world.bookings s.world.tables t now) :
    (s.world.tables.get t).status = .busy ↔
      ∃ d ∈ s.world.bookings.docs, d.tableID = t ∧ d.runsAt now := by
  have hcoupled : Tables.Coupled (s.world.tables.get t) := h.coupled t t.2
  have havailable := hshows.2
  unfold Tables.Coupled at hcoupled
  split at hcoupled
  · rw [hcoupled] at havailable ⊢
    simpa using havailable
  · rw [hcoupled] at havailable ⊢
    simpa using havailable

end Installation

/-- From any boot over documents that are accounted for, in whatever order the goroutines of the backend
run, one after another, and the links and the device take their steps: once everything has arrived after
a first sync, the lamp of a table that nobody overrides is lit exactly while the table is BUSY, the cache
says of it what it is, and where the cache shows the bookings that run, it is lit exactly while one runs. -/
theorem lights_follow_bookings {router : Middleware.Router HttpRequest} (hrouter : router.Respects app)
    (verifyIDToken : String → Option Token) {bookings : BookingCollection}
    (hdocs : ∀ d ∈ bookings.docs, Accounted (OfStaff verifyIDToken) d) {config : Option VenueConfig}
    {venueOffset : Int} {es : List Env} {w : World}
    (hboot : Prog.eval perform 0 es Scheduler.boot (World.start bookings config venueOffset) =
      some ((), w)) {byHand : Int → Prop} {s : Installation}
    (h : Installation.Reaches router verifyIDToken byHand (.start w) s) (hsynced : s.synced = true)
    (hrest : s.system.AtRest) {t : TableNo} (hhand : ¬ byHand t) (hall : ¬ byHand 0) :
    s.LitWhileBooked t := by
  have hinv : s.Inv (OfStaff verifyIDToken) byHand :=
    h.invariant (Installation.inv_start hdocs (runs_of_performed hboot)) fun _ _ _ hs hok hstep =>
      hs.step hrouter hok hstep
  have hlamp : LightState.ofBool (s.device t).isOn = wanted s.world.tables t :=
    hinv.lit.at_rest hsynced hrest hhand hall
  have hbusy : (s.device t).isOn = true ↔ (s.world.tables.get t).status = .busy := by
    rw [LightState.ofBool_inj.1 hlamp, decide_eq_true_eq]
  have hwaiting : ¬ s.system.Waiting t := by
    rintro ⟨cmd, hcmd, -⟩
    rw [hrest.sending, hrest.mqttCmdChan] at hcmd
    exact absurd hcmd List.not_mem_nil
  refine ⟨hbusy, (hinv.lit.inv.followed t hwaiting).agree hsynced hrest, fun now hshows => ?_⟩
  exact hbusy.trans (Installation.busy_iff_of_showsRunning hinv.world.tables hshows)

end

/-- Runs without overrides, with room for commands, that publish their syncs before any command. -/
def Installation.undisturbed (s : Installation) : Action → Bool
  | .run g es =>
      (match g with
        | .serve q => q.toggleBody.isNone
        | .timer | .reconcile => true
        | .message _ | .boot => false) &&
      (s.step textRouter staffToken (.run g es)).all fun s' =>
        s'.world.mqttCmdChan.buf.length < s'.world.mqttCmdChan.cap
  | .handle _ => true
  | .link a => syncsFirst s.system a

theorem Installation.inTurn_of_undisturbed {s : Installation} {a : Action}
    (h : s.undisturbed a = true) : s.InTurn textRouter staffToken (fun _ => False) a := by
  cases a with
  | run g es =>
    simp only [undisturbed, Bool.and_eq_true] at h
    refine ⟨?_, fun s' hs' => ?_⟩
    · cases g with
      | serve q =>
        intro b hb
        rw [Option.isNone_iff_eq_none.1 h.1] at hb
        cases hb
      | timer | reconcile => trivial
      | message _ | boot => cases h.1
    · have hroom := h.2
      rw [hs'] at hroom
      simpa using hroom
  | handle es => trivial
  | link a => exact inTurn_of_syncsFirst h

/-- At nine the process boots, the device gets its first sync, and staff book table 1 from ten to eleven.
A reconcile pass at half past ten finds that the booking runs, and the command makes its way. -/
def bookAndLight : List Installation.Action :=
  [.link .snapshot, .link (.publishSync 0 0), .link (.receive 0),
    .handle (List.replicate 3 nineOClock), .run (.serve staffBooks) (List.replicate 23 nineOClock),
    .run .reconcile (List.replicate 60 halfPastTen), .link .publishCommand, .link (.receive 100),
    .link (.update 700), .handle (List.replicate 3 halfPastTen)]

theorem lights_follow_bookings_booked :
    ∃ s : Installation, (s.device tableOne).isOn = true ∧ s.LitWhileBooked tableOne := by
  have hrun : ((Prog.eval perform 0 (List.replicate 22 nineOClock) Scheduler.boot
      (World.start .empty none 0)).bind fun r =>
        (runIf (Installation.step textRouter staffToken) (fun s a => s.undisturbed a = true)
          bookAndLight (.start r.2)).map fun s =>
            (s.synced, decide s.system.AtRest, (s.device tableOne).isOn)) =
      some (true, true, true) := by
    decide +kernel
  obtain ⟨⟨_, w⟩, hboot, hs⟩ := Option.bind_eq_some_iff.1 hrun
  obtain ⟨s, hs, hend⟩ := Option.map_eq_some_iff.1 hs
  simp only [Prod.mk.injEq, decide_eq_true_eq] at hend
  obtain ⟨hsynced, hrest, hon⟩ := hend
  have hreach : Installation.Reaches textRouter staffToken (fun _ => False) (.start w) s :=
    (reaches_of_runIf hs).mono fun _ _ => Installation.inTurn_of_undisturbed
  exact ⟨s, hon, lights_follow_bookings textRouter_respects staffToken
    (fun d hd => absurd hd List.not_mem_nil) hboot hreach hsynced hrest not_false not_false⟩

end Server

end GbcVenue
