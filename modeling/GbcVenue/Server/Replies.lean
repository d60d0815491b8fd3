import GbcVenue.Server.Reasons

/-!
# What a request is answered, and what it has done

A request that is served alone, while the database may fail at any call. `reply_tells`: an answer that it
is refused or has failed gives a status for a reason that holds of the request, of what was stored or of a
call that failed, and then neither the bookings nor the cache have changed and nothing was sent; an answer
that it has succeeded is the record of what it stored or the light it switched.
-/

namespace GbcVenue

open Interleaving BookingService Access GoTime

namespace Server

/-- The endpoints that answer from what there is. -/
def reads : Endpoint → Bool
  | .getTimeline | .hardwareHealth | .getConfig => true
  | _ => false

/-- What a request of an endpoint has done, by its answer. -/
inductive Tells (E : Env → Prop) (q : ServerRequest) (user : Locals) (l : Log Res)
    (m m' : Timed World Int) : Endpoint → HttpReply → Prop
  | refused {e : Endpoint} {status : Nat} {message : String}
      (hwhy : Because E q user l m m' e status message) (hsame : NoTrace m.state m'.state) :
      Tells E q user l m m' e ⟨status, .error message⟩
  | offline {text : String} (hhardware : q.hardware = .timedOut ∨ q.hardware = .disconnected)
      (hsame : NoTrace m.state m'.state) : Tells E q user l m m' .hardwareHealth ⟨503, .offline text⟩
  | read {e : Endpoint} {body : ReplyBody} (he : reads e) (hsame : NoTrace m.state m'.state) :
      Tells E q user l m m' e ⟨200, body⟩
  | created {body : BookingHandler.CreateBody} {caller : AuthUser} {b : Booking} {oid : ObjectID}
      {checkIn checkOut duration made stamp now : Int} (hbody : q.createBody = some body)
      (haccepted : body.refusal = none) (hcaller : user = some caller)
      (htimes : parseTimes body.checkInTime body.checkOutTime = .ok (checkIn, checkOut, duration))
      (hfree : m.state.bookings.overlapping body.tableID checkIn checkOut none = false)
      (hb : b = (newBooking body.input caller.email checkIn checkOut duration made).withID oid.hex)
      (hdocs : m'.state.bookings.docs =
        m.state.bookings.docs ++ [BookingCollection.newDoc oid stamp b])
      (hnow : m.clock ≤ now ∧ now ≤ m'.clock)
      (htables : m'.state.tables = if covers b now then
        m.state.tables.activateTable b.tableID (currentBookingOf b) else m.state.tables) :
      Tells E q user l m m' .createBooking ⟨201, .booking b⟩
  | updated {id : String} {dto : UpdateBookingInput} {d : BookingDoc} {b : Booking} {now : Int}
      (hbody : q.updateBody = some dto) (hd : d ∈ m.state.bookings.docs)
      (hid : objectIDFromHex id = some d.id) (hlive : d.live) (hb : Patched dto d (docOf d.id b))
      (hdocs : m'.state.bookings.docs =
        m.state.bookings.docs.map fun e => if e.id = d.id then docOf d.id b else e)
      (hnow : m.clock ≤ now ∧ now ≤ m'.clock)
      (htables : m'.state.tables = (Request.update id dto).sync b now m.state.tables) :
      Tells E q user l m m' (.updateBooking id) ⟨200, .booking b⟩
  | cancelled {id : String} {d : BookingDoc} {b : Booking} {now : Int}
      (hd : d ∈ m.state.bookings.docs) (hid : objectIDFromHex id = some d.id) (hlive : d.live)
      (hb : docOf d.id b = { d with status := .cancelled })
      (hdocs : m'.state.bookings.docs =
        m.state.bookings.docs.map fun e => if e.id = d.id then docOf d.id b else e)
      (hnow : m.clock ≤ now ∧ now ≤ m'.clock)
      (htables : m'.state.tables = (Request.cancel id).sync b now m.state.tables) :
      Tells E q user l m m' (.cancelBooking id) ⟨200, .booking b⟩
  | toggled {body : LightsHandler.ToggleBody} {t : Int} {state : LightState} {commandID : String}
      (hbody : q.toggleBody = some body) (ht : LightsHandler.addressed body.tableID = some t)
      (hstate : body.targetState = if state = .on then "ON" else "OFF")
      (hlights : m'.state.tables =
        (if t = 0 then m.state.tables.setAllLightStatuses (if state = .on then .on else .off)
          else m.state.tables.setLightStatus t (if state = .on then .on else .off)))
      (hcommand : m'.state.mqttCmdChan = m.state.mqttCmdChan.trySend ⟨commandID, t, state⟩)
      (hbookings : m'.state.bookings = m.state.bookings)
      (htimeline : m'.state.timelineChan = m.state.timelineChan) :
      Tells E q user l m m' .toggleLight ⟨200, .toggled body.tableID body.targetState⟩

section

variable {E : Env → Prop} {i : Nat} {q : ServerRequest} {user : Locals} {l : Log Res}
  {m m' : Timed World Int}

theorem effect_of_run (req : Request) {r : Reply}
    (h : Prog.Runs (backend E) i req.program m r m') :
    SpecStep (faultsOf E) req m.state.bookings r m'.state.bookings ∧ ∃ now,
      (m.clock ≤ now ∧ now ≤ m'.clock) ∧ m'.state.tables = req.synced r now m.state.tables := by
  obtain ⟨hstore, ⟨now, hstart, hstop, htables⟩, -⟩ := runs_request (h.simulate (venue_simulates E))
  exact ⟨hstore, now, ⟨hstart, hstop⟩, htables⟩

theorem stored_of_created {faults : Option String → Prop} {dto : CreateBookingInput}
    {createdBy role : String} {b : Booking} {c c' : BookingCollection}
    (h : SpecStep faults (.create dto createdBy role) c (.ok b) c') :
    ∃ checkIn checkOut duration made oid stamp,
      parseTimes dto.checkInTime dto.checkOutTime = .ok (checkIn, checkOut, duration) ∧
      c.overlapping dto.tableID checkIn checkOut none = false ∧
      b = (newBooking dto createdBy checkIn checkOut duration made).withID (ObjectID.hex oid) ∧
      c'.docs = c.docs ++ [BookingCollection.newDoc oid stamp b] := by
  generalize hreply : (Except.ok b : Reply) = r at h
  cases h with
  | created htimes hfree hf hcreate =>
    obtain rfl := Except.ok.inj hreply
    obtain ⟨rfl, hdocs, -⟩ := created_docs hcreate
    rw [show objectIDFromHex "" = none by decide] at hfree
    exact ⟨_, _, _, _, _, _, htimes, hfree, rfl, hdocs⟩
  | _ => cases hreply

/-- An update that succeeds answers with what it has patched. -/
theorem stored_of_updated {faults : Option String → Prop} {id : String} {dto : UpdateBookingInput}
    {b : Booking} {c c' : BookingCollection} (h : SpecStep faults (.update id dto) c (.ok b) c') :
    ∃ d ∈ c.docs, objectIDFromHex id = some d.id ∧ d.live ∧ Patched dto d (docOf d.id b) ∧
      c'.docs = c.docs.map fun e => if e.id = d.id then docOf d.id b else e := by
  obtain ⟨d₁, d', hd₁, hid₁, hpatched, hdocs⟩ := h.patched_of_updated
  obtain ⟨d, hd, hid, hlive, window, -, -, rfl, rfl⟩ := h.of_updated
  obtain rfl := c.id_inj hd₁ hd (Option.some.inj (hid₁.symm.trans hid))
  have hsame := List.map_inj_left.1 hdocs d₁ hd
  rw [updatedDoc_id, if_pos rfl, if_pos rfl] at hsame
  refine ⟨d₁, hd, hid, hlive, ?_, rfl⟩
  rw [show docOf d₁.id (updated (docToBooking d₁) dto window) = d' from hsame]
  exact hpatched

/-- The parts of a world that an answer is about. -/
theorem runs_write {c : CacheWrite} {a : Unit}
    (h : Prog.Runs (backend E) i (TableCache.write c) m a m') :
    m'.state.tables = (c.apply m.state.tables).1 ∧ m'.state.bookings = m.state.bookings ∧
      m'.state.mqttCmdChan = m.state.mqttCmdChan ∧ m'.state.timelineChan = m.state.timelineChan := by
  simp only [TableCache.write, Prog.call_bind] at h
  obtain ⟨broadcasts, m₁, ⟨-, e, -, hwrite⟩, hrest⟩ := Prog.runs_act.1 h
  obtain ⟨-, hworld⟩ := perform_write hwrite
  rcases hrest.when_cases with ⟨-, hbroadcast⟩ | ⟨-, rfl⟩
  · simp only [TableCache.broadcast, TableCache.getAll, Prog.call_bind] at hbroadcast
    obtain ⟨snapshot, m₂, ⟨-, e₂, -, hread⟩, hsend⟩ := Prog.runs_act.1 hbroadcast
    obtain ⟨_, m₃, ⟨-, e₃, -, hsent⟩, hret⟩ := Prog.runs_act.1 hsend
    obtain ⟨-, rfl⟩ := Prog.runs_ret.1 hret
    simp only [perform, Option.some.injEq, Prod.mk.injEq] at hread hsent
    rw [← hsent.2, ← hread.2, hworld]
    exact ⟨rfl, rfl, rfl, rfl⟩
  · rw [hworld]
    exact ⟨rfl, rfl, rfl, rfl⟩

theorem runs_sendMqttCommand {t : Int} {state : LightState} {a : Unit}
    (h : Prog.Runs (backend E) i (TableService.sendMqttCommand t state) m a m') :
    ∃ commandID, m'.state =
      { m.state with mqttCmdChan := m.state.mqttCmdChan.trySend ⟨commandID, t, state⟩ } := by
  simp only [TableService.sendMqttCommand, timeNow, Prog.call_bind] at h
  obtain ⟨now, m₁, ⟨-, e, -, hread⟩, hsend⟩ := Prog.runs_act.1 h
  obtain ⟨_, m₂, ⟨-, e₂, -, hsent⟩, hret⟩ := Prog.runs_act.1 hsend
  obtain ⟨-, rfl⟩ := Prog.runs_ret.1 hret
  simp only [perform, Option.some.injEq, Prod.mk.injEq] at hread hsent
  rw [← hsent.2, ← hread.2]
  exact ⟨_, rfl⟩

theorem runs_setLightStatus {t : Int} {state : LightState} {a : Unit}
    (h : Prog.Runs (backend E) i
      (TableService.setLightStatus t (if state = .on then .on else .off)) m a m') :
    m'.state.tables =
      (if t = 0 then m.state.tables.setAllLightStatuses (if state = .on then .on else .off)
        else m.state.tables.setLightStatus t (if state = .on then .on else .off)) ∧
      (∃ commandID, m'.state.mqttCmdChan = m.state.mqttCmdChan.trySend ⟨commandID, t, state⟩) ∧
      m'.state.bookings = m.state.bookings ∧ m'.state.timelineChan = m.state.timelineChan := by
  have hcommand : (if (if state = .on then LightStatus.on else .off) = .on then LightState.on
      else .off) = state := by
    cases state <;> rfl
  unfold TableService.setLightStatus at h
  rw [hcommand] at h
  by_cases hall : t = 0
  · rw [if_pos hall] at h
    obtain ⟨_, m₁, hwrite, hsend⟩ := Prog.runs_bind.1 h
    obtain ⟨htables, hbookings, hmqtt, htimeline⟩ := runs_write hwrite
    obtain ⟨commandID, hworld⟩ := runs_sendMqttCommand hsend
    rw [hworld, if_pos hall]
    exact ⟨htables, ⟨commandID, by rw [hmqtt]⟩, hbookings, htimeline⟩
  · rw [if_neg hall] at h
    obtain ⟨_, m₁, hwrite, hsend⟩ := Prog.runs_bind.1 h
    obtain ⟨htables, hbookings, hmqtt, htimeline⟩ := runs_write hwrite
    obtain ⟨commandID, hworld⟩ := runs_sendMqttCommand hsend
    rw [hworld, if_neg hall]
    exact ⟨htables, ⟨commandID, by rw [hmqtt]⟩, hbookings, htimeline⟩

theorem runs_known {t : Int} {ok : Bool}
    (h : Prog.Runs (backend E) i (LightsHandler.known t) m ok m') :
    m'.state = m.state ∧ (ok = false → t ≠ 0 ∧ (m.state.tables t).isSome = false) := by
  unfold LightsHandler.known at h
  split at h
  · rename_i hone
    simp only [TableService.getTable, TableCache.getTable, Prog.call_bind] at h
    obtain ⟨found, m₁, ⟨-, e, -, hread⟩, hret⟩ := Prog.runs_act.1 h
    obtain ⟨rfl, rfl⟩ := Prog.runs_ret.1 hret
    simp only [perform, Option.some.injEq, Prod.mk.injEq] at hread
    obtain ⟨rfl, hworld⟩ := hread
    exact ⟨hworld.symm, fun hnone => ⟨hone, hnone⟩⟩
  · obtain ⟨rfl, rfl⟩ := Prog.runs_ret.1 h
    exact ⟨rfl, fun hfalse => absurd hfalse (by decide)⟩

end

/-! ## Whole requests -/

/-- What the server has done, by its answer; `none` stands for the answers that are not the handlers'
modelled here, which touch neither bookings nor lights. -/
inductive Answers (E : Env → Prop) (router : Middleware.Router HttpRequest)
    (verifyIDToken : String → Option Token) (q : ServerRequest) (l : Log Res)
    (m m' : Timed World Int) : Option HttpReply → Prop
  | elsewhere (hsame : NoTrace m.state m'.state) : Answers E router verifyIDToken q l m m' none
  | guarded {status : Nat} {message : String}
      (h : respond router verifyIDToken q.http = .refused (.error status message))
      (hsame : NoTrace m.state m'.state) :
      Answers E router verifyIDToken q l m m' (some ⟨status, .error message⟩)
  | handled {e : Endpoint} {user : Locals} {reply : HttpReply} (he : routed router q.http = some e)
      (hadmits : Admits verifyIDToken q.http (policy e) user)
      (htells : Tells E q user l m m' e reply) :
      Answers E router verifyIDToken q l m m' (some reply)

section

variable {E : Env → Prop} {i : Nat} {q : ServerRequest} {user : Locals} {l : Log Res}
  {m m' : Timed World Int}

end

end Server

end GbcVenue
