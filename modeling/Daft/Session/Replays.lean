import Daft.Session.Refusals
import Daft.Session.Responses

/-!
# What is replayed

A request repeated right after it ran gets again what the caching writer kept of it. That
is its answer alone, except that a driver status query whose driver does not answer sends
its events through the caching writer too.
-/

namespace Daft

open Logic

/-! ## What is kept -/

/-- A driver status query that gets past the filter while the driver does not answer. -/
structure AnnouncesFailure (b : MotionBackend) (m : Machine) (r : Packet) : Prop where
  fresh : m.act.isDuplicate r = false
  asks : r.Asks .GET_DRIVER_STATUS
  failing : (b.statusAt (m.arrival b)).uartFailing = true

section

variable {b : MotionBackend} {h : History} {m : Machine} {r : Packet} {c c' : Control}
  {calls : List Call} {responses : List Packet}

/-- What is kept is flagged as a response, unless the driver did not answer. -/
theorem Served.flagged (served : Served b h r c calls responses c') :
    (∀ packet ∈ responses, packet.isResponse = true) ∨
      r.Asks .GET_DRIVER_STATUS ∧ (b.statusAt h).uartFailing = true := by
  cases served with
  | uartFailed asks asked failing =>
    rw [asked] at failing
    exact .inr ⟨asks, failing⟩
  | answered _ _ _ flags =>
    exact .inl (List.forall_mem_singleton.mpr (Packet.isResponse_of_flags flags))
  | driverRead _ _ _ flags =>
    exact .inl (List.forall_mem_singleton.mpr (Packet.isResponse_of_flags flags))
  | ponged =>
    exact .inl (List.forall_mem_cons.mpr ⟨Packet.isResponse_of_flags rfl,
      List.forall_mem_singleton.mpr (Packet.isResponse_of_flags rfl)⟩)
  | _ =>
    refine .inl (List.forall_mem_singleton.mpr ?_)
    first
      | exact errorPacket_isResponse ..
      | exact Packet.isResponse_of_flags rfl

/-- Of the packets kept those flagged as responses are no events. -/
theorem handlePacket_keeps_answers (b : MotionBackend) (port : Port)
    (fresh : m.act.isDuplicate r = false) :
    ∀ packet ∈ (m.handlePacket b port r).act.lastResponses,
      packet.isResponse = true → packet.answers = true := by
  intro packet member flagged
  obtain ⟨new, replies, answered, hands⟩ :=
    handlePacket_answeredBy b port fresh
  obtain ⟨calls, responses, done⟩ := @handlePacket_executed b port r m fresh
  obtain ⟨passed, -⟩ := hands.cached done.sent
  have packets := done.sent.packets answered.sent
  have cached : (m.handlePacket b port r).act.lastResponses = responses := done.lastResponses
  have inside : packet ∈ (new.filter (·.cached)).map (·.packet) := by
    rw [packets]
    exact List.mem_reverse.mpr (cached ▸ member)
  obtain ⟨t, handed, rfl⟩ := List.mem_map.mp inside
  have reply : t.packet ∈ replies := by
    rw [← answered.responses]
    exact List.mem_filter.mpr
      ⟨List.mem_reverse.mpr (List.mem_map_of_mem (List.mem_filter.mp handed).1), flagged⟩
  rw [← passed] at reply
  exact (List.mem_filter.mp reply).2

/-- The event of a driver that does not answer is kept. -/
theorem AnnouncesFailure.kept (announces : AnnouncesFailure b m r) (port : Port) :
    ∃ packet ∈ (m.handlePacket b port r).act.lastResponses,
      packet.msgId = MsgId.EVENT.byte ∧ packet.isResponse = false := by
  obtain ⟨fresh, asks, failing⟩ := announces
  have handled : m.handlePacket b port r = ((m.acceptRequest b r).sendDriverStatus b
      (.cached port) r.seq).rememberRequest r := by
    have length : r.payloadLen = 0 := (Option.some.inj asks.length).symm
    simp [Machine.handlePacket, fresh, Machine.dispatch, asks.found,
      Machine.handleQuery, Machine.expectLength, length]
  have accepted : (m.acceptRequest b r).calls = m.arrival b ∧ (m.acceptRequest b r).cached = [] := by
    rw [Machine.acceptRequest_eq]
    exact ⟨rfl, rfl⟩
  have read := Effect.answer (m.acceptRequest b r) b.driverStatus .driverStatus
  have called := Effect.ask (m.acceptRequest b r) b.driverStatus .driverStatus fun _ => rfl
  rw [accepted.1] at read
  rw [handled]
  unfold Machine.sendDriverStatus Machine.driverStatus
  generalize (m.acceptRequest b r).ask b.driverStatus .driverStatus = asked at *
  rw [MotionBackend.statusAt, ← read] at failing
  obtain ⟨responses, now, few, announced, reported⟩ :=
    reportDriverStatus_effect b port r asked.2 failing
  have cached : (asked.2.reportDriverStatus b (.cached port) r.seq (asked.1.getD {})).cached =
      responses := by
    have empty : asked.2.cached = [] := called.cached.trans accepted.2
    rw [reported.cached, empty, CachedResponses.pushAll_of_le (by simpa using few)]
    rfl
  refine ⟨eventPacket r.seq .DRIVER_UART_FAILURE .ERROR 0 (asked.1.getD {}).rawStatus now, ?_, rfl,
    eventPacket_not_isResponse ..⟩
  dsimp only
  simp only [Machine.rememberRequest, cached, List.take_of_length_le few]
  exact announced

end

/-! ## What is sent again -/

section

variable {b : MotionBackend} {m : Machine} {r : Packet} {responses : List Packet}

/-- A repetition sends the packets kept, and keeps them. -/
theorem redelivered (remembered : m.act.toRequestCache = ⟨true, r, responses⟩) (port : Port) :
    (step b m (.handlePacket r port)).act.toRequestCache = ⟨true, r, responses⟩ ∧
      ∃ new, (step b m (.handlePacket r port)).sent = new ++ m.sent ∧
        new.map (·.packet) = responses.reverse := by
  have same : m.act.toRequestCache.sameRequest r = true := by
    rw [remembered]
    simp [RequestCache.sameRequest]
  have duplicate : m.act.toRequestCache.isDuplicate r = true := by
    rw [remembered]
    simp [RequestCache.isDuplicate]
  have kept : m.act.lastResponses = responses := congrArg RequestCache.lastResponses remembered
  obtain ⟨new, dropped, replayed, packets⟩ := answerDuplicate_eq (b := b) port same
  have handled : step b m (.handlePacket r port) = m.answerDuplicate b port r := by
    simp [step, Machine.handlePacket, duplicate]
  rw [handled, replayed]
  exact ⟨remembered, new, rfl, kept ▸ packets⟩

theorem run_redelivered (remembered : m.act.toRequestCache = ⟨true, r, responses⟩)
    (ports : List Port) :
    ∃ new, (run (step b) m (ports.map (.handlePacket r))).sent = new ++ m.sent ∧
      ∀ t ∈ new, t.packet ∈ responses := by
  induction ports generalizing m with
  | nil => exact ⟨[], rfl, by simp⟩
  | cons port ports ih =>
    obtain ⟨kept, new, sent, packets⟩ := redelivered (b := b) remembered port
    obtain ⟨later, sent', inside⟩ := ih kept
    refine ⟨later ++ new, ?_, List.forall_mem_append.mpr ⟨inside, ?_⟩⟩
    · rw [List.map_cons, run_cons, sent', sent, List.append_assoc]
    · intro t member
      have found : t.packet ∈ new.map (·.packet) := List.mem_map_of_mem member
      rw [packets] at found
      exact List.mem_reverse.mp found

/-- The failure is announced again with each repetition. -/
theorem AnnouncesFailure.again (announces : AnnouncesFailure b m r) (port port' : Port) :
    (m.handlePacket b port r).Sends .EVENT
      (run (step b) (m.handlePacket b port r) [.handlePacket r port']) := by
  obtain ⟨calls, responses, done⟩ := @handlePacket_executed b port r m announces.fresh
  obtain ⟨packet, member, id, -⟩ := announces.kept port
  obtain ⟨-, new, sent, packets⟩ := redelivered (b := b) done.requestCache port'
  have cached : (m.handlePacket b port r).act.lastResponses = responses := done.lastResponses
  have found : packet ∈ new.map (·.packet) := by
    rw [packets]
    exact List.mem_reverse.mpr (cached ▸ member)
  obtain ⟨t, inside, rfl⟩ := List.mem_map.mp found
  exact ⟨new, sent, t, inside, id⟩

end

/-! ## Main result -/

/-- What is kept of a request that ran is flagged as a response, and no repetition sends an
event, exactly when the request is no driver status query whose driver does not answer. -/
theorem no_event_replayed_iff (b : MotionBackend) (m : Machine) (r : Packet) (port : Port) :
    (m.act.isDuplicate r = false →
      (∀ packet ∈ (m.handlePacket b port r).act.lastResponses, packet.isResponse = true) ∧
        ∀ ports : List Port, ¬ (m.handlePacket b port r).Sends .EVENT
          (run (step b) (m.handlePacket b port r) (ports.map (.handlePacket r)))) ↔
      ¬ AnnouncesFailure b m r := by
  constructor
  · intro silent announces
    obtain ⟨-, unsent⟩ := silent announces.fresh
    exact unsent [none] (announces.again port none)
  · intro answers fresh
    obtain ⟨calls, responses, done⟩ := @handlePacket_executed b port r m fresh
    have cached : (m.handlePacket b port r).act.lastResponses = responses := done.lastResponses
    have flagged : ∀ packet ∈ responses, packet.isResponse = true := by
      rcases done.served.flagged with flagged | ⟨asks, failing⟩
      · exact flagged
      · exact absurd ⟨fresh, asks, failing⟩ answers
    have kept := handlePacket_keeps_answers b port fresh
    rw [cached] at kept ⊢
    refine ⟨flagged, ?_⟩
    rintro ports ⟨new, sent, t, inside, id⟩
    obtain ⟨new', sent', replayed⟩ := run_redelivered (b := b) done.requestCache ports
    obtain rfl : new' = new := List.append_cancel_right (sent'.symm.trans sent)
    have member := replayed t inside
    have answered := kept t.packet member (flagged t.packet member)
    rw [Packet.answers, id] at answered
    exact absurd answered (by decide)

/-- A backend whose driver was configured and does not answer. -/
def silentDriver : MotionBackend := { driverStatus := some fun _ => { configured := 1 } }

/-- Asking again for the driver status announces the failure again. -/
theorem failure_replayed :
    ¬ ∀ (b : MotionBackend) (m : Machine) (r : Packet) (port : Port), m.Reachable b →
      m.act.isDuplicate r = false → ∀ ports : List Port,
        ¬ (m.handlePacket b port r).Sends .EVENT
          (run (step b) (m.handlePacket b port r) (ports.map (.handlePacket r))) := by
  intro silent
  have announces : AnnouncesFailure silentDriver (.boot silentDriver {} {} [])
      (.request .GET_DRIVER_STATUS 1 []) := ⟨by decide, ⟨rfl, rfl⟩, by decide⟩
  exact silent silentDriver _ _ none ⟨_, _, _, rfl⟩ announces.fresh [none] (announces.again none none)

end Daft
