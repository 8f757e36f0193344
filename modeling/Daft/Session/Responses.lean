import Daft.Session.Delivery

/-!
# One answer to a request

A request that gets past the duplicate filter is answered by one packet flagged as a
response, an accepted `PING` by two; it is counted, and once more where the answer is
an error. The cache of the duplicate filter has room for everything sent through it.
-/

namespace Daft

open Logic

def Packet.isResponse (packet : Packet) : Bool := packet.flags &&& PacketFlag.RESPONSE.bits ≠ 0

def Packet.isError (packet : Packet) : Bool := packet.msgId = MsgId.ERROR.byte

/-- A packet with the response flag alone is a response. -/
theorem Packet.isResponse_of_flags {packet : Packet}
    (flags : packet.flags = PacketFlag.RESPONSE.bits) : packet.isResponse = true := by
  rw [Packet.isResponse, flags]
  decide

theorem errorPacket_isResponse (seq : UInt16) (rejected : UInt8) (code : ErrorCode) :
    (errorPacket seq rejected code).isResponse = true :=
  decide_eq_true (by decide : (PacketFlag.RESPONSE.bits ||| PacketFlag.ERROR.bits) &&&
    PacketFlag.RESPONSE.bits ≠ 0)

/-- An event is no response. -/
theorem eventPacket_not_isResponse (seq : UInt16) (event : EventType) (severity : EventSeverity)
    (detail : UInt16) (value now : UInt32) :
    (eventPacket seq event severity detail value now).isResponse = false :=
  decide_eq_false (by decide : ¬ (0 : UInt8) &&& PacketFlag.RESPONSE.bits ≠ 0)

/-- Of the packets handed over between the two machines those flagged as responses are
among `replies`, and each error among `replies` was counted. -/
structure Tallies (m : Machine) (replies : List Packet) (m' : Machine) : Prop where
  responses : ∃ new, m'.sent = new ++ m.sent ∧
    (new.map (·.packet)).filter Packet.isResponse = (replies.filter Packet.isResponse).reverse
  commands : m'.act.counters.commandCount = m.act.counters.commandCount
  rejected : m'.act.counters.rejectedCommands =
    m.act.counters.rejectedCommands + UInt32.ofNat (replies.countP Packet.isError)

/-! ## Steps of a handler -/

namespace Tallies

variable {m m' m'' : Machine} {replies replies' : List Packet} {b : MotionBackend}

/-- A stretch that sends nothing has nothing to tally. -/
theorem silent (sent : m'.sent = m.sent) (counters : m'.act.counters = m.act.counters) :
    Tallies m [] m' where
  responses := ⟨[], sent, rfl⟩
  commands := by rw [counters]
  rejected := by rw [counters, List.countP_nil]; exact (UInt32.add_zero _).symm

/-- The tallies of two stretches. -/
theorem trans (first : Tallies m replies m') (later : Tallies m' replies' m'') :
    Tallies m (replies ++ replies') m'' where
  responses := by
    obtain ⟨new, sent, filtered⟩ := first.responses
    obtain ⟨new', sent', filtered'⟩ := later.responses
    refine ⟨new' ++ new, by rw [sent', sent, List.append_assoc], ?_⟩
    rw [List.map_append, List.filter_append, filtered, filtered', List.filter_append,
      List.reverse_append]
  commands := later.commands.trans first.commands
  rejected := by
    rw [later.rejected, first.rejected, List.countP_append, UInt32.ofNat_add, UInt32.add_assoc]

/-- A step that hands over no response. -/
theorem quietly (first : Tallies m replies m') (later : Tallies m' [] m'') :
    Tallies m replies m'' :=
  List.append_nil replies ▸ first.trans later

/-- A response that is no error rejects nothing. -/
theorem sends (w : ResponseWriter) {packet : Packet} (accepts : packet.isError = false) :
    Tallies m [packet] (m.sendResponse w packet) := by
  obtain ⟨taken, sent, -, -⟩ := sendResponse_eq (m := m) (w := w) packet
  have counters : (m.sendResponse w packet).act.counters.commandCount = m.act.counters.commandCount ∧
      (m.sendResponse w packet).act.counters.rejectedCommands =
        m.act.counters.rejectedCommands := by
    simp only [Machine.sendResponse]
    split <;> exact ⟨rfl, rfl⟩
  refine ⟨⟨[⟨packet, w.caches, taken⟩], sent, ?_⟩, counters.1, ?_⟩
  · cases flagged : packet.isResponse <;> simp [flagged]
  · rw [counters.2, List.countP_cons_of_neg (by simp [accepts]), List.countP_nil]
    exact (UInt32.add_zero _).symm

/-- An error is tallied as a rejection. -/
theorem rejects (w : ResponseWriter) (seq : UInt16) (rejected : UInt8) (code : ErrorCode) :
    Tallies m [errorPacket seq rejected code] (m.sendError w seq rejected code) := by
  obtain ⟨taken, sent, -, -⟩ := sendResponse_eq (w := w)
    (m := m.mapCounters fun c => { c with rejectedCommands := c.rejectedCommands + 1 })
    (errorPacket seq rejected code)
  have counters : (m.sendError w seq rejected code).act.counters.commandCount =
        m.act.counters.commandCount ∧
      (m.sendError w seq rejected code).act.counters.rejectedCommands =
        m.act.counters.rejectedCommands + 1 := by
    simp only [Machine.sendError, Machine.sendResponse]
    split <;> exact ⟨rfl, rfl⟩
  exact ⟨⟨[⟨errorPacket seq rejected code, w.caches, taken⟩], sent,
    by simp [errorPacket_isResponse]⟩, counters.1, counters.2⟩

/-- An event is not flagged. -/
theorem announces (w : ResponseWriter) (seq : UInt16) (event : EventType)
    (severity : EventSeverity) (detail : UInt16) (value : UInt32) :
    Tallies m [] (m.sendEvent b w seq event severity detail value) := by
  have clock : Tallies m [] (m.nowMs b).2 := by
    rw [Machine.nowMs_eq]
    exact .silent rfl rfl
  have sent : Tallies (m.nowMs b).2 [eventPacket seq event severity detail value (m.nowMs b).1]
      (m.sendEvent b w seq event severity detail value) := .sends w rfl
  obtain ⟨⟨new, longer, filtered⟩, commands, rejected⟩ := sent
  rw [List.filter_cons_of_neg (by simp [eventPacket_not_isResponse])] at filtered
  exact clock.trans ⟨⟨new, longer, filtered⟩, commands, rejected⟩

/-- A change of state rejects nothing. -/
theorem moves (state : ActuatorState) (events : Option ResponseWriter) :
    Tallies m [] (m.transitionTo b state events) := by
  have entered : Tallies m [] (m.mapControl fun c => { c with state := state }) :=
    .silent rfl rfl
  unfold Machine.transitionTo
  split
  · exact .silent rfl rfl
  · cases events with
    | none => exact entered
    | some w => exact entered.trans (.announces ..)

/-- A fault rejects nothing by itself. -/
theorem fails (flag : FaultFlag) (events : Option ResponseWriter) :
    Tallies m [] (m.setFault b flag events) := by
  have set : Tallies m [] (m.mapControl fun c => { c with faults := c.faults ||| flag.value }) :=
    .silent rfl rfl
  have raised : Tallies m [] (m.raiseFault b flag events) := by
    unfold Machine.raiseFault
    cases events with
    | none => exact set
    | some w =>
      dsimp only
      split
      · exact set.trans (.announces ..)
      · exact set
  unfold Machine.setFault
  dsimp only
  split
  · exact raised
  · exact raised.trans (.moves ..)

end Tallies

/-- A walk rejects as often as it sends errors. -/
theorem Walk.tallies {b : MotionBackend} {heard : Option Port} {m m' : Machine}
    {replies : List Packet} (walk : Walk b heard m replies m') : Tallies m replies m' := by
  induction walk with
  | refl => exact .silent rfl rfl
  | quiet _ sent counters _ _ _ tallies => exact tallies.quietly (.silent sent counters)
  | announce _ _ seq event severity detail value _ tallies => exact tallies.quietly (.announces ..)
  | moveTo _ state _ tallies => exact tallies.quietly (.moves ..)
  | fails _ flag _ tallies => exact tallies.quietly (.fails ..)
  | respond _ _ _ _ _ accepts tallies => exact tallies.trans (.sends _ (decide_eq_false accepts))
  | reject _ _ _ seq rejected code tallies => exact tallies.trans (.rejects ..)

/-! ## Answers -/

section

variable {b : MotionBackend} {h : History} {r : Packet} {c c' : Control} {calls : List Call}
  {replies responses : List Packet}

/-- An answer is flagged as a response to its request. -/
theorem Reply.answers (reply : Reply r replies) :
    ∀ packet ∈ replies, packet.isResponse = true ∧ packet.seq = r.seq := by
  cases reply with
  | refused code => exact List.forall_mem_singleton.mpr ⟨errorPacket_isResponse .., rfl⟩
  | responded _ _ responds =>
    exact List.forall_mem_singleton.mpr
      ⟨Packet.isResponse_of_flags responds.flags, responds.seq⟩
  | ponged _ responds =>
    exact List.forall_mem_cons.mpr ⟨⟨Packet.isResponse_of_flags rfl, rfl⟩,
      List.forall_mem_singleton.mpr ⟨Packet.isResponse_of_flags responds.flags, responds.seq⟩⟩

/-- Every request but a ping gets one packet. -/
theorem Reply.length (reply : Reply r replies) (other : r.msgId ≠ MsgId.PING.byte) :
    replies.length = 1 := by
  cases reply with
  | refused => rfl
  | responded => rfl
  | ponged id => exact absurd id other

/-- At most one of the answers is an error. -/
theorem Reply.errors (reply : Reply r replies) :
    replies.countP Packet.isError = if replies.any Packet.isError then 1 else 0 := by
  cases reply with
  | refused => rfl
  | @responded _ _ packet =>
    cases rejects : packet.isError <;> simp [rejects]
  | @ponged pong _ responds =>
    have accepts : pong.isError = false := by
      rw [Packet.isError, responds.msgId]
      rfl
    have acked : (ackPacket r.seq r.msgId).isError = false := rfl
    simp [acked, accepts]

/-- A ping gets two, unless its payload is refused. -/
theorem Served.pinged (served : Served b h r c calls responses c')
    (id : r.msgId = MsgId.PING.byte) :
    responses = if r.payloadLen = 0 then
        [ackPacket r.seq r.msgId, .respond .PONG PacketFlag.RESPONSE.bits r.seq 0 []]
      else [errorPacket r.seq r.msgId .ERR_BAD_PAYLOAD] := by
  have found : MsgId.ofByte r.msgId = some .PING := by rw [id, MsgId.ofByte_byte]
  have expected : MsgId.PING.requestLength = some 0 := rfl
  cases served with
  | ponged asks => rw [if_pos (asks.rightLength id expected)]
  | refused refusal =>
    cases refusal with
    | badPayload id' expects wrong =>
      obtain rfl := MsgId.byte_injective (id'.symm.trans id)
      obtain rfl := Option.some.inj (expects.symm.trans expected)
      rw [if_neg wrong]
    | _ => grind
  | unsupported unsupported => exact absurd ((unsupported _ found).symm.trans expected) (by simp)
  | _ => grind

end

/-- What is handed over, counted and cached for a request that gets past the filter. -/
structure AnsweredBy (m : Machine) (r : Packet) (new : List Transmission) (replies : List Packet)
    (m' : Machine) : Prop where
  reply : Reply r replies
  sent : m'.sent = new ++ m.sent
  responses : (new.map (·.packet)).reverse.filter Packet.isResponse = replies
  commands : m'.act.counters.commandCount = m.act.counters.commandCount + 1
  rejected : m'.act.counters.rejectedCommands =
    m.act.counters.rejectedCommands + UInt32.ofNat (replies.countP Packet.isError)

theorem handlePacket_answeredBy (b : MotionBackend) (port : Port) {m : Machine} {r : Packet}
    (fresh : m.act.isDuplicate r = false) :
    ∃ new replies, AnsweredBy m r new replies (m.handlePacket b port r) ∧
      Hands m replies (m.handlePacket b port r) := by
  obtain ⟨replies, after, walk, reply, handled⟩ := handlePacket_walks b port fresh
  obtain ⟨sent, commands, rejected⟩ : (m.acceptRequest b r).sent = m.sent ∧
      (m.acceptRequest b r).act.counters.commandCount = m.act.counters.commandCount + 1 ∧
      (m.acceptRequest b r).act.counters.rejectedCommands =
        m.act.counters.rejectedCommands := by
    rw [Machine.acceptRequest_eq]
    exact ⟨rfl, rfl, rfl⟩
  have tallies := walk.tallies
  obtain ⟨new, longer, filtered⟩ := tallies.responses
  have flagged : replies.filter Packet.isResponse = replies :=
    List.filter_eq_self.mpr fun packet member => (reply.answers packet member).1
  rw [handled]
  refine ⟨new, replies, ⟨reply, ?_, ?_, ?_, ?_⟩, ?_⟩
  · rw [← sent]
    exact longer
  · rw [List.filter_reverse, filtered, flagged, List.reverse_reverse]
  · rw [← commands]
    exact tallies.commands
  · rw [← rejected]
    exact tallies.rejected
  · have accepted : Hands m [] (m.acceptRequest b r) := .unsent sent
    exact (accepted.trans walk.hands).quietly (.unsent rfl)

/-- A request that gets past the duplicate filter is answered once, by packets with its
number: an accepted `PING` with `ACK` and then `PONG`, any other by one packet. It is counted,
and once more where the answer is an error, and the cache holds all that was to be kept. -/
theorem answered_once (b : MotionBackend) (m : Machine) (r : Packet) (port : Port)
    (fresh : m.act.isDuplicate r = false) :
    ∃ new answers, (m.handlePacket b port r).sent = new ++ m.sent ∧
      (new.map (·.packet)).reverse.filter Packet.isResponse = answers ∧
      (∀ packet ∈ answers, packet.seq = r.seq) ∧
      (if r.msgId = MsgId.PING.byte ∧ r.payloadLen = 0 then
          answers.map (·.msgId) = [MsgId.ACK.byte, MsgId.PONG.byte]
        else answers.length = 1) ∧
      (m.handlePacket b port r).act.counters.commandCount = m.act.counters.commandCount + 1 ∧
      (m.handlePacket b port r).act.counters.rejectedCommands =
        m.act.counters.rejectedCommands + (if answers.any Packet.isError then 1 else 0) ∧
      (new.filter (·.cached)).length ≤ 4 ∧
      (m.handlePacket b port r).act.lastResponses =
        ((new.filter (·.cached)).map (·.packet)).reverse := by
  obtain ⟨new, replies, answered, hands⟩ :=
    handlePacket_answeredBy b port fresh
  obtain ⟨calls, responses, done⟩ := @handlePacket_executed b port r m fresh
  obtain ⟨passed, -⟩ := hands.cached done.sent
  have packets := done.sent.packets answered.sent
  have reply := answered.reply
  refine ⟨new, replies, answered.sent, answered.responses,
    fun packet member => (reply.answers packet member).2, ?_, answered.commands, ?_, ?_, ?_⟩
  · split
    case isTrue ping =>
      have pinged := done.served.pinged ping.1
      rw [if_pos ping.2] at pinged
      rw [← passed, pinged]
      rfl
    case isFalse other =>
      by_cases id : r.msgId = MsgId.PING.byte
      · have pinged := done.served.pinged id
        rw [if_neg fun length => other ⟨id, length⟩] at pinged
        rw [← passed, pinged]
        rfl
      · exact reply.length id
  · rw [answered.rejected, reply.errors]
    split <;> rfl
  · rw [← List.length_map (·.packet), packets, List.length_reverse]
    exact done.served.few
  · rw [packets, List.reverse_reverse]
    exact done.lastResponses

/-- A `PING` after start-up gets both. -/
theorem answered_once_ping :
    (Machine.boot {} {} {} []).act.isDuplicate (.request .PING 1 []) = false ∧
      ∃ new answers, ((Machine.boot {} {} {} []).handlePacket {} none (.request .PING 1 [])).sent =
          new ++ (Machine.boot {} {} {} []).sent ∧
        (new.map (·.packet)).reverse.filter Packet.isResponse = answers ∧
        answers.map (·.msgId) = [MsgId.ACK.byte, MsgId.PONG.byte] := by
  have fresh : (Machine.boot {} {} {} []).act.isDuplicate (.request .PING 1 []) = false := by decide
  obtain ⟨new, answers, sent, responses, -, both, -⟩ := answered_once {} _ _ none fresh
  exact ⟨fresh, new, answers, sent, responses, both⟩

end Daft
