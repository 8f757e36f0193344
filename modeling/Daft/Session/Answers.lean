import Daft.Protocol.Packet
import Daft.Session.Announcements

/-!
# What answers a request

Besides events, a request is answered by one packet: an error, or the response its
message has; a `PING` by an acknowledgement and a `PONG`. All of them go through the
caching writer, so a request that is repeated gets the same answer again.
-/

namespace Daft

open Logic

/-- No event. -/
def Packet.answers (packet : Packet) : Bool := packet.msgId ≠ MsgId.EVENT.byte

/-- The payload length of a response. -/
def MsgId.responseLength : MsgId → UInt16
  | .IDENTITY => 64
  | .CAPABILITIES | .DRIVER_STATUS => 16
  | .STATUS => 32
  | .FAULTS => 4
  | .COUNTERS => 28
  | .CONFIG_VALUE => 8
  | .ACK | .ERROR => 2
  | .EVENT => 12
  | _ => 0

/-- Replies and events fit a frame. -/
theorem Packet.legal_of_length {packet : Packet} {msg : MsgId}
    (length : packet.payloadLen = msg.responseLength) : packet.Legal := by
  rw [Packet.Legal, length]
  cases msg <;> decide

/-- A response laid out within the limit fits a frame. -/
theorem Packet.respond_legal {msg : MsgId} {flags : UInt8} {seq len : UInt16} {bytes : List UInt8}
    (short : len.toNat ≤ maxPayloadSize) : (Packet.respond msg flags seq len bytes).Legal :=
  short

/-- The response a request has where it is not refused. -/
def MsgId.response : MsgId → Option MsgId
  | .GET_IDENTITY => some .IDENTITY
  | .GET_CAPABILITIES => some .CAPABILITIES
  | .GET_STATUS => some .STATUS
  | .GET_FAULTS => some .FAULTS
  | .GET_COUNTERS => some .COUNTERS
  | .CONFIG_QUERY => some .CONFIG_VALUE
  | .GET_DRIVER_STATUS => some .DRIVER_STATUS
  | .HEARTBEAT | .SET_CONTROL_MODE | .ESTOP | .RAMP_STOP | .CLEAR_FAULTS | .CONFIG_STAGE_FIELD
  | .CONFIG_APPLY | .CONFIG_SAVE | .CONFIG_RESET_DEFAULTS | .REBOOT | .MOVE_ABS | .MOVE_REL
  | .RUN_VEL | .SET_TELEM_RATE => some .ACK
  | _ => none

/-- A response to the request `r`, of the length its message has. -/
structure Packet.Responds (r : Packet) (response : MsgId) (packet : Packet) : Prop where
  msgId : packet.msgId = response.byte
  flags : packet.flags = PacketFlag.RESPONSE.bits
  seq : packet.seq = r.seq
  payloadLen : packet.payloadLen = response.responseLength

/-- The packets besides events that a request gets. -/
inductive Reply (r : Packet) : List Packet → Prop where
  | refused (code : ErrorCode) : Reply r [errorPacket r.seq r.msgId code]
  | responded {msg response : MsgId} {packet : Packet} (id : r.msgId = msg.byte)
      (expects : msg.response = some response) (responds : r.Responds response packet) :
      Reply r [packet]
  | ponged {pong : Packet} (id : r.msgId = MsgId.PING.byte) (responds : r.Responds .PONG pong) :
      Reply r [ackPacket r.seq r.msgId, pong]

/-- A reply depends on the message and the number of the request alone. -/
theorem Reply.of_same {r r' : Packet} {replies : List Packet} (reply : Reply r replies)
    (seq : r'.seq = r.seq) (msgId : r'.msgId = r.msgId) : Reply r' replies := by
  cases reply with
  | refused code =>
    rw [← seq, ← msgId]
    exact .refused code
  | responded id expects responds =>
    exact .responded (msgId.trans id) expects ⟨responds.msgId, responds.flags,
      responds.seq.trans seq.symm, responds.payloadLen⟩
  | ponged id responds =>
    rw [← seq, ← msgId]
    exact .ponged (msgId.trans id) ⟨responds.msgId, responds.flags,
      responds.seq.trans seq.symm, responds.payloadLen⟩

/-- Between the two machines `replies` were handed over besides events, all of them
through the caching writer. -/
def Hands (m : Machine) (replies : List Packet) (m' : Machine) : Prop :=
  ∃ new : List Transmission, m'.sent = new ++ m.sent ∧
    (new.map (·.packet)).filter Packet.answers = replies.reverse ∧
    (∀ t ∈ new, t.packet.answers = true → t.cached = true) ∧
    ∀ t ∈ new, t.packet.answers = false → t.packet.payloadLen = MsgId.EVENT.responseLength

/-! ## Composition -/

section

variable {m m' m'' : Machine} {replies replies' : List Packet} {b : MotionBackend}

namespace Hands

/-- Nothing is handed over. -/
theorem refl (m : Machine) : Hands m [] m := ⟨[], rfl, rfl, by simp, by simp⟩

/-- What two stretches hand over. -/
theorem trans (first : Hands m replies m') (later : Hands m' replies' m'') :
    Hands m (replies ++ replies') m'' := by
  obtain ⟨new, sent, filtered, cached, events⟩ := first
  obtain ⟨new', sent', filtered', cached', events'⟩ := later
  refine ⟨new' ++ new, by rw [sent', sent, List.append_assoc], ?_, ?_, ?_⟩
  · rw [List.map_append, List.filter_append, filtered, filtered', List.reverse_append]
  · exact List.forall_mem_append.mpr ⟨cached', cached⟩
  · exact List.forall_mem_append.mpr ⟨events', events⟩

/-- Nothing was handed over. -/
theorem unsent (same : m'.sent = m.sent) : Hands m [] m' := ⟨[], same, rfl, by simp, by simp⟩

/-- A response that is kept is handed over and cached. -/
theorem sends {w : ResponseWriter} {packet : Packet} (caches : w.caches = true)
    (answers : packet.answers = true) : Hands m [packet] (m.sendResponse w packet) := by
  obtain ⟨taken, sent, -, -⟩ := sendResponse_eq (m := m) (w := w) packet
  refine ⟨[⟨packet, w.caches, taken⟩], sent, ?_, ?_, ?_⟩
  · simp [answers]
  · simp [caches]
  · simp [answers]

/-- An event is handed over besides. -/
theorem event (w : ResponseWriter) (seq : UInt16) (event : EventType) (severity : EventSeverity)
    (detail : UInt16) (value : UInt32) :
    Hands m [] (m.sendEvent b w seq event severity detail value) := by
  obtain ⟨taken, sent, -, -⟩ := sendResponse_eq (m := (m.nowMs b).2) (w := w)
    (eventPacket seq event severity detail value (m.nowMs b).1)
  have before : (m.nowMs b).2.sent = m.sent := by
    rw [Machine.nowMs_eq]
  rw [before] at sent
  exact ⟨[_], sent, rfl, by simp [eventPacket, Packet.respond, Packet.answers],
    by simp [eventPacket, Packet.respond, MsgId.responseLength]⟩

end Hands

end

/-! ## Steps of a handler -/

namespace Hands

variable {m m' : Machine} {replies : List Packet} {b : MotionBackend} {down : Port} {r : Packet}
  (hands : Hands m replies m')

include hands

/-- A step that hands over nothing but events. -/
theorem quietly {m'' : Machine} (later : Hands m' [] m'') : Hands m replies m'' :=
  List.append_nil replies ▸ hands.trans later

/-- Callbacks hand over nothing. -/
theorem ask {α : Type} (callback : Option (History → α)) (record : α → Call) :
    Hands m replies (m'.ask callback record).2 := by
  apply hands.quietly
  cases callback <;> exact unsent rfl

theorem set (f : Control → Control) : Hands m replies (m'.mapControl f) :=
  hands.quietly (unsent rfl)

theorem count (f : Counters → Counters) : Hands m replies (m'.mapCounters f) :=
  hands.quietly (unsent rfl)

/-- An event after what was handed over. -/
theorem announce (w : ResponseWriter) (seq : UInt16) (type : EventType)
    (severity : EventSeverity) (detail : UInt16) (value : UInt32) :
    Hands m replies (m'.sendEvent b w seq type severity detail value) :=
  hands.quietly (event ..)

/-- A change of state hands over an event at most. -/
theorem moveTo (state : ActuatorState) (events : Option ResponseWriter) :
    Hands m replies (m'.transitionTo b state events) := by
  unfold Machine.transitionTo
  split
  · exact hands
  · cases events with
    | none => exact hands.set _
    | some w => exact (hands.set _).announce ..

/-- A fault hands over events at most. -/
theorem fails (flag : FaultFlag) (events : Option ResponseWriter) :
    Hands m replies (m'.setFault b flag events) := by
  have raised : Hands m replies (m'.raiseFault b flag events) := by
    unfold Machine.raiseFault
    cases events with
    | none => exact hands.set _
    | some w =>
      dsimp only
      split
      · exact (hands.set _).announce ..
      · exact hands.set _
  unfold Machine.setFault
  dsimp only
  split
  · exact raised
  · exact raised.moveTo ..

end Hands

/-! ## Requests -/

/-- The machine `m'` has answered `r`, `m` had not. -/
def Replies (r : Packet) (m m' : Machine) : Prop := ∃ replies, Hands m replies m' ∧ Reply r replies

/-- A request for a message that is acknowledged. -/
def Packet.Acked (r : Packet) : Prop := ∃ msg : MsgId, r.msgId = msg.byte ∧ msg.response = some .ACK

end Daft
