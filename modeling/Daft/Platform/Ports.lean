import Daft.Protocol.Packet
import Daft.Session.Delivery
import Daft.Session.Mirrors

/-!
# Ports that agree

What the actuator does depends on a port only through the packets it hands over, and
these all fit a frame. Two ports that answer alike for such packets make no difference.
-/

namespace Daft

open Logic

/-- What a port answers; a null pointer takes nothing. -/
def Port.takes (port : Port) (sent : List Transmission) (packet : Packet) : Bool :=
  match port with
  | none => false
  | some send => send sent packet

/-- The ports answer alike for every packet that fits a frame. -/
def Port.Agree (p q : Port) : Prop :=
  ∀ sent (packet : Packet), packet.Legal → p.takes sent packet = q.takes sent packet

/-- Writers in front of ports that agree. -/
structure ResponseWriter.Agree (w w' : ResponseWriter) : Prop where
  caches : w.caches = w'.caches
  downstream : w.downstream.Agree w'.downstream

/-! ## What is sent fits -/

/-- What answers a request fits a frame. -/
theorem Reply.legal {r : Packet} {replies : List Packet} (reply : Reply r replies) :
    ∀ packet ∈ replies, packet.Legal := by
  cases reply with
  | refused code => exact List.forall_mem_singleton.mpr (Packet.respond_legal (by decide))
  | responded _ _ responds =>
    exact List.forall_mem_singleton.mpr (Packet.legal_of_length responds.payloadLen)
  | ponged _ responds =>
    exact List.forall_mem_cons.mpr ⟨Packet.respond_legal (by decide),
      List.forall_mem_singleton.mpr (Packet.legal_of_length responds.payloadLen)⟩

/-- So does what is sent besides answers. -/
theorem Packet.Noise.legal {packet : Packet} (noise : packet.Noise) : packet.Legal := by
  rcases noise with ⟨-, -, length⟩ | ⟨-, length⟩
  · exact Packet.legal_of_length length
  · exact Packet.legal_of_length length

/-- So does what is kept for a repetition. -/
theorem RequestCache.Answered.legal {cache : RequestCache} (answered : cache.Answered) :
    ∀ packet ∈ cache.lastResponses, packet.Legal := by
  intro packet member
  cases kind : packet.answers with
  | true => exact answered.reply.legal packet (List.mem_filter.mpr ⟨member, kind⟩)
  | false => exact Packet.legal_of_length (answered.events packet member kind)

/-- So does everything a step delivers. -/
theorem Delivers.legal {m m' : Machine} {r : Packet} {replies : List Packet}
    (delivers : Delivers m replies m') (reply : Reply r replies) :
    ∃ new : List Transmission, m'.sent = new ++ m.sent ∧ ∀ t ∈ new, t.packet.Legal := by
  obtain ⟨new, sent, filtered, events⟩ := delivers
  refine ⟨new, sent, ?_⟩
  intro t member
  cases kind : t.packet.answers with
  | true =>
    have replied : t.packet ∈ replies := by
      rw [← List.mem_reverse, ← filtered]
      exact List.mem_filter.mpr ⟨List.mem_map_of_mem member, kind⟩
    exact reply.legal _ replied
  | false => exact Packet.legal_of_length (events t member kind)

/-- Whatever the step, the packets handed over fit a frame. -/
theorem step_legal {b : MotionBackend} {m : Machine} (replayable : m.Replayable) (op : Op) :
    ∃ new : List Transmission, (step b m op).sent = new ++ m.sent ∧ ∀ t ∈ new, t.packet.Legal := by
  by_cases own : ∀ r port, op ≠ .handlePacket r port
  · obtain ⟨new, sent, noise⟩ := step_noise (b := b) (m := m) own
    exact ⟨new, sent, fun t member => (noise t member).legal⟩
  · obtain ⟨r, port, rfl⟩ : ∃ r port, op = .handlePacket r port := by simpa using own
    have answered : ∃ replies, Delivers m replies (m.handlePacket b port r) ∧ Reply r replies :=
      handlePacket_delivers replayable
    obtain ⟨replies, delivers, reply⟩ := answered
    exact delivers.legal reply

/-! ## Sending -/

/-- A send is what the port takes, the log and the cache, and a count of what it drops. -/
theorem sendPacket_eq (m : Machine) (w : ResponseWriter) (packet : Packet) :
    m.sendPacket w packet = (w.downstream.takes m.sent packet, { m with
      cached := if w.caches then m.cached.push packet else m.cached
      sent := ⟨packet, w.caches, w.downstream.takes m.sent packet⟩ :: m.sent }) := rfl

section

variable {w w' : ResponseWriter} (agree : w.Agree w') (b : MotionBackend) (m : Machine)

include agree

namespace ResponseWriter.Agree

/-- Ports that agree on packets that fit a frame do the same with a response that does. -/
theorem sendResponse {packet : Packet} (legal : packet.Legal) :
    m.sendResponse w packet = m.sendResponse w' packet := by
  have same : m.sendPacket w packet = m.sendPacket w' packet := by
    rw [sendPacket_eq, sendPacket_eq, agree.caches, agree.downstream m.sent packet legal]
  rw [Machine.sendResponse, Machine.sendResponse, same]

/-- A response laid out by a sender fits a frame. -/
theorem respond {msg : MsgId} {flags : UInt8} {seq len : UInt16} {bytes : List UInt8}
    (short : len.toNat ≤ maxPayloadSize) :
    m.sendResponse w (.respond msg flags seq len bytes) =
      m.sendResponse w' (.respond msg flags seq len bytes) :=
  agree.sendResponse m (Packet.respond_legal short)

/-- An error fits a frame. -/
theorem sendError (seq : UInt16) (rejected : UInt8) (code : ErrorCode) :
    m.sendError w seq rejected code = m.sendError w' seq rejected code :=
  agree.respond _ (by decide : (2 : UInt16).toNat ≤ maxPayloadSize)

/-- An event fits a frame. -/
theorem sendEvent (seq : UInt16) (event : EventType) (severity : EventSeverity)
    (detail : UInt16) (value : UInt32) :
    m.sendEvent b w seq event severity detail value =
      m.sendEvent b w' seq event severity detail value :=
  agree.respond _ (by decide : (12 : UInt16).toNat ≤ maxPayloadSize)

/-- A change of state is announced in events, which fit a frame. -/
theorem transitionTo (state : ActuatorState) :
    m.transitionTo b state (some w) = m.transitionTo b state (some w') := by
  simp only [Machine.transitionTo, agree.sendEvent]

/-- A fault is announced in events, which fit a frame. -/
theorem setFault (flag : FaultFlag) : m.setFault b flag (some w) = m.setFault b flag (some w') := by
  simp only [Machine.setFault, Machine.raiseFault, agree.sendEvent, agree.transitionTo]

/-- A status fits a frame. -/
theorem sendStatus (seq : UInt16) (telemetry : Bool) :
    m.sendStatus b w seq telemetry = m.sendStatus b w' seq telemetry :=
  agree.respond _ (by decide : (32 : UInt16).toNat ≤ maxPayloadSize)

theorem sendIdentity (seq : UInt16) : m.sendIdentity w seq = m.sendIdentity w' seq :=
  agree.respond _ (by decide : (64 : UInt16).toNat ≤ maxPayloadSize)

theorem sendCapabilities (seq : UInt16) : m.sendCapabilities w seq = m.sendCapabilities w' seq :=
  agree.respond _ (by decide : (16 : UInt16).toNat ≤ maxPayloadSize)

theorem sendFaults (seq : UInt16) : m.sendFaults w seq = m.sendFaults w' seq :=
  agree.respond _ (by decide : (4 : UInt16).toNat ≤ maxPayloadSize)

/-- The counters fit a frame. -/
theorem sendCounters (seq : UInt16) : m.sendCounters b w seq = m.sendCounters b w' seq :=
  agree.respond _ (by decide : (28 : UInt16).toNat ≤ maxPayloadSize)

/-- A configuration value, or the error in its place, fits a frame. -/
theorem sendConfigValue (seq : UInt16) (field : ConfigField) :
    m.sendConfigValue w seq field = m.sendConfigValue w' seq field := by
  unfold Machine.sendConfigValue
  cases configFieldValue m.act.activeConfig field with
  | none => exact agree.sendError ..
  | some value => exact agree.respond _ (by decide : (8 : UInt16).toNat ≤ maxPayloadSize)

/-- A driver status, and the events before it, fit a frame. -/
theorem sendDriverStatus (seq : UInt16) : m.sendDriverStatus b w seq = m.sendDriverStatus b w' seq := by
  have report : ∀ m : Machine, ∀ bytes, m.sendResponse w
      (.respond .DRIVER_STATUS PacketFlag.RESPONSE.bits seq 16 bytes) = m.sendResponse w'
      (.respond .DRIVER_STATUS PacketFlag.RESPONSE.bits seq 16 bytes) :=
    fun m bytes => agree.respond m (by decide : (16 : UInt16).toNat ≤ maxPayloadSize)
  simp only [Machine.sendDriverStatus, Machine.reportDriverStatus, agree.setFault, agree.sendEvent,
    report]

end ResponseWriter.Agree

end

/-! ## Requests -/

namespace Port.Agree

variable {p q : Port} (agree : p.Agree q)

include agree

theorem port : (ResponseWriter.port p).Agree (.port q) := ⟨rfl, agree⟩

/-- The writers of a request agree where their ports do. -/
theorem cached : (ResponseWriter.cached p).Agree (.cached q) := ⟨rfl, agree⟩

variable (b : MotionBackend) (r : Packet) (m : Machine)

/-- The same machine over either port is a run in step with itself. -/
theorem mirrors : Mirrors id b b q p where
  control _ := rfl
  set _ _ := rfl
  enableDriver _ _ := rfl
  configureDriver _ _ := rfl
  moveAbsolute _ _ _ _ := rfl
  moveRelative _ _ _ _ := rfl
  runVelocity _ _ _ := rfl
  rampStop _ _ := rfl
  emergencyStop _ := rfl
  currentPosition _ := rfl
  motionActive _ := rfl
  saveConfig _ _ := rfl
  resetConfigStorage _ := rfl
  reboot _ := rfl
  acks m _ _ := agree.cached.respond m (by decide : (2 : UInt16).toNat ≤ maxPayloadSize)
  errors := agree.cached.sendError
  pongs m _ := agree.cached.respond m (by decide : (0 : UInt16).toNat ≤ maxPayloadSize)
  identity := agree.cached.sendIdentity
  capabilities := agree.cached.sendCapabilities
  status m seq := agree.cached.sendStatus b m seq false
  faults := agree.cached.sendFaults
  counters := agree.cached.sendCounters b
  configValue := agree.cached.sendConfigValue
  driverStatus := agree.cached.sendDriverStatus b
  event := agree.port.sendEvent b
  moveTo := agree.port.transitionTo b
  fails := agree.port.setFault b

/-- No handler tells apart two ports that agree. -/
theorem dispatch : m.dispatch b p r = m.dispatch b q r := (agree.mirrors b).dispatch m r

/-- A replay of packets that fit. -/
theorem replayLastResponse (legal : ∀ packet ∈ m.act.lastResponses, packet.Legal) :
    m.replayLastResponse (.port p) = m.replayLastResponse (.port q) := by
  unfold Machine.replayLastResponse
  generalize m.act.lastResponses = responses at legal
  induction responses generalizing m with
  | nil => rfl
  | cons packet responses ih =>
    obtain ⟨here, later⟩ := List.forall_mem_cons.mp legal
    rw [List.foldl_cons, List.foldl_cons, agree.port.sendResponse m here]
    exact ih _ later

/-- Over ports that agree a request makes the same of the actuator. -/
theorem handlePacket (replayable : m.Replayable) :
    m.handlePacket b p r = m.handlePacket b q r := by
  cases duplicate : m.act.isDuplicate r with
  | false => simp [Machine.handlePacket, duplicate, agree.dispatch]
  | true =>
    have valid : m.act.lastRequestValid = true := by
      simp [RequestCache.isDuplicate] at duplicate
      exact duplicate.1
    have heard : ((m.hearHost b).mapCounters fun c =>
        { c with duplicatePackets := c.duplicatePackets + 1 }).act.lastResponses =
          m.act.lastResponses := by
      rw [Machine.hearHost, Machine.nowMs_eq]
      rfl
    have replay := agree.replayLastResponse ((m.hearHost b).mapCounters fun c =>
      { c with duplicatePackets := c.duplicatePackets + 1 }) (heard ▸ (replayable valid).legal)
    simp [Machine.handlePacket, duplicate, Machine.answerDuplicate, replay, agree.port.sendError]

end Port.Agree

end Daft
