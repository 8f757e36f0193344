import Daft.Firmware.Steps
import Daft.Protocol.Packet

/-!
# The origin of the clock

The firmware compares times by their difference alone. A run whose clock is ahead
by `k` therefore is the first run with every reading of the clock, and every
uptime it sent, advanced by `k`; where the 32-bit counter wraps makes no difference.
-/

namespace Daft

open Logic

/-! ## Packets -/

/-- Where a packet the firmware sends carries its uptime. -/
def uptimeOffset (packet : Packet) : Option Nat :=
  if packet.msgId = MsgId.STATUS.byte then some 20
  else if packet.msgId = MsgId.COUNTERS.byte then some 24
  else if packet.msgId = MsgId.EVENT.byte then some 8
  else none

/-- A packet sent `k` milliseconds later. -/
def Packet.advance (k : UInt32) (packet : Packet) : Packet :=
  match uptimeOffset packet with
  | none => packet
  | some offset =>
    { packet with
      payload := Payload.ofBytes (packet.payload.toList.take offset ++
        writeU32 (readU32 (packet.at offset) + k) ++ packet.payload.toList.drop (offset + 4)) }

/-- Zeroes after the bytes are what the buffer holds anyway. -/
theorem Payload.ofBytes_zeros {bytes : List UInt8} {count : Nat}
    (full : bytes.length + count = maxPayloadSize) :
    Payload.ofBytes (bytes ++ List.replicate count 0) = Payload.ofBytes bytes := by
  apply Vector.toList_inj.mp
  have rest : maxPayloadSize - bytes.length = count := by omega
  rw [Payload.ofBytes_toList (by simp; omega), Payload.ofBytes_toList (by omega), rest]
  simp [full]

/-- The uptime of a packet as its sender builds it. -/
theorem Packet.advance_respond (k : UInt32) (msg : MsgId) (flags : UInt8) (seq len : UInt16)
    (front back : List UInt8) (now : UInt32)
    (offset : uptimeOffset (.respond msg flags seq len (front ++ writeU32 now ++ back)) =
      some front.length)
    (fits : front.length + 4 + back.length ≤ maxPayloadSize) :
    (Packet.respond msg flags seq len (front ++ writeU32 now ++ back)).advance k =
      .respond msg flags seq len (front ++ writeU32 (now + k) ++ back) := by
  have whole : (front ++ writeU32 now ++ back).length ≤ maxPayloadSize := by
    simp [writeU32]
    omega
  have stored : (Packet.respond msg flags seq len (front ++ writeU32 now ++ back)).payload.toList =
      front ++ (writeU32 now ++ (back ++ List.replicate
        (maxPayloadSize - (front ++ writeU32 now ++ back).length) 0)) := by
    show (Payload.ofBytes _).toList = _
    rw [Payload.ofBytes_toList whole]
    simp only [List.append_assoc]
  have read : readU32 ((Packet.respond msg flags seq len (front ++ writeU32 now ++ back)).at
      front.length) = now := by
    rw [Packet.at, stored, List.drop_left, readU32_writeU32]
  have tail : ∀ rest : List UInt8, (front ++ (writeU32 now ++ rest)).drop (front.length + 4) = rest := by
    intro rest
    rw [← List.drop_drop, List.drop_left]
    rfl
  unfold Packet.advance
  rw [offset]
  dsimp only
  rw [read, stored, List.take_left, tail]
  have zeros : (front ++ writeU32 (now + k) ++ back).length +
      (maxPayloadSize - (front ++ writeU32 now ++ back).length) = maxPayloadSize := by
    simp only [List.length_append, writeU32, List.length_cons, List.length_nil] at whole ⊢
    omega
  rw [← List.append_assoc _ back, Payload.ofBytes_zeros zeros]
  rfl

/-- A packet without an uptime. -/
theorem Packet.advance_timeless (k : UInt32) {packet : Packet}
    (timeless : uptimeOffset packet = none) : packet.advance k = packet := by
  rw [advance, timeless]

/-! ## Machines -/

def Call.advance (k : UInt32) : Call → Call
  | .millis now => .millis (now + k)
  | call => call

def Transmission.advance (k : UInt32) (t : Transmission) : Transmission :=
  { t with packet := t.packet.advance k }

/-- The machine of a run whose clock is ahead by `k`. -/
def Machine.advance (k : UInt32) (m : Machine) : Machine :=
  { m with
    act := { m.act with
      lastResponses := m.act.lastResponses.map (Packet.advance k)
      lastHostMs := m.act.lastHostMs + k
      lastTelemetryMs := m.act.lastTelemetryMs + k }
    cached := m.cached.map (Packet.advance k)
    calls := m.calls.map (Call.advance k)
    sent := m.sent.map (Transmission.advance k) }

/-- The same answers to the same calls, at any time. -/
inductive SameAnswers (k : UInt32) {α : Type} :
    Option (History → α) → Option (History → α) → Prop where
  | null : SameAnswers k none none
  | wired {f f' : History → α} (same : ∀ h, f' (h.map (Call.advance k)) = f h) :
      SameAnswers k (some f) (some f')

/-- The backend `b'` answers as `b` does, and its clock is ahead by `k`. -/
structure ClockAhead (k : UInt32) (b b' : MotionBackend) : Prop where
  wired : b'.millis.isSome = b.millis.isSome
  millis : ∀ h, (b'.millis.map fun f => f (h.map (Call.advance k))).getD 0 =
    (b.millis.map fun f => f h).getD 0 + k
  enableDriver : SameAnswers k b.enableDriver b'.enableDriver
  configureDriver : SameAnswers k b.configureDriver b'.configureDriver
  moveAbsolute : SameAnswers k b.moveAbsolute b'.moveAbsolute
  moveRelative : SameAnswers k b.moveRelative b'.moveRelative
  runVelocity : SameAnswers k b.runVelocity b'.runVelocity
  rampStop : SameAnswers k b.rampStop b'.rampStop
  emergencyStop : b'.emergencyStop = b.emergencyStop
  currentPosition : SameAnswers k b.currentPosition b'.currentPosition
  targetPosition : SameAnswers k b.targetPosition b'.targetPosition
  currentSpeed : SameAnswers k b.currentSpeed b'.currentSpeed
  motionActive : SameAnswers k b.motionActive b'.motionActive
  driverStatus : SameAnswers k b.driverStatus b'.driverStatus
  saveConfig : SameAnswers k b.saveConfig b'.saveConfig
  loadConfig : SameAnswers k b.loadConfig b'.loadConfig
  resetConfigStorage : SameAnswers k b.resetConfigStorage b'.resetConfigStorage
  reboot : b'.reboot = b.reboot
  bootReason : SameAnswers k b.bootReason b'.bootReason

/-- The same answers to the same packets, at any time. -/
inductive SamePort (k : UInt32) : Port → Port → Prop where
  | null : SamePort k none none
  | wired {send send' : List Transmission → Packet → Bool}
      (same : ∀ sent packet,
        send' (sent.map (Transmission.advance k)) (packet.advance k) = send sent packet) :
      SamePort k (some send) (some send')

inductive SameWriter (k : UInt32) : ResponseWriter → ResponseWriter → Prop where
  | port {down down' : Port} (same : SamePort k down down') : SameWriter k (.port down) (.port down')
  | cached {down down' : Port} (same : SamePort k down down') :
      SameWriter k (.cached down) (.cached down')

section

variable {k : UInt32} {α β : Type} {callback callback' : Option (History → α)}

/-- What is made of the answers of both callbacks is the same. -/
theorem SameAnswers.map (same : SameAnswers k callback callback') (use : α → β) :
    SameAnswers k (callback.map fun f h => use (f h)) (callback'.map fun f h => use (f h)) := by
  cases same with
  | null => exact .null
  | wired same => exact .wired fun h => congrArg use (same h)

/-- A callback without an answer has the same answer. -/
theorem SameAnswers.unit {callback callback' : Option Unit} (same : callback' = callback) :
    SameAnswers k (callback.map fun _ (_ : History) => ()) (callback'.map fun _ _ => ()) := by
  subst same
  cases callback' with
  | none => exact .null
  | some => exact .wired fun _ => rfl

end

/-! ## Calls -/

section

variable {k : UInt32} {b b' : MotionBackend}

namespace Machine

variable {m : Machine}

/-- No member of the control part is a time. -/
@[simp] theorem advance_control : (m.advance k).act.toControl = m.act.toControl := rfl

/-- No counter is a time. -/
@[simp] theorem advance_counters : (m.advance k).act.counters = m.act.counters := rfl

/-- A change of the control part sees no time. -/
theorem advance_mapControl (f : Control → Control) :
    (m.advance k).mapControl f = (m.mapControl f).advance k := rfl

/-- A change of the counters sees no time. -/
theorem advance_mapCounters (f : Counters → Counters) :
    (m.advance k).mapCounters f = (m.mapCounters f).advance k := rfl

/-- A callback with the same answers is asked alike, whenever that is. -/
theorem advance_ask {α : Type} {callback callback' : Option (History → α)} {record : α → Call}
    (same : SameAnswers k callback callback') (timeless : ∀ a, (record a).advance k = record a) :
    (m.advance k).ask callback' record =
      ((m.ask callback record).1, (m.ask callback record).2.advance k) := by
  cases same with
  | null => rfl
  | @wired f f' same =>
    have answer : f' (m.advance k).calls = f m.calls := same m.calls
    simp only [ask, answer]
    refine Prod.ext rfl ?_
    simp only [advance, List.map_cons, timeless]

end Machine

namespace ClockAhead

variable (ahead : ClockAhead k b b') (m : Machine)

include ahead

/-- The clock itself is the one callback that is ahead. -/
theorem ask_millis :
    (m.advance k).nowMs b' = ((m.nowMs b).1 + k, (m.nowMs b).2.advance k) := by
  have reading := ahead.millis m.calls
  have wired := ahead.wired
  have calls : (m.advance k).calls = m.calls.map (Call.advance k) := rfl
  unfold Machine.nowMs Machine.ask
  rw [calls]
  cases clock : b.millis with
  | none =>
    cases clock' : b'.millis with
    | none =>
      rw [clock, clock'] at reading
      exact Prod.ext reading rfl
    | some => simp [clock, clock'] at wired
  | some f =>
    cases clock' : b'.millis with
    | none => simp [clock, clock'] at wired
    | some f' =>
      have now : f' (m.calls.map (Call.advance k)) = f m.calls + k := by
        simpa [clock, clock'] using reading
      refine Prod.ext now ?_
      simp only [Machine.advance, now, List.map_cons, Call.advance]

theorem ask_enableDriver (enabled : Bool) : (m.advance k).enableDriver b' enabled =
    ((m.enableDriver b enabled).1, (m.enableDriver b enabled).2.advance k) :=
  Machine.advance_ask (ahead.enableDriver.map fun f => f enabled) fun _ => rfl

theorem ask_configureDriver (config : Tmc2209Config) : (m.advance k).configureDriver b' config =
    ((m.configureDriver b config).1, (m.configureDriver b config).2.advance k) :=
  Machine.advance_ask (ahead.configureDriver.map fun f => f config) fun _ => rfl

/-- A move is commanded alike, whenever that is. -/
theorem ask_moveAbsolute (target : Int32) (velocity accel : UInt32) :
    (m.advance k).moveAbsolute b' target velocity accel =
      ((m.moveAbsolute b target velocity accel).1,
        (m.moveAbsolute b target velocity accel).2.advance k) :=
  Machine.advance_ask (ahead.moveAbsolute.map fun f => f target velocity accel) fun _ => rfl

theorem ask_moveRelative (delta : Int32) (velocity accel : UInt32) :
    (m.advance k).moveRelative b' delta velocity accel =
      ((m.moveRelative b delta velocity accel).1,
        (m.moveRelative b delta velocity accel).2.advance k) :=
  Machine.advance_ask (ahead.moveRelative.map fun f => f delta velocity accel) fun _ => rfl

theorem ask_runVelocity (velocity : Int32) (accel : UInt32) :
    (m.advance k).runVelocity b' velocity accel =
      ((m.runVelocity b velocity accel).1, (m.runVelocity b velocity accel).2.advance k) :=
  Machine.advance_ask (ahead.runVelocity.map fun f => f velocity accel) fun _ => rfl

theorem ask_rampStop (decel : UInt32) : (m.advance k).rampStop b' decel =
    ((m.rampStop b decel).1, (m.rampStop b decel).2.advance k) :=
  Machine.advance_ask (ahead.rampStop.map fun f => f decel) fun _ => rfl

theorem ask_motionActive : (m.advance k).motionActive b' =
    ((m.motionActive b).1, (m.motionActive b).2.advance k) :=
  Machine.advance_ask ahead.motionActive fun _ => rfl

theorem ask_saveConfig (config : ActuatorConfig) : (m.advance k).saveConfig b' config =
    ((m.saveConfig b config).1, (m.saveConfig b config).2.advance k) :=
  Machine.advance_ask (ahead.saveConfig.map fun f => f config) fun _ => rfl

theorem ask_loadConfig : (m.advance k).loadConfig b' =
    ((m.loadConfig b).1, (m.loadConfig b).2.advance k) :=
  Machine.advance_ask ahead.loadConfig fun _ => rfl

theorem ask_resetConfigStorage : (m.advance k).resetConfigStorage b' =
    ((m.resetConfigStorage b).1, (m.resetConfigStorage b).2.advance k) :=
  Machine.advance_ask ahead.resetConfigStorage fun _ => rfl

/-- An emergency stop is wired on both sides or on neither. -/
theorem ask_emergencyStop :
    (m.advance k).emergencyStop b' = (m.emergencyStop b).advance k :=
  congrArg Prod.snd (Machine.advance_ask (.unit ahead.emergencyStop) fun _ => rfl)

theorem ask_reboot : (m.advance k).reboot b' = (m.reboot b).advance k :=
  congrArg Prod.snd (Machine.advance_ask (.unit ahead.reboot) fun _ => rfl)

/-- The reason of the start is read alike. -/
theorem ask_bootReason : (m.advance k).bootReason b' =
    ((m.bootReason b).1, (m.bootReason b).2.advance k) := by
  unfold Machine.bootReason
  rw [Machine.advance_ask ahead.bootReason fun _ => rfl]

/-- The driver is read alike, whenever that is. -/
theorem ask_driverStatus : (m.advance k).driverStatus b' =
    ((m.driverStatus b).1, (m.driverStatus b).2.advance k) := by
  unfold Machine.driverStatus
  rw [Machine.advance_ask ahead.driverStatus fun _ => rfl]

/-- The position is read alike, with the direction it is reported in. -/
theorem ask_currentPosition : (m.advance k).logicalCurrentPosition b' =
    ((m.logicalCurrentPosition b).1, (m.logicalCurrentPosition b).2.advance k) := by
  unfold Machine.logicalCurrentPosition
  rw [Machine.advance_ask ahead.currentPosition fun _ => rfl, Machine.advance_control]

theorem ask_targetPosition : (m.advance k).logicalTargetPosition b' =
    ((m.logicalTargetPosition b).1, (m.logicalTargetPosition b).2.advance k) := by
  unfold Machine.logicalTargetPosition
  rw [Machine.advance_ask ahead.targetPosition fun _ => rfl, Machine.advance_control]

theorem ask_currentSpeed : (m.advance k).logicalCurrentSpeed b' =
    ((m.logicalCurrentSpeed b).1, (m.logicalCurrentSpeed b).2.advance k) := by
  unfold Machine.logicalCurrentSpeed
  rw [Machine.advance_ask ahead.currentSpeed fun _ => rfl, Machine.advance_control]

end ClockAhead

/-! ## Sending -/

namespace SameWriter

variable {w w' : ResponseWriter} (same : SameWriter k w w') (m : Machine)

include same

/-- A port that differs in the times of packets alone takes them alike. -/
theorem sendPacket (packet : Packet) : (m.advance k).sendPacket w' (packet.advance k) =
    ((m.sendPacket w packet).1, (m.sendPacket w packet).2.advance k) := by
  have pushed : CachedResponses.push (m.advance k).cached (packet.advance k) =
      (CachedResponses.push m.cached packet).map (Packet.advance k) := by
    show CachedResponses.push (m.cached.map _) _ = _
    unfold CachedResponses.push
    rw [List.length_map]
    split <;> simp
  cases same with
  | port same =>
    cases same with
    | null => rfl
    | @wired send send' same =>
      have taken : send' (m.advance k).sent (packet.advance k) = send m.sent packet :=
        same m.sent packet
      simp only [Machine.sendPacket, ResponseWriter.downstream, taken]
      rfl
  | cached same =>
    cases same with
    | null =>
      simp only [Machine.sendPacket, pushed]
      rfl
    | @wired send send' same =>
      have taken : send' (m.advance k).sent (packet.advance k) = send m.sent packet :=
        same m.sent packet
      simp only [Machine.sendPacket, ResponseWriter.downstream, taken, pushed]
      rfl

/-- A response is kept and counted alike. -/
theorem sendResponse (packet : Packet) :
    (m.advance k).sendResponse w' (packet.advance k) = (m.sendResponse w packet).advance k := by
  unfold Machine.sendResponse
  rw [same.sendPacket m packet]
  dsimp only
  split <;> rfl

/-- A packet without an uptime is sent as it is. -/
theorem sendTimeless {packet : Packet} (timeless : uptimeOffset packet = none) :
    (m.advance k).sendResponse w' packet = (m.sendResponse w packet).advance k := by
  have sent := same.sendResponse m packet
  rwa [packet.advance_timeless k timeless] at sent

/-- An acknowledgement names no time. -/
theorem sendAck (seq : UInt16) (acked : UInt8) :
    (m.advance k).sendAck w' seq acked = (m.sendAck w seq acked).advance k :=
  same.sendTimeless m rfl

/-- An error names no time, and is counted on both sides. -/
theorem sendError (seq : UInt16) (rejected : UInt8) (code : ErrorCode) :
    (m.advance k).sendError w' seq rejected code = (m.sendError w seq rejected code).advance k := by
  unfold Machine.sendError
  rw [Machine.advance_mapCounters]
  exact same.sendTimeless _ rfl

/-- An identity names no time. -/
theorem sendIdentity (seq : UInt16) :
    (m.advance k).sendIdentity w' seq = (m.sendIdentity w seq).advance k :=
  same.sendTimeless m rfl

/-- Capabilities name no time. -/
theorem sendCapabilities (seq : UInt16) :
    (m.advance k).sendCapabilities w' seq = (m.sendCapabilities w seq).advance k :=
  same.sendTimeless m rfl

/-- A fault word names no time. -/
theorem sendFaults (seq : UInt16) :
    (m.advance k).sendFaults w' seq = (m.sendFaults w seq).advance k :=
  same.sendTimeless m rfl

/-- A configuration value names no time. -/
theorem sendConfigValue (seq : UInt16) (field : ConfigField) :
    (m.advance k).sendConfigValue w' seq field = (m.sendConfigValue w seq field).advance k := by
  unfold Machine.sendConfigValue
  rw [Machine.advance_control]
  split
  · exact same.sendError m ..
  · exact same.sendTimeless m rfl

/-- Responses that were kept are replayed with the times they were made at. -/
theorem replayLastResponse :
    (m.advance k).replayLastResponse w' = (m.replayLastResponse w).advance k := by
  unfold Machine.replayLastResponse
  have stored : (m.advance k).act.lastResponses =
      m.act.lastResponses.map (Packet.advance k) := rfl
  rw [stored]
  clear stored
  generalize m.act.lastResponses = responses
  induction responses generalizing m with
  | nil => rfl
  | cons packet responses ih =>
    rw [List.map_cons, List.foldl_cons, List.foldl_cons, same.sendResponse]
    exact ih _

/-! ## Reports that carry the uptime -/

variable (ahead : ClockAhead k b b')

include ahead

/-- An event is stamped that much later. -/
theorem sendEvent (seq : UInt16) (event : EventType) (severity : EventSeverity) (detail : UInt16)
    (value : UInt32) : (m.advance k).sendEvent b' w' seq event severity detail value =
      (m.sendEvent b w seq event severity detail value).advance k := by
  unfold Machine.sendEvent
  rw [ahead.ask_millis]
  have stamped := Packet.advance_respond k .EVENT 0 seq 12
    ([event.byte, severity.byte] ++ writeU16 detail ++ writeU32 value) [] (m.nowMs b).1
    rfl (by simp [writeU16, writeU32, maxPayloadSize])
  rw [List.append_nil, List.append_nil] at stamped
  dsimp only [eventPacket]
  rw [← stamped]
  exact same.sendResponse ..

/-- The counters are sent with the uptime that much later. -/
theorem sendCounters (seq : UInt16) :
    (m.advance k).sendCounters b' w' seq = (m.sendCounters b w seq).advance k := by
  unfold Machine.sendCounters
  rw [ahead.ask_millis]
  have stamped := fun c : Counters => Packet.advance_respond k .COUNTERS PacketFlag.RESPONSE.bits
    seq 28 (writeU32 c.crcErrors ++ writeU32 c.decodeErrors ++ writeU32 c.droppedPackets ++
      writeU32 c.duplicatePackets ++ writeU32 c.commandCount ++ writeU32 c.rejectedCommands)
    [] (m.nowMs b).1 rfl (by simp [writeU32, maxPayloadSize])
  simp only [List.append_nil] at stamped
  dsimp only [Machine.advance_counters]
  rw [← stamped]
  exact same.sendResponse ..

/-- A status is sent with the uptime that much later. -/
theorem sendStatus (seq : UInt16) (telemetry : Bool) :
    (m.advance k).sendStatus b' w' seq telemetry = (m.sendStatus b w seq telemetry).advance k := by
  unfold Machine.sendStatus
  rw [ahead.ask_currentPosition]
  dsimp only
  rw [ahead.ask_targetPosition]
  dsimp only
  rw [ahead.ask_currentSpeed]
  dsimp only
  rw [ahead.ask_millis]
  dsimp only [Machine.advance_control, Machine.advance_counters]
  generalize m.logicalCurrentPosition b = position
  generalize position.2.logicalTargetPosition b = target
  generalize target.2.logicalCurrentSpeed b = speed
  generalize speed.2.nowMs b = now
  obtain ⟨now, m⟩ := now
  dsimp only
  have stamped := Packet.advance_respond k .STATUS
    (if telemetry then PacketFlag.TELEMETRY else .RESPONSE).bits seq 32
    ([m.act.state.byte, m.act.controlMode.byte, if m.act.driverEnabled then 1 else 0,
        if m.act.configStaged then 1 else 0] ++
      writeU32 m.act.faults ++ writeI32 position.1 ++ writeI32 target.1 ++ writeI32 speed.1)
    (writeU32 m.act.configGeneration ++ writeU32 m.act.counters.commandCount) now rfl
    (by simp [writeI32, writeU32, maxPayloadSize])
  simp only [← List.append_assoc] at stamped
  exact (congrArg _ stamped.symm).trans (same.sendResponse ..)

end SameWriter

/-! ## State changes -/

namespace ClockAhead

variable (ahead : ClockAhead k b b') (m : Machine)

include ahead

section

variable {events events' : Option ResponseWriter} (same : Option.Rel (SameWriter k) events events')

include same

/-- A change of state is announced that much later. -/
theorem transitionTo (state : ActuatorState) :
    (m.advance k).transitionTo b' state events' = (m.transitionTo b state events).advance k := by
  unfold Machine.transitionTo
  rw [Machine.advance_control]
  dsimp only
  split
  · rfl
  · cases same with
    | none => rfl
    | some same =>
      rw [Machine.advance_mapControl]
      exact same.sendEvent _ ahead ..

/-- A fault is announced that much later. -/
theorem raiseFault (flag : FaultFlag) :
    (m.advance k).raiseFault b' flag events' = (m.raiseFault b flag events).advance k := by
  unfold Machine.raiseFault
  rw [Machine.advance_mapControl, Machine.advance_control]
  dsimp only
  cases same with
  | none => rfl
  | some same =>
    dsimp only
    split
    · exact same.sendEvent _ ahead ..
    · rfl

/-- A fault and the state it leads to are announced that much later. -/
theorem setFault (flag : FaultFlag) :
    (m.advance k).setFault b' flag events' = (m.setFault b flag events).advance k := by
  unfold Machine.setFault
  rw [ahead.raiseFault m same]
  dsimp only
  split
  · rfl
  · exact ahead.transitionTo _ same _

end

/-- A driver status names no time, but the events before it do. -/
theorem sendDriverStatus {w w' : ResponseWriter} (same : SameWriter k w w') (seq : UInt16) :
    (m.advance k).sendDriverStatus b' w' seq = (m.sendDriverStatus b w seq).advance k := by
  unfold Machine.sendDriverStatus Machine.reportDriverStatus
  rw [ahead.ask_driverStatus]
  dsimp only
  split
  · rw [ahead.setFault _ (.some same), same.sendEvent _ ahead]
    exact same.sendTimeless _ rfl
  · exact same.sendTimeless _ rfl

end ClockAhead

end

end Daft
