import Daft.Firmware.Steps
import Daft.Host.Parsers

/-!
# Payload layouts on both sides

A request built by the host does to the actuator what its case does with the arguments it
was built from, and the parsers of the host take from a response what its sender wrote
into it.
-/

namespace Daft

open Host Host.Messages Host.Struct

/-! ## Responses -/

/-- The payload of a packet as its sender builds it arrives whole. -/
theorem received_respond {msg : MsgId} {flags : UInt8} {seq len : UInt16} {bytes : List UInt8}
    (counted : len.toNat = bytes.length) (fits : len.toNat ≤ maxPayloadSize) :
    (Codec.received (.respond msg flags seq len bytes)).payload = bytes := by
  show (Payload.ofBytes bytes).toList.take len.toNat = bytes
  rw [counted, Payload.take_ofBytes (counted ▸ fits)]

/-- The packet sent last, as it arrives at the host, reads as `fields`. -/
def Reads {α : Type} (parse : Codec.Packet → Except String α) (m : Machine) (fields : α) : Prop :=
  ∃ t, m.sent.head? = some t ∧ parse (Codec.received t.packet) = .ok fields

theorem Reads.sent {α : Type} {parse : Codec.Packet → Except String α} {m : Machine}
    {w : ResponseWriter} {packet : Packet} {fields : α}
    (parsed : parse (Codec.received packet) = .ok fields) :
    Reads parse (m.sendResponse w packet) fields := by
  refine ⟨⟨packet, w.caches, (m.sendPacket w packet).1⟩, ?_, parsed⟩
  unfold Machine.sendResponse
  dsimp only
  split <;> rfl

theorem ask_act {α : Type} (m : Machine) (callback : Option (History → α)) (record : α → Call) :
    (m.ask callback record).2.act = m.act := by
  cases callback <;> rfl

/-- What a sender hands over is read as the values it wrote. -/
structure ResponsesRead : Prop where
  ack : ∀ (m : Machine) (w : ResponseWriter) (seq : UInt16) (acked : UInt8),
    Reads parseAck (m.sendAck w seq acked)
      { ackedMsg := messageText acked, code := ErrorCode.OK.name }
  error : ∀ (m : Machine) (w : ResponseWriter) (seq : UInt16) (rejected : UInt8)
      (code : ErrorCode),
    Reads parseError (m.sendError w seq rejected code)
      { rejectedMsg := messageText rejected, code := code.name }
  identity : ∀ (m : Machine) (w : ResponseWriter) (seq : UInt16),
    Reads parseIdentity (m.sendIdentity w seq)
      { protocolVersion := 2, firmware := m.build.version, boardFamily := 1, axisCount := 1
        configVersion := configVersion.toNat, magic := "0x54464144"
        configGeneration := m.act.configGeneration.toNat
        gitSha := decodeAscii (copyAscii 20 m.build.gitSha)
        buildDate := decodeAscii (copyAscii 24 m.build.buildDate)
        dirty := m.build.gitDirty }
  capabilities : ∀ (m : Machine) (w : ResponseWriter) (seq : UInt16),
    Reads parseCapabilities (m.sendCapabilities w seq)
      { driver := 1, homing := false, encoder := false, persistence := true
        maxPayload := maxPayloadSize, maxTelemetryHz := 100, features := 1
        hostTimeoutMs := m.act.activeConfig.safety.hostTimeoutMs.toNat }
  faults : ∀ (m : Machine) (w : ResponseWriter) (seq : UInt16),
    Reads parseFaults (m.sendFaults w seq) { faults := m.act.faults.toNat }
  configValue : ∀ (m : Machine) (w : ResponseWriter) (seq : UInt16) (field : ConfigField)
      (value : Int32), configFieldValue m.act.activeConfig field = some value →
    ∃ name, field.name = some name ∧ Reads parseConfigValue (m.sendConfigValue w seq field)
      { fieldId := field.raw.toNat, field := name
        mutability := (configFieldMutability field).name, configStaged := m.act.configStaged
        value := value.toInt }
  counters : ∀ (m : Machine) (b : MotionBackend) (w : ResponseWriter) (seq : UInt16),
    Reads parseCounters (m.sendCounters b w seq)
      { crcErrors := m.act.counters.crcErrors.toNat
        decodeErrors := m.act.counters.decodeErrors.toNat
        droppedPackets := m.act.counters.droppedPackets.toNat
        duplicatePackets := m.act.counters.duplicatePackets.toNat
        commandCount := m.act.counters.commandCount.toNat
        rejectedCommands := m.act.counters.rejectedCommands.toNat
        uptimeMs := (m.nowMs b).1.toNat }
  status : ∀ (m : Machine) (b : MotionBackend) (w : ResponseWriter) (seq : UInt16)
      (telemetry : Bool),
    let position := m.logicalCurrentPosition b
    let target := position.2.logicalTargetPosition b
    let speed := target.2.logicalCurrentSpeed b
    Reads parseStatus (m.sendStatus b w seq telemetry)
      { state := m.act.state.name, controlMode := m.act.controlMode.name
        driverEnabled := m.act.driverEnabled, configStaged := m.act.configStaged
        faults := m.act.faults.toNat, positionSteps := position.1.toInt
        targetSteps := target.1.toInt, speedSps := speed.1.toInt
        uptimeMs := (speed.2.nowMs b).1.toNat
        configGeneration := m.act.configGeneration.toNat
        commandCount := m.act.counters.commandCount.toNat }
  event : ∀ (m : Machine) (b : MotionBackend) (w : ResponseWriter) (seq : UInt16)
      (event : EventType) (severity : EventSeverity) (detail : UInt16) (value : UInt32),
    Reads parseEvent (m.sendEvent b w seq event severity detail value)
      { event := event.name, severity := severity.name, detail := detail.toNat
        value := value.toNat, uptimeMs := (m.nowMs b).1.toNat }
  driverStatus : ∀ (m : Machine) (b : MotionBackend) (w : ResponseWriter) (seq : UInt16),
    let status := (m.driverStatus b).1
    Reads parseDriverStatus (m.sendDriverStatus b w seq)
      { configured := status.configured != 0, uartOk := status.uartOk != 0
        overtempWarning := status.overtemperaturePreWarning != 0
        overtemp := status.overtemperature != 0, runCurrentMa := status.runCurrentMa.toNat
        microsteps := status.microsteps.toNat, rawStatus := status.rawStatus.toNat }

theorem ConfigField.named_of_value {config : ActuatorConfig} {field : ConfigField} {value : Int32}
    (known : configFieldValue config field = some value) : ∃ name, field.name = some name := by
  cases field with
  | undeclared => cases known
  | _ => exact ⟨_, rfl⟩

theorem responses_read : ResponsesRead where
  ack _ _ _ _ := .sent (parseAck_of (received_respond rfl (by decide)))
  error _ _ _ _ _ := .sent (parseError_of (received_respond rfl (by decide)))
  identity m w seq := by
    have shaFits : (copyAscii 20 m.build.gitSha).length ≤ 20 := List.length_take_le ..
    have dateFits : (copyAscii 24 m.build.buildDate).length ≤ 24 := List.length_take_le ..
    refine .sent (parseIdentity_of shaFits dateFits (received_respond ?_ (by decide)))
    simp [writeU16, writeU32]
    omega
  capabilities _ _ _ := .sent (parseCapabilities_of (received_respond rfl (by decide)))
  faults _ _ _ := .sent (parseFaults_of (received_respond rfl (by decide)))
  configValue m w seq field value known := by
    obtain ⟨name, named⟩ := ConfigField.named_of_value known
    refine ⟨name, named, ?_⟩
    unfold Machine.sendConfigValue
    rw [known]
    exact .sent (parseConfigValue_of named (received_respond rfl (by decide)))
  counters m b w seq := by
    have same : (m.nowMs b).2.act = m.act := ask_act ..
    unfold Machine.sendCounters
    dsimp only
    rw [same]
    exact .sent (parseCounters_of (received_respond rfl (by decide)))
  status m b w seq telemetry := by
    intro position target speed
    have same : (speed.2.nowMs b).2.act = m.act := by
      calc (speed.2.nowMs b).2.act = speed.2.act := ask_act ..
        _ = target.2.act := ask_act ..
        _ = position.2.act := ask_act ..
        _ = m.act := ask_act ..
    unfold Machine.sendStatus
    dsimp only
    rw [same]
    exact .sent (parseStatus_of (received_respond rfl (by decide)))
  event _ _ _ _ _ _ _ _ := .sent (parseEvent_of (received_respond rfl (by decide)))
  driverStatus _ _ _ _ := .sent (parseDriverStatus_of (received_respond rfl (by decide)))

/-! ## Requests -/

/-- The bytes of a request, as the firmware addresses them. -/
theorem request_at {msg : MsgId} {seq : UInt16} {bytes : List UInt8}
    (fits : bytes.length ≤ maxPayloadSize) (offset : Nat) :
    (Packet.request msg seq bytes).at offset =
      (bytes ++ List.replicate (maxPayloadSize - bytes.length) 0).drop offset := by
  show (Payload.ofBytes bytes).toList.drop offset = _
  rw [Payload.ofBytes_toList fits]

/-- The host builds a payload, and the request `msg` that carries it, whatever its number,
makes of every actuator what `perform` does. -/
def Performs (msg : MsgId) (payload : Option (List UInt8))
    (perform : MotionBackend → Port → Packet → Machine → Machine) : Prop :=
  ∃ bytes, payload = some bytes ∧ ∀ (seq : UInt16) (b : MotionBackend) (down : Port) (m : Machine),
    m.dispatch b down (.request msg seq bytes) = perform b down (.request msg seq bytes) m

/-- What a builder lays out passes the checks of its case on the payload, and the case goes on
with exactly the arguments. -/
structure RequestsRead : Prop where
  setControlMode : ∀ mode : UInt8,
    Performs .SET_CONTROL_MODE (buildSetControlMode mode.toNat)
      fun b down r m => m.selectMode b down r mode
  rampStop : ∀ decel : UInt32,
    Performs .RAMP_STOP (buildRampStop decel.toNat) fun b down r m => m.rampToStop b down r decel
  moveAbs : ∀ (target : Int32) (velocity accel : UInt32),
    Performs .MOVE_ABS (buildMove target.toInt velocity.toNat accel.toNat)
      fun b down r m => m.moveAbs b down r target velocity accel
  moveRel : ∀ (delta : Int32) (velocity accel : UInt32),
    Performs .MOVE_REL (buildMove delta.toInt velocity.toNat accel.toNat)
      fun b down r m => m.moveRel b down r delta velocity accel
  runVelocity : ∀ (velocity : Int32) (accel : UInt32),
    Performs .RUN_VEL (buildRunVelocity velocity.toInt accel.toNat)
      fun b down r m => m.runVel b down r velocity accel
  telemRate : ∀ interval : UInt16,
    Performs .SET_TELEM_RATE (buildTelemRate interval.toNat)
      fun _ down r m => m.setTelemRate down r interval
  configQuery : ∀ field : UInt16,
    Performs .CONFIG_QUERY (buildConfigQuery field.toNat)
      fun _ down r m => m.sendConfigValue (.cached down) r.seq (.ofRaw field)
  configStageField : ∀ (field : UInt16) (value : Int32),
    Performs .CONFIG_STAGE_FIELD (buildConfigStageField field.toNat value.toInt)
      fun b down r m => m.stage b down r (stageArguments (.ofRaw field) value m.act.toControl)

/-- A case that expects `length` bytes gets them, and its body reads the arguments. -/
theorem Performs.of_body {msg : MsgId} {payload : Option (List UInt8)} {bytes : List UInt8}
    {perform : MotionBackend → Port → Packet → Machine → Machine} (length : UInt16)
    (body : MotionBackend → Port → Packet → Machine → Machine) (built : payload = some bytes)
    (counted : bytes.length.toUInt16 = length)
    (handled : ∀ seq b down m, Machine.dispatch b down (.request msg seq bytes) m =
      m.expectLength down (.request msg seq bytes) length (body b down (.request msg seq bytes)))
    (read : ∀ seq b down m, body b down (.request msg seq bytes) m =
      perform b down (.request msg seq bytes) m) :
    Performs msg payload perform := by
  refine ⟨bytes, built, ?_⟩
  intro seq b down m
  have expected : ¬ (Packet.request msg seq bytes).payloadLen ≠ length := not_not_intro counted
  rw [handled, Machine.expectLength, if_neg expected]
  exact read ..

/-- The payload of `MOVE_ABS` and `MOVE_REL`. -/
def movePayload (target : Int32) (velocity accel : UInt32) : List UInt8 :=
  writeI32 target ++ (writeU32 velocity ++ writeU32 accel)

theorem buildMove_eq (target : Int32) (velocity accel : UInt32) :
    buildMove target.toInt velocity.toNat accel.toNat = some (movePayload target velocity accel) := by
  refine (pack_cons _ (pack_writeI32 target) (pack_cons _ (pack_writeU32 velocity)
    (pack_cons _ (pack_writeU32 accel) rfl))).trans ?_
  rw [List.append_nil, movePayload]

/-- Both motion requests find the three arguments where they look for them. -/
theorem movePayload_reads (msg : MsgId) (seq : UInt16) (target : Int32) (velocity accel : UInt32) :
    let r := Packet.request msg seq (movePayload target velocity accel)
    readI32 (r.at 0) = target ∧ readU32 (r.at 4) = velocity ∧ readU32 (r.at 8) = accel := by
  have laid (offset : Nat) : (Packet.request msg seq (movePayload target velocity accel)).at offset =
      _ := request_at (by simp [movePayload, writeI32, writeU32, maxPayloadSize]) offset
  dsimp only
  simp only [laid]
  unfold movePayload
  simp only [List.append_assoc]
  exact ⟨readI32_writeI32 .., readU32_writeU32 .., readU32_writeU32 ..⟩

theorem requests_read : RequestsRead where
  setControlMode mode :=
    .of_body 1 (fun b down r m => m.selectMode b down r r.payload[0])
      (pack_cons _ (pack_byte mode) rfl) rfl (fun _ _ _ _ => rfl) fun _ _ _ _ => rfl
  rampStop decel := by
    refine .of_body 4 (fun b down r m => m.rampToStop b down r (readU32 (r.at 0)))
      (pack_cons _ (pack_writeU32 decel) rfl) rfl (fun _ _ _ _ => rfl) ?_
    intro seq b down m
    rw [request_at (by simp [writeU32, maxPayloadSize]), List.append_assoc, List.drop_zero,
      readU32_writeU32]
  moveAbs target velocity accel := by
    refine .of_body 12 (fun b down r m => m.moveAbs b down r (readI32 (r.at 0)) (readU32 (r.at 4))
      (readU32 (r.at 8))) (buildMove_eq target velocity accel) rfl (fun _ _ _ _ => rfl) ?_
    intro seq b down m
    obtain ⟨first, second, third⟩ := movePayload_reads .MOVE_ABS seq target velocity accel
    rw [first, second, third]
  moveRel delta velocity accel := by
    refine .of_body 12 (fun b down r m => m.moveRel b down r (readI32 (r.at 0)) (readU32 (r.at 4))
      (readU32 (r.at 8))) (buildMove_eq delta velocity accel) rfl (fun _ _ _ _ => rfl) ?_
    intro seq b down m
    obtain ⟨first, second, third⟩ := movePayload_reads .MOVE_REL seq delta velocity accel
    rw [first, second, third]
  runVelocity velocity accel := by
    refine .of_body 8 (fun b down r m => m.runVel b down r (readI32 (r.at 0)) (readU32 (r.at 4)))
      (pack_cons _ (pack_writeI32 velocity) (pack_cons _ (pack_writeU32 accel) rfl)) rfl
      (fun _ _ _ _ => rfl) ?_
    intro seq b down m
    rw [request_at (by simp [writeI32, writeU32, maxPayloadSize]),
      request_at (by simp [writeI32, writeU32, maxPayloadSize])]
    simp only [List.append_assoc]
    congr 1
    · exact readI32_writeI32 ..
    · exact readU32_writeU32 ..
  telemRate interval := by
    refine .of_body 2 (fun _ down r m => m.setTelemRate down r (readU16 (r.at 0)))
      (pack_cons _ (pack_writeU16 interval) rfl) rfl (fun _ _ _ _ => rfl) ?_
    intro seq b down m
    rw [request_at (by simp [writeU16, maxPayloadSize]), List.append_assoc, List.drop_zero,
      readU16_writeU16]
  configQuery field := by
    refine .of_body 2 (fun _ down r m =>
        m.sendConfigValue (.cached down) r.seq (.ofRaw (readU16 (r.at 0))))
      (pack_cons _ (pack_writeU16 field) rfl) rfl (fun _ _ _ _ => rfl) ?_
    intro seq b down m
    rw [request_at (by simp [writeU16, maxPayloadSize]), List.append_assoc, List.drop_zero,
      readU16_writeU16]
  configStageField field value := by
    refine ⟨_, pack_cons _ (pack_writeU16 field) (pack_cons _ (pack_writeI32 value) rfl), ?_⟩
    intro seq b down m
    -- the one case that checks its length among its other checks
    show m.stage b down _ (stageCandidate _ _) = _
    have expected : ¬ (Packet.request .CONFIG_STAGE_FIELD seq
        (writeU16 field ++ (writeI32 value ++ []))).payloadLen ≠ 6 := not_not_intro rfl
    rw [stageCandidate, if_neg expected,
      request_at (by simp [writeI32, writeU16, writeU32, maxPayloadSize]),
      request_at (by simp [writeI32, writeU16, writeU32, maxPayloadSize])]
    simp only [List.append_assoc]
    congr 2
    · exact congrArg ConfigField.ofRaw (readU16_writeU16 ..)
    · exact readI32_writeI32 ..

/-! ## Main results -/

/-- The layouts agree in both directions. -/
theorem payload_layouts_agree : RequestsRead ∧ ResponsesRead := ⟨requests_read, responses_read⟩

/-- A flag of the driver status is reported as a byte and read as a truth value, so a
byte other than 0 and 1 does not come back. -/
theorem driver_flag_not_exact :
    ¬ ∀ (m : Machine) (b : MotionBackend) (w : ResponseWriter) (seq : UInt16)
      (fields : Messages.DriverStatus), Reads parseDriverStatus (m.sendDriverStatus b w seq) fields →
      fields.configured.toNat = (m.driverStatus b).1.configured.toNat := by
  intro exact_
  have read := responses_read.driverStatus {}
    { driverStatus := some fun _ => { configured := 2, uartOk := 1 } } (.port none) 1
  have same := exact_ _ _ _ _ _ read
  contradiction

end Daft
