import Daft.Firmware.Actuator

/-!
# Requests, ticks and runs

The cases of `handle_packet`'s dispatch, each under the name of its message,
the duplicate filter around them, and the other entry points of `Actuator`.
Responses go through the caching writer, events through the raw port; only the
driver status query sends its events through the caching writer as well.
-/

namespace Daft

/-! ## Checks -/

/-- The configuration a `CONFIG_STAGE_FIELD` edits. -/
def Control.pendingConfig (c : Control) : ActuatorConfig :=
  if c.configStaged then c.stagedConfig else c.activeConfig

/-- The checks of `stage_field` on its arguments, and the configuration it would stage. -/
def stageArguments (field : ConfigField) (value : Int32) (c : Control) :
    Except ErrorCode ActuatorConfig :=
  if !configFieldKnown field then .error .ERR_INVALID_FIELD
  else
    let mutability := configFieldMutability field
    if mutability = .COMPILE_TIME_ONLY ∨ mutability = .RESERVED then .error .ERR_UNSUPPORTED
    else if mutability = .REQUIRES_REBOOT then .error .ERR_REQUIRES_REBOOT
    else
      let (validation, candidate) := stageConfigField c.pendingConfig field value
      if !validation.ok then .error .ERR_OUT_OF_RANGE else .ok candidate

/-- All checks of `stage_field`. -/
def stageCandidate (request : Packet) (c : Control) : Except ErrorCode ActuatorConfig :=
  if request.payloadLen ≠ 6 then .error .ERR_BAD_PAYLOAD
  else stageArguments (.ofRaw (readU16 (request.at 0))) (readI32 (request.at 2)) c

/-- `driver_changed`: the four driver members it compares. -/
def driverChanged (staged active : Tmc2209Config) : Bool :=
  staged.runCurrentMa ≠ active.runCurrentMa ∨ staged.holdCurrentMa ≠ active.holdCurrentMa ∨
    staged.microsteps ≠ active.microsteps ∨ staged.mode ≠ active.mode

/-- The rate checks `MOVE_ABS`, `MOVE_REL` and `RUN_VEL` share. -/
def rateRefused (config : ActuatorConfig) (velocity accel : UInt32) : Bool :=
  velocity = 0 ∨ accel = 0 ∨ velocity > config.safety.maxAllowedVelocitySps ∨
    accel > config.safety.maxAllowedAccelSps2 ∨ velocity > config.motion.maxVelocitySps ∨
    accel > config.motion.maxAccelSps2

/-- `abs_velocity`: the negation is done in 64 bits. -/
def absVelocity (velocity : Int32) : UInt32 :=
  if velocity < 0 then UInt32.ofInt (-velocity.toInt) else velocity.toUInt32

/-! ## Requests

A case with arguments checks the payload's length and reads them from it; what it then
does with them is a definition of its own, for which `request` is the request to answer.
-/

namespace Machine

variable (b : MotionBackend) (down : Port) (request : Packet) (m : Machine)

/-- `send_ack(writer, request.seq, msg)`. -/
def ack : Machine := m.sendAck (.cached down) request.seq request.msgId

/-- `send_error(writer, request.seq, msg, code)`. -/
def refuse (code : ErrorCode) : Machine :=
  m.sendError (.cached down) request.seq request.msgId code

/-- `set_fault(flag, &downstream_writer)` and an error response. -/
def failWith (flag : FaultFlag) (code : ErrorCode) : Machine :=
  (m.setFault b flag (some (.port down))).refuse down request code

/-- The payload length check every case but `CONFIG_STAGE_FIELD` opens with. -/
def expectLength (len : UInt16) (body : Machine → Machine) : Machine :=
  if request.payloadLen ≠ len then m.refuse down request .ERR_BAD_PAYLOAD else body m

def handlePing : Machine :=
  m.expectLength down request 0 fun m =>
    (m.ack down request).sendResponse (.cached down)
      (.respond .PONG PacketFlag.RESPONSE.bits request.seq 0 [])

/-- The queries without a payload: one response, built by `send`. -/
def handleQuery (send : Machine → ResponseWriter → UInt16 → Machine) : Machine :=
  m.expectLength down request 0 fun m => send m (.cached down) request.seq

def handleHeartbeat : Machine := m.expectLength down request 0 fun m => m.ack down request

/-- The two enabling branches of `SET_CONTROL_MODE`, which differ in the state
they end in. -/
def enableFor (target : ActuatorState) : Machine :=
  let (configured, m) := m.configureDriver b m.act.activeConfig.driver
  if configured = some false then m.failWith b down request .DRIVER .ERR_BAD_STATE
  else
    let (enabled, m) := m.enableDriver b true
    if enabled = some false then m.failWith b down request .DRIVER .ERR_BAD_STATE
    else
      let m := m.mapControl fun c => { c with driverEnabled := true }
      (m.transitionTo b target (some (.port down))).ack down request

def selectMode (requested : UInt8) : Machine :=
  if requested > ControlMode.COMMISSIONING.byte then m.refuse down request .ERR_OUT_OF_RANGE
  else if m.act.state = .FAULTED ∧ requested ≠ ControlMode.DISABLED.byte then
    m.refuse down request .ERR_FAULTED
  else if m.act.isMotionState then m.refuse down request .ERR_BUSY
  else
    let mode := ControlMode.ofByte requested
    let m := m.mapControl fun c => { c with controlMode := mode }
    match mode with
    | .DISABLED =>
      let m := (m.enableDriver b false).2
      let m := m.mapControl fun c => { c with driverEnabled := false }
      (m.transitionTo b .DISABLED (some (.port down))).ack down request
    | .COMMISSIONING => m.enableFor b down request .COMMISSIONING
    | _ => m.enableFor b down request .IDLE

def handleSetControlMode : Machine :=
  m.expectLength down request 1 fun m => m.selectMode b down request request.payload[0]

def handleEstop : Machine :=
  m.expectLength down request 0 fun m =>
    let m := ((m.emergencyStop b).enableDriver b false).2
    let m := m.mapControl fun c => { c with driverEnabled := false, controlMode := .DISABLED }
    (m.transitionTo b .FAULTED (some (.port down))).ack down request

/-- The second half of `RAMP_STOP`: something is, or may be, moving. -/
def stopMotion (decelSps2 : UInt32) : Machine :=
  let (stopped, m) := m.rampStop b decelSps2
  if stopped ≠ some true then m.failWith b down request .DRIVER .ERR_BAD_STATE
  else
    let m := m.transitionTo b .STOPPING (some (.port down))
    (m.mapControl fun c => { c with controlMode := .POSITION }).ack down request

def rampToStop (decelSps2 : UInt32) : Machine :=
  if m.act.isMotionState then m.stopMotion b down request decelSps2
  else
    let (active, m) := m.motionActive b
    if active ≠ some true then m.ack down request else m.stopMotion b down request decelSps2

def handleRampStop : Machine :=
  m.expectLength down request 4 fun m => m.rampToStop b down request (readU32 (request.at 0))

def handleClearFaults : Machine :=
  m.expectLength down request 0 fun m =>
    let previousFaults := m.act.faults
    let m := m.mapControl fun c => { c with faults := 0 }
    let m := if previousFaults ≠ 0 then
        m.sendEvent b (.port down) request.seq .FAULT_CLEARED .INFO 0 previousFaults
      else m
    let m := if !m.act.driverEnabled then
        (m.transitionTo b .DISABLED (some (.port down))).mapControl fun c =>
          { c with controlMode := .DISABLED }
      else m.transitionTo b .IDLE (some (.port down))
    m.ack down request

def handleConfigQuery : Machine :=
  m.expectLength down request 2 fun m =>
    m.sendConfigValue (.cached down) request.seq (.ofRaw (readU16 (request.at 0)))

/-- The rest of `CONFIG_STAGE_FIELD` and of `stage_field`, by what the checks say. -/
def stage (checked : Except ErrorCode ActuatorConfig) : Machine :=
  match checked with
  | .error code => m.refuse down request code
  | .ok candidate =>
    let m := m.mapControl fun c => { c with stagedConfig := candidate, configStaged := true }
    let m := if !m.act.isMotionState then m.transitionTo b .CONFIG_STAGED (some (.port down))
      else m
    m.ack down request

def handleConfigStageField : Machine :=
  m.stage b down request (stageCandidate request m.act.toControl)

/-- The end of `apply_staged_config`, once the driver accepted its part. -/
def commitStaged : Machine :=
  let m := m.mapControl fun c => { c with activeConfig := c.stagedConfig, configStaged := false }
  let m := m.transitionTo b (if m.act.driverEnabled then .IDLE else .DISABLED) (some (.port down))
  (m.sendEvent b (.port down) 0 .CONFIG_APPLIED .INFO configVersion m.act.configGeneration).ack
    down request

/-- `CONFIG_APPLY`, with `apply_staged_config`. -/
def handleConfigApply : Machine :=
  m.expectLength down request 0 fun m =>
    if !m.act.configStaged then m.ack down request
    else if m.act.isMotionState then m.refuse down request .ERR_BUSY
    else if !(validateConfig m.act.stagedConfig).ok then
      m.failWith b down request .INVALID_CONFIG .ERR_OUT_OF_RANGE
    else if driverChanged m.act.stagedConfig.driver m.act.activeConfig.driver then
      let (configured, m) := m.configureDriver b m.act.stagedConfig.driver
      if configured = some false then m.failWith b down request .DRIVER .ERR_BAD_STATE
      else m.commitStaged b down request
    else m.commitStaged b down request

def handleConfigSave : Machine :=
  m.expectLength down request 0 fun m =>
    let (saved, m) := m.saveConfig b m.act.activeConfig
    if saved ≠ some true then m.failWith b down request .CONFIG_STORAGE .ERR_STORAGE
    else
      let m := m.mapControl fun c => { c with configGeneration := c.configGeneration + 1 }
      (m.sendEvent b (.port down) request.seq .CONFIG_SAVED .INFO configVersion
        m.act.configGeneration).ack down request

/-- The rest of `CONFIG_RESET_DEFAULTS`, once the defaults are written. -/
def resetDriver : Machine :=
  let (configured, m) := m.configureDriver b m.act.activeConfig.driver
  if configured = some false then m.failWith b down request .DRIVER .ERR_BAD_STATE
  else
    let (reset, m) := m.resetConfigStorage b
    if reset = some false then m.failWith b down request .CONFIG_STORAGE .ERR_STORAGE
    else
      (m.sendEvent b (.port down) request.seq .CONFIG_APPLIED .INFO configVersion
        m.act.configGeneration).ack down request

def handleConfigResetDefaults : Machine :=
  m.expectLength down request 0 fun m =>
    if m.act.isMotionState then m.refuse down request .ERR_BUSY
    else
      let m := m.mapControl fun c =>
        { c with activeConfig := c.defaults, stagedConfig := c.defaults, configStaged := false }
      m.resetDriver b down request

def handleReboot : Machine :=
  m.expectLength down request 0 fun m => (m.ack down request).reboot b

/-- The end of a motion command: the backend's answer decides. -/
def startMotion (accepted : Option Bool) (state : ActuatorState) (mode : ControlMode) : Machine :=
  if accepted ≠ some true then m.failWith b down request .DRIVER .ERR_BAD_STATE
  else
    let m := m.transitionTo b state (some (.port down))
    (m.mapControl fun c => { c with controlMode := mode }).ack down request

def moveAbs (target : Int32) (velocity accel : UInt32) : Machine :=
  let allowed := m.act.validateMotionAllowed .POSITION
  if allowed ≠ .OK then m.refuse down request allowed
  else if rateRefused m.act.activeConfig velocity accel then
    m.refuse down request .ERR_OUT_OF_RANGE
  else if softLimitViolation m.act.activeConfig target then
    m.failWith b down request .SOFT_LIMIT .ERR_OUT_OF_RANGE
  else
    match m.act.toBackendValue target with
    | none => m.refuse down request .ERR_OUT_OF_RANGE
    | some backendTarget =>
      let (accepted, m) := m.moveAbsolute b backendTarget velocity accel
      m.startMotion b down request accepted .MOVING_POSITION .POSITION

def handleMoveAbs : Machine :=
  m.expectLength down request 12 fun m =>
    m.moveAbs b down request (readI32 (request.at 0)) (readU32 (request.at 4)) (readU32 (request.at 8))

def moveRel (delta : Int32) (velocity accel : UInt32) : Machine :=
  let allowed := m.act.validateMotionAllowed .POSITION
  if allowed ≠ .OK then m.refuse down request allowed
  else
    let (current, m) := m.logicalCurrentPosition b
    let target64 := current.toInt + delta.toInt
    if target64 < Int32.minValue.toInt ∨ target64 > Int32.maxValue.toInt ∨
        rateRefused m.act.activeConfig velocity accel then
      m.refuse down request .ERR_OUT_OF_RANGE
    else if softLimitViolation m.act.activeConfig (Int32.ofInt target64) then
      m.failWith b down request .SOFT_LIMIT .ERR_OUT_OF_RANGE
    else
      match m.act.toBackendValue delta with
      | none => m.refuse down request .ERR_OUT_OF_RANGE
      | some backendDelta =>
        let (accepted, m) := m.moveRelative b backendDelta velocity accel
        m.startMotion b down request accepted .MOVING_POSITION .POSITION

def handleMoveRel : Machine :=
  m.expectLength down request 12 fun m =>
    m.moveRel b down request (readI32 (request.at 0)) (readU32 (request.at 4)) (readU32 (request.at 8))

def runVel (velocity : Int32) (accel : UInt32) : Machine :=
  let allowed := m.act.validateMotionAllowed .VELOCITY
  if allowed ≠ .OK then m.refuse down request allowed
  else if velocity = 0 ∨ rateRefused m.act.activeConfig (absVelocity velocity) accel then
    m.refuse down request .ERR_OUT_OF_RANGE
  else
    match m.act.toBackendValue velocity with
    | none => m.refuse down request .ERR_OUT_OF_RANGE
    | some backendVelocity =>
      let (accepted, m) := m.runVelocity b backendVelocity accel
      m.startMotion b down request accepted .RUNNING_VELOCITY .VELOCITY

def handleRunVel : Machine :=
  m.expectLength down request 8 fun m =>
    m.runVel b down request (readI32 (request.at 0)) (readU32 (request.at 4))

def setTelemRate (intervalMs : UInt16) : Machine :=
  let m := m.mapControl fun c => { c with activeConfig.telemetry.intervalMs := intervalMs }
  let m := m.mapControl fun c =>
    if c.configStaged then
      { c with stagedConfig.telemetry.intervalMs := c.activeConfig.telemetry.intervalMs }
    else { c with stagedConfig := c.activeConfig }
  m.ack down request

def handleSetTelemRate : Machine :=
  m.expectLength down request 2 fun m => m.setTelemRate down request (readU16 (request.at 0))

def handleUnsupported : Machine := m.failWith b down request .UNSUPPORTED_COMMAND .ERR_UNSUPPORTED

/-- The switch over `static_cast<MsgId>(request.msg_id)`. -/
def dispatch : Machine :=
  match MsgId.ofByte request.msgId with
  | some .PING => m.handlePing down request
  | some .GET_IDENTITY => m.handleQuery down request fun m w seq => m.sendIdentity w seq
  | some .GET_CAPABILITIES => m.handleQuery down request fun m w seq => m.sendCapabilities w seq
  | some .GET_STATUS => m.handleQuery down request fun m w seq => m.sendStatus b w seq false
  | some .GET_FAULTS => m.handleQuery down request fun m w seq => m.sendFaults w seq
  | some .GET_COUNTERS => m.handleQuery down request fun m w seq => m.sendCounters b w seq
  | some .HEARTBEAT => m.handleHeartbeat down request
  | some .SET_CONTROL_MODE => m.handleSetControlMode b down request
  | some .ESTOP => m.handleEstop b down request
  | some .RAMP_STOP => m.handleRampStop b down request
  | some .CLEAR_FAULTS => m.handleClearFaults b down request
  | some .CONFIG_QUERY => m.handleConfigQuery down request
  | some .CONFIG_STAGE_FIELD => m.handleConfigStageField b down request
  | some .CONFIG_APPLY => m.handleConfigApply b down request
  | some .CONFIG_SAVE => m.handleConfigSave b down request
  | some .CONFIG_RESET_DEFAULTS => m.handleConfigResetDefaults b down request
  | some .REBOOT => m.handleReboot b down request
  | some .GET_DRIVER_STATUS => m.handleQuery down request fun m w seq => m.sendDriverStatus b w seq
  | some .MOVE_ABS => m.handleMoveAbs b down request
  | some .MOVE_REL => m.handleMoveRel b down request
  | some .RUN_VEL => m.handleRunVel b down request
  | some .SET_TELEM_RATE => m.handleSetTelemRate down request
  | _ => m.handleUnsupported b down request

/-- `last_host_ms_ = now_ms()`. -/
def hearHost : Machine :=
  let (now, m) := m.nowMs b
  { m with act := { m.act with lastHostMs := now } }

/-- The prologue of a dispatched request: a fresh cached writer, the command
counted, the host heard. -/
def acceptRequest : Machine :=
  let m := { m with cached := [], dispatched := request :: m.dispatched }
  (m.mapCounters fun c => { c with commandCount := c.commandCount + 1 }).hearHost b

/-- The duplicate branch of `handle_packet`. -/
def answerDuplicate : Machine :=
  let m := (m.hearHost b).mapCounters fun c =>
    { c with duplicatePackets := c.duplicatePackets + 1 }
  if m.act.sameRequest request then m.replayLastResponse (.port down)
  else m.sendError (.port down) request.seq request.msgId .ERR_DUPLICATE_MISMATCH

def handlePacket : Machine :=
  if m.act.isDuplicate request then m.answerDuplicate b down request
  else ((m.acceptRequest b request).dispatch b down request).rememberRequest request

end Machine

namespace Machine

variable (b : MotionBackend) (m : Machine)

/-- The start of `begin`: the members, the boot reason and the clocks. The members
it does not reset are those nothing reads before they are written. -/
def beginMembers (defaults : ActuatorConfig) : Machine :=
  let m := { m with act := { defaults, activeConfig := defaults, stagedConfig := defaults,
                             bootEventPending := true,
                             lastHostMs := m.act.lastHostMs,
                             lastTelemetryMs := m.act.lastTelemetryMs } }
  let (reason, m) := m.bootReason b
  let m := (m.mapControl fun c => { c with bootReason := reason }).hearHost b
  let (now, m) := m.nowMs b
  { m with act := { m.act with lastTelemetryMs := now } }

/-- `begin`'s use of the stored configuration. -/
def beginConfig : Machine :=
  let (loaded, m) := m.loadConfig b
  match loaded with
  | some (some (config, generation)) =>
    if (validateConfig config).ok then
      m.mapControl fun c => { c with activeConfig := config, stagedConfig := config,
                                     configGeneration := generation }
    else m.setFault b .INVALID_CONFIG none
  | _ => m

/-- The end of `begin`, once the configuration is chosen. -/
def beginDriver : Machine :=
  let (configured, m) := m.configureDriver b m.act.activeConfig.driver
  if configured = some false then (m.setFault b .DRIVER none).transitionTo b .FAULTED none
  else ((m.enableDriver b false).2).transitionTo b .DISABLED none

/-- `begin`. -/
def beginWith (defaults : ActuatorConfig) : Machine :=
  ((m.beginMembers b defaults).beginConfig b).beginDriver b

/-- The boot event of `update`. -/
def updateBoot (eventWriter : Option ResponseWriter) : Machine :=
  match eventWriter with
  | some w =>
    if m.act.bootEventPending then
      (m.sendEvent b w 0 .BOOT_REASON .INFO (m.act.bootReason &&& 0xFFFF).toUInt16
        m.act.bootReason).mapControl fun c => { c with bootEventPending := false }
    else m
  | none => m

/-- The end of a motion in `update`. -/
def updateMotion (eventWriter : Option ResponseWriter) : Machine :=
  if m.act.state = .MOVING_POSITION ∨ m.act.state = .STOPPING then
    let (active, m) := m.motionActive b
    if active = some false then
      (m.transitionTo b (if m.act.driverEnabled then .IDLE else .DISABLED) eventWriter).mapControl
        fun c => { c with controlMode := if c.driverEnabled then .POSITION else .DISABLED }
    else m
  else m

/-- What a tripped host timeout does to the motor. -/
def timeoutAction (eventWriter : Option ResponseWriter) : Machine :=
  if m.act.activeConfig.safety.velocityTimeoutAction = .DISABLE then
    let m := ((m.emergencyStop b).enableDriver b false).2
    let m := m.mapControl fun c => { c with driverEnabled := false, controlMode := .DISABLED }
    m.transitionTo b .FAULTED eventWriter
  else
    let m := (m.rampStop b m.act.activeConfig.motion.defaultStopDecelSps2).2
    let m := m.transitionTo b .STOPPING eventWriter
    m.mapControl fun c => { c with controlMode := .POSITION }

/-- The host timeout of `update`, with the time read at its start. -/
def updateTimeout (now : UInt32) (eventWriter : Option ResponseWriter) : Machine :=
  if m.act.state = .RUNNING_VELOCITY ∧ m.act.activeConfig.safety.hostTimeoutMs > 0 ∧
      now - m.act.lastHostMs > m.act.activeConfig.safety.hostTimeoutMs then
    let m := m.setFault b .HOST_TIMEOUT eventWriter
    let m := match eventWriter with
      | some w => m.sendEvent b w 0 .HOST_TIMEOUT .ERROR
          m.act.activeConfig.safety.velocityTimeoutAction.raw.toUInt16
          m.act.activeConfig.safety.hostTimeoutMs
      | none => m
    m.timeoutAction b eventWriter
  else m

def update (eventWriter : Option Port) : Machine :=
  let w := eventWriter.map ResponseWriter.port
  let (now, m) := m.nowMs b
  ((m.updateBoot b w).updateMotion b w).updateTimeout b now w

/-- `should_send_telemetry`; asking reads the clock. -/
def shouldSendTelemetry : Bool × Machine :=
  let telemetry := m.act.activeConfig.telemetry
  if !telemetry.binaryStreamEnabled ∨ telemetry.intervalMs = 0 then (false, m)
  else
    let (now, after) := m.nowMs b
    (now - m.act.lastTelemetryMs ≥ telemetry.intervalMs.toUInt32, after)

def markTelemetrySent : Machine :=
  let (now, m) := m.nowMs b
  { m with act := { m.act with lastTelemetryMs := now } }

def sendTelemetry (port : Port) (seq : UInt16) : Machine :=
  (m.sendStatus b (.port port) seq true).markTelemetrySent b

def recordFrameError (error : ErrorCode) : Machine :=
  let m := m.mapCounters fun c => { c with decodeErrors := c.decodeErrors + 1 }
  if error = .ERR_BAD_CRC then
    (m.mapCounters fun c => { c with crcErrors := c.crcErrors + 1 }).setFault b .BAD_CRC none
  else if error = .ERR_BAD_PAYLOAD then m.setFault b .BAD_PAYLOAD none
  else m.setFault b .RX_FRAME none

end Machine

/-! ## Runs -/

/-- One call of a public entry point. -/
inductive Op where
  | begin (defaults : ActuatorConfig)
  | update (eventWriter : Option Port)
  | shouldSendTelemetry
  | markTelemetrySent
  | sendTelemetry (port : Port) (seq : UInt16)
  | recordFrameError (error : ErrorCode)
  | handlePacket (request : Packet) (port : Port)

def step (b : MotionBackend) (m : Machine) : Op → Machine
  | .begin defaults => m.beginWith b defaults
  | .update eventWriter => m.update b eventWriter
  | .shouldSendTelemetry => (m.shouldSendTelemetry b).2
  | .markTelemetrySent => m.markTelemetrySent b
  | .sendTelemetry port seq => m.sendTelemetry b port seq
  | .recordFrameError error => m.recordFrameError b error
  | .handlePacket request port => m.handlePacket b port request

end Daft
