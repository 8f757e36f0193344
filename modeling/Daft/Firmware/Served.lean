import Daft.Firmware.Effect

/-!
# What a request does

`Served b h r c calls responses c'`: the request `r`, dispatched with control
part `c` and history `h`, makes the notable calls `calls`, has `responses`
cached and leaves `c'`. There is one case for each way a handler can end, with
the guards that lead there and the answers the backend gives on the way; what
a request can do to the actuator is proved from these cases alone.
-/

namespace Daft

/-- The payload length the case of a request checks, `none` without a case. -/
def MsgId.requestLength : MsgId → Option UInt16
  | .PING | .GET_IDENTITY | .GET_CAPABILITIES | .GET_STATUS | .GET_FAULTS | .GET_COUNTERS
  | .HEARTBEAT | .ESTOP | .CLEAR_FAULTS | .CONFIG_APPLY | .CONFIG_SAVE | .CONFIG_RESET_DEFAULTS
  | .REBOOT | .GET_DRIVER_STATUS => some 0
  | .SET_CONTROL_MODE => some 1
  | .CONFIG_QUERY | .SET_TELEM_RATE => some 2
  | .RAMP_STOP => some 4
  | .CONFIG_STAGE_FIELD => some 6
  | .RUN_VEL => some 8
  | .MOVE_ABS | .MOVE_REL => some 12
  | _ => none

/-- A request for `msg` with the payload length its case checks. -/
structure Packet.Asks (r : Packet) (msg : MsgId) : Prop where
  id : r.msgId = msg.byte
  length : msg.requestLength = some r.payloadLen

/-- A message id without a case in the switch. -/
def Packet.Unsupported (r : Packet) : Prop :=
  ∀ msg, MsgId.ofByte r.msgId = some msg → msg.requestLength = none

namespace Packet.Asks

variable {r : Packet} {msg other : MsgId}

/-- The message id of a request that asks for something is declared. -/
@[grind →] theorem found (asks : r.Asks msg) : MsgId.ofByte r.msgId = some msg := by
  rw [asks.id, MsgId.ofByte_byte]

/-- A well-formed request passes its case's length check. -/
@[grind →] theorem rightLength {length : UInt16} (asks : r.Asks msg) (id : r.msgId = other.byte)
    (expects : other.requestLength = some length) : r.payloadLen = length := by
  obtain rfl := MsgId.byte_injective (asks.id.symm.trans id)
  exact Option.some.inj (asks.length.symm.trans expects)

/-- A request that asks for something has a case. -/
@[grind →] theorem supported (asks : r.Asks msg) : ¬ r.Unsupported := by
  intro unsupported
  have length := asks.length
  rw [unsupported msg asks.found] at length
  cases length

end Packet.Asks

/-! ## Control parts -/

namespace Control

variable (c : Control)

/-- The state a finished motion or an applied configuration leaves. -/
def restState : ActuatorState := if c.driverEnabled then .IDLE else .DISABLED

def disabled : Control :=
  { c with controlMode := .DISABLED, driverEnabled := false, state := .DISABLED }

/-- After `SET_CONTROL_MODE` with an enabling mode. -/
def enabled (mode : ControlMode) : Control :=
  { c with controlMode := mode, driverEnabled := true,
           state := if mode = .COMMISSIONING then .COMMISSIONING else .IDLE }

def estopped : Control :=
  { c with driverEnabled := false, controlMode := .DISABLED, state := .FAULTED }

def stopping : Control := { c with state := .STOPPING, controlMode := .POSITION }

def cleared : Control :=
  { c with faults := 0, state := c.restState,
           controlMode := if c.driverEnabled then c.controlMode else .DISABLED }

def staging (candidate : ActuatorConfig) : Control :=
  { c with stagedConfig := candidate, configStaged := true,
           state := if c.isMotionState then c.state else .CONFIG_STAGED }

def applied : Control :=
  { c with activeConfig := c.stagedConfig, configStaged := false, state := c.restState }

def reset : Control :=
  { c with activeConfig := c.defaults, stagedConfig := c.defaults, configStaged := false }

def withTelemetryRate (interval : UInt16) : Control :=
  let active := { c.activeConfig with telemetry.intervalMs := interval }
  { c with activeConfig := active,
           stagedConfig := if c.configStaged then
               { c.stagedConfig with telemetry.intervalMs := interval }
             else active }

/-- The position the firmware reads when it is called with history `h`. -/
def logicalPosition (b : MotionBackend) (h : History) : Int32 :=
  c.fromBackendValue ((b.currentPosition.map fun f => f h).getD 0)

end Control

/-! ## Requests with arguments -/

/-- Calls that do nothing but read the position. -/
def OnlyReads (calls : List Call) : Prop := ∀ call ∈ calls, ∃ steps, call = .currentPosition steps

/-- No call at all reads only. -/
@[simp] theorem OnlyReads.nil : OnlyReads [] := by simp [OnlyReads]

/-- A class of calls without position reads is absent from reads. -/
theorem OnlyReads.all {calls : List Call} {p : Call → Bool} (reads : OnlyReads calls)
    (silent : ∀ steps, p (.currentPosition steps) = false) : ∀ call ∈ calls, p call = false := by
  intro call member
  obtain ⟨steps, rfl⟩ := reads call member
  exact silent steps

section

variable (b : MotionBackend) (h : History) (r : Packet) (c : Control)

/-- The position read by a `MOVE_REL`. -/
def positionRead : List Call := logged .currentPosition (b.currentPosition.map fun f => f h)

/-- The sum a `MOVE_REL` checks, in 64 bits. -/
def relativeTarget : Int := (c.logicalPosition b h).toInt + (readI32 (r.at 0)).toInt

/-- A `SET_CONTROL_MODE` past its guards. -/
structure ModeRequest (mode : ControlMode) : Prop where
  asks : r.Asks .SET_CONTROL_MODE
  declared : ¬ r.payload[0] > ControlMode.COMMISSIONING.byte
  unlatched : ¬ (c.state = .FAULTED ∧ r.payload[0] ≠ ControlMode.DISABLED.byte)
  still : c.isMotionState = false
  requested : ControlMode.ofByte r.payload[0] = mode

/-- A `RAMP_STOP` that reaches the backend, with the calls made before it does. -/
inductive RampRequest : List Call → Prop where
  | moving (asks : r.Asks .RAMP_STOP) (motion : c.isMotionState = true) : RampRequest []
  | active (asks : r.Asks .RAMP_STOP) (still : c.isMotionState = false)
      (asked : b.motionActive.map (fun f => f h) = some true) : RampRequest [.motionActive true]

/-- A `CONFIG_APPLY` that reaches the driver. -/
structure ApplyRequest : Prop where
  asks : r.Asks .CONFIG_APPLY
  staged : c.configStaged = true
  still : c.isMotionState = false
  valid : (validateConfig c.stagedConfig).ok = true

/-- The answer to the reconfiguration a `CONFIG_APPLY` needs, if it needs one. -/
def applyAnswer : Option Bool :=
  if driverChanged c.stagedConfig.driver c.activeConfig.driver then
    b.configureDriver.map fun f => f h c.stagedConfig.driver
  else none

/-- A `CONFIG_RESET_DEFAULTS` past its guards. -/
structure ResetRequest : Prop where
  asks : r.Asks .CONFIG_RESET_DEFAULTS
  still : c.isMotionState = false

/-- A motion command that reaches the backend: its answer, the calls made and
the state and mode it is to end in. -/
inductive MotionRequest : Option Bool → List Call → ActuatorState → ControlMode → Prop where
  | moveAbs {answer : Option Bool} {target : Int32} (asks : r.Asks .MOVE_ABS)
      (allowed : c.validateMotionAllowed .POSITION = .OK)
      (rates : rateRefused c.activeConfig (readU32 (r.at 4)) (readU32 (r.at 8)) = false)
      (within : softLimitViolation c.activeConfig (readI32 (r.at 0)) = false)
      (converted : c.toBackendValue (readI32 (r.at 0)) = some target)
      (asked : answer =
        b.moveAbsolute.map fun f => f h target (readU32 (r.at 4)) (readU32 (r.at 8))) :
      MotionRequest answer
        (logged (.moveAbsolute target (readU32 (r.at 4)) (readU32 (r.at 8))) answer)
        .MOVING_POSITION .POSITION
  | moveRel {answer : Option Bool} {delta : Int32} (asks : r.Asks .MOVE_REL)
      (allowed : c.validateMotionAllowed .POSITION = .OK)
      (exact : ¬ (relativeTarget b h r c < Int32.minValue.toInt ∨
        relativeTarget b h r c > Int32.maxValue.toInt))
      (rates : rateRefused c.activeConfig (readU32 (r.at 4)) (readU32 (r.at 8)) = false)
      (within : softLimitViolation c.activeConfig (Int32.ofInt (relativeTarget b h r c)) = false)
      (converted : c.toBackendValue (readI32 (r.at 0)) = some delta)
      (asked : answer = b.moveRelative.map fun f =>
        f (positionRead b h ++ h) delta (readU32 (r.at 4)) (readU32 (r.at 8))) :
      MotionRequest answer
        (logged (.moveRelative delta (readU32 (r.at 4)) (readU32 (r.at 8))) answer ++
          positionRead b h)
        .MOVING_POSITION .POSITION
  | runVel {answer : Option Bool} {velocity : Int32} (asks : r.Asks .RUN_VEL)
      (allowed : c.validateMotionAllowed .VELOCITY = .OK)
      (nonzero : readI32 (r.at 0) ≠ 0)
      (rates : rateRefused c.activeConfig (absVelocity (readI32 (r.at 0))) (readU32 (r.at 4)) =
        false)
      (converted : c.toBackendValue (readI32 (r.at 0)) = some velocity)
      (asked : answer = b.runVelocity.map fun f => f h velocity (readU32 (r.at 4))) :
      MotionRequest answer (logged (.runVelocity velocity (readU32 (r.at 4))) answer)
        .RUNNING_VELOCITY .VELOCITY

/-- The mode whose rules `validate_motion_allowed` applies to a motion command. -/
def MsgId.motionMode : MsgId → Option ControlMode
  | .MOVE_ABS | .MOVE_REL => some .POSITION
  | .RUN_VEL => some .VELOCITY
  | _ => none

/-- The refusals that set no fault, with the calls made before them. -/
inductive Refusal : List Call → ErrorCode → Prop where
  | badPayload {msg : MsgId} {length : UInt16} (id : r.msgId = msg.byte)
      (expects : msg.requestLength = some length) (wrong : r.payloadLen ≠ length) :
      Refusal [] .ERR_BAD_PAYLOAD
  | modeRange (asks : r.Asks .SET_CONTROL_MODE)
      (undeclared : r.payload[0] > ControlMode.COMMISSIONING.byte) : Refusal [] .ERR_OUT_OF_RANGE
  | modeFaulted (asks : r.Asks .SET_CONTROL_MODE) (faulted : c.state = .FAULTED)
      (enabling : r.payload[0] ≠ ControlMode.DISABLED.byte) : Refusal [] .ERR_FAULTED
  | modeBusy (asks : r.Asks .SET_CONTROL_MODE) (motion : c.isMotionState = true) :
      Refusal [] .ERR_BUSY
  | unknownField (asks : r.Asks .CONFIG_QUERY)
      (unknown : configFieldValue c.activeConfig (.ofRaw (readU16 (r.at 0))) = none) :
      Refusal [] .ERR_INVALID_FIELD
  | notStaged {code : ErrorCode} (id : r.msgId = MsgId.CONFIG_STAGE_FIELD.byte)
      (rejected : stageCandidate r c = .error code) : Refusal [] code
  | applyBusy (asks : r.Asks .CONFIG_APPLY) (staged : c.configStaged = true)
      (motion : c.isMotionState = true) : Refusal [] .ERR_BUSY
  | resetBusy (asks : r.Asks .CONFIG_RESET_DEFAULTS) (motion : c.isMotionState = true) :
      Refusal [] .ERR_BUSY
  | notAllowed {msg : MsgId} {mode : ControlMode} (moves : msg.motionMode = some mode)
      (asks : r.Asks msg) (refused : c.validateMotionAllowed mode ≠ .OK) :
      Refusal [] (c.validateMotionAllowed mode)
  | absRange (asks : r.Asks .MOVE_ABS) (allowed : c.validateMotionAllowed .POSITION = .OK)
      (outside : rateRefused c.activeConfig (readU32 (r.at 4)) (readU32 (r.at 8)) = true ∨
        c.toBackendValue (readI32 (r.at 0)) = none) : Refusal [] .ERR_OUT_OF_RANGE
  | relRange (asks : r.Asks .MOVE_REL) (allowed : c.validateMotionAllowed .POSITION = .OK)
      (outside : (relativeTarget b h r c < Int32.minValue.toInt ∨
          relativeTarget b h r c > Int32.maxValue.toInt) ∨
        rateRefused c.activeConfig (readU32 (r.at 4)) (readU32 (r.at 8)) = true ∨
        c.toBackendValue (readI32 (r.at 0)) = none) :
      Refusal (positionRead b h) .ERR_OUT_OF_RANGE
  | velRange (asks : r.Asks .RUN_VEL) (allowed : c.validateMotionAllowed .VELOCITY = .OK)
      (outside : readI32 (r.at 0) = 0 ∨
        rateRefused c.activeConfig (absVelocity (readI32 (r.at 0))) (readU32 (r.at 4)) = true ∨
        c.toBackendValue (readI32 (r.at 0)) = none) : Refusal [] .ERR_OUT_OF_RANGE

/-- The queries answered by one response from the control part and the position. -/
def MsgId.isQuery : MsgId → Bool
  | .GET_IDENTITY | .GET_CAPABILITIES | .GET_STATUS | .GET_FAULTS | .GET_COUNTERS
  | .CONFIG_QUERY => true
  | _ => false

/-! ## Outcomes -/

inductive Served : List Call → List Packet → Control → Prop where
  | refused {calls : List Call} {code : ErrorCode} (refusal : Refusal b h r c calls code) :
      Served calls [errorPacket r.seq r.msgId code] c
  | absLimited (asks : r.Asks .MOVE_ABS) (allowed : c.validateMotionAllowed .POSITION = .OK)
      (outside : softLimitViolation c.activeConfig (readI32 (r.at 0)) = true) :
      Served [] [errorPacket r.seq r.msgId .ERR_OUT_OF_RANGE] (c.withFault .SOFT_LIMIT)
  | relLimited (asks : r.Asks .MOVE_REL) (allowed : c.validateMotionAllowed .POSITION = .OK)
      (outside :
        softLimitViolation c.activeConfig (Int32.ofInt (relativeTarget b h r c)) = true) :
      Served (positionRead b h) [errorPacket r.seq r.msgId .ERR_OUT_OF_RANGE]
        (c.withFault .SOFT_LIMIT)
  | unsupported (unsupported : r.Unsupported) :
      Served [] [errorPacket r.seq r.msgId .ERR_UNSUPPORTED] (c.withFault .UNSUPPORTED_COMMAND)
  | ponged (asks : r.Asks .PING) :
      Served [] [ackPacket r.seq r.msgId, .respond .PONG PacketFlag.RESPONSE.bits r.seq 0 []] c
  | answered {msg : MsgId} {calls : List Call} {response : Packet} (query : msg.isQuery = true)
      (asks : r.Asks msg) (reads : OnlyReads calls)
      (flags : response.flags = PacketFlag.RESPONSE.bits) (seq : response.seq = r.seq) :
      Served calls [response] c
  | heard (asks : r.Asks .HEARTBEAT ∨ r.Asks .REBOOT) :
      Served [] [ackPacket r.seq r.msgId] c
  | driverRead {answer : Option DriverStatus} {response : Packet}
      (asks : r.Asks .GET_DRIVER_STATUS) (asked : answer = b.driverStatus.map fun f => f h)
      (healthy : (answer.getD {}).uartFailing = false)
      (flags : response.flags = PacketFlag.RESPONSE.bits) (seq : response.seq = r.seq) :
      Served (logged .driverStatus answer) [response] c
  | uartFailed {answer : Option DriverStatus} {responses : List Packet}
      (asks : r.Asks .GET_DRIVER_STATUS) (asked : answer = b.driverStatus.map fun f => f h)
      (failing : (answer.getD {}).uartFailing = true)
      (few : responses.length ≤ cacheCapacity) :
      Served (logged .driverStatus answer) responses (c.withFault .DRIVER_UART)
  | disabled {answer : Option Bool} (request : ModeRequest r c .DISABLED)
      (asked : answer = b.enableDriver.map fun f => f h false) :
      Served (logged (.enableDriver false) answer) [ackPacket r.seq r.msgId] c.disabled
  | modeConfigureFailed {mode : ControlMode} (request : ModeRequest r c mode)
      (enabling : mode ≠ .DISABLED)
      (asked : b.configureDriver.map (fun f => f h c.activeConfig.driver) = some false) :
      Served [.configureDriver c.activeConfig.driver false]
        [errorPacket r.seq r.msgId .ERR_BAD_STATE]
        (({ c with controlMode := mode } : Control).withFault .DRIVER)
  | modeEnableFailed {mode : ControlMode} {configured : Option Bool}
      (request : ModeRequest r c mode) (enabling : mode ≠ .DISABLED)
      (configuring : configured = b.configureDriver.map fun f => f h c.activeConfig.driver)
      (accepted : configured ≠ some false)
      (asked : b.enableDriver.map (fun f =>
        f (logged (.configureDriver c.activeConfig.driver) configured ++ h) true) = some false) :
      Served (.enableDriver true false ::
          logged (.configureDriver c.activeConfig.driver) configured)
        [errorPacket r.seq r.msgId .ERR_BAD_STATE]
        (({ c with controlMode := mode } : Control).withFault .DRIVER)
  | enabled {mode : ControlMode} {configured answer : Option Bool}
      (request : ModeRequest r c mode) (enabling : mode ≠ .DISABLED)
      (configuring : configured = b.configureDriver.map fun f => f h c.activeConfig.driver)
      (accepted : configured ≠ some false)
      (asked : answer = b.enableDriver.map fun f =>
        f (logged (.configureDriver c.activeConfig.driver) configured ++ h) true)
      (switched : answer ≠ some false) :
      Served (logged (.enableDriver true) answer ++
          logged (.configureDriver c.activeConfig.driver) configured)
        [ackPacket r.seq r.msgId] (c.enabled mode)
  | estopped {stopped : Option Unit} {answer : Option Bool} (asks : r.Asks .ESTOP)
      (stop : stopped = b.emergencyStop)
      (asked : answer = b.enableDriver.map fun f =>
        f (logged (fun _ => .emergencyStop) stopped ++ h) false) :
      Served (logged (.enableDriver false) answer ++ logged (fun _ => .emergencyStop) stopped)
        [ackPacket r.seq r.msgId] c.estopped
  | rampAtRest {answer : Option Bool} (asks : r.Asks .RAMP_STOP)
      (still : c.isMotionState = false) (asked : answer = b.motionActive.map fun f => f h)
      (rest : answer ≠ some true) :
      Served (logged .motionActive answer) [ackPacket r.seq r.msgId] c
  | rampFailed {before : List Call} {answer : Option Bool} (request : RampRequest b h r c before)
      (asked : answer = b.rampStop.map fun f => f (before ++ h) (readU32 (r.at 0)))
      (failed : answer ≠ some true) :
      Served (logged (.rampStop (readU32 (r.at 0))) answer ++ before)
        [errorPacket r.seq r.msgId .ERR_BAD_STATE] (c.withFault .DRIVER)
  | ramped {before : List Call} (request : RampRequest b h r c before)
      (asked : b.rampStop.map (fun f => f (before ++ h) (readU32 (r.at 0))) = some true) :
      Served (.rampStop (readU32 (r.at 0)) true :: before) [ackPacket r.seq r.msgId] c.stopping
  | cleared (asks : r.Asks .CLEAR_FAULTS) : Served [] [ackPacket r.seq r.msgId] c.cleared
  | staged {candidate : ActuatorConfig} (asks : r.Asks .CONFIG_STAGE_FIELD)
      (accepted : stageCandidate r c = .ok candidate) :
      Served [] [ackPacket r.seq r.msgId] (c.staging candidate)
  | nothingStaged (asks : r.Asks .CONFIG_APPLY) (none : c.configStaged = false) :
      Served [] [ackPacket r.seq r.msgId] c
  | applyInvalid (asks : r.Asks .CONFIG_APPLY) (staged : c.configStaged = true)
      (still : c.isMotionState = false) (invalid : (validateConfig c.stagedConfig).ok = false) :
      Served [] [errorPacket r.seq r.msgId .ERR_OUT_OF_RANGE] (c.withFault .INVALID_CONFIG)
  | applyFailed (request : ApplyRequest r c) (failed : applyAnswer b h c = some false) :
      Served [.configureDriver c.stagedConfig.driver false]
        [errorPacket r.seq r.msgId .ERR_BAD_STATE] (c.withFault .DRIVER)
  | applied {answer : Option Bool} (request : ApplyRequest r c) (asked : answer = applyAnswer b h c)
      (accepted : answer ≠ some false) :
      Served (logged (.configureDriver c.stagedConfig.driver) answer) [ackPacket r.seq r.msgId]
        c.applied
  | saveFailed {answer : Option Bool} (asks : r.Asks .CONFIG_SAVE)
      (asked : answer = b.saveConfig.map fun f => f h c.activeConfig) (failed : answer ≠ some true) :
      Served (logged (.saveConfig c.activeConfig) answer) [errorPacket r.seq r.msgId .ERR_STORAGE]
        (c.withFault .CONFIG_STORAGE)
  | saved (asks : r.Asks .CONFIG_SAVE)
      (asked : b.saveConfig.map (fun f => f h c.activeConfig) = some true) :
      Served [.saveConfig c.activeConfig true] [ackPacket r.seq r.msgId]
        { c with configGeneration := c.configGeneration + 1 }
  | resetConfigureFailed (request : ResetRequest r c)
      (asked : b.configureDriver.map (fun f => f h c.defaults.driver) = some false) :
      Served [.configureDriver c.defaults.driver false] [errorPacket r.seq r.msgId .ERR_BAD_STATE]
        (c.reset.withFault .DRIVER)
  | resetStorageFailed {configured : Option Bool} (request : ResetRequest r c)
      (configuring : configured = b.configureDriver.map fun f => f h c.defaults.driver)
      (accepted : configured ≠ some false)
      (asked : b.resetConfigStorage.map
        (fun f => f (logged (.configureDriver c.defaults.driver) configured ++ h)) = some false) :
      Served (.resetConfigStorage false :: logged (.configureDriver c.defaults.driver) configured)
        [errorPacket r.seq r.msgId .ERR_STORAGE] (c.reset.withFault .CONFIG_STORAGE)
  | reset {configured answer : Option Bool} (request : ResetRequest r c)
      (configuring : configured = b.configureDriver.map fun f => f h c.defaults.driver)
      (accepted : configured ≠ some false)
      (asked : answer = b.resetConfigStorage.map fun f =>
        f (logged (.configureDriver c.defaults.driver) configured ++ h))
      (erased : answer ≠ some false) :
      Served (logged .resetConfigStorage answer ++
          logged (.configureDriver c.defaults.driver) configured)
        [ackPacket r.seq r.msgId] c.reset
  | telemetryRate (asks : r.Asks .SET_TELEM_RATE) :
      Served [] [ackPacket r.seq r.msgId] (c.withTelemetryRate (readU16 (r.at 0)))
  | motionFailed {answer : Option Bool} {calls : List Call} {state : ActuatorState}
      {mode : ControlMode} (request : MotionRequest b h r c answer calls state mode)
      (failed : answer ≠ some true) :
      Served calls [errorPacket r.seq r.msgId .ERR_BAD_STATE] (c.withFault .DRIVER)
  | motionStarted {answer : Option Bool} {calls : List Call} {state : ActuatorState}
      {mode : ControlMode} (request : MotionRequest b h r c answer calls state mode)
      (accepted : answer = some true) :
      Served calls [ackPacket r.seq r.msgId] { c with state := state, controlMode := mode }

end

/-- What `stage_field` stages. -/
theorem stageCandidate_eq {r : Packet} {c : Control} {candidate : ActuatorConfig}
    (accepted : stageCandidate r c = .ok candidate) :
    candidate =
      (stageConfigField c.pendingConfig (.ofRaw (readU16 (r.at 0))) (readI32 (r.at 2))).2 := by
  simp only [stageCandidate, stageArguments] at accepted
  repeat' split at accepted
  all_goals cases accepted
  rfl

/-- The read of the position is a read. -/
theorem positionRead_reads (b : MotionBackend) (h : History) : OnlyReads (positionRead b h) := by
  intro call member
  obtain ⟨steps, -, rfl⟩ := (mem_logged ..).mp member
  exact ⟨steps, rfl⟩

/-- A refusal reads the position at most. -/
theorem Refusal.reads {b : MotionBackend} {h : History} {r : Packet} {c : Control}
    {calls : List Call} {code : ErrorCode} (refusal : Refusal b h r c calls code) :
    OnlyReads calls := by
  cases refusal with
  | relRange => exact positionRead_reads b h
  | _ => exact .nil

/-- Before the stop only the motion may have been asked about. -/
theorem RampRequest.all {b : MotionBackend} {h : History} {r : Packet} {c : Control}
    {before : List Call} {p : Call → Bool} (request : RampRequest b h r c before)
    (silent : p (.motionActive true) = false) : ∀ call ∈ before, p call = false := by
  cases request <;> simp [silent]

/-! ## What a request asks for decides the case -/

section

variable {b : MotionBackend} {h : History} {r : Packet} {c c' : Control} {calls : List Call}
  {responses : List Packet}

attribute [grind →] Packet.Asks.id ModeRequest.asks ApplyRequest.asks ResetRequest.asks

/-- A ramp request asks for `RAMP_STOP`. -/
@[grind →] theorem RampRequest.asks (request : RampRequest b h r c calls) : r.Asks .RAMP_STOP := by
  cases request <;> assumption

/-- A motion request is one of three commands. -/
@[grind →] theorem MotionRequest.asks {answer : Option Bool} {state : ActuatorState}
    {mode : ControlMode} (request : MotionRequest b h r c answer calls state mode) :
    r.Asks .MOVE_ABS ∨ r.Asks .MOVE_REL ∨ r.Asks .RUN_VEL := by
  cases request <;> simp [*]

@[grind →] theorem MsgId.moves_of_motionMode {msg : MsgId} {mode : ControlMode}
    (moves : msg.motionMode = some mode) : msg = .MOVE_ABS ∨ msg = .MOVE_REL ∨ msg = .RUN_VEL := by
  cases msg <;> simp_all [motionMode]

@[grind →] theorem MsgId.reads_of_isQuery {msg : MsgId} (query : msg.isQuery = true) :
    msg = .GET_IDENTITY ∨ msg = .GET_CAPABILITIES ∨ msg = .GET_STATUS ∨ msg = .GET_FAULTS ∨
      msg = .GET_COUNTERS ∨ msg = .CONFIG_QUERY := by
  cases msg <;> simp_all [isQuery]

/-- A well-formed `ESTOP` is carried out. -/
theorem Served.estopped_of (served : Served b h r c calls responses c') (asks : r.Asks .ESTOP) :
    c' = c.estopped ∧ ∃ answer : Option Bool, calls =
      logged (.enableDriver false) answer ++ logged (fun _ => .emergencyStop) b.emergencyStop := by
  cases served with
  | estopped _ stop _ => exact ⟨rfl, _, by rw [stop]⟩
  | refused refusal => cases refusal <;> grind
  | _ => grind

/-- A candidate that was accepted is staged. -/
theorem Served.staged_of {candidate : ActuatorConfig}
    (served : Served b h r c calls responses c') (asks : r.Asks .CONFIG_STAGE_FIELD)
    (accepted : stageCandidate r c = .ok candidate) : c' = c.staging candidate := by
  cases served with
  | staged _ accepted' => grind
  | refused refusal => cases refusal <;> grind
  | _ => grind

/-- A request that may be applied, with a driver that does not refuse, is applied. -/
theorem Served.applied_of (served : Served b h r c calls responses c') (request : ApplyRequest r c)
    (accepted : applyAnswer b h c ≠ some false) : c' = c.applied := by
  have staged := request.staged
  have still := request.still
  have valid := request.valid
  cases served with
  | applied => rfl
  | refused refusal => cases refusal <;> grind
  | _ => grind

/-- A motor that moves though the state says rest is stopped all the same. -/
theorem Served.ramped_of (served : Served b h r c calls responses c') (asks : r.Asks .RAMP_STOP)
    (still : c.isMotionState = false) (active : b.motionActive.map (fun f => f h) = some true)
    (stopped : b.rampStop.map (fun f => f (.motionActive true :: h) (readU32 (r.at 0))) =
      some true) : c' = c.stopping := by
  cases served with
  | ramped => rfl
  | rampFailed request asked failed => cases request <;> grind
  | refused refusal => cases refusal <;> grind
  | _ => grind

/-- Nothing a request does overflows the cache. -/
theorem Served.few (served : Served b h r c calls responses c') :
    responses.length ≤ cacheCapacity := by
  cases served with
  | uartFailed _ _ _ few => exact few
  | _ => simp [cacheCapacity]

end

end Daft
