import Daft.Firmware.Actuator
import Daft.Host.Messages

/-!
# What the parsers read

From the payload laid out by a sender of the firmware each parser of the host takes what
was written: the numbers, the names of enumerators, and of a byte used as a flag whether
it is zero.
-/

namespace Daft

open Host Host.Messages Host.Struct

/-! ## Names -/

def MsgId.name : MsgId → String
  | .PING => "PING" | .PONG => "PONG" | .GET_IDENTITY => "GET_IDENTITY" | .IDENTITY => "IDENTITY"
  | .GET_CAPABILITIES => "GET_CAPABILITIES" | .CAPABILITIES => "CAPABILITIES"
  | .GET_STATUS => "GET_STATUS" | .STATUS => "STATUS" | .GET_FAULTS => "GET_FAULTS"
  | .FAULTS => "FAULTS" | .GET_COUNTERS => "GET_COUNTERS" | .COUNTERS => "COUNTERS"
  | .HEARTBEAT => "HEARTBEAT" | .SET_CONTROL_MODE => "SET_CONTROL_MODE" | .ESTOP => "ESTOP"
  | .RAMP_STOP => "RAMP_STOP" | .CLEAR_FAULTS => "CLEAR_FAULTS" | .CONFIG_QUERY => "CONFIG_QUERY"
  | .CONFIG_VALUE => "CONFIG_VALUE" | .CONFIG_STAGE_FIELD => "CONFIG_STAGE_FIELD"
  | .CONFIG_APPLY => "CONFIG_APPLY" | .CONFIG_SAVE => "CONFIG_SAVE"
  | .CONFIG_RESET_DEFAULTS => "CONFIG_RESET_DEFAULTS" | .REBOOT => "REBOOT"
  | .GET_DRIVER_STATUS => "GET_DRIVER_STATUS" | .DRIVER_STATUS => "DRIVER_STATUS"
  | .MOVE_ABS => "MOVE_ABS" | .MOVE_REL => "MOVE_REL" | .RUN_VEL => "RUN_VEL"
  | .SET_TELEM_RATE => "SET_TELEM_RATE" | .ACK => "ACK" | .ERROR => "ERROR" | .EVENT => "EVENT"

def ErrorCode.name : ErrorCode → String
  | .OK => "OK" | .ERR_BUSY => "ERR_BUSY" | .ERR_INVALID_FIELD => "ERR_INVALID_FIELD"
  | .ERR_OUT_OF_RANGE => "ERR_OUT_OF_RANGE" | .ERR_REQUIRES_REBOOT => "ERR_REQUIRES_REBOOT"
  | .ERR_UNSUPPORTED => "ERR_UNSUPPORTED" | .ERR_FAULTED => "ERR_FAULTED"
  | .ERR_BAD_STATE => "ERR_BAD_STATE" | .ERR_BAD_CRC => "ERR_BAD_CRC"
  | .ERR_BAD_PAYLOAD => "ERR_BAD_PAYLOAD" | .ERR_BAD_VERSION => "ERR_BAD_VERSION"
  | .ERR_DUPLICATE_MISMATCH => "ERR_DUPLICATE_MISMATCH" | .ERR_STORAGE => "ERR_STORAGE"

def ActuatorState.name : ActuatorState → String
  | .BOOTING => "BOOTING" | .DISABLED => "DISABLED" | .IDLE => "IDLE"
  | .MOVING_POSITION => "MOVING_POSITION" | .RUNNING_VELOCITY => "RUNNING_VELOCITY"
  | .STOPPING => "STOPPING" | .FAULTED => "FAULTED" | .CONFIG_STAGED => "CONFIG_STAGED"
  | .COMMISSIONING => "COMMISSIONING"

def ControlMode.name : ControlMode → String
  | .DISABLED => "DISABLED" | .POSITION => "POSITION" | .VELOCITY => "VELOCITY"
  | .COMMISSIONING => "COMMISSIONING"

def EventType.name : EventType → String
  | .BOOT_REASON => "BOOT_REASON" | .STATE_CHANGED => "STATE_CHANGED" | .FAULT_SET => "FAULT_SET"
  | .FAULT_CLEARED => "FAULT_CLEARED" | .CONFIG_APPLIED => "CONFIG_APPLIED"
  | .CONFIG_SAVED => "CONFIG_SAVED" | .DRIVER_UART_FAILURE => "DRIVER_UART_FAILURE"
  | .HOST_TIMEOUT => "HOST_TIMEOUT"

def EventSeverity.name : EventSeverity → String
  | .INFO => "INFO" | .WARNING => "WARNING" | .ERROR => "ERROR"

def ConfigMutability.name : ConfigMutability → String
  | .RUNTIME_SAFE => "RUNTIME_SAFE" | .REQUIRES_IDLE => "REQUIRES_IDLE"
  | .REQUIRES_DRIVER_REINIT => "REQUIRES_DRIVER_REINIT" | .REQUIRES_REBOOT => "REQUIRES_REBOOT"
  | .COMPILE_TIME_ONLY => "COMPILE_TIME_ONLY" | .RESERVED => "RESERVED"

/-- The name of a declared field. -/
def ConfigField.name : ConfigField → Option String
  | .TELEMETRY_INTERVAL_MS => some "TELEMETRY_INTERVAL_MS"
  | .SOFT_LIMITS_ENABLED => some "SOFT_LIMITS_ENABLED"
  | .SOFT_LIMIT_MIN_STEPS => some "SOFT_LIMIT_MIN_STEPS"
  | .SOFT_LIMIT_MAX_STEPS => some "SOFT_LIMIT_MAX_STEPS"
  | .DEFAULT_MAX_VELOCITY_SPS => some "DEFAULT_MAX_VELOCITY_SPS"
  | .DEFAULT_MAX_ACCEL_SPS2 => some "DEFAULT_MAX_ACCEL_SPS2"
  | .DEFAULT_STOP_DECEL_SPS2 => some "DEFAULT_STOP_DECEL_SPS2"
  | .RUN_CURRENT_MA => some "RUN_CURRENT_MA" | .HOLD_CURRENT_MA => some "HOLD_CURRENT_MA"
  | .MICROSTEPS => some "MICROSTEPS" | .DRIVER_MODE => some "DRIVER_MODE"
  | .POSITION_OFFSET_STEPS => some "POSITION_OFFSET_STEPS"
  | .HOME_POSITION_STEPS => some "HOME_POSITION_STEPS"
  | .DIRECTION_INVERTED => some "DIRECTION_INVERTED" | .HOST_TIMEOUT_MS => some "HOST_TIMEOUT_MS"
  | .VELOCITY_TIMEOUT_ACTION => some "VELOCITY_TIMEOUT_ACTION"
  | .ENABLE_TIMEOUT_MS => some "ENABLE_TIMEOUT_MS"
  | .MAX_ALLOWED_CURRENT_MA => some "MAX_ALLOWED_CURRENT_MA"
  | .MAX_ALLOWED_VELOCITY_SPS => some "MAX_ALLOWED_VELOCITY_SPS"
  | .MAX_ALLOWED_ACCEL_SPS2 => some "MAX_ALLOWED_ACCEL_SPS2"
  | .undeclared _ => none

/-- What a message id is called: by its name, or by its value where it has none. -/
def messageText (byte : UInt8) : String :=
  match MsgId.ofByte byte with
  | some msg => msg.name
  | none => "0x" ++ hexadecimal 2 byte.toNat

/-- The enumeration of the host has every message id of the firmware. -/
theorem lookup_byte (msg : MsgId) : msgIds.lookup (msg.byte.toNat : Int) = some msg.name := by
  cases msg <;> rfl

/-- The host's table names no byte that is not a message id of the firmware. -/
theorem lookup_unnamed {byte : UInt8} (unnamed : MsgId.ofByte byte = none) :
    msgIds.lookup (byte.toNat : Int) = none := by
  have named : ∀ entry ∈ msgIds, MsgId.ofByte (UInt8.ofNat entry.1.toNat) ≠ none := by decide
  rw [List.lookup_eq_none_iff]
  intro entry listed
  have other : (byte.toNat : Int) ≠ entry.1 := by
    intro same
    have found := named entry listed
    rw [← same, Int.toNat_natCast, UInt8.ofNat_toNat] at found
    exact found unnamed
  simpa using other

/-- And no other, so a byte is found exactly if the firmware declares it. -/
theorem lookup_msgIds (byte : UInt8) :
    msgIds.lookup (byte.toNat : Int) = (MsgId.ofByte byte).map MsgId.name := by
  cases found : MsgId.ofByte byte with
  | none => exact lookup_unnamed found
  | some msg =>
    rw [MsgId.byte_of_ofByte found]
    exact lookup_byte msg

/-- A byte without a name is shown in hexadecimal. -/
@[simp] theorem msgName_toNat (byte : UInt8) : msgName byte.toNat = messageText byte := by
  unfold msgName memberName messageText
  rw [lookup_msgIds]
  cases MsgId.ofByte byte <;> rfl

/-- Every error code of the firmware has its name on the host. -/
@[simp] theorem errorName_byte (code : ErrorCode) : errorName code.byte.toNat = code.name := by
  cases code <;> rfl

/-- Every state has its name on the host. -/
@[simp] theorem memberName_state (state : ActuatorState) (other : String) :
    memberName states state.byte.toNat other = state.name := by
  cases state <;> rfl

/-- Every mode has its name on the host. -/
@[simp] theorem memberName_mode (mode : ControlMode) (other : String) :
    memberName controlModes mode.byte.toNat other = mode.name := by
  cases mode <;> rfl

/-- Every event has its name on the host. -/
@[simp] theorem memberName_event (event : EventType) (other : String) :
    memberName eventTypes event.byte.toNat other = event.name := by
  cases event <;> rfl

/-- Every severity has its name on the host. -/
@[simp] theorem memberName_severity (severity : EventSeverity) (other : String) :
    memberName eventSeverities severity.byte.toNat other = severity.name := by
  cases severity <;> rfl

/-- Every mutability has its name on the host. -/
@[simp] theorem memberName_mutability (mutability : ConfigMutability) (other : String) :
    memberName mutabilities mutability.byte.toNat other = mutability.name := by
  cases mutability <;> rfl

/-- Every declared field has its name on the host. -/
theorem memberName_field {field : ConfigField} {name : String} (named : field.name = some name)
    (other : String) : memberName Messages.configFields field.raw.toNat other = name := by
  cases field <;> cases named <;> rfl

/-! ## Parsers -/

/-- A flag sent as 0 or 1 is read as it was. -/
@[simp] theorem truth_flag (flag : Bool) :
    truth ((if flag then 1 else 0 : UInt8).toNat) = flag := by
  cases flag <;> rfl

/-- Any other byte is read as true. -/
@[simp] theorem truth_toNat (byte : UInt8) : truth byte.toNat = (byte != 0) := by
  by_cases zero : byte = 0
  · rw [zero]
    rfl
  · have nonzero : byte.toNat ≠ 0 := fun same => zero (UInt8.toNat_inj.mp same)
    simp [truth, nonzero, zero]

/-- A payload of the length expected passes. -/
theorem requireLen_of {packet : Codec.Packet} {length : Nat} (name : String)
    (sized : packet.payload.length = length) : requireLen packet length name = .ok () := by
  unfold requireLen
  rw [if_neg (Decidable.not_not.mpr sized)]

theorem drop_writeU16 (value : UInt16) (rest : List UInt8) (count : Nat) :
    (writeU16 value ++ rest).drop (count + 2) = rest.drop count := by
  rfl

theorem drop_writeU32 (value : UInt32) (rest : List UInt8) (count : Nat) :
    (writeU32 value ++ rest).drop (count + 4) = rest.drop count := by
  rfl

/-- The text in a field of `width` bytes, filled up with zeros. -/
theorem take_padded {text : List UInt8} {width : Nat} (fits : text.length ≤ width)
    (rest : List UInt8) :
    (text ++ (List.replicate (width - text.length) 0 ++ rest)).take
      (min (text.length : Int) width).toNat = text := by
  have count : (min (text.length : Int) width).toNat = text.length := by omega
  rw [count, List.take_left]

/-- What follows a text filled up with zeros. -/
theorem drop_padded {text : List UInt8} {width : Nat} (fits : text.length ≤ width)
    (rest : List UInt8) :
    (text ++ (List.replicate (width - text.length) 0 ++ rest)).drop width = rest := by
  have field : (text ++ List.replicate (width - text.length) 0).length = width := by
    rw [List.length_append, List.length_replicate]
    omega
  rw [← List.append_assoc, List.drop_left' field]

section

variable {packet : Codec.Packet}

theorem parseAck_of {acked : UInt8} {code : ErrorCode}
    (payload : packet.payload = [acked, code.byte]) :
    parseAck packet = .ok { ackedMsg := messageText acked, code := code.name } := by
  unfold parseAck
  rw [requireLen_of "ACK" (by rw [payload]; rfl), payload]
  simp only [List.getD_cons_zero, List.getD_cons_succ, msgName_toNat, errorName_byte]
  rfl

theorem parseError_of {rejected : UInt8} {code : ErrorCode}
    (payload : packet.payload = [rejected, code.byte]) :
    parseError packet = .ok { rejectedMsg := messageText rejected, code := code.name } := by
  unfold parseError
  rw [requireLen_of "ERROR" (by rw [payload]; rfl), payload]
  simp only [List.getD_cons_zero, List.getD_cons_succ, msgName_toNat, errorName_byte]
  rfl

/-- The offsets of a status are those it was laid out with. -/
theorem parseStatus_of {state : ActuatorState} {mode : ControlMode} {enabled staged : Bool}
    {faults now generation commands : UInt32} {position target speed : Int32}
    (payload : packet.payload = [state.byte, mode.byte, if enabled then 1 else 0,
        if staged then 1 else 0] ++ writeU32 faults ++ writeI32 position ++ writeI32 target ++
      writeI32 speed ++ writeU32 now ++ writeU32 generation ++ writeU32 commands) :
    parseStatus packet = .ok
      { state := state.name, controlMode := mode.name, driverEnabled := enabled
        configStaged := staged, faults := faults.toNat, positionSteps := position.toInt
        targetSteps := target.toInt, speedSps := speed.toInt, uptimeMs := now.toNat
        configGeneration := generation.toNat, commandCount := commands.toNat } := by
  rw [← List.append_nil (writeU32 commands)] at payload
  unfold parseStatus
  rw [requireLen_of "STATUS" (by rw [payload]; rfl), payload]
  simp only [List.append_assoc, List.cons_append, List.nil_append, List.drop_succ_cons,
    List.drop_zero, unpack_byte, unpack_writeU32, unpack_writeI32, memberName_state,
    memberName_mode, truth_flag]
  rfl

theorem parseFaults_of {faults : UInt32} (payload : packet.payload = writeU32 faults) :
    parseFaults packet = .ok { faults := faults.toNat } := by
  rw [← List.append_nil (writeU32 faults)] at payload
  unfold parseFaults
  rw [requireLen_of "FAULTS" (by rw [payload]; rfl), payload, unpack_writeU32]
  rfl

theorem parseCounters_of {c : Daft.Counters} {now : UInt32}
    (payload : packet.payload = writeU32 c.crcErrors ++ writeU32 c.decodeErrors ++
      writeU32 c.droppedPackets ++ writeU32 c.duplicatePackets ++ writeU32 c.commandCount ++
      writeU32 c.rejectedCommands ++ writeU32 now) :
    parseCounters packet = .ok
      { crcErrors := c.crcErrors.toNat, decodeErrors := c.decodeErrors.toNat
        droppedPackets := c.droppedPackets.toNat, duplicatePackets := c.duplicatePackets.toNat
        commandCount := c.commandCount.toNat, rejectedCommands := c.rejectedCommands.toNat
        uptimeMs := now.toNat } := by
  rw [← List.append_nil (writeU32 now)] at payload
  unfold parseCounters
  rw [requireLen_of "COUNTERS" (by rw [payload]; rfl), payload]
  simp only [List.append_assoc, unpack_writeU32]
  rfl

theorem parseCapabilities_of {driver homing encoder persistence : UInt8}
    {maxPayload maxTelemetryHz : UInt16} {features hostTimeoutMs : UInt32}
    (payload : packet.payload = [driver, homing, encoder, persistence] ++ writeU16 maxPayload ++
      writeU16 maxTelemetryHz ++ writeU32 features ++ writeU32 hostTimeoutMs) :
    parseCapabilities packet = .ok
      { driver := driver.toNat, homing := homing != 0, encoder := encoder != 0
        persistence := persistence != 0, maxPayload := maxPayload.toNat
        maxTelemetryHz := maxTelemetryHz.toNat, features := features.toNat
        hostTimeoutMs := hostTimeoutMs.toNat } := by
  rw [← List.append_nil (writeU32 hostTimeoutMs)] at payload
  unfold parseCapabilities
  rw [requireLen_of "CAPABILITIES" (by rw [payload]; rfl), payload]
  simp only [List.append_assoc, List.cons_append, List.nil_append, List.drop_succ_cons,
    List.drop_zero, drop_writeU16, unpack_byte, unpack_writeU16, unpack_writeU32, truth_toNat]
  rfl

/-- A configuration value is named by its field, and signed. -/
theorem parseConfigValue_of {field : ConfigField} {name : String} {mutability : ConfigMutability}
    {staged : Bool} {value : Int32} (named : field.name = some name)
    (payload : packet.payload = writeU16 field.raw ++
      [mutability.byte, if staged then 1 else 0] ++ writeI32 value) :
    parseConfigValue packet = .ok
      { fieldId := field.raw.toNat, field := name, mutability := mutability.name
        configStaged := staged, value := value.toInt } := by
  rw [← List.append_nil (writeI32 value)] at payload
  unfold parseConfigValue
  rw [requireLen_of "CONFIG_VALUE" (by rw [payload]; rfl), payload]
  simp only [List.append_assoc, List.cons_append, List.nil_append, unpack_byte, unpack_writeU16,
    unpack_writeI32, truth_flag, memberName_mutability, memberName_field named]
  rfl

/-- The flags of a driver status are read as truth values. -/
theorem parseDriverStatus_of {status : Daft.DriverStatus} {reserved : UInt32}
    (payload : packet.payload = [status.configured, status.uartOk,
        status.overtemperaturePreWarning, status.overtemperature] ++
      writeU16 status.runCurrentMa ++ writeU16 status.microsteps ++ writeU32 status.rawStatus ++
      writeU32 reserved) :
    parseDriverStatus packet = .ok
      { configured := status.configured != 0, uartOk := status.uartOk != 0
        overtempWarning := status.overtemperaturePreWarning != 0
        overtemp := status.overtemperature != 0, runCurrentMa := status.runCurrentMa.toNat
        microsteps := status.microsteps.toNat, rawStatus := status.rawStatus.toNat } := by
  unfold parseDriverStatus
  rw [requireLen_of "DRIVER_STATUS" (by rw [payload]; rfl), payload]
  simp only [List.append_assoc, List.cons_append, List.nil_append, List.drop_succ_cons,
    List.drop_zero, drop_writeU16, unpack_byte, unpack_writeU16, unpack_writeU32, truth_toNat]
  rfl

theorem parseEvent_of {event : EventType} {severity : EventSeverity} {detail : UInt16}
    {value now : UInt32} (payload : packet.payload = [event.byte, severity.byte] ++
      writeU16 detail ++ writeU32 value ++ writeU32 now) :
    parseEvent packet = .ok
      { event := event.name, severity := severity.name, detail := detail.toNat
        value := value.toNat, uptimeMs := now.toNat } := by
  rw [← List.append_nil (writeU32 now)] at payload
  unfold parseEvent
  rw [requireLen_of "EVENT" (by rw [payload]; rfl), payload]
  simp only [List.append_assoc, List.cons_append, List.nil_append, unpack_byte, unpack_writeU16,
    unpack_writeU32, memberName_event, memberName_severity]
  rfl

/-- `major.minor.patch`. -/
def BuildInfo.version (build : BuildInfo) : String :=
  toString build.versionMajor.toNat ++ "." ++ toString build.versionMinor.toNat ++ "." ++
    toString build.versionPatch.toNat

/-- The two texts of an identity end at their first zero. -/
theorem parseIdentity_of {build : BuildInfo} {protocol board axes reserved : UInt8}
    {configVersion : UInt16} {magic generation : UInt32} {sha date : List UInt8}
    (shaFits : sha.length ≤ 20) (dateFits : date.length ≤ 24)
    (payload : packet.payload = [protocol, build.versionMajor, build.versionMinor,
        build.versionPatch, board, axes] ++ writeU16 configVersion ++ writeU32 magic ++
      writeU32 generation ++
      [if build.gitDirty then 1 else 0, sha.length.toUInt8, date.length.toUInt8, reserved] ++
      sha ++ List.replicate (20 - sha.length) 0 ++ date ++ List.replicate (24 - date.length) 0) :
    parseIdentity packet = .ok
      { protocolVersion := protocol.toNat, firmware := build.version, boardFamily := board.toNat
        axisCount := axes.toNat, configVersion := configVersion.toNat
        magic := "0x" ++ hexadecimal 8 magic.toNat, configGeneration := generation.toNat
        gitSha := decodeAscii sha, buildDate := decodeAscii date, dirty := build.gitDirty } := by
  have length : packet.payload.length = 64 := by
    rw [payload]
    simp [writeU16, writeU32]
    omega
  rw [← List.append_nil (List.replicate (24 - date.length) 0)] at payload
  simp only [List.append_assoc, List.cons_append, List.nil_append] at payload
  have shaSize : sha.length.toUInt8.toNat = sha.length :=
    Nat.mod_eq_of_lt (Nat.lt_of_le_of_lt shaFits (by decide))
  have dateSize : date.length.toUInt8.toNat = date.length :=
    Nat.mod_eq_of_lt (Nat.lt_of_le_of_lt dateFits (by decide))
  have texts : packet.payload.drop 20 = sha ++ (List.replicate (20 - sha.length) 0 ++
      (date ++ (List.replicate (24 - date.length) 0 ++ []))) := by
    rw [payload]
    simp only [List.drop_succ_cons, drop_writeU16, drop_writeU32, List.drop_zero]
  have dateText : packet.payload.drop 40 =
      date ++ (List.replicate (24 - date.length) 0 ++ []) := by
    have later : packet.payload.drop 40 = (packet.payload.drop 20).drop 20 := by
      rw [List.drop_drop]
    rw [later, texts, drop_padded shaFits]
  have shaRead : (packet.payload.drop 20).take (min (sha.length : Int) 20).toNat = sha := by
    rw [texts]
    exact take_padded shaFits _
  have dateRead : (packet.payload.drop 40).take (min (date.length : Int) 24).toNat = date := by
    rw [dateText]
    exact take_padded dateFits _
  have header : unpack [.B, .B, .B, .B, .B, .B, .H] packet.payload =
      ((protocol.toNat : Int), (build.versionMajor.toNat : Int), (build.versionMinor.toNat : Int),
        (build.versionPatch.toNat : Int), (board.toNat : Int), (axes.toNat : Int),
        (configVersion.toNat : Int), ()) := by
    rw [payload]
    simp only [unpack_byte, unpack_writeU16]
  have numbers : unpack [.I, .I] (packet.payload.drop 8) =
      ((magic.toNat : Int), (generation.toNat : Int), ()) := by
    rw [payload]
    simp only [List.drop_succ_cons, drop_writeU16, List.drop_zero, unpack_writeU32]
  have sizes : unpack [.B, .B, .B] (packet.payload.drop 16) =
      (((if build.gitDirty then 1 else 0 : UInt8).toNat : Int), (sha.length.toUInt8.toNat : Int),
        (date.length.toUInt8.toNat : Int), ()) := by
    rw [payload]
    simp only [List.drop_succ_cons, drop_writeU16, drop_writeU32, List.drop_zero, unpack_byte]
  unfold parseIdentity
  rw [if_neg (by omega)]
  simp only [length, header, numbers, sizes, shaSize, dateSize, shaRead, dateRead, truth_flag]
  rfl

end

end Daft
