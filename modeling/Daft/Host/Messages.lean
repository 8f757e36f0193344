import Daft.Host.Struct

/-!
# The payloads on the host

`messages.py`: the payload of each request with arguments, and the fields the host
takes from each response. Values stay Python's: unbounded integers, truth values,
and names where an enumeration has one. A parser raises `ProtocolError`, given by
its message, where the payload has another length.
-/

namespace Daft.Host.Messages

open Struct

/-! ## Names -/

/-- The members of an `IntEnum`, as `_value2member_map_` has them. -/
abbrev Members := List (Int × String)

/-- `MsgId`. -/
def msgIds : Members := [
  (0x01, "PING"), (0x02, "PONG"), (0x03, "GET_IDENTITY"), (0x04, "IDENTITY"),
  (0x05, "GET_CAPABILITIES"), (0x06, "CAPABILITIES"), (0x07, "GET_STATUS"), (0x08, "STATUS"),
  (0x09, "GET_FAULTS"), (0x0A, "FAULTS"), (0x0B, "GET_COUNTERS"), (0x0C, "COUNTERS"),
  (0x0D, "HEARTBEAT"), (0x10, "SET_CONTROL_MODE"), (0x11, "ESTOP"), (0x12, "RAMP_STOP"),
  (0x13, "CLEAR_FAULTS"), (0x20, "CONFIG_QUERY"), (0x21, "CONFIG_VALUE"),
  (0x22, "CONFIG_STAGE_FIELD"), (0x23, "CONFIG_APPLY"), (0x24, "CONFIG_SAVE"),
  (0x25, "CONFIG_RESET_DEFAULTS"), (0x26, "REBOOT"), (0x30, "GET_DRIVER_STATUS"),
  (0x31, "DRIVER_STATUS"), (0x40, "MOVE_ABS"), (0x41, "MOVE_REL"), (0x42, "RUN_VEL"),
  (0x50, "SET_TELEM_RATE"), (0x80, "ACK"), (0x81, "ERROR"), (0x82, "EVENT")]

/-- `ErrorCode`. -/
def errorCodes : Members := [
  (0, "OK"), (1, "ERR_BUSY"), (2, "ERR_INVALID_FIELD"), (3, "ERR_OUT_OF_RANGE"),
  (4, "ERR_REQUIRES_REBOOT"), (5, "ERR_UNSUPPORTED"), (6, "ERR_FAULTED"), (7, "ERR_BAD_STATE"),
  (8, "ERR_BAD_CRC"), (9, "ERR_BAD_PAYLOAD"), (10, "ERR_BAD_VERSION"),
  (11, "ERR_DUPLICATE_MISMATCH"), (12, "ERR_STORAGE")]

/-- `State`. -/
def states : Members := [
  (0, "BOOTING"), (1, "DISABLED"), (2, "IDLE"), (3, "MOVING_POSITION"), (4, "RUNNING_VELOCITY"),
  (5, "STOPPING"), (6, "FAULTED"), (7, "CONFIG_STAGED"), (8, "COMMISSIONING")]

/-- `ControlMode`. -/
def controlModes : Members := [
  (0, "DISABLED"), (1, "POSITION"), (2, "VELOCITY"), (3, "COMMISSIONING")]

/-- `EventType`. -/
def eventTypes : Members := [
  (1, "BOOT_REASON"), (2, "STATE_CHANGED"), (3, "FAULT_SET"), (4, "FAULT_CLEARED"),
  (5, "CONFIG_APPLIED"), (6, "CONFIG_SAVED"), (7, "DRIVER_UART_FAILURE"), (8, "HOST_TIMEOUT")]

/-- `EventSeverity`. -/
def eventSeverities : Members := [
  (0, "INFO"), (1, "WARNING"), (2, "ERROR")]

/-- `ConfigField`. -/
def configFields : Members := [
  (1, "TELEMETRY_INTERVAL_MS"), (2, "SOFT_LIMITS_ENABLED"), (3, "SOFT_LIMIT_MIN_STEPS"),
  (4, "SOFT_LIMIT_MAX_STEPS"), (5, "DEFAULT_MAX_VELOCITY_SPS"), (6, "DEFAULT_MAX_ACCEL_SPS2"),
  (7, "DEFAULT_STOP_DECEL_SPS2"), (8, "RUN_CURRENT_MA"), (9, "HOLD_CURRENT_MA"),
  (10, "MICROSTEPS"), (11, "DRIVER_MODE"), (12, "POSITION_OFFSET_STEPS"),
  (13, "HOME_POSITION_STEPS"), (14, "DIRECTION_INVERTED"), (15, "HOST_TIMEOUT_MS"),
  (16, "VELOCITY_TIMEOUT_ACTION"), (17, "ENABLE_TIMEOUT_MS"), (18, "MAX_ALLOWED_CURRENT_MA"),
  (19, "MAX_ALLOWED_VELOCITY_SPS"), (20, "MAX_ALLOWED_ACCEL_SPS2")]

/-- `Mutability`. -/
def mutabilities : Members := [
  (0, "RUNTIME_SAFE"), (1, "REQUIRES_IDLE"), (2, "REQUIRES_DRIVER_REINIT"),
  (3, "REQUIRES_REBOOT"), (4, "COMPILE_TIME_ONLY"), (5, "RESERVED")]

/-- `f"{value:0{width}X}"`. -/
def hexadecimal (width : Nat) (value : Int) : String :=
  String.ofList (((Nat.toDigits 16 value.toNat).map Char.toUpper).leftpad width '0')

/-- The name of a member, and `other` for a value that is none. -/
def memberName (members : Members) (value : Int) (other : String) : String :=
  (members.lookup value).getD other

/-- `_msg_name`. -/
def msgName (value : Int) : String := memberName msgIds value ("0x" ++ hexadecimal 2 value)

/-- `_error_name`. -/
def errorName (value : Int) : String := memberName errorCodes value s!"ERR_{value}"

/-! ## Requests -/

def buildSetControlMode (mode : Int) : Option (List UInt8) := pack [.B] (mode, ())

def buildRampStop (decelSps2 : Int) : Option (List UInt8) := pack [.I] (decelSps2, ())

def buildMove (targetOrDeltaSteps velocitySps accelSps2 : Int) : Option (List UInt8) :=
  pack [.i, .I, .I] (targetOrDeltaSteps, velocitySps, accelSps2, ())

def buildRunVelocity (velocitySps accelSps2 : Int) : Option (List UInt8) :=
  pack [.i, .I] (velocitySps, accelSps2, ())

def buildTelemRate (intervalMs : Int) : Option (List UInt8) := pack [.H] (intervalMs, ())

def buildConfigQuery (field : Int) : Option (List UInt8) := pack [.H] (field, ())

def buildConfigStageField (field value : Int) : Option (List UInt8) :=
  pack [.H, .i] (field, value, ())

/-! ## Responses -/

/-- `_require_len`. -/
def requireLen (packet : Codec.Packet) (length : Nat) (name : String) : Except String Unit :=
  if packet.payload.length ≠ length then .error s!"{name} payload must be {length} bytes" else .ok ()

/-- `bool(value)`. -/
def truth (value : Int) : Bool := value ≠ 0

/-- `data.decode("ascii", errors="replace")`. -/
def decodeAscii (data : List UInt8) : String :=
  String.ofList (data.map fun byte => if byte < 128 then Char.ofNat byte.toNat else Char.ofNat 0xFFFD)

structure Ack where
  ackedMsg : String
  code : String
  deriving DecidableEq

def parseAck (packet : Codec.Packet) : Except String Ack := do
  requireLen packet 2 "ACK"
  return { ackedMsg := msgName (packet.payload.getD 0 0).toNat
           code := errorName (packet.payload.getD 1 0).toNat }

structure DeviceError where
  rejectedMsg : String
  code : String
  deriving DecidableEq

/-- `parse_error`, the fields of a `DeviceError`. -/
def parseError (packet : Codec.Packet) : Except String DeviceError := do
  requireLen packet 2 "ERROR"
  let msgId := (packet.payload.getD 0 0).toNat
  let code := (packet.payload.getD 1 0).toNat
  return { rejectedMsg := msgName msgId, code := errorName code }

structure Identity where
  protocolVersion : Int
  firmware : String
  boardFamily : Int
  axisCount : Int
  configVersion : Int
  magic : String
  configGeneration : Int
  gitSha : String := "unknown"
  buildDate : String := "unknown"
  dirty : Bool := true
  deriving DecidableEq

def parseIdentity (packet : Codec.Packet) : Except String Identity := do
  if packet.payload.length ≠ 16 ∧ packet.payload.length ≠ 64 then
    throw "IDENTITY payload must be 16 or 64 bytes"
  let (proto, major, minor, patch, board, axes, configVersion, _) :=
    unpack [.B, .B, .B, .B, .B, .B, .H] packet.payload
  let (magic, generation, _) := unpack [.I, .I] (packet.payload.drop 8)
  let fields : Identity :=
    { protocolVersion := proto, firmware := s!"{major}.{minor}.{patch}", boardFamily := board,
      axisCount := axes, configVersion := configVersion, magic := "0x" ++ hexadecimal 8 magic,
      configGeneration := generation }
  if packet.payload.length ≥ 64 then
    let (dirty, gitLen, dateLen, _) := unpack [.B, .B, .B] (packet.payload.drop 16)
    let gitLen := min gitLen 20
    let dateLen := min dateLen 24
    return { fields with dirty := truth dirty
                         gitSha := decodeAscii ((packet.payload.drop 20).take gitLen.toNat)
                         buildDate := decodeAscii ((packet.payload.drop 40).take dateLen.toNat) }
  else return fields

structure Capabilities where
  driver : Int
  homing : Bool
  encoder : Bool
  persistence : Bool
  maxPayload : Int
  maxTelemetryHz : Int
  features : Int
  hostTimeoutMs : Int
  deriving DecidableEq

def parseCapabilities (packet : Codec.Packet) : Except String Capabilities := do
  requireLen packet 16 "CAPABILITIES"
  let (driver, homing, encoder, persistence, _) := unpack [.B, .B, .B, .B] packet.payload
  let (maxPayload, maxTelemHz, _) := unpack [.H, .H] (packet.payload.drop 4)
  let (features, hostTimeoutMs, _) := unpack [.I, .I] (packet.payload.drop 8)
  return { driver, homing := truth homing, encoder := truth encoder,
           persistence := truth persistence, maxPayload, maxTelemetryHz := maxTelemHz, features,
           hostTimeoutMs }

structure Status where
  state : String
  controlMode : String
  driverEnabled : Bool
  configStaged : Bool
  faults : Int
  positionSteps : Int
  targetSteps : Int
  speedSps : Int
  uptimeMs : Int
  configGeneration : Int
  commandCount : Int
  deriving DecidableEq

def parseStatus (packet : Codec.Packet) : Except String Status := do
  requireLen packet 32 "STATUS"
  let (state, mode, enabled, staged, _) := unpack [.B, .B, .B, .B] packet.payload
  let (faults, position, target, speed, uptimeMs, generation, commandCount, _) :=
    unpack [.I, .i, .i, .i, .I, .I, .I] (packet.payload.drop 4)
  return { state := memberName states state s!"STATE_{state}"
           controlMode := memberName controlModes mode s!"MODE_{mode}"
           driverEnabled := truth enabled, configStaged := truth staged, faults,
           positionSteps := position, targetSteps := target, speedSps := speed, uptimeMs,
           configGeneration := generation, commandCount }

structure Faults where
  faults : Int
  deriving DecidableEq

def parseFaults (packet : Codec.Packet) : Except String Faults := do
  requireLen packet 4 "FAULTS"
  let (faults, _) := unpack [.I] packet.payload
  return { faults }

structure Counters where
  crcErrors : Int
  decodeErrors : Int
  droppedPackets : Int
  duplicatePackets : Int
  commandCount : Int
  rejectedCommands : Int
  uptimeMs : Int
  deriving DecidableEq

def parseCounters (packet : Codec.Packet) : Except String Counters := do
  requireLen packet 28 "COUNTERS"
  let (crcErrors, decodeErrors, droppedPackets, duplicatePackets, commandCount, rejectedCommands,
    uptimeMs, _) := unpack [.I, .I, .I, .I, .I, .I, .I] packet.payload
  return { crcErrors, decodeErrors, droppedPackets, duplicatePackets, commandCount,
           rejectedCommands, uptimeMs }

structure ConfigValue where
  fieldId : Int
  field : String
  mutability : String
  configStaged : Bool
  value : Int
  deriving DecidableEq

def parseConfigValue (packet : Codec.Packet) : Except String ConfigValue := do
  requireLen packet 8 "CONFIG_VALUE"
  let (fieldId, mutability, staged, value, _) := unpack [.H, .B, .B, .i] packet.payload
  return { fieldId
           field := memberName configFields fieldId s!"FIELD_{fieldId}"
           mutability := memberName mutabilities mutability s!"MUT_{mutability}"
           configStaged := truth staged, value }

structure DriverStatus where
  configured : Bool
  uartOk : Bool
  overtempWarning : Bool
  overtemp : Bool
  runCurrentMa : Int
  microsteps : Int
  rawStatus : Int
  deriving DecidableEq

def parseDriverStatus (packet : Codec.Packet) : Except String DriverStatus := do
  requireLen packet 16 "DRIVER_STATUS"
  let (configured, uartOk, otpw, ot, current, microsteps, _) :=
    unpack [.B, .B, .B, .B, .H, .H] packet.payload
  let (rawStatus, _) := unpack [.I] (packet.payload.drop 8)
  return { configured := truth configured, uartOk := truth uartOk, overtempWarning := truth otpw,
           overtemp := truth ot, runCurrentMa := current, microsteps, rawStatus }

structure Event where
  event : String
  severity : String
  detail : Int
  value : Int
  uptimeMs : Int
  deriving DecidableEq

def parseEvent (packet : Codec.Packet) : Except String Event := do
  requireLen packet 12 "EVENT"
  let (event, severity, detail, value, uptimeMs, _) := unpack [.B, .B, .H, .I, .I] packet.payload
  return { event := memberName eventTypes event s!"EVENT_{event}"
           severity := memberName eventSeverities severity s!"SEV_{severity}", detail, value, uptimeMs }

end Daft.Host.Messages
