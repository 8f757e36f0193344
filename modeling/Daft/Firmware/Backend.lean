import Daft.Config.Validation
import Daft.Protocol.Wire

/-!
# The motion backend and the writers

The firmware core sees its hardware through a table of callbacks, any of which
may be null. A callback is a function of the history of calls made before it,
so one table is one arbitrary behaviour of the hardware: it may answer the same
call differently each time, and every sequence of answers is given by some
table. Every call is recorded, with its arguments and its answer.
-/

namespace Daft

inductive FaultFlag where
  | NONE | RX_FRAME | BAD_CRC | BAD_PAYLOAD | UNSUPPORTED_COMMAND | INVALID_CONFIG | CONFIG_STORAGE
  | SOFT_LIMIT | DRIVER | DRIVER_UART | HOST_TIMEOUT | COMMAND_REJECTED
  deriving DecidableEq

/-- `fault_value`. -/
def FaultFlag.value : FaultFlag → UInt32
  | .NONE => 0 | .RX_FRAME => 0x001 | .BAD_CRC => 0x002 | .BAD_PAYLOAD => 0x004
  | .UNSUPPORTED_COMMAND => 0x008 | .INVALID_CONFIG => 0x010 | .CONFIG_STORAGE => 0x020
  | .SOFT_LIMIT => 0x040 | .DRIVER => 0x080 | .DRIVER_UART => 0x100
  | .HOST_TIMEOUT => 0x200 | .COMMAND_REJECTED => 0x400

/-- The flags `set_fault` raises without going to `FAULTED`. -/
def FaultFlag.keepsState (flag : FaultFlag) : Bool := flag = .HOST_TIMEOUT ∨ flag = .SOFT_LIMIT

/-- The loop of `fault_bit`; 32 rounds empty any 32-bit value. -/
def faultBitLoop : Nat → UInt32 → UInt16 → UInt16
  | 0, _, bit => bit
  | rounds + 1, value, bit =>
    if value > 1 then faultBitLoop rounds (value >>> 1) (bit + 1) else bit

def faultBit (flag : FaultFlag) : UInt16 := faultBitLoop 32 flag.value 0

/-- `DriverStatus`. -/
structure DriverStatus where
  configured : UInt8 := 0
  uartOk : UInt8 := 0
  overtemperaturePreWarning : UInt8 := 0
  overtemperature : UInt8 := 0
  runCurrentMa : UInt16 := 0
  microsteps : UInt16 := 0
  rawStatus : UInt32 := 0
  deriving DecidableEq

/-- The condition under which a driver status query raises `DRIVER_UART`. -/
def DriverStatus.uartFailing (status : DriverStatus) : Bool :=
  status.configured ≠ 0 ∧ status.uartOk = 0

/-- One backend call with its arguments and, last, its answer. -/
inductive Call where
  | millis (now : UInt32)
  | enableDriver (enabled : Bool) (ok : Bool)
  | configureDriver (config : Tmc2209Config) (ok : Bool)
  | moveAbsolute (target : Int32) (velocity accel : UInt32) (ok : Bool)
  | moveRelative (delta : Int32) (velocity accel : UInt32) (ok : Bool)
  | runVelocity (velocity : Int32) (accel : UInt32) (ok : Bool)
  | rampStop (decel : UInt32) (ok : Bool)
  | emergencyStop
  | currentPosition (steps : Int32)
  | targetPosition (steps : Int32)
  | currentSpeed (sps : Int32)
  | motionActive (active : Bool)
  | driverStatus (status : DriverStatus)
  | saveConfig (config : ActuatorConfig) (ok : Bool)
  | loadConfig (loaded : Option (ActuatorConfig × UInt32))
  | resetConfigStorage (ok : Bool)
  | reboot
  | bootReason (reason : UInt32)
  deriving DecidableEq

/-- The calls made so far, newest first. -/
abbrev History := List Call

/-- `MotionBackend`, `none` for a null callback. A `load_config` that returns
false answers `none`: what it wrote to its out-parameters is not used. -/
structure MotionBackend where
  millis : Option (History → UInt32) := none
  enableDriver : Option (History → Bool → Bool) := none
  configureDriver : Option (History → Tmc2209Config → Bool) := none
  moveAbsolute : Option (History → Int32 → UInt32 → UInt32 → Bool) := none
  moveRelative : Option (History → Int32 → UInt32 → UInt32 → Bool) := none
  runVelocity : Option (History → Int32 → UInt32 → Bool) := none
  rampStop : Option (History → UInt32 → Bool) := none
  emergencyStop : Option Unit := none
  currentPosition : Option (History → Int32) := none
  targetPosition : Option (History → Int32) := none
  currentSpeed : Option (History → Int32) := none
  motionActive : Option (History → Bool) := none
  driverStatus : Option (History → DriverStatus) := none
  saveConfig : Option (History → ActuatorConfig → Bool) := none
  loadConfig : Option (History → Option (ActuatorConfig × UInt32)) := none
  resetConfigStorage : Option (History → Bool) := none
  reboot : Option Unit := none
  bootReason : Option (History → UInt32) := none

/-- A packet handed to a writer: through the caching writer of `handle_packet`
or directly, and whether the port took it. -/
structure Transmission where
  packet : Packet
  cached : Bool
  taken : Bool
  deriving DecidableEq

/-- A port's `send`, `none` for a null pointer; like a callback it depends on
what was handed over before, newest first. -/
abbrev Port := Option (List Transmission → Packet → Bool)

/-- `ResponseWriter`: a port itself, or `cached_send` in front of it. -/
inductive ResponseWriter where
  | port (send : Port)
  | cached (downstream : Port)

def ResponseWriter.downstream : ResponseWriter → Port
  | .port send => send
  | .cached send => send

def ResponseWriter.caches : ResponseWriter → Bool
  | .port _ => false
  | .cached _ => true

/-- The responses a `CachedWriterContext` holds, oldest first. -/
abbrev CachedResponses := List Packet

/-- `sizeof(cached_responses) / sizeof(cached_responses[0])`. -/
abbrev cacheCapacity : Nat := 4

/-- The cache part of `cached_send`: packets past the capacity are not kept. -/
def CachedResponses.push (responses : CachedResponses) (packet : Packet) : CachedResponses :=
  if responses.length < cacheCapacity then responses ++ [packet] else responses

end Daft
