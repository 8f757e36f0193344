/-!
# The actuator configuration

The records of `config.hpp` with their defaults. An enum class that a raw byte
or word is cast into may hold undeclared values: `DriverMode` and
`TimeoutAction` are the byte itself, `ConfigField` lists the declared fields
and keeps any other 16-bit id as `undeclared`.
-/

namespace Daft

/-- `CONFIG_VERSION`. -/
abbrev configVersion : UInt16 := 1

/-- `CONFIG_BLOB_MAX_SIZE`. -/
abbrev configBlobMaxSize : Nat := 128

/-- `DriverMode`, a raw byte. -/
structure DriverMode where
  raw : UInt8
  deriving DecidableEq

abbrev DriverMode.STEALTHCHOP : DriverMode := ⟨0⟩
abbrev DriverMode.SPREADCYCLE : DriverMode := ⟨1⟩

/-- `TimeoutAction`, a raw byte. -/
structure TimeoutAction where
  raw : UInt8
  deriving DecidableEq

abbrev TimeoutAction.RAMP_STOP : TimeoutAction := ⟨0⟩
abbrev TimeoutAction.DISABLE : TimeoutAction := ⟨1⟩

inductive ConfigField where
  | TELEMETRY_INTERVAL_MS | SOFT_LIMITS_ENABLED | SOFT_LIMIT_MIN_STEPS | SOFT_LIMIT_MAX_STEPS
  | DEFAULT_MAX_VELOCITY_SPS | DEFAULT_MAX_ACCEL_SPS2 | DEFAULT_STOP_DECEL_SPS2 | RUN_CURRENT_MA
  | HOLD_CURRENT_MA | MICROSTEPS | DRIVER_MODE | POSITION_OFFSET_STEPS | HOME_POSITION_STEPS
  | DIRECTION_INVERTED | HOST_TIMEOUT_MS | VELOCITY_TIMEOUT_ACTION | ENABLE_TIMEOUT_MS
  | MAX_ALLOWED_CURRENT_MA | MAX_ALLOWED_VELOCITY_SPS | MAX_ALLOWED_ACCEL_SPS2
  | undeclared (raw : UInt16)
  deriving DecidableEq

/-- `static_cast<ConfigField>(raw)`. -/
def ConfigField.ofRaw : UInt16 → ConfigField
  | 1 => .TELEMETRY_INTERVAL_MS | 2 => .SOFT_LIMITS_ENABLED | 3 => .SOFT_LIMIT_MIN_STEPS
  | 4 => .SOFT_LIMIT_MAX_STEPS | 5 => .DEFAULT_MAX_VELOCITY_SPS | 6 => .DEFAULT_MAX_ACCEL_SPS2
  | 7 => .DEFAULT_STOP_DECEL_SPS2 | 8 => .RUN_CURRENT_MA | 9 => .HOLD_CURRENT_MA
  | 10 => .MICROSTEPS | 11 => .DRIVER_MODE | 12 => .POSITION_OFFSET_STEPS
  | 13 => .HOME_POSITION_STEPS | 14 => .DIRECTION_INVERTED | 15 => .HOST_TIMEOUT_MS
  | 16 => .VELOCITY_TIMEOUT_ACTION | 17 => .ENABLE_TIMEOUT_MS | 18 => .MAX_ALLOWED_CURRENT_MA
  | 19 => .MAX_ALLOWED_VELOCITY_SPS | 20 => .MAX_ALLOWED_ACCEL_SPS2
  | raw => .undeclared raw

/-- `static_cast<uint16_t>(field)`. -/
def ConfigField.raw : ConfigField → UInt16
  | .TELEMETRY_INTERVAL_MS => 1 | .SOFT_LIMITS_ENABLED => 2 | .SOFT_LIMIT_MIN_STEPS => 3
  | .SOFT_LIMIT_MAX_STEPS => 4 | .DEFAULT_MAX_VELOCITY_SPS => 5 | .DEFAULT_MAX_ACCEL_SPS2 => 6
  | .DEFAULT_STOP_DECEL_SPS2 => 7 | .RUN_CURRENT_MA => 8 | .HOLD_CURRENT_MA => 9
  | .MICROSTEPS => 10 | .DRIVER_MODE => 11 | .POSITION_OFFSET_STEPS => 12
  | .HOME_POSITION_STEPS => 13 | .DIRECTION_INVERTED => 14 | .HOST_TIMEOUT_MS => 15
  | .VELOCITY_TIMEOUT_ACTION => 16 | .ENABLE_TIMEOUT_MS => 17 | .MAX_ALLOWED_CURRENT_MA => 18
  | .MAX_ALLOWED_VELOCITY_SPS => 19 | .MAX_ALLOWED_ACCEL_SPS2 => 20
  | .undeclared raw => raw

inductive ConfigMutability where
  | RUNTIME_SAFE | REQUIRES_IDLE | REQUIRES_DRIVER_REINIT | REQUIRES_REBOOT | COMPILE_TIME_ONLY
  | RESERVED
  deriving DecidableEq

def ConfigMutability.byte : ConfigMutability → UInt8
  | .RUNTIME_SAFE => 0 | .REQUIRES_IDLE => 1 | .REQUIRES_DRIVER_REINIT => 2
  | .REQUIRES_REBOOT => 3 | .COMPILE_TIME_ONLY => 4 | .RESERVED => 5

structure BoardPins where
  stepPin : Int16 := 20
  dirPin : Int16 := 19
  enablePin : Int16 := 18
  enableActiveLow : Bool := true
  tmcUartRxPin : Int16 := 17
  tmcUartTxPin : Int16 := 16
  tmcUartBaud : UInt32 := 115200
  tmcDriverAddress : UInt8 := 0
  senseResistorMilliohm : UInt16 := 110
  deriving DecidableEq

/-- `char axis_name[16] = {'a', 'x', 'i', 's', '0', 0}`. -/
def defaultAxisName : Vector UInt8 16 :=
  #v[0x61, 0x78, 0x69, 0x73, 0x30, 0, 0, 0, 0, 0, 0, 0, 0, 0, 0, 0]

structure MotorSpec where
  fullStepsPerRev : UInt16 := 200
  gearRatioNum : UInt16 := 1
  gearRatioDen : UInt16 := 1
  unitsPerRev : UInt32 := 3200
  maxCurrentMa : UInt16 := 1400
  axisName : Vector UInt8 16 := defaultAxisName
  deriving DecidableEq

structure Tmc2209Config where
  runCurrentMa : UInt16 := 800
  holdCurrentMa : UInt16 := 0
  microsteps : UInt16 := 16
  mode : DriverMode := .STEALTHCHOP
  blankTime : UInt8 := 24
  toff : UInt8 := 5
  interpolation : Bool := true
  deriving DecidableEq

structure MotionLimits where
  maxVelocitySps : UInt32 := 2000
  maxAccelSps2 : UInt32 := 2000
  maxTravelSteps : Int32 := 100000
  softLimitsEnabled : Bool := false
  softMinSteps : Int32 := -100000
  softMaxSteps : Int32 := 100000
  defaultStopDecelSps2 : UInt32 := 1500
  deriving DecidableEq

structure TelemetryConfig where
  intervalMs : UInt16 := 0
  enabledFields : UInt16 := 0xFFFF
  binaryStreamEnabled : Bool := true
  deriving DecidableEq

structure CalibrationConfig where
  positionOffsetSteps : Int32 := 0
  homePositionSteps : Int32 := 0
  directionInverted : Bool := false
  softLimitOriginSteps : Int32 := 0
  deriving DecidableEq

structure SafetyConfig where
  hostTimeoutMs : UInt32 := 1000
  velocityTimeoutAction : TimeoutAction := .RAMP_STOP
  enableTimeoutMs : UInt32 := 0
  maxAllowedCurrentMa : UInt16 := 1400
  maxAllowedVelocitySps : UInt32 := 50000
  maxAllowedAccelSps2 : UInt32 := 100000
  deriving DecidableEq

structure ActuatorConfig where
  version : UInt16 := configVersion
  pins : BoardPins := {}
  motor : MotorSpec := {}
  driver : Tmc2209Config := {}
  motion : MotionLimits := {}
  telemetry : TelemetryConfig := {}
  calibration : CalibrationConfig := {}
  safety : SafetyConfig := {}
  deriving DecidableEq

structure ConfigValidationResult where
  ok : Bool := true
  field : ConfigField := .TELEMETRY_INTERVAL_MS
  message : String := "ok"
  deriving DecidableEq

/-- `default_config`. -/
def defaultConfig : ActuatorConfig := {}

end Daft
