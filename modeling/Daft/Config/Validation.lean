import Daft.Config.Types

/-!
# Validating and staging configuration fields

`config_validation.cpp` up to the blob: which microsteps are supported, the
mutability of each field, `validate_config`, and the two switches over the
field ids that write (`stage_config_field`) and read (`config_field_value`).
-/

namespace Daft

def supportedMicrosteps (microsteps : UInt16) : Bool :=
  microsteps ∈ [1, 2, 4, 8, 16, 32, 64, 128, 256]

/-- `fail(field, message)`. -/
def ConfigValidationResult.fail (field : ConfigField) (message : String) : ConfigValidationResult :=
  { ok := false, field := field, message := message }

def configFieldKnown : ConfigField → Bool
  | .undeclared _ => false
  | _ => true

def configFieldMutability : ConfigField → ConfigMutability
  | .TELEMETRY_INTERVAL_MS | .SOFT_LIMITS_ENABLED | .SOFT_LIMIT_MIN_STEPS | .SOFT_LIMIT_MAX_STEPS
  | .DEFAULT_MAX_VELOCITY_SPS | .DEFAULT_MAX_ACCEL_SPS2 | .DEFAULT_STOP_DECEL_SPS2
  | .DIRECTION_INVERTED | .HOST_TIMEOUT_MS | .VELOCITY_TIMEOUT_ACTION | .MAX_ALLOWED_CURRENT_MA
  | .MAX_ALLOWED_VELOCITY_SPS | .MAX_ALLOWED_ACCEL_SPS2 => .RUNTIME_SAFE
  | .POSITION_OFFSET_STEPS | .HOME_POSITION_STEPS | .ENABLE_TIMEOUT_MS => .RESERVED
  | .RUN_CURRENT_MA | .HOLD_CURRENT_MA | .MICROSTEPS | .DRIVER_MODE => .REQUIRES_IDLE
  | .undeclared _ => .COMPILE_TIME_ONLY

/-- `validate_config`: the first rule that fails decides field and message. -/
def validateConfig (config : ActuatorConfig) : ConfigValidationResult :=
  if config.version ≠ configVersion then
    .fail .TELEMETRY_INTERVAL_MS "unsupported config version"
  else if config.motor.fullStepsPerRev = 0 ∨ config.motor.gearRatioDen = 0 ∨
      config.motor.unitsPerRev = 0 then
    .fail .DEFAULT_MAX_VELOCITY_SPS "invalid motor spec"
  else if config.driver.runCurrentMa = 0 ∨
      config.driver.runCurrentMa > config.safety.maxAllowedCurrentMa ∨
      config.driver.runCurrentMa > config.motor.maxCurrentMa then
    .fail .RUN_CURRENT_MA "run current out of range"
  else if config.driver.holdCurrentMa > config.driver.runCurrentMa then
    .fail .HOLD_CURRENT_MA "hold current exceeds run current"
  else if !supportedMicrosteps config.driver.microsteps then
    .fail .MICROSTEPS "unsupported microsteps"
  else if config.motion.maxVelocitySps = 0 ∨
      config.motion.maxVelocitySps > config.safety.maxAllowedVelocitySps then
    .fail .DEFAULT_MAX_VELOCITY_SPS "velocity out of range"
  else if config.motion.maxAccelSps2 = 0 ∨
      config.motion.maxAccelSps2 > config.safety.maxAllowedAccelSps2 then
    .fail .DEFAULT_MAX_ACCEL_SPS2 "acceleration out of range"
  else if config.motion.defaultStopDecelSps2 = 0 ∨
      config.motion.defaultStopDecelSps2 > config.safety.maxAllowedAccelSps2 then
    .fail .DEFAULT_STOP_DECEL_SPS2 "stop decel out of range"
  else if config.motion.softLimitsEnabled ∧
      config.motion.softMinSteps > config.motion.softMaxSteps then
    .fail .SOFT_LIMIT_MIN_STEPS "soft min exceeds soft max"
  else if config.safety.hostTimeoutMs < 100 ∨ config.safety.hostTimeoutMs > 60000 then
    .fail .HOST_TIMEOUT_MS "host timeout out of range"
  else {}

/-- `static_cast<uint16_t>(value)`. -/
def toU16 (value : Int32) : UInt16 := value.toUInt32.toUInt16

/-- `static_cast<uint8_t>(value)`. -/
def toU8 (value : Int32) : UInt8 := value.toUInt32.toUInt8

/-- `stage_config_field` with the configuration it leaves behind its reference
argument; a field that passes its own range check is written before the whole
configuration is validated. -/
def stageConfigField (staged : ActuatorConfig) (field : ConfigField) (value : Int32) :
    ConfigValidationResult × ActuatorConfig :=
  let reject (message : String) := (ConfigValidationResult.fail field message, staged)
  let accept (written : ActuatorConfig) := (validateConfig written, written)
  if !configFieldKnown field then reject "unknown config field" else
  match field with
  | .TELEMETRY_INTERVAL_MS =>
    if value < 0 ∨ value > 65535 then reject "telemetry interval out of range"
    else accept { staged with telemetry.intervalMs := toU16 value }
  | .SOFT_LIMITS_ENABLED => accept { staged with motion.softLimitsEnabled := value ≠ 0 }
  | .SOFT_LIMIT_MIN_STEPS => accept { staged with motion.softMinSteps := value }
  | .SOFT_LIMIT_MAX_STEPS => accept { staged with motion.softMaxSteps := value }
  | .DEFAULT_MAX_VELOCITY_SPS =>
    if value ≤ 0 then reject "velocity must be positive"
    else accept { staged with motion.maxVelocitySps := value.toUInt32 }
  | .DEFAULT_MAX_ACCEL_SPS2 =>
    if value ≤ 0 then reject "acceleration must be positive"
    else accept { staged with motion.maxAccelSps2 := value.toUInt32 }
  | .DEFAULT_STOP_DECEL_SPS2 =>
    if value ≤ 0 then reject "stop decel must be positive"
    else accept { staged with motion.defaultStopDecelSps2 := value.toUInt32 }
  | .RUN_CURRENT_MA =>
    if value ≤ 0 ∨ value > 65535 then reject "run current out of range"
    else accept { staged with driver.runCurrentMa := toU16 value }
  | .HOLD_CURRENT_MA =>
    if value < 0 ∨ value > 65535 then reject "hold current out of range"
    else accept { staged with driver.holdCurrentMa := toU16 value }
  | .MICROSTEPS =>
    if value ≤ 0 ∨ value > 256 then reject "microsteps out of range"
    else accept { staged with driver.microsteps := toU16 value }
  | .DRIVER_MODE =>
    if value < 0 ∨ value > 1 then reject "driver mode out of range"
    else accept { staged with driver.mode := ⟨toU8 value⟩ }
  | .POSITION_OFFSET_STEPS | .HOME_POSITION_STEPS | .ENABLE_TIMEOUT_MS => reject "reserved in V1"
  | .DIRECTION_INVERTED => accept { staged with calibration.directionInverted := value ≠ 0 }
  | .HOST_TIMEOUT_MS =>
    if value ≤ 0 then reject "host timeout must be positive"
    else accept { staged with safety.hostTimeoutMs := value.toUInt32 }
  | .VELOCITY_TIMEOUT_ACTION =>
    if value < 0 ∨ value > 1 then reject "timeout action out of range"
    else accept { staged with safety.velocityTimeoutAction := ⟨toU8 value⟩ }
  | .MAX_ALLOWED_CURRENT_MA =>
    if value ≤ 0 ∨ value > 65535 then reject "max current out of range"
    else accept { staged with safety.maxAllowedCurrentMa := toU16 value }
  | .MAX_ALLOWED_VELOCITY_SPS =>
    if value ≤ 0 then reject "max velocity must be positive"
    else accept { staged with safety.maxAllowedVelocitySps := value.toUInt32 }
  | .MAX_ALLOWED_ACCEL_SPS2 =>
    if value ≤ 0 then reject "max accel must be positive"
    else accept { staged with safety.maxAllowedAccelSps2 := value.toUInt32 }
  | .undeclared _ => reject "field cannot be staged"

/-- `value ? 1 : 0`. -/
def boolValue (value : Bool) : Int32 := if value then 1 else 0

/-- `config_field_value`, `none` where it returns false. -/
def configFieldValue (config : ActuatorConfig) : ConfigField → Option Int32
  | .TELEMETRY_INTERVAL_MS => some config.telemetry.intervalMs.toUInt32.toInt32
  | .SOFT_LIMITS_ENABLED => some (boolValue config.motion.softLimitsEnabled)
  | .SOFT_LIMIT_MIN_STEPS => some config.motion.softMinSteps
  | .SOFT_LIMIT_MAX_STEPS => some config.motion.softMaxSteps
  | .DEFAULT_MAX_VELOCITY_SPS => some config.motion.maxVelocitySps.toInt32
  | .DEFAULT_MAX_ACCEL_SPS2 => some config.motion.maxAccelSps2.toInt32
  | .DEFAULT_STOP_DECEL_SPS2 => some config.motion.defaultStopDecelSps2.toInt32
  | .RUN_CURRENT_MA => some config.driver.runCurrentMa.toUInt32.toInt32
  | .HOLD_CURRENT_MA => some config.driver.holdCurrentMa.toUInt32.toInt32
  | .MICROSTEPS => some config.driver.microsteps.toUInt32.toInt32
  | .DRIVER_MODE => some config.driver.mode.raw.toUInt32.toInt32
  | .POSITION_OFFSET_STEPS => some config.calibration.positionOffsetSteps
  | .HOME_POSITION_STEPS => some config.calibration.homePositionSteps
  | .DIRECTION_INVERTED => some (boolValue config.calibration.directionInverted)
  | .HOST_TIMEOUT_MS => some config.safety.hostTimeoutMs.toInt32
  | .VELOCITY_TIMEOUT_ACTION => some config.safety.velocityTimeoutAction.raw.toUInt32.toInt32
  | .ENABLE_TIMEOUT_MS => some config.safety.enableTimeoutMs.toInt32
  | .MAX_ALLOWED_CURRENT_MA => some config.safety.maxAllowedCurrentMa.toUInt32.toInt32
  | .MAX_ALLOWED_VELOCITY_SPS => some config.safety.maxAllowedVelocitySps.toInt32
  | .MAX_ALLOWED_ACCEL_SPS2 => some config.safety.maxAllowedAccelSps2.toInt32
  | .undeclared _ => none

/-- What `validate_config` accepts, rule by rule. -/
structure Valid (config : ActuatorConfig) : Prop where
  version : config.version = configVersion
  fullSteps : config.motor.fullStepsPerRev ≠ 0
  gearDen : config.motor.gearRatioDen ≠ 0
  units : config.motor.unitsPerRev ≠ 0
  runPositive : config.driver.runCurrentMa ≠ 0
  runAllowed : config.driver.runCurrentMa ≤ config.safety.maxAllowedCurrentMa
  runMotor : config.driver.runCurrentMa ≤ config.motor.maxCurrentMa
  hold : config.driver.holdCurrentMa ≤ config.driver.runCurrentMa
  microsteps : supportedMicrosteps config.driver.microsteps = true
  velocityPositive : config.motion.maxVelocitySps ≠ 0
  velocityAllowed : config.motion.maxVelocitySps ≤ config.safety.maxAllowedVelocitySps
  accelPositive : config.motion.maxAccelSps2 ≠ 0
  accelAllowed : config.motion.maxAccelSps2 ≤ config.safety.maxAllowedAccelSps2
  decelPositive : config.motion.defaultStopDecelSps2 ≠ 0
  decelAllowed : config.motion.defaultStopDecelSps2 ≤ config.safety.maxAllowedAccelSps2
  softLimits : config.motion.softLimitsEnabled = true →
    config.motion.softMinSteps ≤ config.motion.softMaxSteps
  timeoutLow : 100 ≤ config.safety.hostTimeoutMs
  timeoutHigh : config.safety.hostTimeoutMs ≤ 60000

/-- A rule that is broken decides; one that is kept leaves the rest. -/
theorem ConfigValidationResult.ok_guard {broken : Prop} [Decidable broken] {field : ConfigField}
    {message : String} {rest : ConfigValidationResult} :
    (if broken then .fail field message else rest).ok = true ↔ ¬ broken ∧ rest.ok = true := by
  by_cases broken <;> simp [ConfigValidationResult.fail, *]

/-- `validate_config` accepts exactly the configurations that satisfy every rule. -/
theorem validateConfig_ok_iff {config : ActuatorConfig} :
    (validateConfig config).ok = true ↔ Valid config := by
  simp only [validateConfig, ConfigValidationResult.ok_guard, not_or, not_and, gt_iff_lt,
    UInt16.not_lt, UInt32.not_lt, Int32.not_lt, Decidable.not_not]
  constructor
  · rintro ⟨version, ⟨fullSteps, gearDen, units⟩, ⟨runPositive, runAllowed, runMotor⟩, hold,
      microsteps, ⟨velocityPositive, velocityAllowed⟩, ⟨accelPositive, accelAllowed⟩,
      ⟨decelPositive, decelAllowed⟩, softLimits, ⟨timeoutLow, timeoutHigh⟩, -⟩
    have microsteps : supportedMicrosteps config.driver.microsteps = true := by
      simpa using microsteps
    constructor <;> assumption
  · intro valid
    refine ⟨valid.version, ⟨valid.fullSteps, valid.gearDen, valid.units⟩,
      ⟨valid.runPositive, valid.runAllowed, valid.runMotor⟩, valid.hold, ?_,
      ⟨valid.velocityPositive, valid.velocityAllowed⟩, ⟨valid.accelPositive, valid.accelAllowed⟩,
      ⟨valid.decelPositive, valid.decelAllowed⟩, valid.softLimits,
      ⟨valid.timeoutLow, valid.timeoutHigh⟩, trivial⟩
    simp [valid.microsteps]

/-- `default_config` passes its own check. -/
theorem defaultConfig_valid : Valid defaultConfig := validateConfig_ok_iff.mp (by decide)

end Daft
