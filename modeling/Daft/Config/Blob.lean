import Daft.Config.Validation
import Daft.Protocol.Wire

/-!
# The configuration blob

`serialize_config` writes every stored member at a running offset, so the blob
is the concatenation of its fields; `deserialize_config` reads them back with
its own running offset. The reader is generic in the monad of a byte read: the
firmware reads plainly, and a read that reports an address out of bounds
instantiates the same code.
-/

namespace Daft

/-- `write_bool`. -/
def writeBool (value : Bool) : List UInt8 := [if value then 1 else 0]

/-- The fields `serialize_config` writes, in order. -/
def configFields (config : ActuatorConfig) : List UInt8 :=
  [writeU16 config.version,
   writeU16 config.pins.stepPin.toUInt16,
   writeU16 config.pins.dirPin.toUInt16,
   writeU16 config.pins.enablePin.toUInt16,
   writeBool config.pins.enableActiveLow,
   writeU16 config.pins.tmcUartRxPin.toUInt16,
   writeU16 config.pins.tmcUartTxPin.toUInt16,
   writeU32 config.pins.tmcUartBaud,
   [config.pins.tmcDriverAddress],
   writeU16 config.pins.senseResistorMilliohm,
   writeU16 config.motor.fullStepsPerRev,
   writeU16 config.motor.gearRatioNum,
   writeU16 config.motor.gearRatioDen,
   writeU32 config.motor.unitsPerRev,
   writeU16 config.motor.maxCurrentMa,
   writeU16 config.driver.runCurrentMa,
   writeU16 config.driver.holdCurrentMa,
   writeU16 config.driver.microsteps,
   [config.driver.mode.raw],
   [config.driver.blankTime],
   [config.driver.toff],
   writeBool config.driver.interpolation,
   writeU32 config.motion.maxVelocitySps,
   writeU32 config.motion.maxAccelSps2,
   writeI32 config.motion.maxTravelSteps,
   writeBool config.motion.softLimitsEnabled,
   writeI32 config.motion.softMinSteps,
   writeI32 config.motion.softMaxSteps,
   writeU32 config.motion.defaultStopDecelSps2,
   writeU16 config.telemetry.intervalMs,
   writeU16 config.telemetry.enabledFields,
   writeBool config.telemetry.binaryStreamEnabled,
   writeI32 config.calibration.positionOffsetSteps,
   writeI32 config.calibration.homePositionSteps,
   writeBool config.calibration.directionInverted,
   writeI32 config.calibration.softLimitOriginSteps,
   writeU32 config.safety.hostTimeoutMs,
   [config.safety.velocityTimeoutAction.raw],
   writeU32 config.safety.enableTimeoutMs,
   writeU16 config.safety.maxAllowedCurrentMa,
   writeU32 config.safety.maxAllowedVelocitySps,
   writeU32 config.safety.maxAllowedAccelSps2].flatten

/-- `serialize_config`: the `length` bytes it writes into an `out` of `capacity`
bytes (the rest of `out` is zero), or `none` where it returns false. -/
def serializeConfig (config : ActuatorConfig) (capacity : Nat) : Option (List UInt8) :=
  if capacity < configBlobMaxSize ∨ !(validateConfig config).ok then none
  else some (configFields config)

section Reader

variable {m : Type → Type} [Monad m] (byteAt : Nat → m UInt8)

/-- `data[offset++]`. -/
def getU8 : StateT Nat m UInt8 := fun offset => do
  let b ← byteAt offset
  return (b, offset + 1)

/-- `read_bool(data + offset++)`. -/
def getBool : StateT Nat m Bool := do
  return (← getU8 byteAt) ≠ 0

def getU16 : StateT Nat m UInt16 := fun offset => do
  let b0 ← byteAt offset
  let b1 ← byteAt (offset + 1)
  return (readU16 [b0, b1], offset + 2)

def getU32 : StateT Nat m UInt32 := fun offset => do
  let b0 ← byteAt offset
  let b1 ← byteAt (offset + 1)
  let b2 ← byteAt (offset + 2)
  let b3 ← byteAt (offset + 3)
  return (readU32 [b0, b1, b2, b3], offset + 4)

def getI32 : StateT Nat m Int32 := do
  return (← getU32 byteAt).toInt32

/-- The reads of `deserialize_config` in order, into a default configuration. -/
def readConfigFields : StateT Nat m ActuatorConfig := do
  let version ← getU16 byteAt
  let stepPin := (← getU16 byteAt).toInt16
  let dirPin := (← getU16 byteAt).toInt16
  let enablePin := (← getU16 byteAt).toInt16
  let enableActiveLow ← getBool byteAt
  let tmcUartRxPin := (← getU16 byteAt).toInt16
  let tmcUartTxPin := (← getU16 byteAt).toInt16
  let tmcUartBaud ← getU32 byteAt
  let tmcDriverAddress ← getU8 byteAt
  let senseResistorMilliohm ← getU16 byteAt
  let fullStepsPerRev ← getU16 byteAt
  let gearRatioNum ← getU16 byteAt
  let gearRatioDen ← getU16 byteAt
  let unitsPerRev ← getU32 byteAt
  let maxCurrentMa ← getU16 byteAt
  let runCurrentMa ← getU16 byteAt
  let holdCurrentMa ← getU16 byteAt
  let microsteps ← getU16 byteAt
  let mode ← getU8 byteAt
  let blankTime ← getU8 byteAt
  let toff ← getU8 byteAt
  let interpolation ← getBool byteAt
  let maxVelocitySps ← getU32 byteAt
  let maxAccelSps2 ← getU32 byteAt
  let maxTravelSteps ← getI32 byteAt
  let softLimitsEnabled ← getBool byteAt
  let softMinSteps ← getI32 byteAt
  let softMaxSteps ← getI32 byteAt
  let defaultStopDecelSps2 ← getU32 byteAt
  let intervalMs ← getU16 byteAt
  let enabledFields ← getU16 byteAt
  let binaryStreamEnabled ← getBool byteAt
  let positionOffsetSteps ← getI32 byteAt
  let homePositionSteps ← getI32 byteAt
  let directionInverted ← getBool byteAt
  let softLimitOriginSteps ← getI32 byteAt
  let hostTimeoutMs ← getU32 byteAt
  let velocityTimeoutAction ← getU8 byteAt
  let enableTimeoutMs ← getU32 byteAt
  let maxAllowedCurrentMa ← getU16 byteAt
  let maxAllowedVelocitySps ← getU32 byteAt
  let maxAllowedAccelSps2 ← getU32 byteAt
  return {
    version
    pins := { stepPin, dirPin, enablePin, enableActiveLow, tmcUartRxPin, tmcUartTxPin, tmcUartBaud,
              tmcDriverAddress, senseResistorMilliohm }
    motor := { fullStepsPerRev, gearRatioNum, gearRatioDen, unitsPerRev, maxCurrentMa }
    driver := { runCurrentMa, holdCurrentMa, microsteps, mode := ⟨mode⟩, blankTime, toff,
                interpolation }
    motion := { maxVelocitySps, maxAccelSps2, maxTravelSteps, softLimitsEnabled, softMinSteps,
                softMaxSteps, defaultStopDecelSps2 }
    telemetry := { intervalMs, enabledFields, binaryStreamEnabled }
    calibration := { positionOffsetSteps, homePositionSteps, directionInverted,
                     softLimitOriginSteps }
    safety := { hostTimeoutMs, velocityTimeoutAction := ⟨velocityTimeoutAction⟩, enableTimeoutMs,
                maxAllowedCurrentMa, maxAllowedVelocitySps, maxAllowedAccelSps2 } }

/-- `deserialize_config` over any byte reads. The offset is compared with
`length` only after all of them. -/
def deserializeConfigM (length : Nat) : m (Option ActuatorConfig) :=
  if length > configBlobMaxSize ∨ length < 96 then return none
  else do
    let (decoded, offset) ← (readConfigFields byteAt).run 0
    if offset > length ∨ !(validateConfig decoded).ok then return none
    else return some decoded

end Reader

/-- `deserialize_config` on the bytes at `data`. -/
def deserializeConfig (data : List UInt8) (length : Nat) : Option ActuatorConfig :=
  deserializeConfigM (m := Id) (fun i => data.getD i 0) length

/-- The reads of `deserialize_config` on the bytes at `data`. -/
def blobReads (data : List UInt8) : ActuatorConfig × Nat :=
  (readConfigFields (m := Id) fun i => data.getD i 0).run 0

theorem deserializeConfig_eq (data : List UInt8) (length : Nat) :
    deserializeConfig data length =
      if length > configBlobMaxSize ∨ length < 96 then none
      else if (blobReads data).2 > length ∨ !(validateConfig (blobReads data).1).ok then none
      else some (blobReads data).1 := rfl

/-- What is accepted is what was read, and it has passed `validate_config`. -/
theorem deserializeConfig_accepted {data : List UInt8} {length : Nat} {config : ActuatorConfig}
    (accepted : deserializeConfig data length = some config) :
    (blobReads data).1 = config ∧ Valid config := by
  rw [deserializeConfig_eq] at accepted
  split at accepted
  · cases accepted
  split at accepted
  · cases accepted
  case isFalse passed =>
    have read := Option.some.inj accepted
    rw [read] at passed
    exact ⟨read, validateConfig_ok_iff.mp (by simpa using (not_or.mp passed).2)⟩

/-- What is deserialized has passed `validate_config`. -/
theorem deserializeConfig_valid {data : List UInt8} {length : Nat} {config : ActuatorConfig}
    (read : deserializeConfig data length = some config) : Valid config :=
  (deserializeConfig_accepted read).2

/-- The number of bytes every blob takes. -/
abbrev configBlobSize : Nat := 104

@[simp] theorem configFields_length (config : ActuatorConfig) :
    (configFields config).length = configBlobSize := by
  rfl

theorem read_writeBool (value : Bool) : decide ((writeBool value).getD 0 0 ≠ 0) = value := by
  cases value <;> rfl

/-- Reading a blob gives back every stored member, whatever follows the blob;
`axis_name` is not stored and keeps its default. -/
theorem readConfigFields_configFields (config : ActuatorConfig) (rest : List UInt8) :
    blobReads (configFields config ++ rest) =
      ({ config with motor.axisName := defaultAxisName }, configBlobSize) := by
  have u16 (v : UInt16) : readU16 (writeU16 v) = v := readU16_writeU16 v []
  have u32 (v : UInt32) : readU32 (writeU32 v) = v := readU32_writeU32 v []
  obtain ⟨version, pins, motor, driver, motion, telemetry, calibration, safety⟩ := config
  refine Prod.ext ?_ rfl
  refine ActuatorConfig.mk.injEq .. |>.mpr ⟨u16 _, ?_, ?_, ?_, ?_, ?_, ?_, ?_⟩
  · exact BoardPins.mk.injEq .. |>.mpr ⟨congrArg _ (u16 _), congrArg _ (u16 _),
      congrArg _ (u16 _), read_writeBool _, congrArg _ (u16 _), congrArg _ (u16 _), u32 _, rfl,
      u16 _⟩
  · exact MotorSpec.mk.injEq .. |>.mpr ⟨u16 _, u16 _, u16 _, u32 _, u16 _, rfl⟩
  · exact Tmc2209Config.mk.injEq .. |>.mpr ⟨u16 _, u16 _, u16 _, rfl, rfl, rfl, read_writeBool _⟩
  · exact MotionLimits.mk.injEq .. |>.mpr ⟨u32 _, u32 _, congrArg _ (u32 _), read_writeBool _,
      congrArg _ (u32 _), congrArg _ (u32 _), u32 _⟩
  · exact TelemetryConfig.mk.injEq .. |>.mpr ⟨u16 _, u16 _, read_writeBool _⟩
  · exact CalibrationConfig.mk.injEq .. |>.mpr ⟨congrArg _ (u32 _), congrArg _ (u32 _),
      read_writeBool _, congrArg _ (u32 _)⟩
  · exact SafetyConfig.mk.injEq .. |>.mpr ⟨u32 _, rfl, u32 _, u16 _, u32 _, u32 _⟩

/-- The stored part of a configuration decides its validity. -/
theorem Valid.withAxisName {config : ActuatorConfig} (valid : Valid config)
    (name : Vector UInt8 16) : Valid { config with motor.axisName := name } :=
  { valid with }

/-- A valid configuration's blob deserializes to its stored members. -/
theorem deserializeConfig_configFields {config : ActuatorConfig} (valid : Valid config)
    (rest : List UInt8) :
    deserializeConfig (configFields config ++ rest) configBlobSize =
      some { config with motor.axisName := defaultAxisName } := by
  have accepted := validateConfig_ok_iff.mpr (valid.withAxisName defaultAxisName)
  rw [deserializeConfig_eq, if_neg (by decide), readConfigFields_configFields config rest]
  simp [accepted]

/-- Fewer bytes than a blob takes are refused, whatever they are. -/
theorem deserializeConfig_short (data : List UInt8) {length : Nat} (short : length < configBlobSize) :
    deserializeConfig data length = none := by
  have offset : (blobReads data).2 = configBlobSize := rfl
  have beyond : (blobReads data).2 > length ∨ !(validateConfig (blobReads data).1).ok := by
    rw [offset]
    exact .inl short
  rw [deserializeConfig_eq, if_pos beyond, ite_self]

/-! ## Main result -/

/-- A valid configuration is written to one number of bytes that fits every output
of `CONFIG_BLOB_MAX_SIZE` bytes; these bytes read back to its members but for
`axis_name`, whatever follows them, and no proper prefix of them is accepted. -/
theorem config_blob_round_trip (config : ActuatorConfig) (capacity : Nat)
    (accepted : (validateConfig config).ok = true) (room : configBlobMaxSize ≤ capacity) :
    ∃ blob, serializeConfig config capacity = some blob ∧ blob.length = configBlobSize ∧
      configBlobSize ≤ configBlobMaxSize ∧
      (∀ rest, deserializeConfig (blob ++ rest) blob.length =
        some { config with motor.axisName := defaultAxisName }) ∧
      ∀ start, start <+: blob → start ≠ blob → ∀ rest,
        deserializeConfig (start ++ rest) start.length = none := by
  refine ⟨configFields config, ?_, configFields_length config, by decide, ?_, ?_⟩
  · have serializes : ¬ (capacity < configBlobMaxSize ∨ !(validateConfig config).ok) := by
      simp [accepted, room]
    exact if_neg serializes
  · intro rest
    rw [configFields_length]
    exact deserializeConfig_configFields (validateConfig_ok_iff.mp accepted) rest
  · rintro start ⟨tail, whole⟩ proper rest
    have length := congrArg List.length whole
    rw [List.length_append, configFields_length] at length
    have cut : tail ≠ [] := by
      rintro rfl
      exact proper (by simpa using whole)
    have positive := List.length_pos_iff.mpr cut
    exact deserializeConfig_short (start ++ rest) (by omega)

/-- An enable pin that is not connected, a driver mode no firmware declares, limits below zero
and another axis name. -/
def unusualConfig : ActuatorConfig where
  pins.enablePin := -1
  motor.axisName := .replicate 16 0x58
  driver.mode := ⟨200⟩
  motion.softLimitsEnabled := true
  motion.softMinSteps := -2000000000
  motion.softMaxSteps := -5
  calibration.directionInverted := true

/-- All of it is read back but the name, and without the last byte nothing is. -/
theorem config_blob_round_trip_unusual :
    ∃ blob, serializeConfig unusualConfig configBlobMaxSize = some blob ∧
      deserializeConfig (blob ++ [0xFF]) blob.length =
        some { unusualConfig with motor.axisName := defaultAxisName } ∧
      deserializeConfig (blob.dropLast ++ [0xFF]) blob.dropLast.length = none := by
  obtain ⟨blob, written, length, -, reads, prefixes⟩ :=
    config_blob_round_trip unusualConfig configBlobMaxSize (by decide) (Nat.le_refl _)
  refine ⟨blob, written, reads [0xFF], prefixes _ (List.dropLast_prefix blob) ?_ [0xFF]⟩
  intro whole
  have shorter := congrArg List.length whole
  rw [List.length_dropLast, length] at shorter
  exact absurd shorter (by decide)

end Daft
