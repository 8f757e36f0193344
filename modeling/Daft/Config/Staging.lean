import Daft.Config.Validation

/-!
# Staging a field

What `stage_config_field` writes is what `config_field_value` reads, and nothing
else moves. A value read from one configuration can be staged into another when
it passes the field's own range check and the result is valid as a whole.
-/

namespace Daft

/-- The fields `stage_field` does not turn away by their mutability. -/
def ConfigField.Stageable (field : ConfigField) : Prop :=
  configFieldMutability field = .RUNTIME_SAFE ∨ configFieldMutability field = .REQUIRES_IDLE

instance (field : ConfigField) : Decidable field.Stageable :=
  inferInstanceAs (Decidable (_ ∨ _))

/-- What a field reads as after `value` was written to it. -/
def storedValue (field : ConfigField) (value : Int32) : Int32 :=
  if field = .SOFT_LIMITS_ENABLED ∨ field = .DIRECTION_INVERTED then boolValue (value ≠ 0) else value

/-! ## One field written -/

section

variable {config : ActuatorConfig} {field other : ConfigField} {value : Int32}

/-- A value within a bound that is not negative is its own unsigned reading. -/
theorem toUInt32_le {bound : Int32} (low : 0 ≤ value) (high : value ≤ bound) :
    value.toUInt32.toNat ≤ bound.toInt.toNat := by
  rw [Int32.toNat_toUInt32_of_le low]
  exact Int.toNat_le_toNat (Int32.le_iff_toInt_le.mp high)

/-- A value in the range of 16 bits is stored as it is. -/
theorem toU16_value (low : 0 ≤ value) (high : value ≤ 65535) :
    (toU16 value).toUInt32.toInt32 = value := by
  have small : value.toUInt32.toNat ≤ 65535 := toUInt32_le low high
  have same : (toU16 value).toUInt32 = value.toUInt32 := by
    rw [← UInt32.toNat_inj, UInt16.toNat_toUInt32, toU16, UInt32.toNat_toUInt16]
    omega
  rw [same, Int32.toInt32_toUInt32]

/-- A value in the range of a byte is stored as it is. -/
theorem toU8_value (low : 0 ≤ value) (high : value ≤ 255) :
    (toU8 value).toUInt32.toInt32 = value := by
  have small : value.toUInt32.toNat ≤ 255 := toUInt32_le low high
  have same : (toU8 value).toUInt32 = value.toUInt32 := by
    rw [← UInt32.toNat_inj, UInt8.toNat_toUInt32, toU8, UInt32.toNat_toUInt8]
    omega
  rw [same, Int32.toInt32_toUInt32]

/-- What passes a range check lies in the range. -/
theorem of_ranged {out : Prop} [Decidable out] {refused written : ConfigValidationResult × ActuatorConfig}
    (rejects : refused.1.ok = false)
    (accepted : (if out then refused else written).1.ok = true) : ¬ out := by
  intro outside
  rw [if_pos outside, rejects] at accepted
  cases accepted

/-- What the check of a range from 0 lets through. -/
theorem within_of_ranged {bound : Int32} (inside : ¬ (value < 0 ∨ value > bound)) :
    0 ≤ value ∧ value ≤ bound := by
  obtain ⟨low, high⟩ := not_or.mp inside
  exact ⟨Int32.not_lt.mp low, Int32.not_lt.mp high⟩

/-- What the check of a positive range lets through. -/
theorem within_of_positive {bound : Int32} (inside : ¬ (value ≤ 0 ∨ value > bound)) :
    0 ≤ value ∧ value ≤ bound := by
  obtain ⟨low, high⟩ := not_or.mp inside
  exact ⟨Int32.le_of_lt (Int32.not_le.mp low), Int32.not_lt.mp high⟩

/-- The field written reads back. -/
theorem stageConfigField_reads
    (accepted : (stageConfigField config field value).1.ok = true) :
    configFieldValue (stageConfigField config field value).2 field =
      some (storedValue field value) := by
  cases field <;> simp only [stageConfigField, configFieldKnown, Bool.not_true, Bool.not_false,
    Bool.false_eq_true, if_false, if_true] at accepted ⊢
  case SOFT_LIMITS_ENABLED => rfl
  case DIRECTION_INVERTED => rfl
  case SOFT_LIMIT_MIN_STEPS => rfl
  case SOFT_LIMIT_MAX_STEPS => rfl
  case TELEMETRY_INTERVAL_MS | HOLD_CURRENT_MA =>
    have inside := of_ranged rfl accepted
    obtain ⟨low, high⟩ := within_of_ranged inside
    rw [if_neg inside]
    exact congrArg some (toU16_value low high)
  case RUN_CURRENT_MA | MAX_ALLOWED_CURRENT_MA =>
    have inside := of_ranged rfl accepted
    obtain ⟨low, high⟩ := within_of_positive inside
    rw [if_neg inside]
    exact congrArg some (toU16_value low high)
  case MICROSTEPS =>
    have inside := of_ranged rfl accepted
    obtain ⟨low, high⟩ := within_of_positive inside
    rw [if_neg inside]
    exact congrArg some (toU16_value low (Int32.le_trans high (by decide)))
  case DRIVER_MODE | VELOCITY_TIMEOUT_ACTION =>
    have inside := of_ranged rfl accepted
    obtain ⟨low, high⟩ := within_of_ranged inside
    rw [if_neg inside]
    exact congrArg some (toU8_value low (Int32.le_trans high (by decide)))
  case POSITION_OFFSET_STEPS | HOME_POSITION_STEPS | ENABLE_TIMEOUT_MS | undeclared =>
    exact absurd accepted Bool.false_ne_true
  all_goals
    have inside := of_ranged rfl accepted
    rw [if_neg inside]
    exact congrArg some (Int32.toInt32_toUInt32 value)

/-- The other fields keep their values. -/
theorem stageConfigField_keeps (different : other ≠ field) :
    configFieldValue (stageConfigField config field value).2 other = configFieldValue config other := by
  cases field <;> simp only [stageConfigField, configFieldKnown, Bool.not_true, Bool.not_false,
    Bool.false_eq_true, if_false, if_true]
  all_goals first
    | rfl
    | split <;> first | rfl | cases other <;> first | rfl | exact absurd rfl different
    | cases other <;> first | rfl | exact absurd rfl different

/-- What passes `stage_config_field` is valid as a whole. -/
theorem stageConfigField_valid
    (accepted : (stageConfigField config field value).1.ok = true) :
    Valid (stageConfigField config field value).2 := by
  have checked : (stageConfigField config field value).1.ok =
        (validateConfig (stageConfigField config field value).2).ok ∨
      (stageConfigField config field value).1.ok = false := by
    unfold stageConfigField
    split
    · exact .inr rfl
    · split
      all_goals
        try split
      all_goals first
        | exact .inl rfl
        | exact .inr rfl
  rcases checked with same | refused
  · exact validateConfig_ok_iff.mp (same.symm.trans accepted)
  · exact absurd accepted (by simp [refused])

/-- The members that no field id addresses agree. -/
structure SameUnaddressed (config' config : ActuatorConfig) : Prop where
  version : config'.version = config.version
  pins : config'.pins = config.pins
  motor : config'.motor = config.motor
  blankTime : config'.driver.blankTime = config.driver.blankTime
  toff : config'.driver.toff = config.driver.toff
  interpolation : config'.driver.interpolation = config.driver.interpolation
  maxTravelSteps : config'.motion.maxTravelSteps = config.motion.maxTravelSteps
  enabledFields : config'.telemetry.enabledFields = config.telemetry.enabledFields
  binaryStreamEnabled : config'.telemetry.binaryStreamEnabled = config.telemetry.binaryStreamEnabled
  softLimitOriginSteps :
    config'.calibration.softLimitOriginSteps = config.calibration.softLimitOriginSteps

/-- No field addresses what is not staged. -/
theorem stageConfigField_unaddressed (config : ActuatorConfig) (field : ConfigField)
    (value : Int32) : SameUnaddressed (stageConfigField config field value).2 config := by
  unfold stageConfigField
  split
  · constructor <;> rfl
  · split
    all_goals
      try split
    all_goals
      constructor <;> rfl

/-- A field staged successfully reads as the value staged, nothing else has moved
and the result is valid as a whole. -/
theorem staged_then_read (config : ActuatorConfig) (field : ConfigField) (value : Int32)
    (outcome : ConfigValidationResult) (staged : ActuatorConfig)
    (result : stageConfigField config field value = (outcome, staged))
    (accepted : outcome.ok = true) :
    (validateConfig staged).ok = true ∧
      configFieldValue staged field = some (storedValue field value) ∧
      (∀ other, other ≠ field → configFieldValue staged other = configFieldValue config other) ∧
      SameUnaddressed staged config := by
  have succeeded : (stageConfigField config field value).1.ok = true := by
    rw [result]
    exact accepted
  obtain rfl : (stageConfigField config field value).2 = staged := congrArg Prod.snd result
  have valid := stageConfigField_valid succeeded
  refine ⟨validateConfig_ok_iff.mpr valid, stageConfigField_reads succeeded, ?_,
    stageConfigField_unaddressed config field value⟩
  intro other different
  exact stageConfigField_keeps different

theorem staged_then_read_microsteps :
    configFieldValue { defaultConfig with driver.microsteps := 32 } .MICROSTEPS = some 32 ∧
      SameUnaddressed { defaultConfig with driver.microsteps := 32 } defaultConfig := by
  have read := staged_then_read defaultConfig .MICROSTEPS 32 {}
    { defaultConfig with driver.microsteps := 32 } (by decide) rfl
  exact ⟨read.2.1, read.2.2.2⟩

end

/-! ## Writing a value read elsewhere -/

/-- The range a field's own check in `stage_config_field` accepts. -/
def ConfigField.Admits (value : Int32) : ConfigField → Prop
  | .TELEMETRY_INTERVAL_MS | .HOLD_CURRENT_MA => 0 ≤ value ∧ value ≤ 65535
  | .SOFT_LIMITS_ENABLED | .SOFT_LIMIT_MIN_STEPS | .SOFT_LIMIT_MAX_STEPS | .DIRECTION_INVERTED =>
    True
  | .DEFAULT_MAX_VELOCITY_SPS | .DEFAULT_MAX_ACCEL_SPS2 | .DEFAULT_STOP_DECEL_SPS2
  | .HOST_TIMEOUT_MS | .MAX_ALLOWED_VELOCITY_SPS | .MAX_ALLOWED_ACCEL_SPS2 => 0 < value
  | .RUN_CURRENT_MA | .MAX_ALLOWED_CURRENT_MA => 0 < value ∧ value ≤ 65535
  | .MICROSTEPS => 0 < value ∧ value ≤ 256
  | .DRIVER_MODE | .VELOCITY_TIMEOUT_ACTION => 0 ≤ value ∧ value ≤ 1
  | .POSITION_OFFSET_STEPS | .HOME_POSITION_STEPS | .ENABLE_TIMEOUT_MS | .undeclared _ => False

/-- The member a stageable field addresses, taken over from another configuration. -/
def ActuatorConfig.withField (config source : ActuatorConfig) : ConfigField → ActuatorConfig
  | .TELEMETRY_INTERVAL_MS => { config with telemetry.intervalMs := source.telemetry.intervalMs }
  | .SOFT_LIMITS_ENABLED =>
    { config with motion.softLimitsEnabled := source.motion.softLimitsEnabled }
  | .SOFT_LIMIT_MIN_STEPS => { config with motion.softMinSteps := source.motion.softMinSteps }
  | .SOFT_LIMIT_MAX_STEPS => { config with motion.softMaxSteps := source.motion.softMaxSteps }
  | .DEFAULT_MAX_VELOCITY_SPS =>
    { config with motion.maxVelocitySps := source.motion.maxVelocitySps }
  | .DEFAULT_MAX_ACCEL_SPS2 => { config with motion.maxAccelSps2 := source.motion.maxAccelSps2 }
  | .DEFAULT_STOP_DECEL_SPS2 =>
    { config with motion.defaultStopDecelSps2 := source.motion.defaultStopDecelSps2 }
  | .RUN_CURRENT_MA => { config with driver.runCurrentMa := source.driver.runCurrentMa }
  | .HOLD_CURRENT_MA => { config with driver.holdCurrentMa := source.driver.holdCurrentMa }
  | .MICROSTEPS => { config with driver.microsteps := source.driver.microsteps }
  | .DRIVER_MODE => { config with driver.mode := source.driver.mode }
  | .DIRECTION_INVERTED =>
    { config with calibration.directionInverted := source.calibration.directionInverted }
  | .HOST_TIMEOUT_MS => { config with safety.hostTimeoutMs := source.safety.hostTimeoutMs }
  | .VELOCITY_TIMEOUT_ACTION =>
    { config with safety.velocityTimeoutAction := source.safety.velocityTimeoutAction }
  | .MAX_ALLOWED_CURRENT_MA =>
    { config with safety.maxAllowedCurrentMa := source.safety.maxAllowedCurrentMa }
  | .MAX_ALLOWED_VELOCITY_SPS =>
    { config with safety.maxAllowedVelocitySps := source.safety.maxAllowedVelocitySps }
  | .MAX_ALLOWED_ACCEL_SPS2 =>
    { config with safety.maxAllowedAccelSps2 := source.safety.maxAllowedAccelSps2 }
  | _ => config

section

variable {config source : ActuatorConfig} {field : ConfigField} {value : Int32}

theorem not_ranged_of_within {bound : Int32} (within : 0 ≤ value ∧ value ≤ bound) :
    ¬ (value < 0 ∨ value > bound) :=
  not_or.mpr ⟨Int32.not_lt.mpr within.1, Int32.not_lt.mpr within.2⟩

theorem not_ranged_of_positive {bound : Int32} (within : 0 < value ∧ value ≤ bound) :
    ¬ (value ≤ 0 ∨ value > bound) :=
  not_or.mpr ⟨Int32.not_le.mpr within.1, Int32.not_lt.mpr within.2⟩

/-- A stored half word is read and written back. -/
theorem toU16_read (stored : UInt16) : toU16 stored.toUInt32.toInt32 = stored := by
  rw [toU16, UInt32.toUInt32_toInt32, UInt16.toUInt16_toUInt32]

/-- A stored byte is read and written back. -/
theorem toU8_read (stored : UInt8) : toU8 stored.toUInt32.toInt32 = stored := by
  rw [toU8, UInt32.toUInt32_toInt32, UInt8.toUInt8_toUInt32]

/-- A stored flag is read and written back. -/
theorem boolValue_read (stored : Bool) : decide (boolValue stored ≠ 0) = stored := by
  cases stored <;> rfl

/-- A value read from one configuration and staged into another takes the member
over when it passes the field's own check. -/
theorem stageConfigField_withField (read : configFieldValue source field = some value)
    (admitted : field.Admits value) :
    stageConfigField config field value =
      (validateConfig (config.withField source field), config.withField source field) := by
  cases field
  case undeclared => exact admitted.elim
  all_goals
    obtain rfl := Option.some.inj read
    simp only [stageConfigField, configFieldKnown, Bool.not_true, Bool.false_eq_true, if_false]
  case TELEMETRY_INTERVAL_MS | HOLD_CURRENT_MA =>
    rw [if_neg (not_ranged_of_within admitted), toU16_read]
    rfl
  case RUN_CURRENT_MA | MAX_ALLOWED_CURRENT_MA | MICROSTEPS =>
    rw [if_neg (not_ranged_of_positive admitted), toU16_read]
    rfl
  case DRIVER_MODE | VELOCITY_TIMEOUT_ACTION =>
    rw [if_neg (not_ranged_of_within admitted), toU8_read]
    rfl
  case SOFT_LIMIT_MIN_STEPS => rfl
  case SOFT_LIMIT_MAX_STEPS => rfl
  case SOFT_LIMITS_ENABLED | DIRECTION_INVERTED =>
    rw [boolValue_read]
    rfl
  case POSITION_OFFSET_STEPS | HOME_POSITION_STEPS | ENABLE_TIMEOUT_MS => exact admitted.elim
  all_goals
    rw [if_neg (Int32.not_le.mpr admitted), UInt32.toUInt32_toInt32]
    rfl

/-! ## Writing back -/

/-- The members whose stored range is wider than what their fields' own checks
accept lie within those checks. -/
structure Writable (config : ActuatorConfig) : Prop where
  mode : config.driver.mode.raw ≤ 1
  action : config.safety.velocityTimeoutAction.raw ≤ 1
  velocity : config.safety.maxAllowedVelocitySps < 2147483648
  accel : config.safety.maxAllowedAccelSps2 < 2147483648

/-- A stored word is read as a signed one. -/
theorem toInt_toInt32 (stored : UInt32) :
    stored.toInt32.toInt =
      if stored.toNat < 2147483648 then (stored.toNat : Int) else stored.toNat - 4294967296 := by
  have signed : stored.toInt32.toInt =
      if 2 * stored.toNat < 4294967296 then (stored.toNat : Int) else stored.toNat - 4294967296 :=
    BitVec.toInt_eq_toNat_cond stored.toBitVec
  rw [signed]
  split <;> split <;> omega

theorem toInt_toInt32_of_small {stored : UInt32} (small : stored < 2147483648) :
    stored.toInt32.toInt = stored.toNat := by
  have below : stored.toNat < 2147483648 := UInt32.lt_iff_toNat_lt.mp small
  rw [toInt_toInt32, if_pos below]

/-- A word below 2³¹ is read as positive. -/
theorem toInt32_pos {stored : UInt32} (positive : stored ≠ 0) (small : stored < 2147483648) :
    0 < stored.toInt32 := by
  have nonzero : stored.toNat ≠ 0 := fun zero => positive (UInt32.toNat_inj.mp zero)
  have above : (0 : Int) < stored.toNat := by omega
  rw [Int32.lt_iff_toInt_lt, toInt_toInt32_of_small small]
  exact above

theorem lt_of_toInt32_pos {stored : UInt32} (positive : 0 < stored.toInt32) :
    stored < 2147483648 := by
  have above : (0 : Int) < stored.toInt32.toInt := Int32.lt_iff_toInt_lt.mp positive
  have bounded : stored.toNat < 4294967296 := stored.toNat_lt
  rw [toInt_toInt32] at above
  rw [UInt32.lt_iff_toNat_lt]
  show stored.toNat < 2147483648
  split at above <;> omega

/-- An unsigned reading within a bound, after it was widened and read as signed. -/
theorem widened_within {stored : UInt32} {bound : Int32} (small : stored.toNat < 2147483648)
    (below : (stored.toNat : Int) ≤ bound.toInt) : 0 ≤ stored.toInt32 ∧ stored.toInt32 ≤ bound := by
  have read := toInt_toInt32_of_small (UInt32.lt_iff_toNat_lt.mpr small)
  rw [Int32.le_iff_toInt_le, Int32.le_iff_toInt_le, read]
  exact ⟨Int.natCast_nonneg _, below⟩

/-- A half word is always within its range. -/
theorem u16_within (stored : UInt16) :
    0 ≤ stored.toUInt32.toInt32 ∧ stored.toUInt32.toInt32 ≤ 65535 := by
  have bounded : stored.toUInt32.toNat < 65536 := by
    rw [UInt16.toNat_toUInt32]
    exact stored.toNat_lt
  apply widened_within (by omega)
  show (stored.toUInt32.toNat : Int) ≤ 65535
  omega

theorem u16_pos {stored : UInt16} (positive : stored ≠ 0) : 0 < stored.toUInt32.toInt32 := by
  have bounded : stored.toUInt32.toNat < 65536 := by
    rw [UInt16.toNat_toUInt32]
    exact stored.toNat_lt
  apply toInt32_pos
  · intro zero
    apply positive
    rw [← UInt16.toUInt16_toUInt32 stored, zero]
    rfl
  · rw [UInt32.lt_iff_toNat_lt]
    show stored.toUInt32.toNat < 2147483648
    omega

/-- The bytes with a name. -/
theorem u8_within_one {stored : UInt8} :
    0 ≤ stored.toUInt32.toInt32 ∧ stored.toUInt32.toInt32 ≤ 1 ↔ stored ≤ 1 := by
  have bounded : stored.toUInt32.toNat < 256 := by
    rw [UInt8.toNat_toUInt32]
    exact stored.toNat_lt
  constructor
  · rintro ⟨-, below⟩
    have small : stored.toUInt32 < 2147483648 := by
      rw [UInt32.lt_iff_toNat_lt]
      show stored.toUInt32.toNat < 2147483648
      omega
    rw [Int32.le_iff_toInt_le, toInt_toInt32_of_small small, UInt8.toNat_toUInt32] at below
    rw [UInt8.le_iff_toNat_le]
    exact Int.ofNat_le.mp below
  · intro small
    apply widened_within (by omega)
    rw [UInt8.toNat_toUInt32]
    exact Int.ofNat_le.mpr (UInt8.le_iff_toNat_le.mp small)

/-- Supported microsteps are in range. -/
theorem supported_le {microsteps : UInt16} (supported : supportedMicrosteps microsteps = true) :
    microsteps ≠ 0 ∧ microsteps.toUInt32.toInt32 ≤ 256 := by
  have listed : microsteps ∈ [1, 2, 4, 8, 16, 32, 64, 128, 256] := by
    simpa [supportedMicrosteps] using supported
  simp only [List.mem_cons, List.not_mem_nil, or_false] at listed
  rcases listed with rfl | rfl | rfl | rfl | rfl | rfl | rfl | rfl | rfl <;> decide

/-- A limit that allows something positive. -/
theorem limit_ne_zero {rate limit : UInt32} (positive : rate ≠ 0) (allowed : rate ≤ limit) :
    limit ≠ 0 := by
  rintro rfl
  exact positive (UInt32.le_zero_iff.mp allowed)

theorem current_limit_ne_zero {current limit : UInt16} (positive : current ≠ 0)
    (allowed : current ≤ limit) : limit ≠ 0 := by
  rintro rfl
  exact positive (UInt16.le_zero_iff.mp allowed)

/-- What a valid, writable configuration holds passes the fields' own checks. -/
theorem Valid.admits (valid : Valid config) (writable : Writable config)
    (stageable : field.Stageable) (read : configFieldValue config field = some value) :
    field.Admits value := by
  have within : ∀ {limit stored : UInt32}, stored ≤ limit → limit < 2147483648 →
      stored < 2147483648 := fun below small => UInt32.lt_of_le_of_lt below small
  cases field
  case POSITION_OFFSET_STEPS | HOME_POSITION_STEPS | ENABLE_TIMEOUT_MS | undeclared =>
    rcases stageable with safe | idle
    · cases safe
    · cases idle
  all_goals obtain rfl := Option.some.inj read
  case SOFT_LIMITS_ENABLED | SOFT_LIMIT_MIN_STEPS | SOFT_LIMIT_MAX_STEPS | DIRECTION_INVERTED =>
    exact trivial
  case TELEMETRY_INTERVAL_MS | HOLD_CURRENT_MA => exact u16_within _
  case RUN_CURRENT_MA => exact ⟨u16_pos valid.runPositive, (u16_within _).2⟩
  case MAX_ALLOWED_CURRENT_MA =>
    exact ⟨u16_pos (current_limit_ne_zero valid.runPositive valid.runAllowed), (u16_within _).2⟩
  case MICROSTEPS =>
    obtain ⟨positive, below⟩ := supported_le valid.microsteps
    exact ⟨u16_pos positive, below⟩
  case DRIVER_MODE => exact u8_within_one.mpr writable.mode
  case VELOCITY_TIMEOUT_ACTION => exact u8_within_one.mpr writable.action
  case DEFAULT_MAX_VELOCITY_SPS =>
    exact toInt32_pos valid.velocityPositive (within valid.velocityAllowed writable.velocity)
  case DEFAULT_MAX_ACCEL_SPS2 =>
    exact toInt32_pos valid.accelPositive (within valid.accelAllowed writable.accel)
  case DEFAULT_STOP_DECEL_SPS2 =>
    exact toInt32_pos valid.decelPositive (within valid.decelAllowed writable.accel)
  case HOST_TIMEOUT_MS =>
    have positive := limit_ne_zero (by decide) valid.timeoutLow
    exact toInt32_pos positive (within valid.timeoutHigh (by decide))
  case MAX_ALLOWED_VELOCITY_SPS =>
    have positive := limit_ne_zero valid.velocityPositive valid.velocityAllowed
    exact toInt32_pos positive writable.velocity
  case MAX_ALLOWED_ACCEL_SPS2 =>
    have positive := limit_ne_zero valid.accelPositive valid.accelAllowed
    exact toInt32_pos positive writable.accel

/-- Writing a field with its own value changes nothing. -/
theorem withField_self (config : ActuatorConfig) (field : ConfigField) :
    config.withField config field = config := by
  cases field <;> rfl

/-- The field's value, staged as it was read, is accepted and changes nothing. -/
def WritesBack (config : ActuatorConfig) (field : ConfigField) : Prop :=
  ∃ value, configFieldValue config field = some value ∧
    (stageConfigField config field value).1.ok = true ∧
    (stageConfigField config field value).2 = config

/-- In a valid configuration with words below 2³¹ each field can be written back. -/
theorem Valid.writesBack (valid : Valid config) (writable : Writable config)
    (stageable : field.Stageable) : WritesBack config field := by
  obtain ⟨value, read⟩ : ∃ value, configFieldValue config field = some value := by
    cases field
    case undeclared => rcases stageable with safe | idle <;> contradiction
    all_goals exact ⟨_, rfl⟩
  have staged : stageConfigField config field value = (validateConfig config, config) := by
    rw [stageConfigField_withField read (valid.admits writable stageable read), withField_self]
  refine ⟨value, read, ?_, ?_⟩
  · rw [staged]
    exact validateConfig_ok_iff.mpr valid
  · rw [staged]

theorem writable_of_writesBack (all : ∀ field : ConfigField, field.Stageable → WritesBack config field) :
    Writable config where
  mode := by
    obtain ⟨value, read, accepted, -⟩ := all .DRIVER_MODE (.inr rfl)
    obtain rfl := Option.some.inj read
    exact u8_within_one.mp (within_of_ranged (of_ranged rfl accepted))
  action := by
    obtain ⟨value, read, accepted, -⟩ := all .VELOCITY_TIMEOUT_ACTION (.inl rfl)
    obtain rfl := Option.some.inj read
    exact u8_within_one.mp (within_of_ranged (of_ranged rfl accepted))
  velocity := by
    obtain ⟨value, read, accepted, -⟩ := all .MAX_ALLOWED_VELOCITY_SPS (.inl rfl)
    obtain rfl := Option.some.inj read
    exact lt_of_toInt32_pos (Int32.not_le.mp (of_ranged rfl accepted))
  accel := by
    obtain ⟨value, read, accepted, -⟩ := all .MAX_ALLOWED_ACCEL_SPS2 (.inl rfl)
    obtain rfl := Option.some.inj read
    exact lt_of_toInt32_pos (Int32.not_le.mp (of_ranged rfl accepted))

/-- A valid configuration can be written back field by field exactly when it is writable. -/
theorem Valid.writesBack_iff (valid : Valid config) :
    (∀ field : ConfigField, field.Stageable → WritesBack config field) ↔ Writable config := by
  constructor
  · exact writable_of_writesBack
  · intro writable field stageable
    exact valid.writesBack writable stageable

end

end Daft
