import Daft.Config.Staging

/-!
# Staging one field after another

A safe order of writes leads from any valid configuration to any other: the limits that
others depend on are lowered first and raised last.
-/

namespace Daft

/-! ## One field after another -/

/-- A sequence of `stage_config_field` calls, `none` once one of them fails. -/
def stageConfigFields : List (ConfigField × Int32) → ActuatorConfig → Option ActuatorConfig
  | [], config => some config
  | (field, value) :: writes, config =>
    let (result, staged) := stageConfigField config field value
    if result.ok then stageConfigFields writes staged else none

/-- Successful `stage_config_field` calls lead from one configuration to another. -/
def Reaches (config config' : ActuatorConfig) : Prop :=
  ∃ writes, stageConfigFields writes config = some config'

/-- The members no field can be staged into agree. -/
structure SameUnstageable (config' config : ActuatorConfig) : Prop
    extends SameUnaddressed config' config where
  positionOffsetSteps :
    config'.calibration.positionOffsetSteps = config.calibration.positionOffsetSteps
  homePositionSteps : config'.calibration.homePositionSteps = config.calibration.homePositionSteps
  enableTimeoutMs : config'.safety.enableTimeoutMs = config.safety.enableTimeoutMs

/-- Staged values that leave every limit free to move. -/
def loweredConfig : ActuatorConfig :=
  { motion := { maxVelocitySps := 1, maxAccelSps2 := 1, defaultStopDecelSps2 := 1 }
    driver := { runCurrentMa := 1, holdCurrentMa := 0 } }

section

variable {config config' target : ActuatorConfig} {field : ConfigField}

theorem stageConfigFields_append {before after : List (ConfigField × Int32)}
    (first : stageConfigFields before config = some config') :
    stageConfigFields (before ++ after) config = stageConfigFields after config' := by
  induction before generalizing config with
  | nil =>
    obtain rfl := Option.some.inj first
    rfl
  | cons write before ih =>
    obtain ⟨field, value⟩ := write
    simp only [List.cons_append, stageConfigFields] at first ⊢
    split at first
    case isTrue accepted => rw [if_pos accepted, ih first]
    case isFalse => cases first

theorem Reaches.trans {middle : ActuatorConfig} (first : Reaches config middle)
    (second : Reaches middle config') : Reaches config config' := by
  obtain ⟨before, first⟩ := first
  obtain ⟨after, second⟩ := second
  exact ⟨before ++ after, (stageConfigFields_append first).trans second⟩

theorem Reaches.valid (reaches : Reaches config config') (valid : Valid config) : Valid config' := by
  obtain ⟨writes, staged⟩ := reaches
  induction writes generalizing config with
  | nil =>
    obtain rfl := Option.some.inj staged
    exact valid
  | cons write writes ih =>
    obtain ⟨field, value⟩ := write
    simp only [stageConfigFields] at staged
    split at staged
    case isTrue accepted => exact ih (stageConfigField_valid accepted) staged
    case isFalse => cases staged

/-- A field taken over from a valid, writable configuration. -/
theorem Reaches.take (field : ConfigField) (ready : Valid target) (writable : Writable target)
    (stageable : field.Stageable) (valid : Valid config')
    (next : config.withField target field = config') : Reaches config config' := by
  subst next
  obtain ⟨value, read, -⟩ := ready.writesBack writable stageable
  have admitted := ready.admits writable stageable read
  refine ⟨[(field, value)], ?_⟩
  simp only [stageConfigFields, stageConfigField_withField read admitted]
  exact if_pos (validateConfig_ok_iff.mpr valid)

theorem loweredConfig_valid : Valid loweredConfig := validateConfig_ok_iff.mp (by decide)

theorem loweredConfig_writable : Writable loweredConfig := by
  constructor <;> decide

/-- A field lowered on the way. -/
theorem Reaches.lower (field : ConfigField) (stageable : field.Stageable) (valid : Valid config')
    (next : config.withField loweredConfig field = config') : Reaches config config' :=
  .take field loweredConfig_valid loweredConfig_writable stageable valid next

theorem one_le_of_current {current limit : UInt16} (positive : current ≠ 0)
    (allowed : current ≤ limit) : 1 ≤ limit := by
  have above : 0 < limit := UInt16.pos_iff_ne_zero.mpr (current_limit_ne_zero positive allowed)
  exact UInt16.le_iff_toNat_le.mpr (UInt16.lt_iff_toNat_lt.mp above)

theorem one_le_of_rate {rate limit : UInt32} (positive : rate ≠ 0) (allowed : rate ≤ limit) :
    1 ≤ limit := by
  have above : 0 < limit := UInt32.pos_iff_ne_zero.mpr (limit_ne_zero positive allowed)
  exact UInt32.le_iff_toNat_le.mpr (UInt32.lt_iff_toNat_lt.mp above)

/-- Hold and run current are lowered before the allowed current moves. -/
theorem reaches_currents (valid : Valid config) (ready : Valid target) (writable : Writable target)
    (motor : config.motor = target.motor) :
    Reaches config { config with
      safety.maxAllowedCurrentMa := target.safety.maxAllowedCurrentMa
      driver.runCurrentMa := target.driver.runCurrentMa
      driver.holdCurrentMa := target.driver.holdCurrentMa } := by
  have unheld : Valid { config with driver.holdCurrentMa := 0 } :=
    { valid with hold := UInt16.zero_le }
  have lowered : Valid { config with driver.holdCurrentMa := 0, driver.runCurrentMa := 1 } :=
    { unheld with
      runPositive := (by decide : (1 : UInt16) ≠ 0)
      runAllowed := one_le_of_current valid.runPositive valid.runAllowed
      runMotor := one_le_of_current valid.runPositive valid.runMotor
      hold := UInt16.zero_le }
  have allowed : Valid { config with
      driver.holdCurrentMa := 0
      driver.runCurrentMa := 1
      safety.maxAllowedCurrentMa := target.safety.maxAllowedCurrentMa } :=
    { lowered with runAllowed := one_le_of_current ready.runPositive ready.runAllowed }
  have run : Valid { config with
      driver.holdCurrentMa := 0
      driver.runCurrentMa := target.driver.runCurrentMa
      safety.maxAllowedCurrentMa := target.safety.maxAllowedCurrentMa } :=
    { allowed with
      runPositive := ready.runPositive
      runAllowed := ready.runAllowed
      runMotor := motor ▸ ready.runMotor
      hold := UInt16.zero_le }
  have held : Valid { config with
      driver.holdCurrentMa := target.driver.holdCurrentMa
      driver.runCurrentMa := target.driver.runCurrentMa
      safety.maxAllowedCurrentMa := target.safety.maxAllowedCurrentMa } :=
    { run with hold := ready.hold }
  refine Reaches.trans (.lower .HOLD_CURRENT_MA (.inr rfl) unheld rfl) ?_
  refine Reaches.trans (.lower .RUN_CURRENT_MA (.inr rfl) lowered rfl) ?_
  refine Reaches.trans (.take .MAX_ALLOWED_CURRENT_MA ready writable (.inl rfl) allowed rfl) ?_
  refine Reaches.trans (.take .RUN_CURRENT_MA ready writable (.inr rfl) run rfl) ?_
  exact Reaches.take .HOLD_CURRENT_MA ready writable (.inr rfl) held rfl

theorem reaches_velocities (valid : Valid config) (ready : Valid target)
    (writable : Writable target) :
    Reaches config { config with
      safety.maxAllowedVelocitySps := target.safety.maxAllowedVelocitySps
      motion.maxVelocitySps := target.motion.maxVelocitySps } := by
  have lowered : Valid { config with motion.maxVelocitySps := 1 } :=
    { valid with
      velocityPositive := (by decide : (1 : UInt32) ≠ 0)
      velocityAllowed := one_le_of_rate valid.velocityPositive valid.velocityAllowed }
  have allowed : Valid { config with
      motion.maxVelocitySps := 1
      safety.maxAllowedVelocitySps := target.safety.maxAllowedVelocitySps } :=
    { lowered with velocityAllowed := one_le_of_rate ready.velocityPositive ready.velocityAllowed }
  have raised : Valid { config with
      motion.maxVelocitySps := target.motion.maxVelocitySps
      safety.maxAllowedVelocitySps := target.safety.maxAllowedVelocitySps } :=
    { allowed with
      velocityPositive := ready.velocityPositive
      velocityAllowed := ready.velocityAllowed }
  refine Reaches.trans (.lower .DEFAULT_MAX_VELOCITY_SPS (.inl rfl) lowered rfl) ?_
  refine Reaches.trans (.take .MAX_ALLOWED_VELOCITY_SPS ready writable (.inl rfl) allowed rfl) ?_
  exact Reaches.take .DEFAULT_MAX_VELOCITY_SPS ready writable (.inl rfl) raised rfl

/-- Acceleration and stop deceleration share one limit. -/
theorem reaches_accelerations (valid : Valid config) (ready : Valid target)
    (writable : Writable target) :
    Reaches config { config with
      safety.maxAllowedAccelSps2 := target.safety.maxAllowedAccelSps2
      motion.maxAccelSps2 := target.motion.maxAccelSps2
      motion.defaultStopDecelSps2 := target.motion.defaultStopDecelSps2 } := by
  have slow : Valid { config with motion.maxAccelSps2 := 1 } :=
    { valid with
      accelPositive := (by decide : (1 : UInt32) ≠ 0)
      accelAllowed := one_le_of_rate valid.accelPositive valid.accelAllowed }
  have lowered : Valid { config with motion.maxAccelSps2 := 1, motion.defaultStopDecelSps2 := 1 } :=
    { slow with
      decelPositive := (by decide : (1 : UInt32) ≠ 0)
      decelAllowed := one_le_of_rate valid.decelPositive valid.decelAllowed }
  have allowed : Valid { config with
      motion.maxAccelSps2 := 1
      motion.defaultStopDecelSps2 := 1
      safety.maxAllowedAccelSps2 := target.safety.maxAllowedAccelSps2 } :=
    { lowered with
      accelAllowed := one_le_of_rate ready.accelPositive ready.accelAllowed
      decelAllowed := one_le_of_rate ready.accelPositive ready.accelAllowed }
  have raised : Valid { config with
      motion.maxAccelSps2 := target.motion.maxAccelSps2
      motion.defaultStopDecelSps2 := 1
      safety.maxAllowedAccelSps2 := target.safety.maxAllowedAccelSps2 } :=
    { allowed with accelPositive := ready.accelPositive, accelAllowed := ready.accelAllowed }
  have stops : Valid { config with
      motion.maxAccelSps2 := target.motion.maxAccelSps2
      motion.defaultStopDecelSps2 := target.motion.defaultStopDecelSps2
      safety.maxAllowedAccelSps2 := target.safety.maxAllowedAccelSps2 } :=
    { raised with decelPositive := ready.decelPositive, decelAllowed := ready.decelAllowed }
  refine Reaches.trans (.lower .DEFAULT_MAX_ACCEL_SPS2 (.inl rfl) slow rfl) ?_
  refine Reaches.trans (.lower .DEFAULT_STOP_DECEL_SPS2 (.inl rfl) lowered rfl) ?_
  refine Reaches.trans (.take .MAX_ALLOWED_ACCEL_SPS2 ready writable (.inl rfl) allowed rfl) ?_
  refine Reaches.trans (.take .DEFAULT_MAX_ACCEL_SPS2 ready writable (.inl rfl) raised rfl) ?_
  exact Reaches.take .DEFAULT_STOP_DECEL_SPS2 ready writable (.inl rfl) stops rfl

/-- The soft limits move while they are switched off. -/
theorem reaches_softLimits (valid : Valid config) (ready : Valid target)
    (writable : Writable target) :
    Reaches config { config with
      motion.softMinSteps := target.motion.softMinSteps
      motion.softMaxSteps := target.motion.softMaxSteps
      motion.softLimitsEnabled := target.motion.softLimitsEnabled } := by
  have off : Valid { config with motion.softLimitsEnabled := false } :=
    { valid with softLimits := fun on => by cases on }
  have low : Valid { config with
      motion.softLimitsEnabled := false
      motion.softMinSteps := target.motion.softMinSteps } :=
    { off with softLimits := fun on => by cases on }
  have high : Valid { config with
      motion.softLimitsEnabled := false
      motion.softMinSteps := target.motion.softMinSteps
      motion.softMaxSteps := target.motion.softMaxSteps } :=
    { low with softLimits := fun on => by cases on }
  have switched : Valid { config with
      motion.softLimitsEnabled := target.motion.softLimitsEnabled
      motion.softMinSteps := target.motion.softMinSteps
      motion.softMaxSteps := target.motion.softMaxSteps } :=
    { high with softLimits := ready.softLimits }
  refine Reaches.trans (.lower .SOFT_LIMITS_ENABLED (.inl rfl) off rfl) ?_
  refine Reaches.trans (.take .SOFT_LIMIT_MIN_STEPS ready writable (.inl rfl) low rfl) ?_
  refine Reaches.trans (.take .SOFT_LIMIT_MAX_STEPS ready writable (.inl rfl) high rfl) ?_
  exact Reaches.take .SOFT_LIMITS_ENABLED ready writable (.inl rfl) switched rfl

/-- The fields no other member constrains. -/
theorem reaches_unconstrained (valid : Valid config) (ready : Valid target)
    (writable : Writable target) :
    Reaches config { config with
      telemetry.intervalMs := target.telemetry.intervalMs
      driver.microsteps := target.driver.microsteps
      driver.mode := target.driver.mode
      calibration.directionInverted := target.calibration.directionInverted
      safety.hostTimeoutMs := target.safety.hostTimeoutMs
      safety.velocityTimeoutAction := target.safety.velocityTimeoutAction } := by
  have interval : Valid { config with
      telemetry.intervalMs := target.telemetry.intervalMs } :=
    { valid with }
  have microsteps : Valid { config with
      telemetry.intervalMs := target.telemetry.intervalMs
      driver.microsteps := target.driver.microsteps } :=
    { interval with microsteps := ready.microsteps }
  have mode : Valid { config with
      telemetry.intervalMs := target.telemetry.intervalMs
      driver.microsteps := target.driver.microsteps
      driver.mode := target.driver.mode } :=
    { microsteps with }
  have inverted : Valid { config with
      telemetry.intervalMs := target.telemetry.intervalMs
      driver.microsteps := target.driver.microsteps
      driver.mode := target.driver.mode
      calibration.directionInverted := target.calibration.directionInverted } :=
    { mode with }
  have timeout : Valid { config with
      telemetry.intervalMs := target.telemetry.intervalMs
      driver.microsteps := target.driver.microsteps
      driver.mode := target.driver.mode
      calibration.directionInverted := target.calibration.directionInverted
      safety.hostTimeoutMs := target.safety.hostTimeoutMs } :=
    { inverted with timeoutLow := ready.timeoutLow, timeoutHigh := ready.timeoutHigh }
  have action : Valid { config with
      telemetry.intervalMs := target.telemetry.intervalMs
      driver.microsteps := target.driver.microsteps
      driver.mode := target.driver.mode
      calibration.directionInverted := target.calibration.directionInverted
      safety.hostTimeoutMs := target.safety.hostTimeoutMs
      safety.velocityTimeoutAction := target.safety.velocityTimeoutAction } :=
    { timeout with }
  refine Reaches.trans (.take .TELEMETRY_INTERVAL_MS ready writable (.inl rfl) interval rfl) ?_
  refine Reaches.trans (.take .MICROSTEPS ready writable (.inr rfl) microsteps rfl) ?_
  refine Reaches.trans (.take .DRIVER_MODE ready writable (.inr rfl) mode rfl) ?_
  refine Reaches.trans (.take .DIRECTION_INVERTED ready writable (.inl rfl) inverted rfl) ?_
  refine Reaches.trans (.take .HOST_TIMEOUT_MS ready writable (.inl rfl) timeout rfl) ?_
  exact Reaches.take .VELOCITY_TIMEOUT_ACTION ready writable (.inl rfl) action rfl

/-- From every valid configuration, successful `stage_config_field` calls lead to
every other one that agrees with it on what cannot be staged, as long as the
values to stage are declared and below 2^31; the ones a limit bounds are below it
with their limit. -/
theorem reaches_every_configuration (config target : ActuatorConfig)
    (valid : (validateConfig config).ok = true) (ready : (validateConfig target).ok = true)
    (same : SameUnstageable config target) (writable : Writable target) :
    ∃ writes, stageConfigFields writes config = some target := by
  have ready := validateConfig_ok_iff.mp ready
  have valid := validateConfig_ok_iff.mp valid
  have currents := reaches_currents valid ready writable same.motor
  have valid := currents.valid valid
  have velocities := reaches_velocities valid ready writable
  have valid := velocities.valid valid
  have accelerations := reaches_accelerations valid ready writable
  have valid := accelerations.valid valid
  have softLimits := reaches_softLimits valid ready writable
  have valid := softLimits.valid valid
  have unconstrained := reaches_unconstrained valid ready writable
  have path := currents.trans <| velocities.trans <| accelerations.trans <|
    softLimits.trans unconstrained
  obtain ⟨version, pins, motor, ⟨run, hold, microsteps, mode, blankTime, toff, interpolation⟩,
    ⟨velocity, accel, travel, limited, low, high, decel⟩, ⟨interval, fields, stream⟩,
    ⟨offset, home, inverted, origin⟩,
    ⟨timeout, action, enableTimeout, current, topVelocity, topAccel⟩⟩ := target
  obtain ⟨⟨rfl, rfl, rfl, rfl, rfl, rfl, rfl, rfl, rfl, rfl⟩, rfl, rfl, rfl⟩ := same
  exact path

/-- Lower currents under a lower limit, with the soft limits switched on. -/
def reducedConfig : ActuatorConfig :=
  { driver := { runCurrentMa := 400, holdCurrentMa := 300, mode := .SPREADCYCLE }
    motion := { softLimitsEnabled := true, softMinSteps := 200000, softMaxSteps := 300000 }
    safety := { maxAllowedCurrentMa := 500 } }

theorem reaches_every_configuration_reduced :
    ∃ writes, stageConfigFields writes defaultConfig = some reducedConfig := by
  have writable : Writable reducedConfig := by
    constructor <;> decide
  have same : SameUnstageable defaultConfig reducedConfig := ⟨⟨rfl, rfl, rfl, rfl, rfl, rfl, rfl,
    rfl, rfl, rfl⟩, rfl, rfl, rfl⟩
  exact reaches_every_configuration defaultConfig reducedConfig (by decide) (by decide) same writable

end

end Daft
