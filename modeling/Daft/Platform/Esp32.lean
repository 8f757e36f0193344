import Daft.Platform.Loop
import Daft.Platform.Storage

/-!
# The callbacks of the ESP32

`main.cpp` drives the motor through `FastAccelStepper` and the driver chip through
`TMC2209Stepper`. What the callbacks do to the hardware is a list of operations, newest
first, each with what the library returned; a library answers as it likes, from the
operations made before.
-/

namespace Daft

open Logic

/-! ## The libraries -/

/-- A setting of the driver chip. -/
inductive TmcSetting where
  | begin
  | pdnDisable (on : Bool)
  | iScaleAnalog (on : Bool)
  | toff (value : UInt8)
  | blankTime (value : UInt8)
  | rmsCurrent (ma : UInt16)
  | microsteps (value : UInt16)
  | enSpreadCycle (on : Bool)
  | pwmAutoscale (on : Bool)
  | intpol (on : Bool)
  | tcoolthrs (value : UInt32)
  deriving DecidableEq

/-- An operation with its arguments and, last, what was returned: for a result that is
compared with 0 or `MOVE_OK`, whether it is that. -/
inductive Operation where
  | pinMode (pin : Int16)
  | digitalWrite (pin : Int16) (high : Bool)
  | setDirectionPin (pin : Int16)
  | setEnablePin (pin : Int16) (activeLow : Bool)
  | setAutoEnable (on : Bool)
  | enableOutputs
  | disableOutputs
  | setSpeedInHz (speed : UInt32) (ok : Bool)
  | setAcceleration (accel : Int32) (ok : Bool)
  | moveTo (target : Int32) (ok : Bool)
  | move (delta : Int32) (ok : Bool)
  | runForward (ok : Bool)
  | runBackward (ok : Bool)
  | stopMove
  | forceStopAndNewPosition (position : Int32)
  | getCurrentPosition (steps : Int32)
  | targetPos (steps : Int32)
  | getCurrentSpeedInMilliHz (speed : Int32)
  | isRunning (running : Bool)
  | tmc (setting : TmcSetting)
  | testConnection (result : UInt8)
  | drvStatus (status : UInt32)
  | otpw (on : Bool)
  | ot (on : Bool)
  deriving DecidableEq

abbrev Operations := List Operation

/-- `FastAccelStepper`. -/
structure FastAccelStepper where
  setSpeedInHz : Operations → UInt32 → Bool
  setAcceleration : Operations → Int32 → Bool
  moveTo : Operations → Int32 → Bool
  move : Operations → Int32 → Bool
  runForward : Operations → Bool
  runBackward : Operations → Bool
  getCurrentPosition : Operations → Int32
  targetPos : Operations → Int32
  getCurrentSpeedInMilliHz : Operations → Int32
  isRunning : Operations → Bool

/-- `TMC2209Stepper`. -/
structure TMC2209Stepper where
  testConnection : Operations → UInt8
  drvStatus : Operations → UInt32
  otpw : Operations → Bool
  ot : Operations → Bool

abbrev Hardware := StateM Operations

namespace Hardware

def ask {α : Type} (answer : Operations → α) (record : α → Operation) : Hardware α :=
  fun ops => (answer ops, record (answer ops) :: ops)

def perform (operation : Operation) : Hardware Unit := fun ops => ((), operation :: ops)

end Hardware

open Hardware

/-- What `main.cpp` runs on. -/
structure Esp32 (N : Type) where
  /-- `stepper`, null where `stepperConnectToPin` found no pulse counter for the pin. -/
  stepper : Option FastAccelStepper
  driver : TMC2209Stepper
  prefs : Preferences N
  /-- The partition at power on. -/
  nvs : N
  millis : History → UInt32
  resetReason : UInt32
  /-- `actuator.active_config()`, where `cb_driver_status` asks for it. -/
  activeConfig : History → ActuatorConfig

/-! ## The motor -/

section

variable (stepper : Option FastAccelStepper)

/-- `cb_enable_driver`. -/
def cbEnableDriver (bootConfig : ActuatorConfig) (enabled : Bool) : Hardware Bool := do
  match stepper with
  | some _ =>
    if enabled then perform .enableOutputs else perform .disableOutputs
    return true
  | none =>
    let pins := bootConfig.pins
    perform (.digitalWrite pins.enablePin (enabled ≠ pins.enableActiveLow))
    return true

/-- The two settings before a motion, and the motion if both are accepted. -/
def cbMotion (maxVelocitySps accelSps2 : UInt32)
    (start : FastAccelStepper → Hardware Bool) : Hardware Bool := do
  match stepper with
  | none => return false
  | some stepper =>
    if !(← ask (stepper.setSpeedInHz · maxVelocitySps) (.setSpeedInHz maxVelocitySps)) then
      return false
    if !(← ask (stepper.setAcceleration · accelSps2.toInt32) (.setAcceleration accelSps2.toInt32)) then
      return false
    start stepper

/-- `cb_move_absolute`. -/
def cbMoveAbsolute (targetSteps : Int32) (maxVelocitySps accelSps2 : UInt32) : Hardware Bool :=
  cbMotion stepper maxVelocitySps accelSps2 fun stepper =>
    ask (stepper.moveTo · targetSteps) (.moveTo targetSteps)

/-- `cb_move_relative`. -/
def cbMoveRelative (deltaSteps : Int32) (maxVelocitySps accelSps2 : UInt32) : Hardware Bool :=
  cbMotion stepper maxVelocitySps accelSps2 fun stepper =>
    ask (stepper.move · deltaSteps) (.move deltaSteps)

/-- `cb_run_velocity`; its `abs_velocity` is computed as the actuator's is. -/
def cbRunVelocity (velocitySps : Int32) (accelSps2 : UInt32) : Hardware Bool :=
  if velocitySps = 0 then pure false
  else
    cbMotion stepper (absVelocity velocitySps) accelSps2 fun stepper =>
      if velocitySps > 0 then ask stepper.runForward .runForward
      else ask stepper.runBackward .runBackward

/-- `cb_ramp_stop`. -/
def cbRampStop (decelSps2 : UInt32) : Hardware Bool := do
  match stepper with
  | none => return false
  | some stepper =>
    let _ ← ask (stepper.setAcceleration · decelSps2.toInt32) (.setAcceleration decelSps2.toInt32)
    perform .stopMove
    return true

/-- `cb_emergency_stop`. -/
def cbEmergencyStop : Hardware Unit := do
  match stepper with
  | none => return
  | some stepper =>
    let position ← ask stepper.getCurrentPosition .getCurrentPosition
    perform (.forceStopAndNewPosition position)
    perform .disableOutputs

/-- `cb_current_position`. -/
def cbCurrentPosition : Hardware Int32 :=
  match stepper with
  | none => pure 0
  | some stepper => ask stepper.getCurrentPosition .getCurrentPosition

/-- `cb_target_position`. -/
def cbTargetPosition : Hardware Int32 :=
  match stepper with
  | none => pure 0
  | some stepper => ask stepper.targetPos .targetPos

/-- `cb_current_speed`. -/
def cbCurrentSpeed : Hardware Int32 := do
  match stepper with
  | none => return 0
  | some stepper => return (← ask stepper.getCurrentSpeedInMilliHz .getCurrentSpeedInMilliHz) / 1000

/-- `cb_motion_active`. -/
def cbMotionActive : Hardware Bool :=
  match stepper with
  | none => pure false
  | some stepper => ask stepper.isRunning .isRunning

end

/-! ## The driver chip -/

section

variable (driver : TMC2209Stepper)

/-- The settings `cb_configure_driver` makes, in order. -/
def tmcSettings (config : Tmc2209Config) : List TmcSetting :=
  [.begin, .pdnDisable true, .iScaleAnalog false, .toff config.toff, .blankTime config.blankTime,
    .rmsCurrent config.runCurrentMa, .microsteps config.microsteps,
    .enSpreadCycle (config.mode = .SPREADCYCLE), .pwmAutoscale true, .intpol config.interpolation,
    .tcoolthrs 0xFFFFF]

/-- `cb_configure_driver`: what it returns is also `driver_configured`. -/
def cbConfigureDriver (config : Tmc2209Config) : Hardware Bool := do
  for setting in tmcSettings config do
    perform (.tmc setting)
  return (← ask driver.testConnection .testConnection) = 0

/-- `cb_driver_status`. -/
def cbDriverStatus (driverConfigured : Bool) (active : ActuatorConfig) : Hardware DriverStatus := do
  let test ← ask driver.testConnection .testConnection
  let drvStatus ← ask driver.drvStatus .drvStatus
  let otpw ← ask driver.otpw .otpw
  let ot ← ask driver.ot .ot
  return { configured := if driverConfigured then 1 else 0
           uartOk := if test = 0 then 1 else 0
           overtemperaturePreWarning := if otpw then 1 else 0
           overtemperature := if ot then 1 else 0
           runCurrentMa := active.driver.runCurrentMa
           microsteps := active.driver.microsteps
           rawStatus := drvStatus }

end

/-! ## The board -/

/-- `boot_config`: the defaults, until `cb_load_config` loads another. -/
def bootConfig : History → ActuatorConfig
  | [] => defaultConfig
  | .loadConfig (some (config, _)) :: _ => config
  | _ :: past => bootConfig past

/-- `driver_configured`. -/
def driverConfigured : History → Bool
  | [] => false
  | .configureDriver _ ok :: _ => ok
  | _ :: past => driverConfigured past

namespace Esp32

variable {N : Type} (hw : Esp32 N)

/-- What `setup` does to the hardware. -/
def setupHardware : Hardware Unit := do
  let defaults := defaultConfig
  perform (.pinMode defaults.pins.enablePin)
  perform (.digitalWrite defaults.pins.enablePin defaults.pins.enableActiveLow)
  match hw.stepper with
  | none => return
  | some stepper =>
    perform (.setDirectionPin defaults.pins.dirPin)
    perform (.setEnablePin defaults.pins.enablePin defaults.pins.enableActiveLow)
    perform (.setAutoEnable false)
    let _ ← ask (stepper.setSpeedInHz · defaults.motion.maxVelocitySps)
      (.setSpeedInHz defaults.motion.maxVelocitySps)
    let _ ← ask (stepper.setAcceleration · defaults.motion.maxAccelSps2.toInt32)
      (.setAcceleration defaults.motion.maxAccelSps2.toInt32)
    perform .disableOutputs

/-- What a call does to the hardware, after the calls and operations before it. -/
def serve (past : History) : Call → Hardware Unit
  | .enableDriver enabled _ => discard (cbEnableDriver hw.stepper (bootConfig past) enabled)
  | .configureDriver config _ => discard (cbConfigureDriver hw.driver config)
  | .moveAbsolute target velocity accel _ => discard (cbMoveAbsolute hw.stepper target velocity accel)
  | .moveRelative delta velocity accel _ => discard (cbMoveRelative hw.stepper delta velocity accel)
  | .runVelocity velocity accel _ => discard (cbRunVelocity hw.stepper velocity accel)
  | .rampStop decel _ => discard (cbRampStop hw.stepper decel)
  | .emergencyStop => cbEmergencyStop hw.stepper
  | .currentPosition _ => discard (cbCurrentPosition hw.stepper)
  | .targetPosition _ => discard (cbTargetPosition hw.stepper)
  | .currentSpeed _ => discard (cbCurrentSpeed hw.stepper)
  | .motionActive _ => discard (cbMotionActive hw.stepper)
  | .driverStatus _ =>
    discard (cbDriverStatus hw.driver (driverConfigured past) (hw.activeConfig past))
  | _ => pure ()

/-- The operations made since power on, by the calls made since. -/
def operations : History → Operations
  | [] => (hw.setupHardware []).2
  | call :: past => (hw.serve past call (operations past)).2

/-- What a callback returns when it is called after `past`. -/
def returns {α : Type} (past : History) (callback : Hardware α) : α :=
  (callback (hw.operations past)).1

/-- `make_backend`. -/
def makeBackend : MotionBackend where
  millis := some hw.millis
  enableDriver := some fun h enabled => hw.returns h (cbEnableDriver hw.stepper (bootConfig h) enabled)
  configureDriver := some fun h config => hw.returns h (cbConfigureDriver hw.driver config)
  moveAbsolute := some fun h target velocity accel =>
    hw.returns h (cbMoveAbsolute hw.stepper target velocity accel)
  moveRelative := some fun h delta velocity accel =>
    hw.returns h (cbMoveRelative hw.stepper delta velocity accel)
  runVelocity := some fun h velocity accel => hw.returns h (cbRunVelocity hw.stepper velocity accel)
  rampStop := some fun h decel => hw.returns h (cbRampStop hw.stepper decel)
  emergencyStop := some ()
  currentPosition := some fun h => hw.returns h (cbCurrentPosition hw.stepper)
  targetPosition := some fun h => hw.returns h (cbTargetPosition hw.stepper)
  currentSpeed := some fun h => hw.returns h (cbCurrentSpeed hw.stepper)
  motionActive := some fun h => hw.returns h (cbMotionActive hw.stepper)
  driverStatus := some fun h =>
    hw.returns h (cbDriverStatus hw.driver (driverConfigured h) (hw.activeConfig h))
  saveConfig := some fun h config => (cbSaveConfig hw.prefs config (nvsAfter hw.prefs hw.nvs h)).1
  loadConfig := some fun h => cbLoadConfig hw.prefs (nvsAfter hw.prefs hw.nvs h)
  resetConfigStorage := some fun h => (cbResetConfigStorage hw.prefs (nvsAfter hw.prefs hw.nvs h)).1
  reboot := some ()
  bootReason := some fun _ => hw.resetReason

/-! ## Main result -/

/-- The storage callbacks are those over the partition. -/
theorem makeBackend_wired : hw.prefs.Wired hw.nvs hw.makeBackend := ⟨rfl, rfl, rfl⟩

/-- The board keeps its saves: whatever it received, it restarts with a configuration that
the saves and resets acknowledged or tried since power on leave. -/
theorem restarts {holds : N → NvsEntries} (lawful : hw.prefs.Lawful holds) (serial : SerialPort)
    (build : BuildInfo) (passes : List (List UInt8)) :
    let b := hw.makeBackend
    let m := (Board.after b serial build passes).actuator
    let c := (step b m (.begin defaultConfig)).act.toControl
    ∃ reading, (viewAfter hw.prefs holds hw.nvs b build defaultConfig
        (Board.called b serial build passes)).reads reading ∧
      c.activeConfig = (reading.map Prod.fst).getD defaultConfig ∧
      c.configGeneration = generationOf reading := by
  intro b m c
  obtain ⟨active, -, -, generation⟩ := restart_loads lawful hw.makeBackend_wired m defaultConfig
  refine ⟨_, ?_, active, generation⟩
  have fits := boot_fits lawful hw.makeBackend_wired build defaultConfig
    (Board.called b serial build passes)
  rw [← Board.after_actuator] at fits
  rw [lawful.load]
  exact fits.reads

end Esp32

end Daft
