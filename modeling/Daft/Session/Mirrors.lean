import Daft.Firmware.Commands

/-!
# Two runs in step

A map of machines that every callback, every packet sent and every change of a member
commutes with, over one backend and port on the one side and others on the other, commutes
with whole requests. Handlers compare two runs only here: a clock that is ahead and a port
that answers alike are two such maps.
-/

namespace Daft

/-- What is done over `b` and `down` is done over `b'` and `down'` to the machines `f` gives. -/
structure Mirrors (f : Machine → Machine) (b b' : MotionBackend) (down down' : Port) : Prop where
  control : ∀ m, (f m).act.toControl = m.act.toControl
  set : ∀ m g, (f m).mapControl g = f (m.mapControl g)
  enableDriver : ∀ m enabled, (f m).enableDriver b' enabled =
    ((m.enableDriver b enabled).1, f (m.enableDriver b enabled).2)
  configureDriver : ∀ m config, (f m).configureDriver b' config =
    ((m.configureDriver b config).1, f (m.configureDriver b config).2)
  moveAbsolute : ∀ m target velocity accel, (f m).moveAbsolute b' target velocity accel =
    ((m.moveAbsolute b target velocity accel).1, f (m.moveAbsolute b target velocity accel).2)
  moveRelative : ∀ m delta velocity accel, (f m).moveRelative b' delta velocity accel =
    ((m.moveRelative b delta velocity accel).1, f (m.moveRelative b delta velocity accel).2)
  runVelocity : ∀ m velocity accel, (f m).runVelocity b' velocity accel =
    ((m.runVelocity b velocity accel).1, f (m.runVelocity b velocity accel).2)
  rampStop : ∀ m decel, (f m).rampStop b' decel = ((m.rampStop b decel).1, f (m.rampStop b decel).2)
  emergencyStop : ∀ m, (f m).emergencyStop b' = f (m.emergencyStop b)
  currentPosition : ∀ m, (f m).logicalCurrentPosition b' =
    ((m.logicalCurrentPosition b).1, f (m.logicalCurrentPosition b).2)
  motionActive : ∀ m, (f m).motionActive b' = ((m.motionActive b).1, f (m.motionActive b).2)
  saveConfig : ∀ m config, (f m).saveConfig b' config =
    ((m.saveConfig b config).1, f (m.saveConfig b config).2)
  resetConfigStorage : ∀ m, (f m).resetConfigStorage b' =
    ((m.resetConfigStorage b).1, f (m.resetConfigStorage b).2)
  reboot : ∀ m, (f m).reboot b' = f (m.reboot b)
  acks : ∀ m seq acked, (f m).sendAck (.cached down') seq acked = f (m.sendAck (.cached down) seq acked)
  errors : ∀ m seq rejected code, (f m).sendError (.cached down') seq rejected code =
    f (m.sendError (.cached down) seq rejected code)
  pongs : ∀ m seq,
    (f m).sendResponse (.cached down') (.respond .PONG PacketFlag.RESPONSE.bits seq 0 []) =
      f (m.sendResponse (.cached down) (.respond .PONG PacketFlag.RESPONSE.bits seq 0 []))
  identity : ∀ m seq, (f m).sendIdentity (.cached down') seq = f (m.sendIdentity (.cached down) seq)
  capabilities : ∀ m seq,
    (f m).sendCapabilities (.cached down') seq = f (m.sendCapabilities (.cached down) seq)
  status : ∀ m seq,
    (f m).sendStatus b' (.cached down') seq false = f (m.sendStatus b (.cached down) seq false)
  faults : ∀ m seq, (f m).sendFaults (.cached down') seq = f (m.sendFaults (.cached down) seq)
  counters : ∀ m seq,
    (f m).sendCounters b' (.cached down') seq = f (m.sendCounters b (.cached down) seq)
  configValue : ∀ m seq field,
    (f m).sendConfigValue (.cached down') seq field = f (m.sendConfigValue (.cached down) seq field)
  driverStatus : ∀ m seq,
    (f m).sendDriverStatus b' (.cached down') seq = f (m.sendDriverStatus b (.cached down) seq)
  event : ∀ m seq event severity detail value,
    (f m).sendEvent b' (.port down') seq event severity detail value =
      f (m.sendEvent b (.port down) seq event severity detail value)
  moveTo : ∀ m state, (f m).transitionTo b' state (some (.port down')) =
    f (m.transitionTo b state (some (.port down)))
  fails : ∀ m flag, (f m).setFault b' flag (some (.port down')) =
    f (m.setFault b flag (some (.port down)))

namespace Mirrors

variable {f : Machine → Machine} {b b' : MotionBackend} {down down' : Port}
  (mirrors : Mirrors f b b' down down') (m : Machine) (r : Packet)

include mirrors

/-! ## Ends of a handler -/

/-- An acknowledgement is mirrored. -/
theorem ack : (f m).ack down' r = f (m.ack down r) := mirrors.acks m ..

/-- A refusal is mirrored. -/
theorem refuse (code : ErrorCode) : (f m).refuse down' r code = f (m.refuse down r code) :=
  mirrors.errors m ..

/-- A fault with its refusal is mirrored. -/
theorem failWith (flag : FaultFlag) (code : ErrorCode) :
    (f m).failWith b' down' r flag code = f (m.failWith b down r flag code) := by
  unfold Machine.failWith
  rw [mirrors.fails]
  exact mirrors.refuse ..

/-- A case whose body is mirrored once the length is right. -/
theorem expectLength {len : UInt16} {body body' : Machine → Machine}
    (same : body' (f m) = f (body m)) :
    (f m).expectLength down' r len body' = f (m.expectLength down r len body) := by
  unfold Machine.expectLength
  split
  · exact mirrors.refuse ..
  · exact same

/-! ## Modes and stops -/

/-- A ping sends two packets, each mirrored. -/
theorem handlePing : (f m).handlePing down' r = f (m.handlePing down r) := by
  apply mirrors.expectLength
  rw [mirrors.ack]
  exact mirrors.pongs ..

/-- The driver is configured and switched on alike, or fails alike. -/
theorem enableFor (target : ActuatorState) :
    (f m).enableFor b' down' r target = f (m.enableFor b down r target) := by
  unfold Machine.enableFor
  rw [mirrors.control, mirrors.configureDriver]
  dsimp only
  split
  · exact mirrors.failWith ..
  · rw [mirrors.enableDriver]
    dsimp only
    split
    · exact mirrors.failWith ..
    · rw [mirrors.set, mirrors.moveTo]
      exact mirrors.ack ..

/-- The mode is chosen by members both sides share. -/
theorem selectMode (requested : UInt8) :
    (f m).selectMode b' down' r requested = f (m.selectMode b down r requested) := by
  unfold Machine.selectMode
  rw [mirrors.control]
  split
  · exact mirrors.refuse ..
  split
  · exact mirrors.refuse ..
  split
  · exact mirrors.refuse ..
  dsimp only
  rw [mirrors.set]
  split
  · rw [mirrors.enableDriver, mirrors.set, mirrors.moveTo]
    exact mirrors.ack ..
  · exact mirrors.enableFor ..
  · exact mirrors.enableFor ..

/-- An emergency stop asks two callbacks and changes the state. -/
theorem handleEstop : (f m).handleEstop b' down' r = f (m.handleEstop b down r) := by
  apply mirrors.expectLength
  rw [mirrors.emergencyStop, mirrors.enableDriver]
  dsimp only
  rw [mirrors.set, mirrors.moveTo]
  exact mirrors.ack ..

/-- A stop goes by the answer of the backend, which both sides share. -/
theorem stopMotion (decel : UInt32) :
    (f m).stopMotion b' down' r decel = f (m.stopMotion b down r decel) := by
  unfold Machine.stopMotion
  rw [mirrors.rampStop]
  dsimp only
  split
  · exact mirrors.failWith ..
  · rw [mirrors.moveTo, mirrors.set]
    exact mirrors.ack ..

/-- Whether anything moves is asked alike. -/
theorem rampToStop (decel : UInt32) :
    (f m).rampToStop b' down' r decel = f (m.rampToStop b down r decel) := by
  unfold Machine.rampToStop
  rw [mirrors.control]
  split
  · exact mirrors.stopMotion ..
  · rw [mirrors.motionActive]
    dsimp only
    split
    · exact mirrors.ack ..
    · exact mirrors.stopMotion ..

/-- The end of `CLEAR_FAULTS`. -/
theorem clearedRest {m m' : Machine} (same : m' = f m) :
    (if !m'.act.driverEnabled then
        (m'.transitionTo b' .DISABLED (some (.port down'))).mapControl fun c =>
          { c with controlMode := .DISABLED }
      else m'.transitionTo b' .IDLE (some (.port down'))).ack down' r =
      f ((if !m.act.driverEnabled then
        (m.transitionTo b .DISABLED (some (.port down))).mapControl fun c =>
          { c with controlMode := .DISABLED }
      else m.transitionTo b .IDLE (some (.port down))).ack down r) := by
  subst same
  rw [mirrors.control, mirrors.moveTo, mirrors.moveTo, mirrors.set, ← apply_ite f]
  exact mirrors.ack ..

/-- What is cleared and announced is in the members both sides share. -/
theorem handleClearFaults :
    (f m).handleClearFaults b' down' r = f (m.handleClearFaults b down r) := by
  apply mirrors.expectLength
  apply mirrors.clearedRest
  rw [mirrors.control, mirrors.set]
  split
  · exact mirrors.event ..
  · rfl

/-! ## Configuration -/

/-- What the checks let through is staged on both sides. -/
theorem stage (checked : Except ErrorCode ActuatorConfig) :
    (f m).stage b' down' r checked = f (m.stage b down r checked) := by
  unfold Machine.stage
  split
  · exact mirrors.refuse ..
  · rw [mirrors.set]
    dsimp only
    rw [mirrors.control, mirrors.moveTo, ← apply_ite f]
    exact mirrors.ack ..

theorem handleConfigStageField :
    (f m).handleConfigStageField b' down' r = f (m.handleConfigStageField b down r) := by
  unfold Machine.handleConfigStageField
  rw [mirrors.control]
  exact mirrors.stage ..

/-- The commit announces the new state and the configuration. -/
theorem commitStaged : (f m).commitStaged b' down' r = f (m.commitStaged b down r) := by
  unfold Machine.commitStaged
  rw [mirrors.set]
  dsimp only
  rw [mirrors.control, mirrors.moveTo, mirrors.control, mirrors.event]
  exact mirrors.ack ..

/-- What is staged is refused or handed to the driver alike. -/
theorem handleConfigApply :
    (f m).handleConfigApply b' down' r = f (m.handleConfigApply b down r) := by
  apply mirrors.expectLength
  rw [mirrors.control]
  split
  · exact mirrors.ack ..
  split
  · exact mirrors.refuse ..
  split
  · exact mirrors.failWith ..
  split
  · rw [mirrors.configureDriver]
    dsimp only
    split
    · exact mirrors.failWith ..
    · exact mirrors.commitStaged ..
  · exact mirrors.commitStaged ..

/-- A save is announced with the generation both sides share. -/
theorem handleConfigSave : (f m).handleConfigSave b' down' r = f (m.handleConfigSave b down r) := by
  apply mirrors.expectLength
  rw [mirrors.control, mirrors.saveConfig]
  dsimp only
  split
  · exact mirrors.failWith ..
  · rw [mirrors.set, mirrors.control, mirrors.event]
    exact mirrors.ack ..

/-- The driver and the store fail alike. -/
theorem resetDriver : (f m).resetDriver b' down' r = f (m.resetDriver b down r) := by
  unfold Machine.resetDriver
  rw [mirrors.control, mirrors.configureDriver]
  dsimp only
  split
  · exact mirrors.failWith ..
  rw [mirrors.resetConfigStorage]
  dsimp only
  split
  · exact mirrors.failWith ..
  · rw [mirrors.control, mirrors.event]
    exact mirrors.ack ..

/-- The defaults are written before the callbacks are asked. -/
theorem handleConfigResetDefaults :
    (f m).handleConfigResetDefaults b' down' r = f (m.handleConfigResetDefaults b down r) := by
  apply mirrors.expectLength
  rw [mirrors.control]
  split
  · exact mirrors.refuse ..
  · rw [mirrors.set]
    exact mirrors.resetDriver ..

theorem handleReboot : (f m).handleReboot b' down' r = f (m.handleReboot b down r) := by
  apply mirrors.expectLength
  rw [mirrors.ack]
  exact mirrors.reboot ..

/-! ## Motion -/

/-- A motion command ends alike where it is answered alike. -/
theorem startMotion (accepted : Option Bool) (state : ActuatorState) (mode : ControlMode) :
    (f m).startMotion b' down' r accepted state mode =
      f (m.startMotion b down r accepted state mode) := by
  unfold Machine.startMotion
  split
  · exact mirrors.failWith ..
  · rw [mirrors.moveTo]
    dsimp only
    rw [mirrors.set]
    exact mirrors.ack ..

/-- The checks read members both sides share. -/
theorem moveAbs (target : Int32) (velocity accel : UInt32) :
    (f m).moveAbs b' down' r target velocity accel = f (m.moveAbs b down r target velocity accel) := by
  unfold Machine.moveAbs
  rw [mirrors.control]
  dsimp only
  split
  · exact mirrors.refuse ..
  split
  · exact mirrors.refuse ..
  split
  · exact mirrors.failWith ..
  split
  · exact mirrors.refuse ..
  · rw [mirrors.moveAbsolute]
    exact mirrors.startMotion ..

/-- The position is read before anything is checked but whether motion is allowed. -/
theorem moveRel (delta : Int32) (velocity accel : UInt32) :
    (f m).moveRel b' down' r delta velocity accel = f (m.moveRel b down r delta velocity accel) := by
  unfold Machine.moveRel
  rw [mirrors.control]
  dsimp only
  split
  · exact mirrors.refuse ..
  rw [mirrors.currentPosition]
  dsimp only
  rw [mirrors.control]
  split
  · exact mirrors.refuse ..
  split
  · exact mirrors.failWith ..
  split
  · exact mirrors.refuse ..
  · rw [mirrors.moveRelative]
    exact mirrors.startMotion ..

/-- The checks read members both sides share, as those of a move do. -/
theorem runVel (velocity : Int32) (accel : UInt32) :
    (f m).runVel b' down' r velocity accel = f (m.runVel b down r velocity accel) := by
  unfold Machine.runVel
  rw [mirrors.control]
  dsimp only
  split
  · exact mirrors.refuse ..
  split
  · exact mirrors.refuse ..
  split
  · exact mirrors.refuse ..
  · rw [mirrors.runVelocity]
    exact mirrors.startMotion ..

/-- The interval enters both copies of the configuration. -/
theorem setTelemRate (interval : UInt16) :
    (f m).setTelemRate down' r interval = f (m.setTelemRate down r interval) := by
  unfold Machine.setTelemRate
  dsimp only
  rw [mirrors.set, mirrors.set]
  exact mirrors.ack ..

/-! ## The switch -/

/-- A request does to the one machine what it does to the other. -/
theorem dispatch : (f m).dispatch b' down' r = f (m.dispatch b down r) := by
  unfold Machine.dispatch
  split
  case h_1 => exact mirrors.handlePing ..
  case h_2 => exact mirrors.expectLength _ _ (mirrors.identity ..)
  case h_3 => exact mirrors.expectLength _ _ (mirrors.capabilities ..)
  case h_4 => exact mirrors.expectLength _ _ (mirrors.status ..)
  case h_5 => exact mirrors.expectLength _ _ (mirrors.faults ..)
  case h_6 => exact mirrors.expectLength _ _ (mirrors.counters ..)
  case h_7 => exact mirrors.expectLength _ _ (mirrors.ack ..)
  case h_8 => exact mirrors.expectLength _ _ (mirrors.selectMode ..)
  case h_9 => exact mirrors.handleEstop ..
  case h_10 => exact mirrors.expectLength _ _ (mirrors.rampToStop ..)
  case h_11 => exact mirrors.handleClearFaults ..
  case h_12 => exact mirrors.expectLength _ _ (mirrors.configValue ..)
  case h_13 => exact mirrors.handleConfigStageField ..
  case h_14 => exact mirrors.handleConfigApply ..
  case h_15 => exact mirrors.handleConfigSave ..
  case h_16 => exact mirrors.handleConfigResetDefaults ..
  case h_17 => exact mirrors.handleReboot ..
  case h_18 => exact mirrors.expectLength _ _ (mirrors.driverStatus ..)
  case h_19 => exact mirrors.expectLength _ _ (mirrors.moveAbs ..)
  case h_20 => exact mirrors.expectLength _ _ (mirrors.moveRel ..)
  case h_21 => exact mirrors.expectLength _ _ (mirrors.runVel ..)
  case h_22 => exact mirrors.expectLength _ _ (mirrors.setTelemRate ..)
  case h_23 => exact mirrors.failWith ..

end Mirrors

end Daft
