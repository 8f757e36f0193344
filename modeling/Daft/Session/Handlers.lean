import Daft.Session.Walks

/-!
# Handlers and ticks as walks

One lemma for each case of `handle_packet`, and one for each part of `update`. Requests
announce to the port they came with, a tick to the one it was given.
-/

namespace Daft

open Logic

section

variable {b : MotionBackend} {down : Port} {r : Packet} {m m' : Machine}

/-- A request of the wrong length is refused. -/
theorem Handles.expectLength {length : UInt16} {body : Machine → Machine}
    (handles : Handles b down r m (body m)) :
    Handles b down r m (m.expectLength down r length body) := by
  unfold Machine.expectLength
  split
  · exact Walk.refl.refuse _
  · exact handles

/-- Two packets answer a `PING`, the only request that has more than one. -/
theorem handlePing_handles (id : r.msgId = MsgId.PING.byte) :
    Handles b down r m (m.handlePing down r) := by
  apply Handles.expectLength
  have acked : Walk b (some down) m [ackPacket r.seq r.msgId] (m.ack down r) :=
    Walk.refl.respond rfl rfl (Packet.respond_legal (by decide)) rfl
      (by decide : MsgId.ACK.byte ≠ MsgId.ERROR.byte)
  exact ⟨_, acked.respond rfl rfl (Packet.respond_legal (by decide)) rfl
      (by decide : MsgId.PONG.byte ≠ MsgId.ERROR.byte),
    .ponged id ⟨rfl, rfl, rfl, rfl⟩⟩

/-- A field that is not known is an error of the query, as a wrong length is. -/
theorem handleConfigQuery_handles (id : r.msgId = MsgId.CONFIG_QUERY.byte) :
    Handles b down r m (m.handleConfigQuery down r) := by
  apply Handles.expectLength
  unfold Machine.sendConfigValue
  split
  · have refused : Handles b down r m (m.refuse down r .ERR_INVALID_FIELD) := Walk.refl.refuse _
    unfold Machine.refuse at refused
    rwa [id] at refused
  · exact Walk.refl.answer id rfl rfl ⟨rfl, rfl, rfl, rfl⟩

/-- The status asks where the motor is, where it goes and how fast, then the time. -/
theorem sendStatus_handles (id : r.msgId = MsgId.GET_STATUS.byte) :
    Handles b down r m (m.sendStatus b (.cached down) r.seq false) := by
  have idle : Walk b (some down) m [] m := .refl
  have asked := ((idle.ask b.currentPosition .currentPosition).ask b.targetPosition
    .targetPosition).ask b.currentSpeed .currentSpeed
  exact (asked.ask b.millis .millis).answer id rfl rfl ⟨rfl, rfl, rfl, rfl⟩

/-- A driver that does not answer is a fault, and its status is sent all the same. -/
theorem sendDriverStatus_handles (id : r.msgId = MsgId.GET_DRIVER_STATUS.byte) :
    Handles b down r m (m.sendDriverStatus b (.cached down) r.seq) := by
  have asked : Walk b (some down) m [] (m.ask b.driverStatus .driverStatus).2 :=
    Walk.refl.ask ..
  unfold Machine.sendDriverStatus Machine.driverStatus
  generalize m.ask b.driverStatus .driverStatus = read at *
  unfold Machine.reportDriverStatus
  dsimp only
  split
  · have port : (some (ResponseWriter.cached down)).map ResponseWriter.downstream = some down := rfl
    have announced := (asked.fails .DRIVER_UART port).announce
      (w := .cached down) rfl r.seq .DRIVER_UART_FAILURE .ERROR 0 (read.1.getD {}).rawStatus
      (by decide)
    exact announced.answer id rfl rfl ⟨rfl, rfl, rfl, rfl⟩
  · exact asked.answer id rfl rfl ⟨rfl, rfl, rfl, rfl⟩

variable (acked : r.Acked)

include acked

/-- The driver is configured, then switched on; either may fail. -/
theorem enableFor_handles (walk : Walk b (some down) m [] m') (target : ActuatorState) :
    Handles b down r m (m'.enableFor b down r target) := by
  have configured := walk.ask (b.configureDriver.map fun f h => f h m'.act.activeConfig.driver)
    (.configureDriver m'.act.activeConfig.driver)
  unfold Machine.enableFor Machine.configureDriver
  generalize m'.ask _ (Call.configureDriver _) = first at *
  dsimp only
  split
  · exact configured.failWith ..
  · have enabled := configured.ask (b.enableDriver.map fun f h => f h true) (.enableDriver true)
    unfold Machine.enableDriver
    generalize first.2.ask _ (Call.enableDriver true) = second at *
    split
    · exact enabled.failWith ..
    · have set := enabled.set (fun c => { c with driverEnabled := true }) (fun _ => rfl) fun _ => rfl
      exact (set.moveTo target rfl).ack acked

/-- What refuses a mode, in the order it is checked, then what the mode asks for. -/
theorem selectMode_handles (requested : UInt8) :
    Handles b down r m (m.selectMode b down r requested) := by
  unfold Machine.selectMode
  dsimp only
  split
  · exact Walk.refl.refuse _
  split
  · exact Walk.refl.refuse _
  split
  · exact Walk.refl.refuse _
  · have selected : Walk b (some down) m [] _ := Walk.refl.set
      (fun c => { c with controlMode := ControlMode.ofByte requested }) (fun _ => rfl) fun _ => rfl
    split
    · have disabled := (selected.ask (b.enableDriver.map fun f h => f h false)
        (.enableDriver false)).set (fun c => { c with driverEnabled := false }) (fun _ => rfl)
          fun _ => rfl
      exact (disabled.moveTo .DISABLED rfl).ack acked
    · exact enableFor_handles acked selected .COMMISSIONING
    · exact enableFor_handles acked selected .IDLE

/-- An emergency stop asks nobody whether it worked. -/
theorem handleEstop_handles : Handles b down r m (m.handleEstop b down r) := by
  apply Handles.expectLength
  have stopped : Walk b (some down) m [] _ := (Walk.refl.ask (b.emergencyStop.map fun _ _ => ())
    fun _ => .emergencyStop).ask (b.enableDriver.map fun f h => f h false) (.enableDriver false)
  have disabled := stopped.set (fun c => { c with driverEnabled := false, controlMode := .DISABLED })
    (fun _ => rfl) fun _ => rfl
  exact (disabled.moveTo .FAULTED rfl).ack acked

theorem stopMotion_handles (walk : Walk b (some down) m [] m') (decel : UInt32) :
    Handles b down r m (m'.stopMotion b down r decel) := by
  have stopped := walk.ask (b.rampStop.map fun f h => f h decel) (.rampStop decel)
  unfold Machine.stopMotion Machine.rampStop
  generalize m'.ask _ (Call.rampStop _) = asked at *
  dsimp only
  split
  · exact stopped.failWith ..
  · exact ((stopped.moveTo .STOPPING rfl).set (fun c => { c with controlMode := .POSITION })
      (fun _ => rfl) fun _ => rfl).ack acked

/-- Out of motion the backend is asked whether anything moves after all. -/
theorem rampToStop_handles (decel : UInt32) :
    Handles b down r m (m.rampToStop b down r decel) := by
  unfold Machine.rampToStop
  split
  · exact stopMotion_handles acked .refl _
  · have active : Walk b (some down) m [] (m.ask b.motionActive .motionActive).2 :=
      Walk.refl.ask ..
    unfold Machine.motionActive
    generalize m.ask b.motionActive .motionActive = asked at *
    dsimp only
    split
    · exact active.ack acked
    · exact stopMotion_handles acked active _

/-- The word is emptied before it is announced: the one step that lowers faults. -/
theorem handleClearFaults_handles : Handles b down r m (m.handleClearFaults b down r) := by
  apply Handles.expectLength
  have emptied : Walk b (some down) m [] (m.mapControl fun c => { c with faults := 0 }) := by
    refine Walk.refl.quiet rfl rfl rfl rfl ?_
    intro bit up
    replace up : faultUp 0 bit = true := up
    rw [faultUp, UInt32.toNat_zero, Nat.zero_testBit] at up
    cases up
  have announced : Walk b (some down) m [] (if m.act.faults ≠ 0 then
        (m.mapControl fun c => { c with faults := 0 }).sendEvent b (.port down) r.seq
          .FAULT_CLEARED .INFO 0 m.act.faults
      else m.mapControl fun c => { c with faults := 0 }) := by
    split
    · exact emptied.announce rfl r.seq .FAULT_CLEARED .INFO 0 _ (by decide)
    · exact emptied
  dsimp only
  generalize (if m.act.faults ≠ 0 then _ else _ : Machine) = cleared at *
  split
  · exact ((announced.moveTo .DISABLED rfl).set (fun c => { c with controlMode := .DISABLED })
      (fun _ => rfl) fun _ => rfl).ack acked
  · exact (announced.moveTo .IDLE rfl).ack acked

/-- Staging says nothing of the state while the motor moves. -/
theorem stage_handles (checked : Except ErrorCode ActuatorConfig) :
    Handles b down r m (m.stage b down r checked) := by
  unfold Machine.stage
  split
  · exact Walk.refl.refuse _
  case h_2 candidate =>
    have staged : Walk b (some down) m [] _ := Walk.refl.set
      (fun c => { c with stagedConfig := candidate, configStaged := true }) (fun _ => rfl) fun _ => rfl
    dsimp only
    split
    · exact (staged.moveTo .CONFIG_STAGED rfl).ack acked
    · exact staged.ack acked

theorem commitStaged_handles (walk : Walk b (some down) m [] m') :
    Handles b down r m (m'.commitStaged b down r) := by
  have committed := walk.set
    (fun c => { c with activeConfig := c.stagedConfig, configStaged := false }) (fun _ => rfl)
    fun _ => rfl
  exact ((committed.moveTo _ rfl).announce (w := .port down) rfl 0 .CONFIG_APPLIED .INFO configVersion _
    (by decide)).ack acked

/-- Nothing staged is acknowledged; a driver setting that changes is sent to the driver first. -/
theorem handleConfigApply_handles : Handles b down r m (m.handleConfigApply b down r) := by
  apply Handles.expectLength
  split
  · exact Walk.refl.ack acked
  split
  · exact Walk.refl.refuse _
  split
  · exact Walk.refl.failWith ..
  split
  · have configured : Walk b (some down) m [] _ := Walk.refl.ask
      (b.configureDriver.map fun f h => f h m.act.stagedConfig.driver)
      (.configureDriver m.act.stagedConfig.driver)
    unfold Machine.configureDriver
    generalize m.ask _ (Call.configureDriver _) = asked at *
    dsimp only
    split
    · exact configured.failWith ..
    · exact commitStaged_handles acked configured
  · exact commitStaged_handles acked .refl

/-- The generation counts the saves that succeeded. -/
theorem handleConfigSave_handles : Handles b down r m (m.handleConfigSave b down r) := by
  apply Handles.expectLength
  have saved : Walk b (some down) m [] _ := Walk.refl.ask
    (b.saveConfig.map fun f h => f h m.act.activeConfig) (.saveConfig m.act.activeConfig)
  unfold Machine.saveConfig
  generalize m.ask _ (Call.saveConfig _) = asked at *
  dsimp only
  split
  · exact saved.failWith ..
  · have counted := saved.set (fun c => { c with configGeneration := c.configGeneration + 1 })
      (fun _ => rfl) fun _ => rfl
    exact (counted.announce (w := .port down) rfl r.seq .CONFIG_SAVED .INFO configVersion _
      (by decide)).ack acked

/-- The driver, then the storage. -/
theorem resetDriver_handles (walk : Walk b (some down) m [] m') :
    Handles b down r m (m'.resetDriver b down r) := by
  have configured := walk.ask (b.configureDriver.map fun f h => f h m'.act.activeConfig.driver)
    (.configureDriver m'.act.activeConfig.driver)
  unfold Machine.resetDriver Machine.configureDriver
  generalize m'.ask _ (Call.configureDriver _) = first at *
  dsimp only
  split
  · exact configured.failWith ..
  · have erased := configured.ask b.resetConfigStorage .resetConfigStorage
    unfold Machine.resetConfigStorage
    generalize first.2.ask b.resetConfigStorage .resetConfigStorage = second at *
    split
    · exact erased.failWith ..
    · exact (erased.announce (w := .port down) rfl r.seq .CONFIG_APPLIED .INFO configVersion _
        (by decide)).ack acked

theorem handleConfigResetDefaults_handles :
    Handles b down r m (m.handleConfigResetDefaults b down r) := by
  apply Handles.expectLength
  split
  · exact Walk.refl.refuse _
  · exact resetDriver_handles acked (Walk.refl.set
      (fun c => { c with activeConfig := c.defaults, stagedConfig := c.defaults,
                         configStaged := false }) (fun _ => rfl) fun _ => rfl)

/-- The answer is out before the backend is told to restart. -/
theorem handleReboot_handles : Handles b down r m (m.handleReboot b down r) := by
  apply Handles.expectLength
  have answered : Handles b down r m (m.ack down r) := Walk.refl.ack acked
  obtain ⟨replies, walk, reply⟩ := answered
  exact ⟨replies, walk.ask _ _, reply⟩

/-- The end of all three motions. -/
theorem startMotion_handles (walk : Walk b (some down) m [] m') (accepted : Option Bool)
    (state : ActuatorState) (mode : ControlMode) :
    Handles b down r m (m'.startMotion b down r accepted state mode) := by
  unfold Machine.startMotion
  split
  · exact walk.failWith ..
  · exact ((walk.moveTo state rfl).set (fun c => { c with controlMode := mode }) (fun _ => rfl)
      fun _ => rfl).ack acked

theorem moveAbs_handles (target : Int32) (velocity accel : UInt32) :
    Handles b down r m (m.moveAbs b down r target velocity accel) := by
  unfold Machine.moveAbs
  dsimp only
  split
  · exact Walk.refl.refuse _
  split
  · exact Walk.refl.refuse _
  split
  · exact Walk.refl.failWith ..
  split
  · exact Walk.refl.refuse _
  · exact startMotion_handles acked (Walk.refl.ask _ _) _ _ _

/-- The position is read once motion is allowed, and all that follows comes after it. -/
theorem moveRel_handles (delta : Int32) (velocity accel : UInt32) :
    Handles b down r m (m.moveRel b down r delta velocity accel) := by
  have read : Walk b (some down) m [] (m.ask b.currentPosition .currentPosition).2 :=
    Walk.refl.ask ..
  unfold Machine.moveRel Machine.logicalCurrentPosition
  generalize m.ask b.currentPosition .currentPosition = asked at *
  dsimp only
  split
  · exact Walk.refl.refuse _
  split
  · exact read.refuse _
  split
  · exact read.failWith ..
  split
  · exact read.refuse _
  · exact startMotion_handles acked (read.ask _ _) _ _ _

theorem runVel_handles (velocity : Int32) (accel : UInt32) :
    Handles b down r m (m.runVel b down r velocity accel) := by
  unfold Machine.runVel
  dsimp only
  split
  · exact Walk.refl.refuse _
  split
  · exact Walk.refl.refuse _
  split
  · exact Walk.refl.refuse _
  · exact startMotion_handles acked (Walk.refl.ask _ _) _ _ _

/-- The interval is set in the active configuration and then in the staged one. -/
theorem setTelemRate_handles (interval : UInt16) :
    Handles b down r m (m.setTelemRate down r interval) := by
  have active : Walk b (some down) m [] _ := Walk.refl.set
    (fun c => { c with activeConfig.telemetry.intervalMs := interval }) (fun _ => rfl) fun _ => rfl
  refine (active.set _ ?_ ?_).ack acked
  · intro c
    dsimp only
    split <;> rfl
  · intro c
    dsimp only
    split <;> rfl

omit acked in
/-- Every request is answered, and all it does is a walk. -/
theorem dispatch_handles : Handles b down r m (m.dispatch b down r) := by
  have acked {msg : MsgId} (found : MsgId.ofByte r.msgId = some msg)
      (expects : msg.response = some .ACK) : r.Acked := ⟨msg, MsgId.byte_of_ofByte found, expects⟩
  unfold Machine.dispatch
  split
  case h_1 found => exact handlePing_handles (MsgId.byte_of_ofByte found)
  case h_2 found =>
    exact .expectLength (Walk.refl.answer (MsgId.byte_of_ofByte found) rfl rfl ⟨rfl, rfl, rfl, rfl⟩)
  case h_3 found =>
    exact .expectLength (Walk.refl.answer (MsgId.byte_of_ofByte found) rfl rfl ⟨rfl, rfl, rfl, rfl⟩)
  case h_4 found => exact .expectLength (sendStatus_handles (MsgId.byte_of_ofByte found))
  case h_5 found =>
    exact .expectLength (Walk.refl.answer (MsgId.byte_of_ofByte found) rfl rfl ⟨rfl, rfl, rfl, rfl⟩)
  case h_6 found =>
    exact .expectLength ((Walk.refl.ask b.millis .millis).answer (MsgId.byte_of_ofByte found) rfl
      rfl ⟨rfl, rfl, rfl, rfl⟩)
  case h_7 found => exact .expectLength (Walk.refl.ack (acked found rfl))
  case h_8 found => exact .expectLength (selectMode_handles (acked found rfl) _)
  case h_9 found => exact handleEstop_handles (acked found rfl)
  case h_10 found => exact .expectLength (rampToStop_handles (acked found rfl) _)
  case h_11 found => exact handleClearFaults_handles (acked found rfl)
  case h_12 found => exact handleConfigQuery_handles (MsgId.byte_of_ofByte found)
  case h_13 found => exact stage_handles (acked found rfl) _
  case h_14 found => exact handleConfigApply_handles (acked found rfl)
  case h_15 found => exact handleConfigSave_handles (acked found rfl)
  case h_16 found => exact handleConfigResetDefaults_handles (acked found rfl)
  case h_17 found => exact handleReboot_handles (acked found rfl)
  case h_18 found => exact .expectLength (sendDriverStatus_handles (MsgId.byte_of_ofByte found))
  case h_19 found => exact .expectLength (moveAbs_handles (acked found rfl) ..)
  case h_20 found => exact .expectLength (moveRel_handles (acked found rfl) ..)
  case h_21 found => exact .expectLength (runVel_handles (acked found rfl) ..)
  case h_22 found => exact .expectLength (setTelemRate_handles (acked found rfl) _)
  case h_23 => exact Walk.refl.failWith ..

end

/-! ## Ticks -/

section

variable {b : MotionBackend} {heard : Option Port} {m m' : Machine}
  {events : Option ResponseWriter} (walk : Walk b heard m [] m')

include walk

variable (port : events.map ResponseWriter.downstream = heard)

include port

/-- The boot reason is announced once, on the first tick that has a writer. -/
theorem updateBoot_walks : Walk b heard m [] (m'.updateBoot b events) := by
  unfold Machine.updateBoot
  cases events with
  | none => exact walk
  | some w =>
    dsimp only
    split
    · exact (walk.announce port 0 .BOOT_REASON .INFO _ _ (by decide)).set
        (fun c => { c with bootEventPending := false }) (fun _ => rfl) fun _ => rfl
    · exact walk

/-- A motion that is over ends in the state the driver's outputs tell. -/
theorem updateMotion_walks : Walk b heard m [] (m'.updateMotion b events) := by
  unfold Machine.updateMotion
  split
  case isFalse => exact walk
  case isTrue =>
    have active := walk.ask b.motionActive .motionActive
    unfold Machine.motionActive
    generalize m'.ask b.motionActive .motionActive = asked at *
    dsimp only
    split
    · exact (active.moveTo _ port).set
        (fun c => { c with controlMode := if c.driverEnabled then .POSITION else .DISABLED })
        (fun _ => rfl) fun _ => rfl
    · exact active

/-- Both ways the host timeout may be configured to stop the motor. -/
theorem timeoutAction_walks : Walk b heard m [] (m'.timeoutAction b events) := by
  unfold Machine.timeoutAction
  split
  · have stopped := (walk.ask (b.emergencyStop.map fun _ _ => ()) fun _ => .emergencyStop).ask
      (b.enableDriver.map fun f h => f h false) (.enableDriver false)
    exact (stopped.set (fun c => { c with driverEnabled := false, controlMode := .DISABLED })
      (fun _ => rfl) fun _ => rfl).moveTo .FAULTED port
  · exact ((walk.ask _ _).moveTo .STOPPING port).set (fun c => { c with controlMode := .POSITION })
      (fun _ => rfl) fun _ => rfl

/-- The fault, its event, then the stop. -/
theorem updateTimeout_walks (now : UInt32) :
    Walk b heard m [] (m'.updateTimeout b now events) := by
  unfold Machine.updateTimeout
  split
  case isFalse => exact walk
  case isTrue =>
    have failed := walk.fails .HOST_TIMEOUT port
    cases events with
    | none => exact timeoutAction_walks failed port
    | some w =>
      exact timeoutAction_walks (failed.announce port 0 .HOST_TIMEOUT .ERROR _ _ (by decide)) port

end

/-- A tick answers nobody. -/
theorem update_walks {b : MotionBackend} {m : Machine} (events : Option Port) :
    Walk b events m [] (m.update b events) := by
  have port : (events.map ResponseWriter.port).map ResponseWriter.downstream = events := by
    cases events <;> rfl
  have clock : Walk b events m [] (m.nowMs b).2 := Walk.refl.ask b.millis .millis
  exact updateTimeout_walks (updateMotion_walks (updateBoot_walks clock port) port) port _

end Daft
