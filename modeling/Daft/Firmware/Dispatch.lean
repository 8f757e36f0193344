import Daft.Firmware.Served

/-!
# Dispatch does what `Served` says

One lemma for each handler, in the order of the switch, each following the
handler's own branches; `dispatch_serves` collects them.
-/

namespace Daft

open Logic

/-- `m'` is `m` after a request that ends in one of the cases of `Served`. -/
def Serves (b : MotionBackend) (r : Packet) (m m' : Machine) : Prop :=
  ∃ calls responses c, Served b m.calls r m.act.toControl calls responses c ∧
    Effect m calls responses c m'

variable {b : MotionBackend} {down : Port} {r : Packet} {m : Machine}

/-- A handler serves a request if its effect is one of the outcomes. -/
theorem Serves.of {m' : Machine} {calls : List Call} {responses : List Packet} {c : Control}
    (served : Served b m.calls r m.act.toControl calls responses c)
    (effect : Effect m calls responses c m') : Serves b r m m' :=
  ⟨calls, responses, c, served, effect⟩

/-- Every refusal is an outcome. -/
theorem Serves.refuse {m' : Machine} {calls : List Call} {code : ErrorCode}
    (refusal : Refusal b m.calls r m.act.toControl calls code)
    (effect : Effect m calls [] m.act.toControl m') : Serves b r m (m'.refuse down r code) :=
  .of (.refused refusal) (effect.refuse code)

/-- The length check, for the id the case is for. -/
theorem Serves.expectLength {msg : MsgId} {length : UInt16} {body : Machine → Machine}
    (id : r.msgId = msg.byte) (expects : msg.requestLength = some length)
    (served : r.Asks msg → Serves b r m (body m)) :
    Serves b r m (m.expectLength down r length body) := by
  simp only [Machine.expectLength]
  split
  case isTrue wrong => exact .refuse (.badPayload id expects wrong) (.refl m)
  case isFalse right => exact served ⟨id, by rw [expects, Decidable.not_not.mp right]⟩

theorem handlePing_serves (id : r.msgId = MsgId.PING.byte) : Serves b r m (m.handlePing down r) :=
  .expectLength id rfl fun asks =>
    .of (.ponged asks) ((Effect.refl m).ack.respond _)

/-- `m'` is `m` after one response to `r`, sent after reading at most the position. -/
structure Reports (r : Packet) (m : Machine) (calls : List Call) (response : Packet)
    (m' : Machine) : Prop where
  effect : Effect m calls [response] m.act.toControl m'
  reads : OnlyReads calls
  flags : response.flags = PacketFlag.RESPONSE.bits
  seq : response.seq = r.seq

/-- A query reads and reports, and changes nothing. -/
theorem handleQuery_serves {msg : MsgId} {send : Machine → ResponseWriter → UInt16 → Machine}
    {calls : List Call} {response : Packet} (id : r.msgId = msg.byte) (query : msg.isQuery = true)
    (expects : msg.requestLength = some 0)
    (reports : Reports r m calls response (send m (.cached down) r.seq)) :
    Serves b r m (m.handleQuery down r send) :=
  .expectLength id expects fun asks =>
    .of (.answered query asks reports.reads reports.flags reports.seq) reports.effect

/-- A report without a call. -/
theorem Reports.sent (response : Packet) (flags : response.flags = PacketFlag.RESPONSE.bits)
    (seq : response.seq = r.seq) :
    Reports r m [] response (m.sendResponse (.cached down) response) :=
  ⟨(Effect.refl m).respond response, .nil, flags, seq⟩

/-- Uptime is read off the clock, which is no call that matters. -/
theorem sendCounters_reports :
    ∃ response, Reports r m [] response (m.sendCounters b (.cached down) r.seq) := by
  refine ⟨_, (Effect.nowMs m b).respond _, .nil, ?flags, ?seq⟩
  case flags => rfl
  case seq => rfl

/-- A status reads the position, the target and the speed. -/
theorem sendStatus_reports :
    ∃ calls response, Reports r m calls response (m.sendStatus b (.cached down) r.seq false) := by
  have read := (Effect.logicalCurrentPosition m b).keep (Effect.logicalTargetPosition _ b)
  have asked := (read.keep (Effect.logicalCurrentSpeed _ b)).keep (Effect.nowMs _ b)
  refine ⟨_, _, asked.respond _, ?reads, ?flags, ?seq⟩
  case reads =>
    rw [Effect.answer]
    exact positionRead_reads b m.calls
  case flags => rfl
  case seq => rfl

/-- A query for a field without a value is refused. -/
theorem handleConfigQuery_serves (id : r.msgId = MsgId.CONFIG_QUERY.byte) :
    Serves b r m (m.handleConfigQuery down r) := by
  apply Serves.expectLength id rfl
  intro asks
  simp only [Machine.sendConfigValue]
  split
  case h_1 unknown =>
    rw [← id]
    exact .refuse (.unknownField asks unknown) (.refl m)
  case h_2 value _ =>
    refine .of (.answered (rfl : MsgId.CONFIG_QUERY.isQuery = true) asks ?reads ?flags ?seq)
      ((Effect.refl m).respond _)
    case reads => exact .nil
    case flags => rfl
    case seq => rfl

theorem handleHeartbeat_serves (id : r.msgId = MsgId.HEARTBEAT.byte) :
    Serves b r m (m.handleHeartbeat down r) :=
  .expectLength id rfl fun asks => .of (.heard (.inl asks)) (Effect.refl m).ack

/-- The answer goes out before the restart. -/
theorem handleReboot_serves (id : r.msgId = MsgId.REBOOT.byte) :
    Serves b r m (m.handleReboot b down r) := by
  refine .expectLength id rfl fun asks => .of (.heard (.inr asks)) ?_
  have acked : Effect m [] _ _ (m.ack down r) := (Effect.refl m).ack
  exact acked.keep (Effect.ask_quiet _ _ _ fun _ => rfl)

/-- Events of a driver status query go through the caching writer: at most three, the
failure announced last. -/
theorem reportDriverStatus_effect (b : MotionBackend) (down : Port) (r : Packet) (m : Machine)
    {status : DriverStatus} (failing : status.uartFailing = true) :
    ∃ responses now, responses.length ≤ cacheCapacity ∧
      eventPacket r.seq .DRIVER_UART_FAILURE .ERROR 0 status.rawStatus now ∈ responses ∧
      Effect m [] responses (m.act.withFault .DRIVER_UART)
        (m.reportDriverStatus b (.cached down) r.seq status) := by
  obtain ⟨faults, keeps, faulted⟩ := Effect.setFault m b (some (.cached down)) .DRIVER_UART
  obtain ⟨now, failed⟩ := Effect.sendEvent (m.setFault b .DRIVER_UART (some (.cached down))) b
    (.cached down) r.seq .DRIVER_UART_FAILURE .ERROR 0 status.rawStatus
  simp only [Machine.reportDriverStatus, failing, if_true]
  refine ⟨_, now, ?few, ?announced, (faulted.keep failed).respond _⟩
  · have := keeps.length
    simp [Effect.kept, ResponseWriter.caches, cacheCapacity]
    omega
  · simp [Effect.kept, ResponseWriter.caches]

/-- A driver that does not answer over the UART raises its fault before it is reported. -/
theorem sendDriverStatus_serves (asks : r.Asks .GET_DRIVER_STATUS) :
    Serves b r m (m.sendDriverStatus b (.cached down) r.seq) := by
  have called := Effect.ask m b.driverStatus .driverStatus fun _ => rfl
  have answer := Effect.answer m b.driverStatus .driverStatus
  simp only [Machine.sendDriverStatus, Machine.driverStatus]
  generalize m.ask b.driverStatus .driverStatus = asked at *
  cases failing : (asked.1.getD {}).uartFailing with
  | true =>
    obtain ⟨responses, now, few, -, reported⟩ :=
      reportDriverStatus_effect b down r asked.2 failing
    rw [called.control] at reported
    exact .of (.uartFailed asks answer failing few) (called.trans reported)
  | false =>
    simp only [Machine.reportDriverStatus, failing, Bool.false_eq_true, if_false]
    refine .of (.driverRead asks answer failing ?flags ?seq) (called.respond _)
    case flags => rfl
    case seq => rfl

/-! ## Modes and stops -/

/-- `configure_driver` called after a change of the control part alone. -/
theorem configureDriver_prepared {f : Control → Control} {prepared : Machine}
    (prepare : prepared = m.mapControl f) (config : Tmc2209Config) :
    Effect m (logged (.configureDriver config) (prepared.configureDriver b config).1) []
        (f m.act.toControl) (prepared.configureDriver b config).2 ∧
      (prepared.configureDriver b config).1 = b.configureDriver.map (fun g => g m.calls config) ∧
      (prepared.configureDriver b config).2.calls =
        logged (.configureDriver config) (prepared.configureDriver b config).1 ++ m.calls := by
  subst prepare
  refine ⟨?effect, Effect.answer_map .., Effect.ask_calls ..⟩
  case effect =>
    exact (Effect.mapControl m f).calling (Effect.configureDriver (m.mapControl f) b config)

/-- The machine `selected` is `m` with the requested mode written. -/
theorem enableFor_serves {mode : ControlMode} {selected : Machine} {target : ActuatorState}
    (request : ModeRequest r m.act.toControl mode) (enabling : mode ≠ .DISABLED)
    (select : selected = m.mapControl fun c => { c with controlMode := mode })
    (state : target = if mode = .COMMISSIONING then .COMMISSIONING else .IDLE) :
    Serves b r m (selected.enableFor b down r target) := by
  have driver : selected.act.activeConfig.driver = m.act.activeConfig.driver := by rw [select]; rfl
  simp only [Machine.enableFor, driver]
  obtain ⟨configured, configuring, after⟩ :=
    configureDriver_prepared (b := b) select m.act.activeConfig.driver
  generalize selected.configureDriver b m.act.activeConfig.driver = first at *
  split
  case isTrue failed =>
    rw [failed] at configured
    exact .of (.modeConfigureFailed request enabling (configuring.symm.trans failed))
      (configured.failWith .DRIVER .ERR_BAD_STATE)
  case isFalse accepted =>
    have enabled := configured.keep (Effect.enableDriver first.2 b true)
    have switching : (first.2.enableDriver b true).1 = b.enableDriver.map fun f =>
        f (logged (.configureDriver m.act.activeConfig.driver) first.1 ++ m.calls) true := by
      rw [Machine.enableDriver, Effect.answer_map, after]
    generalize first.2.enableDriver b true = second at *
    split
    case isTrue failed =>
      rw [failed] at enabled
      exact .of (.modeEnableFailed request enabling configuring accepted
        (switching.symm.trans failed)) (enabled.failWith .DRIVER .ERR_BAD_STATE)
    case isFalse switched =>
      subst state
      exact .of (.enabled request enabling configuring accepted switching switched)
        ((enabled.set fun c => { c with driverEnabled := true }).moveTo _ (.port down)).ack

/-- The mode is taken before the driver is asked, so the outcomes differ in how far it came.
-/
theorem handleSetControlMode_serves (id : r.msgId = MsgId.SET_CONTROL_MODE.byte) :
    Serves b r m (m.handleSetControlMode b down r) := by
  apply Serves.expectLength id rfl
  intro asks
  unfold Machine.selectMode
  dsimp only
  split
  case isTrue undeclared => exact .refuse (.modeRange asks undeclared) (.refl m)
  case isFalse declared =>
  split
  case isTrue latched => exact .refuse (.modeFaulted asks latched.1 latched.2) (.refl m)
  case isFalse unlatched =>
  split
  case isTrue motion => exact .refuse (.modeBusy asks motion) (.refl m)
  case isFalse still =>
    have request : ModeRequest r m.act.toControl (ControlMode.ofByte r.payload[0]) :=
      ⟨asks, declared, unlatched, by simpa using still, rfl⟩
    generalize ControlMode.ofByte r.payload[0] = mode at request
    cases mode with
    | DISABLED =>
      have disabled := (Effect.mapControl m fun c => { c with controlMode := .DISABLED }).calling
        (Effect.enableDriver _ b false)
      exact .of (.disabled request (Effect.answer_map ..))
        ((disabled.set fun c => { c with driverEnabled := false }).moveTo .DISABLED (.port down)).ack
    | COMMISSIONING => exact enableFor_serves request (by decide) rfl rfl
    | POSITION => exact enableFor_serves request (by decide) rfl rfl
    | VELOCITY => exact enableFor_serves request (by decide) rfl rfl

/-- An emergency stop has one outcome: stopped, switched off and faulted. -/
theorem handleEstop_serves (id : r.msgId = MsgId.ESTOP.byte) :
    Serves b r m (m.handleEstop b down r) := by
  apply Serves.expectLength id rfl
  intro asks
  have stopped := Effect.emergencyStop m b
  have calls := Effect.ask_calls m (b.emergencyStop.map fun _ _ => ()) fun _ => .emergencyStop
  rw [Effect.answer_map, Option.map_id'] at calls
  have switching : ((m.emergencyStop b).enableDriver b false).1 = b.enableDriver.map fun f =>
      f (logged (fun _ => .emergencyStop) b.emergencyStop ++ m.calls) false := by
    rw [Machine.enableDriver, Effect.answer_map, ← calls]
    rfl
  have disabled := stopped.keep (Effect.enableDriver (m.emergencyStop b) b false)
  exact .of (.estopped asks rfl switching)
    ((disabled.set fun c => { c with driverEnabled := false, controlMode := .DISABLED }).moveTo
      .FAULTED (.port down)).ack

/-- A stop that the backend accepts leads to `STOPPING`, any other to the driver fault. -/
theorem stopMotion_serves {before : List Call} {asked : Machine}
    (request : RampRequest b m.calls r m.act.toControl before)
    (effect : Effect m before [] m.act.toControl asked) (calls : asked.calls = before ++ m.calls) :
    Serves b r m (asked.stopMotion b down r (readU32 (r.at 0))) := by
  have ramp := effect.keep (Effect.rampStop asked b (readU32 (r.at 0)))
  have answer : (asked.rampStop b (readU32 (r.at 0))).1 =
      b.rampStop.map fun f => f (before ++ m.calls) (readU32 (r.at 0)) := by
    rw [Machine.rampStop, Effect.answer_map, calls]
  simp only [Machine.stopMotion]
  generalize asked.rampStop b (readU32 (r.at 0)) = stopped at *
  split
  case isTrue failed =>
    exact .of (.rampFailed request answer failed) (ramp.failWith .DRIVER .ERR_BAD_STATE)
  case isFalse accepted =>
    rw [Decidable.not_not.mp accepted] at ramp answer
    exact .of (.ramped request answer.symm)
      ((ramp.moveTo .STOPPING (.port down)).set fun c => { c with controlMode := .POSITION }).ack

/-- At rest the backend is asked whether it moves all the same. -/
theorem handleRampStop_serves (id : r.msgId = MsgId.RAMP_STOP.byte) :
    Serves b r m (m.handleRampStop b down r) := by
  apply Serves.expectLength id rfl
  intro asks
  unfold Machine.rampToStop
  dsimp only
  split
  case isTrue motion => exact stopMotion_serves (.moving asks motion) (.refl m) rfl
  case isFalse still =>
    have answer : (m.motionActive b).1 = b.motionActive.map fun f => f m.calls :=
      Effect.answer ..
    have active := Effect.motionActive m b
    have calls : (m.motionActive b).2.calls = logged .motionActive (m.motionActive b).1 ++ m.calls :=
      Effect.ask_calls ..
    generalize m.motionActive b = asked at *
    split
    case isTrue rest =>
      exact .of (.rampAtRest asks (by simpa using still) answer rest) active.ack
    case isFalse moving =>
      rw [Decidable.not_not.mp moving] at active answer calls
      exact stopMotion_serves (.active asks (by simpa using still) answer.symm) active calls

/-- Faults are cleared without asking the motor, and the state becomes one of rest. -/
theorem handleClearFaults_serves (id : r.msgId = MsgId.CLEAR_FAULTS.byte) :
    Serves b r m (m.handleClearFaults b down r) := by
  apply Serves.expectLength id rfl
  intro asks
  have emptied := Effect.mapControl m fun c => { c with faults := 0 }
  dsimp only
  have announced : Effect m [] [] { m.act.toControl with faults := 0 }
      (if m.act.faults ≠ 0 then
        (m.mapControl fun c => { c with faults := 0 }).sendEvent b (.port down) r.seq
          .FAULT_CLEARED .INFO 0 m.act.faults
      else m.mapControl fun c => { c with faults := 0 }) := by
    split
    · exact emptied.announce ..
    · exact emptied
  generalize (if m.act.faults ≠ 0 then _ else _ : Machine) = after at *
  have driver : after.act.driverEnabled = m.act.driverEnabled := by rw [announced.control]
  refine .of (.cleared asks) (Effect.ack ?_)
  cases enabled : m.act.driverEnabled with
  | true =>
    simp only [driver, enabled, Bool.not_true, Bool.false_eq_true, if_false]
    exact (announced.moveTo .IDLE (.port down)).as (by simp [Control.cleared, Control.restState, enabled])
  | false =>
    simp only [driver, enabled, Bool.not_false, if_true]
    exact ((announced.moveTo .DISABLED (.port down)).set fun c => { c with controlMode := .DISABLED }).as
      (by simp [Control.cleared, Control.restState, enabled])

/-! ## Configuration -/

/-- A field is staged only if the whole candidate is valid. -/
theorem handleConfigStageField_serves (id : r.msgId = MsgId.CONFIG_STAGE_FIELD.byte) :
    Serves b r m (m.handleConfigStageField b down r) := by
  unfold Machine.handleConfigStageField Machine.stage
  split
  case h_1 code rejected => exact .refuse (.notStaged id rejected) (.refl m)
  case h_2 candidate accepted =>
    have asks : r.Asks .CONFIG_STAGE_FIELD := by
      refine ⟨id, ?_⟩
      simp only [stageCandidate, stageArguments] at accepted
      split at accepted
      · cases accepted
      · simp_all [MsgId.requestLength]
    have staged := Effect.mapControl m fun c =>
      { c with stagedConfig := candidate, configStaged := true }
    refine .of (.staged asks accepted) (Effect.ack ?_)
    change Effect m [] [] _ (if !m.act.isMotionState then _ else _)
    cases motion : m.act.isMotionState with
    | true => exact staged.as (by simp [Control.staging, motion])
    | false => exact (staged.moveTo .CONFIG_STAGED (.port down)).as (by simp [Control.staging, motion])

/-- Applying ends in the state of rest with nothing staged. -/
theorem commitStaged_effect {calls : List Call} {asked : Machine}
    (effect : Effect m calls [] m.act.toControl asked) :
    Effect m calls [ackPacket r.seq r.msgId] m.act.applied (asked.commitStaged b down r) := by
  have committed := effect.set fun c => { c with activeConfig := c.stagedConfig, configStaged := false }
  have rest : asked.act.restState = m.act.restState := by rw [effect.control]
  exact ((committed.moveTo asked.act.restState (.port down)).announce ..).ack.as (by rw [rest]; rfl)

/-- Validation comes first, the driver second, the commit last. -/
theorem handleConfigApply_serves (id : r.msgId = MsgId.CONFIG_APPLY.byte) :
    Serves b r m (m.handleConfigApply b down r) := by
  apply Serves.expectLength id rfl
  intro asks
  split
  case isTrue unstaged => exact .of (.nothingStaged asks (by simpa using unstaged)) (Effect.refl m).ack
  case isFalse staged =>
  replace staged : m.act.configStaged = true := by simpa using staged
  split
  case isTrue motion => exact .refuse (.applyBusy asks staged motion) (.refl m)
  case isFalse still =>
  replace still : m.act.isMotionState = false := by simpa using still
  split
  case isTrue invalid =>
    exact .of (.applyInvalid asks staged still (by simpa using invalid))
      ((Effect.refl m).failWith .INVALID_CONFIG .ERR_OUT_OF_RANGE)
  case isFalse valid =>
  have request : ApplyRequest r m.act.toControl := ⟨asks, staged, still, by simpa using valid⟩
  split
  case isTrue changed =>
    have answer : (m.configureDriver b m.act.stagedConfig.driver).1 =
        applyAnswer b m.calls m.act.toControl := by
      rw [Machine.configureDriver, Effect.answer_map, applyAnswer, if_pos changed]
    have configured := Effect.configureDriver m b m.act.stagedConfig.driver
    dsimp only
    generalize m.configureDriver b m.act.stagedConfig.driver = asked at *
    split
    case isTrue failed =>
      rw [failed] at configured
      exact .of (.applyFailed request (answer.symm.trans failed))
        (configured.failWith .DRIVER .ERR_BAD_STATE)
    case isFalse accepted =>
      exact .of (.applied request answer accepted) (commitStaged_effect configured)
  case isFalse same =>
    have answer : none = applyAnswer b m.calls m.act.toControl := by
      rw [applyAnswer, if_neg same]
    exact .of (.applied request answer (by simp)) (commitStaged_effect (.refl m))

/-- Saving stores the active configuration. -/
theorem handleConfigSave_serves (id : r.msgId = MsgId.CONFIG_SAVE.byte) :
    Serves b r m (m.handleConfigSave b down r) := by
  apply Serves.expectLength id rfl
  intro asks
  have answer : (m.saveConfig b m.act.activeConfig).1 =
      b.saveConfig.map fun f => f m.calls m.act.activeConfig := Effect.answer_map ..
  have asked : Effect m (logged (.saveConfig m.act.activeConfig) (m.saveConfig b _).1) []
      m.act.toControl (m.saveConfig b m.act.activeConfig).2 := Effect.ask m _ _ fun _ => rfl
  dsimp only
  generalize m.saveConfig b m.act.activeConfig = saved at *
  split
  case isTrue failed =>
    exact .of (.saveFailed asks answer failed) (asked.failWith .CONFIG_STORAGE .ERR_STORAGE)
  case isFalse accepted =>
    rw [Decidable.not_not.mp accepted] at asked answer
    exact .of (.saved asks answer.symm)
      ((asked.set fun c => { c with configGeneration := c.configGeneration + 1 }).announce ..).ack

/-- The machine `emptied` is `m` with the defaults written. -/
theorem resetDriver_serves {emptied : Machine} (request : ResetRequest r m.act.toControl)
    (select : emptied = m.mapControl Control.reset) :
    Serves b r m (emptied.resetDriver b down r) := by
  have driver : emptied.act.activeConfig.driver = m.act.defaults.driver := by rw [select]; rfl
  simp only [Machine.resetDriver, driver]
  obtain ⟨configured, configuring, after⟩ :=
    configureDriver_prepared (b := b) select m.act.defaults.driver
  generalize emptied.configureDriver b m.act.defaults.driver = first at *
  split
  case isTrue failed =>
    rw [failed] at configured
    exact .of (.resetConfigureFailed request (configuring.symm.trans failed))
      (configured.failWith .DRIVER .ERR_BAD_STATE)
  case isFalse accepted =>
    have erased := configured.keep (Effect.resetConfigStorage first.2 b)
    have erasing : (first.2.resetConfigStorage b).1 = b.resetConfigStorage.map fun f =>
        f (logged (.configureDriver m.act.defaults.driver) first.1 ++ m.calls) := by
      rw [Machine.resetConfigStorage, Effect.answer, after]
    generalize first.2.resetConfigStorage b = second at *
    split
    case isTrue failed =>
      rw [failed] at erased
      exact .of (.resetStorageFailed request configuring accepted (erasing.symm.trans failed))
        (erased.failWith .CONFIG_STORAGE .ERR_STORAGE)
    case isFalse succeeded =>
      exact .of (.reset request configuring accepted erasing succeeded) (erased.announce ..).ack

/-- The reset changes the configuration before driver and storage are asked. -/
theorem handleConfigResetDefaults_serves (id : r.msgId = MsgId.CONFIG_RESET_DEFAULTS.byte) :
    Serves b r m (m.handleConfigResetDefaults b down r) := by
  apply Serves.expectLength id rfl
  intro asks
  split
  case isTrue motion => exact .refuse (.resetBusy asks motion) (.refl m)
  case isFalse still => exact resetDriver_serves ⟨asks, by simpa using still⟩ rfl

/-! ## Motion -/

/-- A motion that the backend refuses raises the driver fault. -/
theorem startMotion_serves {answer : Option Bool} {calls : List Call} {state : ActuatorState}
    {mode : ControlMode} {asked : Machine}
    (request : MotionRequest b m.calls r m.act.toControl answer calls state mode)
    (effect : Effect m calls [] m.act.toControl asked) :
    Serves b r m (asked.startMotion b down r answer state mode) := by
  simp only [Machine.startMotion]
  split
  case isTrue failed =>
    exact .of (.motionFailed request failed) (effect.failWith .DRIVER .ERR_BAD_STATE)
  case isFalse accepted =>
    exact .of (.motionStarted request (Decidable.not_not.mp accepted))
      ((effect.moveTo state (.port down)).set fun c => { c with controlMode := mode }).ack

/-- A motion command goes on only where `validate_motion_allowed` lets it. -/
theorem Serves.whenAllowed {msg : MsgId} {mode : ControlMode} {after : Machine}
    (moves : msg.motionMode = some mode) (asks : r.Asks msg)
    (allows : m.act.validateMotionAllowed mode = .OK → Serves b r m after) :
    Serves b r m (if m.act.validateMotionAllowed mode ≠ .OK then
      m.refuse down r (m.act.validateMotionAllowed mode) else after) := by
  split
  case isTrue refused => exact .refuse (.notAllowed moves asks refused) (.refl m)
  case isFalse allowed => exact allows (Decidable.not_not.mp allowed)

/-- The checks of `MOVE_ABS`, in the order of the source. -/
theorem handleMoveAbs_serves (id : r.msgId = MsgId.MOVE_ABS.byte) :
    Serves b r m (m.handleMoveAbs b down r) := by
  apply Serves.expectLength id rfl
  intro asks
  unfold Machine.moveAbs
  refine .whenAllowed rfl asks fun allowed => ?_
  dsimp only
  split
  case isTrue outside => exact .refuse (.absRange asks allowed (.inl outside)) (.refl m)
  case isFalse rates =>
  split
  case isTrue outside =>
    exact .of (.absLimited asks allowed outside)
      ((Effect.refl m).failWith .SOFT_LIMIT .ERR_OUT_OF_RANGE)
  case isFalse within =>
  split
  case h_1 unconverted => exact .refuse (.absRange asks allowed (.inr unconverted)) (.refl m)
  case h_2 target converted =>
    exact startMotion_serves (.moveAbs asks allowed (by simpa using rates) (by simpa using within)
      converted (Effect.answer_map ..)) (Effect.ask m _ _ fun _ => rfl)

/-- The checks of `MOVE_REL`, which reads the position among them. -/
theorem handleMoveRel_serves (id : r.msgId = MsgId.MOVE_REL.byte) :
    Serves b r m (m.handleMoveRel b down r) := by
  apply Serves.expectLength id rfl
  intro asks
  unfold Machine.moveRel
  refine .whenAllowed rfl asks fun allowed => ?_
  dsimp only
  have position : (m.logicalCurrentPosition b).1 = m.act.logicalPosition b m.calls := by
    simp only [Machine.logicalCurrentPosition, Control.logicalPosition, Effect.answer]
  have read : Effect m (positionRead b m.calls) [] m.act.toControl (m.logicalCurrentPosition b).2 := by
    have asked := Effect.logicalCurrentPosition m b
    rwa [Effect.answer] at asked
  have calls : (m.logicalCurrentPosition b).2.calls = positionRead b m.calls ++ m.calls := by
    have asked := Effect.ask_calls m b.currentPosition .currentPosition
    rwa [Effect.answer] at asked
  generalize m.logicalCurrentPosition b = asked at *
  obtain ⟨current, after⟩ := asked
  subst position
  have config : after.act.toControl = m.act.toControl := read.control
  simp only [config]
  split
  case isTrue outside =>
    refine .refuse (.relRange asks allowed ?_) read
    rcases outside with below | above | rates
    · exact .inl (.inl below)
    · exact .inl (.inr above)
    · exact .inr (.inl rates)
  case isFalse inside =>
  obtain ⟨notBelow, notAbove, rates⟩ := by simpa only [not_or] using inside
  split
  case isTrue outside =>
    exact .of (.relLimited asks allowed outside) (read.failWith .SOFT_LIMIT .ERR_OUT_OF_RANGE)
  case isFalse within =>
  split
  case h_1 unconverted =>
    exact .refuse (.relRange asks allowed (.inr (.inr unconverted))) read
  case h_2 delta converted =>
    refine startMotion_serves (.moveRel asks allowed ?exact (by simpa using rates)
      (Bool.eq_false_iff.mpr within) converted ?answer) (read.keep (Effect.ask _ _ _ fun _ => rfl))
    case exact => exact not_or.mpr ⟨notBelow, notAbove⟩
    case answer => rw [← calls]; exact Effect.answer_map ..

/-- The checks of `RUN_VEL`; velocity 0 is refused as a rate is. -/
theorem handleRunVel_serves (id : r.msgId = MsgId.RUN_VEL.byte) :
    Serves b r m (m.handleRunVel b down r) := by
  apply Serves.expectLength id rfl
  intro asks
  unfold Machine.runVel
  refine .whenAllowed rfl asks fun allowed => ?_
  dsimp only
  split
  case isTrue outside =>
    refine .refuse (.velRange asks allowed ?_) (.refl m)
    rcases outside with zero | rates
    · exact .inl zero
    · exact .inr (.inl rates)
  case isFalse inside =>
  obtain ⟨nonzero, rates⟩ := not_or.mp inside
  split
  case h_1 unconverted => exact .refuse (.velRange asks allowed (.inr (.inr unconverted))) (.refl m)
  case h_2 velocity converted =>
    exact startMotion_serves (.runVel asks allowed nonzero (by simpa using rates) converted
      (Effect.answer_map ..)) (Effect.ask m _ _ fun _ => rfl)

/-- The interval enters the active configuration and what is staged. -/
theorem handleSetTelemRate_serves (id : r.msgId = MsgId.SET_TELEM_RATE.byte) :
    Serves b r m (m.handleSetTelemRate down r) := by
  refine .expectLength id rfl fun asks => .of (.telemetryRate asks) (Effect.ack ?_)
  have rate := (Effect.mapControl m fun c =>
    { c with activeConfig.telemetry.intervalMs := readU16 (r.at 0) }).set fun c =>
      if c.configStaged then
        { c with stagedConfig.telemetry.intervalMs := c.activeConfig.telemetry.intervalMs }
      else { c with stagedConfig := c.activeConfig }
  refine rate.as ?_
  simp only [Control.withTelemetryRate]
  split <;> simp [*]

/-! ## The switch -/

/-- Requests without a case are refused with a fault. -/
theorem handleUnsupported_serves {found : Option MsgId} (id : MsgId.ofByte r.msgId = found)
    (caseless : ∀ msg, found = some msg → msg.requestLength = none) :
    Serves b r m (m.handleUnsupported b down r) :=
  .of (.unsupported fun msg same => caseless msg (id.symm.trans same))
    ((Effect.refl m).failWith .UNSUPPORTED_COMMAND .ERR_UNSUPPORTED)

/-- Every message id leads to an outcome, declared or not. -/
theorem dispatch_serves (b : MotionBackend) (down : Port) (r : Packet) (m : Machine) :
    Serves b r m (m.dispatch b down r) := by
  unfold Machine.dispatch
  cases found : MsgId.ofByte r.msgId with
  | none => exact handleUnsupported_serves found (by simp)
  | some msg =>
    have id := MsgId.byte_of_ofByte found
    cases msg with
    | PING => exact handlePing_serves id
    | GET_IDENTITY => exact handleQuery_serves id rfl rfl (.sent _ rfl rfl)
    | GET_CAPABILITIES => exact handleQuery_serves id rfl rfl (.sent _ rfl rfl)
    | GET_STATUS =>
      obtain ⟨calls, response, reports⟩ := sendStatus_reports
      exact handleQuery_serves id rfl rfl reports
    | GET_FAULTS => exact handleQuery_serves id rfl rfl (.sent _ rfl rfl)
    | GET_COUNTERS =>
      obtain ⟨response, reports⟩ := sendCounters_reports
      exact handleQuery_serves id rfl rfl reports
    | HEARTBEAT => exact handleHeartbeat_serves id
    | SET_CONTROL_MODE => exact handleSetControlMode_serves id
    | ESTOP => exact handleEstop_serves id
    | RAMP_STOP => exact handleRampStop_serves id
    | CLEAR_FAULTS => exact handleClearFaults_serves id
    | CONFIG_QUERY => exact handleConfigQuery_serves id
    | CONFIG_STAGE_FIELD => exact handleConfigStageField_serves id
    | CONFIG_APPLY => exact handleConfigApply_serves id
    | CONFIG_SAVE => exact handleConfigSave_serves id
    | CONFIG_RESET_DEFAULTS => exact handleConfigResetDefaults_serves id
    | REBOOT => exact handleReboot_serves id
    | GET_DRIVER_STATUS => exact .expectLength id rfl sendDriverStatus_serves
    | MOVE_ABS => exact handleMoveAbs_serves id
    | MOVE_REL => exact handleMoveRel_serves id
    | RUN_VEL => exact handleRunVel_serves id
    | SET_TELEM_RATE => exact handleSetTelemRate_serves id
    | _ => exact handleUnsupported_serves found (by rintro _ ⟨⟩; rfl)

end Daft
