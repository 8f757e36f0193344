import Daft.Config.Blob
import Daft.Config.Staging
import Daft.Safety.Watchdog

/-!
# The two configuration copies

The active configuration is the one the actuator works with, the staged one
what the next `CONFIG_APPLY` makes of it. Four requests write them, each in its
own direction; both copies stay valid, and while nothing is staged they agree.
-/

namespace Daft

open Logic

/-- The configuration members agree. -/
structure Control.SameConfigs (c' c : Control) : Prop where
  defaults : c'.defaults = c.defaults
  active : c'.activeConfig = c.activeConfig
  staged : c'.stagedConfig = c.stagedConfig
  flag : c'.configStaged = c.configStaged

/-- The requests that write a configuration value. -/
def MsgId.writesConfig : MsgId → Bool
  | .CONFIG_STAGE_FIELD | .CONFIG_RESET_DEFAULTS | .SET_TELEM_RATE => true
  | _ => false

/-- A request that is refused, or writes no configuration value. -/
inductive Unwritten (r : Packet) (responses : List Packet) : Prop where
  | refused {code : ErrorCode} (answer : responses = [errorPacket r.seq r.msgId code])
  | other {msg : MsgId} (asks : r.Asks msg) (plain : msg.writesConfig = false)

/-- A call made by a `CONFIG_RESET_DEFAULTS` fails. -/
inductive ResetFailing (b : MotionBackend) (h : History) (c : Control) : Prop where
  | driver (failed : b.configureDriver.map (fun f => f h c.defaults.driver) = some false)
  | storage {configured : Option Bool}
      (configuring : configured = b.configureDriver.map fun f => f h c.defaults.driver)
      (failed : b.resetConfigStorage.map
        (fun f => f (logged (.configureDriver c.defaults.driver) configured ++ h)) = some false)

/-- What a request does to the configuration members. -/
inductive Configures (b : MotionBackend) (h : History) (r : Packet) (c : Control)
    (responses : List Packet) (c' : Control) : Prop where
  | keeps (same : c'.SameConfigs c) (unwritten : Unwritten r responses)
  | stages {candidate : ActuatorConfig} (asks : r.Asks .CONFIG_STAGE_FIELD)
      (accepted : stageCandidate r c = .ok candidate)
      (acked : responses = [ackPacket r.seq r.msgId]) (entered : c' = c.staging candidate)
  | applies (request : ApplyRequest r c) (acked : responses = [ackPacket r.seq r.msgId])
      (entered : c' = c.applied)
  | resets (request : ResetRequest r c) (acked : responses = [ackPacket r.seq r.msgId])
      (entered : c' = c.reset)
  | resetFails (request : ResetRequest r c) (failing : ResetFailing b h c)
      (same : c'.SameConfigs c.reset)
  | rates (asks : r.Asks .SET_TELEM_RATE) (acked : responses = [ackPacket r.seq r.msgId])
      (entered : c' = c.withTelemetryRate (readU16 (r.at 0)))

/-! ## Requests, ticks and `begin` -/

section

variable {b : MotionBackend} {h : History} {r : Packet} {c c' : Control} {calls : List Call}
  {responses : List Packet}

theorem Control.SameConfigs.refl (c : Control) : c.SameConfigs c := ⟨rfl, rfl, rfl, rfl⟩

/-- No query writes a configuration. -/
theorem MsgId.plain_of_isQuery {msg : MsgId} (query : msg.isQuery = true) :
    msg.writesConfig = false := by
  cases msg <;> first | rfl | cases query

/-- No motion command writes a configuration. -/
theorem MotionRequest.unwritten {answer : Option Bool} {state : ActuatorState} {mode : ControlMode}
    (request : MotionRequest b h r c answer calls state mode) : Unwritten r responses := by
  rcases request.asks with asks | asks | asks
  · exact .other asks rfl
  · exact .other asks rfl
  · exact .other asks rfl

/-- What each outcome does to the configurations. -/
theorem Served.configures (served : Served b h r c calls responses c') :
    Configures b h r c responses c' := by
  have same : c.SameConfigs c := .refl c
  cases served with
  | refused => exact .keeps same (.refused rfl)
  | absLimited asks => exact .keeps ⟨rfl, rfl, rfl, rfl⟩ (.other asks rfl)
  | relLimited asks => exact .keeps ⟨rfl, rfl, rfl, rfl⟩ (.other asks rfl)
  | unsupported => exact .keeps ⟨rfl, rfl, rfl, rfl⟩ (.refused rfl)
  | ponged asks => exact .keeps same (.other asks rfl)
  | answered query asks => exact .keeps same (.other asks (MsgId.plain_of_isQuery query))
  | heard asks =>
    rcases asks with asks | asks
    · exact .keeps same (.other asks rfl)
    · exact .keeps same (.other asks rfl)
  | driverRead asks => exact .keeps same (.other asks rfl)
  | uartFailed asks => exact .keeps ⟨rfl, rfl, rfl, rfl⟩ (.other asks rfl)
  | disabled request => exact .keeps ⟨rfl, rfl, rfl, rfl⟩ (.other request.asks rfl)
  | modeConfigureFailed request => exact .keeps ⟨rfl, rfl, rfl, rfl⟩ (.other request.asks rfl)
  | modeEnableFailed request => exact .keeps ⟨rfl, rfl, rfl, rfl⟩ (.other request.asks rfl)
  | enabled request => exact .keeps ⟨rfl, rfl, rfl, rfl⟩ (.other request.asks rfl)
  | estopped asks => exact .keeps ⟨rfl, rfl, rfl, rfl⟩ (.other asks rfl)
  | rampAtRest asks => exact .keeps same (.other asks rfl)
  | rampFailed request => exact .keeps ⟨rfl, rfl, rfl, rfl⟩ (.other request.asks rfl)
  | ramped request => exact .keeps ⟨rfl, rfl, rfl, rfl⟩ (.other request.asks rfl)
  | cleared asks => exact .keeps ⟨rfl, rfl, rfl, rfl⟩ (.other asks rfl)
  | staged asks accepted => exact .stages asks accepted rfl rfl
  | nothingStaged asks => exact .keeps same (.other asks rfl)
  | applyInvalid asks => exact .keeps ⟨rfl, rfl, rfl, rfl⟩ (.other asks rfl)
  | applyFailed request => exact .keeps ⟨rfl, rfl, rfl, rfl⟩ (.other request.asks rfl)
  | applied request => exact .applies request rfl rfl
  | saveFailed asks => exact .keeps ⟨rfl, rfl, rfl, rfl⟩ (.other asks rfl)
  | saved asks => exact .keeps ⟨rfl, rfl, rfl, rfl⟩ (.other asks rfl)
  | resetConfigureFailed request failed =>
    exact .resetFails request (.driver failed) ⟨rfl, rfl, rfl, rfl⟩
  | resetStorageFailed request configuring _ failed =>
    exact .resetFails request (.storage configuring failed) ⟨rfl, rfl, rfl, rfl⟩
  | reset request => exact .resets request rfl rfl
  | telemetryRate asks => exact .rates asks rfl rfl
  | motionFailed request => exact .keeps ⟨rfl, rfl, rfl, rfl⟩ request.unwritten
  | motionStarted request => exact .keeps ⟨rfl, rfl, rfl, rfl⟩ request.unwritten

/-- No tick writes a configuration. -/
theorem Ticked.sameConfigs {elapsed : UInt32} (ticked : Ticked b h elapsed c calls c') :
    c'.SameConfigs c := by
  cases ticked <;> exact ⟨rfl, rfl, rfl, rfl⟩

/-! ## The invariant -/

/-- Both copies are valid, and they agree while nothing is staged. -/
structure Control.Coherent (c : Control) : Prop where
  sound : c.Sound
  staged : Valid c.stagedConfig
  unstaged : c.configStaged = false → c.stagedConfig = c.activeConfig

/-- A candidate that was accepted is valid as a whole. -/
theorem stageCandidate_accepted {candidate : ActuatorConfig}
    (accepted : stageCandidate r c = .ok candidate) :
    (stageConfigField c.pendingConfig (.ofRaw (readU16 (r.at 0))) (readI32 (r.at 2))).1.ok =
      true := by
  simp only [stageCandidate, stageArguments] at accepted
  repeat' split at accepted
  all_goals first
    | cases accepted
  simp_all

namespace Control

theorem Coherent.of_same (coherent : c.Coherent) (same : c'.SameConfigs c) : c'.Coherent where
  sound := ⟨same.defaults ▸ coherent.sound.defaults, same.active ▸ coherent.sound.active⟩
  staged := same.staged ▸ coherent.staged
  unstaged none := by
    rw [same.staged, same.active]
    exact coherent.unstaged (same.flag.symm.trans none)

/-- After a reset both copies are the defaults, which are valid. -/
theorem Coherent.reset (coherent : c.Coherent) : c.reset.Coherent where
  sound := ⟨coherent.sound.defaults, coherent.sound.defaults⟩
  staged := coherent.sound.defaults
  unstaged _ := rfl

/-- The telemetry interval is part of no rule, and enters both copies. -/
theorem Coherent.withTelemetryRate (coherent : c.Coherent) (interval : UInt16) :
    (c.withTelemetryRate interval).Coherent := by
  have active := coherent.sound.active.withTelemetryRate interval
  refine ⟨⟨coherent.sound.defaults, active⟩, ?_, ?_⟩
  · simp only [Control.withTelemetryRate]
    split
    · exact coherent.staged.withTelemetryRate interval
    · exact active
  · intro none
    exact if_neg (by simpa [Control.withTelemetryRate] using none)

end Control

/-- Every outcome leaves the two copies coherent. -/
theorem Served.coherent (served : Served b h r c calls responses c') (coherent : c.Coherent) :
    c'.Coherent := by
  cases served.configures with
  | keeps same => exact coherent.of_same same
  | stages asks accepted _ entered =>
    rw [entered]
    have valid := stageConfigField_valid (stageCandidate_accepted accepted)
    rw [← stageCandidate_eq accepted] at valid
    exact ⟨⟨coherent.sound.defaults, coherent.sound.active⟩, valid, fun none => by cases none⟩
  | applies request _ entered =>
    rw [entered]
    exact ⟨⟨coherent.sound.defaults, coherent.staged⟩, coherent.staged, fun _ => rfl⟩
  | resets _ _ entered =>
    rw [entered]
    exact coherent.reset
  | resetFails _ _ same => exact coherent.reset.of_same same
  | rates _ _ entered =>
    rw [entered]
    exact coherent.withTelemetryRate _

/-- A start from valid defaults leaves the two copies coherent. -/
theorem Begun.coherent {defaults : ActuatorConfig} (begun : Begun defaults calls c)
    (valid : Valid defaults) : c.Coherent := by
  obtain ⟨fresh, -⟩ := begun.fresh
  have sound := begun.sound valid
  exact ⟨sound, fresh.staged ▸ sound.active, fun _ => fresh.staged⟩

/-! ## The storage -/

/-- The calls that write the configuration storage. -/
def Call.isStorage : Call → Bool
  | .saveConfig .. | .resetConfigStorage _ => true
  | _ => false

theorem Call.notable_of_isStorage (call : Call) (stores : call.isStorage = true) :
    call.notable = true := by
  cases call <;> first | rfl | cases stores

theorem Call.not_storage_of_isMove (call : Call) (moves : call.isMove = true) :
    call.isStorage = false := by
  cases call <;> first | rfl | cases moves

/-- What a request does to the storage and to the generation counter. -/
inductive Stores (b : MotionBackend) (h : History) (r : Packet) (c : Control) (calls : List Call)
    (responses : List Packet) (c' : Control) : Prop where
  | keeps (silent : ∀ call ∈ calls, call.isStorage = false)
      (unsaved : r.Asks .CONFIG_SAVE → ∃ code, responses = [errorPacket r.seq r.msgId code])
      (generation : c'.configGeneration = c.configGeneration)
  | saves (asks : r.Asks .CONFIG_SAVE)
      (asked : b.saveConfig.map (fun f => f h c.activeConfig) = some true)
      (made : calls = [.saveConfig c.activeConfig true])
      (generation : c'.configGeneration = c.configGeneration + 1)
  | saveFails (made : calls = [.saveConfig c.activeConfig false])
      (answer : responses = [errorPacket r.seq r.msgId .ERR_STORAGE])
      (generation : c'.configGeneration = c.configGeneration)
  | clears {ok : Bool} {before : List Call} (request : ResetRequest r c)
      (made : calls = .resetConfigStorage ok :: before)
      (silent : ∀ call ∈ before, call.isStorage = false)
      (generation : c'.configGeneration = c.configGeneration)

/-- A request has one message id. -/
theorem Packet.Asks.not_save {msg : MsgId} {P : Prop} (asks : r.Asks msg)
    (other : msg ≠ .CONFIG_SAVE) (saves : r.Asks .CONFIG_SAVE) : P :=
  absurd (MsgId.byte_injective (asks.id.symm.trans saves.id)) other

/-- What each outcome asks of the store. -/
theorem Served.stores (served : Served b h r c calls responses c') :
    Stores b h r c calls responses c' := by
  cases served with
  | saved asks asked => exact .saves asks asked rfl rfl
  | @saveFailed answer asks asked failed =>
    rcases answer with _ | _ | _
    · exact .keeps (by simp) (fun _ => ⟨_, rfl⟩) rfl
    · exact .saveFails rfl rfl rfl
    · exact absurd rfl failed
  | resetStorageFailed request => exact .clears request rfl (by simp [Call.isStorage]) rfl
  | @reset _ answer request =>
    cases answer with
    | none => exact .keeps (by simp [Call.isStorage]) (request.asks.not_save (by decide)) rfl
    | some ok => exact .clears request rfl (by simp [Call.isStorage]) rfl
  | refused refusal => exact .keeps (refusal.reads.all fun _ => rfl) (fun _ => ⟨_, rfl⟩) rfl
  | answered query asks reads =>
    refine .keeps (reads.all fun _ => rfl) (asks.not_save ?_) rfl
    rintro rfl
    cases query
  | relLimited =>
    exact .keeps ((positionRead_reads b h).all fun _ => rfl) (fun _ => ⟨_, rfl⟩) rfl
  | rampFailed request =>
    exact .keeps (List.forall_mem_append.mpr ⟨by simp [Call.isStorage], request.all rfl⟩)
      (fun _ => ⟨_, rfl⟩) rfl
  | ramped request =>
    exact .keeps (List.forall_mem_cons.mpr ⟨rfl, request.all rfl⟩)
      (request.asks.not_save (by decide)) rfl
  | motionFailed request =>
    exact .keeps (request.silent Call.not_storage_of_isMove fun _ => rfl) (fun _ => ⟨_, rfl⟩) rfl
  | motionStarted request =>
    refine .keeps (request.silent Call.not_storage_of_isMove fun _ => rfl) ?_ rfl
    rcases request.asks with asks | asks | asks
    · exact asks.not_save (by decide)
    · exact asks.not_save (by decide)
    · exact asks.not_save (by decide)
  | heard asks =>
    refine .keeps (by simp) ?_ rfl
    rcases asks with asks | asks
    · exact asks.not_save (by decide)
    · exact asks.not_save (by decide)
  | ponged asks => exact .keeps (by simp) (asks.not_save (by decide)) rfl
  | driverRead asks => exact .keeps (by simp [Call.isStorage]) (asks.not_save (by decide)) rfl
  | uartFailed asks => exact .keeps (by simp [Call.isStorage]) (asks.not_save (by decide)) rfl
  | disabled request =>
    exact .keeps (by simp [Call.isStorage]) (request.asks.not_save (by decide)) rfl
  | enabled request =>
    exact .keeps (by simp [Call.isStorage, or_imp, forall_and]) (request.asks.not_save (by decide)) rfl
  | estopped asks =>
    exact .keeps (by simp [Call.isStorage, or_imp, forall_and]) (asks.not_save (by decide)) rfl
  | rampAtRest asks => exact .keeps (by simp [Call.isStorage]) (asks.not_save (by decide)) rfl
  | cleared asks => exact .keeps (by simp) (asks.not_save (by decide)) rfl
  | staged asks => exact .keeps (by simp) (asks.not_save (by decide)) rfl
  | nothingStaged asks => exact .keeps (by simp) (asks.not_save (by decide)) rfl
  | applied request =>
    exact .keeps (by simp [Call.isStorage]) (request.asks.not_save (by decide)) rfl
  | telemetryRate asks => exact .keeps (by simp) (asks.not_save (by decide)) rfl
  | _ => exact .keeps (by simp [Call.isStorage]) (fun _ => ⟨_, rfl⟩) rfl

/-- A save of a configuration that `serialize_config` refuses. -/
def Call.savesRefused : Call → Bool
  | .saveConfig config _ => (serializeConfig config configBlobMaxSize).isNone
  | _ => false

theorem Call.isStorage_of_savesRefused (call : Call) (refused : call.savesRefused = true) :
    call.isStorage = true := by
  cases call <;> first | rfl | cases refused

theorem Call.notable_of_savesRefused (call : Call) (refused : call.savesRefused = true) :
    call.notable = true :=
  call.notable_of_isStorage (call.isStorage_of_savesRefused refused)

/-- A valid configuration is never refused by the serialiser. -/
theorem Call.not_refused_of_valid {config : ActuatorConfig} (valid : Valid config) (ok : Bool) :
    (Call.saveConfig config ok).savesRefused = false := by
  simp [savesRefused, serializeConfig, validateConfig_ok_iff.mpr valid]

theorem not_refused_of_silent (silent : ∀ call ∈ calls, call.isStorage = false) :
    ∀ call ∈ calls, call.savesRefused = false := fun call member =>
  absent_of_silent Call.isStorage_of_savesRefused (silent call member)

/-- Only the active configuration is saved. -/
theorem Served.saves_accepted (served : Served b h r c calls responses c')
    (active : Valid c.activeConfig) : ∀ call ∈ calls, call.savesRefused = false := by
  cases served.stores with
  | keeps silent => exact not_refused_of_silent silent
  | saves _ _ made => simp [made, Call.not_refused_of_valid active]
  | saveFails made => simp [made, Call.not_refused_of_valid active]
  | clears _ made silent =>
    rw [made]
    exact List.forall_mem_cons.mpr ⟨rfl, not_refused_of_silent silent⟩

/-- A start writes nothing to the store. -/
theorem Begun.not_storage {defaults : ActuatorConfig} (begun : Begun defaults calls c) :
    ∀ call ∈ calls, call.isStorage = false := by
  cases begun <;> simp [Call.isStorage, or_imp, forall_and]

/-- A tick writes nothing to the store. -/
theorem Ticked.not_storage {elapsed : UInt32} (ticked : Ticked b h elapsed c calls c') :
    ∀ call ∈ calls, call.isStorage = false := by
  cases ticked <;> simp [Call.isStorage, or_imp, forall_and]

/-- The answers to a well-formed `CONFIG_APPLY`. -/
theorem Served.apply_answers (served : Served b h r c calls responses c')
    (asks : r.Asks .CONFIG_APPLY) :
    responses = [ackPacket r.seq r.msgId] ∨
      responses = [errorPacket r.seq r.msgId .ERR_BUSY] ∨
      responses = [errorPacket r.seq r.msgId .ERR_BAD_STATE] ∨
      (validateConfig c.stagedConfig).ok = false := by
  cases served with
  | nothingStaged => exact .inl rfl
  | applied => exact .inl rfl
  | applyFailed => exact .inr (.inr (.inl rfl))
  | applyInvalid _ _ _ invalid => exact .inr (.inr (.inr invalid))
  | refused refusal => cases refusal <;> grind
  | _ => grind

theorem errorPacket_code {seq : UInt16} {rejected : UInt8} {code code' : ErrorCode}
    (same : errorPacket seq rejected code = errorPacket seq rejected code') : code = code' := by
  have bytes : code.byte = code'.byte := congrArg (fun packet => packet.payload[1]) same
  cases code <;> cases code' <;> first | rfl | cases bytes

/-- An acknowledgement is no error. -/
theorem ackPacket_ne_errorPacket {seq : UInt16} {id : UInt8} {code : ErrorCode} :
    ackPacket seq id ≠ errorPacket seq id code := by
  intro same
  have flags : (1 : UInt8) = 3 := congrArg Packet.flags same
  cases flags

/-- `CONFIG_APPLY` answers `ERR_OUT_OF_RANGE` for an invalid staged configuration only. -/
theorem Served.in_range (served : Served b h r c calls responses c')
    (asks : r.Asks .CONFIG_APPLY) (valid : Valid c.stagedConfig) :
    errorPacket r.seq r.msgId .ERR_OUT_OF_RANGE ∉ responses := by
  rcases served.apply_answers asks with acked | busy | failed | invalid
  · rw [acked, List.mem_singleton]
    exact ackPacket_ne_errorPacket.symm
  · rw [busy, List.mem_singleton]
    intro same
    cases errorPacket_code same
  · rw [failed, List.mem_singleton]
    intro same
    cases errorPacket_code same
  · rw [validateConfig_ok_iff.mpr valid] at invalid
    cases invalid

end

/-! ## Runs -/

/-- A `begin` has valid defaults. -/
def Op.Sound (op : Op) : Prop := ∀ defaults, op = .begin defaults → Valid defaults

/-- The invariant: both copies are valid, and nothing was saved that the blob cannot hold. -/
structure Machine.Coherent (m : Machine) : Prop where
  control : m.act.Coherent
  saves : ∀ call ∈ m.calls, call.savesRefused = false

section

variable {b : MotionBackend} {m m' : Machine} {op : Op} {calls : List Call}

/-- A step keeps the machine coherent if it keeps the control part so and saves only what is
valid. -/
theorem Machine.Coherent.after (coherent : m.Coherent) (control : m'.act.Coherent)
    (adds : Adds Call.notable m.calls calls m'.calls)
    (accepted : ∀ call ∈ calls, call.savesRefused = false) : m'.Coherent := by
  refine ⟨control, ?_⟩
  obtain ⟨new, made, added⟩ := adds.none Call.notable_of_savesRefused accepted
  rw [made]
  exact List.forall_mem_append.mpr ⟨added, coherent.saves⟩

/-- Every step keeps the two copies coherent. -/
theorem step_coherent (sound : op.Sound) (coherent : m.Coherent) : (step b m op).Coherent := by
  obtain ⟨calls, stepped⟩ := step_stepped b m op
  have control := coherent.control
  cases stepped with
  | executed _ done =>
    exact coherent.after (done.served.coherent control) done.calls
      (done.served.saves_accepted control.sound.active)
  | repeated _ done =>
    exact coherent.after (by rw [done.control]; exact control) done.calls (by simp)
  | ticked done =>
    obtain ⟨pending, ticked⟩ := done.ticked
    have booted : ({ m.act.toControl with bootEventPending := pending } : Control).Coherent :=
      control.of_same ⟨rfl, rfl, rfl, rfl⟩
    exact coherent.after (booted.of_same ticked.sameConfigs) (done.clock.after_quiet done.calls)
      (not_refused_of_silent ticked.not_storage)
  | begun done =>
    exact coherent.after (done.begun.coherent (sound _ rfl)) done.calls
      (not_refused_of_silent done.begun.not_storage)
  | framed _ done =>
    refine coherent.after ?_ done.calls (by simp)
    rw [done.control]
    exact control.of_same ⟨rfl, rfl, rfl, rfl⟩
  | reported _ reads done =>
    exact coherent.after (by rw [done.control]; exact control) done.calls (reads.all fun _ => rfl)

/-- The copies are coherent after every run with valid defaults. -/
theorem boot_coherent {build : BuildInfo} {defaults : ActuatorConfig} {ops : List Op}
    (valid : Valid defaults) (sound : ∀ op ∈ ops, op.Sound) :
    (Machine.boot b build defaults ops).Coherent := by
  refine (along_of_forall sound _).invariant (I := Machine.Coherent)
    (fun _ _ sound coherent => step_coherent sound coherent) ?_
  obtain ⟨calls, done⟩ := step_begun b (.powerOn build) defaults
  have off : (Machine.powerOn build).calls = [] := rfl
  obtain ⟨new, made, added⟩ :=
    done.calls.none Call.notable_of_savesRefused (not_refused_of_silent done.begun.not_storage)
  refine ⟨done.begun.coherent valid, ?_⟩
  rw [made, off, List.append_nil]
  exact added

end

/-! ## Main result -/

/-- From valid defaults on, whatever the storage answers, both copies stay valid and
agree while nothing is staged; so `CONFIG_APPLY` never finds an invalid configuration
and the store is never given one. -/
theorem configurations_valid (b : MotionBackend) (build : BuildInfo) (defaults : ActuatorConfig)
    (ops : List Op) (m : Machine) (reached : m = .boot b build defaults ops)
    (valid : (validateConfig defaults).ok = true)
    (restarts : ∀ other, .begin other ∈ ops → (validateConfig other).ok = true) :
    (validateConfig m.act.activeConfig).ok = true ∧ (validateConfig m.act.stagedConfig).ok = true ∧
      (m.act.configStaged = false → m.act.stagedConfig = m.act.activeConfig) ∧
      (∀ r port, m.act.isDuplicate r = false → r.Asks .CONFIG_APPLY →
        errorPacket r.seq r.msgId .ERR_OUT_OF_RANGE ∉
          (step b m (.handlePacket r port)).act.lastResponses) ∧
      ∀ config ok, .saveConfig config ok ∈ m.calls →
        (serializeConfig config configBlobMaxSize).isSome = true := by
  have sound : ∀ op ∈ ops, op.Sound := by
    rintro op member other rfl
    exact validateConfig_ok_iff.mp (restarts other member)
  have coherent : m.Coherent := by
    rw [reached]
    exact boot_coherent (validateConfig_ok_iff.mp valid) sound
  refine ⟨validateConfig_ok_iff.mpr coherent.control.sound.active,
    validateConfig_ok_iff.mpr coherent.control.staged, coherent.control.unstaged, ?_, ?_⟩
  · intro r port fresh asks
    obtain ⟨calls, responses, done⟩ := step_executed (b := b) fresh port
    rw [done.lastResponses]
    exact done.served.in_range asks coherent.control.staged
  · intro config ok saved
    have accepted : (serializeConfig config configBlobMaxSize).isNone = false :=
      coherent.saves _ saved
    rw [← Option.not_isNone, accepted]
    rfl

/-- `CONFIG_STAGE_FIELD`. -/
def stageField (field : ConfigField) (value : Int32) (seq : UInt16) : Packet :=
  .request .CONFIG_STAGE_FIELD seq (writeU16 field.raw ++ writeI32 value)

/-- A store that returns a configuration of another version and saves anything. -/
def strayStore : MotionBackend :=
  { loadConfig := some fun _ => some ({ version := 2 }, 7), saveConfig := some fun _ _ => true }

/-- A field staged, applied and saved. -/
def microstepsRun : List Op :=
  [.handlePacket (stageField .MICROSTEPS 32 1) none,
    .handlePacket (.request .CONFIG_APPLY 2 []) none,
    .handlePacket (.request .CONFIG_SAVE 3 []) none]

/-- Behind such a store. -/
theorem configurations_valid_stray_store :
    (validateConfig (Machine.boot strayStore {} {} microstepsRun).act.activeConfig).ok = true ∧
      (serializeConfig { driver.microsteps := 32 } configBlobMaxSize).isSome = true := by
  have valid := configurations_valid strayStore {} {} microstepsRun _ rfl (by decide)
    (by simp [microstepsRun])
  obtain ⟨active, -, -, -, saves⟩ := valid
  have calls : (Machine.boot strayStore {} {} microstepsRun).calls =
      [.saveConfig { driver.microsteps := 32 } true,
        .loadConfig (some ({ version := 2 }, 7))] := rfl
  refine ⟨active, saves _ true ?_⟩
  rw [calls]
  exact List.mem_cons_self

end Daft
