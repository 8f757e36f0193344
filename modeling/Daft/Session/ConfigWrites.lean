import Daft.Safety.ConfigCopies

/-!
# Configuration writes

A field can be written by `CONFIG_STAGE_FIELD`, and the telemetry interval by
`SET_TELEM_RATE` as well; the writes reach the active configuration with the
next `CONFIG_APPLY`. Whatever comes in between, none of them is lost: the ledger
of acknowledged writes says what an apply leaves in every field.
-/

namespace Daft

open Logic

/-! ## The ledger -/

/-- The writes acknowledged since the configuration last started over from `base`,
newest first. -/
structure Ledger where
  base : ActuatorConfig
  writes : List (ConfigField × Int32) := []
  deriving DecidableEq

namespace Ledger

variable (ledger : Ledger)

/-- The value of the last write to a field, or the one it started with. -/
def value (field : ConfigField) : Option Int32 :=
  match ledger.writes.find? (·.1 = field) with
  | some (_, value) => some (storedValue field value)
  | none => configFieldValue ledger.base field

def write (field : ConfigField) (value : Int32) : Ledger :=
  { ledger with writes := (field, value) :: ledger.writes }

/-- What an acknowledged request adds. -/
def acknowledged (r : Packet) (defaults : ActuatorConfig) : Ledger :=
  match MsgId.ofByte r.msgId with
  | some .CONFIG_STAGE_FIELD => ledger.write (.ofRaw (readU16 (r.at 0))) (readI32 (r.at 2))
  | some .SET_TELEM_RATE =>
    ledger.write .TELEMETRY_INTERVAL_MS (readU16 (r.at 0)).toUInt32.toInt32
  | some .CONFIG_RESET_DEFAULTS => { base := defaults }
  | _ => ledger

/-- What the answers to a request add. -/
def answered (r : Packet) (responses : List Packet) (defaults : ActuatorConfig) : Ledger :=
  if responses = [ackPacket r.seq r.msgId] then ledger.acknowledged r defaults else ledger

/-- What a step adds. -/
def note (b : MotionBackend) (m : Machine) (op : Op) : Ledger :=
  match op with
  | .begin _ => { base := (step b m op).act.activeConfig }
  | .handlePacket r _ =>
    if m.act.isDuplicate r then ledger
    else ledger.answered r (step b m op).act.lastResponses m.act.defaults
  | _ => ledger

/-- The ledger says what an apply would leave. -/
def Records (c : Control) : Prop :=
  ∀ field : ConfigField, field.Stageable →
    configFieldValue c.pendingConfig field = ledger.value field

end Ledger

/-- The ledger of a run. -/
def configLedger (b : MotionBackend) (build : BuildInfo) (defaults : ActuatorConfig)
    (ops : List Op) : Ledger :=
  noted (step b) (fun m op ledger => ledger.note b m op) (.boot b build defaults [])
    { base := (Machine.boot b build defaults []).act.activeConfig } ops

section

variable {b : MotionBackend} {h : History} {r : Packet} {c c' : Control} {calls : List Call}
  {responses : List Packet} {ledger : Ledger}

/-- A write enters the ledger as it is stored. -/
theorem Ledger.value_write (field : ConfigField) (value : Int32) (other : ConfigField) :
    (ledger.write field value).value other =
      if other = field then some (storedValue field value) else ledger.value other := by
  by_cases same : other = field
  · subst same
    simp [Ledger.value, write]
  · have later : ¬ field = other := fun equal => same equal.symm
    simp [Ledger.value, write, same, later]

/-- An acknowledged request is entered. -/
theorem Ledger.answered_acked (acked : responses = [ackPacket r.seq r.msgId])
    (defaults : ActuatorConfig) :
    ledger.answered r responses defaults = ledger.acknowledged r defaults :=
  if_pos acked

/-- A request that writes nothing leaves no entry. -/
theorem Ledger.answered_unwritten (unwritten : Unwritten r responses) (defaults : ActuatorConfig) :
    ledger.answered r responses defaults = ledger := by
  cases unwritten with
  | refused answer =>
    have refused : responses ≠ [ackPacket r.seq r.msgId] := by
      rw [answer]
      intro same
      exact ackPacket_ne_errorPacket (List.cons.inj same).1.symm
    rw [answered, if_neg refused]
  | @other msg asks plain =>
    have unchanged : ledger.acknowledged r defaults = ledger := by
      rw [acknowledged, asks.found]
      cases msg <;> first | rfl | cases plain
    rw [answered, unchanged, ite_self]

/-! ## One step -/

/-- The ledger is about the configurations alone. -/
theorem Ledger.Records.of_same (records : ledger.Records c) (same : c'.SameConfigs c) :
    ledger.Records c' := by
  intro field stageable
  rw [Control.pendingConfig, same.flag, same.staged, same.active]
  exact records field stageable

/-- The telemetry interval is also written into what is staged. -/
theorem pendingConfig_withTelemetryRate (interval : UInt16) :
    (c.withTelemetryRate interval).pendingConfig =
      { c.pendingConfig with telemetry.intervalMs := interval } := by
  simp only [Control.pendingConfig, Control.withTelemetryRate]
  split <;> rfl

/-- The telemetry interval is entered as a write. -/
theorem Ledger.Records.rated (records : ledger.Records c) (interval : UInt16) :
    (ledger.write .TELEMETRY_INTERVAL_MS interval.toUInt32.toInt32).Records
      (c.withTelemetryRate interval) := by
  intro field stageable
  have before := records field stageable
  rw [value_write, pendingConfig_withTelemetryRate, ← before]
  cases field <;> rfl

/-- A field that is staged is entered as a write. -/
theorem Ledger.Records.staged {candidate : ActuatorConfig} (records : ledger.Records c)
    (accepted : stageCandidate r c = .ok candidate) :
    (ledger.write (.ofRaw (readU16 (r.at 0))) (readI32 (r.at 2))).Records (c.staging candidate) := by
  intro field stageable
  have passed := stageCandidate_accepted accepted
  have pending : (c.staging candidate).pendingConfig =
      (stageConfigField c.pendingConfig (.ofRaw (readU16 (r.at 0))) (readI32 (r.at 2))).2 :=
    stageCandidate_eq accepted
  rw [pending, value_write]
  by_cases written : field = .ofRaw (readU16 (r.at 0))
  · rw [if_pos written, written]
    exact stageConfigField_reads passed
  · rw [if_neg written, stageConfigField_keeps written]
    exact records field stageable

/-- What a request leaves is what the ledger has of it. -/
theorem Served.records (served : Served b h r c calls responses c')
    (unfailing : ResetRequest r c → ¬ ResetFailing b h c) (records : ledger.Records c) :
    (ledger.answered r responses c.defaults).Records c' := by
  cases served.configures with
  | keeps same unwritten =>
    rw [Ledger.answered_unwritten unwritten]
    exact records.of_same same
  | stages asks accepted acked entered =>
    rw [Ledger.answered_acked acked, Ledger.acknowledged, asks.found, entered]
    exact records.staged accepted
  | applies request acked entered =>
    have unwritten : Unwritten r responses := .other request.asks rfl
    rw [Ledger.answered_unwritten unwritten, entered]
    intro field stageable
    have pending : c.applied.pendingConfig = c.pendingConfig := (if_pos request.staged).symm
    rw [pending]
    exact records field stageable
  | resets request acked entered =>
    rw [Ledger.answered_acked acked, Ledger.acknowledged, request.asks.found, entered]
    exact fun _ _ => rfl
  | resetFails request failing => exact absurd failing (unfailing request)
  | rates asks acked entered =>
    rw [Ledger.answered_acked acked, Ledger.acknowledged, asks.found, entered]
    exact records.rated _

/-- An acknowledged `CONFIG_APPLY` with a staged change. -/
theorem Served.applied_of_acked (served : Served b h r c calls responses c')
    (asks : r.msgId = MsgId.CONFIG_APPLY.byte) (staged : c.configStaged = true)
    (acked : responses = [ackPacket r.seq r.msgId]) : c' = c.applied := by
  have found : MsgId.ofByte r.msgId = some .CONFIG_APPLY := by rw [asks, MsgId.ofByte_byte]
  have unrefused : ∀ code, responses ≠ [errorPacket r.seq r.msgId code] := by
    rw [acked]
    intro code same
    exact ackPacket_ne_errorPacket (List.cons.inj same).1
  cases served with
  | applied => rfl
  | refused => exact absurd rfl (unrefused _)
  | unsupported => exact absurd rfl (unrefused _)
  | applyInvalid => exact absurd rfl (unrefused _)
  | applyFailed => exact absurd rfl (unrefused _)
  | nothingStaged _ none => simp [none] at staged
  | _ => grind

end

/-! ## Runs -/

/-- A `CONFIG_RESET_DEFAULTS` is executed and a call it makes fails. -/
inductive ResetFails (b : MotionBackend) (m : Machine) : Op → Prop where
  | resets {r : Packet} {port : Port} (fresh : m.act.isDuplicate r = false)
      (request : ResetRequest r m.act.toControl)
      (failing : ResetFailing b (m.arrival b) m.act.toControl) :
      ResetFails b m (.handlePacket r port)

section

variable {b : MotionBackend} {m : Machine} {op : Op} {ledger : Ledger}

/-- The answer that is kept tells whether a request was acknowledged. -/
theorem Ledger.note_acked {r : Packet} {port : Port} (fresh : m.act.isDuplicate r = false)
    (acked : (step b m (.handlePacket r port)).act.lastResponses = [ackPacket r.seq r.msgId]) :
    ledger.note b m (.handlePacket r port) = ledger.acknowledged r m.act.defaults := by
  rw [note, fresh]
  exact answered_acked acked _

theorem Ledger.note_refused {r : Packet} {port : Port} {code : ErrorCode}
    (fresh : m.act.isDuplicate r = false)
    (refused : (step b m (.handlePacket r port)).act.lastResponses =
      [errorPacket r.seq r.msgId code]) : ledger.note b m (.handlePacket r port) = ledger := by
  rw [note, fresh]
  exact answered_unwritten (.refused refused) _

/-- Every step but a failing reset keeps the ledger true. -/
theorem step_records (unfailing : ¬ ResetFails b m op) (records : ledger.Records m.act.toControl) :
    (ledger.note b m op).Records (step b m op).act.toControl := by
  obtain ⟨calls, stepped⟩ := step_stepped b m op
  cases stepped with
  | executed fresh done =>
    rw [Ledger.note, fresh, done.lastResponses]
    exact done.served.records (fun request failing => unfailing (.resets fresh request failing)) records
  | repeated duplicate done =>
    rw [Ledger.note, duplicate, done.control]
    exact records
  | ticked done =>
    obtain ⟨pending, ticked⟩ := done.ticked
    have booted : ledger.Records { m.act.toControl with bootEventPending := pending } :=
      records.of_same ⟨rfl, rfl, rfl, rfl⟩
    exact booted.of_same ticked.sameConfigs
  | begun done =>
    obtain ⟨fresh, -⟩ := done.begun.fresh
    intro field stageable
    rw [Control.pendingConfig, fresh.unstaged]
    rfl
  | framed _ done =>
    rw [done.control]
    exact records.of_same ⟨rfl, rfl, rfl, rfl⟩
  | reported telemetry _ done =>
    have unchanged : ledger.note b m op = ledger := by
      cases op <;> first | rfl | cases telemetry
    rw [unchanged, done.control]
    exact records

/-- The ledger is true after every run without a failing reset. -/
theorem boot_records {build : BuildInfo} {defaults : ActuatorConfig} {ops : List Op}
    (unfailing : Along (step b) (fun m op => ¬ ResetFails b m op) (.boot b build defaults []) ops) :
    (configLedger b build defaults ops).Records (Machine.boot b build defaults ops).act.toControl := by
  have initial : Ledger.Records { base := (Machine.boot b build defaults []).act.activeConfig }
      (Machine.boot b build defaults []).act.toControl := by
    obtain ⟨calls, done⟩ := step_begun b (.powerOn build) defaults
    obtain ⟨fresh, -⟩ := done.begun.fresh
    intro field stageable
    rw [Control.pendingConfig, if_neg (by rw [Machine.boot, run_nil, fresh.unstaged]; decide)]
    rfl
  have preserves : ∀ m op (ledger : Ledger), ¬ ResetFails b m op →
      ledger.Records m.act.toControl → (ledger.note b m op).Records (step b m op).act.toControl :=
    fun _ _ _ => step_records
  exact @Along.noted _ _ (step b) _ Ledger _ (fun m ledger => ledger.Records m.act.toControl)
    preserves _ _ _ unfailing initial

end

/-! ## Main result -/

/-- As long as no call of a `CONFIG_RESET_DEFAULTS` fails, an acknowledged
`CONFIG_APPLY` with a staged change leaves in every stageable field the last value
written to it, or the one it started with. -/
theorem last_write_applied (b : MotionBackend) (build : BuildInfo) (defaults : ActuatorConfig)
    (ops : List Op) (r : Packet) (port : Port) (m m' : Machine)
    (reached : m = .boot b build defaults ops) (applied : m' = step b m (.handlePacket r port))
    (unfailing : Along (step b) (fun m op => ¬ ResetFails b m op) (.boot b build defaults []) ops)
    (asks : r.msgId = MsgId.CONFIG_APPLY.byte) (fresh : m.act.isDuplicate r = false)
    (staged : m.act.configStaged = true)
    (acked : m'.act.lastResponses = [ackPacket r.seq r.msgId]) :
    ∀ field : ConfigField, field.Stageable →
      configFieldValue m'.act.activeConfig field =
        (configLedger b build defaults ops).value field := by
  have records := boot_records unfailing
  obtain ⟨calls, responses, done⟩ := step_executed (b := b) fresh port
  rw [← applied] at done
  rw [done.lastResponses] at acked
  have entered := done.served.applied_of_acked asks staged acked
  intro field stageable
  have pending : m'.act.activeConfig = m.act.pendingConfig := by
    rw [entered, Control.pendingConfig, if_pos staged]
    rfl
  rw [pending, reached]
  exact records field stageable

/-- A field staged, a value rejected and the telemetry rate set. -/
def stagingRun : List Op :=
  [.handlePacket (stageField .MICROSTEPS 32 1) none,
    .handlePacket (stageField .HOLD_CURRENT_MA 900 2) none,
    .handlePacket (.request .SET_TELEM_RATE 3 (writeU16 50)) none]

theorem last_write_applied_staging_run :
    configFieldValue (step {} (.boot {} {} {} stagingRun)
        (.handlePacket (.request .CONFIG_APPLY 4 []) none)).act.activeConfig .MICROSTEPS = some 32 ∧
      configFieldValue (step {} (.boot {} {} {} stagingRun)
        (.handlePacket (.request .CONFIG_APPLY 4 []) none)).act.activeConfig .HOLD_CURRENT_MA =
          configFieldValue {} .HOLD_CURRENT_MA := by
  have unfailing : ∀ m op, ¬ ResetFails {} m op := by
    rintro m op ⟨-, -, failing⟩
    cases failing with
    | driver failed => cases failed
    | storage _ failed => cases failed
  have staged : ∀ ledger : Ledger, ledger.note {} (.boot {} {} {} [])
      (.handlePacket (stageField .MICROSTEPS 32 1) none) = ledger.write .MICROSTEPS 32 :=
    fun ledger => (Ledger.note_acked rfl rfl).trans rfl
  have answer : (step {} (.boot {} {} {} (stagingRun.take 1))
      (.handlePacket (stageField .HOLD_CURRENT_MA 900 2) none)).act.lastResponses =
        [errorPacket 2 MsgId.CONFIG_STAGE_FIELD.byte .ERR_OUT_OF_RANGE] := rfl
  have rejected : ∀ ledger : Ledger, ledger.note {} (.boot {} {} {} (stagingRun.take 1))
      (.handlePacket (stageField .HOLD_CURRENT_MA 900 2) none) = ledger := fun ledger =>
    Ledger.note_refused rfl answer
  have rated : ∀ ledger : Ledger, ledger.note {} (.boot {} {} {} (stagingRun.take 2))
      (.handlePacket (.request .SET_TELEM_RATE 3 (writeU16 50)) none) =
        ledger.write .TELEMETRY_INTERVAL_MS 50 := fun ledger => (Ledger.note_acked rfl rfl).trans rfl
  have notes : configLedger {} {} {} stagingRun =
      ((Ledger.note { base := {} } {} (.boot {} {} {} [])
        (.handlePacket (stageField .MICROSTEPS 32 1) none)).note {} (.boot {} {} {} (stagingRun.take 1))
          (.handlePacket (stageField .HOLD_CURRENT_MA 900 2) none)).note {}
            (.boot {} {} {} (stagingRun.take 2))
            (.handlePacket (.request .SET_TELEM_RATE 3 (writeU16 50)) none) := by
    rw [configLedger, stagingRun, noted, noted, noted, noted]
    rfl
  have ledger : configLedger {} {} {} stagingRun =
      { base := {}, writes := [(.TELEMETRY_INTERVAL_MS, 50), (.MICROSTEPS, 32)] } := by
    rw [notes, staged, rejected, rated]
    rfl
  have applied := last_write_applied {} {} {} stagingRun (.request .CONFIG_APPLY 4 []) none _ _ rfl
    rfl (along_of_always unfailing _ _) rfl rfl rfl rfl
  rw [ledger] at applied
  exact ⟨applied .MICROSTEPS (by decide), applied .HOLD_CURRENT_MA (by decide)⟩

end Daft
