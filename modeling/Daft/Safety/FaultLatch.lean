import Daft.Safety.Energising

/-!
# The fault latch

`FAULTED` is meant to hold until somebody clears it. A step from `FAULTED`
energises nothing, and it leaves `FAULTED` in exactly five ways: the two that
are meant to (`Releases`) and three that are not (`Escapes`).
-/

namespace Daft

open Logic

/-! ## Ways out of `FAULTED` -/

/-- `CLEAR_FAULTS`, or `SET_CONTROL_MODE` selecting `DISABLED`, is executed. -/
inductive Releases (m : Machine) : Op → Prop where
  | clears {r : Packet} {port : Port} (fresh : m.act.isDuplicate r = false)
      (asks : r.Asks .CLEAR_FAULTS) : Releases m (.handlePacket r port)
  | disables {r : Packet} {port : Port} (fresh : m.act.isDuplicate r = false)
      (asks : r.Asks .SET_CONTROL_MODE) (disabled : r.payload[0] = ControlMode.DISABLED.byte) :
      Releases m (.handlePacket r port)

/-- A `CONFIG_STAGE_FIELD` naming a field that may be staged, with a value the
validation accepts. -/
structure StageRequest (r : Packet) (c : Control) : Prop where
  asks : r.Asks .CONFIG_STAGE_FIELD
  mutable : configFieldMutability (.ofRaw (readU16 (r.at 0))) = .RUNTIME_SAFE ∨
    configFieldMutability (.ofRaw (readU16 (r.at 0))) = .REQUIRES_IDLE
  valid : (stageConfigField c.pendingConfig (.ofRaw (readU16 (r.at 0))) (readI32 (r.at 2))).1.ok =
    true

attribute [grind →] StageRequest.asks

/-- A request is executed that stages a field, applies a staged configuration
or ramps down a motion. -/
inductive Escapes (b : MotionBackend) (m : Machine) : Op → Prop where
  | stages {r : Packet} {port : Port} (fresh : m.act.isDuplicate r = false)
      (request : StageRequest r m.act.toControl) : Escapes b m (.handlePacket r port)
  | applies {r : Packet} {port : Port} (fresh : m.act.isDuplicate r = false)
      (request : ApplyRequest r m.act.toControl)
      (accepted : applyAnswer b (m.arrival b) m.act.toControl ≠ some false) :
      Escapes b m (.handlePacket r port)
  | ramps {r : Packet} {port : Port} (fresh : m.act.isDuplicate r = false)
      (asks : r.Asks .RAMP_STOP)
      (active : b.motionActive.map (fun f => f (m.arrival b)) = some true)
      (stopped : b.rampStop.map (fun f =>
        f (.motionActive true :: m.arrival b) (readU32 (r.at 0))) = some true) :
      Escapes b m (.handlePacket r port)

theorem configFieldMutability_cases (field : ConfigField) :
    configFieldMutability field = .RUNTIME_SAFE ∨ configFieldMutability field = .REQUIRES_IDLE ∨
      configFieldMutability field = .RESERVED ∨ configFieldMutability field = .COMPILE_TIME_ONLY := by
  cases field <;> simp [configFieldMutability]

theorem configFieldMutability_unknown {field : ConfigField}
    (unknown : configFieldKnown field = false) :
    configFieldMutability field = .COMPILE_TIME_ONLY := by
  cases field <;> first | rfl | cases unknown

/-- `stage_field` accepts exactly the requests `StageRequest` describes. -/
theorem stageCandidate_ok_iff {r : Packet} {c : Control} (asks : r.Asks .CONFIG_STAGE_FIELD) :
    (∃ candidate, stageCandidate r c = .ok candidate) ↔ StageRequest r c := by
  have length : r.payloadLen = 6 := asks.rightLength asks.id rfl
  have cases := configFieldMutability_cases (.ofRaw (readU16 (r.at 0)))
  simp only [stageCandidate, stageArguments, length, ne_eq, not_true_eq_false, if_false]
  constructor
  · rintro ⟨candidate, accepted⟩
    split at accepted
    · cases accepted
    split at accepted
    · cases accepted
    split at accepted
    · cases accepted
    split at accepted
    · cases accepted
    case isFalse fixed rebooting invalid =>
      refine ⟨asks, ?_, by simpa using invalid⟩
      rcases cases with safe | idle | reserved | unknown
      · exact .inl safe
      · exact .inr idle
      · exact absurd (.inr reserved) fixed
      · exact absurd (.inl unknown) fixed
  · rintro ⟨-, mutable, valid⟩
    have known : configFieldKnown (.ofRaw (readU16 (r.at 0))) = true := by
      apply eq_true_of_ne_false
      intro unknown
      rcases mutable with safe | idle <;> simp_all [configFieldMutability_unknown unknown]
    refine ⟨(stageConfigField c.pendingConfig (.ofRaw (readU16 (r.at 0))) (readI32 (r.at 2))).2, ?_⟩
    rcases mutable with safe | idle <;> simp [*]

/-! ## One step from `FAULTED` -/

section

variable {b : MotionBackend} {h : History} {r : Packet} {c c' : Control} {calls : List Call}
  {responses : List Packet}

theorem not_allowed_of_faulted (faulted : c.state = .FAULTED) (mode : ControlMode) :
    c.validateMotionAllowed mode ≠ .OK := by
  simp [Control.validateMotionAllowed, faulted]

theorem MotionRequest.not_faulted {answer : Option Bool} {state : ActuatorState}
    {mode : ControlMode} (request : MotionRequest b h r c answer calls state mode) :
    c.state ≠ .FAULTED := by
  intro faulted
  exact not_allowed_of_faulted faulted _ request.allowed

/-- From `FAULTED` only `DISABLED` may be selected. -/
theorem ModeRequest.disables {mode : ControlMode} (request : ModeRequest r c mode)
    (faulted : c.state = .FAULTED) : r.payload[0] = ControlMode.DISABLED.byte :=
  Decidable.byContradiction fun enabling => request.unlatched ⟨faulted, enabling⟩

theorem ModeRequest.mode_of_faulted {mode : ControlMode} (request : ModeRequest r c mode)
    (faulted : c.state = .FAULTED) : mode = .DISABLED := by
  rw [← request.requested, request.disables faulted]
  rfl

theorem RampRequest.active_of_faulted (request : RampRequest b h r c calls)
    (faulted : c.state = .FAULTED) :
    calls = [.motionActive true] ∧ b.motionActive.map (fun f => f h) = some true := by
  cases request with
  | moving _ motion => simp [Control.isMotionState, faulted] at motion
  | active _ _ asked => exact ⟨rfl, asked⟩

/-- A request executed in `FAULTED` keeps it, or is one of five. -/
theorem Served.from_faulted (served : Served b h r c calls responses c')
    (faulted : c.state = .FAULTED) :
    c'.state = .FAULTED ∨ r.Asks .CLEAR_FAULTS ∨
      (r.Asks .SET_CONTROL_MODE ∧ r.payload[0] = ControlMode.DISABLED.byte) ∨
      StageRequest r c ∨ (ApplyRequest r c ∧ applyAnswer b h c ≠ some false) ∨
      (r.Asks .RAMP_STOP ∧ b.motionActive.map (fun f => f h) = some true ∧
        b.rampStop.map (fun f => f (.motionActive true :: h) (readU32 (r.at 0))) = some true) := by
  cases served with
  | cleared asks => exact .inr (.inl asks)
  | disabled request => exact .inr (.inr (.inl ⟨request.asks, request.disables faulted⟩))
  | enabled request enabling => exact absurd (request.mode_of_faulted faulted) enabling
  | staged asks accepted =>
    exact .inr (.inr (.inr (.inl ((stageCandidate_ok_iff asks).mp ⟨_, accepted⟩))))
  | applied request asked accepted =>
    exact .inr (.inr (.inr (.inr (.inl ⟨request, asked ▸ accepted⟩))))
  | ramped request asked =>
    obtain ⟨rfl, active⟩ := request.active_of_faulted faulted
    exact .inr (.inr (.inr (.inr (.inr ⟨request.asks, active, asked⟩))))
  | motionStarted request => exact absurd faulted request.not_faulted
  | _ => exact .inl (by simp [Control.withFault, Control.reset, Control.withTelemetryRate,
      Control.estopped, faulted])

/-- A request executed in `FAULTED` energises nothing. -/
theorem Served.idle_of_faulted (served : Served b h r c calls responses c')
    (faulted : c.state = .FAULTED) : ∀ call ∈ calls, call.energises = false := by
  rcases served.energised with idle | ⟨mode, enabling, request, -⟩ | ⟨_, _, _, request, -⟩
  · exact idle
  · exact absurd (request.mode_of_faulted faulted) enabling
  · exact absurd faulted request.not_faulted

end

/-- A tick in `FAULTED` does nothing. -/
theorem Ticked.of_faulted {b : MotionBackend} {h : History} {elapsed : UInt32} {c c' : Control}
    {calls : List Call} (ticked : Ticked b h elapsed c calls c') (faulted : c.state = .FAULTED) :
    calls = [] ∧ c' = c := by
  cases ticked with
  | idle => exact ⟨rfl, rfl⟩
  | moving motion => simp [faulted] at motion
  | settled motion => simp [faulted] at motion
  | disabled timedOut => simp [Control.TimedOut, faulted] at timedOut
  | ramped timedOut => simp [Control.TimedOut, faulted] at timedOut

section

variable {b : MotionBackend} {m : Machine} {op : Op}

theorem step_from_faulted (faulted : m.act.state = .FAULTED)
    (running : ∀ defaults, op ≠ .begin defaults) :
    (step b m op).act.state = .FAULTED ∨ Releases m op ∨ Escapes b m op := by
  obtain ⟨calls, stepped⟩ := step_stepped b m op
  cases stepped with
  | executed fresh done =>
    rcases done.served.from_faulted faulted with kept | asks | ⟨asks, disabled⟩ | request |
      ⟨request, accepted⟩ | ⟨asks, active, stopped⟩
    · exact .inl kept
    · exact .inr (.inl (.clears fresh asks))
    · exact .inr (.inl (.disables fresh asks disabled))
    · exact .inr (.inr (.stages fresh request))
    · exact .inr (.inr (.applies fresh request accepted))
    · exact .inr (.inr (.ramps fresh asks active stopped))
  | repeated _ done => exact .inl (by rw [done.control]; exact faulted)
  | ticked done =>
    obtain ⟨pending, ticked⟩ := done.ticked
    exact .inl (by rw [(ticked.of_faulted faulted).2]; exact faulted)
  | begun => exact absurd rfl (running _)
  | framed drops done => exact .inl (by rw [done.control]; simp [Control.withFault, drops])
  | reported _ _ done => exact .inl (by rw [done.control]; exact faulted)

/-- A step in `FAULTED` energises nothing. -/
theorem step_idle_of_faulted (faulted : m.act.state = .FAULTED) :
    ∃ new, (step b m op).calls = new ++ m.calls ∧ ∀ call ∈ new, call.energises = false := by
  obtain ⟨calls, stepped⟩ := step_stepped b m op
  refine stepped.calls.none Call.notable_of_energises ?_
  cases stepped with
  | executed _ done => exact done.served.idle_of_faulted faulted
  | ticked done =>
    obtain ⟨pending, ticked⟩ := done.ticked
    simp [(ticked.of_faulted faulted).1]
  | begun done => exact done.begun.energises_nothing
  | reported _ reads => exact reads.all fun _ => rfl
  | _ => simp

/-- An escape leaves `FAULTED`. -/
theorem step_of_escapes (escapes : Escapes b m op) (faulted : m.act.state = .FAULTED) :
    (step b m op).act.state ≠ .FAULTED := by
  have still : m.act.isMotionState = false := by simp [Control.isMotionState, faulted]
  cases escapes with
  | @stages r port fresh request =>
    obtain ⟨calls, responses, done⟩ := step_executed (b := b) fresh port
    obtain ⟨candidate, accepted⟩ := (stageCandidate_ok_iff request.asks).mpr request
    rw [done.served.staged_of request.asks accepted]
    simp [Control.staging, still]
  | @applies r port fresh request accepted =>
    obtain ⟨calls, responses, done⟩ := step_executed (b := b) fresh port
    rw [done.served.applied_of request accepted]
    simp only [Control.applied, Control.restState]
    split <;> simp
  | @ramps r port fresh asks active stopped =>
    obtain ⟨calls, responses, done⟩ := step_executed (b := b) fresh port
    rw [done.served.ramped_of asks still active stopped]
    simp [Control.stopping]

theorem step_of_estop {r : Packet} {port : Port} (fresh : m.act.isDuplicate r = false)
    (asks : r.Asks .ESTOP) : (step b m (.handlePacket r port)).act.toControl = m.act.estopped := by
  obtain ⟨calls, responses, done⟩ := step_executed (b := b) fresh port
  exact (done.served.estopped_of asks).1

/-- What escapes does not release. -/
theorem Escapes.not_releases (escapes : Escapes b m op) : ¬ Releases m op := by
  intro releases
  cases releases with
  | clears _ asks => cases escapes <;> grind
  | disables _ asks => cases escapes <;> grind

end

/-! ## Runs in `FAULTED` -/

/-- A step that neither releases `FAULTED` nor escapes from it. -/
structure Holds (b : MotionBackend) (m : Machine) (op : Op) : Prop where
  running : ∀ defaults, op ≠ .begin defaults
  unreleased : ¬ Releases m op
  contained : ¬ Escapes b m op

/-- While `FAULTED` holds, nothing is energised. -/
theorem run_idle_of_faulted {b : MotionBackend} {m : Machine} {ops : List Op}
    (held : Along (step b) (Holds b) m ops) (faulted : m.act.state = .FAULTED) :
    ∃ new, (run (step b) m ops).calls = new ++ m.calls ∧
      ∀ call ∈ new, call.energises = false := by
  refine held.relates (R := fun m m' : Machine => ∃ new, m'.calls = new ++ m.calls ∧
    ∀ call ∈ new, call.energises = false) (I := fun m => m.act.state = .FAULTED)
    (fun m => ⟨[], rfl, by simp⟩) ?trans (fun m op _ faulted => step_idle_of_faulted faulted)
    ?keeps faulted
  case trans =>
    rintro before middle after ⟨first, extended, idle⟩ ⟨second, again, still⟩
    refine ⟨second ++ first, by rw [again, extended, List.append_assoc], ?_⟩
    exact List.forall_mem_append.mpr ⟨still, idle⟩
  case keeps =>
    intro m op holds faulted
    rcases step_from_faulted (b := b) faulted holds.running with kept | releases | escapes
    · exact kept
    · exact absurd releases holds.unreleased
    · exact absurd escapes holds.contained

/-! ## Main results -/

/-- From `FAULTED`, every operation but `begin` either stays there or is a
release, unless it is an escape. -/
theorem faulted_kept_iff (b : MotionBackend) (m : Machine) (op : Op)
    (faulted : m.act.state = .FAULTED) (running : ∀ defaults, op ≠ .begin defaults) :
    ((step b m op).act.state = .FAULTED ∨ Releases m op) ↔ ¬ Escapes b m op := by
  constructor
  · rintro (kept | releases) escapes
    · exact step_of_escapes escapes faulted kept
    · exact escapes.not_releases releases
  · intro contained
    rcases step_from_faulted (b := b) faulted running with kept | releases | escapes
    · exact .inl kept
    · exact .inr releases
    · exact absurd escapes contained

/-- `CONFIG_STAGE_FIELD` of a telemetry interval of 100 ms. -/
def stageInterval : Packet :=
  .request .CONFIG_STAGE_FIELD 1 (writeU16 ConfigField.TELEMETRY_INTERVAL_MS.raw ++ writeI32 100)

theorem faulted_kept_iff_frame_error :
    (step {} (.boot {} {} {} [.recordFrameError .ERR_BAD_CRC]) (.update none)).act.state =
      .FAULTED ∨ Releases (.boot {} {} {} [.recordFrameError .ERR_BAD_CRC]) (.update none) :=
  (faulted_kept_iff {} (.boot {} {} {} [.recordFrameError .ERR_BAD_CRC]) (.update none)
    (by decide) (by simp)).mpr nofun

/-- After a frame error, staging a field leaves `FAULTED`. -/
theorem faulted_not_sticky :
    ¬ ∀ (b : MotionBackend) (m : Machine) (op : Op), m.Reachable b → m.act.state = .FAULTED →
      (∀ defaults, op ≠ .begin defaults) →
      (step b m op).act.state = .FAULTED ∨ Releases m op := by
  intro sticky
  have left := sticky {} (.boot {} {} {} [.recordFrameError .ERR_BAD_CRC])
    (.handlePacket stageInterval none) ⟨{}, {}, _, rfl⟩ (by decide) (by simp)
  rcases left with kept | releases
  · exact absurd kept (by decide)
  · cases releases with
    | clears _ asks => exact absurd asks.id (by decide)
    | disables _ asks => exact absurd asks.id (by decide)

/-- Once a well-formed `ESTOP` is executed, nothing is energised while `FAULTED`
holds. -/
theorem estop_latches (b : MotionBackend) (m : Machine) (r : Packet) (port : Port) (ops : List Op)
    (fresh : m.act.isDuplicate r = false) (estop : r.msgId = MsgId.ESTOP.byte)
    (empty : r.payloadLen = 0)
    (held : Along (step b) (Holds b) (step b m (.handlePacket r port)) ops) :
    ∃ new, (run (step b) (step b m (.handlePacket r port)) ops).calls =
        new ++ (step b m (.handlePacket r port)).calls ∧
      ∀ call ∈ new, call.energises = false := by
  have asks : r.Asks .ESTOP := ⟨estop, by rw [empty]; rfl⟩
  refine run_idle_of_faulted held ?_
  rw [step_of_estop fresh asks]
  rfl

/-- A backend whose driver obeys. -/
def obedientDriver : MotionBackend := { enableDriver := some fun _ _ => true }

theorem estop_latches_mode_refused :
    ∃ new, (run (step obedientDriver) (step obedientDriver (.boot obedientDriver {} {} [])
          (.handlePacket (.request .ESTOP 1 []) none))
        [.handlePacket (.request .SET_CONTROL_MODE 2 [1]) none]).calls =
        new ++ (step obedientDriver (.boot obedientDriver {} {} [])
          (.handlePacket (.request .ESTOP 1 []) none)).calls ∧
      ∀ call ∈ new, call.energises = false := by
  refine estop_latches obedientDriver (.boot obedientDriver {} {} []) (.request .ESTOP 1 []) none
    [.handlePacket (.request .SET_CONTROL_MODE 2 [1]) none] (by decide) rfl rfl
    ⟨⟨by simp, ?_, ?_⟩, trivial⟩
  · intro releases
    cases releases with
    | clears _ asks => exact absurd asks.id (by decide)
    | disables _ _ disabled => exact absurd disabled (by decide)
  · intro escapes
    cases escapes with
    | stages _ request => exact absurd request.asks.id (by decide)
    | applies _ request => exact absurd request.asks.id (by decide)
    | ramps _ asks => exact absurd asks.id (by decide)

/-- Selecting `DISABLED` and then `POSITION` after an `ESTOP` switches the driver
on without a `CLEAR_FAULTS`. -/
theorem estop_released_by_disabling :
    ¬ ∀ (b : MotionBackend) (m : Machine) (r : Packet) (port : Port) (ops : List Op),
      m.Reachable b → m.act.isDuplicate r = false → r.msgId = MsgId.ESTOP.byte →
      r.payloadLen = 0 →
      Along (step b) (fun m op => (∀ defaults, op ≠ .begin defaults) ∧
        ∀ r port, op = .handlePacket r port → m.act.isDuplicate r = false →
          ¬ r.Asks .CLEAR_FAULTS) (step b m (.handlePacket r port)) ops →
      ∀ new, (run (step b) (step b m (.handlePacket r port)) ops).calls =
          new ++ (step b m (.handlePacket r port)).calls →
        ∀ call ∈ new, call.energises = false := by
  intro latched
  have idle := latched obedientDriver (.boot obedientDriver {} {} []) (.request .ESTOP 1 []) none
    [.handlePacket (.request .SET_CONTROL_MODE 2 [0]) none,
      .handlePacket (.request .SET_CONTROL_MODE 3 [1]) none]
    ⟨{}, {}, [], rfl⟩ (by decide) rfl rfl ?_
    [.enableDriver true true, .enableDriver false true] (by decide) (.enableDriver true true)
    (by simp)
  · exact absurd idle (by decide)
  · refine ⟨⟨by simp, ?_⟩, ⟨by simp, ?_⟩, trivial⟩
    · rintro r port same - asks
      cases same
      exact absurd asks.id (by decide)
    · rintro r port same - asks
      cases same
      exact absurd asks.id (by decide)

end Daft
