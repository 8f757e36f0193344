import Daft.Safety.Energising

/-!
# The driver outputs

`driver_enabled_` and the state are what the host learns about the driver
outputs. The outputs themselves follow from the calls made: every handler keeps
the members in step with them, also where a callback fails half way.
-/

namespace Daft

open Logic

/-- The driver outputs: `enable_driver(false)` and `emergency_stop` switch them off,
an `enable_driver(true)` that succeeds switches them on, and one that fails leaves
them as they are. -/
def outputsOn : History → Bool
  | [] => false
  | .enableDriver true ok :: past => ok || outputsOn past
  | .enableDriver false _ :: _ => false
  | .emergencyStop :: _ => false
  | _ :: past => outputsOn past

/-- The calls that switch the outputs. -/
def Call.drivesOutputs : Call → Bool
  | .enableDriver .. | .emergencyStop => true
  | _ => false

theorem Call.notable_of_drivesOutputs (call : Call) (drives : call.drivesOutputs = true) :
    call.notable = true := by
  cases call <;> first | rfl | cases drives

theorem Call.not_drives_of_isMove (call : Call) (moves : call.isMove = true) :
    call.drivesOutputs = false := by
  cases call <;> first | rfl | cases moves

/-- What a state promises of the outputs. -/
def ActuatorState.promises : ActuatorState → Option Bool
  | .DISABLED => some false
  | .IDLE | .MOVING_POSITION | .RUNNING_VELOCITY | .COMMISSIONING => some true
  | _ => none

/-- The invariant: the members say what the outputs are. -/
structure Reported (c : Control) (on : Bool) : Prop where
  enabled : c.driverEnabled = on
  promised : ∀ promise, c.state.promises = some promise → on = promise

/-! ## Histories -/

section

variable {h h' : History} {calls : List Call}

theorem outputsOn_cons {call : Call} (silent : call.drivesOutputs = false) (past : History) :
    outputsOn (call :: past) = outputsOn past := by
  cases call <;> first | rfl | cases silent

theorem outputsOn_silent (silent : ∀ call ∈ calls, call.drivesOutputs = false) :
    outputsOn (calls ++ h) = outputsOn h := by
  induction calls with
  | nil => rfl
  | cons call calls ih =>
    obtain ⟨here, before⟩ := List.forall_mem_cons.mp silent
    rw [List.cons_append, outputsOn_cons here, ih before]

/-- The notable calls decide the outputs. -/
theorem outputsOn_adds (adds : Adds Call.notable h calls h') :
    outputsOn h' = outputsOn (calls ++ h) := by
  apply adds.reads
  · intro call past quiet
    exact outputsOn_cons (absent_of_silent Call.notable_of_drivesOutputs quiet) past
  · intro call past past' same
    cases drives : call.drivesOutputs with
    | false => rw [outputsOn_cons drives, outputsOn_cons drives, same]
    | true =>
      cases call with
      | emergencyStop => rfl
      | enableDriver enabled ok =>
        cases enabled with
        | false => rfl
        | true => simp only [outputsOn, same]
      | _ => cases drives

/-- Switching off, through a wired callback. -/
theorem outputsOn_disabled {answer : Option Bool} (wired : answer.isSome = true) :
    outputsOn (logged (.enableDriver false) answer ++ h) = false := by
  obtain ⟨ok, rfl⟩ := Option.isSome_iff_exists.mp wired
  rfl

/-- Calls that energise nothing leave outputs that are off as they are. -/
theorem outputsOff_idle (idle : ∀ call ∈ calls, call.energises = false)
    (off : outputsOn h = false) : outputsOn (calls ++ h) = false := by
  induction calls with
  | nil => exact off
  | cons call calls ih =>
    obtain ⟨here, before⟩ := List.forall_mem_cons.mp idle
    rw [List.cons_append]
    cases call with
    | emergencyStop => rfl
    | enableDriver enabled ok =>
      obtain rfl : enabled = false := here
      rfl
    | _ => exact ih before

end

/-! ## One step -/

section

variable {b : MotionBackend} {h : History} {r : Packet} {c c' : Control} {calls : List Call}
  {responses : List Packet} {on : Bool}

/-- A state that promises nothing new. -/
theorem Reported.keep (reported : Reported c on) (enabled : c'.driverEnabled = c.driverEnabled)
    (state : c'.state.promises = none ∨ c'.state.promises = c.state.promises ∨
      c'.state.promises = some c.driverEnabled) : Reported c' on := by
  constructor
  · exact enabled.trans reported.enabled
  · intro promise promises
    rcases state with none | same | rest
    · rw [none] at promises
      cases promises
    · exact reported.promised promise (same ▸ promises)
    · rw [rest, Option.some.injEq] at promises
      rw [← reported.enabled, promises]

theorem Control.restState_promises : c.restState.promises = some c.driverEnabled := by
  unfold restState
  cases c.driverEnabled <;> rfl

theorem Reported.withFault (reported : Reported c on) (flag : FaultFlag) :
    Reported (c.withFault flag) on := by
  refine reported.keep rfl ?_
  simp only [Control.withFault]
  split
  · exact .inr (.inl rfl)
  · exact .inl rfl

theorem MotionRequest.promises {answer : Option Bool} {state : ActuatorState} {mode : ControlMode}
    (request : MotionRequest b h r c answer calls state mode) :
    state.promises = some c.driverEnabled := by
  rw [request.enabled]
  cases request <;> rfl

theorem Reported.of_silent {past : History} (silent : ∀ call ∈ calls, call.drivesOutputs = false)
    (reported : Reported c (outputsOn past)) : Reported c (outputsOn (calls ++ past)) := by
  rw [outputsOn_silent silent]
  exact reported

/-- With the outputs off no state that promises them on may be left. -/
theorem Reported.off (disabled : c.driverEnabled = false)
    (state : c.state = .DISABLED ∨ c.state = .FAULTED) : Reported c false := by
  constructor
  · exact disabled
  · intro promise promises
    rcases state with at_rest | faulted
    · rw [at_rest] at promises
      exact Option.some.inj promises
    · rw [faulted] at promises
      cases promises

theorem Served.reported {past : History} (served : Served b h r c calls responses c')
    (wired : b.enableDriver.isSome = true) (reported : Reported c (outputsOn past)) :
    Reported c' (outputsOn (calls ++ past)) := by
  have selected : ∀ mode, Reported { c with controlMode := mode } (outputsOn past) := fun mode =>
    reported.keep rfl (.inr (.inl rfl))
  have reset : Reported c.reset (outputsOn past) := reported.keep rfl (.inr (.inl rfl))
  have same : Reported c' (outputsOn past) → (∀ call ∈ calls, call.drivesOutputs = false) →
      Reported c' (outputsOn (calls ++ past)) := fun reported silent => reported.of_silent silent
  cases served with
  | disabled _ asked =>
    rw [outputsOn_disabled (by rw [asked, Option.isSome_map, wired])]
    exact .off rfl (.inl rfl)
  | modeConfigureFailed =>
    exact same ((selected _).withFault _) (by simp [Call.drivesOutputs])
  | @modeEnableFailed mode configured =>
    have quiet : ∀ call ∈ logged (.configureDriver c.activeConfig.driver) configured,
        call.drivesOutputs = false := by simp [Call.drivesOutputs]
    have unchanged : outputsOn (.enableDriver true false ::
        logged (.configureDriver c.activeConfig.driver) configured ++ past) = outputsOn past := by
      rw [List.cons_append, outputsOn, Bool.false_or, outputsOn_silent quiet]
    rw [unchanged]
    exact (selected mode).withFault .DRIVER
  | @enabled mode configured answer _ _ _ _ asked switched =>
    have on : answer = some true := asked.trans (accepts_of_wired wired (asked ▸ switched))
    have switchedOn : outputsOn (logged (.enableDriver true) answer ++
        logged (.configureDriver c.activeConfig.driver) configured ++ past) = true := by
      rw [on]
      rfl
    rw [switchedOn]
    constructor
    · rfl
    · intro promise promises
      simp only [Control.enabled] at promises
      split at promises
      · exact Option.some.inj promises
      · exact Option.some.inj promises
  | estopped _ _ asked =>
    rw [List.append_assoc, outputsOn_disabled (by rw [asked, Option.isSome_map, wired])]
    exact .off rfl (.inr rfl)
  | cleared => exact same (reported.keep rfl (.inr (.inr Control.restState_promises))) (by simp)
  | staged =>
    refine same (reported.keep rfl ?_) (by simp)
    simp only [Control.staging]
    split
    · exact .inr (.inl rfl)
    · exact .inl rfl
  | applied =>
    exact same (reported.keep rfl (.inr (.inr Control.restState_promises)))
      (by simp [Call.drivesOutputs])
  | ramped request =>
    exact same (reported.keep rfl (.inl rfl)) (List.forall_mem_cons.mpr ⟨rfl, request.all rfl⟩)
  | motionStarted request =>
    exact same (reported.keep rfl (.inr (.inr request.promises)))
      (request.silent Call.not_drives_of_isMove fun _ => rfl)
  | motionFailed request =>
    exact same (reported.withFault _) (request.silent Call.not_drives_of_isMove fun _ => rfl)
  | rampFailed request =>
    exact same (reported.withFault _)
      (List.forall_mem_append.mpr ⟨by simp [Call.drivesOutputs], request.all rfl⟩)
  | refused refusal => exact same reported (refusal.reads.all fun _ => rfl)
  | answered _ _ reads => exact same reported (reads.all fun _ => rfl)
  | relLimited => exact same (reported.withFault _) ((positionRead_reads b h).all fun _ => rfl)
  | absLimited => exact same (reported.withFault _) (by simp)
  | unsupported => exact same (reported.withFault _) (by simp)
  | uartFailed => exact same (reported.withFault _) (by simp [Call.drivesOutputs])
  | applyInvalid => exact same (reported.withFault _) (by simp)
  | applyFailed => exact same (reported.withFault _) (by simp [Call.drivesOutputs])
  | saveFailed => exact same (reported.withFault _) (by simp [Call.drivesOutputs])
  | resetConfigureFailed =>
    exact same (reset.withFault _) (by simp [Call.drivesOutputs])
  | resetStorageFailed =>
    exact same (reset.withFault _) (by simp [Call.drivesOutputs])
  | reset =>
    exact same reset (by simp [Call.drivesOutputs, or_imp, forall_and])
  | _ => exact same (reported.keep rfl (.inr (.inl rfl))) (by simp [Call.drivesOutputs])

theorem Ticked.reported {elapsed : UInt32} {past : History}
    (ticked : Ticked b h elapsed c calls c') (wired : b.enableDriver.isSome = true)
    (reported : Reported c (outputsOn past)) : Reported c' (outputsOn (calls ++ past)) := by
  cases ticked with
  | idle => exact reported
  | moving => exact reported.of_silent (by simp [Call.drivesOutputs])
  | settled =>
    have settled : Reported c.settled (outputsOn past) :=
      reported.keep rfl (.inr (.inr Control.restState_promises))
    exact settled.of_silent (by simp [Call.drivesOutputs])
  | disabled _ _ _ wiring =>
    rw [List.append_assoc, outputsOn_disabled (wiring.trans wired)]
    exact .off rfl (.inr rfl)
  | ramped =>
    have stopping : Reported (c.withFault .HOST_TIMEOUT).stopping (outputsOn past) :=
      reported.keep rfl (.inl rfl)
    exact stopping.of_silent (by simp [Call.drivesOutputs])

theorem Begun.reported {defaults : ActuatorConfig} {past : History} (begun : Begun defaults calls c)
    (off : outputsOn past = false) : Reported c (outputsOn (calls ++ past)) := by
  obtain ⟨fresh, state⟩ := begun.fresh
  rw [outputsOff_idle begun.energises_nothing off]
  exact .off fresh.disabled state

end

/-! ## Runs -/

/-- The outputs are off where `begin` is called. -/
def BeginsOff (m : Machine) (op : Op) : Prop := op.restarts = true → outputsOn m.calls = false

section

variable {b : MotionBackend} {m : Machine} {op : Op}

theorem step_reported (wired : b.enableDriver.isSome = true) (off : BeginsOff m op)
    (reported : Reported m.act.toControl (outputsOn m.calls)) :
    Reported (step b m op).act.toControl (outputsOn (step b m op).calls) := by
  obtain ⟨calls, stepped⟩ := step_stepped b m op
  rw [outputsOn_adds stepped.calls]
  cases stepped with
  | executed _ done => exact done.served.reported wired reported
  | repeated _ done =>
    rw [done.control]
    exact reported
  | ticked done =>
    obtain ⟨pending, ticked⟩ := done.ticked
    have booted : Reported { m.act.toControl with bootEventPending := pending }
      (outputsOn m.calls) := reported.keep rfl (.inr (.inl rfl))
    exact ticked.reported wired booted
  | begun done => exact done.begun.reported (off rfl)
  | framed _ done =>
    rw [done.control]
    exact reported.withFault _
  | reported _ reads done =>
    rw [done.control]
    exact reported.of_silent (reads.all fun _ => rfl)

theorem boot_reported {build : BuildInfo} {defaults : ActuatorConfig} {ops : List Op}
    (wired : b.enableDriver.isSome = true)
    (off : Along (step b) BeginsOff (.boot b build defaults []) ops) :
    Reported (Machine.boot b build defaults ops).act.toControl
      (outputsOn (Machine.boot b build defaults ops).calls) := by
  refine off.invariant (I := fun m => Reported m.act.toControl (outputsOn m.calls))
    (fun m op off reported => step_reported wired off reported) ?_
  obtain ⟨calls, done⟩ := step_begun b (.powerOn build) defaults
  rw [Machine.boot, run_nil, outputsOn_adds done.calls]
  exact done.begun.reported rfl

end

/-! ## Main result -/

/-- With the outputs off at every `begin`, `driver_enabled_` is what they are after
every operation; `DISABLED` means that they are off, and a state that is idle or
moves that they are on. -/
theorem driver_state_reported (b : MotionBackend) (build : BuildInfo) (defaults : ActuatorConfig)
    (ops : List Op) (m : Machine) (reached : m = .boot b build defaults ops)
    (wired : b.enableDriver.isSome = true)
    (off : Along (step b) BeginsOff (.boot b build defaults []) ops) :
    m.act.driverEnabled = outputsOn m.calls ∧
      (m.act.state = .DISABLED → outputsOn m.calls = false) ∧
      ((m.act.state = .IDLE ∨ m.act.state = .MOVING_POSITION ∨ m.act.state = .RUNNING_VELOCITY ∨
        m.act.state = .COMMISSIONING) → outputsOn m.calls = true) := by
  have reported : Reported m.act.toControl (outputsOn m.calls) := by
    rw [reached]
    exact boot_reported wired off
  refine ⟨reported.enabled, ?_, ?_⟩
  · intro disabled
    exact reported.promised false (by rw [disabled]; rfl)
  · rintro (idle | moving | running | commissioning)
    · exact reported.promised true (by rw [idle]; rfl)
    · exact reported.promised true (by rw [moving]; rfl)
    · exact reported.promised true (by rw [running]; rfl)
    · exact reported.promised true (by rw [commissioning]; rfl)

/-- A driver whose outputs fail to switch on the second time they are asked to. -/
def hesitantDriver : MotionBackend :=
  { enableDriver := some fun h enabled => enabled = true → (h.filter Call.energises).length ≠ 1
    emergencyStop := some () }

/-- The driver switched on, stopped, begun anew and not switched on again. -/
theorem driver_state_reported_hesitant :
    outputsOn (Machine.boot hesitantDriver {} {}
      [.handlePacket (.request .SET_CONTROL_MODE 1 [1]) none,
        .handlePacket (.request .ESTOP 2 []) none, .begin {},
        .handlePacket (.request .SET_CONTROL_MODE 1 [1]) none]).calls = false := by
  have packet : ∀ m r port, BeginsOff m (.handlePacket r port) := fun _ _ _ restarts => by
    cases restarts
  have reported := driver_state_reported hesitantDriver {} {}
    [.handlePacket (.request .SET_CONTROL_MODE 1 [1]) none,
      .handlePacket (.request .ESTOP 2 []) none, .begin {},
      .handlePacket (.request .SET_CONTROL_MODE 1 [1]) none] _ rfl rfl
    ⟨packet _ _ _, packet _ _ _, fun _ => by decide, packet _ _ _, trivial⟩
  obtain ⟨enabled, -, -⟩ := reported
  exact enabled.symm.trans (by decide)

end Daft
