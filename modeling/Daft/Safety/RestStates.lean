import Daft.Safety.DriverSwitching

/-!
# Rest states

A host waits for `IDLE` to know that a move is over, and the busy checks keep
velocity runs and position moves apart, so `DISABLED`, `IDLE`, `CONFIG_STAGED`
and `COMMISSIONING` are meant for a motor at rest. Faults may interrupt a
motion state at any time; what matters is how `FAULTED` is left again while the
motor still moves.
-/

namespace Daft

open Logic

/-- The states that promise a motor at rest. -/
def ActuatorState.isRest : ActuatorState → Bool
  | .DISABLED | .IDLE | .CONFIG_STAGED | .COMMISSIONING => true
  | _ => false

/-! ## Requests that enter a rest state -/

/-- A request that enters a rest state without asking for the motor. -/
inductive Settles (b : MotionBackend) (h : History) (r : Packet) (c : Control) : Prop where
  | clears (asks : r.Asks .CLEAR_FAULTS)
  | switches {mode : ControlMode} (request : ModeRequest r c mode)
  | stages {candidate : ActuatorConfig} (still : c.isMotionState = false)
      (asks : r.Asks .CONFIG_STAGE_FIELD) (accepted : stageCandidate r c = .ok candidate)
  | applies (request : ApplyRequest r c) (accepted : applyAnswer b h c ≠ some false)

/-- A `begin`, or a settling request that is executed. -/
inductive Hasty (b : MotionBackend) (m : Machine) : Op → Prop where
  | begins {defaults : ActuatorConfig} : Hasty b m (.begin defaults)
  | requests {r : Packet} {port : Port} (fresh : m.act.isDuplicate r = false)
      (settles : Settles b (m.arrival b) r m.act.toControl) : Hasty b m (.handlePacket r port)

section

variable {b : MotionBackend} {h : History} {r : Packet} {c c' : Control} {calls : List Call}
  {responses : List Packet}

theorem Control.withFault_unrest {flag : FaultFlag} (unrest : c.state.isRest = false) :
    (c.withFault flag).state.isRest = false := by
  simp only [Control.withFault]
  split
  · exact unrest
  · rfl

/-- A rest state is entered by a settling request alone. -/
theorem Served.settles (served : Served b h r c calls responses c')
    (unrest : c.state.isRest = false) : c'.state.isRest = false ∨ Settles b h r c := by
  cases served with
  | disabled request => exact .inr (.switches request)
  | modeConfigureFailed request => exact .inr (.switches request)
  | modeEnableFailed request => exact .inr (.switches request)
  | enabled request => exact .inr (.switches request)
  | cleared asks => exact .inr (.clears asks)
  | staged asks accepted =>
    cases motion : c.isMotionState with
    | true => exact .inl (by simpa [Control.staging, motion] using unrest)
    | false => exact .inr (.stages motion asks accepted)
  | applied request asked accepted => exact .inr (.applies request (asked ▸ accepted))
  | estopped => exact .inl rfl
  | ramped => exact .inl rfl
  | motionStarted request =>
    rcases request.state_isMotion with rfl | rfl <;> exact .inl rfl
  | absLimited => exact .inl (Control.withFault_unrest unrest)
  | relLimited => exact .inl (Control.withFault_unrest unrest)
  | unsupported => exact .inl (Control.withFault_unrest unrest)
  | uartFailed => exact .inl (Control.withFault_unrest unrest)
  | rampFailed => exact .inl (Control.withFault_unrest unrest)
  | applyInvalid => exact .inl (Control.withFault_unrest unrest)
  | applyFailed => exact .inl (Control.withFault_unrest unrest)
  | saveFailed => exact .inl (Control.withFault_unrest unrest)
  | resetConfigureFailed => exact .inl (Control.withFault_unrest unrest)
  | resetStorageFailed => exact .inl (Control.withFault_unrest unrest)
  | motionFailed => exact .inl (Control.withFault_unrest unrest)
  | _ => exact .inl unrest

end

/-! ## The invariant -/

namespace MotionPlant

variable (plant : MotionPlant)

/-- Rest states are for a motor at rest. -/
def RestsIn (c : Control) (h : History) : Prop :=
  c.state.isRest = true → plant.moving h = false

/-- While the motor moves, nothing enters a rest state behind its back. -/
def Unhurried (b : MotionBackend) (m : Machine) (op : Op) : Prop :=
  plant.moving m.calls = true → ¬ Hasty b m op

variable {plant} {b : MotionBackend} {h h' : History} {calls : List Call} {c c' : Control}
  {m : Machine} {op : Op}

/-- A motor at rest stays so until it is started. -/
theorem still_along (rest : plant.moving h = false) (adds : Adds Call.notable h calls h')
    (unstarted : ∀ call ∈ calls, call.startsMotion = false) : plant.moving h' = false :=
  adds.invariant (I := fun h => plant.moving h = false) Call.notable_of_startsMotion unstarted
    (fun _ _ unstarted rest => rest_of_rest rest unstarted) rest

theorem RestsIn.of_still (rest : plant.moving h = false) (adds : Adds Call.notable h calls h')
    (unstarted : ∀ call ∈ calls, call.startsMotion = false) : plant.RestsIn c h' :=
  fun _ => still_along rest adds unstarted

theorem RestsIn.of_unrest (unrest : c.state.isRest = false) : plant.RestsIn c h :=
  fun rest => by simp [unrest] at rest

/-- A motion that has ended was seen to end; any other tick enters no rest state. -/
theorem RestsIn.ticked {elapsed : UInt32} (ticked : Ticked b h elapsed c calls c')
    (reported : plant.ReportedBy b) (unrest : c.state.isRest = false)
    (adds : Adds Call.notable h calls h') : plant.RestsIn c' h' := by
  cases ticked with
  | idle => exact .of_unrest unrest
  | moving => exact .of_unrest unrest
  | settled motion asked =>
    exact .of_still (reported.rest asked) adds (by simp [Call.startsMotion])
  | disabled => exact .of_unrest rfl
  | ramped => exact .of_unrest rfl

/-- With the motor at rest a step leaves it so or enters a motion state. -/
theorem step_rests_at_rest (still : plant.moving m.calls = false) :
    plant.RestsIn (step b m op).act.toControl (step b m op).calls := by
  obtain ⟨calls, stepped⟩ := step_stepped b m op
  have calm := stepped.calls
  cases stepped with
  | executed _ done =>
    rcases done.served.started with unstarted | ⟨state, mode, request, entered⟩
    · exact .of_still still calm unstarted
    · apply RestsIn.of_unrest
      rw [entered]
      rcases request.state_isMotion with rfl | rfl <;> rfl
  | repeated => exact .of_still still calm (by simp)
  | ticked done =>
    obtain ⟨pending, ticked⟩ := done.ticked
    exact .of_still still calm (not_starts_of_idle ticked.energises_nothing)
  | begun done => exact .of_still still calm (not_starts_of_idle done.begun.energises_nothing)
  | framed => exact .of_still still calm (by simp)
  | reported _ reads => exact .of_still still calm (reads.all fun _ => rfl)

/-- Under motion the state is no rest state, and an unhurried step enters one
only after the motion has ended. -/
theorem step_rests_in_motion (unrest : m.act.state.isRest = false) (reported : plant.ReportedBy b)
    (unhurried : ¬ Hasty b m op) :
    plant.RestsIn (step b m op).act.toControl (step b m op).calls := by
  obtain ⟨calls, stepped⟩ := step_stepped b m op
  cases stepped with
  | executed fresh done =>
    rcases done.served.settles unrest with kept | settles
    · exact .of_unrest kept
    · exact absurd (.requests fresh settles) unhurried
  | repeated _ done =>
    apply RestsIn.of_unrest
    rw [done.control]
    exact unrest
  | ticked done =>
    obtain ⟨pending, ticked⟩ := done.ticked
    exact RestsIn.ticked ticked reported unrest done.calls
  | begun => exact absurd .begins unhurried
  | framed drops done =>
    apply RestsIn.of_unrest
    rw [done.control]
    exact Control.withFault_unrest unrest
  | reported _ _ done =>
    apply RestsIn.of_unrest
    rw [done.control]
    exact unrest

theorem step_rests (reported : plant.ReportedBy b) (unhurried : plant.Unhurried b m op)
    (rests : plant.RestsIn m.act.toControl m.calls) :
    plant.RestsIn (step b m op).act.toControl (step b m op).calls := by
  cases moving : plant.moving m.calls with
  | false => exact step_rests_at_rest moving
  | true =>
    have unrest : m.act.state.isRest = false := by
      apply eq_false_of_ne_true
      intro rest
      simp [rests rest] at moving
    exact step_rests_in_motion unrest reported (unhurried moving)

end MotionPlant

/-! ## Main result -/

/-- In a run that enters no rest state behind a moving motor's back, a rest state
means a motor at rest. -/
theorem rest_states_at_rest (b : MotionBackend) (plant : MotionPlant) (build : BuildInfo)
    (defaults : ActuatorConfig) (ops : List Op) (reported : plant.ReportedBy b)
    (unhurried : Along (step b) (plant.Unhurried b) (.boot b build defaults []) ops)
    (rest : (Machine.boot b build defaults ops).act.state.isRest = true) :
    plant.moving (Machine.boot b build defaults ops).calls = false := by
  have still : plant.moving (Machine.powerOn build).calls = false := plant.atRest
  have booted : plant.RestsIn (step b (.powerOn build) (.begin defaults)).act.toControl
      (step b (.powerOn build) (.begin defaults)).calls := MotionPlant.step_rests_at_rest still
  exact unhurried.invariant (I := fun m => plant.RestsIn m.act.toControl m.calls)
    (fun m op unhurried rests => MotionPlant.step_rests reported unhurried rests) booted rest

/-! ## A motor whose moves end by themselves -/

/-- What the motor does; a position move takes `left` more calls. -/
inductive Motor where
  | rest
  | position (left : Nat)
  | velocity
  deriving DecidableEq

namespace Motor

def after : Motor → Call → Motor
  | _, .moveAbsolute _ _ _ true | _, .moveRelative _ _ _ true => .position 32
  | _, .runVelocity _ _ true => .velocity
  | _, .rampStop .. | _, .emergencyStop => .rest
  | .position (left + 1), _ => .position left
  | .velocity, _ => .velocity
  | _, _ => .rest

/-- The calls a position move still takes. -/
def left : Motor → Nat
  | .position left => left + 1
  | _ => 0

/-- The state one call later, where the call neither starts nor stops a motion. -/
def next : Motor → Motor
  | .position (left + 1) => .position left
  | .velocity => .velocity
  | _ => .rest

variable {state : Motor} {call : Call}

theorem after_stops (stops : call.stopsMotion = true) : state.after call = .rest := by
  cases state <;> cases call <;> first | rfl | cases stops

theorem after_move {steps : Int32} {velocity accel : UInt32}
    (moves : call = .moveAbsolute steps velocity accel true ∨
      call = .moveRelative steps velocity accel true) : state.after call = .position 32 := by
  rcases moves with rfl | rfl
  · cases state <;> rfl
  · cases state <;> rfl

theorem after_run {velocity : Int32} {accel : UInt32} :
    state.after (.runVelocity velocity accel true) = .velocity := by
  cases state <;> rfl

theorem after_quiet (quiet : call.governsMotion = false) : state.after call = state.next := by
  have silent : ∀ ok, call.startsMotion = ok → ok = false := by
    rintro ok rfl
    exact (Bool.or_eq_false_iff.mp quiet).1
  rcases state with _ | (_ | left) | _ <;> cases call <;> first
    | rfl
    | cases quiet
    | obtain rfl := silent _ rfl
      rfl

theorem quiet_of_silent (unstarted : call.startsMotion = false) (unstopped : call.stopsMotion = false) :
    call.governsMotion = false := by
  rw [Call.governsMotion, unstarted, unstopped]
  rfl

theorem after_starts (moving : state.after call ≠ .rest) :
    state ≠ .rest ∨ call.startsMotion = true := by
  cases starts : call.startsMotion with
  | true => exact .inr rfl
  | false =>
    cases stops : call.stopsMotion with
    | true => exact absurd (after_stops stops) moving
    | false =>
      rw [after_quiet (quiet_of_silent starts stops)] at moving
      refine .inl ?_
      rintro rfl
      exact moving rfl

/-- Without a command a position move gets shorter and nothing else begins. -/
theorem after_unstarted (steady : state ≠ .velocity) (unstarted : call.startsMotion = false) :
    state.after call ≠ .velocity ∧ (state.after call).left ≤ state.left - 1 := by
  cases stops : call.stopsMotion with
  | true =>
    rw [after_stops stops]
    exact ⟨nofun, Nat.zero_le _⟩
  | false =>
    rw [after_quiet (quiet_of_silent unstarted stops)]
    rcases state with _ | (_ | left) | _
    · exact ⟨nofun, Nat.le_refl _⟩
    · exact ⟨nofun, Nat.le_refl _⟩
    · exact ⟨nofun, Nat.le_refl _⟩
    · exact absurd rfl steady

theorem next_velocity : state.next = .velocity ↔ state = .velocity := by
  rcases state with _ | (_ | left) | _
  · exact ⟨nofun, nofun⟩
  · exact ⟨nofun, nofun⟩
  · exact ⟨nofun, nofun⟩
  · exact Iff.rfl

end Motor

def motor (h : History) : Motor := h.foldr (fun call motor => motor.after call) .rest

theorem motor_velocity (h : History) : motor h = .velocity ↔ velocityLive h = true := by
  induction h with
  | nil => exact ⟨nofun, nofun⟩
  | cons call h ih =>
    have before : motor (call :: h) = (motor h).after call := rfl
    cases governs : call.governsMotion with
    | true =>
      have latest : (call :: h).find? Call.governsMotion = some call := List.find?_cons_of_pos governs
      rw [before, velocityLive, latest]
      cases call with
      | moveAbsolute _ _ _ ok =>
        obtain rfl : ok = true := (Bool.or_false ok).symm.trans governs
        rw [Motor.after_move (.inl rfl)]
        exact ⟨nofun, nofun⟩
      | moveRelative _ _ _ ok =>
        obtain rfl : ok = true := (Bool.or_false ok).symm.trans governs
        rw [Motor.after_move (.inr rfl)]
        exact ⟨nofun, nofun⟩
      | runVelocity _ _ ok =>
        obtain rfl : ok = true := (Bool.or_false ok).symm.trans governs
        rw [Motor.after_run]
        exact ⟨fun _ => rfl, fun _ => rfl⟩
      | rampStop =>
        rw [Motor.after_stops rfl]
        exact ⟨nofun, nofun⟩
      | emergencyStop =>
        rw [Motor.after_stops rfl]
        exact ⟨nofun, nofun⟩
      | _ => cases governs
    | false =>
      have earlier : velocityLive (call :: h) = velocityLive h := by
        simp [velocityLive, governs]
      rw [before, earlier, ← ih, Motor.after_quiet governs, Motor.next_velocity]

def motorPlant : MotionPlant where
  moving h := motor h ≠ .rest
  atRest := rfl
  starts call h moving := by
    have started : (motor h).after call ≠ .rest := of_decide_eq_true moving
    simpa using Motor.after_starts started
  halts h := rfl

/-- What is not a live velocity run ends at some later time, unless started again. -/
def MotionPlant.Ends (plant : MotionPlant) : Prop :=
  ∀ h, velocityLive h = false → ∃ n, ∀ later : List Call, n ≤ later.length →
    (∀ call ∈ later, call.startsMotion = false) → plant.moving (later ++ h) = false

theorem motorPlant_ends : motorPlant.Ends := by
  intro h ended
  have steady : motor h ≠ .velocity := by
    intro live
    simp [(motor_velocity h).mp live] at ended
  have shorter : ∀ later : List Call, (∀ call ∈ later, call.startsMotion = false) →
      motor (later ++ h) ≠ .velocity ∧ (motor (later ++ h)).left ≤ (motor h).left - later.length := by
    intro later unstarted
    induction later with
    | nil => exact ⟨steady, Nat.le_refl _⟩
    | cons call later ih =>
      obtain ⟨here, before⟩ := List.forall_mem_cons.mp unstarted
      obtain ⟨steady, left⟩ := ih before
      obtain ⟨steady', left'⟩ := Motor.after_unstarted steady here
      refine ⟨steady', Nat.le_trans left' ?_⟩
      rw [List.length_cons]
      omega
  refine ⟨(motor h).left, fun later long unstarted => ?_⟩
  obtain ⟨steady, left⟩ := shorter later unstarted
  have none : (motor (later ++ h)).left = 0 := by omega
  cases state : motor (later ++ h) with
  | rest => simp [motorPlant, state]
  | position left => simp [state, Motor.left] at none
  | velocity => exact absurd state steady

/-- An obedient backend in front of it. -/
def motorDriver : MotionBackend :=
  { enableDriver := some fun _ _ => true
    configureDriver := some fun _ _ => true
    moveAbsolute := some fun _ _ _ _ => true
    runVelocity := some fun _ _ _ => true
    rampStop := some fun _ _ => true
    emergencyStop := some ()
    motionActive := some motorPlant.moving }

/-- An `ESTOP` during a move, and the faults cleared after it. -/
theorem rest_states_at_rest_estop :
    motorPlant.moving (Machine.boot motorDriver {} {}
      (moveThenEstop ++ [.handlePacket (.request .CLEAR_FAULTS 4 []) none])).calls = false := by
  refine rest_states_at_rest motorDriver motorPlant {} {} _ ?_ ⟨?_, ?_, ?_, ?_, trivial⟩ (by decide)
  · rintro f ⟨⟩ h moving
    exact moving
  · exact fun moving => absurd moving (by decide)
  · exact fun moving => absurd moving (by decide)
  · rintro - hasty
    cases hasty with
    | requests _ settles =>
      cases settles with
      | clears asks => exact absurd asks.id (by decide)
      | switches request => exact absurd request.asks.id (by decide)
      | stages _ asks => exact absurd asks.id (by decide)
      | applies request => exact absurd request.asks.id (by decide)
  · exact fun moving => absurd moving (by decide)

/-- `CLEAR_FAULTS` during a move: the actuator reports `IDLE` while it moves. -/
theorem idle_under_motion :
    ¬ ∀ (b : MotionBackend) (plant : MotionPlant) (build : BuildInfo) (defaults : ActuatorConfig)
      (ops : List Op), b.motionActive = some plant.moving → plant.Ends →
      (Machine.boot b build defaults ops).act.state.isRest = true →
      plant.moving (Machine.boot b build defaults ops).calls = false := by
  intro rests
  have rest := rests motorDriver motorPlant {} {}
    [.handlePacket (.request .SET_CONTROL_MODE 1 [1]) none, .handlePacket (moveTo100 2) none,
      .handlePacket (.request .CLEAR_FAULTS 3 []) none] rfl motorPlant_ends (by decide)
  exact absurd rest (by decide)

end Daft
