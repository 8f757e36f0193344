import Daft.Safety.Energising

/-!
# Motion and the motion states

While something moves, the firmware is meant to be in one of the three motion
states: `SET_CONTROL_MODE`, `CONFIG_APPLY` and `CONFIG_RESET_DEFAULTS` look at
the state alone, and so does the host timeout. A step leaves the motion states
without calling `ramp_stop` or `emergency_stop` only if it is one of those `Disturbs`
lists.
-/

namespace Daft

open Logic

def Call.stopsMotion : Call → Bool
  | .rampStop .. | .emergencyStop => true
  | _ => false

/-- The calls that decide what the motor is doing. -/
def Call.governsMotion (call : Call) : Bool := call.startsMotion || call.stopsMotion

theorem Call.notable_of_governsMotion (call : Call) (governs : call.governsMotion = true) :
    call.notable = true := by
  cases call <;> first | rfl | cases governs

/-- The latest motion accepted is a velocity run, and neither `ramp_stop` nor
`emergency_stop` was called since. -/
def velocityLive (h : History) : Bool :=
  match h.find? Call.governsMotion with
  | some (.runVelocity ..) => true
  | _ => false

/-! ## Disturbances -/

/-- The driver status read with history `h`. -/
def MotionBackend.statusAt (b : MotionBackend) (h : History) : DriverStatus :=
  (b.driverStatus.map fun f => f h).getD {}

/-- A request that ends in `FAULTED`, or clears it, without stopping the motor. -/
inductive Disturbed (b : MotionBackend) (h : History) (r : Packet) (c : Control) : Prop where
  | clears (asks : r.Asks .CLEAR_FAULTS)
  | unsupported (unsupported : r.Unsupported)
  | uartFails (asks : r.Asks .GET_DRIVER_STATUS)
      (failing : (b.statusAt h).uartFailing = true)
  | saveFails (asks : r.Asks .CONFIG_SAVE)
      (failed : b.saveConfig.map (fun f => f h c.activeConfig) ≠ some true)
  | motionFails {answer : Option Bool} {calls : List Call} {state : ActuatorState}
      {mode : ControlMode} (request : MotionRequest b h r c answer calls state mode)
      (failed : answer ≠ some true)

/-- A `begin`, a frame error, or a disturbing request that is executed. -/
inductive Disturbs (b : MotionBackend) (m : Machine) : Op → Prop where
  | begins {defaults : ActuatorConfig} : Disturbs b m (.begin defaults)
  | frames {error : ErrorCode} : Disturbs b m (.recordFrameError error)
  | requests {r : Packet} {port : Port} (fresh : m.act.isDuplicate r = false)
      (disturbed : Disturbed b (m.arrival b) r m.act.toControl) :
      Disturbs b m (.handlePacket r port)

/-- An executed `RAMP_STOP` whose `ramp_stop` fails. -/
inductive RampFails (b : MotionBackend) (m : Machine) : Op → Prop where
  | executed {r : Packet} {port : Port} (fresh : m.act.isDuplicate r = false)
      (request : RampRequest b (m.arrival b) r m.act.toControl [])
      (failed : b.rampStop.map (fun f => f (m.arrival b) (readU32 (r.at 0))) ≠ some true) :
      RampFails b m (.handlePacket r port)

/-! ## Requests in a motion state -/

/-- The calls no driver may see while its motor moves. -/
def Call.switchesDriver : Call → Bool
  | .enableDriver .. | .configureDriver .. => true
  | _ => false

theorem Call.notable_of_switchesDriver (call : Call) (switches : call.switchesDriver = true) :
    call.notable = true := by
  cases call <;> first | rfl | cases switches

theorem Call.not_switches_of_isMove (call : Call) (moves : call.isMove = true) :
    call.switchesDriver = false := by
  cases call <;> first | rfl | cases moves

/-- Neither starts a motion nor switches the driver. -/
def Call.Neutral (call : Call) : Prop := call.startsMotion = false ∧ call.switchesDriver = false

section

variable {b : MotionBackend} {h : History} {r : Packet} {c c' : Control} {calls : List Call}
  {responses : List Packet} {answer : Option Bool} {state : ActuatorState} {mode : ControlMode}

theorem OnlyReads.neutral (reads : OnlyReads calls) : ∀ call ∈ calls, call.Neutral :=
  fun call member => ⟨reads.all (fun _ => rfl) call member, reads.all (fun _ => rfl) call member⟩

/-- A motion command is accepted into its motion state. -/
theorem MotionRequest.state_isMotion (request : MotionRequest b h r c answer calls state mode) :
    state = .MOVING_POSITION ∨ state = .RUNNING_VELOCITY := by
  cases request with
  | moveAbs => exact .inl rfl
  | moveRel => exact .inl rfl
  | runVel => exact .inr rfl

theorem RampRequest.of_motion (request : RampRequest b h r c calls)
    (motion : c.isMotionState = true) : calls = [] := by
  cases request with
  | moving => rfl
  | active _ still => simp [still] at motion

/-- In a motion state the configuration requests are refused, and an undisturbing
request keeps the state, stops the motor, ramps it down or starts another motion. -/
theorem Served.from_motion (served : Served b h r c calls responses c')
    (motion : c.isMotionState = true) (calm : ¬ Disturbed b h r c) :
    (c'.state = c.state ∧ ∀ call ∈ calls, call.Neutral) ∨ r.Asks .ESTOP ∨
      (RampRequest b h r c [] ∧ ∃ answer : Option Bool,
        answer = b.rampStop.map (fun f => f h (readU32 (r.at 0))) ∧
        calls = logged (.rampStop (readU32 (r.at 0))) answer ∧
        (answer = some true → c'.state = .STOPPING)) ∨
      ∃ state mode, MotionRequest b h r c (some true) calls state mode ∧ c'.state = state := by
  have refused : ∀ {mode}, ModeRequest r c mode → False := fun request => by
    simp [request.still] at motion
  cases served with
  | refused refusal => exact .inl ⟨rfl, refusal.reads.neutral⟩
  | absLimited => exact .inl ⟨rfl, by simp⟩
  | relLimited => exact .inl ⟨rfl, (positionRead_reads b h).neutral⟩
  | unsupported unsupported => exact absurd (.unsupported unsupported) calm
  | answered _ _ reads => exact .inl ⟨rfl, reads.neutral⟩
  | driverRead => exact .inl ⟨rfl, by simp [Call.Neutral, Call.startsMotion, Call.switchesDriver]⟩
  | uartFailed asks asked failing =>
    exact absurd (.uartFails asks (by rw [MotionBackend.statusAt, ← asked]; exact failing)) calm
  | disabled request => exact (refused request).elim
  | modeConfigureFailed request => exact (refused request).elim
  | modeEnableFailed request => exact (refused request).elim
  | enabled request => exact (refused request).elim
  | estopped asks => exact .inr (.inl asks)
  | rampAtRest _ still => simp [still] at motion
  | rampFailed request asked failed =>
    obtain rfl := request.of_motion motion
    exact .inr (.inr (.inl ⟨request, _, asked, by simp, fun stopped => absurd stopped failed⟩))
  | ramped request asked =>
    obtain rfl := request.of_motion motion
    exact .inr (.inr (.inl ⟨request, _, asked.symm, rfl, fun _ => rfl⟩))
  | cleared asks => exact absurd (.clears asks) calm
  | staged => exact .inl ⟨by simp [Control.staging, motion], by simp⟩
  | applyInvalid _ _ still => simp [still] at motion
  | applyFailed request => simp [request.still] at motion
  | applied request => simp [request.still] at motion
  | saveFailed asks asked failed => exact absurd (.saveFails asks (asked ▸ failed)) calm
  | saved => exact .inl ⟨rfl, by simp [Call.Neutral, Call.startsMotion, Call.switchesDriver]⟩
  | resetConfigureFailed request => simp [request.still] at motion
  | resetStorageFailed request => simp [request.still] at motion
  | reset request => simp [request.still] at motion
  | motionFailed request failed => exact absurd (.motionFails request failed) calm
  | motionStarted request accepted =>
    exact .inr (.inr (.inr ⟨_, _, accepted ▸ request, rfl⟩))
  | _ => exact .inl ⟨rfl, by simp⟩

end

end Daft
