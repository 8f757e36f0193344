import Daft.Logic.Run
import Daft.Safety.Motion

/-!
# Switching the driver under motion

`configure_driver` and `enable_driver` are for a motor at rest. The firmware
goes by its state, so the argument is that the motor moves only in a motion
state; `ESTOP` and the host timeout, which switch the driver off in one, stop
the motor first.
-/

namespace Daft

open Logic

/-- The motor behind the callbacks: whether it moves follows from the calls made. -/
structure MotionPlant where
  moving : History → Bool
  atRest : moving [] = false
  /-- Motion starts only by an accepted motion command. -/
  starts : ∀ call h, moving (call :: h) = true → moving h = true ∨ call.startsMotion = true
  halts : ∀ h, moving (.emergencyStop :: h) = false

namespace MotionPlant

variable (plant : MotionPlant)

/-- The driver was configured and switched only with the motor at rest. -/
def Undriven : History → Prop :=
  Since (fun call past => call.switchesDriver = true → plant.moving past = false) []

/-- `motion_active`, where there is one, reports every motion. -/
def ReportedBy (b : MotionBackend) : Prop :=
  ∀ f, b.motionActive = some f → ∀ h, plant.moving h = true → f h = true

/-- While the motor moves, nothing disturbs it and `ramp_stop` does not fail. -/
def Calm (b : MotionBackend) (m : Machine) (op : Op) : Prop :=
  plant.moving m.calls = true → ¬ Disturbs b m op ∧ ¬ RampFails b m op

/-- The motor moves in motion states alone, and the driver was never switched meanwhile. -/
structure Supervised (c : Control) (h : History) : Prop where
  watched : plant.moving h = true → c.isMotionState = true
  undriven : plant.Undriven h

variable {plant} {h h' : History} {calls : List Call} {c c' : Control}

theorem rest_of_rest {call : Call} (rest : plant.moving h = false)
    (unstarted : call.startsMotion = false) : plant.moving (call :: h) = false := by
  apply eq_false_of_ne_true
  intro moving
  rcases plant.starts call h moving with before | starts
  · simp [rest] at before
  · simp [unstarted] at starts

/-- A motor at rest that is not started stays so, whatever is done to the driver. -/
theorem rest_along (rest : plant.moving h = false) (undriven : plant.Undriven h)
    (adds : Adds Call.notable h calls h') (unstarted : ∀ call ∈ calls, call.startsMotion = false) :
    plant.moving h' = false ∧ plant.Undriven h' := by
  refine adds.invariant (I := fun h => plant.moving h = false ∧ plant.Undriven h)
    Call.notable_of_startsMotion unstarted ?_ ⟨rest, undriven⟩
  rintro call past unstarted ⟨rest, undriven⟩
  exact ⟨rest_of_rest rest unstarted, undriven.cons fun _ => rest⟩

theorem undriven_along (undriven : plant.Undriven h) (adds : Adds Call.notable h calls h')
    (unswitched : ∀ call ∈ calls, call.switchesDriver = false) : plant.Undriven h' :=
  undriven.trans (adds.since_of_absent Call.notable_of_switchesDriver unswitched)

namespace Supervised

variable (supervised : plant.Supervised c h)

include supervised

theorem of_rest (rest : plant.moving h = false) (adds : Adds Call.notable h calls h')
    (unstarted : ∀ call ∈ calls, call.startsMotion = false) : plant.Supervised c' h' := by
  obtain ⟨still, undriven⟩ := rest_along rest supervised.undriven adds unstarted
  exact ⟨fun moving => by simp [still] at moving, undriven⟩

/-- Neutral calls from a motion state into a motion state. -/
theorem keep (adds : Adds Call.notable h calls h') (neutral : ∀ call ∈ calls, call.Neutral)
    (state : c.isMotionState = true → c'.isMotionState = true) : plant.Supervised c' h' := by
  refine ⟨fun moving => ?_, undriven_along supervised.undriven adds fun call member =>
    (neutral call member).2⟩
  cases before : plant.moving h with
  | true => exact state (supervised.watched before)
  | false =>
    have rest := rest_along before supervised.undriven adds fun call member => (neutral call member).1
    simp [rest.1] at moving

/-- A motion command enters its motion state. -/
theorem start {b : MotionBackend} {arrival : History} {r : Packet} {answer : Option Bool}
    {state : ActuatorState} {mode : ControlMode}
    (request : MotionRequest b arrival r c answer calls state mode) (entered : c'.state = state)
    (adds : Adds Call.notable h calls h') : plant.Supervised c' h' := by
  refine ⟨fun _ => ?_, undriven_along supervised.undriven adds
    (request.silent Call.not_switches_of_isMove fun _ => rfl)⟩
  rcases request.state_isMotion with position | velocity <;>
    simp [Control.isMotionState, *]

/-- The driver may be switched off right after the motor was stopped. -/
theorem halt {answer : Option Bool}
    (adds : Adds Call.notable h (logged (.enableDriver false) answer ++ [.emergencyStop]) h') :
    plant.Supervised c' h' := by
  obtain ⟨stopped, before, after⟩ := adds.between rfl
  obtain ⟨past, earlier, later⟩ := before.last
  have undriven := undriven_along supervised.undriven earlier (by simp)
  have halted : plant.moving stopped = false ∧ plant.Undriven stopped :=
    rest_along (plant.halts past) (undriven.cons nofun) later (by simp)
  have off : ∀ call ∈ logged (.enableDriver false) answer, call.startsMotion = false := by
    simp [Call.startsMotion]
  obtain ⟨rest, undriven⟩ := rest_along halted.1 halted.2 after off
  exact ⟨fun moving => by simp [rest] at moving, undriven⟩

end Supervised

/-! ## One step -/

section

variable {b : MotionBackend} {r : Packet} {responses : List Packet} {m : Machine} {op : Op}

/-- A request taken at rest starts at most one motion, into its state. -/
theorem Supervised.served_at_rest (supervised : plant.Supervised c h)
    (rest : plant.moving h = false) {arrival : History}
    (served : Served b arrival r c calls responses c') (adds : Adds Call.notable h calls h') :
    plant.Supervised c' h' := by
  rcases served.started with unstarted | ⟨state, mode, request, entered⟩
  · exact supervised.of_rest rest adds unstarted
  · exact supervised.start request entered adds

theorem Supervised.served_in_motion (supervised : plant.Supervised c h)
    (motion : c.isMotionState = true) (wired : b.emergencyStop.isSome = true) {arrival : History}
    (served : Served b arrival r c calls responses c') (calm : ¬ Disturbed b arrival r c)
    (ramps : RampRequest b arrival r c [] →
      b.rampStop.map (fun f => f arrival (readU32 (r.at 0))) = some true)
    (adds : Adds Call.notable h calls h') : plant.Supervised c' h' := by
  rcases served.from_motion motion calm with
    ⟨kept, neutral⟩ | estop | ⟨request, answer, asked, rfl, stopping⟩ | ⟨state, mode, request, entered⟩
  · exact supervised.keep adds neutral fun motion => by simpa [Control.isMotionState, kept] using motion
  · obtain ⟨-, answer, rfl⟩ := served.estopped_of estop
    rw [logged_wired wired] at adds
    exact supervised.halt adds
  · have stopping := stopping (asked.trans (ramps request))
    refine supervised.keep adds ?_ fun _ => by simp [Control.isMotionState, stopping]
    simp [Call.Neutral, Call.startsMotion, Call.switchesDriver]
  · exact supervised.start request entered adds

/-- A motion that is reported to be over is over. -/
theorem ReportedBy.rest (reported : plant.ReportedBy b)
    (asked : b.motionActive.map (fun f => f h) = some false) : plant.moving h = false := by
  obtain ⟨active, wiring, answer⟩ := Option.map_eq_some_iff.mp asked
  apply eq_false_of_ne_true
  intro moving
  simp [reported active wiring h moving] at answer

theorem Supervised.ticked {elapsed : UInt32} (supervised : plant.Supervised c h)
    (ticked : Ticked b h elapsed c calls c') (wired : b.emergencyStop.isSome = true)
    (reported : plant.ReportedBy b) (adds : Adds Call.notable h calls h') :
    plant.Supervised c' h' := by
  cases ticked with
  | idle => exact supervised.keep adds (by simp) id
  | moving =>
    exact supervised.keep adds (by simp [Call.Neutral, Call.startsMotion, Call.switchesDriver]) id
  | settled motion asked =>
    exact supervised.of_rest (reported.rest asked) adds (by simp [Call.startsMotion])
  | disabled _ _ stop =>
    rw [stop, logged_wired wired] at adds
    exact supervised.halt adds
  | ramped =>
    refine supervised.keep adds ?_ fun _ => rfl
    simp [Call.Neutral, Call.startsMotion, Call.switchesDriver]

theorem step_supervised (wired : b.emergencyStop.isSome = true) (reported : plant.ReportedBy b)
    (calm : plant.Calm b m op)
    (supervised : plant.Supervised m.act.toControl m.calls) :
    plant.Supervised (step b m op).act.toControl (step b m op).calls := by
  obtain ⟨calls, stepped⟩ := step_stepped b m op
  cases moving : plant.moving m.calls with
  | false =>
    cases stepped with
    | executed fresh done => exact supervised.served_at_rest moving done.served done.calls
    | ticked done =>
      obtain ⟨pending, ticked⟩ := done.ticked
      exact supervised.of_rest moving (done.clock.after_quiet done.calls)
        (not_starts_of_idle ticked.energises_nothing)
    | begun done =>
      exact supervised.of_rest moving done.calls (not_starts_of_idle done.begun.energises_nothing)
    | reported _ reads done => exact supervised.of_rest moving done.calls (reads.all fun _ => rfl)
    | repeated _ done => exact supervised.of_rest moving done.calls (by simp)
    | framed _ done => exact supervised.of_rest moving done.calls (by simp)
  | true =>
    obtain ⟨calm, ramps⟩ := calm moving
    have motion := supervised.watched moving
    cases stepped with
    | executed fresh done =>
      exact supervised.served_in_motion motion wired done.served
        (fun disturbed => calm (.requests fresh disturbed))
        (fun request => Decidable.byContradiction fun failed =>
          ramps (.executed fresh request failed)) done.calls
    | repeated _ done =>
      exact supervised.keep done.calls (by simp) fun motion => by rw [done.control]; exact motion
    | ticked done =>
      obtain ⟨pending, ticked⟩ := done.ticked
      have arrived : plant.Supervised { m.act.toControl with bootEventPending := pending } _ :=
        supervised.keep done.clock (by simp) id
      exact arrived.ticked ticked wired reported done.calls
    | begun => exact absurd .begins calm
    | framed => exact absurd .frames calm
    | reported _ reads done =>
      exact supervised.keep done.calls reads.neutral fun motion => by rw [done.control]; exact motion

end

/-! ## The fields that require idle -/

/-- The fields that require idle keep their active values. -/
def KeepsIdleFields (config config' : ActuatorConfig) : Prop :=
  ∀ field, configFieldMutability field = .REQUIRES_IDLE →
    configFieldValue config' field = configFieldValue config field

theorem KeepsIdleFields.of_driver {config config' : ActuatorConfig}
    (same : config'.driver = config.driver) : KeepsIdleFields config config' := by
  intro field idle
  cases field <;> cases idle <;> simp only [configFieldValue, same]

theorem served_driver_of_motion {b : MotionBackend} {r : Packet} {responses : List Packet}
    (served : Served b h r c calls responses c') (motion : c.isMotionState = true) :
    c'.activeConfig.driver = c.activeConfig.driver := by
  cases served with
  | applied request => simp [request.still] at motion
  | resetConfigureFailed request => simp [request.still] at motion
  | resetStorageFailed request => simp [request.still] at motion
  | reset request => simp [request.still] at motion
  | _ => rfl

theorem step_keeps_idle_fields {b : MotionBackend} {m : Machine} {op : Op}
    (motion : m.act.isMotionState = true) (calm : ¬ Disturbs b m op) :
    KeepsIdleFields m.act.activeConfig (step b m op).act.activeConfig := by
  refine .of_driver ?_
  obtain ⟨calls, stepped⟩ := step_stepped b m op
  cases stepped with
  | executed _ done => exact served_driver_of_motion done.served motion
  | repeated _ done => rw [done.control]
  | ticked done =>
    obtain ⟨pending, ticked⟩ := done.ticked
    generalize (step b m _).act.toControl = c' at ticked ⊢
    cases ticked <;> rfl
  | begun => exact absurd .begins calm
  | framed => exact absurd .frames calm
  | reported _ _ done => rw [done.control]

/-- Along calm steps the motor moves in motion states alone. -/
theorem boot_supervised {b : MotionBackend} {build : BuildInfo} {defaults : ActuatorConfig}
    {ops : List Op} (wired : b.emergencyStop.isSome = true) (reported : plant.ReportedBy b)
    (calm : Along (step b) (plant.Calm b) (.boot b build defaults []) ops) :
    plant.Supervised (Machine.boot b build defaults ops).act.toControl
      (Machine.boot b build defaults ops).calls := by
  refine calm.invariant (I := fun m => plant.Supervised m.act.toControl m.calls)
    (fun m op calm supervised => step_supervised wired reported calm supervised) ?_
  have rest : plant.moving (Machine.powerOn build).calls = false := plant.atRest
  have moved : plant.moving (Machine.powerOn build).calls ≠ true := by simp [rest]
  have off : plant.Supervised (Machine.powerOn build).act.toControl (Machine.powerOn build).calls :=
    ⟨fun moving => absurd moving moved, .refl⟩
  have calm : plant.Calm b (.powerOn build) (.begin defaults) := fun moving => absurd moving moved
  exact step_supervised wired reported calm off

end MotionPlant

/-! ## Main result -/

/-- Along calm steps the driver is configured and switched only with the motor at
rest, and no step under motion applies a field that requires idle. -/
theorem driver_switched_at_rest (b : MotionBackend) (plant : MotionPlant) (build : BuildInfo)
    (defaults : ActuatorConfig) (ops : List Op) (wired : b.emergencyStop.isSome = true)
    (reported : plant.ReportedBy b)
    (calm : Along (step b) (plant.Calm b) (.boot b build defaults []) ops) :
    plant.Undriven (Machine.boot b build defaults ops).calls ∧
      ∀ op, plant.moving (Machine.boot b build defaults ops).calls = true →
        plant.Calm b (.boot b build defaults ops) op →
        MotionPlant.KeepsIdleFields (Machine.boot b build defaults ops).act.activeConfig
          (step b (.boot b build defaults ops) op).act.activeConfig := by
  have supervised := MotionPlant.boot_supervised wired reported calm
  exact ⟨supervised.undriven, fun op moving calm =>
    MotionPlant.step_keeps_idle_fields (supervised.watched moving) (calm moving).1⟩

/-- A motor that keeps moving until it is ramped down or stopped. -/
def steadyPlant : MotionPlant where
  moving h := ((h.find? Call.governsMotion).map Call.startsMotion).getD false
  atRest := rfl
  starts call h moving := by
    cases governs : call.governsMotion with
    | true => exact .inr (by simpa [governs] using moving)
    | false => exact .inl (by simpa [governs] using moving)
  halts h := rfl

/-- An obedient backend in front of it. -/
def steadyDriver : MotionBackend :=
  { enableDriver := some fun _ _ => true
    configureDriver := some fun _ _ => true
    moveAbsolute := some fun _ _ _ _ => true
    emergencyStop := some ()
    motionActive := some steadyPlant.moving }

/-- A move and an `ESTOP` during it. -/
def moveThenEstop : List Op :=
  [.handlePacket (.request .SET_CONTROL_MODE 1 [1]) none, .handlePacket (moveTo100 2) none,
    .handlePacket (.request .ESTOP 3 []) none]

theorem driver_switched_at_rest_estop :
    steadyPlant.Undriven (Machine.boot steadyDriver {} {} moveThenEstop).calls := by
  refine (driver_switched_at_rest steadyDriver steadyPlant {} {} moveThenEstop rfl ?_
    ⟨?_, ?_, ?_, trivial⟩).1
  · rintro f ⟨⟩ h moving
    exact moving
  · exact fun moving => absurd moving (by decide)
  · exact fun moving => absurd moving (by decide)
  · refine fun _ => ⟨fun disturbs => ?_, fun ramps => ?_⟩
    case refine_2 =>
      cases ramps with
      | executed _ request => exact absurd request.asks.id (by decide)
    cases disturbs with
    | requests _ disturbed =>
      cases disturbed with
      | clears asks => exact absurd asks.id (by decide)
      | unsupported unsupported => exact absurd (unsupported .ESTOP rfl) (by decide)
      | uartFails asks => exact absurd asks.id (by decide)
      | saveFails asks => exact absurd asks.id (by decide)
      | motionFails request =>
        rcases request.asks with asks | asks | asks <;> exact absurd asks.id (by decide)

/-- A frame error during a move, then `SET_CONTROL_MODE DISABLED`: the driver is
switched off with the motor moving. -/
theorem driver_switched_under_motion :
    ¬ ∀ (b : MotionBackend) (plant : MotionPlant) (build : BuildInfo) (defaults : ActuatorConfig)
      (ops : List Op), b.emergencyStop.isSome = true → plant.ReportedBy b →
      plant.Undriven (Machine.boot b build defaults ops).calls := by
  intro undriven
  have broken := undriven steadyDriver steadyPlant {} {}
    [.handlePacket (.request .SET_CONTROL_MODE 1 [1]) none, .handlePacket (moveTo100 2) none,
      .recordFrameError .ERR_BAD_CRC, .handlePacket (.request .SET_CONTROL_MODE 3 [0]) none] rfl
    (by rintro f ⟨⟩ h moving; exact moving)
  cases broken with
  | cons switched => exact absurd (switched rfl) (by decide)

end Daft
