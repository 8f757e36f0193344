import Daft.Safety.Energising

/-!
# Soft limits

Both position commands check the target they are about to set. `MOVE_ABS` hands
that target to the backend; `MOVE_REL` checks the current position plus the
distance and hands over the distance alone, so what it checks is what the
backend aims for only if the axis is at rest.
-/

namespace Daft

open Logic

/-- An accepted position move. -/
def Call.startsPosition : Call → Bool
  | .moveAbsolute _ _ _ ok | .moveRelative _ _ _ ok => ok
  | _ => false

theorem Call.startsMotion_of_startsPosition (call : Call) (starts : call.startsPosition = true) :
    call.startsMotion = true := by
  cases call <;> first | exact starts | cases starts

theorem Call.notable_of_startsPosition (call : Call) (starts : call.startsPosition = true) :
    call.notable = true :=
  call.notable_of_startsMotion (call.startsMotion_of_startsPosition starts)

/-- The axis behind the callbacks, in backend steps. -/
structure PositionPlant (b : MotionBackend) where
  position : History → Int32
  target : History → Int32
  /-- Motion of any kind is being generated. -/
  moving : History → Bool
  /-- A position move is in progress. -/
  positioning : History → Bool
  reads : b.currentPosition = some position
  above : ∀ h, Int32.minValue < position h
  moves : ∀ h, positioning h = true → moving h = true
  rest : ∀ call h, moving h = false → call.startsMotion = false →
    moving (call :: h) = false ∧ position (call :: h) = position h
  absolute : ∀ steps velocity accel h,
    target (.moveAbsolute steps velocity accel true :: h) = steps
  relative : ∀ delta velocity accel h, target (.moveRelative delta velocity accel true :: h) =
    (if positioning h then target h else position h) + delta

/-! ## Conversions -/

section

variable {c : Control} {logical steps delta position : Int32}

theorem toBackendValue_some (converted : c.toBackendValue logical = some steps) :
    (c.activeConfig.calibration.directionInverted = false ∧ steps = logical) ∨
      (c.activeConfig.calibration.directionInverted = true ∧ logical ≠ Int32.minValue ∧
        steps = -logical) := by
  unfold Control.toBackendValue at converted
  split at converted
  case isTrue plain => exact .inl ⟨by simpa using plain, (Option.some.inj converted).symm⟩
  case isFalse inverted =>
    split at converted
    case isTrue => cases converted
    case isFalse representable =>
      exact .inr ⟨by simpa using inverted, representable, (Option.some.inj converted).symm⟩

theorem fromBackendValue_plain (plain : c.activeConfig.calibration.directionInverted = false)
    (steps : Int32) : c.fromBackendValue steps = steps := by
  simp [Control.fromBackendValue, plain]

theorem fromBackendValue_inverted (inverted : c.activeConfig.calibration.directionInverted = true)
    (representable : steps ≠ Int32.minValue) : c.fromBackendValue steps = -steps := by
  simp [Control.fromBackendValue, inverted, representable]

theorem fromBackendValue_of_converted (converted : c.toBackendValue logical = some steps) :
    c.fromBackendValue steps = logical := by
  rcases toBackendValue_some converted with ⟨plain, rfl⟩ | ⟨inverted, representable, rfl⟩
  · exact fromBackendValue_plain plain _
  · have negated : -logical ≠ Int32.minValue := by
      intro same
      rw [← Int32.neg_neg (a := logical), same] at representable
      exact representable rfl
    rw [fromBackendValue_inverted inverted negated, Int32.neg_neg]

/-- In logical steps the backend adds what was asked for. -/
theorem fromBackendValue_add (converted : c.toBackendValue logical = some delta)
    (above : Int32.minValue < position) (reached : Int32.minValue < position + delta) :
    c.fromBackendValue (position + delta) = c.fromBackendValue position + logical := by
  rcases toBackendValue_some converted with ⟨plain, rfl⟩ | ⟨inverted, -, rfl⟩
  · rw [fromBackendValue_plain plain, fromBackendValue_plain plain]
  · rw [fromBackendValue_inverted inverted (Int32.ne_of_lt above).symm,
      fromBackendValue_inverted inverted (Int32.ne_of_lt reached).symm, Int32.neg_add,
      Int32.sub_eq_add_neg, Int32.neg_neg]

end

/-! ## One step -/

/-- Soft limits are enabled, and limits and direction are those of `c₀`. -/
structure Control.SameLimits (c c₀ : Control) : Prop where
  enabled : c.activeConfig.motion.softLimitsEnabled = true
  low : c.activeConfig.motion.softMinSteps = c₀.activeConfig.motion.softMinSteps
  high : c.activeConfig.motion.softMaxSteps = c₀.activeConfig.motion.softMaxSteps
  direction : c.activeConfig.calibration.directionInverted =
    c₀.activeConfig.calibration.directionInverted

structure ActuatorConfig.WithinSoftLimits (config : ActuatorConfig) (logical : Int32) : Prop where
  low : config.motion.softMinSteps ≤ logical
  high : logical ≤ config.motion.softMaxSteps

theorem Control.SameLimits.fromBackendValue {c c₀ : Control} (same : c.SameLimits c₀)
    (steps : Int32) : c.fromBackendValue steps = c₀.fromBackendValue steps := by
  simp only [Control.fromBackendValue, same.direction]

/-- What the check lets through is within the limits. -/
theorem Control.SameLimits.within {c c₀ : Control} (same : c.SameLimits c₀) {logical : Int32}
    (passed : softLimitViolation c.activeConfig logical = false) :
    c₀.activeConfig.WithinSoftLimits logical := by
  simp only [softLimitViolation, same.enabled, same.low, same.high, true_and, decide_eq_false_iff_not,
    not_or, Int32.not_lt, gt_iff_lt] at passed
  exact ⟨passed.1, passed.2⟩

/-- An axis at rest stays where it is until a motion command is accepted. -/
theorem Logic.Adds.at_rest {moving : History → Bool} {position : History → Int32} {h h' : History}
    {calls : List Call} (adds : Adds Call.notable h calls h')
    (still : ∀ call h, moving h = false → call.startsMotion = false →
      moving (call :: h) = false ∧ position (call :: h) = position h)
    (rest : moving h = false) (unstarted : ∀ call ∈ calls, call.startsMotion = false) :
    moving h' = false ∧ position h' = position h := by
  refine adds.invariant (I := fun h' => moving h' = false ∧ position h' = position h)
    Call.notable_of_startsMotion unstarted ?_ ⟨rest, rfl⟩
  rintro call past unstarted ⟨rest, same⟩
  obtain ⟨kept, stays⟩ := still call past rest unstarted
  exact ⟨kept, stays.trans same⟩

namespace PositionPlant

variable {b : MotionBackend} (plant : PositionPlant b)

/-- The target an accepted position move sets, in logical steps, is within the
limits of `c`; nothing is said of a target at the bottom of the 32-bit range. -/
def Limited (c : Control) (call : Call) (past : History) : Prop :=
  Int32.minValue < plant.target (call :: past) →
    c.activeConfig.WithinSoftLimits (c.fromBackendValue (plant.target (call :: past)))

/-- A `MOVE_REL` that is executed finds the axis at rest. -/
def RelativeAtRest (m : Machine) (op : Op) : Prop :=
  ∀ r port, op = .handlePacket r port → m.act.isDuplicate r = false → r.Asks .MOVE_REL →
    plant.moving m.calls = false

variable {plant} {h h' : History} {r : Packet} {c c₀ : Control} {calls : List Call}

theorem rest_along (rest : plant.moving h = false) (adds : Adds Call.notable h calls h')
    (unstarted : ∀ call ∈ calls, call.startsMotion = false) :
    plant.moving h' = false ∧ plant.position h' = plant.position h :=
  adds.at_rest plant.rest rest unstarted

/-- An accepted motion command sets a target within the limits, if it is
relative from rest. -/
theorem request_limited {answer : Option Bool} {arrival : History} {state : ActuatorState}
    {mode : ControlMode} (request : MotionRequest b arrival r c answer calls state mode)
    (same : c.SameLimits c₀) (arrived : Adds Call.notable h [] arrival)
    (rest : r.Asks .MOVE_REL → plant.moving h = false) (adds : Adds Call.notable h calls h') :
    Since (fun call past => call.startsPosition = true → plant.Limited c₀ call past) h h' := by
  by_cases accepted : answer = some true
  case neg =>
    have unstarted := request.refused_starts accepted
    exact adds.since_of_absent Call.notable_of_startsPosition fun call member =>
      absent_of_silent Call.startsMotion_of_startsPosition (unstarted call member)
  subst accepted
  cases request with
  | moveAbs _ _ _ within converted =>
    refine Adds.since_of_last adds Call.notable_of_startsPosition (by simp) fun past _ _ => ?_
    rw [plant.absolute, ← same.fromBackendValue, fromBackendValue_of_converted converted]
    exact same.within within
  | moveRel asks _ _ _ within converted =>
    have rest := rest asks
    have reads := positionRead_reads b arrival
    have quiet : ∀ call ∈ positionRead b arrival, call.startsMotion = false := reads.all fun _ => rfl
    refine Adds.since_of_last adds Call.notable_of_startsPosition (reads.all fun _ => rfl)
      fun past before reached => ?_
    obtain ⟨still, kept⟩ := rest_along rest before quiet
    have position := (rest_along rest arrived (by simp)).2
    have unhurried : plant.positioning past = false :=
      eq_false_of_ne_true fun moving => by simp [plant.moves past moving] at still
    rw [plant.relative, unhurried, if_neg (by simp), kept] at reached ⊢
    rw [← same.fromBackendValue, fromBackendValue_add converted (plant.above h) reached]
    have checked : Int32.ofInt (relativeTarget b arrival r c) =
        c.fromBackendValue (plant.position h) + readI32 (r.at 0) := by
      simp [relativeTarget, Control.logicalPosition, plant.reads, position]
    rw [← checked]
    exact same.within within
  | runVel => exact adds.since_of_absent Call.notable_of_startsPosition (by simp [Call.startsPosition])

theorem step_limited {m : Machine} {op : Op} (same : m.act.SameLimits c₀)
    (rest : plant.RelativeAtRest m op) :
    Since (fun call past => call.startsPosition = true → plant.Limited c₀ call past) m.calls
      (step b m op).calls := by
  obtain ⟨calls, stepped⟩ := step_stepped b m op
  rcases stepped.moved with still | ⟨r, port, answer, state, mode, executes, fresh, request⟩
  · exact stepped.calls.since_of_absent Call.notable_of_startsPosition fun call member =>
      absent_of_silent Call.startsMotion_of_startsPosition (not_starts_of_still still call member)
  · exact request_limited request same (m.arrival_adds b) (rest r port executes fresh) stepped.calls

end PositionPlant

/-! ## Main result -/

/-- While limits and direction stay the same and every `MOVE_REL` finds the axis at
rest, every accepted position move aims within the soft limits. -/
theorem targets_within_soft_limits (b : MotionBackend) (plant : PositionPlant b) (m : Machine)
    (ops : List Op)
    (unchanged : Along (step b) (fun m' _ => m'.act.SameLimits m.act.toControl) m ops)
    (rest : Along (step b) plant.RelativeAtRest m ops) :
    Since (fun call past => call.startsPosition = true → plant.Limited m.act.toControl call past)
      m.calls (run (step b) m ops).calls :=
  (unchanged.and rest).relates (I := fun _ => True) (R := fun m₁ m₂ : Machine =>
      Since (fun call past => call.startsPosition = true → plant.Limited m.act.toControl call past)
        m₁.calls m₂.calls)
    (fun _ => .refl) Since.trans (fun _ _ held _ => PositionPlant.step_limited held.1 held.2)
    (fun _ _ _ _ => trivial) trivial

/-- The target of an axis that has not left position 0 yet. -/
def heavyTarget : History → Int32
  | [] => 0
  | .moveAbsolute steps _ _ true :: _ => steps
  | .moveRelative delta _ _ true :: h =>
    (if h.any Call.startsPosition then heavyTarget h else 0) + delta
  | _ :: h => heavyTarget h

def heavyDriver : MotionBackend :=
  { enableDriver := some fun _ _ => true
    configureDriver := some fun _ _ => true
    currentPosition := some fun _ => 0
    moveRelative := some fun _ _ _ _ => true }

def heavyAxis : PositionPlant heavyDriver where
  position _ := 0
  target := heavyTarget
  moving h := h.any Call.startsMotion
  positioning h := h.any Call.startsPosition
  reads := rfl
  above _ := by decide
  moves h positioning := by
    obtain ⟨call, member, starts⟩ := List.any_eq_true.mp positioning
    exact List.any_eq_true.mpr ⟨call, member, call.startsMotion_of_startsPosition starts⟩
  rest call h still unstarted := ⟨by simp [still, unstarted], rfl⟩
  absolute _ _ _ _ := rfl
  relative _ _ _ _ := rfl

/-- Soft limits at ±1000 steps. -/
def limitedConfig : ActuatorConfig :=
  { motion := { softLimitsEnabled := true, softMinSteps := -1000, softMaxSteps := 1000 } }

/-- `MOVE_REL` by 800 steps at 500 steps/s and 500 steps/s². -/
def moveBy800 (seq : UInt16) : Packet :=
  .request .MOVE_REL seq (writeI32 800 ++ writeU32 500 ++ writeU32 500)

def limitedAxis : Machine :=
  .boot heavyDriver {} limitedConfig [.handlePacket (.request .SET_CONTROL_MODE 1 [1]) none]

theorem targets_within_soft_limits_single :
    Since (fun call past => call.startsPosition = true →
        heavyAxis.Limited limitedAxis.act.toControl call past)
      limitedAxis.calls
      (run (step heavyDriver) limitedAxis [.handlePacket (moveBy800 2) none]).calls := by
  refine targets_within_soft_limits heavyDriver heavyAxis limitedAxis
    [.handlePacket (moveBy800 2) none] ⟨?_, trivial⟩ ⟨?_, trivial⟩
  · exact ⟨by decide, rfl, rfl, rfl⟩
  · intro _ _ _ _ _
    decide

/-- A second `MOVE_REL` before the first one has moved the axis passes the check
and aims 600 steps past the limit. -/
theorem target_beyond_soft_limits :
    ¬ ∀ (b : MotionBackend) (plant : PositionPlant b) (m : Machine) (ops : List Op),
      m.Reachable b → Along (step b) (fun m' _ => m'.act.SameLimits m.act.toControl) m ops →
      Since (fun call past => call.startsPosition = true → plant.Limited m.act.toControl call past)
        m.calls (run (step b) m ops).calls := by
  intro limited
  have since := limited heavyDriver heavyAxis limitedAxis
    [.handlePacket (moveBy800 2) none, .handlePacket (moveBy800 3) none] ⟨{}, limitedConfig, _, rfl⟩
    ⟨⟨by decide, rfl, rfl, rfl⟩, ⟨by decide, by decide, by decide, by decide⟩, trivial⟩
  cases since with
  | cons second _ => exact absurd (second rfl (by decide)).high (by decide)

end Daft
