import Daft.Host.Layouts
import Daft.Safety.SoftLimits
import Daft.Session.Refusals

/-!
# The sign of commands and reports

Where the direction is inverted the firmware negates what it hands to the motor and
what it reads from it. The bottom of the 32-bit range has no negation: a command there
is refused, a reading there saturates. What a command asks for is what `STATUS` reports.
-/

namespace Daft

open Logic Host.Messages

/-- An accepted velocity run. -/
def Call.startsRun : Call → Bool
  | .runVelocity _ _ ok => ok
  | _ => false

theorem Call.notable_of_startsRun (call : Call) (starts : call.startsRun = true) :
    call.notable = true := by
  cases call <;> first | rfl | cases starts

/-- A sum that a 32-bit integer can hold. -/
def Representable (sum : Int) : Prop := Int32.minValue.toInt ≤ sum ∧ sum ≤ Int32.maxValue.toInt

/-- The motor behind the callbacks, in backend units. Its target is that of the latest accepted
position move, its speed that of the latest accepted velocity run. -/
structure MotorPlant (b : MotionBackend) where
  position : History → Int32
  target : History → Int32
  speed : History → Int32
  moving : History → Bool
  readsPosition : b.currentPosition = some position
  readsTarget : b.targetPosition = some target
  readsSpeed : b.currentSpeed = some speed
  rest : ∀ call h, moving h = false → call.startsMotion = false →
    moving (call :: h) = false ∧ position (call :: h) = position h
  absolute : ∀ {steps velocity accel past h},
    Adds Call.startsPosition (.moveAbsolute steps velocity accel true :: past) [] h →
    target h = steps
  relative : ∀ {delta velocity accel past h},
    Adds Call.startsPosition (.moveRelative delta velocity accel true :: past) [] h →
    moving past = false → Int32.minValue < position past →
    Representable ((position past).toInt + delta.toInt) → target h = position past + delta
  runs : ∀ {velocity accel past h},
    Adds Call.startsRun (.runVelocity velocity accel true :: past) [] h → speed h = velocity

/-- Every `GET_STATUS` that gets past the filter is answered with a `STATUS` of which the host
reads what is asked for. -/
def StatusReads (b : MotionBackend) (m : Machine) (asked : Status → Prop) : Prop :=
  ∀ (q : Packet) (port : Port), m.act.isDuplicate q = false → q.Asks .GET_STATUS →
    ∃ t status, (m.handlePacket b port q).sent = t :: m.sent ∧
      parseStatus (Host.Codec.received t.packet) = .ok status ∧ asked status

/-- A request that gets past the filter and is acknowledged. -/
structure Accepted (b : MotionBackend) (m : Machine) (r : Packet) (port : Port) : Prop where
  fresh : m.act.isDuplicate r = false
  acked : m.Sends .ACK (m.handlePacket b port r)

/-! ## Reports -/

section

variable {b : MotionBackend} (plant : MotorPlant b) {m : Machine}

namespace MotorPlant

/-- The history at which a status query in `m` reads the target. -/
def targetRead (m : Machine) : History :=
  .currentPosition (plant.position (m.arrival b)) :: m.arrival b

/-- The history at which it reads the speed. -/
def speedRead (m : Machine) : History :=
  .targetPosition (plant.target (plant.targetRead m)) :: plant.targetRead m

/-- A status query reports what the plant holds, in logical units. -/
theorem reports : StatusReads b m fun status =>
    status.positionSteps = (m.act.fromBackendValue (plant.position (m.arrival b))).toInt ∧
      status.targetSteps = (m.act.fromBackendValue (plant.target (plant.targetRead m))).toInt ∧
      status.speedSps = (m.act.fromBackendValue (plant.speed (plant.speedRead m))).toInt := by
  intro q port fresh asks
  have length : q.payloadLen = 0 := (Option.some.inj asks.length).symm
  have handled : m.handlePacket b port q = ((m.acceptRequest b q).sendStatus b
      (.cached port) q.seq false).rememberRequest q := by
    simp [Machine.handlePacket, fresh, Machine.dispatch, asks.found, Machine.handleQuery,
      Machine.expectLength, length]
  obtain ⟨t, latest, parsed⟩ := responses_read.status (m.acceptRequest b q) b (.cached port) q.seq false
  have accepted : (m.acceptRequest b q).act.toControl = m.act.toControl ∧
      (m.acceptRequest b q).calls = m.arrival b ∧ (m.acceptRequest b q).sent = m.sent := by
    rw [Machine.acceptRequest_eq]
    exact ⟨rfl, rfl, rfl⟩
  obtain ⟨t', sent, -⟩ := sendStatus_sent (b := b) (m := m.acceptRequest b q) (.cached port) q.seq
    false
  rw [accepted.2.2] at sent
  rw [handled]
  refine ⟨t, _, ?_, parsed, ?_, ?_, ?_⟩
  · rw [sent, List.head?_cons] at latest
    obtain rfl := Option.some.inj latest
    exact sent
  · simp [Machine.logicalCurrentPosition, plant.readsPosition, Machine.ask, accepted]
  · simp [Machine.logicalCurrentPosition, plant.readsPosition, Machine.ask, accepted,
      Machine.logicalTargetPosition, plant.readsTarget, targetRead]
  · simp [Machine.logicalCurrentPosition, plant.readsPosition, Machine.ask, accepted,
      Machine.logicalTargetPosition, plant.readsTarget, Machine.logicalCurrentSpeed,
      plant.readsSpeed, targetRead, speedRead]

end MotorPlant

end

/-! ## Accepted moves -/

section

variable {b : MotionBackend} {h : History} {m : Machine} {r : Packet} {c c' : Control}
  {calls : List Call} {responses : List Packet} {port : Port}

/-- A motion command that is acknowledged was accepted by the backend. -/
theorem Served.acked_motion (served : Served b h r c calls responses c') {msg : MsgId}
    {mode : ControlMode} (moves : msg.motionMode = some mode) (id : r.msgId = msg.byte)
    (acked : ∃ packet ∈ responses, packet.msgId = MsgId.ACK.byte) :
    ∃ state mode, MotionRequest b h r c (some true) calls state mode := by
  have found : MsgId.ofByte r.msgId = some msg := by rw [id, MsgId.ofByte_byte]
  cases served with
  | motionStarted request accepted =>
    subst accepted
    exact ⟨_, _, request⟩
  | refused => exact (not_acked_of_refused acked).elim
  | absLimited => exact (not_acked_of_refused acked).elim
  | relLimited => exact (not_acked_of_refused acked).elim
  | unsupported => exact (not_acked_of_refused acked).elim
  | motionFailed => exact (not_acked_of_refused acked).elim
  | _ => grind

theorem Accepted.request (accepted : Accepted b m r port) {msg : MsgId} {mode : ControlMode}
    (moves : msg.motionMode = some mode) (id : r.msgId = msg.byte) :
    ∃ calls state mode, MotionRequest b (m.arrival b) r m.act.toControl (some true) calls state mode ∧
      Adds Call.notable m.calls calls (m.handlePacket b port r).calls := by
  obtain ⟨calls, responses, done, sends⟩ := handlePacket_sends b port accepted.fresh
  obtain ⟨state, mode, request⟩ :=
    done.served.acked_motion moves id ((sends .ACK (by decide)).mp accepted.acked)
  exact ⟨calls, state, mode, request, done.calls⟩

end

/-! ## Signs -/

section

variable {c : Control} {logical position delta : Int32}

theorem toInt_neg_of_above {x : Int32} (above : x ≠ Int32.minValue) : (-x).toInt = -x.toInt := by
  have low := x.le_toInt
  have high := x.toInt_lt
  have bottom : x.toInt ≠ -2 ^ 31 := fun same => above (Int32.toInt_inj.mp same)
  rw [Int32.toInt_neg, Int.bmod_eq_of_le (by omega) (by omega)]

/-- Both sides of the conversion add the same distance, where both sums are exact. -/
theorem toInt_reported_sum (converted : c.toBackendValue logical = some delta)
    (above : Int32.minValue < position) (exact : Representable (position.toInt + delta.toInt))
    (checked : (c.fromBackendValue position).toInt + logical.toInt ≤ Int32.maxValue.toInt) :
    (c.fromBackendValue (position + delta)).toInt =
      (c.fromBackendValue position).toInt + logical.toInt := by
  obtain ⟨low, high⟩ := exact
  rw [Int32.toInt_minValue] at low
  rw [Int32.toInt_maxValue] at high checked
  have sum : (position + delta).toInt = position.toInt + delta.toInt := by
    rw [Int32.toInt_add, Int.bmod_eq_of_le (by omega) (by omega)]
  rcases toBackendValue_some converted with ⟨plain, rfl⟩ | ⟨inverted, representable, rfl⟩
  · rw [fromBackendValue_plain plain, fromBackendValue_plain plain, sum]
  · have negated := toInt_neg_of_above representable
    have mirrored := (Int32.ne_of_lt above).symm
    rw [fromBackendValue_inverted inverted mirrored, toInt_neg_of_above mirrored] at checked ⊢
    have reached : position + -logical ≠ Int32.minValue := by
      intro bottom
      have reached := congrArg Int32.toInt bottom
      rw [sum, negated, Int32.toInt_minValue] at reached
      omega
    rw [fromBackendValue_inverted inverted reached, toInt_neg_of_above reached, sum, negated]
    omega

end

/-! ## Main result -/

section

variable {b : MotionBackend} (plant : MotorPlant b) {m m' : Machine} {r : Packet} {port : Port}

theorem StatusReads.mono {asked asked' : Status → Prop} (reads : StatusReads b m asked)
    (imp : ∀ status, asked status → asked' status) : StatusReads b m asked' := by
  intro q port fresh asks
  obtain ⟨t, status, sent, parsed, holds⟩ := reads q port fresh asks
  exact ⟨t, status, sent, parsed, imp status holds⟩

/-- The same direction converts what is read in the same way. -/
theorem fromBackendValue_of_direction {c c' : Control}
    (direction : c'.activeConfig.calibration.directionInverted =
      c.activeConfig.calibration.directionInverted) (steps : Int32) :
    c'.fromBackendValue steps = c.fromBackendValue steps := by
  simp only [Control.fromBackendValue, direction]

namespace MotorPlant

theorem targetRead_adds {h : History} (adds : Adds Call.startsPosition h [] m.calls) :
    Adds Call.startsPosition h [] (plant.targetRead m) :=
  .quiet rfl (adds.after_quiet (Adds.quiet_of_within Call.notable_of_startsPosition (m.arrival_adds b)))

theorem speedRead_adds {h : History} (adds : Adds Call.startsRun h [] m.calls) :
    Adds Call.startsRun h [] (plant.speedRead m) :=
  .quiet rfl (.quiet rfl
    (adds.after_quiet (Adds.quiet_of_within Call.notable_of_startsRun (m.arrival_adds b))))

/-- An axis at rest stays where it is until a request arrives. -/
theorem position_arrival (rest : plant.moving m.calls = false) :
    plant.position (m.arrival b) = plant.position m.calls :=
  ((m.arrival_adds b).at_rest plant.rest rest (by simp)).2

/-- The sum that `MOVE_REL` checks starts at the position reported before it. -/
theorem relativeTarget_arrival (rest : plant.moving m.calls = false) :
    relativeTarget b (m.arrival b) r m.act.toControl =
      (m.act.fromBackendValue (plant.position m.calls)).toInt + (readI32 (r.at 0)).toInt := by
  simp [relativeTarget, Control.logicalPosition, plant.readsPosition, plant.position_arrival rest]

section

variable (accepted : Accepted b m r port)
  (direction : m'.act.activeConfig.calibration.directionInverted =
    m.act.activeConfig.calibration.directionInverted)

include plant accepted direction

theorem reports_absolute (id : r.msgId = MsgId.MOVE_ABS.byte)
    (latest : Adds Call.startsPosition (m.handlePacket b port r).calls [] m'.calls) :
    StatusReads b m' fun status => status.targetSteps = (readI32 (r.at 0)).toInt := by
  obtain ⟨calls, state, mode, request, adds⟩ := accepted.request rfl id
  cases request with
  | moveAbs _ _ _ _ converted =>
    obtain ⟨past, -, since⟩ := adds.last
    have moved := Adds.quiet_of_within Call.notable_of_startsPosition since
    refine plant.reports.mono fun status fields => ?_
    rw [fields.2.1, plant.absolute (plant.targetRead_adds (moved.after_quiet latest)),
      fromBackendValue_of_direction direction, fromBackendValue_of_converted converted]
  | moveRel asks => exact absurd (asks.id.symm.trans id) (by decide)
  | runVel asks => exact absurd (asks.id.symm.trans id) (by decide)

theorem reports_relative (id : r.msgId = MsgId.MOVE_REL.byte)
    (latest : Adds Call.startsPosition (m.handlePacket b port r).calls [] m'.calls)
    (rest : plant.moving m.calls = false) (above : Int32.minValue < plant.position m.calls)
    (exact : ∀ delta, m.act.toBackendValue (readI32 (r.at 0)) = some delta →
      Representable ((plant.position m.calls).toInt + delta.toInt)) :
    ∃ position : Int, StatusReads b m (fun status => status.positionSteps = position) ∧
      StatusReads b m' fun status =>
        status.targetSteps = position + (readI32 (r.at 0)).toInt := by
  obtain ⟨calls, state, mode, request, adds⟩ := accepted.request rfl id
  cases request with
  | moveRel _ _ checked _ _ converted =>
    refine ⟨(m.act.fromBackendValue (plant.position m.calls)).toInt, ?_, ?_⟩
    · refine plant.reports.mono fun status fields => ?_
      rw [fields.1, plant.position_arrival rest]
    · obtain ⟨past, before, since⟩ := adds.last
      have quiet : ∀ call ∈ positionRead b (m.arrival b), call.startsMotion = false :=
        (positionRead_reads b _).all fun _ => rfl
      obtain ⟨still, stays⟩ := before.at_rest plant.rest rest quiet
      have moved := Adds.quiet_of_within Call.notable_of_startsPosition since
      have target := plant.relative (plant.targetRead_adds (moved.after_quiet latest)) still
      rw [stays] at target
      refine plant.reports.mono fun status fields => ?_
      rw [fields.2.1, target above (exact _ converted), fromBackendValue_of_direction direction]
      have within : relativeTarget b (m.arrival b) r m.act.toControl ≤ Int32.maxValue.toInt :=
        Int.not_lt.mp fun beyond => checked (.inr beyond)
      rw [plant.relativeTarget_arrival rest] at within
      exact toInt_reported_sum converted above (exact _ converted) within
  | moveAbs asks => exact absurd (asks.id.symm.trans id) (by decide)
  | runVel asks => exact absurd (asks.id.symm.trans id) (by decide)

theorem reports_velocity (id : r.msgId = MsgId.RUN_VEL.byte)
    (latest : Adds Call.startsRun (m.handlePacket b port r).calls [] m'.calls) :
    StatusReads b m' fun status => status.speedSps = (readI32 (r.at 0)).toInt := by
  obtain ⟨calls, state, mode, request, adds⟩ := accepted.request rfl id
  cases request with
  | runVel _ _ _ _ converted =>
    obtain ⟨past, -, since⟩ := adds.last
    have moved := Adds.quiet_of_within Call.notable_of_startsRun since
    refine plant.reports.mono fun status fields => ?_
    rw [fields.2.2, plant.runs (plant.speedRead_adds (moved.after_quiet latest)),
      fromBackendValue_of_direction direction, fromBackendValue_of_converted converted]
  | moveAbs asks => exact absurd (asks.id.symm.trans id) (by decide)
  | moveRel asks => exact absurd (asks.id.symm.trans id) (by decide)

end

end MotorPlant

end

/-- After an accepted motion command, and until the next one of its kind or a change of
direction, `GET_STATUS` reports the target or the speed the command asked for. -/
theorem same_sign_reported (b : MotionBackend) (plant : MotorPlant b) (m : Machine) (r : Packet)
    (port : Port) (ops : List Op) (accepted : Accepted b m r port)
    (direction :
      (run (step b) (m.handlePacket b port r) ops).act.activeConfig.calibration.directionInverted =
        m.act.activeConfig.calibration.directionInverted) :
    (r.msgId = MsgId.MOVE_ABS.byte →
      Adds Call.startsPosition (m.handlePacket b port r).calls []
        (run (step b) (m.handlePacket b port r) ops).calls →
      StatusReads b (run (step b) (m.handlePacket b port r) ops) fun status =>
        status.targetSteps = (readI32 (r.at 0)).toInt) ∧
    (r.msgId = MsgId.MOVE_REL.byte →
      Adds Call.startsPosition (m.handlePacket b port r).calls []
        (run (step b) (m.handlePacket b port r) ops).calls →
      plant.moving m.calls = false → Int32.minValue < plant.position m.calls →
      (∀ delta, m.act.toBackendValue (readI32 (r.at 0)) = some delta →
        Representable ((plant.position m.calls).toInt + delta.toInt)) →
      ∃ position : Int, StatusReads b m (fun status => status.positionSteps = position) ∧
        StatusReads b (run (step b) (m.handlePacket b port r) ops) fun status =>
          status.targetSteps = position + (readI32 (r.at 0)).toInt) ∧
    (r.msgId = MsgId.RUN_VEL.byte →
      Adds Call.startsRun (m.handlePacket b port r).calls []
        (run (step b) (m.handlePacket b port r) ops).calls →
      StatusReads b (run (step b) (m.handlePacket b port r) ops) fun status =>
        status.speedSps = (readI32 (r.at 0)).toInt) :=
  ⟨plant.reports_absolute accepted direction, plant.reports_relative accepted direction,
    plant.reports_velocity accepted direction⟩

/-- The target of a motor that stays at 100. -/
def trackedTarget : History → Int32
  | [] => 0
  | .moveAbsolute steps _ _ true :: _ => steps
  | .moveRelative delta _ _ true :: _ => 100 + delta
  | _ :: h => trackedTarget h

def trackedSpeed : History → Int32
  | [] => 0
  | .runVelocity velocity _ true :: _ => velocity
  | _ :: h => trackedSpeed h

theorem trackedTarget_of_quiet (call : Call) (h : History) (quiet : call.startsPosition = false) :
    trackedTarget (call :: h) = trackedTarget h := by
  cases call with
  | moveAbsolute _ _ _ ok =>
    cases ok with
    | false => rfl
    | true => cases quiet
  | moveRelative _ _ _ ok =>
    cases ok with
    | false => rfl
    | true => cases quiet
  | _ => rfl

theorem trackedSpeed_of_quiet (call : Call) (h : History) (quiet : call.startsRun = false) :
    trackedSpeed (call :: h) = trackedSpeed h := by
  cases call with
  | runVelocity _ _ ok =>
    cases ok with
    | false => rfl
    | true => cases quiet
  | _ => rfl

def trackedDriver : MotionBackend :=
  { enableDriver := some fun _ _ => true
    configureDriver := some fun _ _ => true
    currentPosition := some fun _ => 100
    targetPosition := some trackedTarget
    currentSpeed := some trackedSpeed
    moveAbsolute := some fun _ _ _ _ => true
    moveRelative := some fun _ _ _ _ => true
    runVelocity := some fun _ _ _ => true }

def trackedMotor : MotorPlant trackedDriver where
  position _ := 100
  target := trackedTarget
  speed := trackedSpeed
  moving h := h.any Call.startsMotion
  readsPosition := rfl
  readsTarget := rfl
  readsSpeed := rfl
  rest call h still unstarted := ⟨by simp [still, unstarted], rfl⟩
  absolute {steps _ _ _ _} adds :=
    adds.invariant (I := fun h => trackedTarget h = steps) (fun _ => id) (List.forall_mem_nil _)
      (fun call h quiet same => (trackedTarget_of_quiet call h quiet).trans same) rfl
  relative {delta _ _ _ _} adds _ _ _ :=
    adds.invariant (I := fun h => trackedTarget h = 100 + delta) (fun _ => id) (List.forall_mem_nil _)
      (fun call h quiet same => (trackedTarget_of_quiet call h quiet).trans same) rfl
  runs {velocity _ _ _} adds :=
    adds.invariant (I := fun h => trackedSpeed h = velocity) (fun _ => id) (List.forall_mem_nil _)
      (fun call h quiet same => (trackedSpeed_of_quiet call h quiet).trans same) rfl

/-- An axis at rest in `POSITION` mode, its direction inverted. -/
def mirroredAxis : Machine :=
  .boot trackedDriver {} { calibration := { directionInverted := true } }
    [.handlePacket (.request .SET_CONTROL_MODE 1 [1]) none]

theorem same_sign_reported_moveBy800 :
    ∃ position : Int, StatusReads trackedDriver mirroredAxis (fun status =>
        status.positionSteps = position) ∧
      StatusReads trackedDriver
        (run (step trackedDriver) (mirroredAxis.handlePacket trackedDriver none (moveBy800 2)) [])
        fun status => status.targetSteps = position + (readI32 ((moveBy800 2).at 0)).toInt := by
  have accepted : Accepted trackedDriver mirroredAxis (moveBy800 2) none :=
    ⟨by decide, (mirroredAxis.handlePacket trackedDriver none (moveBy800 2)).sent.take 2, rfl,
      by decide⟩
  refine (same_sign_reported trackedDriver trackedMotor mirroredAxis (moveBy800 2) none []
    accepted (by decide)).2.1 rfl .refl (by decide) (by decide) ?_
  intro delta converted
  obtain rfl : (-800 : Int32) = delta := Option.some.inj converted
  exact ⟨by decide, by decide⟩

end Daft
