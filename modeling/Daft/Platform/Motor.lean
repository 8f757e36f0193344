import Daft.Platform.Authority
import Daft.Platform.Esp32
import Daft.Safety.DriverOutputs
import Daft.Safety.Rates

/-!
# The motor of the ESP32

The libraries are told to start the motor and to switch its outputs by the callbacks
alone. What a callback does is followed operation by operation, and what the actuator
calls is known of every run, so what the libraries are told is known of every run.
-/

namespace Daft

open Logic Hardware

/-! ## Operations -/

namespace Operation

/-- The operations that start the motor. -/
def starts : Operation → Bool
  | .moveTo .. | .move .. | .runForward _ | .runBackward _ => true
  | _ => false

/-- The operations that switch the outputs of the motor. -/
def switches : Operation → Bool
  | .enableOutputs | .disableOutputs => true
  | _ => false

end Operation

/-- The outputs of the motor, as the library was last told. -/
def outputsEnabled : Operations → Bool
  | [] => false
  | .enableOutputs :: _ => true
  | .disableOutputs :: _ => false
  | _ :: ops => outputsEnabled ops

/-- The library has just taken the speed and the acceleration. -/
def Prepared (velocity accel : UInt32) (ops : Operations) : Prop :=
  ∃ before, ops = .setAcceleration accel.toInt32 true :: .setSpeedInHz velocity true :: before

/-- The operation by which a motion call starts the motor, its rates taken before. -/
inductive Call.Makes : Call → Operation → Operations → Prop where
  | moveTo {target : Int32} {velocity accel : UInt32} {ok answer : Bool} {before : Operations}
      (prepared : Prepared velocity accel before) :
      Makes (.moveAbsolute target velocity accel ok) (.moveTo target answer) before
  | move {delta : Int32} {velocity accel : UInt32} {ok answer : Bool} {before : Operations}
      (prepared : Prepared velocity accel before) :
      Makes (.moveRelative delta velocity accel ok) (.move delta answer) before
  | runForward {velocity : Int32} {accel : UInt32} {ok answer : Bool} {before : Operations}
      (ahead : velocity > 0) (prepared : Prepared (absVelocity velocity) accel before) :
      Makes (.runVelocity velocity accel ok) (.runForward answer) before
  | runBackward {velocity : Int32} {accel : UInt32} {ok answer : Bool} {before : Operations}
      (back : velocity < 0) (prepared : Prepared (absVelocity velocity) accel before) :
      Makes (.runVelocity velocity accel ok) (.runBackward answer) before

/-- Only a motion call starts the motor. -/
theorem Call.Makes.isMove {call : Call} {op : Operation} {before : Operations}
    (makes : call.Makes op before) : call.isMove = true := by
  cases makes <;> rfl

/-! ## Programs -/

/-- Whatever was done before, what a program does is as required. -/
def Hardware.Does {α : Type} (P : Operation → Operations → Prop) (program : Hardware α) : Prop :=
  ∀ ops, Since P ops (program ops).2

namespace Hardware.Does

variable {α β : Type} {P : Operation → Operations → Prop}

theorem pure (a : α) : Does P (Pure.pure a) := fun _ => .refl

/-- One program after another. -/
theorem bind {program : Hardware α} {next : α → Hardware β} (first : Does P program)
    (later : ∀ a, Does P (next a)) : Does P (program >>= next) := fun ops =>
  (first ops).trans (later _ _)

/-- One operation. -/
theorem perform {operation : Operation} (allowed : ∀ ops, P operation ops) :
    Does P (perform operation) := fun ops => .cons (allowed ops) .refl

/-- One operation, with any answer. -/
theorem ask {answer : Operations → α} {record : α → Operation}
    (allowed : ∀ a ops, P (record a) ops) : Does P (ask answer record) := fun ops =>
  .cons (allowed _ ops) .refl

/-- A program whose result nobody takes. -/
theorem discard {program : Hardware α} (does : Does P program) : Does P (discard program) :=
  does.bind fun _ => .pure _

/-- A loop, by its body. -/
theorem loop {list : List α} {b : β} {body : α → β → Hardware (ForInStep β)}
    (each : ∀ a b, Does P (body a b)) : Does P (forIn list b body) := by
  induction list generalizing b with
  | nil => exact .pure b
  | cons a list ih =>
    rw [List.forIn_cons]
    refine (each a b).bind fun result => ?_
    cases result with
    | done b => exact .pure b
    | yield b => exact ih

end Hardware.Does

/-- A motion callback asks for the speed, the acceleration and the start in this order,
and goes on only while the library agrees. -/
theorem cbMotion_connected (stepper : FastAccelStepper) (velocity accel : UInt32)
    (start : FastAccelStepper → Hardware Bool) (ops : Operations) :
    cbMotion (some stepper) velocity accel start ops =
      let fast := stepper.setSpeedInHz ops velocity
      let sped := .setSpeedInHz velocity fast :: ops
      let ready := stepper.setAcceleration sped accel.toInt32
      let set := .setAcceleration accel.toInt32 ready :: sped
      if fast then if ready then start stepper set else (false, set) else (false, sped) := by
  dsimp only [cbMotion, ask, bind, StateT.bind, pure, StateT.pure]
  cases stepper.setSpeedInHz ops velocity with
  | false => rfl
  | true =>
    rw [if_neg (by decide), if_pos rfl]
    dsimp only [ask, StateT.bind]
    cases stepper.setAcceleration (.setSpeedInHz velocity true :: ops) accel.toInt32 with
    | false => rfl
    | true => rfl

/-! ## Callbacks -/

/-- What a call may do: start the motor as it says, switch the outputs if it is about
them, and neither without a stepper. -/
structure Drives (stepper : Option FastAccelStepper) (call : Call) (op : Operation)
    (before : Operations) : Prop where
  starts : op.starts = true → call.Makes op before
  switches : op.switches = true → call.drivesOutputs = true
  connected : op.starts = true ∨ op.switches = true → stepper.isSome = true

section

variable {stepper : Option FastAccelStepper} {call : Call} {op : Operation} {before : Operations}

/-- Operations that neither start nor switch are free. -/
theorem Drives.idle (still : op.starts = false) (unswitched : op.switches = false) :
    Drives stepper call op before :=
  ⟨by simp [still], by simp [unswitched], by simp [still, unswitched]⟩

/-- The start of a motion call, on a connected motor. -/
theorem Drives.start (makes : call.Makes op before) (unswitched : op.switches = false)
    (connected : stepper.isSome = true) : Drives stepper call op before :=
  ⟨fun _ => makes, by simp [unswitched], fun _ => connected⟩

/-- Switching, on a connected motor. -/
theorem Drives.switch (still : op.starts = false) (drives : call.drivesOutputs = true)
    (connected : stepper.isSome = true) : Drives stepper call op before :=
  ⟨by simp [still], fun _ => drives, fun _ => connected⟩

/-- A motion callback starts nothing before the rates are taken. -/
theorem cbMotion_drives {velocity accel : UInt32} {start : FastAccelStepper → Hardware Bool}
    (starts : ∀ driven ops, stepper.isSome = true → Prepared velocity accel ops →
      Since (Drives stepper call) ops (start driven ops).2) :
    Does (Drives stepper call) (cbMotion stepper velocity accel start) := by
  cases stepper with
  | none => exact .pure _
  | some stepper =>
    intro ops
    rw [cbMotion_connected]
    have sped : ∀ ok, Since (Drives (some stepper) call) ops (.setSpeedInHz velocity ok :: ops) :=
      fun ok => .cons (.idle rfl rfl) .refl
    dsimp only
    split
    case isFalse => exact sped _
    case isTrue fast =>
      rw [fast]
      have set : ∀ ok, Since (Drives (some stepper) call) ops
          (.setAcceleration accel.toInt32 ok :: .setSpeedInHz velocity true :: ops) := fun ok =>
        .cons (.idle rfl rfl) (sped true)
      split
      case isFalse => exact set _
      case isTrue ready =>
        rw [ready]
        exact (set true).trans (starts stepper _ rfl ⟨ops, rfl⟩)

/-- A callback, without a stepper and with one. -/
theorem callback_drives {α : Type} (callback : Option FastAccelStepper → Hardware α)
    (without : Does (Drives none call) (callback none))
    (driving : ∀ driven, Does (Drives (some driven) call) (callback (some driven))) :
    Does (Drives stepper call) (callback stepper) := by
  cases stepper with
  | none => exact without
  | some driven => exact driving driven

/-- The library switches, or the pin does. -/
theorem cbEnableDriver_drives (config : ActuatorConfig) (enabled ok : Bool) :
    Does (Drives stepper (.enableDriver enabled ok)) (cbEnableDriver stepper config enabled) := by
  refine callback_drives (cbEnableDriver · config enabled)
    (.bind (.perform fun _ => .idle rfl rfl) fun _ => .pure _) fun driven => ?_
  cases enabled with
  | false => exact .bind (.perform fun _ => .switch rfl rfl rfl) fun _ => .pure _
  | true => exact .bind (.perform fun _ => .switch rfl rfl rfl) fun _ => .pure _

theorem cbMoveAbsolute_drives (target : Int32) (velocity accel : UInt32) (ok : Bool) :
    Does (Drives stepper (.moveAbsolute target velocity accel ok))
      (cbMoveAbsolute stepper target velocity accel) :=
  cbMotion_drives fun _ _ connected prepared => .cons (.start (.moveTo prepared) rfl connected) .refl

theorem cbMoveRelative_drives (delta : Int32) (velocity accel : UInt32) (ok : Bool) :
    Does (Drives stepper (.moveRelative delta velocity accel ok))
      (cbMoveRelative stepper delta velocity accel) :=
  cbMotion_drives fun _ _ connected prepared => .cons (.start (.move prepared) rfl connected) .refl

/-- A velocity runs in the direction of its sign. -/
theorem cbRunVelocity_drives (velocity : Int32) (accel : UInt32) (ok : Bool) :
    Does (Drives stepper (.runVelocity velocity accel ok)) (cbRunVelocity stepper velocity accel) := by
  unfold cbRunVelocity
  split
  case isTrue => exact .pure _
  case isFalse nonzero =>
    refine cbMotion_drives fun driven ops connected prepared => ?_
    split
    case isTrue ahead => exact .cons (.start (.runForward ahead prepared) rfl connected) .refl
    case isFalse stays =>
      have back : velocity < 0 := Int32.lt_of_le_of_ne (Int32.not_lt.mp stays) nonzero
      exact .cons (.start (.runBackward back prepared) rfl connected) .refl

/-- A stop lets the motor run out. -/
theorem cbRampStop_drives (decel : UInt32) :
    Does (Drives stepper call) (cbRampStop stepper decel) :=
  callback_drives (cbRampStop · decel) (.pure _) fun _ =>
    .bind (.ask fun _ _ => .idle rfl rfl) fun _ =>
      .bind (.perform fun _ => .idle rfl rfl) fun _ => .pure _

/-- An emergency stop switches off last. -/
theorem cbEmergencyStop_drives : Does (Drives stepper .emergencyStop) (cbEmergencyStop stepper) :=
  callback_drives cbEmergencyStop (.pure _) fun _ =>
    .bind (.ask fun _ _ => .idle rfl rfl) fun _ =>
      .bind (.perform fun _ => .idle rfl rfl) fun _ => .perform fun _ => .switch rfl rfl rfl

/-- The chip is set up without the motor. -/
theorem cbConfigureDriver_drives (driver : TMC2209Stepper) (config : Tmc2209Config) :
    Does (Drives stepper call) (cbConfigureDriver driver config) :=
  .bind (.loop fun _ _ => .bind (.perform fun _ => .idle rfl rfl) fun _ => .pure _) fun _ =>
    .bind (.ask fun _ _ => .idle rfl rfl) fun _ => .pure _

/-- The chip is read without the motor. -/
theorem cbDriverStatus_drives (driver : TMC2209Stepper) (configured : Bool)
    (active : ActuatorConfig) :
    Does (Drives stepper call) (cbDriverStatus driver configured active) :=
  .bind (.ask fun _ _ => .idle rfl rfl) fun _ => .bind (.ask fun _ _ => .idle rfl rfl) fun _ =>
    .bind (.ask fun _ _ => .idle rfl rfl) fun _ => .bind (.ask fun _ _ => .idle rfl rfl) fun _ =>
      .pure _

end

namespace Esp32

variable {N : Type} (hw : Esp32 N)

/-- What a call does to the hardware. -/
theorem serve_drives (past : History) (call : Call) :
    Does (Drives hw.stepper call) (hw.serve past call) := by
  cases call with
  | enableDriver enabled ok => exact Does.discard (cbEnableDriver_drives _ enabled ok)
  | configureDriver config ok => exact Does.discard (cbConfigureDriver_drives _ config)
  | moveAbsolute target velocity accel ok =>
    exact Does.discard (cbMoveAbsolute_drives target velocity accel ok)
  | moveRelative delta velocity accel ok =>
    exact Does.discard (cbMoveRelative_drives delta velocity accel ok)
  | runVelocity velocity accel ok => exact Does.discard (cbRunVelocity_drives velocity accel ok)
  | rampStop decel ok => exact Does.discard (cbRampStop_drives decel)
  | emergencyStop => exact cbEmergencyStop_drives
  | currentPosition steps =>
    exact Does.discard (callback_drives cbCurrentPosition (.pure _) fun _ =>
      .ask fun _ _ => .idle rfl rfl)
  | targetPosition steps =>
    exact Does.discard (callback_drives cbTargetPosition (.pure _) fun _ =>
      .ask fun _ _ => .idle rfl rfl)
  | currentSpeed speed =>
    exact Does.discard (callback_drives cbCurrentSpeed (.pure _) fun _ =>
      .bind (.ask fun _ _ => .idle rfl rfl) fun _ => .pure _)
  | motionActive running =>
    exact Does.discard (callback_drives cbMotionActive (.pure _) fun _ =>
      .ask fun _ _ => .idle rfl rfl)
  | driverStatus status => exact Does.discard (cbDriverStatus_drives _ _ _)
  | _ => exact .pure _

/-- Nothing starts or is switched on before `begin`. -/
theorem setup_still :
    Does (fun op _ => op.starts = false ∧ (op.switches = true → hw.stepper.isSome = true))
        hw.setupHardware ∧
      outputsEnabled (hw.setupHardware []).2 = false := by
  unfold setupHardware
  cases hw.stepper with
  | none =>
    exact ⟨.bind (.perform fun _ => ⟨rfl, nofun⟩) fun _ =>
      .bind (.perform fun _ => ⟨rfl, nofun⟩) fun _ => .pure _, rfl⟩
  | some stepper =>
    refine ⟨.bind (.perform fun _ => ⟨rfl, nofun⟩) fun _ =>
      .bind (.perform fun _ => ⟨rfl, nofun⟩) fun _ => ?_, rfl⟩
    exact .bind (.perform fun _ => ⟨rfl, nofun⟩) fun _ =>
      .bind (.perform fun _ => ⟨rfl, nofun⟩) fun _ => .bind (.perform fun _ => ⟨rfl, nofun⟩) fun _ =>
        .bind (.ask fun _ _ => ⟨rfl, nofun⟩) fun _ => .bind (.ask fun _ _ => ⟨rfl, nofun⟩) fun _ =>
          .perform fun _ => ⟨rfl, fun _ => rfl⟩

/-- The motor is started by calls alone, and neither started nor switched where there is
none. -/
theorem operations_drives {P : Call → History → Prop} {h : History} (since : Since P [] h) :
    Since (fun op before =>
        (op.starts = true → ∃ call past, P call past ∧ call.Makes op before) ∧
          (op.starts = true ∨ op.switches = true → hw.stepper.isSome = true))
      [] (hw.operations h) := by
  have begun : Since _ [] (hw.operations []) := hw.setup_still.1 []
  refine (begun.mono fun op before still => ⟨fun starts => ?_, fun driven => ?_⟩).trans
    (since.carry fun call past here => (hw.serve_drives past call _).mono fun op before drives =>
      ⟨fun starts => ⟨call, past, here, drives.starts starts⟩, drives.connected⟩)
  · rw [still.1] at starts
    cases starts
  · rw [still.1] at driven
    exact driven.elim nofun still.2

end Esp32

/-! ## The outputs -/

/-- Other operations leave the outputs. -/
theorem outputsEnabled_cons {op : Operation} (unswitched : op.switches = false) (ops : Operations) :
    outputsEnabled (op :: ops) = outputsEnabled ops := by
  cases op <;> first | rfl | cases unswitched

/-- Programs that switch nothing leave the outputs. -/
theorem outputsEnabled_since {ops ops' : Operations}
    (since : Since (fun op _ => op.switches = false) ops ops') :
    outputsEnabled ops' = outputsEnabled ops := by
  induction since with
  | refl => rfl
  | cons unswitched _ ih => rw [outputsEnabled_cons unswitched, ih]

section

variable (stepper : FastAccelStepper) (ops : Operations)

/-- Switching the driver leaves the outputs as asked. -/
theorem cbEnableDriver_outputs (config : ActuatorConfig) (enabled : Bool) :
    outputsEnabled (discard (cbEnableDriver (some stepper) config enabled) ops).2 = enabled := by
  cases enabled with
  | false => rfl
  | true => rfl

/-- An emergency stop leaves the outputs off. -/
theorem cbEmergencyStop_outputs :
    outputsEnabled (cbEmergencyStop (some stepper) ops).2 = false := rfl

end

namespace Esp32

variable {N : Type} (hw : Esp32 N)

/-- A connected motor has its outputs switched as the calls have them, where switching on
is never refused. -/
theorem outputsEnabled_operations (connected : hw.stepper.isSome = true) {h : History}
    (willing : .enableDriver true false ∉ h) :
    outputsEnabled (hw.operations h) = outputsOn h := by
  obtain ⟨stepper, wired⟩ := Option.isSome_iff_exists.mp connected
  induction h with
  | nil => exact hw.setup_still.2
  | cons call past ih =>
    rw [List.mem_cons, not_or] at willing
    obtain ⟨here, before⟩ := willing
    have same := ih before
    have drive := hw.serve_drives past call (hw.operations past)
    cases drives : call.drivesOutputs with
    | false =>
      rw [outputsOn_cons drives, ← same]
      refine outputsEnabled_since (drive.mono fun op ops drive => ?_)
      exact eq_false_of_ne_true fun switches => by simp [drive.switches switches] at drives
    | true =>
      cases call with
      | emergencyStop =>
        show outputsEnabled (cbEmergencyStop hw.stepper (hw.operations past)).2 = false
        rw [wired, cbEmergencyStop_outputs]
      | enableDriver enabled ok =>
        show outputsEnabled (discard (cbEnableDriver hw.stepper (bootConfig past) enabled)
          (hw.operations past)).2 = _
        rw [wired, cbEnableDriver_outputs]
        cases enabled with
        | false => rfl
        | true =>
          obtain rfl : ok = true := eq_true_of_ne_false fun refused => here (by rw [refused])
          rfl
      | _ => cases drives

end Esp32

/-! ## Runs -/

/-- What a motion call of a step is made for. -/
def Moves (m : Machine) (op : Op) (call : Call) : Prop :=
  ∃ r port, op = .handlePacket r port ∧ m.act.isDuplicate r = false ∧ Orders r call ∧
    m.act.activeConfig.safety.Allows call

section

variable {b : MotionBackend} {h : History} {r : Packet} {c c' : Control} {calls : List Call}
  {responses : List Packet} {m : Machine} {op : Op}

/-- The motion call of a request is the one it orders. -/
theorem MotionRequest.ordered {answer : Option Bool} {state : ActuatorState} {mode : ControlMode}
    (request : MotionRequest b h r c answer calls state mode) :
    ∀ call ∈ calls, call.isMove = true → Orders r call := by
  intro call member moves
  have needed : call ∈ calls.filter Call.ordered :=
    List.mem_filter.mpr ⟨member, by simp [Call.ordered, call.energises_of_isMove moves]⟩
  rcases request.orders with none | ⟨single, listed, orders⟩
  · rw [none] at needed
    cases needed
  · rw [listed, List.mem_singleton] at needed
    exact needed ▸ orders

/-- Every step makes motion calls only as its request orders them. -/
theorem step_motions (b : MotionBackend) (m : Machine) (op : Op) :
    Since (fun call _ => call.isMove = true → Moves m op call) m.calls (step b m op).calls := by
  obtain ⟨calls, stepped⟩ := step_stepped b m op
  rcases stepped.moved with still | ⟨r, port, answer, state, mode, rfl, fresh, request⟩
  · exact stepped.calls.since_of_absent Call.notable_of_isMove still
  · refine stepped.calls.since_of_members Call.notable_of_isMove fun call member moves => ?_
    exact ⟨r, port, rfl, fresh, request.ordered call member moves, request.allowed_rates call member⟩

/-- A driver that always switches on is recorded as doing so. -/
theorem Served.willing (served : Served b h r c calls responses c')
    (obliging : ∀ past, b.enableDriver.map (fun f => f past true) = some true) :
    .enableDriver true false ∉ calls := by
  intro member
  rcases served.energised with idle | ⟨mode, _, _, _, answered⟩ | ⟨_, _, _, request, -⟩
  · cases idle _ member
  · obtain ⟨past, refused⟩ := answered false member
    rw [obliging] at refused
    cases refused
  · cases request.silent Call.not_drives_of_isMove (fun _ => rfl) _ member

/-- No step records a refusal of such a driver. -/
theorem Stepped.willing {m' : Machine} (stepped : Stepped b m m' op calls)
    (obliging : ∀ past, b.enableDriver.map (fun f => f past true) = some true) :
    .enableDriver true false ∉ calls := by
  intro member
  cases stepped with
  | executed _ done => exact done.served.willing obliging member
  | repeated => cases member
  | ticked done =>
    obtain ⟨pending, ticked⟩ := done.ticked
    cases ticked.energises_nothing _ member
  | begun done => cases done.begun.energises_nothing _ member
  | framed => cases member
  | reported _ reads => 
    have unread := reads.all (p := Call.energises) (fun _ => rfl) _ member
    cases unread

/-- So none is recorded after a step if none was before. -/
theorem step_willing (obliging : ∀ past, b.enableDriver.map (fun f => f past true) = some true)
    (op : Op) (willing : .enableDriver true false ∉ m.calls) :
    .enableDriver true false ∉ (step b m op).calls := by
  obtain ⟨calls, stepped⟩ := step_stepped b m op
  have absent : ∀ call ∈ calls, decide (call = .enableDriver true false) = false := by
    intro call member
    exact decide_eq_false fun refused => stepped.willing obliging (refused ▸ member)
  obtain ⟨new, grown, unrefused⟩ := stepped.calls.none (fun call refused => by
    rw [decide_eq_true_eq] at refused
    rw [refused]
    rfl) absent
  rw [grown, List.mem_append]
  rintro (now | before)
  · simpa using unrefused _ now
  · exact willing before

/-- And none after a run. -/
theorem boot_willing (obliging : ∀ past, b.enableDriver.map (fun f => f past true) = some true)
    (build : BuildInfo) (defaults : ActuatorConfig) (ops : List Op) :
    .enableDriver true false ∉ (Machine.boot b build defaults ops).calls :=
  run_invariant (I := fun m : Machine => Call.enableDriver true false ∉ m.calls)
    (fun _ op willing => step_willing obliging op willing)
    (step_willing obliging (.begin defaults) (List.not_mem_nil (a := Call.enableDriver true false))) ops

/-- Every motion call since power on is made for a step of the run. -/
theorem boot_motions (b : MotionBackend) (build : BuildInfo) (ops : List Op) :
    Since (fun call _ => call.isMove = true → ∃ earlier op,
        earlier ++ [op] <+: ops ∧ Moves (.boot b build defaultConfig earlier) op call)
      [] (Machine.boot b build defaultConfig ops).calls := by
  have begun := step_motions b (.powerOn build) (.begin defaultConfig)
  refine (begun.mono fun call past moves moving => ?_).trans ?_
  · obtain ⟨r, port, packet, -⟩ := moves moving
    cases packet
  · have since := (along_of_always (P := fun _ _ => True) (fun _ _ => trivial)
      (step b (.powerOn build) (.begin defaultConfig)) ops).since (I := fun _ => True)
        (fun m op _ _ => step_motions b m op) (fun _ _ _ _ => trivial) trivial
    refine since.mono ?_
    rintro call past ⟨earlier, op, begins, moves⟩ moving
    exact ⟨earlier, op, begins, moves moving⟩

end

/-! ## Main result -/

/-- `cb_enable_driver` always succeeds. -/
theorem Esp32.makeBackend_obliging {N : Type} (hw : Esp32 N) (past : History) :
    hw.makeBackend.enableDriver.map (fun f => f past true) = some true := by
  show some (hw.returns past (cbEnableDriver hw.stepper (bootConfig past) true)) = some true
  cases hw.stepper with
  | none => rfl
  | some stepper => rfl

/-- A motor that agrees to everything, wired to a chip that answers. -/
def willingEsp32 : Esp32 Partition where
  stepper := some
    { setSpeedInHz _ _ := true, setAcceleration _ _ := true, moveTo _ _ := true, move _ _ := true
      runForward _ := true, runBackward _ := true, getCurrentPosition _ := 0, targetPos _ := 0
      getCurrentSpeedInMilliHz _ := 0, isRunning _ := false }
  driver := { testConnection _ := 0, drvStatus _ := 0, otpw _ := false, ot _ := false }
  prefs := partitionPreferences
  nvs := { lasts := 0 }
  millis _ := 0
  resetReason := 1
  activeConfig _ := {}

/-- The driver is switched on and a move sent twice, then one that is too fast. -/
def movePasses : List (List UInt8) :=
  [(Packet.request .SET_CONTROL_MODE 1 [1]).frame ++ (moveTo100 2).frame, (moveTo100 2).frame,
    (Packet.request .MOVE_ABS 3 (writeI32 200 ++ writeU32 500000 ++ writeU32 500)).frame]

def movedBoard : Board := .after willingEsp32.makeBackend steadyPort {} movePasses

end Daft
