import Daft.Session.Handlers

/-!
# The event stream

Every request and every tick passes a writer down, so over a port that takes every
packet the events tell the state from the state before; a frame error passes none.
-/

namespace Daft

open Logic

/-! ## Ticks and frame errors -/

section

variable {b : MotionBackend} {m : Machine}

/-- A fresh packet is handled in a walk, so it tells what it changes. -/
theorem handlePacket_told {down : Port} {r : Packet} (accepts : Accepts down)
    (fresh : m.act.isDuplicate r = false) : Told m (m.handlePacket b down r) := by
  have accepted : Told m (m.acceptRequest b r) := by
    rw [Machine.acceptRequest_eq]
    exact .silent .refl rfl fun _ up => up
  have dispatched : Handles b down r (m.acceptRequest b r)
      ((m.acceptRequest b r).dispatch b down r) := dispatch_handles
  obtain ⟨replies, walk, -⟩ := dispatched
  have served := accepted.trans (walk.told accepts)
  unfold Machine.handlePacket
  rw [if_neg (by simp [fresh])]
  exact served.trans (.silent .refl rfl fun _ up => up)

/-- A tick is a walk, so it tells what it changes. -/
theorem update_told {port : Port} (accepts : Accepts port) : Told m (m.update b (some port)) := by
  have walk : Walk b (some port) m [] (m.update b (some port)) := update_walks (some port)
  exact walk.told accepts

/-- A status changes nothing that would have to be told. -/
theorem sendStatus_told {w : ResponseWriter} {seq : UInt16} {telemetry : Bool} :
    Told m (m.sendStatus b w seq telemetry) := by
  have asked : Told m ((((m.logicalCurrentPosition b).2.logicalTargetPosition b).2.logicalCurrentSpeed
      b).2.nowMs b).2 :=
    (((Told.asks ..).trans (.asks ..)).trans (.asks ..)).trans (.asks b.millis .millis)
  exact asked.trans (.sends _ (.inl (by decide : MsgId.STATUS.byte ≠ MsgId.EVENT.byte)))

/-- The fault a frame error raises. -/
def frameFault (error : ErrorCode) : FaultFlag :=
  if error = .ERR_BAD_CRC then .BAD_CRC
  else if error = .ERR_BAD_PAYLOAD then .BAD_PAYLOAD
  else .RX_FRAME

/-- A frame error is always a fault that leads to `FAULTED`. -/
theorem frameFault_drops (error : ErrorCode) :
    (frameFault error).keepsState = false ∧ frameFault error ≠ .NONE := by
  unfold frameFault
  split
  · exact ⟨rfl, by decide⟩
  · split
    · exact ⟨rfl, by decide⟩
    · exact ⟨rfl, by decide⟩

/-- Without a writer nothing is announced. -/
theorem transitionTo_unheard (state : ActuatorState) :
    (m.transitionTo b state none).sent = m.sent := by
  unfold Machine.transitionTo
  split <;> rfl

/-- Without a writer no fault is announced. -/
theorem setFault_unheard (flag : FaultFlag) : (m.setFault b flag none).sent = m.sent := by
  unfold Machine.setFault
  dsimp only
  split
  · rfl
  · exact transitionTo_unheard .FAULTED

/-- The time of the last telemetry is nothing to tell. -/
theorem markTelemetrySent_told : Told m (m.markTelemetrySent b) := by
  rw [Machine.markTelemetrySent, Machine.nowMs_eq]
  exact .silent .refl rfl fun _ up => up

/-- A frame error that changes the state is told nobody. -/
theorem recordFrameError_sent (error : ErrorCode) :
    (m.recordFrameError b error).sent = m.sent ∧
      (m.recordFrameError b error).act.toControl = m.act.withFault (frameFault error) := by
  have dropped : ∀ (m : Machine) (flag : FaultFlag), (m.setFault b flag none).sent = m.sent ∧
      (m.setFault b flag none).act.toControl = m.act.withFault flag := by
    intro m flag
    exact ⟨setFault_unheard flag, ((Effect.refl m).fault flag (.map none)).control⟩
  unfold Machine.recordFrameError frameFault
  dsimp only
  split
  · exact dropped _ _
  · split
    · exact dropped _ _
    · exact dropped _ _

/-- A frame error that changes the state or raises a fault: no writer is passed down. -/
def SilentFault (m : Machine) (op : Op) : Prop :=
  ∃ error, op = .recordFrameError error ∧
    (m.act.state ≠ .FAULTED ∨ m.act.faults &&& (frameFault error).value = 0)

/-- What the run grants: no restart, a port that takes every packet for requests and
ticks, and no repeated request. -/
def Listening (m : Machine) : Op → Prop
  | .begin _ => False
  | .update eventWriter => ∃ port, eventWriter = some port ∧ Accepts port
  | .handlePacket r port => Accepts port ∧ m.act.isDuplicate r = false
  | _ => True

/-- A step over an open port tells what it changes unless it is a frame error. -/
theorem step_told {op : Op} (listening : Listening m op) (spoken : ¬ SilentFault m op) :
    Told m (step b m op) := by
  cases op with
  | begin => exact listening.elim
  | update eventWriter =>
    obtain ⟨port, rfl, accepts⟩ := listening
    exact update_told accepts
  | shouldSendTelemetry =>
    unfold step Machine.shouldSendTelemetry
    dsimp only
    split
    · exact .refl m
    · exact .asks b.millis .millis
  | markTelemetrySent => exact markTelemetrySent_told
  | sendTelemetry port seq => exact sendStatus_told.trans markTelemetrySent_told
  | recordFrameError error =>
    obtain ⟨sent, control⟩ := recordFrameError_sent (b := b) (m := m) error
    obtain ⟨drops, some⟩ := frameFault_drops error
    have latched : m.act.state = .FAULTED :=
      Decidable.byContradiction fun other => spoken ⟨error, rfl, .inl other⟩
    have known : m.act.faults &&& (frameFault error).value ≠ 0 :=
      fun clear => spoken ⟨error, rfl, .inr clear⟩
    refine .known sent ?_ (congrArg Control.faults control) known
    rw [step, control, latched, Control.withFault, drops]
    rfl
  | handlePacket r port => exact handlePacket_told listening.1 listening.2

/-- An operation after which the state changes since `first` still lead to the state,
and which told every fault it raised. -/
def KeepsTelling (b : MotionBackend) (first m : Machine) (op : Op) : Prop :=
  StateTold first (step b m op) ∧ FaultsTold m (step b m op)

/-- A frame error that goes unheard leaves a listener behind. -/
theorem spoken_of_told {first : Machine} {op : Op} (before : StateTold first m)
    (told : KeepsTelling b first m op) : ¬ SilentFault m op := by
  rintro ⟨error, rfl, silent⟩
  obtain ⟨sent, control⟩ := recordFrameError_sent (b := b) (m := m) error
  obtain ⟨drops, some⟩ := frameFault_drops error
  rcases silent with moved | raised
  · have same : (m.recordFrameError b error).act.state = m.act.state :=
      before.unique told.1 sent
    rw [control, Control.withFault, drops] at same
    exact moved same.symm
  · have up : faultUp (frameFault error).value (faultBit (frameFault error)).toNat = true :=
      (faultUp_value _ _).mpr ⟨some, rfl⟩
    have clear : faultUp m.act.faults (faultBit (frameFault error)).toNat = false := by
      have shared : faultUp (m.act.faults &&& (frameFault error).value)
          (faultBit (frameFault error)).toNat = false := by
        rw [raised, faultUp, UInt32.toNat_zero, Nat.zero_testBit]
      rw [faultUp, UInt32.toNat_and, Nat.testBit_and] at shared
      rw [faultUp] at up ⊢
      rwa [up, Bool.and_true] at shared
    have set : faultUp (m.recordFrameError b error).act.faults
        (faultBit (frameFault error)).toNat = true := by
      rw [control, Control.withFault, faultUp_or, up, Bool.or_true]
    obtain ⟨new, made, t, member, -⟩ := told.2 _ clear set
    have none : new = [] := by
      rw [step, sent] at made
      exact List.self_eq_append_left.mp made
    rw [none] at member
    cases member

/-- A listener keeps up exactly as long as no frame error changes anything. -/
theorem telling_iff {first : Machine} (before : StateTold first m) {ops : List Op}
    (listening : Along (step b) Listening m ops) :
    Along (step b) (KeepsTelling b first) m ops ↔
      Along (step b) (fun m op => ¬ SilentFault m op) m ops := by
  induction ops generalizing m with
  | nil => exact Iff.rfl
  | cons op ops ih =>
    obtain ⟨here, later⟩ := listening
    constructor
    · rintro ⟨told, rest⟩
      exact ⟨spoken_of_told before told, (ih told.1 later).mp rest⟩
    · rintro ⟨spoken, rest⟩
      have told := step_told (b := b) here spoken
      have state := before.trans told.state
      exact ⟨⟨state, told.faults⟩, (ih state later).mpr rest⟩

end

/-! ## Main result -/

/-- Over ports that take every packet, and with no request repeated, the events of a
run tell its states and faults exactly when every frame error finds the actuator
faulted with that error's fault already up. -/
theorem events_tell_iff (b : MotionBackend) (build : BuildInfo) (defaults : ActuatorConfig)
    (ops : List Op) (listening : Along (step b) Listening (.boot b build defaults []) ops) :
    Along (step b) (KeepsTelling b (.boot b build defaults [])) (.boot b build defaults []) ops ↔
      Along (step b) (fun m op => ¬ SilentFault m op) (.boot b build defaults []) ops :=
  telling_iff (Told.refl _).state listening

/-- A port that takes every packet. -/
def openPort : Port := some fun _ _ => true

theorem events_tell_iff_estop :
    Along (step {}) (KeepsTelling {} (.boot {} {} {} [])) (.boot {} {} {} [])
        [.handlePacket (.request .ESTOP 1 []) openPort] ↔
      Along (step {}) (fun m op => ¬ SilentFault m op) (.boot {} {} {} [])
        [.handlePacket (.request .ESTOP 1 []) openPort] := by
  have accepts : Accepts openPort := ⟨_, rfl, fun _ _ => rfl⟩
  exact events_tell_iff {} {} {} [.handlePacket (.request .ESTOP 1 []) openPort]
    ⟨⟨accepts, rfl⟩, trivial⟩

/-- The first bad frame faults the actuator and tells nobody. -/
theorem frame_error_untold :
    ¬ ∀ (b : MotionBackend) (build : BuildInfo) (defaults : ActuatorConfig) (ops : List Op),
      Along (step b) Listening (.boot b build defaults []) ops →
      Along (step b) (KeepsTelling b (.boot b build defaults [])) (.boot b build defaults []) ops := by
  intro tells
  obtain ⟨told, -⟩ := tells {} {} {} [.recordFrameError .ERR_BAD_PAYLOAD] ⟨trivial, trivial⟩
  refine spoken_of_told (Told.refl _).state told ⟨.ERR_BAD_PAYLOAD, rfl, .inl ?_⟩
  decide

end Daft
