import Daft.Firmware.Steps

/-!
# Announcements

State changes and newly raised faults are announced where a writer is passed
down to `transition_to` and `set_fault`. What is handed over between two machines
tells the difference between them.
-/

namespace Daft

open Logic

/-! ## Announcements -/

namespace Transmission

variable (t : Transmission)

/-- An event of this type that the port took. -/
def announces (event : EventType) : Bool :=
  t.taken ∧ t.packet.msgId = MsgId.EVENT.byte ∧ (t.packet.at 0).headD 0 = event.byte

def changesState : Bool := t.announces .STATE_CHANGED

def detail : UInt16 := readU16 (t.packet.at 2)

def value : UInt32 := readU32 (t.packet.at 4)

end Transmission

/-- State changes, newest first, each from the state the one before it reports. -/
inductive Links (first : ActuatorState) : List Transmission → ActuatorState → Prop where
  | none : Links first [] first
  | next {t : Transmission} {earlier : List Transmission} {previous state : ActuatorState}
      (before : Links first earlier previous) (detail : t.detail = previous.byte.toUInt16)
      (value : t.value = state.byte.toUInt32) : Links first (t :: earlier) state

/-- The state changes taken between the two machines lead from the state of the one
to that of the other. -/
def StateTold (m m' : Machine) : Prop :=
  ∃ changes, Adds Transmission.changesState m.sent changes m'.sent ∧
    Links m.act.state changes m'.act.state

/-- A bit of the fault word. -/
def faultUp (faults : UInt32) (bit : Nat) : Bool := faults.toNat.testBit bit

/-- Every fault bit raised between the two machines is announced in between. -/
def FaultsTold (m m' : Machine) : Prop :=
  ∀ bit, faultUp m.act.faults bit = false → faultUp m'.act.faults bit = true →
    ∃ new, m'.sent = new ++ m.sent ∧
      ∃ t ∈ new, t.announces .FAULT_SET = true ∧ t.detail.toNat = bit

structure Told (m m' : Machine) : Prop where
  state : StateTold m m'
  faults : FaultsTold m m'

theorem ActuatorState.byte_injective {state other : ActuatorState}
    (same : state.byte.toUInt32 = other.byte.toUInt32) : state = other := by
  cases state <;> cases other <;> first | rfl | exact absurd same (by decide)

/-- The events determine the state they lead to. -/
theorem Links.unique {first state other : ActuatorState} {changes : List Transmission}
    (links : Links first changes state) (links' : Links first changes other) : state = other := by
  cases links with
  | none =>
    cases links'
    rfl
  | next _ _ value =>
    cases links' with
    | next _ _ value' => exact ActuatorState.byte_injective (value.symm.trans value')

theorem Links.append {first middle last : ActuatorState} {earlier later : List Transmission}
    (before : Links first earlier middle) (after : Links middle later last) :
    Links first (later ++ earlier) last := by
  induction after with
  | none => exact before
  | next _ detail value ih => exact .next ih detail value

theorem FaultFlag.value_eq {flag : FaultFlag} (some : flag ≠ .NONE) :
    flag.value.toNat = 1 <<< (faultBit flag).toNat := by
  cases flag <;> first | rfl | exact absurd rfl some

/-- The bit of a flag is the one `fault_bit` counts. -/
theorem faultUp_value (flag : FaultFlag) (bit : Nat) :
    faultUp flag.value bit = true ↔ flag ≠ .NONE ∧ (faultBit flag).toNat = bit := by
  by_cases none : flag = .NONE
  · subst none
    simp [faultUp, FaultFlag.value]
  · rw [faultUp, FaultFlag.value_eq none, Nat.one_shiftLeft, Nat.testBit_two_pow,
      decide_eq_true_iff]
    exact (and_iff_right none).symm

theorem faultUp_or (faults mask : UInt32) (bit : Nat) :
    faultUp (faults ||| mask) bit = (faultUp faults bit || faultUp mask bit) := by
  rw [faultUp, UInt32.toNat_or, Nat.testBit_or]
  rfl

/-- A mask without a bit in common is not up yet. -/
theorem newly_of_clear {flag : FaultFlag} {faults : UInt32} {bit : Nat}
    (clear : faultUp faults bit = false) (up : faultUp flag.value bit = true) :
    faults &&& flag.value = 0 := by
  obtain ⟨some, place⟩ := (faultUp_value flag bit).mp up
  rw [← UInt32.toNat_inj, UInt32.toNat_and]
  show _ = 0
  rw [FaultFlag.value_eq some, Nat.one_shiftLeft, place]
  have bits : faults.toNat.testBit bit = false := clear
  apply Nat.eq_of_testBit_eq
  intro other
  rw [Nat.testBit_and, Nat.testBit_two_pow, Nat.zero_testBit]
  by_cases same : bit = other
  · rw [← same, bits, Bool.false_and]
  · rw [decide_eq_false same, Bool.and_false]

/-! ## Composition -/

section

variable {m m' m'' : Machine}

theorem StateTold.extends (told : StateTold m m') : ∃ new, m'.sent = new ++ m.sent := by
  obtain ⟨changes, adds, -⟩ := told
  obtain ⟨new, longer, -⟩ := adds.split
  exact ⟨new, longer⟩

theorem StateTold.trans (first : StateTold m m') (later : StateTold m' m'') : StateTold m m'' := by
  obtain ⟨earlier, adds, links⟩ := first
  obtain ⟨changes, adds', links'⟩ := later
  exact ⟨changes ++ earlier, adds.trans adds', links.append links'⟩

/-- The same beginning and the same packets leave one state. -/
theorem StateTold.unique (told : StateTold m m') (told' : StateTold m m'')
    (same : m''.sent = m'.sent) : m''.act.state = m'.act.state := by
  obtain ⟨changes, adds, links⟩ := told
  obtain ⟨changes', adds', links'⟩ := told'
  obtain ⟨new, longer, rfl⟩ := adds.split
  obtain ⟨new', longer', rfl⟩ := adds'.split
  obtain rfl : new' = new := by
    rw [same, longer] at longer'
    exact (List.append_cancel_right longer').symm
  exact links'.unique links

namespace Told

theorem refl (m : Machine) : Told m m :=
  ⟨⟨[], .refl, .none⟩, fun bit clear up => by rw [clear] at up; cases up⟩

theorem trans (first : Told m m') (later : Told m' m'') : Told m m'' := by
  refine ⟨first.state.trans later.state, ?_⟩
  intro bit clear up
  obtain ⟨between, extended⟩ := first.state.extends
  obtain ⟨after, extended'⟩ := later.state.extends
  cases middle : faultUp m'.act.faults bit with
  | true =>
    obtain ⟨new, made, t, member, announced⟩ := first.faults bit clear middle
    refine ⟨after ++ new, by rw [extended', made, List.append_assoc], t, ?_, announced⟩
    exact List.mem_append_right _ member
  | false =>
    obtain ⟨new, made, t, member, announced⟩ := later.faults bit middle up
    refine ⟨new ++ between, by rw [made, extended, List.append_assoc], t, ?_, announced⟩
    exact List.mem_append_left _ member

/-- Nothing to tell: the state is the same and no fault is new. -/
theorem silent (sent : Adds Transmission.changesState m.sent [] m'.sent)
    (state : m'.act.state = m.act.state)
    (faults : ∀ bit, faultUp m'.act.faults bit = true → faultUp m.act.faults bit = true) :
    Told m m' := by
  refine ⟨⟨[], sent, state ▸ .none⟩, ?_⟩
  intro bit clear up
  rw [faults bit up] at clear
  cases clear

end Told

end

/-! ## Steps of a handler -/

/-- The port takes every packet. -/
def Accepts (port : Port) : Prop :=
  ∃ send, port = some send ∧ ∀ sent packet, send sent packet = true

section

variable {m m' : Machine} {b : MotionBackend} {w : ResponseWriter}

theorem sendResponse_eq (packet : Packet) :
    ∃ taken, (m.sendResponse w packet).sent = ⟨packet, w.caches, taken⟩ :: m.sent ∧
      (m.sendResponse w packet).act.toControl = m.act.toControl ∧
      (Accepts w.downstream → taken = true) := by
  refine ⟨(m.sendPacket w packet).1, ?_, ?_, ?_⟩
  · simp only [Machine.sendResponse]
    split <;> rfl
  · simp only [Machine.sendResponse]
    split <;> rfl
  · rintro ⟨send, down, accepts⟩
    simp only [Machine.sendPacket, down]
    exact accepts m.sent packet

/-- A packet that is no state change tells nothing new. -/
theorem Told.sends (packet : Packet)
    (plain : packet.msgId ≠ MsgId.EVENT.byte ∨ (packet.at 0).headD 0 ≠ EventType.STATE_CHANGED.byte) :
    Told m (m.sendResponse w packet) := by
  obtain ⟨taken, sent, control, -⟩ := sendResponse_eq (m := m) (w := w) packet
  apply Told.silent
  · rw [sent]
    refine .quiet ?_ .refl
    apply decide_eq_false
    rintro ⟨-, event, change⟩
    rcases plain with other | other
    · exact other event
    · exact other change
  · rw [control]
  · rw [control]
    exact fun _ up => up

theorem Told.asks {α : Type} (callback : Option (History → α)) (record : α → Call) :
    Told m (m.ask callback record).2 := by
  cases callback <;> exact .silent .refl rfl fun _ up => up

/-- An event that is no state change. -/
theorem Told.event (seq : UInt16) {event : EventType} (severity : EventSeverity) (detail : UInt16)
    (value : UInt32) (other : event ≠ .STATE_CHANGED) :
    Told m (m.sendEvent b w seq event severity detail value) := by
  have named : event.byte ≠ EventType.STATE_CHANGED.byte := by
    cases event <;> first | exact absurd rfl other | decide
  exact (Told.asks b.millis .millis).trans (.sends _ (.inr named))

theorem sendEvent_sent (accepts : Accepts w.downstream) (seq : UInt16) (event : EventType)
    (severity : EventSeverity) (detail : UInt16) (value : UInt32) :
    ∃ now, (m.sendEvent b w seq event severity detail value).sent =
        ⟨eventPacket seq event severity detail value now, w.caches, true⟩ :: m.sent ∧
      (m.sendEvent b w seq event severity detail value).act.toControl = m.act.toControl := by
  have clock := Effect.nowMs m b
  obtain ⟨taken, sent, control, all⟩ := sendResponse_eq (m := (m.nowMs b).2) (w := w)
    (eventPacket seq event severity detail value (m.nowMs b).1)
  obtain rfl := all accepts
  have before : (m.nowMs b).2.sent = m.sent := by
    rw [Machine.nowMs_eq]
  refine ⟨(m.nowMs b).1, ?_, control.trans clock.control⟩
  rw [before] at sent
  exact sent

theorem changesState_stateEvent (seq detail : UInt16) (value now : UInt32) (cached : Bool) :
    (⟨eventPacket seq .STATE_CHANGED .INFO detail value now, cached, true⟩ :
      Transmission).changesState = true := rfl

theorem detail_event (seq : UInt16) (event : EventType) (severity : EventSeverity)
    (detail : UInt16) (value now : UInt32) (cached taken : Bool) :
    (⟨eventPacket seq event severity detail value now, cached, taken⟩ : Transmission).detail =
      detail :=
  readU16_writeU16 detail []

theorem value_event (seq : UInt16) (event : EventType) (severity : EventSeverity)
    (detail : UInt16) (value now : UInt32) (cached taken : Bool) :
    (⟨eventPacket seq event severity detail value now, cached, taken⟩ : Transmission).value =
      value :=
  readU32_writeU32 value []

/-- One state change from the state before to the state after. -/
theorem Told.change {state : ActuatorState} {now : UInt32} {cached : Bool}
    (entered : m'.act.state = state)
    (sent : m'.sent = ⟨eventPacket 0 .STATE_CHANGED .INFO m.act.state.byte.toUInt16
      state.byte.toUInt32 now, cached, true⟩ :: m.sent)
    (faults : m'.act.faults = m.act.faults) : Told m m' := by
  subst entered
  have link : Links m.act.state [⟨eventPacket 0 .STATE_CHANGED .INFO m.act.state.byte.toUInt16
      m'.act.state.byte.toUInt32 now, cached, true⟩] m'.act.state :=
    .next .none (detail_event ..) (value_event ..)
  refine ⟨⟨_, ?_, link⟩, ?_⟩
  · rw [sent]
    exact .entry (changesState_stateEvent ..) .refl
  · intro bit clear up
    rw [faults, clear] at up
    cases up

theorem Told.moves (accepts : Accepts w.downstream) (state : ActuatorState) :
    Told m (m.transitionTo b state (some w)) := by
  unfold Machine.transitionTo
  split
  · exact .refl m
  · obtain ⟨now, sent, control⟩ := sendEvent_sent (b := b)
      (m := m.mapControl fun c => { c with state := state }) accepts 0 .STATE_CHANGED .INFO
      m.act.state.byte.toUInt16 state.byte.toUInt32
    have entered : (Machine.sendEvent (m.mapControl fun c => { c with state := state }) b w 0
        .STATE_CHANGED .INFO m.act.state.byte.toUInt16 state.byte.toUInt32).act.state = state := by
      rw [control]
      rfl
    refine .change entered sent ?_
    rw [control]
    rfl

/-- One fault announced with its bit. -/
theorem Told.fault {flag : FaultFlag} {value now : UInt32} {cached : Bool}
    (state : m'.act.state = m.act.state) (faults : m'.act.faults = m.act.faults ||| flag.value)
    (sent : m'.sent = ⟨eventPacket 0 .FAULT_SET .ERROR (faultBit flag) value now, cached, true⟩ ::
      m.sent) : Told m m' := by
  refine ⟨⟨[], ?_, state ▸ .none⟩, ?_⟩
  · rw [sent]
    exact .quiet rfl .refl
  · intro bit clear up
    rw [faults, faultUp_or, clear, Bool.false_or] at up
    obtain ⟨-, place⟩ := (faultUp_value flag bit).mp up
    refine ⟨[_], sent, _, List.mem_singleton_self _, rfl, ?_⟩
    rw [detail_event]
    exact place

/-- A fault that is up already. -/
theorem Told.known {flag : FaultFlag} (sent : m'.sent = m.sent)
    (state : m'.act.state = m.act.state) (faults : m'.act.faults = m.act.faults ||| flag.value)
    (known : m.act.faults &&& flag.value ≠ 0) : Told m m' := by
  apply Told.silent
  · rw [sent]
    exact .refl
  · exact state
  · intro bit up
    rw [faults, faultUp_or] at up
    cases clear : faultUp m.act.faults bit with
    | true => rfl
    | false =>
      rw [clear, Bool.false_or] at up
      exact absurd (newly_of_clear clear up) known

theorem Told.raises (accepts : Accepts w.downstream) (flag : FaultFlag) :
    Told m (m.raiseFault b flag (some w)) := by
  unfold Machine.raiseFault
  dsimp only
  split
  case isTrue =>
    obtain ⟨now, sent, control⟩ := sendEvent_sent (b := b)
      (m := m.mapControl fun c => { c with faults := c.faults ||| flag.value }) accepts 0 .FAULT_SET
      .ERROR (faultBit flag) (m.act.faults ||| flag.value)
    have state := congrArg Control.state control
    have faults := congrArg Control.faults control
    exact .fault state faults sent
  case isFalse known => exact .known rfl rfl rfl (by simpa using known)

theorem Told.faulted (accepts : Accepts w.downstream) (flag : FaultFlag) :
    Told m (m.setFault b flag (some w)) := by
  unfold Machine.setFault
  have raised : Told m (m.raiseFault b flag (some w)) := .raises accepts flag
  dsimp only
  split
  · exact raised
  · exact raised.trans (.moves accepts .FAULTED)

end

end Daft
