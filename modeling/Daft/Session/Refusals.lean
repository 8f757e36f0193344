import Daft.Safety.ConfigCopies
import Daft.Session.Delivery

/-!
# Refused requests

A request that is answered with `ERROR` is meant to leave the configuration and the
control mode as they were. Most handlers check everything, and ask the backend,
before they write a member; `CONFIG_RESET_DEFAULTS` and the enabling branches of
`SET_CONTROL_MODE` write first.
-/

namespace Daft

open Logic

/-- Between the two machines a packet of this kind was handed over. -/
def Machine.Sends (msg : MsgId) (m m' : Machine) : Prop :=
  ∃ new, m'.sent = new ++ m.sent ∧ ∃ t ∈ new, t.packet.msgId = msg.byte

/-! ## Answers -/

section

variable {b : MotionBackend} {m m' : Machine} {r : Packet} {calls : List Call}
  {replies responses : List Packet} {msg : MsgId}

theorem Packet.answers_of_msgId {packet : Packet} (id : packet.msgId = msg.byte)
    (other : msg ≠ .EVENT) : packet.answers = true := by
  rw [Packet.answers, id]
  exact decide_eq_true (mt MsgId.byte_injective other)

theorem Delivers.sends_iff (delivers : Delivers m replies m') (other : msg ≠ .EVENT) :
    m.Sends msg m' ↔ ∃ packet ∈ replies, packet.msgId = msg.byte := by
  obtain ⟨new, sent, filtered, -⟩ := delivers
  constructor
  · rintro ⟨new', sent', t, member, id⟩
    obtain rfl := List.append_cancel_right (sent'.symm.trans sent)
    have found : t.packet ∈ (new'.map (·.packet)).filter Packet.answers :=
      List.mem_filter.mpr ⟨List.mem_map_of_mem member, Packet.answers_of_msgId id other⟩
    rw [filtered] at found
    exact ⟨_, List.mem_reverse.mp found, id⟩
  · rintro ⟨packet, member, id⟩
    have found : packet ∈ (new.map (·.packet)).filter Packet.answers := by
      rw [filtered]
      exact List.mem_reverse.mpr member
    obtain ⟨t, inside, rfl⟩ := List.mem_map.mp (List.mem_filter.mp found).1
    exact ⟨new, sent, t, inside, id⟩

/-- The kind of the answer is that of a packet passed through the caching writer. -/
theorem handlePacket_sends (b : MotionBackend) (down : Port)
    (fresh : m.act.isDuplicate r = false) :
    ∃ calls responses, Executed b m r calls responses (m.handlePacket b down r) ∧
      ∀ msg, msg ≠ MsgId.EVENT → (m.Sends msg (m.handlePacket b down r) ↔
        ∃ packet ∈ responses, packet.msgId = msg.byte) := by
  obtain ⟨calls, responses, done⟩ := @handlePacket_executed b down r m fresh
  have handled : Replies r m (m.handlePacket b down r) := handlePacket_replies fresh
  obtain ⟨replies, hands, -⟩ := handled
  refine ⟨calls, responses, done, ?_⟩
  intro msg other
  obtain ⟨kept, -⟩ := hands.cached done.sent
  rw [hands.delivers.sends_iff other, ← kept]
  constructor
  · rintro ⟨packet, member, id⟩
    exact ⟨packet, (List.mem_filter.mp member).1, id⟩
  · rintro ⟨packet, member, id⟩
    exact ⟨packet, List.mem_filter.mpr ⟨member, Packet.answers_of_msgId id other⟩, id⟩

theorem not_error_of_acked {seq : UInt16} {acked : UInt8}
    (error : ∃ packet ∈ [ackPacket seq acked], packet.msgId = MsgId.ERROR.byte) : False := by
  obtain ⟨packet, member, id⟩ := error
  rw [List.mem_singleton.mp member] at id
  exact absurd id (by decide : MsgId.ACK.byte ≠ MsgId.ERROR.byte)

theorem not_acked_of_refused {seq : UInt16} {rejected : UInt8} {code : ErrorCode}
    (acked : ∃ packet ∈ [errorPacket seq rejected code], packet.msgId = MsgId.ACK.byte) : False := by
  obtain ⟨packet, member, id⟩ := acked
  rw [List.mem_singleton.mp member] at id
  exact absurd id (by decide : MsgId.ERROR.byte ≠ MsgId.ACK.byte)

theorem error_of_refused (seq : UInt16) (rejected : UInt8) (code : ErrorCode) :
    ∃ packet ∈ [errorPacket seq rejected code], packet.msgId = MsgId.ERROR.byte :=
  ⟨_, List.mem_singleton_self _, rfl⟩

end

/-! ## The configuration -/

/-- A `CONFIG_RESET_DEFAULTS` that fails at the backend, of a configuration that is
not the default one already. -/
structure AbandonsConfig (b : MotionBackend) (m : Machine) (r : Packet) : Prop where
  fresh : m.act.isDuplicate r = false
  request : ResetRequest r m.act.toControl
  failing : ResetFailing b (m.arrival b) m.act.toControl
  other : ¬ m.act.SameConfigs m.act.reset

section

variable {b : MotionBackend} {h : History} {m : Machine} {r : Packet} {c c' : Control}
  {calls : List Call} {responses : List Packet}

theorem Served.generation_of_reset (served : Served b h r c calls responses c')
    (id : r.msgId = MsgId.CONFIG_RESET_DEFAULTS.byte) :
    c'.configGeneration = c.configGeneration := by
  cases served with
  | saved asks => exact absurd (asks.id.symm.trans id) (by decide)
  | _ => rfl

/-- A `CONFIG_RESET_DEFAULTS` that is refused keeps the configuration, or fails at the
backend with the defaults written. -/
theorem Served.reset_refused (served : Served b h r c calls responses c')
    (id : r.msgId = MsgId.CONFIG_RESET_DEFAULTS.byte)
    (error : ∃ packet ∈ responses, packet.msgId = MsgId.ERROR.byte) :
    c'.SameConfigs c ∨ ResetRequest r c ∧ ResetFailing b h c ∧ c'.SameConfigs c.reset := by
  cases served.configures with
  | keeps same => exact .inl same
  | stages asks => exact absurd (asks.id.symm.trans id) (by decide)
  | applies request => exact absurd (request.asks.id.symm.trans id) (by decide)
  | resets _ acked => exact (not_error_of_acked (acked ▸ error)).elim
  | resetFails request failing same => exact .inr ⟨request, failing, same⟩
  | rates asks => exact absurd (asks.id.symm.trans id) (by decide)

/-- A failing `CONFIG_RESET_DEFAULTS` is refused with the defaults written. -/
theorem Served.reset_failed (served : Served b h r c calls responses c')
    (request : ResetRequest r c) (failing : ResetFailing b h c) :
    (∃ packet ∈ responses, packet.msgId = MsgId.ERROR.byte) ∧ c'.SameConfigs c.reset := by
  cases served with
  | resetConfigureFailed => exact ⟨error_of_refused .., ⟨rfl, rfl, rfl, rfl⟩⟩
  | resetStorageFailed => exact ⟨error_of_refused .., ⟨rfl, rfl, rfl, rfl⟩⟩
  | reset _ configuring accepted asked erased =>
    cases failing with
    | driver failed => exact absurd (configuring.trans failed) accepted
    | storage configuring' failed =>
      rw [configuring', ← configuring, ← asked] at failed
      exact absurd failed erased
  | refused refusal =>
    have still := request.still
    cases refusal <;> grind
  | _ => grind

theorem AbandonsConfig.lost (abandons : AbandonsConfig b m r) (port : Port) :
    m.Sends .ERROR (m.handlePacket b port r) ∧
      (m.handlePacket b port r).act.SameConfigs m.act.reset := by
  obtain ⟨calls, responses, done, sends⟩ :=
    handlePacket_sends b port abandons.fresh
  obtain ⟨error, same⟩ := done.served.reset_failed abandons.request abandons.failing
  exact ⟨(sends .ERROR (by decide)).mpr error, same⟩

end

/-- A `CONFIG_RESET_DEFAULTS` answered with `ERROR` leaves the configuration as it was,
exactly when it does not fail at the backend with something to overwrite. -/
theorem reset_atomic_iff (b : MotionBackend) (m : Machine) (r : Packet) (port : Port) :
    (r.msgId = MsgId.CONFIG_RESET_DEFAULTS.byte → m.Sends .ERROR (m.handlePacket b port r) →
      (m.handlePacket b port r).act.activeConfig = m.act.activeConfig ∧
        (m.handlePacket b port r).act.stagedConfig = m.act.stagedConfig ∧
        (m.handlePacket b port r).act.configStaged = m.act.configStaged ∧
        (m.handlePacket b port r).act.configGeneration = m.act.configGeneration) ↔
      ¬ AbandonsConfig b m r := by
  constructor
  · intro atomic abandons
    obtain ⟨error, same⟩ := abandons.lost port
    obtain ⟨active, staged, flag, -⟩ := atomic abandons.request.asks.id error
    exact abandons.other ⟨rfl, active.symm.trans same.active, staged.symm.trans same.staged,
      flag.symm.trans same.flag⟩
  · intro kept id error
    cases duplicate : m.act.isDuplicate r with
    | true =>
      have done : Repeated b m (m.handlePacket b port r) := handlePacket_repeated duplicate
      rw [done.control]
      exact ⟨rfl, rfl, rfl, rfl⟩
    | false =>
      obtain ⟨calls, responses, done, sends⟩ := handlePacket_sends b port duplicate
      have generation := done.served.generation_of_reset id
      rcases done.served.reset_refused id ((sends .ERROR (by decide)).mp error) with
        same | ⟨request, failing, same⟩
      · exact ⟨same.active, same.staged, same.flag, generation⟩
      · have already : m.act.SameConfigs m.act.reset := Classical.byContradiction fun other =>
          kept ⟨duplicate, request, failing, other⟩
        exact ⟨same.active.trans already.active.symm, same.staged.trans already.staged.symm,
          same.flag.trans already.flag.symm, generation⟩

/-- A backend whose stored configuration cannot be erased. -/
def unerasable : MotionBackend := { resetConfigStorage := some fun _ => false }

/-- An actuator told to send telemetry every 7 ms. -/
def rated : Machine :=
  .boot unerasable {} {} [.handlePacket (.request .SET_TELEM_RATE 1 [7, 0]) none]

/-- The telemetry rate is lost in a reset that fails. -/
theorem failed_reset_overwrites :
    ¬ ∀ (b : MotionBackend) (m : Machine) (r : Packet) (port : Port), m.Reachable b →
      r.msgId = MsgId.CONFIG_RESET_DEFAULTS.byte → m.Sends .ERROR (m.handlePacket b port r) →
      (m.handlePacket b port r).act.activeConfig = m.act.activeConfig ∧
        (m.handlePacket b port r).act.stagedConfig = m.act.stagedConfig ∧
        (m.handlePacket b port r).act.configStaged = m.act.configStaged ∧
        (m.handlePacket b port r).act.configGeneration = m.act.configGeneration := by
  intro atomic
  have other : rated.act.activeConfig ≠ rated.act.defaults := by decide
  have abandons : AbandonsConfig unerasable rated (.request .CONFIG_RESET_DEFAULTS 2 []) :=
    ⟨by decide, ⟨⟨rfl, rfl⟩, by decide⟩, .storage rfl rfl, fun same => other same.active⟩
  obtain ⟨error, same⟩ := abandons.lost none
  obtain ⟨kept, -⟩ := atomic unerasable rated _ none ⟨_, _, _, rfl⟩ rfl error
  exact other (kept.symm.trans same.active)

/-! ## The control mode -/

/-- The driver answers false to its configuration, or to being switched on after it. -/
def DriverRefuses (b : MotionBackend) (h : History) (config : Tmc2209Config) : Prop :=
  b.configureDriver.map (fun f => f h config) = some false ∨
    b.enableDriver.map (fun f =>
      f (logged (.configureDriver config) (b.configureDriver.map fun f => f h config) ++ h) true) =
        some false

/-- A `SET_CONTROL_MODE` for another mode whose driver refuses. -/
structure AbandonsMode (b : MotionBackend) (m : Machine) (r : Packet) : Prop where
  fresh : m.act.isDuplicate r = false
  request : ModeRequest r m.act.toControl (ControlMode.ofByte r.payload[0])
  enabling : ControlMode.ofByte r.payload[0] ≠ .DISABLED
  refuses : DriverRefuses b (m.arrival b) m.act.activeConfig.driver
  other : ControlMode.ofByte r.payload[0] ≠ m.act.controlMode

section

variable {b : MotionBackend} {h : History} {r : Packet} {c c' : Control} {calls : List Call}
  {responses : List Packet}

/-- The control mode and the enable flag agree. -/
structure Control.SameMode (c' c : Control) : Prop where
  controlMode : c'.controlMode = c.controlMode
  driverEnabled : c'.driverEnabled = c.driverEnabled

/-- A request that is refused keeps the control mode, or sets it for a driver that refuses. -/
theorem Served.mode_refused (served : Served b h r c calls responses c')
    (error : ∃ packet ∈ responses, packet.msgId = MsgId.ERROR.byte) :
    c'.SameMode c ∨ ∃ mode, ModeRequest r c mode ∧ mode ≠ .DISABLED ∧
      DriverRefuses b h c.activeConfig.driver ∧ c'.controlMode = mode ∧
      c'.driverEnabled = c.driverEnabled := by
  cases served with
  | modeConfigureFailed request enabling asked =>
    exact .inr ⟨_, request, enabling, .inl asked, rfl, rfl⟩
  | modeEnableFailed request enabling configuring _ asked =>
    exact .inr ⟨_, request, enabling, .inr (configuring ▸ asked), rfl, rfl⟩
  | disabled => exact (not_error_of_acked error).elim
  | enabled => exact (not_error_of_acked error).elim
  | estopped => exact (not_error_of_acked error).elim
  | ramped => exact (not_error_of_acked error).elim
  | cleared => exact (not_error_of_acked error).elim
  | motionStarted => exact (not_error_of_acked error).elim
  | _ => exact .inl ⟨rfl, rfl⟩

/-- An enabling `SET_CONTROL_MODE` whose driver refuses is refused with its mode set. -/
theorem Served.mode_abandoned {mode : ControlMode} (served : Served b h r c calls responses c')
    (request : ModeRequest r c mode) (enabling : mode ≠ .DISABLED)
    (refuses : DriverRefuses b h c.activeConfig.driver) :
    (∃ packet ∈ responses, packet.msgId = MsgId.ERROR.byte) ∧ c'.controlMode = mode := by
  have same : ∀ {mode'}, ModeRequest r c mode' → mode' = mode := fun request' =>
    request'.requested.symm.trans request.requested
  cases served with
  | modeConfigureFailed request' => exact ⟨error_of_refused .., same request'⟩
  | modeEnableFailed request' => exact ⟨error_of_refused .., same request'⟩
  | disabled request' => exact absurd (same request').symm enabling
  | enabled request' _ configuring accepted asked switched =>
    rcases refuses with failed | failed
    · exact absurd (configuring.trans failed) accepted
    · rw [← configuring, ← asked] at failed
      exact absurd failed switched
  | refused refusal =>
    have declared := request.declared
    have unlatched := request.unlatched
    have still := request.still
    cases refusal <;> grind
  | _ => grind

theorem AbandonsMode.lost {m : Machine} (abandons : AbandonsMode b m r) (port : Port) :
    m.Sends .ERROR (m.handlePacket b port r) ∧
      (m.handlePacket b port r).act.controlMode = ControlMode.ofByte r.payload[0] := by
  obtain ⟨calls, responses, done, sends⟩ :=
    handlePacket_sends b port abandons.fresh
  obtain ⟨error, set⟩ :=
    done.served.mode_abandoned abandons.request abandons.enabling abandons.refuses
  exact ⟨(sends .ERROR (by decide)).mpr error, set⟩

end

/-- A request answered with `ERROR` leaves the control mode and the enable flag as they
were, exactly when it is no `SET_CONTROL_MODE` for another mode whose driver refuses. -/
theorem refused_keeps_mode_iff (b : MotionBackend) (m : Machine) (r : Packet) (port : Port) :
    (m.Sends .ERROR (m.handlePacket b port r) →
      (m.handlePacket b port r).act.controlMode = m.act.controlMode ∧
        (m.handlePacket b port r).act.driverEnabled = m.act.driverEnabled) ↔
      ¬ AbandonsMode b m r := by
  constructor
  · intro keeps abandons
    obtain ⟨error, set⟩ := abandons.lost port
    obtain ⟨kept, -⟩ := keeps error
    exact abandons.other (set.symm.trans kept)
  · intro kept error
    cases duplicate : m.act.isDuplicate r with
    | true =>
      have done : Repeated b m (m.handlePacket b port r) := handlePacket_repeated duplicate
      rw [done.control]
      exact ⟨rfl, rfl⟩
    | false =>
      obtain ⟨calls, responses, done, sends⟩ := handlePacket_sends b port duplicate
      rcases done.served.mode_refused ((sends .ERROR (by decide)).mp error) with
        same | ⟨mode, request, enabling, refuses, set, flag⟩
      · exact ⟨same.controlMode, same.driverEnabled⟩
      · obtain rfl := request.requested
        have already : ControlMode.ofByte r.payload[0] = m.act.controlMode :=
          Decidable.byContradiction fun other =>
            kept ⟨duplicate, request, enabling, refuses, other⟩
        exact ⟨set.trans already, flag⟩

/-- A backend whose driver cannot be switched on. -/
def deadDriver : MotionBackend := { enableDriver := some fun _ enabled => !enabled }

/-- A `SET_CONTROL_MODE` that fails leaves its mode behind. -/
theorem failed_mode_reported :
    ¬ ∀ (b : MotionBackend) (m : Machine) (r : Packet) (port : Port), m.Reachable b →
      m.Sends .ERROR (m.handlePacket b port r) →
      (m.handlePacket b port r).act.controlMode = m.act.controlMode ∧
        (m.handlePacket b port r).act.driverEnabled = m.act.driverEnabled := by
  intro keeps
  have other : ControlMode.POSITION ≠ (Machine.boot deadDriver {} {} []).act.controlMode := by decide
  have abandons : AbandonsMode deadDriver (.boot deadDriver {} {} [])
      (.request .SET_CONTROL_MODE 1 [1]) :=
    ⟨by decide, ⟨⟨rfl, rfl⟩, by decide, by decide, by decide, rfl⟩, by decide, .inr rfl, other⟩
  obtain ⟨error, set⟩ := abandons.lost none
  obtain ⟨kept, -⟩ := keeps deadDriver _ _ none ⟨_, _, _, rfl⟩ error
  exact other (set.symm.trans kept)

end Daft
