import Daft.Session.Clock
import Daft.Session.Mirrors
import Mathlib.Data.List.Forall2
import Mathlib.Data.UInt

/-!
# Runs whose clocks differ by a constant

Advancing the clock commutes with every callback and every packet sent, hence with
every request, step and run: what the firmware does and sends does not depend on when
its clock started.
-/

namespace Daft

open Logic

section

variable {k : UInt32} {b b' : MotionBackend}

namespace ClockAhead

variable (ahead : ClockAhead k b b') (m : Machine)

include ahead

/-! ## Requests -/

/-- A later clock is a run in step with the first. -/
theorem mirrors {down down' : Port} (port : SamePort k down down') :
    Mirrors (Machine.advance k) b b' down down' where
  control _ := rfl
  set _ _ := rfl
  enableDriver m := ahead.ask_enableDriver m
  configureDriver m := ahead.ask_configureDriver m
  moveAbsolute m := ahead.ask_moveAbsolute m
  moveRelative m := ahead.ask_moveRelative m
  runVelocity m := ahead.ask_runVelocity m
  rampStop m := ahead.ask_rampStop m
  emergencyStop m := ahead.ask_emergencyStop m
  currentPosition m := ahead.ask_currentPosition m
  motionActive m := ahead.ask_motionActive m
  saveConfig m := ahead.ask_saveConfig m
  resetConfigStorage m := ahead.ask_resetConfigStorage m
  reboot m := ahead.ask_reboot m
  acks m := (SameWriter.cached port).sendAck m
  errors m := (SameWriter.cached port).sendError m
  pongs m seq := (SameWriter.cached port).sendTimeless m rfl
  identity m := (SameWriter.cached port).sendIdentity m
  capabilities m := (SameWriter.cached port).sendCapabilities m
  status m seq := (SameWriter.cached port).sendStatus m ahead seq false
  faults m := (SameWriter.cached port).sendFaults m
  counters m := (SameWriter.cached port).sendCounters m ahead
  configValue m := (SameWriter.cached port).sendConfigValue m
  driverStatus m := ahead.sendDriverStatus m (.cached port)
  event m := (SameWriter.port port).sendEvent m ahead
  moveTo m := ahead.transitionTo m (.some (.port port))
  fails m := ahead.setFault m (.some (.port port))

/-! ## The duplicate filter -/

/-- The host is heard that much later. -/
theorem hearHost : (m.advance k).hearHost b' = (m.hearHost b).advance k := by
  unfold Machine.hearHost
  rw [ahead.ask_millis]
  rfl

/-- A duplicate is told by its number, and no time enters. -/
theorem answerDuplicate {down down' : Port} (port : SamePort k down down') (r : Packet) :
    (m.advance k).answerDuplicate b' down' r = (m.answerDuplicate b down r).advance k := by
  unfold Machine.answerDuplicate
  rw [ahead.hearHost, Machine.advance_mapCounters]
  dsimp only
  generalize (m.hearHost b).mapCounters _ = m
  have cache : (m.advance k).act.sameRequest r = m.act.sameRequest r := rfl
  rw [cache]
  split
  · exact (SameWriter.port port).replayLastResponse m
  · exact (SameWriter.port port).sendError m ..

/-- A packet is handled alike, that much later. -/
theorem handlePacket {down down' : Port} (port : SamePort k down down') (r : Packet) :
    (m.advance k).handlePacket b' down' r = (m.handlePacket b down r).advance k := by
  have filter : (m.advance k).act.isDuplicate r = m.act.isDuplicate r := rfl
  have accepted : (m.advance k).acceptRequest b' r = (m.acceptRequest b r).advance k := by
    unfold Machine.acceptRequest
    exact ahead.hearHost
      (Machine.mapCounters { m with cached := [], dispatched := r :: m.dispatched }
        fun c => { c with commandCount := c.commandCount + 1 })
  have remembered : ∀ m : Machine,
      (m.advance k).rememberRequest r = (m.rememberRequest r).advance k := by
    intro m
    unfold Machine.rememberRequest
    have taken : (m.advance k).cached.take cacheCapacity =
        (m.cached.take cacheCapacity).map (Packet.advance k) := List.map_take.symm
    rw [taken]
    rfl
  unfold Machine.handlePacket
  rw [filter]
  split
  · exact ahead.answerDuplicate m port r
  · rw [accepted, (ahead.mirrors port).dispatch]
    exact remembered _

/-! ## Restarts, ticks and telemetry -/

/-- What is stored does not depend on the clock. -/
theorem beginConfig : (m.advance k).beginConfig b' = (m.beginConfig b).advance k := by
  unfold Machine.beginConfig
  rw [ahead.ask_loadConfig]
  dsimp only
  split
  · split
    · rfl
    · exact ahead.setFault _ .none _
  · rfl

theorem beginDriver : (m.advance k).beginDriver b' = (m.beginDriver b).advance k := by
  unfold Machine.beginDriver
  rw [Machine.advance_control, ahead.ask_configureDriver]
  dsimp only
  split
  · rw [ahead.setFault _ .none]
    exact ahead.transitionTo _ .none _
  · rw [ahead.ask_enableDriver]
    exact ahead.transitionTo _ .none _

/-- Both clocks that `begin` starts are started that much later. -/
theorem beginMembers (defaults : ActuatorConfig) :
    (m.advance k).beginMembers b' defaults = (m.beginMembers b defaults).advance k := by
  have emptied (m : Machine) : ∀ m' : Machine, m' = m.advance k →
      (let reason := m'.bootReason b'
        let m := (reason.2.mapControl fun c => { c with bootReason := reason.1 }).hearHost b'
        let now := m.nowMs b'
        ({ now.2 with act := { now.2.act with lastTelemetryMs := now.1 } } : Machine)) =
      (let reason := m.bootReason b
        let m := (reason.2.mapControl fun c => { c with bootReason := reason.1 }).hearHost b
        let now := m.nowMs b
        ({ now.2 with act := { now.2.act with lastTelemetryMs := now.1 } } : Machine)).advance k := by
    rintro _ rfl
    rw [ahead.ask_bootReason]
    dsimp only
    rw [Machine.advance_mapControl, ahead.hearHost, ahead.ask_millis]
    rfl
  unfold Machine.beginMembers
  exact emptied _ _ rfl

/-- A start is a start at any time. -/
theorem beginWith (defaults : ActuatorConfig) :
    (m.advance k).beginWith b' defaults = (m.beginWith b defaults).advance k := by
  unfold Machine.beginWith
  rw [ahead.beginMembers, ahead.beginConfig, ahead.beginDriver]

theorem markTelemetrySent :
    (m.advance k).markTelemetrySent b' = (m.markTelemetrySent b).advance k := by
  unfold Machine.markTelemetrySent
  rw [ahead.ask_millis]
  rfl

/-- Telemetry goes out alike, that much later. -/
theorem sendTelemetry {port port' : Port} (same : SamePort k port port') (seq : UInt16) :
    (m.advance k).sendTelemetry b' port' seq = (m.sendTelemetry b port seq).advance k := by
  unfold Machine.sendTelemetry
  rw [(SameWriter.port same).sendStatus m ahead]
  exact ahead.markTelemetrySent _

/-- The time since the last telemetry is the same. -/
theorem shouldSendTelemetry : (m.advance k).shouldSendTelemetry b' =
    ((m.shouldSendTelemetry b).1, (m.shouldSendTelemetry b).2.advance k) := by
  unfold Machine.shouldSendTelemetry
  rw [Machine.advance_control, ahead.ask_millis]
  have since : (m.nowMs b).1 + k - (m.advance k).act.lastTelemetryMs =
      (m.nowMs b).1 - m.act.lastTelemetryMs := add_sub_add_right_eq_sub ..
  dsimp only
  rw [since]
  split <;> rfl

/-- A frame error is recorded alike. -/
theorem recordFrameError (error : ErrorCode) :
    (m.advance k).recordFrameError b' error = (m.recordFrameError b error).advance k := by
  unfold Machine.recordFrameError
  rw [Machine.advance_mapCounters]
  dsimp only
  split
  · rw [Machine.advance_mapCounters]
    exact ahead.setFault _ .none _
  split
  · exact ahead.setFault _ .none _
  · exact ahead.setFault _ .none _

section

variable {events events' : Option ResponseWriter} (same : Option.Rel (SameWriter k) events events')

include same

/-- The boot event is stamped that much later. -/
theorem updateBoot : (m.advance k).updateBoot b' events' = (m.updateBoot b events).advance k := by
  unfold Machine.updateBoot
  rw [Machine.advance_control]
  cases same with
  | none => rfl
  | some same =>
    dsimp only
    split
    · rw [same.sendEvent m ahead]
      rfl
    · rfl

/-- Whether the motor moves does not depend on the clock. -/
theorem updateMotion :
    (m.advance k).updateMotion b' events' = (m.updateMotion b events).advance k := by
  unfold Machine.updateMotion
  rw [Machine.advance_control, ahead.ask_motionActive]
  dsimp only
  split
  · split
    · rw [Machine.advance_control, ahead.transitionTo _ same]
      rfl
    · rfl
  · rfl

/-- The action on a timeout does not depend on the clock. -/
theorem timeoutAction :
    (m.advance k).timeoutAction b' events' = (m.timeoutAction b events).advance k := by
  unfold Machine.timeoutAction
  rw [Machine.advance_control]
  split
  · rw [ahead.ask_emergencyStop, ahead.ask_enableDriver]
    dsimp only
    rw [Machine.advance_mapControl]
    exact ahead.transitionTo _ same _
  · rw [ahead.ask_rampStop]
    dsimp only
    rw [ahead.transitionTo _ same]
    rfl

/-- The time since the host was heard is the same. -/
theorem updateTimeout (now : UInt32) : (m.advance k).updateTimeout b' (now + k) events' =
    (m.updateTimeout b now events).advance k := by
  have since : now + k - (m.advance k).act.lastHostMs = now - m.act.lastHostMs :=
    add_sub_add_right_eq_sub ..
  unfold Machine.updateTimeout
  rw [since, Machine.advance_control]
  split
  · rw [ahead.setFault m same]
    cases same with
    | none => exact ahead.timeoutAction _ .none
    | some same =>
      dsimp only
      rw [Machine.advance_control, same.sendEvent _ ahead]
      exact ahead.timeoutAction _ (.some same)
  · rfl

end

/-- Both sides time out together, since only the difference of two times is compared. -/
theorem update {events events' : Option Port} (same : Option.Rel (SamePort k) events events') :
    (m.advance k).update b' events' = (m.update b events).advance k := by
  have writers : Option.Rel (SameWriter k) (events.map .port) (events'.map .port) := by
    cases same with
    | none => exact .none
    | some same => exact .some (.port same)
  unfold Machine.update
  rw [ahead.ask_millis]
  dsimp only
  rw [ahead.updateBoot _ writers, ahead.updateMotion _ writers]
  exact ahead.updateTimeout _ writers _

end ClockAhead

/-! ## Runs -/

/-- The same operation, over a port that answers alike. -/
inductive SameInput (k : UInt32) : Op → Op → Prop where
  | begin (defaults : ActuatorConfig) : SameInput k (.begin defaults) (.begin defaults)
  | update {events events' : Option Port} (same : Option.Rel (SamePort k) events events') :
      SameInput k (.update events) (.update events')
  | shouldSendTelemetry : SameInput k .shouldSendTelemetry .shouldSendTelemetry
  | markTelemetrySent : SameInput k .markTelemetrySent .markTelemetrySent
  | sendTelemetry {port port' : Port} (same : SamePort k port port') (seq : UInt16) :
      SameInput k (.sendTelemetry port seq) (.sendTelemetry port' seq)
  | recordFrameError (error : ErrorCode) :
      SameInput k (.recordFrameError error) (.recordFrameError error)
  | handlePacket {down down' : Port} (r : Packet) (same : SamePort k down down') :
      SameInput k (.handlePacket r down) (.handlePacket r down')

/-- One step, whatever its input. -/
theorem ClockAhead.step (ahead : ClockAhead k b b') {op op' : Op} (same : SameInput k op op')
    (m : Machine) : step b' (m.advance k) op' = (step b m op).advance k := by
  cases same with
  | begin defaults => exact ahead.beginWith m defaults
  | update same => exact ahead.update m same
  | shouldSendTelemetry => exact congrArg Prod.snd (ahead.shouldSendTelemetry m)
  | markTelemetrySent => exact ahead.markTelemetrySent m
  | sendTelemetry same seq => exact ahead.sendTelemetry m same seq
  | recordFrameError error => exact ahead.recordFrameError m error
  | handlePacket r same => exact ahead.handlePacket m same r

/-- A run, by its steps. -/
theorem ClockAhead.run (ahead : ClockAhead k b b') {ops ops' : List Op}
    (same : List.Forall₂ (SameInput k) ops ops') (m : Machine) :
    run (Daft.step b') (m.advance k) ops' = (run (Daft.step b) m ops).advance k := by
  induction same generalizing m with
  | nil => rfl
  | cons here _ ih =>
    rw [run_cons, run_cons, ahead.step here]
    exact ih _

/-- `begin` overwrites whatever the clocks held. -/
theorem step_begin_powerOn (build : BuildInfo) (defaults : ActuatorConfig) :
    step b' ((Machine.powerOn build).advance k) (.begin defaults) =
      step b' (.powerOn build) (.begin defaults) := by
  have members : ((Machine.powerOn build).advance k).beginMembers b' defaults =
      (Machine.powerOn build).beginMembers b' defaults := by
    unfold Machine.beginMembers Machine.hearHost Machine.nowMs Machine.bootReason Machine.ask
    cases b'.bootReason <;> cases b'.millis <;> rfl
  show Machine.beginWith b' _ defaults = Machine.beginWith b' _ defaults
  unfold Machine.beginWith
  rw [members]

/-- A run from power on, where no time is stored yet. -/
theorem ClockAhead.boot (ahead : ClockAhead k b b') (build : BuildInfo)
    (defaults : ActuatorConfig) {ops ops' : List Op}
    (same : List.Forall₂ (SameInput k) ops ops') :
    Machine.boot b' build defaults ops' = (Machine.boot b build defaults ops).advance k := by
  unfold Machine.boot
  rw [← step_begin_powerOn (k := k), ahead.step (.begin defaults)]
  exact ahead.run same _

end

/-- Two runs whose inputs and answers differ in the clock alone make the same calls
and end in the same control part, counters and telemetry answer; their packets
differ in the uptimes, by what the clocks differ. -/
theorem clock_origin_irrelevant {k : UInt32} {b b' : MotionBackend} (ahead : ClockAhead k b b')
    (build : BuildInfo) (defaults : ActuatorConfig) {ops ops' : List Op}
    (same : List.Forall₂ (SameInput k) ops ops') :
    (Machine.boot b' build defaults ops').calls =
        (Machine.boot b build defaults ops).calls.map (Call.advance k) ∧
      (Machine.boot b' build defaults ops').act.toControl =
        (Machine.boot b build defaults ops).act.toControl ∧
      (Machine.boot b' build defaults ops').act.counters =
        (Machine.boot b build defaults ops).act.counters ∧
      ((Machine.boot b' build defaults ops').shouldSendTelemetry b').1 =
        ((Machine.boot b build defaults ops).shouldSendTelemetry b).1 ∧
      (Machine.boot b' build defaults ops').sent =
        (Machine.boot b build defaults ops).sent.map (Transmission.advance k) := by
  rw [ahead.boot build defaults same]
  exact ⟨rfl, rfl, rfl, by rw [ahead.shouldSendTelemetry], rfl⟩

/-- A driver that takes everything, with a clock that starts at `origin` and ticks
with every call. -/
def tickingBackend (origin : UInt32) : MotionBackend where
  millis := some fun h => h.length.toUInt32 + origin
  enableDriver := some fun _ _ => true
  configureDriver := some fun _ _ => true

/-- Two clocks started apart stay apart by as much. -/
theorem tickingBackend_ahead (origin k : UInt32) :
    ClockAhead k (tickingBackend origin) (tickingBackend (origin + k)) := by
  constructor
  case enableDriver | configureDriver => exact .wired fun _ => rfl
  case millis =>
    intro h
    show (h.map _).length.toUInt32 + (origin + k) = h.length.toUInt32 + origin + k
    rw [List.length_map, add_assoc]
  all_goals first | rfl | exact .null

/-- Status, the same packet again and a telemetry poll, with a clock that wraps as soon as it has
been read twice: the second packet is heard at a time below the origin. -/
theorem clock_origin_irrelevant_wrapping :
    let port : Port := some fun _ _ => true
    let ops : List Op := [.handlePacket (.request .GET_STATUS 1 []) port,
      .handlePacket (.request .GET_STATUS 1 []) port, .update (some port), .shouldSendTelemetry]
    (Machine.boot (tickingBackend 0xFFFFFFFE) {} {} ops).act.lastHostMs < 0xFFFFFFFE ∧
      (Machine.boot (tickingBackend 0xFFFFFFFE) {} {} ops).sent =
        (Machine.boot (tickingBackend 0) {} {} ops).sent.map (Transmission.advance 0xFFFFFFFE) := by
  intro port ops
  have port : SamePort 0xFFFFFFFE port port := .wired fun _ _ => rfl
  have same : List.Forall₂ (SameInput 0xFFFFFFFE) ops ops :=
    .cons (.handlePacket _ port) (.cons (.handlePacket _ port)
      (.cons (.update (.some port)) (.cons .shouldSendTelemetry .nil)))
  refine ⟨by decide +kernel, ?_⟩
  exact (clock_origin_irrelevant (tickingBackend_ahead 0 0xFFFFFFFE) {} {} same).2.2.2.2

end Daft
