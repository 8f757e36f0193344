import Daft.Firmware.Dispatch
import Daft.Logic.Run

/-!
# What a step does

`Stepped b m m' op calls`: the entry point `op` takes `m` to `m'` and makes the
notable calls `calls` on the way. `step_stepped` is the one place where the
entry points are unfolded; every invariant is a case analysis of `Stepped`, and
every result about runs follows from its invariant by induction over the run.
-/

namespace Daft

open Logic

namespace Machine

variable (b : MotionBackend) (m : Machine)

/-- What `now_ms` returns. -/
def clock : UInt32 := (b.millis.map fun f => f m.calls).getD 0

/-- The history a request is dispatched with: the clock has been read. -/
def arrival : History := logged .millis (b.millis.map fun f => f m.calls) ++ m.calls

/-- The clock read on arrival is no call that matters. -/
theorem arrival_adds : Adds Call.notable m.calls [] (m.arrival b) := by
  unfold arrival
  cases b.millis with
  | none => exact .refl
  | some f => exact .quiet rfl .refl

/-- Reading the clock leaves a machine with one more call. -/
theorem nowMs_eq : m.nowMs b = (m.clock b, { m with calls := m.arrival b }) := by
  unfold nowMs clock arrival
  cases b.millis <;> rfl

/-- A request that passes the filter is counted and noted, and changes no member of the
control part. -/
theorem acceptRequest_eq (r : Packet) :
    m.acceptRequest b r =
      { m with act := { m.act with lastHostMs := m.clock b,
                                   counters.commandCount := m.act.counters.commandCount + 1 },
               cached := [], calls := m.arrival b, dispatched := r :: m.dispatched } := by
  rw [acceptRequest, hearHost, nowMs_eq]
  rfl

end Machine

/-! ## Requests -/

/-- A request got past the duplicate filter. -/
structure Executed (b : MotionBackend) (m : Machine) (r : Packet) (calls : List Call)
    (responses : List Packet) (m' : Machine) : Prop where
  served : Served b (m.arrival b) r m.act.toControl calls responses m'.act.toControl
  calls : Adds Call.notable m.calls calls m'.calls
  sent : Passed m.sent responses m'.sent
  requestCache : m'.act.toRequestCache = ⟨true, r, responses⟩
  dispatched : m'.dispatched = r :: m.dispatched
  lastHostMs : m'.act.lastHostMs = m.clock b

/-- The responses cached are the ones the request got. -/
theorem Executed.lastResponses {b : MotionBackend} {m m' : Machine} {r : Packet}
    {calls : List Call} {responses : List Packet} (done : Executed b m r calls responses m') :
    m'.act.lastResponses = responses :=
  congrArg RequestCache.lastResponses done.requestCache

/-- A request was answered from, or rejected by, the duplicate filter. -/
structure Repeated (b : MotionBackend) (m m' : Machine) : Prop where
  control : m'.act.toControl = m.act.toControl
  calls : Adds Call.notable m.calls [] m'.calls
  requestCache : m'.act.toRequestCache = m.act.toRequestCache
  dispatched : m'.dispatched = m.dispatched
  lastHostMs : m'.act.lastHostMs = m.clock b

section Packets

variable {b : MotionBackend} {down : Port} {r : Packet} {m : Machine}

/-- A fresh request runs its handler and is remembered with the answers. -/
theorem handlePacket_executed (fresh : m.act.isDuplicate r = false) :
    ∃ calls responses, Executed b m r calls responses (m.handlePacket b down r) := by
  obtain ⟨calls, responses, c, served, effect⟩ :=
    dispatch_serves b down r (m.acceptRequest b r)
  have handled : m.handlePacket b down r =
      ((m.acceptRequest b r).dispatch b down r).rememberRequest r := by
    simp [Machine.handlePacket, fresh]
  rw [handled]
  generalize (m.acceptRequest b r).dispatch b down r = after at *
  rw [Machine.acceptRequest_eq] at served effect
  have kept : after.cached = responses := by
    rw [effect.cached, CachedResponses.pushAll_of_le (by simpa using served.few)]
    rfl
  exact ⟨calls, responses, {
    served := effect.control ▸ served
    calls := (m.arrival_adds b).after_quiet effect.calls
    sent := effect.sent
    requestCache := by simp only [Machine.rememberRequest, kept, List.take_of_length_le served.few]
    dispatched := effect.dispatched
    lastHostMs := effect.lastHostMs }⟩

/-- Sending through a port leaves no trace but the transmission and its count. -/
theorem sendResponse_port (m : Machine) (down : Port) (packet : Packet) :
    Effect m [] [] m.act.toControl (m.sendResponse (.port down) packet) :=
  Effect.sendResponse m (.port down) packet

/-- What is replayed goes out as it is and changes nothing. -/
theorem replay_effect (responses : List Packet) (m : Machine) :
    Effect m [] [] m.act.toControl
      (responses.foldl (fun m packet => m.sendResponse (.port down) packet) m) := by
  induction responses generalizing m with
  | nil => exact .refl m
  | cons packet responses ih => exact (sendResponse_port m down packet).calling (ih _)

/-- A duplicate is answered from the cache or rejected, and runs no handler. -/
theorem answerDuplicate_repeated : Repeated b m (m.answerDuplicate b down r) := by
  have effect : Effect
      { m with act := { m.act with lastHostMs := m.clock b,
                                   counters.duplicatePackets := m.act.counters.duplicatePackets + 1 },
               calls := m.arrival b } [] [] m.act.toControl (m.answerDuplicate b down r) := by
    simp only [Machine.answerDuplicate, Machine.hearHost, Machine.nowMs_eq]
    split
    · exact replay_effect _ _
    · exact Effect.sendError _ (.port down) _ _ _
  exact ⟨effect.control, (m.arrival_adds b).after_quiet effect.calls, effect.requestCache,
    effect.dispatched, effect.lastHostMs⟩

theorem handlePacket_repeated (duplicate : m.act.isDuplicate r = true) :
    Repeated b m (m.handlePacket b down r) := by
  simp only [Machine.handlePacket, duplicate, if_true]
  exact answerDuplicate_repeated

end Packets

/-! ## Ticks -/

namespace Control

variable (c : Control)

/-- The tick on which the host has been silent for too long. -/
def TimedOut (elapsed : UInt32) : Prop :=
  c.state = .RUNNING_VELOCITY ∧ c.activeConfig.safety.hostTimeoutMs > 0 ∧
    elapsed > c.activeConfig.safety.hostTimeoutMs

/-- After the end of a motion. -/
def settled : Control :=
  { c with state := c.restState, controlMode := if c.driverEnabled then .POSITION else .DISABLED }

end Control

/-- A tick with history `h` and `elapsed` milliseconds after the last packet. -/
inductive Ticked (b : MotionBackend) (h : History) (elapsed : UInt32) (c : Control) :
    List Call → Control → Prop where
  | idle (still : ¬ (c.state = .MOVING_POSITION ∨ c.state = .STOPPING))
      (fresh : ¬ c.TimedOut elapsed) : Ticked b h elapsed c [] c
  | moving {answer : Option Bool} (motion : c.state = .MOVING_POSITION ∨ c.state = .STOPPING)
      (asked : answer = b.motionActive.map fun f => f h) (active : answer ≠ some false) :
      Ticked b h elapsed c (logged .motionActive answer) c
  | settled (motion : c.state = .MOVING_POSITION ∨ c.state = .STOPPING)
      (asked : b.motionActive.map (fun f => f h) = some false) :
      Ticked b h elapsed c [.motionActive false] c.settled
  | disabled {stopped : Option Unit} {answer : Option Bool} (timedOut : c.TimedOut elapsed)
      (action : c.activeConfig.safety.velocityTimeoutAction = .DISABLE)
      (stop : stopped = b.emergencyStop) (wired : answer.isSome = b.enableDriver.isSome) :
      Ticked b h elapsed c
        (logged (.enableDriver false) answer ++ logged (fun _ => .emergencyStop) stopped)
        (c.withFault .HOST_TIMEOUT).estopped
  | ramped {answer : Option Bool} (timedOut : c.TimedOut elapsed)
      (action : c.activeConfig.safety.velocityTimeoutAction ≠ .DISABLE)
      (wired : answer.isSome = b.rampStop.isSome) :
      Ticked b h elapsed c
        (logged (.rampStop c.activeConfig.motion.defaultStopDecelSps2) answer)
        (c.withFault .HOST_TIMEOUT).stopping

section Ticks

variable {b : MotionBackend} {m : Machine} {events : Option ResponseWriter}

/-- The boot event changes at most whether it is pending. -/
theorem updateBoot_effect (direct : Effect.Direct events) :
    ∃ pending, Effect m [] [] { m.act.toControl with bootEventPending := pending }
      (m.updateBoot b events) := by
  unfold Machine.updateBoot
  cases events with
  | none => exact ⟨_, .refl m⟩
  | some w =>
    dsimp only
    split
    · cases w with
      | cached down => exact absurd rfl (direct down)
      | port down =>
        exact ⟨false, ((Effect.refl m).announce ..).set fun c => { c with bootEventPending := false }⟩
    · exact ⟨_, .refl m⟩

/-- At rest and in velocity mode the motion is not asked about. -/
theorem updateMotion_still (still : ¬ (m.act.state = .MOVING_POSITION ∨ m.act.state = .STOPPING)) :
    m.updateMotion b events = m := by
  rw [Machine.updateMotion, if_neg still]

/-- Nothing times out while the host was heard in time. -/
theorem updateTimeout_fresh {now : UInt32} (fresh : ¬ m.act.TimedOut (now - m.act.lastHostMs)) :
    m.updateTimeout b now events = m := by
  rw [Machine.updateTimeout]
  exact if_neg fresh

/-- The action `DISABLE` stops, switches off and faults, as `ESTOP` does. -/
theorem timeoutAction_disables (direct : Effect.Direct events)
    (action : m.act.activeConfig.safety.velocityTimeoutAction = .DISABLE) :
    ∃ answer : Option Bool, answer.isSome = b.enableDriver.isSome ∧
      Effect m (logged (.enableDriver false) answer ++ logged (fun _ => .emergencyStop)
        b.emergencyStop) [] m.act.estopped (m.timeoutAction b events) := by
  simp only [Machine.timeoutAction, action, if_true]
  have stopped := (Effect.emergencyStop m b).keep (Effect.enableDriver (m.emergencyStop b) b false)
  refine ⟨_, ?_, (stopped.set fun c =>
    { c with driverEnabled := false, controlMode := .DISABLED }).moveTo .FAULTED direct⟩
  rw [Machine.enableDriver, Effect.answer_map]
  simp

/-- Every other action ramps down with the default deceleration. -/
theorem timeoutAction_ramps (direct : Effect.Direct events)
    (action : m.act.activeConfig.safety.velocityTimeoutAction ≠ .DISABLE) :
    ∃ answer : Option Bool, answer.isSome = b.rampStop.isSome ∧
      Effect m (logged (.rampStop m.act.activeConfig.motion.defaultStopDecelSps2) answer) []
        m.act.stopping (m.timeoutAction b events) := by
  simp only [Machine.timeoutAction, action, if_false]
  have ramped := Effect.rampStop m b m.act.activeConfig.motion.defaultStopDecelSps2
  refine ⟨_, ?_, (ramped.moveTo .STOPPING direct).set fun c => { c with controlMode := .POSITION }⟩
  rw [Machine.rampStop, Effect.answer_map]
  simp

/-- An overrun host timeout raises the fault and takes the configured action. -/
theorem updateTimeout_tripped {now : UInt32} (direct : Effect.Direct events)
    (tripped : m.act.TimedOut (now - m.act.lastHostMs)) :
    ∃ calls c, Ticked b m.calls (now - m.act.lastHostMs) m.act.toControl calls c ∧
      Effect m calls [] c (m.updateTimeout b now events) := by
  have faulted := (Effect.refl m).fault (b := b) .HOST_TIMEOUT direct
  have announced : ∃ announced : Machine,
      m.updateTimeout b now events = announced.timeoutAction b events ∧
        Effect m [] [] (m.act.withFault .HOST_TIMEOUT) announced := by
    refine ⟨_, if_pos tripped, ?_⟩
    cases events with
    | none => exact faulted
    | some w =>
      cases w with
      | cached down => exact absurd rfl (direct down)
      | port down => exact faulted.announce ..
  obtain ⟨announced, tick, effect⟩ := announced
  have config : announced.act.activeConfig = m.act.activeConfig := by rw [effect.control]; rfl
  rw [tick]
  by_cases action : m.act.activeConfig.safety.velocityTimeoutAction = .DISABLE
  · obtain ⟨answer, wired, disabled⟩ :=
      timeoutAction_disables (m := announced) (b := b) direct (by rw [config, action])
    rw [effect.control] at disabled
    exact ⟨_, _, .disabled tripped action rfl wired, effect.follow disabled⟩
  · obtain ⟨answer, wired, ramped⟩ :=
      timeoutAction_ramps (m := announced) (b := b) direct (by rw [config]; exact action)
    rw [effect.control] at ramped
    exact ⟨_, _, .ramped tripped action wired, effect.follow ramped⟩

/-- A positioning motion or a stop that has ended leaves for the state of rest, never for
velocity mode. -/
theorem updateMotion_settles (direct : Effect.Direct events)
    (motion : m.act.state = .MOVING_POSITION ∨ m.act.state = .STOPPING) (elapsed : UInt32) :
    ∃ calls c, Ticked b m.calls elapsed m.act.toControl calls c ∧ c.state ≠ .RUNNING_VELOCITY ∧
      Effect m calls [] c (m.updateMotion b events) := by
  have active := Effect.motionActive m b
  have answer : (m.motionActive b).1 = b.motionActive.map fun f => f m.calls := Effect.answer ..
  rw [Machine.updateMotion, if_pos motion]
  dsimp only
  generalize m.motionActive b = asked at *
  split
  case isTrue rest =>
    rw [rest] at active answer
    have state : asked.2.act.restState = m.act.restState := by rw [active.control]
    have moved := active.moveTo (b := b) asked.2.act.restState direct
    refine ⟨_, _, .settled motion answer.symm, ?_,
      (moved.set fun c => { c with controlMode := if c.driverEnabled then .POSITION else .DISABLED }).as
        (by rw [state]; rfl)⟩
    simp only [Control.settled, Control.restState]
    split <;> simp
  case isFalse moving =>
    refine ⟨_, _, .moving motion answer moving, ?_, active⟩
    rcases motion with moving | stopping <;> simp [*]

/-- A tick: the clock is read and the boot event sent first, which leads to the
history `h` the rest of the tick starts from. -/
structure Tick (b : MotionBackend) (m : Machine) (h : History) (calls : List Call)
    (m' : Machine) : Prop where
  clock : Adds Call.notable m.calls [] h
  ticked : ∃ pending, Ticked b h (m.clock b - m.act.lastHostMs)
    { m.act.toControl with bootEventPending := pending } calls m'.act.toControl
  calls : Adds Call.notable h calls m'.calls
  requestCache : m'.act.toRequestCache = m.act.toRequestCache
  lastHostMs : m'.act.lastHostMs = m.act.lastHostMs
  dispatched : m'.dispatched = m.dispatched

/-- An update is one tick: the boot event, then the motion, then the timeout. -/
theorem update_tick (port : Option Port) : ∃ h calls, Tick b m h calls (m.update b port) := by
  have direct := Effect.Direct.map port
  obtain ⟨pending, booted⟩ := updateBoot_effect (b := b)
    (m := { m with calls := m.arrival b }) direct
  have tick : m.update b port =
      ((Machine.updateBoot b { m with calls := m.arrival b } (port.map .port)).updateMotion b
        (port.map .port)).updateTimeout b (m.clock b) (port.map .port) := by
    simp only [Machine.update, Machine.nowMs_eq]
  rw [tick]
  generalize Machine.updateBoot b { m with calls := m.arrival b } (port.map .port) = after at *
  have clock := (m.arrival_adds b).after_quiet booted.calls
  have summary : ∀ {calls : List Call} {c : Control} {m' : Machine},
      Ticked b after.calls (m.clock b - after.act.lastHostMs) after.act.toControl calls c →
      Effect after calls [] c m' → Tick b m after.calls calls m' := by
    intro calls c m' ticked effect
    rw [booted.control, booted.lastHostMs, ← effect.control] at ticked
    exact ⟨clock, ⟨pending, ticked⟩, effect.calls, effect.requestCache.trans booted.requestCache,
      effect.lastHostMs.trans booted.lastHostMs, effect.dispatched.trans booted.dispatched⟩
  refine ⟨after.calls, ?_⟩
  by_cases motion : after.act.state = .MOVING_POSITION ∨ after.act.state = .STOPPING
  · obtain ⟨calls, c, ticked, state, effect⟩ :=
      updateMotion_settles (b := b) direct motion (m.clock b - after.act.lastHostMs)
    rw [updateTimeout_fresh fun timedOut => state (effect.control ▸ timedOut.1)]
    exact ⟨calls, summary ticked effect⟩
  · rw [updateMotion_still motion]
    by_cases tripped : after.act.TimedOut (m.clock b - after.act.lastHostMs)
    · obtain ⟨calls, c, ticked, effect⟩ := updateTimeout_tripped (b := b) direct tripped
      exact ⟨calls, summary ticked effect⟩
    · rw [updateTimeout_fresh tripped]
      exact ⟨[], summary (.idle motion tripped) (.refl after)⟩

end Ticks

/-! ## Starting, telemetry and frame errors -/

namespace Control

/-- The control part `begin` starts from. -/
def initial (defaults : ActuatorConfig) (reason : UInt32) : Control :=
  { defaults, activeConfig := defaults, stagedConfig := defaults, bootEventPending := true,
    bootReason := reason }

/-- After `load_config`, null or answering. -/
def loading (c : Control) (loaded : Option (Option (ActuatorConfig × UInt32))) : Control :=
  match loaded with
  | some (some (config, generation)) =>
    if (validateConfig config).ok then
      { c with activeConfig := config, stagedConfig := config, configGeneration := generation }
    else c.withFault .INVALID_CONFIG
  | _ => c

end Control

/-- A `begin`: the configuration it decides on, then the driver. -/
inductive Begun (defaults : ActuatorConfig) : List Call → Control → Prop where
  | driverFailed {reason : UInt32} {loaded : Option (Option (ActuatorConfig × UInt32))} {c : Control}
      (chosen : c = (Control.initial defaults reason).loading loaded) :
      Begun defaults (.configureDriver c.activeConfig.driver false :: logged .loadConfig loaded)
        ((c.withFault .DRIVER))
  | ready {reason : UInt32} {loaded : Option (Option (ActuatorConfig × UInt32))} {c : Control}
      {configured disabled : Option Bool}
      (chosen : c = (Control.initial defaults reason).loading loaded)
      (accepted : configured ≠ some false) :
      Begun defaults
        (logged (.enableDriver false) disabled ++
          (logged (.configureDriver c.activeConfig.driver) configured ++ logged .loadConfig loaded))
        { c with state := .DISABLED }

/-- What every `begin` leaves, whatever the backend answers. -/
structure Control.Fresh (c : Control) : Prop where
  disabled : c.driverEnabled = false
  mode : c.controlMode = .DISABLED
  unstaged : c.configStaged = false
  staged : c.stagedConfig = c.activeConfig

/-- Whatever `begin` loads, the control part stays fresh. -/
theorem Control.loading_fresh (defaults : ActuatorConfig) (reason : UInt32)
    (loaded : Option (Option (ActuatorConfig × UInt32))) :
    ((Control.initial defaults reason).loading loaded).Fresh := by
  unfold loading
  split
  · split <;> exact ⟨rfl, rfl, rfl, rfl⟩
  · exact ⟨rfl, rfl, rfl, rfl⟩

/-- A start ends fresh, in `DISABLED` or `FAULTED`. -/
theorem Begun.fresh {defaults : ActuatorConfig} {calls : List Call} {c : Control}
    (begun : Begun defaults calls c) : c.Fresh ∧ (c.state = .DISABLED ∨ c.state = .FAULTED) := by
  cases begun with
  | @driverFailed reason loaded _ chosen =>
    obtain ⟨disabled, mode, unstaged, staged⟩ := chosen ▸ Control.loading_fresh defaults reason loaded
    exact ⟨⟨disabled, mode, unstaged, staged⟩, .inr rfl⟩
  | @ready reason loaded _ _ _ chosen =>
    obtain ⟨disabled, mode, unstaged, staged⟩ := chosen ▸ Control.loading_fresh defaults reason loaded
    exact ⟨⟨disabled, mode, unstaged, staged⟩, .inl rfl⟩

/-- The step of a `begin`; it forgets the last request. -/
structure Start (m : Machine) (defaults : ActuatorConfig) (calls : List Call) (m' : Machine) :
    Prop where
  begun : Begun defaults calls m'.act.toControl
  calls : Adds Call.notable m.calls calls m'.calls
  requestCache : m'.act.toRequestCache = {}
  dispatched : m'.dispatched = m.dispatched

section Entries

variable {b : MotionBackend} {m : Machine}

/-- The stored configuration is asked for once. -/
theorem beginConfig_effect :
    ∃ loaded, Effect m (logged .loadConfig loaded) [] (m.act.loading loaded) (m.beginConfig b) := by
  have asked := Effect.ask m b.loadConfig .loadConfig fun _ => rfl
  refine ⟨(m.ask b.loadConfig .loadConfig).1, ?_⟩
  simp only [Machine.beginConfig, Machine.loadConfig]
  generalize m.ask b.loadConfig .loadConfig = loaded at *
  rcases loaded with ⟨_ | _ | ⟨config, generation⟩, after⟩
  · exact asked
  · exact asked
  · simp only [Control.loading]
    split
    · exact asked.set fun c =>
        { c with activeConfig := config, stagedConfig := config, configGeneration := generation }
    · exact asked.fault .INVALID_CONFIG (.map none)

/-- The driver is configured and switched off; one that cannot be configured leads to
`FAULTED`. -/
theorem beginDriver_begun {defaults : ActuatorConfig} {reason : UInt32} {before : Machine}
    {loaded : Option (Option (ActuatorConfig × UInt32))} {c : Control}
    (chosen : c = (Control.initial defaults reason).loading loaded)
    (done : Effect before (logged .loadConfig loaded) [] c m) :
    ∃ calls c', Begun defaults calls c' ∧ Effect before calls [] c' (m.beginDriver b) := by
  have config : m.act.activeConfig = c.activeConfig := by rw [done.control]
  have configured := done.keep (Effect.configureDriver m b c.activeConfig.driver)
  simp only [Machine.beginDriver, config]
  generalize m.configureDriver b c.activeConfig.driver = asked at *
  split
  case isTrue failed =>
    rw [failed] at configured
    exact ⟨_, _, .driverFailed chosen,
      (configured.fault .DRIVER (.map none)).moveTo .FAULTED (.map none)⟩
  case isFalse accepted =>
    have disabled := configured.keep (Effect.enableDriver asked.2 b false)
    exact ⟨_, _, .ready chosen accepted, disabled.moveTo .DISABLED (.map none)⟩

/-- The members are reset before anything is asked that matters. -/
theorem beginMembers_fresh (defaults : ActuatorConfig) :
    Adds Call.notable m.calls [] (m.beginMembers b defaults).calls ∧
      (∃ reason, (m.beginMembers b defaults).act.toControl = .initial defaults reason) ∧
      (m.beginMembers b defaults).act.toRequestCache = {} ∧
      (m.beginMembers b defaults).dispatched = m.dispatched := by
  have reasoned := Effect.ask_quiet
    { m with act := { defaults, activeConfig := defaults, stagedConfig := defaults,
                      bootEventPending := true, lastHostMs := m.act.lastHostMs,
                      lastTelemetryMs := m.act.lastTelemetryMs } }
    b.bootReason .bootReason fun _ => rfl
  simp only [Machine.beginMembers, Machine.bootReason, Machine.hearHost, Machine.nowMs_eq]
  generalize Machine.ask _ b.bootReason .bootReason = asked at *
  refine ⟨?calls, ⟨asked.1.getD 0, ?control⟩, reasoned.requestCache, reasoned.dispatched⟩
  case calls =>
    exact (reasoned.calls.after_quiet (asked.2.arrival_adds b)).after_quiet
      (Machine.arrival_adds b { asked.2 with calls := asked.2.arrival b })
  case control =>
    have control := reasoned.control
    simp only [Machine.mapControl, control]
    rfl

/-- `begin` is one start, whatever the machine was before. -/
theorem beginWith_start (defaults : ActuatorConfig) :
    ∃ calls, Start m defaults calls (m.beginWith b defaults) := by
  have members := beginMembers_fresh (b := b) (m := m) defaults
  obtain ⟨clock, ⟨reason, control⟩, requestCache, dispatched⟩ := members
  rw [Machine.beginWith]
  generalize m.beginMembers b defaults = fresh at *
  obtain ⟨loaded, chosen⟩ := beginConfig_effect (m := fresh) (b := b)
  rw [control] at chosen
  obtain ⟨calls, c, begun, effect⟩ := beginDriver_begun (b := b) rfl chosen
  exact ⟨calls, {
    begun := effect.control ▸ begun
    calls := clock.after_quiet effect.calls
    requestCache := effect.requestCache.trans requestCache
    dispatched := effect.dispatched.trans dispatched }⟩

/-- A frame error raises the one fault it stands for. -/
theorem recordFrameError_effect (error : ErrorCode) :
    ∃ flag : FaultFlag, flag.keepsState = false ∧
      Effect m [] [] (m.act.withFault flag) (m.recordFrameError b error) := by
  simp only [Machine.recordFrameError]
  have counted := Effect.mapCounters m fun c => { c with decodeErrors := c.decodeErrors + 1 }
  split
  · exact ⟨.BAD_CRC, rfl, (counted.keep (Effect.mapCounters _ _)).fault .BAD_CRC (.map none)⟩
  · split
    · exact ⟨.BAD_PAYLOAD, rfl, counted.fault .BAD_PAYLOAD (.map none)⟩
    · exact ⟨.RX_FRAME, rfl, counted.fault .RX_FRAME (.map none)⟩

end Entries

/-! ## Steps -/

def Op.isTelemetry : Op → Bool
  | .shouldSendTelemetry | .markTelemetrySent | .sendTelemetry .. => true
  | _ => false

def Op.restarts : Op → Bool
  | .begin _ => true
  | _ => false

/-- `m'` is what the entry point `op` makes of `m`, with notable calls `calls`. -/
inductive Stepped (b : MotionBackend) (m m' : Machine) : Op → List Call → Prop where
  | executed {r : Packet} {port : Port} {calls : List Call} {responses : List Packet}
      (fresh : m.act.isDuplicate r = false) (done : Executed b m r calls responses m') :
      Stepped b m m' (.handlePacket r port) calls
  | repeated {r : Packet} {port : Port} (duplicate : m.act.isDuplicate r = true)
      (done : Repeated b m m') : Stepped b m m' (.handlePacket r port) []
  | ticked {events : Option Port} {h : History} {calls : List Call} (done : Tick b m h calls m') :
      Stepped b m m' (.update events) calls
  | begun {defaults : ActuatorConfig} {calls : List Call} (done : Start m defaults calls m') :
      Stepped b m m' (.begin defaults) calls
  | framed {error : ErrorCode} {flag : FaultFlag} (drops : flag.keepsState = false)
      (done : Effect m [] [] (m.act.withFault flag) m') : Stepped b m m' (.recordFrameError error) []
  | reported {op : Op} {calls : List Call} (telemetry : op.isTelemetry = true)
      (reads : OnlyReads calls)
      (done : Effect m calls [] m.act.toControl m') : Stepped b m m' op calls

/-- Whatever the step was, the calls listed are those it made. -/
theorem Stepped.calls {b : MotionBackend} {m m' : Machine} {op : Op} {calls : List Call}
    (stepped : Stepped b m m' op calls) : Adds Call.notable m.calls calls m'.calls := by
  cases stepped with
  | executed _ done => exact done.calls
  | repeated _ done => exact done.calls
  | ticked done => exact done.clock.after_quiet done.calls
  | begun done => exact done.calls
  | framed _ done => exact done.calls
  | reported _ _ done => exact done.calls

section

variable (b : MotionBackend) (m : Machine)

/-- Only the time of the last telemetry changes. -/
theorem markTelemetrySent_effect :
    Effect m [] [] m.act.toControl (m.markTelemetrySent b) := by
  rw [Machine.markTelemetrySent, Machine.nowMs_eq]
  exact ⟨m.arrival_adds b, rfl, .refl _, rfl, rfl, rfl, rfl⟩

/-- Asking whether telemetry is due changes nothing. -/
theorem shouldSendTelemetry_effect :
    Effect m [] [] m.act.toControl (m.shouldSendTelemetry b).2 := by
  simp only [Machine.shouldSendTelemetry]
  split
  · exact .refl m
  · exact Effect.nowMs m b

/-- Of the calls that matter telemetry makes the read of the position alone. -/
theorem sendTelemetry_effect (port : Port) (seq : UInt16) :
    Effect m (positionRead b m.calls) [] m.act.toControl (m.sendTelemetry b port seq) := by
  have read := (Effect.logicalCurrentPosition m b).keep (Effect.logicalTargetPosition _ b)
  have asked := (read.keep (Effect.logicalCurrentSpeed _ b)).keep (Effect.nowMs _ b)
  rw [Effect.answer] at asked
  exact (asked.keep (sendResponse_port _ port _)).keep (markTelemetrySent_effect b _)

variable {b m}

/-- A fresh packet is executed, as a step. -/
theorem step_executed {r : Packet} (fresh : m.act.isDuplicate r = false) (port : Port) :
    ∃ calls responses, Executed b m r calls responses (step b m (.handlePacket r port)) :=
  handlePacket_executed fresh

/-- A duplicate packet is a repetition, as a step. -/
theorem step_repeated {r : Packet} (duplicate : m.act.isDuplicate r = true) (port : Port) :
    Repeated b m (step b m (.handlePacket r port)) :=
  handlePacket_repeated duplicate

variable (b m)

/-- An update is a tick, as a step. -/
theorem step_ticked (events : Option Port) : ∃ h calls, Tick b m h calls (step b m (.update events)) :=
  update_tick events

/-- A `begin` is a start, as a step. -/
theorem step_begun (defaults : ActuatorConfig) :
    ∃ calls, Start m defaults calls (step b m (.begin defaults)) :=
  beginWith_start defaults

/-- Every entry point does one of the steps above. -/
theorem step_stepped (op : Op) : ∃ calls, Stepped b m (step b m op) op calls := by
  cases op with
  | begin defaults =>
    obtain ⟨calls, start⟩ := step_begun b m defaults
    exact ⟨calls, .begun start⟩
  | update events =>
    obtain ⟨h, calls, tick⟩ := step_ticked b m events
    exact ⟨calls, .ticked tick⟩
  | shouldSendTelemetry =>
    exact ⟨[], .reported rfl .nil (shouldSendTelemetry_effect b m)⟩
  | markTelemetrySent => exact ⟨[], .reported rfl .nil (markTelemetrySent_effect b m)⟩
  | sendTelemetry port seq =>
    exact ⟨_, .reported rfl (positionRead_reads b m.calls) (sendTelemetry_effect b m port seq)⟩
  | recordFrameError error =>
    obtain ⟨flag, drops, effect⟩ := recordFrameError_effect (b := b) (m := m) error
    exact ⟨[], .framed drops effect⟩
  | handlePacket r port =>
    cases duplicate : m.act.isDuplicate r with
    | true => exact ⟨[], .repeated duplicate (step_repeated duplicate port)⟩
    | false =>
      obtain ⟨calls, responses, done⟩ := step_executed (b := b) duplicate port
      exact ⟨calls, .executed duplicate done⟩

end

/-! ## Runs -/

/-- A well-formed request. -/
def Packet.request (msg : MsgId) (seq : UInt16) (bytes : List UInt8) : Packet :=
  { msgId := msg.byte, seq := seq, payloadLen := bytes.length.toUInt16,
    payload := Payload.ofBytes bytes }

/-- `MOVE_ABS` to 100 steps at 500 steps/s and 500 steps/s². -/
def moveTo100 (seq : UInt16) : Packet :=
  .request .MOVE_ABS seq (writeI32 100 ++ writeU32 500 ++ writeU32 500)

/-- The machine of a fresh firmware image. -/
def Machine.powerOn (build : BuildInfo) : Machine := { build }

/-- The machine after `begin` and the operations `ops`. -/
def Machine.boot (b : MotionBackend) (build : BuildInfo) (defaults : ActuatorConfig)
    (ops : List Op) : Machine :=
  run (step b) (step b (.powerOn build) (.begin defaults)) ops

def Machine.Reachable (b : MotionBackend) (m : Machine) : Prop :=
  ∃ build defaults ops, m = .boot b build defaults ops

end Daft
