import Daft.Safety.Motion

/-!
# The host watchdog

`update` trips the host timeout in `RUNNING_VELOCITY` alone, so the watchdog
covers a velocity run as long as the run does not outlive that state. The
active configuration stays valid, which keeps the timeout from being zero.
-/

namespace Daft

open Logic

/-- `millis` reads, modulo 2³², a time that does not go back. -/
structure MonotonicClock (b : MotionBackend) where
  time : History → Nat
  reads : b.millis = some fun h => UInt32.ofNat (time h)
  monotone : ∀ call h, time h ≤ time (call :: h)

/-- The defaults and the active configuration satisfy every rule. -/
structure Control.Sound (c : Control) : Prop where
  defaults : Valid c.defaults
  active : Valid c.activeConfig

/-- The invariant: a velocity run is in the state the watchdog looks at. -/
structure Watched (c : Control) (h : History) : Prop where
  sound : c.Sound
  running : velocityLive h = true → c.state = .RUNNING_VELOCITY

/-! ## Sound configurations -/

section

variable {b : MotionBackend} {h : History} {r : Packet} {c c' : Control} {calls : List Call}
  {responses : List Packet}

theorem Valid.withTelemetryRate {config : ActuatorConfig} (valid : Valid config)
    (interval : UInt16) : Valid { config with telemetry.intervalMs := interval } := by
  obtain ⟨_, _, _, _, _, _, _, _, _, _, _, _, _, _, _, _, _, _⟩ := valid
  constructor <;> assumption

theorem Served.sound (served : Served b h r c calls responses c') (sound : c.Sound) : c'.Sound := by
  cases served with
  | applied request => exact ⟨sound.defaults, validateConfig_ok_iff.mp request.valid⟩
  | resetConfigureFailed => exact ⟨sound.defaults, sound.defaults⟩
  | resetStorageFailed => exact ⟨sound.defaults, sound.defaults⟩
  | reset => exact ⟨sound.defaults, sound.defaults⟩
  | telemetryRate => exact ⟨sound.defaults, sound.active.withTelemetryRate _⟩
  | _ => exact ⟨sound.defaults, sound.active⟩

theorem Ticked.sound {elapsed : UInt32} (ticked : Ticked b h elapsed c calls c')
    (sound : c.Sound) : c'.Sound := by
  cases ticked <;> exact ⟨sound.defaults, sound.active⟩

theorem Control.loading_sound {defaults : ActuatorConfig} (valid : Valid defaults)
    (reason : UInt32) (loaded : Option (Option (ActuatorConfig × UInt32))) :
    ((Control.initial defaults reason).loading loaded).Sound := by
  unfold loading
  split
  · split
    case isTrue accepted => exact ⟨valid, validateConfig_ok_iff.mp accepted⟩
    case isFalse => exact ⟨valid, valid⟩
  · exact ⟨valid, valid⟩

theorem Begun.sound {defaults : ActuatorConfig} (begun : Begun defaults calls c)
    (valid : Valid defaults) : c.Sound := by
  cases begun with
  | @driverFailed reason loaded _ chosen =>
    obtain ⟨defaults, active⟩ := chosen ▸ Control.loading_sound valid reason loaded
    exact ⟨defaults, active⟩
  | @ready reason loaded _ _ _ chosen =>
    obtain ⟨defaults, active⟩ := chosen ▸ Control.loading_sound valid reason loaded
    exact ⟨defaults, active⟩

end

/-! ## Velocity runs -/

section

variable {b : MotionBackend} {h h' arrival : History} {r : Packet} {c c' : Control}
  {calls : List Call} {responses : List Packet}

theorem not_live_of_stop {call : Call} (stops : call.stopsMotion = true) (past : History) :
    velocityLive (call :: past) = false := by
  cases call <;> first | rfl | cases stops

/-- A velocity run begins with an accepted command only. -/
theorem velocityLive_before (adds : Adds Call.notable h calls h')
    (unstarted : ∀ call ∈ calls, call.startsMotion = false) (live : velocityLive h' = true) :
    velocityLive h = true := by
  refine adds.invariant (I := fun h' => velocityLive h' = true → velocityLive h = true)
    Call.notable_of_startsMotion unstarted ?_ id live
  intro call past unstarted before live
  cases stops : call.stopsMotion with
  | true => simp [not_live_of_stop stops] at live
  | false => exact before (by simpa [velocityLive, Call.governsMotion, unstarted, stops] using live)

/-- The latest governing call decides. -/
theorem not_live_of_stopped (adds : Adds Call.notable h calls h') {call : Call}
    (latest : calls.find? Call.governsMotion = some call) (stops : call.stopsMotion = true) :
    velocityLive h' = false := by
  rw [velocityLive, adds.find? Call.notable_of_governsMotion, List.find?_append, latest]
  cases call <;> first | rfl | cases stops

theorem not_live_of_emergencyStop {answer : Option Bool}
    (adds : Adds Call.notable h (logged (.enableDriver false) answer ++ [.emergencyStop]) h') :
    velocityLive h' = false := by
  have latest : (logged (.enableDriver false) answer ++ [Call.emergencyStop]).find?
      Call.governsMotion = some .emergencyStop := by
    cases answer <;> rfl
  exact not_live_of_stopped adds latest rfl

theorem not_live_of_rampStop {decel : UInt32} {answer : Option Bool} (wired : answer.isSome = true)
    (adds : Adds Call.notable h (logged (.rampStop decel) answer) h') : velocityLive h' = false := by
  obtain ⟨ok, rfl⟩ := Option.isSome_iff_exists.mp wired
  exact not_live_of_stopped adds rfl rfl

/-- Only `RUN_VEL` starts a velocity run. -/
theorem MotionRequest.running {state : ActuatorState} {mode : ControlMode}
    (request : MotionRequest b arrival r c (some true) calls state mode)
    (adds : Adds Call.notable h calls h') (live : velocityLive h' = true) :
    state = .RUNNING_VELOCITY := by
  rw [velocityLive, adds.find? Call.notable_of_governsMotion] at live
  cases request with
  | runVel => rfl
  | _ => simp [Call.governsMotion, Call.startsMotion] at live

/-! ## One step -/

/-- An undisturbing request that leaves a velocity run live leaves its state. -/
theorem Served.keeps_running (served : Served b arrival r c calls responses c')
    (adds : Adds Call.notable h calls h') (running : c.state = .RUNNING_VELOCITY)
    (calm : ¬ Disturbed b arrival r c) (ramp : b.rampStop.isSome = true)
    (stop : b.emergencyStop.isSome = true) (live : velocityLive h' = true) :
    c'.state = .RUNNING_VELOCITY := by
  have motion : c.isMotionState = true := by simp [Control.isMotionState, running]
  rcases served.from_motion motion calm with ⟨kept, -⟩ | estop | ⟨-, answer, asked, rfl, -⟩ |
    ⟨state, mode, request, entered⟩
  · rw [kept, running]
  · obtain ⟨-, answer, rfl⟩ := served.estopped_of estop
    rw [logged_wired stop] at adds
    exact absurd live (by simp [not_live_of_emergencyStop adds])
  · have wired : answer.isSome = true := by rw [asked, Option.isSome_map, ramp]
    exact absurd live (by simp [not_live_of_rampStop wired adds])
  · rw [entered, request.running adds live]

theorem Ticked.keeps_running {elapsed : UInt32} (ticked : Ticked b h elapsed c calls c')
    (adds : Adds Call.notable h calls h') (running : c.state = .RUNNING_VELOCITY)
    (ramp : b.rampStop.isSome = true) (stop : b.emergencyStop.isSome = true)
    (live : velocityLive h' = true) : c'.state = .RUNNING_VELOCITY := by
  cases ticked with
  | idle => exact running
  | moving => exact running
  | settled motion => simp [running] at motion
  | disabled _ _ wiring =>
    rw [wiring, logged_wired stop] at adds
    exact absurd live (by simp [not_live_of_emergencyStop adds])
  | ramped _ _ wired =>
    exact absurd live (by simp [not_live_of_rampStop (wired.trans ramp) adds])

theorem Watched.served (watched : Watched c h)
    (served : Served b arrival r c calls responses c') (adds : Adds Call.notable h calls h')
    (ramp : b.rampStop.isSome = true) (stop : b.emergencyStop.isSome = true)
    (calm : velocityLive h = true → ¬ Disturbed b arrival r c) : Watched c' h' := by
  constructor
  · exact served.sound watched.sound
  · intro live
    rcases served.started with unstarted | ⟨state, mode, request, entered⟩
    · have before := velocityLive_before adds unstarted live
      have running := watched.running before
      exact served.keeps_running adds running (calm before) ramp stop live
    · rw [entered, request.running adds live]

theorem Watched.ticked {elapsed : UInt32} (watched : Watched c h)
    (ticked : Ticked b h elapsed c calls c') (adds : Adds Call.notable h calls h')
    (ramp : b.rampStop.isSome = true) (stop : b.emergencyStop.isSome = true) : Watched c' h' := by
  constructor
  · exact ticked.sound watched.sound
  · intro live
    have before := velocityLive_before adds (not_starts_of_idle ticked.energises_nothing) live
    exact ticked.keeps_running adds (watched.running before) ramp stop live

/-- Steps that start nothing and keep the state. -/
theorem Watched.keep (watched : Watched c h) (sound : c'.Sound) (state : c'.state = c.state)
    (adds : Adds Call.notable h calls h') (unstarted : ∀ call ∈ calls, call.startsMotion = false) :
    Watched c' h' :=
  ⟨sound, fun live => state.trans (watched.running (velocityLive_before adds unstarted live))⟩

end

/-! ## Runs -/

/-- Neither `begin` nor `handle_packet`. -/
def Op.silent : Op → Bool
  | .begin _ | .handlePacket .. => false
  | _ => true

/-- While a velocity run is live, nothing disturbs it. -/
def CalmVelocity (b : MotionBackend) (m : Machine) (op : Op) : Prop :=
  velocityLive m.calls = true → ¬ Disturbs b m op

section

variable {b : MotionBackend} {m : Machine} {op : Op}

theorem step_watched (ramp : b.rampStop.isSome = true) (stop : b.emergencyStop.isSome = true)
    (running : op.restarts = false) (calm : CalmVelocity b m op)
    (watched : Watched m.act.toControl m.calls) :
    Watched (step b m op).act.toControl (step b m op).calls := by
  obtain ⟨calls, stepped⟩ := step_stepped b m op
  cases stepped with
  | executed fresh done =>
    exact watched.served done.served done.calls ramp stop fun live disturbed =>
      calm live (.requests fresh disturbed)
  | repeated _ done =>
    exact watched.keep (by rw [done.control]; exact watched.sound) (by rw [done.control]) done.calls
      (by simp)
  | ticked done =>
    obtain ⟨pending, ticked⟩ := done.ticked
    have arrived : Watched { m.act.toControl with bootEventPending := pending } _ :=
      watched.keep ⟨watched.sound.defaults, watched.sound.active⟩ rfl done.clock (by simp)
    exact arrived.ticked ticked done.calls ramp stop
  | begun => cases running
  | framed _ done =>
    constructor
    · rw [done.control]
      exact ⟨watched.sound.defaults, watched.sound.active⟩
    · intro live
      have before := velocityLive_before done.calls (by simp) live
      exact absurd .frames (calm before)
  | reported _ reads done =>
    exact watched.keep (by rw [done.control]; exact watched.sound) (by rw [done.control]) done.calls
      (reads.all fun _ => rfl)

theorem boot_watched {build : BuildInfo} {defaults : ActuatorConfig} {ops : List Op}
    (valid : Valid defaults) (ramp : b.rampStop.isSome = true) (stop : b.emergencyStop.isSome = true)
    (running : ∀ op ∈ ops, op.restarts = false)
    (calm : Along (step b) (CalmVelocity b) (.boot b build defaults []) ops) :
    Watched (Machine.boot b build defaults ops).act.toControl
      (Machine.boot b build defaults ops).calls := by
  refine (calm.and (along_of_forall running _)).invariant
    (I := fun m => Watched m.act.toControl m.calls)
    (fun m op sound watched => step_watched ramp stop sound.2 sound.1 watched) ?_
  obtain ⟨calls, done⟩ := step_begun b (.powerOn build) defaults
  constructor
  · exact done.begun.sound valid
  · intro live
    have before := velocityLive_before done.calls
      (not_starts_of_idle done.begun.energises_nothing) live
    cases before

/-- Every packet is heard, executed or not. -/
theorem step_hears (b : MotionBackend) (m : Machine) (r : Packet) (port : Port) :
    (step b m (.handlePacket r port)).act.lastHostMs = m.clock b := by
  cases duplicate : m.act.isDuplicate r with
  | true => exact (step_repeated duplicate port).lastHostMs
  | false =>
    obtain ⟨calls, responses, done⟩ := step_executed (b := b) duplicate port
    exact done.lastHostMs

theorem step_lastHostMs (silent : op.silent = true) :
    (step b m op).act.lastHostMs = m.act.lastHostMs := by
  obtain ⟨calls, stepped⟩ := step_stepped b m op
  cases stepped with
  | ticked done => exact done.lastHostMs
  | framed _ done => exact done.lastHostMs
  | reported _ _ done => exact done.lastHostMs
  | _ => cases silent

theorem run_lastHostMs {ops : List Op} (silent : ∀ op ∈ ops, op.silent = true) :
    (run (step b) m ops).act.lastHostMs = m.act.lastHostMs :=
  (along_of_forall silent m).invariant (I := fun m' => m'.act.lastHostMs = m.act.lastHostMs)
    (fun _ _ silent kept => (step_lastHostMs silent).trans kept) rfl

theorem MonotonicClock.clock (clock : MonotonicClock b) (m : Machine) :
    m.clock b = UInt32.ofNat (clock.time m.calls) := by
  simp [Machine.clock, clock.reads]

/-- Less than 2³² milliseconds are measured exactly. -/
theorem elapsed_toNat {now last : Nat} (ordered : last ≤ now) (short : now - last < UInt32.size) :
    (UInt32.ofNat now - UInt32.ofNat last).toNat = now - last := by
  rw [UInt32.toNat_sub, UInt32.toNat_ofNat', UInt32.toNat_ofNat']
  rw [UInt32.size] at short
  omega

/-- A tick of a run that timed out calls `ramp_stop` or `emergency_stop`. -/
theorem Ticked.stops {h : History} {elapsed : UInt32} {c c' : Control} {calls : List Call}
    (ticked : Ticked b h elapsed c calls c') (ramp : b.rampStop.isSome = true)
    (stop : b.emergencyStop.isSome = true) (timedOut : c.TimedOut elapsed) :
    ∃ call ∈ calls, call.stopsMotion = true := by
  have running := timedOut.1
  cases ticked with
  | idle _ fresh => exact absurd timedOut fresh
  | moving motion => simp [running] at motion
  | settled motion => simp [running] at motion
  | disabled _ _ wiring =>
    exact ⟨.emergencyStop, by simp [wiring, logged_wired stop], rfl⟩
  | ramped _ _ wired =>
    obtain ⟨ok, rfl⟩ := Option.isSome_iff_exists.mp (wired.trans ramp)
    exact ⟨_, List.mem_singleton.mpr rfl, rfl⟩

end

/-! ## Main result -/

/-- Unless it was disturbed, a velocity run is stopped by the first `update` that
comes more than the host timeout after the last packet. -/
theorem watchdog_stops (b : MotionBackend) (clock : MonotonicClock b) (build : BuildInfo)
    (defaults : ActuatorConfig) (before after : List Op) (r : Packet) (port : Port)
    (events : Option Port) (m : Machine)
    (reached : m = .boot b build defaults (before ++ .handlePacket r port :: after))
    (valid : (validateConfig defaults).ok = true)
    (ramp : b.rampStop.isSome = true) (stop : b.emergencyStop.isSome = true)
    (running : ∀ op ∈ before, op.restarts = false) (unheard : ∀ op ∈ after, op.silent = true)
    (calm : Along (step b) (CalmVelocity b) (.boot b build defaults [])
      (before ++ .handlePacket r port :: after))
    (live : velocityLive m.calls = true)
    (late : m.act.activeConfig.safety.hostTimeoutMs.toNat <
      clock.time m.calls - clock.time (Machine.boot b build defaults before).calls)
    (short :
      clock.time m.calls - clock.time (Machine.boot b build defaults before).calls < UInt32.size) :
    ∃ new, (step b m (.update events)).calls = new ++ m.calls ∧
      ∃ call ∈ new, call.stopsMotion = true := by
  have unrestarted : ∀ op ∈ before ++ .handlePacket r port :: after, op.restarts = false := by
    refine List.forall_mem_append.mpr ⟨running, List.forall_mem_cons.mpr ⟨rfl, fun op member => ?_⟩⟩
    have silent := unheard op member
    cases op <;> first | rfl | cases silent
  have watched : Watched m.act.toControl m.calls := by
    rw [reached]
    exact boot_watched (validateConfig_ok_iff.mp valid) ramp stop unrestarted calm
  have heard : m.act.lastHostMs =
      UInt32.ofNat (clock.time (Machine.boot b build defaults before).calls) := by
    rw [reached, Machine.boot, run_append, run_cons, run_lastHostMs unheard, step_hears, clock.clock]
    rfl
  obtain ⟨h, calls, done⟩ := step_ticked b m events
  obtain ⟨pending, ticked⟩ := done.ticked
  rw [clock.clock, heard] at ticked
  have timedOut : Control.TimedOut { m.act.toControl with bootEventPending := pending }
      (UInt32.ofNat (clock.time m.calls) -
        UInt32.ofNat (clock.time (Machine.boot b build defaults before).calls)) := by
    refine ⟨watched.running live, ?_, ?_⟩
    · exact UInt32.lt_of_lt_of_le (by decide) watched.sound.active.timeoutLow
    · rw [gt_iff_lt, UInt32.lt_iff_toNat_lt, elapsed_toNat (by omega) short]
      exact late
  obtain ⟨call, member, stops⟩ := ticked.stops ramp stop timedOut
  obtain ⟨new, extended, filtered⟩ := (done.clock.after_quiet done.calls).split
  have made : call ∈ new := (List.mem_filter.mp (filtered ▸ member)).1
  exact ⟨new, extended, call, made, stops⟩

/-- An obedient backend on which every call takes 100 s. -/
def slowDriver : MotionBackend :=
  { millis := some fun h => UInt32.ofNat (100000 * h.length)
    enableDriver := some fun _ _ => true
    configureDriver := some fun _ _ => true
    runVelocity := some fun _ _ _ => true
    rampStop := some fun _ _ => true
    emergencyStop := some () }

def slowClock : MonotonicClock slowDriver where
  time h := 100000 * h.length
  reads := rfl
  monotone call h := by simp only [List.length_cons]; omega

/-- `RUN_VEL` at 100 steps/s, with 500 steps/s². -/
def runAt100 (seq : UInt16) : Packet := .request .RUN_VEL seq (writeI32 100 ++ writeU32 500)

def selectVelocity : List Op := [.handlePacket (.request .SET_CONTROL_MODE 1 [2]) none]

theorem watchdog_stops_undisturbed :
    ∃ new, (step slowDriver (.boot slowDriver {} {} (selectVelocity ++
        [.handlePacket (runAt100 2) none])) (.update none)).calls =
        new ++ (Machine.boot slowDriver {} {} (selectVelocity ++
          [.handlePacket (runAt100 2) none])).calls ∧
      ∃ call ∈ new, call.stopsMotion = true := by
  refine watchdog_stops slowDriver slowClock {} {} selectVelocity [] (runAt100 2) none none _ rfl
    (by decide) rfl rfl (by decide) (by simp) ⟨?_, ?_, trivial⟩ (by decide) (by decide) (by decide)
  · exact fun live => absurd live (by decide)
  · exact fun live => absurd live (by decide)

/-- A frame error during a velocity run, and no `update` stops the motor. -/
theorem watchdog_misses_after_frame_error :
    ¬ ∀ (b : MotionBackend) (clock : MonotonicClock b) (build : BuildInfo)
      (defaults : ActuatorConfig) (before after : List Op) (r : Packet) (port : Port)
      (events : Option Port) (m : Machine),
      m = .boot b build defaults (before ++ .handlePacket r port :: after) →
      (validateConfig defaults).ok = true → b.rampStop.isSome = true →
      b.emergencyStop.isSome = true → (∀ op ∈ before, op.restarts = false) →
      (∀ op ∈ after, op.silent = true) → velocityLive m.calls = true →
      m.act.activeConfig.safety.hostTimeoutMs.toNat <
        clock.time m.calls - clock.time (Machine.boot b build defaults before).calls →
      clock.time m.calls - clock.time (Machine.boot b build defaults before).calls < UInt32.size →
      ∃ new, (step b m (.update events)).calls = new ++ m.calls ∧
        ∃ call ∈ new, call.stopsMotion = true := by
  intro stops
  obtain ⟨new, made, call, member, stopping⟩ := stops slowDriver slowClock {} {} selectVelocity
    [.recordFrameError .ERR_BAD_CRC] (runAt100 2) none none _ rfl (by decide) rfl rfl (by decide)
    (by decide) (by decide) (by decide) (by decide)
  have read : [Call.millis 1100000] = new := List.append_cancel_right ((by decide : _ = _).trans made)
  rw [← read, List.mem_singleton] at member
  subst member
  cases stopping

end Daft
