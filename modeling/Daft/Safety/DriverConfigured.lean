import Daft.Safety.EmergencyStop

/-!
# Motion on a configured driver

`driver_enabled_` is what admits motion, so it has to imply that the latest
`configure_driver` succeeded with the active configuration. `CONFIG_APPLY`
compares only four of the driver members; the others never differ between the
staged and the active configuration.
-/

namespace Daft

open Logic

/-- The driver members no field id addresses. -/
structure Tmc2209Config.SameFixed (staged active : Tmc2209Config) : Prop where
  blankTime : staged.blankTime = active.blankTime
  toff : staged.toff = active.toff
  interpolation : staged.interpolation = active.interpolation

theorem Tmc2209Config.SameFixed.refl (config : Tmc2209Config) : config.SameFixed config :=
  ⟨rfl, rfl, rfl⟩

theorem Tmc2209Config.SameFixed.trans {first second third : Tmc2209Config}
    (left : first.SameFixed second) (right : second.SameFixed third) : first.SameFixed third :=
  ⟨left.blankTime.trans right.blankTime, left.toff.trans right.toff,
    left.interpolation.trans right.interpolation⟩

/-- What `driver_changed` overlooks does not change. -/
theorem driver_eq_of_unchanged {staged active : Tmc2209Config} (fixed : staged.SameFixed active)
    (same : driverChanged staged active = false) : staged = active := by
  obtain ⟨blankTime, toff, interpolation⟩ := fixed
  cases staged
  cases active
  simp_all [driverChanged]

theorem stageConfigField_fixed (config : ActuatorConfig) (field : ConfigField) (value : Int32) :
    (stageConfigField config field value).2.driver.SameFixed config.driver := by
  cases field <;> simp only [stageConfigField, configFieldKnown, Bool.not_true, Bool.not_false,
    Bool.false_eq_true, if_false, if_true]
  all_goals first
    | exact ⟨rfl, rfl, rfl⟩
    | split <;> exact ⟨rfl, rfl, rfl⟩

def Call.isConfigure : Call → Bool
  | .configureDriver .. => true
  | _ => false

theorem Call.notable_of_isConfigure (call : Call) (configures : call.isConfigure = true) :
    call.notable = true := by
  cases call <;> first | rfl | cases configures

theorem Call.not_configure_of_isMove (call : Call) (moves : call.isMove = true) :
    call.isConfigure = false := by
  cases call <;> first | rfl | cases moves

/-- Staged and active configuration differ only where `driver_changed` looks. -/
def Control.Comparable (c : Control) : Prop := c.stagedConfig.driver.SameFixed c.activeConfig.driver

/-- The latest `configure_driver` succeeded with the active configuration. -/
def Control.DriverReady (c : Control) (h : History) : Prop :=
  h.find? Call.isConfigure = some (.configureDriver c.activeConfig.driver true)

instance (c : Control) (h : History) : Decidable (c.DriverReady h) :=
  inferInstanceAs (Decidable (_ = _))

/-- The invariant. -/
structure Configured (c : Control) (h : History) : Prop where
  comparable : c.Comparable
  ready : c.driverEnabled = true → c.DriverReady h

/-- The request makes a `configure_driver` call that fails. -/
inductive ConfigureFails (b : MotionBackend) (m : Machine) : Op → Prop where
  | selecting {r : Packet} {port : Port} {mode : ControlMode} (fresh : m.act.isDuplicate r = false)
      (request : ModeRequest r m.act.toControl mode) (enabling : mode ≠ .DISABLED)
      (failed : b.configureDriver.map (fun f => f (m.arrival b) m.act.activeConfig.driver) =
        some false) : ConfigureFails b m (.handlePacket r port)
  | applying {r : Packet} {port : Port} (fresh : m.act.isDuplicate r = false)
      (request : ApplyRequest r m.act.toControl)
      (failed : applyAnswer b (m.arrival b) m.act.toControl = some false) :
      ConfigureFails b m (.handlePacket r port)
  | resetting {r : Packet} {port : Port} (fresh : m.act.isDuplicate r = false)
      (request : ResetRequest r m.act.toControl)
      (failed : b.configureDriver.map (fun f => f (m.arrival b) m.act.defaults.driver) =
        some false) : ConfigureFails b m (.handlePacket r port)

/-! ## One step -/

section

variable {b : MotionBackend} {h past : History} {r : Packet} {c c' : Control} {calls : List Call}
  {responses : List Packet}

/-- Steps that neither configure the driver nor touch what it was configured with. -/
theorem Configured.after (configured : Configured c past)
    (silent : ∀ call ∈ calls, call.isConfigure = false)
    (comparable : c'.Comparable) (active : c'.activeConfig.driver = c.activeConfig.driver)
    (enabled : c'.driverEnabled = true → c.driverEnabled = true) :
    Configured c' (calls ++ past) where
  comparable := comparable
  ready on := by
    have none : calls.find? Call.isConfigure = none :=
      List.find?_eq_none.mpr fun call member => by simp [silent call member]
    rw [Control.DriverReady, List.find?_append, none, active]
    exact configured.ready (enabled on)

theorem Configured.of_disabled (comparable : c.Comparable) (off : c.driverEnabled = false) :
    Configured c past :=
  ⟨comparable, fun on => absurd on (by simp [off])⟩

/-- Applying reconfigures the driver where its settings changed. -/
theorem Configured.applied (configured : Configured c past) (wired : b.configureDriver.isSome = true)
    (accepted : applyAnswer b h c ≠ some false) :
    Configured c.applied
      (logged (.configureDriver c.stagedConfig.driver) (applyAnswer b h c) ++ past) where
  comparable := .refl _
  ready on := by
    cases changed : driverChanged c.stagedConfig.driver c.activeConfig.driver with
    | true =>
      rw [applyAnswer, if_pos changed] at accepted ⊢
      rw [accepts_of_wired wired accepted]
      rfl
    | false =>
      have unasked : applyAnswer b h c = none := by rw [applyAnswer, changed]; rfl
      have ready := configured.ready on
      rw [unasked, Control.DriverReady]
      simp only [Control.applied, driver_eq_of_unchanged configured.comparable changed]
      exact ready

theorem Configured.comparable_staging (configured : Configured c past) {candidate : ActuatorConfig}
    (accepted : stageCandidate r c = .ok candidate) : (c.staging candidate).Comparable := by
  have kept := stageConfigField_fixed c.pendingConfig (.ofRaw (readU16 (r.at 0))) (readI32 (r.at 2))
  rw [← stageCandidate_eq accepted] at kept
  refine kept.trans ?_
  simp only [Control.pendingConfig]
  split
  · exact configured.comparable
  · exact .refl _

theorem Served.configured (served : Served b h r c calls responses c')
    (wired : b.configureDriver.isSome = true)
    (selects : c.driverEnabled = true → ∀ mode, mode ≠ .DISABLED → ModeRequest r c mode →
      b.configureDriver.map (fun f => f h c.activeConfig.driver) ≠ some false)
    (applies : c.driverEnabled = true → ApplyRequest r c → applyAnswer b h c ≠ some false)
    (resets : c.driverEnabled = true → ResetRequest r c →
      b.configureDriver.map (fun f => f h c.defaults.driver) ≠ some false)
    (configured : Configured c past) : Configured c' (calls ++ past) := by
  cases served with
  | modeConfigureFailed request enabling failed =>
    constructor
    · exact configured.comparable
    · intro on
      exact absurd failed (selects on _ enabling request)
  | modeEnableFailed request enabling configuring accepted =>
    subst configuring
    rw [accepts_of_wired wired accepted]
    exact ⟨configured.comparable, fun _ => rfl⟩
  | @enabled _ _ answer request enabling configuring accepted =>
    subst configuring
    rw [accepts_of_wired wired accepted]
    constructor
    · exact configured.comparable
    · intro _
      cases answer <;> rfl
  | applyFailed request failed =>
    constructor
    · exact configured.comparable
    · intro on
      exact absurd failed (applies on request)
  | applied request asked accepted =>
    subst asked
    exact configured.applied wired accepted
  | resetConfigureFailed request failed =>
    constructor
    · exact .refl _
    · intro on
      exact absurd failed (resets on request)
  | resetStorageFailed request configuring accepted =>
    subst configuring
    rw [accepts_of_wired wired accepted]
    exact ⟨.refl _, fun _ => rfl⟩
  | @reset _ answer request configuring accepted =>
    subst configuring
    rw [accepts_of_wired wired accepted]
    constructor
    · exact .refl _
    · intro _
      cases answer <;> rfl
  | staged asks accepted =>
    exact configured.after (by simp) (configured.comparable_staging accepted) rfl id
  | telemetryRate =>
    refine configured.after (by simp) ?_ rfl id
    simp only [Control.Comparable, Control.withTelemetryRate]
    split
    · exact configured.comparable
    · exact .refl _
  | disabled => exact .of_disabled configured.comparable rfl
  | estopped => exact .of_disabled configured.comparable rfl
  | refused refusal =>
    exact configured.after (refusal.reads.all fun _ => rfl) configured.comparable rfl id
  | answered _ _ reads =>
    exact configured.after (reads.all fun _ => rfl) configured.comparable rfl id
  | relLimited =>
    exact configured.after ((positionRead_reads b h).all fun _ => rfl) configured.comparable rfl id
  | rampFailed request =>
    exact configured.after (List.forall_mem_append.mpr ⟨by simp [Call.isConfigure], request.all rfl⟩)
      configured.comparable rfl id
  | ramped request =>
    exact configured.after (List.forall_mem_cons.mpr ⟨rfl, request.all rfl⟩) configured.comparable
      rfl id
  | motionFailed request =>
    exact configured.after (request.silent Call.not_configure_of_isMove fun _ => rfl)
      configured.comparable rfl id
  | motionStarted request =>
    exact configured.after (request.silent Call.not_configure_of_isMove fun _ => rfl)
      configured.comparable rfl id
  | _ => exact configured.after (by simp [Call.isConfigure]) configured.comparable rfl id

theorem Ticked.configured {elapsed : UInt32} (ticked : Ticked b h elapsed c calls c')
    (configured : Configured c past) : Configured c' (calls ++ past) := by
  cases ticked with
  | disabled => exact .of_disabled configured.comparable rfl
  | _ => exact configured.after (by simp [Call.isConfigure]) configured.comparable rfl id

theorem Begun.configured {defaults : ActuatorConfig} (begun : Begun defaults calls c') :
    Configured c' past := by
  obtain ⟨fresh, -⟩ := begun.fresh
  exact .of_disabled (by rw [Control.Comparable, fresh.staged]; exact .refl _) fresh.disabled

theorem Configured.adds {h' : History} (configured : Configured c (calls ++ past))
    (adds : Adds Call.notable past calls h') : Configured c h' where
  comparable := configured.comparable
  ready on := by
    rw [Control.DriverReady, adds.find? Call.notable_of_isConfigure]
    exact configured.ready on

end

/-! ## Runs -/

/-- The step makes no `configure_driver` call that fails while the driver is on. -/
def Reconfigures (b : MotionBackend) (m : Machine) (op : Op) : Prop :=
  m.act.driverEnabled = true → ¬ ConfigureFails b m op

section

variable {b : MotionBackend} {m : Machine} {op : Op}

theorem step_configured (wired : b.configureDriver.isSome = true) (sound : Reconfigures b m op)
    (configured : Configured m.act.toControl m.calls) :
    Configured (step b m op).act.toControl (step b m op).calls := by
  obtain ⟨calls, stepped⟩ := step_stepped b m op
  have same : Configured m.act.toControl ([] ++ m.calls) := configured
  cases stepped with
  | executed fresh done =>
    refine (done.served.configured wired ?_ ?_ ?_ configured).adds done.calls
    · exact fun on mode enabling request failed => sound on (.selecting fresh request enabling failed)
    · exact fun on request failed => sound on (.applying fresh request failed)
    · exact fun on request failed => sound on (.resetting fresh request failed)
  | repeated _ done => exact (done.control ▸ same).adds done.calls
  | ticked done =>
    obtain ⟨pending, ticked⟩ := done.ticked
    refine (ticked.configured ?_).adds (done.clock.after_quiet done.calls)
    exact ⟨configured.comparable, configured.ready⟩
  | begun done => exact done.begun.configured
  | framed _ done =>
    refine Configured.adds ?_ done.calls
    rw [done.control]
    exact ⟨configured.comparable, configured.ready⟩
  | reported _ reads done =>
    refine Configured.adds ?_ done.calls
    rw [done.control]
    exact configured.after (reads.all fun _ => rfl) configured.comparable rfl id

/-- A step moves only with the driver on, and configures nothing before it moves. -/
theorem step_moves : Since (fun call past => call.isMove = true → m.act.driverEnabled = true ∧
      past.find? Call.isConfigure = m.calls.find? Call.isConfigure)
    m.calls (step b m op).calls := by
  obtain ⟨calls, stepped⟩ := step_stepped b m op
  rcases stepped.moved with still | ⟨r, port, answer, state, mode, -, -, request⟩
  · exact stepped.calls.since_of_absent Call.notable_of_isMove still
  · refine request.since stepped.calls fun call past reads positions read => ⟨request.enabled, ?_⟩
    have silent : ∀ call ∈ reads, call.isConfigure = false := positions.all fun _ => rfl
    rw [read.find? Call.notable_of_isConfigure, List.find?_append,
      List.find?_eq_none.mpr fun call member => by simp [silent call member]]
    rfl

/-- Along sound steps the invariant holds from `begin` on. -/
theorem boot_configured {build : BuildInfo} {defaults : ActuatorConfig} {ops : List Op}
    (wired : b.configureDriver.isSome = true)
    (sound : Along (step b) (Reconfigures b) (.boot b build defaults []) ops) :
    Configured (Machine.boot b build defaults ops).act.toControl
      (Machine.boot b build defaults ops).calls := by
  refine sound.invariant (I := fun m => Configured m.act.toControl m.calls)
    (fun m op sound configured => step_configured wired sound configured) ?_
  obtain ⟨calls, done⟩ := step_begun b (.powerOn build) defaults
  exact done.begun.configured

end

/-! ## Main result -/

/-- While no `configure_driver` call fails with the driver on, every motion command
goes to a driver last configured, successfully, with the active configuration. -/
theorem motion_on_configured_driver (b : MotionBackend) (build : BuildInfo)
    (defaults : ActuatorConfig) (ops : List Op) (op : Op)
    (wired : b.configureDriver.isSome = true)
    (sound : Along (step b) (Reconfigures b) (.boot b build defaults []) ops) :
    Since (fun call past => call.isMove = true →
        (Machine.boot b build defaults ops).act.DriverReady past)
      (Machine.boot b build defaults ops).calls
      (step b (.boot b build defaults ops) op).calls := by
  have configured := boot_configured wired sound
  apply step_moves.mono
  intro call past moved moves
  obtain ⟨enabled, latest⟩ := moved moves
  rw [Control.DriverReady, latest]
  exact configured.ready enabled

/-- A backend that moves when asked and whose driver refuses the third
configuration. -/
def refusingDriver : MotionBackend :=
  { configureDriver := some fun h _ => (h.filter Call.isConfigure).length ≠ 2
    enableDriver := some fun _ _ => true
    moveAbsolute := some fun _ _ _ _ => true }

theorem motion_on_configured_driver_first_move :
    Since (fun call past => call.isMove = true → (Machine.boot refusingDriver {} {}
        [.handlePacket (.request .SET_CONTROL_MODE 1 [1]) none]).act.DriverReady past)
      (Machine.boot refusingDriver {} {}
        [.handlePacket (.request .SET_CONTROL_MODE 1 [1]) none]).calls
      (step refusingDriver (Machine.boot refusingDriver {} {}
        [.handlePacket (.request .SET_CONTROL_MODE 1 [1]) none])
        (.handlePacket (moveTo100 2) none)).calls := by
  refine motion_on_configured_driver refusingDriver {} {}
    [.handlePacket (.request .SET_CONTROL_MODE 1 [1]) none] (.handlePacket (moveTo100 2) none) rfl
    ⟨fun enabled => ?_, trivial⟩
  exact absurd enabled (by decide)

/-- `SET_CONTROL_MODE` whose configuration fails leaves the driver on, and after
`CLEAR_FAULTS` motion is admitted again. -/
theorem motion_after_failed_configuration :
    ¬ ∀ (b : MotionBackend) (build : BuildInfo) (defaults : ActuatorConfig) (ops : List Op) (op : Op),
      b.configureDriver.isSome = true →
      Since (fun call past => call.isMove = true →
          (Machine.boot b build defaults ops).act.DriverReady past)
        (Machine.boot b build defaults ops).calls
        (step b (.boot b build defaults ops) op).calls := by
  intro configured
  have since := configured refusingDriver {} {}
    [.handlePacket (.request .SET_CONTROL_MODE 1 [1]) none,
      .handlePacket (.request .SET_CONTROL_MODE 2 [1]) none,
      .handlePacket (.request .CLEAR_FAULTS 3 []) none] (.handlePacket (moveTo100 4) none) rfl
  cases since with
  | cons ready _ => exact absurd (ready rfl) (by decide)

end Daft
