import Daft.Safety.ConfigCopies

/-!
# Rates handed to the motor

Motion commands check the rates they are given, and a tripped host timeout takes
its deceleration from the valid active configuration. `RAMP_STOP` alone hands
over a deceleration nobody has checked.
-/

namespace Daft

open Logic

/-- The calls that carry a velocity or an acceleration. -/
def Call.isRated : Call → Bool
  | .moveAbsolute .. | .moveRelative .. | .runVelocity .. | .rampStop .. => true
  | _ => false

namespace SafetyConfig

variable (safety : SafetyConfig)

/-- A velocity magnitude within the limit. -/
def AllowsVelocity (magnitude : Nat) : Prop :=
  1 ≤ magnitude ∧ magnitude ≤ safety.maxAllowedVelocitySps.toNat

/-- An acceleration or deceleration within the limit. -/
def AllowsAccel (accel : UInt32) : Prop :=
  1 ≤ accel.toNat ∧ accel.toNat ≤ safety.maxAllowedAccelSps2.toNat

instance (accel : UInt32) : Decidable (safety.AllowsAccel accel) :=
  inferInstanceAs (Decidable (_ ∧ _))

/-- The rates a call carries are within the limits. -/
def Allows : Call → Prop
  | .moveAbsolute _ velocity accel _ | .moveRelative _ velocity accel _ =>
    safety.AllowsVelocity velocity.toNat ∧ safety.AllowsAccel accel
  | .runVelocity velocity accel _ =>
    safety.AllowsVelocity velocity.toInt.natAbs ∧ safety.AllowsAccel accel
  | .rampStop decel _ => safety.AllowsAccel decel
  | _ => True

end SafetyConfig

theorem Call.notable_of_isRated (call : Call) (rated : call.isRated = true) :
    call.notable = true := by
  cases call <;> first | rfl | cases rated

/-! ## Magnitudes -/

/-- `abs_velocity` is the magnitude, at the bottom of the range as well. -/
theorem toNat_absVelocity (velocity : Int32) :
    (absVelocity velocity).toNat = velocity.toInt.natAbs := by
  have low := velocity.le_toInt
  have high := velocity.toInt_lt
  unfold absVelocity
  split
  case isTrue negative =>
    have below : velocity.toInt < 0 := Int32.lt_iff_toInt_lt.mp negative
    have wrapped : (UInt32.ofInt (-velocity.toInt)).toNat = (-velocity.toInt % 4294967296).toNat := by
      rw [UInt32.ofInt, UInt32.toNat_ofNat']
      omega
    rw [wrapped]
    omega
  case isFalse positive =>
    have above : 0 ≤ velocity.toInt := Int32.le_iff_toInt_le.mp (Int32.not_lt.mp positive)
    rw [Int32.toNat_toUInt32_of_le (Int32.not_lt.mp positive)]
    show velocity.toInt.toNat = _
    omega

theorem natAbs_neg {velocity : Int32} (representable : velocity ≠ Int32.minValue) :
    (-velocity).toInt.natAbs = velocity.toInt.natAbs := by
  have low := velocity.le_toInt
  have high := velocity.toInt_lt
  have above : velocity.toInt ≠ -2147483648 := fun same => representable (Int32.toInt_inj.mp same)
  rw [Int32.toInt_neg, Int.bmod_eq_of_le (by omega) (by omega), Int.natAbs_neg]

/-- The direction changes the sign alone. -/
theorem Control.natAbs_converted {c : Control} {logical converted : Int32}
    (conversion : c.toBackendValue logical = some converted) :
    converted.toInt.natAbs = logical.toInt.natAbs := by
  unfold Control.toBackendValue at conversion
  split at conversion
  case isTrue =>
    obtain rfl := Option.some.inj conversion
    rfl
  case isFalse =>
    split at conversion
    case isTrue => cases conversion
    case isFalse representable =>
      obtain rfl := Option.some.inj conversion
      exact natAbs_neg representable

/-- Rates that were not refused are within the limits. -/
theorem allows_of_rates {config : ActuatorConfig} {velocity accel : UInt32}
    (passed : rateRefused config velocity accel = false) :
    config.safety.AllowsVelocity velocity.toNat ∧ config.safety.AllowsAccel accel := by
  simp only [rateRefused, decide_eq_false_iff_not, not_or, gt_iff_lt, UInt32.not_lt] at passed
  obtain ⟨moving, accelerating, slow, gentle, -⟩ := passed
  have velocityPositive : velocity.toNat ≠ 0 := fun zero => moving (UInt32.toNat_inj.mp zero)
  have accelPositive : accel.toNat ≠ 0 := fun zero => accelerating (UInt32.toNat_inj.mp zero)
  refine ⟨⟨?_, UInt32.le_iff_toNat_le.mp slow⟩, ⟨?_, UInt32.le_iff_toNat_le.mp gentle⟩⟩
  · omega
  · omega

/-- The default stop deceleration of a valid configuration is within its limits. -/
theorem Valid.allowsDecel {config : ActuatorConfig} (valid : Valid config) :
    config.safety.AllowsAccel config.motion.defaultStopDecelSps2 := by
  have positive : config.motion.defaultStopDecelSps2.toNat ≠ 0 :=
    fun zero => valid.decelPositive (UInt32.toNat_inj.mp zero)
  refine ⟨?_, UInt32.le_iff_toNat_le.mp valid.decelAllowed⟩
  omega

/-! ## One step -/

section

variable {b : MotionBackend} {h : History} {r : Packet} {c c' : Control} {calls : List Call}
  {responses : List Packet} {m : Machine} {op : Op}

/-- Every call a motion command makes is within the limits. -/
theorem MotionRequest.allowed_rates {answer : Option Bool} {state : ActuatorState}
    {mode : ControlMode} (request : MotionRequest b h r c answer calls state mode) :
    ∀ call ∈ calls, c.activeConfig.safety.Allows call := by
  have reading : ∀ call ∈ positionRead b h, c.activeConfig.safety.Allows call := by
    intro call member
    obtain ⟨steps, rfl⟩ := positionRead_reads b h call member
    trivial
  cases request with
  | moveAbs _ _ rates =>
    rw [forall_mem_logged]
    exact fun _ _ => allows_of_rates rates
  | moveRel _ _ _ rates =>
    refine List.forall_mem_append.mpr ⟨?_, reading⟩
    rw [forall_mem_logged]
    exact fun _ _ => allows_of_rates rates
  | runVel _ _ _ rates converted =>
    obtain ⟨velocity, accel⟩ := allows_of_rates rates
    rw [toNat_absVelocity, ← Control.natAbs_converted converted] at velocity
    rw [forall_mem_logged]
    exact fun _ _ => ⟨velocity, accel⟩

/-- A tick stops with the default deceleration. -/
theorem Ticked.allows {elapsed : UInt32} (ticked : Ticked b h elapsed c calls c')
    (valid : Valid c.activeConfig) : ∀ call ∈ calls, c.activeConfig.safety.Allows call := by
  cases ticked with
  | ramped =>
    rw [forall_mem_logged]
    exact fun _ _ => valid.allowsDecel
  | _ => simp [SafetyConfig.Allows, or_imp, forall_and]

theorem Begun.unrated {defaults : ActuatorConfig} (begun : Begun defaults calls c) :
    ∀ call ∈ calls, call.isRated = false := by
  cases begun <;> simp [Call.isRated, or_imp, forall_and]

/-- Rated calls are made by motion commands and by `RAMP_STOP`, and neither writes
the configuration. -/
inductive Rated (b : MotionBackend) (h : History) (r : Packet) (c : Control) (calls : List Call)
    (c' : Control) : Prop where
  | unrated (silent : ∀ call ∈ calls, call.isRated = false)
  | moves {answer : Option Bool} {state : ActuatorState} {mode : ControlMode}
      (request : MotionRequest b h r c answer calls state mode)
      (config : c'.activeConfig = c.activeConfig)
  | stops {before : List Call} {answer : Option Bool} (request : RampRequest b h r c before)
      (wired : answer.isSome = b.rampStop.isSome)
      (made : calls = logged (.rampStop (readU32 (r.at 0))) answer ++ before)
      (config : c'.activeConfig = c.activeConfig)

theorem Served.rated (served : Served b h r c calls responses c') : Rated b h r c calls c' := by
  cases served with
  | refused refusal => exact .unrated (refusal.reads.all fun _ => rfl)
  | answered _ _ reads => exact .unrated (reads.all fun _ => rfl)
  | relLimited => exact .unrated ((positionRead_reads b h).all fun _ => rfl)
  | motionFailed request => exact .moves request rfl
  | motionStarted request => exact .moves request rfl
  | rampFailed request asked => exact .stops request (by rw [asked, Option.isSome_map]) rfl rfl
  | ramped request asked =>
    have wired : (some true).isSome = b.rampStop.isSome := by rw [← asked, Option.isSome_map]
    exact .stops request wired rfl rfl
  | _ => exact .unrated (by simp [Call.isRated, or_imp, forall_and])

/-- A `RAMP_STOP` that reaches the backend calls it. -/
theorem Served.stops_of {before : List Call} (served : Served b h r c calls responses c')
    (request : RampRequest b h r c before) (wired : b.rampStop.isSome = true) :
    ∃ ok, .rampStop (readU32 (r.at 0)) ok ∈ calls := by
  have asks := request.asks
  have listed : ∀ {answer : Option Bool}, answer.isSome = true →
      ∃ ok, .rampStop (readU32 (r.at 0)) ok ∈ logged (.rampStop (readU32 (r.at 0))) answer := by
    intro answer made
    obtain ⟨ok, rfl⟩ := Option.isSome_iff_exists.mp made
    exact ⟨ok, by simp⟩
  cases served with
  | ramped => exact ⟨true, by simp⟩
  | @rampFailed _ answer _ asked =>
    have made : answer.isSome = true := by rw [asked, Option.isSome_map, wired]
    obtain ⟨ok, member⟩ := listed made
    exact ⟨ok, List.mem_append_left _ member⟩
  | rampAtRest _ still asked rest => cases request <;> grind
  | refused refusal => cases refusal <;> grind
  | _ => grind

end

/-- The rated calls of a step are within the limits active at that moment; such a
step leaves the configuration as it is. -/
def RatesKept (b : MotionBackend) (m : Machine) (op : Op) : Prop :=
  Since (fun call _ => call.isRated = true → m.act.activeConfig.safety.Allows call ∧
      (step b m op).act.activeConfig = m.act.activeConfig) m.calls (step b m op).calls

/-- A `RAMP_STOP` that reaches the backend with a deceleration outside the limit. -/
inductive UnboundedStop (b : MotionBackend) (m : Machine) : Op → Prop where
  | stops {r : Packet} {port : Port} {before : List Call} (fresh : m.act.isDuplicate r = false)
      (request : RampRequest b (m.arrival b) r m.act.toControl before)
      (wired : b.rampStop.isSome = true)
      (outside : ¬ m.act.activeConfig.safety.AllowsAccel (readU32 (r.at 0))) :
      UnboundedStop b m (.handlePacket r port)

section

variable {b : MotionBackend} {m : Machine} {op : Op}

theorem step_rates (valid : Valid m.act.activeConfig) (bounded : ¬ UnboundedStop b m op) :
    RatesKept b m op := by
  obtain ⟨calls, stepped⟩ := step_stepped b m op
  have unrated : (∀ call ∈ calls, call.isRated = false) → RatesKept b m op := fun silent =>
    stepped.calls.since_of_absent Call.notable_of_isRated silent
  cases stepped with
  | executed fresh done =>
    cases done.served.rated with
    | unrated silent => exact unrated silent
    | moves request config =>
      refine done.calls.since_of_members Call.notable_of_isRated fun call member _ => ?_
      exact ⟨request.allowed_rates call member, config⟩
    | stops request wired made config =>
      refine done.calls.since_of_members Call.notable_of_isRated fun call member rated => ?_
      refine ⟨?_, config⟩
      rw [made] at member
      rcases List.mem_append.mp member with stop | active
      · obtain ⟨ok, rfl, rfl⟩ := (mem_logged ..).mp stop
        apply Decidable.byContradiction (p := m.act.activeConfig.safety.AllowsAccel _)
        intro outside
        exact bounded (.stops fresh request wired.symm outside)
      · rw [request.all (p := Call.isRated) rfl call active] at rated
        cases rated
  | repeated => exact unrated (by simp)
  | ticked done =>
    obtain ⟨pending, ticked⟩ := done.ticked
    have adds := done.clock.after_quiet done.calls
    refine adds.since_of_members Call.notable_of_isRated fun call member _ => ?_
    exact ⟨ticked.allows valid call member, ticked.sameConfigs.active⟩
  | begun done => exact unrated done.begun.unrated
  | framed => exact unrated (by simp)
  | reported _ reads => exact unrated (reads.all fun _ => rfl)

theorem bounded_of_rates (kept : RatesKept b m op) : ¬ UnboundedStop b m op := by
  rintro ⟨fresh, request, wired, outside⟩
  rename_i r port before
  obtain ⟨calls, responses, done⟩ := step_executed (b := b) fresh port
  obtain ⟨ok, member⟩ := done.served.stops_of request wired
  obtain ⟨past, allowed⟩ := done.calls.member_of_since kept member
  exact outside (allowed rfl).1

end

/-! ## Main result -/

theorem powerOn_coherent (build : BuildInfo) : (Machine.powerOn build).Coherent := by
  refine ⟨⟨⟨defaultConfig_valid, defaultConfig_valid⟩, defaultConfig_valid, fun _ => rfl⟩, ?_⟩
  intro call member
  cases member

/-- In every run from power on whose starts are given valid defaults, the rates of
every motion command and stop are within the limits then active exactly when no
`RAMP_STOP` with a deceleration outside them reaches the backend. -/
theorem rates_kept_iff (b : MotionBackend) (build : BuildInfo) (ops : List Op)
    (valid : ∀ op ∈ ops, ∀ defaults, op = .begin defaults → (validateConfig defaults).ok = true) :
    Along (step b) (RatesKept b) (.powerOn build) ops ↔
      Along (step b) (fun m op => ¬ UnboundedStop b m op) (.powerOn build) ops := by
  have sound : ∀ op ∈ ops, op.Sound := fun op member defaults begins =>
    validateConfig_ok_iff.mp (valid op member defaults begins)
  have coherent := powerOn_coherent build
  generalize Machine.powerOn build = m at *
  clear valid
  induction ops generalizing m with
  | nil => exact Iff.rfl
  | cons op ops ih =>
    obtain ⟨here, later⟩ := List.forall_mem_cons.mp sound
    have next := ih later (step b m op) (step_coherent here coherent)
    constructor
    · rintro ⟨kept, rest⟩
      exact ⟨bounded_of_rates kept, next.mp rest⟩
    · rintro ⟨bounded, rest⟩
      exact ⟨step_rates coherent.control.sound.active bounded, next.mpr rest⟩

/-- A move under way is stopped. -/
def stoppedRun (decel : UInt32) : List Op :=
  [.begin {}, .handlePacket (.request .SET_CONTROL_MODE 1 [1]) none, .handlePacket (moveTo100 2) none,
    .handlePacket (.request .RAMP_STOP 3 (writeU32 decel)) none]

/-- A backend that accepts moves and stops. -/
def obedientBackend : MotionBackend :=
  { moveAbsolute := some fun _ _ _ _ => true, rampStop := some fun _ _ => true }

theorem stoppedRun_valid (decel : UInt32) : ∀ op ∈ stoppedRun decel, ∀ defaults,
    op = .begin defaults → (validateConfig defaults).ok = true := by
  intro op member defaults begins
  subst begins
  simp only [stoppedRun, List.mem_cons, reduceCtorEq, List.not_mem_nil, or_false,
    Op.begin.injEq] at member
  subst member
  decide

theorem rates_kept_iff_stopped :
    Along (step obedientBackend) (RatesKept obedientBackend) (.powerOn {}) (stoppedRun 500) ↔
      Along (step obedientBackend) (fun m op => ¬ UnboundedStop obedientBackend m op) (.powerOn {})
        (stoppedRun 500) :=
  rates_kept_iff obedientBackend {} (stoppedRun 500) (stoppedRun_valid 500)

/-- Stopping with deceleration 0 hands 0 to the motor. -/
theorem zero_decel_handed_over :
    ¬ ∀ (b : MotionBackend) (build : BuildInfo) (ops : List Op),
      (∀ op ∈ ops, ∀ defaults, op = .begin defaults → (validateConfig defaults).ok = true) →
      Along (step b) (RatesKept b) (.powerOn build) ops := by
  intro kept
  obtain ⟨-, -, -, last, -⟩ := kept obedientBackend {} (stoppedRun 0) (stoppedRun_valid 0)
  have zero : readU32 ((Packet.request .RAMP_STOP 3 (writeU32 0)).at 0) = 0 := rfl
  refine bounded_of_rates last (.stops rfl (.moving ⟨rfl, rfl⟩ rfl) rfl ?_)
  rw [zero]
  decide

end Daft
