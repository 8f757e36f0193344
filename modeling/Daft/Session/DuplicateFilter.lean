import Daft.Firmware.Steps
import Daft.Host.Client
import Mathlib.Data.List.Destutter

/-!
# Sessions and the duplicate filter

The filter compares a request with the last one executed, so of the packets
delivered it executes those that `destutter` keeps. All of them are executed
exactly when neighbours differ in sequence number or message id: within a
session they always do, at the seam of two sessions they may not.
-/

namespace Daft

open Logic Host

/-- `y` is not taken for a repetition of `x`. -/
def Packet.Distinct (x y : Packet) : Prop := ¬ (y.seq = x.seq ∧ y.msgId = x.msgId)

instance : DecidableRel Packet.Distinct := fun x y =>
  inferInstanceAs (Decidable (¬ (y.seq = x.seq ∧ y.msgId = x.msgId)))

/-- The packet an operation delivers. -/
def Op.delivers : Op → Option Packet
  | .handlePacket r _ => some r
  | _ => none

/-- The filter holds the last request executed. -/
def Machine.Remembers (m : Machine) : List Packet → Prop
  | [] => m.act.lastRequestValid = false
  | r :: _ => m.act.lastRequestValid = true ∧ m.act.lastRequest = r

/-! ## The filter -/

section

variable {b : MotionBackend} {m m' : Machine} {op : Op} {calls : List Call} {r r' : Packet}
  {executed : List Packet}

theorem isDuplicate_iff (remembers : m.Remembers (r :: executed)) :
    m.act.isDuplicate r' = true ↔ ¬ r.Distinct r' := by
  obtain ⟨valid, rfl⟩ := remembers
  simp [RequestCache.isDuplicate, Packet.Distinct, valid]

theorem not_duplicate_of_first (remembers : m.Remembers []) : m.act.isDuplicate r' = false := by
  have first : m.act.lastRequestValid = false := remembers
  simp [RequestCache.isDuplicate, first]

theorem Machine.Remembers.of_cache (remembers : m.Remembers executed)
    (same : m'.act.toRequestCache = m.act.toRequestCache) : m'.Remembers executed := by
  cases executed with
  | nil => exact (congrArg RequestCache.lastRequestValid same).trans remembers
  | cons r executed =>
    exact ⟨(congrArg RequestCache.lastRequestValid same).trans remembers.1,
      (congrArg RequestCache.lastRequest same).trans remembers.2⟩

/-- What is not delivered, or repeats the last request, is not executed. -/
theorem Stepped.passes (stepped : Stepped b m m' op calls) (running : op.restarts = false)
    (repeated : ∀ r, op.delivers = some r → m.act.isDuplicate r = true)
    (remembers : m.Remembers executed) :
    m'.dispatched = m.dispatched ∧ m'.Remembers executed := by
  cases stepped with
  | executed fresh => simp [repeated _ rfl] at fresh
  | repeated _ done => exact ⟨done.dispatched, remembers.of_cache done.requestCache⟩
  | ticked done => exact ⟨done.dispatched, remembers.of_cache done.requestCache⟩
  | begun => cases running
  | framed _ done => exact ⟨done.dispatched, remembers.of_cache done.requestCache⟩
  | reported _ _ done => exact ⟨done.dispatched, remembers.of_cache done.requestCache⟩

theorem Stepped.executes (stepped : Stepped b m m' op calls) (delivers : op.delivers = some r)
    (fresh : m.act.isDuplicate r = false) (executed : List Packet) :
    m'.dispatched = r :: m.dispatched ∧ m'.Remembers (r :: executed) := by
  cases stepped with
  | executed _ done =>
    obtain rfl := Option.some.inj delivers
    exact ⟨done.dispatched, by rw [done.requestCache], by rw [done.requestCache]⟩
  | repeated duplicate =>
    obtain rfl := Option.some.inj delivers
    simp [fresh] at duplicate
  | reported telemetry => cases op <;> simp [Op.isTelemetry, Op.delivers] at telemetry delivers
  | _ => cases delivers

/-- From the last request executed on, the requests executed are those `destutter'`
keeps of the packets delivered. -/
theorem run_executes_after {ops : List Op} (running : ∀ op ∈ ops, op.restarts = false)
    (executes : m.dispatched = r :: executed) (remembers : m.Remembers (r :: executed)) :
    (run (step b) m ops).dispatched.reverse =
      executed.reverse ++ (ops.filterMap Op.delivers).destutter' Packet.Distinct r := by
  induction ops generalizing m r executed with
  | nil => simp [executes]
  | cons op ops ih =>
    obtain ⟨here, later⟩ := List.forall_mem_cons.mp running
    obtain ⟨calls, stepped⟩ := step_stepped b m op
    rw [run_cons]
    cases delivers : op.delivers with
    | none =>
      obtain ⟨same, still⟩ := stepped.passes here (by simp [delivers]) remembers
      rw [List.filterMap_cons_none delivers]
      exact ih later (same.trans executes) still
    | some r' =>
      rw [List.filterMap_cons_some delivers]
      cases duplicate : m.act.isDuplicate r' with
      | true =>
        obtain ⟨same, still⟩ := stepped.passes here (by simp [delivers, duplicate]) remembers
        rw [List.destutter'_cons_neg _ ((isDuplicate_iff remembers).mp duplicate)]
        exact ih later (same.trans executes) still
      | false =>
        obtain ⟨next, now⟩ := stepped.executes delivers duplicate (r :: executed)
        have distinct : r.Distinct r' := Decidable.byContradiction fun repeats => by
          simp [(isDuplicate_iff remembers).mpr repeats] at duplicate
        rw [List.destutter'_cons_pos _ distinct, ih later (next.trans (by rw [executes])) now]
        simp

/-- From a cleared filter on, the requests executed are those `destutter` keeps. -/
theorem run_executes {ops : List Op} (running : ∀ op ∈ ops, op.restarts = false)
    (executes : m.dispatched = []) (remembers : m.Remembers []) :
    (run (step b) m ops).dispatched.reverse =
      (ops.filterMap Op.delivers).destutter Packet.Distinct := by
  induction ops generalizing m with
  | nil => simp [executes]
  | cons op ops ih =>
    obtain ⟨here, later⟩ := List.forall_mem_cons.mp running
    obtain ⟨calls, stepped⟩ := step_stepped b m op
    rw [run_cons]
    cases delivers : op.delivers with
    | none =>
      obtain ⟨same, still⟩ := stepped.passes here (by simp [delivers]) remembers
      rw [List.filterMap_cons_none delivers]
      exact ih later (same.trans executes) still
    | some r' =>
      obtain ⟨next, now⟩ := stepped.executes delivers (not_duplicate_of_first remembers) []
      rw [List.filterMap_cons_some delivers, List.destutter_cons',
        run_executes_after later (next.trans (by rw [executes])) now]
      rfl

end

/-! ## Sessions -/

/-- The seam of two sessions is safe: the later one does not open with the number
and the message the earlier one closed with. -/
def SeamSafe (s s' : List Host.Request) : Prop :=
  ∀ last ∈ s.getLast?, ∀ first ∈ s'.head?, ¬ (65535 ∣ s.length - 1 ∧ first.msg = last.msg)

/-- Within a session neighbours differ in their numbers. -/
theorem issue_isChain (k : Nat) (calls : List Host.Request) :
    ((DaftClient.after k).issue calls).IsChain Packet.Distinct := by
  induction calls generalizing k with
  | nil => exact .nil
  | cons call calls ih =>
    cases calls with
    | nil => exact .singleton _
    | cons next calls =>
      have rest := ih (k + 1)
      simp only [DaftClient.issue, DaftClient.seq_after] at rest ⊢
      refine List.isChain_cons_cons.mpr ⟨fun same => ?_, rest⟩
      have wrapped := seqAt_injective_mod same.1
      omega

theorem seam_iff (s s' : List Host.Request) :
    (∀ x ∈ (DaftClient.issue {} s).getLast?, ∀ y ∈ (DaftClient.issue {} s').head?, x.Distinct y) ↔
      SeamSafe s s' := by
  simp only [DaftClient.issue_eq, List.getLast?_mapIdx, List.head?_mapIdx, Option.mem_def,
    Option.map_eq_some_iff, forall_exists_index, and_imp, forall_apply_eq_imp_iff₂, SeamSafe]
  refine forall₄_congr fun last _ first _ => not_congr (and_congr_left fun _ => ?_)
  constructor
  · intro same
    have wrapped := seqAt_injective_mod same
    omega
  · rintro ⟨rounds, length⟩
    simp [Host.Request.packet, seqAt, length]

/-- The packets of all sessions are told apart exactly when every seam is safe;
sessions without a request do not separate their neighbours. -/
theorem packets_isChain_iff (sessions : List (List Host.Request)) :
    (packets sessions).IsChain Packet.Distinct ↔
      (sessions.filter fun s => !s.isEmpty).IsChain SeamSafe := by
  have nonempty : packets sessions =
      ((sessions.filter fun s => !s.isEmpty).map (DaftClient.issue {})).flatten := by
    induction sessions with
    | nil => rfl
    | cons s sessions ih =>
      cases s with
      | nil => simpa [packets, DaftClient.issue] using ih
      | cons call calls => simpa [packets] using ih
  rw [nonempty, List.isChain_flatten, List.isChain_map]
  · simp only [seam_iff]
    refine and_iff_right fun l member => ?_
    obtain ⟨s, -, rfl⟩ := List.mem_map.mp member
    exact issue_isChain 0 s
  · intro member
    obtain ⟨s, listed, issued⟩ := List.mem_map.mp member
    cases s with
    | nil => simp at listed
    | cons call calls => cases issued

/-! ## Main result -/

/-- Every request of every session is executed, exactly once and in order, if and
only if every seam between sessions is safe. -/
theorem sessions_executed_iff (b : MotionBackend) (build : BuildInfo) (defaults : ActuatorConfig)
    (sessions : List (List Host.Request)) (ops : List Op)
    (running : ∀ op ∈ ops, op.restarts = false)
    (delivered : ops.filterMap Op.delivers = packets sessions) :
    (Machine.boot b build defaults ops).dispatched.reverse = packets sessions ↔
      (sessions.filter fun s => !s.isEmpty).IsChain SeamSafe := by
  obtain ⟨calls, done⟩ := step_begun b (.powerOn build) defaults
  have cleared : (step b (.powerOn build) (.begin defaults)).Remembers [] :=
    congrArg RequestCache.lastRequestValid done.requestCache
  rw [Machine.boot, run_executes running done.dispatched cleared, delivered,
    List.destutter_eq_self_iff, packets_isChain_iff]

/-- A request without a payload. -/
def plainRequest (msg : MsgId) : Host.Request := { msg := msg.byte, fits := by simp }

def deliver (msg : MsgId) (seq : Nat) : Op := .handlePacket ((plainRequest msg).packet seq) none

theorem sessions_executed_ping_first :
    (Machine.boot {} {} {} [deliver .ESTOP 1, .update none, deliver .PING 1,
        deliver .ESTOP 2]).dispatched.reverse =
      packets [[plainRequest .ESTOP], [plainRequest .PING, plainRequest .ESTOP]] := by
  refine (sessions_executed_iff {} {} {} [[plainRequest .ESTOP],
    [plainRequest .PING, plainRequest .ESTOP]] [deliver .ESTOP 1, .update none, deliver .PING 1,
    deliver .ESTOP 2] (by decide) rfl).mpr ?_
  refine List.isChain_cons_cons.mpr ⟨?_, .singleton _⟩
  rintro last ⟨⟩ first ⟨⟩ ⟨-, same⟩
  exact absurd same (by decide)

/-- Two sessions of one `ESTOP` each: the second is answered from the cache. -/
theorem second_session_unexecuted :
    ¬ ∀ (b : MotionBackend) (build : BuildInfo) (defaults : ActuatorConfig)
      (sessions : List (List Host.Request)) (ops : List Op), (∀ op ∈ ops, op.restarts = false) →
      ops.filterMap Op.delivers = packets sessions →
      (Machine.boot b build defaults ops).dispatched.reverse = packets sessions := by
  intro executed
  have both := executed {} {} {} [[plainRequest .ESTOP], [plainRequest .ESTOP]]
    [deliver .ESTOP 1, deliver .ESTOP 1] (by decide) rfl
  exact absurd (congrArg List.length both) (by decide)

end Daft
