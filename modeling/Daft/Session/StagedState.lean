import Daft.Safety.FaultLatch
import Daft.Session.Refusals

/-!
# The state `CONFIG_STAGED`

The state is entered when a field is staged, and left when the configuration is applied or the
actuator does something else. A `CONFIG_RESET_DEFAULTS` drops what was staged, but keeps the
state: from there a `CONFIG_APPLY` has nothing to apply and leads nowhere.
-/

namespace Daft

open Logic

/-- In `CONFIG_STAGED` something is staged. -/
def Control.Stages (c : Control) : Prop := c.state = .CONFIG_STAGED → c.configStaged = true

/-- A `CONFIG_APPLY` acknowledged in `CONFIG_STAGED` leaves the state. -/
def AppliesOut (b : MotionBackend) (m : Machine) : Prop :=
  ∀ (r : Packet) (port : Port), r.msgId = MsgId.CONFIG_APPLY.byte →
    m.act.state = .CONFIG_STAGED → m.Sends .ACK (m.handlePacket b port r) →
    (m.handlePacket b port r).act.state ≠ .CONFIG_STAGED

/-- A `CONFIG_RESET_DEFAULTS` past its guards that succeeds in `CONFIG_STAGED`. -/
inductive DropsStaged (b : MotionBackend) (m : Machine) : Op → Prop where
  | resets {r : Packet} {port : Port} (fresh : m.act.isDuplicate r = false)
      (request : ResetRequest r m.act.toControl)
      (succeeds : ¬ ResetFailing b (m.arrival b) m.act.toControl)
      (state : m.act.state = .CONFIG_STAGED) : DropsStaged b m (.handlePacket r port)

/-- In `CONFIG_STAGED` something is staged, and no acknowledgement of a `CONFIG_APPLY` is kept. -/
structure Machine.Staging (m : Machine) : Prop where
  control : m.act.Stages
  unapplied : m.act.state = .CONFIG_STAGED → m.act.lastRequestValid = true →
    m.act.lastRequest.msgId = MsgId.CONFIG_APPLY.byte →
    ∀ packet ∈ m.act.lastResponses, packet.msgId ≠ MsgId.ACK.byte

/-! ## Requests -/

section

variable {b : MotionBackend} {h : History} {r : Packet} {c c' : Control} {calls : List Call}
  {responses : List Packet}

theorem Control.restState_ne_staged (c : Control) : c.restState ≠ .CONFIG_STAGED := by
  unfold restState
  split <;> decide

theorem Control.withFault_staged {flag : FaultFlag}
    (entered : (c.withFault flag).state = .CONFIG_STAGED) : c.state = .CONFIG_STAGED := by
  unfold withFault at entered
  cases keeps : flag.keepsState with
  | true => simpa [keeps] using entered
  | false => simp [keeps] at entered

/-- A request that ends in `CONFIG_STAGED` stages something, or starts there. -/
theorem Served.stages (served : Served b h r c calls responses c')
    (entered : c'.state = .CONFIG_STAGED) :
    c'.configStaged = true ∨ c.state = .CONFIG_STAGED ∧ (c'.configStaged = c.configStaged ∨
      ResetRequest r c ∧ ¬ ResetFailing b h c) := by
  cases served with
  | staged => exact .inl rfl
  | reset request configuring accepted asked erased =>
    refine .inr ⟨entered, .inr ⟨request, ?_⟩⟩
    rintro (failed | ⟨configuring', failed⟩)
    · exact accepted (configuring.trans failed)
    · rw [configuring', ← configuring, ← asked] at failed
      exact erased failed
  | resetConfigureFailed => cases entered
  | resetStorageFailed => cases entered
  | @enabled mode => cases mode <;> cases entered
  | disabled => cases entered
  | estopped => cases entered
  | ramped => cases entered
  | cleared => exact absurd entered c.restState_ne_staged
  | applied => exact absurd entered c.restState_ne_staged
  | motionStarted request => cases request <;> cases entered
  | _ =>
    first
      | exact .inr ⟨entered, .inl rfl⟩
      | exact .inr ⟨Control.withFault_staged entered, .inl rfl⟩

/-- A `CONFIG_APPLY` that is acknowledged applies what is staged, if anything is. -/
theorem Served.applies_out (served : Served b h r c calls responses c')
    (id : r.msgId = MsgId.CONFIG_APPLY.byte)
    (acked : ∃ packet ∈ responses, packet.msgId = MsgId.ACK.byte) :
    c'.state ≠ .CONFIG_STAGED ∨ c' = c ∧ c.configStaged = false := by
  cases served with
  | applied => exact .inl c.restState_ne_staged
  | nothingStaged _ none => exact .inr ⟨rfl, none⟩
  | refused => exact (not_acked_of_refused acked).elim
  | unsupported => exact (not_acked_of_refused acked).elim
  | applyInvalid => exact (not_acked_of_refused acked).elim
  | applyFailed => exact (not_acked_of_refused acked).elim
  | _ => grind

/-- A reset that succeeds leaves nothing staged, in the state it was sent in. -/
theorem Served.reset_of (served : Served b h r c calls responses c') (request : ResetRequest r c)
    (succeeds : ¬ ResetFailing b h c) : c' = c.reset := by
  cases served with
  | reset => rfl
  | resetConfigureFailed _ asked => exact absurd (.driver asked) succeeds
  | resetStorageFailed _ configuring _ asked => exact absurd (.storage configuring asked) succeeds
  | refused refusal =>
    have still := request.still
    cases refusal <;> grind
  | _ => grind

theorem Ticked.keeps_staged {elapsed : UInt32} (ticked : Ticked b h elapsed c calls c')
    (entered : c'.state = .CONFIG_STAGED) :
    c.state = .CONFIG_STAGED ∧ c'.configStaged = c.configStaged := by
  cases ticked with
  | idle => exact ⟨entered, rfl⟩
  | moving => exact ⟨entered, rfl⟩
  | settled => exact absurd entered c.restState_ne_staged
  | disabled => cases entered
  | ramped => cases entered

end

/-! ## Steps -/

section

variable {b : MotionBackend} {m m' : Machine} {op : Op} {calls : List Call}

theorem Machine.Staging.of_other (other : m.act.state ≠ .CONFIG_STAGED) : m.Staging :=
  ⟨fun state => absurd state other, fun state => absurd state other⟩

theorem Machine.Staging.of_same (staging : m.Staging)
    (control : m'.act.state = .CONFIG_STAGED →
      m.act.state = .CONFIG_STAGED ∧ m'.act.configStaged = m.act.configStaged)
    (cache : m'.act.toRequestCache = m.act.toRequestCache) : m'.Staging where
  control entered := by
    obtain ⟨state, flag⟩ := control entered
    exact flag.trans (staging.control state)
  unapplied entered := by
    have kept := staging.unapplied (control entered).1
    rwa [← congrArg RequestCache.lastRequestValid cache, ← congrArg RequestCache.lastRequest cache,
      ← congrArg RequestCache.lastResponses cache] at kept

/-- A `CONFIG_APPLY` acknowledged where something is staged does not end in `CONFIG_STAGED`. -/
theorem Executed.applies_out {r : Packet} {responses : List Packet}
    (done : Executed b m r calls responses m') (staging : m.act.Stages)
    (id : r.msgId = MsgId.CONFIG_APPLY.byte)
    (acked : ∃ packet ∈ responses, packet.msgId = MsgId.ACK.byte) :
    m'.act.state ≠ .CONFIG_STAGED := by
  rcases done.served.applies_out id acked with left | ⟨same, none⟩
  · exact left
  · intro entered
    rw [same] at entered
    exact absurd (none.symm.trans (staging entered)) (by decide)

theorem step_staging (kept : ¬ DropsStaged b m op) (staging : m.Staging) :
    (step b m op).Staging := by
  obtain ⟨calls, stepped⟩ := step_stepped b m op
  generalize step b m op = m' at *
  cases stepped with
  | executed fresh done =>
    constructor
    · intro entered
      rcases done.served.stages entered with staged | ⟨state, same | ⟨request, succeeds⟩⟩
      · exact staged
      · exact same.trans (staging.control state)
      · exact absurd (.resets fresh request succeeds state) kept
    · rw [done.requestCache]
      intro entered _ id packet member acked
      exact done.applies_out staging.control id ⟨packet, member, acked⟩ entered
  | repeated _ done =>
    refine staging.of_same ?_ done.requestCache
    rw [done.control]
    exact fun entered => ⟨entered, rfl⟩
  | ticked done =>
    obtain ⟨pending, ticked⟩ := done.ticked
    exact staging.of_same ticked.keeps_staged done.requestCache
  | begun done =>
    obtain ⟨-, disabled | faulted⟩ := done.begun.fresh
    · exact .of_other (by rw [disabled]; decide)
    · exact .of_other (by rw [faulted]; decide)
  | framed drops done =>
    refine .of_other ?_
    rw [done.control]
    simp [Control.withFault, drops]
  | reported _ _ done =>
    refine staging.of_same ?_ done.requestCache
    rw [done.control]
    exact fun entered => ⟨entered, rfl⟩

/-- What is replayed in `CONFIG_STAGED` acknowledges no `CONFIG_APPLY`. -/
theorem Machine.Staging.applies_out (staging : m.Staging) : AppliesOut b m := by
  intro r port id state acked
  cases duplicate : m.act.isDuplicate r with
  | false =>
    obtain ⟨calls, responses, done, sends⟩ := handlePacket_sends b port duplicate
    exact done.applies_out staging.control id ((sends .ACK (by decide)).mp acked)
  | true =>
    obtain ⟨valid, -, same⟩ : m.act.lastRequestValid = true ∧ r.seq = m.act.lastRequest.seq ∧
        r.msgId = m.act.lastRequest.msgId := by
      simpa [RequestCache.isDuplicate] using duplicate
    have unapplied := staging.unapplied state valid (same.symm.trans id)
    have handled : m.handlePacket b port r = m.answerDuplicate b port r := by
      simp [Machine.handlePacket, duplicate]
    rw [handled] at acked
    cases repeats : m.act.sameRequest r with
    | true =>
      obtain ⟨new, dropped, replayed, packets⟩ := answerDuplicate_eq (b := b) port repeats
      rw [replayed] at acked
      obtain ⟨new', sent, t, inside, ack⟩ := acked
      obtain rfl : new = new' := List.append_cancel_right sent
      have kept : t.packet ∈ new.map (·.packet) := List.mem_map_of_mem inside
      rw [packets] at kept
      exact absurd ack (unapplied _ (List.mem_reverse.mp kept))
    | false =>
      have refused : Delivers m _ (m.answerDuplicate b port r) := answerDuplicate_refuses repeats
      exact (not_acked_of_refused ((refused.sends_iff (by decide)).mp acked)).elim

theorem DropsStaged.dropped (drops : DropsStaged b m op) : ¬ (step b m op).act.Stages := by
  cases drops with
  | @resets r port fresh request succeeds state =>
    obtain ⟨calls, responses, done⟩ := step_executed (b := b) fresh port
    have reset := done.served.reset_of request succeeds
    intro stages
    rw [reset] at stages
    exact absurd (stages state) (by simp [Control.reset])

end

/-! ## Main result -/

/-- In every run from power on, `CONFIG_STAGED` is a state with something staged that every
acknowledged `CONFIG_APPLY` leaves, exactly when no `CONFIG_RESET_DEFAULTS` succeeds there. -/
theorem staged_state_iff (b : MotionBackend) (build : BuildInfo) (ops : List Op) :
    Along (step b) (fun m op => (step b m op).act.Stages ∧ AppliesOut b (step b m op))
        (.powerOn build) ops ↔
      Along (step b) (fun m op => ¬ DropsStaged b m op) (.powerOn build) ops := by
  have staging : (Machine.powerOn build).Staging :=
    .of_other (by decide : ActuatorState.BOOTING ≠ .CONFIG_STAGED)
  generalize Machine.powerOn build = m at *
  induction ops generalizing m with
  | nil => exact Iff.rfl
  | cons op ops ih =>
    constructor
    · rintro ⟨⟨stages, -⟩, rest⟩
      have kept : ¬ DropsStaged b m op := fun drops => drops.dropped stages
      exact ⟨kept, (ih _ (step_staging kept staging)).mp rest⟩
    · rintro ⟨kept, rest⟩
      have next := step_staging kept staging
      exact ⟨⟨next.control, next.applies_out⟩, (ih _ next).mpr rest⟩

/-- An actuator with a field staged. -/
def stagedOnce : Machine := .boot {} {} {} [.handlePacket stageInterval none]

def resetDefaults : Packet := .request .CONFIG_RESET_DEFAULTS 2 []

/-- A reset in `CONFIG_STAGED` leaves the state with nothing staged. -/
theorem reset_keeps_staged_state :
    ¬ ∀ (b : MotionBackend) (m : Machine), m.Reachable b → m.act.Stages ∧ AppliesOut b m := by
  intro stages
  have reached : (step {} stagedOnce (.handlePacket resetDefaults none)).Reachable {} := by
    refine ⟨{}, {}, [.handlePacket stageInterval none, .handlePacket resetDefaults none], ?_⟩
    simp only [stagedOnce, Machine.boot, run_cons, run_nil]
  have drops : DropsStaged {} stagedOnce (.handlePacket resetDefaults none) :=
    .resets (by decide) ⟨⟨rfl, rfl⟩, by decide⟩ (by rintro (failed | ⟨-, failed⟩) <;> cases failed)
      (by decide)
  obtain ⟨kept, -⟩ := stages {} _ reached
  exact drops.dropped kept

end Daft
