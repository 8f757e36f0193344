import Daft.Safety.FaultLatch

/-!
# Emergency stop

The duplicate filter runs before the switch, so an `ESTOP` may be answered
without being executed. It does no harm as long as the last request executed
was a well-formed `ESTOP` itself: then the motor is already stopped, and only
another request could have started it again.
-/

namespace Daft

open Logic

/-- The calls whose order decides whether the motor is stopped. -/
def Call.movesOrStops (call : Call) : Bool := call.isMove || call = .emergencyStop

theorem Call.notable_of_movesOrStops (call : Call) (relevant : call.movesOrStops = true) :
    call.notable = true := by
  cases call <;> first | rfl | cases relevant

/-- `emergency_stop` was called, and no motion command since. -/
def StoppedLast (h : History) : Prop := h.find? Call.movesOrStops = some .emergencyStop

/-- Without a further motion command the motor stays stopped. -/
theorem StoppedLast.after {h h' : History} {calls : List Call} (stopped : StoppedLast h)
    (adds : Adds Call.notable h calls h') (still : ∀ call ∈ calls, call.isMove = false) :
    StoppedLast h' := by
  rw [StoppedLast, adds.find? Call.notable_of_movesOrStops, List.find?_append]
  cases found : calls.find? Call.movesOrStops with
  | none => exact stopped
  | some call =>
    have relevant := List.find?_some found
    have rest := still call (List.mem_of_find?_eq_some found)
    simpa [Call.movesOrStops, rest] using relevant

/-- The last request being a well-formed `ESTOP`, the motor is stopped. -/
structure EstopServed (b : MotionBackend) (m : Machine) : Prop where
  disabled : m.act.driverEnabled = false
  stopped : b.emergencyStop.isSome = true → StoppedLast m.calls

/-- The invariant of the duplicate filter. -/
def FilterSafe (b : MotionBackend) (m : Machine) : Prop :=
  m.act.lastRequestValid = true → m.act.lastRequest.msgId = MsgId.ESTOP.byte →
    m.act.lastRequest.payloadLen = 0 → EstopServed b m

theorem Packet.asks_estop {r : Packet} (id : r.msgId = MsgId.ESTOP.byte) (empty : r.payloadLen = 0) :
    r.Asks .ESTOP :=
  ⟨id, by rw [empty]; rfl⟩

section

variable {b : MotionBackend} {m m' : Machine}

/-- Executing a well-formed `ESTOP` stops the motor, whatever came before. -/
theorem Executed.estop_served {r : Packet} {calls : List Call} {responses : List Packet}
    (done : Executed b m r calls responses m') (asks : r.Asks .ESTOP) : EstopServed b m' := by
  obtain ⟨control, answer, called⟩ := done.served.estopped_of asks
  constructor
  · rw [control]
    rfl
  · intro wired
    rw [StoppedLast, done.calls.find? Call.notable_of_movesOrStops, called, logged_wired wired]
    cases answer <;> rfl

theorem EstopServed.after {calls : List Call} (served : EstopServed b m)
    (adds : Adds Call.notable m.calls calls m'.calls)
    (disabled : m'.act.driverEnabled = false) (still : ∀ call ∈ calls, call.isMove = false) :
    EstopServed b m' :=
  ⟨disabled, fun wired => (served.stopped wired).after adds still⟩

/-- No tick switches the driver on. -/
theorem Ticked.keeps_disabled {h : History} {elapsed : UInt32} {c c' : Control} {calls : List Call}
    (ticked : Ticked b h elapsed c calls c') (disabled : c.driverEnabled = false) :
    c'.driverEnabled = false := by
  cases ticked <;> first | exact disabled | rfl

/-- A step that keeps the last request has to keep what it stopped. -/
theorem FilterSafe.keep (safe : FilterSafe b m)
    (same : m'.act.toRequestCache = m.act.toRequestCache)
    (after : EstopServed b m → EstopServed b m') : FilterSafe b m' := by
  intro valid id empty
  rw [same] at valid id empty
  exact after (safe valid id empty)

theorem Stepped.filterSafe {op : Op} {calls : List Call} (stepped : Stepped b m m' op calls)
    (safe : FilterSafe b m) : FilterSafe b m' := by
  cases stepped with
  | executed _ done =>
    intro _ id empty
    rw [done.requestCache] at id empty
    exact done.estop_served (Packet.asks_estop id empty)
  | repeated _ done =>
    apply safe.keep done.requestCache
    intro served
    exact served.after done.calls (by rw [done.control]; exact served.disabled) (by simp)
  | ticked done =>
    apply safe.keep done.requestCache
    intro served
    obtain ⟨pending, ticked⟩ := done.ticked
    exact served.after (done.clock.after_quiet done.calls) (ticked.keeps_disabled served.disabled)
      (not_moves_of_idle ticked.energises_nothing)
  | begun done =>
    intro valid
    rw [done.requestCache] at valid
    cases valid
  | framed _ done =>
    apply safe.keep done.requestCache
    intro served
    exact served.after done.calls (by rw [done.control]; exact served.disabled) (by simp)
  | reported _ reads done =>
    apply safe.keep done.requestCache
    intro served
    exact served.after done.calls (by rw [done.control]; exact served.disabled)
      (reads.all fun _ => rfl)

theorem Machine.Reachable.filterSafe (reachable : m.Reachable b) : FilterSafe b m := by
  obtain ⟨build, defaults, ops, rfl⟩ := reachable
  have started : FilterSafe b (step b (.powerOn build) (.begin defaults)) := by
    obtain ⟨calls, stepped⟩ := step_stepped b (.powerOn build) (.begin defaults)
    exact stepped.filterSafe nofun
  refine run_invariant (fun m op safe => ?_) started ops
  obtain ⟨calls, stepped⟩ := step_stepped b m op
  exact stepped.filterSafe safe

end

/-- After a well-formed `ESTOP` the driver is off and, where there is an
`emergency_stop`, it was called after every motion command; unless the last
request executed was a malformed `ESTOP` with the same sequence number. -/
theorem estop_stops (b : MotionBackend) (m : Machine) (r : Packet) (port : Port)
    (reachable : m.Reachable b) (estop : r.msgId = MsgId.ESTOP.byte) (empty : r.payloadLen = 0)
    (unmatched : ¬ (m.act.lastRequestValid = true ∧ m.act.lastRequest.msgId = MsgId.ESTOP.byte ∧
      m.act.lastRequest.seq = r.seq ∧ m.act.lastRequest.payloadLen ≠ 0)) :
    (step b m (.handlePacket r port)).act.driverEnabled = false ∧
      (b.emergencyStop.isSome = true → StoppedLast (step b m (.handlePacket r port)).calls) := by
  have safe := reachable.filterSafe
  have served : EstopServed b (step b m (.handlePacket r port)) := by
    cases duplicate : m.act.isDuplicate r with
    | false =>
      obtain ⟨calls, responses, done⟩ := step_executed (b := b) duplicate port
      exact done.estop_served (Packet.asks_estop estop empty)
    | true =>
      have done := step_repeated (b := b) duplicate port
      obtain ⟨valid, seq, id⟩ : m.act.lastRequestValid = true ∧ r.seq = m.act.lastRequest.seq ∧
          r.msgId = m.act.lastRequest.msgId := by
        simpa [RequestCache.isDuplicate, and_assoc] using duplicate
      have last : m.act.lastRequest.payloadLen = 0 :=
        Decidable.byContradiction fun payload =>
          unmatched ⟨valid, id.symm.trans estop, seq.symm, payload⟩
      have before := safe valid (id.symm.trans estop) last
      exact before.after done.calls (by rw [done.control]; exact before.disabled) (by simp)
  exact ⟨served.disabled, served.stopped⟩

/-- A backend with a driver and an emergency stop. -/
def stoppableDriver : MotionBackend := { enableDriver := some fun _ _ => true, emergencyStop := some () }

/-- `SET_CONTROL_MODE POSITION`, then an `ESTOP` with a stray payload byte. -/
def enabledThenMalformed : Machine :=
  .boot stoppableDriver {} {} [.handlePacket (.request .SET_CONTROL_MODE 1 [1]) none,
    .handlePacket (.request .ESTOP 2 [0]) none]

theorem estop_stops_next_seq :
    (step stoppableDriver enabledThenMalformed
        (.handlePacket (.request .ESTOP 3 []) none)).act.driverEnabled = false ∧
      (stoppableDriver.emergencyStop.isSome = true → StoppedLast (step stoppableDriver
        enabledThenMalformed (.handlePacket (.request .ESTOP 3 []) none)).calls) :=
  estop_stops stoppableDriver enabledThenMalformed (.request .ESTOP 3 []) none
    ⟨{}, {}, _, rfl⟩ rfl rfl (by decide)

/-- A well-formed `ESTOP` with the sequence number of a malformed one is rejected
with the driver still on. -/
theorem estop_refused_after_malformed :
    ¬ ∀ (b : MotionBackend) (m : Machine) (r : Packet) (port : Port), m.Reachable b →
      b.emergencyStop.isSome = true → r.msgId = MsgId.ESTOP.byte → r.payloadLen = 0 →
      (step b m (.handlePacket r port)).act.driverEnabled = false ∧
        StoppedLast (step b m (.handlePacket r port)).calls := by
  intro stops
  have stopped := stops stoppableDriver enabledThenMalformed (.request .ESTOP 2 []) none
    ⟨{}, {}, _, rfl⟩ rfl rfl rfl
  exact absurd stopped.1 (by decide)

end Daft
