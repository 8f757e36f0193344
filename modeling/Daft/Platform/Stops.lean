import Daft.Platform.Link
import Daft.Safety.DriverOutputs
import Daft.Session.Traces

/-!
# Stops that return

When `estop()` or `set_mode(DISABLED)` returns on the host, the driver is off on the
board, and it stays off until the host asks for a mode: no request that is still on the
line, no tick and no restart switches it on or moves the motor.
-/

namespace Daft

open Logic Host

/-! ## Requests that stop and requests that enable -/

/-- The request switches the driver off. -/
inductive Packet.Stops (r : Packet) : Prop where
  | estop (asks : r.Asks .ESTOP)
  | disable (asks : r.Asks .SET_CONTROL_MODE) (mode : ControlMode.ofByte r.payload[0] = .DISABLED)

/-- The request may switch the driver on. -/
structure Packet.Enables (r : Packet) : Prop where
  id : r.msgId = MsgId.SET_CONTROL_MODE.byte
  mode : ControlMode.ofByte r.payload[0] ≠ .DISABLED

/-- One of the packets acknowledges. -/
def Acknowledged (packets : List Packet) : Prop := ∃ packet ∈ packets, packet.msgId = MsgId.ACK.byte

/-- The driver is off, and the actuator knows. -/
structure Machine.Quelled (m : Machine) : Prop where
  disabled : m.act.driverEnabled = false
  off : outputsOn m.calls = false

section

variable {b : MotionBackend} {h : History} {r : Packet} {c c' : Control} {calls : List Call}
  {responses : List Packet}

theorem Packet.Stops.not_enables (stops : r.Stops) : ¬ r.Enables := by
  rintro ⟨id, mode⟩
  cases stops with
  | estop asks => exact absurd (MsgId.byte_injective (asks.id.symm.trans id)) (by decide)
  | disable _ disabled => exact mode disabled

theorem not_acknowledged (code : ErrorCode) : ¬ Acknowledged [errorPacket r.seq r.msgId code] := by
  rintro ⟨packet, member, id⟩
  rw [List.mem_singleton.mp member] at id
  have other : MsgId.ERROR.byte ≠ MsgId.ACK.byte := by decide
  exact other id

/-- A stop that is acknowledged has been carried out. -/
theorem Served.stopped (served : Served b h r c calls responses c') (past : History)
    (wired : b.enableDriver.isSome = true) (stops : r.Stops) (acked : Acknowledged responses) :
    c'.driverEnabled = false ∧ outputsOn (calls ++ past) = false := by
  have asks : r.msgId = MsgId.ESTOP.byte ∨ r.msgId = MsgId.SET_CONTROL_MODE.byte := by
    cases stops with
    | estop asks => exact .inl asks.id
    | disable asks => exact .inr asks.id
  cases served with
  | disabled request asked =>
    exact ⟨rfl, outputsOn_disabled (by rw [asked, Option.isSome_map, wired])⟩
  | estopped _ _ asked =>
    rw [List.append_assoc]
    exact ⟨rfl, outputsOn_disabled (by rw [asked, Option.isSome_map, wired])⟩
  | enabled request enabling =>
    exact absurd ⟨request.asks.id, request.requested ▸ enabling⟩ stops.not_enables
  | refused => exact absurd acked (not_acknowledged _)
  | _ => first | exact absurd acked (not_acknowledged _) | grind

/-- Without an enabling mode the driver stays off and nothing moves. -/
theorem Served.stays_off (served : Served b h r c calls responses c')
    (off : c.driverEnabled = false) (unasked : ¬ r.Enables) :
    c'.driverEnabled = false ∧ ∀ call ∈ calls, call.energises = false := by
  have idle : ∀ call ∈ calls, call.energises = false := by
    rcases served.energised with idle | ⟨mode, enabling, request, -⟩ | ⟨_, _, _, request, -⟩
    · exact idle
    · exact absurd ⟨request.asks.id, request.requested ▸ enabling⟩ unasked
    · rw [request.enabled] at off
      cases off
  refine ⟨?_, idle⟩
  cases served with
  | enabled request enabling =>
    exact absurd ⟨request.asks.id, request.requested ▸ enabling⟩ unasked
  | _ => first | exact off | rfl

theorem Ticked.stays_off {elapsed : UInt32} (ticked : Ticked b h elapsed c calls c')
    (off : c.driverEnabled = false) : c'.driverEnabled = false := by
  cases ticked <;> first | exact off | rfl

end

/-! ## Steps -/

section

variable {b : MotionBackend} {m m' : Machine} {op : Op} {r : Packet} {calls : List Call}

/-- Nothing in between energises. -/
abbrev Idled (h h' : History) : Prop := Since (fun call _ => call.energises = false) h h'

theorem idled_of_adds (adds : Adds Call.notable m.calls calls m'.calls)
    (idle : ∀ call ∈ calls, call.energises = false) : Idled m.calls m'.calls := by
  have absent := adds.since_of_absent (P := fun _ _ => False) Call.notable_of_energises idle
  exact absent.mono fun call _ never => eq_false_of_ne_true never

theorem Machine.Quelled.keep (quelled : m.Quelled) (adds : Adds Call.notable m.calls calls m'.calls)
    (idle : ∀ call ∈ calls, call.energises = false) (disabled : m'.act.driverEnabled = false) :
    m'.Quelled := by
  refine ⟨disabled, ?_⟩
  rw [outputsOn_adds adds]
  exact outputsOff_idle idle quelled.off

theorem step_quelled (quelled : m.Quelled)
    (unasked : ∀ r port, op = .handlePacket r port → ¬ r.Enables) :
    (step b m op).Quelled ∧ Idled m.calls (step b m op).calls := by
  obtain ⟨calls, stepped⟩ := step_stepped b m op
  have ended : (∀ call ∈ calls, call.energises = false) ∧
      (step b m op).act.driverEnabled = false := by
    cases stepped with
    | executed _ done => exact (done.served.stays_off quelled.disabled (unasked _ _ rfl)).symm
    | repeated _ done =>
      exact ⟨by simp, (congrArg Control.driverEnabled done.control).trans quelled.disabled⟩
    | ticked done =>
      obtain ⟨pending, ticked⟩ := done.ticked
      exact ⟨ticked.energises_nothing, ticked.stays_off quelled.disabled⟩
    | begun done => exact ⟨done.begun.energises_nothing, done.begun.fresh.1.disabled⟩
    | framed _ done =>
      exact ⟨by simp, (congrArg Control.driverEnabled done.control).trans quelled.disabled⟩
    | reported _ reads done =>
      exact ⟨reads.all fun _ => rfl,
        (congrArg Control.driverEnabled done.control).trans quelled.disabled⟩
  exact ⟨quelled.keep stepped.calls ended.1 ended.2, idled_of_adds stepped.calls ended.1⟩

/-! ## Repeated stops -/

/-- A stop in the duplicate filter that was acknowledged still holds. -/
def Machine.StopsKept (m : Machine) : Prop :=
  m.act.lastRequestValid = true → m.act.lastRequest.Stops → Acknowledged m.act.lastResponses →
    m.Quelled

theorem Executed.stopped {responses : List Packet} (done : Executed b m r calls responses m')
    (wired : b.enableDriver.isSome = true) (stops : r.Stops) (acked : Acknowledged responses) :
    m'.Quelled := by
  obtain ⟨disabled, off⟩ := done.served.stopped m.calls wired stops acked
  exact ⟨disabled, by rw [outputsOn_adds done.calls, off]⟩

theorem Machine.StopsKept.of_cache (kept : m.StopsKept)
    (same : m'.act.toRequestCache = m.act.toRequestCache) (quelled : m.Quelled → m'.Quelled) :
    m'.StopsKept := by
  unfold Machine.StopsKept
  rw [same]
  exact fun valid stops acked => quelled (kept valid stops acked)

theorem step_stopsKept (wired : b.enableDriver.isSome = true) (op : Op) (kept : m.StopsKept) :
    (step b m op).StopsKept := by
  have other : (∀ r port, op ≠ .handlePacket r port) → m.Quelled → (step b m op).Quelled :=
    fun own quelled => (step_quelled quelled fun r port is => absurd is (own r port)).1
  obtain ⟨calls, stepped⟩ := step_stepped b m op
  cases stepped with
  | executed _ done =>
    unfold Machine.StopsKept
    rw [done.requestCache]
    exact fun _ stops acked => done.stopped wired stops acked
  | repeated _ done =>
    refine kept.of_cache done.requestCache fun quelled => quelled.keep done.calls (by simp) ?_
    exact (congrArg Control.driverEnabled done.control).trans quelled.disabled
  | ticked done => exact kept.of_cache done.requestCache (other (by simp))
  | begun done =>
    intro valid
    have cleared := congrArg RequestCache.lastRequestValid done.requestCache
    exact absurd (valid.symm.trans cleared) (by simp)
  | framed _ done => exact kept.of_cache done.requestCache (other (by simp))
  | reported telemetry _ done =>
    refine kept.of_cache done.requestCache (other ?_)
    rintro r port rfl
    cases telemetry

theorem Machine.Reachable.stopsKept (reachable : m.Reachable b)
    (wired : b.enableDriver.isSome = true) : m.StopsKept := by
  obtain ⟨build, defaults, ops, rfl⟩ := reachable
  have started : (step b (.powerOn build) (.begin defaults)).StopsKept :=
    step_stopsKept wired _ fun valid => by cases valid
  exact run_invariant (fun m op => step_stopsKept wired op) started ops

/-- The first byte of a payload that is one byte long. -/
theorem Packet.bytes_one (single : r.payloadLen = 1) : r.bytes = [r.payload[0]] := by
  have length : r.payload.toList.length = maxPayloadSize := Vector.length_toList
  rw [Packet.bytes, single]
  show r.payload.toList.take 1 = _
  rw [List.take_one, List.head?_eq_getElem?, List.getElem?_eq_getElem (by rw [length]; decide)]
  rfl

/-- The same request stops as well. -/
theorem RequestCache.stops_of_same {cache : RequestCache} (same : cache.sameRequest r = true)
    (stops : r.Stops) : cache.lastRequestValid = true ∧ cache.lastRequest.Stops := by
  unfold sameRequest at same
  split at same
  · cases same
  next alike =>
    simp only [not_or, Decidable.not_not] at alike
    obtain ⟨valid, id, -, -, length⟩ := alike
    have asks : ∀ {msg : MsgId}, r.Asks msg → cache.lastRequest.Asks msg := fun asks =>
      ⟨id ▸ asks.id, length ▸ asks.length⟩
    refine ⟨by simpa using valid, ?_⟩
    cases stops with
    | estop estop => exact .estop (asks estop)
    | disable disable mode =>
      have single : r.payloadLen = 1 := (Option.some.inj disable.length).symm
      have bytes : r.bytes = cache.lastRequest.bytes := by
        rcases of_decide_eq_true same with empty | bytes
        · rw [single] at empty
          exact absurd empty (by decide)
        · exact bytes
      rw [Packet.bytes_one single, Packet.bytes_one (length ▸ single)] at bytes
      exact .disable (asks disable) ((List.singleton_inj.mp bytes) ▸ mode)

/-- Where a stop is answered with an acknowledgement the driver is off. -/
theorem handlePacket_stopped (replayable : m.Replayable) (kept : m.StopsKept)
    (wired : b.enableDriver.isSome = true) (stops : r.Stops) {port : Port}
    (acked : Acknowledged
      ((newPackets m (step b m (.handlePacket r port))).filter Packet.answers)) :
    (step b m (.handlePacket r port)).Quelled := by
  cases duplicate : m.act.isDuplicate r with
  | false =>
    have handled : Replies r m (m.handlePacket b port r) := handlePacket_replies duplicate
    obtain ⟨replies, hands, -⟩ := handled
    obtain ⟨calls, responses, done⟩ := step_executed (b := b) duplicate port
    have sent : (newPackets m (step b m (.handlePacket r port))).filter Packet.answers = replies :=
      hands.delivers.newPackets.1
    obtain ⟨packet, member, id⟩ := acked
    rw [sent, ← (hands.cached done.sent).1] at member
    exact done.stopped wired stops ⟨packet, (List.mem_filter.mp member).1, id⟩
  | true =>
    have handled : step b m (.handlePacket r port) = m.answerDuplicate b port r := by
      simp [step, Machine.handlePacket, duplicate]
    rw [handled] at acked
    cases same : m.act.sameRequest r with
    | false =>
      have refuses : Delivers m _ (m.answerDuplicate b port r) := answerDuplicate_refuses same
      rw [refuses.newPackets.1] at acked
      exact absurd acked (not_acknowledged _)
    | true =>
      obtain ⟨valid, stopped⟩ := RequestCache.stops_of_same same stops
      have replays : Delivers m _ (m.answerDuplicate b port r) :=
        answerDuplicate_delivers (replayable valid) same
      rw [replays.newPackets.1] at acked
      obtain ⟨packet, member, id⟩ := acked
      have quelled := kept valid stopped ⟨packet, (List.mem_filter.mp member).1, id⟩
      exact (step_quelled quelled fun _ _ is => by cases is; exact stops.not_enables).1

end

/-! ## Calls -/

/-- `estop()` and `set_mode(ControlMode.DISABLED)`. -/
def Host.ClientCall.stops : ClientCall → Bool
  | .of .estop => true
  | .of (.setMode mode) => mode = 0
  | _ => false

/-- `set_mode` of any other mode. -/
def Host.ClientCall.enables : ClientCall → Bool
  | .of (.setMode mode) => mode ≠ 0
  | _ => false

section

variable {b : MotionBackend} {call : ClientCall} {request : Request} {seq : ℕ} {m : Machine}
  {trace : Trace} {replies : List Packet} {value : Value}

theorem Host.ClientCall.request_setMode
    (writes : ClientCall.request (.of (.setMode 0)) = some request) :
    request = { msg := MsgId.SET_CONTROL_MODE.byte, payload := [0], fits := by decide } :=
  (Option.some.inj writes).symm

theorem Host.ClientCall.stops_request (writes : call.request = some request)
    (stops : call.stops = true) : (request.packet seq).Stops := by
  unfold ClientCall.stops at stops
  split at stops
  · obtain rfl : _ = request := Option.some.inj writes
    exact .estop ⟨rfl, rfl⟩
  next mode =>
    obtain rfl : mode = 0 := of_decide_eq_true stops
    obtain rfl := request_setMode writes
    exact .disable ⟨rfl, rfl⟩ rfl
  · cases stops

theorem Host.ClientCall.unasked_request (writes : call.request = some request)
    (unasked : call.enables = false) : ¬ (request.packet seq).Enables := by
  rintro ⟨id, mode⟩
  have msg : call.msg = .SET_CONTROL_MODE := by
    have same : request.msg = MsgId.SET_CONTROL_MODE.byte := id
    rw [ClientCall.request_msg writes] at same
    exact MsgId.byte_injective same
  obtain ⟨requested, rfl⟩ : ∃ requested, call = .of (.setMode requested) := by
    rcases call with _ | method
    · cases msg
    · cases method <;> first | exact ⟨_, rfl⟩ | cases msg
  have disabled : requested = 0 := by simpa [ClientCall.enables] using unasked
  subst disabled
  obtain rfl := request_setMode writes
  exact mode rfl

/-- A stop that returned was acknowledged. -/
theorem Fulfils.acknowledged (fulfils : Fulfils call replies (.returned value))
    (stops : call.stops = true) : Acknowledged replies := by
  cases fulfils with
  | ponged ping =>
    subst ping
    cases stops
  | @parsed method packet _ is id =>
    subst is
    refine ⟨packet, List.mem_singleton_self packet, ?_⟩
    cases method <;> first | exact id | cases stops

/-! ## Sessions -/

theorem Trace.run_quelled (quelled : m.Quelled)
    (unasked : ∀ entry ∈ trace, ∀ r port, entry.2 = .handlePacket r port → ¬ r.Enables) :
    (trace.run b m).Quelled ∧ Idled m.calls (trace.run b m).calls := by
  induction trace generalizing m with
  | nil => exact ⟨quelled, .refl⟩
  | cons entry trace ih =>
    obtain ⟨here, later⟩ := List.forall_mem_cons.mp unasked
    obtain ⟨quelled, idled⟩ := step_quelled (b := b) quelled here
    obtain ⟨after, more⟩ := ih quelled later
    exact ⟨after, idled.trans more⟩

/-- After a stop that returned the driver is off until the host asks for a mode. -/
theorem System.stays_stopped {late : Late} {s s' : System} {n : ℕ} (reachable : m.Reachable b)
    (wired : b.enableDriver.isSome = true)
    (run : Relation.ReflTransGen (System.Step b late) (.start m) s)
    (on : Relation.ReflTransGen (System.Step b late) s s')
    (returned : (n, .returned value) ∈ s.finished) (made : s.calls[n]? = some call)
    (stops : call.stops = true)
    (unasked : ∀ k later, n < k → s'.calls[k]? = some later → later.enables = false) :
    s'.machine.Quelled ∧ Idled s.machine.calls s'.machine.calls := by
  obtain ⟨consistent, trace, traced⟩ := System.run_traced reachable.replayable run
  obtain ⟨consistent', more, traced'⟩ := traced.run consistent on
  obtain ⟨before, r, after, call', replies, split, requests, made', fulfils, sent⟩ :=
    traced.returned consistent.recorded returned
  obtain rfl : call' = call := Option.some.inj (made'.symm.trans made)
  obtain ⟨called, request, made'', writes, rfl⟩ := requests
  obtain rfl : called = call' := Option.some.inj (made''.symm.trans made)
  have quelled : (Daft.step b (before.run b m)
      (.handlePacket (request.packet (seqAt n)) openPort)).Quelled := by
    refine handlePacket_stopped ?_ ?_ wired (ClientCall.stops_request writes stops) ?_
    · exact run_invariant (fun m op => step_replayable op) reachable.replayable _
    · exact run_invariant (fun m op => step_stopsKept wired op) (reachable.stopsKept wired) _
    · exact sent ▸ fulfils.acknowledged stops
  have split' : trace ++ more =
      before ++ (some n, .handlePacket (request.packet (seqAt n)) openPort) :: (after ++ more) := by
    rw [split]
    simp
  have quiet : ∀ entry ∈ after ++ more, ∀ r port, entry.2 = .handlePacket r port → ¬ r.Enables := by
    rintro ⟨_ | k, op⟩ member r port is
    · have inside : (none, op) ∈ trace ++ more := by simp_all
      exact absurd is (traced'.own op inside r port)
    · have inside : (some k, op) ∈ trace ++ more := by simp_all
      obtain ⟨r', rfl, asked, request', made', writes', rfl⟩ := traced'.served k op inside
      obtain ⟨rfl, -⟩ := Op.handlePacket.inj is
      have after_n := traced'.later consistent'.ordered split' k _ member
      exact ClientCall.unasked_request writes' (unasked k asked after_n made')
  obtain ⟨unasked_after, unasked_more⟩ := List.forall_mem_append.mp quiet
  have now : s.machine.Quelled := by
    rw [traced.machine, split, Trace.run_append]
    exact (Trace.run_quelled quelled unasked_after).1
  have later : s'.machine = more.run b s.machine := by
    rw [traced'.machine, Trace.run_append, ← traced.machine]
  rw [later]
  exact Trace.run_quelled now unasked_more

end

/-! ## Main result -/

/-- A driver that can be switched, and nothing else. -/
def switchedBackend : MotionBackend := { enableDriver := some fun _ _ => true }

/-- A pass of `loop()` with the frame of a `ping` waiting, and one with nothing. -/
def pingPasses : List (List UInt8) := [[3, 2, 1, 2, 1, 1, 1, 3, 0x39, 0xA2, 0], []]

/-- A board that has served a `ping` before, with its driver switched on by a `set_mode` that
returned. -/
def switchedOn : Link :=
  (Link.start (Board.after switchedBackend steadyPort {} pingPasses)).exchange switchedBackend
    steadyPort 6 (.of (.setMode 2))
    { msg := MsgId.SET_CONTROL_MODE.byte, payload := [2], fits := by decide }

/-- Then an `estop` that returned. -/
def stopReturned : Link :=
  switchedOn.exchange switchedBackend steadyPort 6 (.of .estop)
    { msg := MsgId.ESTOP.byte, fits := Nat.zero_le _ }

/-- Then a `move_abs`. -/
def movedAfter : Link :=
  stopReturned.exchange switchedBackend steadyPort 6 (.of (.moveAbs 100 500 500))
    { msg := MsgId.MOVE_ABS.byte, payload := writeI32 100 ++ writeU32 500 ++ writeU32 500
      fits := by decide }

end Daft
