import Daft.Platform.Writing
import Daft.Safety.Watchdog
import Mathlib.Algebra.GroupWithZero.Nat

/-!
# Telemetry of a board

`loop` polls for telemetry once a pass. The packets sent are numbered like the requests of
a client session, and over a clock that does not go back none is sent before its interval
is over. Requests and ticks neither send telemetry nor note the time of it.
-/

namespace Daft

open Logic Host

/-- A packet of the telemetry stream. -/
def Packet.isTelemetry (packet : Packet) : Bool :=
  packet.msgId = MsgId.STATUS.byte ∧ packet.flags &&& PacketFlag.TELEMETRY.bits ≠ 0

/-- The numbers of the telemetry packets, oldest first. -/
def telemetrySeqs (sent : List Transmission) : List UInt16 :=
  ((sent.reverse.map (·.packet)).filter Packet.isTelemetry).map (·.seq)

/-- The intervals in force where telemetry was due, oldest first. -/
def Board.intervals (b : MotionBackend) (serial : SerialPort) :
    Board → List (List UInt8) → List UInt16
  | _, [] => []
  | board, bytes :: passes =>
    let polled := ((board.serviceSerial b serial bytes).tick b serial).actuator
    (if (polled.shouldSendTelemetry b).1 then [polled.act.activeConfig.telemetry.intervalMs]
      else []) ++ intervals b serial (board.loop b serial bytes) passes

/-- A packet of the telemetry stream: the interval in force when it was due, and the time
`mark_telemetry_sent` noted for it. -/
structure Sending where
  interval : UInt16
  time : Nat

/-- The interval in force was over since the last one. -/
def Sending.Follows (last next : Sending) : Prop := last.time + next.interval.toNat ≤ next.time

/-- The telemetry sent, oldest first. -/
def Board.sendings {b : MotionBackend} (clock : MonotonicClock b) (serial : SerialPort) :
    Board → List (List UInt8) → List Sending
  | _, [] => []
  | board, bytes :: passes =>
    let ticked := (board.serviceSerial b serial bytes).tick b serial
    let polled := ticked.actuator.shouldSendTelemetry b
    (if polled.1 then
      [⟨ticked.actuator.act.activeConfig.telemetry.intervalMs,
        clock.time (polled.2.sendStatus b (.port (serialWriter serial)) ticked.deviceSeq true).calls⟩]
      else []) ++ sendings clock serial (board.loop b serial bytes) passes

/-! ## Without telemetry -/

section

variable {b : MotionBackend} {m m' m'' : Machine} {r : Packet} {replies : List Packet}

theorem telemetrySeqs_append {new sent : List Transmission}
    (silent : ∀ t ∈ new, t.packet.isTelemetry = false) :
    telemetrySeqs (new ++ sent) = telemetrySeqs sent := by
  have none : (new.reverse.map (·.packet)).filter Packet.isTelemetry = [] := by
    rw [List.filter_eq_nil_iff]
    intro packet member
    obtain ⟨t, listed, rfl⟩ := List.mem_map.mp member
    simp [silent t (List.mem_reverse.mp listed)]
  rw [telemetrySeqs, List.reverse_append, List.map_append, List.filter_append, none,
    List.append_nil, telemetrySeqs]

theorem Packet.not_telemetry_of_flags {packet : Packet}
    (flags : packet.flags &&& PacketFlag.TELEMETRY.bits = 0) : packet.isTelemetry = false := by
  simp [isTelemetry, flags]

theorem Packet.not_telemetry_of_event {packet : Packet} (event : packet.answers = false) :
    packet.isTelemetry = false := by
  have id : packet.msgId = MsgId.EVENT.byte := by simpa [Packet.answers] using event
  simp [isTelemetry, id, MsgId.byte]

/-- An answer carries other flags. -/
theorem Reply.not_telemetry (reply : Reply r replies) :
    ∀ packet ∈ replies, packet.isTelemetry = false := by
  have responds : PacketFlag.RESPONSE.bits &&& PacketFlag.TELEMETRY.bits = 0 := by decide
  cases reply with
  | refused code =>
    exact List.forall_mem_singleton.mpr (Packet.not_telemetry_of_flags
      (by decide : (PacketFlag.RESPONSE.bits ||| PacketFlag.ERROR.bits) &&&
        PacketFlag.TELEMETRY.bits = 0))
  | responded _ _ answered =>
    exact List.forall_mem_singleton.mpr
      (Packet.not_telemetry_of_flags (answered.flags ▸ responds))
  | ponged _ answered =>
    exact List.forall_mem_cons.mpr ⟨Packet.not_telemetry_of_flags responds,
      List.forall_mem_singleton.mpr (Packet.not_telemetry_of_flags (answered.flags ▸ responds))⟩

theorem Delivers.telemetrySeqs (delivers : Delivers m replies m')
    (silent : ∀ packet ∈ replies, packet.isTelemetry = false) :
    telemetrySeqs m'.sent = telemetrySeqs m.sent := by
  obtain ⟨new, sent, filtered, -⟩ := delivers
  rw [sent]
  apply telemetrySeqs_append
  intro t member
  cases kind : t.packet.answers with
  | false => exact Packet.not_telemetry_of_event kind
  | true =>
    apply silent
    rw [← List.mem_reverse, ← filtered]
    exact List.mem_filter.mpr ⟨List.mem_map_of_mem member, kind⟩

/-- A stretch in which no telemetry is sent or noted. -/
structure Unpolled (m m' : Machine) : Prop where
  numbers : telemetrySeqs m'.sent = telemetrySeqs m.sent
  noted : m'.act.lastTelemetryMs = m.act.lastTelemetryMs
  calls : m.calls <:+ m'.calls

theorem Unpolled.trans (first : Unpolled m m') (later : Unpolled m' m'') : Unpolled m m'' :=
  ⟨later.numbers.trans first.numbers, later.noted.trans first.noted, first.calls.trans later.calls⟩

theorem step_calls (op : Op) : m.calls <:+ (step b m op).calls := by
  obtain ⟨calls, stepped⟩ := step_stepped b m op
  obtain ⟨new, longer, -⟩ := stepped.calls.split
  rw [longer]
  exact List.suffix_append ..

/-- What the decoder reports and the tick are such stretches. -/
theorem step_unpolled {serial : SerialPort} {op : Op} (replayable : m.Replayable)
    (serviced : op.Serviced serial) (other : op.isTelemetry = false) :
    Unpolled m (step b m op) := by
  cases serviced with
  | packet r =>
    have answered : ∃ replies, Delivers m replies (m.handlePacket b (serialWriter serial) r) ∧
        Reply r replies := handlePacket_delivers replayable
    have writes : Writes (serialWriter serial) m (m.handlePacket b (serialWriter serial) r) :=
      .handlePacket replayable
    obtain ⟨replies, delivers, reply⟩ := answered
    exact ⟨delivers.telemetrySeqs reply.not_telemetry, writes.noted, step_calls _⟩
  | error error =>
    have writes : Writes (serialWriter serial) m (m.recordFrameError b error) :=
      .recordFrameError m error
    obtain ⟨sent, -⟩ := recordFrameError_sent (b := b) (m := m) error
    exact ⟨congrArg telemetrySeqs sent, writes.noted, step_calls _⟩
  | tick =>
    have walk : Walk b (some (serialWriter serial)) m [] (m.update b (some (serialWriter serial))) :=
      update_walks _
    exact ⟨walk.hands.delivers.telemetrySeqs (by simp), walk.writes.noted, step_calls _⟩
  | poll => cases other
  | telemetry => cases other

theorem run_unpolled {serial : SerialPort} {ops : List Op} (replayable : m.Replayable)
    (serviced : ∀ op ∈ ops, op.Serviced serial ∧ op.isTelemetry = false) :
    Unpolled m (run (step b) m ops) ∧ (run (step b) m ops).Replayable := by
  induction ops generalizing m with
  | nil => exact ⟨⟨rfl, rfl, List.suffix_refl _⟩, replayable⟩
  | cons op ops ih =>
    obtain ⟨⟨here, other⟩, later⟩ := List.forall_mem_cons.mp serviced
    obtain ⟨unpolled, kept⟩ := ih (step_replayable op replayable) later
    exact ⟨(step_unpolled replayable here other).trans unpolled, kept⟩

end

/-! ## Sending telemetry -/

section

variable {b : MotionBackend} {m : Machine}

/-- The device numbers like a client. -/
theorem nextDeviceSeq_seqAt (n : Nat) :
    nextDeviceSeq (UInt16.ofNat (seqAt n)) =
      (UInt16.ofNat (seqAt n), UInt16.ofNat (seqAt (n + 1))) := by
  have next : (UInt16.ofNat (seqAt n) + 1).toNat = (seqAt n + 1) % 65536 := by
    rw [UInt16.toNat_add, toNat_seqAt]
    rfl
  have zero : UInt16.ofNat (seqAt n) + 1 = 0 ↔ (seqAt n + 1) % 65536 = 0 := by
    rw [← UInt16.toNat_inj, next]
    rfl
  rw [nextDeviceSeq, Prod.mk.injEq]
  refine ⟨rfl, ?_⟩
  rw [← UInt16.toNat_inj, toNat_seqAt]
  by_cases wraps : (seqAt n + 1) % 65536 = 0
  · rw [if_pos (zero.mpr wraps)]
    simp only [seqAt, UInt16.toNat_one] at wraps ⊢
    omega
  · rw [if_neg (mt zero.mp wraps), next]
    simp only [seqAt] at wraps ⊢
    omega

theorem telemetrySeqs_cons {t : Transmission} (sent : List Transmission)
    (telemetry : t.packet.isTelemetry = true) :
    telemetrySeqs (t :: sent) = telemetrySeqs sent ++ [t.packet.seq] := by
  simp [telemetrySeqs, telemetry]

theorem sendStatus_transmits (w : ResponseWriter) (seq : UInt16) (telemetry : Bool) :
    ∃ bytes taken, (m.sendStatus b w seq telemetry).sent =
        ⟨.respond .STATUS (if telemetry then PacketFlag.TELEMETRY else .RESPONSE).bits seq 32 bytes,
          w.caches, taken⟩ :: m.sent ∧ m.calls <:+ (m.sendStatus b w seq telemetry).calls := by
  have asked : ∀ {α : Type} (m : Machine) (callback : Option (History → α)) (record : α → Call),
      (m.ask callback record).2.sent = m.sent ∧ m.calls <:+ (m.ask callback record).2.calls := by
    intro α m callback record
    cases callback with
    | none => exact ⟨rfl, List.suffix_refl _⟩
    | some => exact ⟨rfl, List.suffix_cons ..⟩
  obtain ⟨sent₁, calls₁⟩ := asked m b.currentPosition .currentPosition
  obtain ⟨sent₂, calls₂⟩ := asked (m.logicalCurrentPosition b).2 b.targetPosition .targetPosition
  obtain ⟨sent₃, calls₃⟩ := asked ((m.logicalCurrentPosition b).2.logicalTargetPosition b).2
    b.currentSpeed .currentSpeed
  obtain ⟨sent₄, calls₄⟩ := asked
    (((m.logicalCurrentPosition b).2.logicalTargetPosition b).2.logicalCurrentSpeed b).2
    b.millis .millis
  have read := (calls₁.trans calls₂).trans (calls₃.trans calls₄)
  have unsent := sent₄.trans (sent₃.trans (sent₂.trans sent₁))
  have kept : ∀ (m : Machine) (packet : Packet), (m.sendResponse w packet).calls = m.calls := by
    intro m packet
    unfold Machine.sendResponse
    rw [sendPacket_eq]
    dsimp only
    split <;> rfl
  unfold Machine.sendStatus
  dsimp only
  unfold Machine.nowMs Machine.logicalCurrentSpeed Machine.logicalTargetPosition
    Machine.logicalCurrentPosition at *
  dsimp only at *
  rw [← unsent, kept]
  obtain ⟨taken, sent, -⟩ := sendResponse_eq (w := w) _
  exact ⟨_, taken, sent, read⟩

/-- A telemetry packet carries the number it is sent with. -/
theorem sendTelemetry_numbers (port : Port) (seq : UInt16) :
    telemetrySeqs (m.sendTelemetry b port seq).sent = telemetrySeqs m.sent ++ [seq] := by
  obtain ⟨bytes, taken, sent, -⟩ := sendStatus_transmits (b := b) (m := m) (.port port) seq true
  unfold Machine.sendTelemetry Machine.markTelemetrySent
  dsimp only
  generalize m.sendStatus b (.port port) seq true = reported at *
  have flagged : PacketFlag.TELEMETRY.bits &&& PacketFlag.TELEMETRY.bits ≠ 0 := by decide
  rw [Machine.nowMs_eq, sent, telemetrySeqs_cons _ (decide_eq_true ⟨rfl, flagged⟩)]
  rfl

theorem MonotonicClock.time_le (clock : MonotonicClock b) {h h' : History} (later : h <:+ h') :
    clock.time h ≤ clock.time h' := by
  obtain ⟨new, rfl⟩ := later
  induction new with
  | nil => exact Nat.le_refl _
  | cons call new ih => exact Nat.le_trans ih (clock.monotone call _)

/-- What is noted is the time after the status was sent. -/
theorem sendTelemetry_noted (clock : MonotonicClock b) (port : Port) (seq : UInt16) :
    let sent := (m.sendStatus b (.port port) seq true).calls
    m.calls <:+ sent ∧ sent <:+ (m.sendTelemetry b port seq).calls ∧
      (m.sendTelemetry b port seq).act.lastTelemetryMs = UInt32.ofNat (clock.time sent) := by
  obtain ⟨bytes, taken, -, calls⟩ := sendStatus_transmits (b := b) (m := m) (.port port) seq true
  unfold Machine.sendTelemetry Machine.markTelemetrySent
  dsimp only
  generalize m.sendStatus b (.port port) seq true = reported at *
  refine ⟨calls, ?_, ?_⟩
  · rw [Machine.nowMs_eq]
    exact List.suffix_append ..
  · rw [Machine.nowMs_eq]
    exact clock.clock reported

/-- A poll reads the clock at most. -/
theorem poll_unpolled : Unpolled m (m.shouldSendTelemetry b).2 := by
  refine ⟨?_, ?_, step_calls .shouldSendTelemetry⟩
  · unfold Machine.shouldSendTelemetry
    dsimp only
    split
    · rfl
    · rw [Machine.nowMs_eq]
  · unfold Machine.shouldSendTelemetry
    dsimp only
    split
    · rfl
    · rw [Machine.nowMs_eq]

/-- Telemetry that is due is not early. -/
theorem due_elapsed (clock : MonotonicClock b) {last : Nat}
    (noted : m.act.lastTelemetryMs = UInt32.ofNat last) (before : last ≤ clock.time m.calls)
    (due : (m.shouldSendTelemetry b).1 = true) :
    0 < m.act.activeConfig.telemetry.intervalMs ∧
      last + m.act.activeConfig.telemetry.intervalMs.toNat ≤ clock.time m.calls := by
  unfold Machine.shouldSendTelemetry at due
  dsimp only at due
  split at due
  · cases due
  case isFalse enabled =>
    have positive : m.act.activeConfig.telemetry.intervalMs ≠ 0 := fun zero => enabled (.inr zero)
    rw [Machine.nowMs_eq, clock.clock, noted] at due
    have elapsed := UInt32.le_iff_toNat_le.mp (of_decide_eq_true due)
    rw [UInt32.toNat_sub, UInt32.toNat_ofNat', UInt32.toNat_ofNat', UInt16.toNat_toUInt32] at elapsed
    have some : m.act.activeConfig.telemetry.intervalMs.toNat ≠ 0 := fun zero =>
      positive (UInt16.toNat_inj.mp zero)
    exact ⟨UInt16.pos_iff_ne_zero.mpr positive, by omega⟩

end

/-! ## Passes -/

/-- A board that has sent this telemetry. -/
structure Board.Paced {b : MotionBackend} (clock : MonotonicClock b) (board : Board)
    (sendings : List Sending) : Prop where
  positive : ∀ sending ∈ sendings, 0 < sending.interval
  numbers : telemetrySeqs board.actuator.sent =
    (List.range sendings.length).map fun n => UInt16.ofNat (seqAt n)
  next : board.deviceSeq = UInt16.ofNat (seqAt sendings.length)
  spaced : (⟨0, clock.time []⟩ :: sendings).IsChain Sending.Follows
  noted : ∃ last, board.actuator.act.lastTelemetryMs = UInt32.ofNat last ∧
    last ≤ clock.time board.actuator.calls ∧
    ∀ sending ∈ (⟨0, clock.time []⟩ :: sendings).getLast?, sending.time ≤ last
  replayable : board.actuator.Replayable

namespace Board.Paced

variable {b : MotionBackend} {clock : MonotonicClock b} {board board' : Board}
  {sendings : List Sending} (serial : SerialPort)

/-- Without telemetry the pace is kept. -/
theorem keep (paced : board.Paced clock sendings)
    (unpolled : Unpolled board.actuator board'.actuator) (next : board'.deviceSeq = board.deviceSeq)
    (replayable : board'.actuator.Replayable) : board'.Paced clock sendings where
  positive := paced.positive
  numbers := unpolled.numbers.trans paced.numbers
  next := next.trans paced.next
  spaced := paced.spaced
  noted := by
    obtain ⟨last, noted, before, after⟩ := paced.noted
    exact ⟨last, unpolled.noted.trans noted,
      Nat.le_trans before (clock.time_le unpolled.calls), after⟩
  replayable := replayable

/-- Neither the bytes of a pass nor its tick are telemetry. -/
theorem serviced (paced : board.Paced clock sendings) (bytes : List UInt8) :
    ((board.serviceSerial b serial bytes).tick b serial).Paced clock sendings := by
  obtain ⟨actuator, -, next⟩ := board.serviceSerial_runs b serial bytes
  obtain ⟨reported, -⟩ := board.serialOps_serviced serial bytes
  have ops : ∀ op ∈ board.serialOps serial bytes, op.Serviced serial ∧ op.isTelemetry = false := by
    intro op member
    unfold serialOps at member
    obtain ⟨result, -, called⟩ := List.mem_filterMap.mp member
    refine ⟨(reported op member).1, ?_⟩
    cases result <;> cases called <;> rfl
  obtain ⟨unpolled, replayable⟩ := run_unpolled (b := b) paced.replayable ops
  have ticked : Unpolled (board.serviceSerial b serial bytes).actuator
      ((board.serviceSerial b serial bytes).tick b serial).actuator :=
    step_unpolled (actuator ▸ replayable) .tick rfl
  exact paced.keep ((actuator ▸ unpolled).trans ticked) next
    (step_replayable (.update _) (actuator ▸ replayable))

/-- A poll that finds telemetry due sends one packet, not early. -/
theorem polled (paced : board.Paced clock sendings) :
    let polled := board.actuator.shouldSendTelemetry b
    (board.serviceTelemetry b serial).Paced clock (sendings ++
      if polled.1 then
        [⟨board.actuator.act.activeConfig.telemetry.intervalMs,
          clock.time (polled.2.sendStatus b (.port (serialWriter serial)) board.deviceSeq true).calls⟩]
      else []) := by
  obtain ⟨calls, noted, read⟩ := poll_unpolled (b := b) (m := board.actuator)
  dsimp only
  cases due : (board.actuator.shouldSendTelemetry b).1 with
  | false =>
    have idle : board.serviceTelemetry b serial =
        { board with actuator := (board.actuator.shouldSendTelemetry b).2 } := by
      simp [serviceTelemetry, due]
    rw [idle, if_neg Bool.false_ne_true, List.append_nil]
    exact paced.keep ⟨calls, noted, read⟩ rfl (step_replayable .shouldSendTelemetry paced.replayable)
  | true =>
    obtain ⟨last, since, before, after⟩ := paced.noted
    obtain ⟨positive, late⟩ := due_elapsed clock since before due
    obtain ⟨earlier, later, at'⟩ := sendTelemetry_noted (m := (board.actuator.shouldSendTelemetry b).2)
      clock (serialWriter serial) board.deviceSeq
    have reached := clock.time_le (read.trans earlier)
    have sends : board.serviceTelemetry b serial =
        { board with
          deviceSeq := UInt16.ofNat (seqAt (sendings.length + 1))
          actuator := (board.actuator.shouldSendTelemetry b).2.sendTelemetry b
            (serialWriter serial) board.deviceSeq } := by
      simp [serviceTelemetry, due, paced.next, nextDeviceSeq_seqAt]
    rw [sends, if_pos rfl]
    constructor
    case positive =>
      exact List.forall_mem_append.mpr ⟨paced.positive, List.forall_mem_singleton.mpr positive⟩
    case numbers =>
      dsimp only
      rw [sendTelemetry_numbers, calls, paced.numbers, paced.next, List.length_append,
        List.length_singleton, List.range_succ, List.map_append]
      rfl
    case next =>
      rw [List.length_append]
      rfl
    case spaced =>
      refine List.isChain_append.mpr ⟨paced.spaced, .singleton _, ?_⟩
      rintro previous listed _ ⟨⟩
      have noted := after previous listed
      unfold Sending.Follows
      dsimp only
      omega
    case noted =>
      refine ⟨_, at', clock.time_le later, ?_⟩
      rw [← List.cons_append, List.getLast?_concat]
      rintro _ ⟨⟩
      exact Nat.le_refl _
    case replayable =>
      exact step_replayable (.sendTelemetry ..) (step_replayable .shouldSendTelemetry paced.replayable)

theorem pass (paced : board.Paced clock sendings) (bytes : List UInt8) :
    (board.loop b serial bytes).Paced clock (sendings ++ board.sendings clock serial [bytes]) := by
  have polled := (paced.serviced serial bytes).polled serial
  rw [Board.sendings, Board.sendings, List.append_nil]
  exact polled

/-- Pass after pass. -/
theorem passes (paced : board.Paced clock sendings) (passes : List (List UInt8)) :
    (run (loop b serial) board passes).Paced clock
      (sendings ++ board.sendings clock serial passes) := by
  induction passes generalizing board sendings with
  | nil => exact (List.append_nil sendings).symm ▸ paced
  | cons bytes passes ih =>
    have further := ih (paced.pass serial bytes)
    have both : board.sendings clock serial [bytes] ++
        (board.loop b serial bytes).sendings clock serial passes =
          board.sendings clock serial (bytes :: passes) := by simp [Board.sendings]
    rw [List.append_assoc, both] at further
    exact further

end Board.Paced

/-! ## Main result -/

theorem intervals_length {b : MotionBackend} {serial : SerialPort} (board : Board)
    (passes : List (List UInt8)) : (board.intervals b serial passes).length ≤ passes.length := by
  induction passes generalizing board with
  | nil => exact Nat.le_refl 0
  | cons bytes passes ih =>
    have later := ih (board.loop b serial bytes)
    rw [Board.intervals, List.length_append, List.length_cons]
    split
    · rw [List.length_singleton]
      omega
    · rw [List.length_nil]
      omega

/-- The intervals of what is sent are those in force where it was due. -/
theorem sendings_intervals {b : MotionBackend} (clock : MonotonicClock b) (serial : SerialPort)
    (board : Board) (passes : List (List UInt8)) :
    (board.sendings clock serial passes).map Sending.interval = board.intervals b serial passes := by
  induction passes generalizing board with
  | nil => rfl
  | cons bytes passes ih =>
    rw [Board.sendings, Board.intervals, List.map_append, ih]
    split <;> rfl

/-- What is spaced takes the intervals together. -/
theorem Sending.sum_le {first : Sending} {sendings : List Sending} {last : Nat}
    (spaced : (first :: sendings).IsChain Sending.Follows)
    (ends : ∀ sending ∈ (first :: sendings).getLast?, sending.time ≤ last) :
    first.time + (sendings.map fun sending => sending.interval.toNat).sum ≤ last := by
  induction sendings generalizing first with
  | nil => exact ends first rfl
  | cons next sendings ih =>
    obtain ⟨follows, spaced⟩ := List.isChain_cons_cons.mp spaced
    have later := ih spaced ends
    unfold Sending.Follows at follows
    rw [List.map_cons, List.sum_cons]
    omega

theorem setup_paced {b : MotionBackend} (clock : MonotonicClock b) (build : BuildInfo) :
    (Board.setup b build).Paced clock [] := by
  obtain ⟨sent, -, noted, calls⟩ := Writes.begin_unspoken b (.powerOn build) defaultConfig
  have started : ∃ h, h <:+ ((Machine.powerOn build).beginMembers b defaultConfig).calls ∧
      ((Machine.powerOn build).beginMembers b defaultConfig).act.lastTelemetryMs =
        UInt32.ofNat (clock.time h) := by
    unfold Machine.beginMembers
    dsimp only
    generalize Machine.hearHost b _ = heard
    rw [Machine.nowMs_eq]
    exact ⟨heard.calls, List.suffix_append .., clock.clock heard⟩
  obtain ⟨h, begun, time⟩ := started
  constructor
  · simp
  · exact congrArg telemetrySeqs sent
  · rfl
  · exact .singleton _
  · refine ⟨clock.time h, noted.trans time, clock.time_le (begun.trans calls), ?_⟩
    rintro _ ⟨⟩
    exact clock.time_le (List.nil_suffix ..)
  · exact step_replayable (.begin defaultConfig) fun valid => by cases valid

/-- Telemetry is numbered without a gap and never early. Over a clock that does not go
back, the packets of the telemetry stream that a board has sent bear the numbers a client
session would give, at most one a pass; each is sent no earlier than the interval in force,
which is positive, after the one before it or the start; and all these intervals together
take no longer than the board is running. -/
theorem board_telemetry (b : MotionBackend) (clock : MonotonicClock b) (serial : SerialPort)
    (build : BuildInfo) (passes : List (List UInt8)) :
    ((Board.setup b build).intervals b serial passes).length ≤ passes.length ∧
      (∀ interval ∈ (Board.setup b build).intervals b serial passes, 0 < interval) ∧
      telemetrySeqs (Board.after b serial build passes).actuator.sent =
        (List.range ((Board.setup b build).intervals b serial passes).length).map
          (fun n => UInt16.ofNat (seqAt n)) ∧
      ((Board.setup b build).sendings clock serial passes).map Sending.interval =
        (Board.setup b build).intervals b serial passes ∧
      (⟨0, clock.time []⟩ :: (Board.setup b build).sendings clock serial passes).IsChain
        Sending.Follows ∧
      (((Board.setup b build).intervals b serial passes).map UInt16.toNat).sum ≤
        clock.time (Board.after b serial build passes).actuator.calls - clock.time [] := by
  have intervals := sendings_intervals clock serial (Board.setup b build) passes
  have paced : (Board.after b serial build passes).Paced clock
      ((Board.setup b build).sendings clock serial passes) :=
    (setup_paced clock build).passes serial passes
  obtain ⟨last, -, before, ends⟩ := paced.noted
  have sum := Sending.sum_le paced.spaced ends
  have positive := paced.positive
  have numbers := paced.numbers
  rw [← intervals, List.length_map, List.map_map]
  refine ⟨?_, List.forall_mem_map.mpr positive, numbers, rfl, paced.spaced, ?_⟩
  · rw [← List.length_map (f := Sending.interval), intervals]
    exact intervals_length _ passes
  · exact Nat.le_sub_of_add_le' (Nat.le_trans sum before)

/-- Where every call takes 100 s, with an interval of a second set in the second of four passes:
three packets, each a second or more after the one before. -/
theorem board_telemetry_slow :
    let serial : SerialPort := fun _ frame => frame.length
    let passes := [[], (Packet.request .SET_TELEM_RATE 1 (writeU16 1000)).frame, [], []]
    telemetrySeqs (Board.after slowDriver serial {} passes).actuator.sent = [1, 2, 3] ∧
      ((Board.setup slowDriver {}).sendings slowClock serial passes).map Sending.interval =
        [1000, 1000, 1000] ∧
      (⟨0, 0⟩ :: (Board.setup slowDriver {}).sendings slowClock serial passes).IsChain
        Sending.Follows := by
  intro serial passes
  obtain ⟨-, -, numbers, intervals, spaced, -⟩ := board_telemetry slowDriver slowClock serial {} passes
  have due : (Board.setup slowDriver {}).intervals slowDriver serial passes = [1000, 1000, 1000] := by
    decide +kernel
  rw [due] at numbers intervals
  exact ⟨numbers, intervals, spaced⟩

end Daft
