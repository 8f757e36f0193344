import Daft.Platform.Ports
import Daft.Protocol.Framing
import Daft.Session.DuplicateFilter

/-!
# The main loop

`main.cpp` of the board: `loop` feeds the decoder what the serial port received, hands on
what the decoder reports, ticks the actuator and sends telemetry that is due. Everything
the actuator sends is framed and written to the same port.
-/

namespace Daft

open Logic Host

/-! ## The serial port -/

/-- How many bytes of a frame `Serial.write` takes, after what was handed over before. -/
abbrev SerialPort := List Transmission → List UInt8 → Nat

/-- `serial_send`. -/
def serialSend (serial : SerialPort) (sent : List Transmission) (packet : Packet) : Bool :=
  match encodePacket packet (List.replicate maxFrameSize 0) with
  | (_, none) => false
  | (frame, some frameLen) => serial sent (frame.take frameLen) = frameLen

/-- `serial_writer`. -/
def serialWriter (serial : SerialPort) : Port := some (serialSend serial)

/-- The bytes written for what was handed over. -/
def written (serial : SerialPort) : List Transmission → List UInt8
  | [] => []
  | t :: sent => written serial sent ++ t.packet.frame.take (serial sent t.packet.frame)

/-- A port that takes every byte. -/
def SerialPort.Steady (serial : SerialPort) : Prop := ∀ sent frame, serial sent frame = frame.length

/-- The steady port. -/
def steadyPort : SerialPort := fun _ frame => frame.length

/-! ## The board -/

theorem FramingDecoder.nothing_fits : ([] : List UInt8).length ≤ maxFrameSize := by decide

theorem FramingDecoder.nothing_clean : 0 ∉ ([] : List UInt8) := List.not_mem_nil

/-- A decoder that has received nothing. -/
def FramingDecoder.fresh : FramingDecoder := ⟨[], nothing_fits, nothing_clean⟩

/-- The variables of `main.cpp` that `loop` changes. -/
structure Board where
  actuator : Machine
  decoder : FramingDecoder := .fresh
  deviceSeq : UInt16 := 1

/-- `next_device_seq`: the number, and `device_seq` after it. -/
def nextDeviceSeq (deviceSeq : UInt16) : UInt16 × UInt16 :=
  (deviceSeq, if deviceSeq + 1 = 0 then 1 else deviceSeq + 1)

namespace Board

variable (b : MotionBackend) (serial : SerialPort) (board : Board)

/-- One turn of the loop of `service_serial`. -/
def serviceByte (byteIn : UInt8) : Board :=
  match board.decoder.consume byteIn with
  | (.PACKET packet, decoder) =>
    { board with decoder, actuator := board.actuator.handlePacket b (serialWriter serial) packet }
  | (.FRAME_ERROR error, decoder) =>
    { board with decoder, actuator := board.actuator.recordFrameError b error }
  | (.NONE, decoder) => { board with decoder }

/-- `service_serial`, with the bytes that are available before it returns. -/
def serviceSerial (bytes : List UInt8) : Board := run (serviceByte b serial) board bytes

/-- `service_telemetry`. -/
def serviceTelemetry : Board :=
  let (due, actuator) := board.actuator.shouldSendTelemetry b
  if due then
    let (seq, deviceSeq) := nextDeviceSeq board.deviceSeq
    { board with deviceSeq, actuator := actuator.sendTelemetry b (serialWriter serial) seq }
  else { board with actuator }

/-- `actuator.update(&writer)`. -/
def tick : Board := { board with actuator := board.actuator.update b (some (serialWriter serial)) }

/-- `loop`. -/
def loop (bytes : List UInt8) : Board :=
  ((board.serviceSerial b serial bytes).tick b serial).serviceTelemetry b serial

/-- `setup`. -/
def setup (build : BuildInfo) : Board :=
  { actuator := step b (.powerOn build) (.begin defaultConfig) }

/-! ## The actuator's part -/

/-- The entry point a result of the decoder leads to. -/
def opOf : FramingResult → Option Op
  | .NONE => none
  | .PACKET packet => some (.handlePacket packet (serialWriter serial))
  | .FRAME_ERROR error => some (.recordFrameError error)

/-- The entry points `service_serial` calls. -/
def serialOps (bytes : List UInt8) : List Op :=
  (board.decoder.results bytes).filterMap (opOf serial)

/-- The entry points `service_telemetry` calls. -/
def telemetryOps : List Op :=
  .shouldSendTelemetry ::
    if (board.actuator.shouldSendTelemetry b).1 then
      [.sendTelemetry (serialWriter serial) board.deviceSeq]
    else []

/-- The entry points a pass of `loop` calls. -/
def loopOps (bytes : List UInt8) : List Op :=
  board.serialOps serial bytes ++ .update (some (serialWriter serial)) ::
    ((board.serviceSerial b serial bytes).tick b serial).telemetryOps b serial

/-- The entry points the passes call. -/
def ops : Board → List (List UInt8) → List Op
  | _, [] => []
  | board, bytes :: passes => board.loopOps b serial bytes ++ ops (board.loop b serial bytes) passes

/-- A byte is at most one entry point. -/
theorem serviceByte_runs (byteIn : UInt8) :
    (board.serviceByte b serial byteIn).actuator =
        run (step b) board.actuator (board.serialOps serial [byteIn]) ∧
      (board.serviceByte b serial byteIn).decoder = board.decoder.after [byteIn] ∧
      (board.serviceByte b serial byteIn).deviceSeq = board.deviceSeq := by
  unfold serviceByte serialOps FramingDecoder.after FramingDecoder.results
  rw [run_cons, run_nil, FramingDecoder.results]
  rcases board.decoder.consume byteIn with ⟨_ | packet | error, decoder⟩
  · exact ⟨rfl, rfl, rfl⟩
  · exact ⟨rfl, rfl, rfl⟩
  · exact ⟨rfl, rfl, rfl⟩

/-- The entry points of a stream are those of its first byte and of the rest. -/
theorem serialOps_cons (byteIn : UInt8) (bytes : List UInt8) :
    board.serialOps serial (byteIn :: bytes) =
      board.serialOps serial [byteIn] ++
        (board.serviceByte b serial byteIn).serialOps serial bytes := by
  obtain ⟨-, decoder, -⟩ := board.serviceByte_runs b serial byteIn
  rw [serialOps, serialOps, serialOps, decoder, ← List.filterMap_append,
    ← FramingDecoder.results_append, List.singleton_append]

/-- Reading the port runs the actuator over what the decoder reports. -/
theorem serviceSerial_runs (bytes : List UInt8) :
    (board.serviceSerial b serial bytes).actuator =
        run (step b) board.actuator (board.serialOps serial bytes) ∧
      (board.serviceSerial b serial bytes).decoder = board.decoder.after bytes ∧
      (board.serviceSerial b serial bytes).deviceSeq = board.deviceSeq := by
  induction bytes generalizing board with
  | nil => exact ⟨rfl, rfl, rfl⟩
  | cons byteIn bytes ih =>
    obtain ⟨actuator, decoder, deviceSeq⟩ := board.serviceByte_runs b serial byteIn
    obtain ⟨actuator', decoder', deviceSeq'⟩ := ih (board.serviceByte b serial byteIn)
    rw [serialOps_cons b, run_append, ← actuator]
    refine ⟨actuator', ?_, deviceSeq'.trans deviceSeq⟩
    rw [← List.singleton_append, FramingDecoder.after_append, ← decoder]
    exact decoder'

/-- The telemetry service runs the actuator, and leaves the decoder. -/
theorem serviceTelemetry_runs :
    (board.serviceTelemetry b serial).actuator =
        run (step b) board.actuator (board.telemetryOps b serial) ∧
      (board.serviceTelemetry b serial).decoder = board.decoder := by
  unfold serviceTelemetry telemetryOps
  dsimp only
  split <;> exact ⟨rfl, rfl⟩

/-- A pass runs the actuator over its entry points. -/
theorem loop_runs (bytes : List UInt8) :
    (board.loop b serial bytes).actuator =
        run (step b) board.actuator (board.loopOps b serial bytes) ∧
      (board.loop b serial bytes).decoder = board.decoder.after bytes := by
  obtain ⟨actuator, decoder, -⟩ := board.serviceSerial_runs b serial bytes
  obtain ⟨actuator', decoder'⟩ :=
    ((board.serviceSerial b serial bytes).tick b serial).serviceTelemetry_runs b serial
  rw [loopOps, run_append, ← actuator, run_cons]
  exact ⟨actuator', decoder'.trans decoder⟩

/-- So do any number of passes. -/
theorem passes_run (passes : List (List UInt8)) :
    (run (loop b serial) board passes).actuator =
        run (step b) board.actuator (board.ops b serial passes) ∧
      (run (loop b serial) board passes).decoder = board.decoder.after passes.flatten := by
  induction passes generalizing board with
  | nil => exact ⟨rfl, rfl⟩
  | cons bytes passes ih =>
    obtain ⟨actuator, decoder⟩ := board.loop_runs b serial bytes
    obtain ⟨actuator', decoder'⟩ := ih (board.loop b serial bytes)
    rw [ops, run_append, ← actuator, List.flatten_cons, FramingDecoder.after_append, ← decoder]
    exact ⟨actuator', decoder'⟩

end Board

/-! ## What reaches the actuator -/

/-- The packet a result of the decoder comes with. -/
def FramingResult.packet? : FramingResult → Option Packet
  | .PACKET packet => some packet
  | _ => none

/-- What an entry point was called with, of what the decoder reported. -/
def Op.received : Op → Option FramingResult
  | .handlePacket packet _ => some (.PACKET packet)
  | .recordFrameError error => some (.FRAME_ERROR error)
  | _ => none

/-- An entry point that `loop` calls: over the serial port, and never `begin`. -/
inductive Op.Serviced (serial : SerialPort) : Op → Prop where
  | packet (packet : Packet) : Serviced serial (.handlePacket packet (serialWriter serial))
  | error (error : ErrorCode) : Serviced serial (.recordFrameError error)
  | tick : Serviced serial (.update (some (serialWriter serial)))
  | poll : Serviced serial .shouldSendTelemetry
  | telemetry (seq : UInt16) : Serviced serial (.sendTelemetry (serialWriter serial) seq)

def Op.ticks : Op → Bool
  | .update _ => true
  | _ => false

/-- `loop` never starts the actuator anew. -/
theorem Op.Serviced.running {serial : SerialPort} {op : Op} (serviced : op.Serviced serial) :
    op.restarts = false := by
  cases serviced <;> rfl

/-- What was received of a packet is the packet. -/
theorem Op.received_delivers (op : Op) : op.received.bind FramingResult.packet? = op.delivers := by
  cases op <;> rfl

section

variable (b : MotionBackend) (serial : SerialPort) (board : Board) (bytes : List UInt8)

/-- What `service_serial` hands on is what the decoder reports. -/
theorem Board.serialOps_serviced :
    (∀ op ∈ board.serialOps serial bytes, op.Serviced serial ∧ op.ticks = false) ∧
      (board.serialOps serial bytes).filterMap Op.received =
        (board.decoder.results bytes).filter (· ≠ .NONE) := by
  unfold serialOps
  generalize board.decoder.results bytes = results
  induction results with
  | nil => exact ⟨by simp, rfl⟩
  | cons result results ih =>
    obtain ⟨serviced, received⟩ := ih
    cases result with
    | NONE => exact ⟨serviced, received⟩
    | PACKET packet =>
      refine ⟨List.forall_mem_cons.mpr ⟨⟨.packet packet, rfl⟩, serviced⟩, ?_⟩
      exact congrArg (FramingResult.PACKET packet :: ·) received
    | FRAME_ERROR error =>
      refine ⟨List.forall_mem_cons.mpr ⟨⟨.error error, rfl⟩, serviced⟩, ?_⟩
      exact congrArg (FramingResult.FRAME_ERROR error :: ·) received

/-- Polling and sending telemetry hands nothing on. -/
theorem Board.telemetryOps_serviced :
    (∀ op ∈ board.telemetryOps b serial, op.Serviced serial ∧ op.ticks = false) ∧
      (board.telemetryOps b serial).filterMap Op.received = [] := by
  unfold telemetryOps
  split
  · exact ⟨by simp [Op.Serviced.poll, Op.Serviced.telemetry, Op.ticks], rfl⟩
  · exact ⟨by simp [Op.Serviced.poll, Op.ticks], rfl⟩

/-- A pass hands on what was received, and ticks once. -/
theorem Board.loopOps_serviced :
    (∀ op ∈ board.loopOps b serial bytes, op.Serviced serial) ∧
      (board.loopOps b serial bytes).filterMap Op.received =
        (board.decoder.results bytes).filter (· ≠ .NONE) ∧
      (board.loopOps b serial bytes).countP Op.ticks = 1 := by
  obtain ⟨serviced, received⟩ := board.serialOps_serviced serial bytes
  obtain ⟨polled, nothing⟩ :=
    ((board.serviceSerial b serial bytes).tick b serial).telemetryOps_serviced b serial
  unfold loopOps
  refine ⟨?_, ?_, ?_⟩
  · intro op member
    rcases List.mem_append.mp member with first | later
    · exact (serviced op first).1
    · rcases List.mem_cons.mp later with rfl | polling
      · exact .tick
      · exact (polled op polling).1
  · have none : (Op.update (some (serialWriter serial))).received = none := rfl
    rw [List.filterMap_append, List.filterMap_cons_none none, nothing, received, List.append_nil]
  · have first : (board.serialOps serial bytes).countP Op.ticks = 0 :=
      List.countP_eq_zero.mpr fun op member => by simp [(serviced op member).2]
    have last := List.countP_eq_zero.mpr fun op member => by
      simpa using (polled op member).2
    rw [List.countP_append, first, List.countP_cons_of_pos rfl, last]

/-- The passes hand on the whole stream, however it was split. -/
theorem Board.ops_serviced (passes : List (List UInt8)) :
    (∀ op ∈ board.ops b serial passes, op.Serviced serial) ∧
      (board.ops b serial passes).filterMap Op.received =
        (board.decoder.results passes.flatten).filter (· ≠ .NONE) ∧
      (board.ops b serial passes).countP Op.ticks = passes.length := by
  induction passes generalizing board with
  | nil => exact ⟨by simp [ops], rfl, rfl⟩
  | cons bytes passes ih =>
    obtain ⟨serviced, received, ticks⟩ :=
      board.loopOps_serviced b serial bytes
    obtain ⟨serviced', received', ticks'⟩ := ih (board.loop b serial bytes)
    obtain ⟨-, decoder⟩ := board.loop_runs b serial bytes
    unfold ops
    refine ⟨List.forall_mem_append.mpr ⟨serviced, serviced'⟩, ?_, ?_⟩
    · rw [List.filterMap_append, received, received', decoder, ← List.filter_append,
        ← FramingDecoder.results_append, List.flatten_cons]
    · rw [List.countP_append, ticks, ticks', List.length_cons, Nat.add_comm]

end

/-! ## Main result -/

/-- A board after the passes of `loop`, each with the bytes it received. -/
def Board.after (b : MotionBackend) (serial : SerialPort) (build : BuildInfo)
    (passes : List (List UInt8)) : Board :=
  run (loop b serial) (setup b build) passes

/-- The entry points it has called since `begin`. -/
def Board.called (b : MotionBackend) (serial : SerialPort) (build : BuildInfo)
    (passes : List (List UInt8)) : List Op :=
  (setup b build).ops b serial passes

/-- The actuator of a board is one that is reached from `begin`. -/
theorem Board.after_actuator (b : MotionBackend) (serial : SerialPort) (build : BuildInfo)
    (passes : List (List UInt8)) :
    (after b serial build passes).actuator =
      .boot b build defaultConfig (called b serial build passes) :=
  ((setup b build).passes_run b serial passes).1

/-- The board runs the actuator: whatever the port received and however it was split over
the passes of `loop`, the actuator is in a state it reaches by the entry points called,
which are one tick for each pass, telemetry, and what the decoder makes of the whole
stream, in its order. -/
theorem board_runs_actuator (b : MotionBackend) (serial : SerialPort) (build : BuildInfo)
    (passes : List (List UInt8)) :
    ∃ ops, (Board.after b serial build passes).actuator = .boot b build defaultConfig ops ∧
      (∀ op ∈ ops, op.Serviced serial) ∧
      ops.filterMap Op.received =
        (FramingDecoder.fresh.results passes.flatten).filter (· ≠ .NONE) ∧
      ops.countP Op.ticks = passes.length := by
  obtain ⟨serviced, received, ticks⟩ :=
    (Board.setup b build).ops_serviced b serial passes
  exact ⟨_, Board.after_actuator b serial build passes, serviced, received, ticks⟩

end Daft
