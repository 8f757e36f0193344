import Daft.Platform.Loop

/-!
# What a board executes

The requests executed are those of the stream received that the duplicate filter lets
through. How the stream was split over the passes of `loop` leaves no trace in them.
-/

namespace Daft

open Logic Host

/-- The packets a fresh decoder reports on a stream. -/
def packetsIn (stream : List UInt8) : List Packet :=
  (FramingDecoder.fresh.results stream).filterMap FramingResult.packet?

theorem packets_reports (sent : List Packet) :
    (sent.flatMap FramingDecoder.reports).filterMap FramingResult.packet? =
      sent.map Packet.padded := by
  have one : ∀ packet : Packet,
      (FramingDecoder.reports packet).filterMap FramingResult.packet? = [packet.padded] := by
    intro packet
    rw [FramingDecoder.reports, List.filterMap_append, List.filterMap_replicate_of_none rfl]
    rfl
  simp only [List.filterMap_flatMap, one]
  exact List.flatMap_pure_eq_map ..

/-- After noise that leaves no frame unfinished, frames are reported as they were sent. -/
theorem packetsIn_frames {noise : List UInt8} {sent : List Packet}
    (empty : (FramingDecoder.fresh.after noise).frame = []) (legal : ∀ packet ∈ sent, packet.Legal) :
    packetsIn (noise ++ sent.flatMap Packet.frame) =
      packetsIn noise ++ sent.map Packet.padded := by
  rw [packetsIn, FramingDecoder.results_append, List.filterMap_append,
    FramingDecoder.results_frames empty legal, packets_reports, packetsIn]

/-! ## Sessions on the wire -/

/-- Where a byte completed nothing no packet was reported. -/
theorem packets_filter (results : List FramingResult) :
    (results.filter (· ≠ .NONE)).filterMap FramingResult.packet? =
      results.filterMap FramingResult.packet? := by
  rw [List.filterMap_filter]
  apply List.filterMap_congr
  intro result _
  cases result <;> rfl

theorem delivered_of_received {ops : List Op} {results : List FramingResult}
    (received : ops.filterMap Op.received = results.filter (· ≠ .NONE)) :
    ops.filterMap Op.delivers = results.filterMap FramingResult.packet? := by
  have delivers : ops.filterMap Op.delivers =
      (ops.filterMap Op.received).filterMap FramingResult.packet? := by
    rw [List.filterMap_filterMap]
    exact List.filterMap_congr fun op _ => op.received_delivers.symm
  rw [delivers, received, packets_filter]

theorem Request.packet_bytes (call : Request) (seq : Nat) :
    (call.packet seq).bytes = call.payload ∧ (call.packet seq).Legal := by
  have fits := call.fits
  have counted : call.payload.length.toUInt16.toNat = call.payload.length :=
    Nat.mod_eq_of_lt (Nat.lt_of_le_of_lt fits (by decide))
  constructor
  · show (Payload.ofBytes call.payload).toList.take call.payload.length.toUInt16.toNat = _
    rw [counted]
    exact Payload.take_ofBytes fits
  · show call.payload.length.toUInt16.toNat ≤ maxPayloadSize
    rwa [counted]

theorem Request.packet_padded (call : Request) (seq : Nat) :
    (call.packet seq).padded = call.packet seq := by
  rw [Packet.padded, (Request.packet_bytes call seq).1]
  rfl

theorem packets_requests (sessions : List (List Request)) :
    ∀ packet ∈ packets sessions, ∃ (call : Request) (seq : Nat), packet = call.packet seq := by
  intro packet member
  obtain ⟨session, listed, inside⟩ := List.mem_flatten.mp member
  obtain ⟨calls, -, rfl⟩ := List.mem_map.mp listed
  rw [DaftClient.issue_eq, List.mem_mapIdx] at inside
  obtain ⟨i, within, rfl⟩ := inside
  exact ⟨_, _, rfl⟩

theorem packets_legal (sessions : List (List Request)) :
    ∀ packet ∈ packets sessions, packet.Legal := by
  intro packet member
  obtain ⟨call, seq, rfl⟩ := packets_requests sessions packet member
  exact (Request.packet_bytes call seq).2

theorem packets_padded (sessions : List (List Request)) :
    ∀ packet ∈ packets sessions, packet.padded = packet := by
  intro packet member
  obtain ⟨call, seq, rfl⟩ := packets_requests sessions packet member
  exact Request.packet_padded call seq

/-- What is executed is what `destutter` keeps of the packets in the stream. -/
theorem board_dispatches (b : MotionBackend) (serial : SerialPort) (build : BuildInfo)
    (passes : List (List UInt8)) :
    (Board.after b serial build passes).actuator.dispatched.reverse =
      (packetsIn passes.flatten).destutter Packet.Distinct := by
  obtain ⟨serviced, received, -⟩ :=
    (Board.setup b build).ops_serviced b serial passes
  obtain ⟨calls, done⟩ := step_begun b (.powerOn build) defaultConfig
  have cleared : (step b (.powerOn build) (.begin defaultConfig)).Remembers [] :=
    congrArg RequestCache.lastRequestValid done.requestCache
  have running : ∀ op ∈ Board.called b serial build passes, op.restarts = false :=
    fun op member => (serviced op member).running
  rw [Board.after_actuator, Machine.boot, run_executes running done.dispatched cleared]
  exact congrArg _ (delivered_of_received received)

/-! ## Main result -/

/-- The requests a board has executed depend on the stream it received alone: not on the
passes of `loop` it was split over, nor on the clock, the backend or what the port takes.
Of client sessions written after noise that held no packet and leaves no frame unfinished,
the empty noise included, every request is executed, once and in order, exactly if every
seam between sessions is safe. -/
theorem board_executes_stream (b : MotionBackend) (serial : SerialPort) (build : BuildInfo)
    (passes : List (List UInt8)) :
    (Board.after b serial build passes).actuator.dispatched.reverse =
        (packetsIn passes.flatten).destutter Packet.Distinct ∧
      ∀ (noise : List UInt8) (sessions : List (List Request)),
        passes.flatten = noise ++ (packets sessions).flatMap Packet.frame →
        (FramingDecoder.fresh.after noise).frame = [] → packetsIn noise = [] →
        ((Board.after b serial build passes).actuator.dispatched.reverse = packets sessions ↔
          (sessions.filter fun s => !s.isEmpty).IsChain SeamSafe) := by
  have executed := board_dispatches b serial build passes
  refine ⟨executed, ?_⟩
  intro noise sessions stream empty silent
  rw [executed, stream, packetsIn_frames empty (packets_legal sessions), silent, List.nil_append,
    List.map_congr_left (packets_padded sessions), List.map_id', List.destutter_eq_self_iff,
    packets_isChain_iff]

/-- After half a frame of noise, over three passes: of the sessions `PING`, `ESTOP`; none; and
`ESTOP`, `ESTOP` all four requests are executed, of two sessions of one `PING` not both. -/
theorem board_executes_stream_sessions (serial : SerialPort) :
    let noise : List UInt8 := [0x55, 0x07, 0x00]
    let safe := [[plainRequest .PING, plainRequest .ESTOP], [],
      [plainRequest .ESTOP, plainRequest .ESTOP]]
    let repeated := [[plainRequest .PING], [plainRequest .PING]]
    let passes (sessions : List (List Request)) : List (List UInt8) :=
      let stream := noise ++ (packets sessions).flatMap Packet.frame
      [stream.take 7, [], stream.drop 7]
    (Board.after {} serial {} (passes safe)).actuator.dispatched.reverse = packets safe ∧
      (Board.after {} serial {} (passes repeated)).actuator.dispatched.reverse ≠ packets repeated := by
  intro noise safe repeated passes
  have empty : (FramingDecoder.fresh.after noise).frame = [] := by decide +kernel
  have silent : packetsIn noise = [] := by decide +kernel
  have executed (sessions : List (List Request)) :=
    (board_executes_stream {} serial {} (passes sessions)).2 noise sessions
      (by simp [passes]) empty silent
  constructor
  · refine (executed safe).mpr ?_
    show List.IsChain SeamSafe [_, _]
    simp [SeamSafe, plainRequest]
  · refine mt (executed repeated).mp ?_
    show ¬ List.IsChain SeamSafe [_, _]
    simp [SeamSafe, plainRequest]

end Daft
