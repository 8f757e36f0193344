import Daft.Host.Reception
import Daft.Platform.Writing

/-!
# What a host hears of a board

Over a port that takes every byte nothing is dropped: the bytes written are the frames of
the packets sent, and whoever reads them, in whatever pieces, reads these packets.
-/

namespace Daft

open Logic Host

/-! ## Frames in pieces -/

section

variable {packet : Packet} {packets : List Packet} {s : List UInt8}

/-- The run a frame closes. -/
def Packet.stuffed (packet : Packet) : List UInt8 := stuff [] packet.raw

theorem Packet.stuffed_clean (packet : Packet) : 0 ∉ packet.stuffed :=
  zero_notMem_stuff (by simp) (by decide)

theorem Packet.stuffed_ne_nil (packet : Packet) : packet.stuffed ≠ [] := stuff_ne_nil [] packet.raw

theorem Packet.Legal.frame_run (legal : packet.Legal) : packet.frame = packet.stuffed ++ [0] :=
  legal.frame_eq

theorem Packet.Legal.stuffed_length (legal : packet.Legal) : packet.stuffed.length ≤ 138 := by
  rw [stuffed, legal.frame_length]
  exact Nat.add_le_add_right legal 10

theorem Packet.Legal.received_padded (legal : packet.Legal) :
    Codec.received packet.padded = Codec.received packet := by
  have fits : packet.bytes.length ≤ maxPayloadSize := legal.bytes_length ▸ legal
  have same : packet.padded.bytes = packet.bytes := by
    have kept := Payload.take_ofBytes fits
    rw [legal.bytes_length] at kept
    exact kept
  rw [Codec.received, same]
  rfl

/-- The host decodes what the device framed. -/
theorem Packet.Legal.decode_stuffed (legal : packet.Legal) :
    (Codec.decodePacket packet.stuffed).toOption = some (Codec.received packet) := by
  rw [Codec.decodePacket_eq, stuffed, decodePacket_frame legal]
  exact congrArg some legal.received_padded

/-- What has been read of some frames: the frames of the first packets, and an open run
that is still short. -/
theorem frames_prefix (legal : ∀ packet ∈ packets, packet.Legal)
    (begins : s <+: packets.flatMap Packet.frame) :
    Host.frames s = (packets.take (s.count 0)).map Packet.stuffed ∧
      (∀ run ∈ s.splitOn 0, run.length ≤ 256) := by
  have runs : packets.flatMap Packet.frame = (packets.map Packet.stuffed).flatMap (· ++ [0]) := by
    rw [List.flatMap_map]
    exact List.flatMap_congr fun packet member => (legal packet member).frame_run
  have clean : ∀ run ∈ packets.map Packet.stuffed, 0 ∉ run := by
    intro run member
    obtain ⟨packet, -, rfl⟩ := List.mem_map.mp member
    exact packet.stuffed_clean
  have short : ∀ run ∈ packets.map Packet.stuffed, run.length ≤ 138 := by
    intro run member
    obtain ⟨packet, listed, rfl⟩ := List.mem_map.mp member
    exact (legal packet listed).stuffed_length
  obtain ⟨closes, begun⟩ := Delimited.prefix_runs clean (runs ▸ begins)
  constructor
  · rw [Host.frames, closes, ← List.map_take, List.filter_eq_self]
    intro run member
    obtain ⟨packet, -, rfl⟩ := List.mem_map.mp member
    simp [packet.stuffed_ne_nil]
  · intro run member
    rw [← Delimited.closed_append_trailing, List.mem_append, List.mem_singleton] at member
    rcases member with closed | rfl
    · rw [closes] at closed
      exact Nat.le_trans (short run (List.mem_of_mem_take closed)) (by decide)
    · refine Nat.le_trans begun.length_le ?_
      cases next : (packets.map Packet.stuffed)[s.count 0]? with
      | none => simp
      | some run =>
        exact Nat.le_trans (short run (List.mem_of_getElem? next)) (by decide)

/-- Reads of some frames return the packets whose frames have been read whole. -/
theorem readPackets_frames (legal : ∀ packet ∈ packets, packet.Legal)
    {chunks : List (List UInt8)} {deadlines : List Nat}
    (begins : chunks.flatten <+: packets.flatMap Packet.frame)
    (patient : (SerialTransport.openedOn chunks).Patient deadlines) :
    ((SerialTransport.openedOn chunks).readPackets deadlines).1 =
        SerialTransport.answers ((packets.take (chunks.flatten.count 0)).map Codec.received)
          deadlines.length ∧
      ((SerialTransport.openedOn chunks).readPackets deadlines).2.protocolErrors = 0 ∧
      ((SerialTransport.openedOn chunks).readPackets deadlines).2.rxOverflows = 0 := by
  obtain ⟨framed, short⟩ := frames_prefix legal begins
  have arriving : (SerialTransport.openedOn chunks).coming =
      (frames chunks.flatten).map .ofFrame := outcomes_of_short short
  have decoded : Outcome.packets (SerialTransport.openedOn chunks).coming =
      (packets.take (chunks.flatten.count 0)).map Codec.received := by
    rw [arriving, packets_ofFrame, framed, List.filterMap_map, ← List.filterMap_eq_map]
    apply List.filterMap_congr
    intro packet member
    exact (legal packet (List.mem_of_mem_take member)).decode_stuffed
  have sound : ∀ outcome ∈ (SerialTransport.openedOn chunks).coming, outcome.packet?.isSome := by
    intro outcome member
    rw [arriving, framed, List.map_map] at member
    obtain ⟨packet, listed, rfl⟩ := List.mem_map.mp member
    rw [Function.comp_apply, Outcome.packet?_ofFrame,
      (legal packet (List.mem_of_mem_take listed)).decode_stuffed]
    rfl
  obtain ⟨results, happened, advances⟩ := SerialTransport.readPackets_answers deadlines _ rfl patient
  rw [decoded] at results
  have met : ∀ outcome ∈ happened, outcome.packet?.isSome := by
    intro outcome member
    exact sound outcome (advances.coming ▸ List.mem_append_left _ member)
  refine ⟨results, ?_, ?_⟩
  · rw [advances.protocolErrors, List.countP_eq_zero.mpr fun outcome member => by
      simp [Option.isSome_iff_ne_none.mp (met outcome member)]]
    rfl
  · rw [advances.rxOverflows, List.count_eq_zero_of_not_mem fun member => by
      cases met .overflow member]
    rfl

end

/-! ## A steady port -/

section

variable {serial : SerialPort} {packet : Packet}

theorem Packet.Legal.length_frame (legal : packet.Legal) :
    packet.frame.length = packet.payloadLen.toNat + 11 := by
  rw [legal.frame_run, List.length_append, stuffed, legal.frame_length]
  rfl

/-- A frame is taken whole or not. -/
theorem Packet.Legal.serialSend (legal : packet.Legal) (sent : List Transmission) :
    serialSend serial sent packet = decide (serial sent packet.frame = packet.frame.length) := by
  have room : packet.payloadLen.toNat + 11 ≤ (List.replicate maxFrameSize (0 : UInt8)).length := by
    rw [List.length_replicate]
    exact legal.framed
  have written := encodePacket_fits legal room
  have length := legal.length_frame
  unfold Daft.serialSend Packet.frame at *
  rw [written] at length ⊢
  dsimp only at length ⊢
  rw [length]

theorem SerialPort.Steady.takes (steady : serial.Steady) (legal : packet.Legal)
    (sent : List Transmission) : (serialWriter serial).takes sent packet = true := by
  show serialSend serial sent packet = true
  rw [legal.serialSend, steady]
  exact decide_eq_true rfl

theorem SerialPort.Steady.written (steady : serial.Steady) (sent : List Transmission) :
    Daft.written serial sent = (sent.reverse.map (·.packet)).flatMap Packet.frame := by
  induction sent with
  | nil => rfl
  | cons t sent ih =>
    rw [Daft.written, steady, List.take_length, ih]
    simp

/-- What a steady port writes of new packets. -/
theorem SerialPort.Steady.written_new (steady : serial.Steady) (new sent : List Transmission) :
    (Daft.written serial (new ++ sent)).drop (Daft.written serial sent).length =
      (new.reverse.map (·.packet)).flatMap Packet.frame := by
  rw [steady.written, steady.written, List.reverse_append, List.map_append, List.flatMap_append,
    List.drop_left]

end

/-! ## Main result -/

/-- Over a steady port a board drops nothing: what it has written are the frames of the
packets sent, oldest first. A host that begins to read after any of them, in whatever
pieces, gets the packets whose frames it has read whole, in order and as they were sent,
and meets neither a damaged frame nor an overflow of its buffer, if no call gives up while
there is something left to read. -/
theorem board_heard (b : MotionBackend) (serial : SerialPort) (build : BuildInfo)
    (passes : List (List UInt8)) (steady : serial.Steady) :
    (Board.after b serial build passes).actuator.act.counters.droppedPackets = 0 ∧
      written serial (Board.after b serial build passes).actuator.sent =
        ((Board.after b serial build passes).actuator.sent.reverse.map (·.packet)).flatMap
          Packet.frame ∧
      ∀ (later earlier : List Transmission) (chunks : List (List UInt8)) (deadlines : List Nat),
        (Board.after b serial build passes).actuator.sent = later ++ earlier →
        chunks.flatten <+: (later.reverse.map (·.packet)).flatMap Packet.frame →
        (SerialTransport.openedOn chunks).Patient deadlines →
        ((SerialTransport.openedOn chunks).readPackets deadlines).1 =
            SerialTransport.answers (((later.reverse.map (·.packet)).take
              (chunks.flatten.count 0)).map Codec.received) deadlines.length ∧
          ((SerialTransport.openedOn chunks).readPackets deadlines).2.protocolErrors = 0 ∧
          ((SerialTransport.openedOn chunks).readPackets deadlines).2.rxOverflows = 0 := by
  obtain ⟨since, dropped⟩ := board_writes b serial build passes
  have each := since.all
  refine ⟨?_, steady.written _, ?_⟩
  · have taken : untaken (Board.after b serial build passes).actuator.sent = 0 := by
      refine List.countP_eq_zero.mpr fun t member => ?_
      obtain ⟨past, legal, taken⟩ := each t member
      simp [taken, steady.takes legal]
    rw [dropped, taken]
    rfl
  · intro later earlier chunks deadlines sent begins patient
    refine readPackets_frames (fun packet member => ?_) begins patient
    obtain ⟨t, listed, rfl⟩ := List.mem_map.mp member
    have member : t ∈ (Board.after b serial build passes).actuator.sent :=
      sent ▸ List.mem_append_left _ (List.mem_reverse.mp listed)
    obtain ⟨past, legal, -⟩ := each t member
    exact legal

/-- The boot event of the first pass, in two pieces. -/
theorem board_heard_boot :
    let later := (Board.after {} steadyPort {} [[]]).actuator.sent
    let chunks := [[3, 2, 130, 1, 1, 2, 12, 2], [1, 1, 1, 1, 1, 1, 1, 1, 1, 1, 1, 3, 153, 29, 0]]
    ((SerialTransport.openedOn chunks).readPackets [40]).1 =
      SerialTransport.answers (((later.reverse.map (·.packet)).take 1).map Codec.received) 1 :=
  ((board_heard {} steadyPort {} [[]] fun _ _ => rfl).2.2 _ []
    [[3, 2, 130, 1, 1, 2, 12, 2], [1, 1, 1, 1, 1, 1, 1, 1, 1, 1, 1, 3, 153, 29, 0]] [40]
    (List.append_nil _).symm (by decide +kernel)
    (SerialTransport.patient_of_load [40] _ rfl (by decide +kernel))).1

end Daft
