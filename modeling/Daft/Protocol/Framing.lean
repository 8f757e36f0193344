import Daft.Logic.Run
import Daft.Protocol.Packet
import Mathlib.Data.List.Induction

/-!
# The stream decoder

`FramingDecoder` collects the bytes between zeros and decodes them at the next
zero. A zero leaves it empty whatever came before, so it is in step with the
sender from then on. A run of bytes that overflows the buffer is dropped where
it overflows, and the rest of the run is collected as if it began there.
-/

namespace Daft

open Logic

/-- `FramingDecoder`, with the first `frame_len_` bytes of `frame_`. -/
structure FramingDecoder where
  frame : List UInt8 := []
  fits : frame.length ≤ maxFrameSize := by decide
  clean : 0 ∉ frame := by decide

/-- `FramingDecoder::Result` with the out-parameter it comes with. -/
inductive FramingResult where
  | NONE
  | PACKET (packet : Packet)
  | FRAME_ERROR (error : ErrorCode)
  deriving DecidableEq

namespace FramingDecoder

/-- `reset`. -/
def reset (_ : FramingDecoder) : FramingDecoder := {}

/-- `consume`. -/
def consume (d : FramingDecoder) (byte : UInt8) : FramingResult × FramingDecoder :=
  if zero : byte = 0 then
    if d.frame.length = 0 then (.NONE, d)
    else
      match decodePacket d.frame with
      | .ok packet => (.PACKET packet, d.reset)
      | .error error => (.FRAME_ERROR error, d.reset)
  else if full : d.frame.length ≥ maxFrameSize then (.FRAME_ERROR .ERR_BAD_PAYLOAD, d.reset)
  else
    (.NONE, { frame := d.frame ++ [byte]
              fits := by
                rw [List.length_append, List.length_singleton]
                exact Nat.not_le.mp full
              clean := by simp [d.clean, Ne.symm zero] })

/-- The decoder after some bytes. -/
def after (d : FramingDecoder) (bytes : List UInt8) : FramingDecoder :=
  run (fun d byte => (d.consume byte).2) d bytes

/-- The results for some bytes, one for each. -/
def results (d : FramingDecoder) : List UInt8 → List FramingResult
  | [] => []
  | byte :: bytes => (d.consume byte).1 :: (d.consume byte).2.results bytes

variable {d : FramingDecoder} {byte : UInt8} {bytes : List UInt8} {packet : Packet}

theorem after_append (first later : List UInt8) :
    d.after (first ++ later) = (d.after first).after later :=
  run_append ..

theorem results_append (first later : List UInt8) :
    d.results (first ++ later) = d.results first ++ (d.after first).results later := by
  induction first generalizing d with
  | nil => rfl
  | cons byte first ih => exact congrArg ((d.consume byte).1 :: ·) ih

/-! ## One byte -/

theorem consume_zero_frame : (d.consume 0).2.frame = [] := by
  unfold consume
  split
  · split
    case isTrue empty => exact List.length_eq_zero_iff.mp empty
    case isFalse => split <;> rfl
  case isFalse nonzero => exact absurd rfl nonzero

/-- A packet is reported where the bytes collected are a frame. -/
theorem consume_zero_packet :
    (d.consume 0).1 = .PACKET packet ↔ decodePacket d.frame = .ok packet := by
  unfold consume
  rw [dif_pos rfl]
  split
  case isTrue empty =>
    have nothing : d.frame = [] := List.length_eq_zero_iff.mp empty
    rw [nothing]
    constructor <;> intro same <;> cases same
  case isFalse =>
    cases decoded : decodePacket d.frame <;> simp

theorem consume_collects (nonzero : byte ≠ 0) (room : d.frame.length < maxFrameSize) :
    (d.consume byte).1 = .NONE ∧ (d.consume byte).2.frame = d.frame ++ [byte] := by
  rw [consume, dif_neg nonzero, dif_neg (Nat.not_le.mpr room)]
  exact ⟨rfl, rfl⟩

theorem consume_overflows (nonzero : byte ≠ 0) (full : d.frame.length = maxFrameSize) :
    (d.consume byte).2.frame = [] := by
  rw [consume, dif_neg nonzero, dif_pos (Nat.le_of_eq full.symm)]
  rfl

/-! ## Runs of bytes -/

/-- Bytes other than zero are collected in silence while there is room. -/
theorem collect (clean : 0 ∉ bytes) (room : d.frame.length + bytes.length ≤ maxFrameSize) :
    d.results bytes = List.replicate bytes.length .NONE ∧
      (d.after bytes).frame = d.frame ++ bytes := by
  induction bytes generalizing d with
  | nil => exact ⟨rfl, (List.append_nil _).symm⟩
  | cons byte bytes ih =>
    rw [List.mem_cons, not_or] at clean
    rw [List.length_cons] at room
    obtain ⟨silent, frame⟩ := consume_collects (d := d) (Ne.symm clean.1) (by omega)
    have length : (d.consume byte).2.frame.length = d.frame.length + 1 := by
      rw [frame, List.length_append, List.length_singleton]
    obtain ⟨results, collected⟩ := ih (d := (d.consume byte).2) clean.2 (by omega)
    constructor
    · rw [FramingDecoder.results, silent, results, List.length_cons, List.replicate_succ]
    · have step : d.after (byte :: bytes) = (d.consume byte).2.after bytes := rfl
      rw [step, collected, frame, List.append_assoc, List.singleton_append]

end FramingDecoder

/-- The bytes `encode_packet` writes into a buffer of `MAX_FRAME_SIZE` bytes. -/
def Packet.frame (packet : Packet) : List UInt8 :=
  match encodePacket packet (List.replicate maxFrameSize 0) with
  | (buffer, some length) => buffer.take length
  | (_, none) => []

theorem Packet.Legal.frame_eq {packet : Packet} (legal : packet.Legal) :
    packet.frame = stuff [] packet.raw ++ [0] := by
  have room : packet.payloadLen.toNat + 11 ≤ (List.replicate maxFrameSize (0 : UInt8)).length := by
    rw [List.length_replicate]
    exact legal.framed
  have length : packet.payloadLen.toNat + 11 = (stuff [] packet.raw ++ [(0 : UInt8)]).length := by
    rw [List.length_append, legal.frame_length, List.length_singleton]
  have split : ∀ rest : List UInt8,
      stuff [] packet.raw ++ 0 :: rest = (stuff [] packet.raw ++ [0]) ++ rest := by simp
  rw [Packet.frame, encodePacket_fits legal room]
  dsimp only
  rw [split, length, List.take_left]

namespace FramingDecoder

variable {d : FramingDecoder} {packet : Packet}

/-- What the decoder reports on the frame of a packet. -/
def reports (packet : Packet) : List FramingResult :=
  List.replicate (packet.payloadLen.toNat + 10) .NONE ++ [.PACKET packet.padded]

/-- An empty decoder reports a legal packet at its delimiter and is empty again. -/
theorem results_frame (empty : d.frame = []) (legal : packet.Legal) :
    d.results packet.frame = reports packet ∧ (d.after packet.frame).frame = [] := by
  have framed := legal.framed
  have clean : 0 ∉ stuff [] packet.raw := zero_notMem_stuff (by simp) (by decide)
  have room : d.frame.length + (stuff [] packet.raw).length ≤ maxFrameSize := by
    rw [empty, legal.frame_length, List.length_nil]
    omega
  obtain ⟨silent, collected⟩ := collect clean room
  rw [empty, List.nil_append] at collected
  have reported : ((d.after (stuff [] packet.raw)).consume 0).1 = .PACKET packet.padded := by
    rw [consume_zero_packet, collected]
    exact decodePacket_frame legal
  rw [legal.frame_eq, results_append, after_append, silent, legal.frame_length]
  exact ⟨congrArg (_ ++ [·]) reported, consume_zero_frame⟩

theorem results_frames (empty : d.frame = []) {packets : List Packet}
    (legal : ∀ packet ∈ packets, packet.Legal) :
    d.results (packets.flatMap Packet.frame) = packets.flatMap reports := by
  induction packets generalizing d with
  | nil => rfl
  | cons packet packets ih =>
    obtain ⟨here, later⟩ := List.forall_mem_cons.mp legal
    obtain ⟨results, emptied⟩ := results_frame empty here
    rw [List.flatMap_cons, List.flatMap_cons, results_append, results, ih emptied later]

end FramingDecoder

/-- Whatever was fed to the decoder, after a zero every legal packet sent is reported
once, at its delimiter and in order, and nothing else is reported. -/
theorem decoder_resynchronises (stream : List UInt8) (packets : List Packet)
    (legal : ∀ packet ∈ packets, packet.Legal) :
    (({} : FramingDecoder).after (stream ++ [0])).results (packets.flatMap Packet.frame) =
      packets.flatMap fun packet =>
        List.replicate (packet.payloadLen.toNat + 10) .NONE ++ [.PACKET packet.padded] := by
  apply FramingDecoder.results_frames ?_ legal
  rw [FramingDecoder.after_append]
  exact FramingDecoder.consume_zero_frame

/-- Two `PING`s after a frame cut short. -/
theorem decoder_resynchronises_pings :
    (({} : FramingDecoder).after ([0x03, 0x02, 0x01] ++ [0])).results
        ([{ msgId := 0x01, seq := 1 }, { msgId := 0x01, seq := 2 }].flatMap Packet.frame) =
      [{ msgId := 0x01, seq := 1 }, { msgId := 0x01, seq := 2 }].flatMap fun packet : Packet =>
        List.replicate (packet.payloadLen.toNat + 10) .NONE ++ [.PACKET packet.padded] :=
  decoder_resynchronises [0x03, 0x02, 0x01] _ (by decide)

/-! ## Runs that overflow the buffer -/

/-- The bytes since the last zero. -/
def lastRun (stream : List UInt8) : List UInt8 := (stream.reverse.takeWhile (· ≠ 0)).reverse

/-- What the decoder still holds of a run: it forgets every 142 bytes. -/
def heldOf (bytes : List UInt8) : List UInt8 := bytes.drop (bytes.length / 142 * 142)

theorem lastRun_zero (stream : List UInt8) : lastRun (stream ++ [0]) = [] := by
  simp [lastRun]

theorem lastRun_snoc {byte : UInt8} (stream : List UInt8) (nonzero : byte ≠ 0) :
    lastRun (stream ++ [byte]) = lastRun stream ++ [byte] := by
  simp [lastRun, nonzero]

theorem zero_notMem_lastRun (stream : List UInt8) : 0 ∉ lastRun stream := by
  intro zero
  rw [lastRun, List.mem_reverse] at zero
  have nonzero := List.all_eq_true.mp List.all_takeWhile 0 zero
  cases nonzero

theorem heldOf_length (bytes : List UInt8) : (heldOf bytes).length = bytes.length % 142 := by
  rw [heldOf, List.length_drop]
  omega

theorem heldOf_snoc {bytes : List UInt8} (byte : UInt8) :
    heldOf (bytes ++ [byte]) = if (heldOf bytes).length = 141 then [] else heldOf bytes ++ [byte] := by
  rw [heldOf_length]
  split
  case isTrue full =>
    apply List.drop_of_length_le
    rw [List.length_append, List.length_singleton]
    omega
  case isFalse room =>
    have same : (bytes ++ [byte]).length / 142 = bytes.length / 142 := by
      rw [List.length_append, List.length_singleton]
      omega
    rw [heldOf, same, List.drop_append_of_le_length (by omega), heldOf]

/-- A run within the buffer is held whole. -/
theorem heldOf_of_short {bytes : List UInt8} (short : bytes.length ≤ maxFrameSize) :
    heldOf bytes = bytes := by
  have none : bytes.length / 142 = 0 := Nat.div_eq_of_lt (Nat.lt_succ_of_le short)
  rw [heldOf, none, Nat.zero_mul, List.drop_zero]

/-- What a fresh decoder holds after a stream. -/
theorem FramingDecoder.after_frame (stream : List UInt8) :
    (({} : FramingDecoder).after stream).frame = heldOf (lastRun stream) := by
  induction stream using List.reverseRecOn with
  | nil => rfl
  | append_singleton stream byte ih =>
    rw [after_append]
    generalize ({} : FramingDecoder).after stream = d at *
    have step : d.after [byte] = (d.consume byte).2 := rfl
    rw [step]
    by_cases zero : byte = 0
    · subst zero
      rw [consume_zero_frame, lastRun_zero]
      rfl
    · rw [lastRun_snoc stream zero, heldOf_snoc, ← ih]
      split
      case isTrue full => exact consume_overflows zero full
      case isFalse unfilled =>
        have fits := d.fits
        exact (consume_collects zero (Nat.lt_of_le_of_ne fits unfilled)).2

/-- Every packet reported is that of the whole run before its zero, exactly in the
streams where what is held of an overflowing run before a zero is never a frame. -/
theorem packet_of_whole_run_iff (stream : List UInt8) :
    (∀ before after packet, stream = before ++ 0 :: after →
        ((({} : FramingDecoder).after before).consume 0).1 = .PACKET packet →
        decodePacket (lastRun before) = .ok packet) ↔
      ∀ before after packet, stream = before ++ 0 :: after →
        maxFrameSize < (lastRun before).length →
        decodePacket (heldOf (lastRun before)) ≠ .ok packet := by
  simp only [FramingDecoder.consume_zero_packet, FramingDecoder.after_frame]
  constructor
  · intro whole before after packet split long decoded
    have accepted := whole before after packet split decoded
    obtain ⟨length, legal⟩ := decodePacket_length (zero_notMem_lastRun before) accepted
    have framed := legal.framed
    omega
  · intro unheld before after packet split decoded
    by_cases short : (lastRun before).length ≤ maxFrameSize
    · rwa [heldOf_of_short short] at decoded
    · exact absurd decoded (unheld before after packet split (Nat.not_le.mp short))

/-- 142 stray bytes and the frame of a `PING`. -/
def overflowingPing : List UInt8 :=
  List.replicate 142 0x55 ++ [0x03, 0x02, 0x01, 0x02, 0x01, 0x01, 0x01, 0x03, 0x39, 0xA2]

/-- An overflowing run is reported as the packet its end would be. -/
theorem packet_of_overflowing_run :
    ¬ ∀ stream before after packet, stream = before ++ 0 :: after →
      ((({} : FramingDecoder).after before).consume 0).1 = .PACKET packet →
      decodePacket (lastRun before) = .ok packet := by
  intro whole
  have held : heldOf (lastRun overflowingPing) =
      [0x03, 0x02, 0x01, 0x02, 0x01, 0x01, 0x01, 0x03, 0x39, 0xA2] := by decide +kernel
  have reported : ((({} : FramingDecoder).after overflowingPing).consume 0).1 =
      .PACKET { msgId := 0x01, seq := 1 } := by
    rw [FramingDecoder.consume_zero_packet, FramingDecoder.after_frame, held]
    exact decodePacket_ping
  have accepted := whole _ overflowingPing [] _ rfl reported
  obtain ⟨length, -⟩ := decodePacket_length (zero_notMem_lastRun overflowingPing) accepted
  exact absurd length (by decide +kernel)

end Daft
