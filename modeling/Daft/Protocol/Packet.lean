import Daft.Protocol.Cobs
import Daft.Protocol.Crc
import Daft.Protocol.Wire

/-!
# Packets and their frames

`encode_packet` lays a packet out, appends its checksum, stuffs the bytes and
ends them with a zero; `decode_packet` takes the bytes before that zero. The
two are inverse to each other: a legal packet comes back from its frame, and a
frame that is accepted is the one its packet is encoded to.
-/

namespace Daft

open Logic

/-- `PROTOCOL_VERSION`. -/
abbrev protocolVersion : UInt8 := 2

/-- `HEADER_SIZE`. -/
abbrev headerSize : Nat := 7

/-- `CRC_SIZE`. -/
abbrev crcSize : Nat := 2

/-- `MAX_RAW_PACKET_SIZE`. -/
abbrev maxRawPacketSize : Nat := headerSize + maxPayloadSize + crcSize

/-- `MAX_FRAME_SIZE`. -/
abbrev maxFrameSize : Nat := maxRawPacketSize + 4

/-- The `raw_without_crc` bytes of a packet. -/
def Packet.rawWithoutCrc (packet : Packet) : List UInt8 :=
  [protocolVersion, packet.msgId, packet.flags] ++
    (writeU16 packet.seq ++ (writeU16 packet.payloadLen ++ packet.bytes))

/-- The bytes `encode_packet` stuffs. -/
def Packet.raw (packet : Packet) : List UInt8 :=
  packet.rawWithoutCrc ++ writeU16 (crc16Ccitt packet.rawWithoutCrc)

/-- `encode_packet` into the buffer `frame`: the buffer after it and the frame
length, `none` where it returns false. -/
def encodePacket (packet : Packet) (frame : List UInt8) : List UInt8 × Option Nat :=
  if packet.payloadLen.toNat > maxPayloadSize then (frame, none)
  else
    let (encoded, encodedLen) := cobsEncode packet.raw frame
    if encodedLen = 0 ∨ encodedLen + 1 > frame.length then (encoded, none)
    else (encoded.set encodedLen 0, some (encodedLen + 1))

/-- The second half of `decode_packet`, once the bytes are unstuffed. -/
def readPacket (raw : List UInt8) : Except ErrorCode Packet :=
  if raw.length < headerSize + crcSize then .error .ERR_BAD_PAYLOAD
  else if raw.getD 0 0 ≠ protocolVersion then .error .ERR_BAD_VERSION
  else
    let payloadLen := readU16 (raw.drop 5)
    if payloadLen.toNat > maxPayloadSize ∨
        raw.length ≠ headerSize + payloadLen.toNat + crcSize then .error .ERR_BAD_PAYLOAD
    else
      let expectedCrc := readU16 (raw.drop (headerSize + payloadLen.toNat))
      let actualCrc := crc16Ccitt (raw.take (headerSize + payloadLen.toNat))
      if expectedCrc ≠ actualCrc then .error .ERR_BAD_CRC
      else .ok { msgId := raw.getD 1 0, flags := raw.getD 2 0, seq := readU16 (raw.drop 3),
                 payloadLen, payload := Payload.ofBytes ((raw.drop headerSize).take payloadLen.toNat) }

/-- `decode_packet`: the packet, or the error where it returns false. -/
def decodePacket (frame : List UInt8) : Except ErrorCode Packet :=
  match cobsDecode frame maxRawPacketSize with
  | none => .error .ERR_BAD_PAYLOAD
  | some raw => readPacket raw

/-- A payload length the buffer has room for. -/
def Packet.Legal (packet : Packet) : Prop := packet.payloadLen.toNat ≤ maxPayloadSize

instance (packet : Packet) : Decidable packet.Legal :=
  inferInstanceAs (Decidable (packet.payloadLen.toNat ≤ maxPayloadSize))

/-- The packet with the unused rest of its payload zeroed. -/
def Packet.padded (packet : Packet) : Packet :=
  { packet with payload := Payload.ofBytes packet.bytes }

/-! ## Sizes -/

section

variable {packet : Packet} {frame : List UInt8}

theorem Payload.ofBytes_toList {bytes : List UInt8} (fits : bytes.length ≤ maxPayloadSize) :
    (Payload.ofBytes bytes).toList = bytes ++ List.replicate (maxPayloadSize - bytes.length) 0 := by
  simp [Payload.ofBytes, List.take_append, List.take_of_length_le fits]

/-- The bytes written to a payload buffer are found there. -/
theorem Payload.take_ofBytes {bytes : List UInt8} (fits : bytes.length ≤ maxPayloadSize) :
    (Payload.ofBytes bytes).toList.take bytes.length = bytes := by
  rw [Payload.ofBytes_toList fits, List.take_left]

theorem Packet.Legal.bytes_length (legal : packet.Legal) :
    packet.bytes.length = packet.payloadLen.toNat := by
  rw [Packet.bytes, List.length_take, Vector.length_toList]
  exact Nat.min_eq_left legal

theorem Packet.Legal.rawWithoutCrc_length (legal : packet.Legal) :
    packet.rawWithoutCrc.length = 7 + packet.payloadLen.toNat := by
  simp only [Packet.rawWithoutCrc, writeU16, List.length_append, List.length_cons, List.length_nil,
    legal.bytes_length]
  omega

theorem Packet.Legal.raw_length (legal : packet.Legal) :
    packet.raw.length = packet.payloadLen.toNat + 9 := by
  simp only [Packet.raw, writeU16, List.length_append, List.length_cons, List.length_nil,
    legal.rawWithoutCrc_length]
  omega

theorem Packet.Legal.short (legal : packet.Legal) : packet.raw.length ≤ 137 := by
  have fits : packet.payloadLen.toNat ≤ 128 := legal
  rw [legal.raw_length]
  omega

/-- A packet is far shorter than a full block, so one code byte is added. -/
theorem Packet.Legal.frame_length (legal : packet.Legal) :
    (stuff [] packet.raw).length = packet.payloadLen.toNat + 10 := by
  have short := legal.short
  rw [length_stuff, legal.raw_length, List.length_nil]
  · omega
  · rw [List.length_nil]
    omega

/-- `MAX_FRAME_SIZE` leaves room for every legal packet. -/
theorem Packet.Legal.framed (legal : packet.Legal) :
    packet.payloadLen.toNat + 11 ≤ maxFrameSize :=
  Nat.le_trans (Nat.add_le_add_right legal 11) (by decide)

/-! ## Encoding -/

/-- A legal packet is encoded wherever its frame and the zero fit. -/
theorem encodePacket_fits (legal : packet.Legal)
    (room : packet.payloadLen.toNat + 11 ≤ frame.length) :
    encodePacket packet frame =
      (stuff [] packet.raw ++ 0 :: frame.drop (packet.payloadLen.toNat + 11),
        some (packet.payloadLen.toNat + 11)) := by
  have length := legal.frame_length
  have taken : (frame.take (packet.payloadLen.toNat + 10)).length =
      (stuff [] packet.raw).length := by
    rw [List.length_take, length]
    omega
  have encoded := cobsEncode_fits taken (frame.drop (packet.payloadLen.toNat + 10))
  rw [List.take_append_drop, length] at encoded
  have fits : packet.payloadLen.toNat ≤ maxPayloadSize := legal
  have next : frame.drop (packet.payloadLen.toNat + 10) =
      frame[packet.payloadLen.toNat + 10] :: frame.drop (packet.payloadLen.toNat + 11) :=
    List.drop_eq_getElem_cons room
  rw [encodePacket, if_neg (Nat.not_lt.mpr fits), encoded]
  dsimp only
  rw [if_neg (by omega), next]
  generalize frame[packet.payloadLen.toNat + 10] = old
  rw [← length, List.set_append_right _ _ (Nat.le_refl _), Nat.sub_self, List.set_cons_zero, length]

/-- Otherwise `encode_packet` returns false. -/
theorem encodePacket_refuses
    (refused : ¬ (packet.Legal ∧ packet.payloadLen.toNat + 11 ≤ frame.length)) :
    (encodePacket packet frame).2 = none := by
  by_cases legal : packet.Legal
  · have short : ¬ packet.payloadLen.toNat + 11 ≤ frame.length := fun room => refused ⟨legal, room⟩
    have length := legal.frame_length
    have fits : packet.payloadLen.toNat ≤ maxPayloadSize := legal
    rw [encodePacket, if_neg (Nat.not_lt.mpr fits)]
    dsimp only
    by_cases exact_ : frame.length = (stuff [] packet.raw).length
    · have encoded := cobsEncode_fits exact_ []
      rw [List.append_nil] at encoded
      rw [encoded, if_pos (.inr (by omega))]
    · rw [cobsEncode_overflows (by omega), if_pos (.inl rfl)]
  · have long : packet.payloadLen.toNat > maxPayloadSize := Nat.not_le.mp legal
    rw [encodePacket, if_pos long]

/-! ## Decoding -/

theorem decodePacket_eq (frame : List UInt8) :
    decodePacket frame =
      match (unstuff frame).filter (·.length ≤ maxRawPacketSize) with
      | none => .error .ERR_BAD_PAYLOAD
      | some raw => readPacket raw := by
  rw [decodePacket, cobsDecode_eq]

/-- The bytes of a legal packet read as that packet. -/
theorem readPacket_raw (legal : packet.Legal) : readPacket packet.raw = .ok packet.padded := by
  have length := legal.raw_length
  have body := legal.rawWithoutCrc_length
  have fits : packet.payloadLen.toNat ≤ 128 := legal
  have version : packet.raw.getD 0 0 = protocolVersion := rfl
  have payloadLen : readU16 (packet.raw.drop 5) = packet.payloadLen := readU16_writeU16 ..
  have seq : readU16 (packet.raw.drop 3) = packet.seq := readU16_writeU16 ..
  have crc : packet.raw.drop (7 + packet.payloadLen.toNat) =
      writeU16 (crc16Ccitt packet.rawWithoutCrc) := by
    rw [Packet.raw, ← body, List.drop_left]
  have crc' : readU16 (packet.raw.drop (7 + packet.payloadLen.toNat)) =
      crc16Ccitt packet.rawWithoutCrc := by
    rw [crc]
    exact readU16_writeU16 _ []
  have checked : packet.raw.take (7 + packet.payloadLen.toNat) = packet.rawWithoutCrc := by
    rw [Packet.raw, ← body, List.take_left]
  have bytes : (packet.raw.drop 7).take packet.payloadLen.toNat = packet.bytes := by
    have dropped : packet.raw.drop 7 = packet.bytes ++ writeU16 (crc16Ccitt packet.rawWithoutCrc) := rfl
    rw [dropped, ← legal.bytes_length, List.take_left]
  have long : ¬ packet.raw.length < 9 := by omega
  have sized : ¬ (packet.payloadLen.toNat > 128 ∨
      packet.raw.length ≠ 7 + packet.payloadLen.toNat + 2) := by omega
  simp only [readPacket, headerSize, crcSize, maxPayloadSize, payloadLen, crc', checked, bytes, seq]
  rw [if_neg long, if_neg (Decidable.not_not.mpr version), if_neg sized, if_neg (Decidable.not_not.mpr rfl)]
  rfl

/-- The fields before the checksum, in order. -/
theorem take_fields (raw : List UInt8) (payloadLen : Nat) :
    raw.take (7 + payloadLen) = raw.take 3 ++
      ((raw.drop 3).take 2 ++ ((raw.drop 5).take 2 ++ (raw.drop 7).take payloadLen)) := by
  have regroup : 7 + payloadLen = 3 + (2 + (2 + payloadLen)) := by omega
  rw [regroup, List.take_add, List.take_add, List.take_add, List.drop_drop, List.drop_drop]

theorem take_three {raw : List UInt8} (there : 3 ≤ raw.length) :
    raw.take 3 = [raw.getD 0 0, raw.getD 1 0, raw.getD 2 0] := by
  match raw, there with
  | _ :: _ :: _ :: _, _ => rfl

/-- Bytes that read as a packet are the bytes of that packet. -/
theorem readPacket_sound {raw : List UInt8} (read : readPacket raw = .ok packet) :
    packet.Legal ∧ packet.padded = packet ∧ packet.raw = raw := by
  simp only [readPacket, headerSize, crcSize, maxPayloadSize] at read
  split at read
  · cases read
  split at read
  · cases read
  split at read
  · cases read
  split at read
  · cases read
  case isFalse short version sized checked =>
    obtain ⟨legal, length⟩ := not_or.mp sized
    generalize lengthField : readU16 (raw.drop 5) = payloadLen at *
    have slice : ((raw.drop 7).take payloadLen.toNat).length = payloadLen.toNat := by
      rw [List.length_take, List.length_drop]
      omega
    have decoded := (Except.ok.inj read).symm
    have legal : packet.Legal := by
      rw [decoded]
      exact Nat.not_lt.mp legal
    have bytes : packet.bytes = (raw.drop 7).take payloadLen.toNat := by
      have fits : ((raw.drop 7).take payloadLen.toNat).length ≤ 128 := by omega
      have taken := Payload.take_ofBytes fits
      rw [slice] at taken
      rw [decoded, Packet.bytes, taken]
    have seqField : writeU16 packet.seq = (raw.drop 3).take 2 := by
      rw [decoded]
      exact writeU16_readU16 (by rw [List.length_drop]; omega)
    have lengthBytes : writeU16 packet.payloadLen = (raw.drop 5).take 2 := by
      rw [decoded, ← lengthField]
      exact writeU16_readU16 (by rw [List.length_drop]; omega)
    have body : packet.rawWithoutCrc = raw.take (7 + payloadLen.toNat) := by
      rw [Packet.rawWithoutCrc, seqField, lengthBytes, bytes, take_fields, take_three (by omega),
        Decidable.not_not.mp version, decoded]
    have crc : writeU16 (crc16Ccitt packet.rawWithoutCrc) = raw.drop (7 + payloadLen.toNat) := by
      rw [body, ← Decidable.not_not.mp checked, writeU16_readU16 (by rw [List.length_drop]; omega),
        List.take_of_length_le (by rw [List.length_drop]; omega)]
    refine ⟨legal, ?_, ?_⟩
    · rw [Packet.padded, bytes, decoded]
    · rw [Packet.raw, crc, body, List.take_append_drop]

/-- The frame of a legal packet decodes to it. -/
theorem decodePacket_frame (legal : packet.Legal) :
    decodePacket (stuff [] packet.raw) = .ok packet.padded := by
  have read : unstuff (stuff [] packet.raw) = some packet.raw := unstuff_stuff (by decide)
  have fits : packet.raw.length ≤ maxRawPacketSize := legal.short
  rw [decodePacket_eq, read, Option.filter_some, if_pos (decide_eq_true fits)]
  exact readPacket_raw legal

/-- A frame without zeros that is accepted is the frame of its packet. -/
theorem decodePacket_sound (clean : 0 ∉ frame) (decoded : decodePacket frame = .ok packet) :
    packet.Legal ∧ packet.padded = packet ∧ stuff [] packet.raw = frame := by
  rw [decodePacket_eq] at decoded
  cases unstuffed : (unstuff frame).filter (·.length ≤ maxRawPacketSize) with
  | none =>
    rw [unstuffed] at decoded
    cases decoded
  | some raw =>
    rw [unstuffed] at decoded
    obtain ⟨read, fits⟩ := Option.filter_eq_some_iff.mp unstuffed
    obtain ⟨legal, padded, rfl⟩ := readPacket_sound decoded
    have short := legal.short
    refine ⟨legal, padded, stuff_unstuff frame clean ?_ read (by omega)⟩
    rintro rfl
    have length := legal.raw_length
    rw [unstuff, Option.some_inj] at read
    rw [← read, List.length_nil] at length
    omega

/-- What is accepted is short. -/
theorem decodePacket_length (clean : 0 ∉ frame) (decoded : decodePacket frame = .ok packet) :
    frame.length = packet.payloadLen.toNat + 10 ∧ packet.Legal := by
  obtain ⟨legal, -, rfl⟩ := decodePacket_sound clean decoded
  exact ⟨legal.frame_length, legal⟩

end

/-! ## Main results -/

/-- `encode_packet` succeeds exactly for a legal packet whose frame fits; it then
writes `payload_len + 11` bytes, a zero after bytes without zeros, and those
bytes decode to the packet, its payload padded with zeros. -/
theorem packet_round_trip (packet : Packet) (frame : List UInt8) :
    ((encodePacket packet frame).2.isSome = true ↔
        packet.Legal ∧ packet.payloadLen.toNat + 11 ≤ frame.length) ∧
      (∀ buffer length, encodePacket packet frame = (buffer, some length) →
        length = packet.payloadLen.toNat + 11 ∧ ∃ encoded, encoded.length + 1 = length ∧
          0 ∉ encoded ∧ buffer = encoded ++ 0 :: frame.drop length ∧
          decodePacket encoded = .ok packet.padded) ∧
      (packet.Legal → frame.length = maxFrameSize →
        (encodePacket packet frame).2.isSome = true) := by
  have succeeds : (encodePacket packet frame).2.isSome = true ↔
      packet.Legal ∧ packet.payloadLen.toNat + 11 ≤ frame.length := by
    constructor
    · intro some
      apply Decidable.byContradiction
      intro refused
      rw [encodePacket_refuses refused] at some
      cases some
    · rintro ⟨legal, room⟩
      rw [encodePacket_fits legal room]
      rfl
  refine ⟨succeeds, ?_, ?_⟩
  · intro buffer length encodes
    obtain ⟨legal, room⟩ := succeeds.mp (by rw [encodes]; rfl)
    rw [encodePacket_fits legal room] at encodes
    obtain ⟨rfl, same⟩ := Prod.mk.inj encodes
    obtain rfl := Option.some.inj same
    refine ⟨rfl, _, ?_, ?_, rfl, decodePacket_frame legal⟩
    · rw [legal.frame_length]
    · exact zero_notMem_stuff (by simp) (by decide)
  · intro legal size
    exact succeeds.mpr ⟨legal, size ▸ legal.framed⟩

/-- A frame without zeros that `decode_packet` accepts is, with the zero after it,
what `encode_packet` makes of its packet; no other frame decodes to that packet. -/
theorem accepted_frame_canonical (frame : List UInt8) (packet : Packet) (clean : 0 ∉ frame)
    (decoded : decodePacket frame = .ok packet) :
    (∀ buffer : List UInt8, buffer.length = maxFrameSize →
        encodePacket packet buffer =
          (frame ++ 0 :: buffer.drop (frame.length + 1), some (frame.length + 1))) ∧
      ∀ other, 0 ∉ other → decodePacket other = .ok packet → other = frame := by
  obtain ⟨legal, -, canonical⟩ := decodePacket_sound clean decoded
  constructor
  · intro buffer size
    have length := legal.frame_length
    rw [canonical] at length
    rw [encodePacket_fits legal (size ▸ legal.framed), canonical, length]
  · intro other clean' decoded'
    obtain ⟨-, -, canonical'⟩ := decodePacket_sound clean' decoded'
    exact canonical'.symm.trans canonical

/-- The frame of a `PING` with sequence number 1. -/
theorem decodePacket_ping :
    decodePacket [0x03, 0x02, 0x01, 0x02, 0x01, 0x01, 0x01, 0x03, 0x39, 0xA2] =
      .ok { msgId := 0x01, seq := 1 } := by
  have frame : stuff [] (Packet.raw { msgId := 0x01, seq := 1 }) =
      [0x03, 0x02, 0x01, 0x02, 0x01, 0x01, 0x01, 0x03, 0x39, 0xA2] := by decide +kernel
  have padded : Packet.padded { msgId := 0x01, seq := 1 } = { msgId := 0x01, seq := 1 } := by
    decide +kernel
  have legal : Packet.Legal { msgId := 0x01, seq := 1 } := by decide
  have decoded := decodePacket_frame legal
  rwa [frame, padded] at decoded

/-- It is encoded so, here into a zeroed buffer. -/
theorem accepted_frame_canonical_ping :
    encodePacket { msgId := 0x01, seq := 1 } (List.replicate maxFrameSize 0) =
      ([0x03, 0x02, 0x01, 0x02, 0x01, 0x01, 0x01, 0x03, 0x39, 0xA2] ++
        0 :: (List.replicate maxFrameSize 0).drop 11, some 11) := by
  obtain ⟨encoded, -⟩ := accepted_frame_canonical _ _ (by decide) decodePacket_ping
  exact encoded _ List.length_replicate

end Daft
