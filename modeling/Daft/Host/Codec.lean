import Daft.Protocol.Packet

/-!
# The host codec

`codec.py`, in terms of Python's integers and byte strings: unbounded output,
`struct` for the fields, and an exception, given by its message, for everything
that is refused. It is the same codec as the firmware's.
-/

namespace Daft.Host.Codec

open Logic

/-- `VERSION`. -/
abbrev version : Nat := 2

/-- `MAX_PAYLOAD_SIZE`. -/
abbrev maxPayloadSize : Nat := 128

/-- `HEADER_SIZE`. -/
abbrev headerSize : Nat := 7

/-- `Packet`. -/
structure Packet where
  msgId : Nat
  flags : Nat := 0
  seq : Nat := 0
  payload : List UInt8 := []
  deriving DecidableEq

/-- One round of the bit loop of `crc16_ccitt`. -/
def crcBit (crc : Nat) : Nat :=
  if crc &&& 0x8000 ≠ 0 then ((crc <<< 1) ^^^ 0x1021) &&& 0xFFFF else (crc <<< 1) &&& 0xFFFF

/-- One round of its byte loop. -/
def crcByte (crc : Nat) (byte : UInt8) : Nat := Nat.repeat crcBit 8 (crc ^^^ (byte.toNat <<< 8))

def crc16Ccitt (data : List UInt8) : Nat := data.foldl crcByte 0xFFFF

/-- The loop of `cobs_encode` over `out`, `code_index` and `code`. -/
def cobsEncodeLoop : List UInt8 → List UInt8 → Nat → Nat → List UInt8
  | [], out, codeIndex, code => out.set codeIndex (UInt8.ofNat code)
  | byte :: data, out, codeIndex, code =>
    if byte = 0 then
      cobsEncodeLoop data (out.set codeIndex (UInt8.ofNat code) ++ [0]) out.length 1
    else
      let out := out ++ [byte]
      let code := code + 1
      if code = 0xFF then
        cobsEncodeLoop data (out.set codeIndex (UInt8.ofNat code) ++ [0]) out.length 1
      else cobsEncodeLoop data out codeIndex code

def cobsEncode (data : List UInt8) : List UInt8 := cobsEncodeLoop data [0] 0 1

/-- The loop of `cobs_decode` on the data from `index` on. -/
def cobsDecodeLoop (out : List UInt8) : List UInt8 → Except String (List UInt8)
  | [] => .ok out
  | code :: data =>
    if code.toNat = 0 then .error "zero byte inside COBS frame"
    else
      let blockEnd := code.toNat - 1
      if blockEnd > data.length then .error "truncated COBS block"
      else
        let out := out ++ data.take blockEnd
        if code.toNat < 0xFF ∧ 0 < (data.drop blockEnd).length then
          cobsDecodeLoop (out ++ [0]) (data.drop blockEnd)
        else cobsDecodeLoop out (data.drop blockEnd)
termination_by data => data.length
decreasing_by
  all_goals
    rw [List.length_drop, List.length_cons]
    omega

def cobsDecode (data : List UInt8) : Except String (List UInt8) := cobsDecodeLoop [] data

/-- `struct.pack("<B", value)` of a value in range. -/
def packU8 (value : Nat) : List UInt8 := [UInt8.ofNat value]

/-- `struct.pack("<H", value)` of a value in range. -/
def packU16 (value : Nat) : List UInt8 := [UInt8.ofNat value, UInt8.ofNat (value / 256)]

/-- `struct.unpack_from("<H", raw, offset)[0]`. -/
def unpackU16 (raw : List UInt8) (offset : Nat) : Nat :=
  (raw.getD offset 0).toNat + 256 * (raw.getD (offset + 1) 0).toNat

/-- The packet bytes before the checksum. -/
def header (msgId seq flags : Nat) (payload : List UInt8) : List UInt8 :=
  packU8 version ++ packU8 msgId ++ packU8 flags ++ packU16 seq ++ packU16 payload.length ++ payload

def encodePacket (msgId seq : Int) (payload : List UInt8) (flags : Int) :
    Except String (List UInt8) :=
  if ¬ (0 ≤ msgId ∧ msgId ≤ 0xFF) then .error "msg_id must fit in u8"
  else if ¬ (0 ≤ flags ∧ flags ≤ 0xFF) then .error "flags must fit in u8"
  else if ¬ (0 ≤ seq ∧ seq ≤ 0xFFFF) then .error "seq must fit in u16"
  else if payload.length > maxPayloadSize then .error s!"payload exceeds {maxPayloadSize} bytes"
  else
    let raw := header msgId.toNat seq.toNat flags.toNat payload
    .ok (cobsEncode (raw ++ packU16 (crc16Ccitt raw)) ++ [0])

/-- `decode_packet`, once the bytes are unstuffed. -/
def readPacket (raw : List UInt8) : Except String Packet :=
  if raw.length < headerSize + 2 then .error "short packet"
  else
    let received := (raw.getD 0 0).toNat
    let payloadLen := unpackU16 raw 5
    if received ≠ version then .error s!"unsupported protocol version {received}"
    else if payloadLen > maxPayloadSize then .error "payload too large"
    else if raw.length ≠ headerSize + payloadLen + 2 then .error "packet length mismatch"
    else if crc16Ccitt (raw.take (headerSize + payloadLen)) ≠
        unpackU16 raw (headerSize + payloadLen) then .error "bad CRC"
    else
      .ok { msgId := (raw.getD 1 0).toNat, flags := (raw.getD 2 0).toNat, seq := unpackU16 raw 3,
            payload := (raw.drop headerSize).take payloadLen }

def decodePacket (frame : List UInt8) : Except String Packet :=
  match cobsDecode frame with
  | .error message => .error message
  | .ok raw => readPacket raw

/-! ## The checksum -/

/-- The host computes in integers what the firmware computes in half words. -/
theorem crcBit_toNat (crc : UInt16) : crcBit crc.toNat = (Daft.crcBit crc).toNat := by
  have masked : ∀ value : Nat, value &&& 0xFFFF = value % 65536 := fun value =>
    Nat.and_two_pow_sub_one_eq_mod value 16
  have shifted : (crc <<< 1).toNat = (crc.toNat <<< 1) &&& 0xFFFF := by
    rw [masked]
    exact UInt16.toNat_shiftLeft ..
  have top : crc &&& 0x8000 = 0 ↔ crc.toNat &&& 0x8000 = 0 := by
    rw [← UInt16.toNat_inj, UInt16.toNat_and]
    rfl
  rw [crcBit, Daft.crcBit]
  by_cases clear : crc.toNat &&& 0x8000 = 0
  · rw [if_neg (Decidable.not_not.mpr clear), if_neg (Decidable.not_not.mpr (top.mpr clear)), shifted]
  · rw [if_pos clear, if_pos (mt top.mp clear), UInt16.toNat_xor, shifted, masked, masked]
    exact Nat.xor_mod_two_pow (n := 16)

/-- So it does over a byte. -/
theorem crcByte_toNat (crc : UInt16) (byte : UInt8) :
    crcByte crc.toNat byte = (Daft.crcByte crc byte).toNat := by
  have rounds : ∀ n (crc : UInt16),
      Nat.repeat crcBit n crc.toNat = (Nat.repeat Daft.crcBit n crc).toNat := by
    intro n crc
    induction n with
    | zero => rfl
    | succ n ih => rw [Nat.repeat, ih, crcBit_toNat, Nat.repeat]
  have mixed : crc.toNat ^^^ (byte.toNat <<< 8) = (crc ^^^ (byte.toUInt16 <<< 8)).toNat := by
    have bound := byte.toNat_lt
    have shifted : (byte.toUInt16 <<< 8).toNat = (byte.toNat <<< 8) % 65536 :=
      UInt16.toNat_shiftLeft ..
    rw [UInt16.toNat_xor, shifted, Nat.shiftLeft_eq, Nat.mod_eq_of_lt (by omega)]
  rw [crcByte, Daft.crcByte, mixed, rounds]

/-- So it does over a message. -/
theorem crc16Ccitt_toNat (data : List UInt8) :
    crc16Ccitt data = (Daft.crc16Ccitt data).toNat := by
  have rounds : ∀ (crc : UInt16), data.foldl crcByte crc.toNat = (data.foldl Daft.crcByte crc).toNat := by
    induction data with
    | nil => exact fun _ => rfl
    | cons byte data ih =>
      intro crc
      rw [List.foldl_cons, List.foldl_cons, crcByte_toNat, ih]
  exact rounds 0xFFFF

/-! ## Byte stuffing -/

section

variable {done block : List UInt8} {hole : UInt8}

/-- Closing a block: its code is written and a hole left for the next. -/
theorem close_block (size : Nat) (counted : size = block.length + 1) :
    (done ++ hole :: block).set done.length (UInt8.ofNat size) ++ [0] =
      (done ++ blockCode block :: block) ++ 0 :: [] := by
  simp [blockCode, counted]

theorem close_index :
    (done ++ hole :: block).length = (done ++ blockCode block :: block).length := by
  simp

/-- The loop with `block` open after the blocks `done`. -/
theorem cobsEncodeLoop_eq (data : List UInt8) (short : block.length < 254) :
    cobsEncodeLoop data (done ++ hole :: block) done.length (block.length + 1) =
      done ++ stuff block data := by
  induction data generalizing done block hole with
  | nil => simp [cobsEncodeLoop, stuff, blockCode]
  | cons byte data ih =>
    have closed : ∀ block : List UInt8,
        cobsEncodeLoop data ((done ++ blockCode block :: block) ++ 0 :: [])
            (done ++ blockCode block :: block).length 1 =
          done ++ blockCode block :: (block ++ stuff [] data) := by
      intro block
      have rest : cobsEncodeLoop data ((done ++ blockCode block :: block) ++ 0 :: [])
          (done ++ blockCode block :: block).length ([].length + 1) =
            (done ++ blockCode block :: block) ++ stuff [] data := ih (by decide)
      exact rest.trans (by simp)
    have grown : (block ++ [byte]).length = block.length + 1 := by simp
    have appended : (done ++ hole :: block) ++ [byte] = done ++ hole :: (block ++ [byte]) := by simp
    rw [cobsEncodeLoop, stuff]
    by_cases zero : byte = 0
    · rw [if_pos zero, if_pos zero, close_block _ rfl, close_index, closed]
    · rw [if_neg zero, if_neg zero, appended]
      dsimp only
      by_cases full : block.length + 1 = 254
      · have code : block.length + 1 + 1 = 0xFF := by omega
        rw [if_pos code, if_pos full, close_block _ (by omega), close_index, closed]
        simp
      · have code : block.length + 1 + 1 ≠ 0xFF := by omega
        rw [if_neg code, if_neg full, ← grown]
        apply ih
        omega

end

/-- The host stuffs as the library does. -/
theorem cobsEncode_eq (data : List UInt8) : cobsEncode data = stuff [] data := by
  have laid : cobsEncodeLoop data ([] ++ 0 :: []) ([] : List UInt8).length ([].length + 1) =
      [] ++ stuff [] data := cobsEncodeLoop_eq data (by decide)
  exact laid

/-- The loop of the host, from any output. -/
theorem cobsDecodeLoop_eq (data out : List UInt8) :
    (cobsDecodeLoop out data).toOption = (unstuff data).map (out ++ ·) := by
  induction data using unstuff.induct generalizing out with
  | case1 => simp [cobsDecodeLoop, unstuff, Except.toOption]
  | case2 code rest refused =>
    rw [cobsDecodeLoop, unstuff, if_pos refused]
    by_cases zero : code.toNat = 0
    · rw [if_pos zero]
      rfl
    · have truncated : code.toNat - 1 > rest.length :=
        refused.resolve_left fun none => zero (by rw [none]; rfl)
      rw [if_neg zero]
      dsimp only
      rw [if_pos truncated]
      rfl
  | case3 code rest accepted ih =>
    obtain ⟨nonzero, there⟩ := not_or.mp accepted
    have counted : code.toNat ≠ 0 := fun zero => nonzero (UInt8.toNat_inj.mp zero)
    rw [cobsDecodeLoop, if_neg counted]
    dsimp only
    rw [if_neg there, unstuff, if_neg accepted]
    generalize rest.take (code.toNat - 1) = block at *
    generalize rest.drop (code.toNat - 1) = later at *
    by_cases more : code.toNat < 0xFF ∧ 0 < later.length
    · have zero : gap code later = [0] := by
        apply gap_short (UInt8.lt_iff_toNat_lt.mpr more.1)
        exact List.length_pos_iff.mp more.2
      rw [if_pos more, zero, ih]
      simp [Option.map_map, Function.comp_def]
    · have nothing : gap code later = [] := by
        apply if_neg
        rintro ⟨short, nonempty⟩
        exact more ⟨UInt8.lt_iff_toNat_lt.mp short, List.length_pos_iff.mpr nonempty⟩
      rw [if_neg more, nothing, ih]
      simp [Option.map_map, Function.comp_def]

/-- The host unstuffs as the library does. -/
theorem cobsDecode_eq (data : List UInt8) : (cobsDecode data).toOption = unstuff data := by
  rw [cobsDecode, cobsDecodeLoop_eq]
  simp

/-! ## Fields -/

theorem unpackU16_eq (raw : List UInt8) (offset : Nat) :
    unpackU16 raw offset = (readU16 (raw.drop offset)).toNat := by
  have low := (raw.getD offset 0).toNat_lt
  have high := (raw.getD (offset + 1) 0).toNat_lt
  have shifted : ((raw.getD (offset + 1) 0).toUInt16 <<< 8).toNat =
      ((raw.getD (offset + 1) 0).toNat <<< 8) % 65536 := UInt16.toNat_shiftLeft ..
  have first : (raw.drop offset).getD 0 0 = raw.getD offset 0 := by
    simp [List.getD_eq_getElem?_getD]
  have second : (raw.drop offset).getD 1 0 = raw.getD (offset + 1) 0 := by
    simp [List.getD_eq_getElem?_getD]
  rw [readU16, first, second, UInt16.toNat_or, shifted, UInt8.toNat_toUInt16, Nat.or_comm,
    Nat.shiftLeft_eq, Nat.mod_eq_of_lt (by omega), ← Nat.shiftLeft_eq,
    ← Nat.shiftLeft_add_eq_or_of_lt low, Nat.shiftLeft_eq, unpackU16]
  omega

theorem packU16_toNat (value : UInt16) : packU16 value.toNat = writeU16 value := by
  have shifted : (value >>> 8).toNat = value.toNat / 256 := by
    rw [UInt16.toNat_shiftRight]
    exact Nat.shiftRight_eq_div_pow value.toNat 8
  rw [packU16, ← shifted, UInt8.ofNat_uInt16ToNat, UInt8.ofNat_uInt16ToNat, writeU16]

/-- What the host keeps of a packet. -/
def received (packet : Daft.Packet) : Packet :=
  { msgId := packet.msgId.toNat, flags := packet.flags.toNat, seq := packet.seq.toNat,
    payload := packet.bytes }

/-- The host refuses what the firmware refuses, and what is too long for a frame. -/
theorem readPacket_eq (raw : List UInt8) :
    (readPacket raw).toOption =
      if raw.length ≤ maxRawPacketSize then (Daft.readPacket raw).toOption.map received else none := by
  have version : (raw.getD 0 0).toNat ≠ version ↔ raw.getD 0 0 ≠ protocolVersion :=
    not_congr (UInt8.toNat_inj (b := protocolVersion))
  have crc : crc16Ccitt (raw.take (headerSize + (readU16 (raw.drop 5)).toNat)) ≠
        unpackU16 raw (headerSize + (readU16 (raw.drop 5)).toNat) ↔
      readU16 (raw.drop (headerSize + (readU16 (raw.drop 5)).toNat)) ≠
        Daft.crc16Ccitt (raw.take (headerSize + (readU16 (raw.drop 5)).toNat)) := by
    rw [crc16Ccitt_toNat, unpackU16_eq]
    exact not_congr (UInt16.toNat_inj.trans eq_comm)
  simp only [readPacket, Daft.readPacket, crcSize, unpackU16_eq raw 5, version, crc]
  by_cases short : raw.length < headerSize + 2
  · rw [if_pos short, if_pos short]
    exact (ite_self none).symm
  rw [if_neg short, if_neg short]
  by_cases other : raw.getD 0 0 ≠ protocolVersion
  · rw [if_pos other, if_pos other]
    exact (ite_self none).symm
  rw [if_neg other, if_neg other]
  by_cases large : (readU16 (raw.drop 5)).toNat > maxPayloadSize
  · have refused : (readU16 (raw.drop 5)).toNat > maxPayloadSize ∨
        raw.length ≠ headerSize + (readU16 (raw.drop 5)).toNat + 2 := .inl large
    rw [if_pos large, if_pos refused]
    exact (ite_self none).symm
  rw [if_neg large]
  by_cases mismatch : raw.length ≠ headerSize + (readU16 (raw.drop 5)).toNat + 2
  · have refused : (readU16 (raw.drop 5)).toNat > maxPayloadSize ∨
        raw.length ≠ headerSize + (readU16 (raw.drop 5)).toNat + 2 := .inr mismatch
    rw [if_pos mismatch, if_pos refused]
    exact (ite_self none).symm
  have fits : raw.length ≤ maxRawPacketSize := by
    rw [Decidable.not_not.mp mismatch]
    exact Nat.add_le_add_right (Nat.add_le_add_left (Nat.not_lt.mp large) 7) 2
  rw [if_neg mismatch, if_neg (not_or.mpr ⟨large, mismatch⟩), if_pos fits]
  by_cases corrupt : readU16 (raw.drop (headerSize + (readU16 (raw.drop 5)).toNat)) ≠
      Daft.crc16Ccitt (raw.take (headerSize + (readU16 (raw.drop 5)).toNat))
  · rw [if_pos corrupt, if_pos corrupt]
    rfl
  have slice : ((raw.drop headerSize).take (readU16 (raw.drop 5)).toNat).length =
      (readU16 (raw.drop 5)).toNat := by
    rw [List.length_take, List.length_drop]
    omega
  have bytes := Payload.take_ofBytes (Nat.le_trans (Nat.le_of_eq slice) (Nat.not_lt.mp large))
  rw [slice] at bytes
  rw [if_neg corrupt, if_neg corrupt]
  simp only [Except.toOption, Option.map_some, received, Packet.bytes, bytes, unpackU16_eq]

/-! ## Frames -/

/-- The host lays a packet out as the firmware does. -/
theorem header_eq {packet : Daft.Packet} (legal : packet.Legal) :
    header packet.msgId.toNat packet.seq.toNat packet.flags.toNat packet.bytes =
      packet.rawWithoutCrc := by
  rw [header, legal.bytes_length, packU16_toNat, packU16_toNat, packU8, packU8, packU8,
    UInt8.ofNat_toNat, UInt8.ofNat_toNat, Packet.rawWithoutCrc]
  simp [version]

/-- The frame of the host is the frame of the firmware. -/
theorem encodePacket_eq {packet : Daft.Packet} (legal : packet.Legal) :
    encodePacket packet.msgId.toNat packet.seq.toNat packet.bytes packet.flags.toNat =
      .ok (stuff [] packet.raw ++ [0]) := by
  have msgId := packet.msgId.toNat_lt
  have flags := packet.flags.toNat_lt
  have seq := packet.seq.toNat_lt
  have fits : ¬ packet.bytes.length > maxPayloadSize := by
    rw [legal.bytes_length]
    exact Nat.not_lt.mpr legal
  rw [encodePacket, if_neg (by omega), if_neg (by omega), if_neg (by omega), if_neg fits,
    Int.toNat_natCast, Int.toNat_natCast, Int.toNat_natCast]
  dsimp only
  rw [header_eq legal, crc16Ccitt_toNat, packU16_toNat, cobsEncode_eq, Packet.raw]

/-- The host decodes what the firmware decodes. -/
theorem decodePacket_eq (frame : List UInt8) :
    (decodePacket frame).toOption = (Daft.decodePacket frame).toOption.map received := by
  have decoded := cobsDecode_eq frame
  rw [decodePacket, Daft.decodePacket_eq, ← decoded]
  cases cobsDecode frame with
  | error => rfl
  | ok raw =>
    have unstuffed : (Except.ok raw : Except String (List UInt8)).toOption = some raw := rfl
    rw [unstuffed, Option.filter_some]
    dsimp only
    rw [readPacket_eq]
    by_cases fits : raw.length ≤ maxRawPacketSize
    · rw [if_pos fits, if_pos (decide_eq_true fits)]
    · rw [if_neg fits, if_neg (by simpa using fits)]
      rfl

end Daft.Host.Codec

namespace Daft

open Logic Host

/-- Both codecs write the same frames, whatever the payload buffer holds after
the payload, and read the same packets. -/
theorem codecs_agree :
    (∀ (msgId flags : UInt8) (seq : UInt16) (payload rest buffer : List UInt8),
        payload.length ≤ maxPayloadSize → buffer.length = maxFrameSize →
        ∃ frame, Codec.encodePacket msgId.toNat seq.toNat payload flags.toNat = .ok frame ∧
          encodePacket { msgId := msgId, flags := flags, seq := seq,
                         payloadLen := payload.length.toUInt16,
                         payload := Payload.ofBytes (payload ++ rest) } buffer =
            (frame ++ buffer.drop frame.length, some frame.length)) ∧
      ∀ frame, (Codec.decodePacket frame).toOption =
        (decodePacket frame).toOption.map Codec.received := by
  refine ⟨?_, Codec.decodePacket_eq⟩
  intro msgId flags seq payload rest buffer fits size
  have counted : payload.length.toUInt16.toNat = payload.length := by
    have short : payload.length < 65536 := Nat.lt_of_le_of_lt fits (by decide)
    exact Nat.mod_eq_of_lt short
  have stored : (Payload.ofBytes (payload ++ rest)).toList.take payload.length = payload := by
    have written : (Payload.ofBytes (payload ++ rest)).toList =
        (payload ++ (rest ++ List.replicate maxPayloadSize 0)).take maxPayloadSize := by
      rw [← List.append_assoc]
      rfl
    rw [written, List.take_take, Nat.min_eq_left fits, List.take_left]
  generalize made : Packet.mk msgId flags seq payload.length.toUInt16
    (Payload.ofBytes (payload ++ rest)) = packet
  have legal : packet.Legal := by
    rw [← made, Packet.Legal, counted]
    exact fits
  have bytes : packet.bytes = payload := by
    rw [← made, Packet.bytes, counted, stored]
  have length : (stuff [] packet.raw ++ [0]).length = packet.payloadLen.toNat + 11 := by
    rw [List.length_append, legal.frame_length]
    rfl
  have host := Codec.encodePacket_eq legal
  rw [bytes, ← made] at host
  refine ⟨stuff [] packet.raw ++ [0], made ▸ host, ?_⟩
  rw [encodePacket_fits legal (size ▸ legal.framed), length, List.append_assoc]
  rfl

end Daft
