import Daft.Logic.ShiftRegister
import Daft.Protocol.Packet

/-!
# Damage on the wire

The checksum is the remainder of a shift register, so a packet damaged in at most three bits,
or in two neighbouring bytes before the checksum, is refused.
-/

namespace Daft

open Logic

/-- The polynomial of `crc16_ccitt`. -/
abbrev crcPoly : BitVec 16 := 0x1021

/-- The bits of a byte, the highest first. -/
def bitsOf (byte : UInt8) : List Bool := (List.range 8).map byte.toBitVec.getMsbD

/-- The number of bits in which two strings of the same length differ. -/
def bitDistance (xs ys : List UInt8) : ℕ :=
  ((xs.zipWith (· ^^^ ·) ys).flatMap bitsOf).count true

/-! ## The register of the checksum -/

theorem crcBit_toBitVec (crc : UInt16) : (crcBit crc).toBitVec = shift crcPoly crc.toBitVec := by
  have top : crc &&& 0x8000 ≠ 0 ↔ crc.toBitVec.msb = true := by
    have masked : (crc &&& 0x8000).toBitVec =
        if crc.toBitVec.msb then BitVec.twoPow 16 15 else 0#16 := by
      rw [BitVec.msb_eq_getLsbD_last]
      exact BitVec.and_twoPow crc.toBitVec 15
    rw [ne_eq, ← UInt16.toBitVec_inj, masked]
    cases crc.toBitVec.msb <;> decide
  unfold crcBit shift
  by_cases high : crc.toBitVec.msb = true
  · rw [if_pos (top.mpr high), if_pos high]
    rfl
  · rw [if_neg (mt top.mp high), if_neg high]
    rfl

/-- A byte as the register holds it. -/
def crcTerm (byte : UInt8) : BitVec 16 := byte.toBitVec.setWidth 16

theorem forall_byte {P : UInt8 → Prop} (each : ∀ n : Fin 256, P (.ofFin n)) (byte : UInt8) :
    P byte := each byte.toFin

theorem shiftIn_bitsOf_zero (byte : UInt8) :
    shiftIn crcPoly 0#16 (bitsOf byte) = crcTerm byte := by
  revert byte
  apply forall_byte
  decide +kernel

theorem shifts_crcTerm (byte : UInt8) :
    (shift crcPoly)^[8] (crcTerm byte) = crcTerm byte <<< 8 := by
  revert byte
  apply forall_byte
  decide +kernel

theorem bitsOf_clear (byte : UInt8) : (bitsOf byte).count true = 0 → byte = 0 := by
  revert byte
  apply forall_byte
  decide +kernel

theorem crcTerm_xor (x y : UInt8) : crcTerm (x ^^^ y) = crcTerm x ^^^ crcTerm y := by
  simp [crcTerm, BitVec.setWidth_xor]

theorem shiftIn_bitsOf (v : BitVec 16) (byte : UInt8) :
    shiftIn crcPoly v (bitsOf byte) = (shift crcPoly)^[8] v ^^^ crcTerm byte := by
  rw [shiftIn_eq, shiftIn_bitsOf_zero]
  rfl

/-- A byte of data is added in above the register, eight places to the left. -/
theorem crcByte_toBitVec (crc : UInt16) (byte : UInt8) : (crcByte crc byte).toBitVec =
    (shift crcPoly)^[8] crc.toBitVec ^^^ (shift crcPoly)^[16] (crcTerm byte) := by
  have rounds : ∀ (n : ℕ) (v : UInt16),
      (Nat.repeat crcBit n v).toBitVec = (shift crcPoly)^[n] v.toBitVec := by
    intro n v
    induction n with
    | zero => rfl
    | succ n ih => rw [Nat.repeat, crcBit_toBitVec, ih, Function.iterate_succ_apply']
  have added : (byte.toUInt16 <<< 8).toBitVec = (shift crcPoly)^[8] (crcTerm byte) := by
    rw [shifts_crcTerm]
    rfl
  rw [crcByte, rounds, UInt16.toBitVec_xor, shifts_xor, added]
  rfl

/-- The checksums of two strings differ by the remainder of their difference. -/
theorem crc_xor {xs ys : List UInt8} (size : xs.length = ys.length) {c d : UInt16} {v : BitVec 16}
    (differ : c.toBitVec ^^^ d.toBitVec = (shift crcPoly)^[16] v) :
    (xs.foldl crcByte c).toBitVec ^^^ (ys.foldl crcByte d).toBitVec =
      (shift crcPoly)^[16] (shiftIn crcPoly v ((xs.zipWith (· ^^^ ·) ys).flatMap bitsOf)) := by
  induction xs generalizing ys c d v with
  | nil =>
    obtain rfl := List.length_eq_zero_iff.mp size.symm
    exact differ
  | cons x xs ih =>
    cases ys with
    | nil => simp at size
    | cons y ys =>
      have next : (crcByte c x).toBitVec ^^^ (crcByte d y).toBitVec =
          (shift crcPoly)^[16] (shiftIn crcPoly v (bitsOf (x ^^^ y))) := by
        rw [crcByte_toBitVec, crcByte_toBitVec, shiftIn_bitsOf, crcTerm_xor, shifts_xor, shifts_xor,
          ← Function.iterate_add_apply, Nat.add_comm 16 8, Function.iterate_add_apply, ← differ,
          shifts_xor]
        ac_rfl
      rw [List.foldl_cons, List.foldl_cons, List.zipWith_cons_cons, List.flatMap_cons,
        shiftIn_append]
      exact ih (by simpa using size) next

/-- A checksum in the two bytes of its field. -/
theorem crc_fields (crc : UInt16) : crc.toBitVec =
    (shift crcPoly)^[8] (crcTerm (crc >>> 8).toUInt8) ^^^ crcTerm crc.toUInt8 := by
  have word := word16_of_bytes crc.toBitVec
  rw [shifts_crcTerm]
  apply BitVec.eq_of_getLsbD_eq
  intro i bound
  rw [← word]
  by_cases low : i < 8
  · simp [crcTerm, low, bound]
  · simp [crcTerm, low, bound]

/-- Two bytes that fill the register with zeros are zero. -/
theorem bytes_of_zero {high low : UInt8}
    (zero : (shift crcPoly)^[8] (crcTerm high) ^^^ crcTerm low = 0#16) : high = 0 ∧ low = 0 := by
  have written : writeU16 (readU16 [low, high]) = [low, high] := writeU16_readU16 (by simp)
  have fields := crc_fields (readU16 [low, high])
  simp only [writeU16, List.cons.injEq, and_true] at written
  rw [written.1, written.2, zero] at fields
  have none : readU16 [low, high] = 0 := UInt16.toBitVec_inj.mp fields
  rw [none] at written
  exact ⟨written.2.symm, written.1.symm⟩

theorem crcByte_injective (byte : UInt8) : Function.Injective (crcByte · byte) := by
  intro c d same
  have registers := congrArg UInt16.toBitVec same
  dsimp only at registers
  rw [crcByte_toBitVec, crcByte_toBitVec, BitVec.xor_left_inj] at registers
  exact UInt16.toBitVec_inj.mp ((shift_injective (by decide)).iterate 8 registers)

/-- Bytes that follow keep two checksums apart. -/
theorem foldl_crcByte_injective (bytes : List UInt8) :
    Function.Injective fun crc => bytes.foldl crcByte crc := by
  induction bytes with
  | nil => exact Function.injective_id
  | cons byte bytes ih => exact ih.comp (crcByte_injective byte)

/-! ## Codewords -/

section

variable {xs ys : List UInt8}

theorem length_bits (bytes : List UInt8) : (bytes.flatMap bitsOf).length = 8 * bytes.length := by
  induction bytes with
  | nil => rfl
  | cons byte bytes ih =>
    rw [List.flatMap_cons, List.length_append, ih, List.length_cons]
    simp [bitsOf]
    omega

/-- Strings that differ in no bit are the same. -/
theorem eq_of_bitDistance (size : xs.length = ys.length) (same : bitDistance xs ys = 0) :
    xs = ys := by
  induction xs generalizing ys with
  | nil => exact (List.length_eq_zero_iff.mp size.symm).symm
  | cons x xs ih =>
    cases ys with
    | nil => simp at size
    | cons y ys =>
      rw [bitDistance, List.zipWith_cons_cons, List.flatMap_cons, List.count_append] at same
      have head : x ^^^ y = 0 := bitsOf_clear _ (by omega)
      rw [UInt8.xor_eq_zero_iff.mp head, ih (by simpa using size) (by rw [bitDistance]; omega)]

/-- The difference of two strings with their checksums, the high byte of the checksum
first, has the remainder zero. -/
theorem remainder_of_checksums (size : xs.length = ys.length) :
    shiftIn crcPoly 0#16 ((xs.zipWith (· ^^^ ·) ys).flatMap bitsOf ++
      (bitsOf ((crc16Ccitt xs >>> 8).toUInt8 ^^^ (crc16Ccitt ys >>> 8).toUInt8) ++
        bitsOf ((crc16Ccitt xs).toUInt8 ^^^ (crc16Ccitt ys).toUInt8))) = 0#16 := by
  have differ : (crc16Ccitt xs).toBitVec ^^^ (crc16Ccitt ys).toBitVec = (shift crcPoly)^[16]
      (shiftIn crcPoly 0#16 ((xs.zipWith (· ^^^ ·) ys).flatMap bitsOf)) :=
    crc_xor size (by rw [BitVec.xor_self, shifts_zero])
  have fields : (crc16Ccitt xs).toBitVec ^^^ (crc16Ccitt ys).toBitVec = (shift crcPoly)^[8]
      (crcTerm ((crc16Ccitt xs >>> 8).toUInt8 ^^^ (crc16Ccitt ys >>> 8).toUInt8)) ^^^
        crcTerm ((crc16Ccitt xs).toUInt8 ^^^ (crc16Ccitt ys).toUInt8) := by
    rw [crcTerm_xor, crcTerm_xor, shifts_xor, crc_fields (crc16Ccitt xs), crc_fields (crc16Ccitt ys)]
    ac_rfl
  rw [shiftIn_append, shiftIn_append, shiftIn_bitsOf, shiftIn_bitsOf, shifts_xor,
    ← Function.iterate_add_apply, BitVec.xor_assoc, ← fields, differ, BitVec.xor_self]

/-- Two strings with their checksums that differ in at most three bits are the same. -/
theorem eq_of_near (size : xs.length = ys.length) (short : xs.length ≤ 135)
    (near : bitDistance (xs ++ writeU16 (crc16Ccitt xs)) (ys ++ writeU16 (crc16Ccitt ys)) ≤ 3) :
    xs = ys := by
  have constant : crcPoly.getLsbD 0 = true := by decide
  have even : parity crcPoly = 1 := by decide +kernel
  have period : staysOff crcPoly 1096 (shift crcPoly 1#16) = true := by decide +kernel
  have zero := remainder_of_checksums size
  rw [bitDistance, List.zipWith_append size, List.flatMap_append] at near
  simp only [writeU16, List.zipWith_cons_cons, List.zipWith_nil_left, List.flatMap_cons,
    List.flatMap_nil, List.append_nil, List.count_append] at near
  have clear := clear_of_remainder constant even period
    (by simp only [List.length_append, length_bits, List.length_zipWith, ← size, bitsOf,
          List.length_map, List.length_range]
        omega)
    (by simp only [List.count_append]
        omega) zero
  simp only [List.count_append] at clear
  exact eq_of_bitDistance size (by rw [bitDistance]; omega)

/-- Two strings with one checksum that differ in two neighbouring bytes at most are the same. -/
theorem eq_of_burst {before after : List UInt8} {x x' y y' : UInt8}
    (same : crc16Ccitt (before ++ x :: x' :: after) = crc16Ccitt (before ++ y :: y' :: after)) :
    x = y ∧ x' = y' := by
  rw [crc16Ccitt, crc16Ccitt, List.foldl_append, List.foldl_append] at same
  have meets : [x, x'].foldl crcByte (before.foldl crcByte 0xFFFF) =
      [y, y'].foldl crcByte (before.foldl crcByte 0xFFFF) := foldl_crcByte_injective after same
  have differ : ([x, x'].foldl crcByte (before.foldl crcByte 0xFFFF)).toBitVec ^^^
      ([y, y'].foldl crcByte (before.foldl crcByte 0xFFFF)).toBitVec =
        (shift crcPoly)^[16] (shiftIn crcPoly 0#16 (bitsOf (x ^^^ y) ++ bitsOf (x' ^^^ y'))) :=
    @crc_xor [x, x'] [y, y'] rfl _ _ 0#16 (by rw [BitVec.xor_self, shifts_zero])
  rw [meets, BitVec.xor_self] at differ
  have zero := (shift_injective (by decide)).iterate 16 ((shifts_zero 16).trans differ)
  rw [shiftIn_append, shiftIn_bitsOf, shiftIn_bitsOf, shifts_zero, BitVec.zero_xor] at zero
  obtain ⟨first, second⟩ := bytes_of_zero zero.symm
  exact ⟨UInt8.xor_eq_zero_iff.mp first, UInt8.xor_eq_zero_iff.mp second⟩

end

/-! ## Main result -/

section

variable {packet : Packet} {raw : List UInt8}

/-- Bytes of the length of a legal packet that read as a packet carry its checksum in the
same place. -/
theorem readPacket_body {packet' : Packet} (legal : packet.Legal)
    (size : raw.length = packet.raw.length) (read : readPacket raw = .ok packet') :
    packet'.rawWithoutCrc.length = packet.rawWithoutCrc.length ∧ packet'.raw = raw := by
  obtain ⟨legal', -, rfl⟩ := readPacket_sound read
  refine ⟨?_, rfl⟩
  rw [legal.raw_length, legal'.raw_length] at size
  rw [legal.rawWithoutCrc_length, legal'.rawWithoutCrc_length]
  omega

/-- Two strings of the same length that agree but for the places `k` and `k + 1`. -/
theorem split_burst {xs ys : List UInt8} {k : ℕ} (inside : k + 2 ≤ xs.length)
    (size : xs.length = ys.length) (agree : ∀ i, i ≠ k → i ≠ k + 1 → xs[i]? = ys[i]?) :
    ∃ before after x x' y y', xs = before ++ x :: x' :: after ∧ ys = before ++ y :: y' :: after := by
  have parts : ∀ {zs : List UInt8} (inside : k + 2 ≤ zs.length),
      zs = zs.take k ++ zs[k] :: zs[k + 1] :: zs.drop (k + 2) := by
    intro zs inside
    rw [← List.drop_eq_getElem_cons, ← List.drop_eq_getElem_cons, List.take_append_drop]
  have before : ys.take k = xs.take k := by
    apply List.ext_getElem?
    intro i
    rw [List.getElem?_take, List.getElem?_take]
    split
    · exact (agree i (by omega) (by omega)).symm
    · rfl
  have after : ys.drop (k + 2) = xs.drop (k + 2) := by
    apply List.ext_getElem?
    intro i
    rw [List.getElem?_drop, List.getElem?_drop]
    exact (agree (k + 2 + i) (by omega) (by omega)).symm
  have other := parts (size ▸ inside : k + 2 ≤ ys.length)
  rw [before, after] at other
  exact ⟨_, _, _, _, _, _, parts inside, other⟩

/-- Two packets as long as each other whose bytes differ in two neighbouring bytes at most, both
before the checksum, are laid out the same. -/
theorem raw_eq_of_burst {packet' : Packet} {k : ℕ} (legal : packet.Legal)
    (size : packet'.rawWithoutCrc.length = packet.rawWithoutCrc.length)
    (inside : k + 2 ≤ headerSize + packet.payloadLen.toNat)
    (agree : ∀ i, i ≠ k → i ≠ k + 1 → packet.raw[i]? = packet'.raw[i]?) :
    packet'.raw = packet.raw := by
  rw [← legal.rawWithoutCrc_length] at inside
  have checksum : crc16Ccitt packet.rawWithoutCrc = crc16Ccitt packet'.rawWithoutCrc := by
    have fields : packet.raw.drop packet.rawWithoutCrc.length =
        packet'.raw.drop packet.rawWithoutCrc.length := by
      apply List.ext_getElem?
      intro i
      rw [List.getElem?_drop, List.getElem?_drop]
      exact agree _ (by omega) (by omega)
    rw [Packet.raw, List.drop_left, Packet.raw, ← size, List.drop_left] at fields
    have first := readU16_writeU16 (crc16Ccitt packet.rawWithoutCrc) []
    rwa [fields, readU16_writeU16, eq_comm] at first
  have bodies : ∀ i, i ≠ k → i ≠ k + 1 →
      packet.rawWithoutCrc[i]? = packet'.rawWithoutCrc[i]? := by
    intro i first second
    by_cases bound : i < packet.rawWithoutCrc.length
    · have same := agree i first second
      rwa [Packet.raw, Packet.raw, List.getElem?_append_left bound,
        List.getElem?_append_left (by omega)] at same
    · rw [List.getElem?_eq_none (by omega), List.getElem?_eq_none (by omega)]
  obtain ⟨before, after, x, x', y, y', body, body'⟩ := split_burst inside size.symm bodies
  have same : packet.rawWithoutCrc = packet'.rawWithoutCrc := by
    rw [body, body'] at checksum ⊢
    obtain ⟨rfl, rfl⟩ := eq_of_burst checksum
    rfl
  rw [Packet.raw, Packet.raw, same]

end

/-- A short string is read as it was before it was stuffed. -/
theorem decodePacket_cobsEncode {raw buffer : List UInt8} (short : raw.length ≤ maxRawPacketSize)
    (room : raw.length < buffer.length) :
    decodePacket ((cobsEncode raw buffer).1.take (cobsEncode raw buffer).2) = readPacket raw := by
  have length : (stuff [] raw).length = raw.length + 1 := by
    have fits : raw.length ≤ 137 := short
    rw [length_stuff (by rw [List.length_nil]; omega), List.length_nil]
    omega
  have taken : (buffer.take (raw.length + 1)).length = (stuff [] raw).length := by
    rw [List.length_take, length]
    omega
  have encoded := cobsEncode_fits taken (buffer.drop (raw.length + 1))
  rw [List.take_append_drop] at encoded
  have read : unstuff (stuff [] raw) = some raw := unstuff_stuff (by decide)
  rw [encoded]
  dsimp only
  rw [List.take_left, decodePacket_eq, read, Option.filter_some, if_pos (decide_eq_true short)]

/-- A legal packet damaged in at most three bits, or in two neighbouring bytes of its header
or payload, is not accepted. -/
theorem corruption_detected (packet : Packet) (legal : packet.Legal) (raw buffer : List UInt8)
    (damaged : raw ≠ packet.raw) (size : raw.length = packet.raw.length)
    (slight : bitDistance packet.raw raw ≤ 3 ∨ ∃ k, k + 2 ≤ headerSize + packet.payloadLen.toNat ∧
      ∀ i, i ≠ k → i ≠ k + 1 → packet.raw[i]? = raw[i]?)
    (room : raw.length < buffer.length) :
    ∃ error, decodePacket ((cobsEncode raw buffer).1.take (cobsEncode raw buffer).2) =
      .error error := by
  rw [decodePacket_cobsEncode (size ▸ legal.short) room]
  cases read : readPacket raw with
  | error error => exact ⟨error, rfl⟩
  | ok packet' =>
    refine absurd ?_ damaged
    obtain ⟨body, rfl⟩ := readPacket_body legal size read
    rcases slight with near | ⟨k, inside, agree⟩
    · have short : packet.rawWithoutCrc.length ≤ 135 := by
        have fits : packet.payloadLen.toNat ≤ 128 := legal
        rw [legal.rawWithoutCrc_length]
        omega
      have same := eq_of_near body.symm short near
      rw [Packet.raw, Packet.raw, same]
    · exact raw_eq_of_burst legal body inside agree

/-- A `PING` turned into a `GET_CAPABILITIES` on the wire, with a zeroed buffer. -/
theorem corruption_detected_ping :
    ∃ error, decodePacket ((cobsEncode ((Packet.raw { msgId := 0x01, seq := 1 }).set 1 0x05)
        (List.replicate maxFrameSize 0)).1.take
      (cobsEncode ((Packet.raw { msgId := 0x01, seq := 1 }).set 1 0x05)
        (List.replicate maxFrameSize 0)).2) = .error error :=
  corruption_detected { msgId := 0x01, seq := 1 } (by decide) _ _ (by decide +kernel)
    (by rw [List.length_set]) (.inl (by decide +kernel)) (by decide +kernel)

end Daft
