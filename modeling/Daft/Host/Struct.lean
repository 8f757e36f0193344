import Daft.Host.Codec

/-!
# Python's `struct`

The little-endian formats `B`, `H`, `I` and `i`, over unbounded integers. A
format string is a list of formats and its values are a tuple, so what unpacks
a layout names each of its fields.
-/

namespace Daft.Host.Struct

inductive Format where
  | B | H | I | i
  deriving DecidableEq

def Format.size : Format → Nat
  | .B => 1
  | .H => 2
  | .I | .i => 4

def Format.least : Format → Int
  | .i => -0x80000000
  | _ => 0

def Format.greatest : Format → Int
  | .B => 0xFF
  | .H => 0xFFFF
  | .I => 0xFFFFFFFF
  | .i => 0x7FFFFFFF

def littleEndian : Nat → Nat → List UInt8
  | 0, _ => []
  | size + 1, value => UInt8.ofNat value :: littleEndian size (value / 256)

def unsigned : Nat → List UInt8 → Nat
  | 0, _ => 0
  | size + 1, raw => (raw.getD 0 0).toNat + 256 * unsigned size (raw.drop 1)

/-- One value, none where `struct.error` is raised; negative ones in two's complement. -/
def Format.pack (format : Format) (value : Int) : Option (List UInt8) :=
  if format.least ≤ value ∧ value ≤ format.greatest then
    some (littleEndian format.size (value % 0x100000000).toNat)
  else none

/-- One value, from a buffer long enough. -/
def Format.unpack (format : Format) (raw : List UInt8) : Int :=
  let value := unsigned format.size raw
  if format = .i ∧ value ≥ 0x80000000 then value - 0x100000000 else value

/-- The values of a format string. -/
abbrev Values : List Format → Type
  | [] => Unit
  | _ :: formats => Int × Values formats

/-- `struct.pack`. -/
def pack : (formats : List Format) → Values formats → Option (List UInt8)
  | [], _ => some []
  | format :: formats, (value, values) => do
    let bytes ← format.pack value
    let rest ← pack formats values
    return bytes ++ rest

/-- `struct.unpack_from` at the start of `raw`; `struct.unpack` where `raw` has the
length of the formats. -/
def unpack : (formats : List Format) → List UInt8 → Values formats
  | [], _ => ()
  | format :: formats, raw => (format.unpack raw, unpack formats (raw.drop format.size))

/-! ## The firmware's fields -/

section

variable {formats : List Format} (values : Values formats) (rest : List UInt8)

/-- `struct` and the firmware read the same two bytes alike. -/
theorem unsigned_readU16 (raw : List UInt8) : unsigned 2 raw = (readU16 raw).toNat := by
  have read := Codec.unpackU16_eq raw 0
  rw [List.drop_zero] at read
  rw [← read, Codec.unpackU16]
  simp [unsigned, List.getD_eq_getElem?_getD]

/-- `struct` and the firmware read the same four bytes alike. -/
theorem unsigned_readU32 (raw : List UInt8) : unsigned 4 raw = (readU32 raw).toNat := by
  rw [toNat_readU32]
  simp only [unsigned, List.drop_drop, List.getD_eq_getElem?_getD, List.getElem?_drop, Nat.add_zero,
    Nat.reduceAdd]
  omega

/-- Two's complement, as `struct` computes it. -/
theorem toInt_eq (value : Int32) : value.toInt =
    if value.toUInt32.toNat ≥ 0x80000000 then (value.toUInt32.toNat : Int) - 0x100000000
    else value.toUInt32.toNat := by
  have signed : value.toInt = value.toBitVec.toInt := rfl
  have bits : value.toUInt32.toNat = value.toBitVec.toNat := rfl
  rw [signed, bits, BitVec.toInt_eq_toNat_cond]
  split <;> split <;> omega

/-- A byte is unpacked as it is. -/
@[simp] theorem unpack_byte (byte : UInt8) :
    unpack (.B :: formats) (byte :: rest) = ((byte.toNat : Int), unpack formats rest) := rfl

/-- A field of two bytes is unpacked where it was written. -/
@[simp] theorem unpack_writeU16 (value : UInt16) :
    unpack (.H :: formats) (writeU16 value ++ rest) = ((value.toNat : Int), unpack formats rest) := by
  refine Prod.ext ?_ rfl
  show ((unsigned 2 (writeU16 value ++ rest) : Nat) : Int) = value.toNat
  rw [unsigned_readU16, readU16_writeU16]

/-- A field of four bytes is unpacked where it was written. -/
@[simp] theorem unpack_writeU32 (value : UInt32) :
    unpack (.I :: formats) (writeU32 value ++ rest) = ((value.toNat : Int), unpack formats rest) := by
  refine Prod.ext ?_ rfl
  show ((unsigned 4 (writeU32 value ++ rest) : Nat) : Int) = value.toNat
  rw [unsigned_readU32, readU32_writeU32]

/-- A signed field is unpacked with its sign. -/
@[simp] theorem unpack_writeI32 (value : Int32) :
    unpack (.i :: formats) (writeI32 value ++ rest) = (value.toInt, unpack formats rest) := by
  refine Prod.ext ?_ rfl
  have read : unsigned 4 (writeI32 value ++ rest) = value.toUInt32.toNat := by
    rw [unsigned_readU32, writeI32, readU32_writeU32]
  show Format.unpack .i (writeI32 value ++ rest) = value.toInt
  unfold Format.unpack
  dsimp only [Format.size]
  rw [read, toInt_eq]
  simp

/-- A layout is packed field by field. -/
theorem pack_cons {format : Format} {value : Int} {bytes tail : List UInt8}
    (here : format.pack value = some bytes) (later : pack formats values = some tail) :
    pack (format :: formats) (value, values) = some (bytes ++ tail) := by
  rw [pack, here, later]
  rfl

/-- Both sides lay out two bytes alike. -/
theorem littleEndian_writeU16 (value : UInt16) : littleEndian 2 value.toNat = writeU16 value := by
  rw [← Codec.packU16_toNat]
  rfl

/-- Both sides lay out four bytes alike. -/
theorem littleEndian_writeU32 (value : UInt32) : littleEndian 4 value.toNat = writeU32 value := by
  have shifted (places : UInt32) (small : places.toNat < 32) :
      (value >>> places).toUInt8 = UInt8.ofNat (value.toNat / 2 ^ places.toNat) := by
    rw [← UInt8.ofNat_uInt32ToNat, UInt32.toNat_shiftRight, Nat.mod_eq_of_lt small,
      Nat.shiftRight_eq_div_pow]
  rw [writeU32, shifted 8 (by decide), shifted 16 (by decide), shifted 24 (by decide),
    ← UInt8.ofNat_uInt32ToNat]
  simp only [littleEndian, Nat.div_div_eq_div_mul]
  rfl

/-- A value in range is packed as its bytes. -/
theorem Format.pack_of {format : Format} {value : Int} (word : Nat) {bytes : List UInt8}
    (low : format.least ≤ value) (high : value ≤ format.greatest)
    (word_eq : value % 0x100000000 = word) (laid : littleEndian format.size word = bytes) :
    format.pack value = some bytes := by
  unfold Format.pack
  rw [if_pos ⟨low, high⟩, word_eq, Int.toNat_natCast, laid]

/-- Every byte is in the range of the format `B`. -/
theorem pack_byte (value : UInt8) : Format.pack .B value.toNat = some [value] := by
  have bound := value.toNat_lt
  apply Format.pack_of value.toNat
  · exact Int.natCast_nonneg _
  · show (value.toNat : Int) ≤ 0xFF
    omega
  · omega
  · show [UInt8.ofNat value.toNat] = [value]
    rw [UInt8.ofNat_toNat]

/-- Every half word is in the range of the format `H`. -/
theorem pack_writeU16 (value : UInt16) : Format.pack .H value.toNat = some (writeU16 value) := by
  have bound := value.toNat_lt
  apply Format.pack_of value.toNat
  · exact Int.natCast_nonneg _
  · show (value.toNat : Int) ≤ 0xFFFF
    omega
  · omega
  · exact littleEndian_writeU16 value

/-- Every word is in the range of the format `I`. -/
theorem pack_writeU32 (value : UInt32) : Format.pack .I value.toNat = some (writeU32 value) := by
  have bound := value.toNat_lt
  apply Format.pack_of value.toNat
  · exact Int.natCast_nonneg _
  · show (value.toNat : Int) ≤ 0xFFFFFFFF
    omega
  · omega
  · exact littleEndian_writeU32 value

/-- Every signed word is in the range of the format `i`. -/
theorem pack_writeI32 (value : Int32) : Format.pack .i value.toInt = some (writeI32 value) := by
  have bound := value.toUInt32.toNat_lt
  have signed := toInt_eq value
  apply Format.pack_of value.toUInt32.toNat
  · show -0x80000000 ≤ value.toInt
    split at signed <;> omega
  · show value.toInt ≤ 0x7FFFFFFF
    split at signed <;> omega
  · split at signed <;> omega
  · exact littleEndian_writeU32 value.toUInt32

end

end Daft.Host.Struct
