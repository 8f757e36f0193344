import Daft.Config.Store
import Daft.Logic.Readers

/-!
# The bytes `deserialize_config` reads

The blob is read at a running offset that is compared with `length` only after the last
read. Up front `length` is compared with 96, and the forty-two reads take 104 bytes, so
a buffer of 96 to 103 bytes is read beyond its end.
-/

namespace Daft

open Logic

/-- `deserialize_config` on a buffer that holds `data` and nothing else: the read of an
index beyond it ends the run with that index as the error. -/
def deserializeConfigWithin (data : List UInt8) (length : Nat) :
    Except Nat (Option ActuatorConfig) :=
  deserializeConfigM (entryWithin data) length

/-! ## The width of each read -/

section Words

variable {m : Type → Type} [Monad m] (byteAt : Nat → m UInt8)

theorem getU8_run (offset : Nat) : (getU8 byteAt).run offset = (do
    let b ← byteAt offset
    return (b, offset + 1)) := rfl

variable [LawfulMonad m]

/-- A word is read as its bytes are, lowest first. -/
theorem getU16_eq : getU16 byteAt = (do
    let b0 ← getU8 byteAt
    let b1 ← getU8 byteAt
    return readU16 [b0, b1]) := by
  ext offset
  simp only [StateT.run_bind, getU8_run, bind_assoc, pure_bind, StateT.run_pure]
  rfl

theorem getU32_eq : getU32 byteAt = (do
    let b0 ← getU8 byteAt
    let b1 ← getU8 byteAt
    let b2 ← getU8 byteAt
    let b3 ← getU8 byteAt
    return readU32 [b0, b1, b2, b3]) := by
  ext offset
  simp only [StateT.run_bind, getU8_run, bind_assoc, pure_bind, StateT.run_pure]
  rfl

end Words

section Widths

variable (data : List UInt8)

/-- The two readings of one reader over `data` take `n` bytes. -/
abbrev Width (n : Nat) {α : Type}
    (reader : ∀ {m : Type → Type} [Monad m], (Nat → m UInt8) → StateT Nat m α) : Prop :=
  Consumes data.length n (reader (m := Id) fun i => data.getD i 0) (reader (entryWithin data))

theorem width_u8 : Width data 1 getU8 := Consumes.nextEntry data 0

theorem width_bool : Width data 1 getBool := (width_u8 data).map _

theorem width_u16 : Width data 2 getU16 := by
  have bytes := (width_u8 data).bind fun b0 => (width_u8 data).map fun b1 => readU16 [b0, b1]
  rwa [← getU16_eq, ← getU16_eq] at bytes

theorem width_u32 : Width data 4 getU32 := by
  have bytes := (width_u8 data).bind fun b0 => (width_u8 data).bind fun b1 =>
    (width_u8 data).bind fun b2 => (width_u8 data).map fun b3 => readU32 [b0, b1, b2, b3]
  rwa [← getU32_eq, ← getU32_eq] at bytes

theorem width_i32 : Width data 4 getI32 := (width_u32 data).map _

/-- The forty-two reads take as many bytes as `serialize_config` writes. -/
theorem width_configFields : Width data configBlobSize readConfigFields := by
  have u8 := width_u8 data
  have bool := width_bool data
  have u16 := width_u16 data
  have u32 := width_u32 data
  have i32 := width_i32 data
  have fields : Consumes data.length _ (readConfigFields (m := Id) fun i => data.getD i 0)
      (readConfigFields (entryWithin data)) :=
    -- version and pins
    u16.bind fun _ => u16.bind fun _ => u16.bind fun _ => u16.bind fun _ => bool.bind fun _ =>
    u16.bind fun _ => u16.bind fun _ => u32.bind fun _ => u8.bind fun _ => u16.bind fun _ =>
    -- motor
    u16.bind fun _ => u16.bind fun _ => u16.bind fun _ => u32.bind fun _ => u16.bind fun _ =>
    -- driver
    u16.bind fun _ => u16.bind fun _ => u16.bind fun _ => u8.bind fun _ => u8.bind fun _ =>
    u8.bind fun _ => bool.bind fun _ =>
    -- motion
    u32.bind fun _ => u32.bind fun _ => i32.bind fun _ => bool.bind fun _ => i32.bind fun _ =>
    i32.bind fun _ => u32.bind fun _ =>
    -- telemetry
    u16.bind fun _ => u16.bind fun _ => bool.bind fun _ =>
    -- calibration
    i32.bind fun _ => i32.bind fun _ => bool.bind fun _ => i32.bind fun _ =>
    -- safety
    u32.bind fun _ => u8.bind fun _ => u32.bind fun _ => u16.bind fun _ => u32.bind fun _ =>
    u32.map _
  exact fields

end Widths

/-! ## Reading within the buffer -/

variable {data : List UInt8} {length : Nat}

/-- A buffer that holds a whole blob is read as `deserialize_config` reads it. -/
theorem deserializeConfigWithin_of_fits (fits : configBlobSize ≤ data.length) :
    deserializeConfigWithin data length = .ok (deserializeConfig data length) := by
  have reads : (readConfigFields (entryWithin data)).run 0 = .ok (blobReads data) :=
    (width_configFields data).within 0 (by simpa using fits)
  rw [deserializeConfigWithin, deserializeConfigM, reads, deserializeConfig_eq,
    apply_ite Except.ok, apply_ite Except.ok]
  generalize blobReads data = result
  obtain ⟨decoded, offset⟩ := result
  rfl

theorem deserializeConfigWithin_of_refused (refused : length > configBlobMaxSize ∨ length < 96) :
    deserializeConfigWithin data length = .ok none := by
  rw [deserializeConfigWithin, deserializeConfigM, if_pos refused]
  rfl

/-- A shorter buffer is read up to its end, and then at the first index beyond it. -/
theorem deserializeConfigWithin_of_short (admitted : ¬ (length > configBlobMaxSize ∨ length < 96))
    (short : data.length < configBlobSize) :
    deserializeConfigWithin data length = .error data.length := by
  have reads : (readConfigFields (entryWithin data)).run 0 = .error data.length :=
    (width_configFields data).beyond 0 (Nat.zero_le _) (by simpa using short)
  rw [deserializeConfigWithin, deserializeConfigM, if_neg admitted, reads]
  rfl

/-- Where the checked run errs, and at which index. -/
theorem deserializeConfigWithin_error_iff {index : Nat} :
    deserializeConfigWithin data length = .error index ↔
      (96 ≤ length ∧ length ≤ configBlobMaxSize) ∧ data.length < configBlobSize ∧
        index = data.length := by
  by_cases refused : length > configBlobMaxSize ∨ length < 96
  · rw [deserializeConfigWithin_of_refused refused]
    simp
    omega
  by_cases short : data.length < configBlobSize
  · rw [deserializeConfigWithin_of_short refused short]
    simp
    omega
  · rw [deserializeConfigWithin_of_fits (Nat.le_of_not_lt short)]
    simp [short]

/-- A slot's payload holds `CONFIG_BLOB_MAX_SIZE` bytes, so `decode_slot` reads none
beyond it, whatever the stored `payload_len`. -/
theorem deserializeConfigWithin_slot (slot : ConfigStoreSlotRead) :
    deserializeConfigWithin slot.payload.toList slot.payloadLen =
      .ok (deserializeConfig slot.payload.toList slot.payloadLen) :=
  deserializeConfigWithin_of_fits (by rw [Vector.length_toList]; decide)

/-! ## Main result -/

/-- From a buffer of `length` bytes, no byte beyond them is read exactly if `length` is
refused up front for being below 96, or the blob fits. The check of the offset after the
last read comes too late for the lengths between. -/
theorem deserialize_config_within_buffer_iff (data : List UInt8) :
    (∀ index, deserializeConfigWithin data data.length ≠ .error index) ↔
      data.length < 96 ∨ configBlobSize ≤ data.length := by
  have room : configBlobSize ≤ configBlobMaxSize := by decide
  simp only [ne_eq, deserializeConfigWithin_error_iff]
  constructor
  · intro within
    have fits := within data.length
    omega
  · rintro outside index ⟨admitted, short, -⟩
    omega

/-- A buffer of 96 zero bytes is read at index 96. -/
theorem deserialize_config_within_buffer_fails :
    ¬ ∀ (data : List UInt8) (index : Nat),
      deserializeConfigWithin data data.length ≠ .error index := by
  intro within
  have overrun : deserializeConfigWithin (List.replicate 96 0) 96 = .error 96 :=
    deserializeConfigWithin_of_short (by decide) (by decide)
  exact within (List.replicate 96 0) 96 overrun

end Daft
