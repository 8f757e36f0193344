import Daft.Config.Blob
import Daft.Config.Staging

/-!
# Loaded configurations and the staging path

A loaded configuration has passed `validate_config`, but its enum bytes and its
unsigned words were cast without the checks staging makes. Four places of the
blob decide whether a host can write back what it reads.
-/

namespace Daft

section

variable {data : List UInt8} {length : Nat} {config : ActuatorConfig}

/-- A little-endian word is below 2^31 when the top bit of its last byte is clear. -/
theorem readU32_lt_iff {b0 b1 b2 b3 : UInt8} :
    readU32 [b0, b1, b2, b3] < 2147483648 ↔ b3 < 128 := by
  have value := toNat_readU32 [b0, b1, b2, b3]
  simp only [List.getD_cons_zero, List.getD_cons_succ] at value
  have low := b0.toNat_lt
  have second := b1.toNat_lt
  have third := b2.toNat_lt
  rw [UInt32.lt_iff_toNat_lt, UInt8.lt_iff_toNat_lt, value]
  show _ < 2147483648 ↔ b3.toNat < 128
  omega

/-- The blob holds declared enum bytes and limits below 2^31. -/
structure WritableBlob (data : List UInt8) : Prop where
  mode : data.getD 38 0 ≤ 1
  action : data.getD 89 0 ≤ 1
  velocity : data.getD 99 0 < 128
  accel : data.getD 103 0 < 128

theorem writable_iff (accepted : deserializeConfig data length = some config) :
    Writable config ↔ WritableBlob data := by
  obtain ⟨read, -⟩ := deserializeConfig_accepted accepted
  have mode : config.driver.mode.raw = data.getD 38 0 := by rw [← read]; rfl
  have action : config.safety.velocityTimeoutAction.raw = data.getD 89 0 := by rw [← read]; rfl
  have velocity : config.safety.maxAllowedVelocitySps =
      readU32 [data.getD 96 0, data.getD 97 0, data.getD 98 0, data.getD 99 0] := by rw [← read]; rfl
  have accel : config.safety.maxAllowedAccelSps2 =
      readU32 [data.getD 100 0, data.getD 101 0, data.getD 102 0, data.getD 103 0] := by
    rw [← read]
    rfl
  constructor
  · intro writable
    exact ⟨mode ▸ writable.mode, action ▸ writable.action,
      readU32_lt_iff.mp (velocity ▸ writable.velocity), readU32_lt_iff.mp (accel ▸ writable.accel)⟩
  · intro blob
    exact ⟨mode ▸ blob.mode, action ▸ blob.action, velocity ▸ readU32_lt_iff.mpr blob.velocity,
      accel ▸ readU32_lt_iff.mpr blob.accel⟩

end

/-! ## Main result -/

/-- A host can write back every stageable field of a loaded configuration exactly
when the blob's enum bytes are declared and its limits are below 2^31. -/
theorem loaded_writes_back_iff (data : List UInt8) (length : Nat) (config : ActuatorConfig)
    (accepted : deserializeConfig data length = some config) :
    (∀ field : ConfigField, field.Stageable → WritesBack config field) ↔ WritableBlob data :=
  (deserializeConfig_valid accepted).writesBack_iff.trans (writable_iff accepted)

theorem loaded_writes_back_default :
    (∀ field : ConfigField, field.Stageable → WritesBack defaultConfig field) ↔
      WritableBlob (configFields defaultConfig) := by
  have loaded := deserializeConfig_configFields defaultConfig_valid []
  rw [List.append_nil] at loaded
  exact loaded_writes_back_iff (configFields defaultConfig) configBlobSize defaultConfig loaded

/-- The default configuration with a driver mode no firmware declares. -/
def undeclaredMode : ActuatorConfig := { driver := { mode := ⟨5⟩ } }

/-- The mode is loaded, and staging it is refused. -/
theorem loaded_mode_not_staged :
    ¬ ∀ (data : List UInt8) (length : Nat) (config : ActuatorConfig),
      deserializeConfig data length = some config →
        ∀ field : ConfigField, field.Stageable → WritesBack config field := by
  intro all
  have valid : Valid undeclaredMode := validateConfig_ok_iff.mp (by decide)
  have loaded := deserializeConfig_configFields valid []
  obtain ⟨value, read, accepted, -⟩ := all _ _ _ loaded .DRIVER_MODE (.inr rfl)
  obtain rfl := Option.some.inj read
  exact absurd accepted (by decide)

end Daft
