import Daft.Config.Blob
import Daft.Logic.TwoSlot
import Daft.Protocol.Crc

/-!
# The configuration store

`config_store_load` and `config_store_save` over the two slots of the flash, and
the ways a write of a slot may end. Neither function trusts more of a slot than
`decode_slot` accepts, so the store is a two-slot store in the sense of
`Logic.TwoSlot`.
-/

namespace Daft

open Logic

/-! ## Slots -/

/-- `CONFIG_STORE_MAGIC`. -/
abbrev configStoreMagic : UInt32 := 0x44414654

/-- `CONFIG_STORE_SLOT_COUNT`. -/
abbrev configStoreSlotCount : Nat := 2

/-- `CONFIG_STORE_META_SIZE`. -/
abbrev configStoreMetaSize : Nat := 16

/-- `ConfigStoreSlotRead`: the contents of a slot as `read_slot` returns them. -/
structure ConfigStoreSlotRead where
  validMarker : Bool := false
  metaRaw : Vector UInt8 configStoreMetaSize := Vector.replicate _ 0
  metaLen : Nat := 0
  payload : Vector UInt8 configBlobMaxSize := Vector.replicate _ 0
  payloadLen : Nat := 0
  deriving DecidableEq

/-- `SlotMeta`. -/
structure SlotMeta where
  version : UInt16 := configVersion
  length : UInt16 := 0
  generation : UInt32 := 0
  crc : UInt16 := 0
  deriving DecidableEq

def writeMeta (slotMeta : SlotMeta) : List UInt8 :=
  writeU32 configStoreMagic ++ writeU16 slotMeta.version ++ writeU16 slotMeta.length ++
    writeU32 slotMeta.generation ++ writeU16 slotMeta.crc ++ writeU16 0

/-- `read_meta`, `none` where it returns false. -/
def readMeta (raw : List UInt8) (length : Nat) : Option SlotMeta :=
  if length ≠ configStoreMetaSize ∨ readU32 raw ≠ configStoreMagic then none
  else
    let slotMeta : SlotMeta :=
      { version := readU16 (raw.drop 4), length := readU16 (raw.drop 6),
        generation := readU32 (raw.drop 8), crc := readU16 (raw.drop 12) }
    if slotMeta.version = configVersion ∧ slotMeta.length.toNat ≤ configBlobMaxSize then
      some slotMeta
    else none

/-- `decode_slot`, `none` where it returns false. -/
def decodeSlot (slot : ConfigStoreSlotRead) : Option (ActuatorConfig × UInt32) :=
  if !slot.validMarker then none
  else
    match readMeta slot.metaRaw.toList slot.metaLen with
    | none => none
    | some slotMeta =>
      if slot.payloadLen ≠ slotMeta.length.toNat ∨
          crc16Ccitt (slot.payload.toList.take slotMeta.length.toNat) ≠ slotMeta.crc then none
      else (deserializeConfig slot.payload.toList slot.payloadLen).map fun config =>
        (config, slotMeta.generation)

def configStoreGenerationNewer (candidate current : UInt32) : Bool :=
  candidate ≠ current ∧ (candidate - current).toInt32 > 0

/-! ## Loading and saving -/

/-- `ConfigStoreIo`, `none` for a null callback. What `write_slot` does to the slots
is left to `WriteEnd`; of `clear` there is the answer. -/
structure ConfigStoreIo where
  readSlot : Option (Nat → Option ConfigStoreSlotRead) := none
  writeSlot : Option Unit := none
  clear : Option Bool := none

/-- One round of the loop of `config_store_load`. -/
def loadRound (read : Nat → Option ConfigStoreSlotRead)
    (best : Option (ActuatorConfig × UInt32)) (slotIndex : Nat) :
    Option (ActuatorConfig × UInt32) :=
  match (read slotIndex).bind decodeSlot with
  | none => best
  | some candidate =>
    match best with
    | none => some candidate
    | some (_, bestGeneration) =>
      if configStoreGenerationNewer candidate.2 bestGeneration then some candidate else best

/-- `config_store_load`. -/
def configStoreLoad (io : ConfigStoreIo) : Option (ActuatorConfig × UInt32) :=
  match io.readSlot with
  | none => none
  | some read => (List.range configStoreSlotCount).foldl (loadRound read) none

/-- The locals of the loop of `config_store_save`. -/
structure SaveScan where
  valid : Vector Bool configStoreSlotCount := Vector.replicate _ false
  found : Bool := false
  newestGeneration : UInt32 := 0
  newestSlot : Nat := 0

/-- One round of that loop. -/
def scanRound (read : Nat → Option ConfigStoreSlotRead) (scan : SaveScan) (slotIndex : Nat) :
    SaveScan :=
  match read slotIndex with
  | none => scan
  | some slot =>
    match decodeSlot slot with
    | none => { scan with valid := scan.valid.setIfInBounds slotIndex false }
    | some (_, generation) =>
      let scan := { scan with valid := scan.valid.setIfInBounds slotIndex true }
      if !scan.found ∨ configStoreGenerationNewer generation scan.newestGeneration then
        { scan with newestGeneration := generation, newestSlot := slotIndex, found := true }
      else scan

def SaveScan.targetSlot (scan : SaveScan) : Nat :=
  if !scan.valid[0] then 0
  else if !scan.valid[1] then 1
  else if scan.newestSlot = 0 then 1 else 0

def SaveScan.nextGeneration (scan : SaveScan) : UInt32 :=
  if scan.found then scan.newestGeneration + 1 else 1

/-- The meta of a payload saved with a generation. -/
def SlotMeta.of (payload : List UInt8) (generation : UInt32) : SlotMeta :=
  { length := payload.length.toUInt16, generation, crc := crc16Ccitt payload }

/-- The arguments of `write_slot`, and the generation reported if it succeeds. -/
structure SlotWrite where
  slot : Nat
  metaRaw : List UInt8
  payload : List UInt8
  generation : UInt32

/-- `config_store_save` up to its call of `write_slot`. -/
def configStoreSave (io : ConfigStoreIo) (config : ActuatorConfig) : Option SlotWrite :=
  match io.readSlot, io.writeSlot with
  | some read, some () =>
    match serializeConfig config configBlobMaxSize with
    | none => none
    | some payload =>
      let scan := (List.range configStoreSlotCount).foldl (scanRound read) {}
      some { slot := scan.targetSlot, metaRaw := writeMeta (.of payload scan.nextGeneration),
             payload := payload, generation := scan.nextGeneration }
  | _, _ => none

/-- `config_store_clear`. -/
def configStoreClear (io : ConfigStoreIo) : Bool := io.clear.getD false

/-! ## Writing a slot -/

/-- A zeroed buffer with `bytes` written from its start. -/
def bufferOf (size : Nat) (bytes : List UInt8) : Vector UInt8 size :=
  ⟨((bytes ++ List.replicate size 0).take size).toArray, by simp⟩

/-- The writes of `esp32_write_slot`, in order. One that fails, the first aside, is the
last. -/
def SlotWrite.puts (w : SlotWrite) : List (ConfigStoreSlotRead → ConfigStoreSlotRead) :=
  [fun slot => { slot with validMarker := false },
   fun slot => { slot with payload := bufferOf configBlobMaxSize w.payload,
                           payloadLen := w.payload.length },
   fun slot => { slot with metaRaw := bufferOf configStoreMetaSize w.metaRaw,
                           metaLen := w.metaRaw.length },
   fun slot => { slot with validMarker := true }]

/-- The slot after the first `done` writes. -/
def SlotWrite.afterPuts (w : SlotWrite) (slot : ConfigStoreSlotRead) (done : Nat) :
    ConfigStoreSlotRead :=
  (w.puts.take done).foldl (fun slot put => put slot) slot

/-- Where a call of `write_slot` ends: before the marker is cleared, anywhere up to
setting it again with whatever the slot then holds, or after it. -/
inductive WriteEnd where
  | untouched
  | cleared (contents : ConfigStoreSlotRead)
  | markerSet

/-- The target slot after `write_slot`. -/
def SlotWrite.after (w : SlotWrite) (slot : ConfigStoreSlotRead) : WriteEnd → ConfigStoreSlotRead
  | .untouched => slot
  | .cleared contents => { contents with validMarker := false }
  | .markerSet => w.afterPuts slot 4

/-- The callbacks over the flash. -/
def flashIo (slots : Slots ConfigStoreSlotRead) : ConfigStoreIo where
  readSlot := some fun slotIndex =>
    match slotIndex with
    | 0 => some slots.first
    | 1 => some slots.second
    | _ => none
  writeSlot := some ()

/-- The slot of an index. -/
def sideOf (slotIndex : Nat) : Side := if slotIndex = 0 then .first else .second

/-- One `config_store_save` of a valid configuration. -/
structure SaveAttempt where
  config : ActuatorConfig
  valid : Valid config
  ended : WriteEnd

/-- The slots after an attempt. -/
def SaveAttempt.run (slots : Slots ConfigStoreSlotRead) (attempt : SaveAttempt) :
    Slots ConfigStoreSlotRead :=
  match configStoreSave (flashIo slots) attempt.config with
  | none => slots
  | some w => slots.set (w.after (slots.get (sideOf w.slot)) attempt.ended) (sideOf w.slot)

/-! ## The store as a two-slot store -/

theorem generationNewer_next (g : UInt32) : configStoreGenerationNewer (g + 1) g = true := by
  have one : g + 1 - g = 1 := by rw [UInt32.add_comm, UInt32.add_sub_cancel]
  have moved : g + 1 ≠ g := fun same => by
    rw [same, UInt32.sub_self] at one
    cases one
  simp [configStoreGenerationNewer, one, moved]

theorem not_generationNewer_next (g : UInt32) : configStoreGenerationNewer g (g + 1) = false := by
  have minusOne : g - (g + 1) = -1 := by
    rw [UInt32.sub_eq_add_neg, UInt32.neg_add, UInt32.sub_eq_add_neg, ← UInt32.add_assoc,
      UInt32.add_right_neg, UInt32.zero_add]
  simp only [configStoreGenerationNewer, minusOne, decide_eq_false_iff_not]
  exact fun newer => absurd newer.2 (by decide)

/-- `decode_slot` and `config_store_generation_newer` as a two-slot store. -/
def configStore : SlotStore ConfigStoreSlotRead ActuatorConfig UInt32 where
  decode := decodeSlot
  newer := configStoreGenerationNewer
  next g := g + 1
  start := 1
  next_newer := generationNewer_next
  not_newer_next := not_generationNewer_next

section

variable (slots : Slots ConfigStoreSlotRead)

theorem configStoreLoad_flash : configStoreLoad (flashIo slots) = configStore.load slots := by
  have rounds : configStoreLoad (flashIo slots) =
      loadRound (fun | 0 => some slots.first | 1 => some slots.second | _ => none)
        (loadRound (fun | 0 => some slots.first | 1 => some slots.second | _ => none) none 0) 1 :=
    rfl
  rw [rounds]
  simp only [loadRound, Option.bind_some, SlotStore.load, configStore]
  cases decodeSlot slots.first <;> cases decodeSlot slots.second <;> rfl

/-- Only a valid configuration is read from a slot. -/
theorem decodeSlot_valid {slot : ConfigStoreSlotRead} {config : ActuatorConfig}
    {generation : UInt32} (decoded : decodeSlot slot = some (config, generation)) :
    Valid config := by
  simp only [decodeSlot] at decoded
  split at decoded
  · cases decoded
  split at decoded
  · cases decoded
  split at decoded
  · cases decoded
  obtain ⟨read, deserialized, same⟩ := Option.map_eq_some_iff.mp decoded
  obtain rfl := (Prod.mk.inj same).1
  exact deserializeConfig_valid deserialized

/-- What `config_store_load` returns passes the check `begin` makes. -/
theorem configStoreLoad_valid {config : ActuatorConfig} {generation : UInt32}
    (loaded : configStoreLoad (flashIo slots) = some (config, generation)) : Valid config := by
  rw [configStoreLoad_flash] at loaded
  rcases SlotStore.load_decoded loaded with first | second
  · exact decodeSlot_valid first
  · exact decodeSlot_valid second

/-- The scan of `config_store_save` aims where the store does. -/
theorem scan_flash (read : Nat → Option ConfigStoreSlotRead) (first : read 0 = some slots.first)
    (second : read 1 = some slots.second) :
    let scan := (List.range configStoreSlotCount).foldl (scanRound read) {}
    sideOf scan.targetSlot = configStore.target slots ∧
      scan.nextGeneration = configStore.generationAfter (configStore.load slots) := by
  have rounds : (List.range configStoreSlotCount).foldl (scanRound read) {} =
      scanRound read (scanRound read {} 0) 1 := rfl
  simp only [rounds, scanRound, first, second, SlotStore.target, SlotStore.load, configStore]
  cases one : decodeSlot slots.first with
  | none =>
    cases two : decodeSlot slots.second with
    | none => exact ⟨rfl, rfl⟩
    | some reading => exact ⟨rfl, rfl⟩
  | some reading =>
    cases two : decodeSlot slots.second with
    | none => exact ⟨rfl, rfl⟩
    | some reading' =>
      cases newer : configStoreGenerationNewer reading'.2 reading.2 <;>
        simp [SlotStore.aim, SlotStore.pick, SaveScan.targetSlot, SaveScan.nextGeneration, newer,
          sideOf, SlotStore.generationAfter]

end

/-! ## What a completed write leaves -/

theorem bufferOf_toList {size : Nat} {bytes : List UInt8} (fits : bytes.length ≤ size) :
    (bufferOf size bytes).toList = bytes ++ List.replicate (size - bytes.length) 0 := by
  simp [bufferOf, List.take_append, List.take_of_length_le fits]

@[simp] theorem writeMeta_length (slotMeta : SlotMeta) :
    (writeMeta slotMeta).length = configStoreMetaSize := rfl

theorem readMeta_writeMeta {slotMeta : SlotMeta} (version : slotMeta.version = configVersion)
    (fits : slotMeta.length.toNat ≤ configBlobMaxSize) :
    readMeta (writeMeta slotMeta) configStoreMetaSize = some slotMeta := by
  obtain ⟨_, length, generation, crc⟩ := slotMeta
  obtain rfl : _ = configVersion := version
  have short : length.toNat ≤ configBlobMaxSize := fits
  have magic : readU32 (writeMeta ⟨configVersion, length, generation, crc⟩) = configStoreMagic :=
    readU32_writeU32 ..
  have fields : readU16 ((writeMeta ⟨configVersion, length, generation, crc⟩).drop 4) =
        configVersion ∧
      readU16 ((writeMeta ⟨configVersion, length, generation, crc⟩).drop 6) = length ∧
      readU32 ((writeMeta ⟨configVersion, length, generation, crc⟩).drop 8) = generation ∧
      readU16 ((writeMeta ⟨configVersion, length, generation, crc⟩).drop 12) = crc :=
    ⟨readU16_writeU16 .., readU16_writeU16 .., readU32_writeU32 .., readU16_writeU16 ..⟩
  simp [readMeta, magic, fields, short]

/-- The slot a completed save leaves is read as what was saved. -/
theorem decodeSlot_written {config : ActuatorConfig} (valid : Valid config) (w : SlotWrite)
    (payload : w.payload = configFields config)
    (metaRaw : w.metaRaw = writeMeta (.of w.payload w.generation)) (slot : ConfigStoreSlotRead) :
    decodeSlot (w.after slot .markerSet) =
      some ({ config with motor.axisName := defaultAxisName }, w.generation) := by
  obtain ⟨_, _, _, generation⟩ := w
  obtain rfl := payload
  obtain rfl : _ = writeMeta (.of (configFields config) generation) := metaRaw
  have length : (SlotMeta.of (configFields config) generation).length.toNat = configBlobSize := rfl
  have stored : (bufferOf configBlobMaxSize (configFields config)).toList =
      configFields config ++ List.replicate (configBlobMaxSize - configBlobSize) 0 :=
    bufferOf_toList (by rw [configFields_length]; decide)
  have header : (bufferOf configStoreMetaSize
      (writeMeta (.of (configFields config) generation))).toList =
        writeMeta (.of (configFields config) generation) := by
    rw [bufferOf_toList (Nat.le_of_eq (writeMeta_length _)), writeMeta_length, Nat.sub_self]
    exact List.append_nil _
  have read : readMeta (writeMeta (.of (configFields config) generation)) configStoreMetaSize =
      some (.of (configFields config) generation) :=
    readMeta_writeMeta rfl (by rw [length]; decide)
  have checked : (configFields config ++
      List.replicate (configBlobMaxSize - configBlobSize) 0).take configBlobSize =
        configFields config := by
    rw [← configFields_length config, List.take_left]
  simp only [decodeSlot, SlotWrite.after, SlotWrite.afterPuts, SlotWrite.puts, List.take,
    List.foldl_cons, List.foldl_nil, header, writeMeta_length, read, stored, length,
    configFields_length, checked]
  simp [deserializeConfig_configFields valid, SlotMeta.of]

/-! ## Attempts -/

namespace SaveAttempt

variable (attempt : SaveAttempt)

/-- The stored part of the configuration. -/
def stored : ActuatorConfig := { attempt.config with motor.axisName := defaultAxisName }

def completes : Bool :=
  match attempt.ended with
  | .markerSet => true
  | _ => false

/-- The abstract store: one register, written by the attempts that complete. -/
def register (current : Option (ActuatorConfig × UInt32)) (attempt : SaveAttempt) :
    Option (ActuatorConfig × UInt32) :=
  if attempt.completes then some (attempt.stored, configStore.generationAfter current) else current

variable (slots : Slots ConfigStoreSlotRead)

/-- A save writes the slot the store aims at, with the next generation. -/
theorem save_flash : ∃ w, configStoreSave (flashIo slots) attempt.config = some w ∧
    sideOf w.slot = configStore.target slots ∧
    w.generation = configStore.generationAfter (configStore.load slots) ∧
    w.payload = configFields attempt.config ∧
    w.metaRaw = writeMeta (.of w.payload w.generation) := by
  have scan := scan_flash slots
    (fun | 0 => some slots.first | 1 => some slots.second | _ => none) rfl rfl
  have serialized : serializeConfig attempt.config configBlobMaxSize =
      some (configFields attempt.config) := by
    simp [serializeConfig, validateConfig_ok_iff.mpr attempt.valid]
  have save : configStoreSave (flashIo slots) attempt.config = some
      (let scan := (List.range configStoreSlotCount).foldl
        (scanRound fun | 0 => some slots.first | 1 => some slots.second | _ => none) {}
      { slot := scan.targetSlot
        metaRaw := writeMeta (.of (configFields attempt.config) scan.nextGeneration)
        payload := configFields attempt.config, generation := scan.nextGeneration }) := by
    simp only [configStoreSave, flashIo, serialized]
  exact ⟨_, save, scan.1, scan.2, rfl, rfl⟩

variable {attempt} in
/-- A completed attempt leaves its target readable as the next save. -/
theorem run_completed (completes : attempt.completes = true) :
    ∃ slot, attempt.run slots = slots.set slot (configStore.target slots) ∧
      decodeSlot slot =
        some (attempt.stored, configStore.generationAfter (configStore.load slots)) := by
  obtain ⟨config, valid, ended⟩ := attempt
  obtain ⟨w, save, slot, generation, payload, metaRaw⟩ := save_flash ⟨config, valid, ended⟩ slots
  cases ended with
  | untouched => cases completes
  | cleared => cases completes
  | markerSet =>
    refine ⟨w.after (slots.get (configStore.target slots)) .markerSet, ?_, ?_⟩
    · simp only [run, save, slot]
    · rw [← generation]
      exact decodeSlot_written valid w payload metaRaw _

theorem run_writes :
    configStore.Writes slots attempt.stored (run slots attempt)
      (register (configStore.load slots) attempt) := by
  cases completes : attempt.completes with
  | true =>
    obtain ⟨slot, ran, decoded⟩ := run_completed slots completes
    rw [ran, register, if_pos completes]
    exact .written decoded
  | false =>
    obtain ⟨config, valid, ended⟩ := attempt
    obtain ⟨w, save, slot, -⟩ := save_flash ⟨config, valid, ended⟩ slots
    simp only [run, save, register, completes, slot]
    cases ended with
    | untouched =>
      have same : slots.set (slots.get (configStore.target slots)) (configStore.target slots) =
          slots := by
        cases configStore.target slots <;> rfl
      simp only [SlotWrite.after, same]
      exact .untouched
    | cleared contents => exact .torn rfl
    | markerSet => cases completes

end SaveAttempt

/-- The store refines the register. -/
theorem load_refines_register (slots : Slots ConfigStoreSlotRead) (attempts : List SaveAttempt) :
    configStoreLoad (flashIo (attempts.foldl SaveAttempt.run slots)) =
      attempts.foldl SaveAttempt.register (configStoreLoad (flashIo slots)) := by
  simp only [configStoreLoad_flash]
  induction attempts generalizing slots with
  | nil => rfl
  | cons attempt attempts ih =>
    rw [List.foldl_cons, List.foldl_cons, ih, (attempt.run_writes slots).load]

/-- The generation of a reading, 0 before the first save. -/
def generationOf : Option (ActuatorConfig × UInt32) → UInt32
  | none => 0
  | some (_, generation) => generation

theorem generationAfter_eq (reading : Option (ActuatorConfig × UInt32)) :
    configStore.generationAfter reading = generationOf reading + 1 := by
  cases reading <;> rfl

/-- The register holds the last completed attempt, one generation per completion. -/
theorem register_eq (attempts : List SaveAttempt) (current : Option (ActuatorConfig × UInt32)) :
    attempts.foldl SaveAttempt.register current =
      match (attempts.filter SaveAttempt.completes).getLast? with
      | none => current
      | some last => some (last.stored, generationOf current +
          UInt32.ofNat (attempts.filter SaveAttempt.completes).length) := by
  induction attempts generalizing current with
  | nil => rfl
  | cons attempt attempts ih =>
    rw [List.foldl_cons, ih]
    cases completes : attempt.completes with
    | false => simp [SaveAttempt.register, completes]
    | true =>
      rw [List.filter_cons_of_pos completes, List.getLast?_cons]
      simp only [SaveAttempt.register, completes, if_true, generationAfter_eq]
      cases last : (attempts.filter SaveAttempt.completes).getLast? with
      | none =>
        have none : attempts.filter SaveAttempt.completes = [] := List.getLast?_eq_none_iff.mp last
        simp [none]
      | some last =>
        rw [List.length_cons, UInt32.ofNat_add, UInt32.add_comm (UInt32.ofNat _), ← UInt32.add_assoc]
        rfl

/-! ## Main result -/

/-- Whatever the slots held at first and however the attempts ended, the store reads
as the last attempt that completed, or as at first; each completed save is one
generation further, modulo 2³². -/
theorem store_keeps_last_save (slots : Slots ConfigStoreSlotRead) (attempts : List SaveAttempt) :
    configStoreLoad (flashIo (attempts.foldl SaveAttempt.run slots)) =
        (match (attempts.filter SaveAttempt.completes).getLast? with
        | none => configStoreLoad (flashIo slots)
        | some last => some (last.stored, generationOf (configStoreLoad (flashIo slots)) +
            UInt32.ofNat (attempts.filter SaveAttempt.completes).length)) ∧
      ∀ attempt : SaveAttempt,
        (configStoreSave (flashIo (attempts.foldl SaveAttempt.run slots)) attempt.config).map
            (·.generation) =
          some (generationOf (configStoreLoad (flashIo (attempts.foldl SaveAttempt.run slots))) + 1) := by
  refine ⟨by rw [load_refines_register, register_eq], fun attempt => ?_⟩
  obtain ⟨w, save, -, generation, -⟩ :=
    attempt.save_flash (attempts.foldl SaveAttempt.run slots)
  rw [save, Option.map_some, generation, generationAfter_eq, configStoreLoad_flash]

/-! ## The spare -/

/-- The index of a slot. -/
def slotIndex : Side → Nat
  | .first => 0
  | .second => 1

/-- When one slot cannot be read, the store loads what the other one holds. -/
theorem configStoreLoad_other (read : Nat → Option ConfigStoreSlotRead) (damaged : Side)
    (lost : (read (slotIndex damaged)).bind decodeSlot = none) :
    configStoreLoad { readSlot := some read } =
      (read (slotIndex damaged.other)).bind decodeSlot := by
  have rounds : configStoreLoad { readSlot := some read } = loadRound read (loadRound read none 0) 1 :=
    rfl
  rw [rounds]
  cases damaged with
  | first =>
    have unread : (read 0).bind decodeSlot = none := lost
    simp only [loadRound, unread]
    show _ = (read 1).bind decodeSlot
    cases (read 1).bind decodeSlot <;> rfl
  | second =>
    have unread : (read 1).bind decodeSlot = none := lost
    simp only [loadRound, unread]
    show _ = (read 0).bind decodeSlot
    cases (read 0).bind decodeSlot <;> rfl

/-- After two successful saves, whatever the slots held before them, one slot reads
as the last save and the other as the one before it, a generation earlier. While
either slot cannot be read, `config_store_load` returns what the other one holds. -/
theorem store_keeps_spare (slots : Slots ConfigStoreSlotRead) (attempts : List SaveAttempt)
    (before last : SaveAttempt) (succeeded : before.completes = true ∧ last.completes = true) :
    let after := (attempts ++ [before, last]).foldl SaveAttempt.run slots
    ∃ side generation,
      decodeSlot (after.get side) = some (last.stored, generation + 1) ∧
      decodeSlot (after.get side.other) = some (before.stored, generation) ∧
      ∀ (read : Nat → Option ConfigStoreSlotRead) (damaged : Side),
        (read (slotIndex damaged)).bind decodeSlot = none →
        read (slotIndex damaged.other) = some (after.get damaged.other) →
        configStoreLoad { readSlot := some read } =
          if damaged = side then some (before.stored, generation)
          else some (last.stored, generation + 1) := by
  intro after
  let held := attempts.foldl SaveAttempt.run slots
  obtain ⟨slot, written, readable⟩ := SaveAttempt.run_completed held succeeded.1
  obtain ⟨slot', written', readable'⟩ :=
    SaveAttempt.run_completed (held.set slot (configStore.target held)) succeeded.2
  have counted := configStore.load_written readable
  rw [counted] at readable'
  have runs : after = (held.set slot (configStore.target held)).set slot'
      (configStore.target (held.set slot (configStore.target held))) := by
    rw [← written', ← written]
    show (attempts ++ [before, last]).foldl SaveAttempt.run slots = _
    rw [List.foldl_append]
    rfl
  obtain ⟨newest, spare⟩ := configStore.spare_written readable readable'
  rw [← runs] at newest spare
  refine ⟨_, _, newest, spare, ?_⟩
  intro read damaged lost intact
  rw [configStoreLoad_other read damaged lost, intact, Option.bind_some]
  by_cases same : damaged = configStore.target (held.set slot (configStore.target held))
  · rw [if_pos same, same]
    exact spare
  · rw [if_neg same, Side.other_eq same]
    exact newest

/-- A save that completes, one of another configuration, and one whose power is cut. -/
def defaultSave : SaveAttempt := ⟨defaultConfig, defaultConfig_valid, .markerSet⟩

def fasterSave : SaveAttempt where
  config := { motion.maxVelocitySps := 3000 }
  valid := validateConfig_ok_iff.mp (by decide)
  ended := .markerSet

def tornSave : SaveAttempt := ⟨defaultConfig, defaultConfig_valid, .cleared {}⟩

/-- The slots, one of them overwritten with zeros. -/
def damagedRead (slots : Slots ConfigStoreSlotRead) (damaged : Side) (slot : Nat) :
    Option ConfigStoreSlotRead :=
  if slot = slotIndex damaged then some {} else some (slots.get damaged.other)

/-- A torn save, a save and a save of another configuration: whichever slot is then damaged,
the other one is loaded. -/
theorem store_keeps_spare_damaged :
    let after := [tornSave, defaultSave, fasterSave].foldl SaveAttempt.run ⟨{}, {}⟩
    ∃ side generation,
      decodeSlot (after.get side) = some (fasterSave.stored, generation + 1) ∧
        decodeSlot (after.get side.other) = some (defaultSave.stored, generation) ∧
        configStoreLoad { readSlot := some (damagedRead after side) } =
          some (defaultSave.stored, generation) ∧
        configStoreLoad { readSlot := some (damagedRead after side.other) } =
          some (fasterSave.stored, generation + 1) := by
  intro after
  have lost : ∀ damaged : Side,
      (damagedRead after damaged (slotIndex damaged)).bind decodeSlot = none := by
    intro damaged
    rw [damagedRead, if_pos rfl]
    decide
  have intact : ∀ damaged : Side, damagedRead after damaged (slotIndex damaged.other) =
      some (after.get damaged.other) := by
    intro damaged
    cases damaged <;> rfl
  obtain ⟨side, generation, newest, spare, loads⟩ :=
    store_keeps_spare ⟨{}, {}⟩ [tornSave] defaultSave fasterSave ⟨rfl, rfl⟩
  have first := loads _ side (lost side) (intact side)
  have second := loads _ side.other (lost side.other) (intact side.other)
  rw [if_pos rfl] at first
  rw [if_neg (by cases side <;> decide)] at second
  exact ⟨side, generation, newest, spare, first, second⟩

end Daft
