import Daft.Session.Durability

/-!
# The store on the ESP32

The store's slots are kept as entries of the `Preferences` library: a marker, a header
and a payload for each. A put may fail and leave either entry, or none, and the first
put of a write goes unchecked; power that is lost is a put that reports nothing more.
However a write ends, its slot reads as before, as nothing, or as what was written.
-/

namespace Daft

open Logic

/-! ## The library -/

inductive NvsEntry where
  | uint (value : UInt32)
  | blob (bytes : List UInt8)
  deriving DecidableEq

abbrev NvsEntries := String → Option NvsEntry

/-- `Preferences` on the namespace of the store, over a partition in a state `N`. -/
structure Preferences (N : Type) where
  /-- `begin` of the namespace to read from it. -/
  opens : N → Bool
  /-- `begin` of the namespace to write to it; creates it. -/
  begin : N → Bool × N
  getUInt : N → String → UInt32 → UInt32
  /-- The bytes written to a buffer of some size; their number is returned. -/
  getBytes : N → String → Nat → List UInt8
  putUInt : N → String → UInt32 → Nat × N
  putBytes : N → String → List UInt8 → Nat × N
  clear : N → Bool × N

/-- A put of `entry` and whether it reports success. One that fails may have been made
all the same, or may lose the entry. -/
structure PutsEntry (key : String) (entry : NvsEntry) (before after : NvsEntries) (ok : Prop) :
    Prop where
  others : ∀ other, other ≠ key → after other = before other
  left : after key = before key ∨ after key = none ∨ after key = some entry
  done : ok → after key = some entry

def NvsEntries.uint (entries : NvsEntries) (key : String) (default : UInt32) : UInt32 :=
  match entries key with
  | some (.uint value) => value
  | _ => default

def NvsEntries.bytes (entries : NvsEntries) (key : String) (capacity : Nat) : List UInt8 :=
  match entries key with
  | some (.blob bytes) => if bytes.length ≤ capacity then bytes else []
  | _ => []

/-- What the store relies on, by the entries a partition holds. -/
structure Preferences.Lawful {N : Type} (prefs : Preferences N) (holds : N → NvsEntries) : Prop where
  closed : ∀ nvs, prefs.opens nvs = false → ∀ key, holds nvs key = none
  begun : ∀ nvs, holds (prefs.begin nvs).2 = holds nvs
  getUInt : ∀ nvs key default, prefs.getUInt nvs key default = (holds nvs).uint key default
  getBytes : ∀ nvs key capacity, prefs.getBytes nvs key capacity = (holds nvs).bytes key capacity
  putUInt : ∀ nvs key value, PutsEntry key (.uint value) (holds nvs)
    (holds (prefs.putUInt nvs key value).2) ((prefs.putUInt nvs key value).1 = 4)
  putBytes : ∀ nvs key bytes, bytes ≠ [] → PutsEntry key (.blob bytes) (holds nvs)
    (holds (prefs.putBytes nvs key bytes).2) ((prefs.putBytes nvs key bytes).1 = bytes.length)
  erases : ∀ nvs key, holds (prefs.clear nvs).2 key = holds nvs key ∨
    holds (prefs.clear nvs).2 key = none
  cleared : ∀ nvs, (prefs.clear nvs).1 = true → ∀ key, holds (prefs.clear nvs).2 key = none

/-! ## The callbacks of the store -/

/-- `CONFIG_STORE_VALID_MARKER`. -/
abbrev configStoreValidMarker : UInt32 := 0xA5D0C0DE

structure SlotKeys where
  validKey : String
  metaKey : String
  payloadKey : String

def slotKeys (slot : Nat) : SlotKeys :=
  { validKey := ["valid0", "valid1"].getD slot ""
    metaKey := ["meta0", "meta1"].getD slot ""
    payloadKey := ["payload0", "payload1"].getD slot "" }

section

variable {N : Type} (prefs : Preferences N)

/-- `esp32_read_slot`, `none` where it returns false. -/
def esp32ReadSlot (nvs : N) (slot : Nat) : Option ConfigStoreSlotRead :=
  let keys := slotKeys slot
  if !prefs.opens nvs then none
  else
    let metaRaw := prefs.getBytes nvs keys.metaKey configStoreMetaSize
    let payload := prefs.getBytes nvs keys.payloadKey configBlobMaxSize
    some { validMarker := prefs.getUInt nvs keys.validKey 0 = configStoreValidMarker
           metaRaw := bufferOf configStoreMetaSize metaRaw, metaLen := metaRaw.length
           payload := bufferOf configBlobMaxSize payload, payloadLen := payload.length }

/-- `esp32_write_slot`. -/
def esp32WriteSlot (slot : Nat) (metaRaw payload : List UInt8) : StateM N Bool := do
  let keys := slotKeys slot
  if !(← prefs.begin) then return false
  let _ ← (prefs.putUInt · keys.validKey 0)
  if (← (prefs.putBytes · keys.payloadKey payload)) ≠ payload.length then return false
  if (← (prefs.putBytes · keys.metaKey metaRaw)) ≠ metaRaw.length then return false
  return (← (prefs.putUInt · keys.validKey configStoreValidMarker)) = 4

/-- `esp32_clear_config_store`. -/
def esp32ClearConfigStore : StateM N Bool := do
  if !(← prefs.begin) then return false
  prefs.clear

/-- `config_store_io`. -/
def esp32StoreIo (nvs : N) : ConfigStoreIo where
  readSlot := some (esp32ReadSlot prefs nvs)
  writeSlot := some ()
  clear := some (esp32ClearConfigStore prefs nvs).1

/-- `cb_save_config`. -/
def cbSaveConfig (config : ActuatorConfig) : StateM N Bool := fun nvs =>
  match configStoreSave (esp32StoreIo prefs nvs) config with
  | none => (false, nvs)
  | some w => esp32WriteSlot prefs w.slot w.metaRaw w.payload nvs

/-- `cb_load_config`. -/
def cbLoadConfig (nvs : N) : Option (ActuatorConfig × UInt32) :=
  configStoreLoad (esp32StoreIo prefs nvs)

/-- `cb_reset_config_storage`. -/
def cbResetConfigStorage : StateM N Bool := fun nvs =>
  (configStoreClear (esp32StoreIo prefs nvs), (esp32ClearConfigStore prefs nvs).2)

end

/-! ## The slots the entries make -/

/-- The slot its entries read as. -/
def NvsEntries.slot (entries : NvsEntries) (slot : Nat) : ConfigStoreSlotRead :=
  let keys := slotKeys slot
  let metaRaw := entries.bytes keys.metaKey configStoreMetaSize
  let payload := entries.bytes keys.payloadKey configBlobMaxSize
  { validMarker := entries.uint keys.validKey 0 = configStoreValidMarker
    metaRaw := bufferOf configStoreMetaSize metaRaw, metaLen := metaRaw.length
    payload := bufferOf configBlobMaxSize payload, payloadLen := payload.length }

def NvsEntries.slots (entries : NvsEntries) : Slots ConfigStoreSlotRead :=
  ⟨entries.slot 0, entries.slot 1⟩

def SlotKeys.Holds (keys : SlotKeys) (key : String) : Prop :=
  key = keys.validKey ∨ key = keys.metaKey ∨ key = keys.payloadKey

theorem NvsEntries.slots_get (entries : NvsEntries) (side : Side) :
    entries.slots.get side = entries.slot (slotIndex side) := by
  cases side <;> rfl

/-- The keys of one slot are none of the other's. -/
theorem slotKeys_other (side : Side) {key : String} (held : (slotKeys (slotIndex side.other)).Holds key) :
    ¬ (slotKeys (slotIndex side)).Holds key := by
  cases side <;> rcases held with rfl | rfl | rfl <;> simp [SlotKeys.Holds, slotKeys, slotIndex, Side.other]

theorem NvsEntries.uint_congr {entries entries' : NvsEntries} {key : String} (default : UInt32)
    (same : entries' key = entries key) : entries'.uint key default = entries.uint key default := by
  rw [uint, uint, same]

theorem NvsEntries.bytes_congr {entries entries' : NvsEntries} {key : String} (capacity : Nat)
    (same : entries' key = entries key) : entries'.bytes key capacity = entries.bytes key capacity := by
  rw [bytes, bytes, same]

/-- A slot is made of the entries under its keys. -/
theorem NvsEntries.slot_congr {entries entries' : NvsEntries} {slot : Nat}
    (same : ∀ key, (slotKeys slot).Holds key → entries' key = entries key) :
    entries'.slot slot = entries.slot slot := by
  simp only [NvsEntries.slot, uint_congr 0 (same _ (.inl rfl)),
    bytes_congr configStoreMetaSize (same _ (.inr (.inl rfl))),
    bytes_congr configBlobMaxSize (same _ (.inr (.inr rfl)))]

theorem NvsEntries.slot_nothing {entries : NvsEntries} (slot : Nat)
    (nothing : ∀ key, entries key = none) : decodeSlot (entries.slot slot) = none := by
  have unmarked : (entries.slot slot).validMarker = false := by
    simp [NvsEntries.slot, NvsEntries.uint, nothing, configStoreValidMarker]
  rw [decodeSlot, unmarked]
  rfl

section

variable {N : Type} {prefs : Preferences N} {holds : N → NvsEntries}

/-- What is read of a slot decodes as its entries do. -/
theorem Preferences.Lawful.readSlot (lawful : prefs.Lawful holds) (nvs : N) (slot : Nat) :
    (esp32ReadSlot prefs nvs slot).bind decodeSlot = decodeSlot ((holds nvs).slot slot) := by
  cases opens : prefs.opens nvs with
  | false =>
    have nothing := (holds nvs).slot_nothing slot (lawful.closed nvs opens)
    rw [esp32ReadSlot, opens, nothing]
    rfl
  | true =>
    rw [esp32ReadSlot, opens]
    simp only [lawful.getUInt, lawful.getBytes, NvsEntries.slot]
    rfl

end

/-! ## Loads and scans over any reader -/

section

variable {read : Nat → Option ConfigStoreSlotRead} {slots : Slots ConfigStoreSlotRead}

theorem configStoreLoad_reads {io : ConfigStoreIo} (reads : io.readSlot = some read)
    (each : ∀ side, (read (slotIndex side)).bind decodeSlot = decodeSlot (slots.get side)) :
    configStoreLoad io = configStore.load slots := by
  have first : (read 0).bind decodeSlot = decodeSlot slots.first := each .first
  have second : (read 1).bind decodeSlot = decodeSlot slots.second := each .second
  have rounds : configStoreLoad io = loadRound read (loadRound read none 0) 1 := by
    rw [configStoreLoad, reads]
    rfl
  simp only [rounds, loadRound, first, second, SlotStore.load, configStore]
  cases decodeSlot slots.first <;> cases decodeSlot slots.second <;> rfl

variable (read slots) in
/-- A slot that cannot be read is scanned as one that does not decode. -/
theorem scan_reads
    (each : ∀ side, (read (slotIndex side)).bind decodeSlot = decodeSlot (slots.get side)) :
    let scan := (List.range configStoreSlotCount).foldl (scanRound read) {}
    sideOf scan.targetSlot = configStore.target slots ∧
      scan.nextGeneration = configStore.generationAfter (configStore.load slots) ∧
      slotIndex (sideOf scan.targetSlot) = scan.targetSlot := by
  have first : (read 0).bind decodeSlot = decodeSlot slots.first := each .first
  have second : (read 1).bind decodeSlot = decodeSlot slots.second := each .second
  have rounds : (List.range configStoreSlotCount).foldl (scanRound read) {} =
      scanRound read (scanRound read {} 0) 1 := rfl
  simp only [rounds, scanRound, SlotStore.target, SlotStore.load, configStore, ← first, ← second]
  rcases read 0 with _ | slot <;> rcases read 1 with _ | slot'
  · exact ⟨rfl, rfl, rfl⟩
  · cases two : decodeSlot slot' <;> simp [two] <;> exact ⟨rfl, rfl, rfl⟩
  · cases one : decodeSlot slot <;> simp [one] <;> exact ⟨rfl, rfl, rfl⟩
  · cases one : decodeSlot slot with
    | none => cases two : decodeSlot slot' <;> simp [one, two] <;> exact ⟨rfl, rfl, rfl⟩
    | some reading =>
      cases two : decodeSlot slot' with
      | none => simp [one, two]; exact ⟨rfl, rfl, rfl⟩
      | some reading' =>
        cases newer : configStoreGenerationNewer reading'.2 reading.2 <;>
          simp [one, two, SlotStore.aim, SlotStore.pick, SaveScan.targetSlot, SaveScan.nextGeneration,
            newer, sideOf, SlotStore.generationAfter, slotIndex]

end

/-! ## Writes -/

/-- How a write may leave the entries of its slot: with at most the marker changed,
without a payload, or with the new payload and anything else. -/
inductive SlotLeft (keys : SlotKeys) (payload : List UInt8) (before after : NvsEntries) : Prop where
  | unwritten (payloadSame : after keys.payloadKey = before keys.payloadKey)
      (metaSame : after keys.metaKey = before keys.metaKey)
      (marker : after keys.validKey = before keys.validKey ∨ after keys.validKey = none ∨
        after keys.validKey = some (.uint 0))
  | lost (gone : after keys.payloadKey = none)
  | rewritten (new : after keys.payloadKey = some (.blob payload))

/-- What a write that reports success leaves. -/
structure SlotStored (keys : SlotKeys) (metaRaw payload : List UInt8) (after : NvsEntries) : Prop where
  marker : after keys.validKey = some (.uint configStoreValidMarker)
  header : after keys.metaKey = some (.blob metaRaw)
  payload : after keys.payloadKey = some (.blob payload)

theorem slotKeys_distinct (side : Side) :
    (slotKeys (slotIndex side)).metaKey ≠ (slotKeys (slotIndex side)).validKey ∧
      (slotKeys (slotIndex side)).payloadKey ≠ (slotKeys (slotIndex side)).validKey ∧
      (slotKeys (slotIndex side)).payloadKey ≠ (slotKeys (slotIndex side)).metaKey := by
  cases side <;> simp [slotKeys, slotIndex]

section

variable {N : Type} {prefs : Preferences N} {holds : N → NvsEntries}

/-- The write, put by put. -/
theorem esp32WriteSlot_run (slot : Nat) (metaRaw payload : List UInt8) (nvs : N) :
    let opened := prefs.begin nvs
    let unmarked := prefs.putUInt opened.2 (slotKeys slot).validKey 0
    let put := prefs.putBytes unmarked.2 (slotKeys slot).payloadKey payload
    let headed := prefs.putBytes put.2 (slotKeys slot).metaKey metaRaw
    let marked := prefs.putUInt headed.2 (slotKeys slot).validKey configStoreValidMarker
    esp32WriteSlot prefs slot metaRaw payload nvs =
      if !opened.1 then (false, opened.2)
      else if put.1 ≠ payload.length then (false, put.2)
      else if headed.1 ≠ metaRaw.length then (false, headed.2)
      else (marked.1 = 4, marked.2) := by
  intro opened unmarked put headed marked
  show (if !opened.1 then StateT.pure false else _ : StateM N Bool) opened.2 = _
  split
  · rfl
  show (if put.1 ≠ payload.length then StateT.pure false else _ : StateM N Bool) put.2 = _
  split
  · rfl
  show (if headed.1 ≠ metaRaw.length then StateT.pure false else _ : StateM N Bool) headed.2 = _
  split
  · rfl
  · rfl

theorem Preferences.Lawful.writeSlot (lawful : prefs.Lawful holds) (nvs : N) (side : Side)
    (metaRaw payload : List UInt8) (titled : metaRaw ≠ []) (filled : payload ≠ []) :
    let keys := slotKeys (slotIndex side)
    let written := esp32WriteSlot prefs (slotIndex side) metaRaw payload nvs
    (∀ key, ¬ keys.Holds key → holds written.2 key = holds nvs key) ∧
      SlotLeft keys payload (holds nvs) (holds written.2) ∧
      (written.1 = true → SlotStored keys metaRaw payload (holds written.2)) := by
  intro keys written
  obtain ⟨metaValid, payloadValid, payloadMeta⟩ := slotKeys_distinct side
  have ran : written = _ := esp32WriteSlot_run (slotIndex side) metaRaw payload nvs
  have begun := lawful.begun nvs
  clear_value written
  generalize prefs.begin nvs = opened at *
  have unmarks := lawful.putUInt opened.2 keys.validKey 0
  generalize prefs.putUInt opened.2 keys.validKey 0 = unmarked at *
  have puts := lawful.putBytes unmarked.2 keys.payloadKey payload filled
  generalize prefs.putBytes unmarked.2 keys.payloadKey payload = put at *
  have heads := lawful.putBytes put.2 keys.metaKey metaRaw titled
  generalize prefs.putBytes put.2 keys.metaKey metaRaw = headed at *
  have marks := lawful.putUInt headed.2 keys.validKey configStoreValidMarker
  generalize prefs.putUInt headed.2 keys.validKey configStoreValidMarker = marked at *
  rw [begun] at unmarks
  have outside : ∀ key, ¬ keys.Holds key →
      key ≠ keys.validKey ∧ key ≠ keys.metaKey ∧ key ≠ keys.payloadKey := fun key other =>
    ⟨fun same => other (.inl same), fun same => other (.inr (.inl same)),
      fun same => other (.inr (.inr same))⟩
  by_cases closed : (!opened.1) = true
  · rw [if_pos closed] at ran
    subst ran
    exact ⟨fun _ _ => congrFun begun _, .unwritten (congrFun begun _) (congrFun begun _)
      (.inl (congrFun begun _)), Bool.false_ne_true.elim⟩
  rw [if_neg closed] at ran
  have toPut : ∀ key, ¬ keys.Holds key → holds put.2 key = holds nvs key := fun key other =>
    (puts.others key (outside key other).2.2).trans (unmarks.others key (outside key other).1)
  by_cases unput : put.1 ≠ payload.length
  · rw [if_pos unput] at ran
    subst ran
    refine ⟨toPut, ?_, Bool.false_ne_true.elim⟩
    rcases puts.left with same | gone | new
    · refine .unwritten (same.trans (unmarks.others _ payloadValid))
        ((puts.others _ payloadMeta.symm).trans (unmarks.others _ metaValid)) ?_
      rw [puts.others _ payloadValid.symm]
      exact unmarks.left
    · exact .lost gone
    · exact .rewritten new
  rw [if_neg unput] at ran
  have written₂ : holds put.2 keys.payloadKey = some (.blob payload) := puts.done (Decidable.not_not.mp unput)
  have written₃ := (heads.others _ payloadMeta).trans written₂
  have toHead : ∀ key, ¬ keys.Holds key → holds headed.2 key = holds nvs key := fun key other =>
    (heads.others key (outside key other).2.1).trans (toPut key other)
  by_cases unheaded : headed.1 ≠ metaRaw.length
  · rw [if_pos unheaded] at ran
    subst ran
    exact ⟨toHead, .rewritten written₃, Bool.false_ne_true.elim⟩
  rw [if_neg unheaded] at ran
  subst ran
  have written₄ := (marks.others _ payloadValid).trans written₃
  refine ⟨fun key other => (marks.others key (outside key other).1).trans (toHead key other),
    .rewritten written₄, fun stored => ⟨marks.done (of_decide_eq_true stored), ?_, written₄⟩⟩
  exact (marks.others _ metaValid).trans (heads.done (Decidable.not_not.mp unheaded))

end

/-! ## What a write leaves to read -/

/-- A slot decodes as its payload does, or not at all. -/
theorem decodeSlot_payload (slot : ConfigStoreSlotRead) :
    decodeSlot slot = none ∨ ∃ config generation,
      deserializeConfig slot.payload.toList slot.payloadLen = some config ∧
        decodeSlot slot = some (config, generation) := by
  unfold decodeSlot
  split
  · exact .inl rfl
  split
  · exact .inl rfl
  split
  · exact .inl rfl
  cases deserializeConfig slot.payload.toList slot.payloadLen with
  | none => exact .inl rfl
  | some config => exact .inr ⟨config, _, rfl, rfl⟩

theorem decodeSlot_unmarked {slot : ConfigStoreSlotRead} (unmarked : slot.validMarker = false) :
    decodeSlot slot = none := by
  rw [decodeSlot, unmarked]
  rfl

section

variable {before after : NvsEntries} {slot : Nat} {config : ActuatorConfig}

theorem NvsEntries.bytes_blob {entries : NvsEntries} {key : String} {bytes : List UInt8}
    {capacity : Nat} (held : entries key = some (.blob bytes)) (fits : bytes.length ≤ capacity) :
    entries.bytes key capacity = bytes := by
  rw [NvsEntries.bytes, held]
  exact if_pos fits

/-- A slot whose payload is a configuration decodes as that configuration, or not at all. -/
theorem NvsEntries.slot_rewritten (valid : Valid config)
    (held : after (slotKeys slot).payloadKey = some (.blob (configFields config))) :
    decodeSlot (after.slot slot) = none ∨
      ∃ generation, decodeSlot (after.slot slot) = some (config.stored, generation) := by
  have fits : (configFields config).length ≤ configBlobMaxSize := by
    rw [configFields_length]
    decide
  have payload : deserializeConfig (after.slot slot).payload.toList (after.slot slot).payloadLen =
      some config.stored := by
    simp only [NvsEntries.slot, bytes_blob held fits, bufferOf_toList fits]
    rw [configFields_length]
    exact deserializeConfig_configFields valid _
  rcases decodeSlot_payload (after.slot slot) with none | ⟨read, generation, same, decoded⟩
  · exact .inl none
  · obtain rfl := Option.some.inj (payload.symm.trans same)
    exact .inr ⟨generation, decoded⟩

theorem NvsEntries.slot_unfilled (gone : after (slotKeys slot).payloadKey = none) :
    decodeSlot (after.slot slot) = none := by
  have empty : (after.slot slot).payloadLen = 0 := by
    simp [NvsEntries.slot, NvsEntries.bytes, gone]
  rcases decodeSlot_payload (after.slot slot) with none | ⟨read, generation, same, -⟩
  · exact none
  · rw [empty, deserializeConfig_short _ (by decide)] at same
    cases same

/-- However a write of a configuration ends, its slot reads as before, as nothing, or as
that configuration. -/
theorem SlotLeft.decodes (valid : Valid config)
    (left : SlotLeft (slotKeys slot) (configFields config) before after) :
    decodeSlot (after.slot slot) = decodeSlot (before.slot slot) ∨
      decodeSlot (after.slot slot) = none ∨
      ∃ generation, decodeSlot (after.slot slot) = some (config.stored, generation) := by
  cases left with
  | unwritten payloadSame metaSame marker =>
    rcases marker with same | gone | zero
    · refine .inl (congrArg decodeSlot (NvsEntries.slot_congr ?_))
      rintro key (rfl | rfl | rfl)
      · exact same
      · exact metaSame
      · exact payloadSame
    · refine .inr (.inl (decodeSlot_unmarked ?_))
      simp [NvsEntries.slot, NvsEntries.uint, gone, configStoreValidMarker]
    · refine .inr (.inl (decodeSlot_unmarked ?_))
      simp [NvsEntries.slot, NvsEntries.uint, zero, configStoreValidMarker]
  | lost gone => exact .inr (.inl (NvsEntries.slot_unfilled gone))
  | rewritten new => exact .inr (NvsEntries.slot_rewritten valid new)

theorem SlotStored.decodes (valid : Valid config) {generation : UInt32}
    (stored : SlotStored (slotKeys slot)
      (writeMeta (.of (configFields config) generation)) (configFields config) after) :
    decodeSlot (after.slot slot) = some (config.stored, generation) := by
  let w : SlotWrite :=
    { slot, generation, payload := configFields config
      metaRaw := writeMeta (.of (configFields config) generation) }
  have fits : (configFields config).length ≤ configBlobMaxSize := by
    rw [configFields_length]
    decide
  have same : after.slot slot = w.after (after.slot slot) .markerSet := by
    simp only [NvsEntries.slot, NvsEntries.bytes_blob stored.payload fits,
      NvsEntries.bytes_blob stored.header (Nat.le_of_eq (writeMeta_length _)), NvsEntries.uint,
      stored.marker]
    rfl
  rw [same]
  exact decodeSlot_written valid w rfl rfl _

end

/-! ## Saves and resets -/

/-- A write that keeps to the keys of one slot sets that slot. -/
theorem NvsEntries.slots_set {before after : NvsEntries} (side : Side)
    (others : ∀ key, ¬ (slotKeys (slotIndex side)).Holds key → after key = before key) :
    after.slots = before.slots.set (after.slot (slotIndex side)) side := by
  have other : after.slot (slotIndex side.other) = before.slot (slotIndex side.other) :=
    slot_congr fun key held => others key (slotKeys_other side held)
  cases side with
  | first => exact congrArg (Slots.mk (after.slot 0)) other
  | second => exact congrArg (Slots.mk · (after.slot 1)) other

/-- What a save leaves of the store, by its answer. -/
structure SaveLeft (config : ActuatorConfig) (before after : NvsEntries) (ok : Bool) : Prop where
  slots : ∀ side, decodeSlot (after.slots.get side) = decodeSlot (before.slots.get side) ∨
    decodeSlot (after.slots.get side) = none ∨
    ∃ generation, decodeSlot (after.slots.get side) = some (config.stored, generation)
  reads : configStore.load after.slots = configStore.load before.slots ∨
    ∃ generation, configStore.load after.slots = some (config.stored, generation)
  saved : ok = true → configStore.load after.slots =
    some (config.stored, generationOf (configStore.load before.slots) + 1)

section

variable {N : Type} {prefs : Preferences N} {holds : N → NvsEntries}

theorem Preferences.Lawful.load (lawful : prefs.Lawful holds) (nvs : N) :
    cbLoadConfig prefs nvs = configStore.load (holds nvs).slots :=
  configStoreLoad_reads rfl fun side => by
    rw [NvsEntries.slots_get]
    exact lawful.readSlot nvs (slotIndex side)

/-- A save writes the slot the store aims at. -/
theorem Preferences.Lawful.save_target (lawful : prefs.Lawful holds) (nvs : N)
    {config : ActuatorConfig} (valid : Valid config) :
    let slots := (holds nvs).slots
    cbSaveConfig prefs config nvs = esp32WriteSlot prefs (slotIndex (configStore.target slots))
      (writeMeta (.of (configFields config) (configStore.generationAfter (configStore.load slots))))
      (configFields config) nvs := by
  intro slots
  have serialized : serializeConfig config configBlobMaxSize = some (configFields config) := by
    simp [serializeConfig, validateConfig_ok_iff.mpr valid]
  obtain ⟨aims, next, index⟩ := scan_reads (esp32ReadSlot prefs nvs) slots fun side => by
    rw [NvsEntries.slots_get]
    exact lawful.readSlot nvs (slotIndex side)
  rw [← next, ← aims, index]
  simp only [cbSaveConfig, configStoreSave, esp32StoreIo, serialized]

theorem Preferences.Lawful.save (lawful : prefs.Lawful holds) (nvs : N) (config : ActuatorConfig) :
    SaveLeft config (holds nvs) (holds (cbSaveConfig prefs config nvs).2)
      (cbSaveConfig prefs config nvs).1 := by
  cases checked : (validateConfig config).ok with
  | false =>
    have refused : cbSaveConfig prefs config nvs = (false, nvs) := by
      rw [cbSaveConfig, configStoreSave_invalid checked]
    rw [refused]
    exact ⟨fun _ => .inl rfl, .inl rfl, Bool.false_ne_true.elim⟩
  | true =>
    have valid := validateConfig_ok_iff.mp checked
    let slots := (holds nvs).slots
    obtain ⟨others, left, stored⟩ := lawful.writeSlot nvs (configStore.target slots)
      (writeMeta (.of (configFields config) (configStore.generationAfter (configStore.load slots))))
      (configFields config)
      (List.ne_nil_of_length_pos (by rw [writeMeta_length]; decide))
      (List.ne_nil_of_length_pos (by rw [configFields_length]; decide))
    rw [← lawful.save_target nvs valid] at others left stored
    have set := NvsEntries.slots_set _ others
    have decodes := left.decodes valid
    have aimed : slots.get (configStore.target slots) =
        (holds nvs).slot (slotIndex (configStore.target slots)) := NvsEntries.slots_get ..
    rw [← aimed] at decodes
    refine ⟨?_, ?_, ?_⟩
    · intro side
      rw [set]
      by_cases same : configStore.target slots = side
      · rw [← same, Slots.get_set]
        exact decodes
      · rw [← Side.other_eq same, Slots.get_set_other]
        exact .inl rfl
    · rw [set]
      rcases decodes with same | none | ⟨generation, new⟩
      · refine .inl (SlotStore.load_congr fun side => ?_)
        by_cases here : configStore.target slots = side
        · rw [← here, Slots.get_set]
          exact same
        · rw [← Side.other_eq here, Slots.get_set_other]
      · exact .inl (configStore.load_unreadable none)
      · rcases configStore.load_any (s := slots) _ with kept | taken
        · exact .inl kept
        · exact .inr ⟨generation, taken.trans new⟩
    · intro ok
      have decoded := (stored ok).decodes valid
      rw [set, configStore.load_written decoded, generationAfter_eq]

/-- A slot that lost some of its entries reads as before or not at all. -/
theorem NvsEntries.slot_erased {before after : NvsEntries} (slot : Nat)
    (erased : ∀ key, after key = before key ∨ after key = none) :
    decodeSlot (after.slot slot) = decodeSlot (before.slot slot) ∨
      decodeSlot (after.slot slot) = none := by
  rcases erased (slotKeys slot).payloadKey with payloadSame | gone
  · rcases erased (slotKeys slot).metaKey with metaSame | gone
    · rcases erased (slotKeys slot).validKey with markerSame | gone
      · refine .inl (congrArg decodeSlot (NvsEntries.slot_congr ?_))
        rintro key (rfl | rfl | rfl)
        · exact markerSame
        · exact metaSame
        · exact payloadSame
      · refine .inr (decodeSlot_unmarked ?_)
        simp [NvsEntries.slot, NvsEntries.uint, gone, configStoreValidMarker]
    · have empty : (after.slot slot).metaLen = 0 := by
        simp [NvsEntries.slot, NvsEntries.bytes, gone]
      refine .inr ?_
      simp [decodeSlot, readMeta, empty]
  · exact .inr (NvsEntries.slot_unfilled gone)

theorem Preferences.Lawful.reset (lawful : prefs.Lawful holds) (nvs : N) :
    let done := cbResetConfigStorage prefs nvs
    (∀ key, holds done.2 key = holds nvs key ∨ holds done.2 key = none) ∧
      (done.1 = true → ∀ key, holds done.2 key = none) := by
  intro done
  have ran : done = if !(prefs.begin nvs).1 then (false, (prefs.begin nvs).2)
      else prefs.clear (prefs.begin nvs).2 := by
    show (esp32ClearConfigStore prefs nvs) = _
    show (if !(prefs.begin nvs).1 then StateT.pure false else _ : StateM N Bool) (prefs.begin nvs).2 = _
    split
    · rfl
    · rfl
  clear_value done
  have begun := lawful.begun nvs
  split at ran
  · subst ran
    exact ⟨fun key => .inl (congrFun begun key), Bool.false_ne_true.elim⟩
  · subst ran
    exact ⟨fun key => begun ▸ lawful.erases (prefs.begin nvs).2 key, lawful.cleared _⟩

end

end Daft
