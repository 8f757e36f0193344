import Daft.Config.Store
import Daft.Safety.ConfigCopies

/-!
# The stored generation

The actuator counts its saves on from the generation it booted with; the store
takes the generation of a save from what its slots hold. Loads and saves, failed
ones included, keep the two counts together. `CONFIG_RESET_DEFAULTS` erases the
store, whose count starts over, and the actuator's goes on.
-/

namespace Daft

open Logic

/-! ## The store behind the callbacks -/

/-- A flash with two slots: what they hold at first, and how their writes end. -/
structure Flash where
  initial : Slots ConfigStoreSlotRead
  /-- Whether a write completes. -/
  writes : History → Bool
  /-- What a write that does not complete leaves, with the marker cleared; `none` where
  it does not touch the slot. -/
  torn : History → Option ConfigStoreSlotRead
  erases : History → Bool

namespace Flash

variable (flash : Flash)

/-- The end of the write of a save, by its answer. -/
def ended (ok : Bool) (past : History) : WriteEnd :=
  if ok then .markerSet
  else
    match flash.torn past with
    | none => .untouched
    | some contents => .cleared contents

/-- The slots after a save. -/
def saved (slots : Slots ConfigStoreSlotRead) (config : ActuatorConfig) (ended : WriteEnd) :
    Slots ConfigStoreSlotRead :=
  match configStoreSave (flashIo slots) config with
  | none => slots
  | some w => slots.set (w.after (slots.get (sideOf w.slot)) ended) (sideOf w.slot)

/-- The slots after the calls made. -/
def slots : History → Slots ConfigStoreSlotRead
  | [] => flash.initial
  | .saveConfig config ok :: past => saved (slots past) config (flash.ended ok past)
  | .resetConfigStorage ok :: past => if ok then ⟨{}, {}⟩ else slots past
  | _ :: past => slots past

def io (h : History) : ConfigStoreIo :=
  { flashIo (flash.slots h) with clear := some (flash.erases h) }

/-- Whether `config_store_save` succeeds. -/
def saves (h : History) (config : ActuatorConfig) : Bool :=
  (configStoreSave (flash.io h) config).isSome && flash.writes h

/-- `cb_load_config`, `cb_save_config` and `cb_reset_config_storage` over this flash. -/
structure Wired (b : MotionBackend) : Prop where
  load : b.loadConfig = some fun h => configStoreLoad (flash.io h)
  save : b.saveConfig = some flash.saves
  reset : b.resetConfigStorage = some fun h => configStoreClear (flash.io h)

/-- The generation the store reads as. -/
def generation (h : History) : UInt32 := generationOf (configStoreLoad (flash.io h))

end Flash

/-- What a call makes of the store's generation. -/
def Call.storedGeneration (call : Call) (generation : UInt32) : UInt32 :=
  match call with
  | .saveConfig config ok =>
    if ok = true ∧ (validateConfig config).ok = true then generation + 1 else generation
  | .resetConfigStorage ok => if ok then 0 else generation
  | _ => generation

def Call.erasesStorage : Call → Bool
  | .resetConfigStorage ok => ok
  | _ => false

section

variable {flash : Flash} {h h' : History} {calls : List Call}

theorem Flash.generation_eq (h : History) :
    flash.generation h = generationOf (configStoreLoad (flashIo (flash.slots h))) := rfl

/-- `config_store_save` refuses what it cannot serialize. -/
theorem configStoreSave_invalid {io : ConfigStoreIo} {config : ActuatorConfig}
    (invalid : (validateConfig config).ok = false) : configStoreSave io config = none := by
  simp only [configStoreSave, serializeConfig, invalid]
  split <;> rfl

/-- A completed save of a valid configuration is one generation further, any other
leaves the store as it was to its reader. -/
theorem Flash.generation_save (config : ActuatorConfig) (ok : Bool) (past : History) :
    flash.generation (.saveConfig config ok :: past) =
      (Call.saveConfig config ok).storedGeneration (flash.generation past) := by
  cases valid : (validateConfig config).ok with
  | false =>
    have unsaved : flash.slots (.saveConfig config ok :: past) = flash.slots past := by
      rw [slots, saved, configStoreSave_invalid valid]
    rw [generation_eq, unsaved]
    simp [generation_eq, Call.storedGeneration, valid]
  | true =>
    let attempt : SaveAttempt := ⟨config, validateConfig_ok_iff.mp valid, flash.ended ok past⟩
    have register : configStoreLoad (flashIo (attempt.run (flash.slots past))) =
        attempt.register (configStoreLoad (flashIo (flash.slots past))) :=
      load_refines_register (flash.slots past) [attempt]
    have completes : attempt.completes = ok := by
      simp only [attempt, SaveAttempt.completes, ended]
      cases ok with
      | true => rfl
      | false => cases flash.torn past <;> rfl
    have read : flash.generation (.saveConfig config ok :: past) =
        generationOf (attempt.register (configStoreLoad (flashIo (flash.slots past)))) :=
      congrArg generationOf register
    rw [read, SaveAttempt.register, completes, Call.storedGeneration]
    cases ok with
    | true =>
      rw [if_pos rfl, if_pos ⟨rfl, valid⟩]
      exact generationAfter_eq _
    | false =>
      rw [if_neg Bool.false_ne_true, if_neg fun done => Bool.false_ne_true done.1]
      rfl

theorem Flash.generation_cons (call : Call) (past : History) :
    flash.generation (call :: past) = call.storedGeneration (flash.generation past) := by
  cases call with
  | saveConfig config ok => exact generation_save config ok past
  | resetConfigStorage ok => cases ok <;> rfl
  | _ => rfl

theorem Call.storedGeneration_silent {call : Call} (silent : call.isStorage = false)
    (generation : UInt32) : call.storedGeneration generation = generation := by
  cases call <;> first | rfl | cases silent

theorem Flash.generation_silent (silent : ∀ call ∈ calls, call.isStorage = false) :
    flash.generation (calls ++ h) = flash.generation h := by
  induction calls with
  | nil => rfl
  | cons call calls ih =>
    obtain ⟨here, before⟩ := List.forall_mem_cons.mp silent
    rw [List.cons_append, generation_cons, Call.storedGeneration_silent here, ih before]

/-- The notable calls decide the generation. -/
theorem Flash.generation_adds (adds : Adds Call.notable h calls h') :
    flash.generation h' = flash.generation (calls ++ h) := by
  apply adds.reads
  · intro call past quiet
    have silent := absent_of_silent Call.notable_of_isStorage quiet
    rw [generation_cons, Call.storedGeneration_silent silent]
  · intro call past past' same
    rw [generation_cons, generation_cons, same]

/-- How often the storage was erased. -/
theorem countP_erasures (adds : Adds Call.notable h calls h') :
    h'.countP Call.erasesStorage = calls.countP Call.erasesStorage + h.countP Call.erasesStorage := by
  rw [← List.countP_append]
  apply adds.reads
  · intro call past quiet
    have silent : call.erasesStorage = false := by
      cases call <;> first | rfl | cases quiet
    rw [List.countP_cons_of_neg (by simp [silent])]
  · intro call past past' same
    rw [List.countP_cons, List.countP_cons, same]

theorem countP_erasures_silent (silent : ∀ call ∈ calls, call.isStorage = false) :
    calls.countP Call.erasesStorage = 0 := by
  apply List.countP_eq_zero.mpr
  intro call member
  have none := silent call member
  cases call <;> first | exact Bool.false_ne_true | cases none

end

/-! ## Booting -/

section

variable {b : MotionBackend} {m : Machine}

/-- The generation `begin` takes over. -/
def loadedGeneration (loaded : Option (Option (ActuatorConfig × UInt32))) : UInt32 :=
  match loaded with
  | some (some (config, generation)) => if (validateConfig config).ok then generation else 0
  | _ => 0

theorem beginDriver_generation :
    (m.beginDriver b).act.configGeneration = m.act.configGeneration := by
  have kept : ∃ calls c', Effect m calls [] c' (m.beginDriver b) ∧
      c'.configGeneration = m.act.configGeneration := by
    have configured := Effect.configureDriver m b m.act.activeConfig.driver
    simp only [Machine.beginDriver]
    generalize m.configureDriver b m.act.activeConfig.driver = asked at *
    split
    · exact ⟨_, _, (configured.fault .DRIVER (.map none)).moveTo .FAULTED (.map none), rfl⟩
    · have disabled := configured.keep (Effect.enableDriver asked.2 b false)
      exact ⟨_, _, disabled.moveTo .DISABLED (.map none), rfl⟩
  obtain ⟨calls, c', effect, same⟩ := kept
  rw [← same, effect.control]

theorem beginConfig_generation (unset : m.act.configGeneration = 0) :
    (m.beginConfig b).act.configGeneration =
      loadedGeneration (b.loadConfig.map fun f => f m.calls) := by
  have asked := Effect.ask m b.loadConfig .loadConfig fun _ => rfl
  rw [← Effect.answer m b.loadConfig .loadConfig]
  have chosen : ∃ c, Effect m (logged .loadConfig (m.ask b.loadConfig .loadConfig).1) [] c
      (m.beginConfig b) ∧
      c.configGeneration = loadedGeneration (m.ask b.loadConfig .loadConfig).1 := by
    simp only [Machine.beginConfig, Machine.loadConfig]
    generalize m.ask b.loadConfig .loadConfig = loaded at *
    rcases loaded with ⟨_ | _ | ⟨config, generation⟩, after⟩
    · exact ⟨_, asked, unset⟩
    · exact ⟨_, asked, unset⟩
    · simp only [loadedGeneration]
      split
      · exact ⟨_, asked.set fun c => { c with
          activeConfig := config, stagedConfig := config, configGeneration := generation }, rfl⟩
      · exact ⟨_, asked.fault .INVALID_CONFIG (.map none), unset⟩
  obtain ⟨c, effect, generation⟩ := chosen
  rw [← generation, effect.control]

/-- `begin` counts on from what `load_config` answers. -/
theorem step_begin_generation (b : MotionBackend) (m : Machine) (defaults : ActuatorConfig) :
    ∃ h, Adds Call.notable m.calls [] h ∧
      (step b m (.begin defaults)).act.configGeneration =
        loadedGeneration (b.loadConfig.map fun f => f h) := by
  obtain ⟨quiet, ⟨reason, control⟩, -, -⟩ := beginMembers_fresh (b := b) (m := m) defaults
  refine ⟨(m.beginMembers b defaults).calls, quiet, ?_⟩
  have unset : (m.beginMembers b defaults).act.configGeneration = 0 := by rw [control]; rfl
  exact beginDriver_generation.trans (beginConfig_generation unset)

end

/-! ## The stale count -/

/-- Keeps how far the actuator is ahead of the store: a `CONFIG_RESET_DEFAULTS` that
erases the storage leaves it ahead by all that it counted. -/
def noteStale (b : MotionBackend) (m : Machine) (op : Op) (stale : UInt32) : UInt32 :=
  match op with
  | .begin _ => 0
  | op =>
    if m.calls.countP Call.erasesStorage < (step b m op).calls.countP Call.erasesStorage then
      m.act.configGeneration
    else stale

/-- The generation counted before the storage was last erased, 0 where `begin` came after. -/
def staleGeneration (b : MotionBackend) (build : BuildInfo) (defaults : ActuatorConfig)
    (ops : List Op) : UInt32 :=
  noted (step b) (noteStale b) (.boot b build defaults []) 0 ops

/-- The invariant: the actuator counts the stored generation, and the stale count on top. -/
def Flash.Counts (flash : Flash) (m : Machine) (stale : UInt32) : Prop :=
  m.act.configGeneration = flash.generation m.calls + stale

section

variable {flash : Flash} {b : MotionBackend} {m m' : Machine} {op : Op} {stale : UInt32}
  {calls : List Call}

theorem noteStale_of_adds (goes : op.restarts = false)
    (adds : Adds Call.notable m.calls calls (step b m op).calls) :
    noteStale b m op stale =
      if 0 < calls.countP Call.erasesStorage then m.act.configGeneration else stale := by
  have more : m.calls.countP Call.erasesStorage < (step b m op).calls.countP Call.erasesStorage ↔
      0 < calls.countP Call.erasesStorage := by
    rw [countP_erasures adds]
    omega
  cases op with
  | begin => cases goes
  | _ => simp only [noteStale, more]

/-- A step that leaves the storage alone. -/
theorem Flash.Counts.silent (counts : flash.Counts m stale) (goes : op.restarts = false)
    (adds : Adds Call.notable m.calls calls (step b m op).calls)
    (silent : ∀ call ∈ calls, call.isStorage = false)
    (same : (step b m op).act.configGeneration = m.act.configGeneration) :
    flash.Counts (step b m op) (noteStale b m op stale) := by
  have none := countP_erasures_silent silent
  rw [noteStale_of_adds goes adds, none, if_neg (Nat.lt_irrefl 0), Counts, same,
    generation_adds adds, generation_silent silent]
  exact counts

/-- `cb_save_config` succeeds with valid configurations only. -/
theorem Flash.saves_valid {h : History} {config : ActuatorConfig}
    (saved : flash.saves h config = true) : (validateConfig config).ok = true := by
  cases valid : (validateConfig config).ok with
  | true => rfl
  | false =>
    rw [saves, configStoreSave_invalid valid] at saved
    cases saved

theorem Flash.Counts.executed {r : Packet} {port : Port} {responses : List Packet}
    (counts : flash.Counts m stale) (wired : flash.Wired b)
    (done : Executed b m r calls responses (step b m (.handlePacket r port))) :
    flash.Counts (step b m (.handlePacket r port)) (noteStale b m (.handlePacket r port) stale) := by
  cases done.served.stores with
  | keeps silent _ same => exact counts.silent rfl done.calls silent same
  | saves _ asked made counted =>
    have saved : flash.saves (m.arrival b) m.act.activeConfig = true := by
      rw [wired.save] at asked
      exact Option.some.inj asked
    have stored : flash.generation (step b m (.handlePacket r port)).calls =
        flash.generation m.calls + 1 := by
      rw [generation_adds done.calls, made, List.singleton_append, generation_cons]
      exact if_pos ⟨rfl, saves_valid saved⟩
    have kept : noteStale b m (.handlePacket r port) stale = stale := by
      rw [noteStale_of_adds rfl done.calls, made]
      rfl
    rw [kept, Counts, counted, stored, counts, UInt32.add_assoc, UInt32.add_comm stale,
      ← UInt32.add_assoc]
  | saveFails made _ same =>
    have stored : flash.generation (step b m (.handlePacket r port)).calls =
        flash.generation m.calls := by
      have incomplete : ¬ (false = true ∧ (validateConfig m.act.activeConfig).ok = true) := by simp
      rw [generation_adds done.calls, made, List.singleton_append, generation_cons,
        Call.storedGeneration, if_neg incomplete]
    have kept : noteStale b m (.handlePacket r port) stale = stale := by
      rw [noteStale_of_adds rfl done.calls, made]
      rfl
    rw [kept, Counts, same, stored]
    exact counts
  | @clears ok before _ made silent same =>
    have stored : flash.generation (step b m (.handlePacket r port)).calls =
        if ok then 0 else flash.generation m.calls := by
      rw [generation_adds done.calls, made, List.cons_append, generation_cons,
        generation_silent silent]
      rfl
    have erased : calls.countP Call.erasesStorage = if ok then 1 else 0 := by
      rw [made, List.countP_cons, countP_erasures_silent silent]
      cases ok <;> rfl
    rw [noteStale_of_adds rfl done.calls, erased, Counts, same, stored]
    cases ok with
    | true => exact (UInt32.zero_add _).symm
    | false => exact counts

/-- A `begin` reports the stored generation, from any state. -/
theorem Flash.generation_begin (wired : flash.Wired b) (m : Machine) (defaults : ActuatorConfig) :
    (step b m (.begin defaults)).act.configGeneration = flash.generation m.calls := by
  obtain ⟨h, adds, counted⟩ := step_begin_generation b m defaults
  have same : flash.generation h = flash.generation m.calls := generation_adds adds
  rw [counted, wired.load, ← same, generation_eq]
  show loadedGeneration (some (configStoreLoad (flashIo (flash.slots h)))) = _
  cases loaded : configStoreLoad (flashIo (flash.slots h)) with
  | none => rfl
  | some reading =>
    obtain ⟨config, generation⟩ := reading
    have valid := configStoreLoad_valid (flash.slots h) loaded
    exact if_pos (validateConfig_ok_iff.mpr valid)

theorem Ticked.same_generation {h : History} {elapsed : UInt32} {c c' : Control}
    (ticked : Ticked b h elapsed c calls c') : c'.configGeneration = c.configGeneration := by
  cases ticked <;> rfl

theorem Flash.counts_begin (wired : flash.Wired b) (m : Machine) (defaults : ActuatorConfig) :
    flash.Counts (step b m (.begin defaults)) 0 := by
  obtain ⟨calls, done⟩ := step_begun b m defaults
  have kept : flash.generation (step b m (.begin defaults)).calls = flash.generation m.calls := by
    rw [generation_adds done.calls, generation_silent done.begun.not_storage]
  rw [Counts, generation_begin wired, kept, UInt32.add_zero]

theorem Flash.Counts.step (counts : flash.Counts m stale) (wired : flash.Wired b) (op : Op) :
    flash.Counts (step b m op) (noteStale b m op stale) := by
  obtain ⟨calls, stepped⟩ := step_stepped b m op
  cases stepped with
  | executed _ done => exact counts.executed wired done
  | repeated _ done => exact counts.silent rfl done.calls (by simp) (by rw [done.control])
  | ticked done =>
    obtain ⟨pending, ticked⟩ := done.ticked
    exact counts.silent rfl (done.clock.after_quiet done.calls) ticked.not_storage
      ticked.same_generation
  | begun => exact counts_begin wired m _
  | framed _ done =>
    refine counts.silent rfl done.calls (by simp) ?_
    rw [done.control]
    rfl
  | reported telemetry reads done =>
    have goes : op.restarts = false := by
      cases op <;> first | rfl | cases telemetry
    exact counts.silent goes done.calls (reads.all fun _ => rfl) (by rw [done.control])

theorem boot_counts (wired : flash.Wired b) (build : BuildInfo) (defaults : ActuatorConfig)
    (ops : List Op) :
    flash.Counts (.boot b build defaults ops) (staleGeneration b build defaults ops) := by
  have always : Along (Daft.step b) (fun _ _ => True) (.boot b build defaults []) ops :=
    along_of_always (fun _ _ => trivial) _ _
  exact always.noted (J := flash.Counts) (fun _ op _ _ counts => counts.step wired op)
    (Flash.counts_begin wired _ defaults)

end

/-! ## Main result -/

/-- Whatever the flash holds at first and whichever of its writes and erasures fail:
after every operation, a `CONFIG_SAVE` included, a reboot would report the stored
generation. The actuator reports it exactly while nothing it counted was erased. -/
theorem reported_generation_stored_iff (b : MotionBackend) (flash : Flash) (build : BuildInfo)
    (defaults : ActuatorConfig) (ops : List Op) (m : Machine) (wired : flash.Wired b)
    (reached : m = .boot b build defaults ops) :
    (m.act.configGeneration = generationOf (configStoreLoad (flash.io m.calls)) ↔
        staleGeneration b build defaults ops = 0) ∧
      ∀ again, (step b m (.begin again)).act.configGeneration =
        generationOf (configStoreLoad (flash.io m.calls)) := by
  have counts : flash.Counts m (staleGeneration b build defaults ops) := by
    rw [reached]
    exact boot_counts wired build defaults ops
  constructor
  · rw [counts]
    exact UInt32.add_eq_left
  · intro again
    exact Flash.generation_begin wired m again

/-- The callbacks over a flash, nothing else wired. -/
def Flash.backend (flash : Flash) : MotionBackend where
  saveConfig := some flash.saves
  loadConfig := some fun h => configStoreLoad (flash.io h)
  resetConfigStorage := some fun h => configStoreClear (flash.io h)

/-- An empty flash that does what it is asked. -/
def blankFlash : Flash :=
  { initial := ⟨{}, {}⟩, writes := fun _ => true, torn := fun _ => none, erases := fun _ => true }

/-- A reset before anything is counted, and a save. -/
def earlyReset : List Op :=
  [.handlePacket (.request .CONFIG_RESET_DEFAULTS 1 []) none,
    .handlePacket (.request .CONFIG_SAVE 2 []) none]

theorem reported_generation_stored_early_reset :
    (Machine.boot blankFlash.backend {} {} earlyReset).act.configGeneration =
      generationOf (configStoreLoad
        (blankFlash.io (Machine.boot blankFlash.backend {} {} earlyReset).calls)) := by
  have unstale : staleGeneration blankFlash.backend {} {} earlyReset = 0 := rfl
  have exact_when := reported_generation_stored_iff blankFlash.backend blankFlash {} {} earlyReset _
    ⟨rfl, rfl, rfl⟩ rfl
  exact exact_when.1.mpr unstale

/-- After a save and a reset, the next acknowledged save is the second the actuator
counts and the first in the store. -/
theorem generation_ahead_of_store :
    let m := Machine.boot blankFlash.backend {} {}
      [.handlePacket (.request .CONFIG_SAVE 1 []) none,
        .handlePacket (.request .CONFIG_RESET_DEFAULTS 2 []) none]
    let r := Packet.request .CONFIG_SAVE 3 []
    let m' := step blankFlash.backend m (.handlePacket r none)
    blankFlash.Wired blankFlash.backend ∧ m.act.isDuplicate r = false ∧
      m'.act.lastResponses = [ackPacket r.seq r.msgId] ∧ m'.act.configGeneration = 2 ∧
      generationOf (configStoreLoad (blankFlash.io m'.calls)) = 1 := by
  intro m r m'
  have calls : m'.calls = [.saveConfig {} true, .resetConfigStorage true, .saveConfig {} true,
      .loadConfig none] := rfl
  refine ⟨⟨rfl, rfl, rfl⟩, rfl, rfl, rfl, ?_⟩
  show blankFlash.generation m'.calls = 1
  rw [calls, Flash.generation_cons, Flash.generation_cons]
  rfl

end Daft
