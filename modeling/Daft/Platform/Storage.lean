import Daft.Platform.Preferences

/-!
# Saves over the partition

A save that is acknowledged counts until the next one, whatever failing writes leave in
between. One that is not acknowledged may have been made all the same.
-/

namespace Daft

open Logic

/-! ## What the store may read as -/

/-- What the store may read as, and the configurations its slots may hold. -/
structure StoreView where
  reads : Option (ActuatorConfig × UInt32) → Prop
  holds : ActuatorConfig → Prop

namespace StoreView

variable (view : StoreView)

/-- Once a save is acknowledged there is one configuration to read. -/
def saved (config : ActuatorConfig) : StoreView where
  reads reading := ∃ before, view.reads before ∧ reading = some (config, generationOf before + 1)
  holds held := held = config ∨ view.holds held

def erased : StoreView := { reads := fun reading => reading = none, holds := fun _ => False }

/-- A save that is not acknowledged may count or not. -/
def tried (config : ActuatorConfig) : StoreView where
  reads reading := view.reads reading ∨ ∃ generation, reading = some (config, generation)
  holds held := held = config ∨ view.holds held

/-- A reset that is not acknowledged may uncover the other slot. -/
def damaged : StoreView :=
  { view with reads := fun reading => ∀ config ∈ reading.map Prod.fst, view.holds config }

structure Fits (entries : NvsEntries) : Prop where
  reads : view.reads (configStore.load entries.slots)
  holds : ∀ side config generation,
    decodeSlot (entries.slots.get side) = some (config, generation) → view.holds config

variable {view} {before after : NvsEntries} {config : ActuatorConfig} {ok : Bool}

/-- A save adds one configuration to what a slot may hold. -/
theorem Fits.held (fits : view.Fits before) (left : SaveLeft config before after ok) :
    ∀ side read generation, decodeSlot (after.slots.get side) = some (read, generation) →
      read = config.stored ∨ view.holds read := by
  intro side read generation decoded
  rcases left.slots side with same | none | ⟨generation', new⟩
  · exact .inr (fits.holds side read generation (same.symm.trans decoded))
  · rw [none] at decoded
    cases decoded
  · rw [new] at decoded
    cases decoded
    exact .inl rfl

/-- A save that succeeded is what there is to read. -/
theorem Fits.save (fits : view.Fits before) (left : SaveLeft config before after true) :
    (view.saved config.stored).Fits after :=
  ⟨⟨_, fits.reads, left.saved rfl⟩, fits.held left⟩

/-- A save that may have failed counts or not. -/
theorem Fits.attempt (fits : view.Fits before) (left : SaveLeft config before after ok) :
    (view.tried config.stored).Fits after :=
  ⟨left.reads.imp (fun same => by rw [same]; exact fits.reads) id, fits.held left⟩

/-- Trying to save without writing changes nothing. -/
theorem Fits.untried (fits : view.Fits before) (config : ActuatorConfig) :
    (view.tried config).Fits before :=
  ⟨.inl fits.reads, fun side read generation decoded =>
    .inr (fits.holds side read generation decoded)⟩

/-- An erased partition reads as nothing. -/
theorem Fits.erase (gone : ∀ key, after key = none) : erased.Fits after := by
  have nothing : ∀ side, decodeSlot (after.slots.get side) = none := fun side => by
    rw [NvsEntries.slots_get]
    exact after.slot_nothing _ gone
  refine ⟨?_, fun side read generation decoded => ?_⟩
  · have first : decodeSlot after.slots.first = none := nothing .first
    have second : decodeSlot after.slots.second = none := nothing .second
    show configStore.pick (decodeSlot _) (decodeSlot _) = none
    rw [first, second]
    rfl
  · rw [nothing side] at decoded
    cases decoded

/-- An erasure that stopped half way leaves in each slot what it held, or nothing. -/
theorem Fits.damage (fits : view.Fits before)
    (erased : ∀ key, after key = before key ∨ after key = none) : view.damaged.Fits after := by
  have held : ∀ side read generation, decodeSlot (after.slots.get side) = some (read, generation) →
      view.holds read := fun side read generation decoded => by
    rw [NvsEntries.slots_get] at decoded
    rcases NvsEntries.slot_erased (slotIndex side) erased with same | none
    · refine fits.holds side read generation ?_
      rw [NvsEntries.slots_get, ← same, decoded]
    · rw [none] at decoded
      cases decoded
  refine ⟨fun config member => ?_, held⟩
  obtain ⟨reading, loaded, rfl⟩ := Option.map_eq_some_iff.mp member
  rcases SlotStore.load_decoded loaded with first | second
  · exact held .first _ _ first
  · exact held .second _ _ second

theorem Fits.undamaged (fits : view.Fits before) : view.damaged.Fits before :=
  fits.damage fun _ => .inl rfl

end StoreView

/-! ## The partition behind the backend -/

section

variable {N : Type} (prefs : Preferences N) (initial : N)

/-- The partition after the calls made. -/
def nvsAfter : History → N
  | [] => initial
  | .saveConfig config _ :: past => (cbSaveConfig prefs config (nvsAfter past)).2
  | .resetConfigStorage _ :: past => (cbResetConfigStorage prefs (nvsAfter past)).2
  | _ :: past => nvsAfter past

/-- The storage callbacks of `make_backend`. -/
structure Preferences.Wired (b : MotionBackend) : Prop where
  load : b.loadConfig = some fun h => cbLoadConfig prefs (nvsAfter prefs initial h)
  save : b.saveConfig = some fun h config => (cbSaveConfig prefs config (nvsAfter prefs initial h)).1
  reset : b.resetConfigStorage = some fun h => (cbResetConfigStorage prefs (nvsAfter prefs initial h)).1

/-- The step executes a request of this kind. -/
def Machine.executes (m : Machine) (op : Op) (msg : MsgId) : Bool :=
  match op with
  | .handlePacket r _ => m.act.isDuplicate r = false ∧ r.msgId = msg.byte
  | _ => false

/-- What the store may read as after a step, by what is acknowledged. -/
def noteView (b : MotionBackend) (m : Machine) (op : Op) (view : StoreView) : StoreView :=
  if m.acknowledges b op .CONFIG_SAVE then view.saved m.act.activeConfig.stored
  else if m.acknowledges b op .CONFIG_RESET_DEFAULTS then .erased
  else if m.executes op .CONFIG_SAVE then view.tried m.act.activeConfig.stored
  else if m.executes op .CONFIG_RESET_DEFAULTS then view.damaged
  else view

variable {prefs initial} {holds : N → NvsEntries} {b : MotionBackend} {m : Machine} {op : Op}
  {view : StoreView} {h h' : History} {calls : List Call}

/-- Calls that are not about the store leave the partition. -/
theorem nvsAfter_silent (silent : ∀ call ∈ calls, call.isStorage = false) :
    nvsAfter prefs initial (calls ++ h) = nvsAfter prefs initial h := by
  induction calls with
  | nil => rfl
  | cons call calls ih =>
    obtain ⟨here, before⟩ := List.forall_mem_cons.mp silent
    rw [← ih before]
    cases call <;> first | rfl | cases here

/-- The calls that matter decide what the partition holds. -/
theorem nvsAfter_adds (adds : Adds Call.notable h calls h') :
    nvsAfter prefs initial h' = nvsAfter prefs initial (calls ++ h) := by
  apply adds.reads
  · intro call past quiet
    have silent := absent_of_silent Call.notable_of_isStorage quiet
    cases call <;> first | rfl | cases silent
  · intro call past past' same
    cases call <;> simp only [nvsAfter, same]

theorem noteView_of_silent (silent : ∀ msg, m.acknowledges b op msg = false)
    (unexecuted : ∀ msg, m.executes op msg = false) : noteView b m op view = view := by
  simp [noteView, silent, unexecuted]

/-- What is not acknowledged and changes nothing may still be taken for an attempt. -/
theorem StoreView.Fits.unacknowledged {entries : NvsEntries} (fits : view.Fits entries)
    (unsaved : m.acknowledges b op .CONFIG_SAVE = false)
    (unreset : m.acknowledges b op .CONFIG_RESET_DEFAULTS = false) :
    (noteView b m op view).Fits entries := by
  rw [noteView, unsaved, unreset, if_neg Bool.false_ne_true, if_neg Bool.false_ne_true]
  split
  · exact fits.untried _
  split
  · exact fits.undamaged
  · exact fits

/-- A request changes the view as it is acknowledged, tried or neither. -/
theorem StoreView.Fits.executed (lawful : prefs.Lawful holds) (wired : prefs.Wired initial b)
    {r : Packet} {port : Port} {responses : List Packet} (fresh : m.act.isDuplicate r = false)
    (done : Executed b m r calls responses (step b m (.handlePacket r port)))
    (fits : view.Fits (holds (nvsAfter prefs initial m.calls))) :
    (noteView b m (.handlePacket r port) view).Fits
      (holds (nvsAfter prefs initial (step b m (.handlePacket r port)).calls)) := by
  have answered : ∀ msg : MsgId, m.acknowledges b (.handlePacket r port) msg =
      decide (r.msgId = msg.byte ∧ responses = [ackPacket r.seq r.msgId]) := by
    intro msg
    have cached : (m.handlePacket b port r).act.lastResponses = responses := done.lastResponses
    simp [Machine.acknowledges, fresh, cached]
  have executes : ∀ msg : MsgId, m.executes (.handlePacket r port) msg =
      decide (r.msgId = msg.byte) := fun msg => by simp [Machine.executes, fresh]
  have erasable : b.resetConfigStorage.isSome = true := by rw [wired.reset]; rfl
  rw [nvsAfter_adds done.calls]
  cases done.served.persists erasable with
  | keeps silent unsaved unreset =>
    rw [nvsAfter_silent silent]
    refine fits.unacknowledged ?_ ?_
    · rw [answered]
      simpa using unsaved
    · rw [answered]
      simpa using unreset
  | saves id asked made acked =>
    have saved : (cbSaveConfig prefs m.act.activeConfig (nvsAfter prefs initial m.calls)).1 = true := by
      rw [wired.save] at asked
      have answer : (cbSaveConfig prefs m.act.activeConfig
        (nvsAfter prefs initial (m.arrival b))).1 = true := Option.some.inj asked
      rwa [nvsAfter_adds (m.arrival_adds b)] at answer
    have left := lawful.save (nvsAfter prefs initial m.calls) m.act.activeConfig
    rw [saved] at left
    rw [made, noteView, answered, if_pos (decide_eq_true ⟨id, acked⟩)]
    exact fits.save left
  | @erases before id asked made silent acked =>
    have other : ¬ (r.msgId = MsgId.CONFIG_SAVE.byte ∧ responses = [ackPacket r.seq r.msgId]) :=
      fun both => by
        have same := MsgId.byte_injective (id.symm.trans both.1)
        cases same
    have settled : nvsAfter prefs initial (before ++ m.arrival b) = nvsAfter prefs initial m.calls := by
      rw [nvsAfter_silent silent, nvsAfter_adds (m.arrival_adds b)]
      rfl
    have reset : (cbResetConfigStorage prefs (nvsAfter prefs initial m.calls)).1 = true := by
      rw [wired.reset] at asked
      have answer : (cbResetConfigStorage prefs
        (nvsAfter prefs initial (before ++ m.arrival b))).1 = true := Option.some.inj asked
      rwa [settled] at answer
    rw [made, noteView, answered, if_neg (by simpa using other), answered,
      if_pos (decide_eq_true ⟨id, acked⟩), List.cons_append, nvsAfter, nvsAfter_silent silent]
    exact .erase ((lawful.reset _).2 reset)
  | saveFails id made refused =>
    have left := lawful.save (nvsAfter prefs initial m.calls) m.act.activeConfig
    rw [made, noteView, answered, if_neg (by simp [refused]), answered, if_neg (by simp [refused]),
      executes, if_pos (decide_eq_true id)]
    exact fits.attempt left
  | eraseFails id made silent refused =>
    have other : ¬ r.msgId = MsgId.CONFIG_SAVE.byte := fun saves => by
      have same := MsgId.byte_injective (id.symm.trans saves)
      cases same
    rw [made, noteView, answered, if_neg (by simp [refused]), answered, if_neg (by simp [refused]),
      executes, if_neg (by simpa using other), executes, if_pos (decide_eq_true id),
      List.cons_append, nvsAfter, nvsAfter_silent silent]
    exact fits.damage (lawful.reset _).1

/-- Every step keeps the view of the store true. -/
theorem step_fits (lawful : prefs.Lawful holds) (wired : prefs.Wired initial b) (op : Op)
    (fits : view.Fits (holds (nvsAfter prefs initial m.calls))) :
    (noteView b m op view).Fits (holds (nvsAfter prefs initial (step b m op).calls)) := by
  obtain ⟨calls, stepped⟩ := step_stepped b m op
  cases stepped with
  | executed fresh done => exact fits.executed lawful wired fresh done
  | repeated duplicate done =>
    rw [nvsAfter_adds done.calls, noteView_of_silent
      (fun msg => by simp [Machine.acknowledges, duplicate])
      (fun msg => by simp [Machine.executes, duplicate])]
    exact fits
  | ticked done =>
    obtain ⟨pending, ticked⟩ := done.ticked
    rw [nvsAfter_adds (done.clock.after_quiet done.calls), nvsAfter_silent ticked.not_storage,
      noteView_of_silent (fun _ => rfl) fun _ => rfl]
    exact fits
  | begun done =>
    rw [nvsAfter_adds done.calls, nvsAfter_silent done.begun.not_storage,
      noteView_of_silent (fun _ => rfl) fun _ => rfl]
    exact fits
  | framed _ done =>
    rw [nvsAfter_adds done.calls, noteView_of_silent (fun _ => rfl) fun _ => rfl]
    exact fits
  | reported telemetry only done =>
    rw [nvsAfter_adds done.calls, nvsAfter_silent (only.all fun _ => rfl), noteView_of_silent]
    · exact fits
    all_goals
      intro msg
      cases op <;> first | rfl | cases telemetry

end

/-- What the store may read as after a run from `begin` over a partition. -/
@[irreducible] def viewAfter {N : Type} (prefs : Preferences N) (holds : N → NvsEntries) (initial : N)
    (b : MotionBackend) (build : BuildInfo) (defaults : ActuatorConfig) (ops : List Op) : StoreView :=
  noted (step b) (noteView b) (.boot b build defaults [])
    { reads := fun reading => reading = cbLoadConfig prefs initial
      holds := fun config => ∃ side generation,
        decodeSlot ((holds initial).slots.get side) = some (config, generation) } ops

section

variable {N : Type} {prefs : Preferences N} {holds : N → NvsEntries} {initial : N}
  {b : MotionBackend}

/-- The view is true after every run. -/
theorem boot_fits (lawful : prefs.Lawful holds) (wired : prefs.Wired initial b) (build : BuildInfo)
    (defaults : ActuatorConfig) (ops : List Op) :
    (viewAfter prefs holds initial b build defaults ops).Fits
      (holds (nvsAfter prefs initial (Machine.boot b build defaults ops).calls)) := by
  have always : Along (step b) (fun _ _ => True) (.boot b build defaults []) ops :=
    along_of_always (fun _ _ => trivial) _ _
  have booted : nvsAfter prefs initial (Machine.boot b build defaults []).calls = initial := by
    obtain ⟨calls, done⟩ := step_begun b (.powerOn build) defaults
    exact (nvsAfter_adds done.calls).trans (nvsAfter_silent done.begun.not_storage)
  rw [viewAfter]
  refine always.noted (J := fun m view =>
      StoreView.Fits view (holds (nvsAfter prefs initial m.calls)))
    (fun _ op _ _ fits => step_fits lawful wired op fits) ?_
  rw [booted]
  exact ⟨(lawful.load initial).symm, fun side read generation decoded => ⟨side, generation, decoded⟩⟩

/-- A restart takes what the partition holds. -/
theorem restart_loads (lawful : prefs.Lawful holds) (wired : prefs.Wired initial b) (m : Machine)
    (again : ActuatorConfig) :
    let reading := cbLoadConfig prefs (nvsAfter prefs initial m.calls)
    let c := (step b m (.begin again)).act.toControl
    c.activeConfig = (reading.map Prod.fst).getD again ∧ c.stagedConfig = c.activeConfig ∧
      c.configStaged = false ∧ c.configGeneration = generationOf reading := by
  refine step_begin_takes (f := fun h => cbLoadConfig prefs (nvsAfter prefs initial h)) wired.load
    (fun _ quiet => ?_) (fun config generation loaded => ?_) again
  · rw [nvsAfter_adds quiet]
    rfl
  · rw [lawful.load] at loaded
    rcases SlotStore.load_decoded loaded with first | second
    · exact decodeSlot_valid first
    · exact decodeSlot_valid second

end

/-! ## Main result -/

/-- Over any partition a lawful `Preferences` library keeps, whichever puts fail and
whatever they leave, and however often the actuator is restarted: the next restart runs
with the configuration of the last `CONFIG_SAVE` that was acknowledged, one generation
further, or of one tried after it; with its defaults once a `CONFIG_RESET_DEFAULTS` was
acknowledged and nothing tried after it. Only after a `CONFIG_RESET_DEFAULTS` that failed
may it be with what either slot held. -/
theorem board_keeps_saves {N : Type} (prefs : Preferences N) (holds : N → NvsEntries) (initial : N)
    (b : MotionBackend) (build : BuildInfo) (defaults : ActuatorConfig) (ops : List Op) (m : Machine)
    (lawful : prefs.Lawful holds) (wired : prefs.Wired initial b)
    (reached : m = .boot b build defaults ops) :
    let reading := cbLoadConfig prefs (nvsAfter prefs initial m.calls)
    (viewAfter prefs holds initial b build defaults ops).reads reading ∧
      ∀ again, let c := (step b m (.begin again)).act.toControl
        c.activeConfig = (reading.map Prod.fst).getD again ∧ c.stagedConfig = c.activeConfig ∧
          c.configStaged = false ∧ c.configGeneration = generationOf reading := by
  have fits := boot_fits lawful wired build defaults ops
  rw [← reached] at fits
  refine ⟨?_, restart_loads lawful wired m⟩
  rw [lawful.load]
  exact fits.reads

/-- A partition, `none` before the namespace is created, on which a number of puts are
still made. -/
structure Partition where
  entries : Option NvsEntries := none
  lasts : Nat

def Partition.holds (p : Partition) : NvsEntries := p.entries.getD fun _ => none

def Partition.put (p : Partition) (key : String) (entry : NvsEntry) (size : Nat) : Nat × Partition :=
  if p.lasts = 0 then (0, p)
  else
    (size, { entries := some fun other => if other = key then some entry else p.holds other
             lasts := p.lasts - 1 })

/-- `Preferences` over it. -/
def partitionPreferences : Preferences Partition where
  opens p := p.entries.isSome
  begin p := (true, { p with entries := some p.holds })
  getUInt p := p.holds.uint
  getBytes p := p.holds.bytes
  putUInt p key value := p.put key (.uint value) 4
  putBytes p key bytes := p.put key (.blob bytes) bytes.length
  clear p := (true, { p with entries := some fun _ => none })

/-- A put that is made takes effect, and one that is not leaves its key. -/
theorem Partition.put_lawful (p : Partition) (key : String) (entry : NvsEntry) {size : Nat}
    (sized : 0 < size) :
    PutsEntry key entry p.holds (p.put key entry size).2.holds ((p.put key entry size).1 = size) := by
  unfold put
  split
  · exact ⟨fun _ _ => rfl, .inl rfl, fun ok => absurd ok (by omega)⟩
  · refine ⟨fun other different => if_neg different, .inr (.inr (if_pos rfl)), fun _ => if_pos rfl⟩

/-- A partition that wears out is one the results cover. -/
theorem partitionPreferences_lawful : partitionPreferences.Lawful Partition.holds where
  closed p unopened key := by
    have none : p.entries = none := Option.isSome_eq_false_iff.mp unopened |> Option.isNone_iff_eq_none.mp
    rw [Partition.holds, none]
    rfl
  begun _ := rfl
  getUInt _ _ _ := rfl
  getBytes _ _ _ := rfl
  putUInt p key value := p.put_lawful key (.uint value) (by decide)
  putBytes p key bytes filled := p.put_lawful key (.blob bytes) (List.length_pos_iff.mpr filled)
  erases _ _ := .inr rfl
  cleared _ _ _ := rfl

/-- The callbacks over a partition that lasts for some puts, nothing else wired. -/
def partitionBackend (initial : Partition) : MotionBackend where
  loadConfig := some fun h => cbLoadConfig partitionPreferences (nvsAfter partitionPreferences initial h)
  saveConfig := some fun h config =>
    (cbSaveConfig partitionPreferences config (nvsAfter partitionPreferences initial h)).1
  resetConfigStorage := some fun h =>
    (cbResetConfigStorage partitionPreferences (nvsAfter partitionPreferences initial h)).1

/-- A partition that lasts for a save and the payload of another. -/
def tiredPartition : Partition := { lasts := 6 }

/-- A save that is acknowledged, then one of which the payload alone is written. -/
def cutMachine : Machine := .boot (partitionBackend tiredPartition) {} {} tornRun

set_option maxRecDepth 20000 in
theorem cutMachine_loads :
    cbLoadConfig partitionPreferences
        (nvsAfter partitionPreferences tiredPartition cutMachine.calls) =
      some (ActuatorConfig.stored { driver.microsteps := 32 }, 1) := by
  decide +kernel

theorem board_keeps_saves_cut :
    (viewAfter partitionPreferences Partition.holds tiredPartition (partitionBackend tiredPartition)
        {} {} tornRun).reads
          (cbLoadConfig partitionPreferences
            (nvsAfter partitionPreferences tiredPartition cutMachine.calls)) ∧
      cbLoadConfig partitionPreferences
          (nvsAfter partitionPreferences tiredPartition cutMachine.calls) =
        some (ActuatorConfig.stored { driver.microsteps := 32 }, 1) :=
  ⟨(board_keeps_saves partitionPreferences Partition.holds tiredPartition
    (partitionBackend tiredPartition) {} {} tornRun cutMachine partitionPreferences_lawful
    ⟨rfl, rfl, rfl⟩ rfl).1, cutMachine_loads⟩

end Daft
