import Daft.Session.StoredGeneration

/-!
# Saves and restarts

What a restart reads is decided by acknowledgements: the configuration of the last
`CONFIG_SAVE` that was acknowledged, unless a `CONFIG_RESET_DEFAULTS` was acknowledged
after it. Requests that were refused, writes that were torn and power that was lost in
between leave no trace in it.
-/

namespace Daft

open Logic

/-! ## What the store reads as -/

/-- What is kept of a configuration in the store. -/
def ActuatorConfig.stored (config : ActuatorConfig) : ActuatorConfig :=
  { config with motor.axisName := defaultAxisName }

/-- What `config_store_load` returns after the calls made. -/
def Flash.reading (flash : Flash) (h : History) : Option (ActuatorConfig × UInt32) :=
  configStoreLoad (flash.io h)

/-- What a call makes of it. -/
def Call.storedReading (call : Call) (reading : Option (ActuatorConfig × UInt32)) :
    Option (ActuatorConfig × UInt32) :=
  match call with
  | .saveConfig config ok =>
    if ok = true ∧ (validateConfig config).ok = true then
      some (config.stored, generationOf reading + 1)
    else reading
  | .resetConfigStorage ok => if ok then none else reading
  | _ => reading

section

variable {flash : Flash} {h h' : History} {calls : List Call}

/-- A save changes what the store reads as. -/
theorem Flash.reading_save (config : ActuatorConfig) (ok : Bool) (past : History) :
    flash.reading (.saveConfig config ok :: past) =
      (Call.saveConfig config ok).storedReading (flash.reading past) := by
  cases valid : (validateConfig config).ok with
  | false =>
    have unsaved : flash.slots (.saveConfig config ok :: past) = flash.slots past := by
      rw [slots, saved, configStoreSave_invalid valid]
    have same : flash.reading (.saveConfig config ok :: past) = flash.reading past :=
      congrArg (fun slots => configStoreLoad (flashIo slots)) unsaved
    rw [same, Call.storedReading, if_neg fun done => Bool.false_ne_true (valid.symm.trans done.2)]
  | true =>
    let attempt : SaveAttempt := ⟨config, validateConfig_ok_iff.mp valid, flash.ended ok past⟩
    have register : flash.reading (.saveConfig config ok :: past) =
        attempt.register (flash.reading past) :=
      load_refines_register (flash.slots past) [attempt]
    have completes : attempt.completes = ok := by
      simp only [attempt, SaveAttempt.completes, ended]
      cases ok with
      | true => rfl
      | false => cases flash.torn past <;> rfl
    rw [register, SaveAttempt.register, completes, Call.storedReading]
    cases ok with
    | true =>
      rw [if_pos rfl, if_pos ⟨rfl, valid⟩, generationAfter_eq]
      rfl
    | false => rw [if_neg Bool.false_ne_true, if_neg fun done => Bool.false_ne_true done.1]

/-- Every call changes what the store reads as by its own reading. -/
theorem Flash.reading_cons (call : Call) (past : History) :
    flash.reading (call :: past) = call.storedReading (flash.reading past) := by
  cases call with
  | saveConfig config ok => exact reading_save config ok past
  | resetConfigStorage ok => cases ok <;> rfl
  | _ => rfl

/-- Other calls leave what the store reads as. -/
theorem Call.storedReading_silent {call : Call} (silent : call.isStorage = false)
    (reading : Option (ActuatorConfig × UInt32)) : call.storedReading reading = reading := by
  cases call <;> first | rfl | cases silent

/-- So do any number of them. -/
theorem Flash.reading_silent (silent : ∀ call ∈ calls, call.isStorage = false) :
    flash.reading (calls ++ h) = flash.reading h := by
  induction calls with
  | nil => rfl
  | cons call calls ih =>
    obtain ⟨here, before⟩ := List.forall_mem_cons.mp silent
    rw [List.cons_append, reading_cons, Call.storedReading_silent here, ih before]

/-- The notable calls decide what is read. -/
theorem Flash.reading_adds (adds : Adds Call.notable h calls h') :
    flash.reading h' = flash.reading (calls ++ h) := by
  apply adds.reads
  · intro call past quiet
    have silent := absent_of_silent Call.notable_of_isStorage quiet
    rw [reading_cons, Call.storedReading_silent silent]
  · intro call past past' same
    rw [reading_cons, reading_cons, same]

end

/-! ## Acknowledgements -/

/-- The step executes a request of this kind and acknowledges it. -/
def Machine.acknowledges (b : MotionBackend) (m : Machine) (op : Op) (msg : MsgId) : Bool :=
  match op with
  | .handlePacket r port =>
    m.act.isDuplicate r = false ∧ r.msgId = msg.byte ∧
      (m.handlePacket b port r).act.lastResponses = [ackPacket r.seq r.msgId]
  | _ => false

/-- What a restart owes the host, by what was acknowledged. -/
def noteSaved (b : MotionBackend) (m : Machine) (op : Op)
    (owed : Option (ActuatorConfig × UInt32)) : Option (ActuatorConfig × UInt32) :=
  if m.acknowledges b op .CONFIG_SAVE then
    some (m.act.activeConfig.stored, generationOf owed + 1)
  else if m.acknowledges b op .CONFIG_RESET_DEFAULTS then none
  else owed

/-- What is owed after a run from `begin` over a flash. -/
def savedReading (b : MotionBackend) (flash : Flash) (build : BuildInfo)
    (defaults : ActuatorConfig) (ops : List Op) : Option (ActuatorConfig × UInt32) :=
  noted (step b) (noteSaved b) (.boot b build defaults []) (configStoreLoad (flashIo flash.initial)) ops

/-- What a request does to a store that is wired, by its answer. -/
inductive Persists (b : MotionBackend) (h : History) (r : Packet) (c : Control) (calls : List Call)
    (responses : List Packet) : Prop where
  | keeps (silent : ∀ call ∈ calls, call.isStorage = false)
      (unsaved : r.msgId = MsgId.CONFIG_SAVE.byte → responses ≠ [ackPacket r.seq r.msgId])
      (unreset : r.msgId = MsgId.CONFIG_RESET_DEFAULTS.byte → responses ≠ [ackPacket r.seq r.msgId])
  | saves (id : r.msgId = MsgId.CONFIG_SAVE.byte)
      (asked : b.saveConfig.map (fun f => f h c.activeConfig) = some true)
      (made : calls = [.saveConfig c.activeConfig true])
      (acked : responses = [ackPacket r.seq r.msgId])
  | erases {before : List Call} (id : r.msgId = MsgId.CONFIG_RESET_DEFAULTS.byte)
      (asked : b.resetConfigStorage.map (fun f => f (before ++ h)) = some true)
      (made : calls = .resetConfigStorage true :: before)
      (silent : ∀ call ∈ before, call.isStorage = false)
      (acked : responses = [ackPacket r.seq r.msgId])
  | saveFails (id : r.msgId = MsgId.CONFIG_SAVE.byte)
      (made : calls = [.saveConfig c.activeConfig false])
      (refused : responses ≠ [ackPacket r.seq r.msgId])
  | eraseFails {before : List Call} (id : r.msgId = MsgId.CONFIG_RESET_DEFAULTS.byte)
      (made : calls = .resetConfigStorage false :: before)
      (silent : ∀ call ∈ before, call.isStorage = false)
      (refused : responses ≠ [ackPacket r.seq r.msgId])

section

variable {b : MotionBackend} {h : History} {r : Packet} {c c' : Control} {calls : List Call}
  {responses : List Packet}

/-- An error is no acknowledgement. -/
theorem error_unacked (r : Packet) (code : ErrorCode) :
    [errorPacket r.seq r.msgId code] ≠ [ackPacket r.seq r.msgId] := fun same =>
  ackPacket_ne_errorPacket (List.singleton_inj.mp same).symm

/-- A request that is refused asks nothing of the store. -/
theorem Persists.refused (silent : ∀ call ∈ calls, call.isStorage = false) (code : ErrorCode) :
    Persists b h r c calls [errorPacket r.seq r.msgId code] :=
  .keeps silent (fun _ => error_unacked r code) fun _ => error_unacked r code

/-- A request that is not about the store asks nothing of it. -/
theorem Persists.other {msg : MsgId} (asks : r.Asks msg)
    (other : msg ≠ .CONFIG_SAVE ∧ msg ≠ .CONFIG_RESET_DEFAULTS)
    (silent : ∀ call ∈ calls, call.isStorage = false) : Persists b h r c calls responses :=
  .keeps silent (fun id => absurd (MsgId.byte_injective (asks.id.symm.trans id)) other.1)
    fun id => absurd (MsgId.byte_injective (asks.id.symm.trans id)) other.2

/-- What each outcome asks of the store, with what it answers. -/
theorem Served.persists (wired : b.resetConfigStorage.isSome = true)
    (served : Served b h r c calls responses c') : Persists b h r c calls responses := by
  cases served with
  | saved asks asked => exact .saves asks.id asked rfl rfl
  | @saveFailed answer asks asked failed =>
    rcases answer with _ | _ | _
    · exact .refused (by simp) _
    · exact .saveFails asks.id rfl (error_unacked r _)
    · exact absurd rfl failed
  | resetStorageFailed request =>
    exact .eraseFails request.asks.id rfl (by simp [Call.isStorage]) (error_unacked r _)
  | @reset configured answer request _ _ asked erased =>
    obtain ⟨ok, rfl⟩ : ∃ ok, answer = some ok := by
      rw [asked]
      obtain ⟨f, wired⟩ := Option.isSome_iff_exists.mp wired
      exact ⟨_, by rw [wired]; rfl⟩
    cases ok with
    | false => exact absurd rfl erased
    | true => exact .erases request.asks.id asked.symm rfl (by simp [Call.isStorage]) rfl
  | refused refusal => exact .refused (refusal.reads.all fun _ => rfl) _
  | answered query asks reads =>
    refine .other asks ⟨?_, ?_⟩ (reads.all fun _ => rfl)
    all_goals
      rintro rfl
      cases query
  | relLimited => exact .refused ((positionRead_reads b h).all fun _ => rfl) _
  | rampFailed request =>
    exact .refused (List.forall_mem_append.mpr ⟨by simp [Call.isStorage], request.all rfl⟩) _
  | ramped request =>
    exact .other request.asks (by decide) (List.forall_mem_cons.mpr ⟨rfl, request.all rfl⟩)
  | motionFailed request => exact .refused (request.silent Call.not_storage_of_isMove fun _ => rfl) _
  | motionStarted request =>
    have silent := request.silent Call.not_storage_of_isMove fun _ => rfl
    rcases request.asks with asks | asks | asks
    · exact .other asks (by decide) silent
    · exact .other asks (by decide) silent
    · exact .other asks (by decide) silent
  | heard asks =>
    rcases asks with asks | asks
    · exact .other asks (by decide) (by simp)
    · exact .other asks (by decide) (by simp)
  | ponged asks => exact .other asks (by decide) (by simp)
  | driverRead asks => exact .other asks (by decide) (by simp [Call.isStorage])
  | uartFailed asks => exact .other asks (by decide) (by simp [Call.isStorage])
  | disabled request => exact .other request.asks (by decide) (by simp [Call.isStorage])
  | enabled request =>
    exact .other request.asks (by decide) (by simp [Call.isStorage, or_imp, forall_and])
  | estopped asks => exact .other asks (by decide) (by simp [Call.isStorage, or_imp, forall_and])
  | rampAtRest asks => exact .other asks (by decide) (by simp [Call.isStorage])
  | cleared asks => exact .other asks (by decide) (by simp)
  | staged asks => exact .other asks (by decide) (by simp)
  | nothingStaged asks => exact .other asks (by decide) (by simp)
  | applied request => exact .other request.asks (by decide) (by simp [Call.isStorage])
  | telemetryRate asks => exact .other asks (by decide) (by simp)
  | _ => exact .refused (by simp [Call.isStorage]) _

end

/-! ## Runs -/

section

variable {flash : Flash} {b : MotionBackend} {m : Machine} {op : Op}
  {owed : Option (ActuatorConfig × UInt32)} {calls : List Call}

/-- What is not acknowledged is not owed. -/
theorem noteSaved_of_silent (silent : ∀ msg, m.acknowledges b op msg = false) :
    noteSaved b m op owed = owed := by
  simp [noteSaved, silent]

/-- The store reads as what the answer owes. -/
theorem Flash.reading_executed {r : Packet} {port : Port} {responses : List Packet}
    (wired : flash.Wired b) (fresh : m.act.isDuplicate r = false)
    (done : Executed b m r calls responses (step b m (.handlePacket r port)))
    (reads : flash.reading m.calls = owed) :
    flash.reading (step b m (.handlePacket r port)).calls =
      noteSaved b m (.handlePacket r port) owed := by
  have answered : ∀ msg : MsgId, m.acknowledges b (.handlePacket r port) msg =
      decide (r.msgId = msg.byte ∧ responses = [ackPacket r.seq r.msgId]) := by
    intro msg
    have cached : (m.handlePacket b port r).act.lastResponses = responses := done.lastResponses
    simp [Machine.acknowledges, fresh, cached]
  have erasable : b.resetConfigStorage.isSome = true := by rw [wired.reset]; rfl
  rw [reading_adds done.calls, noteSaved, answered, answered]
  cases done.served.persists erasable with
  | keeps silent unsaved unreset =>
    rw [reading_silent silent, reads, if_neg, if_neg]
    · simpa using unreset
    · simpa using unsaved
  | saves id asked made acked =>
    have saved : flash.saves (m.arrival b) m.act.activeConfig = true := by
      rw [wired.save] at asked
      exact Option.some.inj asked
    rw [made, List.singleton_append, reading_cons, reads, if_pos (decide_eq_true ⟨id, acked⟩)]
    exact if_pos ⟨rfl, saves_valid saved⟩
  | erases id _ made silent acked =>
    have other : ¬ (r.msgId = MsgId.CONFIG_SAVE.byte ∧ responses = [ackPacket r.seq r.msgId]) :=
      fun both => by
        have same := MsgId.byte_injective (id.symm.trans both.1)
        cases same
    rw [made, List.cons_append, reading_cons, if_neg (by simpa using other),
      if_pos (decide_eq_true ⟨id, acked⟩)]
    rfl
  | saveFails _ made refused =>
    rw [made, List.singleton_append, reading_cons, reads, if_neg (by simp [refused]),
      if_neg (by simp [refused])]
    simp [Call.storedReading]
  | eraseFails _ made silent refused =>
    rw [made, List.cons_append, reading_cons, reading_silent silent, reads,
      if_neg (by simp [refused]), if_neg (by simp [refused])]
    rfl

/-- What is read goes with what was acknowledged. -/
theorem Flash.reading_step (wired : flash.Wired b) (op : Op) (reads : flash.reading m.calls = owed) :
    flash.reading (step b m op).calls = noteSaved b m op owed := by
  obtain ⟨calls, stepped⟩ := step_stepped b m op
  cases stepped with
  | executed fresh done => exact reading_executed wired fresh done reads
  | repeated duplicate done =>
    rw [reading_adds done.calls, noteSaved_of_silent fun msg => by
      simp [Machine.acknowledges, duplicate]]
    exact reads
  | ticked done =>
    obtain ⟨pending, ticked⟩ := done.ticked
    rw [reading_adds (done.clock.after_quiet done.calls), reading_silent ticked.not_storage,
      noteSaved_of_silent fun _ => rfl]
    exact reads
  | begun done =>
    rw [reading_adds done.calls, reading_silent done.begun.not_storage,
      noteSaved_of_silent fun _ => rfl]
    exact reads
  | framed _ done =>
    rw [reading_adds done.calls, noteSaved_of_silent fun _ => rfl]
    exact reads
  | reported telemetry only done =>
    have unacked : ∀ msg, m.acknowledges b op msg = false := fun msg => by
      cases op <;> first | rfl | cases telemetry
    rw [reading_adds done.calls, reading_silent (only.all fun _ => rfl), noteSaved_of_silent unacked]
    exact reads

end

/-! ## Restarts -/

section

variable {b : MotionBackend} {m : Machine}

/-- `begin` takes what is loaded. -/
theorem beginConfig_loads :
    (m.beginConfig b).act.toControl = m.act.loading (b.loadConfig.map fun f => f m.calls) := by
  have asked := Effect.ask m b.loadConfig .loadConfig fun _ => rfl
  rw [← Effect.answer m b.loadConfig .loadConfig]
  simp only [Machine.beginConfig, Machine.loadConfig]
  generalize m.ask b.loadConfig .loadConfig = loaded at *
  rcases loaded with ⟨_ | _ | ⟨config, generation⟩, after⟩
  · exact asked.control
  · exact asked.control
  · simp only [Control.loading]
    split
    · exact (asked.set fun c => { c with
        activeConfig := config, stagedConfig := config, configGeneration := generation }).control
    · exact (asked.fault .INVALID_CONFIG (.map none)).control

/-- The driver decides the state and the faults only. -/
theorem beginDriver_control : ∃ state faults,
    (m.beginDriver b).act.toControl = { m.act.toControl with state, faults } := by
  have configured := Effect.configureDriver m b m.act.activeConfig.driver
  simp only [Machine.beginDriver]
  generalize m.configureDriver b m.act.activeConfig.driver = asked at *
  split
  · exact ⟨_, _, ((configured.fault .DRIVER (.map none)).moveTo .FAULTED (.map none)).control⟩
  · have disabled := configured.keep (Effect.enableDriver asked.2 b false)
    exact ⟨_, _, (disabled.moveTo .DISABLED (.map none)).control⟩

/-- A `begin` takes over what the callback loads, or keeps the defaults. -/
theorem step_begin_takes {f : History → Option (ActuatorConfig × UInt32)}
    (wired : b.loadConfig = some f)
    (settled : ∀ h, Adds Call.notable m.calls [] h → f h = f m.calls)
    (valid : ∀ config generation, f m.calls = some (config, generation) → Valid config)
    (defaults : ActuatorConfig) :
    let c := (step b m (.begin defaults)).act.toControl
    c.activeConfig = ((f m.calls).map Prod.fst).getD defaults ∧
      c.stagedConfig = c.activeConfig ∧ c.configStaged = false ∧
      c.configGeneration = generationOf (f m.calls) := by
  obtain ⟨quiet, ⟨reason, fresh⟩, -, -⟩ := beginMembers_fresh (b := b) (m := m) defaults
  obtain ⟨state, faults, driven⟩ :=
    beginDriver_control (b := b) (m := (m.beginMembers b defaults).beginConfig b)
  have begun : (step b m (.begin defaults)).act.toControl =
      { (Control.initial defaults reason).loading (some (f m.calls)) with state, faults } := by
    rw [← fresh, ← settled _ quiet]
    refine Eq.trans driven ?_
    rw [beginConfig_loads, wired]
    rfl
  intro c
  have begun : c = _ := begun
  clear_value c
  subst begun
  cases loaded : f m.calls with
  | none => exact ⟨rfl, rfl, rfl, rfl⟩
  | some reading =>
    obtain ⟨config, generation⟩ := reading
    rw [Control.loading, if_pos (validateConfig_ok_iff.mpr (valid config generation loaded))]
    exact ⟨rfl, rfl, rfl, rfl⟩

end

/-! ## Main result -/

/-- Whatever the flash held at first, whichever of its writes fail or are torn and however
often the actuator is restarted on the way: the store reads as the active configuration
of the last `CONFIG_SAVE` that was acknowledged, one generation for each, or as nothing
where a `CONFIG_RESET_DEFAULTS` was acknowledged after it. That is the configuration the
next restart runs with, or its defaults. -/
theorem saves_survive_restarts (b : MotionBackend) (flash : Flash) (build : BuildInfo)
    (defaults : ActuatorConfig) (ops : List Op) (m : Machine) (wired : flash.Wired b)
    (reached : m = .boot b build defaults ops) :
    let owed := savedReading b flash build defaults ops
    configStoreLoad (flash.io m.calls) = owed ∧
      ∀ again, let c := (step b m (.begin again)).act.toControl
        c.activeConfig = (owed.map Prod.fst).getD again ∧ c.stagedConfig = c.activeConfig ∧
          c.configStaged = false ∧ c.configGeneration = generationOf owed := by
  have always : Along (step b) (fun _ _ => True) (.boot b build defaults []) ops :=
    along_of_always (fun _ _ => trivial) _ _
  have booted : flash.reading (Machine.boot b build defaults []).calls =
      configStoreLoad (flashIo flash.initial) := by
    obtain ⟨calls, done⟩ := step_begun b (.powerOn build) defaults
    exact (Flash.reading_adds done.calls).trans (Flash.reading_silent done.begun.not_storage)
  have reads : flash.reading m.calls = savedReading b flash build defaults ops := by
    rw [reached]
    exact always.noted (J := fun m owed => flash.reading m.calls = owed)
      (fun _ op _ _ reads => Flash.reading_step wired op reads) booted
  intro owed
  refine ⟨reads, fun again => ?_⟩
  have taken := step_begin_takes (f := flash.reading) wired.load
    (fun _ quiet => Flash.reading_adds quiet)
    (fun _ _ loaded => configStoreLoad_valid (flash.slots m.calls) loaded) again
  rw [reads] at taken
  exact taken

/-- The second write of a slot is torn. -/
def tiredFlash : Flash :=
  { blankFlash with writes := fun h => h.all fun call => !call.isStorage
                    torn := fun _ => some {} }

/-- A save that is acknowledged, then one of another telemetry rate that is torn. -/
def tornRun : List Op :=
  microstepsRun ++ [.handlePacket (.request .SET_TELEM_RATE 4 [1, 0]) none,
    .handlePacket (.request .CONFIG_SAVE 5 []) none]

theorem saves_survive_restarts_torn :
    savedReading tiredFlash.backend tiredFlash {} {} tornRun =
        some (ActuatorConfig.stored { driver.microsteps := 32 }, 1) ∧
      configStoreLoad (tiredFlash.io (Machine.boot tiredFlash.backend {} {} tornRun).calls) =
        savedReading tiredFlash.backend tiredFlash {} {} tornRun :=
  ⟨by decide +kernel, (saves_survive_restarts _ _ {} {} tornRun _ ⟨rfl, rfl, rfl⟩ rfl).1⟩

end Daft
