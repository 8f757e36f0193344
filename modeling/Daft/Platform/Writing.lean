import Daft.Platform.Loop

/-!
# What goes through a port

Every packet a request or a tick hands over goes to the port it came with, fits a frame,
and is counted as dropped exactly if that port does not take it.
-/

namespace Daft

open Logic

/-- The packets that were not taken. -/
def untaken (sent : List Transmission) : Nat := sent.countP fun t => !t.taken

/-- Between the two machines packets went through `port` alone. -/
structure Transmits (port : Port) (m m' : Machine) : Prop where
  since : Since (fun t past => t.packet.Legal ∧ t.taken = port.takes past t.packet) m.sent m'.sent
  dropped : m'.act.counters.droppedPackets + UInt32.ofNat (untaken m.sent) =
    m.act.counters.droppedPackets + UInt32.ofNat (untaken m'.sent)

/-- The same, and no telemetry was noted. -/
structure Writes (port : Port) (m m' : Machine) : Prop extends Transmits port m m' where
  noted : m'.act.lastTelemetryMs = m.act.lastTelemetryMs

namespace Transmits

variable {port : Port} {m m' m'' : Machine}

theorem refl (m : Machine) : Transmits port m m := ⟨.refl, rfl⟩

theorem trans (first : Transmits port m m') (later : Transmits port m' m'') :
    Transmits port m m'' where
  since := first.since.trans later.since
  dropped := by grind [first.dropped, later.dropped]

/-- Nothing was handed over. -/
theorem quiet (sent : m'.sent = m.sent)
    (dropped : m'.act.counters.droppedPackets = m.act.counters.droppedPackets) :
    Transmits port m m' :=
  ⟨sent ▸ .refl, by rw [sent, dropped]⟩

/-- A packet counts where it is not taken. -/
theorem untaken_cons (t : Transmission) (sent : List Transmission) :
    untaken (t :: sent) = untaken sent + if t.taken then 0 else 1 := by
  unfold untaken
  cases taken : t.taken <;> simp [taken]

/-- The port is asked once, and its refusal is what is counted. -/
theorem sends {w : ResponseWriter} {packet : Packet} (downstream : w.downstream = port)
    (legal : packet.Legal) : Transmits port m (m.sendResponse w packet) := by
  subst downstream
  unfold Machine.sendResponse
  rw [sendPacket_eq]
  dsimp only
  split
  case isTrue taken =>
    refine ⟨.cons ⟨legal, rfl⟩ .refl, ?_⟩
    rw [untaken_cons, if_pos taken]
    rfl
  case isFalse refused =>
    refine ⟨.cons ⟨legal, rfl⟩ .refl, ?_⟩
    show m.act.counters.droppedPackets + 1 + _ = _
    dsimp only [Machine.mapCounters]
    rw [untaken_cons, if_neg refused, UInt32.ofNat_add, UInt32.add_assoc,
      UInt32.add_comm 1]
    rfl

end Transmits

namespace Writes

variable {port : Port} {m m' m'' : Machine}

theorem refl (m : Machine) : Writes port m m := ⟨.refl m, rfl⟩

theorem trans (first : Writes port m m') (later : Writes port m' m'') : Writes port m m'' :=
  ⟨first.toTransmits.trans later.toTransmits, later.noted.trans first.noted⟩

/-- Nothing was handed over or noted. -/
theorem quiet (sent : m'.sent = m.sent)
    (dropped : m'.act.counters.droppedPackets = m.act.counters.droppedPackets)
    (noted : m'.act.lastTelemetryMs = m.act.lastTelemetryMs) : Writes port m m' :=
  ⟨.quiet sent dropped, noted⟩

/-- A packet sent is no telemetry noted. -/
theorem sends {w : ResponseWriter} {packet : Packet} (downstream : w.downstream = port)
    (legal : packet.Legal) : Writes port m (m.sendResponse w packet) := by
  refine ⟨.sends downstream legal, ?_⟩
  unfold Machine.sendResponse
  rw [sendPacket_eq]
  dsimp only
  split <;> rfl

/-! ## Composition -/

section

variable (writes : Writes port m m')

include writes

theorem ask {α : Type} (callback : Option (History → α)) (record : α → Call) :
    Writes port m (m'.ask callback record).2 := by
  apply writes.trans
  cases callback <;> exact quiet rfl rfl rfl

theorem set (f : Control → Control) : Writes port m (m'.mapControl f) :=
  writes.trans (quiet rfl rfl rfl)

/-- Whatever the firmware builds fits a frame. -/
theorem respond {w : ResponseWriter} {msg : MsgId} {flags : UInt8} {seq len : UInt16}
    {bytes : List UInt8} (downstream : w.downstream = port) (short : len.toNat ≤ maxPayloadSize) :
    Writes port m (m'.sendResponse w (.respond msg flags seq len bytes)) :=
  writes.trans (sends downstream (Packet.respond_legal short))

/-- The rejection is counted before the error is sent. -/
theorem error {w : ResponseWriter} (downstream : w.downstream = port) (seq : UInt16)
    (rejected : UInt8) (code : ErrorCode) : Writes port m (m'.sendError w seq rejected code) := by
  have counted : Writes port m (m'.mapCounters fun c =>
      { c with rejectedCommands := c.rejectedCommands + 1 }) := writes.trans (quiet rfl rfl rfl)
  exact counted.respond downstream (by decide)

variable {b : MotionBackend} {w : ResponseWriter} (downstream : w.downstream = port)

include downstream

/-- An event asks the time. -/
theorem announce (seq : UInt16) (event : EventType) (severity : EventSeverity) (detail : UInt16)
    (value : UInt32) : Writes port m (m'.sendEvent b w seq event severity detail value) :=
  (writes.ask b.millis .millis).respond downstream (by decide)

/-- The event of a state that is new. -/
theorem moveTo (state : ActuatorState) : Writes port m (m'.transitionTo b state (some w)) := by
  unfold Machine.transitionTo
  split
  · exact writes
  · exact (writes.set _).announce downstream ..

/-- The events of a fault that is new and of the state it leads to. -/
theorem fails (flag : FaultFlag) : Writes port m (m'.setFault b flag (some w)) := by
  have raised : Writes port m (m'.raiseFault b flag (some w)) := by
    unfold Machine.raiseFault
    dsimp only
    split
    · exact (writes.set _).announce downstream ..
    · exact writes.set _
  unfold Machine.setFault
  dsimp only
  split
  · exact raised
  · exact raised.moveTo downstream .FAULTED

omit downstream in
/-- A status asks for three numbers of the motor and the time. -/
theorem status (downstream : w.downstream = port) (seq : UInt16) (telemetry : Bool) :
    Writes port m (m'.sendStatus b w seq telemetry) := by
  have asked := ((writes.ask b.currentPosition .currentPosition).ask b.targetPosition
    .targetPosition).ask b.currentSpeed .currentSpeed
  exact (asked.ask b.millis .millis).respond downstream (by decide)

end

end Writes

/-- The packets of a walk go through its port. -/
theorem Walk.writes {b : MotionBackend} {port : Port} {m m' : Machine} {replies : List Packet}
    (walk : Walk b (some port) m replies m') : Writes port m m' := by
  induction walk with
  | refl => exact .refl m
  | quiet _ sent counters _ noted _ writes =>
    exact writes.trans (.quiet sent (congrArg _ counters) noted)
  | announce _ heard seq event severity detail value _ writes =>
    exact writes.announce (Option.some.inj heard) ..
  | moveTo _ state heard writes =>
    obtain ⟨w, rfl, rfl⟩ := Option.map_eq_some_iff.mp heard
    exact writes.moveTo rfl state
  | fails _ flag heard writes =>
    obtain ⟨w, rfl, rfl⟩ := Option.map_eq_some_iff.mp heard
    exact writes.fails rfl flag
  | respond _ heard _ legal _ _ writes =>
    exact writes.trans (.sends (Option.some.inj heard) legal)
  | reject _ heard _ seq rejected code writes => exact writes.error (Option.some.inj heard) ..

namespace Writes

variable {port : Port} {m m' : Machine}

/-! ## Entry points -/

/-- Nothing was sent, counted or noted. -/
structure Unspoken (m m' : Machine) : Prop where
  sent : m'.sent = m.sent
  counters : m'.act.counters = m.act.counters
  noted : m'.act.lastTelemetryMs = m.act.lastTelemetryMs
  calls : m.calls <:+ m'.calls

namespace Unspoken

variable {m m' : Machine} {b : MotionBackend}

theorem refl (m : Machine) : Unspoken m m := ⟨rfl, rfl, rfl, List.suffix_refl _⟩

theorem trans {m'' : Machine} (first : Unspoken m m') (later : Unspoken m' m'') : Unspoken m m'' :=
  ⟨later.sent.trans first.sent, later.counters.trans first.counters, later.noted.trans first.noted,
    first.calls.trans later.calls⟩

/-- Members that are no counters. -/
theorem set (unspoken : Unspoken m m') (f : Control → Control) : Unspoken m (m'.mapControl f) :=
  unspoken.trans ⟨rfl, rfl, rfl, List.suffix_refl _⟩

/-- A callback leaves only its call. -/
theorem ask {α : Type} (unspoken : Unspoken m m') (callback : Option (History → α))
    (record : α → Call) : Unspoken m (m'.ask callback record).2 := by
  apply unspoken.trans
  cases callback with
  | none => exact refl _
  | some => exact ⟨rfl, rfl, rfl, List.suffix_cons ..⟩

/-- Without a writer a state change is silent. -/
theorem moveTo (unspoken : Unspoken m m') (state : ActuatorState) :
    Unspoken m (m'.transitionTo b state none) := by
  unfold Machine.transitionTo
  split
  · exact unspoken
  · exact unspoken.set _

/-- So is a fault. -/
theorem fails (unspoken : Unspoken m m') (flag : FaultFlag) :
    Unspoken m (m'.setFault b flag none) := by
  have raised : Unspoken m (m'.raiseFault b flag none) :=
    unspoken.trans ⟨rfl, rfl, rfl, List.suffix_refl _⟩
  unfold Machine.setFault
  dsimp only
  split
  · exact raised
  · exact raised.moveTo .FAULTED

end Unspoken

/-- A frame error raises its fault without a writer. -/
theorem recordFrameError {b : MotionBackend} (m : Machine) (error : ErrorCode) :
    Writes port m (m.recordFrameError b error) := by
  have raised : ∀ {before : Machine} (flag : FaultFlag), before.sent = m.sent →
      before.act.counters.droppedPackets = m.act.counters.droppedPackets →
      before.act.lastTelemetryMs = m.act.lastTelemetryMs →
      Writes port m (before.setFault b flag none) := by
    intro before flag sent dropped noted
    have unspoken := (Unspoken.refl before).fails (b := b) flag
    exact quiet (unspoken.sent.trans sent) (by rw [unspoken.counters, dropped])
      (unspoken.noted.trans noted)
  unfold Machine.recordFrameError
  dsimp only
  split
  · exact raised _ rfl rfl rfl
  split
  · exact raised _ rfl rfl rfl
  · exact raised _ rfl rfl rfl

/-- `begin` clears the counters, notes the time and sends nothing. -/
theorem begin_unspoken (b : MotionBackend) (m : Machine) (defaults : ActuatorConfig) :
    (m.beginWith b defaults).sent = m.sent ∧ (m.beginWith b defaults).act.counters = {} ∧
      (m.beginWith b defaults).act.lastTelemetryMs =
        (m.beginMembers b defaults).act.lastTelemetryMs ∧
      (m.beginMembers b defaults).calls <:+ (m.beginWith b defaults).calls := by
  have members : (m.beginMembers b defaults).sent = m.sent ∧
      (m.beginMembers b defaults).act.counters = {} := by
    unfold Machine.beginMembers Machine.hearHost Machine.nowMs Machine.bootReason Machine.ask
    cases b.bootReason <;> cases b.millis <;> exact ⟨rfl, rfl⟩
  unfold Machine.beginWith
  generalize m.beginMembers b defaults = fresh at *
  have loaded : Unspoken fresh (fresh.beginConfig b) := by
    have asked := (Unspoken.refl fresh).ask b.loadConfig .loadConfig
    unfold Machine.beginConfig Machine.loadConfig
    generalize fresh.ask b.loadConfig _ = read at *
    dsimp only
    split
    · split
      · exact asked.set _
      · exact asked.fails _
    · exact asked
  generalize fresh.beginConfig b = ready at *
  have configured := loaded.ask (b.configureDriver.map fun f h => f h ready.act.activeConfig.driver)
    (.configureDriver ready.act.activeConfig.driver)
  have started : Unspoken fresh (ready.beginDriver b) := by
    unfold Machine.beginDriver Machine.configureDriver
    generalize ready.ask _ (Call.configureDriver _) = read at *
    dsimp only
    split
    · exact (configured.fails _).moveTo _
    · exact (configured.ask _ _).moveTo _
  exact ⟨started.sent.trans members.1, started.counters.trans members.2, started.noted,
    started.calls⟩

section

variable {b : MotionBackend}

/-- A replay hands over what fitted before. -/
theorem replay {responses : List Packet} (writes : Writes port m m')
    (legal : ∀ packet ∈ responses, packet.Legal) :
    Writes port m (responses.foldl (fun m packet => m.sendResponse (.port port) packet) m') := by
  induction responses generalizing m' with
  | nil => exact writes
  | cons packet responses ih =>
    obtain ⟨here, later⟩ := List.forall_mem_cons.mp legal
    exact ih (writes.trans (sends rfl here)) later

theorem heard (m : Machine) : Writes port m (m.hearHost b) := by
  rw [Machine.hearHost, Machine.nowMs_eq]
  exact quiet rfl rfl rfl

/-- What runs is a walk, what is repeated was sent before. -/
theorem handlePacket {r : Packet} (replayable : m.Replayable) :
    Writes port m (m.handlePacket b port r) := by
  cases duplicate : m.act.isDuplicate r with
  | false =>
    obtain ⟨replies, after, walk, -, handled⟩ := handlePacket_walks b port duplicate
    have accepted : Writes port m (m.acceptRequest b r) := by
      rw [Machine.acceptRequest_eq]
      exact quiet rfl rfl rfl
    rw [handled]
    exact (accepted.trans walk.writes).trans (quiet rfl rfl rfl)
  | true =>
    have valid : m.act.lastRequestValid = true := by
      simp only [RequestCache.isDuplicate, decide_eq_true_eq] at duplicate
      exact duplicate.1
    have counted : Writes port m ((m.hearHost b).mapCounters fun c =>
        { c with duplicatePackets := c.duplicatePackets + 1 }) :=
      (heard m).trans (quiet rfl rfl rfl)
    have cached : ((m.hearHost b).mapCounters fun c =>
        { c with duplicatePackets := c.duplicatePackets + 1 }).act.lastResponses =
          m.act.lastResponses := by
      rw [Machine.hearHost, Machine.nowMs_eq]
      rfl
    have handled : m.handlePacket b port r = m.answerDuplicate b port r := by
      simp [Machine.handlePacket, duplicate]
    rw [handled, Machine.answerDuplicate]
    split
    · exact counted.replay (cached ▸ (replayable valid).legal)
    · exact counted.error rfl ..

end

end Writes

namespace Transmits

variable {b : MotionBackend} {serial : SerialPort} {m : Machine}

/-- Whatever `loop` calls writes to the serial port. -/
theorem step {op : Op} (replayable : m.Replayable) (serviced : op.Serviced serial) :
    Transmits (serialWriter serial) m (Daft.step b m op) := by
  cases serviced with
  | packet r => exact (Writes.handlePacket replayable).toTransmits
  | error error => exact (Writes.recordFrameError m error).toTransmits
  | tick =>
    have walk : Walk b (some (serialWriter serial)) m [] (m.update b (some (serialWriter serial))) :=
      update_walks _
    exact walk.writes.toTransmits
  | poll =>
    unfold Daft.step Machine.shouldSendTelemetry
    dsimp only
    split
    · exact refl m
    · exact ((Writes.refl m).ask b.millis .millis).toTransmits
  | telemetry seq =>
    have sent : Writes (serialWriter serial) m (m.sendStatus b (.port (serialWriter serial)) seq true) :=
      (Writes.refl m).status (w := .port (serialWriter serial)) rfl seq true
    unfold Daft.step Machine.sendTelemetry Machine.markTelemetrySent
    dsimp only
    generalize m.sendStatus b (.port (serialWriter serial)) seq true = reported at *
    rw [Machine.nowMs_eq]
    exact sent.toTransmits.trans (quiet rfl rfl)

/-- So does a run of such calls. -/
theorem run {ops : List Op} (replayable : m.Replayable)
    (serviced : ∀ op ∈ ops, op.Serviced serial) :
    Transmits (serialWriter serial) m (Logic.run (Daft.step b) m ops) := by
  induction ops generalizing m with
  | nil => exact refl m
  | cons op ops ih =>
    obtain ⟨here, later⟩ := List.forall_mem_cons.mp serviced
    exact (step replayable here).trans (ih (step_replayable op replayable) later)

end Transmits

/-- Everything a board sends fits a frame and went through its port. -/
theorem board_writes (b : MotionBackend) (serial : SerialPort) (build : BuildInfo)
    (passes : List (List UInt8)) :
    Since (fun t past => t.packet.Legal ∧ t.taken = (serialWriter serial).takes past t.packet) []
        (Board.after b serial build passes).actuator.sent ∧
      (Board.after b serial build passes).actuator.act.counters.droppedPackets =
        UInt32.ofNat (untaken (Board.after b serial build passes).actuator.sent) := by
  obtain ⟨serviced, -⟩ := (Board.setup b build).ops_serviced b serial passes
  obtain ⟨silent, counters, -⟩ := Writes.begin_unspoken b (.powerOn build) defaultConfig
  have replayable : (step b (.powerOn build) (.begin defaultConfig)).Replayable :=
    step_replayable _ fun valid => by cases valid
  have unsent : (step b (.powerOn build) (.begin defaultConfig)).sent = [] := silent
  have cleared : (step b (.powerOn build) (.begin defaultConfig)).act.counters = {} := counters
  have transmits : Transmits (serialWriter serial) (step b (.powerOn build) (.begin defaultConfig))
      (.boot b build defaultConfig (Board.called b serial build passes)) :=
    .run replayable serviced
  obtain ⟨since, dropped⟩ := transmits
  rw [unsent] at since dropped
  rw [cleared] at dropped
  rw [Board.after_actuator]
  exact ⟨since, by simpa [untaken] using dropped⟩

end Daft
