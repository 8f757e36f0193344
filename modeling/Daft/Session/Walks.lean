import Daft.Session.Answers

/-!
# The steps of handlers and ticks

Every handler and every tick is a walk: it asks callbacks and changes members without
a packet, announces, changes the state, raises faults and answers, one after the other.
What one machine becomes is told by its walk: what holds of each of these steps holds of
every walk, whichever handler makes it.
-/

namespace Daft

open Logic

/-- The steps from one machine to another, with the packets handed over besides events.
Everything sent goes to `heard` and fits a frame, and state changes and faults are announced
there, or to nobody; a command is counted as rejected where an error is sent, and the time
of the last telemetry stays. -/
inductive Walk (b : MotionBackend) (heard : Option Port) (m : Machine) :
    List Packet → Machine → Prop where
  | refl : Walk b heard m [] m
  | quiet {replies : List Packet} {m' m'' : Machine} (walk : Walk b heard m replies m')
      (sent : m''.sent = m'.sent) (counters : m''.act.counters = m'.act.counters)
      (state : m''.act.state = m'.act.state)
      (noted : m''.act.lastTelemetryMs = m'.act.lastTelemetryMs)
      (faults : ∀ bit, faultUp m''.act.faults bit = true → faultUp m'.act.faults bit = true) :
      Walk b heard m replies m''
  | announce {replies : List Packet} {m' : Machine} (walk : Walk b heard m replies m')
      {w : ResponseWriter} (port : some w.downstream = heard) (seq : UInt16) (event : EventType)
      (severity : EventSeverity) (detail : UInt16) (value : UInt32)
      (other : event ≠ .STATE_CHANGED) :
      Walk b heard m replies (m'.sendEvent b w seq event severity detail value)
  | moveTo {replies : List Packet} {m' : Machine} (walk : Walk b heard m replies m')
      (state : ActuatorState) {events : Option ResponseWriter}
      (port : events.map ResponseWriter.downstream = heard) :
      Walk b heard m replies (m'.transitionTo b state events)
  | fails {replies : List Packet} {m' : Machine} (walk : Walk b heard m replies m')
      (flag : FaultFlag) {events : Option ResponseWriter}
      (port : events.map ResponseWriter.downstream = heard) :
      Walk b heard m replies (m'.setFault b flag events)
  | respond {replies : List Packet} {m' : Machine} (walk : Walk b heard m replies m')
      {w : ResponseWriter} {packet : Packet} (port : some w.downstream = heard)
      (caches : w.caches = true) (legal : packet.Legal) (answers : packet.answers = true)
      (accepts : packet.msgId ≠ MsgId.ERROR.byte) :
      Walk b heard m (replies ++ [packet]) (m'.sendResponse w packet)
  | reject {replies : List Packet} {m' : Machine} (walk : Walk b heard m replies m')
      {w : ResponseWriter} (port : some w.downstream = heard) (caches : w.caches = true)
      (seq : UInt16) (rejected : UInt8) (code : ErrorCode) :
      Walk b heard m (replies ++ [errorPacket seq rejected code]) (m'.sendError w seq rejected code)

/-- The machine `m'` has answered `r`, in steps from `m`. -/
def Handles (b : MotionBackend) (down : Port) (r : Packet) (m m' : Machine) : Prop :=
  ∃ replies, Walk b (some down) m replies m' ∧ Reply r replies

/-! ## What holds of every walk -/

section

variable {b : MotionBackend} {heard : Option Port} {m m' : Machine} {replies : List Packet}

/-- A walk hands over its replies, and events. -/
theorem Walk.hands (walk : Walk b heard m replies m') : Hands m replies m' := by
  induction walk with
  | refl => exact .refl m
  | quiet _ sent _ _ _ _ hands => exact hands.quietly (.unsent sent)
  | announce _ _ seq event severity detail value _ hands => exact hands.announce ..
  | moveTo _ state _ hands => exact hands.moveTo ..
  | fails _ flag _ hands => exact hands.fails ..
  | respond _ _ caches _ answers _ hands => exact hands.trans (.sends caches answers)
  | reject _ _ caches seq rejected code hands => exact (hands.count _).trans (.sends caches rfl)

/-- Over a port that takes every packet a walk tells what it changes. -/
theorem Walk.told {port : Port} (walk : Walk b (some port) m replies m')
    (accepts : Accepts port) : Told m m' := by
  induction walk with
  | refl => exact .refl m
  | quiet _ sent _ state _ faults told => exact told.trans (.silent (sent ▸ .refl) state faults)
  | announce _ _ seq event severity detail value other told =>
    exact told.trans (.event seq severity detail value other)
  | @moveTo _ _ _ state events heard told =>
    obtain ⟨w, rfl, rfl⟩ := Option.map_eq_some_iff.mp heard
    exact told.trans (.moves accepts state)
  | @fails _ _ _ flag events heard told =>
    obtain ⟨w, rfl, rfl⟩ := Option.map_eq_some_iff.mp heard
    exact told.trans (.faulted accepts flag)
  | respond _ _ _ _ answers _ told =>
    exact told.trans (.sends _ (.inl (by simpa [Packet.answers] using answers)))
  | reject _ _ _ seq rejected code told =>
    refine told.trans (.trans ?_ (.sends _ (.inl (by decide : MsgId.ERROR.byte ≠ MsgId.EVENT.byte))))
    exact .silent .refl rfl fun _ up => up

end

/-! ## Composition -/

namespace Walk

variable {b : MotionBackend} {heard : Option Port} {m m' : Machine} {replies : List Packet}

/-- A callback sends nothing. -/
theorem ask {α : Type} (walk : Walk b heard m replies m') (callback : Option (History → α))
    (record : α → Call) : Walk b heard m replies (m'.ask callback record).2 := by
  cases callback <;> exact walk.quiet rfl rfl rfl rfl fun _ up => up

/-- Members other than the state and the faults. -/
theorem set (walk : Walk b heard m replies m') (f : Control → Control)
    (state : ∀ c, (f c).state = c.state) (faults : ∀ c, (f c).faults = c.faults) :
    Walk b heard m replies (m'.mapControl f) := by
  refine walk.quiet rfl rfl (state _) rfl ?_
  intro bit up
  rw [← faults]
  exact up

/-! ## Ends of a handler -/

section

variable {down : Port} {r : Packet} (walk : Walk b (some down) m [] m')

include walk

/-- An error answers any request. -/
theorem refuse (code : ErrorCode) : Handles b down r m (m'.refuse down r code) :=
  ⟨_, walk.reject rfl rfl .., .refused code⟩

theorem failWith (flag : FaultFlag) (code : ErrorCode) :
    Handles b down r m (m'.failWith b down r flag code) :=
  (walk.fails flag rfl).refuse code

/-- The response a message has answers a request for it. -/
theorem answer {msg response : MsgId} {packet : Packet} (id : r.msgId = msg.byte)
    (expects : msg.response = some response) (answers : packet.answers = true)
    (responds : r.Responds response packet) :
    Handles b down r m (m'.sendResponse (.cached down) packet) := by
  have accepts : response ≠ .ERROR := by
    rintro rfl
    cases msg <;> cases expects
  have legal : packet.Legal := Packet.legal_of_length responds.payloadLen
  refine ⟨_, walk.respond rfl rfl legal answers ?_, .responded id expects responds⟩
  rw [responds.msgId]
  exact mt MsgId.byte_injective accepts

theorem ack (acked : r.Acked) : Handles b down r m (m'.ack down r) := by
  obtain ⟨msg, id, expects⟩ := acked
  exact walk.answer id expects rfl ⟨rfl, rfl, rfl, rfl⟩

end

end Walk

end Daft
