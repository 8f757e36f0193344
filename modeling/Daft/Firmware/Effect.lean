import Daft.Firmware.Commands
import Daft.Logic.History

/-!
# Effects

What a piece of a handler does, as one relation: `Effect m calls responses c m'`
takes the machine `m` to `m'`, making the notable calls `calls`, passing
`responses` through the caching writer and leaving the control part `c`. It
touches neither the duplicate filter nor the host clock. Handlers are composed
of the effects of their steps.
-/

namespace Daft

open Logic

/-- The calls that command the hardware or read what a command depends on; a
reading of the clock, and what only a report is built from, is left out. -/
def Call.notable : Call → Bool
  | .millis _ | .targetPosition _ | .currentSpeed _ | .bootReason _ | .reboot => false
  | _ => true

/-- The record of one call, none where the callback is null. -/
def logged {α : Type} (record : α → Call) (answer : Option α) : List Call :=
  (answer.map record).toList

section

variable {α : Type} (record : α → Call)

@[simp] theorem logged_none : logged record none = [] := rfl

@[simp] theorem logged_some (a : α) : logged record (some a) = [record a] := rfl

/-- A call is in the record if it was made, with its answer. -/
theorem mem_logged (answer : Option α) (call : Call) :
    call ∈ logged record answer ↔ ∃ a, answer = some a ∧ call = record a := by
  cases answer <;> simp

/-- What holds of the call made holds of its record. -/
@[simp] theorem forall_mem_logged {P : Call → Prop} (answer : Option α) :
    (∀ call ∈ logged record answer, P call) ↔ ∀ a, answer = some a → P (record a) := by
  cases answer <;> simp

/-- A call through a wired callback is recorded. -/
theorem logged_wired {call : Call} {callback : Option Unit} (wired : callback.isSome = true) :
    logged (fun _ => call) callback = [call] := by
  obtain ⟨_, rfl⟩ := Option.isSome_iff_exists.mp wired
  rfl

end

/-- An answer a wired callback gives. -/
theorem accepts_of_wired {α : Type} {callback : Option α} {f : α → Bool}
    (wired : callback.isSome = true) (accepted : callback.map f ≠ some false) :
    callback.map f = some true := by
  obtain ⟨function, rfl⟩ := Option.isSome_iff_exists.mp wired
  simpa using accepted

/-- The control part after `set_fault`. -/
def Control.withFault (c : Control) (flag : FaultFlag) : Control :=
  { c with faults := c.faults ||| flag.value,
           state := if flag.keepsState then c.state else .FAULTED }

/-- The packets of `responses` pushed onto those cached before. -/
def CachedResponses.pushAll (cached : CachedResponses) (responses : List Packet) :
    CachedResponses :=
  responses.foldl CachedResponses.push cached

/-- Pushing in two parts, up to the capacity. -/
theorem CachedResponses.pushAll_append (cached : CachedResponses) (first later : List Packet) :
    cached.pushAll (first ++ later) = (cached.pushAll first).pushAll later :=
  List.foldl_append

/-- Up to the capacity nothing is lost. -/
theorem CachedResponses.pushAll_of_le {cached responses : List Packet}
    (fits : cached.length + responses.length ≤ cacheCapacity) :
    CachedResponses.pushAll cached responses = cached ++ responses := by
  induction responses generalizing cached with
  | nil => simp [pushAll]
  | cons packet responses ih =>
    have room : cached.length < cacheCapacity := by simp at fits; omega
    have pushed : CachedResponses.push cached packet = cached ++ [packet] := by
      simp [push, room]
    rw [pushAll, List.foldl_cons, pushed, ← pushAll, ih (by simp at fits ⊢; omega)]
    simp

/-- `responses`, oldest first, are the packets handed to the caching writer between
the transmissions `sent` and `sent'`. -/
def Passed (sent : List Transmission) (responses : List Packet) (sent' : List Transmission) :
    Prop :=
  ∃ passed, Adds Transmission.cached sent passed sent' ∧
    passed.map (·.packet) = responses.reverse

/-- Nothing was handed over. -/
theorem Passed.refl (sent : List Transmission) : Passed sent [] sent := ⟨[], .refl, rfl⟩

/-- What was handed over in two stretches. -/
theorem Passed.trans {sent sent' sent'' : List Transmission} {first later : List Packet}
    (before : Passed sent first sent') (after : Passed sent' later sent'') :
    Passed sent (first ++ later) sent'' := by
  obtain ⟨passed, adds, packets⟩ := before
  obtain ⟨passed', adds', packets'⟩ := after
  exact ⟨passed' ++ passed, adds.trans adds', by simp [packets, packets']⟩

/-- Of the transmissions added those handed to the caching writer are the responses. -/
theorem Passed.packets {sent sent' new : List Transmission} {responses : List Packet}
    (passed : Passed sent responses sent') (longer : sent' = new ++ sent) :
    (new.filter Transmission.cached).map (·.packet) = responses.reverse := by
  obtain ⟨kept, adds, packets⟩ := passed
  obtain ⟨new', longer', rfl⟩ := adds.split
  obtain rfl : new' = new := List.append_cancel_right (longer'.symm.trans longer)
  exact packets

/-- What a step did to the machine; `calls` are newest first, `responses`
oldest first. -/
structure Effect (m : Machine) (calls : List Call) (responses : List Packet) (c : Control)
    (m' : Machine) : Prop where
  calls : Adds Call.notable m.calls calls m'.calls
  cached : m'.cached = CachedResponses.pushAll m.cached responses
  sent : Passed m.sent responses m'.sent
  control : m'.act.toControl = c
  requestCache : m'.act.toRequestCache = m.act.toRequestCache
  lastHostMs : m'.act.lastHostMs = m.act.lastHostMs
  dispatched : m'.dispatched = m.dispatched

namespace Effect

variable {m m' m'' : Machine} {calls calls' : List Call} {responses responses' : List Packet}
  {c c' : Control}

/-- Nothing happened. -/
theorem refl (m : Machine) : Effect m [] [] m.act.toControl m :=
  ⟨.refl, rfl, .refl _, rfl, rfl, rfl, rfl⟩

/-- Two effects one after the other; calls are listed newest first, responses oldest first. -/
theorem trans (first : Effect m calls responses c m') (later : Effect m' calls' responses' c' m'') :
    Effect m (calls' ++ calls) (responses ++ responses') c' m'' where
  calls := first.calls.trans later.calls
  cached := by rw [later.cached, first.cached, CachedResponses.pushAll_append]
  sent := first.sent.trans later.sent
  control := later.control
  requestCache := later.requestCache.trans first.requestCache
  lastHostMs := later.lastHostMs.trans first.lastHostMs
  dispatched := later.dispatched.trans first.dispatched

/-- A step that leaves the control part alone. -/
theorem keep (first : Effect m calls responses c m')
    (later : Effect m' calls' responses' m'.act.toControl m'') :
    Effect m (calls' ++ calls) (responses ++ responses') c m'' :=
  first.control ▸ first.trans later

/-- A step after ones that neither called nor responded. -/
theorem follow (first : Effect m [] [] c m') (later : Effect m' calls responses c' m'') :
    Effect m calls responses c' m'' := by
  simpa using first.trans later

/-- The first calls after steps without any. -/
theorem calling (first : Effect m [] responses c m')
    (later : Effect m' calls' [] m'.act.toControl m'') : Effect m calls' responses c m'' := by
  simpa using first.keep later

/-- A change of the control part calls nothing and sends nothing. -/
theorem mapControl (m : Machine) (f : Control → Control) :
    Effect m [] [] (f m.act.toControl) (m.mapControl f) :=
  ⟨.refl, rfl, .refl _, rfl, rfl, rfl, rfl⟩

/-- The counters are outside every effect. -/
theorem mapCounters (m : Machine) (f : Counters → Counters) :
    Effect m [] [] m.act.toControl (m.mapCounters f) :=
  ⟨.refl, rfl, .refl _, rfl, rfl, rfl, rfl⟩

/-! ## Calls -/

section Calls

variable {α β : Type} (m) (callback : Option (History → α)) (record : α → Call)

/-- A callback answers from the history before the call. -/
theorem answer : (m.ask callback record).1 = callback.map fun f => f m.calls := by
  cases callback <;> rfl

/-- The answer of a callback with arguments. -/
theorem answer_map {f : Option β} {with_args : β → History → α} :
    (m.ask (f.map with_args) record).1 = f.map fun g => with_args g m.calls := by
  cases f <;> rfl

/-- A callback is recorded if it is wired. -/
theorem ask_calls :
    (m.ask callback record).2.calls = logged record (m.ask callback record).1 ++ m.calls := by
  cases callback <;> rfl

/-- A callback that matters is listed. -/
theorem ask (notable : ∀ a, (record a).notable = true) :
    Effect m (logged record (m.ask callback record).1) [] m.act.toControl
      (m.ask callback record).2 := by
  cases callback with
  | none => exact refl m
  | some f => exact ⟨.entry (notable _) .refl, rfl, .refl _, rfl, rfl, rfl, rfl⟩

/-- A callback that does not matter is left out of the list. -/
theorem ask_quiet (quiet : ∀ a, (record a).notable = false) :
    Effect m [] [] m.act.toControl (m.ask callback record).2 := by
  cases callback with
  | none => exact refl m
  | some f => exact ⟨.quiet (quiet _) .refl, rfl, .refl _, rfl, rfl, rfl, rfl⟩

end Calls

variable (m) (b : MotionBackend)

/-- Reading the clock is a quiet call. -/
theorem nowMs : Effect m [] [] m.act.toControl (m.nowMs b).2 := ask_quiet m b.millis .millis fun _ => rfl

theorem logicalCurrentPosition :
    Effect m (logged .currentPosition (m.ask b.currentPosition .currentPosition).1) []
      m.act.toControl (m.logicalCurrentPosition b).2 :=
  ask m b.currentPosition .currentPosition fun _ => rfl

theorem logicalTargetPosition : Effect m [] [] m.act.toControl (m.logicalTargetPosition b).2 :=
  ask_quiet m b.targetPosition .targetPosition fun _ => rfl

theorem logicalCurrentSpeed : Effect m [] [] m.act.toControl (m.logicalCurrentSpeed b).2 :=
  ask_quiet m b.currentSpeed .currentSpeed fun _ => rfl

theorem configureDriver (config : Tmc2209Config) :
    Effect m (logged (.configureDriver config) (m.configureDriver b config).1) [] m.act.toControl
      (m.configureDriver b config).2 :=
  ask m _ _ fun _ => rfl

/-- Switching the driver is a call that matters, whatever is answered. -/
theorem enableDriver (enabled : Bool) :
    Effect m (logged (.enableDriver enabled) (m.enableDriver b enabled).1) [] m.act.toControl
      (m.enableDriver b enabled).2 :=
  ask m _ _ fun _ => rfl

theorem rampStop (decel : UInt32) :
    Effect m (logged (.rampStop decel) (m.rampStop b decel).1) [] m.act.toControl
      (m.rampStop b decel).2 :=
  ask m _ _ fun _ => rfl

theorem motionActive :
    Effect m (logged .motionActive (m.motionActive b).1) [] m.act.toControl
      (m.motionActive b).2 :=
  ask m _ _ fun _ => rfl

theorem resetConfigStorage :
    Effect m (logged .resetConfigStorage (m.resetConfigStorage b).1) [] m.act.toControl
      (m.resetConfigStorage b).2 :=
  ask m _ _ fun _ => rfl

theorem emergencyStop :
    Effect m (logged (fun _ => .emergencyStop) b.emergencyStop) [] m.act.toControl
      (m.emergencyStop b) := by
  have stopped := ask m (b.emergencyStop.map fun _ _ => ()) (fun _ => .emergencyStop) fun _ => rfl
  rwa [answer_map, Option.map_id'] at stopped

/-! ## Sending -/

/-- What a writer keeps of a packet sent through it. -/
def kept (w : ResponseWriter) (packet : Packet) : List Packet := if w.caches then [packet] else []

variable (w : ResponseWriter)

/-- A packet changes the counters at most. -/
theorem sendPacket (packet : Packet) :
    Effect m [] (kept w packet) m.act.toControl (m.sendPacket w packet).2 := by
  cases w with
  | port send => exact ⟨.refl, rfl, ⟨[], .quiet rfl .refl, rfl⟩, rfl, rfl, rfl, rfl⟩
  | cached down => exact ⟨.refl, rfl, ⟨_, .entry rfl .refl, rfl⟩, rfl, rfl, rfl, rfl⟩

/-- A response is kept for a repetition if its writer keeps it. -/
theorem sendResponse (packet : Packet) :
    Effect m [] (kept w packet) m.act.toControl (m.sendResponse w packet) := by
  simp only [Machine.sendResponse]
  split
  · exact sendPacket m w packet
  · simpa using (sendPacket m w packet).keep (mapCounters ..)

theorem sendError (seq : UInt16) (rejected : UInt8) (code : ErrorCode) :
    Effect m [] (kept w (errorPacket seq rejected code)) m.act.toControl
      (m.sendError w seq rejected code) :=
  (mapCounters m _).keep (sendResponse _ w _)

/-- An event is stamped with the time it is sent at. -/
theorem sendEvent (seq : UInt16) (event : EventType) (severity : EventSeverity) (detail : UInt16)
    (value : UInt32) :
    ∃ now, Effect m [] (kept w (eventPacket seq event severity detail value now)) m.act.toControl
      (m.sendEvent b w seq event severity detail value) :=
  ⟨(m.nowMs b).1, (nowMs m b).keep (sendResponse (m.nowMs b).2 w
    (eventPacket seq event severity detail value (m.nowMs b).1))⟩

/-! ## State changes -/

/-- Events go out directly or not at all. -/
def Direct (events : Option ResponseWriter) : Prop := ∀ down, events ≠ some (.cached down)

/-- A writer straight to a port keeps nothing for a repetition. -/
theorem Direct.map (port : Option Port) : Direct (port.map .port) := by
  intro down
  cases port <;> simp

theorem Direct.port (down : Port) : Direct (some (.port down)) := Direct.map (some down)

/-- `responses` are at most `bound` packets, and none where the events go out
directly. -/
structure Keeps (events : Option ResponseWriter) (bound : Nat) (responses : List Packet) :
    Prop where
  length : responses.length ≤ bound
  direct : Direct events → responses = []

variable {events : Option ResponseWriter} {bound bound' : Nat}

/-- Nothing was kept. -/
theorem Keeps.nil : Keeps events bound [] :=
  ⟨Nat.zero_le _, fun _ => rfl⟩

theorem Keeps.kept (packet : Packet) : Keeps (some w) 1 (kept w packet) := by
  cases w with
  | port => exact .nil
  | cached down => exact ⟨Nat.le_refl 1, fun direct => absurd rfl (direct down)⟩

/-- Bounds on what is kept add up. -/
theorem Keeps.append (first : Keeps events bound responses)
    (later : Keeps events bound' responses') :
    Keeps events (bound + bound') (responses ++ responses') where
  length := by simpa using Nat.add_le_add first.length later.length
  direct direct := by simp [first.direct direct, later.direct direct]

/-- A bound may be loosened. -/
theorem Keeps.mono (le : bound ≤ bound') (keeps : Keeps events bound responses) :
    Keeps events bound' responses :=
  ⟨Nat.le_trans keeps.length le, keeps.direct⟩

variable (events)

/-- A change of state is announced by one event at most. -/
theorem transitionTo (state : ActuatorState) :
    ∃ kept, Keeps events 1 kept ∧
      Effect m [] kept { m.act.toControl with state := state } (m.transitionTo b state events) := by
  simp only [Machine.transitionTo]
  split
  case isTrue same => exact ⟨[], .nil, by rw [← same]; exact refl m⟩
  case isFalse =>
    have moved := mapControl m fun c => { c with state := state }
    cases events with
    | none => exact ⟨[], .nil, moved⟩
    | some w =>
      obtain ⟨now, sent⟩ := sendEvent (m.mapControl fun c => { c with state := state }) b w 0
        .STATE_CHANGED .INFO m.act.state.byte.toUInt16 state.byte.toUInt32
      exact ⟨_, .kept w _, moved.keep sent⟩

/-- A fault is announced by one event at most. -/
theorem raiseFault (flag : FaultFlag) :
    ∃ kept, Keeps events 1 kept ∧
      Effect m [] kept { m.act.toControl with faults := m.act.faults ||| flag.value }
        (m.raiseFault b flag events) := by
  have raised := mapControl m fun c => { c with faults := c.faults ||| flag.value }
  simp only [Machine.raiseFault]
  cases events with
  | none => exact ⟨[], .nil, raised⟩
  | some w =>
    dsimp only
    split
    · obtain ⟨now, sent⟩ := sendEvent
        (m.mapControl fun c => { c with faults := c.faults ||| flag.value }) b w 0
        .FAULT_SET .ERROR (faultBit flag) (m.act.faults ||| flag.value)
      exact ⟨_, .kept w _, raised.keep sent⟩
    · exact ⟨[], .nil, raised⟩

/-- A fault may be announced together with the change of state it causes. -/
theorem setFault (flag : FaultFlag) :
    ∃ kept, Keeps events 2 kept ∧
      Effect m [] kept (m.act.withFault flag) (m.setFault b flag events) := by
  obtain ⟨first, keepsFirst, raised⟩ := raiseFault m b events flag
  simp only [Machine.setFault, Control.withFault]
  cases flag.keepsState with
  | true => exact ⟨first, keepsFirst.mono (by decide), raised⟩
  | false =>
    obtain ⟨second, keepsSecond, moved⟩ :=
      transitionTo (m.raiseFault b flag events) b events .FAULTED
    rw [raised.control] at moved
    exact ⟨first ++ second, keepsFirst.append keepsSecond, raised.trans moved⟩

/-! ## The steps handlers end with -/

section Then

variable {m b} {down : Port} {request : Packet} (done : Effect m calls responses c m')

include done

/-- The same control part, written another way. -/
theorem as (same : c = c') : Effect m calls responses c' m' := same ▸ done

/-- A change of the control part at the end of an effect. -/
theorem set (f : Control → Control) : Effect m calls responses (f c) (m'.mapControl f) := by
  have := done.trans (mapControl m' f)
  rwa [done.control, List.append_nil] at this

/-- A change of state at the end of an effect, announced past the cache. -/
theorem moveTo (state : ActuatorState) {events : Option ResponseWriter}
    (direct : Direct events) :
    Effect m calls responses { c with state := state } (m'.transitionTo b state events) := by
  obtain ⟨kept, keeps, moved⟩ := transitionTo m' b events state
  obtain rfl := keeps.direct direct
  have := done.trans moved
  rwa [done.control, List.append_nil] at this

/-- A fault at the end of an effect, announced past the cache. -/
theorem fault (flag : FaultFlag) {events : Option ResponseWriter}
    (direct : Direct events) :
    Effect m calls responses (c.withFault flag) (m'.setFault b flag events) := by
  obtain ⟨kept, keeps, faulted⟩ := setFault m' b events flag
  obtain rfl := keeps.direct direct
  have := done.trans faulted
  rwa [done.control, List.append_nil] at this

/-- An event at the end of an effect; it is not among the responses. -/
theorem announce (seq : UInt16) (event : EventType) (severity : EventSeverity) (detail : UInt16)
    (value : UInt32) :
    Effect m calls responses c (m'.sendEvent b (.port down) seq event severity detail value) := by
  obtain ⟨now, sent⟩ := sendEvent m' b (.port down) seq event severity detail value
  simpa [kept, ResponseWriter.caches] using done.keep sent

/-- A response at the end of an effect. -/
theorem respond (packet : Packet) :
    Effect m calls (responses ++ [packet]) c (m'.sendResponse (.cached down) packet) :=
  done.keep (sendResponse m' (.cached down) packet)

end Then

/-! ## The one answer of most handlers -/

section Answer

variable {m b} {down : Port} {request : Packet} (done : Effect m calls [] c m')

include done

theorem ack :
    Effect m calls [ackPacket request.seq request.msgId] c (m'.ack down request) :=
  done.respond _

/-- An error response at the end of an effect. -/
theorem refuse (code : ErrorCode) :
    Effect m calls [errorPacket request.seq request.msgId code] c (m'.refuse down request code) :=
  done.keep (sendError m' (.cached down) request.seq request.msgId code)

/-- A fault and its error response at the end of an effect. -/
theorem failWith (flag : FaultFlag) (code : ErrorCode) :
    Effect m calls [errorPacket request.seq request.msgId code] (c.withFault flag)
      (m'.failWith b down request flag code) :=
  (done.fault flag (.port down)).refuse code

end Answer

end Effect

end Daft
