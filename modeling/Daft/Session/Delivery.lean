import Daft.Session.Events
import Daft.Session.Retransmission

/-!
# What is delivered

A request that runs leaves its answer in the filter, and a repeated one gets it from
there, or an error; nothing else sends an answer.
-/

namespace Daft

open Logic

/-! ## Deliveries -/

/-- What a request is answered with, from the cache or afresh. -/
def Delivers (m : Machine) (replies : List Packet) (m' : Machine) : Prop :=
  ∃ new : List Transmission, m'.sent = new ++ m.sent ∧
    (new.map (·.packet)).filter Packet.answers = replies.reverse ∧
    ∀ t ∈ new, t.packet.answers = false → t.packet.payloadLen = MsgId.EVENT.responseLength

/-- The packets cached answer the request cached. -/
structure RequestCache.Answered (cache : RequestCache) : Prop where
  reply : Reply cache.lastRequest (cache.lastResponses.filter Packet.answers)
  events : ∀ packet ∈ cache.lastResponses, packet.answers = false →
    packet.payloadLen = MsgId.EVENT.responseLength

/-- The duplicate filter, where it holds a request, holds an answer to it. -/
def Machine.Replayable (m : Machine) : Prop :=
  m.act.lastRequestValid = true → m.act.toRequestCache.Answered

section

variable {b : MotionBackend} {down : Port} {r : Packet} {m : Machine}

theorem Hands.delivers {m' : Machine} {replies : List Packet} (hands : Hands m replies m') :
    Delivers m replies m' := by
  obtain ⟨new, sent, filtered, -, events⟩ := hands
  exact ⟨new, sent, filtered, events⟩

/-- A request that gets past the filter is answered by its handler, then remembered. -/
theorem handlePacket_walks (b : MotionBackend) (down : Port)
    (fresh : m.act.isDuplicate r = false) :
    ∃ replies after, Walk b (some down) (m.acceptRequest b r) replies after ∧ Reply r replies ∧
      m.handlePacket b down r = after.rememberRequest r := by
  have dispatched : Handles b down r (m.acceptRequest b r)
      ((m.acceptRequest b r).dispatch b down r) := dispatch_handles
  obtain ⟨replies, walk, reply⟩ := dispatched
  exact ⟨replies, _, walk, reply, by simp [Machine.handlePacket, fresh]⟩

theorem handlePacket_replies (fresh : m.act.isDuplicate r = false) :
    Replies r m (m.handlePacket b down r) := by
  obtain ⟨replies, after, walk, reply, handled⟩ := handlePacket_walks b down fresh
  have accepted : Hands m [] (m.acceptRequest b r) := .unsent (by rw [Machine.acceptRequest_eq])
  rw [handled]
  exact ⟨replies, (accepted.trans walk.hands).quietly (.unsent rfl), reply⟩

/-- Of the packets handed over the caching writer keeps the reply. -/
theorem Hands.cached {m' : Machine} {replies responses : List Packet} (hands : Hands m replies m')
    (passed : Passed m.sent responses m'.sent) :
    responses.filter Packet.answers = replies ∧
      ∀ packet ∈ responses, packet.answers = false →
        packet.payloadLen = MsgId.EVENT.responseLength := by
  obtain ⟨new, sent, filtered, cached, events⟩ := hands
  have packets := passed.packets sent
  constructor
  · have both : (new.filter Transmission.cached).filter (fun t => t.packet.answers) =
        new.filter fun t => t.packet.answers := by
      rw [List.filter_filter]
      apply List.filter_congr
      intro t member
      cases answers : t.packet.answers with
      | false => rfl
      | true => rw [cached t member answers, Bool.and_true]
    have reversed : (responses.filter Packet.answers).reverse = replies.reverse := by
      rw [← List.filter_reverse, ← packets, ← filtered, List.filter_map, List.filter_map]
      exact congrArg (List.map Transmission.packet) both
    exact List.reverse_inj.mp reversed
  · intro packet member event
    have kept : packet ∈ (new.filter Transmission.cached).map (·.packet) := by
      rw [packets]
      exact List.mem_reverse.mpr member
    obtain ⟨t, inside, rfl⟩ := List.mem_map.mp kept
    exact events t (List.mem_filter.mp inside).1 event

/-- A request leaves an answer to itself in the filter. -/
theorem handlePacket_answered (fresh : m.act.isDuplicate r = false) :
    (m.handlePacket b down r).act.toRequestCache.Answered := by
  have handled : Replies r m (m.handlePacket b down r) := handlePacket_replies fresh
  obtain ⟨replies, hands, reply⟩ := handled
  obtain ⟨calls, responses, done⟩ := @handlePacket_executed b down r m fresh
  obtain ⟨kept, events⟩ := hands.cached done.sent
  constructor
  · rw [done.requestCache]
    dsimp only
    rw [kept]
    exact reply
  · rw [done.requestCache]
    exact events

theorem Machine.Replayable.of_cache {m' : Machine} (replayable : m.Replayable)
    (same : m'.act.toRequestCache = m.act.toRequestCache) : m'.Replayable := by
  intro valid
  rw [same]
  exact replayable ((congrArg RequestCache.lastRequestValid same).symm.trans valid)

/-- Only a request changes the filter, unless `begin` clears it. -/
theorem Stepped.replayable {m' : Machine} {op : Op} {calls : List Call}
    (stepped : Stepped b m m' op calls) (replayable : m.Replayable)
    (answered : ∀ r port, op = .handlePacket r port → m.act.isDuplicate r = false →
      m'.act.toRequestCache.Answered) : m'.Replayable := by
  cases stepped with
  | executed fresh => exact fun _ => answered _ _ rfl fresh
  | repeated _ done => exact replayable.of_cache done.requestCache
  | ticked done => exact replayable.of_cache done.requestCache
  | begun done =>
    intro valid
    have cleared := congrArg RequestCache.lastRequestValid done.requestCache
    exact absurd (valid.symm.trans cleared) (by simp)
  | framed _ done => exact replayable.of_cache done.requestCache
  | reported _ _ done => exact replayable.of_cache done.requestCache

theorem step_replayable (op : Op) (replayable : m.Replayable) : (step b m op).Replayable := by
  obtain ⟨calls, stepped⟩ := step_stepped b m op
  refine stepped.replayable replayable ?_
  rintro r port rfl fresh
  exact handlePacket_answered fresh

theorem Machine.Reachable.replayable (reachable : m.Reachable b) : m.Replayable := by
  obtain ⟨build, defaults, ops, rfl⟩ := reachable
  have started : (step b (.powerOn build) (.begin defaults)).Replayable :=
    step_replayable _ fun valid => by cases valid
  exact run_invariant (fun m op => step_replayable op) started ops

/-- A replay delivers the packets cached. -/
theorem answerDuplicate_delivers (answered : m.act.toRequestCache.Answered)
    (same : m.act.sameRequest r = true) :
    Delivers m (m.act.lastResponses.filter Packet.answers) (m.answerDuplicate b down r) := by
  obtain ⟨replayed, dropped, replays, packets⟩ := answerDuplicate_eq (b := b) down same
  rw [replays]
  refine ⟨replayed, rfl, by rw [packets, List.filter_reverse], ?_⟩
  intro t member event
  have cached : t.packet ∈ m.act.lastResponses := by
    have found := List.mem_map_of_mem (f := Transmission.packet) member
    rw [packets] at found
    exact List.mem_reverse.mp found
  exact answered.events _ cached event

/-- A packet that only looks like the last request is refused. -/
theorem answerDuplicate_refuses (other : m.act.sameRequest r = false) :
    Delivers m [errorPacket r.seq r.msgId .ERR_DUPLICATE_MISMATCH] (m.answerDuplicate b down r) := by
  have heard : ((m.hearHost b).mapCounters fun c =>
      { c with duplicatePackets := c.duplicatePackets + 1 }).sent = m.sent := by
    rw [Machine.hearHost, Machine.nowMs_eq]
    rfl
  have compared : ((m.hearHost b).mapCounters fun c =>
      { c with duplicatePackets := c.duplicatePackets + 1 }).act.sameRequest r = false := by
    rw [Machine.hearHost, Machine.nowMs_eq]
    exact other
  unfold Machine.answerDuplicate
  dsimp only
  generalize (m.hearHost b).mapCounters _ = heard' at *
  rw [if_neg (by rw [compared]; simp)]
  obtain ⟨taken, sent, -, -⟩ := sendResponse_eq (w := .port down)
    (m := heard'.mapCounters fun c => { c with rejectedCommands := c.rejectedCommands + 1 })
    (errorPacket r.seq r.msgId .ERR_DUPLICATE_MISMATCH)
  refine ⟨[⟨errorPacket r.seq r.msgId .ERR_DUPLICATE_MISMATCH, false, taken⟩], ?_, rfl, ?_⟩
  · rw [← heard]
    exact sent
  · intro t member event
    rw [List.mem_singleton.mp member] at event
    cases event

/-- Every request is answered. -/
theorem handlePacket_delivers (replayable : m.Replayable) :
    ∃ replies, Delivers m replies (m.handlePacket b down r) ∧ Reply r replies := by
  cases duplicate : m.act.isDuplicate r with
  | false =>
    have handled : Replies r m (m.handlePacket b down r) := handlePacket_replies duplicate
    obtain ⟨replies, hands, reply⟩ := handled
    exact ⟨replies, hands.delivers, reply⟩
  | true =>
    have handled : m.handlePacket b down r = m.answerDuplicate b down r := by
      simp [Machine.handlePacket, duplicate]
    rw [handled]
    obtain ⟨valid, seq, msgId⟩ : m.act.lastRequestValid = true ∧ r.seq = m.act.lastRequest.seq ∧
        r.msgId = m.act.lastRequest.msgId := by
      simpa [RequestCache.isDuplicate] using duplicate
    have answered := replayable valid
    cases same : m.act.sameRequest r with
    | true =>
      refine ⟨_, answerDuplicate_delivers answered same, ?_⟩
      exact answered.reply.of_same seq msgId
    | false => exact ⟨_, answerDuplicate_refuses same, .refused _⟩

end

/-! ## Everything else that is sent -/

/-- Telemetry and events, of the lengths they have. -/
def Packet.Noise (packet : Packet) : Prop :=
  packet.msgId = MsgId.STATUS.byte ∧ packet.flags &&& PacketFlag.TELEMETRY.bits ≠ 0 ∧
      packet.payloadLen = MsgId.STATUS.responseLength ∨
    packet.msgId = MsgId.EVENT.byte ∧ packet.payloadLen = MsgId.EVENT.responseLength

section

variable {b : MotionBackend} {m m' : Machine}

theorem Delivers.noise (delivers : Delivers m [] m') :
    ∃ new : List Transmission, m'.sent = new ++ m.sent ∧ ∀ t ∈ new, t.packet.Noise := by
  obtain ⟨new, sent, filtered, events⟩ := delivers
  refine ⟨new, sent, ?_⟩
  intro t member
  have event : t.packet.answers = false := by
    apply eq_false_of_ne_true
    intro answers
    have found := List.mem_filter.mpr ⟨List.mem_map_of_mem (f := (·.packet)) member, answers⟩
    rw [filtered] at found
    cases found
  exact .inr ⟨by simpa [Packet.answers] using event, events t member event⟩

/-- A status is one packet. -/
theorem sendStatus_sent (w : ResponseWriter) (seq : UInt16) (telemetry : Bool) :
    ∃ t, (m.sendStatus b w seq telemetry).sent = t :: m.sent ∧
      t.packet.msgId = MsgId.STATUS.byte ∧
      t.packet.flags = (if telemetry then PacketFlag.TELEMETRY else .RESPONSE).bits ∧
      t.packet.payloadLen = MsgId.STATUS.responseLength := by
  have same : ∀ {α : Type} (m : Machine) (callback : Option (History → α)) (record : α → Call),
      (m.ask callback record).2.sent = m.sent := by
    intro α m callback record
    cases callback <;> rfl
  have asked : ((((m.logicalCurrentPosition b).2.logicalTargetPosition b).2.logicalCurrentSpeed
      b).2.nowMs b).2.sent = m.sent :=
    (same ..).trans ((same ..).trans ((same ..).trans (same ..)))
  unfold Machine.sendStatus
  dsimp only
  rw [← asked]
  generalize (Machine.nowMs _ b).2 = asked
  obtain ⟨taken, sent, -, -⟩ := sendResponse_eq (m := asked) (w := w) _
  exact ⟨_, sent, rfl, rfl, rfl⟩

theorem sendStatus_noise (port : Port) (seq : UInt16) :
    ∃ new : List Transmission, (m.sendStatus b (.port port) seq true).sent = new ++ m.sent ∧
      ∀ t ∈ new, t.packet.Noise := by
  obtain ⟨t, sent, id, flags, length⟩ := sendStatus_sent (b := b) (m := m) (.port port) seq true
  have flagged : PacketFlag.TELEMETRY.bits &&& PacketFlag.TELEMETRY.bits ≠ 0 := by decide
  refine ⟨[t], sent, List.forall_mem_singleton.mpr (.inl ⟨id, ?_, length⟩)⟩
  rw [flags]
  exact flagged

theorem Hands.markTelemetrySent {replies : List Packet} (hands : Hands m replies m') :
    Hands m replies (m'.markTelemetrySent b) :=
  (hands.ask b.millis .millis).quietly (.unsent rfl)

theorem beginWith_hands (defaults : ActuatorConfig) : Hands m [] (m.beginWith b defaults) := by
  have members : Hands m [] (m.beginMembers b defaults) := by
    apply Hands.unsent
    unfold Machine.beginMembers Machine.hearHost Machine.nowMs Machine.bootReason Machine.ask
    cases b.bootReason <;> cases b.millis <;> rfl
  have loaded : Hands m [] ((m.beginMembers b defaults).beginConfig b) := by
    have asked := members.ask b.loadConfig .loadConfig
    unfold Machine.beginConfig Machine.loadConfig
    generalize (m.beginMembers b defaults).ask b.loadConfig _ = read at *
    dsimp only
    split
    · split
      · exact asked.set _
      · exact asked.fails ..
    · exact asked
  unfold Machine.beginWith
  generalize (m.beginMembers b defaults).beginConfig b = ready at *
  have configured := loaded.ask (b.configureDriver.map fun f h => f h ready.act.activeConfig.driver)
    (.configureDriver ready.act.activeConfig.driver)
  unfold Machine.beginDriver Machine.configureDriver
  generalize ready.ask _ (Call.configureDriver _) = asked at *
  dsimp only
  split
  · exact (configured.fails ..).moveTo ..
  · exact (configured.ask _ _).moveTo ..

theorem recordFrameError_hands (error : ErrorCode) : Hands m [] (m.recordFrameError b error) := by
  have counted : Hands m [] (m.mapCounters fun c =>
      { c with decodeErrors := c.decodeErrors + 1 }) := .unsent rfl
  unfold Machine.recordFrameError
  dsimp only
  split
  · exact (counted.count _).fails ..
  split
  · exact counted.fails ..
  · exact counted.fails ..

/-- Without a request nothing is sent but telemetry and events. -/
theorem step_noise {op : Op} (own : ∀ r port, op ≠ .handlePacket r port) :
    ∃ new : List Transmission, (step b m op).sent = new ++ m.sent ∧
      ∀ t ∈ new, t.packet.Noise := by
  cases op with
  | handlePacket r port => exact absurd rfl (own r port)
  | sendTelemetry port seq =>
    obtain ⟨new, sent, noise⟩ := sendStatus_noise (b := b) (m := m) port seq
    have marked : (step b m (.sendTelemetry port seq)).sent =
        (m.sendStatus b (.port port) seq true).sent := by
      show (Machine.markTelemetrySent b _).sent = _
      unfold Machine.markTelemetrySent
      rw [Machine.nowMs_eq]
    exact ⟨new, marked.trans sent, noise⟩
  | «begin» defaults => exact (beginWith_hands defaults).delivers.noise
  | update events =>
    have walk : Walk b events m [] (m.update b events) := update_walks events
    exact walk.hands.delivers.noise
  | shouldSendTelemetry =>
    have asked : Hands m [] (m.shouldSendTelemetry b).2 := by
      unfold Machine.shouldSendTelemetry
      dsimp only
      split
      · exact .refl m
      · exact (Hands.refl m).ask _ _
    exact asked.delivers.noise
  | markTelemetrySent =>
    have marked : Hands m [] (m.markTelemetrySent b) := (Hands.refl m).markTelemetrySent
    exact marked.delivers.noise
  | recordFrameError error => exact (recordFrameError_hands error).delivers.noise

end

end Daft
