import Daft.Host.Layouts
import Daft.Session.Delivery

/-!
# What is reported

A host learns the members of the actuator from a few kinds of packets. Each of them, read
by the parser of the host, gives the members as they were when it was written; a replay
gives them as they were when the request ran.
-/

namespace Daft

open Logic Host Host.Messages

/-- The host reads these members in the packet, and of the configuration a field that was
`asked` for; a packet of another kind tells none. -/
structure Tells (c : Control) (asked : ConfigField → Prop) (packet : Packet) : Prop where
  status : packet.msgId = MsgId.STATUS.byte → ∃ status : Status,
    parseStatus (Codec.received packet) = .ok status ∧ status.state = c.state.name ∧
      status.controlMode = c.controlMode.name ∧ status.driverEnabled = c.driverEnabled ∧
      status.configStaged = c.configStaged ∧ status.faults = c.faults.toNat ∧
      status.configGeneration = c.configGeneration.toNat
  faults : packet.msgId = MsgId.FAULTS.byte →
    parseFaults (Codec.received packet) = .ok { faults := c.faults.toNat }
  configValue : packet.msgId = MsgId.CONFIG_VALUE.byte → ∃ field name value, asked field ∧
    configFieldValue c.activeConfig field = some value ∧ field.name = some name ∧
      parseConfigValue (Codec.received packet) = .ok
        { fieldId := field.raw.toNat, field := name
          mutability := (configFieldMutability field).name, configStaged := c.configStaged
          value := value.toInt }
  identity : packet.msgId = MsgId.IDENTITY.byte → ∃ identity : Identity,
    parseIdentity (Codec.received packet) = .ok identity ∧
      identity.configGeneration = c.configGeneration.toNat
  capabilities : packet.msgId = MsgId.CAPABILITIES.byte → ∃ capabilities : Capabilities,
    parseCapabilities (Codec.received packet) = .ok capabilities ∧
      capabilities.hostTimeoutMs = c.activeConfig.safety.hostTimeoutMs.toNat

/-- The packets that tell of members. -/
def MsgId.tells : MsgId → Bool
  | .STATUS | .FAULTS | .CONFIG_VALUE | .IDENTITY | .CAPABILITIES => true
  | _ => false

/-- The field a request asks for. -/
def Packet.Queries (r : Packet) (field : ConfigField) : Prop :=
  r.msgId = MsgId.CONFIG_QUERY.byte ∧ field = .ofRaw (readU16 (r.at 0))

/-- Nothing else asks for one. -/
def Op.Queries : Op → ConfigField → Prop
  | .handlePacket r _ => r.Queries
  | _ => fun _ => False

/-- What is sent between the machines tells of these members. -/
def Informs (c : Control) (asked : ConfigField → Prop) (m m' : Machine) : Prop :=
  ∃ new : List Transmission, m'.sent = new ++ m.sent ∧ ∀ t ∈ new, Tells c asked t.packet

section

variable {b : MotionBackend} {m m' : Machine} {c : Control} {r packet : Packet} {down : Port}
  {asked : ConfigField → Prop}

/-- A packet has one kind. -/
theorem Packet.other_kind {msg other : MsgId} {P : Prop} (id : packet.msgId = msg.byte)
    (different : msg ≠ other) (same : packet.msgId = other.byte) : P :=
  absurd (MsgId.byte_injective (id.symm.trans same)) different

theorem Tells.nothing {msg : MsgId} (id : packet.msgId = msg.byte) (silent : msg.tells = false) :
    Tells c asked packet := by
  have different : ∀ {other : MsgId}, other.tells = true → msg ≠ other := by
    rintro _ tells rfl
    rw [silent] at tells
    cases tells
  exact ⟨Packet.other_kind id (different rfl), Packet.other_kind id (different rfl),
    Packet.other_kind id (different rfl), Packet.other_kind id (different rfl),
    Packet.other_kind id (different rfl)⟩

theorem Tells.event (event : packet.answers = false) : Tells c asked packet := by
  have id : packet.msgId = MsgId.EVENT.byte := by simpa [Packet.answers] using event
  exact .nothing id rfl

theorem Tells.mono {asked' : ConfigField → Prop} (tells : Tells c asked packet)
    (wider : ∀ field, asked field → asked' field) : Tells c asked' packet where
  status := tells.status
  faults := tells.faults
  configValue id :=
    let ⟨field, name, value, queried, rest⟩ := tells.configValue id
    ⟨field, name, value, wider field queried, rest⟩
  identity := tells.identity
  capabilities := tells.capabilities

/-- Besides events only the replies tell. -/
theorem Delivers.informs {replies : List Packet} (delivers : Delivers m replies m')
    (told : ∀ packet ∈ replies, Tells c asked packet) : Informs c asked m m' := by
  obtain ⟨new, sent, filtered, -⟩ := delivers
  refine ⟨new, sent, fun t member => ?_⟩
  cases kind : t.packet.answers with
  | false => exact .event kind
  | true =>
    apply told
    rw [← List.mem_reverse, ← filtered]
    exact List.mem_filter.mpr ⟨List.mem_map_of_mem member, kind⟩

theorem Informs.unsent (same : m'.sent = m.sent) : Informs c asked m m' := ⟨[], same, by simp⟩

/-! ## Queries -/

/-- One packet was sent, and the host reads it. -/
theorem Reads.informs {α : Type} {parse : Codec.Packet → Except String α} {fields : α}
    {t : Transmission} (reads : Reads parse m' fields) (sent : m'.sent = t :: m.sent)
    (tells : parse (Codec.received t.packet) = .ok fields → Tells c asked t.packet) :
    Informs c asked m m' := by
  obtain ⟨last, first, parsed⟩ := reads
  rw [sent, List.head?_cons, Option.some.injEq] at first
  subst first
  exact ⟨[t], sent, List.forall_mem_singleton.mpr (tells parsed)⟩

theorem sendStatus_informs (w : ResponseWriter) (seq : UInt16) (telemetry : Bool) :
    Informs m.act.toControl asked m (m.sendStatus b w seq telemetry) := by
  obtain ⟨t, sent, id, -⟩ := sendStatus_sent (b := b) (m := m) w seq telemetry
  refine (responses_read.status m b w seq telemetry).informs sent fun parsed => ?_
  exact ⟨fun _ => ⟨_, parsed, rfl, rfl, rfl, rfl, rfl, rfl⟩, Packet.other_kind id (by decide),
    Packet.other_kind id (by decide), Packet.other_kind id (by decide),
    Packet.other_kind id (by decide)⟩

theorem sendResponse_informs (w : ResponseWriter)
    (tells : Tells c asked packet) : Informs c asked m (m.sendResponse w packet) := by
  obtain ⟨taken, sent, -⟩ := sendResponse_eq (m := m) (w := w) packet
  exact ⟨[⟨packet, w.caches, taken⟩], sent, List.forall_mem_singleton.mpr tells⟩

theorem sendFaults_informs (w : ResponseWriter) (seq : UInt16) :
    Informs m.act.toControl asked m (m.sendFaults w seq) := by
  obtain ⟨taken, sent, -⟩ := sendResponse_eq (m := m) (w := w)
    (.respond .FAULTS PacketFlag.RESPONSE.bits seq 4 (writeU32 m.act.faults))
  refine (responses_read.faults m w seq).informs sent fun parsed => ?_
  have id : MsgId.FAULTS.byte = MsgId.FAULTS.byte := rfl
  exact ⟨Packet.other_kind id (by decide), fun _ => parsed, Packet.other_kind id (by decide),
    Packet.other_kind id (by decide), Packet.other_kind id (by decide)⟩

theorem sendIdentity_informs (w : ResponseWriter) (seq : UInt16) :
    Informs m.act.toControl asked m (m.sendIdentity w seq) := by
  obtain ⟨taken, sent, -⟩ := sendResponse_eq (m := m) (w := w) _
  refine (responses_read.identity m w seq).informs sent fun parsed => ?_
  have id : MsgId.IDENTITY.byte = MsgId.IDENTITY.byte := rfl
  exact ⟨Packet.other_kind id (by decide), Packet.other_kind id (by decide),
    Packet.other_kind id (by decide), fun _ => ⟨_, parsed, rfl⟩, Packet.other_kind id (by decide)⟩

theorem sendCapabilities_informs (w : ResponseWriter) (seq : UInt16) :
    Informs m.act.toControl asked m (m.sendCapabilities w seq) := by
  obtain ⟨taken, sent, -⟩ := sendResponse_eq (m := m) (w := w) _
  refine (responses_read.capabilities m w seq).informs sent fun parsed => ?_
  have id : MsgId.CAPABILITIES.byte = MsgId.CAPABILITIES.byte := rfl
  exact ⟨Packet.other_kind id (by decide), Packet.other_kind id (by decide),
    Packet.other_kind id (by decide), Packet.other_kind id (by decide), fun _ => ⟨_, parsed, rfl⟩⟩

theorem sendConfigValue_informs (w : ResponseWriter) (seq : UInt16) (field : ConfigField) :
    Informs m.act.toControl (· = field) m (m.sendConfigValue w seq field) := by
  cases known : configFieldValue m.act.activeConfig field with
  | none =>
    have refused : m.sendConfigValue w seq field =
        m.sendError w seq MsgId.CONFIG_QUERY.byte .ERR_INVALID_FIELD := by
      rw [Machine.sendConfigValue, known]
    rw [refused]
    exact sendResponse_informs (m := m.mapCounters fun c =>
      { c with rejectedCommands := c.rejectedCommands + 1 }) w
      (.nothing (rfl : _ = MsgId.ERROR.byte) rfl)
  | some value =>
    obtain ⟨name, named, reads⟩ := responses_read.configValue m w seq field value known
    have id : MsgId.CONFIG_VALUE.byte = MsgId.CONFIG_VALUE.byte := rfl
    unfold Machine.sendConfigValue at reads ⊢
    rw [known] at reads ⊢
    obtain ⟨taken, sent, -⟩ := sendResponse_eq (m := m) (w := w) _
    refine reads.informs sent fun parsed => ?_
    exact ⟨Packet.other_kind id (by decide), Packet.other_kind id (by decide),
      fun _ => ⟨field, name, value, rfl, known, named, parsed⟩, Packet.other_kind id (by decide),
      Packet.other_kind id (by decide)⟩

theorem expectLength_informs {length : UInt16} {body : Machine → Machine}
    (informs : Informs c asked m (body m)) :
    Informs c asked m (m.expectLength down r length body) := by
  unfold Machine.expectLength
  split
  · exact sendResponse_informs (m := m.mapCounters fun c =>
      { c with rejectedCommands := c.rejectedCommands + 1 }) (.cached down)
      (.nothing (rfl : _ = MsgId.ERROR.byte) rfl)
  · exact informs

/-- What answers a query that tells of members. -/
theorem dispatch_informs {msg response : MsgId} (id : r.msgId = msg.byte)
    (expects : msg.response = some response) (tells : response.tells = true) :
    Informs m.act.toControl r.Queries m (m.dispatch b down r) := by
  have read : MsgId.ofByte r.msgId = some msg := by rw [id, MsgId.ofByte_byte]
  unfold Machine.dispatch
  cases msg with
  | GET_IDENTITY =>
    rw [read]
    exact expectLength_informs (sendIdentity_informs ..)
  | GET_CAPABILITIES =>
    rw [read]
    exact expectLength_informs (sendCapabilities_informs ..)
  | GET_STATUS =>
    rw [read]
    exact expectLength_informs (sendStatus_informs ..)
  | GET_FAULTS =>
    rw [read]
    exact expectLength_informs (sendFaults_informs ..)
  | CONFIG_QUERY =>
    rw [read]
    obtain ⟨new, sent, told⟩ := sendConfigValue_informs (m := m) (.cached down) r.seq
      (.ofRaw (readU16 (r.at 0)))
    exact expectLength_informs ⟨new, sent, fun t member =>
      (told t member).mono fun field queried => ⟨id, queried⟩⟩
  | _ => cases expects <;> cases tells

/-! ## Steps -/

theorem handlePacket_informs (fresh : m.act.isDuplicate r = false) :
    Informs m.act.toControl r.Queries m (m.handlePacket b down r) := by
  obtain ⟨replies, after, walk, reply, handled⟩ := handlePacket_walks b down fresh
  have accepted : (m.acceptRequest b r).act.toControl = m.act.toControl ∧
      (m.acceptRequest b r).sent = m.sent := by
    rw [Machine.acceptRequest_eq]
    exact ⟨rfl, rfl⟩
  have dispatched : Informs m.act.toControl r.Queries m (m.handlePacket b down r) ↔
      Informs (m.acceptRequest b r).act.toControl r.Queries (m.acceptRequest b r)
        ((m.acceptRequest b r).dispatch b down r) := by
    have ran : m.handlePacket b down r =
        ((m.acceptRequest b r).dispatch b down r).rememberRequest r := by
      simp [Machine.handlePacket, fresh]
    rw [accepted.1, Informs, Informs, ran, accepted.2]
    rfl
  have replied : (∀ packet ∈ replies, Tells m.act.toControl r.Queries packet) →
      Informs m.act.toControl r.Queries m (m.handlePacket b down r) := by
    intro told
    have informs : Informs m.act.toControl r.Queries (m.acceptRequest b r) after :=
      walk.hands.delivers.informs told
    rw [Informs, accepted.2] at informs
    rw [handled]
    exact informs
  cases reply with
  | refused code =>
    exact replied (List.forall_mem_singleton.mpr (.nothing (rfl : _ = MsgId.ERROR.byte) rfl))
  | ponged _ responds =>
    exact replied (List.forall_mem_cons.mpr ⟨.nothing (rfl : _ = MsgId.ACK.byte) rfl,
      List.forall_mem_singleton.mpr (.nothing responds.msgId rfl)⟩)
  | @responded msg response _ id expects responds =>
    cases tells : response.tells with
    | false => exact replied (List.forall_mem_singleton.mpr (.nothing responds.msgId tells))
    | true => exact dispatched.mpr (dispatch_informs id expects tells)

/-- What an entry point sends tells of the members it found, a replay aside. -/
theorem step_informs (op : Op)
    (fresh : ∀ r port, op = .handlePacket r port → m.act.isDuplicate r = false) :
    Informs m.act.toControl op.Queries m (step b m op) := by
  cases op with
  | handlePacket r port => exact handlePacket_informs (fresh r port rfl)
  | begin defaults => exact (beginWith_hands defaults).delivers.informs (by simp)
  | update port =>
    have walk : Walk b port m [] (m.update b port) := update_walks port
    exact walk.hands.delivers.informs (by simp)
  | recordFrameError error => exact .unsent (recordFrameError_sent error).1
  | shouldSendTelemetry =>
    refine .unsent ?_
    show (m.shouldSendTelemetry b).2.sent = m.sent
    unfold Machine.shouldSendTelemetry
    dsimp only
    split
    · rfl
    · rw [Machine.nowMs_eq]
  | markTelemetrySent =>
    refine .unsent ?_
    show (m.markTelemetrySent b).sent = m.sent
    rw [Machine.markTelemetrySent, Machine.nowMs_eq]
  | sendTelemetry port seq =>
    obtain ⟨new, sent, told⟩ := sendStatus_informs (b := b) (m := m) (.port port) seq true
    refine ⟨new, ?_, told⟩
    show ((m.sendStatus b (.port port) seq true).markTelemetrySent b).sent = _
    rw [Machine.markTelemetrySent, Machine.nowMs_eq]
    exact sent

/-- Everything sent and everything kept for a replay was told. -/
structure Machine.Informed (told : Packet → Prop) (m : Machine) : Prop where
  sent : ∀ t ∈ m.sent, told t.packet
  kept : ∀ packet ∈ m.act.lastResponses, told packet

variable {told : Packet → Prop}

theorem Machine.Informed.after (informed : m.Informed told)
    (tells : ∀ packet, Tells m.act.toControl (fun _ => True) packet → told packet)
    (informs : Informs m.act.toControl asked m m')
    (kept : ∀ packet ∈ m'.act.lastResponses, packet ∈ m.act.lastResponses ∨
      ∃ t ∈ m'.sent, t.packet = packet) : m'.Informed told := by
  obtain ⟨new, sent, each⟩ := informs
  have all : ∀ t ∈ m'.sent, told t.packet := by
    rw [sent]
    exact List.forall_mem_append.mpr
      ⟨fun t member => tells _ ((each t member).mono fun _ _ => trivial), informed.sent⟩
  refine ⟨all, fun packet member => ?_⟩
  rcases kept packet member with before | ⟨t, listed, rfl⟩
  · exact informed.kept packet before
  · exact all t listed

theorem Machine.Informed.repeated (informed : m.Informed told)
    (tells : ∀ packet, Tells m.act.toControl (fun _ => True) packet → told packet)
    (duplicate : m.act.isDuplicate r = true) : (m.handlePacket b down r).Informed told := by
  have handled : m.handlePacket b down r = m.answerDuplicate b down r := by
    simp [Machine.handlePacket, duplicate]
  have done : Repeated b m (m.handlePacket b down r) := handlePacket_repeated duplicate
  have same : (m.handlePacket b down r).act.lastResponses = m.act.lastResponses :=
    congrArg RequestCache.lastResponses done.requestCache
  cases repeats : m.act.sameRequest r with
  | true =>
    obtain ⟨replayed, dropped, replays, packets⟩ := answerDuplicate_eq (b := b) down repeats
    refine ⟨?_, same ▸ informed.kept⟩
    rw [handled, replays]
    refine List.forall_mem_append.mpr ⟨fun t member => informed.kept _ ?_, informed.sent⟩
    rw [← List.mem_reverse, ← packets]
    exact List.mem_map_of_mem member
  | false =>
    have informs : Informs m.act.toControl (fun _ => True) m (m.handlePacket b down r) := by
      rw [handled]
      exact (answerDuplicate_refuses repeats).informs
        (List.forall_mem_singleton.mpr (.nothing (rfl : _ = MsgId.ERROR.byte) rfl))
    exact informed.after tells informs fun packet member => .inl (same ▸ member)

theorem step_informed (op : Op)
    (tells : ∀ packet, Tells m.act.toControl (fun _ => True) packet → told packet)
    (informed : m.Informed told) : (step b m op).Informed told := by
  obtain ⟨calls, stepped⟩ := step_stepped b m op
  cases stepped with
  | @executed r port _ responses fresh done =>
    refine informed.after tells (handlePacket_informs fresh) fun packet member => .inr ?_
    rw [done.lastResponses, ← List.mem_reverse] at member
    obtain ⟨passed, adds, packets⟩ := done.sent
    obtain ⟨new, sent, filtered⟩ := adds.split
    rw [← packets, ← filtered] at member
    obtain ⟨t, listed, rfl⟩ := List.mem_map.mp member
    exact ⟨t, sent ▸ List.mem_append_left _ (List.mem_filter.mp listed).1, rfl⟩
  | repeated duplicate => exact informed.repeated tells duplicate
  | ticked done =>
    refine informed.after tells (step_informs _ (by simp)) fun packet member => .inl ?_
    rw [done.requestCache] at member
    exact member
  | begun done =>
    refine informed.after tells (step_informs _ (by simp)) fun packet member => ?_
    rw [done.requestCache] at member
    cases member
  | framed _ done =>
    refine informed.after tells (step_informs _ (by simp)) fun packet member => .inl ?_
    rw [done.requestCache] at member
    exact member
  | reported telemetry _ done =>
    have own : ∀ r port, op = .handlePacket r port → m.act.isDuplicate r = false := by
      rintro r port rfl
      cases telemetry
    refine informed.after tells (step_informs op own) fun packet member => .inl ?_
    rw [done.requestCache] at member
    exact member

end

/-- Everything a run sent was told by a state of the run. -/
theorem boot_informed (b : MotionBackend) (build : BuildInfo) (defaults : ActuatorConfig)
    (ops : List Op) : ∀ t ∈ (Machine.boot b build defaults ops).sent, ∃ earlier, earlier <+: ops ∧
      Tells (Machine.boot b build defaults earlier).act.toControl (fun _ => True) t.packet := by
  let start := step b (.powerOn build) (.begin defaults)
  have started : start.Informed (Tells start.act.toControl fun _ => True) := by
    obtain ⟨calls, done⟩ := step_begun b (.powerOn build) defaults
    have begun : Informs start.act.toControl (fun _ => True) (.powerOn build) start :=
      (beginWith_hands defaults).delivers.informs (by simp)
    obtain ⟨new, sent, told⟩ := begun
    have made : start.sent = new := sent.trans (List.append_nil new)
    refine ⟨made ▸ told, fun packet member => ?_⟩
    rw [done.requestCache] at member
    cases member
  have informed : (Machine.boot b build defaults ops).Informed fun packet =>
      Tells start.act.toControl (fun _ => True) packet ∨ ∃ earlier, earlier <+: ops ∧
        Tells (Machine.boot b build defaults earlier).act.toControl (fun _ => True) packet :=
    run_met (fun (m : Machine) => Tells m.act.toControl fun _ => True)
      (fun told m => m.Informed told)
      (fun grows informed => ⟨fun t member => grows _ (informed.sent t member),
        fun packet member => grows _ (informed.kept packet member)⟩)
      (fun m op tells informed => step_informed (b := b) op tells informed) started ops
  intro t member
  rcases informed.sent t member with first | later
  · exact ⟨[], List.nil_prefix, first⟩
  · exact later

/-! ## What is kept -/

section

variable {b : MotionBackend} {m : Machine} {r : Packet} {port : Port}

/-- What a request was answered with is kept. -/
theorem handlePacket_keeps (fresh : m.act.isDuplicate r = false) :
    (step b m (.handlePacket r port)).act.lastRequest = r ∧
      Delivers m ((step b m (.handlePacket r port)).act.lastResponses.filter Packet.answers)
        (step b m (.handlePacket r port)) := by
  have handled : Replies r m (m.handlePacket b port r) := handlePacket_replies fresh
  obtain ⟨replies, hands, -⟩ := handled
  obtain ⟨calls, responses, done⟩ := step_executed (b := b) fresh port
  refine ⟨congrArg RequestCache.lastRequest done.requestCache, ?_⟩
  rw [done.lastResponses, (hands.cached done.sent).1]
  exact hands.delivers

/-- What is kept answers the request when it is repeated, and stays. -/
theorem handlePacket_replays (replayable : m.Replayable) (duplicate : m.act.isDuplicate r = true)
    (same : m.act.sameRequest r = true) :
    (step b m (.handlePacket r port)).act.toRequestCache = m.act.toRequestCache ∧
      Delivers m (m.act.lastResponses.filter Packet.answers) (step b m (.handlePacket r port)) := by
  have valid : m.act.lastRequestValid = true := by
    simp only [RequestCache.isDuplicate, decide_eq_true_eq] at duplicate
    exact duplicate.1
  have handled : step b m (.handlePacket r port) = m.answerDuplicate b port r := by
    simp [step, Machine.handlePacket, duplicate]
  refine ⟨(step_repeated duplicate port).requestCache, ?_⟩
  rw [handled]
  exact answerDuplicate_delivers (replayable valid) same

end

/-! ## Main result -/

end Daft
