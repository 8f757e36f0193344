import Daft.Platform.Execution
import Daft.Platform.Writing
import Daft.Session.Responses

/-!
# The counters of a board

Whatever the decoder reports is booked once: a packet as a command or as a duplicate, a
frame that is no packet as an error; an error among the answers is booked as a rejection
and a packet that the port does not take as dropped. The counters are these books modulo
2³², and all but the last two are a function of the stream received.
-/

namespace Daft

open Logic Host

/-! ## What the stream owes -/

/-- The filter without the responses it keeps. -/
def RequestCache.bare (cache : RequestCache) : RequestCache := { cache with lastResponses := [] }

/-- The bare filter after a packet. -/
def RequestCache.remember (cache : RequestCache) (r : Packet) : RequestCache :=
  if cache.isDuplicate r then cache else ⟨true, r, []⟩

/-- How many of the packets are taken for repetitions of the last request and are none. -/
def RequestCache.mismatches : RequestCache → List Packet → Nat
  | _, [] => 0
  | cache, r :: later =>
    (if cache.isDuplicate r ∧ cache.sameRequest r = false then 1 else 0) +
      (cache.remember r).mismatches later

def FramingResult.isError : FramingResult → Bool
  | .FRAME_ERROR _ => true
  | _ => false

def FramingResult.isBadCrc : FramingResult → Bool
  | .FRAME_ERROR .ERR_BAD_CRC => true
  | _ => false

/-- The errors a handler answered with; a replay is sent past the caching writer. -/
def refusals (sent : List Transmission) : Nat := sent.countP fun t => t.cached && t.packet.isError

/-- The counters account for what was received, executed and sent. -/
structure Counters.Account (c : Counters) (received : List FramingResult) (executed : Nat)
    (sent : List Transmission) : Prop where
  commands : c.commandCount = UInt32.ofNat executed
  duplicates : c.commandCount + c.duplicatePackets =
    UInt32.ofNat (received.filterMap FramingResult.packet?).length
  errors : c.decodeErrors = UInt32.ofNat (received.countP FramingResult.isError)
  checksums : c.crcErrors = UInt32.ofNat (received.countP FramingResult.isBadCrc)
  rejected : c.rejectedCommands = UInt32.ofNat
    (refusals sent +
    RequestCache.mismatches {} (received.filterMap FramingResult.packet?))
  dropped : c.droppedPackets = UInt32.ofNat (untaken sent)

/-! ## Handlers -/

section

variable {c c' c'' : Counters} {b : MotionBackend} {m m' : Machine} {w : ResponseWriter}

/-- The same but for the dropped packets. -/
def Counters.Same (c c' : Counters) : Prop := ∃ dropped, c' = { c with droppedPackets := dropped }

theorem Counters.Same.refl (c : Counters) : c.Same c := ⟨c.droppedPackets, rfl⟩

/-- Only drops are counted, twice. -/
theorem Counters.Same.trans (first : c.Same c') (later : c'.Same c'') : c.Same c'' := by
  obtain ⟨_, rfl⟩ := first
  obtain ⟨dropped, rfl⟩ := later
  exact ⟨dropped, rfl⟩

/-- A response counts a drop at most. -/
theorem sendResponse_counters (m : Machine) (packet : Packet) :
    m.act.counters.Same (m.sendResponse w packet).act.counters := by
  unfold Machine.sendResponse
  rw [sendPacket_eq]
  dsimp only
  split
  · exact .refl _
  · exact ⟨_, rfl⟩

/-- An event counts a drop at most. -/
theorem sendEvent_counters (m : Machine) (seq : UInt16) (event : EventType)
    (severity : EventSeverity) (detail : UInt16) (value : UInt32) :
    m.act.counters.Same (m.sendEvent b w seq event severity detail value).act.counters := by
  have clock : (m.nowMs b).2.act.counters = m.act.counters := by rw [Machine.nowMs_eq]
  rw [← clock]
  exact sendResponse_counters ..

/-- A change of state counts a drop at most. -/
theorem transitionTo_counters (m : Machine) (state : ActuatorState)
    (events : Option ResponseWriter) :
    m.act.counters.Same (m.transitionTo b state events).act.counters := by
  unfold Machine.transitionTo
  split
  · exact .refl _
  · cases events with
    | none => exact .refl _
    | some w => exact sendEvent_counters ..

/-- A fault counts drops at most. -/
theorem setFault_counters (m : Machine) (flag : FaultFlag) (events : Option ResponseWriter) :
    m.act.counters.Same (m.setFault b flag events).act.counters := by
  have raised : m.act.counters.Same (m.raiseFault b flag events).act.counters := by
    unfold Machine.raiseFault
    cases events with
    | none => exact .refl _
    | some w =>
      dsimp only
      split
      · exact sendEvent_counters ..
      · exact .refl _
  unfold Machine.setFault
  dsimp only
  split
  · exact raised
  · exact raised.trans (transitionTo_counters ..)

/-- The counters with some more rejections. -/
def Counters.rejecting (c : Counters) (more : Nat) : Counters :=
  { c with rejectedCommands := c.rejectedCommands + UInt32.ofNat more }

theorem Counters.rejecting_zero (c : Counters) : c.rejecting 0 = c := by
  simp [Counters.rejecting]

/-- Rejections add up. -/
theorem Counters.rejecting_add (c : Counters) (n k : Nat) :
    (c.rejecting n).rejecting k = c.rejecting (n + k) := by
  simp [Counters.rejecting, UInt32.ofNat_add, UInt32.add_assoc]

theorem Counters.Same.rejecting (same : c.Same c') (n : Nat) :
    (c.rejecting n).Same (c'.rejecting n) := by
  obtain ⟨dropped, rfl⟩ := same
  exact ⟨dropped, rfl⟩

/-- An error counts as a rejection, and a drop at most. -/
theorem sendError_counters (m : Machine) (seq : UInt16) (rejected : UInt8) (code : ErrorCode) :
    (m.act.counters.rejecting 1).Same (m.sendError w seq rejected code).act.counters :=
  sendResponse_counters (m.mapCounters fun c =>
    { c with rejectedCommands := c.rejectedCommands + 1 }) (errorPacket seq rejected code)

/-- A walk counts the errors it answers with, and nothing else. -/
theorem Walk.counters {heard : Option Port} {replies : List Packet}
    (walk : Walk b heard m replies m') :
    (m.act.counters.rejecting (replies.countP Packet.isError)).Same m'.act.counters := by
  induction walk with
  | refl => exact Counters.rejecting_zero _ ▸ .refl _
  | quiet _ _ counters _ _ _ same => exact counters ▸ same
  | announce _ _ seq event severity detail value _ same => exact same.trans (sendEvent_counters ..)
  | moveTo _ state _ same => exact same.trans (transitionTo_counters ..)
  | fails _ flag _ same => exact same.trans (setFault_counters ..)
  | @respond replies _ _ _ packet _ _ _ _ accepts same =>
    have unerring : packet.isError = false := decide_eq_false accepts
    rw [List.countP_append, List.countP_singleton, if_neg (by simp [unerring]), Nat.add_zero]
    exact same.trans (sendResponse_counters ..)
  | @reject replies _ _ _ _ _ seq rejected code same =>
    have counted : (replies ++ [errorPacket seq rejected code]).countP Packet.isError =
        replies.countP Packet.isError + 1 := by
      rw [List.countP_append]
      rfl
    rw [counted, ← Counters.rejecting_add]
    exact (same.rejecting 1).trans (sendError_counters ..)

/-! ## What is sent -/

/-- The errors answered with are the replies that are errors. -/
theorem Hands.refusals {replies : List Packet} (hands : Hands m replies m') :
    refusals m'.sent = replies.countP Packet.isError + refusals m.sent := by
  obtain ⟨new, sent, filtered, cached, -⟩ := hands
  have among : ∀ t ∈ new, (t.cached && t.packet.isError) =
      (t.packet.isError && t.packet.answers) := by
    intro t member
    cases answers : t.packet.answers with
    | true => rw [cached t member answers, Bool.true_and, Bool.and_true]
    | false =>
      have event : t.packet.isError = false := by
        have id : t.packet.msgId = MsgId.EVENT.byte := by simpa [Packet.answers] using answers
        rw [Packet.isError, id]
        rfl
      simp [event]
  have counted : new.countP (fun t => t.cached && t.packet.isError) =
      replies.countP Packet.isError := by
    have backwards : replies.countP Packet.isError = replies.reverse.countP Packet.isError :=
      List.countP_reverse.symm
    rw [List.countP_congr fun t member => by rw [among t member], backwards, ← filtered,
      List.countP_filter, List.countP_map]
    rfl
  rw [Daft.refusals, Daft.refusals, sent, List.countP_append, counted]

/-- Nothing that passed without an answer was a refusal. -/
theorem refusals_of_passed {sent sent' : List Transmission} (passed : Passed sent [] sent') :
    refusals sent' = refusals sent := by
  obtain ⟨kept, adds, none⟩ := passed
  obtain ⟨new, rfl, filtered⟩ := adds.split
  obtain rfl : kept = [] := by simpa using none
  have uncached : new.countP (fun t => t.cached && t.packet.isError) = 0 := by
    rw [List.countP_eq_zero]
    intro t member
    simp [List.filter_eq_nil_iff.mp filtered t member]
  rw [refusals, List.countP_append, uncached, Nat.zero_add]
  rfl

end

/-! ## Duplicates -/

section

variable {b : MotionBackend} {m : Machine} {r : Packet} (port : Port)

/-- A replay counts drops at most. -/
theorem replay_counters (responses : List Packet) (m : Machine) :
    m.act.counters.Same
      (responses.foldl (fun m packet => m.sendResponse (.port port) packet) m).act.counters := by
  induction responses generalizing m with
  | nil => exact .refl _
  | cons packet responses ih => exact (sendResponse_counters m packet).trans (ih _)

/-- A duplicate is counted, and once more where it is refused. -/
theorem answerDuplicate_counters :
    (({ m.act.counters with
        duplicatePackets := m.act.counters.duplicatePackets + 1 } : Counters).rejecting
      (if m.act.sameRequest r then 0 else 1)).Same (m.answerDuplicate b port r).act.counters := by
  have heard : ((m.hearHost b).mapCounters fun c =>
        { c with duplicatePackets := c.duplicatePackets + 1 }).act.counters =
      { m.act.counters with duplicatePackets := m.act.counters.duplicatePackets + 1 } ∧
      ((m.hearHost b).mapCounters fun c =>
        { c with duplicatePackets := c.duplicatePackets + 1 }).act.sameRequest r =
          m.act.sameRequest r := by
    rw [Machine.hearHost, Machine.nowMs_eq]
    exact ⟨rfl, rfl⟩
  unfold Machine.answerDuplicate
  dsimp only
  generalize (m.hearHost b).mapCounters _ = heard' at *
  rw [← heard.1, ← heard.2]
  split
  · rw [Counters.rejecting_zero]
    exact replay_counters port _ _
  · exact sendError_counters ..

variable {port}

/-- A repeated request is answered past the cache. -/
theorem answerDuplicate_passed : Passed m.sent [] (m.answerDuplicate b port r).sent := by
  have heard : ((m.hearHost b).mapCounters fun c =>
      { c with duplicatePackets := c.duplicatePackets + 1 }).sent = m.sent := by
    rw [Machine.hearHost, Machine.nowMs_eq]
    rfl
  unfold Machine.answerDuplicate
  dsimp only
  rw [← heard]
  split
  · exact (replay_effect _ _).sent
  · exact (Effect.sendError _ (.port port) _ _ _).sent

end

/-- A frame error is counted, and a wrong checksum once more. -/
theorem recordFrameError_counters {b : MotionBackend} {m : Machine} (error : ErrorCode) :
    ({ m.act.counters with
        decodeErrors := m.act.counters.decodeErrors + 1
        crcErrors := m.act.counters.crcErrors + if error = .ERR_BAD_CRC then 1 else 0 } :
      Counters).Same (m.recordFrameError b error).act.counters := by
  unfold Machine.recordFrameError
  dsimp only
  split
  · exact setFault_counters ..
  · rw [UInt32.add_zero]
    split
    · exact setFault_counters ..
    · exact setFault_counters ..

/-! ## Steps -/

/-- The books between two machines, with what the decoder reported in between. -/
structure Books (m : Machine) (received : List FramingResult) (m' : Machine) : Prop where
  filter : m'.act.toRequestCache.bare =
    (received.filterMap FramingResult.packet?).foldl RequestCache.remember m.act.toRequestCache.bare
  commands : m'.act.counters.commandCount + UInt32.ofNat m.dispatched.length =
    m.act.counters.commandCount + UInt32.ofNat m'.dispatched.length
  duplicates : m'.act.counters.commandCount + m'.act.counters.duplicatePackets =
    m.act.counters.commandCount + m.act.counters.duplicatePackets +
      UInt32.ofNat (received.filterMap FramingResult.packet?).length
  errors : m'.act.counters.decodeErrors =
    m.act.counters.decodeErrors + UInt32.ofNat (received.countP FramingResult.isError)
  checksums : m'.act.counters.crcErrors =
    m.act.counters.crcErrors + UInt32.ofNat (received.countP FramingResult.isBadCrc)
  rejected : m'.act.counters.rejectedCommands + UInt32.ofNat (refusals m.sent) =
    m.act.counters.rejectedCommands + UInt32.ofNat (refusals m'.sent) +
      UInt32.ofNat (m.act.toRequestCache.bare.mismatches (received.filterMap FramingResult.packet?))

/-- The mismatches of a stream, with the filter carried along. -/
theorem RequestCache.mismatches_append (cache : RequestCache) (first later : List Packet) :
    cache.mismatches (first ++ later) =
      cache.mismatches first + (first.foldl remember cache).mismatches later := by
  induction first generalizing cache with
  | nil => simp [mismatches]
  | cons r first ih => simp [mismatches, ih, Nat.add_assoc]

namespace Books

variable {m m' m'' : Machine} {received received' : List FramingResult} {b : MotionBackend}

/-- The books of two stretches. -/
theorem trans (first : Books m received m') (later : Books m' received' m'') :
    Books m (received ++ received') m'' where
  filter := by rw [later.filter, first.filter, List.filterMap_append, List.foldl_append]
  commands := by grind [first.commands, later.commands]
  duplicates := by
    rw [later.duplicates, first.duplicates, List.filterMap_append, List.length_append,
      UInt32.ofNat_add, UInt32.add_assoc]
  errors := by
    rw [later.errors, first.errors, List.countP_append, UInt32.ofNat_add, UInt32.add_assoc]
  checksums := by
    rw [later.checksums, first.checksums, List.countP_append, UInt32.ofNat_add, UInt32.add_assoc]
  rejected := by
    have counted := later.rejected
    rw [first.filter] at counted
    rw [List.filterMap_append, RequestCache.mismatches_append, UInt32.ofNat_add]
    grind [first.rejected]

/-- Nothing was received, and nothing counted but packets that were dropped. -/
theorem quiet (cache : m'.act.toRequestCache = m.act.toRequestCache)
    (dispatched : m'.dispatched = m.dispatched) (refused : refusals m'.sent = refusals m.sent)
    (counters : m.act.counters.Same m'.act.counters) : Books m [] m' := by
  obtain ⟨dropped, counters⟩ := counters
  constructor
  · rw [cache]
    rfl
  · rw [counters, dispatched]
  · simp [counters]
  · simp [counters]
  · simp [counters]
  · rw [counters, refused]
    simp [RequestCache.mismatches]

/-- A fresh request is booked as a command and by its answer. -/
theorem executed {r : Packet} {port : Port} (fresh : m.act.isDuplicate r = false) :
    Books m [.PACKET r] (m.handlePacket b port r) := by
  obtain ⟨replies, after, walk, -, handled⟩ := handlePacket_walks b port fresh
  obtain ⟨calls, responses, done⟩ := @handlePacket_executed b port r m fresh
  have accepted : (m.acceptRequest b r).act.counters =
      { m.act.counters with commandCount := m.act.counters.commandCount + 1 } := by
    rw [Machine.acceptRequest_eq]
  have sent : (m.acceptRequest b r).sent = m.sent := by rw [Machine.acceptRequest_eq]
  have unheld : m.act.toRequestCache.bare.isDuplicate r = false := fresh
  obtain ⟨dropped, counters⟩ := walk.counters
  have refused := walk.hands.refusals
  rw [accepted] at counters
  rw [sent] at refused
  have counted : (m.handlePacket b port r).act.counters = after.act.counters := by
    rw [handled]
    rfl
  have transmitted : (m.handlePacket b port r).sent = after.sent := by
    rw [handled]
    rfl
  constructor
  · rw [done.requestCache]
    exact (if_neg (by simp [unheld])).symm
  · rw [counted, counters, done.dispatched]
    simp [Counters.rejecting, UInt32.ofNat_add]
    grind
  · rw [counted, counters]
    simp [Counters.rejecting, FramingResult.packet?]
    grind
  · simp [counted, counters, Counters.rejecting, FramingResult.isError]
  · simp [counted, counters, Counters.rejecting, FramingResult.isBadCrc]
  · rw [counted, counters, transmitted, refused]
    simp [Counters.rejecting, FramingResult.packet?, RequestCache.mismatches, unheld,
      UInt32.ofNat_add]
    grind

/-- A repetition is booked as a duplicate, and as rejected if it is none. -/
theorem repeated {r : Packet} {port : Port} (duplicate : m.act.isDuplicate r = true) :
    Books m [.PACKET r] (m.handlePacket b port r) := by
  have done : Repeated b m (m.handlePacket b port r) := handlePacket_repeated duplicate
  have held : m.act.toRequestCache.bare.isDuplicate r = true := duplicate
  have same : m.act.toRequestCache.bare.sameRequest r = m.act.sameRequest r := rfl
  have handled : m.handlePacket b port r = m.answerDuplicate b port r := by
    simp [Machine.handlePacket, duplicate]
  have refused : refusals (m.answerDuplicate b port r).sent = refusals m.sent :=
    refusals_of_passed answerDuplicate_passed
  obtain ⟨dropped, counters⟩ := answerDuplicate_counters (b := b) (m := m) (r := r) port
  constructor
  · rw [done.requestCache]
    exact (if_pos held).symm
  · rw [handled, counters, ← handled, done.dispatched]
    rfl
  · rw [handled, counters]
    simp [Counters.rejecting, FramingResult.packet?]
    grind
  · simp [handled, counters, Counters.rejecting, FramingResult.isError]
  · simp [handled, counters, Counters.rejecting, FramingResult.isBadCrc]
  · rw [handled, counters, refused]
    cases repeats : m.act.sameRequest r with
    | true => simp [Counters.rejecting, FramingResult.packet?, RequestCache.mismatches, same, repeats]
    | false =>
      simp [Counters.rejecting, FramingResult.packet?, RequestCache.mismatches, held, same, repeats]
      grind

/-- A frame error is booked as what the decoder reported. -/
theorem damaged (error : ErrorCode) : Books m [.FRAME_ERROR error] (m.recordFrameError b error) := by
  obtain ⟨flag, -, done⟩ := recordFrameError_effect (b := b) (m := m) error
  obtain ⟨dropped, counters⟩ := recordFrameError_counters (b := b) (m := m) error
  have refused : refusals (m.recordFrameError b error).sent = refusals m.sent :=
    refusals_of_passed done.sent
  have nothing : [FramingResult.FRAME_ERROR error].filterMap FramingResult.packet? = [] := rfl
  constructor
  · rw [done.requestCache]
    rfl
  · rw [counters, done.dispatched]
  · simp [counters, nothing]
  · simp [counters, FramingResult.isError]
  · rw [counters]
    cases error <;> simp [FramingResult.isBadCrc]
  · rw [counters, refused]
    simp [nothing, RequestCache.mismatches]

/-- A tick has nothing to book. -/
theorem ticked (port : Port) : Books m [] (m.update b (some port)) := by
  obtain ⟨h, calls, tick⟩ := step_ticked b m (some port)
  have walk : Walk b (some port) m [] (m.update b (some port)) := update_walks (some port)
  have refused := walk.hands.refusals
  have counters := walk.counters
  rw [List.countP_nil, Nat.zero_add] at refused
  rw [List.countP_nil, Counters.rejecting_zero] at counters
  exact quiet tick.requestCache tick.dispatched refused counters

theorem polled : Books m [] (m.shouldSendTelemetry b).2 := by
  have done := shouldSendTelemetry_effect b m
  refine quiet done.requestCache done.dispatched (refusals_of_passed done.sent) ?_
  unfold Machine.shouldSendTelemetry
  dsimp only
  split
  · exact .refl _
  · rw [Machine.nowMs_eq]
    exact .refl _

/-- Telemetry has nothing to book. -/
theorem reported (port : Port) (seq : UInt16) : Books m [] (m.sendTelemetry b port seq) := by
  have done := sendTelemetry_effect b m port seq
  refine quiet done.requestCache done.dispatched (refusals_of_passed done.sent) ?_
  have asked : ((((m.logicalCurrentPosition b).2.logicalTargetPosition b).2.logicalCurrentSpeed
      b).2.nowMs b).2.act.counters = m.act.counters := by
    have same : ∀ {α : Type} (m : Machine) (callback : Option (History → α)) (record : α → Call),
        (m.ask callback record).2.act.counters = m.act.counters := by
      intro α m callback record
      cases callback <;> rfl
    exact (same ..).trans ((same ..).trans ((same ..).trans (same ..)))
  have sent : m.act.counters.Same (m.sendStatus b (.port port) seq true).act.counters := by
    rw [← asked]
    exact sendResponse_counters ..
  unfold Machine.sendTelemetry Machine.markTelemetrySent
  rw [Machine.nowMs_eq]
  exact sent

/-- Whatever `loop` calls is booked. -/
theorem step {serial : SerialPort} {op : Op} (serviced : op.Serviced serial) :
    Books m op.received.toList (Daft.step b m op) := by
  cases serviced with
  | packet r =>
    cases duplicate : m.act.isDuplicate r with
    | true => exact repeated duplicate
    | false => exact executed duplicate
  | error error => exact damaged error
  | tick => exact ticked _
  | poll => exact polled
  | telemetry seq => exact reported _ seq

/-- The books of a run, by its entry points. -/
theorem run {serial : SerialPort} {ops : List Op} (serviced : ∀ op ∈ ops, op.Serviced serial) :
    Books m (ops.filterMap Op.received) (Logic.run (Daft.step b) m ops) := by
  induction ops generalizing m with
  | nil => exact quiet rfl rfl rfl (.refl _)
  | cons op ops ih =>
    obtain ⟨here, later⟩ := List.forall_mem_cons.mp serviced
    have booked := (step (b := b) (m := m) here).trans (ih later)
    cases received : op.received with
    | none => rwa [List.filterMap_cons_none received, ← List.nil_append (List.filterMap _ _),
        ← Option.toList_none, ← received]
    | some result => rwa [List.filterMap_cons_some received, ← List.singleton_append,
        ← Option.toList_some, ← received]

end Books

/-! ## Main result -/

/-- At any time the counters of a board account for the stream it received and for what
it sent, modulo 2³². A packet of the stream is executed, or counted as a duplicate; a
frame that is no packet is counted as an error, and once more where its checksum was
wrong; an error a handler answered with, or a packet that was not what the filter took it
for, is counted as rejected; a packet the port did not take is counted as dropped. -/
theorem board_accounts (b : MotionBackend) (serial : SerialPort) (build : BuildInfo)
    (passes : List (List UInt8)) :
    (Board.after b serial build passes).actuator.act.counters.Account
      (FramingDecoder.fresh.results passes.flatten)
      ((packetsIn passes.flatten).destutter Packet.Distinct).length
      (Board.after b serial build passes).actuator.sent := by
  obtain ⟨serviced, received, -⟩ :=
    (Board.setup b build).ops_serviced b serial passes
  obtain ⟨calls, done⟩ := step_begun b (.powerOn build) defaultConfig
  obtain ⟨silent, counters, -⟩ := Writes.begin_unspoken b (.powerOn build) defaultConfig
  obtain ⟨-, dropped⟩ := board_writes b serial build passes
  have executed := congrArg List.length (board_dispatches b serial build passes)
  rw [List.length_reverse, Board.after_actuator] at executed
  have books : Books (step b (.powerOn build) (.begin defaultConfig))
      ((FramingDecoder.fresh.results passes.flatten).filter (· ≠ .NONE))
      (.boot b build defaultConfig (Board.called b serial build passes)) :=
    received ▸ Books.run serviced
  have dispatched : (step b (.powerOn build) (.begin defaultConfig)).dispatched = [] :=
    done.dispatched
  have empty : (step b (.powerOn build) (.begin defaultConfig)).act.toRequestCache = {} :=
    done.requestCache
  have unsent : (step b (.powerOn build) (.begin defaultConfig)).sent = [] := silent
  have cleared : (step b (.powerOn build) (.begin defaultConfig)).act.counters = {} := counters
  rw [Board.after_actuator] at dropped ⊢
  rw [← executed]
  generalize step b (.powerOn build) (.begin defaultConfig) = start at *
  generalize Machine.boot b build defaultConfig _ = last at *
  have kept : ∀ {p : FramingResult → Bool}, p .NONE = false →
      ((FramingDecoder.fresh.results passes.flatten).filter (· ≠ .NONE)).countP p =
        (FramingDecoder.fresh.results passes.flatten).countP p := by
    intro p none
    rw [List.countP_filter]
    apply List.countP_congr
    intro result _
    cases result <;> simp [none]
  obtain ⟨-, commands, duplicates, errors, checksums, rejected⟩ := books
  rw [packets_filter] at duplicates rejected
  rw [kept rfl] at errors checksums
  rw [unsent] at rejected
  rw [empty] at rejected
  rw [dispatched] at commands
  rw [cleared] at commands duplicates errors checksums rejected
  constructor
  · simpa using commands
  · simpa using duplicates
  · simpa using errors
  · simpa using checksums
  · rw [UInt32.ofNat_add]
    simpa [refusals, RequestCache.bare] using rejected
  · exact dropped

end Daft
