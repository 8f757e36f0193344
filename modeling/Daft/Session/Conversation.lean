import Daft.Logic.Contiguous
import Daft.Session.Reading

/-!
# A client and the actuator

One `DaftClient` session on a channel that loses nothing and keeps its order. Calls
are numbered from 0; the packets of an answer carry the number of their call in the
model, which the client does not see. A call may give up at any time, and what it was
sent stays on the channel: it comes late, in its place or anywhere.
-/

namespace Daft

open Logic Host Host.Messages

/-- How a call ends. -/
inductive Outcome where
  | returned (value : Value)
  | raised (error : Raised)
  deriving DecidableEq

/-- Where the late answers to calls that timed out come: in order, before the answers to later
calls, or anywhere among these. -/
inductive Late where
  | inOrder
  | anywhere

/-- A packet that was read: by which call, what it answers, and the call before. -/
structure Reading where
  number : ℕ
  answered : Option ℕ
  pending : Pending
  packet : Packet

def Reading.received (reading : Reading) : Codec.Packet := Codec.received reading.packet

/-- The two parties and the channels between them, oldest first. -/
structure System where
  machine : Machine
  client : DaftClient := {}
  inbox : Inbox := {}
  /-- The call in progress. -/
  current : Option (ℕ × Pending) := none
  calls : List ClientCall := []
  /-- Requests on their way, with the number of their call. -/
  up : List (ℕ × Packet) := []
  /-- Packets on their way to the client, with the number of the call they answer. -/
  down : List (Option ℕ × Packet) := []
  /-- What the actuator has sent for each call. -/
  answers : List (ℕ × List Packet) := []
  finished : List (ℕ × Outcome) := []
  reads : List Reading := []

/-- The packets handed over from one machine to the other, oldest first. -/
def newPackets (m m' : Machine) : List Packet :=
  ((m'.sent.take (m'.sent.length - m.sent.length)).map (·.packet)).reverse

/-- An answer gets the number of the call that is served. -/
def tag (answered : Option ℕ) (packets : List Packet) : List (Option ℕ × Packet) :=
  packets.map fun packet => (if packet.answers then answered else none, packet)

namespace System

/-- The numbers of the calls that still have a packet on the channel. -/
def due (s : System) : List ℕ := s.down.filterMap Prod.fst ++ s.up.map Prod.fst

/-- Fewer than 65535 earlier calls may still be answered. In order these are the calls due;
anywhere they are counted from the earliest call due on. -/
def Few (s : System) : Late → Prop
  | .inOrder => s.due.toFinset.card < 65535
  | .anywhere => ∀ n ∈ s.due, s.calls.length < n + 65535

/-- A method is called: it takes the next number and writes its request. -/
def issue (s : System) (call : ClientCall) (request : Request) : System :=
  let (seq, client) := s.client.seq
  { s with
    client
    calls := s.calls ++ [call]
    up := s.up ++ [(s.calls.length, request.packet seq)]
    current := some (s.calls.length, { call, seq }) }

/-- The machine moves on, and what it hands over is on the channel. -/
def moves (s : System) (m : Machine) (answered : Option ℕ) : System :=
  { s with machine := m, down := s.down ++ tag answered (newPackets s.machine m) }

/-- A request arrives. -/
def handle (b : MotionBackend) (s : System) (n : ℕ) (r : Packet) (up : List (ℕ × Packet)) : System :=
  let m := s.machine.handlePacket b openPort r
  { s.moves m (some n) with
    up
    answers := s.answers ++ [(n, (newPackets s.machine m).filter Packet.answers)] }

/-- The call in progress ends. -/
def finish (s : System) (n : ℕ) (outcome : Outcome) : System :=
  { s with current := none, finished := s.finished ++ [(n, outcome)] }

/-- A packet leaves the channel. -/
def take (s : System) (reading : Reading) (inbox : Inbox) (down : List (Option ℕ × Packet)) : System :=
  { s with inbox, down, reads := s.reads ++ [reading] }

/-- The call in progress reads a packet. -/
def read (s : System) (reading : Reading) (down : List (Option ℕ × Packet)) : System :=
  match reading.pending.read s.inbox reading.received with
  | .next inbox pending =>
    { s.take reading inbox down with current := some (reading.number, pending) }
  | .returned value => (s.take reading s.inbox down).finish reading.number (.returned value)
  | .raised error => (s.take reading s.inbox down).finish reading.number (.raised error)

/-- One step of either party. Telemetry and events come from the steps of the actuator's
own, and may appear anywhere besides. -/
inductive Step (b : MotionBackend) (late : Late) (s : System) : System → Prop where
  | call (call : ClientCall) (request : Request) (idle : s.current = none)
      (writes : call.request = some request) (few : s.Few late) : Step b late s (s.issue call request)
  | handle {n : ℕ} {r : Packet} {up : List (ℕ × Packet)} (arrives : s.up = (n, r) :: up) :
      Step b late s (s.handle b n r up)
  | own {op : Op} (own : ∀ r port, op ≠ .handlePacket r port) :
      Step b late s (s.moves (step b s.machine op) none)
  | insert {before after : List (Option ℕ × Packet)} {packet : Packet} (noise : packet.Noise)
      (anywhere : s.down = before ++ after) :
      Step b late s { s with down := before ++ (none, packet) :: after }
  | delay {n : ℕ} {packet : Packet} {before between after : List (Option ℕ × Packet)}
      (anywhere : late = .anywhere) (ended : ∀ pending, s.current ≠ some (n, pending))
      (waits : s.down = before ++ (some n, packet) :: (between ++ after)) :
      Step b late s { s with down := before ++ (between ++ (some n, packet) :: after) }
  | read {n : ℕ} {pending : Pending} {answered : Option ℕ} {packet : Packet}
      {down : List (Option ℕ × Packet)} (waits : s.current = some (n, pending))
      (arrives : s.down = (answered, packet) :: down) :
      Step b late s (s.read ⟨n, answered, pending, packet⟩ down)
  | timeout {n : ℕ} {pending : Pending} (waits : s.current = some (n, pending)) :
      Step b late s (s.finish n (.raised .timeoutError))

/-- The start of a session. -/
def start (m : Machine) : System := { machine := m }

end System

/-! ## The order of calls -/

/-- Requests are handled in order, and the calls with packets left are the latest. -/
structure System.Ordered (s : System) (late : Late) : Prop where
  handled : s.answers.map Prod.fst ++ s.up.map Prod.fst = List.range s.calls.length
  tagged : ∀ n ∈ s.down.filterMap Prod.fst, n ∈ s.answers.map Prod.fst
  contiguous : late = .inOrder → Contiguous (s.due ++ [s.calls.length])
  near : ∀ n ∈ s.due, s.calls.length ≤ n + 65535

section

variable {s : System} {late : Late} {n : ℕ}

/-- What is due belongs to a call that was made. -/
theorem System.Ordered.lt (ordered : s.Ordered late) (member : n ∈ s.due) : n < s.calls.length := by
  apply List.mem_range.mp
  rw [← ordered.handled]
  rcases List.mem_append.mp member with down | up
  · exact List.mem_append_left _ (ordered.tagged n down)
  · exact List.mem_append_right _ up

/-- Whatever is still due is among the latest calls. -/
theorem System.Ordered.recent (ordered : s.Ordered late) (few : s.Few late) (due : n ∈ s.due) :
    s.calls.length < n + 65535 := by
  cases late with
  | anywhere => exact few n due
  | inOrder =>
    have member : n ∈ s.due ++ [s.calls.length] := List.mem_append_left _ due
    have last : s.calls.length ∈ (s.due ++ [s.calls.length]).getLast? := by simp
    have close := (ordered.contiguous rfl).last_lt member last
    have bound : (s.due ++ [s.calls.length]).toFinset.card ≤ s.due.toFinset.card + 1 := by
      rw [List.toFinset_append]
      exact Finset.card_union_le ..
    have count : s.due.toFinset.card < 65535 := few
    omega

/-- A new call comes after all that are due. -/
theorem System.Ordered.issue (ordered : s.Ordered late) (few : s.Few late) (call : ClientCall)
    (request : Request) : (s.issue call request).Ordered late := by
  have dues : (s.issue call request).due = s.due ++ [s.calls.length] := by
    simp [System.issue, System.due]
  have count : (s.issue call request).calls.length = s.calls.length + 1 := by
    simp [System.issue]
  constructor
  · rw [count, List.range_succ, ← ordered.handled]
    simp [System.issue]
  · exact ordered.tagged
  · intro inOrder
    rw [dues, count]
    apply (ordered.contiguous inOrder).concat
    intro z last
    obtain rfl : s.calls.length = z := by simpa using last
    exact .inr rfl
  · rw [dues, count]
    intro n member
    rcases List.mem_append.mp member with earlier | new
    · have close := ordered.recent few earlier
      omega
    · have latest := List.mem_singleton.mp new
      omega

/-- The order depends on the numbers alone. -/
theorem System.Ordered.of_same {s' : System} (ordered : s.Ordered late) (calls : s'.calls = s.calls)
    (answers : s'.answers = s.answers) (up : s'.up = s.up)
    (down : s'.down.filterMap Prod.fst = s.down.filterMap Prod.fst) : s'.Ordered late := by
  have dues : s'.due = s.due := by rw [System.due, System.due, down, up]
  constructor
  · rw [answers, up, calls]
    exact ordered.handled
  · rw [down, answers]
    exact ordered.tagged
  · rw [dues, calls]
    exact ordered.contiguous
  · rw [dues, calls]
    exact ordered.near

/-- Packets change places. -/
theorem System.Ordered.delay {down : List (Option ℕ × Packet)} (ordered : s.Ordered .anywhere)
    (moved : down.Perm s.down) : { s with down : System }.Ordered .anywhere := by
  have numbers : (down.filterMap Prod.fst).Perm (s.down.filterMap Prod.fst) :=
    moved.filterMap Prod.fst
  refine ⟨ordered.handled, ?_, fun inOrder => absurd inOrder (by simp), ?_⟩
  · intro n member
    exact ordered.tagged n (numbers.subset member)
  · intro n member
    exact ordered.near n ((numbers.append_right _).subset member)

/-- A request is handled, and its number is on the packets of its answer. -/
theorem System.Ordered.handle {s' : System} {r : Packet} {up : List (ℕ × Packet)}
    {numbers : List ℕ} (ordered : s.Ordered late) (arrives : s.up = (n, r) :: up)
    (calls : s'.calls = s.calls) (answers : s'.answers.map Prod.fst = s.answers.map Prod.fst ++ [n])
    (left : s'.up = up)
    (down : s'.down.filterMap Prod.fst = s.down.filterMap Prod.fst ++ numbers)
    (numbered : numbers = [n] ∨ numbers = [n, n]) : s'.Ordered late := by
  have before : s.due = s.down.filterMap Prod.fst ++ n :: up.map Prod.fst := by
    rw [System.due, arrives, List.map_cons]
  have after : s'.due = s.down.filterMap Prod.fst ++ (numbers ++ up.map Prod.fst) := by
    rw [System.due, down, left, List.append_assoc]
  have alike : ∀ k ∈ numbers, k = n := by
    rcases numbered with rfl | rfl <;> simp
  constructor
  · rw [answers, left, calls, ← ordered.handled, arrives]
    simp
  · rw [down, answers]
    intro k member
    rcases List.mem_append.mp member with earlier | new
    · exact List.mem_append_left _ (ordered.tagged k earlier)
    · exact List.mem_append_right _ (List.mem_singleton.mpr (alike k new))
  · intro inOrder
    have contiguous := ordered.contiguous inOrder
    rw [before, List.append_assoc, List.cons_append] at contiguous
    rw [after, calls, List.append_assoc, List.append_assoc]
    rcases numbered with rfl | rfl
    · exact contiguous
    · exact contiguous.repeated
  · rw [after, calls]
    intro k member
    apply ordered.near
    rw [before]
    rcases List.mem_append.mp member with earlier | later
    · exact List.mem_append_left _ earlier
    · rcases List.mem_append.mp later with new | waiting
      · exact List.mem_append_right _ (alike k new ▸ List.mem_cons_self)
      · exact List.mem_append_right _ (List.mem_cons_of_mem _ waiting)

/-- A packet leaves the channel. -/
theorem System.Ordered.read {s' : System} {answered : Option ℕ} {packet : Packet}
    {down : List (Option ℕ × Packet)} (ordered : s.Ordered late)
    (arrives : s.down = (answered, packet) :: down) (calls : s'.calls = s.calls)
    (answers : s'.answers = s.answers) (up : s'.up = s.up) (left : s'.down = down) :
    s'.Ordered late := by
  cases answered with
  | none => exact ordered.of_same calls answers up (by rw [left, arrives]; rfl)
  | some k =>
    have numbers : s.down.filterMap Prod.fst = k :: s'.down.filterMap Prod.fst := by
      rw [arrives, left]
      rfl
    have dues : s.due = k :: s'.due := by
      rw [System.due, System.due, numbers, up, List.cons_append]
    constructor
    · rw [answers, up, calls]
      exact ordered.handled
    · rw [answers]
      intro n member
      apply ordered.tagged
      rw [numbers]
      exact List.mem_cons_of_mem _ member
    · intro inOrder
      have contiguous := ordered.contiguous inOrder
      rw [dues] at contiguous
      rw [calls]
      exact contiguous.tail
    · rw [calls]
      intro n member
      apply ordered.near
      rw [dues]
      exact List.mem_cons_of_mem _ member

end

/-! ## Packets on the channel -/

section

variable {m m' : Machine} {n k : ℕ} {answered : Option ℕ} {packets : List Packet}

/-- The packets of a step, oldest first. -/
theorem newPackets_eq {new : List Transmission} (sent : m'.sent = new ++ m.sent) :
    newPackets m m' = (new.map (·.packet)).reverse := by
  simp [newPackets, sent]

/-- What a step puts on the channel are its answers, and noise. -/
theorem Delivers.newPackets {replies : List Packet} (delivers : Delivers m replies m') :
    (newPackets m m').filter Packet.answers = replies ∧
      ∀ packet ∈ newPackets m m', packet.answers = false → packet.Noise := by
  obtain ⟨new, sent, filtered, events⟩ := delivers
  rw [newPackets_eq sent]
  constructor
  · rw [List.filter_reverse, filtered, List.reverse_reverse]
  · intro packet member event
    obtain ⟨t, inside, rfl⟩ := List.mem_map.mp (List.mem_reverse.mp member)
    exact .inr ⟨by simpa [Packet.answers] using event, events t inside event⟩

theorem tag_numbers : (tag (some n) packets).filterMap Prod.fst =
    (packets.filter Packet.answers).map fun _ => n := by
  induction packets with
  | nil => rfl
  | cons packet packets ih =>
    unfold tag at ih ⊢
    cases answers : packet.answers <;> simp [answers, ih]

/-- Noise belongs to no call. -/
theorem tag_none : (tag none packets).filterMap Prod.fst = [] := by
  simp [tag]

/-- The packets that answer one call. -/
def answerOf (n : ℕ) (down : List (Option ℕ × Packet)) : List Packet :=
  (down.filter fun entry => entry.1 = some n).map Prod.snd

/-- The answer of a call, in two stretches of the channel. -/
@[simp] theorem answerOf_append (before after : List (Option ℕ × Packet)) :
    answerOf n (before ++ after) = answerOf n before ++ answerOf n after := by
  simp [answerOf]

/-- A packet of the call itself. -/
theorem answerOf_own (packet : Packet) (down : List (Option ℕ × Packet)) :
    answerOf n ((some n, packet) :: down) = packet :: answerOf n down := by
  simp [answerOf]

/-- A packet of another call. -/
theorem answerOf_other (other : answered ≠ some n) (packet : Packet)
    (down : List (Option ℕ × Packet)) :
    answerOf n ((answered, packet) :: down) = answerOf n down := by
  simp [answerOf, other]

/-- What was tagged for a call are its answers. -/
theorem answerOf_tag : answerOf n (tag (some n) packets) = packets.filter Packet.answers := by
  induction packets with
  | nil => rfl
  | cons packet packets ih =>
    unfold answerOf tag at ih ⊢
    cases answers : packet.answers <;> simp_all

theorem answerOf_tag_other (other : answered ≠ some n) : answerOf n (tag answered packets) = [] := by
  have absent : ∀ entry ∈ tag answered packets, ¬decide (entry.1 = some n) = true := by
    intro entry member
    obtain ⟨packet, -, rfl⟩ := List.mem_map.mp member
    dsimp only
    split <;> simp [other]
  rw [answerOf, List.filter_eq_nil_iff.mpr absent, List.map_nil]

/-- A call is numbered on the channel while some of its answer is. -/
theorem mem_numbers {down : List (Option ℕ × Packet)} :
    n ∈ down.filterMap Prod.fst ↔ answerOf n down ≠ [] := by
  simp [answerOf, List.filter_eq_nil_iff]

/-- A packet that answers the call with the number. -/
structure Packet.Numbered (n : ℕ) (packet : Packet) : Prop where
  seq : packet.seq = UInt16.ofNat (seqAt n)
  answers : packet.answers = true
  unflagged : packet.flags &&& PacketFlag.TELEMETRY.bits = 0
  status : packet.msgId = MsgId.STATUS.byte → packet.payloadLen = MsgId.STATUS.responseLength

/-- What the channel carries to the client. -/
def Packet.Carried (packet : Packet) : Option ℕ → Prop
  | none => packet.Noise
  | some n => packet.Numbered n

/-- Everything tagged is an answer of its call or noise. -/
theorem tag_carried (answers : ∀ packet ∈ packets, packet.answers = true → packet.Carried answered)
    (events : ∀ packet ∈ packets, packet.answers = false → packet.Noise) :
    ∀ entry ∈ tag answered packets, entry.2.Carried entry.1 := by
  intro entry member
  obtain ⟨packet, inside, rfl⟩ := List.mem_map.mp member
  cases kind : packet.answers with
  | true =>
    rw [if_pos rfl]
    exact answers packet inside kind
  | false =>
    rw [if_neg Bool.false_ne_true]
    exact events packet inside kind

/-- A response has the number of its request. -/
theorem Packet.Responds.numbered {r packet : Packet} {response : MsgId}
    (responds : r.Responds response packet) (seq : r.seq = UInt16.ofNat (seqAt n))
    (answers : response ≠ .EVENT) : packet.Numbered n := by
  constructor
  · exact responds.seq.trans seq
  · have other : response.byte ≠ MsgId.EVENT.byte :=
      fun same => answers (byte_toNat_inj.mp (congrArg UInt8.toNat same))
    rw [Packet.answers, responds.msgId]
    exact decide_eq_true other
  · rw [responds.flags]
    decide
  · intro id
    rw [responds.msgId] at id
    rw [responds.payloadLen, byte_toNat_inj.mp (congrArg UInt8.toNat id)]

theorem MsgId.response_ne_event {msg response : MsgId} (expects : msg.response = some response) :
    response ≠ .EVENT := by
  rintro rfl
  cases msg <;> cases expects

/-- Every packet of an answer has the number of its request. -/
theorem Reply.numbered {r : Packet} {replies : List Packet} (reply : Reply r replies)
    (seq : r.seq = UInt16.ofNat (seqAt n)) : ∀ packet ∈ replies, packet.Numbered n := by
  intro packet member
  cases reply with
  | refused code =>
    rw [List.mem_singleton.mp member]
    have unflagged : (PacketFlag.RESPONSE.bits ||| PacketFlag.ERROR.bits) &&&
        PacketFlag.TELEMETRY.bits = 0 := by decide
    have notStatus : MsgId.ERROR.byte ≠ MsgId.STATUS.byte := by decide
    exact ⟨seq, rfl, unflagged, fun id => absurd id notStatus⟩
  | responded id expects responds =>
    rw [List.mem_singleton.mp member]
    exact responds.numbered seq (MsgId.response_ne_event expects)
  | ponged id responds =>
    have acked : r.Responds .ACK (ackPacket r.seq r.msgId) := ⟨rfl, rfl, rfl, rfl⟩
    rcases List.mem_cons.mp member with rfl | member
    · exact acked.numbered seq (by simp)
    · rw [List.mem_singleton.mp member]
      exact responds.numbered seq (by simp)

end

end Daft
