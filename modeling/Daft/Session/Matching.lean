import Daft.Session.Conversation

/-!
# Calls and their answers

A call takes the answer to its own request and no other. Requests are handled in the
order of the calls, so whatever is still on the channel belongs to the latest ones; as
long as these are fewer than there are sequence numbers, an old answer does not carry
the number of the call in progress.
-/

namespace Daft

open Logic Host Host.Messages

/-- The outcome of a call that takes the answer `replies`: the truth of a `PONG` after the
acknowledgement, what the method parses, or the error. -/
inductive Fulfils (call : ClientCall) : List Packet → Outcome → Prop where
  | ponged {ack pong : Packet} (ping : call = .ping) (acked : ack.msgId = MsgId.ACK.byte)
      (ponged : pong.msgId = MsgId.PONG.byte) : Fulfils call [ack, pong] (.returned (.flag true))
  | parsed {method : Method} {packet : Packet} {value : Value} (of : call = .of method)
      (id : packet.msgId = method.expect.byte)
      (parsed : method.parse (Codec.received packet) = .ok value) :
      Fulfils call [packet] (.returned value)
  | refused {packet : Packet} {fields : DeviceError} (id : packet.msgId = MsgId.ERROR.byte)
      (parsed : parseError (Codec.received packet) = .ok fields) :
      Fulfils call [packet] (.raised (.deviceError fields))

/-! ## The answer to a call -/

/-- The packets of an answer not read yet, while an acknowledgement has been seen or not. -/
inductive Remains : List Packet → Bool → List Packet → Prop where
  | all (replies : List Packet) : Remains replies false replies
  | pong (ack pong : Packet) : Remains [ack, pong] true [pong]

/-- Where a call takes a packet of its answer: it has seen the acknowledgement, or it ends. -/
inductive Takes (pending : Pending) (replies : List Packet) (packet : Packet)
    (rest : List Packet) : Prop where
  | acked (remains : Remains replies true rest)
      (reads : ∀ inbox, pending.read inbox (Codec.received packet) =
        .next inbox { pending with sawAck := true })
  | returned {value : Value} (fulfils : Fulfils pending.call replies (.returned value))
      (reads : ∀ inbox, pending.read inbox (Codec.received packet) = .returned value)
  | raised {error : Raised} (fulfils : Fulfils pending.call replies (.raised error))
      (reads : ∀ inbox, pending.read inbox (Codec.received packet) = .raised error)

section

variable {pending : Pending} {request : Request} {n : ℕ} {replies rest : List Packet}
  {packet : Packet}

/-- A call in progress has not got its whole answer. -/
theorem Remains.ne_nil {r : Packet} {sawAck : Bool} (remains : Remains replies sawAck rest)
    (reply : Reply r replies) : rest ≠ [] := by
  cases remains with
  | all => cases reply <;> simp
  | pong => simp

/-- What is left of an answer is part of it. -/
theorem Remains.subset {sawAck : Bool} (remains : Remains replies sawAck rest) :
    ∀ packet ∈ rest, packet ∈ replies := by
  cases remains with
  | all => exact fun _ member => member
  | pong => exact fun _ member => List.mem_cons_of_mem _ member

/-- A call reads a packet of its own answer. -/
theorem Reply.takes (reply : Reply (request.packet (seqAt n)) replies)
    (writes : pending.call.request = some request) (number : pending.seq = seqAt n)
    (remains : Remains replies pending.sawAck (packet :: rest)) :
    Takes pending replies packet rest := by
  have msg : (request.packet (seqAt n)).msgId = pending.call.msg.byte :=
    ClientCall.request_msg writes
  have member : packet ∈ replies := remains.subset packet List.mem_cons_self
  have seq : (Codec.received packet).seq = pending.seq := by
    show packet.seq.toNat = _
    rw [(reply.numbered rfl packet member).seq, number]
    exact toNat_seqAt n
  have unflagged : (Codec.received packet).flags &&& telemetryFlag = 0 :=
    received_unflagged.mpr (reply.numbered rfl packet member).unflagged
  cases reply with
  | refused code =>
    generalize pending.sawAck = sawAck at remains
    cases remains with
    | all =>
      obtain ⟨fields, parsed, reads⟩ := pending.read_error seq rfl (received_sized rfl)
      exact .raised (.refused rfl parsed) reads
  | responded id expects responds =>
    rw [byte_toNat_inj.mp (congrArg UInt8.toNat (id.symm.trans msg))] at expects
    obtain ⟨method, call, rfl⟩ := ClientCall.expected expects
    generalize pending.sawAck = sawAck at remains
    cases remains with
    | all =>
      obtain ⟨value, parsed, reads⟩ := pending.read_response seq call
        (congrArg UInt8.toNat responds.msgId) unflagged (received_sized responds.payloadLen)
      exact .returned (.parsed call responds.msgId parsed) reads
  | ponged id responds =>
    have ping : pending.call = .ping :=
      ClientCall.eq_ping (byte_toNat_inj.mp (congrArg UInt8.toNat (msg.symm.trans id)))
    generalize sawAck_eq : pending.sawAck = sawAck at remains
    cases remains with
    | all => exact .acked (.pong _ _) (pending.read_ack seq ping rfl)
    | pong ack pong =>
      refine .returned (.ponged ping rfl responds.msgId) ?_
      rw [← sawAck_eq]
      exact pending.read_pong seq ping (congrArg UInt8.toNat responds.msgId)

end

/-! ## What a call makes of the packets it reads -/

/-- A packet leaves the call as it was: it is filed, or it is passed over. -/
inductive Leaves (pending : Pending) (packet : Codec.Packet) : Prop where
  | status {status : Status} (files : pending.Files packet)
      (parsed : parseStatus packet = .ok status)
      (reads : ∀ inbox, pending.read inbox packet =
        .next { inbox with telemetry := inbox.telemetry ++ [status] } pending)
  | event {event : Event} (id : packet.msgId = MsgId.EVENT.byte.toNat)
      (parsed : parseEvent packet = .ok event)
      (reads : ∀ inbox, pending.read inbox packet =
        .next { inbox with events := inbox.events ++ [event] } pending)
  | other (unfiled : ¬pending.Files packet) (answers : packet.msgId ≠ MsgId.EVENT.byte.toNat)
      (reads : ∀ inbox, pending.read inbox packet = .next inbox pending)

/-- The lists hold what was filed, in order and once. -/
structure Filed (inbox : Inbox) (reads : List Reading) : Prop where
  telemetry : inbox.telemetry.map Except.ok =
    (reads.filter fun r => r.pending.Files r.received).map fun r => parseStatus r.received
  events : inbox.events.map Except.ok =
    (reads.filter fun r => r.received.msgId = MsgId.EVENT.byte.toNat).map
      fun r => parseEvent r.received

section

variable {pending : Pending} {packet : Packet} {n : ℕ} {inbox : Inbox} {reads : List Reading}
  {reading : Reading}

/-- A packet that leaves a call as it was is passed over or filed. -/
theorem Leaves.passes {packet : Codec.Packet} (leaves : Leaves pending packet) :
    pending.Passes packet := by
  intro inbox
  cases leaves with
  | status _ _ reads => exact ⟨_, reads inbox⟩
  | event _ _ reads => exact ⟨_, reads inbox⟩
  | other _ _ reads => exact ⟨_, reads inbox⟩

/-- Noise leaves every call as it was. -/
theorem Packet.Noise.leaves (noise : packet.Noise) :
    Leaves pending (Codec.received packet) := by
  rcases noise with ⟨id, flagged, sized⟩ | ⟨id, sized⟩
  · have files : pending.Files (Codec.received packet) :=
      ⟨congrArg UInt8.toNat id, .inl (mt received_unflagged.mp flagged)⟩
    obtain ⟨status, parsed, reads⟩ := pending.read_filed files (received_sized sized)
    exact .status files parsed reads
  · have event : (Codec.received packet).msgId = MsgId.EVENT.byte.toNat := congrArg UInt8.toNat id
    obtain ⟨event', parsed, reads⟩ := pending.read_event event (received_sized sized)
    exact .event event parsed reads

/-- An answer is no event. -/
theorem Packet.Numbered.not_event (numbered : packet.Numbered n) :
    (Codec.received packet).msgId ≠ MsgId.EVENT.byte.toNat := by
  intro event
  have answers := numbered.answers
  simp [Packet.answers, UInt8.toNat_inj.mp event] at answers

/-- An answer to another call is passed over, unless `ping` files it. -/
theorem Packet.Numbered.leaves (numbered : packet.Numbered n) (other : seqAt n ≠ pending.seq) :
    Leaves pending (Codec.received packet) := by
  have seq : (Codec.received packet).seq ≠ pending.seq := by
    show packet.seq.toNat ≠ _
    rw [numbered.seq, toNat_seqAt]
    exact other
  by_cases files : pending.Files (Codec.received packet)
  · have sized := received_sized (numbered.status (UInt8.toNat_inj.mp files.1))
    obtain ⟨status, parsed, reads⟩ := pending.read_filed files sized
    exact .status files parsed reads
  · exact .other files numbered.not_event (pending.read_other files numbered.not_event seq)

/-- The answer to a call is not filed by it. -/
theorem Packet.Numbered.unfiled (numbered : packet.Numbered n) (own : pending.seq = seqAt n) :
    ¬pending.Files (Codec.received packet) := by
  rintro ⟨-, flagged | ⟨-, other⟩⟩
  · exact flagged (received_unflagged.mpr numbered.unflagged)
  · apply other
    show packet.seq.toNat = _
    rw [numbered.seq, toNat_seqAt, own]

/-- A packet that is no file leaves the lists. -/
theorem Filed.skips (filed : Filed inbox reads) (unfiled : ¬reading.pending.Files reading.received)
    (answers : reading.received.msgId ≠ MsgId.EVENT.byte.toNat) :
    Filed inbox (reads ++ [reading]) := by
  constructor
  · rw [filed.telemetry]
    simp [unfiled]
  · rw [filed.events]
    simp [answers]

theorem Filed.leaves {inbox' : Inbox} {pending' : Pending} (filed : Filed inbox reads)
    (reading : Reading) (leaves : Leaves reading.pending reading.received)
    (reads' : reading.pending.read inbox reading.received = .next inbox' pending') :
    Filed inbox' (reads ++ [reading]) := by
  cases leaves with
  | @status status files parsed effect =>
    obtain ⟨rfl, rfl⟩ := Round.next.inj ((effect inbox).symm.trans reads')
    have id : reading.received.msgId ≠ MsgId.EVENT.byte.toNat := by
      rw [files.1]
      simp [byte_toNat_inj]
    constructor
    · rw [List.map_append, filed.telemetry]
      simp [files, parsed]
    · rw [filed.events]
      simp [id]
  | @event event id parsed effect =>
    obtain ⟨rfl, rfl⟩ := Round.next.inj ((effect inbox).symm.trans reads')
    have unfiled : ¬reading.pending.Files reading.received := by
      rintro ⟨status, -⟩
      rw [id] at status
      cases byte_toNat_inj.mp status
    constructor
    · rw [filed.telemetry]
      simp [unfiled]
    · rw [List.map_append, filed.events]
      simp [id, parsed]
  | other unfiled answers effect =>
    obtain ⟨rfl, rfl⟩ := Round.next.inj ((effect inbox).symm.trans reads')
    exact filed.skips unfiled answers

end

end Daft
