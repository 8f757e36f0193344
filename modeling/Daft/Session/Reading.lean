import Daft.Host.Parsers
import Daft.Host.Session
import Daft.Session.Delivery

/-!
# What a call makes of a packet

Every parser accepts a payload of the length its message has, so each packet the
firmware sends takes the loops of `request` and `ping` to one of their intended
ends: filed, skipped, or the end of the call.
-/

namespace Daft.Host

open Messages

/-- The packets filed in `telemetry`: those flagged, and in `ping` a status with another
number. -/
def Pending.Files (pending : Pending) (packet : Codec.Packet) : Prop :=
  packet.msgId = MsgId.STATUS.byte.toNat ∧
    (packet.flags &&& telemetryFlag ≠ 0 ∨ pending.call = .ping ∧ packet.seq ≠ pending.seq)

instance (pending : Pending) (packet : Codec.Packet) : Decidable (pending.Files packet) :=
  inferInstanceAs (Decidable (_ ∧ _))

/-- Whatever the inbox, a call that reads the packet goes on as it was. -/
def Pending.Passes (pending : Pending) (packet : Codec.Packet) : Prop :=
  ∀ inbox, ∃ inbox', pending.read inbox packet = .next inbox' pending

/-- A message id is its number. -/
theorem byte_toNat_inj {msg msg' : MsgId} : msg.byte.toNat = msg'.byte.toNat ↔ msg = msg' := by
  constructor
  · intro same
    have found := congrArg MsgId.ofByte (UInt8.toNat_inj.mp same)
    rw [MsgId.ofByte_byte, MsgId.ofByte_byte] at found
    exact Option.some.inj found
  · rintro rfl
    rfl

/-- A method waits for the response its request has. -/
theorem Method.expects (method : Method) : method.msg.response = some method.expect := by
  cases method <;> rfl

/-- Only a method has a response, and it is the one expected. -/
theorem ClientCall.expected {call : ClientCall} {response : MsgId}
    (expects : call.msg.response = some response) :
    ∃ method, call = .of method ∧ method.expect = response := by
  cases call with
  | ping => cases expects
  | of method => exact ⟨method, rfl, Option.some.inj (method.expects.symm.trans expects)⟩

/-- Only `ping` asks for `PING`. -/
theorem ClientCall.eq_ping {call : ClientCall} (pinged : call.msg = .PING) : call = .ping := by
  cases call with
  | ping => rfl
  | of method => cases method <;> cases pinged

/-! ## Parsers -/

section

variable {packet : Codec.Packet}

/-- A parser that checks a length accepts every payload of it. -/
theorem requireLen_accepts {α : Type} {length : ℕ} {name : String} {rest : Unit → Except String α}
    {fields : α} (sized : packet.payload.length = length) (reads : rest () = .ok fields) :
    ∃ value, (requireLen packet length name >>= rest) = .ok value := by
  rw [requireLen_of name sized]
  exact ⟨fields, reads⟩

/-- A status of its length is parsed. -/
theorem parseStatus_accepts (sized : packet.payload.length = MsgId.STATUS.responseLength.toNat) :
    ∃ status, parseStatus packet = .ok status :=
  requireLen_accepts sized rfl

/-- An event of its length is parsed. -/
theorem parseEvent_accepts (sized : packet.payload.length = MsgId.EVENT.responseLength.toNat) :
    ∃ event, parseEvent packet = .ok event :=
  requireLen_accepts sized rfl

/-- An error of its length is parsed. -/
theorem parseError_accepts (sized : packet.payload.length = MsgId.ERROR.responseLength.toNat) :
    ∃ fields, parseError packet = .ok fields :=
  requireLen_accepts sized rfl

/-- An identity of its length is parsed, whatever its texts. -/
theorem parseIdentity_accepts
    (sized : packet.payload.length = MsgId.IDENTITY.responseLength.toNat) :
    ∃ identity, parseIdentity packet = .ok identity := by
  have length : packet.payload.length = 64 := sized
  unfold parseIdentity
  simp only [length]
  exact ⟨_, rfl⟩

/-- A method parses what it expects. -/
theorem Method.parse_accepts {method : Method}
    (sized : packet.payload.length = method.expect.responseLength.toNat) :
    ∃ value, method.parse packet = .ok value := by
  have wrapped {α : Type} {parsed : Except String α} (wrap : α → Value)
      (accepts : ∃ fields, parsed = .ok fields) : ∃ value, parsed.map wrap = .ok value := by
    obtain ⟨fields, rfl⟩ := accepts
    exact ⟨wrap fields, rfl⟩
  cases method with
  | identity => exact wrapped _ (parseIdentity_accepts sized)
  | _ => exact wrapped _ (requireLen_accepts sized rfl)

/-! ## One packet -/

variable {pending : Pending}

/-- A status that is filed is parsed, and the call goes on. -/
theorem Pending.read_filed (files : pending.Files packet)
    (sized : packet.payload.length = MsgId.STATUS.responseLength.toNat) :
    ∃ status, parseStatus packet = .ok status ∧ ∀ inbox, pending.read inbox packet =
      .next { inbox with telemetry := inbox.telemetry ++ [status] } pending := by
  obtain ⟨status, parsed⟩ := parseStatus_accepts sized
  refine ⟨status, parsed, ?_⟩
  intro inbox
  obtain ⟨call, number, sawAck⟩ := pending
  obtain ⟨id, flagged | ⟨ping, other⟩⟩ := files
  · cases call <;> simp [read, requestRound, pingRound, Round.telemetry, id, flagged, parsed]
  · obtain rfl : call = .ping := ping
    by_cases flagged : packet.flags &&& telemetryFlag = 0 <;>
      simp_all [read, pingRound, Round.telemetry, byte_toNat_inj]

/-- An event is filed, and the call goes on. -/
theorem Pending.read_event (id : packet.msgId = MsgId.EVENT.byte.toNat)
    (sized : packet.payload.length = MsgId.EVENT.responseLength.toNat) :
    ∃ event, parseEvent packet = .ok event ∧ ∀ inbox, pending.read inbox packet =
      .next { inbox with events := inbox.events ++ [event] } pending := by
  obtain ⟨event, parsed⟩ := parseEvent_accepts sized
  refine ⟨event, parsed, ?_⟩
  intro inbox
  obtain ⟨call, number, sawAck⟩ := pending
  cases call <;> simp [read, requestRound, pingRound, Round.event, id, parsed, byte_toNat_inj]

/-- An answer to another call is passed over. -/
theorem Pending.read_other (unfiled : ¬pending.Files packet)
    (answers : packet.msgId ≠ MsgId.EVENT.byte.toNat) (other : packet.seq ≠ pending.seq)
    (inbox : Inbox) : pending.read inbox packet = .next inbox pending := by
  obtain ⟨call, number, sawAck⟩ := pending
  cases call with
  | ping =>
    have notStatus : packet.msgId ≠ MsgId.STATUS.byte.toNat :=
      fun id => unfiled ⟨id, .inr ⟨rfl, other⟩⟩
    simp_all [read, pingRound]
  | of method =>
    have unflagged : ¬(packet.msgId = MsgId.STATUS.byte.toNat ∧
        packet.flags &&& telemetryFlag ≠ 0) :=
      fun ⟨id, flagged⟩ => unfiled ⟨id, .inl flagged⟩
    simp only [read, requestRound, if_neg unflagged, if_neg answers, if_pos other]

variable (seq : packet.seq = pending.seq)

include seq

/-- An error with the number of the call ends it. -/
theorem Pending.read_error (id : packet.msgId = MsgId.ERROR.byte.toNat)
    (sized : packet.payload.length = MsgId.ERROR.responseLength.toNat) :
    ∃ fields, parseError packet = .ok fields ∧
      ∀ inbox, pending.read inbox packet = .raised (.deviceError fields) := by
  obtain ⟨fields, parsed⟩ := parseError_accepts sized
  refine ⟨fields, parsed, ?_⟩
  intro inbox
  obtain ⟨call, number, sawAck⟩ := pending
  cases call <;>
    simp [read, requestRound, pingRound, Round.deviceError, id, seq, parsed, byte_toNat_inj]

/-- The response a method waits for ends it with its parse. -/
theorem Pending.read_response {method : Method} (call : pending.call = .of method)
    (id : packet.msgId = method.expect.byte.toNat) (unflagged : packet.flags &&& telemetryFlag = 0)
    (sized : packet.payload.length = method.expect.responseLength.toNat) :
    ∃ value, method.parse packet = .ok value ∧
      ∀ inbox, pending.read inbox packet = .returned value := by
  obtain ⟨value, parsed⟩ := Method.parse_accepts sized
  have notEvent : method.expect ≠ .EVENT := by cases method <;> simp [Method.expect]
  have notError : method.expect ≠ .ERROR := by cases method <;> simp [Method.expect]
  refine ⟨value, parsed, ?_⟩
  intro inbox
  unfold read
  rw [call]
  simp [requestRound, id, unflagged, seq, parsed, byte_toNat_inj, notEvent, notError]

/-- A ping that was acknowledged waits for its pong. -/
theorem Pending.read_ack (call : pending.call = .ping) (id : packet.msgId = MsgId.ACK.byte.toNat)
    (inbox : Inbox) :
    pending.read inbox packet = .next inbox { pending with sawAck := true } := by
  unfold read
  rw [call]
  simp [pingRound, id, seq, byte_toNat_inj]

/-- A pong ends the ping. -/
theorem Pending.read_pong (call : pending.call = .ping) (id : packet.msgId = MsgId.PONG.byte.toNat)
    (inbox : Inbox) : pending.read inbox packet = .returned (.flag pending.sawAck) := by
  unfold read
  rw [call]
  simp [pingRound, id, seq, byte_toNat_inj]

end

/-! ## Packets of the firmware -/

section

variable {packet : Daft.Packet}

/-- The host gets the payload the firmware laid out. -/
theorem received_sized {msg : MsgId} (length : packet.payloadLen = msg.responseLength) :
    (Codec.received packet).payload.length = msg.responseLength.toNat := by
  have fits : msg.responseLength.toNat ≤ maxPayloadSize := by cases msg <;> decide
  show packet.bytes.length = _
  rw [Packet.bytes, List.length_take, Vector.length_toList, length, Nat.min_eq_left fits]

theorem received_unflagged : (Codec.received packet).flags &&& telemetryFlag = 0 ↔
    packet.flags &&& PacketFlag.TELEMETRY.bits = 0 := by
  rw [← UInt8.toNat_inj, UInt8.toNat_and]
  exact Iff.rfl

end

end Daft.Host
