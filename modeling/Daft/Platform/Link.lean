import Daft.Logic.Simulation
import Daft.Platform.Execution
import Daft.Platform.Output
import Daft.Session.Calls

/-!
# The serial line

A client and a board, byte by byte: the client writes frames, the board consumes a byte at
a time, ticks and polls whenever it comes to it, and the transport reads the line in pieces
of any size. Every run of the line is a run of the session in which whole packets travel,
so the codecs, the decoder and the transport add nothing to the protocol.
-/

namespace Daft

open Logic Host

/-! ## The transport, a turn at a time -/

namespace Host.SerialTransport

/-- One turn of the loop of `read_packet`. -/
def turn (t : SerialTransport) : Option Codec.Packet × SerialTransport :=
  match t.readBufferedPacket with
  | (.error message, t) =>
    (none, { t with protocolErrors := t.protocolErrors + 1, lastProtocolError := message })
  | (.ok (some packet), t) => (some packet, t)
  | (.ok none, t) =>
    let (chunk, t) := t.read
    if chunk = [] then (none, t)
    else (none, { t with bytesRead := t.bytesRead + chunk.length, rx := t.rx ++ chunk })

/-- The loop takes turns until one returns a packet. -/
theorem readLoop_turn (turns : Nat) (t : SerialTransport) :
    t.readLoop (turns + 1) =
      match t.turn with
      | (some packet, t) => (.ok packet, t)
      | (none, t) => t.readLoop turns := by
  rw [readLoop, turn]
  rcases t.readBufferedPacket with ⟨message | _ | packet, t⟩
  · rfl
  · dsimp only
    split <;> rfl
  · rfl

variable {t : SerialTransport} {packet : Packet} {chunk rest : List UInt8}

/-- A frame that is there is taken. -/
theorem turn_frame (legal : packet.Legal) (rx : t.rx = packet.stuffed ++ 0 :: rest) :
    t.turn = (some (Codec.received packet),
      { t with rx := rest, packetsRead := t.packetsRead + 1 }) := by
  have found : 0 ∈ t.rx := by simp [rx]
  have first : t.rx.idxOf 0 = packet.stuffed.length := by
    rw [rx, List.idxOf_append_of_notMem packet.stuffed_clean, List.idxOf_cons_self, Nat.add_zero]
  have frame : t.rx.take (t.rx.idxOf 0) = packet.stuffed := by rw [first, rx, List.take_left]
  have left : t.rx.drop (t.rx.idxOf 0 + 1) = rest := by
    rw [first, rx]
    simp
  have decoded : Codec.decodePacket packet.stuffed = .ok (Codec.received packet) := by
    have sound := legal.decode_stuffed
    generalize Codec.decodePacket packet.stuffed = result at sound
    cases result with
    | error => cases sound
    | ok => exact congrArg _ (Option.some.inj sound)
  rw [turn, readBufferedPacket, if_pos found]
  dsimp only
  rw [frame, left, if_neg packet.stuffed_ne_nil, decoded]

/-- Short of a frame the line is read. -/
theorem turn_short (clean : 0 ∉ t.rx) (short : t.rx.length ≤ 256) (port : t.port = some [chunk]) :
    t.turn = (none, { t with port := some [], bytesRead := t.bytesRead + chunk.length,
                             rx := t.rx ++ chunk }) := by
  rw [turn, readBufferedPacket, if_neg clean, if_neg (Nat.not_lt.mpr short)]
  simp only [read, port, Option.getD_some, List.headD_cons, Option.map_some, List.tail_cons]
  split
  case isTrue empty => simp [empty]
  case isFalse => rfl

end Host.SerialTransport

/-! ## The line -/

/-- The two parties and the bytes between them, oldest first. -/
structure Link where
  board : Board
  client : DaftClient := {}
  transport : SerialTransport := .openedOn []
  inbox : Inbox := {}
  /-- The call in progress. -/
  current : Option (ℕ × Pending) := none
  calls : List ClientCall := []
  /-- Bytes on their way to the board. -/
  up : List UInt8 := []
  /-- Bytes on their way to the client. -/
  down : List UInt8 := []
  finished : List (ℕ × Outcome) := []

namespace Link

/-- The delimiters of all that is under way, in buffers or on the line. -/
def underWay (s : Link) : Nat :=
  (s.board.decoder.frame ++ s.up).count 0 + (s.transport.rx ++ s.down).count 0

/-- A method is called: it takes the next number and writes the frame of its request. -/
def issue (s : Link) (call : ClientCall) (frame : List UInt8) : Link :=
  let (seq, client) := s.client.seq
  { s with
    client
    calls := s.calls ++ [call]
    up := s.up ++ frame
    current := some (s.calls.length, { call, seq }) }

/-- The board moves on, and what it writes is on the line. -/
def moves (serial : SerialPort) (s : Link) (board : Board) : Link :=
  let old := written serial s.board.actuator.sent
  { s with board, down := s.down ++ (written serial board.actuator.sent).drop old.length }

/-- The call in progress ends. -/
def finish (s : Link) (n : ℕ) (outcome : Outcome) : Link :=
  { s with current := none, finished := s.finished ++ [(n, outcome)] }

/-- The call in progress reads a packet. -/
def read (s : Link) (n : ℕ) (pending : Pending) (packet : Codec.Packet) : Link :=
  match pending.read s.inbox packet with
  | .next inbox pending => { s with inbox, current := some (n, pending) }
  | .returned value => s.finish n (.returned value)
  | .raised error => s.finish n (.raised error)

/-- The transport takes a turn, on a line that would let it read `chunk`. -/
def turn (s : Link) (n : ℕ) (pending : Pending) (chunk rest : List UInt8) : Link :=
  let (packet, transport) := { s.transport with port := some [chunk] }.turn
  let s := { s with transport, down := (transport.port.getD []).flatten ++ rest }
  match packet with
  | none => s
  | some packet => s.read n pending packet

/-- One step of either party. -/
inductive Step (b : MotionBackend) (serial : SerialPort) (s : Link) : Link → Prop where
  | call (call : ClientCall) (request : Request) {frame : List UInt8} (idle : s.current = none)
      (writes : call.request = some request) (few : s.underWay < 65535)
      (encodes : Codec.encodePacket request.msg.toNat s.client.seq.1 request.payload 0 = .ok frame) :
      Step b serial s (s.issue call frame)
  | receive {byteIn : UInt8} {up : List UInt8} (arrives : s.up = byteIn :: up) :
      Step b serial s ({ s with up }.moves serial (s.board.serviceByte b serial byteIn))
  | tick : Step b serial s (s.moves serial (s.board.tick b serial))
  | telemetry : Step b serial s (s.moves serial (s.board.serviceTelemetry b serial))
  | turn {n : ℕ} {pending : Pending} {chunk rest : List UInt8} (waits : s.current = some (n, pending))
      (arrived : s.down = chunk ++ rest) (few : chunk.length ≤ 128) :
      Step b serial s (s.turn n pending chunk rest)
  | timeout {n : ℕ} {pending : Pending} (waits : s.current = some (n, pending)) :
      Step b serial s ({ s with transport.timeouts := s.transport.timeouts + 1 }.finish n
        (.raised .timeoutError))

/-- The start of a session. -/
def start (board : Board) : Link := { board }

end Link

/-! ## What a line is about -/

/-- The session a line is about: what is in buffers or on the line are the frames of the
packets on the channel. -/
structure Link.Explains (s : Link) (t : System) : Prop where
  machine : t.machine = s.board.actuator
  client : t.client = s.client
  inbox : t.inbox = s.inbox
  current : t.current = s.current
  calls : t.calls = s.calls
  finished : t.finished = s.finished
  up : s.board.decoder.frame ++ s.up = (t.up.map Prod.snd).flatMap Packet.frame
  requests : ∀ entry ∈ t.up, entry.2.Legal ∧ entry.2.padded = entry.2
  down : s.transport.rx ++ s.down = (t.down.map Prod.snd).flatMap Packet.frame
  packets : ∀ entry ∈ t.down, entry.2.Legal
  sound : s.transport.protocolErrors = 0 ∧ s.transport.rxOverflows = 0
  replayable : s.board.actuator.Replayable

/-! ## Frames under way -/

section

variable {packet : Packet} {packets : List Packet} {read line rest : List UInt8}

/-- What has been read of a frame and more: the frame is not complete, or it is there. -/
theorem Packet.Legal.head (legal : packet.Legal) (split : read ++ line = packet.frame ++ rest) :
    (0 ∉ read ∧ read.length ≤ 138) ∨
      ∃ more, read = packet.stuffed ++ 0 :: more ∧ more ++ line = rest := by
  have within : ∀ {part}, part <+: packet.stuffed → 0 ∉ part ∧ part.length ≤ 138 := by
    intro part begins
    exact ⟨fun member => packet.stuffed_clean (begins.subset member),
      Nat.le_trans begins.length_le legal.stuffed_length⟩
  rw [legal.frame_run, List.append_assoc, List.singleton_append,
    List.append_eq_append_iff] at split
  rcases split with ⟨more, stuffed, -⟩ | ⟨more, whole, left⟩
  · exact .inl (within ⟨more, stuffed.symm⟩)
  · cases more with
    | nil => exact .inl (within ⟨[], by rw [whole, List.append_nil, List.append_nil]⟩)
    | cons zero more =>
      obtain ⟨rfl, rfl⟩ := List.cons.inj left
      exact .inr ⟨more, whole, rfl⟩

/-- A frame has one delimiter. -/
theorem count_frames (legal : ∀ packet ∈ packets, packet.Legal) :
    (packets.flatMap Packet.frame).count 0 = packets.length := by
  induction packets with
  | nil => rfl
  | cons packet packets ih =>
    obtain ⟨here, later⟩ := List.forall_mem_cons.mp legal
    rw [List.flatMap_cons, List.count_append, ih later, here.frame_run, List.count_append,
      List.count_eq_zero_of_not_mem packet.stuffed_clean, List.length_cons]
    simp [Nat.add_comm]

/-- The host writes the frame of the packet as it arrives. -/
theorem Request.encoded (request : Request) {seq : ℕ} (small : seq ≤ 65535) :
    Codec.encodePacket request.msg.toNat seq request.payload 0 =
      .ok (request.packet seq).frame := by
  obtain ⟨bytes, legal⟩ := Request.packet_bytes request seq
  have encoded := Codec.encodePacket_eq legal
  have number : (request.packet seq).seq.toNat = seq := by
    show (UInt16.ofNat seq).toNat = seq
    rw [UInt16.toNat_ofNat']
    omega
  rw [bytes, number] at encoded
  rw [legal.frame_eq]
  exact encoded

/-- It writes nothing else. -/
theorem Request.encodes {request : Request} {seq : ℕ} {frame : List UInt8}
    (encodes : Codec.encodePacket request.msg.toNat seq request.payload 0 = .ok frame) :
    frame = (request.packet seq).frame := by
  have small : seq ≤ 65535 := by
    unfold Codec.encodePacket at encodes
    split at encodes
    · cases encodes
    split at encodes
    · cases encodes
    split at encodes
    · cases encodes
    · omega
  exact Except.ok.inj (encodes.symm.trans (Request.encoded request small))

end

/-! ## The board's side -/

section

variable {b : MotionBackend} {serial : SerialPort} {late : Late} {s : Link} {t : System}

/-- Steps of the actuator's own, one after the other. -/
theorem System.owns {ops : List Op} (own : ∀ op ∈ ops, ∀ r port, op ≠ .handlePacket r port)
    (t : System) :
    ∃ (new : List Transmission) (down : List (Option ℕ × Packet)),
      (run (step b) t.machine ops).sent = new ++ t.machine.sent ∧
      (∀ sent ∈ new, sent.packet.Legal) ∧ down.map Prod.snd = (new.map (·.packet)).reverse ∧
      Relation.ReflTransGen (System.Step b late) t
        { t with machine := run (step b) t.machine ops, down := t.down ++ down } := by
  induction ops generalizing t with
  | nil =>
    refine ⟨[], [], rfl, by simp, rfl, ?_⟩
    rw [List.append_nil]
    exact .refl
  | cons op ops ih =>
    obtain ⟨here, later⟩ := List.forall_mem_cons.mp own
    obtain ⟨new, sent, noise⟩ := step_noise (b := b) (m := t.machine) here
    obtain ⟨new', down', sent', legal', carried', steps⟩ := ih later (t.moves (step b t.machine op) none)
    have packets : (tag none (newPackets t.machine (step b t.machine op))).map Prod.snd =
        (new.map (·.packet)).reverse := by
      rw [newPackets_eq sent, tag, List.map_map]
      exact List.map_id' _
    refine ⟨new' ++ new, tag none (newPackets t.machine (step b t.machine op)) ++ down', ?_, ?_, ?_, ?_⟩
    · rw [run_cons, List.append_assoc, ← sent]
      exact sent'
    · exact List.forall_mem_append.mpr ⟨legal', fun sent member => (noise sent member).legal⟩
    · rw [List.map_append, packets, carried', List.map_append, List.reverse_append]
    · rw [← List.append_assoc]
      exact .head (.own here) steps

/-- What the board writes is on the line, in frames. -/
theorem Link.Explains.down_moves (explains : s.Explains t) (steady : serial.Steady) {board : Board}
    {new : List Transmission} {down : List (Option ℕ × Packet)}
    (sent : board.actuator.sent = new ++ s.board.actuator.sent)
    (legal : ∀ sent ∈ new, sent.packet.Legal)
    (carried : down.map Prod.snd = (new.map (·.packet)).reverse) :
    s.transport.rx ++ (s.moves serial board).down =
        ((t.down ++ down).map Prod.snd).flatMap Packet.frame ∧
      ∀ entry ∈ t.down ++ down, entry.2.Legal := by
  constructor
  · have written : (s.moves serial board).down =
        s.down ++ (new.reverse.map (·.packet)).flatMap Packet.frame := by
      rw [Link.moves, sent, steady.written_new]
    rw [written, ← List.append_assoc, explains.down, List.map_append, List.flatMap_append, carried,
      List.map_reverse]
  · refine List.forall_mem_append.mpr ⟨explains.packets, fun entry member => ?_⟩
    have listed : entry.2 ∈ (new.map (·.packet)).reverse := carried ▸ List.mem_map_of_mem member
    obtain ⟨sent, inside, packet⟩ := List.mem_map.mp (List.mem_reverse.mp listed)
    exact packet ▸ legal sent inside

/-- Ticks and polls. -/
theorem Link.Explains.owns (explains : s.Explains t) (steady : serial.Steady) {board : Board}
    {ops : List Op} (own : ∀ op ∈ ops, ∀ r port, op ≠ .handlePacket r port)
    (actuator : board.actuator = run (step b) s.board.actuator ops)
    (decoder : board.decoder = s.board.decoder) :
    ∃ t', Relation.ReflTransGen (System.Step b .inOrder) t t' ∧ (s.moves serial board).Explains t' := by
  obtain ⟨new, down, sent, legal, carried, steps⟩ := @System.owns b .inOrder ops own t
  rw [explains.machine, ← actuator] at sent steps
  obtain ⟨bytes, packets⟩ := explains.down_moves steady sent legal carried
  refine ⟨_, steps, ?_⟩
  constructor
  case machine => rfl
  case client => exact explains.client
  case inbox => exact explains.inbox
  case current => exact explains.current
  case calls => exact explains.calls
  case finished => exact explains.finished
  case up =>
    rw [← explains.up, ← decoder]
    rfl
  case requests => exact explains.requests
  case down => exact bytes
  case packets => exact packets
  case sound => exact explains.sound
  case replayable =>
    have kept := run_invariant (fun m op => step_replayable (b := b) op) explains.replayable ops
    exact actuator ▸ kept

/-- Short of a delimiter the decoder collects. -/
theorem Link.Explains.collects (explains : s.Explains t) {byteIn : UInt8} {up : List UInt8}
    (arrives : s.up = byteIn :: up) (nonzero : byteIn ≠ 0)
    (room : s.board.decoder.frame.length < maxFrameSize) :
    ({ s with up }.moves serial (s.board.serviceByte b serial byteIn)).Explains t := by
  obtain ⟨silent, frame⟩ := FramingDecoder.consume_collects (d := s.board.decoder) nonzero room
  have collected : s.board.serviceByte b serial byteIn =
      { s.board with decoder := (s.board.decoder.consume byteIn).2 } := by
    unfold Board.serviceByte
    generalize s.board.decoder.consume byteIn = consumed at *
    obtain ⟨result, decoder⟩ := consumed
    obtain rfl : result = .NONE := silent
    rfl
  rw [collected]
  constructor
  case machine => exact explains.machine
  case client => exact explains.client
  case inbox => exact explains.inbox
  case current => exact explains.current
  case calls => exact explains.calls
  case finished => exact explains.finished
  case up =>
    rw [← explains.up, arrives]
    show (s.board.decoder.consume byteIn).2.frame ++ up = _
    rw [frame, List.append_assoc, List.singleton_append]
  case requests => exact explains.requests
  case down =>
    rw [← explains.down]
    show s.transport.rx ++ (s.down ++ List.drop _ _) = _
    rw [List.drop_length, List.append_nil]
  case packets => exact explains.packets
  case sound => exact explains.sound
  case replayable => exact explains.replayable

/-- A steady port takes what the open port of a session takes. -/
theorem SerialPort.Steady.agrees (steady : serial.Steady) : (serialWriter serial).Agree openPort := by
  intro sent packet legal
  exact steady.takes legal sent

/-- At the delimiter the request is handled. -/
theorem Link.Explains.handles (explains : s.Explains t) (steady : serial.Steady) {n : ℕ} {r : Packet}
    {entries : List (ℕ × Packet)} {up : List UInt8} (waiting : t.up = (n, r) :: entries)
    (collected : s.board.decoder.frame = r.stuffed)
    (left : up = (entries.map Prod.snd).flatMap Packet.frame) :
    ({ s with up }.moves serial (s.board.serviceByte b serial 0)).Explains (t.handle b n r entries) := by
  obtain ⟨⟨legal, padded⟩, others⟩ := List.forall_mem_cons.mp (waiting ▸ explains.requests)
  have decoded : (s.board.decoder.consume 0).1 = .PACKET r := by
    rw [FramingDecoder.consume_zero_packet, collected, Packet.stuffed, decodePacket_frame legal,
      padded]
  have empty : (s.board.decoder.consume 0).2.frame = [] := FramingDecoder.consume_zero_frame
  have handled : s.board.serviceByte b serial 0 =
      { s.board with decoder := (s.board.decoder.consume 0).2
                     actuator := s.board.actuator.handlePacket b openPort r } := by
    unfold Board.serviceByte
    generalize s.board.decoder.consume 0 = consumed at *
    obtain ⟨result, decoder⟩ := consumed
    obtain rfl : result = .PACKET r := decoded
    dsimp only
    rw [steady.agrees.handlePacket b r s.board.actuator explains.replayable]
  have transmitted : ∃ new : List Transmission, (s.board.actuator.handlePacket b openPort r).sent =
      new ++ s.board.actuator.sent ∧ ∀ sent ∈ new, sent.packet.Legal :=
    step_legal explains.replayable (.handlePacket r openPort)
  obtain ⟨new, sent, fits⟩ := transmitted
  have carried : (tag (some n) (newPackets s.board.actuator
      (s.board.actuator.handlePacket b openPort r))).map Prod.snd =
        (new.map (·.packet)).reverse := by
    rw [newPackets_eq sent, tag, List.map_map]
    exact List.map_id' _
  have written : (s.board.serviceByte b serial 0).actuator.sent = new ++ s.board.actuator.sent :=
    handled ▸ sent
  obtain ⟨bytes, packets⟩ := explains.down_moves steady written fits carried
  constructor
  case machine => rw [handled, System.handle, explains.machine]; rfl
  case client => exact explains.client
  case inbox => exact explains.inbox
  case current => exact explains.current
  case calls => exact explains.calls
  case finished => exact explains.finished
  case up =>
    rw [handled]
    show (s.board.decoder.consume 0).2.frame ++ up = _
    rw [empty, left]
    rfl
  case requests => exact others
  case down =>
    rw [← explains.machine] at bytes
    exact bytes
  case packets =>
    rw [← explains.machine] at packets
    exact packets
  case sound => exact explains.sound
  case replayable =>
    rw [handled]
    exact step_replayable (b := b) (.handlePacket r openPort) explains.replayable

theorem Link.Explains.receives (explains : s.Explains t) (steady : serial.Steady) {byteIn : UInt8}
    {up : List UInt8} (arrives : s.up = byteIn :: up) :
    ∃ t', Relation.ReflTransGen (System.Step b .inOrder) t t' ∧
      ({ s with up }.moves serial (s.board.serviceByte b serial byteIn)).Explains t' := by
  have line := explains.up
  rw [arrives] at line
  cases waiting : t.up with
  | nil => simp [waiting] at line
  | cons entry entries =>
    obtain ⟨n, r⟩ := entry
    obtain ⟨⟨legal, -⟩, -⟩ := List.forall_mem_cons.mp (waiting ▸ explains.requests)
    rw [waiting, List.map_cons, List.flatMap_cons] at line
    by_cases delimiter : byteIn = 0
    · subst delimiter
      have split : (s.board.decoder.frame ++ [0]) ++ up =
          r.frame ++ (entries.map Prod.snd).flatMap Packet.frame := by
        rw [← line, List.append_assoc, List.singleton_append]
      obtain ⟨more, whole, left⟩ := (legal.head split).resolve_left fun clean => clean.1 (by simp)
      obtain ⟨collected, rfl⟩ : s.board.decoder.frame = r.stuffed ∧ more = [] := by
        rcases List.eq_nil_or_concat' more with rfl | ⟨more, last, rfl⟩
        · exact ⟨List.append_cancel_right whole, rfl⟩
        · have ends : s.board.decoder.frame ++ [0] = (r.stuffed ++ 0 :: more) ++ [last] := by
            rw [whole, List.append_assoc, List.cons_append]
          have earlier := (List.append_inj' ends rfl).1
          exact absurd s.board.decoder.clean (by simp [earlier])
      exact Simulates.one (.handle waiting) (explains.handles steady waiting collected left)
    · rcases legal.head line with ⟨-, short⟩ | ⟨more, whole, -⟩
      · exact Simulates.stutter (explains.collects arrives delimiter
          (Nat.lt_of_le_of_lt short (by decide)))
      · exact absurd s.board.decoder.clean (by simp [whole])

/-! ## The client's side -/

/-- Fewer delimiters are under way than there are numbers. -/
theorem Link.Explains.few (explains : s.Explains t) (few : s.underWay < 65535) : t.Few .inOrder := by
  have up := count_frames fun packet member => by
    obtain ⟨entry, listed, rfl⟩ := List.mem_map.mp member
    exact (explains.requests entry listed).1
  have down := count_frames fun packet member => by
    obtain ⟨entry, listed, rfl⟩ := List.mem_map.mp member
    exact explains.packets entry listed
  have dues : t.due.toFinset.card ≤ s.underWay := by
    refine Nat.le_trans (List.toFinset_card_le _) ?_
    rw [Link.underWay, explains.up, explains.down, up, down, System.due, List.length_append,
      List.length_map, List.length_map, List.length_map]
    have numbers := List.length_filterMap_le (Prod.fst : Option ℕ × Packet → Option ℕ) t.down
    omega
  exact Nat.lt_of_le_of_lt dues few

theorem Link.Explains.issue (explains : s.Explains t) {call : ClientCall} {request : Request}
    {frame : List UInt8}
    (encodes : Codec.encodePacket request.msg.toNat s.client.seq.1 request.payload 0 = .ok frame) :
    (s.issue call frame).Explains (t.issue call request) := by
  obtain rfl := Request.encodes encodes
  obtain ⟨-, legal⟩ := Request.packet_bytes request s.client.seq.1
  constructor
  case machine => exact explains.machine
  case client => rw [System.issue, Link.issue, explains.client]
  case inbox => exact explains.inbox
  case current => rw [System.issue, Link.issue, explains.client, explains.calls]
  case calls => rw [System.issue, Link.issue, explains.calls]
  case finished => exact explains.finished
  case up =>
    rw [System.issue, Link.issue, explains.client, List.map_append, List.flatMap_append, ← explains.up,
      List.append_assoc]
    simp
  case requests =>
    refine List.forall_mem_append.mpr ⟨explains.requests, List.forall_mem_singleton.mpr ⟨?_, ?_⟩⟩
    · rw [explains.client]
      exact legal
    · exact Request.packet_padded ..
  case down => exact explains.down
  case packets => exact explains.packets
  case sound => exact explains.sound
  case replayable => exact explains.replayable

/-- A packet the transport returns is the one the session reads. -/
theorem Link.Explains.reads (explains : s.Explains t) {n : ℕ} {pending : Pending}
    {answered : Option ℕ} {packet : Packet} {entries : List (Option ℕ × Packet)} {rest : List UInt8}
    {transport : SerialTransport} (waiting : t.down = (answered, packet) :: entries)
    (taken : transport.rx ++ rest = (entries.map Prod.snd).flatMap Packet.frame)
    (sound : transport.protocolErrors = 0 ∧ transport.rxOverflows = 0) :
    ({ s with transport, down := rest }.read n pending (Codec.received packet)).Explains
      (t.read ⟨n, answered, pending, packet⟩ entries) := by
  have packets : ∀ entry ∈ entries, entry.2.Legal :=
    (List.forall_mem_cons.mp (waiting ▸ explains.packets)).2
  have received : (⟨n, answered, pending, packet⟩ : Reading).received = Codec.received packet := rfl
  unfold Link.read System.read
  rw [received, explains.inbox]
  dsimp only
  cases pending.read s.inbox (Codec.received packet) with
  | next inbox pending =>
    exact ⟨explains.machine, explains.client, rfl, rfl, explains.calls, explains.finished,
      explains.up, explains.requests, taken, packets, sound, explains.replayable⟩
  | returned value =>
    exact ⟨explains.machine, explains.client, rfl, rfl, explains.calls,
      congrArg (· ++ _) explains.finished, explains.up, explains.requests, taken, packets, sound,
      explains.replayable⟩
  | raised error =>
    exact ⟨explains.machine, explains.client, rfl, rfl, explains.calls,
      congrArg (· ++ _) explains.finished, explains.up, explains.requests, taken, packets, sound,
      explains.replayable⟩

/-- Reading on changes nothing in the session. -/
theorem Link.Explains.turns (explains : s.Explains t) {n : ℕ} {pending : Pending}
    {chunk rest : List UInt8} (waits : s.current = some (n, pending))
    (arrived : s.down = chunk ++ rest) :
    ∃ t', Relation.ReflTransGen (System.Step b .inOrder) t t' ∧
      (s.turn n pending chunk rest).Explains t' := by
  have line := explains.down
  have short : 0 ∉ s.transport.rx → s.transport.rx.length ≤ 138 →
      (s.turn n pending chunk rest).Explains t := by
    intro clean fits
    have turned := SerialTransport.turn_short (t := { s.transport with port := some [chunk] }) clean
      (Nat.le_trans fits (by decide)) rfl
    unfold Link.turn
    rw [turned]
    refine ⟨explains.machine, explains.client, explains.inbox, explains.current, explains.calls,
      explains.finished, explains.up, explains.requests, ?_, explains.packets, explains.sound,
      explains.replayable⟩
    dsimp only
    rw [← line, arrived, List.append_assoc]
    rfl
  cases waiting : t.down with
  | nil =>
    have nothing : s.transport.rx = [] := by
      rw [waiting] at line
      exact (List.append_eq_nil_iff.mp line).1
    exact Simulates.stutter (short (by simp [nothing]) (by simp [nothing]))
  | cons entry entries =>
    obtain ⟨answered, packet⟩ := entry
    obtain ⟨legal, -⟩ := List.forall_mem_cons.mp (waiting ▸ explains.packets)
    rw [waiting, List.map_cons, List.flatMap_cons] at line
    rcases legal.head line with ⟨clean, fits⟩ | ⟨more, whole, left⟩
    · exact Simulates.stutter (short clean fits)
    · have turned := SerialTransport.turn_frame (t := { s.transport with port := some [chunk] })
        legal whole
      have current : t.current = some (n, pending) := explains.current.trans waits
      refine Simulates.one (.read current waiting) ?_
      have read : s.turn n pending chunk rest =
          ({ s with transport := { s.transport with port := some [chunk], rx := more,
                                                    packetsRead := s.transport.packetsRead + 1 }
                    down := s.down } : Link).read n pending (Codec.received packet) := by
        unfold Link.turn
        rw [turned, arrived]
        simp
      rw [read]
      exact explains.reads waiting left explains.sound

end

/-! ## Main result -/

/-- Every step of the line is a step of the session, or two, or none. -/
theorem line_simulates (b : MotionBackend) {serial : SerialPort} (steady : serial.Steady) :
    Simulates (Link.Step b serial) (System.Step b .inOrder) Link.Explains := by
  intro s s' t explains taken
  cases taken with
  | call call request idle writes few encodes =>
    exact Simulates.one (.call call request (explains.current.trans idle) writes (explains.few few))
      (explains.issue encodes)
  | receive arrives => exact explains.receives steady arrives
  | tick =>
    have own : ∀ op ∈ [Op.update (some (serialWriter serial))], ∀ r port, op ≠ .handlePacket r port := by
      simp
    exact explains.owns steady own rfl rfl
  | telemetry =>
    obtain ⟨actuator, decoder⟩ := s.board.serviceTelemetry_runs b serial
    refine explains.owns steady ?_ actuator decoder
    intro op member r port
    unfold Board.telemetryOps at member
    split at member
    · rcases List.mem_cons.mp member with rfl | member
      · simp
      · simp [List.mem_singleton.mp member]
    · simp [List.mem_singleton.mp member]
  | turn waits arrived => exact explains.turns waits arrived
  | timeout waits =>
    exact Simulates.one (.timeout (explains.current.trans waits))
      ⟨explains.machine, explains.client, explains.inbox, rfl, explains.calls,
        congrArg (· ++ _) explains.finished, explains.up, explains.requests, explains.down,
        explains.packets, explains.sound, explains.replayable⟩

theorem Link.start_explains {board : Board} (empty : board.decoder.frame = [])
    (replayable : board.actuator.Replayable) :
    (Link.start board).Explains (.start board.actuator) := by
  refine ⟨rfl, rfl, rfl, rfl, rfl, rfl, ?_, by simp [System.start], rfl, by simp [System.start],
    ⟨rfl, rfl⟩, replayable⟩
  show board.decoder.frame ++ [] = _
  rw [empty]
  rfl

namespace Link

variable (b : MotionBackend) (serial : SerialPort)

/-- The board receives some of the bytes on their way to it. -/
def drain : ℕ → Link → Link
  | 0, s => s
  | bytes + 1, s =>
    match s.up with
    | [] => s
    | byteIn :: up =>
      drain bytes ({ s with up }.moves serial (s.board.serviceByte b serial byteIn))

/-- The call in progress takes some turns, on a line that lets it read all there is. -/
def listen : ℕ → Link → Link
  | 0, s => s
  | turns + 1, s =>
    match s.current with
    | none => s
    | some (n, pending) => listen turns (s.turn n pending (s.down.take 128) (s.down.drop 128))

/-- A method is called, its request reaches the board, the board ticks, and the call takes
some turns. -/
def exchange (turns : ℕ) (call : ClientCall) (request : Request) (s : Link) : Link :=
  let called := s.issue call (request.packet s.client.seq.1).frame
  let served := called.drain b serial called.up.length
  (served.moves serial (served.board.tick b serial)).listen turns

variable {b : MotionBackend} {serial : SerialPort}

theorem drains (bytes : ℕ) (s : Link) :
    Relation.ReflTransGen (Step b serial) s (s.drain b serial bytes) := by
  induction bytes generalizing s with
  | zero => exact .refl
  | succ bytes ih =>
    unfold drain
    split
    · exact .refl
    next byteIn up arrives => exact .head (.receive arrives) (ih _)

theorem listens (turns : ℕ) (s : Link) :
    Relation.ReflTransGen (Step b serial) s (s.listen turns) := by
  induction turns generalizing s with
  | zero => exact .refl
  | succ turns ih =>
    unfold listen
    split
    · exact .refl
    next n pending waits =>
      exact .head (.turn waits (List.take_append_drop 128 s.down).symm (List.length_take_le ..)) (ih _)

/-- An exchange is a run of the line. -/
theorem exchanges {s : Link} {call : ClientCall} {request : Request} (turns : ℕ)
    (idle : s.current = none) (writes : call.request = some request) (few : s.underWay < 65535)
    (small : s.client.seq.1 ≤ 65535) :
    Relation.ReflTransGen (Step b serial) s (s.exchange b serial turns call request) :=
  .head (.call call request idle writes few (Request.encoded request small))
    (((drains _ _).tail .tick).trans (listens turns _))

end Link

/-- A board that has received noise and a zero, then a `ping` that returns. -/
def pinged : Link :=
  (Link.start (Board.after {} steadyPort {} [[0x55, 0x07], [], [0]])).exchange {} steadyPort 4 .ping
    { msg := MsgId.PING.byte, fits := Nat.zero_le _ }

/-- Then an `estop` that returns as well. -/
def pingedAndStopped : Link :=
  pinged.exchange {} steadyPort 6 (.of .estop) { msg := MsgId.ESTOP.byte, fits := Nat.zero_le _ }

end Daft
