import Daft.Host.Transport

/-!
# Reception over the serial transport

What successive calls of `read_packet` return is a function of what the reads of the
port return, if no deadline passes while there is something left to read. Where no run
of bytes is longer than the buffer, it is a function of the stream alone.
-/

namespace Daft.Host

open Logic

/-- The packets among the outcomes. -/
def Outcome.packets (happened : List Outcome) : List Codec.Packet := happened.filterMap packet?

namespace SerialTransport

/-- All that is still to come. -/
def coming (t : SerialTransport) : List Outcome := outcomes t.rx (t.port.getD [])

/-- Nothing more to read from the port, and no frame in the buffer. -/
structure Consumed (t : SerialTransport) : Prop where
  port : t.port = some []
  clean : 0 ∉ t.rx

/-- No call times out before the stream is consumed. -/
def Patient (t : SerialTransport) : List Nat → Prop
  | [] => True
  | turns :: deadlines =>
    ((t.readPacket turns).1 = .error "timed out waiting for packet" →
      (t.readPacket turns).2.Consumed) ∧ (t.readPacket turns).2.Patient deadlines

/-- The bytes and reads still to come. -/
def load (t : SerialTransport) : Nat :=
  t.rx.length + (t.port.getD []).flatten.length + (t.port.getD []).length

/-- Between the two transports these outcomes were met and counted. -/
structure Advances (t : SerialTransport) (happened : List Outcome) (t' : SerialTransport) :
    Prop where
  port : t'.port.isSome = t.port.isSome
  load : t'.load ≤ t.load
  coming : t.coming = happened ++ t'.coming
  packetsRead : t'.packetsRead = t.packetsRead + (Outcome.packets happened).length
  protocolErrors : t'.protocolErrors = t.protocolErrors + happened.countP (·.packet?.isNone)
  rxOverflows : t'.rxOverflows = t.rxOverflows + happened.count .overflow

/-- A call returns the one packet met, or times out. -/
def Returns (happened : List Outcome) (result : Except String Codec.Packet) : Prop :=
  (∃ packet, Outcome.packets happened = [packet] ∧ result = .ok packet) ∨
    Outcome.packets happened = [] ∧ result = .error "timed out waiting for packet"

section

variable {t t' t'' : SerialTransport} {happened later : List Outcome}
  {result : Except String Codec.Packet}

/-- A shorter buffer is less to read. -/
theorem load_le {rx : List UInt8} (suffix : rx <:+ t.rx) : { t with rx }.load ≤ t.load :=
  Nat.add_le_add_right (Nat.add_le_add_right suffix.length_le _) _

theorem Advances.refl (t : SerialTransport) : t.Advances [] t :=
  ⟨rfl, Nat.le_refl _, rfl, rfl, rfl, rfl⟩

/-- Two stretches of reading. -/
theorem Advances.trans (first : t.Advances happened t') (next : t'.Advances later t'') :
    t.Advances (happened ++ later) t'' where
  port := next.port.trans first.port
  load := Nat.le_trans next.load first.load
  coming := by rw [first.coming, next.coming, List.append_assoc]
  packetsRead := by
    rw [next.packetsRead, first.packetsRead, Outcome.packets, Outcome.packets, Outcome.packets,
      List.filterMap_append, List.length_append, Nat.add_assoc]
  protocolErrors := by
    rw [next.protocolErrors, first.protocolErrors, List.countP_append, Nat.add_assoc]
  rxOverflows := by rw [next.rxOverflows, first.rxOverflows, List.count_append, Nat.add_assoc]

/-- What was read before without a packet delays the result and no more. -/
theorem Returns.after (returns : Returns later result) (none : Outcome.packets happened = []) :
    Returns (happened ++ later) result := by
  rwa [Returns, Outcome.packets, List.filterMap_append, ← Outcome.packets, none]

/-! ## One call -/

/-- A read is of what the port has next, if anything. -/
theorem Advances.read {chunks : List (List UInt8)} (port : t.port = some chunks)
    (clean : 0 ∉ t.rx) (fits : t.rx.length ≤ 256) :
    t.Advances [] { t.read.2 with bytesRead := t.read.2.bytesRead + t.read.1.length
                                  rx := t.read.2.rx ++ t.read.1 } where
  port := by simp [SerialTransport.read]
  load := by
    cases chunks with
    | nil => simp [SerialTransport.load, SerialTransport.read, port]
    | cons chunk chunks =>
      simp only [SerialTransport.load, SerialTransport.read, port, Option.map_some, Option.getD_some,
        List.tail_cons, List.headD_cons, List.length_append, List.flatten_cons, List.length_cons]
      omega
  coming := by
    cases chunks with
    | nil => simp [SerialTransport.coming, SerialTransport.read, port]
    | cons chunk chunks =>
      simp [SerialTransport.coming, SerialTransport.read, port, outcomes_read clean fits]
  packetsRead := rfl
  protocolErrors := rfl
  rxOverflows := rfl

theorem readLoop_read (turns : Nat) :
    (if t.read.1 = [] then t.read.2.readLoop turns
      else readLoop turns { t.read.2 with bytesRead := t.read.2.bytesRead + t.read.1.length
                                          rx := t.read.2.rx ++ t.read.1 }) =
      readLoop turns { t.read.2 with bytesRead := t.read.2.bytesRead + t.read.1.length
                                     rx := t.read.2.rx ++ t.read.1 } := by
  split
  case isTrue empty => simp [empty]
  case isFalse => rfl

end

/-- However long a call reads, it takes what is there in its order. -/
theorem readLoop_advances (turns : Nat) (t : SerialTransport) (opened : t.port.isSome = true) :
    ∃ happened, t.Advances happened (t.readLoop turns).2 ∧
      Returns happened (t.readLoop turns).1 := by
  induction turns generalizing t with
  | zero => exact ⟨[], ⟨rfl, Nat.le_refl _, rfl, rfl, rfl, rfl⟩, .inr ⟨rfl, rfl⟩⟩
  | succ turns ih =>
    rw [readLoop]
    have buffered := readBufferedPacket_buffered t
    generalize t.readBufferedPacket = turn at *
    cases buffered with
    | @packet packet rx suffix outcome =>
      exact ⟨[.packet packet], ⟨rfl, load_le suffix, outcome _, rfl, rfl, rfl⟩,
        .inl ⟨packet, rfl, rfl⟩⟩
    | @refused message rx suffix _ outcome =>
      obtain ⟨happened, advances, returns⟩ := ih
        { t with rx, protocolErrors := t.protocolErrors + 1, lastProtocolError := message } opened
      have step : t.Advances [.refused message]
          { t with rx, protocolErrors := t.protocolErrors + 1, lastProtocolError := message } :=
        ⟨rfl, load_le suffix, outcome _, rfl, rfl, rfl⟩
      exact ⟨_, step.trans advances, returns.after rfl⟩
    | @overflow rx _ clean long outcome =>
      obtain ⟨happened, advances, returns⟩ := ih
        { t with rx := [], rxOverflows := t.rxOverflows + 1, protocolErrors := t.protocolErrors + 1,
                 lastProtocolError := "RX buffer overflow" } opened
      have step : t.Advances [.overflow]
          { t with rx := [], rxOverflows := t.rxOverflows + 1, protocolErrors := t.protocolErrors + 1,
                   lastProtocolError := "RX buffer overflow" } :=
        ⟨rfl, load_le List.nil_suffix, (outcome _).trans (outcomes_dropped clean long), rfl, rfl, rfl⟩
      exact ⟨_, step.trans advances, returns.after rfl⟩
    | @waits rx suffix clean fits outcome =>
      obtain ⟨chunks, port⟩ := Option.isSome_iff_exists.mp opened
      have kept : t.Advances [] { t with rx } :=
        ⟨rfl, load_le suffix, outcome _, rfl, rfl, rfl⟩
      have step := kept.trans (Advances.read (t := { t with rx }) port clean fits)
      dsimp only
      rw [readLoop_read]
      obtain ⟨happened, advances, returns⟩ := ih _ (step.port.trans opened)
      exact ⟨_, step.trans advances, returns⟩

/-- Reading from an open port is reading in turns. -/
theorem readPacket_opened {t : SerialTransport} {turns : Nat} (opened : t.port.isSome = true) :
    t.readPacket turns = t.readLoop turns := by
  obtain ⟨chunks, port⟩ := Option.isSome_iff_exists.mp opened
  simp [readPacket, port]

/-- A call takes what is there in its order, and returns the first packet of it. -/
theorem readPacket_advances (turns : Nat) (t : SerialTransport) (opened : t.port.isSome = true) :
    ∃ happened, t.Advances happened (t.readPacket turns).2 ∧
      Returns happened (t.readPacket turns).1 := by
  rw [readPacket_opened opened]
  exact readLoop_advances turns t opened

/-! ## Successive calls -/

/-- What `calls` calls return while these packets arrive. -/
def answers (arriving : List Codec.Packet) (calls : Nat) : List (Except String Codec.Packet) :=
  (List.range calls).map fun i =>
    arriving[i]?.elim (.error "timed out waiting for packet") .ok

/-- A packet that is there is returned by the next call. -/
theorem answers_cons (packet : Codec.Packet) (arriving : List Codec.Packet) (calls : Nat) :
    answers (packet :: arriving) (calls + 1) = .ok packet :: answers arriving calls := by
  simp [answers, List.range_succ_eq_map, Function.comp_def]

/-- A call with nothing there times out. -/
theorem answers_nil (calls : Nat) :
    answers [] (calls + 1) = .error "timed out waiting for packet" :: answers [] calls := by
  simp [answers, List.range_succ_eq_map, Function.comp_def]

/-- Nothing more comes of a consumed stream than the end of an open run too long. -/
theorem Consumed.coming {t : SerialTransport} (consumed : t.Consumed) :
    t.coming = [] ∨ t.coming = [.overflow] := by
  by_cases fits : t.rx.length ≤ 256
  · obtain ⟨nothing, -⟩ := scan_of_fits consumed.clean fits
    exact .inl (by simp [SerialTransport.coming, outcomes, consumed.port, nothing, receive])
  · obtain ⟨dropped, -⟩ := scan_of_long consumed.clean (Nat.not_le.mp fits)
    exact .inr (by simp [SerialTransport.coming, outcomes, consumed.port, dropped, receive])

/-- Once all is consumed no packet is left. -/
theorem Consumed.packets {t : SerialTransport} (consumed : t.Consumed) :
    Outcome.packets t.coming = [] := by
  rcases consumed.coming with nothing | dropped
  · rw [nothing]
    rfl
  · rw [dropped]
    rfl

/-- Patient calls return the packets to come, in order. -/
theorem readPackets_answers (deadlines : List Nat) (t : SerialTransport)
    (opened : t.port.isSome = true) (patient : t.Patient deadlines) :
    (t.readPackets deadlines).1 = answers (Outcome.packets t.coming) deadlines.length ∧
      ∃ happened, t.Advances happened (t.readPackets deadlines).2 := by
  induction deadlines generalizing t with
  | nil => exact ⟨rfl, [], .refl t⟩
  | cons turns deadlines ih =>
    obtain ⟨waited, patient⟩ := patient
    obtain ⟨happened, advances, returns⟩ := readPacket_advances turns t opened
    obtain ⟨results, later, further⟩ := ih _ (advances.port.trans opened) patient
    have split : Outcome.packets t.coming =
        Outcome.packets happened ++ Outcome.packets (t.readPacket turns).2.coming := by
      rw [advances.coming, Outcome.packets, List.filterMap_append, Outcome.packets, Outcome.packets]
    refine ⟨?_, _, advances.trans further⟩
    rw [readPackets, List.length_cons, split]
    dsimp only
    rw [results]
    rcases returns with ⟨packet, one, result⟩ | ⟨none, result⟩
    · rw [one, result, List.singleton_append, answers_cons]
    · rw [none, result, (waited result).packets, List.nil_append, answers_nil]

/-! ## Deadlines -/

theorem Consumed.of_suffix {t : SerialTransport} {rx : List UInt8} (consumed : t.Consumed)
    (suffix : rx <:+ t.rx) : 0 ∉ rx := fun zero => consumed.clean (suffix.subset zero)

/-- A call that is patient gives up only when all is consumed. -/
theorem readLoop_consumed (turns : Nat) (t : SerialTransport) (opened : t.port.isSome = true)
    (enough : t.Consumed ∨ t.load < turns)
    (expired : (t.readLoop turns).1 = .error "timed out waiting for packet") :
    (t.readLoop turns).2.Consumed := by
  induction turns generalizing t with
  | zero =>
    obtain ⟨port, clean⟩ := enough.resolve_right (Nat.not_lt_zero _)
    exact ⟨port, clean⟩
  | succ turns ih =>
    rw [readLoop] at expired ⊢
    have buffered := readBufferedPacket_buffered t
    generalize t.readBufferedPacket = turn at *
    cases buffered with
    | packet => cases expired
    | refused suffix shorter =>
      refine ih _ opened (enough.imp (fun consumed => ?_) fun bound => ?_) expired
      · exact ⟨consumed.port, consumed.of_suffix suffix⟩
      · dsimp only [load] at bound ⊢
        omega
    | overflow suffix clean long =>
      refine ih _ opened (enough.imp (fun consumed => ?_) fun bound => ?_) expired
      · exact ⟨consumed.port, List.not_mem_nil⟩
      · have length := suffix.length_le
        dsimp only [load, List.length_nil] at bound ⊢
        omega
    | @waits rx suffix clean fits =>
      obtain ⟨chunks, port⟩ := Option.isSome_iff_exists.mp opened
      dsimp only at expired ⊢
      rw [readLoop_read] at expired ⊢
      refine ih _ (by simp [read, port]) ?_ expired
      cases chunks with
      | nil => exact .inl ⟨by simp [read, port], by simpa [read, port] using clean⟩
      | cons chunk chunks =>
        have bound := enough.resolve_left fun consumed =>
          List.cons_ne_nil _ _ (Option.some.inj (port.symm.trans consumed.port))
        have length := suffix.length_le
        right
        simp only [load, read, port, Option.map_some, Option.getD_some, List.tail_cons, List.headD_cons,
          List.length_append, List.flatten_cons, List.length_cons] at bound ⊢
        omega

/-- Deadlines that leave a turn for every byte and read to come are patient. -/
theorem patient_of_load (deadlines : List Nat) (t : SerialTransport)
    (opened : t.port.isSome = true) (enough : ∀ turns ∈ deadlines, t.load < turns) :
    t.Patient deadlines := by
  induction deadlines generalizing t with
  | nil => trivial
  | cons turns deadlines ih =>
    obtain ⟨here, later⟩ := List.forall_mem_cons.mp enough
    obtain ⟨happened, advances, -⟩ := readPacket_advances turns t opened
    refine ⟨?_, ih _ (advances.port.trans opened) fun turns member => ?_⟩
    · rw [readPacket_opened opened]
      exact readLoop_consumed turns t opened (.inr here)
    · exact Nat.lt_of_le_of_lt advances.load (later turns member)

end SerialTransport

/-! ## Runs within the buffer -/

/-- Cutting a stream in two keeps the piece in between for later. -/
theorem frames_append (s later : List UInt8) :
    frames (s ++ later) = frames s ++ frames (Delimited.trailing 0 s ++ later) := by
  rw [frames, Delimited.closed_append, List.filter_append, frames, frames]

/-- Short runs never overflow the buffer. -/
theorem kept_of_short {rx later : List UInt8}
    (short : ∀ run ∈ (rx ++ later).splitOn 0, run.length ≤ 256) :
    scan rx = (frames rx).map .ofFrame ∧ kept rx = Delimited.trailing 0 rx := by
  obtain ⟨run, member, begins⟩ := Delimited.trailing_prefix (z := 0) rx later
  have fits : ¬ Overflows rx :=
    Nat.not_lt.mpr (Nat.le_trans begins.length_le (short run member))
  rw [scan, kept, if_neg fits, if_neg fits, List.append_nil]
  exact ⟨rfl, rfl⟩

/-- With short runs it does not matter where the reads fell. -/
theorem outcomes_of_short {rx : List UInt8} {chunks : List (List UInt8)}
    (short : ∀ run ∈ (rx ++ chunks.flatten).splitOn 0, run.length ≤ 256) :
    outcomes rx chunks = (frames (rx ++ chunks.flatten)).map .ofFrame := by
  induction chunks generalizing rx with
  | nil =>
    obtain ⟨scanned, -⟩ := kept_of_short short
    rw [outcomes, scanned, receive, List.flatten_nil, List.append_nil, List.append_nil]
  | cons chunk chunks ih =>
    obtain ⟨scanned, all⟩ := kept_of_short short
    rw [Delimited.splitOn_append, List.flatten_cons, ← List.append_assoc] at short
    have later : ∀ run ∈ (Delimited.trailing 0 rx ++ chunk ++ chunks.flatten).splitOn 0,
        run.length ≤ 256 := fun run member => short run (List.mem_append_right _ member)
    rw [outcomes_cons, scanned, all, ih later, List.flatten_cons,
      frames_append rx (chunk ++ chunks.flatten), List.map_append, List.append_assoc]

section

variable (runs : List (List UInt8))

theorem packets_ofFrame :
    Outcome.packets (runs.map .ofFrame) =
      runs.filterMap fun frame => (Codec.decodePacket frame).toOption := by
  rw [Outcome.packets, List.filterMap_map]
  exact congrArg (runs.filterMap ·) (funext Outcome.packet?_ofFrame)

theorem errors_ofFrame :
    (runs.map Outcome.ofFrame).countP (·.packet?.isNone) =
      runs.countP fun frame => (Codec.decodePacket frame).toOption.isNone := by
  rw [List.countP_map]
  exact congrArg (runs.countP ·) (funext fun frame => by
    rw [Function.comp_apply, Outcome.packet?_ofFrame])

theorem overflow_notMem_ofFrame : Outcome.overflow ∉ runs.map .ofFrame := by
  intro member
  obtain ⟨frame, -, overflow⟩ := List.mem_map.mp member
  exact Outcome.ofFrame_ne_overflow frame overflow

end

/-- Where no run of bytes is longer than the buffer and no call times out before the
stream is consumed, the calls return what the frames of the stream decode to. Once it is
consumed, the counters count these frames. -/
theorem transport_extracts_frames (chunks : List (List UInt8)) (deadlines : List Nat)
    (short : ∀ run ∈ chunks.flatten.splitOn 0, run.length ≤ 256)
    (patient : (SerialTransport.openedOn chunks).Patient deadlines) :
    (((SerialTransport.openedOn chunks).readPackets deadlines).1 =
      (List.range deadlines.length).map fun i =>
        ((frames chunks.flatten).filterMap fun frame => (Codec.decodePacket frame).toOption)[i]?.elim
          (.error "timed out waiting for packet") .ok) ∧
    (((SerialTransport.openedOn chunks).readPackets deadlines).2.Consumed →
      ((SerialTransport.openedOn chunks).readPackets deadlines).2.packetsRead =
          ((frames chunks.flatten).filterMap fun frame =>
            (Codec.decodePacket frame).toOption).length ∧
        ((SerialTransport.openedOn chunks).readPackets deadlines).2.protocolErrors =
          (frames chunks.flatten).countP (fun frame => (Codec.decodePacket frame).toOption.isNone) ∧
        ((SerialTransport.openedOn chunks).readPackets deadlines).2.rxOverflows = 0) := by
  have arriving : (SerialTransport.openedOn chunks).coming =
      (frames chunks.flatten).map .ofFrame := outcomes_of_short short
  obtain ⟨results, happened, advances⟩ :=
    SerialTransport.readPackets_answers deadlines _ rfl patient
  rw [← packets_ofFrame, ← arriving]
  refine ⟨results, fun consumed => ?_⟩
  have fits : Outcome.overflow ∉ (SerialTransport.openedOn chunks).coming :=
    arriving ▸ overflow_notMem_ofFrame _
  have all := advances.coming
  rw [all, List.mem_append, not_or] at fits
  have nothing := consumed.coming.resolve_right fun overflow => fits.2 (by simp [overflow])
  rw [nothing, List.append_nil] at all
  have packetsRead := advances.packetsRead
  have protocolErrors := advances.protocolErrors
  have rxOverflows := advances.rxOverflows
  rw [← all] at packetsRead protocolErrors
  rw [arriving, errors_ofFrame] at protocolErrors
  rw [List.count_eq_zero_of_not_mem fits.1] at rxOverflows
  exact ⟨packetsRead.trans (Nat.zero_add _), protocolErrors.trans (Nat.zero_add _), rxOverflows⟩

/-- The frame of a `PING` cut in two, after one that is damaged. -/
def damagedThenPing : List (List UInt8) :=
  [[0x03, 0x02, 0x00, 0x00, 0x03, 0x02, 0x01, 0x02], [0x01, 0x01, 0x01, 0x03, 0x39, 0xA2, 0x00]]

theorem transport_extracts_frames_ping :
    (((SerialTransport.openedOn damagedThenPing).readPackets [40, 40]).1 =
      (List.range [40, 40].length).map fun i =>
        ((frames damagedThenPing.flatten).filterMap fun frame =>
            (Codec.decodePacket frame).toOption)[i]?.elim
          (.error "timed out waiting for packet") .ok) ∧
    (((SerialTransport.openedOn damagedThenPing).readPackets [40, 40]).2.Consumed →
      ((SerialTransport.openedOn damagedThenPing).readPackets [40, 40]).2.packetsRead =
          ((frames damagedThenPing.flatten).filterMap fun frame =>
            (Codec.decodePacket frame).toOption).length ∧
        ((SerialTransport.openedOn damagedThenPing).readPackets [40, 40]).2.protocolErrors =
          (frames damagedThenPing.flatten).countP
            (fun frame => (Codec.decodePacket frame).toOption.isNone) ∧
        ((SerialTransport.openedOn damagedThenPing).readPackets [40, 40]).2.rxOverflows = 0) :=
  transport_extracts_frames damagedThenPing [40, 40] (by decide)
    (SerialTransport.patient_of_load [40, 40] _ rfl (by decide))

end Daft.Host
