import Daft.Host.Reception

/-!
# Reception and the ends of reads

The buffer is checked for its length between two reads only. An open run that is too long
is dropped as far as it has been read, and the rest of it is taken for a whole run. How
much is dropped depends on where the reads end, and so may what is decoded at the zero.
-/

namespace Daft.Host

open Logic

/-- Reads that return this stream. -/
structure Splits (stream : List UInt8) (chunks : List (List UInt8)) : Prop where
  flatten : chunks.flatten = stream
  reads : ∀ chunk ∈ chunks, chunk ≠ [] ∧ chunk.length ≤ 128

/-- What so many overflows may drop of a run. The buffer holds at most 256 bytes before
the read that makes it overflow. -/
def Droppable (overflows dropped : Nat) : Prop :=
  257 * overflows ≤ dropped ∧ dropped ≤ 384 * overflows

/-- No frame hides behind what overflows may drop of a run. -/
def Unambiguous (stream : List UInt8) : Prop :=
  ∀ run ∈ Delimited.closed 0 stream, ∀ overflows dropped, 0 < overflows →
    Droppable overflows dropped → (Codec.decodePacket (run.drop dropped)).toOption = none

/-! ## Frames -/

/-- What the runs of a stream decode to. -/
def decoded (stream : List UInt8) : List Codec.Packet :=
  (Delimited.closed 0 stream).filterMap fun run => (Codec.decodePacket run).toOption

section

variable {run rx lost later : List UInt8}

theorem decode_length {packet : Codec.Packet} (clean : 0 ∉ run)
    (accepted : (Codec.decodePacket run).toOption = some packet) :
    run.length = packet.payload.length + 10 ∧ packet.payload.length ≤ 128 := by
  rw [Codec.decodePacket_eq, Option.map_eq_some_iff] at accepted
  obtain ⟨sent, accepted, rfl⟩ := accepted
  cases result : Daft.decodePacket run with
  | error => simp [result, Except.toOption] at accepted
  | ok packet =>
    obtain rfl : packet = sent := by simpa [result, Except.toOption] using accepted
    obtain ⟨length, legal⟩ := decodePacket_length clean result
    have bytes : (Codec.received packet).payload.length = packet.payloadLen.toNat := legal.bytes_length
    rw [bytes]
    exact ⟨length, legal⟩

theorem decode_empty : (Codec.decodePacket []).toOption = none := by
  cases accepted : (Codec.decodePacket []).toOption with
  | none => rfl
  | some packet =>
    obtain ⟨length, -⟩ := decode_length List.not_mem_nil accepted
    simp at length

theorem packets_append (first later : List Outcome) :
    Outcome.packets (first ++ later) = Outcome.packets first ++ Outcome.packets later :=
  List.filterMap_append

/-- Empty runs and overflows bring no packet. -/
theorem packets_scan (rx : List UInt8) : Outcome.packets (scan rx) = decoded rx := by
  have overflow : Outcome.packets (if Overflows rx then [.overflow] else []) = [] := by
    split <;> rfl
  rw [scan, packets_append, overflow, List.append_nil, packets_ofFrame, frames, decoded,
    List.filterMap_filter]
  refine congrArg (List.filterMap · _) (funext fun run => ?_)
  by_cases empty : run = []
  · simp [empty, decode_empty]
  · simp [empty]

theorem decoded_of_clean (clean : 0 ∉ rx) : decoded rx = [] := by
  rw [decoded, Delimited.closed_of_clean clean]
  rfl

theorem decoded_run (clean : 0 ∉ run) (rest : List UInt8) :
    decoded (run ++ 0 :: rest) = (Codec.decodePacket run).toOption.toList ++ decoded rest := by
  rw [decoded, Delimited.closed_run clean, decoded, List.filterMap_cons]
  cases (Codec.decodePacket run).toOption <;> rfl

theorem decoded_append (rx later : List UInt8) :
    decoded (rx ++ later) = decoded rx ++ decoded (Delimited.trailing 0 rx ++ later) := by
  rw [decoded, Delimited.closed_append, List.filterMap_append, decoded, decoded]

/-! ## Streams without hidden frames -/

/-- What overflows have dropped of the run that the buffer begins with. -/
structure Lost (lost : List UInt8) : Prop where
  clean : 0 ∉ lost
  droppable : ∃ overflows, Droppable overflows lost.length

theorem Lost.nothing : Lost [] := ⟨List.not_mem_nil, 0, by simp [Droppable]⟩

/-- The rest of a run decodes as the run does. -/
theorem Lost.decode (dropped : Lost lost) (clean : 0 ∉ run) {rest : List UInt8}
    (unambiguous : Unambiguous (lost ++ run ++ 0 :: rest)) :
    (Codec.decodePacket (lost ++ run)).toOption = (Codec.decodePacket run).toOption := by
  obtain ⟨overflows, droppable⟩ := dropped.droppable
  have whole : 0 ∉ lost ++ run := by simp [dropped.clean, clean]
  have closed : lost ++ run ∈ Delimited.closed 0 (lost ++ run ++ 0 :: rest) := by
    rw [Delimited.closed_run whole]
    exact List.mem_cons_self
  rcases Nat.eq_zero_or_pos overflows with rfl | some
  · have nothing : lost = [] := List.length_eq_zero_iff.mp (by simpa [Droppable] using droppable)
    rw [nothing, List.nil_append]
  · have hidden := unambiguous _ closed overflows lost.length some droppable
    rw [List.drop_left] at hidden
    rw [hidden]
    cases accepted : (Codec.decodePacket (lost ++ run)).toOption with
    | none => rfl
    | some packet =>
      obtain ⟨length, short⟩ := decode_length whole accepted
      have long := droppable.1
      rw [List.length_append] at length
      omega

theorem Unambiguous.buffered (unambiguous : Unambiguous (rx ++ later)) : Unambiguous rx := by
  intro run member
  refine unambiguous run ?_
  rw [Delimited.closed_append]
  exact List.mem_append_left _ member

theorem Unambiguous.after_read (unambiguous : Unambiguous (rx ++ later)) :
    Unambiguous (Delimited.trailing 0 rx ++ later) := by
  intro run member
  refine unambiguous run ?_
  rw [Delimited.closed_append]
  exact List.mem_append_right _ member

/-- The buffer decodes to what it would with the bytes lost; its open run may have lost them too. -/
theorem Lost.scan (dropped : Lost lost) (unambiguous : Unambiguous (lost ++ rx)) :
    decoded (lost ++ rx) = decoded rx ∧
      ∃ lost', Lost lost' ∧ Delimited.trailing 0 (lost ++ rx) = lost' ++ Delimited.trailing 0 rx := by
  by_cases closes : 0 ∈ rx
  · obtain ⟨run, rest, rfl, clean⟩ := List.eq_append_cons_of_mem closes
    have whole : 0 ∉ lost ++ run := by simp [dropped.clean, clean]
    rw [← List.append_assoc] at unambiguous ⊢
    have same := dropped.decode clean unambiguous
    refine ⟨?_, [], .nothing, ?_⟩
    · rw [decoded_run whole, decoded_run clean, same]
    · rw [Delimited.trailing_run whole, Delimited.trailing_run clean, List.nil_append]
  · have whole : 0 ∉ lost ++ rx := by simp [dropped.clean, closes]
    refine ⟨?_, lost, dropped, ?_⟩
    · rw [decoded_of_clean whole, decoded_of_clean closes]
    · rw [Delimited.trailing_of_clean whole, Delimited.trailing_of_clean closes]

/-- What is kept of the buffer continues a run that may have lost more. -/
theorem Lost.keep (dropped : Lost lost) (room : rx.length ≤ 384) :
    ∃ lost', Lost lost' ∧ lost ++ Delimited.trailing 0 rx = lost' ++ kept rx := by
  unfold kept
  split
  case isFalse => exact ⟨lost, dropped, rfl⟩
  case isTrue long =>
    obtain ⟨overflows, droppable⟩ := dropped.droppable
    have open_clean : 0 ∉ Delimited.trailing 0 rx := Delimited.trailing_clean rx
    have fits : (Delimited.trailing 0 rx).length ≤ rx.length := Delimited.trailing_length_le rx
    refine ⟨lost ++ Delimited.trailing 0 rx, ⟨?_, overflows + 1, ?_⟩, (List.append_nil _).symm⟩
    · simp [dropped.clean, open_clean]
    · rw [List.length_append]
      unfold Droppable Overflows at *
      omega

theorem kept_length_le (rx : List UInt8) : (kept rx).length ≤ 256 := by
  unfold kept
  split
  case isTrue => exact Nat.zero_le _
  case isFalse fits => exact Nat.not_lt.mp fits

theorem packets_of_unambiguous {chunks : List (List UInt8)}
    (reads : ∀ chunk ∈ chunks, chunk.length ≤ 128) (dropped : Lost lost) (room : rx.length ≤ 384)
    (unambiguous : Unambiguous (lost ++ (rx ++ chunks.flatten))) :
    Outcome.packets (outcomes rx chunks) = decoded (lost ++ (rx ++ chunks.flatten)) := by
  induction chunks generalizing rx lost with
  | nil =>
    rw [List.flatten_nil, List.append_nil] at unambiguous ⊢
    rw [outcomes, receive, List.append_nil, packets_scan, (dropped.scan unambiguous).1]
  | cons chunk chunks ih =>
    obtain ⟨small, later⟩ := List.forall_mem_cons.mp reads
    rw [← List.append_assoc] at unambiguous ⊢
    obtain ⟨same, between, droppedBetween, opened⟩ := dropped.scan unambiguous.buffered
    obtain ⟨lost', dropped', left⟩ := droppedBetween.keep room
    have rest : lost' ++ ((kept rx ++ chunk) ++ chunks.flatten) =
        Delimited.trailing 0 (lost ++ rx) ++ (chunk :: chunks).flatten := by
      rw [opened, left, List.flatten_cons]
      simp
    have full : (kept rx ++ chunk).length ≤ 384 := by
      rw [List.length_append]
      exact Nat.add_le_add (kept_length_le rx) small
    rw [outcomes_cons, packets_append, packets_scan, decoded_append, same,
      ih later dropped' full (rest ▸ unambiguous.after_read), rest]

end

/-! ## Reads that end where one chooses -/

/-- What a receiver holds after some reads. -/
def heldAfter (held : List UInt8) (chunks : List (List UInt8)) : List UInt8 :=
  chunks.foldl (fun held chunk => kept (held ++ chunk)) held

/-- Reads of one byte each. -/
def bytewise (s : List UInt8) : List (List UInt8) := s.map ([·])

section

variable {held run : List UInt8} {chunks : List (List UInt8)}

theorem receive_append (held : List UInt8) (first later : List (List UInt8)) :
    receive held (first ++ later) = receive held first ++ receive (heldAfter held first) later := by
  induction first generalizing held with
  | nil => rfl
  | cons chunk first ih => simp [receive, heldAfter, ih]

theorem heldAfter_append (held : List UInt8) (first later : List (List UInt8)) :
    heldAfter held (first ++ later) = heldAfter (heldAfter held first) later :=
  List.foldl_append

theorem Splits.append {s s' : List UInt8} {chunks' : List (List UInt8)} (first : Splits s chunks)
    (later : Splits s' chunks') : Splits (s ++ s') (chunks ++ chunks') where
  flatten := by rw [List.flatten_append, first.flatten, later.flatten]
  reads chunk member := (List.mem_append.mp member).elim (first.reads chunk) (later.reads chunk)

theorem bytewise_splits (s : List UInt8) : Splits s (bytewise s) where
  flatten := by rw [bytewise, ← List.flatMap_def, List.flatMap_singleton']
  reads chunk member := by
    obtain ⟨byte, -, rfl⟩ := List.mem_map.mp member
    simp

/-- Reads of an open run that fits are kept. -/
theorem receive_of_fits (clean : 0 ∉ held ++ chunks.flatten)
    (fits : (held ++ chunks.flatten).length ≤ 256) :
    receive held chunks = [] ∧ heldAfter held chunks = held ++ chunks.flatten := by
  induction chunks generalizing held with
  | nil => exact ⟨rfl, (List.append_nil held).symm⟩
  | cons chunk chunks ih =>
    rw [List.flatten_cons, ← List.append_assoc] at clean fits ⊢
    have prefixed : held ++ chunk <+: held ++ chunk ++ chunks.flatten := List.prefix_append ..
    obtain ⟨nothing, all⟩ := scan_of_fits (fun zero => clean (prefixed.subset zero))
      (Nat.le_trans prefixed.length_le fits)
    obtain ⟨silent, held'⟩ := ih clean fits
    constructor
    · rw [receive, nothing, all, silent, List.append_nil]
    · rw [heldAfter, List.foldl_cons, all]
      exact held'

/-- An open run from 257 bytes on is dropped where a read ends, at most 384 bytes from its
beginning. -/
theorem receive_of_long (clean : 0 ∉ run) (low : 257 ≤ run.length) (high : run.length ≤ 384) :
    ∃ chunks, Splits run chunks ∧ receive [] chunks = [.overflow] ∧ heldAfter [] chunks = [] := by
  have buffered : run.take 256 = run.take 128 ++ (run.drop 128).take 128 :=
    List.take_add (i := 128) (j := 128)
  have whole : run.take 256 ++ run.drop 256 = run := List.take_append_drop 256 run
  have begins : 0 ∉ [] ++ [run.take 128, (run.drop 128).take 128].flatten := by
    rw [List.nil_append, List.flatten_cons, List.flatten_singleton, ← buffered]
    exact fun zero => clean (List.mem_of_mem_take zero)
  have fits : ([] ++ [run.take 128, (run.drop 128).take 128].flatten).length ≤ 256 := by
    rw [List.nil_append, List.flatten_cons, List.flatten_singleton, ← buffered, List.length_take]
    omega
  obtain ⟨silent, held⟩ := receive_of_fits begins fits
  rw [List.nil_append, List.flatten_cons, List.flatten_singleton, ← buffered] at held
  obtain ⟨overflow, empty⟩ := scan_of_long clean (Nat.lt_of_lt_of_le (by decide) low)
  refine ⟨[run.take 128, (run.drop 128).take 128] ++ [run.drop 256], ⟨?_, ?_⟩, ?_, ?_⟩
  · rw [List.flatten_append, List.flatten_cons, List.flatten_singleton, List.flatten_singleton,
      ← buffered, whole]
  · intro chunk member
    have lengths : chunk.length ∈
        [min 128 run.length, min 128 (run.length - 128), run.length - 256] := by
      simpa using List.mem_map_of_mem (f := List.length) member
    rw [← List.length_pos_iff]
    simp only [List.mem_cons, List.not_mem_nil, or_false] at lengths
    omega
  · rw [receive_append, silent, held, List.nil_append, receive, whole, overflow, receive,
      List.append_nil]
  · rw [heldAfter_append, held]
    exact (congrArg kept whole).trans empty

/-- Any number of bytes that overflows may drop is dropped by some reads. -/
theorem Droppable.reads {overflows dropped : Nat} (droppable : Droppable overflows dropped)
    (within : dropped ≤ run.length) (clean : 0 ∉ run) :
    ∃ chunks, Splits (run.take dropped) chunks ∧ Outcome.packets (receive [] chunks) = [] ∧
      heldAfter [] chunks = [] := by
  induction overflows generalizing run dropped with
  | zero =>
    have nothing : dropped = 0 := by simpa [Droppable] using droppable
    exact ⟨[], by rw [nothing]; exact ⟨rfl, by simp⟩, rfl, rfl⟩
  | succ overflows ih =>
    unfold Droppable at droppable ih
    -- The first overflow drops as little as leaves the others enough to drop.
    obtain ⟨part, rest, split, low, high, least, most⟩ : ∃ part rest, dropped = part + rest ∧
        257 ≤ part ∧ part ≤ 384 ∧ 257 * overflows ≤ rest ∧ rest ≤ 384 * overflows :=
      ⟨max 257 (dropped - 384 * overflows), min (dropped - 257) (384 * overflows), by omega,
        by omega, by omega, by omega, by omega⟩
    have length : (run.take part).length = part := by
      rw [List.length_take]
      omega
    obtain ⟨first, firstSplits, overflow, emptied⟩ := @receive_of_long (run.take part)
      (fun zero => clean (List.mem_of_mem_take zero)) (by omega) (by omega)
    obtain ⟨others, othersSplit, silent, empty⟩ := @ih (run.drop part) rest
      ⟨least, most⟩ (by rw [List.length_drop]; omega) fun zero => clean (List.mem_of_mem_drop zero)
    refine ⟨first ++ others, ?_, ?_, ?_⟩
    · rw [split, List.take_add]
      exact firstSplits.append othersSplit
    · rw [receive_append, packets_append, overflow, emptied, silent]
      rfl
    · rw [heldAfter_append, emptied, empty]

/-- A zero ends the open run. -/
theorem receive_zero (clean : 0 ∉ held) :
    Outcome.packets (receive held [[0]]) = (Codec.decodePacket held).toOption.toList := by
  have closed : decoded (held ++ [0]) = (Codec.decodePacket held).toOption.toList ++ decoded [] :=
    decoded_run clean []
  rw [receive, receive, List.append_nil, packets_scan, closed, decoded_of_clean List.not_mem_nil,
    List.append_nil]

theorem kept_zero (held : List UInt8) : kept (held ++ [0]) = [] := by
  have nothing : Delimited.trailing 0 (held ++ [0]) = [] := by
    rw [Delimited.trailing_append, Delimited.trailing_run (Delimited.trailing_clean held)]
    exact Delimited.trailing_of_clean List.not_mem_nil
  have fits : ¬ Overflows (held ++ [0]) := by simp [nothing]
  rw [kept, if_neg fits, nothing]

theorem heldAfter_bytewise {before : List UInt8}
    (ends : before = [] ∨ ∃ init, before = init ++ [0]) :
    heldAfter [] (bytewise before) = [] := by
  obtain rfl | ⟨init, rfl⟩ := ends
  · rfl
  · rw [bytewise, List.map_append, heldAfter_append]
    exact kept_zero _

/-- Reads that drop what overflows may drop of one run, and are of one byte elsewhere. -/
theorem Droppable.splits {overflows dropped : Nat} (droppable : Droppable overflows dropped)
    (within : dropped ≤ run.length) (clean : 0 ∉ run) (short : (run.drop dropped).length ≤ 256)
    {before : List UInt8} (ends : before = [] ∨ ∃ init, before = init ++ [0]) (after : List UInt8) :
    ∃ chunks, Splits (before ++ (run ++ 0 :: after)) chunks ∧
      Outcome.packets (receive [] chunks) =
        Outcome.packets (receive [] (bytewise before)) ++
          (Codec.decodePacket (run.drop dropped)).toOption.toList ++
          Outcome.packets (receive [] (bytewise after)) := by
  obtain ⟨cut, splits, silent, emptied⟩ := droppable.reads within clean
  have rest : 0 ∉ run.drop dropped := fun zero => clean (List.mem_of_mem_drop zero)
  have bytes : (bytewise (run.drop dropped)).flatten = run.drop dropped := (bytewise_splits _).flatten
  obtain ⟨quiet, held⟩ := @receive_of_fits [] (bytewise (run.drop dropped))
    (by rwa [List.nil_append, bytes]) (by rwa [List.nil_append, bytes])
  rw [List.nil_append, bytes] at held
  have zero : Splits [0] [[0]] := ⟨rfl, by simp⟩
  refine ⟨bytewise before ++ (cut ++ (bytewise (run.drop dropped) ++ ([[0]] ++ bytewise after))),
    ?_, ?_⟩
  · have joined := (bytewise_splits before).append (splits.append
      ((bytewise_splits (run.drop dropped)).append (zero.append (bytewise_splits after))))
    rwa [← List.append_assoc (run.take dropped), List.take_append_drop] at joined
  · simp only [receive_append, packets_append, heldAfter_bytewise ends, emptied, silent, quiet, held,
      receive_zero rest]
    have empty : heldAfter (run.drop dropped) [[0]] = [] := kept_zero _
    rw [empty]
    simp [Outcome.packets]

end

/-! ## Main result -/

theorem answers_injective {arriving arriving' : List Codec.Packet} {calls : Nat}
    (enough : arriving.length ≤ calls) (enough' : arriving'.length ≤ calls)
    (same : SerialTransport.answers arriving calls = SerialTransport.answers arriving' calls) :
    arriving = arriving' := by
  have answer : ∀ arrived : Option Codec.Packet,
      (arrived.elim (.error "timed out waiting for packet") Except.ok : Except String _).toOption =
        arrived := by
    rintro (_ | packet) <;> rfl
  apply List.ext_getElem?
  intro i
  by_cases called : i < calls
  · have here := congrArg (·[i]?) same
    simp only [SerialTransport.answers, List.getElem?_map, List.getElem?_range called, Option.map_some,
      Option.some.injEq] at here
    rw [← answer arriving[i]?, here, answer]
  · rw [List.getElem?_eq_none (by omega), List.getElem?_eq_none (by omega)]

/-- Patient calls, equally many, return the same over every two ways of reading the stream. -/
def SameReceived (stream : List UInt8) : Prop :=
  ∀ chunks chunks' deadlines deadlines', Splits stream chunks → Splits stream chunks' →
    (SerialTransport.openedOn chunks).Patient deadlines →
    (SerialTransport.openedOn chunks').Patient deadlines' →
    deadlines.length = deadlines'.length →
    ((SerialTransport.openedOn chunks).readPackets deadlines).1 =
      ((SerialTransport.openedOn chunks').readPackets deadlines').1

theorem packets_openedOn (chunks : List (List UInt8)) :
    Outcome.packets (SerialTransport.openedOn chunks).coming =
      Outcome.packets (receive [] chunks) := by
  obtain ⟨nothing, empty⟩ : scan [] = [] ∧ kept [] = [] := scan_of_fits List.not_mem_nil (Nat.zero_le _)
  have start : (SerialTransport.openedOn chunks).coming = outcomes [] chunks := rfl
  rw [start, outcomes, nothing, empty, List.nil_append]

/-- What is received over some reads can be had from calls that are patient. -/
theorem SameReceived.packets {stream : List UInt8} {chunks chunks' : List (List UInt8)}
    (same : SameReceived stream) (splits : Splits stream chunks) (splits' : Splits stream chunks') :
    Outcome.packets (receive [] chunks) = Outcome.packets (receive [] chunks') := by
  generalize enough : (Outcome.packets (receive [] chunks)).length +
    (Outcome.packets (receive [] chunks')).length = calls
  have received : ∀ chunks, ∃ deadlines, deadlines.length = calls ∧
      (SerialTransport.openedOn chunks).Patient deadlines ∧
      ((SerialTransport.openedOn chunks).readPackets deadlines).1 =
        SerialTransport.answers (Outcome.packets (receive [] chunks)) calls := by
    intro chunks
    have patient := SerialTransport.patient_of_load
      (List.replicate calls ((SerialTransport.openedOn chunks).load + 1))
      (SerialTransport.openedOn chunks) rfl
      fun turns member => Nat.lt_of_succ_le (Nat.le_of_eq (List.eq_of_mem_replicate member).symm)
    obtain ⟨results, -⟩ := SerialTransport.readPackets_answers _ _ rfl patient
    rw [packets_openedOn, List.length_replicate] at results
    exact ⟨_, List.length_replicate, patient, results⟩
  obtain ⟨deadlines, count, patient, results⟩ := received chunks
  obtain ⟨deadlines', count', patient', results'⟩ := received chunks'
  have equal := same _ _ _ _ splits splits' patient patient' (count.trans count'.symm)
  rw [results, results'] at equal
  exact answers_injective (by omega) (by omega) equal

/-- Some frame that overflows may leave of a run is received over some reads only. -/
theorem SameReceived.unambiguous {stream : List UInt8} (same : SameReceived stream) :
    Unambiguous stream := by
  intro run member overflows dropped some droppable
  cases accepted : (Codec.decodePacket (run.drop dropped)).toOption with
  | none => rfl
  | some packet =>
    obtain ⟨clean, before, after, rfl, ends⟩ := Delimited.mem_closed member
    obtain ⟨length, short⟩ := decode_length (fun zero => clean (List.mem_of_mem_drop zero)) accepted
    -- One byte more or less can be dropped as well, and frames of packets differ in length.
    obtain ⟨other, droppable', beside⟩ : ∃ other, Droppable overflows other ∧
        (other = dropped + 1 ∨ other + 1 = dropped) := by
      unfold Droppable at droppable ⊢
      by_cases least : dropped = 257 * overflows
      · exact ⟨dropped + 1, by omega, .inl rfl⟩
      · exact ⟨dropped - 1, by omega, .inr (by omega)⟩
    have length' : (run.drop other).length + other = (run.drop dropped).length + dropped := by
      rw [List.length_drop] at length ⊢
      rw [List.length_drop]
      omega
    have within : dropped ≤ run.length ∧ other ≤ run.length := by
      rw [List.length_drop] at length
      omega
    obtain ⟨chunks, splits, received⟩ := droppable.splits within.1 clean (by omega) ends after
    obtain ⟨chunks', splits', received'⟩ := droppable'.splits within.2 clean (by omega) ends after
    have equal := same.packets splits splits'
    rw [received, received', accepted] at equal
    have accepted' := List.append_cancel_left (List.append_cancel_right equal)
    have decoded' := congrArg List.head? accepted'
    rw [Option.head?_toList, Option.head?_toList] at decoded'
    obtain ⟨lengthOther, -⟩ :=
      decode_length (fun zero => clean (List.mem_of_mem_drop zero)) decoded'.symm
    omega

theorem Unambiguous.same {stream : List UInt8} (unambiguous : Unambiguous stream) :
    SameReceived stream := by
  intro chunks chunks' deadlines deadlines' splits splits' patient patient' calls
  have received : ∀ {chunks}, Splits stream chunks →
      Outcome.packets (SerialTransport.openedOn chunks).coming = decoded stream := by
    rintro chunks ⟨rfl, reads⟩
    exact packets_of_unambiguous (fun chunk member => (reads chunk member).2) .nothing (Nat.zero_le _)
      unambiguous
  obtain ⟨results, -⟩ := SerialTransport.readPackets_answers deadlines _ rfl patient
  obtain ⟨results', -⟩ := SerialTransport.readPackets_answers deadlines' _ rfl patient'
  rw [results, results', received splits, received splits', calls]

/-- Patient calls return the same over any two ways of reading the stream, exactly when no
frame hides in it behind what overflows may drop. -/
theorem reception_chunking_iff (stream : List UInt8) :
    SameReceived stream ↔ Unambiguous stream :=
  ⟨SameReceived.unambiguous, Unambiguous.same⟩

/-- 257 stray bytes and the frame of a `PING`. -/
def strayThenPing : List UInt8 :=
  List.replicate 257 0x55 ++ [0x03, 0x02, 0x01, 0x02, 0x01, 0x01, 0x01, 0x03, 0x39, 0xA2]

/-- The `PING` is received where a read ends right before its frame. -/
theorem reception_depends_on_chunking : ¬ ∀ stream, SameReceived stream := by
  intro same
  have hidden : Unambiguous (strayThenPing ++ [0]) := (same _).unambiguous
  have closed : strayThenPing ∈ Delimited.closed 0 (strayThenPing ++ [0]) := by
    rw [Delimited.closed_run (by decide +kernel)]
    exact List.mem_cons_self
  have refused := hidden strayThenPing closed 1 257 Nat.one_pos ⟨Nat.le_refl _, by decide⟩
  have frame : strayThenPing.drop 257 =
      [0x03, 0x02, 0x01, 0x02, 0x01, 0x01, 0x01, 0x03, 0x39, 0xA2] := by decide +kernel
  rw [frame, Codec.decodePacket_eq, decodePacket_ping] at refused
  cases refused

end Daft.Host
