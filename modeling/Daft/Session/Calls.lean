import Daft.Session.Matching
import Mathlib.Logic.Relation

/-!
# The calls of a session

What each call of a session ends with, and what the client has filed, whatever the
order of the steps.
-/

namespace Daft

open Logic Host Host.Messages

/-! ## What holds of a session -/

/-- What is on the channel is numbered by the client. -/
structure System.Supplied (s : System) : Prop where
  replayable : s.machine.Replayable
  client : s.client = .after s.calls.length
  requests : ∀ entry ∈ s.up, entry.2.seq = UInt16.ofNat (seqAt entry.1)
  packets : ∀ entry ∈ s.down, entry.2.Carried entry.1

/-- The call in progress is the latest, and what is left of its answer is to come. -/
structure System.Awaits (s : System) (n : ℕ) (pending : Pending) : Prop where
  latest : n + 1 = s.calls.length
  call : s.calls[n]? = some pending.call
  seq : pending.seq = seqAt n
  answer : ∃ request, pending.call.request = some request ∧
    ((n, request.packet (seqAt n)) ∈ s.up ∧ pending.sawAck = false ∨
      ∃ replies, (n, replies) ∈ s.answers ∧ Reply (request.packet (seqAt n)) replies ∧
        Remains replies pending.sawAck (answerOf n s.down))

/-- What a session leaves behind. -/
structure System.Recorded (s : System) : Prop where
  /-- The calls end in order, each once. -/
  ended : s.finished.map Prod.fst ++ (s.current.map Prod.fst).toList = List.range s.calls.length
  /-- A call times out, or ends with what was sent for it. -/
  fulfilled : ∀ entry ∈ s.finished, entry.2 = .raised .timeoutError ∨
    ∃ call replies, s.calls[entry.1]? = some call ∧ (entry.1, replies) ∈ s.answers ∧
      Fulfils call replies entry.2
  /-- A packet that is not its own answer changes nothing in a call. -/
  own : ∀ reading ∈ s.reads, reading.answered = some reading.number ∨
    reading.pending.Passes reading.received
  filed : Filed s.inbox s.reads

structure System.Consistent (s : System) (late : Late) : Prop where
  ordered : s.Ordered late
  supplied : s.Supplied
  awaiting : ∀ n pending, s.current = some (n, pending) → s.Awaits n pending
  recorded : s.Recorded

section

variable {b : MotionBackend} {late : Late} {s s' : System} {n : ℕ} {r : Packet} {pending : Pending}

theorem System.Ordered.unhandled (ordered : s.Ordered late) (waits : n ∈ s.up.map Prod.fst) :
    n ∉ s.answers.map Prod.fst := by
  intro handled
  have once : (s.answers.map Prod.fst ++ s.up.map Prod.fst).Nodup := by
    rw [ordered.handled]
    exact List.nodup_range
  exact (List.nodup_append.mp once).2.2 n handled n waits rfl

theorem System.start_consistent {m : Machine} (replayable : m.Replayable) :
    (System.start m).Consistent late := by
  constructor
  · exact ⟨rfl, by simp [System.start], fun _ => .singleton _, by simp [System.start, System.due]⟩
  · exact ⟨replayable, rfl, by simp [System.start], by simp [System.start]⟩
  · rintro n pending waits
    cases waits
  · exact ⟨rfl, by simp [System.start], by simp [System.start], ⟨rfl, rfl⟩⟩

/-- What a call has ended with stays so. -/
theorem System.Recorded.grow (recorded : s.Recorded) (calls : List ClientCall)
    (answers : List (ℕ × List Packet)) :
    ∀ entry ∈ s.finished, entry.2 = .raised .timeoutError ∨
      ∃ call replies, (s.calls ++ calls)[entry.1]? = some call ∧
        (entry.1, replies) ∈ s.answers ++ answers ∧ Fulfils call replies entry.2 := by
  intro entry member
  rcases recorded.fulfilled entry member with timeout | ⟨call, replies, made, given, ends⟩
  · exact .inl timeout
  · have within : entry.1 < s.calls.length := (List.getElem?_eq_some_iff.mp made).1
    exact .inr ⟨call, replies, (List.getElem?_append_left within).trans made,
      List.mem_append_left _ given, ends⟩

/-! ## Calls -/

theorem System.Consistent.issue (consistent : s.Consistent late) (idle : s.current = none)
    {call : ClientCall} {request : Request} (writes : call.request = some request)
    (few : s.Few late) : (s.issue call request).Consistent late := by
  obtain ⟨ordered, supplied, -, recorded⟩ := consistent
  have numbered : s.client.seq = (seqAt s.calls.length, .after (s.calls.length + 1)) := by
    rw [supplied.client, DaftClient.seq_after]
  have issued : s.issue call request = { s with
      client := .after (s.calls.length + 1)
      calls := s.calls ++ [call]
      up := s.up ++ [(s.calls.length, request.packet (seqAt s.calls.length))]
      current := some (s.calls.length, { call, seq := seqAt s.calls.length }) } := by
    unfold System.issue
    rw [numbered]
  refine ⟨ordered.issue few call request, ?_, ?_, ?_⟩
  · rw [issued]
    refine ⟨supplied.replayable, by simp, ?_, supplied.packets⟩
    exact List.forall_mem_append.mpr ⟨supplied.requests, by simp [Request.packet]⟩
  · rw [issued]
    intro n pending waits
    obtain ⟨rfl, rfl⟩ := Prod.mk.inj (Option.some.inj waits)
    refine ⟨by simp, by simp, rfl, request, writes, .inl ⟨by simp, rfl⟩⟩
  · rw [issued]
    have grown := recorded.grow [call] []
    rw [List.append_nil] at grown
    refine ⟨?_, grown, recorded.own, recorded.filed⟩
    have ended := recorded.ended
    rw [idle] at ended
    simpa [List.range_succ] using ended

/-! ## The actuator -/

section

variable {up : List (ℕ × Packet)} {replies : List Packet}
  (arrives : s.up = (n, r) :: up)
  (sent : (newPackets s.machine (s.machine.handlePacket b openPort r)).filter Packet.answers = replies)

include arrives sent

omit arrives in
theorem System.handle_answers : (s.handle b n r up).answers = s.answers ++ [(n, replies)] := by
  show s.answers ++ [(n, _)] = _
  rw [sent]

/-- The call in progress when a request is handled, its own or an earlier one. -/
theorem System.Awaits.handle {k : ℕ} (awaits : s.Awaits k pending) (ordered : s.Ordered late)
    (reply : Reply r replies) : (s.handle b n r up).Awaits k pending := by
  obtain ⟨latest, call, seq, request, writes, answer⟩ := awaits
  have unhandled : n ∉ s.answers.map Prod.fst := ordered.unhandled (by simp [arrives])
  have left : answerOf k (s.handle b n r up).down =
      answerOf k s.down ++ answerOf k (tag (some n)
        (newPackets s.machine (s.machine.handlePacket b openPort r))) := answerOf_append ..
  refine ⟨latest, call, seq, request, writes, ?_⟩
  rw [handle_answers sent, left]
  rcases answer with ⟨waiting, unseen⟩ | ⟨earlier, given, replied, remains⟩
  · rw [arrives] at waiting
    rcases List.mem_cons.mp waiting with here | later
    · obtain ⟨rfl, rfl⟩ := Prod.mk.inj here
      have absent : answerOf k s.down = [] :=
        Decidable.not_not.mp fun found => unhandled (ordered.tagged k (mem_numbers.mpr found))
      rw [absent, answerOf_tag, sent, unseen]
      exact .inr ⟨replies, by simp, reply, .all replies⟩
    · exact .inl ⟨later, unseen⟩
  · have other : some n ≠ some k := by
      rintro ⟨⟩
      exact unhandled (List.mem_map_of_mem (f := Prod.fst) given)
    rw [answerOf_tag_other other, List.append_nil]
    exact .inr ⟨earlier, List.mem_append_left _ given, replied, remains⟩

end

theorem System.Consistent.handle {up : List (ℕ × Packet)} (consistent : s.Consistent late)
    (arrives : s.up = (n, r) :: up) : (s.handle b n r up).Consistent late := by
  obtain ⟨ordered, supplied, awaiting, recorded⟩ := consistent
  have delivered : ∃ replies, Delivers s.machine replies (s.machine.handlePacket b openPort r) ∧
      Reply r replies := handlePacket_delivers supplied.replayable
  obtain ⟨replies, delivers, reply⟩ := delivered
  obtain ⟨sent, events⟩ := delivers.newPackets
  have answers : (s.handle b n r up).answers = s.answers ++ [(n, replies)] := handle_answers sent
  have numbers : (s.handle b n r up).down.filterMap Prod.fst =
      s.down.filterMap Prod.fst ++ replies.map fun _ => n := by
    show (s.down ++ tag (some n) _).filterMap Prod.fst = _
    rw [List.filterMap_append, tag_numbers, sent]
  refine ⟨?_, ?_, ?_, recorded.ended, ?_, recorded.own, recorded.filed⟩
  · refine ordered.handle arrives rfl (by rw [answers]; simp) rfl numbers ?_
    cases reply <;> simp
  · have replayable : (step b s.machine (.handlePacket r openPort)).Replayable :=
      step_replayable _ supplied.replayable
    refine ⟨replayable, supplied.client, ?_, ?_⟩
    · intro entry member
      exact supplied.requests entry (arrives ▸ List.mem_cons_of_mem _ member)
    · refine List.forall_mem_append.mpr ⟨supplied.packets, tag_carried ?_ events⟩
      intro packet member answers
      refine reply.numbered (supplied.requests (n, r) (by simp [arrives])) packet ?_
      rw [← sent]
      exact List.mem_filter.mpr ⟨member, answers⟩
  · intro k pending waits
    exact (awaiting k pending waits).handle arrives sent ordered reply
  · have grown := recorded.grow [] [(n, replies)]
    rw [List.append_nil] at grown
    rw [answers]
    exact grown

/-- The channel changes, but not what answers the call in progress. -/
theorem System.Consistent.besides (consistent : s.Consistent late) {machine : Machine}
    {down : List (Option ℕ × Packet)} (replayable : machine.Replayable)
    (ordered : { s with machine, down : System }.Ordered late)
    (carried : ∀ entry ∈ down, entry.2.Carried entry.1)
    (left : ∀ n pending, s.current = some (n, pending) → answerOf n down = answerOf n s.down) :
    { s with machine, down : System }.Consistent late := by
  obtain ⟨-, supplied, awaiting, recorded⟩ := consistent
  refine ⟨ordered, ⟨replayable, supplied.client, supplied.requests, carried⟩, ?_,
    ⟨recorded.ended, recorded.fulfilled, recorded.own, recorded.filed⟩⟩
  intro n pending waits
  obtain ⟨latest, call, seq, request, writes, answer⟩ := awaiting n pending waits
  refine ⟨latest, call, seq, request, writes, ?_⟩
  show _ ∨ ∃ replies, _ ∧ _ ∧ Remains replies pending.sawAck (answerOf n down)
  rw [left n pending waits]
  exact answer

theorem System.Consistent.own {op : Op} (consistent : s.Consistent late)
    (own : ∀ r port, op ≠ .handlePacket r port) :
    (s.moves (step b s.machine op) none).Consistent late := by
  obtain ⟨new, sent, noise⟩ := step_noise (b := b) (m := s.machine) own
  have packets : ∀ packet ∈ newPackets s.machine (step b s.machine op), packet.Noise := by
    intro packet member
    rw [newPackets_eq sent] at member
    obtain ⟨t, inside, rfl⟩ := List.mem_map.mp (List.mem_reverse.mp member)
    exact noise t inside
  refine consistent.besides (step_replayable op consistent.supplied.replayable) ?_ ?_ ?_
  · refine consistent.ordered.of_same rfl rfl rfl ?_
    rw [List.filterMap_append, tag_none, List.append_nil]
  · exact List.forall_mem_append.mpr ⟨consistent.supplied.packets,
      tag_carried (fun packet member _ => packets packet member)
        fun packet member _ => packets packet member⟩
  · intro n pending waits
    rw [answerOf_append, answerOf_tag_other (by simp), List.append_nil]

theorem System.Consistent.insert {before after : List (Option ℕ × Packet)} {packet : Packet}
    (consistent : s.Consistent late) (noise : packet.Noise) (anywhere : s.down = before ++ after) :
    { s with down := before ++ (none, packet) :: after }.Consistent late := by
  have carried := consistent.supplied.packets
  rw [anywhere] at carried
  refine consistent.besides consistent.supplied.replayable ?_ ?_ ?_
  · refine consistent.ordered.of_same rfl rfl rfl ?_
    rw [anywhere]
    simp
  · obtain ⟨earlier, later⟩ := List.forall_mem_append.mp carried
    exact List.forall_mem_append.mpr ⟨earlier, List.forall_mem_cons.mpr ⟨noise, later⟩⟩
  · intro n pending waits
    rw [anywhere, answerOf_append, answerOf_append, answerOf_other (by simp)]

theorem System.Consistent.delay {before between after : List (Option ℕ × Packet)} {packet : Packet}
    (consistent : s.Consistent .anywhere) (ended : ∀ pending, s.current ≠ some (n, pending))
    (waits : s.down = before ++ (some n, packet) :: (between ++ after)) :
    { s with down := before ++ (between ++ (some n, packet) :: after) }.Consistent .anywhere := by
  have moved : (before ++ (between ++ (some n, packet) :: after)).Perm s.down := by
    rw [waits]
    exact List.perm_middle.append_left before
  refine consistent.besides consistent.supplied.replayable (consistent.ordered.delay moved) ?_ ?_
  · intro entry member
    exact consistent.supplied.packets entry (moved.subset member)
  · intro k pending current
    have other : some n ≠ some k := by
      rintro ⟨⟩
      exact ended pending current
    simp only [waits, answerOf_append, answerOf_other other]

/-! ## Reading -/

theorem System.finish_consistent (ordered : s.Ordered late) (supplied : s.Supplied)
    (recorded : s.Recorded) (waits : s.current = some (n, pending)) {outcome : Outcome}
    (ends : outcome = .raised .timeoutError ∨ ∃ call replies, s.calls[n]? = some call ∧
      (n, replies) ∈ s.answers ∧ Fulfils call replies outcome) :
    (s.finish n outcome).Consistent late := by
  refine ⟨ordered.of_same rfl rfl rfl rfl, ⟨supplied.replayable, supplied.client,
    supplied.requests, supplied.packets⟩, ?_, ?_, ?_, recorded.own, recorded.filed⟩
  · rintro k pending' waits'
    cases waits'
  · have ended := recorded.ended
    rw [waits] at ended
    simpa [System.finish] using ended
  · refine List.forall_mem_append.mpr ⟨recorded.fulfilled, ?_⟩
    intro entry member
    rw [List.mem_singleton.mp member]
    exact ends

theorem System.Recorded.take {reading : Reading} {inbox : Inbox}
    {down : List (Option ℕ × Packet)} (recorded : s.Recorded)
    (own : reading.answered = some reading.number ∨ reading.pending.Passes reading.received)
    (filed : Filed inbox (s.reads ++ [reading])) : (s.take reading inbox down).Recorded := by
  refine ⟨recorded.ended, recorded.fulfilled, ?_, filed⟩
  refine List.forall_mem_append.mpr ⟨recorded.own, ?_⟩
  intro reading' member
  rw [List.mem_singleton.mp member]
  exact own

/-- A call that is still due has another number than the one in progress. -/
theorem System.Awaits.other_seq (awaits : s.Awaits n pending) (ordered : s.Ordered late) {k : ℕ}
    (due : k ∈ s.due) (other : k ≠ n) : seqAt k ≠ pending.seq := by
  have latest := awaits.latest
  have earlier := ordered.lt due
  have near := ordered.near k due
  rw [awaits.seq, seqAt, seqAt]
  omega

section

variable {answered : Option ℕ} {packet : Packet} {down : List (Option ℕ × Packet)}

theorem System.Supplied.take {reading : Reading} {inbox : Inbox} (supplied : s.Supplied)
    (arrives : s.down = (answered, packet) :: down) : (s.take reading inbox down).Supplied := by
  refine ⟨supplied.replayable, supplied.client, supplied.requests, ?_⟩
  intro entry member
  exact supplied.packets entry (arrives ▸ List.mem_cons_of_mem _ member)

/-- A packet of its own answer takes the call on, or ends it. -/
theorem System.Consistent.read_own (consistent : s.Consistent late)
    (waits : s.current = some (n, pending)) (arrives : s.down = (some n, packet) :: down) :
    (s.read ⟨n, some n, pending, packet⟩ down).Consistent late := by
  obtain ⟨ordered, supplied, awaiting, recorded⟩ := consistent
  have awaits := awaiting n pending waits
  have numbered : packet.Numbered n :=
    supplied.packets (some n, packet) (arrives ▸ List.mem_cons_self)
  have handled : n ∈ s.answers.map Prod.fst := ordered.tagged n (by simp [arrives])
  obtain ⟨request, writes, ⟨waiting, -⟩ | ⟨replies, given, reply, remains⟩⟩ := awaits.answer
  · exact absurd handled (ordered.unhandled (List.mem_map_of_mem (f := Prod.fst) waiting))
  rw [arrives, answerOf_own] at remains
  have orders : (s.take ⟨n, some n, pending, packet⟩ s.inbox down).Ordered late :=
    ordered.read arrives rfl rfl rfl rfl
  have supplies : (s.take ⟨n, some n, pending, packet⟩ s.inbox down).Supplied :=
    supplied.take arrives
  have records : (s.take ⟨n, some n, pending, packet⟩ s.inbox down).Recorded :=
    recorded.take (.inl rfl)
      (recorded.filed.skips (numbered.unfiled awaits.seq) numbered.not_event)
  cases reply.takes writes awaits.seq remains with
  | acked remains reads =>
    have goes : s.read ⟨n, some n, pending, packet⟩ down =
        { s.take ⟨n, some n, pending, packet⟩ s.inbox down with
          current := some (n, { pending with sawAck := true }) } := by
      simp only [System.read, Reading.received, reads]
    rw [goes]
    refine ⟨orders.of_same rfl rfl rfl rfl, ⟨supplies.replayable, supplies.client,
      supplies.requests, supplies.packets⟩, ?_, ?_, records.fulfilled, records.own, records.filed⟩
    · intro k pending' waits'
      obtain ⟨rfl, rfl⟩ := Prod.mk.inj (Option.some.inj waits')
      exact ⟨awaits.latest, awaits.call, awaits.seq, request, writes,
        .inr ⟨replies, given, reply, remains⟩⟩
    · have ended := recorded.ended
      rw [waits] at ended
      exact ended
  | @returned value fulfils reads =>
    have ends : s.read ⟨n, some n, pending, packet⟩ down =
        (s.take ⟨n, some n, pending, packet⟩ s.inbox down).finish n (.returned value) := by
      simp only [System.read, Reading.received, reads]
    rw [ends]
    exact finish_consistent orders supplies records waits
      (.inr ⟨_, replies, awaits.call, given, fulfils⟩)
  | @raised error fulfils reads =>
    have ends : s.read ⟨n, some n, pending, packet⟩ down =
        (s.take ⟨n, some n, pending, packet⟩ s.inbox down).finish n (.raised error) := by
      simp only [System.read, Reading.received, reads]
    rw [ends]
    exact finish_consistent orders supplies records waits
      (.inr ⟨_, replies, awaits.call, given, fulfils⟩)

/-- Any other packet leaves the call where it was. -/
theorem System.Consistent.read_other (consistent : s.Consistent late)
    (waits : s.current = some (n, pending)) (arrives : s.down = (answered, packet) :: down)
    (other : answered ≠ some n) : (s.read ⟨n, answered, pending, packet⟩ down).Consistent late := by
  obtain ⟨ordered, supplied, awaiting, recorded⟩ := consistent
  have awaits := awaiting n pending waits
  have carried : packet.Carried answered :=
    supplied.packets (answered, packet) (arrives ▸ List.mem_cons_self)
  have leaves : Leaves pending (Codec.received packet) := by
    cases answered with
    | none => exact Packet.Noise.leaves carried
    | some k =>
      have due : k ∈ s.due := by simp [System.due, arrives]
      have differs : k ≠ n := fun same => other (congrArg some same)
      exact Packet.Numbered.leaves carried (awaits.other_seq ordered due differs)
  obtain ⟨inbox, reads⟩ := leaves.passes s.inbox
  have filed : Filed inbox (s.reads ++ [⟨n, answered, pending, packet⟩]) :=
    recorded.filed.leaves _ leaves reads
  have goes : s.read ⟨n, answered, pending, packet⟩ down =
      s.take ⟨n, answered, pending, packet⟩ inbox down := by
    simp only [System.read, Reading.received, reads]
    rw [← waits]
    rfl
  rw [goes]
  refine ⟨ordered.read arrives rfl rfl rfl rfl, supplied.take arrives, ?_,
    recorded.take (.inr leaves.passes) filed⟩
  intro k pending' waits'
  obtain ⟨rfl, rfl⟩ := Prod.mk.inj (Option.some.inj (waits.symm.trans waits'))
  obtain ⟨request, writes, answer⟩ := awaits.answer
  refine ⟨awaits.latest, awaits.call, awaits.seq, request, writes, ?_⟩
  rw [arrives, answerOf_other other] at answer
  exact answer

theorem System.Consistent.read (consistent : s.Consistent late)
    (waits : s.current = some (n, pending)) (arrives : s.down = (answered, packet) :: down) :
    (s.read ⟨n, answered, pending, packet⟩ down).Consistent late := by
  by_cases own : answered = some n
  · subst own
    exact consistent.read_own waits arrives
  · exact consistent.read_other waits arrives own

end

theorem System.Consistent.timeout (consistent : s.Consistent late)
    (waits : s.current = some (n, pending)) :
    (s.finish n (.raised .timeoutError)).Consistent late :=
  finish_consistent consistent.ordered consistent.supplied consistent.recorded waits (.inl rfl)

theorem System.Step.consistent (taken : System.Step b late s s') (consistent : s.Consistent late) :
    s'.Consistent late := by
  cases taken with
  | call call request idle writes few => exact consistent.issue idle writes few
  | handle arrives => exact consistent.handle arrives
  | own own => exact consistent.own own
  | insert noise anywhere => exact consistent.insert noise anywhere
  | delay anywhere ended waits =>
    subst anywhere
    exact consistent.delay ended waits
  | read waits arrives => exact consistent.read waits arrives
  | timeout waits => exact consistent.timeout waits

/-- A call in progress still has its answer to come. -/
theorem System.Consistent.due (consistent : s.Consistent late)
    (waits : s.current = some (n, pending)) : n ∈ s.due := by
  obtain ⟨request, -, ⟨waiting, -⟩ | ⟨replies, -, reply, remains⟩⟩ :=
    (consistent.awaiting n pending waits).answer
  · exact List.mem_append_right _ (List.mem_map_of_mem (f := Prod.fst) waiting)
  · exact List.mem_append_left _ (mem_numbers.mpr (remains.ne_nil reply))

theorem System.run_consistent {m : Machine} (replayable : m.Replayable)
    (run : Relation.ReflTransGen (System.Step b late) (.start m) s) : s.Consistent late := by
  induction run with
  | refl => exact start_consistent replayable
  | tail _ taken consistent => exact taken.consistent consistent

/-- In a session with an actuator in any state it can reach, with telemetry and events anywhere
between the answers: every call that ends has timed out or has what the actuator sent for it,
no packet but its own answer makes a difference to a call, and the client's lists are what was
to be filed. A call in progress has not missed its answer. -/
theorem responses_never_confused {m : Machine} (reachable : m.Reachable b)
    (run : Relation.ReflTransGen (System.Step b late) (.start m) s) :
    s.Recorded ∧ s.answers.map Prod.fst ++ s.up.map Prod.fst = List.range s.calls.length ∧
      ∀ n pending, s.current = some (n, pending) → n ∈ s.due := by
  have consistent := System.run_consistent reachable.replayable run
  exact ⟨consistent.recorded, consistent.ordered.handled, fun _ _ waits => consistent.due waits⟩

end

/-- The actuator handles the next request that arrives. -/
def System.handleNext (b : MotionBackend) (s : System) : System :=
  match s.up with
  | [] => s
  | (n, r) :: up => s.handle b n r up

/-- The call in progress reads the next packet. -/
def System.readNext (s : System) : System :=
  match s.current, s.down with
  | some (n, pending), (answered, packet) :: down => s.read ⟨n, answered, pending, packet⟩ down
  | _, _ => s

theorem System.handles_next {b : MotionBackend} {late : Late} (s : System) :
    Relation.ReflTransGen (System.Step b late) s (s.handleNext b) := by
  unfold handleNext
  split
  · exact .refl
  next n r up arrives => exact .single (.handle arrives)

theorem System.reads_next {b : MotionBackend} {late : Late} (s : System) :
    Relation.ReflTransGen (System.Step b late) s s.readNext := by
  unfold readNext
  split
  next n pending answered packet down waits arrives => exact .single (.read waits arrives)
  · exact .refl

/-- A `heartbeat()` that times out, then a `ping()`. Before its answer comes telemetry that bears
the number of the `ping()`, and between its two packets the late answer to the `heartbeat()`. -/
theorem responses_never_confused_late : ∃ s : System,
    s.finished = [(0, .raised .timeoutError), (1, .returned (.flag true))] ∧
      s.inbox.telemetry.length = 1 ∧ s.Recorded ∧
      s.answers.map Prod.fst ++ s.up.map Prod.fst = List.range s.calls.length ∧
      ∀ n pending, s.current = some (n, pending) → n ∈ s.due := by
  let idle := System.start (Daft.step {} (.powerOn {}) (.begin {}))
  let heartbeat : Request := { msg := MsgId.HEARTBEAT.byte, fits := Nat.zero_le _ }
  let ping : Request := { msg := MsgId.PING.byte, fits := Nat.zero_le _ }
  let telemetry := Packet.respond .STATUS PacketFlag.TELEMETRY.bits 2 32 (List.replicate 32 0)
  let acked := ackPacket 2 MsgId.PING.byte
  let ponged := Packet.respond .PONG PacketFlag.RESPONSE.bits 2 0 []
  let beaten := ackPacket 1 MsgId.HEARTBEAT.byte
  let abandoned := (idle.issue (.of .heartbeat) heartbeat).finish 0 (.raised .timeoutError)
  let served := ((abandoned.issue .ping ping).handleNext {}).handleNext {}
  let noisy : System := { served with down := [] ++ (none, telemetry) :: served.down }
  let late : System := { noisy with
    down := [(none, telemetry)] ++ ([(some 1, acked)] ++ (some 0, beaten) :: [(some 1, ponged)]) }
  have called : System.Step {} .anywhere idle (idle.issue (.of .heartbeat) heartbeat) :=
    .call _ heartbeat rfl rfl fun n due => by cases due
  have expired : System.Step {} .anywhere _ abandoned := .timeout rfl
  have again : System.Step {} .anywhere abandoned (abandoned.issue .ping ping) :=
    .call _ ping rfl rfl (show ∀ n ∈ [0], 1 < n + 65535 by decide)
  have handled : Relation.ReflTransGen (System.Step {} .anywhere) _ served :=
    (System.handles_next _).trans (System.handles_next _)
  have inserted : System.Step {} .anywhere served noisy := .insert (.inl ⟨rfl, by decide, rfl⟩) rfl
  have delayed : System.Step {} .anywhere noisy late :=
    .delay rfl (fun _ waits => Nat.one_ne_zero (congrArg Prod.fst (Option.some.inj waits)))
      (by decide +kernel)
  have read : Relation.ReflTransGen (System.Step {} .anywhere) late
      late.readNext.readNext.readNext.readNext :=
    (((System.reads_next _).trans (System.reads_next _)).trans (System.reads_next _)).trans
      (System.reads_next _)
  have run := ((((Relation.ReflTransGen.single called).tail expired).tail again).trans handled).tail
    inserted
  exact ⟨_, by decide +kernel, by decide +kernel,
    responses_never_confused ⟨{}, {}, [], rfl⟩ ((run.tail delayed).trans read)⟩

end Daft
