import Daft.Session.Calls

/-!
# What the actuator did in a session

A session is a run of the actuator in which the requests of the calls are executed one by
one, in the order of the calls, with its own steps in between. A call that returned has an
answer, and the answer a place in that run.
-/

namespace Daft

open Logic Host

/-- The steps of the actuator, with the number of the call each serves. -/
abbrev Trace := List (Option ℕ × Op)

/-- What is sent for the calls along a trace. -/
def answersOf (b : MotionBackend) : Machine → Trace → List (ℕ × List Packet)
  | _, [] => []
  | m, (none, op) :: trace => answersOf b (step b m op) trace
  | m, (some n, op) :: trace =>
    (n, (newPackets m (step b m op)).filter Packet.answers) :: answersOf b (step b m op) trace

/-- The machine after a trace. -/
def Trace.run (b : MotionBackend) (m : Machine) (trace : Trace) : Machine :=
  Logic.run (Daft.step b) m (trace.map Prod.snd)

section

variable {b : MotionBackend} {m : Machine} {trace : Trace} {n : ℕ} {replies : List Packet}

theorem Trace.run_append (trace later : Trace) :
    (trace ++ later).run b m = later.run b (trace.run b m) := by
  rw [Trace.run, List.map_append, Logic.run_append]
  rfl

theorem answersOf_append (trace later : Trace) :
    answersOf b m (trace ++ later) = answersOf b m trace ++ answersOf b (trace.run b m) later := by
  induction trace generalizing m with
  | nil => rfl
  | cons entry trace ih =>
    obtain ⟨_ | n, op⟩ := entry
    · exact ih
    · exact congrArg (_ :: ·) ih

theorem answersOf_numbers : (answersOf b m trace).map Prod.fst = trace.filterMap Prod.fst := by
  induction trace generalizing m with
  | nil => rfl
  | cons entry trace ih =>
    obtain ⟨_ | n, op⟩ := entry
    · exact ih
    · exact congrArg (n :: ·) ih

/-- An answer has its place in the trace. -/
theorem answersOf_place (given : (n, replies) ∈ answersOf b m trace) :
    ∃ (before : Trace) (op : Op) (after : Trace), trace = before ++ (some n, op) :: after ∧
      replies = (newPackets (before.run b m) (Daft.step b (before.run b m) op)).filter
        Packet.answers := by
  induction trace generalizing m with
  | nil => cases given
  | cons entry trace ih =>
    have later : (n, replies) ∈ answersOf b (Daft.step b m entry.2) trace →
        ∃ (before : Trace) (op : Op) (after : Trace),
          entry :: trace = before ++ (some n, op) :: after ∧
          replies = (newPackets (before.run b m) (Daft.step b (before.run b m) op)).filter
            Packet.answers := by
      intro given
      obtain ⟨before, op, after, rfl, sent⟩ := ih given
      exact ⟨entry :: before, op, after, rfl, sent⟩
    obtain ⟨_ | k, op⟩ := entry
    · exact later given
    · rcases List.mem_cons.mp given with here | given
      · obtain ⟨rfl, rfl⟩ := Prod.mk.inj here
        exact ⟨[], op, trace, rfl, rfl⟩
      · exact later given

end

/-! ## Sessions -/

namespace System

/-- The packet is the request of the call. -/
def Requests (s : System) (n : ℕ) (r : Packet) : Prop :=
  ∃ call request, s.calls[n]? = some call ∧ call.request = some request ∧
    r = request.packet (seqAt n)

/-- The trace is what the actuator did. -/
structure Traced (b : MotionBackend) (m : Machine) (s : System) (trace : Trace) : Prop where
  machine : s.machine = trace.run b m
  answers : s.answers = answersOf b m trace
  served : ∀ n op, (some n, op) ∈ trace → ∃ r, op = .handlePacket r openPort ∧ s.Requests n r
  own : ∀ op, (none, op) ∈ trace → ∀ r port, op ≠ .handlePacket r port
  waiting : ∀ entry ∈ s.up, s.Requests entry.1 entry.2

section

variable {b : MotionBackend} {late : Late} {m : Machine} {s s' : System} {trace : Trace} {n : ℕ}
  {r : Packet}

theorem Requests.grow (requests : s.Requests n r) {more : List ClientCall}
    (calls : s'.calls = s.calls ++ more) : s'.Requests n r := by
  obtain ⟨call, request, made, writes, same⟩ := requests
  have within : n < s.calls.length := (List.getElem?_eq_some_iff.mp made).1
  exact ⟨call, request, by rw [calls, List.getElem?_append_left within, made], writes, same⟩

/-- The actuator does nothing. -/
theorem Traced.keep (traced : s.Traced b m trace) (machine : s'.machine = s.machine)
    (answers : s'.answers = s.answers) (calls : s'.calls = s.calls) (up : s'.up = s.up) :
    s'.Traced b m trace := by
  have same : s'.calls = s.calls ++ [] := by rw [calls, List.append_nil]
  refine ⟨machine.trans traced.machine, answers.trans traced.answers, ?_, traced.own, ?_⟩
  · intro n op member
    obtain ⟨r, rfl, requests⟩ := traced.served n op member
    exact ⟨r, rfl, requests.grow same⟩
  · rw [up]
    exact fun entry member => (traced.waiting entry member).grow same

theorem Traced.read {reading : Reading} {down : List (Option ℕ × Packet)}
    (traced : s.Traced b m trace) : (s.read reading down).Traced b m trace := by
  unfold System.read
  split <;> exact traced.keep rfl rfl rfl rfl

theorem Step.traced (taken : System.Step b late s s') (consistent : s.Consistent late)
    (traced : s.Traced b m trace) : ∃ more, s'.Traced b m (trace ++ more) := by
  have still : s'.Traced b m trace → ∃ more, s'.Traced b m (trace ++ more) := fun traced =>
    ⟨[], by rw [List.append_nil]; exact traced⟩
  cases taken with
  | call call request idle writes few =>
    have numbered : s.client.seq = (seqAt s.calls.length, .after (s.calls.length + 1)) := by
      rw [consistent.supplied.client, DaftClient.seq_after]
    have calls : (s.issue call request).calls = s.calls ++ [call] := rfl
    refine still ⟨traced.machine, traced.answers, ?_, traced.own, ?_⟩
    · intro n op member
      obtain ⟨r, rfl, requests⟩ := traced.served n op member
      exact ⟨r, rfl, requests.grow calls⟩
    · have up : (s.issue call request).up =
          s.up ++ [(s.calls.length, request.packet (seqAt s.calls.length))] := by
        unfold System.issue
        rw [numbered]
      rw [up]
      refine List.forall_mem_append.mpr ⟨?_, List.forall_mem_singleton.mpr ?_⟩
      · exact fun entry member => (traced.waiting entry member).grow calls
      · exact ⟨call, request, by rw [calls]; simp, writes, rfl⟩
  | @handle n r up arrives =>
    refine ⟨[(some n, .handlePacket r openPort)], ?_, ?_, ?_, ?_, ?_⟩
    · rw [Trace.run_append, ← traced.machine]
      rfl
    · rw [answersOf_append, ← traced.answers, ← traced.machine]
      rfl
    · intro k op member
      rcases List.mem_append.mp member with before | here
      · exact traced.served k op before
      · cases List.mem_singleton.mp here
        exact ⟨r, rfl, traced.waiting (n, r) (by simp [arrives])⟩
    · intro op member
      rcases List.mem_append.mp member with before | here
      · exact traced.own op before
      · cases List.mem_singleton.mp here
    · exact fun entry member => traced.waiting entry (arrives ▸ List.mem_cons_of_mem _ member)
  | @own op own =>
    refine ⟨[(none, op)], ?_, ?_, ?_, ?_, traced.waiting⟩
    · rw [Trace.run_append, ← traced.machine]
      rfl
    · rw [answersOf_append, ← traced.answers]
      exact (List.append_nil _).symm
    · intro k op' member
      rcases List.mem_append.mp member with before | here
      · exact traced.served k op' before
      · cases List.mem_singleton.mp here
    · intro op' member
      rcases List.mem_append.mp member with before | here
      · exact traced.own op' before
      · cases List.mem_singleton.mp here
        exact own
  | insert => exact still (traced.keep rfl rfl rfl rfl)
  | delay => exact still (traced.keep rfl rfl rfl rfl)
  | read => exact still traced.read
  | timeout => exact still (traced.keep rfl rfl rfl rfl)

theorem start_traced (m : Machine) : (start m).Traced b m [] :=
  ⟨rfl, rfl, by simp, by simp, by simp [start]⟩

/-- What is done in a session is done after what was done before. -/
theorem Traced.run (traced : s.Traced b m trace) (consistent : s.Consistent late)
    (run : Relation.ReflTransGen (System.Step b late) s s') :
    s'.Consistent late ∧ ∃ more, s'.Traced b m (trace ++ more) := by
  induction run with
  | refl => exact ⟨consistent, [], by rw [List.append_nil]; exact traced⟩
  | tail _ taken ih =>
    obtain ⟨consistent, more, traced⟩ := ih
    obtain ⟨more', traced⟩ := taken.traced consistent traced
    exact ⟨taken.consistent consistent, more ++ more', by rw [← List.append_assoc]; exact traced⟩

/-- Every session has a trace. -/
theorem run_traced (replayable : m.Replayable)
    (run : Relation.ReflTransGen (System.Step b late) (.start m) s) :
    s.Consistent late ∧ ∃ trace, s.Traced b m trace :=
  (start_traced m).run (start_consistent replayable) run

/-- After a request only those of later calls are executed. -/
theorem Traced.later (traced : s.Traced b m trace) (ordered : s.Ordered late)
    {before after : Trace} {op : Op} (split : trace = before ++ (some n, op) :: after) :
    ∀ k op, (some k, op) ∈ after → n < k := by
  have numbers : (trace.filterMap Prod.fst).Pairwise (· < ·) := by
    rw [← answersOf_numbers (b := b) (m := m), ← traced.answers]
    refine List.Pairwise.sublist (List.sublist_append_left _ (s.up.map Prod.fst)) ?_
    rw [ordered.handled]
    exact List.pairwise_lt_range
  rw [split, List.filterMap_append] at numbers
  have tail : (n :: after.filterMap Prod.fst).Pairwise (· < ·) := (List.pairwise_append.mp numbers).2.1
  intro k op member
  exact (List.pairwise_cons.mp tail).1 k (List.mem_filterMap.mpr ⟨_, member, rfl⟩)

/-- A call that returned was answered where its request was executed. -/
theorem Traced.returned (traced : s.Traced b m trace) (recorded : s.Recorded) {value : Value}
    (returned : (n, .returned value) ∈ s.finished) :
    ∃ (before : Trace) (r : Packet) (after : Trace) (call : ClientCall) (replies : List Packet),
      trace = before ++ (some n, .handlePacket r openPort) :: after ∧ s.Requests n r ∧
        s.calls[n]? = some call ∧ Fulfils call replies (.returned value) ∧
        replies = (newPackets (before.run b m)
          (Daft.step b (before.run b m) (.handlePacket r openPort))).filter Packet.answers := by
  rcases recorded.fulfilled _ returned with timeout | ⟨call, replies, made, given, fulfils⟩
  · cases timeout
  · rw [traced.answers] at given
    obtain ⟨before, op, after, split, sent⟩ := answersOf_place given
    obtain ⟨r, rfl, requests⟩ := traced.served n op (by simp [split])
    exact ⟨before, r, after, call, replies, split, requests, made, fulfils, sent⟩

end

end System

end Daft
