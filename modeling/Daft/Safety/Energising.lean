import Daft.Firmware.Steps

/-!
# Calls that energise the motor

The outputs are switched on by an enabling `SET_CONTROL_MODE` and motion is
started by the three motion commands; no other request, no tick and no `begin`
does either.
-/

namespace Daft

open Logic

/-! ## Classes of calls -/

namespace Call

/-- A motion command, accepted or not. -/
def isMove : Call → Bool
  | .moveAbsolute .. | .moveRelative .. | .runVelocity .. => true
  | _ => false

/-- An accepted motion command. -/
def startsMotion : Call → Bool
  | .moveAbsolute _ _ _ ok | .moveRelative _ _ _ ok | .runVelocity _ _ ok => ok
  | _ => false

/-- The calls that switch the outputs on or start a motion. -/
def energises : Call → Bool
  | .enableDriver enabled _ => enabled
  | .moveAbsolute .. | .moveRelative .. | .runVelocity .. => true
  | _ => false

theorem isMove_of_startsMotion (call : Call) (starts : call.startsMotion = true) :
    call.isMove = true := by
  cases call <;> first | rfl | cases starts

theorem energises_of_isMove (call : Call) (moves : call.isMove = true) : call.energises = true := by
  cases call <;> first | rfl | cases moves

theorem notable_of_energises (call : Call) (energises : call.energises = true) :
    call.notable = true := by
  cases call <;> first | rfl | cases energises

theorem notable_of_isMove (call : Call) (moves : call.isMove = true) : call.notable = true :=
  call.notable_of_energises (call.energises_of_isMove moves)

theorem notable_of_startsMotion (call : Call) (starts : call.startsMotion = true) :
    call.notable = true :=
  call.notable_of_isMove (call.isMove_of_startsMotion starts)

end Call

section

variable {calls : List Call}

theorem not_moves_of_idle (idle : ∀ call ∈ calls, call.energises = false) :
    ∀ call ∈ calls, call.isMove = false :=
  fun call member => absent_of_silent Call.energises_of_isMove (idle call member)

theorem not_starts_of_still (still : ∀ call ∈ calls, call.isMove = false) :
    ∀ call ∈ calls, call.startsMotion = false :=
  fun call member => absent_of_silent Call.isMove_of_startsMotion (still call member)

theorem not_starts_of_idle (idle : ∀ call ∈ calls, call.energises = false) :
    ∀ call ∈ calls, call.startsMotion = false :=
  not_starts_of_still (not_moves_of_idle idle)

end

/-! ## Motion commands -/

section

variable {b : MotionBackend} {h : History} {r : Packet} {c c' : Control} {calls : List Call}
  {responses : List Packet} {answer : Option Bool} {state : ActuatorState} {mode : ControlMode}

/-- What a motion command leaves, by its answer. -/
def Control.afterMotion (c : Control) (answer : Option Bool) (state : ActuatorState)
    (mode : ControlMode) : Control :=
  if answer = some true then { c with state := state, controlMode := mode } else c.withFault .DRIVER

theorem MotionRequest.allowed (request : MotionRequest b h r c answer calls state mode) :
    c.validateMotionAllowed mode = .OK := by
  cases request <;> assumption

theorem MotionRequest.enabled (request : MotionRequest b h r c answer calls state mode) :
    c.driverEnabled = true := by
  have allowed := request.allowed
  cases enabled : c.driverEnabled with
  | true => rfl
  | false =>
    simp only [Control.validateMotionAllowed, enabled] at allowed
    split at allowed <;> simp at allowed

/-- A motion command is its request's last call, after at most a position read. -/
theorem MotionRequest.calls_eq (request : MotionRequest b h r c answer calls state mode) :
    ∃ (record : Bool → Call) (reads : List Call), calls = logged record answer ++ reads ∧
      (∀ ok, (record ok).isMove = true ∧ (record ok).startsMotion = ok) ∧ OnlyReads reads := by
  cases request with
  | moveAbs => exact ⟨_, [], (List.append_nil _).symm, fun _ => ⟨rfl, rfl⟩, .nil⟩
  | moveRel => exact ⟨_, _, rfl, fun _ => ⟨rfl, rfl⟩, positionRead_reads b h⟩
  | runVel => exact ⟨_, [], (List.append_nil _).symm, fun _ => ⟨rfl, rfl⟩, .nil⟩

/-- A motion request calls nothing else. -/
theorem MotionRequest.silent {p : Call → Bool}
    (request : MotionRequest b h r c answer calls state mode)
    (unmoved : ∀ call : Call, call.isMove = true → p call = false)
    (unread : ∀ steps, p (.currentPosition steps) = false) : ∀ call ∈ calls, p call = false := by
  obtain ⟨record, reads, rfl, records, positions⟩ := request.calls_eq
  refine List.forall_mem_append.mpr ⟨?_, positions.all unread⟩
  rw [forall_mem_logged]
  intro ok _
  exact unmoved _ (records ok).1

/-- Before the one motion command of a request only positions are read. -/
theorem MotionRequest.since {P : Call → History → Prop} {past past' : History}
    (request : MotionRequest b h r c answer calls state mode)
    (adds : Adds Call.notable past calls past')
    (here : ∀ call before reads, OnlyReads reads → Adds Call.notable past reads before →
      P call before) :
    Since (fun call before => call.isMove = true → P call before) past past' := by
  obtain ⟨record, reads, rfl, -, positions⟩ := request.calls_eq
  have unmoved : ∀ call ∈ reads, call.isMove = false := positions.all fun _ => rfl
  cases answer with
  | none => exact adds.since_of_absent Call.notable_of_isMove unmoved
  | some ok =>
    exact Adds.since_of_last adds Call.notable_of_isMove unmoved fun before read =>
      here _ before reads positions read

/-- Only an accepted motion command starts anything. -/
theorem MotionRequest.refused_starts (request : MotionRequest b h r c answer calls state mode)
    (refused : answer ≠ some true) : ∀ call ∈ calls, call.startsMotion = false := by
  obtain ⟨record, reads, rfl, records, positions⟩ := request.calls_eq
  refine List.forall_mem_append.mpr ⟨?_, positions.all fun _ => rfl⟩
  rw [forall_mem_logged]
  rintro ok rfl
  rw [(records ok).2]
  exact eq_false_of_ne_true fun accepted => refused (by rw [accepted])

/-! ## Requests -/

/-- Only an enabling mode and a motion command energise, and only the latter moves; the
former as the driver answers. -/
theorem Served.energised (served : Served b h r c calls responses c') :
    (∀ call ∈ calls, call.energises = false) ∨
      (∃ mode, mode ≠ .DISABLED ∧ ModeRequest r c mode ∧ (∀ call ∈ calls, call.isMove = false) ∧
        ∀ ok, .enableDriver true ok ∈ calls →
          ∃ past, b.enableDriver.map (fun f => f past true) = some ok) ∨
      ∃ answer state mode, MotionRequest b h r c answer calls state mode ∧
        c' = c.afterMotion answer state mode := by
  cases served with
  | refused refusal => exact .inl (refusal.reads.all fun _ => rfl)
  | answered _ _ reads => exact .inl (reads.all fun _ => rfl)
  | relLimited => exact .inl ((positionRead_reads b h).all fun _ => rfl)
  | modeEnableFailed request enabling _ _ asked =>
    refine .inr (.inl ⟨_, enabling, request, by simp [Call.isMove], fun ok member => ?_⟩)
    obtain rfl : ok = false := by simpa [logged] using member
    exact ⟨_, asked⟩
  | @enabled mode _ answer request enabling _ _ asked =>
    refine .inr (.inl ⟨mode, enabling, request, by simp [Call.isMove, or_imp, forall_and],
      fun ok member => ?_⟩)
    have answered : answer = some ok := by simpa [logged] using member
    exact ⟨_, asked ▸ answered⟩
  | motionFailed request failed =>
    exact .inr (.inr ⟨_, _, _, request, (if_neg failed).symm⟩)
  | motionStarted request accepted =>
    exact .inr (.inr ⟨_, _, _, request, (if_pos accepted).symm⟩)
  | rampFailed request =>
    exact .inl (List.forall_mem_append.mpr ⟨by simp [Call.energises], request.all rfl⟩)
  | ramped request => exact .inl (List.forall_mem_cons.mpr ⟨rfl, request.all rfl⟩)
  | _ => exact .inl (by simp [Call.energises, or_imp, forall_and])

theorem Served.moved (served : Served b h r c calls responses c') :
    (∀ call ∈ calls, call.isMove = false) ∨
      ∃ answer state mode, MotionRequest b h r c answer calls state mode ∧
        c' = c.afterMotion answer state mode := by
  rcases served.energised with idle | ⟨_, _, _, still, -⟩ | request
  · exact .inl (not_moves_of_idle idle)
  · exact .inl still
  · exact .inr request

/-- A request starts a motion only by entering that motion's state. -/
theorem Served.started (served : Served b h r c calls responses c') :
    (∀ call ∈ calls, call.startsMotion = false) ∨
      ∃ state mode, MotionRequest b h r c (some true) calls state mode ∧ c'.state = state := by
  rcases served.moved with still | ⟨answer, state, mode, request, rfl⟩
  · exact .inl (not_starts_of_still still)
  · by_cases accepted : answer = some true
    · subst accepted
      exact .inr ⟨state, mode, request, by simp [Control.afterMotion]⟩
    · exact .inl (request.refused_starts accepted)

end

/-! ## Other steps -/

theorem Begun.energises_nothing {defaults : ActuatorConfig} {calls : List Call} {c : Control}
    (begun : Begun defaults calls c) : ∀ call ∈ calls, call.energises = false := by
  cases begun <;> simp [Call.energises, or_imp, forall_and]

theorem Ticked.energises_nothing {b : MotionBackend} {h : History} {elapsed : UInt32} {c c' : Control}
    {calls : List Call} (ticked : Ticked b h elapsed c calls c') :
    ∀ call ∈ calls, call.energises = false := by
  cases ticked <;> simp [Call.energises, or_imp, forall_and]

/-- A step moves only by executing a motion command. -/
theorem Stepped.moved {b : MotionBackend} {m m' : Machine} {op : Op} {calls : List Call}
    (stepped : Stepped b m m' op calls) :
    (∀ call ∈ calls, call.isMove = false) ∨
      ∃ r port answer state mode, op = .handlePacket r port ∧ m.act.isDuplicate r = false ∧
        MotionRequest b (m.arrival b) r m.act.toControl answer calls state mode := by
  cases stepped with
  | executed fresh done =>
    rcases done.served.moved with still | ⟨answer, state, mode, request, -⟩
    · exact .inl still
    · exact .inr ⟨_, _, answer, state, mode, rfl, fresh, request⟩
  | ticked done =>
    obtain ⟨pending, ticked⟩ := done.ticked
    exact .inl (not_moves_of_idle ticked.energises_nothing)
  | begun done => exact .inl (not_moves_of_idle done.begun.energises_nothing)
  | reported _ reads => exact .inl (reads.all fun _ => rfl)
  | repeated => exact .inl (by simp)
  | framed => exact .inl (by simp)

end Daft
