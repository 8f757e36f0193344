import Daft.Platform.Execution
import Daft.Safety.ConfigCopies

/-!
# Orders

The actuator moves the motor, energises the driver and changes the store only to serve a
request that asks for it, each request once. Ticks, frame errors, telemetry, the start and
repeated packets stop and switch off at most.
-/

namespace Daft

open Logic

/-- The calls that need an order: motion, switching the driver on and changing the store. -/
def Call.ordered (call : Call) : Bool := call.energises || call.isStorage

/-- A value as commanded, or mirrored for an inverted direction. -/
def Directed (logical value : Int32) : Prop := value = logical ∨ value = -logical

/-- The request orders the call. -/
inductive Orders (r : Packet) : Call → Prop where
  | enable {ok : Bool} (asks : r.Asks .SET_CONTROL_MODE)
      (enabling : ControlMode.ofByte r.payload[0] ≠ .DISABLED) : Orders r (.enableDriver true ok)
  | moveAbs {target : Int32} {ok : Bool} (asks : r.Asks .MOVE_ABS)
      (directed : Directed (readI32 (r.at 0)) target) :
      Orders r (.moveAbsolute target (readU32 (r.at 4)) (readU32 (r.at 8)) ok)
  | moveRel {delta : Int32} {ok : Bool} (asks : r.Asks .MOVE_REL)
      (directed : Directed (readI32 (r.at 0)) delta) :
      Orders r (.moveRelative delta (readU32 (r.at 4)) (readU32 (r.at 8)) ok)
  | runVel {velocity : Int32} {ok : Bool} (asks : r.Asks .RUN_VEL)
      (directed : Directed (readI32 (r.at 0)) velocity) :
      Orders r (.runVelocity velocity (readU32 (r.at 4)) ok)
  | save {config : ActuatorConfig} {ok : Bool} (asks : r.Asks .CONFIG_SAVE) :
      Orders r (.saveConfig config ok)
  | reset {ok : Bool} (asks : r.Asks .CONFIG_RESET_DEFAULTS) : Orders r (.resetConfigStorage ok)

theorem Call.notable_of_ordered (call : Call) (ordered : call.ordered = true) :
    call.notable = true := by
  rcases Bool.or_eq_true_iff.mp ordered with energises | stores
  · exact call.notable_of_energises energises
  · exact call.notable_of_isStorage stores

/-- The direction mirrors a value or leaves it. -/
theorem Control.toBackendValue_directed {c : Control} {logical value : Int32}
    (converted : c.toBackendValue logical = some value) : Directed logical value := by
  unfold toBackendValue at converted
  split at converted
  · exact .inl (Option.some.inj converted).symm
  · split at converted
    · cases converted
    · exact .inr (Option.some.inj converted).symm

/-! ## Requests -/

section

variable {b : MotionBackend} {h : History} {r : Packet} {c c' : Control} {calls : List Call}
  {responses : List Packet}

/-- The calls of a request: none that needs an order, or one that it orders. -/
def OrdersOf (r : Packet) (calls : List Call) : Prop :=
  calls.filter Call.ordered = [] ∨
    ∃ call, calls.filter Call.ordered = [call] ∧ Orders r call

/-- A request whose calls need no order. -/
theorem OrdersOf.none (silent : ∀ call ∈ calls, call.ordered = false) : OrdersOf r calls :=
  .inl (List.filter_eq_nil_iff.mpr fun call member => by simp [silent call member])

/-- A request whose last call is the one it orders. -/
theorem OrdersOf.cons {call : Call} {before : List Call} (orders : Orders r call)
    (needed : call.ordered = true) (silent : ∀ call ∈ before, call.ordered = false) :
    OrdersOf r (call :: before) := by
  refine .inr ⟨call, ?_, orders⟩
  rw [List.filter_cons_of_pos needed,
    List.filter_eq_nil_iff.mpr fun call member => by simp [silent call member]]

/-- A callback that is not wired is not called, and needs no order. -/
theorem OrdersOf.after {before : List Call} {record : Bool → Call} {answer : Option Bool}
    (orders : ∀ ok, Orders r (record ok)) (needed : ∀ ok, (record ok).ordered = true)
    (silent : ∀ call ∈ before, call.ordered = false) :
    OrdersOf r (logged record answer ++ before) := by
  cases answer with
  | none => exact .none silent
  | some ok => exact .cons (orders ok) (needed ok) silent

theorem OrdersOf.single {record : Bool → Call} {answer : Option Bool}
    (orders : ∀ ok, Orders r (record ok)) (needed : ∀ ok, (record ok).ordered = true) :
    OrdersOf r (logged record answer) :=
  List.append_nil (logged record answer) ▸ .after orders needed (by simp)

/-- Configuring the driver needs no order. -/
theorem configuring_silent {config : Tmc2209Config} {configured : Option Bool} :
    ∀ call ∈ logged (.configureDriver config) configured, call.ordered = false := by
  simp [Call.ordered, Call.energises, Call.isStorage]

/-- A motion command orders the motion it asks for, in either direction. -/
theorem MotionRequest.orders {answer : Option Bool} {state : ActuatorState} {mode : ControlMode}
    (request : MotionRequest b h r c answer calls state mode) : OrdersOf r calls := by
  cases request with
  | moveAbs asks _ _ _ converted =>
    exact .single (fun _ => .moveAbs asks (c.toBackendValue_directed converted)) fun _ => rfl
  | moveRel asks _ _ _ _ converted =>
    exact .after (fun _ => .moveRel asks (c.toBackendValue_directed converted)) (fun _ => rfl)
      ((positionRead_reads b h).all fun _ => rfl)
  | runVel asks _ _ _ converted =>
    exact .single (fun _ => .runVel asks (c.toBackendValue_directed converted)) fun _ => rfl

/-- A mode orders the driver on unless it is `DISABLED`. -/
theorem ModeRequest.orders {mode : ControlMode} (request : ModeRequest r c mode)
    (enabling : mode ≠ .DISABLED) (ok : Bool) : Orders r (.enableDriver true ok) :=
  .enable request.asks (request.requested ▸ enabling)

/-- A request makes at most one call that needs an order, and orders it. -/
theorem Served.orders (served : Served b h r c calls responses c') : OrdersOf r calls := by
  cases served with
  | refused refusal => exact .none (refusal.reads.all fun _ => rfl)
  | answered _ _ reads => exact .none (reads.all fun _ => rfl)
  | relLimited => exact .none ((positionRead_reads b h).all fun _ => rfl)
  | rampFailed request =>
    refine .none (List.forall_mem_append.mpr ⟨?_, request.all rfl⟩)
    simp [Call.ordered, Call.energises, Call.isStorage]
  | ramped request => exact .none (List.forall_mem_cons.mpr ⟨rfl, request.all rfl⟩)
  | motionFailed request => exact request.orders
  | motionStarted request => exact request.orders
  | modeEnableFailed request enabling =>
    exact .cons (request.orders enabling false) rfl configuring_silent
  | enabled request enabling =>
    exact .after (request.orders enabling) (fun _ => rfl) configuring_silent
  | saveFailed asks => exact .single (fun _ => .save asks) fun _ => rfl
  | saved asks => exact .inr ⟨_, rfl, .save asks⟩
  | resetStorageFailed request =>
    exact .cons (.reset request.asks) rfl configuring_silent
  | reset request =>
    exact .after (fun _ => .reset request.asks) (fun _ => rfl) configuring_silent
  | _ => exact .none (by simp [Call.ordered, Call.energises, Call.isStorage, or_imp, forall_and])

end

/-! ## Runs -/

/-- The calls made that need an order, with the requests that ordered them; newest first. -/
def Machine.Authorised (m : Machine) : Prop :=
  ∃ orders : List (Packet × Call),
    orders.map Prod.snd = m.calls.filter Call.ordered ∧
      (orders.map Prod.fst).Sublist m.dispatched ∧
      ∀ order ∈ orders, Orders order.1 order.2

section

variable {b : MotionBackend} {m m' : Machine} {calls : List Call}

/-- A start switches the driver off at most. -/
theorem Begun.unordered {defaults : ActuatorConfig} {c : Control} (begun : Begun defaults calls c) :
    ∀ call ∈ calls, call.ordered = false := by
  cases begun <;> simp [Call.ordered, Call.energises, Call.isStorage, or_imp, forall_and]

/-- A tick stops and switches off at most. -/
theorem Ticked.unordered {h : History} {elapsed : UInt32} {c c' : Control}
    (ticked : Ticked b h elapsed c calls c') : ∀ call ∈ calls, call.ordered = false := by
  cases ticked <;> simp [Call.ordered, Call.energises, Call.isStorage, or_imp, forall_and]

/-- The calls a step makes are all there is to authorise. -/
theorem ordered_adds (adds : Adds Call.notable m.calls calls m'.calls) :
    m'.calls.filter Call.ordered = calls.filter Call.ordered ++ m.calls.filter Call.ordered := by
  rw [← List.filter_append]
  apply adds.reads
  · intro call past quiet
    exact List.filter_cons_of_neg (by simp [absent_of_silent Call.notable_of_ordered quiet])
  · intro call past past' same
    rw [List.filter_cons, List.filter_cons, same]

/-- A stretch that executes nothing and makes no call that needs an order. -/
theorem Machine.Authorised.keep (authorised : m.Authorised)
    (adds : Adds Call.notable m.calls calls m'.calls) (silent : ∀ call ∈ calls, call.ordered = false)
    (dispatched : m'.dispatched = m.dispatched) : m'.Authorised := by
  obtain ⟨orders, made, given, each⟩ := authorised
  have quiet : calls.filter Call.ordered = [] :=
    List.filter_eq_nil_iff.mpr fun call member => by simp [silent call member]
  exact ⟨orders, by rw [made, ordered_adds adds, quiet, List.nil_append], dispatched ▸ given, each⟩

/-- A request authorises the call it makes. -/
theorem Machine.Authorised.executed {r : Packet} {responses : List Packet}
    (authorised : m.Authorised) (done : Executed b m r calls responses m') : m'.Authorised := by
  obtain ⟨orders, made, given, each⟩ := authorised
  rw [Authorised, ordered_adds done.calls, done.dispatched, ← made]
  rcases done.served.orders with none | ⟨call, single, ordered⟩
  · exact ⟨orders, by rw [none, List.nil_append], given.cons r, each⟩
  · refine ⟨(r, call) :: orders, by rw [single]; rfl, given.cons_cons r, ?_⟩
    exact List.forall_mem_cons.mpr ⟨ordered, each⟩

/-- Every step leaves all calls authorised. -/
theorem step_authorised (op : Op) (authorised : m.Authorised) : (step b m op).Authorised := by
  obtain ⟨calls, stepped⟩ := step_stepped b m op
  cases stepped with
  | executed _ done => exact authorised.executed done
  | repeated _ done => exact authorised.keep done.calls (by simp) done.dispatched
  | ticked done =>
    obtain ⟨pending, ticked⟩ := done.ticked
    exact authorised.keep (done.clock.after_quiet done.calls) ticked.unordered done.dispatched
  | begun done => exact authorised.keep done.calls done.begun.unordered done.dispatched
  | framed _ done => exact authorised.keep done.calls (by simp) done.dispatched
  | reported _ reads done =>
    exact authorised.keep done.calls (reads.all fun _ => rfl) done.dispatched

end

/-! ## Main result -/

end Daft
