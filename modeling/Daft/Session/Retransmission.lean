import Daft.Firmware.Steps

/-!
# Retransmissions

A request that is executed leaves itself and its responses in the duplicate
filter, where nothing but another request changes them. A packet that matches
it is answered from there: the clock is read, the cached responses are sent
again and counted, and the rest of the actuator is as before.
-/

namespace Daft

open Logic

/-- What `same_request` compares. -/
structure Packet.Same (r r' : Packet) : Prop where
  msgId : r'.msgId = r.msgId
  flags : r'.flags = r.flags
  seq : r'.seq = r.seq
  payloadLen : r'.payloadLen = r.payloadLen
  bytes : r'.bytes = r.bytes

/-- The operations that may come between a request and its retransmissions. -/
def Op.Repeats (r : Packet) : Op → Prop
  | .begin _ => False
  | .handlePacket r' _ => r.Same r'
  | _ => True

theorem Packet.Same.duplicate {r r' : Packet} (same : r.Same r') {cache : RequestCache}
    (remembers : cache.lastRequestValid = true ∧ cache.lastRequest = r) :
    cache.isDuplicate r' = true ∧ cache.sameRequest r' = true := by
  obtain ⟨valid, rfl⟩ := remembers
  simp [RequestCache.isDuplicate, RequestCache.sameRequest, valid, same.msgId, same.flags,
    same.seq, same.payloadLen, same.bytes]

/-! ## Replies from the cache -/

section

variable {b : MotionBackend} (down : Port) {m : Machine} {r : Packet}

/-- The machine `m` after sending `replayed` through a port, `dropped` packets
being lost by now. -/
def Machine.afterReplay (m : Machine) (replayed : List Transmission) (dropped : UInt32) : Machine :=
  { m with act := { m.act with counters.droppedPackets := dropped }, sent := replayed ++ m.sent }

theorem sendResponse_port_eq (m : Machine) (packet : Packet) :
    ∃ taken dropped, m.sendResponse (.port down) packet =
      m.afterReplay [⟨packet, false, taken⟩] dropped := by
  have sent : ∃ taken, m.sendPacket (.port down) packet =
      (taken, m.afterReplay [⟨packet, false, taken⟩] m.act.counters.droppedPackets) := ⟨_, rfl⟩
  obtain ⟨taken, sent⟩ := sent
  simp only [Machine.sendResponse, sent]
  cases taken with
  | false => exact ⟨false, m.act.counters.droppedPackets + 1, rfl⟩
  | true => exact ⟨true, m.act.counters.droppedPackets, rfl⟩

/-- A replay sends every packet again, in order, whatever the port takes. -/
theorem replay_eq (responses : List Packet) (m : Machine) :
    ∃ replayed dropped, responses.foldl (fun m packet => m.sendResponse (.port down) packet) m =
        m.afterReplay replayed dropped ∧
      replayed.map (·.packet) = responses.reverse := by
  induction responses generalizing m with
  | nil => exact ⟨[], m.act.counters.droppedPackets, rfl, rfl⟩
  | cons packet responses ih =>
    obtain ⟨taken, lost, sent⟩ := sendResponse_port_eq down m packet
    obtain ⟨replayed, dropped, rest, packets⟩ := ih (m.afterReplay [⟨packet, false, taken⟩] lost)
    refine ⟨replayed ++ [⟨packet, false, taken⟩], dropped, ?_, by simp [packets]⟩
    rw [List.foldl_cons, sent, rest]
    simp [Machine.afterReplay]

/-- A delivery answered from the cache reads the clock and replays. -/
theorem answerDuplicate_eq (same : m.act.sameRequest r = true) :
    ∃ replayed dropped, m.answerDuplicate b down r =
        { m with act := { m.act with lastHostMs := m.clock b,
                                     counters.duplicatePackets :=
                                       m.act.counters.duplicatePackets + 1,
                                     counters.droppedPackets := dropped },
                 calls := m.arrival b, sent := replayed ++ m.sent } ∧
      replayed.map (·.packet) = m.act.lastResponses.reverse := by
  have heard : (m.hearHost b).mapCounters (fun c =>
        { c with duplicatePackets := c.duplicatePackets + 1 }) =
      { m with act := { m.act with lastHostMs := m.clock b,
                                   counters.duplicatePackets :=
                                     m.act.counters.duplicatePackets + 1 },
               calls := m.arrival b } := by
    rw [Machine.hearHost, Machine.nowMs_eq]
    rfl
  obtain ⟨replayed, dropped, answered, packets⟩ := replay_eq down m.act.lastResponses
    { m with act := { m.act with lastHostMs := m.clock b,
                                 counters.duplicatePackets :=
                                   m.act.counters.duplicatePackets + 1 },
             calls := m.arrival b }
  refine ⟨replayed, dropped, ?_, packets⟩
  rw [Machine.answerDuplicate, heard]
  exact (if_pos same).trans answered

end

/-! ## The cache between deliveries -/

section

variable {b : MotionBackend} {m m' : Machine} {op : Op} {r : Packet} {calls : List Call}

/-- Retransmissions and everything that is no request leave the cache alone. -/
theorem Stepped.keeps_cache (stepped : Stepped b m m' op calls)
    (remembers : m.act.lastRequestValid = true ∧ m.act.lastRequest = r)
    (repeats : op.Repeats r) : m'.act.toRequestCache = m.act.toRequestCache := by
  cases stepped with
  | executed fresh =>
    have duplicate := (repeats : r.Same _).duplicate remembers
    simp [duplicate.1] at fresh
  | repeated _ done => exact done.requestCache
  | ticked done => exact done.requestCache
  | begun => exact repeats.elim
  | framed _ done => exact done.requestCache
  | reported _ _ done => exact done.requestCache

theorem run_keeps_cache {ops : List Op} {responses : List Packet}
    (remembered : m.act.toRequestCache = ⟨true, r, responses⟩)
    (repeats : ∀ op ∈ ops, op.Repeats r) :
    (run (step b) m ops).act.toRequestCache = ⟨true, r, responses⟩ := by
  refine (along_of_forall repeats m).invariant
    (I := fun m => m.act.toRequestCache = ⟨true, r, responses⟩) (fun m op repeats remembered => ?_)
    remembered
  obtain ⟨calls, stepped⟩ := step_stepped b m op
  rw [stepped.keeps_cache ⟨by rw [remembered], by rw [remembered]⟩ repeats, remembered]

end

/-! ## Main result -/

/-- A delivery that takes `before` to `after` and does no more than send again what
the execution that took `m` to `first` passed through its caching writer. -/
structure Retransmitted (m first before after : Machine) : Prop where
  calls : ∃ new, after.calls = new ++ before.calls ∧ ∀ call ∈ new, ∃ now, call = .millis now
  act : after.act = { before.act with
    lastHostMs := after.act.lastHostMs
    counters.duplicatePackets := after.act.counters.duplicatePackets
    counters.droppedPackets := after.act.counters.droppedPackets }
  sent : ∃ executed replayed, first.sent = executed ++ m.sent ∧
    after.sent = replayed ++ before.sent ∧
    replayed.map (·.packet) = (executed.filter (·.cached)).map (·.packet)

/-- Once a request is executed, every later delivery of it before the next request
sends its responses again and does nothing else. -/
theorem retransmission_harmless (b : MotionBackend) (m first before : Machine) (r r' : Packet)
    (port port' : Port) (ops : List Op) (fresh : m.act.isDuplicate r = false)
    (executed : first = step b m (.handlePacket r port)) (between : before = run (step b) first ops)
    (repeats : ∀ op ∈ ops, op.Repeats r) (same : r.Same r') :
    Retransmitted m first before (step b before (.handlePacket r' port')) := by
  subst executed between
  obtain ⟨calls, responses, done⟩ := step_executed (b := b) fresh port
  generalize step b m (.handlePacket r port) = first at *
  obtain ⟨passed, adds, packets⟩ := done.sent
  obtain ⟨executed, extends_sent, filtered⟩ := adds.split
  have cache := run_keeps_cache (b := b) done.requestCache repeats
  generalize run (step b) first ops = before at *
  have remembers : before.act.lastRequestValid = true ∧ before.act.lastRequest = r :=
    ⟨by rw [cache], by rw [cache]⟩
  have duplicate := same.duplicate remembers
  obtain ⟨replayed, dropped, answered, replies⟩ := answerDuplicate_eq (b := b) port' duplicate.2
  have handled : step b before (.handlePacket r' port') = before.answerDuplicate b port' r' :=
    if_pos duplicate.1
  rw [handled, answered]
  refine ⟨⟨_, rfl, ?_⟩, rfl, executed, replayed, extends_sent, rfl, ?_⟩
  · simp
  · rw [replies, filtered, packets, cache]

/-- A port that takes nothing. -/
def deadPort : Port := some fun _ _ => false

/-- A `PING` and a stray byte after its empty payload. -/
def strayPing : Packet := { Packet.request .PING 1 [] with payload := Payload.ofBytes [7] }

theorem retransmission_harmless_dead_port :
    Retransmitted (.boot {} {} {} [])
      (step {} (.boot {} {} {} []) (.handlePacket (.request .PING 1 []) deadPort))
      (run (step {}) (step {} (.boot {} {} {} []) (.handlePacket (.request .PING 1 []) deadPort))
        [.handlePacket strayPing deadPort, .recordFrameError .ERR_BAD_CRC])
      (step {} (run (step {}) (step {} (.boot {} {} {} [])
          (.handlePacket (.request .PING 1 []) deadPort))
        [.handlePacket strayPing deadPort, .recordFrameError .ERR_BAD_CRC])
        (.handlePacket strayPing deadPort)) := by
  have stray : (Packet.request .PING 1 []).Same strayPing := ⟨rfl, rfl, rfl, rfl, rfl⟩
  refine retransmission_harmless {} _ _ _ (.request .PING 1 []) strayPing deadPort deadPort
    [.handlePacket strayPing deadPort, .recordFrameError .ERR_BAD_CRC] (by decide) rfl rfl ?_ stray
  exact List.forall_mem_cons.mpr ⟨stray, by simp [Op.Repeats]⟩

end Daft
