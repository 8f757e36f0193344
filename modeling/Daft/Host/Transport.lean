import Daft.Host.Codec
import Daft.Logic.Delimited

/-!
# The serial transport

`transport_serial.py`. The port is the list of what its reads return, oldest first, and
a read returns nothing once they are used up. A deadline is the number of turns that the
loop of `read_packet` takes before it passes.
-/

namespace Daft.Host

open Logic

/-- `SerialTransport`, with the fields `__post_init__` sets. -/
structure SerialTransport where
  port : Option (List (List UInt8)) := none
  rx : List UInt8 := []
  packetsRead : Nat := 0
  bytesRead : Nat := 0
  protocolErrors : Nat := 0
  rxOverflows : Nat := 0
  timeouts : Nat := 0
  lastProtocolError : Option String := none

namespace SerialTransport

/-- `open`, of a port whose reads return `chunks`. -/
def openPort (t : SerialTransport) (chunks : List (List UInt8)) : SerialTransport :=
  { t with port := some chunks, rx := [] }

/-- A transport just constructed and opened. -/
def openedOn (chunks : List (List UInt8)) : SerialTransport :=
  ({} : SerialTransport).openPort chunks

/-- `_read_buffered_packet`. -/
def readBufferedPacket (t : SerialTransport) :
    Except String (Option Codec.Packet) × SerialTransport :=
  if 0 ∈ t.rx then
    let delimiter := t.rx.idxOf 0
    let frame := t.rx.take delimiter
    let rest := { t with rx := t.rx.drop (delimiter + 1) }
    if frame = [] then rest.readBufferedPacket
    else
      match Codec.decodePacket frame with
      | .ok packet => (.ok (some packet), { rest with packetsRead := rest.packetsRead + 1 })
      | .error message => (.error message, rest)
  else if t.rx.length > 256 then
    (.error "RX buffer overflow", { t with rx := [], rxOverflows := t.rxOverflows + 1 })
  else (.ok none, t)
termination_by t.rx.length
decreasing_by
  have nonempty := List.length_pos_of_mem ‹0 ∈ t.rx›
  rw [List.length_drop]
  omega

/-- `_port.read(128)`. -/
def read (t : SerialTransport) : List UInt8 × SerialTransport :=
  ((t.port.getD []).headD [], { t with port := t.port.map List.tail })

/-- The loop of `read_packet`. -/
def readLoop : Nat → SerialTransport → Except String Codec.Packet × SerialTransport
  | 0, t => (.error "timed out waiting for packet", { t with timeouts := t.timeouts + 1 })
  | turns + 1, t =>
    match t.readBufferedPacket with
    | (.error message, t) =>
      readLoop turns { t with protocolErrors := t.protocolErrors + 1, lastProtocolError := message }
    | (.ok (some packet), t) => (.ok packet, t)
    | (.ok none, t) =>
      let (chunk, t) := t.read
      if chunk = [] then readLoop turns t
      else readLoop turns { t with bytesRead := t.bytesRead + chunk.length, rx := t.rx ++ chunk }

/-- `read_packet`. -/
def readPacket (t : SerialTransport) (turns : Nat) :
    Except String Codec.Packet × SerialTransport :=
  if t.port.isNone then (.error "serial port is not open", t) else t.readLoop turns

/-- Successive calls of `read_packet`. -/
def readPackets (t : SerialTransport) :
    List Nat → List (Except String Codec.Packet) × SerialTransport
  | [] => ([], t)
  | turns :: deadlines =>
    let (result, t) := t.readPacket turns
    let (results, t) := t.readPackets deadlines
    (result :: results, t)

end SerialTransport

/-! ## What a stream is made of -/

/-- What a turn of the loop makes of the buffer, unless it waits. -/
inductive Outcome where
  | packet (packet : Codec.Packet)
  | refused (message : String)
  | overflow
  deriving DecidableEq

namespace Outcome

def ofFrame (frame : List UInt8) : Outcome :=
  match Codec.decodePacket frame with
  | .ok decoded => .packet decoded
  | .error message => .refused message

def packet? : Outcome → Option Codec.Packet
  | .packet decoded => some decoded
  | _ => none

/-- A frame is its packet, where it has one. -/
theorem packet?_ofFrame (frame : List UInt8) :
    (ofFrame frame).packet? = (Codec.decodePacket frame).toOption := by
  unfold ofFrame
  cases Codec.decodePacket frame <;> rfl

/-- A frame is no overflow. -/
theorem ofFrame_ne_overflow (frame : List UInt8) : ofFrame frame ≠ .overflow := by
  unfold ofFrame
  cases Codec.decodePacket frame <;> simp

end Outcome

/-- The runs between zeros, without the empty ones. -/
def frames (s : List UInt8) : List (List UInt8) := (Delimited.closed 0 s).filter (· ≠ [])

/-- Whether the open run is too long for the buffer. -/
abbrev Overflows (rx : List UInt8) : Prop := (Delimited.trailing 0 rx).length > 256

/-- What the frames of the buffer and its open run lead to. -/
def scan (rx : List UInt8) : List Outcome :=
  (frames rx).map .ofFrame ++ if Overflows rx then [.overflow] else []

/-- What is then left of it. -/
def kept (rx : List UInt8) : List UInt8 := if Overflows rx then [] else Delimited.trailing 0 rx

/-- A receiver between two reads, on what the next reads return. -/
def receive (held : List UInt8) : List (List UInt8) → List Outcome
  | [] => []
  | chunk :: chunks => scan (held ++ chunk) ++ receive (kept (held ++ chunk)) chunks

/-- All that is still to come of a buffer and a port. -/
def outcomes (rx : List UInt8) (chunks : List (List UInt8)) : List Outcome :=
  scan rx ++ receive (kept rx) chunks

theorem outcomes_cons (rx chunk : List UInt8) (chunks : List (List UInt8)) :
    outcomes rx (chunk :: chunks) = scan rx ++ outcomes (kept rx ++ chunk) chunks := rfl

section

variable {run rx : List UInt8} {chunks : List (List UInt8)}

/-- A run that ends is a frame. -/
theorem frames_run (clean : 0 ∉ run) (nonempty : run ≠ []) (rest : List UInt8) :
    frames (run ++ 0 :: rest) = run :: frames rest := by
  rw [frames, Delimited.closed_run clean, List.filter_cons_of_pos (by simpa using nonempty), frames]

/-- An empty run is none. -/
theorem frames_zero (rest : List UInt8) : frames (0 :: rest) = frames rest := by
  have closes : Delimited.closed 0 (([] : List UInt8) ++ 0 :: rest) = [] :: Delimited.closed 0 rest :=
    Delimited.closed_run (by simp) rest
  rw [List.nil_append] at closes
  rw [frames, closes, List.filter_cons_of_neg (by simp), frames]

/-- A run that does not end is none yet. -/
theorem frames_of_clean (clean : 0 ∉ rx) : frames rx = [] := by
  rw [frames, Delimited.closed_of_clean clean]
  rfl

/-- A run that ends is reported before what follows. -/
theorem outcomes_run (clean : 0 ∉ run) (nonempty : run ≠ []) (rest : List UInt8) :
    outcomes (run ++ 0 :: rest) chunks = .ofFrame run :: outcomes rest chunks := by
  simp only [outcomes, scan, kept, Overflows, frames_run clean nonempty,
    Delimited.trailing_run clean, List.map_cons, List.cons_append]

/-- An empty run is skipped. -/
theorem outcomes_zero (rest : List UInt8) : outcomes (0 :: rest) chunks = outcomes rest chunks := by
  have trailing : Delimited.trailing 0 (([] : List UInt8) ++ 0 :: rest) = Delimited.trailing 0 rest :=
    Delimited.trailing_run (by simp) rest
  rw [List.nil_append] at trailing
  simp only [outcomes, scan, kept, Overflows, frames_zero, trailing]

/-- An open run that fits is kept, and nothing comes of it yet. -/
theorem scan_of_fits (clean : 0 ∉ rx) (fits : rx.length ≤ 256) : scan rx = [] ∧ kept rx = rx := by
  have short : ¬ Overflows rx := by
    rw [Overflows, Delimited.trailing_of_clean clean]
    omega
  rw [scan, kept, if_neg short, if_neg short, frames_of_clean clean, Delimited.trailing_of_clean clean]
  exact ⟨rfl, rfl⟩

/-- A buffer that is too long without an end is dropped whole. -/
theorem scan_of_long (clean : 0 ∉ rx) (long : rx.length > 256) : scan rx = [.overflow] ∧ kept rx = [] := by
  have overflows : Overflows rx := by rwa [Overflows, Delimited.trailing_of_clean clean]
  rw [scan, kept, if_pos overflows, if_pos overflows, frames_of_clean clean]
  exact ⟨rfl, rfl⟩

theorem outcomes_dropped (clean : 0 ∉ rx) (long : rx.length > 256) :
    outcomes rx chunks = .overflow :: outcomes [] chunks := by
  obtain ⟨scanned, none⟩ := scan_of_long clean long
  obtain ⟨nothing, empty⟩ : scan [] = [] ∧ kept [] = [] := scan_of_fits (by simp) (by simp)
  rw [outcomes, outcomes, scanned, none, nothing, empty]
  rfl

/-- A read continues the open run. -/
theorem outcomes_read (clean : 0 ∉ rx) (fits : rx.length ≤ 256) (chunk : List UInt8) :
    outcomes rx (chunk :: chunks) = outcomes (rx ++ chunk) chunks := by
  obtain ⟨nothing, all⟩ := scan_of_fits clean fits
  rw [outcomes_cons, nothing, all, List.nil_append]

end

/-! ## The buffer -/

namespace SerialTransport

/-- What `_read_buffered_packet` can do: it uses up frames, drops an open run that is too
long, or is left with one that is not. -/
inductive Buffered (t : SerialTransport) :
    Except String (Option Codec.Packet) × SerialTransport → Prop where
  | packet {packet : Codec.Packet} {rx : List UInt8} (suffix : rx <:+ t.rx)
      (outcome : ∀ chunks, outcomes t.rx chunks = .packet packet :: outcomes rx chunks) :
      Buffered t (.ok (some packet), { t with rx, packetsRead := t.packetsRead + 1 })
  | refused {message : String} {rx : List UInt8} (suffix : rx <:+ t.rx)
      (shorter : rx.length < t.rx.length)
      (outcome : ∀ chunks, outcomes t.rx chunks = .refused message :: outcomes rx chunks) :
      Buffered t (.error message, { t with rx })
  | overflow {rx : List UInt8} (suffix : rx <:+ t.rx) (clean : 0 ∉ rx) (long : rx.length > 256)
      (outcome : ∀ chunks, outcomes t.rx chunks = outcomes rx chunks) :
      Buffered t (.error "RX buffer overflow", { t with rx := [], rxOverflows := t.rxOverflows + 1 })
  | waits {rx : List UInt8} (suffix : rx <:+ t.rx) (clean : 0 ∉ rx) (fits : rx.length ≤ 256)
      (outcome : ∀ chunks, outcomes t.rx chunks = outcomes rx chunks) :
      Buffered t (.ok none, { t with rx })

/-- An empty frame is skipped. -/
theorem Buffered.skip {t : SerialTransport} {rest : List UInt8}
    {result : Except String (Option Codec.Packet) × SerialTransport} (empty : t.rx = 0 :: rest)
    (later : Buffered { t with rx := rest } result) : Buffered t result := by
  have suffix : rest <:+ t.rx := empty ▸ List.suffix_cons 0 rest
  have same : ∀ chunks, outcomes t.rx chunks = outcomes rest chunks := fun chunks => by
    rw [empty, outcomes_zero]
  cases later with
  | packet later outcome =>
    exact .packet (later.trans suffix) fun chunks => (same chunks).trans (outcome chunks)
  | refused later shorter outcome =>
    exact .refused (later.trans suffix) (Nat.lt_of_lt_of_le shorter suffix.length_le) fun chunks =>
      (same chunks).trans (outcome chunks)
  | overflow later clean long outcome =>
    exact .overflow (later.trans suffix) clean long fun chunks => (same chunks).trans (outcome chunks)
  | waits later clean fits outcome =>
    exact .waits (later.trans suffix) clean fits fun chunks => (same chunks).trans (outcome chunks)

/-- Looking into the buffer does one of four things. -/
theorem readBufferedPacket_buffered (t : SerialTransport) : Buffered t t.readBufferedPacket := by
  fun_induction readBufferedPacket t with
  | case1 t found delimiter frame rest empty ih =>
    obtain ⟨-, split⟩ : 0 ∉ frame ∧ t.rx = frame ++ 0 :: rest.rx := Delimited.split_first found
    rw [empty, List.nil_append] at split
    exact .skip split ih
  | case2 t found delimiter frame rest nonempty packet decoded =>
    obtain ⟨clean, split⟩ : 0 ∉ frame ∧ t.rx = frame ++ 0 :: rest.rx := Delimited.split_first found
    have outcome : Outcome.ofFrame frame = .packet packet := by rw [Outcome.ofFrame, decoded]
    exact .packet (List.drop_suffix ..) fun chunks => by
      rw [← outcome, ← outcomes_run clean nonempty, ← split]
  | case3 t found delimiter frame rest nonempty message failed =>
    obtain ⟨clean, split⟩ : 0 ∉ frame ∧ t.rx = frame ++ 0 :: rest.rx := Delimited.split_first found
    have outcome : Outcome.ofFrame frame = .refused message := by rw [Outcome.ofFrame, failed]
    have shorter : rest.rx.length < t.rx.length := by
      rw [split, List.length_append, List.length_cons]
      omega
    exact .refused (List.drop_suffix ..) shorter fun chunks => by
      rw [← outcome, ← outcomes_run clean nonempty, ← split]
  | case4 t clean long => exact .overflow (List.suffix_refl _) clean long fun _ => rfl
  | case5 t clean fits => exact .waits (List.suffix_refl _) clean (Nat.not_lt.mp fits) fun _ => rfl

end SerialTransport

end Daft.Host
