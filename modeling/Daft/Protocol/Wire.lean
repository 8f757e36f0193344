import Daft.Logic.Bytes

/-!
# The vocabulary of DAFT Motion Binary v2

Message ids, flags, error codes, states and packets as `protocol_v2.hpp`
declares them, with the little-endian readers and writers every payload layout
uses. A `uint8_t*` into a buffer is the list of bytes from that address on, so
`p + k` is `p.drop k`; a writer is the list of bytes it stores.
-/

namespace Daft

/-- `MAX_PAYLOAD_SIZE`. -/
abbrev maxPayloadSize : Nat := 128

/-- `MsgId`: the declared message ids. -/
inductive MsgId where
  | PING | PONG | GET_IDENTITY | IDENTITY | GET_CAPABILITIES | CAPABILITIES
  | GET_STATUS | STATUS | GET_FAULTS | FAULTS | GET_COUNTERS | COUNTERS | HEARTBEAT
  | SET_CONTROL_MODE | ESTOP | RAMP_STOP | CLEAR_FAULTS
  | CONFIG_QUERY | CONFIG_VALUE | CONFIG_STAGE_FIELD | CONFIG_APPLY | CONFIG_SAVE
  | CONFIG_RESET_DEFAULTS | REBOOT | GET_DRIVER_STATUS | DRIVER_STATUS
  | MOVE_ABS | MOVE_REL | RUN_VEL | SET_TELEM_RATE | ACK | ERROR | EVENT
  deriving DecidableEq

/-- `static_cast<uint8_t>(msg)`. -/
def MsgId.byte : MsgId → UInt8
  | .PING => 0x01 | .PONG => 0x02 | .GET_IDENTITY => 0x03 | .IDENTITY => 0x04
  | .GET_CAPABILITIES => 0x05 | .CAPABILITIES => 0x06 | .GET_STATUS => 0x07 | .STATUS => 0x08
  | .GET_FAULTS => 0x09 | .FAULTS => 0x0A | .GET_COUNTERS => 0x0B | .COUNTERS => 0x0C
  | .HEARTBEAT => 0x0D | .SET_CONTROL_MODE => 0x10 | .ESTOP => 0x11 | .RAMP_STOP => 0x12
  | .CLEAR_FAULTS => 0x13 | .CONFIG_QUERY => 0x20 | .CONFIG_VALUE => 0x21
  | .CONFIG_STAGE_FIELD => 0x22 | .CONFIG_APPLY => 0x23 | .CONFIG_SAVE => 0x24
  | .CONFIG_RESET_DEFAULTS => 0x25 | .REBOOT => 0x26 | .GET_DRIVER_STATUS => 0x30
  | .DRIVER_STATUS => 0x31 | .MOVE_ABS => 0x40 | .MOVE_REL => 0x41 | .RUN_VEL => 0x42
  | .SET_TELEM_RATE => 0x50 | .ACK => 0x80 | .ERROR => 0x81 | .EVENT => 0x82

/-- `static_cast<MsgId>(byte)`, or `none` where no message id is declared. -/
def MsgId.ofByte : UInt8 → Option MsgId
  | 0x01 => some .PING | 0x02 => some .PONG | 0x03 => some .GET_IDENTITY | 0x04 => some .IDENTITY
  | 0x05 => some .GET_CAPABILITIES | 0x06 => some .CAPABILITIES | 0x07 => some .GET_STATUS
  | 0x08 => some .STATUS | 0x09 => some .GET_FAULTS | 0x0A => some .FAULTS
  | 0x0B => some .GET_COUNTERS | 0x0C => some .COUNTERS | 0x0D => some .HEARTBEAT
  | 0x10 => some .SET_CONTROL_MODE | 0x11 => some .ESTOP | 0x12 => some .RAMP_STOP
  | 0x13 => some .CLEAR_FAULTS | 0x20 => some .CONFIG_QUERY | 0x21 => some .CONFIG_VALUE
  | 0x22 => some .CONFIG_STAGE_FIELD | 0x23 => some .CONFIG_APPLY | 0x24 => some .CONFIG_SAVE
  | 0x25 => some .CONFIG_RESET_DEFAULTS | 0x26 => some .REBOOT | 0x30 => some .GET_DRIVER_STATUS
  | 0x31 => some .DRIVER_STATUS | 0x40 => some .MOVE_ABS | 0x41 => some .MOVE_REL
  | 0x42 => some .RUN_VEL | 0x50 => some .SET_TELEM_RATE | 0x80 => some .ACK
  | 0x81 => some .ERROR | 0x82 => some .EVENT
  | _ => none

@[simp, grind =] theorem MsgId.ofByte_byte (msg : MsgId) : MsgId.ofByte msg.byte = some msg := by
  cases msg <;> rfl

theorem MsgId.byte_of_ofByte {byte : UInt8} {msg : MsgId} (found : ofByte byte = some msg) :
    byte = msg.byte := by
  unfold ofByte at found
  split at found <;> cases found <;> rfl

theorem MsgId.byte_injective {msg other : MsgId} (same : msg.byte = other.byte) : msg = other := by
  have found := ofByte_byte msg
  rw [same, ofByte_byte] at found
  exact (Option.some.inj found).symm

/-- `PacketFlag`, as the bits it sets. -/
inductive PacketFlag where
  | NONE | RESPONSE | ERROR | TELEMETRY
  deriving DecidableEq

def PacketFlag.bits : PacketFlag → UInt8
  | .NONE => 0 | .RESPONSE => 1 | .ERROR => 2 | .TELEMETRY => 4

inductive ErrorCode where
  | OK | ERR_BUSY | ERR_INVALID_FIELD | ERR_OUT_OF_RANGE | ERR_REQUIRES_REBOOT | ERR_UNSUPPORTED
  | ERR_FAULTED | ERR_BAD_STATE | ERR_BAD_CRC | ERR_BAD_PAYLOAD | ERR_BAD_VERSION
  | ERR_DUPLICATE_MISMATCH | ERR_STORAGE
  deriving DecidableEq

def ErrorCode.byte : ErrorCode → UInt8
  | .OK => 0 | .ERR_BUSY => 1 | .ERR_INVALID_FIELD => 2 | .ERR_OUT_OF_RANGE => 3
  | .ERR_REQUIRES_REBOOT => 4 | .ERR_UNSUPPORTED => 5 | .ERR_FAULTED => 6 | .ERR_BAD_STATE => 7
  | .ERR_BAD_CRC => 8 | .ERR_BAD_PAYLOAD => 9 | .ERR_BAD_VERSION => 10
  | .ERR_DUPLICATE_MISMATCH => 11 | .ERR_STORAGE => 12

inductive ActuatorState where
  | BOOTING | DISABLED | IDLE | MOVING_POSITION | RUNNING_VELOCITY | STOPPING | FAULTED
  | CONFIG_STAGED | COMMISSIONING
  deriving DecidableEq

def ActuatorState.byte : ActuatorState → UInt8
  | .BOOTING => 0 | .DISABLED => 1 | .IDLE => 2 | .MOVING_POSITION => 3 | .RUNNING_VELOCITY => 4
  | .STOPPING => 5 | .FAULTED => 6 | .CONFIG_STAGED => 7 | .COMMISSIONING => 8

inductive EventType where
  | BOOT_REASON | STATE_CHANGED | FAULT_SET | FAULT_CLEARED | CONFIG_APPLIED | CONFIG_SAVED
  | DRIVER_UART_FAILURE | HOST_TIMEOUT
  deriving DecidableEq

def EventType.byte : EventType → UInt8
  | .BOOT_REASON => 1 | .STATE_CHANGED => 2 | .FAULT_SET => 3 | .FAULT_CLEARED => 4
  | .CONFIG_APPLIED => 5 | .CONFIG_SAVED => 6 | .DRIVER_UART_FAILURE => 7 | .HOST_TIMEOUT => 8

inductive EventSeverity where
  | INFO | WARNING | ERROR
  deriving DecidableEq

def EventSeverity.byte : EventSeverity → UInt8
  | .INFO => 0 | .WARNING => 1 | .ERROR => 2

inductive ControlMode where
  | DISABLED | POSITION | VELOCITY | COMMISSIONING
  deriving DecidableEq

def ControlMode.byte : ControlMode → UInt8
  | .DISABLED => 0 | .POSITION => 1 | .VELOCITY => 2 | .COMMISSIONING => 3

/-- `static_cast<ControlMode>(byte)` for a byte that `SET_CONTROL_MODE` has
checked to be at most `COMMISSIONING`. -/
def ControlMode.ofByte (byte : UInt8) : ControlMode :=
  if byte = 0 then .DISABLED else if byte = 1 then .POSITION else if byte = 2 then .VELOCITY
  else .COMMISSIONING

/-! ## Little-endian fields -/

/-- The bytes `write_u16` stores. -/
def writeU16 (value : UInt16) : List UInt8 :=
  [value.toUInt8, (value >>> 8).toUInt8]

/-- The bytes `write_u32` stores. -/
def writeU32 (value : UInt32) : List UInt8 :=
  [value.toUInt8, (value >>> 8).toUInt8, (value >>> 16).toUInt8, (value >>> 24).toUInt8]

/-- The bytes `write_i32` stores. -/
def writeI32 (value : Int32) : List UInt8 := writeU32 value.toUInt32

def readU16 (p : List UInt8) : UInt16 :=
  (p.getD 0 0).toUInt16 ||| ((p.getD 1 0).toUInt16 <<< 8)

def readU32 (p : List UInt8) : UInt32 :=
  (p.getD 0 0).toUInt32 ||| ((p.getD 1 0).toUInt32 <<< 8) ||| ((p.getD 2 0).toUInt32 <<< 16) |||
    ((p.getD 3 0).toUInt32 <<< 24)

def readI32 (p : List UInt8) : Int32 := (readU32 p).toInt32

/-- A 16-bit field reads back, whatever follows it. -/
@[simp] theorem readU16_writeU16 (value : UInt16) (rest : List UInt8) :
    readU16 (writeU16 value ++ rest) = value :=
  UInt16.toBitVec_inj.mp (Logic.word16_of_bytes value.toBitVec)

/-- A 16-bit field is written back as it was read. -/
theorem writeU16_readU16 {p : List UInt8} (there : 2 ≤ p.length) :
    writeU16 (readU16 p) = p.take 2 := by
  match p, there with
  | low :: high :: rest, _ =>
    obtain ⟨first, second⟩ := Logic.bytes_of_word16 low.toBitVec high.toBitVec
    have bytes : (readU16 (low :: high :: rest)).toUInt8 = low ∧
        (readU16 (low :: high :: rest) >>> 8).toUInt8 = high :=
      ⟨UInt8.toBitVec_inj.mp first, UInt8.toBitVec_inj.mp second⟩
    rw [writeU16, bytes.1, bytes.2]
    rfl

/-- A 32-bit field reads back, whatever follows it. -/
@[simp] theorem readU32_writeU32 (value : UInt32) (rest : List UInt8) :
    readU32 (writeU32 value ++ rest) = value :=
  UInt32.toBitVec_inj.mp (Logic.word32_of_bytes value.toBitVec)

@[simp] theorem readI32_writeI32 (value : Int32) (rest : List UInt8) :
    readI32 (writeI32 value ++ rest) = value := by
  simp [readI32, writeI32]

/-- A 32-bit field is the number its little-endian bytes make. -/
theorem toNat_readU32 (p : List UInt8) :
    (readU32 p).toNat = (p.getD 0 0).toNat + 256 * (p.getD 1 0).toNat +
      65536 * (p.getD 2 0).toNat + 16777216 * (p.getD 3 0).toNat := by
  have b0 := (p.getD 0 0).toNat_lt
  have b1 := (p.getD 1 0).toNat_lt
  have b2 := (p.getD 2 0).toNat_lt
  have b3 := (p.getD 3 0).toNat_lt
  have shifted : ∀ (byte : UInt8) (places : UInt32), places.toNat ≤ 24 →
      (byte.toUInt32 <<< places).toNat = byte.toNat <<< places.toNat := by
    intro byte places small
    have bounded := byte.toNat_lt
    rw [UInt32.toNat_shiftLeft, UInt8.toNat_toUInt32, Nat.mod_eq_of_lt (by omega : places.toNat < 32)]
    apply Nat.mod_eq_of_lt
    calc byte.toNat <<< places.toNat = byte.toNat * 2 ^ places.toNat := Nat.shiftLeft_eq ..
      _ ≤ byte.toNat * 2 ^ 24 := Nat.mul_le_mul_left _ (Nat.pow_le_pow_right (by decide) small)
      _ < 2 ^ 32 := by omega
  rw [readU32, UInt32.toNat_or, UInt32.toNat_or, UInt32.toNat_or, shifted _ _ (by decide),
    shifted _ _ (by decide), shifted _ _ (by decide), UInt8.toNat_toUInt32]
  show _ ||| _ <<< 8 ||| _ <<< 16 ||| _ <<< 24 = _
  have joined : ∀ {low : Nat} (high places : Nat), low < 2 ^ places →
      low ||| high <<< places = high * 2 ^ places + low := by
    intro low high places below
    rw [Nat.or_comm, ← Nat.shiftLeft_add_eq_or_of_lt below, Nat.shiftLeft_eq]
  rw [joined _ 8 b0, joined _ 16 (by omega), joined _ 24 (by omega)]
  omega

/-! ## Packets -/

/-- `uint8_t payload[MAX_PAYLOAD_SIZE]`. -/
abbrev Payload := Vector UInt8 maxPayloadSize

/-- A zeroed payload buffer with `bytes` written from its start. -/
def Payload.ofBytes (bytes : List UInt8) : Payload :=
  ⟨((bytes ++ List.replicate maxPayloadSize 0).take maxPayloadSize).toArray, by simp⟩

/-- `Packet`. Nothing ties `payloadLen` to the buffer: only the decoder and the
senders keep it within `MAX_PAYLOAD_SIZE`. -/
structure Packet where
  msgId : UInt8 := 0
  flags : UInt8 := 0
  seq : UInt16 := 0
  payloadLen : UInt16 := 0
  payload : Payload := Vector.replicate maxPayloadSize 0
  deriving DecidableEq

/-- The pointer `packet.payload + k`. -/
def Packet.at (packet : Packet) (k : Nat) : List UInt8 := packet.payload.toList.drop k

/-- The payload bytes in use. -/
def Packet.bytes (packet : Packet) : List UInt8 :=
  packet.payload.toList.take packet.payloadLen.toNat

/-- A response packet as the senders build it: `payload_len` set to `len`, and
the payload written at increasing offsets, so it is the concatenation `bytes`
of its fields. -/
def Packet.respond (msg : MsgId) (flags : UInt8) (seq len : UInt16) (bytes : List UInt8) : Packet :=
  { msgId := msg.byte, flags := flags, seq := seq, payloadLen := len,
    payload := Payload.ofBytes bytes }

/-- `Counters`. -/
structure Counters where
  crcErrors : UInt32 := 0
  decodeErrors : UInt32 := 0
  droppedPackets : UInt32 := 0
  duplicatePackets : UInt32 := 0
  commandCount : UInt32 := 0
  rejectedCommands : UInt32 := 0
  deriving DecidableEq

end Daft
