import Daft.Host.Client
import Daft.Host.Messages

/-!
# Calls of the host client

`client.py`: the loops of `request` and `ping`, one packet at a time, and the methods
built on them. Both loops set telemetry and events aside before they look at the
sequence number.
-/

namespace Daft.Host

open Messages

/-- `TELEMETRY_FLAG`. -/
def telemetryFlag : Nat := 4

/-- The lists of a `DaftClient`, oldest first. -/
structure Inbox where
  telemetry : List Status := []
  events : List Event := []
  deriving DecidableEq

/-- What a call raises. -/
inductive Raised where
  | deviceError (fields : DeviceError)
  | protocolError (message : String)
  | timeoutError
  deriving DecidableEq

/-- What one packet leads to: the loop goes on, or the call ends. An exception leaves
the lists as they were. -/
inductive Round (σ α : Type) where
  | next (inbox : Inbox) (state : σ)
  | returned (value : α)
  | raised (error : Raised)

section

variable {σ α : Type} (inbox : Inbox) (packet : Codec.Packet)

/-- `self.telemetry.append(parse_status(packet))` and on. -/
def Round.telemetry (state : σ) : Round σ α :=
  match parseStatus packet with
  | .ok status => .next { inbox with telemetry := inbox.telemetry ++ [status] } state
  | .error message => .raised (.protocolError message)

/-- `self.events.append(parse_event(packet))` and on. -/
def Round.event (state : σ) : Round σ α :=
  match parseEvent packet with
  | .ok event => .next { inbox with events := inbox.events ++ [event] } state
  | .error message => .raised (.protocolError message)

/-- `raise DeviceError(packet)`. -/
def Round.deviceError : Round σ α :=
  match parseError packet with
  | .ok fields => .raised (.deviceError fields)
  | .error message => .raised (.protocolError message)

end

/-- The loop of `request`, where a response is expected. -/
def requestRound (seq : Nat) (expected : MsgId) (inbox : Inbox) (packet : Codec.Packet) :
    Round Unit Codec.Packet :=
  if packet.msgId = MsgId.STATUS.byte.toNat ∧ packet.flags &&& telemetryFlag ≠ 0 then
    .telemetry inbox packet ()
  else if packet.msgId = MsgId.EVENT.byte.toNat then .event inbox packet ()
  else if packet.seq ≠ seq then .next inbox ()
  else if packet.msgId = MsgId.ERROR.byte.toNat then .deviceError packet
  else if packet.msgId = expected.byte.toNat then .returned packet
  else
    let msg := hexadecimal 2 packet.msgId
    .raised (.protocolError s!"unexpected response 0x{msg} for seq {seq}")

/-- The loop of `ping`, with `saw_ack`. -/
def pingRound (seq : Nat) (sawAck : Bool) (inbox : Inbox) (packet : Codec.Packet) :
    Round Bool Bool :=
  if packet.msgId = MsgId.STATUS.byte.toNat ∧ packet.flags &&& telemetryFlag ≠ 0 then
    .telemetry inbox packet sawAck
  else if packet.msgId = MsgId.EVENT.byte.toNat then .event inbox packet sawAck
  else if packet.seq ≠ seq then
    if packet.msgId = MsgId.STATUS.byte.toNat then .telemetry inbox packet sawAck
    else .next inbox sawAck
  else if packet.msgId = MsgId.ERROR.byte.toNat then .deviceError packet
  else if packet.msgId = MsgId.ACK.byte.toNat then .next inbox true
  else if packet.msgId = MsgId.PONG.byte.toNat then .returned sawAck
  else .next inbox sawAck

/-! ## Methods -/

/-- The methods built on `request`; the last two are `acked(MsgId.HEARTBEAT)` and
`acked(MsgId.REBOOT)`. -/
inductive Method where
  | identity | capabilities | status | faults | counters | driverStatus
  | setMode (mode : Int)
  | setTelemetryRate (intervalMs : Int)
  | rampStop (decelSps2 : Int)
  | estop | clearFaults
  | moveAbs (targetSteps velocitySps accelSps2 : Int)
  | moveRel (deltaSteps velocitySps accelSps2 : Int)
  | runVelocity (velocitySps accelSps2 : Int)
  | configGet (fieldId : Int)
  | configStage (fieldId value : Int)
  | configApply | configSave | configReset
  | heartbeat | reboot
  deriving DecidableEq

/-- What a method returns. -/
inductive Value where
  | flag (value : Bool)
  | identity (value : Identity)
  | capabilities (value : Capabilities)
  | status (value : Status)
  | faults (value : Faults)
  | counters (value : Messages.Counters)
  | driverStatus (value : Messages.DriverStatus)
  | configValue (value : ConfigValue)
  | ack (value : Ack)
  deriving DecidableEq

namespace Method

def msg : Method → MsgId
  | .identity => .GET_IDENTITY
  | .capabilities => .GET_CAPABILITIES
  | .status => .GET_STATUS
  | .faults => .GET_FAULTS
  | .counters => .GET_COUNTERS
  | .driverStatus => .GET_DRIVER_STATUS
  | .setMode _ => .SET_CONTROL_MODE
  | .setTelemetryRate _ => .SET_TELEM_RATE
  | .rampStop _ => .RAMP_STOP
  | .estop => .ESTOP
  | .clearFaults => .CLEAR_FAULTS
  | .moveAbs .. => .MOVE_ABS
  | .moveRel .. => .MOVE_REL
  | .runVelocity .. => .RUN_VEL
  | .configGet _ => .CONFIG_QUERY
  | .configStage .. => .CONFIG_STAGE_FIELD
  | .configApply => .CONFIG_APPLY
  | .configSave => .CONFIG_SAVE
  | .configReset => .CONFIG_RESET_DEFAULTS
  | .heartbeat => .HEARTBEAT
  | .reboot => .REBOOT

def payload : Method → Option (List UInt8)
  | .setMode mode => buildSetControlMode mode
  | .setTelemetryRate intervalMs => buildTelemRate intervalMs
  | .rampStop decelSps2 => buildRampStop decelSps2
  | .moveAbs targetSteps velocitySps accelSps2 => buildMove targetSteps velocitySps accelSps2
  | .moveRel deltaSteps velocitySps accelSps2 => buildMove deltaSteps velocitySps accelSps2
  | .runVelocity velocitySps accelSps2 => buildRunVelocity velocitySps accelSps2
  | .configGet fieldId => buildConfigQuery fieldId
  | .configStage fieldId value => buildConfigStageField fieldId value
  | _ => some []

/-- The response expected. -/
def expect : Method → MsgId
  | .identity => .IDENTITY
  | .capabilities => .CAPABILITIES
  | .status => .STATUS
  | .faults => .FAULTS
  | .counters => .COUNTERS
  | .driverStatus => .DRIVER_STATUS
  | .configGet _ => .CONFIG_VALUE
  | _ => .ACK

/-- What is made of the packet `request` returns. -/
def parse (method : Method) (packet : Codec.Packet) : Except String Value :=
  match method with
  | .identity => (parseIdentity packet).map .identity
  | .capabilities => (parseCapabilities packet).map .capabilities
  | .status => (parseStatus packet).map .status
  | .faults => (parseFaults packet).map .faults
  | .counters => (parseCounters packet).map .counters
  | .driverStatus => (parseDriverStatus packet).map .driverStatus
  | .configGet _ => (parseConfigValue packet).map .configValue
  | _ => (parseAck packet).map .ack

end Method

/-- One call on a `DaftClient`. -/
inductive ClientCall where
  | ping
  | of (method : Method)
  deriving DecidableEq

/-- What is written for a call, none where building or encoding it raises. -/
def ClientCall.request : ClientCall → Option Request
  | .ping => some { msg := MsgId.PING.byte, fits := Nat.zero_le _ }
  | .of method => do
    let payload ← method.payload
    if fits : payload.length ≤ maxPayloadSize then
      return { msg := method.msg.byte, payload, fits }
    else none

/-- The message of a call. -/
def ClientCall.msg : ClientCall → MsgId
  | .ping => .PING
  | .of method => method.msg

theorem ClientCall.request_msg {call : ClientCall} {request : Request}
    (writes : call.request = some request) : request.msg = call.msg.byte := by
  cases call with
  | ping =>
    cases writes
    rfl
  | of method =>
    unfold ClientCall.request at writes
    obtain ⟨payload, -, writes⟩ := Option.bind_eq_some_iff.mp writes
    split at writes
    · cases writes
      rfl
    · cases writes

/-- The local variables of a call in progress. -/
structure Pending where
  call : ClientCall
  seq : Nat
  sawAck : Bool := false
  deriving DecidableEq

/-- A call in progress reads a packet. -/
def Pending.read (pending : Pending) (inbox : Inbox) (packet : Codec.Packet) :
    Round Pending Value :=
  match pending.call with
  | .ping =>
    match pingRound pending.seq pending.sawAck inbox packet with
    | .next inbox sawAck => .next inbox { pending with sawAck }
    | .returned value => .returned (.flag value)
    | .raised error => .raised error
  | .of method =>
    match requestRound pending.seq method.expect inbox packet with
    | .next inbox _ => .next inbox pending
    | .returned response =>
      match method.parse response with
      | .ok value => .returned value
      | .error message => .raised (.protocolError message)
    | .raised error => .raised error

end Daft.Host
