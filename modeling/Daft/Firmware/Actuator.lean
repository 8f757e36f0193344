import Daft.Firmware.Backend

/-!
# The actuator and what its handlers are made of

The members of `Actuator`, split by who writes them: `Control` (commands, ticks
and faults), `RequestCache` (the duplicate filter) and the counters and clocks.
A `Machine` is an actuator with the record of what it did to the outside: the
backend calls, the packets handed to writers and the requests dispatched, each
newest first.
-/

namespace Daft

structure Control where
  defaults : ActuatorConfig := {}
  activeConfig : ActuatorConfig := {}
  stagedConfig : ActuatorConfig := {}
  state : ActuatorState := .BOOTING
  controlMode : ControlMode := .DISABLED
  faults : UInt32 := 0
  configGeneration : UInt32 := 0
  driverEnabled : Bool := false
  configStaged : Bool := false
  bootEventPending : Bool := false
  bootReason : UInt32 := 0
  deriving DecidableEq

/-- `last_request_*` and `last_responses_` up to `last_response_count_`. -/
structure RequestCache where
  lastRequestValid : Bool := false
  lastRequest : Packet := {}
  lastResponses : CachedResponses := []
  deriving DecidableEq

structure Actuator extends Control, RequestCache where
  counters : Counters := {}
  lastHostMs : UInt32 := 0
  lastTelemetryMs : UInt32 := 0
  deriving DecidableEq

/-- The build metadata of `build_info.hpp`, with its fallback values. -/
structure BuildInfo where
  versionMajor : UInt8 := 1
  versionMinor : UInt8 := 0
  versionPatch : UInt8 := 0
  gitSha : List UInt8 := [0x75, 0x6E, 0x6B, 0x6E, 0x6F, 0x77, 0x6E]
  buildDate : List UInt8 := [0x75, 0x6E, 0x6B, 0x6E, 0x6F, 0x77, 0x6E]
  gitDirty : Bool := true
  deriving DecidableEq

structure Machine where
  act : Actuator := {}
  build : BuildInfo := {}
  /-- The packets cached for the request being handled. -/
  cached : CachedResponses := []
  calls : History := []
  sent : List Transmission := []
  /-- The requests that got past the duplicate filter. -/
  dispatched : List Packet := []
  deriving DecidableEq

/-! ## Pure members -/

def Control.isMotionState (c : Control) : Bool :=
  c.state = .MOVING_POSITION ∨ c.state = .RUNNING_VELOCITY ∨ c.state = .STOPPING

def Control.validateMotionAllowed (c : Control) (requested : ControlMode) : ErrorCode :=
  if c.state = .FAULTED then .ERR_FAULTED
  else if !c.driverEnabled then .ERR_BAD_STATE
  else if c.configStaged then .ERR_BAD_STATE
  else if requested = .POSITION ∧ c.state = .RUNNING_VELOCITY then .ERR_BUSY
  else if requested = .VELOCITY ∧ c.state = .MOVING_POSITION then .ERR_BUSY
  else if c.state = .STOPPING then .ERR_BUSY
  else .OK

def softLimitViolation (config : ActuatorConfig) (target : Int32) : Bool :=
  config.motion.softLimitsEnabled ∧
    (target < config.motion.softMinSteps ∨ target > config.motion.softMaxSteps)

/-- `to_backend_value`, `none` where it returns false. -/
def Control.toBackendValue (c : Control) (logical : Int32) : Option Int32 :=
  if !c.activeConfig.calibration.directionInverted then some logical
  else if logical = Int32.minValue then none
  else some (-logical)

def Control.fromBackendValue (c : Control) (backendValue : Int32) : Int32 :=
  if !c.activeConfig.calibration.directionInverted then backendValue
  else if backendValue = Int32.minValue then Int32.maxValue
  else -backendValue

/-- `same_request`; `memcmp` over at most the bytes the buffer has. -/
def RequestCache.sameRequest (cache : RequestCache) (request : Packet) : Bool :=
  if !cache.lastRequestValid ∨ request.msgId ≠ cache.lastRequest.msgId ∨
      request.flags ≠ cache.lastRequest.flags ∨ request.seq ≠ cache.lastRequest.seq ∨
      request.payloadLen ≠ cache.lastRequest.payloadLen then false
  else request.payloadLen = 0 ∨ request.bytes = cache.lastRequest.bytes

/-- The condition under which `handle_packet` does not dispatch. -/
def RequestCache.isDuplicate (cache : RequestCache) (request : Packet) : Bool :=
  cache.lastRequestValid ∧ request.seq = cache.lastRequest.seq ∧
    request.msgId = cache.lastRequest.msgId

/-- The bytes `copy_ascii` writes from a C string. -/
def copyAscii (capacity : Nat) (src : List UInt8) : List UInt8 :=
  (src.takeWhile (· ≠ 0)).take capacity

namespace Machine

/-! ## Calls and field updates -/

/-- Call a callback on the history so far and record it; a null callback is
skipped. -/
def ask {α : Type} (m : Machine) (callback : Option (History → α)) (record : α → Call) :
    Option α × Machine :=
  match callback with
  | none => (none, m)
  | some f => (some (f m.calls), { m with calls := record (f m.calls) :: m.calls })

def mapControl (m : Machine) (f : Control → Control) : Machine :=
  { m with act := { m.act with toControl := f m.act.toControl } }

def mapCounters (m : Machine) (f : Counters → Counters) : Machine :=
  { m with act := { m.act with counters := f m.act.counters } }

section Calls

variable (m : Machine) (b : MotionBackend)

def nowMs : UInt32 × Machine :=
  let (now, m) := m.ask b.millis .millis
  (now.getD 0, m)

def enableDriver (enabled : Bool) : Option Bool × Machine :=
  m.ask (b.enableDriver.map fun f h => f h enabled) (.enableDriver enabled)

def configureDriver (config : Tmc2209Config) : Option Bool × Machine :=
  m.ask (b.configureDriver.map fun f h => f h config) (.configureDriver config)

def moveAbsolute (target : Int32) (velocity accel : UInt32) : Option Bool × Machine :=
  m.ask (b.moveAbsolute.map fun f h => f h target velocity accel)
    (.moveAbsolute target velocity accel)

def moveRelative (delta : Int32) (velocity accel : UInt32) : Option Bool × Machine :=
  m.ask (b.moveRelative.map fun f h => f h delta velocity accel)
    (.moveRelative delta velocity accel)

def runVelocity (velocity : Int32) (accel : UInt32) : Option Bool × Machine :=
  m.ask (b.runVelocity.map fun f h => f h velocity accel) (.runVelocity velocity accel)

def rampStop (decel : UInt32) : Option Bool × Machine :=
  m.ask (b.rampStop.map fun f h => f h decel) (.rampStop decel)

def emergencyStop : Machine :=
  (m.ask (b.emergencyStop.map fun _ _ => ()) fun _ => .emergencyStop).2

def motionActive : Option Bool × Machine := m.ask b.motionActive .motionActive

def saveConfig (config : ActuatorConfig) : Option Bool × Machine :=
  m.ask (b.saveConfig.map fun f h => f h config) (.saveConfig config)

def loadConfig : Option (Option (ActuatorConfig × UInt32)) × Machine :=
  m.ask b.loadConfig .loadConfig

def resetConfigStorage : Option Bool × Machine :=
  m.ask b.resetConfigStorage .resetConfigStorage

def reboot : Machine := (m.ask (b.reboot.map fun _ _ => ()) fun _ => .reboot).2

def bootReason : UInt32 × Machine :=
  let (reason, m) := m.ask b.bootReason .bootReason
  (reason.getD 0, m)

def driverStatus : DriverStatus × Machine :=
  let (status, m) := m.ask b.driverStatus .driverStatus
  (status.getD {}, m)

def logicalCurrentPosition : Int32 × Machine :=
  let (steps, after) := m.ask b.currentPosition .currentPosition
  (m.act.fromBackendValue (steps.getD 0), after)

def logicalTargetPosition : Int32 × Machine :=
  let (steps, after) := m.ask b.targetPosition .targetPosition
  (m.act.fromBackendValue (steps.getD 0), after)

def logicalCurrentSpeed : Int32 × Machine :=
  let (sps, after) := m.ask b.currentSpeed .currentSpeed
  (m.act.fromBackendValue (sps.getD 0), after)

end Calls

/-! ## Sending -/

/-- `send_packet`, after the cache part of `cached_send` where the writer is
the caching one. -/
def sendPacket (m : Machine) (w : ResponseWriter) (packet : Packet) : Bool × Machine :=
  let taken := match w.downstream with
    | none => false
    | some send => send m.sent packet
  (taken, { m with cached := if w.caches then m.cached.push packet else m.cached
                   sent := ⟨packet, w.caches, taken⟩ :: m.sent })

def sendResponse (m : Machine) (w : ResponseWriter) (packet : Packet) : Machine :=
  let (taken, m) := m.sendPacket w packet
  if taken then m else m.mapCounters fun c => { c with droppedPackets := c.droppedPackets + 1 }

end Machine

def ackPacket (seq : UInt16) (acked : UInt8) (code : ErrorCode := .OK) : Packet :=
  .respond .ACK PacketFlag.RESPONSE.bits seq 2 [acked, code.byte]

def errorPacket (seq : UInt16) (rejected : UInt8) (code : ErrorCode) : Packet :=
  .respond .ERROR (PacketFlag.RESPONSE.bits ||| PacketFlag.ERROR.bits) seq 2 [rejected, code.byte]

def eventPacket (seq : UInt16) (event : EventType) (severity : EventSeverity) (detail : UInt16)
    (value now : UInt32) : Packet :=
  .respond .EVENT 0 seq 12
    ([event.byte, severity.byte] ++ writeU16 detail ++ writeU32 value ++ writeU32 now)

namespace Machine

def sendAck (m : Machine) (w : ResponseWriter) (seq : UInt16) (acked : UInt8) : Machine :=
  m.sendResponse w (ackPacket seq acked)

def sendError (m : Machine) (w : ResponseWriter) (seq : UInt16) (rejected : UInt8)
    (code : ErrorCode) : Machine :=
  (m.mapCounters fun c => { c with rejectedCommands := c.rejectedCommands + 1 }).sendResponse w
    (errorPacket seq rejected code)

section Senders

variable (m : Machine) (b : MotionBackend) (w : ResponseWriter) (seq : UInt16)

def sendEvent (event : EventType) (severity : EventSeverity) (detail : UInt16) (value : UInt32) :
    Machine :=
  let (now, m) := m.nowMs b
  m.sendResponse w (eventPacket seq event severity detail value now)

def sendStatus (telemetry : Bool) : Machine :=
  let (position, m) := m.logicalCurrentPosition b
  let (target, m) := m.logicalTargetPosition b
  let (speed, m) := m.logicalCurrentSpeed b
  let (now, m) := m.nowMs b
  let flag := if telemetry then PacketFlag.TELEMETRY else .RESPONSE
  m.sendResponse w <| .respond .STATUS flag.bits seq 32
    ([m.act.state.byte, m.act.controlMode.byte, if m.act.driverEnabled then 1 else 0,
        if m.act.configStaged then 1 else 0] ++
      writeU32 m.act.faults ++ writeI32 position ++ writeI32 target ++ writeI32 speed ++
      writeU32 now ++ writeU32 m.act.configGeneration ++ writeU32 m.act.counters.commandCount)

def sendIdentity : Machine :=
  let sha := copyAscii 20 m.build.gitSha
  let date := copyAscii 24 m.build.buildDate
  m.sendResponse w <| .respond .IDENTITY PacketFlag.RESPONSE.bits seq 64
    ([2, m.build.versionMajor, m.build.versionMinor, m.build.versionPatch, 1, 1] ++
      writeU16 configVersion ++ writeU32 0x54464144 ++ writeU32 m.act.configGeneration ++
      [if m.build.gitDirty then 1 else 0, sha.length.toUInt8, date.length.toUInt8, 0] ++
      sha ++ List.replicate (20 - sha.length) 0 ++ date ++ List.replicate (24 - date.length) 0)

def sendCapabilities : Machine :=
  m.sendResponse w <| .respond .CAPABILITIES PacketFlag.RESPONSE.bits seq 16
    ([1, 0, 0, 1] ++ writeU16 maxPayloadSize.toUInt16 ++ writeU16 100 ++ writeU32 1 ++
      writeU32 m.act.activeConfig.safety.hostTimeoutMs)

def sendFaults : Machine :=
  m.sendResponse w <| .respond .FAULTS PacketFlag.RESPONSE.bits seq 4 (writeU32 m.act.faults)

def sendCounters : Machine :=
  let (now, m) := m.nowMs b
  let c := m.act.counters
  m.sendResponse w <| .respond .COUNTERS PacketFlag.RESPONSE.bits seq 28
    (writeU32 c.crcErrors ++ writeU32 c.decodeErrors ++ writeU32 c.droppedPackets ++
      writeU32 c.duplicatePackets ++ writeU32 c.commandCount ++ writeU32 c.rejectedCommands ++
      writeU32 now)

def sendConfigValue (field : ConfigField) : Machine :=
  match configFieldValue m.act.activeConfig field with
  | none => m.sendError w seq MsgId.CONFIG_QUERY.byte .ERR_INVALID_FIELD
  | some value =>
    m.sendResponse w <| .respond .CONFIG_VALUE PacketFlag.RESPONSE.bits seq 8
      (writeU16 field.raw ++
        [(configFieldMutability field).byte, if m.act.configStaged then 1 else 0] ++
        writeI32 value)

end Senders

/-! ## State changes -/

/-- `transition_to`; the event goes out only where a writer is passed down. -/
def transitionTo (m : Machine) (b : MotionBackend) (state : ActuatorState)
    (eventWriter : Option ResponseWriter) : Machine :=
  if m.act.state = state then m
  else
    let previous := m.act.state
    let m := m.mapControl fun c => { c with state := state }
    match eventWriter with
    | none => m
    | some w => m.sendEvent b w 0 .STATE_CHANGED .INFO previous.byte.toUInt16 state.byte.toUInt32

/-- `set_fault` up to the state change: the flag is raised and, if it was not up
already, announced. -/
def raiseFault (m : Machine) (b : MotionBackend) (flag : FaultFlag)
    (eventWriter : Option ResponseWriter) : Machine :=
  let newlySet := m.act.faults &&& flag.value = 0
  let m := m.mapControl fun c => { c with faults := c.faults ||| flag.value }
  match eventWriter with
  | some w => if newlySet then m.sendEvent b w 0 .FAULT_SET .ERROR (faultBit flag) m.act.faults
              else m
  | none => m

/-- `set_fault`. -/
def setFault (m : Machine) (b : MotionBackend) (flag : FaultFlag)
    (eventWriter : Option ResponseWriter) : Machine :=
  let m := m.raiseFault b flag eventWriter
  if flag.keepsState then m else m.transitionTo b .FAULTED eventWriter

/-- `send_driver_status` once the status is read; its events go out through the
writer of the response. -/
def reportDriverStatus (m : Machine) (b : MotionBackend) (w : ResponseWriter) (seq : UInt16)
    (status : DriverStatus) : Machine :=
  let m := if status.uartFailing then
      (m.setFault b .DRIVER_UART (some w)).sendEvent b w seq .DRIVER_UART_FAILURE .ERROR 0
        status.rawStatus
    else m
  m.sendResponse w <| .respond .DRIVER_STATUS PacketFlag.RESPONSE.bits seq 16
    ([status.configured, status.uartOk, status.overtemperaturePreWarning,
        status.overtemperature] ++
      writeU16 status.runCurrentMa ++ writeU16 status.microsteps ++ writeU32 status.rawStatus ++
      writeU32 0)

/-- `send_driver_status`. -/
def sendDriverStatus (m : Machine) (b : MotionBackend) (w : ResponseWriter) (seq : UInt16) :
    Machine :=
  let (status, m) := m.driverStatus b
  m.reportDriverStatus b w seq status

/-- `remember_request`. -/
def rememberRequest (m : Machine) (request : Packet) : Machine :=
  { m with act := { m.act with lastRequestValid := true, lastRequest := request,
                               lastResponses := m.cached.take cacheCapacity } }

/-- `replay_last_response`. -/
def replayLastResponse (m : Machine) (w : ResponseWriter) : Machine :=
  m.act.lastResponses.foldl (fun m packet => m.sendResponse w packet) m

end Machine

end Daft
