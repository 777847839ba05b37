import VehicleSpy.Firmware.AtCommandDispatcher
import VehicleSpy.Firmware.CanBridge

/-! # The TCP server manager and the firmware's loop around it

The manager owns the one adopted client: it accepts and authenticates, cuts the bytes of the
client into commands, and cleans up after a drop. The CAN bridge writes its frames to the
connection that was accepted last, and shares the monitor flag with the manager and with the
serial console.
-/

namespace VehicleSpy.Firmware

open Text

/-- Connections are told apart by their number in the order of acceptance. -/
abbrev ClientId := ℕ

/-- The calls that the manager makes on its clients, with what the reads answered, and on its
host. -/
inductive TcpCall where
  | stop (client : ClientId)
  | setNoDelay (client : ClientId) (enable : Bool)
  | setTimeout (client : ClientId) (ms : UInt32)
  | readLine (client : ClientId) (line : Bytes)
  | readAvailableLine (client : ClientId) (incoming : Bytes)
  | println (client : ClientId) (line : Bytes)
  | flush (client : ClientId)
  | setMonitorActive (active : Bool)
  | resetDiscoveryBackoff
  | handleTcpAtCommand (cmd : Bytes)
  | onClientConnected (ip : Bytes)
  | onAuthFailed (ip : Bytes)
  | onClientDisconnected (ip : Bytes) (reason : ℤ)
  deriving DecidableEq, Repr

/-- What the interfaces answer during one cycle: a new connection with its address, its first
line and the token that is current then, or the state of the adopted client and the bytes
that it has sent. -/
inductive CycleInput where
  | arrival (remoteIP firstLine authToken : Bytes)
  | noArrival (connected : Bool) (incoming : Bytes)
  deriving DecidableEq, Repr

structure TcpServerManager where
  current : Option ClientId := none
  clientIp : Bytes := []
  partialLine : Bytes := []
  deriving DecidableEq, Repr

namespace TcpServerManager

def TCP_AUTH_TIMEOUT_MS : UInt32 := 5000
def TCP_COMMAND_TIMEOUT_MS : UInt32 := 100

/-- Blank, tab, CR, LF, form feed and vertical tab. -/
def isWs (c : Byte) : Bool := isBlank c || c == 12 || c == 11

def trim (s : Bytes) : Bytes := (s.dropWhile isWs).rdropWhile isWs

def isValidAuthToken (received authToken : Bytes) : Bool :=
  received = ascii "AUTH " ++ authToken

/-- Stop any current client and adopt the new one, with the monitor off and no bytes left. -/
def adopt (m : TcpServerManager) (next : ClientId) (remoteIP : Bytes) :
    TcpServerManager × List TcpCall :=
  ({ current := some next, clientIp := remoteIP, partialLine := [] },
    (match m.current with
      | some client => [.stop client]
      | none => []) ++ [.setNoDelay next true, .setMonitorActive false])

/-- Read the first line of the adopted client and keep or drop the client. -/
def authenticate (m : TcpServerManager) (next : ClientId) (line authToken : Bytes) :
    TcpServerManager × List TcpCall :=
  let calls := [.setTimeout next TCP_AUTH_TIMEOUT_MS, .readLine next line,
    .setTimeout next TCP_COMMAND_TIMEOUT_MS]
  if isValidAuthToken (trim line) authToken then
    (m, calls ++ [.println next (ascii "OK"), .flush next, .setMonitorActive true,
      .onClientConnected m.clientIp])
  else
    ({ m with current := none, clientIp := [] },
      calls ++ [.println next (ascii "ERROR unauthorized"), .flush next, .stop next,
        .onAuthFailed m.clientIp])

/-- One complete command line of the adopted client. -/
def dispatchCommand (client : ClientId) (line : Bytes) : List TcpCall :=
  let cmd := trim line
  if cmd = [] then []
  else if startsWith (ascii "PING ") cmd then
    [.println client (ascii "PONG " ++ cmd.drop 5), .flush client]
  else [.handleTcpAtCommand cmd]

/-- Dispatch the complete lines of the buffer, one after the other. -/
def dispatchLines (client : ClientId) (partialLine : Bytes) : Bytes × List TcpCall :=
  match _h : find CR partialLine with
  | none => (partialLine, [])
  | some pos =>
    let (rest, calls) := dispatchLines client (partialLine.drop (pos + 1))
    (rest, dispatchCommand client (partialLine.take pos) ++ calls)
termination_by partialLine.length
decreasing_by
  have := List.length_pos_of_mem (mem_of_find _h)
  rw [List.length_drop]
  omega

/-- One tick; `next` is the number of a connection that is accepted in it. -/
def cycle (m : TcpServerManager) (next : ClientId) : CycleInput → TcpServerManager × List TcpCall
  | .arrival remoteIP firstLine authToken =>
    let (m, adopted) := m.adopt next remoteIP
    let (m, answered) := m.authenticate next firstLine authToken
    (m, adopted ++ answered)
  | .noArrival connected incoming =>
    match m.current with
    | none => (m, [])
    | some client =>
      if connected then
        let (rest, calls) :=
          if incoming = [] then (m.partialLine, [])
          else dispatchLines client (m.partialLine ++ incoming)
        ({ m with partialLine := rest }, .readAvailableLine client incoming :: calls)
      else
        ({ current := none, clientIp := [], partialLine := [] },
          [.setMonitorActive false, .resetDiscoveryBackoff, .onClientDisconnected m.clientIp 0])

def writeLineToClient (m : TcpServerManager) (connected : Bool) (line : Bytes) : List TcpCall :=
  match m.current with
  | some client => if connected then [.println client line] else []
  | none => []

end TcpServerManager

/-- What the loop does: a line typed on the serial console, the heartbeat, a cycle of the
manager, and draining the CAN queue, where each frame comes with the connection status of
the bridge's client at that moment. -/
inductive LoopEvent where
  | serialCommand (env : AtEnv) (cmd : Bytes) (quietUntilMs : UInt32)
  | heartbeat (snapshot : Bytes) (connected : Bool)
  | cycle (env : AtEnv) (input : CycleInput)
  | processFrames (nowMs : UInt32) (queue : List (CanFrame × Bool))

/-- The calls of the manager, and those of the bridge with the connection it writes to. -/
inductive LoopCall where
  | tcp (call : TcpCall)
  | bridge (client : Option ClientId) (call : BridgeCall)
  deriving DecidableEq, Repr

/-- The manager, the bridge with the monitor flag, the connection in the global client slot,
the number of connections accepted, and those that have been told to stop. -/
structure FirmwareLoop where
  tcpManager : TcpServerManager := {}
  canBridge : CanBridge
  client : Option ClientId := none
  accepted : ClientId := 0
  stopped : List ClientId := []

namespace FirmwareLoop

/-- The monitor flag after the calls of a dispatched command. -/
def monitorAfterDispatch (active : Bool) (calls : List AtCall) : Bool :=
  calls.foldl (fun active call => match call with
    | .setMonitorActive b => b
    | _ => active) active

/-- The monitor flag after the manager's calls on its host. -/
def monitorAfter (env : AtEnv) (active : Bool) (calls : List TcpCall) : Bool :=
  calls.foldl (fun active call => match call with
    | .setMonitorActive b => b
    | .handleTcpAtCommand cmd =>
      monitorAfterDispatch active (AtCommandDispatcher.handleTcpCommand env cmd)
    | _ => active) active

/-- The connections that the calls stop. -/
def stops (calls : List TcpCall) : List ClientId :=
  calls.filterMap fun
    | .stop client => some client
    | _ => none

def isArrival : CycleInput → Bool
  | .arrival _ _ _ => true
  | .noArrival _ _ => false

/-- A cycle of the manager; accepting a connection puts it into the global slot first. -/
def runCycle (s : FirmwareLoop) (env : AtEnv) (input : CycleInput) :
    FirmwareLoop × List LoopCall :=
  let (m, calls) := s.tcpManager.cycle s.accepted input
  ({ tcpManager := m
     canBridge := { s.canBridge with
       monitorActive := monitorAfter env s.canBridge.monitorActive calls }
     client := if isArrival input then some s.accepted else s.client
     accepted := if isArrival input then s.accepted + 1 else s.accepted
     stopped := s.stopped ++ stops calls },
    calls.map .tcp)

def step (s : FirmwareLoop) : LoopEvent → FirmwareLoop × List LoopCall
  | .serialCommand env cmd quietUntilMs =>
    ({ s with canBridge := { s.canBridge with
        monitorActive := monitorAfterDispatch s.canBridge.monitorActive
          (AtCommandDispatcher.handleSerialCommand env cmd)
        serialQuietUntilMs := quietUntilMs } }, [])
  | .heartbeat snapshot connected =>
    (s, (s.tcpManager.writeLineToClient connected snapshot).map .tcp)
  | .cycle env input => s.runCycle env input
  | .processFrames nowMs queue =>
    match s.canBridge.processFrames s.canBridge.monitorActive nowMs queue with
    | some (bridge, calls) => ({ s with canBridge := bridge }, calls.map (.bridge s.client))
    | none => (s, [])

end FirmwareLoop

end VehicleSpy.Firmware
