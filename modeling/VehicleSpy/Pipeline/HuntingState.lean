import VehicleSpy.Pipeline.TCPTransport

/-! # The hunting state

A lost connection is hunted for: the last known address is tried five times at once and then
with back-off, while discovery listens for the device at a new one. The two threads meet in
two variables, so their steps are events in any order.
-/

namespace VehicleSpy.Pipeline

open Text

/-- What a broadcast tells of a device. -/
structure DiscoveredDevice where
  deviceId : Bytes
  address : Bytes
  deriving DecidableEq, Repr

inductive ReadFailureKind
  | selectError
  | stopRequested
  | recvFailure
  deriving DecidableEq, Repr

inductive HuntPhase
  | reading
  | rapid (attempt : ℕ)
  | backoff (retryCount : ℕ)
  /-- The retries are over; the id of the peer if one has connected. -/
  | settling (reconnected : Option Bytes)
  | exhausted
  deriving DecidableEq, Repr

/-- The transport, what it is at, and what discovery has told it. -/
structure HuntState where
  transport : TCPTransport
  phase : HuntPhase := .reading
  discoveryFound : Bool := false
  discoveredIp : Bytes := []
  deriving DecidableEq, Repr

inductive HuntEvent
  | recv (data : Received)
  | readFailure (kind : ReadFailureKind) (stop : Bool)
  /-- One poll of the discovery thread. -/
  | poll (devices : List DiscoveredDevice)
  /-- The next turn of the retries, with the stop flag and the attempt it may make. -/
  | retry (stop : Bool) (a : Attempt)
  /-- The discovery thread has been joined; the attempt that may be made at the new address. -/
  | settle (a : Attempt)
  deriving DecidableEq, Repr

inductive HuntOutput
  | line (text : Bytes)
  /-- The hunt has succeeded, on a connection to the peer with this id. -/
  | resumed (deviceId : Bytes)
  deriving DecidableEq, Repr

def RAPID_RETRIES : ℕ := 5

def MAX_RETRIES : ℕ := 60

namespace TCPTransport

/-- A device at another address, with the stored id or its first eight digits. -/
def isTargetDevice (t : TCPTransport) (device : DiscoveredDevice) : Bool :=
  let discoveredHex := deviceIdToHex device.deviceId
  (t.deviceIdHex == [] || discoveredHex == t.deviceIdHex ||
    discoveredHex.take 8 == t.deviceIdHex.take 8) && device.address != t.host

end TCPTransport

namespace HuntState

variable (s : HuntState)

/-- Whether the discovery thread is running. -/
def isHunting : Bool :=
  match s.phase with
  | .rapid _ | .backoff _ | .settling _ => true
  | .reading | .exhausted => false

/-- The thread ends with the first target it finds. -/
def runDiscovery (devices : List DiscoveredDevice) : HuntState :=
  if s.isHunting && !s.discoveryFound then
    match devices.find? s.transport.isTargetDevice with
    | some device => { s with discoveryFound := true, discoveredIp := device.address }
    | none => s
  else s

def enterHuntingState : HuntState :=
  { s with phase := .rapid 0, discoveryFound := false, discoveredIp := [] }

def handleReadFailure (stop : Bool) : HuntState :=
  if stop then { s with phase := .exhausted }
  else { s with transport := s.transport.closeConnection }.enterHuntingState

/-- The callback of the reader. -/
def onReadFailure (kind : ReadFailureKind) (stop : Bool) : HuntState :=
  match kind with
  | .recvFailure => s.handleReadFailure stop
  | .selectError | .stopRequested => { s with phase := .exhausted }

/-- An attempt at the last known address; `next` is the phase after a failed one. -/
def attemptReconnect (a : Attempt) (next : HuntPhase) : HuntState :=
  match s.transport.connectAndAuth a with
  | (t, some (deviceId, _)) => { s with transport := t, phase := .settling (some deviceId) }
  | (t, none) => { s with transport := t, phase := next }

def rapidReconnect (attempt : ℕ) (stop : Bool) (a : Attempt) : HuntState :=
  if s.discoveryFound || stop then { s with phase := .backoff 0 }
  else s.attemptReconnect a
    (if attempt + 1 < RAPID_RETRIES then .rapid (attempt + 1) else .backoff 0)

/-- The count goes up once in front of the attempt and once behind it. -/
def backoffThenAttemptReconnect (retryCount : ℕ) (stop : Bool) (a : Attempt) : HuntState :=
  if s.discoveryFound || stop || MAX_RETRIES ≤ retryCount then { s with phase := .settling none }
  else s.attemptReconnect a (.backoff (retryCount + 2))

/-- The address is switched before the attempt. -/
def finalizeHunt (reconnected : Option Bytes) (a : Attempt) : HuntState × List HuntOutput :=
  match reconnected with
  | some deviceId => ({ s with phase := .reading }, [.resumed deviceId])
  | none =>
    if s.discoveryFound && s.discoveredIp != [] then
      match { s.transport with host := s.discoveredIp }.connectAndAuth a with
      | (t, some (deviceId, _)) =>
        ({ s with transport := t, phase := .reading }, [.resumed deviceId])
      | (t, none) => ({ s with transport := t, phase := .exhausted }, [])
    else ({ s with phase := .exhausted }, [])

def step (s : HuntState) : HuntEvent → HuntState × List HuntOutput
  | .recv data =>
    match s.phase with
    | .reading =>
      let (pending, texts) := TcpReader.feed s.transport.pending data
      ({ s with transport := { s.transport with pending := pending } }, texts.map .line)
    | _ => (s, [])
  | .readFailure kind stop =>
    match s.phase with
    | .reading => (s.onReadFailure kind stop, [])
    | _ => (s, [])
  | .poll devices => (s.runDiscovery devices, [])
  | .retry stop a =>
    match s.phase with
    | .rapid attempt => (s.rapidReconnect attempt stop a, [])
    | .backoff retryCount => (s.backoffThenAttemptReconnect retryCount stop a, [])
    | _ => (s, [])
  | .settle a =>
    match s.phase with
    | .settling reconnected => s.finalizeHunt reconnected a
    | _ => (s, [])

end HuntState

end VehicleSpy.Pipeline
