import Mathlib.Data.Nat.Notation

/-! # The polling loop of the iOS app

While the app is connected, a timer copies the latest signal values, records a heartbeat if
the vehicle detector is receiving data, and then checks whether the connection is still
alive. A lost connection stops the timer and starts the reconnect loop.
-/

namespace VehicleSpy.Ios

/-- `HeartbeatLiveness`: how long ago the last heartbeat was, on the app's clock. -/
structure HeartbeatLiveness where
  timeoutMs : UInt64
  lastHeartbeatMs : UInt64

namespace HeartbeatLiveness

def recordHeartbeat (probe : HeartbeatLiveness) (nowMs : UInt64) : HeartbeatLiveness :=
  { probe with lastHeartbeatMs := nowMs }

/-- `isConnectionStale`; the subtraction traps when the clock reads before the last
heartbeat. -/
def isConnectionStale (probe : HeartbeatLiveness) (nowMs : UInt64) : Option Bool :=
  if nowMs < probe.lastHeartbeatMs then none
  else some (decide (probe.timeoutMs ≤ nowMs - probe.lastHeartbeatMs))

end HeartbeatLiveness

/-- The signal values that the app shows. -/
structure Telemetry (ν : Type) where
  throttlePercent : Option ν := none
  speed : Option ν := none
  acceleration : Option ν := none
  brakePercent : Option ν := none
  motorRpm : Option ν := none
  motorTorqueNm : Option ν := none
  gearSelector : Option String := none
  steeringAngleDeg : Option ν := none

/-- The wrapper's signal source: a `TCPSignalSource` with its running flag, or one of the
BLE and demo sources. -/
inductive SignalSource (ν : Type) where
  | tcp (running : Bool) (latestSignal : Telemetry ν)
  | other (latestSignal : Telemetry ν)

def SignalSource.latestSignal {ν : Type} : SignalSource ν → Telemetry ν
  | .tcp _ signal => signal
  | .other signal => signal

/-- `VehicleSimWrapper`, with the time of the last frame in the BLE session's vehicle
detector, on the steady clock. -/
structure VehicleSimWrapper (ν : Type) where
  signalSource : Option (SignalSource ν)
  bleConnected : Bool
  lastFrameTime : Option ℕ
  connectedDeviceName : Option String
  connectedDeviceAddress : Option String

namespace VehicleSimWrapper

variable {ν : Type}

def telemetry (wrapper : VehicleSimWrapper ν) : Telemetry ν :=
  match wrapper.signalSource with
  | none => {}
  | some source => source.latestSignal

def isConnectionAlive (wrapper : VehicleSimWrapper ν) : Bool :=
  if wrapper.bleConnected then true
  else match wrapper.signalSource with
    | some (.tcp running _) => running
    | some (.other _) => true
    | none => false

/-- `isReceivingData`: the detector has a frame less than a second old. Only notifications of
the BLE session feed it. -/
def isReceivingData (wrapper : VehicleSimWrapper ν) (now : ℕ) : Bool :=
  match wrapper.lastFrameTime with
  | none => false
  | some last => decide (now - last < 1000)

def stop (wrapper : VehicleSimWrapper ν) : VehicleSimWrapper ν :=
  { wrapper with
    signalSource := none
    bleConnected := false
    connectedDeviceName := none
    connectedDeviceAddress := none }

/-- The pipeline thread decodes a frame. -/
def onSample (wrapper : VehicleSimWrapper ν) (signal : Telemetry ν) : VehicleSimWrapper ν :=
  match wrapper.signalSource with
  | some (.tcp true _) => { wrapper with signalSource := some (.tcp true signal) }
  | _ => wrapper

/-- The pipeline thread runs out of input. -/
def onPipelineEnd (wrapper : VehicleSimWrapper ν) : VehicleSimWrapper ν :=
  match wrapper.signalSource with
  | some (.tcp _ signal) => { wrapper with signalSource := some (.tcp false signal) }
  | _ => wrapper

end VehicleSimWrapper

inductive ConnectionMode where
  | ble | wifi | demo
deriving DecidableEq

inductive ViewModelConnectionState where
  | disconnected | connecting | connected
deriving DecidableEq

/-- `VehicleViewModel`; a timer is `true` while it is scheduled. -/
structure VehicleViewModel (ν : Type) where
  connectionMode : ConnectionMode
  connectionState : ViewModelConnectionState
  connectionStatus : String
  connectedDeviceName : Option String
  connectedDeviceAddress : Option String
  telemetry : Telemetry ν
  updateTimer : Bool
  reconnectCheckTimer : Bool
  reconnectAttempt : ℕ
  livenessProbe : HeartbeatLiveness
  wrapper : Option (VehicleSimWrapper ν)

namespace VehicleViewModel

variable {ν : Type}

def clientTag : String := " [CLIENT]"

def stopUpdates (vm : VehicleViewModel ν) : VehicleViewModel ν :=
  { vm with updateTimer := false }

def startPolling (vm : VehicleViewModel ν) (nowMs : UInt64) : VehicleViewModel ν :=
  let vm := vm.stopUpdates
  { vm with livenessProbe := vm.livenessProbe.recordHeartbeat nowMs, updateTimer := true }

/-- `updateTelemetry` at a steady-clock time, with the app clock's reading for the
heartbeat. -/
def updateTelemetry (vm : VehicleViewModel ν) (now : ℕ) (nowMs : UInt64) :
    VehicleViewModel ν :=
  match vm.wrapper with
  | none => vm
  | some wrapper =>
    let vm := { vm with telemetry := wrapper.telemetry }
    if wrapper.isReceivingData now then
      { vm with livenessProbe := vm.livenessProbe.recordHeartbeat nowMs }
    else vm

def stopReconnectLoop (vm : VehicleViewModel ν) : VehicleViewModel ν :=
  { vm with reconnectCheckTimer := false, reconnectAttempt := 0 }

def scheduleReconnect (vm : VehicleViewModel ν) : VehicleViewModel ν :=
  if vm.connectionMode = .wifi ∧ vm.connectionState ≠ .connected then
    { vm with reconnectAttempt := vm.reconnectAttempt + 1, reconnectCheckTimer := true }
  else { vm with reconnectCheckTimer := false }

def startReconnectLoop (vm : VehicleViewModel ν) : VehicleViewModel ν :=
  let vm := vm.stopReconnectLoop
  { vm with reconnectAttempt := 0 }.scheduleReconnect

/-- What `checkConnectionLiveness` does with a connection that it found lost. -/
def dropConnection (vm : VehicleViewModel ν) (wrapper : VehicleSimWrapper ν) :
    VehicleViewModel ν :=
  let vm := vm.stopUpdates
  { vm with
    wrapper := some wrapper.stop
    connectionState := .disconnected
    connectedDeviceName := none
    connectedDeviceAddress := none
    connectionStatus := "Connection lost — reconnecting..." ++ clientTag
    telemetry := {} }.startReconnectLoop

/-- `checkConnectionLiveness`. Both triggers are evaluated before either is acted on, so the
trap of `isConnectionStale` does not depend on the transport. -/
def checkConnectionLiveness (vm : VehicleViewModel ν) (nowMs : UInt64) :
    Option (VehicleViewModel ν) :=
  match vm.wrapper with
  | some wrapper =>
    if vm.connectionMode = .wifi ∧ vm.connectionState = .connected then
      let isTransportDead := !wrapper.isConnectionAlive
      match vm.livenessProbe.isConnectionStale nowMs with
      | none => none
      | some isHeartbeatStale =>
        if isTransportDead || isHeartbeatStale then some (vm.dropConnection wrapper)
        else some vm
    else some vm
  | none => some vm

/-- The polling timer's block; an invalidated timer does not fire. -/
def poll (vm : VehicleViewModel ν) (now : ℕ) (heartbeatMs livenessMs : UInt64) :
    Option (VehicleViewModel ν) :=
  if vm.updateTimer then (vm.updateTelemetry now heartbeatMs).checkConnectionLiveness livenessMs
  else some vm

end VehicleViewModel

end VehicleSpy.Ios
