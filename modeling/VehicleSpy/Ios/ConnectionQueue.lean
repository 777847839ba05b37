import Mathlib.Data.Finset.Card
import VehicleSpy.Discovery.WiFiSecurityPolicy
import VehicleSpy.Ios.VehicleViewModel
import VehicleSpy.Text.Numbers

/-! # The connection queue of the iOS app

In WiFi mode two mechanisms connect: a reconnect loop that a clock drives, and a hunt that a
discovered device starts. Both put operations on one serial queue, which posts blocks back to the
main thread. Here a step is one event of the main thread, or one step of the queue's operation.
-/

namespace VehicleSpy.Ios

open Text Discovery

/-- The fields of a discovered bridge that a connection uses. -/
structure DiscoveredESP32 where
  deviceId : Bytes
  address : String
  canPort : UInt16
  deriving DecidableEq

def DiscoveredESP32.host (esp32 : DiscoveredESP32) : String := esp32.address

def DiscoveredESP32.canEndpointDescription (esp32 : DiscoveredESP32) : String :=
  esp32.address ++ ":" ++ toString esp32.canPort

/-- An entry of the list of scanned devices. -/
structure DeviceEntry where
  name : String
  address : String
  deriving DecidableEq

/-- An operation on the connection queue. -/
inductive Operation where
  | reconnect (lastAddress : String)
  | hunt (esp32 : DiscoveredESP32)
  deriving DecidableEq

/-- What the queue, or a BLE connection, posts to the main thread. -/
inductive Block where
  | reconnected (lastAddress : String)
  | reconnectFailed
  | modeCheck
  | hunted (targetDevice : DiscoveredESP32)
  | authFailed (currentAddress : String)
  | resumeHunt
  | findCandidate
  | checkAbort
  | pauseDiscovery
  | huntFailed
  | retryDiscovery
  | bleConnected
  | bleFailed
  deriving DecidableEq

/-- How far the queue has come with its operation. A hunt waits for a candidate in slices of a
tenth of a second. -/
inductive Worker where
  | idle
  | reconnecting (lastAddress : String)
  | connecting (targetDevice : DiscoveredESP32)
  | waiting (targetDevice : DiscoveredESP32) (waitedMs : ℕ)
  | finding (targetDevice : DiscoveredESP32) (waitedMs : ℕ)
  | located (targetDevice : DiscoveredESP32) (waitedMs : ℕ) (foundNewCandidate : Bool)
  | deciding (targetDevice : DiscoveredESP32) (waitedMs : ℕ) (foundNewCandidate : Bool)
  | continuing (targetDevice : DiscoveredESP32)
  | next (targetDevice : DiscoveredESP32)
  | givingUp
  deriving DecidableEq

/-- The view model with what its WiFi connections use, the blocks posted to the main thread, and
the connection queue. -/
structure WifiViewModel (ν : Type) extends VehicleViewModel ν where
  discoveredESP32s : List DiscoveredESP32
  isESP32DiscoveryActive : Bool
  autoConnectedESP32 : Option DiscoveredESP32
  lastConnectedDeviceId : Option Bytes
  wifiSecurityPolicy : WiFiSecurityPolicy
  discoveryListener : Bool
  discoveryRetryTimer : Bool
  nextReconnectFireTimeMs : Option UInt64
  lastConnectedAddress : Option String
  authFailedIPs : Finset String
  bleAttempts : List DeviceEntry
  blocks : List Block
  operations : List Operation
  worker : Worker

/-- What the surroundings answer during a step: the steady clock, the app's clock where a heartbeat
is recorded, where a check is made and where a retry is scheduled, and whether a discovery listener
can be started. -/
structure Surroundings where
  now : ℕ
  heartbeatMs : UInt64
  nowMs : UInt64
  scheduleMs : UInt64
  listenerStarts : Bool

namespace VehicleSimWrapper

variable {ν : Type}

def startDemo (wrapper : VehicleSimWrapper ν) : VehicleSimWrapper ν :=
  { wrapper.stop with
    signalSource := some (.other {})
    connectedDeviceName := some "Demo"
    connectedDeviceAddress := some "demo" }

/-- The end of a successful `connectTCP`. -/
def connectedTcp (wrapper : VehicleSimWrapper ν) (address : String) : VehicleSimWrapper ν :=
  { wrapper with
    signalSource := some (.tcp true {})
    connectedDeviceName := some "ESP32 CAN Bridge"
    connectedDeviceAddress := some address }

/-- The end of a successful BLE connection. -/
def connectedBle (wrapper : VehicleSimWrapper ν) (device : DeviceEntry) : VehicleSimWrapper ν :=
  { wrapper with
    signalSource := some (.other {})
    bleConnected := true
    connectedDeviceName := some device.name
    connectedDeviceAddress := some device.address }

end VehicleSimWrapper

namespace WifiViewModel

variable {ν : Type}

abbrev clientTag : String := VehicleViewModel.clientTag

def stopUpdates (vm : WifiViewModel ν) : WifiViewModel ν :=
  { vm with toVehicleViewModel := vm.toVehicleViewModel.stopUpdates }

def startPolling (vm : WifiViewModel ν) (env : Surroundings) : WifiViewModel ν :=
  { vm with toVehicleViewModel := vm.toVehicleViewModel.startPolling env.heartbeatMs }

section Discovery

def stopESP32Discovery (vm : WifiViewModel ν) : WifiViewModel ν :=
  { vm with
    discoveryListener := false
    discoveryRetryTimer := false
    isESP32DiscoveryActive := false }

def scheduleDiscoveryRetry (vm : WifiViewModel ν) : WifiViewModel ν :=
  if vm.discoveryRetryTimer then vm else { vm with discoveryRetryTimer := true }

def startESP32Discovery (vm : WifiViewModel ν) (env : Surroundings) : WifiViewModel ν :=
  let vm :=
    if vm.discoveryListener || vm.isESP32DiscoveryActive then vm.stopESP32Discovery else vm
  let vm := { vm with discoveredESP32s := [], autoConnectedESP32 := none }
  if env.listenerStarts then { vm with discoveryListener := true, isESP32DiscoveryActive := true }
  else vm.scheduleDiscoveryRetry

/-- The retry timer's block, which posts another one. -/
def onDiscoveryRetryTimer (vm : WifiViewModel ν) : WifiViewModel ν :=
  if vm.connectionMode = .wifi ∧ vm.connectionState ≠ .connected then
    { vm with blocks := vm.blocks ++ [.retryDiscovery] }
  else { vm with discoveryRetryTimer := false }

def resumeDiscoveryIfNeeded (vm : WifiViewModel ν) (env : Surroundings) : WifiViewModel ν :=
  if vm.connectionMode = .wifi then
    let vm := { vm with authFailedIPs := ∅ }
    if vm.isESP32DiscoveryActive then vm else vm.startESP32Discovery env
  else vm

def pauseDiscoveryIfNeeded (vm : WifiViewModel ν) : WifiViewModel ν :=
  if vm.connectionMode = .wifi ∧ vm.connectionState ≠ .connected then vm.stopESP32Discovery else vm

end Discovery

section Reconnect

def stopReconnectLoop (vm : WifiViewModel ν) : WifiViewModel ν :=
  { vm with
    toVehicleViewModel := vm.toVehicleViewModel.stopReconnectLoop
    nextReconnectFireTimeMs := none }

/-- The time to the next attempt, in seconds. -/
def backoff (reconnectAttempt : ℕ) : ℕ := min (2 ^ reconnectAttempt) 30

/-- `scheduleReconnect`; the sum traps at the end of the clock's range. -/
def scheduleReconnect (vm : WifiViewModel ν) (env : Surroundings) : Option (WifiViewModel ν) :=
  if vm.connectionMode = .wifi ∧ vm.connectionState ≠ .connected then
    let fireTime := env.scheduleMs.toNat + backoff vm.reconnectAttempt * 1000
    if fireTime < 2 ^ 64 then
      some { vm with
        reconnectAttempt := vm.reconnectAttempt + 1
        nextReconnectFireTimeMs := some (UInt64.ofNat fireTime)
        reconnectCheckTimer := true }
    else none
  else some { vm with nextReconnectFireTimeMs := none, reconnectCheckTimer := false }

def startReconnectLoop (vm : WifiViewModel ν) (env : Surroundings) : Option (WifiViewModel ν) :=
  let vm := vm.stopReconnectLoop
  { vm with reconnectAttempt := 0 }.scheduleReconnect env

def attemptReconnect (vm : WifiViewModel ν) (env : Surroundings) : Option (WifiViewModel ν) :=
  match vm.wrapper with
  | none => some vm
  | some _ =>
    match vm.lastConnectedAddress with
    | some lastAddress => some { vm with
        connectionStatus := "Reconnecting to " ++ lastAddress ++ "..." ++ clientTag
        operations := vm.operations ++ [.reconnect lastAddress] }
    | none =>
      let vm := { vm with connectionStatus := "Discovering ESP32..." ++ clientTag }
      (vm.startESP32Discovery env).scheduleReconnect env

def checkPendingReconnect (vm : WifiViewModel ν) (env : Surroundings) :
    Option (WifiViewModel ν) :=
  match vm.nextReconnectFireTimeMs with
  | none => some vm
  | some fireTime =>
    if fireTime ≤ env.nowMs then
      { vm with nextReconnectFireTimeMs := none, reconnectCheckTimer := false }.attemptReconnect env
    else some vm

/-- The reconnect timer's block; an invalidated timer does not fire. -/
def onReconnectCheckTimer (vm : WifiViewModel ν) (env : Surroundings) : Option (WifiViewModel ν) :=
  if vm.reconnectCheckTimer then vm.checkPendingReconnect env else some vm

end Reconnect

section Control

def stop (vm : WifiViewModel ν) : WifiViewModel ν :=
  let vm := { vm with
    wrapper := vm.wrapper.map VehicleSimWrapper.stop
    connectionState := .disconnected
    connectedDeviceName := none
    connectedDeviceAddress := none
    connectionStatus := "Disconnected" ++ clientTag }
  { vm.stopUpdates.stopReconnectLoop with telemetry := {} }

def disconnect (vm : WifiViewModel ν) (env : Surroundings) : WifiViewModel ν :=
  let vm := { vm with
    wrapper := vm.wrapper.map VehicleSimWrapper.stop
    connectionState := .disconnected
    connectedDeviceName := none
    connectedDeviceAddress := none
    connectionStatus := "Disconnected" ++ clientTag }
  let vm := vm.stopUpdates.stopReconnectLoop
  let vm := if vm.connectionMode = .wifi then vm.startESP32Discovery env else vm
  { vm with telemetry := {} }

def startDemo (vm : WifiViewModel ν) (env : Surroundings) : WifiViewModel ν :=
  match vm.wrapper with
  | none => vm
  | some wrapper =>
    { vm with
      wrapper := some wrapper.startDemo
      connectionState := .connected
      connectedDeviceName := some "Demo"
      connectedDeviceAddress := some "simulation"
      connectionStatus := "Demo" ++ clientTag }.startPolling env

def startBLE (vm : WifiViewModel ν) : WifiViewModel ν :=
  match vm.wrapper with
  | none => vm
  | some wrapper => { vm with
      wrapper := some wrapper.stop
      connectionState := .connecting
      connectionStatus := "Scanning" ++ clientTag }

/-- The first half of `onConnectionModeChanged`: what was running stops. -/
def leaveMode (vm : WifiViewModel ν) (env : Surroundings) : WifiViewModel ν :=
  let vm := { vm with authFailedIPs := ∅ }
  let vm := if vm.connectionState ≠ .disconnected then vm.disconnect env else vm
  if vm.connectionMode ≠ .wifi then vm.stopReconnectLoop else vm

/-- The second half of `onConnectionModeChanged`. -/
def enterMode (vm : WifiViewModel ν) (env : Surroundings) : WifiViewModel ν :=
  match vm.connectionMode with
  | .ble => vm.stopESP32Discovery
  | .wifi => vm.startESP32Discovery env
  | .demo => vm.stopESP32Discovery.startDemo env

def setConnectionMode (vm : WifiViewModel ν) (mode : ConnectionMode) (env : Surroundings) :
    WifiViewModel ν :=
  ({ vm with connectionMode := mode }.leaveMode env).enterMode env

/-- The polling timer's block, with the check of a connection that starts the reconnect loop. -/
def checkConnectionLiveness (vm : WifiViewModel ν) (env : Surroundings) :
    Option (WifiViewModel ν) :=
  match vm.wrapper with
  | none => some vm
  | some wrapper =>
    if vm.connectionMode = .wifi ∧ vm.connectionState = .connected then
      let isTransportDead := !wrapper.isConnectionAlive
      match vm.livenessProbe.isConnectionStale env.nowMs with
      | none => none
      | some isHeartbeatStale =>
        if isTransportDead || isHeartbeatStale then
          { vm.stopUpdates with
            wrapper := some wrapper.stop
            connectionState := .disconnected
            connectedDeviceName := none
            connectedDeviceAddress := none
            connectionStatus := "Connection lost — reconnecting..." ++ clientTag
            telemetry := {} }.startReconnectLoop env
        else some vm
    else some vm

def poll (vm : WifiViewModel ν) (env : Surroundings) : Option (WifiViewModel ν) :=
  if vm.updateTimer then
    { vm with toVehicleViewModel :=
        vm.toVehicleViewModel.updateTelemetry env.now env.heartbeatMs }.checkConnectionLiveness env
  else some vm

end Control

section Connect

def initiateESP32Connection (vm : WifiViewModel ν) (esp32 : DiscoveredESP32) : WifiViewModel ν :=
  match vm.wrapper with
  | none => vm
  | some _ => { vm.stopESP32Discovery with
      connectionStatus := "Connecting to " ++ esp32.canEndpointDescription ++ clientTag
      connectionState := .connecting
      operations := vm.operations ++ [.hunt esp32] }

def autoConnect (vm : WifiViewModel ν) (esp32 : DiscoveredESP32) : WifiViewModel ν :=
  { vm with autoConnectedESP32 := some esp32 }.initiateESP32Connection esp32

def onDiscovered (vm : WifiViewModel ν) (discovered : DiscoveredESP32) : WifiViewModel ν :=
  if discovered.address ∈ vm.authFailedIPs then vm
  else
    let vm := { vm with discoveredESP32s :=
      match vm.discoveredESP32s.findIdx? (·.address == discovered.address) with
      | some idx => vm.discoveredESP32s.set idx discovered
      | none => vm.discoveredESP32s ++ [discovered] }
    let isRememberedDevice := vm.lastConnectedDeviceId = some discovered.deviceId
    let hasNoRememberedDevice := vm.lastConnectedDeviceId = none
    if vm.connectionMode = .wifi ∧ vm.connectionState = .disconnected ∧
        vm.autoConnectedESP32 = none ∧ (isRememberedDevice ∨ hasNoRememberedDevice) then
      vm.autoConnect discovered
    else vm

/-- Whether `connectToESP32` goes on to connect. -/
def Admits (vm : WifiViewModel ν) (esp32 : DiscoveredESP32) : Prop :=
  esp32.address ∉ vm.authFailedIPs ∧ vm.wifiSecurityPolicy.allowConnection esp32.deviceId = .ok ()

def connectToESP32 (vm : WifiViewModel ν) (esp32 : DiscoveredESP32) : WifiViewModel ν :=
  match vm.wrapper with
  | none => vm
  | some _ =>
    if esp32.address ∈ vm.authFailedIPs then
      { vm with connectionStatus := "Skipping: Auth Failed Previously" ++ clientTag }
    else
      match vm.wifiSecurityPolicy.allowConnection esp32.deviceId with
      | .error _ => { vm with connectionStatus := "Refused: Unverified Device" ++ clientTag }
      | .ok () => vm.initiateESP32Connection esp32

/-- The BLE `connectToDevice`, whose work is done by another queue. -/
def connectToDevice (vm : WifiViewModel ν) (device : DeviceEntry) : WifiViewModel ν :=
  match vm.wrapper with
  | none => vm
  | some _ => { vm with
      connectionStatus := "Connecting" ++ clientTag
      bleAttempts := vm.bleAttempts ++ [device] }

end Connect

section Blocks

def deviceIdHex (deviceId : Bytes) : String :=
  String.ofList ((deviceId.flatMap fun b => hexPad 2 b.toNat).map fun c => Char.ofNat c.toNat)

def connectedStatus (deviceIdHex : String) : String :=
  if deviceIdHex ≠ "" then
    "Connected to ESP32" ++ clientTag ++ " [ESP32:" ++ deviceIdHex ++ "]"
  else "Connected to ESP32" ++ clientTag

/-- The reconnect operation has succeeded. -/
def onReconnected (vm : WifiViewModel ν) (lastAddress : String) (env : Surroundings) :
    WifiViewModel ν :=
  ({ vm with
    connectionState := .connected
    connectedDeviceName := some "ESP32 CAN Bridge"
    connectedDeviceAddress := some lastAddress
    connectionStatus := connectedStatus
      ((vm.autoConnectedESP32.map fun e : DiscoveredESP32 => deviceIdHex e.deviceId).getD "")
    }.startPolling env).stopReconnectLoop

def onReconnectFailed (vm : WifiViewModel ν) (env : Surroundings) : Option (WifiViewModel ν) :=
  let vm := { vm with connectionStatus := "Reconnect failed — discovering..." ++ clientTag }
  (vm.startESP32Discovery env).scheduleReconnect env

/-- The hunt has succeeded with a device. -/
def onHunted (vm : WifiViewModel ν) (targetDevice : DiscoveredESP32) (env : Surroundings) :
    WifiViewModel ν :=
  { vm with
    connectionState := .connected
    connectedDeviceName := some "ESP32 CAN Bridge"
    connectedDeviceAddress := some targetDevice.canEndpointDescription
    lastConnectedAddress := some targetDevice.canEndpointDescription
    connectionStatus := connectedStatus (deviceIdHex targetDevice.deviceId)
    autoConnectedESP32 := some targetDevice
    lastConnectedDeviceId := some targetDevice.deviceId }.startPolling env

def maxAuthFailedIPs : ℕ := 50

def onAuthFailed (vm : WifiViewModel ν) (currentAddress : String) : WifiViewModel ν :=
  let authFailedIPs := if maxAuthFailedIPs ≤ vm.authFailedIPs.card then ∅ else vm.authFailedIPs
  { vm with
    authFailedIPs := insert currentAddress authFailedIPs
    discoveredESP32s := vm.discoveredESP32s.filter (·.address != currentAddress)
    connectionStatus := "Auth Failed - Skipping " ++ currentAddress ++ ", hunting..." ++ clientTag }

def onResumeHunt (vm : WifiViewModel ν) (env : Surroundings) : WifiViewModel ν :=
  if vm.connectionMode = .wifi ∧ vm.connectionState ≠ .connected then vm.startESP32Discovery env
  else vm

/-- The hunt looks for a device that has not failed, while the main thread stands still. -/
def onFindCandidate (vm : WifiViewModel ν) : WifiViewModel ν :=
  match vm.worker with
  | .finding targetDevice waitedMs =>
    match vm.discoveredESP32s.find? (·.address ∉ vm.authFailedIPs) with
    | some newCandidate => { vm with worker := .located newCandidate waitedMs true }
    | none => { vm with worker := .located targetDevice waitedMs false }
  | _ => vm

/-- The hunt looks whether it should abort, while the main thread stands still. -/
def onCheckAbort (vm : WifiViewModel ν) : WifiViewModel ν :=
  match vm.worker with
  | .deciding targetDevice waitedMs foundNewCandidate =>
    if vm.connectionMode ≠ .wifi ∨ vm.connectionState = .connected then
      { vm with worker := .givingUp }
    else if foundNewCandidate then { vm with worker := .continuing targetDevice }
    else { vm with worker := .waiting targetDevice waitedMs }
  | _ => vm

def onHuntFailed (vm : WifiViewModel ν) (env : Surroundings) : WifiViewModel ν :=
  let vm := { vm with
    connectionState := .disconnected
    connectionStatus := "No more devices found - stopped hunting" ++ clientTag }
  if vm.connectionMode = .wifi then vm.startESP32Discovery env else vm

def onRetryDiscovery (vm : WifiViewModel ν) (env : Surroundings) : WifiViewModel ν :=
  let retry := vm.connectionMode = .wifi ∧ vm.connectionState ≠ .connected ∧
    vm.isESP32DiscoveryActive = false
  let vm := { vm with discoveryRetryTimer := false }
  if retry then vm.startESP32Discovery env else vm

def onBleConnected (vm : WifiViewModel ν) (env : Surroundings) : WifiViewModel ν :=
  { vm with
    connectionState := .connected
    connectedDeviceName := vm.wrapper.bind (·.connectedDeviceName)
    connectedDeviceAddress := vm.wrapper.bind (·.connectedDeviceAddress)
    connectionStatus := "Connected" ++ clientTag }.startPolling env

def onBleFailed (vm : WifiViewModel ν) : WifiViewModel ν :=
  { vm with
    connectionState := .disconnected
    connectionStatus := "Connection Failed" ++ clientTag }

/-- The check of the mode in front of a connection does nothing. -/
def onBlock (vm : WifiViewModel ν) (env : Surroundings) : Block → Option (WifiViewModel ν)
  | .reconnected lastAddress => some (vm.onReconnected lastAddress env)
  | .reconnectFailed => vm.onReconnectFailed env
  | .modeCheck => some vm
  | .hunted targetDevice => some (vm.onHunted targetDevice env)
  | .authFailed currentAddress => some (vm.onAuthFailed currentAddress)
  | .resumeHunt => some (vm.onResumeHunt env)
  | .findCandidate => some vm.onFindCandidate
  | .checkAbort => some vm.onCheckAbort
  | .pauseDiscovery => some vm.stopESP32Discovery
  | .huntFailed => some (vm.onHuntFailed env)
  | .retryDiscovery => some (vm.onRetryDiscovery env)
  | .bleConnected => some (vm.onBleConnected env)
  | .bleFailed => some vm.onBleFailed

/-- The main thread takes the next block. -/
def runBlock (vm : WifiViewModel ν) (env : Surroundings) : Option (WifiViewModel ν) :=
  match vm.blocks with
  | [] => none
  | block :: blocks => { vm with blocks }.onBlock env block

end Blocks

section Queue

def post (vm : WifiViewModel ν) (blocks : List Block) : WifiViewModel ν :=
  { vm with blocks := vm.blocks ++ blocks }

/-- The head of the hunt's loop, whose count of retries is never raised. Connecting stops first
what is running. -/
def beginHunt (vm : WifiViewModel ν) (targetDevice : DiscoveredESP32) : WifiViewModel ν :=
  match vm.wrapper with
  | none => { vm with worker := .givingUp }
  | some wrapper => { vm.post [.modeCheck] with
      wrapper := some wrapper.stop
      worker := .connecting targetDevice }

/-- `wrapper.connect` starts, for the next operation or for the next device of a hunt. -/
def connectStart (vm : WifiViewModel ν) : Option (WifiViewModel ν) :=
  match vm.worker, vm.operations with
  | .idle, .reconnect lastAddress :: operations => some { vm with
      operations
      wrapper := vm.wrapper.map VehicleSimWrapper.stop
      worker := .reconnecting lastAddress }
  | .idle, .hunt esp32 :: operations => some ({ vm with operations }.beginHunt esp32)
  | .next targetDevice, _ => some (vm.beginHunt targetDevice)
  | _, _ => none

/-- `wrapper.connect` ends. -/
def connectEnd (vm : WifiViewModel ν) (success : Bool) : Option (WifiViewModel ν) :=
  match vm.worker with
  | .reconnecting lastAddress =>
    if success then some { vm.post [.reconnected lastAddress] with
      wrapper := vm.wrapper.map (VehicleSimWrapper.connectedTcp · ("tcp:" ++ lastAddress))
      worker := .idle }
    else some { vm.post [.reconnectFailed] with worker := .idle }
  | .connecting targetDevice =>
    if success then some { vm.post [.hunted targetDevice] with
      wrapper := vm.wrapper.map
        (VehicleSimWrapper.connectedTcp · ("tcp:" ++ targetDevice.canEndpointDescription))
      worker := .idle }
    else some { vm.post [.authFailed targetDevice.host, .resumeHunt] with
      worker := .waiting targetDevice 0 }
  | _ => none

/-- How long a hunt waits for a new device, and how long it sleeps at once. -/
def discoveryTimeoutMs : ℕ := 5000
def checkIntervalMs : ℕ := 100

/-- The queue's thread goes on with the hunt: from its sleep, from an answer of the main thread, or
to its end. -/
def proceed (vm : WifiViewModel ν) : Option (WifiViewModel ν) :=
  match vm.worker with
  | .waiting targetDevice waitedMs =>
    if waitedMs < discoveryTimeoutMs then
      some { vm.post [.findCandidate] with
        worker := .finding targetDevice (waitedMs + checkIntervalMs) }
    else some { vm with worker := .givingUp }
  | .located targetDevice waitedMs foundNewCandidate =>
    some { vm.post [.checkAbort] with worker := .deciding targetDevice waitedMs foundNewCandidate }
  | .continuing targetDevice =>
    some { vm.post [.pauseDiscovery] with worker := .next targetDevice }
  | .givingUp => some { vm.post [.huntFailed] with worker := .idle }
  | _ => none

/-- A BLE connection starts on a queue of its own. -/
def bleConnectStart (vm : WifiViewModel ν) (device : DeviceEntry) : Option (WifiViewModel ν) :=
  if device ∈ vm.bleAttempts then
    some { vm with wrapper := vm.wrapper.map VehicleSimWrapper.stop }
  else none

def bleConnectEnd (vm : WifiViewModel ν) (device : DeviceEntry) (success : Bool) :
    Option (WifiViewModel ν) :=
  if device ∈ vm.bleAttempts then
    let vm := { vm with bleAttempts := vm.bleAttempts.erase device }
    if success then some { vm.post [.bleConnected] with
      wrapper := vm.wrapper.map (VehicleSimWrapper.connectedBle · device) }
    else some (vm.post [.bleFailed])
  else none

end Queue

end WifiViewModel

/-- What happens next: an event of the main thread, a step of the connection queue, of a BLE
connection or of the pipeline thread. -/
inductive Event (ν : Type) where
  | setConnectionMode (mode : ConnectionMode)
  | poll
  | reconnectTick
  | discovered (esp32 : DiscoveredESP32)
  | discoveryError
  | discoveryRetry
  | resumeDiscovery
  | pauseDiscovery
  | connectToESP32 (esp32 : DiscoveredESP32)
  | connectToDevice (device : DeviceEntry)
  | startBLE
  | stop
  | disconnect
  | runBlock
  | connectStart
  | connectEnd (success : Bool)
  | proceed
  | bleConnectStart (device : DeviceEntry)
  | bleConnectEnd (device : DeviceEntry) (success : Bool)
  | frame (signal : Telemetry ν)
  | pipelineEnd

namespace WifiViewModel

variable {ν : Type}

/-- There is no next state if the app traps, or if the event is not one that can happen. -/
def step (vm : WifiViewModel ν) (env : Surroundings) : Event ν → Option (WifiViewModel ν)
  | .setConnectionMode mode => some (vm.setConnectionMode mode env)
  | .poll => vm.poll env
  | .reconnectTick => vm.onReconnectCheckTimer env
  | .discovered esp32 => some (vm.onDiscovered esp32)
  | .discoveryError => some vm.scheduleDiscoveryRetry
  | .discoveryRetry => some vm.onDiscoveryRetryTimer
  | .resumeDiscovery => some (vm.resumeDiscoveryIfNeeded env)
  | .pauseDiscovery => some vm.pauseDiscoveryIfNeeded
  | .connectToESP32 esp32 => some (vm.connectToESP32 esp32)
  | .connectToDevice device => some (vm.connectToDevice device)
  | .startBLE => some vm.startBLE
  | .stop => some vm.stop
  | .disconnect => some (vm.disconnect env)
  | .runBlock => vm.runBlock env
  | .connectStart => vm.connectStart
  | .connectEnd success => vm.connectEnd success
  | .proceed => vm.proceed
  | .bleConnectStart device => vm.bleConnectStart device
  | .bleConnectEnd device success => vm.bleConnectEnd device success
  | .frame signal => some { vm with wrapper := vm.wrapper.map (·.onSample signal) }
  | .pipelineEnd => some { vm with wrapper := vm.wrapper.map VehicleSimWrapper.onPipelineEnd }

section Refinement

variable {vm : WifiViewModel ν} {env : Surroundings}

theorem startReconnectLoop_refines (hclock : env.scheduleMs.toNat + 1000 < 2 ^ 64) :
    (vm.startReconnectLoop env).map (·.toVehicleViewModel) =
      some vm.toVehicleViewModel.startReconnectLoop := by
  have hbackoff : backoff 0 * 1000 = 1000 := rfl
  simp only [startReconnectLoop, stopReconnectLoop, scheduleReconnect,
    VehicleViewModel.startReconnectLoop, VehicleViewModel.stopReconnectLoop,
    VehicleViewModel.scheduleReconnect, hbackoff, if_pos hclock]
  split
  · next h =>
    exact congrArg some (if_pos h).symm
  · next h =>
    exact congrArg some (if_neg h).symm

theorem checkConnectionLiveness_refines (hclock : env.scheduleMs.toNat + 1000 < 2 ^ 64) :
    (vm.checkConnectionLiveness env).map (·.toVehicleViewModel) =
      vm.toVehicleViewModel.checkConnectionLiveness env.nowMs := by
  unfold checkConnectionLiveness VehicleViewModel.checkConnectionLiveness
  cases hw : vm.wrapper with
  | none => rfl
  | some wrapper =>
    dsimp only
    by_cases hwatched : vm.connectionMode = .wifi ∧ vm.connectionState = .connected
    · simp only [if_pos hwatched]
      cases vm.livenessProbe.isConnectionStale env.nowMs with
      | none => rfl
      | some isHeartbeatStale =>
        dsimp only
        by_cases hlost : (!wrapper.isConnectionAlive || isHeartbeatStale) = true
        · rw [if_pos hlost, if_pos hlost]
          exact startReconnectLoop_refines hclock
        · rw [if_neg hlost, if_neg hlost]
          rfl
    · simp only [if_neg hwatched]
      rfl

/-- The polling loop of the view model, with the time of the retry that it schedules. -/
theorem poll_refines (hclock : env.scheduleMs.toNat + 1000 < 2 ^ 64) :
    (vm.poll env).map (·.toVehicleViewModel) =
      vm.toVehicleViewModel.poll env.now env.heartbeatMs env.nowMs := by
  unfold poll VehicleViewModel.poll
  split
  · exact checkConnectionLiveness_refines hclock
  · rfl

end Refinement

end WifiViewModel

/-- What the app starts from: the saved mode and device, a wrapper and its probe. -/
structure Launch (ν : Type) where
  connectionMode : ConnectionMode
  lastConnectedDeviceId : Option Bytes
  wifiSecurityPolicy : WiFiSecurityPolicy
  wrapper : VehicleSimWrapper ν
  livenessProbe : HeartbeatLiveness

namespace Launch

variable {ν : Type} (launch : Launch ν)

def viewModel : WifiViewModel ν where
  connectionMode := launch.connectionMode
  connectionState := .disconnected
  connectionStatus := "Disconnected [CLIENT]"
  connectedDeviceName := none
  connectedDeviceAddress := none
  telemetry := {}
  updateTimer := false
  reconnectCheckTimer := false
  reconnectAttempt := 0
  livenessProbe := launch.livenessProbe
  wrapper := some launch.wrapper
  discoveredESP32s := []
  isESP32DiscoveryActive := false
  autoConnectedESP32 := none
  lastConnectedDeviceId := launch.lastConnectedDeviceId
  wifiSecurityPolicy := launch.wifiSecurityPolicy
  discoveryListener := false
  discoveryRetryTimer := false
  nextReconnectFireTimeMs := none
  lastConnectedAddress := none
  authFailedIPs := ∅
  bleAttempts := []
  blocks := []
  operations := []
  worker := .idle

/-- The app after the events, unless it has trapped. -/
def reached (events : List (Surroundings × Event ν)) : Option (WifiViewModel ν) :=
  events.foldl (fun vm e => vm.bind (·.step e.1 e.2)) (some launch.viewModel)

@[simp] theorem reached_concat (events : List (Surroundings × Event ν))
    (e : Surroundings × Event ν) :
    launch.reached (events ++ [e]) = (launch.reached events).bind (·.step e.1 e.2) := by
  simp [reached, List.foldl_append]

end Launch

end VehicleSpy.Ios
