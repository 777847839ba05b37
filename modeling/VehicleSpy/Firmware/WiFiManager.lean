import VehicleSpy.Text.Bytes

/-! # The WiFi state machine

The firmware's WiFi manager: the state handlers, the resilient-auth campaign and the
disconnect callback, as functions on the shared context. Times are the unsigned
32-bit milliseconds of the device; calls on the radio and the callbacks are listed
in the order they are made.
-/

namespace VehicleSpy.Firmware

open Text

inductive WiFiState
  | WIFI_DISCONNECTED
  | WIFI_CONNECTING
  | WIFI_CONNECTED
  | WIFI_AP_MODE_DEFAULT
  | WIFI_AP_MODE_AUTH_FAIL
  | WIFI_AP_MODE_NO_AP
  deriving DecidableEq, Repr

def isApModeState : WiFiState → Bool
  | .WIFI_AP_MODE_DEFAULT | .WIFI_AP_MODE_AUTH_FAIL | .WIFI_AP_MODE_NO_AP => true
  | _ => false

structure WiFiContext where
  state : WiFiState := .WIFI_DISCONNECTED
  lastRetryMs : UInt32 := 0
  connectStartTime : UInt32 := 0
  lastDisconnectReason : ℤ := 0
  tcpServerNeedsRestart : Bool := false
  escalatedToApReason : ℤ := 0
  lastConnectedIp : Bytes := []
  reconnectPending : Bool := false
  disconnectStartMs : UInt32 := 0
  reconnectAttempts : UInt32 := 0
  pendingAuthFail : Bool := false
  authFailStrategyIndex : ℤ := 0
  authFailStrategyLoop : ℤ := 0
  apModeStaRetryMs : UInt32 := 0
  deriving DecidableEq, Repr

inductive CredentialSource | NONE | STORED_NVS | BAKED_IN
  deriving DecidableEq, Repr

structure StateTransition where
  nextState : WiFiState
  setTcpServerRestartFlag : Bool := false
  initNtp : Bool := false
  deriving DecidableEq, Repr

namespace WiFiConfig

def WIFI_CONNECT_RETRY_INTERVAL_MS : UInt32 := 5000
def WIFI_CONNECT_FIRST_RETRIES_MS : UInt32 := 0
def WIFI_CONNECT_FIRST_RETRIES_COUNT : UInt32 := 5
def WIFI_CONNECT_TIMEOUT_MS : UInt32 := 30000
def WIFI_INITIAL_CONNECT_MAX_RETRIES : UInt32 := 60
def WIFI_AP_MODE_STA_RETRY_INTERVAL_MS : UInt32 := 300000
def WIFI_AUTH_STRATEGY_COUNT : ℤ := 3
def WIFI_AUTH_STRATEGY_LOOP_COUNT : ℤ := 3
def LONG_OUTAGE_MS : UInt32 := 30000
def AP_SSID : Bytes := ascii "ESP32-CAN"
def AP_PASS : Bytes := ascii "cancan12"
def HOSTNAME : Bytes := ascii "esp32-can"

end WiFiConfig

open WiFiConfig

/-- What the manager prints on the serial console, with the values it prints. -/
inductive WiFiTrace
  | transition (src dst : WiFiState)
  | strategy (state : WiFiState) (reason index loop : ℤ)
  | exhausted (state : WiFiState) (reason : ℤ)
  | authFail (src : WiFiState) (reason index loop : ℤ)
  | reconnecting (src : WiFiState) (reason : ℤ)
  deriving DecidableEq, Repr

/-- Calls on the radio, the callbacks and the serial console. -/
inductive WiFiCall
  | setMode (mode : ℕ)
  | begin (ssid pass : Bytes)
  | disconnect (wifiOff eraseAP : Bool)
  | softAP (ssid pass : Bytes)
  | setHostname (name : Bytes)
  | tcpServerRestart
  | ntpInit
  | discoveryReset
  | printf (trace : WiFiTrace)
  deriving DecidableEq, Repr

/-- What the radio reports while one tick runs. -/
structure Radio where
  status : ℤ
  localIP : Bytes
  deriving DecidableEq, Repr

inductive NvsKey | credCount | ssid | pass
  deriving DecidableEq, Repr

/-- The `wifi` namespace of the non-volatile storage. -/
abbrev Nvs := NvsKey → Option Bytes

def Nvs.getBytesLength (prefs : Nvs) (key : NvsKey) : ℕ := ((prefs key).getD []).length

def Nvs.getString (prefs : Nvs) (key : NvsKey) : Bytes := (prefs key).getD []

/-- What the manager was constructed with, and the stored credentials. -/
structure WiFiSetup where
  prefs : Nvs
  bakedSsid : Option Bytes := none
  bakedPass : Option Bytes := none

section Pure

/-- The auth-mechanism reasons: 4-way handshake timeout, 802.1X failure, auth failure. -/
def isAuthMechanismFailure (reason : ℤ) : Bool := reason = 15 ∨ reason = 23 ∨ reason = 202

def isApScanMiss (reason : ℤ) : Bool := reason = 201

def isAuthCampaignExhausted (_strategyIndex loopIndex : ℤ) : Bool :=
  WIFI_AUTH_STRATEGY_LOOP_COUNT ≤ loopIndex

/-- The baked credentials, when both are present and neither is an empty C string. -/
def WiFiSetup.baked (w : WiFiSetup) : Option (Bytes × Bytes) :=
  match w.bakedSsid, w.bakedPass with
  | some ssid, some pass => if ssid.isEmpty || pass.isEmpty then none else some (ssid, pass)
  | _, _ => none

def determineCredentialSource (w : WiFiSetup) : CredentialSource :=
  if 0 < w.prefs.getBytesLength .credCount then .STORED_NVS
  else if w.baked.isSome then .BAKED_IN
  else .NONE

def loadCredentialsImpl (prefs : Nvs) : Option (Bytes × Bytes) :=
  if 0 < prefs.getBytesLength .ssid ∧ 0 < prefs.getBytesLength .pass then
    some (prefs.getString .ssid, prefs.getString .pass)
  else none

def shouldFallbackToApMode (source : CredentialSource) (connectDurationMs : UInt32) : Bool :=
  source = .STORED_NVS ∧ connectDurationMs > WIFI_CONNECT_TIMEOUT_MS

def isInitialConnectTimeout (connectDurationMs : UInt32) : Bool :=
  connectDurationMs > WIFI_INITIAL_CONNECT_MAX_RETRIES * WIFI_CONNECT_RETRY_INTERVAL_MS

def shouldRetryWiFi (state : WiFiState) (now lastRetry reconnectAttempts : UInt32) : Bool :=
  if state ≠ .WIFI_DISCONNECTED ∧ state ≠ .WIFI_CONNECTING then false
  else
    let intervalMs :=
      if reconnectAttempts < WIFI_CONNECT_FIRST_RETRIES_COUNT then WIFI_CONNECT_FIRST_RETRIES_MS
      else WIFI_CONNECT_RETRY_INTERVAL_MS
    intervalMs ≤ now - lastRetry

def shouldRestartTcpServerForReconnect (newIp lastConnectedIp : Bytes) (outageMs : UInt32) : Bool :=
  lastConnectedIp.isEmpty || newIp ≠ lastConnectedIp || outageMs > LONG_OUTAGE_MS

end Pure

/-- The credentials that the retry paths use: the stored pair, else the baked pointers. -/
def beginWithKnownCredentials (w : WiFiSetup) : List WiFiCall :=
  let stored :=
    if determineCredentialSource w = .STORED_NVS then loadCredentialsImpl w.prefs else none
  match stored with
  | some (ssid, pass) => [.begin ssid pass]
  | none =>
    match w.bakedSsid, w.bakedPass with
    | some ssid, some pass => [.begin ssid pass]
    | _, _ => []

/-- Switch the radio to access-point mode. -/
def startSoftAP : List WiFiCall := [.setMode 2, .softAP AP_SSID AP_PASS]

/-- A handler's effect: the context, the transition it asks for, and the calls it makes. -/
structure HandlerResult where
  ctx : WiFiContext
  transition : StateTransition
  calls : List WiFiCall := []

def DisconnectedStateHandler (w : WiFiSetup) (now : UInt32) (ctx : WiFiContext) : HandlerResult :=
  let stay : HandlerResult := ⟨ctx, ⟨ctx.state, false, false⟩, []⟩
  let connect (ssid pass : Bytes) : HandlerResult :=
    ⟨{ ctx with connectStartTime := now, lastRetryMs := now }, ⟨.WIFI_CONNECTING, false, false⟩,
      [.setMode 1, .setHostname HOSTNAME, .begin ssid pass]⟩
  match determineCredentialSource w with
  | .STORED_NVS =>
    match loadCredentialsImpl w.prefs with
    | some (ssid, pass) => connect ssid pass
    | none => stay
  | .BAKED_IN =>
    match w.bakedSsid, w.bakedPass with
    | some ssid, some pass => connect ssid pass
    | _, _ => stay
  | .NONE => ⟨ctx, ⟨.WIFI_AP_MODE_DEFAULT, false, false⟩, startSoftAP⟩

/-- The reset of the campaign and the reconnect bookkeeping on a genuine connect. -/
def connectedReset (ctx : WiFiContext) : WiFiContext :=
  { ctx with
    pendingAuthFail := false, authFailStrategyIndex := 0, authFailStrategyLoop := 0,
    reconnectPending := false, reconnectAttempts := 0 }

namespace ConnectingStateHandler

def handleConnected (now : UInt32) (radio : Radio) (ctx : WiFiContext) : HandlerResult :=
  let outageMs := if 0 < ctx.disconnectStartMs then now - ctx.disconnectStartMs else 0
  let restartTcp := shouldRestartTcpServerForReconnect radio.localIP ctx.lastConnectedIp outageMs
  ⟨connectedReset ctx, ⟨.WIFI_CONNECTED, restartTcp, true⟩, [.discoveryReset]⟩

def handleConnectFailed (w : WiFiSetup) (now : UInt32) (ctx : WiFiContext)
    (connectDuration : UInt32) : HandlerResult :=
  let source := determineCredentialSource w
  if shouldFallbackToApMode source connectDuration then
    let fallback : WiFiState :=
      if isApScanMiss ctx.lastDisconnectReason then .WIFI_AP_MODE_NO_AP else .WIFI_AP_MODE_AUTH_FAIL
    ⟨{ ctx with escalatedToApReason := ctx.lastDisconnectReason }, ⟨fallback, false, false⟩,
      startSoftAP⟩
  else if shouldRetryWiFi .WIFI_CONNECTING now ctx.lastRetryMs ctx.reconnectAttempts then
    ⟨{ ctx with lastRetryMs := now, reconnectAttempts := ctx.reconnectAttempts + 1 },
      ⟨ctx.state, false, false⟩, .disconnect false true :: beginWithKnownCredentials w⟩
  else ⟨ctx, ⟨ctx.state, false, false⟩, []⟩

def handleIdleStatus (w : WiFiSetup) (now : UInt32) (ctx : WiFiContext) : HandlerResult :=
  if shouldRetryWiFi .WIFI_CONNECTING now ctx.lastRetryMs ctx.reconnectAttempts then
    ⟨{ ctx with lastRetryMs := now, reconnectAttempts := ctx.reconnectAttempts + 1 },
      ⟨ctx.state, false, false⟩, beginWithKnownCredentials w⟩
  else ⟨ctx, ⟨ctx.state, false, false⟩, []⟩

def handleInitialConnectTimeout (w : WiFiSetup) (ctx : WiFiContext) : HandlerResult :=
  let source := determineCredentialSource w
  if source = .STORED_NVS ∧ isAuthMechanismFailure ctx.lastDisconnectReason then
    ⟨{ ctx with escalatedToApReason := ctx.lastDisconnectReason },
      ⟨.WIFI_AP_MODE_AUTH_FAIL, false, false⟩, startSoftAP⟩
  else if source = .NONE then ⟨ctx, ⟨.WIFI_AP_MODE_DEFAULT, false, false⟩, startSoftAP⟩
  else ⟨ctx, ⟨.WIFI_CONNECTING, false, false⟩, []⟩

/-- The first tick after a drop re-anchors the connect budget. -/
def anchor (now : UInt32) (ctx : WiFiContext) : WiFiContext :=
  if ctx.reconnectPending then { ctx with connectStartTime := now, reconnectPending := false }
  else ctx

def execute (w : WiFiSetup) (now : UInt32) (radio : Radio) (ctx : WiFiContext) : HandlerResult :=
  let ctx := anchor now ctx
  let connectDuration := now - ctx.connectStartTime
  if radio.status = 3 then handleConnected now radio ctx
  else if radio.status = 4 ∨ radio.status = 1 then handleConnectFailed w now ctx connectDuration
  else if radio.status = 0 ∧ !isInitialConnectTimeout connectDuration then
    handleIdleStatus w now ctx
  else if isInitialConnectTimeout connectDuration then handleInitialConnectTimeout w ctx
  else ⟨ctx, ⟨ctx.state, false, false⟩, []⟩

end ConnectingStateHandler

def ConnectedStaStateHandler (now : UInt32) (radio : Radio) (ctx : WiFiContext) : HandlerResult :=
  if radio.status ≠ 3 ∨ radio.localIP = ascii "0.0.0.0" then
    ⟨{ ctx with reconnectPending := true, disconnectStartMs := now },
      ⟨.WIFI_CONNECTING, false, false⟩, []⟩
  else ⟨ctx, ⟨ctx.state, false, false⟩, []⟩

/-- The first call arms the timer; a call one interval later starts a station attempt. -/
def attemptApModeStaRecovery (w : WiFiSetup) (now : UInt32) (ctx : WiFiContext) : HandlerResult :=
  if ctx.apModeStaRetryMs = 0 then
    ⟨{ ctx with apModeStaRetryMs := now }, ⟨ctx.state, false, false⟩, []⟩
  else if now - ctx.apModeStaRetryMs < WIFI_AP_MODE_STA_RETRY_INTERVAL_MS then
    ⟨ctx, ⟨ctx.state, false, false⟩, []⟩
  else
    ⟨{ ctx with apModeStaRetryMs := now, connectStartTime := now, lastRetryMs := now },
      ⟨.WIFI_CONNECTING, false, false⟩, .setMode 1 :: beginWithKnownCredentials w⟩

def ConnectedApStateHandler (w : WiFiSetup) (now : UInt32) (ctx : WiFiContext) : HandlerResult :=
  if ctx.state = .WIFI_AP_MODE_DEFAULT then ⟨ctx, ⟨ctx.state, false, false⟩, []⟩
  else attemptApModeStaRecovery w now ctx

/-- The reset/retry strategies, in order of disruptiveness. -/
inductive AuthStrategy | BestReassociate | ResetStaMode | FullRadioCycle
  deriving DecidableEq, Repr

/-- The strategy at a rotation index, clamped to the list. -/
def authStrategyAt (index : ℤ) : AuthStrategy :=
  let i := if index < 0 then 0
    else if WIFI_AUTH_STRATEGY_COUNT ≤ index then WIFI_AUTH_STRATEGY_COUNT - 1 else index
  if i = 0 then .BestReassociate else if i = 1 then .ResetStaMode else .FullRadioCycle

/-- The credentials that a campaign uses: stored if an SSID is stored, else usable baked ones. -/
def campaignCredentials (w : WiFiSetup) : Option (Bytes × Bytes) :=
  let (storedSsid, storedPass) := (loadCredentialsImpl w.prefs).getD ([], [])
  if determineCredentialSource w = .STORED_NVS ∧ storedSsid ≠ [] then some (storedSsid, storedPass)
  else w.baked

def applyAuthStrategy (w : WiFiSetup) (index : ℤ) : List WiFiCall :=
  let reassociate := match campaignCredentials w with
    | some (ssid, pass) => [WiFiCall.begin ssid pass]
    | none => []
  match authStrategyAt index with
  | .BestReassociate => reassociate
  | .ResetStaMode => [.disconnect false true, .setMode 1] ++ reassociate
  | .FullRadioCycle => [.setMode 0, .setMode 1] ++ reassociate

namespace AuthCampaign

def checkCampaignSuccess (now : UInt32) (radio : Radio) (ctx : WiFiContext) :
    Option HandlerResult :=
  if radio.status ≠ 3 then none
  else
    let outageMs := if 0 < ctx.disconnectStartMs then now - ctx.disconnectStartMs else 0
    let restartTcp := shouldRestartTcpServerForReconnect radio.localIP ctx.lastConnectedIp outageMs
    some ⟨connectedReset ctx, ⟨.WIFI_CONNECTED, restartTcp, true⟩, [.discoveryReset]⟩

def applyCurrentStrategy (w : WiFiSetup) (ctx : WiFiContext) : List WiFiCall :=
  applyAuthStrategy w ctx.authFailStrategyIndex ++
    [.printf (.strategy ctx.state ctx.lastDisconnectReason ctx.authFailStrategyIndex
      ctx.authFailStrategyLoop)]

def advanceRotation (now : UInt32) (ctx : WiFiContext) : WiFiContext :=
  let index := ctx.authFailStrategyIndex + 1
  let wrapped := decide (WIFI_AUTH_STRATEGY_COUNT ≤ index)
  { ctx with
    authFailStrategyIndex := if wrapped then 0 else index
    authFailStrategyLoop :=
      if wrapped then ctx.authFailStrategyLoop + 1 else ctx.authFailStrategyLoop
    lastRetryMs := now
    reconnectAttempts := ctx.reconnectAttempts + 1 }

def checkExhaustion (ctx : WiFiContext) : Option HandlerResult :=
  if isAuthCampaignExhausted ctx.authFailStrategyIndex ctx.authFailStrategyLoop then
    some ⟨{ ctx with pendingAuthFail := false, escalatedToApReason := ctx.lastDisconnectReason },
      ⟨.WIFI_AP_MODE_AUTH_FAIL, false, false⟩,
      startSoftAP ++ [.printf (.exhausted ctx.state ctx.lastDisconnectReason)]⟩
  else none

def tick (w : WiFiSetup) (now : UInt32) (radio : Radio) (ctx : WiFiContext) : HandlerResult :=
  match checkCampaignSuccess now radio ctx with
  | some success => success
  | none =>
    if !shouldRetryWiFi .WIFI_CONNECTING now ctx.lastRetryMs ctx.reconnectAttempts then
      ⟨ctx, ⟨ctx.state, false, false⟩, []⟩
    else
      let applied := applyCurrentStrategy w ctx
      let ctx := advanceRotation now ctx
      match checkExhaustion ctx with
      | some exhausted => { exhausted with calls := applied ++ exhausted.calls }
      | none => ⟨ctx, ⟨ctx.state, false, false⟩, applied⟩

end AuthCampaign

/-- The manager: its setup and the context of the state machine. -/
structure WiFiManager where
  setup : WiFiSetup
  ctx : WiFiContext

namespace WiFiManager

/-- The context after a handler's transition, and the calls of the transition itself. -/
def applyStateTransition (radio : Radio) (ctx : WiFiContext) (t : StateTransition) :
    WiFiContext × List WiFiCall :=
  if t.nextState = ctx.state then (ctx, [])
  else
    let lastConnectedIp :=
      if t.nextState = .WIFI_CONNECTED then radio.localIP else ctx.lastConnectedIp
    let apModeStaRetryMs :=
      if isApModeState t.nextState && !isApModeState ctx.state then 0 else ctx.apModeStaRetryMs
    ({ ctx with
        state := t.nextState
        lastConnectedIp := lastConnectedIp
        apModeStaRetryMs := apModeStaRetryMs
        tcpServerNeedsRestart := t.setTcpServerRestartFlag || ctx.tcpServerNeedsRestart },
      .printf (.transition ctx.state t.nextState) ::
        ((if t.setTcpServerRestartFlag then [.tcpServerRestart] else []) ++
          (if t.initNtp then [.ntpInit] else [])))

section Transition

variable {radio : Radio} {ctx : WiFiContext} {t : StateTransition}

@[simp] theorem transition_state : (applyStateTransition radio ctx t).1.state = t.nextState := by
  unfold applyStateTransition
  split
  · next h => exact h.symm
  · rfl

@[simp] theorem transition_pendingAuthFail :
    (applyStateTransition radio ctx t).1.pendingAuthFail = ctx.pendingAuthFail := by
  unfold applyStateTransition
  split <;> rfl

@[simp] theorem transition_lastRetryMs :
    (applyStateTransition radio ctx t).1.lastRetryMs = ctx.lastRetryMs := by
  unfold applyStateTransition
  split <;> rfl

@[simp] theorem transition_lastDisconnectReason :
    (applyStateTransition radio ctx t).1.lastDisconnectReason = ctx.lastDisconnectReason := by
  unfold applyStateTransition
  split <;> rfl

@[simp] theorem transition_connectStartTime :
    (applyStateTransition radio ctx t).1.connectStartTime = ctx.connectStartTime := by
  unfold applyStateTransition
  split <;> rfl

@[simp] theorem transition_reconnectPending :
    (applyStateTransition radio ctx t).1.reconnectPending = ctx.reconnectPending := by
  unfold applyStateTransition
  split <;> rfl

@[simp] theorem transition_disconnectStartMs :
    (applyStateTransition radio ctx t).1.disconnectStartMs = ctx.disconnectStartMs := by
  unfold applyStateTransition
  split <;> rfl

end Transition

def getStateHandler (w : WiFiSetup) (now : UInt32) (radio : Radio) (ctx : WiFiContext) :
    HandlerResult :=
  match ctx.state with
  | .WIFI_DISCONNECTED => DisconnectedStateHandler w now ctx
  | .WIFI_CONNECTING => ConnectingStateHandler.execute w now radio ctx
  | .WIFI_CONNECTED => ConnectedStaStateHandler now radio ctx
  | .WIFI_AP_MODE_DEFAULT | .WIFI_AP_MODE_AUTH_FAIL | .WIFI_AP_MODE_NO_AP =>
    ConnectedApStateHandler w now ctx

/-- One tick: an active campaign owns it, else the handler of the state does. -/
def update (m : WiFiManager) (now : UInt32) (radio : Radio) : WiFiManager × List WiFiCall :=
  let r :=
    if m.ctx.pendingAuthFail then AuthCampaign.tick m.setup now radio m.ctx
    else getStateHandler m.setup now radio m.ctx
  let (ctx, calls) := applyStateTransition radio r.ctx r.transition
  ({ m with ctx := ctx }, r.calls ++ calls)

def onDisconnected (m : WiFiManager) (reason : ℤ) : WiFiManager × List WiFiCall :=
  let src := m.ctx.state
  let ctx : WiFiContext := { m.ctx with lastDisconnectReason := reason }
  if isAuthMechanismFailure reason then
    let ctx : WiFiContext := { ctx with pendingAuthFail := true, tcpServerNeedsRestart := false }
    let ctx : WiFiContext :=
      if ctx.authFailStrategyLoop = 0 then { ctx with authFailStrategyIndex := 0 } else ctx
    let ctx : WiFiContext :=
      if ctx.state = .WIFI_CONNECTED then
        { ctx with state := .WIFI_CONNECTING, reconnectAttempts := 0, reconnectPending := true }
      else ctx
    let ctx : WiFiContext := { ctx with lastRetryMs := 0 }
    ({ m with ctx := ctx },
      [.printf (.authFail src reason ctx.authFailStrategyIndex ctx.authFailStrategyLoop)])
  else if ctx.state = .WIFI_CONNECTED then
    ({ m with ctx := { ctx with
        state := .WIFI_CONNECTING, tcpServerNeedsRestart := true, lastRetryMs := 0,
        reconnectAttempts := 0, reconnectPending := true } },
      [.printf (.reconnecting src reason)])
  else ({ m with ctx := ctx }, [])

end WiFiManager

/-- What drives the manager: the main loop's ticks and the radio's disconnect events. -/
inductive WiFiEvent
  | update (now : UInt32) (radio : Radio)
  | onDisconnected (reason : ℤ)
  deriving DecidableEq, Repr

namespace WiFiManager

def step (m : WiFiManager) : WiFiEvent → WiFiManager × List WiFiCall
  | .update now radio => m.update now radio
  | .onDisconnected reason => m.onDisconnected reason

end WiFiManager

end VehicleSpy.Firmware
