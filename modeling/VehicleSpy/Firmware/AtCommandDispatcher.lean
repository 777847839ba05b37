import VehicleSpy.Text.Printf

/-! # The AT command dispatcher

Commands are normalised, matched against the handlers in registration order, and
executed by the first that matches. The runtime boundaries are an environment of
answers and a list of the calls made on them.
-/

namespace VehicleSpy.Firmware

open Text

structure AtCommandResult where
  response : Bytes
  shouldReboot : Bool := false
  shouldFlushClient : Bool := false
  deriving DecidableEq, Repr

/-- The calls that the dispatcher makes on its injected interfaces. -/
inductive AtCall where
  | tcpPrint (s : Bytes)
  | tcpFlush
  | serialPrintln (s : Bytes)
  | serialFlush
  | restart
  | storeWifi (ssid password : Bytes)
  | loadWifi
  | storeToken (token : Bytes)
  | clearWifi
  | setMonitorActive (active : Bool)
  deriving DecidableEq, Repr

structure SetWifiParams where
  ssid : Bytes := []
  password : Bytes := []
  valid : Bool := false
  deriving DecidableEq, Repr

namespace AtCommandDispatcher

def normalizeAtCommand (cmd : Bytes) : Bytes := (trim cmd).map toupper

/-- Split at the first comma; nothing may stand empty in front of it. -/
def parseSetWifiParams (params : Bytes) : SetWifiParams :=
  match find COMMA params with
  | none => {}
  | some commaIndex =>
    if commaIndex = 0 then {}
    else ⟨params.take commaIndex, params.drop (commaIndex + 1), true⟩

def isValidAuthToken (received expectedToken : Bytes) : Bool :=
  received = ascii "AUTH " ++ expectedToken

/-- The loop that prints the device id: it stops when another byte and the CR might not fit. -/
def printDeviceId : Bytes → Bytes → ℕ → Option (Bytes × ℕ)
  | [], buf, len => some (buf, len)
  | b :: deviceId, buf, len =>
    if len < 128 - 3 then do
      let buf ← snprintf buf len (128 - len) (hexPad 2 b.toNat)
      printDeviceId deviceId buf (len + 2)
    else some (buf, len)

/-- The HELO acknowledgement; no result when a store falls outside the buffer. -/
def buildHeloResponse (deviceId deviceName firmwareVersion : Bytes) : Option Bytes := do
  let head := ascii "ACK DEVICE=" ++ deviceName ++ ascii " FIRMWARE=" ++ firmwareVersion ++
    ascii " DEVICEID="
  -- of a longer text `snprintf` reports a negative length, and the next store is out of bounds
  guard (head.length < 2 ^ 31)
  let buf ← snprintf (List.replicate 128 0) 0 128 head
  let (buf, len) ← printDeviceId deviceId buf head.length
  -- past 128 the remaining size wraps around and the store is out of bounds
  let buf ← snprintf buf len (if len ≤ 128 then 128 - len else 2 ^ 32 + 128 - len) [CR]
  return cString buf

end AtCommandDispatcher

open AtCommandDispatcher

/-- The answers of the injected interfaces, and what the dispatcher was built with. -/
structure AtEnv where
  storeWifi : Bytes → Bytes → Bool
  loadWifi : Option (Bytes × Bytes)
  storeToken : Bytes → Bool
  clearWifi : Bool
  deviceId : Bytes
  deviceId_length : deviceId.length = 16
  firmwareBuildVersion : Bytes
  /-- The fixed banner leaves room for the whole device id. -/
  helo_fits : (buildHeloResponse deviceId (ascii "ESP32-CAN-Bridge") firmwareBuildVersion).isSome

/-- A registered command handler: its test on the normalised command and its action. -/
structure AtCommandHandler where
  matchesCmd : Bytes → Bool
  execute : AtEnv → Bytes → AtCommandResult × List AtCall

section Handlers

def AtzCommandHandler : AtCommandHandler where
  matchesCmd cmd := cmd = ascii "ATZ"
  execute _ _ := (⟨ascii "ELM327 v2.3", false, false⟩, [.setMonitorActive false])

def AteCommandHandler : AtCommandHandler where
  matchesCmd cmd := cmd = ascii "ATE0" ∨ cmd = ascii "ATE1"
  execute _ _ := (⟨ascii "OK", false, false⟩, [])

def AtspCommandHandler : AtCommandHandler where
  matchesCmd cmd := startsWith (ascii "ATSP") cmd
  execute _ _ := (⟨ascii "OK", false, false⟩, [])

def AthCommandHandler : AtCommandHandler where
  matchesCmd cmd := cmd = ascii "ATH0" ∨ cmd = ascii "ATH1"
  execute _ _ := (⟨ascii "OK", false, false⟩, [])

def AtcsmCommandHandler : AtCommandHandler where
  matchesCmd cmd := cmd = ascii "ATCSM0" ∨ cmd = ascii "ATCSM1"
  execute _ _ := (⟨ascii "OK", false, false⟩, [])

def AtmaCommandHandler : AtCommandHandler where
  matchesCmd cmd := cmd = ascii "ATMA"
  execute _ _ := (⟨ascii "OK", false, false⟩, [.setMonitorActive true])

def AtpcCommandHandler : AtCommandHandler where
  matchesCmd cmd := cmd = ascii "ATPC"
  execute _ _ := (⟨ascii "OK", false, false⟩, [.setMonitorActive false])

def AtheloCommandHandler : AtCommandHandler where
  matchesCmd cmd := cmd = ascii "ATHELO" ∨ cmd = ascii "HELLO"
  execute env _ := (⟨Option.get _ env.helo_fits, false, false⟩, [])

def AtsetwifiCommandHandler : AtCommandHandler where
  matchesCmd cmd := startsWith (ascii "ATSETWIFI") cmd
  execute env originalCmd :=
    let params := originalCmd.drop 9
    -- a text of blanks only is left as it is
    let params := if params.all isBlank then params else trim params
    let wifiParams := parseSetWifiParams params
    if !wifiParams.valid then
      (⟨ascii "ERROR Invalid format. Use: ATSETWIFI<ssid>,<pass>", false, false⟩, [])
    else if wifiParams.ssid.isEmpty || 32 < wifiParams.ssid.length then
      (⟨ascii "ERROR Invalid SSID length (1-32 chars)", false, false⟩, [])
    else if wifiParams.password.isEmpty || 64 < wifiParams.password.length then
      (⟨ascii "ERROR Invalid password length (1-64 chars)", false, false⟩, [])
    else if env.storeWifi wifiParams.ssid wifiParams.password then
      (⟨ascii "OK WiFi credentials stored. Rebooting to connect...", true, true⟩,
        [.storeWifi wifiParams.ssid wifiParams.password])
    else
      (⟨ascii "ERROR Failed to store credentials", false, false⟩,
        [.storeWifi wifiParams.ssid wifiParams.password])

def AtdumpwifiCommandHandler : AtCommandHandler where
  matchesCmd cmd := cmd = ascii "ATDUMPWIFI"
  execute env _ :=
    match env.loadWifi with
    | some (ssid, pass) =>
      (⟨ascii "OK stored ssid=" ++ ssid ++ ascii " pass_len=" ++ ascii (toString pass.length),
        false, false⟩, [.loadWifi])
    | none => (⟨ascii "OK no stored credentials", false, false⟩, [.loadWifi])

def AtsettokenCommandHandler : AtCommandHandler where
  matchesCmd cmd := startsWith (ascii "ATSETTOKEN") cmd
  execute env originalCmd :=
    let params := trim (originalCmd.drop 10)
    if params.isEmpty then (⟨ascii "ERROR Token cannot be empty", false, false⟩, [])
    else if 64 < params.length then
      (⟨ascii "ERROR Token too long (max 64 chars)", false, false⟩, [])
    else if env.storeToken params then
      (⟨ascii "OK Token stored. Rebooting...", true, true⟩, [.storeToken params])
    else (⟨ascii "ERROR Failed to store token", false, false⟩, [.storeToken params])

def AtclearwifiCommandHandler : AtCommandHandler where
  matchesCmd cmd := cmd = ascii "ATCLEARWIFI"
  execute env _ :=
    if env.clearWifi then
      (⟨ascii "OK WiFi credentials cleared. Rebooting...", true, true⟩, [.clearWifi])
    else (⟨ascii "ERROR Failed to clear credentials", false, false⟩, [.clearWifi])

def AtiCommandHandler : AtCommandHandler where
  matchesCmd cmd := cmd = ascii "ATI"
  execute env _ := (⟨ascii "ESP32 CAN Bridge v" ++ env.firmwareBuildVersion, false, false⟩, [])

def AtrebootCommandHandler : AtCommandHandler where
  matchesCmd cmd := cmd = ascii "ATREBOOT"
  execute _ _ := (⟨ascii "REBOOT", true, false⟩, [])

end Handlers

namespace AtCommandDispatcher

def registerFirmwareHandlers : List AtCommandHandler :=
  [AtzCommandHandler, AteCommandHandler, AtspCommandHandler, AthCommandHandler,
    AtcsmCommandHandler, AtmaCommandHandler, AtpcCommandHandler, AtheloCommandHandler,
    AtsetwifiCommandHandler, AtdumpwifiCommandHandler, AtsettokenCommandHandler,
    AtclearwifiCommandHandler, AtiCommandHandler, AtrebootCommandHandler]

def sendTcpPrompt (response : Bytes) : List AtCall :=
  [.tcpPrint (response ++ [CR, CR, PROMPT]), .tcpFlush]

def sendSerialPrompt (response : Bytes) : List AtCall := [.serialPrintln response]

/-- The calls made for one command line, in order. -/
def handleCommand (env : AtEnv) (sendPrompt : Bytes → List AtCall) (cmd : Bytes) : List AtCall :=
  match registerFirmwareHandlers.find? (·.matchesCmd (normalizeAtCommand cmd)) with
  | none => sendPrompt (ascii "?")
  | some handler =>
    let (result, calls) := handler.execute env cmd
    calls ++ sendPrompt result.response ++
      (if result.shouldFlushClient then [.tcpFlush, .serialPrintln (ascii "REBOOT"), .serialFlush]
        else []) ++
      (if result.shouldReboot then [.restart] else [])

def handleTcpCommand (env : AtEnv) (cmd : Bytes) : List AtCall :=
  handleCommand env sendTcpPrompt cmd

def handleSerialCommand (env : AtEnv) (cmd : Bytes) : List AtCall :=
  handleCommand env sendSerialPrompt cmd

end AtCommandDispatcher

end VehicleSpy.Firmware
