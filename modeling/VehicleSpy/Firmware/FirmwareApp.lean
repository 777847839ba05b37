import VehicleSpy.Firmware.WiFiTicks
import VehicleSpy.Machine.Prefixes
import VehicleSpy.Text.Numbers
import Mathlib.Algebra.GroupWithZero.Nat
import Mathlib.Data.Nat.Count

/-! # The firmware's application object

On each tick the WiFi manager is updated, what it has come to is presented as event lines, and
the clock is started. The radio's disconnect callback goes to the manager and is an event line of
its own. The last line about the link tells whether the device is connected, and the clock's
client is initialised three times at most, and only after the first connection.
-/

namespace VehicleSpy.Firmware

open Text Machine WiFiManager

/-- What an event line about the WiFi says. -/
inductive WifiNotice
  | wifiConnected (ip : Bytes)
  | wifiDrop (reason : ℤ)
  | apFallback (reason : ℤ)
  /-- The radio's callback, with the access point and its signal. -/
  | dropped (reason : ℤ) (bssid : Bytes) (rssi : ℤ)
  deriving DecidableEq, Repr

structure WifiTransitionObserver where
  previousState : WiFiState := .WIFI_DISCONNECTED
  lastDisconnectReason : ℤ := 0
  deriving DecidableEq, Repr

namespace WifiTransitionObserver

variable (o : WifiTransitionObserver)

def recordDisconnectReason (reason : ℤ) : WifiTransitionObserver :=
  { o with lastDisconnectReason := reason }

def observe (currentState : WiFiState) (localIp : Bytes) (escalatedToApReason : ℤ) :
    WifiTransitionObserver × List WifiNotice :=
  if currentState = o.previousState then (o, [])
  else
    let (lastDisconnectReason, link) :=
      if currentState = .WIFI_CONNECTED then (0, [WifiNotice.wifiConnected localIp])
      else if o.previousState = .WIFI_CONNECTED then
        (o.lastDisconnectReason, [.wifiDrop o.lastDisconnectReason])
      else (o.lastDisconnectReason, [])
    let fallback :=
      if isApModeState currentState && !isApModeState o.previousState then
        [WifiNotice.apFallback escalatedToApReason]
      else []
    ({ previousState := currentState, lastDisconnectReason }, link ++ fallback)

end WifiTransitionObserver

/-- The calls that initialise the clock's client. -/
inductive SntpCall
  | setOperatingMode (mode : ℕ)
  | setServerName (idx : ℕ) (server : Bytes)
  | setSyncMode (mode : ℕ)
  | setSyncInterval (intervalMs : ℕ)
  | setTimeSyncNotificationCallback
  | init
  | setenv (name value : Bytes)
  | tzset
  deriving DecidableEq, Repr

/-- The context of the time synchronisation. -/
structure NtpTimeSync where
  synced : Bool := false
  syncAttempts : UInt32 := 0
  deriving DecidableEq, Repr

namespace NtpTimeSync

def NTP_RETRY_INTERVAL_MS : ℕ := 15000

def NTP_SYNC_RETRY_MAX : UInt32 := 3

def NTP_SERVER : Bytes := ascii "pool.ntp.org"

def initCalls : List SntpCall :=
  [.setOperatingMode 1, .setServerName 0 NTP_SERVER, .setSyncMode 1,
    .setSyncInterval NTP_RETRY_INTERVAL_MS, .setTimeSyncNotificationCallback, .init,
    .setenv (ascii "TZ") (ascii "UTC"), .tzset]

variable (n : NtpTimeSync)

/-- `init`, where the client may be running already. The sync callback is never set. -/
def init (enabled : Bool) : NtpTimeSync × List SntpCall :=
  if n.synced then (n, [])
  else if enabled then (n, [])
  else
    let n := { n with syncAttempts := n.syncAttempts + 1 }
    if n.syncAttempts > NTP_SYNC_RETRY_MAX then (n, []) else (n, initCalls)

def onSyncComplete : NtpTimeSync :=
  if n.synced then n else { synced := true, syncAttempts := 0 }

end NtpTimeSync

structure NtpSupervisor where
  ntp : NtpTimeSync := {}
  started : Bool := false
  deriving DecidableEq, Repr

namespace NtpSupervisor

variable (s : NtpSupervisor)

def onNtpInitRequested : NtpSupervisor := { s with started := true }

def maybeStart (enabled : Bool) : NtpSupervisor × List SntpCall :=
  if s.started && !s.ntp.synced then
    let (ntp, calls) := s.ntp.init enabled
    ({ s with ntp }, calls)
  else (s, [])

end NtpSupervisor

structure FirmwareApp where
  wifiManager : WiFiManager
  wifiTransitionObserver : WifiTransitionObserver := {}
  ntpSupervisor : NtpSupervisor := {}
  logger : Bool := false

/-- What the application does to its surroundings. -/
inductive AppOutput
  | wifi (call : WiFiCall)
  | event (notice : WifiNotice)
  | sntp (call : SntpCall)
  deriving DecidableEq, Repr

/-- What drives the application: the main loop's ticks, the radio's callback and the clock's. -/
inductive AppEvent
  | update (now : UInt32) (radio : Radio) (sntpEnabled : Bool)
  | onWiFiDisconnected (reason : ℤ) (bssid : Bytes) (rssi : ℤ)
  | onSyncComplete
  deriving DecidableEq, Repr

section Manager

variable {m : WiFiManager} {now : UInt32} {radio : Radio} {reason : ℤ}

theorem Tick.lastConnectedIp_eq {w : WiFiSetup} {ctx : WiFiContext} {r : HandlerResult}
    (h : Tick w now radio ctx r) : r.ctx.lastConnectedIp = ctx.lastConnectedIp := by
  cases h <;> rfl

/-- A manager that is connected after a tick has the radio's address, or was connected before. -/
theorem lastConnectedIp_update (m : WiFiManager) (now : UInt32) (radio : Radio)
    (h : (m.update now radio).1.ctx.state = .WIFI_CONNECTED) :
    (m.update now radio).1.ctx.lastConnectedIp =
      if m.ctx.state = .WIFI_CONNECTED then m.ctx.lastConnectedIp else radio.localIP := by
  have htick := tick_answer m now radio
  rw [update_eq] at h ⊢
  simp only [transition_state] at h
  unfold applyStateTransition
  rw [h, htick.state_eq]
  by_cases hs : m.ctx.state = .WIFI_CONNECTED
  · rw [if_pos hs, if_pos hs.symm, htick.lastConnectedIp_eq]
  · rw [if_neg hs, if_neg (Ne.symm hs)]
    simp only [if_true]

theorem Drop.not_connected {ctx ctx' : WiFiContext} (h : Drop reason ctx ctx') :
    ctx'.state ≠ .WIFI_CONNECTED := by
  cases h with
  | authLive | link => simp
  | auth _ hs | noted hs => exact hs

theorem Tick.no_ntpInit {w : WiFiSetup} {ctx : WiFiContext} {r : HandlerResult}
    (h : Tick w now radio ctx r) : .ntpInit ∉ r.calls := by
  have hknown : .ntpInit ∉ beginWithKnownCredentials w := by
    unfold beginWithKnownCredentials
    dsimp only
    split
    · simp
    · split <;> simp
  have hstrategy : .ntpInit ∉ AuthCampaign.applyCurrentStrategy w ctx := by
    unfold AuthCampaign.applyCurrentStrategy applyAuthStrategy
    dsimp only
    cases authStrategyAt ctx.authFailStrategyIndex <;> cases campaignCredentials w <;> simp
  cases h with
  | retry reset hs hreset =>
    rintro hmem
    rcases List.mem_append.mp hmem with hmem | hmem
    · cases hreset _ hmem
    · exact hknown hmem
  | recover => simpa using hknown
  | strategy => exact hstrategy
  | exhausted => simpa [startSoftAP] using hstrategy
  | _ => simp [startSoftAP]

/-- A transition starts the clock exactly if it leads to a connection. -/
theorem Tick.initNtp_iff {w : WiFiSetup} {ctx : WiFiContext} {r : HandlerResult}
    (h : Tick w now radio ctx r) (hne : r.transition.nextState ≠ ctx.state) :
    r.transition.initNtp = true ↔ r.transition.nextState = .WIFI_CONNECTED := by
  cases h with
  | wait | retry | strategy => exact absurd rfl hne
  | connected => simp
  | fallback _ hap =>
    simp only [Bool.false_eq_true, false_iff]
    rintro rfl
    cases hap
  | _ => simp

/-- The clock is asked for with each new connection. -/
theorem ntpInit_mem_update (m : WiFiManager) (now : UInt32) (radio : Radio) :
    .ntpInit ∈ (m.update now radio).2 ↔
    m.ctx.state ≠ .WIFI_CONNECTED ∧ (m.update now radio).1.ctx.state = .WIFI_CONNECTED := by
  have htick := tick_answer m now radio
  rw [update_eq]
  simp only [transition_state, List.mem_append, htick.no_ntpInit, false_or]
  unfold applyStateTransition
  rw [htick.state_eq]
  by_cases hs : (m.answer now radio).transition.nextState = m.ctx.state
  · rw [if_pos hs, hs]
    simp
  · have hmem (t : StateTransition) : WiFiCall.ntpInit ∈ WiFiCall.printf (.transition
          m.ctx.state t.nextState) :: ((if t.setTcpServerRestartFlag then [.tcpServerRestart]
            else []) ++ (if t.initNtp then [.ntpInit] else [])) ↔ t.initNtp = true := by
      cases t.setTcpServerRestartFlag <;> cases t.initNtp <;> simp
    rw [if_neg hs, hmem, htick.initNtp_iff hs]
    constructor
    · rintro heq
      exact ⟨fun h => hs (heq.trans h.symm), heq⟩
    · exact And.right

theorem ntpInit_not_mem_drop : .ntpInit ∉ (m.onDisconnected reason).2 := by
  rintro hmem
  obtain ⟨trace, htrace⟩ := mem_onDisconnected_calls hmem
  cases htrace

end Manager

namespace FirmwareApp

variable (a : FirmwareApp)

/-- Without a logger an event line is lost. -/
def emit (notices : List WifiNotice) : List AppOutput := if a.logger then notices.map .event else []

/-- The manager's calls; its clock callback starts the supervisor. -/
def manage (r : WiFiManager × List WiFiCall) : FirmwareApp :=
  { a with
    wifiManager := r.1
    ntpSupervisor :=
      if .ntpInit ∈ r.2 then a.ntpSupervisor.onNtpInitRequested else a.ntpSupervisor }

def observeWifiState (radio : Radio) : FirmwareApp × List AppOutput :=
  let ctx := a.wifiManager.ctx
  let (o, notices) :=
    a.wifiTransitionObserver.observe ctx.state radio.localIP ctx.escalatedToApReason
  ({ a with wifiTransitionObserver := o }, a.emit notices)

def update (now : UInt32) (radio : Radio) (sntpEnabled : Bool) : FirmwareApp × List AppOutput :=
  let r := a.wifiManager.update now radio
  let (a, events) := (a.manage r).observeWifiState radio
  let (ntpSupervisor, calls) := a.ntpSupervisor.maybeStart sntpEnabled
  ({ a with ntpSupervisor }, r.2.map .wifi ++ events ++ calls.map .sntp)

def onWiFiDisconnected (reason : ℤ) (bssid : Bytes) (rssi : ℤ) :
    FirmwareApp × List AppOutput :=
  let a :=
    { a with wifiTransitionObserver := a.wifiTransitionObserver.recordDisconnectReason reason }
  let r := a.wifiManager.onDisconnected reason
  (a.manage r, r.2.map .wifi ++ a.emit [.dropped reason bssid rssi])

def step : AppEvent → FirmwareApp × List AppOutput
  | .update now radio sntpEnabled => a.update now radio sntpEnabled
  | .onWiFiDisconnected reason bssid rssi => a.onWiFiDisconnected reason bssid rssi
  | .onSyncComplete =>
    ({ a with ntpSupervisor :=
        { a.ntpSupervisor with ntp := a.ntpSupervisor.ntp.onSyncComplete } }, [])

/-- `init`: the manager's first tick, at the time 0. -/
def init (radio : Radio) : FirmwareApp × List AppOutput :=
  let m := { a.wifiManager with ctx := { a.wifiManager.ctx with state := .WIFI_DISCONNECTED } }
  (a.manage (m.update 0 radio)).observeWifiState radio

/-- The application at the end of the setup: the logger is set after `init`. -/
def booted (w : WiFiSetup) (radio : Radio) : FirmwareApp :=
  { (init { wifiManager := ⟨w, {}⟩ } radio).1 with logger := true }

section Observer

open WifiTransitionObserver

variable {o : WifiTransitionObserver} {currentState : WiFiState} {localIp : Bytes} {reason : ℤ}

/-- Event lines about the access point. -/
def Fallbacks (notices : List WifiNotice) : Prop := ∀ n ∈ notices, ∃ reason, n = .apFallback reason

/-- What one look at the state comes to. -/
inductive Observed (o : WifiTransitionObserver) (currentState : WiFiState) (localIp : Bytes) :
    WifiTransitionObserver × List WifiNotice → Prop
  | same : currentState = o.previousState → Observed o currentState localIp (o, [])
  | connected : o.previousState ≠ .WIFI_CONNECTED → currentState = .WIFI_CONNECTED →
      Observed o currentState localIp
        (⟨.WIFI_CONNECTED, 0⟩, [.wifiConnected localIp])
  | dropped {fallbacks : List WifiNotice} : o.previousState = .WIFI_CONNECTED →
      currentState ≠ .WIFI_CONNECTED → Fallbacks fallbacks →
      Observed o currentState localIp
        (⟨currentState, o.lastDisconnectReason⟩, .wifiDrop o.lastDisconnectReason :: fallbacks)
  | other {fallbacks : List WifiNotice} : o.previousState ≠ .WIFI_CONNECTED →
      currentState ≠ .WIFI_CONNECTED → Fallbacks fallbacks →
      Observed o currentState localIp (⟨currentState, o.lastDisconnectReason⟩, fallbacks)

theorem observed_observe (o : WifiTransitionObserver) (currentState : WiFiState)
    (localIp : Bytes) (reason : ℤ) :
    Observed o currentState localIp (o.observe currentState localIp reason) := by
  have hfallbacks : Fallbacks
      (if isApModeState currentState && !isApModeState o.previousState then
        [WifiNotice.apFallback reason] else []) := by
    rintro n hn
    split at hn
    · exact ⟨reason, List.mem_singleton.mp hn⟩
    · cases hn
  unfold observe
  by_cases hsame : currentState = o.previousState
  · rw [if_pos hsame]
    exact .same hsame
  · rw [if_neg hsame]
    by_cases hcur : currentState = .WIFI_CONNECTED
    · subst hcur
      exact .connected (Ne.symm hsame) rfl
    · by_cases hprev : o.previousState = .WIFI_CONNECTED
      · simp only [if_neg hcur, if_pos hprev]
        exact .dropped hprev hcur hfallbacks
      · simp only [if_neg hcur, if_neg hprev]
        exact .other hprev hcur hfallbacks

end Observer

section Log

/-- The event lines that have been put out. -/
def notices (out : List AppOutput) : List WifiNotice :=
  out.filterMap fun | .event notice => some notice | _ => none

/-- The transitions that the observer presents. -/
def isTransition : WifiNotice → Bool
  | .wifiConnected _ | .wifiDrop _ => true
  | _ => false

/-- All lines about the link. -/
def isLink : WifiNotice → Bool
  | .apFallback _ => false
  | _ => true

def isConnected : WifiNotice → Bool
  | .wifiConnected _ => true
  | _ => false

/-- The lines that change the reason of the next drop. -/
def marksReason : WifiNotice → Bool
  | .wifiConnected _ | .dropped _ _ _ => true
  | _ => false

/-- The reason that the callback has given last since the last connection. -/
def lastReason (log : List WifiNotice) : ℤ :=
  match (log.filter marksReason).getLast? with
  | some (.dropped reason _ _) => reason
  | _ => 0

def ReasonKept (before : List WifiNotice) (n : WifiNotice) : Prop :=
  ∀ reason, n = .wifiDrop reason → reason = lastReason before

/-- A log that tells how the link of the device is and was. -/
structure Faithful (log : List WifiNotice) (a : FirmwareApp) : Prop where
  /-- After a line that says so, the device is connected at that address. -/
  connected : ∀ ip, (log.filter isLink).getLast? = some (.wifiConnected ip) →
    a.wifiManager.ctx.state = .WIFI_CONNECTED ∧ a.wifiManager.ctx.lastConnectedIp = ip
  /-- A device that is connected has been presented as connected since its last drop. -/
  presented : a.wifiManager.ctx.state = .WIFI_CONNECTED →
    ∃ ip, (log.filter isTransition).getLast? = some (.wifiConnected ip)
  /-- Connections and drops alternate, from a connection on. -/
  alternates : (false :: (log.filter isTransition).map isConnected).IsChain (· ≠ ·)
  /-- A drop has the reason that the callback has given. -/
  reasons : EverySplit ReasonKept log

/-- What the application remembers of its log. -/
structure Remembers (log : List WifiNotice) (a : FirmwareApp) : Prop where
  logger : a.logger = true
  previous : a.wifiTransitionObserver.previousState = .WIFI_CONNECTED ↔
    ∃ ip, (log.filter isTransition).getLast? = some (.wifiConnected ip)
  reason : a.wifiTransitionObserver.lastDisconnectReason = lastReason log
  behind : a.wifiManager.ctx.state = .WIFI_CONNECTED →
    a.wifiTransitionObserver.previousState = .WIFI_CONNECTED

section Append

variable {log fallbacks : List WifiNotice}

theorem Fallbacks.filter_eq (h : Fallbacks fallbacks) {p : WifiNotice → Bool}
    (hp : ∀ reason, p (.apFallback reason) = false) : fallbacks.filter p = [] := by
  apply List.filter_eq_nil_iff.mpr
  rintro n hn
  obtain ⟨reason, rfl⟩ := h n hn
  simp [hp]

theorem Fallbacks.append_filter (h : Fallbacks fallbacks) {p : WifiNotice → Bool}
    (hp : ∀ reason, p (.apFallback reason) = false) :
    (log ++ fallbacks).filter p = log.filter p := by
  rw [List.filter_append, h.filter_eq hp, List.append_nil]

theorem filter_kept {n : WifiNotice} {p : WifiNotice → Bool} (h : p n = true) :
    (log ++ [n]).filter p = log.filter p ++ [n] := by
  rw [List.filter_append, List.filter_cons_of_pos h, List.filter_nil]

theorem filter_left {n : WifiNotice} {p : WifiNotice → Bool} (h : p n = false) :
    (log ++ [n]).filter p = log.filter p := by
  rw [List.filter_append, List.filter_cons_of_neg (by simp [h]), List.filter_nil,
    List.append_nil]

theorem lastReason_append (h : Fallbacks fallbacks) :
    lastReason (log ++ fallbacks) = lastReason log := by
  rw [lastReason, h.append_filter fun _ => rfl, lastReason]

theorem reasons_append (h : Fallbacks fallbacks) (hlog : EverySplit ReasonKept log) :
    EverySplit ReasonKept (log ++ fallbacks) := by
  induction fallbacks using List.reverseRecOn with
  | nil => rwa [List.append_nil]
  | append_singleton fallbacks n ih =>
    rw [← List.append_assoc]
    refine everySplit_concat.mpr ⟨ih fun n hn => h n (List.mem_append_left _ hn), ?_⟩
    rintro reason rfl
    obtain ⟨reason', hn⟩ := h _ (List.mem_append_right _ List.mem_cons_self)
    cases hn

/-- A connection follows a drop, and a drop a connection. -/
theorem chain_concat {b : Bool}
    (h : (false :: (log.filter isTransition).map isConnected).IsChain (· ≠ ·))
    (hlast : (∃ ip, (log.filter isTransition).getLast? = some (.wifiConnected ip)) ↔ b = false) :
    (false :: ((log.filter isTransition).map isConnected ++ [b])).IsChain (· ≠ ·) := by
  rw [← List.cons_append]
  refine List.isChain_append.mpr ⟨h, List.isChain_singleton b, ?_⟩
  rintro x hx y hy
  obtain rfl : b = y := by simpa using hy
  rcases hl : (log.filter isTransition).getLast? with _ | n
  · obtain rfl : false = x := by
      rw [List.getLast?_eq_none_iff.mp hl] at hx
      simpa using hx
    rintro rfl
    obtain ⟨ip, hip⟩ := hlast.mpr rfl
    rw [hl] at hip
    cases hip
  · have hx' : isConnected n = x := by
      rw [List.getLast?_cons, List.getLast?_map, hl] at hx
      simpa using hx
    rintro rfl
    cases x with
    | true =>
      have hno := mt hlast.mp (by simp)
      cases n with
      | wifiConnected ip => exact hno ⟨ip, hl⟩
      | _ => cases hx'
    | false =>
      obtain ⟨ip, hip⟩ := hlast.mpr rfl
      rw [hl] at hip
      obtain rfl := Option.some.inj hip
      cases hx'

end Append

section Step

variable {a : FirmwareApp} {log : List WifiNotice} {now : UInt32} {radio : Radio}
  {sntpEnabled : Bool}

theorem notices_append (x y : List AppOutput) : notices (x ++ y) = notices x ++ notices y :=
  List.filterMap_append

theorem notices_wifi (calls : List WiFiCall) : notices (calls.map .wifi) = [] := by
  apply List.filterMap_eq_nil_iff.mpr
  rintro out hout
  obtain ⟨call, -, rfl⟩ := List.mem_map.mp hout
  rfl

theorem notices_sntp (calls : List SntpCall) : notices (calls.map .sntp) = [] := by
  apply List.filterMap_eq_nil_iff.mpr
  rintro out hout
  obtain ⟨call, -, rfl⟩ := List.mem_map.mp hout
  rfl

theorem notices_emit (h : a.logger = true) (ns : List WifiNotice) : notices (a.emit ns) = ns := by
  rw [emit, if_pos h, notices, List.filterMap_map]
  exact List.filterMap_some

/-- A tick's look at the manager. -/
theorem update_spec (h : a.logger = true) (now : UInt32) (radio : Radio) (sntpEnabled : Bool) :
    (a.update now radio sntpEnabled).1.wifiManager = (a.wifiManager.update now radio).1 ∧
    (a.update now radio sntpEnabled).1.logger = true ∧
    Observed a.wifiTransitionObserver (a.wifiManager.update now radio).1.ctx.state radio.localIP
      ((a.update now radio sntpEnabled).1.wifiTransitionObserver,
        notices (a.update now radio sntpEnabled).2) := by
  refine ⟨rfl, h, ?_⟩
  have hnotices : notices (a.update now radio sntpEnabled).2 =
      (a.wifiTransitionObserver.observe (a.wifiManager.update now radio).1.ctx.state radio.localIP
        (a.wifiManager.update now radio).1.ctx.escalatedToApReason).2 := by
    simp only [update, observeWifiState, manage, notices_append, notices_wifi, notices_sntp,
      List.nil_append, List.append_nil]
    exact notices_emit h _
  rw [hnotices]
  exact observed_observe _ _ _ _

theorem notices_onWiFiDisconnected (h : a.logger = true) (reason : ℤ) (bssid : Bytes) (rssi : ℤ) :
    notices (a.onWiFiDisconnected reason bssid rssi).2 = [.dropped reason bssid rssi] := by
  simp only [onWiFiDisconnected, notices_append, notices_wifi, List.nil_append]
  exact notices_emit h _

variable {a' : FirmwareApp} {ip : Bytes} {fallbacks : List WifiNotice} (h : Faithful log a)
  (hr : Remembers log a) (hlogger : a'.logger = true)

include h hr hlogger

theorem logged_same (ho : a'.wifiTransitionObserver = a.wifiTransitionObserver)
    (hcur : a'.wifiManager.ctx.state = a.wifiTransitionObserver.previousState)
    (hip : a'.wifiManager.ctx.state = .WIFI_CONNECTED →
      a.wifiManager.ctx.state = .WIFI_CONNECTED →
      a'.wifiManager.ctx.lastConnectedIp = a.wifiManager.ctx.lastConnectedIp) :
    Faithful log a' ∧ Remembers log a' := by
  refine ⟨⟨?_, ?_, h.alternates, h.reasons⟩, hlogger, ?_, ?_, ?_⟩
  · rintro ip hlast
    obtain ⟨hs, hold⟩ := h.connected ip hlast
    have hs' := hcur.trans (hr.behind hs)
    exact ⟨hs', (hip hs' hs).trans hold⟩
  · rintro hs
    exact hr.previous.mp (hcur.symm.trans hs)
  · rw [ho]
    exact hr.previous
  · rw [ho]
    exact hr.reason
  · rintro hs
    rw [ho, ← hcur, hs]

theorem logged_connected (ho : a'.wifiTransitionObserver = ⟨.WIFI_CONNECTED, 0⟩)
    (hprev : a.wifiTransitionObserver.previousState ≠ .WIFI_CONNECTED)
    (hcur : a'.wifiManager.ctx.state = .WIFI_CONNECTED)
    (hip : a'.wifiManager.ctx.lastConnectedIp = ip) :
    Faithful (log ++ [.wifiConnected ip]) a' ∧ Remembers (log ++ [.wifiConnected ip]) a' := by
  have hlast : ((log ++ [WifiNotice.wifiConnected ip]).filter isTransition).getLast? =
      some (.wifiConnected ip) := by
    rw [filter_kept rfl, List.getLast?_concat]
  refine ⟨⟨?_, fun _ => ⟨ip, hlast⟩, ?_, ?_⟩, hlogger, ?_, ?_, ?_⟩
  · rintro ip' hlink
    rw [filter_kept rfl, List.getLast?_concat] at hlink
    cases hlink
    exact ⟨hcur, hip⟩
  · rw [filter_kept rfl, List.map_append]
    have hno := mt hr.previous.mpr hprev
    exact chain_concat h.alternates (iff_of_false hno (by simp [isConnected]))
  · refine everySplit_concat.mpr ⟨h.reasons, ?_⟩
    rintro reason ⟨⟩
  · rw [ho]
    exact iff_of_true rfl ⟨ip, hlast⟩
  · rw [ho, lastReason, filter_kept rfl, List.getLast?_concat]
  · rintro -
    rw [ho]

theorem logged_dropped (hfall : Fallbacks fallbacks)
    (ho : a'.wifiTransitionObserver =
      ⟨a'.wifiManager.ctx.state, a.wifiTransitionObserver.lastDisconnectReason⟩)
    (hprev : a.wifiTransitionObserver.previousState = .WIFI_CONNECTED)
    (hcur : a'.wifiManager.ctx.state ≠ .WIFI_CONNECTED) :
    Faithful (log ++ .wifiDrop a.wifiTransitionObserver.lastDisconnectReason :: fallbacks) a' ∧
      Remembers (log ++ .wifiDrop a.wifiTransitionObserver.lastDisconnectReason :: fallbacks)
        a' := by
  rw [List.append_cons]
  refine ⟨⟨?_, fun hs => absurd hs hcur, ?_, ?_⟩, hlogger, ?_, ?_, fun hs => absurd hs hcur⟩
  · rintro ip hlink
    rw [hfall.append_filter fun _ => rfl, filter_kept rfl, List.getLast?_concat] at hlink
    cases hlink
  · rw [hfall.append_filter fun _ => rfl, filter_kept rfl, List.map_append]
    exact chain_concat h.alternates (iff_of_true (hr.previous.mp hprev) rfl)
  · refine reasons_append hfall (everySplit_concat.mpr ⟨h.reasons, ?_⟩)
    rintro reason ⟨⟩
    exact hr.reason
  · rw [ho, hfall.append_filter fun _ => rfl, filter_kept rfl, List.getLast?_concat]
    exact iff_of_false hcur (by rintro ⟨ip, ⟨⟩⟩)
  · rw [ho, lastReason_append hfall, lastReason, filter_left rfl, hr.reason, lastReason]

theorem logged_other (hfall : Fallbacks fallbacks)
    (ho : a'.wifiTransitionObserver =
      ⟨a'.wifiManager.ctx.state, a.wifiTransitionObserver.lastDisconnectReason⟩)
    (hprev : a.wifiTransitionObserver.previousState ≠ .WIFI_CONNECTED)
    (hcur : a'.wifiManager.ctx.state ≠ .WIFI_CONNECTED) :
    Faithful (log ++ fallbacks) a' ∧ Remembers (log ++ fallbacks) a' := by
  refine ⟨⟨?_, fun hs => absurd hs hcur, ?_, reasons_append hfall h.reasons⟩, hlogger, ?_, ?_,
    fun hs => absurd hs hcur⟩
  · rintro ip hlink
    rw [hfall.append_filter fun _ => rfl] at hlink
    exact absurd (hr.behind (h.connected ip hlink).1) hprev
  · rw [hfall.append_filter fun _ => rfl]
    exact h.alternates
  · rw [ho, hfall.append_filter fun _ => rfl]
    exact iff_of_false hcur (mt hr.previous.mpr hprev)
  · rw [ho, lastReason_append hfall]
    exact hr.reason

omit hlogger

theorem logged_update : Faithful (log ++ notices (a.update now radio sntpEnabled).2)
      (a.update now radio sntpEnabled).1 ∧
    Remembers (log ++ notices (a.update now radio sntpEnabled).2)
      (a.update now radio sntpEnabled).1 := by
  obtain ⟨hm, hlogger, hobs⟩ := update_spec hr.logger now radio sntpEnabled
  have hip := lastConnectedIp_update a.wifiManager now radio
  generalize a.update now radio sntpEnabled = u at hm hlogger hobs ⊢
  obtain ⟨a', out⟩ := u
  dsimp only at hm hlogger hobs ⊢
  rw [← hm] at hobs hip
  generalize ho : a'.wifiTransitionObserver = o' at hobs
  generalize notices out = ns at hobs ⊢
  cases hobs with
  | same hcur =>
    rw [List.append_nil]
    exact logged_same h hr hlogger ho hcur fun hs hold => by rw [hip hs, if_pos hold]
  | connected hprev hcur =>
    refine logged_connected h hr hlogger ho hprev hcur ?_
    rw [hip hcur, if_neg (mt hr.behind hprev)]
  | dropped hprev hcur hfall => exact logged_dropped h hr hlogger hfall ho hprev hcur
  | other hprev hcur hfall => exact logged_other h hr hlogger hfall ho hprev hcur

theorem logged_onWiFiDisconnected (reason : ℤ) (bssid : Bytes) (rssi : ℤ) :
    Faithful (log ++ notices (a.onWiFiDisconnected reason bssid rssi).2)
      (a.onWiFiDisconnected reason bssid rssi).1 ∧
    Remembers (log ++ notices (a.onWiFiDisconnected reason bssid rssi).2)
      (a.onWiFiDisconnected reason bssid rssi).1 := by
  have hcur : (a.onWiFiDisconnected reason bssid rssi).1.wifiManager.ctx.state ≠
      .WIFI_CONNECTED := (drop_onDisconnected a.wifiManager reason).not_connected
  rw [notices_onWiFiDisconnected hr.logger]
  refine ⟨⟨?_, fun hs => absurd hs hcur, ?_, ?_⟩, hr.logger, ?_, ?_, fun hs => absurd hs hcur⟩
  · rintro ip hlink
    rw [filter_kept rfl, List.getLast?_concat] at hlink
    cases hlink
  · rw [filter_left rfl]
    exact h.alternates
  · refine everySplit_concat.mpr ⟨h.reasons, ?_⟩
    rintro reason' ⟨⟩
  · rw [filter_left rfl]
    exact hr.previous
  · rw [lastReason, filter_kept rfl, List.getLast?_concat]
    rfl

theorem logged_step (e : AppEvent) : Faithful (log ++ notices (a.step e).2) (a.step e).1 ∧
    Remembers (log ++ notices (a.step e).2) (a.step e).1 := by
  cases e with
  | update now radio sntpEnabled => exact logged_update h hr
  | onWiFiDisconnected reason bssid rssi => exact logged_onWiFiDisconnected h hr reason bssid rssi
  | onSyncComplete =>
    rw [show notices (a.step .onSyncComplete).2 = [] from rfl, List.append_nil]
    exact ⟨⟨h.connected, h.presented, h.alternates, h.reasons⟩,
      hr.logger, hr.previous, hr.reason, hr.behind⟩

end Step

/-- No tick connects at once. -/
theorem first_tick {w : WiFiSetup} {now : UInt32} {radio : Radio} {ctx : WiFiContext}
    {r : HandlerResult} (h : Tick w now radio ctx r) (hs : ctx.state = .WIFI_DISCONNECTED)
    (hp : ctx.pendingAuthFail = false) : r.transition.nextState ≠ .WIFI_CONNECTED := by
  cases h with
  | wait => simp [hs]
  | retry _ hs' => simp [hs] at hs'
  | connected _ hor => simp [hs, hp] at hor
  | dropped => simp
  | fallback _ hap =>
    rintro rfl
    cases hap
  | strategy hp' => simp [hp] at hp'
  | _ => simp

theorem booted_not_connected (w : WiFiSetup) (radio : Radio) :
    (booted w radio).wifiManager.ctx.state ≠ .WIFI_CONNECTED := by
  have htick := first_tick (tick_answer (⟨w, {}⟩ : WiFiManager) 0 radio) rfl rfl
  change ((⟨w, {}⟩ : WiFiManager).update 0 radio).1.ctx.state ≠ .WIFI_CONNECTED
  rw [update_eq]
  simpa only [transition_state] using htick

theorem booted_spec (w : WiFiSetup) (radio : Radio) :
    Faithful [] (booted w radio) ∧ Remembers [] (booted w radio) := by
  have hcur := booted_not_connected w radio
  have hobs : (booted w radio).wifiTransitionObserver.previousState ≠ .WIFI_CONNECTED ∧
      (booted w radio).wifiTransitionObserver.lastDisconnectReason = 0 := by
    have hobserved := observed_observe {} (booted w radio).wifiManager.ctx.state radio.localIP
      (booted w radio).wifiManager.ctx.escalatedToApReason
    change (WifiTransitionObserver.observe {} (booted w radio).wifiManager.ctx.state radio.localIP
      (booted w radio).wifiManager.ctx.escalatedToApReason).1.previousState ≠ _ ∧
      (WifiTransitionObserver.observe {} (booted w radio).wifiManager.ctx.state radio.localIP
        (booted w radio).wifiManager.ctx.escalatedToApReason).1.lastDisconnectReason = 0
    generalize WifiTransitionObserver.observe {} (booted w radio).wifiManager.ctx.state
      radio.localIP (booted w radio).wifiManager.ctx.escalatedToApReason = seen at hobserved ⊢
    cases hobserved with
    | same => exact ⟨by simp, rfl⟩
    | connected _ hs => exact absurd hs hcur
    | dropped hprev => cases hprev
    | other => exact ⟨hcur, rfl⟩
  refine ⟨⟨by simp, fun hs => absurd hs hcur, List.isChain_singleton _, everySplit_nil _⟩,
    rfl, ?_, hobs.2, fun hs => absurd hs hcur⟩
  exact iff_of_false hobs.1 (by simp)

theorem logged_run (w : WiFiSetup) (radio : Radio) (events : List AppEvent) :
    Faithful (notices (emitted step (booted w radio) events))
      (after step (booted w radio) events) ∧
    Remembers (notices (emitted step (booted w radio) events))
      (after step (booted w radio) events) := by
  induction events using List.reverseRecOn with
  | nil => exact booted_spec w radio
  | append_singleton events e ih =>
    rw [emitted_concat, notices_append, after_concat]
    exact logged_step ih.1 ih.2 e

/-- Whatever the radio does after the setup, the event lines are a faithful log. -/
theorem log_faithful (w : WiFiSetup) (radio : Radio) (events : List AppEvent) :
    Faithful (notices (emitted step (booted w radio) events))
      (after step (booted w radio) events) :=
  (logged_run w radio events).1

end Log

section Clock

/-- The calls on the clock's client. -/
def sntpCalls (out : List AppOutput) : List SntpCall :=
  out.filterMap fun | .sntp call => some call | _ => none

variable (w : WiFiSetup) (radio₀ : Radio)

/-- A tick on which the clock is to be set: the client is not running, it has not answered, and
the device has been connected. -/
def waits (before : List AppEvent) : AppEvent → Bool
  | .update now radio sntpEnabled =>
    !sntpEnabled && !before.contains .onSyncComplete &&
      (notices (emitted step (booted w radio₀)
        (before ++ [.update now radio sntpEnabled]))).any isConnected
  | _ => false

/-- The number of these ticks. -/
def attempts (events : List AppEvent) : ℕ :=
  (alongPrefixes (fun before e => if waits w radio₀ before e then some () else none) []
    events).length

variable {w radio₀} {a : FirmwareApp} {events : List AppEvent} {e : AppEvent}

theorem attempts_concat : attempts w radio₀ (events ++ [e]) =
    attempts w radio₀ events + if waits w radio₀ events e then 1 else 0 := by
  rw [attempts, alongPrefixes_concat, List.length_append, List.nil_append, attempts]
  cases waits w radio₀ events e <;> rfl

/-- What the supervisor remembers of a run. -/
structure Clocked (w : WiFiSetup) (radio₀ : Radio) (events : List AppEvent) (a : FirmwareApp) :
    Prop where
  synced : a.ntpSupervisor.ntp.synced = events.contains .onSyncComplete
  started : a.ntpSupervisor.started =
    (notices (emitted step (booted w radio₀) events)).any isConnected
  syncAttempts : a.ntpSupervisor.ntp.synced = false →
    a.ntpSupervisor.ntp.syncAttempts.toNat = attempts w radio₀ events % 2 ^ 32

/-- What one tick of the supervisor comes to. -/
inductive Asked (s : NtpSupervisor) (enabled : Bool) : NtpSupervisor × List SntpCall → Prop
  | idle : (!enabled && !s.ntp.synced && s.started) = false → Asked s enabled (s, [])
  | attempt : (!enabled && !s.ntp.synced && s.started) = true →
      Asked s enabled
        ({ s with ntp := { s.ntp with syncAttempts := s.ntp.syncAttempts + 1 } },
          if s.ntp.syncAttempts + 1 > NtpTimeSync.NTP_SYNC_RETRY_MAX then []
          else NtpTimeSync.initCalls)

theorem asked_maybeStart (s : NtpSupervisor) (enabled : Bool) :
    Asked s enabled (s.maybeStart enabled) := by
  obtain ⟨⟨synced, syncAttempts⟩, started⟩ := s
  cases synced with
  | true =>
    rw [NtpSupervisor.maybeStart, Bool.not_true, Bool.and_false]
    exact .idle (by simp)
  | false =>
    cases started with
    | false => exact .idle (by simp)
    | true =>
      cases enabled with
      | true => exact .idle (by simp)
      | false =>
        have hask : Asked ⟨⟨false, syncAttempts⟩, true⟩ false _ := .attempt rfl
        simp only [NtpSupervisor.maybeStart, NtpTimeSync.init, Bool.not_false, Bool.and_self,
          if_true, Bool.false_eq_true, if_false]
        by_cases hmax : syncAttempts + 1 > NtpTimeSync.NTP_SYNC_RETRY_MAX
        · rw [if_pos hmax] at hask ⊢
          exact hask
        · rw [if_neg hmax] at hask ⊢
          exact hask

theorem sntpCalls_append (x y : List AppOutput) :
    sntpCalls (x ++ y) = sntpCalls x ++ sntpCalls y :=
  List.filterMap_append

theorem sntpCalls_wifi (calls : List WiFiCall) : sntpCalls (calls.map .wifi) = [] := by
  apply List.filterMap_eq_nil_iff.mpr
  rintro out hout
  obtain ⟨call, -, rfl⟩ := List.mem_map.mp hout
  rfl

theorem sntpCalls_emit (ns : List WifiNotice) : sntpCalls (a.emit ns) = [] := by
  apply List.filterMap_eq_nil_iff.mpr
  rintro out hout
  rw [emit] at hout
  split at hout
  · obtain ⟨n, -, rfl⟩ := List.mem_map.mp hout
    rfl
  · cases hout

theorem sntpCalls_sntp (calls : List SntpCall) : sntpCalls (calls.map .sntp) = calls := by
  rw [sntpCalls, List.filterMap_map]
  exact List.filterMap_some

/-- A tick starts the supervisor with a new connection, and then lets it work. -/
theorem asked_update (a : FirmwareApp) (now : UInt32) (radio : Radio) (sntpEnabled : Bool) :
    ∃ s : NtpSupervisor, s.ntp = a.ntpSupervisor.ntp ∧
      s.started = (a.ntpSupervisor.started ||
        decide (.ntpInit ∈ (a.wifiManager.update now radio).2)) ∧
      Asked s sntpEnabled ((a.update now radio sntpEnabled).1.ntpSupervisor,
        sntpCalls (a.update now radio sntpEnabled).2) := by
  refine ⟨((a.manage (a.wifiManager.update now radio)).observeWifiState radio).1.ntpSupervisor,
    ?_, ?_, ?_⟩
  · simp only [observeWifiState, manage]
    split <;> rfl
  · simp only [observeWifiState, manage]
    by_cases hmem : .ntpInit ∈ (a.wifiManager.update now radio).2
    · rw [if_pos hmem, decide_eq_true hmem, Bool.or_true]
      rfl
    · rw [if_neg hmem, decide_eq_false hmem, Bool.or_false]
  · have hcalls : sntpCalls (a.update now radio sntpEnabled).2 =
        (((a.manage (a.wifiManager.update now radio)).observeWifiState radio).1.ntpSupervisor
          |>.maybeStart sntpEnabled).2 := by
      simp only [update, observeWifiState, sntpCalls_append, sntpCalls_wifi, sntpCalls_emit,
        sntpCalls_sntp, List.nil_append]
    rw [hcalls]
    exact asked_maybeStart _ _

theorem Asked.started_eq {s : NtpSupervisor} {enabled : Bool} {r : NtpSupervisor × List SntpCall}
    (h : Asked s enabled r) : r.1.started = s.started := by
  cases h <;> rfl

theorem Asked.synced_eq {s : NtpSupervisor} {enabled : Bool} {r : NtpSupervisor × List SntpCall}
    (h : Asked s enabled r) : r.1.ntp.synced = s.ntp.synced := by
  cases h <;> rfl

theorem Fallbacks.not_connected {ns : List WifiNotice} (h : Fallbacks ns) :
    ns.any isConnected = false := by
  rw [List.any_eq_false]
  rintro n hn
  obtain ⟨reason, rfl⟩ := h n hn
  simp [isConnected]

/-- The clock is asked for on the tick of the first line that says connected. -/
theorem asked_iff {log : List WifiNotice} {now : UInt32} {radio : Radio} {sntpEnabled : Bool}
    (hr : Remembers log a) :
    (log.any isConnected || decide (.ntpInit ∈ (a.wifiManager.update now radio).2)) =
      (log ++ notices (a.update now radio sntpEnabled).2).any isConnected := by
  obtain ⟨-, -, hobs⟩ := update_spec hr.logger now radio sntpEnabled
  have hiff := ntpInit_mem_update a.wifiManager now radio
  rw [List.any_append]
  generalize (a.wifiManager.update now radio).1.ctx.state = cur at hiff hobs
  generalize notices (a.update now radio sntpEnabled).2 = ns at hobs ⊢
  generalize (a.update now radio sntpEnabled).1.wifiTransitionObserver = o' at hobs
  have hno (hcur : cur ≠ .WIFI_CONNECTED) :
      decide (.ntpInit ∈ (a.wifiManager.update now radio).2) = false :=
    decide_eq_false fun hmem => hcur (hiff.mp hmem).2
  cases hobs with
  | same hcur =>
    rw [List.any_nil, Bool.or_false]
    by_cases hprev : cur = .WIFI_CONNECTED
    · obtain ⟨ip, hlast⟩ := hr.previous.mp (hcur.symm.trans hprev)
      have hmem := List.mem_of_mem_filter (List.mem_of_getLast? hlast)
      rw [List.any_eq_true.mpr ⟨_, hmem, rfl⟩, Bool.true_or]
    · rw [hno hprev, Bool.or_false]
  | connected hprev hcur =>
    rw [decide_eq_true (hiff.mpr ⟨mt hr.behind hprev, hcur⟩)]
    rfl
  | dropped _ hcur hfall =>
    rw [hno hcur, List.any_cons, hfall.not_connected]
    rfl
  | other _ hcur hfall => rw [hno hcur, hfall.not_connected]

/-- The counter of 32 bits lets these of `n` attempts initialise the client. -/
def budgeted (n : ℕ) : ℕ := Nat.count (fun k => (k + 1) % 2 ^ 32 ≤ 3) n

theorem budgeted_succ (n : ℕ) :
    budgeted (n + 1) = budgeted n + if (n + 1) % 2 ^ 32 ≤ 3 then 1 else 0 :=
  Nat.count_succ _ _

theorem budgeted_of_lt {n : ℕ} (h : n < 2 ^ 32) : budgeted n = min 3 n := by
  induction n with
  | zero => rfl
  | succ n ih =>
    have hn := ih (by omega)
    rw [budgeted_succ, hn, Nat.mod_eq_of_lt h]
    split <;> omega

theorem syncAttempts_succ {c : UInt32} {n : ℕ} (h : c.toNat = n % 2 ^ 32) :
    (c + 1).toNat = (n + 1) % 2 ^ 32 := by
  rw [UInt32.toNat_add, h, UInt32.toNat_one, Nat.mod_add_mod]

theorem syncAttempts_le {c : UInt32} {n : ℕ} (h : c.toNat = n % 2 ^ 32) :
    c + 1 > NtpTimeSync.NTP_SYNC_RETRY_MAX ↔ ¬ (n + 1) % 2 ^ 32 ≤ 3 := by
  rw [gt_iff_lt, UInt32.lt_iff_toNat_lt, syncAttempts_succ h, Nat.not_le]
  rfl

/-- An attempt is counted, and initialises the client within the budget. -/
theorem Asked.counts {s : NtpSupervisor} {enabled : Bool} {r : NtpSupervisor × List SntpCall}
    {n : ℕ} (h : Asked s enabled r)
    (hc : s.ntp.synced = false → s.ntp.syncAttempts.toNat = n % 2 ^ 32) :
    (r.1.ntp.synced = false → r.1.ntp.syncAttempts.toNat =
        (n + if !enabled && !s.ntp.synced && s.started then 1 else 0) % 2 ^ 32) ∧
      r.2 = if (!enabled && !s.ntp.synced && s.started) = true ∧ (n + 1) % 2 ^ 32 ≤ 3 then
        NtpTimeSync.initCalls else [] := by
  cases h with
  | idle hidle =>
    rw [hidle, if_neg (by simp), if_neg (by simp)]
    exact ⟨hc, rfl⟩
  | attempt htrue =>
    have hsynced : s.ntp.synced = false := by
      simp only [Bool.and_eq_true, Bool.not_eq_true'] at htrue
      exact htrue.1.2
    have hcount := hc hsynced
    refine ⟨fun _ => ?_, ?_⟩
    · rw [if_pos htrue]
      exact syncAttempts_succ hcount
    · by_cases hle : (n + 1) % 2 ^ 32 ≤ 3
      · rw [if_neg fun hgt => (syncAttempts_le hcount).mp hgt hle, if_pos ⟨htrue, hle⟩]
      · rw [if_pos ((syncAttempts_le hcount).mpr hle), if_neg fun hand => hle hand.2]

theorem clocked_update (now : UInt32) (radio : Radio) (sntpEnabled : Bool)
    (h : Clocked w radio₀ events (after step (booted w radio₀) events)) :
    Clocked w radio₀ (events ++ [.update now radio sntpEnabled])
        ((after step (booted w radio₀) events).update now radio sntpEnabled).1 ∧
      sntpCalls ((after step (booted w radio₀) events).update now radio sntpEnabled).2 =
        if waits w radio₀ events (.update now radio sntpEnabled) ∧
          (attempts w radio₀ events + 1) % 2 ^ 32 ≤ 3 then NtpTimeSync.initCalls else [] := by
  obtain ⟨s, hntp, hstarted, hask⟩ :=
    asked_update (after step (booted w radio₀) events) now radio sntpEnabled
  have hclock : s.started = (notices (emitted step (booted w radio₀)
      (events ++ [.update now radio sntpEnabled]))).any isConnected := by
    rw [hstarted, h.started, asked_iff (logged_run w radio₀ events).2, emitted_concat,
      notices_append]
    rfl
  have hwaits : waits w radio₀ events (.update now radio sntpEnabled) =
      (!sntpEnabled && !s.ntp.synced && s.started) := by
    rw [hntp, h.synced, hclock]
    rfl
  have hcount := hask.counts (by rw [hntp]; exact h.syncAttempts)
  rw [← hwaits] at hcount
  refine ⟨⟨?_, ?_, ?_⟩, hcount.2⟩
  · rw [hask.synced_eq, hntp, h.synced]
    simp
  · rw [hask.started_eq, hclock]
  · rw [attempts_concat]
    exact hcount.1

theorem clocked_step (h : Clocked w radio₀ events (after step (booted w radio₀) events)) :
    Clocked w radio₀ (events ++ [e]) (after step (booted w radio₀) (events ++ [e])) ∧
      sntpCalls ((after step (booted w radio₀) events).step e).2 =
        if waits w radio₀ events e ∧ (attempts w radio₀ events + 1) % 2 ^ 32 ≤ 3 then
          NtpTimeSync.initCalls
        else [] := by
  have hconcat : notices (emitted step (booted w radio₀) (events ++ [e])) =
      notices (emitted step (booted w radio₀) events) ++
        notices ((after step (booted w radio₀) events).step e).2 := by
    rw [emitted_concat, notices_append]
  rw [after_concat]
  cases e with
  | update now radio sntpEnabled => exact clocked_update now radio sntpEnabled h
  | onWiFiDisconnected reason bssid rssi =>
    have hlogger := (logged_run w radio₀ events).2.logger
    generalize after step (booted w radio₀) events = a at h hconcat hlogger ⊢
    have hsupervisor : (a.step (.onWiFiDisconnected reason bssid rssi)).1.ntpSupervisor =
        a.ntpSupervisor := if_neg ntpInit_not_mem_drop
    refine ⟨⟨?_, ?_, ?_⟩, ?_⟩
    · rw [hsupervisor, h.synced]
      simp
    · rw [hsupervisor, h.started, hconcat]
      rw [step, notices_onWiFiDisconnected hlogger, List.any_append]
      exact (Bool.or_false _).symm
    · rw [hsupervisor, attempts_concat]
      exact h.syncAttempts
    · simp only [step, onWiFiDisconnected, sntpCalls_append, sntpCalls_wifi, sntpCalls_emit,
        List.nil_append]
      exact (if_neg fun hand => Bool.false_ne_true hand.1).symm
  | onSyncComplete =>
    have hsynced (n : NtpTimeSync) : n.onSyncComplete.synced = true := by
      unfold NtpTimeSync.onSyncComplete
      cases hn : n.synced with
      | true => exact hn
      | false => rfl
    refine ⟨⟨?_, ?_, ?_⟩, ?_⟩
    · rw [step, hsynced]
      simp
    · rw [hconcat, List.any_append]
      exact h.started.trans (Bool.or_false _).symm
    · rw [step, hsynced]
      rintro ⟨⟩
    · exact (if_neg fun hand => Bool.false_ne_true hand.1).symm

theorem clocked_booted (w : WiFiSetup) (radio₀ : Radio) :
    Clocked w radio₀ [] (booted w radio₀) := by
  have hno : .ntpInit ∉ ((⟨w, {}⟩ : WiFiManager).update 0 radio₀).2 :=
    fun hmem => booted_not_connected w radio₀ ((ntpInit_mem_update _ _ _).mp hmem).2
  have hsupervisor : (booted w radio₀).ntpSupervisor = {} := if_neg hno
  refine ⟨?_, ?_, fun _ => ?_⟩
  · rw [hsupervisor]
    rfl
  · rw [hsupervisor]
    rfl
  · rw [hsupervisor]
    rfl

theorem clocked_run (w : WiFiSetup) (radio₀ : Radio) (events : List AppEvent) :
    Clocked w radio₀ events (after step (booted w radio₀) events) := by
  induction events using List.reverseRecOn with
  | nil => exact clocked_booted w radio₀
  | append_singleton events e ih => exact (clocked_step ih).1

/-- Each of the budgeted attempts initialises the client, and nothing else does. -/
theorem clock_budget (w : WiFiSetup) (radio₀ : Radio) (events : List AppEvent) :
    sntpCalls (emitted step (booted w radio₀) events) =
      (List.replicate (budgeted (attempts w radio₀ events)) NtpTimeSync.initCalls).flatten := by
  induction events using List.reverseRecOn with
  | nil => rfl
  | append_singleton events e ih =>
    rw [emitted_concat, sntpCalls_append, ih, (clocked_step (clocked_run w radio₀ events)).2,
      attempts_concat]
    by_cases hwaits : waits w radio₀ events e = true
    · rw [if_pos hwaits, budgeted_succ]
      by_cases hle : (attempts w radio₀ events + 1) % 2 ^ 32 ≤ 3
      · rw [if_pos ⟨hwaits, hle⟩, if_pos hle, List.replicate_succ', List.flatten_concat]
      · rw [if_neg fun hand => hle hand.2, if_neg hle, Nat.add_zero, List.append_nil]
    · rw [if_neg fun hand => hwaits hand.1, if_neg hwaits, Nat.add_zero, List.append_nil]

end Clock

end FirmwareApp

end VehicleSpy.Firmware
