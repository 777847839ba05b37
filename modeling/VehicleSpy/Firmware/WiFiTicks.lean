import VehicleSpy.Machine.Run
import VehicleSpy.Firmware.WiFiManager

/-! # What one tick of the WiFi manager can do

A tick waits, retries, connects, notices a drop, falls back to the access point or
leaves it again, or moves an auth campaign on. Every case carries the condition under
which the manager takes it. A disconnect event starts a campaign, drops a live
connection, or is only noted.
-/

namespace VehicleSpy.Firmware

open Machine WiFiConfig

/-- The outcomes of one tick, before the transition is applied. -/
inductive Tick (w : WiFiSetup) (now : UInt32) (radio : Radio) (ctx : WiFiContext) :
    HandlerResult → Prop where

  | wait {start retry : UInt32} {pending : Bool} :
      Tick w now radio ctx
        ⟨{ ctx with
            connectStartTime := start, reconnectPending := pending, apModeStaRetryMs := retry },
          ⟨ctx.state, false, false⟩, []⟩

  | connect {ssid pass : Text.Bytes} : ctx.state = .WIFI_DISCONNECTED →
      Tick w now radio ctx
        ⟨{ ctx with connectStartTime := now, lastRetryMs := now }, ⟨.WIFI_CONNECTING, false, false⟩,
          [.setMode 1, .setHostname HOSTNAME, .begin ssid pass]⟩

  | retry {start : UInt32} {pending : Bool} (reset : List WiFiCall) :
      ctx.state = .WIFI_CONNECTING → (∀ c ∈ reset, c = .disconnect false true) →
      Tick w now radio ctx
        ⟨{ ctx with
            connectStartTime := start, reconnectPending := pending, lastRetryMs := now,
            reconnectAttempts := ctx.reconnectAttempts + 1 },
          ⟨ctx.state, false, false⟩, reset ++ beginWithKnownCredentials w⟩

  | connected {start : UInt32} : radio.status = 3 →
      ctx.pendingAuthFail = true ∨ ctx.state = .WIFI_CONNECTING →
      Tick w now radio ctx
        ⟨connectedReset { ctx with connectStartTime := start },
          ⟨.WIFI_CONNECTED,
            shouldRestartTcpServerForReconnect radio.localIP ctx.lastConnectedIp
              (if 0 < ctx.disconnectStartMs then now - ctx.disconnectStartMs else 0), true⟩,
          [.discoveryReset]⟩

  | dropped : ctx.state = .WIFI_CONNECTED →
      Tick w now radio ctx
        ⟨{ ctx with reconnectPending := true, disconnectStartMs := now },
          ⟨.WIFI_CONNECTING, false, false⟩, []⟩

  | fallback {start : UInt32} {pending : Bool} {reason : ℤ} {ap : WiFiState} :
      ctx.state = .WIFI_DISCONNECTED ∨ ctx.state = .WIFI_CONNECTING → isApModeState ap = true →
      Tick w now radio ctx
        ⟨{ ctx with
            connectStartTime := start, reconnectPending := pending, escalatedToApReason := reason },
          ⟨ap, false, false⟩, startSoftAP⟩

  | recover : isApModeState ctx.state = true →
      Tick w now radio ctx
        ⟨{ ctx with apModeStaRetryMs := now, connectStartTime := now, lastRetryMs := now },
          ⟨.WIFI_CONNECTING, false, false⟩, .setMode 1 :: beginWithKnownCredentials w⟩

  | strategy : ctx.pendingAuthFail = true → radio.status ≠ 3 →
      shouldRetryWiFi .WIFI_CONNECTING now ctx.lastRetryMs ctx.reconnectAttempts = true →
      (AuthCampaign.advanceRotation now ctx).authFailStrategyLoop < WIFI_AUTH_STRATEGY_LOOP_COUNT →
      Tick w now radio ctx
        ⟨AuthCampaign.advanceRotation now ctx, ⟨ctx.state, false, false⟩,
          AuthCampaign.applyCurrentStrategy w ctx⟩

  | exhausted : ctx.pendingAuthFail = true →
      Tick w now radio ctx
        ⟨{ AuthCampaign.advanceRotation now ctx with
            pendingAuthFail := false, escalatedToApReason := ctx.lastDisconnectReason },
          ⟨.WIFI_AP_MODE_AUTH_FAIL, false, false⟩,
          AuthCampaign.applyCurrentStrategy w ctx ++
            (startSoftAP ++ [.printf (.exhausted ctx.state ctx.lastDisconnectReason)])⟩

/-- What a disconnect event does to the context. -/
inductive Drop (reason : ℤ) (ctx : WiFiContext) : WiFiContext → Prop where

  | authLive {index : ℤ} : isAuthMechanismFailure reason = true → ctx.state = .WIFI_CONNECTED →
      Drop reason ctx
        { ctx with
          state := .WIFI_CONNECTING, lastDisconnectReason := reason, pendingAuthFail := true,
          tcpServerNeedsRestart := false, authFailStrategyIndex := index, reconnectAttempts := 0,
          reconnectPending := true, lastRetryMs := 0 }

  | auth {index : ℤ} : isAuthMechanismFailure reason = true → ctx.state ≠ .WIFI_CONNECTED →
      Drop reason ctx
        { ctx with
          lastDisconnectReason := reason, pendingAuthFail := true, tcpServerNeedsRestart := false,
          authFailStrategyIndex := index, lastRetryMs := 0 }

  | link : ctx.state = .WIFI_CONNECTED →
      Drop reason ctx
        { ctx with
          state := .WIFI_CONNECTING, lastDisconnectReason := reason, tcpServerNeedsRestart := true,
          lastRetryMs := 0, reconnectAttempts := 0, reconnectPending := true }

  | noted : ctx.state ≠ .WIFI_CONNECTED →
      Drop reason ctx { ctx with lastDisconnectReason := reason }

section Handlers

variable {w : WiFiSetup} {now : UInt32} {radio : Radio} {ctx : WiFiContext}

theorem tick_disconnected (hs : ctx.state = .WIFI_DISCONNECTED) :
    Tick w now radio ctx (DisconnectedStateHandler w now ctx) := by
  unfold DisconnectedStateHandler
  cases determineCredentialSource w with
  | NONE => exact .fallback (Or.inl hs) rfl
  | STORED_NVS =>
    cases loadCredentialsImpl w.prefs with
    | none => exact .wait
    | some p => exact .connect hs
  | BAKED_IN =>
    cases w.bakedSsid with
    | none => exact .wait
    | some ssid =>
      cases w.bakedPass with
      | none => exact .wait
      | some pass => exact .connect hs

/-- The anchored context differs from the context in the connect budget only. -/
theorem anchor_eq (now : UInt32) (ctx : WiFiContext) :
    ConnectingStateHandler.anchor now ctx =
      { ctx with
        connectStartTime := (ConnectingStateHandler.anchor now ctx).connectStartTime
        reconnectPending := (ConnectingStateHandler.anchor now ctx).reconnectPending } := by
  unfold ConnectingStateHandler.anchor
  split <;> rfl

theorem tick_connecting (hs : ctx.state = .WIFI_CONNECTING) :
    Tick w now radio ctx (ConnectingStateHandler.execute w now radio ctx) := by
  unfold ConnectingStateHandler.execute
  rw [anchor_eq]
  generalize (ConnectingStateHandler.anchor now ctx).connectStartTime = start
  generalize (ConnectingStateHandler.anchor now ctx).reconnectPending = pending
  dsimp only
  split
  · next h3 => exact .connected h3 (Or.inr hs)
  · split
    · unfold ConnectingStateHandler.handleConnectFailed
      dsimp only
      split
      · refine .fallback (Or.inr hs) ?_
        split <;> rfl
      · split
        · exact .retry [.disconnect false true] hs (by simp)
        · exact .wait
    · split
      · unfold ConnectingStateHandler.handleIdleStatus
        split
        · exact .retry [] hs (by simp)
        · exact .wait
      · split
        · unfold ConnectingStateHandler.handleInitialConnectTimeout
          dsimp only
          split
          · exact .fallback (Or.inr hs) rfl
          · split
            · exact .fallback (Or.inr hs) rfl
            · rw [← hs]
              exact .wait
        · exact .wait

theorem tick_connectedSta (hs : ctx.state = .WIFI_CONNECTED) :
    Tick w now radio ctx (ConnectedStaStateHandler now radio ctx) := by
  unfold ConnectedStaStateHandler
  split
  · exact .dropped hs
  · exact .wait

theorem tick_connectedAp (hs : isApModeState ctx.state = true) :
    Tick w now radio ctx (ConnectedApStateHandler w now ctx) := by
  unfold ConnectedApStateHandler attemptApModeStaRecovery
  split
  · exact .wait
  · split
    · exact .wait
    · split
      · exact .wait
      · exact .recover hs

theorem tick_stateHandler : Tick w now radio ctx (WiFiManager.getStateHandler w now radio ctx) := by
  unfold WiFiManager.getStateHandler
  split
  · next hs => exact tick_disconnected hs
  · next hs => exact tick_connecting hs
  · next hs => exact tick_connectedSta hs
  all_goals next hs => exact tick_connectedAp (by rw [hs]; rfl)

theorem tick_campaign (hp : ctx.pendingAuthFail = true) :
    Tick w now radio ctx (AuthCampaign.tick w now radio ctx) := by
  unfold AuthCampaign.tick AuthCampaign.checkCampaignSuccess
  by_cases h3 : radio.status = 3
  · simp only [h3, ne_eq, not_true_eq_false, if_false]
    exact .connected h3 (Or.inl hp)
  · simp only [ne_eq, h3, not_false_eq_true, if_true]
    split
    · exact .wait
    · next hd =>
      simp only [AuthCampaign.checkExhaustion, isAuthCampaignExhausted]
      by_cases he : WIFI_AUTH_STRATEGY_LOOP_COUNT ≤
          (AuthCampaign.advanceRotation now ctx).authFailStrategyLoop
      · simp only [he, decide_true, if_true]
        exact .exhausted hp
      · simp only [he, decide_false, Bool.false_eq_true, if_false]
        exact .strategy hp h3 (by simpa using hd) (Int.not_le.mp he)

/-- A handler leaves the state to the transition. -/
theorem Tick.state_eq {r : HandlerResult} (h : Tick w now radio ctx r) :
    r.ctx.state = ctx.state := by
  cases h <;> rfl

end Handlers

namespace WiFiManager

variable {m : WiFiManager} {now : UInt32} {radio : Radio}

/-- The manager after a run from its construction. -/
def reached (w : WiFiSetup) (u : List WiFiEvent) : WiFiManager := after step ⟨w, {}⟩ u

@[simp] theorem reached_concat (w : WiFiSetup) (u : List WiFiEvent) (e : WiFiEvent) :
    reached w (u ++ [e]) = ((reached w u).step e).1 := after_concat step ⟨w, {}⟩ u e

/-- What a tick asks for: the campaign's answer while one is active, else the handler's. -/
def answer (m : WiFiManager) (now : UInt32) (radio : Radio) : HandlerResult :=
  if m.ctx.pendingAuthFail then AuthCampaign.tick m.setup now radio m.ctx
  else getStateHandler m.setup now radio m.ctx

theorem tick_answer (m : WiFiManager) (now : UInt32) (radio : Radio) :
    Tick m.setup now radio m.ctx (m.answer now radio) := by
  unfold answer
  split
  · next hp => exact tick_campaign hp
  · exact tick_stateHandler

theorem update_eq (m : WiFiManager) (now : UInt32) (radio : Radio) :
    m.update now radio =
      (⟨m.setup, (applyStateTransition radio (m.answer now radio).ctx
        (m.answer now radio).transition).1⟩,
      (m.answer now radio).calls ++ (applyStateTransition radio (m.answer now radio).ctx
        (m.answer now radio).transition).2) := rfl

theorem drop_onDisconnected (m : WiFiManager) (reason : ℤ) :
    Drop reason m.ctx (m.onDisconnected reason).1.ctx := by
  simp only [onDisconnected]
  split
  · next hr =>
    by_cases hs : m.ctx.state = .WIFI_CONNECTED
    · by_cases hl : m.ctx.authFailStrategyLoop = 0
      · simp only [if_pos hl, if_pos hs]
        exact .authLive hr hs
      · simp only [if_neg hl, if_pos hs]
        exact .authLive hr hs
    · by_cases hl : m.ctx.authFailStrategyLoop = 0
      · simp only [if_pos hl, if_neg hs]
        exact .auth hr hs
      · simp only [if_neg hl, if_neg hs]
        exact .auth hr hs
  · split
    · next hs => exact .link hs
    · next hs => exact .noted hs

@[simp] theorem setup_onDisconnected (m : WiFiManager) (reason : ℤ) :
    (m.onDisconnected reason).1.setup = m.setup := by
  simp only [onDisconnected]
  split
  · rfl
  · split <;> rfl

/-- A disconnect event only prints. -/
theorem mem_onDisconnected_calls {m : WiFiManager} {reason : ℤ} {c : WiFiCall}
    (hc : c ∈ (m.onDisconnected reason).2) : ∃ trace, c = .printf trace := by
  simp only [onDisconnected] at hc
  split at hc
  · exact ⟨_, List.mem_singleton.mp hc⟩
  · split at hc
    · exact ⟨_, List.mem_singleton.mp hc⟩
    · cases hc

section Transition

variable {ctx : WiFiContext} {t : StateTransition}

/-- A handler that stays in its state leaves everything as the handler left it. -/
theorem transition_stay : applyStateTransition radio ctx ⟨ctx.state, false, false⟩ = (ctx, []) :=
  if_pos rfl

/-- A transition only prints, re-binds the server and starts the clock. -/
theorem mem_transition_calls {c : WiFiCall} (hc : c ∈ (applyStateTransition radio ctx t).2) :
    (∃ src dst, c = .printf (.transition src dst)) ∨ c = .tcpServerRestart ∨ c = .ntpInit := by
  unfold applyStateTransition at hc
  split at hc
  · cases hc
  · rcases List.mem_cons.mp hc with rfl | hc
    · exact Or.inl ⟨_, _, rfl⟩
    · rcases List.mem_append.mp hc with hc | hc
      · split at hc
        · exact Or.inr (Or.inl (List.mem_singleton.mp hc))
        · cases hc
      · split at hc
        · exact Or.inr (Or.inr (List.mem_singleton.mp hc))
        · cases hc

end Transition

end WiFiManager

section Bench

/-- A device with stored credentials. -/
def home : WiFiSetup where
  prefs := fun
    | .credCount => some (Text.ascii "1")
    | .ssid => some (Text.ascii "manht2")
    | .pass => some (Text.ascii "secret99")

/-- A radio that reports a wifi status and has no address. -/
def unaddressed (status : ℤ) : Radio := ⟨status, Text.ascii "0.0.0.0"⟩

/-- A radio that is connected with an address. -/
def addressed (ip : String) : Radio := ⟨3, Text.ascii ip⟩

end Bench

end VehicleSpy.Firmware
