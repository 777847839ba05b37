import VehicleSpy.Firmware.ConnectBudget
import VehicleSpy.Firmware.CredentialStore

/-! # Leaving the disconnected state

A machine that is disconnected has neither a station nor an access point. Its tick reads the
count of the stored credentials to choose where they come from, and two other keys to load
them: where the count is marked and nothing can be loaded, it makes no call and stays. An
auth campaign that a disconnect event has started takes the tick over.
-/

namespace VehicleSpy.Firmware.Departure

open Text Machine WiFiConfig WiFiManager CredentialStore ConnectBudget

/-- A manager's setup: the baked pointers are read up to their terminators. -/
def bakedSetup (prefs : Nvs) (bakedSsid bakedPass : Option Bytes) : WiFiSetup :=
  ⟨prefs, bakedSsid.map cString, bakedPass.map cString⟩

/-- The radio is handed C strings. -/
def beginsStation : WiFiCall → Bool
  | .begin ssid pass => cString ssid ≠ [] ∧ cString pass ≠ []
  | _ => false

def startsAccessPoint : WiFiCall → Bool
  | .softAP _ _ => true
  | _ => false

/-- The machine ends in `WIFI_CONNECTING` and has begun to connect with credentials, or it ends
in an access-point state and has started the access point. -/
def Leaves (state : WiFiState) (calls : List WiFiCall) : Prop :=
  state = .WIFI_CONNECTING ∧ calls.any beginsStation = true ∨
    isApModeState state = true ∧ calls.any startsAccessPoint = true

instance (state : WiFiState) (calls : List WiFiCall) : Decidable (Leaves state calls) :=
  inferInstanceAs (Decidable (_ ∨ _))

def Departs (m : WiFiManager) (now : UInt32) (radio : Radio) : Prop :=
  Leaves (m.update now radio).1.ctx.state (m.update now radio).2

instance (m : WiFiManager) (now : UInt32) (radio : Radio) : Decidable (Departs m now radio) :=
  inferInstanceAs (Decidable (Leaves _ _))

/-- Where the count is marked, a name and a password can be read. -/
def Loadable (prefs : Nvs) : Prop :=
  hasStoredCredentials prefs →
    cString (prefs.getString .ssid) ≠ [] ∧ cString (prefs.getString .pass) ≠ []

/-- A campaign's tick is due, and it is the last one. -/
structure LastAttempt (ctx : WiFiContext) (now : UInt32) (radio : Radio) : Prop where
  unconnected : radio.status ≠ 3
  due : shouldRetryWiFi .WIFI_CONNECTING now ctx.lastRetryMs ctx.reconnectAttempts = true
  last : isAuthCampaignExhausted (AuthCampaign.advanceRotation now ctx).authFailStrategyIndex
    (AuthCampaign.advanceRotation now ctx).authFailStrategyLoop = true

/-- What a tick departs on. -/
def Ready (m : WiFiManager) (now : UInt32) (radio : Radio) : Prop :=
  if m.ctx.pendingAuthFail then LastAttempt m.ctx now radio else Loadable m.setup.prefs

section Answer

variable {m : WiFiManager} {now : UInt32} {radio : Radio} {ctx : WiFiContext} {prefs : Nvs}

theorem cString_cString (s : Bytes) : cString (cString s) = cString s := by
  rw [cString, cString, List.takeWhile_takeWhile]
  simp

theorem loadCredentialsImpl_none (h : loadCredentialsImpl prefs = none) :
    prefs.getString .ssid = [] ∨ prefs.getString .pass = [] := by
  unfold loadCredentialsImpl at h
  split at h
  · cases h
  · next hlen =>
    simp only [Nvs.getBytesLength, Nvs.getString, List.length_pos_iff] at hlen ⊢
    exact or_iff_not_and_not.mpr hlen

theorem loadCredentialsImpl_some {p : Bytes × Bytes} (h : loadCredentialsImpl prefs = some p) :
    p = (prefs.getString .ssid, prefs.getString .pass) := by
  unfold loadCredentialsImpl at h
  split at h
  · exact (Option.some.inj h).symm
  · cases h

/-- The transition itself makes none of the calls: the answer of the handler decides. -/
theorem departs_iff_answer : Departs m now radio ↔
    Leaves (m.answer now radio).transition.nextState (m.answer now radio).calls := by
  have hnone (p : WiFiCall → Bool) (hprint : ∀ trace, p (.printf trace) = false)
      (hrestart : p .tcpServerRestart = false) (hntp : p .ntpInit = false) :
      (applyStateTransition radio (m.answer now radio).ctx
        (m.answer now radio).transition).2.any p = false := by
    apply List.any_eq_false.mpr
    intro c hc
    rcases mem_transition_calls hc with ⟨src, dst, rfl⟩ | rfl | rfl
    · exact ne_true_of_eq_false (hprint _)
    · exact ne_true_of_eq_false hrestart
    · exact ne_true_of_eq_false hntp
  have hbegins := hnone beginsStation (fun _ => rfl) rfl rfl
  have hstarts := hnone startsAccessPoint (fun _ => rfl) rfl rfl
  simp only [Departs, Leaves, update_eq, transition_state, List.any_append, hbegins, hstarts,
    Bool.or_false]

theorem leaves_stored (hs : ctx.state = .WIFI_DISCONNECTED) {w : WiFiSetup}
    (hw : hasStoredCredentials w.prefs) :
    Leaves (DisconnectedStateHandler w now ctx).transition.nextState
        (DisconnectedStateHandler w now ctx).calls ↔
      cString (w.prefs.getString .ssid) ≠ [] ∧ cString (w.prefs.getString .pass) ≠ [] := by
  simp only [DisconnectedStateHandler, determineCredentialSource_stored hw]
  cases hl : loadCredentialsImpl w.prefs with
  | none =>
    have hempty : ¬ (cString (w.prefs.getString .ssid) ≠ [] ∧
        cString (w.prefs.getString .pass) ≠ []) := by
      rintro ⟨hssid, hpass⟩
      rcases loadCredentialsImpl_none hl with h | h
      · exact hssid (by rw [h]; rfl)
      · exact hpass (by rw [h]; rfl)
    refine iff_of_false ?_ hempty
    simp [Leaves, hs, isApModeState]
  | some p =>
    obtain rfl := loadCredentialsImpl_some hl
    simp [Leaves, beginsStation, isApModeState]

theorem leaves_unstored {bakedSsid bakedPass : Option Bytes} (hw : ¬ hasStoredCredentials prefs) :
    Leaves (DisconnectedStateHandler (bakedSetup prefs bakedSsid bakedPass) now
        ctx).transition.nextState
      (DisconnectedStateHandler (bakedSetup prefs bakedSsid bakedPass) now ctx).calls := by
  have hcount : ¬ 0 < (bakedSetup prefs bakedSsid bakedPass).prefs.getBytesLength .credCount := hw
  unfold DisconnectedStateHandler determineCredentialSource
  rw [if_neg hcount]
  by_cases hb : (bakedSetup prefs bakedSsid bakedPass).baked.isSome = true
  · rw [if_pos hb]
    unfold WiFiSetup.baked bakedSetup at hb
    rcases bakedSsid with _ | ssid
    · simp at hb
    · rcases bakedPass with _ | pass
      · simp at hb
      · have hne : cString ssid ≠ [] ∧ cString pass ≠ [] := by simpa using hb
        simp [Leaves, bakedSetup, beginsStation, cString_cString, hne]
  · rw [if_neg hb]
    exact Or.inr ⟨rfl, rfl⟩

theorem leaves_campaign_iff (hs : ctx.state = .WIFI_DISCONNECTED) {w : WiFiSetup} :
    Leaves (AuthCampaign.tick w now radio ctx).transition.nextState
      (AuthCampaign.tick w now radio ctx).calls ↔ LastAttempt ctx now radio := by
  unfold AuthCampaign.tick AuthCampaign.checkCampaignSuccess
  by_cases h3 : radio.status = 3
  · refine iff_of_false ?_ fun h => h.unconnected h3
    simp [h3, Leaves, isApModeState]
  · rw [if_pos h3]
    dsimp only
    split
    · next hd =>
      refine iff_of_false ?_ fun h => ?_
      · simp [Leaves, hs, isApModeState]
      · rw [h.due] at hd
        cases hd
    · next hd =>
      have hdue : shouldRetryWiFi .WIFI_CONNECTING now ctx.lastRetryMs ctx.reconnectAttempts =
        true := by simpa using hd
      unfold AuthCampaign.checkExhaustion
      split
      · next r hr =>
        split at hr
        · next hlast =>
          obtain rfl := Option.some.inj hr
          refine iff_of_true (Or.inr ⟨rfl, ?_⟩) ⟨h3, hdue, hlast⟩
          simp [startSoftAP, startsAccessPoint]
        · cases hr
      · next hr =>
        split at hr
        · cases hr
        · next hlast =>
          refine iff_of_false ?_ fun h => hlast h.last
          have hstate : (AuthCampaign.advanceRotation now ctx).state = .WIFI_DISCONNECTED := hs
          simp [Leaves, hstate, isApModeState]

end Answer

theorem departs_iff {prefs : Nvs} {bakedSsid bakedPass : Option Bytes} {ctx : WiFiContext}
    (hs : ctx.state = .WIFI_DISCONNECTED) (now : UInt32) (radio : Radio) :
    Departs ⟨bakedSetup prefs bakedSsid bakedPass, ctx⟩ now radio ↔
      Ready ⟨bakedSetup prefs bakedSsid bakedPass, ctx⟩ now radio := by
  rw [departs_iff_answer, answer, Ready]
  by_cases hp : ctx.pendingAuthFail = true
  · simp only [if_pos hp]
    exact leaves_campaign_iff hs
  · simp only [if_neg hp, getStateHandler, hs]
    by_cases hw : hasStoredCredentials prefs
    · refine (leaves_stored hs hw).trans ?_
      exact ⟨fun h _ => h, fun h => h hw⟩
    · exact iff_of_true (leaves_unstored hw) fun h => absurd h hw

section Runs

variable {m : WiFiManager} {reason : ℤ}

/-- No event of a device leads back. -/
theorem onDevice_ne (h : m.ctx.state ≠ .WIFI_DISCONNECTED) (e : DeviceEvent) :
    (onDevice m e).ctx.state ≠ .WIFI_DISCONNECTED := by
  cases e with
  | rewrite prefs => exact h
  | drop reason =>
    have hdrop := drop_onDisconnected m reason
    rw [onDevice]
    generalize (m.onDisconnected reason).1.ctx = ctx at hdrop ⊢
    cases hdrop with
    | authLive | link => exact WiFiState.noConfusion
    | auth | noted => exact h
  | tick ms radio =>
    have htick := tick_answer m (.ofNat ms) radio
    rw [onDevice, update_eq]
    simp only [transition_state]
    generalize m.answer (.ofNat ms) radio = r at htick ⊢
    cases htick with
    | connect hs => exact absurd hs h
    | wait | retry | strategy => exact h
    | connected | dropped | recover | exhausted => exact WiFiState.noConfusion
    | fallback _ hap =>
      rintro rfl
      cases hap

theorem departed_for_good (h : m.ctx.state ≠ .WIFI_DISCONNECTED) (later : List DeviceEvent) :
    (later.foldl onDevice m).ctx.state ≠ .WIFI_DISCONNECTED := by
  induction later generalizing m with
  | nil => exact h
  | cons e later ih => exact ih (onDevice_ne h e)

/-- The count is marked, nothing can be loaded and no campaign is active. -/
structure Stuck (m : WiFiManager) : Prop where
  state : m.ctx.state = .WIFI_DISCONNECTED
  unforced : m.ctx.pendingAuthFail = false
  marked : determineCredentialSource m.setup = .STORED_NVS
  unloadable : loadCredentialsImpl m.setup.prefs = none

theorem Stuck.update (h : Stuck m) (now : UInt32) (radio : Radio) :
    m.update now radio = (m, []) := by
  have hanswer : m.answer now radio = ⟨m.ctx, ⟨m.ctx.state, false, false⟩, []⟩ := by
    simp only [answer, h.unforced, Bool.false_eq_true, if_false, getStateHandler, h.state,
      DisconnectedStateHandler, h.marked, h.unloadable]
  rw [update_eq, hanswer, transition_stay]
  rfl

theorem Stuck.onDisconnected (h : Stuck m) (hr : isAuthMechanismFailure reason = false) :
    m.onDisconnected reason =
      ({ m with ctx := { m.ctx with lastDisconnectReason := reason } }, []) := by
  simp [WiFiManager.onDisconnected, hr, h.state]

/-- Such a machine stays as it is and makes no call, until a disconnect event of the auth
mechanism. -/
theorem Stuck.run (h : Stuck m) (events : List WiFiEvent)
    (hlink : ∀ reason, .onDisconnected reason ∈ events → isAuthMechanismFailure reason = false) :
    Stuck (after step m events) ∧ emitted step m events = [] := by
  induction events generalizing m with
  | nil => exact ⟨h, rfl⟩
  | cons e events ih =>
    have hrest : ∀ reason, .onDisconnected reason ∈ events →
        isAuthMechanismFailure reason = false :=
      fun reason hmem => hlink reason (List.mem_cons_of_mem _ hmem)
    rw [after_cons, emitted_cons]
    cases e with
    | update now radio =>
      rw [step, h.update]
      exact ih h hrest
    | onDisconnected reason =>
      rw [step, h.onDisconnected (hlink reason List.mem_cons_self)]
      exact ih ⟨h.state, h.unforced, h.marked, h.unloadable⟩ hrest

/-- A device that knows no network and whose write of the name fails is stuck after its
restart. -/
theorem stuck_of_nameFailed {fails : NvsKey → Bool} (hcount : fails .credCount = false)
    (hname : fails .ssid = true) (hnew : loadCredentialsImpl m.setup.prefs = none)
    (ssid pass : Bytes) : Stuck ⟨(m.storeCredentials fails ssid pass).1.setup, {}⟩ := by
  have houtcome : Outcome fails (cString ssid) (cString pass) m.setup
      (m.storeCredentials fails ssid pass).1.setup (m.storeCredentials fails ssid pass).2 :=
    outcome_of_written (written_putCredentials _ _ _ _)
  generalize (m.storeCredentials fails ssid pass).2 = success at houtcome
  cases houtcome with
  | countFailed hc => exact absurd (hcount.symm.trans hc) Bool.false_ne_true
  | nameFailed _ _ hmarked hload => exact ⟨rfl, rfl, hmarked, hload.trans hnew⟩
  | nameEmpty _ hs | passFailed _ hs | passEmpty _ hs | stored _ hs =>
    exact absurd (hs.symm.trans hname) Bool.false_ne_true

end Runs

/-- One tick of a disconnected machine departs, and for good, just when it is ready. -/
theorem departs_for_good_iff {prefs : Nvs} {bakedSsid bakedPass : Option Bytes}
    {ctx : WiFiContext} (hs : ctx.state = .WIFI_DISCONNECTED) (now : UInt32) (radio : Radio) :
    (Departs ⟨bakedSetup prefs bakedSsid bakedPass, ctx⟩ now radio ∧
      ∀ later : List DeviceEvent,
        (later.foldl onDevice (WiFiManager.update ⟨bakedSetup prefs bakedSsid bakedPass, ctx⟩ now
          radio).1).ctx.state ≠ .WIFI_DISCONNECTED) ↔
      Ready ⟨bakedSetup prefs bakedSsid bakedPass, ctx⟩ now radio := by
  rw [← departs_iff hs]
  refine and_iff_left_of_imp fun hdeparts later => departed_for_good ?_ later
  rcases hdeparts with ⟨hstate, -⟩ | ⟨hap, -⟩
  · rw [hstate]
    exact WiFiState.noConfusion
  · intro hstate
    rw [hstate] at hap
    cases hap

section Bench

/-- The content that an interrupted write leaves on a new device. -/
def marked : Nvs
  | .credCount => some (ascii "1")
  | _ => none

theorem departs_for_good_unmarked :
    Departs ⟨bakedSetup (fun _ => none) none none, {}⟩ 0 (unaddressed 6) ∧
      ∀ later : List DeviceEvent,
        (later.foldl onDevice (WiFiManager.update ⟨bakedSetup (fun _ => none) none none, {}⟩ 0
          (unaddressed 6)).1).ctx.state ≠ .WIFI_DISCONNECTED :=
  (departs_for_good_iff rfl 0 (unaddressed 6)).mpr fun h => absurd h (by decide)

/-- The count without a name and a password: no station and no access point. -/
theorem not_departs_marked : ¬ Departs ⟨bakedSetup marked none none, {}⟩ 0 (unaddressed 6) := by
  decide

end Bench

end VehicleSpy.Firmware.Departure
