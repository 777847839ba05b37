import VehicleSpy.Machine.Run
import VehicleSpy.Firmware.WiFiManager

/-! # The resilient-auth campaign over whole runs

A campaign that has applied `k` strategies stands at strategy `k % 3` of pass `k / 3`.
Ticks keep this relation. An auth-failure event keeps it unless it arrives inside
the first pass, where the event handler goes back to the first strategy.
-/

namespace VehicleSpy.Firmware.AuthCampaign

open Machine WiFiConfig

/-- The strategy that a console line reports as applied. -/
def reportedStrategy : WiFiCall → Option ℤ
  | .printf (.strategy _ _ index _) => some index
  | _ => none

/-- The strategies that the manager reports as applied, in order. -/
def strategies (calls : List WiFiCall) : List ℤ := calls.filterMap reportedStrategy

section Calls

variable (w : WiFiSetup)

@[simp] theorem strategies_append (u v : List WiFiCall) :
    strategies (u ++ v) = strategies u ++ strategies v := List.filterMap_append

@[simp] theorem strategies_begin : strategies (beginWithKnownCredentials w) = [] := by
  unfold beginWithKnownCredentials
  cases (if determineCredentialSource w = .STORED_NVS then loadCredentialsImpl w.prefs else none)
  · cases w.bakedSsid <;> cases w.bakedPass <;> rfl
  · rfl

@[simp] theorem strategies_softAP : strategies startSoftAP = [] := rfl

@[simp] theorem strategies_applyAuthStrategy (index : ℤ) :
    strategies (applyAuthStrategy w index) = [] := by
  unfold applyAuthStrategy
  cases authStrategyAt index <;> cases campaignCredentials w <;> rfl

end Calls

/-- The rotation counters stay where they are and no strategy is applied. -/
structure Steady (ctx ctx' : WiFiContext) (calls : List WiFiCall) : Prop where
  index : ctx'.authFailStrategyIndex = ctx.authFailStrategyIndex
  loop : ctx'.authFailStrategyLoop = ctx.authFailStrategyLoop
  silent : strategies calls = []

section Handlers

variable {w : WiFiSetup} {now : UInt32} {radio : Radio} {ctx : WiFiContext}

theorem steady_disconnectedState :
    Steady ctx (DisconnectedStateHandler w now ctx).ctx
      (DisconnectedStateHandler w now ctx).calls := by
  unfold DisconnectedStateHandler
  cases determineCredentialSource w with
  | NONE => exact ⟨rfl, rfl, rfl⟩
  | STORED_NVS => cases loadCredentialsImpl w.prefs <;> exact ⟨rfl, rfl, rfl⟩
  | BAKED_IN => cases w.bakedSsid <;> cases w.bakedPass <;> exact ⟨rfl, rfl, rfl⟩

theorem steady_connectFailed {connectDuration : UInt32} :
    Steady ctx (ConnectingStateHandler.handleConnectFailed w now ctx connectDuration).ctx
      (ConnectingStateHandler.handleConnectFailed w now ctx connectDuration).calls := by
  unfold ConnectingStateHandler.handleConnectFailed
  dsimp only
  split
  · exact ⟨rfl, rfl, strategies_softAP⟩
  · split
    · exact ⟨rfl, rfl, strategies_begin w⟩
    · exact ⟨rfl, rfl, rfl⟩

theorem steady_idleStatus :
    Steady ctx (ConnectingStateHandler.handleIdleStatus w now ctx).ctx
      (ConnectingStateHandler.handleIdleStatus w now ctx).calls := by
  unfold ConnectingStateHandler.handleIdleStatus
  split
  · exact ⟨rfl, rfl, strategies_begin w⟩
  · exact ⟨rfl, rfl, rfl⟩

theorem steady_initialConnectTimeout :
    Steady ctx (ConnectingStateHandler.handleInitialConnectTimeout w ctx).ctx
      (ConnectingStateHandler.handleInitialConnectTimeout w ctx).calls := by
  unfold ConnectingStateHandler.handleInitialConnectTimeout
  dsimp only
  split
  · exact ⟨rfl, rfl, strategies_softAP⟩
  · split
    · exact ⟨rfl, rfl, strategies_softAP⟩
    · exact ⟨rfl, rfl, rfl⟩

theorem steady_anchor {n : UInt32} {ctx' : WiFiContext} {calls : List WiFiCall}
    (h : Steady (ConnectingStateHandler.anchor n ctx) ctx' calls) : Steady ctx ctx' calls := by
  unfold ConnectingStateHandler.anchor at h
  split at h
  · exact ⟨h.index, h.loop, h.silent⟩
  · exact h

/-- While the radio is not connected, the connecting handler leaves the rotation alone. -/
theorem steady_connectingState (hr : radio.status ≠ 3) :
    Steady ctx (ConnectingStateHandler.execute w now radio ctx).ctx
      (ConnectingStateHandler.execute w now radio ctx).calls := by
  refine steady_anchor (n := now) ?_
  unfold ConnectingStateHandler.execute
  simp only [if_neg hr]
  split
  · exact steady_connectFailed
  · split
    · exact steady_idleStatus
    · split
      · exact steady_initialConnectTimeout
      · exact ⟨rfl, rfl, rfl⟩

theorem steady_connectedSta :
    Steady ctx (ConnectedStaStateHandler now radio ctx).ctx
      (ConnectedStaStateHandler now radio ctx).calls := by
  unfold ConnectedStaStateHandler
  split <;> exact ⟨rfl, rfl, rfl⟩

theorem steady_connectedAp :
    Steady ctx (ConnectedApStateHandler w now ctx).ctx
      (ConnectedApStateHandler w now ctx).calls := by
  unfold ConnectedApStateHandler attemptApModeStaRecovery
  split
  · exact ⟨rfl, rfl, rfl⟩
  · split
    · exact ⟨rfl, rfl, rfl⟩
    · split
      · exact ⟨rfl, rfl, rfl⟩
      · exact ⟨rfl, rfl, strategies_begin w⟩

theorem steady_stateHandler (w : WiFiSetup) (now : UInt32) (ctx : WiFiContext)
    (hr : radio.status ≠ 3) :
    Steady ctx (WiFiManager.getStateHandler w now radio ctx).ctx
      (WiFiManager.getStateHandler w now radio ctx).calls := by
  unfold WiFiManager.getStateHandler
  split
  · exact steady_disconnectedState
  · exact steady_connectingState hr
  · exact steady_connectedSta
  all_goals exact steady_connectedAp

theorem steady_transition (radio : Radio) (ctx : WiFiContext) (t : StateTransition) :
    Steady ctx (WiFiManager.applyStateTransition radio ctx t).1
      (WiFiManager.applyStateTransition radio ctx t).2 := by
  unfold WiFiManager.applyStateTransition
  split
  · exact ⟨rfl, rfl, rfl⟩
  · refine ⟨rfl, rfl, ?_⟩
    cases t.setTcpServerRestartFlag <;> cases t.initNtp <;> rfl

end Handlers

/-- What one tick or event does to a campaign: nothing to the rotation, or one strategy. -/
structure Strike (w : WiFiSetup) (ctx ctx' : WiFiContext) (calls : List WiFiCall) : Prop where
  applied : applyAuthStrategy w ctx.authFailStrategyIndex <+: calls
  reported : strategies calls = [ctx.authFailStrategyIndex]
  index : ctx'.authFailStrategyIndex =
    if WIFI_AUTH_STRATEGY_COUNT ≤ ctx.authFailStrategyIndex + 1 then 0
    else ctx.authFailStrategyIndex + 1
  loop : ctx'.authFailStrategyLoop =
    if WIFI_AUTH_STRATEGY_COUNT ≤ ctx.authFailStrategyIndex + 1 then ctx.authFailStrategyLoop + 1
    else ctx.authFailStrategyLoop
  escalates : WIFI_AUTH_STRATEGY_LOOP_COUNT ≤ ctx'.authFailStrategyLoop →
    ctx'.state = .WIFI_AP_MODE_AUTH_FAIL ∧ ctx'.pendingAuthFail = false

section Step

variable {m : WiFiManager} {now : UInt32} {radio : Radio}

theorem advanceRotation_index (ctx : WiFiContext) :
    (advanceRotation now ctx).authFailStrategyIndex =
      if WIFI_AUTH_STRATEGY_COUNT ≤ ctx.authFailStrategyIndex + 1 then 0
      else ctx.authFailStrategyIndex + 1 := by
  simp [advanceRotation]

theorem advanceRotation_loop (ctx : WiFiContext) :
    (advanceRotation now ctx).authFailStrategyLoop =
      if WIFI_AUTH_STRATEGY_COUNT ≤ ctx.authFailStrategyIndex + 1 then ctx.authFailStrategyLoop + 1
      else ctx.authFailStrategyLoop := by
  simp [advanceRotation]

theorem strategies_applyCurrentStrategy (w : WiFiSetup) (ctx : WiFiContext) :
    strategies (applyCurrentStrategy w ctx) = [ctx.authFailStrategyIndex] := by
  rw [applyCurrentStrategy, strategies_append, strategies_applyAuthStrategy]
  rfl

theorem prefix_applyCurrentStrategy (w : WiFiSetup) (ctx : WiFiContext) (u : List WiFiCall) :
    applyAuthStrategy w ctx.authFailStrategyIndex <+: applyCurrentStrategy w ctx ++ u := by
  rw [applyCurrentStrategy, List.append_assoc]
  exact List.prefix_append _ _

/-- The active campaign's tick: wait, apply a strategy, or apply the last one and escalate. -/
theorem tick_cases (w : WiFiSetup) (now : UInt32) (ctx : WiFiContext) (hr : radio.status ≠ 3) :
    tick w now radio ctx = ⟨ctx, ⟨ctx.state, false, false⟩, []⟩ ∨
      ∃ c t u, tick w now radio ctx = ⟨c, t, applyCurrentStrategy w ctx ++ u⟩ ∧
        strategies u = [] ∧
        c.authFailStrategyIndex = (advanceRotation now ctx).authFailStrategyIndex ∧
        c.authFailStrategyLoop = (advanceRotation now ctx).authFailStrategyLoop ∧
        (WIFI_AUTH_STRATEGY_LOOP_COUNT ≤ c.authFailStrategyLoop →
          t.nextState = .WIFI_AP_MODE_AUTH_FAIL ∧ c.pendingAuthFail = false) := by
  simp only [tick, checkCampaignSuccess, if_pos hr]
  split
  · exact Or.inl rfl
  · right
    by_cases he : WIFI_AUTH_STRATEGY_LOOP_COUNT ≤ (advanceRotation now ctx).authFailStrategyLoop
    · simp only [checkExhaustion, isAuthCampaignExhausted, decide_eq_true he, if_true]
      exact ⟨_, _, _, rfl, rfl, rfl, rfl, fun _ => ⟨rfl, rfl⟩⟩
    · simp only [checkExhaustion, isAuthCampaignExhausted, decide_eq_false he, Bool.false_eq_true,
        if_false]
      exact ⟨_, _, [], by rw [List.append_nil], rfl, rfl, rfl, fun h => absurd h he⟩

/-- A tick of an unconnected radio keeps the rotation or applies its current strategy. -/
theorem update_cases (m : WiFiManager) (now : UInt32) (hr : radio.status ≠ 3) :
    Steady m.ctx (m.update now radio).1.ctx (m.update now radio).2 ∨
      Strike m.setup m.ctx (m.update now radio).1.ctx (m.update now radio).2 := by
  simp only [WiFiManager.update]
  split
  · rcases tick_cases m.setup now m.ctx hr with
      h | ⟨c, t, u, h, hc, hi, hl, he⟩
    · rw [h]
      exact Or.inl (steady_transition _ _ _)
    · rw [h]
      have ht := steady_transition radio c t
      right
      constructor
      · rw [List.append_assoc]
        exact prefix_applyCurrentStrategy _ _ _
      · rw [strategies_append, strategies_append, strategies_applyCurrentStrategy, hc, ht.silent]
        rfl
      · exact ht.index.trans (hi.trans (advanceRotation_index _))
      · exact ht.loop.trans (hl.trans (advanceRotation_loop _))
      · intro hx
        obtain ⟨hn, hp⟩ := he (ht.loop ▸ hx)
        exact ⟨WiFiManager.transition_state.trans hn,
          WiFiManager.transition_pendingAuthFail.trans hp⟩
  · have h := steady_stateHandler m.setup now m.ctx hr
    have ht := steady_transition radio (WiFiManager.getStateHandler m.setup now radio m.ctx).ctx
      (WiFiManager.getStateHandler m.setup now radio m.ctx).transition
    exact Or.inl ⟨ht.index.trans h.index, ht.loop.trans h.loop, by
      rw [strategies_append, h.silent, ht.silent, List.append_nil]⟩

end Step

section Run

variable {m t : WiFiManager} {k : ℕ} {w : List WiFiEvent}

/-- The inputs of a campaign whose radio is never connected: ticks and auth failures. -/
def Disturbs : WiFiEvent → Prop
  | .update _ radio => radio.status ≠ 3
  | .onDisconnected reason => isAuthMechanismFailure reason = true

instance : DecidablePred Disturbs
  | .update _ radio => inferInstanceAs (Decidable (radio.status ≠ 3))
  | .onDisconnected reason => inferInstanceAs (Decidable (isAuthMechanismFailure reason = true))

/-- An auth failure is not delivered inside the first pass of the campaign. -/
def PassStart (m : WiFiManager) : WiFiEvent → Prop
  | .update _ _ => True
  | .onDisconnected _ => m.ctx.authFailStrategyLoop = 0 → m.ctx.authFailStrategyIndex = 0

instance : ∀ m e, Decidable (PassStart m e)
  | _, .update _ _ => isTrue trivial
  | m, .onDisconnected _ => inferInstanceAs
      (Decidable (m.ctx.authFailStrategyLoop = 0 → m.ctx.authFailStrategyIndex = 0))

/-- What the input after `k` applied strategies may do: apply strategy `k % 3`, escalate with
the ninth one, and leave the rotation alone if it is an event. -/
structure OrderedStep (m : WiFiManager) (k : ℕ) (e : WiFiEvent) : Prop where
  ordered : strategies (m.step e).2 = [] ∨
    strategies (m.step e).2 = [((k % 3 : ℕ) : ℤ)] ∧
      applyAuthStrategy m.setup (k % 3 : ℕ) <+: (m.step e).2
  bounded : k = 8 → strategies (m.step e).2 ≠ [] →
    (m.step e).1.ctx.state = .WIFI_AP_MODE_AUTH_FAIL ∧ (m.step e).1.ctx.pendingAuthFail = false
  kept : ∀ reason, e = .onDisconnected reason →
    (m.step e).1.ctx.authFailStrategyIndex = m.ctx.authFailStrategyIndex ∧
      (m.step e).1.ctx.authFailStrategyLoop = m.ctx.authFailStrategyLoop

/-- Every input of the run meets the campaign's order and bound. -/
def CampaignOrdered (m : WiFiManager) (w : List WiFiEvent) : Prop :=
  ∀ u e v, w = u ++ e :: v →
    OrderedStep (after WiFiManager.step m u) (strategies (emitted WiFiManager.step m u)).length e

/-- The manager stands where a campaign stands after `k` strategies. -/
structure Rotation (w : WiFiSetup) (k : ℕ) (m : WiFiManager) : Prop where
  setup : m.setup = w
  index : m.ctx.authFailStrategyIndex = (k % 3 : ℕ)
  loop : m.ctx.authFailStrategyLoop = (k / 3 : ℕ)

theorem steady_onDisconnected {reason : ℤ} (hr : isAuthMechanismFailure reason = true) :
    Steady { m.ctx with authFailStrategyIndex :=
        if m.ctx.authFailStrategyLoop = 0 then 0 else m.ctx.authFailStrategyIndex }
      (m.onDisconnected reason).1.ctx (m.onDisconnected reason).2 := by
  simp only [WiFiManager.onDisconnected, if_pos hr]
  by_cases hl : m.ctx.authFailStrategyLoop = 0 <;>
    by_cases hs : m.ctx.state = .WIFI_CONNECTED <;>
      simp only [hl, hs, if_true, if_false] <;> exact ⟨rfl, rfl, rfl⟩

theorem steady_of_passStart {reason : ℤ} (hr : isAuthMechanismFailure reason = true)
    (hp : PassStart m (.onDisconnected reason)) :
    Steady m.ctx (m.onDisconnected reason).1.ctx (m.onDisconnected reason).2 := by
  have h := steady_onDisconnected (m := m) hr
  constructor
  · apply h.index.trans
    by_cases hl : m.ctx.authFailStrategyLoop = 0
    · exact (if_pos hl).trans (hp hl).symm
    · exact if_neg hl
  · exact h.loop
  · exact h.silent

theorem setup_step (e : WiFiEvent) : (m.step e).1.setup = m.setup := by
  cases e with
  | update now radio => rfl
  | onDisconnected reason =>
    simp only [WiFiManager.step, WiFiManager.onDisconnected]
    split
    · rfl
    · split <;> rfl

/-- A steady input keeps the rotation; a strike moves it to the next strategy. -/
theorem Rotation.step_cases {w : WiFiSetup} (h : Rotation w k m) {e : WiFiEvent}
    (hd : Disturbs e) (hp : PassStart m e) :
    Rotation w k (m.step e).1 ∧ Steady m.ctx (m.step e).1.ctx (m.step e).2 ∨
      Rotation w (k + 1) (m.step e).1 ∧ Strike m.setup m.ctx (m.step e).1.ctx (m.step e).2 ∧
        ∀ reason, e ≠ .onDisconnected reason := by
  have steady (hs : Steady m.ctx (m.step e).1.ctx (m.step e).2) : Rotation w k (m.step e).1 :=
    ⟨(setup_step e).trans h.setup, hs.index.trans h.index, hs.loop.trans h.loop⟩
  cases e with
  | onDisconnected reason =>
    have hs := steady_of_passStart hd hp
    exact Or.inl ⟨steady hs, hs⟩
  | update now radio =>
    rcases update_cases m now hd with hs | hs
    · exact Or.inl ⟨steady hs, hs⟩
    · have hnext : Rotation w (k + 1) (m.step (.update now radio)).1 := by
        constructor
        · exact (setup_step _).trans h.setup
        · apply hs.index.trans
          rw [h.index, WIFI_AUTH_STRATEGY_COUNT]
          split <;> omega
        · apply hs.loop.trans
          rw [h.index, h.loop, WIFI_AUTH_STRATEGY_COUNT]
          split <;> omega
      exact Or.inr ⟨hnext, hs, fun _ => WiFiEvent.noConfusion⟩

theorem Rotation.orderedStep {w : WiFiSetup} (h : Rotation w k m) {e : WiFiEvent}
    (hd : Disturbs e) (hp : PassStart m e) : OrderedStep m k e := by
  rcases h.step_cases hd hp with ⟨-, hs⟩ | ⟨hr, hs, hne⟩
  · exact ⟨Or.inl hs.silent, fun _ hx => absurd hs.silent hx, fun _ _ => ⟨hs.index, hs.loop⟩⟩
  · constructor
    · right
      rw [← h.index]
      exact ⟨hs.reported, hs.applied⟩
    · intro hk _
      apply hs.escalates
      rw [hr.loop, hk]
      decide
    · intro reason he
      exact absurd he (hne reason)

/-- Along a run without events inside the first pass, the counters count the strategies. -/
theorem rotation_run (hi : m.ctx.authFailStrategyIndex = 0) (hl : m.ctx.authFailStrategyLoop = 0)
    (hw : ∀ e ∈ w, Disturbs e) (hg : Guarded WiFiManager.step PassStart m w) :
    Rotation m.setup (strategies (emitted WiFiManager.step m w)).length
      (after WiFiManager.step m w) := by
  have hg' : Guarded WiFiManager.step (fun m e => PassStart m e ∧ Disturbs e) m w :=
    guarded_iff_forall.mpr fun u e v he =>
      ⟨guarded_iff_forall.mp hg u e v he, hw e (he ▸ by simp)⟩
  refine guarded_induction (I := fun _ t os => Rotation m.setup (strategies os).length t)
    ⟨rfl, by simpa [strategies] using hi, by simpa [strategies] using hl⟩ ?_ w hg'
  intro _ t os e ht ⟨hp, hd⟩
  rcases ht.step_cases hd hp with ⟨hr, hs⟩ | ⟨hr, hs, -⟩
  · rwa [strategies_append, hs.silent, List.append_nil]
  · rwa [strategies_append, hs.reported, List.length_append, List.length_singleton]

/-- A campaign is ordered and bounded exactly when no auth failure arrives inside its first
pass. -/
theorem campaignOrdered_iff (hi : m.ctx.authFailStrategyIndex = 0)
    (hl : m.ctx.authFailStrategyLoop = 0) (hw : ∀ e ∈ w, Disturbs e) :
    CampaignOrdered m w ↔ Guarded WiFiManager.step PassStart m w := by
  constructor
  · intro h
    apply guarded_iff_forall.mpr
    intro u e v he
    cases e with
    | update now radio => trivial
    | onDisconnected reason =>
      intro hz
      have hd : isAuthMechanismFailure reason = true := hw (.onDisconnected reason) (he ▸ by simp)
      have hk := ((h u _ v he).kept reason rfl).1
      rw [← hk]
      exact (steady_onDisconnected hd).index.trans (if_pos hz)
  · rintro hg u e v rfl
    obtain ⟨hu, hp, -⟩ := guarded_append.mp hg
    exact (rotation_run hi hl (fun e he => hw e (List.mem_append_left _ he)) hu).orderedStep
      (hw e (by simp)) hp

end Run

section Bench

/-- A manager with stored credentials, in the middle of connecting. -/
def bench : WiFiManager where
  setup := { prefs := fun
    | .credCount => some (Text.ascii "1")
    | .ssid => some (Text.ascii "manht2")
    | .pass => some (Text.ascii "secret99") }
  ctx := { state := .WIFI_CONNECTING }

def searching : Radio := ⟨6, Text.ascii "0.0.0.0"⟩

/-- One auth failure starts the campaign, another one arrives after the first pass. -/
def wholeCampaign : List WiFiEvent :=
  .onDisconnected 202 :: [1000, 2000, 3000].map (.update · searching) ++
    .onDisconnected 15 :: [4000, 5000, 11000, 17000, 23000, 29000].map (.update · searching)

theorem campaignOrdered_wholeCampaign :
    CampaignOrdered bench wholeCampaign ∧
      strategies (emitted WiFiManager.step bench wholeCampaign) = [0, 1, 2, 0, 1, 2, 0, 1, 2] :=
  ⟨(campaignOrdered_iff rfl rfl (by decide)).mpr (by decide +kernel), by decide +kernel⟩

/-- Each auth failure in the first pass goes back to the first strategy. -/
def repeatedFailure : List WiFiEvent :=
  [.onDisconnected 202, .update 1000 searching, .onDisconnected 202, .update 2000 searching]

theorem not_campaignOrdered_repeatedFailure :
    bench.ctx.state = .WIFI_CONNECTING ∧ bench.ctx.authFailStrategyIndex = 0 ∧
      bench.ctx.authFailStrategyLoop = 0 ∧ (∀ e ∈ repeatedFailure, Disturbs e) ∧
      ¬ CampaignOrdered bench repeatedFailure := by
  refine ⟨rfl, rfl, rfl, by decide, ?_⟩
  intro h
  have hstep := h (repeatedFailure.take 3) (.update 2000 searching) [] rfl
  exact absurd hstep.ordered (by decide +kernel)

end Bench

end VehicleSpy.Firmware.AuthCampaign
