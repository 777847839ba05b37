import VehicleSpy.Firmware.WiFiTicks

/-! # The access-point states and the radio

Every way into an access-point state ends with the radio as an access point, and the
state handler leaves such a state for a connection attempt only. What can part the state
from the radio is a campaign that is active in an access-point state.
-/

namespace VehicleSpy.Firmware.AccessPoint

open Machine WiFiConfig WiFiManager

/-- The calls that decide whether the radio is a station or an access point. -/
def stationCall : WiFiCall → Bool
  | .setMode _ | .begin _ _ => true
  | _ => false

/-- The last mode set or association attempt. -/
def lastStationCall (calls : List WiFiCall) : Option WiFiCall :=
  (calls.filter stationCall).getLast?

section Calls

variable {w : WiFiSetup} {u v : List WiFiCall}

@[simp] theorem lastStationCall_append :
    lastStationCall (u ++ v) = (lastStationCall v).or (lastStationCall u) := by
  rw [lastStationCall, List.filter_append, List.getLast?_append]
  rfl

theorem lastStationCall_eq_none (h : ∀ c ∈ u, stationCall c = false) :
    lastStationCall u = none := by
  rw [lastStationCall, List.filter_eq_nil_iff.mpr fun c hc => by simp [h c hc]]
  rfl

/-- A strategy that does anything to the radio leaves it a station. -/
theorem lastStationCall_applyAuthStrategy (w : WiFiSetup) (index : ℤ) :
    applyAuthStrategy w index = [] ∨ ∃ c, lastStationCall (applyAuthStrategy w index) = some c ∧
      c ≠ .setMode 2 := by
  unfold applyAuthStrategy
  cases authStrategyAt index with
  | BestReassociate =>
    cases campaignCredentials w with
    | none => exact Or.inl rfl
    | some p => exact Or.inr ⟨_, rfl, WiFiCall.noConfusion⟩
  | ResetStaMode =>
    right
    cases campaignCredentials w with
    | none => exact ⟨.setMode 1, rfl, by decide⟩
    | some p => exact ⟨_, rfl, WiFiCall.noConfusion⟩
  | FullRadioCycle =>
    right
    cases campaignCredentials w with
    | none => exact ⟨.setMode 1, rfl, by decide⟩
    | some p => exact ⟨_, rfl, WiFiCall.noConfusion⟩

theorem lastStationCall_applyCurrentStrategy (w : WiFiSetup) (ctx : WiFiContext) :
    lastStationCall (AuthCampaign.applyCurrentStrategy w ctx) =
      lastStationCall (applyAuthStrategy w ctx.authFailStrategyIndex) := by
  rw [AuthCampaign.applyCurrentStrategy, lastStationCall_append]
  rfl

theorem lastStationCall_transition (radio : Radio) (ctx : WiFiContext) (t : StateTransition) :
    lastStationCall (applyStateTransition radio ctx t).2 = none := by
  apply lastStationCall_eq_none
  intro c hc
  rcases mem_transition_calls hc with ⟨_, _, rfl⟩ | rfl | rfl <;> rfl

theorem lastStationCall_onDisconnected (m : WiFiManager) (reason : ℤ) :
    lastStationCall (m.onDisconnected reason).2 = none := by
  apply lastStationCall_eq_none
  intro c hc
  obtain ⟨_, rfl⟩ := mem_onDisconnected_calls hc
  rfl

end Calls

/-- A campaign that is active in an access-point state does not see the radio connected, and
the strategy it applies, unless it is the one that exhausts it, leaves the radio alone. -/
def Undisturbed (m : WiFiManager) : WiFiEvent → Prop
  | .update now radio =>
    isApModeState m.ctx.state = true → m.ctx.pendingAuthFail = true →
      radio.status ≠ 3 ∧
        (shouldRetryWiFi .WIFI_CONNECTING now m.ctx.lastRetryMs m.ctx.reconnectAttempts = true →
          (AuthCampaign.advanceRotation now m.ctx).authFailStrategyLoop <
            WIFI_AUTH_STRATEGY_LOOP_COUNT →
          applyAuthStrategy m.setup m.ctx.authFailStrategyIndex = [])
  | .onDisconnected _ => True

instance (m : WiFiManager) : DecidablePred (Undisturbed m)
  | .update now radio => by unfold Undisturbed; infer_instance
  | .onDisconnected _ => isTrue trivial

section Step

variable {m : WiFiManager} {now : UInt32} {radio : Radio} {log : List WiFiCall} {e : WiFiEvent}

/-- In an access-point state the log of the calls ends with the radio as an access point. -/
def Truthful (m : WiFiManager) (log : List WiFiCall) : Prop :=
  isApModeState m.ctx.state = true → lastStationCall log = some (.setMode 2)

/-- An access-point state is left for a connection attempt only. -/
def LeavesToConnect (m : WiFiManager) (e : WiFiEvent) : Prop :=
  isApModeState m.ctx.state = true →
    isApModeState (m.step e).1.ctx.state = true ∨ (m.step e).1.ctx.state = .WIFI_CONNECTING

theorem update_truthful (h : Truthful m log) (hu : Undisturbed m (.update now radio)) :
    Truthful (m.update now radio).1 (log ++ (m.update now radio).2) ∧
      LeavesToConnect m (.update now radio) := by
  have ht := tick_answer m now radio
  simp only [Truthful, LeavesToConnect, WiFiManager.step, update_eq, transition_state,
    lastStationCall_append, lastStationCall_transition, Option.none_or] at h ⊢
  generalize m.answer now radio = r at ht
  cases ht with
  | wait => exact ⟨h, Or.inl⟩
  | connect => exact ⟨fun hap => absurd hap Bool.false_ne_true, fun _ => Or.inr rfl⟩
  | retry _ hs =>
    rw [hs]
    exact ⟨fun hap => absurd hap Bool.false_ne_true, fun _ => Or.inr rfl⟩
  | connected h3 hs =>
    refine ⟨fun hap => absurd hap Bool.false_ne_true, fun hap => ?_⟩
    rcases hs with hp | hs
    · exact absurd h3 (hu hap hp).1
    · rw [hs] at hap
      exact absurd hap (by decide)
  | dropped => exact ⟨fun hap => absurd hap Bool.false_ne_true, fun _ => Or.inr rfl⟩
  | fallback _ hap => exact ⟨fun _ => rfl, fun _ => Or.inl hap⟩
  | recover => exact ⟨fun hap => absurd hap Bool.false_ne_true, fun _ => Or.inr rfl⟩
  | strategy hp _ hd hl =>
    refine ⟨fun hap => ?_, Or.inl⟩
    rw [lastStationCall_applyCurrentStrategy, (hu hap hp).2 hd hl]
    exact h hap
  | exhausted => exact ⟨fun _ => by rw [lastStationCall_append]; rfl, fun _ => Or.inl rfl⟩

theorem onDisconnected_truthful {reason : ℤ} (h : Truthful m log) :
    Truthful (m.onDisconnected reason).1 (log ++ (m.onDisconnected reason).2) ∧
      LeavesToConnect m (.onDisconnected reason) := by
  have hd := drop_onDisconnected m reason
  simp only [Truthful, LeavesToConnect, WiFiManager.step, lastStationCall_append,
    lastStationCall_onDisconnected, Option.none_or] at h ⊢
  generalize (m.onDisconnected reason).1.ctx = ctx at hd
  cases hd with
  | authLive => exact ⟨fun hap => absurd hap Bool.false_ne_true, fun _ => Or.inr rfl⟩
  | auth => exact ⟨h, Or.inl⟩
  | link => exact ⟨fun hap => absurd hap Bool.false_ne_true, fun _ => Or.inr rfl⟩
  | noted => exact ⟨h, Or.inl⟩

theorem step_truthful (h : Truthful m log) (hu : Undisturbed m e) :
    Truthful (m.step e).1 (log ++ (m.step e).2) ∧ LeavesToConnect m e := by
  cases e with
  | update now radio => exact update_truthful h hu
  | onDisconnected reason => exact onDisconnected_truthful h

/-- A campaign that disturbs an access-point state parts it from the radio at once. -/
theorem undisturbed_of_truthful (h : Truthful (m.step e).1 (log ++ (m.step e).2))
    (hl : LeavesToConnect m e) : Undisturbed m e := by
  cases e with
  | onDisconnected reason => trivial
  | update now radio =>
    intro hap hp
    have ha : m.answer now radio = AuthCampaign.tick m.setup now radio m.ctx := if_pos hp
    simp only [Truthful, LeavesToConnect, WiFiManager.step, update_eq, ha, transition_state,
      lastStationCall_append, lastStationCall_transition, Option.none_or] at h hl
    have h3 : radio.status ≠ 3 := by
      intro h3
      simp only [AuthCampaign.tick, AuthCampaign.checkCampaignSuccess, h3, ne_eq,
        not_true_eq_false, if_false] at hl
      rcases hl hap with hl | hl <;> cases hl
    refine ⟨h3, fun hd hk => ?_⟩
    have hx : isAuthCampaignExhausted (AuthCampaign.advanceRotation now m.ctx).authFailStrategyIndex
        (AuthCampaign.advanceRotation now m.ctx).authFailStrategyLoop = false :=
      decide_eq_false (Int.not_le.mpr hk)
    simp only [AuthCampaign.tick, AuthCampaign.checkCampaignSuccess, ne_eq, h3,
      not_false_eq_true, if_true, hd, Bool.not_true, Bool.false_eq_true, if_false,
      AuthCampaign.checkExhaustion, hx, lastStationCall_applyCurrentStrategy] at h
    rcases lastStationCall_applyAuthStrategy m.setup m.ctx.authFailStrategyIndex with
      hs | ⟨c, hc, hne⟩
    · exact hs
    · rw [hc, Option.some_or] at h
      exact absurd (Option.some.inj (h hap)) hne

end Step

section Run

variable {w : WiFiSetup} {events : List WiFiEvent}

/-- After every step of the run the access-point states agree with the radio, and such a state
was left for a connection attempt only. -/
def ApMeansAccessPoint (w : WiFiSetup) (events : List WiFiEvent) : Prop :=
  ∀ u e v, events = u ++ e :: v →
    Truthful (reached w (u ++ [e])) (emitted WiFiManager.step ⟨w, {}⟩ (u ++ [e])) ∧
      LeavesToConnect (reached w u) e

/-- An access-point state means an access point exactly in the runs in which no campaign
disturbs it. -/
theorem apMeansAccessPoint_iff :
    ApMeansAccessPoint w events ↔ Guarded WiFiManager.step Undisturbed ⟨w, {}⟩ events := by
  constructor
  · intro h
    apply guarded_iff_forall.mpr
    intro u e v he
    obtain ⟨ht, hl⟩ := h u e v he
    rw [reached_concat, emitted_concat] at ht
    exact undisturbed_of_truthful ht hl
  · rintro hg u e v rfl
    obtain ⟨hu, he, -⟩ := guarded_append.mp hg
    have hfresh : Truthful ⟨w, {}⟩ [] := fun hap => absurd hap Bool.false_ne_true
    have ht : Truthful (reached w u) (emitted WiFiManager.step ⟨w, {}⟩ u) :=
      guarded_induction (I := fun _ t os => Truthful t os) hfresh
        (fun _ _ _ _ ht hi => (step_truthful ht hi).1) u hu
    rw [reached_concat, emitted_concat]
    exact step_truthful ht he

end Run

section Bench

/-- The association fails for half a minute, the device falls back to the access point, and the
event of the last failed authentication comes one tick later. -/
def lateFailure : List WiFiEvent :=
  [.update 0 (unaddressed 6), .update 31000 (unaddressed 4), .onDisconnected 202,
    .update 32000 (unaddressed 6)]

theorem not_apMeansAccessPoint_lateFailure : ¬ ApMeansAccessPoint home lateFailure := by
  intro h
  have ht := (h (lateFailure.take 3) (.update 32000 (unaddressed 6)) [] rfl).1
  exact absurd (ht (by decide +kernel)) (by decide +kernel)

end Bench

end VehicleSpy.Firmware.AccessPoint
