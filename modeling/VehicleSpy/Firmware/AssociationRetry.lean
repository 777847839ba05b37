import VehicleSpy.Firmware.WiFiTicks

/-! # Association retries

With credentials at hand, the retry timer is disarmed or stands at the moment of the last
association attempt. So five seconds later an attempt is due, and what is left is which
radio statuses the connecting handler answers.
-/

namespace VehicleSpy.Firmware.AssociationRetry

open Machine WiFiConfig WiFiManager

/-- Stored credentials that can be loaded, or usable baked ones. -/
def HasCredentials (w : WiFiSetup) : Prop :=
  (determineCredentialSource w = .STORED_NVS ∧ (loadCredentialsImpl w.prefs).isSome) ∨
    w.baked.isSome

instance (w : WiFiSetup) : Decidable (HasCredentials w) :=
  inferInstanceAs (Decidable (_ ∨ _))

def isBegin : WiFiCall → Bool
  | .begin _ _ => true
  | _ => false

/-- The calls contain an association attempt. -/
def Begins (calls : List WiFiCall) : Prop := ∃ c ∈ calls, isBegin c = true

instance (calls : List WiFiCall) : Decidable (Begins calls) :=
  inferInstanceAs (Decidable (∃ c ∈ calls, isBegin c = true))

section Calls

variable {w : WiFiSetup} {u v : List WiFiCall}

@[simp] theorem begins_append : Begins (u ++ v) ↔ Begins u ∨ Begins v := by
  simp only [Begins, List.mem_append, or_and_right, exists_or]

theorem HasCredentials.begins_known (h : HasCredentials w) :
    Begins (beginWithKnownCredentials w) := by
  unfold beginWithKnownCredentials
  dsimp only
  split
  · exact ⟨_, List.mem_singleton_self _, rfl⟩
  · next hn =>
    rcases h with ⟨hs, hl⟩ | hb
    · rw [if_pos hs] at hn
      rw [hn] at hl
      cases hl
    · unfold WiFiSetup.baked at hb
      split at hb
      · exact ⟨_, List.mem_singleton_self _, rfl⟩
      · cases hb

theorem stored_ssid_ne_nil {prefs : Nvs} {p : Text.Bytes × Text.Bytes}
    (h : loadCredentialsImpl prefs = some p) : p.1 ≠ [] := by
  unfold loadCredentialsImpl at h
  split at h
  · next hl =>
    obtain rfl := Option.some.inj h
    exact List.ne_nil_of_length_pos hl.1
  · cases h

theorem HasCredentials.campaign (h : HasCredentials w) :
    ∃ ssid pass, campaignCredentials w = some (ssid, pass) := by
  suffices hs : (campaignCredentials w).isSome by
    obtain ⟨p, hp⟩ := Option.isSome_iff_exists.mp hs
    exact ⟨p.1, p.2, hp⟩
  unfold campaignCredentials
  dsimp only
  split
  · rfl
  · next hn =>
    rcases h with ⟨hs, hl⟩ | hb
    · obtain ⟨p, hp⟩ := Option.isSome_iff_exists.mp hl
      refine absurd ⟨hs, ?_⟩ hn
      rw [hp]
      exact stored_ssid_ne_nil hp
    · exact hb

theorem HasCredentials.begins_strategy (h : HasCredentials w) (ctx : WiFiContext) :
    Begins (AuthCampaign.applyCurrentStrategy w ctx) := by
  obtain ⟨ssid, pass, hc⟩ := h.campaign
  refine begins_append.mpr (Or.inl ?_)
  refine ⟨.begin ssid pass, ?_, rfl⟩
  simp only [applyAuthStrategy, hc]
  split <;> simp

end Calls

section Pace

variable {w : WiFiSetup} {now : UInt32} {radio : Radio} {ctx : WiFiContext} {r : HandlerResult}

/-- With credentials at hand, the timer is stamped exactly by the attempts. -/
theorem tick_stamp (hw : HasCredentials w) (h : Tick w now radio ctx r) :
    Begins r.calls ∧ r.ctx.lastRetryMs = now ∨
      ¬ Begins r.calls ∧ r.ctx.lastRetryMs = ctx.lastRetryMs := by
  cases h with
  | wait => exact Or.inr ⟨by simp [Begins], rfl⟩
  | connect => exact Or.inl ⟨⟨_, List.mem_of_mem_getLast? rfl, rfl⟩, rfl⟩
  | retry => exact Or.inl ⟨begins_append.mpr (Or.inr hw.begins_known), rfl⟩
  | connected => exact Or.inr ⟨by simp [Begins, isBegin], rfl⟩
  | dropped => exact Or.inr ⟨by simp [Begins], rfl⟩
  | fallback => exact Or.inr ⟨by simp [Begins, isBegin, startSoftAP], rfl⟩
  | recover => exact Or.inl ⟨(begins_append (u := [_])).mpr (Or.inr hw.begins_known), rfl⟩
  | strategy => exact Or.inl ⟨hw.begins_strategy ctx, rfl⟩
  | exhausted => exact Or.inl ⟨begins_append.mpr (Or.inl (hw.begins_strategy ctx)), rfl⟩

/-- A transition makes no attempt of its own. -/
theorem begins_transition {t : StateTransition} :
    ¬ Begins (applyStateTransition radio ctx t).2 := by
  rintro ⟨c, hc, hb⟩
  rcases mem_transition_calls hc with ⟨_, _, rfl⟩ | rfl | rfl <;> cases hb

/-- An entry of the log that made an attempt. -/
def Attempt (e : WiFiEvent × List WiFiCall) : Prop := Begins e.2

instance : DecidablePred Attempt := fun e => inferInstanceAs (Decidable (Begins e.2))

/-- The retry timer is disarmed or stands at the last attempt, which a tick made. -/
structure Paced (w : WiFiSetup) (log : List (WiFiEvent × List WiFiCall)) (m : WiFiManager) :
    Prop where
  setup : m.setup = w
  stamp : ∀ e b, Latest Attempt log e b → ∃ now radio, e.1 = .update now radio ∧
    (m.ctx.lastRetryMs = 0 ∨ m.ctx.lastRetryMs = now)

theorem paced_update {m : WiFiManager} {log : List (WiFiEvent × List WiFiCall)}
    (hw : HasCredentials w) (h : Paced w log m) :
    Paced w (log ++ [(.update now radio, (m.update now radio).2)]) (m.update now radio).1 := by
  have ht : Tick w now radio m.ctx (m.answer now radio) := h.setup ▸ tick_answer m now radio
  constructor
  · exact h.setup
  · intro e b hl
    simp only [update_eq, transition_lastRetryMs] at hl ⊢
    rcases tick_stamp hw ht with ⟨hb, hs⟩ | ⟨hb, hs⟩
    · have hlast := Latest.of_concat (l := log)
        (show Attempt (.update now radio, (m.update now radio).2) from
          begins_append.mpr (Or.inl hb))
      obtain ⟨rfl, -⟩ := hl.unique hlast
      exact ⟨now, radio, rfl, Or.inr hs⟩
    · rcases hl.concat with ⟨rfl, -⟩ | ⟨-, b', -, hl⟩
      · exact absurd hl.holds fun hx => (begins_append.mp hx).elim hb begins_transition
      · rw [hs]
        exact h.stamp e b' hl

theorem paced_onDisconnected {m : WiFiManager} {log : List (WiFiEvent × List WiFiCall)}
    {reason : ℤ} (h : Paced w log m) :
    Paced w (log ++ [(.onDisconnected reason, (m.onDisconnected reason).2)])
      (m.onDisconnected reason).1 := by
  have hquiet : ¬ Begins (m.onDisconnected reason).2 := by
    rintro ⟨c, hc, hb⟩
    obtain ⟨_, rfl⟩ := mem_onDisconnected_calls hc
    cases hb
  have hstamp : (m.onDisconnected reason).1.ctx.lastRetryMs = 0 ∨
      (m.onDisconnected reason).1.ctx.lastRetryMs = m.ctx.lastRetryMs := by
    have hd := drop_onDisconnected m reason
    generalize (m.onDisconnected reason).1.ctx = ctx at hd
    cases hd with
    | authLive => exact Or.inl rfl
    | auth => exact Or.inl rfl
    | link => exact Or.inl rfl
    | noted => exact Or.inr rfl
  constructor
  · rw [setup_onDisconnected, h.setup]
  · intro e b hl
    rcases hl.concat with ⟨rfl, -⟩ | ⟨-, b', -, hl⟩
    · exact absurd hl.holds hquiet
    · obtain ⟨now, radio, he, hs⟩ := h.stamp e b' hl
      refine ⟨now, radio, he, ?_⟩
      rcases hstamp with h0 | h0
      · exact Or.inl h0
      · rwa [h0]

theorem paced_run (hw : HasCredentials w) (events : List WiFiEvent) :
    Paced w (history WiFiManager.step ⟨w, {}⟩ events) (after WiFiManager.step ⟨w, {}⟩ events) := by
  apply history_induction
  · constructor
    · rfl
    · intro e b hl
      exact absurd (List.suffix_nil.mp hl.suffix) (List.cons_ne_nil _ _)
  · intro log m e h
    cases e with
    | update now radio => exact paced_update hw h
    | onDisconnected reason => exact paced_onDisconnected h

end Pace

section Connecting

variable {m : WiFiManager} {now : UInt32} {radio : Radio}

/-- How long the manager has been connecting, on the budget that the tick itself uses. -/
def connectDuration (now : UInt32) (ctx : WiFiContext) : UInt32 :=
  now - (ConnectingStateHandler.anchor now ctx).connectStartTime

/-- The tick makes an attempt or falls back to the access point. -/
def Responds (m : WiFiManager) (now : UInt32) (radio : Radio) : Prop :=
  Begins (m.update now radio).2 ∨ isApModeState (m.update now radio).1.ctx.state = true

instance : Decidable (Responds m now radio) := inferInstanceAs (Decidable (_ ∨ _))

/-- The radio statuses that the connecting handler answers: a failed association always, an
idle radio inside the initial-connect window, and anything once the window is over if the
last drop was a failed authentication of stored credentials. -/
def Answered (m : WiFiManager) (now : UInt32) (radio : Radio) : Prop :=
  radio.status = 1 ∨ radio.status = 4 ∨
    (radio.status = 0 ∧ isInitialConnectTimeout (connectDuration now m.ctx) = false) ∨
    (isInitialConnectTimeout (connectDuration now m.ctx) = true ∧
      determineCredentialSource m.setup = .STORED_NVS ∧
      isAuthMechanismFailure m.ctx.lastDisconnectReason = true)

theorem HasCredentials.source (h : HasCredentials m.setup) :
    determineCredentialSource m.setup ≠ .NONE := by
  unfold determineCredentialSource
  rcases h with ⟨hs, -⟩ | hb
  · unfold determineCredentialSource at hs
    rw [hs]
    decide
  · split
    · decide
    · decide

theorem responds_answer : Responds m now radio ↔ Begins (m.answer now radio).calls ∨
    isApModeState (m.answer now radio).transition.nextState = true := by
  simp only [Responds, update_eq, begins_append, begins_transition, or_false, transition_state]

theorem answer_connecting (hs : m.ctx.state = .WIFI_CONNECTING)
    (hp : m.ctx.pendingAuthFail = false) :
    m.answer now radio = ConnectingStateHandler.execute m.setup now radio m.ctx := by
  simp only [answer, hp, Bool.false_eq_true, if_false, getStateHandler, hs]

/-- When an attempt is due, the manager responds exactly to the statuses it answers. -/
theorem responds_iff (hw : HasCredentials m.setup) (hs : m.ctx.state = .WIFI_CONNECTING)
    (hp : m.ctx.pendingAuthFail = false) (h3 : radio.status ≠ 3)
    (hd : ∀ attempts, shouldRetryWiFi .WIFI_CONNECTING now m.ctx.lastRetryMs attempts = true) :
    Responds m now radio ↔ Answered m now radio := by
  rw [responds_answer, answer_connecting hs hp]
  unfold ConnectingStateHandler.execute Answered connectDuration
  rw [anchor_eq]
  generalize (ConnectingStateHandler.anchor now m.ctx).connectStartTime = start
  generalize (ConnectingStateHandler.anchor now m.ctx).reconnectPending = pending
  dsimp only
  rw [if_neg h3]
  by_cases hf : radio.status = 4 ∨ radio.status = 1
  · have hresp : radio.status = 1 ∨ radio.status = 4 := hf.symm
    rw [if_pos hf]
    refine iff_of_true ?_ (hresp.elim Or.inl fun h => Or.inr (Or.inl h))
    unfold ConnectingStateHandler.handleConnectFailed
    dsimp only
    split
    · right
      dsimp only
      split <;> rfl
    · rw [if_pos (hd _)]
      exact Or.inl ((begins_append (u := [_])).mpr (Or.inr hw.begins_known))
  · obtain ⟨h4, h1⟩ := not_or.mp hf
    rw [if_neg hf]
    simp only [h1, h4, false_or]
    cases ht : isInitialConnectTimeout (now - start) with
    | false =>
      simp only [Bool.not_false, and_true, Bool.false_eq_true, if_false, false_and, or_false]
      by_cases h0 : radio.status = 0
      · simp only [h0, if_true, iff_true]
        unfold ConnectingStateHandler.handleIdleStatus
        rw [if_pos (hd _)]
        exact Or.inl hw.begins_known
      · simp [h0, Begins, hs, isApModeState]
    | true =>
      simp only [Bool.not_true, Bool.false_eq_true, and_false, if_false, if_true, true_and,
        false_or, reduceCtorEq]
      unfold ConnectingStateHandler.handleInitialConnectTimeout
      dsimp only
      by_cases ha : determineCredentialSource m.setup = .STORED_NVS ∧
          isAuthMechanismFailure m.ctx.lastDisconnectReason = true
      · simp only [ha, and_self, if_true, isApModeState, or_true]
      · simp [ha, hw.source, Begins, isApModeState]

/-- Five seconds after a stamp, or with a disarmed timer five seconds into the run, an attempt
is due whatever the number of attempts so far. -/
theorem shouldRetryWiFi_of_rested {t last attempts : UInt32} (hl : last = 0 ∨ last = t)
    (ht : t.toNat + 5000 ≤ now.toNat) :
    shouldRetryWiFi .WIFI_CONNECTING now last attempts = true := by
  have hrest : 5000 ≤ (now - last).toNat := by
    rcases hl with rfl | rfl
    · rw [UInt32.sub_zero]
      omega
    · rw [UInt32.toNat_sub_of_le _ _ (by rw [UInt32.le_iff_toNat_le]; omega)]
      omega
  simp only [shouldRetryWiFi, reduceCtorEq, ne_eq, not_true_eq_false, not_false_eq_true,
    and_false, if_false, decide_eq_true_eq, UInt32.le_iff_toNat_le]
  split
  · exact Nat.zero_le _
  · exact hrest

end Connecting

section Run

variable {w : WiFiSetup} {events : List WiFiEvent}

/-- A tick of the run finds the machine connecting without a campaign, on a radio that is not
connected, and at least five seconds after the last attempt. -/
structure Due (w : WiFiSetup) (u : List WiFiEvent) (now : UInt32) (radio : Radio) : Prop where
  connecting : (reached w u).ctx.state = .WIFI_CONNECTING
  noCampaign : (reached w u).ctx.pendingAuthFail = false
  unconnected : radio.status ≠ 3
  rested : ∃ t r calls b, Latest Attempt (history WiFiManager.step ⟨w, {}⟩ u)
    (.update t r, calls) b ∧ t.toNat + 5000 ≤ now.toNat

/-- Every tick of the run that is due makes another attempt or falls back to an access point. -/
def RetriesNeverStop (w : WiFiSetup) (events : List WiFiEvent) : Prop :=
  ∀ u now radio v, events = u ++ .update now radio :: v → Due w u now radio →
    Responds (reached w u) now radio

theorem Due.responds_iff {u : List WiFiEvent} {now : UInt32} {radio : Radio}
    (hw : HasCredentials w) (h : Due w u now radio) :
    Responds (reached w u) now radio ↔ Answered (reached w u) now radio := by
  have hpaced : Paced w _ (reached w u) := paced_run hw u
  obtain ⟨t, r, calls, b, hl, ht⟩ := h.rested
  obtain ⟨t', r', he, hstamp⟩ := hpaced.stamp _ _ hl
  obtain ⟨rfl, rfl⟩ := WiFiEvent.update.inj he
  have hw' : HasCredentials (reached w u).setup := by rwa [hpaced.setup]
  exact AssociationRetry.responds_iff hw' h.connecting h.noCampaign h.unconnected
    fun _ => shouldRetryWiFi_of_rested hstamp ht

/-- Association retries go on exactly while every due tick sees a status that the connecting
handler answers. -/
theorem retriesNeverStop_iff (hw : HasCredentials w) :
    RetriesNeverStop w events ↔ ∀ u now radio v, events = u ++ .update now radio :: v →
      Due w u now radio → Answered (reached w u) now radio := by
  constructor
  · intro h u now radio v he hd
    exact (hd.responds_iff hw).mp (h u now radio v he hd)
  · intro h u now radio v he hd
    exact (hd.responds_iff hw).mpr (h u now radio v he hd)

end Run

section Bench

/-- An idle radio is asked again five seconds later. -/
theorem retriesNeverStop_idle :
    RetriesNeverStop home [.update 0 (unaddressed 0), .update 5000 (unaddressed 0)] := by
  refine (retriesNeverStop_iff (by decide)).mpr ?_
  intro u now radio v he hd
  rcases u with _ | ⟨e, _ | ⟨e', u⟩⟩
  · exact absurd hd.connecting (by decide)
  · simp only [List.cons_append, List.nil_append, List.cons.injEq, WiFiEvent.update.injEq] at he
    obtain ⟨rfl, ⟨rfl, rfl⟩, -⟩ := he
    exact Or.inr (Or.inr (Or.inl ⟨rfl, by decide +kernel⟩))
  · simp at he

/-- A radio that reports `WL_DISCONNECTED` is never asked again. -/
theorem not_retriesNeverStop_disconnected :
    HasCredentials home ∧
      ¬ RetriesNeverStop home [.update 0 (unaddressed 6), .update 5000 (unaddressed 6)] := by
  refine ⟨by decide, ?_⟩
  intro h
  have hdue : Due home [.update 0 (unaddressed 6)] 5000 (unaddressed 6) := by
    constructor
    · decide +kernel
    · decide +kernel
    · decide
    · exact ⟨0, unaddressed 6, _, [], ⟨List.suffix_refl _, by decide +kernel, by simp⟩, by decide⟩
  exact absurd (h [.update 0 (unaddressed 6)] 5000 _ [] rfl hdue) (by decide +kernel)

end Bench

end VehicleSpy.Firmware.AssociationRetry
