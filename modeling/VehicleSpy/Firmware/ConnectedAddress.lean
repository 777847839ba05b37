import VehicleSpy.Firmware.WiFiTicks

/-! # The address at entry to the connected state

Both ways into the connected state, the connecting handler and the campaign, look at the
radio's status only. So every entry has a real address exactly when the radio never
reports a connection without one at a tick that can enter.
-/

namespace VehicleSpy.Firmware.ConnectedAddress

open Machine WiFiManager

/-- The step enters the connected state, records an address, starts the clock or has the
server bound again. -/
def Announces (m : WiFiManager) (e : WiFiEvent) : Prop :=
  (m.ctx.state ≠ .WIFI_CONNECTED ∧ (m.step e).1.ctx.state = .WIFI_CONNECTED) ∨
    (m.step e).1.ctx.lastConnectedIp ≠ m.ctx.lastConnectedIp ∨
    .ntpInit ∈ (m.step e).2 ∨ .tcpServerRestart ∈ (m.step e).2

instance (m : WiFiManager) (e : WiFiEvent) : Decidable (Announces m e) :=
  inferInstanceAs (Decidable (_ ∨ _))

/-- A step that can enter the connected state: the machine is connecting, or a campaign is
active outside the connected state. -/
def CanEnter (m : WiFiManager) : Prop :=
  m.ctx.state = .WIFI_CONNECTING ∨ m.ctx.pendingAuthFail = true ∧ m.ctx.state ≠ .WIFI_CONNECTED

instance (m : WiFiManager) : Decidable (CanEnter m) := inferInstanceAs (Decidable (_ ∨ _))

/-- The calls that belong to a connection. -/
def announcing : WiFiCall → Bool
  | .ntpInit | .tcpServerRestart => true
  | _ => false

def Silent (calls : List WiFiCall) : Prop := ∀ c ∈ calls, announcing c = false

section Calls

variable {w : WiFiSetup} {u v : List WiFiCall}

theorem silent_append (hu : Silent u) (hv : Silent v) : Silent (u ++ v) :=
  fun c hc => (List.mem_append.mp hc).elim (hu c) (hv c)

theorem silent_known (w : WiFiSetup) : Silent (beginWithKnownCredentials w) := by
  unfold beginWithKnownCredentials
  dsimp only
  split
  · simp [Silent, announcing]
  · split <;> simp [Silent, announcing]

theorem silent_strategy (w : WiFiSetup) (ctx : WiFiContext) :
    Silent (AuthCampaign.applyCurrentStrategy w ctx) := by
  unfold AuthCampaign.applyCurrentStrategy applyAuthStrategy
  cases campaignCredentials w <;> dsimp only <;> split <;> simp [Silent, announcing]

end Calls

section Step

variable {m : WiFiManager} {now : UInt32} {radio : Radio} {w : WiFiSetup} {ctx : WiFiContext}
  {r : HandlerResult} {t : StateTransition}

/-- A handler records no address and makes none of the calls of a connection. -/
theorem tick_silent (h : Tick w now radio ctx r) :
    r.ctx.lastConnectedIp = ctx.lastConnectedIp ∧ Silent r.calls := by
  cases h with
  | wait => exact ⟨rfl, by simp [Silent]⟩
  | connect => exact ⟨rfl, by simp [Silent, announcing]⟩
  | retry reset _ hreset =>
    refine ⟨rfl, silent_append ?_ (silent_known w)⟩
    intro c hc
    rw [hreset c hc]
    rfl
  | connected => exact ⟨rfl, by simp [Silent, announcing]⟩
  | dropped => exact ⟨rfl, by simp [Silent]⟩
  | fallback => exact ⟨rfl, by simp [Silent, announcing, startSoftAP]⟩
  | recover => exact ⟨rfl, silent_append (u := [_]) (by simp [Silent, announcing]) (silent_known w)⟩
  | strategy => exact ⟨rfl, silent_strategy w ctx⟩
  | exhausted =>
    exact ⟨rfl, silent_append (silent_strategy w ctx) (by simp [Silent, announcing, startSoftAP])⟩

/-- The transition asks for something that belongs to a connection. -/
def Connects (ctx : WiFiContext) (t : StateTransition) : Prop :=
  t.nextState ≠ ctx.state ∧
    (t.nextState = .WIFI_CONNECTED ∨ t.initNtp = true ∨ t.setTcpServerRestartFlag = true)

theorem connects_of_transition (radio : Radio) (h : (ctx.state ≠ .WIFI_CONNECTED ∧
      (applyStateTransition radio ctx t).1.state = .WIFI_CONNECTED) ∨
    (applyStateTransition radio ctx t).1.lastConnectedIp ≠ ctx.lastConnectedIp ∨
    ¬ Silent (applyStateTransition radio ctx t).2) : Connects ctx t := by
  unfold applyStateTransition at h
  by_cases hs : t.nextState = ctx.state
  · simp only [if_pos hs, ne_eq, not_true_eq_false, false_or] at h
    rcases h with ⟨hne, he⟩ | h
    · exact absurd he hne
    · exact absurd (by simp [Silent]) h
  · refine ⟨hs, ?_⟩
    simp only [if_neg hs] at h
    rcases h with ⟨-, he⟩ | h | h
    · exact Or.inl he
    · by_contra hn
      exact h (if_neg (not_or.mp hn).1)
    · by_contra hn
      obtain ⟨-, hn, hr⟩ : _ ∧ ¬ t.initNtp = true ∧ ¬ t.setTcpServerRestartFlag = true := by
        simpa only [not_or] using hn
      exact h (by simp [Silent, hn, hr, announcing])

theorem tick_connects (h : Tick w now radio ctx r) (hc : Connects ctx r.transition) :
    radio.status = 3 ∧ (ctx.state = .WIFI_CONNECTING ∨
      ctx.pendingAuthFail = true ∧ ctx.state ≠ .WIFI_CONNECTED) := by
  obtain ⟨hne, hc⟩ := hc
  cases h with
  | wait => exact absurd rfl hne
  | connect => simp at hc
  | retry => exact absurd rfl hne
  | connected h3 hs => exact ⟨h3, hs.symm.imp_right fun hp => ⟨hp, Ne.symm hne⟩⟩
  | dropped => simp at hc
  | fallback _ hap =>
    rcases hc with rfl | hc | hc
    · cases hap
    · cases hc
    · cases hc
  | recover => simp at hc
  | strategy => exact absurd rfl hne
  | exhausted => simp at hc

theorem answer_connected (h3 : radio.status = 3) (hc : CanEnter m) :
    (m.answer now radio).transition.nextState = .WIFI_CONNECTED := by
  unfold answer
  split
  · simp [AuthCampaign.tick, AuthCampaign.checkCampaignSuccess, h3]
  · next hp =>
    have hs : m.ctx.state = .WIFI_CONNECTING := hc.resolve_right fun h => hp h.1
    simp [getStateHandler, hs, ConnectingStateHandler.execute, h3,
      ConnectingStateHandler.handleConnected]

/-- A tick announces a connection exactly when the radio reports one and the machine can enter
the connected state, whatever the address. -/
theorem announces_update_iff :
    Announces m (.update now radio) ↔ radio.status = 3 ∧ CanEnter m := by
  have ht := tick_answer m now radio
  have hs := ht.state_eq
  obtain ⟨hip, hsil⟩ := tick_silent ht
  constructor
  · intro h
    have hconn : Connects (m.answer now radio).ctx (m.answer now radio).transition := by
      apply connects_of_transition radio
      rw [hs, hip]
      refine h.imp_right (Or.imp_right ?_)
      intro hcall hq
      have hquiet : Silent (m.update now radio).2 := silent_append hsil hq
      rcases hcall with hcall | hcall
      · cases hquiet _ hcall
      · cases hquiet _ hcall
    obtain ⟨hne, hc⟩ := hconn
    exact tick_connects ht ⟨hs ▸ hne, hc⟩
  · rintro ⟨h3, hc⟩
    refine Or.inl ⟨?_, ?_⟩
    · rcases hc with hc | hc
      · rw [hc]
        decide
      · exact hc.2
    · exact transition_state.trans (answer_connected h3 hc)

theorem not_announces_onDisconnected {reason : ℤ} : ¬ Announces m (.onDisconnected reason) := by
  have hcalls : ∀ c ∈ (m.onDisconnected reason).2, announcing c = false := by
    intro c hc
    obtain ⟨_, rfl⟩ := mem_onDisconnected_calls hc
    rfl
  have hd := drop_onDisconnected m reason
  rintro (⟨hne, he⟩ | hip | hcall | hcall)
  · simp only [WiFiManager.step] at he
    generalize (m.onDisconnected reason).1.ctx = ctx at hd he
    cases hd with
    | authLive => cases he
    | auth => exact hne he
    | link => cases he
    | noted => exact hne he
  · simp only [WiFiManager.step] at hip
    generalize (m.onDisconnected reason).1.ctx = ctx at hd hip
    cases hd <;> exact hip rfl
  · cases hcalls _ hcall
  · cases hcalls _ hcall

end Step

section Run

variable {w : WiFiSetup} {events : List WiFiEvent}

/-- A tick on which the radio reports a connection and has an address. -/
def RealAddress : WiFiEvent → Prop
  | .update _ radio => radio.status = 3 ∧ radio.localIP ≠ Text.ascii "0.0.0.0"
  | .onDisconnected _ => False

instance : DecidablePred RealAddress
  | .update _ radio =>
    inferInstanceAs (Decidable (radio.status = 3 ∧ radio.localIP ≠ Text.ascii "0.0.0.0"))
  | .onDisconnected _ => isFalse id

/-- Every step of the run that announces a connection is a tick with a real address. -/
def AddressedEntries (w : WiFiSetup) (events : List WiFiEvent) : Prop :=
  ∀ u e v, events = u ++ e :: v → Announces (reached w u) e → RealAddress e

/-- The tick does not see a connection without an address while the machine can enter the
connected state. -/
def NoBlip (m : WiFiManager) : WiFiEvent → Prop
  | .update _ radio => radio.status = 3 → CanEnter m → radio.localIP ≠ Text.ascii "0.0.0.0"
  | .onDisconnected _ => True

instance (m : WiFiManager) : DecidablePred (NoBlip m)
  | .update _ radio => inferInstanceAs
      (Decidable (radio.status = 3 → CanEnter m → radio.localIP ≠ Text.ascii "0.0.0.0"))
  | .onDisconnected _ => isTrue trivial

theorem realAddress_iff_noBlip (m : WiFiManager) (e : WiFiEvent) :
    (Announces m e → RealAddress e) ↔ NoBlip m e := by
  cases e with
  | update now radio =>
    rw [announces_update_iff]
    constructor
    · intro h h3 hc
      exact (h ⟨h3, hc⟩).2
    · rintro h ⟨h3, hc⟩
      exact ⟨h3, h h3 hc⟩
  | onDisconnected reason =>
    exact iff_of_true (fun h => absurd h not_announces_onDisconnected) trivial

/-- Connections are announced with a real address only, exactly in the runs without a blip. -/
theorem addressedEntries_iff :
    AddressedEntries w events ↔ Guarded WiFiManager.step NoBlip ⟨w, {}⟩ events := by
  rw [guarded_iff_forall]
  simp only [AddressedEntries, realAddress_iff_noBlip]
  rfl

end Run

section Bench

/-- The access point reports a connection before the address is assigned. -/
def blip : List WiFiEvent := [.update 0 (unaddressed 6), .update 100 (unaddressed 3)]

theorem not_addressedEntries_blip : ¬ AddressedEntries home blip := by
  intro h
  exact absurd (h [.update 0 (unaddressed 6)] (.update 100 (unaddressed 3)) [] rfl)
    (by decide +kernel)

end Bench

end VehicleSpy.Firmware.ConnectedAddress
