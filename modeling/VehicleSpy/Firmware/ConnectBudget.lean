import Mathlib.Algebra.Group.Nat.Defs
import VehicleSpy.Machine.MillisCounter
import VehicleSpy.Machine.Prefixes
import VehicleSpy.Firmware.WiFiTicks

/-! # One connect budget for each drop

The connecting handler falls back to the access point 30 s after the start of its budget.
The budget starts at the tick that begins to connect, or, since a disconnect event has no
clock, at the first tick after a drop. An observer keeps that moment beside the manager,
and the manager's marker and start time always agree with it.
-/

namespace VehicleSpy.Firmware.ConnectBudget

open Machine WiFiConfig WiFiManager

/-- What happens to the manager of a running device: a tick of the main loop, by a clock that
the manager reads modulo 2^32, a disconnect event, or a write to the stored credentials. -/
inductive DeviceEvent
  | tick (ms : ℕ) (radio : Radio)
  | drop (reason : ℤ)
  | rewrite (prefs : Nvs)

def DeviceEvent.time? : DeviceEvent → Option ℕ
  | .tick ms _ => some ms
  | _ => none

/-- The times of the ticks. -/
def times (events : List DeviceEvent) : List ℕ := events.filterMap DeviceEvent.time?

theorem times_append (u v : List DeviceEvent) : times (u ++ v) = times u ++ times v :=
  List.filterMap_append

def onDevice (m : WiFiManager) : DeviceEvent → WiFiManager
  | .tick ms radio => (m.update (.ofNat ms) radio).1
  | .drop reason => (m.onDisconnected reason).1
  | .rewrite prefs => { m with setup := { m.setup with prefs := prefs } }

/-- The start of the budget after an event between two states: kept during a stay in
`WIFI_CONNECTING`, where the first tick sets it if the entry did not. -/
def reanchor (src dst : WiFiState) (anchor : Option ℕ) : DeviceEvent → Option ℕ
  | .tick ms _ =>
    if dst ≠ .WIFI_CONNECTING then none
    else if src = .WIFI_CONNECTING then some (anchor.getD ms)
    else if src = .WIFI_CONNECTED then none
    else some ms
  | _ => if src = .WIFI_CONNECTING then anchor else none

/-- The manager, and beside it the start of the budget of the current stay. -/
structure Observed where
  manager : WiFiManager
  anchor : Option ℕ := none

namespace Observed

def state (o : Observed) : WiFiState := o.manager.ctx.state

def step (o : Observed) (e : DeviceEvent) : Observed :=
  let m := onDevice o.manager e
  ⟨m, reanchor o.state m.ctx.state o.anchor e⟩

/-- The observed manager after a run from its construction. -/
def reached (w : WiFiSetup) (events : List DeviceEvent) : Observed :=
  events.foldl step ⟨⟨w, {}⟩, none⟩

@[simp] theorem reached_nil (w : WiFiSetup) : reached w [] = ⟨⟨w, {}⟩, none⟩ := rfl

@[simp] theorem reached_concat (w : WiFiSetup) (u : List DeviceEvent) (e : DeviceEvent) :
    reached w (u ++ [e]) = (reached w u).step e := by
  simp [reached, List.foldl_append]

end Observed

/-- The count of stored credentials is what tells that there are any. -/
def hasStoredCredentials (prefs : Nvs) : Prop := 0 < prefs.getBytesLength .credCount

instance (prefs : Nvs) : Decidable (hasStoredCredentials prefs) :=
  inferInstanceAs (Decidable (0 < _))

/-- The stored credentials stay configured, no event is of the auth mechanism, and the clock
neither goes back nor comes round. -/
structure Regular (w : WiFiSetup) (events : List DeviceEvent) : Prop where
  stored : hasStoredCredentials w.prefs
  kept : ∀ prefs, .rewrite prefs ∈ events → hasStoredCredentials prefs
  link : ∀ reason, .drop reason ∈ events → isAuthMechanismFailure reason = false
  ordered : (times events).Pairwise (· ≤ ·)
  span : ∀ s ∈ times events, ∀ t ∈ times events, t < s + 2 ^ 32

/-- An event in `WIFI_CONNECTING` enters an access-point state only as a tick past the budget,
and as such a tick does so if the radio reports a failure or no network. -/
structure Budgeted (o : Observed) (e : DeviceEvent) : Prop where
  onlyLate : o.state = .WIFI_CONNECTING → isApModeState (o.step e).state = true →
    ∃ ms radio, e = .tick ms radio ∧ 30000 < ms - o.anchor.getD ms
  late : ∀ ms radio, e = .tick ms radio → o.state = .WIFI_CONNECTING →
    30000 < ms - o.anchor.getD ms → radio.status = 4 ∨ radio.status = 1 →
    isApModeState (o.step e).state = true

section Handlers

variable {w : WiFiSetup} {now : UInt32} {radio : Radio} {ctx : WiFiContext}

theorem determineCredentialSource_stored (hw : hasStoredCredentials w.prefs) :
    determineCredentialSource w = .STORED_NVS :=
  if_pos hw

/-- What a tick in `WIFI_CONNECTING` asks for, given the start of its budget. -/
structure Attempt (now start : UInt32) (radio : Radio) (r : HandlerResult) : Prop where
  budget : r.ctx.connectStartTime = start
  consumed : r.ctx.reconnectPending = false
  next : r.transition.nextState = .WIFI_CONNECTING ∨ r.transition.nextState = .WIFI_CONNECTED ∨
    isApModeState r.transition.nextState = true
  fallback : isApModeState r.transition.nextState = true ↔
    (radio.status = 4 ∨ radio.status = 1) ∧ WIFI_CONNECT_TIMEOUT_MS < now - start

theorem anchor_consumed (now : UInt32) (ctx : WiFiContext) :
    (ConnectingStateHandler.anchor now ctx).reconnectPending = false := by
  unfold ConnectingStateHandler.anchor
  split
  · rfl
  · next h => simpa using h

theorem attempt_handleConnectFailed (hw : hasStoredCredentials w.prefs)
    (hs : ctx.state = .WIFI_CONNECTING) (hc : ctx.reconnectPending = false)
    (hr : radio.status = 4 ∨ radio.status = 1) :
    Attempt now ctx.connectStartTime radio
      (ConnectingStateHandler.handleConnectFailed w now ctx (now - ctx.connectStartTime)) := by
  unfold ConnectingStateHandler.handleConnectFailed
  simp only [determineCredentialSource_stored hw, shouldFallbackToApMode, true_and,
    decide_eq_true_eq]
  split
  · next hlate =>
    have hap : isApModeState (if isApScanMiss ctx.lastDisconnectReason then .WIFI_AP_MODE_NO_AP
        else .WIFI_AP_MODE_AUTH_FAIL) = true := by
      split <;> rfl
    exact ⟨rfl, hc, Or.inr (Or.inr hap), iff_of_true hap ⟨hr, hlate⟩⟩
  · next hearly =>
    have hno : isApModeState ctx.state = true ↔ (radio.status = 4 ∨ radio.status = 1) ∧
        WIFI_CONNECT_TIMEOUT_MS < now - ctx.connectStartTime := by
      rw [hs]
      exact iff_of_false Bool.false_ne_true fun h => hearly h.2
    split
    · exact ⟨rfl, hc, Or.inl hs, hno⟩
    · exact ⟨rfl, hc, Or.inl hs, hno⟩

/-- On any other status the handler connects or goes on connecting. -/
theorem attempt_other {r : HandlerResult} {start : UInt32} (hs : r.ctx.connectStartTime = start)
    (hc : r.ctx.reconnectPending = false) (hr : ¬ (radio.status = 4 ∨ radio.status = 1))
    (hn : r.transition.nextState = .WIFI_CONNECTING ∨
      r.transition.nextState = .WIFI_CONNECTED) : Attempt now start radio r := by
  refine ⟨hs, hc, ?_, iff_of_false ?_ fun h => hr h.1⟩
  · exact hn.imp_right Or.inl
  · rcases hn with hn | hn <;> rw [hn] <;> exact Bool.false_ne_true

theorem attempt_execute (now : UInt32) (radio : Radio) (hw : hasStoredCredentials w.prefs)
    (hl : isAuthMechanismFailure ctx.lastDisconnectReason = false)
    (hs : ctx.state = .WIFI_CONNECTING) :
    Attempt now (ConnectingStateHandler.anchor now ctx).connectStartTime radio
      (ConnectingStateHandler.execute w now radio ctx) := by
  have hc := anchor_consumed now ctx
  have hs' : (ConnectingStateHandler.anchor now ctx).state = .WIFI_CONNECTING := by
    rw [anchor_eq, hs]
  have hl' : isAuthMechanismFailure
      (ConnectingStateHandler.anchor now ctx).lastDisconnectReason = false := by
    rw [anchor_eq, hl]
  unfold ConnectingStateHandler.execute
  generalize ConnectingStateHandler.anchor now ctx = anchored at hc hs' hl'
  dsimp only
  split
  · next h3 =>
    exact attempt_other rfl rfl (by omega) (Or.inr rfl)
  · split
    · next hr => exact attempt_handleConnectFailed hw hs' hc hr
    · next hr =>
      split
      · unfold ConnectingStateHandler.handleIdleStatus
        split
        · exact attempt_other rfl hc hr (Or.inl hs')
        · exact attempt_other rfl hc hr (Or.inl hs')
      · split
        · simp only [ConnectingStateHandler.handleInitialConnectTimeout, hl',
            determineCredentialSource_stored hw,
            Bool.false_eq_true, and_false, if_false, reduceCtorEq]
          exact attempt_other rfl hc hr (Or.inl rfl)
        · exact attempt_other rfl hc hr (Or.inl hs')

/-- What a tick that begins to connect asks for, or one that goes on waiting for it. -/
structure Entry (now : UInt32) (ctx : WiFiContext) (r : HandlerResult) : Prop where
  marker : r.ctx.reconnectPending = ctx.reconnectPending
  next : r.transition.nextState = ctx.state ∨
    r.transition.nextState = .WIFI_CONNECTING ∧ r.ctx.connectStartTime = now

theorem entry_disconnected (hw : hasStoredCredentials w.prefs) :
    Entry now ctx (DisconnectedStateHandler w now ctx) := by
  unfold DisconnectedStateHandler
  rw [determineCredentialSource_stored hw]
  cases loadCredentialsImpl w.prefs with
  | none => exact ⟨rfl, Or.inl rfl⟩
  | some p => exact ⟨rfl, Or.inr ⟨rfl, rfl⟩⟩

theorem entry_connectedAp : Entry now ctx (ConnectedApStateHandler w now ctx) := by
  unfold ConnectedApStateHandler attemptApModeStaRecovery
  split
  · exact ⟨rfl, Or.inl rfl⟩
  · split
    · exact ⟨rfl, Or.inl rfl⟩
    · split
      · exact ⟨rfl, Or.inl rfl⟩
      · exact ⟨rfl, Or.inr ⟨rfl, rfl⟩⟩

theorem entry_stateHandler (now : UInt32) (radio : Radio) (hw : hasStoredCredentials w.prefs)
    (hs : ctx.state ≠ .WIFI_CONNECTING) (hc : ctx.state ≠ .WIFI_CONNECTED) :
    Entry now ctx (getStateHandler w now radio ctx) := by
  unfold getStateHandler
  split
  · exact entry_disconnected hw
  · next h => exact absurd h hs
  · next h => exact absurd h hc
  all_goals exact entry_connectedAp

/-- Without a campaign a tick starts none and leaves the reason of the last disconnect. -/
theorem linkLevel_tick {r : HandlerResult} (h : Tick w now radio ctx r)
    (hp : ctx.pendingAuthFail = false) :
    r.ctx.pendingAuthFail = false ∧ r.ctx.lastDisconnectReason = ctx.lastDisconnectReason := by
  cases h with
  | strategy hc => exact absurd (hp.symm.trans hc) Bool.false_ne_true
  | exhausted hc => exact absurd (hp.symm.trans hc) Bool.false_ne_true
  | connected => exact ⟨rfl, rfl⟩
  | _ => exact ⟨hp, rfl⟩

end Handlers

section Clock

variable {start now : ℕ}

/-- The manager's unsigned difference of two times of a clock that has not come round. -/
theorem budget_spent_iff (hle : start ≤ now) (hlt : now < start + 2 ^ 32) :
    WIFI_CONNECT_TIMEOUT_MS < UInt32.ofNat now - UInt32.ofNat start ↔ 30000 < now - start := by
  have hsub : (UInt32.ofNat now - UInt32.ofNat start).toNat = now - start :=
    Machine.toNat_counter_sub hle hlt
  rw [UInt32.lt_iff_toNat_lt, hsub]
  rfl

end Clock

/-- The manager's marker and start time agree with the observer: the marker is set exactly
from a drop to the first tick after it. -/
inductive Agrees (ts : List ℕ) : Option ℕ → WiFiContext → Prop where

  | away {anchor : Option ℕ} {ctx : WiFiContext} : ctx.state ≠ .WIFI_CONNECTING →
      ctx.reconnectPending = false → Agrees ts anchor ctx

  | marked {ctx : WiFiContext} : ctx.state = .WIFI_CONNECTING →
      ctx.reconnectPending = true → Agrees ts none ctx

  | started {s : ℕ} {ctx : WiFiContext} : ctx.state = .WIFI_CONNECTING →
      ctx.reconnectPending = false → ctx.connectStartTime = .ofNat s → s ∈ ts →
      Agrees ts (some s) ctx

structure Anchored (ts : List ℕ) (o : Observed) : Prop where
  stored : hasStoredCredentials o.manager.setup.prefs
  noCampaign : o.manager.ctx.pendingAuthFail = false
  link : isAuthMechanismFailure o.manager.ctx.lastDisconnectReason = false
  agrees : Agrees ts o.anchor o.manager.ctx

section Run

variable {o : Observed} {ts : List ℕ} {ms : ℕ} {radio : Radio} {anchor : Option ℕ}
  {ctx : WiFiContext}

/-- The start of the budget that the manager uses is the observer's. -/
theorem Agrees.start_eq (h : Agrees ts anchor ctx) (hs : ctx.state = .WIFI_CONNECTING) :
    (ConnectingStateHandler.anchor (.ofNat ms) ctx).connectStartTime = .ofNat (anchor.getD ms) := by
  unfold ConnectingStateHandler.anchor
  cases h with
  | away hne => exact absurd hs hne
  | marked _ hp => rw [if_pos hp, Option.getD_none]
  | started _ hp hstart => rw [if_neg (by simp [hp]), hstart, Option.getD_some]

theorem Agrees.unmarked (h : Agrees ts anchor ctx) (hs : ctx.state ≠ .WIFI_CONNECTING) :
    ctx.reconnectPending = false := by
  cases h with
  | away _ hp => exact hp
  | marked hc => exact absurd hc hs
  | started hc => exact absurd hc hs

theorem Agrees.getD_mem (h : Agrees ts anchor ctx) (hs : ctx.state = .WIFI_CONNECTING) :
    anchor.getD ms ∈ ts ++ [ms] := by
  cases h with
  | away hne => exact absurd hs hne
  | marked => simp
  | started _ _ _ hmem => simp [hmem]

theorem Agrees.congr {ctx' : WiFiContext} (h : Agrees ts anchor ctx)
    (hs : ctx'.state = ctx.state) (hp : ctx'.reconnectPending = ctx.reconnectPending)
    (hb : ctx'.connectStartTime = ctx.connectStartTime) : Agrees ts anchor ctx' := by
  cases h with
  | away hne hp' => exact .away (hs ▸ hne) (hp.trans hp')
  | marked hs' hp' => exact .marked (hs.trans hs') (hp.trans hp')
  | started hs' hp' hstart hmem =>
    exact .started (hs.trans hs') (hp.trans hp') (hb.trans hstart) hmem

/-- Without a campaign the handler of the state owns the tick. -/
theorem Anchored.answer_eq (h : Anchored ts o) (now : UInt32) (radio : Radio) :
    o.manager.answer now radio = getStateHandler o.manager.setup now radio o.manager.ctx := by
  unfold WiFiManager.answer
  rw [h.noCampaign]
  rfl

@[simp] theorem state_tick : (o.step (.tick ms radio)).manager.ctx.state =
    (o.manager.answer (.ofNat ms) radio).transition.nextState := by
  simp [Observed.step, onDevice, update_eq]

@[simp] theorem reconnectPending_tick : (o.step (.tick ms radio)).manager.ctx.reconnectPending =
    (o.manager.answer (.ofNat ms) radio).ctx.reconnectPending := by
  simp [Observed.step, onDevice, update_eq]

@[simp] theorem connectStartTime_tick : (o.step (.tick ms radio)).manager.ctx.connectStartTime =
    (o.manager.answer (.ofNat ms) radio).ctx.connectStartTime := by
  simp [Observed.step, onDevice, update_eq]

theorem anchor_tick : (o.step (.tick ms radio)).anchor =
    reanchor o.state (o.step (.tick ms radio)).manager.ctx.state o.anchor (.tick ms radio) := rfl

theorem Anchored.attempt (h : Anchored ts o) (ms : ℕ) (radio : Radio)
    (hs : o.state = .WIFI_CONNECTING) :
    Attempt (.ofNat ms) (.ofNat (o.anchor.getD ms)) radio
      (o.manager.answer (.ofNat ms) radio) := by
  have ha := attempt_execute (.ofNat ms) radio h.stored h.link hs
  rw [h.agrees.start_eq hs] at ha
  rw [h.answer_eq, getStateHandler]
  split
  · next hd => exact absurd (hs.symm.trans hd) (by decide)
  · exact ha
  all_goals next hd => exact absurd (hs.symm.trans hd) (by decide)

/-- A tick of a stay keeps the budget, or sets it if the entry did not. -/
theorem Anchored.agrees_stay (h : Anchored ts o) (hs : o.state = .WIFI_CONNECTING) :
    Agrees (ts ++ [ms]) (o.step (.tick ms radio)).anchor
      (o.step (.tick ms radio)).manager.ctx := by
  have ha := h.attempt ms radio hs
  by_cases hn : (o.step (.tick ms radio)).manager.ctx.state = .WIFI_CONNECTING
  · rw [anchor_tick, reanchor, if_neg (not_not.mpr hn), if_pos hs]
    apply Agrees.started hn
    · rw [reconnectPending_tick, ha.consumed]
    · rw [connectStartTime_tick, ha.budget]
    · exact h.agrees.getD_mem hs
  · apply Agrees.away hn
    rw [reconnectPending_tick, ha.consumed]

/-- A tick of a connection that finds it lost only sets the marker. -/
theorem Anchored.agrees_connection (h : Anchored ts o) (hs : o.state = .WIFI_CONNECTED) :
    Agrees (ts ++ [ms]) (o.step (.tick ms radio)).anchor
      (o.step (.tick ms radio)).manager.ctx := by
  have ha : o.manager.answer (.ofNat ms) radio =
      ConnectedStaStateHandler (.ofNat ms) radio o.manager.ctx := by
    rw [h.answer_eq, getStateHandler, show o.manager.ctx.state = .WIFI_CONNECTED from hs]
  have hne : o.state ≠ .WIFI_CONNECTING := by rw [hs]; decide
  unfold ConnectedStaStateHandler at ha
  split at ha
  · have hn : (o.step (.tick ms radio)).manager.ctx.state = .WIFI_CONNECTING := by
      rw [state_tick, ha]
    rw [anchor_tick, reanchor, if_neg (not_not.mpr hn), if_neg hne, if_pos hs]
    apply Agrees.marked hn
    rw [reconnectPending_tick, ha]
  · apply Agrees.away
    · rw [state_tick, ha]
      exact hne
    · rw [reconnectPending_tick, ha]
      exact h.agrees.unmarked hne

/-- Any other tick begins a budget where it begins to connect. -/
theorem Anchored.agrees_entry (h : Anchored ts o) (hs : o.state ≠ .WIFI_CONNECTING)
    (hc : o.state ≠ .WIFI_CONNECTED) :
    Agrees (ts ++ [ms]) (o.step (.tick ms radio)).anchor
      (o.step (.tick ms radio)).manager.ctx := by
  have he := entry_stateHandler (.ofNat ms) radio h.stored hs hc
  rw [← h.answer_eq] at he
  have hp : (o.step (.tick ms radio)).manager.ctx.reconnectPending = false := by
    rw [reconnectPending_tick, he.marker]
    exact h.agrees.unmarked hs
  rcases he.next with hn | ⟨hn, hstart⟩
  · apply Agrees.away _ hp
    rw [state_tick, hn]
    exact hs
  · rw [← state_tick] at hn
    rw [anchor_tick, reanchor, if_neg (not_not.mpr hn), if_neg hs, if_neg hc]
    apply Agrees.started hn hp
    · rw [connectStartTime_tick, hstart]
    · simp

theorem Anchored.tick (h : Anchored ts o) (ms : ℕ) (radio : Radio) :
    Anchored (ts ++ [ms]) (o.step (.tick ms radio)) := by
  obtain ⟨hp, hl⟩ := linkLevel_tick (tick_answer o.manager (.ofNat ms) radio) h.noCampaign
  constructor
  · exact h.stored
  · simp [Observed.step, onDevice, update_eq, hp]
  · simp [Observed.step, onDevice, update_eq, hl, h.link]
  · by_cases hs : o.state = .WIFI_CONNECTING
    · exact h.agrees_stay hs
    · by_cases hc : o.state = .WIFI_CONNECTED
      · exact h.agrees_connection hc
      · exact h.agrees_entry hs hc

theorem Anchored.drop {reason : ℤ} (h : Anchored ts o)
    (hr : isAuthMechanismFailure reason = false) : Anchored ts (o.step (.drop reason)) := by
  unfold Observed.step onDevice onDisconnected reanchor
  simp only [hr, Bool.false_eq_true, if_false]
  by_cases hc : o.manager.ctx.state = .WIFI_CONNECTED
  · have hne : o.state ≠ .WIFI_CONNECTING := by
      rw [Observed.state, hc]
      decide
    rw [if_pos hc, if_neg hne]
    exact ⟨h.stored, h.noCampaign, hr, .marked rfl rfl⟩
  · rw [if_neg hc]
    refine ⟨h.stored, h.noCampaign, hr, ?_⟩
    split
    · exact h.agrees.congr rfl rfl rfl
    · next hne => exact .away hne (h.agrees.unmarked hne)

theorem Anchored.rewrite {prefs : Nvs} (h : Anchored ts o) (hw : hasStoredCredentials prefs) :
    Anchored ts (o.step (.rewrite prefs)) := by
  refine ⟨hw, h.noCampaign, h.link, ?_⟩
  unfold Observed.step onDevice reanchor
  dsimp only
  split
  · exact h.agrees
  · next hne => exact .away hne (h.agrees.unmarked hne)

theorem Regular.of_concat {w : WiFiSetup} {u : List DeviceEvent} {e : DeviceEvent}
    (h : Regular w (u ++ [e])) : Regular w u := by
  have hsub : (times u).Sublist (times (u ++ [e])) :=
    (List.sublist_append_left u [e]).filterMap _
  constructor
  · exact h.stored
  · exact fun prefs hm => h.kept prefs (List.mem_append_left _ hm)
  · exact fun reason hm => h.link reason (List.mem_append_left _ hm)
  · exact h.ordered.sublist hsub
  · exact fun s hs t ht => h.span s (hsub.subset hs) t (hsub.subset ht)

/-- The last tick of a regular run is within one turn of the manager's clock after each tick. -/
theorem Regular.clock {w : WiFiSetup} {u : List DeviceEvent}
    (h : Regular w (u ++ [.tick ms radio])) : ∀ s ∈ times u ++ [ms], s ≤ ms ∧ ms < s + 2 ^ 32 := by
  have ht : times (u ++ [.tick ms radio]) = times u ++ [ms] := times_append u [.tick ms radio]
  have hord := h.ordered
  have hspan := h.span
  rw [ht] at hord hspan
  intro s hs
  constructor
  · rcases List.mem_append.mp hs with hu | hl
    · exact (List.pairwise_append.mp hord).2.2 s hu ms (List.mem_singleton_self ms)
    · exact (List.mem_singleton.mp hl).le
  · exact hspan s hs ms (List.mem_append_right _ (List.mem_singleton_self ms))

/-- The observer and the manager agree all along a regular run. -/
theorem anchored_reached {w : WiFiSetup} {events : List DeviceEvent} (h : Regular w events) :
    Anchored (times events) (Observed.reached w events) := by
  induction events using List.reverseRecOn with
  | nil => exact ⟨h.stored, rfl, rfl, .away WiFiState.noConfusion rfl⟩
  | append_singleton u e ih =>
    have hu := ih h.of_concat
    rw [Observed.reached_concat, times_append]
    cases e with
    | tick ms radio => exact hu.tick ms radio
    | drop reason =>
      rw [show times [.drop reason] = [] from rfl, List.append_nil]
      exact hu.drop (h.link reason (by simp))
    | rewrite prefs =>
      rw [show times [.rewrite prefs] = [] from rfl, List.append_nil]
      exact hu.rewrite (h.kept prefs (by simp))

/-- In agreement with the observer, a tick in `WIFI_CONNECTING` falls back exactly past the
budget on a failure or without a network. -/
theorem Anchored.fallback_iff (h : Anchored ts o) (hs : o.state = .WIFI_CONNECTING)
    (ht : ∀ s ∈ ts ++ [ms], s ≤ ms ∧ ms < s + 2 ^ 32) :
    isApModeState (o.step (.tick ms radio)).state = true ↔
      (radio.status = 4 ∨ radio.status = 1) ∧ 30000 < ms - o.anchor.getD ms := by
  obtain ⟨hle, hlt⟩ := ht _ (h.agrees.getD_mem hs)
  rw [Observed.state, state_tick, (h.attempt ms radio hs).fallback, budget_spent_iff hle hlt]

/-- No event of another kind leaves `WIFI_CONNECTING`. -/
theorem state_of_not_tick {e : DeviceEvent} (he : e.time? = none)
    (hs : o.state = .WIFI_CONNECTING) : (o.step e).state = .WIFI_CONNECTING := by
  cases e with
  | tick => cases he
  | rewrite => exact hs
  | drop reason =>
    have hd := drop_onDisconnected o.manager reason
    simp only [Observed.state, Observed.step, onDevice] at hs ⊢
    generalize (o.manager.onDisconnected reason).1.ctx = ctx at hd
    cases hd with
    | authLive => rfl
    | link => rfl
    | auth => exact hs
    | noted => exact hs

end Run

/-- Every stay in `WIFI_CONNECTING` has one full budget from its start: the manager falls back
to the access point only past it, and past it at every failure that the radio reports. -/
theorem each_drop_gets_one_budget {w : WiFiSetup} {events : List DeviceEvent}
    (h : Regular w events) :
    EverySplit (fun u e => Budgeted (Observed.reached w u) e) events := by
  induction events using List.reverseRecOn with
  | nil => exact everySplit_nil _
  | append_singleton u e ih =>
    refine everySplit_concat.mpr ⟨ih h.of_concat, ?_⟩
    have ha := anchored_reached h.of_concat
    constructor
    · intro hs hap
      cases e with
      | tick ms radio =>
        exact ⟨ms, radio, rfl, ((ha.fallback_iff hs h.clock).mp hap).2⟩
      | _ =>
        rw [state_of_not_tick rfl hs] at hap
        cases hap
    · rintro ms radio rfl hs hlate hr
      exact (ha.fallback_iff hs h.clock).mpr ⟨hr, hlate⟩

/-- A session that is dropped and dropped again: the tick at 40000 sets the budget. -/
def outage : List DeviceEvent :=
  [.tick 0 (unaddressed 0), .tick 100 (addressed "192.168.1.20"), .drop 3,
    .tick 40000 (unaddressed 1), .drop 201, .tick 70000 (unaddressed 1),
    .tick 70001 (unaddressed 1)]

theorem regular_outage : Regular home outage where
  stored := by decide
  kept prefs h := by simp [outage] at h
  link := by
    intro reason h
    simp only [outage, List.mem_cons, reduceCtorEq, DeviceEvent.drop.injEq, List.not_mem_nil,
      false_or, or_false] at h
    rcases h with rfl | rfl <;> rfl
  ordered := by decide
  span := by decide

theorem each_drop_gets_one_budget_outage :
    EverySplit (fun u e => Budgeted (Observed.reached home u) e) outage ∧
      (Observed.reached home (outage.take 6)).state = .WIFI_CONNECTING ∧
      (Observed.reached home outage).state = .WIFI_AP_MODE_NO_AP :=
  ⟨each_drop_gets_one_budget regular_outage, by decide +kernel, by decide +kernel⟩

end VehicleSpy.Firmware.ConnectBudget
