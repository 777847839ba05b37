import VehicleSpy.Discovery.PacketCodec
import VehicleSpy.Machine.MillisCounter
import VehicleSpy.Machine.Run
import Mathlib.Data.List.Chain

/-! # The broadcasts of the firmware

The firmware broadcasts twice a second for two minutes after a connection, and then every ten
seconds, so that a listener of twelve seconds hears it. Between five and ten minutes it broadcasts
every thirty seconds. A reset takes the time of the last broadcast back to zero, which makes the
next update broadcast unless the millisecond counter has just started a round.
-/

namespace VehicleSpy.Discovery

open Text Machine

def DISCOVERY_PACKET_SIZE : ℕ := 106
def TCP_PORT : UInt32 := 3333
def OTA_HTTP_PORT : UInt16 := 80

def DISCOVERY_INTERVAL_FAST_MS : UInt32 := 500
def DISCOVERY_INTERVAL_2_5_MIN_MS : UInt32 := 10000
def DISCOVERY_INTERVAL_5_10_MIN_MS : UInt32 := 30000
def DISCOVERY_INTERVAL_SLOW_MS : UInt32 := 10000

def DISCOVERY_AGE_2_MIN_MS : UInt32 := 120000
def DISCOVERY_AGE_5_MIN_MS : UInt32 := 300000
def DISCOVERY_AGE_10_MIN_MS : UInt32 := 600000

structure DiscoveryContext where
  connectTimeMs : UInt32 := 0
  lastBroadcastMs : UInt32 := 0
  backoffActive : Bool := false
  deriving DecidableEq, Repr

/-- What the radio, the clocks and the signer answer to an update. -/
structure Surroundings where
  haveClient : Bool
  mode : ℤ
  buffer : Bytes
  timestamp : UInt64
  nonce : UInt32
  signPacket : Bytes → Bytes
  beginPacket : ℤ
  written : ℕ
  endPacket : ℤ

structure DiscoveryManager where
  deviceId : Bytes
  ctx : DiscoveryContext := {}
  broadcastCount : UInt32 := 0
  resetCount : UInt32 := 0

namespace DiscoveryManager

def discoveryIntervalMs (ageMs : UInt32) : UInt32 :=
  if ageMs < DISCOVERY_AGE_2_MIN_MS then DISCOVERY_INTERVAL_FAST_MS
  else if ageMs < DISCOVERY_AGE_5_MIN_MS then DISCOVERY_INTERVAL_2_5_MIN_MS
  else if ageMs < DISCOVERY_AGE_10_MIN_MS then DISCOVERY_INTERVAL_5_10_MIN_MS
  else DISCOVERY_INTERVAL_SLOW_MS

/-- A client does not keep the device from broadcasting. -/
def shouldBroadcast (mode : ℤ) (_haveClient : Bool) : Bool :=
  if mode = 2 then true else if mode = 1 then true else false

/-- The packet, if it was sent. -/
def broadcast (m : DiscoveryManager) (env : Surroundings) : DiscoveryManager × Option Bytes :=
  let packet := env.signPacket (buildDiscoveryPacket env.buffer m.deviceId TCP_PORT OTA_HTTP_PORT
    env.timestamp env.nonce)
  if env.beginPacket ≤ 0 then (m, none)
  else if env.written ≠ DISCOVERY_PACKET_SIZE then (m, none)
  else if env.endPacket ≤ 0 then (m, none)
  else ({ m with broadcastCount := m.broadcastCount + 1 }, some packet)

/-- A broadcast counts from when it is tried. -/
def update (m : DiscoveryManager) (now : UInt32) (env : Surroundings) :
    DiscoveryManager × Option Bytes :=
  if shouldBroadcast env.mode env.haveClient then
    let ageMs := now - m.ctx.connectTimeMs
    let intervalMs := discoveryIntervalMs ageMs
    if intervalMs ≤ now - m.ctx.lastBroadcastMs then
      broadcast { m with ctx := { m.ctx with lastBroadcastMs := now } } env
    else (m, none)
  else (m, none)

def resetBackoff (m : DiscoveryManager) (millis : UInt32) : DiscoveryManager :=
  { m with
    resetCount := m.resetCount + 1
    ctx := { connectTimeMs := millis, lastBroadcastMs := 0, backoffActive := true } }

end DiscoveryManager

open DiscoveryManager

/-- A call, at the time that its counter value was read. -/
inductive Call
  | update (time : ℕ) (env : Surroundings)
  | resetBackoff (time : ℕ)

/-- A packet on the wire. -/
structure Beacon where
  time : ℕ
  packet : Bytes
  deriving DecidableEq

def managerStep (m : DiscoveryManager) : Call → DiscoveryManager × List Beacon
  | .update time env =>
    let (m, sent) := m.update (counter time) env
    (m, sent.toList.map fun packet => ⟨time, packet⟩)
  | .resetBackoff time => (m.resetBackoff (counter time), [])

def Call.tick? : Call → Option ℕ
  | .update time _ => some time
  | .resetBackoff _ => none

/-- The device is in one of the two modes, and the radio takes every packet. -/
def Call.Sends : Call → Prop
  | .update _ env => (env.mode = 1 ∨ env.mode = 2) ∧ 0 < env.beginPacket ∧
      env.written = DISCOVERY_PACKET_SIZE ∧ 0 < env.endPacket
  | .resetBackoff _ => True

/-- The times are read one after the other. An update may only have read the time before a reset
that it follows if ten seconds of the round of the counter are over. -/
def Call.Follows : Call → Call → Prop
  | .update _ _, .update _ _ => True
  | .update s _, .resetBackoff r => s ≤ r
  | .resetBackoff r, .resetBackoff r' => r ≤ r'
  | .resetBackoff r, .update t _ => r ≤ t ∨ 10000 ≤ t % 2 ^ 32

/-- A run with ticks that are at most `g` apart. -/
structure Steady (g : ℕ) (calls : List Call) : Prop where
  ticks : (calls.filterMap Call.tick?).IsChain fun s t => s ≤ t ∧ t ≤ s + g
  order : calls.IsChain Call.Follows
  sends : ∀ call ∈ calls, call.Sends

/-- An update is not held back by the interval of thirty seconds alone. -/
def NotHeldBack (m : DiscoveryManager) : Call → Prop
  | .update time _ =>
    ¬ (discoveryIntervalMs (counter time - m.ctx.connectTimeMs) = DISCOVERY_INTERVAL_5_10_MIN_MS ∧
      10000 ≤ counter time - m.ctx.lastBroadcastMs ∧
      counter time - m.ctx.lastBroadcastMs < DISCOVERY_INTERVAL_5_10_MIN_MS)
  | .resetBackoff _ => True

/-- Two consecutive broadcasts are at most twelve seconds and the time between ticks apart. -/
def NeverSilent (g : ℕ) (beacons : List Beacon) : Prop :=
  beacons.IsChain fun a b => b.time ≤ a.time + (12000 + g)

section Decidable

instance : (call : Call) → Decidable call.Sends
  | .update _ _ => inferInstanceAs (Decidable ((_ ∨ _) ∧ _ ∧ _ ∧ _))
  | .resetBackoff _ => isTrue trivial

instance : (call next : Call) → Decidable (call.Follows next)
  | .update _ _, .update _ _ => isTrue trivial
  | .update s _, .resetBackoff r => inferInstanceAs (Decidable (s ≤ r))
  | .resetBackoff r, .resetBackoff r' => inferInstanceAs (Decidable (r ≤ r'))
  | .resetBackoff r, .update t _ => inferInstanceAs (Decidable (r ≤ t ∨ 10000 ≤ t % 2 ^ 32))

instance (m : DiscoveryManager) : (call : Call) → Decidable (NotHeldBack m call)
  | .update _ _ => inferInstanceAs (Decidable (¬ (_ ∧ _ ∧ _)))
  | .resetBackoff _ => isTrue trivial

instance (g : ℕ) (beacons : List Beacon) : Decidable (NeverSilent g beacons) :=
  inferInstanceAs (Decidable (List.IsChain _ _))

end Decidable

section Update

variable {m : DiscoveryManager} {env : Surroundings} {t : ℕ}

theorem discoveryIntervalMs_cases (ageMs : UInt32) :
    discoveryIntervalMs ageMs = 500 ∨ discoveryIntervalMs ageMs = 10000 ∨
      discoveryIntervalMs ageMs = 30000 := by
  unfold discoveryIntervalMs
  split
  · exact Or.inl rfl
  · split
    · exact Or.inr (Or.inl rfl)
    · split
      · exact Or.inr (Or.inr rfl)
      · exact Or.inr (Or.inl rfl)

theorem discoveryIntervalMs_fast {ageMs : UInt32} (h : ageMs.toNat < 120000) :
    discoveryIntervalMs ageMs = 500 := by
  rw [discoveryIntervalMs, if_pos (UInt32.lt_iff_toNat_lt.mpr h)]
  rfl

/-- An update in a run: it broadcasts just when the interval is over. -/
theorem managerStep_update (h : (Call.update t env).Sends) :
    (discoveryIntervalMs (counter t - m.ctx.connectTimeMs) ≤ counter t - m.ctx.lastBroadcastMs ∧
      ∃ packet, managerStep m (.update t env) =
        ({ m with
          ctx := { m.ctx with lastBroadcastMs := counter t }
          broadcastCount := m.broadcastCount + 1 }, [⟨t, packet⟩])) ∨
    (counter t - m.ctx.lastBroadcastMs < discoveryIntervalMs (counter t - m.ctx.connectTimeMs) ∧
      managerStep m (.update t env) = (m, [])) := by
  obtain ⟨hmode, hbegin, hwritten, hend⟩ := h
  have hsb : shouldBroadcast env.mode env.haveClient = true := by
    rcases hmode with hmode | hmode <;> rw [shouldBroadcast, hmode] <;> rfl
  by_cases hdue : discoveryIntervalMs (counter t - m.ctx.connectTimeMs) ≤
      counter t - m.ctx.lastBroadcastMs
  · refine Or.inl ⟨hdue, ?_⟩
    simp only [managerStep, DiscoveryManager.update, hsb, if_true, hdue, broadcast,
      if_neg (not_le_of_gt hbegin), hwritten, ne_eq, not_true_eq_false, if_false,
      if_neg (not_le_of_gt hend)]
    exact ⟨_, rfl⟩
  · refine Or.inr ⟨UInt32.not_le.mp hdue, ?_⟩
    simp only [managerStep, DiscoveryManager.update, hsb, if_true, hdue, if_false]
    rfl

/-- An update that is held back for no other reason comes less than ten seconds after the time of
the last broadcast. -/
theorem since_lt_of_held (hg : NotHeldBack m (.update t env))
    (hheld : counter t - m.ctx.lastBroadcastMs <
      discoveryIntervalMs (counter t - m.ctx.connectTimeMs)) :
    (counter t - m.ctx.lastBroadcastMs).toNat < 10000 := by
  rw [UInt32.lt_iff_toNat_lt] at hheld
  rcases discoveryIntervalMs_cases (counter t - m.ctx.connectTimeMs) with h | h | h
  · rw [h] at hheld
    exact hheld.trans (by decide)
  · rwa [h] at hheld
  · rw [h] at hheld
    by_contra hlong
    exact hg ⟨h, UInt32.le_iff_toNat_le.mpr (not_lt.mp hlong), UInt32.lt_iff_toNat_lt.mpr hheld⟩

end Update

section Silence

/-- The manager between two broadcasts, at a last tick `τ` after the broadcast at `B`: either the
broadcast stands, or it was reset since, or it was reset and the counter has started a round, in
whose first half second the ticks are held back. -/
inductive Silent (g B τ : ℕ) : Call → DiscoveryManager → Prop where

  | kept {m : DiscoveryManager} {env : Surroundings} : m.ctx.lastBroadcastMs = counter B →
      B ≤ τ → τ < B + 10000 → Silent g B τ (.update τ env) m

  | reset {m : DiscoveryManager} {R : ℕ} : m.ctx.lastBroadcastMs = 0 →
      m.ctx.connectTimeMs = counter R → τ ≤ R → B ≤ τ → τ < B + 10000 →
      Silent g B τ (.resetBackoff R) m

  | round {m : DiscoveryManager} {last : Call} {R W : ℕ} : m.ctx.lastBroadcastMs = 0 →
      m.ctx.connectTimeMs = counter R → 2 ^ 32 ∣ W → W ≤ τ → τ < W + 500 →
      W < B + 10000 + g → W ≤ R + g → B ≤ τ →
      (last = .resetBackoff R ∧ τ ≤ R ∨ (∃ env, last = .update τ env) ∧ R ≤ τ) →
      Silent g B τ last m

variable {g B τ R t : ℕ} {m : DiscoveryManager} {last : Call} {env : Surroundings}

theorem Silent.resetBackoff (h : Silent g B τ last m) (hnext : last.Follows (.resetBackoff R)) :
    Silent g B τ (.resetBackoff R) (m.resetBackoff (counter R)) := by
  cases h with
  | kept _ hle hlt => exact .reset rfl rfl hnext hle hlt
  | reset _ _ hR hle hlt => exact .reset rfl rfl (hR.trans hnext) hle hlt
  | @round _ _ R₀ W _ _ hround hWτ hτW hWB _ hle hlast =>
    have hτR : τ ≤ R := by
      rcases hlast with ⟨rfl, hR⟩ | ⟨⟨env, rfl⟩, _⟩
      · exact hR.trans hnext
      · exact hnext
    exact .round rfl rfl hround hWτ hτW hWB (hWτ.trans (hτR.trans (Nat.le_add_right R g))) hle
      (Or.inl ⟨rfl, hτR⟩)

theorem Silent.lt (h : Silent g B τ last m) : τ < B + (11000 + g) := by
  cases h with
  | kept _ _ hlt => omega
  | reset _ _ _ _ hlt => omega
  | round _ _ _ _ hτW hWB _ _ _ => omega

/-- Soon after a reset, a tick is held back only where the counter has just started a round. -/
theorem start_of_held (hlast : m.ctx.lastBroadcastMs = 0)
    (hconnect : m.ctx.connectTimeMs = counter R) (hRt : R ≤ t) (hsoon : t < R + 120000)
    (hwait : counter t - m.ctx.lastBroadcastMs <
      discoveryIntervalMs (counter t - m.ctx.connectTimeMs)) : t % 2 ^ 32 < 500 := by
  have hfast : discoveryIntervalMs (counter t - m.ctx.connectTimeMs) = 500 := by
    apply discoveryIntervalMs_fast
    rw [hconnect, toNat_counter_sub hRt (by omega)]
    omega
  rw [hfast, hlast, UInt32.lt_iff_toNat_lt, toNat_counter_sub_zero] at hwait
  exact hwait

/-- One tick of a run: it broadcasts soon enough after the last broadcast, or the silence goes
on. -/
theorem Silent.update (hg : g ≤ 1000) (h : Silent g B τ last m)
    (hnext : last.Follows (.update t env)) (hτ : τ ≤ t) (ht : t ≤ τ + g)
    (hsends : (Call.update t env).Sends) (hheld : NotHeldBack m (.update t env)) :
    (∃ packet, (managerStep m (.update t env)).2 = [⟨t, packet⟩] ∧ t ≤ B + (12000 + g) ∧
      Silent g t t (.update t env) (managerStep m (.update t env)).1) ∨
    (managerStep m (.update t env)).2 = [] ∧
      Silent g B t (.update t env) (managerStep m (.update t env)).1 := by
  have hlt := h.lt
  rcases managerStep_update (m := m) hsends with ⟨_, packet, hstep⟩ | ⟨hwait, hstep⟩
  · rw [hstep]
    exact Or.inl ⟨packet, rfl, by omega, .kept rfl le_rfl (by omega)⟩
  have hsince := since_lt_of_held hheld hwait
  rw [hstep]
  refine Or.inr ⟨rfl, ?_⟩
  cases h with
  | kept hlast hle _ =>
    rw [hlast, toNat_counter_sub (hle.trans hτ) (by omega)] at hsince
    exact .kept hlast (hle.trans hτ) (by omega)
  | @reset _ R hlast hconnect hR hle hlt =>
    -- A tick that read the time before the reset would not be held back.
    rw [hlast, toNat_counter_sub_zero] at hsince
    have hfresh : R ≤ t := by
      rcases hnext with h | h
      · exact h
      · omega
    have hstart := start_of_held hlast hconnect hfresh (by omega) hwait
    exact .round (W := t - t % 2 ^ 32) hlast hconnect (Nat.dvd_sub_mod t) (Nat.sub_le _ _)
      (by omega) (by omega) (by omega) (by omega) (Or.inr ⟨⟨env, rfl⟩, hfresh⟩)
  | @round _ _ R W hlast hconnect hround hWτ hτW hWB hWR hle hlast' =>
    have hplace : t % 2 ^ 32 = t - W := by
      obtain ⟨k, rfl⟩ := hround
      omega
    have hfresh : R ≤ t := by
      rcases hlast' with ⟨rfl, _⟩ | ⟨_, hR⟩
      · rcases hnext with h | h
        · exact h
        · omega
      · exact hR.trans hτ
    have hstart := start_of_held hlast hconnect hfresh (by omega) hwait
    exact .round hlast hconnect hround (hWτ.trans hτ) (by omega) hWB hWR (hle.trans hτ)
      (Or.inr ⟨⟨env, rfl⟩, hfresh⟩)

variable {calls : List Call}

/-- From a broadcast on: what follows it in the run. -/
theorem neverSilent_cons (hg : g ≤ 1000) (packet : Bytes) (h : Silent g B τ last m)
    (hticks : (τ :: calls.filterMap Call.tick?).IsChain fun s t => s ≤ t ∧ t ≤ s + g)
    (horder : (last :: calls).IsChain Call.Follows) (hsends : ∀ call ∈ calls, call.Sends)
    (hguarded : Guarded managerStep NotHeldBack m calls) :
    NeverSilent g (⟨B, packet⟩ :: emitted managerStep m calls) := by
  induction calls generalizing B τ last m packet with
  | nil => exact List.isChain_singleton _
  | cons call calls ih =>
    obtain ⟨hnext, horder⟩ := List.isChain_cons_cons.mp horder
    obtain ⟨hcall, hrest⟩ := List.forall_mem_cons.mp hsends
    obtain ⟨hheld, hguarded⟩ := hguarded
    rw [emitted_cons]
    cases call with
    | resetBackoff R => exact ih packet (h.resetBackoff hnext) hticks horder hrest hguarded
    | update t env =>
      obtain ⟨⟨hτ, ht⟩, hticks⟩ := List.isChain_cons_cons.mp hticks
      rcases h.update hg hnext hτ ht hcall hheld with ⟨sent, hout, hsoon, hs⟩ | ⟨hout, hs⟩
      · rw [hout]
        exact List.isChain_cons_cons.mpr ⟨hsoon, ih sent hs hticks horder hrest hguarded⟩
      · rw [hout]
        exact ih packet hs hticks horder hrest hguarded

end Silence

/-- A run from any state of the manager, whatever the time and the resets: as long as no update is
held back by the interval of thirty seconds, no two broadcasts are further apart than a listener
waits. -/
theorem broadcasts_neverSilent {g : ℕ} (hg : g ≤ 1000) {m : DiscoveryManager} {calls : List Call}
    (hrun : Steady g calls) (hguarded : Guarded managerStep NotHeldBack m calls) :
    NeverSilent g (emitted managerStep m calls) := by
  obtain ⟨hticks, horder, hsends⟩ := hrun
  induction calls generalizing m with
  | nil => exact List.isChain_nil
  | cons call calls ih =>
    obtain ⟨hcall, hrest⟩ := List.forall_mem_cons.mp hsends
    obtain ⟨-, hguarded⟩ := hguarded
    rw [emitted_cons]
    cases call with
    | resetBackoff R => exact ih hguarded hticks horder.tail hrest
    | update t env =>
      rcases managerStep_update (m := m) hcall with ⟨_, packet, hstep⟩ | ⟨_, hstep⟩
      · rw [hstep] at hguarded ⊢
        exact neverSilent_cons hg packet (.kept rfl le_rfl (by omega)) hticks horder hrest hguarded
      · rw [hstep] at hguarded ⊢
        exact ih hguarded hticks.tail horder.tail hrest

/-- An update in the mode of a station, with a radio that takes the packet. -/
def tickAt (time : ℕ) : Call :=
  .update time ⟨false, 1, List.replicate 106 0, 0, counter time, id, 1, 106, 1⟩

/-- A device that started at a time. -/
def startedAt (time : ℕ) : DiscoveryManager :=
  DiscoveryManager.resetBackoff ⟨List.replicate 16 7, {}, 0, 0⟩ (counter time)

/-- Two ticks across the end of a round, one of them behind a reset. -/
theorem broadcasts_neverSilent_round : NeverSilent 1000 (emitted managerStep
    (startedAt 4294966000) [tickAt 4294966400, .resetBackoff 4294966900, tickAt 4294967400,
      tickAt 4294967900]) :=
  broadcasts_neverSilent (by decide)
    ⟨by decide +kernel, by decide +kernel, by decide +kernel⟩ (by decide +kernel)

/-- Ticks every second: after five minutes the device is silent for thirty seconds. -/
theorem not_neverSilent : ¬ ∀ g ≤ 1000, ∀ (m : DiscoveryManager) (calls : List Call),
    Steady g calls → NeverSilent g (emitted managerStep m calls) := by
  intro h
  have hsilent := h 1000 le_rfl (startedAt 0)
    ((List.range 340).map fun i => tickAt (1000 * i + 1000))
    ⟨by decide +kernel, by decide +kernel, by decide +kernel⟩
  revert hsilent
  decide +kernel

end VehicleSpy.Discovery
