import VehicleSpy.Firmware.WiFiManager
import VehicleSpy.Machine.Phases
import VehicleSpy.Text.Printf

/-! # The heartbeat of the loop

Every few seconds the loop prints one line about its state, on the serial port and to the client.
The interval is measured from heartbeat to heartbeat on the millisecond counter, and the line is
printed into a buffer of fixed size.
-/

namespace VehicleSpy.Firmware

open Text Machine PhaseTimer

def stateName : WiFiState → Bytes
  | .WIFI_DISCONNECTED => ascii "WIFI_DISCONNECTED"
  | .WIFI_CONNECTING => ascii "WIFI_CONNECTING"
  | .WIFI_CONNECTED => ascii "WIFI_CONNECTED"
  | .WIFI_AP_MODE_DEFAULT => ascii "WIFI_AP_MODE_DEFAULT"
  | .WIFI_AP_MODE_AUTH_FAIL => ascii "WIFI_AP_MODE_AUTH_FAIL"
  | .WIFI_AP_MODE_NO_AP => ascii "WIFI_AP_MODE_NO_AP"

/-- What a heartbeat reports, besides the time. -/
structure LoopStatus where
  wifiState : WiFiState
  monitorActive : Bool
  clientIp : Bytes := []
  discoveryCadence : Bytes := ascii "none"
  ledPattern : ℤ := 0
  targetSsid : Bytes := []
  ownIp : Bytes := []
  authDetail : Bytes := []
  deriving DecidableEq, Repr

structure LoopHeartbeat where
  intervalMs : UInt32
  lastTickMs : UInt32 := 0
  snapshot : Bytes := []
  deriving DecidableEq, Repr

namespace LoopHeartbeat

def BUFFER_SIZE : ℕ := 384

/-- The state of an auth campaign, if one is in progress. -/
def getAuthCampaignDetail (ctx : WiFiContext) : Bytes :=
  if !ctx.pendingAuthFail then []
  else ascii "auth fail reason=" ++ decimal ctx.lastDisconnectReason ++
    ascii " strategy=" ++ decimal ctx.authFailStrategyIndex ++ ascii "/3" ++
    ascii " loop=" ++ decimal ctx.authFailStrategyLoop ++ ascii "/3"

/-- A text of the line, where an empty one is named. -/
def orNone (text : Bytes) : Bytes := if text.isEmpty then ascii "none" else cString text

/-- The line up to the name of the network. -/
def head (nowMs : UInt32) (status : LoopStatus) : Bytes :=
  ascii "[STATE] uptime=" ++ decimal nowMs.toNat ++ ascii "ms wifi=" ++
    stateName status.wifiState ++ ascii " ssid="

/-- The line behind the name of the network. -/
def tail (version : Bytes) (status : LoopStatus) : Bytes :=
  ascii " ip=" ++ orNone status.ownIp ++ ascii " client=" ++ orNone status.clientIp ++
    ascii " disc=" ++ cString status.discoveryCadence ++
    ascii " led=" ++ decimal status.ledPattern ++
    ascii " monitor=" ++ (if status.monitorActive then ascii "ACTIVE" else ascii "idle") ++
    (if status.authDetail.isEmpty then [] else ascii " auth=" ++ cString status.authDetail) ++
    ascii " fw=" ++ version ++ [CR, LF]

def line (version : Bytes) (nowMs : UInt32) (status : LoopStatus) : Bytes :=
  head nowMs status ++ orNone status.targetSsid ++ tail version status

/-- The line as the buffer holds it. -/
def printed (version : Bytes) (nowMs : UInt32) (status : LoopStatus) : Bytes :=
  cString ((snprintf (List.replicate BUFFER_SIZE 0) 0 BUFFER_SIZE
    (line version nowMs status)).getD [])

/-- Whether the heartbeat is due; then there is a new snapshot. -/
def tick (h : LoopHeartbeat) (version : Bytes) (nowMs : UInt32) (status : LoopStatus) :
    LoopHeartbeat × Bool :=
  if nowMs - h.lastTickMs < h.intervalMs then (h, false)
  else ({ h with lastTickMs := nowMs, snapshot := printed version nowMs status }, true)

end LoopHeartbeat

/-- A heartbeat as it goes out. -/
structure Heartbeat where
  time : ℕ
  text : Bytes
  deriving DecidableEq, Repr

namespace LoopHeartbeat

/-- A round of the loop, at the time that its counter value was read. -/
def round (version : Bytes) (h : LoopHeartbeat) (r : ℕ × LoopStatus) :
    LoopHeartbeat × List Heartbeat :=
  let (h, due) := h.tick version (counter r.1) r.2
  (h, if due then [⟨r.1, h.snapshot⟩] else [])

section Printed

variable {version : Bytes} {nowMs : UInt32} {status : LoopStatus}

theorem cString_noNul (text : Bytes) : ∀ c ∈ cString text, c ≠ 0 := by
  intro c hc
  simpa using List.mem_takeWhile_imp hc

theorem orNone_noNul (text : Bytes) : ∀ c ∈ orNone text, c ≠ 0 := by
  rw [orNone]
  split
  · decide +kernel
  · exact cString_noNul text

theorem decimal_noNul (v : ℤ) : ∀ c ∈ decimal v, c ≠ 0 := by
  rintro c hc rfl
  exact notMem_decimal (by decide) (by decide) v hc

theorem stateName_noNul (state : WiFiState) : ∀ c ∈ stateName state, c ≠ 0 := by
  cases state <;> decide +kernel

theorem noNul_append {u v : Bytes} (hu : ∀ c ∈ u, c ≠ 0) (hv : ∀ c ∈ v, c ≠ 0) :
    ∀ c ∈ u ++ v, c ≠ 0 := List.forall_mem_append.mpr ⟨hu, hv⟩

theorem head_noNul (nowMs : UInt32) (status : LoopStatus) : ∀ c ∈ head nowMs status, c ≠ 0 := by
  have h₁ : ∀ c ∈ ascii "[STATE] uptime=", c ≠ 0 := by decide +kernel
  have h₂ : ∀ c ∈ ascii "ms wifi=", c ≠ 0 := by decide +kernel
  have h₃ : ∀ c ∈ ascii " ssid=", c ≠ 0 := by decide +kernel
  rw [head]
  iterate 4 apply noNul_append
  exacts [h₁, decimal_noNul _, h₂, stateName_noNul _, h₃]

theorem tail_noNul (hv : ∀ c ∈ version, c ≠ 0) (status : LoopStatus) :
    ∀ c ∈ tail version status, c ≠ 0 := by
  have hip : ∀ c ∈ ascii " ip=", c ≠ 0 := by decide +kernel
  have hclient : ∀ c ∈ ascii " client=", c ≠ 0 := by decide +kernel
  have hdisc : ∀ c ∈ ascii " disc=", c ≠ 0 := by decide +kernel
  have hled : ∀ c ∈ ascii " led=", c ≠ 0 := by decide +kernel
  have hmonitor : ∀ c ∈ ascii " monitor=", c ≠ 0 := by decide +kernel
  have hactive : ∀ c ∈ (if status.monitorActive then ascii "ACTIVE" else ascii "idle"), c ≠ 0 := by
    split <;> decide +kernel
  have hauth : ∀ c ∈ (if status.authDetail.isEmpty then [] else
      ascii " auth=" ++ cString status.authDetail), c ≠ 0 := by
    have hkey : ∀ c ∈ ascii " auth=", c ≠ 0 := by decide +kernel
    split
    · simp
    · exact noNul_append hkey (cString_noNul _)
  have hfw : ∀ c ∈ ascii " fw=", c ≠ 0 := by decide +kernel
  have hend : ∀ c ∈ [CR, LF], c ≠ 0 := by decide +kernel
  rw [tail]
  iterate 13 apply noNul_append
  exacts [hip, orNone_noNul _, hclient, orNone_noNul _, hdisc, cString_noNul _, hled,
    decimal_noNul _, hmonitor, hactive, hauth, hfw, hv, hend]

/-- What fits into the buffer of a line without NULs is printed. -/
theorem printed_eq (hv : ∀ c ∈ version, c ≠ 0) (nowMs : UInt32) (status : LoopStatus) :
    printed version nowMs status = (line version nowMs status).take (BUFFER_SIZE - 1) := by
  obtain ⟨buf, hbuf, hholds⟩ := (holds_replicate (N := BUFFER_SIZE) (by decide)).snprintf
    (Nat.zero_le _) (line version nowMs status)
  rw [List.length_nil, Nat.sub_zero] at hbuf
  have hnoNul : ∀ c ∈ line version nowMs status, c ≠ 0 :=
    noNul_append (noNul_append (head_noNul _ _) (orNone_noNul _)) (tail_noNul hv _)
  rw [printed, hbuf, Option.getD_some, hholds.cString hnoNul, List.nil_append]

end Printed

section Cadence

variable {version : Bytes} {h : LoopHeartbeat} {g : ℕ}

/-- A heartbeat says what the loop's state was at its time. -/
def Reports (version : Bytes) (rounds : List (ℕ × LoopStatus)) (beat : Heartbeat) : Prop :=
  ∃ status, (beat.time, status) ∈ rounds ∧
    beat.text = printed version (counter beat.time) status

/-- The timer whose phases are the intervals between heartbeats. -/
theorem emitted_round (version : Bytes) (rounds : List (ℕ × LoopStatus)) {h : LoopHeartbeat}
    {τ : PhaseTimer} (hτ : τ.start = h.lastTickMs) :
    (emitted (round version) h rounds).map Heartbeat.time =
      (emitted (PhaseTimer.tick fun _ => h.intervalMs) τ (rounds.map Prod.fst)).map Phase.start ∧
    ∀ beat ∈ emitted (round version) h rounds, Reports version rounds beat := by
  induction rounds generalizing h τ with
  | nil => exact ⟨rfl, by simp⟩
  | cons r rounds ih =>
    have hmore : ∀ beat, Reports version rounds beat → Reports version (r :: rounds) beat :=
      fun beat ⟨status, hmem, htext⟩ => ⟨status, List.mem_cons_of_mem _ hmem, htext⟩
    rw [List.map_cons, emitted_cons, emitted_cons, PhaseTimer.tick, hτ]
    by_cases hdue : counter r.1 - h.lastTickMs < h.intervalMs
    · have hround : round version h r = (h, []) := by
        simp only [round, tick, if_pos hdue]
        rfl
      obtain ⟨htimes, hreports⟩ := ih hτ
      rw [hround, if_neg (UInt32.not_le.mpr hdue)]
      exact ⟨htimes, fun beat hb => hmore beat (hreports beat hb)⟩
    · have hround : round version h r =
          ({ h with lastTickMs := counter r.1, snapshot := printed version (counter r.1) r.2 },
            [⟨r.1, printed version (counter r.1) r.2⟩]) := by
        simp only [round, tick, if_neg hdue]
        rfl
      obtain ⟨htimes, hreports⟩ := ih (τ := ⟨τ.index + 1, counter r.1⟩)
        (h := { h with lastTickMs := counter r.1, snapshot := printed version (counter r.1) r.2 })
        rfl
      rw [hround, if_pos (UInt32.not_lt.mp hdue), List.map_append, List.map_append, htimes]
      refine ⟨rfl, ?_⟩
      rintro beat hb
      rcases List.mem_append.mp hb with hb | hb
      · rw [List.mem_singleton.mp hb]
        refine ⟨r.2, List.mem_cons_self, ?_⟩
        simp only
      · exact hmore beat (hreports beat hb)

/-- A heartbeat comes when the interval is over, less than `g` late. -/
def Beats (intervalMs : UInt32) (g s t : ℕ) : Prop :=
  s + intervalMs.toNat ≤ t ∧ t < s + intervalMs.toNat + g

/-- The heartbeat as the loop begins with it, at the time 0. -/
def boot (intervalMs : UInt32) : LoopHeartbeat := { intervalMs }

/-- The heartbeats of a loop whose first round comes before the counter wraps, with rounds at most
`g` apart from there on: they are the interval and less than `g` more apart, however often the
counter wraps, the first one comes in the first round or less than `g` late, the last round is not
late for the next one, and each says what the state was in its round. -/
theorem boot_beats {intervalMs : UInt32} (hpos : 0 < intervalMs.toNat)
    (hwrap : intervalMs.toNat + g ≤ 2 ^ 32) (version : Bytes) {r : ℕ × LoopStatus}
    {rounds : List (ℕ × LoopStatus)} (hboot : r.1 < 2 ^ 32)
    (hticks : Ticks g ((r :: rounds).map Prod.fst)) :
    ((emitted (round version) (boot intervalMs) (r :: rounds)).map Heartbeat.time).IsChain
        (Beats intervalMs g) ∧
      (∀ first ∈ (emitted (round version) (boot intervalMs) (r :: rounds)).head?,
        intervalMs.toNat ≤ first.time ∧
          (first.time = r.1 ∨ first.time < intervalMs.toNat + g)) ∧
      (∀ last ∈ (0 :: (emitted (round version) (boot intervalMs) (r :: rounds)).map
          Heartbeat.time).getLast?,
        ∀ t ∈ ((r :: rounds).map Prod.fst).getLast?, last ≤ t ∧ t < last + intervalMs.toNat) ∧
      ∀ beat ∈ emitted (round version) (boot intervalMs) (r :: rounds),
        Reports version (r :: rounds) beat := by
  obtain ⟨htimes, hreports⟩ := emitted_round version (r :: rounds) (h := boot intervalMs)
    (τ := inPhase ⟨0, 0⟩) rfl
  obtain ⟨hchain, hfirst, y, hlast, hy⟩ := lasts_late (d := fun _ => intervalMs) (x := ⟨0, 0⟩)
    (fun _ => ⟨hpos, hwrap⟩) (Nat.zero_le _) (by rwa [Nat.zero_add]) hticks
  rw [← List.map_cons] at hchain hfirst hlast hy
  have hmap : 0 :: (emitted (round version) (boot intervalMs) (r :: rounds)).map Heartbeat.time =
      (⟨0, 0⟩ :: emitted (PhaseTimer.tick fun _ => intervalMs) (inPhase ⟨0, 0⟩)
        ((r :: rounds).map Prod.fst)).map Phase.start := by
    rw [htimes]
    rfl
  refine ⟨?_, ?_, ?_, hreports⟩
  · rw [htimes]
    apply List.isChain_map_of_isChain Phase.start _ hchain
    rintro a b ⟨-, hlo, hhi⟩
    exact ⟨hlo, hhi⟩
  · intro first hf
    have hhead := congrArg List.head? htimes
    rw [List.head?_map, Option.mem_def.mp hf, Option.map_some, List.head?_map, eq_comm,
      Option.map_eq_some_iff] at hhead
    obtain ⟨z, hz, hstart⟩ := hhead
    rw [← hstart]
    simpa using hfirst z hz
  · rintro last hl
    rw [hmap, List.getLast?_map, Option.mem_def.mp hlast] at hl
    obtain rfl : y.start = last := by simpa using hl
    exact hy

/-- Heartbeats of a loop whose first round comes six seconds after the reset: it beats at once, and
in every second round from there on. -/
theorem boot_beats_late :
    ((emitted (round []) (boot 5000) ([6000, 9000, 12000, 15000, 18000].map
        (·, ⟨.WIFI_CONNECTED, true, [], [], 0, [], [], []⟩))).map Heartbeat.time) =
      [6000, 12000, 18000] ∧
    ((emitted (round []) (boot 5000) ([6000, 9000, 12000, 15000, 18000].map
        (·, ⟨.WIFI_CONNECTED, true, [], [], 0, [], [], []⟩))).map Heartbeat.time).IsChain
      (Beats 5000 3000) :=
  ⟨by rfl, (boot_beats (by decide) (by decide) [] (by decide) (by simp [Ticks])).1⟩

end Cadence

end LoopHeartbeat

end VehicleSpy.Firmware
