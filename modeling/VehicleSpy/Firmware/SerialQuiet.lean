import VehicleSpy.Firmware.CanBridge
import VehicleSpy.Machine.MillisCounter
import VehicleSpy.Machine.Prefixes
import VehicleSpy.Machine.Run

/-! # The quiet time of the serial port

Behind a serial command the bridge prints no frames to the serial port until a deadline, which is a
value of the millisecond counter. The deadline is never taken back. It is compared with later values
of the counter as a number, so a round of the counter opens a window that is over, or closes one
that has just been opened.
-/

namespace VehicleSpy.Firmware

open Text Machine

def SERIAL_QUIET_DURATION_MS : UInt32 := 250

def CanBridge.setSerialQuietUntilMs (bridge : CanBridge) (ms : UInt32) : CanBridge :=
  { bridge with serialQuietUntilMs := ms }

/-- What the loop does with the bridge, at the true time of its reading of the counter. -/
inductive BridgeEvent
  /-- A serial command was dispatched. -/
  | command (time : ℕ)
  /-- The receive queue is drained; each frame comes with the connection of the client. -/
  | frames (time : ℕ) (monitorActive : Bool) (queue : List (CanFrame × Bool))

namespace BridgeEvent

def time : BridgeEvent → ℕ
  | .command time => time
  | .frames time _ _ => time

/-- When the bridge is armed. -/
def arming? : BridgeEvent → Option ℕ
  | .command time => some time
  | .frames _ _ _ => none

end BridgeEvent

def bridgeStep (bridge : CanBridge) : BridgeEvent → CanBridge × List (List BridgeCall)
  | .command time =>
    (bridge.setSerialQuietUntilMs (counter time + SERIAL_QUIET_DURATION_MS), [])
  | .frames time monitorActive queue =>
    match bridge.processFrames monitorActive (counter time) queue with
    | some (bridge, calls) => (bridge, [calls])
    | none => (bridge, [])

def latestArming (before : List BridgeEvent) : Option ℕ :=
  (before.filterMap BridgeEvent.arming?).getLast?

/-- Less than the quiet time has passed since the bridge was armed last. -/
def quietAt (before : List BridgeEvent) (time : ℕ) : Bool :=
  (latestArming before).any fun armed => time < armed + 250

/-- The frames of an event are kept from the serial port just in the quiet time, and never from the
client. -/
def HushedRightly (bridge : CanBridge) (before : List BridgeEvent) : BridgeEvent → Prop
  | .command _ => True
  | .frames time monitorActive queue =>
    (bridgeStep (after bridgeStep bridge before) (.frames time monitorActive queue)).2 =
      [frameCalls (quietAt before time) monitorActive queue]

/-- When frames are received, the counter tells whether the latest quiet time is over. -/
def DeadlineTold (before : List BridgeEvent) : BridgeEvent → Prop
  | .command _ => True
  | .frames time _ queue =>
    queue ≠ [] → ∀ armed ∈ latestArming before, TellsDeadline (armed + 250) time

section Step

/-- The strings printed to the serial port, in order. -/
def serialPrints (calls : List BridgeCall) : List Bytes :=
  calls.filterMap fun
    | .serialPrint str => some str
    | _ => none

theorem serialPrints_frameCalls (quiet monitorActive : Bool) (queue : List (CanFrame × Bool)) :
    serialPrints (frameCalls quiet monitorActive queue) =
      if quiet then [] else queue.map fun r => frameString r.1 := by
  induction queue with
  | nil => cases quiet <;> rfl
  | cons r queue ih =>
    rw [frameCalls_cons, serialPrints, List.filterMap_append, ← serialPrints, ← serialPrints, ih]
    cases quiet <;> cases hsent : r.2 && monitorActive <;> simp [serialPrints]

/-- Received frames show whether the serial port is quiet. -/
theorem frameCalls_inj {quiet quiet' monitorActive : Bool} {queue : List (CanFrame × Bool)}
    (hne : queue ≠ []) :
    frameCalls quiet monitorActive queue = frameCalls quiet' monitorActive queue ↔
      quiet = quiet' := by
  have hempty (q : Bool) : (serialPrints (frameCalls q monitorActive queue)).isEmpty = q := by
    rw [serialPrints_frameCalls]
    cases q <;> simp [hne]
  constructor
  · intro h
    rw [← hempty quiet, h, hempty]
  · rintro rfl
    rfl

end Step

section Runs

variable {before events : List BridgeEvent}

theorem latestArming_command (before : List BridgeEvent) (time : ℕ) :
    latestArming (before ++ [.command time]) = some time := by
  simp [latestArming, BridgeEvent.arming?]

theorem latestArming_frames (before : List BridgeEvent) (time : ℕ) (monitorActive : Bool)
    (queue : List (CanFrame × Bool)) :
    latestArming (before ++ [.frames time monitorActive queue]) = latestArming before := by
  simp [latestArming, BridgeEvent.arming?]

/-- The bridge after a run: the deadline is that of the latest arming. -/
theorem after_bridgeStep (before : List BridgeEvent) :
    (after bridgeStep (CanBridge.init {}) before).initialized = true ∧
      (after bridgeStep (CanBridge.init {}) before).serialQuietUntilMs =
        (latestArming before).elim 0 fun armed => counter (armed + 250) := by
  induction before using List.reverseRecOn with
  | nil => exact ⟨rfl, rfl⟩
  | append_singleton before event ih =>
    obtain ⟨hinit, hdeadline⟩ := ih
    rw [after_concat]
    cases event with
    | command time =>
      rw [latestArming_command]
      exact ⟨hinit, counter_add time 250⟩
    | frames time monitorActive queue =>
      rw [latestArming_frames, bridgeStep, processFrames_eq hinit]
      exact ⟨hinit, hdeadline⟩

/-- One event of a run, given that it comes after the arming. -/
theorem hushedRightly_iff {event : BridgeEvent}
    (hlater : ∀ armed ∈ latestArming before, armed ≤ event.time) :
    HushedRightly (CanBridge.init {}) before event ↔ DeadlineTold before event := by
  cases event with
  | command time => exact Iff.rfl
  | frames time monitorActive queue =>
    obtain ⟨hinit, hdeadline⟩ := after_bridgeStep before
    rw [HushedRightly, DeadlineTold, bridgeStep, processFrames_eq hinit]
    by_cases hne : queue = []
    · subst hne
      exact iff_of_true rfl fun h => absurd rfl h
    · rw [forall_prop_of_true hne, List.singleton_inj, frameCalls_inj hne, quietAt]
      cases hlatest : latestArming before with
      | none =>
        rw [hlatest, Option.elim_none] at hdeadline
        simp [hdeadline, UInt32.not_lt_zero]
      | some armed =>
        have hle : armed ≤ time := hlater armed (by rw [hlatest]; rfl)
        rw [hlatest, Option.elim_some] at hdeadline
        rw [hdeadline, Bool.eq_iff_iff]
        simp only [decide_eq_true_eq, Option.any_some, Option.mem_some_iff, forall_eq']
        have hround : armed + 250 ≤ time + 2 ^ 32 := by omega
        exact counter_lt_iff_lt_iff hround

end Runs

/-- In a run whose times do not go back, exactly the frames of the quiet time are kept from the
serial port if and only if the counter tells at every frame whether the quiet time is over. -/
theorem hushed_iff {events : List BridgeEvent}
    (htimes : events.Pairwise fun e f => e.time ≤ f.time) :
    EverySplit (HushedRightly (CanBridge.init {})) events ↔ EverySplit DeadlineTold events := by
  have hlater : ∀ before event rest, events = before ++ event :: rest →
      ∀ armed ∈ latestArming before, armed ≤ event.time := by
    rintro before event rest rfl armed harmed
    obtain ⟨e, he, harming⟩ := List.mem_filterMap.mp (List.mem_of_getLast? harmed)
    have hle := (List.pairwise_append.mp htimes).2.2 e he event List.mem_cons_self
    cases e with
    | command time => exact Option.some.inj harming ▸ hle
    | frames _ _ _ => cases harming
  constructor
  · rintro h before event rest hsplit
    exact (hushedRightly_iff (hlater before event rest hsplit)).mp (h before event rest hsplit)
  · rintro h before event rest hsplit
    exact (hushedRightly_iff (hlater before event rest hsplit)).mpr (h before event rest hsplit)

/-- A frame with one data byte. -/
def frameOf (identifier : UInt32) : CanFrame where
  identifier
  data_length_code := 1
  data := [0x5A, 0, 0, 0, 0, 0, 0, 0]
  data_length := rfl

/-- Two frames, one in the quiet time and one behind it. -/
theorem hushed_two : EverySplit (HushedRightly (CanBridge.init {}))
    [.command 1000, .frames 1200 true [(frameOf 0x118, true)],
      .frames 1250 true [(frameOf 0x118, true)]] :=
  (hushed_iff (by decide)).mpr (by
    simp only [everySplit_cons, everySplit_nil, DeadlineTold]
    decide)

/-- A command half a second before the counter goes round: its deadline is a value near the end of
the round, and the frames of the next round are kept from the serial port. -/
theorem not_hushed : ¬ EverySplit (HushedRightly (CanBridge.init {}))
    [.command 4294966796, .frames 4294968296 false [(frameOf 0x118, false)]] := by
  intro h
  have hframe := congrArg (List.map serialPrints) (h [.command 4294966796] _ [] rfl)
  revert hframe
  decide +kernel

end VehicleSpy.Firmware
