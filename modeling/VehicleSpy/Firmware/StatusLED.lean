import VehicleSpy.Firmware.WiFiManager
import VehicleSpy.Machine.Phases

/-! # The status LED

A pattern is a cycle of steps with durations. The loop chooses the pattern in every round and
updates the LED, which goes on to the next step when the duration of the current one is over. A
pattern that is taken up anew begins with its first step at once.
-/

namespace VehicleSpy.Firmware

open Machine PhaseTimer

inductive LEDState
  | ON
  | OFF
  | SEPARATOR
  deriving DecidableEq, Repr

structure LEDStep where
  state : LEDState
  durationMs : UInt32
  deriving DecidableEq, Repr

namespace StatusLEDConstants

def TINY_FLASH_MS : UInt32 := 100
def SHORT_FLASH_MS : UInt32 := 200
def MED_FLASH_MS : UInt32 := 500
def LONG_FLASH_MS : UInt32 := 800
def TINY_GAP_MS : UInt32 := 100
def SHORT_GAP_MS : UInt32 := 200
def MED_GAP_MS : UInt32 := 500
def SEPARATOR_MS : UInt32 := 2000
def SEARCHING_GAP_MS : UInt32 := 900

end StatusLEDConstants

inductive StatusLED.Pattern
  | OFF
  | BOOT
  | WIFI_SEARCHING
  | WIFI_CONNECTED
  | CLIENT_CONNECTED
  | AP_MODE
  | OTA_IN_PROGRESS
  | ERROR_AUTH_FAILURE
  | ERROR_RECOVERABLE
  | ERROR_NO_NTP_SERVICE
  | FATAL_UNRECOVERABLE_SOS
  deriving DecidableEq, Repr

namespace StatusLED

open StatusLEDConstants

def PATTERN_BOOT : List LEDStep := [⟨.ON, MED_FLASH_MS⟩, ⟨.OFF, MED_GAP_MS⟩]

def PATTERN_WIFI_SEARCHING : List LEDStep := [⟨.ON, TINY_FLASH_MS⟩, ⟨.OFF, SEARCHING_GAP_MS⟩]

def PATTERN_WIFI_CONNECTED : List LEDStep := [⟨.ON, LONG_FLASH_MS⟩, ⟨.OFF, SHORT_GAP_MS⟩]

def PATTERN_CLIENT_CONNECTED : List LEDStep := [⟨.ON, SEPARATOR_MS⟩]

def PATTERN_AP_MODE : List LEDStep :=
  [⟨.ON, LONG_FLASH_MS⟩, ⟨.OFF, SHORT_GAP_MS⟩, ⟨.ON, TINY_FLASH_MS⟩, ⟨.OFF, TINY_GAP_MS⟩,
    ⟨.ON, TINY_FLASH_MS⟩, ⟨.OFF, SEPARATOR_MS⟩]

def PATTERN_OTA_IN_PROGRESS : List LEDStep := [⟨.ON, SHORT_FLASH_MS⟩, ⟨.OFF, SHORT_GAP_MS⟩]

/-- Three equal flashes with gaps. -/
def threeFlashes (flashMs gapMs : UInt32) : List LEDStep :=
  [⟨.ON, flashMs⟩, ⟨.OFF, gapMs⟩, ⟨.ON, flashMs⟩, ⟨.OFF, gapMs⟩, ⟨.ON, flashMs⟩, ⟨.OFF, gapMs⟩]

def PATTERN_AUTH_FAILURE : List LEDStep :=
  threeFlashes SHORT_FLASH_MS SHORT_GAP_MS ++ threeFlashes TINY_FLASH_MS TINY_GAP_MS ++
    [⟨.OFF, SEPARATOR_MS⟩]

def PATTERN_ERROR_RECOVERABLE : List LEDStep :=
  threeFlashes SHORT_FLASH_MS SHORT_GAP_MS ++
    [⟨.ON, TINY_FLASH_MS⟩, ⟨.OFF, TINY_GAP_MS⟩, ⟨.ON, TINY_FLASH_MS⟩, ⟨.OFF, TINY_GAP_MS⟩,
      ⟨.OFF, SEPARATOR_MS⟩]

def PATTERN_ERROR_NO_NTP_SERVICE : List LEDStep :=
  threeFlashes SHORT_FLASH_MS SHORT_GAP_MS ++
    [⟨.ON, TINY_FLASH_MS⟩, ⟨.OFF, TINY_GAP_MS⟩, ⟨.OFF, SEPARATOR_MS⟩]

def PATTERN_FATAL_UNRECOVERABLE : List LEDStep :=
  threeFlashes SHORT_FLASH_MS SHORT_GAP_MS ++ threeFlashes LONG_FLASH_MS SHORT_GAP_MS ++
    threeFlashes SHORT_FLASH_MS SHORT_GAP_MS ++ [⟨.OFF, SEPARATOR_MS⟩]

def PATTERN_OFF : List LEDStep := [⟨.OFF, SEPARATOR_MS⟩]

def getPatternSteps : Pattern → List LEDStep
  | .BOOT => PATTERN_BOOT
  | .WIFI_SEARCHING => PATTERN_WIFI_SEARCHING
  | .WIFI_CONNECTED => PATTERN_WIFI_CONNECTED
  | .CLIENT_CONNECTED => PATTERN_CLIENT_CONNECTED
  | .AP_MODE => PATTERN_AP_MODE
  | .OTA_IN_PROGRESS => PATTERN_OTA_IN_PROGRESS
  | .ERROR_AUTH_FAILURE => PATTERN_AUTH_FAILURE
  | .ERROR_RECOVERABLE => PATTERN_ERROR_RECOVERABLE
  | .ERROR_NO_NTP_SERVICE => PATTERN_ERROR_NO_NTP_SERVICE
  | .FATAL_UNRECOVERABLE_SOS => PATTERN_FATAL_UNRECOVERABLE
  | .OFF => PATTERN_OFF

theorem length_pos (p : Pattern) : 0 < (getPatternSteps p).length := by cases p <;> decide

/-- A client comes first; without one the pattern follows the ordinal of the WiFi state. -/
def selectLedPattern (wifiState : ℤ) (clientConnected : Bool) : Pattern :=
  if clientConnected then .CLIENT_CONNECTED
  else if wifiState = 0 ∨ wifiState = 1 then .WIFI_SEARCHING
  else if wifiState = 2 then .WIFI_CONNECTED
  else if wifiState = 3 then .AP_MODE
  else if wifiState = 4 then .ERROR_AUTH_FAILURE
  else .WIFI_SEARCHING

end StatusLED

open StatusLED

/-- Calls on the output pin. -/
inductive LedCall
  | init
  | setOn (on : Bool)
  deriving DecidableEq, Repr

structure StatusLED where
  currentPattern : Pattern := .OFF
  /-- The pattern of the last update, which the step belongs to. -/
  lastPattern : Pattern := .OFF
  lastUpdateTime : UInt32 := 0
  phaseStartTime : UInt32 := 0
  stepIndex : ℕ := 0
  ledOn : Bool := false
  stepIndex_lt : stepIndex < (getPatternSteps lastPattern).length := by decide

namespace StatusLED

/-- The step that is shown. -/
def currentStep (s : StatusLED) : LEDStep :=
  (getPatternSteps s.lastPattern).get ⟨s.stepIndex, s.stepIndex_lt⟩

/-- The pin is written when its level changes. -/
def setLedOn (s : StatusLED) (on : Bool) : StatusLED × List LedCall :=
  if s.ledOn ≠ on then ({ s with ledOn := on }, [.setOn on]) else (s, [])

def setPattern (s : StatusLED) (pattern : Pattern) : StatusLED :=
  { s with currentPattern := pattern }

def init (s : StatusLED) : StatusLED × List LedCall :=
  let (s, calls) := s.setLedOn false
  (s.setPattern .BOOT, .init :: calls)

/-- Begin the pattern that has been set. -/
def resetPattern (s : StatusLED) (currentTime : UInt32) : StatusLED × List LedCall :=
  let s := { s with
    lastPattern := s.currentPattern
    stepIndex := 0
    phaseStartTime := currentTime
    stepIndex_lt := length_pos _ }
  s.setLedOn (s.currentStep.state = .ON)

/-- The step behind the current one, or the first. -/
def nextStep (s : StatusLED) (currentTime : UInt32) : StatusLED :=
  if h : s.stepIndex + 1 < (getPatternSteps s.lastPattern).length then
    { s with stepIndex := s.stepIndex + 1, phaseStartTime := currentTime, stepIndex_lt := h }
  else
    { s with stepIndex := 0, phaseStartTime := currentTime, stepIndex_lt := length_pos _ }

/-- Go on when the step is over. -/
def advance (s : StatusLED) (currentTime : UInt32) : StatusLED :=
  if s.currentStep.durationMs ≤ currentTime - s.phaseStartTime then s.nextStep currentTime else s

/-- Begin anew when another pattern has been set. -/
def detectChange (s : StatusLED) (currentTime : UInt32) : StatusLED × List LedCall :=
  if s.currentPattern ≠ s.lastPattern then s.resetPattern currentTime else (s, [])

def update (s : StatusLED) (currentTime : UInt32) : StatusLED × List LedCall :=
  let reset := s.detectChange currentTime
  let s := { reset.1 with lastUpdateTime := currentTime }.advance currentTime
  let shown := s.setLedOn (s.currentStep.state = .ON)
  (shown.1, reset.2 ++ shown.2)

end StatusLED

/-- What the loop calls on the LED; the counter shows the time of an update. -/
inductive LedEvent
  | setPattern (pattern : Pattern)
  | update (time : ℕ)
  deriving DecidableEq, Repr

/-- The pattern that the events leave as it is. -/
def LedEvent.Keeps (p : Pattern) : LedEvent → Prop
  | .setPattern pattern => pattern = p
  | .update _ => True

/-- The time of an update. -/
def LedEvent.time? : LedEvent → Option ℕ
  | .setPattern _ => none
  | .update time => some time

/-- The calls of a round of the loop. -/
def LedPatternPolicy.update (now : ℕ) (wifiState : ℤ) (clientConnected : Bool) : List LedEvent :=
  [.setPattern (selectLedPattern wifiState clientConnected), .update now]

namespace StatusLED

def step (s : StatusLED) : LedEvent → StatusLED × List LedCall
  | .setPattern pattern => (s.setPattern pattern, [])
  | .update time => s.update (counter time)

/-- The LED after the setup. -/
def boot : StatusLED := (init {}).1

/-- The level that a call gives the pin, which its setup makes low. -/
def levelOf : LedCall → Bool
  | .init => false
  | .setOn on => on

def level (calls : List LedCall) : Bool := (calls.getLast?.map levelOf).getD false

/-- The level that the calls of a run from boot leave. -/
def levelAfter (events : List LedEvent) : Bool := level (emitted step boot events)

section Waveform

/-- Whether a time in a list of steps is in a step that is on. -/
def litAt : List LEDStep → ℕ → Bool
  | [], _ => false
  | step :: steps, ms =>
    if ms < step.durationMs.toNat then step.state = .ON
    else litAt steps (ms - step.durationMs.toNat)

/-- The duration of all steps. -/
def cycleMs : List LEDStep → ℕ
  | [] => 0
  | step :: steps => step.durationMs.toNat + cycleMs steps

/-- What a pattern means: whether it is on, so many milliseconds after its beginning. -/
def waveform (pattern : Pattern) (ms : ℕ) : Bool :=
  litAt (getPatternSteps pattern) (ms % cycleMs (getPatternSteps pattern))

end Waveform

section Level

variable {s : StatusLED} {on : Bool} {now : UInt32}

/-- The pin has the level that the LED remembers. -/
theorem level_setLedOn {calls : List LedCall} (h : level calls = s.ledOn) :
    level (calls ++ (s.setLedOn on).2) = (s.setLedOn on).1.ledOn := by
  rw [setLedOn]
  split
  · rw [level, List.getLast?_concat]
    rfl
  · rw [List.append_nil, h]

/-- Writing the pin changes nothing else. -/
theorem setLedOn_fst (s : StatusLED) (on : Bool) : (s.setLedOn on).1 = { s with ledOn := on } := by
  rw [setLedOn]
  split
  · rfl
  · next h => rw [← not_not.mp h]

theorem level_detectChange {calls : List LedCall} (h : level calls = s.ledOn) (now : UInt32) :
    level (calls ++ (s.detectChange now).2) = (s.detectChange now).1.ledOn := by
  rw [detectChange]
  split
  · exact level_setLedOn h
  · rw [List.append_nil, h]

theorem ledOn_advance (s : StatusLED) (now : UInt32) : (s.advance now).ledOn = s.ledOn := by
  unfold advance nextStep
  split
  · split <;> rfl
  · rfl

theorem level_step {calls : List LedCall} (h : level calls = s.ledOn) (e : LedEvent) :
    level (calls ++ (step s e).2) = (step s e).1.ledOn := by
  cases e with
  | setPattern pattern =>
    rw [step, List.append_nil, h]
    rfl
  | update time =>
    simp only [step, update]
    rw [← List.append_assoc]
    apply level_setLedOn
    rw [ledOn_advance]
    exact level_detectChange h _

theorem levelAfter_eq (events : List LedEvent) :
    levelAfter events = (after step boot events).ledOn := by
  have h : ∀ (calls : List LedCall) (s : StatusLED), level calls = s.ledOn →
      level (calls ++ emitted step s events) = (after step s events).ledOn := by
    induction events with
    | nil => exact fun calls s hs => by rwa [emitted_nil, List.append_nil]
    | cons e events ih =>
      intro calls s hs
      rw [emitted_cons, ← List.append_assoc, after_cons]
      exact ih _ _ (level_step hs e)
  exact h [] boot rfl

end Level

section Cycle

variable {steps : List LEDStep} {i t : ℕ}

/-- The duration of the step that is shown as the i-th. -/
def durations (steps : List LEDStep) (i : ℕ) : UInt32 :=
  (steps[i % steps.length]?.map LEDStep.durationMs).getD 1

/-- Whether the step that is shown as the i-th is on. -/
def lit (steps : List LEDStep) (i : ℕ) : Bool :=
  (steps[i % steps.length]?.map LEDStep.state) = some .ON

theorem durations_add_length (steps : List LEDStep) (i : ℕ) :
    durations steps (i + steps.length) = durations steps i := by
  rw [durations, Nat.add_mod_right]
  rfl

theorem lit_add_length (steps : List LEDStep) (i : ℕ) :
    lit steps (i + steps.length) = lit steps i := by
  rw [lit, Nat.add_mod_right]
  rfl

theorem durations_of_lt (h : i < steps.length) : durations steps i = steps[i].durationMs := by
  rw [durations, Nat.mod_eq_of_lt h, List.getElem?_eq_getElem h]
  rfl

theorem lit_of_lt (h : i < steps.length) : lit steps i = decide (steps[i].state = .ON) := by
  rw [lit, Nat.mod_eq_of_lt h, List.getElem?_eq_getElem h]
  simp

theorem cycleMs_append (u v : List LEDStep) : cycleMs (u ++ v) = cycleMs u + cycleMs v := by
  induction u with
  | nil => exact (Nat.zero_add _).symm
  | cons step u ih => rw [List.cons_append, cycleMs, ih, cycleMs, Nat.add_assoc]

theorem due_durations (h : i ≤ steps.length) :
    due (durations steps) i = cycleMs (steps.take i) := by
  induction i with
  | zero => rfl
  | succ i ih =>
    rw [due_succ, ih (Nat.le_of_succ_le h), durations_of_lt h, List.take_succ_eq_append_getElem h,
      cycleMs_append]
    rfl

/-- Each cycle takes the same time. -/
theorem due_add_length (steps : List LEDStep) (i : ℕ) :
    due (durations steps) (i + steps.length) = due (durations steps) i + cycleMs steps := by
  induction i with
  | zero => rw [Nat.zero_add, due_durations le_rfl, List.take_length]; exact (Nat.zero_add _).symm
  | succ i ih =>
    rw [Nat.add_right_comm, due_succ, ih, durations_add_length, due_succ, Nat.add_right_comm]

theorem litAt_of_due (h : i < steps.length) (hlo : cycleMs (steps.take i) ≤ t)
    (hhi : t < cycleMs (steps.take (i + 1))) : litAt steps t = lit steps i := by
  rw [lit_of_lt h]
  induction steps generalizing i t with
  | nil => cases h
  | cons step steps ih =>
    cases i with
    | zero =>
      have hhi' : t < step.durationMs.toNat := hhi
      rw [litAt, if_pos hhi']
      rfl
    | succ i =>
      have hlo' : step.durationMs.toNat + cycleMs (steps.take i) ≤ t := hlo
      have hhi' : t < step.durationMs.toNat + cycleMs (steps.take (i + 1)) := hhi
      rw [litAt, if_neg (by omega)]
      exact ih (Nat.lt_of_succ_lt_succ h) (by omega) (by omega)

theorem cycleMs_take_le (steps : List LEDStep) (i : ℕ) :
    cycleMs (steps.take i) ≤ cycleMs steps := by
  conv_rhs => rw [← List.take_append_drop i steps, cycleMs_append]
  exact Nat.le_add_right _ _

/-- The waveform is on when the step that is due is on. -/
theorem litAt_mod (hne : 0 < steps.length) (hlo : due (durations steps) i ≤ t)
    (hhi : t < due (durations steps) (i + 1)) : litAt steps (t % cycleMs steps) = lit steps i := by
  induction i using Nat.strong_induction_on generalizing t with
  | _ i ih =>
    by_cases hi : i < steps.length
    · rw [due_durations hi.le] at hlo
      rw [due_durations hi] at hhi
      rw [Nat.mod_eq_of_lt (hhi.trans_le (cycleMs_take_le steps _))]
      exact litAt_of_due hi hlo hhi
    · obtain ⟨j, rfl⟩ := Nat.exists_eq_add_of_le' (not_lt.mp hi)
      rw [Nat.add_right_comm, due_add_length] at hhi
      rw [due_add_length] at hlo
      rw [lit_add_length, Nat.mod_eq_sub_mod (by omega)]
      exact ih j (by omega) (by omega) (by omega)

end Cycle

section Shown

variable {p : Pattern} {s : StatusLED} {τ : PhaseTimer} {g start : ℕ}

/-- The LED is in the step of the pattern that the timer is in. -/
structure Placed (p : Pattern) (s : StatusLED) (τ : PhaseTimer) : Prop where
  current : s.currentPattern = p
  last : s.lastPattern = p
  index : s.stepIndex = τ.index % (getPatternSteps p).length
  phaseStart : s.phaseStartTime = τ.start

/-- And it shows it. -/
structure Follows (p : Pattern) (s : StatusLED) (τ : PhaseTimer) : Prop extends Placed p s τ where
  ledOn : s.ledOn = lit (getPatternSteps p) τ.index

theorem Placed.getElem? (h : Placed p s τ) :
    (getPatternSteps p)[τ.index % (getPatternSteps p).length]? = some s.currentStep := by
  obtain ⟨-, rfl, hi, -⟩ := h
  rw [← hi]
  exact List.getElem?_eq_getElem s.stepIndex_lt

theorem Placed.durationMs (h : Placed p s τ) :
    s.currentStep.durationMs = durations (getPatternSteps p) τ.index := by
  rw [durations, h.getElem?]
  rfl

theorem Placed.state (h : Placed p s τ) :
    decide (s.currentStep.state = .ON) = lit (getPatternSteps p) τ.index := by
  rw [lit, h.getElem?]
  simp

theorem Placed.nextStep (h : Placed p s τ) (now : UInt32) :
    Placed p (s.nextStep now) ⟨τ.index + 1, now⟩ := by
  obtain ⟨hc, rfl, hi, -⟩ := h
  have hsucc : (τ.index + 1) % (getPatternSteps s.lastPattern).length =
      (s.stepIndex + 1) % (getPatternSteps s.lastPattern).length := by
    rw [hi, Nat.mod_add_mod]
  have hlt := s.stepIndex_lt
  unfold StatusLED.nextStep
  split
  · next h => exact ⟨hc, rfl, by rw [hsucc, Nat.mod_eq_of_lt h], rfl⟩
  · next h =>
    have hend : s.stepIndex + 1 = (getPatternSteps s.lastPattern).length := by omega
    exact ⟨hc, rfl, by rw [hsucc, hend, Nat.mod_self], rfl⟩

theorem Placed.follows (h : Placed p s τ) :
    Follows p (s.setLedOn (s.currentStep.state = .ON)).1 τ := by
  rw [setLedOn_fst]
  exact ⟨⟨h.current, h.last, h.index, h.phaseStart⟩, h.state⟩

/-- To go on when the step is over is a tick of the timer. -/
theorem Placed.advance (h : Placed p s τ) (time : ℕ) :
    Placed p (s.advance (counter time)) (tick (durations (getPatternSteps p)) τ time).1 := by
  rw [tick, ← h.durationMs, ← h.phaseStart]
  unfold StatusLED.advance
  split
  · exact h.nextStep _
  · exact h

theorem Placed.updated (h : Placed p s τ) (now : UInt32) :
    Placed p { s with lastUpdateTime := now } τ :=
  ⟨h.current, h.last, h.index, h.phaseStart⟩

/-- An update of a pattern that is shown already is a tick of its timer. -/
theorem Follows.update (h : Follows p s τ) (time : ℕ) :
    Follows p (s.update (counter time)).1 (tick (durations (getPatternSteps p)) τ time).1 := by
  have hsame : s.detectChange (counter time) = (s, []) := by
    rw [detectChange, if_neg]
    simp [h.current, h.last]
  unfold StatusLED.update
  rw [hsame]
  exact ((h.toPlaced.updated _).advance time).follows

theorem durations_pos (p : Pattern) (i : ℕ) : 0 < (durations (getPatternSteps p) i).toNat := by
  have hall : ∀ step ∈ getPatternSteps p, 0 < step.durationMs.toNat := by
    cases p <;> decide
  have hlt := Nat.mod_lt i (length_pos p)
  rw [durations, List.getElem?_eq_getElem hlt]
  exact hall _ (List.getElem_mem hlt)

/-- The first update of a new pattern begins its first step. -/
theorem update_new (hnew : p ≠ s.lastPattern) (time : ℕ) :
    Follows p ((s.setPattern p).update (counter time)).1 (inPhase ⟨0, time⟩) := by
  have hreset : Placed p ((s.setPattern p).detectChange (counter time)).1
      (inPhase ⟨0, time⟩) := by
    have hnew : (s.setPattern p).currentPattern ≠ (s.setPattern p).lastPattern := hnew
    rw [detectChange, if_pos hnew, resetPattern, setLedOn_fst]
    exact ⟨rfl, rfl, (Nat.zero_mod _).symm, rfl⟩
  have hstay := tick_inPhase (d := durations (getPatternSteps p)) (x := ⟨0, time⟩)
    (le_refl time) (Nat.lt_add_of_pos_right (by decide))
  rw [if_neg (Nat.not_le.mpr (Nat.lt_add_of_pos_right (durations_pos p 0)))] at hstay
  have hadvance := (hreset.updated (counter time)).advance time
  rw [hstay] at hadvance
  exact hadvance.follows

end Shown

section Runs

variable {p : Pattern} {g period start k : ℕ}

/-- The updates of the loop at the given times. -/
def updates (times : List ℕ) : List LedEvent := times.map .update

/-- A pattern that is not the one shown is set after some events, and then the LED is updated. -/
def taken (events : List LedEvent) (p : Pattern) (times : List ℕ) : List LedEvent :=
  events ++ .setPattern p :: updates times

/-- The times of the updates among some events. -/
def timesOf (events : List LedEvent) : List ℕ := events.filterMap LedEvent.time?

theorem Follows.setPattern {s : StatusLED} {τ : PhaseTimer} (h : Follows p s τ) :
    Follows p (s.setPattern p) τ :=
  ⟨⟨rfl, h.last, h.index, h.phaseStart⟩, h.ledOn⟩

theorem follows_run {s : StatusLED} {τ : PhaseTimer} (h : Follows p s τ) {more : List LedEvent}
    (hkeep : ∀ e ∈ more, e.Keeps p) :
    Follows p (after step s more)
      (after (tick (durations (getPatternSteps p))) τ (timesOf more)) := by
  induction more generalizing s τ with
  | nil => exact h
  | cons e more ih =>
    obtain ⟨he, hmore⟩ := List.forall_mem_cons.mp hkeep
    rw [after_cons]
    cases e with
    | setPattern pattern =>
      obtain rfl : pattern = p := he
      exact ih h.setPattern hmore
    | update t => exact ih (h.update t) hmore

theorem follows_taken {events : List LedEvent} (hnew : p ≠ (after step boot events).lastPattern)
    (start : ℕ) {more : List LedEvent} (hkeep : ∀ e ∈ more, e.Keeps p) :
    Follows p (after step boot (events ++ .setPattern p :: .update start :: more))
      (after (tick (durations (getPatternSteps p))) (inPhase ⟨0, start⟩) (timesOf more)) := by
  rw [after_append]
  exact follows_run (update_new hnew start) hkeep

theorem keeps_updates (p : Pattern) (times : List ℕ) : ∀ e ∈ updates times, e.Keeps p := by
  intro e he
  obtain ⟨t, -, rfl⟩ := List.mem_map.mp he
  trivial

theorem timesOf_updates (times : List ℕ) : timesOf (updates times) = times := by
  rw [timesOf, updates, List.filterMap_map]
  exact List.filterMap_some

/-- Rounds that choose one pattern keep it. -/
theorem keeps_rounds {wifiState : ℕ → ℤ} {clientConnected : ℕ → Bool} {times : List ℕ}
    (h : ∀ t ∈ times, selectLedPattern (wifiState t) (clientConnected t) = p) :
    ∀ e ∈ times.flatMap fun t => LedPatternPolicy.update t (wifiState t) (clientConnected t),
      e.Keeps p := by
  intro e he
  obtain ⟨t, ht, he⟩ := List.mem_flatMap.mp he
  rcases List.mem_pair.mp he with rfl | rfl
  · exact h t ht
  · trivial

theorem durations_le (p : Pattern) (i : ℕ) : (durations (getPatternSteps p) i).toNat ≤ 2000 := by
  have hall : ∀ step ∈ getPatternSteps p, step.durationMs.toNat ≤ 2000 := by
    cases p <;> decide
  have hlt := Nat.mod_lt i (length_pos p)
  rw [durations, List.getElem?_eq_getElem hlt]
  exact hall _ (List.getElem_mem hlt)

theorem dvd_durations (p : Pattern) (i : ℕ) : 100 ∣ (durations (getPatternSteps p) i).toNat := by
  have hall : ∀ step ∈ getPatternSteps p, 100 ∣ step.durationMs.toNat := by
    cases p <;> decide
  have hlt := Nat.mod_lt i (length_pos p)
  rw [durations, List.getElem?_eq_getElem hlt]
  exact hall _ (List.getElem_mem hlt)

/-- Updated with a period that divides 100 ms, a pattern that is taken up is shown as its waveform
from then on, whatever was shown before and however often the counter wraps. -/
theorem level_waveform (hdvd : period ∣ 100) (events : List LedEvent) (p : Pattern)
    (hnew : p ≠ (after step boot events).lastPattern) (start k : ℕ) :
    levelAfter (taken events p (start :: periodic start period k)) = waveform p (period * k) := by
  have hle : period ≤ 100 := Nat.le_of_dvd (by decide) hdvd
  have hfollows := follows_taken hnew start (keeps_updates p (periodic start period k))
  rw [timesOf_updates] at hfollows
  obtain ⟨i, hlo, hhi, hafter⟩ := after_periodic (d := durations (getPatternSteps p))
    (fun i => ⟨durations_pos p i, by have := durations_le p i; omega⟩)
    (fun i => Nat.dvd_trans hdvd (dvd_durations p i)) start k
  rw [hafter] at hfollows
  rw [waveform, litAt_mod (length_pos p) hlo hhi, taken, levelAfter_eq, updates, List.map_cons]
  exact hfollows.ledOn

/-- Updated at least every `g` ms while no other pattern is set, a pattern that is taken up goes
through its steps, each of which begins at an update and is shown for its duration and less than `g`
longer: the level behind every event is that of the step of the time. -/
theorem level_steps {g : ℕ} (hg : g ≤ 2 ^ 31) (events : List LedEvent) (p : Pattern)
    (hnew : p ≠ (after step boot events).lastPattern) {start : ℕ} {more : List LedEvent}
    (hkeep : ∀ e ∈ more, e.Keeps p) (hticks : Ticks g (start :: timesOf more)) :
    ∃ phases, (⟨0, start⟩ :: phases).IsChain (Lasts (durations (getPatternSteps p)) g) ∧
      (∀ y ∈ phases, y.start ∈ timesOf more) ∧
      ∀ done, done <+: more → ∀ t ∈ (start :: timesOf done).getLast?,
        ∃ y, InForce (⟨0, start⟩ :: phases) t y ∧
          t < y.start + (durations (getPatternSteps p) y.index).toNat ∧
          levelAfter (events ++ .setPattern p :: .update start :: done) =
            lit (getPatternSteps p) y.index := by
  have hd : ∀ i, 0 < (durations (getPatternSteps p) i).toNat ∧
      (durations (getPatternSteps p) i).toNat + g ≤ 2 ^ 32 := fun i =>
    ⟨durations_pos p i, by have := durations_le p i; omega⟩
  have hopen : start < start + (durations (getPatternSteps p) 0).toNat :=
    Nat.lt_add_of_pos_right (durations_pos p 0)
  refine ⟨_, (lasts_from (x := ⟨0, start⟩) hd le_rfl hopen hticks).1, emitted_start_mem, ?_⟩
  rintro done ⟨rest, rfl⟩ t ht
  rw [timesOf, List.filterMap_append] at hticks ⊢
  obtain ⟨y, hafter, hforce, hy⟩ := inForce_from (x := ⟨0, start⟩) hd le_rfl hopen hticks ht
  have hfollows := follows_taken hnew start fun e he => hkeep e (List.mem_append_left rest he)
  rw [timesOf, hafter] at hfollows
  refine ⟨y, hforce, hy, ?_⟩
  rw [levelAfter_eq, hfollows.ledOn]
  rfl

/-- The pattern of a search in the rounds of the loop, through a whole cycle. -/
theorem level_steps_boot :
    ∃ phases, (⟨0, 20⟩ :: phases).IsChain
        (Lasts (durations (getPatternSteps .WIFI_SEARCHING)) 300) ∧
      (∀ y ∈ phases, y.start ∈ [250, 500, 750, 1000, 1250]) ∧
      ∀ done, done <+: ([250, 500, 750, 1000, 1250].flatMap fun t =>
          LedPatternPolicy.update t 1 false) →
        ∀ t ∈ (20 :: timesOf done).getLast?, ∃ y, InForce (⟨0, 20⟩ :: phases) t y ∧
          t < y.start + (durations (getPatternSteps .WIFI_SEARCHING) y.index).toNat ∧
          levelAfter (.setPattern .WIFI_SEARCHING :: .update 20 :: done) =
            lit (getPatternSteps .WIFI_SEARCHING) y.index := by
  have hkeep : ∀ e ∈ ([250, 500, 750, 1000, 1250].flatMap fun t =>
      LedPatternPolicy.update t 1 false), e.Keeps .WIFI_SEARCHING := keeps_rounds fun _ _ => rfl
  have hticks : Ticks 300 [20, 250, 500, 750, 1000, 1250] := by simp [Ticks]
  exact level_steps (by decide) [] .WIFI_SEARCHING (by decide) hkeep hticks

end Runs

end StatusLED

end VehicleSpy.Firmware
