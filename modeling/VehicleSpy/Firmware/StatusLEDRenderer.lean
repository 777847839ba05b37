import VehicleSpy.Firmware.StatusLED

/-! # The pictures of the LED patterns

The help text draws each pattern with one glyph for a tenth of a second and a bar at every whole
second. A closing separator is left out. What is drawn is what the LED shows.
-/

namespace VehicleSpy.Firmware

open Text Machine PhaseTimer StatusLED StatusLEDConstants

namespace StatusLEDRenderer

def BAR : Byte := 124
def DASH : Byte := 45

/-- A run of equal glyphs. -/
structure Run where
  state : LEDState
  tenths : ℕ
  deriving DecidableEq, Repr

def isTrailingSeparator (step : LEDStep) (isLast : Bool) : Bool :=
  if !isLast then false
  else if step.state = .SEPARATOR then true
  else step.state = .OFF ∧ SEPARATOR_MS ≤ step.durationMs

/-- The runs of the steps that are drawn, those of no tenth left out. -/
def plan (isSingleState : Bool) : List LEDStep → List Run
  | [] => []
  | step :: steps =>
    if !isSingleState && isTrailingSeparator step steps.isEmpty then plan isSingleState steps
    else if step.durationMs / 100 = 0 then plan isSingleState steps
    else ⟨step.state, (step.durationMs / 100).toNat⟩ :: plan isSingleState steps

def totalTenths : List Run → ℕ
  | [] => 0
  | run :: runs => run.tenths + totalTenths runs

def glyph (state : LEDState) : Byte := if state = .ON then DASH else SP

/-- The drawing loop: the run that is drawn with the tenths left of it, the runs behind it, the
tenths drawn and those still to draw. -/
def draw (run : LEDState) (left : ℕ) (runs : List Run) (elapsed : ℕ) : ℕ → Bytes
  | 0 => []
  | todo + 1 =>
    (if 0 < elapsed ∧ elapsed % 10 = 0 then [BAR] else []) ++ glyph run ::
      match runs with
      | [] => draw run (left - 1) [] (elapsed + 1) todo
      | next :: rest =>
        if left - 1 = 0 then draw next.state next.tenths rest (elapsed + 1) todo
        else draw run (left - 1) (next :: rest) (elapsed + 1) todo

def renderSteps (steps : List LEDStep) : Bytes :=
  match plan (steps.length = 1) steps with
  | [] => []
  | run :: runs =>
    [BAR] ++ draw run.state run.tenths runs 0 (totalTenths (run :: runs)) ++ [BAR]

def renderPattern (pattern : Pattern) : Bytes := renderSteps (getPatternSteps pattern)

/-- What is drawn between the bars. -/
def glyphs (picture : Bytes) : Bytes := picture.filter (· ≠ BAR)

section Picture

variable {run : LEDState} {left elapsed : ℕ} {runs : List Run} {steps : List LEDStep} {b : Bool}

/-- The glyphs of the runs. -/
def expand : List Run → Bytes
  | [] => []
  | run :: runs => List.replicate run.tenths (glyph run.state) ++ expand runs

/-- The glyphs of all steps. -/
def samples : List LEDStep → Bytes
  | [] => []
  | step :: steps =>
    List.replicate (step.durationMs.toNat / 100) (glyph step.state) ++ samples steps

theorem glyphs_append (u v : Bytes) : glyphs (u ++ v) = glyphs u ++ glyphs v :=
  List.filter_append u v

theorem glyph_ne_bar (state : LEDState) : glyph state ≠ BAR := by cases state <;> decide

theorem glyphs_bars (elapsed : ℕ) (state : LEDState) (rest : Bytes) :
    glyphs ((if 0 < elapsed ∧ elapsed % 10 = 0 then [BAR] else []) ++ glyph state :: rest) =
      glyph state :: glyphs rest := by
  have hbar : glyphs (if 0 < elapsed ∧ elapsed % 10 = 0 then [BAR] else []) = [] := by
    split <;> rfl
  rw [glyphs_append, hbar, List.nil_append, glyphs, List.filter_cons_of_pos]
  · rfl
  · simpa using glyph_ne_bar state

/-- Without the bars the loop draws the rest of its run and the runs behind it. -/
theorem glyphs_draw (hleft : 0 < left) (hruns : ∀ r ∈ runs, 0 < r.tenths) :
    glyphs (draw run left runs elapsed (left + totalTenths runs)) =
      List.replicate left (glyph run) ++ expand runs := by
  induction hn : left + totalTenths runs generalizing run left runs elapsed with
  | zero => omega
  | succ n ih =>
    obtain ⟨m, rfl⟩ := Nat.exists_eq_add_of_le' hleft
    rw [List.replicate_succ, List.cons_append]
    cases runs with
    | nil =>
      rw [draw, glyphs_bars]
      congr 1
      rcases Nat.eq_zero_or_pos m with rfl | hm
      · obtain rfl : n = 0 := by
          simp only [totalTenths] at hn
          omega
        rfl
      · exact ih hm (by simp) (by simp only [totalTenths] at hn ⊢; omega)
    | cons next rest =>
      obtain ⟨hnext, hrest⟩ := List.forall_mem_cons.mp hruns
      simp only [totalTenths] at hn
      rw [draw, glyphs_bars]
      congr 1
      rcases Nat.eq_zero_or_pos m with rfl | hm
      · exact ih hnext hrest (by omega)
      · rw [if_neg (show ¬ m + 1 - 1 = 0 by omega)]
        exact ih hm hruns (by simp only [totalTenths]; omega)

theorem tenths_pos_of_mem_plan : ∀ r ∈ plan b steps, 0 < r.tenths := by
  induction steps with
  | nil => simp [plan]
  | cons step steps ih =>
    rw [plan]
    split
    · exact ih
    · split
      · exact ih
      · next h =>
        rintro r (_ | ⟨_, hr⟩)
        · exact Nat.pos_of_ne_zero fun hz => h (UInt32.toNat_inj.mp hz)
        · exact ih r hr

theorem glyphs_renderSteps (steps : List LEDStep) :
    glyphs (renderSteps steps) = expand (plan (steps.length = 1) steps) := by
  have hpos : ∀ r ∈ plan (steps.length = 1) steps, 0 < r.tenths := tenths_pos_of_mem_plan
  rw [renderSteps]
  split
  · next h => rw [h]; rfl
  · next run runs h =>
    rw [h] at hpos
    obtain ⟨hrun, hruns⟩ := List.forall_mem_cons.mp hpos
    rw [h, glyphs_append, glyphs_append, totalTenths, glyphs_draw hrun hruns]
    exact List.append_nil _

/-- The steps are drawn up to a closing separator, which is not on. -/
theorem samples_eq (b : Bool) (steps : List LEDStep) :
    ∃ rest, samples steps = expand (plan b steps) ++ rest ∧ ∀ c ∈ rest, c ≠ DASH := by
  induction steps with
  | nil => exact ⟨[], rfl, by simp⟩
  | cons step steps ih =>
    obtain ⟨rest, heq, hrest⟩ := ih
    have htenths : step.durationMs.toNat / 100 = (step.durationMs / 100).toNat := by
      rw [UInt32.toNat_div]
      rfl
    rw [samples, plan, htenths]
    split
    · next hlast =>
      obtain ⟨-, hsep⟩ := Bool.and_eq_true_iff.mp hlast
      have hnil : steps = [] := by
        cases steps with
        | nil => rfl
        | cons => simp [isTrailingSeparator] at hsep
      have hoff : step.state ≠ .ON := by
        rintro hon
        simp [isTrailingSeparator, hon] at hsep
      subst hnil
      refine ⟨_, List.append_nil _, ?_⟩
      intro c hc
      rw [List.eq_of_mem_replicate hc, glyph, if_neg hoff]
      decide
    · split
      · next hz =>
        rw [hz]
        exact ⟨rest, heq, hrest⟩
      · exact ⟨rest, by rw [heq, expand, List.append_assoc], hrest⟩

theorem getElem?_replicate_append {α : Type} (x : α) (n k : ℕ) (l : List α) :
    (List.replicate n x ++ l)[k]? = if k < n then some x else l[k - n]? := by
  rw [List.getElem?_append, List.length_replicate]
  split
  · next h => rw [List.getElem?_replicate_of_lt h]
  · rfl

/-- Every tenth of a second of whole tenths has its glyph. -/
theorem litAt_samples (h : ∀ step ∈ steps, 100 ∣ step.durationMs.toNat) (ms : ℕ) :
    litAt steps ms = decide ((samples steps)[ms / 100]? = some DASH) := by
  induction steps generalizing ms with
  | nil => rfl
  | cons step steps ih =>
    obtain ⟨⟨n, hn⟩, hsteps⟩ := List.forall_mem_cons.mp h
    rw [litAt, samples, hn, Nat.mul_div_cancel_left _ (by decide),
      getElem?_replicate_append]
    by_cases hlt : ms < 100 * n
    · rw [if_pos hlt, if_pos (Nat.div_lt_of_lt_mul hlt)]
      cases step.state <;> decide
    · have hrest : (ms - 100 * n) / 100 = ms / 100 - n := by omega
      rw [if_neg hlt, if_neg (by omega), ih hsteps, hrest]

/-- What a pattern means is what is drawn of it, and nothing is on behind the picture. -/
theorem waveform_eq (p : Pattern) (ms : ℕ) :
    waveform p ms = decide ((glyphs (renderPattern p))[ms % cycleMs (getPatternSteps p) / 100]? =
      some DASH) := by
  have hdvd : ∀ step ∈ getPatternSteps p, 100 ∣ step.durationMs.toNat := by cases p <;> decide
  obtain ⟨rest, heq, hrest⟩ := samples_eq ((getPatternSteps p).length = 1) (getPatternSteps p)
  rw [waveform, litAt_samples hdvd, heq, renderPattern, glyphs_renderSteps, List.getElem?_append]
  split
  · rfl
  · next h =>
    rw [List.getElem?_eq_none (not_lt.mp h), decide_eq_decide]
    simp only [reduceCtorEq, iff_false]
    exact fun hsome => hrest _ (List.mem_of_getElem? hsome) rfl

/-- Updated with a period that divides 100 ms, the LED shows the picture of a pattern again and
again from the moment the pattern is taken up, and is off behind the picture's end. -/
theorem level_picture {period : ℕ} (hdvd : period ∣ 100) (events : List LedEvent) (p : Pattern)
    (hnew : p ≠ (after step boot events).lastPattern) (start k : ℕ) :
    levelAfter (taken events p (start :: periodic start period k)) =
      decide ((glyphs (renderPattern p))[period * k % cycleMs (getPatternSteps p) / 100]? =
        some DASH) := by
  rw [level_waveform hdvd events p hnew, waveform_eq]

/-- A search that follows the boot pattern, 900 ms after it was taken up. -/
theorem level_picture_searching :
    levelAfter (taken [.update 7] .WIFI_SEARCHING (20 :: periodic 20 50 18)) =
      decide ((glyphs (renderPattern .WIFI_SEARCHING))[50 * 18 %
        cycleMs (getPatternSteps .WIFI_SEARCHING) / 100]? = some DASH) :=
  level_picture (by decide) [.update 7] .WIFI_SEARCHING (by decide) 20 18

end Picture

end StatusLEDRenderer

end VehicleSpy.Firmware
