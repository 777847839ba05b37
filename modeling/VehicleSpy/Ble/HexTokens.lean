import VehicleSpy.Ble.Banner
import VehicleSpy.Text.Segments
import Mathlib.Algebra.Group.Even

/-! # The tokens of a reply

A token of a reply is a run of hexadecimal digits that is not ended by a colon; a colon makes the
run in front of it the label of a line. The decoder keeps a lone digit over the separators, so that
two tokens of odd length make a byte together, and it forgets the digit at the next label.
-/

namespace VehicleSpy.Ble.ELM327Transport

open Text Machine

/-- A run of digits, which may be empty, and the byte that ends it. -/
abbrev DigitRun := Bytes × Option Byte

def runStep (current : Bytes) (c : Byte) : Bytes × List DigitRun :=
  if isxdigit c then (current ++ [c], []) else ([], [(current, some c)])

/-- The maximal runs of digits of a text. -/
def digitRuns (text : Bytes) : List DigitRun :=
  emitted runStep [] text ++ [(after runStep [] text, none)]

def isLabel (r : DigitRun) : Bool := r.2 == some COLON

/-- The runs of digits that no colon follows at once. -/
def hexTokens (text : Bytes) : List Bytes :=
  ((digitRuns text).filter fun r => !isLabel r && r.1 ≠ []).map Prod.fst

/-- The bytes that the pairs of digits denote. -/
def digitPairs : Bytes → Bytes
  | h :: l :: s => (numValue 16 [h, l]).toUInt8 :: digitPairs s
  | _ => []

/-- What a text without a banner means. -/
def tokenBytes (text : Bytes) : Option Bytes :=
  if isErrorMessage text = true ∨ hexTokens text = [] ∨ ¬ ∀ t ∈ hexTokens text, Even t.length then
    none
  else some ((hexTokens text).flatMap digitPairs)

/-- The runs between the labels. -/
def labelParts (text : Bytes) : List (List DigitRun) :=
  segments isLabel (digitRuns text) ++ [remainder isLabel (digitRuns text)]

/-- The digits of runs, one after the other. -/
def runDigits (part : List DigitRun) : Bytes := part.flatMap Prod.fst

/-- No two tokens of odd length make a byte: there is none, or the reply is an error, or the digits
behind the last label are odd in number, or there is no pair of digits between any two labels. -/
def Unmixed (text : Bytes) : Prop :=
  isErrorMessage text = true ∨ (∀ t ∈ hexTokens text, Even t.length) ∨
    Odd (runDigits (remainder isLabel (digitRuns text))).length ∨
    ∀ part ∈ labelParts text, (runDigits part).length ≤ 1

section Pairs

variable {s t : Bytes}

theorem flushHexAccumulator_append (x y : Bytes) :
    flushHexAccumulator (x ++ y) =
      ((flushHexAccumulator ((flushHexAccumulator x).1 ++ y)).1,
        (flushHexAccumulator x).2 ++ (flushHexAccumulator ((flushHexAccumulator x).1 ++ y)).2) := by
  fun_induction flushHexAccumulator x with
  | case1 h l s r ih => simp only [List.cons_append, flushHexAccumulator, ih]; rfl
  | case2 s hs => rw [List.nil_append]

theorem length_flushHexAccumulator (s : Bytes) :
    (flushHexAccumulator s).1.length = s.length % 2 := by
  fun_induction flushHexAccumulator s with
  | case1 h l s r ih =>
    rw [List.length_cons, List.length_cons]
    exact ih.trans (by omega)
  | case2 s hs =>
    rcases s with _ | ⟨h, _ | ⟨l, s⟩⟩
    · rfl
    · rfl
    · exact absurd rfl (hs h l s)

/-- The flushed pairs of upper-cased digits are the bytes they denote. -/
theorem flushHexAccumulator_toupper (hs : ∀ c ∈ s, isxdigit c = true) :
    (flushHexAccumulator (s.map toupper)).2 = digitPairs s := by
  induction s using List.twoStepInduction with
  | nil => rfl
  | singleton => rfl
  | cons_cons h l s ih =>
    obtain ⟨hh, hs⟩ := List.forall_mem_cons.mp hs
    obtain ⟨hl, hs⟩ := List.forall_mem_cons.mp hs
    have hbyte := parseHexByte_toupper hh hl
    rw [parseHexByte] at hbyte
    split at hbyte
    · cases hbyte
    · rw [List.map_cons, List.map_cons, flushHexAccumulator, ih hs, Option.some.inj hbyte,
        digitPairs]

theorem digitPairs_append (hs : Even s.length) :
    digitPairs (s ++ t) = digitPairs s ++ digitPairs t := by
  induction s using List.twoStepInduction with
  | nil => rfl
  | singleton => simp at hs
  | cons_cons h l s ih =>
    rw [List.length_cons, List.length_cons, add_assoc] at hs
    rw [List.cons_append, List.cons_append, digitPairs, digitPairs, List.cons_append, ih]
    exact (Nat.even_add.mp hs).mpr (by decide)

theorem digitPairs_eq_nil_iff : digitPairs s = [] ↔ s.length ≤ 1 := by
  rcases s with _ | ⟨h, _ | ⟨l, s⟩⟩ <;> simp [digitPairs]

end Pairs

section Decode

variable {text : Bytes}

/-- What a run of digits and the byte behind it do to the accumulator. -/
def Accumulator.run (a : Accumulator) (r : DigitRun) : Accumulator :=
  let b := { a with hexStr := a.hexStr ++ r.1.map toupper }
  if isLabel r then { b with hexStr := [] } else b.flush

/-- The decoder takes the text run by run. -/
theorem flush_foldl_step (a : Accumulator) (current text : Bytes) :
    (text.foldl Accumulator.step { a with hexStr := a.hexStr ++ current.map toupper }).flush =
      (emitted runStep current text ++ [(after runStep current text, none)]).foldl
        Accumulator.run a := by
  induction text generalizing a current with
  | nil => rfl
  | cons c text ih =>
    rw [List.foldl_cons, emitted_cons, after_cons]
    by_cases hc : isxdigit c = true
    · rw [runStep, if_pos hc]
      have hstep := ih a (current ++ [c])
      rw [List.map_append, ← List.append_assoc] at hstep
      rw [Accumulator.step, if_pos hc]
      exact hstep
    · rw [runStep, if_neg hc]
      have hstep := ih (a.run (current, some c)) []
      rw [List.map_nil, List.append_nil] at hstep
      rw [Accumulator.step, if_neg hc, List.append_assoc, List.singleton_append, List.foldl_cons,
        ← hstep]
      simp only [Accumulator.run, isLabel, Option.some_beq_some, beq_iff_eq]

theorem isxdigit_of_mem_digitRuns : ∀ r ∈ digitRuns text, ∀ c ∈ r.1, isxdigit c = true := by
  have hrun (current : Bytes) (hcurrent : ∀ c ∈ current, isxdigit c = true) :
      ∀ r ∈ emitted runStep current text ++ [(after runStep current text, none)],
        ∀ c ∈ r.1, isxdigit c = true := by
    induction text generalizing current with
    | nil => simpa using hcurrent
    | cons c text ih =>
      rw [emitted_cons, after_cons]
      by_cases hc : isxdigit c = true
      · rw [runStep, if_pos hc]
        refine ih (current ++ [c]) ?_
        simpa [or_imp, forall_and, hc] using hcurrent
      · rw [runStep, if_neg hc, List.append_assoc, List.singleton_append, List.forall_mem_cons]
        exact ⟨hcurrent, ih [] (List.forall_mem_nil _)⟩
  exact hrun [] (List.forall_mem_nil _)

/-- The bytes a part of the text adds to the result. -/
def partBytes (part : List DigitRun) : Bytes :=
  (flushHexAccumulator ((runDigits part).map toupper)).2

/-- The lone digit of the open part stays, and each part has added its pairs of digits. -/
theorem foldl_run (runs : List DigitRun) :
    runs.foldl Accumulator.run {} =
      ⟨(flushHexAccumulator ((runDigits (remainder isLabel runs)).map toupper)).1,
        (segments isLabel runs ++ [remainder isLabel runs]).flatMap partBytes⟩ := by
  induction runs using List.reverseRecOn with
  | nil => rfl
  | append_singleton runs r ih =>
    rw [List.foldl_append, ih, List.foldl_cons, List.foldl_nil, Accumulator.run]
    cases hr : isLabel r with
    | true =>
      obtain ⟨hs, hrem⟩ := segments_concat hr runs
      rw [hs, hrem, ← segments_append_remainder]
      simp [runDigits, partBytes, flushHexAccumulator]
    | false =>
      obtain ⟨hs, hrem⟩ := segments_concat_open hr runs
      have hflush := flushHexAccumulator_append
        ((runDigits (remainder isLabel runs)).map toupper) (r.1.map toupper)
      rw [hs, hrem]
      simp only [Bool.false_eq_true, if_false, Accumulator.flush, partBytes, runDigits,
        List.flatMap_append, List.flatMap_singleton, List.map_append, List.append_assoc] at hflush ⊢
      rw [hflush]

theorem partBytes_eq {part : List DigitRun} (h : ∀ r ∈ part, ∀ c ∈ r.1, isxdigit c = true) :
    partBytes part = digitPairs (runDigits part) := by
  refine flushHexAccumulator_toupper fun c hc => ?_
  obtain ⟨r, hr, hc⟩ := List.mem_flatMap.mp hc
  exact h r hr c hc

theorem mem_of_mem_labelParts {part : List DigitRun} (h : part ∈ labelParts text) :
    ∀ r ∈ part, r ∈ digitRuns text ∧ isLabel r = false := by
  rcases List.mem_append.mp h with h | h
  · obtain ⟨hin, hfree⟩ := mem_segments h
    exact fun r hr => ⟨hin.subset hr, hfree r hr⟩
  · obtain rfl := List.mem_singleton.mp h
    exact fun r hr => ⟨(remainder_suffix _).subset hr, remainder_free _ r hr⟩

theorem decodeHex_eq (text : Bytes) :
    decodeHex text =
      if Odd (runDigits (remainder isLabel (digitRuns text))).length ∨
          ∀ part ∈ labelParts text, (runDigits part).length ≤ 1 then none
      else some ((labelParts text).flatMap fun part => digitPairs (runDigits part)) := by
  have hfold : (text.foldl Accumulator.step {}).flush =
      ⟨(flushHexAccumulator ((runDigits (remainder isLabel (digitRuns text))).map toupper)).1,
        (labelParts text).flatMap partBytes⟩ :=
    (flush_foldl_step {} [] text).trans (foldl_run (digitRuns text))
  have hodd : (flushHexAccumulator
      ((runDigits (remainder isLabel (digitRuns text))).map toupper)).1 ≠ [] ↔
      Odd (runDigits (remainder isLabel (digitRuns text))).length := by
    rw [← List.length_pos_iff_ne_nil, length_flushHexAccumulator, List.length_map, Nat.odd_iff]
    omega
  have hbytes : (labelParts text).flatMap partBytes =
      (labelParts text).flatMap fun part => digitPairs (runDigits part) :=
    List.flatMap_congr fun part hpart => partBytes_eq fun r hr =>
      isxdigit_of_mem_digitRuns r (mem_of_mem_labelParts hpart r hr).1
  have hnone : (labelParts text).flatMap partBytes = [] ↔
      ∀ part ∈ labelParts text, (runDigits part).length ≤ 1 := by
    simp only [hbytes, List.flatMap_eq_nil_iff, digitPairs_eq_nil_iff]
  simp only [decodeHex, hfold, hodd, hnone]
  rw [hbytes, ← ite_or]

theorem even_hexTokens_iff :
    (∀ t ∈ hexTokens text, Even t.length) ↔
      ∀ r ∈ digitRuns text, isLabel r = false → Even r.1.length := by
  constructor
  · intro h r hr hlabel
    by_cases hnil : r.1 = []
    · rw [hnil]
      decide
    · exact h r.1 (List.mem_map_of_mem (List.mem_filter.mpr ⟨hr, by simp [hlabel, hnil]⟩))
  · intro h t ht
    obtain ⟨r, hr, rfl⟩ := List.mem_map.mp ht
    obtain ⟨hr, hlabel⟩ := List.mem_filter.mp hr
    rw [Bool.and_eq_true, Bool.not_eq_true'] at hlabel
    exact h r hr hlabel.1

/-- Runs of even length pair their digits one by one. -/
theorem digitPairs_runDigits {part : List DigitRun} (h : ∀ r ∈ part, Even r.1.length) :
    Even (runDigits part).length ∧
      digitPairs (runDigits part) = part.flatMap fun r => digitPairs r.1 := by
  induction part with
  | nil => exact ⟨by decide, rfl⟩
  | cons r part ih =>
    obtain ⟨hr, hpart⟩ := List.forall_mem_cons.mp h
    obtain ⟨heven, hpairs⟩ := ih hpart
    constructor
    · rw [runDigits, List.flatMap_cons, List.length_append]
      exact hr.add heven
    · rw [runDigits, List.flatMap_cons, List.flatMap_cons, digitPairs_append hr, ← hpairs,
        runDigits]

theorem flatten_labelParts (text : Bytes) :
    (labelParts text).flatten = (digitRuns text).filter (!isLabel ·) := by
  rw [labelParts, List.flatten_append, List.flatten_singleton, flatten_segments]

theorem flatMap_hexTokens (text : Bytes) :
    (hexTokens text).flatMap digitPairs =
      ((digitRuns text).filter (!isLabel ·)).flatMap fun r => digitPairs r.1 := by
  rw [hexTokens, List.flatMap_map]
  induction digitRuns text with
  | nil => rfl
  | cons r runs ih =>
    by_cases hlabel : isLabel r = true
    · simpa [hlabel] using ih
    · by_cases hr : r.1 = [] <;> simpa [hlabel, hr, digitPairs] using ih

/-- Tokens of even length are decoded one by one. -/
theorem decodeHex_even (h : ∀ t ∈ hexTokens text, Even t.length) :
    decodeHex text =
      if hexTokens text = [] then none else some ((hexTokens text).flatMap digitPairs) := by
  have hparts : ∀ part ∈ labelParts text, Even (runDigits part).length ∧
      digitPairs (runDigits part) = part.flatMap fun r => digitPairs r.1 :=
    fun part hpart => digitPairs_runDigits fun r hr =>
      even_hexTokens_iff.mp h r (mem_of_mem_labelParts hpart r hr).1
        (mem_of_mem_labelParts hpart r hr).2
  have hbytes : (labelParts text).flatMap (fun part => digitPairs (runDigits part)) =
      (hexTokens text).flatMap digitPairs := by
    rw [flatMap_hexTokens, ← flatten_labelParts, ← List.flatMap_id, List.flatMap_assoc]
    exact List.flatMap_congr fun part hpart => (hparts part hpart).2
  have hlast := (hparts (remainder isLabel (digitRuns text)) (by simp [labelParts])).1
  have hnone : (∀ part ∈ labelParts text, (runDigits part).length ≤ 1) ↔ hexTokens text = [] := by
    simp only [← digitPairs_eq_nil_iff, ← List.flatMap_eq_nil_iff, hbytes]
    constructor
    · intro hnil
      refine List.eq_nil_iff_forall_not_mem.mpr fun t ht => ?_
      have hshort := digitPairs_eq_nil_iff.mp (List.flatMap_eq_nil_iff.mp hnil t ht)
      obtain ⟨r, hr, rfl⟩ := List.mem_map.mp ht
      have hne := (List.mem_filter.mp hr).2
      rw [Bool.and_eq_true, decide_eq_true_eq] at hne
      have hpos := List.length_pos_of_ne_nil hne.2
      obtain ⟨k, hk⟩ := h r.1 ht
      omega
    · intro hnil
      rw [hnil, List.flatMap_nil]
  rw [decodeHex_eq, hbytes]
  simp only [hnone, Nat.not_odd_iff_even.mpr hlast, false_or]

/-- The decoder takes the tokens of a text one by one just when none of odd length is mixed in. -/
theorem decodes_iff (text : Bytes) :
    (if isErrorMessage text then none else decodeHex text) = tokenBytes text ↔ Unmixed text := by
  by_cases herror : isErrorMessage text = true
  · simp [tokenBytes, Unmixed, herror]
  · by_cases heven : ∀ t ∈ hexTokens text, Even t.length
    · have hbytes : tokenBytes text =
          if hexTokens text = [] then none else some ((hexTokens text).flatMap digitPairs) := by
        simp only [tokenBytes, or_iff_right herror, or_iff_left (not_not_intro heven)]
      rw [if_neg herror, decodeHex_even heven, hbytes]
      exact iff_of_true rfl (Or.inr (Or.inl heven))
    · have hnone : tokenBytes text = none := if_pos (Or.inr (Or.inr heven))
      rw [hnone, if_neg herror, decodeHex_eq, Unmixed, or_iff_right herror, or_iff_right heven]
      exact ⟨fun h => by_contra fun hn => by simp [hn] at h, fun h => if_pos h⟩

end Decode

section Parser

/-- A response without its prompt and its banner is parsed as its tokens say. -/
def DecodesTokens (response : Bytes) : Prop :=
  ∀ T, BannerRemoved (extractPrompt response) T → parseOBD2Response response = tokenBytes T

/-- A reply is parsed as its tokens say just when none of odd length is mixed with another. -/
theorem decodesTokens_iff (response : Bytes) :
    DecodesTokens response ↔ ∀ T, BannerRemoved (extractPrompt response) T → Unmixed T := by
  refine forall₂_congr fun T hT => ?_
  obtain rfl := (bannerRemoved_iff (List.Perm.refl infoMessages)).mp hT
  rw [parseOBD2Response_eq]
  exact decodes_iff _

/-- The digits of an adapter's version text are taken for three bytes. -/
theorem not_decodesTokens : ¬ DecodesTokens (ascii "ELM327 v1.5\r\r>") := by
  intro h
  have hT := h _ (.absent (by decide +kernel))
  revert hT
  decide +kernel

end Parser

end VehicleSpy.Ble.ELM327Transport
