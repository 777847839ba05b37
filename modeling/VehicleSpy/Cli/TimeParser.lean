import VehicleSpy.Machine.Float64
import VehicleSpy.Telemetry.CsvReplay
import VehicleSpy.Text.Segments

/-! # Timecodes

A timecode is cut at its colons, and each field is read by `std::stod`, which takes the longest
number at the start of a text and anything behind it.
-/

namespace VehicleSpy.Cli.TimeParser

open Text Machine Machine.Binary64 Telemetry

section Strtod

/-- The power of two of an exponent, if one stands in front. -/
def binaryExponent : Bytes → ℤ
  | p :: s =>
    if p = 112 ∨ p = 80 then
      let (negative, s) := takeSign s
      let digits := s.takeWhile (isDigit 10)
      if negative then -(numValue 10 digits : ℤ) else numValue 10 digits
    else 0
  | [] => 0

/-- What stands behind `0x` if a digit follows there, perhaps behind a point. -/
def hexNumeral : Bytes → Option Bytes
  | c :: x :: s =>
    if c = 48 ∧ (x = 120 ∨ x = 88) ∧
        (s.head?.any (isDigit 16) ∨ s.head? = some 46 ∧ s.tail.head?.any (isDigit 16)) then some s
    else none
  | _ => none

/-- The value of a hexadecimal number. -/
def hexExact (s : Bytes) : ℚ :=
  let whole := s.takeWhile (isDigit 16)
  let s := s.dropWhile (isDigit 16)
  let frac := if s.head? = some 46 then s.tail.takeWhile (isDigit 16) else []
  let s := if s.head? = some 46 then s.tail.dropWhile (isDigit 16) else s
  numValue 16 (whole ++ frac) * 2 ^ (binaryExponent s - 4 * frac.length)

/-- `std::stod`, whatever follows the number; it throws if there is none, and if the value is too
great or too small for a normal number. -/
def stod (s : Bytes) : Option Float64 :=
  let (negative, t) := takeSign (s.dropWhile isSpace)
  if startsWith (ascii "INF") (t.map toupper) then some (.infinite negative)
  else if startsWith (ascii "NAN") (t.map toupper) then some .nan
  else
    match hexNumeral t with
    | some digits =>
      let exact := hexExact digits
      if 2 ^ 1024 ≤ rnd exact ∨ 0 < exact ∧ exact < minNormal then none
      else some (.finite (if negative then -rnd exact else rnd exact))
    | none => (Telemetry.stod s).map .finite

end Strtod

/-- The fields that `std::getline` yields between colons. -/
def getFields (s : Bytes) : List Bytes :=
  let fields := s.splitOn COLON
  if fields.getLast? = some [] then fields.dropLast else fields

def parseFields : List Bytes → Option Float64
  | [a] => stod a
  | [a, b] => do
    let a ← stod a
    let b ← stod b
    return a * .finite 60 + b
  | [a, b, c] => do
    let a ← stod a
    let b ← stod b
    let c ← stod c
    return a * .finite 3600 + b * .finite 60 + c
  | _ => none

/-- An exception of `std::stod` is caught. -/
def parseTimecodeToSeconds (s : Bytes) : Float64 :=
  if s = [] then .finite (-1)
  else if s.head? = some COLON ∨ s.getLast? = some COLON then .finite (-1)
  else (parseFields (getFields s)).getD (.finite (-1))

/-- A decimal number: digits, and perhaps a point and digits behind them. -/
structure Decimal where
  whole : Bytes
  frac : Bytes
  whole_ne_nil : whole ≠ []
  isDigit_whole : ∀ c ∈ whole, isDigit 10 c = true
  isDigit_frac : ∀ c ∈ frac, isDigit 10 c = true

namespace Decimal

variable (d : Decimal)

def text : Bytes := d.whole ++ fraction d.frac

def value : ℚ := exactDecimal d.whole d.frac

/-- The nearest `double` is finite, and zero or a normal number. -/
def InRange : Prop := rnd d.value < 2 ^ 1024 ∧ (d.value = 0 ∨ minNormal ≤ d.value)

end Decimal

/-- One to three decimal numbers between colons. -/
structure Timecode where
  fields : List Decimal
  fields_ne_nil : fields ≠ []
  length_le : fields.length ≤ 3

namespace Timecode

variable (t : Timecode)

def text : Bytes := [COLON].intercalate (t.fields.map Decimal.text)

/-- The seconds, as `double` computes them. -/
def seconds : Float64 :=
  match t.fields.map fun d => Float64.finite (rnd d.value) with
  | [s] => s
  | [m, s] => m * .finite 60 + s
  | [h, m, s] => h * .finite 3600 + m * .finite 60 + s
  | _ => .nan

end Timecode

/-- A timecode gives its seconds, which are not negative, and another text gives -1. -/
def ExactAt (s : Bytes) : Prop :=
  (∃ t : Timecode, t.text = s ∧ parseTimecodeToSeconds s = t.seconds ∧ t.seconds.Nonneg) ∨
    (∀ t : Timecode, t.text ≠ s) ∧ parseTimecodeToSeconds s = .finite (-1)

section Fields

variable {d : Decimal} {s : Bytes}

theorem Decimal.mem_text (d : Decimal) : ∀ c ∈ d.text, isDigit 10 c = true ∨ c = 46 := by
  intro c hc
  rcases List.mem_append.mp hc with hc | hc
  · exact Or.inl (d.isDigit_whole c hc)
  · unfold fraction at hc
    split at hc
    · cases hc
    · rcases List.mem_cons.mp hc with rfl | hc
      · exact Or.inr rfl
      · exact Or.inl (d.isDigit_frac c hc)

theorem Decimal.head_text (d : Decimal) : ∃ c s, d.text = c :: s ∧ isDigit 10 c = true := by
  obtain ⟨c, w, hw⟩ := List.exists_cons_of_ne_nil d.whole_ne_nil
  refine ⟨c, w ++ fraction d.frac, by rw [Decimal.text, hw, List.cons_append], ?_⟩
  exact d.isDigit_whole c (by simp [hw])

/-- A text of digits and points is neither a name nor a hexadecimal number. -/
theorem decimal_route (d : Decimal) :
    startsWith (ascii "INF") (d.text.map toupper) = false ∧
      startsWith (ascii "NAN") (d.text.map toupper) = false ∧ hexNumeral d.text = none := by
  obtain ⟨c, s, hs, hc⟩ := d.head_text
  have hup : ∀ c : Byte, isDigit 10 c = true → toupper c ≠ 73 ∧ toupper c ≠ 78 :=
    forall_byte (by decide +kernel)
  have hx : ∀ c : Byte, isDigit 10 c = true ∨ c = 46 → ¬ (c = 120 ∨ c = 88) :=
    forall_byte (by decide +kernel)
  obtain ⟨hI, hN⟩ := hup c hc
  refine ⟨?_, ?_, ?_⟩
  · rw [hs, List.map_cons]
    simp [startsWith, ascii, List.isPrefixOf, hI.symm]
  · rw [hs, List.map_cons]
    simp [startsWith, ascii, List.isPrefixOf, hN.symm]
  · rw [hs]
    cases s with
    | nil => rfl
    | cons x s =>
      have hnot := hx x (d.mem_text x (by simp [hs]))
      exact if_neg fun h => hnot h.2.1

instance (d : Decimal) : Decidable d.InRange := inferInstanceAs (Decidable (_ ∧ _))

/-- A decimal number is read as the nearest `double`, with a minus in front or without. -/
theorem stod_text (negative : Bool) (d : Decimal) :
    stod ((if negative then [45] else []) ++ d.text) =
      if d.InRange then some (.finite (if negative then -rnd d.value else rnd d.value))
      else none := by
  have hsign : takeSign (((if negative then [45] else []) ++ d.text).dropWhile isSpace) =
      (negative, d.text) := by
    cases negative with
    | true => exact takeSign_minus _
    | false => exact takeSign_digits d.isDigit_whole d.whole_ne_nil _
  obtain ⟨hI, hN, hx⟩ := decimal_route d
  have hread : Telemetry.stod ((if negative then [45] else []) ++ d.text) =
      if 2 ^ 1024 ≤ rnd d.value ∨ 0 < d.value ∧ d.value < minNormal then none
      else some (if negative then -rnd d.value else rnd d.value) :=
    stod_decimal_eq negative d.isDigit_whole d.whole_ne_nil d.isDigit_frac
  have hrange : (2 ^ 1024 ≤ rnd d.value ∨ 0 < d.value ∧ d.value < minNormal) ↔ ¬ d.InRange := by
    have hnonneg := exactDecimal_nonneg d.whole d.frac
    rw [Decimal.InRange, not_and_or, not_lt, not_or, not_le]
    refine or_congr_right (and_congr_left fun _ => ?_)
    exact ⟨fun h => h.ne', fun h => lt_of_le_of_ne hnonneg (Ne.symm h)⟩
  unfold stod
  simp only [hsign, hI, hN, hx, Bool.false_eq_true, if_false]
  rw [hread]
  by_cases h : d.InRange
  · rw [if_neg (not_not_intro h ∘ hrange.mp), if_pos h]
    rfl
  · rw [if_pos (hrange.mpr h), if_neg h]
    rfl

end Fields

section Timecodes

variable {s : Bytes} {t : Timecode} {d : Decimal} {fields : List Bytes}

/-- The first and the last field are what stands in front of the first and behind the last colon. -/
theorem nil_mem_splitOn (h : s = [] ∨ s.head? = some COLON ∨ s.getLast? = some COLON) :
    [] ∈ s.splitOn COLON := by
  rw [List.splitOn_eq_splitOnP]
  rcases h with rfl | hhead | hlast
  · simp
  · obtain ⟨w, rfl⟩ := List.head?_eq_some_iff.mp hhead
    rw [List.splitOnP_cons_eq_if_modifyHead, if_pos (by decide)]
    exact List.mem_cons_self
  · obtain ⟨w, rfl⟩ := List.getLast?_eq_some_iff.mp hlast
    obtain ⟨-, hrem⟩ := segments_concat (p := (· == COLON)) (c := COLON) (by decide) w
    rw [← segments_append_remainder, hrem]
    exact List.mem_append_right _ (List.mem_singleton.mpr rfl)

/-- Behind the last colon stands something if the text does not end there. -/
theorem getFields_eq (hne : s ≠ []) (hlast : s.getLast? ≠ some COLON) :
    getFields s = s.splitOn COLON := by
  rcases List.eq_nil_or_concat s with rfl | ⟨w, c, rfl⟩
  · exact absurd rfl hne
  · rw [List.concat_eq_append] at hlast ⊢
    have hc : (c == COLON) = false := by
      refine beq_eq_false_iff_ne.mpr fun he => hlast ?_
      rw [List.getLast?_concat, he]
    obtain ⟨-, hrem⟩ := segments_concat_open (p := (· == COLON)) hc w
    have hend : ((w ++ [c]).splitOn COLON).getLast? ≠ some [] := by
      rw [List.splitOn_eq_splitOnP, ← segments_append_remainder, hrem, List.getLast?_concat]
      simp
    exact if_neg hend

theorem parseFields_none (h : 3 < fields.length ∨ ∃ f ∈ fields, stod f = none) :
    parseFields fields = none := by
  rcases fields with _ | ⟨a, _ | ⟨b, _ | ⟨c, _ | ⟨d, fields⟩⟩⟩⟩
  · rfl
  · rcases h with h | ⟨f, hf, hnone⟩
    · simp at h
    · obtain rfl := List.mem_singleton.mp hf
      exact hnone
  · rcases h with h | ⟨f, hf, hnone⟩
    · simp at h
    · simp only [List.mem_cons, List.not_mem_nil, or_false] at hf
      rcases hf with rfl | rfl <;> simp [parseFields, hnone]
  · rcases h with h | ⟨f, hf, hnone⟩
    · simp at h
    · simp only [List.mem_cons, List.not_mem_nil, or_false] at hf
      rcases hf with rfl | rfl | rfl <;> simp [parseFields, hnone]
  · rfl

/-- Too many fields, and a field without a number in range, make a text invalid. -/
theorem parse_invalid (h : 3 < (s.splitOn COLON).length ∨ ∃ f ∈ s.splitOn COLON, stod f = none) :
    parseTimecodeToSeconds s = .finite (-1) := by
  unfold parseTimecodeToSeconds
  split
  · rfl
  · next hne =>
    split
    · rfl
    · next hends =>
      rw [getFields_eq hne fun hlast => hends (Or.inr hlast), parseFields_none h]
      rfl

/-- A text whose fields are none of them empty is read field by field. -/
theorem parse_fields (hne : [] ∉ s.splitOn COLON) :
    parseTimecodeToSeconds s = (parseFields (s.splitOn COLON)).getD (.finite (-1)) := by
  have hs : s ≠ [] := fun h => hne (nil_mem_splitOn (Or.inl h))
  have hhead : s.head? ≠ some COLON := fun h => hne (nil_mem_splitOn (Or.inr (Or.inl h)))
  have hlast : s.getLast? ≠ some COLON := fun h => hne (nil_mem_splitOn (Or.inr (Or.inr h)))
  rw [parseTimecodeToSeconds, if_neg hs, if_neg (not_or.mpr ⟨hhead, hlast⟩), getFields_eq hs hlast]

theorem notMem_text (d : Decimal) : COLON ∉ d.text := fun h =>
  (d.mem_text COLON h).elim (fun h => absurd h (by decide)) (fun h => absurd h (by decide))

theorem splitOn_text (t : Timecode) : t.text.splitOn COLON = t.fields.map Decimal.text := by
  refine (splitOn_intercalate_iff (by simpa using t.fields_ne_nil)).mpr ?_
  intro v hv
  obtain ⟨d, -, rfl⟩ := List.mem_map.mp hv
  exact notMem_text d

theorem nonneg_seconds (t : Timecode) : t.seconds.Nonneg := by
  have hfield (d : Decimal) : (Float64.finite (rnd d.value)).Nonneg :=
    rnd_nonneg (exactDecimal_nonneg d.whole d.frac)
  obtain ⟨fields, hne, hle⟩ := t
  unfold Timecode.seconds
  rcases fields with _ | ⟨a, _ | ⟨b, _ | ⟨c, _ | ⟨d, fields⟩⟩⟩⟩
  · exact absurd rfl hne
  · exact hfield a
  · exact Float64.nonneg_add (Float64.nonneg_mul (hfield a) (by norm_num)) (hfield b)
  · have hhours := Float64.nonneg_mul (x := 3600) (hfield a) (by norm_num)
    have hminutes := Float64.nonneg_mul (x := 60) (hfield b) (by norm_num)
    exact Float64.nonneg_add (Float64.nonneg_add hhours hminutes) (hfield c)
  · simp only [List.length_cons] at hle
    omega

theorem text_ne_nil (d : Decimal) : d.text ≠ [] := by
  obtain ⟨c, s, hs, -⟩ := d.head_text
  rw [hs]
  exact List.cons_ne_nil _ _

/-- A timecode of fields in range gives its seconds. -/
theorem parse_text (t : Timecode) :
    parseTimecodeToSeconds t.text =
      if ∀ d ∈ t.fields, d.InRange then t.seconds else .finite (-1) := by
  have hread (d : Decimal) : stod d.text =
      if d.InRange then some (.finite (rnd d.value)) else none := stod_text false d
  split
  · next hrange =>
    have hne : [] ∉ t.text.splitOn COLON := by
      rw [splitOn_text, List.mem_map]
      rintro ⟨d, -, hd⟩
      exact text_ne_nil d hd
    have hsome : ∀ d ∈ t.fields, stod d.text = some (.finite (rnd d.value)) := fun d hd => by
      rw [hread, if_pos (hrange d hd)]
    rw [parse_fields hne, splitOn_text]
    obtain ⟨fields, hnil, hle⟩ := t
    unfold Timecode.seconds
    rcases fields with _ | ⟨a, _ | ⟨b, _ | ⟨c, _ | ⟨d, fields⟩⟩⟩⟩
    · exact absurd rfl hnil
    · simp [parseFields, hsome]
    · simp [parseFields, hsome]
    · simp [parseFields, hsome]
    · simp only [List.length_cons] at hle
      omega
  · next hrange =>
    push Not at hrange
    obtain ⟨d, hd, hout⟩ := hrange
    refine parse_invalid (Or.inr ⟨d.text, ?_, by rw [hread, if_neg hout]⟩)
    rw [splitOn_text]
    exact List.mem_map_of_mem hd

theorem splitOn_minus (d : Decimal) : (45 :: d.text).splitOn COLON = [45 :: d.text] := by
  have hcolon : COLON ∉ 45 :: d.text := fun h =>
    (List.mem_cons.mp h).elim (fun h => absurd h (by decide)) (notMem_text d)
  rw [List.splitOn_eq_splitOnP]
  refine List.splitOnP_eq_singleton fun c hc => beq_eq_false_iff_ne.mpr ?_
  rintro rfl
  exact hcolon hc

/-- A minus makes a number of seconds negative. -/
theorem parse_minus (hd : d.InRange) :
    parseTimecodeToSeconds (45 :: d.text) = .finite (-rnd d.value) := by
  have hread : stod (45 :: d.text) = some (.finite (-rnd d.value)) := by
    have hminus := stod_text true d
    rwa [if_pos hd] at hminus
  rw [parse_fields (by rw [splitOn_minus]; simp), splitOn_minus, parseFields, hread,
    Option.getD_some]

/-- Timecodes in range give their seconds, and -1 stands for any other timecode, for too many
fields and for a field without a number in range; a minus in front of a number is kept. -/
theorem parseTimecodeToSeconds_design :
    (∀ t : Timecode, (∀ d ∈ t.fields, d.InRange) →
      parseTimecodeToSeconds t.text = t.seconds ∧ t.seconds.Nonneg) ∧
    (∀ t : Timecode, ¬ (∀ d ∈ t.fields, d.InRange) →
      parseTimecodeToSeconds t.text = .finite (-1)) ∧
    (∀ s, 3 < (s.splitOn COLON).length ∨ (∃ f ∈ s.splitOn COLON, stod f = none) →
      parseTimecodeToSeconds s = .finite (-1)) ∧
    ∀ d : Decimal, d.InRange → parseTimecodeToSeconds (45 :: d.text) = .finite (-rnd d.value) := by
  refine ⟨fun t ht => ⟨?_, nonneg_seconds t⟩, fun t ht => ?_, fun s => parse_invalid,
    fun d => parse_minus⟩
  · rw [parse_text, if_pos ht]
  · rw [parse_text, if_neg ht]

/-- A negative number of seconds is not replaced by -1. -/
theorem not_exactAt : ¬ ∀ s, ExactAt s := by
  intro h
  obtain ⟨d, hd⟩ : ∃ d : Decimal,
      d = ⟨ascii "5", [], by decide, by decide +kernel, by decide +kernel⟩ := ⟨_, rfl⟩
  have hvalue : d.value = (5 : ℕ) := by
    rw [hd, Decimal.value, exactDecimal_nil]
    rfl
  have hrnd : rnd d.value = 5 := by
    rw [hvalue, rnd_small (by decide)]
    rfl
  have hrange : d.InRange := by
    refine ⟨?_, Or.inr ?_⟩
    · rw [hrnd]
      exact (show (5 : ℚ) < 2 ^ 3 by norm_num).trans
        (pow_lt_pow_right₀ (by norm_num) (by norm_num))
    · rw [hvalue]
      exact minNormal_le.trans (by norm_num)
  have hminus := parse_minus hrange
  rcases h (45 :: d.text) with ⟨t, ht, -, -⟩ | ⟨-, hone⟩
  · have hfields := splitOn_text t
    rw [ht, splitOn_minus] at hfields
    have hmem : 45 :: d.text ∈ t.fields.map Decimal.text := by
      rw [← hfields]
      exact List.mem_singleton.mpr rfl
    obtain ⟨e, -, he⟩ := List.mem_map.mp hmem
    obtain ⟨c, s, hs, hc⟩ := e.head_text
    obtain ⟨rfl, -⟩ := List.cons.inj (he.symm.trans hs)
    exact absurd hc (by decide)
  · rw [hminus, hrnd, Float64.finite.injEq] at hone
    norm_num at hone

end Timecodes

end VehicleSpy.Cli.TimeParser
