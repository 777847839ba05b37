import VehicleSpy.Telemetry.CsvReplay

/-! # The decimal cells of a row

A cell with two decimal places, read as a decimal number, denotes the value rounded to hundredths.
Its sign is printed with the whole units, so it is lost where there are none; and the hundredfold
of the value is rounded to a `double` first, which may carry it over a half.
-/

namespace VehicleSpy.Telemetry

open Text Machine.Binary64

/-- A decimal number with exactly two decimal places. -/
def readDecimal (s : Bytes) : Option ℚ :=
  let (negative, s) := takeSign s
  let whole := s.takeWhile (isDigit 10)
  match s.dropWhile (isDigit 10) with
  | 46 :: frac =>
    if whole ≠ [] ∧ frac.length = 2 ∧ frac.all (isDigit 10) then
      some (if negative then -exactDecimal whole frac else exactDecimal whole frac)
    else none
  | _ => none

/-- The cell is empty for an absent value, and for no other; a present value is read from it as
rounded to hundredths, half away from zero. -/
structure Denotes (value : Option ℚ) (cell : Bytes) : Prop where
  empty : cell = [] ↔ value = none
  rounded : ∀ x ∈ value, readDecimal cell = some ((llround (x * 100) : ℚ) / 100)

/-- The columns of the values with two decimal places. -/
def decimalColumns : List ℕ := [2, 3, 5, 6, 7, 8, 9, 10]

/-- Each value is denoted by its cell. -/
def CellsDenote (params : CsvRowParams) : Prop :=
  ∀ c ∈ decimalColumns.zip params.values, Denotes c.2 ((csvCells params).getD c.1 [])

/-- The hundredfold of a value is not carried over a half by its own rounding, and does not lie
between minus 99.5 and minus one half. -/
def Plain (x : ℚ) : Prop := ¬ Carried (x * 100) ∧ ¬ (-199 / 2 < x * 100 ∧ x * 100 ≤ -1 / 2)

section Cells

variable {x : ℚ} {value : Option ℚ}

theorem takeSign_of_digit {c : Byte} {s : Bytes} (hc : isDigit 10 c = true) :
    takeSign (c :: s) = (false, c :: s) := by
  obtain ⟨-, hminus, hplus⟩ := isNumericByte_of_digit hc
  unfold takeSign
  split
  · next h => exact absurd (List.cons.inj h).1 hminus
  · next h => exact absurd (List.cons.inj h).1 hplus
  · rfl

/-- What is read from the text of hundredths: less than a whole unit has no sign. -/
theorem readDecimal_formatScaled (n : ℤ) :
    readDecimal (formatScaled n) = some ((printed n : ℚ) / 100) := by
  have hk : n.natAbs % 100 < 100 := Nat.mod_lt _ (by decide)
  have hdigits := isDigit_decimalDigits (n.natAbs / 100)
  have htwo := twoDigits_eq hk
  have hfrac : fraction (twoDigits (n.natAbs % 100 : ℕ)) =
      46 :: twoDigits (n.natAbs % 100 : ℕ) := by
    rw [htwo]
    rfl
  have hdot : ∀ c ∈ (46 :: twoDigits (n.natAbs % 100 : ℕ)).head?, isDigit 10 c = false := by
    rintro c ⟨⟩
    decide
  have hsign : takeSign (formatScaled n) = (decide (n ≤ -100),
      baseDigits 10 (n.natAbs / 100) ++ 46 :: twoDigits (n.natAbs % 100 : ℕ)) := by
    rw [formatScaled_eq, hfrac]
    split
    · next h => rw [decide_eq_true h]; rfl
    · next h =>
      obtain ⟨c, s, hs⟩ := List.exists_cons_of_ne_nil (baseDigits_ne_nil 10 (n.natAbs / 100))
      rw [decide_eq_false h, hs, List.nil_append, List.cons_append]
      exact takeSign_of_digit (hdigits c (by rw [hs]; exact List.mem_cons_self))
  obtain ⟨htake, hdrop⟩ := takeWhile_digits hdigits hdot
  have hcell : baseDigits 10 (n.natAbs / 100) ≠ [] ∧
      (twoDigits (n.natAbs % 100 : ℕ)).length = 2 ∧
      (twoDigits (n.natAbs % 100 : ℕ)).all (isDigit 10) = true :=
    ⟨baseDigits_ne_nil _ _, by rw [htwo]; rfl, List.all_eq_true.mpr (isDigit_twoDigits hk)⟩
  simp only [readDecimal, hsign, htake, hdrop, if_pos hcell, exactDecimal_hundredths,
    decide_eq_true_eq]
  by_cases hneg : n ≤ -100
  · have hprinted : printed n = -(n.natAbs : ℤ) := by
      unfold printed
      split <;> omega
    rw [if_pos hneg, hprinted, Int.cast_neg, Int.cast_natCast, neg_div]
  · have hprinted : printed n = (n.natAbs : ℤ) := by
      unfold printed
      split <;> omega
    rw [if_neg hneg, hprinted, Int.cast_natCast]

theorem formatOptional_eq_nil_iff : formatOptional value = [] ↔ value = none := by
  cases value with
  | none => exact iff_of_true rfl rfl
  | some x => exact iff_of_false (by simp [formatOptional, formatScaled]) nofun

/-- The printed hundredths are those of the value just when its rounding goes unnoticed and it has
no sign to lose. -/
theorem printed_hundredths_iff : printed (hundredths x) = llround (x * 100) ↔ Plain x := by
  have habs : (printed (hundredths x)).natAbs = (hundredths x).natAbs := by
    unfold printed
    split <;> omega
  rw [Plain, ← llround_small_iff]
  constructor
  · intro h
    have hplain : ¬ Carried (x * 100) := by
      rw [← natAbs_llround_rnd_iff, ← h, habs, hundredths]
    have hsame : hundredths x = llround (x * 100) := llround_rnd_iff.mpr hplain
    refine ⟨hplain, fun hsmall => ?_⟩
    rw [hsame, printed, if_pos hsmall] at h
    omega
  · rintro ⟨hplain, hlarge⟩
    have hsame : hundredths x = llround (x * 100) := llround_rnd_iff.mpr hplain
    rw [hsame, printed, if_neg hlarge]

theorem denotes_iff : Denotes value (formatOptional value) ↔ ∀ x ∈ value, Plain x := by
  have hread (x : ℚ) : readDecimal (formatOptional (some x)) =
      some ((llround (x * 100) : ℚ) / 100) ↔ Plain x := by
    rw [← printed_hundredths_iff, formatOptional, readDecimal_formatScaled, Option.some_inj]
    rw [div_left_inj' (by norm_num), Int.cast_inj]
  constructor
  · rintro ⟨-, hround⟩ x hx
    obtain rfl := Option.mem_def.mp hx
    exact (hread x).mp (hround x hx)
  · intro h
    refine ⟨formatOptional_eq_nil_iff, fun x hx => ?_⟩
    obtain rfl := Option.mem_def.mp hx
    exact (hread x).mpr (h x hx)

end Cells

/-- Every cell denotes its value just when every value is plain. -/
theorem cellsDenote_iff (params : CsvRowParams) :
    CellsDenote params ↔ ∀ value ∈ params.values, ∀ x ∈ value, Plain x := by
  simp only [CellsDenote, decimalColumns, CsvRowParams.values, List.zip_cons_cons,
    List.zip_nil_right, List.forall_mem_cons, List.not_mem_nil, false_implies, implies_true,
    csvCells, List.getD_cons_succ, List.getD_cons_zero, denotes_iff]

/-- Half a unit below zero is printed as half a unit. -/
theorem not_cellsDenote : ¬ CellsDenote (coastingAt 1500 (some 72) (some (-1 / 2))) := by
  intro h
  have hcell := (h (5, some (-1 / 2)) (by simp [decimalColumns, CsvRowParams.values,
    coastingAt])).rounded (-1 / 2) rfl
  have hprinted : hundredths (-1 / 2) = -50 := llround_hundredths (by norm_num) (by norm_num)
  have hvalue : llround (-1 / 2 * 100) = -50 := llround_eq (by norm_num)
  change readDecimal (formatScaled (hundredths (-1 / 2))) = _ at hcell
  rw [readDecimal_formatScaled, hprinted, hvalue, show printed (-50) = 50 from rfl] at hcell
  norm_num at hcell

end VehicleSpy.Telemetry
