import VehicleSpy.Telemetry.FileCsvTelemetrySource
import Mathlib.Data.UInt

/-! # Replay of decoded CSV

A rendered row is parsed under the header of the renderer and rendered again. The same bytes come
out just when no value is absent and the timestamp is one that a `double` holds; a value between
minus one and zero is rendered without its sign.
-/

namespace VehicleSpy.Telemetry

open Text Machine.Binary64

/-- What a rendered line becomes when it is parsed into a row and rendered again. -/
def replay (out : CsvTelemetryRow) (line : Bytes) : Option Bytes :=
  (FileCsvTelemetrySource.parseRow (splitCsv csvHeaderLine) line out).map fun r =>
    csvRowLine (rowParams r.2)

namespace CsvRowParams

variable (params : CsvRowParams)

/-- The values with two decimal places. -/
def values : List (Option ℚ) :=
  [params.speedKmh, params.throttlePercent, params.accelerationG, params.steeringAngleDeg,
    params.motorRpm, params.motorHvVoltage, params.motorHvCurrent, params.motorTorqueNm]

/-- The texts have no comma and no blanks around them. -/
structure TextCells : Prop where
  vehicleId : COMMA ∉ params.vehicleId.asString ∧
    trim params.vehicleId.asString = params.vehicleId.asString
  gearSelector : COMMA ∉ params.gearSelector.asString ∧
    trim params.gearSelector.asString = params.gearSelector.asString

def SmallValues : Prop := ∀ value ∈ params.values, ∀ v ∈ value, |v| < 10 ^ 12

def AllPresent : Prop := ∀ value ∈ params.values, value.isSome = true

/-- The timestamp has at most 53 binary digits before its zeros. -/
def HeldTimestamp : Prop :=
  2 ^ (Nat.log 2 params.timestampMs.toNat - 52) ∣ params.timestampMs.toNat

/-- No value has a hundredfold between minus 99.5 and minus one half. -/
def NoSmallNegative : Prop :=
  ∀ value ∈ params.values, ∀ v ∈ value, ¬ (-199 / 2 < rnd (v * 100) ∧ rnd (v * 100) ≤ -1 / 2)

end CsvRowParams

namespace CsvTelemetryRow

variable (row : CsvTelemetryRow)

def values : List ℚ :=
  [row.speed_kmh, row.throttle_percent, row.acceleration_g, row.steering_angle_deg,
    row.motor_rpm, row.motor_hv_voltage, row.motor_hv_current, row.motor_torque_nm]

end CsvTelemetryRow

/-- The row that is parsed from the line of the parameters has their signs, as far as two decimal
places show them. -/
def SignsKept (params : CsvRowParams) (row : CsvTelemetryRow) : Prop :=
  List.Forall₂ (fun value x => ∀ v ∈ value, hundredths v < 0 → x < 0) params.values row.values

/-- The rendered line comes out again, and the row that is parsed from it has the signs. -/
def Survives (out : CsvTelemetryRow) (params : CsvRowParams) : Prop :=
  ∃ row, FileCsvTelemetrySource.parseRow (splitCsv csvHeaderLine) (csvRowLine params) out =
      some (true, row) ∧
    csvRowLine (rowParams row) = csvRowLine params ∧ SignsKept params row

section Cells

variable {s t : Bytes} {c : Byte}

theorem takeWhile_digits (hs : ∀ c ∈ s, isDigit 10 c = true)
    (ht : ∀ c ∈ t.head?, isDigit 10 c = false) :
    (s ++ t).takeWhile (isDigit 10) = s ∧ (s ++ t).dropWhile (isDigit 10) = t := by
  rw [List.takeWhile_append_of_pos hs, List.dropWhile_append_of_pos hs]
  cases t with
  | nil => simp
  | cons c t =>
    have hc : ¬ isDigit 10 c = true := by simp [ht c rfl]
    rw [List.takeWhile_cons_of_neg hc, List.dropWhile_cons_of_neg hc, List.append_nil]
    exact ⟨rfl, rfl⟩

/-- Numbers are written with bytes that neither end a cell nor are stripped from one. -/
theorem isNumericByte_facts (hc : isNumericByte c = true) :
    c ≠ COMMA ∧ isBlank c = false ∧ isSpace c = false := by
  have hall : ∀ c : Byte, isNumericByte c = true →
      c ≠ COMMA ∧ isBlank c = false ∧ isSpace c = false := forall_byte (by decide +kernel)
  exact hall c hc

theorem isNumericByte_of_digit (hc : isDigit 10 c = true) :
    isNumericByte c = true ∧ c ≠ 45 ∧ c ≠ 43 := by
  have hall : ∀ c : Byte, isDigit 10 c = true → isNumericByte c = true ∧ c ≠ 45 ∧ c ≠ 43 :=
    forall_byte (by decide +kernel)
  exact hall c hc

theorem csvNumericCell_eq (hs : ∀ c ∈ s, isNumericByte c = true) : csvNumericCell s = s :=
  List.filter_eq_self.mpr hs

theorem trim_numeric (hs : ∀ c ∈ s, isNumericByte c = true) : trim s = s := by
  have hfront : s.dropWhile isBlank = s :=
    (dropWhile_eq_self_iff _).mpr fun c hc =>
      (isNumericByte_facts (hs c (List.mem_of_mem_head? hc))).2.1
  have hback : s.rdropWhile isBlank = s :=
    (rdropWhile_eq_self_iff _).mpr fun c hc =>
      (isNumericByte_facts (hs c (List.mem_of_getLast? hc))).2.1
  rw [trim, hfront, hback]

theorem notMem_numeric (hs : ∀ c ∈ s, isNumericByte c = true) : COMMA ∉ s :=
  fun h => (isNumericByte_facts (hs _ h)).1 rfl

theorem isDigit_decimalDigits (n : ℕ) : ∀ c ∈ baseDigits 10 n, isDigit 10 c = true :=
  isDigit_baseDigits (by decide) (by decide) n

theorem isNumericByte_baseDigits (n : ℕ) : ∀ c ∈ baseDigits 10 n, isNumericByte c = true :=
  fun c hc => (isNumericByte_of_digit (isDigit_decimalDigits n c hc)).1

theorem isNumericByte_decimal (v : ℤ) : ∀ c ∈ decimal v, isNumericByte c = true := by
  unfold decimal
  split
  · rintro c (_ | ⟨_, hc⟩)
    · rfl
    · exact isNumericByte_baseDigits _ c hc
  · exact isNumericByte_baseDigits _

/-- In front of digits stands no sign and nothing to skip. -/
theorem takeSign_digits (hs : ∀ c ∈ s, isDigit 10 c = true) (hne : s ≠ []) (t : Bytes) :
    takeSign ((s ++ t).dropWhile isSpace) = (false, s ++ t) := by
  obtain ⟨c, s, rfl⟩ := List.exists_cons_of_ne_nil hne
  obtain ⟨hnum, hminus, hplus⟩ := isNumericByte_of_digit (hs c List.mem_cons_self)
  rw [List.cons_append, List.dropWhile_cons_of_neg (by simp [(isNumericByte_facts hnum).2.2])]
  unfold takeSign
  split
  · next h => exact absurd (List.cons.inj h).1 hminus
  · next h => exact absurd (List.cons.inj h).1 hplus
  · rfl

theorem takeSign_minus (s : Bytes) : takeSign ((45 :: s).dropWhile isSpace) = (true, s) := rfl

end Cells

section Numbers

variable {w f : Bytes}

/-- The number before a sign is put to it. -/
def exactDecimal (w f : Bytes) : ℚ := numValue 10 (w ++ f) * 10 ^ (-(f.length : ℤ))

/-- What stands behind the whole digits. -/
def fraction (f : Bytes) : Bytes := if f = [] then [] else 46 :: f

/-- A decimal number is read as the nearest `double`, if that is a normal number or zero. -/
theorem stod_decimal_eq (negative : Bool) (hw : ∀ c ∈ w, isDigit 10 c = true) (hne : w ≠ [])
    (hf : ∀ c ∈ f, isDigit 10 c = true) :
    stod ((if negative then [45] else []) ++ (w ++ fraction f)) =
      if 2 ^ 1024 ≤ rnd (exactDecimal w f) ∨
          0 < exactDecimal w f ∧ exactDecimal w f < minNormal then none
      else some (if negative then -rnd (exactDecimal w f) else rnd (exactDecimal w f)) := by
  have hsign : takeSign (((if negative then [45] else []) ++ (w ++ fraction f)).dropWhile isSpace) =
      (negative, w ++ fraction f) := by
    cases negative with
    | true => exact takeSign_minus _
    | false => exact takeSign_digits hw hne _
  have hdot : ∀ c ∈ (fraction f).head?, isDigit 10 c = false := by
    unfold fraction
    split
    · simp
    · rintro c ⟨⟩
      decide
  obtain ⟨htake, hdrop⟩ := takeWhile_digits hw hdot
  have hfrac : (if (fraction f).head? = some 46 then
      (fraction f).tail.takeWhile (isDigit 10) else []) = f := by
    unfold fraction
    split
    · next h => simp [h]
    · simpa using (takeWhile_digits (t := []) hf (by simp)).1
  have hend : (if (fraction f).head? = some 46 then
      (fraction f).tail.dropWhile (isDigit 10) else fraction f) = [] := by
    unfold fraction
    split
    · simp
    · simpa using (takeWhile_digits (t := []) hf (by simp)).2
  have hdigits : w ++ f ≠ [] := by simp [hne]
  unfold stod
  simp only [hsign, htake, hdrop, hfrac, hend, if_neg hdigits]
  simp only [exponent, zero_sub]
  rfl

theorem exactDecimal_nonneg (w f : Bytes) : 0 ≤ exactDecimal w f :=
  mul_nonneg (Nat.cast_nonneg _) (zpow_nonneg (by norm_num) _)

theorem stod_decimal (negative : Bool) (hw : ∀ c ∈ w, isDigit 10 c = true) (hne : w ≠ [])
    (hf : ∀ c ∈ f, isDigit 10 c = true) (hlow : exactDecimal w f = 0 ∨ 1 / 100 ≤ exactDecimal w f)
    (hhigh : exactDecimal w f ≤ 2 ^ 64) :
    stod ((if negative then [45] else []) ++ (w ++ fraction f)) =
      some (if negative then -rnd (exactDecimal w f) else rnd (exactDecimal w f)) := by
  have hexact := exactDecimal_nonneg w f
  have hfits : ¬ (2 ^ 1024 ≤ rnd (exactDecimal w f) ∨
      0 < exactDecimal w f ∧ exactDecimal w f < minNormal) := by
    rintro (h | ⟨hpos, h⟩)
    · have hrnd := (le_abs_self _).trans (abs_rnd_le (exactDecimal w f))
      rw [abs_of_nonneg hexact] at hrnd
      have hsmall : rnd (exactDecimal w f) < 2 ^ 66 := by linarith only [hrnd, hhigh]
      have hpow : (2 : ℚ) ^ 66 < 2 ^ 1024 := pow_lt_pow_right₀ (by norm_num) (by norm_num)
      exact absurd h (not_le.mpr (hsmall.trans hpow))
    · rcases hlow with hlow | hlow
      · exact hpos.ne' hlow
      · have := minNormal_le
        linarith
  rw [stod_decimal_eq negative hw hne hf, if_neg hfits]

theorem exactDecimal_nil (w : Bytes) : exactDecimal w [] = numValue 10 w := by
  simp [exactDecimal]

theorem twoDigits_eq {k : ℕ} (hk : k < 100) :
    twoDigits k = [hexDigit (k / 10), hexDigit (k % 10)] := by
  have hall : ∀ k : Fin 100, twoDigits (k : ℕ) =
      [hexDigit ((k : ℕ) / 10), hexDigit ((k : ℕ) % 10)] := by
    decide +kernel
  exact hall ⟨k, hk⟩

theorem isDigit_twoDigits {k : ℕ} (hk : k < 100) : ∀ c ∈ twoDigits k, isDigit 10 c = true := by
  have hdigit : ∀ d < 10, isDigit 10 (hexDigit d) = true := fun d hd =>
    decide_eq_true (by rwa [alnumVal_hexDigit (by omega)])
  rw [twoDigits_eq hk]
  rintro c (_ | ⟨_, _ | ⟨_, ⟨⟩⟩⟩)
  · exact hdigit _ (by omega)
  · exact hdigit _ (by omega)

/-- The digits of a number of hundredths. -/
theorem exactDecimal_hundredths (m : ℕ) :
    exactDecimal (baseDigits 10 (m / 100)) (twoDigits (m % 100 : ℕ)) = m / 100 := by
  have hk : m % 100 < 100 := Nat.mod_lt _ (by decide)
  have hvalue : numValue 10 (baseDigits 10 (m / 100) ++ twoDigits (m % 100 : ℕ)) = m := by
    rw [twoDigits_eq hk, List.append_cons, numValue_concat, numValue_concat,
      numValue_baseDigits (by decide) (by decide), alnumVal_hexDigit (by omega),
      alnumVal_hexDigit (by omega)]
    omega
  rw [exactDecimal, hvalue, twoDigits_eq hk]
  norm_num
  ring

end Numbers

section Hundredths

variable {n : ℤ} {value : ℚ}

/-- The number that the text of hundredths denotes: less than a whole unit has no sign. -/
def printed (n : ℤ) : ℤ := if -100 < n ∧ n < 0 then -n else n

/-- Division truncates toward zero. -/
theorem truncated_hundredths (n : ℤ) :
    n.tdiv 100 = (if n < 0 then -((n.natAbs / 100 : ℕ) : ℤ) else (n.natAbs / 100 : ℕ)) ∧
      n.tmod 100 = (if n < 0 then -((n.natAbs % 100 : ℕ) : ℤ) else (n.natAbs % 100 : ℕ)) := by
  rcases le_or_gt 0 n with h | h
  · rw [Int.tdiv_eq_ediv_of_nonneg h, Int.tmod_eq_emod_of_nonneg h]
    omega
  · obtain ⟨m, rfl⟩ := Int.eq_negSucc_of_lt_zero h
    rw [if_pos h, if_pos h]
    exact ⟨rfl, rfl⟩

/-- The text shows the sign of a whole unit and the digits. -/
theorem formatScaled_eq (n : ℤ) :
    formatScaled n = (if n ≤ -100 then [45] else []) ++
      (baseDigits 10 (n.natAbs / 100) ++ fraction (twoDigits (n.natAbs % 100 : ℕ))) := by
  have hk : n.natAbs % 100 < 100 := Nat.mod_lt _ (by decide)
  obtain ⟨hdiv, hmod⟩ := truncated_hundredths n
  have hfrac : (if n < 0 then -n.tmod 100 else n.tmod 100) = (n.natAbs % 100 : ℕ) := by
    split <;> omega
  have hwhole : (n.tdiv 100).natAbs = n.natAbs / 100 := by omega
  have htwo : csvNumericCell (twoDigits (n.natAbs % 100 : ℕ)) = twoDigits (n.natAbs % 100 : ℕ) :=
    csvNumericCell_eq fun c hc => (isNumericByte_of_digit (isDigit_twoDigits hk c hc)).1
  have hne : twoDigits (n.natAbs % 100 : ℕ) ≠ [] := by
    rw [twoDigits_eq hk]
    exact List.cons_ne_nil _ _
  have hsign : n.tdiv 100 < 0 ↔ n ≤ -100 := by omega
  simp only [formatScaled, hfrac, htwo, csvNumericCell_eq (isNumericByte_decimal _), fraction,
    if_neg hne]
  unfold decimal
  simp only [hwhole, hsign]
  split <;> simp

theorem formatScaled_printed (n : ℤ) : formatScaled (printed n) = formatScaled n := by
  have habs : (printed n).natAbs = n.natAbs := by
    unfold printed
    split <;> omega
  have hsign : printed n ≤ -100 ↔ n ≤ -100 := by
    unfold printed
    split <;> omega
  rw [formatScaled_eq, formatScaled_eq, habs]
  simp only [hsign]

/-- What is read from the text of hundredths is as near to them as a `double` can be. -/
theorem stod_formatScaled (hn : |n| ≤ 10 ^ 15) :
    ∃ x, stod (formatScaled n) = some x ∧
      |x - printed n / 100| ≤ |(printed n : ℚ)| / 100 / 2 ^ 53 := by
  have hk : n.natAbs % 100 < 100 := Nat.mod_lt _ (by decide)
  have hexact := exactDecimal_hundredths n.natAbs
  have habs : (n.natAbs : ℤ) ≤ 10 ^ 15 := by rwa [Int.natCast_natAbs]
  have hbound : (n.natAbs : ℚ) ≤ 10 ^ 15 := by exact_mod_cast habs
  have hread := stod_decimal (decide (n ≤ -100)) (isDigit_decimalDigits (n.natAbs / 100))
    (baseDigits_ne_nil _ _) (isDigit_twoDigits hk)
    (by
      rw [hexact]
      rcases Nat.eq_zero_or_pos n.natAbs with h | h
      · exact Or.inl (by simp [h])
      · have hone : (1 : ℚ) ≤ n.natAbs := by exact_mod_cast h
        exact Or.inr (by linarith))
    (by
      rw [hexact]
      linarith)
  simp only [hexact, decide_eq_true_eq, ← formatScaled_eq] at hread
  have hnear := abs_rnd_hundredths_sub_le n.natAbs
  rw [Int.cast_natCast, Nat.abs_cast] at hnear
  refine ⟨_, hread, ?_⟩
  by_cases hneg : n ≤ -100
  · have hprinted : printed n = -(n.natAbs : ℤ) := by
      unfold printed
      split <;> omega
    rw [if_pos hneg, hprinted, Int.cast_neg, Int.cast_natCast, abs_neg, Nat.abs_cast, neg_div,
      ← neg_sub', abs_neg]
    exact hnear
  · have hprinted : printed n = (n.natAbs : ℤ) := by
      unfold printed
      split <;> omega
    rw [if_neg hneg, hprinted, Int.cast_natCast, Nat.abs_cast]
    exact hnear

theorem abs_hundredths_le (hv : |value| < 10 ^ 12) : |hundredths value| ≤ 10 ^ 15 := by
  have hround := abs_llround_le (rnd (value * 100))
  have hprod := abs_rnd_le (value * 100)
  rw [abs_mul, abs_of_pos (show (0 : ℚ) < 100 by norm_num)] at hprod
  have hbound : (|hundredths value| : ℚ) ≤ 10 ^ 15 := by
    calc (|hundredths value| : ℚ) ≤ |rnd (value * 100)| + 1 := hround
      _ ≤ 10 ^ 15 := by linarith
  exact_mod_cast hbound

/-- A value that is rendered, parsed and rendered again. -/
theorem replay_value (hv : |value| < 10 ^ 12) :
    ∃ x, stod (formatScaled (hundredths value)) = some x ∧
      formatScaled (hundredths x) = formatScaled (hundredths value) ∧
      (x < 0 ↔ hundredths value ≤ -100) := by
  obtain ⟨x, hx, hnear⟩ := stod_formatScaled (abs_hundredths_le hv)
  have hprinted : |printed (hundredths value)| ≤ 10 ^ 15 := by
    have habs : |printed (hundredths value)| = |hundredths value| := by
      unfold printed
      split
      · exact abs_neg _
      · rfl
    rw [habs]
    exact abs_hundredths_le hv
  have hagain : hundredths x = printed (hundredths value) := llround_hundredths hprinted hnear
  refine ⟨x, hx, by rw [hagain, formatScaled_printed], ?_⟩
  have hsign : x < 0 ↔ (printed (hundredths value) : ℚ) < 0 := by
    rw [abs_le] at hnear
    constructor
    · intro hneg
      by_contra hpos
      rw [abs_of_nonneg (not_lt.mp hpos)] at hnear
      linarith [not_lt.mp hpos]
    · intro hneg
      rw [abs_of_neg hneg] at hnear
      linarith
  rw [hsign, Int.cast_lt_zero]
  unfold printed
  split <;> omega

end Hundredths

section Columns

variable {cells : List Bytes}

theorem formatScaled_numeric (scaled : ℤ) : ∀ c ∈ formatScaled scaled, isNumericByte c = true := by
  intro c hc
  simp only [formatScaled, csvNumericCell, List.mem_append, List.mem_filter,
    List.mem_singleton] at hc
  rcases hc with (⟨-, hc⟩ | rfl) | ⟨-, hc⟩
  · exact hc
  · rfl
  · exact hc

theorem formatOptional_numeric (value : Option ℚ) :
    ∀ c ∈ formatOptional value, isNumericByte c = true := by
  cases value with
  | none => simp [formatOptional]
  | some value => exact formatScaled_numeric (hundredths value)

theorem formatBrakeLight_numeric (brakeLight : Option Int32) :
    ∀ c ∈ formatBrakeLight brakeLight, isNumericByte c = true := by
  unfold formatBrakeLight
  split
  · simp
  · split <;> exact List.forall_mem_singleton.mpr (by rfl)

/-- A rendered value comes out again unless it is absent. -/
theorem formatOptional_replay {value : Option ℚ} (hv : ∀ v ∈ value, |v| < 10 ^ 12) :
    formatOptional (some (toDouble (formatOptional value) 0)) = formatOptional value ↔
      value.isSome = true := by
  cases value with
  | none =>
    have hzero : toDouble (formatOptional none) 0 = 0 := rfl
    have hne : formatOptional (some 0) ≠ [] := by simp [formatOptional, formatScaled]
    rw [hzero]
    exact iff_of_false hne (by decide)
  | some value =>
    obtain ⟨x, hx, hagain, -⟩ := replay_value (hv value rfl)
    have hread : toDouble (formatOptional (some value)) 0 = x := by
      rw [toDouble, formatOptional, hx]
      rfl
    rw [hread]
    exact iff_of_true hagain rfl

theorem formatBrakeLight_replay (brakeLight : Option Int32) :
    formatBrakeLight (toOptionalInt (formatBrakeLight brakeLight)) =
      formatBrakeLight brakeLight := by
  cases brakeLight with
  | none => rfl
  | some brakeLight =>
    by_cases h : brakeLight ≠ 0
    · have htext : formatBrakeLight (some brakeLight) = [49] := if_pos h
      rw [htext]
      decide
    · have htext : formatBrakeLight (some brakeLight) = [48] := if_neg h
      rw [htext]
      decide

theorem stoi_decimal {v : ℤ} (hlow : -2 ^ 31 ≤ v) (hhigh : v < 2 ^ 31) :
    stoi (decimal v) = some v := by
  have hdigits := isDigit_decimalDigits v.natAbs
  have hne := baseDigits_ne_nil 10 v.natAbs
  have hsign : takeSign ((decimal v).dropWhile isSpace) =
      (decide (v < 0), baseDigits 10 v.natAbs) := by
    unfold decimal
    split
    · next h => rw [takeSign_minus, decide_eq_true h]
    · next h => simpa [h] using takeSign_digits hdigits hne []
  have htake : (baseDigits 10 v.natAbs).takeWhile (isDigit 10) = baseDigits 10 v.natAbs := by
    simpa using (takeWhile_digits (t := []) hdigits (by simp)).1
  have hvalue : (if v < 0 then -(v.natAbs : ℤ) else v.natAbs) = v := by omega
  unfold stoi
  simp only [hsign, htake, if_neg hne, numValue_baseDigits (show 1 < 10 by decide)
    (show 10 ≤ 16 by decide), decide_eq_true_eq, hvalue]
  exact if_pos ⟨hlow, hhigh⟩

theorem toInt_replay (v : Int32) : toInt (csvNumericCell (decimal v.toInt)) 0 = v := by
  rw [csvNumericCell_eq (isNumericByte_decimal _), toInt,
    stoi_decimal (Int32.le_toInt v) (Int32.toInt_lt v), Option.map_some, Option.getD_some,
    Int32.ofInt_toInt]

theorem toDouble_timestamp (timestamp : UInt64) :
    toDouble (csvNumericCell (decimal timestamp.toNat)) 0 = rnd timestamp.toNat := by
  have hexact : exactDecimal (baseDigits 10 timestamp.toNat) [] = timestamp.toNat := by
    rw [exactDecimal_nil, numValue_baseDigits (by decide) (by decide)]
  have hbound : (timestamp.toNat : ℚ) ≤ 2 ^ 64 := by exact_mod_cast timestamp.toNat_lt.le
  have hread := stod_decimal false (isDigit_decimalDigits timestamp.toNat) (baseDigits_ne_nil _ _)
    (f := []) (by simp)
    (by
      rw [hexact]
      rcases Nat.eq_zero_or_pos timestamp.toNat with h | h
      · exact Or.inl (by simp [h])
      · have hone : (1 : ℚ) ≤ timestamp.toNat := by exact_mod_cast h
        exact Or.inr (by linarith))
    (by rwa [hexact])
  have htext : decimal timestamp.toNat = baseDigits 10 timestamp.toNat := by
    simp [decimal_of_nonneg]
  rw [csvNumericCell_eq (isNumericByte_decimal _), toDouble, htext]
  rw [hexact] at hread
  simpa [fraction] using congrArg (Option.getD · 0) hread

/-- A timestamp comes through the `double` if that holds it. -/
theorem castUInt64_rnd (timestamp : UInt64) :
    castUInt64 (rnd timestamp.toNat) = some timestamp ↔
      2 ^ (Nat.log 2 timestamp.toNat - 52) ∣ timestamp.toNat := by
  obtain ⟨m, hm⟩ := rnd_isInt timestamp.toNat
  rw [← rnd_eq_self_iff]
  constructor
  · intro h
    unfold castUInt64 at h
    split at h
    · next hrange =>
      have hnonneg : 0 ≤ m := by
        have : -1 < m := by exact_mod_cast hm ▸ hrange.1
        omega
      have hlt : m < 2 ^ 64 := by exact_mod_cast hm ▸ hrange.2
      obtain ⟨k, rfl⟩ := Int.eq_ofNat_of_zero_le hnonneg
      have hfloor : ⌊rnd timestamp.toNat⌋₊ = k := by
        rw [hm, Int.cast_natCast, Nat.floor_natCast]
      rw [hfloor] at h
      have hk : timestamp.toNat = k := by
        rw [← Option.some.inj h, UInt64.toNat_ofNat_of_lt' (by exact_mod_cast hlt)]
      rw [hm, hk, Int.cast_natCast]
    · cases h
  · intro h
    have hlt : (timestamp.toNat : ℚ) < 2 ^ 64 := by exact_mod_cast timestamp.toNat_lt
    have hlow : (-1 : ℚ) < timestamp.toNat := by
      have : (0 : ℚ) ≤ timestamp.toNat := Nat.cast_nonneg _
      linarith
    rw [h, castUInt64, if_pos ⟨hlow, hlt⟩, Nat.floor_natCast, UInt64.ofNat_toNat]

/-- A line of cells is cut into them again. -/
theorem splitCsv_intercalate (hne : cells ≠ []) (hlast : cells.getLast? ≠ some [])
    (hcells : ∀ cell ∈ cells, COMMA ∉ cell ∧ trim cell = cell) :
    splitCsv ([COMMA].intercalate cells) = cells := by
  have hsplit : ([COMMA].intercalate cells).splitOn COMMA = cells :=
    List.splitOn_intercalate COMMA (fun cell h => (hcells cell h).1) hne
  rw [splitCsv, hsplit, if_neg hlast]
  exact (List.map_congr_left fun cell h => (hcells cell h).2).trans (List.map_id cells)

theorem csvHeaderNames_facts : csvHeaderNames.Nodup ∧
    ∀ name ∈ csvHeaderNames, name ≠ [] ∧ COMMA ∉ name ∧ trim name = name := by
  decide +kernel

theorem splitCsv_csvHeaderLine : splitCsv csvHeaderLine = csvHeaderNames :=
  splitCsv_intercalate (List.cons_ne_nil _ _)
    (fun h => (csvHeaderNames_facts.2 [] (List.mem_of_getLast? h)).1 rfl)
    fun name h => (csvHeaderNames_facts.2 name h).2

theorem findColumn_csvHeaderNames {i : ℕ} {name : Bytes} (h : csvHeaderNames[i]? = some name) :
    findColumn csvHeaderNames name = some i := by
  obtain ⟨hi, rfl⟩ := List.getElem?_eq_some_iff.mp h
  rw [findColumn, List.findIdx?_eq_some_iff_getElem]
  refine ⟨hi, by simp, fun j hj => ?_⟩
  have hlt : j < csvHeaderNames.length := hj.trans hi
  have hinj : csvHeaderNames[j] = csvHeaderNames[i] ↔ j = i :=
    csvHeaderNames_facts.1.getElem_inj_iff
  simpa using hinj.not.mpr hj.ne

/-- A line of thirteen cells is read column by column. -/
theorem parseRow_cells {line t id v₀ v₁ b v₂ v₃ v₄ v₅ v₆ v₇ g n : Bytes} {out : CsvTelemetryRow}
    (h : splitCsv line = [t, id, v₀, v₁, b, v₂, v₃, v₄, v₅, v₆, v₇, g, n]) :
    FileCsvTelemetrySource.parseRow csvHeaderNames line out =
      (castUInt64 (toDouble t 0)).map fun timestamp => (true,
        { timestamp_ms := timestamp
          vehicle_id := Label.fromUserInput id
          speed_kmh := toDouble v₀ 0
          throttle_percent := toDouble v₁ 0
          brake_light := toOptionalInt b
          acceleration_g := toDouble v₂ 0
          steering_angle_deg := toDouble v₃ 0
          motor_rpm := toDouble v₄ 0
          motor_hv_voltage := toDouble v₅ 0
          motor_hv_current := toDouble v₆ 0
          motor_torque_nm := toDouble v₇ 0
          gear_selector := Label.fromUserInput g
          dbc_signal_count := toInt n 0 }) := by
  have hcol : ∀ i name, csvHeaderNames[i]? = some name →
      findColumn csvHeaderNames name = some i := fun _ _ => findColumn_csvHeaderNames
  unfold FileCsvTelemetrySource.parseRow
  simp only [h, if_neg (List.cons_ne_nil t _), hcol 0 _ rfl, hcol 1 _ rfl, hcol 2 _ rfl,
    hcol 3 _ rfl, hcol 4 _ rfl, hcol 5 _ rfl, hcol 6 _ rfl, hcol 7 _ rfl, hcol 8 _ rfl,
    hcol 9 _ rfl, hcol 10 _ rfl, hcol 11 _ rfl, hcol 12 _ rfl]
  rfl

end Columns

section Replay

variable {params : CsvRowParams} {out : CsvTelemetryRow}

/-- The row that is parsed from a rendered line, with its timestamp. -/
def parsedRow (params : CsvRowParams) (timestamp : UInt64) : CsvTelemetryRow where
  timestamp_ms := timestamp
  vehicle_id := params.vehicleId
  speed_kmh := toDouble (formatOptional params.speedKmh) 0
  throttle_percent := toDouble (formatOptional params.throttlePercent) 0
  brake_light := toOptionalInt (formatBrakeLight params.brakeLight)
  acceleration_g := toDouble (formatOptional params.accelerationG) 0
  steering_angle_deg := toDouble (formatOptional params.steeringAngleDeg) 0
  motor_rpm := toDouble (formatOptional params.motorRpm) 0
  motor_hv_voltage := toDouble (formatOptional params.motorHvVoltage) 0
  motor_hv_current := toDouble (formatOptional params.motorHvCurrent) 0
  motor_torque_nm := toDouble (formatOptional params.motorTorqueNm) 0
  gear_selector := params.gearSelector
  dbc_signal_count := params.dbcSignalCount

theorem parsedRow_values (timestamp : UInt64) :
    (parsedRow params timestamp).values =
      params.values.map fun value => toDouble (formatOptional value) 0 := rfl

theorem splitCsv_csvRowLine (h : params.TextCells) :
    splitCsv (csvRowLine params) = csvCells params := by
  have hlast : (csvCells params).getLast? ≠ some [] := by
    have hcount : csvNumericCell (decimal params.dbcSignalCount.toInt) ≠ [] := by
      rw [csvNumericCell_eq (isNumericByte_decimal _)]
      exact decimal_ne_nil _
    simpa [csvCells] using hcount
  have hnum : ∀ s, (∀ c ∈ s, isNumericByte c = true) → COMMA ∉ s ∧ trim s = s :=
    fun s hs => ⟨notMem_numeric hs, trim_numeric hs⟩
  have hcell : ∀ s, COMMA ∉ csvNumericCell s ∧ trim (csvNumericCell s) = csvNumericCell s :=
    fun s => hnum _ fun c hc => (List.mem_filter.mp hc).2
  have hvalue : ∀ value, COMMA ∉ formatOptional value ∧
      trim (formatOptional value) = formatOptional value :=
    fun value => hnum _ (formatOptional_numeric value)
  have hbrake : COMMA ∉ formatBrakeLight params.brakeLight ∧
      trim (formatBrakeLight params.brakeLight) = formatBrakeLight params.brakeLight :=
    hnum _ (formatBrakeLight_numeric params.brakeLight)
  apply splitCsv_intercalate (List.cons_ne_nil _ _) hlast
  simp only [List.forall_mem_cons, List.not_mem_nil, false_implies, implies_true, hcell, hvalue,
    hbrake, Label.forLog_asString, h.vehicleId, h.gearSelector, and_self, not_false_eq_true]

theorem parseRow_csvRowLine (h : params.TextCells) (out : CsvTelemetryRow) :
    FileCsvTelemetrySource.parseRow (splitCsv csvHeaderLine) (csvRowLine params) out =
      (castUInt64 (rnd params.timestampMs.toNat)).map fun timestamp =>
        (true, parsedRow params timestamp) := by
  rw [splitCsv_csvHeaderLine, parseRow_cells (splitCsv_csvRowLine h), toDouble_timestamp,
    toInt_replay, Label.forLog_asString, Label.forLog_asString, Label.fromUserInput_asString,
    Label.fromUserInput_asString]
  rfl

theorem decimal_inj {a b : UInt64} (h : decimal a.toNat = decimal b.toNat) : a = b :=
  UInt64.toNat_inj.mp (decimal_natCast_inj h)

/-- The parsed row is rendered to the same line if every cell is. -/
theorem csvRowLine_parsedRow (h : params.TextCells) (hsmall : params.SmallValues)
    (timestamp : UInt64) :
    csvRowLine (rowParams (parsedRow params timestamp)) = csvRowLine params ↔
      timestamp = params.timestampMs ∧ params.AllPresent := by
  have hagain : (rowParams (parsedRow params timestamp)).TextCells := ⟨h.vehicleId, h.gearSelector⟩
  have hlines : csvRowLine (rowParams (parsedRow params timestamp)) = csvRowLine params ↔
      csvCells (rowParams (parsedRow params timestamp)) = csvCells params := by
    constructor
    · intro heq
      rw [← splitCsv_csvRowLine h, ← splitCsv_csvRowLine hagain, heq]
    · exact congrArg _
  have htime : csvNumericCell (decimal timestamp.toNat) =
      csvNumericCell (decimal params.timestampMs.toNat) ↔ timestamp = params.timestampMs := by
    rw [csvNumericCell_eq (isNumericByte_decimal _), csvNumericCell_eq (isNumericByte_decimal _)]
    exact ⟨decimal_inj, fun heq => by rw [heq]⟩
  have hvalue : ∀ value ∈ params.values,
      (formatOptional (some (toDouble (formatOptional value) 0)) = formatOptional value ↔
        value.isSome = true) := fun value hv => formatOptional_replay (hsmall value hv)
  rw [hlines]
  simp only [CsvRowParams.values, List.forall_mem_cons, List.not_mem_nil, false_implies,
    implies_true, and_true] at hvalue
  simp only [csvCells, rowParams, parsedRow, List.cons.injEq, htime, hvalue,
    formatBrakeLight_replay, CsvRowParams.AllPresent, CsvRowParams.values, List.forall_mem_cons,
    List.not_mem_nil, false_implies, implies_true, and_true, true_and]

theorem replay_eq_iff (h : params.TextCells) (hsmall : params.SmallValues) :
    replay out (csvRowLine params) = some (csvRowLine params) ↔
      params.AllPresent ∧ params.HeldTimestamp := by
  rw [replay, parseRow_csvRowLine h, Option.map_map]
  unfold CsvRowParams.HeldTimestamp
  rw [← castUInt64_rnd, Option.map_eq_some_iff]
  constructor
  · rintro ⟨timestamp, hcast, heq⟩
    obtain ⟨rfl, hall⟩ := (csvRowLine_parsedRow h hsmall timestamp).mp heq
    exact ⟨hall, hcast⟩
  · rintro ⟨hall, hcast⟩
    exact ⟨_, hcast, (csvRowLine_parsedRow h hsmall _).mpr ⟨rfl, hall⟩⟩

theorem hundredths_small_iff {value : ℚ} :
    -100 < hundredths value ∧ hundredths value < 0 ↔
      -199 / 2 < rnd (value * 100) ∧ rnd (value * 100) ≤ -1 / 2 :=
  llround_small_iff

/-- A sign gets lost where nothing but hundredths stand behind it. -/
theorem signsKept_iff (hsmall : params.SmallValues) (timestamp : UInt64) :
    SignsKept params (parsedRow params timestamp) ↔ params.NoSmallNegative := by
  rw [SignsKept, parsedRow_values, List.forall₂_map_right_iff, List.forall₂_same]
  refine forall₂_congr fun value hvalue => forall₂_congr fun v hv => ?_
  obtain rfl := Option.mem_def.mp hv
  obtain ⟨x, hx, -, hneg⟩ := replay_value (hsmall _ hvalue v rfl)
  have hread : toDouble (formatOptional (some v)) 0 = x := by
    rw [toDouble, formatOptional, hx]
    rfl
  rw [hread, hneg, ← hundredths_small_iff]
  omega

/-- What a row loses in replay: the absence of a value, digits of a late timestamp, and the sign of
a value that is less than a whole unit. -/
theorem survives_iff (h : params.TextCells) (hsmall : params.SmallValues) :
    (replay out (csvRowLine params) = some (csvRowLine params) ↔
      params.AllPresent ∧ params.HeldTimestamp) ∧
    (Survives out params ↔
      params.AllPresent ∧ params.HeldTimestamp ∧ params.NoSmallNegative) := by
  refine ⟨replay_eq_iff h hsmall, ?_⟩
  rw [← signsKept_iff hsmall params.timestampMs]
  unfold Survives CsvRowParams.HeldTimestamp
  rw [parseRow_csvRowLine h, ← castUInt64_rnd]
  constructor
  · rintro ⟨row, hparse, heq, hsigns⟩
    obtain ⟨timestamp, hcast, hrow⟩ := Option.map_eq_some_iff.mp hparse
    obtain rfl := (Prod.mk.inj hrow).2
    obtain ⟨rfl, hall⟩ := (csvRowLine_parsedRow h hsmall timestamp).mp heq
    exact ⟨hall, hcast, hsigns⟩
  · rintro ⟨hall, hcast, hsigns⟩
    exact ⟨parsedRow params params.timestampMs, by rw [hcast]; rfl,
      (csvRowLine_parsedRow h hsmall _).mpr ⟨rfl, hall⟩, hsigns⟩

end Replay

/-- A row whose motor brakes with thirty newton metres. -/
def coasting : CsvRowParams where
  timestampMs := 1500
  vehicleId := Label.fromUserInput (ascii "bus")
  speedKmh := some 72
  throttlePercent := some 0
  brakeLight := some 1
  accelerationG := some 0
  steeringAngleDeg := some (1 / 2)
  motorRpm := some 4000
  motorHvVoltage := some 350
  motorHvCurrent := some 0
  motorTorqueNm := some (-30)
  gearSelector := Label.fromUserInput (ascii "D")
  dbcSignalCount := 10

/-- The row with another timestamp, speed and acceleration. -/
def coastingAt (timestampMs : UInt64) (speedKmh accelerationG : Option ℚ) : CsvRowParams :=
  { coasting with timestampMs, speedKmh, accelerationG }

theorem coastingAt_textCells (timestampMs : UInt64) (speedKmh accelerationG : Option ℚ) :
    (coastingAt timestampMs speedKmh accelerationG).TextCells := by
  have hid : COMMA ∉ coasting.vehicleId.asString ∧
      trim coasting.vehicleId.asString = coasting.vehicleId.asString := by decide +kernel
  have hgear : COMMA ∉ coasting.gearSelector.asString ∧
      trim coasting.gearSelector.asString = coasting.gearSelector.asString := by decide +kernel
  exact ⟨hid, hgear⟩

theorem coastingAt_smallValues {speedKmh accelerationG : Option ℚ} (timestampMs : UInt64)
    (hs : ∀ v ∈ speedKmh, |v| < 10 ^ 12) (ha : ∀ v ∈ accelerationG, |v| < 10 ^ 12) :
    (coastingAt timestampMs speedKmh accelerationG).SmallValues := by
  unfold CsvRowParams.SmallValues
  simp only [CsvRowParams.values, coastingAt, coasting, List.forall_mem_cons]
  refine ⟨hs, ?_, ha, ?_⟩
  · norm_num
  · norm_num

theorem coasting_survives : Survives {} (coastingAt 1500 (some 72) (some 0)) := by
  have hsmall : (coastingAt 1500 (some 72) (some 0)).SmallValues :=
    coastingAt_smallValues _ (by norm_num) (by norm_num)
  refine (survives_iff (coastingAt_textCells _ _ _) hsmall).2.mpr ⟨?_, ?_, ?_⟩
  · unfold CsvRowParams.AllPresent
    decide
  · unfold CsvRowParams.HeldTimestamp
    decide +kernel
  · unfold CsvRowParams.NoSmallNegative
    decide +kernel

/-- A speed that is absent comes out as zero, a late timestamp comes out as another, and a braking
of half the gravity comes in as an acceleration. -/
theorem row_not_survives :
    replay {} (csvRowLine (coastingAt 1500 none (some 0))) ≠
        some (csvRowLine (coastingAt 1500 none (some 0))) ∧
      replay {} (csvRowLine (coastingAt (2 ^ 53 + 1) (some 72) (some 0))) ≠
        some (csvRowLine (coastingAt (2 ^ 53 + 1) (some 72) (some 0))) ∧
      ¬ Survives {} (coastingAt 1500 (some 72) (some (-1 / 2))) := by
  refine ⟨fun h => ?_, fun h => ?_, ?_⟩
  · have hsmall : (coastingAt 1500 none (some 0)).SmallValues :=
      coastingAt_smallValues _ (by simp) (by norm_num)
    have hall := ((replay_eq_iff (coastingAt_textCells _ _ _) hsmall).mp h).1
    exact absurd (hall none List.mem_cons_self) (by decide)
  · have hsmall : (coastingAt (2 ^ 53 + 1) (some 72) (some 0)).SmallValues :=
      coastingAt_smallValues _ (by norm_num) (by norm_num)
    have hheld := ((replay_eq_iff (coastingAt_textCells _ _ _) hsmall).mp h).2
    unfold CsvRowParams.HeldTimestamp at hheld
    revert hheld
    decide +kernel
  · rintro ⟨row, hparse, -, hsigns⟩
    have hsmall : (coastingAt 1500 (some 72) (some (-1 / 2))).SmallValues :=
      coastingAt_smallValues _ (by norm_num) (by rintro v ⟨⟩; norm_num [abs_div])
    rw [parseRow_csvRowLine (coastingAt_textCells _ _ _)] at hparse
    obtain ⟨timestamp, -, hrow⟩ := Option.map_eq_some_iff.mp hparse
    obtain rfl := (Prod.mk.inj hrow).2
    have hsmall := (signsKept_iff hsmall timestamp).mp hsigns
    unfold CsvRowParams.NoSmallNegative at hsmall
    revert hsmall
    decide +kernel

end VehicleSpy.Telemetry
