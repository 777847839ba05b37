import Mathlib.Data.Int.Log
import Mathlib.Data.Rat.Floor
import Mathlib.Tactic.Linarith
import Mathlib.Tactic.Ring
import Mathlib.Tactic.FieldSimp
import Mathlib.Tactic.Positivity

/-! # Rounding to binary64

The finite values of a `double` as rationals: a result is rounded to the nearest multiple of the
unit in the last place, to an even one from halfway. Values whose decimal hundredths are
printed and read survive rounding as long as they are far from the end of the precision.
-/

namespace VehicleSpy.Machine.Binary64

/-- The nearest integer, an even one from halfway. -/
def roundEven (q : ℚ) : ℤ :=
  let f := ⌊q⌋
  if q - f < 1 / 2 then f
  else if 1 / 2 < q - f then f + 1
  else if f % 2 = 0 then f else f + 1

/-- The exponent of the unit in the last place of a value, which the subnormal numbers bound. -/
def ulpExponent (x : ℚ) : ℤ := max (Int.log 2 |x| - 52) (-1074)

/-- The value a result is rounded to. -/
def rnd (x : ℚ) : ℚ := roundEven (x / 2 ^ ulpExponent x) * 2 ^ ulpExponent x

/-- `std::llround`: the nearest integer, away from zero from halfway. -/
def llround (x : ℚ) : ℤ := if 0 ≤ x then ⌊x + 1 / 2⌋ else -⌊-x + 1 / 2⌋

/-- The smallest normal number. -/
def minNormal : ℚ := 2 ^ (-1022 : ℤ)

variable {x : ℚ} {n : ℤ}

theorem abs_roundEven_sub_le (q : ℚ) : |(roundEven q : ℚ) - q| ≤ 1 / 2 := by
  unfold roundEven
  have hbelow : (⌊q⌋ : ℚ) ≤ q := Int.floor_le q
  have habove : q < ⌊q⌋ + 1 := Int.lt_floor_add_one q
  dsimp only
  split
  · rw [abs_le]
    constructor <;> linarith
  · split
    · push_cast
      rw [abs_le]
      constructor <;> linarith
    · split
      all_goals
        push_cast
        rw [abs_le]
        constructor <;> linarith

theorem roundEven_intCast (n : ℤ) : roundEven n = n := by
  simp [roundEven]

/-- A result is off by half a unit in the last place. -/
theorem abs_rnd_sub_le_ulp (x : ℚ) : |rnd x - x| ≤ 1 / 2 * 2 ^ ulpExponent x := by
  have hu : (0 : ℚ) < 2 ^ ulpExponent x := zpow_pos (by norm_num) _
  have hsplit : rnd x - x = ((roundEven (x / 2 ^ ulpExponent x) : ℚ) - x / 2 ^ ulpExponent x) *
      2 ^ ulpExponent x := by
    rw [rnd, sub_mul, div_mul_cancel₀ _ hu.ne']
  rw [hsplit, abs_mul, abs_of_pos hu]
  exact mul_le_mul_of_nonneg_right (abs_roundEven_sub_le _) hu.le

theorem abs_rnd_sub_le (hx : minNormal ≤ |x|) : |rnd x - x| ≤ |x| / 2 ^ 53 := by
  have hpos : 0 < |x| := lt_of_lt_of_le (zpow_pos (by norm_num) _) hx
  have hlog : (-1022 : ℤ) ≤ Int.log 2 |x| := by
    rw [← Int.zpow_le_iff_le_log (by decide) hpos]
    exact_mod_cast hx
  have hulp : ulpExponent x = Int.log 2 |x| - 52 := max_eq_left (by omega)
  have hle : (2 : ℚ) ^ Int.log 2 |x| ≤ |x| := by
    exact_mod_cast Int.zpow_log_le_self (b := 2) (by decide) hpos
  calc |rnd x - x| ≤ 1 / 2 * 2 ^ ulpExponent x := abs_rnd_sub_le_ulp x
    _ = 2 ^ Int.log 2 |x| / 2 ^ 53 := by
        rw [hulp, zpow_sub₀ (by norm_num)]
        norm_num
        ring
    _ ≤ |x| / 2 ^ 53 := by gcongr

theorem minNormal_le : minNormal ≤ 1 / 1000 := by
  calc (2 : ℚ) ^ (-1022 : ℤ) ≤ 2 ^ (-10 : ℤ) := zpow_le_zpow_right₀ (by norm_num) (by norm_num)
    _ ≤ 1 / 1000 := by norm_num

theorem abs_rnd_le (x : ℚ) : |rnd x| ≤ 2 * |x| + 1 := by
  have hnear : |rnd x - x| ≤ |x| + 1 := by
    rcases le_or_gt minNormal |x| with hx | hx
    · have := abs_rnd_sub_le hx
      have := abs_nonneg x
      linarith
    · have hlog : Int.log 2 |x| ≤ 0 := by
        rcases (abs_nonneg x).eq_or_lt with hzero | hpos
        · rw [← hzero, Int.log_zero_right]
        · have : Int.log 2 |x| < 1 := by
            rw [← Int.lt_zpow_iff_log_lt (by decide) hpos]
            have := minNormal_le
            push_cast
            linarith
          omega
      have hulp : (2 : ℚ) ^ ulpExponent x ≤ 2 ^ (0 : ℤ) :=
        zpow_le_zpow_right₀ (by norm_num) (max_le (by omega) (by norm_num))
      have := abs_rnd_sub_le_ulp x
      have := abs_nonneg x
      rw [zpow_zero] at hulp
      linarith
  have := abs_sub_abs_le_abs_sub (rnd x) x
  linarith

theorem rnd_zero : rnd 0 = 0 := by
  simp [rnd, roundEven]

theorem llround_eq (h : |x - n| < 1 / 2) : llround x = n := by
  rw [abs_lt] at h
  unfold llround
  split
  · rw [Int.floor_eq_iff]
    constructor <;> linarith
  · have hneg : ⌊-x + 1 / 2⌋ = -n := by
      rw [Int.floor_eq_iff]
      push_cast
      constructor <;> linarith
    rw [hneg, neg_neg]

theorem abs_llround_le (x : ℚ) : (|llround x| : ℚ) ≤ |x| + 1 := by
  unfold llround
  split
  · next h =>
    have hnonneg : 0 ≤ ⌊x + 1 / 2⌋ := Int.floor_nonneg.mpr (by linarith)
    have := Int.floor_le (x + 1 / 2)
    rw [abs_of_nonneg (by exact_mod_cast hnonneg), abs_of_nonneg h]
    linarith
  · next h =>
    have hneg := not_le.mp h
    have hnonneg : 0 ≤ ⌊-x + 1 / 2⌋ := Int.floor_nonneg.mpr (by linarith)
    have := Int.floor_le (-x + 1 / 2)
    push_cast
    rw [abs_neg, abs_of_nonneg (by exact_mod_cast hnonneg), abs_of_neg hneg]
    linarith

/-- How far below zero a number is rounded. -/
theorem neg_lt_llround {k : ℕ} (hk : 0 < k) : -(k : ℤ) < llround x ↔ 1 / 2 - (k : ℚ) < x := by
  have hone : (1 : ℚ) ≤ k := by exact_mod_cast hk
  unfold llround
  split
  · next h =>
    have hnonneg : 0 ≤ ⌊x + 1 / 2⌋ := Int.floor_nonneg.mpr (by linarith)
    exact iff_of_true (by omega) (by linarith)
  · rw [neg_lt_neg_iff, Int.floor_lt, Int.cast_natCast]
    constructor
    · intro h
      linarith
    · intro h
      linarith

/-- The numbers that are rounded to less than a number of units below zero, but not to zero. -/
theorem llround_small_iff :
    -100 < llround x ∧ llround x < 0 ↔ -199 / 2 < x ∧ x ≤ -1 / 2 := by
  have hlow : -100 < llround x ↔ -199 / 2 < x := by
    have h := neg_lt_llround (x := x) (show 0 < 100 by decide)
    norm_num at h ⊢
    exact h
  have hhigh : llround x < 0 ↔ x ≤ -1 / 2 := by
    have h := neg_lt_llround (x := x) (show 0 < 1 by decide)
    norm_num at h
    have hint : llround x < 0 ↔ ¬ -1 < llround x := by omega
    rw [hint, h, not_lt]
    norm_num
  rw [hlow, hhigh]

section Halves

/-- A half lies between a number and the one it is rounded to. -/
def Carried (x : ℚ) : Prop := ∃ k : ℕ, ¬ ((k : ℚ) + 1 / 2 ≤ |x| ↔ (k : ℚ) + 1 / 2 ≤ |rnd x|)

variable {q : ℚ}

theorem roundEven_nonneg (h : 0 ≤ q) : 0 ≤ roundEven q := by
  have hfloor : 0 ≤ ⌊q⌋ := Int.floor_nonneg.mpr h
  simp only [roundEven]
  split_ifs <;> omega

theorem roundEven_nonpos (h : q ≤ 0) : roundEven q ≤ 0 := by
  rcases h.eq_or_lt with rfl | hneg
  · exact (roundEven_intCast 0).le
  · have hfloor : ⌊q⌋ < 0 := Int.floor_lt.mpr hneg
    simp only [roundEven]
    split_ifs <;> omega

theorem rnd_nonneg (h : 0 ≤ x) : 0 ≤ rnd x := by
  have hu : (0 : ℚ) < 2 ^ ulpExponent x := zpow_pos (by norm_num) _
  have hround := roundEven_nonneg (div_nonneg h hu.le)
  exact mul_nonneg (by exact_mod_cast hround) hu.le

theorem rnd_nonpos (h : x ≤ 0) : rnd x ≤ 0 := by
  have hu : (0 : ℚ) < 2 ^ ulpExponent x := zpow_pos (by norm_num) _
  have hround := roundEven_nonpos (div_nonpos_of_nonpos_of_nonneg h hu.le)
  exact mul_nonpos_of_nonpos_of_nonneg (by exact_mod_cast hround) hu.le

theorem llround_nonneg (h : 0 ≤ x) : 0 ≤ llround x := by
  rw [llround, if_pos h]
  exact Int.floor_nonneg.mpr (by linarith)

theorem llround_nonpos (h : x ≤ 0) : llround x ≤ 0 := by
  rcases h.eq_or_lt with rfl | hneg
  · norm_num [llround]
  · have hfloor : 0 ≤ ⌊-x + 1 / 2⌋ := Int.floor_nonneg.mpr (by linarith)
    rw [llround, if_neg (not_le.mpr hneg)]
    omega

/-- A number is rounded away from zero from each half on. -/
theorem succ_le_natAbs_llround (x : ℚ) (k : ℕ) :
    k + 1 ≤ (llround x).natAbs ↔ (k : ℚ) + 1 / 2 ≤ |x| := by
  have hfloor (y : ℚ) (hy : 0 ≤ y) : k + 1 ≤ ⌊y + 1 / 2⌋.natAbs ↔ (k : ℚ) + 1 / 2 ≤ y := by
    have hnonneg : 0 ≤ ⌊y + 1 / 2⌋ := Int.floor_nonneg.mpr (by linarith)
    have hcast : k + 1 ≤ ⌊y + 1 / 2⌋.natAbs ↔ ((k + 1 : ℕ) : ℤ) ≤ ⌊y + 1 / 2⌋ := by omega
    rw [hcast, Int.le_floor]
    push_cast
    constructor <;> intro h <;> linarith
  rcases le_or_gt 0 x with h | h
  · rw [llround, if_pos h, abs_of_nonneg h]
    exact hfloor x h
  · rw [llround, if_neg (not_le.mpr h), abs_of_neg h, Int.natAbs_neg]
    exact hfloor (-x) (by linarith)

/-- The rounding of a number goes unnoticed in its nearest integer unless it carries over a half. -/
theorem natAbs_llround_rnd_iff :
    (llround (rnd x)).natAbs = (llround x).natAbs ↔ ¬ Carried x := by
  rw [Carried, not_exists_not]
  simp only [← succ_le_natAbs_llround]
  constructor
  · intro h k
    rw [h]
  · intro h
    apply le_antisymm
    · by_contra hlt
      have := (h (llround x).natAbs).mpr (by omega)
      omega
    · by_contra hlt
      have := (h (llround (rnd x)).natAbs).mp (by omega)
      omega

theorem llround_rnd_iff : llround (rnd x) = llround x ↔ ¬ Carried x := by
  rw [← natAbs_llround_rnd_iff]
  rcases le_total 0 x with h | h
  · have := llround_nonneg (rnd_nonneg h)
    have := llround_nonneg h
    omega
  · have := llround_nonpos (rnd_nonpos h)
    have := llround_nonpos h
    omega

end Halves

/-- The hundredths of a value are found again in a number as near to it as a `double` can be. -/
theorem llround_hundredths (h : |n| ≤ 10 ^ 15) (hx : |x - n / 100| ≤ |(n : ℚ)| / 100 / 2 ^ 53) :
    llround (rnd (x * 100)) = n := by
  apply llround_eq
  have hprod : |x * 100 - n| ≤ |(n : ℚ)| / 2 ^ 53 := by
    have hscale : x * 100 - n = (x - n / 100) * 100 := by ring
    rw [hscale, abs_mul, abs_of_pos (show (0 : ℚ) < 100 by norm_num)]
    linarith
  rcases eq_or_ne n 0 with rfl | hn
  · have hzero : x = 0 := by simpa using hx
    simp [hzero, rnd_zero]
  · have hone : (1 : ℚ) ≤ |(n : ℚ)| := by exact_mod_cast Int.one_le_abs hn
    have hbound : |(n : ℚ)| ≤ 10 ^ 15 := by exact_mod_cast h
    have hsize : |x * 100| ≤ 2 * |(n : ℚ)| := by
      have := abs_sub_abs_le_abs_sub (x * 100) n
      linarith
    have hlow : |(n : ℚ)| / 2 ≤ |x * 100| := by
      have := abs_sub_abs_le_abs_sub (n : ℚ) (x * 100)
      rw [abs_sub_comm] at this
      linarith
    have hagain := abs_rnd_sub_le (x := x * 100) (by linarith [minNormal_le])
    calc |rnd (x * 100) - n|
        ≤ |rnd (x * 100) - x * 100| + |x * 100 - n| := abs_sub_le _ _ _
      _ ≤ 3 * 10 ^ 15 / 2 ^ 53 := by linarith
      _ < 1 / 2 := by norm_num

/-- The number nearest to hundredths is that near. -/
theorem abs_rnd_hundredths_sub_le (n : ℤ) :
    |rnd (n / 100) - n / 100| ≤ |(n : ℚ)| / 100 / 2 ^ 53 := by
  rcases eq_or_ne n 0 with rfl | hn
  · simp [rnd_zero]
  · have hone : (1 : ℚ) ≤ |(n : ℚ)| := by exact_mod_cast Int.one_le_abs hn
    have hquot : |(n / 100 : ℚ)| = |(n : ℚ)| / 100 := by
      rw [abs_div, abs_of_pos (show (0 : ℚ) < 100 by norm_num)]
    have hnear := abs_rnd_sub_le (x := (n / 100 : ℚ)) (by rw [hquot]; linarith [minNormal_le])
    rwa [hquot] at hnear

section Naturals

variable {t : ℕ}

theorem ulpExponent_natCast (t : ℕ) : ulpExponent t = (Nat.log 2 t : ℤ) - 52 := by
  rw [ulpExponent, abs_of_nonneg (Nat.cast_nonneg t), Int.log_natCast]
  exact max_eq_left (by omega)

/-- A whole number with at most 53 binary digits is exact. -/
theorem rnd_small (h : Nat.log 2 t ≤ 52) : rnd t = t := by
  obtain ⟨k, hk⟩ : ∃ k : ℕ, ulpExponent t = -(k : ℤ) :=
    ⟨52 - Nat.log 2 t, by rw [ulpExponent_natCast]; omega⟩
  have hquot : (t : ℚ) / 2 ^ (-(k : ℤ)) = ((t * 2 ^ k : ℕ) : ℤ) := by
    rw [zpow_neg, div_inv_eq_mul, zpow_natCast]
    push_cast
    ring
  rw [rnd, hk, hquot, roundEven_intCast]
  push_cast
  rw [mul_assoc, zpow_neg, zpow_natCast, mul_inv_cancel₀ (by positivity), mul_one]

/-- A whole number is rounded to a multiple of its unit in the last place. -/
theorem rnd_large (h : 52 ≤ Nat.log 2 t) :
    rnd t = (roundEven (t / 2 ^ (Nat.log 2 t - 52)) : ℚ) * 2 ^ (Nat.log 2 t - 52) := by
  have hk : ulpExponent t = ((Nat.log 2 t - 52 : ℕ) : ℤ) := by
    rw [ulpExponent_natCast]
    omega
  rw [rnd, hk, zpow_natCast]

theorem rnd_isInt (t : ℕ) : ∃ m : ℤ, rnd t = m := by
  rcases Nat.le_total (Nat.log 2 t) 52 with h | h
  · exact ⟨t, by rw [rnd_small h]; rfl⟩
  · exact ⟨roundEven (t / 2 ^ (Nat.log 2 t - 52)) * 2 ^ (Nat.log 2 t - 52), by
      rw [rnd_large h]; push_cast; rfl⟩

/-- The whole numbers that a `double` holds: those with 53 binary digits before the zeros. -/
theorem rnd_eq_self_iff : rnd t = t ↔ 2 ^ (Nat.log 2 t - 52) ∣ t := by
  rcases Nat.le_total (Nat.log 2 t) 52 with h | h
  · rw [Nat.sub_eq_zero_of_le h, pow_zero]
    exact iff_of_true (rnd_small h) (one_dvd t)
  · have hpow : (0 : ℚ) < 2 ^ (Nat.log 2 t - 52) := by positivity
    rw [rnd_large h]
    constructor
    · intro heq
      have hint : roundEven (t / 2 ^ (Nat.log 2 t - 52)) * 2 ^ (Nat.log 2 t - 52) = (t : ℤ) := by
        exact_mod_cast heq
      exact_mod_cast Dvd.intro_left _ hint
    · rintro ⟨m, hm⟩
      have hquot : (t : ℚ) / 2 ^ (Nat.log 2 t - 52) = (m : ℤ) := by
        rw [div_eq_iff hpow.ne']
        calc (t : ℚ) = ((2 ^ (Nat.log 2 t - 52) * m : ℕ) : ℚ) := by rw [← hm]
          _ = ((m : ℤ) : ℚ) * 2 ^ (Nat.log 2 t - 52) := by push_cast; ring
      rw [hquot, roundEven_intCast, ← hquot, div_mul_cancel₀ _ hpow.ne']

end Naturals

end VehicleSpy.Machine.Binary64
