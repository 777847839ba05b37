import Mathlib.Data.Nat.Digits.Lemmas
import VehicleSpy.Text.Bytes

/-! # Numbers in text

Digit characters, the unsigned case of `std::from_chars`, and the `%X` family of
`printf` conversions. Printing in upper-case hexadecimal and reading back gives
the number again.
-/

namespace VehicleSpy.Text

/-- The value of a digit or letter in the largest base that has it. -/
def alnumVal (c : Byte) : ℕ :=
  if 48 ≤ c ∧ c ≤ 57 then c.toNat - 48
  else if 65 ≤ c ∧ c ≤ 90 then c.toNat - 55
  else if 97 ≤ c ∧ c ≤ 122 then c.toNat - 87
  else 36

def isDigit (base : ℕ) (c : Byte) : Bool := alnumVal c < base

/-- The number that a string of digits denotes. -/
def numValue (base : ℕ) (s : Bytes) : ℕ := s.foldl (fun v c => base * v + alnumVal c) 0

/-- `std::from_chars` for an unsigned type with values below `bound`: the longest run of digits
is read, whatever follows it. -/
def fromChars (base bound : ℕ) (s : Bytes) : Option ℕ :=
  let ds := s.takeWhile (isDigit base)
  if ds = [] then none else if bound ≤ numValue base ds then none else some (numValue base ds)

/-- `std::from_chars` in base ten for a signed type of the given number of bits. -/
def fromCharsSigned (bits : ℕ) (s : Bytes) : Option ℤ :=
  match s with
  | 45 :: ds => (fromChars 10 (2 ^ (bits - 1) + 1) ds).map fun v => -(v : ℤ)
  | _ => (fromChars 10 (2 ^ (bits - 1)) s).map fun v => (v : ℤ)

/-- The upper-case hexadecimal digit of a value below sixteen. -/
def hexDigit (d : ℕ) : Byte := if d < 10 then (48 + d).toUInt8 else (55 + d).toUInt8

/-- The `%X` conversion. -/
def hexUpper (n : ℕ) : Bytes :=
  if n = 0 then [hexDigit 0] else (Nat.digits 16 n).reverse.map hexDigit

/-- The digits of a number in a base of at most sixteen. -/
def baseDigits (base n : ℕ) : Bytes :=
  if n = 0 then [hexDigit 0] else (Nat.digits base n).reverse.map hexDigit

/-- What a C++ stream writes for a number. -/
def decimal (v : ℤ) : Bytes :=
  if v < 0 then 45 :: baseDigits 10 v.natAbs else baseDigits 10 v.natAbs

/-- The `%0wX` conversion. -/
def hexPad (w n : ℕ) : Bytes := List.replicate (w - (hexUpper n).length) (hexDigit 0) ++ hexUpper n

/-- The bytes that a string of hexadecimal digit pairs denotes. -/
def hexBytes : Bytes → Option Bytes
  | [] => some []
  | [_] => none
  | hi :: lo :: s =>
    if isDigit 16 hi && isDigit 16 lo then
      (hexBytes s).map ((numValue 16 [hi, lo]).toUInt8 :: ·)
    else none

theorem alnumVal_hexDigit {d : ℕ} (h : d < 16) : alnumVal (hexDigit d) = d := by
  have hall : ∀ d : Fin 16, alnumVal (hexDigit d) = d := by decide
  exact hall ⟨d, h⟩

theorem isDigit_hexDigit {d : ℕ} (h : d < 16) : isDigit 16 (hexDigit d) = true := by
  simp [isDigit, alnumVal_hexDigit h, h]

/-- A byte put together from its two halves. -/
theorem hex_pair {a b : ℕ} (ha : a < 16) (hb : b < 16) :
    (a.toUInt8 <<< 4 ||| b.toUInt8) = (16 * a + b).toUInt8 := by
  have hall : ∀ a b : Fin 16, ((a : ℕ).toUInt8 <<< 4 ||| (b : ℕ).toUInt8) =
      (16 * (a : ℕ) + b).toUInt8 := by decide +kernel
  exact hall ⟨a, ha⟩ ⟨b, hb⟩

@[simp] theorem numValue_nil (base : ℕ) : numValue base [] = 0 := rfl

theorem numValue_concat (base : ℕ) (s : Bytes) (c : Byte) :
    numValue base (s ++ [c]) = base * numValue base s + alnumVal c := by
  simp [numValue, List.foldl_append]

theorem numValue_lt {base : ℕ} {s : Bytes} (h : ∀ c ∈ s, isDigit base c = true) :
    numValue base s < base ^ s.length := by
  induction s using List.reverseRecOn with
  | nil => simp
  | append_singleton s c ih =>
    have hs := ih fun d hd => h d (List.mem_append_left _ hd)
    have hc : alnumVal c < base := of_decide_eq_true (h c (by simp))
    calc numValue base (s ++ [c]) = base * numValue base s + alnumVal c := numValue_concat ..
      _ < base * numValue base s + base := Nat.add_lt_add_left hc _
      _ = base * (numValue base s + 1) := (Nat.mul_succ ..).symm
      _ ≤ base * base ^ s.length := Nat.mul_le_mul_left _ hs
      _ = base ^ (s ++ [c]).length := by rw [List.length_append, List.length_singleton, pow_succ']

section Base

variable {base : ℕ}

theorem numValue_reverse_map (hb : base ≤ 16) {ds : List ℕ} (h : ∀ d ∈ ds, d < base) :
    numValue base (ds.reverse.map hexDigit) = Nat.ofDigits base ds := by
  induction ds with
  | nil => rfl
  | cons d ds ih =>
    have hd : d < 16 := (h d List.mem_cons_self).trans_le hb
    rw [List.reverse_cons, List.map_append, List.map_singleton, numValue_concat,
      ih fun e he => h e (List.mem_cons_of_mem _ he), alnumVal_hexDigit hd, Nat.ofDigits_cons,
      Nat.add_comm]

theorem isDigit_baseDigits (h1 : 1 < base) (hb : base ≤ 16) (n : ℕ) :
    ∀ c ∈ baseDigits base n, isDigit base c = true := by
  have hdigit : ∀ d < base, isDigit base (hexDigit d) = true := fun d hd =>
    decide_eq_true (by rwa [alnumVal_hexDigit (hd.trans_le hb)])
  intro c hc
  unfold baseDigits at hc
  split at hc
  · rw [List.mem_singleton.mp hc]
    exact hdigit 0 (by omega)
  · obtain ⟨d, hd, rfl⟩ := List.mem_map.mp hc
    exact hdigit d (Nat.digits_lt_base h1 (List.mem_reverse.mp hd))

/-- Printed digits denote the number again. -/
theorem numValue_baseDigits (h1 : 1 < base) (hb : base ≤ 16) (n : ℕ) :
    numValue base (baseDigits base n) = n := by
  unfold baseDigits
  split
  · next h =>
    rw [h, numValue, List.foldl_cons, List.foldl_nil, alnumVal_hexDigit (by decide)]
    rfl
  · rw [numValue_reverse_map hb fun d hd => Nat.digits_lt_base h1 hd, Nat.ofDigits_digits]

theorem baseDigits_ne_nil (base n : ℕ) : baseDigits base n ≠ [] := by
  unfold baseDigits
  split
  · exact List.cons_ne_nil _ _
  · next h => simpa [Nat.digits_eq_nil_iff_eq_zero] using h

end Base

theorem numValue_replicate_zero (k : ℕ) (s : Bytes) :
    numValue 16 (List.replicate k (hexDigit 0) ++ s) = numValue 16 s := by
  induction k with
  | zero => rfl
  | succ k ih =>
    rw [List.replicate_succ, List.cons_append]
    exact ih

theorem isDigit_hexUpper (n : ℕ) : ∀ c ∈ hexUpper n, isDigit 16 c = true :=
  isDigit_baseDigits (by decide) (by decide) n

theorem isDigit_hexPad (w n : ℕ) : ∀ c ∈ hexPad w n, isDigit 16 c = true := by
  intro c hc
  rcases List.mem_append.mp hc with hc | hc
  · rw [List.eq_of_mem_replicate hc]; exact isDigit_hexDigit (by decide)
  · exact isDigit_hexUpper n c hc

theorem numValue_hexUpper (n : ℕ) : numValue 16 (hexUpper n) = n :=
  numValue_baseDigits (by decide) (by decide) n

theorem notBlank_of_hex {c : Byte} (h : isDigit 16 c = true) : isBlank c = false := by
  rw [← Bool.not_eq_true]
  intro hs
  have hc : c = SP ∨ c = TAB ∨ c = CR ∨ c = LF := by simpa [isBlank, or_assoc] using hs
  rcases hc with rfl | rfl | rfl | rfl <;> exact absurd h (by decide)

theorem notLineEnd_of_hex {c : Byte} (h : isDigit 16 c = true) : isLineEnd c = false := by
  have hb := notBlank_of_hex h
  simp only [isBlank, Bool.or_eq_false_iff] at hb
  simp [isLineEnd, hb.1.2, hb.2]

@[simp] theorem numValue_hexPad (w n : ℕ) : numValue 16 (hexPad w n) = n := by
  rw [hexPad, numValue_replicate_zero, numValue_hexUpper]

theorem length_hexUpper_le {n k : ℕ} (hk : 0 < k) : (hexUpper n).length ≤ k ↔ n < 16 ^ k := by
  unfold hexUpper
  split
  · next h => subst h; simp; omega
  · rw [List.length_map, List.length_reverse, Nat.digits_length_le_iff (by decide)]

theorem hexUpper_ne_nil (n : ℕ) : hexUpper n ≠ [] := baseDigits_ne_nil 16 n

theorem length_hexPad (w n : ℕ) : (hexPad w n).length = max w (hexUpper n).length := by
  rw [hexPad, List.length_append, List.length_replicate]
  omega

theorem hexPad_ne_nil (w n : ℕ) : hexPad w n ≠ [] :=
  List.append_ne_nil_of_right_ne_nil _ (hexUpper_ne_nil n)

/-- A padded number that fits its width has exactly that width. -/
theorem length_hexPad_of_lt {w n : ℕ} (hw : 0 < w) (h : n < 16 ^ w) : (hexPad w n).length = w := by
  rw [length_hexPad, max_eq_left ((length_hexUpper_le hw).mpr h)]

/-- Reading a string of digits that is followed by something else. -/
theorem fromChars_digits {base bound : ℕ} {s t : Bytes} (hs : ∀ c ∈ s, isDigit base c = true)
    (hne : s ≠ []) (ht : ∀ c ∈ t.head?, isDigit base c = false) (hb : numValue base s < bound) :
    fromChars base bound (s ++ t) = some (numValue base s) := by
  have h : (s ++ t).takeWhile (isDigit base) = s := by
    rw [List.takeWhile_append_of_pos hs]
    cases t with
    | nil => rw [List.takeWhile_nil, List.append_nil]
    | cons c t =>
      rw [List.takeWhile_cons_of_neg (by simp [ht c rfl]), List.append_nil]
  simp only [fromChars, h, if_neg hne, if_neg (not_le.mpr hb)]

/-- A number that is printed is read back. -/
theorem fromChars_baseDigits {base bound n : ℕ} (h1 : 1 < base) (hb : base ≤ 16) (hn : n < bound) :
    fromChars base bound (baseDigits base n) = some n := by
  have hvalue : numValue base (baseDigits base n) = n := numValue_baseDigits h1 hb n
  have hread := fromChars_digits (t := []) (isDigit_baseDigits h1 hb n) (baseDigits_ne_nil base n)
    (by simp) (by rwa [hvalue])
  rwa [List.append_nil, hvalue] at hread

/-- What is read is below the bound. -/
theorem fromChars_lt {base bound v : ℕ} {s : Bytes} (h : fromChars base bound s = some v) :
    v < bound := by
  simp only [fromChars] at h
  split at h
  · cases h
  · split at h
    · cases h
    · next hb => exact Option.some.inj h ▸ Nat.lt_of_not_le hb

section Decimal

variable {v : ℤ} {c : Byte}

theorem decimal_of_nonneg (h : 0 ≤ v) : decimal v = baseDigits 10 v.toNat := by
  have habs : v.natAbs = v.toNat := by omega
  rw [decimal, if_neg (Int.not_lt.mpr h), habs]

theorem notMem_decimal (hc : isDigit 10 c = false) (hm : c ≠ 45) (v : ℤ) : c ∉ decimal v := by
  have hdigits : c ∉ baseDigits 10 v.natAbs := by
    intro h
    rw [isDigit_baseDigits (by decide) (by decide) _ c h] at hc
    cases hc
  unfold decimal
  split
  · exact List.not_mem_cons_of_ne_of_not_mem hm hdigits
  · exact hdigits

theorem decimal_natCast_inj {a b : ℕ} (h : decimal a = decimal b) : a = b := by
  rw [decimal_of_nonneg (Int.natCast_nonneg _), decimal_of_nonneg (Int.natCast_nonneg _)] at h
  have hvalue := congrArg (numValue 10) h
  rw [numValue_baseDigits (by decide) (by decide), numValue_baseDigits (by decide) (by decide)]
    at hvalue
  omega

theorem decimal_ne_nil (v : ℤ) : decimal v ≠ [] := by
  unfold decimal
  split
  · exact List.cons_ne_nil _ _
  · exact baseDigits_ne_nil _ _

theorem fromChars_decimal (hlt : v < 2 ^ 63) :
    fromChars 10 (2 ^ 64) (decimal v) = if 0 ≤ v then some v.toNat else none := by
  by_cases h : 0 ≤ v
  · rw [decimal_of_nonneg h, if_pos h, fromChars_baseDigits (by decide) (by decide) (by omega)]
  · rw [decimal, if_pos (Int.not_le.mp h), if_neg h]
    rfl

theorem fromCharsSigned_decimal (hge : -2 ^ 63 ≤ v) (hlt : v < 2 ^ 63) :
    fromCharsSigned 64 (decimal v) = some v := by
  by_cases h : 0 ≤ v
  · have hminus : (45 : Byte) ∉ baseDigits 10 v.toNat := fun hm =>
      absurd (isDigit_baseDigits (by decide) (by decide) _ _ hm) (by decide)
    have hread : fromChars 10 (2 ^ 63) (baseDigits 10 v.toNat) = some v.toNat :=
      fromChars_baseDigits (by decide) (by decide) (by omega)
    rw [decimal_of_nonneg h]
    unfold fromCharsSigned
    split
    · next ds he =>
      rw [he] at hminus
      exact absurd List.mem_cons_self hminus
    · rw [show 64 - 1 = 63 from rfl, hread]
      simp [h]
  · have hread : fromChars 10 (2 ^ 63 + 1) (baseDigits 10 v.natAbs) = some v.natAbs :=
      fromChars_baseDigits (by decide) (by decide) (by omega)
    rw [decimal, if_pos (Int.not_le.mp h)]
    rw [fromCharsSigned, show 64 - 1 = 63 from rfl, hread]
    simp only [Option.bind_eq_bind, Option.bind_some, Option.map_some, Option.pure_def]
    exact congrArg some (by omega)

end Decimal

end VehicleSpy.Text
