import Mathlib.Algebra.Order.Ring.Nat
import Mathlib.Data.List.Induction

/-! # Numbers written in bytes

A number of a fixed count of bytes, the highest first. Reading and writing are inverse to each
other up to the bytes that are cut off, and the shifting loops of 64-bit words compute them.
-/

namespace VehicleSpy.Machine

/-- The number that bytes write, the highest first. -/
def ofBigEndian (bytes : List UInt8) : ℕ := bytes.foldl (fun value b => value * 256 + b.toNat) 0

/-- The given number of low bytes of a value, the highest first. -/
def toBigEndian : ℕ → ℕ → List UInt8
  | 0, _ => []
  | count + 1, value => toBigEndian count (value / 256) ++ [value.toUInt8]

section Bytes

variable {count value : ℕ} {bytes : List UInt8}

@[simp] theorem length_toBigEndian (count value : ℕ) :
    (toBigEndian count value).length = count := by
  induction count generalizing value with
  | zero => rfl
  | succ count ih => rw [toBigEndian, List.length_append, ih, List.length_singleton]

theorem ofBigEndian_concat (bytes : List UInt8) (b : UInt8) :
    ofBigEndian (bytes ++ [b]) = ofBigEndian bytes * 256 + b.toNat := by
  simp only [ofBigEndian, List.foldl_append, List.foldl_cons, List.foldl_nil]

theorem ofBigEndian_lt (bytes : List UInt8) : ofBigEndian bytes < 256 ^ bytes.length := by
  induction bytes using List.reverseRecOn with
  | nil => decide
  | append_singleton bytes b ih =>
    have hb : b.toNat < 256 := b.toNat_lt
    rw [ofBigEndian_concat, List.length_append, List.length_singleton, pow_succ]
    omega

theorem ofBigEndian_toBigEndian (count value : ℕ) :
    ofBigEndian (toBigEndian count value) = value % 256 ^ count := by
  induction count generalizing value with
  | zero => exact (Nat.mod_one value).symm
  | succ count ih =>
    have hlow : value.toUInt8.toNat = value % 256 := UInt8.toNat_ofNat'
    rw [toBigEndian, ofBigEndian_concat, ih, hlow, pow_succ', Nat.mod_mul]
    omega

theorem ofBigEndian_toBigEndian_of_lt (h : value < 256 ^ count) :
    ofBigEndian (toBigEndian count value) = value := by
  rw [ofBigEndian_toBigEndian, Nat.mod_eq_of_lt h]

theorem toBigEndian_ofBigEndian (bytes : List UInt8) :
    toBigEndian bytes.length (ofBigEndian bytes) = bytes := by
  induction bytes using List.reverseRecOn with
  | nil => rfl
  | append_singleton bytes b ih =>
    have hb : b.toNat < 256 := b.toNat_lt
    have hhigh : (ofBigEndian bytes * 256 + b.toNat) / 256 = ofBigEndian bytes := by omega
    have hlow : (ofBigEndian bytes * 256 + b.toNat).toUInt8 = b := by
      apply UInt8.toNat_inj.mp
      rw [Nat.toUInt8, UInt8.toNat_ofNat']
      omega
    rw [List.length_append, List.length_singleton, ofBigEndian_concat, toBigEndian, hhigh, ih, hlow]

/-- A number is zero just when all its bytes are. -/
theorem ofBigEndian_eq_zero_iff : ofBigEndian bytes = 0 ↔ bytes = toBigEndian bytes.length 0 := by
  constructor
  · intro h
    rw [← h, toBigEndian_ofBigEndian]
  · intro h
    rw [h, ofBigEndian_toBigEndian, Nat.zero_mod]

end Bytes

section Words

/-- A shift by a byte and the disjunction with one append it. -/
theorem toNat_appendByte64 (value : UInt64) (b : UInt8) :
    (value <<< 8 ||| b.toUInt64).toNat = (value.toNat * 256 + b.toNat) % 2 ^ 64 := by
  have hb : b.toNat < 256 := b.toNat_lt
  have hshift : (value <<< 8).toNat = (value.toNat % 2 ^ 56) <<< 8 := by
    rw [UInt64.toNat_shiftLeft, Nat.shiftLeft_eq, Nat.shiftLeft_eq]
    exact Nat.mul_mod_mul_right 256 value.toNat (2 ^ 56)
  have hor : (value.toNat % 2 ^ 56) <<< 8 ||| b.toNat = value.toNat % 2 ^ 56 * 256 + b.toNat := by
    rw [← Nat.shiftLeft_add_eq_or_of_lt (i := 8) hb, Nat.shiftLeft_eq]
  rw [UInt64.toNat_or, hshift, UInt8.toNat_toUInt64, hor]
  omega

/-- The shifting loop reads the number, up to the bits that a word cuts off. -/
theorem toNat_foldl_appendByte64 (bytes : List UInt8) :
    (bytes.foldl (fun (value : UInt64) b => value <<< 8 ||| b.toUInt64) 0).toNat =
      ofBigEndian bytes % 2 ^ 64 := by
  induction bytes using List.reverseRecOn with
  | nil => rfl
  | append_singleton bytes b ih =>
    rw [List.foldl_append, List.foldl_cons, List.foldl_nil, toNat_appendByte64, ih,
      ofBigEndian_concat]
    omega

end Words

end VehicleSpy.Machine
