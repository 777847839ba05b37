import Mathlib.Data.List.Basic
import VehicleSpy.Text.Bytes

/-! # Base64

The decoding of RFC 4648: groups of four characters of six bits each, the last group perhaps
padded. The bits that a padded group leaves over are zero.
-/

namespace VehicleSpy.Text

def PAD : Byte := 61

/-- The value of a character of the alphabet. -/
def base64Value (c : Byte) : Option ℕ :=
  if 65 ≤ c ∧ c ≤ 90 then some (c.toNat - 65)
  else if 97 ≤ c ∧ c ≤ 122 then some (c.toNat - 97 + 26)
  else if 48 ≤ c ∧ c ≤ 57 then some (c.toNat - 48 + 52)
  else if c = 43 then some 62
  else if c = 47 then some 63
  else none

def isBase64Char (c : Byte) : Bool := (base64Value c).isSome

/-- Characters of the alphabet and at most two pads. -/
def IsBase64 (t : Bytes) : Prop :=
  ∃ body n, t = body ++ List.replicate n PAD ∧ n ≤ 2 ∧ ∀ c ∈ body, isBase64Char c = true

/-- The first byte of four values, the second and the third. -/
def byteOne (x y : ℕ) : Byte := (4 * x + y / 16).toUInt8

def byteTwo (y z : ℕ) : Byte := (16 * (y % 16) + z / 4).toUInt8

def byteThree (z w : ℕ) : Byte := (64 * (z % 4) + w).toUInt8

def base64Decode : Bytes → Option Bytes
  | [] => some []
  | a :: b :: c :: d :: rest => do
    let x ← base64Value a
    let y ← base64Value b
    if c = PAD ∧ d = PAD ∧ rest = [] then
      if y % 16 = 0 then some [byteOne x y] else none
    else
      let z ← base64Value c
      if d = PAD ∧ rest = [] then
        if z % 4 = 0 then some [byteOne x y, byteTwo y z] else none
      else
        let w ← base64Value d
        let bytes ← base64Decode rest
        some (byteOne x y :: byteTwo y z :: byteThree z w :: bytes)
  | _ => none

section Groups

variable {a b c d : Byte} {x y z w : ℕ} {rest bytes : Bytes}

theorem ne_pad_of_base64Value (h : base64Value c = some z) : c ≠ PAD := by
  rintro rfl
  cases h

theorem base64Decode_group (ha : base64Value a = some x) (hb : base64Value b = some y)
    (hc : base64Value c = some z) (hd : base64Value d = some w)
    (hrest : base64Decode rest = some bytes) :
    base64Decode (a :: b :: c :: d :: rest) =
      some (byteOne x y :: byteTwo y z :: byteThree z w :: bytes) := by
  simp [base64Decode, ha, hb, hc, hd, hrest, ne_pad_of_base64Value hc, ne_pad_of_base64Value hd]

theorem base64Decode_two (ha : base64Value a = some x) (hb : base64Value b = some y)
    (hc : base64Value c = some z) (hz : z % 4 = 0) :
    base64Decode [a, b, c, PAD] = some [byteOne x y, byteTwo y z] := by
  simp [base64Decode, ha, hb, hc, hz, ne_pad_of_base64Value hc]

theorem base64Decode_one (ha : base64Value a = some x) (hb : base64Value b = some y)
    (hy : y % 16 = 0) : base64Decode [a, b, PAD, PAD] = some [byteOne x y] := by
  simp [base64Decode, ha, hb, hy]

end Groups

end VehicleSpy.Text
