import Mathlib.Logic.Function.Basic
import VehicleSpy.Pipeline.OTAHttpTransport
import VehicleSpy.Text.Base64

/-! # The base64 encoder

The encoder gathers three bytes at a time in one buffer and pads what is left at the end. What it
writes decodes to its input.
-/

namespace VehicleSpy.Pipeline.OTAHttpTransport

open Text

/-- The encoder between two bytes of its input. -/
structure Base64Encoder where
  out : Bytes := []
  buf3 : Fin 3 → Byte := fun _ => 0
  i : Fin 3 := 0

namespace Base64Encoder

/-- `buf4`, four values of six bits. -/
def buf4 (buf3 : Fin 3 → Byte) : Bytes :=
  [(buf3 0 &&& 0xFC) >>> 2, (buf3 0 &&& 0x03) <<< 4 ||| (buf3 1 &&& 0xF0) >>> 4,
    (buf3 1 &&& 0x0F) <<< 2 ||| (buf3 2 &&& 0xC0) >>> 6, buf3 2 &&& 0x3F]

def push (e : Base64Encoder) (c : Byte) : Base64Encoder :=
  let buf3 := Function.update e.buf3 e.i c
  if e.i = 2 then { out := e.out ++ (buf4 buf3).map b64, buf3 := buf3, i := 0 }
  else { e with buf3 := buf3, i := e.i + 1 }

/-- The last group is filled with zeros, and `=` stands for the values that have no bit of it. -/
def finish (e : Base64Encoder) : Bytes :=
  if e.i = 0 then e.out
  else
    let buf3 := fun j => if j < e.i then e.buf3 j else 0
    e.out ++ ((buf4 buf3).take (e.i + 1)).map b64 ++ List.replicate (3 - e.i) PAD

end Base64Encoder

/-- `base64Encode` with its buffer. -/
def base64EncodeBuffered (input : Bytes) : Bytes := (input.foldl Base64Encoder.push {}).finish

/-- What the buffer held before makes no difference. -/
theorem finish_foldl_push : ∀ (input out : Bytes) (buf3 : Fin 3 → Byte),
    (input.foldl Base64Encoder.push ⟨out, buf3, 0⟩).finish = out ++ base64Encode input
  | [], out, _ => (List.append_nil out).symm
  | [a], out, buf3 => by
    have hzero : (a &&& 0x03) <<< 4 ||| ((0 : Byte) &&& 0xF0) >>> 4 = (a &&& 0x03) <<< 4 :=
      UInt8.or_zero
    change out ++ [_, b64 ((a &&& 0x03) <<< 4 ||| ((0 : Byte) &&& 0xF0) >>> 4)] ++ _ = _
    rw [hzero, List.append_assoc]
    rfl
  | [a, b], out, buf3 => by
    have hzero : (b &&& 0x0F) <<< 2 ||| ((0 : Byte) &&& 0xC0) >>> 6 = (b &&& 0x0F) <<< 2 :=
      UInt8.or_zero
    change out ++ [_, _, b64 ((b &&& 0x0F) <<< 2 ||| ((0 : Byte) &&& 0xC0) >>> 6)] ++ _ = _
    rw [hzero, List.append_assoc]
    rfl
  | a :: b :: c :: input, out, buf3 => by
    have hgroup := finish_foldl_push input
      (out ++ [b64 ((a &&& 0xFC) >>> 2), b64 ((a &&& 0x03) <<< 4 ||| (b &&& 0xF0) >>> 4),
        b64 ((b &&& 0x0F) <<< 2 ||| (c &&& 0xC0) >>> 6), b64 (c &&& 0x3F)])
      (Function.update (Function.update (Function.update buf3 0 a) 1 b) 2 c)
    rw [base64Encode, ← List.append_assoc]
    exact hgroup

theorem base64EncodeBuffered_eq (input : Bytes) :
    base64EncodeBuffered input = base64Encode input :=
  finish_foldl_push input [] _

example : base64EncodeBuffered (ascii "me:pw") = ascii "bWU6cHc=" := by decide +kernel

section Values

variable (a b c : Byte)

theorem base64Value_b64 {v : Byte} {n : ℕ} (hv : v.toNat = n) (hn : n < 64) :
    base64Value (b64 v) = some n := by
  subst hv
  have hall : ∀ v : Byte, v < 64 → base64Value (b64 v) = some v.toNat :=
    forall_byte (by decide +kernel)
  exact hall v (UInt8.lt_iff_toNat_lt.mpr hn)

/-- The masks and shifts of the encoder. -/
theorem toNat_mask :
    ((a &&& 0xFC) >>> 2).toNat = a.toNat / 4 ∧
    ((a &&& 0x03) <<< 4).toNat = 16 * (a.toNat % 4) ∧
    ((a &&& 0xF0) >>> 4).toNat = a.toNat / 16 ∧
    ((a &&& 0x0F) <<< 2).toNat = 4 * (a.toNat % 16) ∧
    ((a &&& 0xC0) >>> 6).toNat = a.toNat / 64 ∧
    (a &&& 0x3F).toNat = a.toNat % 64 := by
  revert a
  exact forall_byte (by decide +kernel)

theorem value_one : base64Value (b64 ((a &&& 0xFC) >>> 2)) = some (a.toNat / 4) := by
  obtain ⟨hv, -⟩ := toNat_mask a
  have ha := a.toNat_lt
  exact base64Value_b64 hv (by omega)

theorem value_two :
    base64Value (b64 ((a &&& 0x03) <<< 4 ||| (b &&& 0xF0) >>> 4)) =
      some (16 * (a.toNat % 4) + b.toNat / 16) := by
  obtain ⟨-, hlow, -⟩ := toNat_mask a
  obtain ⟨-, -, hhigh, -⟩ := toNat_mask b
  have hb := b.toNat_lt
  have hlt : b.toNat / 16 < 2 ^ 4 := by omega
  refine base64Value_b64 ?_ (by omega)
  rw [UInt8.toNat_or, hlow, hhigh]
  exact (Nat.two_pow_add_eq_or_of_lt hlt _).symm

theorem value_three :
    base64Value (b64 ((b &&& 0x0F) <<< 2 ||| (c &&& 0xC0) >>> 6)) =
      some (4 * (b.toNat % 16) + c.toNat / 64) := by
  obtain ⟨-, -, -, hlow, -⟩ := toNat_mask b
  obtain ⟨-, -, -, -, hhigh, -⟩ := toNat_mask c
  have hc := c.toNat_lt
  have hlt : c.toNat / 64 < 2 ^ 2 := by omega
  refine base64Value_b64 ?_ (by omega)
  rw [UInt8.toNat_or, hlow, hhigh]
  exact (Nat.two_pow_add_eq_or_of_lt hlt _).symm

theorem value_four : base64Value (b64 (c &&& 0x3F)) = some (c.toNat % 64) := by
  obtain ⟨-, -, -, -, -, hv⟩ := toNat_mask c
  exact base64Value_b64 hv (by omega)

/-- The second value of a lone byte and the third value of two. -/
theorem value_two_last : base64Value (b64 ((a &&& 0x03) <<< 4)) = some (16 * (a.toNat % 4)) := by
  obtain ⟨-, hlow, -⟩ := toNat_mask a
  exact base64Value_b64 hlow (by omega)

theorem value_three_last :
    base64Value (b64 ((b &&& 0x0F) <<< 2)) = some (4 * (b.toNat % 16)) := by
  obtain ⟨-, -, -, hlow, -⟩ := toNat_mask b
  exact base64Value_b64 hlow (by omega)

theorem toUInt8_eq {n : ℕ} (h : n = a.toNat) : n.toUInt8 = a := by
  subst h
  exact UInt8.ofNat_toNat

theorem byteOne_eq {y : ℕ} (hy : y / 16 = a.toNat % 4) : byteOne (a.toNat / 4) y = a :=
  toUInt8_eq a (by omega)

theorem byteTwo_eq {y z : ℕ} (hy : y % 16 = b.toNat / 16) (hz : z / 4 = b.toNat % 16) :
    byteTwo y z = b :=
  toUInt8_eq b (by omega)

theorem byteThree_eq {z : ℕ} (hz : z % 4 = c.toNat / 64) : byteThree z (c.toNat % 64) = c :=
  toUInt8_eq c (by omega)

end Values

section Encoded

theorem base64Decode_base64Encode : ∀ input : Bytes,
    base64Decode (base64Encode input) = some input
  | [] => rfl
  | [a] => by
    have h := base64Decode_one (value_one a) (value_two_last a) (by omega)
    rwa [byteOne_eq a (by omega)] at h
  | [a, b] => by
    have hb := b.toNat_lt
    have h := base64Decode_two (value_one a) (value_two a b) (value_three_last b) (by omega)
    rwa [byteOne_eq a (by omega), byteTwo_eq b (by omega) (by omega)] at h
  | a :: b :: c :: input => by
    have hb := b.toNat_lt
    have hc := c.toNat_lt
    have h := base64Decode_group (value_one a) (value_two a b) (value_three b c) (value_four c)
      (base64Decode_base64Encode input)
    rwa [byteOne_eq a (by omega), byteTwo_eq b (by omega) (by omega),
      byteThree_eq c (by omega)] at h

theorem length_base64Encode : ∀ input : Bytes,
    (base64Encode input).length = 4 * ((input.length + 2) / 3)
  | [] => rfl
  | [_] | [_, _] => by simp [base64Encode]
  | a :: b :: c :: input => by
    have ih := length_base64Encode input
    simp only [base64Encode, List.length_append, List.length_cons, List.length_nil, ih]
    omega

theorem isBase64_base64Encode : ∀ input : Bytes, IsBase64 (base64Encode input)
  | [] => ⟨[], 0, rfl, by decide, List.forall_mem_nil _⟩
  | [a] => by
    refine ⟨[_, _], 2, rfl, le_rfl, ?_⟩
    simp [isBase64Char, value_one, value_two_last]
  | [a, b] => by
    refine ⟨[_, _, _], 1, rfl, by decide, ?_⟩
    simp [isBase64Char, value_one, value_two, value_three_last]
  | a :: b :: c :: input => by
    obtain ⟨body, n, ht, hn, hbody⟩ := isBase64_base64Encode input
    refine ⟨_ :: _ :: _ :: _ :: body, n, congrArg (_ :: _ :: _ :: _ :: ·) ht, hn, ?_⟩
    simpa [isBase64Char, value_one, value_two, value_three, value_four] using hbody

end Encoded

theorem base64Encode_injective : Function.Injective base64Encode := by
  intro s t h
  have hdecode := congrArg base64Decode h
  rw [base64Decode_base64Encode, base64Decode_base64Encode] at hdecode
  exact Option.some_inj.mp hdecode

/-- What the request authenticates with. -/
def credentials (username password : Bytes) : Bytes := username ++ [COLON] ++ password

theorem cutAt_credentials {u : Bytes} (hu : COLON ∉ u) (p : Bytes) :
    cutAt COLON (credentials u p) = some (u, p) := by
  rw [credentials, List.append_assoc]
  exact cutAt_append_cons hu

theorem credentials_injective {u u' p p' : Bytes} (hu : COLON ∉ u) (hu' : COLON ∉ u')
    (h : credentials u p = credentials u' p') : u = u' ∧ p = p' := by
  have hcut := congrArg (cutAt COLON) h
  rw [cutAt_credentials hu, cutAt_credentials hu'] at hcut
  exact Prod.mk.inj (Option.some_inj.mp hcut)

/-- The encoder follows RFC 4648, so no two credentials share their text. -/
theorem base64EncodeBuffered_rfc4648 :
    (∀ s : Bytes, IsBase64 (base64EncodeBuffered s) ∧
      (base64EncodeBuffered s).length = 4 * ((s.length + 2) / 3) ∧
      base64Decode (base64EncodeBuffered s) = some s) ∧
    Function.Injective base64EncodeBuffered ∧
    ∀ u p u' p' : Bytes, COLON ∉ u → COLON ∉ u' →
      base64EncodeBuffered (credentials u p) = base64EncodeBuffered (credentials u' p') →
      u = u' ∧ p = p' := by
  have heq : base64EncodeBuffered = base64Encode := funext base64EncodeBuffered_eq
  rw [heq]
  refine ⟨fun s => ?_, base64Encode_injective, fun u p u' p' hu hu' h => ?_⟩
  · exact ⟨isBase64_base64Encode s, length_base64Encode s, base64Decode_base64Encode s⟩
  · exact credentials_injective hu hu' (base64Encode_injective h)

end VehicleSpy.Pipeline.OTAHttpTransport
