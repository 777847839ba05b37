import Mathlib.Data.List.Nodup
import VehicleSpy.Text.Bytes

/-! # Bits of a byte string

A byte string as a store of bits, bit `p` being bit `p % 8` of byte `p / 8`: reading one
bit, writing one bit, writing a number along a list of positions. Numbers collected bit by
bit are equal if their bits are.
-/

namespace VehicleSpy.Text

/-- The bit at a position; there is none outside of the string. -/
def bitAt (frame : Bytes) (p : ℕ) : Bool :=
  match frame[p / 8]? with
  | some byte => byte.toNat.testBit (p % 8)
  | none => false

/-- A byte with one bit set or cleared through a mask. -/
def maskByte (byte : Byte) (k : ℕ) (b : Bool) : Byte :=
  let mask : Byte := 1 <<< UInt8.ofNat k
  if b then byte ||| mask else byte &&& ~~~mask

def putBit (frame : Bytes) (p : ℕ) (b : Bool) : Bytes :=
  frame.modify (p / 8) fun byte => maskByte byte (p % 8) b

/-- Write bits to positions, one after the other. -/
def putBits (frame : Bytes) (bits : List (ℕ × Bool)) : Bytes :=
  bits.foldl (fun frame x => putBit frame x.1 x.2) frame

section Store

variable {frame : Bytes} {p q k j : ℕ} {bits : List (ℕ × Bool)} {b : Bool} {byte : Byte}

theorem testBit_mask (hk : k < 8) (hj : j < 8) :
    (1 <<< UInt8.ofNat k : Byte).toBitVec.getLsbD j = decide (j = k) := by
  have hall : ∀ k j : Fin 8,
      (1 <<< UInt8.ofNat k.val : UInt8).toBitVec.getLsbD j.val = decide (j.val = k.val) := by
    decide
  exact hall ⟨k, hk⟩ ⟨j, hj⟩

theorem testBit_maskByte (hk : k < 8) (hj : j < 8) :
    (maskByte byte k b).toNat.testBit j = if j = k then b else byte.toNat.testBit j := by
  change (maskByte byte k b).toBitVec.getLsbD j = if j = k then b else byte.toBitVec.getLsbD j
  have hm := testBit_mask hk hj
  cases b with
  | true =>
    simp only [maskByte, if_true, UInt8.toBitVec_or, BitVec.getLsbD_or, hm]
    by_cases h : j = k <;> simp [h]
  | false =>
    simp only [maskByte, Bool.false_eq_true, if_false, UInt8.toBitVec_and, UInt8.toBitVec_not,
      BitVec.getLsbD_and, BitVec.getLsbD_not, hm]
    by_cases h : j = k <;> simp [h, hj]

@[simp] theorem length_putBit : (putBit frame p b).length = frame.length :=
  List.length_modify ..

theorem bitAt_putBit_self (hp : p < 8 * frame.length) : bitAt (putBit frame p b) p = b := by
  have hlt : p / 8 < frame.length := by omega
  have hm := Nat.mod_lt p (show 0 < 8 by decide)
  simp [bitAt, putBit, hlt, testBit_maskByte hm hm]

theorem bitAt_putBit_of_ne (h : q ≠ p) : bitAt (putBit frame p b) q = bitAt frame q := by
  unfold bitAt putBit
  by_cases hb : p / 8 = q / 8
  · have hr : q % 8 ≠ p % 8 := by omega
    rw [hb, List.getElem?_modify_eq]
    cases frame[q / 8]? with
    | none => rfl
    | some byte =>
      exact (testBit_maskByte (Nat.mod_lt p (by decide)) (Nat.mod_lt q (by decide))).trans
        (if_neg hr)
  · rw [List.getElem?_modify_ne _ _ hb]

@[simp] theorem putBits_cons {x : ℕ × Bool} :
    putBits frame (x :: bits) = putBits (putBit frame x.1 x.2) bits := rfl

theorem putBits_append {bits' : List (ℕ × Bool)} :
    putBits frame (bits ++ bits') = putBits (putBits frame bits) bits' :=
  List.foldl_append

@[simp] theorem length_putBits : (putBits frame bits).length = frame.length := by
  induction bits generalizing frame with
  | nil => rfl
  | cons x bits ih => rw [putBits_cons, ih, length_putBit]

/-- A bit that is not written stays. -/
theorem bitAt_putBits_of_notMem (h : q ∉ bits.map Prod.fst) :
    bitAt (putBits frame bits) q = bitAt frame q := by
  induction bits generalizing frame with
  | nil => rfl
  | cons x bits ih =>
    rw [List.map_cons, List.mem_cons, not_or] at h
    obtain ⟨hx, hbits⟩ := h
    rw [putBits_cons, ih hbits, bitAt_putBit_of_ne hx]

/-- Where no position is written twice, every bit that was written is there. -/
theorem bitAt_putBits_of_mem (hnd : (bits.map Prod.fst).Nodup) (hp : p < 8 * frame.length)
    (h : (p, b) ∈ bits) : bitAt (putBits frame bits) p = b := by
  induction bits generalizing frame with
  | nil => cases h
  | cons x bits ih =>
    obtain ⟨hx, hbits⟩ := List.nodup_cons.mp hnd
    rw [putBits_cons]
    rcases List.mem_cons.mp h with rfl | h
    · rw [bitAt_putBits_of_notMem hx, bitAt_putBit_self hp]
    · exact ih hbits (by rwa [length_putBit]) h

end Store

end VehicleSpy.Text
