import VehicleSpy.Dbc.BitCodec

/-! # The unchecked reads of the signal extractor

The extractor compares the last bit of a signal with the size of the frame and then reads its bits
without a check. Both compute positions in `size_t`.
-/

namespace VehicleSpy.Dbc

open Text

/-- A frame has as many bits as `size_t` can count. -/
structure Frame where
  bytes : Bytes
  bits_lt : bytes.length * 8 < 2 ^ 64 := by decide

namespace CANDecoder

section Definitions

variable {D : Type} [Double D] (frame : Frame) (startBit bitLength : UInt64)

/-- `none` if a byte is read that the frame does not have; then `nullopt` or the value. -/
def extractSignal (scale offset : D) (isSigned : Bool) : Option (Option D) :=
  if bitLength = 0 ∨ 64 < bitLength then some none
  else if (frame.bytes.length * 8).toUInt64 ≤ startBit + bitLength - 1 then some none
  else
    (extractRawBits frame.bytes startBit.toNat bitLength.toNat).map fun raw =>
      let number : ℤ := if isSigned then toSigned raw bitLength.toNat else raw
      some (Double.ofInt number * scale + offset)

/-- One to 64 bits, all of them in the frame. -/
def InFrame : Prop :=
  1 ≤ bitLength.toNat ∧ bitLength.toNat ≤ 64 ∧
    ∀ i < bitLength.toNat, startBit.toNat + i < frame.bytes.length * 8

/-- No read leaves the frame, and there is a value for a signal in the frame and for no other. -/
structure Guarded (scale offset : D) (isSigned : Bool) : Prop where
  reads : extractSignal frame startBit bitLength scale offset isSigned ≠ none
  value : (∃ x, extractSignal frame startBit bitLength scale offset isSigned = some (some x)) ↔
    InFrame frame startBit bitLength

/-- The last bit of one to 64 does not wrap around to a bit of the frame. -/
def NoWrap : Prop :=
  1 ≤ bitLength.toNat → bitLength.toNat ≤ 64 →
    startBit.toNat + bitLength.toNat ≤ 2 ^ 64 ∨
      2 ^ 64 + frame.bytes.length * 8 < startBit.toNat + bitLength.toNat

end Definitions

section Reads

variable {frame : Bytes} {startBit bitLength : ℕ}

/-- There is a raw value if every byte that the loop reads is there. -/
theorem isSome_extractRawBits :
    (extractRawBits frame startBit bitLength).isSome ↔
      ∀ i < bitLength, (startBit + i) % 2 ^ 64 / 8 < frame.length := by
  have hfold : ∀ (is : List ℕ) (result : ℕ), ((is.foldlM (fun result i =>
      (frame[(startBit + i) % 2 ^ 64 / 8]?).map fun byte =>
        if byte.toNat.testBit ((startBit + i) % 2 ^ 64 % 8) then result ||| 1 <<< i
        else result) result).isSome ↔
        ∀ i ∈ is, (startBit + i) % 2 ^ 64 / 8 < frame.length) := by
    intro is
    induction is with
    | nil => exact fun _ => iff_of_true rfl (List.forall_mem_nil _)
    | cons i is ih =>
      intro result
      rw [List.foldlM_cons, List.forall_mem_cons]
      by_cases hi : (startBit + i) % 2 ^ 64 / 8 < frame.length
      · rw [List.getElem?_eq_getElem hi]
        exact (ih _).trans (and_iff_right hi).symm
      · rw [List.getElem?_eq_none (not_lt.mp hi)]
        exact iff_of_false Bool.false_ne_true fun h => hi h.1
  exact (hfold _ 0).trans (by simp)

end Reads

section Check

variable {D : Type} [Double D] {frame : Frame} {startBit bitLength : UInt64} {scale offset : D}
  {isSigned : Bool}

theorem inFrame_iff (hpos : 1 ≤ bitLength.toNat) (hle : bitLength.toNat ≤ 64) :
    InFrame frame startBit bitLength ↔
      startBit.toNat + bitLength.toNat ≤ frame.bytes.length * 8 := by
  constructor
  · rintro ⟨-, -, h⟩
    have := h (bitLength.toNat - 1) (by omega)
    omega
  · intro h
    exact ⟨hpos, hle, fun i hi => by omega⟩

theorem length_check_iff :
    bitLength = 0 ∨ 64 < bitLength ↔ ¬ (1 ≤ bitLength.toNat ∧ bitLength.toNat ≤ 64) := by
  rw [UInt64.lt_iff_toNat_lt, ← UInt64.toNat_inj]
  change bitLength.toNat = 0 ∨ 64 < bitLength.toNat ↔ _
  omega

theorem extractSignal_of_length (h : ¬ (1 ≤ bitLength.toNat ∧ bitLength.toNat ≤ 64)) :
    extractSignal frame startBit bitLength scale offset isSigned = some none :=
  if_pos (length_check_iff.mpr h)

/-- The check, and what follows it. -/
theorem extractSignal_eq (hpos : 1 ≤ bitLength.toNat) (hle : bitLength.toNat ≤ 64) :
    extractSignal frame startBit bitLength scale offset isSigned =
      if frame.bytes.length * 8 ≤ (startBit.toNat + bitLength.toNat - 1) % 2 ^ 64 then some none
      else
        (extractRawBits frame.bytes startBit.toNat bitLength.toNat).map fun raw =>
          let number : ℤ := if isSigned then toSigned raw bitLength.toNat else raw
          some (Double.ofInt number * scale + offset) := by
  have hlength : ¬ (bitLength = 0 ∨ 64 < bitLength) :=
    fun h => length_check_iff.mp h ⟨hpos, hle⟩
  have hsize : (frame.bytes.length * 8).toUInt64.toNat = frame.bytes.length * 8 :=
    Nat.mod_eq_of_lt frame.bits_lt
  have hlast : (startBit + bitLength - 1).toNat =
      (startBit.toNat + bitLength.toNat - 1) % 2 ^ 64 := by
    rw [UInt64.toNat_sub, UInt64.toNat_add]
    change (2 ^ 64 - 1 + _) % 2 ^ 64 = _
    omega
  rw [extractSignal, if_neg hlength]
  exact if_congr (by rw [UInt64.le_iff_toNat_le, hsize, hlast]) rfl rfl

theorem guarded_of_rejected
    (h : extractSignal frame startBit bitLength scale offset isSigned = some none)
    (hout : ¬ InFrame frame startBit bitLength) :
    Guarded frame startBit bitLength scale offset isSigned := by
  constructor
  · rw [h]
    exact Option.some_ne_none _
  · rw [h]
    refine iff_of_false ?_ hout
    rintro ⟨x, hx⟩
    cases hx

variable (scale offset isSigned)

/-- Where the last bit does not wrap around, the check is the right one. -/
theorem guarded_of_le (hpos : 1 ≤ bitLength.toNat) (hle : bitLength.toNat ≤ 64)
    (h : startBit.toNat + bitLength.toNat ≤ 2 ^ 64) :
    Guarded frame startBit bitLength scale offset isSigned := by
  have hmod : (startBit.toNat + bitLength.toNat - 1) % 2 ^ 64 =
      startBit.toNat + bitLength.toNat - 1 := Nat.mod_eq_of_lt (by omega)
  have heq : extractSignal frame startBit bitLength scale offset isSigned = _ :=
    extractSignal_eq hpos hle
  rw [hmod] at heq
  split at heq
  · next hout =>
    exact guarded_of_rejected heq fun hin => by
      have := (inFrame_iff hpos hle).mp hin
      omega
  · next hin =>
    have hread : (extractRawBits frame.bytes startBit.toNat bitLength.toNat).isSome := by
      refine isSome_extractRawBits.mpr fun i hi => ?_
      rw [Nat.mod_eq_of_lt (by omega)]
      omega
    obtain ⟨raw, hraw⟩ := Option.isSome_iff_exists.mp hread
    rw [hraw] at heq
    constructor
    · rw [heq]
      exact Option.some_ne_none _
    · refine iff_of_true ⟨_, heq⟩ ((inFrame_iff hpos hle).mpr (by omega))

/-- Where the last bit wraps around to a bit of the frame, the read of the highest position leaves
the frame. -/
theorem extractSignal_eq_none (hpos : 1 ≤ bitLength.toNat) (hle : bitLength.toNat ≤ 64)
    (h : 2 ^ 64 < startBit.toNat + bitLength.toNat)
    (hlast : startBit.toNat + bitLength.toNat ≤ 2 ^ 64 + frame.bytes.length * 8) :
    extractSignal frame startBit bitLength scale offset isSigned = none := by
  have hbits := frame.bits_lt
  have hstart := startBit.toNat_lt
  have hread : ¬ (extractRawBits frame.bytes startBit.toNat bitLength.toNat).isSome := by
    intro hread
    have htop := isSome_extractRawBits.mp hread (2 ^ 64 - 1 - startBit.toNat) (by omega)
    rw [Nat.mod_eq_of_lt (by omega)] at htop
    omega
  rw [extractSignal_eq hpos hle, if_neg (by omega), Option.not_isSome_iff_eq_none.mp hread]
  rfl

theorem guarded_iff (frame : Frame) (startBit bitLength : UInt64) :
    Guarded frame startBit bitLength scale offset isSigned ↔ NoWrap frame startBit bitLength := by
  by_cases hlength : 1 ≤ bitLength.toNat ∧ bitLength.toNat ≤ 64
  · obtain ⟨hpos, hle⟩ := hlength
    rcases Nat.lt_or_ge (2 ^ 64) (startBit.toNat + bitLength.toNat) with hwrap | hwrap
    · rcases Nat.lt_or_ge (2 ^ 64 + frame.bytes.length * 8) (startBit.toNat + bitLength.toNat)
        with hlast | hlast
      · refine iff_of_true (guarded_of_rejected ?_ fun hin => ?_) fun _ _ => .inr hlast
        · have hstart := startBit.toNat_lt
          rw [extractSignal_eq hpos hle, if_pos (by omega)]
        · have hin := (inFrame_iff hpos hle).mp hin
          have hbits := frame.bits_lt
          omega
      · refine iff_of_false (fun hguarded => hguarded.reads ?_) fun hno => ?_
        · exact extractSignal_eq_none scale offset isSigned hpos hle hwrap hlast
        · have := hno hpos hle
          omega
    · exact iff_of_true (guarded_of_le scale offset isSigned hpos hle hwrap)
        fun _ _ => .inl hwrap
  · refine iff_of_true (guarded_of_rejected (extractSignal_of_length hlength) fun hin => ?_)
      fun hpos hle => absurd ⟨hpos, hle⟩ hlength
    exact hlength ⟨hin.1, hin.2.1⟩

/-- Two bits from the last position of `size_t` pass the check of a classic frame. -/
theorem wrapped_signal_leaves_frame :
    ¬ Guarded ⟨[0, 0, 0, 0, 0, 0, 0, 0], by decide⟩ 18446744073709551615 2 (1 : ℚ) 0 false :=
  fun h => h.reads (by decide +kernel)

end Check

end CANDecoder

end VehicleSpy.Dbc
