import VehicleSpy.Dbc.FrameBounds

/-! # The range of a physical value

A decoded value is clamped to the range of its definition, whatever that is: the pair of zeros that
stands for no range is a range of one value, and the order of the bounds is not looked at.
-/

namespace VehicleSpy.Dbc

open Text

namespace DBCSignalMapper

section Definitions

variable (L : SignalPlace) (frame : Bytes) (definition : DBCSignalDefinition ℚ)

/-- The number that the bits of a signal denote. -/
def rawBits : ℕ := Nat.ofBits fun i : Fin L.bitLength => Text.bitAt frame (L.position i)

/-- The bits read as unsigned or as two's complement. -/
def rawNumber : ℤ :=
  if definition.isSigned = true ∧ 2 ^ (L.bitLength - 1) ≤ rawBits L frame then
    rawBits L frame - 2 ^ L.bitLength
  else rawBits L frame

/-- The scaled value. -/
def physical : ℚ := rawNumber L frame definition * definition.scale + definition.offset

/-- The pair of zeros stands for no range. -/
def Unlimited : Prop := definition.min = 0 ∧ definition.max = 0

/-- What decoding should make of the scaled value. -/
structure ScaledToRange : Prop where
  within : Unlimited definition ∨
      definition.min ≤ physical L frame definition ∧ physical L frame definition ≤ definition.max →
    mapSignal frame definition = some (physical L frame definition)
  below : definition.min < definition.max → physical L frame definition < definition.min →
    mapSignal frame definition = some definition.min
  above : definition.min < definition.max → definition.max < physical L frame definition →
    mapSignal frame definition = some definition.max
  /-- Every value comes out of a clamp, and its bounds are in order. -/
  ordered : (mapSignal frame definition).isSome = true → definition.min ≤ definition.max

/-- The bounds are in order, and without a range the value is zero. Where the bounds test fails, no
value may be asked for: the bounds are swapped, or they are one bound other than zero that the
value misses. -/
def RangeFits : Prop :=
  if lastBit definition < 8 * frame.length then
    definition.min ≤ definition.max ∧ (Unlimited definition → physical L frame definition = 0)
  else
    definition.max < definition.min ∨
      definition.min = definition.max ∧ definition.min ≠ 0 ∧
        physical L frame definition ≠ definition.min

end Definitions

section Values

variable {L : SignalPlace} {frame : Bytes} {definition : DBCSignalDefinition ℚ}

theorem carries_rawBits (L : SignalPlace) (frame : Bytes) : L.Carries (rawBits L frame) frame := by
  intro i hi
  rw [rawBits, Nat.testBit_ofBits_lt _ i hi]

theorem rawBits_lt (L : SignalPlace) (frame : Bytes) : rawBits L frame < 2 ^ L.bitLength :=
  Nat.ofBits_lt_two_pow _

theorem toSigned_rawBits (L : SignalPlace) (frame : Bytes) :
    CANDecoder.toSigned (rawBits L frame) L.bitLength =
      if 2 ^ (L.bitLength - 1) ≤ rawBits L frame then (rawBits L frame : ℤ) - 2 ^ L.bitLength
      else rawBits L frame := by
  have hpos := L.bitLength_pos
  obtain ⟨m, hm⟩ : ∃ m, L.bitLength = m + 1 := ⟨L.bitLength - 1, by omega⟩
  have hle := L.bitLength_le
  have hlt := rawBits_lt L frame
  rw [hm] at hle hlt ⊢
  rw [SignalPlace.toSigned_eq hle hlt, Nat.add_sub_cancel]
  by_cases h : rawBits L frame < 2 ^ m
  · rw [if_pos h, if_neg (not_le.mpr h)]
  · rw [if_neg h, if_pos (not_lt.mp h)]

/-- A signal is scaled exactly and then clamped. -/
theorem mapSignal_eq (hd : L.Of definition) :
    mapSignal frame definition =
      if lastBit definition < 8 * frame.length then
        some (clamp (physical L frame definition) definition.min definition.max)
      else none := by
  have hraw := SignalPlace.extractRawBits_of_carries hd (rawBits_lt L frame)
    (carries_rawBits L frame)
  have hnumber : (if definition.isSigned = true then
      CANDecoder.toSigned (rawBits L frame) definition.bitLength else (rawBits L frame : ℤ)) =
      rawNumber L frame definition := by
    rw [hd.bitLength, toSigned_rawBits, rawNumber]
    by_cases hs : definition.isSigned = true <;> simp [hs]
  have hvalue : applyScaleOffsetClamp definition (rawBits L frame) =
      clamp (physical L frame definition) definition.min definition.max := by
    unfold applyScaleOffsetClamp physical
    rw [hnumber]
    rfl
  by_cases htest : lastBit definition < 8 * frame.length
  · rw [if_pos htest, mapSignal, if_neg (by unfold lastBit at htest; omega), hraw, hvalue]
  · rw [if_neg htest, mapSignal, if_pos (by unfold lastBit at htest; omega)]

theorem clamp_of_mem {v lo hi : ℚ} (hlo : lo ≤ v) (hhi : v ≤ hi) : clamp v lo hi = v := by
  simp [clamp, Double.lt, not_lt.mpr hlo, not_lt.mpr hhi]

theorem clamp_of_lt {v lo hi : ℚ} (h : v < lo) : clamp v lo hi = lo := by
  simp [clamp, Double.lt, h]

theorem clamp_of_gt {v lo hi : ℚ} (hlo : lo ≤ v) (h : hi < v) : clamp v lo hi = hi := by
  simp [clamp, Double.lt, not_lt.mpr hlo, h]

/-- A clamped value is as it should be where the bounds are in order and do not make up a value. -/
theorem scaledToRange_clamped (heq : mapSignal frame definition =
      some (clamp (physical L frame definition) definition.min definition.max)) :
    ScaledToRange L frame definition ↔ definition.min ≤ definition.max ∧
      (Unlimited definition → physical L frame definition = 0) := by
  constructor
  · rintro ⟨hwithin, -, -, hordered⟩
    refine ⟨hordered (by rw [heq]; rfl), fun hnone => ?_⟩
    have hclamp := heq.symm.trans (hwithin (Or.inl hnone))
    rw [Option.some.injEq, hnone.1, hnone.2] at hclamp
    by_contra hne
    rcases lt_or_gt_of_ne hne with hneg | hpos
    · exact hne (hclamp.symm.trans (clamp_of_lt hneg))
    · exact hne (hclamp.symm.trans (clamp_of_gt hpos.le hpos))
  · rintro ⟨hordered, hzero⟩
    refine ⟨?_, ?_, ?_, fun _ => hordered⟩
    · rintro (hnone | ⟨hlo, hhi⟩)
      · rw [heq, hzero hnone, hnone.1, hnone.2, clamp_of_mem le_rfl le_rfl]
      · rw [heq, clamp_of_mem hlo hhi]
    · intro _ hlt
      rw [heq, clamp_of_lt hlt]
    · intro hrange hgt
      rw [heq, clamp_of_gt (hrange.trans hgt).le hgt]

/-- Without a value nothing may ask for one. -/
theorem scaledToRange_none (heq : mapSignal frame definition = none) :
    ScaledToRange L frame definition ↔ definition.max < definition.min ∨
      definition.min = definition.max ∧ definition.min ≠ 0 ∧
        physical L frame definition ≠ definition.min := by
  constructor
  · rintro ⟨hwithin, hbelow, habove, -⟩
    simp only [heq, reduceCtorEq, imp_false] at hwithin hbelow habove
    rw [not_or, not_and] at hwithin
    obtain ⟨hlimited, hmiss⟩ := hwithin
    rcases lt_trichotomy definition.min definition.max with hlt | he | hgt
    · have hlo := not_lt.mp (hbelow hlt)
      exact absurd (not_lt.mp (habove hlt)) (hmiss hlo)
    · refine Or.inr ⟨he, fun hz => hlimited ⟨hz, he ▸ hz⟩, fun hp => ?_⟩
      exact hmiss hp.ge (hp.trans he).le
    · exact Or.inl hgt
  · intro h
    have hnone : ¬ (Unlimited definition ∨ definition.min ≤ physical L frame definition ∧
        physical L frame definition ≤ definition.max) := by
      rintro (⟨hmin, hmax⟩ | ⟨hlo, hhi⟩)
      · rcases h with hgt | ⟨-, hne, -⟩
        · rw [hmin, hmax] at hgt
          exact lt_irrefl _ hgt
        · exact hne hmin
      · rcases h with hgt | ⟨he, -, hp⟩
        · exact absurd (hlo.trans hhi) (not_le.mpr hgt)
        · exact hp (le_antisymm (hhi.trans he.ge) hlo)
    have hnarrow : ¬ definition.min < definition.max := by
      rcases h with hgt | ⟨he, -⟩
      · exact hgt.asymm
      · exact he.not_lt
    refine ⟨fun h => absurd h hnone, fun h => absurd h hnarrow, fun h => absurd h hnarrow, ?_⟩
    rw [heq]
    intro h
    cases h

/-- A value of a signal is scaled and clamped as it should be just when its range fits. -/
theorem scaledToRange_iff (hd : L.Of definition) :
    ScaledToRange L frame definition ↔ RangeFits L frame definition := by
  unfold RangeFits
  split
  · next htest =>
    apply scaledToRange_clamped
    rw [mapSignal_eq hd, if_pos htest]
  · next htest =>
    apply scaledToRange_none
    rw [mapSignal_eq hd, if_neg htest]

/-- Eight bits in the first byte. -/
def firstByte : SignalPlace := ⟨.Intel, 0, 8, by decide, by decide, by decide⟩

/-- A byte with the range of a byte fits. -/
theorem scaledToRange_placed :
    firstByte.Of (placed .Intel 0 8) ∧
      ScaledToRange firstByte [0xAB] (placed .Intel 0 8) := by
  have hd : firstByte.Of (placed .Intel 0 8) := ⟨rfl, rfl, rfl⟩
  have hfits : RangeFits firstByte [0xAB] (placed .Intel 0 8) := by
    have htest : lastBit (placed .Intel 0 8) < 8 * [(0xAB : Byte)].length := by decide
    rw [RangeFits, if_pos htest]
    refine ⟨by norm_num [placed], fun h => ?_⟩
    exact absurd h.2 (by norm_num [placed])
  exact ⟨hd, (scaledToRange_iff hd).mpr hfits⟩

/-- Without a range every value reads as zero. -/
theorem not_scaledToRange :
    ¬ ∀ (L : SignalPlace) frame definition, L.Of definition → L.Fits frame →
      ScaledToRange L frame definition := by
  intro h
  have hfit : firstByte.Fits [0xAB] := by
    unfold SignalPlace.Fits
    decide
  have hvalue : mapSignal [0xAB] { placed .Intel 0 8 with max := 0 } = some 0 := by
    decide +kernel
  have hscaled := h firstByte [0xAB] { placed .Intel 0 8 with max := 0 } ⟨rfl, rfl, rfl⟩ hfit
  have hwithin := hscaled.within (Or.inl ⟨rfl, rfl⟩)
  rw [hvalue] at hwithin
  revert hwithin
  decide +kernel

end Values

end DBCSignalMapper

end VehicleSpy.Dbc
