import VehicleSpy.Dbc.BitCodec

/-! # Signals inside and outside of the frame

The bounds test computes the position behind a signal as if it counted upwards from the start bit,
whatever its byte order and its length. It is compared here with the positions that the byte order
assigns.
-/

namespace VehicleSpy.Dbc

open Text

namespace DBCSignalMapper

open SignalPlace (turn turn_turn)

/-- A step of the sawtooth walk: down in a byte, and from its lowest bit to the top of the next. -/
def sawtooth (p : ℕ) : ℕ := if p % 8 = 0 then p + 15 else p - 1

/-- The positions of a signal in the order of the walk. -/
def assigned (byteOrder : DBCByteOrder) (startBit i : ℕ) : ℕ :=
  match byteOrder with
  | .Intel => startBit + i
  | .Motorola => sawtooth^[i] startBit

section Definitions

variable {D : Type} (frame : Bytes) (definition : DBCSignalDefinition D)

/-- One to 64 bits, each at a position in a byte that the frame has. -/
def Inside : Prop :=
  1 ≤ definition.bitLength ∧ definition.bitLength ≤ 64 ∧
    ∀ i < definition.bitLength,
      assigned definition.byteOrder definition.startBit i / 8 < frame.length

/-- The start bit in the numbering in which the walk counts upwards. -/
def firstBit : ℕ :=
  match definition.byteOrder with
  | .Intel => definition.startBit
  | .Motorola => turn definition.startBit

/-- The last bit as `size_t` has it. -/
def lastBit : ℕ := (definition.startBit + definition.bitLength + (2 ^ 64 - 1)) % 2 ^ 64

/-- Where the bounds test decides as it should. -/
structure Decided : Prop where
  /-- No bits or too many, counted up to a position outside of the frame. -/
  length : definition.bitLength = 0 ∨ 64 < definition.bitLength →
    8 * frame.length ≤ lastBit definition
  /-- The frame does not end between the two positions that the byte orders give for the end. -/
  order : 1 ≤ definition.bitLength → definition.bitLength ≤ 64 →
    definition.startBit + definition.bitLength ≤ 2 ^ 64 →
    8 * frame.length < min definition.startBit (firstBit definition) + definition.bitLength ∨
      max definition.startBit (firstBit definition) + definition.bitLength ≤ 8 * frame.length
  /-- The position behind the signal does not wrap around to one in the frame. -/
  wrap : 1 ≤ definition.bitLength → definition.bitLength ≤ 64 →
    2 ^ 64 < definition.startBit + definition.bitLength →
    8 * frame.length ≤ lastBit definition ∨
      firstBit definition + definition.bitLength ≤ 8 * frame.length

end Definitions

section Walk

theorem turn_div (p : ℕ) : turn p / 8 = p / 8 := by
  unfold turn
  omega

theorem sawtooth_eq (p : ℕ) : sawtooth p = turn (turn p + 1) := by
  unfold sawtooth turn
  split <;> omega

/-- In the turned numbering the walk counts upwards. -/
theorem iterate_sawtooth (p i : ℕ) : sawtooth^[i] p = turn (turn p + i) := by
  induction i with
  | zero => rw [Function.iterate_zero_apply, Nat.add_zero, turn_turn]
  | succ i ih => rw [Function.iterate_succ_apply', ih, sawtooth_eq, turn_turn, Nat.add_assoc]

end Walk

section Bounds

variable {D : Type} {frame : Bytes} {definition : DBCSignalDefinition D}

theorem assigned_div (definition : DBCSignalDefinition D) (i : ℕ) :
    assigned definition.byteOrder definition.startBit i / 8 = (firstBit definition + i) / 8 := by
  unfold assigned firstBit
  cases definition.byteOrder with
  | Intel => rfl
  | Motorola =>
    dsimp only
    rw [iterate_sawtooth, turn_div]

/-- A signal lies in the frame just when its last byte does. -/
theorem inside_iff : Inside frame definition ↔
    1 ≤ definition.bitLength ∧ definition.bitLength ≤ 64 ∧
      firstBit definition + definition.bitLength ≤ 8 * frame.length := by
  refine and_congr_right fun hpos => and_congr_right fun _ => ?_
  simp only [assigned_div]
  constructor
  · intro h
    have hlast := h (definition.bitLength - 1) (by omega)
    omega
  · rintro h i hi
    omega

theorem firstBit_div (definition : DBCSignalDefinition D) :
    firstBit definition / 8 = definition.startBit / 8 := by
  unfold firstBit
  cases definition.byteOrder with
  | Intel => rfl
  | Motorola => exact turn_div _

theorem isSome_mapSignal [Double D] :
    (mapSignal frame definition).isSome = true ↔ lastBit definition < 8 * frame.length := by
  unfold mapSignal lastBit
  split
  · next h => simp only [Option.isSome_none, Bool.false_eq_true, false_iff]; omega
  · next h => simp only [Option.isSome_some, true_iff]; omega

/-- A signal is decoded just when it lies inside the frame, where the bounds test decides so. -/
theorem mapSignal_decides_iff [Double D] (frame : Bytes) (definition : DBCSignalDefinition D) :
    ((mapSignal frame definition).isSome = true ↔ Inside frame definition) ↔
      Decided frame definition := by
  have hdiv := firstBit_div definition
  rw [isSome_mapSignal, inside_iff]
  have hlast : lastBit definition =
      (definition.startBit + definition.bitLength + (2 ^ 64 - 1)) % 2 ^ 64 := rfl
  constructor
  · intro h
    refine ⟨?_, ?_, ?_⟩
    · intro hlen
      by_contra hlt
      have := h.mp (by omega)
      omega
    · rintro hpos hle hfit
      have hexact : lastBit definition + 1 = definition.startBit + definition.bitLength := by
        omega
      by_cases hin : firstBit definition + definition.bitLength ≤ 8 * frame.length
      · have := h.mpr ⟨hpos, hle, hin⟩
        omega
      · have : ¬ lastBit definition < 8 * frame.length := fun hlt => hin (h.mp hlt).2.2
        omega
    · rintro hpos hle _
      by_cases hlt : lastBit definition < 8 * frame.length
      · exact Or.inr (h.mp hlt).2.2
      · exact Or.inl (not_lt.mp hlt)
  · intro h
    by_cases hlen : 1 ≤ definition.bitLength ∧ definition.bitLength ≤ 64
    · obtain ⟨hpos, hle⟩ := hlen
      rw [and_iff_right hpos, and_iff_right hle]
      rcases le_or_gt (definition.startBit + definition.bitLength) (2 ^ 64) with hfit | hwrap
      · have horder := h.order hpos hle hfit
        omega
      · have houtside := h.wrap hpos hle hwrap
        omega
    · have houtside := h.length (by omega)
      constructor
      · intro hlt
        exact absurd hlt (not_lt.mpr houtside)
      · rintro ⟨hpos, hle, _⟩
        exact absurd ⟨hpos, hle⟩ hlen

/-- For Intel signals of one to 64 bits below the end of `size_t` the test is right. -/
theorem decided_intel (horder : definition.byteOrder = .Intel) (hpos : 1 ≤ definition.bitLength)
    (hle : definition.bitLength ≤ 64)
    (hfit : definition.startBit + definition.bitLength ≤ 2 ^ 64) : Decided frame definition := by
  have hfirst : firstBit definition = definition.startBit := by
    rw [firstBit, horder]
  refine ⟨fun h => ?_, fun _ _ _ => ?_, fun _ _ h => ?_⟩
  · omega
  · rw [hfirst]
    omega
  · omega

/-- A definition that matters only by its place. -/
def placed (byteOrder : DBCByteOrder) (startBit bitLength : ℕ) : DBCSignalDefinition ℚ where
  canId := 0x108
  name := []
  startBit := startBit
  bitLength := bitLength
  byteOrder := byteOrder
  scale := 1
  offset := 0
  isSigned := false
  unit := []
  min := 0
  max := 255
  valueTable := []

/-- The first byte of a frame is not decoded as a Motorola signal, one that runs out of the frame
is, and so are no bits and 65. -/
theorem mapSignal_misjudges :
    ¬ ((mapSignal [0xAB] (placed .Motorola 7 8)).isSome = true ↔
      Inside [0xAB] (placed .Motorola 7 8)) ∧
    ¬ ((mapSignal [0xAB] (placed .Motorola 0 8)).isSome = true ↔
      Inside [0xAB] (placed .Motorola 0 8)) ∧
    ¬ ((mapSignal [0xAB] (placed .Intel 1 0)).isSome = true ↔ Inside [0xAB] (placed .Intel 1 0)) ∧
    ¬ ((mapSignal (List.replicate 16 0xAB) (placed .Intel 0 65)).isSome = true ↔
      Inside (List.replicate 16 0xAB) (placed .Intel 0 65)) := by
  simp only [isSome_mapSignal, inside_iff]
  decide

end Bounds

end DBCSignalMapper

end VehicleSpy.Dbc
