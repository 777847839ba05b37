import VehicleSpy.Text.Bits
import VehicleSpy.Dbc.SignalMapper

/-! # Writing a signal and reading it back

A byte order assigns a position in the frame to each bit of a signal: Intel counts upwards
from the start bit, Motorola walks down from it in the sawtooth of the DBC numbering. The
positions are distinct, so a value that is written there is what both extractors read.
Positions are of type `size_t`.
-/

namespace VehicleSpy.Dbc

open Text

namespace CANDecoder

/-- The frame is indexed without a check, so there is no result outside of it. -/
def extractRawBits (frame : Bytes) (startBit bitLength : ℕ) : Option ℕ :=
  (List.range bitLength).foldlM (fun result i =>
    let bitPos := (startBit + i) % 2 ^ 64
    (frame[bitPos / 8]?).map fun byte =>
      if byte.toNat.testBit (bitPos % 8) then result ||| 1 <<< i else result) 0

end CANDecoder

namespace DemoTransport

/-- The demo's encoder, on eight bytes; the check of the byte index comes after the access. -/
def packBits (data : Bytes) (startBit bits value : ℕ) : Option Bytes :=
  (List.range bits).foldlM (fun data i =>
    let bitIndex := (startBit + i) % 2 ^ 32
    let byteIdx := bitIndex / 8
    let mask : Byte := 1 <<< UInt8.ofNat (bitIndex % 8)
    (data[byteIdx]?).map fun byte =>
      data.set byteIdx (if value.testBit i then byte ||| mask else byte &&& ~~~mask)) data

end DemoTransport

/-- The place of a signal in a frame: its byte order, its start bit and one to 64 bits. -/
structure SignalPlace where
  byteOrder : DBCByteOrder
  startBit : ℕ
  bitLength : ℕ
  startBit_lt : startBit < 2 ^ 64
  bitLength_pos : 0 < bitLength
  bitLength_le : bitLength ≤ 64

namespace SignalPlace

open DBCSignalMapper (nextBit setBit)

section Definitions

variable (L : SignalPlace)

/-- The position of a bit of the value, the lowest bit being bit zero: Intel counts up from the
start bit, Motorola steps down to it from the highest bit, which is at the start bit. -/
def position (i : ℕ) : ℕ :=
  match L.byteOrder with
  | .Intel => (L.startBit + i) % 2 ^ 64
  | .Motorola => nextBit^[L.bitLength - 1 - i] L.startBit

/-- Every position of the signal lies in the frame. -/
def Fits (frame : Bytes) : Prop := ∀ i < L.bitLength, L.position i < 8 * frame.length

/-- The bits of a value stand at the positions of the signal. -/
def Carries (v : ℕ) (frame : Bytes) : Prop :=
  ∀ i < L.bitLength, bitAt frame (L.position i) = v.testBit i

/-- A frame that carries the value and is like another one outside of the signal. -/
structure Writes (v : ℕ) (frame frame' : Bytes) : Prop where
  length : frame'.length = frame.length
  carries : L.Carries v frame'
  others : ∀ p, (∀ i < L.bitLength, p ≠ L.position i) → bitAt frame' p = bitAt frame p

/-- Write the bits of a value at the positions of the signal. -/
def write (v : ℕ) (frame : Bytes) : Bytes :=
  putBits frame ((List.range L.bitLength).map fun i => (L.position i, v.testBit i))

/-- The definition places its signal there. -/
structure Of {D : Type} (definition : DBCSignalDefinition D) : Prop where
  byteOrder : definition.byteOrder = L.byteOrder
  startBit : definition.startBit = L.startBit
  bitLength : definition.bitLength = L.bitLength

end Definitions

section Positions

variable {L : SignalPlace} {p q i j : ℕ}

/-- The Motorola numbering read as one that counts upwards: each byte turned round. -/
def turn (p : ℕ) : ℕ := p + 7 - 2 * (p % 8)

theorem turn_lt (hp : p < 2 ^ 64) : turn p < 2 ^ 64 := by
  unfold turn
  omega

theorem turn_turn (p : ℕ) : turn (turn p) = p := by
  unfold turn
  omega

/-- In the turned numbering a step of the walk is a step upwards. -/
theorem nextBit_eq (hp : p < 2 ^ 64) : nextBit p = turn ((turn p + 1) % 2 ^ 64) := by
  unfold nextBit turn
  split <;> omega

theorem iterate_nextBit (hp : p < 2 ^ 64) (j : ℕ) :
    nextBit^[j] p = turn ((turn p + j) % 2 ^ 64) := by
  induction j with
  | zero => rw [Function.iterate_zero_apply, Nat.add_zero, Nat.mod_eq_of_lt (turn_lt hp), turn_turn]
  | succ j ih =>
    have hlt : turn ((turn p + j) % 2 ^ 64) < 2 ^ 64 := turn_lt (Nat.mod_lt _ (by decide))
    rw [Function.iterate_succ_apply', ih, nextBit_eq hlt, turn_turn, Nat.mod_add_mod, Nat.add_assoc]

theorem position_intel (ho : L.byteOrder = .Intel) (i : ℕ) :
    L.position i = (L.startBit + i) % 2 ^ 64 := by
  rw [position, ho]

theorem position_motorola (ho : L.byteOrder = .Motorola) (i : ℕ) :
    L.position i = nextBit^[L.bitLength - 1 - i] L.startBit := by
  rw [position, ho]

/-- No position is assigned twice. -/
theorem position_inj (hi : i < L.bitLength) (hj : j < L.bitLength)
    (h : L.position i = L.position j) : i = j := by
  have hle := L.bitLength_le
  cases ho : L.byteOrder with
  | Intel =>
    rw [position_intel ho, position_intel ho] at h
    omega
  | Motorola =>
    rw [position_motorola ho, position_motorola ho, iterate_nextBit L.startBit_lt,
      iterate_nextBit L.startBit_lt] at h
    have hturn := congrArg turn h
    rw [turn_turn, turn_turn] at hturn
    omega

end Positions

section Write

variable {L : SignalPlace} {frame : Bytes} {v : ℕ}

theorem map_fst_bits :
    ((List.range L.bitLength).map fun i => (L.position i, v.testBit i)).map Prod.fst =
      (List.range L.bitLength).map L.position := by
  simp [Function.comp_def]

theorem nodup_positions : ((List.range L.bitLength).map L.position).Nodup := by
  refine List.Nodup.map_on ?_ List.nodup_range
  intro i hi j hj h
  exact position_inj (List.mem_range.mp hi) (List.mem_range.mp hj) h

/-- Writing a value changes the bits of the signal and no other bit. -/
theorem writes_write (hfit : L.Fits frame) : L.Writes v frame (L.write v frame) := by
  constructor
  · exact length_putBits
  · intro i hi
    apply bitAt_putBits_of_mem
    · rw [map_fst_bits]
      exact nodup_positions
    · exact hfit i hi
    · exact List.mem_map.mpr ⟨i, List.mem_range.mpr hi, rfl⟩
  · intro p hp
    apply bitAt_putBits_of_notMem
    rw [map_fst_bits]
    rintro hm
    obtain ⟨i, hi, rfl⟩ := List.mem_map.mp hm
    exact hp i (List.mem_range.mp hi) rfl

end Write

section Collect

variable {ι : Type} {l : List ι} {idx : ι → ℕ} {bit : ι → Bool} {r i j n v : ℕ} {b : Bool}

theorem testBit_setBit : (setBit r i b).testBit j = (r.testBit j || (decide (i = j) && b)) := by
  unfold setBit
  cases b with
  | true => simp [Nat.one_shiftLeft, Nat.testBit_two_pow]
  | false => simp

theorem testBit_collect : (l.foldl (fun r x => setBit r (idx x) (bit x)) r).testBit j =
    (r.testBit j || l.any fun x => decide (idx x = j) && bit x) := by
  induction l generalizing r with
  | nil => simp
  | cons x l ih => rw [List.foldl_cons, ih, testBit_setBit, List.any_cons, Bool.or_assoc]

/-- A number is collected from its bits if each of them is, and no other. -/
theorem collect_eq (idx : ι → ℕ) (hv : v < 2 ^ n) (hall : ∀ j < n, ∃ x ∈ l, idx x = j)
    (hbit : ∀ x ∈ l, bit x = v.testBit (idx x)) :
    l.foldl (fun r x => setBit r (idx x) (bit x)) 0 = v := by
  apply Nat.eq_of_testBit_eq
  intro j
  rw [testBit_collect, Nat.zero_testBit, Bool.false_or]
  by_cases hj : v.testBit j = true
  · have hlt : j < n := by
      by_contra hge
      rw [Nat.testBit_lt_two_pow (hv.trans_le (Nat.pow_le_pow_right two_pos (not_lt.mp hge)))] at hj
      cases hj
    obtain ⟨x, hx, rfl⟩ := hall j hlt
    rw [hj, List.any_eq_true]
    exact ⟨x, hx, by simp [hbit x hx, hj]⟩
  · rw [Bool.not_eq_true] at hj
    rw [hj, List.any_eq_false]
    intro x hx
    by_cases he : idx x = j
    · subst he
      simp [hbit x hx, hj]
    · simp [he]

end Collect

section Decode

variable {L : SignalPlace} {D : Type} {definition : DBCSignalDefinition D} {frame : Bytes}
  {v n r p : ℕ}

/-- The Motorola loop with its walk written out. -/
theorem motorola_loop :
    (List.range n).foldl (fun st i =>
        (setBit st.1 (L.bitLength - 1 - i) (DBCSignalMapper.bitAt frame st.2), nextBit st.2))
      (r, p) =
    ((List.range n).foldl (fun r i =>
        setBit r (L.bitLength - 1 - i) (bitAt frame (nextBit^[i] p))) r, nextBit^[n] p) := by
  induction n with
  | zero => rfl
  | succ n ih =>
    rw [List.range_succ, List.foldl_append, ih, List.foldl_append, Function.iterate_succ_apply']
    rfl

theorem extractRawBits_of_carries (hd : L.Of definition) (hv : v < 2 ^ L.bitLength)
    (hc : L.Carries v frame) : DBCSignalMapper.extractRawBits frame definition = v := by
  have hpos := L.bitLength_pos
  have hle := L.bitLength_le
  unfold DBCSignalMapper.extractRawBits
  simp only [hd.byteOrder, hd.startBit, hd.bitLength]
  rw [if_neg (by omega)]
  cases ho : L.byteOrder with
  | Intel =>
    apply collect_eq id hv
    · exact fun j hj => ⟨j, List.mem_range.mpr hj, rfl⟩
    · intro i hi
      rw [← position_intel ho]
      exact hc i (List.mem_range.mp hi)
  | Motorola =>
    simp only [motorola_loop]
    apply collect_eq _ hv
    · exact fun j hj => ⟨L.bitLength - 1 - j, List.mem_range.mpr (by omega), by omega⟩
    · intro i hi
      have hi' := List.mem_range.mp hi
      have hci := hc (L.bitLength - 1 - i) (by omega)
      rwa [position_motorola ho,
        show L.bitLength - 1 - (L.bitLength - 1 - i) = i by omega] at hci

/-- The unchecked extractor never leaves a frame that holds the signal. -/
theorem unchecked_of_carries (ho : L.byteOrder = .Intel) (hfit : L.Fits frame)
    (hv : v < 2 ^ L.bitLength) (hc : L.Carries v frame) :
    CANDecoder.extractRawBits frame L.startBit L.bitLength = some v := by
  have hstep : ∀ n ≤ L.bitLength, CANDecoder.extractRawBits frame L.startBit n =
      some ((List.range n).foldl (fun r i => setBit r i (bitAt frame (L.position i))) 0) := by
    intro n
    induction n with
    | zero => exact fun _ => rfl
    | succ n ih =>
      intro hn
      obtain ⟨byte, hb⟩ : ∃ byte, frame[L.position n / 8]? = some byte := by
        have hp := hfit n (by omega)
        exact ⟨_, List.getElem?_eq_getElem (show L.position n / 8 < frame.length by omega)⟩
      unfold CANDecoder.extractRawBits at ih ⊢
      rw [List.range_succ, List.foldlM_append, ih (by omega), List.foldl_append]
      simp only [Option.bind_eq_bind, Option.bind_some, List.foldlM_cons, List.foldlM_nil,
        List.foldl_cons, List.foldl_nil, ← position_intel ho, bitAt, hb]
      rfl
  rw [hstep _ le_rfl]
  refine congrArg some (collect_eq id hv ?_ ?_)
  · exact fun j hj => ⟨j, List.mem_range.mpr hj, rfl⟩
  · exact fun i hi => hc i (List.mem_range.mp hi)

end Decode

section Signed

variable {n v : ℕ} {s : ℤ}

/-- The two's complement bits of a number. -/
def twosComplement (n : ℕ) (s : ℤ) : ℕ := (s % 2 ^ n).toNat

theorem twosComplement_cast (n : ℕ) (s : ℤ) : (twosComplement n s : ℤ) = s % 2 ^ n :=
  Int.toNat_of_nonneg (Int.emod_nonneg s (by positivity))

theorem twosComplement_lt (n : ℕ) (s : ℤ) : twosComplement n s < 2 ^ n := by
  have hlt := Int.emod_lt_of_pos s (show (0 : ℤ) < 2 ^ n by positivity)
  rw [← twosComplement_cast] at hlt
  exact_mod_cast hlt

/-- Sign extension of a short value fills the bits above it. -/
theorem or_signExtension (hn : n ≤ 64) (hv : v < 2 ^ n) :
    v ||| (2 ^ 64 - 2 ^ n) = v + (2 ^ 64 - 2 ^ n) := by
  have hpow : (2 : ℕ) ^ 64 - 2 ^ n = 2 ^ n * (2 ^ (64 - n) - 1) := by
    rw [Nat.mul_sub, ← pow_add, Nat.add_sub_cancel' hn, Nat.mul_one]
  rw [hpow, Nat.or_comm, ← Nat.two_pow_add_eq_or_of_lt hv, Nat.add_comm]

theorem toInt64_eq {x : ℕ} (hx : x < 2 ^ 64) :
    CANDecoder.toInt64 x = if x < 2 ^ 63 then (x : ℤ) else x - 2 ^ 64 := by
  have hmod : (x : ℤ) % (2 ^ 64 : ℕ) = x := by omega
  unfold CANDecoder.toInt64
  rw [Int.bmod_def, hmod]
  split <;> split <;> omega

/-- The value of two's complement bits, at every length up to 64. -/
theorem toSigned_eq {m : ℕ} (hm : m + 1 ≤ 64) (hv : v < 2 ^ (m + 1)) :
    CANDecoder.toSigned v (m + 1) = if v < 2 ^ m then (v : ℤ) else v - 2 ^ (m + 1) := by
  have hpow : (2 : ℕ) ^ (m + 1) = 2 * 2 ^ m := pow_succ' 2 m
  have hcast : (2 : ℤ) ^ (m + 1) = ((2 * 2 ^ m : ℕ) : ℤ) := by rw [← hpow]; push_cast; rfl
  unfold CANDecoder.toSigned
  rw [hcast, Nat.add_sub_cancel]
  split
  · obtain rfl : m = 63 := by omega
    exact toInt64_eq hv
  · have hle : (2 : ℕ) ^ m ≤ 2 ^ 62 := Nat.pow_le_pow_right two_pos (by omega)
    by_cases hs : v < 2 ^ m
    · rw [Nat.testBit_lt_two_pow hs, if_pos hs, if_neg Bool.false_ne_true,
        toInt64_eq (by omega), if_pos (by omega)]
    · rw [Nat.testBit_of_two_pow_le_and_two_pow_add_one_gt (not_lt.mp hs) hv, if_neg hs,
        if_pos rfl, or_signExtension hm hv, toInt64_eq (by omega), if_neg (by omega)]
      omega

theorem toSigned_twosComplement (hn : 0 < n) (hn' : n ≤ 64) (hlo : -2 ^ (n - 1) ≤ s)
    (hhi : s < 2 ^ (n - 1)) : CANDecoder.toSigned (twosComplement n s) n = s := by
  obtain ⟨m, rfl⟩ : ∃ m, n = m + 1 := ⟨n - 1, by omega⟩
  rw [Nat.add_sub_cancel] at hlo hhi
  have hpow : (2 : ℤ) ^ (m + 1) = 2 * 2 ^ m := pow_succ' 2 m
  have hlt : twosComplement (m + 1) s < 2 ^ m ↔ (twosComplement (m + 1) s : ℤ) < 2 ^ m := by
    exact_mod_cast Iff.rfl
  rw [toSigned_eq hn' (twosComplement_lt _ s)]
  simp only [hlt, twosComplement_cast]
  rcases lt_or_ge s 0 with hneg | hpos
  · have hmod : s % 2 ^ (m + 1) = s + 2 ^ (m + 1) := by
      rw [← Int.add_emod_right, Int.emod_eq_of_lt (by omega) (by omega)]
    rw [hmod, if_neg (by omega)]
    omega
  · rw [Int.emod_eq_of_lt hpos (by omega), if_pos hhi]

end Signed

section Pack

variable {L : SignalPlace} {data : Bytes} {v : ℕ}

/-- The encoder's access to one byte writes one bit, inside of the data. -/
theorem set_eq_putBit {p : ℕ} {b : Bool} (hp : p < 8 * data.length) :
    ((data[p / 8]?).map fun byte =>
        data.set (p / 8) (if b then byte ||| 1 <<< UInt8.ofNat (p % 8)
          else byte &&& ~~~(1 <<< UInt8.ofNat (p % 8)))) = some (putBit data p b) := by
  have hlt : p / 8 < data.length := by omega
  rw [List.getElem?_eq_getElem hlt, Option.map_some, putBit, List.modify_eq_set,
    List.getElem?_eq_getElem hlt]
  rfl

/-- On eight bytes that hold the signal, the demo's encoder writes it. -/
theorem packBits_eq_write (ho : L.byteOrder = .Intel) (hlen : data.length = 8)
    (hfit : L.Fits data) :
    DemoTransport.packBits data L.startBit L.bitLength v = some (L.write v data) := by
  have hstep : ∀ n ≤ L.bitLength, DemoTransport.packBits data L.startBit n v =
      some (putBits data ((List.range n).map fun i => (L.position i, v.testBit i))) := by
    intro n
    induction n with
    | zero => exact fun _ => rfl
    | succ n ih =>
      intro hn
      have hp := hfit n (by omega)
      have hp32 : (L.startBit + n) % 2 ^ 32 = L.position n := by
        rw [position_intel ho] at hp ⊢
        omega
      unfold DemoTransport.packBits at ih ⊢
      rw [List.range_succ, List.foldlM_append, ih (by omega), List.map_append, putBits_append]
      simp only [Option.bind_eq_bind, Option.bind_some, List.foldlM_cons, List.foldlM_nil, hp32]
      have hlt : L.position n < 8 *
          (putBits data ((List.range n).map fun i => (L.position i, v.testBit i))).length := by
        rwa [length_putBits]
      rw [set_eq_putBit hlt]
      rfl
  exact hstep _ le_rfl

end Pack

/-- What decoding makes of encoded values at a place. -/
structure Codec (L : SignalPlace) : Prop where
  /-- A value can be written into every frame that holds the signal. -/
  encode : ∀ frame v, L.Fits frame → L.Writes v frame (L.write v frame)
  decode : ∀ {D : Type} (definition : DBCSignalDefinition D) frame v, L.Of definition →
    L.Fits frame → v < 2 ^ L.bitLength → L.Carries v frame →
    DBCSignalMapper.extractRawBits frame definition = v
  signed : ∀ {D : Type} (definition : DBCSignalDefinition D) frame s, L.Of definition →
    L.Fits frame → -2 ^ (L.bitLength - 1) ≤ s → s < 2 ^ (L.bitLength - 1) →
    L.Carries (twosComplement L.bitLength s) frame →
    CANDecoder.toSigned (DBCSignalMapper.extractRawBits frame definition) L.bitLength = s
  unchecked : L.byteOrder = .Intel → ∀ frame v, L.Fits frame → v < 2 ^ L.bitLength →
    L.Carries v frame → CANDecoder.extractRawBits frame L.startBit L.bitLength = some v
  demo : L.byteOrder = .Intel → ∀ data v, data.length = 8 → L.Fits data →
    ∃ data', DemoTransport.packBits data L.startBit L.bitLength v = some data' ∧
      L.Writes v data data'

/-- Decoding undoes encoding at every place, in both byte orders. -/
theorem decode_undoes_encode (L : SignalPlace) : Codec L where
  encode _ _ hfit := writes_write hfit
  decode _ _ _ hd _ hv hc := extractRawBits_of_carries hd hv hc
  signed _ _ s hd _ hlo hhi hc := by
    rw [extractRawBits_of_carries hd (twosComplement_lt _ s) hc]
    exact toSigned_twosComplement L.bitLength_pos L.bitLength_le hlo hhi
  unchecked ho _ _ hfit hv hc := unchecked_of_carries ho hfit hv hc
  demo ho _ _ hlen hfit := ⟨_, packBits_eq_write ho hlen hfit, writes_write hfit⟩

/-- Twelve bits from the top of the first byte, with a foreign nibble behind them. -/
example : (SignalPlace.mk .Motorola 7 12 (by decide) (by decide) (by decide)).write 0xABC
    [0x00, 0x0F] = [0xAB, 0xCF] := by decide +kernel

end SignalPlace

end VehicleSpy.Dbc
