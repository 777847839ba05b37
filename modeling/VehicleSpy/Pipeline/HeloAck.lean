import Mathlib.Data.List.FinRange
import VehicleSpy.Pipeline.TCPTransport

/-! # The device id of a HELO reply, in place

The parser of the reply writes its output array byte by byte, so a reply that it rejects may have
overwritten a part of it.
-/

namespace VehicleSpy.Pipeline.TCPTransport

open Text

abbrev DeviceId := Fin 16 → Byte

/-- The 32 characters of a reply that has both tokens. -/
def ackHexId (ack : Bytes) : Option Bytes := do
  let _ ← findStr ackPrefix ack
  let deviceIdPos ← findStr deviceIdToken ack
  let hexId := (ack.drop (deviceIdPos + deviceIdToken.length)).rdropWhile isAckTail
  if hexId.length = 32 then some hexId else none

/-- The loop over the bytes that are left; a pair that is no byte leaves its place alone. -/
def fillDeviceId (hexId : Bytes) : List (Fin 16) → DeviceId → Bool × DeviceId
  | [], deviceId => (true, deviceId)
  | i :: is, deviceId =>
    match parseHexByte hexId (i * 2) with
    | none => (false, deviceId)
    | some out => fillDeviceId hexId is (Function.update deviceId i out)

/-- `parseHeloAck` with its output parameter. -/
def parseHeloAckInto (ack : Bytes) (deviceId : DeviceId) : Bool × DeviceId :=
  match ackHexId ack with
  | none => (false, deviceId)
  | some hexId => fillDeviceId hexId (List.finRange 16) deviceId

section Loop

variable (hexId : Bytes)

def isByteAt (i : Fin 16) : Bool := (parseHexByte hexId (i * 2)).isSome

/-- The array holds the bytes in front of the first pair that is none. -/
theorem fillDeviceId_eq (is : List (Fin 16)) (deviceId : DeviceId) :
    fillDeviceId hexId is deviceId =
      (is.all (isByteAt hexId), fun j =>
        if j ∈ is.takeWhile (isByteAt hexId) then (parseHexByte hexId (j * 2)).getD (deviceId j)
        else deviceId j) := by
  induction is generalizing deviceId with
  | nil => rfl
  | cons i is ih =>
    cases hi : parseHexByte hexId (i * 2) with
    | none => simp [fillDeviceId, isByteAt, hi]
    | some out =>
      have hbyte : isByteAt hexId i = true := by rw [isByteAt, hi]; rfl
      simp only [fillDeviceId, hi, ih, List.all_cons, hbyte, Bool.true_and, Prod.mk.injEq,
        true_and]
      ext j
      rw [List.takeWhile_cons_of_pos hbyte]
      by_cases hj : j = i
      · subst hj
        simp [hi]
      · simp [hj]

/-- The positions in front of the first bad one, as `takeWhile` finds them. -/
theorem mem_takeWhile_finRange {n : ℕ} {p : Fin n → Bool} {j : Fin n} :
    j ∈ (List.finRange n).takeWhile p ↔ ∀ l ≤ j, p l = true := by
  induction n with
  | zero => exact j.elim0
  | succ n ih =>
    rw [List.finRange_succ]
    by_cases h₀ : p 0 = true
    · rw [List.takeWhile_cons_of_pos h₀, List.takeWhile_map]
      cases j using Fin.cases with
      | zero =>
        refine iff_of_true List.mem_cons_self fun l hl => ?_
        rwa [Fin.le_zero_iff.mp hl]
      | succ j =>
        simp [Fin.forall_fin_succ, ih, h₀, Fin.succ_ne_zero]
    · rw [List.takeWhile_cons_of_neg h₀]
      exact iff_of_false List.not_mem_nil fun h => h₀ (h 0 (Fin.zero_le j))

end Loop

section Digits

variable {hi lo : Byte} {s : Bytes}

theorem hexCharToInt_eq (c : Byte) :
    hexCharToInt c = if isDigit 16 c then some (alnumVal c) else none := by
  revert c
  exact forall_byte (by decide +kernel)

theorem parseHexByte_cons :
    parseHexByte (hi :: lo :: s) 0 =
      if isDigit 16 hi && isDigit 16 lo then some (numValue 16 [hi, lo]).toUInt8 else none := by
  change ((hexCharToInt hi).bind fun a => (hexCharToInt lo).bind fun b =>
    some (a <<< 4 ||| b).toUInt8) = _
  rw [hexCharToInt_eq, hexCharToInt_eq]
  by_cases hhi : isDigit 16 hi = true
  · by_cases hlo : isDigit 16 lo = true
    · have hlt : alnumVal lo < 2 ^ 4 := of_decide_eq_true hlo
      simp only [hhi, hlo, Bool.and_self, if_true, Option.bind_some]
      rw [← Nat.shiftLeft_add_eq_or_of_lt hlt, Nat.shiftLeft_eq]
      simp [numValue, Nat.mul_comm]
    · simp [hhi, hlo]
  · simp [hhi]

/-- The bytes that the pairs denote, if each of them is one. -/
theorem hexBytes_of_forall {n : ℕ} {g : Fin n → Byte} (hs : s.length = 2 * n)
    (h : ∀ j : Fin n, parseHexByte s (j * 2) = some (g j)) :
    hexBytes s = some (List.ofFn g) := by
  induction n generalizing s with
  | zero =>
    obtain rfl := List.length_eq_zero_iff.mp hs
    rfl
  | succ n ih =>
    match s, hs with
    | hi :: lo :: s, hs =>
      have hhead : parseHexByte (hi :: lo :: s) 0 = some (g 0) := h 0
      rw [parseHexByte_cons] at hhead
      split at hhead
      · next hdigits =>
        rw [hexBytes, if_pos hdigits, ih (g := fun j => g j.succ) (by simpa [Nat.mul_succ] using hs)
          fun j => ?_, List.ofFn_succ, ← Option.some_inj.mp hhead]
        · rfl
        · have hj := h j.succ
          rw [Fin.val_succ, Nat.succ_mul] at hj
          exact hj
      · cases hhead

end Digits

section Parsed

variable {hexId ack : Bytes} {deviceId : DeviceId}

/-- The whole loop. -/
theorem fillDeviceId_finRange :
    ((fillDeviceId hexId (List.finRange 16) deviceId).1 = true ↔
      ∀ i, isByteAt hexId i = true) ∧
    ∀ j, (fillDeviceId hexId (List.finRange 16) deviceId).2 j =
      if ∀ l ≤ j, isByteAt hexId l = true then (parseHexByte hexId (j * 2)).getD (deviceId j)
      else deviceId j := by
  rw [fillDeviceId_eq]
  refine ⟨?_, fun j => if_congr mem_takeWhile_finRange rfl rfl⟩
  rw [List.all_eq_true]
  exact ⟨fun h i => h i (List.mem_finRange i), fun h i _ => h i⟩

theorem parseHexByte_of_accepted
    (h : (fillDeviceId hexId (List.finRange 16) deviceId).1 = true) (j : Fin 16) :
    parseHexByte hexId (j * 2) =
      some ((fillDeviceId hexId (List.finRange 16) deviceId).2 j) := by
  have hall := fillDeviceId_finRange.1.mp h
  obtain ⟨out, hout⟩ := Option.isSome_iff_exists.mp (hall j)
  rw [fillDeviceId_finRange.2 j, if_pos fun l _ => hall l, hout]
  rfl

theorem mapM_range_some {n : ℕ} {f : ℕ → Option Byte} {g : Fin n → Byte}
    (h : ∀ j : Fin n, f j = some (g j)) : (List.range n).mapM f = some (List.ofFn g) := by
  induction n generalizing f with
  | zero => rfl
  | succ n ih =>
    have hhead : f 0 = some (g 0) := h 0
    rw [List.range_succ_eq_map, List.mapM_cons, List.mapM_map, hhead,
      ih (f := f ∘ Nat.succ) (g := fun j => g j.succ) fun j => h j.succ, List.ofFn_succ]
    rfl

theorem mapM_range_none {n : ℕ} {f : ℕ → Option Byte} {j : Fin n} (h : f j = none) :
    (List.range n).mapM f = none := by
  induction n generalizing f with
  | zero => exact j.elim0
  | succ n ih =>
    rw [List.range_succ_eq_map, List.mapM_cons, List.mapM_map]
    cases j using Fin.cases with
    | zero => rw [show f 0 = none from h]; rfl
    | succ j =>
      rw [ih (f := f ∘ Nat.succ) (j := j) h]
      cases f 0 <;> rfl

/-- The parser of the handshake returns what an accepted reply leaves in the array. -/
theorem parseHeloAck_eq (ack : Bytes) (deviceId : DeviceId) :
    parseHeloAck ack =
      if (parseHeloAckInto ack deviceId).1 then some (List.ofFn (parseHeloAckInto ack deviceId).2)
      else none := by
  have hbind : parseHeloAck ack = (ackHexId ack).bind fun hexId =>
      (List.range 16).mapM fun i => parseHexByte hexId (i * 2) := by
    simp only [parseHeloAck, ackHexId, Option.bind_eq_bind, Option.bind_assoc]
    congr! 4
    split <;> rfl
  rw [hbind, parseHeloAckInto]
  cases ackHexId ack with
  | none => rfl
  | some hexId =>
    by_cases h : (fillDeviceId hexId (List.finRange 16) deviceId).1 = true
    · rw [if_pos h]
      exact mapM_range_some (parseHexByte_of_accepted h)
    · rw [if_neg h]
      rw [fillDeviceId_finRange.1, not_forall] at h
      obtain ⟨j, hj⟩ := h
      exact mapM_range_none (j := j) (Option.not_isSome_iff_eq_none.mp hj)

end Parsed

section Contract

/-- What stands behind the first device id token, without the bytes that may follow the id. -/
def deviceIdField (ack : Bytes) : Option Bytes :=
  (findStr deviceIdToken ack).map fun deviceIdPos =>
    (ack.drop (deviceIdPos + deviceIdToken.length)).rdropWhile isAckTail

/-- What the parser promises of its output array. -/
structure AckContract (ack : Bytes) (deviceId : DeviceId) : Prop where
  rejected : (parseHeloAckInto ack deviceId).1 = false →
    (parseHeloAckInto ack deviceId).2 = deviceId
  accepted : (parseHeloAckInto ack deviceId).1 = true →
    ∃ hexId, deviceIdField ack = some hexId ∧ hexId.length = 32 ∧
      hexBytes hexId = some (List.ofFn (parseHeloAckInto ack deviceId).2)

/-- Where a pair is no byte, the array already held every byte in front of the first such pair. -/
def HeldBefore (hexId : Bytes) (deviceId : DeviceId) : Prop :=
  ∀ k : Fin 16, parseHexByte hexId (k * 2) = none → ∀ j : Fin 16,
    (∀ l ≤ j, isByteAt hexId l = true) → parseHexByte hexId (j * 2) = some (deviceId j)

variable {hexId ack : Bytes} {deviceId : DeviceId}

theorem deviceIdField_of_ackHexId (h : ackHexId ack = some hexId) :
    deviceIdField ack = some hexId ∧ hexId.length = 32 := by
  simp only [ackHexId, Option.bind_eq_bind, Option.bind_eq_some_iff] at h
  obtain ⟨_, -, pos, hpos, h⟩ := h
  split at h
  · next hlen =>
    rw [deviceIdField, hpos, ← Option.some_inj.mp h]
    exact ⟨rfl, hlen⟩
  · cases h

theorem unchanged_iff (h : (fillDeviceId hexId (List.finRange 16) deviceId).1 = false) :
    (fillDeviceId hexId (List.finRange 16) deviceId).2 = deviceId ↔
      HeldBefore hexId deviceId := by
  have hbad : ∃ k : Fin 16, parseHexByte hexId (k * 2) = none := by
    have hall := mt fillDeviceId_finRange.1.mpr (Bool.eq_false_iff.mp h)
    obtain ⟨k, hk⟩ := not_forall.mp hall
    exact ⟨k, Option.not_isSome_iff_eq_none.mp hk⟩
  constructor
  · intro hsame k _ j hj
    obtain ⟨out, hout⟩ := Option.isSome_iff_exists.mp (hj j le_rfl)
    have hheld := congrFun hsame j
    rw [fillDeviceId_finRange.2 j, if_pos hj, hout] at hheld
    rw [hout, ← hheld]
    rfl
  · intro hheld
    obtain ⟨k, hk⟩ := hbad
    ext j
    rw [fillDeviceId_finRange.2 j]
    split
    · next hj => rw [hheld k hk j hj]; rfl
    · rfl

/-- A rejected reply leaves the array alone exactly when it had nothing new to write. -/
theorem ackContract_iff (ack : Bytes) (deviceId : DeviceId) :
    AckContract ack deviceId ↔
      ∀ hexId, ackHexId ack = some hexId → HeldBefore hexId deviceId := by
  cases hack : ackHexId ack with
  | none =>
    have hinto : parseHeloAckInto ack deviceId = (false, deviceId) := by
      rw [parseHeloAckInto, hack]
    refine iff_of_true ⟨fun _ => by rw [hinto], fun h => ?_⟩ (by rintro _ ⟨⟩)
    rw [hinto] at h
    cases h
  | some hexId =>
    have hinto : parseHeloAckInto ack deviceId =
        fillDeviceId hexId (List.finRange 16) deviceId := by rw [parseHeloAckInto, hack]
    obtain ⟨hfield, hlen⟩ := deviceIdField_of_ackHexId hack
    constructor
    · rintro hcontract _ ⟨⟩ k hk
      have hrejected : (fillDeviceId hexId (List.finRange 16) deviceId).1 = false := by
        refine Bool.eq_false_iff.mpr fun h => ?_
        rw [parseHexByte_of_accepted h k] at hk
        cases hk
      have hsame := hcontract.rejected
      rw [hinto] at hsame
      exact (unchanged_iff hrejected).mp (hsame hrejected) k hk
    · intro hheld
      constructor
      · intro h
        rw [hinto] at h ⊢
        exact (unchanged_iff h).mpr (hheld hexId rfl)
      · intro h
        rw [hinto] at h ⊢
        exact ⟨hexId, hfield, hlen, hexBytes_of_forall hlen (parseHexByte_of_accepted h)⟩

/-- A reply whose last digit is none has changed the other fifteen bytes. -/
theorem rejected_ack_overwrites :
    ¬ AckContract (ascii "ACK DEVICE=Car DEVICEID=0123456789ABCDEF0123456789ABCDEG")
      (fun _ => 0) := by
  intro h
  have hsame := congrFun (h.rejected (by decide +kernel)) 1
  exact absurd hsame (by decide +kernel)

end Contract

end VehicleSpy.Pipeline.TCPTransport
