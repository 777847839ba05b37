import VehicleSpy.Text.Bytes
import VehicleSpy.Text.Segments

/-! # The serial command framer

Bytes from the serial console accumulate until a CR or LF hands the line to the
command handler. A buffer that grows past the budget is cleared and accumulation
resumes, so of an overlong line only what follows the last clearing is handed over.
-/

namespace VehicleSpy.Firmware

open Text Machine

/-- The line buffer: within the budget, and free of line ends. -/
@[ext] structure SerialCommandFramer (maxLen : ℕ) where
  buffer : Bytes
  length_le : buffer.length ≤ maxLen
  line : ∀ c ∈ buffer, isLineEnd c = false

namespace SerialCommandFramer

variable {maxLen : ℕ}

/-- A newly constructed framer. -/
def fresh (maxLen : ℕ) : SerialCommandFramer maxLen := ⟨[], Nat.zero_le _, by simp⟩

/-- Consume one byte; the second component lists the lines given to the handler. -/
def handleByte (f : SerialCommandFramer maxLen) (c : Byte) :
    SerialCommandFramer maxLen × List Bytes :=
  if hc : isLineEnd c then
    -- an empty line between two terminators is not dispatched
    if f.buffer.isEmpty then (f, []) else (fresh maxLen, [f.buffer])
  else
    let buffer := f.buffer ++ [c]
    if h : maxLen < buffer.length then (fresh maxLen, [])
    else (⟨buffer, not_lt.mp h, by
      intro d hd
      rcases List.mem_append.mp hd with hd | hd
      · exact f.line d hd
      · simpa [List.mem_singleton.mp hd] using hc⟩, [])

/-- Consume every byte that the source has available. -/
def drain (f : SerialCommandFramer maxLen) (available : Bytes) :
    SerialCommandFramer maxLen × List Bytes :=
  chunked handleByte f available

end SerialCommandFramer

/-- What is left of a line once every full budget's worth and its overflowing byte is dropped. -/
def overflowTail (maxLen : ℕ) (l : Bytes) : Bytes :=
  l.drop (l.length / (maxLen + 1) * (maxLen + 1))

/-- The line, if any, that the framer hands over for a closed segment. -/
def dispatched (maxLen : ℕ) (l : Bytes) : List Bytes :=
  if overflowTail maxLen l = [] then [] else [overflowTail maxLen l]

section Tail

variable (maxLen : ℕ) {l : Bytes}

@[simp] theorem overflowTail_nil : overflowTail maxLen [] = [] := List.drop_nil

theorem length_overflowTail : (overflowTail maxLen l).length = l.length % (maxLen + 1) := by
  have h := Nat.div_add_mod l.length (maxLen + 1)
  rw [overflowTail, List.length_drop, Nat.mul_comm]
  omega

/-- A line within the budget is untouched. -/
theorem overflowTail_of_le (h : l.length ≤ maxLen) : overflowTail maxLen l = l := by
  rw [overflowTail, Nat.div_eq_of_lt (by omega), Nat.zero_mul, List.drop_zero]

/-- One more byte either extends the tail or overflows it. -/
theorem overflowTail_concat (c : Byte) :
    overflowTail maxLen (l ++ [c]) =
      if maxLen < (overflowTail maxLen l ++ [c]).length then []
      else overflowTail maxLen l ++ [c] := by
  have hm := Nat.div_add_mod' l.length (maxLen + 1)
  have hlt : l.length % (maxLen + 1) < maxLen + 1 := Nat.mod_lt _ (Nat.succ_pos maxLen)
  have hs := Nat.add_one_mul (l.length / (maxLen + 1)) (maxLen + 1)
  rw [List.length_append, length_overflowTail, List.length_singleton]
  split
  · have hn : (l ++ [c]).length = (l.length / (maxLen + 1) + 1) * (maxLen + 1) := by
      rw [List.length_append, List.length_singleton]
      omega
    rw [overflowTail, hn, Nat.mul_div_cancel _ (Nat.succ_pos maxLen), ← hn, List.drop_length]
  · have hd : (l ++ [c]).length / (maxLen + 1) = l.length / (maxLen + 1) := by
      rw [List.length_append, List.length_singleton]
      apply Nat.div_eq_of_lt_le <;> omega
    rw [overflowTail, hd, List.drop_append_of_le_length (by omega), overflowTail]

end Tail

namespace SerialCommandFramer

variable {maxLen : ℕ}

theorem handleByte_lineEnd (f : SerialCommandFramer maxLen) {c : Byte} (hc : isLineEnd c = true) :
    handleByte f c = (fresh maxLen, if f.buffer = [] then [] else [f.buffer]) := by
  unfold handleByte
  by_cases hb : f.buffer = []
  · have hf : f = fresh maxLen := SerialCommandFramer.ext hb
    simp [hc, hf, fresh]
  · simp [hc, hb]

theorem handleByte_other (f : SerialCommandFramer maxLen) {c : Byte} (hc : isLineEnd c = false) :
    (handleByte f c).1.buffer =
        (if maxLen < (f.buffer ++ [c]).length then [] else f.buffer ++ [c]) ∧
      (handleByte f c).2 = [] := by
  unfold handleByte
  simp only [hc, Bool.false_eq_true, dif_neg, not_false_iff]
  split <;> simp [fresh]

/-- One byte is one step of the segment machine, seen through the tail of the open segment. -/
theorem handleByte_refines (f : SerialCommandFramer maxLen) (l : Bytes) (c : Byte)
    (hf : f.buffer = overflowTail maxLen l) :
    (handleByte f c).1.buffer = overflowTail maxLen (cutStep isLineEnd l c).1 ∧
      (handleByte f c).2 = (cutStep isLineEnd l c).2.flatMap (dispatched maxLen) := by
  unfold cutStep
  cases hc : isLineEnd c with
  | true => simp [handleByte_lineEnd f hc, fresh, dispatched, hf]
  | false =>
    obtain ⟨hb, ho⟩ := handleByte_other f hc
    rw [hf, ← overflowTail_concat] at hb
    simpa using And.intro hb ho

/-- Draining in chunks hands over what is dispatched of each closed segment. -/
theorem emitted_drain (maxLen : ℕ) (chunks : List Bytes) :
    emitted drain (fresh maxLen) chunks =
      (segments isLineEnd chunks.flatten).flatMap (dispatched maxLen) := by
  have h := simulation handleByte (R := fun f l => f.buffer = overflowTail maxLen l)
    handleByte_refines (s := fresh maxLen) (overflowTail_nil maxLen).symm chunks.flatten
  rw [← emitted_cutStep, ← h.2]
  exact (chunked_flatten handleByte (fresh maxLen) chunks).2

theorem flatMap_dispatched (maxLen : ℕ) (ls : List Bytes) :
    ls.flatMap (dispatched maxLen) = (ls.map (overflowTail maxLen)).filter (· ≠ []) := by
  induction ls with
  | nil => rfl
  | cons l ls ih =>
    by_cases h : overflowTail maxLen l = [] <;> simp [dispatched, h, ih]

/-- Over any stream and any cutting of it into drains, the handler gets the nonempty tails that
survive of the closed segments, in order and once each; a segment within the budget is its own
tail. -/
theorem handler_gets_surviving_tails (maxLen : ℕ) (chunks : List Bytes) :
    emitted drain (fresh maxLen) chunks =
        ((segments isLineEnd chunks.flatten).map (overflowTail maxLen)).filter (· ≠ []) ∧
      ∀ l ∈ segments isLineEnd chunks.flatten, l.length ≤ maxLen → overflowTail maxLen l = l :=
  ⟨(emitted_drain maxLen chunks).trans (flatMap_dispatched maxLen _),
    fun _ _ h => overflowTail_of_le maxLen h⟩

/-- Exactly the closed segments within the budget reach the handler. -/
def DiscardsOverlongLines (maxLen : ℕ) (chunks : List Bytes) : Prop :=
  emitted drain (fresh maxLen) chunks =
    (segments isLineEnd chunks.flatten).filter fun l => l ≠ [] ∧ l.length ≤ maxLen

/-- With a budget of four bytes, the line `xxxxxxATZ` reaches the handler as `xATZ`. -/
theorem not_discardsOverlongLines :
    ¬ ∀ maxLen chunks, DiscardsOverlongLines maxLen chunks := by
  intro h
  have hx := h 4 [ascii "xxxxxxATZ" ++ [CR]]
  revert hx
  unfold DiscardsOverlongLines
  decide

end SerialCommandFramer

end VehicleSpy.Firmware
