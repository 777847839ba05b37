import VehicleSpy.Text.Numbers

/-! # Bounded printing into a buffer

`snprintf` stores at most the given size, the final NUL included, and reports the
length the whole text would have had. A store past the end of the buffer is
undefined behaviour and has no result.
-/

namespace VehicleSpy.Text

/-- The C string that a buffer holds. -/
def cString (buf : Bytes) : Bytes := buf.takeWhile (· ≠ 0)

/-- `snprintf(buf + off, size, ...)` of an already formatted text. -/
def snprintf (buf : Bytes) (off size : ℕ) (text : Bytes) : Option Bytes :=
  if size = 0 then some buf
  else
    let out := text.take (size - 1) ++ [0]
    if off + out.length ≤ buf.length then
      some (buf.take off ++ out ++ buf.drop (off + out.length))
    else none

/-- A buffer of `N` bytes holds as much of a text as fits in front of the closing NUL. -/
def Holds (N : ℕ) (w buf : Bytes) : Prop :=
  ∃ tail, buf = w.take (N - 1) ++ 0 :: tail ∧ buf.length = N

theorem holds_replicate {N : ℕ} (hN : 0 < N) : Holds N [] (List.replicate N 0) := by
  obtain ⟨m, rfl⟩ := Nat.exists_eq_succ_of_ne_zero hN.ne'
  exact ⟨List.replicate m 0, by simp [List.replicate_succ], by simp⟩

/-- Printing behind the held text, with the rest of the buffer as the size, holds both texts. -/
theorem Holds.snprintf {N : ℕ} {w buf : Bytes} (h : Holds N w buf) (hw : w.length ≤ N)
    (text : Bytes) :
    ∃ buf', snprintf buf w.length (N - w.length) text = some buf' ∧ Holds N (w ++ text) buf' := by
  obtain ⟨tail, hb, hl⟩ := h
  rcases Nat.lt_or_ge w.length N with hlt | hge
  · have hw' : w.take (N - 1) = w := List.take_of_length_le (by omega)
    rw [hw'] at hb
    subst hb
    rw [List.length_append, List.length_cons] at hl
    have htake : (w ++ text).take (N - 1) = w ++ text.take (N - w.length - 1) := by
      rw [List.take_append, hw', Nat.sub_right_comm]
    have hlen := List.length_take_le (N - w.length - 1) text
    refine ⟨_, by
      rw [Text.snprintf, if_neg (by omega)]
      exact if_pos (by simp only [List.length_append, List.length_cons, List.length_nil]; omega),
      (0 :: tail).drop (text.take (N - w.length - 1) ++ [0]).length, ?_, ?_⟩
    · rw [htake, List.take_left, List.drop_append, List.drop_of_length_le (Nat.le_add_right _ _)]
      simp
    · simp only [List.length_append, List.length_take, List.length_drop, List.length_cons,
        List.length_nil]
      omega
  · refine ⟨buf, by rw [Text.snprintf, if_pos (by omega)], tail, ?_, hl⟩
    rw [List.take_append_of_le_length (by omega), hb]

/-- The C string in a buffer is the part of a NUL-free text that it holds. -/
theorem Holds.cString {N : ℕ} {w buf : Bytes} (h : Holds N w buf) (hw : ∀ c ∈ w, c ≠ 0) :
    cString buf = w.take (N - 1) := by
  obtain ⟨tail, rfl, -⟩ := h
  have hz : ∀ c ∈ w.take (N - 1), decide (c ≠ 0) = true := fun c hc =>
    decide_eq_true (hw c (List.mem_of_mem_take hc))
  rw [Text.cString, List.takeWhile_append_of_pos hz, List.takeWhile_cons_of_neg (by simp),
    List.append_nil]

end VehicleSpy.Text
