import Mathlib.Algebra.GroupWithZero.Nat
import Mathlib.Tactic.Common

/-! # A millisecond counter of 32 bits

The counter shows the true time modulo its range. A difference of two of its values is the time
between them, as long as less than a whole round has passed; an order of two of its values says
something only within one round.
-/

namespace VehicleSpy.Machine

/-- What the counter shows at a time. -/
def counter (time : ℕ) : UInt32 := UInt32.ofNat time

variable {s t : ℕ}

@[simp] theorem toNat_counter (t : ℕ) : (counter t).toNat = t % 2 ^ 32 := UInt32.toNat_ofNat'

/-- The unsigned difference of two times less than a round apart. -/
theorem toNat_counter_sub (hle : s ≤ t) (hlt : t < s + 2 ^ 32) :
    (counter t - counter s).toNat = t - s := by
  rw [UInt32.toNat_sub, toNat_counter, toNat_counter]
  omega

theorem toNat_counter_sub_zero (t : ℕ) : (counter t - 0).toNat = t % 2 ^ 32 := by
  rw [UInt32.toNat_sub, toNat_counter]
  simp

/-- The order of two counter values is that of the places in their rounds. -/
theorem counter_lt_iff : counter s < counter t ↔ s % 2 ^ 32 < t % 2 ^ 32 := by
  rw [UInt32.lt_iff_toNat_lt, toNat_counter, toNat_counter]

theorem counter_add (s t : ℕ) : counter s + counter t = counter (s + t) :=
  (UInt32.ofNat_add s t).symm

/-- The counter tells whether a deadline is over: in the round of the deadline, and in a later
one from its place in the round on. -/
def TellsDeadline (deadline now : ℕ) : Prop :=
  now / 2 ^ 32 = deadline / 2 ^ 32 ∨
    deadline / 2 ^ 32 < now / 2 ^ 32 ∧ deadline % 2 ^ 32 ≤ now % 2 ^ 32

instance (deadline now : ℕ) : Decidable (TellsDeadline deadline now) :=
  inferInstanceAs (Decidable (_ ∨ _ ∧ _))

/-- For a deadline that is not more than a round away, this is when the counter values stand in the
order of the times. -/
theorem counter_lt_iff_lt_iff {deadline now : ℕ} (h : deadline ≤ now + 2 ^ 32) :
    (counter now < counter deadline ↔ now < deadline) ↔ TellsDeadline deadline now := by
  rw [counter_lt_iff, TellsDeadline]
  omega

end VehicleSpy.Machine
