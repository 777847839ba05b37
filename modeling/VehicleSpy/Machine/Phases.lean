import Mathlib.Data.List.Chain
import VehicleSpy.Machine.MillisCounter
import VehicleSpy.Machine.Run

/-! # Phases of given durations, kept by a millisecond counter

A timer is in one phase after the other, and each tick ends the phase if its duration is over. With
ticks a bounded time apart a phase lasts its duration and less than that bound longer. With a
period that divides the durations the phases end exactly when they should, although each of them
is measured from the tick that ended the one before.
-/

namespace VehicleSpy.Machine

/-- A phase, and the time at which it begins. -/
structure Phase where
  index : ℕ
  start : ℕ
  deriving DecidableEq, Repr

/-- The phase that the timer is in, and the counter value at which it began. -/
structure PhaseTimer where
  index : ℕ
  start : UInt32
  deriving DecidableEq, Repr

namespace PhaseTimer

variable (d : ℕ → UInt32)

/-- A tick ends the phase if its duration is over. -/
def tick (s : PhaseTimer) (time : ℕ) : PhaseTimer × List Phase :=
  if d s.index ≤ counter time - s.start then
    (⟨s.index + 1, counter time⟩, [⟨s.index + 1, time⟩])
  else (s, [])

/-- The timer in a phase. -/
def inPhase (x : Phase) : PhaseTimer := ⟨x.index, counter x.start⟩

/-- The next phase begins when the duration is over, less than `g` late. -/
def Lasts (g : ℕ) (x y : Phase) : Prop :=
  y.index = x.index + 1 ∧ x.start + (d x.index).toNat ≤ y.start ∧
    y.start < x.start + (d x.index).toNat + g

/-- Ticks in order, at most `g` apart. -/
def Ticks (g : ℕ) (times : List ℕ) : Prop := times.IsChain fun s t => s ≤ t ∧ t ≤ s + g

/-- The phase of a time: it has begun by then, and no phase behind it has. -/
def InForce (phases : List Phase) (t : ℕ) (x : Phase) : Prop :=
  ∃ u v, phases = u ++ x :: v ∧ x.start ≤ t ∧ ∀ y ∈ v, t < y.start

/-- When a phase begins if each one before it lasts exactly its duration. -/
def due : ℕ → ℕ
  | 0 => 0
  | i + 1 => due i + (d i).toNat

/-- The times of `k` ticks with a period. -/
def periodic (start period k : ℕ) : List ℕ :=
  (List.range k).map fun j => start + period * (j + 1)

variable {d} {g : ℕ} {x : Phase} {u t : ℕ}

theorem tick_inPhase (hlo : x.start ≤ t) (hhi : t < x.start + 2 ^ 32) :
    tick d (inPhase x) t =
      if x.start + (d x.index).toNat ≤ t then (inPhase ⟨x.index + 1, t⟩, [⟨x.index + 1, t⟩])
      else (inPhase x, []) := by
  have hiff : d x.index ≤ counter t - counter x.start ↔ x.start + (d x.index).toNat ≤ t := by
    rw [UInt32.le_iff_toNat_le, toNat_counter_sub hlo hhi]
    omega
  simp only [tick, inPhase, hiff]

/-- From a tick `u` in the phase `x` on, each phase lasts, and none is overdue at the last tick. -/
theorem lasts_from (hd : ∀ i, 0 < (d i).toNat ∧ (d i).toNat + g ≤ 2 ^ 32)
    (hlo : x.start ≤ u) (hhi : u < x.start + (d x.index).toNat) {times : List ℕ}
    (h : Ticks g (u :: times)) :
    (x :: emitted (tick d) (inPhase x) times).IsChain (Lasts d g) ∧
      ∃ y, after (tick d) (inPhase x) times = inPhase y ∧
        y ∈ (x :: emitted (tick d) (inPhase x) times).getLast? ∧
        ∀ t ∈ (u :: times).getLast?, y.start ≤ t ∧ t < y.start + (d y.index).toNat := by
  induction times generalizing x u with
  | nil =>
    refine ⟨List.isChain_singleton x, x, rfl, rfl, ?_⟩
    rintro t ht
    obtain rfl : u = t := by simpa using ht
    exact ⟨hlo, hhi⟩
  | cons t times ih =>
    obtain ⟨⟨hut, htu⟩, h⟩ := List.isChain_cons_cons.mp h
    have hround := (hd x.index).2
    have htick := tick_inPhase (d := d) (hlo.trans hut) (show t < x.start + 2 ^ 32 by omega)
    by_cases hover : x.start + (d x.index).toNat ≤ t
    · rw [if_pos hover] at htick
      obtain ⟨hchain, y, hafter, hlast, hy⟩ :=
        ih (x := ⟨x.index + 1, t⟩) le_rfl (Nat.lt_add_of_pos_right (hd _).1) h
      simp only [emitted_cons, after_cons, htick, List.singleton_append]
      refine ⟨List.isChain_cons_cons.mpr ⟨⟨rfl, hover, by simp only; omega⟩, hchain⟩, y, hafter,
        ?_, ?_⟩
      · rwa [List.getLast?_cons_cons]
      · rwa [List.getLast?_cons_cons]
    · rw [if_neg hover] at htick
      obtain ⟨hchain, y, hafter, hlast, hy⟩ := ih (hlo.trans hut) (by omega) h
      simp only [emitted_cons, after_cons, htick, List.nil_append]
      exact ⟨hchain, y, hafter, hlast, by rwa [List.getLast?_cons_cons]⟩

/-- A phase begins at a tick. -/
theorem emitted_start_mem {s : PhaseTimer} {times : List ℕ} :
    ∀ y ∈ emitted (tick d) s times, y.start ∈ times := by
  induction times generalizing s with
  | nil => exact fun y hy => absurd hy List.not_mem_nil
  | cons t times ih =>
    intro y hy
    rw [emitted_cons] at hy
    rcases List.mem_append.mp hy with hy | hy
    · rw [tick] at hy
      split at hy
      · rw [List.mem_singleton.mp hy]
        exact List.mem_cons_self
      · cases hy
    · exact List.mem_cons_of_mem t (ih y hy)

/-- The phases behind one begin when its duration is over. -/
theorem le_start_of_isChain {phases : List Phase} (h : (x :: phases).IsChain (Lasts d g)) :
    ∀ y ∈ phases, x.start + (d x.index).toNat ≤ y.start := by
  induction phases generalizing x with
  | nil => exact fun y hy => absurd hy List.not_mem_nil
  | cons z phases ih =>
    obtain ⟨⟨-, hlo, -⟩, h⟩ := List.isChain_cons_cons.mp h
    intro y hy
    rcases List.mem_cons.mp hy with rfl | hy
    · exact hlo
    · have hle := ih h y hy
      omega

/-- At each tick the timer is in the phase of that time, which is not overdue. -/
theorem inForce_from (hd : ∀ i, 0 < (d i).toNat ∧ (d i).toNat + g ≤ 2 ^ 32)
    (hlo : x.start ≤ u) (hhi : u < x.start + (d x.index).toNat) {done rest : List ℕ}
    (h : Ticks g (u :: (done ++ rest))) (ht : t ∈ (u :: done).getLast?) :
    ∃ y, after (tick d) (inPhase x) done = inPhase y ∧
      InForce (x :: emitted (tick d) (inPhase x) (done ++ rest)) t y ∧
      t < y.start + (d y.index).toNat := by
  have hsplit : u :: done = (u :: done).dropLast ++ [t] :=
    (List.dropLast_append_getLast? t ht).symm
  rw [← List.cons_append] at h
  have hdone : Ticks g (u :: done) := List.IsChain.left_of_append h
  have hrest : Ticks g (t :: rest) := by
    rw [hsplit, List.append_assoc] at h
    exact List.IsChain.right_of_append h
  obtain ⟨-, y, hafter, hlast, hy⟩ := lasts_from hd hlo hhi hdone
  obtain ⟨hstart, hopen⟩ := hy t ht
  obtain ⟨hlater, -⟩ := lasts_from hd hstart hopen hrest
  refine ⟨y, hafter, ⟨(x :: emitted (tick d) (inPhase x) done).dropLast,
    emitted (tick d) (inPhase y) rest, ?_, hstart, ?_⟩, hopen⟩
  · rw [emitted_append, hafter, ← List.cons_append]
    conv_lhs => rw [← List.dropLast_append_getLast? y hlast]
    exact List.append_assoc _ _ _
  · exact fun z hz => hopen.trans_le (le_start_of_isChain hlater z hz)

/-- From a phase that may be overdue by any time at the first tick, less than a round of the
counter: the phases that begin from there on, and the first and the last of them. -/
theorem lasts_late (hd : ∀ i, 0 < (d i).toNat ∧ (d i).toNat + g ≤ 2 ^ 32)
    (hlo : x.start ≤ t) (hhi : t < x.start + 2 ^ 32) {times : List ℕ}
    (h : Ticks g (t :: times)) :
    (emitted (tick d) (inPhase x) (t :: times)).IsChain (Lasts d g) ∧
      (∀ y ∈ (emitted (tick d) (inPhase x) (t :: times)).head?,
        x.start + (d x.index).toNat ≤ y.start ∧
          (y.start = t ∨ y.start < x.start + (d x.index).toNat + g)) ∧
      ∃ y ∈ (x :: emitted (tick d) (inPhase x) (t :: times)).getLast?,
        ∀ u ∈ (t :: times).getLast?, y.start ≤ u ∧ u < y.start + (d y.index).toNat := by
  have htick := tick_inPhase (d := d) hlo hhi
  by_cases hover : x.start + (d x.index).toNat ≤ t
  · rw [if_pos hover] at htick
    obtain ⟨hchain, y, -, hlast, hy⟩ :=
      lasts_from (x := ⟨x.index + 1, t⟩) hd le_rfl (Nat.lt_add_of_pos_right (hd _).1) h
    simp only [emitted_cons, htick, List.singleton_append]
    refine ⟨hchain, ?_, y, ?_, hy⟩
    · rintro _ ⟨⟩
      exact ⟨hover, Or.inl rfl⟩
    · rwa [List.getLast?_cons_cons]
  · rw [if_neg hover] at htick
    obtain ⟨hchain, y, -, hlast, hy⟩ := lasts_from hd hlo (not_le.mp hover) h
    simp only [emitted_cons, htick, List.nil_append]
    refine ⟨hchain.tail, ?_, y, hlast, hy⟩
    intro z hz
    obtain ⟨phases, hphases⟩ := List.head?_eq_some_iff.mp hz
    rw [hphases] at hchain
    obtain ⟨⟨-, hfrom, hless⟩, -⟩ := List.isChain_cons_cons.mp hchain
    exact ⟨hfrom, Or.inr hless⟩

section Periodic

variable {start period k : ℕ}

theorem due_succ (d : ℕ → UInt32) (i : ℕ) : due d (i + 1) = due d i + (d i).toNat := rfl

theorem dvd_due (hdvd : ∀ i, period ∣ (d i).toNat) (i : ℕ) : period ∣ due d i := by
  induction i with
  | zero => exact Nat.dvd_zero _
  | succ i ih => exact Nat.dvd_add ih (hdvd i)

theorem periodic_succ (start period k : ℕ) :
    periodic start period (k + 1) = periodic start period k ++ [start + period * (k + 1)] := by
  rw [periodic, List.range_succ, List.map_append]
  rfl

/-- With a period that divides every duration the timer is in the phase that is due. -/
theorem after_periodic (hd : ∀ i, 0 < (d i).toNat ∧ (d i).toNat + period ≤ 2 ^ 32)
    (hdvd : ∀ i, period ∣ (d i).toNat) (start k : ℕ) :
    ∃ i, due d i ≤ period * k ∧ period * k < due d (i + 1) ∧
      after (tick d) (inPhase ⟨0, start⟩) (periodic start period k) =
        inPhase ⟨i, start + due d i⟩ := by
  induction k with
  | zero =>
    refine ⟨0, le_rfl, ?_, rfl⟩
    rw [due_succ]
    exact Nat.lt_add_left _ (hd 0).1
  | succ k ih =>
    obtain ⟨i, hlo, hhi, hafter⟩ := ih
    have hpos : 0 < (d i).toNat := (hd i).1
    have hround := (hd i).2
    have hnext : period * (k + 1) ≤ due d (i + 1) := by
      -- both are multiples of the period
      obtain ⟨m, hm⟩ := dvd_due hdvd (i + 1)
      rw [hm] at hhi ⊢
      exact Nat.mul_le_mul_left _ (Nat.lt_of_mul_lt_mul_left hhi)
    have hmul : period * (k + 1) = period * k + period := Nat.mul_succ _ _
    rw [due_succ] at hhi hnext
    have htick := tick_inPhase (d := d) (x := ⟨i, start + due d i⟩) (t := start + period * (k + 1))
      (by simp only; omega) (by simp only; omega)
    rw [periodic_succ, after_concat, hafter, htick]
    by_cases hover : start + due d i + (d i).toNat ≤ start + period * (k + 1)
    · have heq : period * (k + 1) = due d (i + 1) := by
        rw [due_succ]
        omega
      refine ⟨i + 1, heq.ge, ?_, ?_⟩
      · rw [due_succ _ (i + 1), heq]
        exact Nat.lt_add_of_pos_right (hd _).1
      · rw [if_pos hover, ← heq]
    · refine ⟨i, by omega, by rw [due_succ]; omega, ?_⟩
      rw [if_neg hover]

end Periodic

end PhaseTimer

end VehicleSpy.Machine
