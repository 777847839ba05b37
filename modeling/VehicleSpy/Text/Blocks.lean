import Mathlib.Algebra.GroupWithZero.Nat
import Mathlib.Data.List.Induction

/-! # Blocks in a stream

A stream is a sequence of blocks, perhaps followed by something else. What has been received
of it are some whole blocks and a part of the next one, the block in progress.
-/

namespace VehicleSpy.Text

variable {α ι : Type*}

/-- How much of the block in progress has been received, by the sizes of the blocks and the
number of letters received. -/
def inProgress : List ℕ → ℕ → ℕ
  | [], k => k
  | n :: ns, k => if n ≤ k then inProgress ns (k - n) else k

theorem inProgress_of_lt {ns : List ℕ} {k : ℕ} (h : ∀ n ∈ ns.head?, k < n) :
    inProgress ns k = k := by
  cases ns with
  | nil => rfl
  | cons n ns => exact if_neg (Nat.not_le.mpr (h n rfl))

/-- Whole blocks in front count for nothing. -/
theorem inProgress_sum (ms ns : List ℕ) (k : ℕ) :
    inProgress (ms ++ ns) (ms.sum + k) = inProgress ns k := by
  induction ms with
  | nil => rw [List.sum_nil, Nat.zero_add, List.nil_append]
  | cons m ms ih =>
    rw [List.cons_append, inProgress, if_pos (by rw [List.sum_cons]; omega), ← ih]
    congr 1
    rw [List.sum_cons]
    omega

/-- While a stream of blocks is not over, less than one block is in progress. -/
theorem inProgress_lt {ns : List ℕ} {m k : ℕ} (hm : ∀ n ∈ ns, n ≤ m) (hk : k < ns.sum) :
    inProgress ns k < m := by
  induction ns generalizing k with
  | nil => exact absurd hk (Nat.not_lt_zero k)
  | cons n ns ih =>
    rw [List.sum_cons] at hk
    by_cases hle : n ≤ k
    · rw [inProgress, if_pos hle]
      exact ih (fun n' hn' => hm n' (List.mem_cons_of_mem _ hn')) (by omega)
    · rw [inProgress, if_neg hle]
      exact Nat.lt_of_lt_of_le (Nat.not_le.mp hle) (hm n List.mem_cons_self)

variable (block : ι → List α)

/-- The letters `q` are what has been received of the block in progress, the first of `fs`. -/
def Partial (fs : List ι) (q : List α) : Prop :=
  ∀ f ∈ fs.head?, q <+: block f ∧ q.length < (block f).length

/-- What has been received are some whole blocks and a part of the next one. -/
theorem blocks_cut {bs : List ι} {p s junk : List α} (h : p ++ s = bs.flatMap block ++ junk) :
    ∃ gs fs q, bs = gs ++ fs ∧ p = gs.flatMap block ++ q ∧
      q ++ s = fs.flatMap block ++ junk ∧ Partial block fs q := by
  induction bs generalizing p with
  | nil => exact ⟨[], [], p, rfl, rfl, h, by rintro f ⟨⟩⟩
  | cons b bs ih =>
    rw [List.flatMap_cons, List.append_assoc] at h
    have hpre : p <+: block b ++ (bs.flatMap block ++ junk) := ⟨s, h⟩
    rcases Nat.lt_or_ge p.length (block b).length with hlt | hge
    · refine ⟨[], b :: bs, p, rfl, rfl, ?_, ?_⟩
      · rw [h, List.flatMap_cons, List.append_assoc]
      · rintro f ⟨⟩
        exact ⟨List.prefix_of_prefix_length_le hpre (List.prefix_append _ _)
          (Nat.le_of_lt hlt), hlt⟩
    · obtain ⟨p, rfl⟩ := List.prefix_of_prefix_length_le (List.prefix_append _ _) hpre hge
      rw [List.append_assoc, List.append_cancel_left_eq] at h
      obtain ⟨gs, fs, q, rfl, rfl, hq, hfs⟩ := ih h
      exact ⟨b :: gs, fs, q, rfl, by rw [List.flatMap_cons, List.append_assoc], hq, hfs⟩

variable {block}

/-- The part of the block in progress is all that counts. -/
theorem inProgress_blocks {gs fs : List ι} {q : List α} (k : ℕ) :
    inProgress ((gs ++ fs).map fun f => (block f).length)
        ((gs.flatMap block ++ q).length + k) =
      inProgress (fs.map fun f => (block f).length) (q.length + k) := by
  rw [List.map_append, List.length_append, List.length_flatMap, Nat.add_assoc]
  exact inProgress_sum _ _ _

theorem inProgress_partial {fs : List ι} {q : List α} (h : Partial block fs q) :
    inProgress (fs.map fun f => (block f).length) q.length = q.length := by
  apply inProgress_of_lt
  intro n hn
  rw [List.head?_map] at hn
  obtain ⟨f, hf, rfl⟩ := Option.map_eq_some_iff.mp hn
  exact (h f hf).2

end VehicleSpy.Text
