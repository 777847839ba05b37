import Mathlib.Data.List.Basic

/-! # Fetching from a source

A source tries its items one after the other and hands out the first result. Fetching until it
has none left collects the results of all items, in their order.
-/

namespace VehicleSpy.Machine

variable {α β γ : Type*} (f : α → Option β)

/-- The first result of the items that are left, with the items after it. -/
def fetch : List α → Option (β × List α)
  | [] => none
  | a :: as =>
    match f a with
    | some b => some (b, as)
    | none => fetch as

theorem length_fetch_lt {as rest : List α} {b : β} (h : fetch f as = some (b, rest)) :
    rest.length < as.length := by
  induction as with
  | nil => cases h
  | cons a as ih =>
    rw [List.length_cons]
    rw [fetch] at h
    split at h
    · obtain ⟨-, rfl⟩ := Prod.mk.inj (Option.some.inj h)
      exact Nat.lt_succ_self _
    · exact Nat.lt_succ_of_lt (ih h)

/-- The results of fetching until there is none. -/
def drain (as : List α) : List β :=
  match h : fetch f as with
  | none => []
  | some (b, rest) =>
    have := length_fetch_lt f h
    b :: drain rest
termination_by as.length

theorem filterMap_of_fetch_none {as : List α} (h : fetch f as = none) : as.filterMap f = [] := by
  induction as with
  | nil => rfl
  | cons a as ih =>
    rw [fetch] at h
    split at h
    · cases h
    · next hf => rw [List.filterMap_cons_none hf, ih h]

theorem filterMap_of_fetch_some {as rest : List α} {b : β} (h : fetch f as = some (b, rest)) :
    as.filterMap f = b :: rest.filterMap f := by
  induction as with
  | nil => cases h
  | cons a as ih =>
    rw [fetch] at h
    split at h
    · next hf =>
      obtain ⟨rfl, rfl⟩ := Prod.mk.inj (Option.some.inj h)
      rw [List.filterMap_cons_some hf]
    · next hf => rw [List.filterMap_cons_none hf, ih h]

theorem drain_eq (as : List α) : drain f as = as.filterMap f := by
  fun_induction drain f as with
  | case1 as h => exact (filterMap_of_fetch_none f h).symm
  | case2 as b rest h _ ih => rw [filterMap_of_fetch_some f h, ih]

variable {f}

/-- All items have the results that they should have exactly if each of them has. -/
theorem filterMap_eq_map_iff {as : List α} {g : α → β} :
    as.filterMap f = as.map g ↔ ∀ a ∈ as, f a = some (g a) := by
  induction as with
  | nil => simp
  | cons a as ih =>
    rw [List.forall_mem_cons, ← ih]
    cases hf : f a with
    | none =>
      have hle := List.length_filterMap_le f as
      rw [List.filterMap_cons_none hf]
      refine iff_of_false (fun h => ?_) (by simp)
      have hlen := congrArg List.length h
      rw [List.length_map, List.length_cons] at hlen
      omega
    | some b =>
      rw [List.filterMap_cons_some hf, List.map_cons, List.cons.injEq, Option.some.injEq]

section Count

variable {as : List α}

theorem length_eq_of_flatMap {g : α → List β} {h : α → List γ}
    (hle : ∀ a ∈ as, (g a).length ≤ (h a).length)
    (heq : (as.flatMap g).length = (as.flatMap h).length) :
    ∀ a ∈ as, (g a).length = (h a).length := by
  have hall : (as.flatMap g).length ≤ (as.flatMap h).length ∧
      ((as.flatMap g).length = (as.flatMap h).length → ∀ a ∈ as, (g a).length = (h a).length) := by
    clear heq
    induction as with
    | nil => exact ⟨Nat.le_refl _, fun _ => List.forall_mem_nil _⟩
    | cons a as ih =>
      obtain ⟨ha, has⟩ := List.forall_mem_cons.mp hle
      obtain ⟨hrest, heach⟩ := ih has
      rw [List.flatMap_cons, List.flatMap_cons, List.length_append, List.length_append]
      refine ⟨Nat.add_le_add ha hrest, fun h => List.forall_mem_cons.mpr ⟨?_, heach ?_⟩⟩
      · omega
      · omega
  exact hall.2 heq

/-- Items that yield several results each yield one each, if those with other results yield
results of one kind only, and none where their own would be of that kind. -/
theorem flatMap_eq_map_iff {g : α → List β} {f : α → β} (S : β → Bool)
    (hother : ∀ a ∈ as, g a ≠ [f a] → (∀ b ∈ g a, S b = true) ∧ (S (f a) = true → g a = [])) :
    as.flatMap g = as.map f ↔ ∀ a ∈ as, g a = [f a] := by
  constructor
  · intro h
    have hzero : ∀ a ∈ as, g a ≠ [f a] → (g a).filter (!S ·) = [] := fun a ha hg =>
      List.filter_eq_nil_iff.mpr fun b hb => by simp [(hother a ha hg).1 b hb]
    have hown : as.flatMap (fun a => [f a]) = as.map f := List.map_eq_flatMap.symm
    have hkind : ∀ a ∈ as, ((g a).filter (!S ·)).length = ([f a].filter (!S ·)).length := by
      refine length_eq_of_flatMap (fun a ha => ?_) ?_
      · by_cases hg : g a = [f a]
        · exact Nat.le_of_eq (by rw [hg])
        · rw [hzero a ha hg]
          exact Nat.zero_le _
      · rw [← List.filter_flatMap, ← List.filter_flatMap, h, hown]
    -- an item whose results are not its own one has none
    have hnil : ∀ a ∈ as, g a ≠ [f a] → g a = [] := by
      intro a ha hg
      apply (hother a ha hg).2
      have hlength := hkind a ha
      rw [hzero a ha hg] at hlength
      simpa using List.eq_nil_of_length_eq_zero hlength.symm
    have hlength : ∀ a ∈ as, (g a).length = [f a].length := by
      refine length_eq_of_flatMap (fun a ha => ?_) (by rw [h, hown])
      by_cases hg : g a = [f a]
      · exact Nat.le_of_eq (by rw [hg])
      · rw [hnil a ha hg]
        exact Nat.zero_le _
    intro a ha
    by_contra hg
    have hone := hlength a ha
    rw [hnil a ha hg] at hone
    cases hone
  · intro h
    rw [List.flatMap_congr h, ← List.map_eq_flatMap]

end Count

section Calls

variable {σ : Type*} (next : σ → Option β × σ)

/-- The results of a number of calls; a call without a result may change the state. -/
def collect : ℕ → σ → List β
  | 0, _ => []
  | n + 1, s => (next s).1.toList ++ collect n (next s).2

variable {next} {owed : σ → List β}

/-- If a call hands out what is owed and never more is owed, so do all calls. -/
theorem collect_prefix (h : ∀ s, (next s).1.toList ++ owed (next s).2 <+: owed s) (n : ℕ) (s : σ) :
    collect next n s <+: owed s := by
  induction n generalizing s with
  | zero => exact List.nil_prefix
  | succ n ih => exact ((List.prefix_append_right_inj _).mpr (ih _)).trans (h s)

/-- If nothing that is owed gets lost and every call comes closer to the end, enough calls hand out
all of it. -/
theorem collect_eq {P : σ → Prop} (μ : σ → ℕ) (hP : ∀ s, P s → P (next s).2)
    (howed : ∀ s, P s → (next s).1.toList ++ owed (next s).2 = owed s)
    (hμ : ∀ s, P s → μ (next s).2 < μ s ∨ owed s = []) {n : ℕ} {s : σ} (hs : P s) (hn : μ s ≤ n) :
    collect next n s = owed s := by
  have hnil : ∀ n s, P s → owed s = [] → collect next n s = [] := by
    intro n
    induction n with
    | zero => exact fun _ _ _ => rfl
    | succ n ih =>
      rintro s hs hs'
      have hstep := howed s hs
      rw [hs', List.append_eq_nil_iff] at hstep
      rw [collect, hstep.1, ih _ (hP s hs) hstep.2, List.append_nil]
  induction n generalizing s with
  | zero =>
    rcases hμ s hs with hlt | hdone
    · omega
    · exact hdone.symm
  | succ n ih =>
    rcases hμ s hs with hlt | hdone
    · rw [collect, ih (hP s hs) (by omega), howed s hs]
    · rw [hnil _ s hs hdone, hdone]

end Calls

end VehicleSpy.Machine
