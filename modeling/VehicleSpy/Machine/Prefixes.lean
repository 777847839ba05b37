import Mathlib.Data.List.Induction

/-! # Readers along a list

A reader is given each element of a list together with the elements before it, and may
yield something there. What it yields in all, and when two readers yield the same.
-/

namespace VehicleSpy.Machine

variable {α β : Type*}

/-- What each element of a list yields, given the elements before it. -/
def alongPrefixes (f : List α → α → Option β) : List α → List α → List β
  | _, [] => []
  | u, a :: v => (f u a).toList ++ alongPrefixes f (u ++ [a]) v

variable {f g : List α → α → Option β} {u v x y : List α} {a c : α}

/-- The splits of a list with a last element: at that element, or before it. -/
theorem concat_eq_split (h : v ++ [a] = x ++ c :: y) :
    (x = v ∧ c = a) ∨ ∃ y', v = x ++ c :: y' := by
  rcases List.eq_nil_or_concat y with rfl | ⟨y, d, rfl⟩
  · obtain ⟨rfl, rfl⟩ := List.append_singleton_inj.mp h
    exact Or.inl ⟨rfl, rfl⟩
  · rw [List.concat_eq_append, ← List.cons_append, ← List.append_assoc] at h
    exact Or.inr ⟨y, (List.append_singleton_inj.mp h).1⟩

/-- A property of each element of a list, given the elements before it. -/
def EverySplit (P : List α → α → Prop) (l : List α) : Prop :=
  ∀ x a y, l = x ++ a :: y → P x a

theorem everySplit_nil (P : List α → α → Prop) : EverySplit P [] := by
  rintro x a y h
  simp at h

theorem everySplit_concat {P : List α → α → Prop} :
    EverySplit P (v ++ [a]) ↔ EverySplit P v ∧ P v a := by
  constructor
  · intro h
    constructor
    · rintro x c y rfl
      exact h x c (y ++ [a]) (by simp)
    · exact h v a [] rfl
  · rintro ⟨hv, ha⟩ x c y h
    rcases concat_eq_split h with ⟨rfl, rfl⟩ | ⟨y', hy⟩
    · exact ha
    · exact hv x c y' hy

theorem everySplit_cons {P : List α → α → Prop} :
    EverySplit P (a :: v) ↔ P [] a ∧ EverySplit (fun u => P (a :: u)) v := by
  constructor
  · intro h
    refine ⟨h [] a v rfl, ?_⟩
    rintro x c y rfl
    exact h (a :: x) c y rfl
  · rintro ⟨ha, hv⟩ (_ | ⟨b, x⟩) c y h
    · obtain ⟨rfl, -⟩ := List.cons.inj h
      exact ha
    · obtain ⟨rfl, hy⟩ := List.cons.inj h
      exact hv x c y hy

theorem EverySplit.of_prefix {P : List α → α → Prop} (h : EverySplit P v) (hu : u <+: v) :
    EverySplit P u := by
  obtain ⟨w, rfl⟩ := hu
  rintro x c y rfl
  exact h x c (y ++ w) (by simp)

/-- A property of every prefix, told by what its last element has to meet. -/
theorem forall_prefix_iff_everySplit {P : List α → Prop} {Q : List α → α → Prop} {l : List α}
    (hnil : P []) (hstep : ∀ v a, v ++ [a] <+: l → P v → (P (v ++ [a]) ↔ Q v a)) :
    (∀ u, u <+: l → P u) ↔ EverySplit Q l := by
  induction l using List.reverseRecOn with
  | nil => simpa [everySplit_nil] using hnil
  | append_singleton l a ih =>
    have hl := ih fun v b hv => hstep v b (hv.trans (List.prefix_append l [a]))
    rw [everySplit_concat, ← hl]
    constructor
    · intro h
      have hpre : ∀ u, u <+: l → P u := fun u hu => h u (hu.trans (List.prefix_append l [a]))
      exact ⟨hpre, (hstep l a (List.prefix_refl _) (hpre l (List.prefix_refl _))).mp
        (h _ (List.prefix_refl _))⟩
    · rintro ⟨hpre, ha⟩ u hu
      rcases List.prefix_concat_iff.mp hu with rfl | hu
      · exact (hstep l a (List.prefix_refl _) (hpre l (List.prefix_refl _))).mpr ha
      · exact hpre u hu

section Unanswered

variable {p q : α → Prop} {l m : List α}

/-- An element of one kind, and none of another kind behind it. -/
def Unanswered (p q : α → Prop) (l : List α) : Prop :=
  ∃ x a y, l = x ++ a :: y ∧ p a ∧ ∀ b ∈ y, ¬ q b

@[simp] theorem unanswered_nil : ¬ Unanswered p q [] := by
  rintro ⟨x, b, y, h, -⟩
  simp at h

@[simp] theorem unanswered_cons :
    Unanswered p q (a :: l) ↔ (p a ∧ ∀ b ∈ l, ¬ q b) ∨ Unanswered p q l := by
  constructor
  · rintro ⟨_ | ⟨c, x⟩, b, y, h, hb, hy⟩
    · obtain ⟨rfl, rfl⟩ := List.cons.inj h
      exact Or.inl ⟨hb, hy⟩
    · obtain ⟨rfl, rfl⟩ := List.cons.inj h
      exact Or.inr ⟨x, b, y, rfl, hb, hy⟩
  · rintro (⟨ha, hl⟩ | ⟨x, b, y, rfl, hb, hy⟩)
    · exact ⟨[], a, l, rfl, ha, hl⟩
    · exact ⟨a :: x, b, y, rfl, hb, hy⟩

/-- What comes later answers what came before. -/
theorem unanswered_append :
    Unanswered p q (l ++ m) ↔ Unanswered p q m ∨ Unanswered p q l ∧ ∀ b ∈ m, ¬ q b := by
  induction l with
  | nil => simp
  | cons c l ih =>
    rw [List.cons_append, unanswered_cons, unanswered_cons, ih, List.forall_mem_append]
    tauto

end Unanswered

theorem alongPrefixes_concat (f : List α → α → Option β) (u v : List α) (a : α) :
    alongPrefixes f u (v ++ [a]) = alongPrefixes f u v ++ (f (u ++ v) a).toList := by
  induction v generalizing u with
  | nil => simp [alongPrefixes]
  | cons b v ih => simp only [List.cons_append, alongPrefixes, ih, List.append_assoc,
      List.nil_append]

theorem mem_alongPrefixes {b : β} :
    b ∈ alongPrefixes f u v ↔ ∃ x a y, v = x ++ a :: y ∧ f (u ++ x) a = some b := by
  induction v using List.reverseRecOn with
  | nil => simp [alongPrefixes]
  | append_singleton v a ih =>
    rw [alongPrefixes_concat, List.mem_append, ih, Option.mem_toList]
    constructor
    · rintro (⟨x, c, y, rfl, h⟩ | h)
      · exact ⟨x, c, y ++ [a], by simp, h⟩
      · exact ⟨v, a, [], rfl, h⟩
    · rintro ⟨x, c, y, hv, h⟩
      rcases concat_eq_split hv with ⟨rfl, rfl⟩ | ⟨y', rfl⟩
      · exact Or.inr h
      · exact Or.inl ⟨x, c, y', rfl, h⟩

theorem alongPrefixes_eq_nil_iff :
    alongPrefixes f u v = [] ↔ ∀ x a y, v = x ++ a :: y → f (u ++ x) a = none := by
  rw [List.eq_nil_iff_forall_not_mem]
  constructor
  · intro h x a y hv
    by_contra hne
    obtain ⟨b, hb⟩ := Option.ne_none_iff_exists'.mp hne
    exact h b (mem_alongPrefixes.mpr ⟨x, a, y, hv, hb⟩)
  · intro h b hb
    obtain ⟨x, a, y, hv, hf⟩ := mem_alongPrefixes.mp hb
    rw [h x a y hv] at hf
    cases hf

theorem filter_alongPrefixes (p : β → Bool) (f : List α → α → Option β) (u v : List α) :
    (alongPrefixes f u v).filter p = alongPrefixes (fun u a => (f u a).filter p) u v := by
  induction v generalizing u with
  | nil => rfl
  | cons a v ih =>
    rw [alongPrefixes, List.filter_append, ih, alongPrefixes]
    cases h : f u a with
    | none => rfl
    | some b => cases hb : p b <;> simp [hb, Option.filter]

theorem length_alongPrefixes_le (h : ∀ u a, g u a = none ∨ g u a = f u a) (u v : List α) :
    (alongPrefixes g u v).length ≤ (alongPrefixes f u v).length := by
  induction v generalizing u with
  | nil => exact Nat.le_refl _
  | cons a v ih =>
    have hv := ih (u ++ [a])
    simp only [alongPrefixes, List.length_append]
    rcases h u a with h | h
    · rw [h, Option.toList_none, List.length_nil]; omega
    · rw [h]; omega

/-- A reader that yields part of what another one yields reads the same only if it leaves
nothing out. -/
theorem alongPrefixes_eq_iff (h : ∀ u a, g u a = none ∨ g u a = f u a) :
    alongPrefixes f u v = alongPrefixes g u v ↔
      ∀ x a y, v = x ++ a :: y → f (u ++ x) a = g (u ++ x) a := by
  induction v using List.reverseRecOn with
  | nil => simp [alongPrefixes]
  | append_singleton v a ih =>
    rw [alongPrefixes_concat, alongPrefixes_concat]
    constructor
    · intro heq
      have hlast : f (u ++ v) a = g (u ++ v) a := by
        rcases h (u ++ v) a with hg | hg
        · have hle := length_alongPrefixes_le h u v
          have hl := congrArg List.length heq
          rw [hg] at hl ⊢
          cases hf : f (u ++ v) a with
          | none => rfl
          | some b =>
            simp only [hf, List.length_append, Option.toList_some, Option.toList_none,
              List.length_singleton, List.length_nil] at hl
            omega
        · exact hg.symm
      rw [hlast, List.append_cancel_right_eq] at heq
      intro x c y hv
      rcases concat_eq_split hv with ⟨rfl, rfl⟩ | ⟨y', hy⟩
      · exact hlast
      · exact ih.mp heq x c y' hy
    · intro hall
      rw [ih.mpr fun x c y hv => hall x c (y ++ [a]) (by simp [hv]), hall v a [] rfl]

end VehicleSpy.Machine
