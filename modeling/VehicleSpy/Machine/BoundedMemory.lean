import Mathlib.Data.Finset.Card
import VehicleSpy.Machine.Prefixes

/-! # A search with a bounded memory

A search remembers what it has tried, and goes on with something that it does not remember. Its
memory forgets everything when it is full. So the search tries nothing twice just as long as
there is room for all that it may try.
-/

namespace VehicleSpy.Machine

variable {α : Type*} {cap : ℕ} {s H : Finset α} {l : List α} {a : α}

/-- What a memory holds on to when something is to be remembered. -/
def retained (cap : ℕ) (s : Finset α) : Finset α := if cap ≤ s.card then ∅ else s

section Retained

theorem retained_of_lt (h : s.card < cap) : retained cap s = s := if_neg (Nat.not_le.mpr h)

theorem retained_of_le (h : cap ≤ s.card) : retained cap s = ∅ := if_pos h

theorem retained_subset : retained cap s ⊆ s := by
  rcases Nat.lt_or_ge s.card cap with h | h
  · rw [retained_of_lt h]
  · rw [retained_of_le h]
    exact Finset.empty_subset s

theorem card_retained_lt (hcap : 0 < cap) : (retained cap s).card < cap := by
  rcases Nat.lt_or_ge s.card cap with h | h
  · rwa [retained_of_lt h]
  · rwa [retained_of_le h, Finset.card_empty]

theorem retained_retained : retained cap (retained cap s) = retained cap s := by
  rcases Nat.lt_or_ge s.card cap with h | h
  · rw [retained_of_lt h, retained_of_lt h]
  · rw [retained_of_le h]
    exact Finset.subset_empty.mp retained_subset

end Retained

variable [DecidableEq α]

def remember (cap : ℕ) (s : Finset α) (a : α) : Finset α := insert a (retained cap s)

def rememberAll (cap : ℕ) (s : Finset α) (l : List α) : Finset α := l.foldl (remember cap) s

/-- All but the first is tried only where the memory does not hold it. -/
def Searches (cap : ℕ) (s : Finset α) (l : List α) : Prop :=
  EverySplit (fun u a => u = [] ∨ a ∉ rememberAll cap s u) l

/-- The memory forgets at most when the first is remembered. -/
def Spares (cap : ℕ) (s : Finset α) (l : List α) : Prop :=
  EverySplit (fun u _ => u = [] ∨ (rememberAll cap s u).card < cap) l

section Memory

theorem remember_retained : remember cap (retained cap s) a = remember cap s a :=
  congrArg (insert a) retained_retained

@[simp] theorem rememberAll_nil : rememberAll cap s [] = s := rfl

@[simp] theorem rememberAll_cons :
    rememberAll cap s (a :: l) = rememberAll cap (remember cap s a) l := rfl

@[simp] theorem rememberAll_concat :
    rememberAll cap s (l ++ [a]) = remember cap (rememberAll cap s l) a := by
  rw [rememberAll, List.foldl_append]
  rfl

/-- What is remembered has been tried, or was not forgotten at first. -/
theorem rememberAll_subset (h : l ≠ []) :
    rememberAll cap s l ⊆ retained cap s ∪ l.toFinset := by
  induction l using List.reverseRecOn with
  | nil => exact absurd rfl h
  | append_singleton l a ih =>
    rintro b hb
    rw [rememberAll_concat, remember, Finset.mem_insert] at hb
    rw [Finset.mem_union, List.mem_toFinset, List.mem_append, List.mem_singleton]
    rcases hb with rfl | hb
    · exact Or.inr (Or.inr rfl)
    · rcases eq_or_ne l [] with rfl | hl
      · exact Or.inl hb
      · have hmem := ih hl (retained_subset hb)
        rw [Finset.mem_union, List.mem_toFinset] at hmem
        exact hmem.imp_right Or.inl

/-- New elements are all remembered while there is room for them. -/
theorem rememberAll_fresh (hn : l.Nodup) (hl : ∀ a ∈ l, a ∉ s) (hc : s.card + l.length ≤ cap) :
    rememberAll cap s l = s ∪ l.toFinset := by
  induction l using List.reverseRecOn with
  | nil => simp
  | append_singleton l a ih =>
    rw [List.length_append, List.length_singleton, ← Nat.add_assoc] at hc
    have hbefore := ih (List.Nodup.of_append_left hn)
      (fun b hb => hl b (List.mem_append_left _ hb)) (Nat.le_of_succ_le hc)
    have hlt : (s ∪ l.toFinset).card < cap :=
      ((Finset.card_union_le _ _).trans
        (Nat.add_le_add_left (List.toFinset_card_le l) _)).trans_lt hc
    rw [rememberAll_concat, hbefore, remember, retained_of_lt hlt]
    ext b
    simp only [Finset.mem_insert, Finset.mem_union, List.mem_toFinset, List.mem_append,
      List.mem_singleton]
    tauto

end Memory

section Search

theorem searches_concat :
    Searches cap s (l ++ [a]) ↔ Searches cap s l ∧ (l = [] ∨ a ∉ rememberAll cap s l) :=
  everySplit_concat

theorem spares_concat :
    Spares cap s (l ++ [a]) ↔ Spares cap s l ∧ (l = [] ∨ (rememberAll cap s l).card < cap) :=
  everySplit_concat

/-- A memory that spares what was tried holds it. -/
theorem Spares.mem_rememberAll (h : Spares cap s l) (ha : a ∈ l) : a ∈ rememberAll cap s l := by
  induction l using List.reverseRecOn with
  | nil => exact absurd ha List.not_mem_nil
  | append_singleton l b ih =>
    obtain ⟨hl, hroom⟩ := spares_concat.mp h
    rw [rememberAll_concat, remember, Finset.mem_insert]
    rcases List.mem_append.mp ha with ha | ha
    · have hlt := hroom.resolve_left (List.ne_nil_of_mem ha)
      rw [retained_of_lt hlt]
      exact Or.inr (ih hl ha)
    · exact Or.inl (List.mem_singleton.mp ha)

theorem Spares.nodup_concat (h : Spares cap s l) (hn : l.Nodup)
    (hs : Searches cap s (l ++ [a])) : (l ++ [a]).Nodup := by
  refine List.nodup_append.mpr ⟨hn, List.nodup_singleton a, ?_⟩
  rintro b hb c hc rfl
  obtain rfl := List.mem_singleton.mp hc
  rcases (searches_concat.mp hs).2 with rfl | hnew
  · exact absurd hb List.not_mem_nil
  · exact hnew (h.mem_rememberAll hb)

theorem Spares.nodup (h : Spares cap s l) (hs : Searches cap s l) : l.Nodup := by
  induction l using List.reverseRecOn with
  | nil => exact List.nodup_nil
  | append_singleton l a ih =>
    have hl := (spares_concat.mp h).1
    exact hl.nodup_concat (ih hl (searches_concat.mp hs).1) hs

/-- With room for all that is tried, nothing tried is forgotten. -/
theorem spares_of_card_le (hs : Searches cap s l)
    (hc : (retained cap s ∪ l.toFinset).card ≤ cap) : Spares cap s l := by
  rintro u a v rfl
  refine or_iff_not_imp_left.mpr fun hu => ?_
  have hnew : a ∉ rememberAll cap s u := (hs u a v rfl).resolve_left hu
  have hsub : insert a (rememberAll cap s u) ⊆ retained cap s ∪ (u ++ a :: v).toFinset := by
    rintro b hb
    rw [Finset.mem_union, List.mem_toFinset, List.mem_append, List.mem_cons]
    rcases Finset.mem_insert.mp hb with rfl | hb
    · exact Or.inr (Or.inr (Or.inl rfl))
    · have hmem := rememberAll_subset hu hb
      rw [Finset.mem_union, List.mem_toFinset] at hmem
      exact hmem.imp_right Or.inl
  have hle := (Finset.card_le_card hsub).trans hc
  rwa [Finset.card_insert_of_notMem hnew] at hle

theorem searches_fresh (hn : l.Nodup) (hl : ∀ a ∈ l, a ∉ s) (hc : s.card + l.length ≤ cap + 1) :
    Searches cap s l := by
  rintro u a v rfl
  rw [List.nodup_append, List.nodup_cons] at hn
  refine Or.inr ?_
  have hlen : s.card + u.length ≤ cap := by
    rw [List.length_append, List.length_cons] at hc
    omega
  rw [rememberAll_fresh hn.1 (fun b hb => hl b (List.mem_append_left _ hb)) hlen,
    Finset.mem_union, List.mem_toFinset, not_or]
  exact ⟨hl a (by simp), fun ha => hn.2.2 a ha a List.mem_cons_self rfl⟩

theorem searches_retained : Searches cap (retained cap s) l ↔ Searches cap s l := by
  have hmemory : ∀ u ≠ [], rememberAll cap (retained cap s) u = rememberAll cap s u := by
    rintro (_ | ⟨b, u⟩) hu
    · exact absurd rfl hu
    · rw [rememberAll_cons, rememberAll_cons, remember_retained]
  have hsplit : ∀ (u : List α) (a : α), (u = [] ∨ a ∉ rememberAll cap (retained cap s) u) ↔
      (u = [] ∨ a ∉ rememberAll cap s u) := by
    rintro u a
    rcases eq_or_ne u [] with rfl | hu
    · simp
    · rw [hmemory u hu]
  simp only [Searches, EverySplit, hsplit]

/-- The memory is full when the last of the elements is tried, and so forgets the first. -/
theorem searches_repeat {m : List α} {c : α} (hn : (a :: m ++ [c]).Nodup)
    (hl : ∀ b ∈ a :: m ++ [c], b ∉ s) (hc : s.card + (a :: m).length = cap) :
    Searches cap s (a :: m ++ [c] ++ [a]) := by
  have hn' := List.Nodup.of_append_left hn
  have hl' : ∀ b ∈ a :: m, b ∉ s := fun b hb => hl b (List.mem_append_left _ hb)
  rw [searches_concat]
  constructor
  · refine searches_fresh hn hl ?_
    rw [List.length_append, List.length_singleton]
    omega
  · refine Or.inr ?_
    have hfull : cap ≤ (s ∪ (a :: m).toFinset).card := by
      have hdisjoint : Disjoint s (a :: m).toFinset := by
        rw [Finset.disjoint_right]
        exact fun b hb => hl' b (List.mem_toFinset.mp hb)
      rw [Finset.card_union_of_disjoint hdisjoint, List.toFinset_card_of_nodup hn', hc]
    rw [rememberAll_concat, rememberAll_fresh hn' hl' hc.le, remember, retained_of_le hfull,
      Finset.mem_insert, not_or]
    refine ⟨?_, Finset.notMem_empty a⟩
    rintro rfl
    exact (List.nodup_append.mp hn).2.2 a List.mem_cons_self a (by simp) rfl

/-- With one element more than there is room for, the first of them can be tried again. -/
theorem exists_repeat (hcap : 0 < cap) (hH : cap < (retained cap s ∪ H).card) :
    ∃ l, (∀ a ∈ l, a ∈ H) ∧ Searches cap s l ∧ ¬ l.Nodup := by
  obtain ⟨r, hr⟩ : ∃ r, r = retained cap s := ⟨_, rfl⟩
  have hroom : r.card < cap := hr ▸ card_retained_lt hcap
  rw [← hr, Finset.union_comm, ← Finset.card_sdiff_add_card] at hH
  obtain ⟨f, hf, hcard⟩ := Finset.exists_subset_card_eq
    (show cap - r.card + 1 ≤ (H \ r).card by omega)
  have hmem : ∀ a ∈ f.toList, a ∈ H ∧ a ∉ r :=
    fun a ha => Finset.mem_sdiff.mp (hf (Finset.mem_toList.mp ha))
  have hlen : f.toList.length = cap - r.card + 1 := by rw [Finset.length_toList, hcard]
  have hn := Finset.nodup_toList f
  obtain ⟨a, m, c, hsplit⟩ : ∃ a m c, f.toList = a :: m ++ [c] := by
    obtain ⟨t, c, ht⟩ := (List.eq_nil_or_concat f.toList).resolve_left
      (List.ne_nil_of_length_pos (by omega))
    rcases t with _ | ⟨a, m⟩
    · rw [ht, List.concat_eq_append, List.nil_append, List.length_singleton] at hlen
      omega
    · exact ⟨a, m, c, by rw [ht, List.concat_eq_append]⟩
  rw [hsplit] at hmem hlen hn
  rw [List.length_append, List.length_singleton] at hlen
  have hsearch : Searches cap r (a :: m ++ [c] ++ [a]) :=
    searches_repeat hn (fun b hb => (hmem b hb).2) (by omega)
  refine ⟨a :: m ++ [c] ++ [a], ?_, searches_retained.mp (hr ▸ hsearch), by simp⟩
  rintro b hb
  rcases List.mem_append.mp hb with hb | hb
  · exact (hmem b hb).1
  · obtain rfl := List.mem_singleton.mp hb
    exact (hmem b (by simp)).1

/-- A search among given elements tries nothing twice, whatever it takes up, just when its memory
has room for all of them. -/
theorem searches_nodup_iff (hcap : 0 < cap) :
    (∀ l, (∀ a ∈ l, a ∈ H) → Searches cap s l → l.Nodup) ↔ (retained cap s ∪ H).card ≤ cap := by
  constructor
  · intro h
    by_contra hc
    obtain ⟨l, hl, hs, hn⟩ := exists_repeat hcap (Nat.lt_of_not_le hc)
    exact hn (h l hl hs)
  · rintro hc l hl hs
    refine (spares_of_card_le hs (le_trans (Finset.card_le_card ?_) hc)).nodup hs
    exact Finset.union_subset_union_right fun a ha => hl a (List.mem_toFinset.mp ha)

end Search

end VehicleSpy.Machine
