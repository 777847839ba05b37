import Mathlib.Data.List.DropRight
import Mathlib.Data.List.Infix

/-! # Byte strings

A C++ string is the list of its bytes. The string operations that the parsers
and the command handlers share, with the lemmas that let them be used without
unfolding.
-/

namespace VehicleSpy.Text

abbrev Byte := UInt8

abbrev Bytes := List Byte

/-- The bytes of an ASCII literal. -/
def ascii (s : String) : Bytes := s.toList.map fun c => c.toNat.toUInt8

def TAB : Byte := 9
def LF : Byte := 10
def CR : Byte := 13
def SP : Byte := 32
def COMMA : Byte := 44
def COLON : Byte := 58
def PROMPT : Byte := 62

/-- A byte that ends a line. -/
def isLineEnd (c : Byte) : Bool := c == CR || c == LF

/-- A member of the set that the trimming code strips: blank, tab, CR, LF. -/
def isBlank (c : Byte) : Bool := c == SP || c == TAB || c == CR || c == LF

/-- A blank or a tab, the separators inside a line. -/
def isSpaceOrTab (c : Byte) : Bool := c == SP || c == TAB

/-- A statement about all bytes is checked for each of the 256. -/
theorem forall_byte {p : Byte → Prop} (h : ∀ n : Fin 256, p (UInt8.ofFin n)) (c : Byte) : p c :=
  h c.toFin

/-- `std::toupper` in the C locale. -/
def toupper (c : Byte) : Byte := if 97 ≤ c ∧ c ≤ 122 then c - 32 else c

/-- `std::tolower` in the C locale. -/
def tolower (c : Byte) : Byte := if 65 ≤ c ∧ c ≤ 90 then c + 32 else c

/-- `find_first_not_of`, `find_last_not_of` and `substr` between them; empty if all is blank. -/
def trim (s : Bytes) : Bytes := (s.dropWhile isBlank).rdropWhile isBlank

/-- `s.rfind(p, 0) == 0`. -/
def startsWith (p s : Bytes) : Bool := p.isPrefixOf s

/-- `s.find(c)` for a single character. -/
def find (c : Byte) (s : Bytes) : Option ℕ := s.findIdx? (· == c)

/-- What stands before and after the first occurrence of a character. -/
def cutAt (c : Byte) (s : Bytes) : Option (Bytes × Bytes) :=
  (find c s).map fun i => (s.take i, s.drop (i + 1))

/-- What stands before and after the last occurrence of a character, as `s.rfind(c)` finds it. -/
def cutAtLast (c : Byte) (s : Bytes) : Option (Bytes × Bytes) :=
  (cutAt c s.reverse).map fun (v, u) => (u.reverse, v.reverse)

/-- `s.find(t)` for a string: the first position where `t` occurs. -/
def findStr (t : Bytes) : Bytes → Option ℕ
  | [] => if t = [] then some 0 else none
  | c :: s => if t.isPrefixOf (c :: s) then some 0 else (findStr t s).map (· + 1)

theorem startsWith_iff {p s : Bytes} : startsWith p s = true ↔ p <+: s := List.isPrefixOf_iff_prefix

theorem notSpace_of_notBlank {c : Byte} (h : isBlank c = false) : isSpaceOrTab c = false := by
  simp only [isBlank, Bool.or_eq_false_iff] at h
  simp only [isSpaceOrTab, Bool.or_eq_false_iff]
  exact h.1.1

section Trim

variable {s : Bytes}

theorem dropWhile_eq_self_iff (p : Byte → Bool) :
    s.dropWhile p = s ↔ ∀ c ∈ s.head?, p c = false := by
  cases s with
  | nil => simp
  | cons c s =>
    cases hc : p c with
    | true =>
      have h : s.dropWhile p ≠ c :: s := fun h => by
        have := (List.dropWhile_sublist p (l := s)).length_le
        rw [h, List.length_cons] at this
        omega
      simpa [hc] using h
    | false => simp [hc]

theorem rdropWhile_eq_self_iff (p : Byte → Bool) :
    s.rdropWhile p = s ↔ ∀ c ∈ s.getLast?, p c = false := by
  rw [List.rdropWhile, ← List.head?_reverse, ← dropWhile_eq_self_iff, List.reverse_eq_iff]

/-- Stripping the end of a string stops at a character that stays. -/
theorem rdropWhile_append_cons {p : Byte → Bool} {c : Byte} (hc : p c = false) (u v : Bytes) :
    (u ++ c :: v).rdropWhile p = u ++ c :: v.rdropWhile p := by
  rw [List.rdropWhile, List.reverse_append, List.reverse_cons, List.append_assoc,
    List.dropWhile_append]
  by_cases h : (v.reverse.dropWhile p).isEmpty
  · rw [if_pos h, List.singleton_append, List.dropWhile_cons_of_neg (by simp [hc])]
    simp [List.rdropWhile, List.isEmpty_iff.mp h]
  · rw [if_neg h]
    simp [List.rdropWhile]

/-- Around a character that stays, trimming strips the front of one part and the end of the
other. -/
theorem trim_append_cons {u v : Bytes} {c : Byte} (hc : isBlank c = false) :
    trim (u ++ c :: v) = u.dropWhile isBlank ++ c :: v.rdropWhile isBlank := by
  rw [trim, List.dropWhile_append]
  by_cases h : (u.dropWhile isBlank).isEmpty
  · rw [if_pos h, List.dropWhile_cons_of_neg (by simp [hc]), List.isEmpty_iff.mp h]
    exact rdropWhile_append_cons hc [] v
  · rw [if_neg h, rdropWhile_append_cons hc]

end Trim

section Find

variable {c : Byte} {s t : Bytes}

theorem find_none_iff : find c s = none ↔ c ∉ s := by
  simp only [find, List.findIdx?_eq_none_iff, beq_eq_false_iff_ne, ne_eq]
  exact ⟨fun h hc => h c hc rfl, fun h d hd he => h (he ▸ hd)⟩

theorem mem_of_find {i : ℕ} (h : find c s = some i) : c ∈ s := by
  by_contra hc
  rw [find_none_iff.mpr hc] at h
  cases h

/-- The first occurrence stands right after the part that does not contain the character. -/
theorem find_append_cons (h : c ∉ s) : find c (s ++ c :: t) = some s.length := by
  have hs : s.findIdx? (· == c) = none := find_none_iff.mpr h
  simp [find, List.findIdx?_append, hs, List.findIdx?_cons]

theorem cutAt_append_cons (h : c ∉ s) : cutAt c (s ++ c :: t) = some (s, t) := by
  rw [cutAt, find_append_cons h, Option.map_some, List.take_left, List.drop_append,
    List.drop_of_length_le (Nat.le_add_right _ _)]
  simp

/-- A string has at most one split at the first occurrence of a character. -/
theorem first_split_inj {u v u' v' : Bytes} (hu : c ∉ u) (hu' : c ∉ u')
    (h : u ++ c :: v = u' ++ c :: v') : u = u' ∧ v = v' := by
  have hl : u.length = u'.length := by
    have := find_append_cons hu (t := v)
    rw [h, find_append_cons hu'] at this
    exact (Option.some.inj this).symm
  obtain ⟨rfl, ht⟩ := List.append_inj h hl
  exact ⟨rfl, (List.cons.inj ht).2⟩

theorem find_split (hc : c ∈ s) :
    ∃ u v, s = u ++ c :: v ∧ c ∉ u ∧ find c s = some u.length := by
  obtain ⟨u, v, rfl, hu⟩ := List.eq_append_cons_of_mem hc
  exact ⟨u, v, rfl, hu, find_append_cons hu⟩

theorem cutAt_eq_none_iff : cutAt c s = none ↔ c ∉ s := by
  rw [cutAt, Option.map_eq_none_iff, find_none_iff]

theorem cutAt_eq_some {u v : Bytes} (h : cutAt c s = some (u, v)) : s = u ++ c :: v ∧ c ∉ u := by
  have hc : c ∈ s := by
    by_contra hc
    rw [cutAt_eq_none_iff.mpr hc] at h
    cases h
  obtain ⟨u', v', rfl, hu', -⟩ := find_split hc
  rw [cutAt_append_cons hu'] at h
  obtain ⟨rfl, rfl⟩ := Prod.mk.inj (Option.some.inj h)
  exact ⟨rfl, hu'⟩

theorem cutAtLast_iff {u v : Bytes} :
    cutAtLast c s = some (u, v) ↔ s = u ++ c :: v ∧ c ∉ v := by
  unfold cutAtLast
  constructor
  · intro h
    obtain ⟨⟨v', u'⟩, hcut, he⟩ := Option.map_eq_some_iff.mp h
    obtain ⟨rfl, rfl⟩ := Prod.mk.inj he
    obtain ⟨hs, hv⟩ := cutAt_eq_some hcut
    refine ⟨?_, by simpa using hv⟩
    rw [← List.reverse_reverse s, hs]
    simp
  · rintro ⟨rfl, hv⟩
    have hrev : (u ++ c :: v).reverse = v.reverse ++ c :: u.reverse := by simp
    rw [hrev, cutAt_append_cons (by simpa using hv)]
    simp

end Find

section FindStr

variable {c : Byte} {s t u v : Bytes}

theorem findStr_none_iff : findStr t s = none ↔ ¬ t <:+: s := by
  induction s with
  | nil => simp [findStr]
  | cons c s ih =>
    rw [findStr, List.infix_cons_iff, not_or, ← ih, ← List.isPrefixOf_iff_prefix]
    split <;> simp [*]

theorem findStr_isSome_iff : (findStr t s).isSome = true ↔ t <:+: s := by
  rw [← not_iff_not, ← findStr_none_iff, Option.not_isSome_iff_eq_none]

/-- A text that stands nowhere before is found where it stands. -/
theorem findStr_append (hu : ∀ w, w <:+ u → w ≠ [] → ¬ t <+: w ++ v) (hv : t <+: v) :
    findStr t (u ++ v) = some u.length := by
  induction u with
  | nil =>
    cases v with
    | nil => simp [findStr, List.prefix_nil.mp hv]
    | cons c v => simp [findStr, List.isPrefixOf_iff_prefix.mpr hv]
  | cons c u ih =>
    have hhead : t.isPrefixOf (c :: (u ++ v)) = false := by
      rw [Bool.eq_false_iff, ne_eq, List.isPrefixOf_iff_prefix]
      exact hu (c :: u) List.suffix_rfl (List.cons_ne_nil c u)
    rw [List.cons_append, findStr, hhead,
      ih fun w hw => hu w (hw.trans (List.suffix_cons c u))]
    rfl

/-- What is found is a first occurrence. -/
theorem findStr_split {i : ℕ} (h : findStr t s = some i) :
    s = s.take i ++ (t ++ s.drop (i + t.length)) ∧ (t ≠ [] → ¬ t <:+: s.take i) := by
  induction s generalizing i with
  | nil =>
    rw [findStr] at h
    split at h
    · next ht =>
      subst ht
      exact ⟨by simp, fun hne => absurd rfl hne⟩
    · cases h
  | cons c s ih =>
    rw [findStr] at h
    split at h
    · next hp =>
      obtain rfl := Option.some.inj h
      obtain ⟨v, hv⟩ := List.isPrefixOf_iff_prefix.mp hp
      refine ⟨by simp [← hv], fun hne hin => hne ?_⟩
      simpa using hin
    · next hp =>
      obtain ⟨j, hj, rfl⟩ := Option.map_eq_some_iff.mp h
      obtain ⟨hs, hfree⟩ := ih hj
      constructor
      · rw [List.take_succ_cons, Nat.add_right_comm, List.drop_succ_cons, List.cons_append, ← hs]
      · rw [List.take_succ_cons, List.infix_cons_iff, not_or]
        refine fun hne => ⟨fun hpre => hp ?_, hfree hne⟩
        exact List.isPrefixOf_iff_prefix.mpr
          (hpre.trans (List.cons_prefix_cons.mpr ⟨rfl, List.take_prefix j s⟩))

theorem findStr_prefix {i : ℕ} (h : findStr t s = some i) : t <+: s.drop i := by
  induction s generalizing i with
  | nil =>
    rw [findStr] at h
    split at h
    · next ht => exact ht ▸ List.nil_prefix
    · cases h
  | cons c s ih =>
    rw [findStr] at h
    split at h
    · next hp =>
      obtain rfl := Option.some.inj h
      exact List.isPrefixOf_iff_prefix.mp hp
    · obtain ⟨k, hk, rfl⟩ := Option.map_eq_some_iff.mp h
      exact ih hk

/-- No occurrence stands before the one that is found. -/
theorem findStr_least {i j : ℕ} (h : findStr t s = some i) (hj : t <+: s.drop j) : i ≤ j := by
  induction s generalizing i j with
  | nil =>
    rw [findStr] at h
    split at h
    · obtain rfl := Option.some.inj h
      exact Nat.zero_le j
    · cases h
  | cons c s ih =>
    rw [findStr] at h
    split at h
    · obtain rfl := Option.some.inj h
      exact Nat.zero_le j
    · next hp =>
      obtain ⟨k, hk, rfl⟩ := Option.map_eq_some_iff.mp h
      cases j with
      | zero => exact absurd (List.isPrefixOf_iff_prefix.mpr hj) hp
      | succ j => exact Nat.succ_le_succ (ih hk hj)

/-- An occurrence stays the first one whatever follows. -/
theorem findStr_append_right {i : ℕ} (h : findStr t s = some i) (v : Bytes) :
    findStr t (s ++ v) = some i := by
  induction s generalizing i with
  | nil =>
    rw [findStr] at h
    split at h
    · next ht =>
      rw [← h, ht]
      cases v <;> rfl
    · cases h
  | cons c s ih =>
    rw [findStr] at h
    rw [List.cons_append, findStr]
    split at h
    · next hp =>
      have hpre := (List.isPrefixOf_iff_prefix.mp hp).trans (List.prefix_append (c :: s) v)
      rw [← h]
      exact if_pos (List.isPrefixOf_iff_prefix.mpr hpre)
    · next hp =>
      obtain ⟨j, hj, rfl⟩ := Option.map_eq_some_iff.mp h
      have hlen : t.length ≤ (c :: s).length := by
        have hs := congrArg List.length (findStr_split hj).1
        simp only [List.length_append, List.length_cons] at hs ⊢
        omega
      rw [ih hj, if_neg fun hpre => hp ?_]
      · rfl
      · exact List.isPrefixOf_iff_prefix.mpr (List.prefix_of_prefix_length_le
          (List.isPrefixOf_iff_prefix.mp hpre) (List.prefix_append (c :: s) v) hlen)

/-- A text without the character does not reach over it. -/
theorem prefix_append_cons (hc : c ∉ t) : t <+: u ++ c :: v ↔ t <+: u := by
  constructor
  · intro h
    rcases List.prefix_or_prefix_of_prefix h (List.prefix_append u (c :: v)) with h | ⟨w, rfl⟩
    · exact h
    · rw [List.prefix_append_right_inj] at h
      cases w with
      | nil => rw [List.append_nil]
      | cons d w =>
        obtain ⟨rfl, -⟩ := List.cons_prefix_cons.mp h
        exact absurd (by simp) hc
  · exact fun h => h.trans (List.prefix_append _ _)

theorem infix_append_cons (hc : c ∉ t) (ht : t ≠ []) :
    t <:+: u ++ c :: v ↔ t <:+: u ∨ t <:+: v := by
  constructor
  · intro h
    induction u with
    | nil =>
      rcases List.infix_cons_iff.mp h with h | h
      · exact absurd (List.prefix_nil.mp ((prefix_append_cons (u := []) hc).mp h)) ht
      · exact Or.inr h
    | cons d u ih =>
      rcases List.infix_cons_iff.mp h with h | h
      · exact Or.inl ((prefix_append_cons (u := d :: u) hc).mp h).isInfix
      · exact (ih h).imp_left fun h => List.infix_cons h
  · rintro (h | h)
    · exact h.trans (List.prefix_append _ _).isInfix
    · exact h.trans ⟨u ++ [c], [], by simp⟩

/-- A text that ends with a character, and has it nowhere else, ends at an occurrence of it. -/
theorem infix_of_concat (hc : c ∉ t) (ht : t ≠ []) (h : t ++ [c] <:+: u ++ c :: v) :
    t ++ [c] <:+: u ∨ t <:+ u ∨ t ++ [c] <:+: v := by
  induction u with
  | nil =>
    rcases List.infix_cons_iff.mp h with h | h
    · have hfront := (List.prefix_append t [c]).trans h
      exact absurd (List.prefix_nil.mp ((prefix_append_cons (u := []) hc).mp hfront)) ht
    · exact Or.inr (Or.inr h)
  | cons d u ih =>
    rcases List.infix_cons_iff.mp h with h | h
    · have hfront := (List.prefix_append t [c]).trans h
      obtain ⟨w, hw⟩ := (prefix_append_cons (u := d :: u) hc).mp hfront
      have hrest : t ++ [c] <+: (d :: u) ++ c :: v := h
      rw [← hw, List.append_assoc, List.prefix_append_right_inj] at hrest
      rw [← hw]
      cases w with
      | nil => exact Or.inr (Or.inl (by simp))
      | cons e w =>
        obtain ⟨rfl, -⟩ := List.cons_prefix_cons.mp hrest
        exact Or.inl ⟨[], w, by simp⟩
    · rcases ih h with h | h | h
      · exact Or.inl (List.infix_cons h)
      · exact Or.inr (Or.inl (h.trans (List.suffix_cons d u)))
      · exact Or.inr (Or.inr h)

end FindStr

end VehicleSpy.Text
