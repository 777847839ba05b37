import Mathlib.Data.List.DropRight
import Mathlib.Data.List.Induction

/-! # Tokens between separators

The tokens of a word are its maximal non-empty stretches without separators. Separators at
either end do not matter, nor how the separators are told from letters that do not occur.
-/

namespace VehicleSpy.Text

variable {α : Type*}

section Split

variable {p q : α → Bool} {s t : List α} {c : α}

theorem splitOnP_congr (h : ∀ c ∈ s, p c = q c) : s.splitOnP p = s.splitOnP q := by
  induction s with
  | nil => rfl
  | cons c s ih =>
    rw [List.splitOnP_cons_eq_if_modifyHead, List.splitOnP_cons_eq_if_modifyHead,
      h c List.mem_cons_self, ih fun d hd => h d (List.mem_cons_of_mem _ hd)]

theorem mem_of_mem_splitOnP (h : t ∈ s.splitOnP p) : ∀ c ∈ t, c ∈ s ∧ p c = false := by
  induction s generalizing t with
  | nil =>
    obtain rfl := List.mem_singleton.mp h
    exact List.forall_mem_nil _
  | cons a s ih =>
    obtain ⟨w, ws, hw⟩ := List.exists_cons_of_ne_nil (List.splitOnP_ne_nil p s)
    rw [List.splitOnP_cons_eq_if_modifyHead, hw] at h
    rw [hw] at ih
    have hrest : ∀ v ∈ w :: ws, ∀ c ∈ v, c ∈ a :: s ∧ p c = false := by
      intro v hv c hc
      obtain ⟨hcs, hp⟩ := ih hv c hc
      exact ⟨List.mem_cons_of_mem _ hcs, hp⟩
    split at h
    · rcases List.mem_cons.mp h with rfl | h
      · exact List.forall_mem_nil _
      · exact hrest t h
    · next ha =>
      rcases List.mem_cons.mp h with rfl | h
      · intro c hc
        rcases List.mem_cons.mp hc with rfl | hc
        · exact ⟨List.mem_cons_self, Bool.eq_false_iff.mpr ha⟩
        · exact hrest w List.mem_cons_self c hc
      · exact hrest t (List.mem_cons_of_mem _ h)

theorem mem_splitOnP_of_mem (hc : c ∈ s) : p c = true ∨ ∃ t ∈ s.splitOnP p, c ∈ t := by
  induction s with
  | nil => cases hc
  | cons a s ih =>
    obtain ⟨w, ws, hw⟩ := List.exists_cons_of_ne_nil (List.splitOnP_ne_nil p s)
    rw [List.splitOnP_cons_eq_if_modifyHead, hw]
    rw [hw] at ih
    split
    · next ha =>
      rcases List.mem_cons.mp hc with rfl | hc
      · exact Or.inl ha
      · exact (ih hc).imp_right fun ⟨t, ht, hct⟩ => ⟨t, List.mem_cons_of_mem _ ht, hct⟩
    · rcases List.mem_cons.mp hc with rfl | hc
      · exact Or.inr ⟨_, List.mem_cons_self, List.mem_cons_self⟩
      · rcases ih hc with hp | ⟨t, ht, hct⟩
        · exact Or.inl hp
        · rcases List.mem_cons.mp ht with rfl | ht
          · exact Or.inr ⟨_, List.mem_cons_self, List.mem_cons_of_mem _ hct⟩
          · exact Or.inr ⟨t, List.mem_cons_of_mem _ ht, hct⟩

/-- Cutting drops the separators and nothing else. -/
theorem flatten_splitOnP (p : α → Bool) (s : List α) :
    (s.splitOnP p).flatten = s.filter (!p ·) := by
  induction s with
  | nil => rfl
  | cons c s ih =>
    obtain ⟨w, ws, hw⟩ := List.exists_cons_of_ne_nil (List.splitOnP_ne_nil p s)
    rw [hw] at ih
    rw [List.splitOnP_cons_eq_if_modifyHead, hw, List.filter_cons, ← ih]
    cases p c <;> rfl

theorem length_le_of_mem_splitOnP (h : t ∈ s.splitOnP p) : t.length ≤ s.length := by
  have hle := (List.sublist_flatten_of_mem h).length_le
  rw [flatten_splitOnP] at hle
  exact hle.trans (List.length_filter_le _ _)

/-- A word with a separator has shorter pieces. -/
theorem length_lt_of_mem_splitOnP (hc : c ∈ s) (hp : p c = true) (h : t ∈ s.splitOnP p) :
    t.length < s.length := by
  have hle := (List.sublist_flatten_of_mem h).length_le
  rw [flatten_splitOnP] at hle
  exact hle.trans_lt (List.length_filter_lt_length_iff_exists.mpr ⟨c, hc, by simp [hp]⟩)

theorem splitOnP_append_free (h : ∀ c ∈ s, p c = false) (w : List α) :
    (s ++ w).splitOnP p = (w.splitOnP p).modifyHead (s ++ ·) := by
  induction s with
  | nil =>
    rw [List.nil_append]
    cases w.splitOnP p <;> rfl
  | cons c s ih =>
    obtain ⟨hc, hs⟩ := List.forall_mem_cons.mp h
    rw [List.cons_append, List.splitOnP_cons_eq_if_modifyHead, if_neg (by simp [hc]), ih hs]
    cases w.splitOnP p <;> rfl

/-- Each letter stands in a piece or separates two. -/
theorem length_splitOnP_add (p : α → Bool) (s : List α) :
    (s.splitOnP p).flatten.length + (s.splitOnP p).length = s.length + 1 := by
  induction s with
  | nil => rfl
  | cons c s ih =>
    obtain ⟨w, ws, hw⟩ := List.exists_cons_of_ne_nil (List.splitOnP_ne_nil p s)
    rw [hw] at ih
    rw [List.splitOnP_cons_eq_if_modifyHead, hw, List.length_cons, ← ih]
    split
    · rw [List.flatten_cons, List.nil_append, @List.length_cons _ [] (w :: ws)]
      omega
    · rw [List.modifyHead_cons, List.flatten_cons, List.flatten_cons, List.cons_append,
        List.length_cons, List.length_cons, List.length_cons]
      omega

/-- Cutting at two kinds of separators is cutting at the one kind and then at the other. -/
theorem splitOnP_or (p q : α → Bool) (s : List α) :
    s.splitOnP (fun c => p c || q c) = (s.splitOnP p).flatMap (List.splitOnP q) := by
  induction s with
  | nil => simp
  | cons c s ih =>
    obtain ⟨w, ws, hw⟩ := List.exists_cons_of_ne_nil (List.splitOnP_ne_nil p s)
    rw [hw, List.flatMap_cons] at ih
    rw [List.splitOnP_cons_eq_if_modifyHead, ih, List.splitOnP_cons_eq_if_modifyHead, hw]
    cases hp : p c with
    | true => simp
    | false =>
      obtain ⟨u, us, hu⟩ := List.exists_cons_of_ne_nil (List.splitOnP_ne_nil q w)
      cases hq : q c <;> simp [List.splitOnP_cons_eq_if_modifyHead, hq, hu]

end Split

section Tokens

variable {p q : α → Bool} {s t : List α} {c : α}

/-- The maximal non-empty stretches without separators. -/
def tokensBy (p : α → Bool) (s : List α) : List (List α) := (s.splitOnP p).filter (· ≠ [])

theorem tokensBy_congr (h : ∀ c ∈ s, p c = q c) : tokensBy p s = tokensBy q s := by
  rw [tokensBy, splitOnP_congr h, tokensBy]

theorem mem_of_mem_tokensBy (ht : t ∈ tokensBy p s) : ∀ c ∈ t, c ∈ s ∧ p c = false :=
  mem_of_mem_splitOnP (List.mem_of_mem_filter ht)

/-- Every letter is a separator or stands in a token. -/
theorem mem_tokensBy_of_mem (hc : c ∈ s) : p c = true ∨ ∃ t ∈ tokensBy p s, c ∈ t := by
  rcases mem_splitOnP_of_mem (p := p) hc with hp | ⟨t, ht, hct⟩
  · exact Or.inl hp
  · exact Or.inr ⟨t, List.mem_filter.mpr ⟨ht, by simpa using List.ne_nil_of_mem hct⟩, hct⟩

theorem length_le_of_mem_tokensBy (ht : t ∈ tokensBy p s) : t.length ≤ s.length :=
  length_le_of_mem_splitOnP (List.mem_of_mem_filter ht)

/-- Tokens need their letters and the separators between them. -/
theorem length_tokensBy_add_le (p : α → Bool) (s : List α) :
    (tokensBy p s).flatten.length + (tokensBy p s).length ≤ s.length + 1 := by
  rw [← length_splitOnP_add p s, tokensBy, List.flatten_filter_ne_nil]
  exact Nat.add_le_add_left (List.length_filter_le _ _) _

theorem tokensBy_cons (hc : p c = true) (s : List α) : tokensBy p (c :: s) = tokensBy p s := by
  rw [tokensBy, List.splitOnP_cons_eq_if_modifyHead, if_pos hc, tokensBy]
  simp

theorem tokensBy_concat (hc : p c = true) (s : List α) : tokensBy p (s ++ [c]) = tokensBy p s := by
  rw [tokensBy, List.splitOnP_append_cons s [] hc, tokensBy]
  simp

/-- Separators in front of a word do not matter. -/
theorem tokensBy_dropWhile (p : α → Bool) (s : List α) :
    tokensBy p (s.dropWhile p) = tokensBy p s := by
  induction s with
  | nil => rfl
  | cons c s ih =>
    cases hc : p c with
    | true => rw [List.dropWhile_cons_of_pos hc, ih, tokensBy_cons hc]
    | false => rw [List.dropWhile_cons_of_neg (by simp [hc])]

/-- Separators behind a word do not matter. -/
theorem tokensBy_rdropWhile (h : ∀ c ∈ s, q c = true → p c = true) :
    tokensBy p (s.rdropWhile q) = tokensBy p s := by
  induction s using List.reverseRecOn with
  | nil => rfl
  | append_singleton s c ih =>
    rw [List.rdropWhile_concat]
    split
    · next hc =>
      rw [ih fun d hd => h d (List.mem_append_left _ hd), tokensBy_concat (h c (by simp) hc)]
    · rfl

theorem tokensBy_or (p q : α → Bool) (s : List α) :
    tokensBy (fun c => p c || q c) s = (tokensBy p s).flatMap (tokensBy q) := by
  have hskip : ∀ ts : List (List α),
      ts.flatMap (tokensBy q) = (ts.filter (· ≠ [])).flatMap (tokensBy q) := by
    intro ts
    induction ts with
    | nil => rfl
    | cons t ts ih =>
      cases t with
      | nil => simpa [tokensBy] using ih
      | cons c t => simpa using ih
  calc tokensBy (fun c => p c || q c) s
      = ((s.splitOnP p).flatMap (List.splitOnP q)).filter (· ≠ []) := by rw [tokensBy, splitOnP_or]
    _ = (s.splitOnP p).flatMap (tokensBy q) := List.filter_flatMap ..
    _ = (tokensBy p s).flatMap (tokensBy q) := hskip _

/-- The first token of a word that begins with one, and the tokens of the rest. -/
theorem tokensBy_eq_cons (h : s.takeWhile (!p ·) ≠ []) :
    tokensBy p s = s.takeWhile (!p ·) :: tokensBy p (s.dropWhile (!p ·)) := by
  have hfree : ∀ c ∈ s.takeWhile (!p ·), p c = false := fun c hc => by
    simpa using List.mem_takeWhile_imp hc
  cases hd : s.dropWhile (!p ·) with
  | nil =>
    have hs : s.takeWhile (!p ·) = s := by
      have happ := List.takeWhile_append_dropWhile (p := (!p ·)) (l := s)
      rwa [hd, List.append_nil] at happ
    rw [hs] at h hfree ⊢
    rw [tokensBy, List.splitOnP_eq_singleton hfree]
    simp [h, tokensBy]
  | cons c w =>
    have hc : p c = true := by
      have hn := List.head_dropWhile_not (!p ·) (l := s) (by simp [hd])
      simpa [hd] using hn
    have hs : s = s.takeWhile (!p ·) ++ c :: w := by
      rw [← hd, List.takeWhile_append_dropWhile]
    have hsplit := List.splitOnP_append_cons_of_forall_mem hfree c hc w
    rw [tokensBy_cons hc, tokensBy, hs, hsplit, ← hs, List.filter_cons_of_pos (by simpa using h)]
    rfl

/-- A word that begins with a letter begins with a token. -/
theorem tokensBy_letter (hc : p c = false) (s : List α) :
    tokensBy p (c :: s) = (c :: s.takeWhile (!p ·)) :: tokensBy p (s.dropWhile (!p ·)) := by
  have htake : (c :: s).takeWhile (!p ·) = c :: s.takeWhile (!p ·) :=
    List.takeWhile_cons_of_pos (by simp [hc])
  have hdrop : (c :: s).dropWhile (!p ·) = s.dropWhile (!p ·) :=
    List.dropWhile_cons_of_pos (by simp [hc])
  rw [tokensBy_eq_cons (by rw [htake]; exact List.cons_ne_nil _ _), htake, hdrop]

theorem tokensBy_free (h : ∀ c ∈ s, p c = false) (hs : s ≠ []) : tokensBy p s = [s] := by
  have htake : s.takeWhile (!p ·) = s :=
    List.takeWhile_eq_self_iff.mpr fun c hc => by simp [h c hc]
  have hdrop : s.dropWhile (!p ·) = [] :=
    List.dropWhile_eq_nil_iff.mpr fun c hc => by simp [h c hc]
  rw [tokensBy_eq_cons (by rwa [htake]), htake, hdrop]
  rfl

/-- A word of separators has no tokens. -/
theorem tokensBy_separators (h : ∀ c ∈ s, p c = true) : tokensBy p s = [] := by
  rw [← tokensBy_dropWhile, List.dropWhile_eq_nil_iff.mpr h]
  rfl

end Tokens

end VehicleSpy.Text
