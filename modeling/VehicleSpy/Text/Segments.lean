import VehicleSpy.Machine.Run

/-! # Segments of a word between separators

The closed segments of a word are the maximal runs of letters in front of a
separator; what follows the last separator is the open remainder. A machine that
accumulates letters until a separator computes both.
-/

namespace VehicleSpy.Text

open Machine

variable {α : Type*} (p : α → Bool)

/-- The maximal separator-free stretches that are closed by a separator. -/
def segments (w : List α) : List (List α) := (w.splitOnP p).dropLast

/-- The letters after the last separator. -/
def remainder (w : List α) : List α := (w.splitOnP p).getLast (List.splitOnP_ne_nil p w)

/-- Accumulate letters and hand over the accumulated word at each separator. -/
def cutStep (acc : List α) (c : α) : List α × List (List α) :=
  if p c then ([], [acc]) else (acc ++ [c], [])

theorem cut_splitOnP (acc w : List α) :
    emitted (cutStep p) acc w ++ [after (cutStep p) acc w] =
      (w.splitOnP p).modifyHead (acc ++ ·) := by
  induction w generalizing acc with
  | nil => simp
  | cons c w ih =>
    rw [List.splitOnP_cons_eq_if_modifyHead]
    by_cases hc : p c
    · have h := ih []
      simp only [List.nil_append] at h
      simp only [hc, cutStep, if_true, emitted_cons, after_cons, List.append_assoc, h]
      cases w.splitOnP p <;> simp
    · simp only [hc, cutStep, Bool.false_eq_true, if_false, emitted_cons, after_cons,
        List.nil_append, ih]
      cases w.splitOnP p <;> simp

theorem segments_append_remainder (w : List α) :
    segments p w ++ [remainder p w] = w.splitOnP p :=
  List.dropLast_concat_getLast (List.splitOnP_ne_nil p w)

theorem cut_eq (w : List α) :
    emitted (cutStep p) [] w = segments p w ∧ after (cutStep p) [] w = remainder p w := by
  have h := cut_splitOnP p [] w
  have hid : (w.splitOnP p).modifyHead ([] ++ ·) = w.splitOnP p := by
    cases w.splitOnP p <;> rfl
  rw [hid, ← segments_append_remainder] at h
  simpa using List.append_inj' h rfl

theorem emitted_cutStep (w : List α) : emitted (cutStep p) [] w = segments p w := (cut_eq p w).1

theorem after_cutStep (w : List α) : after (cutStep p) [] w = remainder p w := (cut_eq p w).2

variable {p}

theorem cutStep_open (acc : List α) {v : List α} (hv : ∀ c ∈ v, p c = false) :
    emitted (cutStep p) acc v = [] ∧ after (cutStep p) acc v = acc ++ v := by
  induction v generalizing acc with
  | nil => simp
  | cons c v ih =>
    obtain ⟨he, ha⟩ := ih (acc ++ [c]) fun d hd => hv d (List.mem_cons_of_mem _ hd)
    simp [cutStep, hv c List.mem_cons_self, he, ha]

@[simp] theorem segments_nil : segments p [] = [] := rfl

/-- A word without separators closes no segment. -/
theorem segments_open {v : List α} (hv : ∀ c ∈ v, p c = false) : segments p v = [] := by
  rw [← emitted_cutStep, (cutStep_open [] hv).1]

theorem remainder_open {v : List α} (hv : ∀ c ∈ v, p c = false) : remainder p v = v := by
  rw [← after_cutStep, (cutStep_open [] hv).2, List.nil_append]

/-- The first separator closes the first segment. -/
theorem segments_closed {v w : List α} {c : α} (hv : ∀ d ∈ v, p d = false) (hc : p c = true) :
    segments p (v ++ c :: w) = v :: segments p w := by
  obtain ⟨he, ha⟩ := cutStep_open [] hv
  rw [← emitted_cutStep, emitted_append, he, ha, emitted_cons]
  simp [cutStep, hc, emitted_cutStep]

theorem remainder_closed {v w : List α} {c : α} (hv : ∀ d ∈ v, p d = false) (hc : p c = true) :
    remainder p (v ++ c :: w) = remainder p w := by
  obtain ⟨_, ha⟩ := cutStep_open [] hv
  rw [← after_cutStep, after_append, ha, after_cons]
  simp [cutStep, hc, after_cutStep]

/-- A separator behind a word closes all that the word is split into. -/
theorem segments_concat {c : α} (hc : p c = true) (w : List α) :
    segments p (w ++ [c]) = w.splitOnP p ∧ remainder p (w ++ [c]) = [] := by
  rw [← emitted_cutStep, ← after_cutStep, emitted_concat, after_concat, emitted_cutStep,
    after_cutStep, ← segments_append_remainder]
  simp [cutStep, hc]

/-- A letter behind a word goes on with its open remainder. -/
theorem segments_concat_open {c : α} (hc : p c = false) (w : List α) :
    segments p (w ++ [c]) = segments p w ∧ remainder p (w ++ [c]) = remainder p w ++ [c] := by
  rw [← emitted_cutStep, ← after_cutStep, emitted_concat, after_concat, emitted_cutStep,
    after_cutStep]
  simp [cutStep, hc]

/-- Cutting a word at the separators drops these and no letter. -/
theorem flatten_segments (w : List α) :
    (segments p w).flatten ++ remainder p w = w.filter (!p ·) := by
  induction w using List.reverseRecOn with
  | nil => rfl
  | append_singleton w c ih =>
    rw [List.filter_append, ← ih]
    cases hc : p c with
    | true =>
      obtain ⟨hs, hr⟩ := segments_concat hc w
      simp [hs, hr, hc, ← segments_append_remainder]
    | false =>
      obtain ⟨hs, hr⟩ := segments_concat_open hc w
      simp [hs, hr, hc]

/-- Words that are each closed by a separator are the segments of their concatenation. -/
theorem segments_flatMap {c : α} (hc : p c = true) {vs : List (List α)}
    (hvs : ∀ v ∈ vs, ∀ d ∈ v, p d = false) (w : List α) :
    segments p (vs.flatMap (· ++ [c]) ++ w) = vs ++ segments p w := by
  induction vs with
  | nil => rfl
  | cons v vs ih =>
    rw [List.flatMap_cons, List.append_assoc, List.append_assoc, List.singleton_append,
      segments_closed (hvs v List.mem_cons_self) hc,
      ih fun u hu => hvs u (List.mem_cons_of_mem _ hu), List.cons_append]

theorem remainder_flatMap {c : α} (hc : p c = true) {vs : List (List α)}
    (hvs : ∀ v ∈ vs, ∀ d ∈ v, p d = false) (w : List α) :
    remainder p (vs.flatMap (· ++ [c]) ++ w) = remainder p w := by
  induction vs with
  | nil => rfl
  | cons v vs ih =>
    rw [List.flatMap_cons, List.append_assoc, List.append_assoc, List.singleton_append,
      remainder_closed (hvs v List.mem_cons_self) hc,
      ih fun u hu => hvs u (List.mem_cons_of_mem _ hu)]

theorem remainder_free (w : List α) : ∀ c ∈ remainder p w, p c = false := by
  rw [← after_cutStep]
  refine after_invariant (cutStep p) (P := fun acc => ∀ c ∈ acc, p c = false) (by simp) ?_ w
  intro acc c hacc
  unfold cutStep
  split
  · simp
  · next hc => simpa [or_imp, forall_and] using ⟨hacc, by simpa using hc⟩

/-- The segments of a longer word start from the open remainder of its front. -/
theorem segments_append (u v : List α) :
    segments p (u ++ v) = segments p u ++ segments p (remainder p u ++ v) := by
  obtain ⟨he, ha⟩ := cutStep_open [] (remainder_free (p := p) u)
  rw [← emitted_cutStep p (u ++ v), ← emitted_cutStep p (remainder p u ++ v), emitted_append,
    emitted_append, he, ha, emitted_cutStep, after_cutStep, List.nil_append, List.nil_append]

/-- The open remainder of a longer word is that of the front's remainder with what follows. -/
theorem remainder_append (u v : List α) :
    remainder p (u ++ v) = remainder p (remainder p u ++ v) := by
  obtain ⟨_, ha⟩ := cutStep_open [] (remainder_free (p := p) u)
  rw [← after_cutStep p (u ++ v), ← after_cutStep p (remainder p u ++ v), after_append,
    after_append, ha, after_cutStep, List.nil_append]

theorem first_separator {w : List α} (h : ∃ c ∈ w, p c = true) :
    ∃ v c w', w = v ++ c :: w' ∧ p c = true ∧ ∀ d ∈ v, p d = false := by
  obtain ⟨c, hc⟩ := Option.isSome_iff_exists.mp (List.find?_isSome.mpr h)
  obtain ⟨hp, v, w', hw, hv⟩ := List.find?_eq_some_iff_append.mp hc
  exact ⟨v, c, w', hw, hp, by simpa using hv⟩

/-- A segment is a stretch of the word without separators. -/
theorem mem_segments {v w : List α} (h : v ∈ segments p w) :
    v <:+: w ∧ ∀ c ∈ v, p c = false := by
  induction hn : w.length using Nat.strongRecOn generalizing w with
  | ind n ih =>
    by_cases hfree : ∃ c ∈ w, p c = true
    · obtain ⟨u, c, w', rfl, hc, hu⟩ := first_separator hfree
      rw [segments_closed hu hc] at h
      rcases List.mem_cons.mp h with rfl | h
      · exact ⟨(List.prefix_append _ _).isInfix, hu⟩
      · obtain ⟨hwithin, hv⟩ := ih w'.length (by rw [← hn]; simp; omega) h rfl
        exact ⟨hwithin.trans ⟨u ++ [c], [], by simp⟩, hv⟩
    · rw [segments_open (by simpa using hfree)] at h
      cases h

theorem remainder_suffix (w : List α) : remainder p w <:+ w := by
  induction hn : w.length using Nat.strongRecOn generalizing w with
  | ind n ih =>
    by_cases hfree : ∃ c ∈ w, p c = true
    · obtain ⟨u, c, w', rfl, hc, hu⟩ := first_separator hfree
      rw [remainder_closed hu hc]
      exact (ih w'.length (by rw [← hn]; simp; omega) w' rfl).trans ⟨u ++ [c], by simp⟩
    · exact ⟨[], remainder_open (by simpa using hfree)⟩

/-- Less in front leaves no more open. -/
theorem remainder_mono {u w : List α} (h : u <:+ w) : remainder p u <:+ remainder p w := by
  obtain ⟨v, rfl⟩ := h
  rw [remainder_append v u]
  by_cases hfree : ∃ c ∈ u, p c = true
  · obtain ⟨x, c, y, rfl, hc, hx⟩ := first_separator hfree
    have hline : ∀ d ∈ remainder p v ++ x, p d = false := fun d hd =>
      (List.mem_append.mp hd).elim (remainder_free v d) (hx d)
    refine ⟨[], ?_⟩
    rw [List.nil_append, remainder_closed hx hc, ← List.append_assoc, remainder_closed hline hc]
  · have hu : ∀ c ∈ u, p c = false := by simpa using hfree
    have hall : ∀ d ∈ remainder p v ++ u, p d = false := fun d hd =>
      (List.mem_append.mp hd).elim (remainder_free v d) (hu d)
    rw [remainder_open hu, remainder_open hall]
    exact List.suffix_append _ _

/-- Each separator closes one segment. -/
theorem length_segments (w : List α) : (segments p w).length = w.countP p := by
  induction w using List.reverseRecOn with
  | nil => rfl
  | append_singleton w c ih =>
    rw [List.countP_append, ← ih]
    cases hc : p c with
    | true => simp [(segments_concat hc w).1, ← segments_append_remainder, hc]
    | false => simp [(segments_concat_open hc w).1, hc]

section Joined

variable {x c : α} {w v : List α} {vs : List (List α)}

/-- The letters of a joined list of words are those of the words and the separator. -/
theorem mem_intercalate (h : c ∈ w.intercalate vs) : c ∈ w ∨ ∃ v ∈ vs, c ∈ v := by
  induction vs with
  | nil => cases h
  | cons v vs ih =>
    by_cases hvs : vs = []
    · subst hvs
      rw [List.intercalate_singleton] at h
      exact Or.inr ⟨v, List.mem_cons_self, h⟩
    · rw [List.intercalate_cons_of_ne_nil hvs, List.mem_append, List.mem_append] at h
      rcases h with (hv | hw) | hrest
      · exact Or.inr ⟨v, List.mem_cons_self, hv⟩
      · exact Or.inl hw
      · rcases ih hrest with hw | ⟨u, hu, hc⟩
        · exact Or.inl hw
        · exact Or.inr ⟨u, List.mem_cons_of_mem v hu, hc⟩

variable [DecidableEq α]

/-- No piece of a split word contains the letter it is split at. -/
theorem notMem_of_mem_splitOn (h : v ∈ w.splitOn x) : x ∉ v := by
  rw [List.splitOn_eq_splitOnP, ← segments_append_remainder] at h
  intro hx
  have hfree : ∀ c ∈ v, (c == x) = false := by
    rcases List.mem_append.mp h with hclosed | hopen
    · exact (mem_segments hclosed).2
    · obtain rfl := List.mem_singleton.mp hopen
      exact remainder_free w
  simpa using hfree x hx

/-- A joined list of words is split into them again just when none contains the separator. -/
theorem splitOn_intercalate_iff (hne : vs ≠ []) :
    ([x].intercalate vs).splitOn x = vs ↔ ∀ v ∈ vs, x ∉ v := by
  constructor
  · intro h v hv
    exact notMem_of_mem_splitOn (h ▸ hv)
  · exact fun h => List.splitOn_intercalate x h hne

end Joined

end VehicleSpy.Text
