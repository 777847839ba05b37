import Mathlib.Data.List.Induction

/-! # Runs of a step function with outputs

A step function consumes one input and emits a list of outputs. Runs over input
words, their behaviour under concatenation and chunking, induction over the
history of a run, and simulation between two step functions.
-/

namespace VehicleSpy.Machine

variable {σ τ ι ο ω : Type*}

/-- The state reached after a word of inputs. -/
def after (step : σ → ι → σ × List ο) (s : σ) (w : List ι) : σ :=
  w.foldl (fun s i => (step s i).1) s

/-- The outputs emitted along a word of inputs, in order. -/
def emitted (step : σ → ι → σ × List ο) : σ → List ι → List ο
  | _, [] => []
  | s, i :: w => (step s i).2 ++ emitted step (step s i).1 w

/-- The log of a run: each input with the outputs of its own step. -/
def history (step : σ → ι → σ × List ο) : σ → List ι → List (ι × List ο)
  | _, [] => []
  | s, i :: w => (i, (step s i).2) :: history step (step s i).1 w

/-- Consume a whole chunk of inputs as one input. -/
def chunked (step : σ → ι → σ × List ο) (s : σ) (w : List ι) : σ × List ο :=
  (after step s w, emitted step s w)

/-- Every step of the run meets a condition on the state before it and its input. -/
def Guarded (step : σ → ι → σ × List ο) (G : σ → ι → Prop) : σ → List ι → Prop
  | _, [] => True
  | s, i :: w => G s i ∧ Guarded step G (step s i).1 w

variable (step : σ → ι → σ × List ο)

@[simp] theorem after_nil (s : σ) : after step s [] = s := rfl

@[simp] theorem after_cons (s : σ) (i : ι) (w : List ι) :
    after step s (i :: w) = after step (step s i).1 w := rfl

@[simp] theorem emitted_nil (s : σ) : emitted step s [] = [] := rfl

@[simp] theorem emitted_cons (s : σ) (i : ι) (w : List ι) :
    emitted step s (i :: w) = (step s i).2 ++ emitted step (step s i).1 w := rfl

theorem after_append (s : σ) (v w : List ι) :
    after step s (v ++ w) = after step (after step s v) w :=
  List.foldl_append

theorem emitted_append (s : σ) (v w : List ι) :
    emitted step s (v ++ w) = emitted step s v ++ emitted step (after step s v) w := by
  induction v generalizing s with
  | nil => rfl
  | cons i v ih => rw [List.cons_append, emitted_cons, ih, emitted_cons, after_cons,
      List.append_assoc]

@[simp] theorem after_concat (s : σ) (w : List ι) (i : ι) :
    after step s (w ++ [i]) = (step (after step s w) i).1 := by
  rw [after_append, after_cons, after_nil]

@[simp] theorem emitted_concat (s : σ) (w : List ι) (i : ι) :
    emitted step s (w ++ [i]) = emitted step s w ++ (step (after step s w) i).2 := by
  rw [emitted_append, emitted_cons, emitted_nil, List.append_nil]

theorem history_append (s : σ) (v w : List ι) :
    history step s (v ++ w) = history step s v ++ history step (after step s v) w := by
  induction v generalizing s with
  | nil => rfl
  | cons i v ih => rw [List.cons_append, history, ih, history, after_cons, List.cons_append]

theorem history_concat (s : σ) (w : List ι) (i : ι) :
    history step s (w ++ [i]) = history step s w ++ [(i, (step (after step s w) i).2)] :=
  history_append step s w [i]

@[simp] theorem map_fst_history (s : σ) (w : List ι) : (history step s w).map Prod.fst = w := by
  induction w generalizing s with
  | nil => rfl
  | cons i w ih => rw [history, List.map_cons, ih]

/-- An entry of the log is the step taken after the inputs before it. -/
theorem history_split {s : σ} {w : List ι} {u v : List (ι × List ο)} {i : ι} {o : List ο}
    (h : history step s w = u ++ (i, o) :: v) :
    ∃ w₁ w₂, w = w₁ ++ i :: w₂ ∧ u = history step s w₁ ∧ o = (step (after step s w₁) i).2 := by
  induction u generalizing s w with
  | nil =>
    cases w with
    | nil => cases h
    | cons j w =>
      obtain ⟨hj, -⟩ := List.cons.inj h
      obtain ⟨rfl, rfl⟩ := Prod.mk.inj hj
      exact ⟨[], w, rfl, rfl, rfl⟩
  | cons e u ih =>
    cases w with
    | nil => cases h
    | cons j w =>
      obtain ⟨rfl, hw⟩ := List.cons.inj h
      obtain ⟨w₁, w₂, rfl, rfl, ho⟩ := ih hw
      exact ⟨j :: w₁, w₂, rfl, rfl, ho⟩

/-- A run carries a relation between its log and its state. -/
theorem history_induction {I : List (ι × List ο) → σ → Prop} {s : σ} (h₀ : I [] s)
    (hs : ∀ h t i, I h t → I (h ++ [(i, (step t i).2)]) (step t i).1) (w : List ι) :
    I (history step s w) (after step s w) := by
  induction w using List.reverseRecOn with
  | nil => exact h₀
  | append_singleton w i ih =>
    rw [history_concat, after_concat]
    exact hs _ _ _ ih

/-- Where a word is cut into chunks does not matter. -/
theorem chunked_flatten (s : σ) (ws : List (List ι)) :
    after (chunked step) s ws = after step s ws.flatten ∧
      emitted (chunked step) s ws = emitted step s ws.flatten := by
  induction ws generalizing s with
  | nil => exact ⟨rfl, rfl⟩
  | cons w ws ih =>
    obtain ⟨ha, he⟩ := ih (after step s w)
    simp only [List.flatten_cons, after_append, emitted_append, after_cons, emitted_cons]
    exact ⟨ha, congrArg (emitted step s w ++ ·) he⟩

section Guarded

variable {step} {G : σ → ι → Prop}

@[simp] theorem guarded_nil (s : σ) : Guarded step G s [] := trivial

@[simp] theorem guarded_cons (s : σ) (i : ι) (w : List ι) :
    Guarded step G s (i :: w) ↔ G s i ∧ Guarded step G (step s i).1 w := Iff.rfl

theorem guarded_append {s : σ} {v w : List ι} :
    Guarded step G s (v ++ w) ↔ Guarded step G s v ∧ Guarded step G (after step s v) w := by
  induction v generalizing s with
  | nil => simp
  | cons i v ih => simp only [List.cons_append, guarded_cons, ih, after_cons, and_assoc]

/-- Every step of the run meets the condition, read at each split of the word. -/
theorem guarded_iff_forall {s : σ} {w : List ι} :
    Guarded step G s w ↔ ∀ u i v, w = u ++ i :: v → G (after step s u) i := by
  constructor
  · rintro hw u i v rfl
    exact (guarded_append.mp hw).2.1
  · intro h
    induction w using List.reverseRecOn with
    | nil => trivial
    | append_singleton w i ih =>
      apply guarded_append.mpr
      constructor
      · apply ih
        rintro u j v rfl
        exact h u j (v ++ [i]) (by rw [List.append_assoc, List.cons_append])
      · exact ⟨h w i [] rfl, trivial⟩

instance decidableGuarded [∀ s i, Decidable (G s i)] : ∀ s w, Decidable (Guarded step G s w)
  | _, [] => isTrue trivial
  | s, i :: w =>
    have := decidableGuarded (step s i).1 w
    inferInstanceAs (Decidable (G s i ∧ Guarded step G (step s i).1 w))

/-- A guarded run carries a relation between its inputs, its state and its outputs. -/
theorem guarded_induction {I : List ι → σ → List ο → Prop} {s : σ} (h₀ : I [] s [])
    (hs : ∀ w t os i, I w t os → G t i → I (w ++ [i]) (step t i).1 (os ++ (step t i).2)) :
    ∀ w, Guarded step G s w → I w (after step s w) (emitted step s w) := by
  intro w
  induction w using List.reverseRecOn with
  | nil => exact fun _ => h₀
  | append_singleton w i ih =>
    intro hg
    obtain ⟨hw, hi⟩ := guarded_append.mp hg
    rw [after_concat, emitted_concat]
    exact hs _ _ _ _ (ih hw) hi.1

end Guarded

theorem after_invariant {P : σ → Prop} {s : σ} (h₀ : P s)
    (hs : ∀ t i, P t → P (step t i).1) (w : List ι) : P (after step s w) :=
  history_induction step (I := fun _ t => P t) h₀ (fun _ t i => hs t i) w

/-- A simulation that translates each output translates the outputs of whole runs. -/
theorem simulation {step' : τ → ι → τ × List ω} {R : σ → τ → Prop} {f : ω → List ο}
    (hs : ∀ s t i, R s t → R (step s i).1 (step' t i).1 ∧
      (step s i).2 = (step' t i).2.flatMap f)
    {s : σ} {t : τ} (h : R s t) (w : List ι) :
    R (after step s w) (after step' t w) ∧
      emitted step s w = (emitted step' t w).flatMap f := by
  induction w generalizing s t with
  | nil => exact ⟨h, rfl⟩
  | cons i w ih =>
    obtain ⟨hr, ho⟩ := hs s t i h
    obtain ⟨hr', ho'⟩ := ih hr
    exact ⟨hr', by rw [emitted_cons, emitted_cons, List.flatMap_append, ho, ho']⟩

/-- Related states with equal outputs on every input emit the same outputs for ever. -/
theorem bisimulation {step' : τ → ι → τ × List ο} {R : σ → τ → Prop}
    (hs : ∀ s t i, R s t → R (step s i).1 (step' t i).1 ∧ (step s i).2 = (step' t i).2)
    {s : σ} {t : τ} (h : R s t) (w : List ι) :
    R (after step s w) (after step' t w) ∧ emitted step s w = emitted step' t w := by
  have hsim := simulation step (f := fun o => [o])
    (fun s t i h => ⟨(hs s t i h).1, by rw [(hs s t i h).2, List.flatMap_singleton']⟩) h w
  rwa [List.flatMap_singleton'] at hsim

section Latest

variable {α : Type*} {p : α → Prop} {l b : List α} {x y : α}

/-- The latest element of a list with a property, and everything after it. -/
structure Latest (p : α → Prop) (l : List α) (x : α) (b : List α) : Prop where
  suffix : x :: b <:+ l
  holds : p x
  rest : ∀ y ∈ b, ¬ p y

theorem Latest.of_concat (hy : p y) : Latest p (l ++ [y]) y [] :=
  ⟨List.suffix_append l [y], hy, List.forall_mem_nil _⟩

theorem Latest.append_other (h : Latest p l x b) (hy : ¬ p y) :
    Latest p (l ++ [y]) x (b ++ [y]) := by
  obtain ⟨⟨t, rfl⟩, hx, hb⟩ := h
  constructor
  · exact ⟨t, by simp⟩
  · exact hx
  · intro z hz
    rcases List.mem_append.mp hz with hz | hz
    · exact hb z hz
    · rwa [List.mem_singleton.mp hz]

theorem Latest.unique {x' : α} {b' : List α} (h : Latest p l x b) (h' : Latest p l x' b') :
    x = x' ∧ b = b' := by
  obtain ⟨hs, hx, hb⟩ := h
  obtain ⟨hs', hx', hb'⟩ := h'
  rcases List.suffix_or_suffix_of_suffix hs hs' with h | h
  · rcases List.suffix_cons_iff.mp h with h | h
    · exact List.cons.inj h
    · exact absurd hx (hb' x (h.subset List.mem_cons_self))
  · rcases List.suffix_cons_iff.mp h with h | h
    · exact (List.cons.inj h).imp Eq.symm Eq.symm
    · exact absurd hx' (hb x' (h.subset List.mem_cons_self))

theorem Latest.concat (h : Latest p (l ++ [y]) x b) :
    x = y ∧ b = [] ∨ ¬ p y ∧ ∃ b', b = b' ++ [y] ∧ Latest p l x b' := by
  obtain ⟨hs, hx, hb⟩ := h
  rcases List.suffix_concat_iff.mp hs with h | ⟨t, ht, hl⟩
  · exact absurd h (List.cons_ne_nil _ _)
  · cases t with
    | nil => exact Or.inl (List.cons.inj ht)
    | cons z t =>
      obtain ⟨rfl, rfl⟩ := List.cons.inj ht
      exact Or.inr ⟨hb y (by simp), t, rfl, hl, hx, fun c hc => hb c (List.mem_append_left _ hc)⟩

end Latest

end VehicleSpy.Machine
