import Mathlib.Data.List.Perm.Basic

/-! # What an order of enumeration decides

A search over a collection takes the first element with a property; of the writes to one key
the last one stands. Neither depends on the order in which the collection is enumerated just
when there is nothing to choose from.
-/

namespace VehicleSpy.Machine

variable {α κ ν : Type*} {l l' : List α} {x y : α}

/-- Any element can be enumerated first. -/
theorem exists_perm_cons (h : x ∈ l) : ∃ t, l.Perm (x :: t) := by
  obtain ⟨u, v, rfl⟩ := List.append_of_mem h
  exact ⟨u ++ v, List.perm_middle⟩

/-- Any element can be enumerated last. -/
theorem exists_perm_concat (h : x ∈ l) : ∃ t, l.Perm (t ++ [x]) := by
  obtain ⟨t, ht⟩ := exists_perm_cons h
  exact ⟨t, ht.trans (List.perm_append_singleton x t).symm⟩

section Search

variable {p : α → Bool}

theorem find?_eq_some_of_unique (hu : ∀ x ∈ l, ∀ y ∈ l, p x = true → p y = true → x = y) :
    l.find? p = some x ↔ x ∈ l ∧ p x = true := by
  constructor
  · intro h
    exact ⟨List.mem_of_find?_eq_some h, List.find?_some h⟩
  · rintro ⟨hx, hp⟩
    cases h : l.find? p with
    | none => exact absurd hp (List.find?_eq_none.mp h x hx)
    | some y =>
      rw [hu x hx y (List.mem_of_find?_eq_some h) hp (List.find?_some h)]

theorem find?_perm (hu : ∀ x ∈ l, ∀ y ∈ l, p x = true → p y = true → x = y) (h : l.Perm l') :
    l.find? p = l'.find? p := by
  have hu' : ∀ x ∈ l', ∀ y ∈ l', p x = true → p y = true → x = y :=
    fun x hx y hy => hu x (h.mem_iff.mpr hx) y (h.mem_iff.mpr hy)
  ext x
  rw [find?_eq_some_of_unique hu, find?_eq_some_of_unique hu', h.mem_iff]

/-- A search that maps what it takes. -/
theorem findSome?_perm {f : α → Option ν}
    (hu : ∀ x ∈ l, ∀ y ∈ l, f x ≠ none → f y ≠ none → x = y) (h : l.Perm l') :
    l.findSome? f = l'.findSome? f := by
  have hfind (l : List α) : l.findSome? f = (l.find? (f · |>.isSome)).bind f := by
    induction l with
    | nil => rfl
    | cons x l ih => cases hx : f x <;> simp [hx, ih]
  have hsome {x : α} (hx : (f x).isSome = true) : f x ≠ none := Option.ne_none_iff_isSome.mpr hx
  rw [hfind, hfind, find?_perm (fun x hx y hy hfx hfy => hu x hx y hy (hsome hfx) (hsome hfy)) h]

/-- Any element that a search accepts can be the one that it takes. -/
theorem exists_perm_findSome? {f : α → Option ν} {v : ν} (h : x ∈ l) (hf : f x = some v) :
    ∃ t, l.Perm t ∧ t.findSome? f = some v := by
  obtain ⟨t, ht⟩ := exists_perm_cons h
  exact ⟨x :: t, ht, by rw [List.findSome?_cons, hf]⟩

end Search

section Writes

variable [DecidableEq κ] {writes writes' : List (κ × ν)} {k : κ} {v : ν}

/-- What stands under a key after writes in that order. -/
def lastWrite (k : κ) (writes : List (κ × ν)) : Option ν :=
  (writes.reverse.find? (·.1 = k)).map Prod.snd

@[simp] theorem lastWrite_nil (k : κ) : lastWrite k ([] : List (κ × ν)) = none := rfl

@[simp] theorem lastWrite_concat (k : κ) (writes : List (κ × ν)) (w : κ × ν) :
    lastWrite k (writes ++ [w]) = if w.1 = k then some w.2 else lastWrite k writes := by
  by_cases h : w.1 = k <;> simp [lastWrite, h]

theorem mem_of_lastWrite (h : lastWrite k writes = some v) : (k, v) ∈ writes := by
  obtain ⟨w, hw, rfl⟩ := Option.map_eq_some_iff.mp h
  obtain rfl : w.1 = k := by simpa using List.find?_some hw
  exact List.mem_reverse.mp (List.mem_of_find?_eq_some hw)

theorem lastWrite_ne_none (h : (k, v) ∈ writes) : lastWrite k writes ≠ none := by
  rw [lastWrite, ne_eq, Option.map_eq_none_iff, List.find?_eq_none]
  exact fun hnone => hnone (k, v) (List.mem_reverse.mpr h) (decide_eq_true rfl)

theorem lastWrite_eq_some_of_unique (hu : ∀ v w, (k, v) ∈ writes → (k, w) ∈ writes → v = w) :
    lastWrite k writes = some v ↔ (k, v) ∈ writes := by
  refine ⟨mem_of_lastWrite, fun h => ?_⟩
  obtain ⟨w, hw⟩ := Option.ne_none_iff_exists'.mp (lastWrite_ne_none h)
  rw [hw, hu v w h (mem_of_lastWrite hw)]

theorem lastWrite_perm (hu : ∀ v w, (k, v) ∈ writes → (k, w) ∈ writes → v = w)
    (h : writes.Perm writes') : lastWrite k writes = lastWrite k writes' := by
  have hu' : ∀ v w, (k, v) ∈ writes' → (k, w) ∈ writes' → v = w :=
    fun v w hv hw => hu v w (h.mem_iff.mpr hv) (h.mem_iff.mpr hw)
  ext v
  rw [lastWrite_eq_some_of_unique hu, lastWrite_eq_some_of_unique hu', h.mem_iff]

/-- Any write to a key can be the one that stands: enumerate last what makes it. -/
theorem exists_perm_lastWrite {f : α → Option (κ × ν)} (h : x ∈ l) (hf : f x = some (k, v)) :
    ∃ t, l.Perm t ∧ lastWrite k (t.filterMap f) = some v := by
  obtain ⟨t, ht⟩ := exists_perm_concat h
  refine ⟨t ++ [x], ht, ?_⟩
  rw [List.filterMap_append, List.filterMap_cons_some hf, List.filterMap_nil, lastWrite_concat,
    if_pos rfl]

end Writes

end VehicleSpy.Machine
