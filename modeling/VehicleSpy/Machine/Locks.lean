import Mathlib.Data.List.Basic

/-! # Programs of a thread that locks mutexes

A mutex is not recursive: a thread that locks one it holds waits for itself and never goes on.
Programs read and change a state, emit events and lock mutexes for a scope.
-/

namespace VehicleSpy.Machine

/-- A program of a thread that holds some mutexes. It has no result if the thread blocks. -/
def Locking (M σ ε α : Type*) := List M → σ → Option (α × σ × List ε)

namespace Locking

universe u

variable {M σ ε : Type*} {α β : Type u}

instance : Monad (Locking M σ ε) where
  pure a := fun _ s => some (a, s, [])
  bind x f := fun held s =>
    (x held s).bind fun r => (f r.1 held r.2.1).map fun q => (q.1, q.2.1, r.2.2 ++ q.2.2)

/-- The program as the thread runs it with the mutexes it holds. -/
def run (x : Locking M σ ε α) (held : List M) (s : σ) : Option (α × σ × List ε) := x held s

def read : Locking M σ ε σ := fun _ s => some (s, s, [])

def change (f : σ → σ) : Locking M σ ε Unit := fun _ s => some ((), f s, [])

def emit (e : ε) : Locking M σ ε Unit := fun _ s => some ((), s, [e])

/-- Lock a mutex for the time of a program. -/
def scopedLock [DecidableEq M] (m : M) (x : Locking M σ ε α) : Locking M σ ε α :=
  fun held s => if m ∈ held then none else x (m :: held) s

/-- The program for each element of a list, in order. -/
def forEach {β : Type*} (f : β → Locking M σ ε Unit) : List β → Locking M σ ε Unit
  | [] => pure ()
  | b :: bs => do
    f b
    forEach f bs

variable {held : List M} {s s' : σ} {a : α} {es : List ε}

@[simp] theorem run_pure (a : α) : (pure a : Locking M σ ε α).run held s = some (a, s, []) := rfl

@[simp] theorem run_read : (read : Locking M σ ε σ).run held s = some (s, s, []) := rfl

@[simp] theorem run_change (f : σ → σ) :
    (change f : Locking M σ ε Unit).run held s = some ((), f s, []) := rfl

@[simp] theorem run_emit (e : ε) : (emit e : Locking M σ ε Unit).run held s = some ((), s, [e]) :=
  rfl

@[simp] theorem run_bind (x : Locking M σ ε α) (f : α → Locking M σ ε β) :
    (x >>= f).run held s = (x.run held s).bind fun r =>
      ((f r.1).run held r.2.1).map fun q => (q.1, q.2.1, r.2.2 ++ q.2.2) := rfl

theorem run_ite {c : Prop} [Decidable c] (x y : Locking M σ ε α) :
    (if c then x else y).run held s = if c then x.run held s else y.run held s := by
  split <;> rfl

section ScopedLock

variable [DecidableEq M] {m : M}

/-- A free mutex lets the program run. -/
theorem run_scopedLock (hm : m ∉ held) (x : Locking M σ ε α) :
    (scopedLock m x).run held s = x.run (m :: held) s :=
  if_neg hm

/-- A mutex of the thread itself blocks it for good. -/
theorem run_scopedLock_held (hm : m ∈ held) (x : Locking M σ ε α) :
    (scopedLock m x).run held s = none :=
  if_pos hm

end ScopedLock

/-- A program that completes goes on with what follows it. -/
theorem run_bind_some {x : Locking M σ ε α} (h : x.run held s = some (a, s', es))
    (f : α → Locking M σ ε β) :
    (x >>= f).run held s = ((f a).run held s').map fun q => (q.1, q.2.1, es ++ q.2.2) := by
  rw [run_bind, h, Option.bind_some]

theorem run_bind_none {x : Locking M σ ε α} (h : x.run held s = none)
    (f : α → Locking M σ ε β) : (x >>= f).run held s = none := by
  rw [run_bind, h, Option.bind_none]

/-- Programs that complete and leave the state alone do so one after the other. -/
theorem run_forEach {β : Type*} {f : β → Locking M σ ε Unit} {g : β → List ε}
    (h : ∀ b, (f b).run held s = some ((), s, g b)) (bs : List β) :
    (forEach f bs).run held s = some ((), s, bs.flatMap g) := by
  induction bs with
  | nil => rfl
  | cons b bs ih =>
    rw [forEach, run_bind_some (h b), ih]
    rfl

section ForEach

variable {β : Type*} {f : β → Locking M σ ε Unit} {bs : List β}

theorem run_forEach_cons {b : β} (h : (f b).run held s = some ((), s', es)) (bs : List β) :
    (forEach f (b :: bs)).run held s =
      ((forEach f bs).run held s').map fun q => (q.1, q.2.1, es ++ q.2.2) :=
  run_bind_some h _

/-- A run completes if every step of it does, from the state the steps before it left. -/
theorem run_forEach_isSome_iff :
    ((forEach f bs).run held s).isSome = true ↔ ∀ us b vs, bs = us ++ b :: vs →
      ∀ s' es, (forEach f us).run held s = some ((), s', es) →
        ((f b).run held s').isSome = true := by
  induction bs generalizing s with
  | nil =>
    constructor
    · rintro - us b vs h
      simp at h
    · intro _
      rfl
  | cons c bs ih =>
    cases hc : (f c).run held s with
    | none =>
      have hblocked : (forEach f (c :: bs)).run held s = none := run_bind_none hc _
      constructor
      · intro h
        rw [hblocked] at h
        cases h
      · intro h
        have hfirst := h [] c bs rfl s [] rfl
        rw [hc] at hfirst
        cases hfirst
    | some r =>
      obtain ⟨⟨⟩, s₁, es₁⟩ := r
      rw [run_forEach_cons hc, Option.isSome_map, ih]
      constructor
      · rintro h (_ | ⟨d, us⟩) b vs hsplit s' es hus
        · obtain ⟨rfl, -⟩ := List.cons.inj hsplit
          obtain ⟨-, rfl, -⟩ : () = () ∧ s = s' ∧ [] = es := by simpa [forEach] using hus
          rw [hc]
          rfl
        · obtain ⟨rfl, htail⟩ := List.cons.inj hsplit
          rw [run_forEach_cons hc] at hus
          obtain ⟨q, hq, he⟩ := Option.map_eq_some_iff.mp hus
          obtain rfl : q.2.1 = s' := congrArg (fun r => r.2.1) he
          exact h us b vs htail q.2.1 q.2.2 hq
      · intro h us b vs hsplit s' es hus
        refine h (c :: us) b vs (by rw [hsplit, List.cons_append]) s' (es₁ ++ es) ?_
        rw [run_forEach_cons hc, hus]
        rfl

/-- What every step emits is what a run emits. -/
theorem forall_mem_of_run_forEach {P : ε → Prop}
    (hstep : ∀ b s s' es, (f b).run held s = some ((), s', es) → ∀ e ∈ es, P e)
    (h : (forEach f bs).run held s = some ((), s', es)) : ∀ e ∈ es, P e := by
  induction bs generalizing s es with
  | nil =>
    obtain ⟨-, -, rfl⟩ : () = () ∧ s = s' ∧ [] = es := by simpa [forEach] using h
    intro e he
    cases he
  | cons c bs ih =>
    cases hc : (f c).run held s with
    | none =>
      have hblocked : (forEach f (c :: bs)).run held s = none := run_bind_none hc _
      rw [hblocked] at h
      cases h
    | some r =>
      obtain ⟨⟨⟩, s₁, es₁⟩ := r
      rw [run_forEach_cons hc] at h
      obtain ⟨⟨⟨⟩, s₂, es₂⟩, hq, he⟩ := Option.map_eq_some_iff.mp h
      obtain ⟨-, rfl, rfl⟩ : () = () ∧ s₂ = s' ∧ es₁ ++ es₂ = es := by simpa using he
      rintro e hmem
      rcases List.mem_append.mp hmem with hmem | hmem
      · exact hstep c s s₁ es₁ hc e hmem
      · exact ih hq e hmem

end ForEach

end Locking

end VehicleSpy.Machine
