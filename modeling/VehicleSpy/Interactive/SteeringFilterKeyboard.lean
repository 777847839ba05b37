import VehicleSpy.Dbc.SignalMapper

/-! # The keyboard without its arrow keys

The target recognises the three keys of an arrow and gives back an escape key that starts none.
The filter hands that key over before the one it has just read, which it keeps for the next call.
-/

namespace VehicleSpy.Interactive

open Dbc

def GEAR_MIN : ℤ := 1
def GEAR_MAX : ℤ := 9

def KEY_ESCAPE : ℤ := 27
def KEY_BRACKET : ℤ := 91

inductive EscapeStage | none | escape | bracket
  deriving DecidableEq, Repr

/-- What the arrows act on. -/
structure State (D : Type) where
  gear : ℤ := GEAR_MIN
  steering_angle_deg : D
  gear_min_le : GEAR_MIN ≤ gear := by decide
  gear_le_max : gear ≤ GEAR_MAX := by decide
  deriving DecidableEq

structure CsvKeyActionTarget (D : Type) where
  state : State D
  escapeStage : EscapeStage := .none
  /-- The key to give back, or -1. -/
  replayKey : ℤ := -1
  deriving DecidableEq

structure SteeringFilterKeyboard (D : Type) where
  /-- The answers of the inner keyboard, a negative one where no key is available; it has none to
  give after the last. -/
  inner : Option (List ℤ)
  target : Option (CsvKeyActionTarget D)
  /-- A key displaced by a replayed escape, or -1. -/
  pendingKey : ℤ := -1
  deriving DecidableEq

section Target

variable {D : Type} [Double D]

def STEER_STEP_DEG : D := Double.ofInt 5

def STEER_LIMIT_DEG : D := Double.ofInt 90

/-- `std::min`. -/
def stdMin (a b : D) : D := if Double.lt b a then b else a

/-- `std::max`. -/
def stdMax (a b : D) : D := if Double.lt a b then b else a

namespace State

def shiftUp (s : State D) : State D where
  gear := min (s.gear + 1) GEAR_MAX
  steering_angle_deg := s.steering_angle_deg
  gear_min_le := le_min (by linarith [s.gear_min_le]) (by decide)
  gear_le_max := min_le_right _ _

def shiftDown (s : State D) : State D where
  gear := max (s.gear - 1) GEAR_MIN
  steering_angle_deg := s.steering_angle_deg
  gear_min_le := le_max_right _ _
  gear_le_max := max_le (by linarith [s.gear_le_max]) (by decide)

/-- Up, down, right and left. -/
def applyArrow (s : State D) (letter : ℤ) : State D :=
  if letter = 65 then s.shiftUp
  else if letter = 66 then s.shiftDown
  else if letter = 67 then
    { s with steering_angle_deg := stdMin (s.steering_angle_deg + STEER_STEP_DEG) STEER_LIMIT_DEG }
  else if letter = 68 then
    { s with
      steering_angle_deg :=
        stdMax (s.steering_angle_deg - STEER_STEP_DEG) (Double.ofInt 0 - STEER_LIMIT_DEG) }
  else s

end State

namespace CsvKeyActionTarget

/-- Whether the key belongs to an arrow. -/
def consumeEscapeSequence (target : CsvKeyActionTarget D) (key : ℤ) :
    Bool × CsvKeyActionTarget D :=
  match target.escapeStage with
  | .none =>
    if key = KEY_ESCAPE then (true, { target with escapeStage := .escape }) else (false, target)
  | .escape =>
    if key = KEY_BRACKET then (true, { target with escapeStage := .bracket })
    else (false, { target with escapeStage := .none, replayKey := KEY_ESCAPE })
  | .bracket => (true, { target with state := target.state.applyArrow key, escapeStage := .none })

def takeReplayKey (target : CsvKeyActionTarget D) : ℤ × CsvKeyActionTarget D :=
  (target.replayKey, { target with replayKey := -1 })

end CsvKeyActionTarget

namespace SteeringFilterKeyboard

/-- The loop of `getKey` over the answers that the inner keyboard still has. -/
def search (pendingKey : ℤ) (target : CsvKeyActionTarget D) :
    List ℤ → ℤ × SteeringFilterKeyboard D
  | [] => (-1, ⟨some [], some target, pendingKey⟩)
  | key :: answers =>
    if key < 0 then (key, ⟨some answers, some target, pendingKey⟩)
    else
      match target.consumeEscapeSequence key with
      | (true, target) => search pendingKey target answers
      | (false, target) =>
        let (replay, target) := target.takeReplayKey
        if 0 ≤ replay then (replay, ⟨some answers, some target, key⟩)
        else (key, ⟨some answers, some target, pendingKey⟩)

def getKey (kb : SteeringFilterKeyboard D) : ℤ × SteeringFilterKeyboard D :=
  if 0 ≤ kb.pendingKey then (kb.pendingKey, { kb with pendingKey := -1 })
  else
    match kb.inner, kb.target with
    | some answers, some target => search kb.pendingKey target answers
    | some (key :: answers), none => (key, { kb with inner := some answers })
    | _, _ => (-1, kb)

/-- What `n` calls return. -/
def getKeys : ℕ → SteeringFilterKeyboard D → List ℤ × SteeringFilterKeyboard D
  | 0, kb => ([], kb)
  | n + 1, kb =>
    let (key, kb) := kb.getKey
    let (keys, kb) := getKeys n kb
    (key :: keys, kb)

end SteeringFilterKeyboard

end Target

/-- An arrow or any other key. -/
inductive Press
  | arrow (letter : ℤ)
  | key (k : ℤ)
  deriving DecidableEq, Repr

namespace Press

/-- The presses of a stream, with an arrow wherever one starts. -/
def split : List ℤ → List Press
  | k₁ :: k₂ :: k₃ :: keys =>
    if k₁ = KEY_ESCAPE ∧ k₂ = KEY_BRACKET then .arrow k₃ :: split keys
    else .key k₁ :: split (k₂ :: k₃ :: keys)
  | k :: keys => .key k :: split keys
  | [] => []

def keys : List Press → List ℤ
  | [] => []
  | .arrow _ :: ps => keys ps
  | .key k :: ps => k :: keys ps

variable {D : Type} [Double D]

/-- The state after the arrows among the presses. -/
def steer (s : State D) : List Press → State D
  | [] => s
  | .arrow letter :: ps => steer (s.applyArrow letter) ps
  | .key _ :: ps => steer s ps

/-- The presses end with an escape, or an escape and a bracket, that may yet become an arrow. -/
def Unfinished (ps : List Press) : Prop :=
  [.key KEY_ESCAPE] <:+ ps ∨ [.key KEY_ESCAPE, .key KEY_BRACKET] <:+ ps

instance (ps : List Press) : Decidable (Unfinished ps) :=
  inferInstanceAs (Decidable (_ ∨ _))

/-- Whether an even number of escapes stands directly before every arrow; `odd` is the parity of
those before the first press. -/
def isPaired (odd : Bool) : List Press → Bool
  | [] => true
  | .arrow _ :: ps => !odd && isPaired false ps
  | .key k :: ps => isPaired (k == KEY_ESCAPE && !odd) ps

/-- The presses as the filter tells them apart: the key after an escape that starts no arrow is
not looked at again. -/
def decoded : EscapeStage → List ℤ → List Press
  | _, [] => []
  | .none, k :: w => if k = KEY_ESCAPE then decoded .escape w else .key k :: decoded .none w
  | .escape, k :: w =>
    if k = KEY_BRACKET then decoded .bracket w
    else .key KEY_ESCAPE :: .key k :: decoded .none w
  | .bracket, k :: w => .arrow k :: decoded .none w

theorem Unfinished.cons {ps : List Press} (h : Unfinished ps) (p : Press) : Unfinished (p :: ps) :=
  h.imp (fun h => h.trans (List.suffix_cons p ps)) fun h => h.trans (List.suffix_cons p ps)

section Equations

variable {k : ℤ} {w : List ℤ}

theorem split_key (h : k ≠ KEY_ESCAPE) : split (k :: w) = .key k :: split w := by
  match w with
  | [] => rfl
  | [_] => rfl
  | _ :: _ :: _ => exact if_neg fun ⟨h', _⟩ => h h'

theorem split_bare (h : k ≠ KEY_BRACKET) :
    split (KEY_ESCAPE :: k :: w) = .key KEY_ESCAPE :: split (k :: w) := by
  match w with
  | [] => rfl
  | _ :: _ => exact if_neg fun ⟨_, h'⟩ => h h'

@[simp] theorem split_arrow :
    split (KEY_ESCAPE :: KEY_BRACKET :: k :: w) = .arrow k :: split w :=
  if_pos ⟨rfl, rfl⟩

theorem decoded_key (h : k ≠ KEY_ESCAPE) : decoded .none (k :: w) = .key k :: decoded .none w :=
  if_neg h

theorem decoded_bare (h : k ≠ KEY_BRACKET) :
    decoded .none (KEY_ESCAPE :: k :: w) = .key KEY_ESCAPE :: .key k :: decoded .none w :=
  if_neg h

@[simp] theorem decoded_arrow :
    decoded .none (KEY_ESCAPE :: KEY_BRACKET :: k :: w) = .arrow k :: decoded .none w := rfl

theorem bracket_ne_escape : KEY_BRACKET ≠ KEY_ESCAPE := by decide

theorem split_escape_escape :
    split (KEY_ESCAPE :: KEY_ESCAPE :: w) = .key KEY_ESCAPE :: split (KEY_ESCAPE :: w) :=
  split_bare bracket_ne_escape.symm

theorem decoded_escape_escape : decoded .none (KEY_ESCAPE :: KEY_ESCAPE :: w) =
    .key KEY_ESCAPE :: .key KEY_ESCAPE :: decoded .none w :=
  decoded_bare bracket_ne_escape.symm

end Equations

/-- How a stream may begin. -/
inductive Shape : List ℤ → Prop

  | nil : Shape []

  | escape : Shape [KEY_ESCAPE]

  | bracket : Shape [KEY_ESCAPE, KEY_BRACKET]

  | arrow {k : ℤ} {v : List ℤ} : Shape (KEY_ESCAPE :: KEY_BRACKET :: k :: v)

  | bare {k : ℤ} {v : List ℤ} : k ≠ KEY_BRACKET → Shape (KEY_ESCAPE :: k :: v)

  | key {k : ℤ} {v : List ℤ} : k ≠ KEY_ESCAPE → Shape (k :: v)

theorem shape (w : List ℤ) : Shape w := by
  match w with
  | [] => exact .nil
  | [k] =>
    by_cases h : k = KEY_ESCAPE
    · subst h; exact .escape
    · exact .key h
  | k₁ :: k₂ :: v =>
    by_cases h₁ : k₁ = KEY_ESCAPE
    · subst h₁
      by_cases h₂ : k₂ = KEY_BRACKET
      · subst h₂
        cases v with
        | nil => exact .bracket
        | cons k v => exact .arrow
      · exact .bare h₂
    · exact .key h₁

section Counting

/-- The filter's keys are never fewer than those of the presses, wherever in an arrow it reads. -/
structure Behind (w : List ℤ) : Prop where
  same : ¬ Unfinished (split w) → (keys (split w)).length ≤ (keys (decoded .none w)).length
  skipped (k : ℤ) : ¬ Unfinished (split (k :: w)) →
    (keys (split (k :: w))).length ≤ (keys (decoded .none w)).length + 1
  read (k : ℤ) : ¬ Unfinished (split w) →
    (keys (split w)).length ≤ (keys (decoded .none (k :: w))).length + 2

variable {w : List ℤ}

theorem same_of_shorter (ih : ∀ v, v.length < w.length → Behind v)
    (hw : ¬ Unfinished (split w)) :
    (keys (split w)).length ≤ (keys (decoded .none w)).length := by
  cases shape w with
  | nil => exact le_rfl
  | escape => exact absurd (.inl (List.suffix_refl _)) hw
  | bracket => exact absurd (.inr (List.suffix_refl _)) hw
  | arrow =>
    rw [split_arrow] at hw ⊢
    exact (ih _ (by simp; omega)).same fun h => hw (h.cons _)
  | bare hk =>
    rw [split_bare hk] at hw ⊢
    rw [decoded_bare hk]
    exact Nat.succ_le_succ ((ih _ (by simp)).skipped _ fun h => hw (h.cons _))
  | key hk =>
    rw [split_key hk] at hw ⊢
    rw [decoded_key hk]
    exact Nat.succ_le_succ ((ih _ (by simp)).same fun h => hw (h.cons _))

theorem skipped_of_shorter (ih : ∀ v, v.length < w.length → Behind v)
    (same : ¬ Unfinished (split w) → (keys (split w)).length ≤ (keys (decoded .none w)).length)
    (k : ℤ) (hw : ¬ Unfinished (split (k :: w))) :
    (keys (split (k :: w))).length ≤ (keys (decoded .none w)).length + 1 := by
  by_cases hk : k = KEY_ESCAPE
  · subst hk
    match w with
    | [] => exact absurd (.inl (List.suffix_refl _)) hw
    | [c] =>
      by_cases hc : c = KEY_BRACKET
      · subst hc; exact absurd (.inr (List.suffix_refl _)) hw
      · rw [split_bare hc] at hw ⊢
        exact Nat.succ_le_succ (same fun h => hw (h.cons _))
    | c :: d :: u =>
      by_cases hc : c = KEY_BRACKET
      · subst hc
        rw [split_arrow] at hw ⊢
        have := (ih u (by simp)).read d fun h => hw (h.cons _)
        simp only [decoded_key bracket_ne_escape, keys, List.length_cons]
        omega
      · rw [split_bare hc] at hw ⊢
        exact Nat.succ_le_succ (same fun h => hw (h.cons _))
  · rw [split_key hk] at hw ⊢
    exact Nat.succ_le_succ (same fun h => hw (h.cons _))

/-- An escape that the filter is still looking at costs it at most one key. -/
theorem read_of_shorter (ih : ∀ v, v.length < w.length → Behind v)
    (same : ¬ Unfinished (split w) → (keys (split w)).length ≤ (keys (decoded .none w)).length)
    (k : ℤ) (hw : ¬ Unfinished (split w)) :
    (keys (split w)).length ≤ (keys (decoded .none (k :: w))).length + 2 := by
  by_cases hk : k = KEY_ESCAPE
  · subst hk
    match w with
    | [] => exact Nat.zero_le _
    | c :: v =>
      by_cases hc : c = KEY_BRACKET
      · subst hc
        rw [split_key bracket_ne_escape] at hw ⊢
        match v with
        | [] => exact Nat.le_succ 1
        | d :: u =>
          have := (ih u (by simp)).skipped d fun h => hw (h.cons _)
          simp only [decoded_arrow, keys, List.length_cons]
          omega
      · have := (ih v (by simp)).skipped c hw
        simp only [decoded_bare hc, keys, List.length_cons]
        omega
  · have := same hw
    simp only [decoded_key hk, keys, List.length_cons]
    omega

theorem behind (w : List ℤ) : Behind w := by
  induction hn : w.length using Nat.strong_induction_on generalizing w with
  | _ n ih =>
    subst hn
    have ih : ∀ v : List ℤ, v.length < w.length → Behind v := fun v hv => ih _ hv v rfl
    have same := same_of_shorter ih
    exact ⟨same, skipped_of_shorter ih same, read_of_shorter ih same⟩

/-- A bracket that the filter lets through after an escape shows among its keys. -/
theorem keys_split_ne {k : ℤ} {w : List ℤ} (hw : ¬ Unfinished (split w)) :
    keys (split w) ≠ KEY_ESCAPE :: KEY_BRACKET :: keys (decoded .none (k :: w)) := by
  intro h
  by_cases hk : k = KEY_ESCAPE
  · subst hk
    match w with
    | [] => cases h
    | c :: v =>
      by_cases hc : c = KEY_BRACKET
      · subst hc
        rw [split_key bracket_ne_escape] at h
        exact bracket_ne_escape (List.cons.inj h).1
      · have hlen := congrArg List.length h
        have := (behind v).skipped c hw
        simp only [decoded_bare hc, keys, List.length_cons] at hlen
        omega
  · have hlen := congrArg List.length h
    have := (behind w).same hw
    simp only [decoded_key hk, keys, List.length_cons] at hlen
    omega

end Counting

section Pairing

theorem keys_append (ps qs : List Press) : keys (ps ++ qs) = keys ps ++ keys qs := by
  induction ps with
  | nil => rfl
  | cons p ps ih =>
    cases p with
    | arrow => exact ih
    | key k => exact congrArg (k :: ·) ih

/-- The filter tells the presses of a stream apart, or shows other keys. -/
def Told (w : List ℤ) : Prop :=
  (isPaired false (split w) = true ∧ decoded .none w = split w) ∨
    (isPaired false (split w) = false ∧ keys (decoded .none w) ≠ keys (split w))

variable {w v : List ℤ}

theorem Told.append (h : Told v) (ps : List Press) (hs : split w = ps ++ split v)
    (hd : decoded .none w = ps ++ decoded .none v)
    (hp : isPaired false (ps ++ split v) = isPaired false (split v)) : Told w := by
  rw [Told, hs, hd, hp]
  apply h.imp
  · rintro ⟨hpaired, heq⟩
    exact ⟨hpaired, congrArg (ps ++ ·) heq⟩
  · rintro ⟨hpaired, hne⟩
    refine ⟨hpaired, fun heq => hne ?_⟩
    rw [keys_append, keys_append] at heq
    exact List.append_cancel_left heq

/-- After two escapes the filter is where it was, unless the second starts an arrow. -/
theorem told_escape_escape (ih : ∀ u, u.length ≤ v.length → ¬ Unfinished (split u) → Told u)
    (hw : ¬ Unfinished (split (KEY_ESCAPE :: KEY_ESCAPE :: v))) :
    Told (KEY_ESCAPE :: KEY_ESCAPE :: v) := by
  rw [split_escape_escape] at hw
  match v with
  | [] => exact absurd (.inl (List.suffix_cons _ _)) hw
  | c :: u =>
    by_cases hc : c = KEY_BRACKET
    · subst hc
      match u with
      | [] => exact absurd (.inr (List.suffix_cons _ _)) hw
      | k :: u =>
        rw [split_arrow] at hw
        rw [Told, split_escape_escape, split_arrow, decoded_escape_escape,
          decoded_key bracket_ne_escape]
        refine .inr ⟨rfl, fun h => ?_⟩
        exact keys_split_ne (fun h => hw ((h.cons _).cons _)) (List.cons.inj h).2.symm
    · rw [split_bare hc] at hw
      have hs : split (KEY_ESCAPE :: KEY_ESCAPE :: c :: u) =
          [.key KEY_ESCAPE, .key KEY_ESCAPE] ++ split (c :: u) := by
        rw [split_escape_escape, split_bare hc]
        rfl
      exact (ih _ le_rfl fun h => hw ((h.cons _).cons _)).append _ hs decoded_escape_escape rfl

theorem isPaired_key {k : ℤ} (hk : k ≠ KEY_ESCAPE) (odd : Bool) (ps : List Press) :
    isPaired odd (.key k :: ps) = isPaired false ps := by
  rw [isPaired, beq_false_of_ne hk, Bool.false_and]

theorem told (w : List ℤ) (hw : ¬ Unfinished (split w)) : Told w := by
  induction hn : w.length using Nat.strong_induction_on generalizing w with
  | _ n ih =>
    subst hn
    have ih : ∀ v : List ℤ, v.length < w.length → ¬ Unfinished (split v) → Told v :=
      fun v hv hw => ih _ hv v hw rfl
    cases shape w with
    | nil => exact .inl ⟨rfl, rfl⟩
    | escape => exact absurd (.inl (List.suffix_refl _)) hw
    | bracket => exact absurd (.inr (List.suffix_refl _)) hw
    | @arrow k v =>
      rw [split_arrow] at hw
      exact (ih v (by simp; omega) fun h => hw (h.cons _)).append [.arrow k] split_arrow
        decoded_arrow rfl
    | @bare k v hb =>
      by_cases hk : k = KEY_ESCAPE
      · subst hk
        exact told_escape_escape (fun u hu => ih u (by simp; omega)) hw
      · have hs : split (KEY_ESCAPE :: k :: v) = [.key KEY_ESCAPE, .key k] ++ split v := by
          rw [split_bare hb, split_key hk]
          rfl
        rw [hs] at hw
        exact (ih v (by simp) fun h => hw ((h.cons _).cons _)).append _ hs
          (decoded_bare hb) (isPaired_key hk _ _)
    | @key k v hk =>
      rw [split_key hk] at hw
      exact (ih v (by simp) fun h => hw (h.cons _)).append [.key k] (split_key hk)
        (decoded_key hk) (isPaired_key hk _ _)

end Pairing

end Press

namespace SteeringFilterKeyboard

open Press

variable {D : Type} [Double D] {s : State D} {stage : EscapeStage} {answers : List ℤ}

/-- A filter that has read a part of an arrow and holds no key. -/
def reading (s : State D) (stage : EscapeStage) (answers : List ℤ) : SteeringFilterKeyboard D :=
  { inner := some answers, target := some { state := s, escapeStage := stage } }

/-- The keys among the answers. -/
def bytes (answers : List ℤ) : List ℤ := answers.filter (0 ≤ ·)

/-- The keys that came out, and the arrows that acted, are those of the presses. -/
def Shows (r : List ℤ × SteeringFilterKeyboard D) (s : State D) (ps : List Press) : Prop :=
  r.1.filter (0 ≤ ·) = keys ps ∧ r.2.target.map (·.state) = some (steer s ps)

theorem getKeys_succ (n : ℕ) (kb : SteeringFilterKeyboard D) :
    getKeys (n + 1) kb = (kb.getKey.1 :: (getKeys n kb.getKey.2).1, (getKeys n kb.getKey.2).2) :=
  rfl

section Steps

variable {k : ℤ} {n : ℕ} {ps : List Press}

theorem bytes_gap (h : k < 0) : bytes (k :: answers) = bytes answers :=
  List.filter_cons_of_neg (by simpa using h)

theorem bytes_key (h : 0 ≤ k) : bytes (k :: answers) = k :: bytes answers :=
  List.filter_cons_of_pos (by simpa using h)

theorem shows_nil (s : State D) (stage : EscapeStage) (n : ℕ) :
    Shows (getKeys n (reading s stage [])) s [] := by
  induction n with
  | zero => exact ⟨rfl, rfl⟩
  | succ n ih => exact ih

theorem shows_gap (h : k < 0) (ih : Shows (getKeys n (reading s stage answers)) s ps) :
    Shows (getKeys (n + 1) (reading s stage (k :: answers))) s ps := by
  have hstep : (reading s stage (k :: answers)).getKey = (k, reading s stage answers) := if_pos h
  rw [getKeys_succ, hstep]
  exact ⟨(List.filter_cons_of_neg (by simpa using h)).trans ih.1, ih.2⟩

theorem getKeys_consumed {s' : State D} {stage' : EscapeStage} (h : 0 ≤ k)
    (hc : CsvKeyActionTarget.consumeEscapeSequence { state := s, escapeStage := stage } k =
      (true, { state := s', escapeStage := stage' })) :
    getKeys (n + 1) (reading s stage (k :: answers)) =
      getKeys (n + 1) (reading s' stage' answers) := by
  have hstep : (reading s stage (k :: answers)).getKey = (reading s' stage' answers).getKey := by
    change search _ ⟨s, stage, -1⟩ (k :: answers) = search _ ⟨s', stage', -1⟩ answers
    rw [search, if_neg (not_lt.mpr h), hc]
    rfl
  rw [getKeys_succ, getKeys_succ, hstep]

theorem shows_key (h : 0 ≤ k) (hk : k ≠ KEY_ESCAPE)
    (ih : Shows (getKeys n (reading s .none answers)) s ps) :
    Shows (getKeys (n + 1) (reading s .none (k :: answers))) s (.key k :: ps) := by
  have hstep : (reading s .none (k :: answers)).getKey = (k, reading s .none answers) := by
    change search _ _ (k :: answers) = _
    rw [search, if_neg (not_lt.mpr h), CsvKeyActionTarget.consumeEscapeSequence, if_neg hk]
    rfl
  rw [getKeys_succ, hstep]
  exact ⟨(List.filter_cons_of_pos (by simpa using h)).trans (congrArg (k :: ·) ih.1), ih.2⟩

/-- The escape comes out first, and the key after it with the next call. -/
theorem shows_bare (h : 0 ≤ k) (hk : k ≠ KEY_BRACKET)
    (ih : Shows (getKeys n (reading s .none answers)) s ps) :
    Shows (getKeys (n + 2) (reading s .escape (k :: answers))) s
      (.key KEY_ESCAPE :: .key k :: ps) := by
  have hstep : (reading s .escape (k :: answers)).getKey =
      (KEY_ESCAPE, { reading s .none answers with pendingKey := k }) := by
    change search _ _ (k :: answers) = _
    rw [search, if_neg (not_lt.mpr h), CsvKeyActionTarget.consumeEscapeSequence, if_neg hk]
    rfl
  have hnext : ({ reading s .none answers with pendingKey := k }).getKey =
      (k, reading s .none answers) := if_pos h
  rw [getKeys_succ, hstep, getKeys_succ, hnext]
  refine ⟨?_, ih.2⟩
  change List.filter _ (KEY_ESCAPE :: k :: _) = _
  rw [List.filter_cons_of_pos (by decide), List.filter_cons_of_pos (by simpa using h), ih.1]
  rfl

end Steps

/-- The calls that a swallowed escape may need on top of one for each answer. -/
def heldBack : EscapeStage → ℕ
  | .escape => 1
  | _ => 0

theorem shows_decoded {n : ℕ} (hn : answers.length + heldBack stage ≤ n) :
    Shows (getKeys n (reading s stage answers)) s (decoded stage (bytes answers)) := by
  induction answers generalizing s stage n with
  | nil => cases stage <;> exact shows_nil s _ n
  | cons k answers ih =>
    obtain ⟨n, rfl⟩ : ∃ m, n = m + 1 := Nat.exists_eq_succ_of_ne_zero (by simp at hn; omega)
    replace hn : answers.length + heldBack stage ≤ n := by simp at hn; omega
    by_cases h : k < 0
    · rw [bytes_gap h]
      exact shows_gap h (ih hn)
    · have h := not_lt.mp h
      rw [bytes_key h]
      cases stage with
      | none =>
        by_cases hk : k = KEY_ESCAPE
        · subst hk
          rw [getKeys_consumed h rfl]
          exact ih (Nat.succ_le_succ hn)
        · rw [decoded_key hk]
          exact shows_key h hk (ih hn)
      | escape =>
        by_cases hk : k = KEY_BRACKET
        · subst hk
          rw [getKeys_consumed h rfl]
          exact ih (Nat.le_add_right_of_le (Nat.le_of_succ_le hn))
        · obtain ⟨n, rfl⟩ : ∃ m, n = m + 1 :=
            Nat.exists_eq_succ_of_ne_zero (Nat.ne_of_gt (Nat.lt_of_lt_of_le (Nat.succ_pos _) hn))
          rw [decoded, if_neg hk]
          exact shows_bare h hk (ih (Nat.le_of_succ_le_succ hn))
      | bracket =>
        rw [getKeys_consumed h rfl]
        exact ih (Nat.le_add_right_of_le hn)

/-- Without a target every answer passes. -/
theorem getKeys_untargeted {n : ℕ} (hn : n ≤ answers.length) :
    (getKeys n { inner := some answers, target := (none : Option (CsvKeyActionTarget D)) }).1 =
      answers.take n := by
  induction n generalizing answers with
  | zero => rfl
  | succ n ih =>
    cases answers with
    | nil => exact absurd hn (Nat.not_succ_le_zero n)
    | cons k answers => exact congrArg (k :: ·) (ih (Nat.le_of_succ_le_succ hn))

/-- As many calls as there were answers, or more, show the presses of the stream. -/
def FiltersArrows (s : State D) (answers : List ℤ) : Prop :=
  ∀ n, answers.length ≤ n →
    Shows (getKeys n (reading s .none answers)) s (split (bytes answers))

/-- No arrow may stand right behind an odd number of escapes. -/
theorem filtersArrows_iff (s : State D) (answers : List ℤ)
    (h : ¬ Unfinished (split (bytes answers))) :
    FiltersArrows s answers ↔ isPaired false (split (bytes answers)) = true := by
  have hshows : ∀ n, answers.length ≤ n →
      Shows (getKeys n (reading s .none answers)) s (decoded .none (bytes answers)) :=
    fun _ hn => shows_decoded hn
  rcases told _ h with ⟨hpaired, heq⟩ | ⟨hpaired, hne⟩
  · rw [heq] at hshows
    exact iff_of_true hshows hpaired
  · refine iff_of_false (fun hf => hne ?_) (by rw [hpaired]; decide)
    exact (hshows _ le_rfl).1.symm.trans (hf _ le_rfl).1

/-- A key, an interrupted arrow and an escape before a key. -/
theorem filtersArrows_arrow_after_key :
    FiltersArrows ({ steering_angle_deg := 0 } : State ℚ) [120, 27, 91, -1, 67, 27, 120] ↔
      isPaired false (split (bytes [120, 27, 91, -1, 67, 27, 120])) = true :=
  filtersArrows_iff _ _ (by decide)

/-- An arrow right after the escape key is not recognised. -/
theorem arrow_after_escape_lost :
    ¬ Unfinished (split (bytes [27, 27, 91, 65])) ∧
      ¬ FiltersArrows ({ steering_angle_deg := 0 } : State ℚ) [27, 27, 91, 65] := by
  refine ⟨by decide, fun h => ?_⟩
  have hkeys := (h 4 le_rfl).1
  exact absurd hkeys (by decide)

end SteeringFilterKeyboard

end VehicleSpy.Interactive
