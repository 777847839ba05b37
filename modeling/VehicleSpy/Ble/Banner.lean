import VehicleSpy.Ble.ELM327Transport

/-! # The banner of a reply

A reply may stand behind a banner of the adapter. The decoder looks for one banner after the other
and compares where the next begins with where the data behind the earlier ones would begin. Two
banners never overlap, and none begins with a separator, so the banner removed is the first one in
the text whatever the order in which they are looked for.
-/

namespace VehicleSpy.Ble.ELM327Transport

open Text

/-- The text behind its first banner and the separators that follow it, or all of a text without
one. -/
inductive BannerRemoved (text : Bytes) : Bytes → Prop
  | absent (h : ∀ b ∈ infoMessages, ¬ b <:+: text) : BannerRemoved text text
  | behind {u b v : Bytes} (hb : b ∈ infoMessages) (ht : text = u ++ (b ++ v))
      (hfirst : ∀ b' ∈ infoMessages, ∀ u' v', text = u' ++ (b' ++ v') → u.length ≤ u'.length) :
      BannerRemoved text (v.dropWhile isInfoSeparator)

/-- The banners are looked for in the order of a hash set. -/
def stripInfoPrefixesIn (order : List Bytes) (cleaned : Bytes) : Bytes :=
  match order.foldl (infoStep cleaned) none with
  | some dataStart => cleaned.drop dataStart
  | none => cleaned

/-- Where the data begins behind the first of the banners seen so far. -/
inductive DataStart (text : Bytes) (seen : List Bytes) : Option ℕ → Prop
  | absent (h : ∀ b ∈ seen, ¬ b <:+: text) : DataStart text seen none
  | behind {b : Bytes} {pos : ℕ} (hb : b ∈ seen) (hat : b <+: text.drop pos)
      (hfirst : ∀ b' ∈ seen, ∀ q, b' <+: text.drop q → pos ≤ q) :
      DataStart text seen (some (dataBehind text (pos + b.length)))

variable {text b b' T : Bytes} {p q : ℕ} {d : Option ℕ} {seen order : List Bytes}

theorem infix_of_prefix_drop (h : b <+: text.drop p) : b <:+: text :=
  h.isInfix.trans (List.drop_suffix p text).isInfix

theorem drop_dataBehind (text : Bytes) (k : ℕ) :
    text.drop (dataBehind text k) = (text.drop k).dropWhile isInfoSeparator := by
  rw [dataBehind, ← List.drop_drop]
  conv_lhs =>
    arg 2
    rw [← List.takeWhile_append_dropWhile (p := isInfoSeparator) (l := text.drop k)]
  rw [List.drop_left]

theorem length_takeWhile_le {α : Type*} {f : α → Bool} {x : α} (u v : List α) (hx : f x = false) :
    ((u ++ x :: v).takeWhile f).length ≤ u.length := by
  rw [List.takeWhile_append, List.takeWhile_cons_of_neg (by simp [hx]), List.append_nil]
  split
  · exact le_rfl
  · exact (List.takeWhile_prefix f).length_le

/-- No banner reaches into another, nor begins where another does. -/
theorem banners_apart : ∀ b ∈ infoMessages, ∀ b' ∈ infoMessages, ∀ i < b.length,
    b.drop i <+: b' ∨ b' <+: b.drop i → i = 0 ∧ b = b' := by
  decide +kernel

theorem head_of_mem_infoMessages :
    ∀ b ∈ infoMessages, ∃ c s, b = c :: s ∧ isInfoSeparator c = false := by
  intro b hb
  have hhead : ∀ b ∈ infoMessages, b.head?.any (!isInfoSeparator ·) = true := by decide
  cases b with
  | nil => exact absurd (hhead _ hb) (by decide)
  | cons c s => exact ⟨c, s, rfl, by simpa using hhead _ hb⟩

/-- A later banner begins behind the data that an earlier one would leave. -/
theorem dataBehind_le (hb : b ∈ infoMessages) (hb' : b' ∈ infoMessages) (h : b <+: text.drop p)
    (h' : b' <+: text.drop q) (hpq : p ≤ q) :
    (p = q ∧ b = b') ∨ dataBehind text (p + b.length) ≤ q := by
  obtain ⟨i, rfl⟩ := Nat.exists_eq_add_of_le hpq
  rcases Nat.lt_or_ge i b.length with hi | hi
  · left
    have hover : b.drop i <+: b' ∨ b' <+: b.drop i := by
      refine List.prefix_or_prefix_of_prefix ?_ h'
      rw [← List.drop_drop]
      exact h.drop i
    obtain ⟨rfl, rfl⟩ := banners_apart b hb b' hb' i hi hover
    exact ⟨rfl, rfl⟩
  · right
    obtain ⟨j, rfl⟩ := Nat.exists_eq_add_of_le hi
    obtain ⟨c, s, rfl, hc⟩ := head_of_mem_infoMessages b' hb'
    obtain ⟨v, hv⟩ := h'
    have hrest : text.drop (p + b.length) =
        (text.drop (p + b.length)).take j ++ c :: (s ++ v) := by
      rw [← List.cons_append, hv, ← Nat.add_assoc, ← List.drop_drop (i := j), List.take_append_drop]
    have hle := length_takeWhile_le ((text.drop (p + b.length)).take j) (s ++ v) hc
    rw [← hrest] at hle
    have htake := List.length_take_le j (text.drop (p + b.length))
    rw [dataBehind]
    omega

theorem le_dataBehind (text : Bytes) (k : ℕ) : k ≤ dataBehind text k := Nat.le_add_right _ _

/-- Looking for one more banner keeps the first. -/
theorem DataStart.infoStep (h : DataStart text seen d) (hseen : ∀ b ∈ seen, b ∈ infoMessages)
    (hb : b ∈ infoMessages) : DataStart text (seen ++ [b]) (infoStep text d b) := by
  unfold ELM327Transport.infoStep
  cases hf : findStr b text with
  | none =>
    have hno := findStr_none_iff.mp hf
    cases h with
    | absent h =>
      refine .absent fun b' hb' => ?_
      rcases List.mem_append.mp hb' with hb' | hb'
      · exact h b' hb'
      · exact List.mem_singleton.mp hb' ▸ hno
    | behind hb₀ hat hfirst =>
      refine .behind (List.mem_append_left _ hb₀) hat fun b' hb' q hq => ?_
      rcases List.mem_append.mp hb' with hb' | hb'
      · exact hfirst b' hb' q hq
      · exact absurd (infix_of_prefix_drop hq) (List.mem_singleton.mp hb' ▸ hno)
  | some pos =>
    have hpos := findStr_prefix hf
    have hleast : ∀ b' ∈ [b], ∀ q, b' <+: text.drop q → pos ≤ q := by
      intro b' hb' q hq
      exact findStr_least hf (List.mem_singleton.mp hb' ▸ hq)
    cases h with
    | absent h =>
      refine .behind (by simp) hpos fun b' hb' q hq => ?_
      rcases List.mem_append.mp hb' with hb' | hb'
      · exact absurd (infix_of_prefix_drop hq) (h b' hb')
      · exact hleast b' hb' q hq
    | @behind b₀ pos₀ hb₀ hat hfirst =>
      have hkeep (hle : pos₀ ≤ pos) :
          DataStart text (seen ++ [b]) (some (dataBehind text (pos₀ + b₀.length))) := by
        refine .behind (List.mem_append_left _ hb₀) hat fun b' hb' q hq => ?_
        rcases List.mem_append.mp hb' with hb' | hb'
        · exact hfirst b' hb' q hq
        · exact hle.trans (hleast b' hb' q hq)
      rcases Nat.lt_or_ge pos pos₀ with hlt | hge
      · have hmove := hlt.trans_le
          ((Nat.le_add_right pos₀ b₀.length).trans (le_dataBehind text _))
        simp only [Option.all_some, decide_eq_true_eq, if_pos hmove]
        refine .behind (by simp) hpos fun b' hb' q hq => ?_
        rcases List.mem_append.mp hb' with hb' | hb'
        · exact hlt.le.trans (hfirst b' hb' q hq)
        · exact hleast b' hb' q hq
      · rcases dataBehind_le (hseen b₀ hb₀) hb hat hpos hge with ⟨rfl, rfl⟩ | hbehind
        · dsimp only
          rw [ite_self]
          exact hkeep le_rfl
        · simp only [Option.all_some, decide_eq_true_eq, if_neg hbehind.not_gt]
          exact hkeep hge

theorem dataStart_foldl (horder : ∀ b ∈ order, b ∈ infoMessages) :
    DataStart text order (order.foldl (infoStep text) none) := by
  induction order using List.reverseRecOn with
  | nil => exact .absent (List.forall_mem_nil _)
  | append_singleton order b ih =>
    obtain ⟨hseen, hb⟩ := List.forall_mem_append.mp horder
    rw [List.foldl_append, List.foldl_cons, List.foldl_nil]
    exact (ih hseen).infoStep hseen (hb b (List.mem_singleton_self b))

/-- Whatever the order of the banners, the first in the text is removed. -/
theorem bannerRemoved_iff (horder : order.Perm infoMessages) :
    BannerRemoved text T ↔ T = stripInfoPrefixesIn order text := by
  have h : DataStart text order (order.foldl (infoStep text) none) :=
    dataStart_foldl fun b hb => horder.mem_iff.mp hb
  unfold stripInfoPrefixesIn
  generalize order.foldl (infoStep text) none = d at h
  cases h with
  | absent h =>
    constructor
    · rintro (_ | ⟨hb, rfl, -⟩)
      · rfl
      · exact absurd ⟨_, _, List.append_assoc _ _ _⟩ (h _ (horder.mem_iff.mpr hb))
    · rintro rfl
      exact .absent fun b hb => h b (horder.mem_iff.mpr hb)
  | @behind b pos hb hat hfirst =>
    dsimp only
    rw [drop_dataBehind]
    have hb := horder.mem_iff.mp hb
    obtain ⟨v, hv⟩ := id hat
    have ht : text = text.take pos ++ (b ++ v) := by rw [hv, List.take_append_drop]
    have hpos : (text.take pos).length = pos := by
      obtain ⟨c, s, rfl, -⟩ := head_of_mem_infoMessages b hb
      have hlen := congrArg List.length hv
      rw [List.length_drop, List.cons_append, List.length_cons] at hlen
      exact List.length_take_of_le (by omega)
    have hrest : text.drop (pos + b.length) = v := by
      rw [← List.drop_drop, ← hv, List.drop_left]
    rw [hrest]
    constructor
    · rintro (h | @⟨u, b', v', hb', ht', hfirst'⟩)
      · exact absurd (infix_of_prefix_drop hat) (h b hb)
      · have hat' : b' <+: text.drop u.length := by
          rw [ht', List.drop_left]
          exact List.prefix_append b' v'
        have hle : u.length ≤ pos := hpos ▸ hfirst' b hb _ v ht
        obtain rfl := hle.antisymm (hfirst b' (horder.mem_iff.mpr hb') _ hat')
        rcases dataBehind_le hb hb' hat hat' le_rfl with ⟨-, rfl⟩ | hbehind
        · rw [ht', List.drop_left] at hv
          rw [List.append_cancel_left hv]
        · obtain ⟨c, s, rfl, -⟩ := head_of_mem_infoMessages b hb
          have hlt := le_dataBehind text (u.length + (c :: s).length)
          rw [List.length_cons] at hlt hbehind
          omega
    · rintro rfl
      refine .behind hb ht fun b' hb' u' v' ht' => ?_
      rw [hpos]
      refine hfirst b' (horder.mem_iff.mpr hb') u'.length ?_
      rw [ht', List.drop_left]
      exact List.prefix_append b' v'

end VehicleSpy.Ble.ELM327Transport
