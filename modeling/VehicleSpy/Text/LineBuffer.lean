import VehicleSpy.Text.Segments
import Mathlib.Algebra.GroupWithZero.Nat
import Mathlib.Data.List.Forall2

/-! # A line buffer of bounded length

A reader appends what it gets to a buffer, drops letters in front when the buffer is too long, and
takes out the lines that are complete. Every line it hands out is a segment of the stream or, where
its beginning has been dropped, the end of one.
-/

namespace VehicleSpy.Text

open Machine

/-- A line, where it begins in the stream, and whether its beginning has been dropped. -/
structure Piece (α : Type*) where
  start : ℕ
  cut : Bool
  text : List α
  deriving DecidableEq, Repr

/-- The letters in the buffer, where they begin in the stream, and whether the beginning of their
first line has been dropped. -/
structure LineBuffer (α : Type*) where
  base : ℕ := 0
  cut : Bool := false
  pending : List α := []
  deriving DecidableEq, Repr

variable {α : Type*}

/-- Lines one after the other, each with its separator; only the first may be cut. -/
def placed (start : ℕ) (cut : Bool) : List (List α) → List (Piece α)
  | [] => []
  | l :: ls => ⟨start, cut, l⟩ :: placed (start + l.length + 1) false ls

/-- The second piece is whole, and the first one its end. -/
def Tail (x y : Piece α) : Prop :=
  ∃ v, y.text = v ++ x.text ∧ x.start = y.start + v.length ∧ (x.cut = true ↔ v ≠ [])

namespace LineBuffer

variable (p : α → Bool) (dropped : ℕ → ℕ)

/-- Drop letters in front; the next line is whole only if a separator is the last of them. -/
def drop (b : LineBuffer α) (k : ℕ) : LineBuffer α :=
  if k = 0 then b
  else ⟨b.base + k, (b.pending.take k).getLast?.any (!p ·), b.pending.drop k⟩

/-- Take out the complete lines. -/
def take (b : LineBuffer α) : LineBuffer α × List (Piece α) :=
  let lines := segments p b.pending
  let rest := remainder p b.pending
  (⟨b.base + (b.pending.length - rest.length), if lines = [] then b.cut else false, rest⟩,
    placed b.base b.cut lines)

def append (b : LineBuffer α) (data : List α) : LineBuffer α :=
  { b with pending := b.pending ++ data }

/-- Get some letters; how many are dropped depends on the length of the buffer. -/
def step (b : LineBuffer α) (data : List α) : LineBuffer α × List (Piece α) :=
  ((b.append data).drop p (dropped (b.pending.length + data.length))).take p

/-- The same step without places. -/
def feed (pending data : List α) : List α × List (List α) :=
  let kept := (pending ++ data).drop (dropped (pending.length + data.length))
  (remainder p kept, segments p kept)

end LineBuffer

section Pieces

variable {p : α → Bool} {start : ℕ} {cut : Bool} {ls ms : List (List α)} {w u v l : List α}

@[simp] theorem map_text_placed (start : ℕ) (cut : Bool) (ls : List (List α)) :
    (placed start cut ls).map Piece.text = ls := by
  induction ls generalizing start cut with
  | nil => rfl
  | cons l ls ih => rw [placed, List.map_cons, ih]

theorem placed_append (start : ℕ) (ls ms : List (List α)) :
    placed start false (ls ++ ms) =
      placed start false ls ++ placed (start + (ls.map (·.length + 1)).sum) false ms := by
  induction ls generalizing start with
  | nil => rfl
  | cons l ls ih =>
    rw [List.cons_append, placed, ih, placed, List.cons_append, List.map_cons, List.sum_cons]
    congr 3
    omega

theorem cut_of_mem_placed {x : Piece α} (h : x ∈ placed start false ls) : x.cut = false := by
  induction ls generalizing start with
  | nil => cases h
  | cons l ls ih =>
    rcases List.mem_cons.mp h with rfl | h
    · rfl
    · exact ih h

/-- The segments with their separators are what stands before the remainder. -/
theorem sum_segments (w : List α) :
    ((segments p w).map (·.length + 1)).sum + (remainder p w).length = w.length := by
  induction hn : w.length using Nat.strongRecOn generalizing w with
  | ind n ih =>
    by_cases hfree : ∃ c ∈ w, p c = true
    · obtain ⟨v, c, w', rfl, hc, hv⟩ := first_separator hfree
      rw [List.length_append, List.length_cons] at hn
      have hrest := ih w'.length (by omega) w' rfl
      rw [segments_closed hv hc, remainder_closed hv hc, List.map_cons, List.sum_cons]
      omega
    · have hopen : ∀ c ∈ w, p c = false := by simpa using hfree
      rw [segments_open hopen, remainder_open hopen, ← hn]
      exact Nat.zero_add _

theorem remainder_eq_nil_iff : remainder p w = [] ↔ w.getLast?.any (!p ·) = false := by
  induction w using List.reverseRecOn with
  | nil => exact iff_of_true rfl rfl
  | append_singleton w c _ =>
    rw [List.getLast?_concat, Option.any_some]
    cases hc : p c with
    | true => exact iff_of_true (segments_concat hc w).2 rfl
    | false =>
      have hfree : ∀ d ∈ remainder p w ++ [c], p d = false := by
        intro d hd
        rcases List.mem_append.mp hd with hd | hd
        · exact remainder_free w d hd
        · rw [List.mem_singleton.mp hd, hc]
      rw [remainder_append, remainder_open hfree]
      simp

theorem tail_self (x : Piece α) (h : x.cut = false) : Tail x x :=
  ⟨[], rfl, rfl, by simp [h]⟩

theorem forall₂_tail_placed (start : ℕ) (ls : List (List α)) :
    List.Forall₂ Tail (placed start false ls) (placed start false ls) := by
  rw [List.forall₂_same]
  exact fun x hx => tail_self x (cut_of_mem_placed hx)

end Pieces

namespace LineBuffer

section Tails

variable {p : α → Bool} {b : LineBuffer α} {lost rest : List α} {out : List (Piece α)} {k : ℕ}

/-- What has been dropped of the line at the front of the buffer. -/
structure Behind (p : α → Bool) (lost : List α) (b : LineBuffer α) : Prop where
  free : ∀ c ∈ lost, p c = false
  length_le : lost.length ≤ b.base
  cut : b.cut = true ↔ lost ≠ []

/-- The lines are the ends of some segments of the stream, in its order. -/
def Ends (p : α → Bool) (lost : List α) (b : LineBuffer α) (rest : List α)
    (out : List (Piece α)) : Prop :=
  ∃ segs, List.Sublist segs
      (placed (b.base - lost.length) false (segments p (lost ++ b.pending ++ rest))) ∧
    List.Forall₂ Tail out segs

theorem ends_append {data : List α} :
    Ends p lost (b.append data) rest out ↔ Ends p lost b (data ++ rest) out := by
  simp only [Ends, append, List.append_assoc]

/-- Dropping letters in front passes over the segments that they close. -/
theorem drop_behind (h : Behind p lost b) (hk : k ≤ b.pending.length) :
    ∃ lost', Behind p lost' (b.drop p k) ∧
      ∀ rest out, Ends p lost' (b.drop p k) rest out → Ends p lost b rest out := by
  by_cases hzero : k = 0
  · rw [drop, if_pos hzero]
    exact ⟨lost, h, fun _ _ hout => hout⟩
  · have htake : (b.pending.take k).length = k := by rw [List.length_take, Nat.min_eq_left hk]
    have hne : b.pending.take k ≠ [] := by
      intro hnil
      rw [hnil] at htake
      exact hzero htake.symm
    have hsum := sum_segments (p := p) (lost ++ b.pending.take k)
    have hlength : (lost ++ b.pending.take k).length = lost.length + k := by
      rw [List.length_append, htake]
    have hlost := h.length_le
    rw [drop, if_neg hzero]
    refine ⟨remainder p (lost ++ b.pending.take k), ⟨remainder_free _, ?_, ?_⟩, ?_⟩
    · dsimp only
      omega
    · have hlast := remainder_eq_nil_iff (p := p) (w := lost ++ b.pending.take k)
      rw [List.getLast?_append_of_ne_nil _ hne] at hlast
      rw [ne_eq, hlast, Bool.not_eq_false]
    · rintro rest out ⟨segs, hsub, htails⟩
      refine ⟨segs, hsub.trans ?_, htails⟩
      have hword : lost ++ b.pending ++ rest =
          lost ++ b.pending.take k ++ (b.pending.drop k ++ rest) := by
        rw [List.append_assoc, List.append_assoc, ← List.append_assoc (b.pending.take k),
          List.take_append_drop]
      have hstart : b.base + k - (remainder p (lost ++ b.pending.take k)).length =
          b.base - lost.length +
            ((segments p (lost ++ b.pending.take k)).map (·.length + 1)).sum := by
        omega
      rw [hstart, hword, segments_append (lost ++ b.pending.take k), placed_append,
        List.append_assoc]
      exact List.sublist_append_right _ _

/-- The first complete line may be the end of a segment; the lines behind it are segments. -/
theorem take_behind (h : Behind p lost b) :
    ∃ lost', Behind p lost' (b.take p).1 ∧ ∀ rest out,
      Ends p lost' (b.take p).1 rest out → Ends p lost b rest ((b.take p).2 ++ out) := by
  have hlost := h.length_le
  by_cases hfree : ∃ c ∈ b.pending, p c = true
  · obtain ⟨l, c, w, hw, hc, hl⟩ := first_separator hfree
    have hsegs : segments p b.pending = l :: segments p w := by rw [hw, segments_closed hl hc]
    have hrem : remainder p b.pending = remainder p w := by rw [hw, remainder_closed hl hc]
    have hlen : b.pending.length = l.length + w.length + 1 := by
      rw [hw, List.length_append, List.length_cons]
      omega
    have hsum := sum_segments (p := p) w
    refine ⟨[], ⟨by simp, Nat.zero_le _, ?_⟩, ?_⟩
    · simp [take, hsegs]
    · rintro rest out ⟨segs, hsub, htails⟩
      have hline : ∀ d ∈ lost ++ l, p d = false := fun d hd =>
        (List.mem_append.mp hd).elim (h.free d) (hl d)
      have hword : segments p (lost ++ b.pending ++ rest) =
          (lost ++ l) :: (segments p w ++ segments p (remainder p w ++ rest)) := by
        rw [hw, List.append_assoc, List.append_assoc, List.cons_append, ← List.append_assoc,
          segments_closed hline hc, segments_append]
      have hnext : b.base - lost.length + (lost ++ l).length + 1 = b.base + l.length + 1 := by
        rw [List.length_append]
        omega
      have hbase : b.base + (b.pending.length - (remainder p w).length) =
          b.base + l.length + 1 + ((segments p w).map (·.length + 1)).sum := by
        omega
      simp only [take, hrem, List.nil_append, List.length_nil, Nat.sub_zero, hbase] at hsub
      refine ⟨⟨b.base - lost.length, false, lost ++ l⟩ ::
        (placed (b.base + l.length + 1) false (segments p w) ++ segs), ?_, ?_⟩
      · rw [hword, placed, hnext, placed_append]
        exact ((List.append_sublist_append_left _).mpr hsub).cons_cons _
      · have hplaced : (b.take p).2 = ⟨b.base, b.cut, l⟩ ::
            placed (b.base + l.length + 1) false (segments p w) := by
          simp only [take, hsegs, placed]
        rw [hplaced, List.cons_append]
        refine .cons ⟨lost, rfl, ?_, h.cut⟩ (List.rel_append (forall₂_tail_placed _ _) htails)
        dsimp only
        omega
  · have hopen : ∀ c ∈ b.pending, p c = false := by simpa using hfree
    have htake : b.take p = (b, []) := by
      simp only [take, segments_open hopen, remainder_open hopen, if_true, Nat.sub_self,
        Nat.add_zero, placed]
    rw [htake]
    exact ⟨lost, h, fun _ _ hout => hout⟩

end Tails

section Runs

variable {p : α → Bool} {dropped : ℕ → ℕ} {b : LineBuffer α} {lost : List α}

/-- Every line that is taken out of the buffer is a segment of the stream or the end of one. -/
theorem emitted_ends (hdropped : ∀ n, dropped n ≤ n) (reads : List (List α))
    (h : Behind p lost b) : Ends p lost b reads.flatten (emitted (step p dropped) b reads) := by
  induction reads generalizing b lost with
  | nil => exact ⟨[], List.nil_sublist _, .nil⟩
  | cons data reads ih =>
    have happend : Behind p lost (b.append data) := ⟨h.free, h.length_le, h.cut⟩
    obtain ⟨lost₁, hbehind₁, hends₁⟩ := drop_behind happend
      (k := dropped (b.pending.length + data.length))
      (by rw [append, List.length_append]; exact hdropped _)
    obtain ⟨lost₂, hbehind₂, hends₂⟩ := take_behind hbehind₁
    rw [List.flatten_cons, ← ends_append, emitted_cons]
    exact hends₁ _ _ (hends₂ _ _ (ih hbehind₂))

/-- Places aside, the lines are those of the reader that keeps only its letters. -/
theorem map_text_emitted (reads : List (List α)) (b : LineBuffer α) :
    (emitted (step p dropped) b reads).map Piece.text =
      emitted (feed p dropped) b.pending reads := by
  induction reads generalizing b with
  | nil => rfl
  | cons data reads ih =>
    have hdrop (b : LineBuffer α) (k : ℕ) : (b.drop p k).pending = b.pending.drop k := by
      unfold drop
      split
      · next h => rw [h, List.drop_zero]
      · rfl
    have hpending : (step p dropped b data).1.pending = (feed p dropped b.pending data).1 := by
      simp only [step, take, feed, hdrop, append]
    have htext : (step p dropped b data).2.map Piece.text = (feed p dropped b.pending data).2 := by
      simp only [step, take, feed, hdrop, append, map_text_placed]
    rw [emitted_cons, emitted_cons, List.map_append, ih, hpending, htext]

/-- A stream without separators completes no line. -/
theorem emitted_feed_open (reads : List (List α)) {pending : List α}
    (hfree : ∀ c ∈ pending ++ reads.flatten, p c = false) :
    emitted (feed p dropped) pending reads = [] := by
  induction reads generalizing pending with
  | nil => rfl
  | cons data reads ih =>
    rw [List.flatten_cons, ← List.append_assoc] at hfree
    have hkept : ∀ c ∈ (pending ++ data).drop (dropped (pending.length + data.length)),
        p c = false := fun c hc => hfree c (List.mem_append_left _ (List.mem_of_mem_drop hc))
    have hnext : ∀ c ∈ (feed p dropped pending data).1 ++ reads.flatten, p c = false := by
      intro c hc
      rcases List.mem_append.mp hc with hc | hc
      · exact remainder_free _ c hc
      · exact hfree c (List.mem_append_right _ hc)
    rw [emitted_cons, ih hnext, List.append_nil]
    exact segments_open hkept

/-- Where no line is longer than the cap without one read, no line is lost. -/
theorem emitted_feed_short {cap size : ℕ} (hcap : ∀ n ≤ cap, dropped n = 0)
    (reads : List (List α)) (hsize : ∀ data ∈ reads, data.length ≤ size) {pending : List α}
    (hp : ∀ c ∈ pending, p c = false)
    (hshort : ∀ l ∈ segments p (pending ++ reads.flatten), l.length + size ≤ cap) :
    emitted (feed p dropped) pending reads = segments p (pending ++ reads.flatten) := by
  induction reads generalizing pending with
  | nil => rw [List.flatten_nil, List.append_nil, segments_open hp, emitted_nil]
  | cons data reads ih =>
    have hdata := hsize data List.mem_cons_self
    by_cases hover : pending.length + data.length ≤ cap
    · have hfeed : feed p dropped pending data =
          (remainder p (pending ++ data), segments p (pending ++ data)) := by
        simp only [feed, hcap _ hover, List.drop_zero]
      rw [List.flatten_cons, ← List.append_assoc, segments_append] at hshort ⊢
      rw [emitted_cons, hfeed, ih (fun d hd => hsize d (List.mem_cons_of_mem _ hd))
        (remainder_free _) fun l hl => hshort l (List.mem_append_right _ hl)]
    · -- The buffer can only be too long behind the last separator of the stream.
      have hrest : ∀ c ∈ (data :: reads).flatten, p c = false := by
        by_contra h
        obtain ⟨v, c, w, hvw, hc, hv⟩ := first_separator (p := p)
          (w := (data :: reads).flatten) (by simpa using h)
        have hline : ∀ d ∈ pending ++ v, p d = false := fun d hd =>
          (List.mem_append.mp hd).elim (hp d) (hv d)
        have hmem := hshort (pending ++ v) (by
          rw [hvw, ← List.append_assoc, segments_closed hline hc]
          exact List.mem_cons_self)
        rw [List.length_append] at hmem
        omega
      have hall : ∀ c ∈ pending ++ (data :: reads).flatten, p c = false := fun c hc =>
        (List.mem_append.mp hc).elim (hp c) (hrest c)
      rw [emitted_feed_open _ hall, segments_open hall]

/-- No line is longer than the buffer. -/
theorem length_le_of_mem_emitted {cap : ℕ} (hcap : ∀ n, n - dropped n ≤ cap)
    (reads : List (List α)) (pending : List α) {l : List α}
    (hl : l ∈ emitted (feed p dropped) pending reads) : l.length ≤ cap := by
  induction reads generalizing pending with
  | nil => cases hl
  | cons data reads ih =>
    rcases List.mem_append.mp hl with hl | hl
    · have hle := (mem_segments hl).1.length_le
      rw [List.length_drop, List.length_append] at hle
      exact Nat.le_trans hle (hcap _)
    · exact ih _ hl

end Runs

end LineBuffer

end VehicleSpy.Text
