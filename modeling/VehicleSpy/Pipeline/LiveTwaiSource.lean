import VehicleSpy.Text.Numbers

/-! # The live frame source, raw path

A line `ID B0 B1 ...` becomes a frame of ten bytes: the identifier, low byte first, and
the data bytes padded with zeros. Lines that do not parse are skipped.
-/

namespace VehicleSpy.Pipeline

open Text

structure TwaiFrame where
  bytes : Bytes
  rawLine : Bytes
  deriving DecidableEq, Repr

namespace LiveTwaiSource

/-- The tokens that `nextToken` yields one after the other. -/
def tokens (line : Bytes) : List Bytes := (line.splitOnP isSpaceOrTab).filter (· ≠ [])

/-- The first token: at most three characters, read as an 11-bit identifier. -/
def parseCanIdToken (tok : Bytes) : Option ℕ :=
  match fromChars 16 (2 ^ 32) tok with
  | some v => if tok.length ≤ 3 ∧ v ≤ 0x7FF then some v else none
  | none => none

/-- A later token: two characters, appended as one of at most eight data bytes. -/
def parseDataByteToken (data : Bytes) (tok : Bytes) : Option Bytes :=
  match fromChars 16 (2 ^ 32) tok with
  | some v =>
    if tok.length = 2 ∧ v ≤ 0xFF ∧ data.length < 8 then some (data ++ [v.toUInt8]) else none
  | none => none

def tokenizeTwaiLine (line : Bytes) : Option (ℕ × Bytes) :=
  match tokens line with
  | [] => none
  | tok :: toks => do
    let canId ← parseCanIdToken tok
    let data ← toks.foldlM parseDataByteToken []
    return (canId, data)

def rtrim (s : Bytes) : Bytes := s.rdropWhile isBlank

def frameBytes (canId : ℕ) (data : Bytes) : Bytes :=
  (canId &&& 0xFF).toUInt8 :: (canId >>> 8 &&& 0xFF).toUInt8 ::
    (data ++ List.replicate (8 - data.length) 0)

/-- The frame that a line of the transport becomes. -/
def rawFrame (line : Bytes) : Option TwaiFrame :=
  let trimmed := rtrim line
  if trimmed = [] then none
  else (tokenizeTwaiLine trimmed).map fun (canId, data) => ⟨frameBytes canId data, line⟩

/-- The next frame, from the lines that the transport is about to return. -/
def nextFrame : List Bytes → Option (TwaiFrame × List Bytes)
  | [] => none
  | line :: lines =>
    match rawFrame line with
    | some frame => some (frame, lines)
    | none => nextFrame lines

/-- All frames of the lines. -/
def frames (lines : List Bytes) : List TwaiFrame := lines.filterMap rawFrame

/-- The frames are what repeated calls of `nextFrame` return. -/
theorem frames_eq (lines : List Bytes) :
    frames lines =
      match nextFrame lines with
      | some (frame, rest) => frame :: frames rest
      | none => [] := by
  induction lines with
  | nil => rfl
  | cons line lines ih =>
    rcases h : rawFrame line with _ | frame
    · rw [frames, List.filterMap_cons_none h, ← frames, ih, nextFrame, h]
    · rw [frames, List.filterMap_cons_some h, nextFrame, h]
      rfl

section Printed

variable {id : ℕ} {data : Bytes}

/-- A line as the bridge prints it: the identifier and the data bytes in hexadecimal. -/
def printed (id : ℕ) (data : Bytes) : Bytes :=
  hexPad 3 id ++ data.flatMap fun b => SP :: hexPad 2 b.toNat

theorem notSpace_of_hex {c : Byte} (h : isDigit 16 c = true) : isSpaceOrTab c = false := by
  rw [← Bool.not_eq_true]
  intro hs
  have hc : c = SP ∨ c = TAB := by simpa [isSpaceOrTab, or_iff_not_imp_left] using hs
  rcases hc with rfl | rfl <;> exact absurd h (by decide)

theorem splitOnP_printed (w : Bytes) (hw : ∀ c ∈ w, isSpaceOrTab c = false) (data : Bytes) :
    (w ++ data.flatMap fun b => SP :: hexPad 2 b.toNat).splitOnP isSpaceOrTab =
      w :: data.map fun b => hexPad 2 b.toNat := by
  induction data generalizing w with
  | nil =>
    rw [List.flatMap_nil, List.append_nil]
    exact List.splitOnP_eq_singleton (by simpa using hw)
  | cons b data ih =>
    have hb : ∀ c ∈ hexPad 2 b.toNat, isSpaceOrTab c = false := fun c hc =>
      notSpace_of_hex (isDigit_hexPad _ _ c hc)
    rw [List.flatMap_cons, List.cons_append,
      List.splitOnP_append_cons_of_forall_mem (by simpa using hw) SP (by decide), ih _ hb,
      List.map_cons]

theorem tokens_printed :
    tokens (printed id data) = hexPad 3 id :: data.map fun b => hexPad 2 b.toNat := by
  have hid : ∀ c ∈ hexPad 3 id, isSpaceOrTab c = false := fun c hc =>
    notSpace_of_hex (isDigit_hexPad _ _ c hc)
  rw [tokens, printed, splitOnP_printed _ hid, List.filter_eq_self]
  intro w hw
  rcases List.mem_cons.mp hw with rfl | hw
  · simpa using hexPad_ne_nil 3 id
  · obtain ⟨b, -, rfl⟩ := List.mem_map.mp hw
    simpa using hexPad_ne_nil 2 b.toNat

theorem fromChars_hexPad {w n : ℕ} (hn : n < 2 ^ 32) :
    fromChars 16 (2 ^ 32) (hexPad w n) = some n := by
  have h : fromChars 16 (2 ^ 32) (hexPad w n ++ []) = some (numValue 16 (hexPad w n)) :=
    fromChars_digits (isDigit_hexPad w n) (hexPad_ne_nil w n) (by simp) (by rwa [numValue_hexPad])
  rwa [List.append_nil, numValue_hexPad] at h

theorem parseCanIdToken_hexPad (hid : id < 2 ^ 32) :
    parseCanIdToken (hexPad 3 id) = if id ≤ 0x7FF then some id else none := by
  rw [parseCanIdToken, fromChars_hexPad hid]
  by_cases h : id ≤ 0x7FF
  · simp [h, length_hexPad_of_lt (w := 3) (n := id) (by decide) (by omega)]
  · simp [h]

theorem foldlM_parseDataByteToken (acc : Bytes) (h : acc.length + data.length ≤ 8) :
    (data.map fun b => hexPad 2 b.toNat).foldlM parseDataByteToken acc = some (acc ++ data) := by
  induction data generalizing acc with
  | nil => simp
  | cons b data ih =>
    have hb := b.toNat_lt
    rw [List.length_cons] at h
    have hstep : parseDataByteToken acc (hexPad 2 b.toNat) = some (acc ++ [b]) := by
      have hlen := length_hexPad_of_lt (w := 2) (n := b.toNat) (by decide) (by omega)
      have hacc : acc.length < 8 := by omega
      rw [parseDataByteToken, fromChars_hexPad (by omega)]
      simp only [hlen, hacc, Nat.le_of_lt_succ hb, and_self, if_true]
      rw [show b.toNat.toUInt8 = b from UInt8.ofNat_toNat]
    rw [List.map_cons, List.foldlM_cons, hstep]
    exact (ih (acc ++ [b]) (by simp; omega)).trans (by simp)

theorem printed_ends_in_hex (id : ℕ) (data : Bytes) :
    ∃ u w n, printed id data = u ++ hexPad w n := by
  rcases List.eq_nil_or_concat data with rfl | ⟨d, b, rfl⟩
  · exact ⟨[], 3, id, by simp [printed]⟩
  · refine ⟨hexPad 3 id ++ d.flatMap (fun b => SP :: hexPad 2 b.toNat) ++ [SP], 2, b.toNat, ?_⟩
    simp [printed]

theorem rtrim_printed : rtrim (printed id data) = printed id data := by
  apply (rdropWhile_eq_self_iff _).mpr
  intro c hc
  obtain ⟨u, w, n, h⟩ := printed_ends_in_hex id data
  rw [h, List.getLast?_append_of_ne_nil _ (hexPad_ne_nil w n)] at hc
  exact notBlank_of_hex (isDigit_hexPad w n c (List.mem_of_getLast? hc))

/-- A printed line with an 11-bit identifier and at most eight data bytes becomes its frame; one
with a wider identifier is skipped. -/
theorem rawFrame_printed (hid : id < 2 ^ 32) (hdata : data.length ≤ 8) :
    rawFrame (printed id data) =
      if id ≤ 0x7FF then some ⟨frameBytes id data, printed id data⟩ else none := by
  have hne : printed id data ≠ [] := List.append_ne_nil_of_left_ne_nil (hexPad_ne_nil 3 id) _
  rw [rawFrame, rtrim_printed, if_neg hne, tokenizeTwaiLine, tokens_printed]
  simp only [parseCanIdToken_hexPad hid]
  by_cases h : id ≤ 0x7FF
  · simp [h, foldlM_parseDataByteToken [] (by simpa using hdata)]
  · simp [h]

end Printed

end LiveTwaiSource

end VehicleSpy.Pipeline
