import VehicleSpy.Ble.HexTokens

/-! # Rendered replies

A reply of an adapter is written line by line, each byte as two digits, with blanks between the
bytes or without, with a label in front of a line or without, and behind a banner or none. Every
token of it is of even length, and the parser returns the bytes that were written.
-/

namespace VehicleSpy.Ble.ELM327Transport

open Text

/-- A line of a reply: its label, if it has one, and its bytes with the gap between them. -/
structure ReplyLine where
  label : Option Bytes
  gap : Bytes
  data : Bytes
  digits : ∀ l ∈ label, ∀ c ∈ l, isxdigit c = true
  blank : Blank gap

def ReplyLine.render (l : ReplyLine) : Bytes :=
  l.label.elim [] (· ++ COLON :: l.gap) ++
    l.gap.intercalate (l.data.map fun b => hexPad 2 b.toNat) ++ [CR]

/-- What may stand in front of the lines: nothing, or a banner and separators. -/
inductive Opening : Bytes → Prop
  | plain : Opening []
  | banner {b seps : Bytes} (hb : b ∈ infoMessages) (hseps : ∀ c ∈ seps, isInfoSeparator c = true) :
      Opening (b ++ seps)

def renderReply (opening : Bytes) (lines : List ReplyLine) : Bytes :=
  opening ++ lines.flatMap ReplyLine.render ++ [PROMPT]

section Lines

variable {a a' : Accumulator} {s gap out : Bytes}

theorem foldl_step_digits (a : Accumulator) (hs : ∀ c ∈ s, isxdigit c = true) :
    s.foldl Accumulator.step a = { a with hexStr := a.hexStr ++ s.map toupper } := by
  induction s generalizing a with
  | nil => simp
  | cons c s ih =>
    obtain ⟨hc, hs⟩ := List.forall_mem_cons.mp hs
    rw [List.foldl_cons, ih _ hs, Accumulator.step, if_pos hc]
    simp

@[simp] theorem Accumulator.flush_empty (out : Bytes) :
    Accumulator.flush ⟨[], out⟩ = ⟨[], out⟩ := by
  simp [Accumulator.flush, flushHexAccumulator]

/-- Digits that come behind a flush complete the same pairs. -/
theorem Accumulator.flush_digits (a : Accumulator) (x : Bytes) :
    Accumulator.flush { a with hexStr := a.hexStr ++ x } =
      Accumulator.flush { a.flush with hexStr := a.flush.hexStr ++ x } := by
  simp only [Accumulator.flush]
  rw [flushHexAccumulator_append]
  simp

/-- Without a label, it does not matter when the pairs are flushed. -/
theorem flush_foldl_congr (h : a.flush = a'.flush) (hs : COLON ∉ s) :
    (s.foldl Accumulator.step a).flush = (s.foldl Accumulator.step a').flush := by
  induction s generalizing a a' with
  | nil => exact h
  | cons c s ih =>
    obtain ⟨hcolon, hs⟩ := not_or.mp (List.mem_cons.not.mp hs)
    refine ih ?_ hs
    rw [Accumulator.step, Accumulator.step]
    by_cases hc : isxdigit c = true
    · rw [if_pos hc, if_pos hc, Accumulator.flush_digits, h, ← Accumulator.flush_digits]
    · rw [if_neg hc, if_neg hc, if_neg (Ne.symm hcolon), if_neg (Ne.symm hcolon),
        h]

theorem digitPairs_hexPad (b : Byte) : digitPairs (hexPad 2 b.toNat) = [b] := by
  have hlen := length_hexPad_of_lt (w := 2) (n := b.toNat) (by decide) b.toNat_lt
  obtain ⟨h, l, hpad⟩ := List.length_eq_two.mp hlen
  have hval := numValue_hexPad 2 b.toNat
  rw [hpad] at hval ⊢
  rw [digitPairs, hval]
  simp [digitPairs]

theorem flush_hexPad (out : Bytes) (b : Byte) :
    ((hexPad 2 b.toNat).foldl Accumulator.step ⟨[], out⟩).flush = ⟨[], out ++ [b]⟩ := by
  have hdigits : ∀ c ∈ hexPad 2 b.toNat, isxdigit c = true := isDigit_hexPad 2 b.toNat
  have hlen := length_hexPad_of_lt (w := 2) (n := b.toNat) (by decide) b.toNat_lt
  have hrest : (flushHexAccumulator ((hexPad 2 b.toNat).map toupper)).1 = [] := by
    rw [← List.length_eq_zero_iff, length_flushHexAccumulator, List.length_map, hlen]
  rw [foldl_step_digits _ hdigits, Accumulator.flush]
  simp only [List.nil_append]
  rw [hrest, flushHexAccumulator_toupper hdigits, digitPairs_hexPad]

theorem colon_notMem_hexPad (b : Byte) : COLON ∉ hexPad 2 b.toNat :=
  fun h => absurd (isDigit_hexPad 2 b.toNat _ h) (by decide)

theorem colon_notMem_blank (hb : Blank gap) : COLON ∉ gap :=
  fun h => absurd (hb _ h) (by decide)

/-- The bytes of a line are decoded whatever the gap between them. -/
theorem flush_intercalate (hb : Blank gap) (data out : Bytes) :
    ((gap.intercalate (data.map fun b => hexPad 2 b.toNat)).foldl
      Accumulator.step ⟨[], out⟩).flush = ⟨[], out ++ data⟩ := by
  induction data generalizing out with
  | nil => simp
  | cons b data ih =>
    by_cases hdata : data = []
    · subst hdata
      rw [List.map_singleton, List.intercalate_singleton, flush_hexPad]
    · have hne : data.map (fun b => hexPad 2 b.toNat) ≠ [] := by simpa using hdata
      have hcolon : COLON ∉ gap.intercalate (data.map fun b => hexPad 2 b.toNat) := by
        intro h
        rcases mem_intercalate h with h | ⟨v, hv, h⟩
        · exact colon_notMem_blank hb h
        · obtain ⟨d, -, rfl⟩ := List.mem_map.mp hv
          exact colon_notMem_hexPad d h
      have hfirst : ((hexPad 2 b.toNat ++ gap).foldl Accumulator.step ⟨[], out⟩).flush =
          Accumulator.flush ⟨[], out ++ [b]⟩ := by
        rw [List.foldl_append, foldl_step_blank _ hb, Accumulator.flush_empty]
        split
        · exact flush_hexPad out b
        · rw [Accumulator.flush_flush, flush_hexPad]
      rw [List.map_cons, List.intercalate_cons_of_ne_nil hne, List.foldl_append,
        flush_foldl_congr hfirst hcolon, ih, List.append_assoc, List.singleton_append]

theorem foldl_step_render (l : ReplyLine) (out : Bytes) :
    l.render.foldl Accumulator.step ⟨[], out⟩ = ⟨[], out ++ l.data⟩ := by
  have hlabel : (l.label.elim [] (· ++ COLON :: l.gap)).foldl Accumulator.step ⟨[], out⟩ =
      ⟨[], out⟩ := by
    cases hl : l.label with
    | none => rfl
    | some label =>
      have hcolon : Accumulator.step ⟨[] ++ label.map toupper, out⟩ COLON = ⟨[], out⟩ := rfl
      rw [Option.elim_some, List.foldl_append, List.foldl_cons,
        foldl_step_digits _ (l.digits label hl), hcolon, foldl_step_blank _ l.blank,
        Accumulator.flush_empty, ite_self]
  rw [ReplyLine.render, List.foldl_append, List.foldl_append, hlabel, List.foldl_cons,
    List.foldl_nil]
  exact flush_intercalate l.blank l.data out

theorem foldl_step_lines (lines : List ReplyLine) (out : Bytes) :
    (lines.flatMap ReplyLine.render).foldl Accumulator.step ⟨[], out⟩ =
      ⟨[], out ++ lines.flatMap ReplyLine.data⟩ := by
  induction lines generalizing out with
  | nil => simp
  | cons l lines ih =>
    rw [List.flatMap_cons, List.flatMap_cons, List.foldl_append, foldl_step_render, ih,
      List.append_assoc]

theorem decodeHex_lines {lines : List ReplyLine} (h : lines.flatMap ReplyLine.data ≠ []) :
    decodeHex (lines.flatMap ReplyLine.render) = some (lines.flatMap ReplyLine.data) := by
  simp only [decodeHex]
  rw [foldl_step_lines lines [], Accumulator.flush_empty]
  simp [h]

end Lines

section Opening

variable {s e : Bytes}

/-- Separators in front of the data add nothing. -/
theorem decodeHex_dropWhile (s : Bytes) :
    decodeHex (s.dropWhile isInfoSeparator) = decodeHex s := by
  have hstep (c : Byte) (hc : isInfoSeparator c = true) : Accumulator.step {} c = {} := by
    have hall : ∀ c : Byte, isInfoSeparator c = true → isxdigit c = false :=
      forall_byte (by decide +kernel)
    rw [Accumulator.step, hall c hc, Accumulator.flush_empty, ite_self, if_neg Bool.false_ne_true]
  induction s with
  | nil => rfl
  | cons c s ih =>
    rw [List.dropWhile_cons]
    split
    · next hc =>
      rw [ih]
      simp only [decodeHex, List.foldl_cons, hstep c hc]
    · rfl

/-- What the lines of a reply are written with. -/
def isReplyByte (c : Byte) : Bool := isxdigit c || c == COLON || isBlank c

theorem toupper_isReplyByte {c : Byte} (h : isReplyByte c = true) :
    isReplyByte (toupper c) = true := by
  have hall : ∀ c : Byte, isReplyByte c = true → isReplyByte (toupper c) = true :=
    forall_byte (by decide +kernel)
  exact hall c h

theorem not_infix_of_isReplyByte (he : e.any (!isReplyByte ·) = true)
    (hs : ∀ c ∈ s, isReplyByte c = true) : ¬ e <:+: s := by
  intro h
  obtain ⟨c, hc, hno⟩ := List.any_eq_true.mp he
  simp [hs c (h.subset hc)] at hno

theorem isErrorMessage_of_isReplyByte (hs : ∀ c ∈ s, isReplyByte c = true) :
    isErrorMessage s = false := by
  have hall : ∀ e ∈ errorMessages, e.any (!isReplyByte ·) = true := by decide +kernel
  rw [isErrorMessage, List.any_eq_false]
  intro e he
  rw [findStr_isSome_iff]
  refine not_infix_of_isReplyByte (hall e he) fun c hc => ?_
  obtain ⟨d, hd, rfl⟩ := List.mem_map.mp hc
  exact toupper_isReplyByte (hs d hd)

theorem isReplyByte_hexPad (b : Byte) : ∀ c ∈ hexPad 2 b.toNat, isReplyByte c = true := by
  intro c hc
  have hx : isxdigit c = true := isDigit_hexPad 2 b.toNat c hc
  rw [isReplyByte, hx, Bool.true_or, Bool.true_or]

theorem isReplyByte_render (l : ReplyLine) : ∀ c ∈ l.render, isReplyByte c = true := by
  have hgap : ∀ c ∈ l.gap, isReplyByte c = true := fun c hc => by simp [isReplyByte, l.blank c hc]
  intro c hc
  rw [ReplyLine.render, List.mem_append, List.mem_append] at hc
  rcases hc with (hlabel | hdata) | hcr
  · cases hl : l.label with
    | none =>
      rw [hl] at hlabel
      cases hlabel
    | some label =>
      rw [hl, Option.elim_some, List.mem_append, List.mem_cons] at hlabel
      rcases hlabel with hdigit | rfl | hblank
      · simp [isReplyByte, l.digits label hl c hdigit]
      · rfl
      · exact hgap c hblank
  · rcases mem_intercalate hdata with hblank | ⟨v, hv, hc⟩
    · exact hgap c hblank
    · obtain ⟨b, -, rfl⟩ := List.mem_map.mp hv
      exact isReplyByte_hexPad b c hc
  · obtain rfl := List.mem_singleton.mp hcr
    rfl

theorem prompt_notMem_opening {opening : Bytes} (h : Opening opening) : PROMPT ∉ opening := by
  cases h with
  | plain => exact List.not_mem_nil
  | banner hb hseps =>
    have hall : ∀ b ∈ infoMessages, PROMPT ∉ b := by decide +kernel
    intro hp
    rcases List.mem_append.mp hp with hp | hp
    · exact hall _ hb hp
    · exact absurd (hseps _ hp) (by decide)

theorem extractPrompt_concat (hs : PROMPT ∉ s) : extractPrompt (s ++ [PROMPT]) = s := by
  rw [extractPrompt, List.takeWhile_append_of_pos, List.takeWhile_cons_of_neg (by simp),
    List.append_nil]
  intro c hc
  simpa using fun he : c = PROMPT => hs (he ▸ hc)

/-- Behind its opening, a text without a banner of its own is left, less leading separators. -/
theorem bannerRemoved_opening {opening : Bytes} (h : Opening opening)
    (hs : ∀ c ∈ s, isReplyByte c = true) :
    ∃ T, BannerRemoved (opening ++ s) T ∧ T <:+ s ∧ decodeHex T = decodeHex s := by
  cases h with
  | plain =>
    have hall : ∀ b ∈ infoMessages, b.any (!isReplyByte ·) = true := by decide +kernel
    refine ⟨s, ?_, List.suffix_rfl, rfl⟩
    rw [List.nil_append]
    exact .absent fun b hb => not_infix_of_isReplyByte (hall b hb) hs
  | @banner b seps hb hseps =>
    refine ⟨s.dropWhile isInfoSeparator, ?_, List.dropWhile_suffix _, decodeHex_dropWhile s⟩
    rw [← List.dropWhile_append_of_pos hseps]
    exact .behind hb (u := []) (List.append_assoc b seps s) fun _ _ _ _ _ => Nat.zero_le _

/-- The bytes that were written are parsed, whatever the labels, the gaps and the banner. -/
theorem parseOBD2Response_rendered {opening : Bytes} {lines : List ReplyLine}
    (hopening : Opening opening) (h : lines.flatMap ReplyLine.data ≠ []) :
    parseOBD2Response (renderReply opening lines) = some (lines.flatMap ReplyLine.data) := by
  have hbody : ∀ c ∈ lines.flatMap ReplyLine.render, isReplyByte c = true := by
    intro c hc
    obtain ⟨l, -, hc⟩ := List.mem_flatMap.mp hc
    exact isReplyByte_render l c hc
  have hprompt : extractPrompt (renderReply opening lines) =
      opening ++ lines.flatMap ReplyLine.render := by
    refine extractPrompt_concat fun hp => ?_
    rcases List.mem_append.mp hp with hp | hp
    · exact prompt_notMem_opening hopening hp
    · exact absurd (hbody _ hp) (by decide)
  obtain ⟨T, hT, hsuffix, hdecode⟩ := bannerRemoved_opening hopening hbody
  have hstrip : T = stripInfoPrefixes (opening ++ lines.flatMap ReplyLine.render) :=
    (bannerRemoved_iff (List.Perm.refl infoMessages)).mp hT
  have hreply := isErrorMessage_of_isReplyByte fun c hc => hbody c (hsuffix.subset hc)
  rw [parseOBD2Response_eq, hprompt, ← hstrip, hreply, hdecode, decodeHex_lines h,
    if_neg Bool.false_ne_true]

end Opening

end VehicleSpy.Ble.ELM327Transport
