import VehicleSpy.Pipeline.BinaryFileSource
import VehicleSpy.Pipeline.Elm327Normaliser

/-! # One line format, three parsers

Each parser cuts a line into tokens and tests them, and they differ in the tests: the raw and
the ASCII parser ask that a token begins with a hexadecimal digit, the normaliser that it
consists of them, whatever their number. So they agree on a line when its tokens pass none of
these tests without passing the strict ones, and when no control character stands in it.
-/

namespace VehicleSpy.Pipeline.FrameLines

open Text LiveTwaiSource

/-- Hexadecimal digits only, and at least one. -/
def AllHex (tok : Bytes) : Prop := tok ≠ [] ∧ ∀ c ∈ tok, isDigit 16 c = true

instance : DecidablePred AllHex := fun _ => inferInstanceAs (Decidable (_ ∧ _))

/-- An identifier of one to three hexadecimal digits, of at most eleven bits. -/
def IsId (tok : Bytes) : Prop := AllHex tok ∧ tok.length ≤ 3 ∧ numValue 16 tok ≤ 0x7FF

instance : DecidablePred IsId := fun _ => inferInstanceAs (Decidable (_ ∧ _))

/-- A data byte of exactly two hexadecimal digits. -/
def IsByte (tok : Bytes) : Prop := AllHex tok ∧ tok.length = 2

instance : DecidablePred IsByte := fun _ => inferInstanceAs (Decidable (_ ∧ _))

/-- An identifier and at most eight data bytes, by given tests on the tokens. -/
def FrameTokens (isId isByte : Bytes → Prop) : List Bytes → Prop
  | [] => False
  | tok :: toks => isId tok ∧ toks.length ≤ 8 ∧ ∀ t ∈ toks, isByte t

instance {isId isByte : Bytes → Prop} [DecidablePred isId] [DecidablePred isByte] :
    DecidablePred (FrameTokens isId isByte)
  | [] => isFalse id
  | tok :: toks => inferInstanceAs (Decidable (isId tok ∧ toks.length ≤ 8 ∧ ∀ t ∈ toks, isByte t))

/-- A line without the white space around it: blanks and tabs in front, and blanks, tabs and
line ends behind. -/
def strip (line : Bytes) : Bytes := (rtrim line).dropWhile isSpaceOrTab

/-- The frame of a line in the common format: an identifier and data bytes between spaces. -/
def canonicalFrame (line : Bytes) : Option Bytes :=
  match tokensBy (· == SP) (strip line) with
  | [] => none
  | tok :: toks =>
    if IsId tok ∧ toks.length ≤ 8 ∧ ∀ t ∈ toks, IsByte t then
      some (frameBytes (numValue 16 tok) (toks.map fun t => (numValue 16 t).toUInt8))
    else none

/-- The frame that the live raw parser makes of a line. -/
def liveFrame (line : Bytes) : Option Bytes := (rawFrame line).map (·.bytes)

/-- The frame that the normaliser makes of a line. -/
def normalisedFrame (line : Bytes) : Option Bytes :=
  match Elm327Normaliser.normalise line with
  | .frame bytes => some bytes
  | _ => none

/-- The frame that the capture file's ASCII parser makes of a line. -/
def asciiFrame (line : Bytes) : Option Bytes :=
  let payload := BinaryFileSource.dropCr line
  if BinaryFileSource.looksLikeAsciiLine payload then BinaryFileSource.parseAscii payload else none

/-- The three parsers accept the line exactly if it has the common format, and then with the
same frame. -/
structure Agree (line : Bytes) : Prop where
  live : liveFrame line = canonicalFrame line
  normalised : normalisedFrame line = canonicalFrame line
  recorded : asciiFrame line = canonicalFrame line

/-- The hexadecimal number that a token begins with. -/
def hexLead (tok : Bytes) : ℕ := numValue 16 (tok.takeWhile (isDigit 16))

/-- A token that begins with a hexadecimal digit. -/
def StartsHex (tok : Bytes) : Prop := ∃ c ∈ tok.head?, isDigit 16 c = true

instance : DecidablePred StartsHex := fun tok =>
  match tok with
  | [] => isFalse (by simp [StartsHex])
  | c :: _ => decidable_of_iff (isDigit 16 c = true) (by simp [StartsHex])

/-- What passes for an identifier where only a hexadecimal beginning is asked for. -/
def LooseId (tok : Bytes) : Prop := StartsHex tok ∧ tok.length ≤ 3 ∧ hexLead tok ≤ 0x7FF

instance : DecidablePred LooseId := fun _ => inferInstanceAs (Decidable (_ ∧ _))

/-- What passes for a data byte where only a hexadecimal beginning is asked for. -/
def LooseByte (tok : Bytes) : Prop := StartsHex tok ∧ tok.length = 2

instance : DecidablePred LooseByte := fun _ => inferInstanceAs (Decidable (_ ∧ _))

/-- What passes for a data byte where only its value is asked for. -/
def ValueByte (tok : Bytes) : Prop := AllHex tok ∧ numValue 16 tok ≤ 0xFF

instance : DecidablePred ValueByte := fun _ => inferInstanceAs (Decidable (_ ∧ _))

def lineTokens (line : Bytes) : List Bytes := tokens (rtrim line)

/-- Tokens that pass a parser's test are strict, and a line of strict tokens has no tab and no
line end in it but a CR at its end. -/
structure Unambiguous (line : Bytes) : Prop where
  strict : FrameTokens LooseId LooseByte (lineTokens line) ∨
    FrameTokens IsId ValueByte (lineTokens line) → FrameTokens IsId IsByte (lineTokens line)
  clean : FrameTokens IsId IsByte (lineTokens line) →
    ∀ c ∈ BinaryFileSource.dropCr line, c ≠ TAB ∧ c ≠ CR ∧ c ≠ LF

/-- The frame of the hexadecimal numbers that the tokens begin with. -/
def tokenFrame : List Bytes → Bytes
  | [] => []
  | tok :: toks => frameBytes (hexLead tok) (toks.map fun t => (hexLead t).toUInt8)

section Tests

variable {tok : Bytes} {toks : List Bytes} {isId isByte isId' isByte' : Bytes → Prop}

theorem FrameTokens.imp (h : FrameTokens isId isByte toks) (hid : ∀ t, isId t → isId' t)
    (hbyte : ∀ t, isByte t → isByte' t) : FrameTokens isId' isByte' toks := by
  cases toks with
  | nil => exact h
  | cons tok toks => exact ⟨hid tok h.1, h.2.1, fun t ht => hbyte t (h.2.2 t ht)⟩

theorem AllHex.hexLead (h : AllHex tok) : hexLead tok = numValue 16 tok := by
  rw [FrameLines.hexLead, List.takeWhile_eq_self_iff.mpr h.2]

theorem AllHex.startsHex (h : AllHex tok) : StartsHex tok := by
  obtain ⟨c, tok, rfl⟩ := List.exists_cons_of_ne_nil h.1
  exact ⟨c, rfl, h.2 c List.mem_cons_self⟩

theorem IsId.loose (h : IsId tok) : LooseId tok :=
  ⟨h.1.startsHex, h.2.1, by rw [h.1.hexLead]; exact h.2.2⟩

theorem IsByte.loose (h : IsByte tok) : LooseByte tok := ⟨h.1.startsHex, h.2⟩

theorem IsByte.value (h : IsByte tok) : ValueByte tok := by
  have hlt := numValue_lt h.1.2
  rw [h.2] at hlt
  exact ⟨h.1, Nat.le_of_lt_succ hlt⟩

theorem startsHex_iff : StartsHex tok ↔ tok.takeWhile (isDigit 16) ≠ [] := by
  cases tok with
  | nil => simp [StartsHex]
  | cons c tok =>
    cases hc : isDigit 16 c <;> simp [StartsHex, hc]

theorem hexLead_lt (tok : Bytes) : hexLead tok < 16 ^ tok.length := by
  have hlt : hexLead tok < 16 ^ (tok.takeWhile (isDigit 16)).length :=
    numValue_lt fun c hc => List.mem_takeWhile_imp hc
  have hle := (List.takeWhile_prefix (l := tok) (isDigit 16)).length_le
  exact hlt.trans_le (Nat.pow_le_pow_right (by decide) hle)

/-- A short token is read as the number it begins with. -/
theorem fromChars_short (h : tok.length ≤ 3) {v : ℕ} :
    fromChars 16 (2 ^ 32) tok = some v ↔ StartsHex tok ∧ v = hexLead tok := by
  have hlt : hexLead tok < 2 ^ 32 :=
    calc hexLead tok < 16 ^ tok.length := hexLead_lt tok
      _ ≤ 16 ^ 3 := Nat.pow_le_pow_right (by decide) h
      _ < 2 ^ 32 := by decide
  rw [startsHex_iff]
  unfold hexLead at hlt ⊢
  by_cases hd : tok.takeWhile (isDigit 16) = []
  · simp [fromChars, hd]
  · simp only [fromChars, if_neg hd, if_neg (Nat.not_le.mpr hlt), Option.some.injEq]
    simp [hd, eq_comm]

theorem fromChars_short_none (h : tok.length ≤ 3) :
    fromChars 16 (2 ^ 32) tok = none ↔ ¬ StartsHex tok := by
  constructor
  · intro hn hs
    rw [(fromChars_short h).mpr ⟨hs, rfl⟩] at hn
    cases hn
  · intro hs
    by_contra hne
    obtain ⟨v, hv⟩ := Option.ne_none_iff_exists'.mp hne
    exact hs ((fromChars_short h).mp hv).1

theorem parseCanIdToken_iff {v : ℕ} :
    parseCanIdToken tok = some v ↔ LooseId tok ∧ v = hexLead tok := by
  unfold parseCanIdToken LooseId
  by_cases hl : tok.length ≤ 3
  · cases hf : fromChars 16 (2 ^ 32) tok with
    | none => simp [(fromChars_short_none hl).mp hf]
    | some w =>
      obtain ⟨hs, rfl⟩ := (fromChars_short hl).mp hf
      by_cases hv : hexLead tok ≤ 0x7FF
      · simp [hs, hl, hv, eq_comm]
      · simp [hv]
  · cases fromChars 16 (2 ^ 32) tok <;> simp [hl]

theorem appendDataByte_iff {data data' : Bytes} :
    BinaryFileSource.appendDataByte data tok = some data' ↔
      LooseByte tok ∧ data.length < 8 ∧ data' = data ++ [(hexLead tok).toUInt8] := by
  unfold BinaryFileSource.appendDataByte BinaryFileSource.parseDataByteToken
    BinaryFileSource.parseHexU32 LooseByte
  by_cases h8 : 8 ≤ data.length
  · simp [h8, Nat.not_lt.mpr h8]
  · by_cases hl : tok.length = 2
    · cases hf : fromChars 16 (2 ^ 32) tok with
      | none => simp [h8, (fromChars_short_none (by omega)).mp hf]
      | some w =>
        obtain ⟨hs, rfl⟩ := (fromChars_short (by omega)).mp hf
        have hlt := hexLead_lt tok
        rw [hl] at hlt
        have hle : hexLead tok ≤ 255 := Nat.le_of_lt_succ hlt
        simp [h8, hs, hl, hle, Nat.lt_of_not_le h8, eq_comm]
    · cases fromChars 16 (2 ^ 32) tok <;> simp [hl]

/-- The live parser and the capture file's parser test a token the same way. -/
theorem parseDataByteToken_eq :
    parseDataByteToken = BinaryFileSource.appendDataByte := by
  ext data tok : 2
  unfold parseDataByteToken BinaryFileSource.appendDataByte BinaryFileSource.parseDataByteToken
    BinaryFileSource.parseHexU32
  by_cases h8 : data.length < 8
  · cases fromChars 16 (2 ^ 32) tok with
    | none => simp
    | some v =>
      simp only [h8, and_true, if_neg (Nat.not_le.mpr h8)]
      split <;> rfl
  · cases fromChars 16 (2 ^ 32) tok <;> simp [Nat.not_lt.mp h8]

theorem foldlM_appendDataByte_iff {data data' : Bytes} (h : data.length ≤ 8) :
    toks.foldlM BinaryFileSource.appendDataByte data = some data' ↔
      (∀ t ∈ toks, LooseByte t) ∧ data.length + toks.length ≤ 8 ∧
        data' = data ++ toks.map fun t => (hexLead t).toUInt8 := by
  induction toks generalizing data with
  | nil => simp [h, eq_comm]
  | cons tok toks ih =>
    rw [List.foldlM_cons]
    constructor
    · intro hf
      obtain ⟨data₁, h₁, hf⟩ := Option.bind_eq_some_iff.mp hf
      obtain ⟨hb, hlt, rfl⟩ := appendDataByte_iff.mp h₁
      have hle : (data ++ [(hexLead tok).toUInt8]).length ≤ 8 := by
        rw [List.length_append, List.length_singleton]
        omega
      obtain ⟨hbs, hlen, rfl⟩ := (ih hle).mp hf
      rw [List.length_append, List.length_singleton] at hlen
      refine ⟨?_, by rw [List.length_cons]; omega, by simp⟩
      rintro t ht
      rcases List.mem_cons.mp ht with rfl | ht
      · exact hb
      · exact hbs t ht
    · rintro ⟨hbs, hlen, rfl⟩
      rw [List.length_cons] at hlen
      have hle : (data ++ [(hexLead tok).toUInt8]).length ≤ 8 := by
        rw [List.length_append, List.length_singleton]
        omega
      rw [appendDataByte_iff.mpr ⟨hbs tok List.mem_cons_self, by omega, rfl⟩]
      refine (ih hle).mpr ⟨fun t ht => hbs t (List.mem_cons_of_mem _ ht), ?_, by simp⟩
      rw [List.length_append, List.length_singleton]
      omega

/-- Reading tokens that only have to begin with a hexadecimal digit. -/
theorem loose_iff {f : Bytes} :
    (match toks with
      | [] => none
      | tok :: toks => do
        let canId ← parseCanIdToken tok
        let data ← toks.foldlM BinaryFileSource.appendDataByte []
        return frameBytes canId data) = some f ↔
      FrameTokens LooseId LooseByte toks ∧ f = tokenFrame toks := by
  cases toks with
  | nil => simp [FrameTokens]
  | cons tok toks =>
    constructor
    · intro h
      obtain ⟨canId, hid, h⟩ := Option.bind_eq_some_iff.mp h
      obtain ⟨data, hdata, h⟩ := Option.bind_eq_some_iff.mp h
      obtain ⟨hloose, rfl⟩ := parseCanIdToken_iff.mp hid
      obtain ⟨hbytes, hlen, rfl⟩ := (foldlM_appendDataByte_iff (by simp)).mp hdata
      exact ⟨⟨hloose, by simpa using hlen, hbytes⟩, (Option.some.inj h).symm⟩
    · rintro ⟨⟨hid, hlen, hbytes⟩, rfl⟩
      have hdata : toks.foldlM BinaryFileSource.appendDataByte [] =
          some ([] ++ toks.map fun t => (hexLead t).toUInt8) :=
        (foldlM_appendDataByte_iff (by simp)).mpr ⟨hbytes, by simpa using hlen, rfl⟩
      simp only [parseCanIdToken_iff.mpr ⟨hid, rfl⟩, hdata]
      rfl

end Tests

section Parsers

variable {line payload f : Bytes} {tok : Bytes} {toks : List Bytes}

theorem liveFrame_iff : liveFrame line = some f ↔
    FrameTokens LooseId LooseByte (lineTokens line) ∧ f = tokenFrame (lineTokens line) := by
  rw [← loose_iff, lineTokens, liveFrame, rawFrame]
  by_cases hnil : rtrim line = []
  · simp [hnil, tokens]
  · rw [if_neg hnil, tokenizeTwaiLine, parseDataByteToken_eq]
    cases tokens (rtrim line) with
    | nil => simp
    | cons tok toks =>
      cases parseCanIdToken tok with
      | none => simp
      | some canId =>
        cases toks.foldlM BinaryFileSource.appendDataByte [] <;> simp

theorem parseAscii_iff : BinaryFileSource.parseAscii payload = some f ↔
    FrameTokens LooseId LooseByte (tokensBy BinaryFileSource.isTokenSeparator payload) ∧
      f = tokenFrame (tokensBy BinaryFileSource.isTokenSeparator payload) :=
  loose_iff

theorem canonicalFrame_iff : canonicalFrame line = some f ↔
    FrameTokens IsId IsByte (tokensBy (· == SP) (strip line)) ∧
      f = tokenFrame (tokensBy (· == SP) (strip line)) := by
  unfold canonicalFrame
  cases tokensBy (· == SP) (strip line) with
  | nil => simp [FrameTokens]
  | cons tok toks =>
    have hframe : FrameTokens IsId IsByte (tok :: toks) →
        frameBytes (numValue 16 tok) (toks.map fun t => (numValue 16 t).toUInt8) =
          tokenFrame (tok :: toks) := by
      rintro ⟨hid, -, hbytes⟩
      rw [tokenFrame, hid.1.hexLead]
      congr 1
      apply List.map_congr_left
      intro t ht
      rw [(hbytes t ht).1.hexLead]
    by_cases h : FrameTokens IsId IsByte (tok :: toks)
    · have hif : IsId tok ∧ toks.length ≤ 8 ∧ ∀ t ∈ toks, IsByte t := h
      simp only [if_pos hif, hframe h, h, true_and, Option.some.injEq, eq_comm]
    · have hif : ¬ (IsId tok ∧ toks.length ≤ 8 ∧ ∀ t ∈ toks, IsByte t) := h
      simp [if_neg hif, h]

theorem isHex_iff : Elm327Normaliser.isHex tok = true ↔ AllHex tok := by
  simp [Elm327Normaliser.isHex, AllHex]

theorem parseDataToken_hex (h : AllHex tok) : Elm327Normaliser.parseDataToken tok =
    if numValue 16 tok ≤ 0xFF then some (numValue 16 tok).toUInt8 else none := by
  unfold Elm327Normaliser.parseDataToken Elm327Normaliser.parseHex fromChars
  rw [List.takeWhile_eq_self_iff.mpr h.2, if_neg h.1]
  by_cases hb : 2 ^ 32 ≤ numValue 16 tok
  · have hv : ¬ numValue 16 tok ≤ 0xFF := by omega
    rw [if_pos hb, if_neg hv]
  · rw [if_neg hb]

theorem mapM_parseDataToken_iff {data : Bytes} (h : ∀ t ∈ toks, AllHex t) :
    toks.mapM Elm327Normaliser.parseDataToken = some data ↔
      (∀ t ∈ toks, numValue 16 t ≤ 0xFF) ∧ data = toks.map fun t => (hexLead t).toUInt8 := by
  induction toks generalizing data with
  | nil => simp [eq_comm]
  | cons tok toks ih =>
    have htok := h tok List.mem_cons_self
    have htoks : ∀ t ∈ toks, AllHex t := fun t ht => h t (List.mem_cons_of_mem _ ht)
    rw [List.mapM_cons, parseDataToken_hex htok, List.forall_mem_cons, List.map_cons,
      htok.hexLead]
    by_cases hv : numValue 16 tok ≤ 0xFF
    · rw [if_pos hv]
      constructor
      · intro hm
        rw [Option.bind_eq_bind, Option.bind_some] at hm
        obtain ⟨rest, hrest, hm⟩ := Option.bind_eq_some_iff.mp hm
        obtain ⟨hvs, rfl⟩ := (ih htoks).mp hrest
        exact ⟨⟨hv, hvs⟩, (Option.some.inj hm).symm⟩
      · rintro ⟨⟨-, hvs⟩, rfl⟩
        have hrest := (ih htoks).mpr ⟨hvs, rfl⟩
        simp [hrest]
    · simp [hv]

/-- The characters of a line whose tokens are hexadecimal. -/
theorem hex_or_space (h : ∀ t ∈ lineTokens line, AllHex t) :
    ∀ c ∈ rtrim line, isSpaceOrTab c = true ∨ isDigit 16 c = true := by
  intro c hc
  rcases mem_tokensBy_of_mem (p := isSpaceOrTab) hc with hs | ⟨t, ht, hct⟩
  · exact Or.inl hs
  · exact Or.inr ((h t ht).2 c hct)

theorem FrameTokens.allHex (h : FrameTokens IsId ValueByte toks) : ∀ t ∈ toks, AllHex t := by
  cases toks with
  | nil => exact List.forall_mem_nil _
  | cons tok toks => exact List.forall_mem_cons.mpr ⟨h.1.1, fun t ht => (h.2.2 t ht).1⟩

/-- Every status text has a character that is no hexadecimal digit and no space. -/
theorem not_isAdapterChatter {s : Bytes}
    (h : ∀ c ∈ s, isSpaceOrTab c = true ∨ isDigit 16 c = true) :
    Elm327Normaliser.isAdapterChatter s = false := by
  have hkw : ∀ kw ∈ Elm327Normaliser.kKnown,
      ∃ c ∈ kw, isSpaceOrTab c = false ∧ isDigit 16 c = false := by decide
  have hup : ∀ c : Byte, isSpaceOrTab c = true ∨ isDigit 16 c = true →
      isSpaceOrTab (toupper c) = true ∨ isDigit 16 (toupper c) = true :=
    forall_byte (by decide +kernel)
  apply Bool.eq_false_iff.mpr
  intro hchat
  rcases Bool.or_eq_true_iff.mp hchat with hp | hany
  · rw [of_decide_eq_true hp] at h
    exact absurd (h PROMPT (List.mem_singleton_self _)) (by decide)
  · obtain ⟨kw, hk, he⟩ := List.any_eq_true.mp hany
    obtain ⟨c, hc, hns, hnd⟩ := hkw kw hk
    rw [← of_decide_eq_true he] at hc
    obtain ⟨d, hd, rfl⟩ := List.mem_map.mp hc
    rcases hup d (h d hd) with hs | hs
    · exact Bool.false_ne_true (hns.symm.trans hs)
    · exact Bool.false_ne_true (hnd.symm.trans hs)

/-- A line of frame tokens is neither blank nor a status text. -/
theorem not_skipped (h : FrameTokens IsId ValueByte (lineTokens line)) :
    Elm327Normaliser.isBlank (rtrim line) = false ∧
      Elm327Normaliser.isAdapterChatter (rtrim line) = false := by
  refine ⟨?_, not_isAdapterChatter (hex_or_space h.allHex)⟩
  cases htoks : lineTokens line with
  | nil =>
    rw [htoks] at h
    exact h.elim
  | cons tok toks =>
    rw [htoks] at h
    obtain ⟨c, hc, hd⟩ := h.1.1.startsHex
    have hmem : tok ∈ lineTokens line := htoks ▸ List.mem_cons_self
    obtain ⟨hline, -⟩ := mem_of_mem_tokensBy hmem c (List.mem_of_head? hc)
    apply Bool.eq_false_iff.mpr
    intro hblank
    have hb := List.all_eq_true.mp hblank c hline
    rw [notBlank_of_hex hd] at hb
    cases hb

theorem parseHex_short (h : AllHex tok) (hl : tok.length ≤ 3) :
    Elm327Normaliser.parseHex tok = some (numValue 16 tok) :=
  (fromChars_short hl).mpr ⟨h.startsHex, h.hexLead.symm⟩

/-- A branch that gives no frame is not taken. -/
theorem guard_iff {p : Prop} [Decidable p] {r s : NormaliserResult} (hr : r ≠ .frame f) :
    (if p then r else s) = .frame f ↔ ¬ p ∧ s = .frame f := by
  split
  · next hp => exact iff_of_false hr fun h => h.1 hp
  · next hp => exact ⟨fun h => ⟨hp, h⟩, And.right⟩

/-- Decoding tokens that are hexadecimal. -/
theorem decode_iff (hid : AllHex tok) (hlen : tok.length ≤ 3) (hhex : ∀ t ∈ toks, AllHex t) :
    (match Elm327Normaliser.parseHex tok with
      | none => NormaliserResult.malformed
      | some canId =>
        if Elm327Normaliser.CAN_11BIT_MAX < canId then .malformed
        else
          match toks.mapM Elm327Normaliser.parseDataToken with
          | none => .malformed
          | some data => .frame (frameBytes canId data)) = .frame f ↔
      numValue 16 tok ≤ 0x7FF ∧ (∀ t ∈ toks, numValue 16 t ≤ 0xFF) ∧
        f = tokenFrame (tok :: toks) := by
  simp only [parseHex_short hid hlen]
  rw [guard_iff (by simp), Elm327Normaliser.CAN_11BIT_MAX, Nat.not_lt, tokenFrame, hid.hexLead]
  refine and_congr_right fun _ => ?_
  cases hm : toks.mapM Elm327Normaliser.parseDataToken with
  | none =>
    refine iff_of_false (by simp) ?_
    rintro ⟨hvals, -⟩
    rw [(mapM_parseDataToken_iff hhex).mpr ⟨hvals, rfl⟩] at hm
    cases hm
  | some data =>
    obtain ⟨hvals, rfl⟩ := (mapM_parseDataToken_iff hhex).mp hm
    rw [NormaliserResult.frame.injEq, eq_comm, and_iff_right hvals]

theorem all_isHex_iff : ¬ toks.all Elm327Normaliser.isHex = false ↔ ∀ t ∈ toks, AllHex t := by
  rw [Bool.not_eq_false, List.all_eq_true]
  exact forall₂_congr fun _ _ => isHex_iff

theorem normalise_iff : Elm327Normaliser.normalise line = .frame f ↔
    FrameTokens IsId ValueByte (lineTokens line) ∧ f = tokenFrame (lineTokens line) := by
  unfold Elm327Normaliser.normalise Elm327Normaliser.parseMonitorLine
  dsimp only
  rw [guard_iff (by simp), guard_iff (by simp), ← lineTokens]
  constructor
  · rintro ⟨-, -, h⟩
    cases htoks : lineTokens line with
    | nil =>
      rw [htoks] at h
      cases h
    | cons tok toks =>
      simp only [htoks] at h
      rw [guard_iff (by simp), guard_iff (by simp), guard_iff (by simp), guard_iff (by simp),
        Bool.not_eq_false, isHex_iff, Nat.not_lt, Nat.not_lt, all_isHex_iff] at h
      obtain ⟨hid, hlen, hcount, hhex, h⟩ := h
      obtain ⟨hmax, hvals, hf⟩ := (decode_iff hid hlen hhex).mp h
      exact ⟨⟨⟨hid, hlen, hmax⟩, hcount, fun t ht => ⟨hhex t ht, hvals t ht⟩⟩, hf⟩
  · rintro ⟨htokens, hf⟩
    obtain ⟨hblank, hchatter⟩ := not_skipped htokens
    refine ⟨Bool.eq_false_iff.mp hblank, Bool.eq_false_iff.mp hchatter, ?_⟩
    cases htoks : lineTokens line with
    | nil =>
      rw [htoks] at htokens
      exact htokens.elim
    | cons tok toks =>
      rw [htoks] at htokens hf
      obtain ⟨⟨hid, hlen, hmax⟩, hcount, hbytes⟩ := htokens
      have hhex : ∀ t ∈ toks, AllHex t := fun t ht => (hbytes t ht).1
      simp only
      rw [guard_iff (by simp), guard_iff (by simp), guard_iff (by simp), guard_iff (by simp),
        Bool.not_eq_false, isHex_iff, Nat.not_lt, Nat.not_lt, all_isHex_iff]
      exact ⟨hid, hlen, hcount, hhex,
        (decode_iff hid hlen hhex).mpr ⟨hmax, fun t ht => (hbytes t ht).2, hf⟩⟩

theorem normalisedFrame_iff : normalisedFrame line = some f ↔
    FrameTokens IsId ValueByte (lineTokens line) ∧ f = tokenFrame (lineTokens line) := by
  rw [← normalise_iff, normalisedFrame]
  cases Elm327Normaliser.normalise line <;> simp

end Parsers

section Lines

variable {line f : Bytes} {toks : List Bytes} {c : Byte}

open BinaryFileSource (dropCr)

theorem dropCr_cases (line : Bytes) : line = dropCr line ∨ line = dropCr line ++ [CR] := by
  unfold dropCr
  split
  · next h => exact Or.inr (List.dropLast_append_getLast? CR h).symm
  · exact Or.inl rfl

theorem rtrim_dropCr (line : Bytes) : rtrim (dropCr line) = rtrim line := by
  rcases dropCr_cases line with h | h
  · rw [← h]
  · conv_rhs => rw [h]
    rw [rtrim, rtrim, List.rdropWhile_concat_pos _ _ _ (by decide)]

theorem mem_dropCr_of_mem_rtrim (h : c ∈ rtrim line) : c ∈ dropCr line := by
  rw [← rtrim_dropCr] at h
  exact (List.rdropWhile_prefix isBlank _).subset h

theorem isSpaceOrTab_eq (h : c ≠ TAB) : isSpaceOrTab c = (c == SP) := by
  simp [isSpaceOrTab, h]

/-- A line without tabs and line ends has its tokens between spaces. -/
theorem lineTokens_clean (h : ∀ c ∈ dropCr line, c ≠ TAB ∧ c ≠ CR ∧ c ≠ LF) :
    lineTokens line = tokensBy (· == SP) (dropCr line) := by
  have hblank : ∀ c ∈ dropCr line, isBlank c = true → isSpaceOrTab c = true := by
    intro c hc hb
    obtain ⟨-, hcr, hlf⟩ := h c hc
    simpa [isBlank, isSpaceOrTab, hcr, hlf] using hb
  calc lineTokens line = tokensBy isSpaceOrTab (rtrim (dropCr line)) := by rw [rtrim_dropCr]; rfl
    _ = tokensBy isSpaceOrTab (dropCr line) := tokensBy_rdropWhile hblank
    _ = tokensBy (· == SP) (dropCr line) := tokensBy_congr fun c hc => isSpaceOrTab_eq (h c hc).1

theorem lineTokens_strip (h : ∀ c ∈ strip line, c ≠ TAB) :
    lineTokens line = tokensBy (· == SP) (strip line) :=
  calc lineTokens line = tokensBy isSpaceOrTab (strip line) := (tokensBy_dropWhile _ _).symm
    _ = tokensBy (· == SP) (strip line) := tokensBy_congr fun c hc => isSpaceOrTab_eq (h c hc)

theorem FrameTokens.hex (h : FrameTokens IsId IsByte toks) : ∀ t ∈ toks, AllHex t :=
  (h.imp (fun _ => id) fun _ => IsByte.value).allHex

/-- The tokens of a line in the common format. -/
theorem lineTokens_canonical (h : FrameTokens IsId IsByte (tokensBy (· == SP) (strip line))) :
    lineTokens line = tokensBy (· == SP) (strip line) := by
  apply lineTokens_strip
  rintro c hc rfl
  rcases mem_tokensBy_of_mem (p := (· == SP)) hc with hs | ⟨t, ht, hct⟩
  · exact absurd hs (by decide)
  · exact absurd ((h.hex t ht).2 _ hct) (by decide)

theorem looksAscii_clean (h : BinaryFileSource.looksAscii c = true) :
    c ≠ TAB ∧ c ≠ CR ∧ c ≠ LF := by
  refine ⟨?_, ?_, ?_⟩ <;>
    · rintro rfl
      exact absurd h (by decide)

theorem looksAscii_of_hex_or_space (h : c = SP ∨ isDigit 16 c = true) :
    BinaryFileSource.looksAscii c = true := by
  have hall : ∀ c : Byte, c = SP ∨ isDigit 16 c = true →
      BinaryFileSource.looksAscii c = true := forall_byte (by decide +kernel)
  exact hall c h

theorem isTokenSeparator_eq (h : BinaryFileSource.looksAscii c = true) :
    BinaryFileSource.isTokenSeparator c = (c == SP || c == COMMA) := by
  obtain ⟨htab, hcr, hlf⟩ := looksAscii_clean h
  simp only [BinaryFileSource.isTokenSeparator, beq_eq_false_iff_ne.mpr htab,
    beq_eq_false_iff_ne.mpr hcr, beq_eq_false_iff_ne.mpr hlf, Bool.or_false]

/-- In a line that the file source takes for text, the tokens between spaces are cut at commas. -/
theorem tokens_ascii (h : BinaryFileSource.looksLikeAsciiLine (dropCr line) = true) :
    tokensBy BinaryFileSource.isTokenSeparator (dropCr line) =
      (lineTokens line).flatMap (tokensBy (· == COMMA)) := by
  have hall : ∀ c ∈ dropCr line, BinaryFileSource.looksAscii c = true :=
    List.all_eq_true.mp (Bool.and_eq_true_iff.mp h).2
  rw [lineTokens_clean fun c hc => looksAscii_clean (hall c hc), ← tokensBy_or]
  exact tokensBy_congr fun c hc => isTokenSeparator_eq (hall c hc)

/-- Tokens without commas stay whole. -/
theorem flatMap_tokensBy_comma (hcomma : ∀ t ∈ toks, COMMA ∉ t) (hne : ∀ t ∈ toks, t ≠ []) :
    toks.flatMap (tokensBy (· == COMMA)) = toks := by
  induction toks with
  | nil => rfl
  | cons tok toks ih =>
    have hfree : ∀ c ∈ tok, (c == COMMA) = false := by
      rintro c hc
      apply beq_eq_false_iff_ne.mpr
      rintro rfl
      exact hcomma tok List.mem_cons_self hc
    rw [List.flatMap_cons, tokensBy_free hfree (hne tok List.mem_cons_self),
      ih (fun t ht => hcomma t (List.mem_cons_of_mem _ ht))
        fun t ht => hne t (List.mem_cons_of_mem _ ht)]
    rfl

theorem lineTokens_ascii (hcomma : COMMA ∉ line)
    (h : BinaryFileSource.looksLikeAsciiLine (dropCr line) = true) :
    lineTokens line = tokensBy BinaryFileSource.isTokenSeparator (dropCr line) := by
  rw [tokens_ascii h, flatMap_tokensBy_comma]
  · intro t ht hc
    exact hcomma ((List.rdropWhile_prefix isBlank _).subset (mem_of_mem_tokensBy ht _ hc).1)
  · intro t ht
    simpa using (List.mem_filter.mp ht).2

theorem looksLikeAsciiLine_strict (h : FrameTokens IsId IsByte (lineTokens line))
    (hclean : ∀ c ∈ dropCr line, c ≠ TAB ∧ c ≠ CR ∧ c ≠ LF) :
    BinaryFileSource.looksLikeAsciiLine (dropCr line) = true := by
  have htoks := lineTokens_clean hclean
  refine Bool.and_eq_true_iff.mpr ⟨?_, List.all_eq_true.mpr fun c hc => ?_⟩
  · apply decide_eq_true
    intro hnil
    rw [htoks, hnil] at h
    exact h.elim
  · apply looksAscii_of_hex_or_space
    rcases mem_tokensBy_of_mem (p := (· == SP)) hc with hs | ⟨t, ht, hct⟩
    · exact Or.inl (eq_of_beq hs)
    · exact Or.inr ((h.hex t (htoks ▸ ht)).2 c hct)

theorem asciiFrame_iff (hcomma : COMMA ∉ line) : asciiFrame line = some f ↔
    BinaryFileSource.looksLikeAsciiLine (dropCr line) = true ∧
      FrameTokens LooseId LooseByte (lineTokens line) ∧ f = tokenFrame (lineTokens line) := by
  unfold asciiFrame
  dsimp only
  by_cases h : BinaryFileSource.looksLikeAsciiLine (dropCr line) = true
  · rw [if_pos h, parseAscii_iff, ← lineTokens_ascii hcomma h]
    simp only [h, true_and]
  · simp [h]

theorem FrameTokens.loose (h : FrameTokens IsId IsByte toks) : FrameTokens LooseId LooseByte toks :=
  h.imp (fun _ => IsId.loose) fun _ => IsByte.loose

theorem FrameTokens.value (h : FrameTokens IsId IsByte toks) : FrameTokens IsId ValueByte toks :=
  h.imp (fun _ => id) fun _ => IsByte.value

/-- The common format is told by the tokens alone. -/
theorem canonicalFrame_strict (h : canonicalFrame line = some f) :
    FrameTokens IsId IsByte (lineTokens line) ∧ f = tokenFrame (lineTokens line) := by
  have hc := canonicalFrame_iff.mp h
  rwa [← lineTokens_canonical hc.1] at hc

theorem Agree.unambiguous (hcomma : COMMA ∉ line) (h : Agree line) : Unambiguous line := by
  constructor
  · rintro (hloose | hvalue)
    · have hlive := liveFrame_iff.mpr ⟨hloose, rfl⟩
      rw [h.live] at hlive
      exact (canonicalFrame_strict hlive).1
    · have hnorm := normalisedFrame_iff.mpr ⟨hvalue, rfl⟩
      rw [h.normalised] at hnorm
      exact (canonicalFrame_strict hnorm).1
  · intro hstrict
    have hlive := liveFrame_iff.mpr ⟨hstrict.loose, rfl⟩
    rw [h.live, ← h.recorded] at hlive
    have hascii := ((asciiFrame_iff hcomma).mp hlive).1
    exact fun c hc =>
      looksAscii_clean (List.all_eq_true.mp (Bool.and_eq_true_iff.mp hascii).2 c hc)

theorem Unambiguous.agree_of_strict (hcomma : COMMA ∉ line) (h : Unambiguous line)
    (hstrict : FrameTokens IsId IsByte (lineTokens line)) : Agree line := by
  have hclean := h.clean hstrict
  have htoks : lineTokens line = tokensBy (· == SP) (strip line) := by
    apply lineTokens_strip
    intro c hc
    exact (hclean c (mem_dropCr_of_mem_rtrim (List.dropWhile_sublist _ |>.subset hc))).1
  have hcanon : canonicalFrame line = some (tokenFrame (lineTokens line)) :=
    canonicalFrame_iff.mpr ⟨htoks ▸ hstrict, by rw [htoks]⟩
  constructor
  · rw [hcanon, liveFrame_iff]
    exact ⟨hstrict.loose, rfl⟩
  · rw [hcanon, normalisedFrame_iff]
    exact ⟨hstrict.value, rfl⟩
  · rw [hcanon, asciiFrame_iff hcomma]
    exact ⟨looksLikeAsciiLine_strict hstrict hclean, hstrict.loose, rfl⟩

theorem Unambiguous.agree_of_not_strict (hcomma : COMMA ∉ line) (h : Unambiguous line)
    (hstrict : ¬ FrameTokens IsId IsByte (lineTokens line)) : Agree line := by
  have hcanon : canonicalFrame line = none := by
    apply Option.eq_none_iff_forall_ne_some.mpr
    intro f hf
    exact hstrict (canonicalFrame_strict hf).1
  constructor <;> rw [hcanon] <;> apply Option.eq_none_iff_forall_ne_some.mpr <;> intro f hf
  · exact hstrict (h.strict (Or.inl (liveFrame_iff.mp hf).1))
  · exact hstrict (h.strict (Or.inr (normalisedFrame_iff.mp hf).1))
  · exact hstrict (h.strict (Or.inl ((asciiFrame_iff hcomma).mp hf).2.1))

/-- The three parsers agree with the common format exactly on the lines that are
unambiguous. -/
theorem agree_iff (hcomma : COMMA ∉ line) : Agree line ↔ Unambiguous line := by
  constructor
  · exact Agree.unambiguous hcomma
  · intro h
    by_cases hstrict : FrameTokens IsId IsByte (lineTokens line)
    · exact h.agree_of_strict hcomma hstrict
    · exact h.agree_of_not_strict hcomma hstrict

theorem agree_twoBytes : COMMA ∉ ascii "123 01 02" ∧ Agree (ascii "123 01 02") := by
  have hcomma : COMMA ∉ ascii "123 01 02" := by decide
  exact ⟨hcomma, (agree_iff hcomma).mpr ⟨fun _ => by decide +kernel, fun _ => by decide +kernel⟩⟩

/-- A letter that is no digit, behind one that is. -/
theorem not_agree_phantomByte : COMMA ∉ ascii "123 1Z" ∧ ¬ Agree (ascii "123 1Z") := by
  refine ⟨by decide, fun h => ?_⟩
  exact absurd h.live (by decide +kernel)

end Lines

end VehicleSpy.Pipeline.FrameLines
