import VehicleSpy.Ble.ELM327Transport
import VehicleSpy.Text.Tokens

/-! # The frame lines of monitor mode

The parser of monitor lines looks at the maximal runs of hexadecimal digits only: whatever else
stands in the line separates them, where the other parsers of such lines turn it down. A frame is an
id and eight runs of two digits, perhaps behind a type prefix; the checks for a prompt and for a
status are covered by the number of runs. The id may have any number of digits, and only its last
sixteen bits are kept.
-/

namespace VehicleSpy.Ble.ELM327Transport

open Text

/-- A byte between two runs of digits. -/
def isGap (c : Byte) : Bool := !isxdigit c

/-- The maximal runs of hexadecimal digits of a line. -/
def hexRuns (line : Bytes) : List Bytes := tokensBy isGap line

/-- The byte that a pair of digits denotes. -/
def byteOf (pair : Bytes) : Byte := (numValue 16 pair).toUInt8

/-- Tokens of a frame, where `value` reads the number of a type prefix. -/
structure FrameTokens (value : Bytes → ℕ) (tokens : List Bytes) (id : Bytes)
    (pairs : List Bytes) : Prop where
  tokens_eq : tokens = id :: pairs ∨
    ∃ type, (0x600 ≤ value type ∧ value type ≤ 0x6FF) ∧ tokens = type :: id :: pairs
  eight : pairs.length = 8
  two : ∀ p ∈ pairs, p.length = 2

/-- At most three digits of an 11-bit number. -/
def StandardId (id : Bytes) : Prop := id.length ≤ 3 ∧ numValue 16 id ≤ 0x7FF

instance (id : Bytes) : Decidable (StandardId id) := inferInstanceAs (Decidable (_ ∧ _))

/-- The words between blanks are the tokens of a frame, in hexadecimal digits only. -/
def IsFrameLine (line : Bytes) (frame : CANFrame) : Prop :=
  ∃ id pairs, FrameTokens (numValue 16) (tokensBy isspace (line.rdropWhile isLineEnd)) id pairs ∧
    (∀ t ∈ tokensBy isspace (line.rdropWhile isLineEnd), ∀ c ∈ t, isxdigit c = true) ∧
    StandardId id ∧ frame = ⟨(numValue 16 id).toUInt16, pairs.map byteOf⟩

/-- Runs that are those of a frame have nothing but blanks between them, an 11-bit id and, in front,
a prefix that `sscanf` does not truncate. -/
def PlainRuns (line : Bytes) : Prop :=
  COLON ∉ line → ∀ id pairs, FrameTokens scanHex (hexRuns line) id pairs →
    (∀ c ∈ line.rdropWhile isLineEnd, isxdigit c = true ∨ isspace c = true) ∧ StandardId id ∧
      ∀ type, hexRuns line = type :: id :: pairs → numValue 16 type < 2 ^ 32

theorem FrameTokens.unique {value value' : Bytes → ℕ} {tokens pairs pairs' : List Bytes}
    {id id' : Bytes} (h : FrameTokens value tokens id pairs)
    (h' : FrameTokens value' tokens id' pairs') : id = id' ∧ pairs = pairs' := by
  have height := h.eight
  have height' := h'.eight
  rcases h.tokens_eq with rfl | ⟨type, -, rfl⟩ <;>
    rcases h'.tokens_eq with heq | ⟨type', -, heq⟩
  · exact List.cons.inj heq
  · simp [(List.cons.inj heq).2, height'] at height
  · simp [← (List.cons.inj heq).2, height] at height'
  · exact List.cons.inj (List.cons.inj heq).2

section Runs

variable {line s : Bytes}

theorem tokensFrom_eq {current : Bytes} (hcurrent : ∀ c ∈ current, isxdigit c = true) :
    tokensFrom (current.map toupper) s = (hexRuns (current ++ s)).map (List.map toupper) := by
  unfold hexRuns
  induction s generalizing current with
  | nil =>
    rw [List.append_nil, tokensFrom]
    split
    · next hnil =>
      obtain rfl := List.map_eq_nil_iff.mp hnil
      rfl
    · next hne =>
      have hfree : ∀ c ∈ current, isGap c = false := fun c hc => by simp [isGap, hcurrent c hc]
      have hone := tokensBy_free hfree (by simpa using hne)
      simp [hone]
  | cons c s ih =>
    cases hc : isxdigit c with
    | true =>
      have hdigits : ∀ d ∈ current ++ [c], isxdigit d = true := by
        simpa [or_imp, forall_and, hc] using hcurrent
      have hrest := ih hdigits
      rw [List.map_append, List.append_assoc] at hrest
      rw [tokensFrom, if_pos hc]
      exact hrest
    | false =>
      have hsep : isGap c = true := by simp [isGap, hc]
      have hrest := @ih [] (List.forall_mem_nil _)
      rw [List.map_nil, List.nil_append] at hrest
      rcases List.eq_nil_or_concat current with rfl | ⟨w, d, rfl⟩
      · rw [List.nil_append, tokensBy_cons hsep, ← hrest]
        simp [tokensFrom, hc]
      · rw [List.concat_eq_append] at hcurrent ⊢
        have hfree : ∀ e ∈ w ++ [d], (!isGap e) = true := fun e he => by
          simp [isGap, hcurrent e he]
        have htake : ((w ++ [d]) ++ c :: s).takeWhile (!isGap ·) = w ++ [d] := by
          rw [List.takeWhile_append_of_pos hfree]
          simp [hsep]
        have hdrop : ((w ++ [d]) ++ c :: s).dropWhile (!isGap ·) = c :: s := by
          rw [List.dropWhile_append_of_pos hfree]
          simp [hsep]
        rw [tokensBy_eq_cons (by rw [htake]; simp), htake, hdrop, tokensBy_cons hsep,
          List.map_cons, ← hrest]
        simp [tokensFrom, hc]

theorem tokenizeHex_eq (s : Bytes) : tokenizeHex s = (hexRuns s).map (List.map toupper) :=
  @tokensFrom_eq s [] (List.forall_mem_nil _)

theorem isxdigit_of_mem_hexRuns {t : Bytes} (ht : t ∈ hexRuns line) :
    ∀ c ∈ t, isxdigit c = true := by
  intro c hc
  simpa [isGap] using (mem_of_mem_tokensBy ht c hc).2

/-- The line end does not belong to any run. -/
theorem hexRuns_rdropWhile (line : Bytes) : hexRuns (line.rdropWhile isLineEnd) = hexRuns line := by
  refine tokensBy_rdropWhile fun c _ hc => ?_
  rcases Bool.or_eq_true_iff.mp hc with h | h <;> obtain rfl := eq_of_beq h <;> rfl

theorem colon_mem_rdropWhile : COLON ∈ line.rdropWhile isLineEnd ↔ COLON ∈ line := by
  have hsplit : line.rdropWhile isLineEnd ++ line.rtakeWhile isLineEnd = line :=
    List.rdropWhile_append_rtakeWhile
  conv_rhs => rw [← hsplit, List.mem_append]
  refine (or_iff_left fun hc => ?_).symm
  exact absurd (List.mem_rtakeWhile_imp hc) (by decide)

/-- Between blanks, the runs are the words. -/
theorem hexRuns_eq_words
    (h : ∀ c ∈ line.rdropWhile isLineEnd, isxdigit c = true ∨ isspace c = true) :
    hexRuns line = tokensBy isspace (line.rdropWhile isLineEnd) := by
  have hbyte : ∀ c : Byte, isxdigit c = true → isspace c = false :=
    forall_byte (by decide +kernel)
  rw [← hexRuns_rdropWhile]
  apply tokensBy_congr
  intro c hc
  rw [isGap]
  rcases h c hc with hdigit | hspace
  · rw [hdigit, hbyte c hdigit]
    rfl
  · cases hdigit : isxdigit c with
    | true => exact absurd hspace (by simp [hbyte c hdigit])
    | false => simp [hspace]

theorem tokenizeHex_toupper (s : Bytes) : tokenizeHex (s.map toupper) = tokenizeHex s := by
  have hbyte : ∀ c : Byte, isxdigit (toupper c) = isxdigit c ∧ toupper (toupper c) = toupper c :=
    forall_byte (by decide +kernel)
  have hfrom : ∀ current, tokensFrom current (s.map toupper) = tokensFrom current s := by
    induction s with
    | nil => exact fun _ => rfl
    | cons c s ih =>
      intro current
      obtain ⟨hdigit, hup⟩ := hbyte c
      simp only [List.map_cons, tokensFrom, hdigit, hup, ih]
  exact hfrom []

end Runs

section Parser

variable {line : Bytes} {frame : CANFrame} {runs pairs : List Bytes} {id : Bytes}

/-- What the parser makes of the tokens of a line. -/
def frameOfTokens (tokens : List Bytes) : Option CANFrame :=
  if tokens.length < 9 ∨ 10 < tokens.length then none
  else do
    let dataStart ← classifyTypePrefix tokens
    let id := scanHex (tokens.getD dataStart [])
    if tokens.length - dataStart - 1 ≠ 8 then none
    let data ← (tokens.drop (dataStart + 1)).mapM parseHexByte
    return ⟨id.toUInt16, data⟩

/-- The texts that are sorted out first have too few tokens anyway. -/
theorem parseCANFrame_eq (line : Bytes) :
    parseCANFrame line =
      if COLON ∈ line then none else frameOfTokens ((hexRuns line).map (List.map toupper)) := by
  have hstatuses : ∀ s ∈ statuses, (tokenizeHex s).length < 9 := by decide +kernel
  have htokens : tokenizeHex (line.rdropWhile isLineEnd) =
      (hexRuns line).map (List.map toupper) := by
    rw [tokenizeHex_eq, hexRuns_rdropWhile]
  have hfew (h : (tokenizeHex (line.rdropWhile isLineEnd)).length < 9) :
      frameOfTokens ((hexRuns line).map (List.map toupper)) = none := by
    rw [← htokens]
    exact if_pos (Or.inl h)
  unfold parseCANFrame
  split
  · next hnil =>
    subst hnil
    rfl
  · by_cases hprompt : line.rdropWhile isLineEnd = [PROMPT]
    · rw [hfew (by rw [hprompt]; decide)]
      simp [hprompt]
    · by_cases hstatus : isStatusMessage ((line.rdropWhile isLineEnd).map toupper) = true
      · obtain ⟨s, hs, he⟩ := List.any_eq_true.mp hstatus
        have hlt : (tokenizeHex (line.rdropWhile isLineEnd)).length < 9 := by
          rw [← tokenizeHex_toupper, eq_of_beq he]
          exact hstatuses s hs
        rw [hfew hlt]
        simp [hstatus]
      · simp only [hprompt, hstatus, if_false, colon_mem_rdropWhile, htokens, Bool.false_eq_true]
        rfl

theorem parseHexByte_map {p : Bytes} (h : ∀ c ∈ p, isxdigit c = true) :
    parseHexByte (p.map toupper) = if p.length = 2 then some (byteOf p) else none := by
  rcases p with _ | ⟨a, _ | ⟨b, _ | ⟨c, p⟩⟩⟩
  · rfl
  · rfl
  · exact parseHexByte_toupper (h a (by simp)) (h b (by simp))
  · simp [parseHexByte]

/-- The data bytes are read when each of the tokens has two digits. -/
theorem mapM_parseHexByte_iff {data : Bytes} (h : ∀ p ∈ pairs, ∀ c ∈ p, isxdigit c = true) :
    (pairs.map (List.map toupper)).mapM parseHexByte = some data ↔
      (∀ p ∈ pairs, p.length = 2) ∧ data = pairs.map byteOf := by
  induction pairs generalizing data with
  | nil => simp [eq_comm]
  | cons p pairs ih =>
    obtain ⟨hp, hpairs⟩ := List.forall_mem_cons.mp h
    rw [List.map_cons, List.mapM_cons, parseHexByte_map hp, List.forall_mem_cons, List.map_cons]
    split
    · next htwo =>
      cases hm : (pairs.map (List.map toupper)).mapM parseHexByte with
      | none =>
        have hnone : ¬ ∀ p ∈ pairs, p.length = 2 := fun hall => by
          have hsome := (ih hpairs).mpr ⟨hall, rfl⟩
          rw [hm] at hsome
          cases hsome
        simp [hnone]
      | some rest =>
        obtain ⟨hall, rfl⟩ := (ih hpairs).mp hm
        simpa [htwo, eq_comm] using fun _ => hall
    · next htwo => simp [htwo]

theorem scanHex_toupper (h : ∀ c ∈ id, isxdigit c = true) :
    scanHex (id.map toupper) = scanHex id := by
  rw [scanHex, numValue_toupper h, scanHex]

theorem frameOfTokens_nine (h : pairs.length = 8) :
    frameOfTokens (id :: pairs) = do
      let data ← pairs.mapM parseHexByte
      return ⟨(scanHex id).toUInt16, data⟩ := by
  simp [frameOfTokens, classifyTypePrefix, h]

theorem frameOfTokens_ten {type : Bytes} (h : pairs.length = 8) :
    frameOfTokens (type :: id :: pairs) =
      if 0x600 ≤ scanHex type ∧ scanHex type ≤ 0x6FF then frameOfTokens (id :: pairs)
      else none := by
  rw [frameOfTokens_nine h]
  split
  · next htype => simp [frameOfTokens, classifyTypePrefix, h, htype]
  · next htype => simp [frameOfTokens, classifyTypePrefix, h, htype]

/-- Behind the prefix, the parser takes an id and eight runs of two digits. -/
theorem frame_iff (height : pairs.length = 8) (hid : ∀ c ∈ id, isxdigit c = true)
    (hpairs : ∀ p ∈ pairs, ∀ c ∈ p, isxdigit c = true) :
    frameOfTokens ((id :: pairs).map (List.map toupper)) = some frame ↔
      (∀ p ∈ pairs, p.length = 2) ∧ frame = ⟨(scanHex id).toUInt16, pairs.map byteOf⟩ := by
  rw [List.map_cons, frameOfTokens_nine (by rwa [List.length_map]), scanHex_toupper hid]
  constructor
  · intro h
    obtain ⟨data, hdata, hframe⟩ := Option.bind_eq_some_iff.mp h
    obtain ⟨htwo, rfl⟩ := (mapM_parseHexByte_iff hpairs).mp hdata
    exact ⟨htwo, (Option.some.inj hframe).symm⟩
  · rintro ⟨htwo, rfl⟩
    exact Option.bind_eq_some_iff.mpr ⟨_, (mapM_parseHexByte_iff hpairs).mpr ⟨htwo, rfl⟩, rfl⟩

/-- Nine tokens are an id and its pairs. -/
theorem frameTokens_nine {value : Bytes → ℕ} {a : Bytes} {rest : List Bytes}
    (h : rest.length = 8) :
    FrameTokens value (a :: rest) id pairs ↔ id = a ∧ pairs = rest ∧ ∀ p ∈ rest, p.length = 2 := by
  constructor
  · rintro ⟨htokens | ⟨type, -, htokens⟩, height, htwo⟩
    · obtain ⟨rfl, rfl⟩ := List.cons.inj htokens
      exact ⟨rfl, rfl, htwo⟩
    · obtain ⟨rfl, rfl⟩ := List.cons.inj htokens
      rw [List.length_cons] at h
      omega
  · rintro ⟨rfl, rfl, htwo⟩
    exact ⟨Or.inl rfl, h, htwo⟩

/-- Ten tokens have a type prefix in front. -/
theorem frameTokens_ten {value : Bytes → ℕ} {a b : Bytes} {rest : List Bytes}
    (h : rest.length = 8) :
    FrameTokens value (a :: b :: rest) id pairs ↔
      (0x600 ≤ value a ∧ value a ≤ 0x6FF) ∧ id = b ∧ pairs = rest ∧
        ∀ p ∈ rest, p.length = 2 := by
  constructor
  · rintro ⟨htokens | ⟨type, htype, htokens⟩, height, htwo⟩
    · obtain ⟨-, rfl⟩ := List.cons.inj htokens
      rw [List.length_cons] at height
      omega
    · simp only [List.cons.injEq] at htokens
      obtain ⟨rfl, rfl, rfl⟩ := htokens
      exact ⟨htype, rfl, rfl, htwo⟩
  · rintro ⟨htype, rfl, rfl, htwo⟩
    exact ⟨Or.inr ⟨a, htype, rfl⟩, h, htwo⟩

/-- The parser takes just the tokens of a frame, with the prefix as `sscanf` reads it. -/
theorem frameOfTokens_iff (h : ∀ t ∈ runs, ∀ c ∈ t, isxdigit c = true) :
    frameOfTokens (runs.map (List.map toupper)) = some frame ↔
      ∃ id pairs, FrameTokens scanHex runs id pairs ∧
        frame = ⟨(scanHex id).toUInt16, pairs.map byteOf⟩ := by
  by_cases hfew : runs.length < 9 ∨ 10 < runs.length
  · have hnone : frameOfTokens (runs.map (List.map toupper)) = none :=
      if_pos (by rwa [List.length_map])
    refine iff_of_false (by simp [hnone]) ?_
    rintro ⟨id, pairs, ht, -⟩
    have height := ht.eight
    rcases ht.tokens_eq with rfl | ⟨type, -, rfl⟩
    · simp only [List.length_cons] at hfew
      omega
    · simp only [List.length_cons] at hfew
      omega
  · rcases runs with _ | ⟨a, _ | ⟨b, rest⟩⟩
    · simp at hfew
    · simp at hfew
    · simp only [List.length_cons] at hfew
      obtain ⟨ha, hrest⟩ := List.forall_mem_cons.mp h
      obtain ⟨hb, htail⟩ := List.forall_mem_cons.mp hrest
      by_cases hten : rest.length = 8
      · rw [List.map_cons, List.map_cons, frameOfTokens_ten (by rwa [List.length_map]),
          scanHex_toupper ha, ← List.map_cons]
        constructor
        · intro hsome
          split at hsome
          · next htype =>
            obtain ⟨htwo, hframe⟩ := (frame_iff hten hb htail).mp hsome
            exact ⟨b, rest, (frameTokens_ten hten).mpr ⟨htype, rfl, rfl, htwo⟩, hframe⟩
          · cases hsome
        · rintro ⟨id, pairs, htokens, hframe⟩
          obtain ⟨htype, rfl, rfl, htwo⟩ := (frameTokens_ten hten).mp htokens
          rw [if_pos htype]
          exact (frame_iff hten hb htail).mpr ⟨htwo, hframe⟩
      · have hnine : (b :: rest).length = 8 := by
          rw [List.length_cons]
          omega
        rw [frame_iff hnine ha hrest]
        constructor
        · rintro ⟨htwo, hframe⟩
          exact ⟨a, b :: rest, (frameTokens_nine hnine).mpr ⟨rfl, rfl, htwo⟩, hframe⟩
        · rintro ⟨id, pairs, htokens, hframe⟩
          obtain ⟨rfl, rfl, htwo⟩ := (frameTokens_nine hnine).mp htokens
          exact ⟨htwo, hframe⟩

theorem parseCANFrame_iff :
    parseCANFrame line = some frame ↔ COLON ∉ line ∧
      ∃ id pairs, FrameTokens scanHex (hexRuns line) id pairs ∧
        frame = ⟨(scanHex id).toUInt16, pairs.map byteOf⟩ := by
  rw [parseCANFrame_eq]
  split
  · next hcolon => simp [hcolon]
  · next hcolon =>
    rw [frameOfTokens_iff fun t ht => isxdigit_of_mem_hexRuns ht]
    exact (and_iff_right hcolon).symm

theorem scanHex_of_lt {t : Bytes} (h : numValue 16 t < 2 ^ 32) : scanHex t = numValue 16 t := by
  rw [scanHex, Nat.min_eq_left (by omega), Nat.mod_eq_of_lt h]

/-- Every frame comes from a line of runs of its shape, with its bytes and, when that is an 11-bit
id, with its id; and every line of such runs with an 11-bit id gives its frame. -/
theorem parseCANFrame_runs (line : Bytes) :
    (∀ frame, parseCANFrame line = some frame → COLON ∉ line ∧
      ∃ id pairs, FrameTokens scanHex (hexRuns line) id pairs ∧ frame.data = pairs.map byteOf ∧
        (StandardId id → frame.canId.toNat = numValue 16 id)) ∧
    ∀ id pairs, COLON ∉ line → FrameTokens (numValue 16) (hexRuns line) id pairs →
      StandardId id →
        parseCANFrame line = some ⟨(numValue 16 id).toUInt16, pairs.map byteOf⟩ := by
  have hstandard {id : Bytes} (hid : StandardId id) : scanHex id = numValue 16 id := by
    have hle := hid.2
    exact scanHex_of_lt (by omega)
  constructor
  · intro frame h
    obtain ⟨hcolon, id, pairs, ht, rfl⟩ := parseCANFrame_iff.mp h
    refine ⟨hcolon, id, pairs, ht, rfl, fun hid => ?_⟩
    rw [hstandard hid]
    exact UInt16.toNat_ofNat_of_lt' (hid.2.trans_lt (by decide))
  · intro id pairs hcolon ht hid
    have hscan : FrameTokens scanHex (hexRuns line) id pairs := by
      refine ⟨ht.tokens_eq.imp_right ?_, ht.eight, ht.two⟩
      rintro ⟨type, htype, htokens⟩
      rw [← scanHex_of_lt (by omega)] at htype
      exact ⟨type, htype, htokens⟩
    exact parseCANFrame_iff.mpr ⟨hcolon, id, pairs, hscan, by rw [hstandard hid]⟩

theorem IsFrameLine.digits_or_blanks (h : IsFrameLine line frame) :
    ∀ c ∈ line.rdropWhile isLineEnd, isxdigit c = true ∨ isspace c = true := by
  obtain ⟨id, pairs, -, hdigits, -⟩ := h
  intro c hc
  rcases mem_tokensBy_of_mem hc with hspace | ⟨t, ht, hmem⟩
  · exact Or.inr hspace
  · exact Or.inl (hdigits t ht c hmem)

/-- Every frame line is read as its frame. -/
theorem IsFrameLine.parseCANFrame_eq (h : IsFrameLine line frame) :
    parseCANFrame line = some frame := by
  have hruns := hexRuns_eq_words h.digits_or_blanks
  have hcolon : COLON ∉ line := by
    rw [← colon_mem_rdropWhile]
    intro hc
    exact absurd (h.digits_or_blanks COLON hc) (by decide)
  obtain ⟨id, pairs, ht, -, hid, rfl⟩ := h
  exact (parseCANFrame_runs line).2 id pairs hcolon (hruns ▸ ht) hid

/-- What is read from plain runs is the frame of a frame line. -/
theorem PlainRuns.isFrameLine (h : PlainRuns line) (hframe : parseCANFrame line = some frame) :
    IsFrameLine line frame := by
  obtain ⟨hcolon, id, pairs, ht, rfl⟩ := parseCANFrame_iff.mp hframe
  obtain ⟨hblanks, hid, htype⟩ := h hcolon id pairs ht
  have hscan : scanHex id = numValue 16 id := by
    have hle := hid.2
    exact scanHex_of_lt (by omega)
  rw [hscan]
  refine ⟨id, pairs, ?_, ?_, hid, rfl⟩
  · rw [← hexRuns_eq_words hblanks]
    refine ⟨ht.tokens_eq.imp_right ?_, ht.eight, ht.two⟩
    rintro ⟨type, hvalue, hruns⟩
    rw [scanHex_of_lt (htype type hruns)] at hvalue
    exact ⟨type, hvalue, hruns⟩
  · rw [← hexRuns_eq_words hblanks]
    exact fun t => isxdigit_of_mem_hexRuns

/-- A line is read as a frame just when it is the line of that frame, unless its runs of digits are
those of a frame and it is not plain. -/
theorem parseCANFrame_faithful_iff (line : Bytes) :
    (∀ frame, parseCANFrame line = some frame ↔ IsFrameLine line frame) ↔ PlainRuns line := by
  constructor
  · intro h hcolon id pairs ht
    have hline := (h _).mp (parseCANFrame_iff.mpr ⟨hcolon, id, pairs, ht, rfl⟩)
    have hruns := hexRuns_eq_words hline.digits_or_blanks
    refine ⟨hline.digits_or_blanks, ?_⟩
    obtain ⟨id', pairs', ht', -, hid, -⟩ := hline
    rw [← hruns] at ht'
    obtain ⟨rfl, rfl⟩ := ht.unique ht'
    refine ⟨hid, fun type htype => ?_⟩
    obtain ⟨hvalue, -⟩ := (frameTokens_ten ht.eight).mp (htype ▸ ht')
    omega
  · exact fun h frame => ⟨h.isFrameLine, IsFrameLine.parseCANFrame_eq⟩

/-- A data byte that has become noise is skipped, and an id loses its first digits. -/
theorem not_isFrameLine :
    (parseCANFrame (ascii "264 00 00 00 90 01 10 XX 27 00") =
        some ⟨0x264, [0x00, 0x00, 0x00, 0x90, 0x01, 0x10, 0x27, 0x00]⟩ ∧
      ¬ ∃ frame, IsFrameLine (ascii "264 00 00 00 90 01 10 XX 27 00") frame) ∧
    parseCANFrame (ascii "10264 00 00 00 90 01 10 27 00") =
        some ⟨0x264, [0x00, 0x00, 0x00, 0x90, 0x01, 0x10, 0x27, 0x00]⟩ ∧
      ¬ ∃ frame, IsFrameLine (ascii "10264 00 00 00 90 01 10 27 00") frame := by
  have hwords : tokensBy isspace ((ascii "10264 00 00 00 90 01 10 27 00").rdropWhile isLineEnd) =
      ascii "10264" :: ["00", "00", "00", "90", "01", "10", "27", "00"].map ascii := by
    decide +kernel
  refine ⟨⟨by decide +kernel, ?_⟩, by decide +kernel, ?_⟩
  · rintro ⟨frame, id, pairs, -, hdigits, -⟩
    exact absurd (hdigits (ascii "XX") (by decide +kernel) 88 (by decide)) (by decide)
  · rintro ⟨frame, id, pairs, ht, -, hid, -⟩
    rw [hwords] at ht
    obtain ⟨rfl, -⟩ := (frameTokens_nine (by rfl)).mp ht
    exact absurd hid (by decide)

end Parser

end VehicleSpy.Ble.ELM327Transport
