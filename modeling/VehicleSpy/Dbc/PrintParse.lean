import VehicleSpy.Text.Segments
import VehicleSpy.Dbc.Document

/-! # What is printed is parsed

Each step of the parser's cursor, on the text that was printed for it, gives back what was
printed and leaves the rest of the line. So a line says to the parser what it was printed
for, and a document gives back its definitions, each with its value table.
-/

namespace VehicleSpy.Dbc

open Text

variable {D : Type} {stod : Bytes → Option D} {st : ParserState D}

section Characters

variable {c : Byte} {s rest : Bytes} {n : ℕ}

theorem isNameChar_iff (h : isNameChar c = true) :
    isBlank c = false ∧ c ≠ SP ∧ c ≠ TAB ∧ c ≠ COLON := by
  simp only [isNameChar, Bool.not_eq_true', Bool.or_eq_false_iff, decide_eq_false_iff_not] at h
  obtain ⟨⟨⟨hb, -⟩, -⟩, hc⟩ := h
  refine ⟨hb, ?_, ?_, hc⟩ <;> rintro rfl <;> exact absurd hb (by decide)

theorem digits_isDigit (n : ℕ) : ∀ c ∈ baseDigits 10 n, isDigit 10 c = true :=
  isDigit_baseDigits (by decide) (by decide) n

theorem digits_ne (hc : isDigit 10 c = false) : c ∉ baseDigits 10 n := by
  intro h
  rw [digits_isDigit n c h] at hc
  cases hc

theorem digits_notSpace (n : ℕ) : ∀ c ∈ baseDigits 10 n, isSpaceOrTab c = false := by
  intro c hc
  cases hs : isSpaceOrTab c with
  | false => rfl
  | true =>
    rw [isSpaceOrTab, Bool.or_eq_true, beq_iff_eq, beq_iff_eq] at hs
    rcases hs with rfl | rfl <;> exact absurd hc (digits_ne (by decide))

/-- Skipping stops at a text that does not begin with white space. -/
theorem skipWs_of_head (h : ∀ c ∈ s.head?, isSpaceOrTab c = false) : skipWs s = s :=
  (dropWhile_eq_self_iff _).mpr h

theorem skipWs_SP : skipWs (SP :: s) = skipWs s := List.dropWhile_cons_of_pos (by decide)

theorem skipWs_append (hne : s ≠ []) (h : ∀ c ∈ s, isSpaceOrTab c = false) :
    skipWs (s ++ rest) = s ++ rest := by
  apply skipWs_of_head
  rw [List.head?_append_of_ne_nil _ hne]
  exact fun c hc => h c (List.mem_of_mem_head? hc)

theorem skipWs_digits : skipWs (baseDigits 10 n ++ rest) = baseDigits 10 n ++ rest :=
  skipWs_append (baseDigits_ne_nil 10 n) (digits_notSpace n)

theorem upTo_append (h : c ∉ s) : upTo c (s ++ c :: rest) = .ok (s, rest) := by
  rw [upTo, cutAt_append_cons h]

theorem readSize_digits (h : n < 2 ^ 64) : readSize (baseDigits 10 n) = .ok n := by
  rw [readSize, fromChars_baseDigits (by decide) (by decide) h]

end Characters

section Signal

variable {s : SignalText stod} {a b : Decimal stod} {opening middle closing c : Byte}
  {rest : Bytes}

theorem markText_none (h : s.mark = none) : s.markText = [] := by
  rw [SignalText.markText, h]

/-- Behind the name, the cursor goes past an optional mark to the colon. -/
theorem parseName_text (text : Bytes) (h : text = s.name ++ SP :: (s.markText ++ COLON :: rest)) :
    parseNameAndMultiplexor text = (s.name, COLON :: rest) := by
  have hname : ∀ c ∈ s.name, (c ≠ SP && c ≠ COLON) = true := fun c hc => by
    obtain ⟨-, hsp, -, hcolon⟩ := isNameChar_iff (s.name_chars c hc)
    simp [hsp, hcolon]
  have htake : text.takeWhile (fun c => c ≠ SP && c ≠ COLON) = s.name := by
    rw [h, List.takeWhile_append_of_pos hname, List.takeWhile_cons_of_neg (by decide),
      List.append_nil]
  have hdrop : text.dropWhile (fun c => c ≠ SP && c ≠ COLON) =
      SP :: (s.markText ++ COLON :: rest) := by
    rw [h, List.dropWhile_append_of_pos hname, List.dropWhile_cons_of_neg (by decide)]
  have hcolon : skipWs (COLON :: rest) = COLON :: rest := skipWs_of_head (by simp; decide)
  rw [parseNameAndMultiplexor, htake, hdrop, skipWs_SP, SignalText.markText]
  cases s.mark with
  | none =>
    simp only [List.nil_append, hcolon]
    rfl
  | some mark =>
    cases mark with
    | multiplexor =>
      have hm : skipWs (77 :: SP :: COLON :: rest) = 77 :: SP :: COLON :: rest :=
        skipWs_of_head (by simp; decide)
      simp [Mark.text, hm, skipWs_SP, hcolon]
    | multiplexed digits hall =>
      have hm : skipWs (109 :: (digits ++ SP :: COLON :: rest)) =
          109 :: (digits ++ SP :: COLON :: rest) := skipWs_of_head (by simp; decide)
      have hd : (digits ++ SP :: COLON :: rest).dropWhile (isDigit 10) = SP :: COLON :: rest := by
        rw [List.dropWhile_append_of_pos hall, List.dropWhile_cons_of_neg (by decide)]
      simp [Mark.text, hm, hd, skipWs_SP, hcolon]

/-- The name, after one blank; an empty name is read if no mark follows it. -/
theorem parseNameAndMultiplexor_text (h : s.mark ≠ none → s.name ≠ []) :
    parseNameAndMultiplexor (skipWs (SP :: (s.name ++ SP :: (s.markText ++ COLON :: rest)))) =
      (s.name, COLON :: rest) := by
  by_cases hne : s.name = []
  · have hmark : s.mark = none := not_not.mp fun hm => h hm hne
    have hcolon : skipWs (COLON :: rest) = COLON :: rest := skipWs_of_head (by simp; decide)
    rw [hne, markText_none hmark, List.nil_append, List.nil_append, skipWs_SP, skipWs_SP, hcolon,
      parseNameAndMultiplexor, List.takeWhile_cons_of_neg (by decide),
      List.dropWhile_cons_of_neg (by decide), hcolon]
    rfl
  · apply parseName_text
    rw [skipWs_SP]
    apply skipWs_append hne
    exact fun c hc => notSpace_of_notBlank (isNameChar_iff (s.name_chars c hc)).1

theorem Decimal.notMem (hc : isDecimalChar c = false) : c ∉ a.text := fun h => by
  rw [a.chars c h] at hc
  cases hc

theorem Decimal.trim_text : trim a.text = a.text := by
  have hb : ∀ c ∈ a.text, isBlank c = false := by
    intro c hc
    cases hs : isBlank c with
    | false => rfl
    | true =>
      simp only [isBlank, Bool.or_eq_true, beq_iff_eq] at hs
      rcases hs with ((rfl | rfl) | rfl) | rfl <;> exact absurd hc (Decimal.notMem (by decide))
  have hd : a.text.dropWhile isBlank = a.text :=
    (dropWhile_eq_self_iff _).mpr fun c hc => hb c (List.mem_of_mem_head? hc)
  rw [trim, hd]
  exact (rdropWhile_eq_self_iff _).mpr fun c hc => hb c (List.mem_of_mem_getLast? hc)

theorem Decimal.readDouble_text : readDouble stod a.text = .ok a.value := by
  rw [readDouble, Decimal.trim_text, a.exact]

theorem parsePair_text (hsp : isSpaceOrTab opening = false) (hm : isDecimalChar middle = false)
    (hc : isDecimalChar closing = false) :
    parsePair stod opening middle closing (pairText opening middle closing a b rest) =
      .ok ((a.value, b.value), rest) := by
  have hskip : skipWs (pairText opening middle closing a b rest) =
      opening :: (a.text ++ middle :: (b.text ++ closing :: rest)) := by
    rw [pairText, skipWs_SP]
    exact skipWs_of_head (by simpa using hsp)
  rw [parsePair, hskip]
  simp [consumeChar, upTo_append (Decimal.notMem hm), upTo_append (Decimal.notMem hc),
    Decimal.readDouble_text, bind, Except.bind, pure, Except.pure]

theorem parseStartBitAndLength_text :
    parseStartBitAndLength (COLON :: SP :: (baseDigits 10 s.startBit ++ 124 ::
      (baseDigits 10 s.bitLength ++ 64 :: s.orderChar :: s.signChar :: rest))) =
      .ok (⟨s.startBit, s.bitLength, s.byteOrder, s.isSigned⟩, rest) := by
  have horder : (if s.orderChar = 48 then DBCByteOrder.Motorola else .Intel) = s.byteOrder := by
    unfold SignalText.orderChar
    cases s.byteOrder <;> rfl
  have hsign : decide (s.signChar = 45) = s.isSigned := by
    unfold SignalText.signChar
    cases s.isSigned <;> rfl
  rw [parseStartBitAndLength]
  simp [consumeChar, skipWs_SP, skipWs_digits, upTo_append (digits_ne (show isDigit 10 124 = false
    by decide)), upTo_append (digits_ne (show isDigit 10 64 = false by decide)),
    readSize_digits s.startBit_lt, readSize_digits s.bitLength_lt, horder, hsign,
    bind, Except.bind, pure, Except.pure]

theorem parseUnit_text : parseUnit (SP :: 34 :: (s.unit ++ 34 :: rest)) = s.unit := by
  have hquote : (34 : Byte) ∉ s.unit := fun h => (s.unit_quotable 34 h).1 rfl
  rw [parseUnit, skipWs_SP, skipWs_of_head (by simp; decide)]
  simp [cutAt_append_cons hquote]

/-- The line of a signal without its node, which the parser does not read. -/
theorem parseSignalDefinition_text {text : Bytes} (canId : ℕ) (hn : s.mark ≠ none → s.name ≠ [])
    (h : text = ascii "SG_" ++ SP :: (s.name ++ SP :: (s.markText ++ COLON :: SP ::
      (baseDigits 10 s.startBit ++ 124 :: (baseDigits 10 s.bitLength ++ 64 :: s.orderChar ::
        s.signChar :: pairText 40 44 41 s.scale s.offset (pairText 91 124 93 s.min s.max
          (SP :: 34 :: (s.unit ++ 34 :: rest)))))))) :
    parseSignalDefinition stod text canId = .ok (s.definition canId []) := by
  have hpos : findStr (ascii "SG_") text = some 0 := by
    rw [h]
    exact if_pos (List.isPrefixOf_iff_prefix.mpr (List.prefix_append _ _))
  have hdrop : text.drop 3 = SP :: (s.name ++ SP :: (s.markText ++ COLON :: SP ::
      (baseDigits 10 s.startBit ++ 124 :: (baseDigits 10 s.bitLength ++ 64 :: s.orderChar ::
        s.signChar :: pairText 40 44 41 s.scale s.offset (pairText 91 124 93 s.min s.max
          (SP :: 34 :: (s.unit ++ 34 :: rest))))))) := by
    rw [h]
    rfl
  rw [parseSignalDefinition, hpos]
  simp only [Nat.zero_add, hdrop, parseNameAndMultiplexor_text hn,
    parseStartBitAndLength_text, parseScaleOffset, parseMinMax, bind, Except.bind]
  rw [parsePair_text (by decide) (by decide) (by decide)]
  dsimp only
  rw [parsePair_text (by decide) (by decide) (by decide)]
  dsimp only
  rw [parseUnit_text]
  rfl

end Signal

section Values

variable {v : ValueText} {vs : List ValueText} {s : SignalText stod} {m : MessageText stod}
  {rest text : Bytes} {n : ℕ}

theorem decimal_notSpace (k : ℤ) : ∀ c ∈ decimal k, isSpaceOrTab c = false := by
  intro c hc
  cases hs : isSpaceOrTab c with
  | false => rfl
  | true =>
    rw [isSpaceOrTab, Bool.or_eq_true, beq_iff_eq, beq_iff_eq] at hs
    rcases hs with rfl | rfl <;> exact absurd hc (notMem_decimal (by decide) (by decide) k)

/-- A word up to the next white space. -/
theorem takeWhile_word (rest : Bytes) (h : ∀ c ∈ text, isSpaceOrTab c = false) :
    (text ++ SP :: rest).takeWhile (!isSpaceOrTab ·) = text ∧
      (text ++ SP :: rest).dropWhile (!isSpaceOrTab ·) = SP :: rest := by
  have hw : ∀ c ∈ text, (!isSpaceOrTab c) = true := fun c hc => by simp [h c hc]
  rw [List.takeWhile_append_of_pos hw, List.dropWhile_append_of_pos hw,
    List.takeWhile_cons_of_neg (by decide), List.dropWhile_cons_of_neg (by decide), List.append_nil]
  exact ⟨rfl, rfl⟩

theorem parseOneValueEntry_text : parseOneValueEntry (v.text rest) = some (v.entry, rest) := by
  obtain ⟨htake, hdrop⟩ := takeWhile_word (34 :: (v.entry.description ++ 34 :: rest))
    (decimal_notSpace v.entry.value)
  have hstart : (v.text rest).dropWhile (fun c => isSpaceOrTab c || c = 59) =
      decimal v.entry.value ++ SP :: 34 :: (v.entry.description ++ 34 :: rest) := by
    rw [ValueText.text, List.dropWhile_cons_of_pos (by decide)]
    apply (dropWhile_eq_self_iff _).mpr
    rw [List.head?_append_of_ne_nil _ (decimal_ne_nil _)]
    intro c hc
    have hm := List.mem_of_mem_head? hc
    have hsemi : c ≠ 59 := by
      rintro rfl
      exact notMem_decimal (by decide) (by decide) _ hm
    simp [decimal_notSpace _ c hm, hsemi]
  have hlabel : (34 : Byte) ∉ v.entry.description := fun h => (v.label 34 h).1 rfl
  have hquote : skipWs (SP :: 34 :: (v.entry.description ++ 34 :: rest)) =
      34 :: (v.entry.description ++ 34 :: rest) := by
    rw [skipWs_SP]
    exact skipWs_of_head (by simp; decide)
  rw [parseOneValueEntry]
  simp only [hstart, htake, hdrop, hquote, fromCharsSigned_decimal v.value_ge v.value_lt,
    cutAt_append_cons hlabel, Option.bind_eq_bind, Option.bind_some]
  rfl

theorem parseValueEntries_text (h : vs.length ≤ n) :
    parseValueEntries n (vs.foldr ValueText.text [SP, 59]) = vs.map (·.entry) := by
  induction vs generalizing n with
  | nil =>
    cases n with
    | zero => rfl
    | succ n => rfl
  | cons v vs ih =>
    obtain ⟨n, rfl⟩ : ∃ k, n = k + 1 := ⟨n - 1, by rw [List.length_cons] at h; omega⟩
    rw [List.foldr_cons, parseValueEntries, parseOneValueEntry_text]
    dsimp only
    rw [ih (by rw [List.length_cons] at h; omega), List.map_cons]

theorem dropWhile_skipWs :
    (skipWs text).dropWhile (fun c => isSpaceOrTab c || c = 59) =
      text.dropWhile (fun c => isSpaceOrTab c || c = 59) := by
  induction text with
  | nil => rfl
  | cons c text ih =>
    by_cases hc : isSpaceOrTab c = true
    · rw [skipWs, List.dropWhile_cons_of_pos hc, List.dropWhile_cons_of_pos (by simp [hc])]
      exact ih
    · rw [skipWs_of_head (by simpa using hc)]

theorem parseValueEntries_skipWs :
    parseValueEntries n (skipWs text) = parseValueEntries n text := by
  cases n with
  | zero => rfl
  | succ n => simp only [parseValueEntries, parseOneValueEntry, dropWhile_skipWs]

theorem length_le_entries (vs : List ValueText) :
    vs.length ≤ (vs.foldr ValueText.text [SP, 59]).length := by
  induction vs with
  | nil => exact Nat.zero_le _
  | cons v vs ih =>
    rw [List.foldr_cons, ValueText.text]
    simp only [List.length_cons, List.length_append]
    omega

/-- There is a character for each entry, also without the first blank. -/
theorem length_le_skipWs : vs.length ≤ (skipWs (vs.foldr ValueText.text [SP, 59])).length := by
  cases vs with
  | nil => exact Nat.zero_le _
  | cons v vs =>
    have hle := length_le_entries vs
    rw [List.foldr_cons, ValueText.text, skipWs_SP,
      skipWs_append (decimal_ne_nil _) (decimal_notSpace _)]
    simp only [List.length_cons, List.length_append]
    omega

/-- The printed entries begin with a blank. -/
theorem entries_head (vs : List ValueText) : ∃ t, vs.foldr ValueText.text [SP, 59] = SP :: t := by
  cases vs with
  | nil => exact ⟨_, rfl⟩
  | cons v vs => exact ⟨_, rfl⟩

theorem parseTrailingUint16_text (h : n < 2 ^ 16) :
    parseTrailingUint16 (baseDigits 10 n ++ SP :: rest) = (some n, SP :: rest) := by
  obtain ⟨htake, hdrop⟩ := takeWhile_word rest (digits_notSpace n)
  rw [parseTrailingUint16, skipWs_digits]
  simp only [htake, hdrop, fromChars_baseDigits (show 1 < 10 by decide) (by decide) h]

theorem parseBoLine_text : parseBoLine (ascii "BO_" ++ SP :: (baseDigits 10 m.id ++ SP :: rest)) =
    some m.id := by
  have hcut : cutAt SP ((ascii "BO_" ++ SP :: (baseDigits 10 m.id ++ SP :: rest)).drop 3) =
      some ([], baseDigits 10 m.id ++ SP :: rest) :=
    cutAt_append_cons (s := []) (by simp)
  rw [parseBoLine, hcut]
  simp only [Option.bind_eq_bind, Option.bind_some, parseTrailingUint16_text m.id_lt]

theorem valueTable_eq : (Line.values m s).valueTable =
    if s.entries = [] then none else some ⟨m.id, s.name, s.entries⟩ := by
  simp [Line.valueTable, SignalText.entries]

theorem parseValLine_text (hn : s.table ≠ [] → s.name ≠ []) :
    parseValLine (Line.valuesText m s) = (Line.values m s).valueTable := by
  have hcut : cutAt SP ((Line.valuesText m s).drop 4) = some ([], baseDigits 10 m.id ++ SP ::
      (s.name ++ s.table.foldr ValueText.text [SP, 59])) :=
    cutAt_append_cons (s := []) (by simp)
  rw [parseValLine, hcut]
  simp only [Option.bind_eq_bind, Option.bind_some, parseTrailingUint16_text m.id_lt, skipWs_SP]
  by_cases hne : s.name = []
  · have htable : s.table = [] := not_not.mp fun ht => hn ht hne
    rw [valueTable_eq, SignalText.entries, hne, htable]
    rfl
  · have hword : ∀ c ∈ s.name, isSpaceOrTab c = false := fun c hc =>
      notSpace_of_notBlank (isNameChar_iff (s.name_chars c hc)).1
    obtain ⟨t, ht⟩ := entries_head s.table
    rw [skipWs_append hne hword, ht, (takeWhile_word t hword).1, (takeWhile_word t hword).2, ← ht,
      parseValueEntries_skipWs, parseValueEntries_text length_le_skipWs, valueTable_eq]
    rfl

end Values

section Lines

variable {s : SignalText stod} {m : MessageText stod} {l : Line stod} {indent : Bytes}

/-- What a line says to the parser. -/
def Line.apply (st : ParserState D) : Line stod → ParserState D
  | .message m => { st with currentCanId := m.id }
  | .signal s =>
    if st.currentCanId = 0 then st
    else { st with signals := st.signals ++ [s.definition st.currentCanId []] }
  | .values m s => { st with valueTables := st.valueTables ++ (values m s).valueTable.toList }

theorem dropWhile_indent {text : Bytes} (hi : ∀ c ∈ indent, isSpaceOrTab c = true)
    (h : ∀ c ∈ text.head?, isBlank c = false) : (indent ++ text).dropWhile isBlank = text := by
  have hb : ∀ c ∈ indent, isBlank c = true := by
    intro c hc
    have hs := hi c hc
    simp only [isSpaceOrTab, Bool.or_eq_true] at hs
    simp only [isBlank, Bool.or_eq_true]
    exact Or.inl (Or.inl hs)
  rw [List.dropWhile_append_of_pos hb]
  exact (dropWhile_eq_self_iff _).mpr h

/-- Trimming a printed line takes its indentation, and blanks behind its last mark. -/
theorem trim_line {u v : Bytes} {c : Byte} (hi : ∀ c ∈ indent, isSpaceOrTab c = true)
    (hu : ∀ c ∈ u.head?, isBlank c = false) (hc : isBlank c = false) :
    trim (indent ++ (u ++ c :: v)) = u ++ c :: v.rdropWhile isBlank := by
  rw [← List.append_assoc, trim_append_cons hc, dropWhile_indent hi hu]

theorem startsWith_append (p s : Bytes) : startsWith p (p ++ s) = true :=
  startsWith_iff.mpr (List.prefix_append p s)

theorem trim_message (hi : ∀ c ∈ indent, isSpaceOrTab c = true) :
    ∃ rest, trim (indent ++ Line.messageText m) =
      ascii "BO_" ++ SP :: (baseDigits 10 m.id ++ SP :: rest) := by
  have hsplit : Line.messageText m = (ascii "BO_" ++ SP :: (baseDigits 10 m.id ++ SP :: m.name)) ++
      COLON :: SP :: (baseDigits 10 m.dlc ++ SP :: m.node) := by
    simp [Line.messageText]
  rw [hsplit, trim_line hi (by simp [ascii]; decide) (by decide)]
  exact ⟨m.name ++ COLON :: (SP :: (baseDigits 10 m.dlc ++ SP :: m.node)).rdropWhile isBlank,
    by simp⟩

theorem trim_signal (hi : ∀ c ∈ indent, isSpaceOrTab c = true) :
    ∃ rest, trim (indent ++ Line.signalText s) =
      ascii "SG_" ++ SP :: (s.name ++ SP :: (s.markText ++ COLON :: SP ::
        (baseDigits 10 s.startBit ++ 124 :: (baseDigits 10 s.bitLength ++ 64 :: s.orderChar ::
          s.signChar :: pairText 40 44 41 s.scale s.offset (pairText 91 124 93 s.min s.max
            (SP :: 34 :: (s.unit ++ 34 :: rest))))))) := by
  have hsplit : Line.signalText s = (ascii "SG_" ++ SP :: (s.name ++ SP :: (s.markText ++ COLON ::
      SP :: (baseDigits 10 s.startBit ++ 124 :: (baseDigits 10 s.bitLength ++ 64 :: s.orderChar ::
        s.signChar :: pairText 40 44 41 s.scale s.offset (pairText 91 124 93 s.min s.max
          (SP :: 34 :: s.unit))))))) ++ 34 :: SP :: s.node := by
    simp [Line.signalText, pairText]
  rw [hsplit, trim_line hi (by simp [ascii]; decide) (by decide)]
  exact ⟨_, by simp [pairText]; rfl⟩

theorem foldr_text_append (vs : List ValueText) (u v : Bytes) :
    vs.foldr ValueText.text (u ++ v) = vs.foldr ValueText.text u ++ v := by
  induction vs with
  | nil => rfl
  | cons w vs ih =>
    rw [List.foldr_cons, ih, List.foldr_cons]
    simp [ValueText.text]

theorem trim_values (hi : ∀ c ∈ indent, isSpaceOrTab c = true) :
    trim (indent ++ Line.valuesText m s) = Line.valuesText m s := by
  have hsplit : Line.valuesText m s = (ascii "VAL_" ++ SP :: (baseDigits 10 m.id ++ SP ::
      (s.name ++ s.table.foldr ValueText.text [SP]))) ++ 59 :: [] := by
    have hend := foldr_text_append s.table [SP] [59]
    rw [Line.valuesText, show [SP, 59] = [SP] ++ [59] from rfl, hend]
    simp
  rw [hsplit, trim_line hi (by simp [ascii]; decide) (by decide)]
  rfl

/-- A line says to the parser what it was printed for. -/
theorem parseLine_text (hi : ∀ c ∈ indent, isSpaceOrTab c = true) (hn : l.Named) :
    DBCFileParser.parseLine stod st (trim (indent ++ l.text)) = .ok (l.apply st) := by
  unfold DBCFileParser.parseLine DBCFileParser.isBo DBCFileParser.isSg
  cases l with
  | message m =>
    obtain ⟨rest, ht⟩ := trim_message (m := m) hi
    rw [Line.text, ht, if_pos (startsWith_append _ _), parseBoLine_text]
    rfl
  | signal s =>
    obtain ⟨rest, ht⟩ := trim_signal (s := s) hi
    rw [Line.text, ht, if_neg (by exact Bool.false_ne_true), if_pos (startsWith_append _ _),
      parseSignalDefinition_text _ hn rfl, Line.apply]
    split <;> rfl
  | values m s =>
    rw [Line.text, trim_values hi, parseValLine_text hn,
      if_neg (by exact Bool.false_ne_true), if_neg (by exact Bool.false_ne_true),
      if_pos (show startsWith _ (Line.valuesText m s) = true from startsWith_append _ _),
      Line.apply]
    cases (Line.values m s).valueTable with
    | none => simp
    | some table => rfl

theorem trim_text_ne_nil (hi : ∀ c ∈ indent, isSpaceOrTab c = true) :
    trim (indent ++ l.text) ≠ [] := by
  cases l with
  | message m =>
    obtain ⟨rest, ht⟩ := trim_message (m := m) hi
    rw [Line.text, ht]
    exact List.cons_ne_nil _ _
  | signal s =>
    obtain ⟨rest, ht⟩ := trim_signal (s := s) hi
    rw [Line.text, ht]
    exact List.cons_ne_nil _ _
  | values m s =>
    rw [Line.text, trim_values hi]
    exact List.cons_ne_nil _ _

section LineFeed

theorem OneLine.notMem {text : Bytes} (h : OneLine text) : LF ∉ text := fun hm =>
  absurd (h LF hm) (by decide)

theorem Quotable.notMem {text : Bytes} (h : Quotable text) : LF ∉ text := fun hm =>
  absurd (h LF hm).2 (by decide)

theorem notMem_digits (n : ℕ) : LF ∉ baseDigits 10 n := digits_ne (by decide)

theorem notMem_name : LF ∉ s.name := fun h =>
  absurd (isNameChar_iff (s.name_chars LF h)).1 (by decide)

theorem notMem_markText : LF ∉ s.markText := by
  unfold SignalText.markText
  cases s.mark with
  | none => exact List.not_mem_nil
  | some mark =>
    cases mark with
    | multiplexor => decide
    | multiplexed digits hall =>
      have hd : LF ∉ digits := fun h => absurd (hall LF h) (by decide)
      simp [Mark.text, hd]
      decide

theorem notMem_entries (vs : List ValueText) : LF ∉ vs.foldr ValueText.text [SP, 59] := by
  induction vs with
  | nil => decide
  | cons v vs ih =>
    have hk : LF ∉ decimal v.entry.value := notMem_decimal (by decide) (by decide) _
    have hl := v.label.notMem
    rw [List.foldr_cons, ValueText.text]
    simp [ih, hk, hl]
    decide

/-- Nothing that is printed breaks its line. -/
theorem notMem_text : LF ∉ l.text := by
  cases l with
  | message m =>
    simp [Line.text, Line.messageText, notMem_digits, m.name_oneLine.notMem,
      m.node_oneLine.notMem]
    decide
  | signal s =>
    have hd : ∀ a : Decimal stod, LF ∉ a.text := fun a => Decimal.notMem (by decide)
    have ho : LF ≠ s.orderChar := by unfold SignalText.orderChar; cases s.byteOrder <;> decide
    have hs : LF ≠ s.signChar := by unfold SignalText.signChar; cases s.isSigned <;> decide
    simp [Line.text, Line.signalText, pairText, notMem_digits, notMem_name, notMem_markText, hd, ho,
      hs, s.unit_quotable.notMem, s.node_oneLine.notMem]
    decide
  | values m s =>
    simp [Line.text, Line.valuesText, notMem_digits, notMem_name, notMem_entries]
    decide

end LineFeed

end Lines

section State

variable {ls : List (Line stod)} {ms : List (MessageText stod)} {st st' : ParserState D}

theorem valueTables_foldl : (ls.foldl Line.apply st).valueTables =
    st.valueTables ++ ls.filterMap Line.valueTable := by
  induction ls generalizing st with
  | nil => simp
  | cons l ls ih =>
    rw [List.foldl_cons, ih]
    cases l with
    | message m => rfl
    | signal s =>
      rw [Line.apply]
      split <;> rfl
    | values m s =>
      cases h : (Line.values m s).valueTable with
      | none => simp [Line.apply, h]
      | some table => simp [Line.apply, h]

/-- The lines of the value tables do not concern the signals. -/
theorem signals_foldl (ls : List (Line stod)) (st st' : ParserState D)
    (hc : st.currentCanId = st'.currentCanId) (hs : st.signals = st'.signals) :
    (ls.foldl Line.apply st).signals =
      ((ls.filter (!·.isValues)).foldl Line.apply st').signals := by
  induction ls generalizing st st' with
  | nil => exact hs
  | cons l ls ih =>
    rw [List.foldl_cons]
    cases l with
    | message m =>
      rw [List.filter_cons_of_pos rfl, List.foldl_cons]
      exact ih _ _ rfl hs
    | signal s =>
      rw [List.filter_cons_of_pos rfl, List.foldl_cons]
      apply ih
      · simp only [Line.apply, hc]
        split
        · exact hc
        · rfl
      · simp only [Line.apply, hc, hs]
        split
        · exact hs
        · rfl
    | values m s =>
      rw [List.filter_cons_of_neg (by exact Bool.false_ne_true)]
      exact ih _ _ hc hs

theorem foldl_signals (st : ParserState D) {signals : List (SignalText stod)}
    (h : st.currentCanId ≠ 0) :
    (signals.map Line.signal).foldl Line.apply st =
      { st with signals := st.signals ++ signals.map (·.definition st.currentCanId []) } := by
  induction signals generalizing st with
  | nil => simp
  | cons s signals ih =>
    rw [List.map_cons, List.foldl_cons, Line.apply, if_neg h]
    have h' : ({ st with signals := st.signals ++ [s.definition st.currentCanId []] } :
        ParserState D).currentCanId ≠ 0 := h
    rw [ih _ h']
    simp

/-- The definitions of a message take its id, which is not zero. -/
theorem foldl_messages : ((ms.flatMap (·.lines)).foldl Line.apply st).signals =
    st.signals ++ ms.flatMap fun m => m.signals.map (·.definition m.id []) := by
  induction ms generalizing st with
  | nil => simp
  | cons m ms ih =>
    rw [List.flatMap_cons, List.foldl_append, ih, MessageText.lines, List.foldl_cons, Line.apply,
      foldl_signals _ m.id_pos.ne', List.flatMap_cons, List.append_assoc]

end State

section Tables

variable {sig : DBCSignalDefinition D} {signals : List (DBCSignalDefinition D)}
  {table : ValueTable} {tables : List ValueTable} {entries : List DBCValueEntry}

/-- The table is that of the signal. -/
def Matches (table : ValueTable) (sig : DBCSignalDefinition D) : Prop :=
  sig.canId = table.canId ∧ sig.name = table.signalName

instance (table : ValueTable) (sig : DBCSignalDefinition D) : Decidable (Matches table sig) :=
  inferInstanceAs (Decidable (_ ∧ _))

def withTable (sig : DBCSignalDefinition D) (table : ValueTable) : DBCSignalDefinition D :=
  if Matches table sig then { sig with valueTable := table.entries } else sig

def signalKey (sig : DBCSignalDefinition D) : ℕ × Bytes := (sig.canId, sig.name)

theorem matches_iff : Matches table sig ↔ signalKey sig = (table.canId, table.signalName) := by
  simp [Matches, signalKey]

@[simp] theorem signalKey_withTable : signalKey (withTable sig table) = signalKey sig := by
  unfold withTable
  split <;> rfl

/-- Where no two signals have one key, a table goes to the signal that it matches. -/
theorem applyValueTable_eq (h : (signals.map signalKey).Nodup) :
    applyValueTable signals table = signals.map (withTable · table) := by
  induction signals with
  | nil => rfl
  | cons sig signals ih =>
    obtain ⟨hsig, hsignals⟩ := List.nodup_cons.mp h
    rw [applyValueTable, List.map_cons]
    by_cases hm : Matches table sig
    · have hrest : ∀ other ∈ signals, withTable other table = other := by
        intro other ho
        apply if_neg
        rw [matches_iff, ← matches_iff.mp hm]
        exact fun he => hsig (he ▸ List.mem_map_of_mem ho)
      rw [if_pos (And.intro hm.1 hm.2), withTable, if_pos hm, List.map_congr_left hrest,
        List.map_id']
    · rw [if_neg (show ¬ (sig.canId = table.canId ∧ sig.name = table.signalName) from hm),
        withTable, if_neg hm, ih hsignals]

theorem foldl_applyValueTable (h : (signals.map signalKey).Nodup) :
    tables.foldl applyValueTable signals =
      signals.map fun sig => tables.foldl withTable sig := by
  induction tables generalizing signals with
  | nil => simp
  | cons table tables ih =>
    have hkeys : (signals.map (withTable · table)).map signalKey = signals.map signalKey := by
      simp [Function.comp_def]
    rw [List.foldl_cons, applyValueTable_eq h, ih (hkeys ▸ h), List.map_map]
    rfl

/-- If every table of a signal has the same entries, the signal keeps them once it has them. -/
theorem foldl_withTable_of_eq (h : ∀ t ∈ tables, Matches t sig → t.entries = sig.valueTable) :
    tables.foldl withTable sig = sig := by
  induction tables with
  | nil => rfl
  | cons table tables ih =>
    have hone : withTable sig table = sig := by
      unfold withTable
      split
      · next hm => rw [h table List.mem_cons_self hm]
      · rfl
    rw [List.foldl_cons, hone]
    exact ih fun t ht => h t (List.mem_cons_of_mem _ ht)

theorem foldl_withTable (hex : ∃ t ∈ tables, Matches t sig)
    (h : ∀ t ∈ tables, Matches t sig → t.entries = entries) :
    tables.foldl withTable sig = { sig with valueTable := entries } := by
  induction tables with
  | nil =>
    obtain ⟨t, ht, -⟩ := hex
    cases ht
  | cons table tables ih =>
    rw [List.foldl_cons, withTable]
    have htail : ∀ t ∈ tables, Matches t sig → t.entries = entries := fun t ht =>
      h t (List.mem_cons_of_mem _ ht)
    by_cases hm : Matches table sig
    · rw [if_pos hm, h table List.mem_cons_self hm]
      exact foldl_withTable_of_eq htail
    · rw [if_neg hm]
      obtain ⟨t, ht, htm⟩ := hex
      rcases List.mem_cons.mp ht with rfl | ht
      · exact absurd htm hm
      · exact ih ⟨t, ht, htm⟩ htail

end Tables

section Groups

variable {result : DBCParseResult D} {defs : List (DBCSignalDefinition D)} {id : ℕ}

theorem addSignal_new {sig : DBCSignalDefinition D} (h : sig.canId ∉ result.map Prod.fst) :
    addSignal result sig = result ++ [(sig.canId, [sig])] := by
  induction result with
  | nil => rfl
  | cons entry result ih =>
    rw [List.map_cons, List.mem_cons, not_or] at h
    rw [addSignal, if_neg (Ne.symm h.1), ih h.2, List.cons_append]

theorem addSignal_last {sig : DBCSignalDefinition D} (h : sig.canId ∉ result.map Prod.fst) :
    addSignal (result ++ [(sig.canId, defs)]) sig = result ++ [(sig.canId, defs ++ [sig])] := by
  induction result with
  | nil => simp [addSignal]
  | cons entry result ih =>
    rw [List.map_cons, List.mem_cons, not_or] at h
    rw [List.cons_append, addSignal, if_neg (Ne.symm h.1), ih h.2, List.cons_append]

/-- The definitions of one id stay together, in order. -/
theorem foldl_addSignal_group (hid : ∀ sig ∈ defs, sig.canId = id)
    (h : id ∉ result.map Prod.fst) (hne : defs ≠ []) :
    defs.foldl addSignal result = result ++ [(id, defs)] := by
  induction defs using List.reverseRecOn with
  | nil => exact absurd rfl hne
  | append_singleton defs sig ih =>
    obtain rfl := hid sig (by simp)
    rw [List.foldl_append, List.foldl_cons, List.foldl_nil]
    by_cases hd : defs = []
    · subst hd
      exact addSignal_new h
    · rw [ih (fun other ho => hid other (List.mem_append_left _ ho)) hd, addSignal_last h]

theorem foldl_addSignal_messages {ms : List (MessageText stod)}
    (hids : (ms.map (·.id)).Nodup) (h : ∀ m ∈ ms, m.id ∉ result.map Prod.fst) :
    (ms.flatMap (·.definitions)).foldl addSignal result =
      result ++ (ms.filter (·.signals ≠ [])).map fun m => (m.id, m.definitions) := by
  induction ms generalizing result with
  | nil => simp
  | cons m ms ih =>
    obtain ⟨hm, hms⟩ := List.nodup_cons.mp hids
    rw [List.flatMap_cons, List.foldl_append]
    by_cases hs : m.signals = []
    · have hd : m.definitions = [] := by rw [MessageText.definitions, hs, List.map_nil]
      rw [hd, List.foldl_nil, List.filter_cons_of_neg (by simp [hs]),
        ih hms fun m' hm' => h m' (List.mem_cons_of_mem _ hm')]
    · have hd : m.definitions ≠ [] := by simpa [MessageText.definitions] using hs
      have hid : ∀ sig ∈ m.definitions, sig.canId = m.id := by
        intro sig hsig
        obtain ⟨s, -, rfl⟩ := List.mem_map.mp hsig
        rfl
      rw [foldl_addSignal_group hid (h m List.mem_cons_self) hd,
        List.filter_cons_of_pos (by simp [hs]), ih hms, List.map_cons, List.append_assoc]
      · rfl
      · intro m' hm' hmem
        rw [List.map_append, List.mem_append] at hmem
        rcases hmem with hmem | hmem
        · exact h m' (List.mem_cons_of_mem _ hm') hmem
        · rw [List.map_singleton, List.mem_singleton] at hmem
          exact hm (List.mem_map.mpr ⟨m', hm', hmem⟩)

end Groups

namespace Document

variable {doc : Document stod}

theorem trimmedLines_text : DBCFileParser.trimmedLines doc.text =
    doc.lines.map fun l => trim (l.1 ++ l.2.text) := by
  have hfree : ∀ v ∈ doc.lines.map fun l => l.1 ++ l.2.text, ∀ c ∈ v, (c == LF) = false := by
    intro v hv c hc
    obtain ⟨l, hl, rfl⟩ := List.mem_map.mp hv
    rw [beq_eq_false_iff_ne]
    rintro rfl
    rcases List.mem_append.mp hc with hc | hc
    · exact absurd (doc.indentation l hl LF hc) (by decide)
    · exact notMem_text hc
  have hsplit : doc.text.splitOnP (· == LF) = (doc.lines.map fun l => l.1 ++ l.2.text) ++ [[]] := by
    rw [← segments_append_remainder, text]
    have hs := segments_flatMap (c := LF) (p := (· == LF)) (beq_self_eq_true LF) hfree []
    have hr := remainder_flatMap (c := LF) (p := (· == LF)) (beq_self_eq_true LF) hfree []
    rw [List.append_nil] at hs hr
    rw [hs, hr]
    simp [remainder]
  rw [DBCFileParser.trimmedLines, hsplit, List.map_append, List.filter_append, List.map_map,
    List.filter_eq_self.mpr, show ([[]].map trim).filter (· ≠ []) = [] from rfl, List.append_nil]
  · rfl
  · intro t ht
    obtain ⟨l, hl, rfl⟩ := List.mem_map.mp ht
    simpa using trim_text_ne_nil (doc.indentation l hl)

theorem foldlM_lines (st : ParserState D) {ls : List (Bytes × Line stod)}
    (hi : ∀ l ∈ ls, ∀ c ∈ l.1, isSpaceOrTab c = true) (hn : ∀ l ∈ ls, l.2.Named) :
    (ls.map fun l => trim (l.1 ++ l.2.text)).foldlM (DBCFileParser.parseLine stod) st =
      .ok ((ls.map Prod.snd).foldl Line.apply st) := by
  induction ls generalizing st with
  | nil => rfl
  | cons l ls ih =>
    rw [List.map_cons, List.foldlM_cons, parseLine_text (hi l List.mem_cons_self)
      (hn l List.mem_cons_self)]
    exact ih _ (fun l' hl' => hi l' (List.mem_cons_of_mem _ hl'))
      fun l' hl' => hn l' (List.mem_cons_of_mem _ hl')

theorem mem_values {t : ValueTable} :
    t ∈ (doc.lines.map Prod.snd).filterMap Line.valueTable ↔
      ∃ m ∈ doc.messages, ∃ s ∈ m.signals, (Line.values m s).valueTable = some t := by
  rw [doc.values.mem_iff]
  simp [MessageText.valueTables]

/-- A table that matches a signal of the document is the signal's own. -/
theorem entries_eq {t : ValueTable} {m : MessageText stod} {s : SignalText stod}
    (ht : t ∈ (doc.lines.map Prod.snd).filterMap Line.valueTable) (hm : m ∈ doc.messages)
    (hs : s ∈ m.signals) (hmatch : Matches t (s.definition m.id [])) : t.entries = s.entries := by
  obtain ⟨m', hm', s', hs', hv⟩ := mem_values.mp ht
  rw [valueTable_eq] at hv
  split at hv
  · cases hv
  · obtain rfl := Option.some.inj hv
    obtain rfl : m = m' := List.inj_on_of_nodup_map doc.ids_nodup hm hm' hmatch.1
    obtain rfl : s = s' := List.inj_on_of_nodup_map m.names_nodup hs hs' hmatch.2
    rfl

/-- The tables of the document give each signal its own. -/
theorem foldl_withTable_definition {m : MessageText stod} {s : SignalText stod}
    (hm : m ∈ doc.messages) (hs : s ∈ m.signals) :
    ((doc.lines.map Prod.snd).filterMap Line.valueTable).foldl withTable (s.definition m.id []) =
      s.definition m.id s.entries := by
  have hall : ∀ t ∈ (doc.lines.map Prod.snd).filterMap Line.valueTable,
      Matches t (s.definition m.id []) → t.entries = s.entries :=
    fun t ht => entries_eq ht hm hs
  by_cases he : s.entries = []
  · rw [he]
    rw [he] at hall
    exact foldl_withTable_of_eq hall
  · refine foldl_withTable ⟨⟨m.id, s.name, s.entries⟩, ?_, rfl, rfl⟩ hall
    refine mem_values.mpr ⟨m, hm, s, hs, ?_⟩
    rw [valueTable_eq, if_neg he]

/-- The definitions that the lines of the document give, before the tables are applied. -/
def plainDefinitions (doc : Document stod) : List (DBCSignalDefinition D) :=
  doc.messages.flatMap fun m => m.signals.map (·.definition m.id [])

theorem nodup_keys (doc : Document stod) : (doc.plainDefinitions.map signalKey).Nodup := by
  rw [plainDefinitions, List.map_flatMap, List.nodup_flatMap]
  constructor
  · intro m _
    have hkeys : (m.signals.map (·.definition m.id [])).map signalKey =
        (m.signals.map (·.name)).map (Prod.mk m.id) := by
      simp [signalKey, SignalText.definition, Function.comp_def]
    rw [hkeys]
    exact m.names_nodup.map (Prod.mk_right_injective m.id)
  · refine (List.pairwise_map.mp doc.ids_nodup).imp ?_
    intro m m' hne key hk hk'
    have hid : ∀ n : MessageText stod, key ∈ (n.signals.map (·.definition n.id [])).map signalKey →
        key.1 = n.id := by
      intro n hn
      obtain ⟨sig, hsig, rfl⟩ := List.mem_map.mp hn
      obtain ⟨s, -, rfl⟩ := List.mem_map.mp hsig
      rfl
    exact hne ((hid m hk).symm.trans (hid m' hk'))

/-- The tables make of the definitions of the lines those of the messages. -/
theorem foldl_tables (doc : Document stod) :
    ((doc.lines.map Prod.snd).filterMap Line.valueTable).foldl applyValueTable
      doc.plainDefinitions = doc.messages.flatMap (·.definitions) := by
  rw [foldl_applyValueTable doc.nodup_keys, plainDefinitions, List.map_flatMap]
  refine List.flatMap_congr fun m hm => ?_
  rw [MessageText.definitions, List.map_map]
  exact List.map_congr_left fun s hs => foldl_withTable_definition hm hs

/-- What is printed is parsed: the definitions of each message, in order, each with its own
table, and nothing else. -/
theorem parseString_text {doc : Document stod} (hn : doc.Named) :
    DBCFileParser.parseString stod doc.text = doc.definitionsById := by
  have hsignals : ((doc.lines.map Prod.snd).foldl Line.apply {}).signals =
      doc.plainDefinitions := by
    rw [signals_foldl _ {} {} rfl rfl, doc.definitions, foldl_messages]
    rfl
  rw [DBCFileParser.parseString, trimmedLines_text, foldlM_lines {} doc.indentation hn]
  dsimp only
  rw [hsignals, valueTables_foldl]
  change (((doc.lines.map Prod.snd).filterMap Line.valueTable).foldl applyValueTable
    doc.plainDefinitions).foldl addSignal [] = doc.definitionsById
  rw [foldl_tables, foldl_addSignal_messages doc.ids_nodup (by simp)]
  rfl

section Samples

/-- A number without a fraction, for which the integer parser does what `std::stod` does. -/
def whole (text : String) (value : ℤ) (chars : ∀ c ∈ ascii text, isDecimalChar c = true)
    (exact : fromCharsSigned 64 (ascii text) = some value) : Decimal (fromCharsSigned 64) :=
  ⟨ascii text, value, chars, exact⟩

def one : Decimal (fromCharsSigned 64) := whole "1" 1 (by decide +kernel) (by decide +kernel)

def gear : SignalText (fromCharsSigned 64) where
  name := ascii "DI_gear"
  mark := some (.multiplexed (ascii "3") (by decide +kernel))
  startBit := 21
  bitLength := 3
  byteOrder := .Motorola
  isSigned := true
  scale := one
  offset := whole "-2" (-2) (by decide +kernel) (by decide +kernel)
  min := one
  max := one
  unit := ascii "km / h"
  node := ascii "DI ETH"
  table := [⟨⟨-1, ascii "SNA; no"⟩, by decide +kernel, by decide +kernel, by decide +kernel⟩,
    ⟨⟨4, ascii "D"⟩, by decide +kernel, by decide +kernel, by decide +kernel⟩]
  name_chars := by decide +kernel
  startBit_lt := by decide
  bitLength_lt := by decide
  unit_quotable := by decide +kernel
  node_oneLine := by decide +kernel

def pedal : SignalText (fromCharsSigned 64) :=
  { gear with
    name := ascii "DI_pedal", mark := none, byteOrder := .Intel, table := [],
    name_chars := by decide +kernel }

def status : MessageText (fromCharsSigned 64) where
  id := 280
  name := ascii "DI_systemStatus"
  dlc := 8
  node := ascii "DI"
  signals := [pedal, gear]
  id_pos := by decide
  id_lt := by decide
  name_oneLine := by decide +kernel
  node_oneLine := by decide +kernel
  names_nodup := by decide +kernel

/-- The value table stands above its message. -/
def tableFirst : Document (fromCharsSigned 64) where
  messages := [status]
  lines := [([SP], .values status gear), ([], .message status), ([SP, SP], .signal pedal),
    ([TAB], .signal gear)]
  ids_nodup := by decide +kernel
  indentation := by decide +kernel
  definitions := rfl
  values := .of_eq rfl

theorem parseString_tableFirst :
    DBCFileParser.parseString (fromCharsSigned 64) tableFirst.text = tableFirst.definitionsById :=
  parseString_text (by simp [Named, tableFirst, Line.Named, gear, pedal]; decide +kernel)

def nameless : SignalText (fromCharsSigned 64) :=
  { gear with name := [], mark := some .multiplexor, table := [], name_chars := by decide +kernel }

def multiplexed : MessageText (fromCharsSigned 64) :=
  { status with signals := [nameless], names_nodup := by decide +kernel }

/-- A multiplexor without a name. -/
def unnamed : Document (fromCharsSigned 64) where
  messages := [multiplexed]
  lines := [([], .message multiplexed), ([], .signal nameless)]
  ids_nodup := by decide +kernel
  indentation := by decide +kernel
  definitions := rfl
  values := .of_eq rfl

/-- The mark of a signal without a name is taken for its name. -/
theorem parseString_unnamed :
    DBCFileParser.parseString (fromCharsSigned 64) unnamed.text ≠ unnamed.definitionsById := by
  decide +kernel

end Samples

end Document

end VehicleSpy.Dbc
