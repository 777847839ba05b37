import VehicleSpy.Text.Numbers

/-! # Replies of an ELM327 adapter

The two parsers of the adapter's text: hexadecimal replies to OBD2 queries, and the
frame lines of CAN monitor mode. Neither depends on blanks around the text.
-/

namespace VehicleSpy.Ble.ELM327Transport

open Text

section Common

def isxdigit (c : Byte) : Bool := isDigit 16 c

def isspace (c : Byte) : Bool := c == SP || (9 ≤ c && c ≤ 13)

def hexCharToByte (c : Byte) : Byte :=
  if 48 ≤ c ∧ c ≤ 57 then c - 48
  else if 65 ≤ c ∧ c ≤ 70 then 10 + (c - 65)
  else if 97 ≤ c ∧ c ≤ 102 then 10 + (c - 97)
  else 0xFF

def joinNibbles (high low : Byte) : Byte := (high <<< 4) ||| low

def parseHexByte : Bytes → Option Byte
  | [h, l] =>
    if hexCharToByte h = 0xFF ∨ hexCharToByte l = 0xFF then none
    else some (joinNibbles (hexCharToByte h) (hexCharToByte l))
  | _ => none

end Common

section OBD2

def errorMessages : List Bytes :=
  [ascii "NO DATA", ascii "ERROR", ascii "STOPPED", ascii "UNABLE TO CONNECT",
    ascii "BUS ERROR", ascii "BUFFER FULL", ascii "CAN ERROR"]

def infoMessages : List Bytes := [ascii "SEARCHING", ascii "BUSINIT", ascii "OK"]

def isErrorMessage (s : Bytes) : Bool :=
  errorMessages.any fun e => (findStr e (s.map toupper)).isSome

def extractPrompt (response : Bytes) : Bytes := response.takeWhile (· ≠ PROMPT)

def isInfoSeparator (c : Byte) : Bool := c == 46 || c == COLON || isspace c

/-- Where the data begins behind a banner that ends at `k`. -/
def dataBehind (cleaned : Bytes) (k : ℕ) : ℕ :=
  k + ((cleaned.drop k).takeWhile isInfoSeparator).length

def infoStep (cleaned : Bytes) (dataStart : Option ℕ) (banner : Bytes) : Option ℕ :=
  match findStr banner cleaned with
  | some pos =>
    if dataStart.all (pos < ·) then some (dataBehind cleaned (pos + banner.length)) else dataStart
  | none => dataStart

/-- Strips the earliest banner; the banners cannot overlap, so their order does not matter. -/
def stripInfoPrefixes (cleaned : Bytes) : Bytes :=
  match infoMessages.foldl (infoStep cleaned) none with
  | some dataStart => cleaned.drop dataStart
  | none => cleaned

/-- The lone digit that stays, and the bytes of the digit pairs before it. -/
def flushHexAccumulator : Bytes → Bytes × Bytes
  | h :: l :: hexStr =>
    let r := flushHexAccumulator hexStr
    (r.1, joinNibbles (hexCharToByte h) (hexCharToByte l) :: r.2)
  | hexStr => (hexStr, [])

structure Accumulator where
  hexStr : Bytes := []
  result : Bytes := []

def Accumulator.flush (a : Accumulator) : Accumulator :=
  ⟨(flushHexAccumulator a.hexStr).1, a.result ++ (flushHexAccumulator a.hexStr).2⟩

def Accumulator.step (a : Accumulator) (c : Byte) : Accumulator :=
  if isxdigit c then { a with hexStr := a.hexStr ++ [toupper c] }
  else if c = COLON then { a with hexStr := [] }
  else a.flush

def decodeHex (cleaned : Bytes) : Option Bytes :=
  let a := (cleaned.foldl Accumulator.step {}).flush
  if a.hexStr ≠ [] then none else if a.result = [] then none else some a.result

def parseOBD2Response (response : Bytes) : Option Bytes :=
  if response = [] then none
  else
    let cleaned := extractPrompt response
    if cleaned = [] ∨ cleaned = [PROMPT] then none
    else
      let cleaned := stripInfoPrefixes cleaned
      if cleaned = [] then none
      else if isErrorMessage cleaned then none
      else decodeHex cleaned

end OBD2

section Blanks

/-- Only blanks, tabs and line ends. -/
def Blank (s : Bytes) : Prop := ∀ c ∈ s, isBlank c = true

instance (s : Bytes) : Decidable (Blank s) := List.decidableBAll _ s

variable {b b' s p : Bytes} {c : Byte}

theorem isBlank_iff : isBlank c = true ↔ c = SP ∨ c = TAB ∨ c = CR ∨ c = LF := by
  simp [isBlank, or_assoc]

theorem isSeparator_of_isBlank (h : isBlank c = true) :
    isxdigit c = false ∧ c ≠ COLON ∧ c ≠ PROMPT ∧ isInfoSeparator c = true ∧ toupper c = c := by
  rcases isBlank_iff.mp h with rfl | rfl | rfl | rfl <;> decide

/-- A text that neither begins nor ends with a blank. -/
structure Tight (p : Bytes) : Prop where
  head : p.head?.all (!isBlank ·) = true
  last : p.getLast?.all (!isBlank ·) = true
  ne_nil : p ≠ []

instance (p : Bytes) : Decidable (Tight p) :=
  decidable_of_iff (p.head?.all (!isBlank ·) = true ∧ p.getLast?.all (!isBlank ·) = true ∧ p ≠ [])
    ⟨fun h => ⟨h.1, h.2.1, h.2.2⟩, fun h => ⟨h.head, h.last, h.ne_nil⟩⟩

theorem tight_of_mem_errorMessages : ∀ e ∈ errorMessages, Tight e := by decide

theorem tight_of_mem_infoMessages : ∀ e ∈ infoMessages, Tight e := by decide

theorem Tight.isPrefixOf_cons (hp : Tight p) (hc : isBlank c = true) :
    p.isPrefixOf (c :: s) = false := by
  obtain ⟨hh, -, hne⟩ := hp
  cases p with
  | nil => exact absurd rfl hne
  | cons d p =>
    have hd : d ≠ c := by
      rintro rfl
      simp [hc] at hh
    simp [List.isPrefixOf, hd]

theorem Tight.isPrefixOf_concat (hp : Tight p) (hc : isBlank c = true) :
    p.isPrefixOf (s ++ [c]) = p.isPrefixOf s := by
  rw [Bool.eq_iff_iff, List.isPrefixOf_iff_prefix, List.isPrefixOf_iff_prefix,
    List.prefix_concat_iff]
  apply or_iff_right
  rintro rfl
  have hl := hp.last
  simp [hc] at hl

theorem findStr_blank_append (hp : Tight p) (hb : Blank b) :
    findStr p (b ++ s) = (findStr p s).map (· + b.length) := by
  induction b with
  | nil => simp
  | cons c b ih =>
    rw [List.cons_append, findStr, hp.isPrefixOf_cons (hb c List.mem_cons_self),
      if_neg Bool.false_ne_true, ih fun d hd => hb d (List.mem_cons_of_mem _ hd), Option.map_map]
    rfl

theorem findStr_concat (hp : Tight p) (hc : isBlank c = true) :
    findStr p (s ++ [c]) = findStr p s := by
  induction s with
  | nil =>
    simp [findStr, hp.isPrefixOf_cons hc, hp.ne_nil]
  | cons d s ih =>
    rw [List.cons_append, findStr, ← List.cons_append, hp.isPrefixOf_concat hc, ih, findStr]

theorem findStr_append_blank (hp : Tight p) (hb : Blank b) : findStr p (s ++ b) = findStr p s := by
  induction b using List.reverseRecOn with
  | nil => rw [List.append_nil]
  | append_singleton b c ih =>
    rw [← List.append_assoc, findStr_concat hp (hb c (by simp)),
      ih fun d hd => hb d (List.mem_append_left _ hd)]

/-- Blanks around a text move the first occurrence of a tight one by those before it. -/
theorem findStr_padded (hp : Tight p) (hb : Blank b) (hb' : Blank b') :
    findStr p (b ++ s ++ b') = (findStr p s).map (· + b.length) := by
  rw [findStr_append_blank hp hb', findStr_blank_append hp hb]

theorem map_toupper_blank (hb : Blank b) : b.map toupper = b :=
  (List.map_congr_left fun c hc => (isSeparator_of_isBlank (hb c hc)).2.2.2.2).trans (List.map_id b)

theorem isErrorMessage_padded (hb : Blank b) (hb' : Blank b') :
    isErrorMessage (b ++ s ++ b') = isErrorMessage s := by
  unfold isErrorMessage
  rw [List.map_append, List.map_append, map_toupper_blank hb, map_toupper_blank hb',
    Bool.eq_iff_iff, List.any_eq_true, List.any_eq_true]
  apply exists_congr
  intro e
  apply and_congr_right
  intro he
  rw [findStr_padded (tight_of_mem_errorMessages e he) hb hb', Option.isSome_map]

theorem findStr_le {i : ℕ} (h : findStr p s = some i) : i + p.length ≤ s.length := by
  induction s generalizing i with
  | nil =>
    unfold findStr at h
    split at h
    · next hp => cases h; simp [hp]
    · cases h
  | cons c s ih =>
    unfold findStr at h
    split at h
    · next hp =>
      cases h
      simpa using (List.isPrefixOf_iff_prefix.mp hp).length_le
    · obtain ⟨j, hj, rfl⟩ := Option.map_eq_some_iff.mp h
      have := ih hj
      rw [List.length_cons]
      omega

/-- Where the data begins in a text, and in the same text between blanks. -/
def Moved (b s b' : Bytes) : Option ℕ → Option ℕ → Prop
  | none, none => True
  | some d, some d' =>
    d < s.length ∧ d' = d + b.length ∨ d = s.length ∧ d' = b.length + s.length + b'.length
  | _, _ => False

theorem moved_dataBehind {k : ℕ} (hb' : Blank b') (hk : k ≤ s.length) :
    Moved b s b' (some (dataBehind s k))
      (some (dataBehind (b ++ s ++ b') (k + b.length))) := by
  have hdrop : (b ++ s ++ b').drop (k + b.length) = s.drop k ++ b' := by
    rw [List.append_assoc, Nat.add_comm, ← List.drop_drop, List.drop_left,
      List.drop_append_of_le_length hk]
  have hall : b'.takeWhile isInfoSeparator = b' :=
    List.takeWhile_eq_self_iff.mpr fun c hc => (isSeparator_of_isBlank (hb' c hc)).2.2.2.1
  have hle := (List.takeWhile_sublist isInfoSeparator (l := s.drop k)).length_le
  simp only [Moved, dataBehind, hdrop, List.takeWhile_append, hall]
  split
  · next h =>
    right
    rw [List.length_append, h, List.length_drop]
    omega
  · next h =>
    left
    rw [List.length_drop] at hle h
    omega

theorem moved_infoStep {d d' : Option ℕ} {p : Bytes} (hb : Blank b) (hb' : Blank b')
    (hp : Tight p) (h : Moved b s b' d d') :
    Moved b s b' (infoStep s d p) (infoStep (b ++ s ++ b') d' p) := by
  unfold infoStep
  rw [findStr_padded hp hb hb']
  cases hf : findStr p s with
  | none => exact h
  | some pos =>
    have hpos := findStr_le hf
    have hlen := List.length_pos_of_ne_nil hp.ne_nil
    have hmove : Moved b s b' (some (dataBehind s (pos + p.length)))
        (some (dataBehind (b ++ s ++ b') (pos + b.length + p.length))) := by
      rw [Nat.add_right_comm]
      exact moved_dataBehind hb' hpos
    cases d with
    | none =>
      cases d' with
      | none => exact hmove
      | some => exact h.elim
    | some d =>
      cases d' with
      | none => exact h.elim
      | some d' =>
        have hlt : pos + b.length < d' ↔ pos < d := by
          rcases h with ⟨_, rfl⟩ | ⟨rfl, rfl⟩ <;> omega
        simp only [Option.map_some, Option.all_some, decide_eq_true_eq, hlt]
        split
        · exact hmove
        · exact h

/-- Without its banner, a text between blanks is the text without its banner between blanks. -/
theorem stripInfoPrefixes_padded (hb : Blank b) (hb' : Blank b') :
    ∃ x y, Blank x ∧ Blank y ∧
      stripInfoPrefixes (b ++ s ++ b') = x ++ stripInfoPrefixes s ++ y := by
  have hfold : ∀ (l : List Bytes) (d d' : Option ℕ), (∀ p ∈ l, Tight p) → Moved b s b' d d' →
      Moved b s b' (l.foldl (infoStep s) d) (l.foldl (infoStep (b ++ s ++ b')) d') := by
    intro l
    induction l with
    | nil => exact fun d d' _ h => h
    | cons p l ih =>
      exact fun d d' hl h => ih _ _ (fun q hq => hl q (List.mem_cons_of_mem _ hq))
        (moved_infoStep hb hb' (hl p List.mem_cons_self) h)
  have h := hfold infoMessages none none tight_of_mem_infoMessages trivial
  unfold stripInfoPrefixes
  revert h
  cases infoMessages.foldl (infoStep s) none with
  | none =>
    cases infoMessages.foldl (infoStep (b ++ s ++ b')) none with
    | none => exact fun _ => ⟨b, b', hb, hb', rfl⟩
    | some => exact fun h => h.elim
  | some d =>
    cases infoMessages.foldl (infoStep (b ++ s ++ b')) none with
    | none => exact fun h => h.elim
    | some d' =>
      rintro (⟨hd, rfl⟩ | ⟨rfl, rfl⟩)
      · refine ⟨[], b', List.forall_mem_nil _, hb', ?_⟩
        simp only [List.nil_append, List.append_assoc]
        rw [Nat.add_comm, ← List.drop_drop, List.drop_left,
          List.drop_append_of_le_length (Nat.le_of_lt hd)]
      · refine ⟨[], [], List.forall_mem_nil _, List.forall_mem_nil _, ?_⟩
        simp [List.drop_eq_nil_of_le, Nat.add_assoc]

theorem flushHexAccumulator_rest (s : Bytes) :
    flushHexAccumulator (flushHexAccumulator s).1 = ((flushHexAccumulator s).1, []) := by
  fun_induction flushHexAccumulator s with
  | case1 h l s r ih => exact ih
  | case2 s hs => exact flushHexAccumulator.eq_2 s hs

@[simp] theorem Accumulator.flush_flush (a : Accumulator) : a.flush.flush = a.flush := by
  simp [Accumulator.flush, flushHexAccumulator_rest]

theorem foldl_step_blank (a : Accumulator) (hb : Blank b) :
    b.foldl Accumulator.step a = if b = [] then a else a.flush := by
  induction b generalizing a with
  | nil => rfl
  | cons c b ih =>
    obtain ⟨hx, hc, -⟩ := isSeparator_of_isBlank (hb c List.mem_cons_self)
    have hstep : a.step c = a.flush := by simp [Accumulator.step, hx, hc]
    rw [List.foldl_cons, ih _ fun d hd => hb d (List.mem_cons_of_mem _ hd), hstep]
    simp

theorem decodeHex_padded (hb : Blank b) (hb' : Blank b') :
    decodeHex (b ++ s ++ b') = decodeHex s := by
  have hfront : b.foldl Accumulator.step {} = {} := by
    rw [foldl_step_blank _ hb]
    split <;> rfl
  have hback (a : Accumulator) : (b'.foldl Accumulator.step a).flush = a.flush := by
    rw [foldl_step_blank _ hb']
    split
    · rfl
    · exact a.flush_flush
  simp only [decodeHex, List.foldl_append, hfront, hback]

theorem parseOBD2Response_eq (response : Bytes) :
    parseOBD2Response response =
      if isErrorMessage (stripInfoPrefixes (extractPrompt response)) then none
      else decodeHex (stripInfoPrefixes (extractPrompt response)) := by
  have hnil : stripInfoPrefixes [] = [] ∧ isErrorMessage [] = false ∧ decodeHex [] = none := by
    decide
  have hprompt : extractPrompt response ≠ [PROMPT] := by
    intro h
    have : PROMPT ∈ extractPrompt response := by simp [h]
    simpa using List.mem_takeWhile_imp this
  unfold parseOBD2Response
  split
  · next h => simp [h, extractPrompt, hnil]
  · by_cases h : extractPrompt response = []
    · simp [h, hnil]
    · by_cases hs : stripInfoPrefixes (extractPrompt response) = [] <;> simp [h, hprompt, hs, hnil]

/-- Only the text before the prompt counts, and no blanks around it. -/
theorem parseOBD2Response_padded {n : Bytes} (hb : Blank b) (hb' : Blank b')
    (h : extractPrompt n = b ++ s ++ b') (hs : PROMPT ∉ s) :
    parseOBD2Response n = parseOBD2Response s := by
  have hself : extractPrompt s = s :=
    List.takeWhile_eq_self_iff.mpr fun c hc => by
      simpa using fun he : c = PROMPT => hs (he ▸ hc)
  obtain ⟨x, y, hx, hy, he⟩ := stripInfoPrefixes_padded (s := s) hb hb'
  simp only [parseOBD2Response_eq, h, hself, he, isErrorMessage_padded hx hy,
    decodeHex_padded hx hy]

end Blanks

section CAN

structure CANFrame where
  canId : UInt16
  data : Bytes
  deriving DecidableEq, Repr

def statuses : List Bytes :=
  [ascii "OK", ascii "NO DATA", ascii "ERROR", ascii "STOPPED", ascii "UNABLE TO CONNECT",
    ascii "BUS ERROR", ascii "BUFFER FULL", ascii "CAN ERROR", ascii "BUS INIT",
    ascii "SEARCHING"]

def isStatusMessage (upper : Bytes) : Bool := statuses.any (upper == ·)

/-- The tokens that a text continues after the token read so far. -/
def tokensFrom : Bytes → Bytes → List Bytes
  | current, [] => if current = [] then [] else [current]
  | current, c :: s =>
    if isxdigit c then tokensFrom (current ++ [toupper c]) s
    else if current = [] then tokensFrom [] s
    else current :: tokensFrom [] s

def tokenizeHex (cleaned : Bytes) : List Bytes := tokensFrom [] cleaned

/-- `sscanf` with `%X` on hexadecimal digits: a number too large saturates at 64 bits. -/
def scanHex (token : Bytes) : ℕ := min (numValue 16 token) (2 ^ 64 - 1) % 2 ^ 32

def classifyTypePrefix (tokens : List Bytes) : Option ℕ :=
  if tokens.length ≠ 10 then some 0
  else
    let type := scanHex (tokens.getD 0 [])
    if 0x600 ≤ type ∧ type ≤ 0x6FF then some 1 else none

def parseCANFrame (line : Bytes) : Option CANFrame :=
  if line = [] then none
  else
    let cleaned := line.rdropWhile isLineEnd
    if cleaned = [PROMPT] then none
    else if isStatusMessage (cleaned.map toupper) then none
    else if COLON ∈ cleaned then none
    else
      let tokens := tokenizeHex cleaned
      if tokens.length < 9 ∨ 10 < tokens.length then none
      else do
        let dataStart ← classifyTypePrefix tokens
        let id := scanHex (tokens.getD dataStart [])
        if tokens.length - dataStart - 1 ≠ 8 then none
        let data ← (tokens.drop (dataStart + 1)).mapM parseHexByte
        return ⟨id.toUInt16, data⟩

end CAN

section Lines

variable {b b' s t : Bytes} {c : Byte}

theorem tokensFrom_digits (ht : ∀ c ∈ t, isxdigit c = true) (current s : Bytes) :
    tokensFrom current (t ++ s) = tokensFrom (current ++ t.map toupper) s := by
  induction t generalizing current with
  | nil => simp
  | cons c t ih =>
    rw [List.cons_append, tokensFrom, if_pos (ht c List.mem_cons_self),
      ih fun d hd => ht d (List.mem_cons_of_mem _ hd)]
    simp

theorem tokensFrom_separator (hc : isxdigit c = false) (current s : Bytes) :
    tokensFrom current (c :: s) = tokensFrom current [] ++ tokensFrom [] s := by
  by_cases h : current = []
  · simp [tokensFrom, hc, h]
  · simp [tokensFrom, hc, h]

theorem tokensFrom_blank (hb : Blank b) (s : Bytes) : tokensFrom [] (b ++ s) = tokensFrom [] s := by
  induction b with
  | nil => rfl
  | cons c b ih =>
    rw [List.cons_append, tokensFrom_separator (isSeparator_of_isBlank (hb c List.mem_cons_self)).1,
      ih fun d hd => hb d (List.mem_cons_of_mem _ hd)]
    rfl

theorem tokensFrom_append_blank (hb : Blank b) (current s : Bytes) :
    tokensFrom current (s ++ b) = tokensFrom current s := by
  induction s generalizing current with
  | nil =>
    cases b with
    | nil => rfl
    | cons c b =>
      have hb' : tokensFrom [] (b ++ []) = tokensFrom [] [] :=
        tokensFrom_blank (fun d hd => hb d (List.mem_cons_of_mem _ hd)) []
      rw [List.append_nil] at hb'
      rw [List.nil_append,
        tokensFrom_separator (isSeparator_of_isBlank (hb c List.mem_cons_self)).1,
        hb']
      exact List.append_nil _
  | cons c s ih => simp only [List.cons_append, tokensFrom, ih]

/-- A byte of a frame line or of the blanks around it. -/
def isFrameByte (c : Byte) : Bool := isxdigit c || isBlank c

theorem isFrameByte_toupper (h : isFrameByte c = true) : isFrameByte (toupper c) = true := by
  have hall : ∀ c : Byte, isFrameByte c = true → isFrameByte (toupper c) = true :=
    forall_byte (by decide +kernel)
  exact hall c h

/-- Every status has a letter that is no hexadecimal digit. -/
theorem not_isStatusMessage (h : ∀ c ∈ s, isFrameByte c = true) :
    isStatusMessage (s.map toupper) = false := by
  have hall : ∀ t ∈ statuses, ∃ c ∈ t, isFrameByte c = false := by decide
  apply Bool.eq_false_iff.mpr
  intro hs
  obtain ⟨t, ht, he⟩ := List.any_eq_true.mp hs
  obtain ⟨c, hc, hf⟩ := hall t ht
  rw [← eq_of_beq he] at hc
  obtain ⟨d, hd, rfl⟩ := List.mem_map.mp hc
  exact Bool.false_ne_true (hf.symm.trans (isFrameByte_toupper (h d hd)))

/-- On digits and blanks only the tokens decide. -/
theorem parseCANFrame_tokens (h : ∀ c ∈ s, isFrameByte c = true) {id : Bytes} {pairs : List Bytes}
    (ht : tokenizeHex s = id :: pairs) (hl : pairs.length = 8) :
    parseCANFrame s =
      (pairs.mapM parseHexByte).map fun data => ⟨(scanHex id).toUInt16, data⟩ := by
  have hb : Blank (s.rtakeWhile isLineEnd) := by
    intro c hc
    have hend : isLineEnd c = true := List.mem_rtakeWhile_imp hc
    rcases Bool.or_eq_true_iff.mp hend with h | h <;> simp [isBlank, h]
  have hs : s.rdropWhile isLineEnd ++ s.rtakeWhile isLineEnd = s :=
    List.rdropWhile_append_rtakeWhile
  have hmem : ∀ c ∈ s.rdropWhile isLineEnd, isFrameByte c = true := fun c hc =>
    h c ((List.rdropWhile_prefix isLineEnd s).subset hc)
  have hne : s ≠ [] := by
    rintro rfl
    cases ht
  have htok : tokenizeHex (s.rdropWhile isLineEnd) = id :: pairs := by
    rw [← ht, ← hs, tokenizeHex, tokenizeHex, tokensFrom_append_blank hb, hs]
  have hprompt : s.rdropWhile isLineEnd ≠ [PROMPT] := fun he =>
    absurd (hmem PROMPT (by simp [he])) (by decide)
  have hcolon : COLON ∉ s.rdropWhile isLineEnd := fun hc => absurd (hmem COLON hc) (by decide)
  simp only [parseCANFrame, hne, hprompt, not_isStatusMessage hmem, hcolon, htok,
    classifyTypePrefix]
  cases hm : pairs.mapM parseHexByte <;> simp [hl, hm]

theorem hexCharToByte_toupper (h : isxdigit c = true) :
    hexCharToByte (toupper c) = (alnumVal c).toUInt8 := by
  have hall : ∀ c : Byte, isxdigit c = true → hexCharToByte (toupper c) = (alnumVal c).toUInt8 :=
    forall_byte (by decide +kernel)
  exact hall c h

theorem alnumVal_toupper (h : isxdigit c = true) : alnumVal (toupper c) = alnumVal c := by
  have hall : ∀ c : Byte, isxdigit c = true → alnumVal (toupper c) = alnumVal c :=
    forall_byte (by decide +kernel)
  exact hall c h

/-- A pair of upper-cased digits is read as the number that the digits denote. -/
theorem parseHexByte_toupper {h l : Byte} (hh : isxdigit h = true) (hl : isxdigit l = true) :
    parseHexByte [toupper h, toupper l] = some (numValue 16 [h, l]).toUInt8 := by
  have hlt {d : Byte} (hd : isxdigit d = true) : alnumVal d < 16 := of_decide_eq_true hd
  have hne {d : Byte} (hd : isxdigit d = true) : (alnumVal d).toUInt8 ≠ 0xFF := by
    have hall : ∀ k : Fin 16, (k : ℕ).toUInt8 ≠ 0xFF := by decide
    exact hall ⟨_, hlt hd⟩
  have hval : numValue 16 [h, l] = 16 * alnumVal h + alnumVal l := by simp [numValue]
  rw [parseHexByte, hexCharToByte_toupper hh, hexCharToByte_toupper hl,
    if_neg (by simp [hne hh, hne hl]), joinNibbles, hex_pair (hlt hh) (hlt hl), hval]

theorem numValue_toupper (ht : ∀ c ∈ t, isxdigit c = true) :
    numValue 16 (t.map toupper) = numValue 16 t := by
  induction t using List.reverseRecOn with
  | nil => rfl
  | append_singleton t c ih =>
    rw [List.map_append, List.map_singleton, numValue_concat, numValue_concat,
      ih fun d hd => ht d (List.mem_append_left _ hd), alnumVal_toupper (ht c (by simp))]

end Lines

end VehicleSpy.Ble.ELM327Transport
