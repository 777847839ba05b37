import VehicleSpy.Dbc.Attribution

/-! # What a malformed line costs

A signal or value-table line from which nothing can be read is passed over, wherever its
delimiters are missing and whichever of its integers are unreadable. The four floating-point
fields are converted by `std::stod`, which throws, and an exception ends the whole parse.
-/

namespace VehicleSpy.Dbc.DBCFileParser

open Text Machine

variable {D : Type} (stod : Bytes → Option D)

section Fields

/-- The number fields of a pair to which the delimiters lead, and the rest behind a whole pair. -/
def pairNumbers (opening middle closing : Byte) (s : Bytes) : List Bytes × Option Bytes :=
  match consumeChar opening (skipWs s) with
  | .error _ => ([], none)
  | .ok s =>
    match upTo middle s with
    | .error _ => ([], none)
    | .ok (first, s) =>
      match upTo closing s with
      | .error _ => ([first], none)
      | .ok (second, s) => ([first, second], some s)

/-- The floating-point fields of a signal line that stand in front of the first delimiter or
integer that is wrong: of scale, offset, minimum and maximum as many as that. -/
def numbers (line : Bytes) : List Bytes :=
  match findStr (ascii "SG_") line with
  | none => []
  | some pos =>
    match parseStartBitAndLength (parseNameAndMultiplexor (skipWs (line.drop (pos + 3)))).2 with
    | .error _ => []
    | .ok (_, s) =>
      match pairNumbers 40 44 41 s with
      | (scaleOffset, none) => scaleOffset
      | (scaleOffset, some s) => scaleOffset ++ (pairNumbers 91 124 93 s).1

/-- `std::stod` reads every field. -/
def Convertible (fields : List Bytes) : Prop := ∀ field ∈ fields, stod (trim field) ≠ none

/-- No definition and no table can be read from the line. -/
def Unreadable (line : Bytes) : Prop :=
  isSg line = true ∧ (∀ canId, signalUnder stod line canId = none) ∨
    startsWith (ascii "VAL_") line = true ∧ parseValLine line = none

/-- Nothing throws. -/
def Quiet {α : Type} (x : Except Stop α) : Prop := x ≠ .error .thrown

/-- What reading a pair comes to. -/
inductive PairRead (fields : List Bytes × Option Bytes) :
    Except Stop ((D × D) × Bytes) → Prop where

  | thrown : ¬ Convertible stod fields.1 → PairRead fields (.error .thrown)

  | rejected : Convertible stod fields.1 → fields.2 = none → PairRead fields (.error .rejected)

  | read {a b : D} {s : Bytes} : Convertible stod fields.1 → fields.2 = some s →
      PairRead fields (.ok ((a, b), s))

variable {stod} {opening middle closing delimiter : Byte} {s line : Bytes} {canId : ℕ}

theorem Quiet.bind {α β : Type} {x : Except Stop α} {f : α → Except Stop β} (hx : Quiet x)
    (hf : ∀ a, Quiet (f a)) : Quiet (x >>= f) := by
  cases x with
  | error e =>
    intro h
    exact hx (congrArg Except.error (Except.error.inj h))
  | ok a => exact hf a

theorem Quiet.rejected {α : Type} {e : Stop} (h : Quiet (.error e : Except Stop α)) :
    e = .rejected := by
  cases e with
  | rejected => rfl
  | thrown => exact absurd rfl h

theorem quiet_consumeChar (expected : Byte) (s : Bytes) : Quiet (consumeChar expected s) := by
  unfold consumeChar
  split
  · split <;> simp [Quiet]
  · simp [Quiet]

theorem quiet_upTo (delimiter : Byte) (s : Bytes) : Quiet (upTo delimiter s) := by
  unfold upTo
  split <;> simp [Quiet]

theorem quiet_readSize (sv : Bytes) : Quiet (readSize sv) := by
  unfold readSize
  split <;> simp [Quiet]

/-- The integers of a signal line are read without exceptions. -/
theorem quiet_parseStartBitAndLength (s : Bytes) : Quiet (parseStartBitAndLength s) := by
  refine (quiet_consumeChar _ _).bind fun s => (quiet_upTo _ _).bind fun p => ?_
  refine (quiet_readSize _).bind fun startBit => (quiet_upTo _ _).bind fun q => ?_
  refine (quiet_readSize _).bind fun bitLength => ?_
  split <;> simp [Quiet, pure, Except.pure]

theorem readDouble_none (h : stod (trim s) = none) : readDouble stod s = .error .thrown := by
  rw [readDouble, h]

theorem readDouble_some {v : D} (h : stod (trim s) = some v) : readDouble stod s = .ok v := by
  rw [readDouble, h]

theorem pairRead_parsePair (s : Bytes) :
    PairRead stod (pairNumbers opening middle closing s)
      (parsePair stod opening middle closing s) := by
  unfold parsePair pairNumbers
  cases hopen : consumeChar opening (skipWs s) with
  | error e =>
    obtain rfl := (hopen ▸ quiet_consumeChar opening (skipWs s)).rejected
    exact .rejected (by simp [Convertible]) rfl
  | ok s₁ =>
    simp only [bind, Except.bind]
    cases hmiddle : upTo middle s₁ with
    | error e =>
      obtain rfl := (hmiddle ▸ quiet_upTo middle s₁).rejected
      exact .rejected (by simp [Convertible]) rfl
    | ok p =>
      obtain ⟨first, s₂⟩ := p
      dsimp only
      cases hfirst : stod (trim first) with
      | none =>
        rw [readDouble_none hfirst]
        refine .thrown ?_
        cases upTo closing s₂ <;> simp [Convertible, hfirst]
      | some a =>
        rw [readDouble_some hfirst]
        dsimp only
        cases hclose : upTo closing s₂ with
        | error e =>
          obtain rfl := (hclose ▸ quiet_upTo closing s₂).rejected
          exact .rejected (by simp [Convertible, hfirst]) rfl
        | ok q =>
          obtain ⟨second, s₃⟩ := q
          dsimp only
          cases hsecond : stod (trim second) with
          | none =>
            rw [readDouble_none hsecond]
            exact .thrown (by simp [Convertible, hsecond])
          | some b =>
            rw [readDouble_some hsecond]
            exact .read (by simp [Convertible, hfirst, hsecond]) rfl

/-- A definition throws just when one of the fields that are reached cannot be converted. -/
theorem parseSignalDefinition_thrown_iff :
    parseSignalDefinition stod line canId = .error .thrown ↔ ¬ Convertible stod (numbers line) := by
  unfold parseSignalDefinition numbers
  cases findStr (ascii "SG_") line with
  | none => exact iff_of_false (by simp) (by simp [Convertible])
  | some pos =>
    simp only [bind, Except.bind]
    generalize parseNameAndMultiplexor (skipWs (line.drop (pos + 3))) = name
    cases hlayout : parseStartBitAndLength name.2 with
    | error e =>
      obtain rfl := (hlayout ▸ quiet_parseStartBitAndLength name.2).rejected
      exact iff_of_false (by simp) (by simp [Convertible])
    | ok p =>
      obtain ⟨layout, s⟩ := p
      dsimp only
      have hscale : PairRead stod (pairNumbers 40 44 41 s) (parseScaleOffset stod s) :=
        pairRead_parsePair s
      generalize parseScaleOffset stod s = scale at hscale
      rcases hfields : pairNumbers 40 44 41 s with ⟨fields, rest⟩
      rw [hfields] at hscale
      cases hscale with
      | thrown hbad =>
        refine iff_of_true rfl fun hconv => hbad ?_
        cases rest with
        | none => exact hconv
        | some s => exact fun field hmem => hconv field (List.mem_append_left _ hmem)
      | rejected hconv hrest =>
        obtain rfl : rest = none := hrest
        exact iff_of_false (by simp) fun hbad => hbad hconv
      | @read a b s' hconv hrest =>
        obtain rfl : rest = some s' := hrest
        dsimp only
        have hrange : PairRead stod (pairNumbers 91 124 93 s') (parseMinMax stod s') :=
          pairRead_parsePair s'
        generalize parseMinMax stod s' = range at hrange
        have hsplit : Convertible stod (fields ++ (pairNumbers 91 124 93 s').1) ↔
            Convertible stod (pairNumbers 91 124 93 s').1 := by
          refine ⟨fun h field hmem => h field (List.mem_append_right _ hmem),
            fun h field hmem => ?_⟩
          exact (List.mem_append.mp hmem).elim (hconv field) (h field)
        rw [hsplit]
        cases hrange with
        | thrown hbad => exact iff_of_true rfl hbad
        | rejected hconv' => exact iff_of_false (by simp) fun hbad => hbad hconv'
        | read hconv' => exact iff_of_false (by simp [pure, Except.pure]) fun hbad => hbad hconv'

end Fields

section Lines

variable {text line : Bytes}

theorem trimmedLines_append (h : text = [] ∨ text.getLast? = some LF) (rest : Bytes) :
    trimmedLines (text ++ rest) = trimmedLines text ++ trimmedLines rest := by
  rcases h with rfl | h
  · have hnil : trimmedLines [] = [] := by decide
    rw [hnil, List.nil_append, List.nil_append]
  · obtain ⟨w, rfl⟩ := List.getLast?_eq_some_iff.mp h
    have hbreak (rest : Bytes) : trimmedLines (w ++ LF :: rest) =
        trimmedLines w ++ trimmedLines rest := by
      rw [trimmedLines, List.splitOnP_append_cons w rest (by decide), List.map_append,
        List.filter_append]
      rfl
    have hnil : trimmedLines [] = [] := by decide
    rw [List.append_assoc, List.singleton_append, hbreak, hbreak, hnil, List.append_nil]

theorem trimmedLines_line (hL : LF ∉ line) (hne : trim line ≠ []) (rest : Bytes) :
    trimmedLines (line ++ LF :: rest) = trim line :: trimmedLines rest := by
  have hfree : ∀ c ∈ line, (c == LF) = false := by
    intro c hc
    exact beq_false_of_ne fun h => hL (h ▸ hc)
  rw [trimmedLines, List.splitOnP_append_cons_of_forall_mem hfree LF (by decide), List.map_cons,
    List.filter_cons_of_pos (by simpa using hne)]
  rfl

end Lines

section Silence

/-- No line of the text adds a signal, or one of them throws. -/
def Silent (text : Bytes) : Prop :=
  throwingLines stod text ≠ [] ∨ alongPrefixes (contribution stod) [] (trimmedLines text) = []

variable {stod} {text : Bytes}

theorem addSignal_ne_nil (result : DBCParseResult D) (sig : DBCSignalDefinition D) :
    addSignal result sig ≠ [] := by
  unfold addSignal
  split
  · exact List.cons_ne_nil _ _
  · split <;> exact List.cons_ne_nil _ _

theorem buildResult_eq_nil_iff {signals : List (DBCSignalDefinition D)}
    {tables : List ValueTable} : buildResult signals tables = [] ↔ signals = [] := by
  have hplain := map_plain_applyValueTables signals tables
  have htables : tables.foldl applyValueTable signals = [] ↔ signals = [] := by
    rw [← List.map_eq_nil_iff (f := DBCSignalDefinition.plain), hplain, List.map_eq_nil_iff]
  rw [← htables, buildResult]
  generalize tables.foldl applyValueTable signals = signals
  induction signals using List.reverseRecOn with
  | nil => exact iff_of_true rfl rfl
  | append_singleton signals sig _ =>
    rw [List.foldl_concat]
    exact iff_of_false (addSignal_ne_nil _ _) (by simp)

theorem parseString_eq_nil_iff : parseString stod text = [] ↔ Silent stod text := by
  by_cases ht : throwingLines stod text = []
  · obtain ⟨st, hst, hsc⟩ := foldlM_scanned ht
    rw [parseString, hst, Silent, or_iff_right (not_not.mpr ht), ← hsc.signals]
    exact buildResult_eq_nil_iff
  · rw [parseString, foldlM_thrown ht]
    exact iff_of_true rfl (Or.inl ht)

end Silence

section Skip

variable {stod} {above below : List Bytes} {line : Bytes} {st : ParserState D}

theorem throwingLine_eq_none_iff : throwingLine stod above line = none ↔
    (isSg line = true → lastReadable above ≠ 0 → Convertible stod (numbers line)) := by
  unfold throwingLine
  split
  · next h =>
    split
    · next hp =>
      refine iff_of_false (Option.some_ne_none line) fun hall => ?_
      exact parseSignalDefinition_thrown_iff.mp hp (hall h.1 h.2)
    · next hne =>
      refine iff_of_true rfl fun _ _ => ?_
      by_contra hbad
      exact hne (parseSignalDefinition_thrown_iff.mpr hbad)
  · next h => exact iff_of_true rfl fun hs h0 => absurd ⟨hs, h0⟩ h

theorem parseLine_unreadable (h : Scanned stod above st) (hbad : Unreadable stod line)
    (ht : throwingLine stod above line = none) : parseLine stod st line = .ok st := by
  rcases hbad with ⟨hs, hnone⟩ | ⟨hv, hnone⟩
  · have hb : isBo line = false := Bool.eq_false_iff.mpr fun hb =>
      Bool.false_ne_true ((not_isSg_of_isBo hb).symm.trans hs)
    by_cases h0 : lastReadable above = 0
    · simp [parseLine, hb, hs, h.currentCanId, h0]
    · have hnone := hnone (lastReadable above)
      cases hp : parseSignalDefinition stod line (lastReadable above) with
      | ok sig => simp [signalUnder, hs, hp, Except.toOption] at hnone
      | error e =>
        cases e with
        | rejected => simp [parseLine, hb, hs, h.currentCanId, h0, hp]
        | thrown => simp [throwingLine, hs, h0, hp] at ht
  · have hb : isBo line = false := by
      obtain ⟨t, rfl⟩ := startsWith_iff.mp hv
      rfl
    have hs : isSg line = false := by
      obtain ⟨t, rfl⟩ := startsWith_iff.mp hv
      rfl
    simp [parseLine, hb, hs, hv, hnone]

/-- A line that does not throw and gives nothing changes nothing. -/
theorem foldlM_skip (hok : alongPrefixes (throwingLine stod) [] above = [])
    (hbad : Unreadable stod line) (ht : throwingLine stod above line = none) :
    (above ++ line :: below).foldlM (parseLine stod) {} =
      (above ++ below).foldlM (parseLine stod) {} := by
  obtain ⟨st, hst, hsc⟩ := foldlM_scanned hok
  rw [List.foldlM_append, List.foldlM_append, hst]
  simp only [bind, Except.bind, List.foldlM_cons, parseLine_unreadable hsc hbad ht]

theorem foldlM_stopped (hstop : alongPrefixes (throwingLine stod) [] above ≠ []) :
    (above ++ below).foldlM (parseLine stod) {} = .error .thrown := by
  rw [List.foldlM_append, foldlM_thrown hstop]
  rfl

end Skip

/-- A malformed line costs only itself just when its floating-point fields are converted, or
not reached because no message is current, or when the rest of the text yields nothing. -/
theorem costs_itself_iff {A B L : Bytes} (hA : A = [] ∨ A.getLast? = some LF) (hL : LF ∉ L)
    (hbad : Unreadable stod (trim L)) :
    parseString stod (A ++ L ++ [LF] ++ B) = parseString stod (A ++ B) ↔
      (isSg (trim L) = true → lastReadable (trimmedLines A) ≠ 0 →
        Convertible stod (numbers (trim L))) ∨ Silent stod (A ++ B) := by
  have hne : trim L ≠ [] := by
    intro h
    rw [h] at hbad
    rcases hbad with ⟨hs, -⟩ | ⟨hv, -⟩
    · cases hs
    · cases hv
  have hwith : trimmedLines (A ++ L ++ [LF] ++ B) =
      trimmedLines A ++ trim L :: trimmedLines B := by
    rw [List.append_assoc, List.append_assoc, trimmedLines_append hA, List.singleton_append,
      trimmedLines_line hL hne]
  have hwithout : trimmedLines (A ++ B) = trimmedLines A ++ trimmedLines B :=
    trimmedLines_append hA B
  rw [← throwingLine_eq_none_iff]
  by_cases hstop : alongPrefixes (throwingLine stod) [] (trimmedLines A) = []
  · by_cases ht : throwingLine stod (trimmedLines A) (trim L) = none
    · refine iff_of_true ?_ (Or.inl ht)
      rw [parseString, parseString, hwith, hwithout, foldlM_skip hstop hbad ht]
    · have hthrown : alongPrefixes (throwingLine stod) [] (trimmedLines A ++ [trim L]) ≠ [] := by
        rw [alongPrefixes_concat, hstop, List.nil_append, List.nil_append, ne_eq,
          Option.toList_eq_nil_iff]
        exact ht
      have hempty : parseString stod (A ++ L ++ [LF] ++ B) = [] := by
        rw [parseString, hwith, ← List.singleton_append, ← List.append_assoc,
          foldlM_stopped hthrown]
      rw [hempty, or_iff_right ht, ← parseString_eq_nil_iff, eq_comm]
  · have hthrown : throwingLines stod (A ++ B) ≠ [] := by
      intro h
      obtain ⟨st, hst, -⟩ := foldlM_scanned h
      rw [hwithout, foldlM_stopped hstop] at hst
      cases hst
    refine iff_of_true ?_ (Or.inr (Or.inl hthrown))
    rw [parseString, parseString, hwith, hwithout, foldlM_stopped hstop, foldlM_stopped hstop]

section Bench

/-- A message with one signal. -/
def speedMessage : Bytes :=
  ascii "BO_ 257 ESP: 8 ECU\n SG_ SPEED : 0|16@1+ (1,0) [0|300] \"km/h\" ECU\n"

/-- A signal line without the colon behind its name. -/
def noColon : Bytes := ascii " SG_ RPM 16|16@1+ (1,0) [0|8000] \"rpm\" ECU"

/-- A signal line with a word for its scale. -/
def wordScale : Bytes := ascii " SG_ RPM : 16|16@1+ (auto,0) [0|8000] \"rpm\" ECU"

theorem costs_itself_noColon :
    parseString (fromCharsSigned 64) (speedMessage ++ noColon ++ [LF] ++ []) =
      parseString (fromCharsSigned 64) (speedMessage ++ []) := by
  have hbad : Unreadable (fromCharsSigned 64) (trim noColon) :=
    Or.inl ⟨by decide +kernel, fun _ => rfl⟩
  refine (costs_itself_iff (fromCharsSigned 64) ?_ ?_ hbad).mpr (Or.inl fun _ _ => ?_)
  · exact Or.inr (by decide +kernel)
  · decide +kernel
  · have hnone : numbers (trim noColon) = [] := by decide +kernel
    simp [hnone, Convertible]

/-- The word costs the signal of the message too. -/
theorem not_costs_itself_wordScale :
    Unreadable (fromCharsSigned 64) (trim wordScale) ∧
      parseString (fromCharsSigned 64) (speedMessage ++ wordScale ++ [LF] ++ []) ≠
        parseString (fromCharsSigned 64) (speedMessage ++ []) := by
  constructor
  · refine Or.inl ⟨by decide +kernel, fun canId => ?_⟩
    have hfield : ascii "auto" ∈ numbers (trim wordScale) := by decide +kernel
    have hthrown := (@parseSignalDefinition_thrown_iff _ (fromCharsSigned 64) (trim wordScale)
      canId).mpr fun h => h _ hfield (by decide +kernel)
    simp [signalUnder, hthrown, Except.toOption]
  · decide +kernel

end Bench

end VehicleSpy.Dbc.DBCFileParser
