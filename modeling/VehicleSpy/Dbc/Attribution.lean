import VehicleSpy.Machine.Prefixes
import VehicleSpy.Dbc.FileParser

/-! # Which message a signal is filed under

The signals that `parseString` files under each CAN id, against the signals of the
message whose `BO_` line stands nearest above them. The two agree unless a signal line
stands under a `BO_` line with an unreadable id while an earlier id is still current.
-/

namespace VehicleSpy.Dbc

open Text Machine

variable {D : Type} (stod : Bytes → Option D)

section Result

/-- A definition as its `SG_` line gives it, before any `VAL_` line is applied. -/
def DBCSignalDefinition.plain (sig : DBCSignalDefinition D) : DBCSignalDefinition D :=
  { sig with valueTable := [] }

theorem map_plain_applyValueTable (signals : List (DBCSignalDefinition D)) (table : ValueTable) :
    (applyValueTable signals table).map DBCSignalDefinition.plain =
      signals.map DBCSignalDefinition.plain := by
  induction signals with
  | nil => rfl
  | cons sig signals ih =>
    rw [applyValueTable]
    split
    · rfl
    · rw [List.map_cons, ih, List.map_cons]

theorem map_plain_applyValueTables (signals : List (DBCSignalDefinition D))
    (tables : List ValueTable) :
    (tables.foldl applyValueTable signals).map DBCSignalDefinition.plain =
      signals.map DBCSignalDefinition.plain := by
  induction tables generalizing signals with
  | nil => rfl
  | cons table tables ih => rw [List.foldl_cons, ih, map_plain_applyValueTable]

theorem signalsFor_addSignal (result : DBCParseResult D) (sig : DBCSignalDefinition D) (k : ℕ) :
    (signalsFor (addSignal result sig) k).getD [] =
      (signalsFor result k).getD [] ++ if sig.canId = k then [sig] else [] := by
  induction result with
  | nil => by_cases h : sig.canId = k <;> simp [addSignal, signalsFor, h]
  | cons p result ih =>
    obtain ⟨canId, defs⟩ := p
    simp only [signalsFor] at ih ⊢
    by_cases hs : canId = sig.canId
    · subst hs
      by_cases h : sig.canId = k <;> simp [addSignal, h]
    · rw [addSignal, if_neg hs]
      by_cases h : canId = k
      · subst h
        simp [Ne.symm hs]
      · simp only [List.find?_cons, h, decide_false]
        exact ih

/-- Grouping keeps, under each id, the signals of that id in their order. -/
theorem signalsFor_foldl_addSignal (signals : List (DBCSignalDefinition D))
    (result : DBCParseResult D) (k : ℕ) :
    (signalsFor (signals.foldl addSignal result) k).getD [] =
      (signalsFor result k).getD [] ++ signals.filter (·.canId = k) := by
  induction signals generalizing result with
  | nil => simp
  | cons sig signals ih =>
    rw [List.foldl_cons, ih, signalsFor_addSignal, List.append_assoc]
    by_cases h : sig.canId = k <;> simp [h]

theorem signalsFor_buildResult (signals : List (DBCSignalDefinition D)) (tables : List ValueTable)
    (k : ℕ) :
    ((signalsFor (buildResult signals tables) k).getD []).map DBCSignalDefinition.plain =
      (signals.filter (·.canId = k)).map DBCSignalDefinition.plain := by
  have hk : ∀ l : List (DBCSignalDefinition D), (l.filter (·.canId = k)).map
      DBCSignalDefinition.plain = (l.map DBCSignalDefinition.plain).filter (·.canId = k) := by
    intro l
    rw [List.filter_map]
    rfl
  rw [buildResult, signalsFor_foldl_addSignal, hk, ← map_plain_applyValueTables signals tables,
    ← hk]
  rfl

end Result

namespace DBCFileParser

section Lines

/-- The id of the nearest message above a line, if its `BO_` line gives a non-zero one. -/
def nearestMessage (above : List Bytes) : Option ℕ :=
  ((above.reverse.find? isBo).bind parseBoLine).filter (· ≠ 0)

/-- The last id that a `BO_` line above gives at all, and zero if none does. -/
def lastReadable (above : List Bytes) : ℕ :=
  ((above.reverse.filter isBo).findSome? parseBoLine).getD 0

variable {above : List Bytes} {line : Bytes}

@[simp] theorem nearestMessage_concat (above : List Bytes) (line : Bytes) :
    nearestMessage (above ++ [line]) =
      if isBo line then (parseBoLine line).filter (· ≠ 0) else nearestMessage above := by
  by_cases h : isBo line <;> simp [nearestMessage, h]

@[simp] theorem lastReadable_concat (above : List Bytes) (line : Bytes) :
    lastReadable (above ++ [line]) =
      if isBo line then (parseBoLine line).getD (lastReadable above) else lastReadable above := by
  by_cases h : isBo line
  · cases hb : parseBoLine line <;> simp [lastReadable, h, hb]
  · simp [lastReadable, h]

/-- A readable nearest message is the last readable one. -/
theorem lastReadable_of_nearestMessage {k : ℕ} (h : nearestMessage above = some k) :
    lastReadable above = k ∧ k ≠ 0 := by
  induction above using List.reverseRecOn with
  | nil => cases h
  | append_singleton above line ih =>
    rw [nearestMessage_concat] at h
    rw [lastReadable_concat]
    split at h
    · next hb =>
      obtain ⟨hk, h0⟩ := Option.filter_eq_some_iff.mp h
      rw [if_pos hb, hk]
      exact ⟨rfl, by simpa using h0⟩
    · next hb =>
      rw [if_neg hb]
      exact ih h

/-- The signal that a signal line adds under a current id. -/
def signalUnder (line : Bytes) (canId : ℕ) : Option (DBCSignalDefinition D) :=
  if isSg line then (parseSignalDefinition stod line canId).toOption else none

/-- The signal that the line adds, with the lines above it. -/
def contribution (above : List Bytes) (line : Bytes) : Option (DBCSignalDefinition D) :=
  if lastReadable above = 0 then none else signalUnder stod line (lastReadable above)

/-- The signal of message `k` on the line, by the nearest `BO_` line above it. -/
def ownSignal (k : ℕ) (above : List Bytes) (line : Bytes) : Option (DBCSignalDefinition D) :=
  if nearestMessage above = some k then signalUnder stod line k else none

/-- A signal line that would be added, under an unreadable id while an earlier one is current. -/
def staleLine (above : List Bytes) (line : Bytes) : Option Bytes :=
  if nearestMessage above = none ∧ (contribution stod above line).isSome then some line else none

/-- A signal line under a current id with a number that `std::stod` throws on. -/
def throwingLine (above : List Bytes) (line : Bytes) : Option Bytes :=
  if isSg line ∧ lastReadable above ≠ 0 then
    match parseSignalDefinition stod line (lastReadable above) with
    | .error .thrown => some line
    | _ => none
  else none

end Lines

section Scan

variable {stod} {above : List Bytes} {line : Bytes} {k : ℕ}

theorem parseSignalDefinition_fields {sig : DBCSignalDefinition D}
    (h : parseSignalDefinition stod line k = .ok sig) : sig.canId = k ∧ sig.plain = sig := by
  unfold parseSignalDefinition at h
  cases hp : findStr (ascii "SG_") line with
  | none => rw [hp] at h; cases h
  | some pos =>
    simp only [hp] at h
    generalize parseNameAndMultiplexor (skipWs (line.drop (pos + 3))) = p at h
    cases h₁ : parseStartBitAndLength p.2 with
    | error e => simp [h₁, bind, Except.bind] at h
    | ok q =>
      cases h₂ : parseScaleOffset stod q.2 with
      | error e => simp [h₁, h₂, bind, Except.bind] at h
      | ok r =>
        cases h₃ : parseMinMax stod r.2 with
        | error e => simp [h₁, h₂, h₃, bind, Except.bind] at h
        | ok t =>
          simp only [h₁, h₂, h₃, bind, Except.bind, pure, Except.pure, Except.ok.injEq] at h
          subst h
          exact ⟨rfl, rfl⟩

theorem signalUnder_fields {sig : DBCSignalDefinition D}
    (h : signalUnder stod line k = some sig) : sig.canId = k ∧ sig.plain = sig := by
  unfold signalUnder at h
  split at h
  · cases hp : parseSignalDefinition stod line k with
    | error e => rw [hp] at h; cases h
    | ok sig' =>
      rw [hp] at h
      obtain rfl : sig' = sig := Option.some.inj h
      exact parseSignalDefinition_fields hp
  · cases h

/-- What the parser has read of the lines above. -/
structure Scanned (stod : Bytes → Option D) (above : List Bytes) (st : ParserState D) : Prop where
  currentCanId : st.currentCanId = lastReadable above
  signals : st.signals = alongPrefixes (contribution stod) [] above

theorem not_isSg_of_isBo (h : isBo line = true) : isSg line = false := by
  obtain ⟨t, rfl⟩ := startsWith_iff.mp h
  rfl

theorem Scanned.skip {st st' : ParserState D} (h : Scanned stod above st)
    (hid : st'.currentCanId = lastReadable (above ++ [line])) (hs : st'.signals = st.signals)
    (hc : contribution stod above line = none) : Scanned stod (above ++ [line]) st' := by
  constructor
  · exact hid
  rw [hs, h.signals, alongPrefixes_concat, List.nil_append, hc, Option.toList_none,
    List.append_nil]

variable {st : ParserState D}

theorem parseLine_bo (h : Scanned stod above st) (hb : isBo line = true) :
    ∃ st', parseLine stod st line = .ok st' ∧ Scanned stod (above ++ [line]) st' := by
  have hc : contribution stod above line = none := by
    simp [contribution, signalUnder, not_isSg_of_isBo hb]
  cases hp : parseBoLine line with
  | none =>
    refine ⟨st, by simp [parseLine, hb, hp], h.skip ?_ rfl hc⟩
    simp [hb, hp, h.currentCanId]
  | some canId =>
    refine ⟨{ st with currentCanId := canId }, by simp [parseLine, hb, hp], h.skip ?_ rfl hc⟩
    simp [hb, hp]

theorem parseLine_other (h : Scanned stod above st) (hb : isBo line = false)
    (hs : isSg line = false) :
    ∃ st', parseLine stod st line = .ok st' ∧ Scanned stod (above ++ [line]) st' := by
  have hc : contribution stod above line = none := by simp [contribution, signalUnder, hs]
  have hid : st.currentCanId = lastReadable (above ++ [line]) := by simp [hb, h.currentCanId]
  by_cases hv : startsWith (ascii "VAL_") line = true
  · cases hp : parseValLine line with
    | none => exact ⟨st, by simp [parseLine, hb, hs, hv, hp], h.skip hid rfl hc⟩
    | some table =>
      exact ⟨{ st with valueTables := st.valueTables ++ [table] },
        by simp [parseLine, hb, hs, hv, hp], h.skip hid rfl hc⟩
  · exact ⟨st, by simp [parseLine, hb, hs, hv], h.skip hid rfl hc⟩

theorem parseLine_sg (h : Scanned stod above st) (hb : isBo line = false) (hs : isSg line = true)
    (ht : throwingLine stod above line = none) :
    ∃ st', parseLine stod st line = .ok st' ∧ Scanned stod (above ++ [line]) st' := by
  have hid : st.currentCanId = lastReadable (above ++ [line]) := by simp [hb, h.currentCanId]
  by_cases h0 : lastReadable above = 0
  · refine ⟨st, by simp [parseLine, hb, hs, h.currentCanId, h0], h.skip hid rfl ?_⟩
    simp [contribution, h0]
  · cases hp : parseSignalDefinition stod line (lastReadable above) with
    | ok sig =>
      have hc : contribution stod above line = some sig := by
        simp [contribution, h0, signalUnder, hs, hp, Except.toOption]
      refine ⟨{ st with signals := st.signals ++ [sig] },
        by simp [parseLine, hb, hs, h.currentCanId, h0, hp], hid, ?_⟩
      rw [alongPrefixes_concat, List.nil_append, hc, ← h.signals, Option.toList_some]
    | error e =>
      cases e with
      | rejected =>
        refine ⟨st, by simp [parseLine, hb, hs, h.currentCanId, h0, hp], h.skip hid rfl ?_⟩
        simp [contribution, signalUnder, hs, hp, Except.toOption]
      | thrown => simp [throwingLine, hs, h0, hp] at ht

/-- A line that does not throw is added to what is read. -/
theorem parseLine_scanned (h : Scanned stod above st) (ht : throwingLine stod above line = none) :
    ∃ st', parseLine stod st line = .ok st' ∧ Scanned stod (above ++ [line]) st' := by
  cases hb : isBo line with
  | true => exact parseLine_bo h hb
  | false =>
    cases hs : isSg line with
    | true => exact parseLine_sg h hb hs ht
    | false => exact parseLine_other h hb hs

theorem parseLine_thrown (h : Scanned stod above st) (ht : throwingLine stod above line ≠ none) :
    parseLine stod st line = .error .thrown := by
  unfold throwingLine at ht
  split at ht
  · next hs =>
    have hb : isBo line = false := Bool.eq_false_iff.mpr fun hb =>
      Bool.false_ne_true ((not_isSg_of_isBo hb).symm.trans hs.1)
    split at ht
    · next hp => simp [parseLine, hb, hs.1, h.currentCanId, hs.2, hp]
    · exact absurd rfl ht
  · exact absurd rfl ht

end Scan

section Text

variable (text : Bytes)

/-- The signals filed under an id, as their `SG_` lines give them. -/
def filed (k : ℕ) : List (DBCSignalDefinition D) :=
  ((signalsFor (parseString stod text) k).getD []).map DBCSignalDefinition.plain

/-- The signals on the accepted signal lines whose nearest message is `k`. -/
def ownSignals (k : ℕ) : List (DBCSignalDefinition D) :=
  alongPrefixes (ownSignal stod k) [] (trimmedLines text)

def throwingLines : List Bytes := alongPrefixes (throwingLine stod) [] (trimmedLines text)

def staleLines : List Bytes := alongPrefixes (staleLine stod) [] (trimmedLines text)

/-- Each id has the signals of its own message, and no others. A line that throws makes the
parser accept no line at all. -/
def Attributed : Prop :=
  if throwingLines stod text = [] then ∀ k, filed stod text k = ownSignals stod text k
  else parseString stod text = []

variable {stod}

theorem foldlM_scanned {lines : List Bytes} (h : alongPrefixes (throwingLine stod) [] lines = []) :
    ∃ st, lines.foldlM (parseLine stod) {} = .ok st ∧ Scanned stod lines st := by
  induction lines using List.reverseRecOn with
  | nil => exact ⟨{}, rfl, rfl, rfl⟩
  | append_singleton above line ih =>
    rw [alongPrefixes_concat, List.append_eq_nil_iff, Option.toList_eq_nil_iff] at h
    obtain ⟨st, hst, hsc⟩ := ih h.1
    obtain ⟨st', hst', hsc'⟩ := parseLine_scanned hsc h.2
    refine ⟨st', ?_, hsc'⟩
    rw [List.foldlM_append, hst]
    simp [bind, Except.bind, hst', pure, Except.pure]

theorem foldlM_thrown {lines : List Bytes} (h : alongPrefixes (throwingLine stod) [] lines ≠ []) :
    lines.foldlM (parseLine stod) {} = .error .thrown := by
  induction lines using List.reverseRecOn with
  | nil => exact absurd rfl h
  | append_singleton above line ih =>
    rw [List.foldlM_append]
    by_cases ha : alongPrefixes (throwingLine stod) [] above = []
    · obtain ⟨st, hst, hsc⟩ := foldlM_scanned ha
      rw [alongPrefixes_concat, ha, List.nil_append, ne_eq, Option.toList_eq_nil_iff] at h
      simp [hst, bind, Except.bind, parseLine_thrown hsc h]
    · rw [ih ha]
      rfl

/-- The signals filed under an id are those that its lines contributed. -/
theorem filed_eq (h : throwingLines stod text = []) (k : ℕ) :
    filed stod text k =
      alongPrefixes (fun above line => (contribution stod above line).filter (·.canId = k)) []
        (trimmedLines text) := by
  obtain ⟨st, hst, hsc⟩ := foldlM_scanned h
  rw [filed, parseString, hst, signalsFor_buildResult, hsc.signals, ← filter_alongPrefixes]
  refine (List.map_congr_left fun sig hsig => ?_).trans (List.map_id _)
  obtain ⟨above, line, -, -, hc⟩ := mem_alongPrefixes.mp (List.mem_of_mem_filter hsig)
  unfold contribution at hc
  split at hc
  · cases hc
  · exact (signalUnder_fields hc).2

theorem ownSignal_eq (k : ℕ) (above : List Bytes) (line : Bytes) :
    ownSignal stod k above line =
      if nearestMessage above = some k then
        (contribution stod above line).filter (·.canId = k) else none := by
  unfold ownSignal
  split
  · next h =>
    obtain ⟨hl, hk⟩ := lastReadable_of_nearestMessage h
    rw [contribution, hl, if_neg hk]
    cases hs : signalUnder stod line k with
    | none => rfl
    | some sig => simp [Option.filter, (signalUnder_fields hs).1]
  · rfl

/-- No line is stale exactly if every contribution goes to the nearest message. -/
theorem staleLine_none_iff {above : List Bytes} {line : Bytes} :
    staleLine stod above line = none ↔
      ∀ k, (contribution stod above line).filter (·.canId = k) = ownSignal stod k above line := by
  simp only [ownSignal_eq]
  cases hn : nearestMessage above with
  | some m =>
    have hl := (lastReadable_of_nearestMessage hn).1
    apply iff_of_true (by simp [staleLine, hn])
    intro k
    split
    · rfl
    · next h =>
      cases hc : contribution stod above line with
      | none => rfl
      | some sig =>
        unfold contribution at hc
        split at hc
        · cases hc
        · have hk : sig.canId ≠ k := fun he => h (by rw [← he, (signalUnder_fields hc).1, hl])
          simp [Option.filter, hk]
  | none =>
    cases hc : contribution stod above line with
    | none => simp [staleLine, hc]
    | some sig =>
      apply iff_of_false (by simp [staleLine, hn, hc])
      intro h
      have := h sig.canId
      simp [Option.filter] at this

theorem attributed_iff (text : Bytes) :
    Attributed stod text ↔ (throwingLines stod text = [] → staleLines stod text = []) := by
  unfold Attributed
  split
  · next ht =>
    have hpart (k : ℕ) (above : List Bytes) (line : Bytes) :
        ownSignal stod k above line = none ∨ ownSignal stod k above line =
          (contribution stod above line).filter (·.canId = k) := by
      rw [ownSignal_eq]
      split
      · exact Or.inr rfl
      · exact Or.inl rfl
    simp only [filed_eq text ht, ownSignals, alongPrefixes_eq_iff (hpart _), ht, true_imp_iff,
      staleLines, alongPrefixes_eq_nil_iff, staleLine_none_iff]
    constructor
    · intro h x a y hv k
      exact h k x a y hv
    · intro h k x a y hv
      exact h x a y hv k
  · next ht =>
    apply iff_of_true
    · rw [parseString, foldlM_thrown ht]
    · exact fun h => absurd h ht

/-- An 11-bit message, and a 29-bit one below it. -/
def mixedIds : Bytes :=
  ascii ("BO_ 264 ENGINE: 8 ECU\n SG_ RPM : 0|16@1+ (1,0) [0|8000] \"rpm\" ECU\n" ++
    "BO_ 2566834709 EEC1: 8 ECU\n SG_ TORQUE : 16|8@1+ (1,0) [0|100] \"\" ECU\n")

theorem not_attributed_mixedIds : ¬ Attributed (fromCharsSigned 64) mixedIds := by
  have ht : throwingLines (fromCharsSigned 64) mixedIds = [] := by decide +kernel
  have hlen : (filed (fromCharsSigned 64) mixedIds 264).length ≠
      (ownSignals (fromCharsSigned 64) mixedIds 264).length := by decide +kernel
  rw [Attributed, if_pos ht, not_forall]
  exact ⟨264, fun h => hlen (congrArg List.length h)⟩

end Text

end DBCFileParser

end VehicleSpy.Dbc
