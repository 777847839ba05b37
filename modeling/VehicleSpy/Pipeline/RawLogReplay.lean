import VehicleSpy.Pipeline.FrameLines

/-! # Recording a live session and replaying it

The sink records the text of each line that became a frame, and the capture file source reads
that text with a parser of its own. It finds the same frame exactly if it takes the text for
text, the line has two-digit data bytes, and no comma cuts one of its tokens.
-/

namespace VehicleSpy.Pipeline

open Text Machine

namespace LiveTwaiSource

/-- Lines are parsed by the source itself, or by the normaliser of an ELM327 adapter. -/
inductive Mode
  | raw
  | elm327
  deriving DecidableEq, Repr

def lineFrame : Mode → Bytes → Option TwaiFrame
  | .raw => rawFrame
  | .elm327 => elmFrame

end LiveTwaiSource

/-- A line that the transport returns without its line end, and the clock at the time when a
frame of it is recorded, in milliseconds since the epoch. -/
structure ReceivedLine where
  text : Bytes
  now : ℤ
  lf_notMem : LF ∉ text
  now_ge : -2 ^ 63 ≤ now
  now_lt : now < 2 ^ 63

namespace RawLogSink

def writeLine (now : ℤ) (line : Bytes) : Bytes := decimal now ++ COMMA :: line ++ [LF]

end RawLogSink

namespace PipelineReplay

open LiveTwaiSource (Mode)

/-- The frame of a received line, with the clock at its recording. -/
def received (mode : Mode) (line : ReceivedLine) : Option (TwaiFrame × ℤ) :=
  (LiveTwaiSource.lineFrame mode line.text).map fun frame => (frame, line.now)

/-- The frames that the loop of `runReplay` takes from a live source. -/
def liveFrames (mode : Mode) (lines : List ReceivedLine) : List (TwaiFrame × ℤ) :=
  drain (received mode) lines

/-- What the loop appends to the raw log for a frame. -/
def recordRawLine : TwaiFrame × ℤ → Bytes
  | (frame, now) => if frame.rawLine = [] then [] else RawLogSink.writeLine now frame.rawLine

/-- The raw log after a live session. -/
def rawLog (mode : Mode) (lines : List ReceivedLine) : Bytes :=
  (liveFrames mode lines).flatMap recordRawLine

/-- The frames that the loop of `runReplay` takes from a capture file. -/
def replayFrames (file : Bytes) : List TimedFrame :=
  drain BinaryFileSource.lineFrame (BinaryFileSource.getlines file)

/-- Replaying the raw log gives the frames of the session, at the times of their recording. -/
def Reproduces (mode : Mode) (lines : List ReceivedLine) : Prop :=
  (replayFrames (rawLog mode lines)).map (fun frame => ((frame.timestampMs : ℤ), frame.bytes)) =
    (liveFrames mode lines).map fun (frame, now) => (now, frame.bytes)

open FrameLines BinaryFileSource

/-- The lines that become frames. -/
def Accepted : Mode → Bytes → Prop
  | .raw, line => FrameTokens LooseId LooseByte (lineTokens line)
  | .elm327, line => FrameTokens IsId ValueByte (lineTokens line)

instance : ∀ mode, DecidablePred (Accepted mode)
  | .raw => fun line => inferInstanceAs (Decidable (FrameTokens _ _ (lineTokens line)))
  | .elm327 => fun line => inferInstanceAs (Decidable (FrameTokens _ _ (lineTokens line)))

/-- The line is taken for text, its identifier has commas at its end only, and its data bytes
have two characters and no commas. -/
structure Replayable (line : Bytes) : Prop where
  text : looksLikeAsciiLine (dropCr line) = true
  id : ∀ tok ∈ (lineTokens line).head?, ∀ c ∈ tok.dropWhile (· != COMMA), c = COMMA
  data : ∀ tok ∈ (lineTokens line).tail, COMMA ∉ tok ∧ tok.length = 2

end PipelineReplay

namespace FrameLines

/-- What is known of the data bytes of an accepted line in either mode. -/
def WideByte (tok : Bytes) : Prop := StartsHex tok ∧ (COMMA ∈ tok → tok.length = 2)

section Commas

variable {tok : Bytes} {toks : List Bytes}

theorem LooseByte.wide (h : LooseByte tok) : WideByte tok := ⟨h.1, fun _ => h.2⟩

theorem ValueByte.wide (h : ValueByte tok) : WideByte tok :=
  ⟨h.1.startsHex, fun hc => absurd (h.1.2 _ hc) (by decide)⟩

theorem ne_comma_of_hex {c : Byte} (h : isDigit 16 c = true) : c ≠ COMMA := by
  rintro rfl
  exact absurd h (by decide)

/-- The digits that a token begins with stand in front of its first comma. -/
theorem takeWhile_isDigit (tok : Bytes) :
    (tok.takeWhile (· != COMMA)).takeWhile (isDigit 16) = tok.takeWhile (isDigit 16) := by
  rw [List.takeWhile_takeWhile]
  congr 1
  ext c
  have hdigit : isDigit 16 c = true → (c != COMMA) = true := fun hc =>
    bne_iff_ne.mpr (ne_comma_of_hex hc)
  simp only [and_iff_left_of_imp hdigit, Bool.decide_eq_true]

theorem hexLead_takeWhile (tok : Bytes) : hexLead (tok.takeWhile (· != COMMA)) = hexLead tok := by
  rw [hexLead, takeWhile_isDigit, hexLead]

theorem StartsHex.takeWhile (h : StartsHex tok) : StartsHex (tok.takeWhile (· != COMMA)) := by
  rwa [startsHex_iff, takeWhile_isDigit, ← startsHex_iff]

theorem LooseId.takeWhile (h : LooseId tok) : LooseId (tok.takeWhile (· != COMMA)) := by
  refine ⟨h.1.takeWhile, ?_, by rw [hexLead_takeWhile]; exact h.2.2⟩
  exact (List.takeWhile_prefix _).length_le.trans h.2.1

theorem StartsHex.ne_nil (h : StartsHex tok) : tok ≠ [] := by
  rintro rfl
  simp [StartsHex] at h

/-- The part of a token in front of its first comma, and what is cut from the rest. -/
theorem tokensBy_comma (h : StartsHex tok) : tokensBy (· == COMMA) tok =
    tok.takeWhile (· != COMMA) :: tokensBy (· == COMMA) (tok.dropWhile (· != COMMA)) :=
  tokensBy_eq_cons h.takeWhile.ne_nil

/-- Behind the first comma of an identifier there is no room for two characters. -/
theorem cut_id (h : LooseId tok)
    (hbytes : ∀ u ∈ tokensBy (· == COMMA) (tok.dropWhile (· != COMMA)), LooseByte u) :
    ∀ c ∈ tok.dropWhile (· != COMMA), c = COMMA := by
  have hpos := List.length_pos_of_ne_nil h.1.takeWhile.ne_nil
  have hlen : (tok.takeWhile (· != COMMA)).length + (tok.dropWhile (· != COMMA)).length ≤ 3 := by
    rw [← List.length_append, List.takeWhile_append_dropWhile]
    exact h.2.1
  intro c hc
  cases hd : tok.dropWhile (· != COMMA) with
  | nil =>
    rw [hd] at hc
    cases hc
  | cons d rest =>
    obtain rfl : d = COMMA := by
      have hn := List.head_dropWhile_not (· != COMMA) (l := tok) (by simp [hd])
      simpa [hd] using hn
    rw [hd, List.length_cons] at hlen
    rw [hd, tokensBy_cons (p := (· == COMMA)) (beq_self_eq_true COMMA)] at hbytes
    rw [hd] at hc
    rcases List.mem_cons.mp hc with rfl | hc
    · rfl
    · rcases mem_tokensBy_of_mem (p := (· == COMMA)) hc with he | ⟨u, hu, -⟩
      · exact eq_of_beq he
      · have hle := length_le_of_mem_tokensBy hu
        rw [(hbytes u hu).2] at hle
        omega

theorem cut_byte (h : WideByte tok) (hbytes : ∀ u ∈ tokensBy (· == COMMA) tok, LooseByte u) :
    COMMA ∉ tok ∧ tok.length = 2 := by
  rw [tokensBy_comma h.1] at hbytes
  have hfirst := (hbytes _ List.mem_cons_self).2
  have hcomma : COMMA ∉ tok := by
    intro hc
    have hself : tok.takeWhile (· != COMMA) = tok := by
      apply (List.takeWhile_prefix _).eq_of_length
      rw [hfirst, h.2 hc]
    have hne := List.takeWhile_eq_self_iff.mp hself COMMA hc
    simp at hne
  refine ⟨hcomma, ?_⟩
  have hself : tok.takeWhile (· != COMMA) = tok := by
    apply List.takeWhile_eq_self_iff.mpr
    rintro c hc
    apply bne_iff_ne.mpr
    rintro rfl
    exact hcomma hc
  rwa [hself] at hfirst

/-- Tokens that commas cut at the end of the identifier only are read as before. -/
theorem cut_tokens (h : FrameTokens LooseId WideByte (tok :: toks))
    (hid : ∀ c ∈ tok.dropWhile (· != COMMA), c = COMMA) (hdata : ∀ t ∈ toks, COMMA ∉ t) :
    (tok :: toks).flatMap (tokensBy (· == COMMA)) = tok.takeWhile (· != COMMA) :: toks := by
  have hrest : tokensBy (· == COMMA) (tok.dropWhile (· != COMMA)) = [] :=
    tokensBy_separators fun c hc => beq_iff_eq.mpr (hid c hc)
  rw [List.flatMap_cons, tokensBy_comma h.1.1, hrest,
    flatMap_tokensBy_comma hdata fun t ht => (h.2.2 t ht).1.ne_nil]
  rfl

end Commas

section Payload

open BinaryFileSource LiveTwaiSource

variable {line : Bytes}

/-- A high identifier byte is neither a digit nor white space. -/
theorem high_byte {id : ℕ} (h : id ≤ 0x7FF) :
    isBlank (id >>> 8 &&& 0xFF).toUInt8 = false ∧
      isDigit 16 (id >>> 8 &&& 0xFF).toUInt8 = false := by
  have hall : ∀ v : Fin 8, isBlank ((v : ℕ) &&& 0xFF).toUInt8 = false ∧
      isDigit 16 ((v : ℕ) &&& 0xFF).toUInt8 = false := by decide
  have hv : id >>> 8 < 8 := by
    rw [Nat.shiftRight_eq_div_pow]
    omega
  exact hall ⟨id >>> 8, hv⟩

theorem low_byte_small {id : ℕ} (h : id < 16) : isDigit 16 (id &&& 0xFF).toUInt8 = false := by
  have hall : ∀ v : Fin 16, isDigit 16 ((v : ℕ) &&& 0xFF).toUInt8 = false := by decide
  exact hall ⟨id, h⟩

theorem lineTokens_cons {c d : Byte} {rest : Bytes} (h : dropCr line = c :: d :: rest)
    (hd : Text.isBlank d = false) :
    ∃ rest', lineTokens line = tokensBy isSpaceOrTab (c :: d :: rest') := by
  have htrim : rtrim line = [c] ++ d :: rest.rdropWhile Text.isBlank := by
    rw [← rtrim_dropCr, h]
    exact rdropWhile_append_cons hd [c] rest
  refine ⟨rest.rdropWhile Text.isBlank, ?_⟩
  rw [lineTokens, htrim]
  rfl

/-- A token with one digit, and then none, denotes less than sixteen. -/
theorem hexLead_digit_lt {c d : Byte} {rest : Bytes} (hc : isDigit 16 c = true)
    (hd : isDigit 16 d = false) : hexLead (c :: d :: rest) < 16 := by
  have htake : (c :: d :: rest).takeWhile (isDigit 16) = [c] := by
    rw [List.takeWhile_cons_of_pos hc, List.takeWhile_cons_of_neg (by simp [hd])]
  rw [hexLead, htake]
  exact numValue_lt (List.forall_mem_singleton.mpr hc)

/-- No line of ten characters is the ten bytes of its frame: the second of them is neither a
digit nor white space, so that the identifier would be one digit. -/
theorem parseBinary_ne (h : FrameTokens LooseId WideByte (lineTokens line)) :
    parseBinary (dropCr line) ≠ some (tokenFrame (lineTokens line)) := by
  intro hbin
  unfold parseBinary at hbin
  split at hbin
  · cases htoks : lineTokens line with
    | nil =>
      rw [htoks] at h
      exact h
    | cons tok toks =>
      rw [htoks] at h hbin
      obtain ⟨id, hid⟩ : ∃ id, id = hexLead tok := ⟨_, rfl⟩
      have hmax : id ≤ 0x7FF := hid ▸ h.1.2.2
      obtain ⟨hblank, hnodigit⟩ := high_byte hmax
      rw [tokenFrame, ← hid] at hbin
      obtain ⟨rest, hline⟩ := lineTokens_cons (Option.some.inj hbin) hblank
      rw [htoks] at hline
      have hspace := notSpace_of_notBlank hblank
      obtain ⟨c, hc, hdigit⟩ := h.1.1
      cases hlow : isSpaceOrTab (id &&& 0xFF).toUInt8 with
      | true =>
        rw [tokensBy_cons hlow, tokensBy_letter hspace] at hline
        obtain ⟨rfl, -⟩ := List.cons.inj hline
        obtain rfl := Option.some.inj hc
        exact Bool.false_ne_true (hnodigit.symm.trans hdigit)
      | false =>
        have hstay : (!isSpaceOrTab (id >>> 8 &&& 0xFF).toUInt8) = true := by
          rw [hspace, Bool.not_false]
        have htake := List.takeWhile_cons_of_pos (p := (!isSpaceOrTab ·)) (l := rest) hstay
        rw [tokensBy_letter hlow, htake] at hline
        obtain ⟨rfl, -⟩ := List.cons.inj hline
        obtain rfl := Option.some.inj hc
        have hsmall : id < 16 := hid ▸ hexLead_digit_lt hdigit hnodigit
        exact Bool.false_ne_true ((low_byte_small hsmall).symm.trans hdigit)
  · cases hbin

end Payload

end FrameLines

namespace PipelineReplay

open LiveTwaiSource FrameLines BinaryFileSource

variable {mode : Mode} {line : Bytes} {lines : List ReceivedLine}

theorem Accepted.wide (h : Accepted mode line) :
    FrameTokens LooseId WideByte (lineTokens line) := by
  cases mode with
  | raw => exact h.imp (fun _ => id) fun _ => LooseByte.wide
  | elm327 => exact h.imp (fun _ => IsId.loose) fun _ => ValueByte.wide

theorem Replayable.of_payload (h : FrameTokens LooseId WideByte (lineTokens line))
    (hp : payloadFrame (dropCr line) = some (tokenFrame (lineTokens line))) : Replayable line := by
  unfold payloadFrame at hp
  by_cases htext : looksLikeAsciiLine (dropCr line) = true
  · rw [if_pos htext, parseAscii_iff, tokens_ascii htext] at hp
    obtain ⟨hcut, -⟩ := hp
    cases htoks : lineTokens line with
    | nil =>
      rw [htoks] at h
      exact h.elim
    | cons tok toks =>
      rw [htoks] at h hcut
      rw [List.flatMap_cons, tokensBy_comma h.1.1, List.cons_append] at hcut
      refine ⟨htext, ?_, ?_⟩
      · rw [htoks]
        rintro t ht
        obtain rfl := Option.some.inj ht
        exact cut_id h.1 fun u hu => hcut.2.2 u (List.mem_append_left _ hu)
      · rw [htoks]
        intro t ht
        refine cut_byte (h.2.2 t ht) fun u hu => hcut.2.2 u (List.mem_append_right _ ?_)
        exact List.mem_flatMap_of_mem ht hu
  · rw [if_neg htext] at hp
    exact absurd hp (parseBinary_ne h)

theorem Replayable.payload (h : FrameTokens LooseId WideByte (lineTokens line))
    (hr : Replayable line) :
    payloadFrame (dropCr line) = some (tokenFrame (lineTokens line)) := by
  unfold payloadFrame
  rw [if_pos hr.text, parseAscii_iff, tokens_ascii hr.text]
  have hid := hr.id
  have hdata := hr.data
  cases htoks : lineTokens line with
  | nil =>
    rw [htoks] at h
    exact h.elim
  | cons tok toks =>
    rw [htoks] at h hid hdata
    rw [cut_tokens h (hid tok rfl) fun t ht => (hdata t ht).1]
    refine ⟨⟨h.1.takeWhile, h.2.1, fun t ht => ⟨(h.2.2 t ht).1, (hdata t ht).2⟩⟩, ?_⟩
    rw [tokenFrame, tokenFrame, hexLead_takeWhile]

/-- A frame's payload is read as the same frame exactly if the line is replayable. -/
theorem payloadFrame_iff (h : FrameTokens LooseId WideByte (lineTokens line)) :
    payloadFrame (dropCr line) = some (tokenFrame (lineTokens line)) ↔ Replayable line :=
  ⟨Replayable.of_payload h, Replayable.payload h⟩

theorem rawFrame_rawLine {frame : TwaiFrame} (h : rawFrame line = some frame) :
    frame.rawLine = line := by
  unfold rawFrame at h
  dsimp only at h
  split at h
  · cases h
  · obtain ⟨_, -, rfl⟩ := Option.map_eq_some_iff.mp h
    rfl

theorem rawFrame_iff {frame : TwaiFrame} : rawFrame line = some frame ↔
    FrameTokens LooseId LooseByte (lineTokens line) ∧
      frame = ⟨tokenFrame (lineTokens line), line⟩ := by
  constructor
  · intro h
    have hlive : liveFrame line = some frame.bytes := Option.map_eq_some_iff.mpr ⟨frame, h, rfl⟩
    obtain ⟨htokens, hbytes⟩ := liveFrame_iff.mp hlive
    refine ⟨htokens, ?_⟩
    rw [← hbytes]
    conv_rhs => rw [← rawFrame_rawLine h]
  · rintro ⟨htokens, rfl⟩
    obtain ⟨frame, h, hbytes⟩ := Option.map_eq_some_iff.mp (liveFrame_iff.mpr ⟨htokens, rfl⟩)
    rw [h, ← hbytes]
    conv_rhs => rw [← rawFrame_rawLine h]

theorem lineTokens_rtrim (line : Bytes) : lineTokens (rtrim line) = lineTokens line := by
  rw [lineTokens, rtrim, rtrim, List.rdropWhile_idempotent, lineTokens, rtrim]

theorem elmFrame_iff {frame : TwaiFrame} : elmFrame line = some frame ↔
    FrameTokens IsId ValueByte (lineTokens line) ∧
      frame = ⟨tokenFrame (lineTokens line), line⟩ := by
  unfold elmFrame
  dsimp only
  by_cases hnil : rtrim line = []
  · have htokens : lineTokens line = [] := by
      rw [lineTokens, hnil]
      rfl
    rw [if_pos hnil, htokens]
    simp [FrameTokens]
  · rw [if_neg hnil]
    have hiff : ∀ bytes, Elm327Normaliser.normalise (rtrim line) = .frame bytes ↔
        FrameTokens IsId ValueByte (lineTokens line) ∧ bytes = tokenFrame (lineTokens line) := by
      intro bytes
      rw [normalise_iff, lineTokens_rtrim]
    cases hn : Elm327Normaliser.normalise (rtrim line) with
    | frame bytes =>
      obtain ⟨htokens, rfl⟩ := (hiff bytes).mp hn
      simp only [htokens, true_and, Option.some.injEq, eq_comm]
    | skip | malformed =>
      refine iff_of_false (by simp) fun h => ?_
      rw [(hiff _).mpr ⟨h.1, rfl⟩] at hn
      cases hn

/-- The frame of an accepted line, in either mode. -/
theorem lineFrame_iff {frame : TwaiFrame} : LiveTwaiSource.lineFrame mode line = some frame ↔
    Accepted mode line ∧ frame = ⟨tokenFrame (lineTokens line), line⟩ := by
  cases mode with
  | raw => exact rawFrame_iff
  | elm327 => exact elmFrame_iff

section Records

variable {now : ℤ}

/-- A record is read as its time and its text, unless the time is before the epoch. -/
theorem readRecord_eq (hlt : now < 2 ^ 63) (line : Bytes) :
    readRecord (decimal now ++ COMMA :: line) =
      if 0 ≤ now then some (now.toNat, dropCr line) else none := by
  have hcomma := notMem_decimal (c := COMMA) (by decide) (by decide) now
  rw [readRecord, dropCr_append, cutAt_append_cons hcomma]
  simp only [if_neg (decimal_ne_nil now), fromChars_decimal hlt]
  split <;> rfl

end Records

section Sessions

/-- A line of the raw log. -/
def record (frame : TwaiFrame × ℤ) : Bytes := decimal frame.2 ++ COMMA :: frame.1.rawLine

/-- A frame with its time, as the session and the replay show it. -/
def shown (frame : TimedFrame) : ℤ × Bytes := (frame.timestampMs, frame.bytes)

theorem mem_liveFrames {frame : TwaiFrame × ℤ} : frame ∈ liveFrames mode lines ↔
    ∃ l ∈ lines, Accepted mode l.text ∧
      frame = (⟨tokenFrame (lineTokens l.text), l.text⟩, l.now) := by
  rw [liveFrames, drain_eq, List.mem_filterMap]
  constructor
  · rintro ⟨l, hl, h⟩
    obtain ⟨f, hf, rfl⟩ := Option.map_eq_some_iff.mp h
    obtain ⟨hacc, rfl⟩ := lineFrame_iff.mp hf
    exact ⟨l, hl, hacc, rfl⟩
  · rintro ⟨l, hl, hacc, rfl⟩
    exact ⟨l, hl, Option.map_eq_some_iff.mpr ⟨_, lineFrame_iff.mpr ⟨hacc, rfl⟩, rfl⟩⟩

theorem Accepted.ne_nil (h : Accepted mode line) : line ≠ [] := by
  rintro rfl
  exact h.wide

theorem recordRawLine_eq {frame : TwaiFrame × ℤ} (h : frame ∈ liveFrames mode lines) :
    recordRawLine frame = record frame ++ [LF] := by
  obtain ⟨l, -, hacc, rfl⟩ := mem_liveFrames.mp h
  rw [recordRawLine, if_neg hacc.ne_nil, RawLogSink.writeLine, record]

theorem lf_notMem_record {frame : TwaiFrame × ℤ} (h : frame ∈ liveFrames mode lines) :
    LF ∉ record frame := by
  obtain ⟨l, -, -, rfl⟩ := mem_liveFrames.mp h
  intro hmem
  rcases List.mem_append.mp hmem with hd | hl
  · exact notMem_decimal (by decide) (by decide) l.now hd
  · rcases List.mem_cons.mp hl with hc | hl
    · exact absurd hc (by decide)
    · exact l.lf_notMem hl

/-- The lines of the raw log are the records of the frames of the session. -/
theorem getlines_rawLog (mode : Mode) (lines : List ReceivedLine) :
    getlines (rawLog mode lines) = (liveFrames mode lines).map record := by
  have hlog : rawLog mode lines = ((liveFrames mode lines).map record).flatMap (· ++ [LF]) := by
    rw [rawLog, List.flatMap_map]
    exact List.flatMap_congr fun frame h => recordRawLine_eq h
  rw [hlog, getlines_flatMap]
  intro r hr
  obtain ⟨frame, hf, rfl⟩ := List.mem_map.mp hr
  exact lf_notMem_record hf

/-- A session is reproduced if each of its records is read as the frame that it was made of. -/
theorem reproduces_iff_records : Reproduces mode lines ↔ ∀ frame ∈ liveFrames mode lines,
    (BinaryFileSource.lineFrame (record frame)).map shown = some (frame.2, frame.1.bytes) := by
  rw [← filterMap_eq_map_iff, Reproduces, replayFrames, drain_eq, getlines_rawLog,
    List.filterMap_map, List.map_filterMap]
  rfl

theorem record_faithful_iff {l : ReceivedLine} (h : Accepted mode l.text) :
    (BinaryFileSource.lineFrame (decimal l.now ++ COMMA :: l.text)).map shown =
        some (l.now, tokenFrame (lineTokens l.text)) ↔
      0 ≤ l.now ∧ Replayable l.text := by
  rw [← payloadFrame_iff h.wide, BinaryFileSource.lineFrame, readRecord_eq l.now_lt]
  by_cases hnow : 0 ≤ l.now
  · rw [if_pos hnow]
    cases hp : payloadFrame (dropCr l.text) with
    | none => simp [hp]
    | some bytes => simp [hp, hnow, shown]
  · simp [hnow]

end Sessions

/-- If a session is reproduced, then so is each of its lines. -/
theorem Reproduces.replayable (h : Reproduces mode lines) :
    ∀ l ∈ lines, Accepted mode l.text → 0 ≤ l.now ∧ Replayable l.text := by
  intro l hl hacc
  have hmem : (⟨tokenFrame (lineTokens l.text), l.text⟩, l.now) ∈ liveFrames mode lines :=
    mem_liveFrames.mpr ⟨l, hl, hacc, rfl⟩
  have hrecord := reproduces_iff_records.mp h _ hmem
  exact (record_faithful_iff hacc).mp hrecord

/-- The replay reproduces a session exactly if each line that became a frame is replayable. -/
theorem reproduces_iff : Reproduces mode lines ↔
    ∀ l ∈ lines, Accepted mode l.text → 0 ≤ l.now ∧ Replayable l.text := by
  constructor
  · exact Reproduces.replayable
  · intro h
    rw [reproduces_iff_records]
    intro frame hframe
    obtain ⟨l, hl, hacc, rfl⟩ := mem_liveFrames.mp hframe
    exact (record_faithful_iff hacc).mpr (h l hl hacc)

/-- In either mode there is a line that becomes a frame and is not replayed as one. -/
theorem not_reproduces_phantomByte :
    ¬ Reproduces .raw [⟨ascii "123 1Z", 0, by decide, by decide, by decide⟩] ∧
      ¬ Reproduces .elm327 [⟨ascii "123 1", 0, by decide, by decide, by decide⟩] := by
  constructor
  · intro h
    have hline := (h.replayable _ List.mem_cons_self (by decide +kernel)).2
    exact absurd hline.text (by decide)
  · intro h
    have hline := (h.replayable _ List.mem_cons_self (by decide +kernel)).2
    exact absurd hline.data (by decide)

end PipelineReplay

end VehicleSpy.Pipeline
