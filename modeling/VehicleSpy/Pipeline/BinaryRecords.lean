import VehicleSpy.Pipeline.RawLogReplay

/-! # Binary capture records

A raw frame goes through a reader of lines and a test for text before it is taken for what it is.
A frame with a line feed, one that ends in a carriage return and one that looks like text are not
read back, and no other frame of the file makes up for them.
-/

namespace VehicleSpy.Pipeline

open Text Machine

/-- A ten-byte frame with the time that is written in front of it. -/
structure CaptureRecord where
  timestampMs : ℕ
  bytes : Bytes
  timestampMs_lt : timestampMs < 2 ^ 64
  length_bytes : bytes.length = 10

namespace CaptureRecord

variable (r : CaptureRecord)

def frame : TimedFrame := ⟨r.timestampMs, r.bytes⟩

/-- The record without the LF behind it. -/
def line : Bytes := baseDigits 10 r.timestampMs ++ COMMA :: r.bytes

/-- No byte ends a line, and some byte does not belong to a line of text. -/
structure Plain : Prop where
  lf : LF ∉ r.bytes
  cr : r.bytes.getLast? ≠ some CR
  text : BinaryFileSource.looksLikeAsciiLine r.bytes = false

end CaptureRecord

namespace BinaryFileSource

open CaptureRecord FrameLines

/-- One record a frame, each closed by an LF. -/
def captureFile (records : List CaptureRecord) : Bytes := records.flatMap fun r => r.line ++ [LF]

/-- The source yields the frames that the file was made of. -/
def ReadsBack (records : List CaptureRecord) : Prop :=
  PipelineReplay.replayFrames (captureFile records) = records.map frame

/-- What is read from one record. -/
def recordFrames (r : CaptureRecord) : List TimedFrame :=
  (r.line.splitOnP (· == LF)).filterMap lineFrame

/-- A frame as a short text denotes it: of an 11-bit id and at most three data bytes. -/
def isSparse (f : Bytes) : Bool :=
  f.getD 1 0 ≤ 7 && f.drop 5 == List.replicate 5 0

section File

variable {records : List CaptureRecord}

/-- Every record is read on its own. -/
theorem getlines_captureFile (records : List CaptureRecord) :
    getlines (captureFile records) = records.flatMap fun r => r.line.splitOnP (· == LF) := by
  have hsegments : segments (· == LF) (captureFile records) =
      records.flatMap (fun r => r.line.splitOnP (· == LF)) ∧
        remainder (· == LF) (captureFile records) = [] := by
    unfold captureFile
    induction records with
    | nil => exact ⟨rfl, rfl⟩
    | cons r records ih =>
      obtain ⟨hs, hr⟩ := segments_concat (p := (· == LF)) (c := LF) (by decide) r.line
      rw [List.flatMap_cons, List.flatMap_cons, segments_append,
        remainder_append (r.line ++ [LF]), hs, hr]
      exact ⟨congrArg _ ih.1, ih.2⟩
  rw [getlines, hsegments.1, if_pos hsegments.2, List.append_nil]

theorem readsBack_iff_records : ReadsBack records ↔
    records.flatMap recordFrames = records.map frame := by
  rw [ReadsBack, PipelineReplay.replayFrames, drain_eq, getlines_captureFile,
    List.filterMap_flatMap]
  rfl

end File

section Record

variable {r : CaptureRecord} {line payload f : Bytes} {t : TimedFrame} {n : ℕ}

theorem notMem_baseDigits {c : Byte} (hc : isDigit 10 c = false) (n : ℕ) :
    c ∉ baseDigits 10 n := by
  intro h
  rw [isDigit_baseDigits (by decide) (by decide) n c h] at hc
  cases hc

theorem beq_lf {s : Bytes} (h : LF ∉ s) : ∀ c ∈ s, (c == LF) = false := by
  rintro c hc
  refine beq_eq_false_iff_ne.mpr ?_
  rintro rfl
  exact h hc

theorem lineFrame_record (hn : n < 2 ^ 64) (payload : Bytes) :
    lineFrame (baseDigits 10 n ++ COMMA :: payload) =
      (payloadFrame (dropCr payload)).map fun bytes => ⟨n, bytes⟩ := by
  have hcomma := notMem_baseDigits (c := COMMA) (by decide) n
  rw [lineFrame, readRecord, dropCr_append, cutAt_append_cons hcomma]
  simp only [if_neg (baseDigits_ne_nil 10 n),
    fromChars_baseDigits (show 1 < 10 by decide) (by decide) hn, Option.map_some]
  cases h : payloadFrame (dropCr payload) <;> simp [h]

/-- The lines of a record: the time with the first piece of the frame, and the other pieces. -/
theorem splitOnP_line (r : CaptureRecord) : r.line.splitOnP (· == LF) =
    (r.bytes.splitOnP (· == LF)).modifyHead (baseDigits 10 r.timestampMs ++ COMMA :: ·) := by
  have hlf : LF ∉ baseDigits 10 r.timestampMs ++ [COMMA] := by
    intro hc
    rcases List.mem_append.mp hc with hc | hc
    · exact notMem_baseDigits (by decide) _ hc
    · exact absurd (List.mem_singleton.mp hc) (by decide)
  have hline : r.line = (baseDigits 10 r.timestampMs ++ [COMMA]) ++ r.bytes := by
    rw [CaptureRecord.line, List.append_assoc, List.singleton_append]
  rw [hline, splitOnP_append_free (beq_lf hlf)]
  congr
  ext1 w
  rw [List.append_assoc, List.singleton_append]

/-- A frame that is read from at most ten characters of text is sparse. -/
theorem isSparse_of_parseAscii (hlen : payload.length ≤ 10) (h : parseAscii payload = some f) :
    isSparse f = true := by
  obtain ⟨htokens, rfl⟩ := parseAscii_iff.mp h
  have hsum := length_tokensBy_add_le isTokenSeparator payload
  cases hcut : tokensBy isTokenSeparator payload with
  | nil =>
    rw [hcut] at htokens
    exact htokens.elim
  | cons tok toks =>
    rw [hcut] at htokens hsum
    obtain ⟨⟨hstart, -, hmax⟩, -, hbytes⟩ := htokens
    have hpos := List.length_pos_of_ne_nil hstart.ne_nil
    have htwo : toks.flatten.length = 2 * toks.length := by
      clear hcut hsum
      induction toks with
      | nil => rfl
      | cons t toks ih =>
        obtain ⟨ht, hbytes⟩ := List.forall_mem_cons.mp hbytes
        rw [List.flatten_cons, List.length_append, ht.2, ih hbytes, List.length_cons]
        omega
    rw [List.flatten_cons, List.length_append, htwo, List.length_cons] at hsum
    have hhigh : (hexLead tok >>> 8 &&& 0xFF).toUInt8 ≤ 7 := by
      have hall : ∀ v : Fin 8, ((v : ℕ) &&& 0xFF).toUInt8 ≤ 7 := by decide
      have hv : hexLead tok >>> 8 < 8 := by
        rw [Nat.shiftRight_eq_div_pow]
        omega
      exact hall ⟨_, hv⟩
    rcases toks with _ | ⟨a, _ | ⟨b, _ | ⟨c, _ | ⟨d, toks⟩⟩⟩⟩
    all_goals simp only [List.length_cons, List.length_nil] at hsum
    · simpa [isSparse, tokenFrame, LiveTwaiSource.frameBytes] using hhigh
    · simpa [isSparse, tokenFrame, LiveTwaiSource.frameBytes] using hhigh
    · simpa [isSparse, tokenFrame, LiveTwaiSource.frameBytes] using hhigh
    · simpa [isSparse, tokenFrame, LiveTwaiSource.frameBytes] using hhigh
    · omega

/-- A payload that is too short for raw bytes, or taken for text, gives sparse frames only. -/
theorem isSparse_of_payloadFrame (hlen : payload.length ≤ 10)
    (hten : payload.length = 10 → looksLikeAsciiLine payload = true)
    (h : payloadFrame payload = some f) : isSparse f = true := by
  unfold payloadFrame at h
  split at h
  · exact isSparse_of_parseAscii hlen h
  · next htext =>
    have hbinary : payload.length ≠ 10 := fun he => htext (hten he)
    rw [parseBinary, if_neg hbinary] at h
    cases h

theorem length_dropCr_le (line : Bytes) : (dropCr line).length ≤ line.length := by
  rcases dropCr_cases line with h | h
  · rw [← h]
  · conv_rhs => rw [h, List.length_append]
    exact Nat.le_add_right _ _

/-- A line that gives a frame is a number, a comma and the payload of the frame. -/
theorem lineFrame_eq_some (h : lineFrame line = some t) :
    ∃ u v, dropCr line = u ++ COMMA :: v ∧ (∃ c ∈ u.head?, isDigit 10 c = true) ∧
      payloadFrame v = some t.bytes := by
  unfold lineFrame at h
  obtain ⟨⟨ts, v⟩, hrecord, hpayload⟩ := Option.bind_eq_some_iff.mp h
  obtain ⟨bytes, hbytes, he⟩ := Option.bind_eq_some_iff.mp hpayload
  obtain rfl := Option.some.inj he
  unfold readRecord at hrecord
  split at hrecord
  · cases hrecord
  · next u w hcut =>
    split at hrecord
    · cases hrecord
    · next hne =>
      obtain ⟨n, hn, he⟩ := Option.map_eq_some_iff.mp hrecord
      obtain ⟨rfl, rfl⟩ := Prod.mk.inj he
      obtain ⟨c, s, rfl⟩ := List.exists_cons_of_ne_nil hne
      refine ⟨c :: s, w, (cutAt_eq_some hcut).1, ⟨c, rfl, ?_⟩, hbytes⟩
      by_contra hc
      simp [fromChars, hc] at hn

/-- Two characters are no record. -/
theorem lineFrame_short (h : line.length ≤ 2) : lineFrame line = none := by
  by_contra hne
  obtain ⟨t, ht⟩ := Option.ne_none_iff_exists'.mp hne
  obtain ⟨u, v, hline, ⟨c, hc, -⟩, hpayload⟩ := lineFrame_eq_some ht
  have hle := (length_dropCr_le line).trans h
  have hpos : 0 < u.length := by
    cases u with
    | nil => cases hc
    | cons => exact Nat.succ_pos _
  rw [hline, List.length_append, List.length_cons] at hle
  have hnil : v = [] := List.eq_nil_of_length_eq_zero (by omega)
  rw [hnil] at hpayload
  cases hpayload

/-- A record begins with a digit. -/
theorem lineFrame_start {c : Byte} (hdigit : isDigit 10 c = false) (s : Bytes) :
    lineFrame (c :: s) = none := by
  by_contra hne
  obtain ⟨t, ht⟩ := Option.ne_none_iff_exists'.mp hne
  obtain ⟨u, v, hline, ⟨d, hd, hdd⟩, -⟩ := lineFrame_eq_some ht
  have hfirst : (dropCr (c :: s)).head? = some d := by
    rw [hline]
    cases u with
    | nil => cases hd
    | cons => exact hd
  have hsame : (dropCr (c :: s)).head? = some c ∨ dropCr (c :: s) = [] := by
    rcases dropCr_cases (c :: s) with h | h
    · rw [← h]
      exact Or.inl rfl
    · cases hdrop : dropCr (c :: s) with
      | nil => exact Or.inr rfl
      | cons e w =>
        rw [hdrop, List.cons_append] at h
        exact Or.inl (congrArg some (List.cons.inj h).1.symm)
  rcases hsame with h | h
  · rw [h, Option.some.injEq] at hfirst
    rw [hfirst, hdd] at hdigit
    cases hdigit
  · rw [h] at hfirst
    cases hfirst

/-- A payload with a byte that is not text is not read unless it has ten bytes. -/
theorem payloadFrame_raw {c : Byte} (hc : c ∈ payload) (hraw : looksAscii c = false)
    (hlen : payload.length ≠ 10) : payloadFrame payload = none := by
  have htext : looksLikeAsciiLine payload = false := by
    rw [looksLikeAsciiLine, Bool.and_eq_false_iff]
    exact Or.inr (List.all_eq_false.mpr ⟨c, hc, by simp [hraw]⟩)
  rw [payloadFrame, htext, if_neg Bool.false_ne_true, parseBinary, if_neg hlen]

/-- A line too short for raw bytes with a zero at its end is not read. -/
theorem lineFrame_zero (hlast : line.getLast? = some 0) (hlen : line.length ≤ 10) :
    lineFrame line = none := by
  by_contra hne
  obtain ⟨t, ht⟩ := Option.ne_none_iff_exists'.mp hne
  obtain ⟨u, v, hline, -, hpayload⟩ := lineFrame_eq_some ht
  have hself : dropCr line = line := by
    rw [dropCr, if_neg]
    rw [hlast]
    decide
  rw [hself] at hline
  rw [hline, List.length_append, List.length_cons] at hlen
  have hmem : (0 : Byte) ∈ v := by
    rw [hline, List.getLast?_append_of_ne_nil _ (List.cons_ne_nil _ _)] at hlast
    cases v with
    | nil => exact absurd hlast (by decide)
    | cons d v =>
      rw [List.getLast?_cons_cons] at hlast
      exact List.mem_of_getLast? hlast
  rw [payloadFrame_raw hmem (by decide) (by omega)] at hpayload
  cases hpayload

/-- A piece of a frame that ends in zeros ends in a zero, or lies in front of the zeros. -/
theorem piece_cases {x v : Bytes} (h : v ∈ (x ++ List.replicate 5 0).splitOnP (· == LF)) :
    v.getLast? = some 0 ∨ v.length < x.length := by
  induction x generalizing v with
  | nil =>
    obtain rfl := List.mem_singleton.mp h
    exact Or.inl rfl
  | cons c x ih =>
    obtain ⟨w, ws, hw⟩ :=
      List.exists_cons_of_ne_nil (List.splitOnP_ne_nil (· == LF) (x ++ List.replicate 5 0))
    rw [hw] at ih
    have hlater : v ∈ w :: ws → v.getLast? = some 0 ∨ v.length < (c :: x).length := fun hv =>
      (ih hv).imp_right Nat.lt_succ_of_lt
    rw [List.cons_append, List.splitOnP_cons_eq_if_modifyHead, hw] at h
    split at h
    · rcases List.mem_cons.mp h with rfl | h
      · exact Or.inr (Nat.succ_pos _)
      · exact hlater h
    · rcases List.mem_cons.mp h with rfl | h
      · rcases ih List.mem_cons_self with hlast | hlt
        · refine Or.inl ?_
          rw [List.getLast?_cons_of_ne_nil, hlast]
          rintro rfl
          cases hlast
        · exact Or.inr (Nat.succ_lt_succ hlt)
      · exact hlater (List.mem_cons_of_mem _ h)

/-- A plain frame is read as it is. -/
theorem recordFrames_of_plain (h : r.Plain) : recordFrames r = [r.frame] := by
  have hself : dropCr r.bytes = r.bytes := if_neg h.cr
  have hpayload : payloadFrame r.bytes = some r.bytes := by
    rw [payloadFrame, h.text, if_neg Bool.false_ne_true, parseBinary, if_pos r.length_bytes]
  rw [recordFrames, splitOnP_line, List.splitOnP_eq_singleton (beq_lf h.lf),
    List.modifyHead_cons, List.filterMap_cons, lineFrame_record r.timestampMs_lt, hself, hpayload]
  rfl

/-- What is read of a frame that is not plain is sparse. -/
theorem isSparse_of_mem_recordFrames (h : ¬ r.Plain) (ht : t ∈ recordFrames r) :
    isSparse t.bytes = true := by
  obtain ⟨l, hl, htl⟩ := List.mem_filterMap.mp ht
  obtain ⟨w, ws, hw⟩ := List.exists_cons_of_ne_nil (List.splitOnP_ne_nil (· == LF) r.bytes)
  have hlen : ∀ v ∈ w :: ws, v.length ≤ 10 := fun v hv => by
    rw [← hw] at hv
    exact (length_le_of_mem_splitOnP hv).trans_eq r.length_bytes
  have hcut : LF ∈ r.bytes → ∀ v ∈ w :: ws, v.length < 10 := fun hlf v hv => by
    rw [← hw] at hv
    exact (length_lt_of_mem_splitOnP (p := (· == LF)) hlf (by decide) hv).trans_eq r.length_bytes
  have hdrop := length_dropCr_le w
  have hfirst := hlen w List.mem_cons_self
  rw [splitOnP_line, hw, List.modifyHead_cons] at hl
  rcases List.mem_cons.mp hl with rfl | hl
  · rw [lineFrame_record r.timestampMs_lt] at htl
    obtain ⟨bytes, hbytes, rfl⟩ := Option.map_eq_some_iff.mp htl
    refine isSparse_of_payloadFrame (hdrop.trans hfirst) (fun hten => ?_) hbytes
    -- a payload of ten bytes is the whole frame
    have hlf : LF ∉ r.bytes := fun hlf => by
      have hlt := hcut hlf w List.mem_cons_self
      omega
    have hwhole : w = r.bytes := by
      rw [List.splitOnP_eq_singleton (beq_lf hlf)] at hw
      exact (List.cons.inj hw).1.symm
    have hcr : r.bytes.getLast? ≠ some CR := fun hcr => by
      rw [hwhole, dropCr, if_pos hcr, List.length_dropLast, r.length_bytes] at hten
      cases hten
    rw [hwhole, dropCr, if_neg hcr]
    by_contra htext
    exact h ⟨hlf, hcr, Bool.eq_false_iff.mpr htext⟩
  · obtain ⟨u, v, hline, ⟨c, hc, -⟩, hpayload⟩ := lineFrame_eq_some htl
    have hle := (length_dropCr_le l).trans (hlen l (List.mem_cons_of_mem _ hl))
    rw [hline, List.length_append, List.length_cons] at hle
    have hpos : 0 < u.length := by
      cases u with
      | nil => cases hc
      | cons => exact Nat.succ_pos _
    exact isSparse_of_payloadFrame (by omega) (by omega) hpayload

/-- The second byte of a sparse frame is no text, and the last five are zeros. -/
theorem exists_of_isSparse (hlen : f.length = 10) (hs : isSparse f = true) :
    ∃ a b c d e, f = [a, b, c, d, e] ++ List.replicate 5 0 ∧ b ≤ 7 := by
  rw [isSparse, Bool.and_eq_true, beq_iff_eq, decide_eq_true_eq] at hs
  obtain ⟨hb, hzeros⟩ := hs
  have hf := List.take_append_drop 5 f
  rw [hzeros] at hf
  have htake : (f.take 5).length = 5 := by
    rw [List.length_take, hlen]
    rfl
  obtain ⟨a, t, ht⟩ := List.exists_cons_of_length_pos (l := f.take 5) (by omega)
  rw [ht] at htake hf
  obtain ⟨b, c, d, e, rfl⟩ := List.length_eq_four.mp (Nat.succ.inj htake)
  subst hf
  exact ⟨a, b, c, d, e, rfl, hb⟩

/-- The pieces behind a line feed that is followed by at most two bytes and the zeros. -/
theorem filterMap_pieces {x : Bytes} (hx : x.length ≤ 2) :
    ((x ++ List.replicate 5 0).splitOnP (· == LF)).filterMap lineFrame = [] := by
  rw [List.filterMap_eq_nil_iff]
  intro v hv
  rcases piece_cases hv with hlast | hlt
  · have hle := length_le_of_mem_splitOnP hv
    rw [List.length_append, List.length_replicate] at hle
    exact lineFrame_zero hlast (by omega)
  · exact lineFrame_short (by omega)

/-- The first piece of a frame, when it is short and has a byte that is not text. -/
theorem lineFrame_first {w : Bytes} (hn : n < 2 ^ 64) {b : Byte} (hb : b ≤ 7)
    (hw : w = [] ∨ b ∈ w) (hlen : w.length < 10) :
    lineFrame (baseDigits 10 n ++ COMMA :: w) = none := by
  have hle := length_dropCr_le w
  rw [lineFrame_record hn, Option.map_eq_none_iff]
  rcases hw with rfl | hmem
  · rfl
  · have hbyte : ∀ b : Byte, b ≤ 7 → looksAscii b = false ∧ b ≠ CR :=
      forall_byte (by decide +kernel)
    obtain ⟨hraw, hcr⟩ := hbyte b hb
    have hkept : b ∈ dropCr w := by
      rcases dropCr_cases w with h | h
      · rwa [← h]
      · rw [h] at hmem
        exact (List.mem_append.mp hmem).resolve_right (by simpa using hcr)
    exact payloadFrame_raw hkept hraw (by omega)

/-- A sparse frame that is not plain has a line feed. -/
theorem lf_mem_of_sparse (h : ¬ r.Plain) (hs : isSparse r.bytes = true) : LF ∈ r.bytes := by
  obtain ⟨a, b, c, d, e, hbytes, -⟩ := exists_of_isSparse r.length_bytes hs
  by_contra hlf
  refine h ⟨hlf, ?_, ?_⟩
  · rw [hbytes, List.getLast?_append_of_ne_nil _ (by decide)]
    decide
  · rw [looksLikeAsciiLine, Bool.and_eq_false_iff]
    refine Or.inr (List.all_eq_false.mpr ⟨0, ?_, by decide⟩)
    rw [hbytes]
    exact List.mem_append_right _ (by decide)

/-- No piece of such a frame is read. -/
theorem recordFrames_of_sparse (h : ¬ r.Plain) (hs : isSparse r.bytes = true) :
    recordFrames r = [] := by
  have hlf := lf_mem_of_sparse h hs
  obtain ⟨a, b, c, d, e, hbytes, hb⟩ := exists_of_isSparse r.length_bytes hs
  have hbyte : ∀ b : Byte, b ≤ 7 → b ≠ LF ∧ isDigit 10 b = false :=
    forall_byte (by decide +kernel)
  obtain ⟨hbl, hbd⟩ := hbyte b hb
  have hmem : LF ∈ [a, b, c, d, e] := by
    rw [hbytes] at hlf
    exact (List.mem_append.mp hlf).resolve_right (by decide)
  obtain ⟨u, w, hx, hu⟩ := List.eq_append_cons_of_mem hmem
  have hlen : u.length + w.length = 4 := by
    have hfive := congrArg List.length hx
    rw [List.length_append, List.length_cons] at hfive
    exact (Nat.succ.inj hfive).symm
  have hfirst (hbu : u = [] ∨ b ∈ u) :
      lineFrame (baseDigits 10 r.timestampMs ++ COMMA :: u) = none :=
    lineFrame_first r.timestampMs_lt hb hbu (by omega)
  have hpieces := List.splitOnP_append_cons_of_forall_mem (p := (· == LF)) (beq_lf hu) LF
    (by decide) (w ++ List.replicate 5 0)
  rw [recordFrames, splitOnP_line, hbytes, hx, List.append_assoc, List.cons_append, hpieces,
    List.modifyHead_cons]
  rcases u with _ | ⟨a', _ | ⟨b', u⟩⟩
  · -- the second piece begins with the byte that is no text
    obtain ⟨-, rfl⟩ := List.cons.inj hx
    rw [List.filterMap_cons_none (hfirst (Or.inl rfl)), List.filterMap_eq_nil_iff]
    intro v hv
    obtain ⟨x, xs, hsplit⟩ := List.exists_cons_of_ne_nil
      (List.splitOnP_ne_nil (· == LF) ([c, d, e] ++ List.replicate 5 0))
    rw [List.cons_append, List.splitOnP_cons_eq_if_modifyHead,
      if_neg (by simpa using hbl), hsplit, List.modifyHead_cons] at hv
    rcases List.mem_cons.mp hv with rfl | hv
    · exact lineFrame_start hbd x
    · have hlater : v ∈ ([c, d, e] ++ List.replicate 5 0).splitOnP (· == LF) := by
        rw [hsplit]
        exact List.mem_cons_of_mem x hv
      rcases piece_cases hlater with hlast | hlt
      · exact lineFrame_zero hlast ((length_le_of_mem_splitOnP hlater).trans (by simp))
      · exact lineFrame_short (Nat.le_of_lt_succ hlt)
  · obtain ⟨-, hx⟩ := List.cons.inj hx
    exact absurd (List.cons.inj hx).1 hbl
  · obtain ⟨-, hx⟩ := List.cons.inj hx
    obtain ⟨rfl, -⟩ := List.cons.inj hx
    rw [List.length_cons, List.length_cons] at hlen
    rw [List.filterMap_cons_none (hfirst (Or.inr (by simp))), filterMap_pieces (by omega)]

theorem recordFrames_iff : recordFrames r = [r.frame] ↔ r.Plain := by
  refine ⟨fun h => ?_, recordFrames_of_plain⟩
  by_contra hplain
  have hsparse : isSparse r.bytes = true :=
    isSparse_of_mem_recordFrames hplain (t := r.frame) (by simp [h])
  rw [recordFrames_of_sparse hplain hsparse] at h
  cases h

/-- A capture file is read back exactly if each of its frames is plain. -/
theorem readsBack_iff {records : List CaptureRecord} :
    ReadsBack records ↔ ∀ r ∈ records, r.Plain := by
  rw [readsBack_iff_records]
  refine (flatMap_eq_map_iff (fun t => isSparse t.bytes) fun r _ h => ?_).trans
    (forall₂_congr fun r _ => recordFrames_iff)
  have hplain : ¬ r.Plain := fun hplain => h (recordFrames_of_plain hplain)
  exact ⟨fun t ht => isSparse_of_mem_recordFrames hplain ht, recordFrames_of_sparse hplain⟩

/-- A frame with an LF is lost, and one of ten hexadecimal digits is decoded as text. -/
theorem not_readsBack :
    ¬ ReadsBack [⟨1000, [0x08, 0x01, 0x0A, 0, 0, 0, 0, 0, 0, 0], by decide, rfl⟩] ∧
      ¬ ReadsBack [⟨1000, ascii "1 11 22 33", by decide, rfl⟩] := by
  constructor
  · intro h
    have hframes : PipelineReplay.replayFrames (captureFile
        [⟨1000, [0x08, 0x01, 0x0A, 0, 0, 0, 0, 0, 0, 0], by decide, rfl⟩]) = [] := by
      decide +kernel
    rw [ReadsBack, hframes] at h
    cases h
  · intro h
    have hframes : PipelineReplay.replayFrames (captureFile
        [⟨1000, ascii "1 11 22 33", by decide, rfl⟩]) =
          [⟨1000, [0x01, 0x00, 0x11, 0x22, 0x33, 0, 0, 0, 0, 0]⟩] := by
      decide +kernel
    rw [ReadsBack, hframes] at h
    revert h
    decide

end Record

end BinaryFileSource

end VehicleSpy.Pipeline
