import VehicleSpy.Text.Numbers
import VehicleSpy.Text.Segments
import VehicleSpy.Text.Bytes

/-! # HTTP messages and multipart bodies

A message is a head of lines, ended by an empty line, and a body. A multipart body is cut at its
delimiter, a line break with a boundary behind it; each part has a head of its own.
-/

namespace VehicleSpy.Text

def CRLF : Bytes := [CR, LF]

section Head

/-- A line without the CR in front of its line feed. -/
def stripCr (line : Bytes) : Bytes := line.rdropWhile (· == CR)

/-- The lines of the head of a message. -/
def headLines (message : Bytes) : List Bytes :=
  ((segments (· == LF) message).map stripCr).takeWhile (· ≠ [])

/-- Name and value of a header line. -/
def headerField (line : Bytes) : Option (Bytes × Bytes) :=
  (cutAt COLON line).map fun (name, value) => (name, trim value)

/-- The value of a header, whose name is compared without regard to case. -/
def header (name message : Bytes) : Option Bytes :=
  ((headLines message).tail.filterMap headerField).findSome? fun field =>
    if field.1.map tolower = name.map tolower then some field.2 else none

/-- What stands behind the head. -/
def bodyOf (message : Bytes) : Option Bytes :=
  (findStr (CRLF ++ CRLF) message).map fun i => message.drop (i + 4)

variable {lines : List Bytes} {line body : Bytes}

theorem stripCr_concat (h : ∀ c ∈ line, isLineEnd c = false) : stripCr (line ++ [CR]) = line := by
  rw [stripCr, List.rdropWhile_concat_pos _ _ _ (by rfl), rdropWhile_eq_self_iff]
  intro c hc
  have hend := h c (List.mem_of_mem_getLast? hc)
  rw [isLineEnd, Bool.or_eq_false_iff] at hend
  exact hend.1

/-- The head of a message that is printed line by line. -/
theorem headLines_message (h : ∀ l ∈ lines, l ≠ [] ∧ ∀ c ∈ l, isLineEnd c = false) :
    headLines (lines.flatMap (· ++ CRLF) ++ CRLF ++ body) = lines := by
  have hlf (l : Bytes) (hl : ∀ c ∈ l, isLineEnd c = false) :
      ∀ c ∈ l ++ [CR], (c == LF) = false := by
    intro c hc
    rcases List.mem_append.mp hc with hc | hc
    · have hend := hl c hc
      rw [isLineEnd, Bool.or_eq_false_iff] at hend
      exact hend.2
    · rw [List.mem_singleton.mp hc]
      rfl
  have hsplit : lines.flatMap (· ++ CRLF) ++ CRLF ++ body =
      (lines.map (· ++ [CR]) ++ [[CR]]).flatMap (· ++ [LF]) ++ body := by
    simp [List.flatMap_append, List.flatMap_map, CRLF]
  rw [headLines, hsplit, segments_flatMap (by rfl)]
  · rw [List.map_append, List.map_append, List.map_map]
    have hmap : lines.map (stripCr ∘ (· ++ [CR])) = lines :=
      (List.map_congr_left fun l hl => stripCr_concat (h l hl).2).trans (List.map_id' lines)
    rw [hmap, List.append_assoc, List.takeWhile_append_of_pos]
    · simp [stripCr]
    · simpa using fun l hl => (h l hl).1
  · intro v hv
    rcases List.mem_append.mp hv with hv | hv
    · obtain ⟨l, hl, rfl⟩ := List.mem_map.mp hv
      exact hlf l (h l hl).2
    · rw [List.mem_singleton.mp hv]
      exact hlf [] (List.forall_mem_nil _)

/-- A text that stands nowhere in front is looked for behind. -/
theorem findStr_skip {t u v : Bytes} (h : ∀ w, w <:+ u → w ≠ [] → ¬ t <+: w ++ v) :
    findStr t (u ++ v) = (findStr t v).map (· + u.length) := by
  induction u with
  | nil => exact (Option.map_id_fun' ▸ rfl : findStr t v = (findStr t v).map (· + 0))
  | cons c u ih =>
    have hhead : t.isPrefixOf (c :: (u ++ v)) = false := by
      rw [Bool.eq_false_iff, ne_eq, List.isPrefixOf_iff_prefix]
      exact h (c :: u) List.suffix_rfl (List.cons_ne_nil c u)
    rw [List.cons_append, findStr, hhead, ih fun w hw => h w (hw.trans (List.suffix_cons c u)),
      if_neg Bool.false_ne_true, Option.map_map]
    rfl

/-- The empty line is not looked for within a line. -/
theorem findStr_line {v : Bytes} (h : ∀ c ∈ line, isLineEnd c = false) (hv : v.head? ≠ some CR) :
    findStr (CRLF ++ CRLF) (line ++ CRLF ++ v) =
      (findStr (CRLF ++ CRLF) v).map (· + (line.length + 2)) := by
  rw [findStr_skip]
  · simp [CRLF]
  · rintro w hw hne hpre
    have hline : line ++ CRLF = line ++ [CR] ++ [LF] := by simp [CRLF]
    rw [hline] at hw
    rcases List.suffix_concat_iff.mp hw with rfl | ⟨u, rfl, hu⟩
    · exact hne rfl
    rcases List.suffix_concat_iff.mp hu with rfl | ⟨w, rfl, hwline⟩
    · exact absurd (List.cons_prefix_cons.mp hpre).1 (by decide)
    cases w with
    | nil =>
      obtain ⟨r, hr⟩ := hpre
      rw [List.nil_append, CRLF, List.append_assoc, List.append_assoc] at hr
      exact hv (by rw [← (List.append_cancel_left_eq [CR, LF] _ _).mp hr]; rfl)
    | cons d w =>
      obtain ⟨rfl, -⟩ := List.cons_prefix_cons.mp hpre
      exact absurd (h CR (hwline.subset List.mem_cons_self)) (by decide)

theorem findStr_message (h : ∀ l ∈ lines, l ≠ [] ∧ ∀ c ∈ l, isLineEnd c = false)
    (hne : lines ≠ []) :
    ∃ i, findStr (CRLF ++ CRLF) (lines.flatMap (· ++ CRLF) ++ (CRLF ++ body)) = some i ∧
      i + 2 = (lines.flatMap (· ++ CRLF)).length := by
  induction lines with
  | nil => exact absurd rfl hne
  | cons l lines ih =>
    obtain ⟨⟨hl, hline⟩, hrest⟩ := List.forall_mem_cons.mp h
    cases lines with
    | nil =>
      refine ⟨l.length, ?_, by simp [CRLF]⟩
      have hsplit : [l].flatMap (· ++ CRLF) ++ (CRLF ++ body) = l ++ (CRLF ++ CRLF ++ body) := by
        simp
      rw [hsplit]
      refine findStr_append ?_ (List.prefix_append _ _)
      rintro (_ | ⟨d, w⟩) hw hwne hpre
      · exact hwne rfl
      · obtain ⟨rfl, -⟩ := List.cons_prefix_cons.mp hpre
        exact absurd (hline CR (hw.subset List.mem_cons_self)) (by decide)
    | cons m lines =>
      obtain ⟨i, hi, hlen⟩ := ih hrest (List.cons_ne_nil _ _)
      obtain ⟨c, m', rfl⟩ := List.exists_cons_of_ne_nil (hrest m List.mem_cons_self).1
      have hc : c ≠ CR := by
        rintro rfl
        exact absurd ((hrest _ List.mem_cons_self).2 CR List.mem_cons_self) (by decide)
      refine ⟨i + (l.length + 2), ?_, ?_⟩
      · rw [List.flatMap_cons, List.append_assoc, findStr_line hline (by simp [hc]), hi]
        rfl
      · rw [List.flatMap_cons, List.length_append, ← hlen]
        simp [CRLF]
        omega

/-- A head of lines is found by the empty line behind it. -/
theorem findStr_head {head : Bytes} (h : ∀ l ∈ lines, l ≠ [] ∧ ∀ c ∈ l, isLineEnd c = false)
    (hne : lines ≠ []) (hhead : head ++ CRLF = lines.flatMap (· ++ CRLF)) :
    findStr (CRLF ++ CRLF) (head ++ (CRLF ++ CRLF)) = some head.length := by
  obtain ⟨i, hi, hlen⟩ := @findStr_message lines [] h hne
  rw [← hhead, List.append_nil, List.append_assoc] at hi
  rw [← hhead, List.length_append] at hlen
  rw [hi, Nat.add_right_cancel hlen]

/-- The body of a message that is printed line by line. -/
theorem bodyOf_message (h : ∀ l ∈ lines, l ≠ [] ∧ ∀ c ∈ l, isLineEnd c = false)
    (hne : lines ≠ []) :
    bodyOf (lines.flatMap (· ++ CRLF) ++ CRLF ++ body) = some body := by
  obtain ⟨i, hi, hlen⟩ := @findStr_message lines body h hne
  rw [bodyOf, List.append_assoc, hi, Option.map_some, ← List.append_assoc]
  rw [List.drop_left' (by rw [List.length_append, ← hlen]; rfl)]

theorem filterMap_headerField {fields : List (Bytes × Bytes)}
    (h : ∀ field ∈ fields, COLON ∉ field.1) :
    (fields.map fun field => field.1 ++ COLON :: field.2).filterMap headerField =
      fields.map fun field => (field.1, trim field.2) := by
  rw [List.filterMap_map, ← List.filterMap_eq_map]
  apply List.filterMap_congr
  intro field hfield
  rw [Function.comp_apply, headerField, cutAt_append_cons (h field hfield)]
  rfl

end Head

section Status

/-- The three digits of a status line, `HTTP/d.d` and the digits with a blank between them, behind
which the line ends or a blank follows. -/
def lineStatus (line : Bytes) : Option Bytes :=
  match line with
  | 72 :: 84 :: 84 :: 80 :: 47 :: major :: 46 :: minor :: 32 :: x :: y :: z :: rest =>
    if [major, minor, x, y, z].all (isDigit 10) && rest.head?.all (· == SP) then some [x, y, z]
    else none
  | _ => none

/-- The status of a message that begins with a complete status line. -/
def statusCode (message : Bytes) : Option Bytes :=
  (findStr CRLF message).bind fun i => lineStatus (message.take i)

theorem infix_of_lineStatus {line code : Bytes} (h : lineStatus line = some code) :
    code <:+: line := by
  unfold lineStatus at h
  split at h
  · next major minor x y z rest =>
    split at h
    · obtain rfl := Option.some.inj h
      exact ⟨[72, 84, 84, 80, 47, major, 46, minor, 32], rest, by simp⟩
    · cases h
  · cases h

/-- The digits of the status occur in the message. -/
theorem infix_of_statusCode {message code : Bytes} (h : statusCode message = some code) :
    code <:+: message := by
  obtain ⟨i, -, hline⟩ := Option.bind_eq_some_iff.mp h
  exact (infix_of_lineStatus hline).trans (List.take_prefix i message).isInfix

end Status

section Pieces

variable {c : Byte} {t s u v : Bytes}

theorem drop_lt {i : ℕ} (h : findStr (c :: t) s = some i) :
    (s.drop (i + (t.length + 1))).length < s.length := by
  have hs : s ≠ [] := by
    rintro rfl
    cases h
  have hpos := List.length_pos_iff.mpr hs
  rw [List.length_drop]
  omega

/-- The pieces of a text between the occurrences of a delimiter. -/
def pieces (c : Byte) (t s : Bytes) : List Bytes :=
  match _h : findStr (c :: t) s with
  | none => [s]
  | some i => s.take i :: pieces c t (s.drop (i + (t.length + 1)))
termination_by s.length
decreasing_by exact drop_lt _h

theorem pieces_free (h : ¬ c :: t <:+: s) : pieces c t s = [s] := by
  rw [pieces]
  split
  · rfl
  · next hi => rw [findStr_none_iff.mpr h] at hi; cases hi

/-- A delimiter that starts with a character it has nowhere else is found behind a text without
the delimiter. -/
theorem findStr_marked (hc : c ∉ t) (h : ¬ c :: t <:+: u) :
    findStr (c :: t) (u ++ (c :: t ++ v)) = some u.length := by
  refine findStr_append ?_ (List.prefix_append _ _)
  rintro (_ | ⟨d, w⟩) hw hne hpre
  · exact hne rfl
  · obtain ⟨rfl, htail⟩ := List.cons_prefix_cons.mp hpre
    have hfront := (prefix_append_cons hc).mp htail
    exact h ((List.cons_prefix_cons.mpr ⟨rfl, hfront⟩).isInfix.trans hw.isInfix)

theorem pieces_marked (hc : c ∉ t) (h : ¬ c :: t <:+: u) :
    pieces c t (u ++ (c :: t ++ v)) = u :: pieces c t v := by
  rw [pieces]
  split
  · next hi => rw [findStr_marked hc h] at hi; cases hi
  · next i hi =>
    rw [findStr_marked hc h] at hi
    obtain rfl := Option.some.inj hi
    rw [List.take_left, ← List.append_assoc, List.drop_left' (by simp)]

/-- What starts with a character is not found before it. -/
theorem infix_skip (h : c ∉ u) : c :: t <:+: u ++ v ↔ c :: t <:+: v := by
  induction u with
  | nil => rfl
  | cons d u ih =>
    obtain ⟨hd, hu⟩ := not_or.mp (mt List.mem_cons.mpr h)
    rw [List.cons_append, List.infix_cons_iff, List.cons_prefix_cons, ih hu]
    exact or_iff_right fun hp => hd hp.1

/-- A text is not found over a place where its first letters do not stand. -/
theorem infix_behind {p : Bytes} {k : ℕ} (hp : p <+: t) (hlen : p.length ≤ k + 1)
    (hv : k ≤ v.length) (h : ¬ p <:+: u ++ v.take k) : t <:+: u ++ v ↔ t <:+: v := by
  constructor
  · intro hin
    induction u with
    | nil => exact hin
    | cons d u ih =>
      rw [List.cons_append, List.infix_cons_iff] at hin h
      rw [not_or] at h
      rcases hin with hin | hin
      · refine absurd (List.prefix_of_prefix_length_le (hp.trans hin) (List.cons_prefix_cons.mpr
          ⟨rfl, (List.prefix_append_right_inj u).mpr (List.take_prefix k v)⟩) ?_) h.1
        simp only [List.length_cons, List.length_append, List.length_take]
        omega
      · exact ih h.2 hin
  · exact fun hin => hin.trans (List.suffix_append u v).isInfix

/-- No piece holds the delimiter. -/
theorem not_infix_of_mem_pieces {p : Bytes} (h : p ∈ pieces c t s) : ¬ c :: t <:+: p := by
  fun_induction pieces c t s with
  | case1 s hs =>
    rw [List.mem_singleton.mp h]
    exact findStr_none_iff.mp hs
  | case2 s i hi ih =>
    rcases List.mem_cons.mp h with rfl | h
    · exact (findStr_split hi).2 (List.cons_ne_nil _ _)
    · exact ih h

end Pieces

section Multipart

/-- The delimiter behind its CR. -/
def dashes (boundary : Bytes) : Bytes := LF :: (ascii "--" ++ boundary)

/-- Head and content of what stands behind a delimiter; blanks may fill up the delimiter's line. -/
def parsePart (piece : Bytes) : Option (Bytes × Bytes) := do
  let padding ← findStr CRLF piece
  if (piece.take padding).all isSpaceOrTab then
    let part := piece.drop (padding + 2)
    let head ← findStr (CRLF ++ CRLF) part
    return (part.take head, part.drop (head + 4))
  else none

/-- The parts of a multipart body; the delimiter in front of the first one needs no line break,
and the one behind the last one has two hyphens. -/
def formParts (boundary body : Bytes) : List (Bytes × Bytes) :=
  ((pieces CR (dashes boundary) (CRLF ++ body)).tail.takeWhile
    (!startsWith (ascii "--") ·)).filterMap parsePart

/-- What stands between two delimiters. -/
def printPart (part : Bytes × Bytes) : Bytes := CRLF ++ part.1 ++ CRLF ++ CRLF ++ part.2

/-- A multipart body of parts. -/
def formBody (boundary : Bytes) (parts : List (Bytes × Bytes)) : Bytes :=
  parts.flatMap (fun part => ascii "--" ++ boundary ++ printPart part ++ CRLF) ++
    (ascii "--" ++ boundary ++ ascii "--" ++ CRLF)

variable {boundary : Bytes} {parts : List (Bytes × Bytes)} {part : Bytes × Bytes}

theorem parsePart_printPart
    (h : findStr (CRLF ++ CRLF) (part.1 ++ (CRLF ++ CRLF)) = some part.1.length) :
    parsePart (printPart part) = some part := by
  have hpad : findStr CRLF (printPart part) = some 0 := by
    simp [printPart, CRLF, findStr]
  have hdrop : (printPart part).drop (0 + 2) = part.1 ++ (CRLF ++ CRLF) ++ part.2 := by
    simp [printPart, CRLF]
  have hhead := findStr_append_right h part.2
  have htake : (part.1 ++ (CRLF ++ CRLF) ++ part.2).take part.1.length = part.1 := by
    rw [List.append_assoc, List.take_left]
  have hrest : (part.1 ++ (CRLF ++ CRLF) ++ part.2).drop (part.1.length + 4) = part.2 :=
    List.drop_left' (by simp [CRLF])
  simp only [parsePart, hpad, hdrop, hhead, Option.bind_eq_bind, Option.bind_some, List.take_zero,
    List.all_nil, if_true, htake, hrest]
  rfl

/-- A part is printed behind the padding that it is found behind. -/
theorem printPart_suffix {piece : Bytes} (h : parsePart piece = some part) :
    printPart part <:+ piece := by
  simp only [parsePart, Option.bind_eq_bind, Option.bind_eq_some_iff] at h
  obtain ⟨i, hi, h⟩ := h
  split at h
  · obtain ⟨j, hj, h⟩ := Option.bind_eq_some_iff.mp h
    obtain rfl := Option.some.inj h
    have hpiece : piece = piece.take i ++ (CRLF ++ piece.drop (i + 2)) := (findStr_split hi).1
    have hpart : piece.drop (i + 2) = (piece.drop (i + 2)).take j ++
        ((CRLF ++ CRLF) ++ (piece.drop (i + 2)).drop (j + 4)) := (findStr_split hj).1
    refine ⟨piece.take i, ?_⟩
    conv_rhs => rw [hpiece, hpart]
    simp only [printPart, List.append_assoc]
  · cases h

theorem pieces_formBody (hb : CR ∉ boundary) {u : Bytes} (hu : ¬ CR :: dashes boundary <:+: u)
    (h : ∀ part ∈ parts, ¬ CR :: dashes boundary <:+: printPart part) :
    pieces CR (dashes boundary) (u ++ (CRLF ++ formBody boundary parts)) =
      u :: parts.map printPart ++ [ascii "--" ++ CRLF] := by
  have hmark : CR ∉ dashes boundary := by
    simpa [dashes, ascii, CR, LF] using hb
  induction parts generalizing u with
  | nil =>
    have hclose : CRLF ++ formBody boundary [] = CR :: dashes boundary ++ (ascii "--" ++ CRLF) := by
      simp [formBody, dashes, CRLF]
    have hfree : ¬ CR :: dashes boundary <:+: ascii "--" ++ CRLF := by
      intro hin
      have hthree : [CR, LF, 45] <:+: ascii "--" ++ CRLF :=
        List.IsInfix.trans ⟨[], 45 :: boundary, by simp [dashes, ascii]⟩ hin
      exact absurd hthree (by decide)
    rw [hclose, pieces_marked hmark hu, pieces_free hfree]
    rfl
  | cons part parts ih =>
    have hnext : CRLF ++ formBody boundary (part :: parts) =
        CR :: dashes boundary ++ (printPart part ++ (CRLF ++ formBody boundary parts)) := by
      simp [formBody, dashes, CRLF]
    rw [hnext, pieces_marked hmark hu, ih (h part List.mem_cons_self)
      fun q hq => h q (List.mem_cons_of_mem _ hq)]
    rfl

/-- A multipart body has the parts it is printed from exactly if none of them holds the
delimiter. -/
theorem formParts_formBody (hb : CR ∉ boundary)
    (hhead : ∀ part ∈ parts,
      findStr (CRLF ++ CRLF) (part.1 ++ (CRLF ++ CRLF)) = some part.1.length) :
    formParts boundary (formBody boundary parts) = parts ↔
      ∀ part ∈ parts, ¬ CR :: dashes boundary <:+: printPart part := by
  constructor
  · intro h part hpart hin
    rw [← h, formParts, List.mem_filterMap] at hpart
    obtain ⟨piece, hmem, hparse⟩ := hpart
    have hpiece := List.mem_of_mem_tail ((List.takeWhile_prefix _).subset hmem)
    exact not_infix_of_mem_pieces hpiece (hin.trans (printPart_suffix hparse).isInfix)
  · intro h
    have hpieces := pieces_formBody hb (u := []) (by simp) h
    rw [List.nil_append] at hpieces
    rw [formParts, hpieces]
    have hopen : ∀ piece ∈ parts.map printPart, (!startsWith (ascii "--") piece) = true := by
      intro piece hpiece
      obtain ⟨part, -, rfl⟩ := List.mem_map.mp hpiece
      rfl
    have hclosed : (!startsWith (ascii "--") (ascii "--" ++ CRLF)) = false := by decide
    rw [List.cons_append, List.tail_cons, List.takeWhile_append_of_pos hopen,
      List.takeWhile_cons_of_neg (by rw [hclosed]; decide), List.append_nil, List.filterMap_map]
    exact (List.filterMap_congr fun part hpart => parsePart_printPart (hhead part hpart)).trans
      List.filterMap_some

end Multipart

end VehicleSpy.Text
