import VehicleSpy.Ble.Elm327Session

/-! # Streams cut into notifications

An adapter's stream is a sequence of units: frame lines in monitor mode, replies closed
by a prompt otherwise. A session parses each notification on its own, so it delivers the
payloads of the units if every notification carries at most one unit, whole.
-/

namespace VehicleSpy.Ble

open Text Machine ELM327Transport Elm327Session

/-- A line of monitor mode: three digits, and eight pairs of digits. -/
structure MonitorLine where
  id : Bytes
  data : List (Byte × Byte)
  id_length : id.length = 3
  id_digits : id.all isxdigit = true
  data_length : data.length = 8
  data_digits : data.all (fun p => isxdigit p.1 && isxdigit p.2) = true

/-- The adapter's answer to one query, without the prompt that closes it. -/
structure Reply where
  text : Bytes
  prompt_not_mem : PROMPT ∉ text

namespace MonitorLine

variable (line : MonitorLine)

theorem isxdigit_id : ∀ c ∈ line.id, isxdigit c = true := List.all_eq_true.mp line.id_digits

theorem isxdigit_data : ∀ p ∈ line.data, isxdigit p.1 = true ∧ isxdigit p.2 = true :=
  fun p hp => Bool.and_eq_true_iff.mp (List.all_eq_true.mp line.data_digits p hp)

def text : Bytes := line.id ++ line.data.flatMap fun p => [SP, p.1, p.2]

/-- The identifier, low byte first, and the eight data bytes. -/
def payload : Bytes :=
  [(numValue 16 line.id % 256).toUInt8, (numValue 16 line.id / 256).toUInt8] ++
    line.data.map fun p => (numValue 16 [p.1, p.2]).toUInt8

end MonitorLine

/-- What an adapter emits in monitor mode, and between queries. -/
inductive AdapterStream
  | monitor (lines : List MonitorLine)
  | replies (responses : List Reply)

namespace AdapterStream

def canMode : AdapterStream → Bool
  | monitor _ => true
  | replies _ => false

def units : AdapterStream → List Bytes
  | monitor lines => lines.map MonitorLine.text
  | replies responses => responses.map Reply.text

def terminator : AdapterStream → Byte
  | monitor _ => CR
  | replies _ => PROMPT

def bytes (a : AdapterStream) : Bytes := a.units.flatMap (· ++ [a.terminator])

/-- One payload for each line, and one for each reply that parses. -/
def payloads : AdapterStream → List Bytes
  | monitor lines => lines.map MonitorLine.payload
  | replies responses => responses.filterMap fun r => parseOBD2Response r.text

end AdapterStream

/-- Detector and host get the payloads of the units, in order, from the notifications. -/
def PayloadsKept (a : AdapterStream) (ns : List Bytes) : Prop :=
  ∀ s : Elm327Session, s.canMode = a.canMode →
    observed (emitted handleIncomingData s ns) = a.payloads ∧
      delivered (emitted handleIncomingData s ns) = a.payloads

/-- Only blanks and prompts. -/
def Gap (n : Bytes) : Prop := ∀ c ∈ n, isBlank c = true ∨ c = PROMPT

instance (n : Bytes) : Decidable (Gap n) := List.decidableBAll _ n

/-- Each notification carries no text, or the text of the next unit that has any. -/
inductive CarriedWhole : List Bytes → List Bytes → Prop
  | done : CarriedWhole [] []
  | idle {us ns n} (hn : Gap n) (h : CarriedWhole us ns) : CarriedWhole us (n :: ns)
  | empty {us ns u} (hu : Blank u) (h : CarriedWhole us ns) : CarriedWhole (u :: us) ns
  | unit {us ns u n} (lead trail : Bytes) (hn : n = lead ++ trim u ++ trail) (hl : Blank lead)
      (ht : Gap trail) (h : CarriedWhole us ns) : CarriedWhole (u :: us) (n :: ns)

/-- The notifications split the stream, and none of them cuts a unit or joins two. -/
structure SplitBetweenUnits (a : AdapterStream) (ns : List Bytes) : Prop where
  split : ns.flatten = a.bytes
  carried : CarriedWhole a.units ns

theorem CarriedWhole.filterMap_eq {us ns : List Bytes} {p q : Bytes → Option Bytes}
    (h : CarriedWhole us ns) (hidle : ∀ n ∈ ns, Gap n → p n = none)
    (hempty : ∀ u ∈ us, Blank u → q u = none)
    (hunit : ∀ u ∈ us, ∀ lead trail, lead ++ trim u ++ trail ∈ ns → Blank lead → Gap trail →
      p (lead ++ trim u ++ trail) = q u) :
    ns.filterMap p = us.filterMap q := by
  induction h with
  | done => rfl
  | idle hn _ ih =>
    rw [List.filterMap_cons_none (hidle _ List.mem_cons_self hn)]
    exact ih (fun n hn => hidle n (List.mem_cons_of_mem _ hn)) hempty
      fun u hu l t hm => hunit u hu l t (List.mem_cons_of_mem _ hm)
  | empty hu _ ih =>
    rw [List.filterMap_cons_none (hempty _ List.mem_cons_self hu)]
    exact ih hidle (fun u hu => hempty u (List.mem_cons_of_mem _ hu))
      fun u hu => hunit u (List.mem_cons_of_mem _ hu)
  | @unit us ns u n lead trail hn hl ht _ ih =>
    subst hn
    rw [List.filterMap_cons, List.filterMap_cons,
      hunit u List.mem_cons_self lead trail List.mem_cons_self hl ht,
      ih (fun n hn => hidle n (List.mem_cons_of_mem _ hn))
        (fun u hu => hempty u (List.mem_cons_of_mem _ hu))
        fun u hu l t hm => hunit u (List.mem_cons_of_mem _ hu) l t (List.mem_cons_of_mem _ hm)]

section Replies

variable {b n u : Bytes}

theorem trim_padded (s : Bytes) : ∃ b b', Blank b ∧ Blank b' ∧ s = b ++ trim s ++ b' := by
  refine ⟨s.takeWhile isBlank, (s.dropWhile isBlank).rtakeWhile isBlank,
    fun c => List.mem_takeWhile_imp, fun c => List.mem_rtakeWhile_imp, ?_⟩
  rw [trim, List.append_assoc, List.rdropWhile_append_rtakeWhile, List.takeWhile_append_dropWhile]

theorem extractPrompt_eq_self (h : PROMPT ∉ u) : extractPrompt u = u :=
  List.takeWhile_eq_self_iff.mpr fun c hc => by simpa using fun he : c = PROMPT => h (he ▸ hc)

theorem blank_extractPrompt (h : Gap n) : Blank (extractPrompt n) := by
  intro c hc
  have hne : c ≠ PROMPT := by simpa using List.mem_takeWhile_imp hc
  exact (h c ((List.takeWhile_sublist _).subset hc)).resolve_right hne

theorem decodeHex_ne_nil {s : Bytes} : decodeHex s ≠ some [] := by
  simp only [decodeHex]
  split
  · simp
  · split <;> simp_all

theorem notificationPayload_reply (n : Bytes) :
    notificationPayload false n = parseOBD2Response n := by
  have hne : parseOBD2Response n ≠ some [] := by
    rw [parseOBD2Response_eq]
    split
    · simp
    · exact decodeHex_ne_nil
  simp only [notificationPayload, binaryData, parseASCIIResponseToBinary, Bool.false_eq_true,
    if_false]
  cases h : parseOBD2Response n with
  | none => rfl
  | some d =>
    have hd : d ≠ [] := fun he => hne (by rw [h, he])
    simp [hd]

theorem parseOBD2Response_nil : parseOBD2Response [] = none := rfl

theorem parseOBD2Response_gap (h : Gap n) : parseOBD2Response n = none := by
  have he : extractPrompt n = extractPrompt n ++ [] ++ [] := by simp
  rw [parseOBD2Response_padded (blank_extractPrompt h) (List.forall_mem_nil _) he (by simp),
    parseOBD2Response_nil]

/-- A notification that carries a reply whole parses to what the reply parses to. -/
theorem parseOBD2Response_whole {lead trail : Bytes} (hu : PROMPT ∉ u) (hl : Blank lead)
    (ht : Gap trail) : parseOBD2Response (lead ++ trim u ++ trail) = parseOBD2Response u := by
  obtain ⟨b, b', hb, hb', he⟩ := trim_padded u
  have hcore : PROMPT ∉ trim u := fun h => hu (by rw [he]; simp [h])
  have hlead : PROMPT ∉ lead := fun h => absurd (hl _ h) (by decide)
  have hcut : extractPrompt (lead ++ trim u ++ trail) = lead ++ trim u ++ extractPrompt trail := by
    have hall : ∀ c ∈ lead ++ trim u, decide (c ≠ PROMPT) = true := by
      intro c hc
      rw [decide_eq_true_eq]
      rintro rfl
      exact (List.mem_append.mp hc).elim hlead hcore
    rw [extractPrompt, List.takeWhile_append_of_pos hall, extractPrompt]
  rw [parseOBD2Response_padded hl (blank_extractPrompt ht) hcut hcore]
  exact (parseOBD2Response_padded hb hb' ((extractPrompt_eq_self hu).trans he) hcore).symm

end Replies

section Lines

variable (line : MonitorLine)

theorem tokenizeHex_data (data : List (Byte × Byte))
    (h : ∀ p ∈ data, isxdigit p.1 = true ∧ isxdigit p.2 = true) {current : Bytes}
    (hc : current ≠ []) :
    tokensFrom current (data.flatMap fun p => [SP, p.1, p.2]) =
      current :: data.map fun p => [toupper p.1, toupper p.2] := by
  induction data generalizing current with
  | nil => simp [tokensFrom, hc]
  | cons p data ih =>
    obtain ⟨hp, hq⟩ := h p List.mem_cons_self
    have hdig : ∀ c ∈ [p.1, p.2], isxdigit c = true := by
      rintro c hmem
      rcases List.mem_pair.mp hmem with rfl | rfl
      · exact hp
      · exact hq
    have hsp : isxdigit SP = false := by decide
    rw [List.flatMap_cons, List.cons_append, tokensFrom_separator hsp,
      tokensFrom_digits hdig [] _, ih (fun q hq => h q (List.mem_cons_of_mem _ hq)) (by simp)]
    simp [tokensFrom, hc]

theorem tokenizeHex_text :
    tokenizeHex line.text = line.id.map toupper ::
      line.data.map fun p => [toupper p.1, toupper p.2] := by
  have hne : line.id.map toupper ≠ [] := fun h => by
    have := line.id_length
    rw [List.map_eq_nil_iff.mp h] at this
    cases this
  rw [tokenizeHex, MonitorLine.text, tokensFrom_digits line.isxdigit_id, List.nil_append,
    tokenizeHex_data _ line.isxdigit_data hne]

theorem mapM_parseHexByte (data : List (Byte × Byte))
    (h : ∀ p ∈ data, isxdigit p.1 = true ∧ isxdigit p.2 = true) :
    (data.map fun p => [toupper p.1, toupper p.2]).mapM parseHexByte =
      some (data.map fun p => (numValue 16 [p.1, p.2]).toUInt8) := by
  induction data with
  | nil => rfl
  | cons p data ih =>
    obtain ⟨hp, hq⟩ := h p List.mem_cons_self
    rw [List.map_cons, List.mapM_cons, parseHexByte_toupper hp hq,
      ih fun q hq => h q (List.mem_cons_of_mem _ hq)]
    rfl

/-- The two bytes of an 11-bit or 12-bit identifier. -/
theorem id_bytes {v : ℕ} (hv : v < 4096) :
    (v.toUInt16 &&& 0xFF).toUInt8 = (v % 256).toUInt8 ∧
      ((v.toUInt16 >>> 8) &&& 0xFF).toUInt8 = (v / 256).toUInt8 := by
  have hand (n : ℕ) : n &&& 255 = n % 256 := Nat.and_two_pow_sub_one_eq_mod n 8
  have hshift (n : ℕ) : n >>> 8 = n / 256 := Nat.shiftRight_eq_div_pow n 8
  constructor
  · apply UInt8.toNat_inj.mp
    simp [hand]
  · apply UInt8.toNat_inj.mp
    simp [hand, hshift]
    omega

/-- Digits and blanks with the tokens of a line have its payload. -/
theorem notificationPayload_line {n : Bytes} (hn : ∀ c ∈ n, isFrameByte c = true)
    (ht : tokenizeHex n = tokenizeHex line.text) :
    notificationPayload true n = some line.payload := by
  have hid : numValue 16 line.id < 4096 := by
    have hlt : numValue 16 line.id < 16 ^ line.id.length := numValue_lt line.isxdigit_id
    rwa [line.id_length] at hlt
  have hscan : scanHex (line.id.map toupper) = numValue 16 line.id := by
    rw [scanHex, numValue_toupper line.isxdigit_id]
    omega
  have hframe : parseCANFrame n = some ⟨(numValue 16 line.id).toUInt16,
      line.data.map fun p => (numValue 16 [p.1, p.2]).toUInt8⟩ := by
    rw [parseCANFrame_tokens hn (ht.trans (tokenizeHex_text line)) (by simp [line.data_length]),
      mapM_parseHexByte _ line.isxdigit_data, hscan]
    rfl
  obtain ⟨hlo, hhi⟩ := id_bytes hid
  simp [notificationPayload, binaryData, parseMonitorLine, hframe, line.data_length,
    MonitorLine.payload, hlo, hhi]

theorem tokenizeHex_padded {b s b' : Bytes} (hb : Blank b) (hb' : Blank b') :
    tokenizeHex (b ++ s ++ b') = tokenizeHex s := by
  rw [tokenizeHex, tokensFrom_append_blank hb', tokensFrom_blank hb, tokenizeHex]

theorem notificationPayload_blank {n : Bytes} (h : Blank n) :
    notificationPayload true n = none := by
  have hr : Blank (n.rdropWhile isLineEnd) := fun c hc =>
    h c ((List.rdropWhile_prefix isLineEnd n).subset hc)
  have ht : tokenizeHex (n.rdropWhile isLineEnd) = [] := by
    have := tokensFrom_blank hr []
    rwa [List.append_nil] at this
  have hp : parseCANFrame n = none := by
    unfold parseCANFrame
    simp only [ht]
    split_ifs <;> simp_all
  simp [notificationPayload, binaryData, parseMonitorLine, hp]

theorem isFrameByte_text : ∀ c ∈ line.text, isFrameByte c = true := by
  intro c hc
  rcases List.mem_append.mp hc with hc | hc
  · simp [isFrameByte, line.isxdigit_id c hc]
  · obtain ⟨p, hp, hc⟩ := List.mem_flatMap.mp hc
    obtain ⟨hp, hq⟩ := line.isxdigit_data p hp
    simp only [List.mem_cons, List.not_mem_nil, or_false] at hc
    rcases hc with rfl | rfl | rfl
    · decide
    · simp [isFrameByte, hp]
    · simp [isFrameByte, hq]

end Lines

section Main

variable {ns : List Bytes}

theorem payloadsKept_replies {responses : List Reply}
    (h : SplitBetweenUnits (.replies responses) ns) : PayloadsKept (.replies responses) ns := by
  intro s hs
  have hp : ns.filterMap (notificationPayload s.canMode) =
      (responses.map Reply.text).filterMap parseOBD2Response := by
    apply h.carried.filterMap_eq
    · intro n _ hn
      rw [hs, AdapterStream.canMode, notificationPayload_reply, parseOBD2Response_gap hn]
    · intro u _ hu
      exact parseOBD2Response_gap fun c hc => Or.inl (hu c hc)
    · intro u hu lead trail _ hl ht
      obtain ⟨r, -, rfl⟩ := List.mem_map.mp hu
      rw [hs, AdapterStream.canMode, notificationPayload_reply,
        parseOBD2Response_whole r.prompt_not_mem hl ht]
  obtain ⟨ho, hd⟩ := observed_emitted s ns
  rw [ho, hd, hp, List.filterMap_map]
  exact ⟨rfl, rfl⟩

theorem payloadsKept_monitor {lines : List MonitorLine}
    (h : SplitBetweenUnits (.monitor lines) ns) : PayloadsKept (.monitor lines) ns := by
  intro s hs
  -- the stream has no prompts, so a gap is blank
  have hbytes : ∀ n ∈ ns, ∀ c ∈ n, isFrameByte c = true := by
    intro n hn c hc
    have hmem : c ∈ (AdapterStream.monitor lines).bytes := by
      rw [← h.split]
      exact List.mem_flatten_of_mem hn hc
    obtain ⟨u, hu, hc⟩ := List.mem_flatMap.mp hmem
    obtain ⟨line, -, rfl⟩ := List.mem_map.mp hu
    rcases List.mem_append.mp hc with hc | hc
    · exact isFrameByte_text line c hc
    · rw [List.mem_singleton.mp hc, AdapterStream.terminator]
      decide
  have hblank : ∀ n t : Bytes, n ∈ ns → t ⊆ n → Gap t → Blank t := by
    intro n t hn hsub hg c hc
    apply (hg c hc).resolve_right
    rintro rfl
    exact absurd (hbytes n hn _ (hsub hc)) (by decide)
  have hp : ns.filterMap (notificationPayload s.canMode) =
      (lines.map MonitorLine.text).filterMap (notificationPayload true) := by
    apply h.carried.filterMap_eq
    · intro n hn hg
      rw [hs]
      exact notificationPayload_blank (hblank n n hn (List.Subset.refl n) hg)
    · intro u _ hu
      exact notificationPayload_blank hu
    · intro u hu lead trail hn hl ht
      obtain ⟨line, -, rfl⟩ := List.mem_map.mp hu
      obtain ⟨b, b', hb, hb', he⟩ := trim_padded line.text
      have htrail : Blank trail := hblank _ _ hn (List.subset_append_right _ _) ht
      have htok : tokenizeHex (lead ++ trim line.text ++ trail) = tokenizeHex line.text := by
        rw [tokenizeHex_padded hl htrail]
        conv_rhs => rw [he]
        rw [tokenizeHex_padded hb hb']
      rw [hs, AdapterStream.canMode, notificationPayload_line line (hbytes _ hn) htok,
        notificationPayload_line line (isFrameByte_text line) rfl]
  have hline : notificationPayload true ∘ MonitorLine.text = some ∘ MonitorLine.payload := by
    ext line : 1
    exact notificationPayload_line line (isFrameByte_text line) rfl
  obtain ⟨ho, hd⟩ := observed_emitted s ns
  rw [ho, hd, hp, List.filterMap_map, hline, List.filterMap_eq_map]
  exact ⟨rfl, rfl⟩

theorem payloadsKept_of_splitBetweenUnits {a : AdapterStream} (h : SplitBetweenUnits a ns) :
    PayloadsKept a ns := by
  cases a with
  | monitor lines => exact payloadsKept_monitor h
  | replies responses => exact payloadsKept_replies h

/-- Two replies, the first in two notifications with its line ends and prompt in the second. -/
theorem payloadsKept_twoReplies :
    PayloadsKept
      (.replies [⟨ascii "41 0D 20 \r\r", by decide⟩, ⟨ascii "41 0C 1A F8 \r\r", by decide⟩])
      [ascii "41 0D 20 ", ascii "\r\r>", ascii "41 0C 1A F8 \r\r>"] :=
  payloadsKept_of_splitBetweenUnits
    ⟨by decide, .unit [] (ascii " ") (by decide) (by decide) (by decide)
      (.idle (by decide) (.unit [] (ascii " \r\r>") (by decide) (by decide) (by decide) .done))⟩

def brakeLine : MonitorLine where
  id := ascii "118"
  data := [(48, 49), (48, 50), (48, 51), (48, 52), (48, 53), (48, 54), (48, 55), (48, 56)]
  id_length := by decide
  id_digits := by decide
  data_length := by decide
  data_digits := by decide

/-- The line cut at the default size of a notification, twenty bytes. -/
theorem not_payloadsKept_brakeLine :
    [ascii "118 01 02 03 04 05 0", ascii "6 07 08\r"].flatten =
        (AdapterStream.monitor [brakeLine]).bytes ∧
      ¬ PayloadsKept (.monitor [brakeLine]) [ascii "118 01 02 03 04 05 0", ascii "6 07 08\r"] := by
  constructor
  · decide
  intro h
  exact absurd (h { canMode := true } rfl).1 (by decide)

end Main

end VehicleSpy.Ble
