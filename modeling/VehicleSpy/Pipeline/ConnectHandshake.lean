import VehicleSpy.Pipeline.TCPTransport

/-! # The connect handshake over a stream cut into reads

A device answers with one stream of bytes and the network cuts it. The first read alone has
to hold the whole OK, and the prompt behind the acknowledgement is taken away only as far as
it has come with it; every other cut is harmless.
-/

namespace VehicleSpy.Pipeline.ConnectHandshake

open TCPTransport

open Text hiding trim

open TcpReader

/-- The line of a CAN frame: three hexadecimal digits and the digits of at least one byte. -/
structure CanLine where
  id : Bytes
  data : List (Byte × Byte)
  id_length : id.length = 3 := by decide +kernel
  id_hex : id.all (isDigit 16) = true := by decide +kernel
  data_ne : data ≠ [] := by decide +kernel
  data_hex : (data.all fun b => isDigit 16 b.1 && isDigit 16 b.2) = true := by decide +kernel

def CanLine.text (l : CanLine) : Bytes := l.id ++ l.data.flatMap fun b => [SP, b.1, b.2]

/-- Lines on the wire, each closed by a CR. -/
def wire (ls : List CanLine) : Bytes := (ls.map CanLine.text).flatMap (· ++ [CR])

/-- What a device sends: the replies to AUTH, ATI and ATHELO among its CAN lines. -/
structure DeviceStream where
  before : List CanLine
  banner : Bytes
  between : List CanLine
  ack : Bytes
  deviceId : Bytes
  after : List CanLine
  banner_line : ∀ c ∈ banner, isLineEnd c = false
  /-- The banner is neither blank nor a frame. -/
  banner_text : isSkipped banner = false
  banner_noAck : ¬ ackPrefix <:+: banner
  ack_line : ∀ c ∈ ack, isLineEnd c = false
  ack_parses : parseHeloAck (cleanLine ack) = some deviceId

namespace DeviceStream

variable (s : DeviceStream)

/-- What arrives before ATI is sent. -/
def greeting : Bytes := ascii "OK" ++ [CR, LF] ++ wire s.before

/-- The stream up to the CR that ends the acknowledgement. -/
def throughAck : Bytes :=
  s.greeting ++ s.banner ++ [CR, CR, PROMPT] ++ wire s.between ++ s.ack ++ [CR]

def bytes : Bytes := s.throughAck ++ [CR, CR, PROMPT] ++ wire s.after

end DeviceStream

/-- The stream cut into reads; the first answers AUTH alone. -/
structure Chunking (s : DeviceStream) where
  first : Bytes
  rest : List Received
  first_ne : first ≠ []
  first_length : first.length ≤ 63
  first_prefix : first <+: s.greeting
  whole : first ++ received rest = s.bytes

namespace Chunking

variable {s : DeviceStream} (c : Chunking s)

def attempt : Attempt where
  authReply := c.first
  recvs := c.rest
  authReply_length := c.first_length

/-- The bytes of the first reads. -/
def upTo (n : ℕ) : Bytes := c.first ++ received (c.rest.take n)

/-- No read ends between the acknowledgement and its prompt. -/
def PromptWhole : Prop :=
  ∀ n, s.throughAck.length ≤ (c.upTo n).length → s.throughAck.length + 3 ≤ (c.upTo n).length

end Chunking

/-- The attempt succeeds, and the lines read after it are the CAN lines behind the prompt. -/
def HandshakeKept (t : TCPTransport) {s : DeviceStream} (c : Chunking s) : Prop :=
  ∃ t' unread, t.connectAndAuth c.attempt = (t', some (s.deviceId, unread)) ∧
    (lines t'.pending (unread.map .recv)).filter (· ≠ []) = s.after.map CanLine.text

section Reading

/-- A line has been read: what is pending now stood behind a line end of the buffer or of the
last read. -/
inductive Advance : Bytes × List Received → Bytes × List Received → Prop
  | buffered (x pending recvs) {c : Byte} : isLineEnd c = true →
      Advance (x ++ c :: pending, recvs) (pending, recvs)
  | read (old cs d x pending unread) {c : Byte} : isLineEnd c = true →
      Received.bytes d = x ++ c :: pending →
      Advance (old, cs ++ d :: unread) (pending, unread)

theorem Advance.trans {p q r : Bytes × List Received} (h : Advance p q) (h' : Advance q r) :
    Advance p r := by
  cases h' with
  | buffered x pending recvs hc =>
    cases h with
    | buffered y _ _ hd =>
      rw [← List.cons_append, ← List.append_assoc]
      exact .buffered _ _ _ hc
    | read old cs d y _ _ hd hbytes =>
      rw [← List.cons_append, ← List.append_assoc] at hbytes
      exact .read _ _ _ _ _ _ hc hbytes
  | read old cs d x pending unread hc hbytes =>
    cases h with
    | buffered y _ _ hd => exact .read _ _ _ _ _ _ hc hbytes
    | read old' cs' d' y _ _ hd hbytes' =>
      rw [← List.cons_append, ← List.append_assoc]
      exact .read _ _ _ _ _ _ hc hbytes

/-- A line end stands behind everything that is free of line ends. -/
theorem prefix_of_free {u v x y : Bytes} {c : Byte} (hu : ∀ d ∈ u, isLineEnd d = false)
    (hc : isLineEnd c = true) (h : u ++ v = x ++ c :: y) : ∃ z, x = u ++ z ∧ v = z ++ c :: y := by
  rcases List.append_eq_append_iff.mp h with ⟨z, hz, hv⟩ | ⟨z, rfl, hz⟩
  · exact ⟨z, hz, hv⟩
  · cases z with
    | nil => exact ⟨[], by simp, by simpa using hz.symm⟩
    | cons d z =>
      obtain ⟨rfl, -⟩ := List.cons.inj hz
      exact absurd (hu c (by simp)) (by simp [hc])

theorem Advance.of_read {pending : Bytes} {data : Received} {recvs : List Received}
    {q : Bytes × List Received} (hp : ∀ c ∈ pending, isLineEnd c = false)
    (h : Advance (pending ++ data.bytes, recvs) q) : Advance (pending, data :: recvs) q := by
  generalize hold : pending ++ data.bytes = old at h
  cases h with
  | buffered x rest _ hc =>
    obtain ⟨z, -, hdata⟩ := prefix_of_free hp hc hold
    exact .read _ [] _ z _ _ hc hdata
  | read _ cs d x rest unread hc hbytes => exact .read _ (data :: cs) d x _ _ hc hbytes

theorem readLine_some {pending line rest : Bytes} (recvs : List Received)
    (h : takeBufferedLine pending = some (line, rest)) :
    readLineSkippingFrames pending recvs =
      if isSkipped line then readLineSkippingFrames rest recvs
      else (some (cleanLine line), rest, recvs) := by
  rw [readLineSkippingFrames.eq_def]
  split
  · next h' =>
    rw [h] at h'
    obtain ⟨rfl, rfl⟩ : _ ∧ _ := by simpa using h'
    rfl
  · next h' => simp [h] at h'

theorem readLine_recv {pending : Bytes} (h : takeBufferedLine pending = none) (data : Received)
    (recvs : List Received) :
    readLineSkippingFrames pending (data :: recvs) =
      readLineSkippingFrames (readSocketIntoPending pending data) recvs := by
  rw [readLineSkippingFrames.eq_def]
  split
  · next h' => simp [h] at h'
  · rfl

/-- The next line of what is pending and still to be read is the one that is looked at. -/
theorem readLine_next {l w : Bytes} {e : Byte} (hl : ∀ c ∈ l, isLineEnd c = false)
    (he : isLineEnd e = true) {pending : Bytes} {recvs : List Received}
    (hroomy : Roomy pending recvs) (h : pending ++ received recvs = l ++ e :: w) :
    ∃ rest unread, rest ++ received unread = w ∧ Roomy rest unread ∧
      Advance (pending, recvs) (rest, unread) ∧ readLineSkippingFrames pending recvs =
        if isSkipped l then readLineSkippingFrames rest unread
        else (some (cleanLine l), rest, unread) := by
  induction recvs generalizing pending with
  | nil =>
    rw [received, List.flatMap_nil, List.append_nil] at h
    subst h
    exact ⟨w, [], by simp [received], trivial, .buffered _ _ _ he,
      readLine_some [] (takeBufferedLine_append hl he)⟩
  | cons data recvs ih =>
    rcases hb : takeBufferedLine pending with _ | ⟨line, rest⟩
    · have hfree := takeBufferedLine_none hb
      have hrec : received (data :: recvs) = data.bytes ++ received recvs := rfl
      obtain ⟨a, rfl, -⟩ := prefix_of_free hfree he h
      rw [Roomy, remainder_open hfree] at hroomy
      have hkeep : readSocketIntoPending pending data = pending ++ data.bytes :=
        if_neg (by rw [List.length_append]; omega)
      rw [readLine_recv hb, hkeep]
      rw [hrec, ← List.append_assoc] at h
      obtain ⟨rest, unread, hrest, hroom, hadv, hread⟩ := ih hroomy.2 h
      exact ⟨rest, unread, hrest, hroom, hadv.of_read hfree, hread⟩
    · obtain ⟨d, rfl, hd, hline⟩ := takeBufferedLine_some hb
      rw [List.append_assoc, List.cons_append] at h
      have hwhole := takeBufferedLine_append hline (r := rest ++ received (data :: recvs)) hd
      rw [h, takeBufferedLine_append hl he] at hwhole
      obtain ⟨rfl, rfl⟩ : l = line ∧ w = rest ++ received (data :: recvs) := by simpa using hwhole
      exact ⟨rest, data :: recvs, rfl, hroomy.congr (remainder_closed hline hd),
        .buffered _ _ _ hd, readLine_some _ hb⟩

end Reading

section Lines

variable {l u w : Bytes}

theorem cleanLine_sub (l : Bytes) : cleanLine l <:+: l := by
  have htrim : ∀ v, trim v <:+: v := fun v =>
    (List.rdropWhile_prefix _ _).isInfix.trans (List.dropWhile_suffix _).isInfix
  rw [cleanLine]
  split
  · exact htrim l
  · exact (htrim _).trans (List.dropWhile_suffix _).isInfix

theorem mem_byteGroups {g : Bytes} (h : isByteGroups g = true) :
    ∀ c ∈ g, c = SP ∨ isDigit 16 c = true := by
  fun_induction isByteGroups g with
  | case1 => simp
  | case2 sp hi lo g ih =>
    simp only [Bool.and_eq_true, beq_iff_eq] at h
    obtain ⟨⟨⟨rfl, hhi⟩, hlo⟩, hg⟩ := h
    simpa [hhi, hlo] using ih hg
  | case3 => cases h

theorem mem_canFrameLine (h : isCanFrameLine l = true) :
    ∀ c ∈ l, c = SP ∨ isDigit 16 c = true := by
  unfold isCanFrameLine at h
  split at h
  · simp only [Bool.and_eq_true] at h
    obtain ⟨⟨⟨⟨ha, hb⟩, hc⟩, -⟩, hg⟩ := h
    simpa [ha, hb, hc] using mem_byteGroups hg
  · cases h

theorem eq_mem_of_ack (h : ackPrefix <:+: l) : 61 ∈ l := h.subset (by decide)

/-- An acknowledgement is not passed over. -/
theorem not_skipped_of_ack (h : ackPrefix <:+: cleanLine l) : isSkipped l = false := by
  have heq := eq_mem_of_ack h
  have hne : cleanLine l ≠ [] := List.ne_nil_of_mem heq
  have hframe : isCanFrameLine (cleanLine l) = false := by
    rw [Bool.eq_false_iff]
    intro hf
    exact absurd (mem_canFrameLine hf 61 heq) (by decide)
  simp [isSkipped, hne, hframe]

/-- Bytes that end with a line end, if there are any. -/
def Closed (u : Bytes) : Prop := ∀ c ∈ u.getLast?, isLineEnd c = true

theorem Closed.split (h : Closed u) (hne : u ≠ []) :
    ∃ l e v, u = l ++ e :: v ∧ isLineEnd e = true ∧ (∀ c ∈ l, isLineEnd c = false) ∧ Closed v := by
  have hlast := h (u.getLast hne) (by rw [List.getLast?_eq_some_getLast hne]; rfl)
  obtain ⟨l, e, v, rfl, he, hl⟩ := first_separator ⟨_, List.getLast_mem hne, hlast⟩
  refine ⟨l, e, v, rfl, he, hl, fun c hc => h c ?_⟩
  rw [List.getLast?_append_of_ne_nil _ (List.cons_ne_nil e v), List.getLast?_cons]
  simp [Option.mem_def.mp hc]

theorem Closed.append {v : Bytes} (hu : Closed u) (hv : Closed v) : Closed (u ++ v) := by
  intro c hc
  rw [List.getLast?_append] at hc
  rcases hl : v.getLast? with _ | d
  · rw [hl] at hc
    exact hu c hc
  · rw [hl] at hc
    exact hv c (hl.trans hc)

theorem closed_concat (u : Bytes) {e : Byte} (he : isLineEnd e = true) : Closed (u ++ [e]) := by
  intro c hc
  obtain rfl : e = c := by simpa using hc
  exact he

theorem Closed.of_suffix (h : Closed w) (hu : u <:+ w) : Closed u := by
  obtain ⟨v, rfl⟩ := hu
  intro c hc
  exact h c (by rw [List.getLast?_append, Option.mem_def.mp hc]; rfl)

theorem Closed.remainder (h : Closed u) : remainder isLineEnd u = [] := by
  rcases List.eq_nil_or_concat' u with rfl | ⟨v, e, rfl⟩
  · rfl
  · have he := h e (by simp)
    rw [remainder_append, remainder_closed (remainder_free v) he]
    rfl

/-- Nothing without a line end reaches over the end of closed lines. -/
theorem Closed.infix_append {t v : Bytes} (h : Closed u) (ht : ∀ c ∈ t, isLineEnd c = false)
    (hne : t ≠ []) : t <:+: u ++ v ↔ t <:+: u ∨ t <:+: v := by
  rcases List.eq_nil_or_concat' u with rfl | ⟨u', e, rfl⟩
  · simp [List.infix_nil, hne]
  · have he : e ∉ t := fun hm => by
      have := h e (by simp)
      rw [ht e hm] at this
      cases this
    rw [List.append_assoc, List.singleton_append, infix_append_cons he hne,
      infix_append_cons he hne]
    simp [List.infix_nil, hne]

theorem mem_text (l : CanLine) : ∀ c ∈ l.text, c = SP ∨ isDigit 16 c = true := by
  intro c hc
  rcases List.mem_append.mp hc with hc | hc
  · exact Or.inr (List.all_eq_true.mp l.id_hex c hc)
  · obtain ⟨b, hb, hc⟩ := List.mem_flatMap.mp hc
    obtain ⟨h₁, h₂⟩ := Bool.and_eq_true_iff.mp (List.all_eq_true.mp l.data_hex b hb)
    rcases (by simpa using hc : c = SP ∨ c = b.1 ∨ c = b.2) with rfl | rfl | rfl
    · exact Or.inl rfl
    · exact Or.inr h₁
    · exact Or.inr h₂

theorem text_line (l : CanLine) : ∀ c ∈ l.text, isLineEnd c = false := by
  intro c hc
  rcases mem_text l c hc with rfl | h
  · rfl
  · exact notLineEnd_of_hex h

theorem closed_wire (ls : List CanLine) : Closed (wire ls) := by
  induction ls with
  | nil => simp [wire, Closed]
  | cons l ls ih => exact (closed_concat l.text (by decide : isLineEnd CR = true)).append ih

theorem eq_notMem_wire (ls : List CanLine) : 61 ∉ wire ls := by
  intro h
  obtain ⟨t, ht, h⟩ := List.mem_flatMap.mp h
  obtain ⟨l, -, rfl⟩ := List.mem_map.mp ht
  rcases List.mem_append.mp h with h | h
  · exact absurd (mem_text l 61 h) (by decide)
  · exact absurd h (by decide)

theorem segments_wire (ls : List CanLine) : segments isLineEnd (wire ls) = ls.map CanLine.text := by
  have hls : ∀ t ∈ ls.map CanLine.text, ∀ c ∈ t, isLineEnd c = false := by
    intro t ht
    obtain ⟨l, -, rfl⟩ := List.mem_map.mp ht
    exact text_line l
  have h := segments_flatMap (by decide : isLineEnd CR = true) hls []
  rwa [List.append_nil, segments_nil, List.append_nil] at h

end Lines

section Finding

variable {u v w ack pending : Bytes} {e : Byte} {recvs : List Received}

theorem readAck_eq (pending : Bytes) (recvs : List Received) :
    readAck pending recvs = match readLineSkippingFrames pending recvs with
      | (none, rest, unread) => (none, rest, unread)
      | (some line, rest, unread) =>
        if (findStr ackPrefix line).isSome then (some line, rest, unread)
        else readAck rest unread := by
  rw [readAck.eq_def]
  split <;> next h => rw [h]

/-- The lines in front of the acknowledgement are read and passed over. -/
theorem readAck_finds (hu : Closed u) (hno : ¬ ackPrefix <:+: u)
    (hack : ∀ c ∈ ack, isLineEnd c = false) (hpre : ackPrefix <:+: cleanLine ack)
    (he : isLineEnd e = true) (hroomy : Roomy pending recvs)
    (h : pending ++ received recvs = u ++ ack ++ e :: v) :
    ∃ rest unread, readAck pending recvs = (some (cleanLine ack), rest, unread) ∧
      rest ++ received unread = v ∧ Roomy rest unread ∧
      Advance (pending, recvs) (rest, unread) := by
  induction hn : u.length using Nat.strong_induction_on generalizing u pending recvs with
  | _ n ih =>
    by_cases hne : u = []
    · subst hne
      obtain ⟨rest, unread, hrest, hroom, hadv, hread⟩ := readLine_next hack he hroomy h
      rw [if_neg (by simp [not_skipped_of_ack hpre])] at hread
      refine ⟨rest, unread, ?_, hrest, hroom, hadv⟩
      rw [readAck_eq, hread]
      exact if_pos (findStr_isSome_iff.mpr hpre)
    · obtain ⟨l, d, u', rfl, hd, hl, hu'⟩ := hu.split hne
      have hlu : l <:+: l ++ d :: u' := (List.prefix_append _ _).isInfix
      have hu'u : u' <:+: l ++ d :: u' := ⟨l ++ [d], [], by simp⟩
      have hnext : pending ++ received recvs = l ++ d :: (u' ++ ack ++ e :: v) := by
        rw [h]
        simp
      obtain ⟨rest, unread, hrest, hroom, hadv, hread⟩ := readLine_next hl hd hroomy hnext
      have hpass : readAck pending recvs = readAck rest unread := by
        have hline : ¬ (findStr ackPrefix (cleanLine l)).isSome = true := fun hs =>
          hno ((findStr_isSome_iff.mp hs).trans ((cleanLine_sub l).trans hlu))
        rw [readAck_eq, hread]
        split_ifs
        · exact (readAck_eq rest unread).symm
        · exact if_neg hline
      obtain ⟨rest', unread', hfound, hv, hroom', hadv'⟩ := ih u'.length
        (by rw [← hn]; simp; omega) hu' (fun hi => hno (hi.trans hu'u)) hroom hrest rfl
      exact ⟨rest', unread', hpass.trans hfound, hv, hroom', hadv.trans hadv'⟩

/-- A line that is not passed over answers ATI, and only lines behind it are left. -/
theorem readLine_finds (hu : Closed u) (hline : ∃ l ∈ segments isLineEnd u, isSkipped l = false)
    (hroomy : Roomy pending recvs) (h : pending ++ received recvs = u ++ w) :
    ∃ line rest unread u', readLineSkippingFrames pending recvs = (some line, rest, unread) ∧
      rest ++ received unread = u' ++ w ∧ Closed u' ∧ u' <:+ u ∧ Roomy rest unread ∧
      Advance (pending, recvs) (rest, unread) := by
  induction hn : u.length using Nat.strong_induction_on generalizing u pending recvs with
  | _ n ih =>
    obtain ⟨m, hm, hskip⟩ := hline
    have hne : u ≠ [] := by
      rintro rfl
      simp at hm
    obtain ⟨l, d, u', rfl, hd, hl, hu'⟩ := hu.split hne
    have hu'u : u' <:+ l ++ d :: u' := ⟨l ++ [d], by simp⟩
    rw [List.append_assoc, List.cons_append] at h
    obtain ⟨rest, unread, hrest, hroom, hadv, hread⟩ := readLine_next hl hd hroomy h
    split_ifs at hread with hs
    · rw [segments_closed hl hd] at hm
      have hm' : m ∈ segments isLineEnd u' := by
        rcases List.mem_cons.mp hm with rfl | hm'
        · rw [hs] at hskip
          cases hskip
        · exact hm'
      obtain ⟨line, rest', unread', u₂, hfound, hw, hu₂, hsuffix, hroom', hadv'⟩ := ih u'.length
        (by rw [← hn]; simp; omega) hu' ⟨m, hm', hskip⟩ hroom hrest rfl
      exact ⟨line, rest', unread', u₂, hread.trans hfound, hw, hu₂, hsuffix.trans hu'u, hroom',
        hadv.trans hadv'⟩
    · exact ⟨cleanLine l, rest, unread, u', hread, hrest, hu', hu'u, hroom, hadv⟩

end Finding

section Handshake

variable {s : DeviceStream} {w : Bytes}

theorem ackPrefix_ack (s : DeviceStream) : ackPrefix <:+: cleanLine s.ack := by
  have h := s.ack_parses
  rw [parseHeloAck] at h
  obtain ⟨i, hi, -⟩ := Option.bind_eq_some_iff.mp h
  exact findStr_isSome_iff.mp (by rw [hi]; rfl)

theorem cleanLine_prompt (s : DeviceStream) : cleanLine (PROMPT :: s.ack) = cleanLine s.ack := by
  have heq : 61 ∈ s.ack := eq_mem_of_ack ((ackPrefix_ack s).trans (cleanLine_sub _))
  have hall : ¬ s.ack.all isLead = true := fun h =>
    absurd (List.all_eq_true.mp h 61 heq) (by decide)
  have hall' : ¬ (PROMPT :: s.ack).all isLead = true := by
    rwa [List.all_cons, show isLead PROMPT = true by decide, Bool.true_and]
  rw [cleanLine, if_neg hall', List.dropWhile_cons_of_pos (by decide), cleanLine, if_neg hall]

theorem closed_greeting (s : DeviceStream) : Closed ([CR, LF] ++ wire s.before) :=
  (closed_concat [CR] (by decide : isLineEnd LF = true)).append (closed_wire s.before)

theorem noAck_banner (hw : w <:+ [CR, LF] ++ wire s.before) :
    ¬ ackPrefix <:+: w ++ s.banner ++ [CR, CR] := by
  have heq : 61 ∉ w := by
    intro h
    rcases List.mem_append.mp (hw.subset h) with h | h
    · exact absurd h (by decide)
    · exact eq_notMem_wire s.before h
  rw [List.append_assoc, ((closed_greeting s).of_suffix hw).infix_append (by decide +kernel)
    (by decide), infix_append_cons (by decide) (by decide), not_or, not_or]
  exact ⟨fun h => heq (eq_mem_of_ack h), s.banner_noAck, by decide⟩

/-- From any point of the greeting on: lines without an acknowledgement, the banner among them,
and then the line of the acknowledgement. -/
theorem ack_split (hw : w <:+ [CR, LF] ++ wire s.before) :
    ∃ u a, w ++ s.banner ++ [CR, CR, PROMPT] ++ wire s.between ++ s.ack = u ++ a ∧ Closed u ∧
      ¬ ackPrefix <:+: u ∧ (∃ l ∈ segments isLineEnd u, isSkipped l = false) ∧
      (∀ c ∈ a, isLineEnd c = false) ∧ cleanLine a = cleanLine s.ack := by
  have hclosed : Closed (w ++ s.banner ++ [CR, CR]) := by
    have h := closed_concat (w ++ s.banner ++ [CR]) (by decide : isLineEnd CR = true)
    rwa [List.append_assoc, List.singleton_append] at h
  have hbanner : ∀ v, s.banner ∈ segments isLineEnd (w ++ s.banner ++ [CR, CR] ++ v) := by
    intro v
    rw [List.append_assoc, List.append_assoc, segments_append,
      ((closed_greeting s).of_suffix hw).remainder, List.nil_append, List.cons_append,
      segments_closed s.banner_line (by decide)]
    simp
  rcases hb : s.between with _ | ⟨l, ls⟩
  · refine ⟨w ++ s.banner ++ [CR, CR], PROMPT :: s.ack, by simp [wire], hclosed, noAck_banner hw,
      ⟨s.banner, ?_, s.banner_text⟩, ?_, cleanLine_prompt s⟩
    · simpa using hbanner []
    · rintro c (_ | ⟨_, hc⟩)
      · rfl
      · exact s.ack_line c hc
  · refine ⟨w ++ s.banner ++ [CR, CR] ++ PROMPT :: wire s.between, s.ack, by simp [hb], ?_, ?_,
      ⟨s.banner, hbanner _, s.banner_text⟩, s.ack_line, rfl⟩
    · have h := (closed_concat (w ++ s.banner ++ [CR, CR] ++ PROMPT :: l.text)
        (by decide : isLineEnd CR = true)).append (closed_wire ls)
      have hwire : wire s.between = l.text ++ [CR] ++ wire ls := by rw [hb]; rfl
      rw [hwire]
      simpa using h
    · rw [hclosed.infix_append (by decide +kernel) (by decide), not_or]
      refine ⟨noAck_banner hw, fun h => ?_⟩
      rcases List.mem_cons.mp (eq_mem_of_ack h) with h | h
      · exact absurd h (by decide)
      · exact eq_notMem_wire _ h

/-- The HELO phase finds the acknowledgement, whatever the reads are, and stops behind its CR. -/
theorem handshake_finds (hw : w <:+ [CR, LF] ++ wire s.before) {recvs : List Received}
    {behind : Bytes}
    (h : received recvs =
      w ++ s.banner ++ [CR, CR, PROMPT] ++ wire s.between ++ s.ack ++ CR :: behind)
    (hroomy : Roomy [] recvs) :
    ∃ line rest₁ unread₁ ack rest unread,
      readLineSkippingFrames [] recvs = (some line, rest₁, unread₁) ∧
      readAck rest₁ unread₁ = (some ack, rest, unread) ∧ parseHeloAck ack = some s.deviceId ∧
      rest ++ received unread = behind ∧ Roomy rest unread ∧
      Advance ([], recvs) (rest, unread) := by
  obtain ⟨u, a, hsplit, hu, hno, hbanner, ha, hclean⟩ := ack_split hw
  have hstart : [] ++ received recvs = u ++ (a ++ CR :: behind) := by
    rw [h, hsplit, List.nil_append, List.append_assoc]
  obtain ⟨line, rest₁, unread₁, u', hline, hrest₁, hu', hsuffix, hroom₁, hadv₁⟩ :=
    readLine_finds hu hbanner hroomy hstart
  rw [← List.append_assoc] at hrest₁
  obtain ⟨rest, unread, hack, hrest, hroom, hadv⟩ := readAck_finds hu'
    (fun hi => hno (hi.trans hsuffix.isInfix)) ha (hclean ▸ ackPrefix_ack s) (by decide) hroom₁
    hrest₁
  exact ⟨line, rest₁, unread₁, _, rest, unread, hline, hack, by rw [hclean, s.ack_parses], hrest,
    hroom, hadv₁.trans hadv⟩

variable (t : TCPTransport) (c : Chunking s)

/-- The first read has to bring both letters. -/
theorem connect_fails (h : c.first.length < 2) : (t.connectAndAuth c.attempt).2 = none := by
  have hfind : findStr (ascii "OK") c.first = none := by
    rw [findStr_none_iff]
    intro hi
    have := hi.length_le
    rw [show (ascii "OK").length = 2 by decide] at this
    omega
  simp [connectAndAuth, Chunking.attempt, hfind]

/-- The part of the greeting that the first read leaves. -/
theorem greeting_rest (h : 2 ≤ c.first.length) :
    ∃ w, w <:+ [CR, LF] ++ wire s.before ∧ c.first ++ w = s.greeting ∧
      ascii "OK" <+: c.first := by
  obtain ⟨w, hw⟩ := c.first_prefix
  have hgreeting : ascii "OK" <+: s.greeting :=
    ⟨[CR, LF] ++ wire s.before, by rw [DeviceStream.greeting, List.append_assoc]⟩
  obtain ⟨z, hz⟩ : ascii "OK" <+: c.first :=
    List.prefix_of_prefix_length_le hgreeting c.first_prefix h
  refine ⟨w, ⟨z, ?_⟩, hw, ⟨z, hz⟩⟩
  rw [← hz, DeviceStream.greeting, List.append_assoc, List.append_assoc] at hw
  exact List.append_cancel_left hw

/-- With both letters in the first read the attempt succeeds, and leaves what stands behind the
CR of the acknowledgement, less the start that its read brought. -/
theorem connect_succeeds (hraw : t.adapterProtocol = ascii "raw") (hroomy : Roomy [] c.rest)
    (h : 2 ≤ c.first.length) :
    ∃ t' rest unread, t.connectAndAuth c.attempt = (t', some (s.deviceId, unread)) ∧
      t'.pending = rest.dropWhile isLead ∧
      rest ++ received unread = [CR, CR, PROMPT] ++ wire s.after ∧ Roomy rest unread ∧
      Advance ([], c.rest) (rest, unread) := by
  obtain ⟨w, hw, hfirst, hok⟩ := greeting_rest c h
  have hrecv : received c.rest = w ++ s.banner ++ [CR, CR, PROMPT] ++ wire s.between ++ s.ack ++
      CR :: ([CR, CR, PROMPT] ++ wire s.after) := by
    have hwhole := c.whole
    rw [DeviceStream.bytes, DeviceStream.throughAck, ← hfirst] at hwhole
    simp only [List.append_assoc] at hwhole
    rw [List.append_cancel_left hwhole]
    simp
  obtain ⟨line, rest₁, unread₁, ack, rest, unread, hline, hack, hparse, hrest, hroom, hadv⟩ :=
    handshake_finds hw hrecv hroomy
  have hfind : findStr (ascii "OK") c.first ≠ none := by
    rw [ne_eq, findStr_none_iff, not_not]
    exact hok.isInfix
  have hproto : t.adapterProtocol ≠ ascii "elm327" := by
    rw [hraw]
    decide
  have hconnect : t.connectAndAuth c.attempt = ({ t with
      connected := true
      deviceIdHex := deviceIdToHex s.deviceId
      pending := rest.dropWhile isLead }, some (s.deviceId, unread)) := by
    simp [connectAndAuth, closeConnection, performHeloHandshake, sendHeloAndParseAck,
      Chunking.attempt, c.first_ne, hfind, hproto, hline, hack, hparse]
  exact ⟨_, rest, unread, hconnect, rfl, hrest, hroom, hadv⟩

/-- The read that ended the acknowledgement brought its prompt exactly if it went on long
enough. -/
theorem promptWhole_iff {rest : Bytes} {unread : List Received}
    (hrest : rest ++ received unread = [CR, CR, PROMPT] ++ wire s.after)
    (hadv : Advance ([], c.rest) (rest, unread)) : c.PromptWhole ↔ 3 ≤ rest.length := by
  generalize hold : ([], c.rest) = start at hadv
  cases hadv with
  | buffered x _ _ he => simp at hold
  | read _ cs d x _ _ he hbytes =>
    obtain ⟨-, hcs⟩ := Prod.mk.inj hold
    have hthrough : s.throughAck.length = (c.first ++ received cs).length + x.length + 1 := by
      have hwhole := congrArg List.length c.whole
      rw [hcs, received_append, DeviceStream.bytes, List.append_assoc, ← hrest] at hwhole
      simp only [received, List.flatMap_cons, hbytes, List.length_append, List.length_cons]
        at hwhole ⊢
      omega
    have hearly : ∀ n ≤ cs.length, (c.upTo n).length < s.throughAck.length := by
      intro n hn
      have hle : (received (cs.take n)).length ≤ (received cs).length :=
        (List.IsPrefix.flatMap (List.take_prefix n cs) _).length_le
      rw [Chunking.upTo, hcs, List.take_append_of_le_length hn, hthrough, List.length_append,
        List.length_append]
      omega
    have hlate : ∀ m, (c.upTo (cs.length + (m + 1))).length =
        s.throughAck.length + rest.length + (received (unread.take m)).length := by
      intro m
      rw [Chunking.upTo, hcs, List.take_length_add_append, List.take_succ_cons, received_append,
        hthrough]
      simp only [received, List.flatMap_cons, hbytes, List.length_append, List.length_cons]
      omega
    constructor
    · intro h
      have h₁ := h (cs.length + 1)
      rw [hlate 0] at h₁
      simp only [List.take_zero, received, List.flatMap_nil, List.length_nil] at h₁
      omega
    · intro h n hn
      rcases Nat.lt_or_ge cs.length n with hlt | hge
      · obtain ⟨m, rfl⟩ := Nat.exists_eq_add_of_lt hlt
        rw [Nat.add_assoc, hlate m]
        omega
      · exact absurd hn (not_le.mpr (hearly n hge))

theorem segments_CR (w : Bytes) : segments isLineEnd (CR :: w) = [] :: segments isLineEnd w :=
  segments_closed (v := []) (by simp) (by decide)

theorem text_ne_nil (l : CanLine) : l.text ≠ [] := by
  intro h
  have hlen := congrArg List.length h
  rw [CanLine.text, List.length_append, l.id_length, List.length_nil] at hlen
  omega

theorem isLead_of_wire (ls : List CanLine) : ∀ c ∈ (wire ls).head?, isLead c = false := by
  cases ls with
  | nil => simp [wire]
  | cons l ls =>
    intro c hc
    obtain ⟨d, id, hid⟩ := List.exists_cons_of_length_eq_add_one l.id_length
    obtain rfl : d = c := by simpa [wire, CanLine.text, hid] using hc
    have hd := List.all_eq_true.mp l.id_hex d (by simp [hid])
    have hprompt : d ≠ PROMPT := by
      rintro rfl
      exact absurd hd (by decide)
    simp [isLead, notBlank_of_hex hd, hprompt]

/-- With the whole prompt taken away the lines are the CAN lines. -/
theorem lines_whole {q : Bytes} {unread : List Received} (hq : q ++ received unread = wire s.after)
    (hroomy : Roomy q unread) :
    (lines (([CR, CR, PROMPT] ++ q).dropWhile isLead) (unread.map .recv)).filter (· ≠ []) =
      s.after.map CanLine.text := by
  have hdrop : ([CR, CR, PROMPT] ++ q).dropWhile isLead = q := by
    have hlead : ∀ c ∈ [CR, CR, PROMPT], isLead c = true := by decide +kernel
    rw [List.dropWhile_append_of_pos hlead]
    refine (dropWhile_eq_self_iff isLead).mpr fun c hc => isLead_of_wire s.after c ?_
    rw [← hq, List.head?_append, Option.mem_def.mp hc]
    rfl
  rw [hdrop, lines_of_roomy hroomy, hq, segments_wire, List.filter_eq_self]
  intro t ht
  obtain ⟨l, -, rfl⟩ := List.mem_map.mp ht
  simp [text_ne_nil l]

theorem segments_prompt (l : CanLine) (ls : List CanLine) :
    segments isLineEnd (PROMPT :: wire (l :: ls)) = (PROMPT :: l.text) :: ls.map CanLine.text := by
  have hline : ∀ c ∈ PROMPT :: l.text, isLineEnd c = false := by
    rintro c (_ | ⟨_, hc⟩)
    · rfl
    · exact text_line l c hc
  have hwire : PROMPT :: wire (l :: ls) = (PROMPT :: l.text) ++ CR :: wire ls := by simp [wire]
  rw [hwire, segments_closed hline (by decide), segments_wire]

/-- A cut prompt stays in front of the CAN lines. -/
theorem lines_cut {rest : Bytes} {unread : List Received}
    (hrest : rest ++ received unread = [CR, CR, PROMPT] ++ wire s.after) (hlt : rest.length < 3)
    (hroomy : Roomy rest unread) :
    (lines (rest.dropWhile isLead) (unread.map .recv)).filter (· ≠ []) =
      (segments isLineEnd (PROMPT :: wire s.after)).filter (· ≠ []) := by
  have hstrip : rest.dropWhile isLead = [] := by
    have hpre : rest <+: [CR, CR, PROMPT] :=
      List.prefix_of_prefix_length_le ⟨received unread, hrest⟩ (List.prefix_append _ _) hlt.le
    have hlead : ∀ c ∈ [CR, CR, PROMPT], isLead c = true := by decide +kernel
    exact List.dropWhile_eq_nil_iff.mpr fun c hc => hlead c (hpre.subset hc)
  rw [hstrip, lines_of_roomy (hroomy.of_suffix (List.nil_suffix)), List.nil_append]
  rcases rest with _ | ⟨a, _ | ⟨b, _ | ⟨d, rest⟩⟩⟩
  · rw [show received unread = CR :: CR :: PROMPT :: wire s.after from hrest, segments_CR,
      segments_CR]
    simp
  · rw [show received unread = CR :: PROMPT :: wire s.after from (List.cons.inj hrest).2,
      segments_CR]
    simp
  · rw [show received unread = PROMPT :: wire s.after from
      (List.cons.inj (List.cons.inj hrest).2).2]
  · simp at hlt
    omega

end Handshake

/-- Once the OK has come whole, only a read that ends in front of the prompt does harm. -/
theorem kept_iff_promptWhole (t : TCPTransport) {s : DeviceStream} (c : Chunking s)
    (hraw : t.adapterProtocol = ascii "raw") (hroomy : Roomy [] c.rest)
    (hok : 2 ≤ c.first.length) : HandshakeKept t c ↔ s.after = [] ∨ c.PromptWhole := by
  obtain ⟨t', rest, unread, hconnect, hpending, hrest, hroom, hadv⟩ :=
    connect_succeeds t c hraw hroomy hok
  have hkept : HandshakeKept t c ↔
      (lines (rest.dropWhile isLead) (unread.map .recv)).filter (· ≠ []) =
        s.after.map CanLine.text := by
    constructor
    · rintro ⟨t'', unread', hconnect', hlines⟩
      rw [hconnect] at hconnect'
      obtain ⟨rfl, rfl⟩ : t' = t'' ∧ unread = unread' := by simpa using hconnect'
      rwa [hpending] at hlines
    · intro hlines
      exact ⟨t', unread, hconnect, by rwa [hpending]⟩
  rw [hkept, promptWhole_iff c hrest hadv]
  rcases Nat.lt_or_ge rest.length 3 with hcut | hwhole
  · rw [lines_cut hrest hcut hroom, or_iff_left (not_le.mpr hcut)]
    rcases s.after with _ | ⟨l, ls⟩
    · simp [wire, segments_open (p := isLineEnd) (v := [PROMPT]) (by decide +kernel)]
    · rw [segments_prompt, List.filter_cons_of_pos (by simp), List.map_cons]
      simp only [List.cons_ne_nil, iff_false]
      rintro h
      exact List.cons_ne_self _ _ (List.cons.inj h).1
  · obtain ⟨q, rfl⟩ : [CR, CR, PROMPT] <+: rest :=
      List.prefix_of_prefix_length_le ⟨wire s.after, rfl⟩ ⟨received unread, hrest⟩ hwhole
    rw [List.append_assoc] at hrest
    have hq : q ++ received unread = wire s.after := List.append_cancel_left hrest
    simp only [lines_whole hq (hroom.of_suffix (List.suffix_append _ _)), hwhole, or_true]

/-- The handshake and the lines behind it do not depend on the cuts exactly if the first read
brings the whole OK and, where CAN lines follow, no read ends between the acknowledgement and its
prompt. -/
theorem handshakeKept_iff (t : TCPTransport) {s : DeviceStream} (c : Chunking s)
    (hraw : t.adapterProtocol = ascii "raw") (hroomy : Roomy [] c.rest) :
    HandshakeKept t c ↔ 2 ≤ c.first.length ∧ (s.after = [] ∨ c.PromptWhole) := by
  constructor
  · intro h
    have hok : 2 ≤ c.first.length := by
      by_contra hlt
      obtain ⟨t', unread, hconnect, -⟩ := h
      have hfails := connect_fails t c (not_le.mp hlt)
      rw [hconnect] at hfails
      cases hfails
    exact ⟨hok, (kept_iff_promptWhole t c hraw hroomy hok).mp h⟩
  · rintro ⟨hok, h⟩
    exact (kept_iff_promptWhole t c hraw hroomy hok).mpr h

section Bench

def benchBanner : Bytes := ascii "ESP32 CAN Bridge v0.3.0"

def benchAck : Bytes := ascii
  "ACK DEVICE=ESP32-CAN-Bridge FIRMWARE=0.3.0 DEVICEID=246F28A1B2C300000000000000000001"

theorem benchBanner_line : ∀ c ∈ benchBanner, isLineEnd c = false := by decide +kernel

theorem benchBanner_noAck : ¬ ackPrefix <:+: benchBanner := by decide +kernel

theorem benchAck_line : ∀ c ∈ benchAck, isLineEnd c = false := by decide +kernel

/-- A bridge that streams between its replies. -/
def benchStream : DeviceStream where
  before := [{ id := ascii "1A0", data := [(48, 49)] }]
  banner := benchBanner
  between := [{ id := ascii "257", data := [(65, 48), (70, 70)] }]
  ack := benchAck
  deviceId := [0x24, 0x6F, 0x28, 0xA1, 0xB2, 0xC3, 0, 0, 0, 0, 0, 0, 0, 0, 0, 1]
  after := [{ id := ascii "1A0", data := [(48, 50)] }]
  banner_line := benchBanner_line
  banner_text := by decide +kernel
  banner_noAck := benchBanner_noAck
  ack_line := benchAck_line
  ack_parses := by decide +kernel

def read (bytes : Bytes) (h : 0 < bytes.length ∧ bytes.length ≤ 256 := by decide +kernel) :
    Received := ⟨bytes, h.1, h.2⟩

/-- One read for each reply. -/
def replyReads : Chunking benchStream where
  first := ascii "OK" ++ [CR, LF] ++ wire benchStream.before
  rest := [read (benchStream.banner ++ [CR, CR, PROMPT] ++ wire benchStream.between),
    read (benchStream.ack ++ [CR, CR, CR, PROMPT] ++ wire benchStream.after)]
  first_ne := by decide +kernel
  first_length := by decide +kernel
  first_prefix := by decide +kernel
  whole := by decide +kernel

/-- The prompt of the acknowledgement comes with the next CAN line. -/
def latePrompt : Chunking benchStream where
  first := ascii "OK" ++ [CR, LF] ++ wire benchStream.before
  rest := [read (benchStream.banner ++ [CR, CR, PROMPT] ++ wire benchStream.between),
    read (benchStream.ack ++ [CR, CR, CR]), read (PROMPT :: wire benchStream.after)]
  first_ne := by decide +kernel
  first_length := by decide +kernel
  first_prefix := by decide +kernel
  whole := by decide +kernel

theorem roomy_bench (c : Chunking benchStream) : Roomy [] c.rest := by
  refine roomy_of_short fun l hl _ => ?_
  have hwhole := congrArg List.length c.whole
  have hbytes : benchStream.bytes.length + 256 ≤ MAX_PENDING_LEN := by decide +kernel
  have hle := hl.length_le
  rw [List.length_append] at hwhole
  rw [List.nil_append] at hle
  omega

theorem handshakeKept_iff_replyReads :
    HandshakeKept { host := ascii "192.168.4.1" } replyReads ↔
      2 ≤ replyReads.first.length ∧ (benchStream.after = [] ∨ replyReads.PromptWhole) :=
  handshakeKept_iff _ replyReads rfl (roomy_bench _)

/-- The prompt is read as part of the CAN line. -/
theorem not_handshakeKept_latePrompt :
    ¬ HandshakeKept { host := ascii "192.168.4.1" } latePrompt := by
  rw [kept_iff_promptWhole _ latePrompt rfl (roomy_bench _)
    (by decide +kernel)]
  rintro (h | h)
  · cases h
  · exact absurd (h 2 (by decide +kernel)) (by decide +kernel)

end Bench

end VehicleSpy.Pipeline.ConnectHandshake
