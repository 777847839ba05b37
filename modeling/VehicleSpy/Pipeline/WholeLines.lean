import VehicleSpy.Machine.Fetch
import VehicleSpy.Pipeline.TcpReader
import VehicleSpy.Text.LineBuffer

/-! # Whole lines and ends of lines

The serial transport and the TCP reader cut the bytes that they read into lines with buffers of the
same length. When one is too long, the TCP reader empties it and the serial transport keeps its end.
What either hands out is a segment of the stream, or the end of one whose beginning it has dropped.
-/

namespace VehicleSpy.Pipeline

open Text Machine

/-- The outcome of the serial transport's checks and of a read. -/
inductive UsbEvent
  /-- A stop is found requested before the buffer is looked at. -/
  | stop
  | selectFailed (eintr : Bool)
  /-- A stop is found requested behind the wait. -/
  | stopAfterSelect
  | timeout
  /-- The read would block. -/
  | again
  | readFailed
  | eof
  | read (data : Received)
  deriving DecidableEq, Repr

structure USBTransport where
  opened : Bool := true
  exhausted : Bool := false
  pending : Bytes := []
  deriving DecidableEq, Repr

namespace USBTransport

open TcpReader (takeBufferedLine)

/-- A buffer that grows past its cap loses its front. -/
def append (pending : Bytes) (data : Received) : Bytes :=
  let pending := pending ++ data.bytes
  if MAX_PENDING_LEN < pending.length then pending.drop (pending.length - MAX_PENDING_LEN)
  else pending

/-- The loop of `nextLine`. -/
def poll (t : USBTransport) : List UsbEvent → ReadOutcome × USBTransport × List UsbEvent
  | .stop :: script => (.failed, { t with exhausted := true }, script)
  | [] =>
    match takeBufferedLine t.pending with
    | some (line, rest) => (.line line, { t with pending := rest }, [])
    | none => (.waiting, t, [])
  | e :: script =>
    match takeBufferedLine t.pending with
    | some (line, rest) => (.line line, { t with pending := rest }, e :: script)
    | none =>
      match e with
      | .selectFailed true | .timeout | .again => poll t script
      | .read data => poll { t with pending := append t.pending data } script
      | .stop | .selectFailed false | .stopAfterSelect | .readFailed | .eof =>
        (.failed, { t with exhausted := true }, script)

def nextLine (t : USBTransport) (script : List UsbEvent) :
    ReadOutcome × USBTransport × List UsbEvent :=
  if !t.opened || t.exhausted then (.failed, t, script) else poll t script

/-- The reads up to the first event that ends the transport. -/
def reads : List UsbEvent → List Bytes
  | [] => []
  | .selectFailed true :: script | .timeout :: script | .again :: script => reads script
  | .read data :: script => data.bytes :: reads script
  | .stop :: _ | .selectFailed false :: _ | .stopAfterSelect :: _ | .readFailed :: _ | .eof :: _ =>
    []

/-- How many bytes in front are dropped. -/
def dropped (n : ℕ) : ℕ := n - MAX_PENDING_LEN

end USBTransport

/-- The line of a call, if it returns one. -/
def ReadOutcome.text? : ReadOutcome → Option Bytes
  | .line text => some text
  | .failed | .waiting => none

namespace TcpReader

def dropped (n : ℕ) : ℕ := if MAX_PENDING_LEN < n then n else 0

/-- The reads of a script. -/
def reads : List SocketEvent → List Bytes
  | [] => []
  | .recv data :: script => data.bytes :: reads script
  | .selectFailed _ :: script | .timeout _ :: script | .recvFailed _ :: script => reads script

/-- One call of `nextLine` as a step. -/
def call (s : Bytes × List SocketEvent) : Option Bytes × Bytes × List SocketEvent :=
  let result := nextLine s.1 s.2
  (result.1.text?, result.2)

/-- The lines that are still to come. -/
def owed (s : Bytes × List SocketEvent) : List Bytes :=
  segments isLineEnd s.1 ++ emitted (LineBuffer.feed isLineEnd dropped) (remainder isLineEnd s.1)
    (reads s.2)

section Owed

variable {pending : Bytes} {script : List SocketEvent}

theorem readSocketIntoPending_eq (pending : Bytes) (data : Received) :
    readSocketIntoPending pending data =
      (pending ++ data.bytes).drop (dropped (pending.length + data.bytes.length)) := by
  simp only [readSocketIntoPending, dropped, ← List.length_append]
  split
  · exact List.drop_length.symm
  · rfl

theorem owed_recv (hp : ∀ c ∈ pending, isLineEnd c = false) (data : Received) :
    owed (pending, .recv data :: script) = owed (readSocketIntoPending pending data, script) := by
  simp only [owed, reads, segments_open hp, remainder_open hp, List.nil_append, emitted_cons,
    LineBuffer.feed, readSocketIntoPending_eq]

theorem owed_line {line rest : Bytes} (h : takeBufferedLine pending = some (line, rest)) :
    owed (pending, script) = line :: owed (rest, script) := by
  obtain ⟨c, rfl, hc, hline⟩ := takeBufferedLine_some h
  simp only [owed, segments_closed hline hc, remainder_closed hline hc, List.cons_append]

/-- A poll hands out what is owed next, and it reads on. -/
theorem owed_poll (hp : ∀ c ∈ pending, isLineEnd c = false) :
    (poll pending script).1.text?.toList ++ owed (poll pending script).2 =
        owed (pending, script) ∧
      ((poll pending script).2.2.length < script.length ∨ owed (pending, script) = []) := by
  fun_induction poll pending script with
  | case1 pending =>
    have hnil : owed (pending, []) = [] := by
      simp only [owed, reads, emitted_nil, segments_open hp, List.append_nil]
    exact ⟨rfl, Or.inr hnil⟩
  | case2 pending script ih | case4 pending script ih | case6 pending script ih =>
    obtain ⟨howed, hlen⟩ := ih hp
    exact ⟨howed, hlen.imp (fun h => Nat.lt_succ_of_lt h) id⟩
  | case3 pending script | case5 pending script | case7 pending script =>
    exact ⟨rfl, Or.inl (Nat.lt_succ_self _)⟩
  | case8 pending data script p line rest hb =>
    rw [owed_recv hp, owed_line hb]
    exact ⟨rfl, Or.inl (Nat.lt_succ_self _)⟩
  | case9 pending data script p hb ih =>
    obtain ⟨howed, hlen⟩ := ih (takeBufferedLine_none hb)
    rw [owed_recv hp]
    exact ⟨howed, hlen.imp (fun h => Nat.lt_succ_of_lt h) id⟩

/-- A call hands out what is owed next; it takes a line out of the buffer or reads on. -/
theorem owed_call (s : Bytes × List SocketEvent) :
    (call s).1.toList ++ owed (call s).2 = owed s ∧
      ((owed (call s).2).length + (call s).2.2.length < (owed s).length + s.2.length ∨
        owed s = []) := by
  obtain ⟨pending, script⟩ := s
  unfold call nextLine
  rcases hb : takeBufferedLine pending with _ | ⟨line, rest⟩
  · obtain ⟨howed, hlen⟩ := @owed_poll pending script (takeBufferedLine_none hb)
    have hcount := congrArg List.length howed
    rw [List.length_append] at hcount
    refine ⟨howed, hlen.imp (fun h => ?_) id⟩
    dsimp only
    omega
  · rw [owed_line hb]
    refine ⟨rfl, Or.inl ?_⟩
    simp only [List.length_cons]
    omega

/-- Calls of `nextLine`, whatever fails in between, hand out the lines of the buffer in order. -/
theorem collect_call (n : ℕ) (s : Bytes × List SocketEvent) :
    collect call n s <+: owed s :=
  collect_prefix (fun s => (owed_call s).1 ▸ List.prefix_rfl) n s

theorem collect_call_eq (s : Bytes × List SocketEvent) :
    ∃ n, collect call n s = owed s :=
  ⟨_, collect_eq (P := fun _ => True) (fun s => (owed s).length + s.2.length) (fun _ _ => trivial)
    (fun s _ => (owed_call s).1) (fun s _ => (owed_call s).2) trivial le_rfl⟩

end Owed

end TcpReader

namespace USBTransport

open TcpReader (takeBufferedLine takeBufferedLine_none takeBufferedLine_some)

def call (s : USBTransport × List UsbEvent) : Option Bytes × USBTransport × List UsbEvent :=
  let result := nextLine s.1 s.2
  (result.1.text?, result.2)

/-- The lines that are still to come, if no stop is requested. -/
def owed (s : USBTransport × List UsbEvent) : List Bytes :=
  if !s.1.opened || s.1.exhausted then []
  else
    segments isLineEnd s.1.pending ++
      emitted (LineBuffer.feed isLineEnd dropped) (remainder isLineEnd s.1.pending) (reads s.2)

section Owed

variable {t : USBTransport} {script : List UsbEvent}

theorem append_eq (pending : Bytes) (data : Received) : append pending data =
    (pending ++ data.bytes).drop (dropped (pending.length + data.bytes.length)) := by
  simp only [append, dropped, ← List.length_append]
  split
  · rfl
  · next h => rw [Nat.sub_eq_zero_of_le (not_lt.mp h), List.drop_zero]

theorem owed_open (h : (!t.opened || t.exhausted) = false) : owed (t, script) =
    segments isLineEnd t.pending ++
      emitted (LineBuffer.feed isLineEnd dropped) (remainder isLineEnd t.pending)
        (reads script) := by
  rw [owed, if_neg (by rw [h]; exact Bool.false_ne_true)]

theorem owed_exhausted : owed ({ t with exhausted := true }, script) = [] := by
  rw [owed, if_pos (Bool.or_true _)]

theorem owed_ended (h : (!t.opened || t.exhausted) = false)
    (hp : ∀ c ∈ t.pending, isLineEnd c = false) (hreads : reads script = []) :
    owed (t, script) = [] := by
  rw [owed_open h, hreads, emitted_nil, segments_open hp, List.append_nil]

theorem owed_read (h : (!t.opened || t.exhausted) = false)
    (hp : ∀ c ∈ t.pending, isLineEnd c = false) (data : Received) :
    owed (t, .read data :: script) =
      owed ({ t with pending := append t.pending data }, script) := by
  have hfeed : LineBuffer.feed isLineEnd dropped t.pending data.bytes =
      (remainder isLineEnd (append t.pending data),
        segments isLineEnd (append t.pending data)) := by
    rw [append_eq, LineBuffer.feed]
  rw [owed_open h, owed_open (t := { t with pending := append t.pending data }) h, reads,
    segments_open hp, remainder_open hp, List.nil_append, emitted_cons, hfeed]

theorem owed_line (h : (!t.opened || t.exhausted) = false) {line rest : Bytes}
    (hb : takeBufferedLine t.pending = some (line, rest)) :
    owed (t, script) = line :: owed ({ t with pending := rest }, script) := by
  obtain ⟨c, hw, hc, hline⟩ := takeBufferedLine_some hb
  rw [owed_open h, owed_open (t := { t with pending := rest }) h, hw, segments_closed hline hc,
    remainder_closed hline hc, List.cons_append]

/-- A call hands out what is owed next. Without a request to stop nothing gets lost, and the call
comes closer to the end. -/
structure Hands (r : ReadOutcome × USBTransport × List UsbEvent)
    (s : USBTransport × List UsbEvent) : Prop where
  owed_handed : r.1.text?.toList ++ owed r.2 <+: owed s
  owed_eq : .stop ∉ s.2 → r.1.text?.toList ++ owed r.2 = owed s
  closer : (owed r.2).length + r.2.2.length < (owed s).length + s.2.length ∨ owed s = []
  noStop : .stop ∉ s.2 → .stop ∉ r.2.2

theorem hands_line (h : (!t.opened || t.exhausted) = false) {line rest : Bytes}
    (hb : takeBufferedLine t.pending = some (line, rest)) :
    Hands (.line line, { t with pending := rest }, script) (t, script) := by
  have howed := @owed_line t script h line rest hb
  refine ⟨howed ▸ List.prefix_rfl, fun _ => howed.symm, Or.inl ?_, id⟩
  rw [howed, List.length_cons]
  dsimp only
  omega

theorem hands_ended {e : UsbEvent} (h : (!t.opened || t.exhausted) = false)
    (hb : takeBufferedLine t.pending = none) (hreads : reads (e :: script) = []) :
    Hands (.failed, { t with exhausted := true }, script) (t, e :: script) := by
  have howed := owed_ended h (takeBufferedLine_none hb) hreads
  have hnil : owed ({ t with exhausted := true }, script) = [] := owed_exhausted
  refine ⟨?_, fun _ => ?_, Or.inr howed, fun hs hmem => hs (List.mem_cons_of_mem _ hmem)⟩
  · rw [hnil]
    exact List.nil_prefix
  · rw [hnil, howed]
    rfl

theorem Hands.skip {r : ReadOutcome × USBTransport × List UsbEvent} {t' : USBTransport}
    {e : UsbEvent} (h : Hands r (t', script)) (howed : owed (t, e :: script) = owed (t', script)) :
    Hands r (t, e :: script) where
  owed_handed := howed ▸ h.owed_handed
  owed_eq hs := howed ▸ h.owed_eq fun hmem => hs (List.mem_cons_of_mem _ hmem)
  closer := by
    rw [howed]
    exact h.closer.imp (fun hlt => Nat.lt_succ_of_lt hlt) id
  noStop hs := h.noStop fun hmem => hs (List.mem_cons_of_mem _ hmem)

theorem hands_poll (h : (!t.opened || t.exhausted) = false) :
    Hands (poll t script) (t, script) := by
  fun_induction poll t script with
  | case1 t script =>
    have hnil : owed ({ t with exhausted := true }, script) = [] := owed_exhausted
    have hlost : ¬ UsbEvent.stop ∉ UsbEvent.stop :: script := fun hs => hs List.mem_cons_self
    refine ⟨?_, fun hs => absurd hs hlost, Or.inl ?_, fun hs => absurd hs hlost⟩
    · rw [hnil]
      exact List.nil_prefix
    · rw [hnil, List.length_cons, List.length_nil]
      dsimp only
      omega
  | case2 t line rest hb => exact hands_line h hb
  | case4 t e script _ line rest hb => exact hands_line h hb
  | case3 t hb =>
    have howed := @owed_ended t [] h (takeBufferedLine_none hb) rfl
    exact ⟨List.prefix_rfl, fun _ => rfl, Or.inr howed, id⟩
  | case5 t script hb _ ih => exact (ih h).skip (by simp only [owed, reads])
  | case6 t script hb _ ih => exact (ih h).skip (by simp only [owed, reads])
  | case7 t script hb _ ih => exact (ih h).skip (by simp only [owed, reads])
  | case8 t script hb data _ ih => exact (ih h).skip (owed_read h (takeBufferedLine_none hb) data)
  | case9 t script hb => exact hands_ended h hb rfl
  | case10 t script hb => exact hands_ended h hb rfl
  | case11 t script hb => exact hands_ended h hb rfl
  | case12 t script hb => exact hands_ended h hb rfl
  | case13 t script hb => exact hands_ended h hb rfl

theorem hands_nextLine (s : USBTransport × List UsbEvent) : Hands (nextLine s.1 s.2) s := by
  obtain ⟨t, script⟩ := s
  unfold nextLine
  by_cases h : (!t.opened || t.exhausted) = true
  · have howed : owed (t, script) = [] := by rw [owed, if_pos h]
    rw [if_pos h]
    exact ⟨List.prefix_rfl, fun _ => rfl, Or.inr howed, id⟩
  · rw [if_neg h]
    exact hands_poll (Bool.eq_false_iff.mpr h)

theorem collect_call (n : ℕ) (s : USBTransport × List UsbEvent) : collect call n s <+: owed s :=
  collect_prefix (fun s => (hands_nextLine s).owed_handed) n s

theorem collect_call_eq {s : USBTransport × List UsbEvent} (hs : .stop ∉ s.2) :
    ∃ n, collect call n s = owed s :=
  ⟨_, collect_eq (P := fun s => .stop ∉ s.2) (fun s => (owed s).length + s.2.length)
    (fun s hs => (hands_nextLine s).noStop hs) (fun s hs => (hands_nextLine s).owed_eq hs)
    (fun s _ => (hands_nextLine s).closer) hs le_rfl⟩

end Owed

end USBTransport

section Streams

/-- What repeated calls return of a stream: the texts of some pieces of it, in order, each of which
is a segment of its own or, where its beginning was dropped, the end of one; and none of them is
longer than the buffer. -/
structure LinesOf (stream : Bytes) (out : List (Piece Byte)) (returned : ℕ → List Bytes) :
    Prop where
  returned_prefix : ∀ n, returned n <+: out.map Piece.text
  ends : ∃ segs, List.Sublist segs (placed 0 false (segments isLineEnd stream)) ∧
    List.Forall₂ Tail out segs
  length_le : ∀ x ∈ out, x.text.length ≤ MAX_PENDING_LEN

/-- No segment is longer than the buffer without one read. -/
def Short (stream : Bytes) : Prop :=
  ∀ l ∈ segments isLineEnd stream, l.length + 256 ≤ MAX_PENDING_LEN

variable {dropped : ℕ → ℕ} {reads : List Bytes} {returned : ℕ → List Bytes}

/-- Both readers hand out the lines of a line buffer. -/
theorem linesOf (hle : ∀ n, dropped n ≤ n) (hcap : ∀ n, n - dropped n ≤ MAX_PENDING_LEN)
    (hreturned : ∀ n, returned n <+: emitted (LineBuffer.feed isLineEnd dropped) [] reads) :
    LinesOf reads.flatten (emitted (LineBuffer.step isLineEnd dropped) {} reads) returned := by
  have htext := @LineBuffer.map_text_emitted _ isLineEnd dropped reads {}
  refine ⟨fun n => htext ▸ hreturned n, ?_, ?_⟩
  · have hbehind : LineBuffer.Behind isLineEnd [] {} := ⟨by simp, Nat.zero_le _, by simp⟩
    exact LineBuffer.emitted_ends hle reads hbehind
  · intro x hx
    have hmem : x.text ∈ (emitted (LineBuffer.step isLineEnd dropped) {} reads).map Piece.text :=
      List.mem_map_of_mem hx
    rw [htext] at hmem
    exact LineBuffer.length_le_of_mem_emitted hcap reads [] hmem

theorem length_reads_tcp (script : List SocketEvent) :
    ∀ data ∈ TcpReader.reads script, data.length ≤ 256 := by
  fun_induction TcpReader.reads script with
  | case1 => simp
  | case2 data script ih => exact List.forall_mem_cons.mpr ⟨data.length_le, ih⟩
  | case3 _ script ih | case4 _ script ih | case5 _ script ih => exact ih

theorem length_reads_usb (script : List UsbEvent) :
    ∀ data ∈ USBTransport.reads script, data.length ≤ 256 := by
  fun_induction USBTransport.reads script with
  | case1 | case6 | case7 | case8 | case9 | case10 => simp
  | case2 script ih | case3 script ih | case4 script ih => exact ih
  | case5 data script ih => exact List.forall_mem_cons.mpr ⟨data.length_le, ih⟩

theorem dropped_tcp_le (n : ℕ) : TcpReader.dropped n ≤ n := by
  unfold TcpReader.dropped
  split
  · exact le_rfl
  · exact Nat.zero_le _

theorem sub_dropped_tcp_le (n : ℕ) : n - TcpReader.dropped n ≤ MAX_PENDING_LEN := by
  unfold TcpReader.dropped
  split
  · rw [Nat.sub_self]
    exact Nat.zero_le _
  · next h => exact not_lt.mp h

theorem sub_dropped_usb_le (n : ℕ) : n - USBTransport.dropped n ≤ MAX_PENDING_LEN := by
  unfold USBTransport.dropped
  rcases le_total n MAX_PENDING_LEN with h | h
  · exact (Nat.sub_le _ _).trans h
  · exact (Nat.sub_sub_self h).le

/-- Of every stream, however it is read, both readers return segments and ends of segments, in
order; and they return all its segments where these are short. -/
theorem lines_of_streams :
    (∀ script : List SocketEvent,
      LinesOf (TcpReader.reads script).flatten
        (emitted (LineBuffer.step isLineEnd TcpReader.dropped) {} (TcpReader.reads script))
        (fun n => collect TcpReader.call n ([], script)) ∧
      (Short (TcpReader.reads script).flatten → ∃ n, collect TcpReader.call n ([], script) =
        segments isLineEnd (TcpReader.reads script).flatten)) ∧
    ∀ script : List UsbEvent,
      LinesOf (USBTransport.reads script).flatten
        (emitted (LineBuffer.step isLineEnd USBTransport.dropped) {} (USBTransport.reads script))
        (fun n => collect USBTransport.call n ({}, script)) ∧
      (.stop ∉ script → Short (USBTransport.reads script).flatten →
        ∃ n, collect USBTransport.call n ({}, script) =
          segments isLineEnd (USBTransport.reads script).flatten) := by
  constructor
  · intro script
    refine ⟨linesOf dropped_tcp_le sub_dropped_tcp_le fun n => TcpReader.collect_call n _,
      fun hshort => ?_⟩
    obtain ⟨n, hn⟩ := TcpReader.collect_call_eq ([], script)
    refine ⟨n, hn.trans (LineBuffer.emitted_feed_short (fun m hm => if_neg (not_lt.mpr hm)) _
      (length_reads_tcp script) (remainder_free _) hshort)⟩
  · intro script
    refine ⟨linesOf (fun n => Nat.sub_le _ _) sub_dropped_usb_le
      fun n => USBTransport.collect_call n _, fun hstop hshort => ?_⟩
    obtain ⟨n, hn⟩ := USBTransport.collect_call_eq (s := ({}, script)) hstop
    refine ⟨n, hn.trans (LineBuffer.emitted_feed_short (fun m hm => Nat.sub_eq_zero_of_le hm) _
      (length_reads_usb script) (remainder_free _) hshort)⟩

section Sample

def record : Received := ⟨ascii "108 0A", by decide, by decide⟩

def lineEnd : Received := ⟨[CR, LF], by decide, by decide⟩

/-- A record in two reads, with both line ends behind it. -/
theorem lines_of_streams_record :
    (∃ n, collect TcpReader.call n ([], [.recv record, .timeout false, .recv lineEnd]) =
      segments isLineEnd (TcpReader.reads [.recv record, .timeout false, .recv lineEnd]).flatten) ∧
    ∃ n, collect USBTransport.call n ({}, [.read record, .again, .read lineEnd]) =
      segments isLineEnd (USBTransport.reads [.read record, .again, .read lineEnd]).flatten :=
  ⟨(lines_of_streams.1 _).2 (by unfold Short; decide),
    (lines_of_streams.2 _).2 (by decide) (by unfold Short; decide)⟩

/-- A read that fills its buffer and has no line end. -/
def burst : Received :=
  ⟨List.replicate 256 88, by rw [List.length_replicate]; decide, (List.length_replicate).le⟩

def closing : Received := ⟨ascii "END" ++ [LF], by decide, by decide⟩

theorem burst_free (n : ℕ) : ∀ c ∈ List.replicate n (88 : Byte), isLineEnd c = false := by
  intro c hc
  rw [List.eq_of_mem_replicate hc]
  rfl

theorem feed_burst {n : ℕ} (h : ∀ n ≤ MAX_PENDING_LEN, dropped n = 0)
    (hn : n + 256 ≤ MAX_PENDING_LEN) :
    LineBuffer.feed isLineEnd dropped (List.replicate n 88) (List.replicate 256 88) =
      (List.replicate (n + 256) 88, []) := by
  simp only [LineBuffer.feed, List.length_replicate, h _ hn, List.drop_zero,
    List.replicate_append_replicate, remainder_open (burst_free _), segments_open (burst_free _)]

/-- Sixteen full reads fill the buffer. -/
theorem after_bursts (h : ∀ n ≤ MAX_PENDING_LEN, dropped n = 0) {k : ℕ} (hk : k ≤ 16) :
    after (LineBuffer.feed isLineEnd dropped) [] (List.replicate k (List.replicate 256 88)) =
      List.replicate (256 * k) 88 := by
  induction k with
  | zero => rfl
  | succ k ih =>
    have hroom : 256 * k + 256 ≤ MAX_PENDING_LEN := show 256 * k + 256 ≤ 4096 by omega
    rw [List.replicate_succ', after_concat, ih (by omega), feed_burst h hroom]
    congr 1

/-- The lines of seventeen full reads and a closing one. -/
theorem emitted_bursts {line : Bytes} {pending : Bytes} (h : ∀ n ≤ MAX_PENDING_LEN, dropped n = 0)
    (hlast : (LineBuffer.feed isLineEnd dropped (List.replicate 4096 88)
      (List.replicate 256 88)).1 = pending)
    (hline : (LineBuffer.feed isLineEnd dropped pending (ascii "END" ++ [LF])).2 = [line]) :
    emitted (LineBuffer.feed isLineEnd dropped) []
      (List.replicate 17 (List.replicate 256 88) ++ [ascii "END" ++ [LF]]) = [line] := by
  have hfree : ∀ c ∈ [] ++ (List.replicate 17 (List.replicate 256 (88 : Byte))).flatten,
      isLineEnd c = false := by
    rw [List.nil_append, List.flatten_replicate_replicate]
    exact burst_free _
  rw [emitted_concat, LineBuffer.emitted_feed_open _ hfree, List.replicate_succ', after_concat,
    after_bursts h le_rfl, hlast, hline, List.nil_append]

def bursts : List Received := List.replicate 17 burst ++ [closing]

theorem bytes_bursts : bursts.map Received.bytes =
    List.replicate 17 (List.replicate 256 88) ++ [ascii "END" ++ [LF]] := by
  rw [bursts, List.map_append, List.map_replicate]
  rfl

theorem reads_recv (datas : List Received) :
    TcpReader.reads (datas.map .recv) = datas.map Received.bytes := by
  induction datas with
  | nil => rfl
  | cons data datas ih => rw [List.map_cons, TcpReader.reads, ih, List.map_cons]

theorem reads_read (datas : List Received) :
    USBTransport.reads (datas.map .read) = datas.map Received.bytes := by
  induction datas with
  | nil => rfl
  | cons data datas ih => rw [List.map_cons, USBTransport.reads, ih, List.map_cons]

theorem closing_free : ∀ c ∈ ascii "END", isLineEnd c = false := by decide +kernel

theorem segments_bursts : segments isLineEnd (bursts.map Received.bytes).flatten =
    [List.replicate 4352 88 ++ ascii "END"] := by
  rw [bytes_bursts, List.flatten_append, List.flatten_replicate_replicate, List.flatten_singleton,
    ← List.append_assoc]
  refine segments_closed (fun c hc => ?_) rfl
  exact (List.mem_append.mp hc).elim (burst_free _ c) (closing_free c)

/-- A line that the buffer holds is not the whole line. -/
theorem not_sublist_bursts {line : Bytes} (hlen : line.length ≤ MAX_PENDING_LEN) :
    ¬ List.Sublist [line] (segments isLineEnd (bursts.map Received.bytes).flatten) := by
  intro hsub
  rw [segments_bursts] at hsub
  have hline := List.mem_singleton.mp (List.singleton_sublist.mp hsub)
  rw [hline, List.length_append, List.length_replicate] at hlen
  exact absurd hlen (by decide)

/-- A line of 4355 bytes: the end of it that is returned is no segment. -/
theorem lines_not_segments :
    (∃ n, ¬ List.Sublist (collect TcpReader.call n ([], bursts.map .recv))
      (segments isLineEnd (bursts.map Received.bytes).flatten)) ∧
    ∃ n, ¬ List.Sublist (collect USBTransport.call n ({}, bursts.map .read))
      (segments isLineEnd (bursts.map Received.bytes).flatten) := by
  constructor
  · obtain ⟨n, hn⟩ := TcpReader.collect_call_eq ([], bursts.map .recv)
    have hdropped : TcpReader.dropped (4096 + 256) = 4096 + 256 := rfl
    have hlast : (LineBuffer.feed isLineEnd TcpReader.dropped (List.replicate 4096 88)
        (List.replicate 256 88)).1 = [] := by
      simp only [LineBuffer.feed, List.length_replicate, List.replicate_append_replicate, hdropped,
        List.drop_replicate, Nat.sub_self]
      rfl
    have hlines := @emitted_bursts TcpReader.dropped (ascii "END") []
      (fun m hm => if_neg (not_lt.mpr hm)) hlast rfl
    have howed : TcpReader.owed ([], bursts.map .recv) = [ascii "END"] := by
      rw [TcpReader.owed, reads_recv, bytes_bursts, segments_nil, List.nil_append]
      exact hlines
    refine ⟨n, ?_⟩
    rw [hn, howed]
    exact not_sublist_bursts (by decide)
  · obtain ⟨n, hn⟩ := USBTransport.collect_call_eq (s := ({}, bursts.map .read)) (by simp)
    have hlast : (LineBuffer.feed isLineEnd USBTransport.dropped (List.replicate 4096 88)
        (List.replicate 256 88)).1 = List.replicate 4096 88 := by
      have hdropped : USBTransport.dropped (4096 + 256) = 256 := rfl
      simp only [LineBuffer.feed, List.length_replicate, List.replicate_append_replicate, hdropped,
        List.drop_replicate]
      exact remainder_open (burst_free _)
    have hline : (LineBuffer.feed isLineEnd USBTransport.dropped (List.replicate 4096 88)
        (ascii "END" ++ [LF])).2 = [List.replicate 4092 88 ++ ascii "END"] := by
      have hdropped : USBTransport.dropped (4096 + (ascii "END" ++ [LF]).length) = 4 := rfl
      have hkept : (List.replicate 4096 88 ++ (ascii "END" ++ [LF])).drop 4 =
          List.replicate 4092 88 ++ ascii "END" ++ [LF] := by
        rw [List.drop_append_of_le_length (by rw [List.length_replicate]; decide),
          List.drop_replicate, List.append_assoc]
      simp only [LineBuffer.feed, List.length_replicate, hdropped, hkept]
      refine segments_closed (fun c hc => ?_) rfl
      exact (List.mem_append.mp hc).elim (burst_free _ c) (closing_free c)
    have hlines := @emitted_bursts USBTransport.dropped _ _
      (fun m hm => Nat.sub_eq_zero_of_le hm) hlast hline
    have howed : USBTransport.owed ({}, bursts.map .read) =
        [List.replicate 4092 88 ++ ascii "END"] := by
      rw [USBTransport.owed_open rfl, reads_read, bytes_bursts, segments_nil, List.nil_append]
      exact hlines
    refine ⟨n, ?_⟩
    rw [hn, howed]
    exact not_sublist_bursts (by rw [List.length_append, List.length_replicate]; decide)

end Sample

end Streams

end VehicleSpy.Pipeline
