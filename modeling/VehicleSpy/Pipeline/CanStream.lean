import VehicleSpy.Firmware.CanBridge
import VehicleSpy.Pipeline.TcpReader
import VehicleSpy.Pipeline.LiveTwaiSource

/-! # The CAN stream from the firmware to the host

The bridge prints frames, TCP cuts the text into reads, the reader puts lines together
and the live source parses them. A frame whose line fits the bridge's buffer arrives
alone; one that does not fit has no terminator and runs into the next line.
-/

namespace VehicleSpy.Pipeline.CanStream

open Text Machine Firmware LiveTwaiSource TcpReader

/-- The text of the frames on its way to the host. -/
def stream (msgs : List CanFrame) : Bytes := msgs.flatMap frameString

/-- The identifier, low byte first, and the data bytes, padded to ten bytes. -/
def expectedBytes (msg : CanFrame) : Bytes :=
  (msg.identifier.toNat % 256).toUInt8 :: (msg.identifier.toNat / 256).toUInt8 ::
    (msg.payload ++ List.replicate (8 - msg.payload.length) 0)

def isStandard (msg : CanFrame) : Bool := msg.identifier.toNat ≤ 0x7FF

/-- The lines that the host reads. -/
def hostLines (reads : List Received) : List Bytes := lines [] (reads.map .recv)

/-- The host gets exactly the frames with an 11-bit identifier, and each frame that is sent with
its terminator arrives as a line of its own. -/
structure RoundTrip (msgs : List CanFrame) (reads : List Received) : Prop where
  frames : (frames (hostLines reads)).map (·.bytes) = (msgs.filter isStandard).map expectedBytes
  lines : hostLines reads =
    (msgs.filter fun msg => (frameString msg).getLast? = some CR).map CanFrame.text

section Frame

variable {msg : CanFrame}

theorem terminated_iff : (frameString msg).getLast? = some CR ↔ ¬ Overlong msg := by
  constructor
  · intro h ho
    exact absurd (noLineEnd_of_overlong ho CR (List.mem_of_getLast? h)) (by decide)
  · intro h
    rw [frameString_of_fits h, List.getLast?_concat]

theorem not_overlong_of_standard (h : isStandard msg = true) : ¬ Overlong msg := by
  intro ho
  have hid : msg.identifier.toNat ≤ 0x7FF := of_decide_eq_true h
  have := ho.1
  omega

theorem frameBytes_eq (h : isStandard msg = true) :
    frameBytes msg.identifier.toNat msg.payload = expectedBytes msg := by
  have hid : msg.identifier.toNat ≤ 0x7FF := of_decide_eq_true h
  have hlo : msg.identifier.toNat &&& 0xFF = msg.identifier.toNat % 256 :=
    Nat.and_two_pow_sub_one_eq_mod _ 8
  have hhi : msg.identifier.toNat >>> 8 &&& 0xFF = msg.identifier.toNat / 256 := by
    rw [Nat.and_two_pow_sub_one_eq_mod _ 8, Nat.shiftRight_eq_div_pow]
    omega
  rw [frameBytes, expectedBytes, hlo, hhi]

/-- The host parses a frame's line back to the frame, or skips it. -/
theorem rawFrame_text :
    rawFrame msg.text =
      if isStandard msg = true then some ⟨expectedBytes msg, msg.text⟩ else none := by
  have h : rawFrame msg.text = if msg.identifier.toNat ≤ 0x7FF then
      some ⟨frameBytes msg.identifier.toNat msg.payload, msg.text⟩ else none :=
    rawFrame_printed msg.identifier.toNat_lt (by rw [length_payload]; omega)
  rw [h]
  by_cases hs : isStandard msg = true
  · rw [if_pos hs, if_pos (of_decide_eq_true hs), frameBytes_eq hs]
  · rw [if_neg hs, if_neg fun hid => hs (decide_eq_true hid)]

theorem frames_text (msgs : List CanFrame) :
    (frames (msgs.map CanFrame.text)).map (·.bytes) =
      (msgs.filter isStandard).map expectedBytes := by
  induction msgs with
  | nil => rfl
  | cons msg msgs ih =>
    have hcons : frames ((msg :: msgs).map CanFrame.text) =
        (rawFrame msg.text).toList ++ frames (msgs.map CanFrame.text) := by
      rw [frames, List.map_cons, List.filterMap_cons]
      cases rawFrame msg.text <;> rfl
    rw [hcons, rawFrame_text, List.map_append, ih]
    by_cases hs : isStandard msg = true
    · rw [if_pos hs, List.filter_cons_of_pos hs]
      rfl
    · rw [if_neg hs, List.filter_cons_of_neg hs]
      rfl

end Frame

section Stream

variable {msgs : List CanFrame}

theorem hostLines_eq (reads : List Received) : hostLines reads = emitted feed [] reads :=
  lines_reads reads (by simp)

/-- Frames whose lines fit are the closed segments in front of whatever follows them. -/
theorem segments_stream (h : ∀ msg ∈ msgs, ¬ Overlong msg) (w : Bytes) :
    segments isLineEnd (stream msgs ++ w) = msgs.map CanFrame.text ++ segments isLineEnd w := by
  have hs : stream msgs = (msgs.map CanFrame.text).flatMap (· ++ [CR]) := by
    rw [stream, List.flatMap_map]
    exact List.flatMap_congr fun msg hm => frameString_of_fits (h msg hm)
  rw [hs]
  apply segments_flatMap (by decide)
  intro v hv
  obtain ⟨msg, -, rfl⟩ := List.mem_map.mp hv
  exact text_noLineEnd

theorem stream_noLineEnd (h : ∀ msg ∈ msgs, Overlong msg) :
    ∀ c ∈ stream msgs, isLineEnd c = false := by
  intro c hc
  obtain ⟨msg, hm, hc⟩ := List.mem_flatMap.mp hc
  exact noLineEnd_of_overlong (h msg hm) c hc

theorem countP_stream (msgs : List CanFrame) :
    (stream msgs).countP isLineEnd =
      (msgs.filter fun msg => (frameString msg).getLast? = some CR).length := by
  induction msgs with
  | nil => rfl
  | cons msg msgs ih =>
    rw [stream, List.flatMap_cons, ← stream, List.countP_append, ih]
    by_cases ho : Overlong msg
    · rw [List.filter_cons_of_neg (by simpa [terminated_iff] using ho),
        List.countP_eq_zero.mpr fun c hc => by simp [noLineEnd_of_overlong ho c hc], Nat.zero_add]
    · have hz : msg.text.countP isLineEnd = 0 :=
        List.countP_eq_zero.mpr fun c hc => by simp [text_noLineEnd c hc]
      rw [List.filter_cons_of_pos (by simpa [terminated_iff] using ho), frameString_of_fits ho,
        List.countP_append, hz, List.length_cons, Nat.zero_add, Nat.add_comm]
      rfl

theorem isChain_all_overlong {msg : CanFrame}
    (h : (msg :: msgs).IsChain fun f g => Overlong f → Overlong g) (ho : Overlong msg) :
    ∀ g ∈ msg :: msgs, Overlong g := by
  induction msgs generalizing msg with
  | nil => simpa using ho
  | cons g msgs ih =>
    obtain ⟨hfg, hrest⟩ := List.isChain_cons_cons.mp h
    exact List.forall_mem_cons.mpr ⟨ho, ih hrest (hfg ho)⟩

/-- If an overlong frame is only followed by overlong ones, they all stand at the end. -/
theorem split_of_isChain (h : msgs.IsChain fun f g => Overlong f → Overlong g) :
    ∃ fits overlong, msgs = fits ++ overlong ∧ (∀ msg ∈ fits, ¬ Overlong msg) ∧
      ∀ msg ∈ overlong, Overlong msg := by
  induction msgs with
  | nil => exact ⟨[], [], rfl, by simp, by simp⟩
  | cons msg msgs ih =>
    by_cases ho : Overlong msg
    · exact ⟨[], msg :: msgs, rfl, by simp, isChain_all_overlong h ho⟩
    · obtain ⟨fits, overlong, rfl, hf, hov⟩ := ih h.tail
      exact ⟨msg :: fits, overlong, rfl, List.forall_mem_cons.mpr ⟨ho, hf⟩, hov⟩

theorem roundTrip_of_lines {reads : List Received}
    (h : hostLines reads =
      (msgs.filter fun msg => (frameString msg).getLast? = some CR).map CanFrame.text) :
    RoundTrip msgs reads := by
  refine ⟨?_, h⟩
  have hstd : (msgs.filter fun msg => (frameString msg).getLast? = some CR).filter isStandard =
      msgs.filter isStandard := by
    rw [List.filter_filter]
    apply List.filter_congr
    intro msg _
    cases hs : isStandard msg with
    | false => rfl
    | true => simpa [terminated_iff] using not_overlong_of_standard hs
  rw [h, frames_text, hstd]

theorem roundTrip_of_isChain (h : msgs.IsChain fun f g => Overlong f → Overlong g)
    {reads : List Received} (hr : received reads = stream msgs) : RoundTrip msgs reads := by
  obtain ⟨fits, overlong, rfl, hf, ho⟩ := split_of_isChain h
  have hseg : segments isLineEnd (received reads) = fits.map CanFrame.text := by
    rw [hr, stream, List.flatMap_append, ← stream, ← stream, segments_stream hf,
      segments_open (stream_noLineEnd ho), List.append_nil]
  have hlines : hostLines reads = fits.map CanFrame.text := by
    rw [hostLines_eq, emitted_feed reads (by simp) ?_, List.nil_append, hseg]
    intro l hl
    rw [List.nil_append, hseg] at hl
    obtain ⟨msg, -, rfl⟩ := List.mem_map.mp hl
    have := length_text_le msg
    rw [MAX_PENDING_LEN]
    omega
  apply roundTrip_of_lines
  rw [hlines, List.filter_append, List.filter_eq_self.mpr, List.filter_eq_nil_iff.mpr,
    List.append_nil]
  · intro msg hm
    simpa [terminated_iff] using ho msg hm
  · intro msg hm
    simpa [terminated_iff] using hf msg hm

end Stream

section Merge

variable {f g : CanFrame}

theorem length_frameString (msg : CanFrame) :
    0 < (frameString msg).length ∧ (frameString msg).length ≤ 31 := by
  have hid := hexPad_ne_nil 3 msg.identifier.toNat
  rw [frameString_eq, List.length_take, List.length_append, CanFrame.text, List.length_append]
  have := List.length_pos_iff.mpr hid
  omega

/-- The text of one frame, or of two neighbours, in one read. -/
def oneRead (msg : CanFrame) : Received where
  bytes := frameString msg
  length_pos := (length_frameString msg).1
  length_le := by have := (length_frameString msg).2; omega

def pairRead (f g : CanFrame) : Received where
  bytes := frameString f ++ frameString g
  length_pos := by have := (length_frameString f).1; rw [List.length_append]; omega
  length_le := by
    have hf := (length_frameString f).2
    have hg := (length_frameString g).2
    rw [List.length_append]
    omega

theorem received_oneRead (msgs : List CanFrame) : received (msgs.map oneRead) = stream msgs := by
  rw [received, List.flatMap_map]
  rfl

/-- A read that brings an overlong frame and its neighbour completes no line, or a merged one. -/
theorem feed_pairRead (hf : Overlong f) (hg : ¬ Overlong g) {pending : Bytes}
    (hp : ∀ c ∈ pending, isLineEnd c = false) :
    (feed pending (pairRead f g)).2 = [] ∨
      (feed pending (pairRead f g)).2 = [pending ++ frameString f ++ g.text] := by
  have hopen : ∀ c ∈ pending ++ frameString f ++ g.text, isLineEnd c = false := by
    intro c hc
    rcases List.mem_append.mp hc with hc | hc
    · exact (List.mem_append.mp hc).elim (hp c) (noLineEnd_of_overlong hf c)
    · exact text_noLineEnd c hc
  have hbytes : pending ++ (pairRead f g).bytes =
      pending ++ frameString f ++ g.text ++ CR :: [] := by
    simp [pairRead, frameString_of_fits hg]
  simp only [feed, readSocketIntoPending, hbytes]
  split
  · exact Or.inl rfl
  · exact Or.inr (segments_closed hopen (by decide))

/-- An overlong frame in front of one that fits spoils the stream when both come in one read. -/
theorem not_roundTrip_pair (hf : Overlong f) (hg : ¬ Overlong g) (u v : List CanFrame) :
    ¬ RoundTrip (u ++ f :: g :: v) (u.map oneRead ++ pairRead f g :: v.map oneRead) := by
  rintro ⟨-, hlines⟩
  rw [hostLines_eq, emitted_append, emitted_cons] at hlines
  have hfree := after_feed_free (u.map oneRead)
  rcases feed_pairRead hf hg hfree with hfeed | hfeed
  · -- The buffer was dropped: one line end too few is left for the lines that are due.
    have hu := length_emitted_feed_le (u.map oneRead) [] (by simp)
    have hv := length_emitted_feed_le (v.map oneRead)
      (feed (after feed [] (u.map oneRead)) (pairRead f g)).1 (remainder_free _)
    rw [received_oneRead, countP_stream] at hu hv
    have hlen := congrArg List.length hlines
    rw [hfeed, List.length_append, List.length_append, List.length_map, List.filter_append,
      List.filter_cons_of_neg (by simpa [terminated_iff] using hf),
      List.filter_cons_of_pos (by simpa [terminated_iff] using hg), List.length_append,
      List.length_cons, List.length_nil] at hlen
    omega
  · -- The merged line is longer than any line that fits.
    have hmem : after feed [] (u.map oneRead) ++ frameString f ++ g.text ∈
        ((u ++ f :: g :: v).filter fun msg =>
          (frameString msg).getLast? = some CR).map CanFrame.text := by
      rw [← hlines, hfeed]
      simp
    obtain ⟨msg, hm, htext⟩ := List.mem_map.mp hmem
    have hfit : ¬ Overlong msg := terminated_iff.mp (by simpa using (List.mem_filter.mp hm).2)
    apply hfit
    apply length_text_overlong_iff.mp
    rw [htext, List.length_append, List.length_append, (frameString_of_overlong hf).2]
    omega

end Merge

/-- The stream round-trips for every way it is cut into reads if and only if no frame whose line
does not fit is followed by one whose line does. -/
theorem roundTrip_iff (msgs : List CanFrame) :
    (∀ reads, received reads = stream msgs → RoundTrip msgs reads) ↔
      msgs.IsChain fun f g => Overlong f → Overlong g := by
  constructor
  · intro h
    apply List.isChain_iff_forall_rel_of_append_cons_cons.mpr
    rintro f g u v rfl hf
    by_contra hg
    apply not_roundTrip_pair hf hg u v
    apply h
    have hpair : received (pairRead f g :: v.map oneRead) =
        frameString f ++ frameString g ++ received (v.map oneRead) := rfl
    rw [received, List.flatMap_append, ← received, ← received, hpair, received_oneRead,
      received_oneRead]
    simp [stream]
  · exact fun h reads hr => roundTrip_of_isChain h hr

def extended : CanFrame := ⟨0x12345678, 8, [1, 2, 3, 4, 5, 6, 7, 8], rfl⟩

def standard : CanFrame := ⟨0x123, 2, [9, 10, 0, 0, 0, 0, 0, 0], rfl⟩

/-- The 29-bit frame's line loses its terminator and swallows the standard frame behind it. -/
theorem not_roundTrip_extended :
    received [pairRead extended standard] = stream [extended, standard] ∧
      ¬ RoundTrip [extended, standard] [pairRead extended standard] :=
  ⟨by simp [received, pairRead, stream], not_roundTrip_pair (by decide) (by decide) [] []⟩

end VehicleSpy.Pipeline.CanStream
