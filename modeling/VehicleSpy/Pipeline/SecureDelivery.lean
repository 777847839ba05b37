import VehicleSpy.Pipeline.SecureTcpTransport

/-! # What the encrypted transport delivers

The peer seals each plaintext as one frame, and the frames arrive in reads of any sizes. Every
line of the plaintexts is delivered exactly if no read overruns the ciphertext buffer, which
holds the frame in progress and all that comes with its end.
-/

namespace VehicleSpy.Pipeline

open Text Machine SecureTcp

/-- Whether the transport reads on after it, if there is room. -/
def Polled.goesOn : Polled → Bool
  | .selectFailed true => true
  | .timeout false => true
  | .recv _ => true
  | _ => false

namespace SecureTcpTransport

/-- A frame that the peer sends. -/
structure Frame where
  nonce : Bytes
  plaintext : Bytes
  nonce_length : nonce.length = SECRETBOX_NONCEBYTES
  plaintext_length : plaintext.length ≤ MAX_LINE_LEN

namespace Frame

def sealed (box : SecretBox) (f : Frame) : Bytes :=
  frameBytes f.nonce (box.easy f.nonce f.plaintext)

def size (f : Frame) : ℕ := SECRETBOX_NONCEBYTES + 2 + (f.plaintext.length + SECRETBOX_MACBYTES)

/-- The lines of the plaintext, which line feeds separate. -/
def lines (f : Frame) : List Bytes := f.plaintext.splitOnP (· == LF)

variable {box : SecretBox} {f : Frame} {fd : ℕ} {p r : Bytes}

theorem length_sealed : (f.sealed box).length = f.size := by
  rw [sealed, length_frameBytes, f.nonce_length, box.length_easy, size]

theorem length_easy_lt : (box.easy f.nonce f.plaintext).length < 65536 := by
  have := f.plaintext_length
  rw [box.length_easy]
  simp only [MAX_LINE_LEN, SECRETBOX_MACBYTES] at this ⊢
  omega

theorem tryDecrypt_sealed :
    (connected fd (f.sealed box ++ r)).tryDecryptBufferedFrame box =
      (some f.plaintext, connected fd r) := by
  rw [sealed, tryDecrypt_frame f.nonce_length length_easy_lt, box.openEasy_easy]
  simp only [box.length_easy, Nat.add_sub_cancel, List.take_length]

theorem tryDecrypt_part (hp : p <+: f.sealed box) (hlt : p.length < (f.sealed box).length) :
    (connected fd p).tryDecryptBufferedFrame box = (none, connected fd p) :=
  tryDecrypt_partial f.nonce_length length_easy_lt hp hlt

end Frame

/-- The bytes of the peer's frames. -/
def wire (box : SecretBox) (frames : List Frame) : Bytes := frames.flatMap (·.sealed box)

/-- The lines of the peer's plaintexts. -/
def linesOf (frames : List Frame) : List Bytes := frames.flatMap (·.lines)

theorem linesOf_append (gs fs : List Frame) : linesOf (gs ++ fs) = linesOf gs ++ linesOf fs :=
  List.flatMap_append

/-- No read overruns the ciphertext buffer, which has been given `k` bytes before: with what it
holds of the frame in progress, the read does not exceed a frame of the greatest size. -/
def FitsFrom (sizes : List ℕ) (k : ℕ) (script : List Polled) : Prop :=
  EverySplit (fun before polled => ∀ data, polled = .recv data →
    inProgress sizes (k + (received before).length) + data.bytes.length ≤
      MAX_LINE_LEN + SECRETBOX_NONCEBYTES + 2 + SECRETBOX_MACBYTES) script

def ReadsFit (frames : List Frame) (script : List Polled) : Prop :=
  FitsFrom (frames.map Frame.size) 0 script

section Run

variable {box : SecretBox} {fd : ℕ} {fs gs : List Frame} {p q junk : Bytes}
  {script : List Polled} {data : Chunk} {sizes : List ℕ} {k : ℕ}

theorem fitsFrom_recv :
    FitsFrom sizes k (.recv data :: script) ↔
      inProgress sizes k + data.bytes.length ≤
        MAX_LINE_LEN + SECRETBOX_NONCEBYTES + 2 + SECRETBOX_MACBYTES ∧
      FitsFrom sizes (k + data.bytes.length) script := by
  rw [FitsFrom, everySplit_cons, FitsFrom]
  simp only [received, List.length_append, List.length_nil, Nat.add_zero, Polled.recv.injEq,
    forall_eq', Nat.add_assoc]

theorem received_other {polled : Polled} (h : ∀ data, polled ≠ .recv data) (script : List Polled) :
    received (polled :: script) = received script := by
  cases polled with
  | recv data => exact absurd rfl (h data)
  | _ => rfl

theorem fitsFrom_other {polled : Polled} (h : ∀ data, polled ≠ .recv data) :
    FitsFrom sizes k (polled :: script) ↔ FitsFrom sizes k script := by
  rw [FitsFrom, everySplit_cons, FitsFrom]
  simp [received_other h, h]

/-- The frames that are complete are served first. -/
theorem readAll_frames (gs : List Frame) (q : Bytes) (script : List Polled) :
    readAll box (connected fd (wire box gs ++ q)) script =
      (linesOf gs ++ (readAll box (connected fd q) script).1,
        (readAll box (connected fd q) script).2) := by
  induction gs with
  | nil => rfl
  | cons g gs ih =>
    have hone : wire box (g :: gs) ++ q = g.sealed box ++ (wire box gs ++ q) := by
      simp [wire]
    rw [hone, readAll_frame Frame.tryDecrypt_sealed, ih]
    simp [linesOf, Frame.lines]

theorem readAll_recv (hnone : (connected fd p).tryDecryptBufferedFrame box = (none, connected fd p))
    (hroom : p.length + data.bytes.length ≤
      MAX_LINE_LEN + SECRETBOX_NONCEBYTES + 2 + SECRETBOX_MACBYTES) :
    readAll box (connected fd p) (.recv data :: script) =
      readAll box (connected fd (p ++ data.bytes)) script := by
  apply readAll_poll hnone
  simp only [pollRecvOrExhaust, connected, List.length_append]
  exact if_neg (Nat.not_lt.mpr hroom)

theorem readAll_overflow
    (hnone : (connected fd p).tryDecryptBufferedFrame box = (none, connected fd p))
    (hover : ¬ p.length + data.bytes.length ≤
      MAX_LINE_LEN + SECRETBOX_NONCEBYTES + 2 + SECRETBOX_MACBYTES) :
    readAll box (connected fd p) (.recv data :: script) =
      ([], { connected fd (p ++ data.bytes) with exhausted := true }) := by
  refine readAll_ended hnone ?_ rfl
  simp only [pollRecvOrExhaust, connected, List.length_append]
  exact if_pos (Nat.not_le.mp hover)

/-- While a frame is in progress nothing is taken out of the buffer. -/
theorem tryDecrypt_of_partial (hp : Partial (·.sealed box) fs p) (hfs : fs ≠ [] ∨ p = []) :
    (connected fd p).tryDecryptBufferedFrame box = (none, connected fd p) := by
  cases fs with
  | nil =>
    obtain rfl : p = [] := hfs.resolve_left (not_not_intro rfl)
    rfl
  | cons f fs =>
    obtain ⟨hpre, hlt⟩ := hp f rfl
    exact Frame.tryDecrypt_part hpre hlt

/-- A read has to fit behind the frame in progress, and those after it behind the frame that is
in progress then. -/
theorem fitsFrom_cut (hp : Partial (·.sealed box) fs p) (h : p ++ data.bytes = wire box gs ++ q)
    {fs' : List Frame} (hfs : fs = gs ++ fs') :
    FitsFrom (fs.map Frame.size) p.length (.recv data :: script) ↔
      p.length + data.bytes.length ≤
        MAX_LINE_LEN + SECRETBOX_NONCEBYTES + 2 + SECRETBOX_MACBYTES ∧
      FitsFrom (fs'.map Frame.size) q.length script := by
  have hsize (l : List Frame) : l.map Frame.size = l.map fun f => (f.sealed box).length := by
    simp only [Frame.length_sealed]
  have hlen : p.length + data.bytes.length = (wire box gs ++ q).length := by
    rw [← List.length_append, h]
  rw [fitsFrom_recv, hsize, inProgress_partial hp, hlen, hfs]
  refine and_congr_right fun _ => ?_
  have hcut := @inProgress_blocks _ _ (fun f : Frame => f.sealed box) gs fs' q
  simp only [FitsFrom, hsize, wire, hcut]

theorem frames_cut {s : Bytes} (h : p ++ s = wire box fs ++ junk) :
    ∃ gs fs' q, fs = gs ++ fs' ∧ p = wire box gs ++ q ∧ q ++ s = wire box fs' ++ junk ∧
      Partial (·.sealed box) fs' q :=
  blocks_cut _ h

theorem goesOn_cases {polled : Polled} (h : polled.goesOn = true) :
    (∃ data, polled = .recv data) ∨
      (∀ data, polled ≠ .recv data) ∧
        ∀ t : SecureTcpTransport, t.pollRecvOrExhaust polled = (true, t) := by
  match polled, h with
  | .recv data, _ => exact Or.inl ⟨data, rfl⟩
  | .selectFailed true, _ | .timeout false, _ =>
    exact Or.inr ⟨by rintro _ ⟨⟩, fun _ => rfl⟩

/-- A whole stream leaves no frame in progress. -/
theorem fs_of_partial (hp : Partial (·.sealed box) fs p) (h : p = wire box fs ++ junk) :
    fs = [] := by
  cases fs with
  | nil => rfl
  | cons f fs =>
    have hlt : p.length < (f.sealed box).length := (hp f rfl).2
    rw [h, wire, List.flatMap_cons, List.length_append, List.length_append] at hlt
    omega

/-- Reads of genuine frames: either all fit and all lines are served, or the stream ends. -/
theorem readAll_genuine (hs : ∀ polled ∈ script, polled.goesOn = true)
    (h : p ++ received script = wire box fs) (hp : Partial (·.sealed box) fs p) :
    (FitsFrom (fs.map Frame.size) p.length script ∧ ∀ rest,
      readAll box (connected fd p) (script ++ rest) =
        (linesOf fs ++ (readAll box (connected fd []) rest).1,
          (readAll box (connected fd []) rest).2)) ∨
    (¬ FitsFrom (fs.map Frame.size) p.length script ∧ ∀ rest,
      (readAll box (connected fd p) (script ++ rest)).2.exhausted = true) := by
  induction script generalizing fs p with
  | nil =>
    rw [received, List.append_nil, ← List.append_nil (wire box fs)] at h
    obtain rfl := fs_of_partial hp h
    obtain rfl : p = [] := h
    exact Or.inl ⟨everySplit_nil _, fun rest => rfl⟩
  | cons polled script ih =>
    have hs' : ∀ e ∈ script, e.goesOn = true := fun e he => hs e (List.mem_cons_of_mem _ he)
    have hnone : (connected fd p).tryDecryptBufferedFrame box = (none, connected fd p) := by
      apply tryDecrypt_of_partial hp
      rcases fs with _ | ⟨f, fs⟩
      · exact Or.inr (List.append_eq_nil_iff.mp h).1
      · exact Or.inl (List.cons_ne_nil _ _)
    rcases goesOn_cases (hs polled List.mem_cons_self) with ⟨data, rfl⟩ | ⟨hne, hpoll⟩
    · rw [received, ← List.append_assoc, ← List.append_nil (wire box fs)] at h
      obtain ⟨gs, fs', q, rfl, hq, hrest, hp'⟩ := frames_cut h
      rw [List.append_nil] at hrest
      rw [fitsFrom_cut hp hq rfl]
      by_cases hroom : p.length + data.bytes.length ≤
          MAX_LINE_LEN + SECRETBOX_NONCEBYTES + 2 + SECRETBOX_MACBYTES
      · simp only [List.cons_append, readAll_recv hnone hroom, hq, readAll_frames, hroom, true_and]
        rcases ih hs' hrest hp' with ⟨hfit, hall⟩ | ⟨hfit, hall⟩
        · refine Or.inl ⟨hfit, fun rest => ?_⟩
          rw [hall, linesOf_append, List.append_assoc]
        · exact Or.inr ⟨hfit, hall⟩
      · refine Or.inr ⟨fun hfit => hroom hfit.1, fun rest => ?_⟩
        rw [List.cons_append, readAll_overflow hnone hroom]
    · rw [received_other hne] at h
      rw [fitsFrom_other hne]
      simp only [List.cons_append, readAll_poll hnone (hpoll _)]
      exact ih hs' h hp

section Tampered

variable {nonce ct later : Bytes} (hn : nonce.length = SECRETBOX_NONCEBYTES)
  (hc : ct.length < 65536) (hopen : box.openEasy nonce ct = none)

include hn hc

/-- A frame that is not yet complete, refused or not, is waited for. -/
theorem tryDecrypt_before_tampered {s : Bytes} (hp : Partial (·.sealed box) fs p)
    (h : p ++ s = wire box fs ++ (frameBytes nonce ct ++ later))
    (hpart : fs = [] → p.length < (frameBytes nonce ct).length) :
    (connected fd p).tryDecryptBufferedFrame box = (none, connected fd p) := by
  rcases List.eq_nil_or_concat fs with rfl | ⟨init, f, rfl⟩
  · have hpre : p <+: frameBytes nonce ct ++ later := ⟨s, h⟩
    exact tryDecrypt_partial hn hc (List.prefix_of_prefix_length_le hpre
      (List.prefix_append _ _) (Nat.le_of_lt (hpart rfl))) (hpart rfl)
  · exact tryDecrypt_of_partial hp (Or.inl (by simp))

include hopen

theorem readAll_at_tampered {s : Bytes} (h : p ++ s = frameBytes nonce ct ++ later)
    (hlen : (frameBytes nonce ct).length ≤ p.length) :
    (readAll box (connected fd p) script).1 <+: [] ∧
      (readAll box (connected fd p) script).2.exhausted = true := by
  have hpre : p <+: frameBytes nonce ct ++ later := ⟨s, h⟩
  obtain ⟨r, rfl⟩ := List.prefix_of_prefix_length_le (List.prefix_append _ _) hpre hlen
  have hrefused := @tryDecrypt_frame box fd nonce ct r hn hc
  rw [hopen] at hrefused
  rw [readAll_refused hrefused rfl rfl]
  exact ⟨List.nil_prefix, rfl⟩

/-- A frame that is refused ends the stream after lines of the frames before it. -/
theorem readAll_tampered (hs : ∀ polled ∈ script, polled.goesOn = true)
    (h : p ++ received script = wire box fs ++ (frameBytes nonce ct ++ later))
    (hp : Partial (·.sealed box) fs p) (rest : List Polled) :
    (readAll box (connected fd p) (script ++ rest)).1 <+: linesOf fs ∧
      (readAll box (connected fd p) (script ++ rest)).2.exhausted = true := by
  induction script generalizing fs p with
  | nil =>
    rw [received, List.append_nil] at h
    obtain rfl := fs_of_partial hp h
    rw [wire, List.flatMap_nil, List.nil_append] at h
    refine readAll_at_tampered hn hc hopen (s := []) (by rw [List.append_nil, h]) ?_
    rw [h, List.length_append]
    omega
  | cons polled script ih =>
    have hs' : ∀ e ∈ script, e.goesOn = true := fun e he => hs e (List.mem_cons_of_mem _ he)
    by_cases hpart : fs = [] → p.length < (frameBytes nonce ct).length
    · have hnone : (connected fd p).tryDecryptBufferedFrame box = (none, connected fd p) :=
        tryDecrypt_before_tampered hn hc hp h hpart
      rcases goesOn_cases (hs polled List.mem_cons_self) with ⟨data, rfl⟩ | ⟨hne, hpoll⟩
      · rw [received, ← List.append_assoc] at h
        obtain ⟨gs, fs', q, rfl, hq, hrest, hp'⟩ := frames_cut h
        by_cases hroom : p.length + data.bytes.length ≤
            MAX_LINE_LEN + SECRETBOX_NONCEBYTES + 2 + SECRETBOX_MACBYTES
        · obtain ⟨hlines, hend⟩ := ih hs' hrest hp'
          rw [List.cons_append, readAll_recv hnone hroom, hq, readAll_frames,
            linesOf_append]
          exact ⟨(List.prefix_append_right_inj _).mpr hlines, hend⟩
        · rw [List.cons_append, readAll_overflow hnone hroom]
          exact ⟨List.nil_prefix, rfl⟩
      · rw [received_other hne] at h
        rw [List.cons_append, readAll_poll hnone (hpoll _)]
        exact ih hs' h hp
    · obtain ⟨rfl, hlen⟩ := Classical.not_imp.mp hpart
      exact readAll_at_tampered hn hc hopen h (Nat.not_lt.mp hlen)

end Tampered

end Run

section Delivery

variable (box : SecretBox) (fd : ℕ) (frames : List Frame) (script : List Polled)

/-- All lines are returned, the stream is not over while the peer is there, and nothing else is
returned when it has closed. -/
def Delivers : Prop :=
  (readAll box (connected fd []) script).1 = linesOf frames ∧
    (readAll box (connected fd []) script).2.exhausted = false ∧
    ∀ rest, (readAll box (connected fd []) (script ++ .recvEnded :: rest)).1 = linesOf frames

/-- A whole frame that the box refuses to open. -/
def Tampered (bytes : Bytes) : Prop :=
  ∃ nonce ct, nonce.length = SECRETBOX_NONCEBYTES ∧ ct.length < 65536 ∧
    box.openEasy nonce ct = none ∧ bytes = frameBytes nonce ct

/-- Lines of the frames are all that is ever returned, and the stream is over. -/
def EndsWithin : Prop :=
  let (lines, t) := readAll box (connected fd []) script
  lines <+: linesOf frames ∧ t.exhausted = true ∧
    ∀ later, nextLine box t later = (.failed, t, later)

variable {box fd frames script}

theorem partial_nil : Partial (·.sealed box) frames [] := by
  intro f _
  refine ⟨List.nil_prefix, ?_⟩
  rw [List.length_nil, Frame.length_sealed, Frame.size]
  omega

variable (hs : ∀ polled ∈ script, polled.goesOn = true)

include hs

theorem delivers_of_readsFit (hw : received script = wire box frames)
    (h : ReadsFit frames script) : Delivers box fd frames script := by
  rcases @readAll_genuine box fd frames [] script hs hw partial_nil with ⟨-, hall⟩ | ⟨hfit, -⟩
  · have hopen := hall []
    rw [List.append_nil, readAll_waiting rfl, List.append_nil] at hopen
    refine ⟨by rw [hopen], by rw [hopen]; rfl, fun rest => ?_⟩
    rw [hall, readAll_ended rfl rfl rfl, List.append_nil]
  · exact absurd h hfit

theorem exhausted_of_not_readsFit (hw : received script = wire box frames)
    (h : ¬ ReadsFit frames script) : (readAll box (connected fd []) script).2.exhausted = true := by
  rcases @readAll_genuine box fd frames [] script hs hw partial_nil with ⟨hfit, -⟩ | ⟨-, hall⟩
  · exact absurd hfit h
  · have hopen := hall []
    rwa [List.append_nil] at hopen

/-- The transport delivers the lines of genuine frames exactly if no read overruns its buffer,
and a frame that has been tampered with ends the stream. -/
theorem delivers_iff_readsFit :
    (received script = wire box frames → (Delivers box fd frames script ↔ ReadsFit frames script)) ∧
      ∀ tampered later, Tampered box tampered →
        received script = wire box frames ++ (tampered ++ later) →
          ∀ rest, EndsWithin box fd frames (script ++ rest) := by
  constructor
  · intro hw
    constructor
    · rintro ⟨-, hopen, -⟩
      by_contra hfit
      rw [exhausted_of_not_readsFit hs hw hfit] at hopen
      cases hopen
    · exact delivers_of_readsFit hs hw
  · rintro _ later ⟨nonce, ct, hn, hc, hopen, rfl⟩ hw rest
    obtain ⟨hlines, hend⟩ : (readAll box (connected fd []) (script ++ rest)).1 <+: linesOf frames ∧
        (readAll box (connected fd []) (script ++ rest)).2.exhausted = true :=
      readAll_tampered hn hc hopen hs hw partial_nil rest
    refine ⟨hlines, hend, fun more => ?_⟩
    rw [nextLine, if_pos (by rw [hend, Bool.or_true])]

end Delivery

section Burst

/-- A box that puts an empty tag in front of the message. -/
def emptyTag : SecretBox where
  easy _ message := List.replicate SECRETBOX_MACBYTES 0 ++ message
  openEasy _ ct :=
    if List.replicate SECRETBOX_MACBYTES 0 <+: ct then some (ct.drop SECRETBOX_MACBYTES) else none
  openEasy_easy _ message := by simp
  length_easy _ message := by simp [Nat.add_comm]

/-- One plaintext of letters A. -/
def lettersFrame (n : ℕ) (h : n ≤ MAX_LINE_LEN) : Frame where
  nonce := List.replicate SECRETBOX_NONCEBYTES 0
  plaintext := List.replicate n 65
  nonce_length := List.length_replicate
  plaintext_length := by rwa [List.length_replicate]

theorem size_lettersFrame {n : ℕ} (h : n ≤ MAX_LINE_LEN) : (lettersFrame n h).size = 42 + n := by
  simp only [Frame.size, lettersFrame, List.length_replicate, SECRETBOX_NONCEBYTES,
    SECRETBOX_MACBYTES]
  omega

/-- A short genuine frame. -/
def genuineRead : Chunk where
  bytes := (lettersFrame 2 (by decide)).sealed emptyTag
  length_pos := by decide
  length_le := by decide

/-- Two short frames. -/
def genuineFrames : List Frame := [lettersFrame 2 (by decide), lettersFrame 3 (by decide)]

/-- A read of a stretch of them. -/
def genuinePiece (i n : ℕ)
    (h : 0 < (((wire emptyTag genuineFrames).drop i).take n).length ∧ n ≤ 1024) : Chunk where
  bytes := ((wire emptyTag genuineFrames).drop i).take n
  length_pos := h.1
  length_le := (List.length_take_le _ _).trans h.2

/-- A frame whose tag is wrong. -/
def forgedRead : Chunk where
  bytes := frameBytes (List.replicate 24 0) (List.replicate 18 1)
  length_pos := by decide
  length_le := by decide

/-- The frames in three reads that are cut across them, and in two with a forged one behind. -/
theorem delivers_genuineRead :
    Delivers emptyTag 3 genuineFrames [.timeout false, .recv (genuinePiece 0 30 (by decide)),
        .recv (genuinePiece 30 40 (by decide)), .selectFailed true,
        .recv (genuinePiece 70 19 (by decide))] ∧
      EndsWithin emptyTag 3 genuineFrames
        ([.recv (genuinePiece 0 30 (by decide)), .recv (genuinePiece 30 59 (by decide)),
          .recv forgedRead] ++ [.recv genuineRead]) := by
  constructor
  · have h := @delivers_iff_readsFit emptyTag 3 genuineFrames [.timeout false,
      .recv (genuinePiece 0 30 (by decide)), .recv (genuinePiece 30 40 (by decide)),
      .selectFailed true, .recv (genuinePiece 70 19 (by decide))] (by decide)
    apply (h.1 (by decide)).mpr
    apply (fitsFrom_other (by rintro _ ⟨⟩)).mpr
    refine fitsFrom_recv.mpr ⟨by decide, fitsFrom_recv.mpr ⟨by decide, ?_⟩⟩
    apply (fitsFrom_other (by rintro _ ⟨⟩)).mpr
    exact fitsFrom_recv.mpr ⟨by decide, everySplit_nil _⟩
  · have h := @delivers_iff_readsFit emptyTag 3 genuineFrames
      [.recv (genuinePiece 0 30 (by decide)), .recv (genuinePiece 30 59 (by decide)),
        .recv forgedRead] (by decide)
    exact h.2 forgedRead.bytes [] ⟨List.replicate 24 0, List.replicate 18 1, by decide⟩
      (by decide) _

/-- A frame of the greatest size and a small one right behind it. -/
def burstFrames : List Frame := [lettersFrame 4096 (by decide), lettersFrame 1 (by decide)]

theorem length_wire_burst : (wire emptyTag burstFrames).length = 4181 := by
  simp only [wire, burstFrames, List.flatMap_cons, List.flatMap_nil, List.length_append,
    Frame.length_sealed, size_lettersFrame, List.length_nil]

/-- The read of a stretch of 1024 bytes, or of the rest. -/
def slice (w : Bytes) (i : ℕ) (h : 1024 * i < w.length) : Chunk where
  bytes := (w.drop (1024 * i)).take 1024
  length_pos := by
    rw [List.length_take, List.length_drop]
    omega
  length_le := List.length_take_le _ _

/-- Four whole reads and a shorter one. -/
def slices (w : Bytes) (h : 4096 < w.length) : List Polled :=
  [.recv (slice w 0 (by omega)), .recv (slice w 1 (by omega)), .recv (slice w 2 (by omega)),
    .recv (slice w 3 (by omega)), .recv (slice w 4 (by omega))]

theorem received_slices {w : Bytes} (h : 4096 < w.length) (hle : w.length ≤ 5120) :
    received (slices w h) = w := by
  have hcut {a b : ℕ} (hb : a + 1024 = b) : (w.drop a).take 1024 ++ w.drop b = w.drop a := by
    rw [← hb, ← List.drop_drop, List.take_append_drop]
  have hend : (w.drop 4096).take 1024 = w.drop 4096 := by
    apply List.take_of_length_le
    rw [List.length_drop]
    omega
  change (w.drop 0).take 1024 ++ ((w.drop 1024).take 1024 ++ ((w.drop 2048).take 1024 ++
    ((w.drop 3072).take 1024 ++ ((w.drop 4096).take 1024 ++ [])))) = w
  rw [hend, List.append_nil, hcut (by decide), hcut (by decide), hcut (by decide),
    hcut (by decide), List.drop_zero]

theorem fits_slices {w : Bytes} {sizes : List ℕ} (h : 4096 < w.length) (hle : w.length ≤ 5120)
    (hfit : FitsFrom sizes 0 (slices w h)) :
    inProgress sizes 4096 + (w.length - 4096) ≤
      MAX_LINE_LEN + SECRETBOX_NONCEBYTES + 2 + SECRETBOX_MACBYTES := by
  have hlast := hfit [_, _, _, _] _ [] rfl _ rfl
  have hfirst (i : ℕ) (hi : i < 4) : min 1024 (w.length - 1024 * i) = 1024 := by omega
  have hrest : min 1024 (w.length - 1024 * 4) = w.length - 4096 := by omega
  simp only [received, slice, List.length_append, List.length_take, List.length_drop,
    hfirst 0 (by decide), hfirst 1 (by decide), hfirst 2 (by decide), hfirst 3 (by decide),
    hrest] at hlast
  exact hlast

def burst : List Polled :=
  slices (wire emptyTag burstFrames) (by rw [length_wire_burst]; decide)

/-- The last read brings the end of a frame of the greatest size and the next frame with it: the
connection is dropped, though the peer has done nothing wrong. -/
theorem burst_not_delivered :
    (∀ polled ∈ burst, polled.goesOn = true) ∧ received burst = wire emptyTag burstFrames ∧
      ¬ Delivers emptyTag 3 burstFrames burst := by
  have hgo : ∀ polled ∈ burst, polled.goesOn = true := by
    simp [burst, slices, Polled.goesOn]
  have hrec : received burst = wire emptyTag burstFrames :=
    received_slices _ (by rw [length_wire_burst]; decide)
  have hfit : ¬ ReadsFit burstFrames burst := by
    intro h
    have hlast := fits_slices _ (by rw [length_wire_burst]; decide) h
    rw [length_wire_burst, burstFrames, List.map_cons, List.map_cons, size_lettersFrame,
      size_lettersFrame] at hlast
    exact absurd hlast (by decide)
  refine ⟨hgo, hrec, ?_⟩
  rintro ⟨-, hopen, -⟩
  rw [exhausted_of_not_readsFit hgo hrec hfit] at hopen
  cases hopen

end Burst

end SecureTcpTransport

end VehicleSpy.Pipeline
