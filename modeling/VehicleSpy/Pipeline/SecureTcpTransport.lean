import VehicleSpy.Machine.Prefixes
import VehicleSpy.Text.Blocks
import VehicleSpy.Text.Bytes
import VehicleSpy.Text.Segments
import VehicleSpy.Pipeline.TcpReader

/-! # The encrypted TCP transport

The data phase: sealed frames are collected in a ciphertext buffer, opened one by one, and their
plaintexts cut into lines. The outcomes of the polls and reads are the socket's script. The
ciphertext buffer has room for one frame of the greatest size, and its size is checked after
each read, before the frames that the read completes are taken out.
-/

namespace VehicleSpy.Pipeline

open Text Machine

namespace SecureTcp

def SECRETBOX_NONCEBYTES : ℕ := 24
def SECRETBOX_MACBYTES : ℕ := 16
def MAX_LINE_LEN : ℕ := 4096

end SecureTcp

open SecureTcp

/-- `crypto_secretbox_xchacha20poly1305` under the session key: sealing a message under a nonce,
and opening a sealed one. -/
structure SecretBox where
  easy (nonce message : Bytes) : Bytes
  openEasy (nonce ciphertext : Bytes) : Option Bytes
  openEasy_easy : ∀ nonce message, openEasy nonce (easy nonce message) = some message
  length_easy : ∀ nonce message, (easy nonce message).length = message.length + SECRETBOX_MACBYTES

/-- What one `recv` may deliver into the 1024-byte buffer. -/
structure Chunk where
  bytes : Bytes
  length_pos : 0 < bytes.length
  length_le : bytes.length ≤ 1024
  deriving Repr

/-- The outcome of one poll of the socket, and of the read that follows a readable one. -/
inductive Polled
  | selectFailed (eintr : Bool)
  | timeout (stop : Bool)
  /-- The peer has closed, or the read has failed. -/
  | recvEnded
  | recv (data : Chunk)
  deriving Repr

structure SecureTcpTransport where
  fd : ℤ := -1
  opened : Bool := false
  exhausted : Bool := false
  rawBuffer : Bytes := []
  plaintextBuf : Bytes := []
  deriving DecidableEq, Repr

namespace SecureTcpTransport

variable (t : SecureTcpTransport)

def isOpen : Bool := t.opened && 0 ≤ t.fd && !t.exhausted

/-- The big-endian length behind the nonce. -/
def frameLen (raw : Bytes) : ℕ :=
  ((raw.getD SECRETBOX_NONCEBYTES 0).toUInt16 <<< 8 |||
    (raw.getD (SECRETBOX_NONCEBYTES + 1) 0).toUInt16).toNat

def tryDecryptBufferedFrame (box : SecretBox) : Option Bytes × SecureTcpTransport :=
  if t.rawBuffer.length < SECRETBOX_NONCEBYTES + 2 then (none, t)
  else
    let frameLen := frameLen t.rawBuffer
    let totalFrame := SECRETBOX_NONCEBYTES + 2 + frameLen
    if t.rawBuffer.length < totalFrame then (none, t)
    else
      let nonce := t.rawBuffer.take SECRETBOX_NONCEBYTES
      let ct := (t.rawBuffer.drop (SECRETBOX_NONCEBYTES + 2)).take frameLen
      match box.openEasy nonce ct with
      | none => (none, { t with exhausted := true })
      | some plaintext =>
        (some (plaintext.take (frameLen - SECRETBOX_MACBYTES)),
          { t with rawBuffer := t.rawBuffer.drop totalFrame })

/-- Whether the caller is to retry. -/
def pollRecvOrExhaust : Polled → Bool × SecureTcpTransport
  | .selectFailed true => (true, t)
  | .selectFailed false => (false, { t with exhausted := true })
  | .timeout true => (false, { t with exhausted := true })
  | .timeout false => (true, t)
  | .recvEnded => (false, { t with exhausted := true })
  | .recv data =>
    let t := { t with rawBuffer := t.rawBuffer ++ data.bytes }
    if MAX_LINE_LEN + SECRETBOX_NONCEBYTES + 2 + SECRETBOX_MACBYTES < t.rawBuffer.length then
      (false, { t with exhausted := true })
    else (true, t)

variable (box : SecretBox)

/-- The next plaintext, if the reads bring one. -/
def readEncryptedLine (t : SecureTcpTransport) (script : List Polled) :
    ReadOutcome × SecureTcpTransport × List Polled :=
  match t.tryDecryptBufferedFrame box with
  | (some frame, t) => (.line frame, t, script)
  | (none, t) =>
    if t.exhausted then (.failed, t, script)
    else
      match script with
      | [] => (.waiting, t, [])
      | polled :: script =>
        match t.pollRecvOrExhaust polled with
        | (false, t) => (.failed, t, script)
        | (true, t) => readEncryptedLine t script

/-- The loop of `nextLine`. -/
def nextBuffered (t : SecureTcpTransport) (script : List Polled) :
    ReadOutcome × SecureTcpTransport × List Polled :=
  match _h : cutAt LF t.plaintextBuf with
  | some (line, rest) => (.line line, { t with plaintextBuf := rest }, script)
  | none =>
    match readEncryptedLine box t script with
    | (.line frame, t, script) =>
      nextBuffered { t with plaintextBuf := t.plaintextBuf ++ frame ++ [LF] } script
    | (.failed, t, script) =>
      if t.plaintextBuf ≠ [] then (.line t.plaintextBuf, { t with plaintextBuf := [] }, script)
      else (.failed, t, script)
    | (.waiting, t, script) => (.waiting, t, script)
termination_by if LF ∈ t.plaintextBuf then 0 else 1
decreasing_by
  -- A frame is followed by a line feed in the buffer, so the second pass finds a line.
  rw [if_neg (cutAt_eq_none_iff.mp _h), if_pos (by simp)]
  exact Nat.zero_lt_one

def nextLine (t : SecureTcpTransport) (script : List Polled) :
    ReadOutcome × SecureTcpTransport × List Polled :=
  if !t.opened || t.fd < 0 || t.exhausted then (.failed, t, script)
  else nextBuffered box t script

section Decreasing

variable {box} {t : SecureTcpTransport} {script script' : List Polled}

/-- The bytes that a script delivers. -/
def received : List Polled → Bytes
  | [] => []
  | .recv data :: script => data.bytes ++ received script
  | _ :: script => received script

/-- A bound on the lines that may still be read. -/
def weight (t : SecureTcpTransport) (script : List Polled) : ℕ :=
  t.plaintextBuf.length + t.rawBuffer.length + (received script).length

theorem tryDecrypt_some {frame : Bytes} {t' : SecureTcpTransport}
    (h : t.tryDecryptBufferedFrame box = (some frame, t')) :
    t' = { t with rawBuffer := t'.rawBuffer } ∧
      frame.length + 1 + t'.rawBuffer.length < t.rawBuffer.length := by
  unfold tryDecryptBufferedFrame at h
  split at h
  · cases h
  · dsimp only at h
    split at h
    · cases h
    · next hlen =>
      split at h
      · cases h
      · obtain ⟨rfl, rfl⟩ : _ ∧ _ = t' := by simpa using h
        refine ⟨rfl, ?_⟩
        simp only [List.length_take, List.length_drop, SECRETBOX_NONCEBYTES] at hlen ⊢
        omega

theorem tryDecrypt_none {t' : SecureTcpTransport}
    (h : t.tryDecryptBufferedFrame box = (none, t')) :
    t'.plaintextBuf = t.plaintextBuf ∧ t'.rawBuffer = t.rawBuffer := by
  unfold tryDecryptBufferedFrame at h
  split at h
  · obtain rfl := (Prod.mk.inj h).2
    exact ⟨rfl, rfl⟩
  · dsimp only at h
    split at h
    · obtain rfl := (Prod.mk.inj h).2
      exact ⟨rfl, rfl⟩
    · split at h
      · obtain rfl := (Prod.mk.inj h).2
        exact ⟨rfl, rfl⟩
      · cases h

theorem pollRecvOrExhaust_spec (script : List Polled) {b : Bool} {t' : SecureTcpTransport}
    {polled : Polled} (h : t.pollRecvOrExhaust polled = (b, t')) :
    t'.plaintextBuf = t.plaintextBuf ∧ t'.weight script ≤ t.weight (polled :: script) := by
  unfold pollRecvOrExhaust at h
  split at h
  case h_6 data =>
    dsimp only at h
    split at h
    all_goals
      obtain rfl := (Prod.mk.inj h).2
      refine ⟨rfl, ?_⟩
      simp only [weight, received, List.length_append]
      omega
  all_goals
    obtain rfl := (Prod.mk.inj h).2
    exact ⟨rfl, Nat.le_refl _⟩

/-- A read leaves the plaintext as it is, and takes more than it gives. -/
theorem readEncryptedLine_spec {outcome : ReadOutcome} {t' : SecureTcpTransport}
    (h : readEncryptedLine box t script = (outcome, t', script')) :
    t'.plaintextBuf = t.plaintextBuf ∧ t'.weight script' ≤ t.weight script ∧
      ∀ frame, outcome = .line frame → frame.length + 1 + t'.weight script' < t.weight script := by
  fun_induction readEncryptedLine box t script with
  | case1 script t frame u hread =>
    obtain ⟨hu, hlt⟩ := tryDecrypt_some hread
    obtain ⟨rfl, rfl, rfl⟩ : _ ∧ u = t' ∧ script = script' := by simpa using h
    rw [hu]
    simp only [weight]
    refine ⟨trivial, by omega, ?_⟩
    rintro _ ⟨⟩
    omega
  | case2 script t u hread | case3 t u hread =>
    obtain ⟨hp, hr⟩ := tryDecrypt_none hread
    cases h
    refine ⟨hp, by rw [weight, weight, hp, hr], ?_⟩
    rintro _ ⟨⟩
  | case4 t u hread hu polled script v hpoll =>
    obtain ⟨hp, hr⟩ := tryDecrypt_none hread
    obtain ⟨hq, hw⟩ := pollRecvOrExhaust_spec script hpoll
    obtain ⟨rfl, rfl, rfl⟩ : _ ∧ v = t' ∧ script = script' := by simpa using h
    refine ⟨hq.trans hp, hw.trans (by rw [weight, weight, hp, hr]), ?_⟩
    rintro _ ⟨⟩
  | case5 t u hread hu polled script v hpoll ih =>
    obtain ⟨hp, hr⟩ := tryDecrypt_none hread
    obtain ⟨hq, hw⟩ := pollRecvOrExhaust_spec script hpoll
    obtain ⟨hi, hle, hlt⟩ := ih h
    have hsame : u.weight (polled :: script) = t.weight (polled :: script) := by
      rw [weight, weight, hp, hr]
    refine ⟨hi.trans (hq.trans hp), by omega, ?_⟩
    rintro frame rfl
    have := hlt frame rfl
    omega

theorem weight_nextBuffered {line : Bytes} {t' : SecureTcpTransport}
    (h : nextBuffered box t script = (.line line, t', script')) :
    t'.weight script' < t.weight script := by
  fun_induction nextBuffered box t script with
  | case1 t script l r hcut =>
    obtain ⟨hp, -⟩ := cutAt_eq_some hcut
    cases h
    simp only [weight, hp, List.length_append, List.length_cons]
    omega
  | case2 t script hcut frame u script₁ hread ih =>
    obtain ⟨-, -, hlt⟩ := readEncryptedLine_spec hread
    have hi := ih h
    have hf := hlt frame rfl
    simp only [weight, List.length_append, List.length_singleton] at hi hf ⊢
    omega
  | case3 t script hcut u script₁ hread hu =>
    obtain ⟨-, hle, -⟩ := readEncryptedLine_spec hread
    have hpos := List.length_pos_iff.mpr hu
    cases h
    simp only [weight, List.length_nil] at hle ⊢
    omega
  | case4 | case5 => cases h

theorem weight_nextLine {line : Bytes} {t' : SecureTcpTransport}
    (h : nextLine box t script = (.line line, t', script')) :
    t'.weight script' < t.weight script := by
  unfold nextLine at h
  split at h
  · cases h
  · exact weight_nextBuffered h

end Decreasing

/-- The lines that repeated calls of `nextLine` return until one of them returns none, and the
transport after that call. -/
def readAll (t : SecureTcpTransport) (script : List Polled) : List Bytes × SecureTcpTransport :=
  match _h : nextLine box t script with
  | (.line line, t, script) => (line :: (readAll t script).1, (readAll t script).2)
  | (_, t, _) => ([], t)
termination_by t.weight script
decreasing_by all_goals exact weight_nextLine _h

/-- The transport after the handshake, with some bytes of frames received. -/
def connected (fd : ℕ) (raw : Bytes) : SecureTcpTransport :=
  { fd := fd, opened := true, rawBuffer := raw }

/-- The bytes of a frame: nonce, length and ciphertext. -/
def frameBytes (nonce ct : Bytes) : Bytes :=
  nonce ++ [(ct.length / 256).toUInt8, (ct.length % 256).toUInt8] ++ ct

section Frame

variable {box} {fd : ℕ} {nonce ct p r : Bytes}

@[simp] theorem length_frameBytes :
    (frameBytes nonce ct).length = nonce.length + 2 + ct.length := by
  simp [frameBytes]
  omega

theorem be16 {n : ℕ} (h : n < 65536) :
    ((n / 256).toUInt8.toUInt16 <<< 8 ||| (n % 256).toUInt8.toUInt16).toNat = n := by
  have hhi : (n / 256).toUInt8.toNat = n / 256 := Nat.mod_eq_of_lt (by omega)
  have hlo : (n % 256).toUInt8.toNat = n % 256 := Nat.mod_eq_of_lt (by omega)
  rw [UInt16.toNat_or, UInt16.toNat_shiftLeft, UInt8.toNat_toUInt16, UInt8.toNat_toUInt16, hhi, hlo]
  change (n / 256) <<< 8 % 65536 ||| n % 256 = n
  rw [Nat.shiftLeft_eq, Nat.mod_eq_of_lt (by omega), ← Nat.shiftLeft_eq,
    ← Nat.shiftLeft_add_eq_or_of_lt (by omega), Nat.shiftLeft_eq]
  omega

theorem frameLen_append (hn : nonce.length = SECRETBOX_NONCEBYTES) (hc : ct.length < 65536) :
    frameLen (frameBytes nonce ct ++ r) = ct.length := by
  have h0 : (frameBytes nonce ct ++ r).getD SECRETBOX_NONCEBYTES 0 = (ct.length / 256).toUInt8 := by
    simp [frameBytes, ← hn]
  have h1 : (frameBytes nonce ct ++ r).getD (SECRETBOX_NONCEBYTES + 1) 0 =
      (ct.length % 256).toUInt8 := by
    simp [frameBytes, ← hn]
  rw [frameLen, h0, h1, be16 hc]

theorem tryDecrypt_frame (hn : nonce.length = SECRETBOX_NONCEBYTES) (hc : ct.length < 65536) :
    (connected fd (frameBytes nonce ct ++ r)).tryDecryptBufferedFrame box =
      match box.openEasy nonce ct with
      | none => (none, { connected fd (frameBytes nonce ct ++ r) with exhausted := true })
      | some plaintext =>
        (some (plaintext.take (ct.length - SECRETBOX_MACBYTES)), connected fd r) := by
  have hlen : (frameBytes nonce ct ++ r).length =
      SECRETBOX_NONCEBYTES + 2 + ct.length + r.length := by
    rw [List.length_append, length_frameBytes, hn]
  have hnonce : (frameBytes nonce ct ++ r).take SECRETBOX_NONCEBYTES = nonce := by
    simp [frameBytes, ← hn]
  have hct : ((frameBytes nonce ct ++ r).drop (SECRETBOX_NONCEBYTES + 2)).take ct.length = ct := by
    have hhead : frameBytes nonce ct ++ r =
        (nonce ++ [(ct.length / 256).toUInt8, (ct.length % 256).toUInt8]) ++ (ct ++ r) := by
      simp [frameBytes]
    rw [hhead, List.drop_left' (by simp [hn]), List.take_left]
  have hrest : (frameBytes nonce ct ++ r).drop (SECRETBOX_NONCEBYTES + 2 + ct.length) = r := by
    apply List.drop_left'
    rw [length_frameBytes, hn]
  unfold tryDecryptBufferedFrame
  simp only [connected, frameLen_append hn hc, hnonce, hct, hrest]
  rw [if_neg (by omega), if_neg (by omega)]

theorem tryDecrypt_partial (hn : nonce.length = SECRETBOX_NONCEBYTES) (hc : ct.length < 65536)
    (hp : p <+: frameBytes nonce ct) (hlt : p.length < (frameBytes nonce ct).length) :
    (connected fd p).tryDecryptBufferedFrame box = (none, connected fd p) := by
  unfold tryDecryptBufferedFrame
  by_cases hhead : p.length < SECRETBOX_NONCEBYTES + 2
  · exact if_pos hhead
  · -- The header is there, and says that more is to come.
    have hsame : frameLen p = ct.length := by
      obtain ⟨w, hw⟩ := hp
      have hall := frameLen_append (r := []) hn hc
      rw [List.append_nil, ← hw] at hall
      rw [← hall, frameLen, frameLen, List.getD_eq_getElem?_getD, List.getD_eq_getElem?_getD,
        List.getD_eq_getElem?_getD, List.getD_eq_getElem?_getD,
        List.getElem?_append_left (by omega), List.getElem?_append_left (by omega)]
    rw [length_frameBytes, hn] at hlt
    simp only [connected, hsame]
    rw [if_neg hhead, if_pos hlt]

end Frame

section ReadAll

variable {box} {t t' : SecureTcpTransport} {script script' : List Polled} {outcome : ReadOutcome}

theorem readAll_of_line {line : Bytes} (h : nextLine box t script = (.line line, t', script')) :
    readAll box t script = (line :: (readAll box t' script').1, (readAll box t' script').2) := by
  rw [readAll]
  split
  · next h' =>
    rw [h] at h'
    cases h'
    rfl
  · next hne h' =>
    rw [h] at h'
    cases h'
    exact absurd rfl (hne line)

theorem readAll_of_stop (h : nextLine box t script = (outcome, t', script'))
    (ho : ∀ line, outcome ≠ .line line) : readAll box t script = ([], t') := by
  rw [readAll]
  split
  · next h' =>
    rw [h] at h'
    exact absurd (congrArg Prod.fst h') (ho _)
  · next h' =>
    rw [h] at h'
    cases h'
    rfl

theorem readAll_congr {u : SecureTcpTransport} {v : List Polled}
    (h : nextLine box t script = nextLine box u v) : readAll box t script = readAll box u v := by
  rcases h' : nextLine box u v with ⟨_ | _ | _, t', script'⟩
  · rw [readAll_of_line h', readAll_of_line (h.trans h')]
  all_goals
    rw [readAll_of_stop h' (by rintro _ ⟨⟩), readAll_of_stop (h.trans h') (by rintro _ ⟨⟩)]

theorem nextLine_of_isOpen (h : t.isOpen = true) :
    nextLine box t script = nextBuffered box t script := by
  obtain ⟨⟨ho, hf⟩, he⟩ : (t.opened = true ∧ 0 ≤ t.fd) ∧ t.exhausted = false := by
    simpa [isOpen] using h
  rw [nextLine, if_neg (by simp [ho, he, hf])]

/-- The lines that are buffered come first. -/
theorem readAll_buffered (h : t.isOpen = true) (buf : Bytes) :
    readAll box { t with plaintextBuf := buf } script =
      (segments (· == LF) buf ++
          (readAll box { t with plaintextBuf := remainder (· == LF) buf } script).1,
        (readAll box { t with plaintextBuf := remainder (· == LF) buf } script).2) := by
  induction hn : buf.length using Nat.strong_induction_on generalizing buf with
  | _ n ih =>
    rcases hcut : cutAt LF buf with _ | ⟨line, rest⟩
    · have hfree : ∀ c ∈ buf, (c == LF) = false := fun c hc => by
        simpa using fun heq : c = LF => cutAt_eq_none_iff.mp hcut (heq ▸ hc)
      rw [segments_open hfree, remainder_open hfree, List.nil_append]
    · obtain ⟨rfl, hline⟩ := cutAt_eq_some hcut
      have hfree : ∀ c ∈ line, (c == LF) = false := fun c hc => by
        simpa using fun heq : c = LF => hline (heq ▸ hc)
      have hnext : nextLine box { t with plaintextBuf := line ++ LF :: rest } script =
          (.line line, { t with plaintextBuf := rest }, script) := by
        rw [nextLine_of_isOpen (by exact h), nextBuffered]
        split
        · next hc =>
          rw [hcut] at hc
          cases hc
          rfl
        · next hc => rw [hcut] at hc; cases hc
      rw [List.length_append, List.length_cons] at hn
      rw [readAll_of_line hnext, segments_closed hfree (by rfl), remainder_closed hfree (by rfl),
        ih rest.length (by omega) rest rfl, List.cons_append]

end ReadAll

section Connected

variable {box} {fd : ℕ} {p q : Bytes} {t : SecureTcpTransport} {polled : Polled}
  {script script' : List Polled} {outcome : ReadOutcome}

@[simp] theorem isOpen_connected : (connected fd p).isOpen = true := by
  simp [isOpen, connected]

@[simp] theorem exhausted_connected : (connected fd p).exhausted = false := rfl

/-- Without plaintext in the buffer a call goes on to the next frame. -/
theorem nextLine_connected :
    nextLine box (connected fd p) script =
      match readEncryptedLine box (connected fd p) script with
      | (.line frame, t, script) =>
        nextBuffered box { t with plaintextBuf := t.plaintextBuf ++ frame ++ [LF] } script
      | (.failed, t, script) =>
        if t.plaintextBuf ≠ [] then (.line t.plaintextBuf, { t with plaintextBuf := [] }, script)
        else (.failed, t, script)
      | (.waiting, t, script) => (.waiting, t, script) := by
  rw [nextLine_of_isOpen isOpen_connected, nextBuffered]
  split
  · next hcut => cases hcut
  · rfl

theorem readAll_failed (h : readEncryptedLine box (connected fd p) script = (.failed, t, script'))
    (hbuf : t.plaintextBuf = []) : readAll box (connected fd p) script = ([], t) := by
  have hnext : nextLine box (connected fd p) script = (.failed, t, script') := by
    rw [nextLine_connected, h]
    exact if_neg (not_not_intro hbuf)
  exact readAll_of_stop hnext (by rintro _ ⟨⟩)

/-- A frame that is complete is served as the lines of its plaintext. -/
theorem readAll_frame {frame : Bytes}
    (h : (connected fd p).tryDecryptBufferedFrame box = (some frame, connected fd q)) :
    readAll box (connected fd p) script =
      (frame.splitOnP (· == LF) ++ (readAll box (connected fd q) script).1,
        (readAll box (connected fd q) script).2) := by
  have hnext : nextLine box (connected fd p) script =
      nextLine box { connected fd q with plaintextBuf := frame ++ [LF] } script := by
    rw [nextLine_connected, readEncryptedLine, h,
      nextLine_of_isOpen (by exact isOpen_connected (p := q))]
    rfl
  have hcut := segments_concat (p := (· == LF)) (c := LF) (by rfl) frame
  rw [readAll_congr hnext, readAll_buffered isOpen_connected, hcut.1, hcut.2]
  rfl

/-- A frame that is refused ends the stream. -/
theorem readAll_refused (h : (connected fd p).tryDecryptBufferedFrame box = (none, t))
    (ht : t.exhausted = true) (hbuf : t.plaintextBuf = []) :
    readAll box (connected fd p) script = ([], t) := by
  have hread : readEncryptedLine box (connected fd p) script = (.failed, t, script) := by
    rw [readEncryptedLine, h]
    exact if_pos ht
  exact readAll_failed hread hbuf

variable (h : (connected fd p).tryDecryptBufferedFrame box = (none, connected fd p))

include h

theorem readAll_waiting : readAll box (connected fd p) [] = ([], connected fd p) := by
  have hnext : nextLine box (connected fd p) [] = (.waiting, connected fd p, []) := by
    rw [nextLine_connected, readEncryptedLine, h]
    rfl
  exact readAll_of_stop hnext (by rintro _ ⟨⟩)

theorem readAll_ended (ht : (connected fd p).pollRecvOrExhaust polled = (false, t))
    (hbuf : t.plaintextBuf = []) : readAll box (connected fd p) (polled :: script) = ([], t) := by
  have hread : readEncryptedLine box (connected fd p) (polled :: script) =
      (.failed, t, script) := by
    rw [readEncryptedLine, h]
    simp only [exhausted_connected, ht, Bool.false_eq_true, if_false]
  exact readAll_failed hread hbuf

theorem readAll_poll (ht : (connected fd p).pollRecvOrExhaust polled = (true, connected fd q)) :
    readAll box (connected fd p) (polled :: script) = readAll box (connected fd q) script := by
  have hread : readEncryptedLine box (connected fd p) (polled :: script) =
      readEncryptedLine box (connected fd q) script := by
    rw [readEncryptedLine, h]
    simp only [exhausted_connected, ht, Bool.false_eq_true, if_false]
  apply readAll_congr
  rw [nextLine_connected, nextLine_connected, hread]

end Connected

end SecureTcpTransport

end VehicleSpy.Pipeline
