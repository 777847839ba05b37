import VehicleSpy.Pipeline.SecureDelivery
import VehicleSpy.Text.Numbers

/-! # How the encrypted transport is opened

The host is dialled up to ten times, with a wait that doubles from one attempt to the next. On
the first connection the keys are exchanged: the peer's ephemeral key and its signature are the
first 96 bytes of its stream, in reads of any sizes, and what the last read leaves in the socket
belongs to the data phase. A refused connection, a failed handshake or a requested stop ends the
opening at once. The library's key exchange and signatures are parameters.
-/

namespace VehicleSpy.Pipeline

open Text Machine SecureTcp

namespace SecureTcp

def X25519_PUBLIC_KEY_LEN : ℕ := 32

/-- `crypto_sign_BYTES`. -/
def SIGN_BYTES : ℕ := 64

def MAX_RECONNECT_ATTEMPTS : ℕ := 10

def BASE_RECONNECT_DELAY_MS : ℕ := 1000

def MAX_RECONNECT_DELAY_MS : ℕ := 10000

def calculateReconnectDelayMs (retryCount : ℕ) : ℕ :=
  min (BASE_RECONNECT_DELAY_MS * 2 ^ min retryCount 12) MAX_RECONNECT_DELAY_MS

/-- What dialling one address of the host comes to. -/
inductive Dial
  | noSocket
  | connected (fd : ℕ)
  | refused
  | failed
  deriving DecidableEq, Repr

/-- The loop over the addresses: the descriptor, and whether one of them has refused. -/
def dial : List Dial → ℤ × Bool → ℤ × Bool
  | [], s => s
  | .connected fd :: _, (_, connRefused) => (fd, connRefused)
  | .refused :: addresses, _ => dial addresses (-1, true)
  | .noSocket :: addresses, (_, connRefused) => dial addresses (-1, connRefused)
  | .failed :: addresses, (_, connRefused) => dial addresses (-1, connRefused)

/-- The host has no address if it is not resolved. -/
def connectToHost (addresses : List Dial) : ℤ :=
  let (fd, connRefused) := dial addresses (-1, false)
  if connRefused then -2 else fd

/-- What the socket answers while the handshake waits for it. -/
inductive Arrival
  /-- The time is over. -/
  | expired
  | selectFailed (eintr : Bool)
  | recvEnded
  | arrived (bytes : Bytes)
  deriving DecidableEq, Repr

/-- A read takes what is wanted of the bytes that have arrived, and leaves the others. -/
def doRecvExact (len : ℕ) (got : Bytes) (script : List Arrival) : Option Bytes × List Arrival :=
  if len ≤ got.length then (some got, script)
  else
    match script with
    | [] => (none, [])
    | .expired :: script => (none, script)
    | .selectFailed true :: script => doRecvExact len got script
    | .selectFailed false :: script => (none, script)
    | .recvEnded :: script => (none, script)
    | .arrived bytes :: script =>
      if bytes = [] then (none, script)
      else if bytes.length ≤ len - got.length then doRecvExact len (got ++ bytes) script
      else
        (some (got ++ bytes.take (len - got.length)),
          .arrived (bytes.drop (len - got.length)) :: script)

/-- What the transport uses of libsodium. -/
structure Sodium where
  /-- The keys for receiving and for sending. -/
  kxClientSessionKeys (clientPk clientSk serverPk : Bytes) : Option (Bytes × Bytes)
  verifyDetached (sig message publicKey : Bytes) : Bool
  secretbox (key : Bytes) : SecretBox

/-- What the surroundings answer to one attempt to connect. -/
structure Attempt where
  stopRequested : Bool := false
  addresses : List Dial
  keypair : Option (Bytes × Bytes)
  sent : Bool := true
  arrivals : List Arrival

/-- What `open` does to its surroundings. -/
inductive Output
  | out (text : Bytes)
  | err (text : Bytes)
  | sleepFor (ms : ℕ)
  deriving DecidableEq, Repr

end SecureTcp

/-- The transport with what it needs to be opened. -/
structure SecureSession where
  host : Bytes
  port : ℤ
  publicKey : Bytes
  transport : SecureTcpTransport := {}
  rxKey : Bytes := []

namespace SecureSession

variable (sodium : Sodium) (s : SecureSession) (a : SecureTcp.Attempt)

/-- What is left in the socket, or what has failed. The key for receiving is stored before the
signature is there. -/
def performHandshake : Except Bytes (List Arrival) × SecureSession :=
  match a.keypair with
  | none => (.error (ascii "[secure-tcp] crypto_kx_keypair failed"), s)
  | some (clientPk, clientSk) =>
    if !a.sent then (.error (ascii "[secure-tcp] Failed to send client public key"), s)
    else
      match doRecvExact X25519_PUBLIC_KEY_LEN [] a.arrivals with
      | (none, _) => (.error (ascii "[secure-tcp] Failed to receive server public key"), s)
      | (some serverPk, arrivals) =>
        match sodium.kxClientSessionKeys clientPk clientSk serverPk with
        | none => (.error (ascii "[secure-tcp] crypto_kx_client_session_keys failed"), s)
        | some (rxKey, _) =>
          let s := { s with rxKey := rxKey }
          match doRecvExact SIGN_BYTES [] arrivals with
          | (none, _) => (.error (ascii "[secure-tcp] Failed to receive server signature"), s)
          | (some serverSig, arrivals) =>
            if sodium.verifyDetached serverSig (clientPk ++ serverPk) s.publicKey then
              (.ok arrivals, s)
            else
              (.error (ascii
                "[secure-tcp] Handshake signature verification FAILED - peer is untrusted"), s)

def retryMessage (attempt delayMs : ℕ) : Bytes :=
  ascii "[secure-tcp] connection attempt " ++ decimal attempt ++ ascii "/" ++
    decimal MAX_RECONNECT_ATTEMPTS ++ ascii " failed, retrying in " ++ decimal delayMs ++
    ascii "ms..."

/-- What `open` returns, with what is left in the socket and what has been put out. -/
structure Opening where
  result : Bool
  session : SecureSession
  arrivals : List Arrival := []
  output : List Output := []

/-- The loop of `open`, with `left` attempts to go. -/
def openLoop (world : ℕ → SecureTcp.Attempt) : ℕ → Opening
  | 0 =>
    { result := false, session := s,
      output := [.err (ascii "[secure-tcp] failed to establish TCP connection after " ++
        decimal MAX_RECONNECT_ATTEMPTS ++ ascii " attempts")] }
  | left + 1 =>
    let reconnectCount := MAX_RECONNECT_ATTEMPTS - (left + 1)
    let a := world reconnectCount
    if a.stopRequested then
      { result := false, session := s,
        output := [.err (ascii "[secure-tcp] connection cancelled (stop requested)")] }
    else
      let connectResult := connectToHost a.addresses
      if connectResult = -2 then
        { result := false, session := s,
          output := [.err (ascii "[secure-tcp] connection refused to " ++ s.host ++ ascii ":" ++
            decimal s.port)] }
      else if connectResult < 0 then
        let delayMs := calculateReconnectDelayMs reconnectCount
        let later := openLoop world left
        { later with
          output := [.err (retryMessage (reconnectCount + 1) delayMs), .sleepFor delayMs] ++
            later.output }
      else
        let s := { s with transport := { s.transport with fd := connectResult } }
        match s.performHandshake sodium a with
        | (.error text, s) =>
          { result := false, session := { s with transport := { s.transport with fd := -1 } },
            output := [.err text] }
        | (.ok arrivals, s) =>
          { result := true, session := s, arrivals,
            output := [.out (ascii "[secure-tcp] Handshake complete - peer authenticated")] }

/-- `open`. -/
def openTransport (world : ℕ → SecureTcp.Attempt) : Opening :=
  if s.transport.opened then
    { result := 0 ≤ s.transport.fd && !s.transport.exhausted, session := s }
  else
    { s with transport := { s.transport with opened := true } }.openLoop sodium world
      MAX_RECONNECT_ATTEMPTS

end SecureSession

namespace SecureTcp

section Dial

variable {addresses : List Dial}

/-- Neither a connection nor a refusal. -/
def Dial.Idle (d : Dial) : Prop := d = .noSocket ∨ d = .failed

theorem dial_refused (addresses : List Dial) (fd : ℤ) : (dial addresses (fd, true)).2 = true := by
  induction addresses generalizing fd with
  | nil => rfl
  | cons d addresses ih => cases d <;> first | rfl | exact ih _

theorem connectToHost_idle {d : Dial} (h : d.Idle) :
    connectToHost (d :: addresses) = connectToHost addresses := by
  rcases h with rfl | rfl <;> rfl

/-- The first address that answers decides: a refusal also for the addresses behind it, one of
which may be connected. -/
theorem connectToHost_cases (addresses : List Dial) :
    (∃ before behind, ∃ fd : ℕ, addresses = before ++ .connected fd :: behind ∧
      (∀ d ∈ before, d.Idle) ∧ connectToHost addresses = fd) ∨
    (∃ before behind, addresses = before ++ .refused :: behind ∧
      (∀ d ∈ before, d.Idle) ∧ connectToHost addresses = -2) ∨
    (∀ d ∈ addresses, d.Idle) ∧ connectToHost addresses = -1 := by
  induction addresses with
  | nil => exact Or.inr (Or.inr ⟨List.forall_mem_nil _, rfl⟩)
  | cons d addresses ih =>
    by_cases hd : d.Idle
    · rw [connectToHost_idle hd]
      rcases ih with ⟨before, behind, fd, rfl, hidle, h⟩ | ⟨before, behind, rfl, hidle, h⟩ |
        ⟨hidle, h⟩
      · exact Or.inl ⟨d :: before, behind, fd, rfl, List.forall_mem_cons.mpr ⟨hd, hidle⟩, h⟩
      · exact Or.inr (Or.inl ⟨d :: before, behind, rfl, List.forall_mem_cons.mpr ⟨hd, hidle⟩, h⟩)
      · exact Or.inr (Or.inr ⟨List.forall_mem_cons.mpr ⟨hd, hidle⟩, h⟩)
    · cases d with
      | noSocket => exact absurd (Or.inl rfl) hd
      | failed => exact absurd (Or.inr rfl) hd
      | connected fd => exact Or.inl ⟨[], addresses, fd, rfl, List.forall_mem_nil _, rfl⟩
      | refused =>
        refine Or.inr (Or.inl ⟨[], addresses, rfl, List.forall_mem_nil _, ?_⟩)
        exact if_pos (dial_refused addresses _)

theorem connectToHost_range (addresses : List Dial) :
    connectToHost addresses = -2 ∨ connectToHost addresses = -1 ∨
      ∃ fd : ℕ, connectToHost addresses = fd := by
  rcases connectToHost_cases addresses with ⟨-, -, fd, -, -, h⟩ | ⟨-, -, -, -, h⟩ | ⟨-, h⟩
  · exact Or.inr (Or.inr ⟨fd, h⟩)
  · exact Or.inl h
  · exact Or.inr (Or.inl h)

end Dial

section Read

/-- The bytes that can be read before something else happens than an interruption. -/
def stream : List Arrival → Bytes
  | .arrived bytes :: script => if bytes = [] then [] else bytes ++ stream script
  | .selectFailed true :: script => stream script
  | _ => []

variable {len : ℕ} {got : Bytes} {script : List Arrival}

theorem doRecvExact_full (h : len ≤ got.length) :
    doRecvExact len got script = (some got, script) := by
  unfold doRecvExact
  exact if_pos h

/-- The wanted bytes are read if the stream has them, in whatever pieces they come, and nothing
behind them is lost. -/
theorem doRecvExact_some (got : Bytes) (hgot : got.length ≤ len)
    (h : len ≤ got.length + (stream script).length) :
    ∃ rest, doRecvExact len got script =
        (some (got ++ (stream script).take (len - got.length)), rest) ∧
      stream rest = (stream script).drop (len - got.length) := by
  have hdone (script : List Arrival) (got : Bytes) (hgot : got.length ≤ len)
      (hfull : len ≤ got.length) : ∃ rest, doRecvExact len got script =
        (some (got ++ (stream script).take (len - got.length)), rest) ∧
      stream rest = (stream script).drop (len - got.length) := by
    rw [doRecvExact_full hfull, Nat.sub_eq_zero_of_le hfull, List.take_zero, List.append_nil]
    exact ⟨script, rfl, rfl⟩
  induction script generalizing got with
  | nil => exact hdone [] got hgot h
  | cons a script ih =>
    by_cases hfull : len ≤ got.length
    · exact hdone (a :: script) got hgot hfull
    · unfold doRecvExact
      rw [if_neg hfull]
      cases a with
      | expired | recvEnded => exact absurd h hfull
      | selectFailed eintr =>
        cases eintr with
        | false => exact absurd h hfull
        | true => exact ih got hgot h
      | arrived bytes =>
        by_cases hnil : bytes = []
        · simp only [stream, hnil, if_true] at h
          exact absurd h hfull
        · simp only [stream, hnil, if_false] at h ⊢
          rw [List.length_append] at h
          by_cases hle : bytes.length ≤ len - got.length
          · have hlen : (got ++ bytes).length = got.length + bytes.length := List.length_append
            obtain ⟨rest, hread, hrest⟩ := ih (got ++ bytes) (by omega) (by omega)
            have hsub : len - (got ++ bytes).length = len - got.length - bytes.length := by omega
            refine ⟨rest, ?_, ?_⟩
            · rw [if_pos hle, hread, hsub, List.take_append, List.take_of_length_le hle,
                List.append_assoc]
            · rw [hrest, hsub, List.drop_append, List.drop_eq_nil_of_le hle, List.nil_append]
          · have hdrop : bytes.drop (len - got.length) ≠ [] := by
              rintro heq
              exact hle (List.drop_eq_nil_iff.mp heq)
            refine ⟨.arrived (bytes.drop (len - got.length)) :: script, ?_, ?_⟩
            · rw [if_neg hle, List.take_append_of_le_length (by omega)]
            · rw [stream, if_neg hdrop, List.drop_append_of_le_length (by omega)]

theorem doRecvExact_none (h : got.length + (stream script).length < len) :
    (doRecvExact len got script).1 = none := by
  induction script generalizing got with
  | nil =>
    unfold doRecvExact
    rw [if_neg (by omega)]
  | cons a script ih =>
    unfold doRecvExact
    rw [if_neg (by omega)]
    cases a with
    | expired | recvEnded => rfl
    | selectFailed eintr =>
      cases eintr with
      | false => rfl
      | true => exact ih h
    | arrived bytes =>
      by_cases hnil : bytes = []
      · simp only [hnil, if_true]
      · simp only [stream, hnil, if_false, List.length_append] at h ⊢
        rw [if_pos (by omega)]
        exact ih (by rw [List.length_append]; omega)

/-- A read of `len` bytes. -/
theorem doRecvExact_iff {bytes : Bytes} : (doRecvExact len [] script).1 = some bytes ↔
    bytes.length = len ∧ bytes <+: stream script := by
  rcases Nat.lt_or_ge (stream script).length len with hlt | hge
  · rw [doRecvExact_none (by simpa using hlt)]
    constructor
    · rintro ⟨⟩
    · rintro ⟨rfl, hpre⟩
      exact absurd hpre.length_le (by omega)
  · obtain ⟨rest, hread, -⟩ := doRecvExact_some [] (Nat.zero_le _) (by simpa using hge)
    rw [hread, List.nil_append, Option.some.injEq, List.length_nil, Nat.sub_zero]
    constructor
    · rintro rfl
      exact ⟨List.length_take_of_le hge, List.take_prefix _ _⟩
    · rintro ⟨rfl, hpre⟩
      exact (List.prefix_iff_eq_take.mp hpre).symm

theorem doRecvExact_append {bytes rest : Bytes} (hlen : bytes.length = len)
    (h : stream script = bytes ++ rest) :
    ∃ left, doRecvExact len [] script = (some bytes, left) ∧ stream left = rest := by
  subst hlen
  have hle : bytes.length ≤ ([] : Bytes).length + (stream script).length := by
    rw [h, List.length_append, List.length_nil]
    omega
  obtain ⟨left, hread, hleft⟩ := doRecvExact_some [] (Nat.zero_le _) hle
  rw [List.nil_append, List.length_nil, Nat.sub_zero, h, List.take_left] at hread
  rw [List.length_nil, Nat.sub_zero, h, List.drop_left] at hleft
  exact ⟨left, hread, hleft⟩

theorem stream_of_doRecvExact {bytes : Bytes} {left : List Arrival}
    (h : doRecvExact len [] script = (some bytes, left)) :
    bytes.length = len ∧ stream script = bytes ++ stream left := by
  obtain ⟨hlen, rest, hrest⟩ := doRecvExact_iff.mp (congrArg Prod.fst h)
  obtain ⟨left', hread, hleft⟩ := doRecvExact_append hlen hrest.symm
  obtain rfl : left = left' := (Prod.mk.inj (h.symm.trans hread)).2
  exact ⟨hlen, by rw [hleft, hrest]⟩

end Read

/-- The peer has signed both ephemeral keys with the identity that is expected; `rxKey` is the
key that the exchange gives, and `rest` the stream behind the signature. -/
def Verified (sodium : Sodium) (publicKey : Bytes) (a : Attempt) (rxKey rest : Bytes) : Prop :=
  ∃ clientPk clientSk serverPk serverSig txKey,
    a.keypair = some (clientPk, clientSk) ∧ a.sent = true ∧
    serverPk.length = X25519_PUBLIC_KEY_LEN ∧ serverSig.length = SIGN_BYTES ∧
    stream a.arrivals = serverPk ++ (serverSig ++ rest) ∧
    sodium.kxClientSessionKeys clientPk clientSk serverPk = some (rxKey, txKey) ∧
    sodium.verifyDetached serverSig (clientPk ++ serverPk) publicKey = true

/-- The attempt reaches a host, and the host proves its identity. -/
def Authentic (sodium : Sodium) (publicKey : Bytes) (a : Attempt) (fd : ℕ) (rxKey rest : Bytes) :
    Prop :=
  a.stopRequested = false ∧ connectToHost a.addresses = fd ∧
    Verified sodium publicKey a rxKey rest

/-- The attempt is followed by another one. -/
def Retries (a : Attempt) : Prop := a.stopRequested = false ∧ connectToHost a.addresses = -1

end SecureTcp

namespace SecureSession

variable {sodium : Sodium} {s : SecureSession} {a : SecureTcp.Attempt}
  {world : ℕ → SecureTcp.Attempt}

section Handshake

theorem performHandshake_of_verified {rxKey rest : Bytes}
    (h : Verified sodium s.publicKey a rxKey rest) :
    ∃ arrivals, s.performHandshake sodium a = (.ok arrivals, { s with rxKey := rxKey }) ∧
      stream arrivals = rest := by
  obtain ⟨clientPk, clientSk, serverPk, serverSig, txKey, hpair, hsent, hpk, hsig, hstream, hkeys,
    hverify⟩ := h
  obtain ⟨left, hread, hleft⟩ := doRecvExact_append hpk hstream
  obtain ⟨arrivals, hread', hrest⟩ := doRecvExact_append hsig hleft
  refine ⟨arrivals, ?_, hrest⟩
  simp only [performHandshake, hpair, hsent, Bool.not_true, Bool.false_eq_true, if_false, hread,
    hkeys, hread', hverify, if_true]

/-- A handshake succeeds only with a signature that verifies. -/
theorem verified_of_performHandshake {arrivals : List Arrival} {s' : SecureSession}
    (h : s.performHandshake sodium a = (.ok arrivals, s')) :
    ∃ rxKey, s' = { s with rxKey := rxKey } ∧
      Verified sodium s.publicKey a rxKey (stream arrivals) := by
  unfold performHandshake at h
  split at h
  · cases h
  · next clientPk clientSk hpair =>
    split at h
    · cases h
    · next hsent =>
      split at h
      · cases h
      · next serverPk left hread =>
        split at h
        · cases h
        · next rxKey txKey hkeys =>
          dsimp only at h
          split at h
          · cases h
          · next serverSig arrivals' hread' =>
            split at h
            · next hverify =>
              obtain ⟨hok, rfl⟩ := Prod.mk.inj h
              obtain rfl : arrivals' = arrivals := Except.ok.inj hok
              obtain ⟨hpk, hstream⟩ := stream_of_doRecvExact hread
              obtain ⟨hsig, hstream'⟩ := stream_of_doRecvExact hread'
              refine ⟨rxKey, rfl, clientPk, clientSk, serverPk, serverSig, txKey, hpair,
                by simpa using hsent, hpk, hsig, ?_, hkeys, hverify⟩
              rw [hstream, hstream']
            · cases h

/-- Whatever becomes of the handshake, only the key is stored. -/
theorem performHandshake_frame (sodium : Sodium) (s : SecureSession) (a : SecureTcp.Attempt) :
    ∃ rxKey, (s.performHandshake sodium a).2 = { s with rxKey := rxKey } := by
  unfold performHandshake
  split
  · exact ⟨s.rxKey, rfl⟩
  · split
    · exact ⟨s.rxKey, rfl⟩
    · split
      · exact ⟨s.rxKey, rfl⟩
      · split
        · exact ⟨s.rxKey, rfl⟩
        · next rxKey _ _ =>
          refine ⟨rxKey, ?_⟩
          dsimp only
          split
          · rfl
          · split <;> rfl

end Handshake

section Open

/-- What is put out between two attempts. -/
def waits (i : ℕ) : List Output :=
  [.err (retryMessage (i + 1) (calculateReconnectDelayMs i)),
    .sleepFor (calculateReconnectDelayMs i)]

theorem openLoop_retry {i : ℕ} (hi : i < MAX_RECONNECT_ATTEMPTS) (h : Retries (world i)) :
    s.openLoop sodium world (MAX_RECONNECT_ATTEMPTS - i) =
      { s.openLoop sodium world (MAX_RECONNECT_ATTEMPTS - (i + 1)) with
        output := waits i ++
          (s.openLoop sodium world (MAX_RECONNECT_ATTEMPTS - (i + 1))).output } := by
  obtain ⟨hstop, hfailed⟩ := h
  have hleft : MAX_RECONNECT_ATTEMPTS - i = MAX_RECONNECT_ATTEMPTS - (i + 1) + 1 := by omega
  have hcount : MAX_RECONNECT_ATTEMPTS - (MAX_RECONNECT_ATTEMPTS - (i + 1) + 1) = i := by omega
  rw [hleft, openLoop]
  simp only [hcount, hstop, hfailed, Bool.false_eq_true, if_false]
  rfl

/-- The attempts that only fail to connect come before the one that decides. -/
theorem openLoop_retries {k : ℕ} (hk : k ≤ MAX_RECONNECT_ATTEMPTS)
    (h : ∀ i < k, Retries (world i)) :
    s.openLoop sodium world MAX_RECONNECT_ATTEMPTS =
      { s.openLoop sodium world (MAX_RECONNECT_ATTEMPTS - k) with
        output := (List.range k).flatMap waits ++
          (s.openLoop sodium world (MAX_RECONNECT_ATTEMPTS - k)).output } := by
  induction k with
  | zero => rfl
  | succ k ih =>
    rw [ih (by omega) fun i hi => h i (by omega), openLoop_retry (by omega) (h k (by omega)),
      List.range_succ, List.flatMap_append, List.flatMap_singleton]
    simp only [List.append_assoc]

/-- One attempt, the first that does not only fail to connect, decides; or none is left. -/
theorem first_decides (world : ℕ → SecureTcp.Attempt) :
    (∃ k < MAX_RECONNECT_ATTEMPTS, (∀ i < k, Retries (world i)) ∧ ¬ Retries (world k)) ∨
      ∀ i < MAX_RECONNECT_ATTEMPTS, Retries (world i) := by
  by_cases hall : ∀ i < MAX_RECONNECT_ATTEMPTS, Retries (world i)
  · exact Or.inr hall
  · classical
    have hfirst : ∃ k, k < MAX_RECONNECT_ATTEMPTS ∧ ¬ Retries (world k) := by
      simpa using hall
    refine Or.inl ⟨Nat.find hfirst, (Nat.find_spec hfirst).1, ?_, (Nat.find_spec hfirst).2⟩
    rintro i hi
    by_contra hno
    exact Nat.find_min hfirst hi ⟨hi.trans (Nat.find_spec hfirst).1, hno⟩

theorem openLoop_authentic {k fd : ℕ} {rxKey rest : Bytes} (hk : k < MAX_RECONNECT_ATTEMPTS)
    (h : Authentic sodium s.publicKey (world k) fd rxKey rest) :
    ∃ arrivals, stream arrivals = rest ∧
      s.openLoop sodium world (MAX_RECONNECT_ATTEMPTS - k) =
        { result := true, arrivals,
          session := { s with transport := { s.transport with fd := fd }, rxKey := rxKey },
          output := [.out (ascii "[secure-tcp] Handshake complete - peer authenticated")] } := by
  obtain ⟨hstop, hfd, hv⟩ := h
  have hleft : MAX_RECONNECT_ATTEMPTS - k = MAX_RECONNECT_ATTEMPTS - (k + 1) + 1 := by omega
  have hcount : MAX_RECONNECT_ATTEMPTS - (MAX_RECONNECT_ATTEMPTS - (k + 1) + 1) = k := by omega
  obtain ⟨arrivals, hok, hrest⟩ := performHandshake_of_verified
    (s := { s with transport := { s.transport with fd := fd } }) hv
  refine ⟨arrivals, hrest, ?_⟩
  rw [hleft, openLoop]
  simp only [hcount, hstop, hfd, Bool.false_eq_true, if_false, hok]
  rw [if_neg (by omega), if_neg (by omega)]

/-- An attempt that decides opens the transport only with an authentic peer, and else leaves it
closed. -/
theorem openLoop_decided (sodium : Sodium) (s : SecureSession) {k : ℕ}
    (hk : k < MAX_RECONNECT_ATTEMPTS) (h : ¬ Retries (world k)) :
    (∃ fd rxKey rest, Authentic sodium s.publicKey (world k) fd rxKey rest) ∨
      (s.openLoop sodium world (MAX_RECONNECT_ATTEMPTS - k)).result = false ∧
        (s.transport.fd = -1 →
          (s.openLoop sodium world (MAX_RECONNECT_ATTEMPTS - k)).session.transport =
            s.transport) := by
  have hleft : MAX_RECONNECT_ATTEMPTS - k = MAX_RECONNECT_ATTEMPTS - (k + 1) + 1 := by omega
  have hcount : MAX_RECONNECT_ATTEMPTS - (MAX_RECONNECT_ATTEMPTS - (k + 1) + 1) = k := by omega
  rw [hleft, openLoop]
  simp only [hcount]
  by_cases hstop : (world k).stopRequested = true
  · rw [if_pos hstop]
    exact Or.inr ⟨rfl, fun _ => rfl⟩
  · rw [if_neg hstop]
    rcases connectToHost_range (world k).addresses with hrefused | hfailed | ⟨fd, hfd⟩
    · rw [if_pos hrefused]
      exact Or.inr ⟨rfl, fun _ => rfl⟩
    · exact absurd ⟨by simpa using hstop, hfailed⟩ h
    · rw [if_neg (by omega), if_neg (by omega)]
      cases hshake : ({ s with transport := { s.transport with
          fd := connectToHost (world k).addresses } } : SecureSession).performHandshake sodium
          (world k) with
      | mk result s' =>
        cases result with
        | error text =>
          obtain ⟨rxKey, hframe⟩ := performHandshake_frame sodium
            { s with transport := { s.transport with
              fd := connectToHost (world k).addresses } } (world k)
          rw [hshake] at hframe
          refine Or.inr ⟨rfl, fun hclosed => ?_⟩
          obtain rfl : s' = _ := hframe
          rw [← hclosed]
        | ok arrivals =>
          obtain ⟨rxKey, -, hv⟩ := verified_of_performHandshake hshake
          exact Or.inl ⟨fd, rxKey, stream arrivals, by simpa using hstop, hfd, hv⟩

theorem openTransport_fresh (hs : s.transport = {}) : s.openTransport sodium world =
    { s with transport := { opened := true } }.openLoop sodium world
      MAX_RECONNECT_ATTEMPTS := by
  rw [openTransport, hs]
  exact if_neg Bool.false_ne_true

/-- The peer is the first host that answers, and proves to be the one that is expected. -/
theorem openTransport_authentic (hs : s.transport = {}) {k fd : ℕ} {rxKey rest : Bytes}
    (hk : k < MAX_RECONNECT_ATTEMPTS) (hretry : ∀ i < k, Retries (world i))
    (h : Authentic sodium s.publicKey (world k) fd rxKey rest) :
    ∃ arrivals, stream arrivals = rest ∧
      s.openTransport sodium world =
        { result := true, arrivals,
          session := { s with transport := SecureTcpTransport.connected fd [], rxKey := rxKey },
          output := (List.range k).flatMap waits ++
            [.out (ascii "[secure-tcp] Handshake complete - peer authenticated")] } := by
  obtain ⟨arrivals, hrest, hlast⟩ := openLoop_authentic
    (s := { s with transport := { opened := true } }) hk h
  refine ⟨arrivals, hrest, ?_⟩
  rw [openTransport_fresh hs, openLoop_retries (Nat.le_of_lt hk) hretry, hlast]
  rfl

/-- Without such a peer the transport stays closed. -/
theorem openTransport_closed (hs : s.transport = {})
    (h : ∀ k < MAX_RECONNECT_ATTEMPTS, (∀ i < k, Retries (world i)) →
      ∀ fd rxKey rest, ¬ Authentic sodium s.publicKey (world k) fd rxKey rest) :
    (s.openTransport sodium world).result = false ∧
      (s.openTransport sodium world).session.transport = { opened := true } := by
  rw [openTransport_fresh hs]
  rcases first_decides world with ⟨k, hk, hretry, hlast⟩ | hall
  · rw [openLoop_retries (Nat.le_of_lt hk) hretry]
    rcases openLoop_decided sodium { s with transport := { opened := true } }
      hk hlast with ⟨fd, rxKey, rest, hauth⟩ | ⟨hresult, hclosed⟩
    · exact absurd hauth (h k hk hretry fd rxKey rest)
    · exact ⟨hresult, hclosed rfl⟩
  · rw [openLoop_retries (Nat.le_refl _) hall]
    exact ⟨rfl, rfl⟩

theorem openTransport_cases (sodium : Sodium) (world : ℕ → SecureTcp.Attempt)
    (hs : s.transport = {}) :
    (∃ k < MAX_RECONNECT_ATTEMPTS, (∀ i < k, Retries (world i)) ∧ ∃ fd : ℕ, ∃ rxKey rest,
      Authentic sodium s.publicKey (world k) fd rxKey rest ∧
        (s.openTransport sodium world).result = true ∧
        (s.openTransport sodium world).session =
          { s with transport := SecureTcpTransport.connected fd [], rxKey := rxKey } ∧
        stream (s.openTransport sodium world).arrivals = rest) ∨
      (∀ k < MAX_RECONNECT_ATTEMPTS, (∀ i < k, Retries (world i)) →
        ∀ fd rxKey rest, ¬ Authentic sodium s.publicKey (world k) fd rxKey rest) ∧
        (s.openTransport sodium world).result = false ∧
        (s.openTransport sodium world).session.transport = { opened := true } := by
  by_cases h : ∃ k < MAX_RECONNECT_ATTEMPTS, (∀ i < k, Retries (world i)) ∧
      ∃ fd rxKey rest, Authentic sodium s.publicKey (world k) fd rxKey rest
  · obtain ⟨k, hk, hretry, fd, rxKey, rest, hauth⟩ := h
    obtain ⟨arrivals, hrest, ho⟩ := openTransport_authentic hs hk hretry hauth
    rw [ho]
    exact Or.inl ⟨k, hk, hretry, fd, rxKey, rest, hauth, rfl, rfl, hrest⟩
  · have hno : ∀ k < MAX_RECONNECT_ATTEMPTS, (∀ i < k, Retries (world i)) →
        ∀ fd rxKey rest, ¬ Authentic sodium s.publicKey (world k) fd rxKey rest := by
      rintro k hk hretry fd rxKey rest hauth
      exact h ⟨k, hk, hretry, fd, rxKey, rest, hauth⟩
    exact Or.inr ⟨hno, openTransport_closed hs hno⟩

/-- `open` succeeds exactly if the first host that is reached is authentic; what it leaves in
the socket is what the peer has sent behind its signature. A transport that has not been opened
then stays useless. -/
theorem openTransport_iff (hs : s.transport = {}) :
    (∀ fd : ℕ, ∀ rxKey rest,
      ((s.openTransport sodium world).result = true ∧
          (s.openTransport sodium world).session =
            { s with transport := SecureTcpTransport.connected fd [], rxKey := rxKey } ∧
          stream (s.openTransport sodium world).arrivals = rest) ↔
        ∃ k < MAX_RECONNECT_ATTEMPTS, (∀ i < k, Retries (world i)) ∧
          Authentic sodium s.publicKey (world k) fd rxKey rest) ∧
    ((s.openTransport sodium world).result = true → ∃ fd : ℕ, ∃ rxKey,
      (s.openTransport sodium world).session =
        { s with transport := SecureTcpTransport.connected fd [], rxKey := rxKey }) ∧
    ((s.openTransport sodium world).result = false →
      (s.openTransport sodium world).session.transport = { opened := true }) := by
  rcases openTransport_cases sodium world hs with
    ⟨k, hk, hretry, fd, rxKey, rest, hauth, hresult, hopen, hrest⟩ | ⟨hno, hresult, hclosed⟩
  · rw [hresult, hopen, hrest]
    refine ⟨?_, fun _ => ⟨fd, rxKey, rfl⟩, by rintro ⟨⟩⟩
    rintro fd' rxKey' rest'
    constructor
    · rintro ⟨-, hsession, rfl⟩
      simp only [SecureSession.mk.injEq, true_and, SecureTcpTransport.connected,
        SecureTcpTransport.mk.injEq, Nat.cast_inj, and_true] at hsession
      obtain ⟨rfl, rfl⟩ := hsession
      exact ⟨k, hk, hretry, hauth⟩
    · rintro ⟨k', hk', hretry', hauth'⟩
      obtain ⟨arrivals', hrest', ho'⟩ := openTransport_authentic hs hk' hretry' hauth'
      rw [← hopen, ← hrest, ho']
      exact ⟨rfl, rfl, hrest'⟩
  · rw [hresult]
    refine ⟨?_, by rintro ⟨⟩, fun _ => hclosed⟩
    rintro fd rxKey rest
    constructor
    · rintro ⟨⟨⟩, -⟩
    · rintro ⟨k, hk, hretry, hauth⟩
      exact absurd hauth (hno k hk hretry fd rxKey rest)

/-- How long `open` sleeps, one attempt after the other. -/
def sleeps (out : List Output) : List ℕ :=
  out.filterMap fun | .sleepFor ms => some ms | _ => none

/-- The waits double from one second to ten, and there are at most ten of them. -/
theorem sleeps_backoff (s : SecureSession) (world : ℕ → SecureTcp.Attempt) {left : ℕ}
    (h : left ≤ MAX_RECONNECT_ATTEMPTS) :
    sleeps (s.openLoop sodium world left).output <+:
      (List.range' (MAX_RECONNECT_ATTEMPTS - left) left).map calculateReconnectDelayMs := by
  induction left with
  | zero => exact List.prefix_rfl
  | succ left ih =>
    have hnext : MAX_RECONNECT_ATTEMPTS - (left + 1) + 1 = MAX_RECONNECT_ATTEMPTS - left := by omega
    rw [List.range'_succ, List.map_cons, hnext, openLoop]
    dsimp only
    split
    · exact List.nil_prefix
    · split
      · exact List.nil_prefix
      · split
        · exact (List.prefix_cons_inj _).mpr (ih (by omega))
        · split <;> exact List.nil_prefix

end Open

section Delivery

open SecureTcpTransport

variable {box : SecretBox} {frames : List Frame} {script : List Polled}

theorem received_append (x y : List Polled) : received (x ++ y) = received x ++ received y := by
  induction x with
  | nil => rfl
  | cons polled x ih => cases polled <;> simp [received, ih]

theorem length_wire (frames : List Frame) :
    (wire box frames).length = (frames.map Frame.size).sum := by
  rw [wire, List.length_flatMap]
  simp only [Frame.length_sealed]

/-- Frames that leave room for a whole read fit in any reads. -/
theorem readsFit_of_short (hshort : ∀ f ∈ frames, f.plaintext.length ≤ 3073)
    (hw : received script = wire box frames) : ReadsFit frames script := by
  rintro before polled behind hsplit data rfl
  have hlen := congrArg List.length hw
  rw [length_wire, hsplit, received_append, List.length_append, received, List.length_append]
    at hlen
  have hpos := data.length_pos
  have hle := data.length_le
  have hsize : ∀ n ∈ frames.map Frame.size, n ≤ 3115 := by
    rintro n hn
    obtain ⟨f, hf, rfl⟩ := List.mem_map.mp hn
    have := hshort f hf
    simp only [Frame.size, SECRETBOX_NONCEBYTES, SECRETBOX_MACBYTES]
    omega
  have hlt : inProgress (frames.map Frame.size) (0 + (received before).length) < 3115 :=
    inProgress_lt hsize (by omega)
  simp only [MAX_LINE_LEN, SECRETBOX_NONCEBYTES, SECRETBOX_MACBYTES]
  omega

/-- From the first dial to the last line: an authentic peer's lines are all delivered, whatever
pieces its stream comes in. -/
theorem secure_delivery (hs : s.transport = {}) {k fd : ℕ} {rxKey rest later : Bytes}
    (hk : k < MAX_RECONNECT_ATTEMPTS) (hretry : ∀ i < k, Retries (world i))
    (h : Authentic sodium s.publicKey (world k) fd rxKey rest)
    (hwire : rest ++ later = wire (sodium.secretbox rxKey) frames)
    (hshort : ∀ f ∈ frames, f.plaintext.length ≤ 3073)
    (hgo : ∀ polled ∈ script, polled.goesOn = true)
    (hread : received script = stream (s.openTransport sodium world).arrivals ++ later) :
    let o := s.openTransport sodium world
    let lines := fun script =>
      readAll (sodium.secretbox o.session.rxKey) o.session.transport script
    o.result = true ∧ (lines script).1 = linesOf frames ∧
      (lines script).2.exhausted = false ∧
      ∀ more, (lines (script ++ .recvEnded :: more)).1 = linesOf frames := by
  obtain ⟨arrivals, hrest, ho⟩ := openTransport_authentic hs hk hretry h
  rw [ho] at hread ⊢
  rw [hrest, hwire] at hread
  exact ⟨rfl, delivers_of_readsFit hgo hread (readsFit_of_short hshort hread)⟩

end Delivery

section Calls

open SecureTcpTransport

/-- What the owner of the transport calls, with what the surroundings answer. -/
inductive Call
  | openTransport (world : ℕ → SecureTcp.Attempt)
  | nextLine (script : List Polled)

def call (sodium : Sodium) (s : SecureSession) : Call → SecureSession × List Bytes
  | .openTransport world => ((s.openTransport sodium world).session, [])
  | .nextLine script =>
    let (outcome, t, _) := nextLine (sodium.secretbox s.rxKey) s.transport script
    ({ s with transport := t }, match outcome with | .line text => [text] | _ => [])

def Call.opens : Call → Option (ℕ → SecureTcp.Attempt)
  | .openTransport world => some world
  | .nextLine _ => none

section Frame

variable {box : SecretBox} {t t' : SecureTcpTransport} {script script' : List Polled}
  {outcome : ReadOutcome}

/-- The connection is the same one. -/
def SameConnection (t t' : SecureTcpTransport) : Prop := t'.opened = t.opened ∧ t'.fd = t.fd

theorem SameConnection.trans {t'' : SecureTcpTransport} (h : SameConnection t t')
    (h' : SameConnection t' t'') : SameConnection t t'' :=
  ⟨h'.1.trans h.1, h'.2.trans h.2⟩

theorem same_tryDecrypt (box : SecretBox) (t : SecureTcpTransport) :
    SameConnection t (t.tryDecryptBufferedFrame box).2 := by
  unfold tryDecryptBufferedFrame
  split
  · exact ⟨rfl, rfl⟩
  · dsimp only
    split
    · exact ⟨rfl, rfl⟩
    · split <;> exact ⟨rfl, rfl⟩

theorem same_poll (t : SecureTcpTransport) (polled : Polled) :
    SameConnection t (t.pollRecvOrExhaust polled).2 := by
  unfold pollRecvOrExhaust
  split
  case h_6 => dsimp only; split <;> exact ⟨rfl, rfl⟩
  all_goals exact ⟨rfl, rfl⟩

theorem same_readEncryptedLine (box : SecretBox) (t : SecureTcpTransport) (script : List Polled) :
    SameConnection t (readEncryptedLine box t script).2.1 := by
  induction script generalizing t with
  | nil =>
    have hread := same_tryDecrypt box t
    rw [readEncryptedLine]
    split
    · next h => rwa [h] at hread
    · next h =>
      rw [h] at hread
      split <;> exact hread
  | cons polled script ih =>
    have hread := same_tryDecrypt box t
    rw [readEncryptedLine]
    split
    · next h => rwa [h] at hread
    · next u h =>
      rw [h] at hread
      split
      · exact hread
      · have hpoll := same_poll u polled
        dsimp only
        split
        · next h' =>
          rw [h'] at hpoll
          exact hread.trans hpoll
        · next v h' =>
          rw [h'] at hpoll
          exact (hread.trans hpoll).trans (ih v)

theorem same_of_read {u : SecureTcpTransport}
    (h : readEncryptedLine box t script = (outcome, u, script')) : SameConnection t u := by
  have hsame := same_readEncryptedLine box t script
  rwa [h] at hsame

theorem same_nextBuffered (t : SecureTcpTransport) (script : List Polled) :
    SameConnection t (nextBuffered box t script).2.1 := by
  fun_induction nextBuffered box t script with
  | case1 => exact ⟨rfl, rfl⟩
  | case2 t script hcut frame u script₁ hread ih => exact (same_of_read hread).trans ih
  | case3 t script hcut u script₁ hread =>
    have hsame : SameConnection t u := same_of_read hread
    exact hsame
  | case4 t script hcut u script₁ hread => exact same_of_read hread
  | case5 t script hcut u script₁ hread => exact same_of_read hread

theorem same_nextLine (box : SecretBox) (t : SecureTcpTransport) (script : List Polled) :
    SameConnection t (nextLine box t script).2.1 := by
  unfold nextLine
  split
  · exact ⟨rfl, rfl⟩
  · exact same_nextBuffered t script

end Frame

/-- A peer has been found authentic by the first call of `open`, and `s` holds its key. -/
def Trusted (sodium : Sodium) (publicKey : Bytes) (calls : List Call) (s : SecureSession) : Prop :=
  ∃ world, calls.findSome? Call.opens = some world ∧
    ∃ k < MAX_RECONNECT_ATTEMPTS, (∀ i < k, Retries (world i)) ∧
      ∃ fd rest, Authentic sodium publicKey (world k) fd s.rxKey rest

/-- Where a transport can stand after some calls. -/
def Reached (sodium : Sodium) (s₀ : SecureSession) (calls : List Call) (s : SecureSession) : Prop :=
  (calls.findSome? Call.opens = none ∧ s = s₀) ∨
    s.transport.opened = true ∧
      (s.transport.fd < 0 ∨ Trusted sodium s₀.publicKey calls s)

theorem Trusted.append {publicKey : Bytes} {calls : List Call} (later : List Call)
    (h : Trusted sodium publicKey calls s) : Trusted sodium publicKey (calls ++ later) s := by
  obtain ⟨world, hworld, h⟩ := h
  exact ⟨world, by rw [List.findSome?_append, hworld, Option.some_or], h⟩

theorem reached_step {s₀ : SecureSession} (hs : s₀.transport = {}) {calls : List Call} (c : Call)
    (h : Reached sodium s₀ calls s) : Reached sodium s₀ (calls ++ [c]) (call sodium s c).1 := by
  rcases h with ⟨hnone, rfl⟩ | ⟨hopened, hstate⟩
  · cases c with
    | openTransport world =>
      have hworld : (calls ++ [Call.openTransport world]).findSome? Call.opens = some world := by
        rw [List.findSome?_append, hnone]
        rfl
      rw [call]
      right
      rcases openTransport_cases sodium world hs with
        ⟨k, hk, hretry, fd, rxKey, rest, hauth, -, hopen, -⟩ | ⟨-, -, hclosed⟩
      · rw [hopen]
        exact ⟨rfl, Or.inr ⟨world, hworld, k, hk, hretry, fd, rest, hauth⟩⟩
      · rw [hclosed]
        exact ⟨rfl, Or.inl (by decide)⟩
    | nextLine script =>
      left
      constructor
      · rw [List.findSome?_append, hnone]
        rfl
      · rw [call, nextLine, hs, if_pos (by rfl), ← hs]
  · right
    cases c with
    | openTransport world =>
      have hsame : (s.openTransport sodium world).session = s := by
        rw [openTransport, if_pos hopened]
      rw [call, hsame]
      exact ⟨hopened, hstate.imp_right fun h => h.append _⟩
    | nextLine script =>
      have hsame := same_nextLine (sodium.secretbox s.rxKey) s.transport script
      refine ⟨hsame.1.trans hopened, ?_⟩
      rcases hstate with hfd | htrusted
      · exact Or.inl (by rw [call]; exact hsame.2 ▸ hfd)
      · exact Or.inr (htrusted.append _)

theorem reached_after (sodium : Sodium) (hs : s.transport = {}) (calls : List Call) :
    Reached sodium s calls (after (call sodium) s calls) := by
  induction calls using List.reverseRecOn with
  | nil => exact Or.inl ⟨rfl, rfl⟩
  | append_singleton calls c ih =>
    rw [after_concat]
    exact reached_step hs c ih

/-- In any order of calls, a line is returned only if the peer that the first `open` has found is
authentic, and it is opened with the key of that exchange. -/
theorem line_authentic (hs : s.transport = {}) {calls : List Call} {script : List Polled}
    {line : Bytes} (h : line ∈ (call sodium (after (call sodium) s calls) (.nextLine script)).2) :
    Trusted sodium s.publicKey calls (after (call sodium) s calls) := by
  have hreached := reached_after sodium hs calls
  rcases hreached with ⟨-, hfresh⟩ | ⟨-, hfd | htrusted⟩
  · rw [hfresh, call, nextLine, hs] at h
    simp at h
  · rw [call, nextLine, if_pos (by simp [hfd])] at h
    simp at h
  · exact htrusted

end Calls

section Bench

open SecureTcpTransport

/-- A signature is the signed text itself, under one identity. -/
def benchSodium : Sodium where
  kxClientSessionKeys clientPk _ serverPk := some (serverPk, clientPk)
  verifyDetached sig message publicKey := sig == message && publicKey == ascii "identity"
  secretbox _ := emptyTag

def benchSession : SecureSession where
  host := ascii "bridge.local"
  port := 3333
  publicKey := ascii "identity"

def benchClientPk : Bytes := List.replicate 32 1

def benchServerPk : Bytes := List.replicate 32 2

theorem two_le_maxLineLen : 2 ≤ MAX_LINE_LEN := by decide

def benchFrame : Frame := lettersFrame 2 two_le_maxLineLen

/-- What the peer sends: its key, its signature and a frame. -/
def benchStream : Bytes :=
  benchServerPk ++ (benchClientPk ++ benchServerPk) ++ benchFrame.sealed emptyTag

/-- No address answers the first attempt. At the second the peer's bytes come in three pieces, and
the last piece has the first ten bytes of the frame. -/
def benchWorld : ℕ → SecureTcp.Attempt
  | 0 => { addresses := [.failed, .noSocket], keypair := none, arrivals := [] }
  | _ =>
    { addresses := [.noSocket, .connected 5]
      keypair := some (benchClientPk, [])
      arrivals := [.arrived (benchStream.take 20), .selectFailed true,
        .arrived ((benchStream.drop 20).take 30), .arrived ((benchStream.drop 50).take 56)] }

def benchReads : List Polled := [.timeout false, .recv genuineRead]

theorem retries_bench : ∀ i < 1, Retries (benchWorld i) := by
  rintro i hi
  obtain rfl : i = 0 := by omega
  exact ⟨rfl, by decide⟩

theorem authentic_bench : Authentic benchSodium benchSession.publicKey (benchWorld 1) 5
    benchServerPk ((benchStream.drop 96).take 10) :=
  ⟨rfl, by decide, benchClientPk, [], benchServerPk, benchClientPk ++ benchServerPk, benchClientPk,
    rfl, rfl, by decide, by decide, by decide +kernel, rfl, by decide +kernel⟩

theorem openTransport_bench :
    (benchSession.openTransport benchSodium benchWorld).result = true ∧
      stream (benchSession.openTransport benchSodium benchWorld).arrivals =
        (benchStream.drop 96).take 10 := by
  have hfresh : benchSession.transport = {} := rfl
  obtain ⟨hiff, -⟩ := @openTransport_iff benchSodium benchSession benchWorld hfresh
  obtain ⟨hresult, -, hrest⟩ := (hiff 5 benchServerPk ((benchStream.drop 96).take 10)).mpr
    ⟨1, by decide, retries_bench, authentic_bench⟩
  exact ⟨hresult, hrest⟩

theorem secure_delivery_bench :
    (readAll emptyTag (connected 5 []) benchReads).1 = [[65, 65]] := by
  have hwire : (benchStream.drop 96).take 10 ++ benchStream.drop 106 =
      wire (benchSodium.secretbox benchServerPk) [benchFrame] := by decide +kernel
  have hshort : ∀ f ∈ [benchFrame], f.plaintext.length ≤ 3073 := by
    simp [benchFrame, lettersFrame]
  have hread : received benchReads =
      stream (benchSession.openTransport benchSodium benchWorld).arrivals ++
        benchStream.drop 106 := by decide +kernel
  have hfresh : benchSession.transport = {} := rfl
  obtain ⟨-, hlines, -⟩ := secure_delivery hfresh (by decide) retries_bench authentic_bench hwire
    hshort (by decide) hread
  exact hlines

theorem line_authentic_bench :
    Trusted benchSodium benchSession.publicKey [Call.openTransport benchWorld]
      (after (call benchSodium) benchSession [Call.openTransport benchWorld]) := by
  have hline : [65, 65] ∈ (call benchSodium (after (call benchSodium) benchSession
      [Call.openTransport benchWorld]) (.nextLine benchReads)).2 := by decide +kernel
  exact line_authentic rfl hline

end Bench

end SecureSession

end VehicleSpy.Pipeline
