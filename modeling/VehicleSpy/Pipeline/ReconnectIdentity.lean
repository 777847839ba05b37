import VehicleSpy.Pipeline.ConnectHandshake
import VehicleSpy.Pipeline.HeloRoundTrip
import VehicleSpy.Pipeline.HuntingState

/-! # The device behind a reconnected transport

Discovery looks for the stored id, but no attempt to connect compares the id that the peer
presents, and each stores it. So the device stays the same exactly as long as every peer that
an attempt reaches presents the first one's id.
-/

namespace VehicleSpy.Pipeline.ReconnectIdentity

open Machine TCPTransport HuntState

open Text hiding trim

section Peer

variable (a : Attempt)

/-- An attempt comes as far as the HELO exchange. -/
def authenticated (elm327 : Bool) : Bool :=
  a.connects && a.recvTimeoutSet && a.noDelaySet && a.authSent && a.authReply != [] &&
    (findStr (ascii "OK") a.authReply).isSome && (!elm327 || a.elm327Init)

/-- The id in the peer's first acknowledgement behind its banner. -/
def presentedId : Option Bytes :=
  match readLineSkippingFrames [] a.recvs with
  | (none, _) => none
  | (some _, pending, recvs) => (readAck pending recvs).1.bind parseHeloAck

/-- The peer that an attempt completes a HELO exchange with. -/
def peer (elm327 : Bool) : Option Bytes :=
  if authenticated a elm327 && a.atiSent && a.heloSent then presentedId a else none

/-- What an attempt on a transport comes to: the id is stored if there is one, and nothing else
that a later attempt looks at changes. -/
structure Outcome (t : TCPTransport) (id : Option Bytes)
    (r : TCPTransport × Option (Bytes × List Received)) : Prop where
  peer : r.2.map Prod.fst = id
  deviceIdHex : r.1.deviceIdHex = (id.map deviceIdToHex).getD t.deviceIdHex
  adapterProtocol : r.1.adapterProtocol = t.adapterProtocol
  host : r.1.host = t.host

theorem sendHeloAndParseAck_fst (t : TCPTransport) :
    ∃ pending connected, (t.sendHeloAndParseAck a).1 =
      { t with pending := pending, connected := connected } := by
  unfold sendHeloAndParseAck
  repeat' split
  all_goals exact ⟨_, _, rfl⟩

theorem sendHeloAndParseAck_snd {t : TCPTransport} (ht : t.pending = []) :
    (t.sendHeloAndParseAck a).2.map Prod.fst =
      if a.atiSent && a.heloSent then presentedId a else none := by
  rw [sendHeloAndParseAck, presentedId, ht]
  cases a.atiSent
  · rfl
  · rcases readLineSkippingFrames [] a.recvs with ⟨_ | line, pending, recvs⟩
    · simp
    · cases a.heloSent
      · rfl
      · rcases hack : readAck pending recvs with ⟨_ | ack, rest, unread⟩
        · simp [hack]
        · cases hparse : parseHeloAck ack <;> simp [hack, hparse]

theorem performHeloHandshake_outcome {t : TCPTransport} (ht : t.pending = []) :
    Outcome t (if a.atiSent && a.heloSent then presentedId a else none)
      (t.performHeloHandshake a) := by
  rw [← sendHeloAndParseAck_snd a ht, performHeloHandshake]
  obtain ⟨pending, connected, hfst⟩ := sendHeloAndParseAck_fst a t
  rcases hsend : t.sendHeloAndParseAck a with ⟨t', _ | ⟨id, unread⟩⟩
  · obtain rfl : t' = { t with pending := pending, connected := connected } := by
      rw [← hfst, hsend]
    exact ⟨rfl, rfl, rfl, rfl⟩
  · obtain rfl : t' = { t with pending := pending, connected := connected } := by
      rw [← hfst, hsend]
    exact ⟨rfl, rfl, rfl, rfl⟩

theorem connectAndAuth_eq (t : TCPTransport) :
    t.connectAndAuth a =
      if authenticated a (t.adapterProtocol == ascii "elm327") then
        match { t with pending := [], connected := true }.performHeloHandshake a with
        | (t, none) => (t.closeConnection, none)
        | (t, some peer) => (t, some peer)
      else ({ t with pending := [], connected := false }, none) := by
  rw [connectAndAuth, authenticated]
  cases a.connects
  · rfl
  cases a.recvTimeoutSet
  · rfl
  cases a.noDelaySet
  · rfl
  cases a.authSent
  · rfl
  cases a.authReply with
  | nil => rfl
  | cons c reply =>
    cases findStr (ascii "OK") (c :: reply) with
    | none => rfl
    | some i =>
      by_cases helm : t.adapterProtocol = ascii "elm327"
      · rw [beq_iff_eq.mpr helm]
        simp only [closeConnection, helm, decide_true]
        cases a.elm327Init <;> rfl
      · rw [beq_eq_false_iff_ne.mpr helm]
        simp only [closeConnection, helm, decide_false]
        rfl

/-- The outcome of an attempt depends on the transport only by its protocol. -/
theorem connectAndAuth_outcome (t : TCPTransport) :
    Outcome t (peer a (t.adapterProtocol == ascii "elm327")) (t.connectAndAuth a) := by
  have h := performHeloHandshake_outcome a (t := { t with pending := [], connected := true }) rfl
  rw [connectAndAuth_eq, peer]
  cases authenticated a (t.adapterProtocol == ascii "elm327")
  · exact ⟨rfl, rfl, rfl, rfl⟩
  · rw [Bool.true_and, if_pos rfl]
    rcases hhelo : ({ t with pending := [], connected := true } : TCPTransport).performHeloHandshake
      a with ⟨t', _ | p⟩
    · rw [hhelo] at h
      exact ⟨h.peer, h.deviceIdHex, h.adapterProtocol, h.host⟩
    · rw [hhelo] at h
      exact ⟨h.peer, h.deviceIdHex, h.adapterProtocol, h.host⟩

end Peer

section Identity

/-- The rule by which discovery knows a device: its id, or the first four bytes of it. -/
def SameDevice (D id : Bytes) : Prop := id = D ∨ id.take 4 = D.take 4

/-- The attempt that a step makes. -/
def attempt (s : HuntState) : HuntEvent → Option Attempt
  | .retry stop a =>
    match s.phase with
    | .rapid _ => if s.discoveryFound || stop then none else some a
    | .backoff retryCount =>
      if s.discoveryFound || stop || MAX_RETRIES ≤ retryCount then none else some a
    | _ => none
  | .settle a =>
    match s.phase with
    | .settling none => if s.discoveryFound && s.discoveredIp != [] then some a else none
    | _ => none
  | _ => none

/-- The peer that a step connects to, if it makes an attempt, is the device. -/
def PresentsOnly (D : Bytes) (s : HuntState) (e : HuntEvent) : Prop :=
  ∀ a ∈ attempt s e, ∀ id ∈ peer a (s.transport.adapterProtocol == ascii "elm327"), id = D

/-- The connections that the hunt reports are to the device, and its id stays the stored one. -/
structure IdentityKept (D : Bytes) (s : HuntState) (w : List HuntEvent) : Prop where
  resumed : ∀ id, .resumed id ∈ emitted step s w → SameDevice D id
  matching : ∀ u, u <+: w → (after step s u).transport.deviceIdHex = deviceIdToHex D

theorem deviceIdToHex_injective : Function.Injective deviceIdToHex := by
  intro id id' h
  have hl : id.length = id'.length := by
    have := congrArg List.length h
    rw [HeloRoundTrip.length_deviceIdToHex, HeloRoundTrip.length_deviceIdToHex] at this
    omega
  have hid := HeloRoundTrip.mapM_parseHexByte id
  rw [h, hl, HeloRoundTrip.mapM_parseHexByte id'] at hid
  exact (Option.some.inj hid).symm

theorem take_deviceIdToHex (id : Bytes) (k : ℕ) :
    (deviceIdToHex id).take (2 * k) = deviceIdToHex (id.take k) := by
  induction k generalizing id with
  | zero => rfl
  | succ k ih =>
    cases id with
    | nil => rfl
    | cons b id =>
      have hcons : ∀ v, deviceIdToHex (b :: v) = hexPad 2 b.toNat ++ deviceIdToHex v :=
        fun v => rfl
      rw [List.take_succ_cons, hcons, hcons, ← ih id, HeloRoundTrip.hexPad_byte, Nat.mul_succ]
      rfl

/-- Discovery follows the rule, at other addresses than the present one. -/
theorem isTargetDevice_iff {t : TCPTransport} {D : Bytes} (hid : t.deviceIdHex = deviceIdToHex D)
    (hD : D ≠ []) (device : DiscoveredDevice) :
    t.isTargetDevice device = true ↔ SameDevice D device.deviceId ∧ device.address ≠ t.host := by
  have hne : deviceIdToHex D ≠ [] := fun h => hD (deviceIdToHex_injective h)
  have htake : ∀ id, (deviceIdToHex id).take 8 = deviceIdToHex (id.take 4) := fun id =>
    take_deviceIdToHex id 4
  simp only [isTargetDevice, hid, htake, Bool.and_eq_true, Bool.or_eq_true, beq_iff_eq,
    bne_iff_ne, ne_eq, hne, false_or, deviceIdToHex_injective.eq_iff, SameDevice]

variable (s : HuntState) (e : HuntEvent)

/-- The peer that a step connects to. -/
def reached : Option Bytes :=
  (attempt s e).bind fun a => peer a (s.transport.adapterProtocol == ascii "elm327")

/-- What a step does to the device: a connection stores the peer's id, and the hunt reports it, at
once or when the threads have met. -/
structure Moved (s : HuntState) (id : Option Bytes) (r : HuntState × List HuntOutput) : Prop where
  deviceIdHex : r.1.transport.deviceIdHex = (id.map deviceIdToHex).getD s.transport.deviceIdHex
  settling : ∀ d, r.1.phase = .settling (some d) → s.phase = .settling (some d) ∨ id = some d
  resumed : ∀ d, .resumed d ∈ r.2 → s.phase = .settling (some d) ∨ id = some d

variable {s}

theorem moved_still {s' : HuntState} {os : List HuntOutput}
    (hid : s'.transport.deviceIdHex = s.transport.deviceIdHex)
    (hphase : ∀ d, s'.phase = .settling (some d) → s.phase = .settling (some d))
    (hos : ∀ d, .resumed d ∉ os) : Moved s none (s', os) :=
  ⟨hid, fun d hd => Or.inl (hphase d hd), fun d hd => absurd hd (hos d)⟩

theorem moved_attemptReconnect (a : Attempt) {next : HuntPhase}
    (hnext : ∀ d, next ≠ .settling (some d)) :
    Moved s (peer a (s.transport.adapterProtocol == ascii "elm327"))
      (s.attemptReconnect a next, []) := by
  have h := connectAndAuth_outcome a s.transport
  rw [attemptReconnect]
  rcases hconnect : s.transport.connectAndAuth a with ⟨t, _ | ⟨id, unread⟩⟩
  · rw [hconnect] at h
    exact ⟨h.deviceIdHex, fun d hd => absurd hd (hnext d), by simp⟩
  · rw [hconnect] at h
    refine ⟨h.deviceIdHex, ?_, by simp⟩
    rintro d hd
    obtain rfl : id = d := by simpa using hd
    exact Or.inr h.peer.symm

theorem moved_finalizeHunt (a : Attempt) {reconnected : Option Bytes}
    (hphase : s.phase = .settling reconnected) :
    Moved s (reached s (.settle a)) (s.finalizeHunt reconnected a) := by
  cases reconnected with
  | some id =>
    have hnone : reached s (.settle a) = none := by simp [reached, attempt, hphase]
    rw [hnone]
    refine ⟨rfl, by simp [finalizeHunt], ?_⟩
    rintro d hd
    obtain rfl : d = id := by simpa [finalizeHunt] using hd
    exact Or.inl hphase
  | none =>
    rw [finalizeHunt]
    split
    · next hfound =>
      have hreached : reached s (.settle a) =
          peer a (s.transport.adapterProtocol == ascii "elm327") := by
        simp [reached, attempt, hphase, hfound]
      have h := connectAndAuth_outcome a { s.transport with host := s.discoveredIp }
      rw [hreached]
      rcases hconnect :
          ({ s.transport with host := s.discoveredIp } : TCPTransport).connectAndAuth a
        with ⟨t, _ | ⟨id, unread⟩⟩
      · rw [hconnect] at h
        exact ⟨h.deviceIdHex, by simp, by simp⟩
      · rw [hconnect] at h
        refine ⟨h.deviceIdHex, by simp, ?_⟩
        rintro d hd
        obtain rfl : d = id := by simpa using hd
        exact Or.inr h.peer.symm
    · next hfound =>
      have hnone : reached s (.settle a) = none := by simp [reached, attempt, hphase, hfound]
      rw [hnone]
      exact moved_still rfl (by simp) (by simp)

theorem moved_retry (stop : Bool) (a : Attempt) :
    Moved s (reached s (.retry stop a)) (step s (.retry stop a)) := by
  rcases hphase : s.phase with _ | n | n | r | _
  · simpa [step, reached, attempt, hphase] using moved_still (s := s) rfl (fun _ => id) (by simp)
  · rw [step, reached, attempt]
    simp only [hphase]
    by_cases hfound : s.discoveryFound || stop
    · rw [rapidReconnect, if_pos hfound, if_pos hfound]
      exact moved_still rfl (by simp) (by simp)
    · rw [rapidReconnect, if_neg hfound, if_neg hfound]
      exact moved_attemptReconnect a fun d => by split <;> simp
  · rw [step, reached, attempt]
    simp only [hphase]
    by_cases hover : s.discoveryFound || stop || MAX_RETRIES ≤ n
    · rw [backoffThenAttemptReconnect, if_pos hover, if_pos hover]
      exact moved_still rfl (by simp) (by simp)
    · rw [backoffThenAttemptReconnect, if_neg hover, if_neg hover]
      exact moved_attemptReconnect a (by simp)
  · simpa [step, reached, attempt, hphase] using moved_still (s := s) rfl (fun _ => id) (by simp)
  · simpa [step, reached, attempt, hphase] using moved_still (s := s) rfl (fun _ => id) (by simp)

theorem moved_step : Moved s (reached s e) (step s e) := by
  cases e with
  | recv data =>
    rw [step]
    split
    · exact moved_still rfl (fun _ => id) (by simp)
    · exact moved_still rfl (fun _ => id) (by simp)
  | readFailure kind stop =>
    rw [step]
    split
    · cases kind
      case recvFailure =>
        cases stop
        · exact moved_still rfl (by simp [onReadFailure, handleReadFailure, enterHuntingState])
            (by simp)
        · exact moved_still rfl (by simp [onReadFailure, handleReadFailure]) (by simp)
      all_goals exact moved_still rfl (by simp [onReadFailure]) (by simp)
    · exact moved_still rfl (fun _ => id) (by simp)
  | poll devices =>
    rw [step, runDiscovery]
    split
    · split
      · exact moved_still rfl (fun _ => id) (by simp)
      · exact moved_still rfl (fun _ => id) (by simp)
    · exact moved_still rfl (fun _ => id) (by simp)
  | retry stop a => exact moved_retry stop a
  | settle a =>
    rcases hphase : s.phase with _ | n | n | r | _
    case settling => simpa only [step, hphase] using moved_finalizeHunt a hphase
    all_goals
      simpa [step, reached, attempt, hphase] using moved_still (s := s) rfl (fun _ => id) (by simp)

/-- The stored id is the device's, also that of a connection not yet reported. -/
structure Holding (D : Bytes) (s : HuntState) : Prop where
  deviceIdHex : s.transport.deviceIdHex = deviceIdToHex D
  settling : ∀ d, s.phase = .settling (some d) → d = D

theorem presentsOnly_iff {D : Bytes} : PresentsOnly D s e ↔ ∀ id ∈ reached s e, id = D := by
  simp only [PresentsOnly, reached, Option.mem_def, Option.bind_eq_some_iff]
  constructor
  · rintro h id ⟨a, ha, hid⟩
    exact h a ha id hid
  · intro h a ha id hid
    exact h id ⟨a, ha, hid⟩

theorem Holding.step {D : Bytes} (h : Holding D s) (honly : PresentsOnly D s e) :
    Holding D (step s e).1 ∧ ∀ d, .resumed d ∈ (step s e).2 → d = D := by
  have hm := moved_step (s := s) e
  rw [presentsOnly_iff] at honly
  refine ⟨⟨?_, ?_⟩, ?_⟩
  · rw [hm.deviceIdHex]
    rcases hr : reached s e with _ | id
    · exact h.deviceIdHex
    · rw [honly id hr]
      rfl
  · rintro d hd
    exact (hm.settling d hd).elim (h.settling d) (honly d)
  · rintro d hd
    exact (hm.resumed d hd).elim (h.settling d) (honly d)

/-- After the first acknowledgement the device stays the same exactly if every peer that an attempt
completes the exchange with presents its id. -/
theorem identityKept_iff {t t₀ : TCPTransport} {a₀ : Attempt} {D : Bytes} {unread : List Received}
    (h : t₀.connectAndAuth a₀ = (t, some (D, unread))) (w : List HuntEvent) :
    IdentityKept D { transport := t } w ↔
      Guarded HuntState.step (PresentsOnly D) { transport := t } w := by
  have hid : t.deviceIdHex = deviceIdToHex D := by
    have ho := connectAndAuth_outcome a₀ t₀
    rw [h] at ho
    rw [ho.deviceIdHex, ← ho.peer]
    rfl
  constructor
  · intro hkept
    rw [guarded_iff_forall]
    rintro u e v rfl
    rw [presentsOnly_iff]
    intro id hreached
    have hbefore := hkept.matching u (List.prefix_append _ _)
    have hafter := hkept.matching (u ++ [e]) ⟨v, by simp⟩
    rw [after_concat, (moved_step e).deviceIdHex, Option.mem_def.mp hreached] at hafter
    exact deviceIdToHex_injective hafter
  · intro hguard
    have hrun : ∀ u, Guarded HuntState.step (PresentsOnly D) { transport := t } u →
        Holding D (after HuntState.step { transport := t } u) ∧
          ∀ d, .resumed d ∈ emitted HuntState.step { transport := t } u → d = D :=
      guarded_induction (I := fun _ s os => Holding D s ∧ ∀ d, HuntOutput.resumed d ∈ os → d = D)
        ⟨⟨hid, by simp⟩, by simp⟩ fun u s os e ⟨hold, hos⟩ honly => by
          obtain ⟨hold', hnew⟩ := hold.step e honly
          refine ⟨hold', ?_⟩
          rintro d hd
          exact (List.mem_append.mp hd).elim (hos d) (hnew d)
    constructor
    · rintro d hd
      exact Or.inl ((hrun w hguard).2 d hd)
    · rintro u ⟨v, rfl⟩
      exact (hrun u (guarded_append.mp hguard).1).1.deviceIdHex

end Identity

section Bench

open ConnectHandshake

/-- The transport on the bench bridge. -/
def onBridge : TCPTransport where
  host := ascii "192.168.4.1"
  connected := true
  pending := wire benchStream.after
  deviceIdHex := deviceIdToHex benchStream.deviceId

/-- Another board that answers at the same address. -/
def otherBoard : Attempt where
  authReply := ascii "OK" ++ [CR, LF]
  recvs := [read (benchStream.banner ++ [CR, CR, PROMPT]),
    read (ascii "ACK DEVICE=ESP32-CAN-Bridge FIRMWARE=0.3.0 DEVICEID=" ++
      ascii "A0764E113F0400000000000000000002" ++ [CR, CR, CR, PROMPT])]

/-- The connection drops, and the first retry succeeds. -/
def dropAndRetry (a : Attempt) : List HuntEvent :=
  [.readFailure .recvFailure false, .retry false a, .settle a]

theorem connected_onBridge :
    TCPTransport.connectAndAuth { host := ascii "192.168.4.1" } replyReads.attempt =
      (onBridge, some (benchStream.deviceId, [])) := by decide +kernel

theorem identityKept_iff_sameBoard :
    IdentityKept benchStream.deviceId { transport := onBridge } (dropAndRetry replyReads.attempt) ↔
      Guarded HuntState.step (PresentsOnly benchStream.deviceId) { transport := onBridge }
        (dropAndRetry replyReads.attempt) :=
  identityKept_iff connected_onBridge _

/-- The hunt goes on with whatever board has the address by then. -/
theorem not_identityKept_otherBoard :
    TCPTransport.connectAndAuth { host := ascii "192.168.4.1" } replyReads.attempt =
        (onBridge, some (benchStream.deviceId, [])) ∧
      ¬ IdentityKept benchStream.deviceId { transport := onBridge } (dropAndRetry otherBoard) := by
  refine ⟨connected_onBridge, fun h => ?_⟩
  have hresumed := h.resumed [0xA0, 0x76, 0x4E, 0x11, 0x3F, 4, 0, 0, 0, 0, 0, 0, 0, 0, 0, 2]
    (by decide +kernel)
  rcases hresumed with h | h
  · exact absurd h (by decide +kernel)
  · exact absurd h (by decide +kernel)

end Bench

end VehicleSpy.Pipeline.ReconnectIdentity
