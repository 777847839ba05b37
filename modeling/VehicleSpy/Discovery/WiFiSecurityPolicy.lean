import VehicleSpy.Machine.Run
import VehicleSpy.Text.Numbers
import VehicleSpy.Discovery.DiscoveryVerifier

/-! # Which devices the phone connects to

The policy keeps a verification state for each device id, under the id's hexadecimal
spelling. A packet is verified for a device that is named apart from it, and what the
phone's verifier checks of it is its age.
-/

namespace VehicleSpy.Discovery

open Text Machine

inductive WiFiSecurityPolicyError | deviceNotVerified | noPublicKeyConfigured
  deriving DecidableEq, Repr

inductive DeviceVerificationState | unverified | verified | rejected | userTrusted
  deriving DecidableEq, Repr

/-- A byte as two lower-case digits. -/
def hexByte (b : Byte) : Bytes := (hexPad 2 b.toNat).map tolower

def hexString (data : Bytes) : Bytes := data.flatMap hexByte

structure WiFiSecurityPolicy where
  publicKey : Option Bytes := none
  deviceStates : Bytes → Option DeviceVerificationState := fun _ => none
  refuseUnverifiedByDefault : Bool := true

namespace WiFiSecurityPolicy

def verificationState (policy : WiFiSecurityPolicy) (deviceId : Bytes) : DeviceVerificationState :=
  (policy.deviceStates (hexString deviceId)).getD .unverified

/-- Each marking writes one state under the id's spelling. -/
def mark (state : DeviceVerificationState) (policy : WiFiSecurityPolicy) (deviceId : Bytes) :
    WiFiSecurityPolicy :=
  { policy with deviceStates := fun key =>
      if key = hexString deviceId then some state else policy.deviceStates key }

def markVerified : WiFiSecurityPolicy → Bytes → WiFiSecurityPolicy := mark .verified
def markRejected : WiFiSecurityPolicy → Bytes → WiFiSecurityPolicy := mark .rejected
def markUserTrusted : WiFiSecurityPolicy → Bytes → WiFiSecurityPolicy := mark .userTrusted

def allowConnection (policy : WiFiSecurityPolicy) (discovered : Bytes) :
    Except WiFiSecurityPolicyError Unit :=
  match policy.verificationState discovered with
  | .verified | .userTrusted => .ok ()
  | .rejected => .error .deviceNotVerified
  | .unverified =>
    if policy.refuseUnverifiedByDefault then .error .deviceNotVerified else .ok ()

/-- The verdict on a packet is filed under the device it was discovered for; no result is a
trap of the verifier. -/
def verifyAndUpdate (policy : WiFiSecurityPolicy) (currentUnix : UInt64) (discovered : Bytes)
    (packet : DiscoveryPacket) : Option (WiFiSecurityPolicy × Bool) :=
  match policy.publicKey with
  | none => some (policy, false)
  | some publicKey =>
    (DiscoveryVerifier.verify { publicKey := some publicKey } currentUnix packet).map fun
      | .ok () => (policy.markVerified discovered, true)
      | .error _ => (policy.markRejected discovered, false)

end WiFiSecurityPolicy

inductive PolicyOp
  | verifyAndUpdate (now : UnixTime) (discovered : Bytes) (packet : DiscoveryPacket)
  | markRejected (deviceId : Bytes)
  | markUserTrusted (deviceId : Bytes)
  deriving DecidableEq, Repr

namespace WiFiSecurityPolicy

/-- A trap leaves nothing to go on with; `verify_phone` excludes it. -/
def step (policy : WiFiSecurityPolicy) : PolicyOp → WiFiSecurityPolicy × List Bool
  | .verifyAndUpdate now discovered packet =>
    match policy.verifyAndUpdate now.seconds discovered packet with
    | some (policy, accepted) => (policy, [accepted])
    | none => (policy, [])
  | .markRejected deviceId => (policy.markRejected deviceId, [])
  | .markUserTrusted deviceId => (policy.markUserTrusted deviceId, [])

/-- A refusing policy with a key and without device states. -/
def strict (key : Bytes) : WiFiSecurityPolicy := { publicKey := some key }

/-- The policy after a sequence of operations. -/
def reached (key : Bytes) (ops : List PolicyOp) : WiFiSecurityPolicy := after step (strict key) ops

end WiFiSecurityPolicy

section HexString

theorem alnumVal_tolower (c : Byte) : alnumVal (tolower c) = alnumVal c := by
  revert c
  exact forall_byte (by decide +kernel)

theorem numValue_hexByte (b : Byte) : numValue 16 (hexByte b) = b.toNat := by
  have hlower : ∀ s : Bytes, numValue 16 (s.map tolower) = numValue 16 s := by
    intro s
    simp only [numValue, List.foldl_map, alnumVal_tolower]
  rw [hexByte, hlower, numValue_hexPad]

theorem length_hexByte (b : Byte) : (hexByte b).length = 2 := by
  rw [hexByte, List.length_map, length_hexPad_of_lt (by decide) b.toNat_lt]

theorem hexByte_injective : Function.Injective hexByte := by
  intro a b h
  have hv := congrArg (numValue 16) h
  rw [numValue_hexByte, numValue_hexByte] at hv
  exact UInt8.toNat_inj.mp hv

/-- Two ids with one spelling are one id. -/
theorem hexString_injective : Function.Injective hexString := by
  intro s t h
  induction s generalizing t with
  | nil =>
    cases t with
    | nil => rfl
    | cons b t =>
      have hl := congrArg List.length h
      simp only [hexString, List.flatMap_nil, List.flatMap_cons, List.length_append,
        length_hexByte, List.length_nil] at hl
      omega
  | cons a s ih =>
    cases t with
    | nil =>
      have hl := congrArg List.length h
      simp only [hexString, List.flatMap_nil, List.flatMap_cons, List.length_append,
        length_hexByte, List.length_nil] at hl
      omega
    | cons b t =>
      simp only [hexString, List.flatMap_cons] at h
      obtain ⟨hab, hst⟩ := List.append_inj h (by rw [length_hexByte, length_hexByte])
      rw [hexByte_injective hab, ih hst]

end HexString

namespace WiFiSecurityPolicy

variable {policy : WiFiSecurityPolicy} {state : DeviceVerificationState} {id d key : Bytes}

theorem verificationState_mark (state : DeviceVerificationState) (policy : WiFiSecurityPolicy)
    (d id : Bytes) : (mark state policy d).verificationState id =
      if id = d then state else policy.verificationState id := by
  simp only [verificationState, mark, hexString_injective.eq_iff]
  split <;> rfl

/-- A refusing policy lets a device through that is verified or that the user trusts. -/
theorem allowConnection_iff (h : policy.refuseUnverifiedByDefault = true) :
    policy.allowConnection id = .ok () ↔
      policy.verificationState id = .verified ∨ policy.verificationState id = .userTrusted := by
  unfold allowConnection
  cases policy.verificationState id <;> simp [h]

/-- A verification files the packet's freshness under the device it was discovered for. -/
theorem step_verifyAndUpdate (h : policy.publicKey = some key) (now : UnixTime) (d : Bytes)
    (packet : DiscoveryPacket) : (policy.step (.verifyAndUpdate now d packet)).1 =
      mark (if isTimestampFresh packet.timestamp now.seconds 300 then .verified else .rejected)
        policy d := by
  simp only [step, verifyAndUpdate, h, verify_phone, Option.map_some]
  cases isTimestampFresh packet.timestamp now.seconds 300 <;> rfl

@[simp] theorem reached_concat (key : Bytes) (ops : List PolicyOp) (op : PolicyOp) :
    reached key (ops ++ [op]) = ((reached key ops).step op).1 :=
  after_concat step (strict key) ops op

/-- The key and the refusal are never changed. -/
theorem reached_strict (key : Bytes) (ops : List PolicyOp) :
    (reached key ops).publicKey = some key ∧
      (reached key ops).refuseUnverifiedByDefault = true := by
  refine after_invariant step (P := fun p => p.publicKey = some key ∧
    p.refuseUnverifiedByDefault = true) ⟨rfl, rfl⟩ ?_ ops
  intro policy op h
  cases op with
  | verifyAndUpdate now d packet =>
    rw [step_verifyAndUpdate h.1]
    exact h
  | markRejected deviceId => exact h
  | markUserTrusted deviceId => exact h

section Run

variable (crypto : Bytes → Bytes → Bytes → ℤ) (key : Bytes)

/-- The user trusted the id, or a processed packet that carries it had a valid signature. -/
def Vouched (ops : List PolicyOp) (id : Bytes) : Prop :=
  .markUserTrusted id ∈ ops ∨ ∃ now d packet, .verifyAndUpdate now d packet ∈ ops ∧
    packet.deviceId = id ∧ verifySignature crypto packet key = true

/-- The phone accepts the packets that the command line tool accepts, and lets through, after
any part of the operations, only ids that are vouched for. -/
structure TrustsSignatures (ops : List PolicyOp) : Prop where
  agrees : ∀ now d packet, .verifyAndUpdate now d packet ∈ ops →
    (DiscoveryVerifier.verify { publicKey := some key } now.seconds packet = some (.ok ()) ↔
      verify crypto packet key now.seconds 300 = true)
  allows : ∀ u v id, ops = u ++ v → (reached key u).allowConnection id = .ok () →
    Vouched crypto key u id

/-- Every fresh packet has a valid signature, and it carries the id that it was discovered for
or that id is vouched for already. -/
def Backed (ops : List PolicyOp) : Prop :=
  ∀ u now d packet v, ops = u ++ .verifyAndUpdate now d packet :: v →
    isTimestampFresh packet.timestamp now.seconds 300 = true →
    verifySignature crypto packet key = true ∧ (packet.deviceId = d ∨ Vouched crypto key u d)

variable {crypto} {ops u : List PolicyOp}

theorem Vouched.append (h : Vouched crypto key u id) (v : List PolicyOp) :
    Vouched crypto key (u ++ v) id := by
  rcases h with h | ⟨now, d, packet, hm, hd⟩
  · exact Or.inl (List.mem_append_left v h)
  · exact Or.inr ⟨now, d, packet, List.mem_append_left v hm, hd⟩

theorem accepts_iff (now : UnixTime) (packet : DiscoveryPacket) :
    DiscoveryVerifier.verify { publicKey := some key } now.seconds packet = some (.ok ()) ↔
      isTimestampFresh packet.timestamp now.seconds 300 = true := by
  rw [verify_phone]
  cases isTimestampFresh packet.timestamp now.seconds 300 <;> simp

theorem allowed_iff (ops : List PolicyOp) (id : Bytes) :
    (reached key ops).allowConnection id = .ok () ↔
      (reached key ops).verificationState id = .verified ∨
        (reached key ops).verificationState id = .userTrusted :=
  allowConnection_iff (reached_strict key ops).2

/-- A fresh packet makes the device it was discovered for one that is let through. -/
theorem allowed_of_fresh {now : UnixTime} {packet : DiscoveryPacket}
    (hf : isTimestampFresh packet.timestamp now.seconds 300 = true) :
    (reached key (u ++ [.verifyAndUpdate now d packet])).allowConnection d = .ok () := by
  rw [allowed_iff, reached_concat, step_verifyAndUpdate (reached_strict key u).1,
    verificationState_mark, if_pos rfl, if_pos hf]
  exact Or.inl rfl

/-- Of backed operations, only vouched ids are let through. -/
theorem vouched_of_backed (hb : Backed crypto key ops)
    (h : (reached key ops).allowConnection id = .ok ()) : Vouched crypto key ops id := by
  induction ops using List.reverseRecOn with
  | nil =>
    rw [allowed_iff] at h
    simp [reached, verificationState, strict] at h
  | append_singleton ops op ih =>
    have hbefore : Backed crypto key ops := by
      rintro u now d packet v rfl
      exact hb u now d packet (v ++ [op]) (by simp)
    have hkept (hk : (reached key ops).verificationState id =
        (reached key (ops ++ [op])).verificationState id) :
        Vouched crypto key (ops ++ [op]) id := by
      rw [allowed_iff, ← hk, ← allowed_iff] at h
      exact (ih hbefore h).append key [op]
    cases op with
    | verifyAndUpdate now d packet =>
      have hstate := step_verifyAndUpdate (reached_strict key ops).1 now d packet
      by_cases hid : id = d
      · subst hid
        have hfresh : isTimestampFresh packet.timestamp now.seconds 300 = true := by
          by_contra hf
          rw [allowed_iff, reached_concat, hstate, verificationState_mark,
            if_pos rfl, if_neg hf] at h
          simp at h
        obtain ⟨hs, hv⟩ := hb ops now id packet [] rfl hfresh
        rcases hv with hp | hv
        · exact Or.inr ⟨now, id, packet, by simp, hp, hs⟩
        · exact hv.append key _
      · apply hkept
        rw [reached_concat, hstate, verificationState_mark, if_neg hid]
    | markRejected deviceId =>
      by_cases hid : id = deviceId
      · rw [allowed_iff, reached_concat, step, markRejected,
          verificationState_mark, if_pos hid] at h
        simp at h
      · apply hkept
        rw [reached_concat, step, markRejected, verificationState_mark,
          if_neg hid]
    | markUserTrusted deviceId =>
      by_cases hid : id = deviceId
      · subst hid
        exact Or.inl (by simp)
      · apply hkept
        rw [reached_concat, step, markUserTrusted,
          verificationState_mark, if_neg hid]

/-- The phone trusts only what a signature proves exactly if every fresh packet is backed. -/
theorem trustsSignatures_iff : TrustsSignatures crypto key ops ↔ Backed crypto key ops := by
  constructor
  · rintro h u now d packet v rfl hf
    have hv := (h.agrees now d packet (by simp)).mp ((accepts_iff key now packet).mpr hf)
    have hs : verifySignature crypto packet key = true := by
      simpa [verify, hf] using hv
    refine ⟨hs, ?_⟩
    rcases h.allows (u ++ [.verifyAndUpdate now d packet]) v d (by simp) (allowed_of_fresh key hf)
      with ht | ⟨now', d', packet', hm, hid, hs'⟩
    · exact Or.inr (Or.inl (by simpa using ht))
    · rcases List.mem_append.mp hm with hm | hm
      · exact Or.inr (Or.inr ⟨now', d', packet', hm, hid, hs'⟩)
      · obtain ⟨-, -, rfl⟩ := PolicyOp.verifyAndUpdate.inj (List.mem_singleton.mp hm)
        exact Or.inl hid
  · intro hb
    constructor
    · intro now d packet hm
      obtain ⟨u, v, rfl⟩ := List.append_of_mem hm
      rw [accepts_iff, verify]
      cases hf : isTimestampFresh packet.timestamp now.seconds 300 with
      | false => simp
      | true => simp [(hb u now d packet v rfl hf).1]
    · rintro u v id rfl h
      refine vouched_of_backed key ?_ h
      rintro u now d packet v' rfl
      exact hb u now d packet (v' ++ v) (by simp)

end Run

section Bench

/-- A packet with the current time and no signature. -/
def forged : DiscoveryPacket where
  deviceId := List.replicate 16 7
  nonce := List.replicate 8 0
  timestamp := 1700000000
  canPort := 3333
  otaPort := 3334
  signature := List.replicate 64 0
  length_deviceId := rfl
  length_nonce := rfl
  length_signature := rfl

def noon : UnixTime := ⟨1700000000, by decide, by decide⟩

/-- A library that finds no signature valid, as it does with the zeroed one. -/
def findsInvalid : Bytes → Bytes → Bytes → ℤ := fun _ _ _ => -1

theorem not_trustsSignatures_forged :
    ¬ TrustsSignatures findsInvalid (List.replicate 32 1)
      [.verifyAndUpdate noon (List.replicate 16 7) forged] := by
  intro h
  have hb := (h.agrees noon _ forged (List.mem_singleton_self _)).mp (by decide)
  exact absurd hb (by decide)

end Bench

end WiFiSecurityPolicy

end VehicleSpy.Discovery
