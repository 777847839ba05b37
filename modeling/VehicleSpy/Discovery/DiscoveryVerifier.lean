import VehicleSpy.Discovery.DiscoveryPacket

/-! # The two verifiers of a discovery packet

The command line tool checks that a packet is fresh and that its signature is valid. The
phone's verifier checks the freshness only. The Ed25519 check is the library's; it returns
zero for a valid detached signature.
-/

namespace VehicleSpy.Discovery

open Text

section CommandLine

variable (crypto_sign_verify_detached : Bytes → Bytes → Bytes → ℤ)

/-- The library's verdict on the signature over the packet's payload. -/
def verifySignature (packet : DiscoveryPacket) (publicKey : Bytes) : Bool :=
  crypto_sign_verify_detached packet.signature packet.signedPayload publicKey = 0

def isTimestampFresh (packetTimestamp nowEpoch maxClockSkew : UInt64) : Bool :=
  if packetTimestamp > nowEpoch then
    let diff := packetTimestamp - nowEpoch
    diff ≤ maxClockSkew
  else
    let diff := nowEpoch - packetTimestamp
    diff ≤ maxClockSkew

def verify (packet : DiscoveryPacket) (publicKey : Bytes) (nowEpoch maxClockSkew : UInt64) : Bool :=
  if !isTimestampFresh packet.timestamp nowEpoch maxClockSkew then false
  else verifySignature crypto_sign_verify_detached packet publicKey

end CommandLine

section Phone

inductive DiscoveryVerificationError
  | unsupportedVersion
  | invalidSignature
  | untrustedDevice
  | staleTimestamp
  deriving DecidableEq, Repr

/-- The phone's addition of 64-bit values traps on overflow. -/
def checkedAdd (a b : UInt64) : Option UInt64 :=
  if a.toNat + b.toNat < 2 ^ 64 then some (a + b) else none

structure DiscoveryVerifier where
  publicKey : Option Bytes := none
  maxClockSkew : UInt64 := 300
  deriving DecidableEq, Repr

/-- No result is a trap. -/
def DiscoveryVerifier.verify (verifier : DiscoveryVerifier) (currentUnix : UInt64)
    (packet : DiscoveryPacket) : Option (Except DiscoveryVerificationError Unit) :=
  match verifier.publicKey with
  | none => some (.ok ())
  | some _ => do
    let latest ← checkedAdd currentUnix verifier.maxClockSkew
    if packet.timestamp > latest then return .error .staleTimestamp
    else do
      let expiry ← checkedAdd packet.timestamp verifier.maxClockSkew
      if expiry < currentUnix then return .error .staleTimestamp
      else return .ok ()

end Phone

/-- A clock reading from five minutes after the epoch on, below the signed range's end. -/
structure UnixTime where
  seconds : UInt64
  low : 300 ≤ seconds
  high : seconds < 0x8000000000000000
  deriving DecidableEq, Repr

section Agreement

variable {now : UnixTime} {packet : DiscoveryPacket}

theorem checkedAdd_eq {a b : UInt64} (h : a.toNat + b.toNat < 2 ^ 64) :
    ∃ c, checkedAdd a b = some c ∧ c.toNat = a.toNat + b.toNat := by
  refine ⟨a + b, if_pos h, ?_⟩
  rw [UInt64.toNat_add, Nat.mod_eq_of_lt h]

theorem isTimestampFresh_iff (t now : UInt64) :
    isTimestampFresh t now 300 = true ↔
      t.toNat ≤ now.toNat + 300 ∧ now.toNat ≤ t.toNat + 300 := by
  unfold isTimestampFresh
  have h300 : (300 : UInt64).toNat = 300 := rfl
  split
  · next h =>
    have hlt := UInt64.lt_iff_toNat_lt.mp h
    simp only [decide_eq_true_eq, UInt64.le_iff_toNat_le, h300,
      UInt64.toNat_sub_of_le _ _ (UInt64.le_of_lt h)]
    omega
  · next h =>
    have hle := UInt64.not_lt.mp h
    have hle' := UInt64.le_iff_toNat_le.mp hle
    simp only [decide_eq_true_eq, UInt64.le_iff_toNat_le, h300, UInt64.toNat_sub_of_le _ _ hle]
    omega

/-- The phone's verifier never traps in the range of clock readings, and accepts exactly the
fresh packets. -/
theorem verify_phone (key : Bytes) (now : UnixTime) (packet : DiscoveryPacket) :
    DiscoveryVerifier.verify { publicKey := some key } now.seconds packet =
      some (if isTimestampFresh packet.timestamp now.seconds 300 then .ok ()
        else .error .staleTimestamp) := by
  have hhigh := UInt64.lt_iff_toNat_lt.mp now.high
  have h300 : (300 : UInt64).toNat = 300 := rfl
  have hmax : (0x8000000000000000 : UInt64).toNat = 2 ^ 63 := rfl
  obtain ⟨latest, hl, hlv⟩ := checkedAdd_eq (a := now.seconds) (b := 300) (by omega)
  simp only [DiscoveryVerifier.verify, hl, Option.bind_eq_bind, Option.bind_some]
  by_cases hlate : packet.timestamp > latest
  · have hlt := UInt64.lt_iff_toNat_lt.mp hlate
    have hstale : isTimestampFresh packet.timestamp now.seconds 300 = false := by
      rw [Bool.eq_false_iff, ne_eq, isTimestampFresh_iff]
      omega
    simp [hlate, hstale]
  · have hle := UInt64.le_iff_toNat_le.mp (UInt64.not_lt.mp hlate)
    obtain ⟨expiry, he, hev⟩ := checkedAdd_eq (a := packet.timestamp) (b := 300) (by omega)
    simp only [if_neg hlate, he, Option.bind_some]
    by_cases hold : expiry < now.seconds
    · have hlt := UInt64.lt_iff_toNat_lt.mp hold
      have hstale : isTimestampFresh packet.timestamp now.seconds 300 = false := by
        rw [Bool.eq_false_iff, ne_eq, isTimestampFresh_iff]
        omega
      simp [hold, hstale]
    · have hge := UInt64.le_iff_toNat_le.mp (UInt64.not_lt.mp hold)
      have hfresh : isTimestampFresh packet.timestamp now.seconds 300 = true := by
        rw [isTimestampFresh_iff]
        omega
      simp [hold, hfresh]

end Agreement

end VehicleSpy.Discovery
