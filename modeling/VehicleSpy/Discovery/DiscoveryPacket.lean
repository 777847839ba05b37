import Mathlib.Algebra.Group.Nat.Defs
import VehicleSpy.Text.Bytes

/-! # The discovery packet

The broadcast by which a bridge announces itself: a header of 42 bytes, big-endian, and
the Ed25519 signature over it.
-/

namespace VehicleSpy.Discovery

open Text

def MAGIC : Bytes := [0x56, 0x53, 0x49, 0x4D]
def VERSION : Byte := 1
def PACKET_TYPE_DISCOVERY : Byte := 1
def DEVICE_ID_LEN : ℕ := 16
def NONCE_LEN : ℕ := 8
def SIGNATURE_LEN : ℕ := 64
def HEADER_LEN : ℕ := 42

/-- The fields of a packet, each of its own length. -/
structure DiscoveryPacket where
  deviceId : Bytes
  nonce : Bytes
  timestamp : UInt64
  canPort : UInt16
  otaPort : UInt16
  signature : Bytes
  length_deviceId : deviceId.length = DEVICE_ID_LEN
  length_nonce : nonce.length = NONCE_LEN
  length_signature : signature.length = SIGNATURE_LEN
  deriving DecidableEq, Repr

/-- The given number of low bytes of a value, the highest first. -/
def writeBigEndian (count value : ℕ) : Bytes :=
  ((List.range count).map fun i => (value / 256 ^ i).toUInt8).reverse

/-- The bytes that the signature covers. -/
def DiscoveryPacket.signedPayload (packet : DiscoveryPacket) : Bytes :=
  MAGIC ++ [VERSION, PACKET_TYPE_DISCOVERY] ++ packet.deviceId ++ packet.nonce ++
    writeBigEndian 8 packet.timestamp.toNat ++ writeBigEndian 2 packet.canPort.toNat ++
    writeBigEndian 2 packet.otaPort.toNat

@[simp] theorem length_writeBigEndian (count value : ℕ) :
    (writeBigEndian count value).length = count := by
  simp [writeBigEndian]

theorem length_signedPayload (packet : DiscoveryPacket) :
    packet.signedPayload.length = HEADER_LEN := by
  simp only [DiscoveryPacket.signedPayload, List.length_append, length_writeBigEndian,
    packet.length_deviceId, packet.length_nonce]
  rfl

end VehicleSpy.Discovery
