import VehicleSpy.Discovery.DiscoveryVerifier
import VehicleSpy.Discovery.PacketCodec

/-! # The phone's codec

The phone parses and writes packets with code of its own. It agrees with the host on every buffer
but those of a device without a clock: a timestamp of zero is an error to the phone alone.
-/

namespace VehicleSpy.Discovery

open Text Machine

inductive DiscoveryPacketError
  | invalidLength
  | unsupportedVersion
  | unsupportedPacketType
  | invalidHeader
  | invalidTimestamp
  | invalidPort
  | invalidSignature
  deriving DecidableEq, Repr

namespace Phone

/-- `UInt16(bigEndianBytes:)` -/
def uint16OfBytes (data : Bytes) : UInt16 :=
  (data.getD 0 0).toUInt16 <<< 8 ||| (data.getD 1 0).toUInt16

/-- `UInt64(bigEndianBytes:)` -/
def uint64OfBytes (data : Bytes) : UInt64 :=
  let b0 := (data.getD 0 0).toUInt64
  let b1 := (data.getD 1 0).toUInt64
  let b2 := (data.getD 2 0).toUInt64
  let b3 := (data.getD 3 0).toUInt64
  let b4 := (data.getD 4 0).toUInt64
  let b5 := (data.getD 5 0).toUInt64
  let b6 := (data.getD 6 0).toUInt64
  let b7 := (data.getD 7 0).toUInt64
  b0 <<< 56 ||| b1 <<< 48 ||| b2 <<< 40 ||| b3 <<< 32 ||| b4 <<< 24 ||| b5 <<< 16 ||| b6 <<< 8 |||
    b7

/-- The bytes are those of the numbers' big-endian representation in memory. -/
def signedPayload (packet : DiscoveryPacket) : Bytes :=
  let payload := MAGIC
  let payload := payload ++ [VERSION]
  let payload := payload ++ [PACKET_TYPE_DISCOVERY]
  let payload := payload ++ packet.deviceId
  let payload := payload ++ packet.nonce
  let payload := payload ++ toBigEndian 8 packet.timestamp.toNat
  let payload := payload ++ toBigEndian 2 packet.canPort.toNat
  payload ++ toBigEndian 2 packet.otaPort.toNat

def data (packet : DiscoveryPacket) : Bytes := signedPayload packet ++ packet.signature

def parse (data : Bytes) : Except DiscoveryPacketError DiscoveryPacket :=
  if hlen : data.length < PACKET_LEN then .error .invalidLength
  else if data.take 4 ≠ MAGIC then .error .invalidHeader
  else if data.getD 4 0 ≠ VERSION then .error .unsupportedVersion
  else if data.getD 5 0 ≠ PACKET_TYPE_DISCOVERY then .error .unsupportedPacketType
  else
    let timestamp := uint64OfBytes (slice data 30 8)
    if timestamp = 0 then .error .invalidTimestamp
    else
      let canPort := uint16OfBytes (slice data 38 2)
      if canPort = 0 then .error .invalidPort
      else
        .ok
          { deviceId := slice data 6 DEVICE_ID_LEN
            nonce := slice data 22 NONCE_LEN
            timestamp
            canPort
            otaPort := uint16OfBytes (slice data 40 2)
            signature := slice data HEADER_LEN SIGNATURE_LEN
            length_deviceId := length_slice (le_trans (by decide) (Nat.le_of_not_lt hlen))
            length_nonce := length_slice (le_trans (by decide) (Nat.le_of_not_lt hlen))
            length_signature := length_slice (Nat.le_of_not_lt hlen) }

end Phone

structure DiscoveredESP32 where
  deviceId : Bytes
  address : Bytes
  port : UInt16 := 3335
  canPort : UInt16
  timestamp : UInt64
  deriving DecidableEq, Repr

inductive DecodeError
  | packet (e : DiscoveryPacketError)
  | verification (e : DiscoveryVerificationError)
  deriving DecidableEq, Repr

/-- No result is a trap of the verifier. -/
def DiscoveryDecoder.decode (verifier : DiscoveryVerifier) (currentUnix : UInt64)
    (data remoteAddress : Bytes) : Option (Except DecodeError DiscoveredESP32) :=
  match Phone.parse data with
  | .error e => some (.error (.packet e))
  | .ok packet =>
    (verifier.verify currentUnix packet).map fun
      | .error e => .error (.verification e)
      | .ok () =>
        .ok
          { deviceId := packet.deviceId
            address := remoteAddress
            canPort := packet.canPort
            timestamp := packet.timestamp }

structure DiscoveredDevice where
  deviceId : Bytes
  address : Bytes
  canPort : UInt16
  otaPort : UInt16
  timestamp : UInt64
  deriving DecidableEq, Repr

/-- A datagram that is longer than the buffer is cut off. -/
def UDPDiscovery.tryReceive (datagram addrStr : Bytes) : Option DiscoveredDevice :=
  (parse (datagram.take (PACKET_LEN * 2))).map fun packet =>
    { deviceId := packet.deviceId
      address := addrStr
      canPort := packet.canPort
      otaPort := packet.otaPort
      timestamp := packet.timestamp }

/-- Phone and host parse a datagram alike, write the packet alike, and take it alike where no key is
set. -/
structure HeardAlike (data : Bytes) : Prop where
  parsed : ∀ packet, Phone.parse data = .ok packet ↔ parse data = some packet
  written : ∀ packet, parse data = some packet →
    Phone.signedPayload packet = packet.signedPayload ∧ Phone.data packet = packet.toBytes
  taken : ∀ maxClockSkew currentUnix address,
    (∃ device, DiscoveryDecoder.decode ⟨none, maxClockSkew⟩ currentUnix data address =
      some (.ok device)) ↔ ∃ device, UDPDiscovery.tryReceive data address = some device

/-- A packet whose timestamp is zero. -/
def Clockless (data : Bytes) : Prop := WellFormed data ∧ slice data 30 8 = List.replicate 8 0

section Prefix

variable {data : Bytes} {packet : DiscoveryPacket}

/-- A packet is parsed just from the buffers that begin with it. -/
theorem parse_eq_some_iff_slices :
    parse data = some packet ↔ packet.canPort ≠ 0 ∧ packet.toBytes <+: data := by
  constructor
  · intro h
    obtain ⟨hdata, hlen, rfl⟩ := parse_eq_some_iff.mp h
    refine ⟨fun hzero => hdata.canPort ?_, ?_⟩
    · exact (readBigEndian16_eq_zero_iff (le_trans (by decide) hlen)).mp hzero
    · rw [toBytes_fieldsOf hdata]
      exact List.take_prefix _ _
  · rintro ⟨hport, rest, rfl⟩
    exact parse_toBytes hport rest

/-- What a longer buffer holds behind the packet does not count. -/
theorem parse_take {n : ℕ} (h : PACKET_LEN ≤ n) : parse (data.take n) = parse data := by
  apply Option.ext
  intro packet
  rw [parse_eq_some_iff_slices, parse_eq_some_iff_slices]
  refine and_congr_right fun _ => ⟨fun hp => hp.trans (List.take_prefix _ _), fun hp => ?_⟩
  exact List.prefix_take_iff.mpr ⟨hp, (length_toBytes packet).trans_le h⟩

end Prefix

section Words

variable {data : Bytes}

theorem uint16OfBytes_slice {start : ℕ} (h : start + 2 ≤ data.length) :
    Phone.uint16OfBytes (slice data start 2) = readBigEndian16 (data.drop start) := by
  have hlen : 2 ≤ (data.drop start).length := by
    rw [List.length_drop]
    omega
  rw [slice]
  generalize data.drop start = src at hlen ⊢
  rcases src with _ | ⟨hi, _ | ⟨lo, tail⟩⟩
  · simp at hlen
  · simp at hlen
  · rfl

theorem uint64OfBytes_slice (h : 38 ≤ data.length) :
    Phone.uint64OfBytes (slice data 30 8) = readBigEndian64 (data.drop 30) := by
  have hlen : 8 ≤ (data.drop 30).length := by
    rw [List.length_drop]
    omega
  rw [slice]
  have hshift {x b c : UInt64} (hb : b < 64) (hc : c < 64) (hbc : b + c < 64) :
      (x <<< b) <<< c = x <<< (b + c) := (UInt64.shiftLeft_add hb hc hbc).symm
  generalize data.drop 30 = src at hlen ⊢
  rcases src with _ | ⟨b0, _ | ⟨b1, _ | ⟨b2, _ | ⟨b3, _ | ⟨b4, _ | ⟨b5, _ | ⟨b6, _ |
    ⟨b7, tail⟩⟩⟩⟩⟩⟩⟩⟩
  · simp at hlen
  · simp at hlen
  · simp at hlen
  · simp at hlen
  · simp at hlen
  · simp at hlen
  · simp at hlen
  · simp at hlen
  · simp [Phone.uint64OfBytes, readBigEndian64, UInt64.shiftLeft_or, hshift]

theorem uint64OfBytes_eq_zero_iff (h : 38 ≤ data.length) :
    Phone.uint64OfBytes (slice data 30 8) = 0 ↔ slice data 30 8 = List.replicate 8 0 := by
  have hlen : (slice data 30 8).length = 8 := length_slice h
  rw [uint64OfBytes_slice h, ← UInt64.toNat_inj, readBigEndian64_toNat]
  refine ofBigEndian_eq_zero_iff.trans ?_
  rw [← slice, hlen]
  rfl

end Words

section Agreement

variable {data : Bytes} {packet : DiscoveryPacket}

/-- The fields of a buffer have the same values to the phone. -/
theorem parse_phone_of_wellFormed (h : WellFormed data) : Phone.parse data =
    if slice data 30 8 = List.replicate 8 0 then .error .invalidTimestamp
    else .ok (fieldsOf data h.length_ge) := by
  have hlen : 106 ≤ data.length := h.length_ge
  have hport : readBigEndian16 (data.drop 38) ≠ 0 := fun hzero =>
    h.canPort ((readBigEndian16_eq_zero_iff (by omega)).mp hzero)
  have hclockLen : 38 ≤ data.length := by omega
  have hzero := uint64OfBytes_eq_zero_iff hclockLen
  have hcan := @uint16OfBytes_slice data 38 (by omega)
  have hota := @uint16OfBytes_slice data 40 (by omega)
  unfold Phone.parse
  rw [dif_neg (Nat.not_lt.mpr h.length_ge), if_neg (not_not.mpr h.magic),
    if_neg (not_not.mpr h.version), if_neg (not_not.mpr h.packetType)]
  dsimp only
  by_cases hclock : slice data 30 8 = List.replicate 8 0
  · rw [if_pos (hzero.mpr hclock), if_pos hclock]
  · rw [if_neg (fun h => hclock (hzero.mp h)), if_neg hclock, if_neg (hcan ▸ hport)]
    simp only [uint64OfBytes_slice hclockLen, hcan, hota, fieldsOf]

theorem wellFormed_of_parse_phone (h : Phone.parse data = .ok packet) : WellFormed data := by
  unfold Phone.parse at h
  split at h
  · cases h
  · next hlen =>
    have hge : 106 ≤ data.length := Nat.le_of_not_lt hlen
    split at h
    · cases h
    · next hmagic =>
      split at h
      · cases h
      · next hversion =>
        split at h
        · cases h
        · next htype =>
          dsimp only at h
          split at h
          · cases h
          · split at h
            · cases h
            · next hport =>
              refine ⟨hge, not_not.mp hmagic, not_not.mp hversion, not_not.mp htype,
                fun hzero => hport ?_⟩
              rw [uint16OfBytes_slice (by omega)]
              exact (readBigEndian16_eq_zero_iff (by omega)).mpr hzero

/-- The phone refuses what the host refuses, and the packets without a timestamp. -/
theorem parse_phone_eq_ok_iff : Phone.parse data = .ok packet ↔
    parse data = some packet ∧ slice data 30 8 ≠ List.replicate 8 0 := by
  constructor
  · intro h
    have hdata := wellFormed_of_parse_phone h
    rw [parse_phone_of_wellFormed hdata] at h
    split at h
    · cases h
    · next hclock =>
      obtain rfl := Except.ok.inj h
      exact ⟨parse_of_wellFormed hdata, hclock⟩
  · rintro ⟨h, hclock⟩
    obtain ⟨hdata, _, rfl⟩ := parse_eq_some_iff.mp h
    rw [parse_phone_of_wellFormed hdata, if_neg hclock]

theorem signedPayload_phone (packet : DiscoveryPacket) :
    Phone.signedPayload packet = packet.signedPayload := by
  simp only [Phone.signedPayload, DiscoveryPacket.signedPayload, writeBigEndian_eq,
    List.append_assoc, List.cons_append, List.nil_append]

theorem data_phone (packet : DiscoveryPacket) : Phone.data packet = packet.toBytes := by
  rw [Phone.data, signedPayload_phone, toBytes_eq]

/-- Without a key the phone takes what it can parse. -/
theorem decode_unsigned_iff (maxClockSkew currentUnix : UInt64) (data address : Bytes) :
    (∃ device, DiscoveryDecoder.decode ⟨none, maxClockSkew⟩ currentUnix data address =
      some (.ok device)) ↔ ∃ packet, Phone.parse data = .ok packet := by
  unfold DiscoveryDecoder.decode
  cases Phone.parse data with
  | error e => simp
  | ok packet => simp [DiscoveryVerifier.verify]

theorem tryReceive_iff (data address : Bytes) :
    (∃ device, UDPDiscovery.tryReceive data address = some device) ↔
      ∃ packet, parse data = some packet := by
  rw [UDPDiscovery.tryReceive, parse_take (by decide)]
  cases parse data with
  | none => simp
  | some packet => simp

/-- Phone and host hear the same datagrams but those of a device without a clock. -/
theorem heardAlike_iff (data : Bytes) : HeardAlike data ↔ ¬ Clockless data := by
  constructor
  · rintro h ⟨hdata, hclock⟩
    have hparsed := (h.parsed _).mpr (parse_of_wellFormed hdata)
    exact (parse_phone_eq_ok_iff.mp hparsed).2 hclock
  · intro h
    have hparsed : ∀ packet, Phone.parse data = .ok packet ↔ parse data = some packet := by
      intro packet
      rw [parse_phone_eq_ok_iff]
      refine and_iff_left_of_imp fun hparse hclock => h ⟨?_, hclock⟩
      exact (parse_eq_some_iff.mp hparse).1
    refine ⟨hparsed, fun packet _ => ⟨signedPayload_phone packet, data_phone packet⟩, ?_⟩
    rintro maxClockSkew currentUnix address
    rw [decode_unsigned_iff, tryReceive_iff]
    exact exists_congr hparsed

/-- What the firmware sends is clockless just when its clock reads zero. -/
theorem clockless_build_iff {buffer deviceId signature : Bytes} {tcpPort : UInt32}
    (hbuffer : buffer.length = PACKET_LEN) (hid : deviceId.length = DEVICE_ID_LEN)
    (hsig : signature.length = SIGNATURE_LEN) (hport : tcpPort.toUInt16 ≠ 0) (otaPort : UInt16)
    (timestamp : UInt64) (nonce : UInt32) :
    Clockless (signPacket (buildDiscoveryPacket buffer deviceId tcpPort otaPort timestamp nonce)
      signature) ↔ timestamp = 0 := by
  rw [signPacket_build hbuffer hid hsig, Clockless]
  have hwell := @wellFormed_toBytes
    (announced deviceId tcpPort otaPort timestamp nonce signature hid hsig) hport []
  have htime := (slices_toBytes
    (announced deviceId tcpPort otaPort timestamp nonce signature hid hsig) []).2.2.1
  rw [List.append_nil] at hwell htime
  rw [and_iff_right hwell, htime]
  constructor
  · intro hzero
    have hvalue : ofBigEndian (toBigEndian 8 timestamp.toNat) = timestamp.toNat :=
      ofBigEndian_toBigEndian_of_lt timestamp.toNat_lt
    rw [show toBigEndian 8 timestamp.toNat = List.replicate 8 0 from hzero] at hvalue
    exact UInt64.toNat_inj.mp hvalue.symm
  · rintro rfl
    have hzero : toBigEndian 8 0 = List.replicate 8 0 := by decide
    exact hzero

/-- The broadcast of a device that has not set its clock: the host hears it, the phone does not. -/
theorem not_heardAlike : ¬ HeardAlike (signPacket (buildDiscoveryPacket (List.replicate 106 0)
    (List.replicate 16 7) 3333 80 0 5000) (List.replicate 64 0)) := by
  intro h
  have hclock := (@clockless_build_iff (List.replicate 106 0) (List.replicate 16 7)
    (List.replicate 64 0) 3333 rfl rfl rfl (by decide) 80 0 5000).mpr rfl
  have hparsed := (h.parsed _).mpr (parse_of_wellFormed hclock.1)
  exact (parse_phone_eq_ok_iff.mp hparsed).2 hclock.2

end Agreement

end VehicleSpy.Discovery
