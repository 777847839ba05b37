import VehicleSpy.Discovery.DiscoveryPacket
import VehicleSpy.Machine.BigEndian

/-! # Writing and parsing a discovery packet

The firmware lays a packet out with its own offsets. The host parses it, and writes it again for
the signature check. Both write the concatenation of the fields, and the parser takes it apart.
-/

namespace VehicleSpy.Discovery

open Text Machine

def PACKET_LEN : ℕ := HEADER_LEN + SIGNATURE_LEN

/-- Some bytes of a buffer from an offset on. -/
def slice (data : Bytes) (start count : ℕ) : Bytes := (data.drop start).take count

/-- Bytes copied into a buffer at an offset. -/
def store (buffer : Bytes) (start : ℕ) (bytes : Bytes) : Bytes :=
  buffer.take start ++ bytes ++ buffer.drop (start + bytes.length)

/-- The loop that writes the low bytes of a word from the last to the first. -/
def storeBigEndian (buffer : Bytes) (start : ℕ) : ℕ → UInt64 → Bytes
  | 0, _ => buffer
  | i + 1, value => storeBigEndian (store buffer (start + i) [value.toUInt8]) start i (value >>> 8)

section Firmware

/-- The bytes of a word as they lie in the memory of the device. -/
def nativeBytes (value : UInt32) : Bytes :=
  [value.toUInt8, (value >>> 8).toUInt8, (value >>> 16).toUInt8, (value >>> 24).toUInt8]

def buildDiscoveryPacket (packet deviceId : Bytes) (tcpPort : UInt32) (otaPort : UInt16)
    (timestamp : UInt64) (nonce : UInt32) : Bytes :=
  let packet := store packet 0 [0x56, 0x53, 0x49, 0x4D]
  let packet := store packet 4 [1]
  let packet := store packet 5 [1]
  let packet := store packet 6 (deviceId.take 16)
  let packet := store packet 22 (nativeBytes nonce)
  let packet := store packet 26 (List.replicate 4 0)
  let packet := storeBigEndian packet 30 8 timestamp
  let packet := store packet 38 [((tcpPort >>> 8) &&& 0xFF).toUInt8, (tcpPort &&& 0xFF).toUInt8]
  let packet := store packet 40 [((otaPort >>> 8) &&& 0xFF).toUInt8, (otaPort &&& 0xFF).toUInt8]
  store packet 42 (List.replicate 64 0)

/-- A signer writes its signature behind the header. -/
def signPacket (packet signature : Bytes) : Bytes := store packet 42 signature

end Firmware

section Host

def bigEndian16 (value : UInt16) : Bytes :=
  [((value >>> 8) &&& 0xFF).toUInt8, (value &&& 0xFF).toUInt8]

def DiscoveryPacket.serializeHeader (packet : DiscoveryPacket) (out : Bytes) : Bytes :=
  let out := store out 0 MAGIC
  let out := store out 4 [VERSION]
  let out := store out 5 [PACKET_TYPE_DISCOVERY]
  let out := store out 6 packet.deviceId
  let out := store out 22 packet.nonce
  let out := storeBigEndian out 30 8 packet.timestamp
  let out := store out 38 (bigEndian16 packet.canPort)
  store out 40 (bigEndian16 packet.otaPort)

def DiscoveryPacket.serialize (packet : DiscoveryPacket) (out : Bytes) : Bytes :=
  store (packet.serializeHeader out) HEADER_LEN packet.signature

def DiscoveryPacket.toBytes (packet : DiscoveryPacket) : Bytes :=
  packet.serialize (List.replicate PACKET_LEN 0)

def readBigEndian16 (src : Bytes) : UInt16 :=
  (src.getD 0 0).toUInt16 <<< 8 ||| (src.getD 1 0).toUInt16

def readBigEndian64 (src : Bytes) : UInt64 :=
  (src.take 8).foldl (fun value b => value <<< 8 ||| b.toUInt64) 0

theorem length_slice {data : Bytes} {start count : ℕ} (h : start + count ≤ data.length) :
    (slice data start count).length = count := by
  rw [slice, List.length_take, List.length_drop]
  omega

/-- The packet of a buffer that is long enough. -/
def fieldsOf (data : Bytes) (h : PACKET_LEN ≤ data.length) : DiscoveryPacket where
  deviceId := slice data 6 DEVICE_ID_LEN
  nonce := slice data 22 NONCE_LEN
  timestamp := readBigEndian64 (data.drop 30)
  canPort := readBigEndian16 (data.drop 38)
  otaPort := readBigEndian16 (data.drop 40)
  signature := slice data HEADER_LEN SIGNATURE_LEN
  length_deviceId := length_slice (le_trans (by decide) h)
  length_nonce := length_slice (le_trans (by decide) h)
  length_signature := length_slice h

def parse (data : Bytes) : Option DiscoveryPacket :=
  if h : data.length < PACKET_LEN then none
  else if data.take 4 ≠ MAGIC then none
  else if data.getD 4 0 ≠ VERSION then none
  else if data.getD 5 0 ≠ PACKET_TYPE_DISCOVERY then none
  else if readBigEndian16 (data.drop 38) = 0 then none
  else some (fieldsOf data (Nat.le_of_not_lt h))

end Host

/-- A buffer that holds a packet: long enough, its constants in place, its CAN port not zero. -/
structure WellFormed (data : Bytes) : Prop where
  length_ge : PACKET_LEN ≤ data.length
  magic : data.take 4 = MAGIC
  version : data.getD 4 0 = VERSION
  packetType : data.getD 5 0 = PACKET_TYPE_DISCOVERY
  canPort : slice data 38 2 ≠ [0, 0]

section Buffer

variable {buffer written bytes data packet : Bytes} {start count : ℕ}

theorem store_store {xs ys : Bytes} (h : start + xs.length ≤ buffer.length) :
    store (store buffer (start + xs.length) ys) start xs = store buffer start (xs ++ ys) := by
  have hlen : (buffer.take (start + xs.length)).length = start + xs.length := by
    rw [List.length_take, min_eq_left h]
  have htake : (store buffer (start + xs.length) ys).take start = buffer.take start := by
    rw [store, List.append_assoc, List.take_append_of_le_length (by omega), List.take_take,
      min_eq_left (Nat.le_add_right _ _)]
  have hdrop : (store buffer (start + xs.length) ys).drop (start + xs.length) =
      ys ++ buffer.drop (start + xs.length + ys.length) := by
    rw [store, List.append_assoc, List.drop_left' hlen]
  rw [store, htake, hdrop, store, List.length_append, ← Nat.add_assoc]
  simp only [List.append_assoc]

theorem le_length_store (buffer : Bytes) (start : ℕ) (bytes : Bytes) :
    buffer.length ≤ (store buffer start bytes).length := by
  simp only [store, List.length_append, List.length_take, List.length_drop]
  omega

theorem store_behind {xs ys : Bytes} (h : start ≤ buffer.length) :
    store (store buffer start xs) (start + xs.length) ys = store buffer start (xs ++ ys) := by
  have hlen : (buffer.take start ++ xs).length = start + xs.length := by
    rw [List.length_append, List.length_take, min_eq_left h]
  have htake : (store buffer start xs).take (start + xs.length) = buffer.take start ++ xs :=
    List.take_left' hlen
  have hdrop : (store buffer start xs).drop (start + xs.length + ys.length) =
      buffer.drop (start + xs.length + ys.length) := by
    rw [← List.drop_drop, store, List.drop_left' hlen, List.drop_drop]
  rw [store, htake, hdrop, store, List.length_append, ← Nat.add_assoc]
  simp only [List.append_assoc]

/-- What is written over bytes of the same length replaces them. -/
theorem store_again {xs ys : Bytes} (hxs : xs.length = ys.length) (h : start ≤ buffer.length) :
    store (store buffer start xs) start ys = store buffer start ys := by
  have hlen : (buffer.take start).length = start := by rw [List.length_take, min_eq_left h]
  have htake : (store buffer start xs).take start = buffer.take start := by
    rw [store, List.append_assoc, List.take_left' hlen]
  have hdrop : (store buffer start xs).drop (start + ys.length) =
      buffer.drop (start + ys.length) := by
    rw [← hxs, store, List.drop_left' (by rw [List.length_append, hlen])]
  rw [store, htake, hdrop, store]

/-- The loop writes the bytes that it would copy. -/
theorem storeBigEndian_eq (value : UInt64) (h : start + count ≤ buffer.length) :
    storeBigEndian buffer start count value =
      store buffer start (toBigEndian count value.toNat) := by
  induction count generalizing buffer value with
  | zero => simp [storeBigEndian, store, toBigEndian]
  | succ i ih =>
    have hlen : start + i ≤ (store buffer (start + i) [value.toUInt8]).length := by
      simp only [store, List.length_append, List.length_take]
      omega
    have hshift : (value >>> 8).toNat = value.toNat / 256 := by
      rw [UInt64.toNat_shiftRight]
      exact Nat.shiftRight_eq_div_pow _ _
    have hbyte : value.toUInt8 = value.toNat.toUInt8 := UInt8.toNat_inj.mp (by simp)
    have hstore := @store_store buffer start (toBigEndian i (value.toNat / 256))
      [value.toNat.toUInt8] (by rw [length_toBigEndian]; omega)
    rw [length_toBigEndian] at hstore
    rw [storeBigEndian, ih _ hlen, hshift, toBigEndian, hbyte, hstore]

/-- What has been written stands in front, and the rest of the buffer is as it was. -/
def Laid (buffer written packet : Bytes) : Prop := packet = written ++ buffer.drop written.length

theorem Laid.store (h : Laid buffer written packet) (start : ℕ) (bytes : Bytes)
    (hstart : start = written.length) :
    Laid buffer (written ++ bytes) (store packet start bytes) := by
  subst hstart
  rw [Laid] at h ⊢
  rw [h, Discovery.store, List.take_left, List.drop_append, List.drop_eq_nil_of_le (by omega),
    List.nil_append, List.drop_drop, List.length_append]
  congr 2
  omega

theorem Laid.storeBigEndian (h : Laid buffer written packet) (start count : ℕ) (value : UInt64)
    (hstart : start = written.length) (hfit : start + count ≤ buffer.length) :
    Laid buffer (written ++ toBigEndian count value.toNat)
      (storeBigEndian packet start count value) := by
  have hlen : start + count ≤ packet.length := by
    rw [h, List.length_append, List.length_drop]
    omega
  rw [storeBigEndian_eq value hlen]
  exact h.store start _ hstart

theorem Laid.eq (h : Laid buffer written packet) (hlen : buffer.length ≤ written.length) :
    packet = written := by
  rw [h, List.drop_eq_nil_of_le hlen, List.append_nil]

end Buffer

section Layout

theorem writeBigEndian_eq (count value : ℕ) :
    writeBigEndian count value = toBigEndian count value := by
  induction count generalizing value with
  | zero => rfl
  | succ count ih =>
    have hdiv : ∀ i, value / 256 ^ (i + 1) = value / 256 / 256 ^ i := fun i => by
      rw [pow_succ', Nat.div_div_eq_div_mul]
    rw [toBigEndian, ← ih, writeBigEndian, writeBigEndian, List.range_succ_eq_map]
    simp only [List.map_cons, List.map_map, List.reverse_cons, Function.comp_def, hdiv, pow_zero,
      Nat.div_one]

theorem word16_bytes (value : UInt16) : bigEndian16 value = toBigEndian 2 value.toNat := by
  have hhigh : ((value >>> 8) &&& 0xFF).toUInt8 = (value.toNat / 256).toUInt8 := by
    apply UInt8.toNat_inj.mp
    simp [Nat.shiftRight_eq_div_pow, Nat.and_two_pow_sub_one_eq_mod _ 8]
  have hlow : (value &&& 0xFF).toUInt8 = value.toNat.toUInt8 := by
    apply UInt8.toNat_inj.mp
    simp [Nat.and_two_pow_sub_one_eq_mod _ 8]
  rw [bigEndian16, hhigh, hlow]
  rfl

theorem word32_bytes (value : UInt32) :
    [((value >>> 8) &&& 0xFF).toUInt8, (value &&& 0xFF).toUInt8] =
      toBigEndian 2 value.toNat := by
  have hhigh : ((value >>> 8) &&& 0xFF).toUInt8 = (value.toNat / 256).toUInt8 := by
    apply UInt8.toNat_inj.mp
    simp [Nat.shiftRight_eq_div_pow, Nat.and_two_pow_sub_one_eq_mod _ 8]
  have hlow : (value &&& 0xFF).toUInt8 = value.toNat.toUInt8 := by
    apply UInt8.toNat_inj.mp
    simp [Nat.and_two_pow_sub_one_eq_mod _ 8]
  rw [hhigh, hlow]
  rfl

/-- The host writes the payload that is signed. -/
theorem laid_serializeHeader (packet : DiscoveryPacket) {out : Bytes}
    (hlen : HEADER_LEN ≤ out.length) :
    Laid out packet.signedPayload (packet.serializeHeader out) := by
  have hid := packet.length_deviceId
  have hnonce := packet.length_nonce
  simp only [DEVICE_ID_LEN, NONCE_LEN, HEADER_LEN] at hid hnonce hlen
  have h : Laid out [] out := rfl
  have h := h.store 0 MAGIC rfl
  have h := h.store 4 [VERSION] rfl
  have h := h.store 5 [PACKET_TYPE_DISCOVERY] rfl
  have h := h.store 6 packet.deviceId rfl
  have h := h.store 22 packet.nonce (by simp [hid, MAGIC])
  have h := h.storeBigEndian 30 8 packet.timestamp
    (by simp [hid, hnonce, MAGIC]) (by omega)
  have h := h.store 38 (bigEndian16 packet.canPort) (by simp [hid, hnonce, MAGIC])
  have h := h.store 40 (bigEndian16 packet.otaPort)
    (by simp [hid, hnonce, MAGIC, bigEndian16])
  have hwritten : [] ++ MAGIC ++ [VERSION] ++ [PACKET_TYPE_DISCOVERY] ++ packet.deviceId ++
      packet.nonce ++ toBigEndian 8 packet.timestamp.toNat ++ bigEndian16 packet.canPort ++
      bigEndian16 packet.otaPort = packet.signedPayload := by
    simp only [DiscoveryPacket.signedPayload, word16_bytes, writeBigEndian_eq, List.nil_append,
      List.append_assoc, List.cons_append]
  rw [hwritten] at h
  exact h

theorem toBytes_eq (packet : DiscoveryPacket) :
    packet.toBytes = packet.signedPayload ++ packet.signature := by
  have hheader := @laid_serializeHeader packet (List.replicate PACKET_LEN 0) (by decide)
  refine (hheader.store HEADER_LEN packet.signature (length_signedPayload packet).symm).eq ?_
  rw [List.length_replicate, List.length_append, length_signedPayload, packet.length_signature]
  exact le_rfl

theorem length_toBytes (packet : DiscoveryPacket) : packet.toBytes.length = PACKET_LEN := by
  rw [toBytes_eq, List.length_append, length_signedPayload, packet.length_signature]
  rfl

/-- What the device announces: its clock as the nonce, and the low bits of its port. -/
def announced (deviceId : Bytes) (tcpPort : UInt32) (otaPort : UInt16) (timestamp : UInt64)
    (nonce : UInt32) (signature : Bytes) (hid : deviceId.length = DEVICE_ID_LEN)
    (hsig : signature.length = SIGNATURE_LEN) : DiscoveryPacket where
  deviceId := deviceId
  nonce := nativeBytes nonce ++ List.replicate 4 0
  timestamp := timestamp
  canPort := tcpPort.toUInt16
  otaPort := otaPort
  signature := signature
  length_deviceId := hid
  length_nonce := rfl
  length_signature := hsig

theorem toBigEndian_low (tcpPort : UInt32) :
    toBigEndian 2 tcpPort.toNat = toBigEndian 2 tcpPort.toUInt16.toNat := by
  have hlow : tcpPort.toUInt16.toNat = tcpPort.toNat % 65536 := by simp
  rw [hlow]
  simp only [toBigEndian, List.nil_append, List.cons_append, List.cons.injEq, and_true]
  constructor
  · apply UInt8.toNat_inj.mp
    simp only [Nat.toUInt8, UInt8.toNat_ofNat']
    omega
  · apply UInt8.toNat_inj.mp
    simp only [Nat.toUInt8, UInt8.toNat_ofNat']
    omega

/-- The firmware writes what the host would write into the same buffer. -/
theorem buildDiscoveryPacket_eq {buffer deviceId signature : Bytes}
    (hbuffer : buffer.length = PACKET_LEN) (hid : deviceId.length = DEVICE_ID_LEN)
    (hsig : signature.length = SIGNATURE_LEN) (tcpPort : UInt32) (otaPort : UInt16)
    (timestamp : UInt64) (nonce : UInt32) :
    buildDiscoveryPacket buffer deviceId tcpPort otaPort timestamp nonce =
      store ((announced deviceId tcpPort otaPort timestamp nonce signature hid hsig).serializeHeader
        buffer) HEADER_LEN (List.replicate 64 0) := by
  have htake : deviceId.take 16 = deviceId := List.take_of_length_le (le_of_eq hid)
  have hlen : PACKET_LEN ≤ (store (store (store (store buffer 0 MAGIC) 4 [VERSION]) 5
      [PACKET_TYPE_DISCOVERY]) 6 deviceId).length :=
    calc PACKET_LEN = buffer.length := hbuffer.symm
      _ ≤ (store buffer 0 MAGIC).length := le_length_store _ _ _
      _ ≤ (store (store buffer 0 MAGIC) 4 [VERSION]).length := le_length_store _ _ _
      _ ≤ _ := (le_length_store _ _ _).trans (le_length_store _ _ _)
  have hnonce : store (store (store (store (store (store buffer 0 MAGIC) 4 [VERSION]) 5
      [PACKET_TYPE_DISCOVERY]) 6 deviceId) 22 (nativeBytes nonce)) 26 (List.replicate 4 0) =
        store (store (store (store (store buffer 0 MAGIC) 4 [VERSION]) 5
          [PACKET_TYPE_DISCOVERY]) 6 deviceId) 22 (nativeBytes nonce ++ List.replicate 4 0) :=
    @store_behind _ 22 (nativeBytes nonce) _ (le_trans (by decide) hlen)
  have hport := (word32_bytes tcpPort).trans (toBigEndian_low tcpPort)
  have hota : [((otaPort >>> 8) &&& 0xFF).toUInt8, (otaPort &&& 0xFF).toUInt8] =
    toBigEndian 2 otaPort.toNat := word16_bytes otaPort
  simp only [buildDiscoveryPacket, DiscoveryPacket.serializeHeader, announced, htake, hport, hota,
    word16_bytes]
  rw [← hnonce]
  rfl

/-- The signed packet of the firmware is the host's, whatever the buffer held. -/
theorem signPacket_build {buffer deviceId signature : Bytes} (hbuffer : buffer.length = PACKET_LEN)
    (hid : deviceId.length = DEVICE_ID_LEN) (hsig : signature.length = SIGNATURE_LEN)
    (tcpPort : UInt32) (otaPort : UInt16) (timestamp : UInt64) (nonce : UInt32) :
    signPacket (buildDiscoveryPacket buffer deviceId tcpPort otaPort timestamp nonce) signature =
      (announced deviceId tcpPort otaPort timestamp nonce signature hid hsig).toBytes := by
  have hheader := @laid_serializeHeader
    (announced deviceId tcpPort otaPort timestamp nonce signature hid hsig) buffer
    (by rw [hbuffer]; decide)
  have hlen : HEADER_LEN ≤ ((announced deviceId tcpPort otaPort timestamp nonce signature hid
      hsig).serializeHeader buffer).length := by
    rw [hheader, List.length_append, length_signedPayload]
    exact Nat.le_add_right _ _
  rw [buildDiscoveryPacket_eq hbuffer hid hsig, signPacket, toBytes_eq]
  refine (store_again ?_ hlen).trans
    ((hheader.store HEADER_LEN signature (length_signedPayload _).symm).eq ?_)
  · rw [List.length_replicate, hsig]
    rfl
  · rw [hbuffer, List.length_append, length_signedPayload, hsig]
    exact le_rfl

end Layout

section Parse

variable {data rest : Bytes} {packet : DiscoveryPacket} {count : ℕ}

theorem readBigEndian16_toNat {src : Bytes} (h : 2 ≤ src.length) :
    (readBigEndian16 src).toNat = ofBigEndian (src.take 2) := by
  match src, h with
  | hi :: lo :: _, _ =>
    have hhi : hi.toNat < 256 := hi.toNat_lt
    have hlo : lo.toNat < 256 := lo.toNat_lt
    have hshift : (hi.toUInt16 <<< 8).toNat = hi.toNat <<< 8 := by
      rw [UInt16.toNat_shiftLeft, UInt8.toNat_toUInt16, Nat.shiftLeft_eq, Nat.shiftLeft_eq]
      exact Nat.mod_eq_of_lt (show hi.toNat * 256 < 65536 by omega)
    have hor : hi.toNat <<< 8 ||| lo.toNat = hi.toNat * 256 + lo.toNat := by
      rw [← Nat.shiftLeft_add_eq_or_of_lt (i := 8) hlo, Nat.shiftLeft_eq]
    rw [readBigEndian16, List.getD_cons_zero, List.getD_cons_succ, List.getD_cons_zero,
      UInt16.toNat_or, hshift, UInt8.toNat_toUInt16, hor]
    simp [ofBigEndian]

theorem readBigEndian64_toNat {src : Bytes} :
    (readBigEndian64 src).toNat = ofBigEndian (src.take 8) := by
  have hlt := ofBigEndian_lt (src.take 8)
  have hpow : 256 ^ (src.take 8).length ≤ 256 ^ 8 :=
    Nat.pow_le_pow_right (by decide) (List.length_take_le _ _)
  rw [readBigEndian64, toNat_foldl_appendByte64]
  exact Nat.mod_eq_of_lt (hlt.trans_le hpow)

/-- A number of two bytes is zero just when both are. -/
theorem readBigEndian16_eq_zero_iff (h : 40 ≤ data.length) :
    readBigEndian16 (data.drop 38) = 0 ↔ slice data 38 2 = [0, 0] := by
  have hlen : (slice data 38 2).length = 2 := length_slice h
  have hread := @readBigEndian16_toNat (data.drop 38) (by rw [List.length_drop]; omega)
  rw [← UInt16.toNat_inj, hread]
  refine ofBigEndian_eq_zero_iff.trans ?_
  rw [← slice, hlen]
  rfl

theorem parse_eq_some_iff : parse data = some packet ↔
    WellFormed data ∧ ∃ h, fieldsOf data h = packet := by
  unfold parse
  constructor
  · intro h
    split at h
    · cases h
    · next hlen =>
      have hge := Nat.le_of_not_lt hlen
      split at h
      · cases h
      · next hmagic =>
        split at h
        · cases h
        · next hversion =>
          split at h
          · cases h
          · next htype =>
            split at h
            · cases h
            · next hport =>
              exact ⟨⟨hge, not_not.mp hmagic, not_not.mp hversion, not_not.mp htype,
                fun hzero => hport ((readBigEndian16_eq_zero_iff (le_trans (by decide) hge)).mpr
                  hzero)⟩, hge, Option.some.inj h⟩
  · rintro ⟨hdata, hge, rfl⟩
    have hport : readBigEndian16 (data.drop 38) ≠ 0 := fun hzero =>
      hdata.canPort ((readBigEndian16_eq_zero_iff (le_trans (by decide) hge)).mp hzero)
    rw [dif_neg (Nat.not_lt.mpr hge), if_neg (not_not.mpr hdata.magic),
      if_neg (not_not.mpr hdata.version), if_neg (not_not.mpr hdata.packetType), if_neg hport]

theorem parse_of_wellFormed (h : WellFormed data) : parse data = some (fieldsOf data h.length_ge) :=
  parse_eq_some_iff.mpr ⟨h, h.length_ge, rfl⟩

theorem parse_eq_none_iff : parse data = none ↔ ¬ WellFormed data := by
  constructor
  · intro h hdata
    rw [parse_of_wellFormed hdata] at h
    cases h
  · intro h
    cases hparse : parse data with
    | none => rfl
    | some packet => exact absurd (parse_eq_some_iff.mp hparse).1 h

theorem take_slice (data : Bytes) (start count : ℕ) :
    data.take (start + count) = data.take start ++ slice data start count := List.take_add

/-- Behind a field of known length the offsets begin again. -/
theorem slice_behind {field behind : Bytes} {start count n : ℕ} (hlen : field.length = n)
    (h : n ≤ start) : slice (field ++ behind) start count = slice behind (start - n) count := by
  rw [slice, List.drop_append, List.drop_eq_nil_of_le (hlen.trans_le h), List.nil_append, hlen,
    slice]

theorem slice_front {field behind : Bytes} {count : ℕ} (hlen : field.length = count) :
    slice (field ++ behind) 0 count = field := by
  rw [slice, List.drop_zero, List.take_left' hlen]

/-- The bytes of a packet in their places: each field, what stands before it and behind it. -/
theorem slices_toBytes (packet : DiscoveryPacket) (rest : Bytes) :
    slice (packet.toBytes ++ rest) 6 DEVICE_ID_LEN = packet.deviceId ∧
    slice (packet.toBytes ++ rest) 22 NONCE_LEN = packet.nonce ∧
    slice (packet.toBytes ++ rest) 30 8 = toBigEndian 8 packet.timestamp.toNat ∧
    slice (packet.toBytes ++ rest) 38 2 = toBigEndian 2 packet.canPort.toNat ∧
    slice (packet.toBytes ++ rest) 40 2 = toBigEndian 2 packet.otaPort.toNat ∧
    slice (packet.toBytes ++ rest) HEADER_LEN SIGNATURE_LEN = packet.signature := by
  have hid : packet.deviceId.length = 16 := packet.length_deviceId
  have hnonce : packet.nonce.length = 8 := packet.length_nonce
  simp only [toBytes_eq, DiscoveryPacket.signedPayload, writeBigEndian_eq, List.append_assoc]
  refine ⟨?_, ?_, ?_, ?_, ?_, ?_⟩
  · rw [slice_behind (n := 4) rfl (by decide), slice_behind (n := 2) rfl (by decide)]
    exact slice_front hid
  · rw [slice_behind (n := 4) rfl (by decide), slice_behind (n := 2) rfl (by decide),
      slice_behind hid (by decide)]
    exact slice_front hnonce
  · rw [slice_behind (n := 4) rfl (by decide), slice_behind (n := 2) rfl (by decide),
      slice_behind hid (by decide), slice_behind hnonce (by decide)]
    exact slice_front (length_toBigEndian _ _)
  · rw [slice_behind (n := 4) rfl (by decide), slice_behind (n := 2) rfl (by decide),
      slice_behind hid (by decide), slice_behind hnonce (by decide),
      slice_behind (length_toBigEndian _ _) (by decide)]
    exact slice_front (length_toBigEndian _ _)
  · rw [slice_behind (n := 4) rfl (by decide), slice_behind (n := 2) rfl (by decide),
      slice_behind hid (by decide), slice_behind hnonce (by decide),
      slice_behind (length_toBigEndian _ _) (by decide),
      slice_behind (length_toBigEndian _ _) (by decide)]
    exact slice_front (length_toBigEndian _ _)
  · rw [slice_behind (n := 4) rfl (by decide), slice_behind (n := 2) rfl (by decide),
      slice_behind hid (by decide), slice_behind hnonce (by decide),
      slice_behind (length_toBigEndian _ _) (by decide),
      slice_behind (length_toBigEndian _ _) (by decide),
      slice_behind (length_toBigEndian _ _) (by decide)]
    exact slice_front packet.length_signature

theorem wellFormed_toBytes (h : packet.canPort ≠ 0) (rest : Bytes) :
    WellFormed (packet.toBytes ++ rest) := by
  refine ⟨?_, ?_, ?_, ?_, ?_⟩
  · rw [List.length_append, length_toBytes]
    exact Nat.le_add_right _ _
  · rw [toBytes_eq]
    rfl
  · rw [toBytes_eq]
    rfl
  · rw [toBytes_eq]
    rfl
  · rw [(slices_toBytes packet rest).2.2.2.1]
    intro hzero
    have hvalue : ofBigEndian (toBigEndian 2 packet.canPort.toNat) = packet.canPort.toNat :=
      ofBigEndian_toBigEndian_of_lt packet.canPort.toNat_lt
    rw [hzero] at hvalue
    exact h (UInt16.toNat_inj.mp hvalue.symm)

theorem fieldsOf_toBytes (packet : DiscoveryPacket) (rest : Bytes)
    (h : PACKET_LEN ≤ (packet.toBytes ++ rest).length) :
    fieldsOf (packet.toBytes ++ rest) h = packet := by
  obtain ⟨hid, hnonce, htime, hcan, hota, hsig⟩ := slices_toBytes packet rest
  have htimestamp : readBigEndian64 ((packet.toBytes ++ rest).drop 30) = packet.timestamp := by
    apply UInt64.toNat_inj.mp
    rw [readBigEndian64_toNat, ← slice, htime]
    exact ofBigEndian_toBigEndian_of_lt packet.timestamp.toNat_lt
  have hlen : ∀ start, start ≤ 40 → 2 ≤ ((packet.toBytes ++ rest).drop start).length := by
    intro start hstart
    rw [List.length_drop]
    rw [PACKET_LEN, HEADER_LEN] at h
    omega
  have hcanPort : readBigEndian16 ((packet.toBytes ++ rest).drop 38) = packet.canPort := by
    apply UInt16.toNat_inj.mp
    rw [readBigEndian16_toNat (hlen 38 (by decide)), ← slice, hcan]
    exact ofBigEndian_toBigEndian_of_lt packet.canPort.toNat_lt
  have hotaPort : readBigEndian16 ((packet.toBytes ++ rest).drop 40) = packet.otaPort := by
    apply UInt16.toNat_inj.mp
    rw [readBigEndian16_toNat (hlen 40 (by decide)), ← slice, hota]
    exact ofBigEndian_toBigEndian_of_lt packet.otaPort.toNat_lt
  cases packet
  simp only [fieldsOf, hid, hnonce, htimestamp, hcanPort, hotaPort, hsig]

/-- A packet that has been written is parsed back, whatever follows it. -/
theorem parse_toBytes (h : packet.canPort ≠ 0) (rest : Bytes) :
    parse (packet.toBytes ++ rest) = some packet := by
  have hwell := wellFormed_toBytes h rest
  rw [parse_of_wellFormed hwell, fieldsOf_toBytes]

theorem slice_one (h : count < data.length) : slice data count 1 = [data.getD count 0] := by
  rw [slice, List.drop_eq_getElem_cons h, List.take_succ_cons, List.take_zero,
    List.getD_eq_getElem?_getD, List.getElem?_eq_getElem h, Option.getD_some]

/-- The header of a buffer is written again from its fields. -/
theorem signedPayload_fieldsOf (h : WellFormed data) :
    (fieldsOf data h.length_ge).signedPayload = data.take HEADER_LEN := by
  have hlen : 106 ≤ data.length := h.length_ge
  have htime : toBigEndian 8 (readBigEndian64 (data.drop 30)).toNat = slice data 30 8 := by
    have hcount : (slice data 30 8).length = 8 := length_slice (by omega)
    rw [readBigEndian64_toNat, ← slice]
    exact (congrArg (toBigEndian · _) hcount.symm).trans (toBigEndian_ofBigEndian _)
  have hport : ∀ start, start ≤ 40 →
      toBigEndian 2 (readBigEndian16 (data.drop start)).toNat = slice data start 2 := by
    intro start hstart
    have hcount : (slice data start 2).length = 2 := length_slice (by omega)
    rw [readBigEndian16_toNat (by rw [List.length_drop]; omega), ← slice]
    exact (congrArg (toBigEndian · _) hcount.symm).trans (toBigEndian_ofBigEndian _)
  have hversion : slice data 4 1 = [VERSION] := by rw [slice_one (by omega), h.version]
  have htype : slice data 5 1 = [PACKET_TYPE_DISCOVERY] := by
    rw [slice_one (by omega), h.packetType]
  calc (fieldsOf data h.length_ge).signedPayload
      = data.take 4 ++ slice data 4 1 ++ slice data 5 1 ++ slice data 6 16 ++ slice data 22 8 ++
          slice data 30 8 ++ slice data 38 2 ++ slice data 40 2 := by
        rw [hversion, htype, h.magic, ← htime, ← hport 38 (by decide), ← hport 40 (by decide)]
        simp only [DiscoveryPacket.signedPayload, fieldsOf, writeBigEndian_eq, List.append_assoc,
          List.cons_append, List.nil_append]
        rfl
    _ = data.take HEADER_LEN := by simp only [← take_slice]; rfl

theorem toBytes_fieldsOf (h : WellFormed data) :
    (fieldsOf data h.length_ge).toBytes = data.take PACKET_LEN := by
  rw [toBytes_eq, signedPayload_fieldsOf h]
  exact (take_slice data HEADER_LEN SIGNATURE_LEN).symm

end Parse

section Agreement

/-- Firmware and host agree on the packet: what the firmware writes and signs is parsed to what it
announces, what is parsed is written again, and only what is no packet is not parsed. -/
theorem packet_agreement :
    (∀ (buffer deviceId signature : Bytes) (tcpPort : UInt32) (otaPort : UInt16)
        (timestamp : UInt64) (nonce : UInt32), buffer.length = PACKET_LEN →
        deviceId.length = DEVICE_ID_LEN → signature.length = SIGNATURE_LEN →
        1 ≤ tcpPort → tcpPort ≤ 65535 →
      ∃ packet, parse (signPacket (buildDiscoveryPacket buffer deviceId tcpPort otaPort timestamp
          nonce) signature) = some packet ∧
        packet.deviceId = deviceId ∧ packet.canPort.toNat = tcpPort.toNat ∧
        packet.otaPort = otaPort ∧ packet.timestamp = timestamp) ∧
    (∀ data packet, parse data = some packet →
      packet.toBytes = data.take PACKET_LEN ∧ packet.signedPayload = data.take HEADER_LEN) ∧
    ∀ data, parse data = none ↔ data.length < PACKET_LEN ∨ data.take 4 ≠ MAGIC ∨
      data.getD 4 0 ≠ VERSION ∨ data.getD 5 0 ≠ PACKET_TYPE_DISCOVERY ∨
      slice data 38 2 = [0, 0] := by
  refine ⟨?_, ?_, ?_⟩
  · rintro buffer deviceId signature tcpPort otaPort timestamp nonce hbuffer hid hsig hlow hhigh
    have hlow' : 1 ≤ tcpPort.toNat := UInt32.le_iff_toNat_le.mp hlow
    have hhigh' : tcpPort.toNat ≤ 65535 := UInt32.le_iff_toNat_le.mp hhigh
    have hport : tcpPort.toUInt16.toNat = tcpPort.toNat := by
      rw [UInt32.toNat_toUInt16]
      exact Nat.mod_eq_of_lt (by omega)
    have hcan : (announced deviceId tcpPort otaPort timestamp nonce signature hid hsig).canPort ≠
        0 := by
      intro hzero
      have hnat : tcpPort.toUInt16.toNat = 0 := congrArg UInt16.toNat hzero
      omega
    refine ⟨announced deviceId tcpPort otaPort timestamp nonce signature hid hsig, ?_, rfl, hport,
      rfl, rfl⟩
    rw [signPacket_build hbuffer hid hsig]
    simpa only [List.append_nil] using parse_toBytes hcan []
  · rintro data packet h
    obtain ⟨hdata, _, rfl⟩ := parse_eq_some_iff.mp h
    exact ⟨toBytes_fieldsOf hdata, signedPayload_fieldsOf hdata⟩
  · rintro data
    rw [parse_eq_none_iff]
    constructor
    · intro h
      by_contra hall
      push Not at hall
      obtain ⟨hlen, hmagic, hversion, htype, hport⟩ := hall
      exact h ⟨hlen, hmagic, hversion, htype, hport⟩
    · rintro (hlen | hmagic | hversion | htype | hport) h
      · exact absurd h.length_ge (Nat.not_le.mpr hlen)
      · exact hmagic h.magic
      · exact hversion h.version
      · exact htype h.packetType
      · exact h.canPort hport

/-- A device announced without a clock, and the packet that is parsed for it. -/
theorem packet_agreement_clockless : ∃ packet,
    parse (signPacket (buildDiscoveryPacket (List.replicate 106 0xAA) (List.replicate 16 7) 3333 80
      0 5000) (List.replicate 64 0)) = some packet ∧
    packet.deviceId = List.replicate 16 7 ∧ packet.canPort.toNat = 3333 ∧
    packet.otaPort = 80 ∧ packet.timestamp = 0 :=
  packet_agreement.1 _ _ _ 3333 80 0 5000 rfl rfl rfl (by decide) (by decide)

end Agreement

end VehicleSpy.Discovery
