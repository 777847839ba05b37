import VehicleSpy.Firmware.AtCommandDispatcher
import VehicleSpy.Pipeline.TCPTransport

/-! # The HELO acknowledgement, printed and read

The firmware prints name, version and device id into a fixed buffer, and the host looks for
the id in the line that arrives. A header that is longer than the buffer is followed by a
write behind it; short of that the host reads the whole id or none.
-/

namespace VehicleSpy.Pipeline.HeloRoundTrip

open Firmware AtCommandDispatcher TCPTransport

open Text hiding trim

/-- A C string without line ends and without the token in front of the id. -/
structure Plain (text : Bytes) : Prop where
  noNul : 0 ∉ text
  noLineEnd : ∀ c ∈ text, isLineEnd c = false
  noToken : ¬ deviceIdToken <:+: text

/-- The acknowledgement in front of the token. -/
def banner (deviceName firmwareVersion : Bytes) : Bytes :=
  ascii "ACK DEVICE=" ++ deviceName ++ ascii " FIRMWARE=" ++ firmwareVersion

/-- What is printed before the device id. -/
def header (deviceName firmwareVersion : Bytes) : Bytes :=
  banner deviceName firmwareVersion ++ SP :: deviceIdToken

/-- The whole acknowledgement. -/
def rendered (deviceId deviceName firmwareVersion : Bytes) : Bytes :=
  header deviceName firmwareVersion ++ deviceIdToHex deviceId ++ [CR]

/-- The bytes that a list of calls sends to the TCP client. -/
def sentBytes (calls : List AtCall) : Bytes :=
  calls.flatMap fun | .tcpPrint s => s | _ => []

/-- What the host makes of the first line of a framed response. -/
def hostReads (response : Bytes) : Option Bytes := do
  let (line, _) ← TcpReader.takeBufferedLine (sentBytes (sendTcpPrompt response))
  parseHeloAck (cleanLine line)

/-- No write past the buffer; the host reads this id or none, and the id if the text fits the
buffer with its NUL. -/
structure RoundTrip (deviceId deviceName firmwareVersion : Bytes) : Prop where
  inBounds : (buildHeloResponse deviceId deviceName firmwareVersion).isSome
  noOtherId : ∀ r ∈ buildHeloResponse deviceId deviceName firmwareVersion,
    hostReads r = some deviceId ∨ hostReads r = none
  ofFits : (rendered deviceId deviceName firmwareVersion).length < 128 →
    ∀ r ∈ buildHeloResponse deviceId deviceName firmwareVersion, hostReads r = some deviceId

section Hex

theorem hexPad_byte (b : Byte) :
    hexPad 2 b.toNat = [hexDigit (b.toNat / 16), hexDigit (b.toNat % 16)] := by
  revert b
  exact forall_byte (by decide +kernel)

theorem hexCharToInt_hexDigit {d : ℕ} (h : d < 16) : hexCharToInt (hexDigit d) = some d := by
  have hall : ∀ d : Fin 16, hexCharToInt (hexDigit d) = some (d : ℕ) := by decide
  exact hall ⟨d, h⟩

theorem length_deviceIdToHex (id : Bytes) : (deviceIdToHex id).length = 2 * id.length := by
  induction id with
  | nil => rfl
  | cons b id ih =>
    rw [deviceIdToHex, List.flatMap_cons, ← deviceIdToHex, hexPad_byte]
    simp [ih]
    omega

theorem isDigit_deviceIdToHex (id : Bytes) : ∀ c ∈ deviceIdToHex id, isDigit 16 c = true := by
  intro c hc
  obtain ⟨b, -, hb⟩ := List.mem_flatMap.mp hc
  exact isDigit_hexPad 2 b.toNat c hb

theorem parseHexByte_head (b : Byte) (s : Bytes) :
    parseHexByte (hexPad 2 b.toNat ++ s) 0 = some b := by
  have hpair : ∀ b : Byte, ((b.toNat / 16) <<< 4 ||| b.toNat % 16).toUInt8 = b :=
    forall_byte (by decide +kernel)
  have hlt := b.toNat_lt
  rw [hexPad_byte]
  simp only [parseHexByte, List.cons_append, List.getElem?_cons_zero, List.getElem?_cons_succ,
    Option.bind_eq_bind, Option.bind_some, Nat.zero_add, Option.pure_def,
    hexCharToInt_hexDigit (show b.toNat / 16 < 16 by omega),
    hexCharToInt_hexDigit (show b.toNat % 16 < 16 by omega)]
  rw [hpair b]

theorem parseHexByte_tail (b : Byte) (s : Bytes) (i : ℕ) :
    parseHexByte (hexPad 2 b.toNat ++ s) ((i + 1) * 2) = parseHexByte s (i * 2) := by
  rw [hexPad_byte, Nat.succ_mul]
  rfl

/-- The id is read back byte by byte. -/
theorem mapM_parseHexByte (id : Bytes) :
    (List.range id.length).mapM (fun i => parseHexByte (deviceIdToHex id) (i * 2)) = some id := by
  induction id with
  | nil => rfl
  | cons b id ih =>
    rw [List.length_cons, List.range_succ_eq_map, List.mapM_cons, List.mapM_map]
    have hcons : deviceIdToHex (b :: id) = hexPad 2 b.toNat ++ deviceIdToHex id := rfl
    rw [hcons, Nat.zero_mul, parseHexByte_head]
    simp only [Function.comp_def, parseHexByte_tail, Nat.succ_eq_add_one]
    rw [ih]
    rfl

end Hex

section Printed

theorem printDeviceId_holds (id : Bytes) {w buf : Bytes} (h : Holds 128 w buf)
    (hw : w.length ≤ 128) :
    ∃ k buf', printDeviceId id buf w.length = some (buf', w.length + 2 * k) ∧
      Holds 128 (w ++ deviceIdToHex (id.take k)) buf' ∧ k ≤ id.length ∧
      (k = id.length ∨ 125 ≤ w.length + 2 * k) ∧ (k = 0 ∨ w.length + 2 * k ≤ 126) := by
  induction id generalizing w buf with
  | nil => exact ⟨0, buf, rfl, by simpa [deviceIdToHex] using h, le_rfl, Or.inl rfl, Or.inl rfl⟩
  | cons b id ih =>
    by_cases hlt : w.length < 125
    · obtain ⟨buf₁, hprint, hb₁⟩ := h.snprintf hw (hexPad 2 b.toNat)
      have hlen : (w ++ hexPad 2 b.toNat).length = w.length + 2 := by
        rw [hexPad_byte]
        simp
      obtain ⟨k, buf', hloop, hb', hk, hstop, hbound⟩ := ih hb₁ (by omega)
      rw [hlen] at hloop hstop hbound
      refine ⟨k + 1, buf', ?_, ?_, Nat.succ_le_succ hk, ?_, ?_⟩
      · rw [printDeviceId, if_pos hlt, hprint, show w.length + 2 * (k + 1) = w.length + 2 + 2 * k by
          omega]
        exact hloop
      · rw [List.append_assoc] at hb'
        exact hb'
      · exact hstop.imp (by simp [·]) (by omega)
      · omega
    · refine ⟨0, buf, ?_, by simpa [deviceIdToHex] using h, Nat.zero_le _, Or.inr (by omega),
        Or.inl rfl⟩
      rw [printDeviceId, if_neg hlt]
      rfl

theorem printDeviceId_stop (id buf : Bytes) {len : ℕ} (h : 125 ≤ len) :
    printDeviceId id buf len = some (buf, len) := by
  cases id with
  | nil => rfl
  | cons b id => exact if_neg (by omega)

theorem header_eq (name version : Bytes) :
    ascii "ACK DEVICE=" ++ name ++ ascii " FIRMWARE=" ++ version ++ ascii " DEVICEID=" =
      header name version := rfl

theorem length_header (name version : Bytes) :
    (header name version).length = name.length + version.length + 31 := by
  have hack : (ascii "ACK DEVICE=").length = 11 := by decide
  have hfirmware : (ascii " FIRMWARE=").length = 10 := by decide
  have htoken : (SP :: deviceIdToken).length = 10 := by decide
  simp only [header, banner, List.length_append, hack, hfirmware, htoken]
  omega

theorem buildHeloResponse_header (id name version : Bytes) :
    buildHeloResponse id name version =
      if (header name version).length < 2 ^ 31 then
        (snprintf (List.replicate 128 0) 0 128 (header name version)).bind fun buf =>
          (printDeviceId id buf (header name version).length).bind fun p =>
            (snprintf p.1 p.2 (if p.2 ≤ 128 then 128 - p.2 else 2 ^ 32 + 128 - p.2) [CR]).bind
              fun buf => some (cString buf)
      else none := by
  by_cases h : (header name version).length < 2 ^ 31
  · rw [if_pos h, buildHeloResponse, header_eq, guard, if_pos h]
    simp only [Option.bind_eq_bind, Option.pure_def, Option.bind_some]
  · rw [if_neg h, buildHeloResponse, header_eq, guard, if_neg h]
    rfl

variable {id name version : Bytes}

theorem noNul_header (hn : Plain name) (hv : Plain version) : 0 ∉ header name version := by
  have hack : (0 : Byte) ∉ ascii "ACK DEVICE=" := by decide
  have hfirmware : (0 : Byte) ∉ ascii " FIRMWARE=" := by decide
  have htoken : (0 : Byte) ∉ SP :: deviceIdToken := by decide
  simp only [header, banner, List.mem_append, not_or]
  exact ⟨⟨⟨⟨hack, hn.noNul⟩, hfirmware⟩, hv.noNul⟩, htoken⟩

/-- A header that fits is followed by the first bytes of the id, as many as leave room. -/
theorem buildHeloResponse_eq (id : Bytes) (hn : Plain name) (hv : Plain version)
    (hlen : (header name version).length ≤ 128) :
    ∃ k, buildHeloResponse id name version =
        some ((header name version ++ deviceIdToHex (id.take k) ++ [CR]).take 127) ∧
      k ≤ id.length ∧ (k = id.length ∨ 125 ≤ (header name version).length + 2 * k) ∧
      (k = 0 ∨ (header name version).length + 2 * k ≤ 126) := by
  obtain ⟨buf, hprint, hb⟩ := (holds_replicate (N := 128) (by decide)).snprintf (Nat.zero_le _)
    (header name version)
  rw [List.nil_append] at hb
  obtain ⟨k, buf₁, hloop, hb₁, hk, hstop, hbound⟩ := printDeviceId_holds id hb hlen
  have hw : (header name version ++ deviceIdToHex (id.take k)).length =
      (header name version).length + 2 * k := by
    rw [List.length_append, length_deviceIdToHex, List.length_take, min_eq_left hk]
  have hle : (header name version).length + 2 * k ≤ 128 := by omega
  obtain ⟨buf₂, hcr, hb₂⟩ := hb₁.snprintf (hw ▸ hle) [CR]
  rw [hw] at hcr
  refine ⟨k, ?_, hk, hstop, hbound⟩
  have hfree : ∀ c ∈ header name version ++ deviceIdToHex (id.take k) ++ [CR], c ≠ 0 := by
    rintro c hc rfl
    rcases List.mem_append.mp hc with hc | hc
    · rcases List.mem_append.mp hc with hc | hc
      · exact noNul_header hn hv hc
      · exact absurd (isDigit_deviceIdToHex _ 0 hc) (by decide)
    · exact absurd hc (by decide)
  have hint : (header name version).length < 2 ^ 31 := lt_of_le_of_lt hlen (by decide)
  rw [List.length_nil, Nat.sub_zero] at hprint
  rw [buildHeloResponse_header, if_pos hint, hprint, Option.bind_some, hloop, Option.bind_some,
    if_pos hle, hcr, Option.bind_some, hb₂.cString hfree]

/-- Behind a longer header the closing CR is stored outside the buffer. -/
theorem buildHeloResponse_overrun (hlen : 128 < (header name version).length) :
    buildHeloResponse id name version = none := by
  obtain ⟨buf, hprint, hb⟩ := (holds_replicate (N := 128) (by decide)).snprintf (Nat.zero_le _)
    (header name version)
  obtain ⟨-, -, hsize⟩ := hb
  rw [List.length_nil, Nat.sub_zero] at hprint
  rw [buildHeloResponse_header]
  split
  · rw [hprint, Option.bind_some, printDeviceId_stop id buf (by omega), Option.bind_some,
      if_neg (not_le.mpr hlen), snprintf, if_neg (by omega)]
    simp only
    rw [if_neg (by omega), Option.bind_none]
  · rfl

end Printed

section Read

variable {id name version : Bytes}

theorem noToken_field {label value : Bytes} (hl : ¬ deviceIdToken <:+: label)
    (hend : ¬ ascii "DEVICEID" <:+ label) (hv : Plain value) :
    ¬ deviceIdToken <:+: label ++ 61 :: value := by
  intro h
  rcases infix_of_concat (t := ascii "DEVICEID") (by decide) (by decide) h with h | h | h
  · exact hl h
  · exact hend h
  · exact hv.noToken h

theorem noToken_banner (hn : Plain name) (hv : Plain version) :
    ¬ deviceIdToken <:+: banner name version := by
  have hdevice : ¬ deviceIdToken <:+: ascii "ACK DEVICE" ++ 61 :: name :=
    noToken_field (by decide) (by decide) hn
  have hfirmware : ¬ deviceIdToken <:+: ascii "FIRMWARE" ++ 61 :: version :=
    noToken_field (by decide) (by decide) hv
  have hsplit : banner name version =
      (ascii "ACK DEVICE" ++ 61 :: name) ++ SP :: (ascii "FIRMWARE" ++ 61 :: version) := by
    simp only [banner, List.append_assoc]
    rfl
  rw [hsplit, infix_append_cons (by decide) (by decide), not_or]
  exact ⟨hdevice, hfirmware⟩

theorem noLineEnd_banner (hn : Plain name) (hv : Plain version) :
    ∀ c ∈ banner name version, isLineEnd c = false := by
  have hack : ∀ c ∈ ascii "ACK DEVICE=", isLineEnd c = false := by decide +kernel
  have hfirmware : ∀ c ∈ ascii " FIRMWARE=", isLineEnd c = false := by decide +kernel
  intro c hc
  simp only [banner, List.mem_append] at hc
  rcases hc with ((hc | hc) | hc) | hc
  · exact hack c hc
  · exact hn.noLineEnd c hc
  · exact hfirmware c hc
  · exact hv.noLineEnd c hc

/-- The line is the text up to the end of the buffer, whether the CR fits or not. -/
theorem hostReads_eq {text : Bytes} (ht : ∀ c ∈ text, isLineEnd c = false) :
    hostReads ((text ++ [CR]).take 127) = parseHeloAck (cleanLine (text.take 127)) := by
  obtain ⟨rest, hsent⟩ : ∃ rest, sentBytes (sendTcpPrompt ((text ++ [CR]).take 127)) =
      text.take 127 ++ CR :: rest := by
    rcases Nat.lt_or_ge text.length 127 with h | h
    · refine ⟨[CR, CR, PROMPT], ?_⟩
      rw [List.take_of_length_le (by simp; omega), List.take_of_length_le h.le]
      simp [sentBytes, sendTcpPrompt]
    · refine ⟨[CR, PROMPT], ?_⟩
      rw [List.take_append_of_le_length h]
      simp [sentBytes, sendTcpPrompt]
  have htake : ∀ c ∈ text.take 127, isLineEnd c = false := fun c hc =>
    ht c (List.mem_of_mem_take hc)
  rw [hostReads, hsent, TcpReader.takeBufferedLine_append htake (by decide)]
  rfl

theorem cleanLine_banner (name version : Bytes) {token : Bytes} (hne : token ≠ [])
    (ht : ∀ c ∈ token, isWs c = false) :
    cleanLine (banner name version ++ SP :: token) = banner name version ++ SP :: token := by
  apply cleanLine_eq_self
  · simp
  · intro c hc
    obtain rfl : 65 = c := by simpa [banner, ascii] using hc
    decide
  · intro c hc
    rw [List.getLast?_append_of_ne_nil _ (List.cons_ne_nil SP token), List.getLast?_cons,
      List.getLast?_eq_some_getLast hne] at hc
    obtain rfl : token.getLast hne = c := by simpa using hc
    exact ht _ (List.getLast_mem hne)

theorem notWs_of_hex {c : Byte} (h : isDigit 16 c = true) : isWs c = false := by
  have h12 : c ≠ 12 := by
    rintro rfl
    exact absurd h (by decide)
  have h11 : c ≠ 11 := by
    rintro rfl
    exact absurd h (by decide)
  simp [isWs, notBlank_of_hex h, h11, h12]

theorem noLineEnd_text (hn : Plain name) (hv : Plain version) (id : Bytes) :
    ∀ c ∈ header name version ++ deviceIdToHex id, isLineEnd c = false := by
  have htoken : ∀ c ∈ SP :: deviceIdToken, isLineEnd c = false := by decide +kernel
  intro c hc
  simp only [header, List.mem_append] at hc
  rcases hc with (hc | hc) | hc
  · exact noLineEnd_banner hn hv c hc
  · exact htoken c hc
  · exact notLineEnd_of_hex (isDigit_deviceIdToHex id c hc)

theorem ackPrefix_found (name version rest : Bytes) :
    ∃ i, findStr ackPrefix (banner name version ++ rest) = some i := by
  refine Option.isSome_iff_exists.mp (findStr_isSome_iff.mpr (List.IsPrefix.isInfix ?_))
  simp only [banner, List.append_assoc]
  exact List.prefix_append _ _

theorem deviceIdToken_found (hn : Plain name) (hv : Plain version) (hex : Bytes) :
    findStr deviceIdToken (header name version ++ hex) =
      some ((banner name version).length + 1) := by
  have hsplit : header name version ++ hex =
      (banner name version ++ [SP]) ++ (deviceIdToken ++ hex) := by simp [header]
  rw [hsplit, findStr_append _ (List.prefix_append _ _), List.length_append]
  · rfl
  · intro w hw hne h
    rcases List.suffix_concat_iff.mp hw with rfl | ⟨v, rfl, hsuffix⟩
    · exact hne rfl
    · rw [List.append_assoc, List.singleton_append, prefix_append_cons (by decide)] at h
      exact noToken_banner hn hv (h.isInfix.trans hsuffix.isInfix)

theorem rdropWhile_deviceIdToHex (id : Bytes) :
    (deviceIdToHex id).rdropWhile isAckTail = deviceIdToHex id := by
  refine (rdropWhile_eq_self_iff isAckTail).mpr fun c hc => ?_
  have hd := isDigit_deviceIdToHex id c (List.mem_of_getLast? hc)
  have hb := notBlank_of_hex hd
  have hprompt : c ≠ PROMPT := by
    rintro rfl
    exact absurd hd (by decide)
  simp only [isBlank, Bool.or_eq_false_iff] at hb
  simp [isAckTail, hb.1.1.1, hb.1.2, hb.2, hprompt]

/-- An id of another length than sixteen bytes is refused. -/
theorem parseHeloAck_header (hn : Plain name) (hv : Plain version) (id : Bytes) :
    parseHeloAck (header name version ++ deviceIdToHex id) =
      if id.length = 16 then some id else none := by
  obtain ⟨i, hack⟩ := ackPrefix_found name version (SP :: deviceIdToken ++ deviceIdToHex id)
  have hdrop : (header name version ++ deviceIdToHex id).drop
      ((banner name version).length + 1 + deviceIdToken.length) = deviceIdToHex id := by
    apply List.drop_left'
    simp [header]
    omega
  have hlength : (deviceIdToHex id).length = 32 ↔ id.length = 16 := by
    rw [length_deviceIdToHex]
    omega
  rw [parseHeloAck, deviceIdToken_found hn hv, header, List.append_assoc, hack]
  simp only [Option.bind_eq_bind, Option.bind_some]
  rw [← List.append_assoc, ← header, hdrop, rdropWhile_deviceIdToHex]
  simp only [hlength]
  split
  · next hid => rw [← hid, mapM_parseHexByte]
  · rfl

/-- The token without its last character is no token. -/
theorem parseHeloAck_cut (hn : Plain name) (hv : Plain version) :
    parseHeloAck (banner name version ++ SP :: ascii "DEVICEID") = none := by
  have hnone : findStr deviceIdToken (banner name version ++ SP :: ascii "DEVICEID") = none := by
    rw [findStr_none_iff, infix_append_cons (by decide) (by decide), not_or]
    exact ⟨noToken_banner hn hv, by decide⟩
  rw [parseHeloAck, hnone]
  simp

/-- The host reads the id if the whole text fits, and fails otherwise. -/
theorem hostReads_response (hid : id.length = 16) (hn : Plain name) (hv : Plain version)
    (hlen : (header name version).length ≤ 128) :
    ∃ r, buildHeloResponse id name version = some r ∧
      hostReads r = if (rendered id name version).length < 128 then some id else none := by
  obtain ⟨k, hr, hk, hstop, hbound⟩ := buildHeloResponse_eq id hn hv hlen
  refine ⟨_, hr, ?_⟩
  rw [hostReads_eq (noLineEnd_text hn hv _)]
  have hrendered : (rendered id name version).length = (header name version).length + 33 := by
    simp [rendered, length_deviceIdToHex, hid]
  have htext : (header name version ++ deviceIdToHex (id.take k)).length =
      (header name version).length + 2 * k := by
    rw [List.length_append, length_deviceIdToHex, List.length_take, min_eq_left hk]
  rcases hlen.eq_or_lt with h128 | hlt
  · -- The last character of the token falls on the closing NUL.
    obtain rfl : k = 0 := by omega
    have hsplit : header name version ++ deviceIdToHex (id.take 0) =
        (banner name version ++ SP :: ascii "DEVICEID") ++ [61] := by
      simp only [header, List.append_assoc]
      rfl
    have hcut : (banner name version ++ SP :: ascii "DEVICEID").length = 127 := by
      have := congrArg List.length hsplit
      rw [htext, h128, List.length_append] at this
      simpa using this.symm
    rw [hsplit, List.take_left' hcut, cleanLine_banner name version (by decide) (by decide +kernel),
      parseHeloAck_cut hn hv, if_neg (by omega)]
  · have hwhole : ∀ c ∈ deviceIdToken ++ deviceIdToHex (id.take k), isWs c = false := by
      have htoken : ∀ c ∈ deviceIdToken, isWs c = false := by decide +kernel
      intro c hc
      rcases List.mem_append.mp hc with hc | hc
      · exact htoken c hc
      · exact notWs_of_hex (isDigit_deviceIdToHex _ c hc)
    have hclean := cleanLine_banner name version (by simp [deviceIdToken, ascii]) hwhole
    rw [← List.cons_append, ← List.append_assoc, ← header] at hclean
    rw [List.take_of_length_le (by omega), hclean, parseHeloAck_header hn hv, List.length_take,
      min_eq_left hk]
    by_cases hfits : (rendered id name version).length < 128
    · obtain rfl : k = 16 := by omega
      rw [if_pos rfl, if_pos hfits, List.take_of_length_le hid.le]
    · rw [if_neg (by omega), if_neg hfits]

end Read

/-- The response is safe, and read as this id or none, exactly if name and version leave room for
the token. -/
theorem heloRoundTrip_iff (id name version : Bytes) (hid : id.length = 16) (hn : Plain name)
    (hv : Plain version) :
    RoundTrip id name version ↔ name.length + version.length ≤ 97 := by
  constructor
  · intro h
    by_contra hlong
    have hover : buildHeloResponse id name version = none := buildHeloResponse_overrun (by
      rw [length_header]
      omega)
    exact absurd h.inBounds (by simp [hover])
  · intro hshort
    obtain ⟨r, hr, hreads⟩ := hostReads_response hid hn hv (by
      rw [length_header]
      omega)
    refine ⟨by rw [hr]; rfl, ?_, ?_⟩
    · rintro r' hr'
      obtain rfl : r = r' := Option.some.inj (hr.symm.trans hr')
      rw [hreads]
      split
      · exact Or.inl rfl
      · exact Or.inr rfl
    · rintro hfits r' hr'
      obtain rfl : r = r' := Option.some.inj (hr.symm.trans hr')
      rw [hreads, if_pos hfits]

section Bench

/-- The device id of the bench board. -/
def benchId : Bytes := [0x24, 0x6F, 0x28, 0xA1, 0xB2, 0xC3, 0, 0, 0, 0, 0, 0, 0, 0, 0, 1]

/-- A version stamped with branch, commit and build host. -/
def stampedVersion : Bytes :=
  ascii "2.4.1-feature-softap-provisioning-retry+g1f3c9ab7.20250114T093042Z.build-host-07.dirty"

theorem plain_bridge : Plain (ascii "ESP32-CAN-Bridge") :=
  ⟨by decide +kernel, by decide +kernel, by decide +kernel⟩

theorem plain_stampedVersion : Plain stampedVersion :=
  ⟨by decide +kernel, by decide +kernel, by decide +kernel⟩

theorem heloRoundTrip_iff_bridge :
    RoundTrip benchId (ascii "ESP32-CAN-Bridge") (ascii "2.4.1") ↔
      (ascii "ESP32-CAN-Bridge").length + (ascii "2.4.1").length ≤ 97 :=
  heloRoundTrip_iff benchId _ _ rfl plain_bridge
    ⟨by decide +kernel, by decide +kernel, by decide +kernel⟩

/-- The stamped version is followed by a CR behind the buffer. -/
theorem not_heloRoundTrip_stamped :
    Plain stampedVersion ∧ ¬ RoundTrip benchId (ascii "ESP32-CAN-Bridge") stampedVersion := by
  refine ⟨plain_stampedVersion, fun h => ?_⟩
  have hover : buildHeloResponse benchId (ascii "ESP32-CAN-Bridge") stampedVersion = none :=
    buildHeloResponse_overrun (by decide +kernel)
  exact absurd h.inBounds (by simp [hover])

end Bench

end VehicleSpy.Pipeline.HeloRoundTrip
