import VehicleSpy.Firmware.OtaUpdateServer
import VehicleSpy.Text.HttpMessage

/-! # The OTA upload request

The host pushes a signed firmware image as one HTTP request, with the signature as a part of its
multipart body; the device reads the signature from a header of the request. What name
resolution, the connection and the peer answer are inputs.
-/

namespace VehicleSpy.Pipeline

open Text Firmware

/-- `getaddrinfo`, with what connecting to each address answers; a name it knows has no line
break. -/
structure Resolver where
  getaddrinfo (host port : Bytes) : Option (List (Option ℕ))
  isName : ∀ host port addresses, getaddrinfo host port = some addresses →
    ∀ c ∈ host, isLineEnd c = false

structure OTAHttpTransport where
  host : Bytes
  port : ℤ
  username : Bytes
  password : Bytes
  fd : ℤ := -1
  succeeded : Bool := false
  lastError : Bytes := []
  deriving DecidableEq, Repr

namespace OTAHttpTransport

section Base64

def b64_table : Bytes :=
  ascii "ABCDEFGHIJKLMNOPQRSTUVWXYZabcdefghijklmnopqrstuvwxyz0123456789+/"

def b64 (i : Byte) : Byte := b64_table.getD i.toNat 0

def base64Encode : Bytes → Bytes
  | a :: b :: c :: input =>
    [b64 ((a &&& 0xFC) >>> 2), b64 ((a &&& 0x03) <<< 4 ||| (b &&& 0xF0) >>> 4),
      b64 ((b &&& 0x0F) <<< 2 ||| (c &&& 0xC0) >>> 6), b64 (c &&& 0x3F)] ++ base64Encode input
  | [a, b] =>
    [b64 ((a &&& 0xFC) >>> 2), b64 ((a &&& 0x03) <<< 4 ||| (b &&& 0xF0) >>> 4),
      b64 ((b &&& 0x0F) <<< 2), 61]
  | [a] => [b64 ((a &&& 0xFC) >>> 2), b64 ((a &&& 0x03) <<< 4), 61, 61]
  | [] => []

theorem b64_line (i : Byte) : isLineEnd (b64 i) = false := by
  have hall : ∀ c ∈ b64_table, isLineEnd c = false := by decide +kernel
  rw [b64, List.getD_eq_getElem?_getD]
  cases hi : b64_table[i.toNat]? with
  | none => rfl
  | some c => exact hall c (List.mem_of_getElem? hi)

theorem base64Encode_line (input : Bytes) : ∀ c ∈ base64Encode input, isLineEnd c = false := by
  fun_induction base64Encode input with
  | case1 a b c input ih => simpa [b64_line] using ih
  | case2 | case3 => simp [b64_line, show isLineEnd 61 = false from rfl]
  | case4 => exact List.forall_mem_nil _

end Base64

variable (t : OTAHttpTransport) (firmware signature : Bytes)

/-- `open`. -/
def openTransport (resolver : Resolver) : Bool × OTAHttpTransport :=
  match resolver.getaddrinfo t.host (decimal t.port) with
  | none => (false, { t with lastError := ascii "DNS resolution failed" })
  | some addresses =>
    match addresses.findSome? id with
    | none => (false, { t with fd := -1, lastError := ascii "Connection failed" })
    | some fd => (true, { t with fd := fd })

def boundaryOut : Bytes := ascii "----OTABoundary7d2c4a9e1f"

def signatureDisposition : Bytes :=
  ascii "Content-Disposition: form-data; name=\"signature\"; filename=\"signature.bin\""

def firmwareDisposition : Bytes :=
  ascii "Content-Disposition: form-data; name=\"firmware\"; filename=\"firmware.bin\""

def octetStream : Bytes := ascii "Content-Type: application/octet-stream"

def buildMultipartBody : Bytes :=
  ascii "--" ++ boundaryOut ++ CRLF ++
  signatureDisposition ++ CRLF ++
  octetStream ++ CRLF ++ CRLF ++
  signature ++ CRLF ++
  ascii "--" ++ boundaryOut ++ CRLF ++
  firmwareDisposition ++ CRLF ++
  octetStream ++ CRLF ++ CRLF ++
  firmware ++ CRLF ++
  ascii "--" ++ boundaryOut ++ ascii "--" ++ CRLF

/-- The lines of the head of the request. -/
def requestLines (body : Bytes) : List Bytes :=
  [ascii "POST /update HTTP/1.1", ascii "Host: " ++ t.host,
    ascii "Authorization: Basic " ++ base64Encode (t.username ++ [COLON] ++ t.password),
    ascii "Content-Type: multipart/form-data; boundary=" ++ boundaryOut,
    ascii "Content-Length: " ++ decimal body.length, ascii "Connection: close"]

/-- The request that `push` sends. -/
def request : Bytes :=
  let body := buildMultipartBody firmware signature
  (t.requestLines body).flatMap (· ++ CRLF) ++ CRLF ++ body

/-- What `send` takes at each call, until all is sent or a call fails. -/
def sendAll : Bytes → List ℤ → Bool × Bytes
  | [], _ => (true, [])
  | _, [] => (false, [])
  | data, n :: sends =>
    if n ≤ 0 then (false, [])
    else ((sendAll (data.drop n.toNat) sends).1, data.take n.toNat ++
      (sendAll (data.drop n.toNat) sends).2)

/-- `push`, with what it puts on the wire; `response` is what the device answers. -/
def push (sends : List ℤ) (response : Bytes) : Bool × OTAHttpTransport × Bytes :=
  if t.fd < 0 then (false, { t with lastError := ascii "not connected" }, [])
  else if signature.length ≠ 64 then
    (false, { t with lastError := ascii "signature must be 64 bytes" }, [])
  else
    match sendAll (t.request firmware signature) sends with
    | (false, sent) => (false, { t with lastError := ascii "Send failed" }, sent)
    | (true, sent) =>
      if (findStr (ascii "200") response).isSome then (true, { t with succeeded := true }, sent)
      else
        (false, { t with
          succeeded := false
          lastError := ascii "Server response: " ++ response.take 200 }, sent)

/-- What the device makes of a request: the signature from its header, the length and the
firmware from the part of the body. -/
structure Agrees (request : Bytes) : Prop where
  signature_travels : ∃ value, header OtaConfig.OTA_SIG_HDR request = some value ∧
    ∀ out : Bytes, out.length = 64 → parseHexSig value out = (true, signature)
  length_declared : ∃ body, bodyOf request = some body ∧
    header (ascii "Content-Length") request = some (decimal body.length)
  firmware_travels : ∃ boundary body head,
    header (ascii "Content-Type") request =
      some (ascii "multipart/form-data; boundary=" ++ boundary) ∧
    bodyOf request = some body ∧ (head, firmware) ∈ formParts boundary body

section Request

variable {t firmware signature}

theorem isHex_decimal (n : ℕ) : ∀ c ∈ decimal n, isDigit 16 c = true := by
  intro c hc
  rw [decimal_of_nonneg (Int.natCast_nonneg _)] at hc
  have hdigit := of_decide_eq_true (isDigit_baseDigits (by decide) (by decide) _ c hc)
  exact decide_eq_true (hdigit.trans (by decide))

theorem requestLines_line (hhost : ∀ c ∈ t.host, isLineEnd c = false) (body : Bytes) :
    ∀ l ∈ requestLines t body, l ≠ [] ∧ ∀ c ∈ l, isLineEnd c = false := by
  have hdecimal : ∀ c ∈ decimal body.length, isLineEnd c = false := fun c hc =>
    notLineEnd_of_hex (isHex_decimal _ c hc)
  have hline {u v : Bytes} (hu : u ≠ [] ∧ ∀ c ∈ u, isLineEnd c = false)
      (hv : ∀ c ∈ v, isLineEnd c = false) : u ++ v ≠ [] ∧ ∀ c ∈ u ++ v, isLineEnd c = false :=
    ⟨by simp [hu.1], fun c hc => (List.mem_append.mp hc).elim (hu.2 c) (hv c)⟩
  have hbase := base64Encode_line (t.username ++ [COLON] ++ t.password)
  rintro l hl
  simp only [requestLines, List.mem_cons, List.not_mem_nil, or_false] at hl
  rcases hl with rfl | rfl | rfl | rfl | rfl | rfl
  · decide +kernel
  · exact hline (by decide +kernel) hhost
  · exact hline (by decide +kernel) hbase
  · decide +kernel
  · exact hline (by decide +kernel) hdecimal
  · decide +kernel

/-- The headers of a request. -/
def requestHeaders (t : OTAHttpTransport) (body : Bytes) : List (Bytes × Bytes) :=
  [(ascii "Host", SP :: t.host),
    (ascii "Authorization", ascii " Basic " ++ base64Encode (t.username ++ [COLON] ++ t.password)),
    (ascii "Content-Type", ascii " multipart/form-data; boundary=" ++ boundaryOut),
    (ascii "Content-Length", SP :: decimal body.length), (ascii "Connection", ascii " close")]

theorem requestLines_tail (t : OTAHttpTransport) (body : Bytes) :
    (t.requestLines body).tail =
      (t.requestHeaders body).map fun field => field.1 ++ COLON :: field.2 := by
  have hhost : ascii "Host: " = ascii "Host" ++ [COLON, SP] := by decide
  have hauth : ascii "Authorization: Basic " =
      ascii "Authorization" ++ COLON :: ascii " Basic " := by decide
  have htype : ascii "Content-Type: multipart/form-data; boundary=" =
      ascii "Content-Type" ++ COLON :: ascii " multipart/form-data; boundary=" := by decide
  have hlength : ascii "Content-Length: " = ascii "Content-Length" ++ [COLON, SP] := by decide
  have hclose : ascii "Connection: close" = ascii "Connection" ++ COLON :: ascii " close" := by
    decide
  simp only [requestLines, requestHeaders, hhost, hauth, htype, hlength, hclose, List.tail_cons,
    List.map_cons, List.map_nil, List.append_assoc, List.cons_append, List.nil_append]

theorem headers_request (hhost : ∀ c ∈ t.host, isLineEnd c = false) :
    (headLines (t.request firmware signature)).tail.filterMap headerField =
      (t.requestHeaders (buildMultipartBody firmware signature)).map
        fun field => (field.1, trim field.2) := by
  have hnames : ∀ field ∈ t.requestHeaders (buildMultipartBody firmware signature),
      COLON ∉ field.1 := by
    simp only [requestHeaders, List.forall_mem_cons, List.not_mem_nil, false_implies,
      implies_true, and_true]
    decide
  rw [request, headLines_message (requestLines_line hhost _), requestLines_tail,
    filterMap_headerField hnames]

/-- No header of the request holds the signature. -/
theorem header_signature (hhost : ∀ c ∈ t.host, isLineEnd c = false) :
    header OtaConfig.OTA_SIG_HDR (t.request firmware signature) = none := by
  rw [header, headers_request hhost]
  simp only [requestHeaders, List.map_cons, List.map_nil, List.findSome?_cons, List.findSome?_nil]
  rw [if_neg (by decide), if_neg (by decide), if_neg (by decide), if_neg (by decide),
    if_neg (by decide)]

/-- The length that the request declares is the length of its body. -/
theorem length_declared_request (hhost : ∀ c ∈ t.host, isLineEnd c = false) :
    bodyOf (t.request firmware signature) = some (buildMultipartBody firmware signature) ∧
      header (ascii "Content-Length") (t.request firmware signature) =
        some (decimal (buildMultipartBody firmware signature).length) := by
  constructor
  · exact bodyOf_message (requestLines_line hhost _) (List.cons_ne_nil _ _)
  · rw [header, headers_request hhost]
    simp only [requestHeaders, List.map_cons, List.map_nil, List.findSome?_cons,
      List.findSome?_nil]
    rw [if_neg (by decide), if_neg (by decide), if_neg (by decide), if_pos (by decide)]
    have hfree : ∀ c ∈ decimal (buildMultipartBody firmware signature).length,
        isBlank c = false := fun c hc => notBlank_of_hex (isHex_decimal _ c hc)
    rw [trim, List.dropWhile_cons_of_pos (by rfl),
      (dropWhile_eq_self_iff isBlank).mpr fun c hc => hfree c (List.mem_of_mem_head? hc),
      (rdropWhile_eq_self_iff isBlank).mpr fun c hc => hfree c (List.mem_of_mem_getLast? hc)]

def signatureHead : Bytes := signatureDisposition ++ CRLF ++ octetStream

def firmwareHead : Bytes := firmwareDisposition ++ CRLF ++ octetStream

theorem buildMultipartBody_eq (firmware signature : Bytes) :
    buildMultipartBody firmware signature =
      formBody boundaryOut [(signatureHead, signature), (firmwareHead, firmware)] := by
  unfold buildMultipartBody formBody printPart signatureHead firmwareHead
  simp only [List.flatMap_cons, List.flatMap_nil, List.append_assoc, List.append_nil]

/-- The head of a part, two lines. -/
theorem head_lines {a b : Bytes} (ha : a ≠ [] ∧ ∀ c ∈ a, isLineEnd c = false)
    (hb : b ≠ [] ∧ ∀ c ∈ b, isLineEnd c = false) :
    findStr (CRLF ++ CRLF) (a ++ CRLF ++ b ++ (CRLF ++ CRLF)) = some (a ++ CRLF ++ b).length := by
  have hlines : ∀ l ∈ [a, b], l ≠ [] ∧ ∀ c ∈ l, isLineEnd c = false :=
    List.forall_mem_cons.mpr ⟨ha, List.forall_mem_cons.mpr ⟨hb, List.forall_mem_nil _⟩⟩
  exact findStr_head hlines (List.cons_ne_nil _ _) (by simp)

/-- The boundary is not found before the empty line behind the head of a part. -/
theorem infix_printPart {a b content : Bytes} (ha : ∀ c ∈ a, isLineEnd c = false)
    (hb : ∀ c ∈ b, isLineEnd c = false) (hahead : a.head? = some 67) (hbhead : b.head? = some 67) :
    CR :: dashes boundaryOut <:+: printPart (a ++ CRLF ++ b, content) ↔
      CRLF ++ ascii "--" ++ boundaryOut <:+: CRLF ++ content := by
  have hfree {l : Bytes} (hl : ∀ c ∈ l, isLineEnd c = false) : CR ∉ l := fun hmem =>
    absurd (hl CR hmem) (by decide)
  have hthree : ¬ [CR, LF, 45] <:+: CRLF ++ (a ++ CRLF ++ b) ++ CRLF ++ CRLF := by
    -- Behind each of the first three line ends stands a C or a CR.
    have hnext {l v : Bytes} (hl : (l ++ v).head? ≠ some 45) (hmem : CR ∉ l) :
        [CR, LF, 45] <:+: CRLF ++ (l ++ v) ↔ [CR, LF, 45] <:+: v := by
      have hskip : CR ∉ LF :: l := List.not_mem_cons_of_ne_of_not_mem (by decide) hmem
      refine (List.infix_cons_iff.trans (or_iff_right fun hpre => hl ?_)).trans (infix_skip hskip)
      obtain ⟨r, hr⟩ := (List.cons_prefix_cons.mp (List.cons_prefix_cons.mp hpre).2).2
      have heq : l ++ v = 45 :: r := hr.symm
      rw [heq]
      rfl
    have hsplit : CRLF ++ (a ++ CRLF ++ b) ++ CRLF ++ CRLF =
        CRLF ++ (a ++ (CRLF ++ (b ++ (CRLF ++ CRLF)))) := by
      simp only [List.append_assoc]
    rw [hsplit, hnext (by simp [hahead]) (hfree ha), hnext (by simp [hbhead]) (hfree hb)]
    decide
  have hp : [CR, LF, 45] <+: CR :: dashes boundaryOut := by decide
  have hsplit : printPart (a ++ CRLF ++ b, content) =
      CRLF ++ (a ++ CRLF ++ b) ++ CRLF ++ (CRLF ++ content) := by
    simp [printPart]
  rw [hsplit]
  exact infix_behind (k := 2) hp (by decide) (by simp [CRLF]) hthree

/-- The body has its two parts exactly if neither the signature nor the firmware holds the
boundary at the start of a line. -/
theorem formParts_body (firmware signature : Bytes) :
    formParts boundaryOut (buildMultipartBody firmware signature) =
        [(signatureHead, signature), (firmwareHead, firmware)] ↔
      ¬ CRLF ++ ascii "--" ++ boundaryOut <:+: CRLF ++ signature ∧
        ¬ CRLF ++ ascii "--" ++ boundaryOut <:+: CRLF ++ firmware := by
  have hsig : ∀ c ∈ signatureDisposition, isLineEnd c = false := by decide +kernel
  have hfw : ∀ c ∈ firmwareDisposition, isLineEnd c = false := by decide +kernel
  have htype : ∀ c ∈ octetStream, isLineEnd c = false := by decide +kernel
  have hheads : ∀ part ∈ [(signatureHead, signature), (firmwareHead, firmware)],
      findStr (CRLF ++ CRLF) (part.1 ++ (CRLF ++ CRLF)) = some part.1.length := by
    simp only [List.forall_mem_cons, List.not_mem_nil, false_implies, implies_true, and_true]
    exact ⟨head_lines ⟨by decide, hsig⟩ ⟨by decide, htype⟩,
      head_lines ⟨by decide, hfw⟩ ⟨by decide, htype⟩⟩
  rw [buildMultipartBody_eq, formParts_formBody (by decide) hheads]
  simp only [List.forall_mem_cons, List.not_mem_nil, false_implies, implies_true, and_true]
  rw [signatureHead, firmwareHead, infix_printPart hsig htype (by decide) (by decide),
    infix_printPart hfw htype (by decide) (by decide)]

end Request

/-- An opened transport has a socket, and its host's name has no line break. -/
theorem of_open {resolver : Resolver} {t : OTAHttpTransport}
    (h : (t.openTransport resolver).1 = true) :
    0 ≤ (t.openTransport resolver).2.fd ∧
      ∀ c ∈ (t.openTransport resolver).2.host, isLineEnd c = false := by
  unfold openTransport at h ⊢
  split at h
  · cases h
  · next addresses hname =>
    split at h
    · cases h
    · exact ⟨Int.natCast_nonneg _, resolver.isName _ _ _ hname⟩

/-- What is sent is the request, unless sending it fails. -/
theorem sendAll_eq (data : Bytes) (sends : List ℤ) (h : (sendAll data sends).1 = true) :
    (sendAll data sends).2 = data := by
  fun_induction sendAll data sends with
  | case1 => rfl
  | case2 => cases h
  | case3 => cases h
  | case4 data n sends hne hn ih => rw [ih h, List.take_append_drop]

theorem push_sends {sends : List ℤ} (response : Bytes) (hfd : 0 ≤ t.fd)
    (hsig : signature.length = 64) (h : (sendAll (t.request firmware signature) sends).1 = true) :
    (t.push firmware signature sends response).2.2 = t.request firmware signature := by
  have hall := sendAll_eq _ _ h
  rw [push, if_neg (Int.not_lt.mpr hfd), if_neg (not_not_intro hsig)]
  generalize sendAll (t.request firmware signature) sends = sent at h hall ⊢
  obtain ⟨ok, sent⟩ := sent
  obtain rfl : ok = true := h
  dsimp only
  split <;> exact hall

/-- The request of an opened transport never carries the signature where the device reads it,
and the device refuses it, whatever the firmware and the signature are. -/
theorem push_never_agrees {resolver : Resolver} {t : OTAHttpTransport}
    (hopen : (t.openTransport resolver).1 = true) (firmware : Bytes) {signature : Bytes}
    (hsig : signature.length = 64) {sends : List ℤ} (response : Bytes)
    (hsend : (sendAll ((t.openTransport resolver).2.request firmware signature) sends).1 = true) :
    let sent := ((t.openTransport resolver).2.push firmware signature sends response).2.2
    ¬ Agrees firmware signature sent ∧
      ∀ {P : Type} (s : OtaUpdateServer) (env : OtaEnv P), s.sodiumReady = true →
        env.header = (header OtaConfig.OTA_SIG_HDR sent).getD [] →
        (s.handleStart env).1.otaErr = errorMessage .BAD_SIGNATURE_HEADER := by
  obtain ⟨hfd, hhost⟩ := of_open hopen
  dsimp only
  rw [push_sends _ firmware signature response hfd hsig hsend]
  have hnone := @header_signature _ firmware signature hhost
  constructor
  · rintro ⟨⟨value, hvalue, -⟩, -, -⟩
    rw [hnone] at hvalue
    cases hvalue
  · intro P s env hs henv
    rw [hnone, Option.getD_none] at henv
    have hparse : (parseHexSig env.header s.otaSig).1 = false := by
      rw [henv]
      rfl
    simp [OtaUpdateServer.handleStart, OtaUpdateServer.reportError, hs, hparse]

section Sample

/-- A network in which every name without a line break is that of a device. -/
def everyName : Resolver where
  getaddrinfo host _ := if host.all fun c => !isLineEnd c then some [none, some 3] else none
  isName host _ _ h := by
    split at h
    · next hname => simpa using hname
    · cases h

def device : OTAHttpTransport :=
  { host := ascii "esp32", port := 80, username := ascii "ota", password := ascii "pass" }

theorem open_device : device.openTransport everyName = (true, { device with fd := 3 }) := by
  have hname : (device.host.all fun c => !isLineEnd c) = true := by decide +kernel
  simp only [openTransport, everyName, if_pos hname]
  rfl

/-- One call of `send` may take all of the request. -/
theorem sendAll_once (data : Bytes) : (sendAll data [(data.length : ℤ)]).1 = true := by
  cases data with
  | nil => rfl
  | cons c data =>
    have hpos : ¬ ((c :: data).length : ℤ) ≤ 0 := by
      rw [List.length_cons]
      omega
    unfold sendAll
    rw [if_neg hpos, Int.toNat_natCast, List.drop_length]
    rfl

theorem push_never_agrees_device :
    ¬ Agrees [0xE9, 1] (List.replicate 64 7)
      ((device.openTransport everyName).2.push [0xE9, 1] (List.replicate 64 7)
        [(((device.openTransport everyName).2.request [0xE9, 1] (List.replicate 64 7)).length : ℤ)]
        (ascii "HTTP/1.1 403")).2.2 :=
  (push_never_agrees (by rw [open_device]) [0xE9, 1] (by decide) _ (sendAll_once _)).1

/-- An image of one byte: the request has no header for its signature. -/
theorem device_not_agrees :
    ¬ Agrees [0xE9] (List.replicate 64 0)
      ((device.openTransport everyName).2.push [0xE9] (List.replicate 64 0)
        [(((device.openTransport everyName).2.request [0xE9] (List.replicate 64 0)).length : ℤ)]
        []).2.2 := by
  rintro ⟨⟨value, hvalue, -⟩, -, -⟩
  obtain ⟨hfd, hhost⟩ := @of_open everyName device (by rw [open_device])
  rw [push_sends _ _ _ _ hfd (by decide) (sendAll_once _), header_signature hhost] at hvalue
  cases hvalue

end Sample

end OTAHttpTransport

end VehicleSpy.Pipeline
