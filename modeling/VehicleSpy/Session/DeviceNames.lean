import VehicleSpy.Firmware.LoopHeartbeat
import VehicleSpy.Pipeline.ConnectHandshake
import VehicleSpy.Pipeline.HeloAck
import VehicleSpy.Session.DeviceWire

/-! # Where a device's stream names a device

The host takes the 32 digits behind a token of the acknowledgement for the device's id. In all
that a device sends while a host shakes hands with it, no place but its own acknowledgement has
such digits behind such a token: neither a name of a network, nor a line that a frame without
its line end is glued to.
-/

namespace VehicleSpy.Session

open Firmware

open Text hiding trim

open Pipeline.TCPTransport

section Straddle

variable {α : Type} {t u v : List α}

/-- A word in two texts stands in one of them, or across their boundary. -/
theorem infix_append_cases (h : t <:+: u ++ v) :
    t <:+: u ∨ t <:+: v ∨
      ∃ t₁ t₂, t = t₁ ++ t₂ ∧ t₁ ≠ [] ∧ t₂ ≠ [] ∧ t₁ <:+ u ∧ t₂ <+: v := by
  obtain ⟨x, y, hxy⟩ := h
  rw [List.append_assoc] at hxy
  rcases List.append_eq_append_iff.mp hxy with ⟨z, rfl, hv⟩ | ⟨z, rfl, rfl⟩
  · rcases List.append_eq_append_iff.mp hv with ⟨z', rfl, rfl⟩ | ⟨z', rfl, rfl⟩
    · exact Or.inl ⟨x, z', by simp⟩
    · rcases eq_or_ne z [] with rfl | hz
      · exact Or.inr (Or.inl ⟨[], y, rfl⟩)
      · rcases eq_or_ne z' [] with rfl | hz'
        · exact Or.inl ⟨x, [], by simp⟩
        · exact Or.inr (Or.inr ⟨z, z', rfl, hz, hz', ⟨x, rfl⟩, ⟨y, rfl⟩⟩)
  · exact Or.inr (Or.inl ⟨z, y, by rw [List.append_assoc]⟩)

end Straddle

/-- The digits of an id, and the id that the host reads from them. -/
structure IdDigits (hex id : Bytes) : Prop where
  length : hex.length = 32
  parses : (List.range 16).mapM (fun i => parseHexByte hex (i * 2)) = some id

/-- Wherever the text has digits of an id behind the end of a token, they are of this id. -/
def Names (id text : Bytes) : Prop :=
  ∀ hex r, IdDigits hex r → 68 :: 61 :: hex <:+: text → r = id

section Digits

variable {hex id : Bytes}

theorem isDigit_of_hexCharToInt {c : Byte} {d : ℕ} (h : hexCharToInt c = some d) :
    isDigit 16 c = true := by
  have hall : ∀ c : Byte, hexCharToInt c ≠ none → isDigit 16 c = true :=
    forall_byte (by decide +kernel)
  exact hall c (by rw [h]; exact Option.some_ne_none d)

theorem isDigit_of_parseHexByte {i : ℕ} {b : Byte} (h : parseHexByte hex i = some b) :
    ∀ j, j = i ∨ j = i + 1 → ∀ c ∈ hex[j]?, isDigit 16 c = true := by
  obtain ⟨hi, hhi, h⟩ := Option.bind_eq_some_iff.mp h
  obtain ⟨d, hd, h⟩ := Option.bind_eq_some_iff.mp h
  obtain ⟨lo, hlo, h⟩ := Option.bind_eq_some_iff.mp h
  obtain ⟨d', hd', -⟩ := Option.bind_eq_some_iff.mp h
  rintro j (rfl | rfl) c hc
  · rw [hhi] at hc
    exact Option.some.inj hc ▸ isDigit_of_hexCharToInt hd
  · rw [hlo] at hc
    exact Option.some.inj hc ▸ isDigit_of_hexCharToInt hd'

theorem IdDigits.digits (h : IdDigits hex id) : ∀ c ∈ hex, isDigit 16 c = true := by
  intro c hc
  obtain ⟨i, hi, rfl⟩ := List.getElem_of_mem hc
  have hlt : i / 2 < 16 := by
    have := h.length
    omega
  rcases hpair : parseHexByte hex (i / 2 * 2) with _ | b
  · have hnone := mapM_range_none (f := fun i => parseHexByte hex (i * 2))
      (j := (⟨i / 2, hlt⟩ : Fin 16)) hpair
    rw [h.parses] at hnone
    cases hnone
  · exact isDigit_of_parseHexByte hpair i (by omega) _ (List.getElem?_eq_getElem hi)

theorem IdDigits.notMem (h : IdDigits hex id) {c : Byte} (hc : isDigit 16 c = false) :
    c ∉ hex := by
  intro hmem
  rw [h.digits c hmem] at hc
  cases hc

/-- What the host reads out of an acknowledgement are digits of an id behind a token. -/
theorem idDigits_of_parseHeloAck {ack r : Bytes} (h : parseHeloAck ack = some r) :
    ∃ hex, IdDigits hex r ∧ 68 :: 61 :: hex <:+: ack := by
  obtain ⟨i, -, h⟩ := Option.bind_eq_some_iff.mp h
  obtain ⟨pos, hpos, h⟩ := Option.bind_eq_some_iff.mp h
  dsimp only at h
  split at h
  · next hlen =>
    refine ⟨_, ⟨hlen, h⟩, ?_⟩
    have htoken : deviceIdToken <+: ack.drop pos := findStr_prefix hpos
    obtain ⟨v, hv⟩ := htoken
    have hdrop : ack.drop (pos + deviceIdToken.length) = v := by
      rw [← List.drop_drop, ← hv, List.drop_left']
      rfl
    obtain ⟨z, hz⟩ := List.rdropWhile_prefix isAckTail v
    rw [hdrop]
    refine ⟨ack.take pos ++ ascii "DEVICEI", z, ?_⟩
    calc ack.take pos ++ ascii "DEVICEI" ++ 68 :: 61 :: v.rdropWhile isAckTail ++ z
        = ack.take pos ++ (deviceIdToken ++ (v.rdropWhile isAckTail ++ z)) := by
          simp [deviceIdToken, ascii]
      _ = ack := by rw [hz, hv, List.take_append_drop]
  · cases h

end Digits

section Names

variable {id u v text : Bytes}

theorem Names.mono (h : Names id v) (hu : u <:+: v) : Names id u :=
  fun hex r hhex hin => h hex r hhex (hin.trans hu)

/-- Without an equals sign there is no token. -/
theorem names_of_notMem (h : 61 ∉ text) : Names id text :=
  fun _ _ _ hin => absurd (hin.subset (by simp)) h

/-- A short text has no room for the digits. -/
theorem names_of_length (h : text.length < 34) : Names id text := by
  intro hex r hhex hin
  have hle := hin.length_le
  rw [List.length_cons, List.length_cons, hhex.length] at hle
  omega

/-- Digits of an id do not reach over a line end or a blank. -/
theorem Names.append_cons {c : Byte} (hc : isDigit 16 c = false) (hne : c ≠ 68 ∧ c ≠ 61)
    (hu : Names id u) (hv : Names id v) : Names id (u ++ c :: v) := by
  intro hex r hhex hin
  have hnot : c ∉ 68 :: 61 :: hex := by
    simpa [hne.1, hne.2] using hhex.notMem hc
  rw [infix_append_cons hnot (List.cons_ne_nil _ _)] at hin
  exact hin.elim (hu hex r hhex) (hv hex r hhex)

/-- A field names nothing if its value does not and its label does not end like a token; behind
a token the value has to be digits of this id. -/
theorem names_field (hu : 61 ∉ u) (hv : Names id v)
    (htoken : u.getLast? = some 68 → ∀ hex r, IdDigits hex r → hex <+: v → r = id) :
    Names id (u ++ 61 :: v) := by
  rintro hex r hhex ⟨x, y, hxy⟩
  have hfree : (61 : Byte) ∉ hex := hhex.notMem (by decide)
  by_cases hx : 61 ∈ x
  · -- the equals sign of the label stands in front of the token
    obtain ⟨x₁, x₂, rfl, hx₁⟩ := List.eq_append_cons_of_mem hx
    have hsplit : x₁ ++ 61 :: (x₂ ++ 68 :: 61 :: hex ++ y) = u ++ 61 :: v := by
      rw [← hxy]
      simp
    obtain ⟨-, rfl⟩ := first_split_inj hx₁ hu hsplit
    exact hv hex r hhex ⟨x₂, y, rfl⟩
  · have hsplit : (x ++ [68]) ++ 61 :: (hex ++ y) = u ++ 61 :: v := by
      rw [← hxy]
      simp
    obtain ⟨rfl, rfl⟩ := first_split_inj (by simp [hx]) hu hsplit
    exact htoken (by simp) hex r hhex (List.prefix_append _ _)

end Names

section Clean

variable {id u v : Bytes}

/-- A piece of the stream that can be followed and preceded by others: it names this device only,
and an equals sign comes neither first nor behind its last line end. -/
structure Clean (id text : Bytes) : Prop where
  names : Names id text
  unfinished : 61 ∉ remainder isLineEnd text
  head : text.head? ≠ some 61

theorem mem_remainder_append {p : Byte → Bool} {c : Byte} (h : c ∈ remainder p (u ++ v)) :
    c ∈ remainder p u ∨ c ∈ remainder p v := by
  rw [remainder_append] at h
  by_cases hfree : ∃ d ∈ v, p d = true
  · obtain ⟨v₁, d, v₂, rfl, hd, hv₁⟩ := first_separator hfree
    have hsplit : ∀ x ∈ remainder p u ++ v₁, p x = false :=
      List.forall_mem_append.mpr ⟨remainder_free u, hv₁⟩
    rw [← List.append_assoc, remainder_closed hsplit hd] at h
    rw [remainder_closed hv₁ hd]
    exact Or.inr h
  · have hopen : ∀ x ∈ v, p x = false := by simpa using hfree
    rw [remainder_open (List.forall_mem_append.mpr ⟨remainder_free u, hopen⟩)] at h
    rw [remainder_open hopen]
    exact List.mem_append.mp h

theorem Clean.append (hu : Clean id u) (hv : Clean id v) : Clean id (u ++ v) := by
  constructor
  · intro hex r hhex hin
    rcases infix_append_cases hin with hin | hin | ⟨t₁, t₂, ht, hne₁, hne₂, hsuf, hpre⟩
    · exact hu.names hex r hhex hin
    · exact hv.names hex r hhex hin
    · -- the part in front of the boundary has no line end, so no equals sign either
      have hopen : ∀ c ∈ t₁, isLineEnd c = false := by
        intro c hc
        have hmem : c ∈ 68 :: 61 :: hex := ht ▸ List.mem_append_left _ hc
        rcases List.mem_cons.mp hmem with rfl | hmem
        · rfl
        · rcases List.mem_cons.mp hmem with rfl | hmem
          · rfl
          · exact notLineEnd_of_hex (hhex.digits c hmem)
      have hnot : 61 ∉ t₁ := by
        intro hmem
        have hrest := remainder_mono (p := isLineEnd) hsuf
        rw [remainder_open hopen] at hrest
        exact hu.unfinished (hrest.subset hmem)
      rcases t₁ with _ | ⟨c, _ | ⟨c', t₁⟩⟩
      · exact absurd rfl hne₁
      · obtain ⟨-, rfl⟩ := List.cons.inj ht
        obtain ⟨y, rfl⟩ := hpre
        exact absurd rfl hv.head
      · obtain ⟨-, ht⟩ := List.cons.inj ht
        obtain ⟨rfl, -⟩ := List.cons.inj ht
        exact absurd (by simp) hnot
  · intro hmem
    exact (mem_remainder_append hmem).elim hu.unfinished hv.unfinished
  · cases u with
    | nil => exact hv.head
    | cons c u => exact hu.head

theorem clean_nil (id : Bytes) : Clean id [] :=
  ⟨names_of_notMem List.not_mem_nil, List.not_mem_nil, by simp⟩

theorem clean_flatMap {msgs : List Message} (h : ∀ m ∈ msgs, Clean id m.text) :
    Clean id (msgs.flatMap Message.text) := by
  induction msgs with
  | nil => exact clean_nil id
  | cons m msgs ih =>
    obtain ⟨hm, hmsgs⟩ := List.forall_mem_cons.mp h
    rw [List.flatMap_cons]
    exact hm.append (ih hmsgs)

theorem clean_of_notMem (h : 61 ∉ u) : Clean id u :=
  ⟨names_of_notMem h, fun hmem => h ((remainder_suffix u).subset hmem),
    fun hhead => h (List.mem_of_head? hhead)⟩

end Clean

/-- A device: its id, and the version that it was built with. -/
structure Device where
  id : Bytes
  version : Bytes
  length_id : id.length = 16
  version_plain : Pipeline.HeloRoundTrip.Plain version
  version_noEq : 61 ∉ version

/-- A state that the loop reports: a name of at most 32 bytes for the network, addresses and a
cadence, and what the manager says about an auth campaign. -/
structure Ordinary (status : LoopStatus) : Prop where
  ssid : status.targetSsid.length ≤ 32
  ownIp : 61 ∉ status.ownIp
  clientIp : 61 ∉ status.clientIp
  cadence : 61 ∉ status.discoveryCadence
  auth : ∃ ctx, status.authDetail = LoopHeartbeat.getAuthCampaignDetail ctx

/-- The loop is the device's: its dispatcher knows the id and the version, and its heartbeats
report ordinary states. -/
structure Device.Runs (d : Device) (events : List LoopEvent) : Prop where
  env : ∀ env input, .cycle env input ∈ events →
    env.deviceId = d.id ∧ env.firmwareBuildVersion = d.version
  heartbeat : ∀ snapshot connected, .heartbeat snapshot connected ∈ events →
    ∃ nowMs status, Ordinary status ∧ snapshot = LoopHeartbeat.printed d.version nowMs status

section Heartbeat

open LoopHeartbeat

variable {id version : Bytes} {status : LoopStatus}

theorem isPrefix_cString (buf : Bytes) : cString buf <+: buf := List.takeWhile_prefix _

theorem notMem_cString {c : Byte} {buf : Bytes} (h : c ∉ buf) : c ∉ cString buf :=
  fun hc => h ((isPrefix_cString buf).subset hc)

theorem notMem_orNone {c : Byte} {text : Bytes} (h : c ∉ text) (hc : c ∉ ascii "none") :
    c ∉ orNone text := by
  rw [orNone]
  split
  · exact hc
  · exact notMem_cString h

theorem eq_notMem_decimal (v : ℤ) : 61 ∉ decimal v := notMem_decimal (by decide) (by decide) v

/-- A label and its equals sign, which do not end like a token. -/
def IsLabel (key : Bytes) : Prop :=
  key.getLast? = some 61 ∧ 61 ∉ key.dropLast ∧ key.dropLast ≠ [] ∧
    key.dropLast.getLast? ≠ some 68

instance : DecidablePred IsLabel := fun _ => inferInstanceAs (Decidable (_ ∧ _))

/-- A value without an equals sign, the label of the next field, and what follows. -/
theorem names_label {key value v : Bytes} (hkey : IsLabel key) (hvalue : 61 ∉ value)
    (hv : Names id v) : Names id (value ++ (key ++ v)) := by
  obtain ⟨hlast, hfree, hne, hD⟩ := hkey
  obtain ⟨label, rfl⟩ := List.getLast?_eq_some_iff.mp hlast
  rw [List.dropLast_concat] at hfree hne hD
  rw [List.append_assoc, List.singleton_append, ← List.append_assoc]
  apply names_field
  · simp [hvalue, hfree]
  · exact hv
  · intro htoken
    rw [List.getLast?_append_of_ne_nil _ hne] at htoken
    exact absurd htoken hD

/-- The first field. -/
theorem names_first {key v : Bytes} (hkey : IsLabel key) (hv : Names id v) :
    Names id (key ++ v) :=
  names_label hkey List.not_mem_nil hv

theorem getAuthCampaignDetail_noNul (ctx : WiFiContext) :
    ∀ c ∈ getAuthCampaignDetail ctx, c ≠ 0 := by
  have hreason : ∀ c ∈ ascii "auth fail reason=", c ≠ 0 := by decide +kernel
  have hstrategy : ∀ c ∈ ascii " strategy=", c ≠ 0 := by decide +kernel
  have hloop : ∀ c ∈ ascii " loop=", c ≠ 0 := by decide +kernel
  have hof : ∀ c ∈ ascii "/3", c ≠ 0 := by decide +kernel
  rw [getAuthCampaignDetail]
  split
  · exact List.forall_mem_nil _
  · simp only [List.forall_mem_append]
    exact ⟨⟨⟨⟨⟨⟨⟨hreason, decimal_noNul _⟩, hstrategy⟩, decimal_noNul _⟩, hof⟩, hloop⟩,
      decimal_noNul _⟩, hof⟩

/-- What stands between the monitor's state and the version. -/
theorem names_auth (h : ∃ ctx, status.authDetail = getAuthCampaignDetail ctx) {value v : Bytes}
    (hvalue : 61 ∉ value) (hv : Names id v) :
    Names id (value ++ ((if status.authDetail.isEmpty then [] else
      ascii " auth=" ++ cString status.authDetail) ++ (ascii " fw=" ++ v))) := by
  obtain ⟨ctx, hctx⟩ := h
  have hcString : cString (getAuthCampaignDetail ctx) = getAuthCampaignDetail ctx :=
    List.takeWhile_eq_self_iff.mpr fun c hc => decide_eq_true
      (getAuthCampaignDetail_noNul ctx c hc)
  have hof : 61 ∉ ascii "/3" := by decide
  rw [hctx]
  split
  · rw [List.nil_append]
    exact names_label (by decide +kernel) hvalue hv
  · next hsome =>
    have hpending : ¬ (!ctx.pendingAuthFail) = true := by
      intro hnot
      rw [getAuthCampaignDetail, if_pos hnot] at hsome
      exact hsome rfl
    rw [hcString, getAuthCampaignDetail, if_neg hpending]
    simp only [List.append_assoc]
    apply names_label (by decide +kernel) hvalue
    apply names_first (by decide +kernel)
    apply names_label (by decide +kernel) (eq_notMem_decimal _)
    rw [← List.append_assoc (decimal _)]
    apply names_label (by decide +kernel) (by simp [eq_notMem_decimal, hof])
    rw [← List.append_assoc (decimal _)]
    exact names_label (by decide +kernel) (by simp [eq_notMem_decimal, hof]) hv

/-- The line names nothing, whatever the network is called. -/
theorem names_line (hv : 61 ∉ version) (h : Ordinary status) (nowMs : UInt32) :
    Names id (line version nowMs status) := by
  have hip : ascii " ip=" = SP :: ascii "ip=" := by decide
  have hssid : Names id (orNone status.targetSsid) := by
    apply names_of_length
    rw [orNone]
    split
    · decide
    · exact lt_of_le_of_lt (isPrefix_cString _).length_le (Nat.lt_succ_of_le (by
        exact h.ssid.trans (by decide)))
  have hmonitor : 61 ∉ if status.monitorActive then ascii "ACTIVE" else ascii "idle" := by
    split <;> decide
  simp only [line, head, tail, List.append_assoc, hip, List.cons_append]
  apply names_first (by decide +kernel)
  apply names_label (by decide +kernel) (eq_notMem_decimal _)
  apply names_label (by decide +kernel) (by cases status.wifiState <;> decide)
  apply hssid.append_cons (by decide) (by decide)
  apply names_first (by decide +kernel)
  apply names_label (by decide +kernel) (notMem_orNone h.ownIp (by decide))
  apply names_label (by decide +kernel) (notMem_orNone h.clientIp (by decide))
  apply names_label (by decide +kernel) (notMem_cString h.cadence)
  apply names_label (by decide +kernel) (eq_notMem_decimal _)
  apply names_auth h.auth hmonitor
  exact names_of_notMem (by simp [hv, CR, LF])

theorem cString_printed_prefix (hnul : 0 ∉ version) (nowMs : UInt32) (status : LoopStatus) :
    cString (printed version nowMs status) <+: line version nowMs status := by
  apply (isPrefix_cString _).trans
  rw [printed_eq fun c hc heq => hnul (heq ▸ hc)]
  exact List.take_prefix _ _

/-- A heartbeat begins with its bracket; one without text is a line end. -/
theorem head_heartbeat (hnul : 0 ∉ version) (nowMs : UInt32) (status : LoopStatus) :
    ∃ c ∈ [91, CR], (Message.heartbeat (printed version nowMs status)).text.head? = some c := by
  have hline : (line version nowMs status).head? = some 91 := rfl
  have htext : (Message.heartbeat (printed version nowMs status)).text =
      cString (printed version nowMs status) ++ CR :: [LF] := rfl
  rw [htext]
  rcases hp : cString (printed version nowMs status) with _ | ⟨c, p⟩
  · exact ⟨CR, by simp, rfl⟩
  · obtain ⟨y, hy⟩ := hp ▸ cString_printed_prefix hnul nowMs status
    rw [← hy] at hline
    exact ⟨91, by simp, hline⟩

/-- A heartbeat can stand anywhere in the stream. -/
theorem clean_heartbeat (hv : 61 ∉ version) (hnul : 0 ∉ version) (h : Ordinary status)
    (nowMs : UInt32) : Clean id (Message.heartbeat (printed version nowMs status)).text := by
  have hpre := cString_printed_prefix hnul nowMs status
  constructor
  · exact ((names_line hv h nowMs).mono hpre.isInfix).append_cons (by decide) (by decide)
      (names_of_notMem (by decide))
  · have hclosed := Pipeline.ConnectHandshake.closed_concat
      (cString (printed version nowMs status) ++ [CR]) (by decide : isLineEnd LF = true)
    rw [List.append_assoc] at hclosed
    rw [show (Message.heartbeat (printed version nowMs status)).text = _ ++ ([CR] ++ [LF]) from rfl,
      hclosed.remainder]
    exact List.not_mem_nil
  · obtain ⟨c, hc, hhead⟩ := head_heartbeat hnul nowMs status
    rw [hhead]
    rintro heq
    rw [Option.some.inj heq] at hc
    exact absurd hc (by decide)

end Heartbeat

section Replies

open AtCommandDispatcher ClientSessions Pipeline.HeloRoundTrip

variable {d : Device} {env : AtEnv}

theorem replyText_ati (env : AtEnv) :
    replyText env (ascii "ATI") =
      ascii "ESP32 CAN Bridge v" ++ env.firmwareBuildVersion ++ [CR, CR, PROMPT] := by
  have hping : pingText (ascii "ATI") = none := by decide +kernel
  have hfind : registerFirmwareHandlers.find? (·.matchesCmd (normalizeAtCommand (ascii "ATI"))) =
      some AtiCommandHandler := by rfl
  rw [replyText, hping, handleTcpCommand, handleCommand, hfind]
  simp [AtiCommandHandler, sentBytes, sendTcpPrompt]

theorem replyText_athelo (env : AtEnv) :
    replyText env (ascii "ATHELO") = Option.get _ env.helo_fits ++ [CR, CR, PROMPT] := by
  have hping : pingText (ascii "ATHELO") = none := by decide +kernel
  have hfind : registerFirmwareHandlers.find?
      (·.matchesCmd (normalizeAtCommand (ascii "ATHELO"))) = some AtheloCommandHandler := by rfl
  rw [replyText, hping, handleTcpCommand, handleCommand, hfind]
  simp [AtheloCommandHandler, sentBytes, sendTcpPrompt]

theorem clean_ati (hv : 61 ∉ env.firmwareBuildVersion) :
    Clean d.id (Message.reply env (ascii "ATI")).text := by
  apply clean_of_notMem
  have hbanner : 61 ∉ ascii "ESP32 CAN Bridge v" := by decide
  simp [Message.text, replyText_ati, hbanner, hv, CR, PROMPT]

/-- Behind the last token of the acknowledgement stands this id, or a part of it. -/
theorem names_header (d : Device) (k : ℕ) :
    Names d.id (header (ascii "ESP32-CAN-Bridge") d.version ++ deviceIdToHex (d.id.take k)) := by
  have hhex : 61 ∉ deviceIdToHex (d.id.take k) := fun hmem =>
    absurd (isDigit_deviceIdToHex _ 61 hmem) (by decide)
  have hdevice : ascii "DEVICEID=" = ascii "DEVICEID" ++ [61] := by decide
  have hname : 61 ∉ ascii "ESP32-CAN-Bridge" := by decide
  simp only [header, banner, List.append_assoc, List.cons_append, deviceIdToken, hdevice]
  apply names_first (by decide +kernel)
  apply names_label (by decide +kernel) hname
  apply (names_of_notMem d.version_noEq).append_cons (by decide) (by decide)
  apply names_field (by decide) (names_of_notMem hhex)
  rintro - hex r hid hpre
  have hle := hpre.length_le
  rw [hid.length, length_deviceIdToHex, List.length_take, d.length_id] at hle
  have hwhole : d.id.take k = d.id := List.take_of_length_le (by rw [d.length_id]; omega)
  have heq : hex = deviceIdToHex d.id := by
    rw [hwhole] at hpre
    exact hpre.eq_of_length (by rw [hid.length, length_deviceIdToHex, d.length_id])
  have hparses := mapM_parseHexByte d.id
  rw [← heq, d.length_id, hid.parses] at hparses
  exact Option.some.inj hparses

/-- The acknowledgement as the device sends it: as much of the id as leaves room. -/
theorem helo_response (hid : env.deviceId = d.id) (hv : env.firmwareBuildVersion = d.version) :
    ∃ k, Option.get _ env.helo_fits =
        (header (ascii "ESP32-CAN-Bridge") d.version ++ deviceIdToHex (d.id.take k) ++
          [CR]).take 127 ∧ k ≤ 16 ∧
      ((rendered d.id (ascii "ESP32-CAN-Bridge") d.version).length < 128 → k = 16) := by
  have hfits := env.helo_fits
  rw [hid, hv] at hfits
  have hlen : (header (ascii "ESP32-CAN-Bridge") d.version).length ≤ 128 := by
    by_contra hlong
    rw [buildHeloResponse_overrun (not_le.mp hlong)] at hfits
    cases hfits
  obtain ⟨k, hr, hk, hstop, hbound⟩ :=
    buildHeloResponse_eq d.id plain_bridge d.version_plain hlen
  rw [d.length_id] at hk hstop
  refine ⟨k, ?_, hk, ?_⟩
  · rw [← hid, ← hv] at hr
    rw [← hv, ← hid]
    exact (Option.eq_some_iff_get_eq.mp hr).2
  · intro hwhole
    rw [rendered, List.length_append, List.length_append, length_deviceIdToHex, d.length_id,
      List.length_singleton] at hwhole
    omega

/-- Behind the last line end of a framed reply stands its prompt. -/
theorem prompt_unfinished (text : Bytes) :
    61 ∉ remainder isLineEnd (text ++ [CR, CR, PROMPT]) := by
  have hclosed := Pipeline.ConnectHandshake.closed_concat (text ++ [CR])
    (by decide : isLineEnd CR = true)
  have hsplit : text ++ [CR, CR, PROMPT] = text ++ [CR] ++ [CR] ++ [PROMPT] := by simp
  rw [hsplit]
  intro hmem
  rcases mem_remainder_append hmem with hmem | hmem
  · rw [hclosed.remainder] at hmem
    cases hmem
  · exact absurd hmem (by decide)

theorem clean_athelo (hid : env.deviceId = d.id) (hv : env.firmwareBuildVersion = d.version) :
    Clean d.id (Message.reply env (ascii "ATHELO")).text := by
  obtain ⟨k, hr, -, -⟩ := helo_response hid hv
  rw [Message.text, replyText_athelo, hr]
  constructor
  · apply Names.append_cons (by decide) (by decide)
    · apply Names.mono _ (List.take_prefix _ _).isInfix
      exact (names_header d k).append_cons (by decide) (by decide) (names_of_notMem (by simp))
    · exact names_of_notMem (by decide)
  · exact prompt_unfinished _
  · have hack : ascii "ACK DEVICE=" = 65 :: ascii "CK DEVICE=" := by decide
    simp [header, banner, hack]

theorem clean_frame (id : Bytes) (msg : CanFrame) : Clean id (Message.frame msg).text := by
  apply clean_of_notMem
  intro hmem
  exact absurd (mem_frameString hmem) (by decide)

/-- Each message of a device whose client asks for banner and acknowledgement only. -/
theorem clean_message {events : List LoopEvent} (hruns : d.Runs events) {e : LoopEvent}
    (he : e ∈ events) {m : Message} (hm : m.From e)
    (hcmd : ∀ cmd ∈ m.command, cmd = ascii "ATI" ∨ cmd = ascii "ATHELO") : Clean d.id m.text := by
  cases m with
  | frame msg => exact clean_frame d.id msg
  | heartbeat snapshot =>
    obtain rfl : e = .heartbeat snapshot true := hm
    obtain ⟨nowMs, status, hstatus, hsnapshot⟩ := hruns.heartbeat snapshot true he
    rw [hsnapshot]
    exact clean_heartbeat d.version_noEq d.version_plain.noNul hstatus nowMs
  | reply env cmd =>
    obtain ⟨incoming, rfl⟩ := hm
    obtain ⟨hid, hv⟩ := hruns.env env _ he
    rcases hcmd cmd rfl with rfl | rfl
    · exact clean_ati (hv ▸ d.version_noEq)
    · exact clean_athelo hid hv

end Replies

end VehicleSpy.Session
