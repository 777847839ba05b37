import VehicleSpy.Pipeline.ReconnectIdentity
import VehicleSpy.Session.DeviceNames

/-! # The handshake of a host with a device

The host sends its two commands down a connection and reads its replies out of the device's stream.
If it connects, the device has authenticated this connection and the host knows the device's own
id. It does connect once the device has answered both commands, however the network cuts the
stream and whatever frames and heartbeats stand in it, unless the name of a network on a heartbeat
looks like an acknowledgement.
-/

namespace VehicleSpy.Session

open Firmware Machine FirmwareLoop AuthBoundary ClientSessions

open Text hiding trim

open Pipeline TCPTransport TcpReader ConnectHandshake ReconnectIdentity

/-- What the host writes behind its first line. -/
def hostCommands : Bytes := ascii "ATI" ++ [CR] ++ ascii "ATHELO" ++ [CR]

section Reading

variable {pending rest line : Bytes} {recvs unread : List Received}

/-- A line that is read, and all that is left, stood in what was received. -/
theorem readLine_received (h : readLineSkippingFrames pending recvs = (some line, rest, unread)) :
    line <:+: pending ++ received recvs ∧
      rest ++ received unread <:+ pending ++ received recvs := by
  fun_induction readLineSkippingFrames pending recvs with
  | case1 pending recvs l r hb hs ih =>
    obtain ⟨c, rfl, -, -⟩ := takeBufferedLine_some hb
    obtain ⟨hline, hrest⟩ := ih h
    have hsuffix : r ++ received recvs <:+ l ++ c :: r ++ received recvs := ⟨l ++ [c], by simp⟩
    exact ⟨hline.trans hsuffix.isInfix, hrest.trans hsuffix⟩
  | case2 pending recvs l r hb hs =>
    obtain ⟨c, rfl, -, -⟩ := takeBufferedLine_some hb
    obtain ⟨rfl, rfl, rfl⟩ : cleanLine l = line ∧ r = rest ∧ recvs = unread := by simpa using h
    refine ⟨(cleanLine_sub l).trans ⟨[], c :: r ++ received recvs, by simp⟩, ⟨l ++ [c], by simp⟩⟩
  | case3 pending hb => simp at h
  | case4 pending hb data recvs ih =>
    obtain ⟨hline, hrest⟩ := ih h
    -- a buffer that grew too long was dropped
    have hsuffix : readSocketIntoPending pending data ++ received recvs <:+
        pending ++ received (data :: recvs) := by
      rw [show received (data :: recvs) = data.bytes ++ received recvs from rfl,
        ← List.append_assoc]
      simp only [readSocketIntoPending]
      split
      · exact List.suffix_append _ _
      · exact List.suffix_rfl
    exact ⟨hline.trans hsuffix.isInfix, hrest.trans hsuffix⟩

theorem readAck_received {r : Option Bytes × Bytes × List Received}
    (h : readAck pending recvs = r) : ∀ ack ∈ r.1, ack <:+: pending ++ received recvs := by
  fun_induction readAck pending recvs with
  | case1 => simp [← h]
  | case2 pending recvs l p u hline hack =>
    rw [← h]
    rintro ack hmem
    obtain rfl := Option.some.inj hmem
    exact (readLine_received hline).1
  | case3 pending recvs l p u hline hack ih =>
    rintro ack hmem
    exact (ih h ack hmem).trans (readLine_received hline).2.isInfix

end Reading

section Agreement

variable {d : Device} {bridge : CanBridge} {events : List LoopEvent} {client : ClientId}
  {a : Attempt}

theorem framedCommands_prefix {u v : Bytes} (h : u <+: v) :
    framedCommands u <+: framedCommands v := by
  obtain ⟨w, rfl⟩ := h
  rw [framedCommands_append]
  exact List.prefix_append _ _

theorem framedCommands_host : framedCommands hostCommands = [ascii "ATI", ascii "ATHELO"] := by
  decide +kernel

/-- The commands of a host that has sent no more than its two. -/
theorem mem_hostCommands (h : sent client (calls bridge events) <+: hostCommands) :
    ∀ cmd ∈ framedCommands (sent client (calls bridge events)),
      cmd = ascii "ATI" ∨ cmd = ascii "ATHELO" := by
  have hpre := framedCommands_prefix h
  rw [framedCommands_host] at hpre
  intro cmd hcmd
  simpa using hpre.subset hcmd

/-- All that the device has written to such a host names this device only. -/
theorem clean_wire (hruns : d.Runs events)
    (hsent : sent client (calls bridge events) <+: hostCommands)
    (hauth : Authenticated events client) : Clean d.id (wire client bridge events) := by
  obtain ⟨parts, hparts⟩ := (spoken_run bridge events client).streamed hauth
  rw [hparts.bytes]
  apply Clean.append
  · exact clean_of_notMem (by decide)
  · apply clean_flatMap
    intro m hm
    obtain ⟨e, he, hfrom⟩ := hparts.mem hm
    apply clean_message hruns he hfrom
    rintro cmd hcmd
    apply mem_hostCommands hsent
    rw [← hparts.commands]
    exact List.mem_filterMap.mpr ⟨m, hm, hcmd⟩

/-- A host that connects has authenticated on this connection and knows this device's id, whatever
was cut where and whatever else the device had to say. -/
theorem connect_agreement (hruns : d.Runs events)
    (hsent : sent client (calls bridge events) <+: hostCommands)
    (hreads : a.authReply ++ received a.recvs <+: wire client bridge events) (t : TCPTransport)
    {id : Bytes} {unread : List Received}
    (hok : (t.connectAndAuth a).2 = some (id, unread)) :
    Authenticated events client ∧ id = d.id := by
  have hpeer := (connectAndAuth_outcome a t).peer
  rw [hok, Option.map_some, peer] at hpeer
  split at hpeer
  · next hall =>
    simp only [Bool.and_eq_true, authenticated] at hall
    obtain ⟨⟨⟨⟨-, hfound⟩, -⟩, -⟩, -⟩ := hall
    have hOK : ascii "OK" <:+: a.authReply := findStr_isSome_iff.mp hfound
    have hauth : Authenticated events client := authenticated_of_ok
      ((hOK.trans (List.prefix_append _ _).isInfix).trans hreads.isInfix)
    refine ⟨hauth, ?_⟩
    rw [presentedId] at hpeer
    rcases hline : readLineSkippingFrames [] a.recvs with ⟨_ | line, rest, unread'⟩
    · rw [hline] at hpeer
      cases hpeer
    · rw [hline] at hpeer
      obtain ⟨ack, hack, hparse⟩ := Option.bind_eq_some_iff.mp hpeer.symm
      obtain ⟨hex, hhex, hin⟩ := idDigits_of_parseHeloAck hparse
      have hreceived : ack <:+: received a.recvs :=
        (readAck_received rfl ack hack).trans (readLine_received hline).2.isInfix
      have hwire : ack <:+: wire client bridge events :=
        (hreceived.trans (List.suffix_append a.authReply _).isInfix).trans hreads.isInfix
      exact (clean_wire hruns hsent hauth).names hex id hhex (hin.trans hwire)
  · cases hpeer

end Agreement

section Quiet

variable {u v text : Bytes}

/-- A piece of the stream without an acknowledgement, also of one that began in front of it. -/
structure Quiet (text : Bytes) : Prop where
  noAck : ¬ ackPrefix <:+: text
  noEnd : ∀ t, t <:+ ackPrefix → t ≠ [] → ¬ t <+: text

theorem Quiet.append (hu : ¬ ackPrefix <:+: u) (hv : Quiet v) : ¬ ackPrefix <:+: u ++ v := by
  intro hin
  rcases infix_append_cases hin with hin | hin | ⟨t₁, t₂, ht, -, hne, -, hpre⟩
  · exact hu hin
  · exact hv.noAck hin
  · exact hv.noEnd t₂ ⟨t₁, ht.symm⟩ hne hpre

/-- Every end of the words that open an acknowledgement has the equals sign. -/
theorem eq_mem_of_suffix {t : Bytes} (h : t <:+ ackPrefix) (hne : t ≠ []) : 61 ∈ t := by
  obtain ⟨x, hx⟩ := h
  have hlast : (x ++ t).getLast? = some 61 := by rw [hx]; rfl
  rw [List.getLast?_append_of_ne_nil _ hne] at hlast
  exact List.mem_of_getLast? hlast

theorem quiet_of_notMem (h : 61 ∉ text) : Quiet text :=
  ⟨fun hin => h (eq_mem_of_ack hin),
    fun _ ht hne hpre => h (hpre.subset (eq_mem_of_suffix ht hne))⟩

theorem quiet_flatMap {msgs : List Message} (h : ∀ m ∈ msgs, Quiet m.text)
    (hu : ¬ ackPrefix <:+: u) : ¬ ackPrefix <:+: u ++ msgs.flatMap Message.text := by
  induction msgs generalizing u with
  | nil => simpa using hu
  | cons m msgs ih =>
    obtain ⟨hm, hmsgs⟩ := List.forall_mem_cons.mp h
    rw [List.flatMap_cons, ← List.append_assoc]
    exact ih hmsgs (Quiet.append hu hm)

theorem quiet_frame (msg : CanFrame) : Quiet (Message.frame msg).text := by
  apply quiet_of_notMem
  intro hmem
  exact absurd (mem_frameString hmem) (by decide)

/-- A heartbeat in which no name looks like an acknowledgement. -/
theorem quiet_heartbeat {version : Bytes} (hnul : 0 ∉ version) (nowMs : UInt32)
    (status : LoopStatus) (h : ¬ ackPrefix <:+: LoopHeartbeat.printed version nowMs status) :
    Quiet (Message.heartbeat (LoopHeartbeat.printed version nowMs status)).text := by
  have htext : (Message.heartbeat (LoopHeartbeat.printed version nowMs status)).text =
      cString (LoopHeartbeat.printed version nowMs status) ++ CR :: [LF] := rfl
  constructor
  · rw [htext, infix_append_cons (by decide) (by decide), not_or]
    exact ⟨fun hin => h (hin.trans (isPrefix_cString _).isInfix), by decide⟩
  · rintro t ht hne hin
    obtain ⟨c, hc, hhead⟩ := head_heartbeat hnul nowMs status
    obtain ⟨c', t, rfl⟩ := List.exists_cons_of_ne_nil hne
    obtain ⟨y, hy⟩ := hin
    rw [← hy] at hhead
    obtain rfl : c' = c := Option.some.inj hhead
    have hmem : c' ∈ ackPrefix := ht.subset List.mem_cons_self
    rcases List.mem_pair.mp hc with rfl | rfl
    · exact absurd hmem (by decide)
    · exact absurd hmem (by decide)

end Quiet

section Glued

open HeloRoundTrip

variable {x y l : Bytes}

/-- Everything up to the last line end. -/
theorem exists_closed (w : Bytes) : ∃ u, w = u ++ remainder isLineEnd w ∧ Closed u := by
  induction w using List.reverseRecOn with
  | nil => exact ⟨[], rfl, by simp [Closed]⟩
  | append_singleton w c ih =>
    obtain ⟨u, hw, hu⟩ := ih
    cases hc : isLineEnd c with
    | true =>
      rw [(segments_concat hc w).2]
      exact ⟨w ++ [c], (List.append_nil _).symm, closed_concat w hc⟩
    | false =>
      rw [(segments_concat_open hc w).2]
      exact ⟨u, by rw [← List.append_assoc, ← hw], hu⟩

theorem dropWhile_append_head {p : Byte → Bool} {h : Bytes}
    (hhead : ∀ c ∈ h.head?, p c = false) (x : Bytes) :
    ∃ y, y <:+ x ∧ (x ++ h).dropWhile p = y ++ h := by
  induction x with
  | nil => exact ⟨[], List.suffix_rfl, (dropWhile_eq_self_iff p).mpr hhead⟩
  | cons c x ih =>
    rw [List.cons_append, List.dropWhile_cons]
    split
    · obtain ⟨y, hy, heq⟩ := ih
      exact ⟨y, hy.trans (List.suffix_cons c x), heq⟩
    · exact ⟨c :: x, List.suffix_rfl, rfl⟩

/-- Cleaning a line takes away from its beginning only, where its end is as it should be. -/
theorem cleanLine_append {h : Bytes} (hne : h ≠ [])
    (hhead : ∀ c ∈ h.head?, isLead c = false ∧ isWs c = false)
    (hlast : ∀ c ∈ h.getLast?, isWs c = false) (x : Bytes) :
    ∃ y, y <:+ x ∧ cleanLine (x ++ h) = y ++ h := by
  have hall : ¬ (x ++ h).all isLead = true := by
    intro hall
    obtain ⟨c, h, rfl⟩ := List.exists_cons_of_ne_nil hne
    have hlead := List.all_eq_true.mp hall c (by simp)
    rw [(hhead c rfl).1] at hlead
    cases hlead
  obtain ⟨y, hy, hdrop⟩ := dropWhile_append_head (fun c hc => (hhead c hc).1) x
  obtain ⟨z, hz, hdrop'⟩ := dropWhile_append_head (fun c hc => (hhead c hc).2) y
  refine ⟨z, hz.trans hy, ?_⟩
  rw [cleanLine, if_neg hall, hdrop, trim, hdrop']
  apply (rdropWhile_eq_self_iff isWs).mpr
  rintro c hc
  rw [List.getLast?_append_of_ne_nil _ hne] at hc
  exact hlast c hc

/-- A letter that is neither blank nor prompt stays. -/
theorem mem_cleanLine {c : Byte} (hc : c ∈ l) (hlead : isLead c = false) (hws : isWs c = false) :
    c ∈ cleanLine l := by
  have hdrop : ∀ {p : Byte → Bool} {m : Bytes}, p c = false → c ∈ m → c ∈ m.dropWhile p := by
    intro p m hp hm
    rw [← List.takeWhile_append_dropWhile (p := p) (l := m)] at hm
    rcases List.mem_append.mp hm with hm | hm
    · rw [List.mem_takeWhile_imp hm] at hp
      cases hp
    · exact hm
  have htrim : ∀ {m : Bytes}, c ∈ m → c ∈ trim m := by
    intro m hm
    rw [trim, List.rdropWhile, List.mem_reverse]
    exact hdrop hws (List.mem_reverse.mpr (hdrop hws hm))
  rw [cleanLine]
  split
  · exact htrim hc
  · exact htrim (hdrop hlead hc)

/-- A line with a letter beyond hexadecimal digits is not passed over. -/
theorem not_skipped_of_letter {c : Byte} (hc : c ∈ l) (hlead : isLead c = false)
    (hws : isWs c = false) (hhex : isDigit 16 c = false) : isSkipped l = false := by
  have hmem := mem_cleanLine hc hlead hws
  have hframe : isCanFrameLine (cleanLine l) = false := by
    rw [Bool.eq_false_iff]
    intro hf
    rcases mem_canFrameLine hf c hmem with rfl | hd
    · exact absurd hlead (by decide)
    · rw [hd] at hhex
      cases hhex
  simp [isSkipped, hframe, List.ne_nil_of_mem hmem]

/-- Cleaning the line of an acknowledgement leaves the acknowledgement. -/
theorem cleanLine_ack (d : Device) (x : Bytes) :
    ∃ y, y <:+ x ∧ cleanLine (x ++ (header (ascii "ESP32-CAN-Bridge") d.version ++
      deviceIdToHex d.id)) =
        y ++ (header (ascii "ESP32-CAN-Bridge") d.version ++ deviceIdToHex d.id) := by
  have hack : ascii "ACK DEVICE=" = 65 :: ascii "CK DEVICE=" := by decide
  have hhex : deviceIdToHex d.id ≠ [] := by
    apply List.ne_nil_of_length_pos
    rw [length_deviceIdToHex, d.length_id]
    decide
  apply cleanLine_append
  · exact List.append_ne_nil_of_right_ne_nil _ hhex
  · rintro c hc
    obtain rfl : 65 = c := by simpa [header, banner, hack] using hc
    decide
  · rintro c hc
    rw [List.getLast?_append_of_ne_nil _ hhex] at hc
    exact notWs_of_hex (isDigit_deviceIdToHex d.id c (List.mem_of_getLast? hc))

/-- An acknowledgement behind the rest of another line is read like one that stands alone. -/
theorem parseHeloAck_glued (d : Device) (hy : 61 ∉ y) :
    parseHeloAck (y ++ (header (ascii "ESP32-CAN-Bridge") d.version ++ deviceIdToHex d.id)) =
      some d.id := by
  have hname := plain_bridge
  have hversion := d.version_plain
  have hlabel : ¬ deviceIdToken <:+: y ++ ascii "ACK DEVICE" := by
    intro hin
    rcases List.mem_append.mp (hin.subset (by decide : 61 ∈ deviceIdToken)) with hmem | hmem
    · exact hy hmem
    · exact absurd hmem (by decide)
  have hend : ¬ ascii "DEVICEID" <:+ y ++ ascii "ACK DEVICE" := by
    intro hsuffix
    obtain ⟨x, hx⟩ := hsuffix
    have hlast := congrArg List.getLast? hx
    rw [List.getLast?_append_of_ne_nil _ (by decide), List.getLast?_append_of_ne_nil _ (by decide)]
      at hlast
    exact absurd hlast (by decide)
  have hbanner : ¬ deviceIdToken <:+: y ++ banner (ascii "ESP32-CAN-Bridge") d.version := by
    have hfirmware : ¬ deviceIdToken <:+: ascii "FIRMWARE" ++ 61 :: d.version :=
      noToken_field (by decide) (by decide) hversion
    have hsplit : y ++ banner (ascii "ESP32-CAN-Bridge") d.version =
        (y ++ ascii "ACK DEVICE" ++ 61 :: ascii "ESP32-CAN-Bridge") ++
          SP :: (ascii "FIRMWARE" ++ 61 :: d.version) := by
      simp only [banner, List.append_assoc]
      rfl
    rw [hsplit, infix_append_cons (by decide) (by decide), not_or]
    exact ⟨noToken_field hlabel hend hname, hfirmware⟩
  have htoken : findStr deviceIdToken (y ++ (header (ascii "ESP32-CAN-Bridge") d.version ++
      deviceIdToHex d.id)) =
        some ((y ++ banner (ascii "ESP32-CAN-Bridge") d.version).length + 1) := by
    have hsplit : y ++ (header (ascii "ESP32-CAN-Bridge") d.version ++ deviceIdToHex d.id) =
        (y ++ banner (ascii "ESP32-CAN-Bridge") d.version ++ [SP]) ++
          (deviceIdToken ++ deviceIdToHex d.id) := by simp [header]
    rw [hsplit, findStr_append _ (List.prefix_append _ _), List.length_append]
    · rfl
    · rintro w hw hne hpre
      rcases List.suffix_concat_iff.mp hw with rfl | ⟨v, rfl, hsuffix⟩
      · exact hne rfl
      · rw [List.append_assoc, List.singleton_append, prefix_append_cons (by decide)] at hpre
        exact hbanner (hpre.isInfix.trans hsuffix.isInfix)
  obtain ⟨i, hack⟩ : ∃ i, findStr ackPrefix (y ++ (header (ascii "ESP32-CAN-Bridge") d.version ++
      deviceIdToHex d.id)) = some i := by
    apply Option.isSome_iff_exists.mp
    rw [findStr_isSome_iff]
    simp only [header, banner, List.append_assoc]
    exact ⟨y, _, by rw [List.append_assoc]; rfl⟩
  have hdrop : (y ++ (header (ascii "ESP32-CAN-Bridge") d.version ++ deviceIdToHex d.id)).drop
      ((y ++ banner (ascii "ESP32-CAN-Bridge") d.version).length + 1 + deviceIdToken.length) =
        deviceIdToHex d.id := by
    rw [← List.append_assoc]
    apply List.drop_left'
    simp [header]
    omega
  have hlen : (deviceIdToHex d.id).length = 32 := by rw [length_deviceIdToHex, d.length_id]
  have hparses := mapM_parseHexByte d.id
  rw [d.length_id] at hparses
  rw [parseHeloAck, hack, htoken]
  simp only [Option.bind_eq_bind, Option.bind_some]
  rw [hdrop, rdropWhile_deviceIdToHex, if_pos hlen, hparses]

end Glued

section Progress

open HeloRoundTrip

variable {d : Device} {bridge : CanBridge} {before rest : List LoopEvent} {client : ClientId}
  {a : Attempt}

/-- The socket serves the attempt. -/
structure Served (a : Attempt) : Prop where
  connects : a.connects = true
  optionsSet : a.recvTimeoutSet = true ∧ a.noDelaySet = true
  writes : a.authSent = true ∧ a.atiSent = true ∧ a.heloSent = true

/-- No heartbeat has a name on it that looks like an acknowledgement. -/
def Unmistakable (events : List LoopEvent) : Prop :=
  ∀ snapshot connected, .heartbeat snapshot connected ∈ events → ¬ ackPrefix <:+: snapshot

/-- Messages between the replies that the host waits for. -/
theorem quiet_message {events : List LoopEvent} (hruns : d.Runs events) (hs : Unmistakable events)
    {e : LoopEvent} (he : e ∈ events) {m : Message} (hm : m.From e)
    (hcmd : ∀ cmd ∈ m.command, cmd = ascii "ATI") : Quiet m.text := by
  cases m with
  | frame msg => exact quiet_frame msg
  | heartbeat snapshot =>
    obtain rfl : e = .heartbeat snapshot true := hm
    have hno := hs snapshot true he
    obtain ⟨nowMs, status, -, hsnapshot⟩ := hruns.heartbeat snapshot true he
    rw [hsnapshot] at hno ⊢
    exact quiet_heartbeat d.version_plain.noNul nowMs status hno
  | reply env cmd =>
    obtain ⟨incoming, rfl⟩ := hm
    obtain ⟨-, hv⟩ := hruns.env env _ he
    obtain rfl := hcmd cmd rfl
    have hbanner : 61 ∉ ascii "ESP32 CAN Bridge v" := by decide
    have hversion : 61 ∉ env.firmwareBuildVersion := hv ▸ d.version_noEq
    apply quiet_of_notMem
    simp [Message.text, replyText_ati, hbanner, hversion, CR, PROMPT]

theorem replyText_athelo_whole {env : AtEnv} (hid : env.deviceId = d.id)
    (hv : env.firmwareBuildVersion = d.version)
    (hfits : (rendered d.id (ascii "ESP32-CAN-Bridge") d.version).length < 128) :
    replyText env (ascii "ATHELO") = header (ascii "ESP32-CAN-Bridge") d.version ++
      deviceIdToHex d.id ++ CR :: [CR, CR, PROMPT] := by
  obtain ⟨k, hr, -, hk⟩ := helo_response hid hv
  have hid : d.id.take k = d.id := List.take_of_length_le (by rw [d.length_id, hk hfits])
  rw [hid, ← rendered, List.take_of_length_le (Nat.le_of_lt_succ hfits)] at hr
  rw [replyText_athelo, hr, rendered]
  simp

/-- The messages up to the acknowledgement: the banner is among them, and neither of them looks
like an acknowledgement. -/
structure Approach (d : Device) (msgs : List Message) : Prop where
  quiet : ∀ m ∈ msgs, Quiet m.text
  clean : ∀ m ∈ msgs, Clean d.id m.text

/-- The stream up to the acknowledgement: lines with an answer to ATI among them and no
acknowledgement, and then the rest of a line. -/
structure Opening (u x : Bytes) : Prop where
  closed : Closed u
  noAck : ¬ ackPrefix <:+: u
  line : ∃ l ∈ segments isLineEnd u, isSkipped l = false
  free : ∀ c ∈ x, isLineEnd c = false
  noEq : 61 ∉ x

/-- From any point of the stream on, there is a line that answers ATI, and the acknowledgement is
behind a rest of a line without an equals sign. -/
theorem Approach.split {msgs₁ msgs₂ : List Message} {env : AtEnv} {w : Bytes}
    (h : Approach d (msgs₁ ++ .reply env (ascii "ATI") :: msgs₂))
    (hv : env.firmwareBuildVersion = d.version)
    (hw : w <:+ [CR, LF] ++ msgs₁.flatMap Message.text) :
    ∃ u x, w ++ (Message.reply env (ascii "ATI") :: msgs₂).flatMap Message.text = u ++ x ∧
      Opening u x := by
  set W := w ++ (Message.reply env (ascii "ATI") :: msgs₂).flatMap Message.text with hW
  have hsuffix : W <:+ [CR, LF] ++ (msgs₁ ++ .reply env (ascii "ATI") :: msgs₂).flatMap
      Message.text := by
    obtain ⟨z, hz⟩ := hw
    refine ⟨z, ?_⟩
    rw [hW, ← List.append_assoc, hz, List.flatMap_append, List.append_assoc]
  obtain ⟨u, hu, hclosed⟩ := exists_closed W
  refine ⟨u, remainder isLineEnd W, hu, hclosed, ?_, ?_, remainder_free W, ?_⟩
  · intro hin
    have hpre : u <+: W := ⟨_, hu.symm⟩
    exact quiet_flatMap h.quiet (by decide) ((hin.trans hpre.isInfix).trans hsuffix.isInfix)
  · have hbody : ∀ c ∈ ascii "ESP32 CAN Bridge v" ++ d.version, isLineEnd c = false :=
      List.forall_mem_append.mpr ⟨by decide +kernel, d.version_plain.noLineEnd⟩
    have hline : ∀ c ∈ remainder isLineEnd w ++ (ascii "ESP32 CAN Bridge v" ++ d.version),
        isLineEnd c = false := List.forall_mem_append.mpr ⟨remainder_free w, hbody⟩
    have hsegments : segments isLineEnd W = segments isLineEnd u :=
      calc segments isLineEnd W = segments isLineEnd (u ++ remainder isLineEnd W) :=
          congrArg _ hu
        _ = segments isLineEnd u := by
          rw [segments_append, hclosed.remainder, List.nil_append,
            segments_open (remainder_free W), List.append_nil]
    refine ⟨remainder isLineEnd w ++ (ascii "ESP32 CAN Bridge v" ++ d.version), ?_, ?_⟩
    · have hsplit : remainder isLineEnd w ++ (Message.reply env (ascii "ATI") :: msgs₂).flatMap
          Message.text = remainder isLineEnd w ++ (ascii "ESP32 CAN Bridge v" ++ d.version) ++
            CR :: (CR :: PROMPT :: msgs₂.flatMap Message.text) := by
        rw [List.flatMap_cons, Message.text, replyText_ati, hv]
        simp
      rw [← hsegments, hW, segments_append, hsplit, segments_closed hline (by decide)]
      simp
    · -- the letter S
      have hletter : (83 : Byte) ∈ ascii "ESP32 CAN Bridge v" := by decide
      exact not_skipped_of_letter (c := 83) (by simp [hletter]) (by decide) (by decide) (by decide)
  · intro hmem
    have hstart : Clean d.id [CR, LF] := clean_of_notMem (by decide)
    exact (hstart.append (clean_flatMap h.clean)).unfinished
      ((remainder_mono hsuffix).subset hmem)

theorem eq_reply_of_command {m : Message} {cmd : Bytes} (h : m.command = some cmd) :
    ∃ env, m = .reply env cmd := by
  cases m with
  | reply env cmd' => exact ⟨env, by rw [Option.some.inj h]⟩
  | _ => cases h

/-- The host connects over such a stream and has all that stands behind the acknowledgement left to
read, but for what it strips. -/
theorem connect_of_stream {u x v : Bytes} (hserved : Served a)
    (hOK : ascii "OK" <:+: a.authReply) (hopening : Opening u x)
    (hreceived : received a.recvs = u ++ (x ++ (header (ascii "ESP32-CAN-Bridge") d.version ++
      deviceIdToHex d.id) ++ CR :: v))
    (hroomy : Roomy [] a.recvs) {t : TCPTransport} (hraw : t.adapterProtocol = ascii "raw") :
    ∃ rest unread, t.connectAndAuth a =
        ({ t with
            pending := rest.dropWhile isLead
            connected := true
            deviceIdHex := deviceIdToHex d.id }, some (d.id, unread)) ∧
      rest ++ received unread = v ∧ Roomy rest unread := by
  obtain ⟨line, rest₁, unread₁, u', hread, hrest₁, hclosed', hsuffix', hroom₁, -⟩ :=
    readLine_finds hopening.closed hopening.line hroomy ((List.nil_append _).trans hreceived)
  -- the line that holds the acknowledgement
  obtain ⟨y, hy, hclean⟩ := cleanLine_ack d x
  have hack : ∀ c ∈ x ++ (header (ascii "ESP32-CAN-Bridge") d.version ++ deviceIdToHex d.id),
      isLineEnd c = false :=
    List.forall_mem_append.mpr ⟨hopening.free, noLineEnd_text plain_bridge d.version_plain d.id⟩
  have hprefix : ackPrefix <:+: cleanLine
      (x ++ (header (ascii "ESP32-CAN-Bridge") d.version ++ deviceIdToHex d.id)) := by
    rw [hclean]
    simp only [header, banner, List.append_assoc]
    exact ⟨y, _, by rw [List.append_assoc]; rfl⟩
  rw [← List.append_assoc] at hrest₁
  obtain ⟨rest, unread, hfound, hrest, hroom, -⟩ := readAck_finds hclosed'
    (fun hin => hopening.noAck (hin.trans hsuffix'.isInfix)) hack hprefix (by decide) hroom₁ hrest₁
  rw [hclean] at hfound
  have hparse := parseHeloAck_glued d fun hmem => hopening.noEq (hy.subset hmem)
  have hauth : authenticated a (t.adapterProtocol == ascii "elm327") = true := by
    have hproto : (t.adapterProtocol == ascii "elm327") = false := by
      rw [hraw]
      decide
    have hne : a.authReply ≠ [] := by
      rintro hnil
      rw [hnil, List.infix_nil] at hOK
      exact absurd hOK (by decide)
    have hok : (findStr (ascii "OK") a.authReply).isSome = true := findStr_isSome_iff.mpr hOK
    simp [authenticated, hproto, hne, hok, hserved.connects, hserved.optionsSet, hserved.writes]
  refine ⟨rest, unread, ?_, hrest, hroom⟩
  rw [connectAndAuth_eq, if_pos hauth]
  simp only [performHeloHandshake, sendHeloAndParseAck, hserved.writes, Bool.not_true,
    Bool.false_eq_true, if_false, hread, hfound, hparse]

/-- The stream of a device that has answered both commands, as a host sees it whose first read was
the answer to its first line, or the beginning of it. -/
theorem handshake_stream (hruns : d.Runs (before ++ rest))
    (hnames : Unmistakable (before ++ rest))
    (hauth : Authenticated before client) (hnone : sent client (calls bridge before) = [])
    (hsent : sent client (calls bridge (before ++ rest)) = hostCommands)
    (hfits : (rendered d.id (ascii "ESP32-CAN-Bridge") d.version).length < 128)
    (hfirst : a.authReply <+: wire client bridge before) (hlen : 2 ≤ a.authReply.length) :
    ascii "OK" <:+: a.authReply ∧ ∃ parts pre env post u x,
      Streamed bridge (before ++ rest) client parts ∧
      parts.flatten = pre ++ .reply env (ascii "ATHELO") :: post ∧
      post.filterMap Message.command = [] ∧ Opening u x ∧
      wire client bridge (before ++ rest) = a.authReply ++ (u ++
        (x ++ (header (ascii "ESP32-CAN-Bridge") d.version ++ deviceIdToHex d.id) ++
          CR :: ([CR, CR, PROMPT] ++ post.flatMap Message.text))) := by
  -- what was written before the commands, and what since
  obtain ⟨parts, hparts⟩ := (spoken_run bridge before client).streamed hauth
  obtain ⟨parts', hgrown⟩ := hparts.grows hauth rest
  have hquiet : parts.flatten.filterMap Message.command = [] := by
    rw [hparts.commands, hnone]
    rfl
  have hcommands := hgrown.commands
  rw [hsent, framedCommands_host, List.flatten_append, List.filterMap_append, hquiet,
    List.nil_append] at hcommands
  obtain ⟨pre, ati, msgs, hflat, hpre, hati, hmsgs⟩ := List.filterMap_eq_cons_iff.mp hcommands
  obtain ⟨mid, athelo, post, rfl, hmid, hathelo, hpost⟩ := List.filterMap_eq_cons_iff.mp hmsgs
  obtain ⟨env₁, rfl⟩ := eq_reply_of_command hati
  obtain ⟨env₂, rfl⟩ := eq_reply_of_command hathelo
  have hmessages : (parts ++ parts').flatten = parts.flatten ++ pre ++
      .reply env₁ (ascii "ATI") :: mid ++ .reply env₂ (ascii "ATHELO") :: post := by
    rw [List.flatten_append, hflat]
    simp
  have horigin : ∀ m ∈ (parts ++ parts').flatten, ∃ e ∈ before ++ rest, m.From e :=
    fun m hm => hgrown.mem hm
  rw [hmessages] at horigin
  have happroach : Approach d (parts.flatten ++ pre ++ .reply env₁ (ascii "ATI") :: mid) := by
    have hcmd : ∀ m ∈ parts.flatten ++ pre ++ .reply env₁ (ascii "ATI") :: mid,
        ∀ cmd ∈ m.command, cmd = ascii "ATI" := by
      rintro m hm cmd hc
      rcases List.mem_append.mp hm with hm | hm
      · rcases List.mem_append.mp hm with hm | hm
        · rw [List.filterMap_eq_nil_iff.mp hquiet m hm] at hc
          cases hc
        · rw [hpre m hm] at hc
          cases hc
      · rcases List.mem_cons.mp hm with rfl | hm
        · exact (Option.some.inj hc).symm
        · rw [hmid m hm] at hc
          cases hc
    constructor
    · rintro m hm
      obtain ⟨e, he, hfrom⟩ := horigin m (List.mem_append_left _ hm)
      exact quiet_message hruns hnames he hfrom (hcmd m hm)
    · rintro m hm
      obtain ⟨e, he, hfrom⟩ := horigin m (List.mem_append_left _ hm)
      exact clean_message hruns he hfrom fun cmd hc => Or.inl (hcmd m hm cmd hc)
  obtain ⟨e₁, he₁, incoming₁, rfl⟩ := horigin (.reply env₁ (ascii "ATI")) (by simp)
  obtain ⟨e₂, he₂, incoming₂, rfl⟩ := horigin (.reply env₂ (ascii "ATHELO")) (by simp)
  obtain ⟨-, hv₁⟩ := hruns.env env₁ _ he₁
  obtain ⟨hid₂, hv₂⟩ := hruns.env env₂ _ he₂
  obtain ⟨w, hw⟩ := hfirst
  have hstart : wire client bridge before =
      ascii "OK" ++ ([CR, LF] ++ parts.flatten.flatMap Message.text) := by
    rw [hparts.bytes, ← List.append_assoc]
    rfl
  have hOK : ascii "OK" <+: a.authReply := by
    refine List.prefix_of_prefix_length_le ⟨_, hstart.symm⟩ ⟨w, hw⟩ ?_
    exact hlen
  have hsuffix : w ++ pre.flatMap Message.text <:+
      [CR, LF] ++ (parts.flatten ++ pre).flatMap Message.text := by
    rw [List.flatMap_append, ← List.append_assoc, List.suffix_append_self_iff]
    apply List.suffix_of_suffix_length_le ⟨a.authReply, hw⟩ ⟨ascii "OK", hstart.symm⟩
    have hlengths := congrArg List.length (hw.trans hstart)
    have htwo : (ascii "OK").length = 2 := by decide
    rw [List.length_append, List.length_append, htwo] at hlengths
    omega
  obtain ⟨u, x, hux, hopening⟩ := happroach.split hv₁ hsuffix
  refine ⟨hOK.isInfix, parts ++ parts', _, env₂, post, u, x, hgrown, hmessages, hpost, hopening, ?_⟩
  have hbytes : wire client bridge (before ++ rest) =
      wire client bridge before ++ parts'.flatten.flatMap Message.text := by
    rw [hgrown.bytes, hparts.bytes, List.flatten_append, List.flatMap_append, List.append_assoc]
  calc wire client bridge (before ++ rest)
      = a.authReply ++ (w ++ pre.flatMap Message.text ++
          (Message.reply env₁ (ascii "ATI") :: mid).flatMap Message.text ++
          (replyText env₂ (ascii "ATHELO") ++ post.flatMap Message.text)) := by
        rw [hbytes, ← hw, hflat]
        simp [Message.text]
    _ = _ := by
        rw [hux, replyText_athelo_whole hid₂ hv₂ hfits]
        simp

/-- Once the device has answered both commands the host is connected and knows its id, if the first
read was the answer to its first line, or the beginning of it, and the reads were never too long
without a line end. -/
theorem connect_progress (hruns : d.Runs (before ++ rest))
    (hnames : Unmistakable (before ++ rest)) (hserved : Served a)
    (hauth : Authenticated before client) (hnone : sent client (calls bridge before) = [])
    (hsent : sent client (calls bridge (before ++ rest)) = hostCommands)
    (hfits : (rendered d.id (ascii "ESP32-CAN-Bridge") d.version).length < 128)
    (hfirst : a.authReply <+: wire client bridge before) (hlen : 2 ≤ a.authReply.length)
    (hreads : wire client bridge (before ++ rest) <+: a.authReply ++ received a.recvs)
    (hroomy : Roomy [] a.recvs) {t : TCPTransport} (hraw : t.adapterProtocol = ascii "raw") :
    ∃ unread, (t.connectAndAuth a).2 = some (d.id, unread) ∧
      (t.connectAndAuth a).1.deviceIdHex = deviceIdToHex d.id := by
  obtain ⟨hOK, parts, pre, env, post, u, x, -, -, -, hopening, hwire⟩ :=
    handshake_stream hruns hnames hauth hnone hsent hfits hfirst hlen
  obtain ⟨tail, htail⟩ := hreads
  rw [hwire, List.append_assoc] at htail
  have hreceived := (List.append_cancel_left htail).symm
  simp only [List.append_assoc, List.cons_append] at hreceived
  obtain ⟨rest', unread, hconnect, -, -⟩ := connect_of_stream (d := d) (x := x)
    (v := [CR, CR, PROMPT] ++ post.flatMap Message.text ++ tail) hserved hOK hopening
    (by rw [hreceived]; simp) hroomy hraw
  exact ⟨unread, by rw [hconnect], by rw [hconnect]⟩

end Progress

section Bench

theorem plain_benchVersion : HeloRoundTrip.Plain (ascii "1.0.0") :=
  ⟨by decide +kernel, by decide +kernel, by decide +kernel⟩

theorem benchVersion_noEq : 61 ∉ ascii "1.0.0" := by decide

theorem length_benchId : (List.replicate 16 (0xA5 : Byte)).length = 16 := List.length_replicate

def benchDevice : Device where
  id := List.replicate 16 0xA5
  version := ascii "1.0.0"
  length_id := length_benchId
  version_plain := plain_benchVersion
  version_noEq := benchVersion_noEq

def benchStatus : LoopStatus where
  wifiState := .WIFI_CONNECTED
  monitorActive := true
  targetSsid := ascii "garage"

/-- A host authenticates. -/
def greeted : List LoopEvent :=
  [.cycle benchEnv (.arrival (ascii "10.0.0.2") (ascii "AUTH secret") (ascii "secret"))]

/-- Its commands come in pieces, between a frame and a heartbeat. -/
def asked : List LoopEvent :=
  [.processFrames 300 [(benchFrame, true)],
    .cycle benchEnv (.noArrival true (ascii "AT")),
    .cycle benchEnv (.noArrival true (ascii "I" ++ [CR])),
    .heartbeat (LoopHeartbeat.printed (ascii "1.0.0") 5000 benchStatus) true,
    .cycle benchEnv (.noArrival true (ascii "ATHELO" ++ [CR]))]

/-- All that the board has written to the host. -/
def benchWire : Bytes := wire 0 { initialized := true } (greeted ++ asked)

/-- The host gets it in three reads. -/
def benchAttempt : Attempt where
  authReply := ascii "OK"
  recvs := [read ((benchWire.drop 2).take 30), read (benchWire.drop 32)]

theorem runs_bench : benchDevice.Runs (greeted ++ asked) := by
  constructor
  · rintro env input hmem
    obtain rfl : env = benchEnv := by
      simp only [greeted, asked, List.cons_append, List.nil_append, List.mem_cons,
        List.not_mem_nil, or_false, LoopEvent.cycle.injEq, reduceCtorEq, false_or] at hmem
      tauto
    exact ⟨rfl, rfl⟩
  · rintro snapshot connected hmem
    refine ⟨5000, benchStatus, ⟨by decide, by decide, by decide, by decide, {}, rfl⟩, ?_⟩
    simp only [greeted, asked, List.cons_append, List.nil_append, List.mem_cons,
      List.not_mem_nil, or_false, reduceCtorEq, false_or, LoopEvent.heartbeat.injEq] at hmem
    exact hmem.1

theorem authenticated_bench (rest : List LoopEvent) : Authenticated (greeted ++ rest) 0 :=
  Authenticated.append ⟨ascii "AUTH secret", ascii "secret", rfl, by decide +kernel⟩ rest

theorem unmistakable_bench : Unmistakable (greeted ++ asked) := by
  rintro snapshot connected hmem
  simp only [greeted, asked, List.cons_append, List.nil_append, List.mem_cons,
    List.not_mem_nil, or_false, reduceCtorEq, false_or, LoopEvent.heartbeat.injEq] at hmem
  rw [hmem.1]
  decide +kernel

theorem roomy_benchAttempt : Roomy [] benchAttempt.recvs := by
  apply roomy_of_short
  rintro l hl -
  have hle := hl.length_le
  have hwire : benchWire.length + 256 ≤ MAX_PENDING_LEN := by decide +kernel
  have hreads : (received benchAttempt.recvs).length + 2 = benchWire.length := by decide +kernel
  rw [List.nil_append] at hle
  omega

theorem sent_greeted : sent 0 (calls { initialized := true } greeted) = [] := by decide +kernel

theorem sent_asked : sent 0 (calls { initialized := true } (greeted ++ asked)) = hostCommands := by
  decide +kernel

theorem connect_progress_bench :
    ∃ unread, (({ host := ascii "192.168.4.1" } : TCPTransport).connectAndAuth benchAttempt).2 =
        some (benchDevice.id, unread) ∧
      (({ host := ascii "192.168.4.1" } : TCPTransport).connectAndAuth
        benchAttempt).1.deviceIdHex = deviceIdToHex benchDevice.id :=
  connect_progress runs_bench unmistakable_bench ⟨rfl, ⟨rfl, rfl⟩, rfl, rfl, rfl⟩
    (authenticated_bench []) sent_greeted sent_asked (by decide +kernel)
    (by decide +kernel) (by decide) (by decide +kernel) roomy_benchAttempt rfl

/-- The stream in front of the acknowledgement. -/
def benchApproach : Bytes := (benchWire.drop 2).take (benchWire.length - 90)

theorem connect_agreement_bench :
    Authenticated (greeted ++ asked) 0 ∧ List.replicate 16 0xA5 = benchDevice.id := by
  have hline : ∃ l ∈ segments isLineEnd benchApproach, isSkipped l = false :=
    ⟨ascii "ESP32 CAN Bridge v1.0.0", by decide +kernel, by decide +kernel⟩
  have hclosed : Closed benchApproach := by
    rw [Closed, show benchApproach.getLast? = some LF by decide +kernel]
    rintro c hc
    rw [← Option.some.inj hc]
    rfl
  have hopening : Opening benchApproach [] :=
    ⟨hclosed, by decide +kernel, hline, by simp, by simp⟩
  obtain ⟨rest, unread, hok, -, -⟩ := connect_of_stream (d := benchDevice) (a := benchAttempt)
    (v := [CR, CR, PROMPT]) ⟨rfl, ⟨rfl, rfl⟩, rfl, rfl, rfl⟩ (by decide) hopening
    (by decide +kernel) roomy_benchAttempt (t := { host := ascii "192.168.4.1" }) rfl
  have hsent : sent 0 (calls { initialized := true } (greeted ++ asked)) <+: hostCommands := by
    rw [sent_asked]
  exact connect_agreement runs_bench hsent (by decide +kernel) _
    (congrArg Prod.snd hok)

end Bench

end VehicleSpy.Session
