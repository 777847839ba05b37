import VehicleSpy.Pipeline.CanStream
import VehicleSpy.Session.Status

/-! # The frames that reach the host

Behind the handshake the host cuts the device's stream into lines and takes frames out of them.
What it gets are the standard frames that the device has printed behind its acknowledgement, each
of them once and in order; the first of them is lost if it comes glued to the prompt.
-/

namespace VehicleSpy.Session

open Firmware Machine FirmwareLoop AuthBoundary ClientSessions

open Text hiding trim

open Pipeline TCPTransport TcpReader ConnectHandshake HeloRoundTrip

open LiveTwaiSource (rawFrame)

open CanStream (isStandard expectedBytes)

/-- The frames that the host takes out of what it has not read yet. -/
def delivered (t : TCPTransport) (unread : List Received) : List Bytes :=
  (LiveTwaiSource.frames (lines t.pending (unread.map .recv))).map (·.bytes)

/-- What the host is to get of a message. -/
def Message.canFrame : Message → Option Bytes
  | frame msg => if isStandard msg then some (expectedBytes msg) else none
  | _ => none

/-- Every frame's line fits the bridge's buffer, and every heartbeat is one line. -/
structure Calm (events : List LoopEvent) : Prop where
  frame : ∀ nowMs queue, .processFrames nowMs queue ∈ events → ∀ r ∈ queue, ¬ Overlong r.1
  heartbeat : ∀ snapshot connected, .heartbeat snapshot connected ∈ events →
    ∀ c ∈ snapshot.rdropWhile isLineEnd, isLineEnd c = false

/-- The prompt behind the acknowledgement is not read together with it. -/
def PromptLate (unread : List Received) : Prop :=
  ∃ w, (∀ c ∈ w, c = CR) ∧ w ++ [PROMPT] <+: received unread

section Lines

variable {c e : Byte} {l u v : Bytes} {m : Message}

/-- The frames of a stream's lines. -/
def lineFrames (stream : Bytes) : List Bytes :=
  (LiveTwaiSource.frames (segments isLineEnd stream)).map (·.bytes)

/-- A line that begins with another letter than a digit is no frame. -/
theorem rawFrame_eq_none (hdigit : isDigit 16 c = false) (hblank : isBlank c = false)
    (l : Bytes) : rawFrame (c :: l) = none := by
  obtain ⟨l', htrim⟩ : ∃ l', LiveTwaiSource.rtrim (c :: l) = c :: l' := by
    have hpre : LiveTwaiSource.rtrim (c :: l) <+: c :: l := List.rdropWhile_prefix _ _
    cases hr : LiveTwaiSource.rtrim (c :: l) with
    | nil =>
      have hall := List.rdropWhile_eq_nil_iff.mp hr c List.mem_cons_self
      rw [hblank] at hall
      cases hall
    | cons x l' =>
      rw [hr, List.cons_prefix_cons] at hpre
      exact ⟨l', by rw [hpre.1]⟩
  have hspace : isSpaceOrTab c = false := by
    rw [Bool.eq_false_iff]
    intro hs
    rw [isBlank] at hblank
    rcases (by simpa [isSpaceOrTab] using hs : c = SP ∨ c = TAB) with rfl | rfl
    · exact absurd hblank (by decide)
    · exact absurd hblank (by decide)
  obtain ⟨tok, toks, htokens⟩ : ∃ tok toks,
      LiveTwaiSource.tokens (c :: l') = (c :: tok) :: toks := by
    rw [LiveTwaiSource.tokens, List.splitOnP_cons_eq_if_modifyHead, hspace, if_neg (by decide)]
    obtain ⟨w, ws, hw⟩ := List.exists_cons_of_ne_nil (List.splitOnP_ne_nil isSpaceOrTab l')
    exact ⟨w, ws.filter (· ≠ []), by rw [hw]; rfl⟩
  have hid : LiveTwaiSource.parseCanIdToken (c :: tok) = none := by
    simp [LiveTwaiSource.parseCanIdToken, fromChars, hdigit]
  simp [rawFrame, htrim, LiveTwaiSource.tokenizeTwaiLine, htokens, hid]

theorem lineFrames_line (hl : ∀ c ∈ l, isLineEnd c = false) (he : isLineEnd e = true)
    (w : Bytes) : lineFrames (l ++ e :: w) =
      ((rawFrame l).map (·.bytes)).toList ++ lineFrames w := by
  rw [lineFrames, segments_closed hl he, LiveTwaiSource.frames, List.filterMap_cons]
  cases rawFrame l <;> rfl

theorem lineFrames_lineEnd (he : isLineEnd e = true) (w : Bytes) :
    lineFrames (e :: w) = lineFrames w :=
  lineFrames_line (l := []) (List.forall_mem_nil _) he w

/-- More of a stream only adds frames. -/
theorem lineFrames_mono (h : u <+: v) : lineFrames u <+: lineFrames v := by
  obtain ⟨w, rfl⟩ := h
  rw [lineFrames, lineFrames, segments_append, LiveTwaiSource.frames, LiveTwaiSource.frames,
    List.filterMap_append, List.map_append]
  exact List.prefix_append _ _

/-- A message is this line, which is not blank and becomes the message's frame, if any. -/
structure OneLine (m : Message) (l : Bytes) : Prop where
  text : ∃ e z, m.text = l ++ e :: z ∧ ∀ c ∈ e :: z, isLineEnd c = true
  free : ∀ c ∈ l, isLineEnd c = false
  head : ∃ c, l.head? = some c ∧ isLead c = false
  frame : (rawFrame l).map (·.bytes) = m.canFrame

theorem lineFrames_lineEnds {z : Bytes} (hz : ∀ c ∈ z, isLineEnd c = true) (w : Bytes) :
    lineFrames (z ++ w) = lineFrames w := by
  induction z with
  | nil => rfl
  | cons c z ih =>
    obtain ⟨hc, hz⟩ := List.forall_mem_cons.mp hz
    rw [List.cons_append, lineFrames_lineEnd hc, ih hz]

theorem OneLine.lineFrames (h : OneLine m l) (w : Bytes) :
    lineFrames (m.text ++ w) = m.canFrame.toList ++ Session.lineFrames w := by
  obtain ⟨e, z, htext, hends⟩ := h.text
  obtain ⟨he, hz⟩ := List.forall_mem_cons.mp hends
  rw [htext, List.append_assoc, List.cons_append, lineFrames_line h.free he, h.frame,
    lineFrames_lineEnds hz]

/-- Behind a prompt nothing is left of it. -/
theorem OneLine.lineFrames_glued (h : OneLine m l) (w : Bytes) :
    Session.lineFrames (PROMPT :: (m.text ++ w)) = Session.lineFrames w := by
  obtain ⟨e, z, htext, hends⟩ := h.text
  obtain ⟨he, hz⟩ := List.forall_mem_cons.mp hends
  have hfree : ∀ c ∈ PROMPT :: l, isLineEnd c = false :=
    List.forall_mem_cons.mpr ⟨by decide, h.free⟩
  have hnone : rawFrame (PROMPT :: l) = none := rawFrame_eq_none (by decide) (by decide) l
  rw [htext, List.append_assoc, List.cons_append, ← List.cons_append,
    lineFrames_line hfree he, hnone, lineFrames_lineEnds hz]
  rfl

theorem lineFrames_messages {msgs : List Message} (h : ∀ m ∈ msgs, ∃ l, OneLine m l) :
    lineFrames (msgs.flatMap Message.text) = msgs.filterMap Message.canFrame := by
  induction msgs with
  | nil => rfl
  | cons m msgs ih =>
    obtain ⟨⟨l, hl⟩, hmsgs⟩ := List.forall_mem_cons.mp h
    rw [List.flatMap_cons, hl.lineFrames, ih hmsgs, List.filterMap_cons]
    cases m.canFrame <;> rfl

/-- A part of the stream that begins with a message has nothing to strip. -/
theorem dropWhile_isLead {msgs : List Message} (h : ∀ m ∈ msgs, ∃ l, OneLine m l)
    (hu : u <+: msgs.flatMap Message.text) : u.dropWhile isLead = u := by
  apply (dropWhile_eq_self_iff isLead).mpr
  rintro c hc
  cases msgs with
  | nil =>
    rw [List.prefix_nil.mp hu] at hc
    cases hc
  | cons m msgs =>
    obtain ⟨⟨l, hl⟩, -⟩ := List.forall_mem_cons.mp h
    obtain ⟨e, z, htext, -⟩ := hl.text
    obtain ⟨x, hx, hlead⟩ := hl.head
    obtain ⟨l', rfl⟩ := List.head?_eq_some_iff.mp hx
    obtain ⟨u', rfl⟩ := List.head?_eq_some_iff.mp hc
    rw [List.flatMap_cons, htext] at hu
    obtain rfl : c = x := (List.cons_prefix_cons.mp hu).1
    exact hlead

end Lines

section Messages

variable {d : Device} {events : List LoopEvent} {e : LoopEvent} {m : Message}

theorem rdropWhile_append_rtakeWhile (l : Bytes) :
    l.rdropWhile isLineEnd ++ l.rtakeWhile isLineEnd = l := by
  rw [List.rdropWhile, List.rtakeWhile, ← List.reverse_append, List.takeWhile_append_dropWhile,
    List.reverse_reverse]

theorem cString_printed (version : Bytes) (nowMs : UInt32) (status : LoopStatus) :
    cString (LoopHeartbeat.printed version nowMs status) =
      LoopHeartbeat.printed version nowMs status :=
  List.takeWhile_eq_self_iff.mpr fun c hc =>
    decide_eq_true (LoopHeartbeat.cString_noNul _ c hc)

theorem isLead_of_digit {c : Byte} (h : isDigit 16 c = true) : isLead c = false := by
  rw [Bool.eq_false_iff]
  intro hlead
  have hcases : c = PROMPT ∨ isBlank c = true := by simpa [isLead] using hlead
  rcases hcases with rfl | hblank
  · exact absurd h (by decide)
  · rw [notBlank_of_hex h] at hblank
    cases hblank

/-- Each message of a calm run but the replies is one line. -/
theorem oneLine_message (hruns : d.Runs events) (hcalm : Calm events) (he : e ∈ events)
    (hm : m.From e) (hcmd : m.command = none) : ∃ l, OneLine m l := by
  cases m with
  | reply env cmd => cases hcmd
  | frame msg =>
    obtain ⟨nowMs, queue, rfl, hmsg⟩ := hm
    have hfits := hcalm.frame nowMs queue he _ hmsg
    refine ⟨msg.text, ⟨CR, [], frameString_of_fits hfits, by decide +kernel⟩, text_noLineEnd, ?_,
      ?_⟩
    · obtain ⟨c, w, hw⟩ := List.exists_cons_of_ne_nil (hexPad_ne_nil 3 msg.identifier.toNat)
      refine ⟨c, by rw [CanFrame.text, hw]; rfl, isLead_of_digit ?_⟩
      exact isDigit_hexPad 3 msg.identifier.toNat c (by simp [hw])
    · rw [CanStream.rawFrame_text, Message.canFrame]
      split <;> rfl
  | heartbeat snapshot =>
    obtain rfl : e = .heartbeat snapshot true := hm
    have hfree := hcalm.heartbeat snapshot true he
    obtain ⟨nowMs, status, -, hs⟩ := hruns.heartbeat snapshot true he
    have hstate := hs ▸ state_prefix_shown d.version_plain.noNul nowMs status
    have hcString : cString snapshot = snapshot := hs ▸ cString_printed d.version nowMs status
    have hhead : Cli.ProvisioningRunner.STATE = 91 :: ascii "STATE]" := by decide
    obtain ⟨y, hy⟩ := hstate.trans (List.takeWhile_prefix _)
    rw [hcString, hhead, List.cons_append] at hy
    -- what stands in front of its line ends
    obtain ⟨z, hz, hends⟩ : ∃ z, snapshot = snapshot.rdropWhile isLineEnd ++ z ∧
        ∀ c ∈ z, isLineEnd c = true :=
      ⟨snapshot.rtakeWhile isLineEnd, (rdropWhile_append_rtakeWhile snapshot).symm,
        fun c hc => List.mem_rtakeWhile_imp hc⟩
    obtain ⟨l, hl⟩ : ∃ l, snapshot.rdropWhile isLineEnd = 91 :: l := by
      cases hr : snapshot.rdropWhile isLineEnd with
      | nil =>
        have hall := List.rdropWhile_eq_nil_iff.mp hr 91 (hy ▸ List.mem_cons_self)
        exact absurd hall (by decide)
      | cons c l =>
        rw [hr, ← hy] at hz
        exact ⟨l, by rw [(List.cons.inj hz).1.symm]⟩
    rw [hl] at hz hfree
    refine ⟨91 :: l, ?_, hfree, ⟨91, rfl, by decide⟩, ?_⟩
    · have htext : (Message.heartbeat snapshot).text = 91 :: l ++ (z ++ [CR, LF]) := by
        rw [Message.text, printlnBytes, hcString, ← List.append_assoc, ← hz]
      have hall : ∀ c ∈ z ++ [CR, LF], isLineEnd c = true :=
        List.forall_mem_append.mpr ⟨hends, by decide +kernel⟩
      obtain ⟨e, z', hcons⟩ := List.exists_cons_of_ne_nil
        (List.append_ne_nil_of_right_ne_nil z (List.cons_ne_nil CR [LF]))
      exact ⟨e, z', hcons ▸ htext, hcons ▸ hall⟩
    · rw [rawFrame_eq_none (by decide) (by decide)]
      rfl

end Messages

section Delivery

variable {post : List Message} {rest tail : Bytes} {unread : List Received}

/-- What the host takes out of the stream behind its acknowledgement: a message is lost at most
where it comes with the prompt. -/
theorem delivered_behind (hpost : ∀ m ∈ post, ∃ l, OneLine m l)
    (hrest : rest ++ received unread = [CR, CR, PROMPT] ++ tail)
    (htail : tail <+: post.flatMap Message.text) :
    ∃ lost kept, post = lost ++ kept ∧ lost.length ≤ 1 ∧ (lost ≠ [] → PromptLate unread) ∧
      lineFrames (rest.dropWhile isLead ++ received unread) <+:
        kept.filterMap Message.canFrame ∧
      (tail = post.flatMap Message.text →
        lineFrames (rest.dropWhile isLead ++ received unread) =
          kept.filterMap Message.canFrame) := by
  have hwhole : lineFrames tail <+: post.filterMap Message.canFrame ∧
      (tail = post.flatMap Message.text → lineFrames tail = post.filterMap Message.canFrame) := by
    rw [← lineFrames_messages hpost]
    exact ⟨lineFrames_mono htail, fun h => by rw [h]⟩
  rcases List.append_eq_append_iff.mp hrest with ⟨z, hz, hunread⟩ | ⟨z, rfl, rfl⟩
  · have hlead : rest.dropWhile isLead = [] := by
      rw [List.dropWhile_eq_nil_iff]
      rintro c hc
      have hmem : c ∈ [CR, CR, PROMPT] := hz ▸ List.mem_append_left z hc
      simp only [List.mem_cons, List.not_mem_nil, or_false, or_self_left] at hmem
      rcases hmem with rfl | rfl <;> decide
    rw [hlead, List.nil_append, hunread]
    rcases List.eq_nil_or_concat z with rfl | ⟨w, c, rfl⟩
    · exact ⟨[], post, rfl, Nat.zero_le _, fun h => absurd rfl h, hwhole⟩
    · -- the prompt comes in front of the rest
      rw [List.concat_eq_append] at *
      have hsplit : [CR, CR] ++ [PROMPT] = rest ++ w ++ [c] := by
        rw [List.append_assoc]
        exact hz
      obtain ⟨hw, hc⟩ := List.append_inj' hsplit rfl
      obtain rfl : PROMPT = c := (List.cons.inj hc).1
      have hCR : ∀ c ∈ w, c = CR := by
        rintro c hc
        have hmem : c ∈ [CR, CR] := hw ▸ List.mem_append_right rest hc
        simpa using hmem
      have hlate : PromptLate unread := ⟨w, hCR, by rw [hunread]; exact List.prefix_append _ _⟩
      have hskip : lineFrames (w ++ [PROMPT] ++ tail) = lineFrames (PROMPT :: tail) := by
        rw [List.append_assoc, lineFrames_lineEnds]
        · rfl
        · rintro c hc
          rw [hCR c hc]
          rfl
      rw [hskip]
      cases post with
      | nil =>
        obtain rfl : tail = [] := List.prefix_nil.mp htail
        exact ⟨[], [], rfl, Nat.zero_le _, fun h => absurd rfl h, List.prefix_rfl, fun _ => rfl⟩
      | cons m kept =>
        obtain ⟨⟨l, hl⟩, hkept⟩ := List.forall_mem_cons.mp hpost
        refine ⟨[m], kept, rfl, le_rfl, fun _ => hlate, ?_⟩
        rw [← lineFrames_messages hkept, ← hl.lineFrames_glued (kept.flatMap Message.text)]
        rw [List.flatMap_cons] at htail ⊢
        exact ⟨lineFrames_mono ((List.prefix_cons_inj PROMPT).mpr htail), fun h => by rw [h]⟩
  · have hlead : ([CR, CR, PROMPT] ++ z).dropWhile isLead = z := by
      rw [List.dropWhile_append_of_pos (by decide +kernel)]
      exact dropWhile_isLead hpost ((List.prefix_append _ _).trans htail)
    rw [hlead]
    exact ⟨[], post, rfl, Nat.zero_le _, fun h => absurd rfl h, hwhole⟩

end Delivery

section Live

variable {d : Device} {bridge : CanBridge} {before rest later : List LoopEvent}
  {client : ClientId} {a : Attempt}

theorem Device.Runs.mono {events w : List LoopEvent} (h : d.Runs events)
    (hsub : w ⊆ events) : d.Runs w :=
  ⟨fun env input he => h.env env input (hsub he),
    fun snapshot connected he => h.heartbeat snapshot connected (hsub he)⟩

/-- A host that has read the device's answers to its two commands connects, and what it then takes
out of the stream are the standard frames that the device has printed behind its acknowledgement,
in order and each once: as far as it has read, and all of them when it has read all. Only a message
that comes behind a late prompt may be lost. -/
theorem frames_delivered (hruns : d.Runs (before ++ rest ++ later))
    (hcalm : Calm (before ++ rest ++ later))
    (hnames : Unmistakable (before ++ rest)) (hserved : Served a)
    (hauth : Authenticated before client) (hnone : sent client (calls bridge before) = [])
    (hasked : sent client (calls bridge (before ++ rest)) = hostCommands)
    (hsent : sent client (calls bridge (before ++ rest ++ later)) = hostCommands)
    (hfits : (rendered d.id (ascii "ESP32-CAN-Bridge") d.version).length < 128)
    (hfirst : a.authReply <+: wire client bridge before) (hlen : 2 ≤ a.authReply.length)
    (hanswered : wire client bridge (before ++ rest) <+: a.authReply ++ received a.recvs)
    (hreads : a.authReply ++ received a.recvs <+: wire client bridge (before ++ rest ++ later))
    (hroomy : Roomy [] a.recvs) {t : TCPTransport} (hraw : t.adapterProtocol = ascii "raw") :
    ∃ t' unread parts pre env lost kept,
      t.connectAndAuth a = (t', some (d.id, unread)) ∧
      Streamed bridge (before ++ rest ++ later) client parts ∧
      parts.flatten = pre ++ .reply env (ascii "ATHELO") :: (lost ++ kept) ∧
      lost.length ≤ 1 ∧ (lost ≠ [] → PromptLate unread) ∧
      delivered t' unread <+: kept.filterMap Message.canFrame ∧
      (a.authReply ++ received a.recvs = wire client bridge (before ++ rest ++ later) →
        delivered t' unread = kept.filterMap Message.canFrame) := by
  obtain ⟨hOK, parts, pre, env, post, u, x, hparts, hflat, hpost, hopening, hwire⟩ :=
    handshake_stream (hruns.mono (List.subset_append_left _ _)) hnames
      hauth hnone hasked hfits hfirst hlen
  obtain ⟨parts', hgrown⟩ := hparts.grows (hauth.append rest) later
  have hall : (parts ++ parts').flatten =
      pre ++ .reply env (ascii "ATHELO") :: (post ++ parts'.flatten) := by
    rw [List.flatten_append, hflat]
    simp
  -- no command is left to answer
  have hquiet : (post ++ parts'.flatten).filterMap Message.command = [] := by
    have hold := hparts.commands
    have hnew := hgrown.commands
    rw [hsent, ← hasked, ← hold, List.flatten_append, List.filterMap_append,
      List.append_right_eq_self] at hnew
    rw [List.filterMap_append, hpost, hnew]
    rfl
  have hline : ∀ m ∈ post ++ parts'.flatten, ∃ l, OneLine m l := by
    rintro m hm
    obtain ⟨e, he, hfrom⟩ := hgrown.mem
      (hall ▸ List.mem_append_right pre (List.mem_cons_of_mem _ hm))
    exact oneLine_message hruns hcalm he hfrom (List.filterMap_eq_nil_iff.mp hquiet m hm)
  -- what has been read of the stream since
  obtain ⟨tail, htail⟩ := hanswered
  have hmore : wire client bridge (before ++ rest ++ later) =
      wire client bridge (before ++ rest) ++ parts'.flatten.flatMap Message.text := by
    rw [hgrown.bytes, hparts.bytes, List.flatten_append, List.flatMap_append, List.append_assoc]
  rw [← htail, hmore, List.prefix_append_right_inj] at hreads
  have hsame := htail
  rw [hwire, List.append_assoc] at hsame
  have hreceived := (List.append_cancel_left hsame).symm
  simp only [List.append_assoc, List.cons_append] at hreceived
  obtain ⟨left, unread, hconnect, hleft, hroom⟩ := connect_of_stream (d := d) (x := x)
    (v := [CR, CR, PROMPT] ++ (post.flatMap Message.text ++ tail)) hserved hOK hopening
    (by rw [hreceived]; simp) hroomy hraw
  have hread : post.flatMap Message.text ++ tail <+:
      (post ++ parts'.flatten).flatMap Message.text := by
    rw [List.flatMap_append, List.prefix_append_right_inj]
    exact hreads
  obtain ⟨lost, kept, hsplit, hlost, hlate, hpre, hwhole⟩ := delivered_behind hline hleft hread
  have hlines := lines_of_roomy (hroom.of_suffix (List.dropWhile_suffix isLead))
  refine ⟨_, unread, parts ++ parts', pre, env, lost, kept, hconnect, hgrown, hsplit ▸ hall, hlost,
    hlate, ?_, ?_⟩
  · rw [delivered, hlines]
    exact hpre
  · intro heq
    rw [delivered, hlines]
    apply hwhole
    rw [List.flatMap_append, List.append_cancel_left (htail.trans (heq.trans hmore))]

end Live

section Bench

/-- Two more frames on the bus. -/
def busy : List LoopEvent :=
  [.processFrames 6000 [(benchFrame, true), (CanStream.standard, true)]]

def busyWire : Bytes := wire 0 { initialized := true } (greeted ++ asked ++ busy)

/-- The host reads up to the prompt and then the rest. -/
def busyAttempt : Attempt :=
  { benchAttempt with
    recvs := [read ((busyWire.drop 2).take 250), read (busyWire.drop 252)] }

theorem runs_busy : benchDevice.Runs (greeted ++ asked ++ busy) := by
  constructor
  · rintro env input hmem
    rcases List.mem_append.mp hmem with hmem | hmem
    · exact runs_bench.env env input hmem
    · simp [busy] at hmem
  · rintro snapshot connected hmem
    rcases List.mem_append.mp hmem with hmem | hmem
    · exact runs_bench.heartbeat snapshot connected hmem
    · simp [busy] at hmem

theorem calm_busy : Calm (greeted ++ asked ++ busy) := by
  constructor
  · rintro nowMs queue hmem r hr
    simp only [greeted, asked, busy, List.cons_append, List.nil_append, List.mem_cons,
      List.not_mem_nil, or_false, reduceCtorEq, false_or, LoopEvent.processFrames.injEq] at hmem
    rcases hmem with ⟨-, rfl⟩ | ⟨-, rfl⟩
    · obtain rfl := List.mem_singleton.mp hr
      decide
    · rcases List.mem_pair.mp hr with rfl | rfl <;> decide
  · rintro snapshot connected hmem
    simp only [greeted, asked, busy, List.cons_append, List.nil_append, List.mem_cons,
      List.not_mem_nil, or_false, reduceCtorEq, false_or, LoopEvent.heartbeat.injEq] at hmem
    rw [hmem.1]
    decide +kernel

theorem roomy_busyAttempt : Roomy [] busyAttempt.recvs := by
  apply roomy_of_short
  rintro l hl -
  have hle := hl.length_le
  have hreads : (received busyAttempt.recvs).length + 256 ≤ MAX_PENDING_LEN := by decide +kernel
  rw [List.nil_append] at hle
  omega

theorem frames_delivered_busy : ∃ t' unread parts pre env lost kept,
    ({ host := ascii "192.168.4.1" } : TCPTransport).connectAndAuth busyAttempt =
      (t', some (benchDevice.id, unread)) ∧
    Streamed { initialized := true } (greeted ++ asked ++ busy) 0 parts ∧
    parts.flatten = pre ++ .reply env (ascii "ATHELO") :: (lost ++ kept) ∧
    lost.length ≤ 1 ∧ delivered t' unread = kept.filterMap Message.canFrame := by
  obtain ⟨t', unread, parts, pre, env, lost, kept, hconnect, hparts, hsplit, hlost, -, -, hall⟩ :=
    frames_delivered runs_busy calm_busy unmistakable_bench
      ⟨rfl, ⟨rfl, rfl⟩, rfl, rfl, rfl⟩ (authenticated_bench []) sent_greeted
      sent_asked (by decide +kernel) (by decide +kernel) (by decide +kernel) (by decide)
      (by decide +kernel) (by decide +kernel) roomy_busyAttempt
      (t := { host := ascii "192.168.4.1" }) rfl
  exact ⟨t', unread, parts, pre, env, lost, kept, hconnect, hparts, hsplit, hlost,
    hall (by decide +kernel)⟩

end Bench

end VehicleSpy.Session
