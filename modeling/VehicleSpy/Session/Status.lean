import VehicleSpy.Cli.StatusCommand
import VehicleSpy.Session.Handshake

/-! # The status command on a device's console

The console port authenticates like any client and takes its acknowledgement byte by byte, so that
the first heartbeat behind it is not lost. The command prints this heartbeat, once it is there.
-/

namespace VehicleSpy.Session

open Firmware Machine FirmwareLoop AuthBoundary ClientSessions

open Text hiding trim

open Cli.ProvisioningRunner

/-- What the socket answers while the port is opened; `arriving` is what comes before a read
fails. -/
structure TcpConsolePort where
  connects : Bool := true
  recvTimeoutSet : Bool := true
  noDelaySet : Bool := true
  authSent : Bool := true
  arriving : Bytes
  statusTimeoutSet : Bool := true
  deriving DecidableEq, Repr

namespace TcpConsolePort

def AUTH_ACK_MAX_LEN : ℕ := 64

/-- The acknowledgement, read byte by byte up to its line end, and what is left in the socket. -/
def readAuthAck : ℕ → Bytes → Bytes × Bytes
  | 0, arriving => ([], arriving)
  | _, [] => ([], [])
  | n + 1, c :: arriving =>
    if isLineEnd c then ([c], arriving)
    else
      let (ack, rest) := readAuthAck n arriving
      (c :: ack, rest)

/-- The acknowledgement that has been taken, if the port is open then. -/
def openPort (p : TcpConsolePort) : Option Bytes :=
  if !p.connects || !p.recvTimeoutSet || !p.noDelaySet || !p.authSent then none
  else
    let (ack, _) := readAuthAck AUTH_ACK_MAX_LEN p.arriving
    if (findStr (ascii "OK") ack).isNone || !p.statusTimeoutSet then none else some ack

/-- Only the last byte of the acknowledgement can be a line end. -/
theorem readAuthAck_open (n : ℕ) (arriving : Bytes) :
    ∀ u c v, (readAuthAck n arriving).1 = u ++ c :: v → isLineEnd c = true → v = [] := by
  induction n generalizing arriving with
  | zero => simp [readAuthAck]
  | succ n ih =>
    cases arriving with
    | nil => simp [readAuthAck]
    | cons d arriving =>
      rw [readAuthAck]
      split
      · next hd =>
        intro u c v h hc
        cases u with
        | nil => exact (List.cons.inj h).2.symm
        | cons x u => simp at h
      · next hd =>
        intro u c v h hc
        cases u with
        | nil =>
          obtain ⟨rfl, -⟩ := List.cons.inj h
          exact absurd hc hd
        | cons x u => exact ih arriving u c v (List.cons.inj h).2 hc

end TcpConsolePort

/-- The heartbeat that a message is. -/
def Message.snapshot : Message → Option Bytes
  | heartbeat snapshot => some snapshot
  | _ => none

/-- What is shown of a heartbeat: its text up to the first line end. -/
def shown (snapshot : Bytes) : Bytes := (cString snapshot).takeWhile (!isLineEnd ·)

section Stream

variable {d : Device} {bridge : CanBridge} {events : List LoopEvent} {client : ClientId}
  {g v R line : Bytes}

theorem shown_free (snapshot : Bytes) : ∀ c ∈ shown snapshot, isLineEnd c = false := by
  intro c hc
  simpa using List.mem_takeWhile_imp hc

/-- A heartbeat is what is shown of it, and then a line end. -/
theorem heartbeat_split (snapshot : Bytes) :
    ∃ e rest, (Message.heartbeat snapshot).text = shown snapshot ++ e :: rest ∧
      isLineEnd e = true := by
  have htext : (Message.heartbeat snapshot).text = cString snapshot ++ [CR, LF] := rfl
  by_cases hfree : ∃ c ∈ cString snapshot, isLineEnd c = true
  · obtain ⟨l, e, r, hsplit, he, hl⟩ := first_separator hfree
    refine ⟨e, r ++ [CR, LF], ?_, he⟩
    rw [htext, shown, hsplit, takeWhile_line hl he]
    simp
  · have hall : ∀ c ∈ cString snapshot, (!isLineEnd c) = true := by simpa using hfree
    exact ⟨CR, [LF], by rw [htext, shown, List.takeWhile_eq_self_iff.mpr hall], rfl⟩

theorem state_prefix_shown {version : Bytes} (hnul : 0 ∉ version) (nowMs : UInt32)
    (status : LoopStatus) : STATE <+: shown (LoopHeartbeat.printed version nowMs status) := by
  have hnul' : ∀ c ∈ version, c ≠ 0 := fun c hc heq => hnul (heq ▸ hc)
  have hkeys : ascii "[STATE] uptime=" = STATE ++ ascii " uptime=" := by decide
  have hlen : STATE.length = 7 := by decide
  have hfree : ∀ c ∈ STATE, decide (c ≠ 0) = true := by decide +kernel
  have hline : ∀ c ∈ STATE, (!isLineEnd c) = true := by decide +kernel
  obtain ⟨y, hy⟩ : ∃ y, LoopHeartbeat.printed version nowMs status = STATE ++ y := by
    rw [LoopHeartbeat.printed_eq hnul', LoopHeartbeat.line, LoopHeartbeat.head, hkeys]
    simp only [List.append_assoc, List.take_append, hlen]
    exact ⟨_, congrArg (· ++ _) (List.take_of_length_le (by decide))⟩
  rw [shown, hy, cString, List.takeWhile_append_of_pos hfree, List.takeWhile_append_of_pos hline]
  exact List.prefix_append _ _

/-- The marker is found behind a text without brackets. -/
theorem stateLine_marked (hg : 91 ∉ g) (hmark : STATE <+: line) {e : Byte}
    (he : isLineEnd e = true) (hl : ∀ c ∈ line, isLineEnd c = false) (v : Bytes) :
    stateLine (g ++ (line ++ e :: v)) = some line := by
  refine stateLine_iff.mpr ⟨g, e, v, rfl, ?_, he, hl⟩
  apply findStr_append
  · rintro w hw hne hpre
    obtain ⟨c, w, rfl⟩ := List.exists_cons_of_ne_nil hne
    have hhead : STATE = 91 :: ascii "STATE]" := by decide
    rw [hhead, List.cons_append, List.cons_prefix_cons] at hpre
    exact hg (hw.subset (hpre.1 ▸ List.mem_cons_self))
  · exact hmark.trans (List.prefix_append _ _)

/-- Of a stream that has come no further than a line without its end nothing is shown. -/
theorem stateLine_short (hg : 91 ∉ g) (hl : ∀ c ∈ line, isLineEnd c = false)
    (hR : R <+: g ++ line) : stateLine R = none := by
  rcases hfound : stateLine R with _ | line'
  · rfl
  · obtain ⟨g', e, v, rfl, hpos, he, -⟩ := stateLine_iff.mp hfound
    have hmark : STATE <+: line' ++ e :: v := by
      have hdrop := findStr_prefix hpos
      rwa [List.drop_left] at hdrop
    have hnot : ¬ line' ++ e :: v <:+: line := fun hin => by
      rw [hl e (hin.subset (by simp))] at he
      cases he
    obtain ⟨t, ht⟩ := hR
    rw [List.append_assoc] at ht
    rcases List.append_eq_append_iff.mp ht with ⟨z, rfl, hz⟩ | ⟨z, rfl, hz⟩
    · rcases z with _ | ⟨c, z⟩
      · exact absurd ⟨[], t, by simpa using hz⟩ hnot
      · -- the marker's bracket stands in front of the line
        obtain ⟨y, hy⟩ := hmark
        have hhead : STATE = 91 :: ascii "STATE]" := by decide
        rw [← hy, hhead] at hz
        obtain rfl : 91 = c := (List.cons.inj hz).1
        exact absurd (List.mem_append_right _ List.mem_cons_self) hg
    · exact absurd ⟨z, t, by rw [hz, List.append_assoc]⟩ hnot

end Stream

section Status

variable {d : Device} {bridge : CanBridge} {events : List LoopEvent} {client : ClientId}
  {p : TcpConsolePort} {ack : Bytes} {polls : List Poll}

theorem openPort_some (h : p.openPort = some ack) :
    ascii "OK" <:+: ack ∧ ∀ u c v, ack = u ++ c :: v → isLineEnd c = true → v = [] := by
  unfold TcpConsolePort.openPort at h
  split at h
  · cases h
  · simp only at h
    split at h
    · cases h
    · next hok =>
      obtain rfl := Option.some.inj h
      simp only [Bool.or_eq_true, not_or, Option.isNone_iff_eq_none] at hok
      refine ⟨?_, TcpConsolePort.readAuthAck_open _ _⟩
      rw [← findStr_isSome_iff, Option.isSome_iff_ne_none]
      exact hok.1

/-- The port leaves everything behind the line end of its acknowledgement. -/
theorem ack_split {texts : Bytes} (h : p.openPort = some ack)
    (hpre : ack <+: answer true ++ texts) :
    ∃ z, 91 ∉ z ∧ answer true ++ texts = ack ++ (z ++ texts) := by
  obtain ⟨hok, hopen⟩ := openPort_some h
  have hanswer : answer true = [79, 75, CR, LF] := by decide +kernel
  rw [hanswer] at hpre ⊢
  obtain ⟨w, hw⟩ := hpre
  have hlen := hok.length_le
  rcases ack with _ | ⟨a, _ | ⟨b, _ | ⟨c, _ | ⟨e, ack⟩⟩⟩⟩
  · exact absurd hlen (by decide)
  · exact absurd hlen (by simp [ascii])
  · simp only [List.cons_append, List.nil_append, List.cons.injEq] at hw
    obtain ⟨rfl, rfl, -⟩ := hw
    exact ⟨[CR, LF], by decide, rfl⟩
  · simp only [List.cons_append, List.nil_append, List.cons.injEq] at hw
    obtain ⟨rfl, rfl, rfl, -⟩ := hw
    exact ⟨[LF], by decide, rfl⟩
  · -- a line end in the third place is the last byte
    simp only [List.cons_append, List.nil_append, List.cons.injEq] at hw
    have hnil := hopen [a, b] c (e :: ack) rfl (by rw [hw.2.2.1]; rfl)
    cases hnil

theorem bracket_notMem_frame (msg : CanFrame) : 91 ∉ (Message.frame msg).text := by
  intro hmem
  exact absurd (mem_frameString hmem) (by decide)

/-- Nothing in front of the first heartbeat has a bracket, where nothing was asked. -/
theorem bracket_notMem {msgs : List Message} (hcmd : msgs.filterMap Message.command = [])
    (hsnap : ∀ m ∈ msgs, m.snapshot = none) : 91 ∉ msgs.flatMap Message.text := by
  rintro hmem
  obtain ⟨m, hm, hmem⟩ := List.mem_flatMap.mp hmem
  cases m with
  | frame msg => exact bracket_notMem_frame msg hmem
  | heartbeat snapshot => cases hsnap _ hm
  | reply env cmd => cases List.filterMap_eq_nil_iff.mp hcmd _ hm

/-- The messages up to the first heartbeat. -/
theorem first_heartbeat (msgs : List Message) :
    (∀ m ∈ msgs, m.snapshot = none) ∨ ∃ pre s post, msgs = pre ++ .heartbeat s :: post ∧
      ∀ m ∈ pre, m.snapshot = none := by
  induction msgs with
  | nil => exact Or.inl (List.forall_mem_nil _)
  | cons m msgs ih =>
    cases hm : m.snapshot with
    | some s =>
      obtain rfl : m = .heartbeat s := by
        cases m with
        | heartbeat snapshot => rw [Option.some.inj hm]
        | _ => cases hm
      exact Or.inr ⟨[], s, msgs, rfl, List.forall_mem_nil _⟩
    | none =>
      rcases ih with hnone | ⟨pre, s, post, rfl, hpre⟩
      · exact Or.inl (List.forall_mem_cons.mpr ⟨hm, hnone⟩)
      · exact Or.inr ⟨m :: pre, s, post, rfl, List.forall_mem_cons.mpr ⟨hm, hpre⟩⟩

/-- What is printed of a stream in which a heartbeat stands behind a text without brackets. -/
theorem stateLine_iff_length {s R g rest : Bytes} (hg : 91 ∉ g) (hmark : STATE <+: shown s)
    (hR : R <+: g ++ ((Message.heartbeat s).text ++ rest)) :
    stateLine R = some line ↔ line = shown s ∧ (g ++ shown s).length < R.length := by
  obtain ⟨e, v, htext, he⟩ := heartbeat_split s
  have hwhole : g ++ ((Message.heartbeat s).text ++ rest) = g ++ shown s ++ e :: (v ++ rest) := by
    rw [htext]
    simp
  rw [hwhole] at hR
  rcases Nat.lt_or_ge (g ++ shown s).length R.length with hlt | hle
  · obtain ⟨z, rfl⟩ := List.prefix_of_prefix_length_le (List.prefix_append _ _) hR hlt.le
    obtain ⟨c, z, rfl⟩ := List.exists_cons_of_ne_nil fun hz : z = [] => by simp [hz] at hlt
    obtain rfl : c = e := (List.cons_prefix_cons.mp ((List.prefix_append_right_inj _).mp hR)).1
    have hline := stateLine_marked hg hmark he (shown_free s) z
    rw [List.append_assoc, hline]
    constructor
    · exact fun heq => ⟨(Option.some.inj heq).symm, by simp⟩
    · rintro ⟨rfl, -⟩
      rfl
  · have hshort : R <+: g ++ shown s :=
      List.prefix_of_prefix_length_le hR (List.prefix_append _ _) hle
    rw [stateLine_short hg (shown_free s) hshort]
    constructor
    · intro h
      cases h
    · exact fun h => absurd h.2 (Nat.not_lt.mpr hle)

/-- A port that opens has authenticated, and what is printed, if anything, is the first heartbeat
of the device's stream, once a byte behind it has come. -/
theorem status_prints (hruns : d.Runs events) (hsent : sent client (calls bridge events) = [])
    (hopen : p.openPort = some ack)
    (hreads : ack ++ (reads polls).flatten <+: wire client bridge events) (timeoutS : ℤ) :
    Authenticated events client ∧ ∃ parts, Streamed bridge events client parts ∧ ∀ line,
      runStatus timeoutS polls = { code := 0, out := line ++ [LF] } ↔
        ∃ pre s post, parts.flatten = pre ++ .heartbeat s :: post ∧
          (∀ m ∈ pre, m.snapshot = none) ∧ line = shown s ∧
          (answer true ++ pre.flatMap Message.text ++ shown s).length <
            (ack ++ (reads polls).flatten).length := by
  have hauth : Authenticated events client := authenticated_of_ok
    (((openPort_some hopen).1.trans (List.prefix_append _ _).isInfix).trans hreads.isInfix)
  obtain ⟨parts, hparts⟩ := (spoken_run bridge events client).streamed hauth
  refine ⟨hauth, parts, hparts, fun line => ?_⟩
  have hprints : runStatus timeoutS polls = { code := 0, out := line ++ [LF] } ↔
      stateLine (reads polls).flatten = some line := by
    refine ⟨fun h => ?_, runStatus_some timeoutS⟩
    cases hline : stateLine (reads polls).flatten with
    | none =>
      rw [runStatus_none timeoutS hline] at h
      cases h
    | some line' =>
      rw [runStatus_some timeoutS hline, StatusResult.mk.injEq] at h
      rw [List.append_cancel_right h.2.1]
  have hcmd : parts.flatten.filterMap Message.command = [] := by
    rw [hparts.commands, hsent]
    rfl
  rw [hparts.bytes] at hreads
  obtain ⟨z, hz, hsplit⟩ := ack_split hopen ((List.prefix_append _ _).trans hreads)
  rw [hsplit] at hreads
  have hR := (List.prefix_append_right_inj _).mp hreads
  -- wherever the first heartbeat stands
  have hfirst : ∀ pre s post, parts.flatten = pre ++ .heartbeat s :: post →
      (∀ m ∈ pre, m.snapshot = none) →
      (stateLine (reads polls).flatten = some line ↔ line = shown s ∧
        (answer true ++ pre.flatMap Message.text ++ shown s).length <
          (ack ++ (reads polls).flatten).length) := by
    intro pre s post heq hpre
    obtain ⟨e, he, hfrom⟩ := hparts.mem (m := .heartbeat s) (by simp [heq])
    obtain rfl : e = .heartbeat s true := hfrom
    obtain ⟨nowMs, status, -, hs⟩ := hruns.heartbeat s true he
    have hmark : STATE <+: shown s := hs ▸ state_prefix_shown d.version_plain.noNul nowMs status
    have hpreCmd : pre.filterMap Message.command = [] := by
      rw [heq, List.filterMap_append, List.append_eq_nil_iff] at hcmd
      exact hcmd.1
    have hfree : 91 ∉ z ++ pre.flatMap Message.text := by
      simp [hz, bracket_notMem hpreCmd hpre]
    have hlen := congrArg List.length hsplit
    rw [heq, List.flatMap_append, List.flatMap_cons, ← List.append_assoc] at hR
    rw [stateLine_iff_length hfree hmark hR]
    simp only [List.length_append] at hlen ⊢
    refine and_congr_right fun _ => ?_
    omega
  rw [hprints]
  constructor
  · intro hline
    rcases first_heartbeat parts.flatten with hnone | ⟨pre, s, post, heq, hpre⟩
    · have hfree : stateLine (reads polls).flatten = none := by
        have hnot : 91 ∉ z ++ parts.flatten.flatMap Message.text := by
          simp [hz, bracket_notMem hcmd hnone]
        exact stateLine_short hnot (List.forall_mem_nil _) (by rwa [List.append_nil])
      rw [hfree] at hline
      cases hline
    · exact ⟨pre, s, post, heq, hpre, (hfirst pre s post heq hpre).mp hline⟩
  · rintro ⟨pre, s, post, heq, hpre, hline⟩
    exact (hfirst pre s post heq hpre).mpr hline

/-- A frame and a heartbeat for a console that has authenticated. -/
def reported : List LoopEvent :=
  greeted ++ [.processFrames 300 [(benchFrame, true)],
    .heartbeat (LoopHeartbeat.printed (ascii "1.0.0") 5000 benchStatus) true]

/-- What it reads behind the acknowledgement. -/
def reportedRest : Bytes := (wire 0 { initialized := true } reported).drop 3

/-- The heartbeat comes in two pieces. -/
def reportedPolls : List Poll :=
  [.idle, .read (reportedRest.take 40), .idle, .read (reportedRest.drop 40)]

theorem status_prints_reported : Authenticated reported 0 ∧
    ∃ parts, Streamed { initialized := true } reported 0 parts ∧ ∀ line,
      runStatus PROVISION_STATUS_TIMEOUT_S reportedPolls = { code := 0, out := line ++ [LF] } ↔
        ∃ pre s post, parts.flatten = pre ++ .heartbeat s :: post ∧
          (∀ m ∈ pre, m.snapshot = none) ∧ line = shown s ∧
          (answer true ++ pre.flatMap Message.text ++ shown s).length <
            (ascii "OK" ++ [CR] ++ (reads reportedPolls).flatten).length := by
  have hruns : benchDevice.Runs reported := by
    constructor
    · rintro env input hmem
      obtain rfl : env = benchEnv := by
        simp only [reported, greeted, List.cons_append, List.nil_append, List.mem_cons,
          List.not_mem_nil, or_false, LoopEvent.cycle.injEq, reduceCtorEq] at hmem
        exact hmem.1
      exact ⟨rfl, rfl⟩
    · rintro snapshot connected hmem
      refine ⟨5000, benchStatus, ⟨by decide, by decide, by decide, by decide, {}, rfl⟩, ?_⟩
      simp only [reported, greeted, List.cons_append, List.nil_append, List.mem_cons,
        List.not_mem_nil, or_false, reduceCtorEq, false_or, LoopEvent.heartbeat.injEq] at hmem
      exact hmem.1
  have hsent : sent 0 (calls { initialized := true } reported) = [] := by decide +kernel
  exact status_prints (p := { arriving := wire 0 { initialized := true } reported })
    hruns hsent (by decide +kernel) (by decide +kernel) _

end Status

end VehicleSpy.Session
