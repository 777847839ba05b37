import VehicleSpy.Machine.Run
import VehicleSpy.Text.Bytes

/-! # The acknowledgement of a provisioning command

The reply grows read by read, and each time all of it is filtered anew. A heartbeat line is dropped
when its end has arrived; before that, what has arrived of it is searched like any other text.
-/

namespace VehicleSpy.Cli.ProvisioningRunner

open Text Machine

def STATE : Bytes := ascii "[STATE]"

inductive PollStep
  | Matched
  | KeepPolling
  | Stop
  deriving DecidableEq, Repr

inductive StopReason
  | None
  | SelectError
  | ReadError
  | PeerClosed
  deriving DecidableEq, Repr

/-- What a round of the wait loop meets at the port. A read of no bytes is a closed peer. -/
inductive Poll
  | selectError
  | idle
  | readError
  | read (bytes : Bytes)
  deriving DecidableEq, Repr

/-- The rest of the reply behind a line end: CR and LF in one, or either alone. -/
def behindLineEnd (c : Byte) (rest : Bytes) : Bytes :=
  if c = CR ∧ rest.head? = some LF then rest.tail else rest

theorem length_behindLineEnd_le (c : Byte) (rest : Bytes) :
    (behindLineEnd c rest).length ≤ rest.length := by
  unfold behindLineEnd
  split
  · exact List.length_tail ▸ Nat.sub_le _ _
  · exact le_rfl

/-- Complete lines that begin with the marker are dropped, and the unfinished line is kept. -/
def stripStateLines (reply : Bytes) : Bytes :=
  match h : reply.dropWhile (!isLineEnd ·) with
  | [] => reply
  | c :: rest =>
    have : (behindLineEnd c rest).length < reply.length := by
      have hlen := (List.dropWhile_suffix (!isLineEnd ·) (l := reply)).length_le
      rw [h, List.length_cons] at hlen
      exact (length_behindLineEnd_le c rest).trans_lt hlen
    let line := reply.takeWhile (!isLineEnd ·)
    let terminator := if c = CR ∧ rest.head? = some LF then [CR, LF] else [c]
    (if startsWith STATE reply then [] else line ++ terminator) ++
      stripStateLines (behindLineEnd c rest)
termination_by reply.length

def makeSubstringMatcher (expect reply : Bytes) : PollStep :=
  if expect = [] then .Matched
  else if (findStr expect (stripStateLines reply)).isSome then .Matched
  else .KeepPolling

/-- One round: the step, the reply with what has arrived, and why polling stops. -/
def pollOnce (matcher : Bytes → PollStep) (reply : Bytes) : Poll → PollStep × Bytes × StopReason
  | .selectError => (.Stop, reply, .SelectError)
  | .idle => (matcher reply, reply, .None)
  | .readError => (.Stop, reply, .ReadError)
  | .read bytes =>
    if bytes = [] then (.Stop, reply, .PeerClosed)
    else (matcher (reply ++ bytes), reply ++ bytes, .None)

/-- The rounds before the deadline. -/
def pollLoop (matcher : Bytes → PollStep) : Bytes → List Poll → PollStep
  | _, [] => .KeepPolling
  | reply, poll :: polls =>
    let r := pollOnce matcher reply poll
    if r.1 = .KeepPolling then pollLoop matcher r.2.1 polls else r.1

/-- The exit code of a command, from what the port does with its frame and what the rounds before
the deadline meet. -/
def runProvisioningCommand (writeAll : Bytes → Bool) (command expect : Bytes)
    (polls : List Poll) : ℕ :=
  if writeAll (command ++ [CR]) then
    if pollLoop (makeSubstringMatcher expect) [] polls = .Matched then 0 else 1
  else 1

/-- The reads before polling stops. -/
def reads : List Poll → List Bytes
  | .idle :: polls => reads polls
  | .read bytes :: polls => if bytes = [] then [] else bytes :: reads polls
  | _ => []

/-- The lines of a stream, read byte by byte: the line so far, and whether a dropped line has just
ended in a CR, whose LF goes with it. -/
structure LineFilter where
  line : Bytes := []
  droppedCr : Bool := false
  deriving DecidableEq

/-- A line is handed on with its end unless it begins with the marker. -/
def LineFilter.step (f : LineFilter) (c : Byte) : LineFilter × Bytes :=
  if f.droppedCr = true ∧ c = LF then ({}, [])
  else if isLineEnd c then
    if startsWith STATE f.line then ({ droppedCr := c == CR }, []) else ({}, f.line ++ [c])
  else ({ line := f.line ++ [c] }, [])

/-- The complete lines of a stream that do not begin with the marker. -/
def keptLines (stream : Bytes) : Bytes := emitted LineFilter.step {} stream

/-- The unfinished line at the end of a stream. -/
def openLine (stream : Bytes) : Bytes := (after LineFilter.step {} stream).line

/-- The stream without the lines that begin with the marker, finished or not. -/
def withoutStateLines (stream : Bytes) : Bytes :=
  keptLines stream ++ if startsWith STATE (openLine stream) then [] else openLine stream

/-- The text occurs in what has been received, at a point where the stream goes on with a line that
begins with the marker, and it does not occur in the stream without such lines. -/
def Mistaken (expect received later : Bytes) : Prop :=
  STATE <+: openLine received ++ later.takeWhile (!isLineEnd ·) ∧
    expect <:+: keptLines received ++ openLine received ∧
    ¬ expect <:+: withoutStateLines (received ++ later)

section Filter

variable {f : LineFilter} {u w stream received later : Bytes} {c : Byte}

/-- Within a line nothing is handed on. -/
theorem step_open (hu : ∀ c ∈ u, isLineEnd c = false) (v : Bytes) :
    emitted LineFilter.step { line := v } u = [] ∧
      after LineFilter.step { line := v } u = { line := v ++ u } := by
  induction u generalizing v with
  | nil => simp
  | cons c u ih =>
    obtain ⟨hc, hu⟩ := List.forall_mem_cons.mp hu
    obtain ⟨he, ha⟩ := ih hu (v ++ [c])
    have hstep : LineFilter.step { line := v } c = ({ line := v ++ [c] }, []) := by
      simp [LineFilter.step, hc]
    rw [emitted_cons, after_cons, hstep]
    exact ⟨he, ha.trans (by rw [List.append_assoc, List.singleton_append])⟩

/-- A CR before something else than an LF is a line end of its own. -/
theorem step_droppedCr (hw : w.head? ≠ some LF) :
    emitted LineFilter.step { droppedCr := true } w = emitted LineFilter.step {} w ∧
      (after LineFilter.step { droppedCr := true } w).line =
        (after LineFilter.step {} w).line := by
  cases w with
  | nil => exact ⟨rfl, rfl⟩
  | cons c w =>
    have hc : c ≠ LF := fun h => hw (by rw [h]; rfl)
    have hstep : LineFilter.step { droppedCr := true } c = LineFilter.step {} c := by
      simp [LineFilter.step, hc]
    rw [emitted_cons, after_cons, emitted_cons, after_cons, hstep]
    exact ⟨rfl, rfl⟩

/-- The marker lies in one line. -/
theorem startsWith_line (hc : isLineEnd c = true) :
    startsWith STATE (u ++ c :: w) = startsWith STATE u := by
  rw [Bool.eq_iff_iff, startsWith_iff, startsWith_iff]
  refine ⟨fun h => ?_, fun h => h.trans (List.prefix_append u _)⟩
  rcases List.prefix_or_prefix_of_prefix h (List.prefix_append u (c :: w)) with hpre | ⟨t, ht⟩
  · exact hpre
  · cases t with
    | nil => exact ⟨[], by rw [List.append_nil, ← ht, List.append_nil]⟩
    | cons d t =>
      rw [← ht, List.prefix_append_right_inj] at h
      obtain ⟨rfl, -⟩ := List.cons_prefix_cons.mp h
      have hmem : d ∈ STATE := by simp [← ht]
      have hfree : ∀ d ∈ STATE, isLineEnd d = false := by decide +kernel
      rw [hfree d hmem] at hc
      cases hc

/-- A line end closes the line, and what follows is filtered anew. -/
theorem step_lineEnd (hc : isLineEnd c = true) (v rest : Bytes) :
    emitted LineFilter.step { line := v } (c :: rest) =
        (if startsWith STATE v then []
          else v ++ if c = CR ∧ rest.head? = some LF then [CR, LF] else [c]) ++
          keptLines (behindLineEnd c rest) ∧
      (after LineFilter.step { line := v } (c :: rest)).line =
        openLine (behindLineEnd c rest) := by
  have hstep : LineFilter.step { line := v } c =
      if startsWith STATE v then ({ droppedCr := c == CR }, []) else ({}, v ++ [c]) := by
    simp [LineFilter.step, hc]
  rw [emitted_cons, after_cons, hstep, behindLineEnd]
  by_cases hcrlf : c = CR ∧ rest.head? = some LF
  · obtain ⟨rfl, hhead⟩ := hcrlf
    obtain ⟨rest, rfl⟩ := List.head?_eq_some_iff.mp hhead
    have hdropped : LineFilter.step { droppedCr := CR == CR } LF = ({}, []) := by decide
    have hkept : LineFilter.step {} LF = ({}, [LF]) := by decide
    have hboth : CR = CR ∧ (LF :: rest).head? = some LF := ⟨rfl, rfl⟩
    rw [if_pos hboth, if_pos hboth, List.tail_cons]
    split
    · rw [emitted_cons, after_cons, hdropped]
      exact ⟨rfl, rfl⟩
    · rw [emitted_cons, after_cons, hkept]
      exact ⟨by simp [keptLines], rfl⟩
  · rw [if_neg hcrlf, if_neg hcrlf]
    split
    · by_cases hcr : c = CR
      · obtain ⟨he, ha⟩ := step_droppedCr (w := rest) fun h => hcrlf ⟨hcr, h⟩
        rw [show (c == CR) = true from beq_iff_eq.mpr hcr]
        exact ⟨he, ha⟩
      · rw [show (c == CR) = false from beq_eq_false_iff_ne.mpr hcr]
        exact ⟨rfl, rfl⟩
    · exact ⟨rfl, rfl⟩

/-- The filter of the runner keeps the complete lines and the unfinished one. -/
theorem stripStateLines_eq (reply : Bytes) :
    stripStateLines reply = keptLines reply ++ openLine reply := by
  induction hn : reply.length using Nat.strongRecOn generalizing reply with
  | ind n ih =>
    have hline : ∀ c ∈ reply.takeWhile (!isLineEnd ·), isLineEnd c = false := fun c hc => by
      simpa using List.mem_takeWhile_imp hc
    have hsplit : reply.takeWhile (!isLineEnd ·) ++ reply.dropWhile (!isLineEnd ·) = reply :=
      List.takeWhile_append_dropWhile
    obtain ⟨he, ha⟩ := step_open hline []
    rw [stripStateLines]
    split
    · next h =>
      rw [h, List.append_nil] at hsplit
      rw [hsplit] at he ha
      rw [keptLines, openLine, he, ha]
      rfl
    · next c rest h =>
      have hc : isLineEnd c = true := by
        have hhead := List.head_dropWhile_not (!isLineEnd ·) (l := reply) (by simp [h])
        simpa [h] using hhead
      have hlt : (behindLineEnd c rest).length < n := by
        rw [← hn, ← hsplit, h, List.length_append, List.length_cons]
        have hle := length_behindLineEnd_le c rest
        omega
      obtain ⟨hkept, hopen⟩ := step_lineEnd hc (reply.takeWhile (!isLineEnd ·)) rest
      rw [h] at hsplit
      have hk : keptLines reply = emitted LineFilter.step
          { line := reply.takeWhile (!isLineEnd ·) } (c :: rest) := by
        conv_lhs => rw [keptLines, ← hsplit, emitted_append, he, ha]
        rfl
      have ho : openLine reply = openLine (behindLineEnd c rest) := by
        conv_lhs => rw [openLine, ← hsplit, after_append, ha]
        exact hopen
      have hstate : startsWith STATE reply =
          startsWith STATE (reply.takeWhile (!isLineEnd ·)) := by
        conv_lhs => rw [← hsplit]
        exact startsWith_line hc
      rw [hk, hkept, ho, hstate, List.append_assoc, ← ih _ hlt _ rfl]

/-- The flag stands between two lines only. -/
theorem line_of_droppedCr (stream : Bytes) :
    (after LineFilter.step {} stream).droppedCr = true → openLine stream = [] := by
  refine after_invariant LineFilter.step (P := fun f => f.droppedCr = true → f.line = [])
    (fun h => by cases h) (fun f c _ => ?_) stream
  unfold LineFilter.step
  split
  · exact fun _ => rfl
  · split
    · split
      · exact fun _ => rfl
      · exact fun _ => rfl
    · intro h
      cases h

/-- What is searched while no heartbeat line is open begins the stream without such lines. -/
theorem prefix_stripStateLines
    (h : ¬ STATE <+: openLine received ++ later.takeWhile (!isLineEnd ·)) :
    keptLines received ++ openLine received <+: withoutStateLines (received ++ later) := by
  have hkept : keptLines (received ++ later) = keptLines received ++
      emitted LineFilter.step (after LineFilter.step {} received) later := emitted_append ..
  have hopen : openLine (received ++ later) =
      (after LineFilter.step (after LineFilter.step {} received) later).line :=
    congrArg LineFilter.line (after_append ..)
  rw [withoutStateLines, hkept, hopen, List.append_assoc, List.prefix_append_right_inj]
  by_cases hnil : openLine received = []
  · rw [hnil]
    exact List.nil_prefix
  · have hstate : after LineFilter.step {} received = { line := openLine received } := by
      have hcr := mt (line_of_droppedCr received) hnil
      rw [Bool.not_eq_true] at hcr
      exact congrArg (LineFilter.mk _) hcr
    have hline : ∀ c ∈ later.takeWhile (!isLineEnd ·), isLineEnd c = false := fun c hc => by
      simpa using List.mem_takeWhile_imp hc
    obtain ⟨he, ha⟩ := step_open hline (openLine received)
    have hsplit : later.takeWhile (!isLineEnd ·) ++ later.dropWhile (!isLineEnd ·) = later :=
      List.takeWhile_append_dropWhile
    rw [hstate, ← hsplit, emitted_append, after_append, he, ha, List.nil_append]
    cases hrest : later.dropWhile (!isLineEnd ·) with
    | nil =>
      rw [emitted_nil, after_nil, if_neg (by rwa [startsWith_iff])]
      exact List.prefix_append _ _
    | cons c rest =>
      have hc : isLineEnd c = true := by
        have hhead := List.head_dropWhile_not (!isLineEnd ·) (l := later) (by simp [hrest])
        simpa [hrest] using hhead
      rw [(step_lineEnd hc _ rest).1, if_neg (by rwa [startsWith_iff]), List.append_assoc,
        List.append_assoc, List.append_assoc]
      exact List.prefix_append _ _

theorem prefix_withoutStateLines (stream : Bytes) :
    withoutStateLines stream <+: keptLines stream ++ openLine stream := by
  unfold withoutStateLines
  refine (List.prefix_append_right_inj _).mpr ?_
  split
  · exact List.nil_prefix
  · exact List.prefix_rfl

end Filter

section Loop

variable {matcher : Bytes → PollStep} {reply expect : Bytes} {polls : List Poll}

theorem makeSubstringMatcher_eq (hne : expect ≠ []) :
    makeSubstringMatcher expect reply = .Matched ↔
      expect <:+: keptLines reply ++ openLine reply := by
  rw [makeSubstringMatcher, if_neg hne, stripStateLines_eq, ← findStr_isSome_iff]
  split <;> simp [*]

theorem makeSubstringMatcher_ne_stop (expect reply : Bytes) :
    makeSubstringMatcher expect reply ≠ .Stop := by
  unfold makeSubstringMatcher
  split
  · decide
  · split <;> decide

theorem keepPolling_of_ne (hgo : ∀ reply, matcher reply ≠ .Stop)
    (hreply : matcher reply ≠ .Matched) : matcher reply = .KeepPolling := by
  cases hm : matcher reply with
  | Matched => exact absurd hm hreply
  | KeepPolling => rfl
  | Stop => exact absurd hm (hgo reply)

theorem not_matched_nil (hreply : matcher reply ≠ .Matched) :
    ¬ ∃ u v, ([] : List Bytes) = u ++ v ∧ matcher (reply ++ u.flatten) = .Matched := by
  rintro ⟨u, v, huv, hm⟩
  obtain ⟨rfl, -⟩ := List.append_eq_nil_iff.mp huv.symm
  exact hreply (by simpa using hm)

/-- Where the reply does not match yet, a match needs the next read. -/
theorem matched_cons_iff (hreply : matcher reply ≠ .Matched) {bytes : Bytes} {rest : List Bytes} :
    (∃ u v, bytes :: rest = u ++ v ∧ matcher (reply ++ u.flatten) = .Matched) ↔
      ∃ u v, rest = u ++ v ∧ matcher (reply ++ bytes ++ u.flatten) = .Matched := by
  constructor
  · rintro ⟨_ | ⟨b, u⟩, v, huv, hmatch⟩
    · exact absurd (by simpa using hmatch) hreply
    · obtain ⟨rfl, hrest⟩ := List.cons.inj huv
      rw [List.flatten_cons, ← List.append_assoc] at hmatch
      exact ⟨u, v, hrest, hmatch⟩
  · rintro ⟨u, v, rfl, hmatch⟩
    refine ⟨bytes :: u, v, rfl, ?_⟩
    rwa [List.flatten_cons, ← List.append_assoc]

/-- The loop ends with a match when the matcher accepts what some of the reads have brought. -/
theorem pollLoop_matched_iff (hgo : ∀ reply, matcher reply ≠ .Stop)
    (hreply : matcher reply ≠ .Matched) :
    pollLoop matcher reply polls = .Matched ↔
      ∃ u v, reads polls = u ++ v ∧ matcher (reply ++ u.flatten) = .Matched := by
  induction polls generalizing reply with
  | nil =>
    refine iff_of_false ?_ (not_matched_nil hreply)
    rw [pollLoop]
    decide
  | cons poll polls ih =>
    cases poll with
    | selectError =>
      refine iff_of_false ?_ (not_matched_nil hreply)
      simp [pollLoop, pollOnce]
    | readError =>
      refine iff_of_false ?_ (not_matched_nil hreply)
      simp [pollLoop, pollOnce]
    | idle =>
      have hloop : pollLoop matcher reply (.idle :: polls) = pollLoop matcher reply polls := by
        simp [pollLoop, pollOnce, keepPolling_of_ne hgo hreply]
      rw [hloop]
      exact ih hreply
    | read bytes =>
      by_cases hb : bytes = []
      · have hreads : reads (.read bytes :: polls) = [] := by simp [reads, hb]
        rw [hreads]
        refine iff_of_false ?_ (not_matched_nil hreply)
        simp [pollLoop, pollOnce, hb]
      · have hreads : reads (.read bytes :: polls) = bytes :: reads polls := by simp [reads, hb]
        rw [hreads, matched_cons_iff hreply]
        by_cases hm : matcher (reply ++ bytes) = .Matched
        · have hloop : pollLoop matcher reply (.read bytes :: polls) = .Matched := by
            simp [pollLoop, pollOnce, hb, hm]
          exact iff_of_true hloop ⟨[], reads polls, rfl, by simpa using hm⟩
        · have hloop : pollLoop matcher reply (.read bytes :: polls) =
              pollLoop matcher (reply ++ bytes) polls := by
            simp [pollLoop, pollOnce, hb, keepPolling_of_ne hgo hm]
          rw [hloop]
          exact ih hm

variable {writeAll : Bytes → Bool} {command : Bytes}

theorem runProvisioningCommand_iff (hwrite : writeAll (command ++ [CR]) = true)
    (hne : expect ≠ []) :
    runProvisioningCommand writeAll command expect polls = 0 ↔
      ∃ u v, reads polls = u ++ v ∧ expect <:+: keptLines u.flatten ++ openLine u.flatten := by
  have hempty : makeSubstringMatcher expect [] ≠ .Matched := by
    intro h
    have hnil := (makeSubstringMatcher_eq hne).mp h
    exact hne (List.infix_nil.mp hnil)
  have hloop := @pollLoop_matched_iff _ [] polls (makeSubstringMatcher_ne_stop expect) hempty
  simp only [makeSubstringMatcher_eq hne, List.nil_append] at hloop
  rw [runProvisioningCommand, if_pos hwrite, ← hloop]
  split
  · next hmatched => exact iff_of_true rfl hmatched
  · next hmatched => exact iff_of_false Nat.one_ne_zero hmatched

/-- A command succeeds just when its text is acknowledged, unless a read ends in a line that begins
with the marker where the text is found and is not found without that line. -/
theorem acknowledged_iff (hwrite : writeAll (command ++ [CR]) = true) (hne : expect ≠ []) :
    (runProvisioningCommand writeAll command expect polls = 0 ↔
        expect <:+: withoutStateLines (reads polls).flatten) ↔
      ∀ u v, reads polls = u ++ v → ¬ Mistaken expect u.flatten v.flatten := by
  rw [runProvisioningCommand_iff hwrite hne]
  constructor
  · rintro h u v huv ⟨-, hfound, hnot⟩
    have hin := h.mp ⟨u, v, huv, hfound⟩
    rw [huv, List.flatten_append] at hin
    exact hnot hin
  · intro h
    constructor
    · rintro ⟨u, v, huv, hfound⟩
      by_contra hnot
      rw [huv, List.flatten_append] at hnot
      by_cases hstate : STATE <+: openLine u.flatten ++ v.flatten.takeWhile (!isLineEnd ·)
      · exact h u v huv ⟨hstate, hfound, hnot⟩
      · exact hnot (hfound.trans (prefix_stripStateLines hstate).isInfix)
    · intro hin
      exact ⟨reads polls, [], (List.append_nil _).symm,
        hin.trans (prefix_withoutStateLines _).isInfix⟩

/-- An acknowledgement behind a heartbeat is found. -/
theorem acknowledged_behindHeartbeat :
    runProvisioningCommand (fun _ => true) (ascii "ATREBOOT") (ascii "REBOOT")
        [.read (ascii "[STATE] up=1"), .idle, .read (ascii "\r\nREBOOT\r\n")] = 0 ↔
      ascii "REBOOT" <:+: withoutStateLines
        (reads [.read (ascii "[STATE] up=1"), .idle, .read (ascii "\r\nREBOOT\r\n")]).flatten := by
  refine (@acknowledged_iff _ _ (fun _ => true) _ rfl (by decide)).mpr ?_
  rintro u v huv ⟨-, -, hnot⟩
  rw [← List.flatten_append, ← huv] at hnot
  exact hnot (by decide +kernel)

/-- A heartbeat that is cut behind the expected text counts as its acknowledgement. -/
theorem not_acknowledged :
    ¬ ∀ polls,
      runProvisioningCommand (fun _ => true) (ascii "ATSETWIFI") (ascii "stored") polls = 0 ↔
        ascii "stored" <:+: withoutStateLines (reads polls).flatten := by
  intro h
  have hrun := h [.read (ascii "[STATE] ssid=stored"), .read (ascii " ip=1\r\n")]
  revert hrun
  decide +kernel

end Loop

end VehicleSpy.Cli.ProvisioningRunner
