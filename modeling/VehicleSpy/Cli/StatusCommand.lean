import VehicleSpy.Cli.ProvisioningRunner
import VehicleSpy.Text.Numbers
import VehicleSpy.Text.Segments

/-! # The status command

The command waits for the first heartbeat line in what the console sends, and prints it. Where the
stream is cut into reads makes no difference, and neither does what follows the line.
-/

namespace VehicleSpy.Cli.ProvisioningRunner

open Text

def PROVISION_STATUS_TIMEOUT_S : ℤ := 8

def makeStateLineMatcher (reply : Bytes) : PollStep :=
  match findStr STATE reply with
  | none => .KeepPolling
  | some markerPos => if (reply.drop markerPos).any isLineEnd then .Matched else .KeepPolling

/-- The rounds before the deadline, with the reply and the reason that they end with. -/
def statusLoop : Bytes → List Poll → PollStep × Bytes × StopReason
  | reply, [] => (.KeepPolling, reply, .None)
  | reply, poll :: polls =>
    let r := pollOnce makeStateLineMatcher reply poll
    if r.1 = .KeepPolling then statusLoop r.2.1 polls else r

/-- The exit code, and what is written to the two streams. -/
structure StatusResult where
  code : ℕ
  out : Bytes := []
  err : Bytes := []
  deriving DecidableEq, Repr

/-- The diagnosis of a status without a heartbeat. -/
def timeoutText (timeoutS : ℤ) (peerClosed : Bool) (received : ℕ) : Bytes :=
  ascii "[provision] TIMEOUT: no [STATE] line received within " ++ decimal timeoutS ++
    (if peerClosed then ascii "s (peer closed; " else ascii "s (") ++ decimal received ++
    ascii " bytes received)" ++ [LF]

def runStatus (timeoutS : ℤ) (polls : List Poll) : StatusResult :=
  let (outcome, reply, stopReason) := statusLoop [] polls
  if outcome = .Matched then
    -- the matcher has found the marker
    let markerPos := (findStr STATE reply).getD 0
    { code := 0, out := (reply.drop markerPos).takeWhile (!isLineEnd ·) ++ [LF] }
  else { code := 1, err := timeoutText timeoutS (stopReason = .PeerClosed) reply.length }

/-- The text from the first marker to the line end behind it. -/
def stateLine (stream : Bytes) : Option Bytes := do
  let markerPos ← findStr STATE stream
  if (stream.drop markerPos).any isLineEnd then
    some ((stream.drop markerPos).takeWhile (!isLineEnd ·))
  else none

/-- The read that ends the polling finds the peer closed. -/
def peerCloses : List Poll → Bool
  | .idle :: polls => peerCloses polls
  | .read bytes :: polls => if bytes = [] then true else peerCloses polls
  | _ => false

section Stream

variable {u v line : Bytes}

theorem makeStateLineMatcher_eq (reply : Bytes) :
    makeStateLineMatcher reply = if (stateLine reply).isSome then .Matched else .KeepPolling := by
  rw [makeStateLineMatcher, stateLine]
  cases findStr STATE reply with
  | none => rfl
  | some markerPos =>
    simp only [Option.bind_eq_bind, Option.bind_some]
    split <;> rfl

theorem takeWhile_line {l r : Bytes} {e : Byte} (hl : ∀ c ∈ l, isLineEnd c = false)
    (he : isLineEnd e = true) : (l ++ e :: r).takeWhile (!isLineEnd ·) = l := by
  have hkeep : ∀ c ∈ l, (!isLineEnd c) = true := fun c hc => by rw [hl c hc]; rfl
  rw [List.takeWhile_append_of_pos hkeep, List.takeWhile_cons_of_neg (by simp [he]),
    List.append_nil]

/-- The line stands at the first marker and ends at the first line end behind it. -/
theorem stateLine_iff {stream : Bytes} : stateLine stream = some line ↔
    ∃ g e v, stream = g ++ (line ++ e :: v) ∧ findStr STATE stream = some g.length ∧
      isLineEnd e = true ∧ ∀ c ∈ line, isLineEnd c = false := by
  constructor
  · intro h
    obtain ⟨pos, hpos, h⟩ := Option.bind_eq_some_iff.mp h
    split at h
    · next hany =>
      obtain ⟨l, e, v, hdrop, he, hl⟩ := first_separator (List.any_eq_true.mp hany)
      rw [hdrop, takeWhile_line hl he] at h
      obtain rfl := Option.some.inj h
      have hlt : pos < stream.length := by
        have hlen := congrArg List.length hdrop
        rw [List.length_drop, List.length_append, List.length_cons] at hlen
        omega
      refine ⟨stream.take pos, e, v, ?_, ?_, he, hl⟩
      · rw [← hdrop, List.take_append_drop]
      · rw [hpos, List.length_take, min_eq_left hlt.le]
    · cases h
  · rintro ⟨g, e, v, rfl, hpos, he, hl⟩
    have hdrop : (g ++ (line ++ e :: v)).drop g.length = line ++ e :: v := List.drop_left
    have hany : (line ++ e :: v).any isLineEnd = true := by simp [he]
    rw [stateLine, hpos]
    simp only [Option.bind_eq_bind, Option.bind_some, hdrop, hany, if_true,
      takeWhile_line hl he]

/-- The line stays the same whatever follows it. -/
theorem stateLine_append (h : stateLine u = some line) (v : Bytes) :
    stateLine (u ++ v) = some line := by
  obtain ⟨g, e, w, hu, hpos, he, hl⟩ := stateLine_iff.mp h
  exact stateLine_iff.mpr ⟨g, e, w ++ v, by rw [hu]; simp, findStr_append_right hpos v, he, hl⟩

end Stream

section Loop

variable {reply line : Bytes} {polls : List Poll}

/-- The rounds end when the line is there; without it they collect all that is read. -/
theorem statusLoop_eq (hreply : stateLine reply = none) :
    (∀ line, stateLine (reply ++ (reads polls).flatten) = some line →
      ∃ reply', statusLoop reply polls = (.Matched, reply', .None) ∧
        stateLine reply' = some line) ∧
    (stateLine (reply ++ (reads polls).flatten) = none →
      ∃ outcome reason, outcome ≠ .Matched ∧
        statusLoop reply polls = (outcome, reply ++ (reads polls).flatten, reason) ∧
        (reason = .PeerClosed ↔ peerCloses polls = true)) := by
  induction polls generalizing reply with
  | nil =>
    simp only [reads, List.flatten_nil, List.append_nil]
    refine ⟨fun line h => ?_, fun _ => ⟨.KeepPolling, .None, by decide, rfl, by simp [peerCloses]⟩⟩
    rw [hreply] at h
    cases h
  | cons poll polls ih =>
    have hkeep : makeStateLineMatcher reply = .KeepPolling := by
      rw [makeStateLineMatcher_eq, hreply]
      rfl
    cases poll with
    | selectError =>
      simp only [reads, List.flatten_nil, List.append_nil]
      refine ⟨fun line h => ?_, fun _ => ⟨.Stop, .SelectError, by decide, rfl,
        by simp [peerCloses]⟩⟩
      rw [hreply] at h
      cases h
    | readError =>
      simp only [reads, List.flatten_nil, List.append_nil]
      refine ⟨fun line h => ?_, fun _ => ⟨.Stop, .ReadError, by decide, rfl,
        by simp [peerCloses]⟩⟩
      rw [hreply] at h
      cases h
    | idle =>
      have hloop : statusLoop reply (.idle :: polls) = statusLoop reply polls := by
        simp [statusLoop, pollOnce, hkeep]
      rw [hloop]
      exact ih hreply
    | read bytes =>
      by_cases hb : bytes = []
      · have hreads : reads (.read bytes :: polls) = [] := by simp [reads, hb]
        have hloop : statusLoop reply (.read bytes :: polls) = (.Stop, reply, .PeerClosed) := by
          simp [statusLoop, pollOnce, hb]
        rw [hreads, hloop, List.flatten_nil, List.append_nil]
        refine ⟨fun line h => ?_, fun _ => ⟨.Stop, .PeerClosed, by decide, rfl,
          by simp [peerCloses, hb]⟩⟩
        rw [hreply] at h
        cases h
      · have hreads : reads (.read bytes :: polls) = bytes :: reads polls := by simp [reads, hb]
        have hcloses : peerCloses (.read bytes :: polls) = peerCloses polls := by
          simp [peerCloses, hb]
        rw [hreads, hcloses, List.flatten_cons, ← List.append_assoc]
        cases hline : stateLine (reply ++ bytes) with
        | none =>
          have hloop : statusLoop reply (.read bytes :: polls) =
              statusLoop (reply ++ bytes) polls := by
            simp [statusLoop, pollOnce, hb, makeStateLineMatcher_eq, hline]
          rw [hloop]
          exact ih hline
        | some found =>
          have hloop : statusLoop reply (.read bytes :: polls) =
              (.Matched, reply ++ bytes, .None) := by
            simp [statusLoop, pollOnce, hb, makeStateLineMatcher_eq, hline]
          have hmore := stateLine_append hline (reads polls).flatten
          rw [hloop, hmore]
          refine ⟨fun line h => ⟨_, rfl, ?_⟩, fun h => by cases h⟩
          rw [hline, ← Option.some.inj h]

theorem runStatus_some (timeoutS : ℤ) (h : stateLine (reads polls).flatten = some line) :
    runStatus timeoutS polls = { code := 0, out := line ++ [LF] } := by
  obtain ⟨reply, hloop, hreply⟩ := (statusLoop_eq (by decide : stateLine [] = none)).1 line h
  obtain ⟨g, e, v, rfl, hpos, he, hl⟩ := stateLine_iff.mp hreply
  simp only [runStatus, hloop, hpos, Option.getD_some, if_true, List.drop_left,
    takeWhile_line hl he]

theorem runStatus_none (timeoutS : ℤ) (h : stateLine (reads polls).flatten = none) :
    runStatus timeoutS polls =
      { code := 1
        err := timeoutText timeoutS (peerCloses polls) (reads polls).flatten.length } := by
  obtain ⟨outcome, reason, hne, hloop, hreason⟩ :=
    (statusLoop_eq (by decide : stateLine [] = none)).2 h
  have hclosed : decide (reason = .PeerClosed) = peerCloses polls := by
    rw [Bool.eq_iff_iff, decide_eq_true_iff, hreason]
  simp only [runStatus, hloop, if_neg hne, hclosed, List.nil_append]

/-- The outcome depends on what has been read only, not on where it was cut: the first heartbeat
line, or a diagnosis with the number of bytes. -/
theorem runStatus_eq (timeoutS : ℤ) (polls : List Poll) :
    runStatus timeoutS polls = (stateLine (reads polls).flatten).elim
      { code := 1
        err := timeoutText timeoutS (peerCloses polls) (reads polls).flatten.length }
      fun line => { code := 0, out := line ++ [LF] } := by
  cases hline : stateLine (reads polls).flatten with
  | none => exact runStatus_none timeoutS hline
  | some line => exact runStatus_some timeoutS hline

end Loop

end VehicleSpy.Cli.ProvisioningRunner
