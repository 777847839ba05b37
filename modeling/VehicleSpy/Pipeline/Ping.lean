import VehicleSpy.Pipeline.TCPTransport
import VehicleSpy.Text.LineBuffer

/-! # The keepalive probe

A ping waits for the line that answers it in the buffer that the frames come through. It takes the
lines in front of the answer out of the buffer for good, and takes for the answer any line that
begins as the answer does, also one that comes after the deadline: the clock is looked at before a
read only.
-/

namespace VehicleSpy.Pipeline

open Text Machine

/-- The nanoseconds from the request to the arrival of the last byte of a read, and to the look at
the clock behind its lines. -/
structure ReadTimes where
  arrived : ℕ
  answered : ℕ
  deriving DecidableEq, Repr

/-- What a pass of the probe's loop gets from the socket. -/
inductive Probed
  | selectFailed
  | notReady
  | recvFailed
  | received (data : Received) (times : ReadTimes)
  deriving DecidableEq, Repr

/-- A pass of the loop: the nanoseconds since the request at its head, and what it gets. -/
structure PingPoll where
  elapsed : ℕ
  probed : Probed
  deriving DecidableEq, Repr

/-- The line taken for the answer with its times, the buffer behind it, and what has been read. -/
structure PingOutcome where
  answer : Option (Bytes × ReadTimes)
  pending : Bytes
  reads : List Received
  deriving DecidableEq, Repr

/-- The line taken for the answer and the lines left in the buffer. -/
def PingOutcome.lines (r : PingOutcome) : List Bytes :=
  (r.answer.map Prod.fst).toList ++ segments isLineEnd r.pending

namespace TCPTransport

def pingFrame (seq : ℤ) : Bytes := ascii "PING " ++ decimal seq ++ [CR]

def pong (seq : ℤ) : Bytes := ascii "PONG " ++ decimal seq

section Probe

variable (want : Bytes)

/-- `line->substr(0, want.size()) == want` -/
def begins (line : Bytes) : Bool := line.take want.length == want

/-- Take lines out of the buffer as far as the first that begins as wanted. -/
def takeAnswer (pending : Bytes) : Option Bytes × Bytes :=
  match _h : TcpReader.takeBufferedLine pending with
  | none => (none, pending)
  | some (line, rest) => if begins want line then (some line, rest) else takeAnswer rest
termination_by pending.length
decreasing_by
  obtain ⟨c, rfl, -, -⟩ := TcpReader.takeBufferedLine_some _h
  rw [List.length_append, List.length_cons]
  omega

/-- The loop of `performPing`; the script ends with the deadline at the latest. -/
def awaitPong (timeoutMs : ℤ) (pending : Bytes) : List PingPoll → PingOutcome
  | [] => ⟨none, pending, []⟩
  | poll :: polls =>
    if timeoutMs * 1000000 ≤ poll.elapsed then ⟨none, pending, []⟩
    else
      match poll.probed with
      | .selectFailed => ⟨none, pending, []⟩
      | .notReady => awaitPong timeoutMs pending polls
      | .recvFailed => ⟨none, pending, []⟩
      | .received data times =>
        match takeAnswer want (TcpReader.readSocketIntoPending pending data) with
        | (some line, rest) => ⟨some (line, times), rest, [data]⟩
        | (none, rest) =>
          let r := awaitPong timeoutMs rest polls
          { r with reads := data :: r.reads }

end Probe

variable (t : TCPTransport) (seq timeoutMs : ℤ) (sendAll : Bytes → Bool) (polls : List PingPoll)

def pingOutcome : PingOutcome :=
  if !t.connected then ⟨none, t.pending, []⟩
  else if !sendAll (pingFrame seq) then ⟨none, t.pending, []⟩
  else awaitPong (pong seq) timeoutMs t.pending polls

/-- The round trip in milliseconds, or `-1`. -/
def performPing : ℤ × TCPTransport :=
  let r := t.pingOutcome seq timeoutMs sendAll polls
  (r.answer.elim (-1) fun answer => (answer.2.answered / 1000000 : ℕ),
    { t with pending := r.pending })

/-- The lines that are complete only with what the probe reads. -/
def arrivedLines : List Bytes :=
  segments isLineEnd (remainder isLineEnd t.pending ++
    TcpReader.received (t.pingOutcome seq timeoutMs sendAll polls).reads)

/-- What the probe promises: only its own answer answers it, which was there before or arrives
before the deadline, and each line that has arrived is the answer or is still to be read. -/
structure AnsweredByOwn : Prop where
  own : 0 ≤ (t.performPing seq timeoutMs sendAll polls).1 →
    ∃ line times, (t.pingOutcome seq timeoutMs sendAll polls).answer = some (line, times) ∧
      Text.trim line = pong seq ∧
      line ∈ segments isLineEnd (t.pending ++
        TcpReader.received (t.pingOutcome seq timeoutMs sendAll polls).reads) ∧
      (line ∈ segments isLineEnd t.pending ∨ times.arrived < timeoutMs * 1000000)
  kept : ∀ script, (t.arrivedLines seq timeoutMs sendAll polls).Sublist
    (((t.pingOutcome seq timeoutMs sendAll polls).answer.map Prod.fst).toList ++
      TcpReader.lines (t.performPing seq timeoutMs sendAll polls).2.pending script)

/-- The reads of a call that no line ends. -/
def readsOf (timeoutMs : ℤ) : List PingPoll → List Received
  | [] => []
  | poll :: polls =>
    if timeoutMs * 1000000 ≤ poll.elapsed then []
    else
      match poll.probed with
      | .selectFailed | .recvFailed => []
      | .notReady => readsOf timeoutMs polls
      | .received data _ => data :: readsOf timeoutMs polls

/-- The lines that a read meets: a buffered one that begins as the answer is the answer; where none
does, the first line that the read completes is, in time, and behind a read that completes none the
probe goes on as `next` says. -/
def MeetsOwn (want pending : Bytes) (data : Received) (inTime next : Prop) : Prop :=
  match (segments isLineEnd pending).find? (begins want) with
  | some line => Text.trim line = want
  | none =>
    match segments isLineEnd (remainder isLineEnd pending ++ data.bytes) with
    | [] => next
    | line :: _ => begins want line = true ∧ Text.trim line = want ∧ inTime

/-- The probe is not disturbed: no line is completed but behind a read that overruns nothing and
meets its own answer first, before the deadline. -/
def Undisturbed (want : Bytes) (timeoutMs : ℤ) (pending : Bytes) : List PingPoll → Prop
  | [] => True
  | poll :: polls =>
    timeoutMs * 1000000 ≤ poll.elapsed ∨
    match poll.probed with
    | .selectFailed | .recvFailed => True
    | .notReady => Undisturbed want timeoutMs pending polls
    | .received data times =>
      if MAX_PENDING_LEN < (pending ++ data.bytes).length then
        ∀ c ∈ TcpReader.received (data :: readsOf timeoutMs polls), isLineEnd c = false
      else
        MeetsOwn want pending data (times.arrived < timeoutMs * 1000000)
          (Undisturbed want timeoutMs (remainder isLineEnd pending ++ data.bytes) polls)

section Lines

variable {want pending : Bytes} {w x : Bytes}

/-- The probe takes the lines in front of the first one that begins as wanted, and that one. -/
theorem takeAnswer_eq (want pending : Bytes) :
    (takeAnswer want pending).1 = (segments isLineEnd pending).find? (begins want) ∧
      segments isLineEnd (takeAnswer want pending).2 =
        ((segments isLineEnd pending).dropWhile (!begins want ·)).tail ∧
      remainder isLineEnd (takeAnswer want pending).2 = remainder isLineEnd pending := by
  fun_induction takeAnswer want pending with
  | case1 pending hb =>
    have hfree := TcpReader.takeBufferedLine_none hb
    rw [segments_open hfree]
    exact ⟨rfl, rfl, rfl⟩
  | case2 pending line rest hb hline =>
    obtain ⟨c, rfl, hc, hfree⟩ := TcpReader.takeBufferedLine_some hb
    rw [segments_closed hfree hc, remainder_closed hfree hc]
    simp [hline]
  | case3 pending line rest hb hline ih =>
    obtain ⟨c, rfl, hc, hfree⟩ := TcpReader.takeBufferedLine_some hb
    rw [segments_closed hfree hc, remainder_closed hfree hc, ih.1, ih.2.1, ih.2.2]
    simp [hline]

theorem free_of_segments_nil (h : segments isLineEnd w = []) : ∀ c ∈ w, isLineEnd c = false := by
  have hcount := length_segments (p := isLineEnd) w
  rw [h, List.length_nil, eq_comm, List.countP_eq_zero] at hcount
  simpa using hcount

theorem find?_of_takeAnswer {answer : Option Bytes} {rest : Bytes}
    (h : takeAnswer want pending = (answer, rest)) :
    (segments isLineEnd pending).find? (begins want) = answer := by
  rw [← (takeAnswer_eq want pending).1, h]

theorem takeAnswer_none (h : (segments isLineEnd pending).find? (begins want) = none) :
    takeAnswer want pending = (none, remainder isLineEnd pending) := by
  obtain ⟨hline, hsegs, hrest⟩ := takeAnswer_eq want pending
  have hall : (segments isLineEnd pending).dropWhile (!begins want ·) = [] := by
    simpa [List.dropWhile_eq_nil_iff] using h
  rw [hall, List.tail_nil] at hsegs
  rw [remainder_open (free_of_segments_nil hsegs)] at hrest
  exact Prod.ext (hline.trans h) hrest

theorem rest_of_none {rest : Bytes} (h : takeAnswer want pending = (none, rest)) :
    rest = remainder isLineEnd pending :=
  congrArg Prod.snd (h.symm.trans (takeAnswer_none (find?_of_takeAnswer h)))

theorem dropWhile_of_find? {ls : List Bytes} {line : Bytes}
    (h : ls.find? (begins want) = some line) :
    ls.dropWhile (!begins want ·) = line :: (ls.dropWhile (!begins want ·)).tail := by
  obtain ⟨hb, u, v, rfl, hu⟩ := List.find?_eq_some_iff_append.mp h
  rw [List.dropWhile_append_of_pos hu, List.dropWhile_cons_of_neg (by simp [hb])]
  rfl

/-- The answer and the lines left behind it. -/
theorem lines_of_takeAnswer {line rest : Bytes} (h : takeAnswer want pending = (some line, rest)) :
    line :: segments isLineEnd rest = (segments isLineEnd pending).dropWhile (!begins want ·) := by
  have hsegs := (takeAnswer_eq want pending).2.1
  rw [h] at hsegs
  rw [dropWhile_of_find? (find?_of_takeAnswer h), ← hsegs]

/-- The bytes of some lines with their ends. -/
def cost (ls : List Bytes) : ℕ := (ls.map (·.length + 1)).sum

theorem cost_segments (w : Bytes) :
    cost (segments isLineEnd w) + (remainder isLineEnd w).length = w.length :=
  sum_segments w

theorem cost_append (ls ms : List Bytes) : cost (ls ++ ms) = cost ls + cost ms := by
  rw [cost, List.map_append, List.sum_append]
  rfl

theorem cost_pos {ls : List Bytes} (h : ls ≠ []) : 0 < cost ls := by
  cases ls with
  | nil => exact absurd rfl h
  | cons l ls =>
    rw [cost, List.map_cons, List.sum_cons]
    omega

theorem cost_le_of_sublist {ls ms : List Bytes} (h : ls.Sublist ms) : cost ls ≤ cost ms := by
  induction h with
  | slnil => exact le_rfl
  | cons l _ ih => exact ih.trans (by rw [cost, cost, List.map_cons, List.sum_cons]; omega)
  | cons_cons l _ ih =>
    simp only [cost, List.map_cons, List.sum_cons] at ih ⊢
    omega

theorem remainder_append_of_mem (h : ∃ c ∈ w, isLineEnd c = true) :
    remainder isLineEnd (x ++ w) = remainder isLineEnd w := by
  obtain ⟨v, c, w', rfl, hc, hv⟩ := first_separator h
  have hline : ∀ d ∈ remainder isLineEnd x ++ v, isLineEnd d = false := fun d hd =>
    (List.mem_append.mp hd).elim (remainder_free x d) (hv d)
  rw [remainder_append, ← List.append_assoc, remainder_closed hline hc, remainder_closed hv hc]

/-- Bytes in front of some lines make these cost more. -/
theorem cost_lt (hx : x ≠ []) (h : ∃ c ∈ x ++ w, isLineEnd c = true) :
    cost (segments isLineEnd w) < cost (segments isLineEnd (x ++ w)) := by
  by_cases hw : ∃ c ∈ w, isLineEnd c = true
  · have hall := cost_segments (x ++ w)
    have hback := cost_segments w
    have hlen := List.length_pos_of_ne_nil hx
    rw [remainder_append_of_mem hw, List.length_append] at hall
    omega
  · rw [segments_open (by simpa using hw)]
    apply cost_pos
    obtain ⟨c, hc, hend⟩ := h
    intro hnil
    rw [free_of_segments_nil hnil c hc] at hend
    cases hend

theorem cost_le (w x : Bytes) :
    cost (segments isLineEnd w) ≤ cost (segments isLineEnd (x ++ w)) := by
  rcases eq_or_ne x [] with rfl | hx
  · exact le_rfl
  by_cases h : ∃ c ∈ x ++ w, isLineEnd c = true
  · exact (cost_lt hx h).le
  · have hw : ∀ c ∈ w, isLineEnd c = false := fun c hc => by
      simpa using fun hend => h ⟨c, List.mem_append_right _ hc, hend⟩
    rw [segments_open hw]
    exact Nat.zero_le _

/-- A read leaves no more than the stream has brought. -/
theorem cost_read_le (pending : Bytes) (data : Received) (w : Bytes) :
    cost (segments isLineEnd
      (remainder isLineEnd (TcpReader.readSocketIntoPending pending data) ++ w)) ≤
    cost (segments isLineEnd (pending ++ data.bytes ++ w)) := by
  rw [TcpReader.readSocketIntoPending]
  split
  · exact cost_le _ _
  · rw [segments_append (pending ++ data.bytes), cost_append]
    exact Nat.le_add_left _ _

end Lines

section Await

variable {want pending : Bytes} {timeoutMs : ℤ} {polls : List PingPoll} {line : Bytes}
  {times : ReadTimes}

theorem reads_prefix (want : Bytes) (timeoutMs : ℤ) (pending : Bytes) (polls : List PingPoll) :
    (awaitPong want timeoutMs pending polls).reads <+: readsOf timeoutMs polls := by
  fun_induction awaitPong want timeoutMs pending polls with
  | case1 | case2 | case3 | case5 => exact List.nil_prefix
  | case4 pending poll polls hlt hpoll ih => rwa [readsOf, if_neg hlt, hpoll]
  | case6 pending poll polls hlt data times hpoll line rest htake =>
    rw [readsOf, if_neg hlt, hpoll]
    exact List.prefix_append [data] _
  | case7 pending poll polls hlt data times hpoll rest htake r ih =>
    rw [readsOf, if_neg hlt, hpoll]
    exact (List.cons_prefix_cons).mpr ⟨rfl, ih⟩

/-- A probe without an answer has read all that there is. -/
theorem reads_of_none (h : (awaitPong want timeoutMs pending polls).answer = none) :
    (awaitPong want timeoutMs pending polls).reads = readsOf timeoutMs polls := by
  fun_induction awaitPong want timeoutMs pending polls with
  | case1 => rfl
  | case2 pending poll polls hle => rw [readsOf, if_pos hle]
  | case3 pending poll polls hlt hpoll | case5 pending poll polls hlt hpoll =>
    rw [readsOf, if_neg hlt, hpoll]
  | case4 pending poll polls hlt hpoll ih => rw [readsOf, if_neg hlt, hpoll, ih h]
  | case6 => cases h
  | case7 pending poll polls hlt data times hpoll rest htake r ih =>
    rw [readsOf, if_neg hlt, hpoll]
    exact congrArg (data :: ·) (ih h)

theorem begins_answer
    (h : (awaitPong want timeoutMs pending polls).answer = some (line, times)) :
    begins want line = true := by
  fun_induction awaitPong want timeoutMs pending polls with
  | case1 | case2 | case3 | case5 => cases h
  | case4 pending poll polls hlt hpoll ih => exact ih h
  | case6 pending poll polls hlt data times hpoll line rest htake =>
    cases h
    exact List.find?_some (find?_of_takeAnswer htake)
  | case7 pending poll polls hlt data times hpoll rest htake r ih => exact ih h

/-- Where no line is buffered, an answer comes with the end of a line. -/
theorem exists_lineEnd (hfree : ∀ c ∈ pending, isLineEnd c = false)
    (h : (awaitPong want timeoutMs pending polls).answer ≠ none) :
    ∃ c ∈ TcpReader.received (awaitPong want timeoutMs pending polls).reads,
      isLineEnd c = true := by
  fun_induction awaitPong want timeoutMs pending polls with
  | case1 | case2 | case3 | case5 => exact absurd rfl h
  | case4 pending poll polls hlt hpoll ih => exact ih hfree h
  | case6 pending poll polls hlt data times hpoll line rest htake =>
    have hmem := List.mem_of_find?_eq_some (find?_of_takeAnswer htake)
    by_contra hnone
    have hopen : ∀ c ∈ TcpReader.readSocketIntoPending pending data, isLineEnd c = false := by
      intro c hc
      rw [TcpReader.readSocketIntoPending] at hc
      split at hc
      · cases hc
      · rcases List.mem_append.mp hc with hc | hc
        · exact hfree c hc
        · simpa using fun hend => hnone ⟨c, by simpa [TcpReader.received] using hc, hend⟩
    rw [segments_open hopen] at hmem
    cases hmem
  | case7 pending poll polls hlt data times hpoll rest htake r ih =>
    obtain rfl := rest_of_none htake
    obtain ⟨c, hc, hend⟩ := ih (remainder_free _) h
    exact ⟨c, List.mem_append_right _ hc, hend⟩

/-- Where no line is buffered, the lines handed on cost no more than those that have arrived. -/
theorem cost_lines_le (hfree : ∀ c ∈ pending, isLineEnd c = false) :
    cost (awaitPong want timeoutMs pending polls).lines ≤ cost (segments isLineEnd (pending ++
      TcpReader.received (awaitPong want timeoutMs pending polls).reads)) := by
  fun_induction awaitPong want timeoutMs pending polls with
  | case1 | case2 | case3 | case5 =>
    simp [PingOutcome.lines, segments_open hfree, cost]
  | case4 pending poll polls hlt hpoll ih => exact ih hfree
  | case6 pending poll polls hlt data times hpoll line rest htake =>
    have hlines : PingOutcome.lines ⟨some (line, times), rest, [data]⟩ =
        (segments isLineEnd (TcpReader.readSocketIntoPending pending data)).dropWhile
          (!begins want ·) := lines_of_takeAnswer htake
    rw [hlines]
    refine (cost_le_of_sublist (List.dropWhile_sublist _)).trans ?_
    rw [TcpReader.readSocketIntoPending]
    split
    · exact Nat.zero_le _
    · simp [TcpReader.received]
  | case7 pending poll polls hlt data times hpoll rest htake r ih =>
    obtain rfl := rest_of_none htake
    have hreads : pending ++ TcpReader.received (data :: r.reads) =
        pending ++ data.bytes ++ TcpReader.received r.reads := by
      simp [TcpReader.received]
    change _ ≤ cost (segments isLineEnd (pending ++ TcpReader.received (data :: r.reads)))
    rw [hreads]
    exact (ih (remainder_free _)).trans (cost_read_le _ _ _)

/-- The answer is what is wanted, in time, and no line that has arrived is lost. -/
structure Faithful (want : Bytes) (timeoutMs : ℤ) (pending : Bytes) (r : PingOutcome) : Prop where
  own : ∀ line times, r.answer = some (line, times) → Text.trim line = want ∧
    (line ∈ segments isLineEnd pending ∨ times.arrived < timeoutMs * 1000000)
  kept : (segments isLineEnd (remainder isLineEnd pending ++ TcpReader.received r.reads)).Sublist
    r.lines

theorem faithful_unread (want : Bytes) (timeoutMs : ℤ) (pending rest : Bytes) :
    Faithful want timeoutMs pending ⟨none, rest, []⟩ := by
  refine ⟨nofun, ?_⟩
  rw [TcpReader.received, List.flatMap_nil, List.append_nil, segments_open (remainder_free _)]
  exact List.nil_sublist _

/-- Nothing arrives: there is no answer and nothing to lose. -/
theorem faithful_quiet (hfree : ∀ c ∈ pending, isLineEnd c = false)
    (hquiet : ∀ c ∈ TcpReader.received (readsOf timeoutMs polls), isLineEnd c = false) :
    (awaitPong want timeoutMs pending polls).answer = none ∧
      (awaitPong want timeoutMs pending polls).reads = readsOf timeoutMs polls := by
  have hnone : (awaitPong want timeoutMs pending polls).answer = none := by
    by_contra hsome
    obtain ⟨c, hc, hend⟩ := exists_lineEnd hfree hsome
    obtain ⟨unread, hunread⟩ := reads_prefix want timeoutMs pending polls
    rw [← hunread, TcpReader.received_append] at hquiet
    rw [hquiet c (List.mem_append_left _ hc)] at hend
    cases hend
  exact ⟨hnone, reads_of_none hnone⟩

/-- An overrun buffer: what arrives is lost, if it completes a line. -/
theorem faithful_overrun (data : Received) :
    Faithful want timeoutMs pending
      { awaitPong want timeoutMs [] polls with
        reads := data :: (awaitPong want timeoutMs [] polls).reads } ↔
      ∀ c ∈ TcpReader.received (data :: readsOf timeoutMs polls), isLineEnd c = false := by
  have hreads (ds : List Received) :
      TcpReader.received (data :: ds) = data.bytes ++ TcpReader.received ds := rfl
  constructor
  · rintro ⟨-, hkept⟩
    rw [hreads, ← List.append_assoc] at hkept
    have hcost := (cost_le_of_sublist hkept).trans
      (@cost_lines_le want [] timeoutMs polls (List.forall_mem_nil _))
    rw [List.nil_append] at hcost
    have hopen : ∀ c ∈ remainder isLineEnd pending ++ data.bytes ++
        TcpReader.received (awaitPong want timeoutMs [] polls).reads, isLineEnd c = false := by
      intro c hc
      by_contra hend
      have hne : remainder isLineEnd pending ++ data.bytes ≠ [] :=
        List.append_ne_nil_of_right_ne_nil _ (List.ne_nil_of_length_pos data.length_pos)
      exact absurd (cost_lt hne ⟨c, hc, by simpa using hend⟩) (Nat.not_lt.mpr hcost)
    have hnone : (awaitPong want timeoutMs [] polls).answer = none := by
      by_contra hsome
      obtain ⟨c, hc, hend⟩ := exists_lineEnd (List.forall_mem_nil _) hsome
      rw [hopen c (List.mem_append_right _ hc)] at hend
      cases hend
    rintro c hc
    rw [hreads, ← reads_of_none hnone] at hc
    exact hopen c (by rw [List.append_assoc]; exact List.mem_append_right _ hc)
  · intro hquiet
    rw [hreads] at hquiet
    obtain ⟨hnone, hall⟩ := @faithful_quiet want [] timeoutMs polls (List.forall_mem_nil _)
      fun c hc => hquiet c (List.mem_append_right _ hc)
    refine ⟨fun line times h => absurd (hnone.symm.trans h) nofun, ?_⟩
    have hopen : ∀ c ∈ remainder isLineEnd pending ++
        TcpReader.received (data :: (awaitPong want timeoutMs [] polls).reads),
        isLineEnd c = false := by
      rw [hall, hreads]
      exact fun c hc => (List.mem_append.mp hc).elim (remainder_free _ c) (hquiet c)
    rw [segments_open hopen]
    exact List.nil_sublist _

theorem segments_read (pending : Bytes) (data : Received) :
    segments isLineEnd (pending ++ data.bytes) = segments isLineEnd pending ++
      segments isLineEnd (remainder isLineEnd pending ++ data.bytes) :=
  segments_append _ _

/-- The probe is answered by the read. -/
theorem faithful_answered {data : Received} {rest : Bytes} {next : Prop}
    (htake : takeAnswer want (pending ++ data.bytes) = (some line, rest)) :
    Faithful want timeoutMs pending ⟨some (line, times), rest, [data]⟩ ↔
      MeetsOwn want pending data (times.arrived < timeoutMs * 1000000) next := by
  have hfound := (find?_of_takeAnswer htake).symm
  have hlines : PingOutcome.lines ⟨some (line, times), rest, [data]⟩ =
      (segments isLineEnd (pending ++ data.bytes)).dropWhile (!begins want ·) :=
    lines_of_takeAnswer htake
  have hfaithful : Faithful want timeoutMs pending ⟨some (line, times), rest, [data]⟩ ↔
      (Text.trim line = want ∧
        (line ∈ segments isLineEnd pending ∨ times.arrived < timeoutMs * 1000000)) ∧
        (segments isLineEnd (remainder isLineEnd pending ++ data.bytes)).Sublist
          ((segments isLineEnd (pending ++ data.bytes)).dropWhile (!begins want ·)) := by
    rw [← hlines, show data.bytes = TcpReader.received [data] by simp [TcpReader.received]]
    refine ⟨fun h => ⟨h.own line times rfl, h.kept⟩, fun h => ⟨?_, h.2⟩⟩
    rintro l ns ⟨⟩
    exact h.1
  rw [hfaithful, MeetsOwn]
  rw [segments_read pending data] at hfound ⊢
  cases hbuf : (segments isLineEnd pending).find? (begins want) with
  | some l =>
    rw [List.find?_append, hbuf, Option.some_or] at hfound
    obtain rfl := Option.some.inj hfound
    have hmem : line ∈ segments isLineEnd pending := List.mem_of_find?_eq_some hbuf
    have hsub : (segments isLineEnd (remainder isLineEnd pending ++ data.bytes)).Sublist
        ((segments isLineEnd pending ++ segments isLineEnd (remainder isLineEnd pending ++
          data.bytes)).dropWhile (!begins want ·)) := by
      rw [List.dropWhile_append, dropWhile_of_find? hbuf]
      exact List.sublist_append_right _ _
    simp only [hmem, hsub, true_or, and_true]
  | none =>
    have hskip : ∀ l ∈ segments isLineEnd pending, (!begins want l) = true := by
      simpa using hbuf
    rw [List.find?_append, hbuf, Option.none_or] at hfound
    rw [List.dropWhile_append_of_pos hskip]
    cases hnew : segments isLineEnd (remainder isLineEnd pending ++ data.bytes) with
    | nil =>
      rw [hnew] at hfound
      cases hfound
    | cons l v =>
      cases hl : begins want l with
      | true =>
        rw [hnew, List.find?_cons_of_pos hl] at hfound
        obtain rfl := Option.some.inj hfound
        rw [List.dropWhile_cons_of_neg (by simp [hl])]
        have hnew' : line ∉ segments isLineEnd pending := fun hmem => by
          simpa [hl] using hskip line hmem
        simp only [hl, hnew', false_or, List.Sublist.refl, and_true, true_and]
      | false =>
        refine iff_of_false ?_ fun h => Bool.false_ne_true (hl.symm.trans h.1)
        rintro ⟨-, hkept⟩
        rw [List.dropWhile_cons_of_pos (by simp [hl])] at hkept
        have hle := hkept.length_le.trans (List.dropWhile_sublist _).length_le
        rw [List.length_cons] at hle
        omega

/-- The read brings no answer. -/
theorem faithful_unanswered {data : Received} {inTime next : Prop}
    (htake : (segments isLineEnd (pending ++ data.bytes)).find? (begins want) = none)
    (ih : segments isLineEnd (remainder isLineEnd pending ++ data.bytes) = [] →
      (Faithful want timeoutMs (remainder isLineEnd (pending ++ data.bytes))
        (awaitPong want timeoutMs (remainder isLineEnd (pending ++ data.bytes)) polls) ↔ next)) :
    Faithful want timeoutMs pending
      { awaitPong want timeoutMs (remainder isLineEnd (pending ++ data.bytes)) polls with
        reads := data :: (awaitPong want timeoutMs (remainder isLineEnd (pending ++ data.bytes))
          polls).reads } ↔ MeetsOwn want pending data inTime next := by
  rw [segments_read pending data, List.find?_append, Option.or_eq_none_iff] at htake
  have hrest := remainder_append (p := isLineEnd) pending data.bytes
  have harrived (w : Bytes) : segments isLineEnd (remainder isLineEnd pending ++
      (data.bytes ++ w)) = segments isLineEnd (remainder isLineEnd pending ++ data.bytes) ++
        segments isLineEnd (remainder isLineEnd (pending ++ data.bytes) ++ w) := by
    rw [← List.append_assoc, segments_append, hrest]
  rw [MeetsOwn, htake.1]
  cases hnew : segments isLineEnd (remainder isLineEnd pending ++ data.bytes) with
  | nil =>
    dsimp only
    rw [← ih hnew]
    have hkeep : remainder isLineEnd (remainder isLineEnd (pending ++ data.bytes)) =
        remainder isLineEnd (pending ++ data.bytes) := remainder_open (remainder_free _)
    -- a later answer is none of the buffered lines
    have hlater : ∀ line times, (awaitPong want timeoutMs
        (remainder isLineEnd (pending ++ data.bytes)) polls).answer = some (line, times) →
        (line ∈ segments isLineEnd pending ↔
          line ∈ segments isLineEnd (remainder isLineEnd (pending ++ data.bytes))) := by
      intro line times h
      rw [segments_open (remainder_free _)]
      refine iff_of_false (fun hmem => ?_) List.not_mem_nil
      exact List.find?_eq_none.mp htake.1 line hmem (begins_answer h)
    constructor
    · rintro ⟨hown, hkept⟩
      refine ⟨fun line times h => ?_, ?_⟩
      · rw [← hlater line times h]
        exact hown line times h
      rw [TcpReader.received, List.flatMap_cons, harrived, hnew] at hkept
      rw [hkeep]
      exact hkept
    · rintro ⟨hown, hkept⟩
      refine ⟨fun line times h => ?_, ?_⟩
      · rw [hlater line times h]
        exact hown line times h
      rw [TcpReader.received, List.flatMap_cons, harrived, hnew]
      rw [hkeep] at hkept
      exact hkept
  | cons l v =>
    rw [hnew] at htake
    refine iff_of_false ?_ fun h => List.find?_eq_none.mp htake.2 l List.mem_cons_self h.1
    rintro ⟨-, hkept⟩
    rw [TcpReader.received, List.flatMap_cons, harrived, hnew] at hkept
    have hcost := (cost_le_of_sublist hkept).trans (cost_lines_le (remainder_free _))
    rw [cost_append] at hcost
    have hpos := cost_pos (List.cons_ne_nil l v)
    change cost (l :: v) + cost (segments isLineEnd (_ ++ TcpReader.received _)) ≤ _ at hcost
    omega

theorem faithful_iff :
    Faithful want timeoutMs pending (awaitPong want timeoutMs pending polls) ↔
      Undisturbed want timeoutMs pending polls := by
  fun_induction awaitPong want timeoutMs pending polls with
  | case1 pending => exact iff_of_true (faithful_unread _ _ _ _) trivial
  | case2 pending poll polls hle => exact iff_of_true (faithful_unread _ _ _ _) (Or.inl hle)
  | case3 pending poll polls hlt hpoll | case5 pending poll polls hlt hpoll =>
    rw [Undisturbed, hpoll]
    exact iff_of_true (faithful_unread _ _ _ _) (Or.inr trivial)
  | case4 pending poll polls hlt hpoll ih =>
    rw [Undisturbed, hpoll, ih]
    exact (or_iff_right hlt).symm
  | case6 pending poll polls hlt data times hpoll line rest htake =>
    rw [Undisturbed, or_iff_right hlt, hpoll]
    by_cases hcap : MAX_PENDING_LEN < (pending ++ data.bytes).length
    · rw [TcpReader.readSocketIntoPending, if_pos hcap] at htake
      rw [takeAnswer_none (by rfl)] at htake
      cases htake
    · rw [TcpReader.readSocketIntoPending, if_neg hcap] at htake
      dsimp only
      rw [if_neg hcap]
      exact faithful_answered htake
  | case7 pending poll polls hlt data times hpoll rest htake r ih =>
    obtain rfl := rest_of_none htake
    rw [Undisturbed, or_iff_right hlt, hpoll]
    have hnone := find?_of_takeAnswer htake
    dsimp only
    split
    · next hcap =>
      have hread : TcpReader.readSocketIntoPending pending data = [] := if_pos hcap
      have hr : r = awaitPong want timeoutMs [] polls := by
        simp only [r, hread]
        rfl
      rw [← @faithful_overrun want pending, hr]
    · next hcap =>
      simp only [TcpReader.readSocketIntoPending, if_neg hcap] at hnone ih
      have hr :
          r = awaitPong want timeoutMs (remainder isLineEnd (pending ++ data.bytes)) polls := by
        simp only [r, TcpReader.readSocketIntoPending, if_neg hcap]
      rw [hr]
      apply faithful_unanswered hnone
      intro hnew
      rw [ih, remainder_append, remainder_open (free_of_segments_nil hnew)]

/-- The answer of a probe that is not disturbed is a line of the stream. -/
theorem answer_mem (h : Undisturbed want timeoutMs pending polls)
    (ha : (awaitPong want timeoutMs pending polls).answer = some (line, times)) :
    line ∈ segments isLineEnd
      (pending ++ TcpReader.received (awaitPong want timeoutMs pending polls).reads) := by
  fun_induction awaitPong want timeoutMs pending polls with
  | case1 | case2 | case3 | case5 => cases ha
  | case4 pending poll polls hlt hpoll ih =>
    rw [Undisturbed, or_iff_right hlt, hpoll] at h
    exact ih h ha
  | case6 pending poll polls hlt data times hpoll line rest htake =>
    cases ha
    have hmem := List.mem_of_find?_eq_some (find?_of_takeAnswer htake)
    rw [TcpReader.readSocketIntoPending] at hmem
    split at hmem
    · cases hmem
    · simpa [TcpReader.received] using hmem
  | case7 pending poll polls hlt data times hpoll rest htake r ih =>
    obtain rfl := rest_of_none htake
    have hnone := find?_of_takeAnswer htake
    rw [Undisturbed, or_iff_right hlt, hpoll] at h
    have hreads : pending ++ TcpReader.received (data :: r.reads) =
        pending ++ data.bytes ++ TcpReader.received r.reads := by
      simp [TcpReader.received]
    change line ∈ segments isLineEnd (pending ++ TcpReader.received (data :: r.reads))
    rw [hreads]
    dsimp only at h
    split at h
    · next hcap =>
      have hread : TcpReader.readSocketIntoPending pending data = [] := if_pos hcap
      simp only [r, hread] at ha
      have hquiet := (@faithful_quiet want [] timeoutMs polls (List.forall_mem_nil _)
        fun c hc => h c (List.mem_append_right _ hc)).1
      have hnever : none = some (line, _) := hquiet.symm.trans ha
      cases hnever
    · next hcap =>
      have hread : TcpReader.readSocketIntoPending pending data = pending ++ data.bytes :=
        if_neg hcap
      simp only [hread] at hnone ih
      simp only [r, hread] at ha ⊢
      rw [segments_append (pending ++ data.bytes)]
      refine List.mem_append_right _ (ih ?_ ha)
      rw [segments_read pending data, List.find?_append, Option.or_eq_none_iff] at hnone
      rw [MeetsOwn, hnone.1] at h
      cases hnew : segments isLineEnd (remainder isLineEnd pending ++ data.bytes) with
      | nil =>
        rw [hnew] at h
        rwa [remainder_append, remainder_open (free_of_segments_nil hnew)]
      | cons l v =>
        rw [hnew] at h hnone
        exact absurd h.1 (List.find?_eq_none.mp hnone.2 l List.mem_cons_self)

end Await

variable {t seq timeoutMs sendAll polls}

theorem zero_le_performPing (h : 0 ≤ (t.performPing seq timeoutMs sendAll polls).1) :
    ∃ line times, (t.pingOutcome seq timeoutMs sendAll polls).answer = some (line, times) := by
  rcases ha : (t.pingOutcome seq timeoutMs sendAll polls).answer with _ | ⟨line, times⟩
  · rw [performPing, ha] at h
    have hneg : (0 : ℤ) ≤ -1 := h
    exact absurd hneg (by decide)
  · exact ⟨line, times, rfl⟩

theorem performPing_of_answer {line : Bytes} {times : ReadTimes}
    (h : (t.pingOutcome seq timeoutMs sendAll polls).answer = some (line, times)) :
    0 ≤ (t.performPing seq timeoutMs sendAll polls).1 := by
  rw [performPing, h]
  exact Int.natCast_nonneg _

/-- The lines that later reads hand on begin with those in the buffer. -/
theorem sublist_lines_iff {ls ms : List Bytes} {pending : Bytes} :
    (∀ script, ls.Sublist (ms ++ TcpReader.lines pending script)) ↔
      ls.Sublist (ms ++ segments isLineEnd pending) := by
  constructor
  · intro h
    have hbuf := h []
    rwa [TcpReader.lines_buffered, TcpReader.lines_waiting (remainder_free _),
      List.append_nil] at hbuf
  · intro h script
    rw [TcpReader.lines_buffered, ← List.append_assoc]
    exact h.trans (List.sublist_append_left _ _)

theorem AnsweredByOwn.faithful (h : AnsweredByOwn t seq timeoutMs sendAll polls) :
    Faithful (pong seq) timeoutMs t.pending (t.pingOutcome seq timeoutMs sendAll polls) := by
  refine ⟨fun line times ha => ?_, sublist_lines_iff.mp h.kept⟩
  obtain ⟨line', times', ha', htrim, -, hintime⟩ := h.own (performPing_of_answer ha)
  cases ha.symm.trans ha'
  exact ⟨htrim, hintime⟩

theorem Faithful.answeredByOwn
    (h : Faithful (pong seq) timeoutMs t.pending (t.pingOutcome seq timeoutMs sendAll polls))
    (hmem : ∀ line times, (t.pingOutcome seq timeoutMs sendAll polls).answer = some (line, times) →
      line ∈ segments isLineEnd (t.pending ++
        TcpReader.received (t.pingOutcome seq timeoutMs sendAll polls).reads)) :
    AnsweredByOwn t seq timeoutMs sendAll polls := by
  refine ⟨fun hpos => ?_, sublist_lines_iff.mpr h.kept⟩
  obtain ⟨line, times, ha⟩ := zero_le_performPing hpos
  obtain ⟨htrim, hintime⟩ := h.own line times ha
  exact ⟨line, times, ha, htrim, hmem line times ha, hintime⟩

/-- A late answer to another ping, whose number begins with that of this one. -/
def latePong : Received where
  bytes := ascii "PONG 12" ++ [CR]
  length_pos := by decide
  length_le := by decide

/-- The answer itself. -/
def ownPong : Received where
  bytes := ascii "PONG 1" ++ [CR]
  length_pos := by decide
  length_le := by decide

end TCPTransport

end VehicleSpy.Pipeline
