import VehicleSpy.Text.Bytes
import VehicleSpy.Text.Segments

/-! # The line reader on a TCP socket

`nextLine` serves buffered lines first and then polls the socket. The outcomes of its
polls and reads are the socket's script; a script that runs out leaves the reader
waiting. Reading line after line is the same as cutting each read into lines.
-/

namespace VehicleSpy.Pipeline

open Text Machine

def MAX_PENDING_LEN : ℕ := 4096

/-- What one `recv` may deliver into the 256-byte buffer. -/
structure Received where
  bytes : Bytes
  length_pos : 0 < bytes.length
  length_le : bytes.length ≤ 256
  deriving DecidableEq, Repr

/-- The outcome of one poll of the socket, and of the read that follows a readable one. -/
inductive SocketEvent
  | selectFailed (eintr : Bool)
  | timeout (stop : Bool)
  | recvFailed (reconnected : Bool)
  | recv (data : Received)
  deriving DecidableEq, Repr

inductive ReadOutcome
  | line (text : Bytes)
  | failed
  | waiting
  deriving DecidableEq, Repr

namespace TcpReader

/-- The first buffered line, and the buffer after it. -/
def takeBufferedLine (pending : Bytes) : Option (Bytes × Bytes) :=
  match pending.dropWhile (!isLineEnd ·) with
  | [] => none
  | _ :: rest => some (pending.takeWhile (!isLineEnd ·), rest)

/-- A buffer that grows past its cap is dropped. -/
def readSocketIntoPending (pending : Bytes) (data : Received) : Bytes :=
  let pending := pending ++ data.bytes
  if MAX_PENDING_LEN < pending.length then [] else pending

/-- The polling loop of `nextLine`. -/
def poll (pending : Bytes) : List SocketEvent → ReadOutcome × Bytes × List SocketEvent
  | [] => (.waiting, pending, [])
  | .selectFailed true :: script => poll pending script
  | .selectFailed false :: script => (.failed, pending, script)
  | .timeout false :: script => poll pending script
  | .timeout true :: script => (.failed, pending, script)
  | .recvFailed true :: script => poll pending script
  | .recvFailed false :: script => (.failed, pending, script)
  | .recv data :: script =>
    let pending := readSocketIntoPending pending data
    match takeBufferedLine pending with
    | some (line, rest) => (.line line, rest, script)
    | none => poll pending script

def nextLine (pending : Bytes) (script : List SocketEvent) :
    ReadOutcome × Bytes × List SocketEvent :=
  match takeBufferedLine pending with
  | some (line, rest) => (.line line, rest, script)
  | none => poll pending script

section Buffer

variable {pending : Bytes}

theorem takeBufferedLine_none (h : takeBufferedLine pending = none) :
    ∀ c ∈ pending, isLineEnd c = false := by
  unfold takeBufferedLine at h
  split at h
  · next hd => simpa using List.dropWhile_eq_nil_iff.mp hd
  · exact absurd h (by simp)

theorem takeBufferedLine_some {line rest : Bytes}
    (h : takeBufferedLine pending = some (line, rest)) :
    ∃ c, pending = line ++ c :: rest ∧ isLineEnd c = true ∧ ∀ d ∈ line, isLineEnd d = false := by
  unfold takeBufferedLine at h
  split at h
  · exact absurd h (by simp)
  · next c r hd =>
    obtain ⟨rfl, rfl⟩ := Prod.mk.inj (Option.some.inj h)
    have hc := List.head_dropWhile_not (fun c => !isLineEnd c) (l := pending) (by simp [hd])
    refine ⟨c, ?_, by simpa [hd] using hc, fun d hd => ?_⟩
    · rw [← hd, List.takeWhile_append_dropWhile]
    · simpa using List.mem_takeWhile_imp hd

theorem takeBufferedLine_append {line r : Bytes} {c : Byte}
    (hline : ∀ d ∈ line, isLineEnd d = false) (hc : isLineEnd c = true) :
    takeBufferedLine (line ++ c :: r) = some (line, r) := by
  have hkeep : ∀ d ∈ line, (!isLineEnd d) = true := fun d hd => by rw [hline d hd]; rfl
  rw [takeBufferedLine, List.dropWhile_append_of_pos hkeep, List.takeWhile_append_of_pos hkeep]
  simp [hc]

theorem length_readSocketIntoPending_le (pending : Bytes) (data : Received) :
    (readSocketIntoPending pending data).length ≤ pending.length + data.bytes.length := by
  simp only [readSocketIntoPending]
  split
  · simp
  · rw [List.length_append]

end Buffer

/-- The bytes of a sequence of reads. -/
def received (reads : List Received) : Bytes := reads.flatMap (·.bytes)

/-- The bytes the socket has still to deliver. -/
def incoming : List SocketEvent → ℕ
  | [] => 0
  | .recv data :: script => data.bytes.length + incoming script
  | _ :: script => incoming script

/-- A bound on the lines that may still be read: the bytes buffered and the bytes to come. -/
def weight (pending : Bytes) (script : List SocketEvent) : ℕ :=
  pending.length + incoming script

theorem weight_poll {pending : Bytes} {script : List SocketEvent} {line rest : Bytes}
    {script' : List SocketEvent} (h : poll pending script = (.line line, rest, script')) :
    weight rest script' < weight pending script := by
  fun_induction poll pending script with
  | case1 | case3 | case5 | case7 => exact absurd (congrArg Prod.fst h) (by simp)
  | case2 pending script ih | case4 pending script ih | case6 pending script ih =>
    simpa [weight, incoming] using ih h
  | case8 pending data script p l r hb =>
    obtain ⟨c, hp, -, -⟩ := takeBufferedLine_some hb
    obtain ⟨-, rfl, rfl⟩ : _ ∧ r = rest ∧ script = script' := by simpa using h
    have hl := length_readSocketIntoPending_le pending data
    rw [show readSocketIntoPending pending data = l ++ c :: r from hp, List.length_append,
      List.length_cons] at hl
    simp only [weight, incoming]
    omega
  | case9 pending data script p hb ih =>
    have hl : p.length ≤ _ := length_readSocketIntoPending_le pending data
    have hw := ih h
    simp only [weight, incoming] at hw ⊢
    omega

theorem weight_nextLine {pending : Bytes} {script : List SocketEvent} {line rest : Bytes}
    {script' : List SocketEvent} (h : nextLine pending script = (.line line, rest, script')) :
    weight rest script' < weight pending script := by
  unfold nextLine at h
  split at h
  · next hb =>
    obtain ⟨c, rfl, -, -⟩ := takeBufferedLine_some hb
    obtain ⟨-, rfl, rfl⟩ : _ ∧ _ ∧ _ := by simpa using h
    simp only [weight, List.length_append, List.length_cons]
    omega
  · exact weight_poll h

/-- All lines that repeated calls of `nextLine` return until one of them returns none. -/
def lines (pending : Bytes) (script : List SocketEvent) : List Bytes :=
  match _h : nextLine pending script with
  | (.line line, rest, script') => line :: lines rest script'
  | _ => []
termination_by weight pending script
decreasing_by exact weight_nextLine _h

/-- One read, cut into the lines it completes. -/
def feed (pending : Bytes) (data : Received) : Bytes × List Bytes :=
  let pending := readSocketIntoPending pending data
  (remainder isLineEnd pending, segments isLineEnd pending)

section Lines

variable {pending : Bytes} {script : List SocketEvent}

theorem lines_of_line {line rest : Bytes} {script' : List SocketEvent}
    (h : nextLine pending script = (.line line, rest, script')) :
    lines pending script = line :: lines rest script' := by
  rw [lines]
  split
  · next h' =>
    rw [h] at h'
    obtain ⟨rfl, rfl, rfl⟩ : _ ∧ _ ∧ _ := by simpa using h'
    rfl
  · next h' => exact absurd h (h' _ _ _)

theorem lines_of_stop (h : ∀ line, (nextLine pending script).1 ≠ .line line) :
    lines pending script = [] := by
  rw [lines]
  split
  · next h' => exact absurd (congrArg Prod.fst h') (h _)
  · rfl

theorem lines_congr {pending' : Bytes} {script' : List SocketEvent}
    (h : nextLine pending script = nextLine pending' script') :
    lines pending script = lines pending' script' := by
  rcases h' : nextLine pending' script' with ⟨_ | _ | _, rest, script''⟩
  · rw [lines_of_line h', lines_of_line (h.trans h')]
  all_goals
    rw [lines_of_stop (by rw [h, h']; simp), lines_of_stop (by rw [h']; simp)]

theorem takeBufferedLine_of_free (hp : ∀ c ∈ pending, isLineEnd c = false) :
    takeBufferedLine pending = none := by
  rcases hb : takeBufferedLine pending with _ | ⟨line, rest⟩
  · rfl
  · obtain ⟨c, rfl, hc, -⟩ := takeBufferedLine_some hb
    exact absurd (hp c (by simp)) (by simp [hc])

/-- The lines that are buffered come first. -/
theorem lines_buffered (pending : Bytes) (script : List SocketEvent) :
    lines pending script =
      segments isLineEnd pending ++ lines (remainder isLineEnd pending) script := by
  induction hn : pending.length using Nat.strong_induction_on generalizing pending with
  | _ n ih =>
    rcases hb : takeBufferedLine pending with _ | ⟨line, rest⟩
    · have hfree := takeBufferedLine_none hb
      rw [segments_open hfree, remainder_open hfree, List.nil_append]
    · obtain ⟨c, rfl, hc, hline⟩ := takeBufferedLine_some hb
      have hnext : nextLine (line ++ c :: rest) script = (.line line, rest, script) := by
        simp only [nextLine, hb]
      rw [List.length_append, List.length_cons] at hn
      rw [lines_of_line hnext, segments_closed hline hc, remainder_closed hline hc,
        ih rest.length (by omega) rest rfl, List.cons_append]

theorem lines_waiting (hp : ∀ c ∈ pending, isLineEnd c = false) : lines pending [] = [] := by
  apply lines_of_stop
  intro line
  simp [nextLine, takeBufferedLine_of_free hp, poll]

theorem lines_recv (hp : ∀ c ∈ pending, isLineEnd c = false) (data : Received) :
    lines pending (.recv data :: script) = lines (readSocketIntoPending pending data) script := by
  apply lines_congr
  simp only [nextLine, takeBufferedLine_of_free hp, poll]

/-- Reading line after line from a sequence of reads cuts each read into lines in turn. -/
theorem lines_reads (reads : List Received) {pending : Bytes}
    (hp : ∀ c ∈ pending, isLineEnd c = false) :
    lines pending (reads.map .recv) = emitted feed pending reads := by
  induction reads generalizing pending with
  | nil => exact lines_waiting hp
  | cons data reads ih =>
    rw [List.map_cons, lines_recv hp, lines_buffered, ih (remainder_free _), emitted_cons]
    rfl

/-- A stream of lines that are short against the cap is cut exactly at its line ends, whatever the
reads are. -/
theorem emitted_feed (reads : List Received) {pending : Bytes}
    (hp : ∀ c ∈ pending, isLineEnd c = false)
    (hw : ∀ l ∈ segments isLineEnd (pending ++ received reads), l.length + 256 ≤ MAX_PENDING_LEN) :
    emitted feed pending reads = segments isLineEnd (pending ++ received reads) := by
  induction reads generalizing pending with
  | nil =>
    rw [received, List.flatMap_nil, List.append_nil, segments_open hp]
    rfl
  | cons data reads ih =>
    have hrec : received (data :: reads) = data.bytes ++ received reads := rfl
    rw [emitted_cons, hrec, ← List.append_assoc]
    rw [hrec, ← List.append_assoc] at hw
    by_cases hcap : MAX_PENDING_LEN < (pending ++ data.bytes).length
    · -- The buffer can only overflow behind the last line end of the stream.
      have hfree : ∀ c ∈ data.bytes ++ received reads, isLineEnd c = false := by
        by_contra h
        obtain ⟨v, c, w, hvw, hc, hv⟩ := first_separator (p := isLineEnd)
          (w := data.bytes ++ received reads) (by simpa using h)
        have hline : ∀ d ∈ pending ++ v, isLineEnd d = false := fun d hd =>
          (List.mem_append.mp hd).elim (hp d) (hv d)
        have hmem := hw (pending ++ v) (by
          rw [List.append_assoc, hvw, ← List.append_assoc, segments_closed hline hc]
          exact List.mem_cons_self)
        have hl := data.length_le
        simp only [List.length_append] at hcap hmem
        omega
      have hrest : ∀ c ∈ received reads, isLineEnd c = false := fun c hc =>
        hfree c (List.mem_append_right _ hc)
      have hall : ∀ c ∈ pending ++ data.bytes ++ received reads, isLineEnd c = false := by
        intro c hc
        rw [List.append_assoc] at hc
        exact (List.mem_append.mp hc).elim (hp c) (hfree c)
      have hnil : feed pending data = ([], []) := by
        simp only [feed, readSocketIntoPending, if_pos hcap]
        rfl
      rw [hnil, ih (by simp) (by simp [segments_open hrest]), List.nil_append, List.nil_append,
        segments_open hrest, segments_open hall]
    · have hkeep : feed pending data = (remainder isLineEnd (pending ++ data.bytes),
          segments isLineEnd (pending ++ data.bytes)) := by
        simp only [feed, readSocketIntoPending, if_neg hcap]
      rw [segments_append] at hw ⊢
      rw [hkeep, ih (remainder_free _) fun l hl => hw l (List.mem_append_right _ hl)]

theorem after_feed_free (reads : List Received) :
    ∀ c ∈ after feed [] reads, isLineEnd c = false :=
  after_invariant feed (P := fun pending => ∀ c ∈ pending, isLineEnd c = false) (by simp)
    (fun _ _ _ => remainder_free _) reads

/-- Reads complete at most one line for each line end they bring. -/
theorem length_emitted_feed_le (reads : List Received) (pending : Bytes)
    (hp : ∀ c ∈ pending, isLineEnd c = false) :
    (emitted feed pending reads).length ≤ (received reads).countP isLineEnd := by
  induction reads generalizing pending with
  | nil => simp
  | cons data reads ih =>
    have hrec : received (data :: reads) = data.bytes ++ received reads := rfl
    have hone : (feed pending data).2.length ≤ data.bytes.countP isLineEnd := by
      have hz : pending.countP isLineEnd = 0 :=
        List.countP_eq_zero.mpr fun c hc => by simp [hp c hc]
      simp only [feed, readSocketIntoPending, length_segments]
      split
      · simp
      · rw [List.countP_append, hz, Nat.zero_add]
    have hmore := ih (feed pending data).1 (remainder_free _)
    rw [emitted_cons, List.length_append, hrec, List.countP_append]
    omega

end Lines

section Room

theorem received_append (cs ds : List Received) :
    received (cs ++ ds) = received cs ++ received ds := List.flatMap_append

/-- No read overruns the reader's buffer behind the lines taken out of it. -/
def Roomy : Bytes → List Received → Prop
  | _, [] => True
  | pending, data :: recvs =>
    (remainder isLineEnd pending).length + data.bytes.length ≤ MAX_PENDING_LEN ∧
      Roomy (remainder isLineEnd pending ++ data.bytes) recvs

theorem Roomy.congr {p q : Bytes} (hpq : remainder isLineEnd p = remainder isLineEnd q)
    {recvs : List Received} (h : Roomy p recvs) : Roomy q recvs := by
  cases recvs with
  | nil => trivial
  | cons data recvs => rwa [Roomy, ← hpq]

theorem Roomy.of_suffix {p q : Bytes} (hqp : q <:+ p) {recvs : List Received}
    (h : Roomy p recvs) : Roomy q recvs := by
  induction recvs generalizing p q with
  | nil => trivial
  | cons data recvs ih =>
    obtain ⟨v, hv⟩ := remainder_mono (p := isLineEnd) hqp
    obtain ⟨hroom, h⟩ := h
    rw [← hv, List.length_append] at hroom
    refine ⟨by omega, ih ⟨v, ?_⟩ h⟩
    rw [← List.append_assoc, hv]

/-- A stream of short lines has room for every read, whatever the reads are. -/
theorem roomy_of_short {pending : Bytes} {recvs : List Received}
    (h : ∀ l, l <:+: pending ++ received recvs → (∀ c ∈ l, isLineEnd c = false) →
      l.length + 256 ≤ MAX_PENDING_LEN) : Roomy pending recvs := by
  induction recvs generalizing pending with
  | nil => trivial
  | cons data recvs ih =>
    have hsuffix := remainder_suffix (p := isLineEnd) pending
    have hshort := h _ (hsuffix.isInfix.trans (List.prefix_append _ _).isInfix)
      (remainder_free pending)
    have hdata := data.length_le
    refine ⟨by omega, ih fun l hl => h l (hl.trans ?_)⟩
    obtain ⟨v, hv⟩ := hsuffix
    refine ⟨v, [], ?_⟩
    rw [List.append_nil, List.append_assoc, ← List.append_assoc v, hv]
    rfl

/-- With room for every read, the reads are cut into the lines of the stream. -/
theorem emitted_roomy {pending : Bytes} {reads : List Received}
    (hp : ∀ c ∈ pending, isLineEnd c = false) (h : Roomy pending reads) :
    emitted feed pending reads = segments isLineEnd (pending ++ received reads) := by
  induction reads generalizing pending with
  | nil =>
    rw [received, List.flatMap_nil, List.append_nil, segments_open hp]
    rfl
  | cons data reads ih =>
    rw [Roomy, remainder_open hp] at h
    have hrec : received (data :: reads) = data.bytes ++ received reads := rfl
    have hkeep : feed pending data = (remainder isLineEnd (pending ++ data.bytes),
        segments isLineEnd (pending ++ data.bytes)) := by
      simp only [feed, readSocketIntoPending, if_neg (show ¬ MAX_PENDING_LEN <
        (pending ++ data.bytes).length by rw [List.length_append]; omega)]
    rw [emitted_cons, hkeep, ih (remainder_free _)
      (h.2.congr (remainder_open (remainder_free _)).symm), hrec, ← List.append_assoc,
      segments_append (pending ++ data.bytes)]

theorem lines_of_roomy {pending : Bytes} {unread : List Received} (h : Roomy pending unread) :
    lines pending (unread.map .recv) = segments isLineEnd (pending ++ received unread) := by
  have hfree := remainder_free (p := isLineEnd) pending
  rw [lines_buffered, lines_reads unread hfree, segments_append,
    emitted_roomy hfree (h.congr (remainder_open hfree).symm)]

end Room

end TcpReader

end VehicleSpy.Pipeline
