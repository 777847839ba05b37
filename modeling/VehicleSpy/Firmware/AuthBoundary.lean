import VehicleSpy.Firmware.TcpServerManager
import VehicleSpy.Text.Segments

/-! # The authentication boundary

A connection is the manager's current client only after its first line was accepted, and the
connection in the global slot has been told to stop exactly if its first line was refused. So
heartbeats, replies and commands stay with clients that have authenticated. Frames do not: the
slot is a copy that does not hear of the stop, and the bridge streams to it whenever it says that
it is connected.
-/

namespace VehicleSpy.Firmware.AuthBoundary

open Machine TcpServerManager FirmwareLoop

open Text hiding trim

/-- The first lines of the connections in the order of their arrival, each with the token that
was current then. -/
def arrivals (events : List LoopEvent) : List (Bytes × Bytes) :=
  events.filterMap fun
    | .cycle _ (.arrival _ firstLine authToken) => some (firstLine, authToken)
    | _ => none

/-- The connection's first line, trimmed, was the current token after `AUTH `. -/
def Authenticated (events : List LoopEvent) (client : ClientId) : Prop :=
  ∃ line token, (arrivals events)[client]? = some (line, token) ∧
    trim line = ascii "AUTH " ++ token

/-- The bytes that a call read from the connection after its first line. -/
def bytesRead (client : ClientId) : LoopCall → Bytes
  | .tcp (.readAvailableLine c incoming) => if c = client then incoming else []
  | _ => []

/-- What the connection sent after its first line. -/
def sent (client : ClientId) (calls : List LoopCall) : Bytes := calls.flatMap (bytesRead client)

/-- The complete lines in what the connection sent after its first line, each of them trimmed. -/
def commands (client : ClientId) (calls : List LoopCall) : List Bytes :=
  (segments (· == CR) (sent client calls)).map trim

/-- No frame is drained, with the monitor on, to a connection that has been told to stop and still
says that it is connected. -/
def SparesStopped (s : FirmwareLoop) : LoopEvent → Prop
  | .processFrames _ queue =>
    s.canBridge.initialized = true → s.canBridge.monitorActive = true →
      ∀ c ∈ s.client, c ∈ s.stopped → ∀ r ∈ queue, r.2 = false
  | _ => True

/-- The firmware as it starts: no client, and the bridge as it was built. -/
def boot (bridge : CanBridge) : FirmwareLoop := { canBridge := bridge }

section State

variable {w : List LoopEvent} {s : FirmwareLoop} {os : List LoopCall} {c : ClientId}
  {e : LoopEvent}

/-- What a run leaves in the state. -/
structure Bounded (w : List LoopEvent) (s : FirmwareLoop) (os : List LoopCall) : Prop where
  accepted : s.accepted = (arrivals w).length
  slot : ∀ c ∈ s.client, c < s.accepted ∧ (c ∈ s.stopped ↔ ¬ Authenticated w c)
  stopped : ∀ c ∈ s.stopped, c < s.accepted
  current : ∀ c ∈ s.tcpManager.current, s.client = some c ∧ Authenticated w c ∧
    s.tcpManager.partialLine = remainder (· == CR) (sent c os)
  unread : ∀ c, s.accepted ≤ c → sent c os = []

theorem arrivals_append (u v : List LoopEvent) : arrivals (u ++ v) = arrivals u ++ arrivals v :=
  List.filterMap_append

theorem Authenticated.lt (h : Authenticated w c) : c < (arrivals w).length := by
  obtain ⟨line, token, hl, -⟩ := h
  exact (List.getElem?_eq_some_iff.mp hl).1

/-- What comes later does not change how a connection has authenticated. -/
theorem authenticated_append_iff (h : c < (arrivals w).length) (v : List LoopEvent) :
    Authenticated (w ++ v) c ↔ Authenticated w c := by
  rw [Authenticated, Authenticated, arrivals_append, List.getElem?_append_left h]

theorem Authenticated.append (h : Authenticated w c) (v : List LoopEvent) :
    Authenticated (w ++ v) c :=
  (authenticated_append_iff h.lt v).mpr h

theorem sent_append (c : ClientId) (os os' : List LoopCall) :
    sent c (os ++ os') = sent c os ++ sent c os' :=
  List.flatMap_append

theorem sent_cons (c : ClientId) (call : LoopCall) (os : List LoopCall) :
    sent c (call :: os) = bytesRead c call ++ sent c os :=
  List.flatMap_cons

theorem bounded_boot (bridge : CanBridge) : Bounded [] (boot bridge) [] := by
  constructor
  · rfl
  · simp [boot]
  · simp [boot]
  · simp [boot]
  · exact fun _ _ => rfl

/-- The slot stays as it is described, whatever comes next. -/
theorem Bounded.slot_concat (h : Bounded w s os) (e : LoopEvent) :
    ∀ c ∈ s.client, c < s.accepted ∧ (c ∈ s.stopped ↔ ¬ Authenticated (w ++ [e]) c) := by
  intro c hc
  obtain ⟨hlt, hstopped⟩ := h.slot c hc
  exact ⟨hlt, by rw [authenticated_append_iff (h.accepted ▸ hlt), hstopped]⟩

/-- An event that accepts nothing, reads nothing and touches neither the manager nor the slot
keeps what the run has left. -/
theorem Bounded.keep {s' : FirmwareLoop} {os' : List LoopCall} (h : Bounded w s os)
    (ha : arrivals [e] = []) (hs : ∀ c, sent c os' = [])
    (hm : s'.tcpManager = s.tcpManager) (hc : s'.client = s.client)
    (hn : s'.accepted = s.accepted) (hst : s'.stopped = s.stopped) :
    Bounded (w ++ [e]) s' (os ++ os') := by
  constructor
  · rw [hn, h.accepted, arrivals_append, ha, List.append_nil]
  · rw [hc, hn, hst]
    exact h.slot_concat e
  · rw [hst, hn]
    exact h.stopped
  · intro c hcu
    obtain ⟨hcl, hauth, hpart⟩ := h.current c (hm ▸ hcu)
    rw [hc, hm, sent_append, hs, List.append_nil]
    exact ⟨hcl, hauth.append _, hpart⟩
  · intro c hle
    rw [sent_append, hs, List.append_nil, h.unread c (hn ▸ hle)]

end State

section Dispatch

variable {client : ClientId}

theorem dispatchLines_eq (client : ClientId) (partialLine : Bytes) :
    dispatchLines client partialLine = (remainder (· == CR) partialLine,
      (segments (· == CR) partialLine).flatMap (dispatchCommand client)) := by
  fun_induction dispatchLines client partialLine with
  | case1 p h =>
    have hfree : ∀ c ∈ p, (c == CR) = false := by
      intro c hc
      rw [beq_eq_false_iff_ne]
      rintro rfl
      exact find_none_iff.mp h hc
    rw [remainder_open hfree, segments_open hfree, List.flatMap_nil]
  | case2 p pos h rest calls heq ih =>
    obtain ⟨u, v, rfl, hu, hf⟩ := find_split (mem_of_find h)
    obtain rfl := Option.some.inj (h.symm.trans hf)
    have hfree : ∀ c ∈ u, (c == CR) = false := by
      intro c hc
      rw [beq_eq_false_iff_ne]
      rintro rfl
      exact hu hc
    have hdrop : (u ++ CR :: v).drop (u.length + 1) = v := by simp
    rw [hdrop] at heq ih
    obtain ⟨rfl, rfl⟩ := Prod.mk.inj (heq.symm.trans ih)
    rw [remainder_closed hfree (by decide), segments_closed hfree (by decide), List.flatMap_cons,
      List.take_left]

theorem mem_dispatchCommand {line : Bytes} {call : TcpCall}
    (h : call ∈ dispatchCommand client line) :
    (∃ text, call = .println client text) ∨ call = .flush client ∨
      call = .handleTcpAtCommand (trim line) := by
  unfold dispatchCommand at h
  dsimp only at h
  split at h
  · cases h
  · split at h
    · simp only [List.mem_cons, List.not_mem_nil, or_false] at h
      exact h.elim (fun h => Or.inl ⟨_, h⟩) fun h => Or.inr (Or.inl h)
    · exact Or.inr (Or.inr (List.mem_singleton.mp h))

end Dispatch

section Step

variable {w : List LoopEvent} {s : FirmwareLoop} {os : List LoopCall} {env : AtEnv}

theorem sent_map_tcp_eq_nil {calls : List TcpCall}
    (h : ∀ c incoming, TcpCall.readAvailableLine c incoming ∉ calls) (c : ClientId) :
    sent c (calls.map .tcp) = [] := by
  rw [sent, List.flatMap_eq_nil_iff]
  intro call hcall
  obtain ⟨tcpCall, hmem, rfl⟩ := List.mem_map.mp hcall
  cases tcpCall with
  | readAvailableLine c' incoming => exact absurd hmem (h c' incoming)
  | _ => rfl

theorem sent_dispatchLines (c client : ClientId) (p : Bytes) :
    sent c ((dispatchLines client p).2.map .tcp) = [] := by
  apply sent_map_tcp_eq_nil
  intro c' incoming hcall
  rw [dispatchLines_eq] at hcall
  obtain ⟨line, -, hcall⟩ := List.mem_flatMap.mp hcall
  rcases mem_dispatchCommand hcall with ⟨_, h⟩ | h | h <;> cases h

theorem sent_arrival (m : TcpServerManager) (next : ClientId) (ip line token : Bytes)
    (c : ClientId) : sent c ((m.cycle next (.arrival ip line token)).2.map .tcp) = [] := by
  apply sent_map_tcp_eq_nil
  intro c' incoming
  simp only [cycle, adopt, authenticate]
  split <;> split <;> simp

theorem runCycle_calls (input : CycleInput) : (s.runCycle env input).2 =
    (s.tcpManager.cycle s.accepted input).2.map .tcp := rfl

theorem authenticated_arrival {line token ip : Bytes} (h : Bounded w s os) :
    Authenticated (w ++ [.cycle env (.arrival ip line token)]) s.accepted ↔
      isValidAuthToken (trim line) token = true := by
  have hlast : (arrivals (w ++ [.cycle env (.arrival ip line token)]))[s.accepted]? =
      some (line, token) := by
    rw [arrivals_append, h.accepted, List.getElem?_append_right (Nat.le_refl _), Nat.sub_self]
    rfl
  rw [Authenticated, hlast]
  constructor
  · rintro ⟨line', token', heq, ht⟩
    obtain ⟨rfl, rfl⟩ := Prod.mk.inj (Option.some.inj heq)
    exact decide_eq_true ht
  · exact fun hv => ⟨line, token, rfl, of_decide_eq_true hv⟩

/-- An arrival stops the client that it replaces, and itself if it is refused. -/
theorem mem_stops_arrival {m : TcpServerManager} {next c : ClientId} {ip line token : Bytes} :
    c ∈ stops (m.cycle next (.arrival ip line token)).2 ↔
      m.current = some c ∨ c = next ∧ isValidAuthToken (trim line) token = false := by
  simp only [cycle, adopt, authenticate]
  cases m.current <;> cases isValidAuthToken (trim line) token <;> simp [stops, eq_comm]

theorem stops_dispatchLines (client : ClientId) (p : Bytes) :
    stops (dispatchLines client p).2 = [] := by
  rw [dispatchLines_eq, stops, List.filterMap_eq_nil_iff]
  intro call hcall
  obtain ⟨line, -, hcall⟩ := List.mem_flatMap.mp hcall
  rcases mem_dispatchCommand hcall with ⟨text, rfl⟩ | rfl | rfl <;> rfl

theorem bounded_arrival (h : Bounded w s os) (ip line token : Bytes) :
    Bounded (w ++ [.cycle env (.arrival ip line token)])
      (s.runCycle env (.arrival ip line token)).1
      (os ++ (s.runCycle env (.arrival ip line token)).2) := by
  have hsent : ∀ c, sent c (os ++ (s.runCycle env (.arrival ip line token)).2) = sent c os := by
    intro c
    rw [sent_append, runCycle_calls, sent_arrival, List.append_nil]
  constructor
  · rw [arrivals_append, List.length_append, ← h.accepted]
    rfl
  · rintro c hc
    obtain rfl : s.accepted = c := Option.some.inj hc
    refine ⟨Nat.lt_succ_self _, ?_⟩
    have hfresh : s.accepted ∉ s.stopped ∧ s.tcpManager.current ≠ some s.accepted :=
      ⟨fun hin => Nat.lt_irrefl _ (h.stopped _ hin),
        fun hcur => Nat.lt_irrefl _ (h.slot _ (h.current _ hcur).1).1⟩
    rw [authenticated_arrival h, Bool.not_eq_true]
    simp only [runCycle, List.mem_append, mem_stops_arrival, hfresh, false_or, true_and]
  · intro c hc
    simp only [runCycle, List.mem_append, mem_stops_arrival] at hc
    rcases hc with hc | hc | ⟨rfl, -⟩
    · exact Nat.lt_succ_of_lt (h.stopped c hc)
    · exact Nat.lt_succ_of_lt (h.slot c (h.current c hc).1).1
    · exact Nat.lt_succ_self _
  · intro c hc
    cases hv : isValidAuthToken (trim line) token with
    | true =>
      simp only [runCycle, cycle, adopt, authenticate, hv, if_true, Option.mem_def,
        Option.some.injEq] at hc
      subst hc
      refine ⟨rfl, (authenticated_arrival h).mpr hv, ?_⟩
      rw [hsent, h.unread _ (Nat.le_refl _)]
      simp [runCycle, cycle, adopt, authenticate, hv, remainder]
    | false => simp [runCycle, cycle, adopt, authenticate, hv] at hc
  · intro c hle
    rw [hsent]
    exact h.unread c (Nat.le_of_succ_le hle)

theorem bounded_idle (h : Bounded w s os) (hcur : s.tcpManager.current = none)
    (connected : Bool) (incoming : Bytes) :
    Bounded (w ++ [.cycle env (.noArrival connected incoming)])
      (s.runCycle env (.noArrival connected incoming)).1
      (os ++ (s.runCycle env (.noArrival connected incoming)).2) := by
  have hcycle : s.tcpManager.cycle s.accepted (.noArrival connected incoming) =
      (s.tcpManager, []) := by
    simp only [cycle, hcur]
  apply h.keep
  · rfl
  · simp [runCycle, hcycle, sent]
  · simp [runCycle, hcycle]
  · rfl
  · rfl
  · simp [runCycle, hcycle, stops]

theorem bounded_drop (h : Bounded w s os) {client : ClientId}
    (hcur : s.tcpManager.current = some client) (incoming : Bytes) :
    Bounded (w ++ [.cycle env (.noArrival false incoming)])
      (s.runCycle env (.noArrival false incoming)).1
      (os ++ (s.runCycle env (.noArrival false incoming)).2) := by
  have hcycle : s.tcpManager.cycle s.accepted (.noArrival false incoming) =
      ({ current := none, clientIp := [], partialLine := [] },
        [.setMonitorActive false, .resetDiscoveryBackoff,
          .onClientDisconnected s.tcpManager.clientIp 0]) := by
    simp only [cycle, hcur, Bool.false_eq_true, if_false]
  have hstopped : (s.runCycle env (.noArrival false incoming)).1.stopped = s.stopped := by
    simp [runCycle, hcycle, stops]
  constructor
  · rw [arrivals_append, List.length_append, ← h.accepted]
    rfl
  · rw [hstopped]
    exact h.slot_concat _
  · rw [hstopped]
    exact h.stopped
  · intro c hc
    simp [runCycle, hcycle] at hc
  · intro c hle
    have hread := h.unread c hle
    simp_all [runCycle, sent, bytesRead]

/-- The current client's commands: the bytes read go through the buffer, whose content is what
the client sent after its last complete line. -/
theorem cycle_connected {m : TcpServerManager} {client : ClientId} (hcur : m.current = some client)
    (hp : ∀ c ∈ m.partialLine, (c == CR) = false) (next : ClientId) (incoming : Bytes) :
    m.cycle next (.noArrival true incoming) =
      ({ m with partialLine := (dispatchLines client (m.partialLine ++ incoming)).1 },
        .readAvailableLine client incoming ::
          (dispatchLines client (m.partialLine ++ incoming)).2) := by
  simp only [cycle, hcur, if_true]
  split
  · next hnil =>
    rw [hnil, List.append_nil, dispatchLines_eq, remainder_open hp, segments_open hp,
      List.flatMap_nil]
  · rfl

theorem Bounded.partial_free (h : Bounded w s os) {client : ClientId}
    (hcur : s.tcpManager.current = some client) :
    ∀ c ∈ s.tcpManager.partialLine, (c == CR) = false := by
  rw [(h.current client hcur).2.2]
  exact remainder_free _

theorem bounded_commands (h : Bounded w s os) {client : ClientId}
    (hcur : s.tcpManager.current = some client) (incoming : Bytes) :
    Bounded (w ++ [.cycle env (.noArrival true incoming)])
      (s.runCycle env (.noArrival true incoming)).1
      (os ++ (s.runCycle env (.noArrival true incoming)).2) := by
  obtain ⟨hcl, hauth, hpart⟩ := h.current client hcur
  have hcycle := cycle_connected hcur (h.partial_free hcur) s.accepted incoming
  have hsent : ∀ c, sent c (os ++ (s.runCycle env (.noArrival true incoming)).2) =
      sent c os ++ if client = c then incoming else [] := by
    intro c
    simp only [sent_append, runCycle_calls, hcycle, List.map_cons, sent_cons, sent_dispatchLines,
      List.append_nil, bytesRead]
  have hstopped : (s.runCycle env (.noArrival true incoming)).1.stopped = s.stopped := by
    have hnone := stops_dispatchLines client (s.tcpManager.partialLine ++ incoming)
    rw [stops] at hnone
    simp [runCycle, hcycle, stops, hnone]
  constructor
  · rw [arrivals_append, List.length_append, ← h.accepted]
    rfl
  · rw [hstopped]
    exact h.slot_concat _
  · rw [hstopped]
    exact h.stopped
  · intro c hc
    have hc' : s.tcpManager.current = some c := by simpa [runCycle, hcycle] using hc
    obtain rfl := Option.some.inj (hcur.symm.trans hc')
    refine ⟨hcl, hauth.append _, ?_⟩
    rw [hsent, if_pos rfl, remainder_append, ← hpart, runCycle, hcycle, dispatchLines_eq]
  · intro c hle
    have hlt : client < c := Nat.lt_of_lt_of_le (h.slot client hcl).1 hle
    rw [hsent, if_neg (Nat.ne_of_lt hlt), List.append_nil]
    exact h.unread c hle

theorem bounded_processFrames (h : Bounded w s os) (nowMs : UInt32)
    (queue : List (CanFrame × Bool)) :
    Bounded (w ++ [.processFrames nowMs queue]) (s.step (.processFrames nowMs queue)).1
      (os ++ (s.step (.processFrames nowMs queue)).2) := by
  have hsent : ∀ c, sent c (s.step (.processFrames nowMs queue)).2 = [] := by
    intro c
    rw [sent, List.flatMap_eq_nil_iff]
    intro call hcall
    simp only [FirmwareLoop.step] at hcall
    split at hcall
    · obtain ⟨_, -, rfl⟩ := List.mem_map.mp hcall
      rfl
    · cases hcall
  apply h.keep rfl hsent
  all_goals
    simp only [FirmwareLoop.step]
    split <;> rfl

theorem bounded_heartbeat (h : Bounded w s os) (snapshot : Bytes) (connected : Bool) :
    Bounded (w ++ [.heartbeat snapshot connected]) (s.step (.heartbeat snapshot connected)).1
      (os ++ (s.step (.heartbeat snapshot connected)).2) := by
  refine h.keep rfl ?_ rfl rfl rfl rfl
  apply sent_map_tcp_eq_nil
  intro c incoming
  unfold writeLineToClient
  split
  · split <;> simp
  · simp

theorem bounded_step (h : Bounded w s os) (e : LoopEvent) :
    Bounded (w ++ [e]) (s.step e).1 (os ++ (s.step e).2) := by
  cases e with
  | serialCommand env cmd quietUntilMs => exact h.keep rfl (fun _ => rfl) rfl rfl rfl rfl
  | heartbeat snapshot connected => exact bounded_heartbeat h snapshot connected
  | processFrames nowMs queue => exact bounded_processFrames h nowMs queue
  | cycle env input =>
    cases input with
    | arrival ip line token => exact bounded_arrival h ip line token
    | noArrival connected incoming =>
      cases hcur : s.tcpManager.current with
      | none => exact bounded_idle h hcur connected incoming
      | some client =>
        cases connected with
        | false => exact bounded_drop h hcur incoming
        | true => exact bounded_commands h hcur incoming

theorem bounded_run (bridge : CanBridge) (u : List LoopEvent) :
    Bounded u (after FirmwareLoop.step (boot bridge) u)
      (emitted FirmwareLoop.step (boot bridge) u) := by
  induction u using List.reverseRecOn with
  | nil => exact bounded_boot bridge
  | append_singleton u e ih =>
    rw [after_concat, emitted_concat]
    exact bounded_step ih e

end Step

section Boundary

variable {w : List LoopEvent} {s : FirmwareLoop} {os : List LoopCall} {env : AtEnv}
  {e : LoopEvent}

/-- A frame goes only to an authenticated connection; so does every line but the answer to a
first line; a command is a line that an authenticated connection sent after its first line;
and a connection's first line is read with the monitor off and nothing in the buffer, and
leaves the monitor off if it is refused. -/
structure StepKept (w : List LoopEvent) (s : FirmwareLoop) (os : List LoopCall) (e : LoopEvent) :
    Prop where
  frames : ∀ c str, .bridge (some c) (.tcpPrint str) ∈ (s.step e).2 → Authenticated w c
  lines : ∀ c line, .tcp (.println c line) ∈ (s.step e).2 → Authenticated w c ∨
    (∃ env ip first token, e = .cycle env (.arrival ip first token)) ∧
      (line = ascii "OK" ∨ line = ascii "ERROR unauthorized")
  commands : ∀ cmd, .tcp (.handleTcpAtCommand cmd) ∈ (s.step e).2 →
    ∃ c, Authenticated w c ∧ cmd ∈ commands c (os ++ (s.step e).2)
  fresh : ∀ env ip first token, e = .cycle env (.arrival ip first token) →
    (∃ before rest, (s.step e).2 = (before ++ .readLine s.accepted first :: rest).map .tcp ∧
      monitorAfter env s.canBridge.monitorActive before = false) ∧
    (s.step e).1.tcpManager.partialLine = [] ∧
    (trim first ≠ ascii "AUTH " ++ token → (s.step e).1.canBridge.monitorActive = false)

/-- Every step of the run keeps to the boundary. -/
def BoundaryKept (bridge : CanBridge) (events : List LoopEvent) : Prop :=
  ∀ u e v, events = u ++ e :: v →
    StepKept u (after FirmwareLoop.step (boot bridge) u)
      (emitted FirmwareLoop.step (boot bridge) u) e

/-- What the bridge prints to the connection in the slot. -/
theorem tcpPrint_mem_step {nowMs : UInt32} {queue : List (CanFrame × Bool)}
    {slot : Option ClientId} {str : Bytes} :
    .bridge slot (.tcpPrint str) ∈ (s.step (.processFrames nowMs queue)).2 ↔
      s.canBridge.initialized = true ∧ s.canBridge.monitorActive = true ∧ s.client = slot ∧
        ∃ msg, (msg, true) ∈ queue ∧ frameString msg = str := by
  simp only [FirmwareLoop.step]
  cases hi : s.canBridge.initialized with
  | false => simp [processFrames_uninitialized hi]
  | true =>
    rw [processFrames_eq hi]
    simp only [List.mem_map, LoopCall.bridge.injEq, true_and]
    constructor
    · rintro ⟨call, hcall, hslot, rfl⟩
      obtain ⟨hm, hmsg⟩ := tcpPrint_mem_frameCalls.mp hcall
      exact ⟨hm, hslot, hmsg⟩
    · rintro ⟨hm, hslot, hmsg⟩
      exact ⟨_, tcpPrint_mem_frameCalls.mpr ⟨hm, hmsg⟩, hslot, rfl⟩

/-- Draining the queue keeps to the boundary exactly if nothing of it goes to a connection that has
been told to stop. -/
theorem stepKept_processFrames_iff (h : Bounded w s os) {nowMs : UInt32}
    {queue : List (CanFrame × Bool)} :
    StepKept w s os (.processFrames nowMs queue) ↔
      SparesStopped s (.processFrames nowMs queue) := by
  constructor
  · intro hkept hi hm c hslot hstopped r hr
    by_contra hconn
    rw [Bool.not_eq_false] at hconn
    have hprint : .bridge (some c) (.tcpPrint (frameString r.1)) ∈
        (s.step (.processFrames nowMs queue)).2 :=
      tcpPrint_mem_step.mpr ⟨hi, hm, hslot, r.1, hconn ▸ hr, rfl⟩
    exact (h.slot c hslot).2.mp hstopped (hkept.frames c _ hprint)
  · intro hspares
    constructor
    · intro c str hc
      obtain ⟨hi, hm, hslot, msg, hmsg, -⟩ := tcpPrint_mem_step.mp hc
      by_contra hauth
      have hfalse := hspares hi hm c hslot ((h.slot c hslot).2.mpr hauth) _ hmsg
      cases hfalse
    · intro c line hc
      simp only [FirmwareLoop.step] at hc
      split at hc <;> simp at hc
    · intro cmd hc
      simp only [FirmwareLoop.step] at hc
      split at hc <;> simp at hc
    · rintro env ip first token he
      cases he

/-- A step of the manager alone keeps to the boundary if each of its calls does. -/
theorem stepKept_of_calls {calls : List TcpCall} (hstep : (s.step e).2 = calls.map .tcp)
    (hlines : ∀ c line, .println c line ∈ calls → Authenticated w c)
    (hcommands : ∀ cmd, .handleTcpAtCommand cmd ∈ calls →
      ∃ c, Authenticated w c ∧ cmd ∈ commands c (os ++ calls.map .tcp))
    (hfresh : ∀ env ip first token, e ≠ .cycle env (.arrival ip first token)) :
    StepKept w s os e := by
  have hmem {call : TcpCall} (hc : .tcp call ∈ (s.step e).2) : call ∈ calls := by
    rw [hstep] at hc
    obtain ⟨call', hcall, heq⟩ := List.mem_map.mp hc
    exact LoopCall.tcp.inj heq ▸ hcall
  constructor
  · intro c str hc
    rw [hstep] at hc
    obtain ⟨_, -, heq⟩ := List.mem_map.mp hc
    cases heq
  · exact fun c line hc => Or.inl (hlines c line (hmem hc))
  · rw [hstep] at hmem ⊢
    exact fun cmd hc => hcommands cmd (hmem hc)
  · exact fun env ip first token he => absurd he (hfresh env ip first token)

theorem stepKept_heartbeat (h : Bounded w s os) (snapshot : Bytes) (connected : Bool) :
    StepKept w s os (.heartbeat snapshot connected) := by
  have hcalls : ∀ call ∈ s.tcpManager.writeLineToClient connected snapshot,
      ∃ c, s.tcpManager.current = some c ∧ call = .println c snapshot := by
    intro call hcall
    unfold writeLineToClient at hcall
    split at hcall
    · next c hcur =>
      split at hcall
      · exact ⟨c, hcur, List.mem_singleton.mp hcall⟩
      · cases hcall
    · cases hcall
  refine stepKept_of_calls rfl ?_ ?_ fun _ _ _ _ => LoopEvent.noConfusion
  · intro c line hc
    obtain ⟨c', hcur, heq⟩ := hcalls _ hc
    obtain ⟨rfl, -⟩ := TcpCall.println.inj heq
    exact (h.current c hcur).2.1
  · intro cmd hc
    obtain ⟨c', -, heq⟩ := hcalls _ hc
    cases heq

/-- The calls around an arrival: the monitor is off when the first line is read, nothing is
dispatched, and the only line written is the answer. -/
theorem cycle_arrival (m : TcpServerManager) (next : ClientId) (ip first token : Bytes) :
    ∃ before rest,
      (m.cycle next (.arrival ip first token)).2 = before ++ .readLine next first :: rest ∧
      (∀ env active, monitorAfter env active before = false) ∧
      ∀ call ∈ before ++ .readLine next first :: rest, (∀ cmd, call ≠ .handleTcpAtCommand cmd) ∧
        ∀ c line, call = .println c line →
          line = ascii "OK" ∨ line = ascii "ERROR unauthorized" := by
  refine ⟨(m.adopt next ip).2 ++ [.setTimeout next TCP_AUTH_TIMEOUT_MS],
    .setTimeout next TCP_COMMAND_TIMEOUT_MS ::
      (if isValidAuthToken (trim first) token then
        [.println next (ascii "OK"), .flush next, .setMonitorActive true, .onClientConnected ip]
      else [.println next (ascii "ERROR unauthorized"), .flush next, .stop next,
        .onAuthFailed ip]), ?_, ?_, ?_⟩
  · simp only [cycle, adopt, authenticate]
    cases isValidAuthToken (trim first) token <;> simp
  · intro env active
    simp only [adopt]
    split <;> rfl
  · intro call hcall
    simp only [adopt] at hcall
    split at hcall <;> split at hcall <;>
      · simp only [List.mem_append, List.mem_cons, List.not_mem_nil, or_false, false_or] at hcall
        grind

theorem stepKept_arrival (w : List LoopEvent) (s : FirmwareLoop) (os : List LoopCall)
    (ip first token : Bytes) : StepKept w s os (.cycle env (.arrival ip first token)) := by
  obtain ⟨before, rest, hcalls, hoff, hmute⟩ :=
    cycle_arrival s.tcpManager s.accepted ip first token
  have hstep : (s.step (.cycle env (.arrival ip first token))).2 =
      (before ++ .readLine s.accepted first :: rest).map .tcp := congrArg _ hcalls
  constructor
  · intro c str hc
    obtain ⟨_, -, heq⟩ := List.mem_map.mp hc
    cases heq
  · intro c line hc
    rw [hstep] at hc
    obtain ⟨call, hmem, heq⟩ := List.mem_map.mp hc
    exact Or.inr ⟨⟨env, ip, first, token, rfl⟩,
      (hmute call hmem).2 c line (LoopCall.tcp.inj heq)⟩
  · intro cmd hc
    rw [hstep] at hc
    obtain ⟨call, hmem, heq⟩ := List.mem_map.mp hc
    exact absurd (LoopCall.tcp.inj heq) ((hmute call hmem).1 cmd)
  · rintro env' ip' first' token' he
    cases he
    refine ⟨⟨before, rest, hstep, hoff _ _⟩, ?_, ?_⟩
    · simp only [FirmwareLoop.step, runCycle, cycle, adopt, authenticate]
      split <;> rfl
    · intro hne
      have hv : isValidAuthToken (trim first) token = false := decide_eq_false hne
      simp only [FirmwareLoop.step, runCycle, cycle, adopt, authenticate, hv]
      split <;> rfl

/-- A complete line that the manager takes from its buffer was sent by the current client. -/
theorem mem_commands_of_line {client : ClientId} {incoming line : Bytes}
    (hpart : s.tcpManager.partialLine = remainder (· == CR) (sent client os))
    (hline : line ∈ segments (· == CR) (s.tcpManager.partialLine ++ incoming)) :
    trim line ∈ commands client (os ++ (TcpCall.readAvailableLine client incoming ::
      (dispatchLines client (s.tcpManager.partialLine ++ incoming)).2).map .tcp) := by
  apply List.mem_map_of_mem
  simp only [List.map_cons, sent_append, sent_cons, sent_dispatchLines, bytesRead, if_true,
    List.append_nil]
  rw [segments_append, ← hpart]
  exact List.mem_append_right _ hline

theorem stepKept_noArrival (h : Bounded w s os) (connected : Bool) (incoming : Bytes) :
    StepKept w s os (.cycle env (.noArrival connected incoming)) := by
  have hstep {calls : List TcpCall}
      (hcycle : (s.tcpManager.cycle s.accepted (.noArrival connected incoming)).2 = calls) :
      (s.step (.cycle env (.noArrival connected incoming))).2 = calls.map .tcp :=
    hcycle ▸ rfl
  have hne : ∀ env' ip first token, LoopEvent.cycle env (.noArrival connected incoming) ≠
      .cycle env' (.arrival ip first token) := by
    rintro env' ip first token he
    cases he
  -- only a connected current client makes the manager write or dispatch
  cases hcur : s.tcpManager.current with
  | none => exact stepKept_of_calls (hstep (by rw [cycle, hcur])) (by simp) (by simp) hne
  | some client =>
    obtain ⟨-, hauth, hpart⟩ := h.current client hcur
    cases connected with
    | false =>
      have hcycle : (s.tcpManager.cycle s.accepted (.noArrival false incoming)).2 =
          [.setMonitorActive false, .resetDiscoveryBackoff,
            .onClientDisconnected s.tcpManager.clientIp 0] := by
        simp only [cycle, hcur, Bool.false_eq_true, if_false]
      exact stepKept_of_calls (hstep hcycle) (by simp) (by simp) hne
    | true =>
      have hcycle := congrArg Prod.snd
        (cycle_connected hcur (h.partial_free hcur) s.accepted incoming)
      refine stepKept_of_calls (hstep hcycle) ?_ ?_ hne
      · intro c line hc
        rcases List.mem_cons.mp hc with heq | hc
        · cases heq
        · rw [dispatchLines_eq] at hc
          obtain ⟨text, -, hc⟩ := List.mem_flatMap.mp hc
          rcases mem_dispatchCommand hc with ⟨answer, heq⟩ | heq | heq
          · obtain ⟨rfl, -⟩ := TcpCall.println.inj heq
            exact hauth
          · cases heq
          · cases heq
      · intro cmd hc
        rcases List.mem_cons.mp hc with heq | hc
        · cases heq
        · rw [dispatchLines_eq] at hc
          obtain ⟨line, hline, hc⟩ := List.mem_flatMap.mp hc
          rcases mem_dispatchCommand hc with ⟨answer, heq⟩ | heq | heq
          · cases heq
          · cases heq
          · obtain rfl := TcpCall.handleTcpAtCommand.inj heq
            exact ⟨client, hauth, mem_commands_of_line hpart hline⟩

/-- A step keeps to the boundary exactly if it spares a connection that has been told to stop. -/
theorem stepKept_iff (h : Bounded w s os) : StepKept w s os e ↔ SparesStopped s e := by
  cases e with
  | serialCommand env cmd quietUntilMs =>
    refine iff_of_true ?_ trivial
    constructor <;> simp [FirmwareLoop.step]
  | heartbeat snapshot connected =>
    exact iff_of_true (stepKept_heartbeat h snapshot connected) trivial
  | processFrames nowMs queue => exact stepKept_processFrames_iff h
  | cycle env input =>
    refine iff_of_true ?_ trivial
    cases input with
    | arrival ip line token => exact stepKept_arrival w s os ip line token
    | noArrival connected incoming => exact stepKept_noArrival h connected incoming

/-- Nothing crosses the authentication boundary in a run exactly if no frame is drained, with the
monitor on, to a connection that has been told to stop and still says that it is connected. -/
theorem boundaryKept_iff {bridge : CanBridge} {events : List LoopEvent} :
    BoundaryKept bridge events ↔ Guarded FirmwareLoop.step SparesStopped (boot bridge) events := by
  rw [guarded_iff_forall]
  constructor
  · exact fun h u e v he => (stepKept_iff (bounded_run bridge u)).mp (h u e v he)
  · exact fun h u e v he => (stepKept_iff (bounded_run bridge u)).mpr (h u e v he)

end Boundary

section Bench

/-- A dispatcher whose stores accept everything. -/
def benchEnv : AtEnv where
  storeWifi _ _ := true
  loadWifi := none
  storeToken _ := true
  clearWifi := true
  deviceId := List.replicate 16 0xA5
  deviceId_length := rfl
  firmwareBuildVersion := ascii "1.0.0"
  helo_fits := by decide +kernel

def benchFrame : CanFrame := ⟨0x123, 2, [1, 2, 0, 0, 0, 0, 0, 0], rfl⟩

/-- A client is refused and keeps its connection open; `ATMA` is typed on the serial console, and a
frame comes. -/
def refusedClient : List LoopEvent :=
  [.cycle benchEnv (.arrival (ascii "10.0.0.3") (ascii "AUTH guess") (ascii "secret")),
    .serialCommand benchEnv (ascii "ATMA") 900,
    .processFrames 1000 [(benchFrame, true)]]

/-- The refused client gets the frame. -/
theorem not_boundaryKept_refused : ¬ BoundaryKept { initialized := true } refusedClient := by
  intro h
  have hstep := h (refusedClient.take 2) (.processFrames 1000 [(benchFrame, true)]) [] rfl
  have hprint := hstep.frames 0 (frameString benchFrame)
    (tcpPrint_mem_step.mpr
      ⟨rfl, by decide +kernel, rfl, benchFrame, List.mem_singleton_self _, rfl⟩)
  obtain ⟨line, token, hl, ht⟩ := hprint
  obtain ⟨rfl, rfl⟩ := Prod.mk.inj (Option.some.inj hl)
  exact absurd ht (by decide +kernel)

end Bench

end VehicleSpy.Firmware.AuthBoundary
