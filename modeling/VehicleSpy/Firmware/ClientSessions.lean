import VehicleSpy.Firmware.AuthBoundary

/-! # Client sessions

A session begins with an accepted first line and lasts until the client drops or the next
connection arrives. The bytes of the client are cut into commands in the same way however the
ticks receive them. A session that is replaced is stopped without a report.
-/

namespace VehicleSpy.Firmware.ClientSessions

open Machine TcpServerManager FirmwareLoop AuthBoundary

open Text hiding trim

/-- The manager with the number of connections accepted so far. -/
structure Listener where
  manager : TcpServerManager := {}
  accepted : ClientId := 0
  deriving DecidableEq, Repr

def tick (s : Listener) (input : CycleInput) : Listener × List TcpCall :=
  let (m, calls) := s.manager.cycle s.accepted input
  (⟨m, if isArrival input then s.accepted + 1 else s.accepted⟩, calls)

section Commands

/-- What a keepalive asks to have sent back. -/
def pingText (cmd : Bytes) : Option Bytes :=
  if startsWith (ascii "PING ") cmd ∧ trim (cmd.drop 5) ≠ [] then some (cmd.drop 5) else none

/-- What is owed to a command: the reply to a keepalive, else its dispatch. -/
def perform (client : ClientId) (cmd : Bytes) : List TcpCall :=
  match pingText cmd with
  | some x => [.println client (ascii "PONG " ++ x), .flush client]
  | none => [.handleTcpAtCommand cmd]

/-- The commands in a stream: its closed lines, trimmed, without the empty ones. -/
def framedCommands (stream : Bytes) : List Bytes :=
  ((segments (· == CR) stream).map trim).filter (· ≠ [])

def isPoll : TcpCall → Bool
  | .readAvailableLine _ _ => true
  | _ => false

/-- The listener after a connection has arrived. -/
def connect (s : Listener) (ip line token : Bytes) : Listener :=
  (tick s (.arrival ip line token)).1

theorem isWs_of_trim_eq_nil {x : Bytes} (h : trim x = []) : ∀ c ∈ x, isWs c = true := by
  have hdrop := List.rdropWhile_eq_nil_iff.mp h
  intro c hc
  rw [← List.takeWhile_append_dropWhile (p := isWs) (l := x)] at hc
  rcases List.mem_append.mp hc with hc | hc
  · exact List.mem_takeWhile_imp hc
  · exact hdrop c hc

/-- A trimmed text does not end in white space. -/
theorem trim_ne_append {v x line : Bytes} (hx : x ≠ []) (hall : ∀ c ∈ x, isWs c = true) :
    trim line ≠ v ++ x := by
  intro h
  have hne : trim line ≠ [] := by simp [h, hx]
  have hlast : isWs ((trim line).getLast hne) = false :=
    Bool.eq_false_iff.mpr (List.rdropWhile_last_not isWs (line.dropWhile isWs) hne)
  have hmem : (trim line).getLast hne ∈ x := by
    simp only [h, List.getLast_append_of_ne_nil _ hx]
    exact List.getLast_mem hx
  rw [hall _ hmem] at hlast
  cases hlast

/-- A trimmed command that begins as a keepalive has something to send back. -/
theorem pingText_trim (line : Bytes) :
    pingText (trim line) =
      if startsWith (ascii "PING ") (trim line) then some ((trim line).drop 5) else none := by
  unfold pingText
  by_cases hp : startsWith (ascii "PING ") (trim line) = true
  · rw [if_pos hp, if_pos]
    refine ⟨hp, ?_⟩
    intro hblank
    obtain ⟨x, hx⟩ := startsWith_iff.mp hp
    have hdrop : (trim line).drop 5 = x := by
      rw [← hx]
      rfl
    have hall : ∀ c ∈ SP :: x, isWs c = true := by
      rintro c (_ | ⟨_, hc⟩)
      · decide
      · exact isWs_of_trim_eq_nil (hdrop ▸ hblank) c hc
    exact trim_ne_append (v := ascii "PING") (List.cons_ne_nil SP x) hall hx.symm
  · rw [if_neg hp, if_neg fun h => hp h.1]

theorem dispatchCommand_eq (client : ClientId) (line : Bytes) :
    dispatchCommand client line = if trim line = [] then [] else perform client (trim line) := by
  rw [dispatchCommand, perform, pingText_trim]
  split
  · rfl
  · split <;> rfl

/-- The complete lines of a buffer are performed command by command. -/
theorem dispatchLines_perform (client : ClientId) (p : Bytes) :
    (dispatchLines client p).2 = (framedCommands p).flatMap (perform client) := by
  rw [dispatchLines_eq, framedCommands]
  simp only
  induction segments (· == CR) p with
  | nil => rfl
  | cons line lines ih =>
    rw [List.flatMap_cons, ih, dispatchCommand_eq, List.map_cons]
    by_cases ht : trim line = []
    · rw [if_pos ht, List.filter_cons_of_neg (by simpa using ht), List.nil_append]
    · rw [if_neg ht, List.filter_cons_of_pos (by simpa using ht), List.flatMap_cons]

theorem framedCommands_append (u v : Bytes) :
    framedCommands (u ++ v) =
      framedCommands u ++ framedCommands (remainder (· == CR) u ++ v) := by
  rw [framedCommands, segments_append, List.map_append, List.filter_append]
  rfl

theorem isPoll_perform {client : ClientId} {cmd : Bytes} {call : TcpCall}
    (h : call ∈ perform client cmd) : isPoll call = false := by
  unfold perform at h
  split at h
  · simp only [List.mem_cons, List.not_mem_nil, or_false] at h
    rcases h with rfl | rfl <;> rfl
  · rw [List.mem_singleton.mp h]
    rfl

/-- A tick in which the client is connected performs the commands that its bytes complete. -/
theorem tick_connected {s : Listener} {client : ClientId}
    (hcur : s.manager.current = some client)
    (hfree : ∀ c ∈ s.manager.partialLine, (c == CR) = false) (incoming : Bytes) :
    (tick s (.noArrival true incoming)).1 = { s with manager := { s.manager with
        partialLine := remainder (· == CR) (s.manager.partialLine ++ incoming) } } ∧
      (tick s (.noArrival true incoming)).2.filter (!isPoll ·) =
        (framedCommands (s.manager.partialLine ++ incoming)).flatMap (perform client) := by
  have hnone : ∀ call ∈ (framedCommands (s.manager.partialLine ++ incoming)).flatMap
      (perform client), isPoll call = false := by
    intro call hcall
    obtain ⟨cmd, -, hcmd⟩ := List.mem_flatMap.mp hcall
    exact isPoll_perform hcmd
  simp only [tick, cycle_connected hcur hfree, isArrival, dispatchLines_perform]
  refine ⟨by rw [dispatchLines_eq]; rfl, ?_⟩
  rw [List.filter_cons_of_neg (by simp [isPoll]), List.filter_eq_self]
  intro call hcall
  rw [hnone call hcall]
  rfl

/-- The bytes of the ticks so far are performed up to the last complete line. -/
theorem ticks_connected {s : Listener} {client : ClientId}
    (hcur : s.manager.current = some client) (hnil : s.manager.partialLine = [])
    (incomings : List Bytes) :
    after tick s (incomings.map (.noArrival true)) = { s with manager := { s.manager with
        partialLine := remainder (· == CR) incomings.flatten } } ∧
      (emitted tick s (incomings.map (.noArrival true))).filter (!isPoll ·) =
        (framedCommands incomings.flatten).flatMap (perform client) := by
  induction incomings using List.reverseRecOn with
  | nil =>
    obtain ⟨⟨current, clientIp, partialLine⟩, accepted⟩ := s
    obtain rfl := hnil
    exact ⟨rfl, rfl⟩
  | append_singleton incomings incoming ih =>
    obtain ⟨hstate, hcalls⟩ := ih
    rw [List.map_append, List.map_singleton, after_concat, emitted_concat, hstate,
      List.filter_append, hcalls, List.flatten_append, List.flatten_singleton,
      remainder_append, framedCommands_append, List.flatMap_append]
    obtain ⟨hnext, hnew⟩ := tick_connected (s := { s with manager := { s.manager with
      partialLine := remainder (· == CR) incomings.flatten } }) hcur (remainder_free _) incoming
    rw [hnext, hnew]
    exact ⟨rfl, rfl⟩

theorem connect_authenticated (s : Listener) (ip : Bytes) {line token : Bytes}
    (hauth : isValidAuthToken (trim line) token = true) :
    connect s ip line token = ⟨⟨some s.accepted, ip, []⟩, s.accepted + 1⟩ := by
  simp [connect, tick, cycle, adopt, authenticate, hauth, isArrival]

/-- However the ticks receive the stream of an authenticated client, each of its commands is
performed once and in order, and what follows the last line end waits. -/
theorem commands_framed_once (s : Listener) (ip : Bytes) {line token : Bytes}
    (hauth : isValidAuthToken (trim line) token = true) (incomings : List Bytes) :
    (emitted tick (connect s ip line token) (incomings.map (.noArrival true))).filter
        (!isPoll ·) = (framedCommands incomings.flatten).flatMap (perform s.accepted) ∧
      (after tick (connect s ip line token)
        (incomings.map (.noArrival true))).manager.partialLine =
          remainder (· == CR) incomings.flatten := by
  rw [connect_authenticated s ip hauth]
  obtain ⟨hstate, hcalls⟩ := ticks_connected
    (s := ⟨⟨some s.accepted, ip, []⟩, s.accepted + 1⟩) rfl rfl incomings
  rw [hstate]
  exact ⟨hcalls, rfl⟩

theorem commands_framed_once_split :
    isValidAuthToken (trim (ascii "AUTH key\n")) (ascii "key") = true ∧
      (emitted tick (connect {} (ascii "10.0.0.2") (ascii "AUTH key\n") (ascii "key"))
        (([ascii "AT", [], ascii "I\rPING 7\r\r\nATM", ascii "A\rPI"].map (.noArrival true)))
        ).filter (!isPoll ·) =
        [.handleTcpAtCommand (ascii "ATI"), .println 0 (ascii "PONG 7"), .flush 0,
          .handleTcpAtCommand (ascii "ATMA")] := by
  have hauth : isValidAuthToken (trim (ascii "AUTH key\n")) (ascii "key") = true := by decide
  refine ⟨hauth, ?_⟩
  rw [(commands_framed_once {} (ascii "10.0.0.2") hauth _).1]
  decide +kernel

end Commands

section Sessions

/-- The calls that report on a session: its begin, its end, a refusal, a new discovery. -/
def isReport : TcpCall → Bool
  | .onClientConnected _ | .onAuthFailed _ | .onClientDisconnected _ _ => true
  | .resetDiscoveryBackoff => true
  | _ => false

def reports (calls : List TcpCall) : List TcpCall := calls.filter isReport

/-- The last connection was accepted, and no tick after its arrival has found it dropped. -/
def LiveSession (u : List CycleInput) (client : ClientId) (ip : Bytes) : Prop :=
  ∃ x line token y, u = x ++ .arrival ip line token :: y ∧ client = x.countP isArrival ∧
    isValidAuthToken (trim line) token = true ∧ ∀ e ∈ y, ∃ incoming, e = .noArrival true incoming

/-- Refusals, sessions that begin, and sessions that begin and end with a drop. -/
inductive SessionLog : List TcpCall → Prop
  | nil : SessionLog []
  | refused {r : List TcpCall} (h : SessionLog r) (ip : Bytes) :
    SessionLog (r ++ [.onAuthFailed ip])
  | begun {r : List TcpCall} (h : SessionLog r) (ip : Bytes) :
    SessionLog (r ++ [.onClientConnected ip])
  | dropped {r : List TcpCall} (h : SessionLog r) (ip : Bytes) :
    SessionLog (r ++ [.onClientConnected ip, .resetDiscoveryBackoff, .onClientDisconnected ip 0])

/-- What the tick behind `u` reports, and what the run up to there has reported. -/
structure SessionsReported (u : List CycleInput) : Prop where
  accepted : ∀ ip line token, isValidAuthToken (trim line) token = true →
    reports (tick (after tick {} u) (.arrival ip line token)).2 = [.onClientConnected ip]
  refused : ∀ ip line token, isValidAuthToken (trim line) token = false →
    reports (tick (after tick {} u) (.arrival ip line token)).2 = [.onAuthFailed ip]
  replaced : ∀ client ip, LiveSession u client ip → ∀ ip' line token,
    .stop client ∈ (tick (after tick {} u) (.arrival ip' line token)).2
  dropped : ∀ client ip, LiveSession u client ip → ∀ incoming,
    reports (tick (after tick {} u) (.noArrival false incoming)).2 =
      [.resetDiscoveryBackoff, .onClientDisconnected ip 0]
  silent : (∀ client ip, ¬ LiveSession u client ip) → ∀ connected incoming,
    reports (tick (after tick {} u) (.noArrival connected incoming)).2 = []
  staying : ∀ incoming, reports (tick (after tick {} u) (.noArrival true incoming)).2 = []
  log : SessionLog (reports (emitted tick {} u))

variable {s : Listener} {u : List CycleInput} {client : ClientId}
  {ip ip' line token incoming : Bytes}

theorem accepted_after (u : List CycleInput) :
    (after tick {} u).accepted = u.countP isArrival := by
  induction u using List.reverseRecOn with
  | nil => rfl
  | append_singleton u e ih =>
    rw [after_concat, List.countP_append, ← ih]
    cases e <;> simp [tick, isArrival]

theorem liveSession_arrival : LiveSession (u ++ [.arrival ip line token]) client ip' ↔
    client = u.countP isArrival ∧ ip' = ip ∧ isValidAuthToken (trim line) token = true := by
  constructor
  · rintro ⟨x, line', token', y, hu, rfl, hv, hy⟩
    rcases List.eq_nil_or_concat' y with rfl | ⟨y, e, rfl⟩
    · obtain ⟨rfl, he⟩ := List.append_inj' hu rfl
      cases he
      exact ⟨rfl, rfl, hv⟩
    · obtain ⟨inc, rfl⟩ := hy e (by simp)
      rw [← List.cons_append, ← List.append_assoc] at hu
      obtain ⟨-, he⟩ := List.append_inj' hu rfl
      cases he
  · rintro ⟨rfl, rfl, hv⟩
    exact ⟨u, line, token, [], rfl, rfl, hv, by simp⟩

theorem liveSession_noArrival {connected : Bool} :
    LiveSession (u ++ [.noArrival connected incoming]) client ip ↔
      connected = true ∧ LiveSession u client ip := by
  constructor
  · rintro ⟨x, line, token, y, hu, rfl, hv, hy⟩
    rcases List.eq_nil_or_concat' y with rfl | ⟨y, e, rfl⟩
    · obtain ⟨-, he⟩ := List.append_inj' hu rfl
      cases he
    · obtain ⟨inc, rfl⟩ := hy e (by simp)
      rw [← List.cons_append, ← List.append_assoc] at hu
      obtain ⟨rfl, he⟩ := List.append_inj' hu rfl
      cases he
      exact ⟨rfl, x, line, token, y, rfl, rfl, hv, fun e he => hy e (by simp [he])⟩
  · rintro ⟨rfl, x, line, token, y, rfl, rfl, hv, hy⟩
    refine ⟨x, line, token, y ++ [.noArrival true incoming], by simp, rfl, hv, ?_⟩
    intro e he
    rcases List.mem_append.mp he with he | he
    · exact hy e he
    · exact ⟨incoming, List.mem_singleton.mp he⟩

/-- The current client is the client of the live session, known by its address. -/
theorem current_iff (u : List CycleInput) (client : ClientId) (ip : Bytes) :
    LiveSession u client ip ↔ (after tick {} u).manager.current = some client ∧
      (after tick {} u).manager.clientIp = ip := by
  induction u using List.reverseRecOn with
  | nil => simp [LiveSession]
  | append_singleton u e ih =>
    rw [after_concat]
    cases e with
    | arrival ip' line token =>
      rw [liveSession_arrival, ← accepted_after, eq_comm, eq_comm (a := ip)]
      cases hv : isValidAuthToken (trim line) token <;>
        simp [tick, cycle, adopt, authenticate, hv]
    | noArrival connected incoming =>
      rw [liveSession_noArrival, ih]
      cases hcur : (after tick {} u).manager.current with
      | none => simp [tick, cycle, hcur]
      | some c => cases connected <;> simp [tick, cycle, hcur]

theorem reports_append (calls calls' : List TcpCall) :
    reports (calls ++ calls') = reports calls ++ reports calls' := List.filter_append ..

theorem reports_arrival (s : Listener) (ip line token : Bytes) :
    reports (tick s (.arrival ip line token)).2 =
      if isValidAuthToken (trim line) token then [.onClientConnected ip]
      else [.onAuthFailed ip] := by
  simp only [tick, cycle, adopt, authenticate]
  cases isValidAuthToken (trim line) token <;> cases s.manager.current <;> rfl

theorem reports_dispatchLines (client : ClientId) (p : Bytes) :
    reports (dispatchLines client p).2 = [] := by
  rw [reports, List.filter_eq_nil_iff, dispatchLines_eq]
  intro call hcall
  obtain ⟨line, -, hline⟩ := List.mem_flatMap.mp hcall
  rcases mem_dispatchCommand hline with ⟨text, rfl⟩ | rfl | rfl <;> simp [isReport]

theorem reports_noArrival (s : Listener) (connected : Bool) (incoming : Bytes) :
    reports (tick s (.noArrival connected incoming)).2 =
      if s.manager.current = none ∨ connected = true then []
      else [.resetDiscoveryBackoff, .onClientDisconnected s.manager.clientIp 0] := by
  cases hcur : s.manager.current with
  | none => simp [tick, cycle, hcur, reports]
  | some client =>
    cases connected
    · simp [tick, cycle, hcur, reports, isReport]
    · have hlines := reports_dispatchLines client (s.manager.partialLine ++ incoming)
      by_cases hi : incoming = []
      · simp [tick, cycle, hcur, reports, isReport, hi]
      · simpa [tick, cycle, hcur, reports, isReport, hi] using hlines

theorem not_live_iff : (∀ client ip, ¬ LiveSession u client ip) ↔
    (after tick {} u).manager.current = none := by
  simp only [current_iff]
  cases (after tick {} u).manager.current <;> simp

/-- The reports of a run; those of a live session end with its begin. -/
theorem sessionLog_run (u : List CycleInput) : SessionLog (reports (emitted tick {} u)) ∧
    ∀ client ip, LiveSession u client ip → ∃ r, SessionLog r ∧
      reports (emitted tick {} u) = r ++ [.onClientConnected ip] := by
  induction u using List.reverseRecOn with
  | nil => exact ⟨.nil, fun client ip h => by simp [LiveSession] at h⟩
  | append_singleton u e ih =>
    obtain ⟨hlog, hlive⟩ := ih
    rw [emitted_concat, reports_append]
    cases e with
    | arrival ip line token =>
      rw [reports_arrival]
      cases hv : isValidAuthToken (trim line) token
      · refine ⟨hlog.refused ip, ?_⟩
        intro client ip' h
        obtain ⟨-, -, hv'⟩ := liveSession_arrival.mp h
        rw [hv] at hv'
        cases hv'
      · refine ⟨hlog.begun ip, ?_⟩
        intro client ip' h
        obtain ⟨-, rfl, -⟩ := liveSession_arrival.mp h
        exact ⟨_, hlog, rfl⟩
    | noArrival connected incoming =>
      rw [reports_noArrival]
      by_cases hquiet : (after tick {} u).manager.current = none ∨ connected = true
      · rw [if_pos hquiet, List.append_nil]
        refine ⟨hlog, ?_⟩
        intro client ip h
        exact hlive client ip (liveSession_noArrival.mp h).2
      · rw [if_neg hquiet]
        obtain ⟨hsome, hdown⟩ := not_or.mp hquiet
        obtain ⟨client, hcur⟩ := Option.ne_none_iff_exists'.mp hsome
        obtain ⟨r, hr, heq⟩ := hlive client _ ((current_iff u client _).mpr ⟨hcur, rfl⟩)
        constructor
        · rw [heq, List.append_assoc]
          exact hr.dropped _
        · intro client' ip' h
          exact absurd (liveSession_noArrival.mp h).1 hdown

/-- Each session is reported once when it begins and once when it is dropped; a refusal is
reported as such, and a session that is replaced is stopped without a report. -/
theorem sessions_reported (u : List CycleInput) : SessionsReported u where
  accepted := by
    intro ip line token hv
    rw [reports_arrival, if_pos hv]
  refused := by
    intro ip line token hv
    rw [reports_arrival, hv]
    rfl
  replaced := by
    intro client ip h ip' line token
    obtain ⟨hcur, -⟩ := (current_iff u client ip).mp h
    simp only [tick, cycle, adopt, hcur]
    simp
  dropped := by
    intro client ip h incoming
    obtain ⟨hcur, rfl⟩ := (current_iff u client ip).mp h
    rw [reports_noArrival, if_neg (by simp [hcur])]
  silent := by
    intro h connected incoming
    rw [reports_noArrival, if_pos (Or.inl (not_live_iff.mp h))]
  staying := by
    intro incoming
    rw [reports_noArrival, if_pos (Or.inr rfl)]
  log := (sessionLog_run u).1

/-- The callbacks for begin and end of a session strictly alternate, begin first. -/
def Alternate : List TcpCall → Prop
  | [] => True
  | [.onClientConnected _] => True
  | .onClientConnected _ :: .onClientDisconnected _ _ :: calls => Alternate calls
  | _ => False

def isSessionCallback : TcpCall → Bool
  | .onClientConnected _ | .onClientDisconnected _ _ => true
  | _ => false

/-- A client that replaces another is reported without an end of the other's session. -/
theorem not_alternate_replacement : ¬ Alternate
    ((emitted tick {} [.arrival (ascii "10.0.0.2") (ascii "AUTH key") (ascii "key"),
      .arrival (ascii "10.0.0.3") (ascii "AUTH key") (ascii "key")]).filter isSessionCallback) := by
  have hcalls : (emitted tick {} [.arrival (ascii "10.0.0.2") (ascii "AUTH key") (ascii "key"),
      .arrival (ascii "10.0.0.3") (ascii "AUTH key") (ascii "key")]).filter isSessionCallback =
      [.onClientConnected (ascii "10.0.0.2"), .onClientConnected (ascii "10.0.0.3")] := by
    decide +kernel
  rw [hcalls]
  exact id

end Sessions

end VehicleSpy.Firmware.ClientSessions
