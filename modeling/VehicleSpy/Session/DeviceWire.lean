import VehicleSpy.Firmware.ClientSessions
import VehicleSpy.Pipeline.HeloRoundTrip

/-! # What the device writes to a connection

The answer to the first line, replies to commands, heartbeats and CAN frames share one stream. On
a connection that has authenticated it is the answer and then whole messages, among which each
command of the client has its reply, once and in order. A connection that was refused gets its
answer and no more, but for frames while it stands in the global slot with the monitor on.
-/

namespace VehicleSpy.Session

open Firmware Machine TcpServerManager FirmwareLoop AuthBoundary ClientSessions

open Text hiding trim

open AtCommandDispatcher (handleTcpCommand)

open Pipeline.HeloRoundTrip (sentBytes)

/-- `println` of a C string. -/
def printlnBytes (line : Bytes) : Bytes := cString line ++ [CR, LF]

/-- What the dispatcher prints for a command in a step of the loop. -/
def dispatched : LoopEvent → Bytes → Bytes
  | .cycle env _, cmd => sentBytes (handleTcpCommand env cmd)
  | _, _ => []

/-- The bytes that a call writes to the connection; the dispatcher and the bridge write to the
one in the global slot. -/
def bytesWritten (client : ClientId) (slot : Option ClientId) (reply : Bytes → Bytes) :
    LoopCall → Bytes
  | .tcp (.println c line) => if c = client then printlnBytes line else []
  | .tcp (.handleTcpAtCommand cmd) => if slot = some client then reply cmd else []
  | .bridge c (.tcpPrint str) => if c = some client then str else []
  | _ => []

/-- A step of the loop with the bytes that it writes to the connection. -/
def wireStep (client : ClientId) (s : FirmwareLoop) (e : LoopEvent) :
    FirmwareLoop × List Byte :=
  let (s', calls) := s.step e
  (s', calls.flatMap (bytesWritten client s'.client (dispatched e)))

/-- All that the device writes to the connection. -/
def wire (client : ClientId) (bridge : CanBridge) (events : List LoopEvent) : Bytes :=
  emitted (wireStep client) (boot bridge) events

/-- What stands behind the answer to the first line. -/
inductive Message where
  | frame (msg : CanFrame)
  | heartbeat (snapshot : Bytes)
  | reply (env : AtEnv) (cmd : Bytes)

/-- What is owed to a command. -/
def replyText (env : AtEnv) (cmd : Bytes) : Bytes :=
  match pingText cmd with
  | some x => printlnBytes (ascii "PONG " ++ x)
  | none => sentBytes (handleTcpCommand env cmd)

namespace Message

def text : Message → Bytes
  | frame msg => frameString msg
  | heartbeat snapshot => printlnBytes snapshot
  | reply env cmd => replyText env cmd

/-- The command that a message answers. -/
def command : Message → Option Bytes
  | reply _ cmd => some cmd
  | _ => none

/-- The step that a message comes from. -/
def From (e : LoopEvent) : Message → Prop
  | frame msg => ∃ nowMs queue, e = .processFrames nowMs queue ∧ (msg, true) ∈ queue
  | heartbeat snapshot => e = .heartbeat snapshot true
  | reply env _ => ∃ incoming, e = .cycle env (.noArrival true incoming)

end Message

/-- The answer to a first line. -/
def answer (accepted : Bool) : Bytes :=
  printlnBytes (if accepted then ascii "OK" else ascii "ERROR unauthorized")

section Step

variable {w : List LoopEvent} {s : FirmwareLoop} {os : List LoopCall} {e : LoopEvent}
  {client : ClientId}

theorem wireStep_snd (client : ClientId) (s : FirmwareLoop) (e : LoopEvent) :
    (wireStep client s e).2 =
      (s.step e).2.flatMap (bytesWritten client (s.step e).1.client (dispatched e)) := rfl

/-- What a step that is not the connection's arrival adds to its stream: messages of this step,
with a reply for each command that the step completes, and without authentication none but frames
that a step drains to a stopped connection. -/
structure Adds (w : List LoopEvent) (s : FirmwareLoop) (os : List LoopCall) (e : LoopEvent)
    (client : ClientId) (ms : List Message) : Prop where
  bytes : (wireStep client s e).2 = ms.flatMap Message.text
  commands : framedCommands (sent client (os ++ (s.step e).2)) =
    framedCommands (sent client os) ++ ms.filterMap Message.command
  origin : ∀ m ∈ ms, m.From e
  authenticated : ∀ m ∈ ms, Authenticated w client ∨
    (∃ msg, m = .frame msg) ∧ client < s.accepted ∧ ¬ SparesStopped s e

theorem framedCommands_eq (hs : sent client (s.step e).2 = []) :
    framedCommands (sent client (os ++ (s.step e).2)) = framedCommands (sent client os) := by
  rw [sent_append, hs, List.append_nil]

/-- A step that reads and writes nothing of the connection adds nothing. -/
theorem adds_nil (hw : (wireStep client s e).2 = []) (hs : sent client (s.step e).2 = []) :
    Adds w s os e client [] := by
  constructor
  · exact hw
  · rw [framedCommands_eq hs]
    exact (List.append_nil _).symm
  · exact List.forall_mem_nil _
  · exact List.forall_mem_nil _

/-- The bytes of manager calls, where nothing is dispatched. -/
theorem flatMap_bytesWritten {calls : List TcpCall} {slot : Option ClientId}
    {reply : Bytes → Bytes} (h : ∀ c line, .println c line ∈ calls → c ≠ client)
    (hd : ∀ cmd, .handleTcpAtCommand cmd ∉ calls) :
    (calls.map LoopCall.tcp).flatMap (bytesWritten client slot reply) = [] := by
  rw [List.flatMap_eq_nil_iff]
  rintro call hcall
  obtain ⟨call, hmem, rfl⟩ := List.mem_map.mp hcall
  cases call with
  | println c line => exact if_neg (h c line hmem)
  | handleTcpAtCommand cmd => exact absurd hmem (hd cmd)
  | _ => rfl

theorem adds_heartbeat (h : Bounded w s os) (snapshot : Bytes) (connected : Bool)
    (client : ClientId) : ∃ ms, Adds w s os (.heartbeat snapshot connected) client ms := by
  have hsent : sent client (s.step (.heartbeat snapshot connected)).2 = [] := by
    apply sent_map_tcp_eq_nil
    intro c incoming
    unfold writeLineToClient
    split
    · split <;> simp
    · simp
  by_cases hcur : s.tcpManager.current = some client ∧ connected = true
  · obtain ⟨hcur, rfl⟩ := hcur
    refine ⟨[.heartbeat snapshot], ⟨?_, ?_, ?_, fun _ _ => Or.inl (h.current client hcur).2.1⟩⟩
    · simp [wireStep, FirmwareLoop.step, writeLineToClient, hcur, bytesWritten, Message.text]
    · rw [framedCommands_eq hsent]
      exact (List.append_nil _).symm
    · rintro m hm
      rw [List.mem_singleton.mp hm]
      rfl
  · refine ⟨[], adds_nil ?_ hsent⟩
    apply flatMap_bytesWritten
    · intro c line hc
      unfold writeLineToClient at hc
      split at hc
      · next c' hc' =>
        split at hc
        · next hconn =>
          obtain ⟨rfl, -⟩ := TcpCall.println.inj (List.mem_singleton.mp hc)
          rintro rfl
          exact hcur ⟨hc', hconn⟩
        · cases hc
      · cases hc
    · intro cmd
      unfold writeLineToClient
      split
      · split <;> simp
      · simp

theorem flatMap_bridge (slot : Option ClientId) (reply : Bytes → Bytes)
    (calls : List BridgeCall) :
    (calls.map (LoopCall.bridge (some client))).flatMap (bytesWritten client slot reply) =
      (tcpPrints calls).flatten := by
  induction calls with
  | nil => rfl
  | cons call calls ih =>
    rw [List.map_cons, List.flatMap_cons, ih]
    cases call with
    | tcpPrint str =>
      rw [bytesWritten, if_pos rfl]
      rfl
    | _ => rfl

theorem adds_processFrames (h : Bounded w s os) (nowMs : UInt32)
    (queue : List (CanFrame × Bool)) (client : ClientId) :
    ∃ ms, Adds w s os (.processFrames nowMs queue) client ms := by
  cases hi : s.canBridge.initialized with
  | false =>
    have hstep : s.step (.processFrames nowMs queue) = (s, []) := by
      simp [FirmwareLoop.step, processFrames_uninitialized hi]
    exact ⟨[], adds_nil (by simp [wireStep, hstep]) (by rw [hstep]; rfl)⟩
  | true =>
    obtain ⟨bridge, quiet, hstep⟩ : ∃ bridge quiet, s.step (.processFrames nowMs queue) =
        ({ s with canBridge := bridge },
          (frameCalls quiet s.canBridge.monitorActive queue).map (.bridge s.client)) := by
      simp only [FirmwareLoop.step, processFrames_eq hi]
      exact ⟨_, _, rfl⟩
    have hsent : sent client (s.step (.processFrames nowMs queue)).2 = [] := by
      rw [hstep, sent, List.flatMap_eq_nil_iff]
      rintro call hcall
      obtain ⟨_, -, rfl⟩ := List.mem_map.mp hcall
      rfl
    by_cases hslot : s.client = some client
    · refine ⟨(queue.filter fun r => r.2 && s.canBridge.monitorActive).map fun r => .frame r.1,
        ⟨?_, ?_, ?_, ?_⟩⟩
      · rw [wireStep, hstep, hslot]
        simp only
        rw [flatMap_bridge, tcpPrints_frameCalls, List.flatMap_map, ← List.flatMap_def]
        rfl
      · rw [framedCommands_eq hsent, List.filterMap_map, List.filterMap_eq_nil_iff.mpr,
          List.append_nil]
        exact fun _ _ => rfl
      · intro m hm
        obtain ⟨⟨msg, connected⟩, hr, rfl⟩ := List.mem_map.mp hm
        obtain ⟨hmsg, hout⟩ := List.mem_filter.mp hr
        obtain ⟨rfl, -⟩ := Bool.and_eq_true_iff.mp hout
        exact ⟨nowMs, queue, rfl, hmsg⟩
      · intro m hm
        obtain ⟨r, hr, rfl⟩ := List.mem_map.mp hm
        obtain ⟨hmsg, hout⟩ := List.mem_filter.mp hr
        obtain ⟨hconnected, hactive⟩ := Bool.and_eq_true_iff.mp hout
        obtain ⟨hlt, hstopped⟩ := h.slot client hslot
        by_cases hauth : Authenticated w client
        · exact Or.inl hauth
        · -- a connection in the slot that has not authenticated was told to stop
          refine Or.inr ⟨⟨r.1, rfl⟩, hlt, fun hspares => ?_⟩
          have hfalse := hspares hi hactive client hslot (hstopped.mpr hauth) r hmsg
          rw [hconnected] at hfalse
          cases hfalse
    · refine ⟨[], adds_nil ?_ hsent⟩
      rw [wireStep, hstep, List.flatMap_eq_nil_iff]
      rintro call hcall
      obtain ⟨call, -, rfl⟩ := List.mem_map.mp hcall
      cases call with
      | tcpPrint str => exact if_neg hslot
      | _ => rfl

/-- The replies to the commands of the client in the slot. -/
theorem flatMap_perform (env : AtEnv) (input : CycleInput) (cmds : List Bytes) :
    ((cmds.flatMap (perform client)).map LoopCall.tcp).flatMap
        (bytesWritten client (some client) (dispatched (.cycle env input))) =
      (cmds.map (Message.reply env)).flatMap Message.text := by
  induction cmds with
  | nil => rfl
  | cons cmd cmds ih =>
    rw [List.flatMap_cons, List.map_append, List.flatMap_append, ih, List.map_cons,
      List.flatMap_cons]
    congr 1
    rw [perform, Message.text, replyText]
    cases pingText cmd with
    | none => simp [bytesWritten, dispatched]
    | some x => simp [bytesWritten]

/-- Nothing of it goes to another connection. -/
theorem bytesWritten_other {c : ClientId} (hc : c ≠ client) (reply : Bytes → Bytes)
    {cmd : Bytes} {call : TcpCall} (h : call ∈ perform c cmd) :
    bytesWritten client (some c) reply (.tcp call) = [] := by
  have hslot : some c ≠ some client := fun heq => hc (Option.some.inj heq)
  unfold perform at h
  split at h
  · simp only [List.mem_cons, List.not_mem_nil, or_false] at h
    rcases h with rfl | rfl
    · exact if_neg hc
    · rfl
  · rw [List.mem_singleton.mp h]
    exact if_neg hslot

theorem adds_noArrival (h : Bounded w s os) (env : AtEnv) (connected : Bool) (incoming : Bytes)
    (client : ClientId) :
    ∃ ms, Adds w s os (.cycle env (.noArrival connected incoming)) client ms := by
  rcases hcur : s.tcpManager.current with _ | c
  · have hcalls : (s.step (.cycle env (.noArrival connected incoming))).2 = [] := by
      simp [FirmwareLoop.step, runCycle, cycle, hcur]
    refine ⟨[], adds_nil ?_ (by rw [hcalls]; rfl)⟩
    rw [wireStep_snd, hcalls]
    rfl
  · obtain ⟨hslot, hauth, hpart⟩ := h.current c hcur
    cases connected with
    | false =>
      have hcalls : (s.step (.cycle env (.noArrival false incoming))).2 =
          [.tcp (.setMonitorActive false), .tcp .resetDiscoveryBackoff,
            .tcp (.onClientDisconnected s.tcpManager.clientIp 0)] := by
        simp [FirmwareLoop.step, runCycle, cycle, hcur]
      refine ⟨[], adds_nil ?_ (by rw [hcalls]; rfl)⟩
      rw [wireStep_snd, hcalls]
      rfl
    | true =>
      have hcalls : (s.step (.cycle env (.noArrival true incoming))).2 =
          .tcp (.readAvailableLine c incoming) ::
            ((framedCommands (s.tcpManager.partialLine ++ incoming)).flatMap
              (perform c)).map .tcp := by
        rw [← dispatchLines_perform]
        exact congrArg (List.map LoopCall.tcp) (congrArg Prod.snd
          (cycle_connected hcur (h.partial_free hcur) s.accepted incoming))
      have hsent : sent client (s.step (.cycle env (.noArrival true incoming))).2 =
          if c = client then incoming else [] := by
        have hlines := sent_dispatchLines client c (s.tcpManager.partialLine ++ incoming)
        rw [dispatchLines_perform] at hlines
        rw [hcalls, sent_cons, hlines, List.append_nil]
        rfl
      have hslot' : (s.step (.cycle env (.noArrival true incoming))).1.client = some c := hslot
      by_cases hc : c = client
      · subst hc
        refine ⟨(framedCommands (s.tcpManager.partialLine ++ incoming)).map (.reply env),
          ⟨?_, ?_, ?_, fun _ _ => Or.inl hauth⟩⟩
        · rw [wireStep_snd, hcalls, hslot']
          exact flatMap_perform env _ _
        · rw [sent_append, hsent, if_pos rfl, framedCommands_append, ← hpart,
            List.filterMap_map]
          congr 1
          exact (List.filterMap_some).symm
        · rintro m hm
          obtain ⟨cmd, -, rfl⟩ := List.mem_map.mp hm
          exact ⟨incoming, rfl⟩
      · refine ⟨[], adds_nil ?_ (by rw [hsent, if_neg hc])⟩
        rw [wireStep_snd, hcalls, hslot', List.flatMap_eq_nil_iff]
        rintro call (_ | ⟨_, hcall⟩)
        · rfl
        · obtain ⟨call, hmem, rfl⟩ := List.mem_map.mp hcall
          obtain ⟨cmd, -, hmem⟩ := List.mem_flatMap.mp hmem
          exact bytesWritten_other hc _ hmem

theorem println_arrival {m : TcpServerManager} {next c : ClientId} {ip first token line : Bytes}
    (h : .println c line ∈ (m.cycle next (.arrival ip first token)).2) : c = next := by
  simp only [cycle, adopt, authenticate] at h
  split at h <;> split at h <;> simp at h <;> exact h.1

/-- An arrival writes to no other connection. -/
theorem adds_arrival (env : AtEnv) (ip line token : Bytes) (hc : client ≠ s.accepted) :
    Adds w s os (.cycle env (.arrival ip line token)) client [] := by
  obtain ⟨before, rest, hcalls, -, hmute⟩ := cycle_arrival s.tcpManager s.accepted ip line token
  have hnone : ((s.tcpManager.cycle s.accepted (.arrival ip line token)).2.map LoopCall.tcp).flatMap
      (bytesWritten client (some s.accepted) (dispatched (.cycle env (.arrival ip line token)))) =
      [] := by
    apply flatMap_bytesWritten
    · rintro c text hmem rfl
      exact hc (println_arrival hmem)
    · intro cmd hmem
      rw [hcalls] at hmem
      exact (hmute _ hmem).1 cmd rfl
  apply adds_nil
  · exact hnone
  · exact sent_arrival s.tcpManager s.accepted ip line token client

/-- The connection itself gets the answer to its first line. -/
theorem wireStep_arrival (s : FirmwareLoop) (env : AtEnv) (ip line token : Bytes) :
    (wireStep s.accepted s (.cycle env (.arrival ip line token))).2 =
      answer (isValidAuthToken (trim line) token) := by
  rw [wireStep_snd]
  simp only [FirmwareLoop.step, runCycle, cycle, adopt, authenticate]
  cases isValidAuthToken (trim line) token <;> cases s.tcpManager.current <;>
    simp [bytesWritten, answer]

/-- The connection arrives in this step. -/
def Arrives (s : FirmwareLoop) (e : LoopEvent) (client : ClientId) : Prop :=
  ∃ env ip line token, e = .cycle env (.arrival ip line token) ∧ client = s.accepted

theorem exists_adds (h : Bounded w s os) (ha : ¬ Arrives s e client) :
    ∃ ms, Adds w s os e client ms := by
  cases e with
  | serialCommand env cmd quietUntilMs => exact ⟨[], adds_nil rfl rfl⟩
  | heartbeat snapshot connected => exact adds_heartbeat h snapshot connected client
  | processFrames nowMs queue => exact adds_processFrames h nowMs queue client
  | cycle env input =>
    cases input with
    | arrival ip line token =>
      exact ⟨[], adds_arrival env ip line token fun hc => ha ⟨env, ip, line, token, rfl, hc⟩⟩
    | noArrival connected incoming => exact adds_noArrival h env connected incoming client

/-- Only its own arrival makes a connection one that has arrived. -/
theorem lt_arrivals_concat (h : Bounded w s os) (ha : ¬ Arrives s e client) :
    client < (arrivals (w ++ [e])).length ↔ client < (arrivals w).length := by
  rw [arrivals_append, List.length_append]
  cases e with
  | cycle env input =>
    cases input with
    | arrival ip line token =>
      have hne : client ≠ (arrivals w).length := by
        rintro rfl
        exact ha ⟨env, ip, line, token, rfl, h.accepted.symm⟩
      exact Nat.lt_succ_iff.trans ⟨fun hle => lt_of_le_of_ne hle hne, le_of_lt⟩
    | noArrival connected incoming => rfl
  | _ => rfl

end Step

section Run

variable {bridge : CanBridge} {events : List LoopEvent} {client : ClientId}

theorem after_wireStep (client : ClientId) (s : FirmwareLoop) (events : List LoopEvent) :
    after (wireStep client) s events = after FirmwareLoop.step s events := rfl

theorem wire_concat (client : ClientId) (bridge : CanBridge) (w : List LoopEvent)
    (e : LoopEvent) : wire client bridge (w ++ [e]) = wire client bridge w ++
      (wireStep client (after FirmwareLoop.step (boot bridge) w) e).2 := by
  rw [wire, emitted_concat, after_wireStep]
  rfl

/-- The calls of a run. -/
def calls (bridge : CanBridge) (events : List LoopEvent) : List LoopCall :=
  emitted FirmwareLoop.step (boot bridge) events

/-- The stream is the answer and then, event by event, whole messages; the replies among them
answer the connection's commands one by one. -/
structure Streamed (bridge : CanBridge) (events : List LoopEvent) (client : ClientId)
    (parts : List (List Message)) : Prop where
  origin : List.Forall₂ (fun e ms => ∀ m ∈ ms, m.From e) events parts
  bytes : wire client bridge events = answer true ++ parts.flatten.flatMap Message.text
  commands : parts.flatten.filterMap Message.command =
    framedCommands (sent client (calls bridge events))

/-- Each message comes from an event of the run. -/
theorem Streamed.mem {parts : List (List Message)} (h : Streamed bridge events client parts)
    {m : Message} (hm : m ∈ parts.flatten) : ∃ e ∈ events, m.From e := by
  obtain ⟨ms, hms, hm⟩ := List.mem_flatten.mp hm
  obtain ⟨i, hi, rfl⟩ := List.getElem_of_mem hms
  obtain ⟨hlen, hall⟩ := List.forall₂_iff_get.mp h.origin
  exact ⟨_, List.getElem_mem (hlen ▸ hi), hall i (hlen ▸ hi) hi m hm⟩

/-- The stream begins with the answer. -/
theorem streamed_begin (hw : wire client bridge events = answer true)
    (hs : sent client (calls bridge events) = []) :
    Streamed bridge events client (events.map fun _ => []) := by
  have hnil : (events.map fun _ => ([] : List Message)).flatten = [] := by
    simp
  constructor
  · rw [List.forall₂_map_right_iff, List.forall₂_same]
    exact fun _ _ => List.forall_mem_nil _
  · rw [hw, hnil]
    rfl
  · rw [hnil, hs]
    rfl

theorem Streamed.concat {w : List LoopEvent} {e : LoopEvent} {parts : List (List Message)}
    {ms : List Message} (h : Streamed bridge w client parts)
    (hms : Adds w (after FirmwareLoop.step (boot bridge) w) (calls bridge w) e client ms) :
    Streamed bridge (w ++ [e]) client (parts ++ [ms]) := by
  have hcalls : calls bridge (w ++ [e]) = calls bridge w ++
      ((after FirmwareLoop.step (boot bridge) w).step e).2 := emitted_concat ..
  constructor
  · exact List.rel_append h.origin (.cons hms.origin .nil)
  · rw [wire_concat, h.bytes, hms.bytes]
    simp
  · rw [hcalls, hms.commands, ← h.commands]
    simp

/-- What has been written: to a connection that has authenticated its stream, to another that has
arrived its refusal and, where a step drains to a stopped connection, frames. -/
structure Spoken (bridge : CanBridge) (events : List LoopEvent) (client : ClientId) : Prop where
  streamed : Authenticated events client → ∃ parts, Streamed bridge events client parts
  refused : ¬ Authenticated events client → ∃ msgs : List CanFrame,
    wire client bridge events =
      (if client < (arrivals events).length then answer false else []) ++
        msgs.flatMap frameString ∧
    (msgs ≠ [] → client < (arrivals events).length ∧
      ¬ Guarded FirmwareLoop.step SparesStopped (boot bridge) events)

/-- The connection's arrival, to which nothing has been written. -/
theorem Spoken.arrival {w : List LoopEvent} (h : Spoken bridge w client) (env : AtEnv)
    (ip line token : Bytes)
    (hb : Bounded w (after FirmwareLoop.step (boot bridge) w) (calls bridge w))
    (hc : client = (after FirmwareLoop.step (boot bridge) w).accepted) :
    Spoken bridge (w ++ [.cycle env (.arrival ip line token)]) client := by
  subst hc
  have hnew : ¬ (after FirmwareLoop.step (boot bridge) w).accepted < (arrivals w).length :=
    hb.accepted ▸ Nat.lt_irrefl _
  obtain ⟨msgs, hbefore, hmsgs⟩ := h.refused fun hauth => hnew hauth.lt
  obtain rfl : msgs = [] := by
    by_contra hne
    exact hnew (hmsgs hne).1
  have hwire : wire (after FirmwareLoop.step (boot bridge) w).accepted bridge
      (w ++ [.cycle env (.arrival ip line token)]) =
        answer (isValidAuthToken (trim line) token) := by
    rw [wire_concat, hbefore, if_neg hnew, wireStep_arrival]
    rfl
  constructor
  · intro hauth
    rw [authenticated_arrival hb] at hauth
    refine ⟨_, streamed_begin (by rw [hwire, hauth]) ?_⟩
    have hcalls : calls bridge (w ++ [.cycle env (.arrival ip line token)]) =
        calls bridge w ++ _ := emitted_concat ..
    rw [hcalls, sent_append, hb.unread _ le_rfl]
    exact sent_arrival ..
  · intro hauth
    rw [authenticated_arrival hb, Bool.not_eq_true] at hauth
    refine ⟨[], ?_, fun hne => absurd rfl hne⟩
    rw [hwire, hauth, arrivals_append, List.length_append, if_pos]
    · exact (List.append_nil _).symm
    · rw [hb.accepted]
      exact Nat.lt_add_of_pos_right Nat.one_pos

theorem frames_of_forall {ms : List Message} (h : ∀ m ∈ ms, ∃ msg, m = .frame msg) :
    ∃ msgs : List CanFrame, ms = msgs.map .frame := by
  induction ms with
  | nil => exact ⟨[], rfl⟩
  | cons m ms ih =>
    obtain ⟨⟨msg, rfl⟩, hms⟩ := List.forall_mem_cons.mp h
    obtain ⟨msgs, rfl⟩ := ih hms
    exact ⟨msg :: msgs, rfl⟩

/-- Any other step adds messages to a stream, and to a refusal frames if it drains to a stopped
connection. -/
theorem Spoken.step {w : List LoopEvent} {e : LoopEvent} (h : Spoken bridge w client)
    (hb : Bounded w (after FirmwareLoop.step (boot bridge) w) (calls bridge w))
    (ha : ¬ Arrives (after FirmwareLoop.step (boot bridge) w) e client) :
    Spoken bridge (w ++ [e]) client := by
  obtain ⟨ms, hms⟩ := exists_adds hb ha
  have hlt := lt_arrivals_concat hb ha
  have hauth_iff : Authenticated (w ++ [e]) client ↔ Authenticated w client := by
    refine ⟨fun hauth => ?_, fun hauth => hauth.append [e]⟩
    exact (authenticated_append_iff (hlt.mp hauth.lt) [e]).mp hauth
  constructor
  · intro hauth
    obtain ⟨parts, hparts⟩ := h.streamed (hauth_iff.mp hauth)
    exact ⟨_, hparts.concat hms⟩
  · intro hauth
    rw [hauth_iff] at hauth
    obtain ⟨msgs, hwire, hmsgs⟩ := h.refused hauth
    have hframes := fun m hm => (hms.authenticated m hm).resolve_left hauth
    obtain ⟨msgs', rfl⟩ := frames_of_forall fun m hm => (hframes m hm).1
    refine ⟨msgs ++ msgs', ?_, fun hne => ?_⟩
    · rw [wire_concat, hms.bytes, hwire, if_congr hlt rfl rfl, List.flatMap_append,
        List.append_assoc, List.flatMap_map]
      rfl
    · rw [hlt, guarded_append, not_and_or]
      rcases List.eq_nil_or_concat msgs' with rfl | ⟨init, msg, rfl⟩
      · obtain ⟨harrived, hnot⟩ := hmsgs (by rwa [List.append_nil] at hne)
        exact ⟨harrived, Or.inl hnot⟩
      · obtain ⟨-, harrived, hnot⟩ := hframes (.frame msg) (by simp)
        exact ⟨hb.accepted ▸ harrived, Or.inr fun hspares => hnot hspares.1⟩

theorem spoken_run (bridge : CanBridge) (events : List LoopEvent) (client : ClientId) :
    Spoken bridge events client := by
  induction events using List.reverseRecOn with
  | nil =>
    constructor
    · exact fun hauth => absurd hauth.lt (Nat.not_lt_zero _)
    · exact fun _ => ⟨[], rfl, fun hne => absurd rfl hne⟩
  | append_singleton w e ih =>
    have hb : Bounded w (after FirmwareLoop.step (boot bridge) w) (calls bridge w) :=
      bounded_run bridge w
    by_cases ha : Arrives (after FirmwareLoop.step (boot bridge) w) e client
    · obtain ⟨env, ip, line, token, rfl, hc⟩ := ha
      exact ih.arrival env ip line token hb hc
    · exact ih.step hb ha

/-- A connection on which `OK` can be read has authenticated: no refusal and no frame has a `K`. -/
theorem authenticated_of_ok (hin : ascii "OK" <:+: wire client bridge events) :
    Authenticated events client := by
  by_contra hnot
  obtain ⟨msgs, hwire, -⟩ := (spoken_run bridge events client).refused hnot
  have hK : 75 ∈ wire client bridge events := hin.subset (by decide)
  rw [hwire] at hK
  rcases List.mem_append.mp hK with hK | hK
  · split at hK
    · exact absurd hK (by decide +kernel)
    · cases hK
  · obtain ⟨msg, -, hK⟩ := List.mem_flatMap.mp hK
    exact absurd (mem_frameString hK) (by decide)

/-- In every run the device streams whole messages to each connection that has authenticated, and
to another that has arrived its refusal; frames stand behind a refusal only if the run drains to a
stopped connection. -/
theorem wire_streamed (bridge : CanBridge) (events : List LoopEvent) (client : ClientId) :
    (Authenticated events client → ∃ parts, Streamed bridge events client parts) ∧
      (¬ Authenticated events client → ∃ msgs : List CanFrame,
        wire client bridge events =
          (if client < (arrivals events).length then answer false else []) ++
            msgs.flatMap frameString ∧
        (msgs ≠ [] → client < (arrivals events).length ∧
          ¬ Guarded FirmwareLoop.step SparesStopped (boot bridge) events)) :=
  ⟨(spoken_run bridge events client).streamed, (spoken_run bridge events client).refused⟩

/-- On a connection that has authenticated the stream grows by whole messages. -/
theorem Streamed.grows {before : List LoopEvent} {parts : List (List Message)}
    (hs : Streamed bridge before client parts) (hauth : Authenticated before client)
    (rest : List LoopEvent) :
    ∃ parts', Streamed bridge (before ++ rest) client (parts ++ parts') := by
  induction rest using List.reverseRecOn with
  | nil => exact ⟨[], by rwa [List.append_nil, List.append_nil]⟩
  | append_singleton rest e ih =>
    rw [← List.append_assoc]
    obtain ⟨parts', hparts⟩ := ih
    have hb : Bounded (before ++ rest) (after FirmwareLoop.step (boot bridge) (before ++ rest))
        (calls bridge (before ++ rest)) := bounded_run bridge _
    have ha : ¬ Arrives (after FirmwareLoop.step (boot bridge) (before ++ rest)) e client := by
      rintro ⟨env, ip, line, token, rfl, rfl⟩
      exact absurd (hauth.append rest).lt (hb.accepted ▸ Nat.lt_irrefl _)
    obtain ⟨ms, hms⟩ := exists_adds hb ha
    refine ⟨parts' ++ [ms], ?_⟩
    rw [← List.append_assoc]
    exact hparts.concat hms

end Run

end VehicleSpy.Session
