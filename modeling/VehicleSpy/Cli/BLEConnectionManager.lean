import VehicleSpy.Dbc.TranslationService
import VehicleSpy.Machine.Prefixes

/-! # The connection manager of an adapter

The manager opens a link in several steps, starts a poller and cleans up in its destructor. Its
flags say whether it is connected and polling, and for which protocol. The flag for the connection
is set last, and the protocol is overwritten first.
-/

namespace VehicleSpy.Cli

open Machine Dbc

/-- The two pollers of `BLEManager`: `CANMonitor` and `OBD2Polling`. -/
inductive PollerKind | CANMonitor | OBD2Polling
  deriving DecidableEq, Repr

def PollerKind.ofProtocol (protocol : VehicleProtocol) : PollerKind :=
  if protocol = .CAN then .CANMonitor else .OBD2Polling

/-- What the manager calls on `BLEManager`, with the answers, and what `connect` returns. -/
inductive ManagerCall
  | connect (success : Bool)
  | waitForCharacteristics (ready : Bool)
  | initializeAdapter (kind : PollerKind) (success : Bool)
  | onDataReceived
  | start (kind : PollerKind)
  | stop (kind : PollerKind)
  | disconnect
  | returned (success : Bool)
  deriving DecidableEq, Repr

structure BLEConnectionManager where
  isConnected : Bool := false
  polling : Bool := false
  protocol : VehicleProtocol := .OBD2
  deriving DecidableEq, Repr

/-- A call of the owner; `connect` with what its three steps are answered. -/
inductive OwnerCall
  | connect (protocol : VehicleProtocol) (linked ready initialized : Bool)
  | startPolling
  | stopPolling
  | disconnect
  deriving DecidableEq, Repr

namespace BLEConnectionManager

def disconnect (s : BLEConnectionManager) : BLEConnectionManager × List ManagerCall :=
  if s.isConnected then ({ s with isConnected := false }, [.disconnect]) else (s, [])

def connect (s : BLEConnectionManager) (protocol : VehicleProtocol)
    (linked ready initialized : Bool) : BLEConnectionManager × List ManagerCall :=
  let s := { s with protocol := protocol }
  let kind := PollerKind.ofProtocol protocol
  if linked = false then (s, [.connect false, .returned false])
  else if ready = false then
    (s.disconnect.1,
      [.connect true, .waitForCharacteristics false] ++ s.disconnect.2 ++ [.returned false])
  else if initialized = false then
    (s.disconnect.1, [.connect true, .waitForCharacteristics true, .initializeAdapter kind false] ++
      s.disconnect.2 ++ [.returned false])
  else
    ({ s with isConnected := true }, [.connect true, .waitForCharacteristics true,
      .initializeAdapter kind true, .onDataReceived, .returned true])

def startPolling (s : BLEConnectionManager) : BLEConnectionManager × List ManagerCall :=
  if s.isConnected then
    ({ s with polling := true }, [.start (PollerKind.ofProtocol s.protocol)])
  else (s, [])

def stopPolling (s : BLEConnectionManager) : BLEConnectionManager × List ManagerCall :=
  if s.polling then
    ({ s with polling := false }, [.stop (PollerKind.ofProtocol s.protocol)])
  else (s, [])

/-- The destructor's own calls. The destructors of its `BLEManager` come behind them: they cancel a
link that is still open and stop OBD2 polling, but no CAN monitor. -/
def destroy (s : BLEConnectionManager) : List ManagerCall :=
  s.stopPolling.2 ++ s.stopPolling.1.disconnect.2

def step (s : BLEConnectionManager) : OwnerCall → BLEConnectionManager × List ManagerCall
  | .connect protocol linked ready initialized => s.connect protocol linked ready initialized
  | .startPolling => s.startPolling
  | .stopPolling => s.stopPolling
  | .disconnect => s.disconnect

/-- A link was opened and the manager has not closed it since. -/
def LinkLeft (trace : List ManagerCall) : Prop :=
  Unanswered (· = .connect true) (· = .disconnect) trace

/-- A poller was started and not stopped since. -/
def PollerLeft (kind : PollerKind) (trace : List ManagerCall) : Prop :=
  Unanswered (· = .start kind) (· = .stop kind) trace

/-- All calls of a manager that is destroyed after some calls of its owner. -/
def lifetime (calls : List OwnerCall) : List ManagerCall :=
  emitted step {} calls ++ (after step {} calls).destroy

/-- No failed `connect` leaves its link behind, and the destructor leaves nothing. -/
structure LeakFree (calls : List OwnerCall) : Prop where
  connects : ∀ e ∈ history step {} calls, .returned false ∈ e.2 → ¬ LinkLeft e.2
  pollers : ∀ kind, ¬ PollerLeft kind (lifetime calls)
  links : ¬ LinkLeft (lifetime calls)

/-- `connect` does not fail on an open link unless the manager was connected before, and does not
change the poller's kind while one runs. -/
def Tidy (s : BLEConnectionManager) : OwnerCall → Prop
  | .connect protocol linked ready initialized =>
    (linked = true → ready = true ∧ initialized = true ∨ s.isConnected = true) ∧
      (s.polling = true → PollerKind.ofProtocol protocol = PollerKind.ofProtocol s.protocol)
  | _ => True

section Runs

variable {s : BLEConnectionManager} {trace : List ManagerCall} {kind : PollerKind}

/-- The flags know what is left open. -/
structure Tied (trace : List ManagerCall) (s : BLEConnectionManager) : Prop where
  pollers : ∀ kind, PollerLeft kind trace →
    s.polling = true ∧ PollerKind.ofProtocol s.protocol = kind
  links : LinkLeft trace → s.isConnected = true

/-- The destructor closes exactly what the flags know. -/
theorem tied_iff : Tied trace s ↔
    (∀ kind, ¬ PollerLeft kind (trace ++ s.destroy)) ∧ ¬ LinkLeft (trace ++ s.destroy) := by
  have hlink : LinkLeft (trace ++ s.destroy) ↔ LinkLeft trace ∧ s.isConnected = false := by
    cases hp : s.polling <;> cases hc : s.isConnected <;>
      simp [LinkLeft, unanswered_append, destroy, stopPolling, disconnect, hp, hc]
  have hpoller (kind : PollerKind) : PollerLeft kind (trace ++ s.destroy) ↔
      PollerLeft kind trace ∧
        ¬ (s.polling = true ∧ PollerKind.ofProtocol s.protocol = kind) := by
    cases hp : s.polling <;> cases hc : s.isConnected <;>
      simp [PollerLeft, unanswered_append, destroy, stopPolling, disconnect, hp, hc]
  simp only [hpoller, not_and_not_right]
  rw [hlink, not_and, Bool.not_eq_false]
  constructor
  · rintro ⟨hpollers, hlinks⟩
    exact ⟨hpollers, hlinks⟩
  · rintro ⟨hpollers, hlinks⟩
    exact ⟨hpollers, hlinks⟩

theorem leakFree_iff {calls : List OwnerCall} : LeakFree calls ↔
    (∀ e ∈ history step {} calls, .returned false ∈ e.2 → ¬ LinkLeft e.2) ∧
      Tied (emitted step {} calls) (after step {} calls) := by
  rw [tied_iff]
  constructor
  · rintro ⟨hconnects, hpollers, hlinks⟩
    exact ⟨hconnects, hpollers, hlinks⟩
  · rintro ⟨hconnects, hpollers, hlinks⟩
    exact ⟨hconnects, hpollers, hlinks⟩

section Connect

variable {protocol : VehicleProtocol} {linked ready initialized : Bool}

theorem pollerLeft_connect : PollerLeft kind
    (trace ++ (s.connect protocol linked ready initialized).2) ↔ PollerLeft kind trace := by
  cases linked <;> cases ready <;> cases initialized <;> cases hc : s.isConnected <;>
    simp [PollerLeft, unanswered_append, connect, disconnect, hc]

theorem connect_frame (s : BLEConnectionManager) (protocol : VehicleProtocol)
    (linked ready initialized : Bool) :
    (s.connect protocol linked ready initialized).1.polling = s.polling ∧
      (s.connect protocol linked ready initialized).1.protocol = protocol := by
  cases linked <;> cases ready <;> cases initialized <;> cases hc : s.isConnected <;>
    simp [connect, disconnect, hc]

/-- Its failure exits close the link only if the manager was connected before. -/
theorem links_connect_iff (h : LinkLeft trace → s.isConnected = true) :
    ((.returned false ∈ (s.connect protocol linked ready initialized).2 →
        ¬ LinkLeft (s.connect protocol linked ready initialized).2) ∧
      (LinkLeft (trace ++ (s.connect protocol linked ready initialized).2) →
        (s.connect protocol linked ready initialized).1.isConnected = true)) ↔
      (linked = true → ready = true ∧ initialized = true ∨ s.isConnected = true) := by
  cases linked <;> cases ready <;> cases initialized <;> cases hc : s.isConnected <;>
    simp_all [LinkLeft, unanswered_append, connect, disconnect]

theorem tied_connect_iff (h : Tied trace s)
    (hp : s.polling = true → ∃ kind, PollerLeft kind trace) :
    ((.returned false ∈ (s.connect protocol linked ready initialized).2 →
        ¬ LinkLeft (s.connect protocol linked ready initialized).2) ∧
      Tied (trace ++ (s.connect protocol linked ready initialized).2)
        (s.connect protocol linked ready initialized).1) ↔
      Tidy s (.connect protocol linked ready initialized) := by
  obtain ⟨hpolling, hprotocol⟩ := connect_frame s protocol linked ready initialized
  rw [Tidy, ← links_connect_iff h.links]
  constructor
  · rintro ⟨hconnect, hpollers, hlinks⟩
    refine ⟨⟨hconnect, hlinks⟩, ?_⟩
    intro hon
    obtain ⟨kind, hleft⟩ := hp hon
    have hkind := (hpollers kind (pollerLeft_connect.mpr hleft)).2
    rw [hprotocol] at hkind
    rw [hkind, (h.pollers kind hleft).2]
  · rintro ⟨⟨hconnect, hlinks⟩, hsame⟩
    refine ⟨hconnect, ?_, hlinks⟩
    intro kind hleft
    obtain ⟨hon, hkind⟩ := h.pollers kind (pollerLeft_connect.mp hleft)
    rw [hpolling, hprotocol, hsame hon]
    exact ⟨hon, hkind⟩

end Connect

theorem tied_startPolling (h : Tied trace s) :
    Tied (trace ++ s.startPolling.2) s.startPolling.1 := by
  obtain ⟨hpollers, hlinks⟩ := h
  cases hc : s.isConnected with
  | false => simpa [startPolling, hc] using Tied.mk hpollers hlinks
  | true =>
    constructor
    · intro kind hleft
      have hkind : PollerKind.ofProtocol s.protocol = kind ∨ PollerLeft kind trace := by
        simpa [PollerLeft, unanswered_append, startPolling, hc] using hleft
      rcases hkind with rfl | hleft
      · simp [startPolling, hc]
      · simpa [startPolling, hc] using (hpollers kind hleft).2
    · simp [startPolling, hc]

theorem tied_stopPolling (h : Tied trace s) : Tied (trace ++ s.stopPolling.2) s.stopPolling.1 := by
  obtain ⟨hpollers, hlinks⟩ := h
  cases hp : s.polling with
  | false => simpa [stopPolling, hp] using Tied.mk hpollers hlinks
  | true =>
    constructor
    · intro kind hleft
      have hkind : PollerLeft kind trace ∧ PollerKind.ofProtocol s.protocol ≠ kind := by
        simpa [PollerLeft, unanswered_append, stopPolling, hp] using hleft
      exact absurd (hpollers kind hkind.1).2 hkind.2
    · simpa [LinkLeft, unanswered_append, stopPolling, hp] using hlinks

theorem tied_disconnect (h : Tied trace s) : Tied (trace ++ s.disconnect.2) s.disconnect.1 := by
  obtain ⟨hpollers, hlinks⟩ := h
  cases hc : s.isConnected with
  | false => simpa [disconnect, hc] using Tied.mk hpollers hlinks
  | true =>
    constructor
    · simpa [PollerLeft, unanswered_append, disconnect, hc] using hpollers
    · simp [LinkLeft, unanswered_append, disconnect, hc]

/-- A step leaves nothing behind exactly if it is tidy. -/
theorem tied_step_iff (h : Tied trace s)
    (hp : s.polling = true → ∃ kind, PollerLeft kind trace) (e : OwnerCall) :
    ((.returned false ∈ (step s e).2 → ¬ LinkLeft (step s e).2) ∧
      Tied (trace ++ (step s e).2) (step s e).1) ↔ Tidy s e := by
  cases e with
  | connect protocol linked ready initialized => exact tied_connect_iff h hp
  | startPolling =>
    refine iff_of_true ⟨?_, tied_startPolling h⟩ trivial
    cases hc : s.isConnected <;> simp [step, startPolling, hc]
  | stopPolling =>
    refine iff_of_true ⟨?_, tied_stopPolling h⟩ trivial
    cases hp : s.polling <;> simp [step, stopPolling, hp]
  | disconnect =>
    refine iff_of_true ⟨?_, tied_disconnect h⟩ trivial
    cases hc : s.isConnected <;> simp [step, disconnect, hc]

/-- While the flag is set a poller runs, if not always one of the manager's protocol. -/
theorem polling_left (calls : List OwnerCall) (h : (after step {} calls).polling = true) :
    ∃ kind, PollerLeft kind (emitted step {} calls) := by
  induction calls using List.reverseRecOn with
  | nil => cases h
  | append_singleton calls e ih =>
    rw [after_concat] at h
    rw [emitted_concat]
    generalize after step {} calls = s at h ih
    cases e with
    | connect protocol linked ready initialized =>
      obtain ⟨kind, hleft⟩ := ih ((connect_frame s protocol linked ready initialized).1 ▸ h)
      exact ⟨kind, pollerLeft_connect.mpr hleft⟩
    | startPolling =>
      cases hc : s.isConnected with
      | true =>
        exact ⟨PollerKind.ofProtocol s.protocol, by
          simp [PollerLeft, unanswered_append, step, startPolling, hc]⟩
      | false =>
        obtain ⟨kind, hleft⟩ := ih (by simpa [step, startPolling, hc] using h)
        exact ⟨kind, by simpa [step, startPolling, hc] using hleft⟩
    | stopPolling =>
      cases hp : s.polling <;> simp [step, stopPolling, hp] at h
    | disconnect =>
      have hpolling : s.disconnect.1.polling = s.polling := by
        unfold disconnect
        split <;> rfl
      obtain ⟨kind, hleft⟩ := ih (hpolling ▸ h)
      refine ⟨kind, ?_⟩
      cases hc : s.isConnected <;>
        simpa [PollerLeft, unanswered_append, step, disconnect, hc] using hleft

end Runs

/-- Whenever the manager is destroyed, it leaves neither a link nor a poller behind, exactly if
every call before was tidy. -/
theorem leakFree_prefixes_iff (calls : List OwnerCall) :
    (∀ u, u <+: calls → LeakFree u) ↔ Guarded step Tidy {} calls := by
  have hnil : LeakFree [] := by
    refine leakFree_iff.mpr ⟨by simp [history], ?_, ?_⟩
    · intro kind h
      exact absurd h unanswered_nil
    · intro h
      exact absurd h unanswered_nil
  rw [guarded_iff_forall]
  refine forall_prefix_iff_everySplit hnil ?_
  intro v e _ hv
  obtain ⟨hconnects, htied⟩ := leakFree_iff.mp hv
  rw [leakFree_iff, history_concat, emitted_concat, after_concat, List.forall_mem_append,
    ← tied_step_iff htied (polling_left v) e, List.forall_mem_singleton]
  constructor
  · rintro ⟨⟨-, hconnect⟩, hnext⟩
    exact ⟨hconnect, hnext⟩
  · rintro ⟨hconnect, hnext⟩
    exact ⟨⟨hconnects, hconnect⟩, hnext⟩

/-- A link that is lost behind its discovery, and a poller of the protocol before the last. -/
theorem not_leakFree : ¬ LeakFree [.connect .OBD2 true false false] ∧
    ¬ LeakFree [.connect .CAN true true true, .startPolling, .connect .OBD2 false false false] := by
  constructor
  · intro h
    refine h.links ?_
    simp [LinkLeft, lifetime, step, connect, disconnect, destroy, stopPolling]
  · intro h
    refine h.pollers .CANMonitor ?_
    simp [PollerLeft, lifetime, step, connect, disconnect, destroy, stopPolling, startPolling,
      PollerKind.ofProtocol]

end BLEConnectionManager

end VehicleSpy.Cli
