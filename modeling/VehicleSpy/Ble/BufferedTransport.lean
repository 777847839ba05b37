import VehicleSpy.Machine.Locks
import VehicleSpy.Text.Bytes

/-! # Transports with a receive buffer

The transports of the adapters share their shape: notifications fill a buffer, an extraction loop
takes units out of it for the subscriber, and `readData` polls what is left. They differ in the
loop. A received byte may carry more than its value, such as the place where it was received.
-/

namespace VehicleSpy.Ble

open Text Machine Locking

/-- The mutexes of a transport. -/
inductive TransportMutex | state_mutex | buffer_mutex | callback_mutex
  deriving DecidableEq, Repr

/-- What leaves a transport: a unit for the callback, bytes for the platform, polled bytes. -/
inductive TransportEvent (β : Type)
  | delivered (data : List β)
  | sent (data : Bytes)
  | polled (data : List β)
  deriving DecidableEq, Repr

structure BufferedTransport (β : Type) where
  connected : Bool := false
  receiveBuffer : List β := []
  /-- Whether a callback is set. It calls nothing back. -/
  notificationCallback : Bool := false
  deriving DecidableEq, Repr

namespace BufferedTransport

variable {β : Type}

/-- A member function of a transport. -/
abbrev Method (β α : Type) :=
  Locking TransportMutex (BufferedTransport β) (TransportEvent β) α

/-- `linked` is what the platform answers. -/
def connect (linked : Bool) : Method β Bool :=
  scopedLock .state_mutex do
    if (← read).connected then return true
    change fun t => { t with connected := linked }
    return linked

def disconnect : Method β Unit :=
  scopedLock .state_mutex do
    if (← read).connected then
      change fun t => { t with connected := false }
      scopedLock .buffer_mutex do
        change fun t => { t with receiveBuffer := [] }
      scopedLock .callback_mutex do
        change fun t => { t with notificationCallback := false }

def isConnected (linked : Bool) : Method β Bool :=
  scopedLock .state_mutex do
    return (← read).connected && linked

def send (data : Bytes) : Method β Unit :=
  scopedLock .state_mutex do
    if (← read).connected then emit (.sent data)

def subscribeToNotifications : Method β Unit :=
  scopedLock .callback_mutex do
    change fun t => { t with notificationCallback := true }

def unsubscribe : Method β Unit :=
  scopedLock .callback_mutex do
    change fun t => { t with notificationCallback := false }

/-- `forwardPacket`, `forwardResponse`. -/
def forward (data : List β) : Method β Unit :=
  scopedLock .callback_mutex do
    if (← read).notificationCallback then emit (.delivered data)

section Extraction

-- the class's loop: what it leaves of a buffer, and the units it takes out
variable (extract : List β → List β × List (List β))

/-- The loop under the buffer's lock. The callback sees the units only, so it does not matter
that the loop forwards each one before it looks for the next. -/
def extractUnits : Method β Unit :=
  scopedLock .buffer_mutex do
    let t ← read
    change fun t => { t with receiveBuffer := (extract t.receiveBuffer).1 }
    forEach forward (extract t.receiveBuffer).2

def readData : Method β (Option (List β)) :=
  scopedLock .buffer_mutex do
    if (← read).receiveBuffer.isEmpty then return none
    extractUnits extract
    let t ← read
    if t.receiveBuffer.isEmpty then return none
    change fun t => { t with receiveBuffer := [] }
    return some t.receiveBuffer

def processIncomingData (data : List β) : Method β Unit := do
  scopedLock .buffer_mutex do
    change fun t => { t with receiveBuffer := t.receiveBuffer ++ data }
  extractUnits extract

end Extraction

/-- A call of the owner, or a notification of the platform. -/
inductive Call (β : Type)
  | connect (linked : Bool)
  | disconnect
  | isConnected (linked : Bool)
  | send (data : Bytes)
  | subscribeToNotifications
  | unsubscribe
  | readData
  | notification (data : List β)
  deriving DecidableEq, Repr

/-- A call as the thread makes it; what `readData` returns is an event. -/
def perform (extract : List β → List β × List (List β)) : Call β → Method β Unit
  | .connect linked => do
    let _ ← connect linked
  | .disconnect => disconnect
  | .isConnected linked => do
    let _ ← isConnected linked
  | .send data => send data
  | .subscribeToNotifications => subscribeToNotifications
  | .unsubscribe => unsubscribe
  | .readData => do
    match ← readData extract with
    | some data => emit (.polled data)
    | none => pure ()
  | .notification data => processIncomingData extract data

/-- The calls of one thread on a new transport, in order. -/
def performAll (perform : Call β → Method β Unit) (calls : List (Call β)) :
    Option (Unit × BufferedTransport β × List (TransportEvent β)) :=
  (forEach perform calls).run [] {}

/-- Every call completes, and no byte is part of a delivered unit and polled too. -/
def LockFree (perform : Call β → Method β Unit) (calls : List (Call β)) : Prop :=
  ∃ t es, performAll perform calls = some ((), t, es) ∧
    ∀ unit data, .delivered unit ∈ es → .polled data ∈ es → ∀ b ∈ unit, b ∉ data

/-- `readData` is called only while nothing is buffered. -/
def PollsEmpty (perform : Call β → Method β Unit) (calls : List (Call β)) : Prop :=
  ∀ us vs, calls = us ++ .readData :: vs →
    ∀ t es, performAll perform us = some ((), t, es) → t.receiveBuffer = []

section Specs

variable {extract : List β → List β × List (List β)} {t : BufferedTransport β}
  {held : List TransportMutex} {data : List β}

/-- What a callback gets of some units. -/
def deliveries (t : BufferedTransport β) (units : List (List β)) : List (TransportEvent β) :=
  if t.notificationCallback then units.map .delivered else []

theorem forward_run (h : .callback_mutex ∉ held) (data : List β) :
    (forward data).run held t = some ((), t, deliveries t [data]) := by
  rw [forward, run_scopedLock h]
  cases hc : t.notificationCallback <;> simp [run_ite, deliveries, hc]

theorem extractUnits_run (hbuffer : .buffer_mutex ∉ held) (hcallback : .callback_mutex ∉ held) :
    (extractUnits extract).run held t =
      some ((), { t with receiveBuffer := (extract t.receiveBuffer).1 },
        deliveries t (extract t.receiveBuffer).2) := by
  have hheld : .callback_mutex ∉ TransportMutex.buffer_mutex :: held := by
    intro h
    rcases List.mem_cons.mp h with h | h
    · cases h
    · exact hcallback h
  have hunits : (extract t.receiveBuffer).2.flatMap (fun u => deliveries t [u]) =
      deliveries t (extract t.receiveBuffer).2 := by
    cases hc : t.notificationCallback with
    | false => simp [deliveries, hc]
    | true => simp [deliveries, hc, List.map_eq_flatMap]
  rw [extractUnits, run_scopedLock hbuffer, run_bind_some run_read, run_bind_some (run_change _),
    run_forEach (fun u => forward_run hheld u)]
  exact congrArg (fun es => some ((), _, es)) hunits

/-- The loop locks the buffer itself. -/
theorem extractUnits_held (h : .buffer_mutex ∈ held) :
    (extractUnits extract).run held t = none :=
  run_scopedLock_held h _

theorem processIncomingData_run :
    (processIncomingData extract data).run [] t =
      some ((), { t with receiveBuffer := (extract (t.receiveBuffer ++ data)).1 },
        deliveries t (extract (t.receiveBuffer ++ data)).2) := by
  have happend : (scopedLock TransportMutex.buffer_mutex
      (change fun t => { t with receiveBuffer := t.receiveBuffer ++ data }) :
        Method β Unit).run [] t =
      some ((), { t with receiveBuffer := t.receiveBuffer ++ data }, []) :=
    run_scopedLock (by simp) _
  rw [processIncomingData, run_bind_some happend, extractUnits_run (by simp) (by simp)]
  rfl

/-- Polling an empty buffer returns nothing. -/
theorem readData_empty (h : t.receiveBuffer = []) :
    (readData extract).run [] t = some (none, t, []) := by
  rw [readData, run_scopedLock (by simp), run_bind_some run_read, run_ite,
    if_pos (by simp [h])]
  rfl

/-- With bytes in the buffer the loop waits for the lock that `readData` holds. -/
theorem readData_buffered (h : t.receiveBuffer ≠ []) : (readData extract).run [] t = none := by
  rw [readData, run_scopedLock (by simp), run_bind_some run_read, run_ite,
    if_neg (by simpa using h), run_bind_none (extractUnits_held (by simp))]
  rfl

/-- All other calls complete, and return nothing polled. -/
theorem perform_completes (extract : List β → List β × List (List β)) (t : BufferedTransport β)
    {c : Call β} (hc : c ≠ .readData) :
    ∃ t' es, (perform extract c).run [] t = some ((), t', es) ∧ ∀ data, .polled data ∉ es := by
  cases c with
  | connect linked =>
    cases h : t.connected <;>
      exact ⟨_, [], by simp [perform, connect, run_scopedLock, run_ite, h]; rfl, by simp⟩
  | disconnect =>
    cases h : t.connected <;>
      exact ⟨_, [], by simp [perform, disconnect, run_scopedLock, run_ite, h]; rfl, by simp⟩
  | isConnected linked =>
    exact ⟨t, [], by simp [perform, isConnected, run_scopedLock], by simp⟩
  | send data =>
    cases h : t.connected with
    | false => exact ⟨t, [], by simp [perform, send, run_scopedLock, run_ite, h], by simp⟩
    | true =>
      exact ⟨t, [.sent data], by simp [perform, send, run_scopedLock, run_ite, h], by simp⟩
  | subscribeToNotifications => exact ⟨_, [], run_scopedLock (by simp) _, by simp⟩
  | unsubscribe => exact ⟨_, [], run_scopedLock (by simp) _, by simp⟩
  | readData => exact absurd rfl hc
  | notification data =>
    refine ⟨_, _, processIncomingData_run, ?_⟩
    intro polled
    cases h : t.notificationCallback <;> simp [deliveries, h]

theorem perform_isSome_iff (c : Call β) :
    ((perform extract c).run [] t).isSome = true ↔ (c = .readData → t.receiveBuffer = []) := by
  by_cases hc : c = .readData
  · subst hc
    by_cases h : t.receiveBuffer = []
    · rw [perform, run_bind_some (readData_empty h)]
      simp [h]
    · rw [perform, run_bind_none (readData_buffered h)]
      simp [h]
  · obtain ⟨t', es, hrun, -⟩ := perform_completes extract t hc
    simp [hrun, hc]

/-- No call returns polled bytes: a poll finds nothing or blocks. -/
theorem perform_unpolled {c : Call β} {t' : BufferedTransport β} {es : List (TransportEvent β)}
    (h : (perform extract c).run [] t = some ((), t', es)) :
    ∀ e ∈ es, ∀ data, e ≠ .polled data := by
  rintro e he data rfl
  by_cases hc : c = .readData
  · subst hc
    have hempty := (perform_isSome_iff .readData).mp (Option.isSome_of_eq_some h) rfl
    rw [perform, run_bind_some (readData_empty hempty)] at h
    obtain ⟨-, -, rfl⟩ : () = () ∧ t = t' ∧ [] = es := by simpa using h
    cases he
  · obtain ⟨t'', es', hrun, hnone⟩ := perform_completes extract t hc
    obtain rfl : es' = es := congrArg (fun r => r.2.2) (Option.some.inj (hrun.symm.trans h))
    exact hnone data he

/-- A run completes, and returns nothing twice, exactly if it polls an empty buffer only. -/
theorem lockFree_iff {calls : List (Call β)} :
    LockFree (perform extract) calls ↔ PollsEmpty (perform extract) calls := by
  have hcompletes : (performAll (perform extract) calls).isSome = true ↔
      PollsEmpty (perform extract) calls := by
    rw [performAll, run_forEach_isSome_iff]
    constructor
    · intro h us vs hsplit t es hus
      exact (perform_isSome_iff .readData).mp (h us .readData vs hsplit t es hus) rfl
    · intro h us c vs hsplit t es hus
      refine (perform_isSome_iff c).mpr ?_
      rintro rfl
      exact h us vs hsplit t es hus
  rw [← hcompletes]
  constructor
  · rintro ⟨t, es, hrun, -⟩
    exact Option.isSome_of_eq_some hrun
  · intro h
    obtain ⟨⟨⟨⟩, t, es⟩, hrun⟩ := Option.isSome_iff_exists.mp h
    refine ⟨t, es, hrun, ?_⟩
    intro unit data _ hpolled
    have hnone := forall_mem_of_run_forEach (P := fun e => ∀ data, e ≠ .polled data)
      (fun c t t' es h => perform_unpolled h) hrun
    exact absurd rfl (hnone _ hpolled data)

end Specs

end BufferedTransport

end VehicleSpy.Ble
