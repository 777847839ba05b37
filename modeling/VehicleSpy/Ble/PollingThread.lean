import VehicleSpy.Ble.VinQuery
import VehicleSpy.Machine.Prefixes

/-! # Starting and stopping the polling thread

A control thread starts and stops polling, the link comes and goes, and the polling thread tests
the flag and the link, sends queries and waits. The loop ends when it finds the flag cleared or
the link down; only a stop clears the flag. A stop sets the prompt flag to wake the loop, and the
loop resets that flag behind each query it sends.
-/

namespace VehicleSpy.Ble

open Text Machine VinQuery

/-- Where the polling thread stands. A wait is asleep once it has found its predicate false. There
is no thread, or one that has left its loop, at `ended`. -/
inductive PollLocation
  | setup (asleep : Bool)
  | whileActive
  | whileLink
  | forActive (pids : List Byte)
  | forLink (pid : Byte) (rest : List Byte)
  | send (pid : Byte) (rest : List Byte)
  | reset (rest : List Byte)
  | prompt (asleep : Bool) (rest : List Byte)
  | interval (asleep : Bool)
  | ended
  deriving DecidableEq, Repr

/-- A thread that was notified tests its predicate again. -/
def PollLocation.awake : PollLocation → PollLocation
  | .setup _ => .setup false
  | .prompt _ rest => .prompt false rest
  | .interval _ => .interval false
  | location => location

/-- The control thread is between calls, or it has a stop to carry on with. -/
inductive PollControl | idle | notifying | joining
  deriving DecidableEq, Repr

/-- One atomic step. `expire` lets the deadline of a wait pass, `wake` ends a sleep early. -/
inductive PollEvent
  | startOBD2Polling
  | stopOBD2Polling
  | control
  | loop
  | expire
  | wake
  | prompt
  | link (up : Bool)
  deriving DecidableEq, Repr

/-- A thread assigned to `polling_thread_`, and whether that was joinable; a query. -/
inductive PollOutput
  | assigned (overJoinable : Bool)
  | sessionSendAscii (cmd : Bytes)
  deriving DecidableEq, Repr

structure PollingThread where
  pollingActive : Bool := false
  promptReady : Bool := false
  sessionIsConnected : Bool := false
  joinable : Bool := false
  location : PollLocation := .ended
  control : PollControl := .idle
  deriving DecidableEq, Repr

namespace PollingThread

def OBD2_MODE_LIVE_DATA : Byte := 0x01

/-- Battery voltage, engine load, coolant, throttle, speed and engine speed. -/
def pids : List Byte := [0x42, 0x04, 0x05, 0x11, 0x0D, 0x0C]

def startOBD2Polling (s : PollingThread) : PollingThread × List PollOutput :=
  if s.pollingActive then (s, [])
  else ({ s with pollingActive := true, joinable := true, location := .setup false },
    [.assigned s.joinable])

/-- The flag is set and the sleeper woken. -/
def notifyPrompt (s : PollingThread) : PollingThread :=
  { s with promptReady := true, location := s.location.awake }

/-- The rest of `stopOBD2Polling` behind the clearing of the flag: the notification, the join. -/
def controlStep (s : PollingThread) : PollingThread :=
  match s.control with
  | .idle => s
  | .notifying => { s.notifyPrompt with control := .joining }
  | .joining =>
    if s.joinable = false ∨ s.location = .ended then
      { s with joinable := false, control := .idle }
    else s

def moveTo (s : PollingThread) (location : PollLocation) : PollingThread × List PollOutput :=
  ({ s with location := location }, [])

/-- The next step of the loop. -/
def obd2PollingLoop (s : PollingThread) : PollingThread × List PollOutput :=
  match s.location with
  | .setup false => s.moveTo (if s.pollingActive then .setup true else .whileActive)
  | .whileActive => s.moveTo (if s.pollingActive then .whileLink else .ended)
  | .whileLink => s.moveTo (if s.sessionIsConnected then .forActive pids else .ended)
  | .forActive [] => s.moveTo (.interval false)
  | .forActive (pid :: rest) =>
    s.moveTo (if s.pollingActive then .forLink pid rest else .interval false)
  | .forLink pid rest =>
    s.moveTo (if s.sessionIsConnected then .send pid rest else .interval false)
  | .send pid rest =>
    ({ s with location := .reset rest },
      [.sessionSendAscii (buildOBD2Query OBD2_MODE_LIVE_DATA pid)])
  -- the lock is kept from the reset to the sleep
  | .reset rest => ({ s with promptReady := false, location := .prompt true rest }, [])
  | .prompt false rest => s.moveTo (if s.promptReady then .forActive rest else .prompt true rest)
  | .interval false => s.moveTo (if s.pollingActive then .interval true else .whileActive)
  | .setup true | .prompt true _ | .interval true | .ended => (s, [])

/-- The deadline of a wait passes. -/
def expire (s : PollingThread) : PollingThread :=
  match s.location with
  | .setup true | .interval true => { s with location := .whileActive }
  | .prompt true rest => { s with location := .forActive rest }
  | _ => s

def step (s : PollingThread) : PollEvent → PollingThread × List PollOutput
  | .startOBD2Polling => if s.control = .idle then s.startOBD2Polling else (s, [])
  | .stopOBD2Polling =>
    if s.control = .idle then ({ s with pollingActive := false, control := .notifying }, [])
    else (s, [])
  | .control => (s.controlStep, [])
  | .loop => s.obd2PollingLoop
  | .expire => (s.expire, [])
  | .wake => ({ s with location := s.location.awake }, [])
  | .prompt => (s.notifyPrompt, [])
  | .link up => ({ s with sessionIsConnected := up }, [])

/-- The loop comes to its end by itself, without the end of a wait. -/
def ExitsUnaided (s : PollingThread) : Prop :=
  ∃ n, ((fun s : PollingThread => s.obd2PollingLoop.1)^[n] s).location = .ended

/-- A start that returns with the link up leaves a loop running until the next stop or drop. -/
def StartKept (w : List PollEvent) : Prop :=
  ∀ u v, w = u ++ .startOBD2Polling :: v → (after step {} u).control = .idle →
    (after step {} u).sessionIsConnected = true →
    (∀ e ∈ v, e ≠ .stopOBD2Polling ∧ e ≠ .link false) → (after step {} w).location ≠ .ended

/-- A stop that has called for the loop need not wait for a deadline. -/
def WakeKept (w : List PollEvent) : Prop :=
  (after step {} w).control = .joining → ExitsUnaided (after step {} w)

def AssignKept (w : List PollEvent) : Prop := .assigned true ∉ emitted step {} w

/-- All three, in every state of a run. -/
def Restartable (w : List PollEvent) : Prop :=
  ∀ u, u <+: w → StartKept u ∧ WakeKept u ∧ AssignKept u

/-- The loop has found the flag set, and goes on to reset the prompt flag. -/
def HeadsForReset (s : PollingThread) : Prop :=
  match s.location with
  | .forLink _ _ => s.sessionIsConnected = true
  | .send _ _ | .reset _ => True
  | _ => False

/-- No start finds the flag of a loop that ended by itself; no stop notifies a loop that goes on
to the reset, and the link does not come up for one that a stop has found at the link's test. -/
def Timely (s : PollingThread) : PollEvent → Prop
  | .startOBD2Polling => s.control = .idle → s.sessionIsConnected = true →
      s.pollingActive = true → s.location ≠ .ended
  | .control => s.control = .notifying → ¬ s.HeadsForReset
  | .link true => s.control = .joining → ∀ pid rest, s.location ≠ .forLink pid rest
  | _ => True

section Steps

variable {s : PollingThread} {e : PollEvent} {w : List PollEvent}

/-- The loop moves itself and the prompt flag. -/
theorem obd2PollingLoop_frame (s : PollingThread) : ∃ ready location,
    s.obd2PollingLoop.1 = { s with promptReady := ready, location := location } := by
  unfold obd2PollingLoop moveTo
  split
  all_goals exact ⟨_, _, rfl⟩

theorem expire_frame (s : PollingThread) :
    ∃ location, s.expire = { s with location := location } := by
  unfold expire
  split
  all_goals exact ⟨_, rfl⟩

theorem assigned_notMem_loop (s : PollingThread) (b : Bool) :
    .assigned b ∉ s.obd2PollingLoop.2 := by
  unfold obd2PollingLoop moveTo
  split <;> simp

/-- A stop keeps the flag cleared until it has joined the thread. -/
structure Consistent (s : PollingThread) : Prop where
  stopping : s.control ≠ .idle → s.pollingActive = false
  joined : s.control = .idle → s.pollingActive = false → s.joinable = false

theorem consistent_step (h : Consistent s) (e : PollEvent) : Consistent (step s e).1 := by
  cases e with
  | startOBD2Polling =>
    by_cases hc : s.control = .idle
    · by_cases ha : s.pollingActive = true
      · simpa [step, startOBD2Polling, hc, ha] using h
      · constructor <;> simp [step, startOBD2Polling, hc, ha]
    · simpa [step, hc] using h
  | stopOBD2Polling =>
    by_cases hc : s.control = .idle
    · constructor <;> simp [step, hc]
    · simpa [step, hc] using h
  | control =>
    cases hc : s.control with
    | idle => simpa [step, controlStep, hc] using h
    | notifying =>
      have ha := h.stopping (by simp [hc])
      constructor <;> simp [step, controlStep, notifyPrompt, hc, ha]
    | joining =>
      by_cases hj : s.joinable = false ∨ s.location = .ended
      · constructor <;> simp [step, controlStep, hc, hj]
      · simpa [step, controlStep, hc, hj] using h
  | loop =>
    obtain ⟨ready, location, he⟩ := s.obd2PollingLoop_frame
    rw [step, he]
    exact ⟨h.stopping, h.joined⟩
  | expire =>
    obtain ⟨location, he⟩ := s.expire_frame
    rw [step, he]
    exact ⟨h.stopping, h.joined⟩
  | wake => exact ⟨h.stopping, h.joined⟩
  | prompt => exact ⟨h.stopping, h.joined⟩
  | link up => exact ⟨h.stopping, h.joined⟩

theorem consistent_after (w : List PollEvent) : Consistent (after step {} w) := by
  induction w using List.reverseRecOn with
  | nil => exact ⟨fun h => absurd rfl h, fun _ _ => rfl⟩
  | append_singleton w e ih =>
    rw [after_concat]
    exact consistent_step ih e

/-- No thread is assigned while the old one is joinable. -/
theorem assignKept (w : List PollEvent) : AssignKept w := by
  induction w using List.reverseRecOn with
  | nil => simp [AssignKept]
  | append_singleton w e ih =>
    have h := consistent_after w
    rw [AssignKept, emitted_concat, List.mem_append, not_or]
    refine ⟨ih, ?_⟩
    generalize after step {} w = s at h
    cases e with
    | startOBD2Polling =>
      by_cases hc : s.control = .idle
      · cases ha : s.pollingActive with
        | true => simp [step, startOBD2Polling, hc, ha]
        | false => simp [step, startOBD2Polling, hc, ha, h.joined hc ha]
      · simp [step, hc]
    | stopOBD2Polling =>
      by_cases hc : s.control = .idle <;> simp [step, hc]
    | loop => exact s.assigned_notMem_loop true
    | control => simp [step]
    | expire => simp [step]
    | wake => simp [step]
    | prompt => simp [step]
    | link up => simp [step]

end Steps

section Exit

variable {s : PollingThread}

/-- Where a loop whose flag is cleared needs no deadline to get to its end. -/
def Free (s : PollingThread) : Prop :=
  match s.location with
  | .setup asleep | .interval asleep => asleep = false
  | .forLink _ _ => s.sessionIsConnected = false
  | .send _ _ | .reset _ => False
  | .prompt asleep _ => asleep = false ∧ s.promptReady = true
  | .whileActive | .whileLink | .forActive _ | .ended => True

theorem ExitsUnaided.of_loop (h : ExitsUnaided s.obd2PollingLoop.1) : ExitsUnaided s := by
  obtain ⟨n, hn⟩ := h
  exact ⟨n + 1, hn⟩

theorem exits_whileActive (ha : s.pollingActive = false) (h : s.location = .whileActive) :
    ExitsUnaided s := by
  apply ExitsUnaided.of_loop
  exact ⟨0, by simp [obd2PollingLoop, moveTo, h, ha]⟩

theorem exits_interval (ha : s.pollingActive = false) (h : s.location = .interval false) :
    ExitsUnaided s := by
  apply ExitsUnaided.of_loop
  apply exits_whileActive <;> simp [obd2PollingLoop, moveTo, h, ha]

theorem exits_forActive (rest : List Byte) (ha : s.pollingActive = false)
    (h : s.location = .forActive rest) : ExitsUnaided s := by
  apply ExitsUnaided.of_loop
  cases rest <;> apply exits_interval <;> simp [obd2PollingLoop, moveTo, h, ha]

theorem exits_of_free (ha : s.pollingActive = false) (h : s.Free) : ExitsUnaided s := by
  unfold Free at h
  split at h
  · next asleep hl =>
    subst h
    apply ExitsUnaided.of_loop
    apply exits_whileActive <;> simp [obd2PollingLoop, moveTo, hl, ha]
  · next asleep hl =>
    subst h
    exact exits_interval ha hl
  · next pid rest hl =>
    apply ExitsUnaided.of_loop
    apply exits_interval <;> simp [obd2PollingLoop, moveTo, hl, ha, h]
  · exact h.elim
  · exact h.elim
  · next asleep rest hl =>
    obtain ⟨rfl, hready⟩ := h
    apply ExitsUnaided.of_loop
    apply exits_forActive rest <;> simp [obd2PollingLoop, moveTo, hl, ha, hready]
  · next hl => exact exits_whileActive ha hl
  · next hl =>
    apply ExitsUnaided.of_loop
    cases hc : s.sessionIsConnected with
    | true => apply exits_forActive pids <;> simp [obd2PollingLoop, moveTo, hl, ha, hc]
    | false => exact ⟨0, by simp [obd2PollingLoop, moveTo, hl, hc]⟩
  · next rest hl => exact exits_forActive rest ha hl
  · next hl => exact ⟨0, hl⟩

/-- A loop that is not free stays so by its own steps. -/
theorem not_free_loop (h : ¬ s.Free) : ¬ s.obd2PollingLoop.1.Free := by
  cases hl : s.location with
  | setup asleep =>
    cases asleep with
    | true => simp [Free, obd2PollingLoop, hl]
    | false => simp [Free, hl] at h
  | interval asleep =>
    cases asleep with
    | true => simp [Free, obd2PollingLoop, hl]
    | false => simp [Free, hl] at h
  | forLink pid rest =>
    have hc : s.sessionIsConnected = true := by simpa [Free, hl] using h
    simp [Free, obd2PollingLoop, moveTo, hl, hc]
  | send pid rest => simp [Free, obd2PollingLoop, hl]
  | reset rest => simp [Free, obd2PollingLoop, hl]
  | prompt asleep rest =>
    cases asleep with
    | true => simp [Free, obd2PollingLoop, hl]
    | false =>
      have hready : s.promptReady = false := by simpa [Free, hl] using h
      simp [Free, obd2PollingLoop, moveTo, hl, hready]
  | whileActive => simp [Free, hl] at h
  | whileLink => simp [Free, hl] at h
  | forActive rest => simp [Free, hl] at h
  | ended => simp [Free, hl] at h

/-- The loop of a cleared flag gets to its end by itself exactly from where it is free. -/
theorem exitsUnaided_iff (ha : s.pollingActive = false) : ExitsUnaided s ↔ s.Free := by
  constructor
  · rintro ⟨n, hn⟩
    by_contra h
    induction n generalizing s with
    | zero =>
      change s.location = .ended at hn
      simp [Free, hn] at h
    | succ n ih =>
      obtain ⟨ready, location, he⟩ := s.obd2PollingLoop_frame
      exact ih (s := s.obd2PollingLoop.1) (by rw [he]; exact ha) hn (not_free_loop h)
  · exact exits_of_free ha

theorem ExitsUnaided.loop (h : ExitsUnaided s) : ExitsUnaided s.obd2PollingLoop.1 := by
  obtain ⟨_ | n, hn⟩ := h
  · refine ⟨0, ?_⟩
    change s.location = .ended at hn
    simp [obd2PollingLoop, hn]
  · exact ⟨n, hn⟩

/-- Its own steps keep a loop free once the flag is cleared. -/
theorem free_loop (ha : s.pollingActive = false) (h : s.Free) : s.obd2PollingLoop.1.Free := by
  obtain ⟨ready, location, hframe⟩ := s.obd2PollingLoop_frame
  have ha' : s.obd2PollingLoop.1.pollingActive = false := by
    rw [hframe]
    exact ha
  exact (exitsUnaided_iff ha').mp ((exitsUnaided_iff ha).mpr h).loop

/-- The notification frees the loop unless that goes on to the reset. -/
theorem free_notifyPrompt_iff : s.notifyPrompt.Free ↔ ¬ s.HeadsForReset := by
  cases hl : s.location <;> simp [Free, HeadsForReset, notifyPrompt, PollLocation.awake, hl]

theorem not_headsForReset (h : s.Free) : ¬ s.HeadsForReset := by
  cases hl : s.location <;> simp_all [Free, HeadsForReset]

theorem free_expire (h : s.Free) : s.expire.Free := by
  have hsame : s.expire = s := by
    unfold expire
    split <;> simp_all [Free]
  rwa [hsame]

theorem free_awake (h : s.Free) : Free { s with location := s.location.awake } := by
  cases hl : s.location <;> simp_all [Free, PollLocation.awake]

theorem free_link_iff (h : s.Free) (up : Bool) :
    Free { s with sessionIsConnected := up } ↔
      (up = true → ∀ pid rest, s.location ≠ .forLink pid rest) := by
  cases hl : s.location <;> simp_all [Free]

/-- A step leaves a stop a free loop exactly if it is timely. -/
theorem wake_step_iff (hs : Consistent s) (h : s.control = .joining → s.Free) {e : PollEvent}
    (he : e ≠ .startOBD2Polling) :
    ((step s e).1.control = .joining → (step s e).1.Free) ↔ Timely s e := by
  cases e with
  | startOBD2Polling => exact absurd rfl he
  | stopOBD2Polling =>
    refine iff_of_true ?_ trivial
    by_cases hc : s.control = .idle
    · simp [step, hc]
    · simpa [step, hc] using h
  | control =>
    cases hc : s.control with
    | idle => simp [step, controlStep, Timely, hc]
    | notifying =>
      have hstep : (step s .control).1 = { s.notifyPrompt with control := .joining } := by
        simp [step, controlStep, hc]
      have hfree : Free { s.notifyPrompt with control := .joining } ↔ ¬ s.HeadsForReset :=
        free_notifyPrompt_iff
      rw [hstep]
      simp [Timely, hc, hfree]
    | joining =>
      refine iff_of_true ?_ (by simp [Timely, hc])
      by_cases hj : s.joinable = false ∨ s.location = .ended
      · simp [step, controlStep, hc, hj]
      · simpa [step, controlStep, hc, hj] using h hc
  | loop =>
    refine iff_of_true ?_ trivial
    obtain ⟨ready, location, hframe⟩ := s.obd2PollingLoop_frame
    intro hc
    have hjoining : s.control = .joining := by
      rw [step, hframe] at hc
      exact hc
    exact free_loop (hs.stopping (by simp [hjoining])) (h hjoining)
  | expire =>
    refine iff_of_true ?_ trivial
    obtain ⟨location, hframe⟩ := s.expire_frame
    intro hc
    refine free_expire (h ?_)
    rw [step, hframe] at hc
    exact hc
  | wake => exact iff_of_true (fun hc => free_awake (h hc)) trivial
  | prompt =>
    exact iff_of_true (fun hc => free_notifyPrompt_iff.mpr (not_headsForReset (h hc))) trivial
  | link up =>
    change (s.control = .joining → Free { s with sessionIsConnected := up }) ↔ _
    cases up with
    | false =>
      refine iff_of_true (fun hc => ?_) trivial
      exact (free_link_iff (h hc) false).mpr (fun h => absurd h (by decide))
    | true =>
      refine forall_congr' fun hc => ?_
      simpa using free_link_iff (h hc) true

/-- A start while a stop is under way is no call. -/
theorem wake_start (h : s.control = .joining → s.Free) :
    (step s .startOBD2Polling).1.control = .joining → (step s .startOBD2Polling).1.Free := by
  by_cases hc : s.control = .idle
  · cases ha : s.pollingActive <;> simp [step, startOBD2Polling, hc, ha]
  · simpa [step, hc] using h

end Exit

section Start

variable {s : PollingThread} {e : PollEvent} {w : List PollEvent}

/-- Polling is on, with the link up and no stop under way. -/
structure Polled (s : PollingThread) : Prop where
  idle : s.control = .idle
  connected : s.sessionIsConnected = true
  active : s.pollingActive = true

def Undisturbing (e : PollEvent) : Prop := e ≠ .stopOBD2Polling ∧ e ≠ .link false

theorem polled_start (hc : s.control = .idle) (hl : s.sessionIsConnected = true) :
    Polled (step s .startOBD2Polling).1 := by
  cases ha : s.pollingActive with
  | true => constructor <;> simp [step, startOBD2Polling, hc, hl, ha]
  | false => constructor <;> simp [step, startOBD2Polling, hc, hl, ha]

theorem polled_step (h : Polled s) (he : Undisturbing e) : Polled (step s e).1 := by
  obtain ⟨hc, hl, ha⟩ := h
  cases e with
  | startOBD2Polling => exact polled_start hc hl
  | stopOBD2Polling => exact absurd rfl he.1
  | control => constructor <;> simp [step, controlStep, hc, hl, ha]
  | loop =>
    obtain ⟨ready, location, hframe⟩ := s.obd2PollingLoop_frame
    rw [step, hframe]
    exact ⟨hc, hl, ha⟩
  | expire =>
    obtain ⟨location, hframe⟩ := s.expire_frame
    rw [step, hframe]
    exact ⟨hc, hl, ha⟩
  | wake => exact ⟨hc, hl, ha⟩
  | prompt => exact ⟨hc, hl, ha⟩
  | link up =>
    cases up with
    | true => exact ⟨hc, rfl, ha⟩
    | false => exact absurd rfl he.2

theorem polled_after (h : Polled s) (hw : ∀ e ∈ w, Undisturbing e) : Polled (after step s w) := by
  induction w generalizing s with
  | nil => exact h
  | cons e w ih =>
    rw [after_cons]
    exact ih (polled_step h (hw e List.mem_cons_self)) fun d hd => hw d (List.mem_cons_of_mem e hd)

theorem awake_ne_ended {location : PollLocation} (h : location ≠ .ended) :
    location.awake ≠ .ended := by
  cases location <;> simp_all [PollLocation.awake]

/-- The loop of a polled session does not end. -/
theorem running_step (h : Polled s) (hr : s.location ≠ .ended) (he : Undisturbing e) :
    (step s e).1.location ≠ .ended := by
  obtain ⟨hc, hl, ha⟩ := h
  cases e with
  | startOBD2Polling => simpa [step, startOBD2Polling, hc, ha] using hr
  | stopOBD2Polling => exact absurd rfl he.1
  | control => simpa [step, controlStep, hc] using hr
  | loop =>
    cases hready : s.promptReady <;> simp only [step, obd2PollingLoop, moveTo] <;>
      split <;> simp_all
  | expire =>
    simp only [step, expire]
    split <;> simp_all
  | wake => exact awake_ne_ended hr
  | prompt => exact awake_ne_ended hr
  | link up => exact hr

theorem running_start_iff (hc : s.control = .idle) :
    (step s .startOBD2Polling).1.location ≠ .ended ↔
      (s.pollingActive = true → s.location ≠ .ended) := by
  cases ha : s.pollingActive <;> simp [step, startOBD2Polling, hc, ha]

theorem startKept_concat_iff (h : StartKept w) : StartKept (w ++ [e]) ↔
    (e = .startOBD2Polling → Timely (after step {} w) .startOBD2Polling) := by
  constructor
  · rintro hw rfl hc hl
    have hrun := hw w [] rfl hc hl (by simp)
    rw [after_concat] at hrun
    exact (running_start_iff hc).mp hrun
  · intro he u v hsplit hc hl hv
    rw [after_concat]
    rcases concat_eq_split hsplit with ⟨rfl, rfl⟩ | ⟨v', rfl⟩
    · exact (running_start_iff hc).mpr (he rfl hc hl)
    · obtain rfl : v' ++ [e] = v := by simpa using hsplit
      have hv' : ∀ d ∈ v', Undisturbing d := fun d hd => hv d (List.mem_append_left _ hd)
      have hpolled : Polled (after step {} (u ++ .startOBD2Polling :: v')) := by
        rw [after_append, after_cons]
        exact polled_after (polled_start hc hl) hv'
      exact running_step hpolled (h u v' rfl hc hl hv') (hv e (by simp))

end Start

/-- Polling can be stopped and restarted along a run exactly if every step is timely. -/
theorem restartable_iff (w : List PollEvent) : Restartable w ↔ Guarded step Timely {} w := by
  have hnil : StartKept [] ∧ WakeKept [] ∧ AssignKept [] := by
    refine ⟨?_, ?_, assignKept []⟩
    · intro u v h
      simp at h
    · intro h
      cases h
  have hfree (v : List PollEvent) : WakeKept v ↔
      ((after step {} v).control = .joining → (after step {} v).Free) := by
    refine forall_congr' fun hc => exitsUnaided_iff ?_
    exact (consistent_after v).stopping (by simp [hc])
  rw [guarded_iff_forall]
  refine forall_prefix_iff_everySplit hnil ?_
  rintro v e - ⟨hstart, hwake, -⟩
  have hs := consistent_after v
  rw [startKept_concat_iff hstart, hfree, after_concat]
  rw [hfree] at hwake
  by_cases he : e = .startOBD2Polling
  · subst he
    constructor
    · rintro ⟨ht, -⟩
      exact ht rfl
    · intro ht
      exact ⟨fun _ => ht, wake_start hwake, assignKept _⟩
  · rw [wake_step_iff hs hwake he]
    constructor
    · rintro ⟨-, ht, -⟩
      exact ht
    · intro ht
      exact ⟨fun h => absurd h he, ht, assignKept _⟩

/-- A loop has ended behind a drop, and the link is up again when polling is started. -/
def restartedAfterDrop : List PollEvent :=
  [.link true, .startOBD2Polling, .loop, .expire, .loop, .link false, .loop, .link true,
    .startOBD2Polling]

/-- A stop whose notification comes between a query and the wait for its prompt. -/
def stoppedBehindQuery : List PollEvent :=
  [.link true, .startOBD2Polling, .loop, .expire, .loop, .loop, .loop, .loop, .loop,
    .stopOBD2Polling, .control]

/-- Behind the drop no loop runs; behind the query the loop waits out its deadline. -/
theorem not_restartable : ¬ Restartable restartedAfterDrop ∧ ¬ Restartable stoppedBehindQuery := by
  constructor
  · intro h
    have hstart := (h restartedAfterDrop (List.prefix_refl _)).1
      [.link true, .startOBD2Polling, .loop, .expire, .loop, .link false, .loop, .link true] []
      rfl (by decide) (by decide) (by simp)
    exact hstart (by decide)
  · intro h
    have hwake := (h stoppedBehindQuery (List.prefix_refl _)).2.1 (by decide)
    have hfree := (exitsUnaided_iff (by decide)).mp hwake
    have hlocation : (after step {} stoppedBehindQuery).location = .reset pids.tail := by
      decide
    simp [Free, hlocation] at hfree

end PollingThread

end VehicleSpy.Ble
