import VehicleSpy.Machine.Prefixes
import VehicleSpy.Machine.Run
import VehicleSpy.Pipeline.TCPTransport
import Mathlib.Algebra.GroupWithZero.Nat

/-! # The first connect

At its start the client tries to connect until the device is up, its budget is spent or a stop is
requested. The wait behind a failed attempt is meant to double from one to the next. A wait is cut
down to the slice between two looks at the stop flag, and none of its other slices follows: the
device is tried ten times a second.
-/

namespace VehicleSpy.Pipeline

open Text Machine

namespace FirstConnect

def CONNECT_FIRST_RETRY_MS : ℕ := 250

def CONNECT_MAX_RETRY_MS : ℕ := 5000

def CONNECT_FIRST_BUDGET_MS : ℕ := 30000

/-- Where the connecting thread stands. -/
inductive Phase
  | check
  | connecting
  | sleeping (sleepMs : ℕ)
  | returned (result : Bool)
  deriving DecidableEq, Repr

structure Loop where
  transport : TCPTransport
  phase : Phase := .check
  stopRequested : Bool := false
  attempt : ℕ := 0
  backoffMs : ℕ := CONNECT_FIRST_RETRY_MS
  /-- What the clock shows since the start; only the sleeps advance it. -/
  elapsed : ℕ := 0
  deriving DecidableEq, Repr

inductive Event
  /-- The next step of the connecting thread. -/
  | main
  | requestStop
  deriving DecidableEq, Repr

inductive Output
  | attempt
  | failed
  | err (text : Bytes)
  | slept (ms : ℕ)
  | returned (result : Bool)
  deriving DecidableEq, Repr

def retryMessage (attempt sleepMs : ℕ) : Bytes :=
  ascii "[tcp] connect not up yet (attempt " ++ decimal attempt ++ ascii "), retrying in " ++
    decimal sleepMs ++ ascii "ms" ++ ascii " [CLIENT]"

namespace Loop

variable (answers : ℕ → Attempt) (s : Loop)

/-- The next step, where the socket has its answers for each attempt. -/
def mainStep : Loop × List Output :=
  match s.phase with
  | .check =>
    if s.stopRequested then ({ s with phase := .returned false }, [.returned false])
    else ({ s with phase := .connecting }, [.attempt])
  | .connecting =>
    match s.transport.connectAndAuth (answers s.attempt) with
    | (t, some _) => ({ s with transport := t, phase := .returned true }, [.returned true])
    | (t, none) =>
      if CONNECT_FIRST_BUDGET_MS ≤ s.elapsed then
        ({ s with transport := t, phase := .returned false }, [.failed, .returned false])
      else
        let remaining := CONNECT_FIRST_BUDGET_MS - s.elapsed
        let sleepMs := min (min s.backoffMs remaining) 100
        ({ s with transport := t, phase := .sleeping sleepMs, attempt := s.attempt + 1 },
          [.failed, .err (retryMessage (s.attempt + 1) sleepMs)])
  | .sleeping sleepMs =>
    ({ s with
      phase := .check
      elapsed := s.elapsed + sleepMs
      backoffMs := min (s.backoffMs * 2) CONNECT_MAX_RETRY_MS }, [.slept sleepMs])
  | .returned _ => (s, [])

def step : Event → Loop × List Output
  | .main => s.mainStep answers
  | .requestStop => ({ s with stopRequested := true }, [])

end Loop

def connectUntilUp (t : TCPTransport) : Loop := { transport := t }

section Spec

variable (t : TCPTransport) (answers : ℕ → Attempt)

/-- The time slept since the last failed attempt, if there is one, and that slept between each
failed attempt and the next. -/
def waitsStep (acc : Option ℕ × List ℕ) : Output → Option ℕ × List ℕ
  | .failed => (some 0, acc.2 ++ acc.1.toList)
  | .slept ms => (acc.1.map (· + ms), acc.2)
  | _ => acc

def waits (os : List Output) : Option ℕ × List ℕ := os.foldl waitsStep (none, [])

def sleptMs : List Output → ℕ
  | [] => 0
  | .slept ms :: os => ms + sleptMs os
  | _ :: os => sleptMs os

/-- What the connecting thread has done in a run. -/
def outputs (w : List Event) : List Output := emitted (Loop.step answers) (connectUntilUp t) w

/-- No attempt is made behind the end of the budget. -/
def AttemptsInBudget (os : List Output) : Prop :=
  EverySplit (fun before o => o = .attempt → sleptMs before ≤ CONNECT_FIRST_BUDGET_MS) os

/-- What the first connect promises of a run. -/
structure BacksOff (w : List Event) : Prop where
  waits : .requestStop ∉ w → ∀ k d, (waits (outputs t answers w)).2[k]? = some d →
    d = min (min (CONNECT_FIRST_RETRY_MS * 2 ^ k) CONNECT_MAX_RETRY_MS)
      (CONNECT_FIRST_BUDGET_MS - ((waits (outputs t answers w)).2.take k).sum)
  budget : AttemptsInBudget (outputs t answers w)
  /-- Behind a stop request the thread sleeps for a slice at most and is done in three steps. -/
  stop : ∀ u v, w = u ++ .requestStop :: v →
    sleptMs (emitted (Loop.step answers)
      (after (Loop.step answers) (connectUntilUp t) (u ++ [.requestStop])) v) ≤ 100 ∧
    (3 ≤ v.count .main →
      ∃ result, (after (Loop.step answers) (connectUntilUp t) w).phase = .returned result)

/-- The transport that the attempts are made with, one after the other. -/
def tried : ℕ → TCPTransport
  | 0 => t
  | k + 1 => ((tried k).connectAndAuth (answers k)).1

def Connects (k : ℕ) : Prop := ((tried t answers k).connectAndAuth (answers k)).2.isSome = true

end Spec

section Outputs

variable {os : List Output}

theorem sleptMs_append (os os' : List Output) : sleptMs (os ++ os') = sleptMs os + sleptMs os' := by
  induction os with
  | nil => simp [sleptMs]
  | cons o os ih =>
    cases o with
    | slept ms => rw [List.cons_append, sleptMs, ih, sleptMs, Nat.add_assoc]
    | attempt | failed | err | returned => exact ih

@[simp] theorem waits_concat (os : List Output) (o : Output) :
    waits (os ++ [o]) = waitsStep (waits os) o :=
  List.foldl_concat _ _ _ _

/-- Each failed attempt but the first ends a wait. -/
theorem length_waits (os : List Output) :
    (waits os).2.length = os.count .failed - 1 ∧
      ((waits os).1 = none ↔ os.count .failed = 0) := by
  induction os using List.reverseRecOn with
  | nil => exact ⟨rfl, iff_of_true rfl rfl⟩
  | append_singleton os o ih =>
    obtain ⟨hlen, hnone⟩ := ih
    rw [waits_concat, List.count_append]
    cases o with
    | failed =>
      have hone : ([Output.failed].count .failed) = 1 := rfl
      rw [hone]
      refine ⟨?_, iff_of_false nofun (Nat.succ_ne_zero _)⟩
      simp only [waitsStep, List.length_append]
      cases h : (waits os).1 with
      | none =>
        have := hnone.mp h
        simp only [Option.toList_none, List.length_nil]
        omega
      | some ms =>
        have : os.count .failed ≠ 0 := fun hz => nomatch h.symm.trans (hnone.mpr hz)
        simp only [Option.toList_some, List.length_singleton]
        omega
    | slept ms =>
      refine ⟨hlen, ?_⟩
      simp only [waitsStep, Option.map_eq_none_iff]
      exact hnone
    | attempt | err | returned => exact ⟨hlen, hnone⟩

theorem waits_eq_nil (h : os.count .failed ≤ 1) : (waits os).2 = [] := by
  rw [← List.length_eq_zero_iff, (length_waits os).1]
  omega

end Outputs

section Run

variable {t : TCPTransport} {answers : ℕ → Attempt} {s : Loop} {os : List Output}

/-- The next attempt is that of the script's next answers, with the transport the others have
left. -/
structure Trying (t : TCPTransport) (answers : ℕ → Attempt) (s : Loop) (os : List Output) :
    Prop where
  transport : s.transport = tried t answers s.attempt
  failed : os.count .failed = s.attempt

/-- What holds of the connecting thread and of what it has done. -/
structure Reached (t : TCPTransport) (answers : ℕ → Attempt) (s : Loop) (os : List Output) :
    Prop where
  clock : sleptMs os = s.elapsed
  inBudget : s.elapsed ≤ CONNECT_FIRST_BUDGET_MS
  slice : ∀ ms, s.phase = .sleeping ms → ms ≤ 100 ∧ s.elapsed + ms ≤ CONNECT_FIRST_BUDGET_MS
  attempts : AttemptsInBudget os
  trying : (∀ result, s.phase ≠ .returned result) → Trying t answers s os
  failures : ∀ k < os.count .failed, ¬ Connects t answers k

theorem reached_start (t : TCPTransport) (answers : ℕ → Attempt) :
    Reached t answers (connectUntilUp t) [] where
  clock := rfl
  inBudget := Nat.zero_le _
  slice := nofun
  attempts := everySplit_nil _
  trying := fun _ => ⟨rfl, rfl⟩
  failures := nofun

/-- Outputs without the start of an attempt may follow any others. -/
theorem AttemptsInBudget.append {os' : List Output} (h : AttemptsInBudget os)
    (ho : .attempt ∉ os') : AttemptsInBudget (os ++ os') := by
  induction os' using List.reverseRecOn with
  | nil => rwa [List.append_nil]
  | append_singleton os' o ih =>
    rw [List.mem_append, List.mem_singleton, not_or] at ho
    rw [← List.append_assoc]
    exact everySplit_concat.mpr ⟨ih ho.1, fun he => absurd he.symm ho.2⟩

theorem Reached.check (h : Reached t answers s os) (hp : s.phase = .check) :
    Reached t answers (s.mainStep answers).1 (os ++ (s.mainStep answers).2) := by
  have htrying := h.trying (by simp [hp])
  simp only [Loop.mainStep, hp]
  split
  · refine ⟨?_, h.inBudget, nofun, h.attempts.append (by simp), fun hr => absurd rfl (hr _), ?_⟩
    · rw [sleptMs_append, h.clock]
      rfl
    · simpa using h.failures
  · refine ⟨?_, h.inBudget, nofun, everySplit_concat.mpr ⟨h.attempts, fun _ => ?_⟩,
      fun _ => ⟨htrying.transport, ?_⟩, ?_⟩
    · rw [sleptMs_append, h.clock]
      rfl
    · rw [h.clock]
      exact h.inBudget
    · simpa using htrying.failed
    · simpa using h.failures

theorem Reached.connecting (h : Reached t answers s os) (hp : s.phase = .connecting) :
    Reached t answers (s.mainStep answers).1 (os ++ (s.mainStep answers).2) := by
  obtain ⟨htransport, hfailed⟩ := h.trying (by simp [hp])
  simp only [Loop.mainStep, hp]
  rcases hc : s.transport.connectAndAuth (answers s.attempt) with ⟨t', _ | peer⟩
  · have hfails : ∀ k < os.count .failed + 1, ¬ Connects t answers k := by
      intro k hk
      rcases Nat.lt_succ_iff_lt_or_eq.mp hk with hlt | rfl
      · exact h.failures k hlt
      · rw [hfailed, Connects, ← htransport, hc]
        exact Bool.false_ne_true
    dsimp only
    split
    · refine ⟨?_, h.inBudget, nofun, h.attempts.append (by simp), fun hr => absurd rfl (hr _), ?_⟩
      · rw [sleptMs_append, h.clock]
        rfl
      · simpa [List.count_cons] using hfails
    · next hbudget =>
      refine ⟨?_, h.inBudget, ?_, h.attempts.append (by simp), fun _ => ⟨?_, ?_⟩, ?_⟩
      · rw [sleptMs_append, h.clock]
        rfl
      · rintro ms ⟨⟩
        dsimp only
        omega
      · rw [tried, ← htransport, hc]
      · simpa [List.count_cons] using hfailed
      · simpa [List.count_cons] using hfails
  · refine ⟨?_, h.inBudget, nofun, h.attempts.append (by simp), fun hr => absurd rfl (hr _), ?_⟩
    · rw [sleptMs_append, h.clock]
      rfl
    · simpa using h.failures

theorem Reached.sleeping {ms : ℕ} (h : Reached t answers s os) (hp : s.phase = .sleeping ms) :
    Reached t answers (s.mainStep answers).1 (os ++ (s.mainStep answers).2) := by
  obtain ⟨htransport, hfailed⟩ := h.trying (by simp [hp])
  simp only [Loop.mainStep, hp]
  refine ⟨?_, (h.slice ms hp).2, nofun, h.attempts.append (by simp), fun _ => ⟨htransport, ?_⟩, ?_⟩
  · rw [sleptMs_append, h.clock]
    rfl
  · simpa using hfailed
  · simpa using h.failures

theorem Reached.step (h : Reached t answers s os) (e : Event) :
    Reached t answers (s.step answers e).1 (os ++ (s.step answers e).2) := by
  cases e with
  | main =>
    rcases hp : s.phase with _ | _ | ms | result
    · exact h.check hp
    · exact h.connecting hp
    · exact h.sleeping hp
    · simpa only [Loop.step, Loop.mainStep, hp, List.append_nil] using h
  | requestStop =>
    rw [show (s.step answers .requestStop).2 = [] from rfl, List.append_nil]
    exact ⟨h.clock, h.inBudget, h.slice, h.attempts, fun hr => ⟨(h.trying hr).1, (h.trying hr).2⟩,
      h.failures⟩

theorem reached (t : TCPTransport) (answers : ℕ → Attempt) (w : List Event) :
    Reached t answers (after (Loop.step answers) (connectUntilUp t) w) (outputs t answers w) := by
  induction w using List.reverseRecOn with
  | nil => exact reached_start t answers
  | append_singleton w e ih =>
    rw [outputs, after_concat, emitted_concat]
    exact ih.step e

/-- The time that the thread may still sleep once a stop is requested. -/
def Loop.due (s : Loop) : ℕ :=
  match s.phase with
  | .check | .returned _ => 0
  | .connecting => 100
  | .sleeping sleepMs => sleepMs

/-- The steps that it may still take then. -/
def Loop.left (s : Loop) : ℕ :=
  match s.phase with
  | .check => 1
  | .connecting => 3
  | .sleeping _ => 2
  | .returned _ => 0

theorem due_le (h : Reached t answers s os) : s.due ≤ 100 := by
  unfold Loop.due
  split
  · exact Nat.zero_le _
  · exact Nat.zero_le _
  · exact le_rfl
  · next ms hp => exact (h.slice ms hp).1

/-- A step behind a stop request takes from what is left. -/
theorem step_stopped (hs : s.stopRequested = true) (e : Event) :
    (s.step answers e).1.stopRequested = true ∧
      sleptMs (s.step answers e).2 + (s.step answers e).1.due ≤ s.due ∧
      (s.step answers e).1.left ≤ s.left - [e].count .main := by
  cases e with
  | requestStop => exact ⟨rfl, (Nat.zero_add _).le, le_rfl⟩
  | main =>
    rcases hp : s.phase with _ | _ | ms | result
    · simp [Loop.step, Loop.mainStep, hp, hs, Loop.due, Loop.left, sleptMs]
    · simp only [Loop.step, Loop.mainStep, hp]
      rcases s.transport.connectAndAuth (answers s.attempt) with ⟨t', _ | peer⟩
      · dsimp only
        split
        · simp [hp, hs, Loop.due, Loop.left, sleptMs]
        · simp [hp, hs, Loop.due, Loop.left, sleptMs]
      · simp [hp, hs, Loop.due, Loop.left, sleptMs]
    · simp [Loop.step, Loop.mainStep, hp, hs, Loop.due, Loop.left, sleptMs]
    · simp [Loop.step, Loop.mainStep, hp, hs, Loop.due, Loop.left, sleptMs]

theorem run_stopped (hs : s.stopRequested = true) (v : List Event) :
    sleptMs (emitted (Loop.step answers) s v) ≤ s.due ∧
      (after (Loop.step answers) s v).left ≤ s.left - v.count .main := by
  induction v generalizing s with
  | nil => exact ⟨Nat.zero_le _, le_rfl⟩
  | cons e v ih =>
    obtain ⟨hstop, hdue, hleft⟩ := @step_stopped answers s hs e
    obtain ⟨hdues, hlefts⟩ := ih hstop
    rw [emitted_cons, after_cons, sleptMs_append, ← List.singleton_append, List.count_append]
    omega

theorem exists_returned (h : s.left = 0) : ∃ result, s.phase = .returned result := by
  unfold Loop.left at h
  split at h
  · cases h
  · cases h
  · cases h
  · next result hp => exact ⟨result, hp⟩

/-- Two failed attempts are 100 ms apart. -/
theorem waits_two (h₀ : ¬ Connects t answers 0) (h₁ : ¬ Connects t answers 1) :
    (waits (outputs t answers (List.replicate 5 .main))).2 = [100] := by
  have hfirst : (t.connectAndAuth (answers 0)).2 = none := by
    simpa [Connects, tried] using h₀
  have hsecond : ((t.connectAndAuth (answers 0)).1.connectAndAuth (answers 1)).2 = none := by
    simpa [Connects, tried] using h₁
  rcases hc : t.connectAndAuth (answers 0) with ⟨t₁, r₁⟩
  rw [hc] at hfirst hsecond
  obtain rfl : r₁ = none := hfirst
  rcases hc' : t₁.connectAndAuth (answers 1) with ⟨t₂, r₂⟩
  rw [hc'] at hsecond
  obtain rfl : r₂ = none := hsecond
  simp [outputs, List.replicate, Loop.step, Loop.mainStep, connectUntilUp, hc, hc', waits,
    waitsStep, CONNECT_FIRST_RETRY_MS, CONNECT_FIRST_BUDGET_MS]

/-- With one of the first two attempts a success, no wait is long enough to be cut. -/
theorem backsOff_of_connects (h : Connects t answers 0 ∨ Connects t answers 1) (w : List Event) :
    BacksOff t answers w := by
  have hreached := reached t answers w
  have hfew : (outputs t answers w).count .failed ≤ 1 := by
    by_contra hmany
    rcases h with h | h
    · exact hreached.failures 0 (by omega) h
    · exact hreached.failures 1 (by omega) h
  refine ⟨?_, hreached.attempts, ?_⟩
  · rintro - k d hd
    rw [waits_eq_nil hfew] at hd
    cases hd
  · rintro u v rfl
    have hu := reached t answers (u ++ [.requestStop])
    have hstop : (after (Loop.step answers) (connectUntilUp t)
        (u ++ [.requestStop])).stopRequested = true := by
      rw [after_concat]
      rfl
    obtain ⟨hslept, hleft⟩ := @run_stopped answers _ hstop v
    refine ⟨hslept.trans (due_le hu), fun hsteps => exists_returned ?_⟩
    have hle : (after (Loop.step answers) (connectUntilUp t) (u ++ [.requestStop])).left ≤ 3 := by
      unfold Loop.left
      split <;> decide
    rw [← List.singleton_append, ← List.append_assoc, after_append]
    omega

end Run

/-- The first connect backs off in every run just when one of the first two attempts succeeds. -/
theorem backsOff_iff (t : TCPTransport) (answers : ℕ → Attempt) :
    (∀ w, BacksOff t answers w) ↔ Connects t answers 0 ∨ Connects t answers 1 := by
  constructor
  · intro h
    by_contra hnone
    rw [not_or] at hnone
    have hwaits := (h (List.replicate 5 .main)).waits (by decide) 0 100
    rw [waits_two hnone.1 hnone.2] at hwaits
    exact absurd (hwaits rfl) (by decide)
  · exact backsOff_of_connects

/-- The socket of a device that is down. -/
def down : Attempt where
  connects := false
  authReply := []
  recvs := []
  authReply_length := Nat.zero_le 63

/-- A device that is down is tried again after 100 ms. -/
theorem not_backsOff :
    ¬ BacksOff { host := ascii "192.168.4.1" } (fun _ => down) (List.replicate 5 .main) := by
  intro h
  exact absurd (h.waits (by decide) 0 100 (by decide)) (by decide)

end FirstConnect

end VehicleSpy.Pipeline
