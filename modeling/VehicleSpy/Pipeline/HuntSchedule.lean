import VehicleSpy.Machine.Run
import VehicleSpy.Pipeline.ReconnectIdentity

/-! # The schedule of the hunt

The hunt, taken apart between the accesses of its thread to what the discovery thread and a
stop request change: rapid retries, back-off waits in slices, and the attempt at a discovered
address. What the hunt promises holds in every run that keeps clear of three places: the count
that goes up twice, the wait that ends without a look at the stop flag, and the switch to a
discovered address without one.
-/

namespace VehicleSpy.Pipeline

open Text Machine

namespace HuntSchedule

def BASE_RETRY_DELAY_MS : ℕ := 1000

def MAX_RETRY_DELAY_MS : ℕ := 10000

def RAPID_RETRY_DELAY_MS : ℕ := 50

def calculateRetryDelayMs (retryCount : ℕ) : ℕ :=
  min (BASE_RETRY_DELAY_MS * 2 ^ min retryCount 12) MAX_RETRY_DELAY_MS

/-- What an attempt to connect is made for. -/
inductive Target
  | rapid (attempt : ℕ)
  | backoff
  | discovered
  deriving DecidableEq, Repr

/-- Where the hunting thread stands. -/
inductive Phase
  | rapidCheck (attempt : ℕ)
  | rapidSleep (attempt : ℕ)
  | rapidRecheck (attempt : ℕ)
  /-- Behind the last check of the flags, in front of `connectAndAuth`. -/
  | connecting (target : Target)
  | attempting (target : Target)
  | retryCheck
  | waitCheck (elapsed : ℕ)
  | slice (elapsed : ℕ)
  | joining (reconnected : Bool)
  | finalize (reconnected : Bool)
  | returned (result : Bool)
  deriving DecidableEq, Repr

inductive DiscoveryPhase | starting | checking | polling | ended
  deriving DecidableEq, Repr

structure Hunt where
  transport : TCPTransport
  phase : Phase := .rapidCheck 0
  retryCount : ℕ := 0
  stopRequested : Bool := false
  discovery : DiscoveryPhase := .starting
  shouldStopDiscovery : Bool := false
  discoveryFound : Bool := false
  discoveredIp : Bytes := []
  deriving DecidableEq, Repr

inductive Event
  /-- The next step of the hunting thread, and what the socket answers if it ends an attempt. -/
  | main (a : Attempt)
  | discoveryStart (ok : Bool)
  | discoveryCheck
  | poll (devices : List DiscoveredDevice)
  | requestStop
  deriving DecidableEq, Repr

inductive Output
  | slept (ms : ℕ)
  | attempt (target : Target)
  | result (ok : Bool)
  | returned (result : Bool)
  deriving DecidableEq, Repr

namespace Hunt

variable (s : Hunt)

def interrupted : Bool := s.discoveryFound || s.stopRequested

/-- Discovery has an address to switch to. -/
def won : Bool := s.discoveryFound && s.discoveredIp != []

/-- The delay of the back-off wait that the thread is in. -/
def delayMs : ℕ := calculateRetryDelayMs (s.retryCount - 1)

/-- Whether the back-off wait that the thread is in has lasted its delay. -/
def waitOver : Bool :=
  match s.phase with
  | .waitCheck elapsed => s.delayMs ≤ elapsed
  | _ => false

/-- Whether the thread is past its last check in front of an attempt. -/
def isConnecting : Bool :=
  match s.phase with
  | .connecting _ => true
  | _ => false

/-- The retries are over: the discovery thread is told to stop. -/
def join (reconnected : Bool) : Hunt :=
  { s with phase := .joining reconnected, shouldStopDiscovery := true }

/-- An attempt has ended. The count goes up behind the back-off attempt, too. -/
def endAttempt (target : Target) (ok : Bool) : Hunt × List Output :=
  match target with
  | .rapid attempt =>
    if ok then ({ s with retryCount := 0 }.join true, [.result true])
    else ({ s with phase := .rapidCheck (attempt + 1) }, [.result false])
  | .backoff =>
    let s := { s with retryCount := s.retryCount + 1 }
    if ok then (s.join true, [.result true]) else ({ s with phase := .retryCheck }, [.result false])
  | .discovered =>
    ({ s with phase := .returned ok, retryCount := if ok then 0 else s.retryCount },
      [.result ok, .returned ok])

/-- The next step of the hunting thread, from one access to the flags to the next. -/
def mainStep (a : Attempt) : Hunt × List Output :=
  match s.phase with
  | .rapidCheck attempt =>
    if RAPID_RETRIES ≤ attempt || s.interrupted then ({ s with phase := .retryCheck }, [])
    else if 0 < attempt then ({ s with phase := .rapidSleep attempt }, [])
    else ({ s with phase := .connecting (.rapid attempt) }, [])
  | .rapidSleep attempt =>
    ({ s with phase := .rapidRecheck attempt }, [.slept RAPID_RETRY_DELAY_MS])
  | .rapidRecheck attempt =>
    if s.interrupted then ({ s with phase := .retryCheck }, [])
    else ({ s with phase := .connecting (.rapid attempt) }, [])
  | .connecting target => ({ s with phase := .attempting target }, [.attempt target])
  | .attempting target =>
    let (t, peer) := s.transport.connectAndAuth a
    { s with transport := t }.endAttempt target peer.isSome
  | .retryCheck =>
    if s.retryCount < MAX_RETRIES && !s.interrupted then
      ({ s with phase := .waitCheck 0, retryCount := s.retryCount + 1 }, [])
    else (s.join false, [])
  | .waitCheck elapsed =>
    if elapsed < s.delayMs then
      if s.interrupted then ({ s with retryCount := s.retryCount + 1 }.join false, [])
      else ({ s with phase := .slice elapsed }, [])
    else if s.discoveryFound then ({ s with retryCount := s.retryCount + 1 }.join false, [])
    else ({ s with phase := .connecting .backoff }, [])
  | .slice elapsed =>
    ({ s with phase := .waitCheck (elapsed + 100) }, [.slept (min 100 (s.delayMs - elapsed))])
  | .joining reconnected =>
    if s.discovery = .ended then ({ s with phase := .finalize reconnected }, []) else (s, [])
  | .finalize reconnected =>
    if reconnected then ({ s with phase := .returned true, retryCount := 0 }, [.returned true])
    else if s.won then
      ({ s with transport := { s.transport with host := s.discoveredIp },
                phase := .connecting .discovered }, [])
    else ({ s with phase := .returned false }, [.returned false])
  | .returned _ => (s, [])

/-- The thread ends with the first target it finds. -/
def pollStep (devices : List DiscoveredDevice) : Hunt :=
  match devices.find? s.transport.isTargetDevice with
  | some device =>
    { s with discoveryFound := true, discoveredIp := device.address, discovery := .ended }
  | none => { s with discovery := .checking }

def step (s : Hunt) : Event → Hunt × List Output
  | .main a => s.mainStep a
  | .discoveryStart ok =>
    if s.discovery = .starting then
      ({ s with discovery := if ok then .checking else .ended }, [])
    else (s, [])
  | .discoveryCheck =>
    if s.discovery = .checking then
      ({ s with
        discovery := if s.shouldStopDiscovery || s.stopRequested then .ended else .polling }, [])
    else (s, [])
  | .poll devices => if s.discovery = .polling then (s.pollStep devices, []) else (s, [])
  | .requestStop => ({ s with stopRequested := true }, [])

end Hunt

def enterHuntingState (t : TCPTransport) : Hunt := { transport := t }

section Spec

/-- The total of the waits since the last attempt, and those in front of the back-off attempts. -/
def waitsStep (acc : ℕ × List ℕ) : Output → ℕ × List ℕ
  | .slept ms => (acc.1 + ms, acc.2)
  | .attempt .backoff => (0, acc.2 ++ [acc.1])
  | .attempt _ => (0, acc.2)
  | _ => acc

def waits (os : List Output) : ℕ × List ℕ := os.foldl waitsStep (0, [])

def resultOf : Output → Option Bool
  | .result ok => some ok
  | _ => none

def lastResult (os : List Output) : Option Bool := os.reverse.findSome? resultOf

/-- The address of a device that discovery took for the target, somewhere in a run. -/
def Accepted (t : TCPTransport) (w : List Event) (address : Bytes) : Prop :=
  ∃ u devices v device, w = u ++ .poll devices :: v ∧ device ∈ devices ∧
    (after Hunt.step (enterHuntingState t) u).transport.isTargetDevice device = true ∧
    device.address = address

/-- What the hunt promises of a run, from the transport it is entered with. -/
structure AsSpecified (t : TCPTransport) (w : List Event) : Prop where
  outcome : ∀ b, .returned b ∈ emitted Hunt.step (enterHuntingState t) w →
    (b = true ↔ lastResult (emitted Hunt.step (enterHuntingState t) w) = some true)
  host : (after Hunt.step (enterHuntingState t) w).transport.host = t.host ∨
    Accepted t w (after Hunt.step (enterHuntingState t) w).transport.host
  /-- The back-off attempts come behind all rapid ones, and the `k`-th behind its delay. -/
  rapid : .attempt .backoff ∈ emitted Hunt.step (enterHuntingState t) w →
    ∀ n < RAPID_RETRIES, .attempt (.rapid n) ∈ emitted Hunt.step (enterHuntingState t) w
  delays : (after Hunt.step (enterHuntingState t) w).interrupted = false → ∀ (k d : ℕ),
    (waits (emitted Hunt.step (enterHuntingState t) w)).2[k]? = some d →
      k < MAX_RETRIES ∧ d = min (1000 * 2 ^ k) MAX_RETRY_DELAY_MS
  /-- Unless it is interrupted, the hunt gives up only when its budget is used up. -/
  budget : (after Hunt.step (enterHuntingState t) w).interrupted = false →
    .returned false ∈ emitted Hunt.step (enterHuntingState t) w →
      (waits (emitted Hunt.step (enterHuntingState t) w)).2.length = MAX_RETRIES
  /-- Behind a stop request no attempt is started. -/
  stop : ∀ u e v, w = u ++ e :: v →
    (after Hunt.step (enterHuntingState t) u).stopRequested = true →
    ∀ target, .attempt target ∉ (Hunt.step (after Hunt.step (enterHuntingState t) u) e).2

/-- The step keeps clear of the three places. No stop request comes between the last check in
front of an attempt and the attempt; a back-off wait that is over, with nothing found, is the
first one and no stop is requested; and none is where the hunt turns to a discovered address. -/
def Clear (s : Hunt) : Event → Prop
  | .requestStop => s.isConnecting = false
  | .main _ =>
    (s.waitOver = true → s.discoveryFound = false →
      s.stopRequested = false ∧ s.retryCount = 1) ∧
    (s.phase = .finalize false → s.won = true → s.stopRequested = false)
  | .discoveryStart _ | .discoveryCheck | .poll _ => True

instance (s : Hunt) : ∀ e, Decidable (Clear s e)
  | .requestStop => inferInstanceAs (Decidable (s.isConnecting = false))
  | .main _ => inferInstanceAs (Decidable ((_ → _ → _ ∧ _) ∧ (_ → _ → _)))
  | .discoveryStart _ | .discoveryCheck | .poll _ => isTrue trivial

end Spec

section Outputs

variable {os : List Output}

/-- No attempt has succeeded and the hunt has not returned. -/
def Open (os : List Output) : Prop := (∀ b, .returned b ∉ os) ∧ lastResult os ≠ some true

/-- The last attempt has succeeded and the hunt has not returned. -/
def Succeeded (os : List Output) : Prop := (∀ b, .returned b ∉ os) ∧ lastResult os = some true

/-- The first rapid attempts have been made. -/
def Rapids (n : ℕ) (os : List Output) : Prop := ∀ m < n, .attempt (.rapid m) ∈ os

/-- At most one back-off attempt has been made, behind the base delay and all rapid attempts. -/
def Few (os : List Output) : Prop :=
  (waits os).2 = [] ∨ (waits os).2 = [1000] ∧ Rapids RAPID_RETRIES os

@[simp] theorem waits_concat (os : List Output) (o : Output) :
    waits (os ++ [o]) = waitsStep (waits os) o :=
  List.foldl_concat _ _ _ _

@[simp] theorem lastResult_concat (os : List Output) (o : Output) :
    lastResult (os ++ [o]) = (resultOf o).or (lastResult os) := by
  simp only [lastResult, List.reverse_append, List.reverse_singleton, List.singleton_append,
    List.findSome?_cons]
  cases resultOf o <;> rfl

theorem Rapids.concat {n : ℕ} (h : Rapids n os) (o : Output) : Rapids n (os ++ [o]) :=
  fun m hm => List.mem_append_left _ (h m hm)

theorem Rapids.succ {n : ℕ} (h : Rapids n os) : Rapids (n + 1) (os ++ [.attempt (.rapid n)]) := by
  intro m hm
  rcases Nat.lt_succ_iff_lt_or_eq.mp hm with hlt | rfl
  · exact h.concat _ m hlt
  · simp

theorem Open.concat {o : Output} (h : Open os) (hr : ∀ b, o ≠ .returned b)
    (ho : resultOf o ≠ some true) : Open (os ++ [o]) := by
  constructor
  · rintro b hb
    rcases List.mem_append.mp hb with hb | hb
    · exact h.1 b hb
    · exact hr b (List.mem_singleton.mp hb).symm
  · rw [lastResult_concat]
    cases hres : resultOf o with
    | none => exact h.2
    | some ok =>
      rw [hres] at ho
      exact ho

theorem Open.succeed (h : Open os) : Succeeded (os ++ [.result true]) := by
  constructor
  · rintro b hb
    rcases List.mem_append.mp hb with hb | hb
    · exact h.1 b hb
    · cases List.mem_singleton.mp hb
  · rw [lastResult_concat]
    rfl

theorem Few.concat {o : Output} (h : Few os) (ho : o ≠ .attempt .backoff) : Few (os ++ [o]) := by
  have hkeep : (waits (os ++ [o])).2 = (waits os).2 := by
    rw [waits_concat]
    unfold waitsStep
    split
    · rfl
    · exact absurd rfl ho
    · rfl
    · rfl
  rcases h with h | ⟨h, hr⟩
  · exact Or.inl (hkeep.trans h)
  · exact Or.inr ⟨hkeep.trans h, hr.concat o⟩

/-- Each back-off attempt leaves its wait. -/
theorem backoff_notMem (h : (waits os).2 = []) : .attempt .backoff ∉ os := by
  induction os using List.reverseRecOn with
  | nil => exact List.not_mem_nil
  | append_singleton os o ih =>
    rw [waits_concat] at h
    rcases o with ms | (n | _ | _) | ok | b
    · simpa using ih h
    · simpa using ih h
    · simp [waitsStep] at h
    · simpa using ih h
    · simpa using ih h
    · simpa using ih h

theorem Few.rapids (h : Few os) (hmem : .attempt .backoff ∈ os) : Rapids RAPID_RETRIES os := by
  rcases h with h | ⟨-, h⟩
  · exact absurd hmem (backoff_notMem h)
  · exact h

end Outputs

section Facts

variable {s : Hunt} {os : List Output}

/-- What has come before, told by where the thread stands, by its count and by whether it is
interrupted, in a run that keeps clear. -/
def FactsAt (retryCount : ℕ) (interrupted : Bool) (os : List Output) : Phase → Prop
  | .rapidCheck n | .rapidSleep n => Open os ∧ retryCount = 0 ∧ waits os = (0, []) ∧ Rapids n os
  | .rapidRecheck n | .connecting (.rapid n) =>
    Open os ∧ retryCount = 0 ∧ (waits os).2 = [] ∧ Rapids n os
  | .attempting (.rapid n) => Open os ∧ retryCount = 0 ∧ waits os = (0, []) ∧ Rapids (n + 1) os
  | .retryCheck => Open os ∧ (interrupted = true ∨ Rapids RAPID_RETRIES os ∧
      (retryCount = 0 ∧ waits os = (0, []) ∨ retryCount = 2 ∧ (waits os).2 = [1000]))
  | .waitCheck elapsed | .slice elapsed => Open os ∧ Rapids RAPID_RETRIES os ∧
      (retryCount = 1 ∧ waits os = (min elapsed 1000, []) ∨
        retryCount = 3 ∧ (waits os).2 = [1000])
  | .connecting .backoff => Open os ∧ Rapids RAPID_RETRIES os ∧ retryCount = 1 ∧
      waits os = (1000, [])
  | .attempting .backoff => Open os ∧ Rapids RAPID_RETRIES os ∧ retryCount = 1 ∧
      (waits os).2 = [1000]
  | .joining true | .finalize true => Succeeded os
  | .joining false | .finalize false | .connecting .discovered | .attempting .discovered =>
    Open os ∧ interrupted = true
  | .returned b => (∀ b', .returned b' ∈ os → b' = b) ∧ (b = true ↔ lastResult os = some true) ∧
      (b = false → interrupted = true)

structure Facts (s : Hunt) (os : List Output) : Prop where
  few : Few os
  at_phase : FactsAt s.retryCount s.interrupted os s.phase

theorem FactsAt.interrupt {n : ℕ} {p : Phase} (h : FactsAt n false os p) : FactsAt n true os p := by
  rcases p with n | n | n | (n | _ | _) | (n | _ | _) | _ | e | e | (_ | _) | (_ | _) | b
  case retryCheck => exact ⟨h.1, Or.inl rfl⟩
  case connecting.discovered | attempting.discovered | joining.false | finalize.false =>
    exact ⟨h.1, rfl⟩
  case returned => exact ⟨h.1, h.2.1, fun _ => rfl⟩
  all_goals exact h

/-- The facts outlive what the other threads do to the flags. -/
theorem Facts.mono {s' : Hunt} (h : Facts s os) (hphase : s'.phase = s.phase)
    (hcount : s'.retryCount = s.retryCount) (hint : s.interrupted = true → s'.interrupted = true) :
    Facts s' os := by
  obtain ⟨hfew, hat⟩ := h
  refine ⟨hfew, ?_⟩
  rw [hphase, hcount]
  cases hs : s.interrupted with
  | true =>
    rw [hint hs]
    rwa [hs] at hat
  | false =>
    cases hs' : s'.interrupted with
    | false => rwa [hs] at hat
    | true =>
      rw [hs] at hat
      exact hat.interrupt

theorem facts_endAttempt {target : Target} (h : Facts s os) (hp : s.phase = .attempting target)
    (ok : Bool) : Facts (s.endAttempt target ok).1 (os ++ (s.endAttempt target ok).2) := by
  obtain ⟨hfew, hat⟩ := h
  rw [hp] at hat
  rcases target with n | _ | _
  · obtain ⟨ho, hr, hw, hn⟩ := hat
    cases ok with
    | true => exact ⟨hfew.concat nofun, ho.succeed⟩
    | false =>
      have hw' : waits (os ++ [.result false]) = (0, []) := by
        rw [waits_concat, hw]
        rfl
      exact ⟨hfew.concat nofun, ho.concat nofun nofun, hr, hw', hn.concat _⟩
  · obtain ⟨ho, hrapid, hr, hw⟩ := hat
    cases ok with
    | true => exact ⟨hfew.concat nofun, ho.succeed⟩
    | false =>
      have hw' : (waits (os ++ [.result false])).2 = [1000] := by
        rw [waits_concat]
        exact hw
      exact ⟨hfew.concat nofun, ho.concat nofun nofun,
        Or.inr ⟨hrapid.concat _, Or.inr ⟨congrArg (· + 1) hr, hw'⟩⟩⟩
  · obtain ⟨ho, hi⟩ := hat
    have hsplit : os ++ [.result ok, .returned ok] = (os ++ [.result ok]) ++ [.returned ok] := by
      rw [List.append_assoc]
      rfl
    have hres : lastResult (os ++ [.result ok, .returned ok]) = some ok := by
      rw [hsplit, lastResult_concat, lastResult_concat]
      rfl
    refine ⟨?_, ?_, ?_, fun _ => hi⟩
    · change Few (os ++ [.result ok, .returned ok])
      rw [hsplit]
      exact (hfew.concat (o := .result ok) nofun).concat nofun
    · rintro b hb
      rcases List.mem_append.mp hb with hb | hb
      · exact absurd hb (ho.1 b)
      · simpa [Hunt.endAttempt] using hb
    · change ok = true ↔ lastResult (os ++ [.result ok, .returned ok]) = some true
      rw [hres, Option.some.injEq]

theorem waitOver_of_le {elapsed : ℕ} (hp : s.phase = .waitCheck elapsed)
    (hle : s.delayMs ≤ elapsed) : s.waitOver = true := by
  rw [Hunt.waitOver, hp]
  exact decide_eq_true hle

/-- Nothing else is returned behind what the hunt returns. -/
theorem returned_eq {b : Bool} (h : ∀ b', .returned b' ∉ os) :
    ∀ b', .returned b' ∈ os ++ [.returned b] → b' = b := by
  intro b' hb'
  rcases List.mem_append.mp hb' with hb' | hb'
  · exact absurd hb' (h b')
  · cases List.mem_singleton.mp hb'
    rfl

/-- A step that does nothing outside. -/
theorem Facts.silent (h : Facts s os) : Facts s (os ++ []) := by rwa [List.append_nil]

theorem facts_rapid {n : ℕ} (h : Facts s os) (a : Attempt)
    (hp : s.phase = .rapidCheck n ∨ s.phase = .rapidSleep n ∨ s.phase = .rapidRecheck n) :
    Facts (s.mainStep a).1 (os ++ (s.mainStep a).2) := by
  obtain ⟨hfew, hat⟩ := h
  rcases hp with hp | hp | hp
  · rw [hp] at hat
    obtain ⟨ho, hr, hw, hn⟩ := hat
    simp only [Hunt.mainStep, hp]
    split
    · next hover =>
      rw [Bool.or_eq_true, decide_eq_true_eq] at hover
      refine Facts.silent ⟨hfew, ho, ?_⟩
      rcases hover with hle | hi
      · exact Or.inr ⟨fun m hm => hn m (by omega), Or.inl ⟨hr, hw⟩⟩
      · exact Or.inl hi
    · split
      · exact Facts.silent ⟨hfew, ho, hr, hw, hn⟩
      · exact Facts.silent ⟨hfew, ho, hr, congrArg Prod.snd hw, hn⟩
  · rw [hp] at hat
    obtain ⟨ho, hr, hw, hn⟩ := hat
    simp only [Hunt.mainStep, hp]
    refine ⟨hfew.concat nofun, ho.concat nofun nofun, hr, ?_, hn.concat _⟩
    rw [waits_concat, hw]
    rfl
  · rw [hp] at hat
    obtain ⟨ho, hr, hw, hn⟩ := hat
    simp only [Hunt.mainStep, hp]
    split
    · next hi =>
      exact Facts.silent ⟨hfew, ho, Or.inl hi⟩
    · exact Facts.silent ⟨hfew, ho, hr, hw, hn⟩

theorem facts_connecting {target : Target} (h : Facts s os) (a : Attempt)
    (hp : s.phase = .connecting target) : Facts (s.mainStep a).1 (os ++ (s.mainStep a).2) := by
  obtain ⟨hfew, hat⟩ := h
  rw [hp] at hat
  simp only [Hunt.mainStep, hp]
  rcases target with n | _ | _
  · obtain ⟨ho, hr, hw, hn⟩ := hat
    refine ⟨hfew.concat nofun, ho.concat nofun nofun, hr, ?_, hn.succ⟩
    rw [waits_concat]
    exact congrArg (Prod.mk 0) hw
  · obtain ⟨ho, hrapid, hr, hw⟩ := hat
    have hw' : (waits (os ++ [.attempt .backoff])).2 = [1000] := by
      rw [waits_concat, hw]
      rfl
    exact ⟨Or.inr ⟨hw', hrapid.concat _⟩, ho.concat nofun nofun, hrapid.concat _, hr, hw'⟩
  · exact ⟨hfew.concat nofun, hat.1.concat nofun nofun, hat.2⟩

theorem facts_join (hfew : Few os) (ho : Open os) (hi : s.interrupted = true) :
    Facts (s.join false) (os ++ []) :=
  Facts.silent ⟨hfew, ho, hi⟩

theorem facts_retryCheck (h : Facts s os) (a : Attempt) (hp : s.phase = .retryCheck) :
    Facts (s.mainStep a).1 (os ++ (s.mainStep a).2) := by
  obtain ⟨hfew, hat⟩ := h
  rw [hp] at hat
  obtain ⟨ho, hat⟩ := hat
  simp only [Hunt.mainStep, hp]
  split
  · next hgo =>
    rw [Bool.and_eq_true, Bool.not_eq_true'] at hgo
    rcases hat with hi | ⟨hrapid, hcount⟩
    · rw [hgo.2] at hi
      cases hi
    · refine Facts.silent ⟨hfew, ho, hrapid, ?_⟩
      rcases hcount with ⟨hr, hw⟩ | ⟨hr, hw⟩
      · exact Or.inl ⟨congrArg (· + 1) hr, hw⟩
      · exact Or.inr ⟨congrArg (· + 1) hr, hw⟩
  · next hstop =>
    have hi : s.interrupted = true := by
      rcases hat with hi | ⟨-, ⟨hr, -⟩ | ⟨hr, -⟩⟩
      · exact hi
      · simpa [hr, MAX_RETRIES] using hstop
      · simpa [hr, MAX_RETRIES] using hstop
    exact facts_join hfew ho hi

/-- The second wait is never over in a run that keeps clear. -/
theorem facts_waitCheck {elapsed : ℕ} (h : Facts s os) {a : Attempt} (hclear : Clear s (.main a))
    (hp : s.phase = .waitCheck elapsed) : Facts (s.mainStep a).1 (os ++ (s.mainStep a).2) := by
  obtain ⟨hfew, hat⟩ := h
  rw [hp] at hat
  obtain ⟨ho, hrapid, hcount⟩ := hat
  simp only [Hunt.mainStep, hp]
  split
  · split
    · next hi => exact facts_join (s := { s with retryCount := _ }) hfew ho hi
    · exact Facts.silent ⟨hfew, ho, hrapid, hcount⟩
  · next hover =>
    split
    · next hf =>
      refine facts_join (s := { s with retryCount := _ }) hfew ho ?_
      rw [Hunt.interrupted, hf]
      rfl
    · next hf =>
      obtain ⟨-, hr⟩ := hclear.1 (waitOver_of_le hp (Nat.le_of_not_lt hover)) (by simpa using hf)
      have hdelay : s.delayMs = 1000 := by
        rw [Hunt.delayMs, hr]
        rfl
      rcases hcount with ⟨-, hw⟩ | ⟨hr', -⟩
      · rw [min_eq_right (by omega)] at hw
        exact Facts.silent ⟨hfew, ho, hrapid, hr, hw⟩
      · omega

/-- Of the first wait the slices are counted. -/
theorem facts_slice {elapsed : ℕ} (h : Facts s os) (a : Attempt) (hp : s.phase = .slice elapsed) :
    Facts (s.mainStep a).1 (os ++ (s.mainStep a).2) := by
  obtain ⟨hfew, hat⟩ := h
  rw [hp] at hat
  obtain ⟨ho, hrapid, hcount⟩ := hat
  simp only [Hunt.mainStep, hp]
  refine ⟨hfew.concat nofun, ho.concat nofun nofun, hrapid.concat _, ?_⟩
  rcases hcount with ⟨hr, hw⟩ | ⟨hr, hw⟩
  · have hdelay : s.delayMs = 1000 := by
      rw [Hunt.delayMs, hr]
      rfl
    refine Or.inl ⟨hr, ?_⟩
    rw [waits_concat, hw, hdelay]
    simp only [waitsStep, Prod.mk.injEq, and_true]
    omega
  · exact Or.inr ⟨hr, by rw [waits_concat]; exact hw⟩

/-- The end of the hunt. -/
theorem facts_end (h : Facts s os) {a : Attempt}
    (hp : (∃ reconnected, s.phase = .joining reconnected ∨ s.phase = .finalize reconnected) ∨
      ∃ result, s.phase = .returned result) :
    Facts (s.mainStep a).1 (os ++ (s.mainStep a).2) := by
  obtain ⟨hfew, hat⟩ := h
  rcases hp with ⟨reconnected, hp | hp⟩ | ⟨result, hp⟩
  · simp only [Hunt.mainStep, hp]
    split
    · rw [hp] at hat
      exact Facts.silent ⟨hfew, by cases reconnected <;> exact hat⟩
    · exact Facts.silent ⟨hfew, hat⟩
  · rw [hp] at hat
    simp only [Hunt.mainStep, hp]
    cases reconnected with
    | true =>
      rw [if_pos rfl]
      refine ⟨hfew.concat nofun, returned_eq hat.1, ?_, nofun⟩
      rw [lastResult_concat]
      exact iff_of_true rfl hat.2
    | false =>
      obtain ⟨ho, hi⟩ := hat
      rw [if_neg Bool.false_ne_true]
      split
      · exact Facts.silent ⟨hfew, ho, hi⟩
      · refine ⟨hfew.concat nofun, returned_eq ho.1, ?_, fun _ => hi⟩
        rw [lastResult_concat]
        exact iff_of_false Bool.false_ne_true ho.2
  · simp only [Hunt.mainStep, hp]
    exact Facts.silent ⟨hfew, hat⟩

/-- A step of the hunting thread that keeps clear. -/
theorem facts_main (h : Facts s os) {a : Attempt} (hclear : Clear s (.main a)) :
    Facts (s.mainStep a).1 (os ++ (s.mainStep a).2) := by
  cases hp : s.phase with
  | rapidCheck n => exact facts_rapid h a (Or.inl hp)
  | rapidSleep n => exact facts_rapid h a (Or.inr (Or.inl hp))
  | rapidRecheck n => exact facts_rapid h a (Or.inr (Or.inr hp))
  | connecting target => exact facts_connecting h a hp
  | attempting target =>
    have ht : Facts { s with transport := (s.transport.connectAndAuth a).1 } os :=
      h.mono rfl rfl id
    have hend := facts_endAttempt ht hp (s.transport.connectAndAuth a).2.isSome
    simpa only [Hunt.mainStep, hp] using hend
  | retryCheck => exact facts_retryCheck h a hp
  | waitCheck elapsed => exact facts_waitCheck h hclear hp
  | slice elapsed => exact facts_slice h a hp
  | joining reconnected => exact facts_end h (Or.inl ⟨reconnected, Or.inl hp⟩)
  | finalize reconnected => exact facts_end h (Or.inl ⟨reconnected, Or.inr hp⟩)
  | returned result => exact facts_end h (Or.inr ⟨result, hp⟩)

/-- No attempt is about to start behind a stop request. -/
def StopSeen (s : Hunt) : Prop := s.stopRequested = true → ∀ target, s.phase ≠ .connecting target

theorem endAttempt_keeps (s : Hunt) (target : Target) (ok : Bool) :
    (s.endAttempt target ok).1.stopRequested = s.stopRequested ∧
      (s.endAttempt target ok).1.transport = s.transport ∧
      (s.endAttempt target ok).1.discoveryFound = s.discoveryFound ∧
      (s.endAttempt target ok).1.discoveredIp = s.discoveredIp ∧
      ∀ target', (s.endAttempt target ok).1.phase ≠ .connecting target' := by
  rcases target with n | _ | _ <;> cases ok <;> exact ⟨rfl, rfl, rfl, rfl, nofun⟩

/-- The thread leaves the flags alone, switches the host only to the discovered address, and
starts towards an attempt only past its checks. -/
structure Keeps (s s' : Hunt) : Prop where
  stopRequested : s'.stopRequested = s.stopRequested
  discoveryFound : s'.discoveryFound = s.discoveryFound
  discoveredIp : s'.discoveredIp = s.discoveredIp
  host : s'.transport.host = s.transport.host ∨
    s.discoveryFound = true ∧ s'.transport.host = s.discoveredIp
  connecting : ∀ target, s'.phase = .connecting target → s.interrupted = false ∨
    (∃ elapsed, s.phase = .waitCheck elapsed ∧ s.delayMs ≤ elapsed ∧ s.discoveryFound = false) ∨
      s.phase = .finalize false ∧ s.won = true

theorem keeps_mainStep (s : Hunt) (a : Attempt) : Keeps s (s.mainStep a).1 := by
  cases hp : s.phase with
  | attempting target =>
    simp only [Hunt.mainStep, hp]
    obtain ⟨hstop, ht, hfound, hip, hphase⟩ := endAttempt_keeps
      { s with transport := (s.transport.connectAndAuth a).1 } target
      (s.transport.connectAndAuth a).2.isSome
    rw [hp] at hstop ht hfound hip hphase
    refine ⟨hstop, hfound, hip, Or.inl ?_, fun target' h => absurd h (hphase target')⟩
    rw [ht, (ReconnectIdentity.connectAndAuth_outcome a s.transport).host]
  | rapidCheck n =>
    simp only [Hunt.mainStep, hp]
    split
    · exact ⟨rfl, rfl, rfl, Or.inl rfl, nofun⟩
    · next hgo =>
      have hi : s.interrupted = false := by
        rw [Bool.or_eq_true, not_or] at hgo
        exact Bool.eq_false_iff.mpr hgo.2
      split <;> exact ⟨rfl, rfl, rfl, Or.inl rfl, fun _ _ => Or.inl hi⟩
  | rapidRecheck n =>
    simp only [Hunt.mainStep, hp]
    split
    · exact ⟨rfl, rfl, rfl, Or.inl rfl, nofun⟩
    · next hi =>
      exact ⟨rfl, rfl, rfl, Or.inl rfl, fun _ _ => Or.inl (Bool.eq_false_iff.mpr hi)⟩
  | waitCheck elapsed =>
    simp only [Hunt.mainStep, hp]
    split
    · split <;> exact ⟨rfl, rfl, rfl, Or.inl rfl, nofun⟩
    · next hover =>
      split
      · exact ⟨rfl, rfl, rfl, Or.inl rfl, nofun⟩
      · next hf =>
        refine ⟨rfl, rfl, rfl, Or.inl rfl, ?_⟩
        rintro target -
        exact Or.inr (Or.inl ⟨elapsed, hp, Nat.le_of_not_lt hover, Bool.eq_false_iff.mpr hf⟩)
  | finalize reconnected =>
    simp only [Hunt.mainStep, hp]
    cases reconnected with
    | true => exact ⟨rfl, rfl, rfl, Or.inl rfl, nofun⟩
    | false =>
      rw [if_neg Bool.false_ne_true]
      split
      · next hwon =>
        have hf : s.discoveryFound = true := by
          rw [Hunt.won, Bool.and_eq_true] at hwon
          exact hwon.1
        exact ⟨rfl, rfl, rfl, Or.inr ⟨hf, rfl⟩, fun _ _ => Or.inr (Or.inr ⟨hp, hwon⟩)⟩
      · exact ⟨rfl, rfl, rfl, Or.inl rfl, nofun⟩
  | rapidSleep n | connecting target | slice elapsed =>
    simp only [Hunt.mainStep, hp]
    exact ⟨rfl, rfl, rfl, Or.inl rfl, nofun⟩
  | retryCheck | joining reconnected =>
    simp only [Hunt.mainStep, hp]
    split
    · exact ⟨rfl, rfl, rfl, Or.inl rfl, nofun⟩
    · refine ⟨rfl, rfl, rfl, Or.inl rfl, ?_⟩
      simp [Hunt.join, hp]
  | returned result =>
    simp only [Hunt.mainStep, hp]
    exact ⟨rfl, rfl, rfl, Or.inl rfl, by simp [hp]⟩

theorem stopSeen_step {e : Event} (h : StopSeen s) (hclear : Clear s e) :
    StopSeen (s.step e).1 := by
  cases e with
  | main a =>
    have hkeep := keeps_mainStep s a
    intro hs target hc
    rw [Hunt.step, hkeep.stopRequested] at hs
    rcases hkeep.connecting target hc with hi | ⟨elapsed, hp, hle, hf⟩ | ⟨hp, hwon⟩
    · rw [Hunt.interrupted, hs, Bool.or_true] at hi
      cases hi
    · rw [(hclear.1 (waitOver_of_le hp hle) hf).1] at hs
      cases hs
    · rw [hclear.2 hp hwon] at hs
      cases hs
  | discoveryStart ok =>
    simp only [Hunt.step]
    split <;> exact h
  | discoveryCheck =>
    simp only [Hunt.step]
    split <;> exact h
  | poll devices =>
    simp only [Hunt.step, Hunt.pollStep]
    split
    · split <;> exact h
    · exact h
  | requestStop =>
    rintro - target hp
    have hno : s.isConnecting = false := hclear
    rw [Hunt.isConnecting, show s.phase = .connecting target from hp] at hno
    cases hno

theorem facts_step {e : Event} (h : Facts s os) (hclear : Clear s e) :
    Facts (s.step e).1 (os ++ (s.step e).2) := by
  cases e with
  | main a => exact facts_main h hclear
  | discoveryStart ok =>
    simp only [Hunt.step]
    split
    · rw [List.append_nil]
      exact h.mono rfl rfl id
    · rwa [List.append_nil]
  | discoveryCheck =>
    simp only [Hunt.step]
    split
    · rw [List.append_nil]
      exact h.mono rfl rfl id
    · rwa [List.append_nil]
  | poll devices =>
    simp only [Hunt.step]
    split
    · rw [List.append_nil]
      unfold Hunt.pollStep
      split
      · exact h.mono rfl rfl fun _ => rfl
      · exact h.mono rfl rfl id
    · rwa [List.append_nil]
  | requestStop =>
    rw [Hunt.step, List.append_nil]
    exact h.mono rfl rfl fun _ => Bool.or_true _

theorem attempt_of_step {e : Event} {target : Target} (h : .attempt target ∈ (s.step e).2) :
    s.phase = .connecting target := by
  cases e with
  | main a =>
    cases hp : s.phase with
    | connecting target' =>
      simp only [Hunt.step, Hunt.mainStep, hp, List.mem_singleton, Output.attempt.injEq] at h
      rw [h]
    | attempting target' =>
      simp only [Hunt.step, Hunt.mainStep, hp] at h
      rcases target' with n | _ | _
      all_goals
        cases hok : (s.transport.connectAndAuth a).2.isSome <;> rw [hok] at h <;>
          simp [Hunt.endAttempt] at h
    | rapidSleep n | slice elapsed | returned result =>
      simp [Hunt.step, Hunt.mainStep, hp] at h
    | rapidCheck n | rapidRecheck n | waitCheck n | joining b | finalize b | retryCheck =>
      simp only [Hunt.step, Hunt.mainStep, hp] at h
      split_ifs at h <;> simp at h
  | discoveryStart ok =>
    simp only [Hunt.step] at h
    split at h <;> simp at h
  | discoveryCheck =>
    simp only [Hunt.step] at h
    split at h <;> simp at h
  | poll devices =>
    simp only [Hunt.step] at h
    split at h <;> simp at h
  | requestStop => simp [Hunt.step] at h

end Facts

/-- The hunt has returned exactly where its thread says so. -/
theorem returned_of_facts (h : Facts s os) {b : Bool} (hb : .returned b ∈ os) :
    s.phase = .returned b ∧ (b = true ↔ lastResult os = some true) ∧
      (b = false → s.interrupted = true) := by
  obtain ⟨-, hat⟩ := h
  rcases hp : s.phase with
    n | n | n | (n | _ | _) | (n | _ | _) | _ | e | e | (_ | _) | (_ | _) | b'
  case returned =>
    rw [hp] at hat
    obtain ⟨hall, hlast, hi⟩ := hat
    obtain rfl := hall b hb
    exact ⟨rfl, hlast, hi⟩
  all_goals
    rw [hp] at hat
    first
    | exact absurd hb (hat.1.1 b)
    | exact absurd hb (hat.1 b)

section Runs

variable {t : TCPTransport} {w : List Event} {address : Bytes}

theorem Accepted.concat (h : Accepted t w address) (e : Event) : Accepted t (w ++ [e]) address := by
  obtain ⟨u, devices, v, device, rfl, h⟩ := h
  exact ⟨u, devices, v ++ [e], device, by simp, h⟩

/-- The host is the first one, or one that discovery has accepted, as is what it has found. -/
structure HostAccepted (t : TCPTransport) (w : List Event) (s : Hunt) : Prop where
  host : s.transport.host = t.host ∨ Accepted t w s.transport.host
  found : s.discoveryFound = true → Accepted t w s.discoveredIp

theorem hostAccepted (t : TCPTransport) (w : List Event) :
    HostAccepted t w (after Hunt.step (enterHuntingState t) w) := by
  induction w using List.reverseRecOn with
  | nil => exact ⟨Or.inl rfl, nofun⟩
  | append_singleton w e ih =>
    rw [after_concat]
    obtain ⟨hhost, hfound⟩ := ih
    have hold : HostAccepted t (w ++ [e]) (after Hunt.step (enterHuntingState t) w) :=
      ⟨hhost.imp_right fun h => h.concat e, fun h => (hfound h).concat e⟩
    cases e with
    | main a =>
      obtain ⟨-, hf, hip, hh, -⟩ := keeps_mainStep (after Hunt.step (enterHuntingState t) w) a
      refine ⟨?_, fun h => hip ▸ hold.found (hf ▸ h)⟩
      rcases hh with hh | ⟨hdisc, hh⟩
      · exact hh ▸ hold.host
      · exact Or.inr (hh ▸ hold.found hdisc)
    | discoveryStart ok =>
      simp only [Hunt.step]
      split <;> exact ⟨hold.host, hold.found⟩
    | discoveryCheck =>
      simp only [Hunt.step]
      split <;> exact ⟨hold.host, hold.found⟩
    | poll devices =>
      simp only [Hunt.step, Hunt.pollStep]
      split
      · split
        · next device hdevice =>
          refine ⟨hold.host, fun _ => ?_⟩
          exact ⟨w, devices, [], device, rfl, List.mem_of_find?_eq_some hdevice,
            List.find?_some hdevice, rfl⟩
        · exact ⟨hold.host, hold.found⟩
      · exact hold
    | requestStop => exact ⟨hold.host, hold.found⟩

/-- A run that keeps clear of the three places is as specified. -/
theorem asSpecified_of_clear (h : Guarded Hunt.step Clear (enterHuntingState t) w) :
    AsSpecified t w := by
  have hrun : ∀ w, Guarded Hunt.step Clear (enterHuntingState t) w →
      Facts (after Hunt.step (enterHuntingState t) w)
        (emitted Hunt.step (enterHuntingState t) w) ∧
      StopSeen (after Hunt.step (enterHuntingState t) w) := by
    apply guarded_induction (I := fun _ s os => Facts s os ∧ StopSeen s)
    · exact ⟨⟨Or.inl rfl, ⟨nofun, nofun⟩, rfl, rfl, nofun⟩, nofun⟩
    · rintro w s os e ⟨hfacts, hstop⟩ hclear
      exact ⟨facts_step hfacts hclear, stopSeen_step hstop hclear⟩
  obtain ⟨hfew, hat⟩ := (hrun w h).1
  refine ⟨?_, (hostAccepted t w).host, hfew.rapids, ?_, ?_, ?_⟩
  · rintro b hb
    exact (returned_of_facts (hrun w h).1 hb).2.1
  · rintro - k d hk
    rcases hfew with hw | ⟨hw, -⟩
    · rw [hw] at hk
      cases hk
    · rw [hw] at hk
      rcases k with _ | k
      · exact ⟨by decide, (Option.some.inj hk).symm⟩
      · cases hk
  · rintro hi hb
    have hint := (returned_of_facts (hrun w h).1 hb).2.2 rfl
    rw [hi] at hint
    cases hint
  · rintro u e v rfl hs target hmem
    obtain ⟨hu, -⟩ := guarded_append.mp h
    exact (hrun u hu).2 hs target (attempt_of_step hmem)

/-- An attempt that finds no one. -/
def refused : Attempt := { connects := false, authReply := [], recvs := [] }

/-- The second rapid attempt succeeds. -/
def glitch : List Event :=
  [.discoveryStart false] ++ List.replicate 7 (.main refused) ++
    List.replicate 3 (.main ConnectHandshake.replyReads.attempt)

theorem asSpecified_glitch : AsSpecified { host := ascii "192.168.4.1" } glitch :=
  asSpecified_of_clear (by decide +kernel)

/-- All attempts are refused, up to the second back-off attempt. -/
def refusals : List Event := List.replicate 131 (.main refused)

/-- A stop request in the last slice of the first back-off wait. -/
def lateStop : List Event := List.replicate 44 (.main refused) ++ [.requestStop]

/-- With nothing found and no stop requested, the second back-off wait lasts 4000 ms; and behind
the late stop request an attempt is started. -/
theorem not_asSpecified_refusals :
    (waits (emitted Hunt.step (enterHuntingState { host := ascii "192.168.4.1" }) refusals)).2 =
        [1000, 4000] ∧
      ¬ AsSpecified { host := ascii "192.168.4.1" } refusals ∧
      ¬ AsSpecified { host := ascii "192.168.4.1" }
        (lateStop ++ List.replicate 2 (.main refused) ++ [.main refused]) := by
  have hwaits : (waits (emitted Hunt.step (enterHuntingState { host := ascii "192.168.4.1" })
      refusals)).2 = [1000, 4000] := by decide +kernel
  refine ⟨hwaits, ?_, ?_⟩
  · intro h
    have hdelay := (h.delays (by decide +kernel) 1 4000 (by rw [hwaits]; rfl)).2
    exact absurd hdelay (by decide)
  · intro h
    exact h.stop (lateStop ++ List.replicate 2 (.main refused)) (.main refused) [] rfl
      (by decide +kernel) .backoff (by decide +kernel)

end Runs

end HuntSchedule

end VehicleSpy.Pipeline
