import VehicleSpy.Dbc.FailedLoad
import VehicleSpy.Pipeline.PacedFrameScheduler

/-! # The replay loops

Both loops record the line of each fetched frame and decode the frame; the paced loop asks the
scheduler in between. Without an offset the scheduler refuses blank frames only, so that the
two loops give the same outputs, whatever the timestamps and the clock are.
-/

namespace VehicleSpy.Pipeline

open Text Dbc Machine

structure ReplayStats where
  linesRead : ℕ := 0
  framesDecoded : ℕ := 0
  malformedLines : ℕ := 0
  skippedLines : ℕ := 0
  deriving DecidableEq, Repr

/-- Which outputs a run has. -/
structure ReplayOutputs where
  decoded : Bool
  raw : Bool
  progress : Bool

inductive ReplayMode | Unpaced | Paced
  deriving DecidableEq, Repr

/-- What the outputs receive; a frame without a signal is told on the error stream. -/
inductive ReplayEvent (D : Type)
  | raw (line : Bytes)
  | decoded (signal : VehicleSignal D)
  | onFrame (signal : VehicleSignal D) (frameIndex totalHints : ℕ)
  | noSignal (canId : ℕ)
  | onComplete (stats : ReplayStats)
  deriving DecidableEq

/-- A fetched frame, and what the clock shows when it is considered and just after. -/
structure Fetched where
  frame : TimestampedFrame
  now : ℤ
  restart : ℤ

/-- One call of the scheduler: the action and the time slept. -/
def considerStep (s : PacedFrameScheduler) (call : Fetched) :
    PacedFrameScheduler × List (Action × ℤ) :=
  let (scheduler, result) := s.consider call.now call.restart call.frame
  (scheduler, [result])

/-- The results of a run, one for each frame. -/
def considerRun (startFromS : ℚ) (start : ℤ) (calls : List Fetched) : List (Action × ℤ) :=
  emitted considerStep { startFromS := startFromS, replayStart := start } calls

structure ReplayState (D : Type) where
  service : DBCTranslationService D
  stats : ReplayStats := {}

/-- The events of each frame in turn, and what follows the last one. -/
structure ReplayRun (D : Type) where
  stats : ReplayStats
  log : List (List (ReplayEvent D))
  completion : List (ReplayEvent D)

namespace ReplayEvent

variable {D : Type}

def isRaw : ReplayEvent D → Bool
  | .raw _ => true
  | _ => false

def isNoSignal : ReplayEvent D → Bool
  | .noSignal _ => true
  | _ => false

end ReplayEvent

section Loops

variable {D : Type} [Double D] (outputs : ReplayOutputs)

def recordRawLine (f : TimestampedFrame) : List (ReplayEvent D) :=
  if outputs.raw ∧ f.rawLine ≠ [] then [.raw f.rawLine] else []

def dispatchFrame (f : TimestampedFrame) (s : ReplayState D) :
    Except Undefined (ReplayState D × List (ReplayEvent D)) :=
  let (service, result) :=
    s.service.processFrame { rawData := f.bytes, timestampUtcMs := f.timestampMs }
  match result with
  | .error undefined => .error undefined
  | .ok none =>
    .ok ({ s with service }, [.noSignal (DBCSignalTranslator.extractCANId f.bytes)])
  | .ok (some signal) =>
    .ok ({ service, stats := { s.stats with framesDecoded := s.stats.framesDecoded + 1 } },
      (if outputs.decoded then [.decoded signal] else []) ++
        if outputs.progress then [.onFrame signal s.stats.framesDecoded 0] else [])

/-- The body of both loops: the line is recorded before anything is decided. -/
def replayFrame (f : TimestampedFrame) (action : Action) (s : ReplayState D) :
    Except Undefined (ReplayState D × List (ReplayEvent D)) :=
  let s := { s with stats := { s.stats with linesRead := s.stats.linesRead + 1 } }
  match action with
  | .Skip =>
    .ok ({ s with stats := { s.stats with skippedLines := s.stats.skippedLines + 1 } },
      recordRawLine outputs f)
  | .Emit =>
    (dispatchFrame outputs f s).map fun (s, events) => (s, recordRawLine outputs f ++ events)

/-- An iteration of a loop, and the iterations behind it. -/
def iterate {σ ε : Type} (x : Except Undefined (σ × ε))
    (rest : σ → Except Undefined (σ × List ε)) : Except Undefined (σ × List ε) :=
  x.bind fun r => (rest r.1).map fun t => (t.1, r.2 :: t.2)

def runReplayUnpaced : ReplayState D → List Fetched →
    Except Undefined (ReplayState D × List (List (ReplayEvent D)))
  | s, [] => .ok (s, [])
  | s, f :: fs => iterate (replayFrame outputs f.frame .Emit s) fun s => runReplayUnpaced s fs

def runReplayPaced : PacedFrameScheduler → ReplayState D → List Fetched →
    Except Undefined (ReplayState D × List (List (ReplayEvent D)))
  | _, s, [] => .ok (s, [])
  | scheduler, s, f :: fs =>
    let (scheduler, action, _) := scheduler.consider f.now f.restart f.frame
    iterate (replayFrame outputs f.frame action s) fun s => runReplayPaced scheduler s fs

/-- The clock shows `start` when the scheduler is created. -/
def runReplay (service : DBCTranslationService D) (mode : ReplayMode) (startFromS : ℚ) (start : ℤ)
    (source : List Fetched) : Except Undefined (ReplayRun D) := do
  let (s, log) ← match mode with
    | .Paced =>
      runReplayPaced outputs { startFromS := startFromS, replayStart := start }
        { service := service } source
    | .Unpaced => runReplayUnpaced outputs { service := service } source
  return ⟨s.stats, log, if outputs.progress then [.onComplete s.stats] else []⟩

/-- One frame is read, and it is decoded, skipped or without a signal; its events begin with
its line, if that is recorded. -/
structure FrameDone (f : TimestampedFrame) (s s' : ReplayState D) (events : List (ReplayEvent D)) :
    Prop where
  linesRead : s'.stats.linesRead = s.stats.linesRead + 1
  account : s'.stats.framesDecoded + s'.stats.skippedLines + events.countP ReplayEvent.isNoSignal =
    s.stats.framesDecoded + s.stats.skippedLines + 1
  raw : ∃ rest, events = recordRawLine outputs f ++ rest ∧ ∀ e ∈ rest, e.isRaw = false

/-- The same for a sequence of frames. -/
structure FramesDone (source : List Fetched) (s s' : ReplayState D)
    (log : List (List (ReplayEvent D))) : Prop where
  linesRead : s'.stats.linesRead = s.stats.linesRead + source.length
  account : s'.stats.framesDecoded + s'.stats.skippedLines +
      log.flatten.countP ReplayEvent.isNoSignal =
    s.stats.framesDecoded + s.stats.skippedLines + source.length
  raw : List.Forall₂ (fun (f : Fetched) events => ∃ rest,
    events = recordRawLine outputs f.frame ++ rest ∧ ∀ e ∈ rest, e.isRaw = false) source log

end Loops

section Accounts

variable {D : Type} {outputs : ReplayOutputs} {f : TimestampedFrame} {fetched : Fetched}
  {s s' s'' : ReplayState D} {events : List (ReplayEvent D)} {source : List Fetched}
  {log : List (List (ReplayEvent D))}

theorem countP_recordRawLine (outputs : ReplayOutputs) (f : TimestampedFrame) :
    (recordRawLine outputs f : List (ReplayEvent D)).countP ReplayEvent.isNoSignal = 0 := by
  unfold recordRawLine
  split <;> rfl

theorem FramesDone.nil (s : ReplayState D) : FramesDone outputs [] s s [] := ⟨rfl, rfl, .nil⟩

theorem FramesDone.cons (hf : FrameDone outputs fetched.frame s s' events)
    (hfs : FramesDone outputs source s' s'' log) :
    FramesDone outputs (fetched :: source) s s'' (events :: log) := by
  refine ⟨?_, ?_, .cons hf.raw hfs.raw⟩
  · rw [hfs.linesRead, hf.linesRead, List.length_cons]
    omega
  · have ha := hf.account
    have hb := hfs.account
    rw [List.flatten_cons, List.countP_append, List.length_cons]
    omega

variable [Double D]

theorem dispatchFrame_done (h : dispatchFrame outputs f s = .ok (s', events)) :
    s'.stats.linesRead = s.stats.linesRead ∧ s'.stats.skippedLines = s.stats.skippedLines ∧
      s'.stats.framesDecoded + events.countP ReplayEvent.isNoSignal =
        s.stats.framesDecoded + 1 ∧ ∀ e ∈ events, e.isRaw = false := by
  simp only [dispatchFrame] at h
  split at h
  · cases h
  · cases h
    exact ⟨rfl, rfl, rfl, by simp [ReplayEvent.isRaw]⟩
  · cases h
    refine ⟨rfl, rfl, ?_, ?_⟩
    · cases outputs.decoded <;> cases outputs.progress <;> rfl
    · cases outputs.decoded <;> cases outputs.progress <;> simp [ReplayEvent.isRaw]

theorem replayFrame_done {action : Action}
    (h : replayFrame outputs f action s = .ok (s', events)) : FrameDone outputs f s s' events := by
  cases action with
  | Skip =>
    cases h
    refine ⟨rfl, ?_, [], (List.append_nil _).symm, List.forall_mem_nil _⟩
    rw [countP_recordRawLine]
    exact Nat.add_right_comm _ _ _
  | Emit =>
    simp only [replayFrame] at h
    cases hd : dispatchFrame outputs f
        { s with stats := { s.stats with linesRead := s.stats.linesRead + 1 } } with
    | error undefined =>
      rw [hd] at h
      cases h
    | ok r =>
      rw [hd] at h
      cases h
      obtain ⟨hread, hskip, hdecoded, hraw⟩ := dispatchFrame_done hd
      refine ⟨hread, ?_, r.2, rfl, hraw⟩
      rw [List.countP_append, countP_recordRawLine, hskip]
      dsimp only at hdecoded ⊢
      omega

theorem iterate_eq_ok {σ ε : Type} {x : Except Undefined (σ × ε)}
    {rest : σ → Except Undefined (σ × List ε)} {t : σ} {es : List ε}
    (h : iterate x rest = .ok (t, es)) :
    ∃ s e es', x = .ok (s, e) ∧ rest s = .ok (t, es') ∧ es = e :: es' := by
  cases x with
  | error undefined => cases h
  | ok r =>
    simp only [iterate, Except.bind] at h
    cases hr : rest r.1 with
    | error undefined =>
      rw [hr] at h
      cases h
    | ok v =>
      rw [hr] at h
      cases h
      exact ⟨r.1, r.2, v.2, rfl, hr, rfl⟩

theorem runReplayUnpaced_done (h : runReplayUnpaced outputs s source = .ok (s', log)) :
    FramesDone outputs source s s' log := by
  induction source generalizing s log with
  | nil =>
    cases h
    exact .nil s'
  | cons fetched source ih =>
    obtain ⟨t, events, log', hf, hfs, rfl⟩ := iterate_eq_ok h
    exact .cons (replayFrame_done hf) (ih hfs)

theorem runReplayPaced_done {scheduler : PacedFrameScheduler}
    (h : runReplayPaced outputs scheduler s source = .ok (s', log)) :
    FramesDone outputs source s s' log := by
  induction source generalizing scheduler s log with
  | nil =>
    cases h
    exact .nil s'
  | cons fetched source ih =>
    simp only [runReplayPaced] at h
    obtain ⟨t, events, log', hf, hfs, rfl⟩ := iterate_eq_ok h
    exact .cons (replayFrame_done hf) (ih hfs)

/-- Without an offset the scheduler lets every frame pass that is not blank. -/
theorem runReplayPaced_eq {scheduler : PacedFrameScheduler} (hoff : scheduler.startFromS < 0)
    (hblank : ∀ fetched ∈ source, ReplayPacing.isFrameBlank fetched.frame = false)
    (s : ReplayState D) :
    runReplayPaced outputs scheduler s source = runReplayUnpaced outputs s source := by
  induction source generalizing scheduler s with
  | nil => rfl
  | cons fetched source ih =>
    obtain ⟨hb, hblank⟩ := List.forall_mem_cons.mp hblank
    obtain ⟨hemit, hkeep⟩ := consider_emit hoff hb fetched.now fetched.restart
    simp only [runReplayPaced, runReplayUnpaced, hemit]
    congr 1
    funext t
    exact ih (by rwa [hkeep]) hblank t

/-- What a run in either mode tells: every fetched frame is counted, and is decoded, skipped or
without a signal; and the events of each frame begin with its line, which is the only one. -/
structure Accounted (outputs : ReplayOutputs) (source : List Fetched) (run : ReplayRun D) :
    Prop where
  linesRead : run.stats.linesRead = source.length
  account : run.stats.linesRead = run.stats.framesDecoded + run.stats.skippedLines +
    run.log.flatten.countP ReplayEvent.isNoSignal
  raw : List.Forall₂ (fun (f : Fetched) events => ∃ rest,
    events = recordRawLine outputs f.frame ++ rest ∧ ∀ e ∈ rest, e.isRaw = false) source run.log

theorem accounted_of_runReplay {service : DBCTranslationService D} {mode : ReplayMode}
    {startFromS : ℚ} {start : ℤ} {run : ReplayRun D}
    (h : runReplay outputs service mode startFromS start source = .ok run) :
    Accounted outputs source run := by
  have hdone {r : Except Undefined (ReplayState D × List (List (ReplayEvent D)))}
      (hr : ∀ s' log, r = .ok (s', log) → FramesDone outputs source { service := service } s' log)
      (hrun : (do
        let (s, log) ← r
        return ⟨s.stats, log, if outputs.progress then [.onComplete s.stats] else []⟩) =
          Except.ok run) : Accounted outputs source run := by
    cases r with
    | error undefined => cases hrun
    | ok r =>
      cases hrun
      obtain ⟨hread, haccount, hraw⟩ := hr r.1 r.2 rfl
      refine ⟨hread.trans (Nat.zero_add _), ?_, hraw⟩
      dsimp only at haccount hread ⊢
      omega
  cases mode with
  | Paced => exact hdone (fun s' log => runReplayPaced_done) h
  | Unpaced => exact hdone (fun s' log => runReplayUnpaced_done) h

end Accounts

section Bench

open DBCTranslationService (wholeNumbers oneSignal loadCar)

/-- A service that has loaded a vehicle with one signal. -/
def carService : DBCTranslationService ℚ :=
  after (DBCTranslationService.step wholeNumbers) (.create [oneSignal]) [loadCar]

/-- A frame of the vehicle with the line that it came from. -/
def speedFrame (speed : Byte) (timestampMs : ℕ) (h : timestampMs < 2 ^ 64) : TimestampedFrame :=
  ⟨⟨[8, 1, speed, 0, 0, 0, 0, 0, 0, 0], ascii "108 " ++ hexPad 2 speed.toNat⟩, timestampMs, h, rfl⟩

/-- Two frames half a second apart, the second of which is fetched after a tenth of it. -/
def twoSpeeds : List Fetched :=
  [⟨speedFrame 50 1000 (by decide), 5000000, 6000000⟩,
    ⟨speedFrame 60 1500 (by decide), 106000000, 107000000⟩]

end Bench

end VehicleSpy.Pipeline
