import VehicleSpy.Machine.Binary64
import VehicleSpy.Machine.Run
import VehicleSpy.Pipeline.LiveTwaiSource
import Mathlib.Algebra.Order.Ring.Rat
import Mathlib.Algebra.Order.Ring.Int

/-! # The two pacers

The frame scheduler and the row pacer wait until a frame or a row is due. Both measure from
the first release, so that no delay is carried on: a release is at the deadline, or at the
arrival if that is later. The arithmetic is that of 64-bit integers on a clock of nanoseconds.
-/

namespace VehicleSpy.Pipeline

open Text Machine Machine.Binary64

/-- A frame of a source: its recorded time, ten bytes and the line it came from. -/
structure TimestampedFrame extends TwaiFrame where
  timestampMs : ℕ
  timestampMs_lt : timestampMs < 2 ^ 64
  length_bytes : bytes.length = 10

/-- A signed 64-bit integer, from any integer by wrap-around. -/
def int64 (x : ℤ) : ℤ := (x + 2 ^ 63) % 2 ^ 64 - 2 ^ 63

/-- An unsigned one. -/
def uint64 (x : ℤ) : ℕ := (x % 2 ^ 64).toNat

/-- An instant that a steady clock shows: nanoseconds since its epoch, in a signed 64-bit
integer. -/
def IsTimePoint (ns : ℤ) : Prop := 0 ≤ ns ∧ ns < 2 ^ 63

instance (ns : ℤ) : Decidable (IsTimePoint ns) :=
  inferInstanceAs (Decidable (0 ≤ ns ∧ ns < 2 ^ 63))

/-- `duration_cast<milliseconds>` of the difference, cut at zero. -/
def elapsedMs (now replayStart : ℤ) : ℕ := ((int64 (now - replayStart)).tdiv 1000000).toNat

namespace ReplayPacing

/-- No identifier is looked at: time zero and eight zero data bytes. -/
def isFrameBlank (frame : TimestampedFrame) : Bool :=
  frame.timestampMs == 0 && (frame.bytes.drop 2).all (· == 0)

/-- The offset in milliseconds: the product is a `double`, which is cut to an integer. (Beyond the
range of `uint64_t`, where the conversion is undefined, it stays what it is.) -/
def thresholdMs (startFromS : ℚ) : ℕ := (rnd (startFromS * 1000)).floor.toNat

/-- `-1` to skip the frame, else the time to wait. A negative offset skips nothing. -/
def classifyFrame (startFromS : ℚ) (frame : TimestampedFrame)
    (recordingBaselineTsMs pacingBaselineTsMs elapsedSinceStartMs : ℕ) : ℤ :=
  if 0 ≤ startFromS ∧
      uint64 (frame.timestampMs - recordingBaselineTsMs) < thresholdMs startFromS then -1
  else
    let scheduledMs := int64 (int64 frame.timestampMs - int64 pacingBaselineTsMs)
    let behindMs := int64 (scheduledMs - int64 elapsedSinceStartMs)
    if behindMs ≤ 0 then 0 else behindMs

end ReplayPacing

open ReplayPacing (isFrameBlank classifyFrame)

inductive Action | Emit | Skip
  deriving DecidableEq, Repr

structure PacedFrameScheduler where
  startFromS : ℚ := -1
  replayStart : ℤ
  baselineSet : Bool := false
  emittedAny : Bool := false
  recordingBaselineTsMs : ℕ := 0
  pacingBaselineTsMs : ℕ := 0

namespace PacedFrameScheduler

/-- The first frame that is not blank sets both baselines. -/
def withBaseline (s : PacedFrameScheduler) (frame : TimestampedFrame) : PacedFrameScheduler :=
  if s.baselineSet then s else
    { s with
      recordingBaselineTsMs := frame.timestampMs
      pacingBaselineTsMs := frame.timestampMs
      baselineSet := true }

/-- The next frame: the clock is read for the elapsed time, and once more when the first frame
is emitted. The last result is the time slept. -/
def consider (s : PacedFrameScheduler) (now restart : ℤ) (frame : TimestampedFrame) :
    PacedFrameScheduler × Action × ℤ :=
  if isFrameBlank frame then (s, .Skip, 0)
  else
    let s := s.withBaseline frame
    let waitMs := classifyFrame s.startFromS frame s.recordingBaselineTsMs s.pacingBaselineTsMs
      (elapsedMs now s.replayStart)
    if waitMs < 0 then (s, .Skip, 0)
    else if s.emittedAny then (s, .Emit, max waitMs 0)
    else
      ({ s with
        pacingBaselineTsMs := frame.timestampMs
        replayStart := restart
        emittedAny := true }, .Emit, 0)

end PacedFrameScheduler

structure CsvReplayPacer where
  intervalMs : ℤ
  replayStart : ℤ := 0
  baselineTsMs : ℕ := 0
  rowsPaced : ℕ := 0
  anchored : Bool := false

namespace CsvReplayPacer

def scheduledOffsetMs (p : CsvReplayPacer) (rowTsMs : ℕ) : ℤ :=
  if 0 < p.intervalMs then int64 (int64 p.rowsPaced * p.intervalMs)
  else int64 (int64 rowTsMs - int64 p.baselineTsMs)

/-- The next row; the second result is the time slept. -/
def paceRow (p : CsvReplayPacer) (now : ℤ) (rowTsMs : ℕ) : CsvReplayPacer × ℤ :=
  if p.anchored then
    let waitMs := int64 (p.scheduledOffsetMs rowTsMs - int64 (elapsedMs now p.replayStart))
    ({ p with rowsPaced := uint64 (p.rowsPaced + 1) }, max waitMs 0)
  else
    ({ p with baselineTsMs := rowTsMs, replayStart := now, anchored := true, rowsPaced := 1 }, 0)

end CsvReplayPacer

section Runs

/-- One release: when the caller came, with which timestamp, and when it could go on. -/
structure Release where
  arrival : ℤ
  timestampMs : ℕ
  time : ℤ
  deriving DecidableEq, Repr

/-- A caller of the scheduler on a clock of whole milliseconds that sleeps exactly: it works
for some time and then brings a frame. -/
def schedulerStep (s : ℤ × PacedFrameScheduler) (call : ℕ × TimestampedFrame) :
    (ℤ × PacedFrameScheduler) × List Release :=
  let now := s.1 + call.1
  let (scheduler, action, slept) := s.2.consider (now * 1000000) (now * 1000000) call.2
  ((now + slept, scheduler),
    if action = .Emit then [⟨now, call.2.timestampMs, now + slept⟩] else [])

/-- The same for the row pacer. -/
def pacerStep (s : ℤ × CsvReplayPacer) (call : ℕ × ℕ) : (ℤ × CsvReplayPacer) × List Release :=
  let now := s.1 + call.1
  let (pacer, slept) := s.2.paceRow (now * 1000000) call.2
  ((now + slept, pacer), [⟨now, call.2, now + slept⟩])

/-- The clock can hold the time at which the caller comes back from its work. -/
def OnClock {σ α : Type} (s : ℤ × σ) (call : ℕ × α) : Prop := IsTimePoint ((s.1 + call.1) * 1000000)

instance {σ α : Type} (s : ℤ × σ) (call : ℕ × α) : Decidable (OnClock s call) :=
  inferInstanceAs (Decidable (IsTimePoint ((s.1 + call.1) * 1000000)))

/-- The rows of a sequence of frames: the work before a blank frame counts for the next row. -/
def rows : List (ℕ × TimestampedFrame) → ℕ → List (ℕ × ℕ)
  | [], _ => []
  | (work, frame) :: calls, idle =>
    if isFrameBlank frame then rows calls (idle + work)
    else (idle + work, frame.timestampMs) :: rows calls 0

end Runs

section Schedule

/-- What a pacer is for: the first release is the origin, and every other one stands at its
distance from the origin, unless the caller comes later. -/
def scheduleStep (s : ℤ × Option (ℤ × ℕ)) (call : ℕ × ℕ) :
    (ℤ × Option (ℤ × ℕ)) × List Release :=
  let now := s.1 + call.1
  match s.2 with
  | none => ((now, some (now, call.2)), [⟨now, call.2, now⟩])
  | some (T₀, t₀) =>
    let time := max now (T₀ + (call.2 - t₀))
    ((time, s.2), [⟨now, call.2, time⟩])

/-- Each release after the first is at its arrival or at its deadline, whichever is later. -/
def FollowsSchedule : List Release → Prop
  | [] => True
  | first :: later => first.time = first.arrival ∧ ∀ r ∈ later,
      r.time = max r.arrival (first.time + (r.timestampMs - first.timestampMs))

/-- The same for a grid: the `k`-th release is due `k` intervals after the first. -/
def FollowsGrid (interval : ℤ) : List Release → Prop
  | [] => True
  | first :: later => first.time = first.arrival ∧ ∀ (k : ℕ) (r : Release),
      later[k]? = some r → r.time = max r.arrival (first.time + (k + 1) * interval)

theorem emitted_scheduleStep_some (calls : List (ℕ × ℕ)) (c T₀ : ℤ) (t₀ : ℕ) :
    ∀ r ∈ emitted scheduleStep (c, some (T₀, t₀)) calls,
      r.time = max r.arrival (T₀ + (r.timestampMs - t₀)) := by
  induction calls generalizing c with
  | nil => exact List.forall_mem_nil _
  | cons call calls ih =>
    exact List.forall_mem_cons.mpr ⟨rfl, ih _⟩

theorem followsSchedule_scheduleStep (calls : List (ℕ × ℕ)) (c : ℤ) :
    FollowsSchedule (emitted scheduleStep (c, none) calls) := by
  cases calls with
  | nil => trivial
  | cons call calls => exact ⟨rfl, emitted_scheduleStep_some calls _ _ _⟩

end Schedule

section Arithmetic

variable {now T₀ : ℤ} {t t₀ : ℕ}

theorem int64_of_small {x : ℤ} (hl : -2 ^ 63 ≤ x) (hr : x < 2 ^ 63) : int64 x = x := by
  unfold int64
  omega

theorem elapsedMs_eq (hT : IsTimePoint (T₀ * 1000000)) (hnow : IsTimePoint (now * 1000000))
    (h : T₀ ≤ now) : (elapsedMs (now * 1000000) (T₀ * 1000000) : ℤ) = now - T₀ := by
  obtain ⟨hT, -⟩ := hT
  obtain ⟨-, hnow⟩ := hnow
  rw [elapsedMs, int64_of_small (by omega) (by omega), ← Int.sub_mul,
    Int.mul_tdiv_cancel _ (by decide)]
  omega

theorem elapsed_lt (hT : IsTimePoint (T₀ * 1000000)) (hnow : IsTimePoint (now * 1000000)) :
    now - T₀ < 2 ^ 45 := by
  obtain ⟨hT, -⟩ := hT
  obtain ⟨-, hnow⟩ := hnow
  omega

/-- Between timestamps below `2 ^ 62` and instants of the clock nothing wraps around. -/
theorem wait_eq (ht : t < 2 ^ 62) (ht₀ : t₀ < 2 ^ 62) (hT : IsTimePoint (T₀ * 1000000))
    (hnow : IsTimePoint (now * 1000000)) (h : T₀ ≤ now) :
    int64 (int64 (int64 t - int64 t₀) - int64 (elapsedMs (now * 1000000) (T₀ * 1000000))) =
      t - t₀ - (now - T₀) := by
  have hlt := elapsed_lt hT hnow
  rw [elapsedMs_eq hT hnow h, int64_of_small (x := t) (by omega) (by omega),
    int64_of_small (x := t₀) (by omega) (by omega),
    int64_of_small (x := t - t₀) (by omega) (by omega),
    int64_of_small (x := now - T₀) (by omega) (by omega), int64_of_small (by omega) (by omega)]

end Arithmetic

section Scheduler

variable {s : PacedFrameScheduler} {frame : TimestampedFrame} {calls : List (ℕ × TimestampedFrame)}

/-- Without an offset no frame is classified as skipped, whatever its timestamp. -/
theorem classifyFrame_nonneg {startFromS : ℚ} (h : startFromS < 0)
    (recordingBaselineTsMs pacingBaselineTsMs elapsedSinceStartMs : ℕ) :
    0 ≤ classifyFrame startFromS frame recordingBaselineTsMs pacingBaselineTsMs
      elapsedSinceStartMs := by
  unfold ReplayPacing.classifyFrame
  rw [if_neg fun hge => absurd hge.1 (not_le_of_gt h)]
  dsimp only
  split <;> omega

/-- Without an offset a frame that is not blank is emitted: at once if it is the first, else
after the wait for its deadline. -/
theorem consider_eq (hs : s.startFromS < 0) (hblank : isFrameBlank frame = false)
    (now restart : ℤ) :
    s.consider now restart frame =
      if s.emittedAny then
        (s.withBaseline frame, .Emit, max (classifyFrame s.startFromS frame
          (s.withBaseline frame).recordingBaselineTsMs (s.withBaseline frame).pacingBaselineTsMs
          (elapsedMs now s.replayStart)) 0)
      else
        ({ s.withBaseline frame with
          pacingBaselineTsMs := frame.timestampMs
          replayStart := restart
          emittedAny := true }, .Emit, 0) := by
  have hkeep : (s.withBaseline frame).startFromS = s.startFromS ∧
      (s.withBaseline frame).emittedAny = s.emittedAny ∧
      (s.withBaseline frame).replayStart = s.replayStart := by
    unfold PacedFrameScheduler.withBaseline
    split <;> exact ⟨rfl, rfl, rfl⟩
  obtain ⟨hoff, hany, hstart⟩ := hkeep
  have hnonneg (recording pacing elapsed : ℕ) :
      0 ≤ classifyFrame s.startFromS frame recording pacing elapsed :=
    classifyFrame_nonneg hs recording pacing elapsed
  simp only [PacedFrameScheduler.consider, hblank, Bool.false_eq_true, if_false, hoff, hany, hstart,
    not_lt_of_ge (hnonneg _ _ _)]

theorem consider_emit (hs : s.startFromS < 0) (hblank : isFrameBlank frame = false)
    (now restart : ℤ) :
    (s.consider now restart frame).2.1 = .Emit ∧
      (s.consider now restart frame).1.startFromS = s.startFromS := by
  have hkeep : (s.withBaseline frame).startFromS = s.startFromS := by
    unfold PacedFrameScheduler.withBaseline
    split <;> rfl
  rw [consider_eq hs hblank]
  split
  · exact ⟨rfl, hkeep⟩
  · exact ⟨rfl, hkeep⟩

/-- The scheduler at clock `c` stands for an origin: none yet, or the first emitted frame. -/
structure SchedulerAt (c : ℤ) (s : PacedFrameScheduler) (o : Option (ℤ × ℕ)) : Prop where
  offset : s.startFromS < 0
  emittedAny : s.emittedAny = o.isSome
  origin : ∀ T₀ t₀, o = some (T₀, t₀) → s.baselineSet = true ∧ s.replayStart = T₀ * 1000000 ∧
    s.pacingBaselineTsMs = t₀ ∧ IsTimePoint (T₀ * 1000000) ∧ t₀ < 2 ^ 62 ∧ T₀ ≤ c

theorem SchedulerAt.later {c c' : ℤ} {o : Option (ℤ × ℕ)} (h : SchedulerAt c s o) (hle : c ≤ c') :
    SchedulerAt c' s o := by
  obtain ⟨hoff, hany, horigin⟩ := h
  refine ⟨hoff, hany, ?_⟩
  intro T₀ t₀ ho
  obtain ⟨hset, hstart, hbase, hT, ht₀, hc⟩ := horigin T₀ t₀ ho
  exact ⟨hset, hstart, hbase, hT, ht₀, hc.trans hle⟩

/-- One frame: the scheduler and the schedule release it at the same time. -/
theorem schedulerStep_eq {c : ℤ} {o : Option (ℤ × ℕ)} {work : ℕ}
    (h : SchedulerAt c s o) (hblank : isFrameBlank frame = false) (ht : frame.timestampMs < 2 ^ 62)
    (hclock : OnClock (c, s) (work, frame)) :
    (schedulerStep (c, s) (work, frame)).2 =
        (scheduleStep (c, o) (work, frame.timestampMs)).2 ∧
      (schedulerStep (c, s) (work, frame)).1.1 =
        (scheduleStep (c, o) (work, frame.timestampMs)).1.1 ∧
      SchedulerAt (schedulerStep (c, s) (work, frame)).1.1
        (schedulerStep (c, s) (work, frame)).1.2
        (scheduleStep (c, o) (work, frame.timestampMs)).1.2 := by
  obtain ⟨hoff, hany, horigin⟩ := h
  cases o with
  | none =>
    have hnone : s.emittedAny = false := hany
    have hkeep : (s.withBaseline frame).startFromS = s.startFromS ∧
        (s.withBaseline frame).baselineSet = true := by
      unfold PacedFrameScheduler.withBaseline
      split
      · next hset => exact ⟨rfl, hset⟩
      · exact ⟨rfl, rfl⟩
    simp only [schedulerStep, consider_eq hoff hblank, hnone, Bool.false_eq_true, scheduleStep,
      if_true, if_false, add_zero, true_and]
    refine ⟨by rw [hkeep.1]; exact hoff, rfl, ?_⟩
    rintro T₀ t₀ ⟨⟩
    exact ⟨hkeep.2, rfl, rfl, hclock, ht, le_refl _⟩
  | some origin =>
    obtain ⟨T₀, t₀⟩ := origin
    obtain ⟨hset, hstart, hbase, hT, ht₀, hle⟩ := horigin T₀ t₀ rfl
    have hsome : s.emittedAny = true := hany
    have hkeep : s.withBaseline frame = s := by
      rw [PacedFrameScheduler.withBaseline, if_pos hset]
    have hwait : max (classifyFrame s.startFromS frame s.recordingBaselineTsMs t₀
        (elapsedMs ((c + work) * 1000000) (T₀ * 1000000))) 0 =
          max (frame.timestampMs - t₀ - (c + work - T₀)) 0 := by
      rw [ReplayPacing.classifyFrame, if_neg fun hge => absurd hge.1 (not_le_of_gt hoff)]
      dsimp only
      rw [wait_eq ht ht₀ hT hclock (by omega)]
      split <;> omega
    have htime : c + work + max ((frame.timestampMs : ℤ) - t₀ - (c + work - T₀)) 0 =
        max (c + work) (T₀ + (frame.timestampMs - t₀)) := by omega
    simp only [schedulerStep, consider_eq hoff hblank, hsome, hkeep, hstart, hbase, hwait,
      scheduleStep, if_true, htime]
    refine ⟨trivial, trivial, hoff, hany, ?_⟩
    rintro T t ⟨⟩
    exact ⟨hset, hstart, hbase, hT, ht₀, by omega⟩

/-- The whole run: blank frames only let time pass. -/
theorem emitted_schedulerStep {c : ℤ} {o : Option (ℤ × ℕ)} {idle : ℕ}
    (h : SchedulerAt (c + idle) s o) (hts : ∀ call ∈ calls, call.2.timestampMs < 2 ^ 62)
    (hclock : Guarded schedulerStep OnClock (c + idle, s) calls) :
    emitted schedulerStep (c + idle, s) calls = emitted scheduleStep (c, o) (rows calls idle) ∧
      Guarded scheduleStep OnClock (c, o) (rows calls idle) := by
  induction calls generalizing c s o idle with
  | nil => exact ⟨rfl, trivial⟩
  | cons call calls ih =>
    obtain ⟨work, frame⟩ := call
    obtain ⟨ht, hts⟩ := List.forall_mem_cons.mp hts
    obtain ⟨hnow, hclock⟩ := hclock
    cases hblank : isFrameBlank frame with
    | true =>
      have hstep : schedulerStep (c + idle, s) (work, frame) =
          ((c + (idle + work : ℕ), s), []) := by
        simp only [schedulerStep, PacedFrameScheduler.consider, hblank, if_true, reduceCtorEq,
          if_false, add_zero, Nat.cast_add, add_assoc]
      rw [hstep] at hclock
      rw [emitted_cons, hstep, rows, if_pos hblank, List.nil_append]
      exact ih (h.later (by omega)) hts hclock
    | false =>
      obtain ⟨hout, hc, hat⟩ := schedulerStep_eq h hblank ht hnow
      have hrow : scheduleStep (c, o) (idle + work, frame.timestampMs) =
          scheduleStep (c + idle, o) (work, frame.timestampMs) := by
        simp only [scheduleStep, Nat.cast_add, add_assoc]
      rw [rows, if_neg (by rw [hblank]; exact Bool.false_ne_true), emitted_cons, emitted_cons,
        guarded_cons, hrow, hout]
      have hzero : (schedulerStep (c + idle, s) (work, frame)).1 =
          ((scheduleStep (c + idle, o) (work, frame.timestampMs)).1.1 + (0 : ℕ),
            (schedulerStep (c + idle, s) (work, frame)).1.2) := by
        rw [← hc, Nat.cast_zero, add_zero]
      rw [hzero] at hclock hat ⊢
      obtain ⟨he, hg⟩ := ih hat hts hclock
      have hon : OnClock (c, o) (idle + work, frame.timestampMs) := by
        simpa only [OnClock, Nat.cast_add, add_assoc] using hnow
      exact ⟨congrArg _ he, hon, hg⟩

end Scheduler

section Pacer

variable {p : CsvReplayPacer} {calls : List (ℕ × ℕ)}

/-- The row pacer at clock `c`, driven by timestamps, stands for an origin. -/
structure PacerAt (c : ℤ) (p : CsvReplayPacer) (o : Option (ℤ × ℕ)) : Prop where
  interval : p.intervalMs ≤ 0
  anchored : p.anchored = o.isSome
  origin : ∀ T₀ t₀, o = some (T₀, t₀) → p.replayStart = T₀ * 1000000 ∧ p.baselineTsMs = t₀ ∧
    IsTimePoint (T₀ * 1000000) ∧ t₀ < 2 ^ 62 ∧ T₀ ≤ c

/-- One row: the pacer and the schedule release it at the same time. -/
theorem pacerStep_eq {c : ℤ} {o : Option (ℤ × ℕ)} {work t : ℕ} (h : PacerAt c p o)
    (ht : t < 2 ^ 62) (hclock : OnClock (c, p) (work, t)) :
    (pacerStep (c, p) (work, t)).2 = (scheduleStep (c, o) (work, t)).2 ∧
      (pacerStep (c, p) (work, t)).1.1 = (scheduleStep (c, o) (work, t)).1.1 ∧
      PacerAt (pacerStep (c, p) (work, t)).1.1 (pacerStep (c, p) (work, t)).1.2
        (scheduleStep (c, o) (work, t)).1.2 := by
  obtain ⟨hint, hanch, horigin⟩ := h
  cases o with
  | none =>
    have hnone : p.anchored = false := hanch
    simp only [pacerStep, CsvReplayPacer.paceRow, hnone, Bool.false_eq_true, if_false,
      scheduleStep, add_zero, true_and]
    refine ⟨hint, rfl, ?_⟩
    rintro T₀ t₀ ⟨⟩
    exact ⟨rfl, rfl, hclock, ht, le_refl _⟩
  | some origin =>
    obtain ⟨T₀, t₀⟩ := origin
    obtain ⟨hstart, hbase, hT, ht₀, hle⟩ := horigin T₀ t₀ rfl
    have hsome : p.anchored = true := hanch
    have hwait : int64 (p.scheduledOffsetMs t - int64 (elapsedMs ((c + work) * 1000000)
        (T₀ * 1000000))) = t - t₀ - (c + work - T₀) := by
      rw [CsvReplayPacer.scheduledOffsetMs, if_neg (not_lt_of_ge hint), hbase]
      exact wait_eq ht ht₀ hT hclock (by omega)
    have htime : c + work + max ((t : ℤ) - t₀ - (c + work - T₀)) 0 =
        max (c + work) (T₀ + (t - t₀)) := by omega
    simp only [pacerStep, CsvReplayPacer.paceRow, hsome, if_true, hstart, hwait, scheduleStep,
      htime, true_and]
    refine ⟨hint, rfl, ?_⟩
    rintro T s ⟨⟩
    exact ⟨rfl, hbase, hT, ht₀, by omega⟩

theorem emitted_pacerStep {c : ℤ} {o : Option (ℤ × ℕ)} (h : PacerAt c p o)
    (hts : ∀ call ∈ calls, call.2 < 2 ^ 62) (hclock : Guarded scheduleStep OnClock (c, o) calls) :
    emitted pacerStep (c, p) calls = emitted scheduleStep (c, o) calls := by
  induction calls generalizing c p o with
  | nil => rfl
  | cons call calls ih =>
    obtain ⟨work, t⟩ := call
    obtain ⟨ht, hts⟩ := List.forall_mem_cons.mp hts
    obtain ⟨hnow, hclock⟩ := hclock
    obtain ⟨hout, hc, hat⟩ := pacerStep_eq h ht hnow
    rw [emitted_cons, emitted_cons, hout]
    rw [hc] at hat
    have hstate : (pacerStep (c, p) (work, t)).1 =
        ((scheduleStep (c, o) (work, t)).1.1, (pacerStep (c, p) (work, t)).1.2) := by
      rw [← hc]
    rw [hstate, ih hat hts hclock]

/-- The row pacer on a grid, behind its `k`-th row. -/
structure GridAt (c : ℤ) (p : CsvReplayPacer) (T₀ : ℤ) (k : ℕ) : Prop where
  anchored : p.anchored = true
  replayStart : p.replayStart = T₀ * 1000000
  rowsPaced : p.rowsPaced = k + 1
  timePoint : IsTimePoint (T₀ * 1000000)
  reached : T₀ + k * p.intervalMs ≤ c

/-- One row on a grid: since the row before it was not released before its deadline, the next
deadline is still near the range of the clock, and the product does not wrap around. -/
theorem pacerStep_grid {c T₀ : ℤ} {k work t : ℕ} (h : GridAt c p T₀ k) (hpos : 0 < p.intervalMs)
    (hint : p.intervalMs < 2 ^ 31) (hclock : OnClock (c, p) (work, t)) :
    (pacerStep (c, p) (work, t)).2 =
        [⟨c + work, t, max (c + work) (T₀ + (k + 1) * p.intervalMs)⟩] ∧
      (pacerStep (c, p) (work, t)).1.2.intervalMs = p.intervalMs ∧
      GridAt (pacerStep (c, p) (work, t)).1.1 (pacerStep (c, p) (work, t)).1.2 T₀ (k + 1) := by
  obtain ⟨hanch, hstart, hrows, hT, hreached⟩ := h
  have hle : T₀ ≤ c + work := by
    have hnonneg : 0 ≤ (k : ℤ) * p.intervalMs := by positivity
    omega
  have hlt := elapsed_lt hT hclock
  have hk : (k : ℤ) ≤ k * p.intervalMs := le_mul_of_one_le_right (by omega) (by omega)
  have hoffset : p.scheduledOffsetMs t = (k + 1) * p.intervalMs := by
    rw [CsvReplayPacer.scheduledOffsetMs, if_pos hpos, hrows, Nat.cast_add, Nat.cast_one,
      int64_of_small (x := k + 1) (by omega) (by omega), add_mul, one_mul]
    exact int64_of_small (by omega) (by omega)
  have hwait : int64 (p.scheduledOffsetMs t - int64 (elapsedMs ((c + work) * 1000000)
      (T₀ * 1000000))) = (k + 1) * p.intervalMs - (c + work - T₀) := by
    rw [hoffset, elapsedMs_eq hT hclock hle,
      int64_of_small (x := c + work - T₀) (by omega) (by omega), add_mul, one_mul]
    exact int64_of_small (by omega) (by omega)
  have htime : c + work + max ((k + 1) * p.intervalMs - (c + work - T₀)) 0 =
      max (c + work) (T₀ + (k + 1) * p.intervalMs) := by omega
  simp only [pacerStep, CsvReplayPacer.paceRow, hanch, if_true, hstart, hwait, htime, true_and]
  refine ⟨rfl, rfl, ?_, hT, ?_⟩
  · simp only [hrows, uint64]
    omega
  · push_cast
    exact le_max_right _ _

theorem emitted_pacerStep_grid {c T₀ : ℤ} {k : ℕ} (h : GridAt c p T₀ k) (hpos : 0 < p.intervalMs)
    (hint : p.intervalMs < 2 ^ 31) (hclock : Guarded pacerStep OnClock (c, p) calls) :
    ∀ (i : ℕ) (r : Release), (emitted pacerStep (c, p) calls)[i]? = some r →
      r.time = max r.arrival (T₀ + (k + i + 1) * p.intervalMs) := by
  induction calls generalizing c p k with
  | nil => simp
  | cons call calls ih =>
    obtain ⟨work, t⟩ := call
    obtain ⟨hnow, hclock⟩ := hclock
    obtain ⟨hout, hsame, hat⟩ := pacerStep_grid h hpos hint hnow
    rw [emitted_cons, hout, List.singleton_append]
    rintro i r hr
    cases i with
    | zero =>
      obtain rfl := Option.some.inj hr
      rw [Nat.cast_zero, add_zero]
    | succ i =>
      have hrest := ih hat (by rwa [hsame]) (by rwa [hsame]) hclock i r hr
      rw [hrest, hsame, Nat.cast_succ, Nat.cast_succ, add_right_comm (k : ℤ) 1]
      rfl

end Pacer

section Both

variable {calls : List (ℕ × TimestampedFrame)}

/-- The releases of the scheduler that is created when the clock shows `start`. -/
def schedulerRun (startFromS : ℚ) (start : ℤ) (calls : List (ℕ × TimestampedFrame)) :
    List Release :=
  emitted schedulerStep
    (start, { startFromS := startFromS, replayStart := start * 1000000 }) calls

/-- The releases of the row pacer. -/
def pacerRun (intervalMs start : ℤ) (calls : List (ℕ × ℕ)) : List Release :=
  emitted pacerStep (start, { intervalMs := intervalMs }) calls

theorem map_timestampMs_scheduleStep (calls : List (ℕ × ℕ)) (s : ℤ × Option (ℤ × ℕ)) :
    (emitted scheduleStep s calls).map Release.timestampMs = calls.map Prod.snd := by
  induction calls generalizing s with
  | nil => rfl
  | cons call calls ih =>
    rw [emitted_cons, List.map_append, ih, List.map_cons]
    unfold scheduleStep
    split <;> rfl

theorem map_timestampMs_pacerStep (calls : List (ℕ × ℕ)) (s : ℤ × CsvReplayPacer) :
    (emitted pacerStep s calls).map Release.timestampMs = calls.map Prod.snd := by
  induction calls generalizing s with
  | nil => rfl
  | cons call calls ih => exact congrArg (call.2 :: ·) (ih _)

theorem map_snd_rows (calls : List (ℕ × TimestampedFrame)) (idle : ℕ) :
    (rows calls idle).map Prod.snd =
      (calls.filter (!isFrameBlank ·.2)).map (·.2.timestampMs) := by
  induction calls generalizing idle with
  | nil => rfl
  | cons call calls ih =>
    cases hblank : isFrameBlank call.2 <;> simp [rows, hblank, ih]

/-- Both pacers follow the absolute schedule, for any timestamps below `2 ^ 62` and any work of
the caller that the clock can hold. The scheduler without an offset releases the frames that
are not blank, the first at once and every later one at its deadline or its arrival; the row
pacer releases the same rows at the same times; on a grid it releases the `k`-th row `k`
intervals after the first one, or at its arrival. -/
theorem pacers_follow_schedule {startFromS : ℚ} (hoff : startFromS < 0) (start : ℤ) :
    (∀ calls : List (ℕ × TimestampedFrame), (∀ call ∈ calls, call.2.timestampMs < 2 ^ 62) →
      Guarded schedulerStep OnClock
        (start, { startFromS := startFromS, replayStart := start * 1000000 }) calls →
      (schedulerRun startFromS start calls).map Release.timestampMs =
          (calls.filter (!isFrameBlank ·.2)).map (·.2.timestampMs) ∧
        FollowsSchedule (schedulerRun startFromS start calls) ∧
        ∀ intervalMs ≤ 0,
          pacerRun intervalMs start (rows calls 0) = schedulerRun startFromS start calls) ∧
    ∀ (calls : List (ℕ × ℕ)) (intervalMs : ℤ), 0 < intervalMs → intervalMs < 2 ^ 31 →
      Guarded pacerStep OnClock (start, { intervalMs := intervalMs }) calls →
      (pacerRun intervalMs start calls).map Release.timestampMs = calls.map Prod.snd ∧
        FollowsGrid intervalMs (pacerRun intervalMs start calls) := by
  constructor
  · rintro calls hts hclock
    have hstart : start = start + (0 : ℕ) := by rw [Nat.cast_zero, add_zero]
    have hat : SchedulerAt (start + (0 : ℕ))
        { startFromS := startFromS, replayStart := start * 1000000 } none := ⟨hoff, rfl, nofun⟩
    obtain ⟨hrun, hrows⟩ := emitted_schedulerStep (c := start) hat hts (by rwa [← hstart])
    rw [← hstart] at hrun
    rw [schedulerRun, hrun, map_timestampMs_scheduleStep, map_snd_rows]
    refine ⟨rfl, followsSchedule_scheduleStep _ _, ?_⟩
    rintro intervalMs hint
    refine emitted_pacerStep ⟨hint, rfl, nofun⟩ ?_ hrows
    intro row hrow
    have hmem := List.mem_map_of_mem (f := Prod.snd) hrow
    rw [map_snd_rows] at hmem
    obtain ⟨call, hcall, hrow⟩ := List.mem_map.mp hmem
    rw [← hrow]
    exact hts call (List.mem_of_mem_filter hcall)
  · rintro calls intervalMs hpos hint hclock
    refine ⟨map_timestampMs_pacerStep _ _, ?_⟩
    cases calls with
    | nil => trivial
    | cons call calls =>
      obtain ⟨hnow, hclock⟩ := hclock
      have hat : GridAt (pacerStep (start, { intervalMs := intervalMs }) call).1.1
          (pacerStep (start, { intervalMs := intervalMs }) call).1.2 (start + call.1) 0 := by
        refine ⟨rfl, rfl, rfl, hnow, ?_⟩
        simp [pacerStep, CsvReplayPacer.paceRow]
      constructor
      · simp
      · rintro k r hr
        have hgrid := emitted_pacerStep_grid hat hpos hint hclock k r hr
        have hsame : (pacerStep (start, { intervalMs := intervalMs }) call).1.2.intervalMs =
            intervalMs := rfl
        rw [hgrid, hsame, Nat.cast_zero, zero_add]
        simp

/-- A frame with one data byte that is not zero. -/
def frameAt (timestampMs : ℕ) (h : timestampMs < 2 ^ 64) : TimestampedFrame :=
  ⟨⟨[8, 1, 1, 0, 0, 0, 0, 0, 0, 0], []⟩, timestampMs, h, rfl⟩

/-- The second frame comes 30 ms after the first and is due 500 ms after it; on the grid it is
due after 100 ms. -/
theorem pacers_follow_schedule_two :
    FollowsSchedule (schedulerRun (-1) 7
        [(0, frameAt 1000 (by decide)), (30, frameAt 1500 (by decide))]) ∧
      FollowsGrid 100 (pacerRun 100 7 [(0, 1000), (30, 1500)]) := by
  have h := pacers_follow_schedule (show (-1 : ℚ) < 0 by norm_num) 7
  constructor
  · exact (h.1 _ (by decide +kernel) (by decide +kernel)).2.1
  · exact (h.2 _ 100 (by norm_num) (by norm_num) (by decide +kernel)).2

end Both

end VehicleSpy.Pipeline
