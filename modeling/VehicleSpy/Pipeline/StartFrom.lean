import VehicleSpy.Pipeline.PipelineReplay

/-! # Replay from an offset

The gate takes the distance of a frame from the first one as an unsigned number. A frame that was
recorded before the first one is therefore far behind the window: it is emitted as overdue, and if
it is the first one to be emitted, every wait of the run is measured from it. Apart from such frames
the offset is kept, up to the fraction of a millisecond that is cut off.
-/

namespace VehicleSpy.Pipeline

open Machine Machine.Binary64 ReplayPacing

/-- The timestamp of the first frame that is not blank. -/
def baseMs (calls : List Fetched) : ℕ :=
  ((calls.find? (!isFrameBlank ·.frame)).map (·.frame.timestampMs)).getD 0

/-- A frame is due at the offset and behind it. -/
def Due (startFromS : ℚ) (base : ℕ) (call : Fetched) : Prop :=
  isFrameBlank call.frame = false ∧ (base : ℚ) + startFromS * 1000 ≤ call.frame.timestampMs

instance (startFromS : ℚ) (base : ℕ) : DecidablePred (Due startFromS base) :=
  fun _ => inferInstanceAs (Decidable (_ ∧ _))

/-- What the gate lets pass: the offset is cut to milliseconds, and a frame in front of the first
one passes, unless the offset goes round from there. -/
def Kept (startFromS : ℚ) (base : ℕ) (call : Fetched) : Prop :=
  isFrameBlank call.frame = false ∧
    (base + thresholdMs startFromS ≤ call.frame.timestampMs ∨
      call.frame.timestampMs < base ∧
        base + thresholdMs startFromS ≤ call.frame.timestampMs + 2 ^ 64)

instance (startFromS : ℚ) (base : ℕ) : DecidablePred (Kept startFromS base) :=
  fun _ => inferInstanceAs (Decidable (_ ∧ _))

/-- The wait for a frame, measured from the frame that is the origin. -/
def originWait (origin call : Fetched) : ℤ :=
  max (int64 (int64 (int64 call.frame.timestampMs - int64 origin.frame.timestampMs) -
    int64 (elapsedMs call.now origin.restart))) 0

section Outcome

variable (P : Fetched → Prop) [DecidablePred P]

/-- What comes of a frame behind the origin. -/
def outcome (origin call : Fetched) : Action × ℤ :=
  if P call then (.Emit, originWait origin call) else (.Skip, 0)

/-- Only the frames with the property are emitted. Skipping takes no time, the first frame that is
emitted comes at once, and the others wait as long after it as they were recorded after it. -/
structure ReplaysFrom (calls : List Fetched) (results : List (Action × ℤ)) : Prop where
  nothing : (∀ call ∈ calls, ¬ P call) → results = calls.map fun _ => (.Skip, 0)
  origin : ∀ window origin rest, calls = window ++ origin :: rest →
    (∀ call ∈ window, ¬ P call) → P origin →
    results = window.map (fun _ => (.Skip, 0)) ++ (.Emit, 0) :: rest.map (outcome P origin)

end Outcome

/-- No frame comes before the first one, and none lies between the offset and its whole
milliseconds. -/
def InOrder (startFromS : ℚ) (calls : List Fetched) : Prop :=
  ∀ call ∈ calls, isFrameBlank call.frame = false →
    (call.frame.timestampMs < baseMs calls →
      call.frame.timestampMs + 2 ^ 64 < baseMs calls + thresholdMs startFromS) ∧
    (baseMs calls ≤ call.frame.timestampMs →
      ((baseMs calls : ℚ) + startFromS * 1000 ≤ call.frame.timestampMs ↔
        baseMs calls + thresholdMs startFromS ≤ call.frame.timestampMs))

section Gate

variable {startFromS : ℚ} {frame : TimestampedFrame} {base pacing elapsed : ℕ}

theorem nonneg_of_thresholdMs {n : ℕ} (h : n < thresholdMs startFromS) : 0 ≤ startFromS := by
  by_contra hneg
  have hnonpos : rnd (startFromS * 1000) ≤ 0 := rnd_nonpos (by linarith)
  have hfloor : (rnd (startFromS * 1000)).floor ≤ 0 := Int.floor_nonpos hnonpos
  rw [thresholdMs, Int.toNat_of_nonpos hfloor] at h
  exact Nat.not_lt_zero n h

theorem classifyFrame_neg_iff : classifyFrame startFromS frame base pacing elapsed < 0 ↔
    uint64 (frame.timestampMs - base) < thresholdMs startFromS := by
  unfold classifyFrame
  split
  · next h => exact ⟨fun _ => h.2, fun _ => by decide⟩
  · next h =>
    refine ⟨?_, fun hlt => absurd ⟨nonneg_of_thresholdMs hlt, hlt⟩ h⟩
    dsimp only
    intro hneg
    split at hneg <;> omega

/-- The distance as an unsigned number: of a frame in front of the first one it goes round. -/
theorem uint64_sub_lt_iff {t thr : ℕ} (ht : t < 2 ^ 64) (hbase : base < 2 ^ 64) :
    uint64 (t - base) < thr ↔ ¬ (base + thr ≤ t ∨ t < base ∧ base + thr ≤ t + 2 ^ 64) := by
  unfold uint64
  omega

end Gate

namespace PacedFrameScheduler

variable {startFromS : ℚ} {base : ℕ} {s : PacedFrameScheduler} {origin call : Fetched}
  {calls window rest : List Fetched}

/-- The baseline of the recording: the one that is set, or the first one of what is to come. -/
def baseFrom (s : PacedFrameScheduler) (calls : List Fetched) : ℕ :=
  if s.baselineSet then s.recordingBaselineTsMs else baseMs calls

/-- No frame has been emitted. -/
structure Gated (startFromS : ℚ) (s : PacedFrameScheduler) : Prop where
  offset : s.startFromS = startFromS
  emittedAny : s.emittedAny = false

/-- The first emitted frame is the origin. -/
structure Anchored (startFromS : ℚ) (base : ℕ) (origin : Fetched) (s : PacedFrameScheduler) :
    Prop where
  offset : s.startFromS = startFromS
  emittedAny : s.emittedAny = true
  baselineSet : s.baselineSet = true
  recording : s.recordingBaselineTsMs = base
  pacing : s.pacingBaselineTsMs = origin.frame.timestampMs
  replayStart : s.replayStart = origin.restart

theorem baseMs_cons_blank (hblank : isFrameBlank call.frame = true) :
    baseMs (call :: calls) = baseMs calls := by
  rw [baseMs, List.find?_cons_of_neg (by simp [hblank]), baseMs]

theorem baseMs_cons (hblank : isFrameBlank call.frame = false) :
    baseMs (call :: calls) = call.frame.timestampMs := by
  rw [baseMs, List.find?_cons_of_pos (by simp [hblank])]
  rfl

theorem baseMs_lt (calls : List Fetched) : baseMs calls < 2 ^ 64 := by
  unfold baseMs
  cases calls.find? (!isFrameBlank ·.frame) with
  | none => exact Nat.two_pow_pos 64
  | some call => exact call.frame.timestampMs_lt

theorem withBaseline_facts (frame : TimestampedFrame) :
    (s.withBaseline frame).startFromS = s.startFromS ∧
      (s.withBaseline frame).emittedAny = s.emittedAny ∧
      (s.withBaseline frame).replayStart = s.replayStart ∧
      (s.withBaseline frame).baselineSet = true := by
  unfold withBaseline
  split
  · next hset => exact ⟨rfl, rfl, rfl, hset⟩
  · exact ⟨rfl, rfl, rfl, rfl⟩

theorem recording_withBaseline (hblank : isFrameBlank call.frame = false) :
    (s.withBaseline call.frame).recordingBaselineTsMs = s.baseFrom (call :: calls) := by
  unfold withBaseline baseFrom
  split
  · rfl
  · rw [baseMs_cons hblank]

/-- One frame that is not blank: the gate decides, then whether one was emitted before. -/
theorem considerStep_eq (hoff : s.startFromS = startFromS) (hbase : base < 2 ^ 64)
    (hblank : isFrameBlank call.frame = false) (hfrom : s.baseFrom (call :: calls) = base) :
    considerStep s call =
      if Kept startFromS base call then
        if s.emittedAny then
          (s.withBaseline call.frame, [(.Emit, max (classifyFrame startFromS call.frame base
            (s.withBaseline call.frame).pacingBaselineTsMs (elapsedMs call.now s.replayStart)) 0)])
        else
          ({ s.withBaseline call.frame with
            pacingBaselineTsMs := call.frame.timestampMs
            replayStart := call.restart
            emittedAny := true }, [(.Emit, 0)])
      else (s.withBaseline call.frame, [(.Skip, 0)]) := by
  obtain ⟨hkeep, hany, hstart, -⟩ := withBaseline_facts (s := s) call.frame
  have hrec := (recording_withBaseline hblank).trans hfrom
  have hgate (pacing elapsed : ℕ) :
      classifyFrame startFromS call.frame base pacing elapsed < 0 ↔
        ¬ Kept startFromS base call := by
    rw [classifyFrame_neg_iff, uint64_sub_lt_iff call.frame.timestampMs_lt hbase, Kept, hblank]
    simp only [true_and]
  simp only [considerStep, consider, hblank, Bool.false_eq_true, if_false, hkeep, hoff, hany,
    hstart, hrec, hgate, ite_not]
  split
  · split <;> rfl
  · rfl

/-- A frame in the window is skipped at once, and the baseline of the recording stands. -/
theorem considerStep_skip (hs : Gated startFromS s) (hbase : base < 2 ^ 64)
    (hfrom : s.baseFrom (call :: calls) = base) (hkept : ¬ Kept startFromS base call) :
    (considerStep s call).2 = [(.Skip, 0)] ∧ Gated startFromS (considerStep s call).1 ∧
      (considerStep s call).1.baseFrom calls = base := by
  cases hblank : isFrameBlank call.frame with
  | true =>
    simp only [considerStep, consider, hblank, if_true, true_and]
    refine ⟨hs, ?_⟩
    rw [← hfrom]
    simp only [baseFrom, baseMs_cons_blank hblank]
  | false =>
    obtain ⟨hoff, hany, -, hset⟩ := withBaseline_facts (s := s) call.frame
    rw [considerStep_eq hs.offset hbase hblank hfrom, if_neg hkept]
    refine ⟨rfl, ⟨hoff.trans hs.offset, hany.trans hs.emittedAny⟩, ?_⟩
    rw [baseFrom, if_pos hset]
    exact (recording_withBaseline hblank).trans hfrom

/-- The first frame that is kept is emitted at once, and becomes the origin. -/
theorem considerStep_origin (hs : Gated startFromS s) (hbase : base < 2 ^ 64)
    (hfrom : s.baseFrom (call :: calls) = base) (hkept : Kept startFromS base call) :
    (considerStep s call).2 = [(.Emit, 0)] ∧
      Anchored startFromS base call (considerStep s call).1 := by
  obtain ⟨hoff, -, -, hset⟩ := withBaseline_facts (s := s) call.frame
  rw [considerStep_eq hs.offset hbase hkept.1 hfrom, if_pos hkept, hs.emittedAny]
  exact ⟨rfl, hoff.trans hs.offset, rfl, hset, (recording_withBaseline hkept.1).trans hfrom, rfl,
    rfl⟩

/-- Behind the origin the scheduler does not change. -/
theorem considerStep_anchored (hs : Anchored startFromS base origin s) (hbase : base < 2 ^ 64)
    (call : Fetched) : considerStep s call = (s, [outcome (Kept startFromS base) origin call]) := by
  cases hblank : isFrameBlank call.frame with
  | true =>
    have hkept : ¬ Kept startFromS base call := fun h => absurd h.1 (by simp [hblank])
    simp only [considerStep, consider, hblank, if_true, outcome, if_neg hkept]
  | false =>
    have hsame : s.withBaseline call.frame = s := by
      rw [withBaseline, if_pos hs.baselineSet]
    have hfrom : s.baseFrom (call :: []) = base := by
      rw [baseFrom, if_pos hs.baselineSet, hs.recording]
    rw [considerStep_eq hs.offset hbase hblank hfrom, hs.emittedAny, hsame, hs.pacing,
      hs.replayStart, outcome]
    by_cases hkept : Kept startFromS base call
    · have hpass : ¬ (0 ≤ startFromS ∧
          uint64 (call.frame.timestampMs - base) < thresholdMs startFromS) := fun h =>
        (uint64_sub_lt_iff call.frame.timestampMs_lt hbase).mp h.2 hkept.2
      rw [if_pos hkept, if_pos hkept, if_pos rfl, classifyFrame, if_neg hpass, originWait]
      dsimp only
      split
      · next hle => rw [max_eq_right hle, max_self]
      · rfl
    · rw [if_neg hkept, if_neg hkept]

/-- The window: every frame is skipped at once. -/
theorem emitted_window (hs : Gated startFromS s) (hbase : base < 2 ^ 64)
    (hfrom : s.baseFrom (window ++ rest) = base)
    (hwindow : ∀ call ∈ window, ¬ Kept startFromS base call) :
    emitted considerStep s window = window.map (fun _ => (.Skip, 0)) ∧
      Gated startFromS (after considerStep s window) ∧
      (after considerStep s window).baseFrom rest = base := by
  induction window generalizing s with
  | nil => exact ⟨rfl, hs, hfrom⟩
  | cons call window ih =>
    obtain ⟨hcall, hwindow⟩ := List.forall_mem_cons.mp hwindow
    obtain ⟨hout, hgated, hstands⟩ := considerStep_skip hs hbase hfrom hcall
    obtain ⟨hrest, hlast⟩ := ih hgated hstands hwindow
    rw [emitted_cons, hout, hrest]
    exact ⟨rfl, hlast⟩

theorem emitted_anchored (hs : Anchored startFromS base origin s) (hbase : base < 2 ^ 64)
    (calls : List Fetched) :
    emitted considerStep s calls = calls.map (outcome (Kept startFromS base) origin) := by
  induction calls with
  | nil => rfl
  | cons call calls ih =>
    rw [emitted_cons, considerStep_anchored hs hbase call, ih]
    rfl

end PacedFrameScheduler

open PacedFrameScheduler

section Runs

variable {P Q : Fetched → Prop} [DecidablePred P] [DecidablePred Q] {startFromS : ℚ} {start : ℤ}
  {calls : List Fetched} {results : List (Action × ℤ)}

/-- Any run, whatever the timestamps and the clock. -/
theorem considerRun_replaysFrom (startFromS : ℚ) (start : ℤ) (calls : List Fetched) :
    ReplaysFrom (Kept startFromS (baseMs calls)) calls (considerRun startFromS start calls) := by
  have hbase := baseMs_lt calls
  have hs : Gated startFromS { startFromS := startFromS, replayStart := start } := ⟨rfl, rfl⟩
  constructor
  · intro hall
    have hfrom : baseFrom { startFromS := startFromS, replayStart := start } (calls ++ []) =
        baseMs calls := by
      rw [List.append_nil]
      rfl
    exact (emitted_window hs hbase hfrom hall).1
  · rintro window origin rest hcalls hwindow hkept
    have hfrom : baseFrom { startFromS := startFromS, replayStart := start }
        (window ++ origin :: rest) = baseMs calls := by
      rw [← hcalls]
      rfl
    obtain ⟨hskipped, hgated, hstands⟩ := emitted_window hs hbase hfrom hwindow
    obtain ⟨hfirst, hanchored⟩ := considerStep_origin hgated hbase hstands hkept
    rw [considerRun, hcalls, emitted_append, hskipped, emitted_cons, hfirst,
      emitted_anchored hanchored hbase, ← hcalls]
    rfl

/-- The first frame with a property, if there is one. -/
theorem exists_first (P : Fetched → Prop) [DecidablePred P] (calls : List Fetched) :
    (∀ call ∈ calls, ¬ P call) ∨ ∃ window origin rest, calls = window ++ origin :: rest ∧
      (∀ call ∈ window, ¬ P call) ∧ P origin := by
  cases hfind : calls.find? (fun call => decide (P call)) with
  | none =>
    rw [List.find?_eq_none] at hfind
    exact Or.inl fun call hcall => by simpa using hfind call hcall
  | some origin =>
    obtain ⟨horigin, window, rest, hcalls, hwindow⟩ := List.find?_eq_some_iff_append.mp hfind
    exact Or.inr ⟨window, origin, rest, hcalls, fun call hcall => by simpa using hwindow call hcall,
      of_decide_eq_true horigin⟩

/-- The actions tell which frames have the property. -/
theorem ReplaysFrom.actions (h : ReplaysFrom P calls results) :
    results.map Prod.fst = calls.map fun call => if P call then .Emit else .Skip := by
  have hskip {window : List Fetched} (hwindow : ∀ call ∈ window, ¬ P call) :
      window.map (fun call => if P call then Action.Emit else .Skip) =
        window.map fun _ => .Skip :=
    List.map_congr_left fun call hcall => if_neg (hwindow call hcall)
  rcases exists_first P calls with hnone | ⟨window, origin, rest, rfl, hwindow, horigin⟩
  · rw [h.nothing hnone, hskip hnone, List.map_map]
    rfl
  · have hrest : ((rest.map (outcome P origin)).map Prod.fst) =
        rest.map fun call => if P call then .Emit else .Skip := by
      rw [List.map_map]
      refine List.map_congr_left fun call _ => ?_
      rw [Function.comp_apply, outcome]
      split <;> rfl
    rw [h.origin window origin rest rfl hwindow horigin, List.map_append, List.map_append,
      List.map_cons, List.map_cons, hrest, hskip hwindow, if_pos horigin, List.map_map]
    rfl

theorem ReplaysFrom.congr (h : ReplaysFrom P calls results)
    (hPQ : ∀ call ∈ calls, P call ↔ Q call) : ReplaysFrom Q calls results := by
  constructor
  · exact fun hnone => h.nothing fun call hcall hP => hnone call hcall ((hPQ call hcall).mp hP)
  · rintro window origin rest rfl hwindow horigin
    have horigin' : P origin := (hPQ origin (by simp)).mpr horigin
    have hwindow' : ∀ call ∈ window, ¬ P call := fun call hcall hP =>
      hwindow call hcall ((hPQ call (List.mem_append_left _ hcall)).mp hP)
    rw [h.origin window origin rest rfl hwindow' horigin']
    congr 2
    refine List.map_congr_left fun call hcall => ?_
    simp only [outcome, hPQ call (List.mem_append_right _ (List.mem_cons_of_mem _ hcall))]

/-- One result for two properties: they agree on the frames of the run. -/
theorem ReplaysFrom.iff_of (hP : ReplaysFrom P calls results) (hQ : ReplaysFrom Q calls results) :
    ∀ call ∈ calls, P call ↔ Q call := by
  intro call hcall
  have hsame := hP.actions.symm.trans hQ.actions
  have hone := List.map_inj_left.mp hsame call hcall
  by_cases h : P call <;> by_cases h' : Q call <;> simp_all

/-- In front of the first frame nothing is due; behind it the distances do not go round. -/
theorem inOrder_iff (hS : 0 ≤ startFromS) : InOrder startFromS calls ↔
    ∀ call ∈ calls, Kept startFromS (baseMs calls) call ↔ Due startFromS (baseMs calls) call := by
  refine forall₂_congr fun call _ => ?_
  rcases hblank : isFrameBlank call.frame with _ | _
  · have hlt := call.frame.timestampMs_lt
    simp only [Kept, Due, hblank, true_and, forall_const]
    rcases Nat.lt_or_ge call.frame.timestampMs (baseMs calls) with hbefore | hbehind
    · have hdue : ¬ (baseMs calls : ℚ) + startFromS * 1000 ≤ call.frame.timestampMs := by
        have hcast : (call.frame.timestampMs : ℚ) < baseMs calls := by exact_mod_cast hbefore
        intro hle
        linarith
      simp only [hbefore, hdue, true_and, iff_false, not_or, true_imp_iff,
        Nat.not_le_of_lt hbefore, false_imp_iff, and_true]
      omega
    · simp only [hbehind, Nat.not_lt_of_le hbehind, false_and, or_false, false_imp_iff, true_and,
        true_imp_iff]
      exact Iff.comm
  · simp [Kept, Due, hblank]

/-- The run replays from the offset exactly if the recording is in order. -/
theorem replaysFrom_due_iff (hS : 0 ≤ startFromS) (start : ℤ) (calls : List Fetched) :
    ReplaysFrom (Due startFromS (baseMs calls)) calls (considerRun startFromS start calls) ↔
      InOrder startFromS calls := by
  have hrun := considerRun_replaysFrom startFromS start calls
  rw [inOrder_iff hS]
  exact ⟨fun h => hrun.iff_of h, fun h => hrun.congr h⟩

end Runs

section Bench

/-- A frame with one data byte that is not zero, fetched at time zero. -/
def fetchedAt (timestampMs : ℕ) (h : timestampMs < 2 ^ 64) : Fetched :=
  ⟨frameAt timestampMs h, 0, 0⟩

theorem thresholdMs_two : thresholdMs 2 = 2000 := by
  have hexact : rnd ((2000 : ℕ) : ℚ) = (2000 : ℕ) := rnd_small (by decide +kernel)
  have hprod : (2 : ℚ) * 1000 = ((2000 : ℕ) : ℚ) := by norm_num
  rw [thresholdMs, hprod, hexact]
  rfl

/-- Two frames in the window of two seconds, and two behind it. -/
def ordered : List Fetched :=
  [fetchedAt 5000 (by decide), fetchedAt 6999 (by decide), fetchedAt 7000 (by decide),
    fetchedAt 7500 (by decide)]

theorem replaysFrom_due_ordered :
    ReplaysFrom (Due 2 (baseMs ordered)) ordered (considerRun 2 0 ordered) := by
  have hS : (0 : ℚ) ≤ 2 := by norm_num
  refine (replaysFrom_due_iff hS 0 ordered).mpr ?_
  intro call hcall _
  have hbase : baseMs ordered = 5000 := rfl
  rw [thresholdMs_two, hbase]
  simp only [ordered, List.mem_cons, List.not_mem_nil, or_false] at hcall
  rcases hcall with rfl | rfl | rfl | rfl <;> norm_num [fetchedAt, frameAt]

/-- A frame that was recorded a millisecond before the first one. -/
def early : List Fetched :=
  [fetchedAt 5000 (by decide), fetchedAt 4999 (by decide), fetchedAt 7000 (by decide)]

/-- It is emitted two seconds early, and the first frame behind the offset waits for it. -/
theorem not_replaysFrom_due_early :
    considerRun 2 0 early = [(.Skip, 0), (.Emit, 0), (.Emit, 2001)] ∧
      ¬ ReplaysFrom (Due 2 (baseMs early)) early (considerRun 2 0 early) := by
  have hskipped : ∀ call ∈ [fetchedAt 5000 (by decide)], ¬ Kept 2 (baseMs early) call := by
    rw [List.forall_mem_singleton, Kept, thresholdMs_two]
    decide +kernel
  have hkept : ∀ call ∈ early.tail, Kept 2 (baseMs early) call := by
    simp only [Kept, thresholdMs_two]
    decide +kernel
  have hrun : considerRun 2 0 early = [(.Skip, 0), (.Emit, 0), (.Emit, 2001)] := by
    have h := (considerRun_replaysFrom 2 0 early).origin [fetchedAt 5000 (by decide)]
      (fetchedAt 4999 (by decide)) [fetchedAt 7000 (by decide)] rfl hskipped
      (hkept _ List.mem_cons_self)
    rw [h, List.map_singleton, List.map_singleton, outcome,
      if_pos (hkept _ (List.mem_cons_of_mem _ List.mem_cons_self))]
    decide +kernel
  refine ⟨hrun, fun h => ?_⟩
  have hdue : Due 2 (baseMs early) (fetchedAt 4999 (by decide)) :=
    ((considerRun_replaysFrom 2 0 early).iff_of h _ (by simp [early])).mp
      (hkept _ List.mem_cons_self)
  have hle := hdue.2
  norm_num [baseMs, early, fetchedAt, frameAt, isFrameBlank] at hle

end Bench

end VehicleSpy.Pipeline
