import VehicleSpy.Ble.Elm327Session

/-! # Waiting for the prompt

The sender writes a command and then waits for the prompt, while the callback thread
handles notifications. The wait clears the flag after the command is out, so a prompt
that arrives between the two is forgotten.
-/

namespace VehicleSpy.Ble

open Text Machine Elm327Session

/-- Where the sender stands: before a command, behind its write, inside `waitForPrompt`. -/
inductive SenderPhase | idle | written | waiting
  deriving DecidableEq, Repr

/-- One atomic step of a thread; a sender step says whether the wait's deadline has passed. -/
inductive PromptEvent
  | sender (expired : Bool)
  | deliver (data : Bytes)
  | stopOBD2Polling
  deriving DecidableEq, Repr

inductive PromptOutput
  | wrote
  | reset
  | returned (success : Bool)
  | session (o : SessionOutput)
  deriving DecidableEq, Repr

structure PromptWait where
  session : Elm327Session
  sender : SenderPhase := .idle
  deriving DecidableEq, Repr

namespace PromptWait

/-- The sender's next step: the write, the locked reset of the flag, the end of the wait. -/
def senderStep (st : PromptWait) (expired : Bool) : PromptWait × List PromptOutput :=
  match st.sender with
  | .idle => ({ st with sender := .written }, [.wrote])
  | .written => (⟨{ st.session with promptReady := false }, .waiting⟩, [.reset])
  | .waiting =>
    if st.session.promptReady || expired then
      ({ st with sender := .idle }, [.returned st.session.promptReady])
    else (st, [])

def step (st : PromptWait) : PromptEvent → PromptWait × List PromptOutput
  | .sender expired => st.senderStep expired
  | .deliver data =>
    ({ st with session := (st.session.handleIncomingData data).1 },
      (st.session.handleIncomingData data).2.map .session)
  | .stopOBD2Polling => ({ st with session := st.session.notifyPrompt }, [.session .notifyPrompt])

/-- A step of the run with what it did. -/
abbrev Entry := PromptEvent × List PromptOutput

def Wrote (e : Entry) : Prop := .wrote ∈ e.2

def Reset (e : Entry) : Prop := .reset ∈ e.2

def Signals (e : Entry) : Prop := .session .notifyPrompt ∈ e.2

/-- A notification with a prompt in it. -/
def DeliversPrompt (e : Entry) : Prop := ∃ data, e.1 = .deliver data ∧ PROMPT ∈ data

/-- A wait succeeds if a prompt was delivered after its command was written. -/
def PromptKept (log : List Entry) : Prop :=
  ∀ u e r v, log = u ++ (e, [.returned r]) :: v → ∀ x b, Latest Wrote u x b →
    (∃ y ∈ b, DeliversPrompt y) → r = true

/-- Where a prompt was delivered after a command was written, one is signalled after the
wait for it has reset the flag. -/
def SignalledAfterReset (log : List Entry) : Prop :=
  ∀ u e r v, log = u ++ (e, [.returned r]) :: v → ∀ x b, Latest Wrote u x b →
    (∃ y ∈ b, DeliversPrompt y) → ∃ z w, Latest Reset u z w ∧ ∃ y ∈ w, Signals y

variable {log : List Entry} {st : PromptWait}

/-- A waiting sender finds the flag set exactly if a prompt was signalled after the reset. -/
def FlagTracked (log : List Entry) (st : PromptWait) : Prop :=
  st.sender = .waiting →
    ∃ z w, Latest Reset log z w ∧ (st.session.promptReady = true ↔ ∃ y ∈ w, Signals y)

theorem promptReady_step_iff (st : PromptWait) {i : PromptEvent} (hi : ∀ d, i ≠ .sender d) :
    (step st i).1.session.promptReady = true ↔
      st.session.promptReady = true ∨ Signals (i, (step st i).2) := by
  cases i with
  | sender d => exact absurd rfl (hi d)
  | deliver data =>
    have hmem : Signals (.deliver data, (step st (.deliver data)).2) ↔
        .notifyPrompt ∈ (st.session.handleIncomingData data).2 := by
      simp [Signals, step]
    rw [hmem, notifyPrompt_mem_iff, step, promptReady_handleIncomingData]
    simp
  | stopOBD2Polling => simp [step, notifyPrompt, Signals]

theorem flagTracked_step (h : FlagTracked log st) (i : PromptEvent) :
    FlagTracked (log ++ [(i, (step st i).2)]) (step st i).1 := by
  intro hw
  by_cases hi : ∃ d, i = .sender d
  · obtain ⟨d, rfl⟩ := hi
    cases hs : st.sender with
    | idle => simp [step, senderStep, hs] at hw
    | written =>
      refine ⟨_, [], Latest.of_concat (by simp [Reset, step, senderStep, hs]), ?_⟩
      simp [step, senderStep, hs]
    | waiting =>
      obtain ⟨z, w, hz, hf⟩ := h hs
      by_cases hr : st.session.promptReady || d
      · simp [step, senderStep, hs, hr] at hw
      · have hstep : step st (.sender d) = (st, []) := by simp [step, senderStep, hs, hr]
        rw [hstep]
        refine ⟨z, _, hz.append_other (by simp [Reset]), ?_⟩
        simp [hf, Signals]
  · have hi : ∀ d, i ≠ .sender d := fun d hd => hi ⟨d, hd⟩
    have hsame : (step st i).1.sender = st.sender := by
      cases i with
      | sender d => exact absurd rfl (hi d)
      | deliver data => rfl
      | stopOBD2Polling => rfl
    have hreset : ¬ Reset (i, (step st i).2) := by
      cases i with
      | sender d => exact absurd rfl (hi d)
      | deliver data => simp [Reset, step]
      | stopOBD2Polling => simp [Reset, step]
    obtain ⟨z, w, hz, hf⟩ := h (hsame.symm.trans hw)
    refine ⟨z, _, hz.append_other hreset, ?_⟩
    rw [promptReady_step_iff st hi, hf]
    simp only [List.mem_append, List.mem_singleton, or_and_right, exists_or, exists_eq_left]

theorem flagTracked_history (s : Elm327Session) (w : List PromptEvent) :
    FlagTracked (history step ⟨s, .idle⟩ w) (after step ⟨s, .idle⟩ w) :=
  history_induction step (I := FlagTracked) (fun h => by cases h)
    (fun _ _ i h => flagTracked_step h i) w

/-- The value a wait returns is the flag that it finds. -/
theorem returned_eq {i : PromptEvent} {r : Bool} (h : (step st i).2 = [.returned r]) :
    st.sender = .waiting ∧ r = st.session.promptReady := by
  cases i with
  | sender d =>
    cases hs : st.sender with
    | idle => simp [step, senderStep, hs] at h
    | written => simp [step, senderStep, hs] at h
    | waiting =>
      simp only [step, senderStep, hs] at h
      split at h
      · exact ⟨rfl, by simpa using h.symm⟩
      · cases h
  | deliver data =>
    have hmem : PromptOutput.returned r ∈ (step st (.deliver data)).2 := by simp [h]
    simp [step] at hmem
  | stopOBD2Polling => simp [step] at h

/-- A wait succeeds exactly if a prompt was signalled after its reset. -/
theorem returned_iff (s : Elm327Session) {w : List PromptEvent} {u v : List Entry}
    {e : PromptEvent} {r : Bool}
    (h : history step ⟨s, .idle⟩ w = u ++ (e, [.returned r]) :: v) :
    ∃ z b, Latest Reset u z b ∧ (r = true ↔ ∃ y ∈ b, Signals y) := by
  obtain ⟨w₁, w₂, rfl, rfl, ho⟩ := history_split step h
  obtain ⟨hw, rfl⟩ := returned_eq ho.symm
  exact flagTracked_history s w₁ hw

theorem promptKept_iff (s : Elm327Session) (w : List PromptEvent) :
    PromptKept (history step ⟨s, .idle⟩ w) ↔ SignalledAfterReset (history step ⟨s, .idle⟩ w) := by
  constructor
  · intro hk u e r v hlog x b hb hy
    obtain ⟨z, c, hz, hr⟩ := returned_iff s hlog
    exact ⟨z, c, hz, hr.mp (hk u e r v hlog x b hb hy)⟩
  · intro hs u e r v hlog x b hb hy
    obtain ⟨z, c, hz, hc⟩ := hs u e r v hlog x b hb hy
    obtain ⟨z', c', hz', hr⟩ := returned_iff s hlog
    obtain ⟨rfl, rfl⟩ := hz.unique hz'
    exact hr.mpr hc

/-- The prompt comes between the write and the reset, and the wait runs into its deadline. -/
def fastAdapter : List PromptEvent :=
  [.sender false, .deliver (ascii "OK\r\r>"), .sender false, .sender true]

theorem not_promptKept_fastAdapter : ¬ PromptKept (history step ⟨{}, .idle⟩ fastAdapter) := by
  intro h
  have hlog : history step ⟨{}, .idle⟩ fastAdapter =
      [(.sender false, [.wrote]),
        (.deliver (ascii "OK\r\r>"), [.session .notifyPrompt]), (.sender false, [.reset])] ++
      (.sender true, [.returned false]) :: [] := by decide
  have hwrote : Latest Wrote [(.sender false, [.wrote]),
      (.deliver (ascii "OK\r\r>"), [.session .notifyPrompt]), (.sender false, [.reset])]
      (.sender false, [.wrote]) [(.deliver (ascii "OK\r\r>"), [.session .notifyPrompt]),
        (.sender false, [.reset])] :=
    ⟨List.suffix_refl _, List.mem_singleton_self _, by simp [Wrote]⟩
  exact absurd (h _ _ _ _ hlog _ _ hwrote
    ⟨_, List.mem_cons_self, _, rfl, by decide⟩) (by decide)

end PromptWait

end VehicleSpy.Ble
