import VehicleSpy.Machine.Run
import VehicleSpy.Ble.ELM327Transport

/-! # The data path of an ELM327 session

Each BLE notification is scanned for the adapter's prompt and parsed on its own; what
it parses to goes to the vehicle detector and to the host. The prompt is looked for in
a buffer that outlives the notification.
-/

namespace VehicleSpy.Ble

open Text Machine

/-- What `handleIncomingData` does to its surroundings. -/
inductive SessionOutput
  | notifyPrompt
  | observeFrame (data : Bytes)
  | sessionDeliverParsed (data : Bytes)
  deriving DecidableEq, Repr

structure Elm327Session where
  canMode : Bool := false
  promptReady : Bool := false
  promptBuffer : Bytes := []
  deriving DecidableEq, Repr

namespace Elm327Session

def PROMPT_BUFFER_MAX : ℕ := 256

variable (s : Elm327Session) (data : Bytes)

/-- Sets the flag under the mutex; the condition variable is the waiter's concern. -/
def notifyPrompt : Elm327Session := { s with promptReady := true }

/-- Prompt detection over the notifications received so far. -/
def scanPrompt : Elm327Session × List SessionOutput :=
  let keep (buffer : Bytes) : Bytes := buffer.drop (buffer.length - PROMPT_BUFFER_MAX)
  let buffer := s.promptBuffer ++ data
  match find PROMPT buffer with
  | some pos =>
    ({ s.notifyPrompt with promptBuffer := keep (buffer.drop (pos + 1)) }, [.notifyPrompt])
  | none => ({ s with promptBuffer := keep buffer }, [])

def parseASCIIResponseToBinary : Bytes := (ELM327Transport.parseOBD2Response data).getD []

/-- The 10-byte payload of a frame line: the identifier, low byte first, then the data. -/
def parseMonitorLine : Bytes :=
  match ELM327Transport.parseCANFrame data with
  | some frame =>
    if frame.data.length = 8 then
      [(frame.canId &&& 0xFF).toUInt8, ((frame.canId >>> 8) &&& 0xFF).toUInt8] ++ frame.data
    else []
  | none => []

/-- What a notification parses to, by itself. -/
def binaryData (canMode : Bool) : Bytes :=
  if canMode then parseMonitorLine data else parseASCIIResponseToBinary data

def handleIncomingData : Elm327Session × List SessionOutput :=
  let (s', prompts) := if s.canMode then (s, []) else s.scanPrompt data
  let payload := binaryData data s.canMode
  (s', prompts ++
    if payload = [] then [] else [.observeFrame payload, .sessionDeliverParsed payload])

variable {s data}

@[simp] theorem canMode_handleIncomingData : (s.handleIncomingData data).1.canMode = s.canMode := by
  unfold handleIncomingData
  cases hs : s.canMode
  · simp only [scanPrompt, Bool.false_eq_true, if_false]
    split <;> exact hs
  · simp [hs]

/-- A notification signals the prompt exactly if one is in the buffer or in the data. -/
theorem notifyPrompt_mem_iff :
    .notifyPrompt ∈ (s.handleIncomingData data).2 ↔
      s.canMode = false ∧ PROMPT ∈ s.promptBuffer ++ data := by
  unfold handleIncomingData
  cases hs : s.canMode
  · simp only [scanPrompt, Bool.false_eq_true, if_false, true_and]
    split
    · next hf => exact iff_of_true (by simp) (mem_of_find hf)
    · next hf => exact iff_of_false (by split <;> simp) (find_none_iff.mp hf)
  · simp only [if_true, List.nil_append]
    split <;> simp

theorem promptReady_handleIncomingData :
    (s.handleIncomingData data).1.promptReady =
      (s.promptReady || (!s.canMode && decide (PROMPT ∈ s.promptBuffer ++ data))) := by
  unfold handleIncomingData
  cases hs : s.canMode
  · simp only [scanPrompt, Bool.false_eq_true, if_false, Bool.not_false, Bool.true_and]
    split
    · next hf =>
      rw [decide_eq_true (mem_of_find hf), Bool.or_true]
      rfl
    · next hf => rw [decide_eq_false (find_none_iff.mp hf), Bool.or_false]
  · simp

section Payloads

/-- What the vehicle detector is shown. -/
def observed (out : List SessionOutput) : List Bytes :=
  out.filterMap fun | .observeFrame d => some d | _ => none

/-- What the host is handed. -/
def delivered (out : List SessionOutput) : List Bytes :=
  out.filterMap fun | .sessionDeliverParsed d => some d | _ => none

/-- The payload of one notification, if it has any. -/
def notificationPayload (canMode : Bool) (data : Bytes) : Option Bytes :=
  if binaryData data canMode = [] then none else some (binaryData data canMode)

theorem observed_handleIncomingData (s : Elm327Session) (data : Bytes) :
    observed (s.handleIncomingData data).2 = (notificationPayload s.canMode data).toList ∧
      delivered (s.handleIncomingData data).2 = (notificationPayload s.canMode data).toList := by
  have hprompt : ∀ out, out = [] ∨ out = [SessionOutput.notifyPrompt] →
      observed out = [] ∧ delivered out = [] := by
    rintro out (rfl | rfl) <;> exact ⟨rfl, rfl⟩
  have hscan : (if s.canMode then (s, []) else s.scanPrompt data).2 = [] ∨
      (if s.canMode then (s, []) else s.scanPrompt data).2 = [SessionOutput.notifyPrompt] := by
    split
    · exact Or.inl rfl
    · simp only [scanPrompt]
      split
      · exact Or.inr rfl
      · exact Or.inl rfl
  obtain ⟨ho, hd⟩ := hprompt _ hscan
  simp only [handleIncomingData, observed, delivered, notificationPayload, List.filterMap_append]
    at ho hd ⊢
  rw [ho, hd]
  split <;> exact ⟨rfl, rfl⟩

/-- Over any run, detector and host get the payloads of the single notifications. -/
theorem observed_emitted (s : Elm327Session) (ns : List Bytes) :
    observed (emitted handleIncomingData s ns) = ns.filterMap (notificationPayload s.canMode) ∧
      delivered (emitted handleIncomingData s ns) =
        ns.filterMap (notificationPayload s.canMode) := by
  induction ns generalizing s with
  | nil => exact ⟨rfl, rfl⟩
  | cons n ns ih =>
    obtain ⟨ho, hd⟩ := ih (s.handleIncomingData n).1
    obtain ⟨hn, hn'⟩ := observed_handleIncomingData s n
    rw [canMode_handleIncomingData] at ho hd
    rw [emitted_cons, observed, delivered, List.filterMap_append, List.filterMap_append]
    simp only [observed, delivered] at ho hd hn hn'
    rw [hn, hn', ho, hd, List.filterMap_cons]
    cases notificationPayload s.canMode n <;> exact ⟨rfl, rfl⟩

end Payloads

end Elm327Session

end VehicleSpy.Ble
