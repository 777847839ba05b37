import VehicleSpy.Dbc.SignalTranslator
import VehicleSpy.Machine.Run

/-! # OBD2 telemetry as a fold of answers

Each field of the OBD2 translator is the value that an answer has carried last for it, whatever mode
it answers, and zero before the first. It is the last answer to a live-data request just when there
has been one, and no later answer of another mode has carried another value.
-/

namespace VehicleSpy.Dbc

open Text Machine

namespace OBD2SignalTranslator

/-- The fields of a signal that OBD2 answers are routed to. -/
inductive Field | throttle | speed | acceleration | brake
  deriving DecidableEq, Repr

/-- The field that the values of a PID are routed to. -/
def Field.ofPid (pid : Byte) : Option Field :=
  if pid = PID_THROTTLE_POSITION ∨ pid = PID_ACCELERATOR_POS_D ∨ pid = PID_ACCELERATOR_POS_P then
    some .throttle
  else if pid = PID_VEHICLE_SPEED then some .speed
  else if pid = PID_ENGINE_LOAD then some .acceleration
  else if pid = PID_BRAKE_PRESSURE then some .brake
  else none

def RESPONSE_MODE : Byte := 0x41

section Definitions

variable {D : Type} [Double D]

/-- A field of the translator's state, and of a signal. -/
def last (t : OBD2SignalTranslator D) : Field → D
  | .throttle => t.lastThrottle
  | .speed => t.lastSpeed
  | .acceleration => t.lastAcceleration
  | .brake => t.lastBrake

def Field.get : Field → VehicleSignal D → Option D
  | .throttle, s => s.throttlePercent
  | .speed, s => s.speedKmh
  | .acceleration, s => s.accelerationG
  | .brake, s => s.brakePercent

/-- The load in percent as an acceleration between minus one and one. -/
def loadAcceleration (value : D) : D := value / Double.ofInt 100 * Double.ofInt 2 - Double.ofInt 1

/-- What a value of a PID is stored as. -/
def Field.store (field : Field) (value : D) : D :=
  if field = .acceleration then loadAcceleration value else value

/-- The documented conversion of a data byte: a percentage for the throttle and either pedal and for
the load, the byte itself for the speed and the manufacturer's brake pressure. -/
def Field.convert (a : Byte) : Field → D
  | .throttle => obd2BytePercent a
  | .speed => obd2RawValue a
  | .acceleration => loadAcceleration (obd2BytePercent a)
  | .brake => obd2RawValue a

/-- What a packet of any of the sixteen modes carries for a field. The byte of the passenger's pedal
counts as it is. -/
def carried (field : Field) (p : Packet) : Option D :=
  match p.rawData with
  | mode :: pid :: a :: _ =>
    if 0x40 ≤ mode ∧ mode ≤ 0x4F ∧ Field.ofPid pid = some field then
      some (if pid = PID_ACCELERATOR_POS_P then obd2RawValue a else field.convert a)
    else none
  | _ => none

/-- What a packet means for a field, if it answers a live-data request. -/
def meant (field : Field) (p : Packet) : Option D :=
  match p.rawData with
  | mode :: pid :: a :: _ =>
    if mode = RESPONSE_MODE ∧ Field.ofPid pid = some field then some (field.convert a) else none
  | _ => none

/-- The last value that is not absent. -/
def lastOf {α : Type} (f : Packet → Option α) (packets : List Packet) : Option α :=
  (packets.filterMap f).getLast?

/-- The translator after the packets. -/
def reached (packets : List Packet) : OBD2SignalTranslator D :=
  packets.foldl (fun t p => (t.translate p).1) create

/-- The signal that is returned for a packet after others, if one is, has in each field the last
answer to a live-data request. -/
def IsFold (D : Type) [Double D] (packets : List Packet) (p : Packet) : Prop :=
  ∀ s : VehicleSignal D, ((reached packets).translate p).2 = some s →
    ∀ field, Field.get field s = lastOf (meant field) (packets ++ [p])

/-- Each field has had an answer to a live-data request, and the last answer of any mode with a PID
of the field carries what that answer means. -/
def Undisturbed (D : Type) [Double D] (packets : List Packet) : Prop :=
  ∀ field, ∃ value : D, lastOf (meant field) packets = some value ∧
    lastOf (carried field) packets = some value

/-- An answer to a live-data request that is not of the passenger's pedal. -/
def LiveAnswer (p : Packet) : Prop :=
  ∃ pid a data, p.rawData = RESPONSE_MODE :: pid :: a :: data ∧ pid ≠ PID_ACCELERATOR_POS_P

end Definitions

section Fold

variable {D : Type} [Double D] {field : Field} {p : Packet} {packets : List Packet}

theorem lastOf_concat {α : Type} (f : Packet → Option α) (packets : List Packet) (p : Packet) :
    lastOf f (packets ++ [p]) = (f p).or (lastOf f packets) := by
  unfold lastOf
  cases h : f p with
  | none => simp [h]
  | some value => simp [h]

/-- An update writes the one field that its PID is routed to. -/
theorem last_applyUpdate (t : OBD2SignalTranslator D) (pid : Byte) (value : D) (timestamp : ℕ)
    (field : Field) : (t.applyUpdate pid value timestamp).last field =
      if Field.ofPid pid = some field then field.store value else t.last field := by
  unfold applyUpdate Field.ofPid
  dsimp only
  split
  · cases field <;> rfl
  · split
    · cases field <;> rfl
    · split
      · cases field <;> rfl
      · split
        · cases field <;> rfl
        · rfl

theorem store_extractPIDValue {pid : Byte} (h : Field.ofPid pid = some field) (a : Byte)
    (data : Bytes) : field.store (extractPIDValue pid (a :: data) : D) =
      if pid = PID_ACCELERATOR_POS_P then obd2RawValue a else field.convert a := by
  unfold Field.ofPid at h
  split at h
  · next hthrottle =>
    obtain rfl := Option.some.inj h
    rcases hthrottle with rfl | rfl | rfl <;> rfl
  · split at h
    · next hspeed =>
      obtain rfl := Option.some.inj h
      rw [hspeed]
      rfl
    · split at h
      · next hload =>
        obtain rfl := Option.some.inj h
        rw [hload]
        rfl
      · split at h
        · next hbrake =>
          obtain rfl := Option.some.inj h
          rw [hbrake]
          rfl
        · cases h

theorem last_translate (t : OBD2SignalTranslator D) (p : Packet) (field : Field) :
    (t.translate p).1.last field = (carried field p).getD (t.last field) := by
  unfold translate carried
  match hdata : p.rawData with
  | [] | [_] | [_, _] => rfl
  | mode :: pid :: a :: data =>
    by_cases hvalid : 0x40 ≤ mode ∧ mode ≤ 0x4F
    · have hpacket : isValidPacket (mode :: pid :: a :: data) = true := by
        simpa [isValidPacket] using hvalid
      simp only [hpacket, if_true, hvalid, true_and, last_applyUpdate]
      split
      · next hroute => exact store_extractPIDValue hroute a data
      · rfl
    · have hpacket : isValidPacket (mode :: pid :: a :: data) = false := by
        simpa [isValidPacket] using hvalid
      simp only [hpacket, Bool.false_eq_true, if_false, ← and_assoc, hvalid, false_and,
        Option.getD_none]

/-- The translator folds what is carried, whatever mode it answers. -/
theorem last_reached (packets : List Packet) (field : Field) :
    (reached packets : OBD2SignalTranslator D).last field =
      (lastOf (carried field) packets).getD (Double.ofInt 0) := by
  induction packets using List.reverseRecOn with
  | nil => cases field <;> rfl
  | append_singleton packets p ih =>
    rw [reached, List.foldl_append, List.foldl_cons, List.foldl_nil, ← reached, last_translate, ih,
      lastOf_concat]
    cases (carried field p : Option D) <;> rfl

omit [Double D] in
theorem get_snapshot (t : OBD2SignalTranslator D) (field : Field) :
    Field.get field t.snapshot = some (t.last field) := by
  cases field <;> rfl

/-- A signal is returned for an accepted packet, with the state after it. -/
theorem translate_snd (t : OBD2SignalTranslator D) (p : Packet) : (t.translate p).2 =
    if isValidPacket p.rawData then some (t.translate p).1.snapshot else none := by
  unfold translate
  split
  · next mode pid data h =>
    rw [h]
    split <;> rfl
  · next h =>
    have hinvalid : isValidPacket p.rawData = false := by
      unfold isValidPacket
      split
      · next mode pid a data heq => exact absurd heq (h mode pid (a :: data))
      · rfl
    rw [hinvalid]
    rfl

theorem carried_of_meant (h : (meant field p : Option D).isSome = true) :
    (carried field p : Option D).isSome = true := by
  unfold meant at h
  unfold carried
  split at h
  · next mode pid a data _ =>
    split at h
    · next hanswer =>
      rw [if_pos ⟨by rw [hanswer.1]; decide, by rw [hanswer.1]; decide, hanswer.2⟩]
      rfl
    · cases h
  · cases h

theorem lastOf_carried_of_meant (h : (lastOf (meant field) packets : Option D).isSome = true) :
    (lastOf (carried field) packets : Option D).isSome = true := by
  induction packets using List.reverseRecOn with
  | nil => cases h
  | append_singleton packets p ih =>
    rw [lastOf_concat, Option.isSome_or, Bool.or_eq_true] at h ⊢
    exact h.imp carried_of_meant ih

theorem get_of_returned {s : VehicleSignal D} (hs : ((reached packets).translate p).2 = some s)
    (field : Field) : Field.get field s =
      some ((lastOf (carried field) (packets ++ [p])).getD (Double.ofInt 0)) := by
  rw [translate_snd] at hs
  split at hs
  · obtain rfl := Option.some.inj hs
    rw [get_snapshot, ← last_reached, reached, reached, List.foldl_append, List.foldl_cons,
      List.foldl_nil]
  · cases hs

/-- Each field of a returned signal is the last live-data answer just when there is one, and
nothing else has been carried over it. -/
theorem isFold_iff (packets : List Packet) (p : Packet) : IsFold D packets p ↔
    (isValidPacket p.rawData = true → Undisturbed D (packets ++ [p])) := by
  constructor
  · intro h hvalid field
    have hs : ((reached packets : OBD2SignalTranslator D).translate p).2 =
        some ((reached packets).translate p).1.snapshot := by
      rw [translate_snd, if_pos hvalid]
    have hfield := h _ hs field
    rw [get_of_returned hs] at hfield
    have hsome : (lastOf (meant field) (packets ++ [p]) : Option D).isSome = true := by
      rw [← hfield]
      rfl
    obtain ⟨value, hvalue⟩ := Option.isSome_iff_exists.mp (lastOf_carried_of_meant hsome)
    rw [hvalue] at hfield
    exact ⟨value, hfield.symm, hvalue⟩
  · intro h s hs field
    have hvalid : isValidPacket p.rawData = true := by
      by_contra hinvalid
      rw [translate_snd, if_neg hinvalid] at hs
      cases hs
    obtain ⟨value, hmeant, hvalue⟩ := h hvalid field
    rw [get_of_returned hs, hmeant, hvalue]
    rfl

/-- A live-data answer that is not of the passenger's pedal carries what it means. -/
theorem carried_eq_meant (h : LiveAnswer p) : (carried field p : Option D) = meant field p := by
  obtain ⟨pid, a, data, hdata, hpid⟩ := h
  have hmode : (0x40 : Byte) ≤ RESPONSE_MODE ∧ RESPONSE_MODE ≤ 0x4F := by decide
  simp only [carried, meant, hdata, hmode, true_and, if_neg hpid]

/-- Live-data answers alone, with one for each field, disturb nothing. -/
theorem undisturbed_of_liveAnswers (h : ∀ p ∈ packets, LiveAnswer p)
    (hall : ∀ field, ∃ value : D, lastOf (meant field) packets = some value) :
    Undisturbed D packets := by
  intro field
  obtain ⟨value, hvalue⟩ := hall field
  have hsame : lastOf (carried field) packets = (lastOf (meant field) packets : Option D) :=
    congrArg List.getLast? (List.filterMap_congr fun p hp => carried_eq_meant (h p hp))
  exact ⟨value, hvalue, hsame.trans hvalue⟩

/-- The first speed brings a throttle with it; the answer to a request for fault codes is taken for
a speed; and half the travel of the passenger's pedal is more than the whole. -/
theorem not_isFold :
    ¬ IsFold ℚ [] { rawData := [0x41, 0x0D, 100] } ∧
    ¬ IsFold ℚ [{ rawData := [0x41, 0x0D, 100] }] { rawData := [0x43, 0x0D, 7] } ∧
    ¬ IsFold ℚ [] { rawData := [0x41, 0x5C, 128] } := by
  refine ⟨fun h => ?_, fun h => ?_, fun h => ?_⟩
  · exact absurd (h _ rfl .throttle) (by decide +kernel)
  · exact absurd (h _ rfl .speed) (by decide +kernel)
  · exact absurd (h _ rfl .throttle) (by decide +kernel)

end Fold

end OBD2SignalTranslator

end VehicleSpy.Dbc
