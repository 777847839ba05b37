import VehicleSpy.Text.Bytes
import Mathlib.Algebra.GroupWithZero.Nat

/-! # The vehicle detector

Each payload that the session observes is counted, as a CAN frame or as an OBD2 response;
the VIN grows by the characters of the VIN responses, up to 17 of them. The active query
feeds its responses to the detector apart from that. The result is built from the VIN if
there is one, else from the CAN identifiers and the responses that were counted.
-/

namespace VehicleSpy.Ble

open Text

inductive VehicleMake
  | unknown | tesla | audi | volkswagen | bmw | mercedesBenz | generic
  deriving DecidableEq, Repr

inductive DetectionConfidence
  | none | low | medium | high
  deriving DecidableEq, Repr

structure VehicleFingerprint where
  make : VehicleMake
  configId : Bytes
  evidenceTag : Bytes

structure VehicleEvidence where
  totalFrameCount : ℕ := 0
  uniqueIdCount : ℕ := 0

structure VehicleSuggestion where
  configId : Bytes := []
  make : VehicleMake := .unknown
  evidenceTag : Bytes := []
  totalFrameCount : ℕ := 0
  uniqueIdCount : ℕ := 0
  conflicting : Bool := false

structure VehicleDetectionResult where
  make : VehicleMake := .unknown
  vin : Bytes
  wmi : Bytes
  suggestedVehicleId : Bytes := []
  isElectric : Bool
  observedCanIds : List ℕ
  frameCount : ℕ
  confidence : DetectionConfidence := .none

structure VehicleDetector where
  canIdCounts : ℕ → ℕ := fun _ => 0
  obd2ResponseCount : ℕ := 0
  vin : Bytes := []
  isElectric : Option Bool := none
  vin_le : vin.length ≤ 17 := by decide

namespace VehicleDetector

/-- A VIN response: mode 09, PID 02. -/
def isVinResponse (data : Bytes) : Bool :=
  8 ≤ data.length && data[0]? == some 0x49 && data[1]? == some 0x02

/-- The text of a VIN response: no padding, no message count. -/
def vinText (data : Bytes) : Bytes := ((data.drop 3).dropWhile (· = 0)).filter (· ≠ 0)

/-- A new detector: nothing has been observed. -/
def initial : VehicleDetector := {}

variable (d : VehicleDetector)

def appendVin (text : Bytes) : VehicleDetector :=
  { d with
    vin := (d.vin ++ text).take 17
    vin_le := List.length_take_le _ _ }

def feedCANFrame (canId : ℕ) : VehicleDetector :=
  { d with canIdCounts := fun id => if id = canId then d.canIdCounts id + 1 else d.canIdCounts id }

def feedOBD2Frame (data : Bytes) : VehicleDetector :=
  let d := { d with obd2ResponseCount := d.obd2ResponseCount + 1 }
  let d := if isVinResponse data then d.appendVin (vinText data) else d
  match data with
  | 0x41 :: 0x51 :: fuel :: _ => { d with isElectric := some (fuel == 0x08) }
  | _ => d

/-- Ten bytes are a CAN frame, and longer payloads are not looked at. -/
def observeFrame (frame : Bytes) : VehicleDetector :=
  if frame.length = 10 then
    d.feedCANFrame ((frame.getD 0 0).toNat ||| (frame.getD 1 0).toNat <<< 8)
  else if 2 ≤ frame.length ∧ frame.length ≤ 10 then d.feedOBD2Frame frame
  else d

/-- The text that the active query takes from a response. -/
def responseText (response : Bytes) : Bytes :=
  if isVinResponse response then vinText response else response.filter (· ≠ 0)

def feedVINResponse (response : Bytes) : VehicleDetector × Bool :=
  if response = [] then (d, false) else (d.appendVin (responseText response), true)

def feedFuelTypeResponse : Bytes → VehicleDetector × Bool
  | mode :: pid :: fuel :: _ =>
    if (mode ≠ 0x41 ∧ mode ≠ 0x49) ∨ pid ≠ 0x51 then (d, false)
    else ({ d with isElectric := some (fuel == 0x08) }, true)
  | _ => (d, false)

section Result

def canIdRegistry : List (ℕ × VehicleFingerprint) :=
  [(0x108, ⟨.tesla, ascii "tesla", ascii "Tesla signals"⟩),
    (0x118, ⟨.tesla, ascii "tesla", ascii "Tesla signals"⟩),
    (0x129, ⟨.tesla, ascii "tesla", ascii "Tesla signals"⟩),
    (0x100, ⟨.audi, ascii "audi_mlb_evo", ascii "Audi MLB signals"⟩)]

def addEvidence (evidence : List (VehicleMake × VehicleEvidence)) (make : VehicleMake)
    (frameCount : ℕ) : List (VehicleMake × VehicleEvidence) :=
  match evidence.lookup make with
  | some ev =>
    (make, ⟨ev.totalFrameCount + frameCount, ev.uniqueIdCount + 1⟩) ::
      evidence.filter (·.1 ≠ make)
  | none => (make, ⟨frameCount, 1⟩) :: evidence

def gatherEvidence (seenIds : List ℕ) : List (VehicleMake × VehicleEvidence) :=
  seenIds.foldl (fun evidence id =>
    match canIdRegistry.lookup id with
    | some fp => addEvidence evidence fp.make (d.canIdCounts id)
    | none => evidence) []

def determineSuggestion : List (VehicleMake × VehicleEvidence) → VehicleSuggestion
  | [] =>
    if 0 < d.obd2ResponseCount then
      { configId := ascii "generic", make := .generic, evidenceTag := ascii "OBD2 responses",
        totalFrameCount := d.obd2ResponseCount }
    else {}
  | [(make, ev)] =>
    match canIdRegistry.find? (·.2.make = make) with
    | some (_, fp) =>
      { configId := fp.configId, make := make, evidenceTag := fp.evidenceTag,
        totalFrameCount := ev.totalFrameCount, uniqueIdCount := ev.uniqueIdCount }
    | none =>
      { make := make, totalFrameCount := ev.totalFrameCount, uniqueIdCount := ev.uniqueIdCount }
  | _ => { conflicting := true }

def calculateConfidence (make : VehicleMake) (uniqueIdCount totalFrameCount : ℕ) :
    DetectionConfidence :=
  match make with
  | .tesla => if 3 ≤ uniqueIdCount then .high else if 2 ≤ uniqueIdCount then .medium else .low
  | .audi => if 5 ≤ totalFrameCount then .high else if 2 ≤ totalFrameCount then .medium else .low
  | .generic => if 3 ≤ totalFrameCount then .medium else .low
  | _ => .none

def isUpperOrDigit (c : Byte) : Bool := (48 ≤ c && c ≤ 57) || (65 ≤ c && c ≤ 90)

/-- `1` to `5`, and the letters but `I`. -/
def isKnownRegion (c : Byte) : Bool :=
  (49 ≤ c && c ≤ 53) || (65 ≤ c && c ≤ 72) || (74 ≤ c && c ≤ 82) || (83 ≤ c && c ≤ 90)

def decodeWMI (wmi : Bytes) : VehicleMake :=
  if wmi.length < 3 then .unknown
  else
    let upper := (wmi.take 3).map toupper
    if [ascii "5YJ", ascii "7SA"].contains upper then .tesla
    else if [ascii "WAU", ascii "WUA", ascii "WA1", ascii "TRU"].contains upper then .audi
    else if [ascii "WVW", ascii "WV1", ascii "WV2", ascii "WV0"].contains upper then .volkswagen
    else if [ascii "WBA", ascii "WBS", ascii "WBX"].contains upper then .bmw
    else if [ascii "WDB", ascii "WDC"].contains upper then .mercedesBenz
    else if upper.all isUpperOrDigit && upper.head?.any isKnownRegion then .generic
    else .unknown

def makeToConfigId (make : VehicleMake) (isElectric : Bool) : Bytes :=
  match make with
  | .tesla => ascii "tesla"
  | .audi | .volkswagen => if isElectric then ascii "audi_mlb_evo" else ascii "generic"
  | _ => ascii "generic"

/-- The identifiers that the detector has counted; they have 16 bits. -/
def observedCanIds : List ℕ := (List.range 65536).filter (0 < d.canIdCounts ·)

/-- The result is built from the VIN if its manufacturer is there, else from the evidence. -/
def getResult : VehicleDetectionResult :=
  let wmi := if 3 ≤ d.vin.length then d.vin.take 3 else []
  let isElectric := d.isElectric.getD false
  let frameCount := (d.observedCanIds.map d.canIdCounts).sum + d.obd2ResponseCount
  let result : VehicleDetectionResult :=
    { vin := d.vin, wmi, isElectric, observedCanIds := d.observedCanIds, frameCount }
  let suggestion := d.determineSuggestion (d.gatherEvidence d.observedCanIds)
  if 3 ≤ d.vin.length then
    { result with
      make := decodeWMI wmi
      suggestedVehicleId := makeToConfigId (decodeWMI wmi) isElectric }
  else if suggestion.configId ≠ [] then
    { result with
      make := suggestion.make
      suggestedVehicleId := suggestion.configId
      confidence := calculateConfidence suggestion.make suggestion.uniqueIdCount
        suggestion.totalFrameCount }
  else result

end Result

/-- The VIN characters that the detector takes from a payload. -/
def vinPart (frame : Bytes) : Bytes :=
  if frame.length < 10 ∧ isVinResponse frame then vinText frame else []

variable {d}

theorem vin_feedOBD2Frame (data : Bytes) : (d.feedOBD2Frame data).vin =
    if isVinResponse data then (d.vin ++ vinText data).take 17 else d.vin := by
  unfold feedOBD2Frame
  split <;> split <;> rfl

theorem vin_observeFrame (frame : Bytes) :
    (d.observeFrame frame).vin = (d.vin ++ vinPart frame).take 17 := by
  have hsame : (d.vin ++ []).take 17 = d.vin := by
    rw [List.append_nil, List.take_of_length_le d.vin_le]
  unfold observeFrame vinPart
  by_cases h10 : frame.length = 10
  · rw [if_pos h10, if_neg (by omega), hsame]
    rfl
  · rw [if_neg h10]
    by_cases hv : isVinResponse frame = true
    · have h8 : 8 ≤ frame.length := by
        simp only [isVinResponse, Bool.and_eq_true, decide_eq_true_eq] at hv
        exact hv.1.1
      by_cases hlt : frame.length < 10
      · rw [if_pos ⟨by omega, by omega⟩, if_pos ⟨hlt, hv⟩, vin_feedOBD2Frame, if_pos hv]
      · rw [if_neg (by omega), if_neg (by omega), hsame]
    · have hpart : (if frame.length < 10 ∧ isVinResponse frame then vinText frame else []) = [] :=
        if_neg fun h => hv h.2
      rw [hpart, hsame]
      split
      · rw [vin_feedOBD2Frame, if_neg hv]
      · rfl

theorem take_append_take (u v : Bytes) (n : ℕ) : (u.take n ++ v).take n = (u ++ v).take n := by
  rcases Nat.le_total u.length n with hle | hge
  · rw [List.take_of_length_le hle]
  · have hfull : n ≤ (u.take n).length := by
      rw [List.length_take, min_eq_left hge]
    rw [List.take_append_of_le_length hge, List.take_append_of_le_length hfull, List.take_take,
      min_self]

/-- What a step appends to the VIN, a sequence of steps appends one after the other. -/
theorem vin_foldl {step : VehicleDetector → Bytes → VehicleDetector} {part : Bytes → Bytes}
    (hstep : ∀ d frame, (step d frame).vin = (d.vin ++ part frame).take 17)
    (frames : List Bytes) (d : VehicleDetector) :
    (frames.foldl step d).vin = (d.vin ++ frames.flatMap part).take 17 := by
  induction frames generalizing d with
  | nil => rw [List.foldl_nil, List.flatMap_nil, List.append_nil, List.take_of_length_le d.vin_le]
  | cons frame frames ih =>
    rw [List.foldl_cons, ih, hstep, List.flatMap_cons, take_append_take, List.append_assoc]

/-- Over a sequence of payloads the VIN is the first 17 of its characters. -/
theorem vin_foldl_observeFrame (frames : List Bytes) (d : VehicleDetector) :
    (frames.foldl observeFrame d).vin = (d.vin ++ frames.flatMap vinPart).take 17 :=
  vin_foldl (fun _ => vin_observeFrame) frames d

/-- Further payloads leave the VIN as it is exactly if it is full or they carry no part of it. -/
theorem vin_foldl_eq_iff (frames : List Bytes) (d : VehicleDetector) :
    (frames.foldl observeFrame d).vin = d.vin ↔
      d.vin.length = 17 ∨ ∀ frame ∈ frames, vinPart frame = [] := by
  have hle := d.vin_le
  rw [vin_foldl_observeFrame, ← List.flatMap_eq_nil_iff]
  constructor
  · intro h
    have hlen := congrArg List.length h
    rw [List.length_take, List.length_append] at hlen
    by_cases hfull : d.vin.length = 17
    · exact Or.inl hfull
    · exact Or.inr (List.length_eq_zero_iff.mp (by omega))
  · rintro (hfull | hnil)
    · rw [List.take_append_of_le_length hfull.ge, List.take_of_length_le hle]
    · rw [hnil, List.append_nil, List.take_of_length_le hle]

section Result

theorem vinText_eq (data : Bytes) : vinText data = (data.drop 3).filter (· ≠ 0) := by
  unfold vinText
  generalize data.drop 3 = rest
  induction rest with
  | nil => rfl
  | cons c rest ih =>
    by_cases hc : c = 0
    · subst hc
      exact ih
    · rw [List.dropWhile_cons_of_neg (by simpa using hc)]

theorem vin_feedVINResponse (response : Bytes) :
    (d.feedVINResponse response).1.vin = (d.vin ++ responseText response).take 17 := by
  unfold feedVINResponse
  split
  · next h =>
    subst h
    rw [show responseText [] = [] from rfl, List.append_nil, List.take_of_length_le d.vin_le]
  · rfl

@[simp] theorem vin_getResult : d.getResult.vin = d.vin := by
  simp only [getResult]
  split
  · rfl
  · split <;> rfl

@[simp] theorem isElectric_getResult : d.getResult.isElectric = d.isElectric.getD false := by
  simp only [getResult]
  split
  · rfl
  · split <;> rfl

/-- With three characters of the VIN, only the VIN and the fuel type are asked. -/
theorem getResult_of_vin (h : 3 ≤ d.vin.length) :
    d.getResult.make = decodeWMI (d.vin.take 3) ∧
      d.getResult.suggestedVehicleId =
        makeToConfigId (decodeWMI (d.vin.take 3)) (d.isElectric.getD false) := by
  simp only [getResult, if_pos h, and_self]

/-- Without them and without a CAN frame, an OBD2 response makes the vehicle a generic one. -/
theorem getResult_of_noCan (hvin : d.vin.length < 3) (hcan : ∀ id, d.canIdCounts id = 0) :
    d.getResult.make = (if 0 < d.obd2ResponseCount then .generic else .unknown) ∧
      d.getResult.suggestedVehicleId =
        if 0 < d.obd2ResponseCount then ascii "generic" else [] := by
  have hids : d.observedCanIds = [] := by
    simp [observedCanIds, hcan]
  have hev : d.gatherEvidence [] = [] := rfl
  have hgeneric : ascii "generic" ≠ [] := by decide
  simp only [getResult, if_neg (Nat.not_le_of_lt hvin), hids, hev, determineSuggestion]
  by_cases hobd : 0 < d.obd2ResponseCount
  · simp only [if_pos hobd, ne_eq, hgeneric, not_false_eq_true, if_true, and_self]
  · simp only [if_neg hobd, ne_eq, not_true_eq_false, if_false, and_self]

end Result

end VehicleDetector

end VehicleSpy.Ble
