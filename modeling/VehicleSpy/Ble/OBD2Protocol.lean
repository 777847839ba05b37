import VehicleSpy.Ble.ELM327Transport
import VehicleSpy.Ble.VehicleDetector
import VehicleSpy.Machine.Prefixes

/-! # Dispatch of the query responses

Each response is offered to the VIN consumer first, and to the fuel type consumer only if
that one refuses it. The VIN consumer refuses nothing, so a fuel type answer becomes text of
the VIN, unless the VIN is complete, and never tells the fuel type.
-/

namespace VehicleSpy.Ble

open Text Machine ELM327Transport VehicleDetector

namespace OBD2Protocol

def processIncomingData (detector : VehicleDetector) (asciiData : Bytes) : VehicleDetector :=
  match parseOBD2Response asciiData with
  | none => detector
  | some binaryData =>
    let (detector, accepted) := detector.feedVINResponse binaryData
    if accepted then detector else (detector.feedFuelTypeResponse binaryData).1

/-- The detector after a sequence of responses. -/
def processed (responses : List Bytes) : VehicleDetector :=
  responses.foldl processIncomingData .initial

/-- The fuel type of a fuel type answer. -/
def fuelType? : Bytes → Option Byte
  | 0x41 :: 0x51 :: t :: _ => some t
  | 0x49 :: 0x51 :: t :: _ => some t
  | _ => none

/-- A payload that begins as the answer to a VIN query does. -/
def isVinAnswer (payload : Bytes) : Bool := payload[0]? == some 0x49 && payload[1]? == some 0x02

/-- The VIN characters of a payload: of VIN data, but not of its header of three bytes. -/
def vinData (payload : Bytes) : Bytes :=
  if (fuelType? payload).isSome then []
  else if isVinAnswer payload then (payload.drop 3).filter (· ≠ 0)
  else payload.filter (· ≠ 0)

def payloads (responses : List Bytes) : List Bytes := responses.filterMap parseOBD2Response

/-- The evidence is kept apart: the VIN is that of the VIN data, the fuel type that of the last
fuel type answer, and no fuel type answer has changed the VIN. -/
structure EvidenceApart (responses : List Bytes) : Prop where
  vin : (processed responses).getResult.vin = ((payloads responses).flatMap vinData).take 17
  isElectric : (processed responses).getResult.isElectric =
    ((payloads responses).reverse.findSome? fuelType?).any (· == 0x08)
  kept : EverySplit (fun sent response => ((parseOBD2Response response).bind fuelType?).isSome →
    (processed (sent ++ [response])).vin = (processed sent).vin) responses

/-- A response that may come behind others: a fuel type answer that is not electric, and only
when the VIN is complete; a VIN answer that is too short for its header to be seen only when
the open places of the VIN get the same characters from it with the header. -/
structure Harmless (sent : List Bytes) (response : Bytes) : Prop where
  fuel : ∀ p, parseOBD2Response response = some p → ∀ t, fuelType? p = some t →
    t ≠ 0x08 ∧ 17 ≤ ((payloads sent).flatMap vinData).length
  short : ∀ p, parseOBD2Response response = some p → isVinAnswer p = true → p.length < 8 →
    (vinData p).take (17 - ((payloads sent).flatMap vinData).length) =
      (p.filter (· ≠ 0)).take (17 - ((payloads sent).flatMap vinData).length)

section Step

variable {d : VehicleDetector} {response payload : Bytes}

theorem parseOBD2Response_ne_nil (h : parseOBD2Response response = some payload) :
    payload ≠ [] := by
  rintro rfl
  rw [parseOBD2Response_eq] at h
  split at h
  · cases h
  · simp only [decodeHex] at h
    split_ifs at h with hhex hres
    exact hres (Option.some.inj h)

/-- The fuel type consumer is never reached. -/
theorem processIncomingData_eq (d : VehicleDetector) (response : Bytes) :
    processIncomingData d response = match parseOBD2Response response with
      | none => d
      | some payload => d.appendVin (responseText payload) := by
  unfold processIncomingData
  cases h : parseOBD2Response response with
  | none => rfl
  | some payload =>
    simp only [feedVINResponse, if_neg (parseOBD2Response_ne_nil h), if_true]

theorem not_isVinAnswer_of_fuelType {t : Byte} (h : fuelType? payload = some t) :
    isVinAnswer payload = false := by
  unfold fuelType? at h
  split at h
  · rfl
  · rfl
  · cases h

theorem isVinResponse_eq (payload : Bytes) :
    isVinResponse payload = (decide (8 ≤ payload.length) && isVinAnswer payload) :=
  Bool.and_assoc _ _ _

theorem vinData_of_fuelType {t : Byte} (h : fuelType? payload = some t) : vinData payload = [] := by
  rw [vinData, h, Option.isSome_some, if_pos rfl]

/-- A fuel type answer reads as text, and not as an empty one. -/
theorem responseText_of_fuelType {t : Byte} (h : fuelType? payload = some t) :
    responseText payload ≠ [] := by
  rw [responseText, isVinResponse_eq, not_isVinAnswer_of_fuelType h, Bool.and_false,
    if_neg Bool.false_ne_true]
  unfold fuelType? at h
  split at h
  · simp
  · simp
  · cases h

/-- Off the fuel type answers, only the VIN answers of less than eight bytes are misread. -/
theorem responseText_eq_vinData (h : fuelType? payload = none) :
    responseText payload = if isVinAnswer payload = true ∧ payload.length < 8
      then payload.filter (· ≠ 0) else vinData payload := by
  rw [responseText, isVinResponse_eq, vinData, h, Option.isSome_none,
    if_neg Bool.false_ne_true, vinText_eq]
  cases hv : isVinAnswer payload with
  | false => simp
  | true =>
    rcases Nat.lt_or_ge payload.length 8 with hlt | hge
    · simp [hlt]
    · simp [hge]

theorem take_append_eq_iff {u v w : Bytes} {n : ℕ} :
    (u ++ v).take n = (u ++ w).take n ↔ v.take (n - u.length) = w.take (n - u.length) := by
  rw [List.take_append, List.take_append, List.append_cancel_left_eq]

theorem take_eq_nil_iff_of_ne_nil {v : Bytes} {n : ℕ} (hv : v ≠ []) : v.take n = [] ↔ n = 0 := by
  rw [List.take_eq_nil_iff]
  exact or_iff_left hv

end Step

section Run

variable {sent responses : List Bytes} {response payload : Bytes}

theorem processed_concat (responses : List Bytes) (response : Bytes) :
    processed (responses ++ [response]) = processIncomingData (processed responses) response :=
  List.foldl_concat _ _ _ _

theorem payloads_concat (responses : List Bytes) (response : Bytes) :
    payloads (responses ++ [response]) =
      payloads responses ++ (parseOBD2Response response).toList := by
  rw [payloads, List.filterMap_append, payloads]
  cases h : parseOBD2Response response <;> simp [h]

theorem isElectric_processed (responses : List Bytes) :
    (processed responses).isElectric = none := by
  induction responses using List.reverseRecOn with
  | nil => rfl
  | append_singleton responses response ih =>
    rw [processed_concat, processIncomingData_eq]
    split <;> exact ih

/-- A payload behind others: what the VIN, the fuel type and the dispatch have to meet. -/
theorem evidenceApart_concat_iff (hp : parseOBD2Response response = some payload)
    (h : EvidenceApart sent) :
    EvidenceApart (sent ++ [response]) ↔
      (responseText payload).take (17 - ((payloads sent).flatMap vinData).length) =
        (vinData payload).take (17 - ((payloads sent).flatMap vinData).length) ∧
      fuelType? payload ≠ some 0x08 := by
  obtain ⟨hvin, hel, hkept⟩ := h
  rw [vin_getResult] at hvin
  rw [isElectric_getResult, isElectric_processed, Option.getD_none] at hel
  have hvin' : (processed (sent ++ [response])).vin =
      ((payloads sent).flatMap vinData ++ responseText payload).take 17 := by
    rw [processed_concat, processIncomingData_eq, hp, ← take_append_take, ← hvin]
    rfl
  have hdata : (payloads (sent ++ [response])).flatMap vinData =
      (payloads sent).flatMap vinData ++ vinData payload := by
    rw [payloads_concat, hp, List.flatMap_append, Option.toList_some, List.flatMap_singleton]
  have hfuel : ((payloads (sent ++ [response])).reverse.findSome? fuelType?).any (· == 0x08) =
      false ↔ fuelType? payload ≠ some 0x08 := by
    rw [payloads_concat, hp, Option.toList_some, List.reverse_append, List.reverse_singleton,
      List.singleton_append, List.findSome?_cons]
    cases hf : fuelType? payload with
    | none => simpa using hel.symm
    | some t => simp
  rw [← take_append_eq_iff, ← hvin', ← hdata, ← hfuel]
  constructor
  · rintro ⟨hv, he, -⟩
    rw [vin_getResult] at hv
    rw [isElectric_getResult, isElectric_processed, Option.getD_none] at he
    exact ⟨hv, he.symm⟩
  · rintro ⟨hv, he⟩
    refine ⟨by rwa [vin_getResult], ?_, everySplit_concat.mpr ⟨hkept, ?_⟩⟩
    · rw [isElectric_getResult, isElectric_processed, Option.getD_none, he]
    · intro hsome
      obtain ⟨t, ht⟩ := Option.isSome_iff_exists.mp hsome
      rw [hp, Option.bind_some] at ht
      rw [hv, hdata, vinData_of_fuelType ht, List.append_nil, hvin]

/-- Where the evidence is apart, it is so behind the next response if that one is harmless. -/
theorem evidenceApart_concat_iff_harmless (h : EvidenceApart sent) :
    EvidenceApart (sent ++ [response]) ↔ Harmless sent response := by
  cases hp : parseOBD2Response response with
  | none =>
    have hsame : processed (sent ++ [response]) = processed sent := by
      rw [processed_concat, processIncomingData_eq, hp]
    have hpay : payloads (sent ++ [response]) = payloads sent := by
      rw [payloads_concat, hp, Option.toList_none, List.append_nil]
    refine iff_of_true ⟨?_, ?_, everySplit_concat.mpr ⟨h.kept, ?_⟩⟩ ⟨?_, ?_⟩
    · rw [hsame, hpay, h.vin]
    · rw [hsame, hpay, h.isElectric]
    · simp [hp]
    · simp [hp]
    · simp [hp]
  | some payload =>
    rw [evidenceApart_concat_iff hp h]
    cases hf : fuelType? payload with
    | some t =>
      rw [vinData_of_fuelType hf, List.take_nil,
        take_eq_nil_iff_of_ne_nil (responseText_of_fuelType hf), Nat.sub_eq_zero_iff_le]
      constructor
      · rintro ⟨hfull, hne⟩
        constructor
        · rintro p hp' s hs
          obtain rfl := Option.some.inj (hp.symm.trans hp')
          obtain rfl := Option.some.inj (hf.symm.trans hs)
          exact ⟨fun he => hne (congrArg some he), hfull⟩
        · rintro p hp' hv -
          obtain rfl := Option.some.inj (hp.symm.trans hp')
          rw [not_isVinAnswer_of_fuelType hf] at hv
          cases hv
      · rintro ⟨hfuel, -⟩
        obtain ⟨hne, hfull⟩ := hfuel payload hp t hf
        exact ⟨hfull, fun he => hne (Option.some.inj he)⟩
    | none =>
      rw [responseText_eq_vinData hf]
      constructor
      · rintro ⟨htake, -⟩
        constructor
        · rintro p hp' s hs
          obtain rfl := Option.some.inj (hp.symm.trans hp')
          rw [hf] at hs
          cases hs
        · rintro p hp' hv hlt
          obtain rfl := Option.some.inj (hp.symm.trans hp')
          rw [if_pos ⟨hv, hlt⟩] at htake
          exact htake.symm
      · rintro ⟨-, hshort⟩
        refine ⟨?_, nofun⟩
        split
        · next hv => exact (hshort payload hp hv.1 hv.2).symm
        · rfl

/-- After each of a sequence of responses the evidence is kept apart exactly if every response
was harmless behind those before it. -/
theorem evidenceApart_iff_harmless (responses : List Bytes) :
    (∀ sent, sent <+: responses → EvidenceApart sent) ↔ EverySplit Harmless responses := by
  apply forall_prefix_iff_everySplit
  · exact ⟨vin_getResult, isElectric_getResult, everySplit_nil _⟩
  · rintro sent response - h
    exact evidenceApart_concat_iff_harmless h

/-- The answer that a car is electric is read as three characters of its VIN. -/
theorem fuelType_read_as_vin :
    parseOBD2Response (ascii "41 51 08\r") = some [0x41, 0x51, 0x08] ∧
      (processed [ascii "41 51 08\r"]).getResult.vin = [0x41, 0x51, 0x08] ∧
      (processed [ascii "41 51 08\r"]).getResult.isElectric = false ∧
      ¬ EvidenceApart [ascii "41 51 08\r"] := by
  have hvin : (processed [ascii "41 51 08\r"]).getResult.vin = [0x41, 0x51, 0x08] := by
    rw [vin_getResult]
    decide +kernel
  refine ⟨by decide +kernel, hvin, by rw [isElectric_getResult, isElectric_processed]; rfl, ?_⟩
  intro h
  have hv := h.vin
  rw [hvin] at hv
  exact absurd hv (by decide +kernel)

end Run

end OBD2Protocol

end VehicleSpy.Ble
