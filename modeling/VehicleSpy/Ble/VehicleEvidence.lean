import VehicleSpy.Ble.VehicleDetector
import VehicleSpy.Ble.Elm327Session
import Mathlib.Data.List.DropRight
import Mathlib.Algebra.BigOperators.Group.List.Basic
import Mathlib.Data.List.Nodup

/-! # What a run of the detector reports

The detector is fed by the session and by the active query, and a new query resets it.
Over any such run its result is a function of the calls after the last reset: each payload
that counts is one sighting, the VIN and the fuel type are read off the responses, and with
fewer than three VIN characters the sightings alone decide. Their order does not matter.
In monitor mode the sightings are the frames in the notifications.
-/

namespace VehicleSpy.Ble
namespace VehicleDetector

open Text

/-- What the session and the active query do with a detector. -/
inductive Call
  | observeFrame (frame : Bytes)
  | feedVINResponse (response : Bytes)
  | feedFuelTypeResponse (response : Bytes)
  | reset
  deriving DecidableEq, Repr

def reset (_ : VehicleDetector) : VehicleDetector := initial

def call (d : VehicleDetector) : Call → VehicleDetector
  | .observeFrame frame => d.observeFrame frame
  | .feedVINResponse response => (d.feedVINResponse response).1
  | .feedFuelTypeResponse response => (d.feedFuelTypeResponse response).1
  | .reset => d.reset

def called (calls : List Call) : VehicleDetector := calls.foldl call initial

/-- A payload that the detector counts. -/
inductive Sighting
  | can (id : ℕ)
  | obd2
  deriving DecidableEq, Repr

/-- The identifier of a CAN frame, low byte first. -/
def frameId (frame : Bytes) : ℕ := (frame.getD 0 0).toNat ||| (frame.getD 1 0).toNat <<< 8

def sighting (frame : Bytes) : Option Sighting :=
  if frame.length = 10 then some (.can (frameId frame))
  else if 2 ≤ frame.length ∧ frame.length ≤ 10 then some .obd2
  else none

/-- The fuel type in a response, whose mode is one of `modes`. -/
def fuelType (modes : List Byte) : Bytes → Option Bool
  | mode :: pid :: fuel :: _ =>
    if modes.contains mode ∧ pid = 0x51 then some (fuel == 0x08) else none
  | _ => none

namespace Call

def sighting : Call → Option Sighting
  | .observeFrame frame => VehicleDetector.sighting frame
  | _ => none

def vinPart : Call → Bytes
  | .observeFrame frame => VehicleDetector.vinPart frame
  | .feedVINResponse response => responseText response
  | _ => []

def fuelType : Call → Option Bool
  | .observeFrame frame =>
    if frame.length = 10 then none
    else if 2 ≤ frame.length ∧ frame.length ≤ 10 then VehicleDetector.fuelType [0x41] frame
    else none
  | .feedFuelTypeResponse response => VehicleDetector.fuelType [0x41, 0x49] response
  | _ => none

end Call

/-- The calls after the last reset. -/
def recent (calls : List Call) : List Call := calls.rtakeWhile (· ≠ .reset)

def sightings (calls : List Call) : List Sighting := (recent calls).filterMap Call.sighting

/-- The vehicle that sightings suggest: the identifiers of two manufacturers cancel each
other, and responses count only without either. -/
def verdict (seen : List Sighting) : VehicleMake × Bytes × DetectionConfidence :=
  let teslaIds := [0x108, 0x118, 0x129].countP (.can · ∈ seen)
  let audiFrames := seen.count (.can 0x100)
  let responses := seen.count .obd2
  if 0 < teslaIds ∧ 0 < audiFrames then (.unknown, [], .none)
  else if 0 < teslaIds then
    (.tesla, ascii "tesla",
      if 3 ≤ teslaIds then .high else if 2 ≤ teslaIds then .medium else .low)
  else if 0 < audiFrames then
    (.audi, ascii "audi_mlb_evo",
      if 5 ≤ audiFrames then .high else if 2 ≤ audiFrames then .medium else .low)
  else if 0 < responses then
    (.generic, ascii "generic", if 3 ≤ responses then .medium else .low)
  else (.unknown, [], .none)

/-- A result that is the report of a run. -/
structure Reports (calls : List Call) (r : VehicleDetectionResult) : Prop where
  vin : r.vin = ((recent calls).flatMap Call.vinPart).take 17
  isElectric : r.isElectric = (((recent calls).filterMap Call.fuelType).getLast?).getD false
  frameCount : r.frameCount = (sightings calls).length
  observedCanIds : ∀ id, id ∈ r.observedCanIds ↔ .can id ∈ sightings calls
  ofVin : 3 ≤ r.vin.length →
    r.make = decodeWMI (r.vin.take 3) ∧ r.confidence = .none ∧
      r.suggestedVehicleId = makeToConfigId r.make r.isElectric
  ofSightings : r.vin.length < 3 →
    (r.make, r.suggestedVehicleId, r.confidence) = verdict (sightings calls)

section Evidence

variable {d : VehicleDetector} {evidence : List (VehicleMake × VehicleEvidence)}
  {make m : VehicleMake} {ev : VehicleEvidence} {id : ℕ}

def registered (make : VehicleMake) (id : ℕ) : Bool :=
  (canIdRegistry.lookup id).any (·.make = make)

theorem registered_tesla : registered .tesla id ↔ id ∈ [0x108, 0x118, 0x129] := by
  unfold registered canIdRegistry
  simp only [List.lookup_cons, List.lookup_nil, List.mem_cons, List.not_mem_nil, or_false]
  grind

theorem registered_audi : registered .audi id ↔ id = 0x100 := by
  unfold registered canIdRegistry
  simp only [List.lookup_cons, List.lookup_nil]
  grind

theorem make_of_registered (h : registered make id) : make = .tesla ∨ make = .audi := by
  unfold registered canIdRegistry at h
  simp only [List.lookup_cons, List.lookup_nil] at h
  grind

theorem lookup_filter_ne (hm : m ≠ make) :
    (evidence.filter (·.1 ≠ make)).lookup m = evidence.lookup m := by
  induction evidence with
  | nil => rfl
  | cons entry evidence ih =>
    obtain ⟨k, ev⟩ := entry
    by_cases hk : k = make
    · subst hk
      rw [List.filter_cons_of_neg (by simp), List.lookup_cons, ih, beq_false_of_ne hm]
    · rw [List.filter_cons_of_pos (by simpa using hk), List.lookup_cons, List.lookup_cons, ih]

/-- One more identifier of `make`, with its frames. -/
theorem lookup_addEvidence (n : ℕ) : (addEvidence evidence make n).lookup m =
    if m = make then
      some ⟨(evidence.lookup make).elim 0 (·.totalFrameCount) + n,
        (evidence.lookup make).elim 0 (·.uniqueIdCount) + 1⟩
    else evidence.lookup m := by
  unfold addEvidence
  cases hl : evidence.lookup make with
  | some ev =>
    by_cases hm : m = make
    · simp [hm]
    · simp only [List.lookup_cons, beq_false_of_ne hm, if_neg hm]
      exact lookup_filter_ne hm
  | none =>
    by_cases hm : m = make
    · simp [hm]
    · simp only [List.lookup_cons, beq_false_of_ne hm, if_neg hm]

theorem nodup_addEvidence (h : (evidence.map Prod.fst).Nodup) (n : ℕ) :
    ((addEvidence evidence make n).map Prod.fst).Nodup := by
  unfold addEvidence
  cases hl : evidence.lookup make with
  | some ev =>
    apply List.nodup_cons.mpr
    constructor
    · simp
    · exact h.sublist (List.filter_sublist.map Prod.fst)
  | none =>
    apply List.nodup_cons.mpr
    refine ⟨?_, h⟩
    rintro hmem
    obtain ⟨entry, hentry, rfl⟩ := List.mem_map.mp hmem
    have hne := List.lookup_eq_none_iff.mp hl entry hentry
    simp at hne

/-- The identifiers of `make` among those that were seen. -/
def idsOf (make : VehicleMake) (ids : List ℕ) : List ℕ := ids.filter (registered make)

theorem gatherEvidence_concat (ids : List ℕ) : d.gatherEvidence (ids ++ [id]) =
    (canIdRegistry.lookup id).elim (d.gatherEvidence ids)
      fun fp => addEvidence (d.gatherEvidence ids) fp.make (d.canIdCounts id) := by
  unfold gatherEvidence
  rw [List.foldl_append, List.foldl_cons, List.foldl_nil]
  cases canIdRegistry.lookup id <;> rfl

theorem nodup_gatherEvidence (ids : List ℕ) : ((d.gatherEvidence ids).map Prod.fst).Nodup := by
  induction ids using List.reverseRecOn with
  | nil => exact List.nodup_nil
  | append_singleton ids id ih =>
    rw [gatherEvidence_concat]
    cases canIdRegistry.lookup id with
    | none => exact ih
    | some fp => exact nodup_addEvidence ih _

/-- The evidence for a vehicle counts its identifiers and their frames. -/
theorem lookup_gatherEvidence (ids : List ℕ) : (d.gatherEvidence ids).lookup make =
    if idsOf make ids = [] then none
    else some ⟨((idsOf make ids).map d.canIdCounts).sum, (idsOf make ids).length⟩ := by
  induction ids using List.reverseRecOn with
  | nil => rfl
  | append_singleton ids id ih =>
    rw [gatherEvidence_concat]
    by_cases hreg : registered make id
    · have hids : idsOf make (ids ++ [id]) = idsOf make ids ++ [id] := by
        simp [idsOf, hreg]
      obtain ⟨fp, hfp, hmake⟩ : ∃ fp, canIdRegistry.lookup id = some fp ∧ fp.make = make := by
        simpa [registered, Option.any_eq_true] using hreg
      rw [hfp, Option.elim_some, lookup_addEvidence, if_pos hmake.symm, hmake, ih, hids]
      by_cases hnil : idsOf make ids = []
      · simp [hnil]
      · simp [hnil]
    · have hids : idsOf make (ids ++ [id]) = idsOf make ids := by
        simp [idsOf, hreg]
      rw [hids, ← ih]
      cases hfp : canIdRegistry.lookup id with
      | none => rfl
      | some fp =>
        have hne : make ≠ fp.make := by
          rintro rfl
          exact hreg (by simp [registered, hfp])
        rw [Option.elim_some, lookup_addEvidence, if_neg hne]

/-- The evidence that two keys or more have is no single one. -/
theorem eq_of_lookup (h : (evidence.map Prod.fst).Nodup)
    (hl : ∀ k, evidence.lookup k = if k = make then some ev else none) :
    evidence = [(make, ev)] := by
  have hkey : ∀ entry ∈ evidence, entry.1 = make := by
    rintro ⟨k, v⟩ hmem
    by_contra hk
    have hnone := hl k
    rw [if_neg hk] at hnone
    simpa using List.lookup_eq_none_iff.mp hnone _ hmem
  cases evidence with
  | nil => simpa using hl make
  | cons entry rest =>
    obtain ⟨k, v⟩ := entry
    obtain rfl : k = make := hkey _ List.mem_cons_self
    have hv : v = ev := by simpa using hl k
    have hrest : rest = [] := by
      apply List.eq_nil_iff_forall_not_mem.mpr
      rintro entry hmem
      apply (List.nodup_cons.mp h).1
      exact List.mem_map.mpr ⟨entry, hmem, hkey _ (List.mem_cons_of_mem _ hmem)⟩
    rw [hv, hrest]

theorem eq_nil_of_lookup (hl : ∀ k, evidence.lookup k = none) : evidence = [] := by
  cases evidence with
  | nil => rfl
  | cons entry rest => simpa using hl entry.1

variable {ids : List ℕ}

/-- Of the identifiers that were seen, only those of one vehicle are registered. -/
theorem gatherEvidence_only (hne : idsOf make ids ≠ []) (h : ∀ k ≠ make, idsOf k ids = []) :
    d.gatherEvidence ids =
      [(make, ⟨((idsOf make ids).map d.canIdCounts).sum, (idsOf make ids).length⟩)] := by
  apply eq_of_lookup (nodup_gatherEvidence ids)
  rintro k
  by_cases hk : k = make
  · rw [lookup_gatherEvidence, hk, if_neg hne, if_pos rfl]
  · rw [lookup_gatherEvidence, if_pos (h k hk), if_neg hk]

theorem idsOf_other (ht : make ≠ .tesla) (ha : make ≠ .audi) : idsOf make ids = [] := by
  apply List.filter_eq_nil_iff.mpr
  rintro id - hreg
  exact (make_of_registered hreg).elim ht ha

theorem suggestion_conflicting (ht : idsOf .tesla ids ≠ []) (ha : idsOf .audi ids ≠ []) :
    d.determineSuggestion (d.gatherEvidence ids) = { conflicting := true } := by
  have h₁ : (d.gatherEvidence ids).lookup .tesla = _ :=
    (lookup_gatherEvidence ids).trans (if_neg ht)
  have h₂ : (d.gatherEvidence ids).lookup .audi = _ :=
    (lookup_gatherEvidence ids).trans (if_neg ha)
  rcases hev : d.gatherEvidence ids with _ | ⟨e₁, _ | ⟨e₂, rest⟩⟩
  · rw [hev] at h₁
    cases h₁
  · rw [hev, List.lookup_cons] at h₁ h₂
    grind
  · rfl

theorem suggestion_tesla (ht : idsOf .tesla ids ≠ []) (ha : idsOf .audi ids = []) :
    d.determineSuggestion (d.gatherEvidence ids) =
      { configId := ascii "tesla", make := .tesla, evidenceTag := ascii "Tesla signals",
        totalFrameCount := ((idsOf .tesla ids).map d.canIdCounts).sum,
        uniqueIdCount := (idsOf .tesla ids).length } := by
  rw [gatherEvidence_only ht]
  · rfl
  · rintro k hk
    by_cases hka : k = .audi
    · rw [hka, ha]
    · exact idsOf_other hk hka

theorem suggestion_audi (ht : idsOf .tesla ids = []) (ha : idsOf .audi ids ≠ []) :
    d.determineSuggestion (d.gatherEvidence ids) =
      { configId := ascii "audi_mlb_evo", make := .audi, evidenceTag := ascii "Audi MLB signals",
        totalFrameCount := ((idsOf .audi ids).map d.canIdCounts).sum,
        uniqueIdCount := (idsOf .audi ids).length } := by
  rw [gatherEvidence_only ha]
  · rfl
  · rintro k hk
    by_cases hkt : k = .tesla
    · rw [hkt, ht]
    · exact idsOf_other hkt hk

theorem gatherEvidence_nil (ht : idsOf .tesla ids = []) (ha : idsOf .audi ids = []) :
    d.gatherEvidence ids = [] := by
  apply eq_nil_of_lookup
  rintro k
  rw [lookup_gatherEvidence]
  apply if_pos
  by_cases hkt : k = .tesla
  · rw [hkt, ht]
  · by_cases hka : k = .audi
    · rw [hka, ha]
    · exact idsOf_other hkt hka

/-- Without a VIN the result is the suggestion, if it names a vehicle. -/
theorem getResult_of_suggestion (h : d.vin.length < 3) {s : VehicleSuggestion}
    (hs : d.determineSuggestion (d.gatherEvidence d.observedCanIds) = s) :
    (d.getResult.make, d.getResult.suggestedVehicleId, d.getResult.confidence) =
      if s.configId ≠ [] then
        (s.make, s.configId, calculateConfidence s.make s.uniqueIdCount s.totalFrameCount)
      else (.unknown, [], .none) := by
  by_cases hid : s.configId = []
  · simp only [getResult, if_neg (Nat.not_le_of_lt h), hs, hid, ne_eq, not_true_eq_false, if_false]
  · simp only [getResult, if_neg (Nat.not_le_of_lt h), hs, hid, ne_eq, not_false_eq_true, if_true]

end Evidence

section Run

variable {calls : List Call} {c : Call} {d : VehicleDetector}

@[simp] theorem called_concat : called (calls ++ [c]) = (called calls).call c := by
  rw [called, List.foldl_append, List.foldl_cons, List.foldl_nil, called]

@[simp] theorem recent_reset : recent (calls ++ [.reset]) = [] := by
  apply List.rtakeWhile_concat_neg
  simp

theorem recent_call (h : c ≠ .reset) : recent (calls ++ [c]) = recent calls ++ [c] := by
  apply List.rtakeWhile_concat_pos
  simpa using h

theorem sightings_call (h : c ≠ .reset) :
    sightings (calls ++ [c]) = sightings calls ++ c.sighting.toList := by
  rw [sightings, recent_call h, List.filterMap_append, sightings]
  cases hs : c.sighting <;> simp [hs]

/-- What the detector counts of a call. -/
theorem counts_call (h : c ≠ .reset) (id : ℕ) :
    (d.call c).canIdCounts id = d.canIdCounts id + c.sighting.toList.count (.can id) ∧
      (d.call c).obd2ResponseCount = d.obd2ResponseCount + c.sighting.toList.count .obd2 := by
  cases c with
  | observeFrame frame =>
    simp only [call, observeFrame, Call.sighting, sighting]
    split
    · constructor
      · change (if id = frameId frame then d.canIdCounts id + 1 else d.canIdCounts id) = _
        by_cases hid : id = frameId frame
        · simp [hid]
        · simp [hid, Ne.symm hid]
      · simp [feedCANFrame]
    · split
      · unfold feedOBD2Frame
        split <;> split <;> simp [appendVin]
      · simp
  | feedVINResponse response =>
    simp only [call, feedVINResponse]
    split <;> simp [Call.sighting, appendVin]
  | feedFuelTypeResponse response =>
    simp only [call, feedFuelTypeResponse]
    split
    · split <;> simp [Call.sighting]
    · simp [Call.sighting]
  | reset => exact absurd rfl h

/-- The counts of a run are those of the payloads since the last reset. -/
theorem counts_after (calls : List Call) (id : ℕ) :
    (called calls).canIdCounts id = (sightings calls).count (.can id) ∧
      (called calls).obd2ResponseCount = (sightings calls).count .obd2 := by
  induction calls using List.reverseRecOn with
  | nil => exact ⟨rfl, rfl⟩
  | append_singleton calls c ih =>
    rw [called_concat]
    by_cases hc : c = .reset
    · subst hc
      rw [sightings, recent_reset]
      exact ⟨rfl, rfl⟩
    · have hstep := counts_call (d := called calls) hc id
      rw [sightings_call hc, List.count_append, List.count_append, ← ih.1, ← ih.2]
      exact hstep

theorem vin_call (h : c ≠ .reset) : (d.call c).vin = (d.vin ++ c.vinPart).take 17 := by
  cases c with
  | observeFrame frame => exact vin_observeFrame frame
  | feedVINResponse response => exact vin_feedVINResponse response
  | feedFuelTypeResponse response =>
    have hsame : (d.feedFuelTypeResponse response).1.vin = d.vin := by
      unfold feedFuelTypeResponse
      split
      · split <;> rfl
      · rfl
    rw [call, hsame, show (Call.feedFuelTypeResponse response).vinPart = [] from rfl,
      List.append_nil, List.take_of_length_le d.vin_le]
  | reset => exact absurd rfl h

theorem vin_after (calls : List Call) :
    (called calls).vin = ((recent calls).flatMap Call.vinPart).take 17 := by
  induction calls using List.reverseRecOn with
  | nil => rfl
  | append_singleton calls c ih =>
    rw [called_concat]
    by_cases hc : c = .reset
    · subst hc
      rw [recent_reset]
      rfl
    · rw [vin_call hc, ih, recent_call hc, List.flatMap_append, take_append_take,
        List.flatMap_singleton]

theorem isElectric_feedOBD2Frame (data : Bytes) :
    (d.feedOBD2Frame data).isElectric = (fuelType [0x41] data).or d.isElectric := by
  have hvin (d : VehicleDetector) :
      (if isVinResponse data then d.appendVin (vinText data) else d).isElectric =
        d.isElectric := by
    split <;> rfl
  unfold feedOBD2Frame
  dsimp only
  split
  · rfl
  · next hne =>
    rw [hvin]
    have hnone : fuelType [0x41] data = none := by
      rcases data with _ | ⟨mode, _ | ⟨pid, _ | ⟨fuel, rest⟩⟩⟩
      iterate 3 rfl
      apply if_neg
      rintro ⟨hmode, rfl⟩
      obtain rfl : mode = 0x41 := by simpa using hmode
      exact hne fuel rest rfl
    rw [hnone]
    rfl

theorem isElectric_feedFuelTypeResponse (response : Bytes) :
    (d.feedFuelTypeResponse response).1.isElectric =
      (fuelType [0x41, 0x49] response).or d.isElectric := by
  rcases response with _ | ⟨mode, _ | ⟨pid, _ | ⟨fuel, rest⟩⟩⟩
  iterate 3 rfl
  simp only [feedFuelTypeResponse, fuelType]
  by_cases hok : (mode = 0x41 ∨ mode = 0x49) ∧ pid = 0x51
  · rw [if_neg (by tauto), if_pos (by simpa using hok)]
    rfl
  · rw [if_pos (by tauto), if_neg (by simpa using hok)]
    rfl

theorem isElectric_call (h : c ≠ .reset) :
    (d.call c).isElectric = c.fuelType.or d.isElectric := by
  cases c with
  | observeFrame frame =>
    simp only [call, observeFrame, Call.fuelType]
    split
    · rfl
    · split
      · exact isElectric_feedOBD2Frame frame
      · rfl
  | feedVINResponse response =>
    simp only [call, feedVINResponse]
    split <;> rfl
  | feedFuelTypeResponse response => exact isElectric_feedFuelTypeResponse response
  | reset => exact absurd rfl h

theorem isElectric_after (calls : List Call) :
    (called calls).isElectric = ((recent calls).filterMap Call.fuelType).getLast? := by
  induction calls using List.reverseRecOn with
  | nil => rfl
  | append_singleton calls c ih =>
    rw [called_concat]
    by_cases hc : c = .reset
    · subst hc
      rw [recent_reset]
      rfl
    · rw [isElectric_call hc, ih, recent_call hc, List.filterMap_append]
      cases hf : c.fuelType <;> simp [hf]

theorem frameId_lt (frame : Bytes) : frameId frame < 65536 := by
  have hlo : (frame.getD 0 0).toNat < 2 ^ 16 :=
    lt_trans (UInt8.toNat_lt _) (by decide)
  have hhi : (frame.getD 1 0).toNat <<< 8 < 2 ^ 16 := by
    have := UInt8.toNat_lt (frame.getD 1 0)
    rw [Nat.shiftLeft_eq]
    omega
  exact Nat.or_lt_two_pow hlo hhi

theorem can_lt {id : ℕ} (h : .can id ∈ sightings calls) : id < 65536 := by
  obtain ⟨c, -, hc⟩ := List.mem_filterMap.mp h
  cases c with
  | observeFrame frame =>
    simp only [Call.sighting, sighting] at hc
    split at hc
    · obtain rfl : frameId frame = id := by simpa using hc
      exact frameId_lt frame
    · split at hc <;> simp at hc
  | _ => simp [Call.sighting] at hc

theorem mem_observedCanIds_after (id : ℕ) :
    id ∈ (called calls).observedCanIds ↔ .can id ∈ sightings calls := by
  unfold observedCanIds
  rw [List.mem_filter, List.mem_range, decide_eq_true_eq, (counts_after calls id).1,
    List.count_pos_iff]
  exact and_iff_right_of_imp can_lt

theorem nodup_observedCanIds : d.observedCanIds.Nodup :=
  List.Nodup.filter _ List.nodup_range

theorem sum_counts_cons (ids : List ℕ) (k : ℕ) (seen : List Sighting) :
    (ids.map fun id => (Sighting.can k :: seen).count (.can id)).sum =
      (ids.map fun id => seen.count (.can id)).sum + ids.count k := by
  induction ids with
  | nil => rfl
  | cons id ids ih =>
    rw [List.map_cons, List.sum_cons, ih, List.map_cons, List.sum_cons]
    by_cases hk : k = id
    · subst hk
      rw [List.count_cons_self, List.count_cons_self]
      omega
    · rw [List.count_cons_of_ne (by simpa using hk), List.count_cons_of_ne (Ne.symm hk)]
      omega

/-- Each sighting is counted under one identifier, or as a response. -/
theorem length_eq_counts {ids : List ℕ} (h : ids.Nodup) {seen : List Sighting}
    (hseen : ∀ id, .can id ∈ seen → id ∈ ids) :
    (ids.map fun id => seen.count (.can id)).sum + seen.count .obd2 = seen.length := by
  induction seen with
  | nil => simp
  | cons s seen ih =>
    have hrest := ih fun id hid => hseen id (List.mem_cons_of_mem _ hid)
    cases s with
    | obd2 =>
      simp only [List.count_cons_self, List.length_cons, ← hrest]
      simp [Nat.add_assoc]
    | can k =>
      have hk : ids.count k = 1 := List.count_eq_one_of_mem h (hseen k List.mem_cons_self)
      rw [sum_counts_cons, hk, List.length_cons, ← hrest, List.count_cons_of_ne (by simp)]
      omega

theorem observedCanIds_getResult : d.getResult.observedCanIds = d.observedCanIds := by
  simp only [getResult]
  split
  · dsimp only
  · split <;> dsimp only

theorem confidence_getResult_of_vin (h : 3 ≤ d.vin.length) : d.getResult.confidence = .none := by
  simp only [getResult, if_pos h]

theorem frameCount_getResult : d.getResult.frameCount =
    (d.observedCanIds.map d.canIdCounts).sum + d.obd2ResponseCount := by
  simp only [getResult]
  split
  · dsimp only
  · split <;> dsimp only

theorem frameCount_after : (called calls).getResult.frameCount = (sightings calls).length := by
  have hcounts : (called calls).canIdCounts = fun id => (sightings calls).count (.can id) := by
    ext id
    exact (counts_after calls id).1
  calc (called calls).getResult.frameCount
      = ((called calls).observedCanIds.map (called calls).canIdCounts).sum +
          (called calls).obd2ResponseCount := frameCount_getResult
    _ = ((called calls).observedCanIds.map fun id => (sightings calls).count (.can id)).sum +
          (sightings calls).count .obd2 := by
        rw [hcounts, (counts_after calls 0).2]
    _ = (sightings calls).length :=
        length_eq_counts nodup_observedCanIds fun id => (mem_observedCanIds_after id).mpr

/-- The registered identifiers that were seen are those of the vehicle with a sighting. -/
theorem idsOf_perm {make : VehicleMake} {registry : List ℕ} (h : registry.Nodup)
    (hreg : ∀ id, registered make id ↔ id ∈ registry) :
    (idsOf make (called calls).observedCanIds).Perm
      (registry.filter (.can · ∈ sightings calls)) := by
  have hids : (idsOf make (called calls).observedCanIds).Nodup := by
    unfold idsOf
    exact nodup_observedCanIds.filter _
  apply (List.perm_ext_iff_of_nodup hids (h.filter _)).mpr
  rintro id
  unfold idsOf
  simp only [List.mem_filter, mem_observedCanIds_after, hreg, decide_eq_true_eq]
  exact and_comm

theorem length_idsOf_tesla : (idsOf .tesla (called calls).observedCanIds).length =
    [0x108, 0x118, 0x129].countP (.can · ∈ sightings calls) := by
  rw [(idsOf_perm (by decide) fun _ => registered_tesla).length_eq, List.countP_eq_length_filter]

theorem sum_idsOf_audi :
    ((idsOf .audi (called calls).observedCanIds).map (called calls).canIdCounts).sum =
      (sightings calls).count (.can 0x100) := by
  have hperm : (idsOf .audi (called calls).observedCanIds).Perm _ :=
    idsOf_perm (List.nodup_singleton 0x100) fun _ => by rw [registered_audi, List.mem_singleton]
  rw [(hperm.map _).sum_eq]
  by_cases hseen : .can 0x100 ∈ sightings calls
  · simp [hseen, (counts_after calls 0x100).1]
  · simp [hseen, List.count_eq_zero_of_not_mem hseen]

theorem idsOf_tesla_ne_nil : idsOf .tesla (called calls).observedCanIds ≠ [] ↔
    0 < [0x108, 0x118, 0x129].countP (.can · ∈ sightings calls) := by
  rw [← length_idsOf_tesla, List.length_pos_iff]

theorem idsOf_audi_ne_nil : idsOf .audi (called calls).observedCanIds ≠ [] ↔
    0 < (sightings calls).count (.can 0x100) := by
  have hmem (id : ℕ) : id ∈ idsOf .audi (called calls).observedCanIds ↔
      .can id ∈ sightings calls ∧ id = 0x100 := by
    rw [idsOf, List.mem_filter, mem_observedCanIds_after, registered_audi]
  rw [List.count_pos_iff]
  constructor
  · rintro hne
    obtain ⟨id, hid⟩ := List.exists_mem_of_ne_nil _ hne
    obtain ⟨hseen, rfl⟩ := (hmem id).mp hid
    exact hseen
  · rintro hseen
    exact List.ne_nil_of_mem ((hmem 0x100).mpr ⟨hseen, rfl⟩)

/-- With fewer than three characters of the VIN the sightings decide. -/
theorem verdict_after (h : (called calls).vin.length < 3) :
    ((called calls).getResult.make, (called calls).getResult.suggestedVehicleId,
      (called calls).getResult.confidence) = verdict (sightings calls) := by
  have hobd := (counts_after calls 0).2
  unfold verdict
  by_cases ht : idsOf .tesla (called calls).observedCanIds = []
  · have hno : ¬ 0 < [0x108, 0x118, 0x129].countP (.can · ∈ sightings calls) := fun hpos =>
      idsOf_tesla_ne_nil.mpr hpos ht
    by_cases ha : idsOf .audi (called calls).observedCanIds = []
    · have hnone : ¬ 0 < (sightings calls).count (.can 0x100) := fun hpos =>
        idsOf_audi_ne_nil.mpr hpos ha
      rw [getResult_of_suggestion h rfl, gatherEvidence_nil ht ha, determineSuggestion, hobd]
      simp only [hno, hnone, false_and, if_false]
      split <;> rfl
    · have hsome := idsOf_audi_ne_nil.mp ha
      rw [getResult_of_suggestion h (suggestion_audi ht ha), sum_idsOf_audi]
      simp only [hno, hsome, false_and, if_false, if_true]
      rfl
  · have hsome := idsOf_tesla_ne_nil.mp ht
    by_cases ha : idsOf .audi (called calls).observedCanIds = []
    · have hnone : ¬ 0 < (sightings calls).count (.can 0x100) := fun hpos =>
        idsOf_audi_ne_nil.mpr hpos ha
      rw [getResult_of_suggestion h (suggestion_tesla ht ha), length_idsOf_tesla]
      simp only [hsome, hnone, and_false, if_false, if_true]
      rfl
    · have hboth := idsOf_audi_ne_nil.mp ha
      rw [getResult_of_suggestion h (suggestion_conflicting ht ha)]
      simp only [hsome, hboth, and_self, if_true]
      rfl

/-- The order of the sightings does not matter. -/
theorem verdict_perm {seen seen' : List Sighting} (h : seen.Perm seen') :
    verdict seen = verdict seen' := by
  have hmem (id : ℕ) : (.can id ∈ seen) = (.can id ∈ seen') := propext h.mem_iff
  simp only [verdict, h.count_eq, hmem]

/-- After any calls the detector reports what came after the last reset. -/
theorem reports_after (calls : List Call) : Reports calls (called calls).getResult where
  vin := by rw [vin_getResult, vin_after]
  isElectric := by rw [isElectric_getResult, isElectric_after]
  frameCount := frameCount_after
  observedCanIds id := by
    rw [← mem_observedCanIds_after, observedCanIds_getResult]
  ofVin h := by
    rw [vin_getResult] at h ⊢
    obtain ⟨hmake, hconfig⟩ := getResult_of_vin h
    rw [hmake, hconfig, isElectric_getResult]
    exact ⟨rfl, confidence_getResult_of_vin h, rfl⟩
  ofSightings h := by
    rw [vin_getResult] at h
    exact verdict_after h

/-- Two runs with the same sightings in another order suggest the same vehicle. -/
theorem suggestion_of_perm {calls' : List Call} (h : (sightings calls).Perm (sightings calls'))
    (hv : (called calls).vin.length < 3) (hv' : (called calls').vin.length < 3) :
    ((called calls).getResult.make, (called calls).getResult.suggestedVehicleId,
        (called calls).getResult.confidence) =
      ((called calls').getResult.make, (called calls').getResult.suggestedVehicleId,
        (called calls').getResult.confidence) := by
  rw [verdict_after hv, verdict_after hv', verdict_perm h]

end Run

section Monitor

open Elm327Session Machine

variable {n payload : Bytes} {payloads : List Bytes}

/-- The sighting in a notification of the monitor: a frame with eight bytes of data. -/
def monitored (n : Bytes) : Option Sighting :=
  (ELM327Transport.parseCANFrame n).bind fun frame =>
    if frame.data.length = 8 then some (.can frame.canId.toNat) else none

/-- The two bytes of an identifier, put together again. -/
theorem or_bytes (id : UInt16) :
    (id &&& 0xFF).toUInt8.toNat ||| ((id >>> 8) &&& 0xFF).toUInt8.toNat <<< 8 = id.toNat := by
  have hlt : id.toNat < 65536 := UInt16.toNat_lt id
  have hmask (k : ℕ) : k &&& 255 = k % 256 := Nat.and_two_pow_sub_one_eq_mod k 8
  have hlo : (id &&& 0xFF).toUInt8.toNat = id.toNat % 256 := by
    simp [hmask]
  have hhi : ((id >>> 8) &&& 0xFF).toUInt8.toNat = id.toNat / 256 := by
    simp [hmask, Nat.shiftRight_eq_div_pow]
    omega
  rw [hlo, hhi, Nat.or_comm, ← Nat.shiftLeft_add_eq_or_of_lt (by omega), Nat.shiftLeft_eq]
  omega

/-- What the session observes of a notification is the sighting in it. -/
theorem sighting_monitored (n : Bytes) :
    (notificationPayload true n).bind sighting = monitored n ∧
      ∀ payload ∈ notificationPayload true n, payload.length = 10 := by
  unfold notificationPayload binaryData parseMonitorLine monitored
  rcases ELM327Transport.parseCANFrame n with _ | frame
  · simp
  · by_cases h8 : frame.data.length = 8
    · have hid : frameId ([(frame.canId &&& 0xFF).toUInt8,
          ((frame.canId >>> 8) &&& 0xFF).toUInt8] ++ frame.data) = frame.canId.toNat :=
        or_bytes frame.canId
      simp [h8, sighting, ← hid]
    · simp [h8]

theorem recent_observeFrame (payloads : List Bytes) :
    recent (payloads.map .observeFrame) = payloads.map .observeFrame := by
  apply List.rtakeWhile_eq_self_iff.mpr
  simp

theorem sightings_observeFrame (payloads : List Bytes) :
    sightings (payloads.map .observeFrame) = payloads.filterMap sighting := by
  rw [sightings, recent_observeFrame, List.filterMap_map]
  rfl

/-- CAN frames carry neither a VIN nor a fuel type. -/
theorem canFrame_parts (h : payload.length = 10) :
    (Call.observeFrame payload).vinPart = [] ∧ (Call.observeFrame payload).fuelType = none := by
  constructor
  · rw [Call.vinPart, VehicleDetector.vinPart, if_neg (by omega)]
  · rw [Call.fuelType, if_pos h]

/-- In monitor mode the vehicle is the one whose frames the notifications carry: each line is
one sighting or nothing, and no VIN is taken from them. -/
theorem reports_monitor {s : Elm327Session} (h : s.canMode = true) (ns : List Bytes) :
    let calls := (Elm327Session.observed (emitted handleIncomingData s ns)).map Call.observeFrame
    let r := (called calls).getResult
    r.vin = [] ∧ r.isElectric = false ∧ r.frameCount = (ns.filterMap monitored).length ∧
      (r.make, r.suggestedVehicleId, r.confidence) = verdict (ns.filterMap monitored) := by
  rintro calls r
  have hpayloads : Elm327Session.observed (emitted handleIncomingData s ns) =
      ns.filterMap (notificationPayload true) := by
    rw [(observed_emitted s ns).1, h]
  have hframes : ∀ payload ∈ Elm327Session.observed (emitted handleIncomingData s ns),
      payload.length = 10 := by
    rw [hpayloads]
    rintro payload hmem
    obtain ⟨n, -, hn⟩ := List.mem_filterMap.mp hmem
    exact (sighting_monitored n).2 payload hn
  have hsightings : sightings calls = ns.filterMap monitored := by
    rw [sightings_observeFrame, hpayloads, List.filterMap_filterMap]
    congr 1
    ext n : 1
    exact (sighting_monitored n).1
  have hvin : r.vin = [] := by
    have hparts : calls.flatMap Call.vinPart = [] := by
      apply List.flatMap_eq_nil_iff.mpr
      rintro c hc
      obtain ⟨payload, hmem, rfl⟩ := List.mem_map.mp hc
      exact (canFrame_parts (hframes payload hmem)).1
    rw [vin_getResult, vin_after, recent_observeFrame, hparts, List.take_nil]
  have helectric : r.isElectric = false := by
    have hparts : calls.filterMap Call.fuelType = [] := by
      apply List.filterMap_eq_nil_iff.mpr
      rintro c hc
      obtain ⟨payload, hmem, rfl⟩ := List.mem_map.mp hc
      exact (canFrame_parts (hframes payload hmem)).2
    rw [isElectric_getResult, isElectric_after, recent_observeFrame, hparts]
    rfl
  refine ⟨hvin, helectric, ?_, ?_⟩
  · rw [← hsightings]
    exact frameCount_after
  · rw [← hsightings]
    apply verdict_after
    rw [← vin_getResult]
    exact hvin ▸ Nat.zero_lt_succ _

/-- Two frames with identifiers of one vehicle, and the prompt. -/
def teslaLines : List Bytes :=
  [ascii "118 01 02 03 04 05 06 07 08\r", ascii ">", ascii "129 00 00 00 00 00 00 00 00\r"]

theorem reports_monitor_tesla :
    let out := emitted handleIncomingData { canMode := true } teslaLines
    let calls := (Elm327Session.observed out).map Call.observeFrame
    (called calls).getResult.frameCount = 2 ∧
      (called calls).getResult.suggestedVehicleId = ascii "tesla" ∧
        (called calls).getResult.confidence = .medium := by
  have hseen : teslaLines.filterMap monitored = [.can 0x118, .can 0x129] := by decide +kernel
  have hverdict : verdict [.can 0x118, .can 0x129] = (.tesla, ascii "tesla", .medium) := by
    decide +kernel
  obtain ⟨-, -, hcount, hresult⟩ := reports_monitor (s := { canMode := true }) rfl teslaLines
  rw [hseen] at hcount
  rw [hseen, hverdict] at hresult
  obtain ⟨-, hrest⟩ := Prod.mk.inj hresult
  obtain ⟨hid, hconf⟩ := Prod.mk.inj hrest
  exact ⟨hcount, hid, hconf⟩

end Monitor

end VehicleDetector
end VehicleSpy.Ble
