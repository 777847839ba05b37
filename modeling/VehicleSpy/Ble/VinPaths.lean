import VehicleSpy.Ble.VehicleDetector
import VehicleSpy.Machine.Prefixes

/-! # The two ways to the VIN

The session observes each payload and tells its kind by its length; the active query is
told that it holds a response. On VIN responses the two leave the same result only while
no response has the length of a CAN frame and none that is longer would add to the VIN.
-/

namespace VehicleSpy.Ble

open Text Machine

namespace VehicleDetector

/-- The detector of the live path after some payloads. -/
def observed (payloads : List Bytes) : VehicleDetector := payloads.foldl observeFrame initial

/-- The detector of the active query after the same payloads. -/
def queried (payloads : List Bytes) : VehicleDetector :=
  payloads.foldl (fun d payload => (d.feedVINResponse payload).1) initial

/-- Both paths lead to one result, and the live path has counted no CAN frame. -/
structure PathsAgree (payloads : List Bytes) : Prop where
  vin : (observed payloads).getResult.vin = (queried payloads).getResult.vin
  make : (observed payloads).getResult.make = (queried payloads).getResult.make
  suggestedVehicleId : (observed payloads).getResult.suggestedVehicleId =
    (queried payloads).getResult.suggestedVehicleId
  noCan : ∀ id, (observed payloads).canIdCounts id = 0

/-- A VIN response that the live path may receive behind others: not as long as a CAN frame;
if longer, then of no use for the VIN; if shorter, then the manufacturer is known with it. -/
structure Tolerable (sent : List Bytes) (payload : Bytes) : Prop where
  ne_ten : payload.length ≠ 10
  long : 10 < payload.length → vinText payload = [] ∨ 17 ≤ (sent.flatMap vinText).length
  short : payload.length < 10 → 3 ≤ (sent.flatMap vinText ++ vinText payload).length

section Step

variable {d : VehicleDetector} {payload : Bytes}

theorem length_of_isVinResponse (h : isVinResponse payload = true) : 8 ≤ payload.length := by
  simp only [isVinResponse, Bool.and_eq_true, decide_eq_true_eq] at h
  exact h.1.1

theorem vinPart_of_isVinResponse (h : isVinResponse payload = true) :
    vinPart payload = if payload.length < 10 then vinText payload else [] := by
  simp only [vinPart, h, and_true]

/-- A VIN response is no fuel type response. -/
theorem feedOBD2Frame_of_isVinResponse (h : isVinResponse payload = true) :
    d.feedOBD2Frame payload =
      { d with obd2ResponseCount := d.obd2ResponseCount + 1 }.appendVin (vinText payload) := by
  simp only [feedOBD2Frame, h, if_true]
  split
  · exact absurd h (by simp [isVinResponse])
  · rfl

/-- What the live path makes of a VIN response, by its length alone. -/
theorem observeFrame_of_isVinResponse (h : isVinResponse payload = true) :
    payload.length < 10 ∧ d.observeFrame payload =
        { d with obd2ResponseCount := d.obd2ResponseCount + 1 }.appendVin (vinText payload) ∨
      payload.length = 10 ∧ (∃ id, d.observeFrame payload = d.feedCANFrame id) ∨
      10 < payload.length ∧ d.observeFrame payload = d := by
  have h8 := length_of_isVinResponse h
  unfold observeFrame
  rcases Nat.lt_trichotomy payload.length 10 with hlt | heq | hgt
  · rw [if_neg (by omega), if_pos (by omega)]
    exact Or.inl ⟨hlt, feedOBD2Frame_of_isVinResponse h⟩
  · rw [if_pos heq]
    exact Or.inr (Or.inl ⟨heq, _, rfl⟩)
  · rw [if_neg (by omega), if_neg (by omega)]
    exact Or.inr (Or.inr ⟨hgt, rfl⟩)

end Step

section Run

variable {payloads : List Bytes}

theorem observed_concat (payloads : List Bytes) (payload : Bytes) :
    observed (payloads ++ [payload]) = (observed payloads).observeFrame payload :=
  List.foldl_concat _ _ _ _

/-- What the live path has counted after VIN responses. -/
structure ObservedCounts (payloads : List Bytes) : Prop where
  isElectric : (observed payloads).isElectric = none
  can : (∀ id, (observed payloads).canIdCounts id = 0) ↔ ∀ p ∈ payloads, p.length ≠ 10
  obd2 : 0 < (observed payloads).obd2ResponseCount ↔ ∃ p ∈ payloads, p.length < 10

theorem observedCounts (h : ∀ p ∈ payloads, isVinResponse p = true) : ObservedCounts payloads := by
  induction payloads using List.reverseRecOn with
  | nil => exact ⟨rfl, by simp [observed, initial], by simp [observed, initial]⟩
  | append_singleton payloads p ih =>
    obtain ⟨hel, hcan, hobd⟩ := ih fun q hq => h q (List.mem_append_left _ hq)
    rcases observeFrame_of_isVinResponse (d := observed payloads) (h p (by simp)) with
      ⟨hlt, he⟩ | ⟨h10, id, he⟩ | ⟨hgt, he⟩
    all_goals rw [← observed_concat] at he
    · refine ⟨by rw [he]; exact hel, ?_, ?_⟩
      · rw [List.forall_mem_append, ← hcan, he]
        exact ⟨fun hc => ⟨hc, by simp; omega⟩, And.left⟩
      · rw [he]
        exact ⟨fun _ => ⟨p, by simp, hlt⟩, fun _ => Nat.succ_pos _⟩
    · refine ⟨by rw [he]; exact hel, ?_, ?_⟩
      · constructor
        · intro hc
          have hid := hc id
          simp [he, feedCANFrame] at hid
        · intro hc
          exact absurd h10 (hc p (by simp))
      · rw [he]
        simp only [feedCANFrame, hobd, List.mem_append, List.mem_singleton, or_and_right,
          exists_or, exists_eq_left, h10, Nat.lt_irrefl, or_false]
    · refine ⟨by rw [he]; exact hel, ?_, ?_⟩
      · rw [List.forall_mem_append, ← hcan, he]
        exact ⟨fun hc => ⟨hc, by simp; omega⟩, And.left⟩
      · rw [he, hobd]
        simp only [List.mem_append, List.mem_singleton, or_and_right, exists_or, exists_eq_left,
          Nat.not_lt_of_gt hgt, or_false]

theorem queried_counts (payloads : List Bytes) :
    (queried payloads).isElectric = none ∧ (queried payloads).obd2ResponseCount = 0 ∧
      ∀ id, (queried payloads).canIdCounts id = 0 := by
  induction payloads using List.reverseRecOn with
  | nil => exact ⟨rfl, rfl, fun _ => rfl⟩
  | append_singleton payloads p ih =>
    rw [show queried (payloads ++ [p]) = ((queried payloads).feedVINResponse p).1 from
      List.foldl_concat _ _ _ _, feedVINResponse]
    split <;> exact ih

theorem vin_observed (payloads : List Bytes) :
    (observed payloads).vin = (payloads.flatMap vinPart).take 17 :=
  vin_foldl_observeFrame payloads {}

theorem vin_queried (h : ∀ p ∈ payloads, isVinResponse p = true) :
    (queried payloads).vin = (payloads.flatMap vinText).take 17 := by
  have hfold : (queried payloads).vin = (payloads.flatMap responseText).take 17 :=
    vin_foldl (fun _ => vin_feedVINResponse) payloads {}
  rw [hfold, List.flatMap_congr fun p hp => show responseText p = vinText p by
    rw [responseText, if_pos (h p hp)]]

/-- The paths agree at the end of a sequence: no CAN frame, one VIN, and no response has been
counted unless the manufacturer is known. -/
theorem pathsAgree_iff (h : ∀ p ∈ payloads, isVinResponse p = true) :
    PathsAgree payloads ↔ (∀ p ∈ payloads, p.length ≠ 10) ∧
      (payloads.flatMap vinPart).take 17 = (payloads.flatMap vinText).take 17 ∧
      ((∃ p ∈ payloads, p.length < 10) → 3 ≤ (payloads.flatMap vinText).length) := by
  obtain ⟨hel, hcan, hobd⟩ := observedCounts h
  obtain ⟨hel', hobd', hcan'⟩ := queried_counts payloads
  have hvin := vin_observed payloads
  have hvin' := vin_queried h
  have hlen := congrArg List.length hvin'
  rw [List.length_take] at hlen
  constructor
  · rintro ⟨hv, hm, -, hno⟩
    rw [vin_getResult, vin_getResult, hvin, hvin'] at hv
    refine ⟨hcan.mp hno, hv, ?_⟩
    intro hshort
    by_contra hlt
    have hq : (queried payloads).vin.length < 3 := by omega
    have ho : (observed payloads).vin.length < 3 := by rwa [hvin, hv, ← hvin']
    rw [(getResult_of_noCan ho hno).1, (getResult_of_noCan hq hcan').1, if_pos (hobd.mpr hshort),
      hobd'] at hm
    cases hm
  · rintro ⟨hno, hv, hshort⟩
    have heq : (observed payloads).vin = (queried payloads).vin := by rw [hvin, hv, hvin']
    by_cases h3 : 3 ≤ (queried payloads).vin.length
    · have hr := getResult_of_vin (d := observed payloads) (by rwa [heq])
      have hr' := getResult_of_vin h3
      rw [heq, hel] at hr
      rw [hel'] at hr'
      exact ⟨by simpa using heq, hr.1.trans hr'.1.symm, hr.2.trans hr'.2.symm, hcan.mpr hno⟩
    · have hnone : ¬ 0 < (observed payloads).obd2ResponseCount := fun hpos =>
        h3 (by have := hshort (hobd.mp hpos); omega)
      have hr := getResult_of_noCan (d := observed payloads) (by rw [heq]; omega) (hcan.mpr hno)
      have hr' := getResult_of_noCan (Nat.lt_of_not_le h3) hcan'
      rw [if_neg hnone, if_neg hnone] at hr
      rw [hobd', if_neg (Nat.lt_irrefl 0), if_neg (Nat.lt_irrefl 0)] at hr'
      exact ⟨by simpa using heq, hr.1.trans hr'.1.symm, hr.2.trans hr'.2.symm, hcan.mpr hno⟩

theorem take_eq_take_append_iff {u v : Bytes} {n : ℕ} :
    u.take n = (u ++ v).take n ↔ v = [] ∨ n ≤ u.length := by
  constructor
  · intro h
    by_contra! hne
    have hlen := congrArg List.length h
    have hpos := List.length_pos_iff.mpr hne.1
    simp only [List.length_take, List.length_append] at hlen
    omega
  · rintro (rfl | hn)
    · rw [List.append_nil]
    · rw [List.take_append_of_le_length hn]

/-- Where the paths agree, they agree behind the next response if that one is tolerable. -/
theorem pathsAgree_concat_iff {payload : Bytes}
    (h : ∀ p ∈ payloads ++ [payload], isVinResponse p = true) (hagree : PathsAgree payloads) :
    PathsAgree (payloads ++ [payload]) ↔ Tolerable payloads payload := by
  obtain ⟨hno, hv, hshort⟩ :=
    (pathsAgree_iff fun p hp => h p (List.mem_append_left _ hp)).mp hagree
  have hp := h payload (by simp)
  have hvins : ((payloads ++ [payload]).flatMap vinPart).take 17 =
      ((payloads ++ [payload]).flatMap vinText).take 17 ↔
        (10 ≤ payload.length → vinText payload = [] ∨ 17 ≤ (payloads.flatMap vinText).length) := by
    rw [List.flatMap_append, List.flatMap_append, List.flatMap_singleton, List.flatMap_singleton,
      ← take_append_take, hv, take_append_take, vinPart_of_isVinResponse hp]
    split
    · next hlt => exact iff_of_true rfl fun hge => absurd hge (by omega)
    · next hge =>
      rw [List.append_nil, take_eq_take_append_iff]
      exact ⟨fun hc _ => hc, fun hc => hc (by omega)⟩
  rw [pathsAgree_iff h, hvins]
  rw [List.forall_mem_append, List.forall_mem_singleton]
  simp only [List.mem_append, List.mem_singleton, or_and_right, exists_or, exists_eq_left,
    List.flatMap_append, List.flatMap_singleton]
  constructor
  · rintro ⟨⟨-, hne⟩, hlong, h3⟩
    exact ⟨hne, fun hgt => hlong hgt.le, fun hlt => h3 (Or.inr hlt)⟩
  · rintro ⟨hne, hlong, h3⟩
    refine ⟨⟨hno, hne⟩, fun hge => hlong (by omega), ?_⟩
    rintro (hold | hlt)
    · exact (hshort hold).trans (by simp)
    · exact h3 hlt

/-- After each of a sequence of VIN responses both paths have the same result exactly if
every response was tolerable behind those before it. -/
theorem pathsAgree_iff_tolerable (h : ∀ p ∈ payloads, isVinResponse p = true) :
    (∀ sent, sent <+: payloads → PathsAgree sent) ↔ EverySplit Tolerable payloads := by
  apply forall_prefix_iff_everySplit
  · exact ⟨rfl, rfl, rfl, fun _ => rfl⟩
  · rintro sent payload hpre hagree
    exact pathsAgree_concat_iff (fun p hp => h p (hpre.subset hp)) hagree

/-- Two responses of nine bytes that bring six characters each are kept on both paths. -/
theorem pathsAgree_iff_tolerable_short :
    PathsAgree [[0x49, 0x02, 0x01] ++ ascii "WAUZZZ"] ∧
      PathsAgree [[0x49, 0x02, 0x01] ++ ascii "WAUZZZ", [0x49, 0x02, 0x01] ++ ascii "8V5KA0"] := by
  have hagree : ∀ sent,
      sent <+: [[0x49, 0x02, 0x01] ++ ascii "WAUZZZ", [0x49, 0x02, 0x01] ++ ascii "8V5KA0"] →
        PathsAgree sent := by
    refine (pathsAgree_iff_tolerable (by decide)).mpr (everySplit_cons.mpr ⟨?_, ?_⟩)
    · exact ⟨by decide, fun h => absurd h (by decide), fun _ => by decide⟩
    · exact everySplit_cons.mpr
        ⟨⟨by decide, fun h => absurd h (by decide), fun _ => by decide⟩, everySplit_nil _⟩
  exact ⟨hagree _ ⟨_, rfl⟩, hagree _ (List.prefix_refl _)⟩

/-- The answer of twenty bytes with the whole VIN is lost on the live path, and one of ten
bytes is counted as a CAN frame there. -/
theorem wholeVin_disagrees :
    isVinResponse ([0x49, 0x02, 0x01] ++ ascii "5YJ3E1EA1NF123456") = true ∧
      (observed [[0x49, 0x02, 0x01] ++ ascii "5YJ3E1EA1NF123456"]).getResult.vin = [] ∧
      (queried [[0x49, 0x02, 0x01] ++ ascii "5YJ3E1EA1NF123456"]).getResult.vin =
        ascii "5YJ3E1EA1NF123456" ∧
      ¬ PathsAgree [[0x49, 0x02, 0x01] ++ ascii "5YJ3E1EA1NF123456"] ∧
      isVinResponse ([0x49, 0x02, 0x01] ++ ascii "5YJ3E1E") = true ∧
      (observed [[0x49, 0x02, 0x01] ++ ascii "5YJ3E1E"]).canIdCounts 0x249 = 1 := by
  have hlive : (observed [[0x49, 0x02, 0x01] ++ ascii "5YJ3E1EA1NF123456"]).getResult.vin = [] := by
    rw [vin_getResult]
    decide
  have hquery : (queried [[0x49, 0x02, 0x01] ++ ascii "5YJ3E1EA1NF123456"]).getResult.vin =
      ascii "5YJ3E1EA1NF123456" := by
    rw [vin_getResult]
    decide
  refine ⟨by decide, hlive, hquery, ?_, by decide, by decide⟩
  intro hagree
  have hv := hagree.vin
  rw [hlive, hquery] at hv
  exact absurd hv (by decide)

end Run

end VehicleDetector

end VehicleSpy.Ble
