import VehicleSpy.Dbc.Attribution
import VehicleSpy.Dbc.TranslationService

/-! # What a failed load leaves behind

A load that fails after parsing has already replaced the parse result that the installed
translator points into. Frames are decoded as before exactly if the load failed earlier
than that, or if no pointer of the translator was left to lose.
-/

namespace VehicleSpy.Dbc

open Text Machine DBCFileParser VehicleSignalFactory

variable {D : Type} {stod : Bytes → Option D}

section CanIds

theorem parseBoLine_lt {line : Bytes} {v : ℕ} (h : parseBoLine line = some v) : v < 2 ^ 16 := by
  obtain ⟨⟨p, s⟩, -, hs⟩ := Option.bind_eq_some_iff.mp h
  exact fromChars_lt hs

theorem lastReadable_lt (above : List Bytes) : lastReadable above < 2 ^ 16 := by
  induction above using List.reverseRecOn with
  | nil => decide
  | append_singleton above line ih =>
    rw [lastReadable_concat]
    split
    · cases h : parseBoLine line with
      | none => exact ih
      | some v => exact parseBoLine_lt h
    · exact ih

theorem mem_addSignal {result : DBCParseResult D} {sig : DBCSignalDefinition D}
    {m : ℕ × List (DBCSignalDefinition D)} (h : m ∈ addSignal result sig) :
    m.1 = sig.canId ∨ m.1 ∈ result.map Prod.fst := by
  induction result with
  | nil =>
    rw [addSignal, List.mem_singleton] at h
    exact Or.inl (h ▸ rfl)
  | cons e result ih =>
    obtain ⟨canId, defs⟩ := e
    rw [addSignal] at h
    split at h
    · rcases List.mem_cons.mp h with rfl | h
      · exact Or.inr List.mem_cons_self
      · exact Or.inr (List.mem_cons_of_mem _ (List.mem_map_of_mem h))
    · rcases List.mem_cons.mp h with rfl | h
      · exact Or.inr List.mem_cons_self
      · exact (ih h).imp id (List.mem_cons_of_mem _)

theorem mem_foldl_addSignal {signals : List (DBCSignalDefinition D)} {result : DBCParseResult D}
    {m : ℕ × List (DBCSignalDefinition D)} (h : m ∈ signals.foldl addSignal result) :
    (∃ sig ∈ signals, m.1 = sig.canId) ∨ m.1 ∈ result.map Prod.fst := by
  induction signals generalizing result with
  | nil => exact Or.inr (List.mem_map_of_mem h)
  | cons sig signals ih =>
    rcases ih h with ⟨sig', hs, hm⟩ | hm
    · exact Or.inl ⟨sig', List.mem_cons_of_mem _ hs, hm⟩
    · obtain ⟨m', hm', he⟩ := List.mem_map.mp hm
      rcases mem_addSignal hm' with hm' | hm'
      · exact Or.inl ⟨sig, List.mem_cons_self, he ▸ hm'⟩
      · exact Or.inr (he ▸ hm')

/-- Every message of a parse result has a 16-bit id. -/
theorem canId_lt_of_mem_parseString {text : Bytes} {m : ℕ × List (DBCSignalDefinition D)}
    (h : m ∈ parseString stod text) : m.1 < 2 ^ 16 := by
  by_cases ht : throwingLines stod text = []
  · obtain ⟨st, hst, hsc⟩ := foldlM_scanned ht
    rw [parseString, hst] at h
    rcases mem_foldl_addSignal h with ⟨sig, hs, hm⟩ | hm
    · have hplain := List.mem_map_of_mem (f := DBCSignalDefinition.plain) hs
      rw [map_plain_applyValueTables, hsc.signals] at hplain
      obtain ⟨sig', hs', he⟩ := List.mem_map.mp hplain
      obtain ⟨above, line, -, -, hc⟩ := mem_alongPrefixes.mp hs'
      have hid : sig'.plain.canId = sig.plain.canId := by rw [he]
      change sig'.canId = sig.canId at hid
      unfold contribution at hc
      split at hc
      · cases hc
      · rw [hm, ← hid, (signalUnder_fields hc).1]
        exact lastReadable_lt _
    · cases hm
  · rw [parseString, foldlM_thrown ht] at h
    cases h

theorem canId_lt_of_mem_parseFile {files : Files} {path : Bytes}
    {m : ℕ × List (DBCSignalDefinition D)}
    (h : m ∈ DBCTranslationService.parseFile stod files path) : m.1 < 2 ^ 16 := by
  unfold DBCTranslationService.parseFile at h
  split at h
  · exact canId_lt_of_mem_parseString h
  · cases h

end CanIds

section Pointers

variable {o o' : ParseResultObject D}

theorem locateSignal_spec {name : Bytes} {canId : ℕ} {p : DefPtr}
    (h : locateSignal o name = some (canId, p)) :
    p.generation = o.generation ∧ (∃ m ∈ o.content, m.1 = canId) ∧
      ∃ definition, o.deref p = .ok definition := by
  obtain ⟨entry, -, h⟩ := Option.bind_eq_some_iff.mp h
  obtain ⟨m, hm, h⟩ := Option.bind_eq_some_iff.mp h
  obtain ⟨index, hi, h⟩ := Option.bind_eq_some_iff.mp h
  obtain ⟨rfl, rfl⟩ := Prod.mk.inj (Option.some.inj h)
  obtain ⟨hlt, -⟩ := List.findIdx?_eq_some_iff_getElem.mp hi
  refine ⟨rfl, ⟨m, List.mem_of_getElem? hm, rfl⟩, m.2[index], ?_⟩
  simp [ParseResultObject.deref, hm, List.getElem?_eq_getElem hlt]

theorem resolveMapping_spec {mapping : Bytes × Bytes} {p : DefPtr}
    (h : (resolveMapping o mapping).defn = some p) :
    p.generation = o.generation ∧ (∃ m ∈ o.content, m.1 = (resolveMapping o mapping).canId) ∧
      ∃ definition, o.deref p = .ok definition := by
  unfold resolveMapping at h ⊢
  split at h
  · cases h
  · split at h
    · next hl =>
      obtain rfl := Option.some.inj h
      exact locateSignal_spec hl
    · cases h

theorem deref_of_generation_ne {p : DefPtr}
    (h : p.generation ≠ o.generation) : o.deref p = .error .danglingPointer := by
  rw [ParseResultObject.deref, if_neg h]

/-- The pointers of a translator come from one content; while that is in place, they resolve. -/
def PointersFrom (o : ParseResultObject D) (t : DBCSignalTranslator) : Prop :=
  ∃ g ≤ o.generation, ∀ f ∈ t.resolved, ∀ p, f.defn = some p → p.generation = g ∧
    (g = o.generation → f.canId < 2 ^ 16 ∧ ∃ definition, o.deref p = .ok definition)

theorem pointersFrom_create {o : ParseResultObject D} (config : VehicleConfig)
    (h : ∀ m ∈ o.content, m.1 < 2 ^ 16) : PointersFrom o (.create config o) := by
  refine ⟨o.generation, le_rfl, ?_⟩
  intro f hf p hp
  obtain ⟨mapping, -, rfl⟩ := List.mem_map.mp hf
  obtain ⟨hg, ⟨m, hm, hid⟩, hd⟩ := resolveMapping_spec hp
  exact ⟨hg, fun _ => ⟨hid ▸ h m hm, hd⟩⟩

theorem PointersFrom.assign {o : ParseResultObject D} {t : DBCSignalTranslator}
    (h : PointersFrom o t) (content : DBCParseResult D) : PointersFrom (o.assign content) t := by
  obtain ⟨g, hg, hf⟩ := h
  refine ⟨g, Nat.le_succ_of_le hg, ?_⟩
  intro f hm p hp
  constructor
  · exact (hf f hm p hp).1
  · intro he
    simp only [ParseResultObject.assign] at he
    omega

variable [Double D] {resolved : List ResolvedField} {frames : ℕ → Option Bytes} {ts : ℕ}

/-- A build whose pointers all resolve is defined. -/
theorem build_ok (h : ∀ f ∈ resolved, ∀ p, f.defn = some p → ∃ d, o.deref p = .ok d) :
    ∃ signal, build o resolved frames ts = .ok signal := by
  have hfold (out : Outputs D) : ∃ out', resolved.foldlM (buildField o frames) out = .ok out' := by
    induction resolved generalizing out with
    | nil => exact ⟨out, rfl⟩
    | cons f resolved ih =>
      obtain ⟨out₁, hout⟩ : ∃ out₁, buildField o frames out f = .ok out₁ := by
        unfold buildField
        split
        · exact ⟨out, rfl⟩
        · next p hp =>
          split
          · exact ⟨out, rfl⟩
          · obtain ⟨d, hd⟩ := h f List.mem_cons_self p hp
            rw [hd]
            exact ⟨_, rfl⟩
      obtain ⟨out', hout'⟩ := ih (fun g hg => h g (List.mem_cons_of_mem _ hg)) out₁
      exact ⟨out', by rw [List.foldlM_cons, hout]; exact hout'⟩
  obtain ⟨out, hout⟩ := hfold {}
  exact ⟨out.toSignal ts, by rw [build, hout]; rfl⟩

/-- A field that was not located, or whose frame was not seen, is passed over. -/
theorem buildField_skip {f : ResolvedField} (h : ¬ (f.defn ≠ none ∧ frames f.canId ≠ none))
    (o : ParseResultObject D) (out : Outputs D) : buildField o frames out f = .ok out := by
  unfold buildField
  split
  · rfl
  · next p hp =>
    have hframe : frames f.canId = none := by
      by_contra hne
      exact h ⟨by simp [hp], hne⟩
    rw [hframe]

/-- A build that reaches a dangling pointer is undefined. -/
theorem build_dangling
    (h : ∀ f ∈ resolved, ∀ p, f.defn = some p → o.deref p = .error .danglingPointer)
    (hr : ∃ f ∈ resolved, f.defn ≠ none ∧ frames f.canId ≠ none) :
    build o resolved frames ts = .error .danglingPointer := by
  have hfold (out : Outputs D) :
      resolved.foldlM (buildField o frames) out = .error .danglingPointer := by
    induction resolved generalizing out with
    | nil => obtain ⟨f, hf, -⟩ := hr; cases hf
    | cons f resolved ih =>
      rw [List.foldlM_cons]
      by_cases hit : f.defn ≠ none ∧ frames f.canId ≠ none
      · obtain ⟨p, hp⟩ := Option.ne_none_iff_exists'.mp hit.1
        obtain ⟨frame, hframe⟩ := Option.ne_none_iff_exists'.mp hit.2
        simp only [buildField, hp, hframe, h f List.mem_cons_self p hp]
        rfl
      · rw [buildField_skip hit]
        apply ih
        · exact fun g hg => h g (List.mem_cons_of_mem _ hg)
        · obtain ⟨g, hg, hgr⟩ := hr
          rcases List.mem_cons.mp hg with rfl | hg
          · exact absurd hgr hit
          · exact ⟨g, hg, hgr⟩
  rw [build, hfold]
  rfl

/-- Builds that follow no pointer, or only dangling ones, do not depend on the object. -/
theorem build_congr (h : ∀ f ∈ resolved, ∀ p, f.defn = some p →
    o.deref p = .error .danglingPointer ∧ o'.deref p = .error .danglingPointer) :
    build o resolved frames ts = build o' resolved frames ts := by
  by_cases hr : ∃ f ∈ resolved, f.defn ≠ none ∧ frames f.canId ≠ none
  · rw [build_dangling (fun f hf p hp => (h f hf p hp).1) hr,
      build_dangling (fun f hf p hp => (h f hf p hp).2) hr]
  · have hfold (o : ParseResultObject D) (l : List ResolvedField) (hl : l ⊆ resolved)
        (out : Outputs D) : l.foldlM (buildField o frames) out = .ok out := by
      induction l generalizing out with
      | nil => rfl
      | cons f l ih =>
        rw [List.foldlM_cons, buildField_skip fun hf => hr ⟨f, hl List.mem_cons_self, hf⟩]
        exact ih (fun g hg => hl (List.mem_cons_of_mem _ hg)) out
    rw [build, build, hfold o _ (List.Subset.refl _), hfold o' _ (List.Subset.refl _)]

end Pointers

section Service

/-- A load call with a vehicle that is not registered. -/
def ServiceCall.UnknownVehicle (registry : VehicleConfigRegistry) : ServiceCall → Prop
  | .loadVehicle vehicleId _ _ => registry.getConfig vehicleId = none
  | .loadVehicleWithContent vehicleId _ _ => registry.getConfig vehicleId = none
  | .loadVehicleFromPath vehicleId _ _ _ => registry.getConfig vehicleId = none
  | .processFrame _ => False

namespace DBCTranslationService

variable [Double D] {s s' : DBCTranslationService D}

def frameStep (s : DBCTranslationService D) (packet : Packet) :
    DBCTranslationService D × List (Except Undefined (Option (VehicleSignal D))) :=
  ((s.processFrame packet).1, [(s.processFrame packet).2])

/-- After any frames, the getters and the decoded signals of two services agree. -/
def SameBehaviour (s s' : DBCTranslationService D) : Prop :=
  ∀ packets : List Packet,
    (after frameStep s packets).loaded = (after frameStep s' packets).loaded ∧
    (after frameStep s packets).vehicleId = (after frameStep s' packets).vehicleId ∧
    (after frameStep s packets).protocol = (after frameStep s' packets).protocol ∧
    emitted frameStep s packets = emitted frameStep s' packets

/-- The installed translator has a pointer into the present content of the parse result. -/
def HoldsPointers (s : DBCTranslationService D) : Prop :=
  ∃ t, s.translator = some (.dbc t) ∧
    ∃ f ∈ t.resolved, ∃ p, f.defn = some p ∧ p.generation = s.parseResult.generation

/-- Two services decode alike from here on. -/
structure SameDecoder (s s' : DBCTranslationService D) : Prop where
  loaded : s.loaded = s'.loaded
  vehicleId : s.vehicleId = s'.vehicleId
  protocol : s.protocol = s'.protocol
  translator : s.translator = s'.translator
  build : ∀ t, s.translator = some (.dbc t) → ∀ frames ts,
    build s.parseResult t.resolved frames ts = build s'.parseResult t.resolved frames ts

theorem SameDecoder.frameStep (h : SameDecoder s s') (packet : Packet) :
    SameDecoder (s.frameStep packet).1 (s'.frameStep packet).1 ∧
      (s.frameStep packet).2 = (s'.frameStep packet).2 := by
  obtain ⟨hl, hv, hp, ht, hb⟩ := h
  simp only [DBCTranslationService.frameStep, processFrame, ← hl, ← ht]
  cases hload : s.loaded with
  | false => exact ⟨⟨hl, hv, hp, ht, hb⟩, rfl⟩
  | true =>
    cases htr : s.translator with
    | none => exact ⟨⟨hl, hv, hp, ht, hb⟩, rfl⟩
    | some t =>
      cases t with
      | obd2 t => exact ⟨⟨rfl, hv, hp, rfl, by rintro _ ⟨⟩⟩, rfl⟩
      | dbc t =>
        have hb' := hb t htr
        simp only [if_true, SignalTranslator.translate,
          ← DBCSignalTranslator.translate_congr hb' packet]
        refine ⟨⟨rfl, hv, hp, rfl, ?_⟩, trivial⟩
        rintro t' ⟨⟩
        rw [DBCSignalTranslator.resolved_translate]
        exact hb'

theorem SameDecoder.sameBehaviour (h : SameDecoder s s') : SameBehaviour s s' := by
  intro packets
  obtain ⟨hd, he⟩ := bisimulation DBCTranslationService.frameStep (R := SameDecoder)
    (fun _ _ packet h => SameDecoder.frameStep h packet) h packets
  exact ⟨hd.loaded, hd.vehicleId, hd.protocol, he⟩

/-- The outcomes of a load. -/
inductive LoadOutcome (s : DBCTranslationService D) (vehicleId : Bytes)
    (parse : VehicleConfig → DBCParseResult D) : DBCTranslationService D × Bool → Prop
  | unknown (l : DBCLoadFailure) (h : s.registry.getConfig vehicleId = none) :
      LoadOutcome s vehicleId parse ({ s with lastFailure := l }, false)
  | empty (l : DBCLoadFailure) (h : s.registry.getConfig vehicleId ≠ none) :
      LoadOutcome s vehicleId parse
        ({ s with parseResult := s.parseResult.assign [], lastFailure := l }, false)
  | can (l : DBCLoadFailure) (config : VehicleConfig) :
      LoadOutcome s vehicleId parse
        ({ s with
            parseResult := s.parseResult.assign (parse config)
            translator := some (.dbc (.create config (s.parseResult.assign (parse config))))
            protocol := .CAN
            loaded := true
            vehicleId := vehicleId
            lastFailure := l }, true)
  | other (l : DBCLoadFailure) (t : Option (SignalTranslator D)) (p : VehicleProtocol)
      (ht : ∀ d, t ≠ some (.dbc d)) :
      LoadOutcome s vehicleId parse
        ({ s with
            translator := t
            protocol := p
            loaded := true
            vehicleId := vehicleId
            lastFailure := l }, true)

theorem load_outcome (s : DBCTranslationService D) (vehicleId : Bytes) (protocol : VehicleProtocol)
    (parse : VehicleConfig → DBCParseResult D) (failure : VehicleConfig → DBCLoadFailure) :
    LoadOutcome s vehicleId parse (s.load vehicleId protocol parse failure) := by
  simp only [load]
  split
  · cases hc : s.registry.getConfig vehicleId with
    | none => exact .unknown _ hc
    | some config =>
      by_cases hp : parse config = []
      · have hknown : s.registry.getConfig vehicleId ≠ none := by simp [hc]
        simpa [hp, ParseResultObject.assign] using
          (LoadOutcome.empty _ hknown : LoadOutcome s vehicleId parse _)
      · simp only [ParseResultObject.assign, hp, if_false]
        exact .can _ config
  · split
    · exact .other _ _ _ (by rintro d ⟨⟩)
    · exact .other _ _ _ (by rintro d ⟨⟩)

structure Reachable (registry : VehicleConfigRegistry) (s : DBCTranslationService D) : Prop where
  registry : s.registry = registry
  installed : s.translator ≠ none → s.loaded = true
  pointers : ∀ t, s.translator = some (.dbc t) → PointersFrom s.parseResult t

variable {registry : VehicleConfigRegistry}

theorem Reachable.load (h : Reachable registry s) {vehicleId : Bytes} {protocol : VehicleProtocol}
    {parse : VehicleConfig → DBCParseResult D} {failure : VehicleConfig → DBCLoadFailure}
    (hp : ∀ config, ∀ m ∈ parse config, m.1 < 2 ^ 16) :
    Reachable registry (s.load vehicleId protocol parse failure).1 := by
  obtain ⟨hr, hi, ht⟩ := h
  have ho := load_outcome s vehicleId protocol parse failure
  generalize s.load vehicleId protocol parse failure = r at ho ⊢
  cases ho with
  | unknown l _ => exact ⟨hr, hi, ht⟩
  | empty l _ => exact ⟨hr, hi, fun t h => (ht t h).assign []⟩
  | can l config =>
    constructor
    · exact hr
    · exact fun _ => rfl
    · rintro t ⟨⟩
      exact pointersFrom_create config (hp config)
  | other l t p hd => exact ⟨hr, fun _ => rfl, fun d h => absurd h (hd d)⟩

theorem Reachable.processFrame (h : Reachable registry s) (packet : Packet) :
    Reachable registry (s.processFrame packet).1 := by
  unfold DBCTranslationService.processFrame
  split
  · next hl =>
    split
    · next t ht =>
      constructor
      · exact h.registry
      · exact fun _ => hl
      · intro d hd
        cases t with
        | obd2 t => cases hd
        | dbc t =>
          obtain rfl : (t.translate s.parseResult packet).1 = d := by cases hd; rfl
          rw [PointersFrom, DBCSignalTranslator.resolved_translate]
          exact h.pointers t ht
    · exact h
  · exact h

theorem reachable_after (registry : VehicleConfigRegistry) (w : List ServiceCall) :
    Reachable registry (after (step stod) (create registry) w) := by
  apply after_invariant (step stod)
  · constructor
    · rfl
    · exact fun h => absurd rfl h
    · rintro t ⟨⟩
  · intro s call h
    cases call with
    | loadVehicle vehicleId protocol files => exact h.load fun _ _ => canId_lt_of_mem_parseFile
    | loadVehicleWithContent vehicleId protocol content =>
      exact h.load fun _ _ => canId_lt_of_mem_parseString
    | loadVehicleFromPath vehicleId protocol path files =>
      exact h.load fun _ _ => canId_lt_of_mem_parseFile
    | processFrame packet => exact h.processFrame packet

section Failure

variable {l : DBCLoadFailure}

theorem load_failed {vehicleId : Bytes} {protocol : VehicleProtocol}
    {parse : VehicleConfig → DBCParseResult D} {failure : VehicleConfig → DBCLoadFailure}
    (h : (s.load vehicleId protocol parse failure).2 = false) :
    (s.registry.getConfig vehicleId = none ∧
      ∃ l, (s.load vehicleId protocol parse failure).1 = { s with lastFailure := l }) ∨
    (s.registry.getConfig vehicleId ≠ none ∧
      ∃ l, (s.load vehicleId protocol parse failure).1 =
        { s with parseResult := s.parseResult.assign [], lastFailure := l }) := by
  have ho := load_outcome s vehicleId protocol parse failure
  generalize s.load vehicleId protocol parse failure = r at ho h ⊢
  cases ho with
  | unknown l hc => exact Or.inl ⟨hc, l, rfl⟩
  | empty l hc => exact Or.inr ⟨hc, l, rfl⟩
  | can l config => cases h
  | other l t p ht => cases h

/-- A failing call either changes the record of failures only, or also empties the parse result. -/
theorem failed_step (hs : s.registry = registry) {call : ServiceCall}
    (h : (step stod s call).2 = [.load false]) :
    (call.UnknownVehicle registry ∧ ∃ l, (step stod s call).1 = { s with lastFailure := l }) ∨
    (¬ call.UnknownVehicle registry ∧ ∃ l, (step stod s call).1 =
      { s with parseResult := s.parseResult.assign [], lastFailure := l }) := by
  have hload {r : DBCTranslationService D × Bool}
      (hr : [(.load r.2 : ServiceResult D)] = [.load false]) : r.2 = false := by
    cases hr2 : r.2 with
    | false => rfl
    | true => simp [hr2] at hr
  subst hs
  cases call with
  | loadVehicle vehicleId protocol files => exact load_failed (hload h)
  | loadVehicleWithContent vehicleId protocol content => exact load_failed (hload h)
  | loadVehicleFromPath vehicleId protocol path files => exact load_failed (hload h)
  | processFrame packet => cases h

theorem sameDecoder_lastFailure (s : DBCTranslationService D) (l : DBCLoadFailure) :
    SameDecoder s { s with lastFailure := l } :=
  ⟨rfl, rfl, rfl, rfl, fun _ _ _ _ => rfl⟩

theorem sameDecoder_assign (hs : Reachable registry s) (h : ¬ HoldsPointers s) :
    SameDecoder s { s with parseResult := s.parseResult.assign [], lastFailure := l } := by
  refine ⟨rfl, rfl, rfl, rfl, ?_⟩
  intro t ht frames ts
  apply build_congr
  intro f hf p hp
  obtain ⟨g, hg, hptr⟩ := hs.pointers t ht
  have hgen : p.generation = g := (hptr f hf p hp).1
  have hne : p.generation ≠ s.parseResult.generation := fun he => h ⟨t, ht, f, hf, p, hp, he⟩
  constructor
  · exact deref_of_generation_ne hne
  · apply deref_of_generation_ne
    simp only [ParseResultObject.assign]
    omega

/-- A frame of a message, with all data bytes zero. -/
def zeroFrame (canId : ℕ) : Packet :=
  ⟨[(canId % 256).toUInt8, (canId / 256).toUInt8, 0, 0, 0, 0, 0, 0, 0, 0], some 0, 0⟩

theorem extractCANId_zeroFrame {canId : ℕ} (h : canId < 2 ^ 16) :
    DBCSignalTranslator.extractCANId (zeroFrame canId).rawData = canId := by
  have hlo : (canId % 256).toUInt8.toNat = canId % 256 := by simp
  have hhi : (canId / 256).toUInt8.toNat = canId / 256 := by
    simp
    omega
  rw [zeroFrame, DBCSignalTranslator.extractCANId, hlo, hhi, Nat.or_comm,
    ← Nat.shiftLeft_add_eq_or_of_lt (Nat.mod_lt _ (by decide : 0 < 2 ^ 8)), Nat.shiftLeft_eq]
  omega

theorem processFrame_dbc {t : DBCSignalTranslator} (hl : s.loaded = true)
    (ht : s.translator = some (.dbc t)) (packet : Packet) :
    (s.processFrame packet).2 = (t.translate s.parseResult packet).2 := by
  simp [processFrame, hl, ht, SignalTranslator.translate]

/-- A frame that the translator decoded before makes it read through a dangling pointer. -/
theorem not_sameBehaviour_of_holdsPointers (hs : Reachable registry s) (h : HoldsPointers s) :
    ¬ SameBehaviour s { s with parseResult := s.parseResult.assign [], lastFailure := l } := by
  obtain ⟨t, ht, f, hf, p, hp, hgen⟩ := h
  obtain ⟨g, hg, hptr⟩ := hs.pointers t ht
  obtain rfl : p.generation = g := (hptr f hf p hp).1
  have hlive : ∀ f' ∈ t.resolved, ∀ q, f'.defn = some q → ∃ d, s.parseResult.deref q = .ok d :=
    fun f' hf' q hq => ((hptr f' hf' q hq).2 hgen).2
  have hid : f.canId < 2 ^ 16 := ((hptr f hf p hp).2 hgen).1
  have hdead : ∀ f' ∈ t.resolved, ∀ q, f'.defn = some q →
      (s.parseResult.assign []).deref q = .error .danglingPointer := by
    intro f' hf' q hq
    apply deref_of_generation_ne
    rw [(hptr f' hf' q hq).1, hgen]
    exact Nat.ne_of_lt (Nat.lt_succ_self _)
  have hload : s.loaded = true := hs.installed (by simp [ht])
  intro hsame
  have hframe := (hsame [zeroFrame f.canId]).2.2.2
  simp only [emitted_cons, emitted_nil, frameStep, List.append_nil, List.cons.injEq, and_true]
    at hframe
  have hafter := processFrame_dbc
    (s := { s with parseResult := s.parseResult.assign [], lastFailure := l }) hload ht
    (zeroFrame f.canId)
  rw [processFrame_dbc hload ht, hafter] at hframe
  have hvalid : DBCSignalTranslator.isValidPacket (zeroFrame f.canId).rawData = true := rfl
  simp only [DBCSignalTranslator.translate, hvalid, if_true, DBCSignalTranslator.accumulate]
    at hframe
  obtain ⟨signal, hok⟩ := build_ok hlive
  rw [hok, build_dangling hdead ⟨f, hf, by simp [hp], by simp [extractCANId_zeroFrame hid]⟩]
    at hframe
  cases hframe

/-- A failing call is harmless exactly if it names an unknown vehicle, or finds no translator
with pointers into the parse result. -/
theorem sameBehaviour_failed_iff (registry : VehicleConfigRegistry) (w : List ServiceCall)
    (call : ServiceCall)
    (h : (step stod (after (step stod) (create registry) w) call).2 = [.load false]) :
    SameBehaviour (after (step stod) (create registry) w)
        (step stod (after (step stod) (create registry) w) call).1 ↔
      call.UnknownVehicle registry ∨ ¬ HoldsPointers (after (step stod) (create registry) w) := by
  have hs : Reachable registry (after (step stod) (create registry) w) := reachable_after registry w
  rcases failed_step hs.registry h with ⟨hu, l, he⟩ | ⟨hu, l, he⟩
  · rw [he]
    exact iff_of_true (sameDecoder_lastFailure _ l).sameBehaviour (Or.inl hu)
  · rw [he]
    constructor
    · intro hb
      exact Or.inr fun hp => not_sameBehaviour_of_holdsPointers hs hp hb
    · rintro (hu' | hp)
      · exact absurd hu' hu
      · exact (sameDecoder_assign hs hp).sameBehaviour

def wholeNumbers (s : Bytes) : Option ℚ := (fromCharsSigned 64 s).map fun n => n

def oneSignal : Bytes × VehicleConfig :=
  (ascii "car", ⟨ascii "car.dbc", [(ascii "SPEED", ascii "speedKmh")], true⟩)

def loadCar : ServiceCall :=
  .loadVehicleWithContent (ascii "car") .CAN
    (ascii "BO_ 264 A: 8 X\n SG_ SPEED : 0|8@1+ (1,0) [0|255] \"\" X\n")

/-- An OBD2 decoder survives a load of a DBC text without signals. -/
theorem sameBehaviour_obd2 :
    SameBehaviour (D := ℚ)
      (after (step wholeNumbers) (create [oneSignal]) [.loadVehicleWithContent [] .OBD2 []])
      (step wholeNumbers
        (after (step wholeNumbers) (create [oneSignal]) [.loadVehicleWithContent [] .OBD2 []])
        (.loadVehicleWithContent (ascii "car") .CAN [])).1 := by
  refine (sameBehaviour_failed_iff [oneSignal] _ _ rfl).mpr (Or.inr ?_)
  rintro ⟨t, ht, -⟩
  cases ht

/-- A CAN decoder does not. -/
theorem not_sameBehaviour_can :
    (step wholeNumbers (after (step wholeNumbers) (create [oneSignal]) [loadCar])
        (.loadVehicleWithContent (ascii "car") .CAN [])).2 = [.load false] ∧
      ¬ SameBehaviour (D := ℚ) (after (step wholeNumbers) (create [oneSignal]) [loadCar])
        (step wholeNumbers (after (step wholeNumbers) (create [oneSignal]) [loadCar])
          (.loadVehicleWithContent (ascii "car") .CAN [])).1 := by
  have hok : (emitted frameStep (after (step wholeNumbers) (create [oneSignal]) [loadCar])
      [zeroFrame 264]).all Except.isOk = true := by decide +kernel
  have hbad : (emitted frameStep
      (step wholeNumbers (after (step wholeNumbers) (create [oneSignal]) [loadCar])
        (.loadVehicleWithContent (ascii "car") .CAN [])).1
      [zeroFrame 264]).all Except.isOk = false := by decide +kernel
  constructor
  · rfl
  intro h
  apply Bool.false_ne_true
  rw [← hok, ← hbad, (h [zeroFrame 264]).2.2.2]

end Failure

end DBCTranslationService

end Service

end VehicleSpy.Dbc
