import VehicleSpy.Dbc.SignalTranslator

/-! # What the DBC translator computes

Each field of a vehicle signal is the decoding of the last payload of the CAN id that
carries the signal mapped to it. The factory's resolved pointers, slots and buffers give
that signal, and so does the scan over all mappings, frames and definitions.
-/

namespace VehicleSpy.Dbc

open Text VehicleSignalFactory

/-- The names of the fields that a mapping can target. -/
def vehicleFields : List Bytes :=
  [ascii "throttlePercent", ascii "speedKmh", ascii "accelerationG", ascii "brakePercent",
    ascii "steeringAngleDeg", ascii "motorRpm", ascii "motorHvVoltage", ascii "motorHvCurrent",
    ascii "motorTorqueNm", ascii "gearSelector", ascii "brakeLight"]

variable {D : Type}

/-- The definition of a name under one id: the first one there. -/
def definitionUnder (content : DBCParseResult D) (canId : ℕ) (name : Bytes) :
    Option (DBCSignalDefinition D) :=
  (signalsFor content canId).bind (·.find? (·.name = name))

/-- The definition of a name with the id that carries it. -/
def definitionOf (content : DBCParseResult D) (name : Bytes) :
    Option (ℕ × DBCSignalDefinition D) :=
  content.findSome? fun message => (message.2.find? (·.name = name)).map (message.1, ·)

/-- Ids are keys, a mapped name occurs in one message at most, and a field is the target of one
mapping at most. -/
structure Unambiguous (config : VehicleConfig) (content : DBCParseResult D) : Prop where
  ids : (content.map Prod.fst).Nodup
  names : ∀ mapping ∈ config.signalMappings, ∀ m ∈ content, ∀ m' ∈ content,
    (∃ d ∈ m.2, d.name = mapping.1) → (∃ d ∈ m'.2, d.name = mapping.1) → m = m'
  fields : ∀ f ∈ vehicleFields, (config.signalMappings.filter (·.2 = f)).length ≤ 1

namespace DBCSignalMapper

/-- `mapSignal` by name, in the definitions of one id. -/
def mapSignalNamed [Double D] (frame : Bytes) (canId : ℕ) (signalName : Bytes)
    (definitions : DBCParseResult D) : Option D :=
  (definitionUnder definitions canId signalName).bind fun d => mapSignal frame d

end DBCSignalMapper

/-- The signal of a field per decoder: numbers by name, the gear, the brake light. -/
def signalOf (numeric : Bytes → Option D) (gear : Option ℤ) (brakeLight : Option Bool)
    (timestampUtcMs : ℕ) : VehicleSignal D where
  timestampUtcMs := timestampUtcMs
  throttlePercent := numeric (ascii "throttlePercent")
  speedKmh := numeric (ascii "speedKmh")
  accelerationG := numeric (ascii "accelerationG")
  brakePercent := numeric (ascii "brakePercent")
  brakeLight := brakeLight
  steeringAngleDeg := numeric (ascii "steeringAngleDeg")
  motorRpm := numeric (ascii "motorRpm")
  motorHvVoltage := numeric (ascii "motorHvVoltage")
  motorHvCurrent := numeric (ascii "motorHvCurrent")
  motorTorqueNm := numeric (ascii "motorTorqueNm")
  gearSelector := gear

section Decoders

variable [Double D] (content : DBCParseResult D)

def decodeNumeric (frame : Bytes) (canId : ℕ) (name : Bytes) : Option D :=
  DBCSignalMapper.mapSignalNamed frame canId name content

def decodeGearSelector (frame : Bytes) (canId : ℕ) (name : Bytes) : Option ℤ :=
  DBCSignalMapper.mapGearSignal frame canId name content

/-- The light is on exactly at the raw value one. -/
def decodeBrakeLight (frame : Bytes) (canId : ℕ) (name : Bytes) : Option Bool :=
  (DBCSignalMapper.mapSignalNamed frame canId name content).map (Double.eq · (Double.ofInt 1))

end Decoders

section Spec

variable {X : Type} (config : VehicleConfig) (content : DBCParseResult D)

/-- The decoding of a field: the frame of the id that carries the mapped signal. -/
def specField (frames : ℕ → Option Bytes) (decode : Bytes → ℕ → Bytes → Option X)
    (fieldName : Bytes) : Option X := do
  let mapping ← config.signalMappings.find? (·.2 = fieldName)
  let (canId, _) ← definitionOf content mapping.1
  let frame ← frames canId
  decode frame canId mapping.1

/-- The last value that a mapping to the field and a frame decode to, of all of them. -/
def scanField (frames : List (ℕ × Bytes)) (decode : Bytes → ℕ → Bytes → Option X)
    (fieldName : Bytes) : Option X :=
  ((config.signalMappings.filter (·.2 = fieldName)).flatMap fun mapping =>
    frames.filterMap fun frame => decode frame.2 frame.1 mapping.1).getLast?

variable [Double D]

/-- The specification of `build`. -/
def specSignal (frames : ℕ → Option Bytes) (timestampUtcMs : ℕ) : VehicleSignal D :=
  signalOf (specField config content frames (decodeNumeric content))
    (specField config content frames (decodeGearSelector content) (ascii "gearSelector"))
    (specField config content frames (decodeBrakeLight content) (ascii "brakeLight"))
    timestampUtcMs

/-- The scan over all mappings, frames and definitions. -/
def nestedScan (frames : List (ℕ × Bytes)) (timestampUtcMs : ℕ) : VehicleSignal D :=
  signalOf (scanField config frames (decodeNumeric content))
    (scanField config frames (decodeGearSelector content) (ascii "gearSelector"))
    (scanField config frames (decodeBrakeLight content) (ascii "brakeLight")) timestampUtcMs

end Spec

/-- Bytes 2 to 9 of the last vector of at least ten bytes that carries the id. -/
def lastPayload (sent : List Bytes) (canId : ℕ) : Option Bytes :=
  (sent.reverse.find? fun v => 10 ≤ v.length ∧ DBCSignalTranslator.extractCANId v = canId).map
    fun v => (v.drop 2).take 8

section Fields

variable {f x : Bytes}

theorem targetFor_of_notMem (h : x ∉ vehicleFields) : targetFor x = .Ignored := by
  simp only [vehicleFields, List.mem_cons, List.not_mem_nil, or_false, not_or] at h
  simp [targetFor, h]

theorem targetFor_ne_ignored : ∀ f ∈ vehicleFields, targetFor f ≠ .Ignored := by decide +kernel

/-- No two fields have the same target. -/
theorem targetFor_eq_iff (hf : f ∈ vehicleFields) : targetFor x = targetFor f ↔ x = f := by
  have hinj : ∀ a ∈ vehicleFields, ∀ b ∈ vehicleFields, targetFor a = targetFor b → a = b := by
    decide +kernel
  constructor
  · intro h
    by_cases hx : x ∈ vehicleFields
    · exact hinj x hx f hf h
    · rw [targetFor_of_notMem hx] at h
      exact absurd h.symm (targetFor_ne_ignored f hf)
  · rintro rfl
    rfl

end Fields

section Locate

variable {content : DBCParseResult D} {name : Bytes} {canId id : ℕ} {d : DBCSignalDefinition D}

theorem signalsFor_eq_some (hids : (content.map Prod.fst).Nodup)
    {m : ℕ × List (DBCSignalDefinition D)} (hm : m ∈ content) :
    signalsFor content m.1 = some m.2 := by
  unfold signalsFor
  cases hf : content.find? (·.1 = m.1) with
  | none =>
    have hno := List.find?_eq_none.mp hf m hm
    simp at hno
  | some m' =>
    have hid : m'.1 = m.1 := by simpa using List.find?_some hf
    have heq := List.inj_on_of_nodup_map hids (List.mem_of_find?_eq_some hf) hm hid
    rw [heq]
    rfl

theorem mem_of_definitionOf (h : definitionOf content name = some (id, d)) :
    ∃ m ∈ content, m.1 = id ∧ m.2.find? (·.name = name) = some d := by
  obtain ⟨m, hm, hf⟩ := List.exists_of_findSome?_eq_some h
  obtain ⟨d', hd, he⟩ := Option.map_eq_some_iff.mp hf
  obtain ⟨rfl, rfl⟩ := Prod.mk.inj he
  exact ⟨m, hm, rfl, hd⟩

theorem definitionUnder_of_definitionOf (hids : (content.map Prod.fst).Nodup)
    (h : definitionOf content name = some (id, d)) : definitionUnder content id name = some d := by
  obtain ⟨m, hm, rfl, hd⟩ := mem_of_definitionOf h
  rw [definitionUnder, signalsFor_eq_some hids hm]
  exact hd

theorem exists_named {m : ℕ × List (DBCSignalDefinition D)}
    (h : m.2.find? (·.name = name) = some d) : ∃ d ∈ m.2, d.name = name :=
  ⟨d, List.mem_of_find?_eq_some h, by simpa using List.find?_some h⟩

/-- Where a name occurs in one message at most, a definition under an id is the name's. -/
theorem definitionUnder_eq (hids : (content.map Prod.fst).Nodup)
    (hone : ∀ m ∈ content, ∀ m' ∈ content, (∃ d ∈ m.2, d.name = name) →
      (∃ d ∈ m'.2, d.name = name) → m = m') (canId : ℕ) :
    definitionUnder content canId name =
      (definitionOf content name).bind fun c => if c.1 = canId then some c.2 else none := by
  cases hof : definitionOf content name with
  | none =>
    rw [Option.bind_none, definitionUnder]
    cases hs : signalsFor content canId with
    | none => rfl
    | some defs =>
      obtain ⟨m, hm, rfl⟩ := Option.map_eq_some_iff.mp hs
      have hno := List.findSome?_eq_none_iff.mp hof m (List.mem_of_find?_eq_some hm)
      simpa using hno
  | some c =>
    obtain ⟨m, hm, hid, hd⟩ := mem_of_definitionOf hof
    rw [Option.bind_some]
    by_cases hc : c.1 = canId
    · rw [if_pos hc, ← hc]
      exact definitionUnder_of_definitionOf hids hof
    · rw [if_neg hc, definitionUnder]
      cases hs : signalsFor content canId with
      | none => rfl
      | some defs =>
        obtain ⟨m', hm', rfl⟩ := Option.map_eq_some_iff.mp hs
        have hid' : m'.1 = canId := by simpa using List.find?_some hm'
        cases hf : m'.2.find? (·.name = name) with
        | none => exact hf
        | some d' =>
          have heq := hone m hm m' (List.mem_of_find?_eq_some hm') (exists_named hd)
            (exists_named hf)
          exact absurd (hid.symm.trans ((congrArg Prod.fst heq).trans hid')) hc

theorem findIdx?_of_first {α : Type} {p : α → Bool} {u v : List α} {a : α}
    (hu : ∀ x ∈ u, p x = false) (ha : p a = true) : (u ++ a :: v).findIdx? p = some u.length := by
  rw [List.findIdx?_append, List.findIdx?_eq_none_iff.mpr hu, List.findIdx?_cons, if_pos ha]
  simp

theorem locateSignal_of_none {o : ParseResultObject D} (h : definitionOf o.content name = none) :
    locateSignal o name = none := by
  have hno : o.content.findIdx? (fun m => m.2.any (·.name = name)) = none := by
    rw [List.findIdx?_eq_none_iff]
    intro m hm
    have hf := List.findSome?_eq_none_iff.mp h m hm
    simpa using hf
  rw [locateSignal, hno]
  rfl

/-- The pointer to a located signal leads to the definition of its name. -/
theorem locateSignal_of_some {o : ParseResultObject D}
    (h : definitionOf o.content name = some (id, d)) :
    ∃ p, locateSignal o name = some (id, p) ∧ o.deref p = .ok d := by
  obtain ⟨u, m, v, hc, hm, hu⟩ := List.findSome?_eq_some_iff.mp h
  obtain ⟨d', hd, he⟩ := Option.map_eq_some_iff.mp hm
  obtain ⟨rfl, rfl⟩ := Prod.mk.inj he
  obtain ⟨hn, s, t, hst, hs⟩ := List.find?_eq_some_iff_append.mp hd
  have hentry : o.content.findIdx? (fun m => m.2.any (·.name = name)) = some u.length := by
    rw [hc]
    apply findIdx?_of_first
    · intro m' hm'
      simpa using hu m' hm'
    · rw [List.any_eq_true]
      exact ⟨d', List.mem_of_find?_eq_some hd, hn⟩
  have hindex : m.2.findIdx? (·.name = name) = some s.length := by
    rw [hst]
    apply findIdx?_of_first
    · intro x hx
      simpa using hs x hx
    · exact hn
  refine ⟨⟨o.generation, u.length, s.length⟩, ?_, ?_⟩
  · rw [locateSignal, hentry]
    simp [hc, hindex]
  · simp [ParseResultObject.deref, hc, hst]

theorem resolveMapping_of_ne {o : ParseResultObject D} {mapping : Bytes × Bytes}
    (h : targetFor mapping.2 ≠ .Ignored) :
    resolveMapping o mapping =
      match locateSignal o mapping.1 with
      | some (canId, p) => ⟨targetFor mapping.2, canId, some p⟩
      | none => ⟨.Ignored, 0, none⟩ := by
  unfold resolveMapping
  split
  · next ht => exact absurd ht h
  · rfl

end Locate

/-- What a signal decodes to in the frame that carries it, if there is one. -/
def specMapping {X : Type} (content : DBCParseResult D) (frames : ℕ → Option Bytes)
    (decode : Bytes → ℕ → Bytes → Option X) (name : Bytes) : Option X := do
  let (canId, _) ← definitionOf content name
  let frame ← frames canId
  decode frame canId name

theorem specField_eq {X : Type} (config : VehicleConfig) (content : DBCParseResult D)
    (frames : ℕ → Option Bytes) (decode : Bytes → ℕ → Bytes → Option X) (fieldName : Bytes) :
    specField config content frames decode fieldName =
      (config.signalMappings.find? (·.2 = fieldName)).bind fun mapping =>
        specMapping content frames decode mapping.1 := rfl

/-- An output that at most one mapping sets is what that mapping decodes to. -/
theorem foldl_output {X : Type} {get : Outputs D → Option X} {value : Bytes → Option X}
    {t : FieldTarget} {step : Outputs D → Bytes × Bytes → Outputs D}
    (hstep : ∀ out mapping, get (step out mapping) =
      if targetFor mapping.2 = t then (value mapping.1).or (get out) else get out)
    {mappings : List (Bytes × Bytes)} {out : Outputs D} (hout : get out = none)
    (hone : (mappings.filter (targetFor ·.2 = t)).length ≤ 1) :
    get (mappings.foldl step out) =
      (mappings.find? (targetFor ·.2 = t)).bind fun mapping => value mapping.1 := by
  have hrest : ∀ (mappings : List (Bytes × Bytes)) (out : Outputs D),
      (mappings.filter (targetFor ·.2 = t)) = [] → get (mappings.foldl step out) = get out := by
    intro mappings
    induction mappings with
    | nil => exact fun _ _ => rfl
    | cons mapping mappings ih =>
      intro out h
      rw [List.filter_eq_nil_iff] at h
      have hm : targetFor mapping.2 ≠ t := by simpa using h mapping List.mem_cons_self
      rw [List.foldl_cons, ih _ (List.filter_eq_nil_iff.mpr fun m hm =>
        h m (List.mem_cons_of_mem _ hm)), hstep, if_neg hm]
  induction mappings generalizing out with
  | nil => exact hout
  | cons mapping mappings ih =>
    rw [List.foldl_cons]
    by_cases hm : targetFor mapping.2 = t
    · rw [List.filter_cons_of_pos (by simpa using hm), List.length_cons] at hone
      have hnil : mappings.filter (targetFor ·.2 = t) = [] :=
        List.length_eq_zero_iff.mp (by omega)
      rw [hrest _ _ hnil, hstep, if_pos hm, hout, Option.or_none,
        List.find?_cons_of_pos (by simpa using hm), Option.bind_some]
    · rw [List.filter_cons_of_neg (by simpa using hm)] at hone
      rw [List.find?_cons_of_neg (by simpa using hm)]
      apply ih _ hone
      rw [hstep, if_neg hm, hout]

section Build

variable [Double D] {o : ParseResultObject D} {config : VehicleConfig}
  {frames : ℕ → Option Bytes} {out : Outputs D} {X : Type} {mapping : Bytes × Bytes}

/-- What a resolved mapping does to the outputs. -/
def applyMapping (o : ParseResultObject D) (frames : ℕ → Option Bytes) (out : Outputs D)
    (mapping : Bytes × Bytes) : Outputs D :=
  match definitionOf o.content mapping.1 with
  | none => out
  | some (canId, d) =>
    match frames canId with
    | none => out
    | some frame => decodeField o (targetFor mapping.2) canId frame d out

theorem buildField_resolveMapping (mapping : Bytes × Bytes) :
    buildField o frames out (resolveMapping o mapping) =
      .ok (applyMapping o frames out mapping) := by
  by_cases ht : targetFor mapping.2 = .Ignored
  · have hskip : applyMapping o frames out mapping = out := by
      unfold applyMapping
      rw [ht]
      split
      · rfl
      · split <;> rfl
    rw [hskip, resolveMapping, ht]
    rfl
  · rw [resolveMapping_of_ne ht, applyMapping]
    cases hd : definitionOf o.content mapping.1 with
    | none =>
      rw [locateSignal_of_none hd]
      rfl
    | some c =>
      obtain ⟨canId, d⟩ := c
      obtain ⟨p, hl, hp⟩ := locateSignal_of_some hd
      rw [hl]
      simp only [buildField]
      cases frames canId with
      | none => rfl
      | some frame =>
        rw [hp]
        rfl

theorem build_resolveMappings (ts : ℕ) :
    build o (resolveMappings o config) frames ts =
      .ok ((config.signalMappings.foldl (applyMapping o frames) {}).toSignal ts) := by
  have hfold : ∀ (mappings : List (Bytes × Bytes)) (out : Outputs D),
      (mappings.map (resolveMapping o)).foldlM (buildField o frames) out =
        .ok (mappings.foldl (applyMapping o frames) out) := by
    intro mappings
    induction mappings with
    | nil => exact fun _ => rfl
    | cons mapping mappings ih =>
      intro out
      rw [List.map_cons, List.foldlM_cons, buildField_resolveMapping]
      exact ih _
  rw [build, resolveMappings, hfold]
  rfl

section Outputs

theorem decodeNumeric_eq {frame : Bytes} {canId : ℕ} {name : Bytes} {d : DBCSignalDefinition D}
    (hids : (o.content.map Prod.fst).Nodup)
    (hd : definitionOf o.content name = some (canId, d)) :
    decodeNumeric o.content frame canId name = DBCSignalMapper.mapSignal frame d := by
  rw [decodeNumeric, DBCSignalMapper.mapSignalNamed, definitionUnder_of_definitionOf hids hd,
    Option.bind_some]

theorem numeric_applyMapping (hids : (o.content.map Prod.fst).Nodup) (slot : Fin 9)
    (out : Outputs D) (mapping : Bytes × Bytes) :
    (applyMapping o frames out mapping).numeric slot =
      if targetFor mapping.2 = .Numeric slot then
        (specMapping o.content frames (decodeNumeric o.content) mapping.1).or (out.numeric slot)
      else out.numeric slot := by
  unfold applyMapping specMapping
  cases hd : definitionOf o.content mapping.1 with
  | none => simp
  | some c =>
    obtain ⟨canId, d⟩ := c
    simp only [Option.bind_eq_bind, Option.bind_some]
    cases frames canId with
    | none => simp
    | some frame =>
      simp only [Option.bind_some, decodeNumeric_eq hids hd]
      unfold decodeField
      cases targetFor mapping.2 with
      | Numeric slot' =>
        cases DBCSignalMapper.mapSignal frame d with
        | none => simp
        | some value =>
          by_cases hs : slot' = slot
          · subst hs
            simp
          · simp [hs, Function.update_of_ne (Ne.symm hs)]
      | Gear =>
        cases DBCSignalMapper.mapGearSignal frame canId d.name o.content <;> simp
      | BrakeLight => cases DBCSignalMapper.mapSignal frame d <;> simp
      | Ignored => simp

theorem gear_applyMapping (out : Outputs D) (mapping : Bytes × Bytes) :
    (applyMapping o frames out mapping).gear =
      if targetFor mapping.2 = .Gear then
        (specMapping o.content frames (decodeGearSelector o.content) mapping.1).or out.gear
      else out.gear := by
  unfold applyMapping specMapping
  cases hd : definitionOf o.content mapping.1 with
  | none => simp
  | some c =>
    obtain ⟨canId, d⟩ := c
    have hname : d.name = mapping.1 := by
      obtain ⟨m, -, -, hf⟩ := mem_of_definitionOf hd
      simpa using List.find?_some hf
    simp only [Option.bind_eq_bind, Option.bind_some]
    cases frames canId with
    | none => simp
    | some frame =>
      simp only [Option.bind_some, decodeGearSelector]
      unfold decodeField
      cases targetFor mapping.2 with
      | Numeric slot => cases DBCSignalMapper.mapSignal frame d <;> simp
      | Gear =>
        rw [hname]
        cases DBCSignalMapper.mapGearSignal frame canId mapping.1 o.content <;> simp
      | BrakeLight => cases DBCSignalMapper.mapSignal frame d <;> simp
      | Ignored => simp

theorem brakeLight_applyMapping (hids : (o.content.map Prod.fst).Nodup) (out : Outputs D)
    (mapping : Bytes × Bytes) :
    (applyMapping o frames out mapping).brakeLight =
      if targetFor mapping.2 = .BrakeLight then
        (specMapping o.content frames (decodeBrakeLight o.content) mapping.1).or out.brakeLight
      else out.brakeLight := by
  unfold applyMapping specMapping
  cases hd : definitionOf o.content mapping.1 with
  | none => simp
  | some c =>
    obtain ⟨canId, d⟩ := c
    simp only [Option.bind_eq_bind, Option.bind_some]
    cases frames canId with
    | none => simp
    | some frame =>
      have hv : decodeBrakeLight o.content frame canId mapping.1 =
          (DBCSignalMapper.mapSignal frame d).map (Double.eq · (Double.ofInt 1)) :=
        congrArg (Option.map _) (decodeNumeric_eq hids hd)
      simp only [Option.bind_some, hv]
      unfold decodeField
      cases targetFor mapping.2 with
      | Numeric slot => cases DBCSignalMapper.mapSignal frame d <;> simp
      | Gear => cases DBCSignalMapper.mapGearSignal frame canId d.name o.content <;> simp
      | BrakeLight => cases DBCSignalMapper.mapSignal frame d <;> simp
      | Ignored => simp

end Outputs

/-- A field that one mapping at most targets is decoded as specified. -/
theorem output_eq_specField {f : Bytes} (hf : f ∈ vehicleFields)
    (hone : (config.signalMappings.filter (·.2 = f)).length ≤ 1) (get : Outputs D → Option X)
    {decode : Bytes → ℕ → Bytes → Option X} (hget : get {} = none)
    (hstep : ∀ out mapping, get (applyMapping o frames out mapping) =
      if targetFor mapping.2 = targetFor f then
        (specMapping o.content frames decode mapping.1).or (get out)
      else get out) :
    get (config.signalMappings.foldl (applyMapping o frames) {}) =
      specField config o.content frames decode f := by
  have hiff : (fun mapping : Bytes × Bytes => decide (targetFor mapping.2 = targetFor f)) =
      fun mapping => decide (mapping.2 = f) :=
    funext fun mapping => decide_eq_decide.mpr (targetFor_eq_iff hf)
  rw [specField_eq, ← hiff]
  exact foldl_output hstep hget (by rwa [hiff])

/-- The factory gives the specified signal. -/
theorem build_eq_specSignal (h : Unambiguous config o.content) (ts : ℕ) :
    build o (resolveMappings o config) frames ts =
      .ok (specSignal config o.content frames ts) := by
  have hnumeric : ∀ f ∈ vehicleFields, ∀ slot, targetFor f = .Numeric slot →
      (config.signalMappings.foldl (applyMapping o frames) {}).numeric slot =
        specField config o.content frames (decodeNumeric o.content) f := by
    intro f hf slot ht
    apply output_eq_specField hf (h.fields f hf) (fun out => out.numeric slot) rfl
    rw [ht]
    exact numeric_applyMapping h.ids slot
  have hgear : (config.signalMappings.foldl (applyMapping o frames) {}).gear =
      specField config o.content frames (decodeGearSelector o.content) (ascii "gearSelector") :=
    output_eq_specField (by decide) (h.fields _ (by decide)) Outputs.gear rfl gear_applyMapping
  have hlight : (config.signalMappings.foldl (applyMapping o frames) {}).brakeLight =
      specField config o.content frames (decodeBrakeLight o.content) (ascii "brakeLight") :=
    output_eq_specField (by decide) (h.fields _ (by decide)) Outputs.brakeLight rfl
      (brakeLight_applyMapping h.ids)
  rw [build_resolveMappings, specSignal, signalOf, Outputs.toSignal, hgear, hlight,
    hnumeric (ascii "throttlePercent") (by decide) IDX_THROTTLE (by decide),
    hnumeric (ascii "speedKmh") (by decide) IDX_SPEED (by decide),
    hnumeric (ascii "accelerationG") (by decide) IDX_ACCEL (by decide),
    hnumeric (ascii "brakePercent") (by decide) IDX_BRAKE (by decide),
    hnumeric (ascii "steeringAngleDeg") (by decide) IDX_STEERING (by decide),
    hnumeric (ascii "motorRpm") (by decide) IDX_RPM (by decide),
    hnumeric (ascii "motorHvVoltage") (by decide) IDX_HV_VOLTAGE (by decide),
    hnumeric (ascii "motorHvCurrent") (by decide) IDX_HV_CURRENT (by decide),
    hnumeric (ascii "motorTorqueNm") (by decide) IDX_TORQUE (by decide)]

end Build

section Scan

variable {content : DBCParseResult D} {config : VehicleConfig} {frames : List (ℕ × Bytes)}
  {X : Type}

/-- The frame of an id. -/
def frameOf (frames : List (ℕ × Bytes)) (canId : ℕ) : Option Bytes :=
  (frames.find? (·.1 = canId)).map Prod.snd

/-- A scan that only one id can answer asks the frame of that id. -/
theorem filterMap_one_id {g : ℕ × Bytes → Option X} {id : ℕ}
    (hids : (frames.map Prod.fst).Nodup) (h : ∀ frame ∈ frames, frame.1 ≠ id → g frame = none) :
    frames.filterMap g =
      ((frameOf frames id).bind fun payload => g (id, payload)).toList := by
  induction frames with
  | nil => rfl
  | cons frame frames ih =>
    obtain ⟨hnot, hrest⟩ := List.nodup_cons.mp hids
    have htail := fun f hf => h f (List.mem_cons_of_mem _ hf)
    by_cases hid : frame.1 = id
    · have hnone : frames.filterMap g = [] := by
        rw [List.filterMap_eq_nil_iff]
        intro f hf
        apply htail f hf
        rintro he
        exact hnot (List.mem_map.mpr ⟨f, hf, he.trans hid.symm⟩)
      subst hid
      rw [frameOf, List.find?_cons_of_pos (by simp), Option.map_some, Option.bind_some]
      cases hg : g frame with
      | none => rw [List.filterMap_cons_none hg, hnone, Option.toList_none]
      | some x => rw [List.filterMap_cons_some hg, hnone, Option.toList_some]
    · have hframe : frameOf (frame :: frames) id = frameOf frames id := by
        rw [frameOf, List.find?_cons_of_neg (by simpa using hid), frameOf]
      rw [List.filterMap_cons_none (h frame List.mem_cons_self hid), ih hrest htail, hframe]

/-- With one mapping for the field and one message for its signal, the scan decodes what the
specification does. -/
theorem scanField_eq {decode : Bytes → ℕ → Bytes → Option X} {f : Bytes}
    (hone : (config.signalMappings.filter (·.2 = f)).length ≤ 1)
    (hids : (frames.map Prod.fst).Nodup)
    (hdecode : ∀ mapping ∈ config.signalMappings, ∀ frame canId,
      decode frame canId mapping.1 ≠ none → ∃ d, definitionOf content mapping.1 = some (canId, d)) :
    scanField config frames decode f =
      specField config content (frameOf frames) decode f := by
  have hmapping : ∀ mapping ∈ config.signalMappings,
      (frames.filterMap fun frame => decode frame.2 frame.1 mapping.1) =
        (specMapping content (frameOf frames) decode mapping.1).toList := by
    intro mapping hm
    rw [specMapping]
    cases hd : definitionOf content mapping.1 with
    | none =>
      have hno : ∀ frame ∈ frames, decode frame.2 frame.1 mapping.1 = none := by
        intro frame _
        by_contra hne
        obtain ⟨d, hd'⟩ := hdecode mapping hm _ _ hne
        rw [hd] at hd'
        cases hd'
      rw [List.filterMap_eq_nil_iff.mpr hno]
      rfl
    | some c =>
      apply filterMap_one_id hids
      intro frame _ hne
      by_contra hsome
      obtain ⟨d, hd'⟩ := hdecode mapping hm _ _ hsome
      rw [hd] at hd'
      exact hne (congrArg Prod.fst (Option.some.inj hd')).symm
  rw [specField_eq, scanField]
  have hfind : config.signalMappings.find? (·.2 = f) =
      (config.signalMappings.filter (·.2 = f)).head? := (List.head?_filter ..).symm
  rw [hfind]
  rcases hfilter : config.signalMappings.filter (·.2 = f) with _ | ⟨mapping, rest⟩
  · rw [hfilter]
    rfl
  · rw [hfilter, List.length_cons] at hone
    have hnil : rest = [] := List.length_eq_zero_iff.mp (by omega)
    have hm : mapping ∈ config.signalMappings :=
      List.mem_of_mem_filter (hfilter ▸ List.mem_cons_self)
    rw [hfilter, hnil, List.flatMap_singleton, hmapping mapping hm, List.head?_cons,
      Option.bind_some]
    cases specMapping content (frameOf frames) decode mapping.1 <;> rfl

theorem nestedScan_eq_specSignal [Double D] (h : Unambiguous config content)
    (hids : (frames.map Prod.fst).Nodup) (ts : ℕ) :
    nestedScan config content frames ts = specSignal config content (frameOf frames) ts := by
  -- a value comes from a definition under the frame's id, which is the signal's only one
  have hunder : ∀ mapping ∈ config.signalMappings, ∀ canId,
      definitionUnder content canId mapping.1 ≠ none →
        ∃ d, definitionOf content mapping.1 = some (canId, d) := by
    intro mapping hm canId hne
    rw [definitionUnder_eq h.ids (h.names mapping hm)] at hne
    cases hd : definitionOf content mapping.1 with
    | none => simp [hd] at hne
    | some c =>
      have hid : c.1 = canId := by
        by_contra hid
        simp [hd, hid] at hne
      exact ⟨c.2, by rw [← hid]⟩
  have hnumeric : ∀ mapping ∈ config.signalMappings, ∀ frame canId,
      decodeNumeric content frame canId mapping.1 ≠ none →
        ∃ d, definitionOf content mapping.1 = some (canId, d) := by
    intro mapping hm frame canId hne
    apply hunder mapping hm canId
    intro hnone
    rw [decodeNumeric, DBCSignalMapper.mapSignalNamed, hnone] at hne
    exact hne rfl
  have hgear : ∀ mapping ∈ config.signalMappings, ∀ frame canId,
      decodeGearSelector content frame canId mapping.1 ≠ none →
        ∃ d, definitionOf content mapping.1 = some (canId, d) := by
    intro mapping hm frame canId hne
    apply hunder mapping hm canId
    intro hnone
    have hgear : decodeGearSelector content frame canId mapping.1 =
        (definitionUnder content canId mapping.1).bind (DBCSignalMapper.decodeGear frame) := by
      rw [decodeGearSelector, DBCSignalMapper.mapGearSignal, definitionUnder, Option.bind_assoc]
    rw [hgear, hnone] at hne
    exact hne rfl
  have hlight : ∀ mapping ∈ config.signalMappings, ∀ frame canId,
      decodeBrakeLight content frame canId mapping.1 ≠ none →
        ∃ d, definitionOf content mapping.1 = some (canId, d) := by
    intro mapping hm frame canId hne
    apply hnumeric mapping hm frame canId
    intro hnone
    rw [decodeBrakeLight, ← decodeNumeric, hnone] at hne
    exact hne rfl
  have hscan : ∀ f ∈ vehicleFields, scanField config frames (decodeNumeric content) f =
      specField config content (frameOf frames) (decodeNumeric content) f :=
    fun f hf => scanField_eq (h.fields f hf) hids hnumeric
  rw [nestedScan, specSignal, signalOf, signalOf,
    scanField_eq (h.fields (ascii "gearSelector") (by decide)) hids hgear,
    scanField_eq (h.fields (ascii "brakeLight") (by decide)) hids hlight,
    hscan (ascii "throttlePercent") (by decide), hscan (ascii "speedKmh") (by decide),
    hscan (ascii "accelerationG") (by decide), hscan (ascii "brakePercent") (by decide),
    hscan (ascii "steeringAngleDeg") (by decide), hscan (ascii "motorRpm") (by decide),
    hscan (ascii "motorHvVoltage") (by decide), hscan (ascii "motorHvCurrent") (by decide),
    hscan (ascii "motorTorqueNm") (by decide)]

end Scan

section Run

variable [Double D]

namespace DBCSignalTranslator

/-- The translator after a sequence of packets. -/
def run (t : DBCSignalTranslator) (o : ParseResultObject D) (sent : List Packet) :
    DBCSignalTranslator :=
  sent.foldl (fun t p => (t.translate o p).1) t

theorem isValidPacket_iff {v : Bytes} : isValidPacket v = true ↔ 10 ≤ v.length :=
  decide_eq_true_iff

theorem run_concat (t : DBCSignalTranslator) (o : ParseResultObject D) (sent : List Packet)
    (p : Packet) : t.run o (sent ++ [p]) = ((t.run o sent).translate o p).1 := by
  rw [run, List.foldl_append]
  rfl

end DBCSignalTranslator

theorem lastPayload_concat (sent : List Bytes) (v : Bytes) :
    lastPayload (sent ++ [v]) =
      if 10 ≤ v.length then
        Function.update (lastPayload sent) (DBCSignalTranslator.extractCANId v)
          (some ((v.drop 2).take 8))
      else lastPayload sent := by
  funext canId
  rw [lastPayload, List.reverse_concat, List.find?_cons]
  by_cases hv : 10 ≤ v.length
  · rw [if_pos hv]
    by_cases hid : DBCSignalTranslator.extractCANId v = canId
    · subst hid
      simp [hv]
    · rw [Function.update_of_ne (Ne.symm hid)]
      simp [hid, lastPayload]
  · simp [hv, lastPayload]

/-- The accumulated frames are the last payloads. -/
theorem run_create (config : VehicleConfig) (o : ParseResultObject D) (sent : List Packet) :
    (DBCSignalTranslator.create config o).run o sent =
      ⟨resolveMappings o config, lastPayload (sent.map Packet.rawData)⟩ := by
  induction sent using List.reverseRecOn with
  | nil => rfl
  | append_singleton sent p ih =>
    rw [DBCSignalTranslator.run_concat, ih, List.map_append, List.map_singleton,
      lastPayload_concat, DBCSignalTranslator.translate, DBCSignalTranslator.isValidPacket]
    by_cases hp : 10 ≤ p.rawData.length
    · simp [hp, DBCSignalTranslator.CAN_FRAME_SIZE, DBCSignalTranslator.CAN_DATA_OFFSET,
        DBCSignalTranslator.accumulate]
    · simp [hp, DBCSignalTranslator.CAN_FRAME_SIZE]

/-- What the accumulating translator and the factory below it give. -/
structure AccumulatingSpec (config : VehicleConfig) (o : ParseResultObject D) : Prop where
  short : ∀ (t : DBCSignalTranslator) (p : Packet), p.rawData.length < 10 →
    t.translate o p = (t, .ok none)
  accepted : ∀ (sent : List Packet) (p : Packet), 10 ≤ p.rawData.length →
    (((DBCSignalTranslator.create config o).run o sent).translate o p).2 =
      .ok (some (specSignal config o.content (lastPayload ((sent ++ [p]).map Packet.rawData))
        p.effectiveTs))
  scan : ∀ (frames : List (ℕ × Bytes)), (frames.map Prod.fst).Nodup → ∀ ts,
    build o (resolveMappings o config) (frameOf frames) ts =
      .ok (nestedScan config o.content frames ts)
  order : ∀ (sent sent' : List Packet) (p p' : Packet),
    10 ≤ p.rawData.length → 10 ≤ p'.rawData.length →
    lastPayload ((sent ++ [p]).map Packet.rawData) =
      lastPayload ((sent' ++ [p']).map Packet.rawData) →
    ∃ signal signal',
      (((DBCSignalTranslator.create config o).run o sent).translate o p).2 = .ok (some signal) ∧
      (((DBCSignalTranslator.create config o).run o sent').translate o p').2 =
        .ok (some signal') ∧
      signal' = { signal with timestampUtcMs := signal'.timestampUtcMs }

theorem translate_short (o : ParseResultObject D) (t : DBCSignalTranslator) (p : Packet)
    (hp : p.rawData.length < 10) : t.translate o p = (t, .ok none) := by
  have hinvalid : ¬ DBCSignalTranslator.isValidPacket p.rawData = true := by
    rw [DBCSignalTranslator.isValidPacket_iff]
    omega
  rw [DBCSignalTranslator.translate, if_neg hinvalid]

theorem translate_accepted {config : VehicleConfig} {o : ParseResultObject D}
    (h : Unambiguous config o.content) (sent : List Packet) (p : Packet)
    (hp : 10 ≤ p.rawData.length) :
    (((DBCSignalTranslator.create config o).run o sent).translate o p).2 =
      .ok (some (specSignal config o.content (lastPayload ((sent ++ [p]).map Packet.rawData))
        p.effectiveTs)) := by
  have hafter := run_create config o (sent ++ [p])
  rw [DBCSignalTranslator.run_concat] at hafter
  have hvalid := DBCSignalTranslator.isValidPacket_iff.mpr hp
  have hsnd : (((DBCSignalTranslator.create config o).run o sent).translate o p).2 =
      (build o (((DBCSignalTranslator.create config o).run o sent).translate o p).1.resolved
        (((DBCSignalTranslator.create config o).run o sent).translate o p).1.accumulatedFrames
        p.effectiveTs).map some := by
    rw [DBCSignalTranslator.translate, if_pos hvalid]
  rw [hsnd, hafter, build_eq_specSignal h]
  rfl

theorem translate_eq_spec {config : VehicleConfig} {o : ParseResultObject D}
    (h : Unambiguous config o.content) : AccumulatingSpec config o where
  short := translate_short o
  accepted := translate_accepted h
  scan := by
    intro frames hids ts
    rw [build_eq_specSignal h, nestedScan_eq_specSignal h hids]
  order := by
    intro sent sent' p p' hp hp' hlast
    refine ⟨_, _, translate_accepted h sent p hp, translate_accepted h sent' p' hp', ?_⟩
    rw [hlast]
    rfl

/-- The pedal and the gear in one message, the brake light in another. -/
def driveContent : DBCParseResult ℚ :=
  [(280, [⟨280, ascii "DI_gear", 21, 3, .Intel, 1, 0, false, [], 0, 7,
      [⟨1, ascii "DI_GEAR_P"⟩, ⟨4, ascii "DI_GEAR_D"⟩]⟩,
    ⟨280, ascii "DI_accelPedalPos", 32, 8, .Intel, 2 / 5, 0, false, ascii "%", 0, 100, []⟩]),
   (1013, [⟨1013, ascii "VCFRONT_brakeLight", 0, 2, .Intel, 1, 0, false, [], 0, 3, []⟩])]

def driveConfig : VehicleConfig where
  dbcFilePath := ascii "drive.dbc"
  signalMappings := [(ascii "DI_accelPedalPos", ascii "throttlePercent"),
    (ascii "DI_gear", ascii "gearSelector"), (ascii "VCFRONT_brakeLight", ascii "brakeLight"),
    (ascii "DI_speed", ascii "speedKmh")]

theorem driveConfig_unambiguous : Unambiguous driveConfig driveContent where
  ids := by decide
  names := by decide +kernel
  fields := by decide +kernel

/-- The pedal of the first message gives way to that of the third. -/
theorem translate_eq_spec_drive : AccumulatingSpec driveConfig ⟨0, driveContent⟩ ∧
    (((DBCSignalTranslator.create driveConfig ⟨0, driveContent⟩).run ⟨0, driveContent⟩
      [⟨[24, 1, 0, 0, 128, 0, 100, 0, 0, 0], none, 0⟩, ⟨[245, 3, 1, 0, 0, 0, 0, 0, 0, 0], none, 10⟩,
        ⟨[24, 1], none, 20⟩]).translate ⟨0, driveContent⟩
      ⟨[24, 1, 0, 0, 32, 0, 50, 0, 0, 0], some 5, 30⟩).2 =
      .ok (some { timestampUtcMs := 5, throttlePercent := some 20, gearSelector := some Gear.PARK,
                  brakeLight := some true }) := by
  refine ⟨translate_eq_spec driveConfig_unambiguous, ?_⟩
  rw [(translate_eq_spec driveConfig_unambiguous).accepted _ _ (by decide)]
  decide +kernel

end Run

end VehicleSpy.Dbc
