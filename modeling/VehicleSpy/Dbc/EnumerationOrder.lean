import Mathlib.Tactic.FinCases
import VehicleSpy.Machine.Enumeration
import VehicleSpy.Dbc.SignalSpec

/-! # Decoding and the order of the hash maps

The factory enumerates two maps without an order of their own: the messages, to find the one
that carries a name, and the mappings, whose decoded values overwrite each other. What it
resolves and builds is the same in every order just when a mapped name is a signal of one
message and the signals of one field read alike.
-/

namespace VehicleSpy.Dbc

open Text Machine VehicleSignalFactory

variable {D : Type}

section Factory

/-- What a mapping was resolved to, its pointer followed. -/
def resolution (o : ParseResultObject D) (mapping : Bytes × Bytes) :
    FieldTarget × ℕ × Option (DBCSignalDefinition D) :=
  let field := resolveMapping o mapping
  (field.target, field.canId, field.defn.bind fun p => (o.deref p).toOption)

variable [Double D]

/-- Two factories resolve the mappings alike and build the same signals. -/
structure SameDecoding (config config' : VehicleConfig) (o o' : ParseResultObject D) : Prop where
  resolution : ∀ mapping ∈ config.signalMappings, resolution o mapping = resolution o' mapping
  build : ∀ frames timestampUtcMs, build o (resolveMappings o config) frames timestampUtcMs =
    build o' (resolveMappings o' config') frames timestampUtcMs

/-- In whatever order the two maps are enumerated, the decoding is the same. -/
def OrderFree (config : VehicleConfig) (o : ParseResultObject D) : Prop :=
  ∀ (o' : ParseResultObject D) (mappings : List (Bytes × Bytes)), o.content.Perm o'.content →
    config.signalMappings.Perm mappings →
    SameDecoding config { config with signalMappings := mappings } o o'

/-- A decoded value, as the output of its field keeps it. -/
inductive Reading (D : Type)
  | number (value : D)
  | gear (value : ℤ)
  | light (lit : Bool)
  deriving DecidableEq, Repr

/-- What a field reads in a frame. -/
def reading (content : DBCParseResult D) (target : FieldTarget) (canId : ℕ) (frame : Bytes)
    (definition : DBCSignalDefinition D) : Option (Reading D) :=
  match target with
  | .Numeric _ => (DBCSignalMapper.mapSignal frame definition).map .number
  | .Gear => (DBCSignalMapper.mapGearSignal frame canId definition.name content).map .gear
  | .BrakeLight =>
    (DBCSignalMapper.mapSignal frame definition).map fun value =>
      .light (Double.eq value (Double.ofInt 1))
  | .Ignored => none

/-- A name that is mapped to a field is a signal of one message at most, and two signals that
are mapped to one field never read differently. -/
structure Determined (config : VehicleConfig) (content : DBCParseResult D) : Prop where
  names : ∀ mapping ∈ config.signalMappings, targetFor mapping.2 ≠ .Ignored →
    ∀ m ∈ content, ∀ m' ∈ content, (∃ d ∈ m.2, d.name = mapping.1) →
      (∃ d ∈ m'.2, d.name = mapping.1) → m = m'
  fields : ∀ x ∈ config.signalMappings, ∀ y ∈ config.signalMappings,
    targetFor x.2 = targetFor y.2 → ∀ m ∈ content, ∀ m' ∈ content, ∀ d d',
      m.2.find? (·.name = x.1) = some d → m'.2.find? (·.name = y.1) = some d' →
      ∀ (frames : ℕ → Option Bytes) (v w : Reading D),
        (frames m.1).bind (reading content (targetFor x.2) m.1 · d) = some v →
        (frames m'.1).bind (reading content (targetFor y.2) m'.1 · d') = some w → v = w

end Factory

section Outputs

/-- The output of a field. -/
def VehicleSignalFactory.Outputs.read (out : Outputs D) : FieldTarget → Option (Reading D)
  | .Numeric slot => (out.numeric slot).map .number
  | .Gear => out.gear.map .gear
  | .BrakeLight => out.brakeLight.map .light
  | .Ignored => none

/-- A signal holds every output. -/
theorem toSignal_eq_iff {out out' : Outputs D} {timestampUtcMs : ℕ} :
    out.toSignal timestampUtcMs = out'.toSignal timestampUtcMs ↔
      ∀ target, out.read target = out'.read target := by
  have hnumber : Function.Injective (Reading.number : D → Reading D) := fun _ _ h =>
    Reading.number.inj h
  constructor
  · intro h
    simp only [Outputs.toSignal, VehicleSignal.mk.injEq] at h
    obtain ⟨-, h0, h1, h2, h3, hlight, h4, h5, h6, h7, h8, hgear⟩ := h
    rintro (slot | - | - | -)
    · have hslot : out.numeric slot = out'.numeric slot := by
        fin_cases slot <;> assumption
      exact congrArg (Option.map Reading.number) hslot
    · exact congrArg (Option.map Reading.gear) hgear
    · exact congrArg (Option.map Reading.light) hlight
    · rfl
  · intro h
    have hnumeric : out.numeric = out'.numeric :=
      funext fun slot => Option.map_injective hnumber (h (.Numeric slot))
    have hgear : out.gear = out'.gear :=
      Option.map_injective (fun _ _ h => Reading.gear.inj h) (h .Gear)
    have hlight : out.brakeLight = out'.brakeLight :=
      Option.map_injective (fun _ _ h => Reading.light.inj h) (h .BrakeLight)
    simp only [Outputs.toSignal, hnumeric, hgear, hlight]

variable [Double D] {o : ParseResultObject D} {frames : ℕ → Option Bytes}
  {mappings : List (Bytes × Bytes)}

/-- What a mapping writes, and to which field. -/
def write (content : DBCParseResult D) (frames : ℕ → Option Bytes) (mapping : Bytes × Bytes) :
    Option (FieldTarget × Reading D) := do
  let (canId, definition) ← definitionOf content mapping.1
  let frame ← frames canId
  let value ← reading content (targetFor mapping.2) canId frame definition
  return (targetFor mapping.2, value)

theorem read_decodeField (target k : FieldTarget) (canId : ℕ) (frame : Bytes)
    (definition : DBCSignalDefinition D) (out : Outputs D) :
    (decodeField o target canId frame definition out).read k =
      if target = k then (reading o.content target canId frame definition).or (out.read k)
      else out.read k := by
  cases target with
  | Numeric slot =>
    unfold decodeField reading
    cases DBCSignalMapper.mapSignal frame definition with
    | none => simp
    | some value =>
      cases k with
      | Numeric slot' =>
        by_cases hs : slot = slot'
        · subst hs
          simp [Outputs.read]
        · simp [Outputs.read, hs, Function.update_of_ne (Ne.symm hs)]
      | Gear | BrakeLight | Ignored => simp [Outputs.read]
  | Gear =>
    unfold decodeField reading
    cases DBCSignalMapper.mapGearSignal frame canId definition.name o.content with
    | none => simp
    | some gear => cases k <;> simp [Outputs.read]
  | BrakeLight =>
    unfold decodeField reading
    cases DBCSignalMapper.mapSignal frame definition with
    | none => simp
    | some value => cases k <;> simp [Outputs.read]
  | Ignored => simp [decodeField, reading]

theorem read_applyMapping (mapping : Bytes × Bytes) (k : FieldTarget) (out : Outputs D) :
    (applyMapping o frames out mapping).read k =
      match write o.content frames mapping with
      | some w => if w.1 = k then some w.2 else out.read k
      | none => out.read k := by
  unfold applyMapping write
  cases definitionOf o.content mapping.1 with
  | none => rfl
  | some c =>
    obtain ⟨canId, definition⟩ := c
    cases hframe : frames canId with
    | none => simp [hframe]
    | some frame =>
      simp only [hframe, read_decodeField]
      cases hr : reading o.content (targetFor mapping.2) canId frame definition <;>
        simp [hframe, hr]

/-- A field keeps the last value that is written to it. -/
theorem read_foldl (mappings : List (Bytes × Bytes)) (k : FieldTarget) :
    (mappings.foldl (applyMapping o frames) {}).read k =
      lastWrite k (mappings.filterMap (write o.content frames)) := by
  induction mappings using List.reverseRecOn with
  | nil => cases k <;> rfl
  | append_singleton mappings mapping ih =>
    rw [List.foldl_concat, read_applyMapping, List.filterMap_append]
    cases hw : write o.content frames mapping with
    | none => simp [hw, ih]
    | some w => simp [hw, ih]

theorem build_eq_iff {config config' : VehicleConfig} {o' : ParseResultObject D}
    {timestampUtcMs : ℕ} :
    build o (resolveMappings o config) frames timestampUtcMs =
        build o' (resolveMappings o' config') frames timestampUtcMs ↔
      ∀ k, lastWrite k (config.signalMappings.filterMap (write o.content frames)) =
        lastWrite k (config'.signalMappings.filterMap (write o'.content frames)) := by
  rw [build_resolveMappings, build_resolveMappings, Except.ok.injEq, toSignal_eq_iff]
  simp only [read_foldl]

end Outputs

section Orders

variable {content content' : DBCParseResult D} {mapping : Bytes × Bytes} {name : Bytes}

/-- A name that is mapped to a field is a signal of one message at most. -/
def CarriedOnce (content : DBCParseResult D) (name : Bytes) : Prop :=
  ∀ m ∈ content, ∀ m' ∈ content, (∃ d ∈ m.2, d.name = name) → (∃ d ∈ m'.2, d.name = name) → m = m'

theorem signalsFor_perm (hids : (content.map Prod.fst).Nodup) (hp : content.Perm content')
    (canId : ℕ) : signalsFor content canId = signalsFor content' canId := by
  have hu : ∀ m ∈ content, ∀ m' ∈ content, decide (m.1 = canId) = true →
      decide (m'.1 = canId) = true → m = m' := by
    intro m hm m' hm' hid hid'
    exact List.inj_on_of_nodup_map hids hm hm'
      ((of_decide_eq_true hid).trans (of_decide_eq_true hid').symm)
  rw [signalsFor, signalsFor, find?_perm hu hp]

theorem definitionOf_perm (hone : CarriedOnce content name) (hp : content.Perm content') :
    definitionOf content name = definitionOf content' name := by
  refine findSome?_perm ?_ hp
  have hnamed (m : ℕ × List (DBCSignalDefinition D))
      (h : (m.2.find? (·.name = name)).map (m.1, ·) ≠ none) : ∃ d ∈ m.2, d.name = name := by
    obtain ⟨c, hc⟩ := Option.ne_none_iff_exists'.mp h
    obtain ⟨d, hd, -⟩ := Option.map_eq_some_iff.mp hc
    exact exists_named hd
  exact fun m hm m' hm' h h' => hone m hm m' hm' (hnamed m h) (hnamed m' h')

theorem definitionOf_of_carriedOnce (hone : CarriedOnce content name)
    {m : ℕ × List (DBCSignalDefinition D)} (hm : m ∈ content) {d : DBCSignalDefinition D}
    (hd : m.2.find? (·.name = name) = some d) : definitionOf content name = some (m.1, d) := by
  cases hof : definitionOf content name with
  | none =>
    have hnone := List.findSome?_eq_none_iff.mp hof m hm
    rw [hd] at hnone
    cases hnone
  | some c =>
    obtain ⟨m', hm', hid, hd'⟩ := mem_of_definitionOf hof
    obtain rfl := hone m hm m' hm' (exists_named hd) (exists_named hd')
    rw [hd] at hd'
    rw [hid, Option.some.inj hd']

theorem resolution_eq (o : ParseResultObject D) (mapping : Bytes × Bytes) :
    resolution o mapping =
      if targetFor mapping.2 = .Ignored then (.Ignored, 0, none)
      else
        match definitionOf o.content mapping.1 with
        | some (canId, d) => (targetFor mapping.2, canId, some d)
        | none => (.Ignored, 0, none) := by
  by_cases ht : targetFor mapping.2 = .Ignored
  · rw [if_pos ht, resolution, resolveMapping, ht]
    rfl
  · rw [if_neg ht, resolution, resolveMapping_of_ne ht]
    cases hd : definitionOf o.content mapping.1 with
    | none =>
      rw [locateSignal_of_none hd]
      rfl
    | some c =>
      obtain ⟨canId, d⟩ := c
      obtain ⟨p, hl, hp⟩ := locateSignal_of_some hd
      simp [hl, hp, Except.toOption]

variable [Double D] {frames : ℕ → Option Bytes} {k : FieldTarget} {v : Reading D}

theorem reading_perm (hids : (content.map Prod.fst).Nodup) (hp : content.Perm content')
    (target : FieldTarget) (canId : ℕ) (frame : Bytes) (definition : DBCSignalDefinition D) :
    reading content target canId frame definition =
      reading content' target canId frame definition := by
  cases target with
  | Gear => simp only [reading, DBCSignalMapper.mapGearSignal, signalsFor_perm hids hp]
  | Numeric | BrakeLight | Ignored => rfl

/-- A mapping writes what a signal of its name reads in the frame that carries it. -/
theorem write_eq_some_iff : write content frames mapping = some (k, v) ↔
    targetFor mapping.2 = k ∧ ∃ canId d, definitionOf content mapping.1 = some (canId, d) ∧
      (frames canId).bind (reading content k canId · d) = some v := by
  unfold write
  constructor
  · intro h
    obtain ⟨⟨canId, d⟩, hof, h⟩ := Option.bind_eq_some_iff.mp h
    obtain ⟨frame, hframe, h⟩ := Option.bind_eq_some_iff.mp h
    obtain ⟨value, hread, h⟩ := Option.bind_eq_some_iff.mp h
    obtain ⟨rfl, rfl⟩ := Prod.mk.inj (Option.some.inj h)
    exact ⟨rfl, canId, d, hof, Option.bind_eq_some_iff.mpr ⟨frame, hframe, hread⟩⟩
  · rintro ⟨rfl, canId, d, hof, hread⟩
    obtain ⟨frame, hframe, hread⟩ := Option.bind_eq_some_iff.mp hread
    simp [hof, hframe, hread]

theorem write_ignored (ht : targetFor mapping.2 = .Ignored) :
    write content frames mapping = none := by
  rw [Option.eq_none_iff_forall_ne_some]
  rintro ⟨k, v⟩ hw
  obtain ⟨rfl, canId, d, -, hread⟩ := write_eq_some_iff.mp hw
  obtain ⟨frame, -, hread⟩ := Option.bind_eq_some_iff.mp hread
  rw [ht] at hread
  cases hread

theorem write_perm (hids : (content.map Prod.fst).Nodup) (hp : content.Perm content')
    (hone : targetFor mapping.2 ≠ .Ignored → CarriedOnce content mapping.1) :
    write content frames mapping = write content' frames mapping := by
  by_cases ht : targetFor mapping.2 = .Ignored
  · rw [write_ignored ht, write_ignored ht]
  · unfold write
    simp only [definitionOf_perm (hone ht) hp, reading_perm hids hp]

end Orders

section Main

variable [Double D] {config : VehicleConfig} {o : ParseResultObject D}

theorem sameDecoding_of_determined (hids : (o.content.map Prod.fst).Nodup)
    (h : Determined config o.content) {o' : ParseResultObject D} {mappings : List (Bytes × Bytes)}
    (hp : o.content.Perm o'.content) (hm : config.signalMappings.Perm mappings) :
    SameDecoding config { config with signalMappings := mappings } o o' where
  resolution mapping hmem := by
    rw [resolution_eq, resolution_eq]
    by_cases ht : targetFor mapping.2 = .Ignored
    · rw [if_pos ht, if_pos ht]
    · rw [definitionOf_perm (h.names mapping hmem ht) hp]
  build frames timestampUtcMs := by
    rw [build_eq_iff]
    intro k
    have hwrite : mappings.filterMap (write o'.content frames) =
        mappings.filterMap (write o.content frames) :=
      List.filterMap_congr fun mapping hmem =>
        (write_perm hids hp (h.names mapping (hm.mem_iff.mpr hmem))).symm
    dsimp only
    rw [hwrite]
    refine lastWrite_perm ?_ (hm.filterMap _)
    intro v w hv hw
    obtain ⟨x, hx, hv⟩ := List.mem_filterMap.mp hv
    obtain ⟨y, hy, hw⟩ := List.mem_filterMap.mp hw
    obtain ⟨htx, c, d, hd, hv⟩ := write_eq_some_iff.mp hv
    obtain ⟨hty, c', d', hd', hw⟩ := write_eq_some_iff.mp hw
    obtain ⟨m, hcarry, rfl, hfind⟩ := mem_of_definitionOf hd
    obtain ⟨m', hcarry', rfl, hfind'⟩ := mem_of_definitionOf hd'
    subst htx
    refine h.fields x hx y hy hty.symm m hcarry m' hcarry' d d' hfind hfind' frames v w hv ?_
    rw [hty]
    exact hw

theorem determined_of_orderFree (hids : (o.content.map Prod.fst).Nodup)
    (h : OrderFree config o) : Determined config o.content := by
  have hnames : ∀ mapping ∈ config.signalMappings, targetFor mapping.2 ≠ .Ignored →
      CarriedOnce o.content mapping.1 := by
    rintro mapping hmem ht m hm m' hm' hd hd'
    -- either message can be the first one that carries the name
    have hfirst (m : ℕ × List (DBCSignalDefinition D)) (hm : m ∈ o.content)
        (hd : ∃ d ∈ m.2, d.name = mapping.1) : (resolution o mapping).2.1 = m.1 := by
      obtain ⟨d, hd⟩ : ∃ d, m.2.find? (·.name = mapping.1) = some d := by
        rw [← Option.isSome_iff_exists, List.find?_isSome]
        simpa using hd
      obtain ⟨t, hp, ht'⟩ := exists_perm_findSome?
        (f := fun m => (m.2.find? (·.name = mapping.1)).map (m.1, ·)) hm
        (Option.map_eq_some_iff.mpr ⟨d, hd, rfl⟩)
      have hof : definitionOf t mapping.1 = some (m.1, d) := ht'
      rw [(h ⟨0, t⟩ _ hp (List.Perm.refl _)).resolution mapping hmem, resolution_eq, if_neg ht,
        hof]
    have hid := (hfirst m hm hd).symm.trans (hfirst m' hm' hd')
    exact List.inj_on_of_nodup_map hids hm hm' hid
  refine ⟨hnames, ?_⟩
  rintro x hx y hy hxy m hm m' hm' d d' hd hd' frames v w hv hw
  have ht : targetFor x.2 ≠ .Ignored := by
    intro ht
    obtain ⟨frame, -, hread⟩ := Option.bind_eq_some_iff.mp hv
    rw [ht] at hread
    cases hread
  -- either mapping can be the last one that writes the field
  have hlast (z : Bytes × Bytes) (hz : z ∈ config.signalMappings) (hzt : targetFor z.2 =
      targetFor x.2) (n : ℕ × List (DBCSignalDefinition D)) (hn : n ∈ o.content)
      (e : DBCSignalDefinition D) (he : n.2.find? (·.name = z.1) = some e) (u : Reading D)
      (hu : (frames n.1).bind (reading o.content (targetFor z.2) n.1 · e) = some u) :
      lastWrite (targetFor x.2) (config.signalMappings.filterMap (write o.content frames)) =
        some u := by
    have hof := definitionOf_of_carriedOnce (hnames z hz (hzt ▸ ht)) hn he
    have hwrite : write o.content frames z = some (targetFor x.2, u) :=
      write_eq_some_iff.mpr ⟨hzt, n.1, e, hof, hzt ▸ hu⟩
    obtain ⟨t, hp, hlast⟩ := exists_perm_lastWrite hz hwrite
    have hbuild := (h o t (List.Perm.refl _) hp).build frames 0
    rw [build_eq_iff] at hbuild
    exact (hbuild _).trans hlast
  have hvw := (hlast x hx rfl m hm d hd v hv).symm.trans (hlast y hy hxy.symm m' hm' d' hd' w hw)
  exact Option.some.inj hvw

/-- Where no two mappings share a field, the names decide. -/
theorem determined_of_distinct (hnames : ∀ mapping ∈ config.signalMappings,
      targetFor mapping.2 ≠ .Ignored → CarriedOnce o.content mapping.1)
    (hfields : ∀ x ∈ config.signalMappings, ∀ y ∈ config.signalMappings,
      targetFor x.2 = targetFor y.2 → x = y) : Determined config o.content := by
  refine ⟨hnames, ?_⟩
  rintro x hx y hy hxy m hm m' hm' d d' hd hd' frames v w hv hw
  obtain rfl := hfields x hx y hy hxy
  have ht : targetFor x.2 ≠ .Ignored := by
    intro ht
    obtain ⟨frame, -, hread⟩ := Option.bind_eq_some_iff.mp hv
    rw [ht] at hread
    cases hread
  obtain rfl := hnames x hx ht m hm m' hm' (exists_named hd) (exists_named hd')
  obtain rfl := Option.some.inj (hd.symm.trans hd')
  exact Option.some.inj (hv.symm.trans hw)

/-- The decoding is the same in every order just when the names and the fields are determined. -/
theorem orderFree_iff (hids : (o.content.map Prod.fst).Nodup) :
    OrderFree config o ↔ Determined config o.content :=
  ⟨determined_of_orderFree hids, fun h _ _ hp hm => sameDecoding_of_determined hids h hp hm⟩

section Bench

/-- The reference speed of the shipped Audi file, which two of its messages carry. -/
def refSpeed (canId startBit : ℕ) : DBCSignalDefinition ℚ where
  canId := canId
  name := ascii "ESP_v_ref"
  startBit := startBit
  bitLength := 12
  byteOrder := .Intel
  scale := 1 / 8
  offset := 0
  isSigned := false
  unit := ascii "Unit_KiloMeterPerHour"
  min := 0
  max := 1023 / 2
  valueTable := []

def refConfig : VehicleConfig where
  dbcFilePath := ascii "resources/dbc/vw_mlb.dbc"
  signalMappings := [(ascii "ESP_v_ref", ascii "speedKmh")]
  isCANProtocol := true

/-- The engine speed of the same file. -/
def motorSpeed : DBCSignalDefinition ℚ where
  canId := 261
  name := ascii "MO_Drehzahl_01"
  startBit := 16
  bitLength := 16
  byteOrder := .Intel
  scale := 1 / 4
  offset := 0
  isSigned := false
  unit := ascii "Unit_MinutInver"
  min := 0
  max := 16383
  valueTable := []

def cockpitConfig : VehicleConfig where
  dbcFilePath := ascii "resources/dbc/vw_mlb.dbc"
  signalMappings := [(ascii "ESP_v_ref", ascii "speedKmh"),
    (ascii "MO_Drehzahl_01", ascii "motorRpm")]
  isCANProtocol := true

/-- Two messages and two mappings, in whatever order. -/
theorem orderFree_cockpitConfig :
    OrderFree cockpitConfig ⟨0, [(132, [refSpeed 132 32]), (261, [motorSpeed])]⟩ := by
  refine (orderFree_iff (by decide)).mpr (determined_of_distinct ?_ ?_)
  · rintro mapping hmapping - m hm m' hm' ⟨d, hd, hname⟩ ⟨d', hd', hname'⟩
    rcases List.mem_pair.mp hm with rfl | rfl <;> rcases List.mem_pair.mp hm' with rfl | rfl
    · rfl
    · rw [List.mem_singleton.mp hd] at hname
      rw [List.mem_singleton.mp hd', ← hname] at hname'
      exact absurd hname' (by decide)
    · rw [List.mem_singleton.mp hd] at hname
      rw [List.mem_singleton.mp hd', ← hname] at hname'
      exact absurd hname' (by decide)
    · rfl
  · rintro x hx y hy htarget
    simp only [cockpitConfig, List.mem_cons, List.not_mem_nil, or_false] at hx hy
    rcases hx with rfl | rfl <;> rcases hy with rfl | rfl
    · rfl
    · exact absurd htarget (by decide)
    · exact absurd htarget (by decide)
    · rfl

/-- With both messages the order decides which of them the speed is read from. -/
theorem not_orderFree_refConfig :
    ¬ OrderFree refConfig ⟨0, [(286, [refSpeed 286 52]), (132, [refSpeed 132 32])]⟩ := by
  intro h
  have hsame := h ⟨0, [(132, [refSpeed 132 32]), (286, [refSpeed 286 52])]⟩ _
    (List.Perm.swap _ _ _) (List.Perm.refl _)
  have hres := congrArg (·.2.1) (hsame.resolution _ List.mem_cons_self)
  simp only [resolution_eq] at hres
  revert hres
  decide

end Bench

end Main

end VehicleSpy.Dbc
