import VehicleSpy.Telemetry.CsvReplay
import VehicleSpy.Text.Segments

/-! # The layout of a row

A row is read back by cutting its line at commas. The texts of a row come from the user and are
only cleared of control bytes, so a line never breaks in two, but a comma in a text starts a cell
of its own. Numbers of any kind are harmless: not even a value without hundredths, for which the
conversion to an integer may give anything, is written with a comma.
-/

namespace VehicleSpy.Telemetry

open Text Machine.Binary64

/-- A value of type `double`. -/
inductive Double where
  | finite (x : ℚ)
  | infinite (negative : Bool)
  | nan
  deriving DecidableEq

/-- The texts of a row as the user gives them, and its numbers. -/
structure CsvRowInput where
  timestampMs : UInt64
  vehicleId : Bytes
  speedKmh : Option Double
  throttlePercent : Option Double
  brakeLight : Option Int32
  accelerationG : Option Double
  steeringAngleDeg : Option Double
  motorRpm : Option Double
  motorHvVoltage : Option Double
  motorHvCurrent : Option Double
  motorTorqueNm : Option Double
  gearSelector : Bytes
  dbcSignalCount : Int32
  deriving DecidableEq

/-- The range of `long long`. -/
def Fits (n : ℤ) : Prop := -2 ^ 63 ≤ n ∧ n < 2 ^ 63

instance (n : ℤ) : Decidable (Fits n) := inferInstanceAs (Decidable (_ ∧ _))

/-- `std::llround(value * 100.0)`, which is `unspecified` where the result is out of range. -/
def scaledValue (unspecified : Double → ℤ) : Double → ℤ
  | .finite x => if Fits (hundredths x) then hundredths x else unspecified (.finite x)
  | value => unspecified value

namespace CsvRowInput

variable (unspecified : Double → ℤ)

def optionalCell (value : Option Double) : Bytes :=
  match value with
  | none => []
  | some value => formatScaled (scaledValue unspecified value)

def cells (input : CsvRowInput) : List Bytes :=
  [csvNumericCell (decimal input.timestampMs.toNat),
    forLog (Label.fromUserInput input.vehicleId).asString,
    optionalCell unspecified input.speedKmh, optionalCell unspecified input.throttlePercent,
    formatBrakeLight input.brakeLight, optionalCell unspecified input.accelerationG,
    optionalCell unspecified input.steeringAngleDeg, optionalCell unspecified input.motorRpm,
    optionalCell unspecified input.motorHvVoltage, optionalCell unspecified input.motorHvCurrent,
    optionalCell unspecified input.motorTorqueNm,
    forLog (Label.fromUserInput input.gearSelector).asString,
    csvNumericCell (decimal input.dbcSignalCount.toInt)]

def line (input : CsvRowInput) : Bytes := [COMMA].intercalate (input.cells unspecified)

/-- The row is one line, whose columns are the cells, one for each name of the header. -/
structure KeepsLayout (input : CsvRowInput) : Prop where
  one_line : ∀ c ∈ input.line unspecified, c ≠ 13 ∧ c ≠ 10
  columns : (input.line unspecified).splitOn COMMA = input.cells unspecified
  thirteen : ((input.line unspecified).splitOn COMMA).length = (csvHeaderLine.splitOn COMMA).length

end CsvRowInput

/-- The row of finite values. -/
def CsvRowParams.input (params : CsvRowParams) : CsvRowInput where
  timestampMs := params.timestampMs
  vehicleId := params.vehicleId.asString
  speedKmh := params.speedKmh.map .finite
  throttlePercent := params.throttlePercent.map .finite
  brakeLight := params.brakeLight
  accelerationG := params.accelerationG.map .finite
  steeringAngleDeg := params.steeringAngleDeg.map .finite
  motorRpm := params.motorRpm.map .finite
  motorHvVoltage := params.motorHvVoltage.map .finite
  motorHvCurrent := params.motorHvCurrent.map .finite
  motorTorqueNm := params.motorTorqueNm.map .finite
  gearSelector := params.gearSelector.asString
  dbcSignalCount := params.dbcSignalCount

section Layout

variable {unspecified : Double → ℤ} {input : CsvRowInput}

theorem optionalCell_finite {value : Option ℚ} (h : ∀ x ∈ value, Fits (hundredths x)) :
    CsvRowInput.optionalCell unspecified (value.map .finite) = formatOptional value := by
  cases value with
  | none => rfl
  | some x =>
    have hx : Fits (hundredths x) := h x rfl
    rw [Option.map_some, CsvRowInput.optionalCell, scaledValue, if_pos hx, formatOptional]

/-- Finite values whose hundredths are in range are printed whatever the rest would be. -/
theorem line_finite {params : CsvRowParams}
    (h : ∀ value ∈ params.values, ∀ x ∈ value, Fits (hundredths x)) :
    params.input.line unspecified = csvRowLine params := by
  simp only [CsvRowParams.values, List.forall_mem_cons] at h
  obtain ⟨h₀, h₁, h₂, h₃, h₄, h₅, h₆, h₇, -⟩ := h
  simp only [CsvRowInput.line, CsvRowInput.cells, CsvRowParams.input, csvRowLine, csvCells,
    optionalCell_finite h₀, optionalCell_finite h₁, optionalCell_finite h₂,
    optionalCell_finite h₃, optionalCell_finite h₄, optionalCell_finite h₅,
    optionalCell_finite h₆, optionalCell_finite h₇, Label.fromUserInput_asString]

theorem optionalCell_numeric (value : Option Double) :
    ∀ c ∈ CsvRowInput.optionalCell unspecified value, isNumericByte c = true := by
  cases value with
  | none => simp [CsvRowInput.optionalCell]
  | some value => exact formatScaled_numeric (scaledValue unspecified value)

theorem not_lineEnd_of_numeric {c : Byte} (hc : isNumericByte c = true) : c ≠ 13 ∧ c ≠ 10 := by
  obtain ⟨-, -, hspace⟩ := isNumericByte_facts hc
  constructor <;> rintro rfl <;> exact Bool.noConfusion hspace

/-- Clearing control bytes leaves no line end. -/
theorem not_lineEnd_of_mem_forLog {c : Byte} {value : Bytes} (hc : c ∈ forLog value) :
    c ≠ 13 ∧ c ≠ 10 := by
  obtain ⟨d, -, rfl⟩ := List.mem_map.mp hc
  split
  · exact ⟨by decide, by decide⟩
  · next hd =>
    obtain ⟨hlow, -⟩ := not_or.mp hd
    constructor <;> rintro rfl <;> exact hlow (by decide)

/-- Clearing control bytes keeps commas as they are. -/
theorem comma_mem_forLog {value : Bytes} : COMMA ∈ forLog value ↔ COMMA ∈ value := by
  simp only [forLog, List.mem_map]
  constructor
  · rintro ⟨c, hc, h⟩
    split at h
    · exact absurd h (by decide)
    · exact h ▸ hc
  · exact fun h => ⟨COMMA, h, by decide⟩

theorem cells_oneLine : ∀ cell ∈ input.cells unspecified, ∀ c ∈ cell, c ≠ 13 ∧ c ≠ 10 := by
  have hnum : ∀ s : Bytes, ∀ c ∈ csvNumericCell s, c ≠ 13 ∧ c ≠ 10 :=
    fun s c hc => not_lineEnd_of_numeric (List.mem_filter.mp hc).2
  have hvalue : ∀ value, ∀ c ∈ CsvRowInput.optionalCell unspecified value, c ≠ 13 ∧ c ≠ 10 :=
    fun value c hc => not_lineEnd_of_numeric (optionalCell_numeric value c hc)
  have hbrake : ∀ c ∈ formatBrakeLight input.brakeLight, c ≠ 13 ∧ c ≠ 10 :=
    fun c hc => not_lineEnd_of_numeric (formatBrakeLight_numeric _ c hc)
  have htext : ∀ s : Bytes, ∀ c ∈ forLog s, c ≠ 13 ∧ c ≠ 10 :=
    fun _ _ hc => not_lineEnd_of_mem_forLog hc
  simp only [CsvRowInput.cells, List.forall_mem_cons]
  exact ⟨hnum _, htext _, hvalue _, hvalue _, hbrake, hvalue _, hvalue _, hvalue _, hvalue _,
    hvalue _, hvalue _, htext _, hnum _, List.forall_mem_nil _⟩

/-- The texts are the only cells that can hold a comma. -/
theorem cells_commaFree_iff : (∀ cell ∈ input.cells unspecified, COMMA ∉ cell) ↔
    COMMA ∉ input.vehicleId ∧ COMMA ∉ input.gearSelector := by
  have hnum : ∀ s : Bytes, COMMA ∉ csvNumericCell s :=
    fun s => notMem_numeric fun c hc => (List.mem_filter.mp hc).2
  have hvalue : ∀ value, COMMA ∉ CsvRowInput.optionalCell unspecified value :=
    fun value => notMem_numeric (optionalCell_numeric value)
  have hbrake : COMMA ∉ formatBrakeLight input.brakeLight :=
    notMem_numeric (formatBrakeLight_numeric _)
  simp only [CsvRowInput.cells, List.forall_mem_cons, hnum, hvalue, hbrake, Label.fromUserInput,
    forLog_forLog, comma_mem_forLog, not_false_eq_true, true_and, List.not_mem_nil,
    false_implies, implies_true, and_true]

end Layout

/-- The row is one line, with no byte that ends it. -/
theorem CsvRowInput.line_oneLine (unspecified : Double → ℤ) (input : CsvRowInput) :
    ∀ c ∈ input.line unspecified, c ≠ 13 ∧ c ≠ 10 := by
  intro c hc
  rcases mem_intercalate hc with hsep | ⟨cell, hcell, hmem⟩
  · obtain rfl := List.mem_singleton.mp hsep
    exact ⟨by decide, by decide⟩
  · exact cells_oneLine cell hcell c hmem

/-- The layout is kept just when neither text has a comma. -/
theorem CsvRowInput.keepsLayout_iff (unspecified : Double → ℤ) (input : CsvRowInput) :
    input.KeepsLayout unspecified ↔ COMMA ∉ input.vehicleId ∧ COMMA ∉ input.gearSelector := by
  have hne : input.cells unspecified ≠ [] := List.cons_ne_nil _ _
  have hheader : csvHeaderLine.splitOn COMMA = csvHeaderNames :=
    (splitOn_intercalate_iff (List.cons_ne_nil _ _)).mpr
      fun name h => (csvHeaderNames_facts.2 name h).2.1
  rw [← @cells_commaFree_iff unspecified input, ← splitOn_intercalate_iff hne]
  constructor
  · exact fun h => h.columns
  · intro h
    refine ⟨input.line_oneLine unspecified, h, ?_⟩
    rw [CsvRowInput.line, h, hheader]
    rfl

/-- An idle row under a name. -/
def CsvRowInput.named (vehicleId : Bytes) : CsvRowInput where
  timestampMs := 1500
  vehicleId := vehicleId
  speedKmh := none
  throttlePercent := none
  brakeLight := none
  accelerationG := none
  steeringAngleDeg := none
  motorRpm := none
  motorHvVoltage := none
  motorHvCurrent := none
  motorTorqueNm := none
  gearSelector := []
  dbcSignalCount := 0

/-- The two words of a name stand in two columns. -/
theorem CsvRowInput.not_keepsLayout :
    ¬ (CsvRowInput.named (ascii "tesla,3")).KeepsLayout fun _ => 0 := by
  intro h
  have hcell : ascii "tesla,3" ∈ (CsvRowInput.named (ascii "tesla,3")).cells fun _ => 0 :=
    List.mem_cons_of_mem _ List.mem_cons_self
  have hsplit := notMem_of_mem_splitOn (h.columns.symm ▸ hcell)
  exact hsplit (by decide)

end VehicleSpy.Telemetry
