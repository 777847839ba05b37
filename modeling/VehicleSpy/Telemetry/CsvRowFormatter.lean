import VehicleSpy.Machine.Binary64
import VehicleSpy.Text.Numbers

/-! # The renderer of decoded CSV rows

A row has thirteen cells: integers, text, a binary column and eight optional values of type
`double`, which are printed with two decimal places. Finite values are rationals, and each
operation on them rounds.
-/

namespace VehicleSpy.Telemetry

open Text Machine.Binary64

/-- Control bytes become question marks. -/
def forLog (value : Bytes) : Bytes := value.map fun c => if c < 0x20 ∨ c = 0x7F then 63 else c

@[simp] theorem forLog_forLog (value : Bytes) : forLog (forLog value) = forLog value := by
  rw [forLog, forLog, List.map_map]
  apply List.map_congr_left
  intro c _
  by_cases hc : c < 0x20 ∨ c = 0x7F
  · rw [Function.comp_apply, if_pos hc]
    rfl
  · rw [Function.comp_apply, if_neg hc, if_neg hc]

/-- A text without control bytes: a vehicle id or the label of a gear. -/
structure Label where
  asString : Bytes
  forLog_asString : forLog asString = asString
  deriving DecidableEq, Repr

namespace Label

def fromUserInput (raw : Bytes) : Label := ⟨forLog raw, forLog_forLog raw⟩

theorem fromUserInput_asString (label : Label) : fromUserInput label.asString = label := by
  obtain ⟨text, h⟩ := label
  simp only [fromUserInput, h]

end Label

abbrev VehicleId := Label
abbrev GearSelector := Label

structure CsvRowParams where
  timestampMs : UInt64
  vehicleId : VehicleId
  speedKmh : Option ℚ
  throttlePercent : Option ℚ
  brakeLight : Option Int32
  accelerationG : Option ℚ
  steeringAngleDeg : Option ℚ
  motorRpm : Option ℚ
  motorHvVoltage : Option ℚ
  motorHvCurrent : Option ℚ
  motorTorqueNm : Option ℚ
  gearSelector : GearSelector
  dbcSignalCount : Int32
  deriving DecidableEq

def isNumericByte (c : Byte) : Bool :=
  (48 ≤ c && c ≤ 57) || c == 45 || c == 43 || c == 46 || c == 101 || c == 69

def csvNumericCell (formatted : Bytes) : Bytes := formatted.filter isNumericByte

/-- The hundredths that a value is printed in. -/
def hundredths (value : ℚ) : ℤ := llround (rnd (value * 100))

/-- The `%02d` conversion of a number below a hundred. -/
def twoDigits (frac : ℤ) : Bytes := if frac < 10 then 48 :: decimal frac else decimal frac

/-- The text of a number of hundredths; a sign stands only in front of whole units. -/
def formatScaled (scaled : ℤ) : Bytes :=
  let whole := scaled.tdiv 100
  let frac := if scaled < 0 then -scaled.tmod 100 else scaled.tmod 100
  csvNumericCell (decimal whole) ++ [46] ++ csvNumericCell (twoDigits frac)

def formatOptional (value : Option ℚ) : Bytes :=
  match value with
  | none => []
  | some value => formatScaled (hundredths value)

def formatBrakeLight : Option Int32 → Bytes
  | none => []
  | some brakeLight => if brakeLight ≠ 0 then [49] else [48]

def csvHeaderNames : List Bytes :=
  [ascii "timestamp_ms", ascii "vehicle_id", ascii "speed_kmh", ascii "throttle_percent",
    ascii "brake_light", ascii "acceleration_g", ascii "steering_angle_deg", ascii "motor_rpm",
    ascii "motor_hv_voltage", ascii "motor_hv_current", ascii "motor_torque_nm",
    ascii "gear_selector", ascii "dbc_signal_count"]

def csvHeaderLine : Bytes := [COMMA].intercalate csvHeaderNames

def csvCells (params : CsvRowParams) : List Bytes :=
  [csvNumericCell (decimal params.timestampMs.toNat), forLog params.vehicleId.asString,
    formatOptional params.speedKmh, formatOptional params.throttlePercent,
    formatBrakeLight params.brakeLight, formatOptional params.accelerationG,
    formatOptional params.steeringAngleDeg, formatOptional params.motorRpm,
    formatOptional params.motorHvVoltage, formatOptional params.motorHvCurrent,
    formatOptional params.motorTorqueNm, forLog params.gearSelector.asString,
    csvNumericCell (decimal params.dbcSignalCount.toInt)]

/-- The cells between commas. -/
def csvRowLine (params : CsvRowParams) : Bytes := [COMMA].intercalate (csvCells params)

end VehicleSpy.Telemetry
