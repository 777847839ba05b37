import VehicleSpy.Telemetry.CsvRowFormatter

/-! # The reader of decoded CSV files

A line is cut at its commas, and each column is read from the cell under its name: doubles with a
fallback, integers, text. A cast of a `double` that its type does not hold is undefined.
-/

namespace VehicleSpy.Telemetry

open Text Machine.Binary64

section Numbers

/-- What `isspace` holds of. -/
def isSpace (c : Byte) : Bool := c == 32 || (9 ≤ c && c ≤ 13)

/-- Whether a minus stands in front, and what stands behind a sign. -/
def takeSign : Bytes → Bool × Bytes
  | 45 :: s => (true, s)
  | 43 :: s => (false, s)
  | s => (false, s)

/-- The power of ten of an exponent, if one stands in front. -/
def exponent : Bytes → ℤ
  | e :: s =>
    if e = 101 ∨ e = 69 then
      let (negative, s) := takeSign s
      let digits := s.takeWhile (isDigit 10)
      if negative then -(numValue 10 digits : ℤ) else numValue 10 digits
    else 0
  | [] => 0

/-- `std::stod` on a decimal number, whatever follows it: the nearest `double`. It throws if there
is no digit, and if the value is too great or too small for a normal number. -/
def stod (s : Bytes) : Option ℚ :=
  let (negative, s) := takeSign (s.dropWhile isSpace)
  let whole := s.takeWhile (isDigit 10)
  let s := s.dropWhile (isDigit 10)
  let frac := if s.head? = some 46 then s.tail.takeWhile (isDigit 10) else []
  let s := if s.head? = some 46 then s.tail.dropWhile (isDigit 10) else s
  if whole ++ frac = [] then none
  else
    let exact : ℚ := numValue 10 (whole ++ frac) * 10 ^ (exponent s - frac.length)
    if 2 ^ 1024 ≤ rnd exact ∨ 0 < exact ∧ exact < minNormal then none
    else some (if negative then -rnd exact else rnd exact)

/-- `std::stoi`, whatever follows the number. -/
def stoi (s : Bytes) : Option ℤ :=
  let (negative, s) := takeSign (s.dropWhile isSpace)
  let digits := s.takeWhile (isDigit 10)
  if digits = [] then none
  else
    let value : ℤ := if negative then -(numValue 10 digits : ℤ) else numValue 10 digits
    if -2 ^ 31 ≤ value ∧ value < 2 ^ 31 then some value else none

def toDouble (s : Bytes) (fallback : ℚ) : ℚ := (stod s).getD fallback

def toInt (s : Bytes) (fallback : Int32) : Int32 := ((stoi s).map Int32.ofInt).getD fallback

def toOptionalInt (s : Bytes) : Option Int32 := (stoi s).map Int32.ofInt

/-- `static_cast<std::uint64_t>` of a `double`. -/
def castUInt64 (d : ℚ) : Option UInt64 :=
  if -1 < d ∧ d < 2 ^ 64 then some (UInt64.ofNat ⌊d⌋₊) else none

end Numbers

structure CsvTelemetryRow where
  timestamp_ms : UInt64 := 0
  vehicle_id : VehicleId := ⟨[], rfl⟩
  speed_kmh : ℚ := 0
  throttle_percent : ℚ := 0
  brake_light : Option Int32 := none
  acceleration_g : ℚ := 0
  steering_angle_deg : ℚ := 0
  motor_rpm : ℚ := 0
  motor_hv_voltage : ℚ := 0
  motor_hv_current : ℚ := 0
  motor_torque_nm : ℚ := 0
  gear_selector : GearSelector := ⟨[], rfl⟩
  dbc_signal_count : Int32 := 0
  deriving DecidableEq

/-- The fields between commas; nothing stands behind a comma at the end. -/
def splitCsv (line : Bytes) : List Bytes :=
  let fields := line.splitOn COMMA
  (if fields.getLast? = some [] then fields.dropLast else fields).map trim

def findColumn (headers : List Bytes) (name : Bytes) : Option ℕ := headers.findIdx? (· == name)

namespace FileCsvTelemetrySource

variable (headers : List Bytes)

/-- `parseRow` of a source with the given header fields. A line without fields leaves `out` as it
is; the result is undefined if the cast of the timestamp is. -/
def parseRow (line : Bytes) (out : CsvTelemetryRow) : Option (Bool × CsvTelemetryRow) :=
  let fields := splitCsv line
  if fields = [] then some (false, out)
  else
    let fields := fields ++ List.replicate (headers.length - fields.length) []
    let cell (name : Bytes) : Option Bytes := (findColumn headers name).bind (fields[·]?)
    let get (name : Bytes) (fallback : ℚ) : ℚ :=
      ((cell name).map (toDouble · fallback)).getD fallback
    let getInt (name : Bytes) (fallback : Int32) : Int32 :=
      ((cell name).map (toInt · fallback)).getD fallback
    let getStr (name : Bytes) : Bytes := (cell name).getD []
    let getOptInt (name : Bytes) : Option Int32 := (cell name).bind toOptionalInt
    (castUInt64 (get (ascii "timestamp_ms") 0)).map fun timestamp => (true,
      { timestamp_ms := timestamp
        vehicle_id := Label.fromUserInput (getStr (ascii "vehicle_id"))
        gear_selector := Label.fromUserInput (getStr (ascii "gear_selector"))
        speed_kmh := get (ascii "speed_kmh") 0
        throttle_percent := get (ascii "throttle_percent") 0
        brake_light := getOptInt (ascii "brake_light")
        acceleration_g := get (ascii "acceleration_g") 0
        steering_angle_deg := get (ascii "steering_angle_deg") 0
        motor_rpm := get (ascii "motor_rpm") 0
        motor_hv_voltage := get (ascii "motor_hv_voltage") 0
        motor_hv_current := get (ascii "motor_hv_current") 0
        motor_torque_nm := get (ascii "motor_torque_nm") 0
        dbc_signal_count := getInt (ascii "dbc_signal_count") 0 })

end FileCsvTelemetrySource

/-- The replayed row as the renderer gets it: every value is present. -/
def rowParams (row : CsvTelemetryRow) : CsvRowParams where
  timestampMs := row.timestamp_ms
  vehicleId := row.vehicle_id
  speedKmh := some row.speed_kmh
  throttlePercent := some row.throttle_percent
  brakeLight := row.brake_light
  accelerationG := some row.acceleration_g
  steeringAngleDeg := some row.steering_angle_deg
  motorRpm := some row.motor_rpm
  motorHvVoltage := some row.motor_hv_voltage
  motorHvCurrent := some row.motor_hv_current
  motorTorqueNm := some row.motor_torque_nm
  gearSelector := row.gear_selector
  dbcSignalCount := row.dbc_signal_count

end VehicleSpy.Telemetry
