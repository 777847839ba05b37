import Mathlib.Logic.Function.Basic
import VehicleSpy.Dbc.SignalMapper

/-! # The signal factory

The mappings of a vehicle are resolved once, to pointers into the parse result that the
factory refers to. A parse result is an object whose content can be assigned; a pointer
into a content that has been replaced dangles, and reading through it is undefined.
-/

namespace VehicleSpy.Dbc

open Text

structure VehicleConfig where
  dbcFilePath : Bytes
  /-- Signal names and field names, in the iteration order of the map. -/
  signalMappings : List (Bytes × Bytes)
  isCANProtocol : Bool := false
  deriving DecidableEq, Repr

structure VehicleSignal (D : Type) where
  timestampUtcMs : ℕ := 0
  throttlePercent : Option D := none
  speedKmh : Option D := none
  accelerationG : Option D := none
  brakePercent : Option D := none
  brakeLight : Option Bool := none
  steeringAngleDeg : Option D := none
  motorRpm : Option D := none
  motorHvVoltage : Option D := none
  motorHvCurrent : Option D := none
  motorTorqueNm : Option D := none
  gearSelector : Option ℤ := none
  deriving DecidableEq, Repr

/-- Behaviour that the language leaves undefined. -/
inductive Undefined | danglingPointer
  deriving DecidableEq, Repr

/-- A `DBCParseResult` variable; each assignment to it frees the content before. -/
structure ParseResultObject (D : Type) where
  generation : ℕ := 0
  content : DBCParseResult D := []
  deriving DecidableEq, Repr

/-- A pointer to a definition inside the content of one assignment. -/
structure DefPtr where
  generation : ℕ
  entry : ℕ
  index : ℕ
  deriving DecidableEq, Repr

namespace ParseResultObject

variable {D : Type} (o : ParseResultObject D)

def assign (content : DBCParseResult D) : ParseResultObject D := ⟨o.generation + 1, content⟩

def deref (p : DefPtr) : Except Undefined (DBCSignalDefinition D) :=
  if p.generation = o.generation then
    match (o.content[p.entry]?).bind (·.2[p.index]?) with
    | some definition => .ok definition
    | none => .error .danglingPointer
  else .error .danglingPointer

end ParseResultObject

/-- What a mapped field is decoded to; the slot is an index of the numeric outputs. -/
inductive FieldTarget
  | Numeric (slot : Fin 9)
  | Gear
  | BrakeLight
  | Ignored
  deriving DecidableEq, Repr

structure ResolvedField where
  target : FieldTarget
  canId : ℕ
  defn : Option DefPtr
  deriving DecidableEq, Repr

namespace VehicleSignalFactory

def IDX_THROTTLE : Fin 9 := 0
def IDX_SPEED : Fin 9 := 1
def IDX_ACCEL : Fin 9 := 2
def IDX_BRAKE : Fin 9 := 3
def IDX_STEERING : Fin 9 := 4
def IDX_RPM : Fin 9 := 5
def IDX_HV_VOLTAGE : Fin 9 := 6
def IDX_HV_CURRENT : Fin 9 := 7
def IDX_TORQUE : Fin 9 := 8

def targetFor (fieldName : Bytes) : FieldTarget :=
  if fieldName = ascii "throttlePercent" then .Numeric IDX_THROTTLE
  else if fieldName = ascii "speedKmh" then .Numeric IDX_SPEED
  else if fieldName = ascii "accelerationG" then .Numeric IDX_ACCEL
  else if fieldName = ascii "brakePercent" then .Numeric IDX_BRAKE
  else if fieldName = ascii "steeringAngleDeg" then .Numeric IDX_STEERING
  else if fieldName = ascii "motorRpm" then .Numeric IDX_RPM
  else if fieldName = ascii "motorHvVoltage" then .Numeric IDX_HV_VOLTAGE
  else if fieldName = ascii "motorHvCurrent" then .Numeric IDX_HV_CURRENT
  else if fieldName = ascii "motorTorqueNm" then .Numeric IDX_TORQUE
  else if fieldName = ascii "gearSelector" then .Gear
  else if fieldName = ascii "brakeLight" then .BrakeLight
  else .Ignored

variable {D : Type} (o : ParseResultObject D)

/-- The first definition of that name, in the iteration order of the messages. -/
def locateSignal (signalName : Bytes) : Option (ℕ × DefPtr) := do
  let entry ← o.content.findIdx? fun message => message.2.any (·.name = signalName)
  let message ← o.content[entry]?
  let index ← message.2.findIdx? (·.name = signalName)
  return (message.1, ⟨o.generation, entry, index⟩)

def resolveMapping (mapping : Bytes × Bytes) : ResolvedField :=
  match targetFor mapping.2 with
  | .Ignored => ⟨.Ignored, 0, none⟩
  | target =>
    match locateSignal o mapping.1 with
    | some (canId, p) => ⟨target, canId, some p⟩
    | none => ⟨.Ignored, 0, none⟩

def resolveMappings (config : VehicleConfig) : List ResolvedField :=
  config.signalMappings.map (resolveMapping o)

/-- The output buffers of `build`. -/
structure Outputs (D : Type) where
  numeric : Fin 9 → Option D := fun _ => none
  gear : Option ℤ := none
  brakeLight : Option Bool := none

variable [Double D]

/-- The effect of a decoded value; a field that does not decode keeps its output. -/
def decodeField (target : FieldTarget) (canId : ℕ) (frame : Bytes)
    (definition : DBCSignalDefinition D) (out : Outputs D) : Outputs D :=
  match target with
  | .Numeric slot =>
    match DBCSignalMapper.mapSignal frame definition with
    | some value => { out with numeric := Function.update out.numeric slot (some value) }
    | none => out
  | .Gear =>
    match DBCSignalMapper.mapGearSignal frame canId definition.name o.content with
    | some gear => { out with gear := some gear }
    | none => out
  | .BrakeLight =>
    match DBCSignalMapper.mapSignal frame definition with
    | some value => { out with brakeLight := some (Double.eq value (Double.ofInt 1)) }
    | none => out
  | .Ignored => out

def buildField (frames : ℕ → Option Bytes) (out : Outputs D) (field : ResolvedField) :
    Except Undefined (Outputs D) :=
  match field.defn with
  | none => .ok out
  | some p =>
    match frames field.canId with
    | none => .ok out
    | some frame => (o.deref p).map fun definition =>
        decodeField o field.target field.canId frame definition out

def Outputs.toSignal (out : Outputs D) (timestampUtcMs : ℕ) : VehicleSignal D where
  timestampUtcMs := timestampUtcMs
  throttlePercent := out.numeric IDX_THROTTLE
  speedKmh := out.numeric IDX_SPEED
  accelerationG := out.numeric IDX_ACCEL
  brakePercent := out.numeric IDX_BRAKE
  brakeLight := out.brakeLight
  steeringAngleDeg := out.numeric IDX_STEERING
  motorRpm := out.numeric IDX_RPM
  motorHvVoltage := out.numeric IDX_HV_VOLTAGE
  motorHvCurrent := out.numeric IDX_HV_CURRENT
  motorTorqueNm := out.numeric IDX_TORQUE
  gearSelector := out.gear

def build (resolved : List ResolvedField) (frames : ℕ → Option Bytes) (timestampUtcMs : ℕ) :
    Except Undefined (VehicleSignal D) :=
  (resolved.foldlM (buildField o frames) {}).map (·.toSignal timestampUtcMs)

end VehicleSignalFactory

end VehicleSpy.Dbc
