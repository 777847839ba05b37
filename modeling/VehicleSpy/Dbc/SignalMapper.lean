import Mathlib.Algebra.Order.Ring.Unbundled.Rat
import VehicleSpy.Dbc.FileParser

/-! # Decoding one signal of a frame

Bit extraction in both byte orders, sign extension, scaling and clamping, and the value
tables of gear signals. The operations of `double` are those of a class; the rationals
are its exact instance.
-/

namespace VehicleSpy.Dbc

open Text

/-- The operations on `double` that the decoders use. -/
class Double (D : Type) extends Add D, Sub D, Mul D, Div D where
  ofInt : ℤ → D
  lt : D → D → Bool
  eq : D → D → Bool

instance : Double ℚ where
  ofInt n := n
  lt a b := decide (a < b)
  eq a b := decide (a = b)

namespace Gear

def PARK : ℤ := -2
def REVERSE : ℤ := -1
def NEUTRAL : ℤ := 0
def AUTO_1 : ℤ := 4097

end Gear

/-- `std::clamp`. -/
def clamp {D : Type} [Double D] (v lo hi : D) : D :=
  if Double.lt v lo then lo else if Double.lt hi v then hi else v

namespace CANDecoder

/-- A `uint64_t` read as an `int64_t`. -/
def toInt64 (raw : ℕ) : ℤ := (raw : ℤ).bmod (2 ^ 64)

/-- Two's complement; the raw value of a signal without bits is zero. -/
def toSigned (raw bitLength : ℕ) : ℤ :=
  if 64 ≤ bitLength then toInt64 raw
  else if raw.testBit (bitLength - 1) then toInt64 (raw ||| (2 ^ 64 - 2 ^ bitLength))
  else toInt64 raw

end CANDecoder

namespace DBCSignalMapper

variable {D : Type} (frame : Bytes) (definition : DBCSignalDefinition D)

def bitAt (pos : ℕ) : Bool :=
  match frame[pos / 8]? with
  | some byte => byte.toNat.testBit (pos % 8)
  | none => false

/-- The next position of the sawtooth walk, from the lowest bit of a byte to the next byte. -/
def nextBit (dbcBit : ℕ) : ℕ := if dbcBit % 8 = 0 then (dbcBit + 15) % 2 ^ 64 else dbcBit - 1

def setBit (result i : ℕ) (bit : Bool) : ℕ := if bit then result ||| 1 <<< i else result

def extractRawBits : ℕ :=
  let bits := List.range definition.bitLength
  if definition.bitLength = 0 ∨ 64 < definition.bitLength then 0
  else
    match definition.byteOrder with
    | .Intel =>
      bits.foldl (fun result i =>
        setBit result i (bitAt frame ((definition.startBit + i) % 2 ^ 64))) 0
    | .Motorola =>
      (bits.foldl (fun st i =>
        (setBit st.1 (definition.bitLength - 1 - i) (bitAt frame st.2), nextBit st.2))
        (0, definition.startBit)).1

section Physical

variable [Double D]

def applyScaleOffsetClamp (rawBits : ℕ) : D :=
  let raw : ℤ :=
    if definition.isSigned then CANDecoder.toSigned rawBits definition.bitLength else rawBits
  clamp (Double.ofInt raw * definition.scale + definition.offset) definition.min definition.max

/-- The last bit is computed in `size_t`, so an empty signal at bit zero wraps around. -/
def mapSignal : Option D :=
  if frame.length * 8 ≤ (definition.startBit + definition.bitLength + (2 ^ 64 - 1)) % 2 ^ 64 then
    none
  else some (applyScaleOffsetClamp definition (extractRawBits frame definition))

end Physical

/-- A matching entry with an unknown description does not end the search. -/
def mapValueTableToGear (rawValue : ℤ) (valueTable : List DBCValueEntry) : Option ℤ :=
  valueTable.findSome? fun entry =>
    if entry.value = rawValue then
      if entry.description = ascii "DI_GEAR_P" then some Gear.PARK
      else if entry.description = ascii "DI_GEAR_R" then some Gear.REVERSE
      else if entry.description = ascii "DI_GEAR_N" then some Gear.NEUTRAL
      else if entry.description = ascii "DI_GEAR_D" then some Gear.AUTO_1
      else none
    else none

def decodeGear : Option ℤ :=
  let rawBits := extractRawBits frame definition
  let rawValue := CANDecoder.toInt64 rawBits
  if rawValue = 0 ∨ rawValue = 7 then none
  else if definition.valueTable = [] then some ((rawBits : ℤ).bmod (2 ^ 32))
  else mapValueTableToGear rawValue definition.valueTable

/-- The first definition of that name under the id decides. -/
def mapGearSignal (canId : ℕ) (signalName : Bytes) (definitions : DBCParseResult D) : Option ℤ :=
  (signalsFor definitions canId).bind fun defs =>
    (defs.find? (·.name = signalName)).bind (decodeGear frame)

end DBCSignalMapper

end VehicleSpy.Dbc
