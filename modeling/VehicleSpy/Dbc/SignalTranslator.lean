import VehicleSpy.Dbc.SignalFactory

/-! # The two signal translators

The DBC translator keeps the last payload of each CAN id and builds a signal from all of
them; the OBD2 translator keeps the last value of each field. A reading of the wall clock
stands in for a missing timestamp.
-/

namespace VehicleSpy.Dbc

open Text

/-- One call of `translate`: the packet, its capture time, and the clock at the call. -/
structure Packet where
  rawData : Bytes
  timestampUtcMs : Option ℕ := none
  now : ℕ := 0
  deriving DecidableEq, Repr

def Packet.effectiveTs (p : Packet) : ℕ := p.timestampUtcMs.getD p.now

variable {D : Type}

/-- The factory's resolved fields and the accumulated frames. -/
structure DBCSignalTranslator where
  resolved : List ResolvedField
  accumulatedFrames : ℕ → Option Bytes := fun _ => none

namespace DBCSignalTranslator

def CAN_DATA_OFFSET : ℕ := 2

def CAN_FRAME_SIZE : ℕ := 10

def isValidPacket (rawData : Bytes) : Bool := CAN_FRAME_SIZE ≤ rawData.length

def extractCANId (frame : Bytes) : ℕ :=
  match frame with
  | lo :: hi :: _ => lo.toNat ||| hi.toNat <<< 8
  | _ => 0

def create (config : VehicleConfig) (parseResult : ParseResultObject D) : DBCSignalTranslator where
  resolved := VehicleSignalFactory.resolveMappings parseResult config

def accumulate (t : DBCSignalTranslator) (rawData : Bytes) : DBCSignalTranslator :=
  { t with
    accumulatedFrames := Function.update t.accumulatedFrames (extractCANId rawData)
      (some ((rawData.drop CAN_DATA_OFFSET).take (CAN_FRAME_SIZE - CAN_DATA_OFFSET))) }

def translate [Double D] (t : DBCSignalTranslator) (parseResult : ParseResultObject D)
    (p : Packet) : DBCSignalTranslator × Except Undefined (Option (VehicleSignal D)) :=
  if isValidPacket p.rawData then
    let t := t.accumulate p.rawData
    (t, (VehicleSignalFactory.build parseResult t.resolved t.accumulatedFrames p.effectiveTs).map
      some)
  else (t, .ok none)

/-- A packet changes the accumulated frames only. -/
@[simp] theorem resolved_translate [Double D] (t : DBCSignalTranslator)
    (parseResult : ParseResultObject D) (p : Packet) :
    (t.translate parseResult p).1.resolved = t.resolved := by
  unfold translate
  split <;> rfl

/-- Two parse results that give equal builds are not told apart. -/
theorem translate_congr [Double D] {t : DBCSignalTranslator} {o o' : ParseResultObject D}
    (h : ∀ frames ts, VehicleSignalFactory.build o t.resolved frames ts =
      VehicleSignalFactory.build o' t.resolved frames ts) (p : Packet) :
    t.translate o p = t.translate o' p := by
  unfold translate
  split
  · simp only [accumulate, h]
  · rfl

end DBCSignalTranslator

section OBD2Math

variable [Double D]

def obd2BytePercent (byte : Byte) : D :=
  Double.ofInt byte.toNat / Double.ofInt 255 * Double.ofInt 100

def obd2WordRPM (msb lsb : Byte) : D :=
  (Double.ofInt msb.toNat * Double.ofInt 256 + Double.ofInt lsb.toNat) / Double.ofInt 4

def obd2TempCelsius (byte : Byte) : D := Double.ofInt byte.toNat - Double.ofInt 40

def obd2RawValue (byte : Byte) : D := Double.ofInt byte.toNat

end OBD2Math

structure OBD2SignalTranslator (D : Type) where
  lastThrottle : D
  lastSpeed : D
  lastAcceleration : D
  lastBrake : D
  lastTimestamp : ℕ := 0
  deriving DecidableEq, Repr

namespace OBD2SignalTranslator

def PID_ENGINE_LOAD : Byte := 0x04
def PID_COOLANT_TEMP : Byte := 0x05
def PID_ENGINE_RPM : Byte := 0x0C
def PID_VEHICLE_SPEED : Byte := 0x0D
def PID_THROTTLE_POSITION : Byte := 0x11
def PID_FUEL_LEVEL : Byte := 0x2F
def PID_ACCELERATOR_POS_D : Byte := 0x5A
def PID_ACCELERATOR_POS_P : Byte := 0x5C
def PID_BRAKE_PRESSURE : Byte := 0xA4

variable [Double D]

def create : OBD2SignalTranslator D :=
  ⟨Double.ofInt 0, Double.ofInt 0, Double.ofInt 0, Double.ofInt 0, 0⟩

/-- At least mode, PID and one data byte, with a response mode in front. -/
def isValidPacket : Bytes → Bool
  | mode :: _ :: _ :: _ => 0x40 ≤ mode && mode ≤ 0x4F
  | _ => false

def extractPIDValue (pid : Byte) (data : Bytes) : D :=
  match data with
  | [] => Double.ofInt 0
  | a :: rest =>
    if pid = PID_VEHICLE_SPEED then obd2RawValue a
    else if pid = PID_THROTTLE_POSITION ∨ pid = PID_ENGINE_LOAD then obd2BytePercent a
    else if pid = PID_ENGINE_RPM then
      match rest with
      | b :: _ => obd2WordRPM a b
      | [] => obd2RawValue a
    else if pid = PID_COOLANT_TEMP then obd2TempCelsius a
    else if pid = PID_FUEL_LEVEL ∨ pid = PID_ACCELERATOR_POS_D then obd2BytePercent a
    else obd2RawValue a

def applyUpdate (t : OBD2SignalTranslator D) (pid : Byte) (value : D) (timestamp : ℕ) :
    OBD2SignalTranslator D :=
  let t := { t with lastTimestamp := timestamp }
  if pid = PID_THROTTLE_POSITION ∨ pid = PID_ACCELERATOR_POS_D ∨ pid = PID_ACCELERATOR_POS_P then
    { t with lastThrottle := value }
  else if pid = PID_VEHICLE_SPEED then { t with lastSpeed := value }
  else if pid = PID_ENGINE_LOAD then
    { t with
      lastAcceleration := value / Double.ofInt 100 * Double.ofInt 2 - Double.ofInt 1 }
  else if pid = PID_BRAKE_PRESSURE then { t with lastBrake := value }
  else t

def snapshot (t : OBD2SignalTranslator D) : VehicleSignal D :=
  { timestampUtcMs := t.lastTimestamp
    throttlePercent := some t.lastThrottle
    speedKmh := some t.lastSpeed
    accelerationG := some t.lastAcceleration
    brakePercent := some t.lastBrake }

def translate (t : OBD2SignalTranslator D) (p : Packet) :
    OBD2SignalTranslator D × Option (VehicleSignal D) :=
  match p.rawData with
  | mode :: pid :: data =>
    if isValidPacket (mode :: pid :: data) then
      let t := t.applyUpdate pid (extractPIDValue pid data) p.effectiveTs
      (t, some t.snapshot)
    else (t, none)
  | _ => (t, none)

end OBD2SignalTranslator

inductive SignalTranslator (D : Type)
  | dbc (t : DBCSignalTranslator)
  | obd2 (t : OBD2SignalTranslator D)

/-- `ISignalTranslator::translate`; only the DBC translator reads the parse result. -/
def SignalTranslator.translate [Double D] (parseResult : ParseResultObject D) (p : Packet) :
    SignalTranslator D → SignalTranslator D × Except Undefined (Option (VehicleSignal D))
  | .dbc t => ((.dbc (t.translate parseResult p).1), (t.translate parseResult p).2)
  | .obd2 t => (.obd2 (t.translate p).1, .ok (t.translate p).2)

end VehicleSpy.Dbc
