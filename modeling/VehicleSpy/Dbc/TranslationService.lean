import VehicleSpy.Machine.Run
import VehicleSpy.Dbc.ExecutablePath
import VehicleSpy.Dbc.SignalTranslator

/-! # The translation service

Loads a vehicle, from its registered file, from given content or from a given path, and
decodes frames with the translator of the last load. The service owns the parse result
that a DBC translator reads through.
-/

namespace VehicleSpy.Dbc

open Text Machine

inductive VehicleProtocol | CAN | OBD2 | Simulation
  deriving DecidableEq, Repr

/-- `registerVehicle` replaces the config of a known id. -/
abbrev VehicleConfigRegistry := List (Bytes × VehicleConfig)

def VehicleConfigRegistry.getConfig (registry : VehicleConfigRegistry) (vehicleId : Bytes) :
    Option VehicleConfig :=
  (registry.find? (·.1 = vehicleId)).map Prod.snd

inductive DBCLoadFailure.Stage | None | UnknownVehicle | Open | ZeroSignals
  deriving DecidableEq, Repr

structure DBCLoadFailure where
  stage : DBCLoadFailure.Stage := .None
  vehicleId : Bytes := []
  resourcePath : Bytes := []
  resolvedPath : Bytes := []
  candidatesTried : List Bytes := []
  deriving DecidableEq, Repr

structure DBCTranslationService (D : Type) where
  registry : VehicleConfigRegistry
  parseResult : ParseResultObject D := {}
  translator : Option (SignalTranslator D) := none
  protocol : VehicleProtocol := .Simulation
  vehicleId : Bytes := []
  loaded : Bool := false
  lastFailure : DBCLoadFailure := {}

inductive ServiceCall
  | loadVehicle (vehicleId : Bytes) (protocol : VehicleProtocol) (files : Files)
  | loadVehicleWithContent (vehicleId : Bytes) (protocol : VehicleProtocol) (dbcContent : Bytes)
  | loadVehicleFromPath (vehicleId : Bytes) (protocol : VehicleProtocol) (path : Bytes)
      (files : Files)
  | processFrame (packet : Packet)

inductive ServiceResult (D : Type)
  | load (ok : Bool)
  | frame (result : Except Undefined (Option (VehicleSignal D)))

namespace DBCTranslationService

variable {D : Type} [Double D] (stod : Bytes → Option D)

def create (registry : VehicleConfigRegistry) : DBCTranslationService D := { registry := registry }

/-- `DBCFileParser::parseFile`, which resolves its path again. -/
def parseFile (files : Files) (dbcFilePath : Bytes) : DBCParseResult D :=
  match files.read (ExecutablePath.resolveResource files dbcFilePath) with
  | some content => DBCFileParser.parseString stod content
  | none => []

variable (s : DBCTranslationService D)

/-- What the three loads share: they differ in where the definitions come from, and in what
they record when there are none. -/
def load (vehicleId : Bytes) (protocol : VehicleProtocol)
    (parse : VehicleConfig → DBCParseResult D) (failure : VehicleConfig → DBCLoadFailure) :
    DBCTranslationService D × Bool :=
  let config := s.registry.getConfig vehicleId
  let s := { s with lastFailure := { vehicleId := vehicleId } }
  let isCAN := config.any (·.isCANProtocol)
  if protocol = .CAN ∨ isCAN ∧ protocol ≠ .OBD2 then
    match config with
    | none =>
      ({ s with lastFailure := { stage := .UnknownVehicle, vehicleId := vehicleId } }, false)
    | some config =>
      let s := { s with parseResult := s.parseResult.assign (parse config) }
      if s.parseResult.content = [] then ({ s with lastFailure := failure config }, false)
      else
        ({ s with
            translator := some (.dbc (DBCSignalTranslator.create config s.parseResult))
            protocol := .CAN
            loaded := true
            vehicleId := vehicleId }, true)
  else if protocol = .OBD2 ∨ config = none ∨ ¬ isCAN then
    ({ s with
        translator := some (.obd2 OBD2SignalTranslator.create)
        protocol := .OBD2
        loaded := true
        vehicleId := vehicleId }, true)
  else
    ({ s with translator := none, protocol := protocol, loaded := true, vehicleId := vehicleId },
      true)

/-- Why a file gave no signals. -/
def fileFailure (vehicleId resourcePath : Bytes) (files : Files) : DBCLoadFailure :=
  let dbcPath := ExecutablePath.resolveResource files resourcePath
  { stage := if files.openable dbcPath then .ZeroSignals else .Open
    vehicleId := vehicleId
    resourcePath := resourcePath
    resolvedPath := dbcPath
    candidatesTried := ExecutablePath.resourceCandidates files resourcePath }

def loadVehicle (vehicleId : Bytes) (protocol : VehicleProtocol) (files : Files) :
    DBCTranslationService D × Bool :=
  s.load vehicleId protocol
    (fun config => parseFile stod files (ExecutablePath.resolveResource files config.dbcFilePath))
    (fun config => fileFailure vehicleId config.dbcFilePath files)

def loadVehicleWithContent (vehicleId : Bytes) (protocol : VehicleProtocol) (dbcContent : Bytes) :
    DBCTranslationService D × Bool :=
  s.load vehicleId protocol (fun _ => DBCFileParser.parseString stod dbcContent)
    (fun _ =>
      { stage := .ZeroSignals
        vehicleId := vehicleId
        resourcePath := ascii "<inline DBC content>" })

def loadVehicleFromPath (vehicleId : Bytes) (protocol : VehicleProtocol) (path : Bytes)
    (files : Files) : DBCTranslationService D × Bool :=
  s.load vehicleId protocol
    (fun _ => parseFile stod files (ExecutablePath.resolveResource files path))
    (fun _ => fileFailure vehicleId path files)

def processFrame (packet : Packet) :
    DBCTranslationService D × Except Undefined (Option (VehicleSignal D)) :=
  if s.loaded then
    match s.translator with
    | some t =>
      ({ s with translator := some (t.translate s.parseResult packet).1 },
        (t.translate s.parseResult packet).2)
    | none => (s, .ok none)
  else (s, .ok none)

def step : ServiceCall → DBCTranslationService D × List (ServiceResult D)
  | .loadVehicle vehicleId protocol files =>
    let r := s.loadVehicle stod vehicleId protocol files
    (r.1, [.load r.2])
  | .loadVehicleWithContent vehicleId protocol dbcContent =>
    let r := s.loadVehicleWithContent stod vehicleId protocol dbcContent
    (r.1, [.load r.2])
  | .loadVehicleFromPath vehicleId protocol path files =>
    let r := s.loadVehicleFromPath stod vehicleId protocol path files
    (r.1, [.load r.2])
  | .processFrame packet =>
    let r := s.processFrame packet
    (r.1, [.frame r.2])

end DBCTranslationService

end VehicleSpy.Dbc
