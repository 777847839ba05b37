import VehicleSpy.Pipeline.LiveTwaiSource

/-! # The ELM327 normaliser

A monitor line of the adapter becomes a frame; blank lines and the adapter's status texts are
skipped, and lines that look like frames but do not decode are malformed.
-/

namespace VehicleSpy.Pipeline

open Text

inductive NormaliserResult
  | skip
  | malformed
  | frame (bytes : Bytes)
  deriving DecidableEq, Repr

namespace Elm327Normaliser

open LiveTwaiSource (tokens rtrim frameBytes)

def CAN_PAYLOAD_BYTES : ℕ := 8
def CAN_11BIT_MAX : ℕ := 0x7FF

def isHex (s : Bytes) : Bool := s ≠ [] && s.all (isDigit 16)

def isBlank (s : Bytes) : Bool := s.all Text.isBlank

def parseHex (s : Bytes) : Option ℕ := fromChars 16 (2 ^ 32) s

/-- The status texts of the adapter. -/
def kKnown : List Bytes :=
  [ascii "OK", ascii "NO DATA", ascii "DATA ERROR", ascii "STOPPED", ascii "?",
    ascii "SEARCHING...", ascii "SEARCHING", ascii "ELM327", ascii "UNABLE TO CONNECT",
    ascii "BUS ERROR", ascii "BUFFER FULL", ascii "CAN ERROR", ascii "BUS INIT", ascii "ERROR"]

def isAdapterChatter (trimmed : Bytes) : Bool :=
  trimmed = [PROMPT] || kKnown.any (trimmed.map toupper = ·)

/-- One data byte of a frame; its token may have any number of digits. -/
def parseDataToken (tok : Bytes) : Option Byte :=
  match parseHex tok with
  | some v => if v ≤ 0xFF then some v.toUInt8 else none
  | none => none

def parseMonitorLine (line : Bytes) : NormaliserResult :=
  let trimmed := rtrim line
  if isBlank trimmed then .skip
  else if isAdapterChatter trimmed then .skip
  else
    match tokens trimmed with
    | [] => .skip
    | tok :: toks =>
      if isHex tok = false then .skip
      else if 3 < tok.length then .malformed
      else if CAN_PAYLOAD_BYTES < toks.length then .malformed
      else if toks.all isHex = false then .malformed
      else
        match parseHex tok with
        | none => .malformed
        | some canId =>
          if CAN_11BIT_MAX < canId then .malformed
          else
            match toks.mapM parseDataToken with
            | none => .malformed
            | some data => .frame (frameBytes canId data)

def normalise (line : Bytes) : NormaliserResult := parseMonitorLine line

end Elm327Normaliser

namespace LiveTwaiSource

/-- The frame that a line of an ELM327 transport becomes. -/
def elmFrame (line : Bytes) : Option TwaiFrame :=
  let trimmed := rtrim line
  if trimmed = [] then none
  else
    match Elm327Normaliser.normalise trimmed with
    | .frame bytes => some ⟨bytes, line⟩
    | _ => none

end LiveTwaiSource

end VehicleSpy.Pipeline
