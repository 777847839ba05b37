import VehicleSpy.Text.Numbers

/-! # The DBC file parser

A line state machine: `BO_` lines set the current message, `SG_` lines add a signal to
it, `VAL_` lines add a value table. A cursor into a line is the rest of the line. The
type of floating-point numbers and `std::stod`, which may throw, are parameters.
-/

namespace VehicleSpy.Dbc

open Text

inductive DBCByteOrder | Motorola | Intel
  deriving DecidableEq, Repr

structure DBCValueEntry where
  value : ℤ
  description : Bytes
  deriving DecidableEq, Repr

structure DBCSignalDefinition (D : Type) where
  canId : ℕ
  name : Bytes
  startBit : ℕ
  bitLength : ℕ
  byteOrder : DBCByteOrder
  scale : D
  offset : D
  isSigned : Bool
  unit : Bytes
  min : D
  max : D
  valueTable : List DBCValueEntry
  deriving DecidableEq, Repr

/-- The definitions of each message, by CAN id, in the order in which the ids first occur. -/
abbrev DBCParseResult (D : Type) := List (ℕ × List (DBCSignalDefinition D))

/-- Why a line yields no signal: it is malformed, or a number conversion throws. -/
inductive Stop | rejected | thrown
  deriving DecidableEq, Repr

structure ValueTable where
  canId : ℕ
  signalName : Bytes
  entries : List DBCValueEntry
  deriving DecidableEq, Repr

variable {D : Type} (stod : Bytes → Option D)

section Cursor

def skipWs (s : Bytes) : Bytes := s.dropWhile isSpaceOrTab

def consumeChar (expected : Byte) : Bytes → Except Stop Bytes
  | c :: s => if c = expected then .ok s else .error .rejected
  | [] => .error .rejected

/-- The text up to a delimiter, and the rest behind it. -/
def upTo (delimiter : Byte) (s : Bytes) : Except Stop (Bytes × Bytes) :=
  match cutAt delimiter s with
  | some r => .ok r
  | none => .error .rejected

def readSize (sv : Bytes) : Except Stop ℕ :=
  match fromChars 10 (2 ^ 64) sv with
  | some v => .ok v
  | none => .error .rejected

/-- A trimmed number; the exception of `std::stod` ends the whole parse. -/
def readDouble (sv : Bytes) : Except Stop D :=
  match stod (trim sv) with
  | some v => .ok v
  | none => .error .thrown

end Cursor

section Signal

/-- The signal name, and the cursor behind an optional multiplexor mark. -/
def parseNameAndMultiplexor (s : Bytes) : Bytes × Bytes :=
  let inName (c : Byte) : Bool := c ≠ SP && c ≠ COLON
  let rest := skipWs (s.dropWhile inName)
  let rest := match rest with
    | 77 :: r => skipWs r
    | 109 :: r => skipWs (r.dropWhile (isDigit 10))
    | r => r
  (s.takeWhile inName, rest)

structure BitLayout where
  startBit : ℕ
  bitLength : ℕ
  byteOrder : DBCByteOrder
  isSigned : Bool

def parseStartBitAndLength (s : Bytes) : Except Stop (BitLayout × Bytes) := do
  let s ← consumeChar COLON s
  let (start, s) ← upTo 124 (skipWs s)
  let startBit ← readSize start
  let (length, s) ← upTo 64 s
  let bitLength ← readSize length
  match s with
  | order :: sign :: s =>
    return (⟨startBit, bitLength, if order = 48 then .Motorola else .Intel, sign = 45⟩, s)
  | _ => .error .rejected

/-- A pair of numbers between an opening, a middle and a closing delimiter. -/
def parsePair (opening middle closing : Byte) (s : Bytes) : Except Stop ((D × D) × Bytes) := do
  let s ← consumeChar opening (skipWs s)
  let (first, s) ← upTo middle s
  let a ← readDouble stod first
  let (second, s) ← upTo closing s
  let b ← readDouble stod second
  return ((a, b), s)

def parseScaleOffset (s : Bytes) : Except Stop ((D × D) × Bytes) := parsePair stod 40 44 41 s

def parseMinMax (s : Bytes) : Except Stop ((D × D) × Bytes) := parsePair stod 91 124 93 s

/-- The optional unit; without a closing quote it stays empty. -/
def parseUnit (s : Bytes) : Bytes :=
  match skipWs s with
  | 34 :: r => ((cutAt 34 r).map Prod.fst).getD []
  | _ => []

def parseSignalDefinition (line : Bytes) (currentCanId : ℕ) :
    Except Stop (DBCSignalDefinition D) := do
  let some pos := findStr (ascii "SG_") line | .error .rejected
  let (name, s) := parseNameAndMultiplexor (skipWs (line.drop (pos + 3)))
  let (layout, s) ← parseStartBitAndLength s
  let ((scale, offset), s) ← parseScaleOffset stod s
  let ((min, max), s) ← parseMinMax stod s
  return ⟨currentCanId, name, layout.startBit, layout.bitLength, layout.byteOrder, scale, offset,
    layout.isSigned, parseUnit s, min, max, []⟩

end Signal

section Values

/-- One value-table entry, and the cursor behind it. -/
def parseOneValueEntry (s : Bytes) : Option (DBCValueEntry × Bytes) := do
  let s := s.dropWhile fun c => isSpaceOrTab c || c = 59
  let token := s.takeWhile (!isSpaceOrTab ·)
  let value ← fromCharsSigned 64 token
  match skipWs (s.dropWhile (!isSpaceOrTab ·)) with
  | 34 :: r => do
    let (label, rest) ← cutAt 34 r
    return (⟨value, label⟩, rest)
  | _ => none

/-- The entries up to the first malformed one; each of them shortens the text. -/
def parseValueEntries (fuel : ℕ) (s : Bytes) : List DBCValueEntry :=
  match fuel with
  | 0 => []
  | fuel + 1 =>
    match parseOneValueEntry s with
    | some (entry, rest) => entry :: parseValueEntries fuel rest
    | none => []

def parseTrailingUint16 (s : Bytes) : Option ℕ × Bytes :=
  let s := skipWs s
  (fromChars 10 (2 ^ 16) (s.takeWhile (!isSpaceOrTab ·)), s.dropWhile (!isSpaceOrTab ·))

/-- The id on a line that begins with `BO_`. -/
def parseBoLine (trimmed : Bytes) : Option ℕ := do
  let (_, s) ← cutAt SP (trimmed.drop 3)
  (parseTrailingUint16 s).1

def parseValLine (trimmed : Bytes) : Option ValueTable := do
  let (_, s) ← cutAt SP (trimmed.drop 4)
  let (id, s) := parseTrailingUint16 s
  let canId ← id
  let s := skipWs s
  let rest := skipWs (s.dropWhile (!isSpaceOrTab ·))
  let entries := parseValueEntries rest.length rest
  if entries = [] then none else some ⟨canId, s.takeWhile (!isSpaceOrTab ·), entries⟩

end Values

section Result

/-- A value table goes to the first signal of its message and name. -/
def applyValueTable (signals : List (DBCSignalDefinition D)) (table : ValueTable) :
    List (DBCSignalDefinition D) :=
  match signals with
  | [] => []
  | sig :: signals =>
    if sig.canId = table.canId ∧ sig.name = table.signalName then
      { sig with valueTable := table.entries } :: signals
    else sig :: applyValueTable signals table

def addSignal : DBCParseResult D → DBCSignalDefinition D → DBCParseResult D
  | [], sig => [(sig.canId, [sig])]
  | (canId, defs) :: result, sig =>
    if canId = sig.canId then (canId, defs ++ [sig]) :: result
    else (canId, defs) :: addSignal result sig

def buildResult (signals : List (DBCSignalDefinition D)) (valueTables : List ValueTable) :
    DBCParseResult D :=
  (valueTables.foldl applyValueTable signals).foldl addSignal []

/-- `signalsByCanId.find`. -/
def signalsFor (result : DBCParseResult D) (canId : ℕ) : Option (List (DBCSignalDefinition D)) :=
  (result.find? (·.1 = canId)).map Prod.snd

end Result

structure ParserState (D : Type) where
  currentCanId : ℕ := 0
  signals : List (DBCSignalDefinition D) := []
  valueTables : List ValueTable := []

namespace DBCFileParser

/-- The non-empty trimmed lines of a text. -/
def trimmedLines (text : Bytes) : List Bytes :=
  ((text.splitOnP (· == LF)).map trim).filter (· ≠ [])

def isBo (line : Bytes) : Bool := startsWith (ascii "BO_") line

def isSg (line : Bytes) : Bool := startsWith (ascii "SG_") line

/-- One turn of the loop of `parseString`. -/
def parseLine (st : ParserState D) (line : Bytes) : Except Stop (ParserState D) :=
  if isBo line then
    match parseBoLine line with
    | some canId => .ok { st with currentCanId := canId }
    | none => .ok st
  else if isSg line then
    if st.currentCanId = 0 then .ok st
    else
      match parseSignalDefinition stod line st.currentCanId with
      | .ok sig => .ok { st with signals := st.signals ++ [sig] }
      | .error .rejected => .ok st
      | .error .thrown => .error .thrown
  else if startsWith (ascii "VAL_") line then
    match parseValLine line with
    | some table => .ok { st with valueTables := st.valueTables ++ [table] }
    | none => .ok st
  else .ok st

/-- An exception anywhere gives the empty result. -/
def parseString (text : Bytes) : DBCParseResult D :=
  match (trimmedLines text).foldlM (parseLine stod) {} with
  | .ok st => buildResult st.signals st.valueTables
  | .error _ => []

end DBCFileParser

end VehicleSpy.Dbc
