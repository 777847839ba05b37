import VehicleSpy.Machine.Fetch
import VehicleSpy.Pipeline.LiveTwaiSource
import VehicleSpy.Text.Segments
import VehicleSpy.Text.Tokens

/-! # The capture file source

A capture file holds one record a line: a decimal timestamp, a comma, and a frame, either as
text or as its ten raw bytes. Which of the two it is, is told from the characters.
-/

namespace VehicleSpy.Pipeline

open Text

/-- A frame with the time at which it was captured. -/
structure TimedFrame where
  timestampMs : ℕ
  bytes : Bytes
  deriving DecidableEq, Repr

namespace BinaryFileSource

open LiveTwaiSource (frameBytes)

def isTokenSeparator (c : Byte) : Bool :=
  c == SP || c == TAB || c == COMMA || c == CR || c == LF

/-- A byte of an ASCII frame line. The lower bound leaves tab, CR and LF out again. -/
def looksAscii (c : Byte) : Bool :=
  0x20 ≤ c && c ≤ 0x7E && (isDigit 16 c || isTokenSeparator c || c == 120 || c == 88)

def looksLikeAsciiLine (payload : Bytes) : Bool := payload ≠ [] && payload.all looksAscii

def parseHexU32 (s : Bytes) : Option ℕ := fromChars 16 (2 ^ 32) s

/-- The first token: at most three characters, read as an 11-bit identifier. -/
def parseCanIdToken (tok : Bytes) : Option ℕ :=
  match parseHexU32 tok with
  | some v => if tok.length ≤ 3 ∧ v ≤ 0x7FF then some v else none
  | none => none

/-- A later token: exactly two characters. -/
def parseDataByteToken (tok : Bytes) : Option Byte :=
  match parseHexU32 tok with
  | some v => if tok.length = 2 ∧ v ≤ 0xFF then some v.toUInt8 else none
  | none => none

/-- Append the byte of one token, of at most eight. -/
def appendDataByte (data : Bytes) (tok : Bytes) : Option Bytes :=
  if 8 ≤ data.length then none else (parseDataByteToken tok).map fun byte => data ++ [byte]

def parseAscii (payload : Bytes) : Option Bytes :=
  match tokensBy isTokenSeparator payload with
  | [] => none
  | tok :: toks => do
    let canId ← parseCanIdToken tok
    let data ← toks.foldlM appendDataByte []
    return frameBytes canId data

def parseBinary (payload : Bytes) : Option Bytes :=
  if payload.length = 10 then some payload else none

/-- A line of the file without the CR that may end it. -/
def dropCr (line : Bytes) : Bytes :=
  if line.getLast? = some CR then line.dropLast else line

/-- The timestamp and the payload of a record. -/
def readRecord (line : Bytes) : Option (ℕ × Bytes) :=
  match cutAt COMMA (dropCr line) with
  | none => none
  | some (tsField, payload) =>
    if tsField = [] then none
    else (fromChars 10 (2 ^ 64) tsField).map fun ts => (ts, payload)

/-- The frame of a payload, as text or as raw bytes. -/
def payloadFrame (payload : Bytes) : Option Bytes :=
  if looksLikeAsciiLine payload then parseAscii payload else parseBinary payload

def lineFrame (line : Bytes) : Option TimedFrame := do
  let (ts, payload) ← readRecord line
  let bytes ← payloadFrame payload
  return ⟨ts, bytes⟩

/-- The lines that `std::getline` yields: what stands before each LF, and the rest if there is
any. -/
def getlines (file : Bytes) : List Bytes :=
  segments (· == LF) file ++
    if remainder (· == LF) file = [] then [] else [remainder (· == LF) file]

/-- The next frame of the lines that are left, skipping those that hold none. -/
def nextFrame : List Bytes → Option (TimedFrame × List Bytes) := Machine.fetch lineFrame

section Records

theorem dropCr_append (u line : Bytes) :
    dropCr (u ++ COMMA :: line) = u ++ COMMA :: dropCr line := by
  have hlast : (u ++ COMMA :: line).getLast? = (COMMA :: line).getLast? :=
    List.getLast?_append_of_ne_nil u (List.cons_ne_nil _ _)
  cases line with
  | nil =>
    unfold dropCr
    rw [hlast, if_neg (by decide), if_neg (by decide)]
  | cons c line =>
    unfold dropCr
    rw [hlast, List.getLast?_cons_cons]
    split
    · rw [List.dropLast_append_of_ne_nil (List.cons_ne_nil _ _), List.dropLast_cons_cons]
    · rfl

/-- Records that are each closed by an LF are the lines of the file. -/
theorem getlines_flatMap {records : List Bytes} (h : ∀ r ∈ records, LF ∉ r) :
    getlines (records.flatMap (· ++ [LF])) = records := by
  have hfree : ∀ r ∈ records, ∀ c ∈ r, (c == LF) = false := by
    rintro r hr c hc
    apply beq_eq_false_iff_ne.mpr
    rintro rfl
    exact h r hr hc
  have hseg := segments_flatMap (p := (· == LF)) (c := LF) (by decide) hfree []
  have hrem := remainder_flatMap (p := (· == LF)) (c := LF) (by decide) hfree []
  rw [List.append_nil] at hseg hrem
  have hnil : remainder (· == LF) (records.flatMap (· ++ [LF])) = [] := hrem
  rw [getlines, hseg, if_pos hnil, segments_nil, List.append_nil, List.append_nil]

end Records

end BinaryFileSource

end VehicleSpy.Pipeline
