import VehicleSpy.Dbc.FileParser

/-! # Printing DBC files

The messages, signals and value tables of a DBC file with the conditions under which they
can be written down, and the lines that say them. A document gives each line an
indentation and may put the value tables anywhere.
-/

namespace VehicleSpy.Dbc

open Text

/-- A character of a name: neither white space nor a colon. -/
def isNameChar (c : Byte) : Bool := !(isBlank c || c = 11 || c = 12 || c = COLON)

/-- A character of a decimal number. -/
def isDecimalChar (c : Byte) : Bool :=
  isDigit 10 c || c = 43 || c = 45 || c = 46 || c = 69 || c = 101

/-- A text that stays on its line. -/
def OneLine (s : Bytes) : Prop := ∀ c ∈ s, isLineEnd c = false

/-- A text on one line that can stand between quotes. -/
def Quotable (s : Bytes) : Prop := ∀ c ∈ s, c ≠ 34 ∧ isLineEnd c = false

instance (s : Bytes) : Decidable (OneLine s) := List.decidableBAll _ s

instance (s : Bytes) : Decidable (Quotable s) := List.decidableBAll _ s

/-- A multiplexor mark: `M`, or `m` with digits. -/
inductive Mark
  | multiplexor
  | multiplexed (digits : Bytes) (all : ∀ c ∈ digits, isDigit 10 c = true)

def Mark.text : Mark → Bytes
  | .multiplexor => [77]
  | .multiplexed digits _ => 109 :: digits

variable {D : Type}

/-- A decimal token on which `std::stod` is exact. -/
structure Decimal (stod : Bytes → Option D) where
  text : Bytes
  value : D
  chars : ∀ c ∈ text, isDecimalChar c = true
  exact : stod text = some value

/-- An entry of a value table, its key a 64-bit number. -/
structure ValueText where
  entry : DBCValueEntry
  value_ge : -2 ^ 63 ≤ entry.value
  value_lt : entry.value < 2 ^ 63
  label : Quotable entry.description

variable (stod : Bytes → Option D)

structure SignalText where
  name : Bytes
  mark : Option Mark
  startBit : ℕ
  bitLength : ℕ
  byteOrder : DBCByteOrder
  isSigned : Bool
  scale : Decimal stod
  offset : Decimal stod
  min : Decimal stod
  max : Decimal stod
  unit : Bytes
  node : Bytes
  table : List ValueText
  name_chars : ∀ c ∈ name, isNameChar c = true
  startBit_lt : startBit < 2 ^ 64
  bitLength_lt : bitLength < 2 ^ 64
  unit_quotable : Quotable unit
  node_oneLine : OneLine node

structure MessageText where
  id : ℕ
  name : Bytes
  dlc : ℕ
  node : Bytes
  signals : List (SignalText stod)
  id_pos : 0 < id
  id_lt : id < 2 ^ 16
  name_oneLine : OneLine name
  node_oneLine : OneLine node
  names_nodup : (signals.map (·.name)).Nodup

variable {stod}

namespace SignalText

/-- What the parser is to read from the signal's line. -/
def definition (s : SignalText stod) (canId : ℕ) (table : List DBCValueEntry) :
    DBCSignalDefinition D :=
  ⟨canId, s.name, s.startBit, s.bitLength, s.byteOrder, s.scale.value, s.offset.value, s.isSigned,
    s.unit, s.min.value, s.max.value, table⟩

def entries (s : SignalText stod) : List DBCValueEntry := s.table.map (·.entry)

def markText (s : SignalText stod) : Bytes :=
  match s.mark with
  | some mark => mark.text ++ [SP]
  | none => []

def orderChar (s : SignalText stod) : Byte :=
  match s.byteOrder with
  | .Motorola => 48
  | .Intel => 49

def signChar (s : SignalText stod) : Byte := if s.isSigned then 45 else 43

end SignalText

/-- A pair of numbers between its delimiters, after a blank. -/
def pairText (opening middle closing : Byte) (a b : Decimal stod) (rest : Bytes) : Bytes :=
  SP :: opening :: (a.text ++ middle :: (b.text ++ closing :: rest))

def ValueText.text (v : ValueText) (rest : Bytes) : Bytes :=
  SP :: (decimal v.entry.value ++ SP :: 34 :: (v.entry.description ++ 34 :: rest))

/-- The lines of a DBC file that the parser reads. -/
inductive Line (stod : Bytes → Option D)
  | message (m : MessageText stod)
  | signal (s : SignalText stod)
  | values (m : MessageText stod) (s : SignalText stod)

namespace Line

/-- `BO_ id name: dlc node` -/
def messageText (m : MessageText stod) : Bytes :=
  ascii "BO_" ++ SP :: (baseDigits 10 m.id ++ SP :: (m.name ++ COLON :: SP ::
    (baseDigits 10 m.dlc ++ SP :: m.node)))

/-- `SG_ name mark : start|length@order sign (scale,offset) [min|max] "unit" node` -/
def signalText (s : SignalText stod) : Bytes :=
  ascii "SG_" ++ SP :: (s.name ++ SP :: (s.markText ++ COLON :: SP ::
    (baseDigits 10 s.startBit ++ 124 :: (baseDigits 10 s.bitLength ++ 64 :: s.orderChar ::
      s.signChar :: pairText 40 44 41 s.scale s.offset (pairText 91 124 93 s.min s.max
        (SP :: 34 :: (s.unit ++ 34 :: SP :: s.node)))))))

/-- `VAL_ id name key "label" … ;` -/
def valuesText (m : MessageText stod) (s : SignalText stod) : Bytes :=
  ascii "VAL_" ++ SP :: (baseDigits 10 m.id ++ SP :: (s.name ++
    s.table.foldr ValueText.text [SP, 59]))

def text : Line stod → Bytes
  | message m => messageText m
  | signal s => signalText s
  | values m s => valuesText m s

def isValues : Line stod → Bool
  | values _ _ => true
  | _ => false

/-- The name on the line is not empty if a mark or an entry of the table follows it. -/
def Named : Line stod → Prop
  | message _ => True
  | signal s => s.mark ≠ none → s.name ≠ []
  | values _ s => s.table ≠ [] → s.name ≠ []

/-- The value table that a line says, if it says any. -/
def valueTable : Line stod → Option ValueTable
  | values m s => if s.table = [] then none else some ⟨m.id, s.name, s.entries⟩
  | _ => none

end Line

namespace MessageText

/-- The line of a message and those of its signals. -/
def lines (m : MessageText stod) : List (Line stod) := .message m :: m.signals.map .signal

/-- The value tables of a message, for the signals that have one. -/
def valueTables (m : MessageText stod) : List ValueTable :=
  m.signals.filterMap fun s => (Line.values m s).valueTable

/-- What the parser is to give for the message. -/
def definitions (m : MessageText stod) : List (DBCSignalDefinition D) :=
  m.signals.map fun s => s.definition m.id s.entries

end MessageText

/-- A DBC text: the lines of its messages in order, and among them, at any places and in any
order, the lines of their value tables. -/
structure Document (stod : Bytes → Option D) where
  messages : List (MessageText stod)
  lines : List (Bytes × Line stod)
  ids_nodup : (messages.map (·.id)).Nodup
  indentation : ∀ l ∈ lines, ∀ c ∈ l.1, isSpaceOrTab c = true
  definitions : (lines.map Prod.snd).filter (!·.isValues) = messages.flatMap (·.lines)
  values : ((lines.map Prod.snd).filterMap Line.valueTable).Perm
    (messages.flatMap (·.valueTables))

namespace Document

def text (doc : Document stod) : Bytes :=
  (doc.lines.map fun l => l.1 ++ l.2.text).flatMap (· ++ [LF])

def Named (doc : Document stod) : Prop := ∀ l ∈ doc.lines, l.2.Named

/-- What the parser is to give for the document. -/
def definitionsById (doc : Document stod) : DBCParseResult D :=
  (doc.messages.filter (·.signals ≠ [])).map fun m => (m.id, m.definitions)

end Document

end VehicleSpy.Dbc
