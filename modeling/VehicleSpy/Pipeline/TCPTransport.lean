import VehicleSpy.Text.Numbers
import VehicleSpy.Pipeline.TcpReader

/-! # The TCP transport: connecting and the HELO handshake

A connection is authenticated by one read and then asked for its banner and its device id.
The replies are lines among streamed frames, and what the handshake has read beyond them
stays in the reader's buffer.
-/

namespace VehicleSpy.Pipeline

open Text

/-- What the socket answers to one attempt to connect; the reads of the HELO phase end with a
failing one. -/
structure Attempt where
  connects : Bool := true
  recvTimeoutSet : Bool := true
  noDelaySet : Bool := true
  authSent : Bool := true
  /-- Empty if the read fails. -/
  authReply : Bytes
  elm327Init : Bool := true
  atiSent : Bool := true
  heloSent : Bool := true
  recvs : List Received
  authReply_length : authReply.length ≤ 63 := by decide
  deriving DecidableEq, Repr

structure TCPTransport where
  host : Bytes
  adapterProtocol : Bytes := ascii "raw"
  connected : Bool := false
  /-- The reader's buffer. -/
  pending : Bytes := []
  deviceIdHex : Bytes := []
  deriving DecidableEq, Repr

namespace TCPTransport

def deviceIdToHex (deviceId : Bytes) : Bytes := deviceId.flatMap fun byte => hexPad 2 byte.toNat

/-- Blank, tab, CR, LF, form feed and vertical tab. -/
def isWs (c : Byte) : Bool := isBlank c || c == 12 || c == 11

def trim (s : Bytes) : Bytes := (s.dropWhile isWs).rdropWhile isWs

section HeloAck

def hexCharToInt (c : Byte) : Option ℕ :=
  if 48 ≤ c ∧ c ≤ 57 then some (c.toNat - 48)
  else if 65 ≤ c ∧ c ≤ 70 then some (c.toNat - 65 + 10)
  else if 97 ≤ c ∧ c ≤ 102 then some (c.toNat - 97 + 10)
  else none

def parseHexByte (s : Bytes) (offset : ℕ) : Option Byte := do
  let hi ← hexCharToInt (← s[offset]?)
  let lo ← hexCharToInt (← s[offset + 1]?)
  return (hi <<< 4 ||| lo).toUInt8

def ackPrefix : Bytes := ascii "ACK DEVICE="

def deviceIdToken : Bytes := ascii "DEVICEID="

/-- CR, LF, blank and prompt, which may follow the device id. -/
def isAckTail (c : Byte) : Bool := c == CR || c == LF || c == SP || c == PROMPT

def parseHeloAck (ack : Bytes) : Option Bytes := do
  let _ ← findStr ackPrefix ack
  let deviceIdPos ← findStr deviceIdToken ack
  let hexId := (ack.drop (deviceIdPos + deviceIdToken.length)).rdropWhile isAckTail
  if hexId.length = 32 then (List.range 16).mapM fun i => parseHexByte hexId (i * 2) else none

end HeloAck

section Lines

/-- A blank and two hexadecimal digits, again and again. -/
def isByteGroups : Bytes → Bool
  | [] => true
  | sp :: hi :: lo :: rest => sp == SP && isDigit 16 hi && isDigit 16 lo && isByteGroups rest
  | _ => false

/-- Three hexadecimal digits and at least one byte group. -/
def isCanFrameLine : Bytes → Bool
  | a :: b :: c :: groups =>
    isDigit 16 a && isDigit 16 b && isDigit 16 c && groups != [] && isByteGroups groups
  | _ => false

/-- Prompt, CR, LF, blank and tab. -/
def isLead (c : Byte) : Bool := c == PROMPT || isBlank c

/-- A line without the prompt of the reply before it; a line of such bytes alone keeps them. -/
def cleanLine (line : Bytes) : Bytes :=
  trim (if line.all isLead then line else line.dropWhile isLead)

theorem cleanLine_eq_self {line : Bytes} (hne : line ≠ [])
    (hhead : ∀ c ∈ line.head?, isLead c = false ∧ isWs c = false)
    (hlast : ∀ c ∈ line.getLast?, isWs c = false) : cleanLine line = line := by
  have hall : ¬ line.all isLead = true := by
    cases line with
    | nil => exact absurd rfl hne
    | cons c line => simp [hhead c rfl]
  rw [cleanLine, if_neg hall, trim,
    (dropWhile_eq_self_iff isLead).mpr fun c hc => (hhead c hc).1,
    (dropWhile_eq_self_iff isWs).mpr fun c hc => (hhead c hc).2,
    (rdropWhile_eq_self_iff isWs).mpr hlast]

/-- Whether a line is passed over: it is blank or a frame. -/
def isSkipped (line : Bytes) : Bool := cleanLine line == [] || isCanFrameLine (cleanLine line)

/-- The next line that is neither blank nor a frame, if the reads bring one; the buffer and the
reads that are left. -/
def readLineSkippingFrames (pending : Bytes) (recvs : List Received) :
    Option Bytes × Bytes × List Received :=
  match _h : TcpReader.takeBufferedLine pending with
  | some (line, rest) =>
    if isSkipped line then readLineSkippingFrames rest recvs
    else (some (cleanLine line), rest, recvs)
  | none =>
    match recvs with
    | [] => (none, pending, [])
    | data :: recvs => readLineSkippingFrames (TcpReader.readSocketIntoPending pending data) recvs
termination_by pending.length + (TcpReader.received recvs).length + recvs.length
decreasing_by
  · obtain ⟨c, rfl, -, -⟩ := TcpReader.takeBufferedLine_some _h
    simp only [List.length_append, List.length_cons]
    omega
  · have hread := TcpReader.length_readSocketIntoPending_le pending data
    simp only [TcpReader.received, List.flatMap_cons, List.length_append, List.length_cons]
    omega

/-- Each line found leaves fewer bytes to read. -/
theorem readLine_lt {pending rest line : Bytes} {recvs unread : List Received}
    (h : readLineSkippingFrames pending recvs = (some line, rest, unread)) :
    rest.length + (TcpReader.received unread).length <
      pending.length + (TcpReader.received recvs).length := by
  fun_induction readLineSkippingFrames pending recvs with
  | case1 pending recvs l r hb hs ih =>
    obtain ⟨c, rfl, -, -⟩ := TcpReader.takeBufferedLine_some hb
    have := ih h
    simp only [List.length_append, List.length_cons]
    omega
  | case2 pending recvs l r hb hs =>
    obtain ⟨c, rfl, -, -⟩ := TcpReader.takeBufferedLine_some hb
    obtain ⟨-, rfl, rfl⟩ : _ ∧ r = rest ∧ recvs = unread := by simpa using h
    simp only [List.length_append, List.length_cons]
    omega
  | case3 pending hb => simp at h
  | case4 pending hb data recvs ih =>
    have hread := TcpReader.length_readSocketIntoPending_le pending data
    have := ih h
    simp only [TcpReader.received, List.flatMap_cons, List.length_append] at this ⊢
    omega

/-- The first of the lines that holds the acknowledgement. -/
def readAck (pending : Bytes) (recvs : List Received) : Option Bytes × Bytes × List Received :=
  match _h : readLineSkippingFrames pending recvs with
  | (none, rest, unread) => (none, rest, unread)
  | (some line, rest, unread) =>
    if (findStr ackPrefix line).isSome then (some line, rest, unread) else readAck rest unread
termination_by pending.length + (TcpReader.received recvs).length
decreasing_by exact readLine_lt _h

end Lines

variable (t : TCPTransport) (a : Attempt)

def closeConnection : TCPTransport := { t with connected := false }

/-- The id of the device, if it acknowledges, and the reads that are left. -/
def sendHeloAndParseAck : TCPTransport × Option (Bytes × List Received) :=
  if !a.atiSent then (t.closeConnection, none)
  else
    match readLineSkippingFrames t.pending a.recvs with
    | (none, pending, _) => ({ t with pending := pending }.closeConnection, none)
    | (some _, pending, recvs) =>
      if !a.heloSent then ({ t with pending := pending }.closeConnection, none)
      else
        match readAck pending recvs with
        | (none, pending, _) => ({ t with pending := pending }.closeConnection, none)
        | (some ackLine, pending, unread) =>
          match parseHeloAck ackLine with
          | none => ({ t with pending := pending }.closeConnection, none)
          | some deviceId => ({ t with pending := pending }, some (deviceId, unread))

/-- The acknowledged id is stored, and the prompt that follows the acknowledgement stripped as
far as it has been read. -/
def performHeloHandshake : TCPTransport × Option (Bytes × List Received) :=
  match t.sendHeloAndParseAck a with
  | (t, none) => (t, none)
  | (t, some (deviceId, unread)) =>
    ({ t with deviceIdHex := deviceIdToHex deviceId, pending := t.pending.dropWhile isLead },
      some (deviceId, unread))

/-- One attempt to connect; if it succeeds, with the peer's id and the reads that are left. -/
def connectAndAuth : TCPTransport × Option (Bytes × List Received) :=
  let t := { t.closeConnection with pending := [] }
  if !a.connects then (t, none)
  else
    let t := { t with connected := true }
    if !a.recvTimeoutSet || !a.noDelaySet || !a.authSent then (t.closeConnection, none)
    else if a.authReply = [] || (findStr (ascii "OK") a.authReply).isNone then
      (t.closeConnection, none)
    else if t.adapterProtocol = ascii "elm327" && !a.elm327Init then (t.closeConnection, none)
    else
      match t.performHeloHandshake a with
      | (t, none) => (t.closeConnection, none)
      | (t, some peer) => (t, some peer)

end TCPTransport

end VehicleSpy.Pipeline
