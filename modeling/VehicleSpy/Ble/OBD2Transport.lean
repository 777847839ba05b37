import VehicleSpy.Ble.TeslaBLETransport
import Mathlib.Data.List.DropRight

/-! # Locks of the transports

`readData` holds the buffer's lock and calls the extraction loop, which locks it again. The loop of
an adapter with prompts stands here beside the one for packets.
-/

namespace VehicleSpy.Ble

open Text Machine Locking BufferedTransport

namespace OBD2Transport

section Extraction

variable {β : Type} (value : β → Byte)

/-- What is left of a buffer, and the responses that are forwarded: the text in front of each
prompt, without the line ends behind it. -/
def extractCleanResponses : List β → List β × List (List β)
  | [] => ([], [])
  | b :: buffer =>
    match find PROMPT ((b :: buffer).map value) with
    | none => (b :: buffer, [])
    | some promptPos =>
      let response := ((b :: buffer).take promptPos).rdropWhile fun c => value c == CR
      let more := extractCleanResponses (buffer.drop promptPos)
      (more.1, if response.isEmpty then more.2 else response :: more.2)
termination_by buffer => buffer.length
decreasing_by
  simp only [List.length_drop, List.length_cons]
  omega

def connect (linked : Bool) : Method β Bool := BufferedTransport.connect linked

def disconnect : Method β Unit := BufferedTransport.disconnect

def isConnected (linked : Bool) : Method β Bool := BufferedTransport.isConnected linked

def readData : Method β (Option (List β)) :=
  BufferedTransport.readData (extractCleanResponses value)

def send (data : Bytes) : Method β Unit := BufferedTransport.send data

def subscribeToNotifications : Method β Unit := BufferedTransport.subscribeToNotifications

def unsubscribe : Method β Unit := BufferedTransport.unsubscribe

def forwardResponse (response : List β) : Method β Unit := forward response

def processIncomingData (data : List β) : Method β Unit :=
  BufferedTransport.processIncomingData (extractCleanResponses value) data

def perform : Call β → Method β Unit
  | .connect linked => do
    let _ ← connect linked
  | .disconnect => disconnect
  | .isConnected linked => do
    let _ ← isConnected linked
  | .send data => send data
  | .subscribeToNotifications => subscribeToNotifications
  | .unsubscribe => unsubscribe
  | .readData => do
    match ← readData value with
    | some data => emit (.polled data)
    | none => pure ()
  | .notification data => processIncomingData value data

theorem perform_eq : perform value = BufferedTransport.perform (extractCleanResponses value) := by
  funext call
  cases call <;> rfl

end Extraction

end OBD2Transport

/-- Both transports complete every call, and poll no delivered byte, exactly if `readData` is
called only while nothing is buffered. -/
theorem transports_lockFree_iff {β : Type} (value : β → Byte) (calls : List (Call β)) :
    (LockFree (TeslaBLETransport.perform value) calls ↔
      PollsEmpty (TeslaBLETransport.perform value) calls) ∧
    (LockFree (OBD2Transport.perform value) calls ↔
      PollsEmpty (OBD2Transport.perform value) calls) := by
  rw [TeslaBLETransport.perform_eq, OBD2Transport.perform_eq]
  exact ⟨lockFree_iff, lockFree_iff⟩

/-- A notification that ends in the middle of a unit, and a poll. -/
def partialUnit : List (Call Byte) := [.notification [65], .readData]

/-- A poll behind an unfinished unit blocks, in either transport. -/
theorem not_lockFree : ¬ LockFree (TeslaBLETransport.perform id) partialUnit ∧
    ¬ LockFree (OBD2Transport.perform id) partialUnit := by
  have htesla : TeslaBLETransport.extractCompletePackets id ([] ++ [65]) = ([65], []) :=
    TeslaBLETransport.extract_short (by decide)
  have hobd : OBD2Transport.extractCleanResponses id ([] ++ [65]) = ([65], []) := by
    have hnone : find PROMPT (([65] : Bytes).map id) = none := by decide
    rw [List.nil_append, OBD2Transport.extractCleanResponses, hnone]
  have hstuck : ∀ extract : Bytes → Bytes × List Bytes, extract ([] ++ [65]) = ([65], []) →
      ¬ LockFree (BufferedTransport.perform extract) partialUnit := by
    intro extract hextract h
    have hnote : (BufferedTransport.perform extract (.notification [65])).run [] {} = _ :=
      processIncomingData_run
    have hempty := lockFree_iff.mp h [.notification [65]] [] rfl _ _ (run_forEach_cons hnote [])
    rw [hextract] at hempty
    cases hempty
  rw [TeslaBLETransport.perform_eq, OBD2Transport.perform_eq]
  exact ⟨hstuck _ htesla, hstuck _ hobd⟩

end VehicleSpy.Ble
