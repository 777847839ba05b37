import VehicleSpy.Text.Printf

/-! # The CAN bridge

Each received frame is printed as one line of text, to the serial port and to the TCP
client. A line is built in a buffer of 32 bytes; whether its terminator still fits
depends on the width of the identifier and on the number of data bytes.
-/

namespace VehicleSpy.Firmware

open Text

structure CanFrame where
  identifier : UInt32
  data_length_code : UInt8
  data : Bytes
  data_length : data.length = 8
  deriving DecidableEq, Repr

namespace CanConfig

def CAN_FRAME_BUFFER_SIZE : ℕ := 32
def MAX_DATA_LENGTH : ℕ := 8

end CanConfig

open CanConfig

namespace CanFrame

/-- The data bytes that are printed. -/
def payload (msg : CanFrame) : Bytes :=
  msg.data.take (min msg.data_length_code.toNat MAX_DATA_LENGTH)

/-- What the frame's line says, without its terminator. -/
def text (msg : CanFrame) : Bytes :=
  hexPad 3 msg.identifier.toNat ++ msg.payload.flatMap fun b => SP :: hexPad 2 b.toNat

end CanFrame

/-- The buffer and the length printed so far, which is at most the size of the buffer. -/
abbrev FrameBuffer := Bytes × ℕ

def printAt (text : Bytes) (st : FrameBuffer) : Option FrameBuffer :=
  (snprintf st.1 st.2 (CAN_FRAME_BUFFER_SIZE - st.2) text).map (·, st.2 + text.length)

def buildFrameString (msg : CanFrame) (buf : Bytes) : Option Bytes := do
  let st ← printAt (hexPad 3 msg.identifier.toNat) (buf, 0)
  let st ← msg.payload.foldlM (fun st b => printAt (SP :: hexPad 2 b.toNat) st) st
  let st ← printAt [CR] st
  return st.1

/-- Calls on the serial port and the TCP client. -/
inductive BridgeCall
  | serialPrint (str : Bytes)
  | tcpPrint (str : Bytes)
  | tcpFlush
  deriving DecidableEq, Repr

structure CanBridge where
  monitorActive : Bool := false
  initialized : Bool := false
  serialQuietUntilMs : UInt32 := 0
  deriving DecidableEq, Repr

namespace CanBridge

def init (bridge : CanBridge) : CanBridge := { bridge with initialized := true }

/-- One received frame, with the connection status of the client at that moment. -/
def processFrame (bridge : CanBridge) (nowMs : UInt32) (msg : CanFrame) (connected : Bool) :
    Option (List BridgeCall) := do
  let buf ← buildFrameString msg (List.replicate CAN_FRAME_BUFFER_SIZE 0)
  let serial := if nowMs < bridge.serialQuietUntilMs then [] else [.serialPrint (cString buf)]
  let tcp := if connected && bridge.monitorActive then [.tcpPrint (cString buf), .tcpFlush] else []
  return serial ++ tcp

/-- Drain the receive queue. -/
def processFrames (bridge : CanBridge) (monitorActive : Bool) (nowMs : UInt32)
    (queue : List (CanFrame × Bool)) : Option (CanBridge × List BridgeCall) :=
  if !bridge.initialized then some (bridge, [])
  else do
    let bridge := { bridge with monitorActive := monitorActive }
    let calls ← queue.mapM fun r => bridge.processFrame nowMs r.1 r.2
    return (bridge, calls.flatten)

end CanBridge

section Build

theorem length_printed_byte (b : Byte) : (SP :: hexPad 2 b.toNat).length = 3 := by
  rw [List.length_cons, length_hexPad_of_lt (by decide) b.toNat_lt]

theorem length_printed_bytes (bs : Bytes) :
    (bs.flatMap fun b => SP :: hexPad 2 b.toNat).length = 3 * bs.length := by
  induction bs with
  | nil => rfl
  | cons b bs ih => rw [List.flatMap_cons, List.length_append, length_printed_byte, ih,
      List.length_cons]; omega

variable {msg : CanFrame}

theorem length_payload : msg.payload.length = min msg.data_length_code.toNat 8 := by
  rw [CanFrame.payload, List.length_take, msg.data_length, MAX_DATA_LENGTH, min_assoc, min_self]

theorem length_identifier_le (msg : CanFrame) :
    (hexPad 3 msg.identifier.toNat).length ≤ 8 := by
  rw [length_hexPad]
  have h := (length_hexUpper_le (by decide : 0 < 8)).mpr (msg.identifier.toNat_lt)
  omega

theorem length_text :
    msg.text.length =
      (hexPad 3 msg.identifier.toNat).length + 3 * min msg.data_length_code.toNat 8 := by
  rw [CanFrame.text, List.length_append, length_printed_bytes, length_payload]

theorem length_text_le (msg : CanFrame) : msg.text.length ≤ 32 := by
  have h := length_identifier_le msg
  rw [length_text]
  omega

theorem printAt_holds {w buf : Bytes} (h : Holds 32 w buf) (hw : w.length ≤ 32) (t : Bytes) :
    ∃ buf', printAt t (buf, w.length) = some (buf', (w ++ t).length) ∧ Holds 32 (w ++ t) buf' := by
  obtain ⟨buf', hb, hh⟩ := h.snprintf hw t
  exact ⟨buf', by simp [printAt, CAN_FRAME_BUFFER_SIZE, hb], hh⟩

theorem foldlM_holds {w buf : Bytes} (h : Holds 32 w buf) (bs : Bytes)
    (hw : w.length + 3 * bs.length ≤ 32) :
    ∃ buf', bs.foldlM (fun st b => printAt (SP :: hexPad 2 b.toNat) st) (buf, w.length) =
        some (buf', (w ++ bs.flatMap fun b => SP :: hexPad 2 b.toNat).length) ∧
      Holds 32 (w ++ bs.flatMap fun b => SP :: hexPad 2 b.toNat) buf' := by
  induction bs generalizing w buf with
  | nil => exact ⟨buf, by simp, by simpa using h⟩
  | cons b bs ih =>
    rw [List.length_cons] at hw
    obtain ⟨buf₁, hp, hh⟩ := printAt_holds h (by omega) (SP :: hexPad 2 b.toNat)
    obtain ⟨buf₂, hf, hh₂⟩ := ih hh (by rw [List.length_append, length_printed_byte]; omega)
    refine ⟨buf₂, ?_, by rwa [List.flatMap_cons, ← List.append_assoc]⟩
    rw [List.foldlM_cons, hp, List.flatMap_cons, ← List.append_assoc]
    exact hf

/-- Building a frame's line stays inside the buffer and keeps what fits of text and terminator. -/
theorem buildFrameString_holds (msg : CanFrame) :
    ∃ buf, buildFrameString msg (List.replicate CAN_FRAME_BUFFER_SIZE 0) = some buf ∧
      Holds 32 (msg.text ++ [CR]) buf := by
  have hid := length_identifier_le msg
  obtain ⟨buf₁, h₁, hh₁⟩ := printAt_holds (holds_replicate (by decide)) (by simp)
    (hexPad 3 msg.identifier.toNat)
  rw [List.nil_append] at h₁ hh₁
  obtain ⟨buf₂, h₂, hh₂⟩ := foldlM_holds hh₁ msg.payload (by rw [length_payload]; omega)
  obtain ⟨buf₃, h₃, hh₃⟩ := printAt_holds hh₂ (length_text_le msg) [CR]
  refine ⟨buf₃, ?_, hh₃⟩
  simp only [buildFrameString, CAN_FRAME_BUFFER_SIZE]
  rw [show ([] : Bytes).length = 0 from rfl] at h₁
  rw [h₁]
  simp only [Option.bind_eq_bind, Option.bind_some, h₂, h₃]
  rfl

end Build

/-- The C string that is printed for a frame. -/
def frameString (msg : CanFrame) : Bytes :=
  ((buildFrameString msg (List.replicate CAN_FRAME_BUFFER_SIZE 0)).map cString).getD []

/-- The frame's line needs more room than the buffer has for a line with its terminator. -/
def Overlong (msg : CanFrame) : Prop :=
  2 ^ 24 ≤ msg.identifier.toNat ∧ 8 ≤ msg.data_length_code.toNat

instance : DecidablePred Overlong := fun _ => inferInstanceAs (Decidable (_ ∧ _))

section Lines

variable {msg : CanFrame}

theorem mem_text {c : Byte} (hc : c ∈ msg.text) : c = SP ∨ isDigit 16 c = true := by
  rcases List.mem_append.mp hc with hc | hc
  · exact Or.inr (isDigit_hexPad _ _ c hc)
  · obtain ⟨b, -, hb⟩ := List.mem_flatMap.mp hc
    rcases List.mem_cons.mp hb with rfl | hb
    · exact Or.inl rfl
    · exact Or.inr (isDigit_hexPad _ _ c hb)

theorem text_noLineEnd : ∀ c ∈ msg.text, isLineEnd c = false := by
  intro c hc
  rcases mem_text hc with rfl | hd
  · decide
  · rw [← Bool.not_eq_true]
    intro h
    have hcr : c = CR ∨ c = LF := by simpa [isLineEnd, or_iff_not_imp_left] using h
    rcases hcr with rfl | rfl <;> exact absurd hd (by decide)

theorem frameString_eq (msg : CanFrame) : frameString msg = (msg.text ++ [CR]).take 31 := by
  obtain ⟨buf, hb, hh⟩ := buildFrameString_holds msg
  have hne : ∀ c ∈ msg.text ++ [CR], c ≠ 0 := by
    rintro c hc rfl
    rcases List.mem_append.mp hc with hc | hc
    · rcases mem_text hc with h | h <;> exact absurd h (by decide)
    · exact absurd (List.mem_singleton.mp hc) (by decide)
  rw [frameString, hb, Option.map_some, Option.getD_some, hh.cString hne]

theorem mem_frameString {c : Byte} (hc : c ∈ frameString msg) :
    c = SP ∨ isDigit 16 c = true ∨ c = CR := by
  rw [frameString_eq] at hc
  rcases List.mem_append.mp (List.mem_of_mem_take hc) with hc | hc
  · exact (mem_text hc).imp_right Or.inl
  · exact Or.inr (Or.inr (List.mem_singleton.mp hc))

theorem length_text_overlong_iff : 31 ≤ msg.text.length ↔ Overlong msg := by
  have hid := length_identifier_le msg
  have h6 : (hexUpper msg.identifier.toNat).length ≤ 6 ↔ msg.identifier.toNat < 2 ^ 24 :=
    length_hexUpper_le (by decide)
  rw [length_hexPad] at hid
  rw [length_text, length_hexPad, Overlong]
  omega

/-- A line that fits is printed with its terminator. -/
theorem frameString_of_fits (h : ¬ Overlong msg) : frameString msg = msg.text ++ [CR] := by
  have hl := mt length_text_overlong_iff.mp h
  rw [frameString_eq, List.take_of_length_le (by simp; omega)]

/-- A line that does not fit loses its terminator. -/
theorem frameString_of_overlong (h : Overlong msg) :
    frameString msg = msg.text.take 31 ∧ (frameString msg).length = 31 := by
  have hl := length_text_overlong_iff.mpr h
  rw [frameString_eq, List.take_append_of_le_length hl]
  exact ⟨rfl, by rw [List.length_take]; omega⟩

theorem noLineEnd_of_overlong (h : Overlong msg) : ∀ c ∈ frameString msg, isLineEnd c = false := by
  rw [(frameString_of_overlong h).1]
  exact fun c hc => text_noLineEnd c (List.mem_of_mem_take hc)

end Lines

/-- The strings printed to the TCP client, in order. -/
def tcpPrints (calls : List BridgeCall) : List Bytes :=
  calls.filterMap fun
    | .tcpPrint str => some str
    | _ => none

/-- The calls for received frames, with or without those on the serial port. -/
def frameCalls (quiet monitorActive : Bool) (queue : List (CanFrame × Bool)) : List BridgeCall :=
  queue.flatMap fun r =>
    (if quiet then [] else [.serialPrint (frameString r.1)]) ++
      if r.2 && monitorActive then [.tcpPrint (frameString r.1), .tcpFlush] else []

section Calls

variable {bridge : CanBridge}

theorem processFrame_eq (bridge : CanBridge) (nowMs : UInt32) (r : CanFrame × Bool) :
    bridge.processFrame nowMs r.1 r.2 =
      some (frameCalls (nowMs < bridge.serialQuietUntilMs) bridge.monitorActive [r]) := by
  obtain ⟨buf, hb, -⟩ := buildFrameString_holds r.1
  rw [CanBridge.processFrame, hb, frameCalls, List.flatMap_singleton, frameString, hb]
  simp

/-- The receive queue: the deadline decides for all frames of it. -/
theorem processFrames_eq (hi : bridge.initialized = true) (monitorActive : Bool) (nowMs : UInt32)
    (queue : List (CanFrame × Bool)) :
    bridge.processFrames monitorActive nowMs queue =
      some ({ bridge with monitorActive := monitorActive },
        frameCalls (nowMs < bridge.serialQuietUntilMs) monitorActive queue) := by
  have hcalls : ∀ queue : List (CanFrame × Bool),
      (queue.mapM fun r =>
        { bridge with monitorActive := monitorActive }.processFrame nowMs r.1 r.2) =
      some (queue.map fun r =>
        frameCalls (nowMs < bridge.serialQuietUntilMs) monitorActive [r]) := by
    intro queue
    induction queue with
    | nil => rfl
    | cons r queue ih => rw [List.mapM_cons, processFrame_eq, ih]; rfl
  have hni : ¬ (!bridge.initialized) = true := by simp [hi]
  rw [CanBridge.processFrames, if_neg hni]
  dsimp only
  rw [hcalls]
  simp only [Option.bind_eq_bind, Option.bind_some, frameCalls, List.flatMap_singleton,
    ← List.flatMap_def]
  rfl

theorem processFrames_uninitialized (hi : bridge.initialized = false) (monitorActive : Bool)
    (nowMs : UInt32) (queue : List (CanFrame × Bool)) :
    bridge.processFrames monitorActive nowMs queue = some (bridge, []) := by
  rw [CanBridge.processFrames, hi]
  rfl

theorem frameCalls_cons (quiet monitorActive : Bool) (r : CanFrame × Bool)
    (queue : List (CanFrame × Bool)) :
    frameCalls quiet monitorActive (r :: queue) =
      ((if quiet then [] else [.serialPrint (frameString r.1)]) ++
        if r.2 && monitorActive then [.tcpPrint (frameString r.1), .tcpFlush] else []) ++
      frameCalls quiet monitorActive queue := List.flatMap_cons

/-- What the client receives does not depend on the quiet time. -/
theorem tcpPrints_frameCalls (quiet monitorActive : Bool) (queue : List (CanFrame × Bool)) :
    tcpPrints (frameCalls quiet monitorActive queue) =
      (queue.filter fun r => r.2 && monitorActive).map fun r => frameString r.1 := by
  induction queue with
  | nil => rfl
  | cons r queue ih =>
    rw [frameCalls_cons, tcpPrints, List.filterMap_append, ← tcpPrints, ← tcpPrints, ih]
    cases quiet <;> cases hsent : r.2 && monitorActive <;> simp [tcpPrints, hsent]

/-- A string is printed to the client exactly if it is the line of a frame that came with a
connected client, while the monitor is active. -/
theorem tcpPrint_mem_frameCalls {quiet monitorActive : Bool} {queue : List (CanFrame × Bool)}
    {str : Bytes} : .tcpPrint str ∈ frameCalls quiet monitorActive queue ↔
      monitorActive = true ∧ ∃ msg, (msg, true) ∈ queue ∧ frameString msg = str := by
  have hmem : .tcpPrint str ∈ frameCalls quiet monitorActive queue ↔
      str ∈ tcpPrints (frameCalls quiet monitorActive queue) := by
    rw [tcpPrints, List.mem_filterMap]
    constructor
    · exact fun h => ⟨_, h, rfl⟩
    · rintro ⟨call, hcall, heq⟩
      cases call with
      | tcpPrint str' => exact Option.some.inj heq ▸ hcall
      | _ => cases heq
  rw [hmem, tcpPrints_frameCalls, List.mem_map]
  constructor
  · rintro ⟨⟨msg, connected⟩, hr, rfl⟩
    obtain ⟨hmsg, hsent⟩ := List.mem_filter.mp hr
    obtain ⟨rfl, rfl⟩ := Bool.and_eq_true_iff.mp hsent
    exact ⟨rfl, msg, hmsg, rfl⟩
  · rintro ⟨rfl, msg, hmsg, rfl⟩
    exact ⟨(msg, true), List.mem_filter.mpr ⟨hmsg, rfl⟩, rfl⟩

end Calls

end VehicleSpy.Firmware
