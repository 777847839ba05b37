import VehicleSpy.Ble.BufferedTransport
import Mathlib.Data.List.GetD

/-! # The packets of a Tesla adapter

A packet is a header of two bytes, a length, the payload and a checksum. The loop looks for the
header in what is buffered and takes whole packets from there. Without a header it clears the
buffer, also when the last byte of it is the first one of a header cut in two.
-/

namespace VehicleSpy.Ble.TeslaBLETransport

open Text Machine Locking BufferedTransport

def HEADER_BYTE_1 : Byte := 0xAA

def HEADER_BYTE_2 : Byte := 0x55

/-- The pair of bytes the loop looks for. -/
def HEADER : Bytes := [HEADER_BYTE_1, HEADER_BYTE_2]

/-- The sum of all bytes but the last. -/
def calculateChecksum (data : Bytes) : Byte :=
  (data.dropLast.foldl (fun sum b => sum + b.toUInt32) (0 : UInt32) &&& 0xFF).toUInt8

def validatePacket (packet : Bytes) : Bool :=
  if packet.length < 4 then false
  else if packet.getD 0 0 ≠ HEADER_BYTE_1 ∨ packet.getD 1 0 ≠ HEADER_BYTE_2 then false
  else if packet.length ≠ (packet.getD 2 0).toNat + 4 then false
  else calculateChecksum packet = packet.getLastD 0

section Extraction

variable {β : Type} (value : β → Byte)

/-- What is left of a buffer, and the packets that are forwarded. -/
def extractCompletePackets (buffer : List β) : List β × List (List β) :=
  if buffer.length < 4 then (buffer, [])
  else
    match findStr HEADER (buffer.map value) with
    | none => ([], [])
    | some headerPos =>
      let rest := buffer.drop headerPos
      if rest.length < 3 then (rest, [])
      else
        let expected := ((rest.map value).getD 2 0).toNat + 4
        if rest.length < expected then (rest, [])
        else
          let packet := rest.take expected
          let more := extractCompletePackets (rest.drop expected)
          (more.1, if validatePacket (packet.map value) then packet :: more.2 else more.2)
termination_by buffer.length
decreasing_by
  simp only [List.length_drop]
  omega

def connect (linked : Bool) : Method β Bool := BufferedTransport.connect linked

def disconnect : Method β Unit := BufferedTransport.disconnect

def isConnected (linked : Bool) : Method β Bool := BufferedTransport.isConnected linked

def readData : Method β (Option (List β)) :=
  BufferedTransport.readData (extractCompletePackets value)

def send (data : Bytes) : Method β Unit := BufferedTransport.send data

def subscribeToNotifications : Method β Unit := BufferedTransport.subscribeToNotifications

def unsubscribe : Method β Unit := BufferedTransport.unsubscribe

def forwardPacket (packet : List β) : Method β Unit := forward packet

def processIncomingData (data : List β) : Method β Unit :=
  BufferedTransport.processIncomingData (extractCompletePackets value) data

def perform : Call β → Method β Unit
  | .connect linked => do
    let _ ← connect linked
  | .disconnect => disconnect
  | .isConnected linked => do
    let _ ← isConnected linked
  | .send data => send data
  | .subscribeToNotifications => subscribeToNotifications
  | .unsubscribe => unsubscribe
  | .readData => do
    match ← readData value with
    | some data => emit (.polled data)
    | none => pure ()
  | .notification data => processIncomingData value data

theorem perform_eq : perform value = BufferedTransport.perform (extractCompletePackets value) := by
  funext call
  cases call <;> rfl

end Extraction

/-- A run of bytes that holds no header. -/
structure Noise where
  bytes : Bytes
  clean : ¬ HEADER <:+: bytes

structure Packet where
  payload : Bytes
  length_lt : payload.length < 256

namespace Packet

variable (p : Packet)

/-- All of a packet but the checksum. -/
def front : Bytes := HEADER_BYTE_1 :: HEADER_BYTE_2 :: p.payload.length.toUInt8 :: p.payload

/-- The sum of all preceding bytes modulo 256. -/
def checksum : Byte := (p.front.foldl (fun (sum : ℕ) (b : Byte) => sum + b.toNat) 0 % 256).toUInt8

def bytes : Bytes := p.front ++ [p.checksum]

end Packet

/-- Packets, each behind some noise, and the noise behind the last one. -/
structure PacketStream where
  runs : List (Noise × Packet)
  last : Noise

namespace PacketStream

variable (s : PacketStream)

def bytes : Bytes := s.runs.flatMap (fun r => r.1.bytes ++ r.2.bytes) ++ s.last.bytes

def packets : List Bytes := s.runs.map fun r => r.2.bytes

end PacketStream

section Checksum

theorem toNat_foldl_uint32 (data : Bytes) {sum : UInt32} {total : ℕ}
    (h : sum.toNat % 256 = total % 256) :
    (data.foldl (fun sum b => sum + b.toUInt32) sum).toNat % 256 =
      data.foldl (fun (sum : ℕ) (b : Byte) => sum + b.toNat) total % 256 := by
  induction data generalizing sum total with
  | nil => exact h
  | cons b data ih =>
    apply ih
    change (sum + b.toUInt32).toNat % 256 = (total + b.toNat) % 256
    rw [UInt32.toNat_add, UInt8.toNat_toUInt32]
    omega

/-- The 32-bit sum has the low byte of the whole sum. -/
theorem calculateChecksum_concat (p : Packet) :
    calculateChecksum (p.front ++ [p.checksum]) = p.checksum := by
  have hsum := @toNat_foldl_uint32 p.front 0 0 rfl
  have hmask (x : UInt32) : (x &&& 0xFF).toNat = x.toNat % 256 := by
    rw [UInt32.toNat_and]
    exact Nat.and_two_pow_sub_one_eq_mod x.toNat 8
  apply UInt8.toNat_inj.mp
  rw [calculateChecksum, List.dropLast_concat, UInt32.toNat_toUInt8, hmask, hsum]
  rw [Packet.checksum, Nat.toUInt8, UInt8.toNat_ofNat']

theorem length_bytes (p : Packet) : p.bytes.length = p.payload.length + 4 := by
  simp [Packet.bytes, Packet.front]

theorem getD_bytes (p : Packet) : (p.bytes.getD 2 0).toNat = p.payload.length := by
  have hbyte : p.bytes.getD 2 0 = p.payload.length.toUInt8 := rfl
  rw [hbyte, Nat.toUInt8, UInt8.toNat_ofNat']
  exact Nat.mod_eq_of_lt p.length_lt

theorem validatePacket_bytes (p : Packet) : validatePacket p.bytes = true := by
  have hsize : ¬ p.bytes.length < 4 := by
    rw [length_bytes]
    omega
  have hheader : ¬ (p.bytes.getD 0 0 ≠ HEADER_BYTE_1 ∨ p.bytes.getD 1 0 ≠ HEADER_BYTE_2) := by
    simp [Packet.bytes, Packet.front]
  have hlength : ¬ p.bytes.length ≠ (p.bytes.getD 2 0).toNat + 4 := by
    rw [getD_bytes, length_bytes, not_not]
  have hlast : p.bytes.getLastD 0 = p.checksum := by simp [Packet.bytes]
  rw [validatePacket, if_neg hsize, if_neg hheader, if_neg hlength, hlast, Packet.bytes,
    calculateChecksum_concat]
  exact decide_eq_true rfl

end Checksum

section Extract

/-- Noise in front of a header is skipped. -/
theorem findStr_noise (n : Noise) {v : Bytes} (hv : HEADER <+: v) :
    findStr HEADER (n.bytes ++ v) = some n.bytes.length := by
  refine findStr_append ?_ hv
  obtain ⟨v, rfl⟩ := hv
  rintro (_ | ⟨a, _ | ⟨b, w⟩⟩) hsuffix hne hprefix
  · exact hne rfl
  · obtain ⟨rest, hrest⟩ := hprefix
    have h := (List.cons.inj (List.cons.inj hrest).2).1
    exact absurd h (by decide)
  · apply n.clean
    obtain ⟨rest, hrest⟩ := hprefix
    obtain ⟨rfl, htail⟩ := List.cons.inj hrest
    obtain ⟨rfl, -⟩ := List.cons.inj htail
    exact List.IsInfix.trans ⟨[], w, rfl⟩ hsuffix.isInfix

theorem extract_short {buffer : Bytes} (h : buffer.length < 4) :
    extractCompletePackets id buffer = (buffer, []) := by
  rw [extractCompletePackets, if_pos h]

/-- Four bytes without a header are dropped. -/
theorem extract_noHeader {buffer : Bytes} (h : 4 ≤ buffer.length) (hnone : ¬ HEADER <:+: buffer) :
    extractCompletePackets id buffer = ([], []) := by
  rw [extractCompletePackets, if_neg (by omega), List.map_id, findStr_none_iff.mpr hnone]

/-- The first bytes of a packet stay buffered, without the noise in front of them. -/
theorem extract_incomplete (n : Noise) (p : Packet) {q rest : Bytes}
    (hq : q ++ rest = p.bytes) (hheader : 2 ≤ q.length) (hrest : rest ≠ [])
    (hsize : 4 ≤ (n.bytes ++ q).length) :
    extractCompletePackets id (n.bytes ++ q) = (q, []) := by
  have hprefix : HEADER <+: q := by
    have hp : HEADER <+: p.bytes := ⟨_, rfl⟩
    exact List.prefix_of_prefix_length_le hp ⟨rest, hq⟩ hheader
  have hshort : q.length < p.payload.length + 4 := by
    have hlength := congrArg List.length hq
    rw [List.length_append, length_bytes] at hlength
    have := List.length_pos_iff.mpr hrest
    omega
  rw [extractCompletePackets, if_neg (by omega), List.map_id, findStr_noise n hprefix]
  simp only [List.drop_left, List.map_id]
  by_cases hthree : q.length < 3
  · rw [if_pos hthree]
  · have hbyte : (q.getD 2 0).toNat = p.payload.length := by
      rw [← getD_bytes, ← hq, List.getD_append _ _ _ _ (by omega)]
    rw [if_neg hthree, hbyte, if_pos hshort]

/-- A whole packet is forwarded, and the loop goes on behind it. -/
theorem extract_run (n : Noise) (p : Packet) (q : Bytes) :
    extractCompletePackets id (n.bytes ++ (p.bytes ++ q)) =
      ((extractCompletePackets id q).1, p.bytes :: (extractCompletePackets id q).2) := by
  have hprefix : HEADER <+: p.bytes ++ q := ⟨_, rfl⟩
  have hsize := length_bytes p
  have hbyte : ((p.bytes ++ q).getD 2 0).toNat = p.payload.length := by
    rw [← getD_bytes, List.getD_append _ _ _ _ (by omega)]
  rw [extractCompletePackets, if_neg (by simp only [List.length_append]; omega), List.map_id,
    findStr_noise n hprefix]
  simp only [List.drop_left, List.map_id, hbyte, ← hsize]
  rw [if_neg (by simp only [List.length_append]; omega),
    if_neg (by simp only [List.length_append]; omega), List.take_left, validatePacket_bytes,
    if_pos rfl]

end Extract

/-- A notification ends between the header bytes of a packet, with three or more bytes of noise
still buffered in front of them. -/
def CutsHeader (pending todo : Bytes) : Prop :=
  ∃ done : PacketStream, pending = done.bytes ++ [HEADER_BYTE_1] ∧
    todo.head? = some HEADER_BYTE_2 ∧ 3 ≤ done.last.bytes.length

/-- No notification does so, each read with what the ones before it left in the buffer. -/
def HeadersWhole : Bytes → List Bytes → Prop
  | _, [] => True
  | buffer, d :: ds => ¬ CutsHeader (buffer ++ d) ds.flatten ∧
      HeadersWhole (extractCompletePackets id (buffer ++ d)).1 ds

/-- A transport that has received nothing, with a callback. -/
def subscribed (connected : Bool) : BufferedTransport Byte :=
  { connected := connected, notificationCallback := true }

/-- The callback gets the packets of the stream, and only noise behind the last one is left. -/
def Delivers (s : PacketStream) (ds : List Bytes) : Prop :=
  ∀ connected, ∃ t, t.receiveBuffer <:+ s.last.bytes ∧
    (forEach (processIncomingData id) ds).run [] (subscribed connected) =
      some ((), t, s.packets.map .delivered)

namespace PacketStream

theorem bytes_cons (n : Noise) (p : Packet) (runs : List (Noise × Packet)) (last : Noise) :
    (mk ((n, p) :: runs) last).bytes = n.bytes ++ (p.bytes ++ (mk runs last).bytes) := by
  simp [bytes]

theorem length_last_le (s : PacketStream) : s.last.bytes.length ≤ s.bytes.length := by
  simp [bytes]

theorem runs_of_length_lt (s : PacketStream) (h : s.bytes.length < 4) : s.runs = [] := by
  obtain ⟨_ | ⟨⟨n, p⟩, runs⟩, last⟩ := s
  · rfl
  · rw [bytes_cons, List.length_append, List.length_append, length_bytes] at h
    omega

end PacketStream

/-- Some of a run of noise is noise. -/
def Noise.part (n : Noise) (bytes : Bytes) (h : bytes <:+: n.bytes) : Noise :=
  ⟨bytes, fun hin => n.clean (hin.trans h)⟩

theorem CutsHeader.behind_run {buffer todo : Bytes} (n : Noise) (p : Packet)
    (h : CutsHeader buffer todo) : CutsHeader (n.bytes ++ (p.bytes ++ buffer)) todo := by
  obtain ⟨⟨runs, last⟩, rfl, htodo, hlast⟩ := h
  refine ⟨⟨(n, p) :: runs, last⟩, ?_, htodo, hlast⟩
  rw [PacketStream.bytes_cons]
  simp only [List.append_assoc]

/-- Where a header is cut behind noise, the loop drops the first byte of the header. -/
theorem extract_cutsHeader {buffer todo : Bytes} (h : CutsHeader buffer todo) :
    (extractCompletePackets id buffer).1 = [] := by
  obtain ⟨⟨runs, last⟩, rfl, -, hlast⟩ := h
  induction runs with
  | nil =>
    have hnone : ¬ HEADER <:+: last.bytes ++ [HEADER_BYTE_1] := by
      intro h
      rcases List.infix_concat_iff.mp h with ⟨u, hu⟩ | h
      · have hconcat : (u ++ [HEADER_BYTE_1]) ++ [HEADER_BYTE_2] =
            last.bytes ++ [HEADER_BYTE_1] := by
          rw [← hu]
          simp [HEADER]
        exact absurd (List.append_singleton_inj.mp hconcat).2 (by decide)
      · exact last.clean h
    rw [PacketStream.bytes, List.flatMap_nil, List.nil_append,
      extract_noHeader (by simpa using hlast) hnone]
  | cons run runs ih =>
    obtain ⟨n, p⟩ := run
    rw [PacketStream.bytes_cons, List.append_assoc, List.append_assoc, extract_run]
    exact ih hlast

/-- What the loop leaves of a stream is the rest of the stream, and it forwards what is missing
there. At the end of the stream only noise is left. -/
def Keeps (s : PacketStream) (buffer todo : Bytes) : Prop :=
  ∃ s' : PacketStream, (extractCompletePackets id buffer).1 ++ todo = s'.bytes ∧
    (extractCompletePackets id buffer).2 ++ s'.packets = s.packets ∧
    s'.last.bytes <:+ s.last.bytes ∧ (todo = [] → s'.runs = [])

section Keeps

variable {s : PacketStream} {n : Noise} {p : Packet} {runs : List (Noise × Packet)}
  {last : Noise} {buffer todo q rest : Bytes}

theorem keeps_short (hs : buffer ++ todo = s.bytes) (hsize : buffer.length < 4) :
    Keeps s buffer todo := by
  unfold Keeps
  rw [extract_short hsize]
  refine ⟨s, hs, rfl, List.suffix_rfl, ?_⟩
  rintro rfl
  rw [List.append_nil] at hs
  exact s.runs_of_length_lt (hs ▸ hsize)

theorem keeps_last (hs : buffer ++ todo = last.bytes) (hsize : 4 ≤ buffer.length) :
    Keeps ⟨[], last⟩ buffer todo := by
  have hnone : ¬ HEADER <:+: buffer := fun h => last.clean (h.trans ⟨[], todo, by simpa⟩)
  have hsuffix : todo <:+ last.bytes := ⟨buffer, hs⟩
  unfold Keeps
  rw [extract_noHeader hsize hnone]
  exact ⟨⟨[], last.part todo hsuffix.isInfix⟩, rfl, rfl, hsuffix, fun _ => rfl⟩

/-- The buffer ends in noise. -/
theorem keeps_noise (hn : n.bytes = buffer ++ rest) (hsize : 4 ≤ buffer.length) :
    Keeps ⟨(n, p) :: runs, last⟩ buffer
      (rest ++ (p.bytes ++ (PacketStream.mk runs last).bytes)) := by
  have hnone : ¬ HEADER <:+: buffer := fun h => n.clean (h.trans ⟨[], rest, by simp [hn]⟩)
  have hrest : rest <:+ n.bytes := ⟨buffer, hn.symm⟩
  unfold Keeps
  rw [extract_noHeader hsize hnone]
  refine ⟨⟨(n.part rest hrest.isInfix, p) :: runs, last⟩, ?_, rfl, List.suffix_rfl, ?_⟩
  · rw [PacketStream.bytes_cons]
    rfl
  · intro h
    have hl := congrArg List.length h
    rw [List.length_append, List.length_append, length_bytes, List.length_nil] at hl
    omega

/-- A packet has begun behind the noise. -/
theorem keeps_begun (hp : q ++ rest = p.bytes) (hheader : 2 ≤ q.length) (hrest : rest ≠ [])
    (hsize : 4 ≤ (n.bytes ++ q).length) :
    Keeps ⟨(n, p) :: runs, last⟩ (n.bytes ++ q) (rest ++ (PacketStream.mk runs last).bytes) := by
  have hempty : ([] : Bytes) <:+: n.bytes := List.nil_infix
  unfold Keeps
  rw [extract_incomplete n p hp hheader hrest hsize]
  refine ⟨⟨(n.part [] hempty, p) :: runs, last⟩, ?_, rfl, List.suffix_rfl, ?_⟩
  · rw [PacketStream.bytes_cons, ← List.append_assoc, hp]
    rfl
  · intro h
    exact absurd (List.append_eq_nil_iff.mp h).1 hrest

/-- A whole packet is buffered. -/
theorem keeps_run (h : Keeps ⟨runs, last⟩ q todo) :
    Keeps ⟨(n, p) :: runs, last⟩ (n.bytes ++ (p.bytes ++ q)) todo := by
  obtain ⟨s', hs', hpackets, hlast, hend⟩ := h
  unfold Keeps
  rw [extract_run]
  exact ⟨s', hs', congrArg (p.bytes :: ·) hpackets, hlast, hend⟩

theorem extract_keeps (hs : buffer ++ todo = (PacketStream.mk runs last).bytes)
    (hcut : ¬ CutsHeader buffer todo) : Keeps ⟨runs, last⟩ buffer todo := by
  induction runs generalizing buffer with
  | nil =>
    by_cases hsize : buffer.length < 4
    · exact keeps_short hs hsize
    · exact keeps_last (by simpa [PacketStream.bytes] using hs) (by omega)
  | cons run runs ih =>
    obtain ⟨n, p⟩ := run
    by_cases hsize : buffer.length < 4
    · exact keeps_short hs hsize
    rw [PacketStream.bytes_cons] at hs
    rcases List.append_eq_append_iff.mp hs with ⟨w, hn, rfl⟩ | ⟨q, rfl, hq⟩
    · exact keeps_noise hn (by omega)
    rcases List.append_eq_append_iff.mp hq with ⟨q', rfl, hrest⟩ | ⟨rest, hp, rfl⟩
    · exact keeps_run (ih hrest.symm fun h => hcut (h.behind_run n p))
    rcases rest with _ | ⟨c, rest⟩
    · -- the buffer ends with the packet
      rw [List.append_nil] at hp
      have hnil : ¬ CutsHeader [] ([] ++ (PacketStream.mk runs last).bytes) := by
        rintro ⟨done, h, -⟩
        simp at h
      have hwhole := keeps_run (n := n) (p := p) (ih rfl hnil)
      rwa [List.append_nil, hp] at hwhole
    rcases q with _ | ⟨a, _ | ⟨b, q⟩⟩
    · rw [List.append_nil] at hsize ⊢
      rw [List.nil_append] at hp
      rw [← hp]
      exact keeps_noise (List.append_nil _).symm (by omega)
    · -- only the first byte of the packet is there
      obtain ⟨rfl, hrest⟩ := List.cons.inj hp
      obtain ⟨rfl, -⟩ := List.cons.inj hrest
      refine absurd ⟨⟨[], n⟩, by simp [PacketStream.bytes], rfl, ?_⟩ hcut
      simpa using hsize
    · exact keeps_begun hp.symm (by simp) (List.cons_ne_nil c rest) (by omega)

end Keeps

theorem incoming_run {t : BufferedTransport Byte} {d : Bytes} :
    (processIncomingData id d).run [] t =
      some ((), { t with receiveBuffer := (extractCompletePackets id (t.receiveBuffer ++ d)).1 },
        deliveries t (extractCompletePackets id (t.receiveBuffer ++ d)).2) :=
  processIncomingData_run

theorem headersWhole_run {ds : List Bytes} {t : BufferedTransport Byte} {s : PacketStream}
    (hcallback : t.notificationCallback = true) (hs : t.receiveBuffer ++ ds.flatten = s.bytes)
    (hend : ds = [] → s.runs = []) (hw : HeadersWhole t.receiveBuffer ds) :
    ∃ t', t'.receiveBuffer <:+ s.last.bytes ∧
      (forEach (processIncomingData id) ds).run [] t =
        some ((), t', s.packets.map .delivered) := by
  induction ds generalizing t s with
  | nil =>
    obtain ⟨runs, last⟩ := s
    obtain rfl : runs = [] := hend rfl
    refine ⟨t, ?_, rfl⟩
    rw [List.flatten_nil, List.append_nil] at hs
    rw [hs]
    exact List.suffix_rfl
  | cons d ds ih =>
    obtain ⟨hcut, hrest⟩ := hw
    rw [List.flatten_cons, ← List.append_assoc] at hs
    obtain ⟨s', hs', hpackets, hlast, hdone⟩ := extract_keeps hs hcut
    obtain ⟨t', ht', hrun⟩ := ih
      (t := { t with receiveBuffer := (extractCompletePackets id (t.receiveBuffer ++ d)).1 })
      hcallback hs' (fun h => hdone (by rw [h, List.flatten_nil])) hrest
    refine ⟨t', ht'.trans hlast, ?_⟩
    rw [run_forEach_cons incoming_run, hrun, ← hpackets]
    simp [deliveries, hcallback]

/-- Every packet is delivered, in order and once, if no header is cut behind buffered noise. -/
theorem delivers_of_headersWhole (s : PacketStream) (ds : List Bytes) (hs : ds.flatten = s.bytes)
    (hw : HeadersWhole [] ds) : Delivers s ds := by
  intro connected
  refine headersWhole_run (t := subscribed connected) rfl hs ?_ hw
  rintro rfl
  exact s.runs_of_length_lt (by rw [← hs]; decide)

/-- A packet without payload behind some noise. -/
def emptyPacketBehind (noise : Noise) : PacketStream :=
  ⟨[(noise, ⟨[], by decide⟩)], ⟨[], by decide⟩⟩

/-- Two bytes of noise and one of the header wait in the buffer for the rest. -/
theorem delivers_cutHeader :
    Delivers (emptyPacketBehind ⟨[1, 2], by decide⟩) [[1, 2, 0xAA], [0x55, 0, 0xFF]] := by
  refine delivers_of_headersWhole _ _ (by decide) ⟨?_, ?_, trivial⟩
  · rintro ⟨done, hdone, -, hlast⟩
    have hle := done.length_last_le
    have hlength := congrArg List.length hdone
    simp only [List.length_append, List.length_cons, List.length_nil] at hlength
    omega
  · rintro ⟨done, -, htodo, -⟩
    cases htodo

/-- With a third byte of noise the header's first byte is dropped, and the packet is lost. -/
theorem not_delivers :
    ¬ ∀ (s : PacketStream) (ds : List Bytes), ds.flatten = s.bytes → Delivers s ds := by
  intro h
  obtain ⟨t, -, hrun⟩ := h (emptyPacketBehind ⟨[1, 2, 3], by decide⟩)
    [[1, 2, 3, 0xAA], [0x55, 0, 0xFF]] (by decide) true
  have hfirst : extractCompletePackets id [1, 2, 3, 0xAA] = ([], []) :=
    extract_noHeader (by decide) (by decide)
  have hsecond : extractCompletePackets id [0x55, 0, 0xFF] = ([0x55, 0, 0xFF], []) :=
    extract_short (by decide)
  rw [run_forEach_cons incoming_run] at hrun
  simp only [subscribed, List.nil_append, hfirst] at hrun
  rw [run_forEach_cons incoming_run] at hrun
  simp [forEach, hsecond, deliveries, emptyPacketBehind, PacketStream.packets] at hrun

end VehicleSpy.Ble.TeslaBLETransport
