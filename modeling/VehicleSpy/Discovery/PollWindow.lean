import VehicleSpy.Discovery.PhoneCodec
import VehicleSpy.Machine.Prefixes
import VehicleSpy.Machine.Run
import VehicleSpy.Text.Numbers
import VehicleSpy.Text.Segments

/-! # A poll for broadcasts

A poll drains the socket as long as the datagrams are packets, and is over as soon as it has heard
one. A datagram that is no packet ends the draining like an empty queue does: what stands behind it
is left for a poll to come if a device is known, and for the next window of this one if none is.
-/

namespace VehicleSpy.Discovery

open Text Machine

/-- A datagram in the queue of the socket, and the address of its sender. -/
structure Datagram where
  bytes : Bytes
  sender : UInt32
  deriving DecidableEq

def ipv4DottedQuad (addrHostOrder : UInt32) : Bytes :=
  decimal ((addrHostOrder >>> 24) &&& 0xFF).toNat ++ (46 : Byte) ::
    (decimal ((addrHostOrder >>> 16) &&& 0xFF).toNat ++ (46 : Byte) ::
      (decimal ((addrHostOrder >>> 8) &&& 0xFF).toNat ++ (46 : Byte) ::
        decimal (addrHostOrder &&& 0xFF).toNat))

/-- The device that a datagram announces. -/
def Datagram.device (d : Datagram) : Option DiscoveredDevice :=
  UDPDiscovery.tryReceive d.bytes (ipv4DottedQuad d.sender)

namespace UDPDiscovery

structure Impl where
  pending : List DiscoveredDevice := []
  seenAddresses : List Bytes := []

/-- `while (tryReceive())`: the state, the calls of the callback, and what is left in the queue. -/
def drain : Impl → List Datagram → Impl × List DiscoveredDevice × List Datagram
  | impl, [] => (impl, [], [])
  | impl, d :: queue =>
    match d.device with
    | none => (impl, [], queue)
    | some device =>
      let (impl, called, queue) := drain { impl with pending := impl.pending ++ [device] } queue
      (impl, device :: called, queue)

/-- The loop of windows, as many as the time lasts for. A window without a datagram is waited out;
draining does nothing then. -/
def pollSteps : ℕ → Impl → List Datagram → Impl × List DiscoveredDevice × List Datagram
  | 0, impl, queue => (impl, [], queue)
  | steps + 1, impl, queue =>
    let (impl, called, queue) := drain impl queue
    if impl.pending = [] then
      let (impl, more, queue) := pollSteps steps impl queue
      (impl, called ++ more, queue)
    else (impl, called, queue)

def dedupStep (s : List Bytes × List DiscoveredDevice) (device : DiscoveredDevice) :
    List Bytes × List DiscoveredDevice :=
  if s.1.contains device.address then s else (s.1 ++ [device.address], s.2 ++ [device])

def drainPendingDeduplicated (impl : Impl) : Impl × List DiscoveredDevice :=
  let (seenAddresses, result) := impl.pending.foldl dedupStep (impl.seenAddresses, [])
  ({ pending := [], seenAddresses }, result)

/-- What a poll returns, and the calls of the callback. -/
structure Polled where
  devices : List DiscoveredDevice
  called : List DiscoveredDevice

def poll (impl : Impl) (steps : ℕ) (queue : List Datagram) : Impl × Polled :=
  let (impl, called, _) := pollSteps steps { impl with seenAddresses := [] } queue
  let (impl, devices) := drainPendingDeduplicated impl
  (impl, ⟨devices, called⟩)

/-- A poll as a step of the listener. -/
def pollStep (impl : Impl) (window : ℕ × List Datagram) : Impl × List Polled :=
  let (impl, polled) := poll impl window.1 window.2
  (impl, [polled])

end UDPDiscovery

open UDPDiscovery

/-- The packets in the queue, with their senders. -/
def heard (queue : List Datagram) : List (UInt32 × DiscoveredDevice) :=
  queue.filterMap fun d => d.device.map (d.sender, ·)

/-- The device of a packet whose sender has sent none before. -/
def firstOfSender (before : List (UInt32 × DiscoveredDevice)) (p : UInt32 × DiscoveredDevice) :
    Option DiscoveredDevice :=
  if p.1 ∈ before.map Prod.fst then none else some p.2

/-- One device for each sender of a packet, from the first packet of it, and one call for each
packet. -/
structure HearsAll (queue : List Datagram) (polled : Polled) : Prop where
  devices : polled.devices = alongPrefixes firstOfSender [] (heard queue)
  called : polled.called = (heard queue).map Prod.snd

/-- The time lasts for the datagrams in front of the first packet, and no packet stands behind the
first other datagram after it. -/
structure Undisturbed (steps : ℕ) (queue : List Datagram) : Prop where
  time : (queue.takeWhile fun d => d.device.isNone).length < steps
  together : ∀ d ∈ (queue.dropWhile fun d => d.device.isNone).dropWhile fun d => d.device.isSome,
    d.device = none

section Address

/-- The bytes of an address are the words between the dots. -/
theorem splitOn_ipv4DottedQuad (addr : UInt32) : (ipv4DottedQuad addr).splitOn 46 =
    [decimal ((addr >>> 24) &&& 0xFF).toNat, decimal ((addr >>> 16) &&& 0xFF).toNat,
      decimal ((addr >>> 8) &&& 0xFF).toNat, decimal (addr &&& 0xFF).toNat] := by
  have hdot : ∀ v : ℤ, (46 : Byte) ∉ decimal v :=
    notMem_decimal (by decide) (by decide)
  have hjoined : ipv4DottedQuad addr = [(46 : Byte)].intercalate
      [decimal ((addr >>> 24) &&& 0xFF).toNat, decimal ((addr >>> 16) &&& 0xFF).toNat,
        decimal ((addr >>> 8) &&& 0xFF).toNat, decimal (addr &&& 0xFF).toNat] := by
    simp only [ipv4DottedQuad, List.intercalate_cons_cons, List.intercalate_singleton,
      List.append_assoc, List.singleton_append]
  rw [hjoined]
  apply (splitOn_intercalate_iff (List.cons_ne_nil _ _)).mpr
  simp only [List.forall_mem_cons, hdot, not_false_eq_true, List.not_mem_nil, false_implies,
    implies_true, and_self]

/-- The byte of an address above its `8 * i` lowest bits. -/
theorem toNat_addressByte (addr : UInt32) :
    ((addr >>> 24) &&& 0xFF).toNat = addr.toNat / 2 ^ 24 % 256 ∧
      ((addr >>> 16) &&& 0xFF).toNat = addr.toNat / 2 ^ 16 % 256 ∧
      ((addr >>> 8) &&& 0xFF).toNat = addr.toNat / 2 ^ 8 % 256 ∧
      (addr &&& 0xFF).toNat = addr.toNat % 256 := by
  have hmask (n : ℕ) : n &&& 255 = n % 256 := Nat.and_two_pow_sub_one_eq_mod n 8
  simp only [UInt32.toNat_and, UInt32.toNat_shiftRight, Nat.shiftRight_eq_div_pow]
  exact ⟨hmask _, hmask _, hmask _, hmask _⟩

theorem ipv4DottedQuad_inj {a b : UInt32} (h : ipv4DottedQuad a = ipv4DottedQuad b) : a = b := by
  have hwords := congrArg (List.splitOn 46) h
  rw [splitOn_ipv4DottedQuad, splitOn_ipv4DottedQuad] at hwords
  simp only [List.cons.injEq, and_true] at hwords
  obtain ⟨h₃, h₂, h₁, h₀⟩ := hwords
  replace h₃ := decimal_natCast_inj h₃
  replace h₂ := decimal_natCast_inj h₂
  replace h₁ := decimal_natCast_inj h₁
  replace h₀ := decimal_natCast_inj h₀
  obtain ⟨a₃, a₂, a₁, a₀⟩ := toNat_addressByte a
  obtain ⟨b₃, b₂, b₁, b₀⟩ := toNat_addressByte b
  rw [a₃, b₃] at h₃
  rw [a₂, b₂] at h₂
  rw [a₁, b₁] at h₁
  rw [a₀, b₀] at h₀
  have ha := a.toNat_lt
  have hb := b.toNat_lt
  exact UInt32.toNat_inj.mp (by omega)

end Address

section Draining

variable {impl : Impl} {queue : List Datagram} {d : Datagram} {device : DiscoveredDevice}

/-- A device carries the address of its sender. -/
theorem address_of_device (h : d.device = some device) :
    device.address = ipv4DottedQuad d.sender := by
  obtain ⟨packet, -, rfl⟩ := Option.map_eq_some_iff.mp h
  rfl

/-- What draining hears: the packets in front of the first datagram that is none. -/
theorem drain_eq (impl : Impl) (queue : List Datagram) :
    UDPDiscovery.drain impl queue =
      ({ impl with pending := impl.pending ++
          (queue.takeWhile fun d => d.device.isSome).filterMap Datagram.device },
        (queue.takeWhile fun d => d.device.isSome).filterMap Datagram.device,
        (queue.dropWhile fun d => d.device.isSome).tail) := by
  induction queue generalizing impl with
  | nil => simp [UDPDiscovery.drain]
  | cons d queue ih =>
    cases hd : d.device with
    | none => simp [UDPDiscovery.drain, hd]
    | some device => simp [UDPDiscovery.drain, hd, ih]

/-- What a poll hears: the packets from the first one on that stand together, if the time lasts
until it. -/
def together (steps : ℕ) (queue : List Datagram) : List DiscoveredDevice :=
  if (queue.takeWhile fun d => d.device.isNone).length < steps then
    ((queue.dropWhile fun d => d.device.isNone).takeWhile fun d => d.device.isSome).filterMap
      Datagram.device
  else []

theorem together_nil (steps : ℕ) : together steps [] = [] := by
  rw [together]
  split <;> rfl

theorem together_none (hd : d.device = none) (steps : ℕ) (queue : List Datagram) :
    together (steps + 1) (d :: queue) = together steps queue := by
  simp [together, hd]

theorem together_some (hd : d.device = some device) (steps : ℕ) (queue : List Datagram) :
    together (steps + 1) (d :: queue) =
      device :: (queue.takeWhile fun d => d.device.isSome).filterMap Datagram.device := by
  simp [together, hd]

/-- The windows of one poll: each datagram that is no packet costs one, until the first packet. -/
theorem pollSteps_eq (steps : ℕ) (h : impl.pending = []) (queue : List Datagram) :
    (pollSteps steps impl queue).1 = { impl with pending := together steps queue } ∧
      (pollSteps steps impl queue).2.1 = together steps queue := by
  induction steps generalizing queue with
  | zero =>
    simp only [pollSteps, together, Nat.not_lt_zero, if_false]
    exact ⟨by rw [← h], trivial⟩
  | succ steps ih =>
    have hsame : { impl with pending := ([] : List DiscoveredDevice) } = impl := by rw [← h]
    cases queue with
    | nil =>
      obtain ⟨hstate, hcalled⟩ := ih []
      rw [together_nil] at hstate hcalled ⊢
      simp only [pollSteps, UDPDiscovery.drain, h, if_true, List.nil_append, hstate, hcalled,
        true_and]
    | cons d queue =>
      cases hd : d.device with
      | none =>
        obtain ⟨hstate, hcalled⟩ := ih queue
        rw [together_none hd]
        simp only [pollSteps, UDPDiscovery.drain, hd, h, if_true, List.nil_append, hstate, hcalled,
          true_and]
      | some device =>
        rw [together_some hd]
        simp only [pollSteps, UDPDiscovery.drain, hd, drain_eq, h, List.nil_append,
          List.singleton_append, List.cons_ne_nil, if_false, and_self]

end Draining

section Deduplication

/-- The addresses that are seen are those of the senders before. -/
theorem foldl_dedupStep {seen : List Bytes} {before packets : List (UInt32 × DiscoveredDevice)}
    (hseen : ∀ sender, ipv4DottedQuad sender ∈ seen ↔ sender ∈ before.map Prod.fst)
    (haddress : ∀ p ∈ packets, p.2.address = ipv4DottedQuad p.1) (result : List DiscoveredDevice) :
    ((packets.map Prod.snd).foldl dedupStep (seen, result)).2 =
      result ++ alongPrefixes firstOfSender before packets := by
  induction packets generalizing seen before result with
  | nil => simp [alongPrefixes]
  | cons p packets ih =>
    obtain ⟨hp, haddress⟩ := List.forall_mem_cons.mp haddress
    have hnew : seen.contains p.2.address = true ↔ p.1 ∈ before.map Prod.fst := by
      rw [List.contains_iff_mem, hp]
      exact hseen p.1
    rw [List.map_cons, List.foldl_cons, alongPrefixes, firstOfSender, dedupStep]
    by_cases hold : p.1 ∈ before.map Prod.fst
    · rw [if_pos (hnew.mpr hold), if_pos hold]
      refine ih ?_ haddress result
      intro sender
      rw [hseen, List.map_append, List.mem_append, List.map_singleton, List.mem_singleton]
      exact ⟨Or.inl, fun h => h.elim id fun heq => heq ▸ hold⟩
    · rw [if_neg (hnew.not.mpr hold), if_neg hold, Option.toList_some, ← List.append_assoc]
      refine ih ?_ haddress (result ++ [p.2])
      intro sender
      rw [List.mem_append, hseen, List.map_append, List.mem_append, List.map_singleton,
        List.mem_singleton, List.mem_singleton, hp]
      exact or_congr_right ⟨ipv4DottedQuad_inj, fun heq => heq ▸ rfl⟩

theorem map_snd_heard (queue : List Datagram) :
    (heard queue).map Prod.snd = queue.filterMap Datagram.device := by
  rw [heard, List.map_filterMap]
  congr 1
  funext d
  cases d.device <;> rfl

theorem address_of_mem_heard {queue : List Datagram} :
    ∀ p ∈ heard queue, p.2.address = ipv4DottedQuad p.1 := by
  rintro p hp
  obtain ⟨d, -, hd⟩ := List.mem_filterMap.mp hp
  obtain ⟨device, hdevice, rfl⟩ := Option.map_eq_some_iff.mp hd
  exact address_of_device hdevice

end Deduplication

section Polling

variable {impl : Impl} {steps : ℕ} {queue : List Datagram}

/-- The packets that stand together are all packets just when nothing disturbs them. -/
theorem together_eq_iff (hany : ∃ d ∈ queue, d.device.isSome = true) :
    together steps queue = queue.filterMap Datagram.device ↔ Undisturbed steps queue := by
  have hlead : (queue.takeWhile fun d => d.device.isNone).filterMap Datagram.device = [] := by
    rw [List.filterMap_eq_nil_iff]
    intro d hd
    have hnone := List.mem_takeWhile_imp hd
    exact Option.isNone_iff_eq_none.mp hnone
  have hall : queue.filterMap Datagram.device =
      ((queue.dropWhile fun d => d.device.isNone).takeWhile fun d => d.device.isSome).filterMap
          Datagram.device ++
        ((queue.dropWhile fun d => d.device.isNone).dropWhile fun d => d.device.isSome).filterMap
          Datagram.device := by
    rw [← List.filterMap_append, List.takeWhile_append_dropWhile]
    conv_lhs => rw [← List.takeWhile_append_dropWhile (p := fun d : Datagram => d.device.isNone)
      (l := queue), List.filterMap_append, hlead, List.nil_append]
  by_cases htime : (queue.takeWhile fun d => d.device.isNone).length < steps
  · rw [together, if_pos htime, hall, List.self_eq_append_right, List.filterMap_eq_nil_iff]
    exact ⟨fun h => ⟨htime, h⟩, fun h => h.together⟩
  · rw [together, if_neg htime]
    refine iff_of_false ?_ fun h => htime h.time
    obtain ⟨d, hd, hsome⟩ := hany
    intro hnil
    rw [List.filterMap_eq_nil_iff.mp hnil.symm d hd] at hsome
    cases hsome

/-- Between two polls nothing is pending. -/
theorem pending_after (earlier : List (ℕ × List Datagram)) :
    (after pollStep {} earlier).pending = [] := by
  induction earlier using List.reverseRecOn with
  | nil => rfl
  | append_singleton earlier window _ =>
    rw [after_concat]
    rfl

theorem poll_eq (h : impl.pending = []) (steps : ℕ) (queue : List Datagram) :
    (poll impl steps queue).2 =
      ⟨((together steps queue).foldl dedupStep ([], [])).2, together steps queue⟩ := by
  obtain ⟨hstate, hcalled⟩ := @pollSteps_eq { impl with seenAddresses := [] } steps h queue
  simp only [poll, drainPendingDeduplicated, hstate, hcalled]

end Polling

/-- After any polls, a poll of a queue with a packet hears all just when nothing disturbs. -/
theorem poll_hearsAll_iff (earlier : List (ℕ × List Datagram)) (steps : ℕ)
    (queue : List Datagram) :
    ((∃ d ∈ queue, d.device.isSome = true) →
        HearsAll queue (poll (after pollStep {} earlier) steps queue).2) ↔
      (∀ d ∈ queue, d.device = none) ∨ Undisturbed steps queue := by
  rw [poll_eq (pending_after earlier)]
  by_cases hany : ∃ d ∈ queue, d.device.isSome = true
  · have hsome : ¬ ∀ d ∈ queue, d.device = none := by
      obtain ⟨d, hd, hsome⟩ := hany
      intro hnone
      rw [hnone d hd] at hsome
      cases hsome
    rw [forall_prop_of_true hany, or_iff_right hsome, ← together_eq_iff hany]
    constructor
    · intro h
      exact h.called.trans (map_snd_heard queue)
    · intro h
      rw [h, ← map_snd_heard]
      refine ⟨?_, rfl⟩
      exact @foldl_dedupStep [] [] (heard queue) (fun sender => by simp) address_of_mem_heard []
  · refine iff_of_true (fun h => absurd h hany) (Or.inl fun d hd => ?_)
    rw [← Option.not_isSome_iff_eq_none]
    exact fun hsome => hany ⟨d, hd, hsome⟩

/-- The broadcast of a device, from an address. -/
def broadcastFrom (sender : UInt32) : Datagram :=
  ⟨signPacket (buildDiscoveryPacket (List.replicate 106 0) (List.replicate 16 7) 3333 80 0 5000)
    (List.replicate 64 0), sender⟩

/-- A datagram of one byte between two broadcasts: the second device is not heard. -/
theorem not_hearsAll : ¬ HearsAll
    [broadcastFrom 0xC0A80102, ⟨[0], 0xC0A80103⟩, broadcastFrom 0xC0A80104]
    (poll {} 50 [broadcastFrom 0xC0A80102, ⟨[0], 0xC0A80103⟩, broadcastFrom 0xC0A80104]).2 := by
  intro h
  have hcount := congrArg List.length h.called
  rw [map_snd_heard] at hcount
  revert hcount
  decide +kernel

end VehicleSpy.Discovery
