import VehicleSpy.Ios.Pursuit

/-! # The addresses that a hunt tries

A hunt records the address of each connection that fails in the skip list, and goes on with a
device that is not in the list. So it is a search whose memory is the skip list: it tries no
address twice as long as the list is not emptied for its size after the first failure.
-/

namespace VehicleSpy.Ios

open Machine WifiViewModel

/-- The device that a hunt has decided to connect to. -/
def Worker.chosen : Worker → Option DiscoveredESP32
  | .located targetDevice _ true | .deciding targetDevice _ true
  | .continuing targetDevice | .next targetDevice => some targetDevice
  | _ => none

/-- How many of its sleeps a hunt has left. -/
def slices (waitedMs : ℕ) : ℕ :=
  (discoveryTimeoutMs - waitedMs + (checkIntervalMs - 1)) / checkIntervalMs

/-- How many steps of the queue there are at most before the hunt connects again or ends. -/
def Worker.rank : Worker → ℕ
  | .idle => 0
  | .reconnecting _ | .givingUp => 1
  | .next _ => 2
  | .continuing _ => 3
  | .waiting _ waitedMs | .deciding _ waitedMs _ => 2 * slices waitedMs + 3
  | .finding _ waitedMs | .located _ waitedMs _ => 2 * slices waitedMs + 4
  | .connecting _ => 104

/-- The address that a block records as failed. -/
def Block.failed : Block → Option String
  | .authFailed currentAddress => some currentAddress
  | _ => none

section Events

variable {ν : Type}

/-- Where the queue connects with an event that leaves it so. -/
def Event.attempted (worker : Worker) : Event ν → List String
  | .connectStart =>
    match worker with
    | .connecting targetDevice => [targetDevice.host]
    | _ => []
  | _ => []

def Event.announced : Event ν → Finset String
  | .discovered esp32 => {esp32.address}
  | _ => ∅

/-- No connection succeeds, the mode stays and the app is not resumed. -/
def Event.Undisturbed : Event ν → Prop
  | .setConnectionMode _ | .resumeDiscovery | .connectEnd true => False
  | _ => True

end Events

namespace Pursuit

variable {ν : Type} {block : Option Block} {e : Event ν} {p p' : Pursuit}

/-- A failure is recorded before the hunt looks for the next device. -/
def Ordered (p : Pursuit) : Prop :=
  match p.worker with
  | .waiting _ waitedMs => p.pending = [] ∨ waitedMs = 0 ∧ ∃ a, p.pending = [.authFailed a]
  | .finding _ _ => p.pending = [.findCandidate] ∨ ∃ a, p.pending = [.authFailed a, .findCandidate]
  | _ => p.pending = []

/-- The addresses that failed, or will, and are not recorded yet. -/
def unrecorded (p : Pursuit) : List String :=
  match p.worker with
  | .connecting targetDevice => [targetDevice.address]
  | _ => p.pending.filterMap Block.failed

/-- A failure is recorded at the start of a wait, or before the search behind it. -/
theorem Ordered.pending_authFailed {a : String} {pending : List Block} (ho : p.Ordered)
    (hp : p.pending = .authFailed a :: pending) :
    (∃ t, p.worker = .waiting t 0) ∧ pending = [] ∨
      (∃ t waitedMs, p.worker = .finding t waitedMs) ∧ pending = [.findCandidate] := by
  unfold Ordered at ho
  split at ho
  · next t waitedMs hw =>
    rcases ho with hnil | ⟨rfl, b, hb⟩
    · rw [hnil] at hp
      cases hp
    · rw [hb] at hp
      cases hp
      exact Or.inl ⟨⟨t, hw⟩, rfl⟩
  · next t waitedMs hw =>
    rcases ho with hfind | ⟨b, hb⟩
    · rw [hfind] at hp
      cases hp
    · rw [hb] at hp
      cases hp
      exact Or.inr ⟨⟨t, waitedMs, hw⟩, rfl⟩
  · rw [ho] at hp
    cases hp

/-- The search for a candidate comes last. -/
theorem Ordered.pending_findCandidate {pending : List Block} (ho : p.Ordered)
    (hp : p.pending = .findCandidate :: pending) :
    (∃ t waitedMs, p.worker = .finding t waitedMs) ∧ pending = [] := by
  unfold Ordered at ho
  split at ho
  · rcases ho with hnil | ⟨-, b, hb⟩
    · rw [hnil] at hp
      cases hp
    · rw [hb] at hp
      cases hp
  · next t waitedMs hw =>
    rcases ho with hfind | ⟨b, hb⟩
    · rw [hfind] at hp
      cases hp
      exact ⟨⟨t, waitedMs, hw⟩, rfl⟩
    · rw [hb] at hp
      cases hp
  · rw [ho] at hp
    cases hp

theorem Ordered.moves (ho : p.Ordered) (h : Moves block e p p') : p'.Ordered := by
  cases h with
  | discovery | modeSwitch | appResume => exact ho
  | reconnect _ hw => simpa [Ordered, hw] using ho
  | reconnectEnd _ hw => simpa [Ordered, hw] using ho
  | connect _ hw => rcases hw with hw | hw <;> simpa [Ordered, hw] using ho
  | noWrapper _ hw => rcases hw with hw | hw <;> simpa [Ordered, hw] using ho
  | success _ hw => simpa [Ordered, hw] using ho
  | failure _ hw =>
    have hnil : p.pending = [] := by simpa [Ordered, hw] using ho
    exact Or.inr ⟨rfl, _, by rw [hnil]; rfl⟩
  | wake _ hw _ =>
    simp only [Ordered, hw] at ho
    rcases ho with hnil | ⟨-, a, ha⟩
    · exact Or.inl (by rw [hnil]; rfl)
    · exact Or.inr ⟨a, by rw [ha]; rfl⟩
  | timeout _ hw hms =>
    simp only [Ordered, hw] at ho
    rcases ho with hnil | ⟨rfl, -⟩
    · exact hnil
    · exact absurd hms (by decide)
  | ask _ hw => simpa [Ordered, hw] using ho
  | goOn _ hw => simpa [Ordered, hw] using ho
  | giveUp _ hw => simpa [Ordered, hw] using ho
  | recorded _ _ hp =>
    rcases ho.pending_authFailed hp with ⟨⟨t, hw⟩, rfl⟩ | ⟨⟨t, waitedMs, hw⟩, rfl⟩ <;>
      simp [Ordered, hw]
  | missed _ hp hw =>
    obtain ⟨⟨t, waitedMs, hat⟩, -⟩ := ho.pending_findCandidate hp
    exact absurd hat (hw t waitedMs)
  | candidate _ hp _ _ _ =>
    obtain ⟨-, rfl⟩ := ho.pending_findCandidate hp
    rfl
  | noCandidate _ hp _ =>
    obtain ⟨-, rfl⟩ := ho.pending_findCandidate hp
    rfl
  | abort _ hw => simpa [Ordered, hw] using ho
  | keepOn _ hw => simpa [Ordered, hw] using ho
  | wait _ hw => exact Or.inl (by simpa [Ordered, hw] using ho)

theorem Ordered.unrecorded_cases (ho : p.Ordered) :
    p.unrecorded = [] ∨ ∃ a, p.unrecorded = [a] := by
  unfold Ordered at ho
  split at ho
  · next hw =>
    rcases ho with hnil | ⟨-, a, ha⟩
    · exact Or.inl (by simp [unrecorded, hw, hnil])
    · exact Or.inr ⟨a, by simp [unrecorded, hw, ha, Block.failed]⟩
  · next hw =>
    rcases ho with hfind | ⟨a, ha⟩
    · exact Or.inl (by simp [unrecorded, hw, hfind, Block.failed])
    · exact Or.inr ⟨a, by simp [unrecorded, hw, ha, Block.failed]⟩
  · unfold unrecorded
    split
    · exact Or.inr ⟨_, rfl⟩
    · exact Or.inl (by simp [ho])

/-- What a step can do to the search. -/
inductive Progress (block : Option Block) (e : Event ν) (p p' : Pursuit) : Prop where
  | quiet (ha : e.attempted p'.worker = []) (hu : p'.unrecorded = p.unrecorded)
      (hs : p'.authFailedIPs = p.authFailedIPs)
      (hc : ∀ t, p'.worker.chosen = some t → p.worker.chosen = some t)
  | record {a : String} (he : e = .runBlock) (hb : block = some (.authFailed a))
      (ha : e.attempted p'.worker = []) (hp : p.unrecorded = [a])
      (hp' : p'.unrecorded = [])
      (hs : p'.authFailedIPs = remember maxAuthFailedIPs p.authFailedIPs a)
      (hc : p'.worker.chosen = none)
  | choose {t : DiscoveredESP32} (ha : e.attempted p'.worker = []) (hp : p.unrecorded = [])
      (hp' : p'.unrecorded = []) (hs : p'.authFailedIPs = p.authFailedIPs)
      (hc : p'.worker.chosen = some t) (ht : t ∈ p.discoveredESP32s)
      (hnew : t.address ∉ p.authFailedIPs)
  | connect {t : DiscoveredESP32} (ha : e.attempted p'.worker = [t.address])
      (hp : p.unrecorded = []) (hp' : p'.unrecorded = [t.address])
      (hs : p'.authFailedIPs = p.authFailedIPs) (hc : p.worker.chosen = some t)
      (hc' : p'.worker.chosen = none)

theorem attempted_of_ofQueue {worker : Worker} (he : e.ofQueue = false) :
    e.attempted worker = [] := by
  cases e <;> first | rfl | cases he

/-- During a hunt, with no success and no other event that empties the skip list. -/
theorem Moves.progress (h : Moves block e p p') (ho : p.Ordered) (hu : e.Undisturbed)
    (hw : p.worker ≠ .idle) : Progress block e p p' := by
  cases h with
  | discovery he => exact .quiet (attempted_of_ofQueue he) rfl rfl fun _ => id
  | modeSwitch he =>
    subst he
    exact hu.elim
  | appResume he =>
    subst he
    exact hu.elim
  | reconnect _ hidle => exact absurd hidle hw
  | reconnectEnd he hat =>
    subst he
    exact .quiet rfl (by simp [unrecorded, hat]) rfl nofun
  | connect he hat =>
    subst he
    have hnext := hat.resolve_left hw
    have hnil : p.pending = [] := by simpa [Ordered, hnext] using ho
    exact .connect rfl (by simp [unrecorded, hnext, hnil]) rfl rfl (by simp [hnext, Worker.chosen])
      rfl
  | noWrapper he hat =>
    subst he
    exact .quiet rfl (by simp [unrecorded, hat.resolve_left hw]) rfl nofun
  | success he _ =>
    subst he
    exact hu.elim
  | failure he hat =>
    subst he
    have hnil : p.pending = [] := by simpa [Ordered, hat] using ho
    exact .quiet rfl (by simp [unrecorded, hat, hnil, Block.failed]) rfl nofun
  | wake he hat _ =>
    subst he
    exact .quiet rfl (by simp [unrecorded, hat, Block.failed]) rfl nofun
  | timeout he hat _ =>
    subst he
    exact .quiet rfl (by simp [unrecorded, hat]) rfl nofun
  | @ask t waitedMs foundNewCandidate he hat =>
    subst he
    refine .quiet rfl (by simp [unrecorded, hat]) rfl fun t hc => ?_
    rw [hat]
    cases foundNewCandidate with
    | true => exact hc
    | false => cases hc
  | goOn he hat =>
    subst he
    exact .quiet rfl (by simp [unrecorded, hat]) rfl fun t hc => by rw [hat]; exact hc
  | giveUp he hat =>
    subst he
    exact .quiet rfl (by simp [unrecorded, hat]) rfl nofun
  | @recorded a pending he hb hp =>
    subst he
    rcases ho.pending_authFailed hp with ⟨⟨t, hat⟩, rfl⟩ | ⟨⟨t, waitedMs, hat⟩, rfl⟩ <;>
      exact .record rfl hb rfl (by simp [unrecorded, hat, hp, Block.failed])
        (by simp [unrecorded, hat, Block.failed]) rfl (by simp [hat, Worker.chosen])
  | missed he hp hat =>
    obtain ⟨⟨t, waitedMs, hat'⟩, -⟩ := ho.pending_findCandidate hp
    exact absurd hat' (hat t waitedMs)
  | @candidate t c waitedMs pending he hp hat hl hnew =>
    subst he
    have hrest : pending = [] := (ho.pending_findCandidate hp).2
    exact .choose rfl (by simp [unrecorded, hat, hp, hrest, Block.failed])
      (by simp [unrecorded, hrest]) rfl rfl hl hnew
  | @noCandidate t waitedMs pending he hp hat =>
    subst he
    have hrest : pending = [] := (ho.pending_findCandidate hp).2
    exact .quiet rfl (by simp [unrecorded, hat, hp, hrest, Block.failed]) rfl nofun
  | abort he hat =>
    subst he
    exact .quiet rfl (by simp [unrecorded, hat]) rfl nofun
  | keepOn he hat =>
    subst he
    exact .quiet rfl (by simp [unrecorded, hat]) rfl fun t hc => by rw [hat]; exact hc
  | wait he hat =>
    subst he
    exact .quiet rfl (by simp [unrecorded, hat]) rfl nofun

/-- The devices that the app lists are those that it discovers. -/
theorem Moves.listed (h : Moves block e p p') (hu : e.Undisturbed) :
    ∀ d ∈ p'.discoveredESP32s, d ∈ p.discoveredESP32s ∨ e = .discovered d := by
  cases h with
  | discovery _ hl => exact hl
  | modeSwitch he =>
    subst he
    exact hu.elim
  | appResume he =>
    subst he
    exact hu.elim
  | recorded => exact fun d hd => Or.inl (List.mem_of_mem_filter hd)
  | _ => exact fun d hd => Or.inl hd

/-- Each step of the queue brings the hunt closer to its next connection, or to its end. -/
theorem Moves.rank_le (h : Moves block e p p') (hw : p.worker ≠ .idle) :
    e.ofQueue.toNat + p'.worker.rank ≤
      p.worker.rank + 105 * (e.attempted p'.worker).length := by
  cases h with
  | discovery he => simp [he]
  | modeSwitch he | appResume he =>
    subst he
    simp [Event.ofQueue]
  | reconnect _ hidle => exact absurd hidle hw
  | connect he hat =>
    subst he
    simp [Event.ofQueue, Event.attempted, hat.resolve_left hw, Worker.rank]
  | noWrapper he hat =>
    subst he
    simp [Event.ofQueue, hat.resolve_left hw, Worker.rank]
  | reconnectEnd he hat | success he hat | giveUp he hat | goOn he hat =>
    subst he
    simp only [Event.ofQueue, hat, Worker.rank, Bool.toNat_true]
    omega
  | failure he hat =>
    subst he
    have hslices : slices 0 = 50 := rfl
    simp only [Event.ofQueue, hat, Worker.rank, Bool.toNat_true, hslices]
    omega
  | wake he hat hms =>
    subst he
    simp only [Event.ofQueue, hat, Worker.rank, slices, Bool.toNat_true]
    simp only [discoveryTimeoutMs, checkIntervalMs] at hms ⊢
    omega
  | timeout he hat _ =>
    subst he
    simp only [Event.ofQueue, hat, Worker.rank, Bool.toNat_true]
    omega
  | ask he hat =>
    subst he
    simp only [Event.ofQueue, hat, Worker.rank, Bool.toNat_true]
    omega
  | recorded he _ _ | missed he _ _ =>
    subst he
    simp [Event.ofQueue]
  | candidate he _ hat _ _ | noCandidate he _ hat =>
    subst he
    simp [Event.ofQueue, hat, Worker.rank]
  | abort he hat | keepOn he hat | wait he hat =>
    subst he
    simp only [Event.ofQueue, hat, Worker.rank, Bool.toNat_false]
    omega

end Pursuit

/-- A hunt while it is the operation of the queue: the app, the addresses that the hunt has
connected to, those that it can have heard of, and the steps that the queue has made for it. -/
structure Hunt (ν : Type) where
  vm : WifiViewModel ν
  attempts : List String
  heard : Finset String
  queueSteps : ℕ

namespace Hunt

variable {ν : Type}

def note (hunt : Hunt ν) (e : Event ν) (vm : WifiViewModel ν) : Hunt ν where
  vm
  attempts := hunt.attempts ++ e.attempted vm.worker
  heard := hunt.heard ∪ e.announced
  queueSteps := hunt.queueSteps + e.ofQueue.toNat

/-- The queue takes up the hunt that is its next operation. -/
def takeUp (vm : WifiViewModel ν) : Option (Hunt ν) :=
  match vm.worker, vm.operations with
  | .idle, .hunt esp32 :: _ => vm.connectStart.map fun vm' =>
    { vm
      attempts := []
      heard := insert esp32.address (vm.discoveredESP32s.map (·.address)).toFinset
      queueSteps := 0 : Hunt ν }.note .connectStart vm'
  | _, _ => none

/-- The hunt is over when the queue is idle. -/
def advance (hunt : Hunt ν) (e : Surroundings × Event ν) : Option (Hunt ν) :=
  if hunt.vm.worker = .idle then none else (hunt.vm.step e.1 e.2).map (hunt.note e.2)

def after (hunt : Hunt ν) (events : List (Surroundings × Event ν)) : Option (Hunt ν) :=
  events.foldlM advance hunt

theorem note_attempts (hunt : Hunt ν) {e : Event ν} {vm : WifiViewModel ν} {l : List String}
    (ha : e.attempted vm.worker = l) : (hunt.note e vm).attempts = hunt.attempts ++ l :=
  congrArg (hunt.attempts ++ ·) ha

variable {hunt hunt' : Hunt ν} {e : Surroundings × Event ν}
  {events u v : List (Surroundings × Event ν)} {s : Finset String}

theorem after_append : hunt.after (u ++ v) = (hunt.after u).bind (·.after v) :=
  List.foldlM_append

theorem after_concat : hunt.after (events ++ [e]) = (hunt.after events).bind (·.advance e) := by
  rw [after_append]
  congr 1
  funext hunt'
  simp [after]

theorem advance_eq_some (h : hunt.advance e = some hunt') : hunt.vm.worker ≠ .idle ∧
    ∃ vm, Pursuit.Moves hunt.vm.blocks.head? e.2 hunt.vm.pursuit vm.pursuit ∧
      hunt' = hunt.note e.2 vm := by
  unfold advance at h
  split at h
  · cases h
  · next hw =>
    obtain ⟨vm, hstep, rfl⟩ := Option.map_eq_some_iff.mp h
    exact ⟨hw, vm, moves_step hstep, rfl⟩

/-- The search of a hunt that found the skip list `s`. -/
structure Tracks (s : Finset String) (hunt : Hunt ν) : Prop where
  ordered : hunt.vm.pursuit.Ordered
  memory : ∃ recorded, hunt.attempts = recorded ++ hunt.vm.pursuit.unrecorded ∧
    hunt.vm.authFailedIPs = rememberAll maxAuthFailedIPs s recorded
  searches : Searches maxAuthFailedIPs s hunt.attempts
  chosen : ∀ t, hunt.vm.worker.chosen = some t →
    t.address ∉ rememberAll maxAuthFailedIPs s hunt.attempts

/-- What the hunt can connect to is among what it can have heard of. -/
structure Hears (hunt : Hunt ν) : Prop where
  attempts : ∀ a ∈ hunt.attempts, a ∈ hunt.heard
  listed : ∀ d ∈ hunt.vm.discoveredESP32s, d.address ∈ hunt.heard
  chosen : ∀ t, hunt.vm.worker.chosen = some t → t.address ∈ hunt.heard

section Steps

theorem Tracks.advance (ht : hunt.Tracks s) (hu : e.2.Undisturbed)
    (h : hunt.advance e = some hunt') : hunt'.Tracks s := by
  obtain ⟨hw, vm, hm, rfl⟩ := advance_eq_some h
  have ho := ht.ordered.moves hm
  obtain ⟨recorded, hrecorded, hmemory⟩ := ht.memory
  have hdone : hunt.vm.pursuit.unrecorded = [] →
      hunt.vm.authFailedIPs = rememberAll maxAuthFailedIPs s hunt.attempts := by
    intro hnil
    rw [hrecorded, hnil, List.append_nil]
    exact hmemory
  cases hm.progress ht.ordered hu hw with
  | quiet ha hsame hs hc =>
    have hattempts := (hunt.note_attempts ha).trans (List.append_nil _)
    refine ⟨ho, ⟨recorded, ?_, hs.trans hmemory⟩, ?_, fun t ht' => ?_⟩
    · rw [hattempts, hrecorded]
      exact congrArg (recorded ++ ·) hsame.symm
    · rw [hattempts]
      exact ht.searches
    · rw [hattempts]
      exact ht.chosen t (hc t ht')
  | @record a _ _ ha hp hp' hs hc =>
    have hattempts := (hunt.note_attempts ha).trans (List.append_nil _)
    refine ⟨ho, ⟨hunt.attempts, ?_, ?_⟩, ?_, fun t ht' => ?_⟩
    · rw [hattempts]
      exact (List.append_nil _).symm.trans (congrArg (hunt.attempts ++ ·) hp'.symm)
    · rw [hrecorded, hp, rememberAll_concat, ← hmemory]
      exact hs
    · rw [hattempts]
      exact ht.searches
    · exact absurd (hc.symm.trans ht') nofun
  | @choose c ha hp hp' hs hc hl hnew =>
    have hattempts := (hunt.note_attempts ha).trans (List.append_nil _)
    refine ⟨ho, ⟨hunt.attempts, ?_, hs.trans (hdone hp)⟩, ?_, fun t ht' => ?_⟩
    · rw [hattempts]
      exact (List.append_nil _).symm.trans (congrArg (hunt.attempts ++ ·) hp'.symm)
    · rw [hattempts]
      exact ht.searches
    · obtain rfl := Option.some.inj (hc.symm.trans ht')
      rw [hattempts, ← hdone hp]
      exact hnew
  | @connect t ha hp hp' hs hc hc' =>
    have hattempts := hunt.note_attempts ha
    refine ⟨ho, ⟨hunt.attempts, ?_, hs.trans (hdone hp)⟩, ?_, fun t' ht' => ?_⟩
    · rw [hattempts]
      exact congrArg (hunt.attempts ++ ·) hp'.symm
    · rw [hattempts, searches_concat]
      exact ⟨ht.searches, Or.inr (ht.chosen t hc)⟩
    · exact absurd (hc'.symm.trans ht') nofun

theorem Hears.advance (hh : hunt.Hears) (ht : hunt.Tracks s) (hu : e.2.Undisturbed)
    (h : hunt.advance e = some hunt') : hunt'.Hears := by
  obtain ⟨hw, vm, hm, rfl⟩ := advance_eq_some h
  have hold : ∀ a ∈ hunt.heard, a ∈ (hunt.note e.2 vm).heard :=
    fun a ha => Finset.mem_union_left _ ha
  have hlisted : ∀ d ∈ vm.discoveredESP32s, d.address ∈ (hunt.note e.2 vm).heard := by
    rintro d hd
    rcases hm.listed hu d hd with hd | hd
    · exact hold _ (hh.listed d hd)
    · refine Finset.mem_union_right _ ?_
      rw [hd]
      exact Finset.mem_singleton_self d.address
  have hkept : e.2.attempted vm.worker = [] →
      ∀ a ∈ (hunt.note e.2 vm).attempts, a ∈ (hunt.note e.2 vm).heard := by
    rintro hnone a ha
    rw [hunt.note_attempts hnone, List.append_nil] at ha
    exact hold a (hh.attempts a ha)
  cases hm.progress ht.ordered hu hw with
  | quiet ha _ _ hc => exact ⟨hkept ha, hlisted, fun t ht' => hold _ (hh.chosen t (hc t ht'))⟩
  | record _ _ ha _ _ _ hc =>
    exact ⟨hkept ha, hlisted, fun t ht' => absurd (hc.symm.trans ht') nofun⟩
  | @choose c ha _ _ _ hc hl _ =>
    refine ⟨hkept ha, hlisted, fun t ht' => ?_⟩
    obtain rfl := Option.some.inj (hc.symm.trans ht')
    exact hold _ (hh.listed c hl)
  | @connect t ha _ _ _ hc hc' =>
    refine ⟨?_, hlisted, fun t' ht' => absurd (hc'.symm.trans ht') nofun⟩
    rw [hunt.note_attempts ha]
    rintro a hmem
    rcases List.mem_append.mp hmem with hmem | hmem
    · exact hold a (hh.attempts a hmem)
    · obtain rfl := List.mem_singleton.mp hmem
      exact hold _ (hh.chosen t hc)

/-- The steps that the queue has made, and may make before the hunt connects again. -/
def Paced (hunt : Hunt ν) : Prop :=
  hunt.queueSteps + hunt.vm.worker.rank ≤ 105 * hunt.attempts.length + 2

theorem Paced.advance (hp : hunt.Paced) (h : hunt.advance e = some hunt') : hunt'.Paced := by
  obtain ⟨hw, vm, hm, rfl⟩ := advance_eq_some h
  have hrank : e.2.ofQueue.toNat + vm.worker.rank ≤
      hunt.vm.worker.rank + 105 * (e.2.attempted vm.worker).length := hm.rank_le hw
  unfold Paced at hp ⊢
  simp only [note, List.length_append]
  omega

end Steps

section Start

variable {vm : WifiViewModel ν}

/-- A hunt begins with its device, unless there is no wrapper. -/
theorem takeUp_eq_some (h : takeUp vm = some hunt) : ∃ esp32 worker,
    vm.worker = .idle ∧ (worker = .connecting esp32 ∨ worker = .givingUp) ∧
    hunt.vm.pursuit = { vm.pursuit with worker } ∧
    hunt.attempts = Event.attempted worker (.connectStart : Event ν) ∧
    hunt.heard = insert esp32.address (vm.discoveredESP32s.map (·.address)).toFinset ∧
    hunt.queueSteps = 1 := by
  unfold takeUp at h
  split at h
  · next esp32 operations hw hops =>
    obtain ⟨vm', hstart, rfl⟩ := Option.map_eq_some_iff.mp h
    have hbegin : vm' = { vm with operations }.beginHunt esp32 := by
      unfold connectStart at hstart
      simp only [hw, hops] at hstart
      exact (Option.some.inj hstart).symm
    obtain ⟨worker, hworker, hpursuit⟩ : ∃ worker,
        (worker = .connecting esp32 ∨ worker = .givingUp) ∧
        vm'.pursuit = { vm.pursuit with worker } := by
      rw [hbegin]
      unfold beginHunt
      split
      · exact ⟨.givingUp, Or.inr rfl, rfl⟩
      · refine ⟨.connecting esp32, Or.inl rfl, ?_⟩
        rw [pursuit_worked]
        · rfl
        · simp [Block.searches]
    have hsame : vm'.worker = worker := congrArg Pursuit.worker hpursuit
    refine ⟨esp32, worker, hw, hworker, hpursuit, ?_, ?_, rfl⟩
    · rw [← hsame]
      rfl
    · exact Finset.union_empty _
  · cases h

theorem tracks_takeUp (ho : vm.pursuit.Ordered) (h : takeUp vm = some hunt) :
    hunt.Tracks vm.authFailedIPs := by
  obtain ⟨esp32, worker, hw, hworker, hpursuit, hattempts, -, -⟩ := takeUp_eq_some h
  have hidle : vm.pursuit.worker = .idle := hw
  have hnil : vm.pursuit.pending = [] := by simpa [Pursuit.Ordered, hidle] using ho
  have hsame : hunt.vm.worker = worker := congrArg Pursuit.worker hpursuit
  have hskip : hunt.vm.authFailedIPs = vm.authFailedIPs :=
    congrArg Pursuit.authFailedIPs hpursuit
  rcases hworker with rfl | rfl
  · refine ⟨?_, ⟨[], ?_, hskip⟩, ?_, ?_⟩
    · rw [hpursuit]
      exact hnil
    · rw [hattempts, hpursuit]
      rfl
    · rw [hattempts]
      exact searches_concat.mpr ⟨everySplit_nil _, Or.inl rfl⟩
    · rw [hsame]
      exact nofun
  · refine ⟨?_, ⟨[], ?_, hskip⟩, ?_, ?_⟩
    · rw [hpursuit]
      exact hnil
    · rw [hattempts, hpursuit]
      simp [Event.attempted, Pursuit.unrecorded, hnil]
    · rw [hattempts]
      exact everySplit_nil _
    · rw [hsame]
      exact nofun

theorem hears_takeUp (h : takeUp vm = some hunt) : hunt.Hears := by
  obtain ⟨esp32, worker, -, hworker, hpursuit, hattempts, hheard, -⟩ := takeUp_eq_some h
  have hsame : hunt.vm.worker = worker := congrArg Pursuit.worker hpursuit
  have hlist : hunt.vm.discoveredESP32s = vm.discoveredESP32s :=
    congrArg Pursuit.discoveredESP32s hpursuit
  refine ⟨?_, ?_, ?_⟩
  · rw [hattempts, hheard]
    rcases hworker with rfl | rfl
    · rintro a ha
      obtain rfl := List.mem_singleton.mp ha
      exact Finset.mem_insert_self esp32.address _
    · exact List.forall_mem_nil _
  · rw [hlist, hheard]
    rintro d hd
    exact Finset.mem_insert_of_mem (List.mem_toFinset.mpr (List.mem_map_of_mem hd))
  · rw [hsame]
    rcases hworker with rfl | rfl <;> exact nofun

theorem paced_takeUp (h : takeUp vm = some hunt) : hunt.Paced := by
  obtain ⟨esp32, worker, -, hworker, hpursuit, hattempts, -, hsteps⟩ := takeUp_eq_some h
  have hsame : hunt.vm.worker = worker := congrArg Pursuit.worker hpursuit
  unfold Paced
  rw [hsteps, hsame, hattempts]
  rcases hworker with rfl | rfl <;> simp [Worker.rank, Event.attempted]

end Start

section Runs

/-- The failure that a step records is the first of the hunt, or finds room in the skip list. -/
def Spared (hunt : Hunt ν) (e : Event ν) : Prop :=
  e = .runBlock → ∀ a, hunt.vm.blocks.head? = some (.authFailed a) →
    hunt.attempts.length ≤ 1 ∨ hunt.vm.authFailedIPs.card < maxAuthFailedIPs

/-- A property of each step of a hunt: of the hunt and the event. -/
def OnSteps (P : Hunt ν → Event ν → Prop) (hunt : Hunt ν)
    (events : List (Surroundings × Event ν)) : Prop :=
  EverySplit (fun u e => ∀ hunt', hunt.after u = some hunt' → P hunt' e.2) events

theorem tracks_after (ht : hunt.Tracks s) (hh : hunt.Hears) (hp : hunt.Paced)
    (hu : ∀ e ∈ events, e.2.Undisturbed) (h : hunt.after events = some hunt') :
    hunt'.Tracks s ∧ hunt'.Hears ∧ hunt'.Paced := by
  induction events using List.reverseRecOn generalizing hunt' with
  | nil =>
    obtain rfl := Option.some.inj h
    exact ⟨ht, hh, hp⟩
  | append_singleton events e ih =>
    rw [after_concat] at h
    obtain ⟨before, hbefore, hstep⟩ := Option.bind_eq_some_iff.mp h
    obtain ⟨ht, hh, hp⟩ := ih (fun e he => hu e (List.mem_append_left _ he)) hbefore
    have he := hu e (by simp)
    exact ⟨ht.advance he hstep, hh.advance ht he hstep, hp.advance hstep⟩

/-- Of what was recorded, nothing was forgotten. -/
def SparesRecorded (s : Finset String) (hunt : Hunt ν) : Prop :=
  ∀ recorded, hunt.attempts = recorded ++ hunt.vm.pursuit.unrecorded →
    Spares maxAuthFailedIPs s recorded

theorem SparesRecorded.advance (hr : hunt.SparesRecorded s) (ht : hunt.Tracks s)
    (hu : e.2.Undisturbed) (hs : hunt.Spared e.2) (h : hunt.advance e = some hunt') :
    hunt'.SparesRecorded s := by
  obtain ⟨hw, vm, hm, rfl⟩ := advance_eq_some h
  rintro recorded hrecorded
  cases hm.progress ht.ordered hu hw with
  | quiet ha hsame =>
    rw [hunt.note_attempts ha, List.append_nil] at hrecorded
    exact hr recorded (hrecorded.trans (congrArg (recorded ++ ·) hsame))
  | @record a he hb ha hp hp' =>
    have hnone : (hunt.note e.2 vm).vm.pursuit.unrecorded = [] := hp'
    rw [hunt.note_attempts ha, hnone, List.append_nil, List.append_nil] at hrecorded
    obtain ⟨before, hbefore, hmemory⟩ := ht.memory
    rw [← hrecorded, hbefore, hp, spares_concat]
    refine ⟨hr before hbefore, ?_⟩
    rcases hs he a hb with hfirst | hroom
    · rw [hbefore, hp, List.length_append, List.length_singleton] at hfirst
      exact Or.inl (List.eq_nil_of_length_eq_zero (by omega))
    · rw [hmemory] at hroom
      exact Or.inr hroom
  | choose ha hp hp' =>
    have hnone : (hunt.note e.2 vm).vm.pursuit.unrecorded = [] := hp'
    rw [hunt.note_attempts ha, hnone, List.append_nil, List.append_nil] at hrecorded
    refine hr recorded ?_
    rw [hp, List.append_nil, hrecorded]
  | @connect t ha hp hp' =>
    have hone : (hunt.note e.2 vm).vm.pursuit.unrecorded = [t.address] := hp'
    rw [hunt.note_attempts ha, hone] at hrecorded
    refine hr recorded ?_
    rw [hp, List.append_nil]
    exact List.append_cancel_right hrecorded

theorem sparesRecorded_after (ht : hunt.Tracks s) (hh : hunt.Hears) (hp : hunt.Paced)
    (hr : hunt.SparesRecorded s) (hu : ∀ e ∈ events, e.2.Undisturbed)
    (hs : hunt.OnSteps Spared events) (h : hunt.after events = some hunt') :
    hunt'.SparesRecorded s := by
  induction events using List.reverseRecOn generalizing hunt' with
  | nil =>
    obtain rfl := Option.some.inj h
    exact hr
  | append_singleton events e ih =>
    obtain ⟨hevents, he⟩ := everySplit_concat.mp hs
    rw [after_concat] at h
    obtain ⟨before, hbefore, hstep⟩ := Option.bind_eq_some_iff.mp h
    have hu' : ∀ e ∈ events, e.2.Undisturbed := fun e he => hu e (List.mem_append_left _ he)
    exact (ih hu' hevents hbefore).advance (tracks_after ht hh hp hu' hbefore).1
      (hu e (by simp)) (he before hbefore) hstep

theorem Tracks.nodup (ht : hunt.Tracks s) (hr : hunt.SparesRecorded s) :
    hunt.attempts.Nodup := by
  obtain ⟨recorded, hrecorded, -⟩ := ht.memory
  have hspares := hr recorded hrecorded
  have hsearches := ht.searches
  rw [hrecorded] at hsearches ⊢
  rcases ht.ordered.unrecorded_cases with hnone | ⟨a, ha⟩
  · rw [hnone, List.append_nil] at hsearches ⊢
    exact hspares.nodup hsearches
  · rw [ha] at hsearches ⊢
    exact hspares.nodup_concat (hspares.nodup (searches_concat.mp hsearches).1) hsearches

/-- A hunt that tries no address twice ends after as many attempts as there are addresses. -/
theorem bounds_of_nodup (hn : hunt.attempts.Nodup) (hh : hunt.Hears) (hp : hunt.Paced) :
    hunt.attempts.length ≤ hunt.heard.card ∧ hunt.queueSteps ≤ 105 * hunt.heard.card + 2 := by
  have hle : hunt.attempts.length ≤ hunt.heard.card := by
    rw [← List.toFinset_card_of_nodup hn]
    exact Finset.card_le_card fun a ha => hh.attempts a (List.mem_toFinset.mp ha)
  refine ⟨hle, ?_⟩
  unfold Paced at hp
  omega

theorem sparesRecorded_takeUp {vm : WifiViewModel ν} (h : takeUp vm = some hunt) :
    hunt.SparesRecorded s := by
  obtain ⟨esp32, worker, -, hworker, hpursuit, hattempts, -, -⟩ := takeUp_eq_some h
  rintro recorded hrecorded
  rw [hattempts, hpursuit] at hrecorded
  have hnil : recorded = [] := by
    rcases hworker with rfl | rfl
    · exact (List.append_cancel_right (hrecorded : [] ++ [esp32.address] = recorded ++ _)).symm
    · exact (List.append_eq_nil_iff.mp hrecorded.symm).1
  rw [hnil]
  exact everySplit_nil _

end Runs

end Hunt

namespace Launch

variable {ν : Type} (launch : Launch ν)

theorem ordered_reached {events : List (Surroundings × Event ν)} {vm : WifiViewModel ν}
    (hvm : launch.reached events = some vm) : vm.pursuit.Ordered := by
  induction events using List.reverseRecOn generalizing vm with
  | nil =>
    obtain rfl := Option.some.inj hvm
    rfl
  | append_singleton events e ih =>
    rw [reached_concat] at hvm
    obtain ⟨before, hbefore, hstep⟩ := Option.bind_eq_some_iff.mp hvm
    exact (ih hbefore).moves (moves_step hstep)

variable {before events : List (Surroundings × Event ν)} {vm : WifiViewModel ν}
  {hunt hunt' : Hunt ν}

/-- Whatever a hunt of failing attempts hears of, it is a search with the skip list as memory. -/
theorem attempts_search (hvm : launch.reached before = some vm)
    (hstart : Hunt.takeUp vm = some hunt) (hrun : hunt.after events = some hunt')
    (hu : ∀ e ∈ events, e.2.Undisturbed) :
    Searches maxAuthFailedIPs vm.authFailedIPs hunt'.attempts :=
  (Hunt.tracks_after (Hunt.tracks_takeUp (launch.ordered_reached hvm) hstart)
    (Hunt.hears_takeUp hstart) (Hunt.paced_takeUp hstart) hu hrun).1.searches

/-- A hunt of failing attempts tries no address twice, and ends, as long as the skip list is not
emptied for its size after its first failure. -/
theorem tries_once (hvm : launch.reached before = some vm)
    (hstart : Hunt.takeUp vm = some hunt) (hrun : hunt.after events = some hunt')
    (hu : ∀ e ∈ events, e.2.Undisturbed) (hs : hunt.OnSteps Hunt.Spared events) :
    hunt'.attempts.Nodup ∧ hunt'.attempts.length ≤ hunt'.heard.card ∧
      hunt'.queueSteps ≤ 105 * hunt'.heard.card + 2 := by
  have ht := Hunt.tracks_takeUp (launch.ordered_reached hvm) hstart
  have hh := Hunt.hears_takeUp hstart
  have hp := Hunt.paced_takeUp hstart
  obtain ⟨ht', hh', hp'⟩ := Hunt.tracks_after ht hh hp hu hrun
  have hr := Hunt.sparesRecorded_after ht hh hp (Hunt.sparesRecorded_takeUp hstart) hu hs hrun
  have hn := ht'.nodup hr
  exact ⟨hn, Hunt.bounds_of_nodup hn hh' hp'⟩

/-- There is room for the addresses that the hunt hears of and those it finds in the list. -/
theorem tries_once_of_few (hvm : launch.reached before = some vm)
    (hstart : Hunt.takeUp vm = some hunt) (hrun : hunt.after events = some hunt')
    (hu : ∀ e ∈ events, e.2.Undisturbed)
    (hfew : (retained maxAuthFailedIPs vm.authFailedIPs ∪ hunt'.heard).card ≤ maxAuthFailedIPs) :
    hunt'.attempts.Nodup ∧ hunt'.attempts.length ≤ hunt'.heard.card ∧
      hunt'.queueSteps ≤ 105 * hunt'.heard.card + 2 := by
  obtain ⟨ht, hh, hp⟩ := Hunt.tracks_after
    (Hunt.tracks_takeUp (launch.ordered_reached hvm) hstart) (Hunt.hears_takeUp hstart)
    (Hunt.paced_takeUp hstart) hu hrun
  have hn := (searches_nodup_iff (by decide)).mpr hfew hunt'.attempts hh.attempts ht.searches
  exact ⟨hn, Hunt.bounds_of_nodup hn hh hp⟩

end Launch

section Realisation

variable {ν : Type} {hunt : Hunt ν} {t b : DiscoveredESP32}

/-- A hunt in WiFi mode, at a point of its work. -/
structure Hunt.Ready (hunt : Hunt ν) (worker : Worker) (blocks : List Block) : Prop where
  worker : hunt.vm.worker = worker
  blocks : hunt.vm.blocks = blocks
  mode : hunt.vm.connectionMode = .wifi
  state : hunt.vm.connectionState = .connecting
  wrapper : hunt.vm.wrapper ≠ none

/-- A new start of discovery empties the list of devices, and leaves alone what a hunt needs. -/
theorem WifiViewModel.frame_startESP32Discovery (vm : WifiViewModel ν) (env : Surroundings) :
    (vm.startESP32Discovery env).worker = vm.worker ∧
    (vm.startESP32Discovery env).blocks = vm.blocks ∧
    (vm.startESP32Discovery env).connectionMode = vm.connectionMode ∧
    (vm.startESP32Discovery env).connectionState = vm.connectionState ∧
    (vm.startESP32Discovery env).wrapper = vm.wrapper ∧
    (vm.startESP32Discovery env).discoveredESP32s = [] ∧
    (vm.startESP32Discovery env).authFailedIPs = vm.authFailedIPs := by
  unfold startESP32Discovery scheduleDiscoveryRetry
  dsimp only
  split_ifs <;> exact ⟨rfl, rfl, rfl, rfl, rfl, rfl, rfl⟩

theorem Hunt.Ready.fails (h : hunt.Ready (.connecting t) [.modeCheck]) :
    ∃ hunt', hunt.after [(clock 0, .runBlock), (clock 0, .connectEnd false),
        (clock 0, .runBlock), (clock 0, .runBlock)] = some hunt' ∧
      hunt'.Ready (.waiting t 0) [] ∧ hunt'.vm.discoveredESP32s = [] ∧
      hunt'.vm.authFailedIPs = remember maxAuthFailedIPs hunt.vm.authFailedIPs t.address ∧
      hunt'.attempts = hunt.attempts ∧ hunt'.heard = hunt.heard := by
  obtain ⟨hw, hb, hm, hs, hwrapper⟩ := h
  simp only [Hunt.after, List.foldlM_cons, List.foldlM_nil]
  simp [Hunt.advance, Hunt.note, step, runBlock, onBlock, connectEnd, post, onAuthFailed,
    onResumeHunt, hw, hb, hm, hs, Event.attempted, Event.announced]
  refine ⟨⟨?_, ?_, ?_, ?_, ?_⟩, ?_, ?_⟩
  · exact (frame_startESP32Discovery _ _).1
  · exact (frame_startESP32Discovery _ _).2.1
  · exact (frame_startESP32Discovery _ _).2.2.1
  · exact (frame_startESP32Discovery _ _).2.2.2.1
  · exact (frame_startESP32Discovery _ _).2.2.2.2.1.trans_ne hwrapper
  · exact (frame_startESP32Discovery _ _).2.2.2.2.2.1
  · exact (frame_startESP32Discovery _ _).2.2.2.2.2.2

theorem Hunt.Ready.finds (h : hunt.Ready (.waiting t 0) [])
    (hl : hunt.vm.discoveredESP32s = []) (hnew : b.address ∉ hunt.vm.authFailedIPs) :
    ∃ hunt', hunt.after [(clock 0, .discovered b), (clock 0, .proceed),
        (clock 0, .runBlock)] = some hunt' ∧ hunt'.Ready (.located b 100 true) [] ∧
      hunt'.vm.authFailedIPs = hunt.vm.authFailedIPs ∧
      hunt'.attempts = hunt.attempts ∧ hunt'.heard = insert b.address hunt.heard := by
  obtain ⟨hw, hb, hm, hs, hwrapper⟩ := h
  simp only [Hunt.after, List.foldlM_cons, List.foldlM_nil]
  simp [Hunt.advance, Hunt.note, step, runBlock, onBlock, onDiscovered, onFindCandidate, proceed,
    post, hw, hb, hm, hs, hl, hnew, Event.attempted, Event.announced, discoveryTimeoutMs,
    checkIntervalMs]
  exact ⟨rfl, rfl, hm, hs, hwrapper⟩

theorem Hunt.Ready.connects (h : hunt.Ready (.located b 100 true) []) :
    ∃ hunt', hunt.after [(clock 0, .proceed), (clock 0, .runBlock), (clock 0, .proceed),
        (clock 0, .runBlock), (clock 0, .connectStart)] = some hunt' ∧
      hunt'.Ready (.connecting b) [.modeCheck] ∧
      hunt'.vm.authFailedIPs = hunt.vm.authFailedIPs ∧
      hunt'.attempts = hunt.attempts ++ [b.address] ∧ hunt'.heard = hunt.heard := by
  obtain ⟨hw, hb, hm, hs, hwrapper⟩ := h
  obtain ⟨wrapper, hwrapper⟩ := Option.ne_none_iff_exists'.mp hwrapper
  simp only [Hunt.after, List.foldlM_cons, List.foldlM_nil]
  simp [Hunt.advance, Hunt.note, step, runBlock, onBlock, onCheckAbort, proceed, post, hw, hb, hm,
    hs, connectStart, beginHunt, stopESP32Discovery, hwrapper, Event.attempted, Event.announced]
  exact ⟨⟨rfl, rfl, rfl, rfl, Option.some_ne_none _⟩, rfl⟩

/-- A device at an address. -/
def bridgeAt (address : String) : DiscoveredESP32 := { bridge with address }

/-- One attempt fails, and a device is discovered that the hunt connects to next. -/
def round (address : String) : List (Surroundings × Event ν) :=
  [(clock 0, .runBlock), (clock 0, .connectEnd false), (clock 0, .runBlock),
    (clock 0, .runBlock)] ++
  [(clock 0, .discovered (bridgeAt address)), (clock 0, .proceed), (clock 0, .runBlock)] ++
  [(clock 0, .proceed), (clock 0, .runBlock), (clock 0, .proceed), (clock 0, .runBlock),
    (clock 0, .connectStart)]

theorem undisturbed_round (address : String) :
    ∀ e ∈ @round ν address, e.2.Undisturbed := by
  simp [round, Event.Undisturbed]

theorem Hunt.Ready.round {a : String} (h : hunt.Ready (.connecting t) [.modeCheck])
    (hnew : a ∉ remember maxAuthFailedIPs hunt.vm.authFailedIPs t.address) :
    ∃ hunt', hunt.after (round a) = some hunt' ∧
      hunt'.Ready (.connecting (bridgeAt a)) [.modeCheck] ∧
      hunt'.vm.authFailedIPs = remember maxAuthFailedIPs hunt.vm.authFailedIPs t.address ∧
      hunt'.attempts = hunt.attempts ++ [a] ∧ hunt'.heard = insert a hunt.heard := by
  obtain ⟨failed, hfails, hready, hl, hskip, hattempts, hheard⟩ := h.fails
  rw [← hskip] at hnew
  obtain ⟨found, hfinds, hready, hskip', hattempts', hheard'⟩ :=
    hready.finds (b := bridgeAt a) hl hnew
  obtain ⟨next, hconnects, hready, hskip'', hattempts'', hheard''⟩ := hready.connects
  refine ⟨next, ?_, hready, ?_, ?_, ?_⟩
  · rw [Ios.round, Hunt.after_append, Hunt.after_append, hfails, Option.bind_some, hfinds,
      Option.bind_some, hconnects]
  · rw [hskip'', hskip', hskip]
  · rw [hattempts'', hattempts', hattempts]
    rfl
  · rw [hheard'', hheard', hheard]
    rfl

/-- Any search with the skip list as memory is one that a hunt can make. -/
theorem Hunt.Ready.realises {l : List String} (h : hunt.Ready (.connecting t) [.modeCheck])
    (hl : EverySplit (fun u a => a ∉ rememberAll maxAuthFailedIPs hunt.vm.authFailedIPs
      (t.address :: u)) l) :
    ∃ events hunt', (∀ e ∈ events, e.2.Undisturbed) ∧ hunt.after events = some hunt' ∧
      hunt'.attempts = hunt.attempts ++ l ∧ hunt'.heard = hunt.heard ∪ l.toFinset := by
  induction l generalizing hunt t with
  | nil => exact ⟨[], hunt, List.forall_mem_nil _, rfl, (List.append_nil _).symm, by simp⟩
  | cons a l ih =>
    obtain ⟨ha, hl⟩ := everySplit_cons.mp hl
    obtain ⟨next, hround, hready, hskip, hattempts, hheard⟩ := h.round ha
    obtain ⟨events, last, hu, hrun, hattempts', hheard'⟩ := ih hready (by
      rw [hskip]
      exact hl)
    refine ⟨Ios.round a ++ events, last, ?_, ?_, ?_, ?_⟩
    · rintro e he
      exact (List.mem_append.mp he).elim (undisturbed_round a e) (hu e)
    · rw [Hunt.after_append, hround]
      exact hrun
    · rw [hattempts', hattempts, List.append_assoc]
      rfl
    · rw [hheard', hheard, List.toFinset_cons, Finset.union_insert, Finset.insert_union]

/-- The app enters WiFi mode, and a device is discovered. -/
def discovery (address : String) : List (Surroundings × Event ν) :=
  [(clock 0, .setConnectionMode .wifi), (clock 0, .discovered (bridgeAt address))]

/-- An app that remembers no device takes up a hunt for it. -/
theorem Launch.takesUp (launch : Launch ν) (hid : launch.lastConnectedDeviceId = none)
    (a : String) : ∃ vm hunt, launch.reached (discovery a) = some vm ∧
      Hunt.takeUp vm = some hunt ∧ vm.authFailedIPs = ∅ ∧
      hunt.Ready (.connecting (bridgeAt a)) [.modeCheck] ∧ hunt.vm.authFailedIPs = ∅ ∧
      hunt.attempts = [a] ∧ hunt.heard = {a} := by
  simp [Launch.reached, discovery, step, setConnectionMode, leaveMode, enterMode,
    startESP32Discovery, onDiscovered, autoConnect, initiateESP32Connection, Launch.viewModel,
    clock, Hunt.takeUp, Hunt.note, connectStart, beginHunt, post, hid, stopESP32Discovery,
    Event.attempted, Event.announced]
  exact ⟨⟨rfl, rfl, rfl, rfl, Option.some_ne_none _⟩, rfl, rfl⟩

/-- Any search that begins with an empty skip list is one that such an app can make. -/
theorem Launch.realises (launch : Launch ν) (hid : launch.lastConnectedDeviceId = none)
    {l : List String} (hl : Searches maxAuthFailedIPs ∅ l) (hne : l ≠ []) :
    ∃ before vm hunt events hunt', launch.reached before = some vm ∧ vm.authFailedIPs = ∅ ∧
      Hunt.takeUp vm = some hunt ∧ (∀ e ∈ events, e.2.Undisturbed) ∧
      hunt.after events = some hunt' ∧ hunt'.attempts = l ∧ hunt'.heard = l.toFinset := by
  obtain ⟨a, l, rfl⟩ := List.exists_cons_of_ne_nil hne
  obtain ⟨vm, hunt, hvm, hstart, hempty, hready, hskip, hattempts, hheard⟩ :=
    launch.takesUp hid a
  have hrest : EverySplit (fun u b => b ∉ rememberAll maxAuthFailedIPs hunt.vm.authFailedIPs
      ((bridgeAt a).address :: u)) l := by
    rw [hskip]
    rintro u b v hb
    exact ((everySplit_cons.mp hl).2 u b v hb).resolve_left nofun
  obtain ⟨events, last, hu, hrun, hattempts', hheard'⟩ := hready.realises hrest
  refine ⟨discovery a, vm, hunt, events, last, hvm, hempty, hstart, hu, hrun, ?_, ?_⟩
  · rw [hattempts', hattempts]
    rfl
  · rw [hheard', hheard, List.toFinset_cons]
    rfl

/-- A hunt that begins with an empty skip list tries no address twice, in whatever order devices
are discovered, just when there are at most as many addresses as the list can take. -/
theorem Launch.tries_once_iff (launch : Launch ν) (hid : launch.lastConnectedDeviceId = none)
    (H : Finset String) :
    (∀ before vm hunt events hunt', launch.reached before = some vm → vm.authFailedIPs = ∅ →
      Hunt.takeUp vm = some hunt → (∀ e ∈ events, e.2.Undisturbed) →
      hunt.after events = some hunt' → hunt'.heard ⊆ H → hunt'.attempts.Nodup) ↔
    H.card ≤ maxAuthFailedIPs := by
  constructor
  · intro h
    by_contra hc
    obtain ⟨l, hl, hs, hn⟩ := @exists_repeat String maxAuthFailedIPs ∅ H _ (by decide) (by
      rw [retained_of_lt (by decide), Finset.empty_union]
      exact Nat.lt_of_not_le hc)
    have hne : l ≠ [] := by
      rintro rfl
      exact hn List.nodup_nil
    obtain ⟨before, vm, hunt, events, hunt', hvm, hempty, hstart, hu, hrun, rfl, hheard⟩ :=
      launch.realises hid hs hne
    refine hn (h before vm hunt events hunt' hvm hempty hstart hu hrun ?_)
    rw [hheard]
    exact fun a ha => hl a (List.mem_toFinset.mp ha)
  · rintro hc before vm hunt events hunt' hvm hempty hstart hu hrun hheard
    refine (launch.tries_once_of_few hvm hstart hrun hu ?_).1
    rw [hempty, retained_of_lt (by decide), Finset.empty_union]
    exact (Finset.card_le_card hheard).trans hc

end Realisation

section Bench

def spoofed (i : ℕ) : String := "192.168.4." ++ toString (i + 1)

/-- As many addresses as the skip list can take and one more, and the first of them again. -/
def broadcasts : List String :=
  spoofed 0 :: (List.range 49).map (fun i => spoofed (i + 1)) ++ [spoofed 50] ++ [spoofed 0]

theorem searches_broadcasts : Searches maxAuthFailedIPs ∅ broadcasts := by
  refine searches_repeat ?_ (fun b _ => Finset.notMem_empty b) ?_
  · decide +kernel
  · rw [List.length_cons, List.length_map, List.length_range]
    rfl

/-- The hunt of a phone that has never connected comes back to the first of them. -/
theorem not_tries_once : ¬ ∀ (launch : Launch ℕ) (before : List (Surroundings × Event ℕ))
    (vm : WifiViewModel ℕ) (hunt : Hunt ℕ) (events : List (Surroundings × Event ℕ))
    (hunt' : Hunt ℕ), launch.reached before = some vm → Hunt.takeUp vm = some hunt →
    hunt.after events = some hunt' → (∀ e ∈ events, e.2.Undisturbed) →
    hunt'.attempts.Nodup ∧ hunt'.attempts.length ≤ hunt'.heard.card := by
  intro h
  obtain ⟨before, vm, hunt, events, hunt', hvm, -, hstart, hu, hrun, hattempts, -⟩ :=
    phone.realises rfl searches_broadcasts (List.cons_ne_nil _ _)
  have hn := (h phone before vm hunt events hunt' hvm hstart hrun hu).1
  rw [hattempts] at hn
  exact (List.nodup_append.mp hn).2.2 _ List.mem_cons_self _ (List.mem_singleton_self _) rfl

/-- One address is tried, and then another one. -/
theorem tries_once_two : ∃ (before events : List (Surroundings × Event ℕ))
    (vm : WifiViewModel ℕ) (hunt hunt' : Hunt ℕ), phone.reached before = some vm ∧
    Hunt.takeUp vm = some hunt ∧ hunt.after events = some hunt' ∧
    hunt'.attempts = [spoofed 0, spoofed 1] ∧
    hunt'.attempts.Nodup ∧ hunt'.attempts.length ≤ hunt'.heard.card ∧
      hunt'.queueSteps ≤ 105 * hunt'.heard.card + 2 := by
  obtain ⟨vm, hunt, hvm, hstart, -, hready, hskip, hattempts, -⟩ :=
    phone.takesUp rfl (spoofed 0)
  obtain ⟨hunt', hrun, -, -, hattempts', -⟩ := hready.round (a := spoofed 1) (by
    rw [hskip]
    decide +kernel)
  have hspared : hunt.OnSteps Hunt.Spared (round (spoofed 1)) := by
    have hfirst : ∀ u ∈ (round (spoofed 1)).dropLast.inits,
        (((phone.reached (discovery (spoofed 0))).bind Hunt.takeUp).bind (·.after u)).all
          (fun mid => mid.attempts.length ≤ 1) = true := by
      decide +kernel
    rintro u e v huv mid hmid - a -
    have hu : u ∈ (round (spoofed 1)).dropLast.inits := by
      rw [List.mem_inits, huv, List.dropLast_append_cons]
      exact List.prefix_append u _
    have hmid' := hfirst u hu
    rw [hvm, Option.bind_some, hstart, Option.bind_some, hmid] at hmid'
    exact Or.inl (of_decide_eq_true hmid')
  refine ⟨discovery (spoofed 0), round (spoofed 1), vm, hunt, hunt', hvm, hstart, hrun, ?_, ?_⟩
  · rw [hattempts', hattempts]
    rfl
  · exact phone.tries_once hvm hstart hrun (undisturbed_round (spoofed 1)) hspared

end Bench

end VehicleSpy.Ios
