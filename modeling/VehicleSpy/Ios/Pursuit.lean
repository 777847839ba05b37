import VehicleSpy.Ios.WantedWork
import VehicleSpy.Machine.BoundedMemory

/-! # What a step does to a hunt

The queue and the main thread share a hunt: the queue connects, waits and asks, the main thread
discovers devices, records failures and picks the next device. Of all that the app does, few
steps touch what a hunt goes by.
-/

namespace VehicleSpy.Ios

open Machine

/-- A block that records a failure, or looks for the next device. -/
def Block.searches : Block → Bool
  | .authFailed _ | .findCandidate => true
  | _ => false

/-- The events that are steps of the connection queue. -/
def Event.ofQueue {ν : Type} : Event ν → Bool
  | .connectStart | .connectEnd _ | .proceed => true
  | _ => false

/-- What a hunt goes by. -/
structure Pursuit where
  worker : Worker
  pending : List Block
  authFailedIPs : Finset String
  discoveredESP32s : List DiscoveredESP32

namespace Pursuit

/-- Only the list of devices changes, and it does not grow. -/
def Narrows (p p' : Pursuit) : Prop :=
  ∃ l ⊆ p.discoveredESP32s, p' = { p with discoveredESP32s := l }

/-- What an event can do to a hunt, with the block that the main thread takes next. -/
inductive Moves {ν : Type} (block : Option Block) (e : Event ν) : Pursuit → Pursuit → Prop where
  | discovery {p : Pursuit} {l : List DiscoveredESP32} (he : e.ofQueue = false)
      (hl : ∀ d ∈ l, d ∈ p.discoveredESP32s ∨ e = .discovered d) :
      Moves block e p { p with discoveredESP32s := l }
  | modeSwitch {p : Pursuit} {mode : ConnectionMode} {l : List DiscoveredESP32}
      (he : e = .setConnectionMode mode) :
      Moves block e p { p with authFailedIPs := ∅, discoveredESP32s := l }
  | appResume {p : Pursuit} {l : List DiscoveredESP32} (he : e = .resumeDiscovery) :
      Moves block e p { p with authFailedIPs := ∅, discoveredESP32s := l }
  | reconnect {p : Pursuit} {lastAddress : String} (he : e = .connectStart)
      (hw : p.worker = .idle) : Moves block e p { p with worker := .reconnecting lastAddress }
  | reconnectEnd {p : Pursuit} {lastAddress : String} {success : Bool}
      (he : e = .connectEnd success) (hw : p.worker = .reconnecting lastAddress) :
      Moves block e p { p with worker := .idle }
  | connect {p : Pursuit} {targetDevice : DiscoveredESP32} (he : e = .connectStart)
      (hw : p.worker = .idle ∨ p.worker = .next targetDevice) :
      Moves block e p { p with worker := .connecting targetDevice }
  | noWrapper {p : Pursuit} {targetDevice : DiscoveredESP32} (he : e = .connectStart)
      (hw : p.worker = .idle ∨ p.worker = .next targetDevice) :
      Moves block e p { p with worker := .givingUp }
  | success {p : Pursuit} {targetDevice : DiscoveredESP32} (he : e = .connectEnd true)
      (hw : p.worker = .connecting targetDevice) : Moves block e p { p with worker := .idle }
  | failure {p : Pursuit} {targetDevice : DiscoveredESP32} (he : e = .connectEnd false)
      (hw : p.worker = .connecting targetDevice) : Moves block e p { p with
        worker := .waiting targetDevice 0
        pending := p.pending ++ [.authFailed targetDevice.address] }
  | wake {p : Pursuit} {targetDevice : DiscoveredESP32} {waitedMs : ℕ} (he : e = .proceed)
      (hw : p.worker = .waiting targetDevice waitedMs)
      (hms : waitedMs < WifiViewModel.discoveryTimeoutMs) : Moves block e p { p with
        worker := .finding targetDevice (waitedMs + WifiViewModel.checkIntervalMs)
        pending := p.pending ++ [.findCandidate] }
  | timeout {p : Pursuit} {targetDevice : DiscoveredESP32} {waitedMs : ℕ} (he : e = .proceed)
      (hw : p.worker = .waiting targetDevice waitedMs)
      (hms : WifiViewModel.discoveryTimeoutMs ≤ waitedMs) :
      Moves block e p { p with worker := .givingUp }
  | ask {p : Pursuit} {targetDevice : DiscoveredESP32} {waitedMs : ℕ} {foundNewCandidate : Bool}
      (he : e = .proceed) (hw : p.worker = .located targetDevice waitedMs foundNewCandidate) :
      Moves block e p { p with worker := .deciding targetDevice waitedMs foundNewCandidate }
  | goOn {p : Pursuit} {targetDevice : DiscoveredESP32} (he : e = .proceed)
      (hw : p.worker = .continuing targetDevice) :
      Moves block e p { p with worker := .next targetDevice }
  | giveUp {p : Pursuit} (he : e = .proceed) (hw : p.worker = .givingUp) :
      Moves block e p { p with worker := .idle }
  | recorded {p : Pursuit} {currentAddress : String} {pending : List Block} (he : e = .runBlock)
      (hb : block = some (.authFailed currentAddress))
      (hp : p.pending = .authFailed currentAddress :: pending) : Moves block e p { p with
        pending
        authFailedIPs := remember WifiViewModel.maxAuthFailedIPs p.authFailedIPs currentAddress
        discoveredESP32s := p.discoveredESP32s.filter (·.address != currentAddress) }
  | missed {p : Pursuit} {pending : List Block} (he : e = .runBlock)
      (hp : p.pending = .findCandidate :: pending)
      (hw : ∀ targetDevice waitedMs, p.worker ≠ .finding targetDevice waitedMs) :
      Moves block e p { p with pending }
  | candidate {p : Pursuit} {targetDevice newCandidate : DiscoveredESP32} {waitedMs : ℕ}
      {pending : List Block} (he : e = .runBlock) (hp : p.pending = .findCandidate :: pending)
      (hw : p.worker = .finding targetDevice waitedMs) (hl : newCandidate ∈ p.discoveredESP32s)
      (hnew : newCandidate.address ∉ p.authFailedIPs) :
      Moves block e p { p with worker := .located newCandidate waitedMs true, pending }
  | noCandidate {p : Pursuit} {targetDevice : DiscoveredESP32} {waitedMs : ℕ}
      {pending : List Block} (he : e = .runBlock) (hp : p.pending = .findCandidate :: pending)
      (hw : p.worker = .finding targetDevice waitedMs) :
      Moves block e p { p with worker := .located targetDevice waitedMs false, pending }
  | abort {p : Pursuit} {targetDevice : DiscoveredESP32} {waitedMs : ℕ}
      {foundNewCandidate : Bool} (he : e = .runBlock)
      (hw : p.worker = .deciding targetDevice waitedMs foundNewCandidate) :
      Moves block e p { p with worker := .givingUp }
  | keepOn {p : Pursuit} {targetDevice : DiscoveredESP32} {waitedMs : ℕ} (he : e = .runBlock)
      (hw : p.worker = .deciding targetDevice waitedMs true) :
      Moves block e p { p with worker := .continuing targetDevice }
  | wait {p : Pursuit} {targetDevice : DiscoveredESP32} {waitedMs : ℕ} (he : e = .runBlock)
      (hw : p.worker = .deciding targetDevice waitedMs false) :
      Moves block e p { p with worker := .waiting targetDevice waitedMs }

variable {ν : Type} {block : Option Block} {e : Event ν} {p p' q : Pursuit}

theorem Narrows.refl (p : Pursuit) : p.Narrows p :=
  ⟨p.discoveredESP32s, List.Subset.refl _, rfl⟩

theorem Narrows.trans (h : p.Narrows p') (h' : p'.Narrows q) : p.Narrows q := by
  obtain ⟨l, hl, rfl⟩ := h
  obtain ⟨l', hl', rfl⟩ := h'
  exact ⟨l', List.Subset.trans hl' hl, rfl⟩

theorem Narrows.cleared (p : Pursuit) : p.Narrows { p with discoveredESP32s := [] } :=
  ⟨[], List.nil_subset _, rfl⟩

theorem Narrows.moves (h : p.Narrows p') (he : e.ofQueue = false) : Moves block e p p' := by
  obtain ⟨l, hl, rfl⟩ := h
  exact .discovery he fun d hd => Or.inl (hl hd)

end Pursuit

namespace WifiViewModel

variable {ν : Type} {vm vm' : WifiViewModel ν} {env : Surroundings}

def pursuit (vm : WifiViewModel ν) : Pursuit where
  worker := vm.worker
  pending := vm.blocks.filter Block.searches
  authFailedIPs := vm.authFailedIPs
  discoveredESP32s := vm.discoveredESP32s

section MainThread

open Pursuit

@[simp] theorem pursuit_stopESP32Discovery : vm.stopESP32Discovery.pursuit = vm.pursuit := rfl

@[simp] theorem pursuit_scheduleDiscoveryRetry :
    vm.scheduleDiscoveryRetry.pursuit = vm.pursuit := by
  unfold scheduleDiscoveryRetry
  split <;> rfl

@[simp] theorem pursuit_startESP32Discovery :
    (vm.startESP32Discovery env).pursuit = { vm.pursuit with discoveredESP32s := [] } := by
  unfold startESP32Discovery
  dsimp only
  split
  · split <;> rfl
  · rw [pursuit_scheduleDiscoveryRetry]
    split <;> rfl

theorem narrows_startESP32Discovery {p : Pursuit} (h : vm.pursuit = p) :
    p.Narrows (vm.startESP32Discovery env).pursuit := by
  rw [pursuit_startESP32Discovery, h]
  exact .cleared p

theorem pursuit_posted {blocks : List Block} {wrapper : Option (VehicleSimWrapper ν)}
    {worker : Worker} : ({ vm.post blocks with wrapper, worker } : WifiViewModel ν).pursuit =
      { vm.pursuit with
        worker
        pending := vm.pursuit.pending ++ blocks.filter Block.searches } := by
  simp [post, pursuit]

theorem pursuit_worked {blocks : List Block} {wrapper : Option (VehicleSimWrapper ν)}
    {worker : Worker} (h : ∀ block ∈ blocks, block.searches = false) :
    ({ vm.post blocks with wrapper, worker } : WifiViewModel ν).pursuit =
      { vm.pursuit with worker } := by
  have hnone : blocks.filter Block.searches = [] := by
    rw [List.filter_eq_nil_iff]
    exact fun block hblock => by simp [h block hblock]
  rw [pursuit_posted, hnone, List.append_nil]

theorem pursuit_post {blocks : List Block} (h : ∀ block ∈ blocks, block.searches = false) :
    (vm.post blocks).pursuit = vm.pursuit :=
  @pursuit_worked ν vm blocks vm.wrapper vm.worker h

theorem pursuit_onDiscoveryRetryTimer : vm.onDiscoveryRetryTimer.pursuit = vm.pursuit := by
  unfold onDiscoveryRetryTimer
  split
  · exact pursuit_post (by simp [Block.searches])
  · rfl

theorem pursuit_scheduleReconnect (h : vm.scheduleReconnect env = some vm') :
    vm'.pursuit = vm.pursuit := by
  unfold scheduleReconnect at h
  split at h
  · dsimp only at h
    split at h
    · obtain rfl := Option.some.inj h
      rfl
    · cases h
  · obtain rfl := Option.some.inj h
    rfl

theorem pursuit_startReconnectLoop (h : vm.startReconnectLoop env = some vm') :
    vm'.pursuit = vm.pursuit := by
  unfold startReconnectLoop at h
  rw [pursuit_scheduleReconnect h]
  rfl

theorem narrows_onReconnectCheckTimer (h : vm.onReconnectCheckTimer env = some vm') :
    vm.pursuit.Narrows vm'.pursuit := by
  unfold onReconnectCheckTimer checkPendingReconnect at h
  split at h
  · split at h
    · obtain rfl := Option.some.inj h
      exact .refl _
    · split at h
      · unfold attemptReconnect at h
        dsimp only at h
        split at h
        · obtain rfl := Option.some.inj h
          exact .refl _
        · split at h
          · obtain rfl := Option.some.inj h
            exact .refl _
          · rw [pursuit_scheduleReconnect h]
            exact narrows_startESP32Discovery rfl
      · obtain rfl := Option.some.inj h
        exact .refl _
  · obtain rfl := Option.some.inj h
    exact .refl _

theorem narrows_onReconnectFailed (h : vm.onReconnectFailed env = some vm') :
    vm.pursuit.Narrows vm'.pursuit := by
  rw [pursuit_scheduleReconnect h]
  exact narrows_startESP32Discovery rfl

theorem pursuit_updateTelemetry (vm : WifiViewModel ν) (now : ℕ) (ms : UInt64) :
    ({ vm with toVehicleViewModel := vm.toVehicleViewModel.updateTelemetry now ms } :
      WifiViewModel ν).pursuit = vm.pursuit := by
  unfold VehicleViewModel.updateTelemetry pursuit
  split <;> rfl

theorem pursuit_poll (h : vm.poll env = some vm') : vm'.pursuit = vm.pursuit := by
  unfold poll at h
  split at h
  · unfold checkConnectionLiveness at h
    rw [← pursuit_updateTelemetry vm env.now env.heartbeatMs]
    split at h
    · obtain rfl := Option.some.inj h
      rfl
    · split at h
      · dsimp only at h
        split at h
        · cases h
        · split at h
          · rw [pursuit_startReconnectLoop h]
            rfl
          · obtain rfl := Option.some.inj h
            rfl
      · obtain rfl := Option.some.inj h
        rfl
  · obtain rfl := Option.some.inj h
    rfl

theorem narrows_disconnect : vm.pursuit.Narrows (vm.disconnect env).pursuit := by
  have htelemetry (w : WifiViewModel ν) :
      ({ w with telemetry := {} } : WifiViewModel ν).pursuit = w.pursuit := rfl
  unfold disconnect
  dsimp only
  rw [htelemetry]
  split
  · exact narrows_startESP32Discovery rfl
  · exact .refl _

theorem narrows_pauseDiscoveryIfNeeded :
    vm.pursuit.Narrows vm.pauseDiscoveryIfNeeded.pursuit := by
  unfold pauseDiscoveryIfNeeded
  split <;> exact .refl _

theorem narrows_onResumeHunt : vm.pursuit.Narrows (vm.onResumeHunt env).pursuit := by
  unfold onResumeHunt
  split
  · exact narrows_startESP32Discovery rfl
  · exact .refl _

theorem narrows_onHuntFailed : vm.pursuit.Narrows (vm.onHuntFailed env).pursuit := by
  unfold onHuntFailed
  dsimp only
  split
  · exact narrows_startESP32Discovery rfl
  · exact .refl _

theorem narrows_onRetryDiscovery : vm.pursuit.Narrows (vm.onRetryDiscovery env).pursuit := by
  unfold onRetryDiscovery
  dsimp only
  split
  · exact narrows_startESP32Discovery rfl
  · exact .refl _

theorem pursuit_startDemo : (vm.startDemo env).pursuit = vm.pursuit := by
  unfold startDemo
  split <;> rfl

theorem narrows_ifActive (vm : WifiViewModel ν) (env : Surroundings) : vm.pursuit.Narrows
    (if vm.connectionState ≠ .disconnected then vm.disconnect env else vm).pursuit := by
  split
  · exact narrows_disconnect
  · exact .refl _

theorem pursuit_ifLeft (vm : WifiViewModel ν) :
    (if vm.connectionMode ≠ .wifi then vm.stopReconnectLoop else vm).pursuit = vm.pursuit := by
  split <;> rfl

theorem pursuit_leaveMode (vm : WifiViewModel ν) (env : Surroundings) : ∃ l,
    (vm.leaveMode env).pursuit = { vm.pursuit with authFailedIPs := ∅, discoveredESP32s := l } := by
  obtain ⟨l, -, hl⟩ := narrows_ifActive { vm with authFailedIPs := ∅ } env
  unfold leaveMode
  dsimp only
  exact ⟨l, (pursuit_ifLeft _).trans hl⟩

/-- A change of the mode empties the skip list. -/
theorem pursuit_setConnectionMode (vm : WifiViewModel ν) (env : Surroundings)
    (mode : ConnectionMode) : ∃ l, (vm.setConnectionMode mode env).pursuit =
      { vm.pursuit with authFailedIPs := ∅, discoveredESP32s := l } := by
  obtain ⟨l, hleave⟩ := pursuit_leaveMode { vm with connectionMode := mode } env
  unfold setConnectionMode enterMode
  split
  · exact ⟨l, hleave⟩
  · refine ⟨[], ?_⟩
    rw [pursuit_startESP32Discovery, hleave]
    rfl
  · refine ⟨l, ?_⟩
    rw [pursuit_startDemo]
    exact hleave

theorem pursuit_resumeDiscoveryIfNeeded :
    (vm.resumeDiscoveryIfNeeded env).pursuit = vm.pursuit ∨
    ∃ l, (vm.resumeDiscoveryIfNeeded env).pursuit =
      { vm.pursuit with authFailedIPs := ∅, discoveredESP32s := l } := by
  unfold resumeDiscoveryIfNeeded
  split
  · dsimp only
    split
    · exact Or.inr ⟨vm.discoveredESP32s, rfl⟩
    · refine Or.inr ⟨[], ?_⟩
      rw [pursuit_startESP32Discovery]
      rfl
  · exact Or.inl rfl

theorem pursuit_initiateESP32Connection (esp32 : DiscoveredESP32) :
    (vm.initiateESP32Connection esp32).pursuit = vm.pursuit := by
  unfold initiateESP32Connection
  split <;> rfl

theorem pursuit_connectToESP32 (esp32 : DiscoveredESP32) :
    (vm.connectToESP32 esp32).pursuit = vm.pursuit := by
  unfold connectToESP32
  split
  · rfl
  · split
    · rfl
    · split
      · rfl
      · exact pursuit_initiateESP32Connection esp32

theorem mem_noted {l : List DiscoveredESP32} {d discovered : DiscoveredESP32}
    (hd : d ∈ match l.findIdx? (·.address == discovered.address) with
      | some idx => l.set idx discovered
      | none => l ++ [discovered]) : d ∈ l ∨ d = discovered := by
  split at hd
  · exact List.mem_or_eq_of_mem_set hd
  · simpa using hd

/-- A discovered device enters the list, in the place of its address if there is one. -/
theorem pursuit_onDiscovered (discovered : DiscoveredESP32) : ∃ l,
    (vm.onDiscovered discovered).pursuit = { vm.pursuit with discoveredESP32s := l } ∧
    ∀ d ∈ l, d ∈ vm.discoveredESP32s ∨ d = discovered := by
  unfold onDiscovered
  split
  · exact ⟨vm.discoveredESP32s, rfl, fun d hd => Or.inl hd⟩
  · refine ⟨_, ?_, fun d hd => mem_noted hd⟩
    dsimp only
    split
    · exact pursuit_initiateESP32Connection discovered
    · rfl

theorem pursuit_connectToDevice (device : DeviceEntry) :
    (vm.connectToDevice device).pursuit = vm.pursuit := by
  unfold connectToDevice
  split <;> rfl

theorem pursuit_bleConnectStart {device : DeviceEntry}
    (h : vm.bleConnectStart device = some vm') : vm'.pursuit = vm.pursuit := by
  unfold bleConnectStart at h
  split at h
  · obtain rfl := Option.some.inj h
    rfl
  · cases h

theorem pursuit_bleConnectEnd {device : DeviceEntry} {success : Bool}
    (h : vm.bleConnectEnd device success = some vm') : vm'.pursuit = vm.pursuit := by
  unfold bleConnectEnd at h
  split at h
  · dsimp only at h
    split at h
    · obtain rfl := Option.some.inj h
      exact @pursuit_post ν vm [.bleConnected] (by simp [Block.searches])
    · obtain rfl := Option.some.inj h
      exact @pursuit_post ν vm [.bleFailed] (by simp [Block.searches])
  · cases h

theorem moves_onAuthFailed {currentAddress : String} {blocks : List Block}
    (hb : vm.blocks.head? = some (.authFailed currentAddress))
    (hp : vm.pursuit.pending = .authFailed currentAddress :: blocks.filter Block.searches) :
    @Moves ν vm.blocks.head? .runBlock vm.pursuit
      ({ vm with blocks }.onAuthFailed currentAddress).pursuit :=
  .recorded rfl hb hp

theorem moves_onFindCandidate {blocks : List Block}
    (hp : vm.pursuit.pending = .findCandidate :: blocks.filter Block.searches) :
    @Moves ν vm.blocks.head? .runBlock vm.pursuit { vm with blocks }.onFindCandidate.pursuit := by
  unfold onFindCandidate
  split
  · next targetDevice waitedMs hw =>
    split
    · next newCandidate hfind =>
      have hnew := List.find?_some hfind
      exact .candidate rfl hp hw (List.mem_of_find?_eq_some hfind) (of_decide_eq_true hnew)
    · exact .noCandidate rfl hp hw
  · next hw => exact .missed rfl hp hw

theorem moves_onCheckAbort {block : Option Block} :
    @Moves ν block .runBlock vm.pursuit vm.onCheckAbort.pursuit := by
  unfold onCheckAbort
  split
  · next targetDevice waitedMs foundNewCandidate hw =>
    split
    · exact .abort rfl hw
    · cases foundNewCandidate with
      | true => exact .keepOn rfl hw
      | false => exact .wait rfl hw
  · exact (Narrows.refl _).moves rfl

theorem moves_runBlock (h : vm.runBlock env = some vm') :
    @Moves ν vm.blocks.head? .runBlock vm.pursuit vm'.pursuit := by
  unfold runBlock at h
  split at h
  · cases h
  · next block blocks hblocks =>
    have hpending : vm.pursuit.pending = (block :: blocks).filter Block.searches :=
      congrArg (List.filter Block.searches) hblocks
    obtain ⟨rest, hrest⟩ : ∃ rest, rest = ({ vm with blocks } : WifiViewModel ν) := ⟨_, rfl⟩
    have hsame : block.searches = false → rest.pursuit = vm.pursuit := by
      intro hblock
      rw [List.filter_cons_of_neg (by simp [hblock])] at hpending
      rw [hrest]
      exact congrArg (fun pending => { vm.pursuit with pending }) hpending.symm
    have hhead : block.searches = true →
        vm.pursuit.pending = block :: blocks.filter Block.searches := by
      intro hblock
      rw [hpending, List.filter_cons_of_pos hblock]
    rw [← hrest] at h
    cases block with
    | reconnected _ | modeCheck | hunted _ | pauseDiscovery | bleConnected | bleFailed =>
      obtain rfl := Option.some.inj h
      rw [← hsame rfl]
      exact (Narrows.refl rest.pursuit).moves rfl
    | reconnectFailed =>
      rw [← hsame rfl]
      exact (narrows_onReconnectFailed h).moves rfl
    | authFailed currentAddress =>
      obtain rfl := Option.some.inj h
      rw [hrest]
      exact moves_onAuthFailed (congrArg List.head? hblocks) (hhead rfl)
    | resumeHunt =>
      obtain rfl := Option.some.inj h
      rw [← hsame rfl]
      exact narrows_onResumeHunt.moves rfl
    | findCandidate =>
      obtain rfl := Option.some.inj h
      rw [hrest]
      exact moves_onFindCandidate (hhead rfl)
    | checkAbort =>
      obtain rfl := Option.some.inj h
      rw [← hsame rfl]
      exact moves_onCheckAbort
    | huntFailed =>
      obtain rfl := Option.some.inj h
      rw [← hsame rfl]
      exact narrows_onHuntFailed.moves rfl
    | retryDiscovery =>
      obtain rfl := Option.some.inj h
      rw [← hsame rfl]
      exact narrows_onRetryDiscovery.moves rfl

end MainThread

section Queue

open Pursuit

theorem moves_beginHunt {targetDevice : DiscoveredESP32} {operations : List Operation}
    (hw : vm.worker = .idle ∨ vm.worker = .next targetDevice) :
    @Moves ν vm.blocks.head? .connectStart vm.pursuit
      ({ vm with operations }.beginHunt targetDevice).pursuit := by
  unfold beginHunt
  split
  · exact .noWrapper rfl hw
  · rw [pursuit_worked]
    · exact .connect rfl hw
    · simp [Block.searches]

theorem moves_connectStart (h : vm.connectStart = some vm') :
    @Moves ν vm.blocks.head? .connectStart vm.pursuit vm'.pursuit := by
  unfold connectStart at h
  split at h
  · next lastAddress operations hw hops =>
    obtain rfl := Option.some.inj h
    exact .reconnect rfl hw
  · next esp32 operations hw hops =>
    obtain rfl := Option.some.inj h
    exact moves_beginHunt (Or.inl hw)
  · next targetDevice hw =>
    obtain rfl := Option.some.inj h
    exact @moves_beginHunt ν vm targetDevice vm.operations (Or.inr hw)
  · cases h

theorem moves_connectEnd {success : Bool} (h : vm.connectEnd success = some vm') :
    @Moves ν vm.blocks.head? (.connectEnd success) vm.pursuit vm'.pursuit := by
  unfold connectEnd at h
  split at h
  · next lastAddress hw =>
    split at h
    · obtain rfl := Option.some.inj h
      rw [pursuit_worked]
      · exact .reconnectEnd rfl hw
      · simp [Block.searches]
    · obtain rfl := Option.some.inj h
      rw [pursuit_worked]
      · exact .reconnectEnd rfl hw
      · simp [Block.searches]
  · next targetDevice hw =>
    cases success with
    | true =>
      obtain rfl := Option.some.inj h
      rw [pursuit_worked]
      · exact .success rfl hw
      · simp [Block.searches]
    | false =>
      obtain rfl := Option.some.inj h
      rw [pursuit_posted]
      exact .failure rfl hw
  · cases h

theorem moves_proceed (h : vm.proceed = some vm') :
    @Moves ν vm.blocks.head? .proceed vm.pursuit vm'.pursuit := by
  unfold proceed at h
  split at h
  · next targetDevice waitedMs hw =>
    split at h
    · next hms =>
      obtain rfl := Option.some.inj h
      rw [pursuit_posted]
      exact .wake rfl hw hms
    · next hms =>
      obtain rfl := Option.some.inj h
      exact .timeout rfl hw (Nat.le_of_not_lt hms)
  · next targetDevice waitedMs foundNewCandidate hw =>
    obtain rfl := Option.some.inj h
    rw [pursuit_worked]
    · exact .ask rfl hw
    · simp [Block.searches]
  · next targetDevice hw =>
    obtain rfl := Option.some.inj h
    rw [pursuit_worked]
    · exact .goOn rfl hw
    · simp [Block.searches]
  · next hw =>
    obtain rfl := Option.some.inj h
    rw [pursuit_worked]
    · exact .giveUp rfl hw
    · simp [Block.searches]
  · cases h

end Queue

/-- Every step of the app does to a hunt what its event can do. -/
theorem moves_step {e : Event ν} (h : vm.step env e = some vm') :
    Pursuit.Moves vm.blocks.head? e vm.pursuit vm'.pursuit := by
  have hkeep {e : Event ν} (hsame : vm'.pursuit = vm.pursuit) (he : e.ofQueue = false) :
      Pursuit.Moves vm.blocks.head? e vm.pursuit vm'.pursuit := by
    rw [hsame]
    exact (Pursuit.Narrows.refl _).moves he
  cases e with
  | setConnectionMode mode =>
    obtain rfl := Option.some.inj h
    obtain ⟨l, hl⟩ := pursuit_setConnectionMode vm env mode
    rw [hl]
    exact .modeSwitch rfl
  | poll => exact hkeep (pursuit_poll h) rfl
  | reconnectTick => exact (narrows_onReconnectCheckTimer h).moves rfl
  | discovered esp32 =>
    obtain rfl := Option.some.inj h
    obtain ⟨l, hl, hmem⟩ := @pursuit_onDiscovered ν vm esp32
    rw [hl]
    refine .discovery rfl fun d hd => (hmem d hd).imp_right ?_
    rintro rfl
    rfl
  | discoveryError =>
    obtain rfl := Option.some.inj h
    exact hkeep pursuit_scheduleDiscoveryRetry rfl
  | discoveryRetry =>
    obtain rfl := Option.some.inj h
    exact hkeep pursuit_onDiscoveryRetryTimer rfl
  | resumeDiscovery =>
    obtain rfl := Option.some.inj h
    rcases @pursuit_resumeDiscoveryIfNeeded ν vm env with hsame | ⟨l, hl⟩
    · exact hkeep hsame rfl
    · rw [hl]
      exact .appResume rfl
  | pauseDiscovery =>
    obtain rfl := Option.some.inj h
    exact narrows_pauseDiscoveryIfNeeded.moves rfl
  | connectToESP32 esp32 =>
    obtain rfl := Option.some.inj h
    exact hkeep (pursuit_connectToESP32 esp32) rfl
  | connectToDevice device =>
    obtain rfl := Option.some.inj h
    exact hkeep (pursuit_connectToDevice device) rfl
  | startBLE =>
    obtain rfl := Option.some.inj h
    refine hkeep ?_ rfl
    unfold startBLE
    split <;> rfl
  | stop =>
    obtain rfl := Option.some.inj h
    exact hkeep rfl rfl
  | disconnect =>
    obtain rfl := Option.some.inj h
    exact narrows_disconnect.moves rfl
  | runBlock => exact moves_runBlock h
  | connectStart => exact moves_connectStart h
  | connectEnd success => exact moves_connectEnd h
  | proceed => exact moves_proceed h
  | bleConnectStart device => exact hkeep (pursuit_bleConnectStart h) rfl
  | bleConnectEnd device success => exact hkeep (pursuit_bleConnectEnd h) rfl
  | frame _ | pipelineEnd =>
    obtain rfl := Option.some.inj h
    exact hkeep rfl rfl

end WifiViewModel

end VehicleSpy.Ios
