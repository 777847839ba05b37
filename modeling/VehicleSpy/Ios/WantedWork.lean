import VehicleSpy.Ios.ConnectionQueue
import VehicleSpy.Machine.Prefixes

/-! # Background work that is wanted

A retry, or the next connection of a hunt, is wanted while the app is in WiFi mode and not
connected. The code checks this when it schedules a retry and when a hunt decides to go on, and not
when either connects. So it is kept as long as nothing comes in between that the check would have
found: the mode stays, and no other connection succeeds.
-/

namespace VehicleSpy.Ios

open Machine

/-- The block announces a connection that stands. -/
def Block.announces : Block → Bool
  | .reconnected _ | .hunted _ | .bleConnected => true
  | _ => false

/-- The fields that tell whether the app connects, and the connections that the main thread has not
heard of yet. -/
structure Control where
  connectionMode : ConnectionMode
  connectionState : ViewModelConnectionState
  nextReconnectFireTimeMs : Option UInt64
  lastConnectedAddress : Option String
  operations : List Operation
  worker : Worker
  announced : List Block

/-- The hunt has decided to connect to another device. -/
def Worker.goesOn : Worker → Bool
  | .continuing _ | .next _ => true
  | _ => false

/-- The worker connects, or has decided to. -/
def Worker.connects : Worker → Bool
  | .reconnecting _ | .connecting _ => true
  | worker => worker.goesOn

namespace Control

variable (c : Control)

/-- An operation waits for its turn, or is about to connect or connecting. -/
def Busy : Prop := c.operations ≠ [] ∨ c.worker.connects = true

/-- The next connection of a hunt is to come without another check. -/
def HuntAhead : Prop := (∃ esp32, .hunt esp32 ∈ c.operations) ∨ c.worker.goesOn = true

/-- A retry waits for its turn. -/
def RetryAhead : Prop := ∃ lastAddress, .reconnect lastAddress ∈ c.operations

/-- A connection stands, whether or not the main thread has heard of it. -/
def Live : Prop := c.connectionState = .connected ∨ c.announced ≠ []

/-- A retry is scheduled only while it is wanted, or comes to nothing; the queue connects only in
WiFi mode, a hunt goes on only while the app is not connected, and a retry waits only while no
connection stands. -/
structure Settled : Prop where
  pending : c.nextReconnectFireTimeMs ≠ none → c.connectionMode = .wifi ∧
    (c.connectionState ≠ .connected ∨ c.lastConnectedAddress = none)
  busy : c.Busy → c.connectionMode = .wifi
  hunting : c.HuntAhead → c.connectionState ≠ .connected
  retrying : c.RetryAhead → ¬ c.Live

/-- A retry gets scheduled only where it is wanted. -/
def Schedules (c c' : Control) : Prop :=
  ∃ next, c' = { c with nextReconnectFireTimeMs := next } ∧
    (next ≠ none → c.connectionMode = .wifi ∧ c.connectionState ≠ .connected)

variable {c}

theorem RetryAhead.busy (h : c.RetryAhead) : c.Busy :=
  Or.inl (List.ne_nil_of_mem h.choose_spec)

theorem not_live_of {c' : Control} (h : ¬ c.Live) (hstate : c'.connectionState ≠ .connected)
    (hannounced : c.announced = [] → c'.announced = []) : ¬ c'.Live := by
  rw [Live, not_or, not_not] at h ⊢
  exact ⟨hstate, hannounced h.2⟩

theorem HuntAhead.busy (h : c.HuntAhead) : c.Busy := by
  rcases h with ⟨esp32, h⟩ | h
  · exact Or.inl (List.ne_nil_of_mem h)
  · refine Or.inr ?_
    cases hw : c.worker with
    | continuing _ => rfl
    | next _ => rfl
    | _ => simp [hw, Worker.goesOn] at h

namespace Settled

variable (hs : c.Settled)

include hs

theorem disconnected (state : ViewModelConnectionState) (h : state ≠ .connected) :
    { c with connectionState := state }.Settled :=
  ⟨fun hn => ⟨(hs.pending hn).1, Or.inl h⟩, hs.busy, fun _ => h,
    fun hr => not_live_of (hs.retrying hr) h id⟩

theorem scheduled {c' : Control} (h : c.Schedules c') : c'.Settled := by
  obtain ⟨next, rfl, h⟩ := h
  exact ⟨fun hn => ⟨(h hn).1, Or.inl (h hn).2⟩, hs.busy, hs.hunting, hs.retrying⟩

/-- The main thread takes a block. -/
theorem taken {announced : List Block} (h : announced <:+ c.announced) :
    { c with announced }.Settled := by
  refine ⟨hs.pending, hs.busy, hs.hunting, fun hr => ?_⟩
  have hlive := hs.retrying hr
  refine not_live_of hlive (fun hstate => hlive (Or.inl hstate)) fun hnil => ?_
  exact List.suffix_nil.mp (hnil ▸ h)

/-- Word of a connection, while no retry waits. -/
theorem heard {lastAddress : Option String} {announced : List Block}
    (hn : c.nextReconnectFireTimeMs = none ∨ lastAddress = none) (hh : ¬ c.HuntAhead)
    (hr : ¬ c.RetryAhead) :
    { c with
      connectionState := .connected
      lastConnectedAddress := lastAddress
      announced }.Settled := by
  constructor
  · intro hne
    exact ⟨(hs.pending hne).1, Or.inr (hn.resolve_left hne)⟩
  · exact hs.busy
  · exact fun h => absurd h hh
  · exact fun h => absurd h hr

/-- A connection comes to stand, while no retry waits. -/
theorem announced (hr : ¬ c.RetryAhead) (announced : List Block) :
    { c with announced }.Settled :=
  ⟨hs.pending, hs.busy, hs.hunting, fun h => absurd h hr⟩

/-- So does one of the queue. -/
theorem announce (hr : ¬ c.RetryAhead) {worker : Worker} (announced : List Block)
    (hb : worker.connects = false) : { c with worker, announced }.Settled := by
  constructor
  · exact hs.pending
  · rintro (h | h)
    · exact hs.busy (Or.inl h)
    · rw [hb] at h
      cases h
  · rintro (h | h)
    · exact hs.hunting (Or.inl h)
    · cases worker <;> simp [Worker.goesOn, Worker.connects] at h hb
  · exact fun h => absurd h hr

theorem retry (hm : c.connectionMode = .wifi) (hl : ¬ c.Live) (lastAddress : String) :
    { c with
      nextReconnectFireTimeMs := none
      operations := c.operations ++ [Operation.reconnect lastAddress] }.Settled := by
  constructor
  · exact fun h => absurd rfl h
  · exact fun _ => hm
  · rintro (⟨esp32, h⟩ | h)
    · exact hs.hunting (Or.inl ⟨esp32, by simpa using h⟩)
    · exact hs.hunting (Or.inr h)
  · exact fun _ => hl

/-- The queue goes on with its operation. -/
theorem worked {operations : List Operation} {worker : Worker}
    (hops : operations <:+ c.operations) (hb : worker.connects = true → c.connectionMode = .wifi)
    (hg : worker.goesOn = true → c.connectionState ≠ .connected) :
    { c with operations, worker }.Settled := by
  constructor
  · exact hs.pending
  · rintro (h | h)
    · refine hs.busy (Or.inl ?_)
      rintro hnil
      rw [hnil, List.suffix_nil] at hops
      exact h hops
    · exact hb h
  · rintro (⟨esp32, h⟩ | h)
    · exact hs.hunting (Or.inl ⟨esp32, hops.subset h⟩)
    · exact hg h
  · rintro ⟨lastAddress, h⟩
    exact hs.retrying ⟨lastAddress, hops.subset h⟩

theorem hunt (hm : c.connectionMode = .wifi) (esp32 : DiscoveredESP32) :
    { c with
      connectionState := .connecting
      operations := c.operations ++ [Operation.hunt esp32] }.Settled := by
  refine ⟨fun _ => ⟨hm, Or.inl nofun⟩, fun _ => hm, fun _ => nofun, ?_⟩
  rintro ⟨lastAddress, h⟩
  exact not_live_of (hs.retrying ⟨lastAddress, by simpa using h⟩) nofun id

theorem moved {mode : ConnectionMode} {state : ViewModelConnectionState}
    {next : Option UInt64}
    (hwifi : mode = .wifi → state ≠ .connected) (hleft : mode ≠ .wifi → next = none ∧ ¬ c.Busy) :
    { c with
      connectionMode := mode
      connectionState := state
      nextReconnectFireTimeMs := next }.Settled := by
  rcases eq_or_ne mode .wifi with rfl | hm
  · exact ⟨fun _ => ⟨rfl, Or.inl (hwifi rfl)⟩, fun _ => rfl, fun _ => hwifi rfl,
      fun hr => not_live_of (hs.retrying hr) (hwifi rfl) id⟩
  · obtain ⟨hnext, hidle⟩ := hleft hm
    constructor
    · exact fun h => absurd hnext h
    · exact fun h => absurd h hidle
    · exact fun h => absurd (HuntAhead.busy h) hidle
    · exact fun h => absurd (RetryAhead.busy h) hidle

end Settled

end Control

namespace WifiViewModel

variable {ν : Type} {vm vm' : WifiViewModel ν} {env : Surroundings}

def control (vm : WifiViewModel ν) : Control where
  connectionMode := vm.connectionMode
  connectionState := vm.connectionState
  nextReconnectFireTimeMs := vm.nextReconnectFireTimeMs
  lastConnectedAddress := vm.lastConnectedAddress
  operations := vm.operations
  worker := vm.worker
  announced := vm.blocks.filter Block.announces

section Frames

theorem control_posted {blocks : List Block} {wrapper : Option (VehicleSimWrapper ν)}
    {worker : Worker} : ({ vm.post blocks with wrapper, worker } : WifiViewModel ν).control =
      { vm.control with
        worker
        announced := vm.control.announced ++ blocks.filter Block.announces } := by
  simp [post, control]

theorem control_worked {blocks : List Block} {wrapper : Option (VehicleSimWrapper ν)}
    {worker : Worker} (h : ∀ block ∈ blocks, block.announces = false) :
    ({ vm.post blocks with wrapper, worker } : WifiViewModel ν).control =
      { vm.control with worker } := by
  have hnone : blocks.filter Block.announces = [] := by
    rw [List.filter_eq_nil_iff]
    exact fun block hblock => by simp [h block hblock]
  rw [control_posted, hnone, List.append_nil]

@[simp] theorem control_stopESP32Discovery : vm.stopESP32Discovery.control = vm.control := rfl

@[simp] theorem control_scheduleDiscoveryRetry :
    vm.scheduleDiscoveryRetry.control = vm.control := by
  unfold scheduleDiscoveryRetry
  split <;> rfl

/-- Discovery starts and stops without a say in what connects. -/
@[simp] theorem control_startESP32Discovery :
    (vm.startESP32Discovery env).control = vm.control := by
  unfold startESP32Discovery
  dsimp only
  split
  · split <;> rfl
  · rw [control_scheduleDiscoveryRetry]
    split <;> rfl

theorem control_resumeDiscoveryIfNeeded :
    (vm.resumeDiscoveryIfNeeded env).control = vm.control := by
  unfold resumeDiscoveryIfNeeded
  split
  · dsimp only
    split
    · rfl
    · rw [control_startESP32Discovery]
      rfl
  · rfl

theorem control_pauseDiscoveryIfNeeded : vm.pauseDiscoveryIfNeeded.control = vm.control := by
  unfold pauseDiscoveryIfNeeded
  split <;> rfl

theorem control_onDiscoveryRetryTimer : vm.onDiscoveryRetryTimer.control = vm.control := by
  unfold onDiscoveryRetryTimer
  split
  · exact @control_worked ν vm [.retryDiscovery] vm.wrapper vm.worker (by simp [Block.announces])
  · rfl

theorem control_onResumeHunt : (vm.onResumeHunt env).control = vm.control := by
  unfold onResumeHunt
  split
  · exact control_startESP32Discovery
  · rfl

theorem control_onRetryDiscovery : (vm.onRetryDiscovery env).control = vm.control := by
  unfold onRetryDiscovery
  dsimp only
  split
  · rw [control_startESP32Discovery]
    rfl
  · rfl

theorem control_connectToDevice (device : DeviceEntry) :
    (vm.connectToDevice device).control = vm.control := by
  unfold connectToDevice
  split <;> rfl

theorem control_bleConnectStart {device : DeviceEntry}
    (h : vm.bleConnectStart device = some vm') : vm'.control = vm.control := by
  unfold bleConnectStart at h
  split at h
  · obtain rfl := Option.some.inj h
    rfl
  · cases h

/-- The end of a BLE connection is announced if it succeeded. -/
theorem control_bleConnectEnd {device : DeviceEntry} {success : Bool}
    (h : vm.bleConnectEnd device success = some vm') : vm'.control = { vm.control with
      announced := vm.control.announced ++ if success then [.bleConnected] else [] } := by
  unfold bleConnectEnd at h
  split at h
  · dsimp only at h
    cases success with
    | true =>
      obtain rfl := Option.some.inj h
      exact control_posted
    | false =>
      obtain rfl := Option.some.inj h
      exact control_posted
  · cases h

theorem control_updateTelemetry (vm : WifiViewModel ν) (now : ℕ) (ms : UInt64) :
    ({ vm with toVehicleViewModel := vm.toVehicleViewModel.updateTelemetry now ms } :
      WifiViewModel ν).control = vm.control := by
  unfold VehicleViewModel.updateTelemetry control
  split
  · rfl
  · dsimp only
    split <;> rfl

end Frames

section Effects

theorem schedules_scheduleReconnect (h : vm.scheduleReconnect env = some vm') :
    vm.control.Schedules vm'.control := by
  unfold scheduleReconnect at h
  split at h
  · next hwanted =>
    dsimp only at h
    split at h
    · obtain rfl := Option.some.inj h
      exact ⟨_, rfl, fun _ => hwanted⟩
    · cases h
  · obtain rfl := Option.some.inj h
    exact ⟨none, rfl, fun hne => absurd rfl hne⟩

/-- A tick does nothing, hands the retry to the queue, or schedules another one. -/
theorem control_onReconnectCheckTimer (h : vm.onReconnectCheckTimer env = some vm') :
    vm'.control = vm.control ∨
    (vm.nextReconnectFireTimeMs ≠ none ∧ ∃ lastAddress,
      vm.lastConnectedAddress = some lastAddress ∧
      vm'.control = { vm.control with
        nextReconnectFireTimeMs := none
        operations := vm.operations ++ [.reconnect lastAddress] }) ∨
    vm.control.Schedules vm'.control := by
  unfold onReconnectCheckTimer checkPendingReconnect at h
  split at h
  · split at h
    · obtain rfl := Option.some.inj h
      exact Or.inl rfl
    · next fireTime hfire =>
      split at h
      · unfold attemptReconnect at h
        dsimp only at h
        split at h
        · obtain rfl := Option.some.inj h
          exact Or.inr (Or.inr ⟨none, rfl, fun hne => absurd rfl hne⟩)
        · split at h
          · next lastAddress haddr =>
            obtain rfl := Option.some.inj h
            exact Or.inr (Or.inl ⟨by simp [hfire], lastAddress, haddr, rfl⟩)
          · obtain ⟨next, hc, hwanted⟩ := schedules_scheduleReconnect h
            rw [control_startESP32Discovery] at hc hwanted
            exact Or.inr (Or.inr ⟨next, hc, hwanted⟩)
      · obtain rfl := Option.some.inj h
        exact Or.inl rfl
  · obtain rfl := Option.some.inj h
    exact Or.inl rfl

theorem schedules_onReconnectFailed (h : vm.onReconnectFailed env = some vm') :
    vm.control.Schedules vm'.control := by
  obtain ⟨next, hc, hwanted⟩ := schedules_scheduleReconnect h
  rw [control_startESP32Discovery] at hc hwanted
  exact ⟨next, hc, hwanted⟩

/-- A poll does nothing, or takes a lost connection down and schedules a retry. -/
theorem control_poll (h : vm.poll env = some vm') : vm'.control = vm.control ∨
    { vm.control with connectionState := .disconnected }.Schedules vm'.control := by
  unfold poll at h
  split at h
  · unfold checkConnectionLiveness at h
    rw [← control_updateTelemetry vm env.now env.heartbeatMs]
    split at h
    · obtain rfl := Option.some.inj h
      exact Or.inl rfl
    · split at h
      · dsimp only at h
        split at h
        · cases h
        · split at h
          · exact Or.inr (schedules_scheduleReconnect h)
          · obtain rfl := Option.some.inj h
            exact Or.inl rfl
      · obtain rfl := Option.some.inj h
        exact Or.inl rfl
  · obtain rfl := Option.some.inj h
    exact Or.inl rfl

theorem control_disconnect : (vm.disconnect env).control =
    { vm.control with connectionState := .disconnected, nextReconnectFireTimeMs := none } := by
  unfold disconnect
  dsimp only
  split
  · exact control_startESP32Discovery
  · rfl

/-- What is running stops first. -/
theorem control_ifActive (vm : WifiViewModel ν) (env : Surroundings) : ∃ next,
    (if vm.connectionState ≠ .disconnected then vm.disconnect env else vm).control =
      { vm.control with connectionState := .disconnected, nextReconnectFireTimeMs := next } := by
  split
  · exact ⟨none, control_disconnect⟩
  · next h =>
    refine ⟨vm.nextReconnectFireTimeMs, ?_⟩
    rw [← not_not.mp h]
    rfl

theorem control_ifLeft (vm : WifiViewModel ν) : ∃ next,
    (if vm.connectionMode ≠ .wifi then vm.stopReconnectLoop else vm).control =
      { vm.control with nextReconnectFireTimeMs := next } ∧
    (vm.connectionMode ≠ .wifi → next = none) := by
  split
  · exact ⟨none, rfl, fun _ => rfl⟩
  · next h => exact ⟨vm.nextReconnectFireTimeMs, rfl, fun hne => absurd hne h⟩

theorem control_leaveMode (vm : WifiViewModel ν) (env : Surroundings) :
    ∃ next, (vm.leaveMode env).control = { vm.control with
      connectionState := .disconnected
      nextReconnectFireTimeMs := next } ∧ (vm.connectionMode ≠ .wifi → next = none) := by
  obtain ⟨before, hfirst⟩ := control_ifActive { vm with authFailedIPs := ∅ } env
  have hmode := congrArg Control.connectionMode hfirst
  unfold leaveMode
  dsimp only
  obtain ⟨next, hleft, hnext⟩ := control_ifLeft <|
    if vm.connectionState ≠ .disconnected then
      { vm with authFailedIPs := ∅ }.disconnect env
    else { vm with authFailedIPs := ∅ }
  refine ⟨next, hleft.trans ?_, fun hne => hnext (hmode.trans_ne hne)⟩
  exact congrArg (fun c : Control => { c with nextReconnectFireTimeMs := next }) hfirst

theorem control_enterMode (env : Surroundings) (h : vm.connectionState = .disconnected) : ∃ state,
    (vm.enterMode env).control = { vm.control with connectionState := state } ∧
    (vm.connectionMode = .wifi → state ≠ .connected) := by
  have hsame : { vm.control with connectionState := .disconnected } = vm.control := by
    rw [← h]
    rfl
  unfold enterMode
  split
  · exact ⟨.disconnected, hsame.symm, nofun⟩
  · exact ⟨.disconnected, control_startESP32Discovery.trans hsame.symm, nofun⟩
  · next hm =>
    unfold startDemo
    split
    · exact ⟨.disconnected, hsame.symm, nofun⟩
    · exact ⟨.connected, rfl, fun hw => absurd (hm.symm.trans hw) nofun⟩

/-- What a change of the mode leaves. -/
theorem control_setConnectionMode (vm : WifiViewModel ν) (env : Surroundings)
    (mode : ConnectionMode) : ∃ state next,
    (vm.setConnectionMode mode env).control = { vm.control with
      connectionMode := mode
      connectionState := state
      nextReconnectFireTimeMs := next } ∧
    (mode = .wifi → state ≠ .connected) ∧ (mode ≠ .wifi → next = none) := by
  unfold setConnectionMode
  obtain ⟨next, hleave, hnext⟩ := control_leaveMode { vm with connectionMode := mode } env
  obtain ⟨state, henter, hstate⟩ := control_enterMode env
    (congrArg Control.connectionState hleave)
  have hmode := congrArg Control.connectionMode hleave
  refine ⟨state, next, ?_, fun hw => hstate (hmode.trans hw), hnext⟩
  rw [henter, hleave]
  rfl

theorem control_initiateESP32Connection (vm : WifiViewModel ν) (esp32 : DiscoveredESP32) :
    (vm.initiateESP32Connection esp32).control = vm.control ∨
    (vm.initiateESP32Connection esp32).control = { vm.control with
      connectionState := .connecting
      operations := vm.operations ++ [.hunt esp32] } := by
  unfold initiateESP32Connection
  split
  · exact Or.inl rfl
  · exact Or.inr rfl

/-- A discovered device starts a hunt in WiFi mode only. -/
theorem control_onDiscovered (vm : WifiViewModel ν) (discovered : DiscoveredESP32) :
    (vm.onDiscovered discovered).control = vm.control ∨
    (vm.connectionMode = .wifi ∧ (vm.onDiscovered discovered).control = { vm.control with
      connectionState := .connecting
      operations := vm.operations ++ [.hunt discovered] }) := by
  unfold onDiscovered
  split
  · exact Or.inl rfl
  · dsimp only
    split
    · next h =>
      rcases control_initiateESP32Connection _ discovered with hc | hc
      · exact Or.inl hc
      · exact Or.inr ⟨h.1, hc⟩
    · exact Or.inl rfl

theorem control_connectToESP32 (vm : WifiViewModel ν) (esp32 : DiscoveredESP32) :
    (vm.connectToESP32 esp32).control = vm.control ∨
    (vm.wrapper ≠ none ∧ vm.Admits esp32 ∧ (vm.connectToESP32 esp32).control = { vm.control with
      connectionState := .connecting
      operations := vm.operations ++ [.hunt esp32] }) := by
  unfold connectToESP32
  split
  · exact Or.inl rfl
  · next hw =>
    split
    · exact Or.inl rfl
    · next haddr =>
      split
      · exact Or.inl rfl
      · next hallow =>
        rcases control_initiateESP32Connection vm esp32 with hc | hc
        · exact Or.inl hc
        · exact Or.inr ⟨by simp [hw], ⟨haddr, hallow⟩, hc⟩

end Effects

/-- The background work finds the app as it was promised: the mode leaves WiFi only while the queue
neither connects nor is about to, a user connects in WiFi mode only, no connection succeeds while a
retry waits, no tick finds a retry scheduled while the main thread has not heard of a success, and
it hears of none while a retry is scheduled that it does not cancel, or while a hunt is about to
connect. -/
def Orderly (vm : WifiViewModel ν) : Event ν → Prop
  | .setConnectionMode mode => mode ≠ .wifi → ¬ vm.control.Busy
  | .reconnectTick => vm.nextReconnectFireTimeMs ≠ none → vm.lastConnectedAddress ≠ none →
      vm.control.announced = []
  | .connectEnd success | .bleConnectEnd _ success => success = true → ¬ vm.control.RetryAhead
  | .connectToESP32 esp32 => vm.wrapper ≠ none → vm.Admits esp32 → vm.connectionMode = .wifi
  | .runBlock =>
    match vm.blocks.head? with
    | some (.reconnected _) => ¬ vm.control.HuntAhead
    | some (.hunted _) => vm.nextReconnectFireTimeMs = none ∧ ¬ vm.control.HuntAhead
    | some .bleConnected => (vm.nextReconnectFireTimeMs = none ∨ vm.lastConnectedAddress = none) ∧
        ¬ vm.control.HuntAhead
    | _ => True
  | _ => True

section Steps

theorem settled_onFindCandidate (hs : vm.control.Settled) :
    vm.onFindCandidate.control.Settled := by
  unfold onFindCandidate
  split
  · split
    · exact hs.worked List.suffix_rfl nofun nofun
    · exact hs.worked List.suffix_rfl nofun nofun
  · exact hs

/-- A hunt goes on only where it is wanted. -/
theorem settled_onCheckAbort (hs : vm.control.Settled) : vm.onCheckAbort.control.Settled := by
  unfold onCheckAbort
  split
  · split
    · exact hs.worked List.suffix_rfl nofun nofun
    · next hwanted =>
      rw [not_or, not_not] at hwanted
      split
      · exact hs.worked List.suffix_rfl (fun _ => hwanted.1) fun _ => hwanted.2
      · exact hs.worked List.suffix_rfl nofun nofun
  · exact hs

theorem settled_runBlock (hs : vm.control.Settled) (ho : vm.Orderly .runBlock)
    (h : vm.runBlock env = some vm') : vm'.control.Settled := by
  unfold runBlock at h
  split at h
  · cases h
  · next block blocks hblocks =>
    simp only [Orderly, hblocks, List.head?_cons] at ho
    have hannounced : vm.control.announced = (block :: blocks).filter Block.announces :=
      congrArg (List.filter Block.announces) hblocks
    -- a block that announces a connection finds no retry waiting
    have hretry (hb : block.announces = true) : ¬ vm.control.RetryAhead := by
      intro hr
      refine hs.retrying hr (Or.inr ?_)
      rw [hannounced, List.filter_cons_of_pos hb]
      exact List.cons_ne_nil _ _
    have htaken : { vm.control with announced := blocks.filter Block.announces }.Settled := by
      refine hs.taken ?_
      rw [hannounced]
      exact (List.suffix_cons block blocks).filter _
    cases block with
    | reconnected lastAddress =>
      obtain rfl := Option.some.inj h
      have hnone := hs.scheduled ⟨none, rfl, fun hne => absurd rfl hne⟩
      exact hnone.heard (Or.inl rfl) ho (hretry rfl)
    | reconnectFailed =>
      have hfailed : { vm with blocks }.onReconnectFailed env = some vm' := h
      have hscheduled := schedules_onReconnectFailed hfailed
      exact htaken.scheduled hscheduled
    | modeCheck | authFailed _ | pauseDiscovery =>
      obtain rfl := Option.some.inj h
      exact htaken
    | hunted targetDevice =>
      obtain rfl := Option.some.inj h
      exact hs.heard (Or.inl ho.1) ho.2 (hretry rfl)
    | resumeHunt =>
      obtain rfl := Option.some.inj h
      rw [control_onResumeHunt]
      exact htaken
    | findCandidate =>
      obtain rfl := Option.some.inj h
      exact settled_onFindCandidate htaken
    | checkAbort =>
      obtain rfl := Option.some.inj h
      exact settled_onCheckAbort htaken
    | huntFailed =>
      obtain rfl := Option.some.inj h
      unfold onHuntFailed
      dsimp only
      split
      · rw [control_startESP32Discovery]
        exact htaken.disconnected .disconnected nofun
      · exact htaken.disconnected .disconnected nofun
    | retryDiscovery =>
      obtain rfl := Option.some.inj h
      rw [control_onRetryDiscovery]
      exact htaken
    | bleConnected =>
      obtain rfl := Option.some.inj h
      exact hs.heard ho.1 ho.2 (hretry rfl)
    | bleFailed =>
      obtain rfl := Option.some.inj h
      exact htaken.disconnected .disconnected nofun

theorem control_beginHunt (vm : WifiViewModel ν) (targetDevice : DiscoveredESP32) :
    (vm.beginHunt targetDevice).control = { vm.control with worker := .givingUp } ∨
    (vm.beginHunt targetDevice).control =
      { vm.control with worker := .connecting targetDevice } := by
  unfold beginHunt
  split
  · exact Or.inl rfl
  · exact Or.inr (control_worked (by simp [Block.announces]))

/-- A hunt begins to connect in WiFi mode. -/
theorem settled_beginHunt {operations : List Operation} (hs : vm.control.Settled)
    (hops : operations <:+ vm.operations) (hm : vm.connectionMode = .wifi)
    (targetDevice : DiscoveredESP32) :
    ({ vm with operations }.beginHunt targetDevice).control.Settled := by
  rcases control_beginHunt { vm with operations } targetDevice with hc | hc
  · rw [hc]
    exact hs.worked hops nofun nofun
  · rw [hc]
    exact hs.worked hops (fun _ => hm) nofun

theorem settled_connectStart (hs : vm.control.Settled) (h : vm.connectStart = some vm') :
    vm'.control.Settled := by
  unfold connectStart at h
  split at h
  · next lastAddress operations hw hops =>
    obtain rfl := Option.some.inj h
    have hm : vm.connectionMode = .wifi :=
      hs.busy (Or.inl (List.ne_nil_of_mem (hops ▸ List.mem_cons_self)))
    have hrest : operations <:+ vm.operations := hops ▸ List.suffix_cons _ operations
    exact hs.worked hrest (fun _ => hm) nofun
  · next esp32 operations hw hops =>
    obtain rfl := Option.some.inj h
    have hm : vm.connectionMode = .wifi :=
      hs.busy (Or.inl (List.ne_nil_of_mem (hops ▸ List.mem_cons_self)))
    exact settled_beginHunt hs (hops ▸ List.suffix_cons _ operations) hm esp32
  · next targetDevice hw =>
    obtain rfl := Option.some.inj h
    have hm : vm.connectionMode = .wifi := hs.busy (Or.inr (by
      change vm.worker.connects = true
      rw [hw]
      rfl))
    exact settled_beginHunt hs List.suffix_rfl hm targetDevice
  · cases h

/-- The queue goes on and posts no word of a connection. -/
theorem settled_posted {blocks : List Block} {wrapper : Option (VehicleSimWrapper ν)}
    {worker : Worker} (hs : vm.control.Settled)
    (hquiet : ∀ block ∈ blocks, block.announces = false)
    (hb : worker.connects = true → vm.connectionMode = .wifi)
    (hg : worker.goesOn = true → vm.connectionState ≠ .connected) :
    ({ vm.post blocks with wrapper, worker } : WifiViewModel ν).control.Settled := by
  rw [control_worked hquiet]
  exact hs.worked List.suffix_rfl hb hg

/-- The queue has connected and posts word of it. -/
theorem settled_announced {blocks : List Block} {wrapper : Option (VehicleSimWrapper ν)}
    {worker : Worker} (hs : vm.control.Settled) (hr : ¬ vm.control.RetryAhead)
    (hb : worker.connects = false) :
    ({ vm.post blocks with wrapper, worker } : WifiViewModel ν).control.Settled := by
  rw [control_posted]
  exact hs.announce hr _ hb

theorem settled_connectEnd {success : Bool} (hs : vm.control.Settled)
    (ho : success = true → ¬ vm.control.RetryAhead) (h : vm.connectEnd success = some vm') :
    vm'.control.Settled := by
  unfold connectEnd at h
  split at h
  · split at h
    · next hsuccess =>
      obtain rfl := Option.some.inj h
      exact settled_announced hs (ho hsuccess) rfl
    · obtain rfl := Option.some.inj h
      exact settled_posted hs (by simp [Block.announces]) nofun nofun
  · split at h
    · next hsuccess =>
      obtain rfl := Option.some.inj h
      exact settled_announced hs (ho hsuccess) rfl
    · obtain rfl := Option.some.inj h
      exact settled_posted hs (by simp [Block.announces]) nofun nofun
  · cases h

theorem settled_proceed (hs : vm.control.Settled) (h : vm.proceed = some vm') :
    vm'.control.Settled := by
  unfold proceed at h
  split at h
  · split at h
    · obtain rfl := Option.some.inj h
      exact settled_posted hs (by simp [Block.announces]) nofun nofun
    · obtain rfl := Option.some.inj h
      exact hs.worked List.suffix_rfl nofun nofun
  · obtain rfl := Option.some.inj h
    exact settled_posted hs (by simp [Block.announces]) nofun nofun
  · next targetDevice hw =>
    obtain rfl := Option.some.inj h
    have hgoes : vm.control.worker.goesOn = true := by
      change vm.worker.goesOn = true
      rw [hw]
      rfl
    have hahead : vm.control.HuntAhead := Or.inr hgoes
    exact settled_posted hs (by simp [Block.announces]) (fun _ => hs.busy hahead.busy)
      fun _ => hs.hunting hahead
  · obtain rfl := Option.some.inj h
    exact settled_posted hs (by simp [Block.announces]) nofun nofun
  · cases h

/-- An orderly step keeps what the queue relies on. -/
theorem settled_step {e : Event ν} (hs : vm.control.Settled) (ho : vm.Orderly e)
    (h : vm.step env e = some vm') : vm'.control.Settled := by
  have hkeep (hc : vm'.control = vm.control) : vm'.control.Settled := by
    rw [hc]
    exact hs
  cases e with
  | setConnectionMode mode =>
    obtain rfl := Option.some.inj h
    obtain ⟨state, next, hc, hwifi, hleft⟩ := control_setConnectionMode vm env mode
    rw [hc]
    exact hs.moved hwifi fun hm => ⟨hleft hm, ho hm⟩
  | poll =>
    rcases control_poll h with hc | hc
    · exact hkeep hc
    · exact (hs.disconnected .disconnected nofun).scheduled hc
  | reconnectTick =>
    rcases control_onReconnectCheckTimer h with hc | ⟨hne, lastAddress, haddr, hc⟩ | hc
    · exact hkeep hc
    · obtain ⟨hm, hstate⟩ := hs.pending hne
      have haddr' : vm.control.lastConnectedAddress ≠ none := haddr.trans_ne nofun
      rw [hc]
      refine hs.retry hm ?_ lastAddress
      rw [Control.Live, not_or, not_not]
      exact ⟨hstate.resolve_right haddr', ho hne haddr'⟩
    · exact hs.scheduled hc
  | discovered esp32 =>
    obtain rfl := Option.some.inj h
    rcases control_onDiscovered vm esp32 with hc | ⟨hm, hc⟩
    · exact hkeep hc
    · rw [hc]
      exact hs.hunt hm esp32
  | discoveryError =>
    obtain rfl := Option.some.inj h
    exact hkeep control_scheduleDiscoveryRetry
  | discoveryRetry =>
    obtain rfl := Option.some.inj h
    exact hkeep control_onDiscoveryRetryTimer
  | resumeDiscovery =>
    obtain rfl := Option.some.inj h
    exact hkeep control_resumeDiscoveryIfNeeded
  | pauseDiscovery =>
    obtain rfl := Option.some.inj h
    exact hkeep control_pauseDiscoveryIfNeeded
  | connectToESP32 esp32 =>
    obtain rfl := Option.some.inj h
    rcases control_connectToESP32 vm esp32 with hc | ⟨hw, hadmits, hc⟩
    · exact hkeep hc
    · rw [hc]
      exact hs.hunt (ho hw hadmits) esp32
  | connectToDevice device =>
    obtain rfl := Option.some.inj h
    exact hkeep (control_connectToDevice device)
  | startBLE =>
    obtain rfl := Option.some.inj h
    unfold startBLE
    split
    · exact hs
    · exact hs.disconnected .connecting nofun
  | stop =>
    obtain rfl := Option.some.inj h
    exact (hs.disconnected .disconnected nofun).scheduled ⟨none, rfl, fun hne => absurd rfl hne⟩
  | disconnect =>
    obtain rfl := Option.some.inj h
    rw [control_disconnect]
    exact (hs.disconnected .disconnected nofun).scheduled ⟨none, rfl, fun hne => absurd rfl hne⟩
  | runBlock => exact settled_runBlock hs ho h
  | connectStart => exact settled_connectStart hs h
  | connectEnd success => exact settled_connectEnd hs ho h
  | proceed => exact settled_proceed hs h
  | bleConnectStart device => exact hkeep (control_bleConnectStart h)
  | bleConnectEnd device success =>
    rw [control_bleConnectEnd h]
    cases success with
    | true => exact hs.announced (ho rfl) _
    | false =>
      rw [if_neg Bool.false_ne_true, List.append_nil]
      exact hs
  | frame _ | pipelineEnd =>
    obtain rfl := Option.some.inj h
    exact hs

end Steps

section Wanted

/-- A block that makes an app connected. -/
def Connects (ν : Type) (block : Block) : Prop :=
  ∃ (vm vm' : WifiViewModel ν) (env : Surroundings), vm.connectionState ≠ .connected ∧
    vm.onBlock env block = some vm' ∧ vm'.connectionState = .connected

/-- A step does no background work that is not wanted: a tick hands a retry to the queue, and a
hunt begins to connect, only in WiFi mode and while the app is not connected; a retry begins to
connect, and so stops what runs, only in WiFi mode and while no connection stands, announced or not;
a connection that ends in another mode posts nothing that makes the app connected. -/
structure Wanted (vm : WifiViewModel ν) (e : Event ν) (vm' : WifiViewModel ν) : Prop where
  tick : e = .reconnectTick → vm'.operations ≠ vm.operations →
    vm.connectionMode = .wifi ∧ vm.connectionState ≠ .connected
  iteration : ∀ targetDevice, e = .connectStart → vm'.worker = .connecting targetDevice →
    vm.connectionMode = .wifi ∧ vm.connectionState ≠ .connected
  retry : ∀ lastAddress, e = .connectStart → vm'.worker = .reconnecting lastAddress →
    vm.connectionMode = .wifi ∧ vm.connectionState ≠ .connected ∧
      ∀ block ∈ vm.blocks, ¬ Connects ν block
  ending : ∀ success, e = .connectEnd success → vm.connectionMode ≠ .wifi →
    ∀ block ∈ vm'.blocks.drop vm.blocks.length, ¬ Connects ν block

theorem wanted_tick (hs : vm.control.Settled) (h : vm.onReconnectCheckTimer env = some vm')
    (hops : vm'.operations ≠ vm.operations) :
    vm.connectionMode = .wifi ∧ vm.connectionState ≠ .connected := by
  rcases control_onReconnectCheckTimer h with hc | ⟨hne, lastAddress, haddr, -⟩ | ⟨next, hc, -⟩
  · exact absurd (congrArg Control.operations hc) hops
  · obtain ⟨hm, hstate⟩ := hs.pending hne
    refine ⟨hm, hstate.resolve_right fun hnone => ?_⟩
    have hno : vm.lastConnectedAddress = none := hnone
    rw [haddr] at hno
    cases hno
  · exact absurd (congrArg Control.operations hc) hops

theorem wanted_iteration {targetDevice : DiscoveredESP32} (hs : vm.control.Settled)
    (h : vm.connectStart = some vm') (hw : vm'.worker = .connecting targetDevice) :
    vm.connectionMode = .wifi ∧ vm.connectionState ≠ .connected := by
  have hahead : vm.control.HuntAhead := by
    unfold connectStart at h
    split at h
    · obtain rfl := Option.some.inj h
      cases hw
    · next esp32 operations _ hops =>
      have hmem : Operation.hunt esp32 ∈ vm.operations := hops ▸ List.mem_cons_self
      exact Or.inl ⟨esp32, hmem⟩
    · next next hnext =>
      have hgoes : vm.worker.goesOn = true := by
        rw [hnext]
        rfl
      exact Or.inr hgoes
    · cases h
  exact ⟨hs.busy hahead.busy, hs.hunting hahead⟩

/-- A block that makes an app connected announces a connection. -/
theorem announces_of_connects {block : Block} (h : Connects ν block) : block.announces = true := by
  obtain ⟨vm, vm', env, hstate, hblock, hconnected⟩ := h
  have hsame (hc : vm'.control.connectionState = vm.control.connectionState) : False :=
    hstate (hc.symm.trans hconnected)
  cases block with
  | reconnected _ | hunted _ | bleConnected => rfl
  | modeCheck | authFailed _ | pauseDiscovery =>
    obtain rfl := Option.some.inj hblock
    exact (hsame rfl).elim
  | reconnectFailed =>
    obtain ⟨next, hc, -⟩ := schedules_onReconnectFailed hblock
    exact (hsame (by rw [hc])).elim
  | resumeHunt =>
    obtain rfl := Option.some.inj hblock
    exact (hsame (congrArg Control.connectionState control_onResumeHunt)).elim
  | retryDiscovery =>
    obtain rfl := Option.some.inj hblock
    exact (hsame (congrArg Control.connectionState control_onRetryDiscovery)).elim
  | findCandidate =>
    obtain rfl := Option.some.inj hblock
    refine (hsame ?_).elim
    unfold onFindCandidate
    split
    · split <;> rfl
    · rfl
  | checkAbort =>
    obtain rfl := Option.some.inj hblock
    refine (hsame ?_).elim
    unfold onCheckAbort
    split
    · split
      · rfl
      · split <;> rfl
    · rfl
  | huntFailed =>
    obtain rfl := Option.some.inj hblock
    have hdisconnected : (vm.onHuntFailed env).connectionState = .disconnected := by
      unfold onHuntFailed
      dsimp only
      split
      · exact congrArg Control.connectionState control_startESP32Discovery
      · rfl
    cases hconnected.symm.trans hdisconnected
  | bleFailed =>
    obtain rfl := Option.some.inj hblock
    cases hconnected

theorem wanted_retry {lastAddress : String} (hs : vm.control.Settled)
    (h : vm.connectStart = some vm') (hw : vm'.worker = .reconnecting lastAddress) :
    vm.connectionMode = .wifi ∧ vm.connectionState ≠ .connected ∧
      ∀ block ∈ vm.blocks, ¬ Connects ν block := by
  have hahead : vm.control.RetryAhead := by
    have hbegin (vm : WifiViewModel ν) (targetDevice : DiscoveredESP32) :
        (vm.beginHunt targetDevice).worker ≠ .reconnecting lastAddress := by
      unfold beginHunt
      split <;> nofun
    unfold connectStart at h
    split at h
    · next lastAddress' operations _ hops =>
      have hmem : Operation.reconnect lastAddress' ∈ vm.operations := hops ▸ List.mem_cons_self
      exact ⟨lastAddress', hmem⟩
    · obtain rfl := Option.some.inj h
      exact absurd hw (hbegin _ _)
    · obtain rfl := Option.some.inj h
      exact absurd hw (hbegin _ _)
    · cases h
  have hlive := hs.retrying hahead
  rw [Control.Live, not_or, not_not] at hlive
  refine ⟨hs.busy hahead.busy, hlive.1, fun block hblock hconnects => ?_⟩
  have hannounced : block ∈ vm.control.announced :=
    List.mem_filter.mpr ⟨hblock, announces_of_connects hconnects⟩
  rw [hlive.2] at hannounced
  cases hannounced

theorem wanted_ending {success : Bool} (hs : vm.control.Settled)
    (h : vm.connectEnd success = some vm') : vm.connectionMode = .wifi := by
  have hconnects : vm.worker.connects = true := by
    unfold connectEnd at h
    split at h
    · next hw =>
      rw [hw]
      rfl
    · next hw =>
      rw [hw]
      rfl
    · cases h
  exact hs.busy (Or.inr hconnects)

theorem wanted_step {e : Event ν} (hs : vm.control.Settled) (h : vm.step env e = some vm') :
    vm.Wanted e vm' := by
  constructor
  · rintro rfl hops
    exact wanted_tick hs h hops
  · rintro targetDevice rfl hw
    exact wanted_iteration hs h hw
  · rintro lastAddress rfl hw
    exact wanted_retry hs h hw
  · rintro success rfl hm
    exact absurd (wanted_ending hs h) hm

end Wanted

end WifiViewModel

namespace Launch

variable {ν : Type} (launch : Launch ν)

theorem settled_viewModel : launch.viewModel.control.Settled := by
  constructor
  · exact fun h => absurd rfl h
  · rintro (h | h)
    · exact absurd rfl h
    · cases h
  · exact fun _ => nofun
  · rintro ⟨lastAddress, h⟩
    cases h

/-- A property of each step of a run: of the app, the event, and the app after it. -/
def OnSteps (P : WifiViewModel ν → Event ν → WifiViewModel ν → Prop)
    (events : List (Surroundings × Event ν)) : Prop :=
  EverySplit (fun u e => ∀ vm vm', launch.reached u = some vm → vm.step e.1 e.2 = some vm' →
    P vm e.2 vm') events

/-- What the last step of a run comes to has the property. -/
theorem onSteps_last {P : WifiViewModel ν → Event ν → WifiViewModel ν → Prop}
    {events : List (Surroundings × Event ν)} {env : Surroundings} {e : Event ν} {β : Type}
    {f : WifiViewModel ν → WifiViewModel ν → β} {b : β}
    (h : launch.OnSteps P (events ++ [(env, e)]))
    (hrun : ((launch.reached events).bind fun vm => (vm.step env e).map (f vm)) = some b) :
    ∃ vm vm', P vm e vm' ∧ f vm vm' = b := by
  obtain ⟨vm, hvm, hstep⟩ := Option.bind_eq_some_iff.mp hrun
  obtain ⟨vm', hvm', hfacts⟩ := Option.map_eq_some_iff.mp hstep
  exact ⟨vm, vm', (everySplit_concat.mp h).2 vm vm' hvm hvm', hfacts⟩

theorem settled_reached {events : List (Surroundings × Event ν)}
    (h : launch.OnSteps (fun vm e _ => vm.Orderly e) events) {vm : WifiViewModel ν}
    (hvm : launch.reached events = some vm) : vm.control.Settled := by
  induction events using List.reverseRecOn generalizing vm with
  | nil =>
    obtain rfl := Option.some.inj hvm
    exact launch.settled_viewModel
  | append_singleton events e ih =>
    obtain ⟨hevents, he⟩ := everySplit_concat.mp h
    rw [reached_concat] at hvm
    obtain ⟨before, hbefore, hstep⟩ := Option.bind_eq_some_iff.mp hvm
    exact WifiViewModel.settled_step (ih hevents hbefore) (he before vm hbefore hstep) hstep

/-- The background work of an orderly run is wanted. -/
theorem wanted_of_orderly {events : List (Surroundings × Event ν)}
    (h : launch.OnSteps (fun vm e _ => vm.Orderly e) events) :
    launch.OnSteps WifiViewModel.Wanted events := by
  rintro u e v rfl vm vm' hvm hstep
  have hu : launch.OnSteps (fun vm e _ => vm.Orderly e) u :=
    EverySplit.of_prefix h (List.prefix_append u (e :: v))
  exact WifiViewModel.wanted_step (launch.settled_reached hu hvm) hstep

end Launch

section Bench

/-- A phone that has never connected, in BLE mode. -/
def phone : Launch ℕ where
  connectionMode := .ble
  lastConnectedDeviceId := none
  wifiSecurityPolicy := {}
  wrapper := ⟨none, false, none, none, none⟩
  livenessProbe := ⟨1000, 0⟩

/-- The clocks at a time, while listeners can be started. -/
def clock (ms : ℕ) : Surroundings where
  now := ms
  heartbeatMs := ms.toUInt64
  nowMs := ms.toUInt64
  scheduleMs := ms.toUInt64
  listenerStarts := true

def bridge : DiscoveredESP32 := ⟨[7], "192.168.4.1", 3333⟩

/-- The app enters WiFi mode, discovers the bridge and connects to it. -/
def session : List (Surroundings × Event ℕ) :=
  [(clock 0, .setConnectionMode .wifi), (clock 0, .discovered bridge), (clock 0, .connectStart),
    (clock 0, .connectEnd true), (clock 0, .runBlock), (clock 0, .runBlock)]

/-- The connection gets lost, and the first retry connects again. -/
def resumption : List (Surroundings × Event ℕ) :=
  [(clock 100, .pipelineEnd), (clock 200, .poll), (clock 1200, .reconnectTick),
    (clock 1200, .connectStart), (clock 1300, .connectEnd true), (clock 1300, .runBlock)]

/-- The connection gets lost; a retry fails, and another one is scheduled; discovery finds the
bridge again, and a hunt begins to connect to it. -/
def lost : List (Surroundings × Event ℕ) :=
  [(clock 100, .pipelineEnd), (clock 200, .poll), (clock 1200, .reconnectTick),
    (clock 1200, .connectStart), (clock 1300, .connectEnd false), (clock 1300, .runBlock),
    (clock 1400, .discovered bridge), (clock 1400, .connectStart)]

/-- The hunt connects. -/
def reconnection : List (Surroundings × Event ℕ) :=
  lost ++ [(clock 1500, .connectEnd true), (clock 1500, .runBlock), (clock 1500, .runBlock)]

/-- The retry comes due before the hunt connects, and waits behind it. -/
def overtaken : List (Surroundings × Event ℕ) :=
  lost ++ [(clock 3300, .reconnectTick), (clock 3400, .connectEnd true), (clock 3400, .runBlock),
    (clock 3400, .runBlock)]

/-- A queue on which nothing waits has neither a retry nor a hunt ahead. -/
theorem alone_of_idle {vm : WifiViewModel ℕ} (hops : vm.operations = [])
    (hworker : vm.worker.goesOn = false) :
    ¬ vm.control.RetryAhead ∧ ¬ vm.control.HuntAhead := by
  have hno : ∀ operation, operation ∉ vm.operations := by simp [hops]
  constructor
  · rintro ⟨lastAddress, h⟩
    exact hno _ h
  · rintro (⟨esp32, h⟩ | h)
    · exact hno _ h
    · exact Bool.false_ne_true (hworker.symm.trans h)

/-- What the steps of a session that are not free find. -/
theorem session_states :
    (phone.reached (session.take 3)).map (fun vm => (vm.operations, vm.worker.goesOn)) =
      some ([], false) ∧
    (phone.reached (session.take 4)).map (fun vm => vm.blocks.head?) = some (some .modeCheck) ∧
    (phone.reached (session.take 5)).map (fun vm => (vm.blocks.head?, vm.nextReconnectFireTimeMs,
      vm.operations, vm.worker.goesOn)) = some (some (.hunted bridge), none, [], false) ∧
    (phone.reached (session ++ resumption.take 2)).map (fun vm => vm.control.announced) =
      some [] ∧
    (phone.reached (session ++ resumption.take 4)).map (fun vm =>
      (vm.operations, vm.worker.goesOn)) = some ([], false) ∧
    (phone.reached (session ++ resumption.take 5)).map (fun vm => (vm.blocks.head?, vm.operations,
      vm.worker.goesOn)) = some (some (.reconnected "192.168.4.1:3333"), [], false) := by
  decide +kernel

theorem session_orderly : phone.OnSteps (fun vm e _ => vm.Orderly e) (session ++ resumption) := by
  obtain ⟨h₃, h₄, h₅, h₈, h₁₀, h₁₁⟩ := session_states
  have hreached {w : List (Surroundings × Event ℕ)} {β : Type} {f : WifiViewModel ℕ → β} {b : β}
      (h : (phone.reached w).map f = some b) {vm : WifiViewModel ℕ}
      (hvm : phone.reached w = some vm) : f vm = b := by
    rw [hvm] at h
    exact Option.some.inj h
  simp only [Launch.OnSteps, session, resumption, List.cons_append, List.nil_append,
    everySplit_cons, everySplit_nil, and_true]
  refine ⟨fun _ _ _ _ hne => absurd rfl hne, fun _ _ _ _ => trivial, fun _ _ _ _ => trivial,
    fun vm _ hvm _ _ => ?_, fun vm _ hvm _ => ?_, fun vm _ hvm _ => ?_, fun _ _ _ _ => trivial,
    fun _ _ _ _ => trivial, fun vm _ hvm _ _ _ => hreached h₈ hvm, fun _ _ _ _ => trivial,
    fun vm _ hvm _ _ => ?_, fun vm _ hvm _ => ?_⟩
  · obtain ⟨hops, hworker⟩ := Prod.mk.inj (hreached h₃ hvm)
    exact (alone_of_idle hops hworker).1
  · simp only [WifiViewModel.Orderly, hreached h₄ hvm]
  · have hfacts := hreached h₅ hvm
    simp only [Prod.mk.injEq] at hfacts
    obtain ⟨hblocks, hnext, hops, hworker⟩ := hfacts
    simp only [WifiViewModel.Orderly, hblocks]
    exact ⟨hnext, (alone_of_idle hops hworker).2⟩
  · obtain ⟨hops, hworker⟩ := Prod.mk.inj (hreached h₁₀ hvm)
    exact (alone_of_idle hops hworker).1
  · have hfacts := hreached h₁₁ hvm
    simp only [Prod.mk.injEq] at hfacts
    obtain ⟨hblocks, hops, hworker⟩ := hfacts
    simp only [WifiViewModel.Orderly, hblocks]
    exact (alone_of_idle hops hworker).2

/-- The work of a session from discovery over a loss to the next connection is wanted. -/
theorem session_wanted : phone.OnSteps WifiViewModel.Wanted (session ++ resumption) :=
  phone.wanted_of_orderly session_orderly

/-- A tick takes down a session that a hunt has connected; a hunt begins to connect during a
demo; a connection that ends in BLE mode makes the app connected; and a retry that waited behind a
hunt stops the session that the hunt has connected. -/
theorem not_wanted_runs :
    ¬ phone.OnSteps WifiViewModel.Wanted
        (session ++ reconnection ++ [(clock 3300, .reconnectTick)]) ∧
    ¬ phone.OnSteps WifiViewModel.Wanted
        (session.take 2 ++ [(clock 0, .setConnectionMode .demo)] ++ [(clock 0, .connectStart)]) ∧
    ¬ phone.OnSteps WifiViewModel.Wanted
        (session.take 3 ++ [(clock 0, .setConnectionMode .ble)] ++ [(clock 0, .connectEnd true)]) ∧
    (phone.reached (session.take 3 ++ [(clock 0, .setConnectionMode .ble)] ++
        [(clock 0, .connectEnd true), (clock 0, .runBlock), (clock 0, .runBlock)])).map
      (fun vm => (vm.connectionMode, vm.connectionState)) = some (.ble, .connected) ∧
    ¬ phone.OnSteps WifiViewModel.Wanted
        (session ++ overtaken ++ [(clock 3400, .connectStart)]) := by
  refine ⟨fun h => ?_, fun h => ?_, fun h => ?_, by decide +kernel, fun h => ?_⟩
  · have hrun : ((phone.reached (session ++ reconnection)).bind fun vm =>
        (vm.step (clock 3300) .reconnectTick).map fun vm' =>
          (vm.connectionState, vm'.operations.length, vm.operations.length)) =
        some (.connected, 1, 0) := by
      decide +kernel
    obtain ⟨vm, vm', hwanted, hfacts⟩ := phone.onSteps_last h hrun
    simp only [Prod.mk.injEq] at hfacts
    have hops : vm'.operations ≠ vm.operations := fun heq => by
      rw [heq] at hfacts
      omega
    exact (hwanted.tick rfl hops).2 hfacts.1
  · have hrun : ((phone.reached (session.take 2 ++ [(clock 0, .setConnectionMode .demo)])).bind
        fun vm => (vm.step (clock 0) .connectStart).map fun vm' =>
          (vm.connectionMode, vm'.worker)) = some (.demo, .connecting bridge) := by
      decide +kernel
    obtain ⟨vm, vm', hwanted, hfacts⟩ := phone.onSteps_last h hrun
    simp only [Prod.mk.injEq] at hfacts
    have hm := (hwanted.iteration bridge rfl hfacts.2).1
    rw [hfacts.1] at hm
    cases hm
  · have hrun : ((phone.reached (session.take 3 ++ [(clock 0, .setConnectionMode .ble)])).bind
        fun vm => (vm.step (clock 0) (.connectEnd true)).map fun vm' =>
          (vm.connectionMode, vm'.blocks.drop vm.blocks.length)) =
        some (.ble, [.hunted bridge]) := by
      decide +kernel
    obtain ⟨vm, vm', hwanted, hfacts⟩ := phone.onSteps_last h hrun
    simp only [Prod.mk.injEq] at hfacts
    have hm : vm.connectionMode ≠ .wifi := by
      rw [hfacts.1]
      nofun
    refine hwanted.ending true rfl hm (.hunted bridge) ?_ ?_
    · rw [hfacts.2]
      exact List.mem_cons_self
    · exact ⟨phone.viewModel, _, clock 0, nofun, rfl, rfl⟩
  · have hrun : ((phone.reached (session ++ overtaken)).bind fun vm =>
        (vm.step (clock 3400) .connectStart).map fun vm' => (vm.connectionState, vm'.worker)) =
        some (.connected, .reconnecting "192.168.4.1:3333") := by
      decide +kernel
    obtain ⟨vm, vm', hwanted, hfacts⟩ := phone.onSteps_last h hrun
    simp only [Prod.mk.injEq] at hfacts
    exact (hwanted.retry _ rfl hfacts.2).2.1 hfacts.1

end Bench

end VehicleSpy.Ios
