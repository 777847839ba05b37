import VehicleSpy.Ios.VehicleViewModel
import VehicleSpy.Machine.Prefixes

/-! # Liveness of a TCP session

Over TCP nothing feeds the vehicle detector, so the heartbeat stays where polling started.
A poll then finds the session lost as soon as the clock reads a second more, whatever the
pipeline decodes, and traps as soon as the clock reads less.
-/

namespace VehicleSpy.Ios

open Machine

variable {ν : Type}

/-- The app at the moment a TCP connection has succeeded and polling starts. -/
structure TcpSession (ν : Type) where
  viewModel : VehicleViewModel ν
  wrapper : VehicleSimWrapper ν
  latestSignal : Telemetry ν
  startedAt : ℕ
  startedMs : UInt64
  attached : viewModel.wrapper = some wrapper
  wifi : viewModel.connectionMode = .wifi
  connected : viewModel.connectionState = .connected
  production : viewModel.livenessProbe.timeoutMs = 1000
  running : wrapper.signalSource = some (.tcp true latestSignal)
  noBle : wrapper.bleConnected = false

/-- What happens at a steady-clock time: the pipeline decodes a frame or ends, the polling
timer fires and reads the app's clock for the heartbeat and for the check, or nothing. -/
inductive SessionEvent (ν : Type) where
  | frame (t : ℕ) (signal : Telemetry ν)
  | pipelineEnd (t : ℕ)
  | poll (t : ℕ) (heartbeatMs livenessMs : UInt64)
  | wait (t : ℕ)

def SessionEvent.time : SessionEvent ν → ℕ
  | .frame t _ => t
  | .pipelineEnd t => t
  | .poll t _ _ => t
  | .wait t => t

def VehicleViewModel.onEvent (vm : VehicleViewModel ν) :
    SessionEvent ν → Option (VehicleViewModel ν)
  | .frame _ signal => some { vm with wrapper := vm.wrapper.map (·.onSample signal) }
  | .pipelineEnd _ => some { vm with wrapper := vm.wrapper.map (·.onPipelineEnd) }
  | .poll t heartbeatMs livenessMs => vm.poll t heartbeatMs livenessMs
  | .wait _ => some vm

namespace TcpSession

/-- The app after the events, unless it has trapped. -/
def reached (s : TcpSession ν) (events : List (SessionEvent ν)) :
    Option (VehicleViewModel ν) :=
  events.foldl (fun vm e => vm.bind (·.onEvent e)) (some (s.viewModel.startPolling s.startedMs))

/-- The heartbeat after an event: a poll records its reading while the detector still has a
fresh frame. -/
def beat (s : TcpSession ν) (last : UInt64) : SessionEvent ν → UInt64
  | .poll t heartbeatMs _ => if s.wrapper.isReceivingData t then heartbeatMs else last
  | _ => last

/-- The reading that the last heartbeat recorded. -/
def lastHeartbeat (s : TcpSession ν) (events : List (SessionEvent ν)) : UInt64 :=
  events.foldl s.beat s.startedMs

variable {s : TcpSession ν} {u v : List (SessionEvent ν)} {e : SessionEvent ν}
  {vm : VehicleViewModel ν}

@[simp] theorem reached_concat :
    s.reached (u ++ [e]) = (s.reached u).bind (·.onEvent e) := by
  simp [reached, List.foldl_append]

theorem lastHeartbeat_concat :
    s.lastHeartbeat (u ++ [e]) = s.beat (s.lastHeartbeat u) e := by
  simp [lastHeartbeat, List.foldl_append]

end TcpSession

section Inputs

variable (s : TcpSession ν) (u : List (SessionEvent ν))

def PipelineEnded : Prop := ∃ t, SessionEvent.pipelineEnd t ∈ u

/-- The event is a poll whose clock reads before the last heartbeat. -/
def Underflows : SessionEvent ν → Prop
  | .poll t heartbeatMs livenessMs =>
    livenessMs < s.lastHeartbeat (u ++ [.poll t heartbeatMs livenessMs])
  | _ => False

/-- The event is a poll after the end of the pipeline, or one whose clock reads a second after
the last heartbeat. -/
def Loses : SessionEvent ν → Prop
  | .poll t heartbeatMs livenessMs => PipelineEnded u ∨
    (s.lastHeartbeat (u ++ [.poll t heartbeatMs livenessMs])).toNat + 1000 ≤ livenessMs.toNat
  | _ => False

/-- No poll so far has found the session lost. -/
def Live : Prop := EverySplit (fun x e => ¬ Loses s x e) u

/-- No poll of the live session has read a clock before its last heartbeat. -/
def Sound : Prop := EverySplit (fun x e => Live s x → ¬ Underflows s x e) u

/-- The time of the last event. -/
def now : ℕ := (u.getLast?.map (·.time)).getD s.startedAt

/-- The events are in the order of time, and a poll is among them at least every 200 ms. -/
structure Regular : Prop where
  ordered : u.Pairwise (·.time ≤ ·.time)
  started : ∀ e ∈ u, s.startedAt ≤ e.time
  polled : ∀ a, s.startedAt ≤ a → a + 200 < now s u →
    ∃ t h c, .poll t h c ∈ u ∧ a < t ∧ t ≤ a + 200

/-- The pipeline runs and has decoded a frame in every interval of 500 ms. -/
structure Healthy : Prop where
  running : ¬ PipelineEnded u
  decoding : ∀ a, s.startedAt ≤ a → a + 500 ≤ now s u →
    ∃ t signal, .frame t signal ∈ u ∧ a ≤ t ∧ t < a + 500

/-- No frame has been decoded for 2500 ms. -/
structure Silent : Prop where
  lasting : s.startedAt + 2500 ≤ now s u
  quiet : ∀ t signal, .frame t signal ∈ u → t + 2500 ≤ now s u

end Inputs

section State

variable {s : TcpSession ν} {u v : List (SessionEvent ν)} {e : SessionEvent ν}
  {vm : VehicleViewModel ν} {t : ℕ} {h c : UInt64}

/-- The app polls a connected session with the heartbeat where the events left it. -/
structure Watching (s : TcpSession ν) (u : List (SessionEvent ν)) (vm : VehicleViewModel ν) :
    Prop where
  wifi : vm.connectionMode = .wifi
  connected : vm.connectionState = .connected
  polling : vm.updateTimer = true
  probe : vm.livenessProbe = ⟨1000, s.lastHeartbeat u⟩
  wrapper : ∃ w running signal, vm.wrapper = some w ∧
    w.signalSource = some (.tcp running signal) ∧ (running = true ↔ ¬ PipelineEnded u) ∧
    w.bleConnected = false ∧ w.lastFrameTime = s.wrapper.lastFrameTime

/-- The app has disconnected, no longer polls, and waits for its next reconnect. -/
structure Lost (vm : VehicleViewModel ν) : Prop where
  disconnected : vm.connectionState = .disconnected
  stopped : vm.updateTimer = false
  reconnecting : vm.reconnectCheckTimer = true

theorem watching_start (s : TcpSession ν) :
    Watching s [] (s.viewModel.startPolling s.startedMs) := by
  constructor
  · exact s.wifi
  · exact s.connected
  · rfl
  · rw [← s.production]
    rfl
  · exact ⟨s.wrapper, true, s.latestSignal, s.attached, s.running, by simp [PipelineEnded],
      s.noBle, rfl⟩

theorem pipelineEnded_concat :
    PipelineEnded (u ++ [e]) ↔ PipelineEnded u ∨ ∃ t, e = .pipelineEnd t := by
  simp only [PipelineEnded, List.mem_append, List.mem_singleton, exists_or,
    eq_comm (a := SessionEvent.pipelineEnd _)]

theorem Watching.frame {signal : Telemetry ν} (hw : Watching s u vm) :
    Watching s (u ++ [.frame t signal])
      { vm with wrapper := vm.wrapper.map (·.onSample signal) } := by
  obtain ⟨w, running, signal', hvm, hsrc, hrun, hble, hlast⟩ := hw.wrapper
  constructor
  · exact hw.wifi
  · exact hw.connected
  · exact hw.polling
  · rw [hw.probe, TcpSession.lastHeartbeat_concat]
    rfl
  · have hend : PipelineEnded (u ++ [.frame t signal]) ↔ PipelineEnded u := by
      simp [pipelineEnded_concat]
    cases running with
    | true =>
      exact ⟨{ w with signalSource := some (.tcp true signal) }, true, signal,
        by simp [hvm, VehicleSimWrapper.onSample, hsrc], rfl, by rw [hend, hrun], hble, hlast⟩
    | false =>
      exact ⟨w, false, signal', by simp [hvm, VehicleSimWrapper.onSample, hsrc], hsrc,
        by rw [hend, hrun], hble, hlast⟩

theorem Watching.pipelineEnd (hw : Watching s u vm) :
    Watching s (u ++ [.pipelineEnd t])
      { vm with wrapper := vm.wrapper.map (·.onPipelineEnd) } := by
  obtain ⟨w, running, signal, hvm, hsrc, -, hble, hlast⟩ := hw.wrapper
  constructor
  · exact hw.wifi
  · exact hw.connected
  · exact hw.polling
  · rw [hw.probe, TcpSession.lastHeartbeat_concat]
    rfl
  · exact ⟨{ w with signalSource := some (.tcp false signal) }, false, signal,
      by simp [hvm, VehicleSimWrapper.onPipelineEnd, hsrc], rfl,
      by simp [pipelineEnded_concat], hble, hlast⟩

theorem Watching.wait (hw : Watching s u vm) : Watching s (u ++ [.wait t]) vm := by
  constructor
  · exact hw.wifi
  · exact hw.connected
  · exact hw.polling
  · rw [hw.probe, TcpSession.lastHeartbeat_concat]
    rfl
  · simpa [pipelineEnded_concat] using hw.wrapper

/-- Copying the telemetry leaves the session watched, with the poll's own heartbeat. -/
theorem Watching.updateTelemetry (hw : Watching s u vm) :
    Watching s (u ++ [.poll t h c]) (vm.updateTelemetry t h) := by
  obtain ⟨w, running, signal, hvm, hsrc, hrun, hble, hlast⟩ := hw.wrapper
  have hrecv : w.isReceivingData t = s.wrapper.isReceivingData t := by
    simp only [VehicleSimWrapper.isReceivingData, hlast]
  have hend : PipelineEnded (u ++ [.poll t h c]) ↔ PipelineEnded u := by
    simp [pipelineEnded_concat]
  have hbeat : s.lastHeartbeat (u ++ [.poll t h c]) =
      if s.wrapper.isReceivingData t then h else s.lastHeartbeat u :=
    TcpSession.lastHeartbeat_concat
  simp only [VehicleViewModel.updateTelemetry, hvm, hrecv]
  constructor
  · split <;> exact hw.wifi
  · split <;> exact hw.connected
  · split <;> exact hw.polling
  · rw [hbeat]
    split
    · rw [hw.probe]
      rfl
    · exact hw.probe
  · rw [hend]
    refine ⟨w, running, signal, ?_, hsrc, hrun, hble, hlast⟩
    split <;> rfl

theorem lost_dropConnection (hw : Watching s u vm) (w : VehicleSimWrapper ν) :
    Lost (vm.dropConnection w) := by
  simp only [VehicleViewModel.dropConnection, VehicleViewModel.startReconnectLoop,
    VehicleViewModel.stopReconnectLoop, VehicleViewModel.scheduleReconnect,
    VehicleViewModel.stopUpdates, hw.wifi, true_and, reduceCtorEq, ne_eq, not_false_eq_true,
    if_true]
  exact ⟨rfl, rfl, rfl⟩

/-- What the check at the end of a poll makes of a watched session. -/
theorem Watching.checkConnectionLiveness (hw : Watching s (u ++ [.poll t h c]) vm) :
    Underflows s u (.poll t h c) ∧ vm.checkConnectionLiveness c = none ∨
    ¬ Underflows s u (.poll t h c) ∧ Loses s u (.poll t h c) ∧
      (∃ vm', vm.checkConnectionLiveness c = some vm' ∧ Lost vm') ∨
    ¬ Underflows s u (.poll t h c) ∧ ¬ Loses s u (.poll t h c) ∧
      vm.checkConnectionLiveness c = some vm := by
  obtain ⟨w, running, signal, hvm, hsrc, hrun, hble, hlast⟩ := hw.wrapper
  have halive : w.isConnectionAlive = running := by
    simp [VehicleSimWrapper.isConnectionAlive, hble, hsrc]
  have hend : running = true ↔ ¬ PipelineEnded u := by
    rw [hrun, pipelineEnded_concat]
    simp
  simp only [VehicleViewModel.checkConnectionLiveness, hvm, hw.wifi, hw.connected, and_self,
    if_true, halive, hw.probe, HeartbeatLiveness.isConnectionStale, Underflows, Loses]
  generalize s.lastHeartbeat (u ++ [.poll t h c]) = last
  by_cases hc : c < last
  · exact Or.inl ⟨hc, by rw [if_pos hc]⟩
  · right
    have hage : (1000 : UInt64) ≤ c - last ↔ last.toNat + 1000 ≤ c.toNat := by
      rw [UInt64.le_iff_toNat_le, UInt64.toNat_sub_of_le _ _ (UInt64.not_lt.mp hc)]
      have hle := UInt64.le_iff_toNat_le.mp (UInt64.not_lt.mp hc)
      change 1000 ≤ _ ↔ _
      omega
    have hverdict : ((!running) || decide ((1000 : UInt64) ≤ c - last)) = true ↔
        PipelineEnded u ∨ last.toNat + 1000 ≤ c.toNat := by
      rw [Bool.or_eq_true, decide_eq_true_eq, hage, Bool.not_eq_true', ← Bool.not_eq_true, hend,
        not_not]
    simp only [if_neg hc]
    by_cases hl : PipelineEnded u ∨ last.toNat + 1000 ≤ c.toNat
    · rw [if_pos (hverdict.mpr hl)]
      exact Or.inl ⟨hc, hl, _, rfl, lost_dropConnection hw w⟩
    · rw [if_neg (mt hverdict.mp hl)]
      exact Or.inr ⟨hc, hl, rfl⟩

theorem Lost.onEvent (hl : Lost vm) : ∃ vm', vm.onEvent e = some vm' ∧ Lost vm' := by
  obtain ⟨hd, hs, hr⟩ := hl
  cases e with
  | frame t signal => exact ⟨_, rfl, hd, hs, hr⟩
  | pipelineEnd t => exact ⟨_, rfl, hd, hs, hr⟩
  | poll t h c => exact ⟨vm, by simp [VehicleViewModel.onEvent, VehicleViewModel.poll, hs],
      hd, hs, hr⟩
  | wait t => exact ⟨vm, rfl, hd, hs, hr⟩

/-- One event of a watched session: it traps, is lost, or stays watched. -/
theorem Watching.onEvent (hw : Watching s u vm) (e : SessionEvent ν) :
    Underflows s u e ∧ vm.onEvent e = none ∨
    ¬ Underflows s u e ∧ Loses s u e ∧ (∃ vm', vm.onEvent e = some vm' ∧ Lost vm') ∨
    ¬ Underflows s u e ∧ ¬ Loses s u e ∧
      (∃ vm', vm.onEvent e = some vm' ∧ Watching s (u ++ [e]) vm') := by
  cases e with
  | frame t signal => exact Or.inr (Or.inr ⟨id, id, _, rfl, hw.frame⟩)
  | pipelineEnd t => exact Or.inr (Or.inr ⟨id, id, _, rfl, hw.pipelineEnd⟩)
  | wait t => exact Or.inr (Or.inr ⟨id, id, _, rfl, hw.wait⟩)
  | poll t h c =>
    have hpoll : vm.onEvent (.poll t h c) =
        (vm.updateTelemetry t h).checkConnectionLiveness c := by
      simp only [VehicleViewModel.onEvent, VehicleViewModel.poll, hw.polling, if_true]
    rw [hpoll]
    have hw' : Watching s (u ++ [.poll t h c]) (vm.updateTelemetry t h) := hw.updateTelemetry
    rcases hw'.checkConnectionLiveness with h | h | ⟨hu, hl, hc⟩
    · exact Or.inl h
    · exact Or.inr (Or.inl h)
    · exact Or.inr (Or.inr ⟨hu, hl, _, hc, hw'⟩)

end State
section Run

variable {s : TcpSession ν} {u v events : List (SessionEvent ν)} {e : SessionEvent ν}

/-- A run whose polls never underflow is watched until a poll finds it lost, and lost from
then on. -/
theorem reached_of_sound (hs : Sound s u) : ∃ vm, s.reached u = some vm ∧
    (Live s u ∧ Watching s u vm ∨ ¬ Live s u ∧ Lost vm) := by
  induction u using List.reverseRecOn with
  | nil => exact ⟨_, rfl, Or.inl ⟨everySplit_nil _, watching_start s⟩⟩
  | append_singleton u e ih =>
    obtain ⟨hs, he⟩ := everySplit_concat.mp hs
    obtain ⟨vm, hvm, ⟨hl, hw⟩ | ⟨hl, hlost⟩⟩ := ih hs
    · rw [TcpSession.reached_concat, hvm, Option.bind_some]
      rcases hw.onEvent e with ⟨hu, -⟩ | ⟨-, hloses, vm', hvm', hlost⟩ | ⟨-, hloses, vm', hvm', hw⟩
      · exact absurd hu (he hl)
      · exact ⟨vm', hvm', Or.inr ⟨fun h => (everySplit_concat.mp h).2 hloses, hlost⟩⟩
      · exact ⟨vm', hvm', Or.inl ⟨everySplit_concat.mpr ⟨hl, hloses⟩, hw⟩⟩
    · rw [TcpSession.reached_concat, hvm, Option.bind_some]
      obtain ⟨vm', hvm', hlost⟩ := hlost.onEvent (e := e)
      exact ⟨vm', hvm', Or.inr ⟨fun h => hl (everySplit_concat.mp h).1, hlost⟩⟩

/-- The run does not trap exactly when no poll of the live session underflows. -/
theorem reached_isSome_iff : (∃ vm, s.reached u = some vm) ↔ Sound s u := by
  constructor
  · induction u using List.reverseRecOn with
    | nil => exact fun _ => everySplit_nil _
    | append_singleton u e ih =>
      rintro ⟨vm', hvm'⟩
      rw [TcpSession.reached_concat] at hvm'
      obtain ⟨vm, hvm, he⟩ := Option.bind_eq_some_iff.mp hvm'
      have hs : Sound s u := ih ⟨vm, hvm⟩
      refine everySplit_concat.mpr ⟨hs, fun hl hu => ?_⟩
      obtain ⟨vm₁, hvm₁, ⟨-, hw⟩ | ⟨hn, -⟩⟩ := reached_of_sound hs
      · obtain rfl := Option.some.inj (hvm.symm.trans hvm₁)
        rcases hw.onEvent e with ⟨-, htrap⟩ | ⟨hn, -⟩ | ⟨hn, -⟩
        · rw [he] at htrap
          cases htrap
        · exact hn hu
        · exact hn hu
      · exact hn hl
  · intro h
    obtain ⟨vm, hvm, -⟩ := reached_of_sound h
    exact ⟨vm, hvm⟩

theorem now_concat : now s (u ++ [e]) = e.time := by
  simp [now]

theorem time_le_now (h : u.Pairwise (·.time ≤ ·.time)) (he : e ∈ u) : e.time ≤ now s u := by
  rcases List.eq_nil_or_concat u with rfl | ⟨w, l, rfl⟩
  · cases he
  · rw [List.concat_eq_append] at h he ⊢
    rw [now_concat]
    rcases List.mem_append.mp he with he | he
    · exact (List.pairwise_append.mp h).2.2 e he l (List.mem_singleton_self l)
    · exact Nat.le_of_eq (congrArg SessionEvent.time (List.mem_singleton.mp he))

/-- What happened before an event's time stands before it. -/
theorem mem_of_time_lt {d : SessionEvent ν} (h : (u ++ e :: v).Pairwise (·.time ≤ ·.time))
    (hd : d ∈ u ++ e :: v) (ht : d.time < e.time) : d ∈ u ++ [e] := by
  rcases List.mem_append.mp hd with hd | hd
  · exact List.mem_append_left _ hd
  · have hle : ∀ d ∈ v, e.time ≤ d.time :=
      (List.pairwise_cons.mp (List.pairwise_append.mp h).2.1).1
    rcases List.mem_cons.mp hd with rfl | hd
    · simp
    · have := hle d hd
      omega

theorem Regular.upTo (h : Regular s (u ++ e :: v)) : Regular s (u ++ [e]) := by
  have hsub : (u ++ [e]).Sublist (u ++ e :: v) :=
    List.Sublist.append_left (List.Sublist.cons_cons e (List.nil_sublist v)) u
  constructor
  · exact h.ordered.sublist hsub
  · intro d hd
    exact h.started d (hsub.subset hd)
  · intro a ha hlt
    rw [now_concat] at hlt
    have hnow : e.time ≤ now s (u ++ e :: v) := time_le_now h.ordered (by simp)
    obtain ⟨t, hb, c, hmem, hat, hta⟩ := h.polled a ha (by omega)
    refine ⟨t, hb, c, mem_of_time_lt h.ordered hmem ?_, hat, hta⟩
    change t < e.time
    omega

theorem Healthy.upTo (hr : Regular s (u ++ e :: v)) (h : Healthy s (u ++ e :: v)) :
    Healthy s (u ++ [e]) := by
  constructor
  · rintro ⟨t, ht⟩
    refine h.running ⟨t, ?_⟩
    simp only [List.mem_append, List.mem_cons, List.not_mem_nil, or_false] at ht ⊢
    exact ht.imp_right Or.inl
  · intro a ha hle
    rw [now_concat] at hle
    have hnow : e.time ≤ now s (u ++ e :: v) := time_le_now hr.ordered (by simp)
    obtain ⟨t, signal, hmem, hat, hta⟩ := h.decoding a ha (by omega)
    refine ⟨t, signal, mem_of_time_lt hr.ordered hmem ?_, hat, hta⟩
    change t < e.time
    omega

/-- The app has not trapped; a session polled in time is connected while the pipeline is
healthy, and dropped with the reconnect loop started once the pipeline has gone silent. -/
structure Kept (s : TcpSession ν) (u : List (SessionEvent ν)) : Prop where
  noTrap : ∃ vm, s.reached u = some vm
  healthy : Regular s u → Healthy s u → ∀ vm, s.reached u = some vm →
    vm.connectionState = .connected
  silent : Regular s u → Silent s u → ∀ vm, s.reached u = some vm →
    vm.connectionState = .disconnected ∧ vm.reconnectCheckTimer = true

/-- The session is kept as it should be after every event of the run. -/
def LivenessKept (s : TcpSession ν) (events : List (SessionEvent ν)) : Prop :=
  ∀ u, u <+: events → Kept s u

/-- The clock readings suit the session: none of a live session is before its last heartbeat,
those of a healthy session are less than a second after it, and a silent session has seen
one a second after it or a poll after the end of its pipeline. -/
structure ClockSuits (s : TcpSession ν) (events : List (SessionEvent ν)) : Prop where
  forward : EverySplit (fun u e => Live s u → ¬ Underflows s u e) events
  healthy : EverySplit (fun u e => Regular s (u ++ [e]) → Healthy s (u ++ [e]) →
    ¬ Loses s u e) events
  silent : ∀ u, u <+: events → Regular s u → Silent s u → ¬ Live s u

/-- A session is kept as it should be exactly while its clock readings suit it. -/
theorem livenessKept_iff : LivenessKept s events ↔ ClockSuits s events := by
  constructor
  · intro h
    constructor
    · exact reached_isSome_iff.mp (h events (List.prefix_refl events)).noTrap
    · rintro u e v rfl hr hh hloses
      have hk : Kept s (u ++ [e]) := h _ ⟨v, by simp⟩
      obtain ⟨vm, hvm, ⟨hl, -⟩ | ⟨-, hlost⟩⟩ :=
        reached_of_sound (reached_isSome_iff.mp hk.noTrap)
      · exact (everySplit_concat.mp hl).2 hloses
      · have hc := hk.healthy hr hh vm hvm
        rw [hlost.disconnected] at hc
        cases hc
    · intro u hu hr hq hl
      have hk := h u hu
      obtain ⟨vm, hvm, ⟨-, hw⟩ | ⟨hn, -⟩⟩ := reached_of_sound (reached_isSome_iff.mp hk.noTrap)
      · have hd := (hk.silent hr hq vm hvm).1
        rw [hw.connected] at hd
        cases hd
      · exact hn hl
  · intro h u hu
    have hs : Sound s u := h.forward.of_prefix hu
    obtain ⟨vm, hvm, hcases⟩ := reached_of_sound hs
    constructor
    · exact ⟨vm, hvm⟩
    · intro hr hh vm' hvm'
      obtain rfl := Option.some.inj (hvm.symm.trans hvm')
      have hl : Live s u := by
        rintro x e y rfl
        exact h.healthy.of_prefix hu x e y rfl hr.upTo (hh.upTo hr)
      rcases hcases with ⟨-, hw⟩ | ⟨hn, -⟩
      · exact hw.connected
      · exact absurd hl hn
    · intro hr hq vm' hvm'
      obtain rfl := Option.some.inj (hvm.symm.trans hvm')
      rcases hcases with ⟨hl, -⟩ | ⟨-, hlost⟩
      · exact absurd hl (h.silent u hu hr hq)
      · exact ⟨hlost.disconnected, hlost.reconnecting⟩

end Run

section Bench

/-- A first session of the app, whose detector has never seen a frame. -/
def bench : TcpSession ℕ where
  viewModel :=
    { connectionMode := .wifi, connectionState := .connected,
      connectionStatus := "Connected to ESP32", connectedDeviceName := some "ESP32 CAN Bridge",
      connectedDeviceAddress := some "tcp:192.168.4.1:3333", telemetry := {},
      updateTimer := false, reconnectCheckTimer := false, reconnectAttempt := 0,
      livenessProbe := ⟨1000, 0⟩,
      wrapper := some ⟨some (.tcp true {}), false, none, none, none⟩ }
  wrapper := ⟨some (.tcp true {}), false, none, none, none⟩
  latestSignal := {}
  startedAt := 0
  startedMs := 5000
  attached := rfl
  wifi := rfl
  connected := rfl
  production := rfl
  running := rfl
  noBle := rfl

/-- One second of a healthy session on a true clock. -/
def healthySecond : List (SessionEvent ℕ) :=
  [.poll 200 5200 5200, .frame 300 {}, .poll 400 5400 5400, .poll 600 5600 5600,
    .frame 700 {}, .poll 800 5800 5800, .poll 1000 6000 6000]

theorem regular_healthySecond : Regular bench healthySecond := by
  constructor
  · simp [healthySecond, SessionEvent.time]
  · intro e _
    exact Nat.zero_le _
  · intro a _ ha
    change a + 200 < 1000 at ha
    have hcases : a < 200 ∨ (200 ≤ a ∧ a < 400) ∨ (400 ≤ a ∧ a < 600) ∨ 600 ≤ a := by omega
    rcases hcases with h | h | h | h
    · exact ⟨200, 5200, 5200, by simp [healthySecond], by omega, by omega⟩
    · exact ⟨400, 5400, 5400, by simp [healthySecond], by omega, by omega⟩
    · exact ⟨600, 5600, 5600, by simp [healthySecond], by omega, by omega⟩
    · exact ⟨800, 5800, 5800, by simp [healthySecond], by omega, by omega⟩

theorem healthy_healthySecond : Healthy bench healthySecond := by
  constructor
  · simp [PipelineEnded, healthySecond]
  · intro a _ ha
    change a + 500 ≤ 1000 at ha
    rcases Nat.lt_or_ge 300 a with h | h
    · exact ⟨700, {}, by simp [healthySecond], by omega, by omega⟩
    · exact ⟨300, {}, by simp [healthySecond], by omega, by omega⟩

/-- The healthy session is dropped by its poll at one second, and a session whose clock steps
back by a second traps at its first poll. -/
theorem not_livenessKept_bench :
    (Regular bench healthySecond ∧ Healthy bench healthySecond ∧
      ¬ LivenessKept bench healthySecond) ∧ ¬ LivenessKept bench [.poll 100 4100 4100] := by
  refine ⟨⟨regular_healthySecond, healthy_healthySecond, fun h => ?_⟩, fun h => ?_⟩
  · have hk := h healthySecond (List.prefix_refl _)
    have hc := hk.healthy regular_healthySecond healthy_healthySecond _ rfl
    exact absurd hc (by decide)
  · obtain ⟨vm, hvm⟩ := (h _ (List.prefix_refl _)).noTrap
    cases hvm

end Bench

end VehicleSpy.Ios
