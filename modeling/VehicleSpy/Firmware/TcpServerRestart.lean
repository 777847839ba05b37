import VehicleSpy.Firmware.WiFiTicks

/-! # When the listening socket is bound again

An observer watches the connections come and go: which address the last one had, when it
was lost and what noticed it. The manager decides about the socket by its own address
record and its own stamp of the drop, which the per-tick poll makes. A drop reported by a
link-level event raises the flag by itself.
-/

namespace VehicleSpy.Firmware.TcpServerRestart

open Machine WiFiConfig WiFiManager

/-- What happens to the manager, with the clock reading at which an event is delivered. -/
inductive LinkEvent
  | update (now : UInt32) (radio : Radio)
  | onDisconnected (at_ : UInt32) (reason : ℤ)
  | clearTcpServerRestartFlag
  deriving DecidableEq, Repr

/-- What noticed a drop: the per-tick poll, an event that reports a failed authentication, or an
event with any other reason. -/
inductive Notice | poll | auth | link
  deriving DecidableEq, Repr

/-- The last connection's address, if there was one, the moment it was lost, what noticed that,
and whether an authentication failed since. -/
structure LinkRecord where
  previous : Option Text.Bytes := none
  lostAt : UInt32 := 0
  lostBy : Notice := .poll
  authSince : Bool := false
  deriving DecidableEq, Repr

/-- The manager under observation. -/
structure Watched where
  manager : WiFiManager
  record : LinkRecord := {}

def clearTcpServerRestartFlag (m : WiFiManager) : WiFiManager :=
  { m with ctx := { m.ctx with tcpServerNeedsRestart := false } }

def act (m : WiFiManager) : LinkEvent → WiFiManager × List WiFiCall
  | .update now radio => m.update now radio
  | .onDisconnected _ reason => m.onDisconnected reason
  | .clearTcpServerRestartFlag => (clearTcpServerRestartFlag m, [])

def IsConnected (m : WiFiManager) : Prop := m.ctx.state = .WIFI_CONNECTED

instance (m : WiFiManager) : Decidable (IsConnected m) :=
  inferInstanceAs (Decidable (m.ctx.state = .WIFI_CONNECTED))

/-- The step enters the connected state. -/
def Enters (m : WiFiManager) (e : LinkEvent) : Prop := ¬ IsConnected m ∧ IsConnected (act m e).1

/-- The step drops the connection. -/
def Loses (m : WiFiManager) (e : LinkEvent) : Prop := IsConnected m ∧ ¬ IsConnected (act m e).1

instance (m : WiFiManager) (e : LinkEvent) : Decidable (Enters m e) :=
  inferInstanceAs (Decidable (_ ∧ _))

instance (m : WiFiManager) (e : LinkEvent) : Decidable (Loses m e) :=
  inferInstanceAs (Decidable (_ ∧ _))

/-- The observer notes the address of a connection made and the moment of a connection lost. -/
def note (record : LinkRecord) (m : WiFiManager) (e : LinkEvent) : LinkRecord :=
  match e with
  | .update now radio =>
    if Enters m e then { record with previous := some radio.localIP }
    else if Loses m e then { record with lostAt := now, lostBy := .poll, authSince := false }
    else record
  | .onDisconnected at_ reason =>
    let auth := isAuthMechanismFailure reason
    if Loses m e then
      { record with lostAt := at_, lostBy := if auth then .auth else .link, authSince := auth }
    else { record with authSince := record.authSince || auth }
  | .clearTcpServerRestartFlag => record

def watch (s : Watched) (e : LinkEvent) : Watched × List WiFiCall :=
  (⟨(act s.manager e).1, note s.record s.manager e⟩, (act s.manager e).2)

/-- The socket has to be bound again: there was no connection before, the address is another
one, or the connection was lost for more than thirty seconds. -/
def Needed (record : LinkRecord) (now : UInt32) (ip : Text.Bytes) : Prop :=
  record.previous = none ∨ record.previous ≠ some ip ∨ 30000 < now - record.lostAt

instance (record : LinkRecord) (now : UInt32) (ip : Text.Bytes) :
    Decidable (Needed record now ip) := inferInstanceAs (Decidable (_ ∨ _))

/-- The watched manager after a run from its construction. -/
def watched (w : WiFiSetup) (u : List LinkEvent) : Watched := after watch ⟨⟨w, {}⟩, {}⟩ u

/-- At every entry of the run the flag is up exactly if the socket has to be bound again. -/
def ReboundAsNeeded (w : WiFiSetup) (events : List LinkEvent) : Prop :=
  ∀ u now radio v, events = u ++ .update now radio :: v →
    Enters (watched w u).manager (.update now radio) →
    (((watched w u).manager.update now radio).1.ctx.tcpServerNeedsRestart = true ↔
      Needed (watched w u).record now radio.localIP)

/-- The flag is cleared after each connect: it is down when the connection is lost, and it is
cleared at no other time than while connected. -/
def Cleared (s : Watched) (e : LinkEvent) : Prop :=
  (Loses s.manager e → s.manager.ctx.tcpServerNeedsRestart = false) ∧
    (e = .clearTcpServerRestartFlag → IsConnected s.manager)

instance (s : Watched) (e : LinkEvent) : Decidable (Cleared s e) :=
  inferInstanceAs (Decidable (_ ∧ _))

/-- When the flag is up at an entry: always for a first connection or another address; for the
same address, after a drop that the poll noticed if it lasted more than thirty seconds, and
always after a drop that a link-level event reported. -/
structure RebindRule (record : LinkRecord) (now : UInt32) (ip : Text.Bytes) (flag : Bool) :
    Prop where
  moved : record.previous ≠ some ip ∨ ip = [] → flag = true
  polled : record.previous = some ip → ip ≠ [] → record.lostBy = .poll → record.lostAt ≠ 0 →
    (flag = true ↔ 30000 < now - record.lostAt)
  linked : record.previous = some ip → record.lostBy = .link → record.authSince = false →
    flag = true

/-- Every entry of the run follows the rule. -/
def ReboundByRule (w : WiFiSetup) (events : List LinkEvent) : Prop :=
  ∀ u now radio v, events = u ++ .update now radio :: v →
    Enters (watched w u).manager (.update now radio) →
    RebindRule (watched w u).record now radio.localIP
      ((watched w u).manager.update now radio).1.ctx.tcpServerNeedsRestart

/-- What a tick does to the link: it leaves it alone, makes a connection, or loses it. -/
inductive LinkMove (now : UInt32) (radio : Radio) (ctx ctx' : WiFiContext) : Prop where

  | keeps : (ctx'.state = .WIFI_CONNECTED ↔ ctx.state = .WIFI_CONNECTED) →
      ctx'.lastConnectedIp = ctx.lastConnectedIp →
      ctx'.disconnectStartMs = ctx.disconnectStartMs →
      ctx'.tcpServerNeedsRestart = ctx.tcpServerNeedsRestart → LinkMove now radio ctx ctx'

  | makes : ctx.state ≠ .WIFI_CONNECTED → ctx'.state = .WIFI_CONNECTED →
      ctx'.lastConnectedIp = radio.localIP →
      ctx'.tcpServerNeedsRestart =
        (shouldRestartTcpServerForReconnect radio.localIP ctx.lastConnectedIp
          (if 0 < ctx.disconnectStartMs then now - ctx.disconnectStartMs else 0) ||
            ctx.tcpServerNeedsRestart) → LinkMove now radio ctx ctx'

  | loses : ctx.state = .WIFI_CONNECTED → ctx'.state ≠ .WIFI_CONNECTED →
      ctx'.lastConnectedIp = ctx.lastConnectedIp → ctx'.disconnectStartMs = now →
      ctx'.tcpServerNeedsRestart = ctx.tcpServerNeedsRestart → LinkMove now radio ctx ctx'

section Step

variable {m : WiFiManager} {now : UInt32} {radio : Radio} {ctx : WiFiContext} {s : Watched}
  {e : LinkEvent}

/-- A transition between states other than the connected one does not touch the link. -/
theorem transition_apart (radio : Radio) (ctx : WiFiContext) {next : WiFiState}
    (hn : next ≠ .WIFI_CONNECTED) :
    (applyStateTransition radio ctx ⟨next, false, false⟩).1.lastConnectedIp = ctx.lastConnectedIp ∧
      (applyStateTransition radio ctx ⟨next, false, false⟩).1.tcpServerNeedsRestart =
        ctx.tcpServerNeedsRestart := by
  unfold applyStateTransition
  split
  · exact ⟨rfl, rfl⟩
  · dsimp only
    exact ⟨rfl, rfl⟩

/-- A campaign is not active while the machine is connected. -/
def Settled (m : WiFiManager) : Prop := m.ctx.pendingAuthFail = true → ¬ IsConnected m

theorem linkMove_update (hm : Settled m) (now : UInt32) (radio : Radio) :
    LinkMove now radio m.ctx (m.update now radio).1.ctx := by
  have ht := tick_answer m now radio
  rw [update_eq]
  generalize m.answer now radio = r at ht
  have apart {next : WiFiState} (c : WiFiContext) (hs : m.ctx.state ≠ .WIFI_CONNECTED)
      (hn : next ≠ .WIFI_CONNECTED) (hip : c.lastConnectedIp = m.ctx.lastConnectedIp)
      (hd : c.disconnectStartMs = m.ctx.disconnectStartMs)
      (hf : c.tcpServerNeedsRestart = m.ctx.tcpServerNeedsRestart) :
      LinkMove now radio m.ctx (applyStateTransition radio c ⟨next, false, false⟩).1 := by
    obtain ⟨hip', hf'⟩ := transition_apart radio c hn
    exact .keeps (by simp [hn, hs]) (hip'.trans hip) (by simp [hd]) (hf'.trans hf)
  have stays (c : WiFiContext) (hs : c.state = m.ctx.state)
      (hip : c.lastConnectedIp = m.ctx.lastConnectedIp)
      (hd : c.disconnectStartMs = m.ctx.disconnectStartMs)
      (hf : c.tcpServerNeedsRestart = m.ctx.tcpServerNeedsRestart) :
      LinkMove now radio m.ctx (applyStateTransition radio c ⟨m.ctx.state, false, false⟩).1 := by
    rw [← hs, transition_stay]
    exact .keeps (by rw [hs]) hip hd hf
  cases ht with
  | wait => exact stays _ rfl rfl rfl rfl
  | connect hs => exact apart _ (by rw [hs]; decide) (by decide) rfl rfl rfl
  | retry => exact stays _ rfl rfl rfl rfl
  | connected h3 hs =>
    have hne : m.ctx.state ≠ .WIFI_CONNECTED := by
      rcases hs with hp | hs
      · exact hm hp
      · rw [hs]
        decide
    have hmove : WiFiState.WIFI_CONNECTED ≠ m.ctx.state := hne.symm
    refine .makes hne transition_state ?_ ?_ <;>
      simp [applyStateTransition, connectedReset, hmove]
  | dropped hs =>
    obtain ⟨hip, hf⟩ := transition_apart radio
      { m.ctx with reconnectPending := true, disconnectStartMs := now }
      (show WiFiState.WIFI_CONNECTING ≠ .WIFI_CONNECTED by decide)
    refine .loses hs ?_ hip transition_disconnectStartMs hf
    rw [transition_state]
    exact WiFiState.noConfusion
  | fallback hs hap =>
    refine apart _ ?_ ?_ rfl rfl rfl
    · rcases hs with hs | hs <;> rw [hs] <;> decide
    · rintro rfl
      cases hap
  | recover hap =>
    refine apart _ ?_ (by decide) rfl rfl rfl
    intro hs
    rw [hs] at hap
    cases hap
  | strategy => exact stays _ rfl rfl rfl rfl
  | exhausted hp => exact apart _ (hm hp) (by decide) rfl rfl rfl

theorem settled_update (hm : Settled m) (now : UInt32) (radio : Radio) :
    Settled (m.update now radio).1 := by
  have ht := tick_answer m now radio
  unfold Settled IsConnected at hm ⊢
  rw [update_eq]
  simp only [transition_state, transition_pendingAuthFail]
  generalize m.answer now radio = r at ht
  cases ht with
  | wait => exact hm
  | connect => exact fun _ => WiFiState.noConfusion
  | retry => exact hm
  | connected => exact fun hp => absurd hp Bool.false_ne_true
  | dropped => exact fun _ => WiFiState.noConfusion
  | fallback _ hap =>
    rintro - rfl
    cases hap
  | recover => exact fun _ => WiFiState.noConfusion
  | strategy => exact hm
  | exhausted => exact fun hp => absurd hp Bool.false_ne_true

theorem settled_onDisconnected (m : WiFiManager) (reason : ℤ) :
    Settled (m.onDisconnected reason).1 := by
  have hd := drop_onDisconnected m reason
  unfold Settled IsConnected
  generalize (m.onDisconnected reason).1.ctx = ctx at hd ⊢
  cases hd with
  | authLive => exact fun _ => WiFiState.noConfusion
  | auth _ hs => exact fun _ => hs
  | link => exact fun _ => WiFiState.noConfusion
  | noted hs => exact fun _ => hs

/-- The manager's own record agrees with the observer's. -/
structure Faithful (s : Watched) : Prop where
  settled : Settled s.manager
  fresh : s.record.previous = none → s.manager.ctx.lastConnectedIp = [] ∧ ¬ IsConnected s.manager
  known : ∀ ip, s.record.previous = some ip → s.manager.ctx.lastConnectedIp = ip
  polled : s.record.previous ≠ none → ¬ IsConnected s.manager → s.record.lostBy = .poll →
    s.manager.ctx.tcpServerNeedsRestart = false ∧
      s.manager.ctx.disconnectStartMs = s.record.lostAt
  linked : s.record.previous ≠ none → ¬ IsConnected s.manager → s.record.lostBy = .link →
    s.record.authSince = false → s.manager.ctx.tcpServerNeedsRestart = true

/-- With faithful records, every entry follows the rule. -/
theorem Faithful.rule (h : Faithful s) (he : Enters s.manager (.update now radio)) :
    RebindRule s.record now radio.localIP
      (s.manager.update now radio).1.ctx.tcpServerNeedsRestart := by
  obtain ⟨hout, hin⟩ := he
  cases linkMove_update h.settled now radio with
  | keeps hk => exact absurd (hk.mp hin) hout
  | loses hs => exact absurd hs hout
  | makes _ _ _ hf =>
    rw [hf]
    constructor
    · intro hmoved
      cases hp : s.record.previous with
      | none => simp [shouldRestartTcpServerForReconnect, (h.fresh hp).1]
      | some ip =>
        rw [hp, ne_eq, Option.some_inj, eq_comm] at hmoved
        rw [h.known ip hp, shouldRestartTcpServerForReconnect]
        rcases hmoved with hne | he
        · simp [hne]
        · by_cases hip : radio.localIP = ip
          · simp [← hip, he]
          · simp [hip]
    · intro hp hne hby hz
      obtain ⟨hflag, hstamp⟩ := h.polled (by simp [hp]) hout hby
      have hpos : 0 < s.record.lostAt := UInt32.pos_iff_ne_zero.mpr hz
      simp [shouldRestartTcpServerForReconnect, h.known _ hp, hflag, hstamp, hpos, hne,
        LONG_OUTAGE_MS]
    · intro hp hby hauth
      rw [h.linked (by simp [hp]) hout hby hauth, Bool.or_true]

theorem faithful_update (h : Faithful s) (hc : Cleared s (.update now radio)) :
    Faithful (watch s (.update now radio)).1 := by
  have hset := settled_update h.settled now radio
  cases linkMove_update h.settled now radio with
  | keeps hk hip hd hf =>
    have hrecord : note s.record s.manager (.update now radio) = s.record := by
      have hne : ¬ Enters s.manager (.update now radio) := fun he => he.1 (hk.mp he.2)
      have hnl : ¬ Loses s.manager (.update now radio) := fun hl => hl.2 (hk.mpr hl.1)
      simp only [note, if_neg hne, if_neg hnl]
    simp only [watch, hrecord]
    constructor
    · exact hset
    · intro hn
      exact ⟨hip.trans (h.fresh hn).1, fun hs => (h.fresh hn).2 (hk.mp hs)⟩
    · exact fun ip hi => hip.trans (h.known ip hi)
    · intro hi hs hby
      obtain ⟨hflag, hstamp⟩ := h.polled hi (fun hx => hs (hk.mpr hx)) hby
      exact ⟨hf.trans hflag, hd.trans hstamp⟩
    · exact fun hi hs hby hauth => hf.trans (h.linked hi (fun hx => hs (hk.mpr hx)) hby hauth)
  | makes hout hin hip _ =>
    have he : Enters s.manager (.update now radio) := ⟨hout, hin⟩
    simp only [watch, note, if_pos he]
    constructor
    · exact hset
    · exact fun hn => absurd hn (Option.some_ne_none _)
    · intro ip hi
      obtain rfl := Option.some.inj hi
      exact hip
    · exact fun _ hs => absurd hin hs
    · exact fun _ hs => absurd hin hs
  | loses hin hout hip hd hf =>
    have hl : Loses s.manager (.update now radio) := ⟨hin, hout⟩
    have hne : ¬ Enters s.manager (.update now radio) := fun he => he.1 hin
    simp only [watch, note, if_neg hne, if_pos hl]
    constructor
    · exact hset
    · exact fun hn => absurd hin (h.fresh hn).2
    · exact fun ip hi => hip.trans (h.known ip hi)
    · exact fun _ _ _ => ⟨hf.trans (hc.1 hl), hd⟩
    · exact fun _ _ hby => Notice.noConfusion hby

/-- An event that loses the connection: it is not stamped, and the flag goes up unless the reason
is a failed authentication. -/
theorem faithful_onDisconnected_loses {at_ : UInt32} {reason : ℤ} (h : Faithful s)
    (hl : Loses s.manager (.onDisconnected at_ reason)) :
    Faithful (watch s (.onDisconnected at_ reason)).1 := by
  have hset := settled_onDisconnected s.manager reason
  have hd := drop_onDisconnected s.manager reason
  have hin := hl.1
  simp only [watch, note, if_pos hl, act]
  constructor
  · exact hset
  · exact fun hn => absurd hin (h.fresh hn).2
  · intro ip hi
    rw [← h.known ip hi]
    dsimp only
    generalize (s.manager.onDisconnected reason).1.ctx = ctx at hd ⊢
    cases hd <;> rfl
  · intro _ _ hby
    dsimp only at hby
    split at hby <;> cases hby
  · intro _ _ hby hauth
    dsimp only at hauth ⊢
    generalize (s.manager.onDisconnected reason).1.ctx = ctx at hd ⊢
    cases hd with
    | authLive hr => rw [hr] at hauth; cases hauth
    | auth _ hs => exact absurd hin hs
    | link => rfl
    | noted hs => exact absurd hin hs

theorem faithful_onDisconnected {at_ : UInt32} {reason : ℤ} (h : Faithful s)
    (hnl : ¬ Loses s.manager (.onDisconnected at_ reason)) :
    Faithful (watch s (.onDisconnected at_ reason)).1 := by
  have hset := settled_onDisconnected s.manager reason
  have hd := drop_onDisconnected s.manager reason
  have hout : ¬ IsConnected (s.manager.onDisconnected reason).1 := by
    unfold IsConnected
    generalize (s.manager.onDisconnected reason).1.ctx = ctx at hd ⊢
    cases hd with
    | authLive => exact WiFiState.noConfusion
    | auth _ hs => exact hs
    | link => exact WiFiState.noConfusion
    | noted hs => exact hs
  have hwas : ¬ IsConnected s.manager := fun hin => hnl ⟨hin, hout⟩
  simp only [watch, note, if_neg hnl, act]
  have hip : (s.manager.onDisconnected reason).1.ctx.lastConnectedIp =
      s.manager.ctx.lastConnectedIp := by
    generalize (s.manager.onDisconnected reason).1.ctx = ctx at hd ⊢
    cases hd <;> rfl
  constructor
  · exact hset
  · exact fun hn => ⟨hip.trans (h.fresh hn).1, hout⟩
  · exact fun ip hi => hip.trans (h.known ip hi)
  · intro hi _ hby
    obtain ⟨hflag, hstamp⟩ := h.polled hi hwas hby
    dsimp only
    generalize (s.manager.onDisconnected reason).1.ctx = ctx at hd ⊢
    cases hd with
    | authLive => exact ⟨rfl, hstamp⟩
    | auth => exact ⟨rfl, hstamp⟩
    | link hs => exact absurd hs hwas
    | noted => exact ⟨hflag, hstamp⟩
  · intro hi _ hby hauth
    obtain ⟨hbefore, hreason⟩ := Bool.or_eq_false_iff.mp hauth
    have hflag := h.linked hi hwas hby hbefore
    dsimp only
    generalize (s.manager.onDisconnected reason).1.ctx = ctx at hd ⊢
    cases hd with
    | authLive hr => rw [hr] at hreason; cases hreason
    | auth hr => rw [hr] at hreason; cases hreason
    | link => rfl
    | noted => exact hflag

theorem faithful_watch (h : Faithful s) (hc : Cleared s e) : Faithful (watch s e).1 := by
  cases e with
  | update now radio => exact faithful_update h hc
  | onDisconnected at_ reason =>
    by_cases hl : Loses s.manager (.onDisconnected at_ reason)
    · exact faithful_onDisconnected_loses h hl
    · exact faithful_onDisconnected h hl
  | clearTcpServerRestartFlag =>
    have hin : IsConnected s.manager := hc.2 rfl
    exact ⟨h.settled, h.fresh, h.known, fun _ hs => absurd hin hs, fun _ hs => absurd hin hs⟩

end Step

section Run

variable {w : WiFiSetup} {events : List LinkEvent}

/-- In every run whose flag is cleared after each connect, every entry follows the rule. -/
theorem reboundByRule (hc : Guarded watch Cleared ⟨⟨w, {}⟩, {}⟩ events) :
    ReboundByRule w events := by
  rintro u now radio v rfl he
  have hfresh : Faithful ⟨⟨w, {}⟩, {}⟩ :=
    ⟨fun hp => absurd hp Bool.false_ne_true, fun _ => ⟨rfl, WiFiState.noConfusion⟩,
      fun _ hi => absurd hi.symm (Option.some_ne_none _), fun hi => absurd rfl hi,
      fun hi => absurd rfl hi⟩
  have hu : Faithful (watched w u) :=
    guarded_induction (I := fun _ s _ => Faithful s) hfresh
      (fun _ _ _ _ hs hc => faithful_watch hs hc) u (guarded_append.mp hc).1
  exact hu.rule he

end Run

section Bench

/-- A connection lost to the poll for ten seconds, to a link-level event for a second, and to the
poll again for more than half a minute. -/
def mixedDrops : List LinkEvent :=
  [.update 0 (unaddressed 6), .update 1000 (addressed "192.168.1.7"), .clearTcpServerRestartFlag,
    .update 2000 (unaddressed 6), .update 12000 (addressed "192.168.1.7"),
    .onDisconnected 13000 200, .update 14000 (addressed "192.168.1.7"), .clearTcpServerRestartFlag,
    .update 15000 (unaddressed 6), .update 46000 (addressed "192.168.1.7")]

theorem reboundByRule_mixedDrops : ReboundByRule home mixedDrops :=
  reboundByRule (by decide +kernel)

/-- A connection lost to a link-level event and made again with the same address a second
later. -/
def linkDrop : List LinkEvent :=
  [.update 0 (unaddressed 6), .update 1000 (addressed "192.168.1.7"), .clearTcpServerRestartFlag,
    .onDisconnected 2000 200, .update 3000 (addressed "192.168.1.7")]

theorem not_reboundAsNeeded_linkDrop :
    Guarded watch Cleared ⟨⟨home, {}⟩, {}⟩ linkDrop ∧ ¬ ReboundAsNeeded home linkDrop := by
  refine ⟨by decide +kernel, ?_⟩
  intro h
  have hflag := h (linkDrop.take 4) 3000 (addressed "192.168.1.7") [] rfl (by decide +kernel)
  exact absurd (hflag.mp (by decide +kernel)) (by decide +kernel)

end Bench

end VehicleSpy.Firmware.TcpServerRestart
