import VehicleSpy.Ble.Elm327Session
import VehicleSpy.Ble.VehicleDetector

/-! # The VIN query

The caller of `queryVIN` sends the query, waits for the prompt and reads the detector,
while the callback thread scans each notification for the prompt and only then parses and
observes it. The scan releases the caller, so the caller may read the detector before the
payload that came with the prompt is in it.
-/

namespace VehicleSpy.Ble

open Text Machine Elm327Session VehicleDetector

/-- Where the caller stands: outside, behind the write, in the wait, behind the wait. -/
inductive CallerPhase | idle | sent | waiting | released
  deriving DecidableEq, Repr

/-- One atomic step of a thread; a caller step says whether the wait's deadline has passed. -/
inductive VinEvent
  | caller (expired : Bool)
  | notification (data : Bytes)
  | observe
  deriving DecidableEq, Repr

inductive VinOutput
  | sessionSendAscii (command : Bytes)
  | reset
  | waited (success : Bool)
  | returned (vin : Option Bytes)
  | session (o : SessionOutput)
  deriving DecidableEq, Repr

structure VinQuery where
  session : Elm327Session := {}
  detector : VehicleDetector := {}
  caller : CallerPhase := .idle
  /-- The notification that is scanned and not yet parsed. -/
  inHand : Option Bytes := none

namespace VinQuery

def buildOBD2Query (mode pid : Byte) : Bytes :=
  hexPad 2 mode.toNat ++ [SP] ++ hexPad 2 pid.toNat ++ [CR]

/-- What `queryVIN` makes of the detector's result. -/
def vinResult (d : VehicleDetector) : Option Bytes := if d.vin = [] then none else some d.vin

def callerStep (st : VinQuery) (expired : Bool) : VinQuery × List VinOutput :=
  match st.caller with
  | .idle =>
    ({ st with session := { st.session with canMode := false }, caller := .sent },
      [.sessionSendAscii (buildOBD2Query 0x09 0x02)])
  | .sent =>
    ({ st with session := { st.session with promptReady := false }, caller := .waiting }, [.reset])
  | .waiting =>
    if st.session.promptReady then ({ st with caller := .released }, [.waited true])
    else if expired then ({ st with caller := .idle }, [.waited false, .returned none])
    else (st, [])
  | .released => ({ st with caller := .idle }, [.returned (vinResult st.detector)])

/-- A notification waits until the callback thread is done with the one before. -/
def step (st : VinQuery) : VinEvent → VinQuery × List VinOutput
  | .caller expired => st.callerStep expired
  | .notification data =>
    match st.inHand with
    | some _ => (st, [])
    | none =>
      let (session, prompts) :=
        if st.session.canMode then (st.session, []) else st.session.scanPrompt data
      ({ st with session := session, inHand := some data }, prompts.map .session)
  | .observe =>
    match st.inHand with
    | none => (st, [])
    | some data =>
      match notificationPayload st.session.canMode data with
      | none => ({ st with inHand := none }, [])
      | some payload =>
        ({ st with detector := st.detector.observeFrame payload, inHand := none },
          [.session (.observeFrame payload), .session (.sessionDeliverParsed payload)])

/-- The payloads that the detector is shown. -/
def payloads (out : List VinOutput) : List Bytes :=
  out.filterMap fun | .session (.observeFrame p) => some p | _ => none

/-- The payloads shown over a run. -/
def shown (s : VinQuery) (w : List VinEvent) : List Bytes := payloads (emitted step s w)

/-- The payload of the notification in hand, if it has one. -/
def pending (st : VinQuery) : List Bytes :=
  match st.inHand with
  | some data => (notificationPayload st.session.canMode data).toList
  | none => []

/-- The payloads of all notifications delivered so far. -/
def delivered (s : VinQuery) (w : List VinEvent) : List Bytes :=
  shown s w ++ pending (after step s w)

/-- The notification whose prompt ends the wait: it raises the flag of a waiting caller. -/
structure Releases (s : VinQuery) (w u : List VinEvent) (data : Bytes) (v : List VinEvent) :
    Prop where
  split : w = u ++ .notification data :: v
  waiting : (after step s u).caller = .waiting
  down : (after step s u).session.promptReady = false
  up : (after step s (u ++ [.notification data])).session.promptReady = true
  callback : ∀ d, .caller d ∉ v

/-- The wait of a caller ends with success behind `w`. -/
def WaitSucceeds (s : VinQuery) (w : List VinEvent) (d : Bool) : Prop :=
  (step (after step s w) (.caller d)).2 = [.waited true]

instance (s : VinQuery) (w : List VinEvent) (d : Bool) : Decidable (WaitSucceeds s w d) :=
  inferInstanceAs (Decidable (_ = _))

/-- When a wait succeeds, the detector has been shown every payload delivered up to the
releasing prompt, and the query returns the VIN of these payloads. -/
def VinProcessed (s : VinQuery) (w : List VinEvent) : Prop :=
  ∀ w₁ d w₂, w = w₁ ++ .caller d :: w₂ → WaitSucceeds s w₁ d →
    (∃ u data v, Releases s w₁ u data v) ∧
      ∀ u data v, Releases s w₁ u data v →
        delivered s (u ++ [.notification data]) <+: shown s w₁ ∧
          ∀ c d' w₃, w₂ = c ++ .caller d' :: w₃ → (∀ d, .caller d ∉ c) →
            (step (after step s (w₁ ++ .caller d :: c)) (.caller d')).2 = [.returned (vinResult
              ((delivered s (u ++ [.notification data])).foldl observeFrame s.detector))]

/-- The payloads shown up to `w` that were delivered later than `early`. -/
def late (s : VinQuery) (w early : List VinEvent) : List Bytes :=
  (shown s w).drop (delivered s early).length

/-- The caller wakes after the releasing notification is observed, if it has a payload, and
reads the detector before a later one adds to the VIN. -/
def ObservedInTime (s : VinQuery) (w : List VinEvent) : Prop :=
  ∀ w₁ d w₂, w = w₁ ++ .caller d :: w₂ → WaitSucceeds s w₁ d →
    ∀ u data v, Releases s w₁ u data v →
      (notificationPayload false data = none ∨ .observe ∈ v) ∧
        ∀ c d' w₃, w₂ = c ++ .caller d' :: w₃ → (∀ d, .caller d ∉ c) →
          17 ≤ (s.detector.vin ++
              (delivered s (u ++ [.notification data])).flatMap vinPart).length ∨
            ∀ p ∈ late s (w₁ ++ .caller d :: c) (u ++ [.notification data]), vinPart p = []

section Shown

variable {s st : VinQuery} {data : Bytes} {v w : List VinEvent} {d : Bool}

/-- Scan and observation of one notification are what `handleIncomingData` does. -/
theorem notification_observe (st : VinQuery) (data : Bytes) (hidle : st.inHand = none) :
    (after step st [.notification data, .observe]).session =
        (st.session.handleIncomingData data).1 ∧
      emitted step st [.notification data, .observe] =
        (st.session.handleIncomingData data).2.map .session := by
  have hscan : (st.session.scanPrompt data).1.canMode = st.session.canMode := by
    simp only [scanPrompt]
    split <;> rfl
  unfold handleIncomingData
  simp only [after_cons, after_nil, emitted_cons, emitted_nil, step, hidle, notificationPayload]
  cases hc : st.session.canMode
  · simp only [Bool.false_eq_true, if_false, hscan, hc]
    by_cases hp : binaryData data false = [] <;> simp [hp]
  · simp only [if_true, hc]
    by_cases hp : binaryData data true = [] <;> simp [hp]

theorem shown_append (s : VinQuery) (v w : List VinEvent) :
    shown s (v ++ w) = shown s v ++ shown (after step s v) w := by
  rw [shown, emitted_append, payloads, List.filterMap_append]
  rfl

theorem payloads_scanPrompt (session : Elm327Session) (data : Bytes) :
    payloads ((session.scanPrompt data).2.map .session) = [] := by
  simp only [scanPrompt]
  split <;> rfl

theorem payloads_caller : payloads (step st (.caller d)).2 = [] := by
  simp only [step, callerStep]
  split
  · rfl
  · rfl
  · split
    · rfl
    · split <;> rfl
  · rfl

theorem payloads_notification : payloads (step st (.notification data)).2 = [] := by
  simp only [step]
  split
  · rfl
  · cases st.session.canMode
    · exact payloads_scanPrompt st.session data
    · rfl

theorem payloads_observe : payloads (step st .observe).2 = pending st := by
  unfold pending
  cases hi : st.inHand with
  | none => simp [step, hi, payloads]
  | some data =>
    simp only [step, hi]
    cases notificationPayload st.session.canMode data <;> rfl

theorem detector_step (st : VinQuery) (e : VinEvent) :
    (step st e).1.detector = (payloads (step st e).2).foldl observeFrame st.detector := by
  cases e with
  | caller d =>
    rw [payloads_caller]
    simp only [step, callerStep]
    split
    · rfl
    · rfl
    · split
      · rfl
      · split <;> rfl
    · rfl
  | notification data =>
    rw [payloads_notification]
    simp only [step]
    split <;> rfl
  | observe =>
    simp only [step]
    split
    · rfl
    · split <;> rfl

theorem detector_after (s : VinQuery) (w : List VinEvent) :
    (after step s w).detector = (shown s w).foldl observeFrame s.detector := by
  induction w using List.reverseRecOn with
  | nil => rfl
  | append_singleton w e ih =>
    rw [after_concat, detector_step, ih, shown_append, List.foldl_append]
    simp [shown]

end Shown

section Callback

variable {s st : VinQuery} {data : Bytes} {u v w : List VinEvent}

/-- The callback thread leaves the caller and the mode alone, and never lowers the flag. -/
theorem step_callback (st : VinQuery) {e : VinEvent} (he : ∀ d, e ≠ .caller d) :
    (step st e).1.caller = st.caller ∧ (step st e).1.session.canMode = st.session.canMode ∧
      (st.session.promptReady = true → (step st e).1.session.promptReady = true) := by
  cases e with
  | caller d => exact absurd rfl (he d)
  | notification data =>
    simp only [step]
    cases st.inHand with
    | some _ => exact ⟨rfl, rfl, id⟩
    | none =>
      cases hc : st.session.canMode
      · simp only [Bool.false_eq_true, if_false, scanPrompt]
        split <;> simp [hc, notifyPrompt]
      · simp [hc]
  | observe =>
    simp only [step]
    split
    · exact ⟨rfl, rfl, id⟩
    · split <;> exact ⟨rfl, rfl, id⟩

theorem after_callback (st : VinQuery) (hv : ∀ d, .caller d ∉ v) :
    (after step st v).caller = st.caller ∧
      (after step st v).session.canMode = st.session.canMode ∧
      (st.session.promptReady = true → (after step st v).session.promptReady = true) := by
  induction v generalizing st with
  | nil => exact ⟨rfl, rfl, id⟩
  | cons e v ih =>
    obtain ⟨hcaller, hcan, hup⟩ := step_callback st (e := e) fun d he =>
      hv d (he ▸ List.mem_cons_self)
    obtain ⟨hcaller', hcan', hup'⟩ := ih (step st e).1 fun d hd => hv d (List.mem_cons_of_mem _ hd)
    exact ⟨hcaller'.trans hcaller, hcan'.trans hcan, hup' ∘ hup⟩

/-- The callback thread shows the payload in hand first, and at its next observation. -/
theorem pending_prefix_iff (hb : st.inHand = some data) (hv : ∀ d, .caller d ∉ v) :
    pending st <+: shown st v ↔ pending st = [] ∨ .observe ∈ v := by
  induction v with
  | nil => simp [shown, payloads]
  | cons e v ih =>
    have hrest := ih fun d hd => hv d (List.mem_cons_of_mem _ hd)
    have hcons : shown st (e :: v) = payloads (step st e).2 ++ shown (step st e).1 v := by
      rw [shown, emitted_cons, payloads, List.filterMap_append]
      rfl
    cases e with
    | caller d => exact absurd List.mem_cons_self (hv d)
    | notification data' =>
      have hbusy : step st (.notification data') = (st, []) := by simp [step, hb]
      rw [hcons, hbusy]
      simpa [payloads] using hrest
    | observe =>
      rw [hcons, payloads_observe]
      exact iff_of_true (List.prefix_append _ _) (Or.inr List.mem_cons_self)

end Callback

section Release

variable {s : VinQuery} {data : Bytes} {u v w : List VinEvent}

/-- A notification that raises the flag is scanned by a free callback thread in OBD2 mode. -/
theorem Releases.scanned (h : Releases s w u data v) :
    (after step s u).inHand = none ∧ (after step s u).session.canMode = false ∧
      (after step s (u ++ [.notification data])).inHand = some data := by
  have hup := h.up
  rw [after_concat] at hup ⊢
  cases hi : (after step s u).inHand with
  | some _ =>
    have hsame : step (after step s u) (.notification data) = (after step s u, []) := by
      simp [step, hi]
    rw [hsame, h.down] at hup
    cases hup
  | none =>
    refine ⟨rfl, ?_, by simp [step, hi]⟩
    by_contra hcan
    rw [Bool.not_eq_false] at hcan
    simp [step, hi, hcan, h.down] at hup

theorem Releases.canMode (h : Releases s w u data v) :
    (after step s (u ++ [.notification data])).session.canMode = false := by
  rw [after_concat]
  exact (step_callback _ (by simp)).2.1.trans h.scanned.2.1

/-- The releasing notification's payload is shown before the wait ends exactly if the callback
thread got to it. -/
theorem Releases.delivered_prefix_iff (h : Releases s w u data v) :
    delivered s (u ++ [.notification data]) <+: shown s w ↔
      notificationPayload false data = none ∨ .observe ∈ v := by
  have hsplit : w = (u ++ [.notification data]) ++ v := by rw [h.split]; simp
  rw [delivered, hsplit, shown_append s (u ++ [VinEvent.notification data]) v,
    List.prefix_append_right_inj, pending_prefix_iff h.scanned.2.2 h.callback, pending,
    h.scanned.2.2, h.canMode]
  simp

/-- A caller that waits with the flag up has been released by a notification. -/
theorem exists_releases (s : VinQuery) (hs : s.caller = .idle) (w : List VinEvent)
    (hw : (after step s w).caller = .waiting)
    (hr : (after step s w).session.promptReady = true) :
    ∃ u data v, Releases s w u data v := by
  induction w using List.reverseRecOn with
  | nil => simp [hs] at hw
  | append_singleton w e ih =>
    rw [after_concat] at hw hr
    cases e with
    | caller d =>
      exfalso
      simp only [step, callerStep] at hw hr
      cases hc : (after step s w).caller with
      | idle => simp [hc] at hw
      | sent => simp [hc] at hr
      | waiting =>
        by_cases hready : (after step s w).session.promptReady = true
        · simp [hc, hready] at hw
        · cases d <;> simp [hc, hready] at hw hr
      | released => simp [hc] at hw
    | notification data =>
      obtain ⟨hcaller, -, -⟩ := step_callback (after step s w) (e := .notification data) (by simp)
      rw [hcaller] at hw
      by_cases hready : (after step s w).session.promptReady = true
      · obtain ⟨u, data', v, h⟩ := ih hw hready
        exact ⟨u, data', v ++ [.notification data], by rw [h.split]; simp, h.waiting, h.down, h.up,
          by simp [h.callback]⟩
      · exact ⟨w, data, [], rfl, hw, by simpa using hready, by rwa [after_concat], by simp⟩
    | observe =>
      obtain ⟨hcaller, -, -⟩ := step_callback (after step s w) (e := .observe) (by simp)
      have hready : (after step s w).session.promptReady = true := by
        rw [← hr]
        simp only [step]
        split
        · rfl
        · split <;> rfl
      obtain ⟨u, data, v, h⟩ := ih (hcaller ▸ hw) hready
      exact ⟨u, data, v ++ [.observe], by rw [h.split]; simp, h.waiting, h.down, h.up,
        by simp [h.callback]⟩

end Release

section Query

variable {s : VinQuery} {data : Bytes} {u v w₁ c : List VinEvent} {d : Bool}

theorem waitSucceeds_iff : WaitSucceeds s w₁ d ↔
    (after step s w₁).caller = .waiting ∧ (after step s w₁).session.promptReady = true := by
  rw [WaitSucceeds, step, callerStep]
  cases (after step s w₁).caller with
  | idle => simp
  | sent => simp
  | waiting => cases (after step s w₁).session.promptReady <;> cases d <;> simp
  | released => simp

theorem WaitSucceeds.released (h : WaitSucceeds s w₁ d) :
    (step (after step s w₁) (.caller d)).1.caller = .released := by
  obtain ⟨hw, hr⟩ := waitSucceeds_iff.mp h
  simp [step, callerStep, hw, hr]

/-- Behind a successful wait the next step of the caller returns the detector's VIN. -/
theorem WaitSucceeds.returns (h : WaitSucceeds s w₁ d) (hc : ∀ d, .caller d ∉ c) (d' : Bool) :
    (step (after step s (w₁ ++ .caller d :: c)) (.caller d')).2 =
      [.returned (vinResult ((shown s (w₁ ++ .caller d :: c)).foldl observeFrame s.detector))] := by
  rw [← detector_after]
  have hcaller : (after step s (w₁ ++ .caller d :: c)).caller = .released := by
    rw [after_append, after_cons, (after_callback _ hc).1, h.released]
  rw [step, callerStep, hcaller]

theorem vinResult_inj {d d' : VehicleDetector} : vinResult d = vinResult d' ↔ d.vin = d'.vin := by
  constructor
  · intro h
    unfold vinResult at h
    by_cases hd : d.vin = [] <;> by_cases hd' : d'.vin = [] <;> simp_all
  · intro h
    rw [vinResult, vinResult, h]

/-- The query returns the VIN of some first payloads exactly if these fill it or the later ones
have no part of it. -/
theorem vinResult_append_iff (d : VehicleDetector) (first rest : List Bytes) :
    vinResult ((first ++ rest).foldl observeFrame d) = vinResult (first.foldl observeFrame d) ↔
      17 ≤ (d.vin ++ first.flatMap vinPart).length ∨ ∀ p ∈ rest, vinPart p = [] := by
  rw [vinResult_inj, List.foldl_append, vin_foldl_eq_iff, vin_foldl_observeFrame,
    List.length_take]
  exact or_congr_left (by omega)

theorem shown_eq_append_late {e : List VinEvent} (h : delivered s e <+: shown s w₁)
    (v : List VinEvent) : shown s (w₁ ++ v) = delivered s e ++ late s (w₁ ++ v) e := by
  apply Eq.symm
  apply List.prefix_iff_eq_append.mp
  rw [shown_append]
  exact h.trans (List.prefix_append _ _)

/-- The query returns the VIN of the payloads delivered with the prompt exactly if those that
come later, and are shown before the caller reads the detector, do not add to it. -/
theorem WaitSucceeds.returns_iff {e : List VinEvent} (h : WaitSucceeds s w₁ d)
    (hc : ∀ d, .caller d ∉ c) (he : delivered s e <+: shown s w₁) (d' : Bool) :
    (step (after step s (w₁ ++ .caller d :: c)) (.caller d')).2 =
        [.returned (vinResult ((delivered s e).foldl observeFrame s.detector))] ↔
      17 ≤ (s.detector.vin ++ (delivered s e).flatMap vinPart).length ∨
        ∀ p ∈ late s (w₁ ++ .caller d :: c) e, vinPart p = [] := by
  rw [h.returns hc, shown_eq_append_late he, ← vinResult_append_iff]
  simp

/-- The VIN is processed before its prompt exactly if the callback thread is in time at every
wait. -/
theorem vinProcessed_iff (session : Elm327Session) (detector : VehicleDetector)
    (w : List VinEvent) :
    VinProcessed ⟨session, detector, .idle, none⟩ w ↔
      ObservedInTime ⟨session, detector, .idle, none⟩ w := by
  constructor
  · intro hp w₁ d w₂ hw hs u data v hr
    obtain ⟨hpre, hreturn⟩ := (hp w₁ d w₂ hw hs).2 u data v hr
    refine ⟨hr.delivered_prefix_iff.mp hpre, ?_⟩
    intro c d' w₃ hw₂ hc
    exact (hs.returns_iff hc hpre d').mp (hreturn c d' w₃ hw₂ hc)
  · intro ho w₁ d w₂ hw hs
    obtain ⟨hwait, hready⟩ := waitSucceeds_iff.mp hs
    refine ⟨exists_releases _ rfl w₁ hwait hready, ?_⟩
    intro u data v hr
    obtain ⟨hobserved, hlate⟩ := ho w₁ d w₂ hw hs u data v hr
    have hpre := hr.delivered_prefix_iff.mpr hobserved
    refine ⟨hpre, ?_⟩
    intro c d' w₃ hw₂ hc
    exact (hs.returns_iff hc hpre d').mpr (hlate c d' w₃ hw₂ hc)

/-- A VIN response and the prompt in one notification. -/
def vinReply : Bytes := ascii "49 02 01 35 59 4A 33 45\r\r>"

/-- The caller wakes and reads the detector before the VIN is in it. -/
def earlyWake : List VinEvent :=
  [.caller false, .caller false, .notification vinReply, .caller false, .caller false, .observe]

theorem not_vinProcessed_earlyWake : ¬ VinProcessed ⟨{}, {}, .idle, none⟩ earlyWake := by
  intro h
  have hs : WaitSucceeds ⟨{}, {}, .idle, none⟩
      [.caller false, .caller false, .notification vinReply] false := by decide +kernel
  have hr : Releases ⟨{}, {}, .idle, none⟩ [.caller false, .caller false, .notification vinReply]
      [.caller false, .caller false] vinReply [] :=
    ⟨rfl, by decide, by decide, by decide +kernel, by simp⟩
  exact absurd ((h _ _ _ rfl hs).2 _ _ _ hr).1 (by decide +kernel)

/-- What the caller is told there, and what it would be told after the observation. -/
example :
    (emitted step ⟨{}, {}, .idle, none⟩ earlyWake).getLast? = some (.session
      (.sessionDeliverParsed [0x49, 0x02, 0x01, 0x35, 0x59, 0x4A, 0x33, 0x45])) ∧
    .returned none ∈ emitted step ⟨{}, {}, .idle, none⟩ earlyWake ∧
    .returned (some (ascii "5YJ3E")) ∈ emitted step ⟨{}, {}, .idle, none⟩
      [.caller false, .caller false, .notification vinReply, .observe, .caller false,
        .caller false] := by
  decide +kernel

end Query

end VinQuery

end VehicleSpy.Ble
