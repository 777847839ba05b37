import Mathlib.Logic.Function.Basic
import VehicleSpy.Firmware.WiFiManager
import VehicleSpy.Text.Printf

/-! # Writing the WiFi credentials

The credentials are three keys of the non-volatile storage, written one after the other
and without a rollback: the count, which says that credentials are stored, then the name,
then the password. What a write that fails leaves behind is what was written before it.
-/

namespace VehicleSpy.Firmware

open Text

/-- Write a C string under a key and return its length; a write that fails returns zero. -/
def Nvs.putString (fails : NvsKey → Bool) (prefs : Nvs) (key : NvsKey) (value : Bytes) :
    Nvs × ℕ :=
  if fails key then (prefs, 0)
  else (Function.update prefs key (some (cString value)), (cString value).length)

namespace CredentialStore

/-- One conjunct of the sequence of writes: nothing is written once one has failed. -/
def putNext (fails : NvsKey → Bool) (r : Nvs × Bool) (key : NvsKey) (value : Bytes) : Nvs × Bool :=
  if r.2 then
    let (prefs, written) := r.1.putString fails key value
    (prefs, 0 < written)
  else r

/-- The write sequence of both stores. -/
def putCredentials (fails : NvsKey → Bool) (prefs : Nvs) (ssid pass : Bytes) : Nvs × Bool :=
  let success := putNext fails (prefs, true) .credCount (ascii "1")
  let success := putNext fails success .ssid ssid
  putNext fails success .pass pass

end CredentialStore

open CredentialStore

def storeWifiCredentials (fails : NvsKey → Bool) (store : Nvs) (ssid pass : Bytes) : Nvs × Bool :=
  putCredentials fails store ssid pass

def WiFiManager.storeCredentials (fails : NvsKey → Bool) (m : WiFiManager) (ssid pass : Bytes) :
    WiFiManager × Bool :=
  let (prefs, success) := putCredentials fails m.setup.prefs ssid pass
  ({ m with setup := { m.setup with prefs := prefs } }, success)

namespace CredentialStore

/-- The content after a write that took effect. -/
def set (prefs : Nvs) (key : NvsKey) (value : Bytes) : Nvs := Function.update prefs key (some value)

/-- What the writes leave behind, by the first of them that returns zero: because it failed, or
because it wrote nothing but a terminator. -/
inductive Written (fails : NvsKey → Bool) (prefs : Nvs) (ssid pass : Bytes) :
    Nvs × Bool → Prop where

  | countFailed : fails .credCount = true → Written fails prefs ssid pass (prefs, false)

  | nameFailed : fails .credCount = false → fails .ssid = true →
      Written fails prefs ssid pass (set prefs .credCount (ascii "1"), false)

  | nameEmpty : fails .credCount = false → fails .ssid = false → ssid = [] →
      Written fails prefs ssid pass (set (set prefs .credCount (ascii "1")) .ssid [], false)

  | passFailed : fails .credCount = false → fails .ssid = false → ssid ≠ [] →
      fails .pass = true →
      Written fails prefs ssid pass (set (set prefs .credCount (ascii "1")) .ssid ssid, false)

  | passWritten : fails .credCount = false → fails .ssid = false → ssid ≠ [] →
      fails .pass = false →
      Written fails prefs ssid pass
        (set (set (set prefs .credCount (ascii "1")) .ssid ssid) .pass pass, decide (pass ≠ []))

variable {fails : NvsKey → Bool} {w w' : WiFiSetup} {prefs : Nvs} {ssid pass : Bytes}
  {key : NvsKey} {value : Bytes}

theorem putNext_failed (h : fails key = true) : putNext fails (prefs, true) key value =
    (prefs, false) := by
  simp [putNext, Nvs.putString, h]

theorem putNext_written (h : fails key = false) : putNext fails (prefs, true) key value =
    (set prefs key (cString value), decide (cString value ≠ [])) := by
  simp [putNext, Nvs.putString, h, set, List.length_pos_iff]

theorem written_putCredentials (fails : NvsKey → Bool) (prefs : Nvs) (ssid pass : Bytes) :
    Written fails prefs (cString ssid) (cString pass) (putCredentials fails prefs ssid pass) := by
  have hstop : ∀ (r : Nvs) key value, putNext fails (r, false) key value = (r, false) :=
    fun _ _ _ => rfl
  have hone : cString (ascii "1") = ascii "1" := by decide
  have hmark : decide (ascii "1" ≠ []) = true := by decide
  unfold putCredentials
  dsimp only
  cases hc : fails .credCount with
  | true =>
    rw [putNext_failed hc, hstop, hstop]
    exact .countFailed hc
  | false =>
    rw [putNext_written hc, hone, hmark]
    cases hs : fails .ssid with
    | true =>
      rw [putNext_failed hs, hstop]
      exact .nameFailed hc hs
    | false =>
      rw [putNext_written hs]
      by_cases hn : cString ssid = []
      · rw [decide_eq_false (not_not.mpr hn), hstop, hn]
        exact .nameEmpty hc hs rfl
      · rw [decide_eq_true hn]
        cases hp : fails .pass with
        | true =>
          rw [putNext_failed hp]
          exact .passFailed hc hs hn hp
        | false =>
          rw [putNext_written hp]
          exact .passWritten hc hs hn hp

section Readers

@[simp] theorem getBytesLength_set_self :
    (set prefs key value).getBytesLength key = value.length := by
  simp [Nvs.getBytesLength, set]

@[simp] theorem getString_set_self : (set prefs key value).getString key = value := by
  simp [Nvs.getString, set]

theorem set_other {k : NvsKey} (h : k ≠ key) : set prefs key value k = prefs k :=
  Function.update_of_ne h _ _

@[simp] theorem getBytesLength_set_other {k : NvsKey} (h : k ≠ key) :
    (set prefs key value).getBytesLength k = prefs.getBytesLength k := by
  rw [Nvs.getBytesLength, set_other h, Nvs.getBytesLength]

@[simp] theorem getString_set_other {k : NvsKey} (h : k ≠ key) :
    (set prefs key value).getString k = prefs.getString k := by
  rw [Nvs.getString, set_other h, Nvs.getString]

/-- Any content written after the count reads as stored credentials. -/
theorem source_of_marked (w : WiFiSetup) (h : prefs .credCount = some (ascii "1")) :
    determineCredentialSource { w with prefs := prefs } = .STORED_NVS := by
  have hpos : 0 < prefs.getBytesLength .credCount := by
    rw [Nvs.getBytesLength, h]
    decide
  simp only [determineCredentialSource, if_pos hpos]

end Readers

/-- Both readers return what they returned before. -/
def Unchanged (w w' : WiFiSetup) : Prop :=
  determineCredentialSource w' = determineCredentialSource w ∧
    loadCredentialsImpl w'.prefs = loadCredentialsImpl w.prefs

instance : Decidable (Unchanged w w') := inferInstanceAs (Decidable (_ ∧ _))

/-- The password that was stored before, under a new name. -/
def mixed (prefs : Nvs) (ssid : Bytes) : Option (Bytes × Bytes) :=
  if 0 < prefs.getBytesLength .pass then some (ssid, prefs.getString .pass) else none

/-- What the readers return after a call, by the write that stopped it: everything as before if
the count was not written; from then on the credentials read as stored, with the pair as
before, no pair at all, or the new name with the old password. Only a successful call makes
the new password readable. -/
inductive Outcome (fails : NvsKey → Bool) (ssid pass : Bytes) (w w' : WiFiSetup) :
    Bool → Prop where

  | countFailed : fails .credCount = true → w' = w → Outcome fails ssid pass w w' false

  | nameFailed : fails .credCount = false → fails .ssid = true →
      determineCredentialSource w' = .STORED_NVS →
      loadCredentialsImpl w'.prefs = loadCredentialsImpl w.prefs →
      Outcome fails ssid pass w w' false

  | nameEmpty : fails .credCount = false → fails .ssid = false → ssid = [] →
      determineCredentialSource w' = .STORED_NVS →
      loadCredentialsImpl w'.prefs = none → Outcome fails ssid pass w w' false

  | passFailed : fails .credCount = false → fails .ssid = false → ssid ≠ [] → fails .pass = true →
      determineCredentialSource w' = .STORED_NVS →
      loadCredentialsImpl w'.prefs = mixed w.prefs ssid → Outcome fails ssid pass w w' false

  | passEmpty : fails .credCount = false → fails .ssid = false → ssid ≠ [] → fails .pass = false →
      pass = [] → determineCredentialSource w' = .STORED_NVS →
      loadCredentialsImpl w'.prefs = none → Outcome fails ssid pass w w' false

  | stored : fails .credCount = false → fails .ssid = false → fails .pass = false →
      determineCredentialSource w' = .STORED_NVS →
      loadCredentialsImpl w'.prefs = some (ssid, pass) → Outcome fails ssid pass w w' true

theorem outcome_of_written {r : Nvs × Bool} (h : Written fails w.prefs ssid pass r) :
    Outcome fails ssid pass w { w with prefs := r.1 } r.2 := by
  have hmark : set w.prefs .credCount (ascii "1") .credCount = some (ascii "1") :=
    Function.update_self _ _ _
  have hname : set (set w.prefs .credCount (ascii "1")) .ssid ssid .credCount =
      some (ascii "1") := (set_other (by decide)).trans hmark
  cases h with
  | countFailed hc => exact .countFailed hc rfl
  | nameFailed hc hs =>
    refine .nameFailed hc hs (source_of_marked w hmark) ?_
    simp [loadCredentialsImpl]
  | nameEmpty hc hs hn =>
    subst hn
    refine .nameEmpty hc hs rfl (source_of_marked w hname) ?_
    simp [loadCredentialsImpl]
  | passFailed hc hs hn hp =>
    refine .passFailed hc hs hn hp (source_of_marked w hname) ?_
    simp [loadCredentialsImpl, mixed, List.length_pos_iff, hn]
  | passWritten hc hs hn hp =>
    have hpass : set (set (set w.prefs .credCount (ascii "1")) .ssid ssid) .pass pass .credCount =
        some (ascii "1") := (set_other (by decide)).trans hname
    have hall := source_of_marked w hpass
    by_cases he : pass = []
    · rw [decide_eq_false (not_not.mpr he)]
      refine .passEmpty hc hs hn hp he hall ?_
      simp [loadCredentialsImpl, he]
    · rw [decide_eq_true he]
      refine .stored hc hs hp hall ?_
      simp [loadCredentialsImpl, List.length_pos_iff, hn, he]

/-- Both stores leave the readers as the first write that returned zero decides. -/
theorem outcome_store (fails : NvsKey → Bool) (m : WiFiManager) (ssid pass : Bytes) :
    Outcome fails (cString ssid) (cString pass) m.setup
        { m.setup with prefs := (storeWifiCredentials fails m.setup.prefs ssid pass).1 }
        (storeWifiCredentials fails m.setup.prefs ssid pass).2 ∧
      Outcome fails (cString ssid) (cString pass) m.setup
        (m.storeCredentials fails ssid pass).1.setup (m.storeCredentials fails ssid pass).2 :=
  ⟨outcome_of_written (written_putCredentials _ _ _ _),
    outcome_of_written (written_putCredentials _ _ _ _)⟩

section Bench

/-- A device that knows one network; the write of the password fails. -/
def known : WiFiManager where
  setup := { prefs := fun
    | .credCount => some (ascii "1")
    | .ssid => some (ascii "manht2")
    | .pass => some (ascii "secret99") }
  ctx := {}

def passFails : NvsKey → Bool
  | .pass => true
  | _ => false

/-- The call fails, and the device reads the new name with the old password. -/
theorem not_unchanged_passFails :
    (known.storeCredentials passFails (ascii "garage") (ascii "opensesame")).2 = false ∧
      loadCredentialsImpl (known.storeCredentials passFails (ascii "garage")
        (ascii "opensesame")).1.setup.prefs = some (ascii "garage", ascii "secret99") ∧
      ¬ Unchanged known.setup
        (known.storeCredentials passFails (ascii "garage") (ascii "opensesame")).1.setup := by
  decide

end Bench

end CredentialStore

end VehicleSpy.Firmware
