import VehicleSpy.Firmware.AtCommandDispatcher
import VehicleSpy.Firmware.SerialCommandFramer

/-! # WiFi provisioning over the serial console

The host writes one ATSETWIFI line, the device frames it and dispatches it. Within
the framer's budget the credentials arrive unchanged exactly when the comma and
the trimming leave them alone.
-/

namespace VehicleSpy.Firmware

open Text Machine AtCommandDispatcher

/-- The line length that the sketch constructs its serial framer with. -/
def MAX_SERIAL_CMD_LENGTH : ℕ := 64

namespace WifiProvisioning

/-- The command that the host's provisioning runner builds. -/
def setWifiCommand (ssid pass : Bytes) : Bytes := ascii "ATSETWIFI" ++ ssid ++ [COMMA] ++ pass

/-- What the host writes to the port. -/
def frame (command : Bytes) : Bytes := command ++ [CR]

/-- The command lines that the sketch's framer hands over, as its drains see the bytes. -/
def serialLines (drains : List Bytes) : List Bytes :=
  emitted SerialCommandFramer.drain (SerialCommandFramer.fresh MAX_SERIAL_CMD_LENGTH) drains

/-- Each line goes to the dispatcher as a C string. -/
def drainSerialATCommands (env : AtEnv) (drains : List Bytes) : List AtCall :=
  (serialLines drains).flatMap fun line => handleSerialCommand env (cString line)

/-- The credential pairs given to the store. -/
def storedPairs (calls : List AtCall) : List (Bytes × Bytes) :=
  calls.filterMap fun
    | .storeWifi ssid password => some (ssid, password)
    | _ => none

/-- The store is called once, with these credentials, and the line is the only command. -/
def Provisioned (env : AtEnv) (ssid pass : Bytes) (drains : List Bytes) : Prop :=
  storedPairs (drainSerialATCommands env drains) = [(ssid, pass)] ∧
    serialLines drains = [setWifiCommand ssid pass]

/-- Neither a line end nor NUL. -/
def Plain (s : Bytes) : Prop := ∀ c ∈ s, isLineEnd c = false ∧ c ≠ 0

instance (s : Bytes) : Decidable (Plain s) := List.decidableBAll _ s

variable {env : AtEnv} {ssid pass : Bytes}

theorem plain_setWifiCommand (hs : Plain ssid) (hp : Plain pass) :
    Plain (setWifiCommand ssid pass) := by
  have hlit : Plain (ascii "ATSETWIFI") := by decide
  have hcomma : Plain [COMMA] := by decide
  intro c hc
  simp only [setWifiCommand, List.mem_append] at hc
  rcases hc with ((hc | hc) | hc) | hc
  · exact hlit c hc
  · exact hs c hc
  · exact hcomma c hc
  · exact hp c hc

theorem setWifiCommand_eq (ssid pass : Bytes) :
    setWifiCommand ssid pass = ascii "ATSETWIF" ++ 73 :: (ssid ++ COMMA :: pass) := by
  have h : ascii "ATSETWIFI" = ascii "ATSETWIF" ++ [73] := by decide
  simp [setWifiCommand, h]

/-- A plain line within the budget is framed whole, however the drains cut it. -/
theorem serialLines_frame {line : Bytes} (hl : Plain line) (hne : line ≠ [])
    (hfit : line.length ≤ MAX_SERIAL_CMD_LENGTH) {drains : List Bytes}
    (hd : drains.flatten = frame line) : serialLines drains = [line] := by
  have hseg : segments isLineEnd drains.flatten = [line] := by
    rw [hd, frame]
    exact segments_closed (fun c hc => (hl c hc).1) (by decide)
  rw [serialLines, SerialCommandFramer.emitted_drain, hseg, List.flatMap_singleton, dispatched,
    overflowTail_of_le _ hfit, if_neg hne]

theorem cString_plain {line : Bytes} (hl : Plain line) : cString line = line :=
  List.takeWhile_eq_self_iff.mpr fun c hc => decide_eq_true (hl c hc).2

theorem normalize_setWifiCommand (ssid pass : Bytes) :
    ∃ t, normalizeAtCommand (setWifiCommand ssid pass) = ascii "ATSETWIFI" ++ t := by
  refine ⟨((ssid ++ COMMA :: pass).rdropWhile isBlank).map toupper, ?_⟩
  rw [setWifiCommand_eq, normalizeAtCommand, trim_append_cons (by decide), List.map_append,
    List.map_cons]
  have h : ((ascii "ATSETWIF").dropWhile isBlank).map toupper ++ [toupper 73] =
      ascii "ATSETWIFI" := by decide
  rw [← h, List.append_assoc, List.singleton_append]

/-- The command is recognised whatever the credentials are. -/
theorem find_handler (ssid pass : Bytes) :
    registerFirmwareHandlers.find? (·.matchesCmd (normalizeAtCommand (setWifiCommand ssid pass))) =
      some AtsetwifiCommandHandler := by
  obtain ⟨t, ht⟩ := normalize_setWifiCommand ssid pass
  rw [ht]
  rfl

theorem storedPairs_append (as bs : List AtCall) :
    storedPairs (as ++ bs) = storedPairs as ++ storedPairs bs := List.filterMap_append

/-- Answering and rebooting store nothing. -/
theorem storedPairs_handleSerialCommand (env : AtEnv) (ssid pass : Bytes) :
    storedPairs (handleSerialCommand env (setWifiCommand ssid pass)) =
      storedPairs (AtsetwifiCommandHandler.execute env (setWifiCommand ssid pass)).2 := by
  simp only [handleSerialCommand, handleCommand, find_handler, storedPairs_append,
    sendSerialPrompt]
  split <;> split <;> simp [storedPairs]

theorem parseSetWifiParams_split {u v : Bytes} (hu : COMMA ∉ u) :
    parseSetWifiParams (u ++ COMMA :: v) = if u = [] then {} else ⟨u, v, true⟩ := by
  rw [parseSetWifiParams, find_append_cons hu]
  cases u with
  | nil => rfl
  | cons c u => simp

/-- What the command stores is decided by the first comma of the trimmed parameters. -/
theorem storedPairs_execute (env : AtEnv) {u v : Bytes} (hu : COMMA ∉ u)
    (h : ssid.dropWhile isBlank ++ COMMA :: pass.rdropWhile isBlank = u ++ COMMA :: v) :
    storedPairs (AtsetwifiCommandHandler.execute env (setWifiCommand ssid pass)).2 =
      if u = [] ∨ 32 < u.length ∨ v = [] ∨ 64 < v.length then [] else [(u, v)] := by
  have hparams : (setWifiCommand ssid pass).drop 9 = ssid ++ COMMA :: pass := by
    have hlen : (ascii "ATSETWIFI").length = 9 := by decide
    rw [setWifiCommand, List.append_assoc, List.append_assoc, List.singleton_append,
      List.drop_left' hlen]
  have hblank : (ssid ++ COMMA :: pass).all isBlank = false := by
    rw [List.all_append, List.all_cons]
    simp [show isBlank COMMA = false by decide]
  simp only [AtsetwifiCommandHandler, hparams, hblank, Bool.false_eq_true, if_false,
    trim_append_cons (show isBlank COMMA = false by decide), h, parseSetWifiParams_split hu]
  by_cases hu0 : u = []
  · simp [hu0, storedPairs]
  · by_cases hu32 : 32 < u.length
    · simp [hu0, hu32, storedPairs]
    · by_cases hv0 : v = []
      · simp [hu0, hu32, hv0, storedPairs]
      · by_cases hv64 : 64 < v.length
        · simp [hu0, hu32, hv0, hv64, storedPairs]
        · cases hst : env.storeWifi u v <;> simp [hu0, hu32, hv0, hv64, storedPairs, hst]

/-- A command line within the framer's budget stores exactly the credentials it was built from,
and is the only command dispatched, if and only if the SSID has no comma and does not start with a
blank, and the password does not end with one. -/
theorem provisioned_iff (env : AtEnv) {ssid pass : Bytes}
    (hs : 1 ≤ ssid.length ∧ ssid.length ≤ 32) (hp : 1 ≤ pass.length ∧ pass.length ≤ 64)
    (hsp : Plain ssid) (hpp : Plain pass)
    (hfit : (setWifiCommand ssid pass).length ≤ MAX_SERIAL_CMD_LENGTH)
    {drains : List Bytes} (hd : drains.flatten = frame (setWifiCommand ssid pass)) :
    Provisioned env ssid pass drains ↔
      COMMA ∉ ssid ∧ (∀ c ∈ ssid.head?, isBlank c = false) ∧
        ∀ c ∈ pass.getLast?, isBlank c = false := by
  have hplain := plain_setWifiCommand hsp hpp
  have hne : setWifiCommand ssid pass ≠ [] := by rw [setWifiCommand_eq]; simp
  have hlines := serialLines_frame hplain hne hfit hd
  have hcalls : drainSerialATCommands env drains =
      handleSerialCommand env (setWifiCommand ssid pass) := by
    rw [drainSerialATCommands, hlines, List.flatMap_singleton, cString_plain hplain]
  obtain ⟨u, v, huv, hu, -⟩ := find_split (s := ssid.dropWhile isBlank ++
    COMMA :: pass.rdropWhile isBlank) (c := COMMA) (by simp)
  rw [Provisioned, hcalls, hlines, storedPairs_handleSerialCommand,
    storedPairs_execute env hu huv, ← dropWhile_eq_self_iff, ← rdropWhile_eq_self_iff]
  constructor
  · rintro ⟨hst, -⟩
    split at hst
    · exact absurd hst (by simp)
    · obtain ⟨rfl, rfl⟩ := Prod.mk.inj (List.cons.inj hst).1
      have hcomma : COMMA ∉ u.dropWhile isBlank := fun h => hu (List.dropWhile_sublist _ |>.mem h)
      exact ⟨hu, first_split_inj hcomma hu huv⟩
  · rintro ⟨hc, hs', hp'⟩
    rw [hs', hp'] at huv
    obtain ⟨rfl, rfl⟩ := first_split_inj hc hu huv
    have hs0 : ssid ≠ [] := List.ne_nil_of_length_pos (by omega)
    have hp0 : pass ≠ [] := List.ne_nil_of_length_pos (by omega)
    constructor
    · apply if_neg
      rintro (h | h | h | h)
      · exact hs0 h
      · omega
      · exact hp0 h
      · omega
    · rfl

/-- A device that accepts everything, for runs on fixed inputs. -/
def bench : AtEnv where
  storeWifi _ _ := true
  loadWifi := none
  storeToken _ := true
  clearWifi := true
  deviceId := List.replicate 16 0
  deviceId_length := rfl
  firmwareBuildVersion := ascii "0.3.0+unknown (no-vcs)"
  helo_fits := by decide +kernel

theorem provisioned_home :
    Provisioned bench (ascii "home net") (ascii "s,cret")
      [ascii "ATSETWIFIhome", ascii " net,s,cret", [CR]] :=
  (provisioned_iff bench (by decide) (by decide) (by decide) (by decide)
    (by decide) (by decide)).mpr (by decide +kernel)

/-- An SSID with a comma is split at it: `a,b` and `secret` are stored as `a` and `b,secret`. -/
theorem not_provisioned_comma :
    ¬ ∀ (env : AtEnv) (ssid pass : Bytes), 1 ≤ ssid.length ∧ ssid.length ≤ 32 →
      1 ≤ pass.length ∧ pass.length ≤ 64 → Plain ssid → Plain pass →
      Provisioned env ssid pass [frame (setWifiCommand ssid pass)] := by
  intro h
  have hx := h bench (ascii "a,b") (ascii "secret") (by decide) (by decide)
    (by decide) (by decide)
  revert hx
  unfold Provisioned
  decide

end WifiProvisioning

end VehicleSpy.Firmware
