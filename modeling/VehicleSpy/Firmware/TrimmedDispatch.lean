import VehicleSpy.Firmware.WifiProvisioning

/-! # Dispatch and the blanks around a command

A command is matched by its trimmed text and executed with the text as it came. Two handlers
read it: they skip as many characters as their command has, whatever these are, and trim the
rest. Blanks in front of the command leave them letters of the command itself.
-/

namespace VehicleSpy.Firmware.TrimmedDispatch

open Text AtCommandDispatcher WifiProvisioning

section Trim

variable {b s v w : Bytes} {c : Byte}

theorem trim_blanks_append (hb : ∀ c ∈ b, isBlank c = true) : trim (b ++ s) = trim s := by
  rw [trim, List.dropWhile_append_of_pos hb, trim]

theorem rdropWhile_append_blanks (hv : ∀ c ∈ v, isBlank c = true) :
    (s ++ v).rdropWhile isBlank = s.rdropWhile isBlank := by
  have hrev : ∀ c ∈ v.reverse, isBlank c = true := fun c hc => hv c (List.mem_reverse.mp hc)
  rw [List.rdropWhile, List.reverse_append, List.dropWhile_append_of_pos hrev, List.rdropWhile]

theorem trim_blanks (hs : ∀ c ∈ s, isBlank c = true) : trim s = [] := by
  rw [trim, List.dropWhile_eq_nil_iff.mpr hs]
  rfl

/-- A text with a character that stays, split at the first one. -/
theorem exists_first (h : ¬ ∀ c ∈ s, isBlank c = true) :
    ∃ b c t, s = b ++ c :: t ∧ (∀ d ∈ b, isBlank d = true) ∧ isBlank c = false := by
  refine ⟨s.takeWhile isBlank, ?_⟩
  rcases hrest : s.dropWhile isBlank with _ | ⟨c, t⟩
  · exact absurd (List.dropWhile_eq_nil_iff.mp hrest) h
  · refine ⟨c, t, ?_, fun d hd => List.mem_takeWhile_imp hd, ?_⟩
    · rw [← hrest, List.takeWhile_append_dropWhile]
    · have hhead := List.head?_dropWhile_not isBlank s
      rw [hrest] at hhead
      simpa using hhead

theorem trim_append_blanks (hv : ∀ c ∈ v, isBlank c = true) : trim (s ++ v) = trim s := by
  by_cases hs : ∀ c ∈ s, isBlank c = true
  · rw [trim_blanks_append hs, trim_blanks hs, trim_blanks hv]
  · obtain ⟨b, c, t, rfl, -, hc⟩ := exists_first hs
    rw [List.append_assoc, List.cons_append, trim_append_cons hc, trim_append_cons hc,
      rdropWhile_append_blanks hv]

/-- Stripping the end only leaves the blanks in front of the trimmed text. -/
theorem exists_rdropWhile_eq (s : Bytes) :
    ∃ b, (∀ d ∈ b, isBlank d = true) ∧ s.rdropWhile isBlank = b ++ trim s := by
  by_cases hs : ∀ c ∈ s, isBlank c = true
  · refine ⟨[], by simp, ?_⟩
    rw [trim_blanks hs, List.rdropWhile_eq_nil_iff.mpr hs, List.append_nil]
  · obtain ⟨b, c, t, rfl, hb, hc⟩ := exists_first hs
    refine ⟨b, hb, ?_⟩
    rw [rdropWhile_append_cons hc, trim_append_cons hc, List.dropWhile_eq_nil_iff.mpr hb,
      List.nil_append]

end Trim

section Cut

variable {b w : Bytes} {N i j : ℕ}

/-- As many characters are skipped less as there are blanks in front. -/
theorem trim_drop_blanks (hb : ∀ c ∈ b, isBlank c = true) :
    trim ((b ++ w).drop N) = trim (w.drop (N - b.length)) := by
  rw [List.drop_append]
  exact trim_blanks_append fun c hc => hb c (List.mem_of_mem_drop hc)

/-- Each character of the command that is not skipped stands in front of the parameters. -/
theorem exists_extra (hN : N ≤ w.length)
    (hcommand : ∀ c ∈ w.take N, isBlank c = false ∧ c ≠ COMMA) (hij : i < j) (hj : j ≤ N) :
    ∃ x, x ≠ [] ∧ COMMA ∉ x ∧ trim (w.drop (N - j)) = x ++ trim (w.drop (N - i)) := by
  obtain ⟨y, hy⟩ : ∃ y, y = (w.drop (N - j)).take (j - i) := ⟨_, rfl⟩
  have hsplit : w.drop (N - j) = y ++ w.drop (N - i) := by
    have hdrop : w.drop (N - i) = (w.drop (N - j)).drop (j - i) := by
      rw [List.drop_drop]
      congr 1
      omega
    rw [hy, hdrop, List.take_append_drop]
  have hlen : y.length = j - i := by
    rw [hy, List.length_take, List.length_drop]
    omega
  have hmem : ∀ c ∈ y, isBlank c = false ∧ c ≠ COMMA := by
    intro c hc
    refine hcommand c ?_
    have htake : w.take N = w.take (N - j) ++ (w.drop (N - j)).take j := by
      rw [← List.take_add]
      congr 1
      omega
    rw [htake, List.mem_append]
    rw [hy] at hc
    exact Or.inr (List.take_subset_take_left _ (Nat.sub_le j i) hc)
  have hne : y ≠ [] := List.ne_nil_of_length_pos (by omega)
  obtain ⟨front, c, rfl⟩ := (List.eq_nil_or_concat y).resolve_left hne
  obtain ⟨blanks, hblanks, hrest⟩ := exists_rdropWhile_eq (w.drop (N - i))
  refine ⟨front ++ c :: blanks, by simp, ?_, ?_⟩
  · intro hcomma
    rcases List.mem_append.mp hcomma with h | h
    · exact (hmem _ (by simp [h])).2 rfl
    · rcases List.mem_cons.mp h with h | h
      · exact (hmem c (by simp)).2 h.symm
      · exact absurd (hblanks _ h) (by decide)
  · have hfront : front.dropWhile isBlank = front := by
      refine (dropWhile_eq_self_iff isBlank).mpr fun d hd => (hmem d ?_).1
      simp [List.mem_of_mem_head? hd]
    rw [hsplit, List.concat_eq_append, List.append_assoc, List.singleton_append,
      trim_append_cons (hmem c (by simp)).1, hfront, hrest]
    simp

end Cut

section Handlers

/-- `AtsetwifiCommandHandler`, from its trimmed parameters on. -/
def setWifi (env : AtEnv) (params : Bytes) : AtCommandResult × List AtCall :=
  let wifiParams := parseSetWifiParams params
  if !wifiParams.valid then
    (⟨ascii "ERROR Invalid format. Use: ATSETWIFI<ssid>,<pass>", false, false⟩, [])
  else if wifiParams.ssid.isEmpty || 32 < wifiParams.ssid.length then
    (⟨ascii "ERROR Invalid SSID length (1-32 chars)", false, false⟩, [])
  else if wifiParams.password.isEmpty || 64 < wifiParams.password.length then
    (⟨ascii "ERROR Invalid password length (1-64 chars)", false, false⟩, [])
  else if env.storeWifi wifiParams.ssid wifiParams.password then
    (⟨ascii "OK WiFi credentials stored. Rebooting to connect...", true, true⟩,
      [.storeWifi wifiParams.ssid wifiParams.password])
  else
    (⟨ascii "ERROR Failed to store credentials", false, false⟩,
      [.storeWifi wifiParams.ssid wifiParams.password])

/-- `AtsettokenCommandHandler`, from its trimmed parameters on. -/
def setToken (env : AtEnv) (params : Bytes) : AtCommandResult × List AtCall :=
  if params.isEmpty then (⟨ascii "ERROR Token cannot be empty", false, false⟩, [])
  else if 64 < params.length then
    (⟨ascii "ERROR Token too long (max 64 chars)", false, false⟩, [])
  else if env.storeToken params then
    (⟨ascii "OK Token stored. Rebooting...", true, true⟩, [.storeToken params])
  else (⟨ascii "ERROR Failed to store token", false, false⟩, [.storeToken params])

/-- More letters in front of the parameters leave the answer as it is: there is no comma, or
the name is too long already, or it still fits and the password is not accepted. -/
def SameAnswer (extra : ℕ) (params : Bytes) : Prop :=
  match cutAt COMMA params with
  | none => True
  | some (ssid, password) =>
    32 < ssid.length ∨
      ssid ≠ [] ∧ extra + ssid.length ≤ 32 ∧ (password = [] ∨ 64 < password.length)

variable {env : AtEnv} {params x ssid password : Bytes}

theorem setWifi_none (h : COMMA ∉ params) : setWifi env params =
    (⟨ascii "ERROR Invalid format. Use: ATSETWIFI<ssid>,<pass>", false, false⟩, []) := by
  simp [setWifi, parseSetWifiParams, find_none_iff.mpr h]

/-- Parameters of blanks only are not trimmed, but they are no parameters either. -/
theorem execute_setWifi (env : AtEnv) (cmd : Bytes) :
    AtsetwifiCommandHandler.execute env cmd = setWifi env (trim (cmd.drop 9)) := by
  have hexecute : AtsetwifiCommandHandler.execute env cmd =
      setWifi env (if (cmd.drop 9).all isBlank then cmd.drop 9 else trim (cmd.drop 9)) := rfl
  by_cases hall : (cmd.drop 9).all isBlank = true
  · have hblank : ∀ c ∈ cmd.drop 9, isBlank c = true := List.all_eq_true.mp hall
    have hcomma : COMMA ∉ cmd.drop 9 := fun h => absurd (hblank _ h) (by decide)
    rw [hexecute, if_pos hall, setWifi_none hcomma, trim_blanks hblank,
      setWifi_none List.not_mem_nil]
  · rw [hexecute, if_neg hall]

theorem execute_setToken (env : AtEnv) (cmd : Bytes) :
    AtsettokenCommandHandler.execute env cmd = setToken env (trim (cmd.drop 10)) := rfl

/-- The client is told something else, or the stores are given something else. -/
def Differ (r r' : AtCommandResult × List AtCall) : Prop :=
  r.2 ≠ r'.2 ∨ r.1.response ≠ r'.1.response

theorem setToken_same (hlong : 64 < params.length) :
    setToken env (x ++ params) = setToken env params := by
  have hne : params ≠ [] := List.ne_nil_of_length_pos (by omega)
  have hlong' : 64 < x.length + params.length := by omega
  simp [setToken, hne, hlong, hlong']

theorem setToken_differ (hx : x ≠ []) (hshort : ¬ 64 < params.length) :
    Differ (setToken env (x ++ params)) (setToken env params) := by
  have hother : x ++ params ≠ params := by
    intro h
    have hlen := congrArg List.length h
    have hpos := List.length_pos_iff.mpr hx
    rw [List.length_append] at hlen
    omega
  by_cases hempty : params = []
  · refine Or.inr ?_
    simp only [setToken, hempty, List.append_nil, List.isEmpty_iff, hx, if_false, if_true]
    split
    · decide +kernel
    · split <;> (dsimp only; decide +kernel)
  · refine Or.inl ?_
    simp only [setToken, List.isEmpty_iff, List.append_eq_nil_iff, hx, hempty, false_and, if_false,
      if_neg hshort]
    split
    · split <;> simp
    · split <;> split <;> simpa using hx

/-- What is answered, by the name and the password that the first comma parts. -/
theorem setWifi_split (hssid : COMMA ∉ ssid) : setWifi env (ssid ++ COMMA :: password) =
    if ssid = [] then
      (⟨ascii "ERROR Invalid format. Use: ATSETWIFI<ssid>,<pass>", false, false⟩, [])
    else if 32 < ssid.length then
      (⟨ascii "ERROR Invalid SSID length (1-32 chars)", false, false⟩, [])
    else if password = [] ∨ 64 < password.length then
      (⟨ascii "ERROR Invalid password length (1-64 chars)", false, false⟩, [])
    else if env.storeWifi ssid password then
      (⟨ascii "OK WiFi credentials stored. Rebooting to connect...", true, true⟩,
        [.storeWifi ssid password])
    else
      (⟨ascii "ERROR Failed to store credentials", false, false⟩,
        [.storeWifi ssid password]) := by
  rw [setWifi, parseSetWifiParams_split hssid]
  by_cases hempty : ssid = []
  · simp [hempty]
  · simp [hempty]

theorem setWifi_same (hx : COMMA ∉ x) (h : SameAnswer x.length params) :
    setWifi env (x ++ params) = setWifi env params := by
  by_cases hcomma : COMMA ∈ params
  · obtain ⟨ssid, password, rfl, hssid, -⟩ := find_split hcomma
    have hboth : COMMA ∉ x ++ ssid := by simp [hx, hssid]
    rw [SameAnswer, cutAt_append_cons hssid] at h
    rw [← List.append_assoc, setWifi_split hboth, setWifi_split hssid]
    rcases h with hlong | ⟨hne, hfits, hbad⟩
    · have hne : ssid ≠ [] := List.ne_nil_of_length_pos (by omega)
      have hlong' : 32 < x.length + ssid.length := by omega
      simp [hne, hlong, hlong']
    · have hshort : ¬ 32 < ssid.length := by omega
      have hshort' : ¬ 32 < x.length + ssid.length := by omega
      simp [hne, hshort, hshort', hbad]
  · have hnone : COMMA ∉ x ++ params := by simp [hx, hcomma]
    rw [setWifi_none hnone, setWifi_none hcomma]

theorem setWifi_differ (hne : x ≠ []) (hx : COMMA ∉ x) (h : ¬ SameAnswer x.length params) :
    Differ (setWifi env (x ++ params)) (setWifi env params) := by
  have hcomma : COMMA ∈ params := by
    by_contra hcomma
    rw [SameAnswer, cutAt_eq_none_iff.mpr hcomma] at h
    exact h trivial
  obtain ⟨ssid, password, rfl, hssid, -⟩ := find_split hcomma
  have hboth : COMMA ∉ x ++ ssid := by simp [hx, hssid]
  have hbothne : x ++ ssid ≠ [] := by simp [hne]
  rw [SameAnswer, cutAt_append_cons hssid, not_or] at h
  rw [← List.append_assoc, setWifi_split hboth, setWifi_split hssid, if_neg hbothne,
    if_neg (c := 32 < ssid.length) h.1]
  by_cases hempty : ssid = []
  · rw [if_pos hempty]
    refine Or.inr ?_
    split
    · decide +kernel
    · split
      · decide +kernel
      · split <;> (dsimp only; decide +kernel)
  · rw [if_neg hempty]
    by_cases hlong : 32 < (x ++ ssid).length
    · rw [if_pos hlong]
      refine Or.inr ?_
      split
      · decide +kernel
      · split <;> (dsimp only; decide +kernel)
    · have hgood : ¬ (password = [] ∨ 64 < password.length) := by
        rw [List.length_append, not_lt] at hlong
        exact fun hbad => h.2 ⟨hempty, hlong, hbad⟩
      rw [if_neg hlong, if_neg hgood, if_neg hgood]
      refine Or.inl ?_
      split <;> split <;> simpa using hne

end Handlers

/-- The command skips as many characters as without more blanks in front. -/
def Aligned (N : ℕ) (u c : Bytes) : Prop := u = [] ∨ N ≤ (c.takeWhile isBlank).length

/-- More blanks in front do not matter: the command has no parameters to cut, or as many blanks
as it has letters stand there already, or the letters that are left do not change the answer. -/
structure CutsAlike (u c : Bytes) : Prop where
  wifi : startsWith (ascii "ATSETWIFI") (normalizeAtCommand c) = true → Aligned 9 u c ∨
    SameAnswer ((trim ((u ++ c).drop 9)).length - (trim (c.drop 9)).length) (trim (c.drop 9))
  token : startsWith (ascii "ATSETTOKEN") (normalizeAtCommand c) = true → Aligned 10 u c ∨
    64 < (trim (c.drop 10)).length

section Parameters

variable {P c u v : Bytes}

theorem normalize_blanks (hu : ∀ b ∈ u, isBlank b = true) (hv : ∀ b ∈ v, isBlank b = true) :
    normalizeAtCommand (u ++ c ++ v) = normalizeAtCommand c := by
  rw [normalizeAtCommand, trim_append_blanks hv, trim_blanks_append hu, normalizeAtCommand]

theorem letter_of_toupper {d : Byte} (h : 65 ≤ toupper d ∧ toupper d ≤ 90) :
    isBlank d = false ∧ d ≠ COMMA := by
  constructor
  · by_contra hblank
    simp only [Bool.not_eq_false, isBlank, Bool.or_eq_true, beq_iff_eq] at hblank
    rcases hblank with ((rfl | rfl) | rfl) | rfl <;> revert h <;> decide
  · rintro rfl
    revert h
    decide

/-- A command that is matched stands in front, in letters of either case. -/
theorem matched_letters (hP : ∀ p ∈ P, 65 ≤ p ∧ p ≤ 90)
    (h : startsWith P (normalizeAtCommand c) = true) :
    P.length ≤ (c.dropWhile isBlank).length ∧
      ∀ d ∈ (c.dropWhile isBlank).take P.length, isBlank d = false ∧ d ≠ COMMA := by
  have hprefix : P <+: (c.dropWhile isBlank).map toupper :=
    (startsWith_iff.mp h).trans ((List.rdropWhile_prefix _ _).map toupper)
  constructor
  · simpa using hprefix.length_le
  · intro d hd
    apply letter_of_toupper
    apply hP
    rw [List.prefix_iff_eq_take.mp hprefix, ← List.map_take]
    exact List.mem_map_of_mem hd

theorem trim_drop_command (hu : ∀ b ∈ u, isBlank b = true) (N : ℕ) :
    trim ((u ++ c).drop N) =
      trim ((c.dropWhile isBlank).drop (N - (u.length + (c.takeWhile isBlank).length))) := by
  have hlead : ∀ b ∈ u ++ c.takeWhile isBlank, isBlank b = true := by
    intro b hb
    exact (List.mem_append.mp hb).elim (hu b) fun h => List.mem_takeWhile_imp h
  have hsplit : u ++ c = (u ++ c.takeWhile isBlank) ++ c.dropWhile isBlank := by
    rw [List.append_assoc, List.takeWhile_append_dropWhile]
  rw [hsplit, trim_drop_blanks hlead, List.length_append]

theorem trim_drop_behind (hP : ∀ p ∈ P, 65 ≤ p ∧ p ≤ 90)
    (h : startsWith P (normalizeAtCommand c) = true) (hv : ∀ b ∈ v, isBlank b = true) :
    trim ((u ++ c ++ v).drop P.length) = trim ((u ++ c).drop P.length) := by
  have hlen : P.length ≤ (u ++ c).length := by
    have hfirst := (matched_letters hP h).1
    have hsub := (List.dropWhile_sublist isBlank (l := c)).length_le
    rw [List.length_append]
    omega
  rw [List.drop_append_of_le_length hlen, trim_append_blanks hv]

/-- The parameters are the same, or have letters of the command in front. -/
theorem params_cases (hP : ∀ p ∈ P, 65 ≤ p ∧ p ≤ 90)
    (h : startsWith P (normalizeAtCommand c) = true) (hu : ∀ b ∈ u, isBlank b = true) :
    Aligned P.length u c ∧ trim ((u ++ c).drop P.length) = trim (c.drop P.length) ∨
      ¬ Aligned P.length u c ∧ ∃ x, x ≠ [] ∧ COMMA ∉ x ∧
        trim ((u ++ c).drop P.length) = x ++ trim (c.drop P.length) := by
  have hbase : trim (c.drop P.length) =
      trim ((c.dropWhile isBlank).drop (P.length - (c.takeWhile isBlank).length)) := by
    have hnil := @trim_drop_command c [] (List.forall_mem_nil _) P.length
    rwa [List.nil_append, List.length_nil, Nat.zero_add] at hnil
  by_cases ha : Aligned P.length u c
  · refine Or.inl ⟨ha, ?_⟩
    rcases ha with rfl | hlead
    · rw [List.nil_append]
    · rw [trim_drop_command hu, hbase, Nat.sub_eq_zero_of_le hlead,
        Nat.sub_eq_zero_of_le (le_trans hlead (Nat.le_add_left _ _))]
  · refine Or.inr ⟨ha, ?_⟩
    rw [Aligned, not_or, not_le] at ha
    have hpos := List.length_pos_iff.mpr ha.1
    obtain ⟨hlen, hletters⟩ := matched_letters hP h
    have hmore : (c.takeWhile isBlank).length <
        min (u.length + (c.takeWhile isBlank).length) P.length := by omega
    obtain ⟨x, hx, hcomma, heq⟩ := exists_extra hlen hletters hmore (Nat.min_le_right _ _)
    refine ⟨x, hx, hcomma, ?_⟩
    rw [trim_drop_command hu, hbase, ← heq]
    congr 2
    omega

end Parameters

section Dispatch

variable {env : AtEnv} {c u v n : Bytes} {r r' : AtCommandResult × List AtCall}

/-- The calls that carry a handler's answer out. -/
def respond (sendPrompt : Bytes → List AtCall) (r : AtCommandResult × List AtCall) :
    List AtCall :=
  r.2 ++ sendPrompt r.1.response ++
    (if r.1.shouldFlushClient then [.tcpFlush, .serialPrintln (ascii "REBOOT"), .serialFlush]
      else []) ++
    (if r.1.shouldReboot then [.restart] else [])

theorem handleCommand_of_find {handler : AtCommandHandler} (sendPrompt : Bytes → List AtCall)
    (h : registerFirmwareHandlers.find? (·.matchesCmd (normalizeAtCommand c)) = some handler) :
    handleCommand env sendPrompt c = respond sendPrompt (handler.execute env c) := by
  rw [handleCommand, h]
  rfl

def isStore : AtCall → Bool
  | .storeWifi _ _ | .storeToken _ => true
  | _ => false

def printed : AtCall → Option Bytes
  | .tcpPrint s => some s
  | _ => none

theorem isStore_setWifi (params : Bytes) :
    ∀ call ∈ (setWifi env params).2, isStore call = true := by
  unfold setWifi
  dsimp only
  split
  · simp
  · split
    · simp
    · split
      · simp
      · split <;> simp [isStore]

theorem isStore_setToken (params : Bytes) :
    ∀ call ∈ (setToken env params).2, isStore call = true := by
  unfold setToken
  split
  · simp
  · split
    · simp
    · split <;> simp [isStore]

theorem filter_respond (h : ∀ call ∈ r.2, isStore call = true) :
    (respond sendTcpPrompt r).filter isStore = r.2 := by
  simp only [respond, List.filter_append, List.filter_eq_self.mpr h]
  split <;> split <;> simp [sendTcpPrompt, isStore]

theorem printed_respond (h : ∀ call ∈ r.2, isStore call = true) :
    (respond sendTcpPrompt r).filterMap printed = [r.1.response ++ [CR, CR, PROMPT]] := by
  have hnone : r.2.filterMap printed = [] := by
    rw [List.filterMap_eq_nil_iff]
    intro call hcall
    have hstore := h call hcall
    cases call <;> first | rfl | cases hstore
  simp only [respond, List.filterMap_append, hnone]
  split <;> split <;> simp [sendTcpPrompt, printed]

/-- Answers that differ are told apart over TCP. -/
theorem respond_ne (h : ∀ call ∈ r.2, isStore call = true)
    (h' : ∀ call ∈ r'.2, isStore call = true) (hd : Differ r r') :
    respond sendTcpPrompt r ≠ respond sendTcpPrompt r' := by
  intro heq
  rcases hd with hcalls | hresponse
  · apply hcalls
    rw [← filter_respond h, heq, filter_respond h']
  · apply hresponse
    have hprinted := printed_respond h
    rw [heq, printed_respond h'] at hprinted
    exact (List.append_cancel_right (List.cons.inj hprinted).1).symm

theorem find_setWifi (h : startsWith (ascii "ATSETWIFI") n = true) :
    registerFirmwareHandlers.find? (·.matchesCmd n) = some AtsetwifiCommandHandler := by
  obtain ⟨t, rfl⟩ := startsWith_iff.mp h
  rfl

theorem find_setToken (h : startsWith (ascii "ATSETTOKEN") n = true) :
    registerFirmwareHandlers.find? (·.matchesCmd n) = some AtsettokenCommandHandler := by
  obtain ⟨t, rfl⟩ := startsWith_iff.mp h
  rfl

/-- The other handlers do not read the text. -/
theorem execute_eq {handler : AtCommandHandler}
    (h : registerFirmwareHandlers.find? (·.matchesCmd n) = some handler)
    (hwifi : ¬ startsWith (ascii "ATSETWIFI") n = true)
    (htoken : ¬ startsWith (ascii "ATSETTOKEN") n = true) (cmd cmd' : Bytes) :
    handler.execute env cmd = handler.execute env cmd' := by
  have hmem := List.mem_of_find?_eq_some h
  have hmatch := List.find?_some h
  simp only [registerFirmwareHandlers, List.mem_cons, List.not_mem_nil, or_false] at hmem
  rcases hmem with rfl | rfl | rfl | rfl | rfl | rfl | rfl | rfl | rfl | rfl | rfl | rfl | rfl | rfl
  case inr.inr.inr.inr.inr.inr.inr.inr.inl => exact absurd hmatch hwifi
  case inr.inr.inr.inr.inr.inr.inr.inr.inr.inr.inl => exact absurd hmatch htoken
  all_goals rfl

/-- A handler that cuts its parameters behind the letters `P`: more letters in front of them matter
unless `S` says that they do not. -/
theorem answers_iff {P : Bytes} {handler : AtCommandHandler}
    {answer : Bytes → AtCommandResult × List AtCall} {S : ℕ → Bytes → Prop}
    (hP : ∀ p ∈ P, 65 ≤ p ∧ p ≤ 90) (hcmd : startsWith P (normalizeAtCommand c) = true)
    (hfind : registerFirmwareHandlers.find? (·.matchesCmd (normalizeAtCommand c)) = some handler)
    (hexecute : ∀ cmd, handler.execute env cmd = answer (trim (cmd.drop P.length)))
    (hstore : ∀ params, ∀ call ∈ (answer params).2, isStore call = true)
    (hsame : ∀ x params, COMMA ∉ x → S x.length params → answer (x ++ params) = answer params)
    (hdiffer : ∀ x params, x ≠ [] → COMMA ∉ x → ¬ S x.length params →
      Differ (answer (x ++ params)) (answer params))
    (hu : ∀ b ∈ u, isBlank b = true) (hv : ∀ b ∈ v, isBlank b = true) :
    (handleSerialCommand env (u ++ c ++ v) = handleSerialCommand env c ∧
      handleTcpCommand env (u ++ c ++ v) = handleTcpCommand env c) ↔
    Aligned P.length u c ∨
      S ((trim ((u ++ c).drop P.length)).length - (trim (c.drop P.length)).length)
        (trim (c.drop P.length)) := by
  have hfind' := hfind
  rw [← normalize_blanks hu hv (c := c)] at hfind'
  simp only [handleSerialCommand, handleTcpCommand, handleCommand_of_find _ hfind,
    handleCommand_of_find _ hfind', hexecute, trim_drop_behind hP hcmd hv]
  rcases params_cases hP hcmd hu with ⟨ha, heq⟩ | ⟨ha, x, hx, hcomma, heq⟩
  · rw [heq]
    exact iff_of_true ⟨rfl, rfl⟩ (Or.inl ha)
  · have hextra : (trim ((u ++ c).drop P.length)).length - (trim (c.drop P.length)).length =
        x.length := by rw [heq, List.length_append, Nat.add_sub_cancel]
    rw [hextra, heq]
    by_cases hS : S x.length (trim (c.drop P.length))
    · rw [hsame _ _ hcomma hS]
      exact iff_of_true ⟨rfl, rfl⟩ (Or.inr hS)
    · refine iff_of_false (fun h => ?_) fun h => h.elim ha hS
      exact respond_ne (hstore _) (hstore _) (hdiffer x _ hx hcomma hS) h.2

end Dispatch

/-- Blanks around a command do not matter just when the fixed cut of its parameters does not. -/
theorem dispatch_iff (env : AtEnv) {c u v : Bytes} (hu : ∀ b ∈ u, isBlank b = true)
    (hv : ∀ b ∈ v, isBlank b = true) :
    (handleSerialCommand env (u ++ c ++ v) = handleSerialCommand env c ∧
      handleTcpCommand env (u ++ c ++ v) = handleTcpCommand env c) ↔ CutsAlike u c := by
  by_cases hwifi : startsWith (ascii "ATSETWIFI") (normalizeAtCommand c) = true
  · have htoken : ¬ startsWith (ascii "ATSETTOKEN") (normalizeAtCommand c) = true := by
      intro htoken
      have hle : (ascii "ATSETWIFI").length ≤ (ascii "ATSETTOKEN").length := by decide
      have hprefix := List.prefix_of_prefix_length_le (startsWith_iff.mp hwifi)
        (startsWith_iff.mp htoken) hle
      revert hprefix
      decide +kernel
    have hanswers := answers_iff (S := SameAnswer) (by decide +kernel) hwifi (find_setWifi hwifi)
      (execute_setWifi env) isStore_setWifi (fun _ _ => setWifi_same) (fun _ _ => setWifi_differ)
      hu hv
    constructor
    · exact fun h => ⟨fun _ => hanswers.mp h, fun h => absurd h htoken⟩
    · exact fun h => hanswers.mpr (h.wifi hwifi)
  · by_cases htoken : startsWith (ascii "ATSETTOKEN") (normalizeAtCommand c) = true
    · have hanswers := answers_iff (S := fun _ params => 64 < params.length) (by decide +kernel)
        htoken (find_setToken htoken) (execute_setToken env) isStore_setToken
        (fun _ _ _ => setToken_same) (fun _ _ hx _ => setToken_differ hx) hu hv
      constructor
      · exact fun h => ⟨fun h => absurd h hwifi, fun _ => hanswers.mp h⟩
      · exact fun h => hanswers.mpr (h.token htoken)
    · refine iff_of_true ?_ ⟨fun h => absurd h hwifi, fun h => absurd h htoken⟩
      have hnormal := normalize_blanks hu hv (c := c)
      simp only [handleSerialCommand, handleTcpCommand]
      cases hfind : registerFirmwareHandlers.find? (·.matchesCmd (normalizeAtCommand c)) with
      | none => simp only [handleCommand, hnormal, hfind, and_self]
      | some handler =>
        have hfind' := hfind
        rw [← hnormal] at hfind'
        simp only [handleCommand_of_find _ hfind, handleCommand_of_find _ hfind',
          execute_eq hfind hwifi htoken (u ++ c ++ v) c, and_self]

section Bench

theorem dispatch_blanks_behind :
    handleSerialCommand bench ([] ++ ascii "ATSETWIFIhome,opensesame" ++ [SP, CR, LF]) =
        handleSerialCommand bench (ascii "ATSETWIFIhome,opensesame") ∧
      handleTcpCommand bench ([] ++ ascii "ATSETWIFIhome,opensesame" ++ [SP, CR, LF]) =
        handleTcpCommand bench (ascii "ATSETWIFIhome,opensesame") :=
  (dispatch_iff bench (List.forall_mem_nil _) (by decide +kernel)).mpr
    ⟨fun _ => Or.inl (Or.inl rfl), fun _ => Or.inl (Or.inl rfl)⟩

/-- One blank in front: the name is stored as `Ihome`. -/
theorem not_dispatch_blank_in_front :
    ¬ (handleSerialCommand bench ([SP] ++ ascii "ATSETWIFIhome,opensesame" ++ []) =
        handleSerialCommand bench (ascii "ATSETWIFIhome,opensesame") ∧
      handleTcpCommand bench ([SP] ++ ascii "ATSETWIFIhome,opensesame" ++ []) =
        handleTcpCommand bench (ascii "ATSETWIFIhome,opensesame")) := by
  decide +kernel

end Bench

end VehicleSpy.Firmware.TrimmedDispatch
