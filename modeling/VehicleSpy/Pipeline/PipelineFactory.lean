import VehicleSpy.Telemetry.CsvReplay

/-! # TCP targets

The body of a target is cut at its last colon. If the text behind it is not a number, the colon
belongs to the host.
-/

namespace VehicleSpy.Pipeline.PipelineFactory

open Text Telemetry

def PREFIX : Bytes := ascii "tcp:"

def DEFAULT_PORT : ℤ := 3333

/-- `std::stoi`; nothing is told of what it throws. -/
def stoi (s : Bytes) : Except Unit ℤ :=
  match Telemetry.stoi s with
  | some v => .ok v
  | none => .error ()

/-- The result with both outputs. The port is read in a `try` block whose handler rejects. -/
def parseTcpTarget (target hostOut : Bytes) (portOut : ℤ) : Except Unit (Bool × Bytes × ℤ) :=
  if startsWith PREFIX target = false then .ok (false, hostOut, portOut)
  else
    let body := target.drop PREFIX.length
    if body = [] then .ok (false, hostOut, portOut)
    else
      match cutAtLast COLON body with
      | some (hostPart, portPart) =>
        if portPart ≠ [] ∧ portPart.all (isDigit 10) = true then
          tryCatch (do
            let port ← stoi portPart
            if port < 1 ∨ 65535 < port then return (false, hostOut, portOut)
            else if hostPart = [] then return (false, hostOut, portOut)
            else return (true, hostPart, port))
            fun _ => .ok (false, hostOut, portOut)
        else .ok (true, body, DEFAULT_PORT)
      | none => .ok (true, body, DEFAULT_PORT)

/-- The text behind the last colon is a decimal number. -/
def Numbered (body host digits : Bytes) : Prop :=
  body = host ++ COLON :: digits ∧ digits ≠ [] ∧ ∀ c ∈ digits, isDigit 10 c = true

def IsPort (port : ℤ) : Prop := 1 ≤ port ∧ port ≤ 65535

/-- A target names the host in front of a number and the number, or all of its body as the host. -/
def Names (target host : Bytes) (port : ℤ) : Prop :=
  ∃ body, target = PREFIX ++ body ∧ body ≠ [] ∧
    ((∃ digits, Numbered body host digits ∧ host ≠ [] ∧ port = numValue 10 digits ∧ IsPort port) ∨
      (¬ ∃ h d, Numbered body h d) ∧ host = body ∧ port = DEFAULT_PORT)

/-- A host without colons, and perhaps a port. -/
def StrictlyNames (target host : Bytes) (port : ℤ) : Prop :=
  host ≠ [] ∧ COLON ∉ host ∧
    (target = PREFIX ++ host ∧ port = DEFAULT_PORT ∨
      ∃ digits, target = PREFIX ++ (host ++ COLON :: digits) ∧ digits ≠ [] ∧
        (∀ c ∈ digits, isDigit 10 c = true) ∧ port = numValue 10 digits ∧ IsPort port)

/-- What a parser makes of targets: it accepts those that have a name, with that name, and leaves
the outputs of a rejected one alone. -/
def Accepts (names : Bytes → Bytes → ℤ → Prop) (target hostOut : Bytes) (portOut : ℤ) : Prop :=
  (∃ host port, names target host port ∧
    parseTcpTarget target hostOut portOut = .ok (true, host, port)) ∨
  (¬ ∃ host port, names target host port) ∧
    parseTcpTarget target hostOut portOut = .ok (false, hostOut, portOut)

section Parse

variable {target body host hostOut digits : Bytes} {portOut : ℤ}

/-- A port of digits is read unless it is too great for an `int`. -/
theorem stoi_digits (hne : digits ≠ []) (hd : ∀ c ∈ digits, isDigit 10 c = true) :
    Telemetry.stoi digits =
      if (numValue 10 digits : ℤ) < 2 ^ 31 then some (numValue 10 digits : ℤ) else none := by
  have hsign : takeSign (digits.dropWhile isSpace) = (false, digits) := by
    have h := takeSign_digits hd hne []
    rwa [List.append_nil] at h
  have htake : digits.takeWhile (isDigit 10) = digits := List.takeWhile_eq_self_iff.mpr hd
  simp only [Telemetry.stoi, hsign, htake, if_neg hne, Bool.false_eq_true, if_false]
  have hlow : -2 ^ 31 ≤ (numValue 10 digits : ℤ) := by omega
  simp only [hlow, true_and]

theorem colon_free (hd : ∀ c ∈ digits, isDigit 10 c = true) : COLON ∉ digits := by
  intro hmem
  exact absurd (hd _ hmem) (by decide)

theorem cutAtLast_numbered (h : Numbered body host digits) :
    cutAtLast COLON body = some (host, digits) :=
  cutAtLast_iff.mpr ⟨h.1, colon_free h.2.2⟩

/-- A body has at most one number. -/
theorem numbered_unique {host' digits' : Bytes} (h : Numbered body host digits)
    (h' : Numbered body host' digits') : host' = host ∧ digits' = digits := by
  have he := (cutAtLast_numbered h').symm.trans (cutAtLast_numbered h)
  exact Prod.mk.inj (Option.some.inj he)

theorem parse_body (hne : body ≠ []) :
    parseTcpTarget (PREFIX ++ body) hostOut portOut =
      match cutAtLast COLON body with
      | some (hostPart, portPart) =>
        if portPart ≠ [] ∧ portPart.all (isDigit 10) = true then
          tryCatch (do
            let port ← stoi portPart
            if port < 1 ∨ 65535 < port then return (false, hostOut, portOut)
            else if hostPart = [] then return (false, hostOut, portOut)
            else return (true, hostPart, port))
            fun _ => .ok (false, hostOut, portOut)
        else .ok (true, body, DEFAULT_PORT)
      | none => .ok (true, body, DEFAULT_PORT) := by
  have hpre : startsWith PREFIX (PREFIX ++ body) = true :=
    startsWith_iff.mpr (List.prefix_append _ _)
  unfold parseTcpTarget
  simp only [hpre, Bool.true_eq_false, if_false, List.drop_left, if_neg hne]

/-- A number that is a port is taken, with the host in front of it. -/
theorem parse_numbered (h : Numbered body host digits) (hne : host ≠ [])
    (hport : IsPort (numValue 10 digits)) :
    parseTcpTarget (PREFIX ++ body) hostOut portOut =
      .ok (true, host, (numValue 10 digits : ℤ)) := by
  obtain ⟨hlow, hhigh⟩ := hport
  have hbody : body ≠ [] := by
    rw [h.1]
    simp
  have hall : digits.all (isDigit 10) = true := List.all_eq_true.mpr h.2.2
  have hread : stoi digits = .ok (numValue 10 digits : ℤ) := by
    unfold stoi
    rw [stoi_digits h.2.1 h.2.2, if_pos (by omega)]
  rw [parse_body hbody, cutAtLast_numbered h]
  simp only [if_pos (And.intro h.2.1 hall), hread]
  have hin : ¬ ((numValue 10 digits : ℤ) < 1 ∨ 65535 < (numValue 10 digits : ℤ)) := by omega
  change tryCatch (if _ then _ else if _ then _ else _) _ = _
  rw [if_neg hin, if_neg hne]
  rfl

/-- Any other number is no target, also one that `std::stoi` throws at. -/
theorem parse_misnumbered (h : Numbered body host digits)
    (hnot : ¬ (host ≠ [] ∧ IsPort (numValue 10 digits))) :
    parseTcpTarget (PREFIX ++ body) hostOut portOut = .ok (false, hostOut, portOut) := by
  have hbody : body ≠ [] := by
    rw [h.1]
    simp
  have hall : digits.all (isDigit 10) = true := List.all_eq_true.mpr h.2.2
  rw [parse_body hbody, cutAtLast_numbered h]
  simp only [if_pos (And.intro h.2.1 hall), stoi, stoi_digits h.2.1 h.2.2]
  by_cases hint : (numValue 10 digits : ℤ) < 2 ^ 31
  · simp only [if_pos hint]
    change tryCatch (if _ then _ else if _ then _ else _) _ = _
    by_cases hin : (numValue 10 digits : ℤ) < 1 ∨ 65535 < (numValue 10 digits : ℤ)
    · rw [if_pos hin]
      rfl
    · have hhost : host = [] := by
        by_contra hne
        exact hnot ⟨hne, by unfold IsPort; omega⟩
      rw [if_neg hin, if_pos hhost]
      rfl
  · simp only [if_neg hint]
    rfl

/-- Without a number the whole body is the host. -/
theorem parse_unnumbered (hbody : body ≠ []) (hnone : ¬ ∃ h d, Numbered body h d) :
    parseTcpTarget (PREFIX ++ body) hostOut portOut = .ok (true, body, DEFAULT_PORT) := by
  rw [parse_body hbody]
  cases hcut : cutAtLast COLON body with
  | none => rfl
  | some parts =>
    obtain ⟨u, v⟩ := parts
    have hnot : ¬ (v ≠ [] ∧ v.all (isDigit 10) = true) := by
      rintro ⟨hne, hall⟩
      exact hnone ⟨u, v, (cutAtLast_iff.mp hcut).1, hne, List.all_eq_true.mp hall⟩
    exact if_neg hnot

/-- What is not `tcp:` and a body is rejected at once. -/
theorem parse_else (h : ¬ ∃ body, target = PREFIX ++ body ∧ body ≠ []) :
    parseTcpTarget target hostOut portOut = .ok (false, hostOut, portOut) := by
  unfold parseTcpTarget
  by_cases hpre : startsWith PREFIX target = true
  · obtain ⟨body, rfl⟩ := startsWith_iff.mp hpre
    have hempty : body = [] := by
      by_contra hne
      exact h ⟨body, rfl, hne⟩
    simp only [hpre, Bool.true_eq_false, if_false, List.drop_left, if_pos hempty]
  · rw [if_pos (Bool.not_eq_true _ ▸ hpre)]

end Parse

/-- The parser accepts the targets that have a name, and no string makes it throw. -/
theorem parseTcpTarget_accepts (target hostOut : Bytes) (portOut : ℤ) :
    Accepts Names target hostOut portOut := by
  by_cases hbody : ∃ body, target = PREFIX ++ body ∧ body ≠ []
  · obtain ⟨body, rfl, hne⟩ := hbody
    by_cases hnum : ∃ h d, Numbered body h d
    · obtain ⟨host, digits, h⟩ := hnum
      by_cases hgood : host ≠ [] ∧ IsPort (numValue 10 digits)
      · refine Or.inl ⟨host, numValue 10 digits, ⟨body, rfl, hne, Or.inl ?_⟩,
          parse_numbered h hgood.1 hgood.2⟩
        exact ⟨digits, h, hgood.1, rfl, hgood.2⟩
      · refine Or.inr ⟨?_, parse_misnumbered h hgood⟩
        rintro ⟨host', port, body', hb, -, ⟨digits', h', hne', rfl, hport⟩ | ⟨hnone, -⟩⟩
        · obtain rfl := List.append_cancel_left hb
          obtain ⟨rfl, rfl⟩ := numbered_unique h h'
          exact hgood ⟨hne', hport⟩
        · obtain rfl := List.append_cancel_left hb
          exact hnone ⟨host, digits, h⟩
    · exact Or.inl ⟨body, DEFAULT_PORT, ⟨body, rfl, hne, Or.inr ⟨hnum, rfl, rfl⟩⟩,
        parse_unnumbered hne hnum⟩
  · refine Or.inr ⟨?_, parse_else hbody⟩
    rintro ⟨host, port, body, hb, hne, -⟩
    exact hbody ⟨body, hb, hne⟩

/-- A host may hold a colon: in `tcp:a:b` the whole body is the host. -/
theorem not_strictlyNames : ¬ ∀ target hostOut portOut,
    Accepts StrictlyNames target hostOut portOut := by
  intro h
  have hrun : parseTcpTarget (ascii "tcp:a:b") [] 0 =
      .ok (true, ascii "a:b", DEFAULT_PORT) := by decide
  rcases h (ascii "tcp:a:b") [] 0 with ⟨host, port, hname, he⟩ | ⟨-, he⟩
  · have hhost : host = ascii "a:b" := by
      rw [hrun] at he
      exact (Prod.mk.inj (Prod.mk.inj (Except.ok.inj he)).2).1.symm
    exact hname.2.1 (hhost ▸ by decide)
  · rw [hrun] at he
    exact absurd (Prod.mk.inj (Except.ok.inj he)).1 (by decide)

end VehicleSpy.Pipeline.PipelineFactory
