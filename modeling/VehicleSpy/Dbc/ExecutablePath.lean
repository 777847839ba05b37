import VehicleSpy.Text.Bytes

/-! # Resolving resource paths

A relative path is looked for under the directory of the executable, under each of its
ancestors and under the working directory, in that order.
-/

namespace VehicleSpy.Dbc

open Text

/-- What the system answers during one call. -/
structure Files where
  directory : Bytes
  currentPath : Option Bytes
  pathExists : Bytes → Bool
  read : Bytes → Option Bytes
  openable : Bytes → Bool

namespace ExecutablePath

def isSeparator (c : Byte) : Bool := c == 47 || c == 92

def isAbsolutePath : Bytes → Bool
  | [] => false
  | c :: path =>
    isSeparator c || match path with
      | d :: e :: _ => d == COLON && isSeparator e
      | _ => false

/-- What stands before the last separator, and the separator itself at the root. -/
def parentDir (path : Bytes) : Bytes :=
  match path.rdropWhile (!isSeparator ·) with
  | [] => []
  | [c] => [c]
  | up => up.dropLast

def joinPath (dir rel : Bytes) : Bytes :=
  match dir.getLast? with
  | none => rel
  | some c => if isSeparator c then dir ++ rel else dir ++ 47 :: rel

def pushUnique (candidates : List Bytes) (candidate : Bytes) : List Bytes :=
  if candidate ∈ candidates then candidates else candidates ++ [candidate]

/-- The directory and its ancestors, up to the root or a path without separators. -/
def ancestors (fuel : ℕ) (dir : Bytes) : List Bytes :=
  match fuel with
  | 0 => []
  | fuel + 1 =>
    if dir = [] then []
    else if parentDir dir = dir then [dir]
    else dir :: ancestors fuel (parentDir dir)

def resourceCandidates (files : Files) (resourcePath : Bytes) : List Bytes :=
  if isAbsolutePath resourcePath then [resourcePath]
  else
    let dirs := ancestors (files.directory.length + 1) files.directory ++ files.currentPath.toList
    (dirs.map (joinPath · resourcePath)).foldl pushUnique []

/-- The first candidate that exists, else the first one at all. -/
def resolveResource (files : Files) (resourcePath : Bytes) : Bytes :=
  let candidates := resourceCandidates files resourcePath
  match candidates.find? files.pathExists with
  | some candidate => candidate
  | none => candidates.headD resourcePath

theorem length_parentDir_lt {dir : Bytes} (h : parentDir dir ≠ dir) (hne : dir ≠ []) :
    (parentDir dir).length < dir.length := by
  have hle := (List.rdropWhile_prefix (!isSeparator ·) dir).length_le
  unfold parentDir at h ⊢
  split
  · exact List.length_pos_of_ne_nil hne
  · next c hc =>
    rw [hc] at h hle
    apply Nat.lt_of_le_of_ne hle
    intro he
    apply h
    have := List.IsPrefix.eq_of_length (List.rdropWhile_prefix (!isSeparator ·) dir)
      (by rw [hc]; exact he)
    rw [hc] at this
    exact this
  · next up hnil hone =>
    have hpos := List.length_pos_of_ne_nil hnil
    rw [List.length_dropLast]
    omega

/-- Any fuel above the length gives the whole walk. -/
theorem ancestors_fuel {fuel fuel' : ℕ} {dir : Bytes} (h : dir.length < fuel)
    (h' : dir.length < fuel') : ancestors fuel dir = ancestors fuel' dir := by
  induction fuel generalizing fuel' dir with
  | zero => omega
  | succ fuel ih =>
    cases fuel' with
    | zero => omega
    | succ fuel' =>
      unfold ancestors
      split
      · rfl
      · next hne =>
        split
        · rfl
        · next hp =>
          have hlt := length_parentDir_lt hp hne
          rw [ih (Nat.lt_of_lt_of_le hlt (Nat.le_of_lt_succ h))
            (Nat.lt_of_lt_of_le hlt (Nat.le_of_lt_succ h'))]

end ExecutablePath

end VehicleSpy.Dbc
