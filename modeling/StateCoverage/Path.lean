import StateCoverage.Text.CodePoint

/-!
POSIX paths, read without looking at any file.
-/
namespace StateCoverage.Path

def slash : CodePoint := .scalar '/'

def here : Text := [.scalar '.']

def up : Text := [.scalar '.', .scalar '.']

def segments (path : Text) : List Text := path.cut '/'

def ofSegments (parts : List Text) : Text := Text.join [slash] parts

def isAbsolute (path : Text) : Bool := path.head? = some slash

/-- How many slashes lead a normal path: exactly two stay two, more become one. -/
def rootSlashes (path : Text) : Nat :=
  match (path.takeWhile (· = slash)).length with
  | 0 => 0
  | 2 => 2
  | _ => 1

/-- One segment walked from the place that the segments before it reach, last segment first.
`..` at the root stays there; a relative path keeps the `..` that lead out of it. -/
def walkSegment (absolute : Bool) (place : List Text) (segment : Text) : List Text :=
  if segment = [] ∨ segment = here then place
  else if segment = up then
    match place with
    | [] => if absolute then [] else [segment]
    | last :: before => if last = up then segment :: place else before
  else segment :: place

def walk (absolute : Bool) (parts : List Text) : List Text :=
  (parts.foldl (walkSegment absolute) []).reverse

def normalize (path : Text) : Text :=
  let slashes := rootSlashes path
  let whole := List.replicate slashes slash ++ ofSegments (walk (slashes ≠ 0) (segments path))
  if whole = [] then here else whole

def join (base path : Text) : Text :=
  if isAbsolute path then path
  else if base = [] ∨ base.getLast? = some slash then base ++ path
  else base ++ slash :: path

/-- The normal absolute form of a path seen from `cwd`, which itself is seen from the root. -/
def absolute (cwd path : Text) : Text := normalize (join (join [slash] cwd) path)

def bare (path : Text) : Text := (path.reverse.dropWhile (· = slash)).reverse

/-- The part before the last slash; a root keeps its slashes. -/
def parent (path : Text) : Text :=
  let head := (path.reverse.dropWhile (· ≠ slash)).reverse
  if bare head = [] then head else bare head

def names (path : Text) : List Text := (segments path).filter fun s => s ≠ [] && s ≠ here

/-- The last name with its dot and what follows it; a dot that starts or ends the name counts for
none. -/
def suffix (path : Text) : Text :=
  match (names path).getLast? with
  | none => []
  | some name =>
    let tail := (name.reverse.takeWhile (· ≠ .scalar '.')).reverse
    if tail.length = name.length ∨ tail.length + 1 = name.length ∨ tail = [] then []
    else .scalar '.' :: tail

def tidy (path : Text) : Text :=
  let whole := List.replicate (rootSlashes path) slash ++ ofSegments (names path)
  if whole = [] then here else whole

end StateCoverage.Path
