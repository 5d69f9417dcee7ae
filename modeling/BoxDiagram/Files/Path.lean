import BoxDiagram.Text.Quoted

/-!
# Paths

A path is a root, which is empty for a path relative to the working folder, and the names on
the way.  Slashes that follow each other count once and the name `.` is left out, while `..`
stays.  The last name has a suffix from its last dot on, unless the dot is its first or its
last character.
-/

namespace BoxDiagram

/-- A path. -/
structure Path where
  root : Text
  parts : List Text
  deriving DecidableEq, Repr

namespace Path

/-- The root of a text: none, a slash, or exactly two slashes. -/
def rootOf (t : Text) : Text :=
  match t.takeWhile (· == '/') with
  | [] => []
  | ['/', '/'] => ['/', '/']
  | _ => ['/']

/-- The path that a text names. -/
def ofText (t : Text) : Path :=
  ⟨rootOf t, (t.splitWhere (· == '/')).filter fun part => !part.isEmpty && part != ['.']⟩

/-- A path as text. -/
def text (p : Path) : Text :=
  if p.root.isEmpty && p.parts.isEmpty then ['.'] else p.root ++ Text.join ['/'] p.parts

/-- A path below another. -/
def child (p : Path) (name : Text) : Path := { p with parts := p.parts ++ [name] }

/-- The path without its last name. -/
def parent (p : Path) : Path := { p with parts := p.parts.dropLast }

/-- The last name. -/
def name (p : Path) : Text := p.parts.getLast?.getD []

/-- A name without its suffix, and the suffix. -/
def splitName (name : Text) : Text × Text :=
  let suffix := (name.reverse.takeWhile (· != '.')).reverse
  let stem := name.take (name.length - suffix.length - 1)
  if suffix.length == name.length || stem.isEmpty || suffix.isEmpty then (name, [])
  else (stem, '.' :: suffix)

/-- The last name without its suffix. -/
def stem (p : Path) : Text := (splitName p.name).1

/-- The suffix of the last name. -/
def suffix (p : Path) : Text := (splitName p.name).2

/-- A path with another suffix; a path without a name has none. -/
def withSuffix? (p : Path) (suffix : Text) : Option Path :=
  if p.name.isEmpty then none else some (p.parent.child (p.stem ++ suffix))

/-- The order of paths: name by name, by code points. -/
def partsBefore : List Text → List Text → Bool
  | [], [] => false
  | [], _ :: _ => true
  | _ :: _, [] => false
  | t :: ts, u :: us => t.before u || (t == u && partsBefore ts us)

end Path

end BoxDiagram
