import BoxDiagram.Document.Relation
import BoxDiagram.Document.Row
import BoxDiagram.Text.Case

/-!
# Scopes

A document describes a tree of scopes.  A scope has rows of boxes, relations between boxes,
and the scopes nested in it, each under a label.  Scopes are declared by dotted paths: a path
goes down into the first nested scope whose label and a dot it begins with, and what is left
of it becomes the label of a new last child.  A path that leads to a child already there, or
to no label at all, declares nothing.

A scope without a layout section is an error.  Validation records on every scope the messages
about it and all scopes below it.
-/

namespace BoxDiagram

/-- The mark between the labels of a path. -/
def pathSeparator : Char := '.'

/-- A label below a path; the root has the empty path. -/
def pathBelow (parent label : Text) : Text :=
  if parent.isEmpty then label else parent ++ pathSeparator :: label

/-- A scope of a diagram, with the messages of the last validation. -/
structure Scope where
  label : Text
  layout : Option (List Row)
  relations : Option (List Relation)
  nested : List Scope
  messages : List Text
  deriving Repr

namespace Scope

/-- A scope about which nothing is known but its label. -/
def empty (label : Text) : Scope := ⟨label, none, none, [], []⟩

/-- Whether validation found anything amiss. -/
def hasErrors (s : Scope) : Bool := !s.messages.isEmpty

/-- The nested scope with a given label. -/
def nested? (s : Scope) (label : Text) : Option Scope := s.nested.find? (·.label == label)

/-! ### Declaring -/

/-- Take up a plain section.  The first layout section and the first relations section count, and
sections with any other header are left out. -/
def addSection (s : Scope) (part : Section) : Scope :=
  let header := part.header.lower
  if header == ("layout" : Text) then
    if s.layout.isNone then { s with layout := some (rowsOf part) } else s
  else if header == ("relations" : Text) then
    if s.relations.isNone then { s with relations := some (relationsOf part) } else s
  else s

mutual

/-- Declare the scope at a path below this one.  `make` gives the new scope for the label that is
left of the path. -/
def declare (make : Text → Scope) (path : Text) : Scope → Scope
  | ⟨label, layout, relations, nested, messages⟩ =>
    if path.isEmpty || nested.any (·.label == path) then
      ⟨label, layout, relations, nested, messages⟩
    else ⟨label, layout, relations, declareAmong make path nested, messages⟩

/-- Declare the scope at a path among or below sibling scopes. -/
def declareAmong (make : Text → Scope) (path : Text) : List Scope → List Scope
  | [] => [make path]
  | s :: scopes =>
    match path.after? (s.label ++ [pathSeparator]) with
    | some inner => declare make inner s :: scopes
    | none => s :: declareAmong make path scopes

end

mutual

/-- Take up a part of a document. -/
def addBlock : Block → Scope → Scope
  | .plain part, s => s.addSection part
  | .group reference parts, s => declare (fun label => addBlocks parts (empty label)) reference s

/-- Take up the parts of a document in order. -/
def addBlocks : List Block → Scope → Scope
  | [], s => s
  | block :: blocks, s => addBlocks blocks (addBlock block s)

end

/-- Declare a scope by a reference and the parts that belong to it. -/
def addGroup (reference : Text) (parts : List Block) (s : Scope) : Scope :=
  addBlock (.group reference parts) s

/-! ### Walking -/

mutual

/-- The scope at a path and all scopes below it, each with its path, parents first. -/
def withPaths (path : Text) : Scope → List (Text × Scope)
  | ⟨label, layout, relations, nested, messages⟩ =>
    (path, ⟨label, layout, relations, nested, messages⟩) :: nestedWithPaths path nested

/-- The scopes nested at a path and all scopes below them, each with its path. -/
def nestedWithPaths (path : Text) : List Scope → List (Text × Scope)
  | [] => []
  | s :: scopes => withPaths (pathBelow path s.label) s ++ nestedWithPaths path scopes

end

/-! ### Validating -/

/-- What is said about a scope without a layout section. -/
def missingLayout (path : Text) : Text :=
  let message : Text := "No layout section."
  if path.isEmpty then message else path ++ ':' :: ' ' :: message

mutual

/-- The messages about the scope at a path and all scopes below it. -/
def faults (path : Text) : Scope → List Text
  | ⟨_, layout, _, nested, _⟩ =>
    (if layout.isNone then [missingLayout path] else []) ++ nestedFaults path nested

/-- The messages about the scopes nested at a path and all scopes below them. -/
def nestedFaults (path : Text) : List Scope → List Text
  | [] => []
  | s :: scopes => faults (pathBelow path s.label) s ++ nestedFaults path scopes

end

mutual

/-- Record on the scope at a path, and on every scope below it, the messages about it. -/
def validate (path : Text) : Scope → Scope
  | ⟨label, layout, relations, nested, messages⟩ =>
    { label, layout, relations, nested := validateNested path nested,
      messages := faults path ⟨label, layout, relations, nested, messages⟩ }

/-- Record the messages on the scopes nested at a path. -/
def validateNested (path : Text) : List Scope → List Scope
  | [] => []
  | s :: scopes => validate (pathBelow path s.label) s :: validateNested path scopes

end

/-- The validated scope tree that a text describes. -/
def ofText (t : Text) : Scope := validate [] (addBlocks (blocksOf t) (empty []))

end Scope

end BoxDiagram
