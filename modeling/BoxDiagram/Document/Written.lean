import BoxDiagram.Document.Scope

/-!
# Documents as written

This file writes the parts of a document back as lines.  A section is its header and a colon,
then its body; a group is its reference in brackets, headed likewise, then its sections.  A
scope tree is written with the sections of the root first, and then for each nested scope,
parents first, a reference by its path and the sections of that scope.
-/

namespace BoxDiagram

/-! ### Sections -/

/-- The line that opens a section. -/
def headerLine (header : Text) : Text := header ++ [':']

/-- A text in brackets. -/
def bracketed (label : Text) : Text := '[' :: label ++ [']']

/-- The lines of a section. -/
def Section.lines (part : Section) : List Text := headerLine part.header :: part.body

mutual

/-- The lines of a part of a document. -/
def Block.lines : Block → List Text
  | .plain part => part.lines
  | .group reference parts => headerLine (bracketed reference) :: linesOfBlocks parts

/-- The lines of the parts of a document. -/
def linesOfBlocks : List Block → List Text
  | [] => []
  | block :: blocks => block.lines ++ linesOfBlocks blocks

end

/-! ### Scopes -/

/-- The line of a row: the left labels in brackets and, if there are right labels, three dots and
the right labels in brackets. -/
def Row.line (row : Row) : Text :=
  row.left.flatMap bracketed
    ++ (if row.right.isEmpty then [] else sideSeparator ++ row.right.flatMap bracketed)

/-- The line of a relation. -/
def Relation.line (relation : Relation) : Text :=
  bracketed relation.start ++ relation.arrow ++ bracketed relation.finish

/-- The layout section of a scope, if it has one, and then its relations section. -/
def Scope.ownSections (s : Scope) : List Section :=
  (s.layout.map fun rows => ⟨"layout", rows.map Row.line⟩).toList
    ++ (s.relations.map fun relations => ⟨"relations", relations.map Relation.line⟩).toList

/-- The parts of a document that describes a scope tree. -/
def Scope.blocks (s : Scope) : List Block :=
  s.ownSections.map .plain
    ++ (Scope.nestedWithPaths [] s.nested).map fun (path, nested) =>
      .group path (nested.ownSections.map .plain)

/-- The text that describes a scope tree. -/
def Scope.toText (s : Scope) : Text := Text.join ['\n'] (linesOfBlocks s.blocks)

end BoxDiagram
