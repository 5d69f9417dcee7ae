import BoxDiagram.Text.Basic

/-!
# Sections

A document is cut into lines without indentation.  A line that ends in a colon and has more
than the colon opens a section; the lines up to the next such line are its body, and blank
lines and lines before the first header belong nowhere.  A section whose header stands in
brackets is a reference: it names a scope, and the plain sections up to the next reference
form the group of that scope.
-/

namespace BoxDiagram

/-- A section: its header without the colon, and the lines below it that are not blank. -/
structure Section where
  header : Text
  body : List Text
  deriving DecidableEq, Repr

/-- A part of a document: a plain section, or the group of parts that belong to a reference. -/
inductive Block where
  | plain (part : Section)
  | group (reference : Text) (parts : List Block)
  deriving Repr

/-- The lines of a text without the white space in front of each. -/
def unindentedLines (t : Text) : List Text := t.lines.map Text.trimStart

/-- The header that a line opens: the line up to a colon at its end, which is not all of it. -/
def headerOf? (line : Text) : Option Text :=
  let t := line.trimEnd
  if t.length < 2 || t.getLast? != some ':' then none else some t.dropLast

/-- Whether a header stands in brackets. -/
def isReference (header : Text) : Bool :=
  2 ≤ header.length && header.head? == some '[' && header.getLast? == some ']'

/-- What stands inside the brackets of a reference header. -/
def referenceName (header : Text) : Text := (header.drop 1).dropLast

/-- Whether a line opens a section.  A blank line opens none. -/
def opensSection (line : Text) : Bool := !line.isBlank && (headerOf? line).isSome

/-- The body that follows a header: the lines up to the next header that are not blank. -/
def bodyLines (lines : List Text) : List Text :=
  (lines.takeWhile fun line => !opensSection line).filter fun line => !line.isBlank

/-- The sections of a document in order. -/
def sectionsOf : List Text → List Section
  | [] => []
  | line :: lines =>
    if line.isBlank then sectionsOf lines
    else match headerOf? line with
      | some header => { header, body := bodyLines lines } :: sectionsOf lines
      | none => sectionsOf lines

/-- The plain sections in front of the first reference. -/
def untilReference (sections : List Section) : List Section :=
  sections.takeWhile fun s => !isReference s.header

/-- The references among sections, each with the plain sections that follow it. -/
def referenceGroups : List Section → List Block
  | [] => []
  | s :: sections =>
    if isReference s.header then
      .group (referenceName s.header) ((untilReference sections).map .plain)
        :: referenceGroups sections
    else referenceGroups sections

/-- The parts of a document: the plain sections in front, then the groups of the references. -/
def groupSections (sections : List Section) : List Block :=
  (untilReference sections).map .plain ++ referenceGroups sections

/-- The parts of a text. -/
def blocksOf (t : Text) : List Block := groupSections (sectionsOf (unindentedLines t))

end BoxDiagram
