import BoxDiagram.Document.Bracket
import BoxDiagram.Document.Section

/-!
# Layout rows

A line of a layout section names the boxes of one row.  Three dots part the boxes that are
packed to the left from those that are aligned to the right; what follows further dots is
left out.  A line that names no box is no row.
-/

namespace BoxDiagram

/-- The labels of one row of boxes. -/
structure Row where
  left : List Text
  right : List Text
  deriving DecidableEq, Repr

/-- All labels of a row from left to right. -/
def Row.all (row : Row) : List Text := row.left ++ row.right

/-- The three dots between the two sides of a row. -/
def sideSeparator : Text := ['.', '.', '.']

/-- The two sides of a line. -/
def sidesOf (line : Text) : Text × Text :=
  match line.cutAt sideSeparator with
  | none => (line, [])
  | some (left, rest) =>
    match rest.cutAt sideSeparator with
    | none => (left, rest)
    | some (right, _) => (left, right)

/-- The row that a line describes. -/
def rowOf? (line : Text) : Option Row :=
  let (left, right) := sidesOf line
  let row : Row := ⟨labelsOf left, labelsOf right⟩
  if row.left.isEmpty && row.right.isEmpty then none else some row

/-- The rows of a layout section. -/
def rowsOf (part : Section) : List Row :=
  (part.body.filter fun line => !line.isBlank).filterMap rowOf?

end BoxDiagram
