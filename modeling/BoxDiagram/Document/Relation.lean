import BoxDiagram.Document.Bracket
import BoxDiagram.Document.Section

/-!
# Relations

A line of a relations section is `[start]arrow[finish]`, and it may name several finishes,
with nothing but white space between and after them.  It stands for one relation to each.
The arrow is all that stands between the first two brackets and holds no bracket itself.  A
line of any other shape stands for no relation.
-/

namespace BoxDiagram

/-- An arrow from one label to another. -/
structure Relation where
  start : Text
  arrow : Text
  finish : Text
  deriving DecidableEq, Repr

/-- Whether nothing but white space stands between brackets and after the last of them, from a
position on. -/
def onlyBlankBetween (t : Text) : Nat → List Bracket → Bool
  | position, [] => Text.isBlank (t.drop position)
  | position, b :: bs => (t.between position b.start).isBlank && onlyBlankBetween t b.stop bs

/-- The relations that a line describes. -/
def relationsOfLine (line : Text) : List Relation :=
  let t := line.trim
  match bracketsOf t with
  | start :: first :: more =>
    let arrow := t.between start.stop first.start
    if start.start == 0 && !arrow.contains '[' && !arrow.contains ']'
        && onlyBlankBetween t first.stop more then
      (first :: more).map fun finish => ⟨start.label, arrow, finish.label⟩
    else []
  | _ => []

/-- The relations of a relations section. -/
def relationsOf (part : Section) : List Relation := part.body.flatMap relationsOfLine

end BoxDiagram
