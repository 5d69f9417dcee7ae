import BoxDiagram.Text.Basic

/-!
# Labels in brackets

A label runs from an opening bracket to the next closing bracket, and an opening bracket
inside is part of it.  Empty brackets hold no label, and an opening bracket that is never
closed begins none.
-/

namespace BoxDiagram

/-- A label in brackets, with the positions of its opening bracket and behind its closing one. -/
structure Bracket where
  label : Text
  start : Nat
  stop : Nat
  deriving DecidableEq, Repr

/-- The brackets of a text that begins at a position.  Inside brackets `opened` holds where they
opened and the label so far, last character first. -/
def scanBrackets (position : Nat) (opened : Option (Nat × Text)) : Text → List Bracket
  | [] => []
  | c :: t =>
    match opened with
    | none => scanBrackets (position + 1) (if c == '[' then some (position, []) else none) t
    | some (start, label) =>
      if c == ']' then
        let rest := scanBrackets (position + 1) none t
        if label.isEmpty then rest else ⟨label.reverse, start, position + 1⟩ :: rest
      else scanBrackets (position + 1) (some (start, c :: label)) t

/-- The brackets of a text from left to right. -/
def bracketsOf (t : Text) : List Bracket := scanBrackets 0 none t

/-- The labels of a text from left to right. -/
def labelsOf (t : Text) : List Text := (bracketsOf t).map Bracket.label

end BoxDiagram
