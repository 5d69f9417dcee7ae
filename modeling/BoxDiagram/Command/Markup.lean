import BoxDiagram.Text.Basic

/-!
# Markup

A message may hold tags in square brackets, which style what follows them up to a closing tag and
do not show.  A tag begins with a lower-case ASCII letter, `#`, `@` or a slash, and holds no
brackets; a closing tag begins with a slash.
-/

namespace BoxDiagram.Markup

/-- Whether a character may begin a tag. -/
def beginsTag (c : Char) : Bool :=
  ('a' ≤ c && c ≤ 'z') || c == '#' || c == '/' || c == '@'

/-- The tag whose opening bracket stood just before a text. -/
def tagAt? : Text → Option Text
  | [] => none
  | c :: t =>
    if !beginsTag c then none
    else
      let inside := t.takeWhile fun d => d != '[' && d != ']'
      if (t.drop inside.length).head? == some ']' then some (c :: inside) else none

/-- Whether a character is a control that never shows. -/
def isHidden (c : Char) : Bool :=
  let n := c.toNat
  n == 7 || n == 8 || (11 ≤ n && n ≤ 13)

end BoxDiagram.Markup
