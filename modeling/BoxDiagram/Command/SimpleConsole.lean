import BoxDiagram.Command.Markup
import BoxDiagram.Command.Toolkit
import BoxDiagram.Decimal.Rounding
import BoxDiagram.Text.Case
import BoxDiagram.Text.Width

/-!
# A console

What a console shows is not for the commands to say: they take any console.  This one is enough to
run the program by itself.  It knows no signs, tells styles apart by their names alone, and asks
for nothing behind the equals sign of a tag.

Brackets that make no tag show, and so does a tag behind a backslash.  A closing tag names the
style it ends or ends the last one, and it is an error if there is none.  Some controls never
show, and tabs show as spaces up to the next multiple of eight.
-/

namespace BoxDiagram.Markup

/-- A closing tag that names no open style. -/
def unmatchedClosing (tag : Text) (position : Nat) : MarkupError :=
  ⟨("closing tag '[" : Text) ++ tag ++ ("]' at position " : Text) ++ natText position
    ++ (" doesn't match any open tag" : Text)⟩

/-- A closing tag without a name when no style is open. -/
def nothingToClose (position : Nat) : MarkupError :=
  ⟨("closing tag '[/]' at position " : Text) ++ natText position
    ++ (" has nothing to close" : Text)⟩

/-- The name of a tag, without what follows an equals sign. -/
def tagName (tag : Text) : Text := tag.takeWhile (· != '=')

/-- The style that a name stands for. -/
def styleName (name : Text) : Text := Text.lower (Text.trim name)

/-- Open the style of a tag or close one. -/
def applyTag (position : Nat) (tag : Text) (styles : List Text) : Except MarkupError (List Text) :=
  match tagName tag with
  | '/' :: name =>
    let style := styleName name
    if style.isEmpty then
      match styles with
      | [] => .error (nothingToClose position)
      | _ :: styles => .ok styles
    else if styles.contains style then .ok (styles.erase style)
    else .error (unmatchedClosing tag position)
  | name => .ok (styleName name :: styles)

/-- What shows of a message from a position on, given the backslashes just before it, the length
of the tag that is being left out, and the styles that are open, last one first. -/
def showFrom (position slashes : Nat) (inTag : Nat) (styles : List Text) :
    Text → Except MarkupError Text
  | [] => .ok (List.replicate slashes '\\')
  | c :: t =>
    match inTag with
    | more + 1 => showFrom (position + 1) 0 more styles t
    | 0 =>
      if c == '\\' then showFrom (position + 1) (slashes + 1) 0 styles t
      else
        let tag := if c == '[' then tagAt? t else none
        match tag with
        | none =>
          let shown := if c == '[' then slashes - 1 else slashes
          (List.replicate shown '\\' ++ c :: ·) <$> showFrom (position + 1) 0 0 styles t
        | some tag =>
          let front := List.replicate (slashes / 2) '\\'
          if slashes % 2 == 1 then
            (front ++ c :: ·) <$> showFrom (position + 1) 0 0 styles t
          else
            match applyTag position tag styles with
            | .error e => .error e
            | .ok styles => (front ++ ·) <$> showFrom (position + 1) 0 (tag.length + 1) styles t

/-- The width of a column. -/
def tabWidth : Nat := 8

/-- The spaces that a tab leaves after a text on a terminal.  A tab takes at least one space, which
counts as part of the text that it follows. -/
def tabAfter (t : Text) : Text :=
  let cells := Text.cells (t ++ [' '])
  List.replicate (1 + (tabWidth - cells % tabWidth) % tabWidth) ' '

/-- A line with spaces for tabs, so that what follows a tab begins a column. -/
def expandLine (line : Text) : Text :=
  let parts := line.splitWhere (· == '\t')
  parts.dropLast.flatMap (fun part => part ++ tabAfter part) ++ parts.getLast?.getD []

/-- A text with spaces for tabs in each of its lines. -/
def expandTabs (t : Text) : Text := Text.join ['\n'] ((t.splitWhere (· == '\n')).map expandLine)

/-- A text as the console shows it. -/
def visible (t : Text) : Text := expandTabs (t.filter fun c => !isHidden c)

/-- A message as the console shows it. -/
def show? (t : Text) : Except MarkupError Text := visible <$> showFrom 0 0 0 [] t

/-- A console to run the program with. -/
def console : Console where
  show? := show?
  plain := visible
  isSign _ := false

end BoxDiagram.Markup
