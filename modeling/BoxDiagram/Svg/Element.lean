import BoxDiagram.Text.Basic

/-!
# XML elements

An element has a name, attributes in the order in which they were first set, and either text
or further elements, two spaces deeper on lines of their own.  An element that holds nothing
closes itself.  In text the ampersand and the angle brackets are escaped, and in attributes
also the quote, the line breaks and the tab.
-/

namespace BoxDiagram

/-- The attributes of an element. -/
abbrev Attributes := List (Text × Text)

/-- Set an attribute: a known name keeps its place, a new one comes last. -/
def Attributes.set (attributes : Attributes) (name value : Text) : Attributes :=
  if attributes.any (·.1 == name) then
    attributes.map fun (n, v) => if n == name then (n, value) else (n, v)
  else attributes ++ [(name, value)]

/-- An element without elements in it. -/
structure Leaf where
  name : Text
  attributes : Attributes
  text : Text
  deriving DecidableEq, Repr

/-- A character of a text. -/
def escapeTextChar (c : Char) : Text :=
  if c == '&' then "&amp;"
  else if c == '<' then "&lt;"
  else if c == '>' then "&gt;"
  else [c]

/-- A character of an attribute. -/
def escapeAttributeChar (c : Char) : Text :=
  if c == '"' then "&quot;"
  else if c == '\r' then "&#13;"
  else if c == '\n' then "&#10;"
  else if c == '\t' then "&#09;"
  else escapeTextChar c

/-- Attributes as they stand in a tag, each after a space. -/
def Attributes.text (attributes : Attributes) : Text :=
  attributes.flatMap fun (name, value) =>
    ' ' :: name ++ '=' :: '"' :: value.flatMap escapeAttributeChar ++ ['"']

/-- An element around its content; one without content closes itself. -/
def elementText (name : Text) (attributes : Attributes) (content : Text) : Text :=
  if content.isEmpty then '<' :: name ++ attributes.text ++ [' ', '/', '>']
  else '<' :: name ++ attributes.text ++ '>' :: content ++ '<' :: '/' :: name ++ ['>']

/-- An element without elements in it, as text. -/
def Leaf.write (leaf : Leaf) : Text :=
  elementText leaf.name leaf.attributes (leaf.text.flatMap escapeTextChar)

/-- The content of an element that holds other elements. -/
def linesText (leaves : List Leaf) : Text :=
  if leaves.isEmpty then []
  else leaves.flatMap (fun leaf => '\n' :: ' ' :: ' ' :: leaf.write) ++ ['\n']

end BoxDiagram
