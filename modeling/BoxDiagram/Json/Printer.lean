import BoxDiagram.Json.Basic
import BoxDiagram.Text.Quoted
import BoxDiagram.Decimal.Style

/-!
# Writing values

A value has a compact form without spaces and an indented form with two spaces for each
level; both write text raw but for quotes, backslashes and controls, and a double that is no
number as null.  Whole numbers have to fit in 64 bits, signed or unsigned, and lists and
objects stand inside each other up to a limit.  A third form shows a value to a reader.
-/

namespace BoxDiagram.Json

/-! ### The JSON forms -/

/-- A character inside a JSON string. -/
def stringChar (c : Char) : Text :=
  if c == '"' then ['\\', '"']
  else if c == '\\' then ['\\', '\\']
  else if c == '\n' then ['\\', 'n']
  else if c == '\r' then ['\\', 'r']
  else if c == '\t' then ['\\', 't']
  else if c.toNat == 8 then ['\\', 'b']
  else if c.toNat == 12 then ['\\', 'f']
  else if c.toNat < 0x20 then '\\' :: 'u' :: hexText 4 c.toNat
  else [c]

/-- A JSON string. -/
def stringText (t : Text) : Text := '"' :: t.flatMap stringChar ++ ['"']

/-- A double in JSON. -/
def floatText (x : Float) : Text :=
  if x.isFinite then shortestText .json x else "null"

/-- A value that is neither a list nor an object. -/
def leafText : Json → Text
  | .null | .arr _ | .obj _ => "null"
  | .bool b => if b then "true" else "false"
  | .int n => intText n
  | .float x => floatText x
  | .str t => stringText t

mutual

/-- The compact form of a value. -/
def compact : Json → Text
  | .arr items => '[' :: compactItems items ++ [']']
  | .obj fields => '\x7b' :: compactFields fields ++ ['\x7d']
  | value => leafText value

/-- The compact form of the items of a list. -/
def compactItems : List Json → Text
  | [] => []
  | [value] => compact value
  | value :: values => compact value ++ ',' :: compactItems values

/-- The compact form of the fields of an object. -/
def compactFields : List (Text × Json) → Text
  | [] => []
  | [(name, value)] => stringText name ++ ':' :: compact value
  | (name, value) :: fields =>
    stringText name ++ ':' :: compact value ++ ',' :: compactFields fields

end

/-- A new line at a level of indentation. -/
def newline (level : Nat) : Text := '\n' :: List.replicate (2 * level) ' '

mutual

/-- The indented form of a value that stands at a level. -/
def indentedAt (level : Nat) : Json → Text
  | .arr [] => "[]"
  | .arr items =>
    '[' :: newline (level + 1) ++ indentedItems (level + 1) items ++ newline level ++ [']']
  | .obj [] => ['\x7b', '\x7d']
  | .obj fields =>
    '\x7b' :: newline (level + 1) ++ indentedFields (level + 1) fields ++ newline level ++ ['\x7d']
  | value => leafText value

/-- The indented form of the items of a list. -/
def indentedItems (level : Nat) : List Json → Text
  | [] => []
  | [value] => indentedAt level value
  | value :: values =>
    indentedAt level value ++ ',' :: newline level ++ indentedItems level values

/-- The indented form of the fields of an object. -/
def indentedFields (level : Nat) : List (Text × Json) → Text
  | [] => []
  | [(name, value)] => stringText name ++ ':' :: ' ' :: indentedAt level value
  | (name, value) :: fields =>
    stringText name ++ ':' :: ' ' :: indentedAt level value ++ ',' :: newline level
      ++ indentedFields level fields

end

/-- The indented form of a value. -/
def indented (value : Json) : Text := indentedAt 0 value

/-! ### Values that cannot be written -/

/-- Why a value cannot be written. -/
inductive WriteError where
  | integerOutOfRange
  | tooDeep
  deriving DecidableEq, Repr

/-- What is said about a value that cannot be written. -/
def WriteError.message : WriteError → Text
  | .integerOutOfRange => "Integer exceeds 64-bit range"
  | .tooDeep => "Recursion limit reached"

/-- How many lists and objects may stand inside each other. -/
def depthLimit : Nat := 254

mutual

/-- What keeps a value from being written, with room for so many levels of lists and objects: of
several things the one that writing comes to first. -/
def obstacle (room : Nat) : Json → Option WriteError
  | .int n =>
    if -0x8000000000000000 ≤ n && n < 0x10000000000000000 then none else some .integerOutOfRange
  | .arr items => if room == 0 then some .tooDeep else itemsObstacle (room - 1) items
  | .obj fields => if room == 0 then some .tooDeep else fieldsObstacle (room - 1) fields
  | _ => none

/-- What keeps the items of a list from being written. -/
def itemsObstacle (room : Nat) : List Json → Option WriteError
  | [] => none
  | value :: values => (obstacle room value).or (itemsObstacle room values)

/-- What keeps the fields of an object from being written. -/
def fieldsObstacle (room : Nat) : List (Text × Json) → Option WriteError
  | [] => none
  | (_, value) :: fields => (obstacle room value).or (fieldsObstacle room fields)

end

/-- Write a value in a form, if nothing in it is too large or too deep. -/
def write (form : Json → Text) (value : Json) : Except WriteError Text :=
  match obstacle depthLimit value with
  | some e => .error e
  | none => .ok (form value)

/-! ### The form for a reader -/

/-- A value that is neither a list nor an object, shown to a reader. -/
def shownLeaf : Json → Text
  | .null | .arr _ | .obj _ => "None"
  | .bool b => if b then "True" else "False"
  | .int n => intText n
  | .float x => shortestText .plain x
  | .str t => t.quoted

mutual

/-- A value shown to a reader. -/
def shown : Json → Text
  | .arr items => '[' :: shownItems items ++ [']']
  | .obj fields => '\x7b' :: shownFields fields ++ ['\x7d']
  | value => shownLeaf value

/-- The items of a list shown to a reader. -/
def shownItems : List Json → Text
  | [] => []
  | [value] => shown value
  | value :: values => shown value ++ ',' :: ' ' :: shownItems values

/-- The fields of an object shown to a reader. -/
def shownFields : List (Text × Json) → Text
  | [] => []
  | [(name, value)] => Text.quoted name ++ ':' :: ' ' :: shown value
  | (name, value) :: fields =>
    Text.quoted name ++ ':' :: ' ' :: shown value ++ ',' :: ' ' :: shownFields fields

end

/-- A value as plain text: a text is itself, any other value is shown. -/
def plainText : Json → Text
  | .str t => t
  | value => shown value

end BoxDiagram.Json
