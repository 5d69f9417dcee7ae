import BoxDiagram.Settings.Scalar

/-!
# A reader of settings files

This reader is enough to run the program by itself, and knows a small part of what a settings file
may be written in: no lists, no values over several lines and no objects in braces.

A settings file has a line for each setting: a name, a colon and a value.  Indented lines
below a name without a value are the fields of an object.  A `#` at the start of a line or
after a space begins a comment.  A name or a value in quotes is a text; within single quotes a
pair of them stands for one.
-/

namespace BoxDiagram.Yaml

/-! ### Characters -/

/-- The ranges of code points that a settings file may hold, first and last. -/
def printableRanges : List (Nat × Nat) :=
  [(0x09, 0x0A), (0x0D, 0x0D), (0x20, 0x7E), (0x85, 0x85), (0xA0, 0xD7FF), (0xE000, 0xFFFD),
   (0x10000, 0x10FFFF)]

/-- The first character of a text that a settings file may not hold, if there is one. -/
def unprintable? (t : Text) : Option YamlError :=
  (t.zipIdx.find? fun (c, _) => !inRanges printableRanges c).map fun (c, position) =>
    .unprintable c.toNat position

/-! ### Lines -/

/-- A text without the spaces at both ends. -/
def trimSpaces (t : Text) : Text := Text.trimChar ' ' t

/-- A text in single quotes whose opening quote stood just before, and what follows it. -/
def takeSingleQuoted : Text → Text × Text
  | [] => ([], [])
  | '\'' :: '\'' :: t =>
    let (inside, rest) := takeSingleQuoted t
    ('\'' :: inside, rest)
  | '\'' :: t => ([], t)
  | c :: t =>
    let (inside, rest) := takeSingleQuoted t
    (c :: inside, rest)

/-- A text in double quotes whose opening quote stood just before, and what follows it. -/
def takeDoubleQuoted (t : Text) : Text × Text :=
  let inside := t.takeWhile (· != '"')
  (inside, t.drop (inside.length + 1))

/-- A text in quotes that stands in front, and what follows it. -/
def takeQuoted? : Text → Option (Text × Text)
  | '\'' :: t => some (takeSingleQuoted t)
  | '"' :: t => some (takeDoubleQuoted t)
  | _ => none

/-- A text up to a comment, which begins after a space. -/
def withoutComment (t : Text) : Text :=
  match t.cutAt [' ', '#'] with
  | some (front, _) => front
  | none => t

/-- The value that follows the colon of a line. -/
def valueOf (t : Text) : Except YamlError Json :=
  let t := t.dropWhile (· == ' ')
  match takeQuoted? t with
  | some (inside, _) => .ok (.str inside)
  | none =>
    if t.head? == some '#' then .ok .null else plainValue (trimSpaces (withoutComment t))

/-- The name at the front of a line, and what follows its colon. -/
def takeName? (line : Text) : Option (Text × Text) :=
  match takeQuoted? line with
  | some (name, rest) => (rest.cutAt [':']).map fun (_, value) => (name, value)
  | none =>
    match line.cutAt [':', ' '] with
    | some (name, value) => some (trimSpaces name, value)
    | none =>
      let t := trimSpaces line
      if t.getLast? == some ':' then some (trimSpaces t.dropLast, []) else none

/-- Whether a line holds nothing but space and a comment. -/
def isEmptyLine (line : Text) : Bool := line.isBlank || line.trimStart.head? == some '#'

/-- The settings so far, and the name that indented lines belong to. -/
structure Progress where
  fields : Fields
  block : Option Text

/-- Take up a field of the object that indented lines belong to. -/
def Progress.addInner (p : Progress) (name : Text) (value : Json) : Progress :=
  match p.block with
  | none => p
  | some block =>
    let inner := match p.fields.get? block with
      | some (.obj inner) => inner
      | _ => []
    { p with fields := p.fields.set block (.obj (Fields.set inner name value)) }

/-- Take up a line. -/
def Progress.addLine (p : Progress) (line : Text) : Except YamlError Progress :=
  if isEmptyLine line then .ok p
  else
    match takeName? (line.dropWhile (· == ' ')) with
    | none => .ok p
    | some (name, rest) =>
      (fun value =>
        if line.head? == some ' ' then p.addInner name value
        else ⟨p.fields.set name value, some name⟩) <$> valueOf rest

/-- A text without the byte order mark in front. -/
def withoutMark : Text → Text
  | c :: t => if c.toNat == 0xFEFF then t else c :: t
  | [] => []

/-- The settings in a text. -/
def read (t : Text) : Except YamlError Fields :=
  Progress.fields <$> (Text.lines (withoutMark t)).foldlM Progress.addLine ⟨[], none⟩

end BoxDiagram.Yaml
