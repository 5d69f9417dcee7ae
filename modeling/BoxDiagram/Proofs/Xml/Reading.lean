import BoxDiagram.Files.Tree
import BoxDiagram.Json.Reader
import BoxDiagram.Svg.Element

/-!
# Reading XML

A reader for documents of XML 1.0 that consist of elements, attributes and text: it refuses
whatever is not well-formed, and all declarations, comments, instructions and sections.  The
text is cut in front of every tag; a stack of open elements then takes the tags, each with the
text behind it, one after another.
-/

namespace BoxDiagram.Xml

/-! ### Characters and names -/

/-- The characters that a document may hold. -/
def isChar : Char → Bool :=
  inRanges [(0x09, 0x0A), (0x0D, 0x0D), (0x20, 0xD7FF), (0xE000, 0xFFFD), (0x10000, 0x10FFFF)]

/-- A text that a document may hold. -/
def Allowed (t : Text) : Prop := ∀ c ∈ t, isChar c = true

instance (t : Text) : Decidable (Allowed t) :=
  List.decidableBAll _ t

/-- White space between the parts of a tag. -/
def isBlank (c : Char) : Bool := c == ' ' || c == '\t' || c == '\n' || c == '\r'

/-- The characters that a name may begin with. -/
def isNameStart : Char → Bool :=
  inRanges [(0x3A, 0x3A), (0x41, 0x5A), (0x5F, 0x5F), (0x61, 0x7A), (0xC0, 0xD6), (0xD8, 0xF6),
    (0xF8, 0x2FF), (0x370, 0x37D), (0x37F, 0x1FFF), (0x200C, 0x200D), (0x2070, 0x218F),
    (0x2C00, 0x2FEF), (0x3001, 0xD7FF), (0xF900, 0xFDCF), (0xFDF0, 0xFFFD), (0x10000, 0xEFFFF)]

/-- The characters of a name. -/
def isNameChar (c : Char) : Bool :=
  isNameStart c
    || inRanges [(0x2D, 0x2E), (0x30, 0x39), (0xB7, 0xB7), (0x300, 0x36F), (0x203F, 0x2040)] c

/-- A name of an element or an attribute. -/
def isName : Text → Bool
  | [] => false
  | c :: t => isNameStart c && t.all isNameChar

/-! ### References -/

/-- The number that digits of a base spell. -/
def codeOf? (base : Nat) : Text → Option Nat
  | [] => none
  | digits => digits.foldlM (fun n c =>
      (Json.hexValue? c).bind fun d => if d < base then some (base * n + d) else none) 0

/-- The character with a code point, if a document may hold it. -/
def character? (n : Nat) : Option Char :=
  if isChar (Char.ofNat n) then some (Char.ofNat n) else none

/-- The characters that have names. -/
def entities : List (Text × Char) :=
  [("amp", '&'), ("lt", '<'), ("gt", '>'), ("quot", '"'), ("apos", '\'')]

/-- The character that stands between an ampersand and a semicolon. -/
def reference? : Text → Option Char
  | '#' :: 'x' :: digits => (codeOf? 16 digits).bind character?
  | '#' :: digits => (codeOf? 10 digits).bind character?
  | name => entities.lookup name

/-- The text that begins with a reference, without its ampersand. -/
def referring? (t : Text) : Option Text := do
  let (name, rest) ← t.cutAt [';']
  let c ← reference? name
  return c :: rest

/-- A text with its references replaced by what they stand for. -/
def unescape? (t : Text) : Option Text :=
  match t.splitWhere (· == '&') with
  | [] => some []
  | first :: more => (fun pieces => first ++ pieces.flatten) <$> more.mapM referring?

/-! ### Tags -/

/-- A tag. -/
inductive Tag where
  | opening (name : Text) (attributes : Attributes)
  | empty (name : Text) (attributes : Attributes)
  | closing (name : Text)

/-- The value of an attribute: white space that stands for itself is read as a space. -/
def attributeValue? (t : Text) : Option Text :=
  unescape? (t.map fun c => if isBlank c then ' ' else c)

/-- A text without the blanks in front. -/
def skipBlanks (t : Text) : Text := t.dropWhile isBlank

/-- The attribute that a text begins with, and what stands behind its value. -/
def readAttribute (t : Text) : Option ((Text × Text) × Text) := do
  let (name, more) ← t.cutAt ['=']
  let name := name.dropEndWhile isBlank
  guard (isName name)
  match skipBlanks more with
  | [] => none
  | quote :: more => do
    guard (quote == '"' || quote == '\'')
    let (value, rest) ← Text.cutAt more [quote]
    let value ← attributeValue? value
    return ((name, value), rest)

/-- The attributes in front of the end of a tag, fewer than `fuel`, whether the tag closes itself,
and what stands behind it.  Every attribute has a blank in front. -/
def readAttributes : Nat → Text → Option (Attributes × Bool × Text)
  | 0, _ => none
  | fuel + 1, t =>
    match skipBlanks t with
    | '>' :: rest => some ([], false, rest)
    | '/' :: '>' :: rest => some ([], true, rest)
    | more => do
      guard (t.head?.any isBlank)
      let (named, rest) ← readAttribute more
      let (attributes, closed, rest) ← readAttributes fuel rest
      return (named :: attributes, closed, rest)

/-- The name that a text begins with, and what stands behind it. -/
def readName (t : Text) : Option (Text × Text) :=
  let name := t.takeWhile isNameChar
  if isName name then some (name, t.dropWhile isNameChar) else none

/-- The tag that a text begins with, without its opening bracket, and what stands behind it. -/
def readTag : Text → Option (Tag × Text)
  | '/' :: t => do
    let (name, rest) ← readName t
    let rest ← (skipBlanks rest).after? ['>']
    return (.closing name, rest)
  | t => do
    let (name, rest) ← readName t
    let (attributes, closed, rest) ← readAttributes rest.length rest
    guard (attributes.map Prod.fst).Nodup
    return (if closed then .empty name attributes else .opening name attributes, rest)

/-! ### Documents -/

/-- A part of a document. -/
inductive Node where
  | text (t : Text)
  | element (name : Text) (attributes : Attributes) (content : List Node)

/-- An element that has been opened, with the content that has been read.  The document itself
counts as one, without a name. -/
structure Frame where
  name : Text
  attributes : Attributes
  content : List Node

/-- The document before anything has been read. -/
def Frame.document : Frame := ⟨[], [], []⟩

/-- Add further content to an element. -/
def Frame.append (frame : Frame) (nodes : List Node) : Frame :=
  { frame with content := frame.content ++ nodes }

/-- A text as content. -/
def textNodes (t : Text) : List Node := if t.isEmpty then [] else [.text t]

/-- Take a tag: open an element, add one to the element that is open, or close that. -/
def takeTag : Tag → List Frame → Option (List Frame)
  | .opening name attributes, frames => some (⟨name, attributes, []⟩ :: frames)
  | .empty name attributes, frame :: outer =>
    some (frame.append [.element name attributes []] :: outer)
  | .closing name, inner :: frame :: outer =>
    if inner.name == name then
      some (frame.append [.element name inner.attributes inner.content] :: outer)
    else none
  | _, _ => none

/-- Take the text up to the next tag; outside of all elements it has to be blank. -/
def takeText (t : Text) : List Frame → Option (List Frame)
  | [] => none
  | [document] => if t.all isBlank then some [document] else none
  | frame :: outer => do
    guard (!t.has "]]>")
    let t ← unescape? t
    return frame.append (textNodes t) :: outer

/-- Take a tag without its opening bracket and the text up to the next tag. -/
def takePiece (frames : List Frame) (piece : Text) : Option (List Frame) := do
  let (tag, t) ← readTag piece
  let frames ← takeTag tag frames
  takeText t frames

/-- Take a text with tags. -/
def take (frames : List Frame) (t : Text) : Option (List Frame) :=
  match t.splitWhere (· == '<') with
  | [] => none
  | first :: pieces => do
    let frames ← takeText first frames
    pieces.foldlM takePiece frames

/-- The element that a well-formed document consists of. -/
def read? (t : Text) : Option Node :=
  if t.all isChar then
    match take [.document] (FileTree.lineFeeds t) with
    | some [document] =>
      match document.content with
      | [root] => some root
      | _ => none
    | _ => none
  else none

end BoxDiagram.Xml
