import BoxDiagram.Json.Basic
import BoxDiagram.Decimal.Reading

/-!
# Reading values

A JSON text is one value with white space around it.  A number with a fraction or an
exponent is a double and any other is a whole number of at most 4300 digits; the words
`NaN`, `Infinity` and `-Infinity` stand for doubles.  A name that comes twice in an object
keeps its first place and its last value.  Texts hold no raw controls, and two escapes for
a surrogate pair stand for one character.  Lists and objects stand inside each other up to a
limit, which is the reader's room.

Each call of the reader uses up one unit of fuel, and every character lets it make at most
two calls, so `Json.read` starts with enough for any text.
-/

namespace BoxDiagram.Json

/-- Why a text is not read as a value. -/
inductive ReadError where
  | malformed
  | listTooDeep
  | objectTooDeep
  deriving DecidableEq, Repr

/-- Space between the parts of a JSON text. -/
def isJsonSpace (c : Char) : Bool := c == ' ' || c == '\t' || c == '\n' || c == '\r'

/-- A text without the space in front. -/
def skipSpace (t : Text) : Text := t.dropWhile isJsonSpace

/-- The value of a hexadecimal digit. -/
def hexValue? (c : Char) : Option Nat :=
  let n := c.toNat
  if 0x30 ≤ n && n ≤ 0x39 then some (n - 0x30)
  else if 0x41 ≤ n && n ≤ 0x46 then some (n - 0x37)
  else if 0x61 ≤ n && n ≤ 0x66 then some (n - 0x57)
  else none

/-- The code unit that four hexadecimal digits spell. -/
def codeUnit? (a b c d : Char) : Option Nat := do
  let a ← hexValue? a
  let b ← hexValue? b
  let c ← hexValue? c
  let d ← hexValue? d
  return ((a * 16 + b) * 16 + c) * 16 + d

/-- The character of a surrogate pair. -/
def ofSurrogates (high low : Nat) : Char :=
  Char.ofNat (0x10000 + (high - 0xD800) * 0x400 + (low - 0xDC00))

/-- The character of one code unit; a surrogate becomes the replacement character. -/
def ofUnit (n : Nat) : Char :=
  if 0xD800 ≤ n && n < 0xE000 then Char.ofNat 0xFFFD else Char.ofNat n

/-- The character that a one-letter escape stands for. -/
def escapedChar? (c : Char) : Option Char :=
  match c with
  | '"' => some '"'
  | '\\' => some '\\'
  | '/' => some '/'
  | 'b' => some (Char.ofNat 8)
  | 'f' => some (Char.ofNat 12)
  | 'n' => some '\n'
  | 'r' => some '\r'
  | 't' => some '\t'
  | _ => none

/-- The characters of a string up to its closing quote, and what follows. -/
def readString : Text → Option (Text × Text)
  | [] => none
  | '"' :: rest => some ([], rest)
  | '\\' :: 'u' :: a :: b :: c :: d :: '\\' :: 'u' :: e :: f :: g :: h :: rest => do
    let high ← codeUnit? a b c d
    let low? := codeUnit? e f g h
    if 0xD800 ≤ high && high < 0xDC00 && low?.any fun low => 0xDC00 ≤ low && low < 0xE000 then
      let (t, rest) ← readString rest
      return (ofSurrogates high (low?.getD 0) :: t, rest)
    else
      let (t, rest) ← readString ('\\' :: 'u' :: e :: f :: g :: h :: rest)
      return (ofUnit high :: t, rest)
  | '\\' :: 'u' :: a :: b :: c :: d :: rest => do
    let unit ← codeUnit? a b c d
    let (t, rest) ← readString rest
    return (ofUnit unit :: t, rest)
  | '\\' :: c :: rest => do
    let c ← escapedChar? c
    let (t, rest) ← readString rest
    return (c :: t, rest)
  | c :: rest =>
    if c.toNat < 0x20 || c == '\\' then none
    else (readString rest).map fun (t, rest) => (c :: t, rest)

/-- The most digits a whole number may have. -/
def mostDigits : Nat := 4300

/-- An exponent in front of a text, and what follows; without digits there is none. -/
def takeExponent : Text → Option (Int × Text)
  | c :: t =>
    if c == 'e' || c == 'E' then
      let (negative, t) := takeSign t
      let (digits, rest) := takeDigits t
      if digits.isEmpty then none
      else
        let n : Int := natOfDigits digits
        some (if negative then -n else n, rest)
    else none
  | [] => none

/-- An unsigned number in front of a text, and what follows.  A whole part that begins with
zero ends there. -/
def readUnsigned (negative : Bool) (t : Text) : Option (Json × Text) :=
  let (whole, rest) := match t with
    | '0' :: rest => (['0'], rest)
    | t => takeDigits t
  let (fraction, afterFraction) := match rest with
    | '.' :: t =>
      let (digits, t) := takeDigits t
      if digits.isEmpty then ([], rest) else (digits, t)
    | t => ([], t)
  let exponent := takeExponent afterFraction
  if whole.isEmpty then none
  else if fraction.isEmpty && exponent.isNone then
    if mostDigits < whole.length then none
    else
      let n : Int := natOfDigits whole
      some (.int (if negative then -n else n), rest)
  else
    let (e, rest) := exponent.getD (0, afterFraction)
    let numeral := Numeral.decimal negative (natOfDigits (whole ++ fraction)) (e - fraction.length)
    some (.float numeral.toFloat, rest)

/-- The values that are written as a word. -/
def words : List (Text × Json) :=
  [("null", .null), ("true", .bool true), ("false", .bool false),
   ("NaN", .float Numeral.notANumber.toFloat),
   ("Infinity", .float (Numeral.infinite false).toFloat),
   ("-Infinity", .float (Numeral.infinite true).toFloat)]

/-- A word or a number in front of a text, and what follows. -/
def readLeaf (t : Text) : Option (Json × Text) :=
  match words.findSome? fun (word, value) => (t.after? word).map fun rest => (value, rest) with
  | some found => some found
  | none =>
    match t with
    | '-' :: t => readUnsigned true t
    | t => readUnsigned false t

/-- What was found, or that the text is malformed. -/
def orMalformed {α : Type} : Option α → Except ReadError α
  | some x => .ok x
  | none => .error .malformed

mutual

/-- The value in front of a text, and what follows. -/
def readValue : Nat → Nat → Text → Except ReadError (Json × Text)
  | 0, _, _ => .error .malformed
  | fuel + 1, room, t =>
    match skipSpace t with
    | '"' :: t => (fun (s, t) => (.str s, t)) <$> orMalformed (readString t)
    | '[' :: t =>
      if room == 0 then .error .listTooDeep
      else
        match skipSpace t with
        | ']' :: t => .ok (.arr [], t)
        | t => (fun (items, t) => (.arr items, t)) <$> readItems fuel (room - 1) t
    | '\x7b' :: t =>
      if room == 0 then .error .objectTooDeep
      else
        match skipSpace t with
        | '\x7d' :: t => .ok (.obj [], t)
        | t =>
          (fun (fields, t) => (.obj (Fields.setAll [] fields), t)) <$> readFields fuel (room - 1) t
    | t => orMalformed (readLeaf t)

/-- The items of a list up to its closing bracket, and what follows. -/
def readItems : Nat → Nat → Text → Except ReadError (List Json × Text)
  | 0, _, _ => .error .malformed
  | fuel + 1, room, t => do
    let (value, t) ← readValue fuel room t
    match skipSpace t with
    | ',' :: t =>
      let (values, t) ← readItems fuel room t
      return (value :: values, t)
    | ']' :: t => return ([value], t)
    | _ => .error .malformed

/-- The fields of an object up to its closing brace, and what follows. -/
def readFields : Nat → Nat → Text → Except ReadError (List (Text × Json) × Text)
  | 0, _, _ => .error .malformed
  | fuel + 1, room, t =>
    match skipSpace t with
    | '"' :: t => do
      let (name, t) ← orMalformed (readString t)
      match skipSpace t with
      | ':' :: t =>
        let (value, t) ← readValue fuel room t
        match skipSpace t with
        | ',' :: t =>
          let (fields, t) ← readFields fuel room t
          return ((name, value) :: fields, t)
        | '\x7d' :: t => return ([(name, value)], t)
        | _ => .error .malformed
      | _ => .error .malformed
    | _ => .error .malformed

end

/-- The value that a JSON text stands for, with so many levels of lists and objects at most. -/
def read (room : Nat) (t : Text) : Except ReadError Json :=
  match readValue (2 * t.length + 2) room t with
  | .error e => .error e
  | .ok (value, rest) => if (skipSpace rest).isEmpty then .ok value else .error .malformed

end BoxDiagram.Json
