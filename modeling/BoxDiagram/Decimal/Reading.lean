import BoxDiagram.Text.Digit

/-!
# Reading numbers

A written number is an optional sign followed by a decimal, with or without a fraction and
an exponent, or by a word for infinity or for not a number.  Single underscores may stand
between digits, or, for a loose reader, between any two characters.  A decimal is read as the
nearest double; one beyond the range of doubles is read as infinity.
-/

namespace BoxDiagram

/-- A number as written. -/
inductive Numeral where
  | notANumber
  | infinite (negative : Bool)
  | decimal (negative : Bool) (mantissa : Nat) (exponent : Int)
  deriving DecidableEq, Repr

/-- The value of an ASCII digit. -/
def asciiDigit (c : Char) : Nat := c.toNat - 48

/-- The natural number that a list of ASCII digits spells. -/
def natOfDigits (digits : Text) : Nat :=
  digits.foldl (fun n c => 10 * n + asciiDigit c) 0

/-- The digits in front of a text, and the rest. -/
def takeDigits (t : Text) : Text × Text := (t.takeWhile Char.isDigit, t.dropWhile Char.isDigit)

/-- A sign in front of a text, and the rest. -/
def takeSign : Text → Bool × Text
  | '-' :: t => (true, t)
  | '+' :: t => (false, t)
  | t => (false, t)

/-- A whole exponent: nothing, or the mark `e`, an optional sign and digits. -/
def readExponent : Text → Option Int
  | [] => some 0
  | c :: t =>
    if c == 'e' || c == 'E' then
      let (negative, t) := takeSign t
      let (digits, rest) := takeDigits t
      if digits.isEmpty || !rest.isEmpty then none
      else
        let n : Int := natOfDigits digits
        some (if negative then -n else n)
    else none

/-- An unsigned decimal: digits before or after the point or both, and an exponent. -/
def readDecimal (t : Text) : Option (Nat × Int) :=
  let (whole, rest) := takeDigits t
  let (fraction, rest) := match rest with
    | '.' :: rest => takeDigits rest
    | rest => ([], rest)
  if whole.isEmpty && fraction.isEmpty then none
  else (readExponent rest).map fun e => (natOfDigits (whole ++ fraction), e - fraction.length)

/-- A signed decimal or a word, in ASCII and without underscores. -/
def readNumeral (t : Text) : Option Numeral :=
  let (negative, t) := takeSign t
  let word := t.map Char.toLower
  if word == "inf" || word == "infinity" then some (.infinite negative)
  else if word == "nan" then some .notANumber
  else (readDecimal t).map fun (m, e) => .decimal negative m e

/-- A text without its underscores, each of which must stand between two digits. -/
def dropUnderscores : Text → Option Text
  | [] => some []
  | '_' :: _ => none
  | c :: '_' :: d :: t =>
    if c.isDigit && d.isDigit then (dropUnderscores (d :: t)).map (c :: ·) else none
  | c :: t => (dropUnderscores t).map (c :: ·)

/-- The nearest double to `m · 10^e`.  The bounds keep the power of ten small where the
answer is infinity or zero anyway. -/
def nearestFloat (m : Nat) (e : Int) : Float :=
  let size : Int := e + (Nat.toDigits 10 m).length
  if m == 0 || size < -400 then 0.0
  else if 400 < size then 1.0 / 0.0
  else
    match e with
    | .ofNat k => Float.ofScientific m false k
    | .negSucc k => Float.ofScientific m true (k + 1)

/-- The double that a numeral stands for. -/
def Numeral.toFloat : Numeral → Float
  | .notANumber => 0.0 / 0.0
  | .infinite negative => if negative then -1.0 / 0.0 else 1.0 / 0.0
  | .decimal negative m e => if negative then -nearestFloat m e else nearestFloat m e

/-- The space characters that ASCII text may have around a number. -/
def isAsciiSpace (c : Char) : Bool := (9 ≤ c.toNat && c.toNat ≤ 13) || c == ' '

/-- A text without the characters of a class at both ends. -/
def trimWhere (p : Char → Bool) (t : Text) : Text := Text.dropEndWhile p (t.dropWhile p)

/-- A number in ASCII, with white space around it and underscores between digits. -/
def readAsciiNumber (t : Text) : Option Numeral :=
  (dropUnderscores (trimWhere isAsciiSpace t)).bind readNumeral

/-- The white space of Unicode: all white space but the four separators of ASCII. -/
def isLooseSpace (c : Char) : Bool := isSpace c && !(0x1C ≤ c.toNat && c.toNat ≤ 0x1F)

/-- Whether underscores in a text stand alone and between other characters. -/
def hasInnerUnderscores (t : Text) : Bool :=
  t.contains '_' && t.head? != some '_' && t.getLast? != some '_' && !Text.has t ['_', '_']

/-- A number in ASCII with the white space of Unicode around it, or else without white space but
with single underscores between any two characters. -/
def readLooseNumber (t : Text) : Option Numeral :=
  match readNumeral (trimWhere isLooseSpace t) with
  | some n => some n
  | none => if hasInnerUnderscores t then readNumeral (t.filter (· != '_')) else none

/-- A character as far as numbers are concerned: digits of every script become ASCII digits,
spaces beyond ASCII become the space, and all else beyond ASCII is no part of a number. -/
def toNumberChar (c : Char) : Char :=
  if c.toNat < 127 then c
  else if isSpace c then ' '
  else match digitValue? c with
    | some d => Char.ofNat (48 + d)
    | none => '?'

/-- A number with the digits of any script. -/
def readNumber (t : Text) : Option Numeral := readAsciiNumber (t.map toNumberChar)

end BoxDiagram
