/-!
# Text

A text is a list of characters, so that lengths, positions and cuts count code points.
This file holds the character class of white space, classes given by ranges of code points,
the cuts every other file makes with them (trimming, words, lines), cutting at a given piece,
and joining.
-/

namespace BoxDiagram

/-- A text is a list of characters. -/
abbrev Text := List Char

instance : Coe String Text := ⟨String.toList⟩

/-- White space: the ASCII controls from tab to carriage return and from file separator to
unit separator, and every space and line separator of Unicode.  The zero-width space and
the byte order mark are not white space. -/
def isSpace (c : Char) : Bool :=
  let n := c.toNat
  (0x09 ≤ n && n ≤ 0x0D) || (0x1C ≤ n && n ≤ 0x20) || n == 0x85 || n == 0xA0 || n == 0x1680
    || (0x2000 ≤ n && n ≤ 0x200A) || n == 0x2028 || n == 0x2029 || n == 0x202F
    || n == 0x205F || n == 0x3000

/-- The characters that end a line. -/
def isLineBreak (c : Char) : Bool :=
  let n := c.toNat
  (0x0A ≤ n && n ≤ 0x0D) || (0x1C ≤ n && n ≤ 0x1E) || n == 0x85 || n == 0x2028 || n == 0x2029

/-- Whether the code point of a character lies in one of some ranges, given by first and last. -/
def inRanges (ranges : List (Nat × Nat)) (c : Char) : Bool :=
  ranges.any fun (first, last) => first ≤ c.toNat && c.toNat ≤ last

namespace Text

/-! ### Trimming -/

/-- A text without the white space in front. -/
def trimStart (t : Text) : Text := t.dropWhile isSpace

/-- A text without the characters of a class at its end. -/
def dropEndWhile (p : Char → Bool) (t : Text) : Text := (t.reverse.dropWhile p).reverse

theorem dropEndWhile_subset (p : Char → Bool) (t : Text) :
  dropEndWhile p t ⊆ t
  := by
  intro c hc
  rw [dropEndWhile, List.mem_reverse] at hc
  apply List.mem_reverse.mp ((List.dropWhile_suffix p).subset hc)

/-- A text without the white space at its end. -/
def trimEnd (t : Text) : Text := t.dropEndWhile isSpace

/-- A text without the white space at both ends. -/
def trim (t : Text) : Text := t.trimStart.trimEnd

/-- A text without the copies of one character at both ends. -/
def trimChar (c : Char) (t : Text) : Text := dropEndWhile (· == c) (t.dropWhile (· == c))

/-- A blank text has no character but white space. -/
def isBlank (t : Text) : Bool := t.all isSpace

/-! ### Lines and words -/

/-- Put a character in front of the first piece of a list of pieces. -/
def consFirst (c : Char) : List Text → List Text
  | [] => [[c]]
  | t :: ts => (c :: t) :: ts

/-- The lines of a text.  A carriage return directly followed by a line feed is one break,
and a break at the very end opens no further line. -/
def lines : Text → List Text
  | [] => []
  | '\r' :: '\n' :: t => [] :: lines t
  | c :: t => if isLineBreak c then [] :: lines t else consFirst c (lines t)

/-- The pieces of a text between the characters of a class; neighbours enclose an empty piece. -/
def splitWhere (p : Char → Bool) : Text → List Text
  | [] => [[]]
  | c :: t => if p c then [] :: splitWhere p t else consFirst c (splitWhere p t)

/-- The words of a text: its pieces between white space that are not empty. -/
def words (t : Text) : List Text := (t.splitWhere isSpace).filter fun w => !w.isEmpty

/-! ### Cutting at a piece -/

/-- What follows a given beginning, if the text begins so. -/
def after? (t start : Text) : Option Text :=
  if start.isPrefixOf t then some (t.drop start.length) else none

/-- A text cut around the first place where a given piece stands. -/
def cutAt (t piece : Text) : Option (Text × Text) :=
  match t.after? piece with
  | some rest => some ([], rest)
  | none =>
    match t with
    | [] => none
    | c :: t' => (cutAt t' piece).map fun (front, rest) => (c :: front, rest)

/-- Whether a piece stands anywhere in a text. -/
def has (t piece : Text) : Bool := (t.cutAt piece).isSome

/-- A text without a given ending, if it ends so. -/
def dropEnding (t ending : Text) : Text :=
  if ending.isSuffixOf t then t.take (t.length - ending.length) else t

/-- The characters from one position up to another. -/
def between (t : Text) (start stop : Nat) : Text := (t.drop start).take (stop - start)

/-- The last characters of a text, at most `n` of them. -/
def takeEnd (n : Nat) (t : Text) : Text := t.drop (t.length - n)

/-! ### Joining and comparing -/

/-- The texts of a list with a separator between neighbours. -/
def join (separator : Text) : List Text → Text
  | [] => []
  | [t] => t
  | t :: ts => t ++ separator ++ join separator ts

/-- The order of texts by the code points of their characters. -/
def before : Text → Text → Bool
  | [], [] => false
  | [], _ :: _ => true
  | _ :: _, [] => false
  | c :: t, d :: u => c.toNat < d.toNat || (c == d && before t u)

end Text

end BoxDiagram
