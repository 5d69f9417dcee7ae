import BoxDiagram.Text.Quoted

/-!
# UTF-8

A text is stored as bytes in UTF-8.  Reading stops at the first bytes that encode no
character, and the error says where they stand and what is wrong with them: a byte that can
start no character, a byte that cannot continue one, or an end of the data inside one.
-/

namespace BoxDiagram

/-- Stored data. -/
abbrev Bytes := List UInt8

/-- The bytes of a character. -/
def encodeChar (c : Char) : Bytes :=
  let n := c.toNat
  if n < 0x80 then [n.toUInt8]
  else if n < 0x800 then [(0xC0 + n / 0x40).toUInt8, (0x80 + n % 0x40).toUInt8]
  else if n < 0x10000 then
    [(0xE0 + n / 0x1000).toUInt8, (0x80 + n / 0x40 % 0x40).toUInt8, (0x80 + n % 0x40).toUInt8]
  else
    [(0xF0 + n / 0x40000).toUInt8, (0x80 + n / 0x1000 % 0x40).toUInt8,
     (0x80 + n / 0x40 % 0x40).toUInt8, (0x80 + n % 0x40).toUInt8]

/-- The bytes of a text. -/
def Text.encode (t : Text) : Bytes := t.flatMap encodeChar

/-- What is wrong with bytes that encode no character. -/
inductive Utf8Fault where
  | invalidStart
  | invalidContinuation
  | unexpectedEnd
  deriving DecidableEq, Repr

/-- Where data is not UTF-8: the first byte at fault, its position and the count of such bytes. -/
structure Utf8Error where
  fault : Utf8Fault
  byte : UInt8
  position : Nat
  length : Nat
  deriving DecidableEq, Repr

/-- What is wrong with bytes that encode no character, in words. -/
def Utf8Fault.message : Utf8Fault → Text
  | .invalidStart => "invalid start byte"
  | .invalidContinuation => "invalid continuation byte"
  | .unexpectedEnd => "unexpected end of data"

/-- What is said about data that is not UTF-8. -/
def Utf8Error.message (e : Utf8Error) : Text :=
  let where_ : Text :=
    if e.length ≤ 1 then
      ("byte 0x" : Text) ++ hexText 2 e.byte.toNat ++ (" in position " : Text) ++ natText e.position
    else
      ("bytes in position " : Text) ++ natText e.position
        ++ '-' :: natText (e.position + e.length - 1)
  ("'utf-8' codec can't decode " : Text) ++ where_ ++ ':' :: ' ' :: e.fault.message

/-- How many bytes follow a first byte, and the least and the greatest byte that may come next. -/
def continuationOf (first : UInt8) : Option (Nat × UInt8 × UInt8) :=
  if first < 0x80 then some (0, 0x80, 0xBF)
  else if first < 0xC2 then none
  else if first < 0xE0 then some (1, 0x80, 0xBF)
  else if first == 0xE0 then some (2, 0xA0, 0xBF)
  else if first == 0xED then some (2, 0x80, 0x9F)
  else if first < 0xF0 then some (2, 0x80, 0xBF)
  else if first == 0xF0 then some (3, 0x90, 0xBF)
  else if first < 0xF4 then some (3, 0x80, 0xBF)
  else if first == 0xF4 then some (3, 0x80, 0x8F)
  else none

/-- The part of a first byte that belongs to the code point. -/
def firstBits (first : UInt8) : Nat :=
  let n := first.toNat
  if n < 0x80 then n else if n < 0xE0 then n % 0x20 else if n < 0xF0 then n % 0x10 else n % 0x08

/-- Read data that begins at a position.  Inside a character `pending` holds its first byte, its
position, the code point so far, how many bytes are still to come, and the bounds of the next. -/
def decodeFrom (position : Nat) (pending : Option (UInt8 × Nat × Nat × Nat × UInt8 × UInt8)) :
    Bytes → Except Utf8Error Text
  | [] =>
    match pending with
    | none => .ok []
    | some (first, start, _) => .error ⟨.unexpectedEnd, first, start, position - start⟩
  | b :: bytes =>
    match pending with
    | none =>
      match continuationOf b with
      | none => .error ⟨.invalidStart, b, position, 1⟩
      | some (0, _) => (Char.ofNat b.toNat :: ·) <$> decodeFrom (position + 1) none bytes
      | some (more, low, high) =>
        decodeFrom (position + 1) (some (b, position, firstBits b, more, low, high)) bytes
    | some (first, start, code, more, low, high) =>
      if b < low || high < b then .error ⟨.invalidContinuation, first, start, position - start⟩
      else
        let code := code * 0x40 + b.toNat % 0x40
        if more ≤ 1 then (Char.ofNat code :: ·) <$> decodeFrom (position + 1) none bytes
        else decodeFrom (position + 1) (some (first, start, code, more - 1, 0x80, 0xBF)) bytes

/-- The text that data encodes. -/
def decodeText (bytes : Bytes) : Except Utf8Error Text := decodeFrom 0 none bytes

end BoxDiagram
