import BoxDiagram.Identifier.Sha1

/-!
# Names as identifiers

An identifier has 16 bytes.  The identifier of a name inside a namespace is made from the
first 16 bytes of the SHA-1 digest of both, with the version five and the variant written
over six of its bits, so equal names always get equal identifiers.
-/

namespace BoxDiagram

/-- An identifier of 16 bytes. -/
structure Uuid where
  bytes : Bytes
  deriving DecidableEq, Repr

namespace Uuid

/-- The namespace of domain names. -/
def domainNames : Uuid :=
  ⟨[0x6B, 0xA7, 0xB8, 0x10, 0x9D, 0xAD, 0x11, 0xD1, 0x80, 0xB4, 0x00, 0xC0, 0x4F, 0xD4, 0x30, 0xC8]⟩

/-- Write the version and the variant over a digest. -/
def stamp (position : Nat) (byte : UInt8) : UInt8 :=
  if position == 6 then (byte &&& 0x0F) ||| 0x50
  else if position == 8 then (byte &&& 0x3F) ||| 0x80
  else byte

/-- The identifier of a name inside a namespace. -/
def ofName (scope : Uuid) (name : Text) : Uuid :=
  ⟨((Sha1.digest (scope.bytes ++ name.encode)).take 16).mapIdx stamp⟩

/-- An identifier in hexadecimal digits, in five groups. -/
def text (u : Uuid) : Text :=
  let digits : Text := u.bytes.flatMap fun b => hexText 2 b.toNat
  Text.join ['-'] [digits.take 8, digits.between 8 12, digits.between 12 16, digits.between 16 20,
    digits.drop 20]

end Uuid

end BoxDiagram
