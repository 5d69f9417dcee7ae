import BoxDiagram.Lz.Token
import Std.Data.HashMap

/-!
# Compressing text

Text is cut from the left into the longest phrases that have come before.  Each phrase cut
off, together with the character after it, is a new phrase, and so is each new character.
-/

namespace BoxDiagram.Lz

/-- The phrase that is being matched: its number, and its only character if that is new. -/
structure Phrase where
  number : Nat
  fresh : Option Char
  deriving DecidableEq, Repr

/-- The token for a phrase. -/
def Phrase.token (p : Phrase) : Token :=
  match p.fresh with
  | some c => .new c
  | none => .known p.number

/-- The phrases so far: the single characters by their code points, the longer phrases by their
beginning and the code point of their last character, and the number of the next one. -/
structure Phrases where
  characters : Std.HashMap Nat Nat
  longer : Std.HashMap (Nat × Nat) Nat
  next : Nat

/-- No phrases. -/
def Phrases.empty : Phrases := ⟨∅, ∅, firstPhrase⟩

/-- The phrase of one character, which is made if the character is new. -/
def Phrases.single (d : Phrases) (c : Char) : Phrase × Phrases :=
  match d.characters[c.toNat]? with
  | some number => (⟨number, none⟩, d)
  | none =>
    let characters := d.characters.insert c.toNat d.next
    (⟨d.next, some c⟩, { d with characters, next := d.next + 1 })

/-- A phrase and the character after it as a new phrase. -/
def Phrases.extend (d : Phrases) (p : Phrase) (c : Char) : Phrases :=
  { d with longer := d.longer.insert (p.number, c.toNat) d.next, next := d.next + 1 }

/-- The tokens of a text, given the phrases so far and the phrase that is being matched. -/
def tokensFrom (d : Phrases) (p : Phrase) : Text → List Token
  | [] => [p.token, .stop]
  | c :: t =>
    let (one, d) := d.single c
    match d.longer[(p.number, c.toNat)]? with
    | some number => tokensFrom d ⟨number, none⟩ t
    | none => p.token :: tokensFrom (d.extend p c) one t

/-- The tokens of a text. -/
def tokensOf : Text → List Token
  | [] => [.stop]
  | c :: t =>
    let (one, d) := Phrases.empty.single c
    tokensFrom d one t

/-- A text in compressed form, in letters that may stand in an address. -/
def compress (t : Text) : Text := lettersOfBits (bitsOfTokens .initial (tokensOf t))

end BoxDiagram.Lz
