import BoxDiagram.Text.Basic

/-!
# Tokens of compressed text

Compressed text is a row of tokens: a character that has not come before, the number of an
earlier phrase, and at last the end.  A token begins with a number in as many bits as are
needed at that point, least significant first.  Zero announces a new character of eight bits,
one a new character of sixteen bits, two is the end, and any other number is a phrase; so the
numbers of phrases begin with three.  The bits are written six to a letter.
-/

namespace BoxDiagram.Lz

/-- A piece of compressed text. -/
inductive Token where
  | new (c : Char)
  | known (phrase : Nat)
  | stop
  deriving DecidableEq, Repr

/-- The number of the first phrase. -/
def firstPhrase : Nat := 3

/-- How many bits a number has, and for how many phrases more. -/
structure Width where
  bits : Nat
  left : Nat
  deriving DecidableEq, Repr

/-- The width in front of the first token. -/
def Width.initial : Width := ⟨2, 2⟩

/-- The width behind one phrase more. -/
def Width.spend (w : Width) : Width :=
  if w.left ≤ 1 then ⟨w.bits + 1, Nat.pow 2 w.bits⟩ else ⟨w.bits, w.left - 1⟩

/-- The width behind a token.  A new character makes two phrases. -/
def Width.after (w : Width) : Token → Width
  | .new _ => w.spend.spend
  | .known _ => w.spend
  | .stop => w

/-- The low bits of a number, least significant first. -/
def lowBits (count n : Nat) : List Bool := (List.range count).map n.testBit

/-- The bits of a token at a width.  Of a character above sixteen bits only the low sixteen are
kept. -/
def tokenBits (w : Width) : Token → List Bool
  | .new c =>
    if c.toNat < 256 then lowBits w.bits 0 ++ lowBits 8 c.toNat
    else lowBits w.bits 1 ++ lowBits 16 c.toNat
  | .known phrase => lowBits w.bits phrase
  | .stop => lowBits w.bits 2

/-- The bits of some tokens from a width onwards. -/
def bitsOfTokens (w : Width) : List Token → List Bool
  | [] => []
  | token :: tokens => tokenBits w token ++ bitsOfTokens (w.after token) tokens

/-! ### Letters -/

/-- The letters for the numbers below 64. -/
def letters : Text := "ABCDEFGHIJKLMNOPQRSTUVWXYZabcdefghijklmnopqrstuvwxyz0123456789+-"

/-- The number that bits spell, most significant first. -/
def ofBits (bits : List Bool) : Nat := bits.foldl (fun n b => 2 * n + b.toNat) 0

/-- The letter for six bits; missing ones are zeros. -/
def letterOf (bits : List Bool) : Char :=
  letters.getD (ofBits (bits ++ List.replicate (6 - bits.length) false)) 'A'

/-- Bits as letters.  The last letter holds fewer than six bits and zeros after them, and it
stands there even when no bits are left for it. -/
def lettersOfBits : List Bool → Text
  | a :: b :: c :: d :: e :: f :: rest => letterOf [a, b, c, d, e, f] :: lettersOfBits rest
  | rest => [letterOf rest]

end BoxDiagram.Lz
