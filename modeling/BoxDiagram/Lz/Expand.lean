import BoxDiagram.Lz.Token

/-!
# Expanding compressed text

The reader of compressed text works in units of sixteen bits.  It keeps the phrases that the
writer made, one step behind: every token but the first makes the phrase of the previous one
and the first unit of its own.
-/

namespace BoxDiagram.Lz

/-- A unit of sixteen bits. -/
abbrev Code := Nat

/-- The number that bits spell, least significant first. -/
def ofLowBits (bits : List Bool) : Nat := bits.foldr (fun b n => b.toNat + 2 * n) 0

/-- The six bits of a letter. -/
def bitsOfLetter (c : Char) : Option (List Bool) :=
  (letters.findIdx? (· == c)).map fun n => (lowBits 6 n).reverse

/-- The bits of some letters. -/
def bitsOfLetters : Text → Option (List Bool)
  | [] => some []
  | c :: t => do
    let bits ← bitsOfLetter c
    let rest ← bitsOfLetters t
    return bits ++ rest

/-- What a token says to the reader: a new unit, or a phrase. -/
inductive Item where
  | unit (code : Code)
  | phrase (number : Nat)
  deriving DecidableEq, Repr

/-- The items of some bits up to the end, from a width onwards.  Each item takes two bits or
more, so the number of bits is fuel enough. -/
def itemsOfBits : Nat → Width → List Bool → Option (List Item)
  | 0, _, _ => none
  | fuel + 1, w, bits =>
    if bits.length < w.bits then none
    else
      let number := ofLowBits (bits.take w.bits)
      let rest := bits.drop w.bits
      let unit (count : Nat) :=
        if rest.length < count then none
        else (itemsOfBits fuel w.spend.spend (rest.drop count)).map
          (.unit (ofLowBits (rest.take count)) :: ·)
      match number with
      | 0 => unit 8
      | 1 => unit 16
      | 2 => some []
      | _ => (itemsOfBits fuel w.spend rest).map (.phrase number :: ·)

/-- The phrase that an item names, given the phrases so far and the previous one.  A number that
is just being made stands for the previous phrase and its first unit again. -/
def phraseOf (phrases : Array (List Code)) (previous : List Code) : Item → Option (List Code)
  | .unit code => some [code]
  | .phrase number =>
    match phrases[number - firstPhrase]? with
    | some phrase => some phrase
    | none =>
      if number == phrases.size + firstPhrase then some (previous ++ previous.take 1) else none

/-- The phrases with the one of a new unit, if the item is one. -/
def withUnit (phrases : Array (List Code)) : Item → Array (List Code)
  | .unit code => phrases.push [code]
  | .phrase _ => phrases

/-- The units of some items, given the phrases so far and the previous one. -/
def expandFrom (phrases : Array (List Code)) (previous : List Code) : List Item → Option (List Code)
  | [] => some []
  | item :: items => do
    let phrases := withUnit phrases item
    let phrase ← phraseOf phrases previous item
    let rest ← expandFrom (phrases.push (previous ++ phrase.take 1)) phrase items
    return phrase ++ rest

/-- The units of some items. -/
def expandItems : List Item → Option (List Code)
  | [] => some []
  | .unit code :: items => (expandFrom #[[code]] [code] items).map (code :: ·)
  | .phrase _ :: _ => none

/-- The units that compressed text stands for. -/
def expand (t : Text) : Option (List Code) := do
  let bits ← bitsOfLetters t
  let items ← itemsOfBits bits.length .initial bits
  expandItems items

end BoxDiagram.Lz
