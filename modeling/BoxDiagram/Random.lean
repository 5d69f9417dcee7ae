/-!
# Pseudo-random numbers

The Mersenne twister with a state of 624 words, seeded by the 32-bit words of a number,
least significant first; the sign of the number does not matter.  A draw gives a whole number
from 1 up to `2^31 - 1`: the top 31 bits of a word plus one, drawn anew while they are all
ones.
-/

namespace BoxDiagram

/-- The words of the state, and how many of them have been used. -/
structure Twister where
  words : Array UInt32
  used : Nat

namespace Twister

/-- The number of words of the state. -/
def size : Nat := 624

/-- The state seeded with one word. -/
def ofWord (seed : UInt32) : Array UInt32 :=
  (List.range (size - 1)).foldl (fun (words : Array UInt32) i =>
    let last := words.getD i 0
    words.push ((last ^^^ (last >>> 30)) * 1812433253 + Nat.toUInt32 (i + 1))) #[seed]

/-- The word at a place and the word before it, with its bits stirred. -/
def stirred (words : Array UInt32) (i : Nat) : UInt32 :=
  let last := words.getD (i - 1) 0
  last ^^^ (last >>> 30)

/-- Write a word at a place; behind the last place writing starts over, with the last word in
front. -/
def step (words : Array UInt32) (i : Nat) (word : UInt32) : Array UInt32 × Nat :=
  let words := words.setIfInBounds i word
  if size ≤ i + 1 then (words.setIfInBounds 0 (words.getD (size - 1) 0), 1) else (words, i + 1)

/-- The words of a number, least significant first, at most `fuel` of them. -/
def keyWords : Nat → Nat → List UInt32
  | 0, _ => []
  | fuel + 1, n => n.toUInt32 :: (if n < 0x100000000 then [] else keyWords fuel (n / 0x100000000))

/-- The generator seeded by a number. -/
def ofSeed (seed : Int) : Twister :=
  let key := keyWords (seed.natAbs.log2 / 32 + 1) seed.natAbs
  let rounds := max size key.length
  let (words, i) := (List.range rounds).foldl (fun (words, i) k =>
    let j := k % key.length
    let word := (words.getD i 0 ^^^ (stirred words i * 1664525)) + key.getD j 0 + j.toUInt32
    step words i word) (ofWord 19650218, 1)
  let (words, _) := (List.range (size - 1)).foldl (fun (words, i) (_ : Nat) =>
    step words i ((words.getD i 0 ^^^ (stirred words i * 1566083941)) - i.toUInt32)) (words, i)
  ⟨words.setIfInBounds 0 0x80000000, size⟩

/-- All words of the state renewed in turn. -/
def renew (words : Array UInt32) : Array UInt32 :=
  (List.range size).foldl (fun (words : Array UInt32) i =>
    let y := (words.getD i 0 &&& 0x80000000) ||| (words.getD ((i + 1) % size) 0 &&& 0x7FFFFFFF)
    let twist : UInt32 := if y &&& 1 == 1 then 0x9908B0DF else 0
    words.setIfInBounds i (words.getD ((i + 397) % size) 0 ^^^ (y >>> 1) ^^^ twist)) words

/-- The next word, and the generator after it. -/
def next (g : Twister) : UInt32 × Twister :=
  let g : Twister := if size ≤ g.used then ⟨renew g.words, 0⟩ else g
  let y := g.words.getD g.used 0
  let y := y ^^^ (y >>> 11)
  let y := y ^^^ ((y <<< 7) &&& 0x9D2C5680)
  let y := y ^^^ ((y <<< 15) &&& 0xEFC60000)
  (y ^^^ (y >>> 18), { g with used := g.used + 1 })

/-- The greatest number that is drawn. -/
def greatestDraw : Nat := 0x7FFFFFFF

/-- Draw a number, at most `fuel` times anew. -/
def drawWithin : Nat → Twister → Nat × Twister
  | 0, g => (1, g)
  | fuel + 1, g =>
    let (word, g) := g.next
    let top := word.toNat / 2
    if top < greatestDraw then (top + 1, g) else drawWithin fuel g

/-- Draw a number.  Among twice as many words as the state has there is always one that is not all
ones in its top bits, so the bound is never met. -/
def draw (g : Twister) : Nat × Twister := drawWithin (2 * size) g

end Twister

end BoxDiagram
