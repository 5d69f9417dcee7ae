import BoxDiagram.Text.Utf8

/-!
# SHA-1

The SHA-1 digest of data.  The data is padded with a one bit, zeros and its length in bits
to a multiple of 64 bytes; every block of 64 bytes is spread to 80 words, which are worked
into a state of five words in 80 rounds.
-/

namespace BoxDiagram.Sha1

/-- A 32-bit word turned to the left. -/
def rotate (w : UInt32) (n : UInt32) : UInt32 := (w <<< n) ||| (w >>> (32 - n))

/-- The bytes of a number, most significant first. -/
def bigEndian (count n : Nat) : Bytes :=
  (List.range count).map fun i => (n / Nat.pow 256 (count - 1 - i)).toUInt8

/-- The number that bytes spell, most significant first. -/
def ofBigEndian (bytes : Bytes) : Nat := bytes.foldl (fun n b => 256 * n + b.toNat) 0

/-- Data padded to a multiple of 64 bytes. -/
def pad (bytes : Bytes) : Bytes :=
  let zeros := (119 - bytes.length % 64) % 64
  bytes ++ 0x80 :: List.replicate zeros 0 ++ bigEndian 8 (8 * bytes.length)

/-- A list cut into `count` pieces of one length. -/
def pieces {α : Type} (length : Nat) : Nat → List α → List (List α)
  | 0, _ => []
  | count + 1, l => l.take length :: pieces length count (l.drop length)

/-- The 80 words of a block. -/
def schedule (block : Bytes) : Array UInt32 :=
  let words := ((pieces 4 16 block).map fun bytes => (ofBigEndian bytes).toUInt32).toArray
  (List.range 64).foldl (fun (w : Array UInt32) i =>
    let at_ (j : Nat) := w.getD (i + j) 0
    w.push (rotate (at_ 13 ^^^ at_ 8 ^^^ at_ 2 ^^^ at_ 0) 1)) words

/-- The state of five words. -/
structure State where
  a : UInt32
  b : UInt32
  c : UInt32
  d : UInt32
  e : UInt32

/-- The state before the first block. -/
def State.initial : State := ⟨0x67452301, 0xEFCDAB89, 0x98BADCFE, 0x10325476, 0xC3D2E1F0⟩

/-- The mixing word and the constant of a round. -/
def mix (s : State) (round : Nat) : UInt32 × UInt32 :=
  if round < 20 then ((s.b &&& s.c) ||| (~~~s.b &&& s.d), 0x5A827999)
  else if round < 40 then (s.b ^^^ s.c ^^^ s.d, 0x6ED9EBA1)
  else if round < 60 then ((s.b &&& s.c) ||| (s.b &&& s.d) ||| (s.c &&& s.d), 0x8F1BBCDC)
  else (s.b ^^^ s.c ^^^ s.d, 0xCA62C1D6)

/-- One round with a word of the schedule. -/
def round (words : Array UInt32) (s : State) (i : Nat) : State :=
  let (f, k) := mix s i
  ⟨rotate s.a 5 + f + s.e + k + words.getD i 0, s.a, rotate s.b 30, s.c, s.d⟩

/-- Work a block into the state. -/
def absorb (s : State) (block : Bytes) : State :=
  let t := (List.range 80).foldl (round (schedule block)) s
  ⟨s.a + t.a, s.b + t.b, s.c + t.c, s.d + t.d, s.e + t.e⟩

/-- The 20 bytes of the digest of data. -/
def digest (bytes : Bytes) : Bytes :=
  let padded := pad bytes
  let s := (pieces 64 (padded.length / 64) padded).foldl absorb .initial
  [s.a, s.b, s.c, s.d, s.e].flatMap fun w => bigEndian 4 w.toNat

end BoxDiagram.Sha1
