import BoxDiagram.Files.Tree

/-!
# Streams of text

A stream is read piece by piece.  The bytes of a character that a piece cuts in two wait for the
next piece and are decoded with it, so a position in an error counts from the first byte that
has waited.  A reader asks for blocks of characters, and a piece has as many bytes as the rest
of a block would need if it took as many for each character as the piece before, but never
fewer than the least size.
-/

namespace BoxDiagram

/-- How far a stream has been read: the text so far, the bytes that wait, whether a carriage return
waits for what follows it, and the bytes for each character in the last piece. -/
structure Stream where
  text : Text
  waiting : Bytes
  atReturn : Bool
  bytesPerChar : Float

/-- Whether data that is not UTF-8 may become so when more follows: it ends within a character, or
after two bytes that begin a surrogate. -/
def Utf8Error.mayContinue (e : Utf8Error) (data : Bytes) : Bool :=
  e.fault == .unexpectedEnd
    || (e.byte == 0xED && e.position + 2 == data.length
      && data.getLast?.any fun b => 0xA0 ≤ b && b ≤ 0xBF)

/-- The text that data encodes, and the bytes at its end that begin a further character. -/
def decodeFront (data : Bytes) : Except Utf8Error (Text × Bytes) :=
  match decodeText data with
  | .ok t => .ok (t, [])
  | .error e =>
    if e.mayContinue data then
      (fun t => (t, data.drop e.position)) <$> decodeText (data.take e.position)
    else .error e

namespace Stream

/-- A stream of which nothing has been read. -/
def start : Stream := ⟨[], [], false, 0.0⟩

/-- The number of characters in a block. -/
def blockSize : Nat := 4096

/-- The least number of bytes in a piece. -/
def leastPiece : Nat := 8192

/-- The number of bytes in the next piece. -/
def pieceSize (s : Stream) : Nat :=
  let wanted := blockSize - s.text.length % blockSize
  max leastPiece (s.bytesPerChar * Float.ofNat wanted).toUInt64.toNat

/-- Add text, behind a carriage return that waits. -/
def afterReturn (s : Stream) (t : Text) : Text := if s.atReturn then '\r' :: t else t

/-- Read a piece. -/
def readPiece (s : Stream) (piece : Bytes) : Except Utf8Error Stream :=
  match decodeFront (s.waiting ++ piece) with
  | .error e => .error e
  | .ok (t, waiting) =>
    let t := s.afterReturn t
    let atReturn := t.getLast? == some '\r'
    let read := FileTree.lineFeeds (if atReturn then t.dropLast else t)
    let bytesPerChar :=
      if read.isEmpty then 0.0 else Float.ofNat piece.length / Float.ofNat read.length
    .ok ⟨s.text ++ read, waiting, atReturn, bytesPerChar⟩

/-- The whole text of a stream that has ended. -/
def finish (s : Stream) : Except Utf8Error Text :=
  (fun t => s.text ++ FileTree.lineFeeds (s.afterReturn t)) <$> decodeText s.waiting

/-- A piece is not empty. -/
theorem pieceSize_pos (s : Stream) : 0 < s.pieceSize :=
  Nat.lt_of_lt_of_le (by decide) (Nat.le_max_left leastPiece _)

/-- Read to the end, or up to the first piece that is not UTF-8. -/
def readToEnd (s : Stream) (data : Bytes) : Text × Option Utf8Error :=
  if _ : data = [] then
    match s.finish with
    | .ok t => (t, none)
    | .error e => (s.text, some e)
  else
    match s.readPiece (data.take s.pieceSize) with
    | .error e => (s.text, some e)
    | .ok next => next.readToEnd (data.drop s.pieceSize)
termination_by data.length
decreasing_by
  rw [List.length_drop]
  exact Nat.sub_lt (List.length_pos_iff.mpr (by assumption)) s.pieceSize_pos

end Stream

end BoxDiagram
