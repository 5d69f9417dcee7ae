import BoxDiagram.Decimal.Shortest

/-!
# The written form of a number

A decimal is a list of digits with the power of ten of the first one.  A style says for
which exponents it is written positionally, whether a whole number keeps a `.0`, and how
wide an exponent is at least.  Four forms are written: the JSON form and the plain form,
both of the shortest decimal, the six-digit form, and the coordinate form with at most
three decimals.
-/

namespace BoxDiagram

/-- A positive decimal: its digits, without zeros at the end, and the power of ten of the first. -/
structure Decimal where
  digits : Text
  exponent : Int

/-- The decimal `c · 10^grid`. -/
def Decimal.ofScaled (c : Nat) (grid : Int) : Decimal :=
  let digits := natText c
  { digits := Text.dropEndWhile (· == '0') digits, exponent := grid + digits.length - 1 }

/-- How a decimal is laid out.  It is positional when its exponent is at least `low` and
below `high`. -/
structure NumberStyle where
  low : Int
  high : Int
  pointZero : Bool
  exponentWidth : Nat

/-- Numbers in JSON: `0.00001`, `1.5e-7`, `1.0`, `1e+16`. -/
def NumberStyle.json : NumberStyle := ⟨-5, 16, true, 1⟩

/-- Numbers shown to a reader: `0.0001`, `1e-05`, `1.0`, `1e+16`. -/
def NumberStyle.plain : NumberStyle := ⟨-4, 16, true, 2⟩

/-- Numbers of at most six digits: `14`, `0.0001`, `1e-05`, `1e+06`. -/
def NumberStyle.general : NumberStyle := ⟨-4, 6, false, 2⟩

/-- The exponent mark, a sign and at least `width` digits. -/
def exponentText (width : Nat) (e : Int) : Text :=
  let digits := natText e.natAbs
  'e' :: (if e < 0 then '-' else '+') :: List.replicate (width - digits.length) '0' ++ digits

/-- A decimal in a style. -/
def Decimal.text (style : NumberStyle) (d : Decimal) : Text :=
  if style.low ≤ d.exponent && d.exponent < style.high then
    let tail := if style.pointZero then ['.', '0'] else []
    match d.exponent with
    | .ofNat k =>
      let whole := d.digits.take (k + 1)
      let rest := d.digits.drop (k + 1)
      whole ++ List.replicate (k + 1 - whole.length) '0'
        ++ (if rest.isEmpty then tail else '.' :: rest)
    | .negSucc k => '0' :: '.' :: List.replicate k '0' ++ d.digits
  else
    let rest := d.digits.drop 1
    d.digits.take 1 ++ (if rest.isEmpty then [] else '.' :: rest)
      ++ exponentText style.exponentWidth d.exponent

/-- Zero in a style. -/
def NumberStyle.zero (style : NumberStyle) : Text :=
  if style.pointZero then ['0', '.', '0'] else ['0']

/-- A minus in front of the text of a negative number. -/
def signed (negative : Bool) (t : Text) : Text := if negative then '-' :: t else t

/-- The shortest decimal of a double in a style; an infinity is `inf` and not a number is `nan`. -/
def shortestText (style : NumberStyle) (x : Float) : Text :=
  match FloatValue.ofFloat x with
  | .notANumber => "nan"
  | .infinite negative => signed negative "inf"
  | .finite negative 0 _ => signed negative style.zero
  | .finite negative m e =>
    let (c, grid) := shortestDecimal m e
    signed negative ((Decimal.ofScaled c grid).text style)

/-! ### Six digits -/

/-- The positive quotient `num / den` rounded to six digits. -/
def sixDigits (num den : Nat) : Decimal :=
  let leading := leadingExponent num den
  let grid := leading - 5
  let (up, down) := powerFraction 10 grid
  Decimal.ofScaled (roundHalfEven (num * down) (den * up)) grid

/-- A double with at most six digits. -/
def generalText (x : Float) : Text :=
  match FloatValue.ofFloat x with
  | .notANumber => "nan"
  | .infinite negative => signed negative "inf"
  | .finite negative 0 _ => signed negative (NumberStyle.zero .general)
  | .finite negative m e =>
    let (num, den) := powerFraction 2 e
    signed negative ((sixDigits (m * num) den).text .general)

/-! ### Coordinates -/

/-- `n / 1000` with as many decimals as it needs. -/
def thousandthsText (n : Nat) : Text :=
  let fraction := natText (n % 1000)
  let padded := List.replicate (3 - fraction.length) '0' ++ fraction
  let decimals := Text.dropEndWhile (· == '0') padded
  natText (n / 1000) ++ (if decimals.isEmpty then [] else '.' :: decimals)

/-- Whether a double counts as the whole number `n`: their distance is at most a thousand
millionth part of the larger of the two. -/
def countsAsWhole (x : Float) (n : Int) : Bool :=
  let whole := Float.ofInt n
  let distance := (whole - x).abs
  x == whole || distance ≤ (1e-9 * whole).abs || distance ≤ (1e-9 * x).abs

/-- A coordinate: a double that counts as whole is written as that whole number, any other
with at most three decimals. -/
def coordinateText (x : Float) : Except RoundingError Text := do
  let n ← roundFloat x
  if countsAsWhole x n then return intText n
  match FloatValue.ofFloat x with
  | .finite negative m e =>
    let (num, den) := powerFraction 2 e
    return signed negative (thousandthsText (roundHalfEven (m * num * 1000) den))
  | _ => return intText n

/-- A coordinate that is a rational number, written by the same rule. -/
def coordinateTextOfRat (v : Rat) : Text :=
  let n := roundRat v
  let larger := if v.abs < (n : Rat).abs then (n : Rat).abs else v.abs
  if (v - n).abs ≤ larger / 1000000000 then intText n
  else signed (v < 0) (thousandthsText (roundHalfEven (v.num.natAbs * 1000) v.den))

end BoxDiagram
