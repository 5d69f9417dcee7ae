import BoxDiagram.Text.Basic
import BoxDiagram.Decimal.FloatValue

/-!
# Rounding to the nearest

A quotient of natural numbers is rounded to the nearest whole number, and a quotient that
lies half-way goes to the even neighbour.  The exponent of its leading decimal digit is the
power of ten at or just below it.
-/

namespace BoxDiagram

/-- The decimal digits of a natural number. -/
def natText (n : Nat) : Text := Nat.toDigits 10 n

/-- The decimal digits of a whole number, after a minus if it is negative. -/
def intText : Int → Text
  | .ofNat n => natText n
  | .negSucc n => '-' :: natText (n + 1)

/-- The quotient `num / den` rounded to the nearest whole number, a half to the even one. -/
def roundHalfEven (num den : Nat) : Nat :=
  let quotient := num / den
  let twice := 2 * (num % den)
  if twice < den then quotient
  else if den < twice then quotient + 1
  else if quotient % 2 == 0 then quotient else quotient + 1

/-- Why a double has no nearest whole number. -/
inductive RoundingError where
  | notANumber
  | infinite
  deriving DecidableEq, Repr

/-- What is said about a double that has no nearest whole number. -/
def RoundingError.message : RoundingError → Text
  | .notANumber => "cannot convert float NaN to integer"
  | .infinite => "cannot convert float infinity to integer"

/-- The whole number nearest to a double, a half to the even one. -/
def roundFloat (x : Float) : Except RoundingError Int :=
  match FloatValue.ofFloat x with
  | .notANumber => .error .notANumber
  | .infinite _ => .error .infinite
  | .finite negative m e =>
    let (num, den) := powerFraction 2 e
    let n := roundHalfEven (m * num) den
    .ok (if negative then -(n : Int) else n)

/-- The whole number nearest to a rational number, a half to the even one. -/
def roundRat (v : Rat) : Int :=
  let n := roundHalfEven v.num.natAbs v.den
  if v < 0 then -(n : Int) else n

/-- The power of ten of the leading digit of `num / den`, which is positive. -/
def leadingExponent (num den : Nat) : Int :=
  let guess : Int := (natText num).length - (natText den).length
  let (up, down) := powerFraction 10 guess
  if den * up ≤ num * down then guess else guess - 1

end BoxDiagram
