import BoxDiagram.Settings.Source

/-!
# Values without quotes

A value without quotes is nothing, a truth value, a number, or else a text.  A whole number is
written in base ten, in base two after `0b`, eight after `0` or sixteen after `0x`, or in base
ten with further places in base sixty behind colons.  A number with a point may have an
exponent, whose sign is not left out, or places in base sixty.  Underscores may stand among the
digits of all but exponents and places in base sixty.
-/

namespace BoxDiagram.Yaml

/-! ### Words -/

/-- The words for nothing. -/
def nullWords : List Text := ["", "~", "null", "Null", "NULL"]

/-- The words for true. -/
def trueWords : List Text :=
  ["true", "True", "TRUE", "yes", "Yes", "YES", "on", "On", "ON"]

/-- The words for false. -/
def falseWords : List Text :=
  ["false", "False", "FALSE", "no", "No", "NO", "off", "Off", "OFF"]

/-- The words for infinity without a sign. -/
def infinityWords : List Text := [".inf", ".Inf", ".INF"]

/-- The words for not a number. -/
def nanWords : List Text := [".nan", ".NaN", ".NAN"]

/-! ### Digits -/

/-- The digits of the bases up to sixteen. -/
def digitLetters : Text := "0123456789abcdef"

/-- The value of a digit in a base up to sixteen. -/
def digitIn? (base : Nat) (c : Char) : Option Nat :=
  (digitLetters.take base).findIdx? (· == c.toLower)

/-- Whether a text has only digits of a base and underscores. -/
def isSpread (base : Nat) (t : Text) : Bool :=
  t.all fun c => c == '_' || (digitIn? base c).isSome

/-- Whether a text is a digit with digits and underscores behind it. -/
def isNumberFront : Text → Bool
  | [] => false
  | c :: t => c.isDigit && isSpread 10 t

/-- Whether a text is a place in base sixty: one digit, or two for a number below sixty. -/
def isPlace : Text → Bool
  | [c] => c.isDigit
  | [c, d] => '0' ≤ c && c ≤ '5' && d.isDigit
  | _ => false

/-- The digits in a text. -/
def digitsOf (t : Text) : Text := t.filter (· != '_')

/-- The number that the digits in a text spell in a base. -/
def natIn (base : Nat) (t : Text) : Nat :=
  ((digitsOf t).filterMap (digitIn? base)).foldl (fun n d => base * n + d) 0

/-! ### Whole numbers -/

/-- A number with digits in a base, if a text holds nothing else. -/
def inBase? (base : Nat) (t : Text) : Option (Except YamlError Nat) :=
  if t.isEmpty || !isSpread base t then none
  else if (digitsOf t).isEmpty then some (.error (.noDigits base))
  else some (.ok (natIn base t))

/-- The greatest number of digits in base ten. -/
def digitLimit : Nat := 4300

/-- A number in base ten with further places in base sixty, if there are any. -/
def inTens? (t : Text) : Option (Except YamlError Nat) :=
  match t.splitWhere (· == ':') with
  | [] => none
  | front :: places =>
    let count := (digitsOf front).length
    if !isNumberFront front || !places.all isPlace then none
    else if digitLimit < count then some (.error (.tooManyDigits count))
    else some (.ok (places.foldl (fun n place => 60 * n + natIn 10 place) (natIn 10 front)))

/-- The natural number that a text stands for, if it stands for one. -/
def naturalOf? : Text → Option (Except YamlError Nat)
  | ['0'] => some (.ok 0)
  | '0' :: 'b' :: t => inBase? 2 t
  | '0' :: 'x' :: t => inBase? 16 t
  | '0' :: t => if isSpread 8 t then some (.ok (natIn 8 t)) else none
  | t => inTens? t

/-- The whole number that a text stands for, if it stands for one. -/
def wholeOf? (t : Text) : Option (Except YamlError Int) :=
  let (negative, t) := takeSign t
  (naturalOf? t).map fun n => (fun n : Nat => if negative then -(n : Int) else n) <$> n

/-! ### Numbers with a point -/

/-- Whether a text is an exponent with its sign, or nothing. -/
def isExponent : Text → Bool
  | [] => true
  | e :: sign :: digits =>
    (e == 'e' || e == 'E') && (sign == '+' || sign == '-') && !digits.isEmpty
      && digits.all Char.isDigit
  | _ => false

/-- The unsigned number with a point that a text stands for.  It may begin with the point if
nothing stands before that. -/
def unsignedOf? (mayBeginWithPoint : Bool) (t : Text) : Option Float :=
  let mantissa := t.takeWhile fun c => c != 'e' && c != 'E'
  match Text.cutAt mantissa ['.'] with
  | none => none
  | some (front, fraction) =>
    let isMantissa :=
      if front.isEmpty then mayBeginWithPoint && isNumberFront fraction
      else isNumberFront front && isSpread 10 fraction
    if isMantissa && isExponent (t.drop mantissa.length) then
      (readDecimal (digitsOf t)).map fun (m, e) => nearestFloat m e
    else none

/-- The sum of places in base sixty, the last one first, of which the first one has a weight. -/
def sumPlaces (total : Float) (weight : Nat) : List Float → Float
  | [] => total
  | x :: xs => sumPlaces (total + x * nearestFloat weight 0) (60 * weight) xs

/-- The unsigned number with a point and with places in base sixty that a text stands for. -/
def sixtiesOf? (t : Text) : Option Float :=
  match t.cutAt ['.'] with
  | none => none
  | some (whole, fraction) =>
    match whole.splitWhere (· == ':') with
    | front :: place :: places =>
      let places := place :: places
      if isNumberFront front && places.all isPlace && isSpread 10 fraction then
        let last := places.getLast?.getD [] ++ '.' :: fraction
        let texts := last :: (front :: places).dropLast.reverse
        let values := texts.filterMap fun t =>
          (readDecimal (digitsOf t)).map fun (m, e) => nearestFloat m e
        some (sumPlaces 0.0 1 values)
      else none
    | _ => none

/-- The double that a text with a point stands for. -/
def decimalOf? (t : Text) : Option Float :=
  let (negative, unsigned) := takeSign t
  let isSigned := unsigned.length != t.length
  if nanWords.contains t then some Numeral.notANumber.toFloat
  else if infinityWords.contains unsigned then some (Numeral.infinite negative).toFloat
  else
    ((unsignedOf? (!isSigned) unsigned).or (sixtiesOf? unsigned)).map fun x =>
      if negative then -x else x

/-! ### All values -/

/-- The value of a text without quotes. -/
def plainValue (t : Text) : Except YamlError Json :=
  if nullWords.contains t then .ok .null
  else if trueWords.contains t then .ok (.bool true)
  else if falseWords.contains t then .ok (.bool false)
  else
    match wholeOf? t with
    | some n => Json.int <$> n
    | none =>
      match decimalOf? t with
      | some x => .ok (.float x)
      | none => .ok (.str t)

end BoxDiagram.Yaml
