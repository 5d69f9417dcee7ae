/-!
# What a double stands for

A double is not a number, an infinity, or a sign with a whole multiple of a power of two.
Everything that is written about a double is worked out from this exact value.
-/

namespace BoxDiagram

/-- The value of a double: `finite negative m e` is `m · 2^e` or its opposite. -/
inductive FloatValue where
  | notANumber
  | infinite (negative : Bool)
  | finite (negative : Bool) (mantissa : Nat) (exponent : Int)
  deriving DecidableEq, Repr

/-- The power of two that every finite double is a multiple of. -/
def leastExponent : Int := -1074

/-- The bit in front of the 52 fraction bits. -/
def hiddenBit : Nat := 0x10000000000000

/-- The value of a double, read off its sign bit, eleven exponent bits and 52 fraction bits. -/
def FloatValue.ofFloat (x : Float) : FloatValue :=
  let bits := x.toBits.toNat
  let negative := bits / 0x8000000000000000 % 2 == 1
  let biased := bits / hiddenBit % 0x800
  let fraction := bits % hiddenBit
  if biased == 2047 then
    if fraction == 0 then .infinite negative else .notANumber
  else if biased == 0 then .finite negative fraction leastExponent
  else .finite negative (fraction + hiddenBit) (leastExponent + (biased - 1 : Nat))

/-- A power of a whole number as a numerator and a denominator. -/
def powerFraction (base : Nat) : Int → Nat × Nat
  | .ofNat k => (Nat.pow base k, 1)
  | .negSucc k => (1, Nat.pow base (k + 1))

end BoxDiagram
