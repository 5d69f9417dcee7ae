import BoxDiagram.Decimal.Rounding

/-!
# The fewest digits that read back

The reals that read back as the double `m · 2^e` form an interval around it, which reaches
half-way to the two neighbouring doubles and holds its ends exactly when `m` is even.  The
shortest decimal is found on the coarsest decimal grid that meets this interval: of the two
grid points around the value those inside the interval are candidates, the nearer one wins,
and of two equally near ones the even one.  Seventeen digits always suffice.
-/

namespace BoxDiagram

/-- The interval of reals that read back as a double, and the double, in units of `num / den`. -/
structure ReadingInterval where
  low : Nat
  value : Nat
  high : Nat
  closed : Bool
  num : Nat
  den : Nat

/-- The interval of `m · 2^e`.  Below a power of two the neighbour is only half as far. -/
def readingInterval (m : Nat) (e : Int) : ReadingInterval :=
  let (num, den) := powerFraction 2 (e - 2)
  let below := if m == hiddenBit && leastExponent < e then 1 else 2
  { low := 4 * m - below, value := 4 * m, high := 4 * m + 2, closed := m % 2 == 0, num, den }

/-- The multiple of `10^grid` that stands for the double on this grid, if one reads back as it. -/
def ReadingInterval.onGrid (i : ReadingInterval) (grid : Int) : Option Nat :=
  let (up, down) := powerFraction 10 grid
  let scale := i.num * down
  let unit := i.den * up
  let inside (c : Nat) : Bool :=
    if i.closed then i.low * scale ≤ c * unit && c * unit ≤ i.high * scale
    else i.low * scale < c * unit && c * unit < i.high * scale
  let below := i.value * scale / unit
  let above := below + 1
  match inside below, inside above with
  | false, false => none
  | true, false => some below
  | false, true => some above
  | true, true => some (roundHalfEven (i.value * scale) unit)

/-- The decimal `c · 10^grid` with the fewest digits that reads back as the double `m · 2^e`. -/
def shortestDecimal (m : Nat) (e : Int) : Nat × Int :=
  let i := readingInterval m e
  let leading := leadingExponent (i.value * i.num) i.den
  let found := (List.range 17).findSome? fun (k : Nat) =>
    let grid := leading - (k : Int)
    (i.onGrid grid).map fun c => (c, grid)
  found.getD (0, 0)

end BoxDiagram
