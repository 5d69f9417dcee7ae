/-!
# Numbers, points and sizes

Boxes are laid out over any kind of number with the operations of `Scalar`: the drawn
diagrams use doubles, and the exact rational numbers obey the same definitions.  No law is
asked of a scalar, because doubles satisfy few; `larger` therefore says which of two numbers
it keeps when they do not compare.
-/

namespace BoxDiagram

/-- A kind of number to lay boxes out with. -/
class Scalar (α : Type) extends Add α, Sub α, Mul α, Div α, LT α, BEq α, Zero α where
  /-- The number two. -/
  two : α
  /-- A count as a number. -/
  count : Nat → α
  /-- Comparison is decidable. -/
  decideLess (a b : α) : Decidable (a < b)

instance Scalar.decidableLess {α : Type} [Scalar α] : DecidableLT α :=
  fun a b => Scalar.decideLess a b

instance : Scalar Float where
  two := 2
  count := Float.ofNat
  decideLess := fun _ _ => inferInstance

instance : Scalar Rat where
  toZero := @Zero.ofOfNat0 Rat (@Rat.instOfNat 0)
  two := 2
  count := fun n => n
  decideLess := fun _ _ => inferInstance

variable {α : Type} [Scalar α]

/-- The first of two numbers, unless the second is greater. -/
def larger (a b : α) : α := if a < b then b else a

/-- The first of two numbers, unless the second is less. -/
def smaller (a b : α) : α := if b < a then b else a

/-- The greatest of some numbers, and zero if there is none. -/
def greatest : List α → α
  | [] => 0
  | a :: as => as.foldl larger a

/-- A point of the plane; `y` grows downwards. -/
structure Point (α : Type) where
  x : α
  y : α
  deriving DecidableEq, Repr

/-- A width and a height. -/
structure Size (α : Type) where
  width : α
  height : α
  deriving DecidableEq, Repr

/-- The point where both coordinates are zero. -/
def Point.origin : Point α := ⟨0, 0⟩

/-- The sum of two points, coordinate by coordinate. -/
def Point.shift (p q : Point α) : Point α := ⟨p.x + q.x, p.y + q.y⟩

end BoxDiagram
