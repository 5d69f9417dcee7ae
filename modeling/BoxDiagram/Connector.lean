import BoxDiagram.Lookup
import BoxDiagram.Text.Quoted

/-!
# Connectors

A relation between two boxes is drawn as a line with a head.  On an axis where one box ends
strictly before the other begins the line joins the edges that face each other, and on any
other axis it joins the centres.  The arrow between the labels chooses the line by its first
two characters and the head by its last two.
-/

namespace BoxDiagram

/-! ### Arrows -/

/-- How the line of a connector is drawn. -/
inductive LineStyle where
  | solid
  | dashed
  deriving DecidableEq, Repr

/-- How the head of a connector is drawn. -/
inductive HeadStyle where
  | plain
  | hollowTriangle
  | hollowDiamond
  | filledDiamond
  deriving DecidableEq, Repr

/-- The name of a line style. -/
def LineStyle.name : LineStyle → Text
  | .solid => "solid"
  | .dashed => "dashed"

theorem LineStyle.name_inj {a b : LineStyle} :
  a.name = b.name ↔ a = b
  := by
  cases a <;> cases b <;> decide

namespace HeadStyle

/-- The name of a head style. -/
def name : HeadStyle → Text
  | plain => "plain"
  | hollowTriangle => "hollow_triangle"
  | hollowDiamond => "hollow_diamond"
  | filledDiamond => "filled_diamond"

/-- The head style with a given name. -/
def ofName? (t : Text) : Option HeadStyle :=
  [plain, hollowTriangle, hollowDiamond, filledDiamond].find? (·.name == t)

/-- Every head style has a name of its own, and is known by it. -/
theorem ofName?_eq_some_iff {t : Text} {head : HeadStyle} :
  ofName? t = some head ↔ head.name = t
  := by
  constructor
  · intro h
    simpa [ofName?] using List.find?_some h
  · rintro rfl
    cases head <;> decide

/-- What is said about a name that no head style has. -/
def unknownName (t : Text) : Text := t.quoted ++ (" is not a valid HeadStyle" : Text)

/-- Whether the background shows inside a head. -/
def isHollow : HeadStyle → Bool
  | hollowTriangle | hollowDiamond => true
  | plain | filledDiamond => false

/-- Whether a head is a diamond. -/
def isDiamond : HeadStyle → Bool
  | hollowDiamond | filledDiamond => true
  | plain | hollowTriangle => false

end HeadStyle

/-- The looks that an arrow asks for. -/
structure ArrowStyle where
  line : LineStyle
  head : HeadStyle
  deriving DecidableEq, Repr

/-- The head that the last two characters of an arrow ask for. -/
def headOfArrow (arrow : Text) : HeadStyle :=
  match Text.takeEnd 2 arrow with
  | [':', '>'] => .hollowTriangle
  | ['-', 'o'] => .hollowDiamond
  | ['-', '+'] => .filledDiamond
  | _ => .plain

/-- The looks that an arrow asks for. -/
def ArrowStyle.ofArrow (arrow : Text) : ArrowStyle :=
  ⟨if arrow.take 2 == ['-', '-'] then .dashed else .solid, headOfArrow arrow⟩

/-! ### Ends -/

variable {α : Type} [Scalar α]

/-- The ends of a connector on one axis, given whether one box ends before the other begins or
begins behind its end, and where each box begins, its centre and its end. -/
def axisEnds (before behind : Bool) (aStart aCenter aEnd bStart bCenter bEnd : α) : α × α :=
  if before then (aEnd, bStart) else if behind then (aStart, bEnd) else (aCenter, bCenter)

/-- The two ends of the connector between two boxes. -/
def connectorEnds (a b : Box α) : Point α × Point α :=
  let (ax, bx) := axisEnds (a.isLeftOf b) (a.isRightOf b) a.left a.center.x a.right
    b.left b.center.x b.right
  let (ay, byEnd) := axisEnds (a.isAbove b) (a.isBelow b) a.top a.center.y a.bottom
    b.top b.center.y b.bottom
  (⟨ax, ay⟩, ⟨bx, byEnd⟩)

/-! ### Heads -/

/-- The angles that a head is built with. -/
class Angular (α : Type) where
  /-- The angle of the direction with vertical part `y` and horizontal part `x`. -/
  direction (y x : α) : α
  /-- The sine of an angle. -/
  sine : α → α
  /-- The cosine of an angle. -/
  cosine : α → α
  /-- The angle between the line and each edge of a head. -/
  spread : α

instance : Angular Float where
  direction := Float.atan2
  sine := Float.sin
  cosine := Float.cos
  spread := 3.141592653589793 / 6.0

/-- The corners of a head: its tip, a corner on each side, and the far corner of a diamond. -/
structure ArrowHead (α : Type) where
  tip : Point α
  sideA : Point α
  sideB : Point α
  back : Option (Point α)

/-- The outline of a head, beginning at its tip. -/
def ArrowHead.outline {α : Type} (h : ArrowHead α) : List (Point α) :=
  match h.back with
  | none => [h.tip, h.sideA, h.sideB]
  | some back => [h.tip, h.sideA, back, h.sideB]

variable [Angular α]

/-- The point at a distance back along an angle. -/
def backAlong (p : Point α) (length angle : α) : Point α :=
  ⟨p.x - length * Angular.cosine angle, p.y - length * Angular.sine angle⟩

/-- The head of a line from one point to another. -/
def ArrowHead.ofLine (start finish : Point α) (head : HeadStyle) (length : α) : ArrowHead α :=
  let angle := Angular.direction (finish.y - start.y) (finish.x - start.x)
  let sideA := backAlong finish length (angle - Angular.spread)
  let sideB := backAlong finish length (angle + Angular.spread)
  let back := backAlong sideA length (angle + Angular.spread)
  ⟨finish, sideA, sideB, if head.isDiamond then some back else none⟩

/-! ### Connectors -/

/-- A relation with all that is needed to draw it. -/
structure Connector (α : Type) where
  relation : Relation
  start : Point α
  finish : Point α
  style : ArrowStyle
  head : ArrowHead α

/-- The connector of a relation between two boxes. -/
def Connector.between (headLength : α) (relation : Relation) (a b : Box α) : Connector α :=
  let (start, finish) := connectorEnds a b
  let style := ArrowStyle.ofArrow relation.arrow
  { relation, start, finish, style, head := ArrowHead.ofLine start finish style.head headLength }

/-- The connector of a relation declared at a path, if both its labels name boxes. -/
def connect (headLength : α) (boxes : List (Box α)) (path : Text) (relation : Relation) :
    Option (Connector α) :=
  match boxNamed boxes path relation.start, boxNamed boxes path relation.finish with
  | some a, some b => some (.between headLength relation a b)
  | _, _ => none

/-- The connectors of all relations of a diagram, scope by scope. -/
def connectAll (headLength : α) (s : Scope) (boxes : List (Box α)) : List (Connector α) :=
  (s.withPaths []).flatMap fun (path, scope) =>
    (scope.relations.getD []).filterMap (connect headLength boxes path)

end BoxDiagram
