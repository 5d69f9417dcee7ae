import BoxDiagram.Connector
import Mathlib.Analysis.Convex.Segment
import Mathlib.Data.Real.Basic
import Mathlib.Order.CompletePartialOrder
import Mathlib.Topology.Instances.Real.Lemmas
import Mathlib.Topology.Order.DenselyOrdered

/-!
# Where connectors attach

The two axes do not see each other: on each of them the ends of a connector join two spans, from
edge to edge where one span ends before the other begins, and from middle to middle otherwise.
This describes the ends fully, so that they lie in their boxes and swap with the boxes follows
from it alone.  Where the spans are apart the line runs in the gap between them on that axis; it
therefore meets the inside of neither box.
-/

namespace BoxDiagram

/-! ### One axis -/

/-- Two places join two spans of one axis: the edges that face each other across a gap, or else the
middles. -/
structure JoinsSpans (aStart aEnd bStart bEnd p q : ℚ) : Prop where
  before : aEnd < bStart → p = aEnd ∧ q = bStart ∧ q - p = bStart - aEnd
  behind : bEnd < aStart → p = aStart ∧ q = bEnd ∧ p - q = aStart - bEnd
  level : bStart ≤ aEnd → aStart ≤ bEnd → p = (aStart + aEnd) / 2 ∧ q = (bStart + bEnd) / 2

section Spans

variable {aStart aEnd bStart bEnd p q p' q' : ℚ}

/-- The ends of a connector on one axis join the spans of the two boxes. -/
theorem joinsSpans_axisEnds (ha : aStart ≤ aEnd) (hb : bStart ≤ bEnd) {aCenter bCenter : ℚ}
    (haCenter : aCenter = (aStart + aEnd) / 2) (hbCenter : bCenter = (bStart + bEnd) / 2) :
  JoinsSpans aStart aEnd bStart bEnd
    (axisEnds (aEnd < bStart) (bEnd < aStart) aStart aCenter aEnd bStart bCenter bEnd).1
    (axisEnds (aEnd < bStart) (bEnd < aStart) aStart aCenter aEnd bStart bCenter bEnd).2
  := by
  simp only [axisEnds, decide_eq_true_eq]
  split
  · next hbefore =>
    constructor
    case before => simp
    case behind =>
      intro hbehind
      linarith
    case level =>
      intro hle
      linarith
  · next hbefore =>
    split
    · next hbehind =>
      constructor
      case before =>
        intro h
        contradiction
      case behind => simp
      case level =>
        intro _ hle
        linarith
    · next hbehind =>
      constructor
      case before =>
        intro h
        contradiction
      case behind =>
        intro h
        contradiction
      case level =>
        intro _ _
        use haCenter, hbCenter

theorem JoinsSpans.symm (h : JoinsSpans aStart aEnd bStart bEnd p q) :
  JoinsSpans bStart bEnd aStart aEnd q p
  := by
  constructor
  case before =>
    intro hlt
    obtain ⟨hp, hq, hgap⟩ := h.behind hlt
    use hq, hp, hgap
  case behind =>
    intro hlt
    obtain ⟨hp, hq, hgap⟩ := h.before hlt
    use hq, hp, hgap
  case level =>
    intro hle hle'
    apply (h.level hle' hle).symm

/-- Two spans are joined in one way. -/
theorem JoinsSpans.unique (h : JoinsSpans aStart aEnd bStart bEnd p q)
    (h' : JoinsSpans aStart aEnd bStart bEnd p' q') :
  p = p' ∧ q = q'
  := by
  obtain hbefore | hle := lt_or_ge aEnd bStart
  · obtain ⟨rfl, rfl, -⟩ := h.before hbefore
    obtain ⟨rfl, rfl, -⟩ := h'.before hbefore
    use rfl
  · obtain hbehind | hle' := lt_or_ge bEnd aStart
    · obtain ⟨rfl, rfl, -⟩ := h.behind hbehind
      obtain ⟨rfl, rfl, -⟩ := h'.behind hbehind
      use rfl
    · obtain ⟨rfl, rfl⟩ := h.level hle hle'
      obtain ⟨rfl, rfl⟩ := h'.level hle hle'
      use rfl

/-- The first of two places that join two spans is in the first span. -/
theorem JoinsSpans.mem_left (h : JoinsSpans aStart aEnd bStart bEnd p q) (ha : aStart ≤ aEnd) :
  aStart ≤ p ∧ p ≤ aEnd
  := by
  obtain hbefore | hle := lt_or_ge aEnd bStart
  · obtain ⟨rfl, -⟩ := h.before hbefore
    use ha
  · obtain hbehind | hle' := lt_or_ge bEnd aStart
    · obtain ⟨rfl, -⟩ := h.behind hbehind
      use le_refl _
    · obtain ⟨rfl, -⟩ := h.level hle hle'
      constructor <;> linarith

/-- What lies between the edges that face each other lies inside neither span. -/
theorem JoinsSpans.outside (h : JoinsSpans aStart aEnd bStart bEnd p q)
    (hapart : aEnd < bStart ∨ bEnd < aStart) {z : ℝ} (hz : z ∈ segment ℝ (p : ℝ) q) :
  z ∉ Set.Ioo (aStart : ℝ) aEnd
  := by
  rintro ⟨hstart, hend⟩
  obtain hbefore | hbehind := hapart
  · obtain ⟨rfl, rfl, -⟩ := h.before hbefore
    rw [segment_eq_Icc (by exact_mod_cast hbefore.le)] at hz
    apply absurd hend (not_lt_of_ge hz.1)
  · obtain ⟨rfl, rfl, -⟩ := h.behind hbehind
    rw [segment_symm, segment_eq_Icc (by exact_mod_cast hbehind.le)] at hz
    apply absurd hstart (not_lt_of_ge hz.2)

end Spans

/-! ### Boxes -/

/-- The place of a point on the plane. -/
def Point.place (p : Point ℚ) : ℝ × ℝ := (p.x, p.y)

namespace Box

/-- The closed rectangle of a box on the plane. -/
def area (b : Box ℚ) : Set (ℝ × ℝ) :=
  Set.Icc (b.left : ℝ) b.right ×ˢ Set.Icc (b.top : ℝ) b.bottom

/-- A box has no negative extent. -/
structure Extended (b : Box ℚ) : Prop where
  width : 0 ≤ b.width
  height : 0 ≤ b.height

/-- Two boxes are strictly apart along one of the axes. -/
def StrictlyApart (a b : Box ℚ) : Prop :=
  (a.right < b.left ∨ b.right < a.left) ∨ (a.bottom < b.top ∨ b.bottom < a.top)

theorem Extended.left_le_right {b : Box ℚ} (h : b.Extended) :
  b.left ≤ b.right
  := le_add_of_nonneg_right h.width

theorem Extended.top_le_bottom {b : Box ℚ} (h : b.Extended) :
  b.top ≤ b.bottom
  := le_add_of_nonneg_right h.height

theorem center_x (b : Box ℚ) :
  b.center.x = (b.left + b.right) / 2
  := by
  change b.left + b.width / 2 = (b.left + (b.left + b.width)) / 2
  ring

theorem center_y (b : Box ℚ) :
  b.center.y = (b.top + b.bottom) / 2
  := by
  change b.top + b.height / 2 = (b.top + (b.top + b.height)) / 2
  ring

theorem mem_area_iff {b : Box ℚ} {p : Point ℚ} :
  p.place ∈ b.area ↔ (b.left ≤ p.x ∧ p.x ≤ b.right) ∧ (b.top ≤ p.y ∧ p.y ≤ b.bottom)
  := by
  rw [area, Set.mem_prod, Set.mem_Icc, Set.mem_Icc]
  simp only [Point.place, Rat.cast_le]

theorem interior_area (b : Box ℚ) :
  interior b.area = Set.Ioo (b.left : ℝ) b.right ×ˢ Set.Ioo (b.top : ℝ) b.bottom
  := by
  rw [area, interior_prod_eq, interior_Icc, interior_Icc]

end Box

/-! ### Ends -/

/-- Two points join two boxes when on each axis they join the spans of the boxes. -/
structure JoinsBoxes (a b : Box ℚ) (p q : Point ℚ) : Prop where
  horizontal : JoinsSpans a.left a.right b.left b.right p.x q.x
  vertical : JoinsSpans a.top a.bottom b.top b.bottom p.y q.y

variable {a b : Box ℚ} {p q : Point ℚ}

theorem JoinsBoxes.symm (h : JoinsBoxes a b p q) :
  JoinsBoxes b a q p
  := ⟨h.horizontal.symm, h.vertical.symm⟩

/-- Two boxes are joined in one way. -/
theorem JoinsBoxes.unique {p' q' : Point ℚ} (h : JoinsBoxes a b p q) (h' : JoinsBoxes a b p' q') :
  p = p' ∧ q = q'
  := by
  obtain ⟨hpx, hqx⟩ := h.horizontal.unique h'.horizontal
  obtain ⟨hpy, hqy⟩ := h.vertical.unique h'.vertical
  rw [Point.mk.injEq, Point.mk.injEq]
  use ⟨hpx, hpy⟩, hqx, hqy

/-- The ends of a connector join its two boxes. -/
theorem joinsBoxes_connectorEnds (ha : a.Extended) (hb : b.Extended) :
  JoinsBoxes a b (connectorEnds a b).1 (connectorEnds a b).2
  := by
  constructor
  · apply joinsSpans_axisEnds ha.left_le_right hb.left_le_right a.center_x b.center_x
  · apply joinsSpans_axisEnds ha.top_le_bottom hb.top_le_bottom a.center_y b.center_y

/-- The first of two points that join two boxes lies in the first box. -/
theorem JoinsBoxes.mem_area (h : JoinsBoxes a b p q) (ha : a.Extended) :
  p.place ∈ a.area
  := by
  rw [Box.mem_area_iff]
  use h.horizontal.mem_left ha.left_le_right
  apply h.vertical.mem_left ha.top_le_bottom

/-- The line between two points that join two boxes which are apart meets no inner point of the
first. -/
theorem JoinsBoxes.disjoint_interior (h : JoinsBoxes a b p q) (hapart : a.StrictlyApart b) :
  Disjoint (segment ℝ p.place q.place) (interior a.area)
  := by
  rw [Set.disjoint_left, Box.interior_area]
  rintro z hz ⟨hx, hy⟩
  obtain ⟨hzx, hzy⟩ := Prod.segment_subset p.place q.place hz
  obtain hapart | hapart := hapart
  · apply h.horizontal.outside hapart hzx hx
  · apply h.vertical.outside hapart hzy hy

/-- For any two boxes without negative extent,

* the ends of the connector lie in the closed rectangles of the boxes;
* the connector the other way has the same ends, swapped;
* on an axis where one box ends strictly before the other begins the ends are the edges that face
  each other, with the gap between them, and on any other axis they are the middles of the boxes;
* if the boxes are strictly apart along an axis, no point of the line between the ends is inside
  one of the boxes. -/
theorem connectorEnds_attached (a b : Box ℚ) (ha : a.Extended) (hb : b.Extended) :
  let ends := connectorEnds a b
  (ends.1.place ∈ a.area ∧ ends.2.place ∈ b.area)
    ∧ connectorEnds b a = ends.swap
    ∧ JoinsBoxes a b ends.1 ends.2
    ∧ (a.StrictlyApart b →
      Disjoint (segment ℝ ends.1.place ends.2.place) (interior a.area)
        ∧ Disjoint (segment ℝ ends.1.place ends.2.place) (interior b.area))
  := by
  intro ends
  have hjoins : JoinsBoxes a b ends.1 ends.2 := joinsBoxes_connectorEnds ha hb
  refine ⟨⟨?start, ?finish⟩, ?swapped, hjoins, ?clear⟩
  case start => apply hjoins.mem_area ha
  case finish => apply hjoins.symm.mem_area hb
  case swapped =>
    obtain ⟨hstart, hfinish⟩ := (joinsBoxes_connectorEnds hb ha).unique hjoins.symm
    apply Prod.ext hstart hfinish
  case clear =>
    intro hapart
    use hjoins.disjoint_interior hapart
    rw [segment_symm]
    apply hjoins.symm.disjoint_interior (hapart.imp Or.symm Or.symm)

/-- A box and one without height, apart on one axis and level on the other. -/
theorem connectorEnds_attached_beside :
  let a : Box ℚ := ⟨"a", [], 0, 0, 2, 4, false, .origin, 0, 0, []⟩
  let b : Box ℚ := ⟨"b", [], 5, 3, 1, 0, false, .origin, 5, 3, []⟩
  a.Extended ∧ b.Extended ∧ a.StrictlyApart b ∧ connectorEnds a b = (⟨2, 2⟩, ⟨5, 3⟩)
    ∧ Disjoint (segment ℝ (connectorEnds a b).1.place (connectorEnds a b).2.place) (interior a.area)
  := by
  intro a b
  have ha : a.Extended := by constructor <;> decide
  have hb : b.Extended := by constructor <;> decide
  have hapart : a.StrictlyApart b := by
    left; left
    decide +kernel
  obtain ⟨-, -, -, hclear⟩ := connectorEnds_attached a b ha hb
  refine ⟨ha, hb, hapart, by decide +kernel, (hclear hapart).1⟩

end BoxDiagram
