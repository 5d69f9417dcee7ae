import BoxDiagram.Layout
import Mathlib.Tactic.Use

/-!
# The boxes of a scope

Every box of a scope is the box for one of the labels in the scope's rows, at some place.
Alignment moves boxes sideways and does nothing else, so the labels of the boxes are the
labels of the rows in order, and the boxes in a box are those of the scope that its label
names.  All of this holds over any kind of number.
-/

namespace BoxDiagram

variable {α : Type} [Scalar α] {m : Measurer α} {sp : Spacing α} {path : Text}
  {nested : Text → Option (List (Box α))}

/-! ### The box for a label -/

@[simp]
theorem boxFor_label (label : Text) (x y : α) (right : Bool) (boxes : Option (List (Box α))) :
  (boxFor m sp path label x y right boxes).label = label
  := by
  cases boxes <;> rfl

@[simp]
theorem boxFor_path (label : Text) (x y : α) (right : Bool) (boxes : Option (List (Box α))) :
  (boxFor m sp path label x y right boxes).path = path
  := by
  cases boxes <;> rfl

@[simp]
theorem boxFor_x (label : Text) (x y : α) (right : Bool) (boxes : Option (List (Box α))) :
  (boxFor m sp path label x y right boxes).x = x
  := by
  cases boxes <;> rfl

@[simp]
theorem boxFor_y (label : Text) (x y : α) (right : Bool) (boxes : Option (List (Box α))) :
  (boxFor m sp path label x y right boxes).y = y
  := by
  cases boxes <;> rfl

@[simp]
theorem boxFor_rightAligned (label : Text) (x y : α) (right : Bool)
    (boxes : Option (List (Box α))) :
  (boxFor m sp path label x y right boxes).rightAligned = right
  := by
  cases boxes <;> rfl

@[simp]
theorem boxFor_boxes (label : Text) (x y : α) (right : Bool) (boxes : Option (List (Box α))) :
  (boxFor m sp path label x y right boxes).boxes = boxes.getD []
  := by
  cases boxes <;> rfl

/-- The box for a label at another place is the same box with another `x`. -/
theorem boxFor_with_x (label : Text) (x x' y : α) (right : Bool) (boxes : Option (List (Box α))) :
  { boxFor m sp path label x y right boxes with x := x' }
    = boxFor m sp path label x' y right boxes
  := by
  cases boxes <;> rfl

/-! ### Rows -/

/-- The label of a box and the side it is packed to. -/
def sided (b : Box α) : Text × Bool := (b.label, b.rightAligned)

variable (m sp path nested) in
/-- A packed row has one box for each label, in order. -/
theorem map_sided_packRow (x y : α) (labels : List (Text × Bool)) :
  (packRow m sp path nested x y labels).1.map sided = labels
  := by
  induction labels generalizing x with
  | nil => rfl
  | cons label labels ih =>
      rw [packRow, List.map_cons, ih, sided, boxFor_label, boxFor_rightAligned]

/-- Every box of a packed row is the box for one of its labels. -/
theorem mem_packRow {x y : α} {labels : List (Text × Bool)} {b : Box α}
    (hb : b ∈ (packRow m sp path nested x y labels).1) :
  ∃ label right x', (label, right) ∈ labels
    ∧ b = boxFor m sp path label x' y right (nested label)
  := by
  induction labels generalizing x with
  | nil => contradiction
  | cons label labels ih =>
      rw [packRow] at hb
      obtain rfl | hb := List.mem_cons.mp hb
      · use label.1, label.2, x, List.mem_cons_self
      · obtain ⟨l, right, x', hl, rfl⟩ := ih hb
        use l, right, x', List.mem_cons_of_mem _ hl

/-- Sliding begins with the last box. -/
theorem slideRight_cons (margin edge : α) (b : Box α) (boxes : List (Box α)) :
  slideRight margin edge (b :: boxes)
    = if b.rightAligned then
        ({ b with x := (slideRight margin edge boxes).2 - b.width }
          :: (slideRight margin edge boxes).1,
          (slideRight margin edge boxes).2 - b.width - margin)
      else (b :: (slideRight margin edge boxes).1, (slideRight margin edge boxes).2)
  := rfl

/-- Sliding boxes to an edge changes nothing but their `x`. -/
theorem mem_slideRight {margin edge : α} {boxes : List (Box α)} {b : Box α}
    (hb : b ∈ (slideRight margin edge boxes).1) :
  ∃ c ∈ boxes, ∃ x, b = { c with x }
  := by
  induction boxes with
  | nil => contradiction
  | cons c boxes ih =>
      have hcons : b = c ∨ b = { c with x := (slideRight margin edge boxes).2 - c.width }
          ∨ b ∈ (slideRight margin edge boxes).1 := by
        rw [slideRight_cons] at hb
        split at hb
        · right
          apply List.mem_cons.mp hb
        · obtain hb | hb := List.mem_cons.mp hb
          · left
            apply hb
          · right; right
            apply hb
      obtain rfl | rfl | hb := hcons
      · use b, List.mem_cons_self, b.x
        cases b
        rfl
      · use c, List.mem_cons_self, (slideRight margin edge boxes).2 - c.width
      · obtain ⟨c', hc', hx⟩ := ih hb
        use c', List.mem_cons_of_mem _ hc'

theorem map_sided_slideRight (margin edge : α) (boxes : List (Box α)) :
  (slideRight margin edge boxes).1.map sided = boxes.map sided
  := by
  induction boxes with
  | nil => rfl
  | cons b boxes ih =>
      rw [slideRight_cons, List.map_cons, ← ih]
      split <;> rfl

/-- The rows of a scope are packed one below the other. -/
theorem packRows_cons (y edge : α) (row : Row) (rows : List Row) :
  packRows m sp path nested y edge (row :: rows)
    = let packed := packRow m sp path nested sp.margin y (sidedLabels row)
      let edge := if packed.1.isEmpty then edge else larger edge (packed.2 - sp.margin)
      let rest := packRows m sp path nested (y + (rowHeight packed.1 + sp.margin)) edge rows
      (packed.1 :: rest.1, rest.2)
  := rfl

/-- Every box of the packed rows is the box for one of the labels. -/
theorem mem_packRows {y edge : α} {rows : List Row} {boxes : List (Box α)} {b : Box α}
    (hboxes : boxes ∈ (packRows m sp path nested y edge rows).1) (hb : b ∈ boxes) :
  ∃ row ∈ rows, ∃ label right x' y', (label, right) ∈ sidedLabels row
    ∧ b = boxFor m sp path label x' y' right (nested label)
  := by
  induction rows generalizing y edge with
  | nil => contradiction
  | cons row rows ih =>
      rw [packRows_cons] at hboxes
      obtain rfl | hboxes := List.mem_cons.mp hboxes
      · obtain ⟨label, right, x', hl, rfl⟩ := mem_packRow hb
        use row, List.mem_cons_self, label, right, x', y
      · obtain ⟨row', hrow', h⟩ := ih hboxes
        use row', List.mem_cons_of_mem _ hrow'

variable (m sp path nested) in
theorem map_sided_packRows (y edge : α) (rows : List Row) :
  (packRows m sp path nested y edge rows).1.flatMap (·.map sided) = rows.flatMap sidedLabels
  := by
  induction rows generalizing y edge with
  | nil => rfl
  | cons row rows ih =>
      rw [packRows_cons, List.flatMap_cons, List.flatMap_cons, ih, map_sided_packRow]

/-! ### Scopes -/

/-- Every box of a scope is the box for one of the labels in its rows. -/
theorem mem_arrange {rows : List Row} {b : Box α} (hb : b ∈ arrange m sp path nested rows) :
  ∃ row ∈ rows, ∃ label right x y, (label, right) ∈ sidedLabels row
    ∧ b = boxFor m sp path label x y right (nested label)
  := by
  obtain ⟨boxes, hboxes, hb⟩ := List.mem_flatMap.mp hb
  obtain ⟨c, hc, x, rfl⟩ := mem_slideRight hb
  obtain ⟨row, hrow, label, right, x', y, hl, rfl⟩ := mem_packRows hboxes hc
  use row, hrow, label, right, x, y, hl
  apply boxFor_with_x

/-- The boxes of a scope have the labels of its rows, in order, each on its side. -/
theorem map_sided_arrange (rows : List Row) :
  (arrange m sp path nested rows).map sided = rows.flatMap sidedLabels
  := by
  rw [← map_sided_packRows m sp path nested sp.margin 0, arrange, List.map_flatMap]
  congr 1
  funext boxes
  apply map_sided_slideRight

end BoxDiagram
