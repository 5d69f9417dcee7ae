import BoxDiagram.Proofs.Layout.Placing
import BoxDiagram.Proofs.Layout.Scopes

/-!
# Diagrams without numbers

The numbers of a box may be replaced, one by one, and those of the boxes in it with them.  What
is left without any numbers is a sketch: labels, paths, sides, and which box is in which.  Two
forests with the same sketch are the two sides of one forest over pairs of numbers.  The sketch
of a diagram comes from its scopes alone, however its texts are measured and whatever distances
are kept.
-/

namespace BoxDiagram

open Scope

variable {α β : Type} {f : α → β}

/-! ### Replacing numbers -/

/-- A point with other coordinates. -/
def Point.map (f : α → β) (p : Point α) : Point β := ⟨f p.x, f p.y⟩

mutual

/-- A box with other numbers, and so all boxes in it. -/
def Box.map (f : α → β) : Box α → Box β
  | ⟨label, path, x, y, width, height, rightAligned, inner, left, top, boxes⟩ =>
    { label, path, x := f x, y := f y, width := f width, height := f height, rightAligned,
      inner := inner.map f, left := f left, top := f top, boxes := Box.mapAll f boxes }

/-- Boxes with other numbers, and so all boxes in them. -/
def Box.mapAll (f : α → β) : List (Box α) → List (Box β)
  | [] => []
  | b :: boxes => Box.map f b :: Box.mapAll f boxes

end

theorem Box.map_eq (b : Box α) :
  b.map f
    = { label := b.label, path := b.path, x := f b.x, y := f b.y, width := f b.width,
        height := f b.height, rightAligned := b.rightAligned, inner := b.inner.map f,
        left := f b.left, top := f b.top, boxes := Box.mapAll f b.boxes }
  := by
  cases b
  rw [Box.map]

@[simp]
theorem Box.map_label (b : Box α) :
  (b.map f).label = b.label
  := by
  rw [Box.map_eq]

@[simp]
theorem Box.map_path (b : Box α) :
  (b.map f).path = b.path
  := by
  rw [Box.map_eq]

@[simp]
theorem Box.map_boxes (b : Box α) :
  (b.map f).boxes = Box.mapAll f b.boxes
  := by
  rw [Box.map_eq]

theorem Box.mapAll_eq_map (boxes : List (Box α)) :
  Box.mapAll f boxes = boxes.map (Box.map f)
  := by
  induction boxes with
  | nil => rfl
  | cons b boxes ih => rw [Box.mapAll, ih, List.map_cons]

/-- The walk through a forest does not depend on its numbers. -/
theorem Box.walkAll_mapAll (boxes : List (Box α)) :
  Box.walkAll (Box.mapAll f boxes) = (Box.walkAll boxes).map (Box.map f)
  := by
  induction boxes using Box.forest_induction with
  | step boxes ih =>
      rw [Box.mapAll_eq_map, Box.walkAll_eq_flatMap, Box.walkAll_eq_flatMap, List.flatMap_map,
        List.map_flatMap]
      apply List.flatMap_congr
      intro b hb
      rw [Box.walk_eq, Box.walk_eq, List.map_cons, Box.map_boxes, ih b hb]

/-! ### Sketches -/

/-- A box and the boxes in it without their numbers. -/
def Box.sketch (b : Box α) : Box Unit := b.map fun _ => ()

/-- Boxes and the boxes in them without their numbers. -/
def Box.sketchAll (boxes : List (Box α)) : List (Box Unit) := Box.mapAll (fun _ => ()) boxes

theorem Box.sketchAll_eq_map (boxes : List (Box α)) :
  Box.sketchAll boxes = boxes.map Box.sketch
  := Box.mapAll_eq_map boxes

/-- A sketch holds the label, the path and the side of a box, and the sketches of the boxes in
it. -/
theorem Box.sketch_eq_iff {b : Box α} {b' : Box β} :
  b.sketch = b'.sketch
    ↔ b.label = b'.label ∧ b.path = b'.path ∧ b.rightAligned = b'.rightAligned
      ∧ Box.sketchAll b.boxes = Box.sketchAll b'.boxes
  := by
  rw [Box.sketch, Box.sketch, Box.map_eq, Box.map_eq, Box.mk.injEq]
  simp [Box.sketchAll, Point.map]

/-- A box over pairs of numbers for two boxes with the same label, path and side and for boxes in
them. -/
theorem Box.exists_pair {b : Box α} {b' : Box β} (h : b.sketch = b'.sketch)
    (hboxes : ∃ pairs : List (Box (α × β)),
      Box.mapAll Prod.fst pairs = b.boxes ∧ Box.mapAll Prod.snd pairs = b'.boxes) :
  ∃ pair : Box (α × β), pair.map Prod.fst = b ∧ pair.map Prod.snd = b'
  := by
  obtain ⟨pairs, hfst, hsnd⟩ := hboxes
  obtain ⟨hlabel, hpath, hside, -⟩ := Box.sketch_eq_iff.mp h
  use { label := b.label, path := b.path, x := (b.x, b'.x), y := (b.y, b'.y),
        width := (b.width, b'.width), height := (b.height, b'.height),
        rightAligned := b.rightAligned,
        inner := ⟨(b.inner.x, b'.inner.x), (b.inner.y, b'.inner.y)⟩,
        left := (b.left, b'.left), top := (b.top, b'.top), boxes := pairs }
  constructor
  · rw [Box.map_eq, hfst]
    cases b
    rfl
  · rw [Box.map_eq, hsnd, hlabel, hpath, hside]
    cases b'
    rfl

/-- Two forests with the same sketch are the sides of a forest over pairs of numbers. -/
theorem Box.exists_pairs {boxes : List (Box α)} {boxes' : List (Box β)}
    (h : Box.sketchAll boxes = Box.sketchAll boxes') :
  ∃ pairs : List (Box (α × β)),
    Box.mapAll Prod.fst pairs = boxes ∧ Box.mapAll Prod.snd pairs = boxes'
  := by
  induction boxes using Box.forest_induction generalizing boxes' with
  | step boxes ih =>
      induction boxes generalizing boxes' with
      | nil =>
          use []
          rw [Box.sketchAll_eq_map, Box.sketchAll_eq_map] at h
          simpa [Box.mapAll] using h
      | cons b boxes ihrest =>
          cases boxes' with
          | nil => contradiction
          | cons b' boxes' =>
              obtain ⟨hb, hboxes⟩ := List.cons.inj h
              have hinside := (Box.sketch_eq_iff.mp hb).2.2.2
              obtain ⟨pair, rfl, rfl⟩ :=
                Box.exists_pair hb (ih b List.mem_cons_self hinside)
              obtain ⟨pairs, rfl, rfl⟩ :=
                ihrest (fun a ha => ih a (List.mem_cons_of_mem _ ha)) hboxes
              use pair :: pairs
              rw [Box.mapAll, Box.mapAll]
              constructor <;> rfl

/-! ### The sketch of a diagram -/

/-- The sketch of a box for a label on its side, with sketches of the boxes in it. -/
def Box.sketchFor (path : Text) (sidedLabel : Text × Bool) (boxes : List (Box Unit)) : Box Unit :=
  { label := sidedLabel.1, path, x := (), y := (), width := (), height := (),
    rightAligned := sidedLabel.2, inner := ⟨(), ()⟩, left := (), top := (), boxes }

/-- Placing boxes does not change their sketch. -/
theorem Box.sketchAll_placeBoxes [Scalar α] (start : Point α) (boxes : List (Box α)) :
  Box.sketchAll (placeBoxes start boxes) = Box.sketchAll boxes
  := by
  induction boxes using Box.forest_induction generalizing start with
  | step boxes ih =>
      rw [placeBoxes_eq_map, Box.sketchAll_eq_map, Box.sketchAll_eq_map, List.map_map]
      apply List.map_congr_left
      intro b hb
      rw [Function.comp_apply, Box.sketch_eq_iff, placeBox_boxes, ih b hb]
      simp

variable [Scalar α] [Scalar β] (m : Measurer α) (m' : Measurer β) (sp : Spacing α)
  (sp' : Spacing β)

/-- The sketch of the boxes of a scope is made from the labels in its rows and the sketches of the
scopes nested in it. -/
theorem Box.sketchAll_scopeBoxes_eq (path : Text) (s : Scope) :
  Box.sketchAll (scopeBoxes m sp path s)
    = ((s.layout.getD []).flatMap sidedLabels).map fun sidedLabel =>
        Box.sketchFor path sidedLabel
          (((s.nested? sidedLabel.1).map fun c =>
            Box.sketchAll (scopeBoxes m sp (pathBelow path sidedLabel.1) c)).getD [])
  := by
  rw [← map_sided_scopeBoxes m sp path, List.map_map, Box.sketchAll_eq_map]
  apply List.map_congr_left
  intro b hb
  have hboxes := boxes_of_mem_scopeBoxes hb
  rw [Function.comp_apply, sided, Box.sketch, Box.map_eq, path_of_mem_scopeBoxes hb, hboxes]
  cases s.nested? b.label <;> rfl

/-- The boxes of a scope have the same sketch however they are measured. -/
theorem Box.sketchAll_scopeBoxes (path : Text) (s : Scope) :
  Box.sketchAll (scopeBoxes m sp path s) = Box.sketchAll (scopeBoxes m' sp' path s)
  := by
  induction s using tree_induction generalizing path with
  | step s ih =>
      rw [Box.sketchAll_scopeBoxes_eq, Box.sketchAll_scopeBoxes_eq]
      congr 1
      funext sidedLabel
      cases hc : s.nested? sidedLabel.1 with
      | none => rfl
      | some c =>
          rw [Option.map_some, Option.map_some, ih c (List.mem_of_find?_eq_some hc)]

/-- A diagram has the same sketch however it is measured. -/
theorem Box.sketchAll_layoutBoxes (s : Scope) :
  Box.sketchAll (layoutBoxes m sp s) = Box.sketchAll (layoutBoxes m' sp' s)
  := by
  rw [layoutBoxes, layoutBoxes, Box.sketchAll_placeBoxes, Box.sketchAll_placeBoxes,
    Box.sketchAll_scopeBoxes m m' sp sp']

end BoxDiagram
