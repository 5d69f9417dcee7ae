import BoxDiagram.Layout
import Mathlib.Tactic.Use

/-!
# Boxes in boxes

The boxes of a forest are its outermost boxes and all boxes in these.  An address names one of
them: the number of an outermost box, and an address among the boxes in that one if there is
more to come.  Placing boxes on the canvas keeps the forest and everything in it but the
places.
-/

namespace BoxDiagram

variable {α : Type}

/-! ### The boxes of a forest -/

mutual

theorem Box.forest_induction_inside {motive : List (Box α) → Prop}
    (step : ∀ boxes, (∀ b ∈ boxes, motive b.boxes) → motive boxes) :
    ∀ b : Box α, motive b.boxes
  | ⟨_, _, _, _, _, _, _, _, _, _, boxes⟩ => step boxes (Box.forest_induction_all step boxes)

theorem Box.forest_induction_all {motive : List (Box α) → Prop}
    (step : ∀ boxes, (∀ b ∈ boxes, motive b.boxes) → motive boxes) :
    ∀ boxes : List (Box α), ∀ b ∈ boxes, motive b.boxes
  | [], _, h => by contradiction
  | b :: boxes, c, h => by
      obtain h | h := List.mem_cons.mp h
      · rw [h]
        apply Box.forest_induction_inside step b
      · apply Box.forest_induction_all step boxes c h

end

/-- What holds of a forest when it holds of the boxes in each outermost box holds of all
forests. -/
theorem Box.forest_induction {motive : List (Box α) → Prop}
    (step : ∀ boxes, (∀ b ∈ boxes, motive b.boxes) → motive boxes) (boxes : List (Box α)) :
  motive boxes
  := by
  apply step
  apply Box.forest_induction_all step

theorem Box.walk_eq (b : Box α) :
  b.walk = b :: Box.walkAll b.boxes
  := by
  cases b
  rw [Box.walk]

theorem Box.walkAll_eq_flatMap (boxes : List (Box α)) :
  Box.walkAll boxes = boxes.flatMap Box.walk
  := by
  induction boxes with
  | nil => rfl
  | cons b boxes ih => rw [Box.walkAll, ih, List.flatMap_cons]

/-- A box is in a forest if it is outermost or in an outermost box. -/
theorem Box.mem_walkAll {boxes : List (Box α)} {d : Box α} :
  d ∈ Box.walkAll boxes ↔ ∃ b ∈ boxes, d = b ∨ d ∈ Box.walkAll b.boxes
  := by
  simp only [Box.walkAll_eq_flatMap boxes, List.mem_flatMap, Box.walk_eq, List.mem_cons]

/-- The boxes in a box of a forest are in the forest. -/
theorem Box.mem_walkAll_of_mem {boxes : List (Box α)} {a b : Box α}
    (ha : a ∈ Box.walkAll boxes) (hb : b ∈ a.boxes) :
  b ∈ Box.walkAll boxes
  := by
  induction boxes using Box.forest_induction with
  | step boxes ih =>
      obtain ⟨c, hc, ha⟩ := Box.mem_walkAll.mp ha
      apply Box.mem_walkAll.mpr
      use c, hc
      right
      obtain rfl | ha := ha
      · apply Box.mem_walkAll.mpr
        use b, hb, Or.inl rfl
      · apply ih c hc ha

/-- The boxes in a box of a forest are boxes of the forest. -/
theorem Box.walkAll_subset {boxes : List (Box α)} {a : Box α} (ha : a ∈ Box.walkAll boxes) :
  Box.walkAll a.boxes ⊆ Box.walkAll boxes
  := by
  induction boxes using Box.forest_induction with
  | step boxes ih =>
      intro d hd
      obtain ⟨b, hb, ha⟩ := Box.mem_walkAll.mp ha
      apply Box.mem_walkAll.mpr
      use b, hb
      right
      obtain rfl | ha := ha
      · apply hd
      · apply ih b hb ha hd

/-! ### Addresses -/

/-- The box at an address in a forest. -/
def boxAt? : List (Box α) → List Nat → Option (Box α)
  | _, [] => none
  | boxes, [i] => boxes[i]?
  | boxes, i :: address => boxes[i]?.bind fun b => boxAt? b.boxes address

/-- The box at an address is the outermost box that the address begins with, or is in it at
the rest of the address. -/
theorem boxAt?_cons {boxes : List (Box α)} {i : Nat} {address : List Nat} {d : Box α} :
  boxAt? boxes (i :: address) = some d ↔
    ∃ b, boxes[i]? = some b ∧ (address = [] ∧ d = b ∨ boxAt? b.boxes address = some d)
  := by
  cases address with
  | nil => simp [boxAt?, eq_comm]
  | cons j address => simp [boxAt?, Option.bind_eq_some_iff]

/-- The boxes at addresses are in the forest. -/
theorem mem_walkAll_of_boxAt? {boxes : List (Box α)} {address : List Nat} {d : Box α}
    (h : boxAt? boxes address = some d) :
  d ∈ Box.walkAll boxes
  := by
  induction address generalizing boxes with
  | nil => contradiction
  | cons i address ih =>
      obtain ⟨b, hb, hd⟩ := boxAt?_cons.mp h
      apply Box.mem_walkAll.mpr
      use b, List.mem_of_getElem? hb
      apply hd.imp And.right ih

/-- Every box of a forest has an address. -/
theorem exists_boxAt? {boxes : List (Box α)} {d : Box α} (h : d ∈ Box.walkAll boxes) :
  ∃ address, boxAt? boxes address = some d
  := by
  induction boxes using Box.forest_induction with
  | step boxes ih =>
      obtain ⟨b, hb, hd⟩ := Box.mem_walkAll.mp h
      obtain ⟨i, hi⟩ := List.mem_iff_getElem?.mp hb
      obtain rfl | hd := hd
      · use [i], hi
      · obtain ⟨address, haddress⟩ := ih b hb hd
        use i :: address
        apply boxAt?_cons.mpr
        use b, hi, Or.inr haddress

/-! ### Places -/

section

variable [Scalar α]

/-- Where the content of a box begins when its siblings start at a point. -/
def Box.content (start : Point α) (b : Box α) : Point α :=
  ⟨start.x + b.x + b.inner.x, start.y + b.y + b.inner.y⟩

/-- A placed box has its place, and the boxes in it start where its content begins. -/
theorem placeBox_eq (start : Point α) (b : Box α) :
  placeBox start b
    = { b with
        left := start.x + b.x, top := start.y + b.y,
        boxes := placeBoxes (b.content start) b.boxes }
  := by
  cases b
  rw [placeBox, Box.content]

@[simp]
theorem placeBox_label (start : Point α) (b : Box α) :
  (placeBox start b).label = b.label
  := by
  rw [placeBox_eq]

@[simp]
theorem placeBox_path (start : Point α) (b : Box α) :
  (placeBox start b).path = b.path
  := by
  rw [placeBox_eq]

@[simp]
theorem placeBox_x (start : Point α) (b : Box α) :
  (placeBox start b).x = b.x
  := by
  rw [placeBox_eq]

@[simp]
theorem placeBox_y (start : Point α) (b : Box α) :
  (placeBox start b).y = b.y
  := by
  rw [placeBox_eq]

@[simp]
theorem placeBox_width (start : Point α) (b : Box α) :
  (placeBox start b).width = b.width
  := by
  rw [placeBox_eq]

@[simp]
theorem placeBox_height (start : Point α) (b : Box α) :
  (placeBox start b).height = b.height
  := by
  rw [placeBox_eq]

@[simp]
theorem placeBox_rightAligned (start : Point α) (b : Box α) :
  (placeBox start b).rightAligned = b.rightAligned
  := by
  rw [placeBox_eq]

@[simp]
theorem placeBox_inner (start : Point α) (b : Box α) :
  (placeBox start b).inner = b.inner
  := by
  rw [placeBox_eq]

@[simp]
theorem placeBox_left (start : Point α) (b : Box α) :
  (placeBox start b).left = start.x + b.x
  := by
  rw [placeBox_eq]

@[simp]
theorem placeBox_top (start : Point α) (b : Box α) :
  (placeBox start b).top = start.y + b.y
  := by
  rw [placeBox_eq]

/-- The boxes in a placed box start where its content begins. -/
theorem placeBox_boxes (start : Point α) (b : Box α) :
  (placeBox start b).boxes = placeBoxes (b.content start) b.boxes
  := by
  rw [placeBox_eq]

theorem placeBoxes_eq_map (start : Point α) (boxes : List (Box α)) :
  placeBoxes start boxes = boxes.map (placeBox start)
  := by
  induction boxes with
  | nil => rfl
  | cons b boxes ih => rw [placeBoxes, ih, List.map_cons]

theorem mem_placeBoxes {start : Point α} {boxes : List (Box α)} {d : Box α} :
  d ∈ placeBoxes start boxes ↔ ∃ b ∈ boxes, placeBox start b = d
  := by
  rw [placeBoxes_eq_map, List.mem_map]

/-- Every box in a placed forest is a box of the forest that is placed somewhere. -/
theorem mem_walkAll_placeBoxes {start : Point α} {boxes : List (Box α)} {d : Box α}
    (h : d ∈ Box.walkAll (placeBoxes start boxes)) :
  ∃ b ∈ Box.walkAll boxes, ∃ start, d = placeBox start b
  := by
  induction boxes using Box.forest_induction generalizing start with
  | step boxes ih =>
      obtain ⟨placed, hplaced, hd⟩ := Box.mem_walkAll.mp h
      obtain ⟨b, hb, rfl⟩ := mem_placeBoxes.mp hplaced
      obtain rfl | hd := hd
      · use b, Box.mem_walkAll.mpr ⟨b, hb, Or.inl rfl⟩, start
      · rw [placeBox_boxes] at hd
        obtain ⟨c, hc, start, rfl⟩ := ih b hb hd
        use c, Box.mem_walkAll.mpr ⟨b, hb, Or.inr hc⟩, start

end

end BoxDiagram
