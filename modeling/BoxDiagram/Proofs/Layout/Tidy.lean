import BoxDiagram.Proofs.Layout.Placing
import BoxDiagram.Proofs.Layout.Rows

/-!
# Tidy boxes

The boxes of a scope are tidy: at every depth siblings stand a margin apart and a margin from
where the content begins, and every box has room for those in it.  Tidy boxes stay in the
rectangle of the box that holds them wherever they are placed on the canvas.
-/

namespace BoxDiagram

/-- Boxes are tidy when none is nearer than a margin to where they begin, each has room for the
boxes in it, each stands before all later ones, and the boxes in each are tidy. -/
inductive Tidy (margin : ℚ) : List (Box ℚ) → Prop where
  | step {boxes : List (Box ℚ)} :
      (∀ b ∈ boxes, margin ≤ b.x ∧ margin ≤ b.y) → (∀ b ∈ boxes, b.Sized margin) →
      boxes.Pairwise (Box.Before margin) → (∀ b ∈ boxes, Tidy margin b.boxes) →
      Tidy margin boxes

/-- The boxes in an outermost one of some tidy boxes are tidy. -/
theorem Tidy.inner {margin : ℚ} {boxes : List (Box ℚ)} {b : Box ℚ}
    (h : Tidy margin boxes) (hb : b ∈ boxes) :
  Tidy margin b.boxes
  := by
  cases h with
  | step _ _ _ hinner => apply hinner b hb

theorem Tidy.nil (margin : ℚ) :
  Tidy margin []
  := by
  apply Tidy.step <;> simp

/-! ### The boxes of a scope -/

variable {m : Measurer ℚ} {sp : Spacing ℚ}

/-- The boxes made from some rows are tidy if those of the nested scopes are. -/
theorem tidy_arrange (hm : m.Nonneg) (hsp : sp.Nonneg) (path : Text)
    {nested : Text → Option (List (Box ℚ))} (rows : List Row)
    (hnested : ∀ label boxes, nested label = some boxes → Tidy sp.margin boxes) :
  Tidy sp.margin (arrange m sp path nested rows)
  := by
  obtain ⟨hplace, happart⟩ := spread_packRows hm hsp path nested sp.margin 0 rows (le_refl _)
  apply Tidy.step hplace _ happart
  · intro b hb
    obtain ⟨row, -, label, right, x, y, -, rfl⟩ := mem_arrange hb
    rw [boxFor_boxes]
    cases h : nested label with
    | none => apply Tidy.nil
    | some boxes => apply hnested label boxes h
  · intro b hb
    obtain ⟨row, -, label, right, x, y, -, rfl⟩ := mem_arrange hb
    apply sized_boxFor hm hsp

mutual

/-- The boxes of a scope are tidy. -/
theorem tidy_scopeBoxes (hm : m.Nonneg) (hsp : sp.Nonneg) (path : Text) :
    ∀ s : Scope, Tidy sp.margin (scopeBoxes m sp path s)
  | ⟨_, layout, _, nested, _⟩ => by
      rw [scopeBoxes]
      apply tidy_arrange hm hsp
      apply tidy_nestedBoxes hm hsp path nested

/-- The boxes of nested scopes are tidy. -/
theorem tidy_nestedBoxes (hm : m.Nonneg) (hsp : sp.Nonneg) (path : Text) :
    ∀ (nested : List Scope) (label : Text) (boxes : List (Box ℚ)),
      List.lookup label (nestedBoxes m sp path nested) = some boxes → Tidy sp.margin boxes
  | [], label, boxes, h => by contradiction
  | s :: nested, label, boxes, h => by
      rw [nestedBoxes, List.lookup_cons] at h
      split at h
      · obtain rfl := Option.some.inj h
        apply tidy_scopeBoxes hm hsp
      · apply tidy_nestedBoxes hm hsp path nested label boxes h

end

/-! ### Tidy boxes on the canvas -/

/-- A box stands in the rectangle with these sides, at least a distance from each of them. -/
structure Box.Inside (distance left top right bottom : ℚ) (b : Box ℚ) : Prop where
  width : b.left ≤ b.right
  height : b.top ≤ b.bottom
  left : left + distance ≤ b.left
  top : top + distance ≤ b.top
  right : b.right + distance ≤ right
  bottom : b.bottom + distance ≤ bottom

/-- A box in a rectangle is in every larger one, and it may be nearer to the sides. -/
theorem Box.Inside.widen {distance left top right bottom : ℚ} {b : Box ℚ}
    (h : b.Inside distance left top right bottom) {distance' left' top' right' bottom' : ℚ}
    (hleft : left' + distance' ≤ left + distance) (htop : top' + distance' ≤ top + distance)
    (hright : right - distance ≤ right' - distance')
    (hbottom : bottom - distance ≤ bottom' - distance') :
  b.Inside distance' left' top' right' bottom'
  := by
  obtain ⟨hw, hh, hl, ht, hr, hb⟩ := h
  constructor <;> linarith

/-- A placed box stands in its own rectangle. -/
theorem Box.Sized.inside {margin : ℚ} {b : Box ℚ} (h : b.Sized margin) (start : Point ℚ) :
  (placeBox start b).Inside 0 (start.x + b.x) (start.y + b.y)
    (start.x + (b.x + b.width)) (start.y + (b.y + b.height))
  := by
  have hwidth := h.width
  have hheight := h.height
  constructor <;>
    simp only [Box.right, Box.bottom, placeBox_left, placeBox_top, placeBox_width,
      placeBox_height] <;>
    linarith

/-- The boxes in a placed box leave a margin to its right and lower edges. -/
theorem Box.Sized.content_fits {margin : ℚ} {b : Box ℚ} (h : b.Sized margin) (start : Point ℚ) :
  ∀ c ∈ b.boxes,
    (b.content start).x + (c.x + c.width) + margin ≤ start.x + (b.x + b.width)
      ∧ (b.content start).y + (c.y + c.height) + margin ≤ start.y + (b.y + b.height)
  := by
  intro c hc
  have hx := h.inner_x
  obtain ⟨hwidth, hheight⟩ := h.fits c hc
  constructor <;> rw [Box.content] <;> linarith

/-- Wherever tidy boxes are placed, they and all boxes in them keep a margin to the sides of
every rectangle that leaves a margin to the outermost ones. -/
theorem Tidy.inside {margin : ℚ} {boxes : List (Box ℚ)} (h : Tidy margin boxes)
    (hmargin : 0 ≤ margin) {start : Point ℚ} {right bottom : ℚ}
    (hfits : ∀ b ∈ boxes, start.x + (b.x + b.width) + margin ≤ right
      ∧ start.y + (b.y + b.height) + margin ≤ bottom) :
  ∀ d ∈ Box.walkAll (placeBoxes start boxes), d.Inside margin start.x start.y right bottom
  := by
  induction h generalizing start right bottom with
  | @step boxes hplace hsized _ _ ih =>
      intro d hd
      obtain ⟨placed, hplaced, hd⟩ := Box.mem_walkAll.mp hd
      obtain ⟨b, hb, rfl⟩ := mem_placeBoxes.mp hplaced
      obtain ⟨hx, hy⟩ := hplace b hb
      obtain ⟨hwidth, hheight⟩ := hfits b hb
      obtain rfl | hd := hd
      · apply ((hsized b hb).inside start).widen <;> linarith
      · rw [placeBox_boxes] at hd
        have hin := ih b hb ((hsized b hb).content_fits start) d hd
        have hinner_x := (hsized b hb).inner_x
        have hinner_y := (hsized b hb).inner_y
        apply hin.widen
        · rw [Box.content]
          linarith
        · rw [Box.content]
          linarith
        · linarith
        · linarith

/-- All boxes in a placed box stand in the rectangle below its caption, a margin from each of
the sides. -/
theorem Tidy.inside_content {margin : ℚ} {b : Box ℚ} (h : Tidy margin b.boxes)
    (hb : b.Sized margin) (hmargin : 0 ≤ margin) (start : Point ℚ) :
  ∀ d ∈ Box.walkAll (placeBox start b).boxes,
    d.Inside margin (start.x + b.x) (start.y + b.y + b.inner.y)
      (start.x + (b.x + b.width)) (start.y + (b.y + b.height))
  := by
  intro d hd
  rw [placeBox_boxes] at hd
  have hx := hb.inner_x
  apply (h.inside hmargin (hb.content_fits start) d hd).widen
  · rw [Box.content]
    linarith
  · rw [Box.content]
  · apply le_refl
  · apply le_refl

/-- Every box in a forest of tidy boxes has room for the boxes in it, and these are tidy. -/
theorem Tidy.of_mem_walkAll {margin : ℚ} {boxes : List (Box ℚ)} (h : Tidy margin boxes) :
  ∀ b ∈ Box.walkAll boxes, b.Sized margin ∧ Tidy margin b.boxes
  := by
  induction h with
  | @step boxes _ hsized _ hinner ih =>
      intro d hd
      obtain ⟨b, hb, hd⟩ := Box.mem_walkAll.mp hd
      obtain rfl | hd := hd
      · constructor
        · apply hsized d hb
        · apply hinner d hb
      · apply ih b hb d hd

end BoxDiagram
