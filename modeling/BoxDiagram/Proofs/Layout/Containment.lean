import BoxDiagram.Proofs.Layout.Tidy

/-!
# Boxes stay in their scopes

Every box of a drawn diagram lies in the content of each box around it, a margin from the
caption above and from the other three sides, and all boxes lie on the canvas, at least a
margin and the canvas padding from its sides.
-/

namespace BoxDiagram

variable {m : Measurer ℚ} {sp : Spacing ℚ}

/-- On the canvas the outermost boxes leave the padding and a margin to the right and lower
sides. -/
theorem canvasSize_fits (sp : Spacing ℚ) (start : Point ℚ) {boxes : List (Box ℚ)} {b : Box ℚ}
    (hb : b ∈ boxes) :
  b.x + b.width + sp.margin + sp.canvasPadding * 2
      ≤ (canvasSize sp (placeBoxes start boxes)).width
    ∧ b.y + b.height + sp.margin + sp.canvasPadding * 2
      ≤ (canvasSize sp (placeBoxes start boxes)).height
  := by
  have hplaced : placeBox start b ∈ placeBoxes start boxes := mem_placeBoxes.mpr ⟨b, hb, rfl⟩
  obtain ⟨hwidth, hheight⟩ := le_contentSize sp.margin hplaced
  rw [placeBox_x, placeBox_width] at hwidth
  rw [placeBox_y, placeBox_height] at hheight
  constructor
  · apply add_le_add_left hwidth
  · apply add_le_add_left hheight

/-- Every box of a diagram stands on the canvas, the padding and a margin from its sides. -/
theorem inside_canvas (hm : m.Nonneg) (hsp : sp.Nonneg) (s : Scope) {n : Box ℚ}
    (hn : n ∈ Box.walkAll (layoutBoxes m sp s)) :
  n.Inside (sp.canvasPadding + sp.margin) 0 0 (canvasSize sp (layoutBoxes m sp s)).width
    (canvasSize sp (layoutBoxes m sp s)).height
  := by
  have hfits : ∀ b ∈ scopeBoxes m sp [] s,
      sp.canvasPadding + (b.x + b.width) + sp.margin
          ≤ (canvasSize sp (layoutBoxes m sp s)).width - sp.canvasPadding
        ∧ sp.canvasPadding + (b.y + b.height) + sp.margin
          ≤ (canvasSize sp (layoutBoxes m sp s)).height - sp.canvasPadding := by
    intro b hb
    obtain ⟨hwidth, hheight⟩ := canvasSize_fits sp
      ⟨sp.canvasPadding, sp.canvasPadding⟩ hb
    constructor <;> rw [layoutBoxes] <;> linarith
  apply ((tidy_scopeBoxes hm hsp [] s).inside hsp.margin hfits n hn).widen <;> linarith

/-- Every box of a diagram has its size, and the boxes in it are tidy, wherever it is placed. -/
theorem exists_tidy_placed (hm : m.Nonneg) (hsp : sp.Nonneg) (s : Scope) {n : Box ℚ}
    (hn : n ∈ Box.walkAll (layoutBoxes m sp s)) :
  ∃ b start, n = placeBox start b ∧ b.Sized sp.margin ∧ Tidy sp.margin b.boxes
  := by
  obtain ⟨b, hb, start, hplaced⟩ := mem_walkAll_placeBoxes hn
  use b, start, hplaced
  apply (tidy_scopeBoxes hm hsp [] s).of_mem_walkAll b hb

/-- In a box of a diagram every box stands below the caption, a margin from all sides. -/
theorem inside_box (hm : m.Nonneg) (hsp : sp.Nonneg) (s : Scope) {n d : Box ℚ}
    (hn : n ∈ Box.walkAll (layoutBoxes m sp s)) (hd : d ∈ Box.walkAll n.boxes) :
  d.Inside sp.margin n.left (n.top + n.inner.y) n.right n.bottom
  := by
  obtain ⟨b, start, rfl, hsized, hinner⟩ := exists_tidy_placed hm hsp s hn
  rw [Box.right, Box.bottom, placeBox_left, placeBox_top, placeBox_width, placeBox_height,
    placeBox_inner, add_assoc start.x, add_assoc start.y b.y b.height]
  apply hinner.inside_content hsized hsp.margin start d hd

/-- A box has its place on a canvas when it and all boxes in it stand in the rectangles around
them, at the distances that the layout keeps. -/
structure Box.Contained (sp : Spacing ℚ) (canvas : Size ℚ) (n : Box ℚ) : Prop where
  caption : 0 ≤ n.inner.y
  within : ∀ d ∈ Box.walkAll n.boxes, d.Inside 0 n.left n.top n.right n.bottom
  content : ∀ d ∈ Box.walkAll n.boxes,
    d.Inside sp.margin n.left (n.top + n.inner.y) n.right n.bottom
  onCanvas : n.Inside 0 0 0 canvas.width canvas.height
  padded : n.Inside (sp.canvasPadding + sp.margin) 0 0 canvas.width canvas.height

/-- Every box of every diagram stands on the canvas and below the caption of each box around it,
and keeps the canvas padding and the margin. -/
theorem layoutBoxes_contained (hm : m.Nonneg) (hsp : sp.Nonneg) (s : Scope) :
  ∀ n ∈ Box.walkAll (layoutBoxes m sp s), n.Contained sp (canvasSize sp (layoutBoxes m sp s))
  := by
  intro n hn
  have hmargin := hsp.margin
  have hpadding := hsp.canvasPadding
  have hcaption : 0 ≤ n.inner.y := by
    obtain ⟨b, start, rfl, hsized, -⟩ := exists_tidy_placed hm hsp s hn
    rw [placeBox_inner]
    apply hsized.inner_y
  constructor
  case caption => apply hcaption
  case within =>
    intro d hd
    apply (inside_box hm hsp s hn hd).widen <;> linarith
  case content =>
    intro d hd
    apply inside_box hm hsp s hn hd
  case onCanvas => apply (inside_canvas hm hsp s hn).widen <;> linarith
  case padded => apply inside_canvas hm hsp s hn

/-- A box with a caption wider than the three boxes in it, one of which is right-aligned, and
another box at the right side of the diagram. -/
theorem layoutBoxes_contained_captioned :
  let s : Scope :=
    ⟨[], some [⟨["a long caption"], ["x"]⟩], none,
      [⟨"a long caption", some [⟨["x"], ["y"]⟩, ⟨["z"], []⟩], none, [], []⟩], []⟩
  let boxes := layoutBoxes Measurer.unit Spacing.unit s
  Measurer.unit.Nonneg ∧ Spacing.unit.Nonneg ∧ (Box.walkAll boxes).length = 5
    ∧ ∀ n ∈ Box.walkAll boxes, n.Contained Spacing.unit (canvasSize Spacing.unit boxes)
  := by
  intro s boxes
  refine ⟨Measurer.unit_nonneg, Spacing.unit_nonneg, by decide +kernel, ?_⟩
  apply layoutBoxes_contained Measurer.unit_nonneg Spacing.unit_nonneg s

end BoxDiagram
