import BoxDiagram.Proofs.Document.Described
import BoxDiagram.Proofs.Layout.Placing
import BoxDiagram.Proofs.Layout.Scopes

/-!
# Names of boxes and scopes

Layout and the walk of a document each hand paths down a tree on their own.  They name the
scopes alike: the boxes of a scope have the labels of its rows, in order and each on its side,
and the path of the scope; a box is made from a nested scope exactly when its scope has a
nested scope with its label, and then the path of the box is the path of that scope and of no
other scope in the walk.
-/

namespace BoxDiagram

open Scope

variable {α : Type} [Scalar α]

/-! ### What a box is made from -/

/-- A box among those of the scope `c` is made from the boxes that the layout finds under its label
for the nested scopes, or, if it finds none there, from its label alone. -/
structure Box.MadeFrom (m : Measurer α) (sp : Spacing α) (c : Scope) (b : Box α)
    (inner : Option (List (Box α))) : Prop where
  found : List.lookup b.label (nestedBoxes m sp b.path c.nested) = inner
  made : ∃ start x y, b = placeBox start (boxFor m sp b.path b.label x y b.rightAligned inner)

variable {m : Measurer α} {sp : Spacing α} {c : Scope} {b : Box α} {path : Text}

/-- A box is made from one thing only. -/
theorem Box.MadeFrom.unique {inner inner' : Option (List (Box α))}
    (h : b.MadeFrom m sp c inner) (h' : b.MadeFrom m sp c inner') :
  inner = inner'
  := h.found.symm.trans h'.found

/-- A box that is made from its label alone holds no boxes. -/
theorem Box.MadeFrom.boxes_eq_nil (h : b.MadeFrom m sp c none) :
  b.boxes = []
  := by
  obtain ⟨start, x, y, hmade⟩ := h.made
  rw [hmade, placeBox_boxes, boxFor_boxes]
  rfl

/-- A box that is made from its label alone has the size of its label and no caption. -/
theorem Box.MadeFrom.leaf_size (h : b.MadeFrom m sp c none) :
  b.width = (leafSize m sp b.label).width ∧ b.height = (leafSize m sp b.label).height
    ∧ b.inner = .origin
  := by
  obtain ⟨start, x, y, hmade⟩ := h.made
  rw [hmade, placeBox_width, placeBox_height, placeBox_inner, placeBox_label, boxFor_label]
  use rfl, rfl
  rfl

/-- A box that is made from some boxes has room for its caption, below which they stand. -/
theorem Box.MadeFrom.container_size {boxes : List (Box α)} (h : b.MadeFrom m sp c (some boxes)) :
  b.width = larger (contentSize sp.margin boxes).width (captionSize m sp b.label).width
    ∧ b.inner = ⟨0, (captionSize m sp b.label).height⟩
  := by
  obtain ⟨start, x, y, hmade⟩ := h.made
  rw [hmade, placeBox_width, placeBox_inner, placeBox_label, boxFor_label]
  use rfl
  rfl

/-- Every placed box of a scope is made from the boxes of the nested scope that its label names. -/
theorem madeFrom_of_mem {start : Point α} (hb : b ∈ placeBoxes start (scopeBoxes m sp path c)) :
  b.path = path
    ∧ b.MadeFrom m sp c ((c.nested? b.label).map (scopeBoxes m sp b.pathLabel))
  := by
  obtain ⟨a, ha, rfl⟩ := mem_placeBoxes.mp hb
  rw [scopeBoxes_eq] at ha
  obtain ⟨row, -, label, right, x, y, -, rfl⟩ := mem_arrange ha
  have hpath : (placeBox start (boxFor m sp path label x y right
      ((c.nested? label).map (scopeBoxes m sp (pathBelow path label))))).path = path := by
    rw [placeBox_path, boxFor_path]
  use hpath
  rw [Box.pathLabel, hpath, placeBox_label, boxFor_label]
  constructor
  case found =>
    rw [hpath, placeBox_label, boxFor_label]
    apply lookup_nestedBoxes
  case made =>
    use start, x, y
    rw [hpath, placeBox_label, boxFor_label, placeBox_rightAligned, boxFor_rightAligned]

theorem map_sided_placeBoxes (start : Point α) (boxes : List (Box α)) :
  (placeBoxes start boxes).map sided = boxes.map sided
  := by
  rw [placeBoxes_eq_map, List.map_map]
  apply List.map_congr_left
  intro b _
  rw [Function.comp_apply, sided, placeBox_label, placeBox_rightAligned, sided]

/-! ### Boxes and scopes side by side -/

variable (m sp) in
/-- A box among those of the scope `c` at a path is named as the scopes of the document `s` are. -/
structure Box.NamedIn (s : Scope) (path : Text) (c : Scope) (b : Box α) : Prop where
  path_eq : b.path = path
  fromScope : (∃ inner, b.MadeFrom m sp c (some inner)) ↔ ∃ d ∈ c.nested, d.label = b.label
  scope : ∀ d ∈ c.nested, d.label = b.label →
    b.MadeFrom m sp c (some (scopeBoxes m sp b.pathLabel d))
      ∧ (withPaths [] s).filter (·.1 == b.pathLabel) = [(b.pathLabel, d)]
  leaf : (∀ d ∈ c.nested, d.label ≠ b.label) → b.MadeFrom m sp c none ∧ b.boxes = []

variable (m sp) in
/-- Some boxes are named as the scope at a path of the document `s` and all scopes below it are. -/
inductive Named (s : Scope) : Text → Scope → List (Box α) → Prop where
  | step {path : Text} {c : Scope} {boxes : List (Box α)} :
      boxes.map sided = (c.layout.getD []).flatMap sidedLabels →
      (∀ b ∈ boxes, b.NamedIn m sp s path c) →
      (∀ b ∈ boxes, ∀ d ∈ c.nested, d.label = b.label → Named s b.pathLabel d b.boxes) →
      Named s path c boxes

variable {s : Scope}

/-- The placed boxes of a scope in a settled document are named as the scopes are. -/
theorem namedIn_of_mem (hs : Settled s.nested) (hc : (path, c) ∈ withPaths [] s)
    {start : Point α} (hb : b ∈ placeBoxes start (scopeBoxes m sp path c)) :
  b.NamedIn m sp s path c
  := by
  have hnested := hs.of_mem_withPaths hc
  obtain ⟨hpath, hmade⟩ := madeFrom_of_mem hb
  have hscope : ∀ d ∈ c.nested, d.label = b.label →
      b.MadeFrom m sp c (some (scopeBoxes m sp b.pathLabel d)) := by
    intro d hd hlabel
    rw [hnested.nested?_eq_some_iff.mpr ⟨hd, hlabel⟩] at hmade
    apply hmade
  have hleaf : (∀ d ∈ c.nested, d.label ≠ b.label) → b.MadeFrom m sp c none := by
    intro hlabels
    have hnone : c.nested? b.label = none := List.find?_eq_none.mpr (by simpa using hlabels)
    rw [hnone] at hmade
    apply hmade
  constructor
  case path_eq => apply hpath
  case fromScope =>
    constructor
    · rintro ⟨inner, hinner⟩
      by_contra hlabels
      push Not at hlabels
      have heq := hinner.unique (hleaf hlabels)
      contradiction
    · rintro ⟨d, hd, hlabel⟩
      use scopeBoxes m sp b.pathLabel d
      apply hscope d hd hlabel
  case scope =>
    intro d hd hlabel
    use hscope d hd hlabel
    apply hs.filter_withPaths
    rw [Box.pathLabel, hpath, ← hlabel]
    apply mem_withPaths_nested hd s hc
  case leaf =>
    intro hlabels
    use hleaf hlabels
    apply (hleaf hlabels).boxes_eq_nil

/-- The boxes of every scope of a settled document are named as it and the scopes below it are,
wherever they are placed. -/
theorem named_scopeBoxes (hs : Settled s.nested) (hc : (path, c) ∈ withPaths [] s)
    (start : Point α) :
  Named m sp s path c (placeBoxes start (scopeBoxes m sp path c))
  := by
  induction c using tree_induction generalizing path start with
  | step c ih =>
      apply Named.step
      · rw [map_sided_placeBoxes, map_sided_scopeBoxes]
      · intro b hb
        apply namedIn_of_mem hs hc hb
      · intro b hb d hd hlabel
        have hpath := (madeFrom_of_mem hb).1
        obtain ⟨a, ha, rfl⟩ := mem_placeBoxes.mp hb
        rw [placeBox_label] at hlabel
        rw [placeBox_boxes, boxes_of_mem_scopeBoxes ha,
          (hs.of_mem_withPaths hc).nested?_eq_some_iff.mpr ⟨hd, hlabel⟩, Box.pathLabel, hpath,
          placeBox_label, ← hlabel]
        apply ih d hd (mem_withPaths_nested hd s hc)

/-- The boxes of every text are named as its scopes are, from the outermost boxes inwards. -/
theorem layoutBoxes_named (t : Text) (m : Measurer α) (sp : Spacing α) :
  Named m sp (ofText t) [] (ofText t) (layoutBoxes m sp (ofText t))
  := by
  apply named_scopeBoxes (settled_ofText t)
  apply self_mem_withPaths

end BoxDiagram
