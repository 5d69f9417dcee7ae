import BoxDiagram.Proofs.Layout.Scopes
import BoxDiagram.Proofs.Lookup.Spelling

/-!
# Boxes drawn for scopes

The outermost boxes of a drawing are drawn for the whole diagram, and the boxes in a box are
drawn for the scope that its label names.  Several boxes may be drawn for one scope; they hold
the same boxes at different places.  A chain that begins among the boxes drawn for a scope and
spells a label ends with a box at the path of the scope and that label.
-/

namespace BoxDiagram

open Scope

variable {α : Type}

/-- Some boxes in a drawing of `s` with the outermost boxes `boxes` are drawn for a scope at a
path. -/
inductive Drawn (s : Scope) (boxes : List (Box α)) : Text → Scope → List (Box α) → Prop where
  | root : Drawn s boxes [] s boxes
  | nested {path : Text} {c d : Scope} {siblings : List (Box α)} {b : Box α} :
      Drawn s boxes path c siblings → b ∈ siblings → c.nested? b.label = some d →
      Drawn s boxes (pathBelow path b.label) d b.boxes

/-! ### The scopes that boxes are drawn for -/

variable {s c c' : Scope} {boxes siblings siblings' : List (Box α)} {path : Text}

/-- Boxes are drawn for the scopes that the walk of the diagram finds. -/
theorem Drawn.mem_withPaths (h : Drawn s boxes path c siblings) :
  (path, c) ∈ withPaths [] s
  := by
  induction h with
  | root => apply self_mem_withPaths
  | @nested path c d siblings b _ _ hd ih =>
      have hlabel : d.label = b.label := by simpa using List.find?_some hd
      rw [← hlabel]
      apply mem_withPaths_nested (List.mem_of_find?_eq_some hd) s ih

/-- In a settled diagram the boxes at a path are drawn for one scope only. -/
theorem Drawn.scope_unique (hs : Settled s.nested) (h : Drawn s boxes path c siblings)
    (h' : Drawn s boxes path c' siblings') :
  c = c'
  := by
  have heq := List.inj_on_of_nodup_map hs.nodup_withPaths h.mem_withPaths h'.mem_withPaths rfl
  apply congrArg Prod.snd heq

/-- The boxes drawn for a scope are in the drawing. -/
theorem Drawn.mem_walkAll (h : Drawn s boxes path c siblings) :
  ∀ b ∈ siblings, b ∈ Box.walkAll boxes
  := by
  induction h with
  | root =>
      intro b hb
      apply Box.mem_walkAll.mpr
      use b, hb, Or.inl rfl
  | @nested path c d siblings a _ ha _ ih =>
      intro b hb
      apply Box.mem_walkAll_of_mem (ih a ha) hb

/-! ### The boxes that are drawn -/

variable [Scalar α] {m : Measurer α} {sp : Spacing α}

/-- The boxes drawn for a scope are the boxes of the scope, placed somewhere. -/
theorem Drawn.placed (h : Drawn s (layoutBoxes m sp s) path c siblings) :
  ∃ start, siblings = placeBoxes start (scopeBoxes m sp path c)
  := by
  induction h with
  | root =>
      use ⟨sp.canvasPadding, sp.canvasPadding⟩
      rw [layoutBoxes]
  | @nested path c d siblings b _ hb hd ih =>
      obtain ⟨start, rfl⟩ := ih
      obtain ⟨a, ha, rfl⟩ := mem_placeBoxes.mp hb
      rw [placeBox_label] at hd ⊢
      use a.content start
      rw [placeBox_boxes, boxes_of_mem_scopeBoxes ha, hd]
      rfl

/-- The boxes drawn for a scope have its path. -/
theorem Drawn.path_of_mem (h : Drawn s (layoutBoxes m sp s) path c siblings) {b : Box α}
    (hb : b ∈ siblings) :
  b.path = path
  := by
  obtain ⟨start, rfl⟩ := h.placed
  obtain ⟨a, ha, rfl⟩ := mem_placeBoxes.mp hb
  rw [placeBox_path]
  apply path_of_mem_scopeBoxes ha

/-- The boxes drawn for a scope have labels from its rows. -/
theorem Drawn.hasLabel_of_mem (h : Drawn s (layoutBoxes m sp s) path c siblings) {b : Box α}
    (hb : b ∈ siblings) :
  c.HasLabel b.label
  := by
  obtain ⟨start, rfl⟩ := h.placed
  obtain ⟨a, ha, rfl⟩ := mem_placeBoxes.mp hb
  rw [placeBox_label]
  apply hasLabel_of_mem_scopeBoxes ha

/-- A box whose label names no nested scope holds no boxes. -/
theorem Drawn.boxes_eq_nil (h : Drawn s (layoutBoxes m sp s) path c siblings) {b : Box α}
    (hb : b ∈ siblings) (hlabel : c.nested? b.label = none) :
  b.boxes = []
  := by
  obtain ⟨start, rfl⟩ := h.placed
  obtain ⟨a, ha, rfl⟩ := mem_placeBoxes.mp hb
  rw [placeBox_label] at hlabel
  rw [placeBox_boxes, boxes_of_mem_scopeBoxes ha, hlabel]
  rfl

/-- Every label in the rows of a scope is the label of a box drawn for the scope. -/
theorem Drawn.exists_mem (h : Drawn s (layoutBoxes m sp s) path c siblings) {label : Text}
    (hlabel : c.HasLabel label) :
  ∃ b ∈ siblings, b.label = label
  := by
  obtain ⟨start, rfl⟩ := h.placed
  obtain ⟨b, hb, hlabel⟩ : ∃ b ∈ scopeBoxes m sp path c, b.label = label :=
    exists_mem_scopeBoxes hlabel
  use placeBox start b, mem_placeBoxes.mpr ⟨b, hb, rfl⟩
  rw [placeBox_label, hlabel]

/-- Boxes are drawn for a scope that a label in the rows of its parent names, if some are drawn for
the parent. -/
theorem Drawn.exists_nested (h : Drawn s (layoutBoxes m sp s) path c siblings) {label : Text}
    (hlabel : c.HasLabel label) {d : Scope} (hd : c.nested? label = some d) :
  ∃ siblings, Drawn s (layoutBoxes m sp s) (pathBelow path label) d siblings
  := by
  obtain ⟨b, hb, rfl⟩ := h.exists_mem hlabel
  use b.boxes
  apply h.nested hb hd

/-- Every box in boxes that are drawn for a scope is drawn for a scope itself. -/
theorem Drawn.exists_of_mem_walkAll (h : Drawn s (layoutBoxes m sp s) path c siblings)
    {b : Box α} (hb : b ∈ Box.walkAll siblings) :
  ∃ path c siblings, Drawn s (layoutBoxes m sp s) path c siblings ∧ b ∈ siblings
  := by
  induction siblings using Box.forest_induction generalizing path c with
  | step siblings ih =>
      obtain ⟨a, ha, hb⟩ := Box.mem_walkAll.mp hb
      obtain rfl | hb := hb
      · use path, c, siblings
      · cases hd : c.nested? a.label with
        | none =>
            rw [h.boxes_eq_nil ha hd] at hb
            contradiction
        | some d => apply ih a ha (h.nested ha hd) hb

/-! ### Labels and paths -/

/-- A chain from the boxes drawn for a scope ends at the path of the scope and what it spells.  The
outermost scopes have to be labelled, because a label below the empty path is the whole path. -/
theorem Drawn.pathLabel_of_chain (h : Drawn s (layoutBoxes m sp s) path c siblings)
    (hlabels : path ≠ [] ∨ ∀ d ∈ c.nested, d.label ≠ []) {label : Text} {b : Box α}
    (hb : Spells siblings label b) :
  b.pathLabel = pathBelow path label
  := by
  induction hb generalizing path c with
  | last hb => rw [Box.pathLabel, h.path_of_mem hb]
  | @step siblings a b rest ha hb ih =>
      cases hd : c.nested? a.label with
      | none =>
          rw [h.boxes_eq_nil ha hd] at hb
          obtain hmem := hb.mem_walkAll
          contradiction
      | some d =>
          have hlabel : d.label = a.label := by simpa using List.find?_some hd
          have hbelow : pathBelow path a.label ≠ [] := by
            obtain hpath | hlabels := hlabels
            · simp [pathBelow_of_ne_nil hpath]
            · rw [pathBelow, ← hlabel]
              split
              · apply hlabels d (List.mem_of_find?_eq_some hd)
              · simp
          rw [ih (h.nested ha hd) (Or.inl hbelow), pathBelow_of_ne_nil hbelow]
          by_cases hpath : path = []
          · rw [hpath, pathBelow_nil_left, pathBelow_nil_left]
          · rw [pathBelow_of_ne_nil hpath, pathBelow_of_ne_nil hpath, List.append_assoc]
            rfl

/-- In a settled diagram a chain from the boxes drawn for a scope ends at the path of the scope and
what it spells. -/
theorem Drawn.pathLabel_of_spells (hs : Settled s.nested)
    (h : Drawn s (layoutBoxes m sp s) path c siblings) {label : Text} {b : Box α}
    (hb : Spells siblings label b) :
  b.pathLabel = pathBelow path label
  := by
  apply h.pathLabel_of_chain _ hb
  right
  apply (hs.of_mem_withPaths h.mem_withPaths).label_ne_nil

/-- Boxes drawn for the same scope spell the same texts. -/
theorem Drawn.exists_spells_iff (hs : Settled s.nested)
    (h : Drawn s (layoutBoxes m sp s) path c siblings)
    (h' : Drawn s (layoutBoxes m sp s) path c' siblings') {label : Text} :
  (∃ b, Spells siblings label b) ↔ ∃ b, Spells siblings' label b
  := by
  obtain rfl := h.scope_unique hs h'
  obtain ⟨start, rfl⟩ := h.placed
  obtain ⟨start', rfl⟩ := h'.placed
  rw [exists_spells_placeBoxes, exists_spells_placeBoxes]

/-- Where the outermost scopes are labelled, the outermost boxes spell the path of every box of the
drawing, and nothing else. -/
theorem spells_layoutBoxes_iff_of_labelled (hlabels : ∀ d ∈ s.nested, d.label ≠ [])
    {label : Text} {b : Box α} :
  Spells (layoutBoxes m sp s) label b ↔ b ∈ Box.walkAll (layoutBoxes m sp s) ∧ b.pathLabel = label
  := by
  have hroot : Drawn s (layoutBoxes m sp s) [] s (layoutBoxes m sp s) := Drawn.root
  constructor
  · intro h
    use h.mem_walkAll
    apply hroot.pathLabel_of_chain (Or.inr hlabels) h
  · rintro ⟨hb, rfl⟩
    obtain ⟨label, h⟩ := exists_spells hb
    rw [hroot.pathLabel_of_chain (Or.inr hlabels) h, pathBelow_nil_left]
    apply h

/-- The outermost boxes of a settled diagram spell the path of every box of the drawing, and nothing
else. -/
theorem spells_layoutBoxes_iff (hs : Settled s.nested) {label : Text} {b : Box α} :
  Spells (layoutBoxes m sp s) label b ↔ b ∈ Box.walkAll (layoutBoxes m sp s) ∧ b.pathLabel = label
  := spells_layoutBoxes_iff_of_labelled hs.label_ne_nil

end BoxDiagram
