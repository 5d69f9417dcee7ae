import BoxDiagram.Proofs.Document.Paths
import BoxDiagram.Proofs.Layout.Boxes

/-!
# Boxes of scopes

The boxes of a scope have the path of the scope and the labels of its rows.  A box whose label
names a nested scope holds the boxes of that scope, which are laid out at the path of the box,
and any other box holds none.
-/

namespace BoxDiagram

variable {α : Type} [Scalar α] (m : Measurer α) (sp : Spacing α)

/-- The boxes of nested scopes are found by the labels of the scopes. -/
theorem lookup_nestedBoxes (path label : Text) (scopes : List Scope) :
  List.lookup label (nestedBoxes m sp path scopes)
    = (scopes.find? (·.label == label)).map (scopeBoxes m sp (pathBelow path label))
  := by
  induction scopes with
  | nil => rfl
  | cons s scopes ih =>
      rw [nestedBoxes]
      by_cases h : s.label = label
      · rw [List.find?_cons_of_pos (by simpa using h), h, List.lookup_cons_self, Option.map_some]
      · rw [List.find?_cons_of_neg (by simpa using h), ← ih, List.lookup_cons,
          beq_false_of_ne (Ne.symm h)]

/-- The boxes of a scope are made from its rows and the boxes of the scopes nested in it. -/
theorem scopeBoxes_eq (path : Text) (s : Scope) :
  scopeBoxes m sp path s
    = arrange m sp path
        (fun label => (s.nested? label).map (scopeBoxes m sp (pathBelow path label)))
        (s.layout.getD [])
  := by
  cases s
  rw [scopeBoxes]
  congr 1
  funext label
  apply lookup_nestedBoxes

/-- The boxes of a scope have the labels of its rows, in order, each on its side. -/
theorem map_sided_scopeBoxes (path : Text) (s : Scope) :
  (scopeBoxes m sp path s).map sided = (s.layout.getD []).flatMap sidedLabels
  := by
  rw [scopeBoxes_eq, map_sided_arrange]

variable {m sp} {path : Text} {s : Scope} {b : Box α}

/-- Every box of a scope has the path of the scope. -/
theorem path_of_mem_scopeBoxes (hb : b ∈ scopeBoxes m sp path s) :
  b.path = path
  := by
  rw [scopeBoxes_eq] at hb
  obtain ⟨row, -, label, right, x, y, -, rfl⟩ := mem_arrange hb
  apply boxFor_path

/-- The boxes in a box of a scope are those of the scope that the label of the box names. -/
theorem boxes_of_mem_scopeBoxes (hb : b ∈ scopeBoxes m sp path s) :
  b.boxes
    = ((s.nested? b.label).map (scopeBoxes m sp (pathBelow path b.label))).getD []
  := by
  rw [scopeBoxes_eq] at hb
  obtain ⟨row, -, label, right, x, y, -, rfl⟩ := mem_arrange hb
  rw [boxFor_boxes, boxFor_label]

/-- A label stands in the rows of a scope. -/
def Scope.HasLabel (s : Scope) (label : Text) : Prop := ∃ row ∈ s.layout.getD [], label ∈ row.all

/-- Every box of a scope has a label from the rows of the scope. -/
theorem hasLabel_of_mem_scopeBoxes (hb : b ∈ scopeBoxes m sp path s) :
  s.HasLabel b.label
  := by
  rw [scopeBoxes_eq] at hb
  obtain ⟨row, hrow, label, right, x, y, hlabel, rfl⟩ := mem_arrange hb
  have hlabels : (sidedLabels row).map Prod.fst = row.all := by
    simp [sidedLabels, Row.all, Function.comp_def]
  use row, hrow
  rw [boxFor_label, ← hlabels]
  apply List.mem_map_of_mem hlabel

/-- Every label in the rows of a scope is the label of one of its boxes. -/
theorem exists_mem_scopeBoxes {label : Text} (h : s.HasLabel label) :
  ∃ b ∈ scopeBoxes m sp path s, b.label = label
  := by
  obtain ⟨row, hrow, hlabel⟩ := h
  have hsided : ∃ right, (label, right) ∈ sidedLabels row := by
    rw [Row.all, List.mem_append] at hlabel
    obtain hlabel | hlabel := hlabel
    · use false
      simp [sidedLabels, hlabel]
    · use true
      simp [sidedLabels, hlabel]
  obtain ⟨right, hsided⟩ := hsided
  have hmem : (label, right) ∈ (scopeBoxes m sp path s).map sided := by
    rw [map_sided_scopeBoxes, List.mem_flatMap]
    use row, hrow, hsided
  obtain ⟨b, hb, hsides⟩ := List.mem_map.mp hmem
  use b, hb
  apply congrArg Prod.fst hsides

end BoxDiagram
