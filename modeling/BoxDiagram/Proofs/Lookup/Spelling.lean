import BoxDiagram.Lookup
import BoxDiagram.Proofs.Document.Paths
import BoxDiagram.Proofs.Layout.Placing

/-!
# What labels spell

A chain of boxes, each in the one before, spells a text when the labels along it, with a dot
between each two, are that text.  Looking up a label finds a box at the end of a chain that
spells it, and finds one whenever there is such a chain.
-/

namespace BoxDiagram

variable {α : Type}

/-- Some boxes spell a text by a chain that begins with one of them and ends with a box. -/
inductive Spells : List (Box α) → Text → Box α → Prop where
  | last {boxes : List (Box α)} {b : Box α} : b ∈ boxes → Spells boxes b.label b
  | step {boxes : List (Box α)} {a b : Box α} {rest : Text} :
      a ∈ boxes → Spells a.boxes rest b → Spells boxes (a.label ++ pathSeparator :: rest) b

/-- A box at the end of a chain is in the forest in which the chain begins. -/
theorem Spells.mem_walkAll {boxes : List (Box α)} {label : Text} {b : Box α}
    (h : Spells boxes label b) :
  b ∈ Box.walkAll boxes
  := by
  induction h with
  | @last boxes b hb =>
      apply Box.mem_walkAll.mpr
      use b, hb
      left
      rfl
  | @step boxes a b rest ha _ ih =>
      apply Box.mem_walkAll.mpr
      use a, ha
      right
      apply ih

/-- Every box of a forest is at the end of a chain. -/
theorem exists_spells {boxes : List (Box α)} {b : Box α} (h : b ∈ Box.walkAll boxes) :
  ∃ label, Spells boxes label b
  := by
  induction boxes using Box.forest_induction with
  | step boxes ih =>
      obtain ⟨a, ha, hb⟩ := Box.mem_walkAll.mp h
      obtain rfl | hb := hb
      · use b.label
        apply Spells.last ha
      · obtain ⟨rest, hrest⟩ := ih a ha hb
        use a.label ++ pathSeparator :: rest
        apply Spells.step ha hrest

/-! ### Looking up labels -/

theorem findInside_eq (label : Text) (b : Box α) :
  findInside label b = boxLabelled b.boxes label
  := by
  cases b
  rw [findInside, boxLabelled]

/-- A label is looked up by its first part in the first box below which the rest can be found. -/
theorem findDotted_eq (label : Text) (boxes : List (Box α)) :
  findDotted label boxes
    = boxes.findSome? fun a =>
        (label.after? (a.label ++ [pathSeparator])).bind (boxLabelled a.boxes)
  := by
  induction boxes with
  | nil => rfl
  | cons a boxes ih =>
      rw [findDotted, List.findSome?_cons, ih]
      cases label.after? (a.label ++ [pathSeparator]) with
      | none => rfl
      | some rest =>
          rw [Option.bind_some]
          simp only [findInside_eq]
          cases boxLabelled a.boxes rest <;> rfl

theorem boxLabelled_eq (boxes : List (Box α)) (label : Text) :
  boxLabelled boxes label
    = (boxes.find? (·.label == label)).or (boxes.findSome? fun a =>
        (label.after? (a.label ++ [pathSeparator])).bind (boxLabelled a.boxes))
  := by
  rw [← findDotted_eq, boxLabelled]
  cases boxes.find? (·.label == label) <;> rfl

/-- The box that a label names is at the end of a chain that spells the label. -/
theorem spells_of_boxLabelled {boxes : List (Box α)} {label : Text} {b : Box α}
    (h : boxLabelled boxes label = some b) :
  Spells boxes label b
  := by
  induction boxes using Box.forest_induction generalizing label with
  | step boxes ih =>
      rw [boxLabelled_eq, Option.or_eq_some_iff] at h
      obtain h | ⟨-, h⟩ := h
      · have hlabel : b.label = label := by simpa using List.find?_some h
        rw [← hlabel]
        apply Spells.last (List.mem_of_find?_eq_some h)
      · obtain ⟨a, ha, h⟩ := List.exists_of_findSome?_eq_some h
        obtain ⟨rest, hrest, h⟩ := Option.bind_eq_some_iff.mp h
        rw [Text.after?_eq_some_iff, List.append_assoc] at hrest
        rw [hrest]
        apply Spells.step ha (ih a ha h)

/-- Every label that a chain spells names a box. -/
theorem Spells.isSome_boxLabelled {boxes : List (Box α)} {label : Text} {b : Box α}
    (h : Spells boxes label b) :
  (boxLabelled boxes label).isSome
  := by
  induction h with
  | @last boxes b hb =>
      rw [boxLabelled_eq, Option.isSome_or, Bool.or_eq_true]
      left
      apply List.find?_isSome.mpr
      use b, hb, BEq.rfl
  | @step boxes a b rest ha _ ih =>
      rw [boxLabelled_eq, Option.isSome_or, Bool.or_eq_true]
      right
      apply List.findSome?_isSome_iff.mpr
      use a, ha
      have hrest : Text.after? (a.label ++ pathSeparator :: rest) (a.label ++ [pathSeparator])
          = some rest := by
        rw [Text.after?_eq_some_iff, List.append_assoc]
        rfl
      rw [hrest]
      apply ih

/-- Looking up a label fails exactly when no chain spells it. -/
theorem boxLabelled_eq_none_iff {boxes : List (Box α)} {label : Text} :
  boxLabelled boxes label = none ↔ ∀ b, ¬ Spells boxes label b
  := by
  constructor
  · intro h b hb
    have hsome := hb.isSome_boxLabelled
    rw [h] at hsome
    contradiction
  · intro h
    cases hb : boxLabelled boxes label with
    | none => rfl
    | some b => apply absurd (spells_of_boxLabelled hb) (h b)

/-- A label of one of some boxes names the first of them that has it. -/
theorem boxLabelled_of_mem {boxes : List (Box α)} {label : Text}
    (h : ∃ b ∈ boxes, b.label = label) :
  ∃ b ∈ boxes, boxLabelled boxes label = some b ∧ b.label = label
  := by
  obtain ⟨a, ha, hlabel⟩ := h
  have hsome : (boxes.find? (·.label == label)).isSome := by
    apply List.find?_isSome.mpr
    use a, ha
    rw [hlabel, beq_self_eq_true]
  obtain ⟨b, hb⟩ := Option.isSome_iff_exists.mp hsome
  use b, List.mem_of_find?_eq_some hb
  constructor
  · rw [boxLabelled_eq, hb, Option.some_or]
  · simpa using List.find?_some hb

/-- What a label names at a path is one of the boxes. -/
theorem mem_walkAll_of_boxNamed {boxes : List (Box α)} {path label : Text} {b : Box α}
    (h : boxNamed boxes path label = some b) :
  b ∈ Box.walkAll boxes
  := by
  have houter : boxLabelled boxes label = some b → b ∈ Box.walkAll boxes := fun h =>
    (spells_of_boxLabelled h).mem_walkAll
  rw [boxNamed] at h
  split at h
  · apply houter h
  · cases hpath : boxAtPath boxes path with
    | none =>
        rw [hpath] at h
        apply houter h
    | some a =>
        simp only [hpath] at h
        split at h
        · next found hfound =>
            obtain rfl := Option.some.inj h
            apply Box.walkAll_subset (List.mem_of_find?_eq_some hpath)
            apply (spells_of_boxLabelled hfound).mem_walkAll
        · apply houter h

/-! ### Placed boxes -/

/-- A text is spelled by the label of a box, or by that label, a dot and what the boxes in it
spell. -/
theorem exists_spells_iff {boxes : List (Box α)} {label : Text} :
  (∃ b, Spells boxes label b) ↔
    ∃ a ∈ boxes, a.label = label
      ∨ ∃ rest, label = a.label ++ pathSeparator :: rest ∧ ∃ b, Spells a.boxes rest b
  := by
  constructor
  · rintro ⟨b, h⟩
    cases h with
    | last hb =>
        use b, hb
        left
        rfl
    | @step _ a _ rest ha h =>
        use a, ha
        right
        use rest, rfl, b
  · rintro ⟨a, ha, rfl | ⟨rest, rfl, b, h⟩⟩
    · use a
      apply Spells.last ha
    · use b
      apply Spells.step ha h

/-- Boxes spell the same texts wherever they are placed. -/
theorem exists_spells_placeBoxes [Scalar α] (start : Point α) {boxes : List (Box α)}
    {label : Text} :
  (∃ b, Spells (placeBoxes start boxes) label b) ↔ ∃ b, Spells boxes label b
  := by
  induction boxes using Box.forest_induction generalizing start label with
  | step boxes ih =>
      rw [exists_spells_iff, exists_spells_iff, placeBoxes_eq_map]
      simp only [List.mem_map, exists_exists_and_eq_and, placeBox_label, placeBox_boxes]
      apply exists_congr
      intro a
      apply and_congr_right
      intro ha
      simp only [ih a ha]

end BoxDiagram
