import BoxDiagram.Proofs.Document.Described

/-!
# Rows with labels

A line without labels is no row.  So every row of every scope that a text describes has a
label, since declaring, adding sections and validation make no other rows.
-/

namespace BoxDiagram

/-- A line that is a row has a label. -/
theorem all_ne_nil_of_rowOf? {line : Text} {row : Row} (h : rowOf? line = some row) :
  row.all ≠ []
  := by
  simp only [rowOf?] at h
  split at h
  · contradiction
  · next hlabels =>
      cases h
      intro hall
      rw [Row.all, List.append_eq_nil_iff] at hall
      apply hlabels
      rw [List.isEmpty_iff.mpr hall.1, List.isEmpty_iff.mpr hall.2]
      rfl

theorem all_ne_nil_of_mem_rowsOf {part : Section} {row : Row} (h : row ∈ rowsOf part) :
  row.all ≠ []
  := by
  rw [rowsOf, List.mem_filterMap] at h
  obtain ⟨line, -, hrow⟩ := h
  apply all_ne_nil_of_rowOf? hrow

namespace Scope

/-- All rows of a scope and of the scopes below it have labels. -/
inductive Labelled : Scope → Prop where
  | step {s : Scope} : (∀ row ∈ s.layout.getD [], row.all ≠ []) → (∀ d ∈ s.nested, Labelled d) →
      Labelled s

theorem Labelled.rows {s : Scope} (h : Labelled s) :
  ∀ row ∈ s.layout.getD [], row.all ≠ []
  := by
  cases h
  assumption

theorem Labelled.nested {s : Scope} (h : Labelled s) :
  ∀ d ∈ s.nested, Labelled d
  := by
  cases h
  assumption

theorem labelled_empty (label : Text) :
  Labelled (empty label)
  := by
  constructor
  · intro row hrow
    contradiction
  · intro d hd
    contradiction

theorem Labelled.addSection {s : Scope} (h : Labelled s) (part : Section) :
  Labelled (s.addSection part)
  := by
  rw [addSection_eq, declaredRows_singleton]
  constructor
  · intro row hrow
    cases hlayout : s.layout with
    | some rows =>
        apply h.rows row
        rw [hlayout] at hrow ⊢
        apply hrow
    | none =>
        simp only [hlayout, Option.none_or] at hrow
        split at hrow
        · apply all_ne_nil_of_mem_rowsOf hrow
        · contradiction
  · apply h.nested

/-! ### Declaring -/

variable {make : Text → Scope}

mutual

theorem Labelled.declare (hmake : ∀ label, Labelled (make label)) (path : Text) :
    ∀ s : Scope, Labelled s → Labelled (declare make path s)
  | ⟨label, layout, relations, nested, messages⟩, h => by
      rw [Scope.declare]
      split
      · apply h
      · constructor
        · apply h.rows
        · apply labelled_declareAmong hmake path nested h.nested

theorem labelled_declareAmong (hmake : ∀ label, Labelled (make label)) (path : Text) :
    ∀ scopes : List Scope, (∀ d ∈ scopes, Labelled d) →
      ∀ d ∈ declareAmong make path scopes, Labelled d
  | [], _ => by
      rw [declareAmong, List.forall_mem_singleton]
      apply hmake
  | s :: scopes, h => by
      obtain ⟨hs, hscopes⟩ := List.forall_mem_cons.mp h
      rw [declareAmong]
      split
      · next inner _ => apply List.forall_mem_cons.mpr ⟨hs.declare hmake inner s, hscopes⟩
      · apply List.forall_mem_cons.mpr ⟨hs, labelled_declareAmong hmake path scopes hscopes⟩

end

mutual

theorem Labelled.addBlock : ∀ (block : Block) {s : Scope}, Labelled s → Labelled (addBlock block s)
  | .plain part, _, h => h.addSection part
  | .group reference parts, s, h => by
      rw [Scope.addBlock]
      apply Labelled.declare _ reference s h
      intro label
      apply Labelled.addBlocks parts (labelled_empty label)

theorem Labelled.addBlocks : ∀ (blocks : List Block) {s : Scope}, Labelled s →
    Labelled (addBlocks blocks s)
  | [], _, h => h
  | block :: blocks, _, h => Labelled.addBlocks blocks (Labelled.addBlock block h)

end

/-! ### Validating -/

mutual

theorem Labelled.validate (path : Text) : ∀ {s : Scope}, Labelled s → Labelled (validate path s)
  | ⟨_, _, _, nested, _⟩, h => by
      rw [Scope.validate]
      constructor
      · apply h.rows
      · apply labelled_validateNested path nested h.nested

theorem labelled_validateNested (path : Text) : ∀ scopes : List Scope,
    (∀ d ∈ scopes, Labelled d) → ∀ d ∈ validateNested path scopes, Labelled d
  | [], h => h
  | s :: scopes, h => by
      obtain ⟨hs, hscopes⟩ := List.forall_mem_cons.mp h
      rw [validateNested, List.forall_mem_cons]
      use hs.validate (pathBelow path s.label)
      apply labelled_validateNested path scopes hscopes

end

/-- All rows of the scopes that a text describes have labels. -/
theorem labelled_ofText (t : Text) :
  Labelled (ofText t)
  := by
  apply Labelled.validate
  apply Labelled.addBlocks
  apply labelled_empty

end Scope

end BoxDiagram
