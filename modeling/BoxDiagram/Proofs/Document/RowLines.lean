import BoxDiagram.Proofs.Document.Trimming

/-!
# Rows with dots in their labels

The line of a row is cut at three dots before its brackets are looked for, and a label may hold
three dots itself.  Then the line is cut inside the first such label: the side of the row that
holds it ends in front of it, and no row read from the line has it.  So a row is read back from
its line exactly when no label has three dots in it.
-/

namespace BoxDiagram

/-- The row that a line describes, without labels if it describes none. -/
def readRow (line : Text) : Row := (rowOf? line).getD ⟨[], []⟩

theorem readRow_eq (line : Text) :
  readRow line = ⟨labelsOf (sidesOf line).1, labelsOf (sidesOf line).2⟩
  := by
  rw [readRow, rowOf?]
  simp only
  split
  · next hempty =>
    rw [Bool.and_eq_true, List.isEmpty_iff, List.isEmpty_iff] at hempty
    rw [hempty.1, hempty.2]
    rfl
  · rfl

/-! ### The first cut -/

/-- What stands behind a text moves no cut that is made in the text. -/
theorem Text.cutAt_append_of_eq_some {t piece front rest : Text} (hne : piece ≠ [])
    (h : t.cutAt piece = some (front, rest)) (u : Text) :
  Text.cutAt (t ++ u) piece = some (front, rest ++ u)
  := by
  induction t generalizing front with
  | nil =>
      rw [Text.cutAt_nil hne] at h
      contradiction
  | cons c t ih =>
      have hlength : piece.length ≤ (c :: t).length := by
        obtain ⟨ht, -⟩ := Text.cutAt_eq_some hne h
        rw [ht, List.append_assoc, List.length_append, List.length_append]
        omega
      -- The text is long enough for the piece, so what follows does not help it to begin here.
      have hiff : piece <+: c :: (t ++ u) ↔ piece <+: c :: t := by
        rw [← List.cons_append]
        constructor
        · intro hpiece
          apply List.prefix_of_prefix_length_le hpiece (List.prefix_append _ _) hlength
        · intro hpiece
          apply hpiece.trans (List.prefix_append _ _)
      rw [Text.cutAt_cons] at h
      rw [List.cons_append, Text.cutAt_cons]
      split at h
      · next hpiece =>
        obtain ⟨rfl, rfl⟩ := Prod.mk.inj (Option.some.inj h)
        rw [if_pos (hiff.mpr hpiece), ← List.cons_append, List.drop_append_of_le_length hlength]
      · next hpiece =>
        obtain ⟨⟨front', rest'⟩, hcut, ⟨⟩⟩ := Option.map_eq_some_iff.mp h
        rw [if_neg (hiff.not.mpr hpiece), ih hcut]
        rfl

/-- In front of a bracket that is not closed stand the labels before it. -/
theorem labelsOf_flatMap_bracketed_append {labels : List Text}
    (h : ∀ label ∈ labels, IsLabel label) {front : Text} (hclosing : ']' ∉ front) :
  labelsOf (labels.flatMap bracketed ++ '[' :: front) = labels
  := by
  have hopen : ']' ∉ '[' :: front := by simpa using hclosing
  have hlabels := labelsOf_bracketed h
  rw [labelsOf, bracketsOf] at hlabels
  rw [labelsOf, bracketsOf, scanBrackets_append_right hopen, hlabels]

/-- Labels in brackets are cut inside the first label that has three dots; in front of the cut stand
the labels before it. -/
theorem cutAt_flatMap_bracketed_of_dots {kept : List Text} {label : Text}
    (hkept : ∀ label ∈ kept, IsRowLabel label) (hclosing : ']' ∉ label)
    (hdots : sideSeparator <:+: label) (rest : List Text) (t : Text) :
  ∃ side behind, labelsOf side = kept
    ∧ Text.cutAt ((kept ++ label :: rest).flatMap bracketed ++ t) sideSeparator
      = some (side, behind)
  := by
  cases hcut : label.cutAt sideSeparator with
  | none => apply absurd hdots (Text.cutAt_eq_none hcut)
  | some sides =>
      obtain ⟨front, behind⟩ := sides
      obtain ⟨hlabel, -⟩ := Text.cutAt_eq_some (by decide) hcut
      have htext : (kept ++ label :: rest).flatMap bracketed ++ t
          = kept.flatMap bracketed
            ++ ([] ++ '[' :: (label ++ ']' :: (rest.flatMap bracketed ++ t))) := by
        simp [bracketed]
      have hfront : ']' ∉ front := by
        intro hmem
        apply hclosing
        rw [hlabel]
        simp [hmem]
      use kept.flatMap bracketed ++ '[' :: front, behind ++ ']' :: (rest.flatMap bracketed ++ t)
      constructor
      · apply labelsOf_flatMap_bracketed_append _ hfront
        intro label hlabel
        apply (hkept label hlabel).toIsLabel
      · rw [htext, cutAt_flatMap_bracketed hkept, Text.cutAt_append_cons (by decide) (by decide),
          Text.cutAt_append_of_eq_some (by decide) hcut]
        rfl

/-! ### Rows -/

variable {row : Row} {kept rest : List Text} {label : Text}

/-- The left side of a row that is read ends in front of the first left label with three dots. -/
theorem readRow_left (hleft : row.left = kept ++ label :: rest)
    (hkept : ∀ label ∈ kept, IsRowLabel label) (hclosing : ']' ∉ label)
    (hdots : sideSeparator <:+: label) :
  (readRow row.line).left = kept
  := by
  obtain ⟨side, behind, hside, hcut⟩ := cutAt_flatMap_bracketed_of_dots hkept hclosing hdots rest
    (if row.right.isEmpty then [] else sideSeparator ++ row.right.flatMap bracketed)
  rw [readRow_eq, sidesOf, Row.line, hleft, hcut]
  simp only
  split <;> apply hside

/-- If no left label has three dots, the right side of a row that is read ends in front of the first
right label with three dots. -/
theorem readRow_right (hleft : ∀ label ∈ row.left, IsRowLabel label)
    (hright : row.right = kept ++ label :: rest) (hkept : ∀ label ∈ kept, IsRowLabel label)
    (hclosing : ']' ∉ label) (hdots : sideSeparator <:+: label) :
  readRow row.line = ⟨row.left, kept⟩
  := by
  obtain ⟨side, behind, hside, hcut⟩ := cutAt_flatMap_bracketed_of_dots hkept hclosing hdots rest []
  have hlabels := labelsOf_bracketed fun label hlabel => (hleft label hlabel).toIsLabel
  rw [List.append_nil] at hcut
  rw [readRow_eq, sidesOf, Row.line, cutAt_flatMap_bracketed hleft, hright, if_neg (by simp),
    Text.cutAt_append_left]
  simp only [Option.map_some, Prod.map_apply, id, hcut, List.append_nil, hside, hlabels]

/-- No label that is read in a row has three dots. -/
theorem no_separator_of_mem_readRow {line label : Text} (h : label ∈ (readRow line).all) :
  ¬ sideSeparator <:+: label
  := by
  rw [readRow_eq] at h
  obtain ⟨-, -, hno⟩ := isLabel_of_mem_sides h
  apply hno

/-- A row is read back from its line exactly when no label has three dots in it.  Labels with three
dots are in no row that is read; the first of them on the left ends the left side, and if there is
none on the left, the first of them on the right ends the right side. -/
theorem Row.read_line_iff (row : Row) (hne : row.all ≠ [])
    (hlabels : ∀ label ∈ row.all, IsLabel label ∧ label.OneLine) :
  (rowOf? row.line = some row ↔ ∀ label ∈ row.all, ¬ sideSeparator <:+: label)
    ∧ (∀ label ∈ (readRow row.line).all, ¬ sideSeparator <:+: label)
    ∧ (∀ kept label rest, row.left = kept ++ label :: rest →
      (∀ label ∈ kept, ¬ sideSeparator <:+: label) → sideSeparator <:+: label →
        (readRow row.line).left = kept)
    ∧ ∀ kept label rest, (∀ label ∈ row.left, ¬ sideSeparator <:+: label) →
      row.right = kept ++ label :: rest → (∀ label ∈ kept, ¬ sideSeparator <:+: label) →
        sideSeparator <:+: label → readRow row.line = ⟨row.left, kept⟩
  := by
  have hrow : ∀ labels : List Text, labels ⊆ row.all →
      (∀ label ∈ labels, ¬ sideSeparator <:+: label) → ∀ label ∈ labels, IsRowLabel label := by
    intro labels hsub hdots label hlabel
    obtain ⟨hlabel', hline⟩ := hlabels label (hsub hlabel)
    apply IsRowLabel.mk hlabel' hline (hdots label hlabel)
  have hleft : row.left ⊆ row.all := List.subset_append_left _ _
  have hright : row.right ⊆ row.all := List.subset_append_right _ _
  refine ⟨⟨?lost, ?back⟩, fun label => no_separator_of_mem_readRow, ?left, ?right⟩
  case lost =>
    intro hread label hlabel
    have hmem : label ∈ (readRow row.line).all := by rwa [readRow, hread]
    apply no_separator_of_mem_readRow hmem
  case back =>
    intro hdots
    apply rowOf?_line
    constructor
    · apply hne
    · apply hrow row.all (List.Subset.refl _) hdots
  case left =>
    intro kept label rest hsplit hkept hdots
    rw [hsplit] at hleft
    obtain ⟨hlabel, -⟩ := hlabels label (hleft (by simp))
    apply readRow_left hsplit (hrow kept _ hkept) hlabel.no_closing hdots
    apply List.Subset.trans (List.subset_append_left _ _) hleft
  case right =>
    intro kept label rest hleftDots hsplit hkept hdots
    rw [hsplit] at hright
    obtain ⟨hlabel, -⟩ := hlabels label (hright (by simp))
    apply readRow_right (hrow _ hleft hleftDots) hsplit (hrow kept _ hkept) hlabel.no_closing hdots
    apply List.Subset.trans (List.subset_append_left _ _) hright

/-- A row with dots in and beside its labels, none of which has three in a row. -/
theorem Row.read_line_iff_dotted :
  let row : Row := ⟨["a.b", "..", "[c"], ["..d"]⟩
  row.all ≠ [] ∧ (∀ label ∈ row.all, IsLabel label ∧ label.OneLine) ∧ rowOf? row.line = some row
  := by
  intro row
  have hlabels : ∀ label ∈ row.all, IsLabel label ∧ label.OneLine := by
    simp only [row, Row.all, List.cons_append, List.nil_append, List.forall_mem_cons]
    refine ⟨⟨⟨?_, ?_⟩, ?_⟩, ⟨⟨?_, ?_⟩, ?_⟩, ⟨⟨?_, ?_⟩, ?_⟩, ⟨⟨?_, ?_⟩, ?_⟩, by simp⟩ <;> decide
  have hne : row.all ≠ [] := by decide
  refine ⟨hne, hlabels, ?_⟩
  apply (Row.read_line_iff row hne hlabels).1.mpr
  decide

/-- The line of a row with three dots in its first label is read without that label, and its second
label is read on the right. -/
theorem Row.not_read_line_dots :
  let row : Row := ⟨["a...b", "c"], []⟩
  (∀ label ∈ row.all, label ≠ [] ∧ ']' ∉ label ∧ label.OneLine)
    ∧ row.line = ("[a...b][c]" : Text) ∧ rowOf? row.line = some ⟨[], ["c"]⟩
    ∧ rowOf? row.line ≠ some row
  := by
  decide

end BoxDiagram
