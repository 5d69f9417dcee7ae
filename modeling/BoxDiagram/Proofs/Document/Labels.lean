import BoxDiagram.Proofs.Document.Brackets
import Mathlib.Data.List.Infix

/-!
# Reading labels back

Labels are read back from a line of labels in brackets when none of them is empty or has a
closing bracket.  A row is read back from its line when, besides, no label has three dots in
it, and every row that a line describes is such a one.  A relation can be read back when its
arrow has no bracket.
-/

namespace BoxDiagram

/-! ### Lines of labels -/

/-- Labels are read back from brackets. -/
theorem labelsOf_bracketed {labels : List Text} (h : ∀ label ∈ labels, IsLabel label) :
  labelsOf (labels.flatMap bracketed) = labels
  := by
  rw [labelsOf, bracketsOf]
  generalize 0 = position
  induction labels generalizing position with
  | nil => rfl
  | cons label labels ih =>
      obtain ⟨hlabel, hlabels⟩ := List.forall_mem_cons.mp h
      rw [List.flatMap_cons, scanBrackets_bracketed hlabel, List.map_cons, ih hlabels]

theorem oneLine_flatMap_bracketed {labels : List Text} (h : ∀ label ∈ labels, label.OneLine) :
  Text.OneLine (labels.flatMap bracketed)
  := by
  intro c hc
  obtain ⟨label, hlabel, hc⟩ := List.mem_flatMap.mp hc
  apply oneLine_bracketed (h label hlabel) c hc

/-- A line of labels in brackets ends in a closing bracket. -/
theorem exists_flatMap_bracketed {labels : List Text} (h : labels ≠ []) :
  ∃ front, labels.flatMap bracketed = front ++ [']']
  := by
  use labels.dropLast.flatMap bracketed ++ '[' :: labels.getLast h
  nth_rewrite 1 [← List.dropLast_append_getLast h]
  simp [bracketed]

/-! ### Cutting at a piece -/

namespace Text

theorem cutAt_cons (c : Char) (t piece : Text) :
  cutAt (c :: t) piece
    = if piece <+: c :: t then some ([], (c :: t).drop piece.length)
      else (cutAt t piece).map (Prod.map (c :: ·) id)
  := by
  rw [cutAt, after?]
  by_cases h : piece <+: c :: t
  · rw [if_pos (List.isPrefixOf_iff_prefix.mpr h), if_pos h]
  · rw [if_neg (List.isPrefixOf_iff_prefix.not.mpr h), if_neg h]
    rfl

/-- A text that is cut is what stands in front of the piece, the piece, and what follows, and the
piece stands nowhere in front. -/
theorem cutAt_eq_some {t piece front rest : Text} (hne : piece ≠ [])
    (h : t.cutAt piece = some (front, rest)) :
  t = front ++ piece ++ rest ∧ ¬ piece <:+: front
  := by
  induction t generalizing front with
  | nil => simp [cutAt, after?, hne] at h
  | cons c t ih =>
      rw [cutAt_cons] at h
      split at h
      · next hpiece =>
        obtain ⟨rest', hrest⟩ := hpiece
        rw [← hrest, List.drop_left] at h
        obtain ⟨⟨⟩⟩ := h
        use hrest.symm
        simpa using hne
      · next hpiece =>
        obtain ⟨⟨front', rest'⟩, hcut, ⟨⟩⟩ := Option.map_eq_some_iff.mp h
        obtain ⟨rfl, hfront⟩ := ih hcut
        use rfl
        rw [List.infix_cons_iff]
        rintro (hpre | hin)
        · apply hpiece
          apply hpre.trans
          rw [List.append_assoc]
          apply List.prefix_append
        · apply hfront hin

/-- A text that is not cut has the piece nowhere. -/
theorem cutAt_eq_none {t piece : Text} (h : t.cutAt piece = none) :
  ¬ piece <:+: t
  := by
  induction t with
  | nil =>
      rw [List.infix_nil]
      rintro rfl
      contradiction
  | cons c t ih =>
      rw [cutAt_cons] at h
      split at h
      · contradiction
      · next hpiece =>
        rw [List.infix_cons_iff]
        rintro (hpre | hin)
        · apply hpiece hpre
        · apply ih (Option.map_eq_none_iff.mp h) hin

theorem cutAt_nil {piece : Text} (h : piece ≠ []) :
  cutAt [] piece = none
  := by
  simp [cutAt, after?, h]

/-- A text that begins with the piece is cut there. -/
theorem cutAt_append_left (piece rest : Text) :
  cutAt (piece ++ rest) piece = some ([], rest)
  := by
  have h : after? (piece ++ rest) piece = some rest := by simp [after?]
  rw [cutAt.eq_def, h]

/-- A beginning that does not have all of a text stops in front of any character that the text
has not. -/
theorem prefix_of_prefix_append_cons {a : Char} {p u t : Text} (ha : a ∉ p)
    (h : p <+: u ++ a :: t) :
  p <+: u
  := by
  induction u generalizing p with
  | nil =>
      cases p with
      | nil => apply List.prefix_refl
      | cons b p =>
          obtain ⟨rfl, -⟩ := List.cons_prefix_cons.mp h
          simp at ha
  | cons b u ih =>
      cases p with
      | nil => apply List.nil_prefix
      | cons b' p =>
          obtain ⟨rfl, hrest⟩ := List.cons_prefix_cons.mp h
          rw [List.cons_prefix_cons]
          use rfl
          apply ih (fun hmem => ha (List.mem_cons_of_mem _ hmem)) hrest

/-- The first piece stands behind a front that has none and ends in a character that the piece
has not. -/
theorem cutAt_append_cons {a : Char} {piece u : Text} (ha : a ∉ piece) (h : ¬ piece <:+: u)
    (t : Text) :
  cutAt (u ++ a :: t) piece
    = (cutAt t piece).map (Prod.map (u ++ a :: ·) id)
  := by
  induction u with
  | nil =>
      rw [List.nil_append, cutAt_cons, if_neg]
      · rfl
      · intro hpre
        apply h
        apply (prefix_of_prefix_append_cons (u := []) ha hpre).isInfix
  | cons b u ih =>
      rw [List.infix_cons_iff, not_or] at h
      rw [List.cons_append, cutAt_cons, ih h.2, if_neg, Option.map_map]
      · rfl
      · intro hpre
        apply h.1
        apply prefix_of_prefix_append_cons ha hpre

end Text

/-! ### Rows -/

/-- A label that can stand in a row. -/
structure IsRowLabel (label : Text) : Prop extends IsLabel label where
  oneLine : label.OneLine
  no_separator : ¬ sideSeparator <:+: label

/-- A row that is read back from its line. -/
structure Row.Legible (row : Row) : Prop where
  ne_nil : row.all ≠ []
  labels : ∀ label ∈ row.all, IsRowLabel label

theorem cutAt_flatMap_bracketed {labels : List Text} (h : ∀ label ∈ labels, IsRowLabel label)
    (t : Text) :
  Text.cutAt (labels.flatMap bracketed ++ t) sideSeparator
    = (Text.cutAt t sideSeparator).map (Prod.map (labels.flatMap bracketed ++ ·) id)
  := by
  induction labels with
  | nil =>
      rw [List.flatMap_nil, List.nil_append]
      cases Text.cutAt t sideSeparator <;> rfl
  | cons label labels ih =>
      obtain ⟨hlabel, hlabels⟩ := List.forall_mem_cons.mp h
      have hopen : ¬ sideSeparator <:+: '[' :: label := by
        rw [List.infix_cons_iff, not_or]
        use by simp [sideSeparator]
        apply hlabel.no_separator
      have htext : ∀ t, (label :: labels).flatMap bracketed ++ t
          = '[' :: label ++ ']' :: (labels.flatMap bracketed ++ t) := by simp [bracketed]
      rw [htext, Text.cutAt_append_cons (by decide) hopen, ih hlabels, Option.map_map,
        Prod.map_comp_map, funext htext]
      rfl

/-- The sides of the line of a row are read back. -/
theorem sidesOf_line {row : Row} (h : row.Legible) :
  sidesOf row.line = (row.left.flatMap bracketed, row.right.flatMap bracketed)
  := by
  obtain ⟨hleft, hright⟩ := List.forall_mem_append.mp h.labels
  have hnone : ∀ labels : List Text, (∀ label ∈ labels, IsRowLabel label) →
      Text.cutAt (labels.flatMap bracketed) sideSeparator = none := by
    intro labels hlabels
    have hcut := cutAt_flatMap_bracketed hlabels []
    rwa [List.append_nil, Text.cutAt_nil (by decide)] at hcut
  rw [sidesOf, Row.line]
  by_cases hr : row.right = []
  · simp [hr, hnone row.left hleft]
  · rw [if_neg (by simpa using hr), cutAt_flatMap_bracketed hleft, Text.cutAt_append_left]
    simp [hnone row.right hright]

/-- A row is read back from its line. -/
theorem rowOf?_line {row : Row} (h : row.Legible) :
  rowOf? row.line = some row
  := by
  obtain ⟨hleft, hright⟩ := List.forall_mem_append.mp h.labels
  rw [rowOf?, sidesOf_line h]
  simp only
  rw [labelsOf_bracketed fun label hlabel => (hleft label hlabel).toIsLabel,
    labelsOf_bracketed fun label hlabel => (hright label hlabel).toIsLabel, if_neg]
  have hne := h.ne_nil
  rw [Row.all, Ne, List.append_eq_nil_iff] at hne
  simpa using hne

/-- A line that is not indented and ends in a closing bracket, as the lines of rows and relations
do, belongs into the body of a section. -/
theorem Text.Unindented.isBodyLine {line front : Text} (h : line.Unindented)
    (hends : line = front ++ [']']) :
  IsBodyLine line
  := by
  constructor
  case toUnindented => apply h
  case not_blank =>
    apply Text.not_isBlank_of_mem (c := ']') (by decide)
    simp [hends]
  case no_header =>
    rw [hends]
    apply headerOf?_append_bracket

theorem Row.Legible.oneLine {row : Row} (h : row.Legible) :
  row.line.OneLine
  := by
  obtain ⟨hleft, hright⟩ := List.forall_mem_append.mp h.labels
  rw [Row.line, Text.oneLine_append]
  use oneLine_flatMap_bracketed fun label hlabel => (hleft label hlabel).oneLine
  split
  · decide
  · rw [Text.oneLine_append]
    use by decide
    apply oneLine_flatMap_bracketed fun label hlabel => (hright label hlabel).oneLine

/-- The line of a row begins with a bracket, or with a dot if no label stands on the left. -/
theorem Row.Legible.unindented {row : Row} (h : row.Legible) :
  row.line.Unindented
  := by
  constructor
  case oneLine => apply h.oneLine
  case starts =>
    cases hleft : row.left with
    | nil =>
        use '.'
        have hright : row.right ≠ [] := by simpa [Row.all, hleft] using h.ne_nil
        simp [Row.line, hleft, hright, sideSeparator]
        decide
    | cons label labels =>
        use '['
        simp [Row.line, hleft, bracketed]
        decide

theorem Row.Legible.exists_line {row : Row} (h : row.Legible) :
  ∃ front, row.line = front ++ [']']
  := by
  rw [Row.line]
  by_cases hright : row.right = []
  · have hleft : row.left ≠ [] := by simpa [Row.all, hright] using h.ne_nil
    obtain ⟨front, hfront⟩ := exists_flatMap_bracketed hleft
    use front
    simp [hright, hfront]
  · obtain ⟨front, hfront⟩ := exists_flatMap_bracketed hright
    use row.left.flatMap bracketed ++ sideSeparator ++ front
    rw [if_neg (by simpa using hright), hfront]
    simp

theorem Row.Legible.isBodyLine {row : Row} (h : row.Legible) :
  IsBodyLine row.line
  := by
  obtain ⟨front, hends⟩ := h.exists_line
  apply h.unindented.isBodyLine hends

/-- The sides of a line are parts of it and have no separator in them. -/
theorem sidesOf_infix (line : Text) :
  ((sidesOf line).1 <:+: line ∧ ¬ sideSeparator <:+: (sidesOf line).1)
    ∧ ((sidesOf line).2 <:+: line ∧ ¬ sideSeparator <:+: (sidesOf line).2)
  := by
  rw [sidesOf]
  split
  · next hcut =>
    refine ⟨⟨List.infix_refl line, Text.cutAt_eq_none hcut⟩, List.nil_infix, ?_⟩
    simp [sideSeparator]
  · next left rest hcut =>
    obtain ⟨rfl, hleft⟩ := Text.cutAt_eq_some (by decide) hcut
    have hrest : rest <:+: left ++ sideSeparator ++ rest := List.infix_append_of_infix_right
      (List.infix_refl rest)
    split
    · next hcut =>
      refine ⟨⟨?_, hleft⟩, hrest, Text.cutAt_eq_none hcut⟩
      rw [List.append_assoc]
      apply List.infix_append_of_infix_left (List.infix_refl left)
    · next right rest' hcut =>
      obtain ⟨rfl, hright⟩ := Text.cutAt_eq_some (by decide) hcut
      refine ⟨⟨?_, hleft⟩, List.IsInfix.trans ?_ hrest, hright⟩
      · rw [List.append_assoc]
        apply List.infix_append_of_infix_left (List.infix_refl left)
      · rw [List.append_assoc]
        apply List.infix_append_of_infix_left (List.infix_refl right)

/-- Every label of the sides of a line is one that brackets can hold, and a part of the line without
three dots. -/
theorem isLabel_of_mem_sides {line label : Text}
    (h : label ∈ labelsOf (sidesOf line).1 ++ labelsOf (sidesOf line).2) :
  IsLabel label ∧ label <:+: line ∧ ¬ sideSeparator <:+: label
  := by
  obtain ⟨hleft, hright⟩ := sidesOf_infix line
  have hside : ∃ side, label ∈ labelsOf side ∧ side <:+: line ∧ ¬ sideSeparator <:+: side := by
    obtain h | h := List.mem_append.mp h
    · use (sidesOf line).1, h
    · use (sidesOf line).2, h
  obtain ⟨side, hmem, hline, hno⟩ := hside
  obtain ⟨hlabel, hpart⟩ := isLabel_of_mem_labelsOf hmem
  use hlabel, hpart.trans hline
  intro hsep
  apply hno (hsep.trans hpart)

/-- The row that a line describes is read back from its own line. -/
theorem legible_of_rowOf? {line : Text} (hline : line.OneLine) {row : Row}
    (h : rowOf? line = some row) :
  row.Legible
  := by
  rw [rowOf?] at h
  simp only at h
  split at h
  · contradiction
  · next hne =>
    obtain ⟨⟨⟩⟩ := h
    constructor
    case ne_nil =>
      rw [Row.all, Ne, List.append_eq_nil_iff]
      simpa using hne
    case labels =>
      intro label hmem
      obtain ⟨hlabel, hpart, hno⟩ := isLabel_of_mem_sides hmem
      apply IsRowLabel.mk hlabel (hline.of_subset hpart.subset) hno

/-! ### Relations -/

/-- A relation that can be read back from its line. -/
structure Relation.Legible (relation : Relation) : Prop where
  start : IsLabel relation.start ∧ relation.start.OneLine
  arrow : relation.arrow.OneLine
  no_opening : '[' ∉ relation.arrow
  no_closing : ']' ∉ relation.arrow
  finish : IsLabel relation.finish ∧ relation.finish.OneLine

theorem Relation.Legible.unindented {relation : Relation} (h : relation.Legible) :
  relation.line.Unindented
  := by
  rw [Relation.line]
  apply Text.Unindented.append
  · apply Text.Unindented.append
    · apply unindented_bracketed h.start.2
    · apply h.arrow
  · apply oneLine_bracketed h.finish.2

theorem Relation.line_eq (relation : Relation) :
  relation.line = bracketed relation.start ++ relation.arrow ++ '[' :: relation.finish ++ [']']
  := by
  simp [Relation.line, bracketed]

theorem Relation.Legible.isBodyLine {relation : Relation} (h : relation.Legible) :
  IsBodyLine relation.line
  := h.unindented.isBodyLine relation.line_eq

theorem Relation.Legible.trim {relation : Relation} (h : relation.Legible) :
  relation.line.trim = relation.line
  := by
  rw [Text.trim, h.unindented.trimStart, Relation.line_eq, Text.trimEnd_append (by decide)]

end BoxDiagram
