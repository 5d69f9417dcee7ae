import BoxDiagram.Proofs.Document.Described
import BoxDiagram.Proofs.Document.Labels
import Mathlib.Data.List.DropRight
import Mathlib.Data.List.Forall2
import Mathlib.Data.List.TakeWhile

/-!
# White space around lines

What a document says depends on its lines only as far as they are not blank, and on a line
only without the white space at its ends.  Reading keeps the white space behind a body line,
so the sections of two texts with the same plain lines may differ; they agree in their
headers, and in their rows and relations where these count, and such sections describe the
same scopes.
-/

namespace BoxDiagram

/-! ### Trimming -/

namespace Text

theorem isBlank_append (t u : Text) :
  isBlank (t ++ u) = (t.isBlank && u.isBlank)
  := List.all_append

theorem isBlank_of_subset {t u : Text} (h : t.isBlank = true) (hsub : u ⊆ t) :
  u.isBlank = true
  := by
  rw [isBlank, List.all_eq_true] at h ⊢
  intro c hc
  apply h c (hsub hc)

theorem isBlank_nil :
  isBlank [] = true
  := rfl

/-- The mark of a bracket or a separator is no white space. -/
theorem not_mem_of_isBlank {t : Text} (h : t.isBlank = true) {c : Char}
    (hc : isSpace c = false) :
  c ∉ t
  := by
  intro hmem
  rw [not_isBlank_of_mem hc hmem] at h
  contradiction

theorem trimStart_append_of_isBlank {front : Text} (h : front.isBlank = true) (t : Text) :
  trimStart (front ++ t) = t.trimStart
  := List.dropWhile_append_of_pos (List.all_eq_true.mp h)

theorem trimEnd_append_of_isBlank (t : Text) {back : Text} (h : back.isBlank = true) :
  trimEnd (t ++ back) = t.trimEnd
  := by
  rw [trimEnd, trimEnd, dropEndWhile, dropEndWhile, List.reverse_append,
    List.dropWhile_append_of_pos]
  intro c hc
  apply List.all_eq_true.mp h c (List.mem_reverse.mp hc)

theorem trimStart_eq_nil_iff {t : Text} :
  t.trimStart = [] ↔ t.isBlank = true
  := by
  rw [trimStart, List.dropWhile_eq_nil_iff, isBlank, List.all_eq_true]

/-- White space at the ends of a text is trimmed away. -/
theorem trim_append {front back : Text} (hfront : front.isBlank = true)
    (hback : back.isBlank = true) (t : Text) :
  trim (front ++ t ++ back) = t.trim
  := by
  rw [trim, trim, List.append_assoc, trimStart_append_of_isBlank hfront]
  by_cases ht : t.isBlank = true
  · rw [trimStart_append_of_isBlank ht, trimStart_eq_nil_iff.mpr ht,
      trimStart_eq_nil_iff.mpr hback]
  · have hstart : trimStart (t ++ back) = t.trimStart ++ back := by
      rw [trimStart, trimStart, List.dropWhile_append, if_neg]
      rwa [List.isEmpty_iff, ← trimStart, trimStart_eq_nil_iff]
    rw [hstart, trimEnd_append_of_isBlank _ hback]

theorem trim_append_left {front : Text} (h : front.isBlank = true) (t : Text) :
  trim (front ++ t) = t.trim
  := by
  rw [← trim_append h isBlank_nil t, List.append_nil]

theorem trim_append_right (t : Text) {back : Text} (h : back.isBlank = true) :
  trim (t ++ back) = t.trim
  := by
  rw [← trim_append isBlank_nil h t, List.nil_append]

/-- A text is what is left of it when it is trimmed, between white space. -/
theorem exists_trim (t : Text) :
  ∃ front back, front.isBlank = true ∧ back.isBlank = true ∧ t = front ++ t.trim ++ back
  := by
  use t.takeWhile isSpace, (t.trimStart.reverse.takeWhile isSpace).reverse
  refine ⟨List.all_takeWhile, ?back, ?whole⟩
  case back => rw [isBlank, List.all_reverse, List.all_takeWhile]
  case whole =>
    rw [List.append_assoc, trim, trimEnd, dropEndWhile, ← List.reverse_append,
      List.takeWhile_append_dropWhile, List.reverse_reverse, trimStart,
      List.takeWhile_append_dropWhile]

theorem trim_trim (t : Text) :
  t.trim.trim = t.trim
  := by
  obtain ⟨front, back, hfront, hback, ht⟩ := exists_trim t
  have h := trim_append hfront hback t.trim
  rw [← ht] at h
  apply h.symm

theorem trim_trimStart (t : Text) :
  t.trimStart.trim = t.trim
  := by
  have hfront : isBlank (t.takeWhile isSpace) = true := List.all_takeWhile
  rw [← trim_append_left hfront, trimStart, List.takeWhile_append_dropWhile]

theorem trimEnd_trimEnd (t : Text) :
  t.trimEnd.trimEnd = t.trimEnd
  := by
  rw [trimEnd, trimEnd, dropEndWhile, dropEndWhile, List.reverse_reverse,
    List.dropWhile_idempotent]

theorem isBlank_trim (t : Text) :
  t.trim.isBlank = t.isBlank
  := by
  obtain ⟨front, back, hfront, hback, ht⟩ := exists_trim t
  conv_rhs => rw [ht]
  rw [isBlank_append, isBlank_append, hfront, hback, Bool.true_and, Bool.and_true]

theorem isBlank_trimStart (t : Text) :
  t.trimStart.isBlank = t.isBlank
  := by
  have hfront : isBlank (t.takeWhile isSpace) = true := List.all_takeWhile
  conv_rhs => rw [← List.takeWhile_append_dropWhile (p := isSpace) (l := t)]
  rw [isBlank_append, hfront, Bool.true_and, trimStart]

theorem trim_eq_nil_iff {t : Text} :
  t.trim = [] ↔ t.isBlank = true
  := by
  rw [← isBlank_trim]
  constructor
  · intro h
    rw [h]
    rfl
  · intro h
    rw [← trim_trim, trim, trimStart_eq_nil_iff.mpr h]
    rfl

/-! ### Lines -/

theorem lines_eq_nil_iff {t : Text} :
  lines t = [] ↔ t = []
  := by
  constructor
  · intro h
    fun_cases lines t with
    | case1 => rfl
    | case2 t => simp [lines] at h
    | case3 c t hcr hc => rw [lines.eq_3 c t hcr, if_pos hc] at h; contradiction
    | case4 c t hcr hc =>
        rw [lines.eq_3 c t hcr, if_neg hc] at h
        cases hlines : lines t <;> rw [hlines] at h <;> contradiction
  · rintro rfl
    rfl

/-- A line feed ends the lines in front of it; if no line is open there, it may leave an empty one
behind. -/
theorem exists_lines_append_newline (t u : Text) :
  ∃ gap, (gap = [] ∨ gap = [[]]) ∧ lines (t ++ '\n' :: u) = lines t ++ gap ++ lines u
  := by
  fun_induction lines t with
  | case1 =>
      use [[]], Or.inr rfl
      rfl
  | case2 t ih =>
      obtain ⟨gap, hgap, hlines⟩ := ih
      use gap, hgap
      rw [List.cons_append, List.cons_append, lines, hlines]
      rfl
  | case3 c t hcr hc ih =>
      by_cases ht : t = [] ∧ c = '\r'
      · obtain ⟨rfl, rfl⟩ := ht
        use [], Or.inl rfl
        rfl
      · obtain ⟨gap, hgap, hlines⟩ := ih
        use gap, hgap
        rw [List.cons_append, lines.eq_3, if_pos hc, hlines]
        · rfl
        · rintro v rfl hv
          cases t with
          | nil => apply ht ⟨rfl, rfl⟩
          | cons d t =>
              obtain ⟨rfl, -⟩ := List.cons.inj hv
              apply hcr t rfl rfl
  | case4 c t hcr hc ih =>
      have hbreak : isLineBreak c = false := by simpa using hc
      rw [List.cons_append, lines_cons_of_not_break hbreak]
      cases t with
      | nil =>
          use [], Or.inl rfl
          rfl
      | cons d t =>
          obtain ⟨gap, hgap, hlines⟩ := ih
          use gap, hgap
          rw [hlines]
          cases hd : lines (d :: t) with
          | nil => simp [lines_eq_nil_iff] at hd
          | cons line rest => rfl

/-- Every line of a text is a part of it. -/
theorem subset_of_mem_lines {t line : Text} (h : line ∈ lines t) :
  line ⊆ t
  := by
  fun_induction lines t generalizing line with
  | case1 => contradiction
  | case2 t ih =>
      obtain rfl | h := List.mem_cons.mp h
      · apply List.nil_subset
      · apply List.Subset.trans (ih h)
        apply List.Subset.trans (List.subset_cons_self _ _) (List.subset_cons_self _ _)
  | case3 c t _ _ ih =>
      obtain rfl | h := List.mem_cons.mp h
      · apply List.nil_subset
      · apply List.Subset.trans (ih h) (List.subset_cons_self _ _)
  | case4 c t _ _ ih =>
      cases hlines : lines t with
      | nil =>
          rw [hlines, consFirst, List.mem_singleton] at h
          rw [h]
          apply List.cons_subset_cons c (List.nil_subset t)
      | cons first rest =>
          rw [hlines, consFirst] at h
          rw [hlines] at ih
          obtain rfl | h := List.mem_cons.mp h
          · apply List.cons_subset_cons c (ih List.mem_cons_self)
          · apply List.Subset.trans (ih (List.mem_cons_of_mem _ h)) (List.subset_cons_self _ _)

/-- What has no line break goes before the first line of the text behind it. -/
theorem lines_oneLine_append {t : Text} (h : t.OneLine) (hne : t ≠ []) (u : Text) :
  lines (t ++ u) = (t ++ (lines u).head?.getD []) :: (lines u).tail
  := by
  induction t with
  | nil => contradiction
  | cons c t ih =>
      obtain ⟨hc, ht⟩ := oneLine_cons.mp h
      rw [List.cons_append, lines_cons_of_not_break hc]
      by_cases hnil : t = []
      · rw [hnil, List.nil_append]
        cases lines u <;> rfl
      · rw [ih ht hnil, consFirst]
        rfl

end Text

/-! ### Plain lines -/

/-- The lines of a document as far as they say anything: trimmed, and without the blank ones. -/
def plainLines (lines : List Text) : List Text :=
  (lines.map Text.trim).filter fun line => !line.isBlank

/-- A line of a document: but for the white space at its ends it has no line break. -/
def IsLine (line : Text) : Prop := line.trim.OneLine

instance (line : Text) : Decidable (IsLine line) :=
  inferInstanceAs (Decidable line.trim.OneLine)

theorem plainLines_nil :
  plainLines [] = []
  := rfl

theorem plainLines_append (front back : List Text) :
  plainLines (front ++ back) = plainLines front ++ plainLines back
  := by
  rw [plainLines, List.map_append, List.filter_append, plainLines, plainLines]

theorem plainLines_cons (line : Text) (lines : List Text) :
  plainLines (line :: lines)
    = if line.isBlank then plainLines lines else line.trim :: plainLines lines
  := by
  rw [plainLines, List.map_cons, List.filter_cons, Text.isBlank_trim, plainLines]
  cases line.isBlank <;> rfl

theorem plainLines_of_isBlank {lines : List Text} (h : ∀ line ∈ lines, line.isBlank = true) :
  plainLines lines = []
  := by
  induction lines with
  | nil => rfl
  | cons line lines ih =>
      obtain ⟨hline, hlines⟩ := List.forall_mem_cons.mp h
      rw [plainLines_cons, if_pos hline, ih hlines]

theorem plainLines_lines_cons {c : Char} (h : isSpace c = true) (t : Text) :
  plainLines (Text.lines (c :: t)) = plainLines t.lines
  := by
  by_cases hpair : c = '\r' ∧ ∃ u, t = '\n' :: u
  · obtain ⟨rfl, u, rfl⟩ := hpair
    rw [Text.lines, Text.lines.eq_3 '\n' u (by rintro v ⟨⟩), if_pos (by decide)]
  · have hcr : ∀ u, c = '\r' → t = '\n' :: u → False := fun u hc hu => hpair ⟨hc, u, hu⟩
    rw [Text.lines.eq_3 c t hcr]
    by_cases hbreak : isLineBreak c = true
    · rw [if_pos hbreak, plainLines_cons]
      rfl
    · have hblank : Text.isBlank [c] = true := by simpa [Text.isBlank] using h
      rw [if_neg hbreak]
      cases t.lines with
      | nil => rw [Text.consFirst, plainLines_cons, if_pos hblank]
      | cons line rest =>
          have htrim : Text.trim (c :: line) = line.trim := by
            rw [← List.singleton_append, Text.trim_append_left hblank]
          have hsame : Text.isBlank (c :: line) = line.isBlank := by
            rw [← List.singleton_append, Text.isBlank_append, hblank, Bool.true_and]
          rw [Text.consFirst, plainLines_cons, plainLines_cons, hsame, htrim]

/-- White space in front of a text does not change its plain lines, whether it ends lines or
not. -/
theorem plainLines_lines_append {front : Text} (h : front.isBlank = true) (t : Text) :
  plainLines (Text.lines (front ++ t)) = plainLines t.lines
  := by
  induction front with
  | nil => rfl
  | cons c front ih =>
      rw [Text.isBlank, List.all_cons, Bool.and_eq_true] at h
      obtain ⟨hc, hfront⟩ := h
      rw [List.cons_append, plainLines_lines_cons hc, ih hfront]

/-- A line of a document, read as a text, has one plain line, or none if it is blank. -/
theorem plainLines_lines {line : Text} (h : IsLine line) :
  plainLines line.lines = plainLines [line]
  := by
  obtain ⟨front, back, hfront, hback, hline⟩ := Text.exists_trim line
  have hblank : ∀ part ∈ back.lines, part.isBlank = true := by
    intro part hpart
    apply Text.isBlank_of_subset hback (Text.subset_of_mem_lines hpart)
  rw [plainLines_cons]
  by_cases hne : line.isBlank = true
  · rw [if_pos hne]
    apply plainLines_of_isBlank
    intro part hpart
    apply Text.isBlank_of_subset hne (Text.subset_of_mem_lines hpart)
  · have htrim : line.trim ≠ [] := by
      rwa [Ne, Text.trim_eq_nil_iff]
    have hfirst : ((back.lines).head?.getD []).isBlank = true := by
      cases hlines : back.lines with
      | nil => rfl
      | cons first rest =>
          apply hblank
          rw [hlines]
          apply List.mem_cons_self
    have hsame : Text.isBlank (line.trim ++ (back.lines).head?.getD []) = false := by
      rw [Text.isBlank_append, Text.isBlank_trim, hfirst, Bool.and_true]
      simpa using hne
    rw [if_neg hne]
    conv_lhs => rw [hline]
    rw [List.append_assoc, plainLines_lines_append hfront, Text.lines_oneLine_append h htrim,
      plainLines_cons, if_neg (by simp [hsame]), Text.trim_append_right _ hfirst, Text.trim_trim,
      plainLines_of_isBlank]
    · rfl
    · intro part hpart
      apply hblank part (List.mem_of_mem_tail hpart)

/-- The plain lines of joined lines are those of the lines. -/
theorem plainLines_join {lines : List Text} (h : ∀ line ∈ lines, IsLine line) :
  plainLines (Text.lines (Text.join ['\n'] lines)) = plainLines lines
  := by
  induction lines with
  | nil => rfl
  | cons line lines ih =>
      obtain ⟨hline, hlines⟩ := List.forall_mem_cons.mp h
      cases lines with
      | nil => apply plainLines_lines hline
      | cons next lines =>
          have hjoin : Text.join ['\n'] (line :: next :: lines)
              = line ++ '\n' :: Text.join ['\n'] (next :: lines) := by
            simp [Text.join]
          obtain ⟨gap, hgap, hsplit⟩ := Text.exists_lines_append_newline line
            (Text.join ['\n'] (next :: lines))
          have hnone : plainLines gap = [] := by
            obtain rfl | rfl := hgap <;> rfl
          rw [hjoin, hsplit, plainLines_append, plainLines_append, hnone, plainLines_lines hline,
            ih hlines, List.append_nil, ← plainLines_append, List.singleton_append]

/-! ### Rows and relations of trimmed lines -/

/-- The labels that are found do not depend on where the text begins. -/
theorem map_label_scanBrackets {opened opened' : Option (Nat × Text)}
    (h : opened.map Prod.snd = opened'.map Prod.snd) (position position' : Nat) (t : Text) :
  (scanBrackets position opened t).map Bracket.label
    = (scanBrackets position' opened' t).map Bracket.label
  := by
  induction t generalizing position position' opened opened' with
  | nil => rfl
  | cons c t ih =>
      cases opened with
      | none =>
          obtain rfl : opened' = none := by simpa using h.symm
          by_cases hc : c = '['
          · rw [hc, scanBrackets_opening, scanBrackets_opening]
            apply ih
            rfl
          · rw [scanBrackets_outside hc, scanBrackets_outside hc]
            apply ih
            rfl
      | some opened =>
          obtain ⟨start, label⟩ := opened
          obtain ⟨⟨start', label'⟩, rfl, rfl⟩ := Option.map_eq_some_iff.mp h.symm
          by_cases hc : c = ']'
          · rw [hc, scanBrackets_closing, scanBrackets_closing, List.map_append, List.map_append,
              ih rfl (position + 1) (position' + 1)]
            split <;> rfl
          · rw [scanBrackets_within hc, scanBrackets_within hc]
            apply ih
            rfl

/-- White space around a text does not change its labels. -/
theorem labelsOf_append {front back : Text} (hfront : front.isBlank = true)
    (hback : back.isBlank = true) (t : Text) :
  labelsOf (front ++ t ++ back) = labelsOf t
  := by
  rw [labelsOf, bracketsOf,
    scanBrackets_append_right (Text.not_mem_of_isBlank hback (by decide)),
    scanBrackets_append (Text.not_mem_of_isBlank hfront (by decide)), labelsOf, bracketsOf]
  apply map_label_scanBrackets rfl

namespace Text

theorem cutAt_eq_none_of_not_mem {c : Char} {piece t : Text} (hc : c ∈ piece) (ht : c ∉ t) :
  cutAt t piece = none
  := by
  cases hcut : cutAt t piece with
  | none => rfl
  | some sides =>
      obtain ⟨rfl, -⟩ := cutAt_eq_some (List.ne_nil_of_mem hc) hcut
      simp [hc] at ht

/-- What stands in front of a text and has no character of the piece moves no cut. -/
theorem cutAt_append_of_not_mem {piece front : Text} (hne : piece ≠ [])
    (h : ∀ c ∈ piece, c ∉ front) (t : Text) :
  cutAt (front ++ t) piece = (cutAt t piece).map (Prod.map (front ++ ·) id)
  := by
  obtain rfl | ⟨before, last, rfl⟩ := List.eq_nil_or_concat' front
  · rw [List.nil_append]
    cases cutAt t piece <;> rfl
  · have hpiece : ¬ piece <:+: before := by
      intro hpiece
      obtain ⟨c, hc⟩ := List.exists_mem_of_ne_nil piece hne
      apply h c hc
      rw [List.mem_append]
      apply Or.inl (hpiece.subset hc)
    have hlast : last ∉ piece := by
      intro hlast
      apply h last hlast
      simp
    have hmove : ∀ u : Text, before ++ [last] ++ u = before ++ last :: u := by simp
    rw [hmove, cutAt_append_cons hlast hpiece, funext hmove]

/-- What stands behind a text and has no character of the piece moves no cut. -/
theorem cutAt_append_right {piece back : Text} (hne : piece ≠ [])
    (h : ∀ c ∈ piece, c ∉ back) (t : Text) :
  cutAt (t ++ back) piece = (cutAt t piece).map (Prod.map id (· ++ back))
  := by
  induction t with
  | nil =>
      obtain ⟨c, hc⟩ := List.exists_mem_of_ne_nil piece hne
      rw [List.nil_append, cutAt_eq_none_of_not_mem hc (h c hc), cutAt_nil hne]
      rfl
  | cons c t ih =>
      have hiff : piece <+: c :: t ++ back ↔ piece <+: c :: t := by
        constructor
        · intro hpiece
          cases back with
          | nil => rwa [List.append_nil] at hpiece
          | cons d back =>
              have hd : d ∉ piece := fun hd => h d hd List.mem_cons_self
              apply prefix_of_prefix_append_cons hd hpiece
        · intro hpiece
          apply hpiece.trans (List.prefix_append _ _)
      rw [List.cons_append, cutAt_cons, ← List.cons_append, ih, cutAt_cons]
      by_cases hpiece : piece <+: c :: t
      · rw [if_pos hpiece, if_pos (hiff.mpr hpiece), List.drop_append_of_le_length hpiece.length_le]
        rfl
      · rw [if_neg hpiece, if_neg (hiff.not.mpr hpiece), Option.map_map, Option.map_map]
        rfl

end Text

/-- White space around a line does not change the row that it describes. -/
theorem rowOf?_append {front back : Text} (hfront : front.isBlank = true)
    (hback : back.isBlank = true) (line : Text) :
  rowOf? (front ++ line ++ back) = rowOf? line
  := by
  have hdots : ∀ {t : Text}, t.isBlank = true → ∀ c ∈ sideSeparator, c ∉ t := by
    intro t ht c hc
    obtain rfl : c = '.' := by simpa [sideSeparator] using hc
    apply Text.not_mem_of_isBlank ht
    decide
  have hcut : Text.cutAt (front ++ line ++ back) sideSeparator
      = (Text.cutAt line sideSeparator).map (Prod.map (front ++ ·) (· ++ back)) := by
    rw [Text.cutAt_append_right (by decide) (hdots hback),
      Text.cutAt_append_of_not_mem (by decide) (hdots hfront), Option.map_map]
    rfl
  have hright : ∀ rest : Text, Text.cutAt (rest ++ back) sideSeparator
      = (Text.cutAt rest sideSeparator).map (Prod.map id (· ++ back)) :=
    Text.cutAt_append_right (by decide) (hdots hback)
  have hleft : ∀ t : Text, labelsOf (front ++ t) = labelsOf t := by
    intro t
    rw [← labelsOf_append hfront Text.isBlank_nil t, List.append_nil]
  have hend : ∀ t : Text, labelsOf (t ++ back) = labelsOf t := by
    intro t
    rw [← labelsOf_append Text.isBlank_nil hback t, List.nil_append]
  rw [rowOf?, rowOf?, sidesOf, sidesOf, hcut]
  cases Text.cutAt line sideSeparator with
  | none => simp only [Option.map_none, labelsOf_append hfront hback]
  | some sides =>
      obtain ⟨left, rest⟩ := sides
      simp only [Option.map_some, Prod.map_apply, hright rest]
      cases Text.cutAt rest sideSeparator with
      | none => simp [hleft, hend]
      | some sides => simp [hleft]

theorem rowOf?_trim (line : Text) :
  rowOf? line.trim = rowOf? line
  := by
  obtain ⟨front, back, hfront, hback, hline⟩ := Text.exists_trim line
  conv_rhs => rw [hline]
  rw [rowOf?_append hfront hback]

theorem relationsOfLine_trim (line : Text) :
  relationsOfLine line.trim = relationsOfLine line
  := by
  rw [relationsOfLine, Text.trim_trim, relationsOfLine]

theorem headerOf?_trimStart (line : Text) :
  headerOf? line.trimStart = headerOf? line.trim
  := by
  rw [headerOf?, headerOf?, Text.trim, Text.trimEnd_trimEnd]

/-! ### Sections that say the same -/

/-- Two sections say the same: they have the same header, and the same rows or relations if it is a
header for these. -/
structure Section.Alike (part part' : Section) : Prop where
  header : part.header = part'.header
  rows : part.header.lower = ("layout" : Text) → rowsOf part = rowsOf part'
  relations : part.header.lower = ("relations" : Text) → relationsOf part = relationsOf part'

theorem Section.Alike.refl (part : Section) :
  part.Alike part
  := by
  constructor <;> simp

theorem Scope.addSection_of_alike {part part' : Section} (h : part.Alike part') (s : Scope) :
  s.addSection part = s.addSection part'
  := by
  rw [addSection, addSection, ← h.header]
  split
  · next hlayout => rw [h.rows (by simpa using hlayout)]
  · split
    · next hrelations => rw [h.relations (by simpa using hrelations)]
    · rfl

theorem Scope.addBlocks_plain_of_alike {parts parts' : List Section}
    (h : List.Forall₂ Section.Alike parts parts') (s : Scope) :
  addBlocks (parts.map .plain) s = addBlocks (parts'.map .plain) s
  := by
  induction h generalizing s with
  | nil => rfl
  | cons hpart _ ih =>
      rw [List.map_cons, List.map_cons, addBlocks, addBlocks, addBlock, addBlock,
        addSection_of_alike hpart, ih]

theorem untilReference_of_alike {parts parts' : List Section}
    (h : List.Forall₂ Section.Alike parts parts') :
  List.Forall₂ Section.Alike (untilReference parts) (untilReference parts')
  := by
  induction h with
  | nil => apply List.Forall₂.nil
  | @cons part part' parts parts' hpart _ ih =>
      rw [untilReference, untilReference, List.takeWhile_cons, List.takeWhile_cons, hpart.header]
      split
      · apply List.Forall₂.cons hpart ih
      · apply List.Forall₂.nil

theorem Scope.addBlocks_referenceGroups_of_alike {parts parts' : List Section}
    (h : List.Forall₂ Section.Alike parts parts') (s : Scope) :
  addBlocks (referenceGroups parts) s = addBlocks (referenceGroups parts') s
  := by
  induction h generalizing s with
  | nil => rfl
  | @cons part part' parts parts' hpart hparts ih =>
      rw [referenceGroups, referenceGroups, hpart.header]
      split
      · have halike := fun label =>
          addBlocks_plain_of_alike (untilReference_of_alike hparts) (empty label)
        rw [addBlocks, addBlocks, addBlock, addBlock, funext halike, ih]
      · apply ih

/-- Sections that say the same describe the same scopes. -/
theorem Scope.addBlocks_groupSections_of_alike {parts parts' : List Section}
    (h : List.Forall₂ Section.Alike parts parts') (s : Scope) :
  addBlocks (groupSections parts) s = addBlocks (groupSections parts') s
  := by
  rw [groupSections, groupSections, addBlocks_append, addBlocks_append,
    addBlocks_plain_of_alike (untilReference_of_alike h), addBlocks_referenceGroups_of_alike h]

/-! ### The sections of plain lines -/

theorem opensSection_trimStart (line : Text) :
  opensSection line.trimStart = opensSection line.trim
  := by
  rw [opensSection, opensSection, headerOf?_trimStart, Text.isBlank_trim, Text.isBlank_trimStart]

theorem plainLines_eq_filter (lines : List Text) :
  plainLines lines = (lines.filter fun line => !line.isBlank).map Text.trim
  := by
  rw [plainLines, List.filter_map]
  congr 2
  funext line
  rw [Function.comp_apply, Text.isBlank_trim]

/-- The body of a section in plain lines is the body in the lines, trimmed. -/
theorem bodyLines_plainLines (lines : List Text) :
  bodyLines (plainLines lines) = (bodyLines (lines.map Text.trimStart)).map Text.trim
  := by
  induction lines with
  | nil => rfl
  | cons line lines ih =>
      by_cases hblank : line.isBlank = true
      · have hopens : opensSection line.trimStart = false := by
          rw [opensSection, Text.isBlank_trimStart, hblank]
          rfl
        rw [plainLines_cons, if_pos hblank, ih, bodyLines, bodyLines, List.map_cons,
          List.takeWhile_cons_of_pos (by simp [hopens]),
          List.filter_cons_of_neg (by simp [Text.isBlank_trimStart, hblank])]
      · rw [plainLines_cons, if_neg hblank, bodyLines, bodyLines, List.map_cons,
          List.takeWhile_cons, List.takeWhile_cons, opensSection_trimStart]
        cases opensSection line.trim with
        | true => rfl
        | false =>
            have hbody := ih
            rw [bodyLines, bodyLines] at hbody
            simp [Text.isBlank_trim, Text.isBlank_trimStart, hblank, Text.trim_trimStart, hbody]

/-- A body line that is trimmed says the same in its section. -/
theorem Section.alike_map_trim (header : Text) (body : List Text) :
  Section.Alike ⟨header, body⟩ ⟨header, body.map Text.trim⟩
  := by
  constructor
  case header => rfl
  case rows =>
    intro _
    rw [rowsOf, rowsOf, List.filter_map, List.filterMap_map]
    congr 1
    · funext line
      rw [Function.comp_apply, rowOf?_trim]
    · congr 1
      funext line
      rw [Function.comp_apply, Text.isBlank_trim]
  case relations =>
    intro _
    rw [relationsOf, relationsOf, List.flatMap_map]
    congr 1
    funext line
    rw [relationsOfLine_trim]

/-- Lines and their plain lines have sections that say the same. -/
theorem sectionsOf_plainLines (lines : List Text) :
  List.Forall₂ Section.Alike (sectionsOf (lines.map Text.trimStart))
    (sectionsOf (plainLines lines))
  := by
  induction lines with
  | nil => apply List.Forall₂.nil
  | cons line lines ih =>
      rw [List.map_cons, sectionsOf, plainLines_cons, Text.isBlank_trimStart]
      by_cases hblank : line.isBlank = true
      · rw [if_pos hblank, if_pos hblank]
        apply ih
      · rw [if_neg hblank, if_neg hblank, sectionsOf, Text.isBlank_trim, if_neg hblank,
          headerOf?_trimStart]
        cases headerOf? line.trim with
        | none => apply ih
        | some header =>
            apply List.Forall₂.cons _ ih
            rw [bodyLines_plainLines]
            apply Section.alike_map_trim

/-- A text says what the sections of its plain lines say. -/
theorem Scope.ofText_eq (t : Text) :
  Scope.ofText t
    = validate [] (addBlocks (groupSections (sectionsOf (plainLines t.lines))) (empty []))
  := by
  rw [ofText, blocksOf, unindentedLines,
    addBlocks_groupSections_of_alike (sectionsOf_plainLines t.lines)]

end BoxDiagram
