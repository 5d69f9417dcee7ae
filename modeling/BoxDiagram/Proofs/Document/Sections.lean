import BoxDiagram.Document.Written
import Mathlib.Data.List.Basic

/-!
# Reading sections back

A document is written line by line, and what is written is read back: the lines of joined
lines, the sections of the lines of sections, and the groups of a document.  A section is
read back when it has a header and no line of its body is blank or opens a section, and a
group is read back when no section in it is a reference.
-/

namespace BoxDiagram

/-! ### Lines -/

namespace Text

/-- A text without a line break. -/
def OneLine (t : Text) : Prop := ∀ c ∈ t, isLineBreak c = false

instance (t : Text) : Decidable t.OneLine :=
  List.decidableBAll _ t

theorem OneLine.of_subset {t u : Text} (h : t.OneLine) (hsub : u ⊆ t) :
  u.OneLine
  := by
  intro c hc
  apply h c (hsub hc)

theorem oneLine_append {t u : Text} :
  OneLine (t ++ u) ↔ t.OneLine ∧ u.OneLine
  := List.forall_mem_append

theorem oneLine_cons {c : Char} {t : Text} :
  OneLine (c :: t) ↔ isLineBreak c = false ∧ t.OneLine
  := List.forall_mem_cons

theorem lines_cons_of_not_break {c : Char} (h : isLineBreak c = false) (t : Text) :
  lines (c :: t) = consFirst c (lines t)
  := by
  have hc : c ≠ '\r' := by
    rintro rfl
    contradiction
  rw [lines, if_neg (by simp [h])]
  intro _ hcr
  contradiction

/-- A line and a line feed are the first line of a text. -/
theorem lines_append_newline {line : Text} (h : line.OneLine) (t : Text) :
  lines (line ++ '\n' :: t) = line :: lines t
  := by
  induction line with
  | nil => rfl
  | cons c line ih =>
      obtain ⟨hc, hline⟩ := oneLine_cons.mp h
      rw [List.cons_append, lines_cons_of_not_break hc, ih hline, consFirst]

theorem lines_of_oneLine {line : Text} (h : line.OneLine) (hne : line ≠ []) :
  lines line = [line]
  := by
  induction line with
  | nil => contradiction
  | cons c line ih =>
      obtain ⟨hc, hline⟩ := oneLine_cons.mp h
      rw [lines_cons_of_not_break hc]
      by_cases hnil : line = []
      · rw [hnil]
        rfl
      · rw [ih hline hnil, consFirst]

/-- Lines joined by line feeds are read back. -/
theorem lines_join {texts : List Text} (h : ∀ t ∈ texts, t.OneLine ∧ t ≠ []) :
  lines (join ['\n'] texts) = texts
  := by
  induction texts with
  | nil => rfl
  | cons t texts ih =>
      obtain ⟨⟨hline, hne⟩, htexts⟩ := List.forall_mem_cons.mp h
      cases texts with
      | nil => apply lines_of_oneLine hline hne
      | cons u texts =>
          have hjoin : join ['\n'] (t :: u :: texts) = t ++ '\n' :: join ['\n'] (u :: texts) := by
            simp [join]
          rw [hjoin, lines_append_newline hline, ih htexts]

theorem oneLine_consFirst {c : Char} (hc : isLineBreak c = false) {texts : List Text}
    (h : ∀ t ∈ texts, t.OneLine) :
  ∀ t ∈ consFirst c texts, t.OneLine
  := by
  cases texts with
  | nil => simpa [consFirst, OneLine] using hc
  | cons t texts =>
      obtain ⟨ht, htexts⟩ := List.forall_mem_cons.mp h
      rw [consFirst, List.forall_mem_cons]
      constructor
      · apply oneLine_cons.mpr ⟨hc, ht⟩
      · apply htexts

/-- No line of a text has a line break. -/
theorem oneLine_of_mem_lines (t : Text) :
  ∀ line ∈ lines t, line.OneLine
  := by
  fun_induction lines t with
  | case1 => simp
  | case2 t ih => simpa [OneLine] using ih
  | case3 c t _ _ ih => simpa [OneLine] using ih
  | case4 c t _ hc ih => apply oneLine_consFirst (by simpa using hc) ih

/-! ### Trimming -/

theorem trimStart_cons {c : Char} (h : isSpace c = false) (t : Text) :
  trimStart (c :: t) = c :: t
  := by
  rw [trimStart, List.dropWhile_cons_of_neg (by simp [h])]

theorem trimEnd_append {c : Char} (h : isSpace c = false) (t : Text) :
  trimEnd (t ++ [c]) = t ++ [c]
  := by
  rw [trimEnd, dropEndWhile, List.reverse_append, List.reverse_singleton, List.singleton_append,
    List.dropWhile_cons_of_neg (by simp [h]), List.reverse_cons, List.reverse_reverse]

/-- A line as it is read: it has no line break and begins with a character that is no white
space. -/
structure Unindented (line : Text) : Prop where
  oneLine : line.OneLine
  starts : ∃ c ∈ line.head?, isSpace c = false

theorem Unindented.ne_nil {line : Text} (h : line.Unindented) :
  line ≠ []
  := by
  rintro rfl
  obtain ⟨c, hc, -⟩ := h.starts
  contradiction

theorem Unindented.trimStart {line : Text} (h : line.Unindented) :
  line.trimStart = line
  := by
  obtain ⟨c, hc, hspace⟩ := h.starts
  obtain ⟨t, rfl⟩ := List.head?_eq_some_iff.mp hc
  apply trimStart_cons hspace

theorem Unindented.append {line t : Text} (h : line.Unindented) (ht : t.OneLine) :
  (line ++ t).Unindented
  := by
  constructor
  case oneLine => apply oneLine_append.mpr ⟨h.oneLine, ht⟩
  case starts =>
    rw [List.head?_append_of_ne_nil _ h.ne_nil]
    apply h.starts

theorem not_isBlank_of_mem {c : Char} (h : isSpace c = false) {t : Text} (hc : c ∈ t) :
  t.isBlank = false
  := by
  rw [isBlank, List.all_eq_false]
  use c, hc
  simp [h]

theorem trimStart_subset (t : Text) :
  t.trimStart ⊆ t
  := (List.dropWhile_suffix isSpace).subset

theorem trimEnd_subset (t : Text) :
  t.trimEnd ⊆ t
  := dropEndWhile_subset isSpace t

theorem trim_subset (t : Text) :
  t.trim ⊆ t
  := List.Subset.trans (trimEnd_subset _) (trimStart_subset t)

end Text

/-- Joined lines are read back if they are not indented. -/
theorem unindentedLines_join {texts : List Text} (h : ∀ t ∈ texts, t.Unindented) :
  unindentedLines (Text.join ['\n'] texts) = texts
  := by
  rw [unindentedLines, Text.lines_join fun t ht => ⟨(h t ht).oneLine, (h t ht).ne_nil⟩]
  rw [List.map_congr_left fun t ht => (h t ht).trimStart, List.map_id']

/-! ### Sections -/

/-- A header that is not empty is the header of its line. -/
theorem headerOf?_headerLine {header : Text} (h : header ≠ []) :
  headerOf? (headerLine header) = some header
  := by
  have hlen : ¬ (header ++ [':']).length < 2 := by
    have hpos := List.length_pos_of_ne_nil h
    rw [List.length_append, List.length_singleton]
    omega
  rw [headerOf?, headerLine, Text.trimEnd_append (by decide), if_neg]
  · rw [List.dropLast_concat]
  · rw [Bool.or_eq_true, decide_eq_true_eq, not_or]
    use hlen
    simp

theorem headerOf?_subset {line header : Text} (h : headerOf? line = some header) :
  header ⊆ line
  := by
  rw [headerOf?] at h
  split at h
  · contradiction
  · obtain ⟨⟨⟩⟩ := h
    apply List.Subset.trans (List.dropLast_subset _) (Text.trimEnd_subset line)

/-- A line that ends in a closing bracket opens no section. -/
theorem headerOf?_append_bracket (t : Text) :
  headerOf? (t ++ [']']) = none
  := by
  rw [headerOf?, Text.trimEnd_append (by decide), if_pos]
  simp

theorem opensSection_headerLine {header : Text} (h : header ≠ []) :
  opensSection (headerLine header) = true
  := by
  rw [opensSection, headerOf?_headerLine h,
    Text.not_isBlank_of_mem (c := ':') (by decide) (by simp [headerLine])]
  rfl

/-- A line in the body of a section: it is not indented, not blank, and opens no section. -/
structure IsBodyLine (line : Text) : Prop extends line.Unindented where
  not_blank : line.isBlank = false
  no_header : headerOf? line = none

theorem IsBodyLine.not_opens {line : Text} (h : IsBodyLine line) :
  opensSection line = false
  := by
  rw [opensSection, h.no_header, Option.isSome_none, Bool.and_false]

/-- A section that is read back from its lines. -/
structure Section.Legible (part : Section) : Prop where
  header : part.header.Unindented
  body : ∀ line ∈ part.body, IsBodyLine line

theorem Section.Legible.lines {part : Section} (h : part.Legible) :
  ∀ line ∈ part.lines, line.Unindented
  := by
  rw [Section.lines, List.forall_mem_cons]
  constructor
  · apply h.header.append
    decide
  · intro line hline
    apply (h.body line hline).toUnindented

/-- What is taken from the front ends where the back begins. -/
theorem takeWhile_append_eq_left {α : Type} {p : α → Bool} {front back : List α}
    (hfront : ∀ a ∈ front, p a = true) (hback : ∀ a ∈ back.head?, p a = false) :
  (front ++ back).takeWhile p = front
  := by
  rw [List.takeWhile_append_of_pos hfront]
  cases back with
  | nil => rw [List.takeWhile_nil, List.append_nil]
  | cons a back =>
      rw [List.takeWhile_cons_of_neg (by simp [hback a rfl]), List.append_nil]

/-- The body of a section ends where the next section opens. -/
theorem bodyLines_append {body : List Text} (h : ∀ line ∈ body, IsBodyLine line)
    {lines : List Text} (hnext : ∀ line ∈ lines.head?, opensSection line = true) :
  bodyLines (body ++ lines) = body
  := by
  rw [bodyLines, takeWhile_append_eq_left, List.filter_eq_self]
  · intro line hline
    simp [(h line hline).not_blank]
  · intro line hline
    simp [(h line hline).not_opens]
  · intro line hline
    simp [hnext line hline]

theorem sectionsOf_append_body {body : List Text} (h : ∀ line ∈ body, IsBodyLine line)
    (lines : List Text) :
  sectionsOf (body ++ lines) = sectionsOf lines
  := by
  induction body with
  | nil => rfl
  | cons line body ih =>
      obtain ⟨hline, hbody⟩ := List.forall_mem_cons.mp h
      simp [sectionsOf, hline.not_blank, hline.no_header, ih hbody]

theorem sectionsOf_headerLine {header : Text} (h : header ≠ []) (lines : List Text) :
  sectionsOf (headerLine header :: lines) = ⟨header, bodyLines lines⟩ :: sectionsOf lines
  := by
  simp [sectionsOf, headerOf?_headerLine h,
    Text.not_isBlank_of_mem (t := headerLine header) (c := ':') (by decide) (by simp [headerLine])]

/-- Sections are read back from their lines. -/
theorem sectionsOf_lines {sections : List Section} (h : ∀ part ∈ sections, part.Legible) :
  sectionsOf (sections.flatMap Section.lines) = sections
  := by
  induction sections with
  | nil => rfl
  | cons part sections ih =>
      obtain ⟨hpart, hsections⟩ := List.forall_mem_cons.mp h
      have hnext : ∀ line ∈ (sections.flatMap Section.lines).head?, opensSection line = true := by
        cases sections with
        | nil => simp
        | cons next sections =>
            have hheader := (hsections next List.mem_cons_self).header.ne_nil
            simp [Section.lines, opensSection_headerLine hheader]
      rw [List.flatMap_cons, Section.lines, List.cons_append,
        sectionsOf_headerLine hpart.header.ne_nil, bodyLines_append hpart.body hnext,
        sectionsOf_append_body hpart.body, ih hsections]

/-! ### Groups -/

/-- The sections of a document: plain sections, and then groups of sections, each behind a
reference. -/
def sectionsInGroups (front : List Section) (groups : List (Text × List Section)) : List Section :=
  front ++ groups.flatMap fun (path, parts) => ⟨bracketed path, []⟩ :: parts

/-- The parts of a document: plain sections, and then groups of sections. -/
def blocksInGroups (front : List Section) (groups : List (Text × List Section)) : List Block :=
  front.map .plain ++ groups.map fun (path, parts) => .group path (parts.map .plain)

theorem isReference_bracketed (path : Text) :
  isReference (bracketed path) = true
  := by
  have hlast : (bracketed path).getLast? = some ']' := List.getLast?_concat
  rw [isReference, hlast]
  simp [bracketed]

theorem referenceName_bracketed (path : Text) :
  referenceName (bracketed path) = path
  := by
  simp [referenceName, bracketed]

theorem untilReference_append {front : List Section}
    (h : ∀ part ∈ front, isReference part.header = false) {sections : List Section}
    (hnext : ∀ part ∈ sections.head?, isReference part.header = true) :
  untilReference (front ++ sections) = front
  := by
  rw [untilReference, takeWhile_append_eq_left]
  · intro part hpart
    simp [h part hpart]
  · intro part hpart
    simp [hnext part hpart]

theorem referenceGroups_append {front : List Section}
    (h : ∀ part ∈ front, isReference part.header = false) (sections : List Section) :
  referenceGroups (front ++ sections) = referenceGroups sections
  := by
  induction front with
  | nil => rfl
  | cons part front ih =>
      obtain ⟨hpart, hfront⟩ := List.forall_mem_cons.mp h
      rw [List.cons_append, referenceGroups, if_neg (by simp [hpart]), ih hfront]

/-- The groups of a document are read back from its sections. -/
theorem groupSections_sectionsInGroups {front : List Section}
    (hfront : ∀ part ∈ front, isReference part.header = false)
    {groups : List (Text × List Section)}
    (hgroups : ∀ group ∈ groups, ∀ part ∈ group.2, isReference part.header = false) :
  groupSections (sectionsInGroups front groups) = blocksInGroups front groups
  := by
  have hnext : ∀ groups : List (Text × List Section),
      ∀ part ∈ (groups.flatMap fun (path, parts) =>
        (⟨bracketed path, []⟩ : Section) :: parts).head?, isReference part.header = true := by
    intro groups
    cases groups <;> simp [isReference_bracketed]
  rw [groupSections, sectionsInGroups, untilReference_append hfront (hnext groups),
    referenceGroups_append hfront, blocksInGroups]
  congr 1
  induction groups with
  | nil => rfl
  | cons group groups ih =>
      obtain ⟨path, parts⟩ := group
      obtain ⟨hparts, hgroups⟩ := List.forall_mem_cons.mp hgroups
      rw [List.flatMap_cons, List.cons_append, referenceGroups,
        if_pos (isReference_bracketed path), referenceName_bracketed,
        untilReference_append hparts (hnext groups), referenceGroups_append hparts, ih hgroups,
        List.map_cons]

theorem linesOfBlocks_append (front back : List Block) :
  linesOfBlocks (front ++ back) = linesOfBlocks front ++ linesOfBlocks back
  := by
  induction front with
  | nil => rfl
  | cons block front ih =>
      rw [List.cons_append, linesOfBlocks, ih, linesOfBlocks, List.append_assoc]

theorem linesOfBlocks_plain (parts : List Section) :
  linesOfBlocks (parts.map .plain) = parts.flatMap Section.lines
  := by
  induction parts with
  | nil => rfl
  | cons part parts ih => rw [List.map_cons, linesOfBlocks, ih, Block.lines, List.flatMap_cons]

/-- A document is written section by section. -/
theorem linesOfBlocks_blocksInGroups (front : List Section)
    (groups : List (Text × List Section)) :
  linesOfBlocks (blocksInGroups front groups)
    = (sectionsInGroups front groups).flatMap Section.lines
  := by
  rw [blocksInGroups, sectionsInGroups, linesOfBlocks_append, linesOfBlocks_plain,
    List.flatMap_append]
  congr 1
  induction groups with
  | nil => rfl
  | cons group groups ih =>
      rw [List.map_cons, linesOfBlocks, ih, Block.lines, linesOfBlocks_plain, List.flatMap_cons,
        List.flatMap_append, List.flatMap_cons]
      rfl

theorem oneLine_bracketed {label : Text} (h : label.OneLine) :
  (bracketed label).OneLine
  := by
  rw [bracketed, List.cons_append, Text.oneLine_cons, Text.oneLine_append]
  use by decide, h
  decide

theorem unindented_bracketed {label : Text} (h : label.OneLine) :
  (bracketed label).Unindented
  := by
  constructor
  case oneLine => apply oneLine_bracketed h
  case starts =>
    use '[', rfl
    decide

/-- The parts of a document are read back from its text. -/
theorem blocksOf_blocksInGroups {front : List Section} {groups : List (Text × List Section)}
    (hfront : ∀ part ∈ front, part.Legible ∧ isReference part.header = false)
    (hgroups : ∀ group ∈ groups, group.1.OneLine
      ∧ ∀ part ∈ group.2, part.Legible ∧ isReference part.header = false) :
  blocksOf (Text.join ['\n'] (linesOfBlocks (blocksInGroups front groups)))
    = blocksInGroups front groups
  := by
  have hsections : ∀ part ∈ sectionsInGroups front groups, part.Legible := by
    rw [sectionsInGroups, List.forall_mem_append]
    constructor
    · intro part hpart
      apply (hfront part hpart).1
    · intro part hpart
      obtain ⟨group, hgroup, hpart⟩ := List.mem_flatMap.mp hpart
      obtain ⟨hpath, hparts⟩ := hgroups group hgroup
      obtain rfl | hpart := List.mem_cons.mp hpart
      · constructor
        case header => apply unindented_bracketed hpath
        case body => simp
      · apply (hparts part hpart).1
  have hlines : ∀ line ∈ (sectionsInGroups front groups).flatMap Section.lines,
      line.Unindented := by
    intro line hline
    obtain ⟨part, hpart, hline⟩ := List.mem_flatMap.mp hline
    apply (hsections part hpart).lines line hline
  rw [linesOfBlocks_blocksInGroups, blocksOf, unindentedLines_join hlines,
    sectionsOf_lines hsections, groupSections_sectionsInGroups]
  · intro part hpart
    apply (hfront part hpart).2
  · intro group hgroup part hpart
    apply ((hgroups group hgroup).2 part hpart).2

end BoxDiagram
