import BoxDiagram.Proofs.Document.Sections
import Mathlib.Data.List.TakeWhile

/-!
# What splitting keeps

The sections of a text hold its lines from the first header on, in order and each once, but
for the blank ones.  Grouping the sections under their references keeps all of them and all
their lines, except those that stand directly below a reference: a group has no body, so these
lines belong nowhere.
-/

namespace BoxDiagram

/-! ### The lines of a document -/

/-- A line as it is written back: a header line loses the white space at its end. -/
def trimmedHeader (line : Text) : Text := if opensSection line then line.trimEnd else line

/-- The lines of a document: from the first header line on, the lines of a text without the
white space in front of each, less the blank ones. -/
def documentLines (t : Text) : List Text :=
  (((unindentedLines t).filter fun line => !line.isBlank).dropWhile
    fun line => !opensSection line).map trimmedHeader

/-- Whether a line opens a reference. -/
def opensReference (line : Text) : Bool := (headerOf? line).any isReference

/-- Some lines without those directly below a reference, which reach up to the next header line.
The lines begin below a reference if they are said to be stray. -/
def withoutStray (stray : Bool) : List Text → List Text
  | [] => []
  | line :: lines =>
    if opensSection line then line :: withoutStray (opensReference line) lines
    else if stray then withoutStray true lines
    else line :: withoutStray false lines

/-! ### Header lines -/

theorem headerLine_of_headerOf? {line header : Text} (h : headerOf? line = some header) :
  headerLine header = line.trimEnd
  := by
  rw [headerOf?] at h
  split at h
  · contradiction
  · next hends =>
    obtain ⟨⟨⟩⟩ := h
    rw [headerLine]
    apply List.dropLast_append_getLast?
    simp only [Bool.or_eq_true, bne_iff_ne, not_or, not_not] at hends
    apply hends.2

theorem ne_nil_of_headerOf? {line header : Text} (h : headerOf? line = some header) :
  header ≠ []
  := by
  rw [headerOf?] at h
  split at h
  · contradiction
  · next hends =>
    obtain ⟨⟨⟩⟩ := h
    simp only [Bool.or_eq_true, decide_eq_true_eq, not_or] at hends
    apply List.ne_nil_of_length_pos
    rw [List.length_dropLast]
    omega

theorem trimmedHeader_of_headerOf? {line header : Text} (hblank : line.isBlank = false)
    (h : headerOf? line = some header) :
  trimmedHeader line = headerLine header
  := by
  rw [trimmedHeader, opensSection, hblank, h, headerLine_of_headerOf? h]
  rfl

theorem trimmedHeader_of_not_opens {line : Text} (h : opensSection line = false) :
  trimmedHeader line = line
  := by
  rw [trimmedHeader, h]
  rfl

theorem opensReference_headerLine {header : Text} (h : header ≠ []) :
  opensReference (headerLine header) = isReference header
  := by
  rw [opensReference, headerOf?_headerLine h, Option.any_some]

/-! ### Sections -/

/-- The lines of a document, by the first one: it is blank, opens a section, or stands in the body
of one. -/
theorem line_cases (line : Text) :
  line.isBlank = true
    ∨ line.isBlank = false ∧ (∃ header, headerOf? line = some header) ∧ opensSection line = true
    ∨ line.isBlank = false ∧ headerOf? line = none ∧ opensSection line = false
  := by
  rw [opensSection]
  cases line.isBlank <;> cases headerOf? line <;> simp

/-- The body that follows a header and the sections after it hold all lines that are not blank. -/
theorem bodyLines_append_sectionsOf (lines : List Text) :
  bodyLines lines ++ (sectionsOf lines).flatMap Section.lines
    = (lines.filter fun line => !line.isBlank).map trimmedHeader
  := by
  induction lines with
  | nil => rfl
  | cons line lines ih =>
      rw [bodyLines] at ih ⊢
      rw [sectionsOf]
      obtain hblank | ⟨hblank, ⟨header, hheader⟩, hopens⟩ | ⟨hblank, hheader, hopens⟩ :=
        line_cases line
      · have hopens : opensSection line = false := by
          rw [opensSection, hblank]
          rfl
        simp [hblank, hopens, ih]
      · simp [hblank, hheader, hopens, trimmedHeader_of_headerOf? hblank hheader, Section.lines,
          bodyLines, ih]
      · simp [hblank, hheader, hopens, trimmedHeader_of_not_opens hopens, ih]

/-- The sections of lines hold the lines from the first header on that are not blank. -/
theorem flatMap_lines_sectionsOf (lines : List Text) :
  (sectionsOf lines).flatMap Section.lines
    = ((lines.filter fun line => !line.isBlank).dropWhile
        fun line => !opensSection line).map trimmedHeader
  := by
  induction lines with
  | nil => rfl
  | cons line lines ih =>
      rw [sectionsOf]
      obtain hblank | ⟨hblank, ⟨header, hheader⟩, hopens⟩ | ⟨hblank, hheader, hopens⟩ :=
        line_cases line
      · simp [hblank, ih]
      · simp [hblank, hheader, hopens, trimmedHeader_of_headerOf? hblank hheader, Section.lines,
          bodyLines_append_sectionsOf]
      · simp [hblank, hheader, hopens, ih]

theorem mem_bodyLines {lines : List Text} {line : Text} (h : line ∈ bodyLines lines) :
  line ∈ lines ∧ line.isBlank = false ∧ headerOf? line = none
  := by
  rw [bodyLines, List.mem_filter] at h
  obtain ⟨hmem, hblank⟩ := h
  have hopens := List.mem_takeWhile_imp hmem
  have hnot : line.isBlank = false := by simpa using hblank
  refine ⟨(List.takeWhile_subset _) hmem, hnot, ?_⟩
  simpa [opensSection, hnot] using hopens

/-- Every section has a header, and its body is taken from the lines. -/
theorem mem_sectionsOf {lines : List Text} {part : Section} (h : part ∈ sectionsOf lines) :
  part.header ≠ [] ∧ ∀ line ∈ part.body, line ∈ lines ∧ line.isBlank = false
    ∧ headerOf? line = none
  := by
  induction lines with
  | nil => contradiction
  | cons line lines ih =>
      have hlater (h : part ∈ sectionsOf lines) : part.header ≠ []
          ∧ ∀ line' ∈ part.body, line' ∈ line :: lines ∧ line'.isBlank = false
            ∧ headerOf? line' = none := by
        obtain ⟨hheader, hbody⟩ := ih h
        use hheader
        intro line' hline'
        apply (hbody line' hline').imp_left (List.mem_cons_of_mem _)
      rw [sectionsOf] at h
      split at h
      · apply hlater h
      · split at h
        · next header hheader =>
          obtain rfl | h := List.mem_cons.mp h
          · use ne_nil_of_headerOf? hheader
            intro line' hline'
            apply (mem_bodyLines hline').imp_left (List.mem_cons_of_mem _)
          · apply hlater h
        · apply hlater h

/-- A line that is not blank has no line break and no white space in front. -/
theorem unindented_of_mem {t line : Text} (h : line ∈ unindentedLines t)
    (hblank : line.isBlank = false) :
  line.Unindented
  := by
  obtain ⟨whole, hwhole, rfl⟩ := List.mem_map.mp h
  constructor
  case oneLine =>
    apply (Text.oneLine_of_mem_lines t whole hwhole).of_subset (Text.trimStart_subset whole)
  case starts =>
    have hstart := List.head?_dropWhile_not isSpace whole
    rw [← Text.trimStart] at hstart
    cases hline : whole.trimStart with
    | nil =>
        rw [hline] at hblank
        contradiction
    | cons c rest =>
        rw [hline] at hstart
        use c, rfl
        apply hstart

/-- The bodies of the sections of a text consist of body lines. -/
theorem isBodyLine_of_mem_body {t line : Text} {part : Section}
    (h : part ∈ sectionsOf (unindentedLines t)) (hline : line ∈ part.body) :
  IsBodyLine line
  := by
  obtain ⟨-, hbody⟩ := mem_sectionsOf h
  obtain ⟨hmem, hblank, hheader⟩ := hbody line hline
  exact ⟨unindented_of_mem hmem hblank, hblank, hheader⟩

/-! ### Groups -/

/-- A section as it is grouped: a reference has no body. -/
def Section.grouped (part : Section) : Section :=
  if isReference part.header then ⟨part.header, []⟩ else part

/-- The names of the references among sections, each with the plain sections that follow it. -/
def referencedSections : List Section → List (Text × List Section)
  | [] => []
  | part :: parts =>
    if isReference part.header then
      (referenceName part.header, untilReference parts) :: referencedSections parts
    else referencedSections parts

theorem bracketed_referenceName {header : Text} (h : isReference header = true) :
  bracketed (referenceName header) = header
  := by
  simp only [isReference, Bool.and_eq_true, decide_eq_true_eq, beq_iff_eq] at h
  obtain ⟨⟨hlength, hfirst⟩, hlast⟩ := h
  obtain ⟨rest, rfl⟩ := List.head?_eq_some_iff.mp hfirst
  have hrest : rest ≠ [] := by
    rintro rfl
    contradiction
  rw [List.getLast?_cons_of_ne_nil hrest] at hlast
  rw [bracketed, referenceName, List.drop_one, List.tail_cons, List.cons_append,
    List.dropLast_append_getLast? _ hlast]

theorem not_isReference_of_mem {parts : List Section} {part : Section}
    (h : part ∈ untilReference parts) :
  isReference part.header = false
  := by
  simpa using List.mem_takeWhile_imp h

theorem not_isReference_of_mem_referenced {parts : List Section} {group : Text × List Section}
    (h : group ∈ referencedSections parts) {part : Section} (hpart : part ∈ group.2) :
  isReference part.header = false
  := by
  induction parts with
  | nil => contradiction
  | cons first parts ih =>
      rw [referencedSections] at h
      split at h
      · obtain rfl | h := List.mem_cons.mp h
        · apply not_isReference_of_mem hpart
        · apply ih h
      · apply ih h

theorem referenceGroups_eq_map (parts : List Section) :
  referenceGroups parts
    = (referencedSections parts).map fun (path, parts) => .group path (parts.map .plain)
  := by
  induction parts with
  | nil => rfl
  | cons part parts ih =>
      rw [referenceGroups, referencedSections]
      split
      · rw [List.map_cons, ih]
      · apply ih

/-- A document is grouped into the plain sections in front and the sections of each reference. -/
theorem groupSections_eq (parts : List Section) :
  groupSections parts = blocksInGroups (untilReference parts) (referencedSections parts)
  := by
  rw [groupSections, referenceGroups_eq_map, blocksInGroups]

/-- Grouping keeps all sections in order, but no body of a reference. -/
theorem sectionsInGroups_eq (parts : List Section) :
  sectionsInGroups (untilReference parts) (referencedSections parts) = parts.map Section.grouped
  := by
  rw [sectionsInGroups]
  induction parts with
  | nil => rfl
  | cons part parts ih =>
      rw [untilReference, List.takeWhile_cons, referencedSections, List.map_cons, Section.grouped,
        ← ih]
      by_cases h : isReference part.header = true
      · simp [h, bracketed_referenceName h]
      · simp [h, untilReference]

/-! ### Lines directly below a reference -/

theorem withoutStray_append_of_not_opens {body : List Text}
    (h : ∀ line ∈ body, opensSection line = false) (stray : Bool) (lines : List Text) :
  withoutStray stray (body ++ lines) = (if stray then [] else body) ++ withoutStray stray lines
  := by
  induction body with
  | nil => simp
  | cons line body ih =>
      obtain ⟨hline, hbody⟩ := List.forall_mem_cons.mp h
      rw [List.cons_append, withoutStray, hline]
      cases stray <;> simpa using ih hbody

/-- The lines of a section are those of the section as it is grouped and, below a reference, its
body. -/
theorem withoutStray_lines_append {part : Section} (hheader : part.header ≠ [])
    (hbody : ∀ line ∈ part.body, opensSection line = false) (stray : Bool) (lines : List Text) :
  withoutStray stray (part.lines ++ lines)
    = part.grouped.lines ++ withoutStray (isReference part.header) lines
  := by
  rw [Section.lines, List.cons_append, withoutStray, opensSection_headerLine hheader, if_pos rfl,
    opensReference_headerLine hheader, withoutStray_append_of_not_opens hbody, Section.grouped]
  split <;> rfl

/-- Leaving out the lines directly below a reference leaves the lines of the sections as they are
grouped. -/
theorem withoutStray_flatMap_lines {parts : List Section}
    (h : ∀ part ∈ parts, part.header ≠ [] ∧ ∀ line ∈ part.body, opensSection line = false)
    (stray : Bool) :
  withoutStray stray (parts.flatMap Section.lines)
    = (parts.map Section.grouped).flatMap Section.lines
  := by
  induction parts generalizing stray with
  | nil => rfl
  | cons part parts ih =>
      obtain ⟨⟨hheader, hbody⟩, hparts⟩ := List.forall_mem_cons.mp h
      rw [List.flatMap_cons, withoutStray_lines_append hheader hbody, ih hparts, List.map_cons,
        List.flatMap_cons]

theorem length_lines_grouped_le (part : Section) :
  part.grouped.lines.length ≤ part.lines.length
  := by
  rw [Section.grouped]
  split <;> simp [Section.lines]

theorem lines_grouped_eq_iff (part : Section) :
  part.grouped.lines = part.lines ↔ (isReference part.header = true → part.body = [])
  := by
  rw [Section.grouped]
  by_cases h : isReference part.header = true
  · simp [h, Section.lines, eq_comm]
  · simp [h]

theorem length_flatMap_lines_grouped_le (parts : List Section) :
  ((parts.map Section.grouped).flatMap Section.lines).length
    ≤ (parts.flatMap Section.lines).length
  := by
  induction parts with
  | nil => rfl
  | cons part parts ih =>
      have hpart := length_lines_grouped_le part
      rw [List.map_cons, List.flatMap_cons, List.flatMap_cons, List.length_append,
        List.length_append]
      omega

/-- Grouping loses no line exactly if no reference has lines directly below it. -/
theorem flatMap_lines_grouped_iff (parts : List Section) :
  (parts.map Section.grouped).flatMap Section.lines = parts.flatMap Section.lines
    ↔ ∀ part ∈ parts, isReference part.header = true → part.body = []
  := by
  induction parts with
  | nil => simp
  | cons part parts ih =>
      rw [List.forall_mem_cons, ← ih, ← lines_grouped_eq_iff, List.map_cons, List.flatMap_cons,
        List.flatMap_cons]
      constructor
      · intro h
        -- No section gets longer, so none may get shorter.
        have hlength := congrArg List.length h
        have hpart := length_lines_grouped_le part
        have hparts := length_flatMap_lines_grouped_le parts
        rw [List.length_append, List.length_append] at hlength
        apply List.append_inj h
        omega
      · rintro ⟨hpart, hparts⟩
        rw [hpart, hparts]

/-! ### The parts of a text -/

/-- A text divided into plain sections in front and groups of plain sections, each behind a
reference. -/
structure Divided (t : Text) (front : List Section) (groups : List (Text × List Section)) :
    Prop where
  /-- These are the parts of the text. -/
  parts : blocksOf t = blocksInGroups front groups
  /-- They are all sections of the text in order, the references without a body. -/
  sections : (sectionsOf (unindentedLines t)).map Section.grouped = sectionsInGroups front groups
  /-- Up to the first reference the sections are plain. -/
  plain_front : ∀ part ∈ front, isReference part.header = false
  /-- Behind a reference the sections up to the next reference are plain. -/
  plain_groups : ∀ group ∈ groups, ∀ part ∈ group.2, isReference part.header = false
  /-- No line of a body is blank or opens a section. -/
  bodies : ∀ part ∈ sectionsInGroups front groups, ∀ line ∈ part.body, IsBodyLine line

theorem divided (t : Text) :
  Divided t (untilReference (sectionsOf (unindentedLines t)))
    (referencedSections (sectionsOf (unindentedLines t)))
  := by
  constructor
  case parts => apply groupSections_eq
  case sections => apply (sectionsInGroups_eq _).symm
  case plain_front =>
    intro part hpart
    apply not_isReference_of_mem hpart
  case plain_groups =>
    intro group hgroup part hpart
    apply not_isReference_of_mem_referenced hgroup hpart
  case bodies =>
    intro part hpart line hline
    rw [sectionsInGroups_eq] at hpart
    obtain ⟨whole, hwhole, rfl⟩ := List.mem_map.mp hpart
    apply isBodyLine_of_mem_body hwhole
    rw [Section.grouped] at hline
    split at hline
    · contradiction
    · apply hline

/-- The parts of a text hold the lines of the document, in order and each once, but for the lines
directly below a reference; so they hold the whole document exactly if there are no such lines.
The sections before grouping always do. -/
theorem blocksOf_keeps_lines (t : Text) :
  linesOfBlocks (blocksOf t) = withoutStray false (documentLines t)
    ∧ (linesOfBlocks (blocksOf t) = documentLines t
      ↔ ∀ part ∈ sectionsOf (unindentedLines t), isReference part.header = true → part.body = [])
    ∧ (sectionsOf (unindentedLines t)).flatMap Section.lines = documentLines t
    ∧ ∃ front groups, Divided t front groups
  := by
  have hdivided := divided t
  have hdocument : (sectionsOf (unindentedLines t)).flatMap Section.lines = documentLines t :=
    flatMap_lines_sectionsOf _
  have hlines : linesOfBlocks (blocksOf t)
      = ((sectionsOf (unindentedLines t)).map Section.grouped).flatMap Section.lines := by
    rw [hdivided.parts, linesOfBlocks_blocksInGroups, hdivided.sections]
  have hlegible : ∀ part ∈ sectionsOf (unindentedLines t),
      part.header ≠ [] ∧ ∀ line ∈ part.body, opensSection line = false := by
    intro part hpart
    use (mem_sectionsOf hpart).1
    intro line hline
    apply (isBodyLine_of_mem_body hpart hline).not_opens
  refine ⟨?kept, ?whole, hdocument, _, _, hdivided⟩
  case kept => rw [hlines, ← hdocument, withoutStray_flatMap_lines hlegible]
  case whole => rw [hlines, ← hdocument, flatMap_lines_grouped_iff]

/-- A line directly below a reference is lost. -/
theorem not_linesOfBlocks_stray :
  linesOfBlocks (blocksOf "[a]:\nx") ≠ documentLines "[a]:\nx"
  := by
  decide

end BoxDiagram
