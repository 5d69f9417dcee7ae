import BoxDiagram.Proofs.Document.Trimming
import Mathlib.Logic.Relation

/-!
# Edits without meaning

The lines of a document may be edited without a change of what it says: white space goes to
the ends of a line, a blank line goes anywhere, a line that is no header goes in front of the
first header, and a line that is no header and no row goes into a layout section, as one that
describes no relation goes into a relations section.  White space may end lines itself, so an
edited line can become several lines of the text.  Each edit may be taken back, and edits may
follow one another.
-/

namespace BoxDiagram

/-! ### Editing lines -/

/-- A line that opens no section, however it is indented. -/
def NoHeader (line : Text) : Prop := headerOf? line.trimStart = none

instance (line : Text) : Decidable (NoHeader line) :=
  inferInstanceAs (Decidable (_ = _))

/-- A line that a section passes over, by what its header says. -/
inductive PassedOver (header line : Text) : Prop
  | row (hheader : header.lower = ("layout" : Text)) (hline : rowOf? line = none)
  | relation (hheader : header.lower = ("relations" : Text)) (hline : relationsOfLine line = [])

/-- A change of the lines of a document that does not change what it says. -/
inductive Edit : List Text → List Text → Prop
  | space (front back : List Text) (line : Text) {before behind : Text}
      (hbefore : before.isBlank = true) (hbehind : behind.isBlank = true) :
      Edit (front ++ line :: back) (front ++ (before ++ line ++ behind) :: back)
  | blank (front back : List Text) {line : Text} (hline : line.isBlank = true) :
      Edit (front ++ back) (front ++ line :: back)
  | early {front : List Text} (back : List Text) {line : Text}
      (hfront : ∀ line ∈ front, NoHeader line) (hline : IsLine line) (hnone : NoHeader line) :
      Edit (front ++ back) (front ++ line :: back)
  | passed (front : List Text) {opening header : Text} {body : List Text} (back : List Text)
      {line : Text} (hopening : headerOf? opening.trimStart = some header)
      (hbody : ∀ line ∈ body, NoHeader line) (hline : IsLine line) (hnone : NoHeader line)
      (hpassed : PassedOver header line) :
      Edit (front ++ opening :: (body ++ back)) (front ++ opening :: (body ++ line :: back))

theorem isLine_of_isBlank {line : Text} (h : line.isBlank = true) :
  IsLine line
  := by
  rw [IsLine, Text.trim_eq_nil_iff.mpr h]
  intro c hc
  contradiction

theorem isLine_append_iff {before behind : Text} (hbefore : before.isBlank = true)
    (hbehind : behind.isBlank = true) (line : Text) :
  IsLine (before ++ line ++ behind) ↔ IsLine line
  := by
  rw [IsLine, IsLine, Text.trim_append hbefore hbehind]

/-- A line that is put among others is one of the lines then. -/
theorem forall_isLine_insert {front back : List Text} {line : Text} (h : IsLine line) :
  (∀ t ∈ front ++ line :: back, IsLine t) ↔ ∀ t ∈ front ++ back, IsLine t
  := by
  rw [List.forall_mem_append, List.forall_mem_append, List.forall_mem_cons]
  simp only [h, true_and]

/-- An edit keeps lines to be lines. -/
theorem Edit.forall_isLine_iff {lines edited : List Text} (h : Edit lines edited) :
  (∀ line ∈ lines, IsLine line) ↔ ∀ line ∈ edited, IsLine line
  := by
  cases h with
  | space front back line hbefore hbehind =>
      rw [List.forall_mem_append, List.forall_mem_append, List.forall_mem_cons,
        List.forall_mem_cons, isLine_append_iff hbefore hbehind]
  | blank front back hline => apply (forall_isLine_insert (isLine_of_isBlank hline)).symm
  | early back hfront hline hnone => apply (forall_isLine_insert hline).symm
  | passed front back hopening hbody hline hnone hpassed =>
      rw [← List.cons_append, ← List.append_assoc, ← List.cons_append, ← List.append_assoc]
      apply (forall_isLine_insert hline).symm

/-! ### The sections of edited lines -/

theorem NoHeader.opensSection_trim {line : Text} (h : NoHeader line) :
  opensSection line.trim = false
  := by
  rw [opensSection, ← headerOf?_trimStart, h, Option.isSome_none, Bool.and_false]

theorem opensSection_plainLines {lines : List Text} (h : ∀ line ∈ lines, NoHeader line) :
  ∀ line ∈ plainLines lines, opensSection line = false
  := by
  intro line hline
  rw [plainLines_eq_filter, List.mem_map] at hline
  obtain ⟨given, hgiven, rfl⟩ := hline
  apply (h given (List.mem_of_mem_filter hgiven)).opensSection_trim

theorem not_isBlank_of_headerOf? {line header : Text}
    (h : headerOf? line.trimStart = some header) :
  line.isBlank = false
  := by
  by_contra hblank
  rw [Text.trimStart_eq_nil_iff.mpr (by simpa using hblank)] at h
  contradiction

theorem sectionsOf_opening {opening header : Text} (hopens : opensSection opening = true)
    (hheader : headerOf? opening = some header) (lines : List Text) :
  sectionsOf (opening :: lines) = ⟨header, bodyLines lines⟩ :: sectionsOf lines
  := by
  have hblank : opening.isBlank = false := by
    simpa [opensSection, hheader] using hopens
  rw [sectionsOf, if_neg (by simp [hblank]), hheader]

/-- Lines that open no section are left out in front of the first section. -/
theorem sectionsOf_append_of_not_opens {front : List Text}
    (h : ∀ line ∈ front, opensSection line = false) (lines : List Text) :
  sectionsOf (front ++ lines) = sectionsOf lines
  := by
  induction front with
  | nil => rfl
  | cons line front ih =>
      obtain ⟨hline, hfront⟩ := List.forall_mem_cons.mp h
      rw [List.cons_append, sectionsOf, ih hfront]
      split
      · rfl
      · next hblank =>
          have hnone : headerOf? line = none := by simpa [opensSection, hblank] using hline
          rw [hnone]

/-- A header ends the section in front of it. -/
theorem bodyLines_append_header {opening : Text} (h : opensSection opening = true)
    (front lines : List Text) :
  bodyLines (front ++ opening :: lines) = bodyLines front
  := by
  have htake : (front ++ opening :: lines).takeWhile (fun line => !opensSection line)
      = front.takeWhile (fun line => !opensSection line) := by
    induction front with
    | nil => rw [List.nil_append, List.takeWhile_cons_of_neg (by simp [h]), List.takeWhile_nil]
    | cons line front ih => rw [List.cons_append, List.takeWhile_cons, List.takeWhile_cons, ih]
  rw [bodyLines, htake, bodyLines]

/-- The sections in front of a header do not depend on what follows it. -/
theorem sectionsOf_append_header {opening : Text} (h : opensSection opening = true)
    (front lines : List Text) :
  sectionsOf (front ++ opening :: lines) = sectionsOf front ++ sectionsOf (opening :: lines)
  := by
  induction front with
  | nil => rfl
  | cons line front ih =>
      rw [List.cons_append, sectionsOf, sectionsOf.eq_2 line front, ih, bodyLines_append_header h]
      split
      · rfl
      · split
        · rw [List.cons_append]
        · rfl

/-- A body begins with the lines in front that open no section. -/
theorem bodyLines_append_of_not_opens {front : List Text}
    (h : ∀ line ∈ front, opensSection line = false) (lines : List Text) :
  bodyLines (front ++ lines) = front.filter (fun line => !line.isBlank) ++ bodyLines lines
  := by
  rw [bodyLines, List.takeWhile_append_of_pos, List.filter_append, bodyLines]
  intro line hline
  simp [h line hline]

/-- A section says the same without a line that it passes over. -/
theorem PassedOver.alike {header line : Text} (h : PassedOver header line)
    (front back : List Text) :
  Section.Alike ⟨header, front ++ back⟩ ⟨header, front ++ line :: back⟩
  := by
  have hapart : ("layout" : Text) ≠ ("relations" : Text) := by decide
  constructor
  case header => rfl
  case rows =>
    intro hlayout
    cases h with
    | row _ hline => cases hblank : line.isBlank <;> simp [rowsOf, hblank, hline]
    | relation hheader _ => cases hapart (hlayout.symm.trans hheader)
  case relations =>
    intro hrelations
    cases h with
    | row hheader _ => cases hapart (hheader.symm.trans hrelations)
    | relation _ hline => simp [relationsOf, hline]

theorem PassedOver.trim {header line : Text} (h : PassedOver header line) :
  PassedOver header line.trim
  := by
  cases h with
  | row hheader hline => apply PassedOver.row hheader (by rw [rowOf?_trim, hline])
  | relation hheader hline =>
      apply PassedOver.relation hheader (by rw [relationsOfLine_trim, hline])

/-- Section by section, edited lines say what they said before. -/
theorem Edit.sections_alike {lines edited : List Text} (h : Edit lines edited) :
  List.Forall₂ Section.Alike (sectionsOf (plainLines lines)) (sectionsOf (plainLines edited))
  := by
  have hrefl : ∀ parts : List Section, List.Forall₂ Section.Alike parts parts := by
    intro parts
    apply List.forall₂_same.mpr
    intro part _
    apply Section.Alike.refl
  cases h with
  | space front back line hbefore hbehind =>
      rw [plainLines_append, plainLines_append, plainLines_cons, plainLines_cons,
        Text.trim_append hbefore hbehind, Text.isBlank_append, Text.isBlank_append, hbefore,
        hbehind, Bool.true_and, Bool.and_true]
      apply hrefl
  | blank front back hline =>
      rw [plainLines_append, plainLines_append, plainLines_cons, if_pos hline]
      apply hrefl
  | @early front back line hfront _ hnone =>
      have hopens : ∀ t ∈ front ++ [line], NoHeader t := by
        simpa [or_imp, forall_and] using ⟨hfront, hnone⟩
      rw [List.append_cons, plainLines_append, plainLines_append (front ++ [line]),
        sectionsOf_append_of_not_opens (opensSection_plainLines hfront),
        sectionsOf_append_of_not_opens (opensSection_plainLines hopens)]
      apply hrefl
  | @passed front opening header body back line hopening hbody _ hnone hpassed =>
      have hinner : ∀ t ∈ body ++ [line], NoHeader t := by
        simpa [or_imp, forall_and] using ⟨hbody, hnone⟩
      have hblank : opening.isBlank = false := not_isBlank_of_headerOf? hopening
      have hopens : opensSection opening.trim = true := by
        rw [← opensSection_trimStart, opensSection, Text.isBlank_trimStart, hblank, hopening]
        rfl
      rw [headerOf?_trimStart] at hopening
      rw [List.append_cons body, plainLines_append, plainLines_append, plainLines_cons,
        plainLines_cons, if_neg (by simp [hblank]), if_neg (by simp [hblank]),
        sectionsOf_append_header hopens, sectionsOf_append_header hopens]
      apply List.rel_append (hrefl _)
      rw [sectionsOf_opening hopens hopening, sectionsOf_opening hopens hopening,
        plainLines_append body, plainLines_append (body ++ [line]),
        sectionsOf_append_of_not_opens (opensSection_plainLines hbody),
        sectionsOf_append_of_not_opens (opensSection_plainLines hinner),
        bodyLines_append_of_not_opens (opensSection_plainLines hbody),
        bodyLines_append_of_not_opens (opensSection_plainLines hinner), plainLines_append,
        List.filter_append, List.append_assoc]
      apply List.Forall₂.cons _ (hrefl _)
      rw [plainLines_cons]
      split
      · apply Section.Alike.refl
      · next hline =>
          rw [plainLines_nil, List.filter_cons_of_pos (by simpa [Text.isBlank_trim] using hline)]
          apply hpassed.trim.alike

/-! ### The text of edited lines -/

/-- Edited lines describe the scope that they described before. -/
theorem Edit.ofText_join {lines edited : List Text} (h : Edit lines edited)
    (hlines : ∀ line ∈ lines, IsLine line) :
  Scope.ofText (Text.join ['\n'] edited) = Scope.ofText (Text.join ['\n'] lines)
  := by
  rw [Scope.ofText_eq, Scope.ofText_eq, plainLines_join hlines,
    plainLines_join (h.forall_isLine_iff.mp hlines),
    Scope.addBlocks_groupSections_of_alike h.sections_alike]

/-- A text describes the same scope, with the same messages, when its lines are edited in any ways
and in any order, and when such edits are taken back: the white space at the ends of lines, blank
lines, lines in front of the first header, and the lines that their section passes over carry no
meaning. -/
theorem ofText_of_edits {lines edited : List Text} (hlines : ∀ line ∈ lines, line.OneLine)
    (hedits : Relation.EqvGen Edit lines edited) :
  Scope.ofText (Text.join ['\n'] edited) = Scope.ofText (Text.join ['\n'] lines)
  := by
  have hsame : ((∀ line ∈ lines, IsLine line) ↔ ∀ line ∈ edited, IsLine line)
      ∧ ((∀ line ∈ lines, IsLine line) →
        Scope.ofText (Text.join ['\n'] edited) = Scope.ofText (Text.join ['\n'] lines)) := by
    clear hlines
    induction hedits with
    | rel lines edited h =>
        use h.forall_isLine_iff
        apply h.ofText_join
    | refl lines => simp
    | symm lines edited _ ih =>
        obtain ⟨hiff, hsame⟩ := ih
        use hiff.symm
        intro hedited
        rw [hsame (hiff.mpr hedited)]
    | trans lines between edited _ _ ih ih' =>
        obtain ⟨hiff, hsame⟩ := ih
        obtain ⟨hiff', hsame'⟩ := ih'
        use hiff.trans hiff'
        intro hlines
        rw [hsame' (hiff.mp hlines), hsame hlines]
  apply hsame.2
  intro line hline
  apply (hlines line hline).of_subset (Text.trim_subset line)

/-- A document with a note, a line of its own above a header, blank lines, a layout line without a
box and a relations line without an arrow, and a space less at its end. -/
theorem ofText_of_edits_outline :
  let lines : List Text := ["layout:", "[A] ... [B]", "relations:", "[A] to [B] "]
  let edited : List Text :=
    ["A and B", "\x85  layout:\t", "[A] ... [B]", "no box", "\x0b", "relations:", "[A] alone",
      "[A] to [B]"]
  (∀ line ∈ lines, line.OneLine) ∧ Relation.EqvGen Edit lines edited
    ∧ Scope.ofText (Text.join ['\n'] edited) = Scope.ofText (Text.join ['\n'] lines)
  := by
  intro lines edited
  have hlines : ∀ line ∈ lines, line.OneLine := by decide
  have hspace : Edit ["layout:", "[A] ... [B]", "relations:", "[A] to [B]"] lines :=
    @Edit.space ["layout:", "[A] ... [B]", "relations:"] [] "[A] to [B]" [] [' '] rfl rfl
  have hnote : Edit ["layout:", "[A] ... [B]", "relations:", "[A] to [B]"]
      ["A and B", "layout:", "[A] ... [B]", "relations:", "[A] to [B]"] :=
    @Edit.early [] _ "A and B" (by decide) (by decide) (by decide)
  have hindent : Edit ["A and B", "layout:", "[A] ... [B]", "relations:", "[A] to [B]"]
      ["A and B", "\x85  layout:\t", "[A] ... [B]", "relations:", "[A] to [B]"] :=
    @Edit.space ["A and B"] ["[A] ... [B]", "relations:", "[A] to [B]"] "layout:"
      "\x85  " "\t" rfl rfl
  have hblank : Edit ["A and B", "\x85  layout:\t", "[A] ... [B]", "relations:", "[A] to [B]"]
      ["A and B", "\x85  layout:\t", "[A] ... [B]", "\x0b", "relations:", "[A] to [B]"] :=
    @Edit.blank ["A and B", "\x85  layout:\t", "[A] ... [B]"] _ "\x0b" rfl
  have hrow : Edit ["A and B", "\x85  layout:\t", "[A] ... [B]", "\x0b", "relations:", "[A] to [B]"]
      ["A and B", "\x85  layout:\t", "[A] ... [B]", "no box", "\x0b", "relations:",
        "[A] to [B]"] :=
    @Edit.passed ["A and B"] "\x85  layout:\t" "layout" ["[A] ... [B]"] _ "no box"
      (by decide) (by decide) (by decide) (by decide) (.row (by decide) (by decide))
  have hrelation : Edit
      ["A and B", "\x85  layout:\t", "[A] ... [B]", "no box", "\x0b", "relations:", "[A] to [B]"]
      edited :=
    @Edit.passed ["A and B", "\x85  layout:\t", "[A] ... [B]", "no box", "\x0b"] "relations:"
      "relations" [] _ "[A] alone" (by decide) (by decide) (by decide) (by decide)
      (.relation (by decide) (by decide))
  have hedits : Relation.EqvGen Edit lines edited := by
    apply (Relation.EqvGen.rel _ _ hspace).symm.trans
    apply (Relation.EqvGen.rel _ _ hnote).trans
    apply (Relation.EqvGen.rel _ _ hindent).trans
    apply (Relation.EqvGen.rel _ _ hblank).trans
    apply (Relation.EqvGen.rel _ _ hrow).trans
    apply Relation.EqvGen.rel _ _ hrelation
  use hlines, hedits
  apply ofText_of_edits hlines hedits

end BoxDiagram
