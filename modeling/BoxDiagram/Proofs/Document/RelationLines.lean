import BoxDiagram.Proofs.Document.Trimming

/-!
# The grammar of relation lines

A line stands for relations exactly when, but for the white space around it, it is a label in
brackets, an arrow without brackets, and one or more labels in brackets with nothing but white
space between them.  The parts of such a line are determined by the line, and the line stands for
one relation from the first label to each of the others.  A relation whose arrow has no bracket is
so read back from its line, and every relation that a line stands for is such a one.
-/

namespace BoxDiagram

/-! ### The parts of a line -/

/-- The parts of a line of relations.  Each further finish has the white space in front of it. -/
@[ext]
structure RelationLine where
  start : Text
  arrow : Text
  finish : Text
  more : List (Text × Text)
  start_isLabel : IsLabel start
  no_opening : '[' ∉ arrow
  no_closing : ']' ∉ arrow
  finish_isLabel : IsLabel finish
  more_spaced : ∀ part ∈ more, part.1.isBlank = true ∧ IsLabel part.2

namespace RelationLine

/-- The line up to the first finish. -/
def front (l : RelationLine) : Text := bracketed l.start ++ l.arrow ++ bracketed l.finish

/-- The line that some parts make up. -/
def text (l : RelationLine) : Text := l.front ++ spacedLabels l.more

/-- The labels that the arrows of a line lead to. -/
def finishes (l : RelationLine) : List Text := l.finish :: l.more.map Prod.snd

/-- The relations that a line stands for. -/
def relations (l : RelationLine) : List Relation :=
  l.finishes.map fun finish => ⟨l.start, l.arrow, finish⟩

end RelationLine

theorem RelationLine.isLabel_of_mem_finishes (l : RelationLine) {finish : Text}
    (h : finish ∈ l.finishes) :
  IsLabel finish ∧ finish ⊆ l.text
  := by
  obtain rfl | h := List.mem_cons.mp h
  · use l.finish_isLabel
    intro c hc
    simp [text, front, bracketed, hc]
  · obtain ⟨part, hpart, rfl⟩ := List.mem_map.mp h
    use (l.more_spaced part hpart).2
    intro c hc
    apply List.mem_append_right
    apply List.mem_flatMap_of_mem hpart
    simp [bracketed, hc]

/-! ### Lines that are read -/

/-- Further finishes are found with their labels, and only white space stands between them. -/
theorem scanBrackets_spacedLabels {more : List (Text × Text)}
    (h : ∀ part ∈ more, part.1.isBlank = true ∧ IsLabel part.2) (front : Text) :
  (scanBrackets front.length none (spacedLabels more)).map Bracket.label = more.map Prod.snd
    ∧ onlyBlankBetween (front ++ spacedLabels more) front.length
      (scanBrackets front.length none (spacedLabels more)) = true
  := by
  induction more generalizing front with
  | nil =>
      constructor
      · rfl
      · rw [spacedLabels, List.flatMap_nil, scanBrackets, onlyBlankBetween, List.drop_left]
        rfl
  | cons part more ih =>
      obtain ⟨gap, label⟩ := part
      obtain ⟨⟨hgap, hlabel⟩, hmore⟩ := List.forall_mem_cons.mp h
      have hscan := scanBrackets_append (Text.not_mem_of_isBlank hgap (by decide)) front.length
        (bracketed label ++ spacedLabels more)
      rw [scanBrackets_bracketed hlabel, ← List.append_assoc, ← spacedLabels_cons] at hscan
      have hlength : front.length + gap.length + label.length + 2
          = (front ++ gap ++ bracketed label).length := by
        rw [List.length_append, List.length_append, length_bracketed, Nat.add_assoc _ label.length]
      obtain ⟨hlabels, hblank⟩ := ih hmore (front ++ gap ++ bracketed label)
      rw [hscan, hlength]
      constructor
      · rw [List.map_cons, hlabels, List.map_cons]
      · have hbetween : (front ++ spacedLabels ((gap, label) :: more)).between front.length
            (front.length + gap.length) = gap := by
          rw [Text.between, List.drop_left, Nat.add_sub_cancel_left, spacedLabels_cons,
            List.append_assoc, List.take_left]
        rw [onlyBlankBetween, hbetween, hgap, Bool.true_and, spacedLabels_cons]
        simpa using hblank

theorem RelationLine.bracketsOf_text (l : RelationLine) :
  bracketsOf l.text
    = ⟨l.start, 0, l.start.length + 2⟩
      :: ⟨l.finish, l.start.length + 2 + l.arrow.length, l.front.length⟩
      :: scanBrackets l.front.length none (spacedLabels l.more)
  := by
  have hlength : l.front.length
      = l.start.length + 2 + l.arrow.length + l.finish.length + 2 := by
    rw [front, List.length_append, List.length_append, length_bracketed, length_bracketed,
      Nat.add_assoc _ l.finish.length]
  rw [bracketsOf, text, hlength, front, List.append_assoc, List.append_assoc,
    scanBrackets_bracketed l.start_isLabel, scanBrackets_append l.no_opening,
    scanBrackets_bracketed l.finish_isLabel, Nat.zero_add]

theorem RelationLine.between_text (l : RelationLine) :
  l.text.between (l.start.length + 2) (l.start.length + 2 + l.arrow.length) = l.arrow
  := by
  rw [Text.between, text, front, ← length_bracketed, List.append_assoc, List.append_assoc,
    List.drop_left, Nat.add_sub_cancel_left, List.take_left]

/-- A line that some parts make up stands for their relations. -/
theorem relationsOfLine_of_trim {line : Text} {l : RelationLine} (h : line.trim = l.text) :
  relationsOfLine line = l.relations
  := by
  obtain ⟨hlabels, hblank⟩ := scanBrackets_spacedLabels l.more_spaced l.front
  rw [relationsOfLine, h]
  simp only [l.bracketsOf_text, l.between_text]
  rw [if_pos]
  · rw [RelationLine.relations, RelationLine.finishes, ← hlabels, List.map_cons, List.map_cons,
      List.map_map]
    rfl
  · simp only [RelationLine.text, hblank]
    simp [l.no_opening, l.no_closing]

/-- A relation is read back from its line. -/
theorem relationsOfLine_line {relation : Relation} (h : relation.Legible) :
  relationsOfLine relation.line = [relation]
  := by
  let l : RelationLine :=
    { start := relation.start, arrow := relation.arrow, finish := relation.finish, more := []
      start_isLabel := h.start.1, no_opening := h.no_opening, no_closing := h.no_closing
      finish_isLabel := h.finish.1, more_spaced := by simp }
  have htext : relation.line.trim = l.text := by
    rw [h.trim, RelationLine.text, spacedLabels, List.flatMap_nil, List.append_nil]
    rfl
  rw [relationsOfLine_of_trim htext]
  rfl

/-! ### Lines that stand for relations -/

/-- Where only white space stands between the labels that are found, they are further finishes, and
white space follows them. -/
theorem exists_spacedLabels {front rest : Text} {bs : List Bracket}
    (hscan : scanBrackets front.length none rest = bs)
    (hblank : onlyBlankBetween (front ++ rest) front.length bs = true) :
  ∃ more tail, (∀ part ∈ more, part.1.isBlank = true ∧ IsLabel part.2) ∧ tail.isBlank = true
    ∧ rest = spacedLabels more ++ tail
  := by
  induction bs generalizing front rest with
  | nil =>
      rw [onlyBlankBetween, List.drop_left] at hblank
      use [], rest
      refine ⟨by simp, hblank, rfl⟩
  | cons b bs ih =>
      obtain ⟨gap, rest, rfl, hlabel, hstart, hstop, hscan⟩ := exists_of_scanBrackets_cons hscan
      have hbetween : (front ++ (gap ++ bracketed b.label ++ rest)).between front.length b.start
          = gap := by
        rw [Text.between, List.drop_left, hstart, Nat.add_sub_cancel_left, List.append_assoc,
          List.take_left]
      have hlength : b.stop = (front ++ gap ++ bracketed b.label).length := by
        rw [hstop, hstart, List.length_append, List.length_append, length_bracketed,
          Nat.add_assoc _ b.label.length]
      have htext : front ++ (gap ++ bracketed b.label ++ rest)
          = front ++ gap ++ bracketed b.label ++ rest := by simp
      rw [onlyBlankBetween, hbetween, Bool.and_eq_true, htext, hlength] at hblank
      rw [hlength] at hscan
      obtain ⟨more, tail, hmore, htail, rfl⟩ := ih hscan hblank.2
      use (gap, b.label) :: more, tail
      refine ⟨List.forall_mem_cons.mpr ⟨⟨hblank.1, hlabel⟩, hmore⟩, htail, ?_⟩
      rw [spacedLabels_cons, List.append_assoc _ _ tail]

/-- No white space is left at the end of a trimmed text. -/
theorem eq_nil_of_trim_append {t back : Text} (h : Text.trim (t ++ back) = t ++ back)
    (hback : back.isBlank = true) :
  back = []
  := by
  obtain ⟨before, behind, -, -, ht⟩ := Text.exists_trim t
  have hlength := congrArg List.length h
  rw [Text.trim_append_right t hback] at hlength
  have hle := congrArg List.length ht
  simp only [List.length_append] at hlength hle
  apply List.eq_nil_of_length_eq_zero
  omega

/-- A line that stands for relations is made up of parts. -/
theorem exists_relationLine {line : Text} (h : relationsOfLine line ≠ []) :
  ∃ l : RelationLine, line.trim = l.text
  := by
  have htrim := Text.trim_trim line
  rw [relationsOfLine] at h
  generalize line.trim = t at h htrim ⊢
  simp only at h
  split at h
  · next start finish more hbrackets =>
    split at h
    · next hshape =>
      simp only [Bool.and_eq_true, Bool.not_eq_true', beq_iff_eq] at hshape
      obtain ⟨⟨⟨hzero, hopening⟩, hclosing⟩, hblank⟩ := hshape
      obtain ⟨before, behind, ht, hstart, hplace, hstop, hfound⟩ :=
        exists_of_scanBrackets_cons hbrackets
      obtain ⟨arrow, rest, rfl, hfinish, hplace', hstop', hmore⟩ :=
        exists_of_scanBrackets_cons hfound
      obtain rfl : before = [] := by
        apply List.eq_nil_of_length_eq_zero
        omega
      have hfront : t = bracketed start.label ++ arrow ++ bracketed finish.label ++ rest := by
        simp [ht]
      have hlength : finish.stop
          = (bracketed start.label ++ arrow ++ bracketed finish.label).length := by
        simp only [List.length_append, length_bracketed]
        omega
      have harrow : t.between start.stop finish.start = arrow := by
        rw [Text.between, ht, List.nil_append, hplace', Nat.add_sub_cancel_left, hstop, hzero,
          Nat.zero_add, ← length_bracketed, List.drop_left, List.append_assoc, List.take_left]
      rw [hlength] at hmore hblank
      rw [harrow] at hopening hclosing
      rw [hfront] at hblank
      obtain ⟨more, tail, hspaced, htail, rfl⟩ := exists_spacedLabels hmore hblank
      rw [hfront, ← List.append_assoc] at htrim
      obtain rfl := eq_nil_of_trim_append htrim htail
      use
        { start := start.label, arrow := arrow, finish := finish.label, more := more
          start_isLabel := hstart, no_opening := by simpa using hopening
          no_closing := by simpa using hclosing, finish_isLabel := hfinish
          more_spaced := hspaced }
      rw [hfront, List.append_nil]
      rfl
    · contradiction
  · contradiction

/-- The relations that a line stands for are read back from their own lines. -/
theorem legible_of_mem_relationsOfLine {line : Text} (hline : line.OneLine)
    {relation : Relation} (h : relation ∈ relationsOfLine line) :
  relation.Legible
  := by
  obtain ⟨l, hl⟩ := exists_relationLine (List.ne_nil_of_mem h)
  have htext : l.text.OneLine := by
    rw [← hl]
    apply hline.of_subset (Text.trim_subset line)
  rw [relationsOfLine_of_trim hl] at h
  obtain ⟨finish, hfinish, rfl⟩ := List.mem_map.mp h
  obtain ⟨hlabel, hsub⟩ := l.isLabel_of_mem_finishes hfinish
  constructor
  case start =>
    use l.start_isLabel
    apply htext.of_subset
    simp [RelationLine.text, RelationLine.front, bracketed]
  case arrow =>
    apply htext.of_subset
    simp [RelationLine.text, RelationLine.front]
  case no_opening => apply l.no_opening
  case no_closing => apply l.no_closing
  case finish =>
    use hlabel
    apply htext.of_subset hsub

/-! ### One reading -/

/-- Texts are the same up to a mark that they do not hold, and behind it, when they are the same
with the mark. -/
theorem eq_of_append_cons_eq {a : Char} {t t' u u' : Text} (h : a ∉ t) (h' : a ∉ t')
    (heq : t ++ a :: u = t' ++ a :: u') :
  t = t' ∧ u = u'
  := by
  induction t generalizing t' with
  | nil =>
      cases t' with
      | nil => simpa using heq
      | cons c t' =>
          obtain ⟨rfl, -⟩ := List.cons.inj heq
          simp at h'
  | cons c t ih =>
      cases t' with
      | nil =>
          obtain ⟨rfl, -⟩ := List.cons.inj heq
          simp at h
      | cons c' t' =>
          obtain ⟨rfl, htail⟩ := List.cons.inj heq
          obtain ⟨rfl, hu⟩ := ih (fun hmem => h (List.mem_cons_of_mem _ hmem))
            (fun hmem => h' (List.mem_cons_of_mem _ hmem)) htail
          use rfl, hu

/-- What stands in front of a label in brackets, if it has no opening bracket, the label, and what
follows are determined by the text. -/
theorem eq_of_append_bracketed_eq {gap gap' label label' t t' : Text} (hgap : '[' ∉ gap)
    (hgap' : '[' ∉ gap') (h : IsLabel label) (h' : IsLabel label')
    (heq : gap ++ bracketed label ++ t = gap' ++ bracketed label' ++ t') :
  gap = gap' ∧ label = label' ∧ t = t'
  := by
  have hopen : ∀ label t : Text, bracketed label ++ t = '[' :: (label ++ ']' :: t) := by
    simp [bracketed]
  rw [List.append_assoc, List.append_assoc, hopen, hopen] at heq
  obtain ⟨rfl, hrest⟩ := eq_of_append_cons_eq hgap hgap' heq
  use rfl
  apply eq_of_append_cons_eq h.no_closing h'.no_closing hrest

theorem eq_of_spacedLabels_eq {more more' : List (Text × Text)}
    (h : ∀ part ∈ more, part.1.isBlank = true ∧ IsLabel part.2)
    (h' : ∀ part ∈ more', part.1.isBlank = true ∧ IsLabel part.2)
    (heq : spacedLabels more = spacedLabels more') :
  more = more'
  := by
  induction more generalizing more' with
  | nil =>
      cases more' with
      | nil => rfl
      | cons part more' => simp [spacedLabels, bracketed] at heq
  | cons part more ih =>
      cases more' with
      | nil => simp [spacedLabels, bracketed] at heq
      | cons part' more' =>
          obtain ⟨gap, label⟩ := part
          obtain ⟨gap', label'⟩ := part'
          obtain ⟨⟨hgap, hlabel⟩, hmore⟩ := List.forall_mem_cons.mp h
          obtain ⟨⟨hgap', hlabel'⟩, hmore'⟩ := List.forall_mem_cons.mp h'
          rw [spacedLabels_cons, spacedLabels_cons] at heq
          obtain ⟨rfl, rfl, hrest⟩ := eq_of_append_bracketed_eq
            (Text.not_mem_of_isBlank hgap (by decide))
            (Text.not_mem_of_isBlank hgap' (by decide)) hlabel hlabel' heq
          rw [ih hmore hmore' hrest]

/-- The parts of a line are determined by the line. -/
theorem RelationLine.eq_of_text_eq {l l' : RelationLine} (h : l.text = l'.text) :
  l = l'
  := by
  have hstart : [] ++ bracketed l.start ++ (l.arrow ++ bracketed l.finish ++ spacedLabels l.more)
      = [] ++ bracketed l'.start
        ++ (l'.arrow ++ bracketed l'.finish ++ spacedLabels l'.more) := by
    simpa [text, front] using h
  obtain ⟨-, hstart, hrest⟩ := eq_of_append_bracketed_eq List.not_mem_nil List.not_mem_nil
    l.start_isLabel l'.start_isLabel hstart
  obtain ⟨harrow, hfinish, hmore⟩ := eq_of_append_bracketed_eq l.no_opening l'.no_opening
    l.finish_isLabel l'.finish_isLabel hrest
  apply RelationLine.ext hstart harrow hfinish
  apply eq_of_spacedLabels_eq l.more_spaced l'.more_spaced hmore

/-! ### The grammar -/

/-- A line stands for relations exactly when it is made up, between white space, of a label in
brackets, an arrow without brackets, a label in brackets, and further labels in brackets each
behind white space.  Then these parts are the only ones it is made up of, and it stands for the
relations from the first label, by the arrow as it is written, to each of the others in order. -/
theorem relationsOfLine_grammar (line : Text) :
  (relationsOfLine line ≠ [] ↔ ∃ l : RelationLine, line.trim = l.text)
    ∧ ∀ l : RelationLine, line.trim = l.text →
      relationsOfLine line = l.relations ∧ ∀ l' : RelationLine, line.trim = l'.text → l' = l
  := by
  constructor
  · constructor
    · apply exists_relationLine
    · rintro ⟨l, hl⟩
      rw [relationsOfLine_of_trim hl]
      apply List.cons_ne_nil
  · intro l hl
    use relationsOfLine_of_trim hl
    intro l' hl'
    apply RelationLine.eq_of_text_eq (hl'.symm.trans hl)

/-- An indented line with an opening bracket in its first label and two finishes. -/
theorem relationsOfLine_grammar_spaced :
  let line : Text := "  [a[b] --> [c] [d]\t"
  relationsOfLine line = [⟨"a[b", " --> ", "c"⟩, ⟨"a[b", " --> ", "d"⟩]
    ∧ ∃ l : RelationLine, line.trim = l.text ∧ relationsOfLine line = l.relations
  := by
  intro line
  let l : RelationLine :=
    { start := "a[b", arrow := " --> ", finish := "c", more := [(" ", "d")]
      start_isLabel := by constructor <;> decide
      no_opening := by decide, no_closing := by decide
      finish_isLabel := by constructor <;> decide
      more_spaced := by
        rw [List.forall_mem_singleton]
        use by decide
        constructor <;> decide }
  have htext : line.trim = l.text := by decide
  obtain ⟨hrelations, -⟩ := (relationsOfLine_grammar line).2 l htext
  use hrelations, l, htext

end BoxDiagram
