import BoxDiagram.Proofs.Document.Sections
import Mathlib.Data.List.Infix

/-!
# Which brackets are found

Every text is cut in exactly one way into labels in brackets, gaps in front of them, and a tail.
A label is not empty and holds no closing bracket; a gap holds no opening bracket but those of
empty brackets; and a tail is a gap behind which an opening bracket may stand that is never
closed.  The brackets of a text are the labels of this cut, with the places where they stand.
-/

namespace BoxDiagram

/-! ### Scanning -/

/-- A label that brackets can hold. -/
structure IsLabel (label : Text) : Prop where
  ne_nil : label ≠ []
  no_closing : ']' ∉ label

theorem scanBrackets_opening (position : Nat) (t : Text) :
  scanBrackets position none ('[' :: t) = scanBrackets (position + 1) (some (position, [])) t
  := rfl

theorem scanBrackets_outside {c : Char} (h : c ≠ '[') (position : Nat) (t : Text) :
  scanBrackets position none (c :: t) = scanBrackets (position + 1) none t
  := by
  simp [scanBrackets, h]

theorem scanBrackets_within {c : Char} (h : c ≠ ']') (position start : Nat) (label t : Text) :
  scanBrackets position (some (start, label)) (c :: t)
    = scanBrackets (position + 1) (some (start, c :: label)) t
  := by
  simp [scanBrackets, h]

theorem scanBrackets_closing (position start : Nat) (label t : Text) :
  scanBrackets position (some (start, label)) (']' :: t)
    = (if label = [] then [] else [⟨label.reverse, start, position + 1⟩])
      ++ scanBrackets (position + 1) none t
  := by
  by_cases h : label = [] <;> simp [scanBrackets, h]

/-- Inside brackets the label runs to the closing bracket. -/
theorem scanBrackets_inside {label : Text} (hclosing : ']' ∉ label) (position start : Nat)
    (front : Text) (hne : front ++ label ≠ []) (t : Text) :
  scanBrackets position (some (start, front.reverse)) (label ++ ']' :: t)
    = ⟨front ++ label, start, position + label.length + 1⟩
      :: scanBrackets (position + label.length + 1) none t
  := by
  induction label generalizing position front with
  | nil =>
      rw [List.append_nil] at hne ⊢
      rw [List.nil_append, scanBrackets_closing, if_neg (by simpa using hne),
        List.reverse_reverse]
      rfl
  | cons c label ih =>
      obtain ⟨hc, hlabel⟩ := not_or.mp (List.mem_cons.not.mp hclosing)
      have hlen : position + (c :: label).length = position + 1 + label.length := by
        rw [List.length_cons]
        omega
      rw [List.cons_append, scanBrackets_within (Ne.symm hc), ← List.reverse_concat,
        ih hlabel (position + 1) (front ++ [c]) (by simp), hlen, List.append_assoc,
        List.singleton_append]

/-- A label in brackets is the first that is found. -/
theorem scanBrackets_bracketed {label : Text} (h : IsLabel label) (position : Nat) (t : Text) :
  scanBrackets position none (bracketed label ++ t)
    = ⟨label, position, position + label.length + 2⟩
      :: scanBrackets (position + label.length + 2) none t
  := by
  have htext : bracketed label ++ t = '[' :: (label ++ ']' :: t) := by simp [bracketed]
  have hlen : position + 1 + label.length + 1 = position + label.length + 2 := by omega
  have hinside := scanBrackets_inside h.no_closing (position + 1) position [] h.ne_nil t
  rw [htext, scanBrackets_opening]
  rwa [hlen, List.nil_append] at hinside

/-- No label begins where no bracket opens. -/
theorem scanBrackets_append {front : Text} (h : '[' ∉ front) (position : Nat) (t : Text) :
  scanBrackets position none (front ++ t) = scanBrackets (position + front.length) none t
  := by
  induction front generalizing position with
  | nil => rfl
  | cons c front ih =>
      obtain ⟨hc, hfront⟩ := not_or.mp (List.mem_cons.not.mp h)
      rw [List.cons_append, scanBrackets_outside (Ne.symm hc), ih hfront, List.length_cons,
        Nat.add_assoc, Nat.add_comm 1]

/-- No label ends where no bracket closes. -/
theorem scanBrackets_append_right {back : Text} (h : ']' ∉ back) (position : Nat)
    (opened : Option (Nat × Text)) (t : Text) :
  scanBrackets position opened (t ++ back) = scanBrackets position opened t
  := by
  induction t generalizing position opened with
  | nil =>
      rw [List.nil_append, scanBrackets]
      induction back generalizing position opened with
      | nil => rfl
      | cons c back ih =>
          obtain ⟨hc, hback⟩ := not_or.mp (List.mem_cons.not.mp h)
          cases opened with
          | none => rw [scanBrackets, ih hback]
          | some opened => rw [scanBrackets_within (Ne.symm hc), ih hback]
  | cons c t ih =>
      cases opened with
      | none => rw [List.cons_append, scanBrackets, scanBrackets, ih]
      | some opened =>
          obtain ⟨start, label⟩ := opened
          by_cases hc : c = ']'
          · rw [List.cons_append, hc, scanBrackets_closing, scanBrackets_closing, ih]
          · rw [List.cons_append, scanBrackets_within hc, scanBrackets_within hc, ih]

/-! ### Labels with gaps in front -/

/-- Labels in brackets, each behind its gap. -/
def spacedLabels (more : List (Text × Text)) : Text :=
  more.flatMap fun (gap, label) => gap ++ bracketed label

theorem length_bracketed (label : Text) :
  (bracketed label).length = label.length + 2
  := by
  simp [bracketed]

theorem spacedLabels_cons (gap label : Text) (more : List (Text × Text)) :
  spacedLabels ((gap, label) :: more) = gap ++ bracketed label ++ spacedLabels more
  := List.flatMap_cons

/-- The brackets around labels behind gaps, from a position on. -/
def spacedBrackets : Nat → List (Text × Text) → List Bracket
  | _, [] => []
  | position, (gap, label) :: more =>
    let start := position + gap.length
    let stop := start + label.length + 2
    ⟨label, start, stop⟩ :: spacedBrackets stop more

theorem map_label_spacedBrackets (position : Nat) (more : List (Text × Text)) :
  (spacedBrackets position more).map Bracket.label = more.map Prod.snd
  := by
  induction more generalizing position with
  | nil => rfl
  | cons piece more ih => rw [spacedBrackets, List.map_cons, List.map_cons, ih]

/-- Labels behind gaps are told by their text, what follows it, and the places of their brackets. -/
theorem spacedBrackets_inj {position : Nat} {pieces pieces' : List (Text × Text)}
    {tail tail' : Text}
    (htext : spacedLabels pieces ++ tail = spacedLabels pieces' ++ tail')
    (hbrackets : spacedBrackets position pieces = spacedBrackets position pieces') :
  pieces = pieces' ∧ tail = tail'
  := by
  induction pieces generalizing position pieces' with
  | nil =>
      cases pieces' with
      | nil => use rfl, htext
      | cons piece' pieces' => contradiction
  | cons piece pieces ih =>
      cases pieces' with
      | nil => contradiction
      | cons piece' pieces' =>
          obtain ⟨gap, label⟩ := piece
          obtain ⟨gap', label'⟩ := piece'
          rw [spacedBrackets, spacedBrackets] at hbrackets
          obtain ⟨hbracket, hmore⟩ := List.cons.inj hbrackets
          obtain ⟨rfl, hstart, hstop⟩ := Bracket.mk.inj hbracket
          rw [spacedLabels_cons, spacedLabels_cons, List.append_assoc, List.append_assoc,
            List.append_assoc, List.append_assoc] at htext
          obtain ⟨rfl, hrest⟩ := List.append_inj htext (Nat.add_left_cancel hstart)
          obtain ⟨rfl, htail⟩ := ih (List.append_cancel_left hrest) hmore
          use rfl, htail

/-! ### Gaps and tails -/

/-- What can stand between labels: characters other than opening brackets, and empty brackets. -/
inductive IsGap : Text → Prop where
  | nil : IsGap []
  | char {c : Char} {t : Text} : c ≠ '[' → IsGap t → IsGap (c :: t)
  | empty {t : Text} : IsGap t → IsGap ('[' :: ']' :: t)

/-- What can stand behind the last label: a gap, and it may be an opening bracket that is never
closed. -/
inductive IsTail : Text → Prop where
  | gap {gap : Text} : IsGap gap → IsTail gap
  | unclosed {gap rest : Text} : IsGap gap → ']' ∉ rest → IsTail (gap ++ '[' :: rest)

theorem IsGap.append {gap t : Text} (h : IsGap gap) (ht : IsGap t) :
  IsGap (gap ++ t)
  := by
  induction h with
  | nil => apply ht
  | char hc _ ih => apply ih.char hc
  | empty _ ih => apply ih.empty

theorem IsGap.append_tail {gap tail : Text} (h : IsGap gap) (htail : IsTail tail) :
  IsTail (gap ++ tail)
  := by
  cases htail with
  | gap hgap => apply IsTail.gap (h.append hgap)
  | unclosed hgap hrest =>
      rw [← List.append_assoc]
      apply IsTail.unclosed (h.append hgap) hrest

/-- No label is found in a gap. -/
theorem IsGap.scanBrackets_append {gap : Text} (h : IsGap gap) (position : Nat) (t : Text) :
  scanBrackets position none (gap ++ t) = scanBrackets (position + gap.length) none t
  := by
  induction h generalizing position with
  | nil => rfl
  | char hc _ ih =>
      rw [List.cons_append, scanBrackets_outside hc, ih, List.length_cons, Nat.add_assoc,
        Nat.add_comm 1]
  | empty _ ih =>
      rw [List.cons_append, List.cons_append, scanBrackets_opening, scanBrackets_closing,
        if_pos rfl, List.nil_append, ih, List.length_cons, List.length_cons]
      congr 1
      omega

/-- No label is found in a tail. -/
theorem IsTail.scanBrackets_eq_nil {tail : Text} (h : IsTail tail) (position : Nat) :
  scanBrackets position none tail = []
  := by
  cases h with
  | gap h =>
      have hscan := h.scanBrackets_append position []
      rwa [List.append_nil] at hscan
  | @unclosed gap rest h hrest =>
      have hnone := scanBrackets_append_right hrest (position + gap.length + 1)
        (some (position + gap.length, [])) []
      rw [h.scanBrackets_append, scanBrackets_opening]
      apply hnone

/-! ### Cuts -/

/-- A way to cut a text: labels in brackets, each behind its gap, and a tail. -/
@[ext]
structure BracketCut where
  pieces : List (Text × Text)
  tail : Text
  gaps : ∀ piece ∈ pieces, IsGap piece.1
  labels : ∀ piece ∈ pieces, IsLabel piece.2
  isTail : IsTail tail

namespace BracketCut

/-- The text that is cut so. -/
def text (cut : BracketCut) : Text := spacedLabels cut.pieces ++ cut.tail

/-- The brackets around the labels of a cut. -/
def brackets (cut : BracketCut) : List Bracket := spacedBrackets 0 cut.pieces

/-- A gap in front of a cut lengthens its first gap, or its tail if it has no label. -/
theorem exists_gap_append {gap : Text} (h : IsGap gap) (cut : BracketCut) :
  ∃ longer : BracketCut, longer.text = gap ++ cut.text
  := by
  obtain ⟨pieces, tail, hgaps, hlabels, htail⟩ := cut
  cases pieces with
  | nil =>
      use ⟨[], gap ++ tail, hgaps, hlabels, h.append_tail htail⟩
      rfl
  | cons piece more =>
      obtain ⟨hgap, hmore⟩ := List.forall_mem_cons.mp hgaps
      obtain ⟨hlabel, hlabels⟩ := List.forall_mem_cons.mp hlabels
      use ⟨(gap ++ piece.1, piece.2) :: more, tail,
        List.forall_mem_cons.mpr ⟨h.append hgap, hmore⟩,
        List.forall_mem_cons.mpr ⟨hlabel, hlabels⟩, htail⟩
      simp [text, spacedLabels]

/-- A label in front of a cut. -/
theorem exists_bracketed_append {label : Text} (h : IsLabel label) (cut : BracketCut) :
  ∃ longer : BracketCut, longer.text = bracketed label ++ cut.text
  := by
  use ⟨([], label) :: cut.pieces, cut.tail, List.forall_mem_cons.mpr ⟨.nil, cut.gaps⟩,
    List.forall_mem_cons.mpr ⟨h, cut.labels⟩, cut.isTail⟩
  simp [text, spacedLabels]

/-- Every text can be cut. -/
theorem exists_text_eq (t : Text) :
  ∃ cut : BracketCut, cut.text = t
  := by
  induction hlength : t.length using Nat.strong_induction_on generalizing t with
  | _ n ih =>
  subst hlength
  cases t with
  | nil =>
      use ⟨[], [], by simp, by simp, .gap .nil⟩
      rfl
  | cons c t =>
      by_cases hc : c = '['
      · subst hc
        by_cases hclosing : ']' ∈ t
        · obtain ⟨label, rest, rfl, hlabel⟩ := List.eq_append_cons_of_mem hclosing
          obtain ⟨cut, rfl⟩ := ih rest.length (by simp; omega) rest rfl
          by_cases hne : label = []
          · -- Empty brackets belong to the gap.
            subst hne
            apply exists_gap_append (.empty .nil) cut
          · obtain ⟨longer, hlonger⟩ := exists_bracketed_append ⟨hne, hlabel⟩ cut
            use longer
            simp [hlonger, bracketed]
        · use ⟨[], '[' :: t, by simp, by simp, .unclosed .nil hclosing⟩
          rfl
      · obtain ⟨cut, rfl⟩ := ih t.length (by simp) t rfl
        apply exists_gap_append (.char hc .nil) cut

/-- The brackets that are found in a text are those of any cut of it. -/
theorem scanBrackets_text (cut : BracketCut) (position : Nat) :
  scanBrackets position none cut.text = spacedBrackets position cut.pieces
  := by
  obtain ⟨pieces, tail, hgaps, hlabels, htail⟩ := cut
  rw [text]
  induction pieces generalizing position with
  | nil => apply htail.scanBrackets_eq_nil
  | cons piece more ih =>
      obtain ⟨gap, label⟩ := piece
      obtain ⟨hgap, hgaps⟩ := List.forall_mem_cons.mp hgaps
      obtain ⟨hlabel, hlabels⟩ := List.forall_mem_cons.mp hlabels
      rw [spacedLabels_cons, List.append_assoc, List.append_assoc, hgap.scanBrackets_append,
        scanBrackets_bracketed hlabel, ih _ hgaps hlabels, spacedBrackets]

theorem bracketsOf_text (cut : BracketCut) :
  bracketsOf cut.text = cut.brackets
  := cut.scanBrackets_text 0

/-- A text is cut in one way only. -/
theorem text_injective : Function.Injective text := by
  intro cut cut' h
  have hbrackets : cut.brackets = cut'.brackets := by
    rw [← bracketsOf_text, ← bracketsOf_text, h]
  obtain ⟨hpieces, htail⟩ := spacedBrackets_inj h hbrackets
  apply BracketCut.ext hpieces htail

end BracketCut

/-! ### What is found -/

/-- The first label that is found stands in brackets at its place, and the search goes on behind
it. -/
theorem exists_of_scanBrackets_cons {position : Nat} {t : Text} {b : Bracket}
    {bs : List Bracket} (h : scanBrackets position none t = b :: bs) :
  ∃ gap rest, t = gap ++ bracketed b.label ++ rest ∧ IsLabel b.label
    ∧ b.start = position + gap.length ∧ b.stop = b.start + b.label.length + 2
    ∧ scanBrackets b.stop none rest = bs
  := by
  obtain ⟨⟨pieces, tail, hgaps, hlabels, htail⟩, rfl⟩ := BracketCut.exists_text_eq t
  rw [BracketCut.scanBrackets_text] at h
  cases pieces with
  | nil => contradiction
  | cons piece more =>
      obtain ⟨gap, label⟩ := piece
      obtain ⟨rfl, rfl⟩ := List.cons.inj h
      obtain ⟨-, hgaps⟩ := List.forall_mem_cons.mp hgaps
      obtain ⟨hlabel, hlabels⟩ := List.forall_mem_cons.mp hlabels
      let rest : BracketCut := ⟨more, tail, hgaps, hlabels, htail⟩
      refine ⟨gap, rest.text, ?_, hlabel, rfl, rfl, rest.scanBrackets_text _⟩
      rw [BracketCut.text, spacedLabels_cons, List.append_assoc _ _ tail]
      rfl

/-- Every label that is found is one that brackets can hold, and a part of the text. -/
theorem isLabel_of_mem_labelsOf {label t : Text} (h : label ∈ labelsOf t) :
  IsLabel label ∧ label <:+: t
  := by
  obtain ⟨cut, rfl⟩ := BracketCut.exists_text_eq t
  rw [labelsOf, cut.bracketsOf_text, BracketCut.brackets, map_label_spacedBrackets] at h
  obtain ⟨piece, hpiece, rfl⟩ := List.mem_map.mp h
  use cut.labels piece hpiece
  obtain ⟨front, back, hsplit⟩ := List.append_of_mem hpiece
  use spacedLabels front ++ piece.1 ++ ['['], ']' :: (spacedLabels back ++ cut.tail)
  simp [BracketCut.text, hsplit, spacedLabels, bracketed]

/-- Every text is cut in exactly one way into labels in brackets, the gaps in front of them and a
tail, and the brackets that are found are the labels of this cut at their places. -/
theorem bracketsOf_eq_of_cut (t : Text) :
  ∃ cut : BracketCut, cut.text = t ∧ bracketsOf t = cut.brackets
    ∧ ∀ other : BracketCut, other.text = t → other = cut
  := by
  obtain ⟨cut, rfl⟩ := BracketCut.exists_text_eq t
  use cut, rfl, cut.bracketsOf_text
  intro other hother
  apply BracketCut.text_injective hother

/-- Empty brackets and a closing bracket stand in the gap, an opening bracket inside is part of the
label, and the last opening bracket is not closed. -/
example : bracketsOf "[]a][b[c]-[d" = [⟨"b[c", 4, 9⟩] := by decide

end BoxDiagram
