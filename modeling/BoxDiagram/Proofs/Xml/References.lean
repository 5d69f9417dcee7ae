import BoxDiagram.Proofs.Document.Trimming
import BoxDiagram.Proofs.Text.Pieces
import BoxDiagram.Proofs.Xml.Reading
import Mathlib.Data.Option.Basic

/-!
# References

Whatever characters a text or the value of an attribute has, its escaped form is read back as it
is: references stand for single characters, and what is escaped has none of the characters that
begin something else.
-/

namespace BoxDiagram

/-! ### Pieces of texts -/

namespace Text

variable {c : Char} {front : Text}

/-- A text is cut at the first place of a character. -/
theorem cutAt_singleton (h : c ∉ front) (t : Text) :
  cutAt (front ++ c :: t) [c] = some (front, t)
  := by
  have hcut : cutAt (c :: t) [c] = some ([], t) := cutAt_append_left [c] t
  rw [cutAt_append_of_not_mem (List.cons_ne_nil _ _) (by simpa using h), hcut, Option.map_some,
    Prod.map_apply, List.append_nil, id]

theorem lineFeeds_of_not_mem {t : Text} (h : '\r' ∉ t) :
  FileTree.lineFeeds t = t
  := by
  induction t using FileTree.lineFeeds.induct with
  | case1 => rfl
  | case2 t ih => simp at h
  | case3 t hnot ih => simp at h
  | case4 c t h1 h2 ih =>
      rw [List.mem_cons, not_or] at h
      rw [FileTree.lineFeeds, ih h.2]
      · exact h1
      · exact h2

end Text

namespace Xml

/-! ### References -/

theorem unescape?_eq {t first : Text} {more : List Text}
    (h : t.splitWhere (· == '&') = first :: more) :
  unescape? t = (more.mapM referring?).map fun pieces => first ++ pieces.flatten
  := by
  rw [unescape?, h]
  rfl

theorem unescape?_cons {c : Char} (hc : c ≠ '&') (t : Text) :
  unescape? (c :: t) = (unescape? t).map (c :: ·)
  := by
  obtain ⟨first, more, ht⟩ := List.exists_cons_of_ne_nil (t.splitWhere_ne_nil (· == '&'))
  have hfront : ∀ d ∈ [c], (d == '&') = false := by simpa using hc
  have hct : Text.splitWhere (· == '&') (c :: t) = (c :: first) :: more :=
    Text.splitWhere_append hfront ht
  rw [unescape?_eq hct, unescape?_eq ht, Option.map_map]
  rfl

/-- A reference is read as the character that it stands for. -/
theorem unescape?_reference {name : Text} {c : Char} (hname : reference? name = some c)
    (hamp : '&' ∉ name) (hsemi : ';' ∉ name) (t : Text) :
  unescape? ('&' :: name ++ ';' :: t) = (unescape? t).map (c :: ·)
  := by
  obtain ⟨first, more, ht⟩ := List.exists_cons_of_ne_nil (t.splitWhere_ne_nil (· == '&'))
  have hfront : ∀ d ∈ name ++ [';'], (d == '&') = false := by
    intro d hd
    rw [beq_eq_false_iff_ne]
    rintro rfl
    simp [hamp] at hd
  have hsplit : Text.splitWhere (· == '&') ('&' :: name ++ ';' :: t)
      = [] :: (name ++ ';' :: first) :: more := by
    rw [List.cons_append, Text.splitWhere_cons rfl]
    have hpiece := Text.splitWhere_append hfront ht
    simpa using hpiece
  have hrefer : referring? (name ++ ';' :: first) = some (c :: first) := by
    rw [referring?, Text.cutAt_singleton hsemi]
    simp [hname]
  rw [unescape?_eq hsplit, unescape?_eq ht, List.mapM_cons, hrefer]
  cases more.mapM referring? <;> rfl

/-- A character that is escaped as itself or by a reference is read back in front of any text. -/
def Escapes (c : Char) (escaped : Text) : Prop :=
  ∀ t, unescape? (escaped ++ t) = (unescape? t).map (c :: ·)

theorem escapes_self {c : Char} (hc : c ≠ '&') :
  Escapes c [c]
  := unescape?_cons hc

theorem escapes_reference {c : Char} (name : Text) (hname : reference? name = some c)
    (hamp : '&' ∉ name) (hsemi : ';' ∉ name) :
  Escapes c ('&' :: name ++ [';'])
  := by
  intro t
  rw [List.append_assoc]
  apply unescape?_reference hname hamp hsemi

/-- A text is read back if each of its characters is. -/
theorem unescape?_flatMap {escape : Char → Text} (h : ∀ c, Escapes c (escape c)) (t : Text) :
  unescape? (t.flatMap escape) = some t
  := by
  induction t with
  | nil => rfl
  | cons c t ih => rw [List.flatMap_cons, h c, ih, Option.map_some]

theorem escapes_text (c : Char) :
  Escapes c (escapeTextChar c)
  := by
  rw [escapeTextChar]
  by_cases hamp : c = '&'
  · subst hamp
    apply escapes_reference "amp" <;> decide
  by_cases hlt : c = '<'
  · subst hlt
    apply escapes_reference "lt" <;> decide
  by_cases hgt : c = '>'
  · subst hgt
    apply escapes_reference "gt" <;> decide
  simp only [beq_iff_eq, hamp, hlt, hgt, if_false]
  apply escapes_self hamp

theorem escapes_attribute (c : Char) :
  Escapes c (escapeAttributeChar c)
  := by
  rw [escapeAttributeChar]
  by_cases hquote : c = '"'
  · subst hquote
    apply escapes_reference "quot" <;> decide
  by_cases hreturn : c = '\r'
  · subst hreturn
    apply escapes_reference "#13" <;> decide
  by_cases hfeed : c = '\n'
  · subst hfeed
    apply escapes_reference "#10" <;> decide
  by_cases htab : c = '\t'
  · subst htab
    apply escapes_reference "#09" <;> decide
  simp only [beq_iff_eq, hquote, hreturn, hfeed, htab, if_false]
  apply escapes_text

/-- The characters of the references that stand for escaped characters. -/
def referenceChars : Text := "&amp;&lt;&gt;&quot;&#13;&#10;&#09;"

/-- An escaped character of a text is itself, and neither an ampersand nor a bracket, or stands as
a reference. -/
theorem mem_escapeTextChar {c d : Char} (h : d ∈ escapeTextChar c) :
  (d = c ∧ c ∉ ['&', '<', '>']) ∨ d ∈ referenceChars
  := by
  have hamp : ("&amp;" : Text) ⊆ referenceChars := by decide
  have hlt : ("&lt;" : Text) ⊆ referenceChars := by decide
  have hgt : ("&gt;" : Text) ⊆ referenceChars := by decide
  rw [escapeTextChar] at h
  split at h
  · apply Or.inr (hamp h)
  · split at h
    · apply Or.inr (hlt h)
    · split at h
      · apply Or.inr (hgt h)
      · left
        simp_all

/-- An escaped character of an attribute is itself, and none that needs an escape, or stands as a
reference. -/
theorem mem_escapeAttributeChar {c d : Char} (h : d ∈ escapeAttributeChar c) :
  (d = c ∧ c ∉ ['"', '\r', '\n', '\t', '&', '<', '>']) ∨ d ∈ referenceChars
  := by
  have hreferences : ∀ e ∈ ['"', '\r', '\n', '\t'], escapeAttributeChar e ⊆ referenceChars := by
    simp only [List.forall_mem_cons, List.not_mem_nil, false_imp_iff, implies_true, and_true]
    decide
  by_cases hc : c ∈ ['"', '\r', '\n', '\t']
  · apply Or.inr (hreferences c hc h)
  · rw [escapeAttributeChar] at h
    simp only [List.mem_cons, List.not_mem_nil, or_false, not_or] at hc
    obtain ⟨hquote, hreturn, hfeed, htab⟩ := hc
    simp only [beq_iff_eq, hquote, hreturn, hfeed, htab, if_false] at h
    obtain ⟨rfl, hd⟩ | hd := mem_escapeTextChar h
    · left
      simp_all
    · apply Or.inr hd

/-- A character that no reference has and that needs an escape is in no escaped text. -/
theorem not_mem_escapedText {d : Char} (hd : d ∈ ['<', '>']) (t : Text) :
  d ∉ t.flatMap escapeTextChar
  := by
  have hnone : d ∉ referenceChars := by
    simp only [List.mem_cons, List.not_mem_nil, or_false] at hd
    obtain rfl | rfl := hd <;> decide
  intro h
  obtain ⟨c, -, h⟩ := List.mem_flatMap.mp h
  obtain ⟨rfl, hc⟩ | h := mem_escapeTextChar h
  · simp_all
  · apply hnone h

theorem not_mem_escapedAttribute {d : Char} (hd : d ∈ ['<', '"', '\r', '\n', '\t']) (t : Text) :
  d ∉ t.flatMap escapeAttributeChar
  := by
  have hnone : d ∉ referenceChars := by
    simp only [List.mem_cons, List.not_mem_nil, or_false] at hd
    obtain rfl | rfl | rfl | rfl | rfl := hd <;> decide
  intro h
  obtain ⟨c, -, h⟩ := List.mem_flatMap.mp h
  obtain ⟨rfl, hc⟩ | h := mem_escapeAttributeChar h
  · simp_all
  · apply hnone h

/-- The value of an attribute is read back, whatever its characters are. -/
theorem attributeValue?_escaped (value : Text) :
  attributeValue? (value.flatMap escapeAttributeChar) = some value
  := by
  have hkept : (value.flatMap escapeAttributeChar).map (fun c => if isBlank c then ' ' else c)
      = value.flatMap escapeAttributeChar := by
    apply (List.map_congr_left _).trans (List.map_id _)
    intro c hc
    split
    · next hblank =>
      simp only [isBlank, Bool.or_eq_true, beq_iff_eq] at hblank
      obtain ((rfl | rfl) | rfl) | rfl := hblank
      · rfl
      all_goals exact absurd hc (not_mem_escapedAttribute (by decide) value)
    · rfl
  rw [attributeValue?, hkept]
  apply unescape?_flatMap escapes_attribute

end Xml

end BoxDiagram
