import BoxDiagram.Proofs.Xml.Writing

/-!
# The characters of documents

Escaping keeps the characters that no document may hold.  So a document is refused exactly if one of
its texts, or the value of one of its attributes, has such a character.
-/

namespace BoxDiagram

namespace Xml

variable {name : Text} {attributes : Attributes}

theorem allowed_nil : Allowed [] := List.forall_mem_nil _

theorem allowed_append {t u : Text} :
  Allowed (t ++ u) ↔ Allowed t ∧ Allowed u
  := List.forall_mem_append

theorem allowed_cons {c : Char} {t : Text} :
  Allowed (c :: t) ↔ isChar c = true ∧ Allowed t
  := List.forall_mem_cons

theorem allowed_flatMap {ι : Type} {items : List ι} {f : ι → Text} :
  Allowed (items.flatMap f) ↔ ∀ item ∈ items, Allowed (f item)
  := by
  rw [Allowed, List.forall_mem_flatMap]
  rfl

/-- An escape is allowed if the character that it stands for is. -/
theorem allowed_escapeTextChar (c : Char) :
  Allowed (escapeTextChar c) ↔ isChar c = true
  := by
  rw [escapeTextChar]
  by_cases hc : c ∈ ['&', '<', '>']
  · simp only [List.mem_cons, List.not_mem_nil, or_false] at hc
    obtain rfl | rfl | rfl := hc <;> decide
  · simp only [List.mem_cons, List.not_mem_nil, or_false, not_or] at hc
    simp [hc, Allowed]

theorem allowed_escapeAttributeChar (c : Char) :
  Allowed (escapeAttributeChar c) ↔ isChar c = true
  := by
  rw [escapeAttributeChar]
  by_cases hc : c ∈ ['"', '\r', '\n', '\t']
  · simp only [List.mem_cons, List.not_mem_nil, or_false] at hc
    obtain rfl | rfl | rfl | rfl := hc <;> decide
  · simp only [List.mem_cons, List.not_mem_nil, or_false, not_or] at hc
    simp [hc, allowed_escapeTextChar]

/-- A document may hold every character of a name. -/
theorem isChar_of_isNameChar {c : Char} (h : isNameChar c = true) :
  isChar c = true
  := by
  simp only [isNameChar, isNameStart, isChar, inRanges, List.any_cons, List.any_nil,
    Bool.or_eq_true, Bool.and_eq_true, decide_eq_true_eq, Bool.false_eq_true, or_false] at h ⊢
  omega

theorem allowed_of_isName (h : isName name = true) :
  Allowed name
  := by
  intro c hc
  apply isChar_of_isNameChar (isNameChar_of_mem h c hc)

theorem allowed_attributes_text (h : ∀ named ∈ attributes, isName named.1 = true) :
  Allowed (Attributes.text attributes) ↔ ∀ named ∈ attributes, Allowed named.2
  := by
  rw [Attributes.text, allowed_flatMap]
  apply forall₂_congr
  rintro ⟨name, value⟩ hnamed
  have hname := allowed_of_isName (h _ hnamed)
  have hmarks : isChar ' ' = true ∧ isChar '=' = true ∧ isChar '"' = true := by decide
  have hvalue : Allowed (value.flatMap escapeAttributeChar) ↔ Allowed value := by
    rw [allowed_flatMap]
    apply forall₂_congr
    intro c _
    apply allowed_escapeAttributeChar
  simp [allowed_nil, allowed_cons, allowed_append, hname, hmarks, hvalue]

/-- An element has only allowed characters if the values of its attributes and its content do. -/
theorem allowed_elementText (h : WellNamed name attributes) (content : Text) :
  Allowed (elementText name attributes content)
    ↔ (∀ named ∈ attributes, Allowed named.2) ∧ Allowed content
  := by
  have hname := allowed_of_isName h.element
  have hmarks : isChar '<' = true ∧ isChar '>' = true ∧ isChar '/' = true ∧ isChar ' ' = true := by
    decide
  rw [elementText, ← allowed_attributes_text h.each]
  split
  · next hcontent =>
    rw [List.isEmpty_iff.mp hcontent]
    simp [allowed_cons, allowed_append, hname, hmarks, allowed_nil]
  · simp [allowed_cons, allowed_append, hname, hmarks, allowed_nil]

/-- An element without elements in it has only allowed characters if the values of its attributes
and its text do. -/
theorem allowed_write {leaf : Leaf} (h : WellNamed leaf.name leaf.attributes) :
  Allowed leaf.write ↔ (∀ named ∈ leaf.attributes, Allowed named.2) ∧ Allowed leaf.text
  := by
  rw [Leaf.write, allowed_elementText h, allowed_flatMap]
  simp only [allowed_escapeTextChar]
  rfl

theorem allowed_linesText (leaves : List Leaf) :
  Allowed (linesText leaves) ↔ ∀ leaf ∈ leaves, Allowed leaf.write
  := by
  have hmarks : isChar '\n' = true ∧ isChar ' ' = true := by decide
  rw [linesText]
  split
  · next hnone =>
    rw [List.isEmpty_iff.mp hnone]
    simp [allowed_nil]
  · simp [allowed_append, allowed_flatMap, allowed_cons, allowed_nil, hmarks]

/-- Only a carriage return in a text stands for itself. -/
theorem not_mem_elementText (h : WellNamed name attributes) {content : Text}
    (hcontent : '\r' ∉ content) :
  '\r' ∉ elementText name attributes content
  := by
  have hname := not_mem_of_isName h.element (c := '\r') rfl
  have hattributes := not_mem_attributes_text h.each (d := '\r') (by decide)
  rw [elementText]
  split <;> simp [hname, hattributes, hcontent]

theorem not_mem_linesText {leaves : List Leaf}
    (h : ∀ leaf ∈ leaves, WellNamed leaf.name leaf.attributes)
    (htext : ∀ leaf ∈ leaves, '\r' ∉ leaf.text) :
  '\r' ∉ linesText leaves
  := by
  have hnone : '\r' ∉ referenceChars := by decide
  have hleaf : ∀ leaf ∈ leaves, '\r' ∉ leaf.write := by
    intro leaf hleaf
    rw [Leaf.write]
    apply not_mem_elementText (h leaf hleaf)
    intro hmem
    obtain ⟨c, hc, hmem⟩ := List.mem_flatMap.mp hmem
    obtain ⟨rfl, -⟩ | hmem := mem_escapeTextChar hmem
    · apply htext leaf hleaf hc
    · apply hnone hmem
  rw [linesText]
  split
  · simp
  · simpa using hleaf

end Xml

end BoxDiagram
