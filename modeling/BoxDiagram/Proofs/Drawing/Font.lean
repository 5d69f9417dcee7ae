import BoxDiagram.Excalidraw.Scene
import BoxDiagram.Proofs.Decimal.General
import BoxDiagram.Proofs.Settings.Accepted
import BoxDiagram.Proofs.Xml.Writing
import BoxDiagram.Svg.Drawing

/-!
# The font that surfaces are told

Surfaces are told the font as one text, the size and the family with a space between, and split
it again.  Whatever spaces the family has, it is found as it is, since the size has none.  The
size is found as it is written, with at most six digits: a nearest number of at most six digits.
So it is the size of the style exactly when this is a double that some decimal of at most six
digits is read as.
-/

namespace BoxDiagram.Style

variable {style : Style Float}

theorem cutAt_font (h : 0.0 < style.fontSize) :
  style.font.cutAt [' '] = some (generalText style.fontSize ++ ['p', 'x'], style.fontFamily)
  := by
  have hfront : ' ' ∉ generalText style.fontSize ++ ['p', 'x'] := by
    have hunit : Text.IsCompact ['p', 'x'] := by decide
    intro hmem
    obtain hmem | hmem := List.mem_append.mp hmem
    · apply absurd (isCompact_generalText h _ hmem).1.1 (by decide)
    · apply absurd (hunit _ hmem).1.1 (by decide)
  have hfont : style.font
      = generalText style.fontSize ++ ['p', 'x'] ++ ' ' :: style.fontFamily := by
    rw [font, List.append_assoc]
    rfl
  rw [hfont, Text.cutAt_singleton hfront]

/-- The size and the family are found as they were written. -/
theorem attributesOfFont_font (h : style.Accepted) :
  Svg.attributesOfFont style.font
    = [(("font-size" : Text), generalText style.fontSize), ("font-family", style.fontFamily)]
  := by
  have hfamily : style.fontFamily.isEmpty = false := by simpa using h.fontFamily
  rw [Svg.attributesOfFont, cutAt_font h.fontSize, Option.getD_some]
  simp only [Text.dropEnding_append, hfamily]
  rfl

theorem fontSizeOf_font (h : 0.0 < style.fontSize) {size : Numeral}
    (hsize : readNumber (generalText style.fontSize) = some size) :
  Excalidraw.fontSizeOf style.font = size.toFloat
  := by
  rw [Excalidraw.fontSizeOf, cutAt_font h]
  simp only [Text.dropEnding_append, hsize]
  rfl

/-- Surfaces find the family of every accepted style, and its size up to six digits.  They find
the size itself exactly if some decimal of at most six digits is read as it. -/
theorem font_decodes {fields : Fields} (h : ofFields fields = .ok style) :
  Svg.attributesOfFont style.font
      = [(("font-size" : Text), generalText style.fontSize), ("font-family", style.fontFamily)]
    ∧ (readNumber (generalText style.fontSize)).map Numeral.toFloat
      = some (Excalidraw.fontSizeOf style.font)
    ∧ (Excalidraw.fontSizeOf style.font = style.fontSize ↔ HasSixDigits style.fontSize)
    ∧ ∀ v, valueOf? style.fontSize = some v →
        ∃ q, number? (generalText style.fontSize) = some q ∧ IsShort q
          ∧ ∀ r, IsShort r → |v - q| ≤ |v - r|
  := by
  have haccepted := accepted_ofFields h
  obtain ⟨size, hsize, hsame⟩ := readNumber_generalText haccepted.fontSize
  have hfound := fontSizeOf_font haccepted.fontSize hsize
  refine ⟨attributesOfFont_font haccepted, ?read, ?same, ?denoted⟩
  case read => rw [hsize, hfound, Option.map_some]
  case same => rw [hfound, hsame]
  case denoted =>
    intro v hv
    obtain hinfinite | ⟨v', hv', hpos⟩ := eq_infinity_or_value_of_pos haccepted.fontSize
    · rw [hinfinite] at hv
      contradiction
    · obtain rfl := Option.some.inj (hv.symm.trans hv')
      apply number?_generalText hv hpos

/-- A family with a space in it and a size with a fraction are both found. -/
theorem font_decodes_openSans :
  ∃ style, ofFields [("font_size", .float 12.5), ("font_family", .str "Open Sans")] = .ok style
    ∧ Svg.attributesOfFont style.font
      = [(("font-size" : Text), ("12.5" : Text)), ("font-family", "Open Sans")]
    ∧ Excalidraw.fontSizeOf style.font = (12.5 : Float)
  := by
  have hfields : ofFields [("font_size", .float 12.5), ("font_family", .str "Open Sans")]
      = .ok { standard with fontSize := 12.5, fontFamily := "Open Sans" } := rfl
  obtain ⟨hattributes, -, hsize, -⟩ := font_decodes hfields
  have htext : generalText 12.5 = ("12.5" : Text) := by decide +kernel
  refine ⟨_, hfields, ?_, ?_⟩
  · rw [hattributes, htext]
  · apply hsize.mpr
    use 125, by decide, -1
    rfl

/-- A size of nine digits is not found: the digits behind the sixth are lost. -/
theorem not_font_decodes_nineDigits :
  ∃ style, ofFields [("font_size", .float 14.1234567)] = .ok style
    ∧ Excalidraw.fontSizeOf style.font ≠ style.fontSize
    ∧ Svg.attributesOfFont style.font
      = [(("font-size" : Text), ("14.1235" : Text)), ("font-family", "Georgia")]
    ∧ (readNumber "14.1235").map Numeral.toFloat ≠ some style.fontSize
  := by
  have hfields : ofFields [("font_size", .float 14.1234567)]
      = .ok { standard with fontSize := 14.1234567 } := rfl
  have hfont : font { standard with fontSize := 14.1234567 } = ("14.1235px Georgia" : Text) := by
    decide +kernel
  refine ⟨_, hfields, ?_, ?_, by decide⟩
  · rw [hfont]
    decide
  · rw [hfont]
    rfl

end BoxDiagram.Style
