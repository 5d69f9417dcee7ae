import BoxDiagram.Proofs.Settings.Accepted
import BoxDiagram.Proofs.Text.Ends

/-!
# Settings that are read again

A style that was read is written as an object and read again.  Its numbers and its colours are
the same, but its font family can lose further characters: white space, single quotes and
double quotes are taken off the ends once each, in this order, and what is left may begin or
end with white space or with a single quote.  So a style is read again as it is exactly when
its family has neither white space nor a quote at its ends.
-/

namespace BoxDiagram

/-! ### Font families -/

/-- White space and quotes, which are taken off the ends of a family. -/
def isFamilyMargin (c : Char) : Bool := isSpace c || c == '\'' || c == '"'

theorem bare_isFamilyMargin_iff {t : Text} :
  t.Bare isFamilyMargin ↔ t.Bare isSpace ∧ t.Bare (· == '\'') ∧ t.Bare (· == '"')
  := by
  constructor
  · rintro ⟨hfirst, hlast⟩
    simp only [isFamilyMargin, Bool.or_eq_false_iff] at hfirst hlast
    refine ⟨⟨?_, ?_⟩, ⟨?_, ?_⟩, ⟨?_, ?_⟩⟩
    · exact fun c hc => (hfirst c hc).1.1
    · exact fun c hc => (hlast c hc).1.1
    · exact fun c hc => (hfirst c hc).1.2
    · exact fun c hc => (hlast c hc).1.2
    · exact fun c hc => (hfirst c hc).2
    · exact fun c hc => (hlast c hc).2
  · rintro ⟨hspace, hsingle, hdouble⟩
    constructor
    case first =>
      intro c hc
      rw [isFamilyMargin, hspace.first c hc, hsingle.first c hc, hdouble.first c hc]
      rfl
    case last =>
      intro c hc
      rw [isFamilyMargin, hspace.last c hc, hsingle.last c hc, hdouble.last c hc]
      rfl

/-- What is left of a family when white space, single quotes and double quotes are taken off. -/
def familyWithin (t : Text) : Text := Text.trimChar '"' (Text.trimChar '\'' t.trim)

theorem familyWithin_eq_self_iff {t : Text} :
  familyWithin t = t ↔ t.Bare isFamilyMargin
  := by
  have hspace : t.trim <:+: t := Text.trimWhere_infix isSpace t
  have hsingle : Text.trimChar '\'' t.trim <:+: t.trim := Text.trimWhere_infix (· == '\'') t.trim
  have hdouble : familyWithin t <:+: Text.trimChar '\'' t.trim :=
    Text.trimWhere_infix (· == '"') _
  rw [bare_isFamilyMargin_iff]
  constructor
  · intro h
    -- Each of the three cuts gives a piece of the text, so none of them can make it shorter.
    have hlength := congrArg List.length h
    have htrim : t.trim = t := by
      apply hspace.eq_of_length
      have := hspace.length_le
      have := hsingle.length_le
      have := hdouble.length_le
      omega
    rw [htrim] at hsingle hdouble
    have hquoted : Text.trimChar '\'' t = t := by
      apply hsingle.eq_of_length
      have := hsingle.length_le
      have := hdouble.length_le
      omega
    rw [familyWithin, htrim, hquoted] at h
    exact ⟨Text.trimWhere_eq_self_iff.mp htrim, Text.trimWhere_eq_self_iff.mp hquoted,
      Text.trimWhere_eq_self_iff.mp h⟩
  · rintro ⟨hspace, hsingle, hdouble⟩
    have htrim : t.trim = t := Text.trimWhere_eq_self_iff.mpr hspace
    have hquoted : Text.trimChar '\'' t = t := Text.trimWhere_eq_self_iff.mpr hsingle
    rw [familyWithin, htrim, hquoted]
    apply Text.trimWhere_eq_self_iff.mpr hdouble

theorem normalFamily_eq (t : Text) :
  normalFamily t
    = if (familyWithin t).isEmpty then Style.standard.fontFamily else familyWithin t
  := rfl

/-- Normalizing leaves a family as it is exactly if there is nothing to take off its ends. -/
theorem normalFamily_eq_self_iff {t : Text} (h : t ≠ []) :
  normalFamily t = t ↔ t.Bare isFamilyMargin
  := by
  rw [← familyWithin_eq_self_iff, normalFamily_eq]
  split
  · next hempty =>
    rw [List.isEmpty_iff.mp hempty]
    constructor
    · -- The usual family has nothing to take off, so nothing would not be left of it.
      rintro rfl
      contradiction
    · intro hnil
      apply absurd hnil.symm h
  · rfl

/-! ### Single values -/

theorem textOf_str (t : Text) :
  textOf (.str t) = t
  := by
  rw [textOf, Json.isMissing, Json.plainText]
  cases t <;> rfl

theorem familyOf_str (t : Text) :
  familyOf (.str t) = .ok (normalFamily t)
  := by
  rw [familyOf, textOf_str]

theorem trim_of_isColor {t : Text} (h : isColor t = true) :
  t.trim = t
  := by
  have hspace : ∀ c ∈ t, isSpace c = false := by
    intro c hc
    have hrange := toNat_of_isColor h hc
    simp [isSpace]
    omega
  apply Text.trimWhere_eq_self_iff.mpr
  constructor
  case first => exact fun c hc => hspace c (List.mem_of_mem_head? hc)
  case last => exact fun c hc => hspace c (List.mem_of_mem_getLast? hc)

theorem colorOf_str {t : Text} (h : isColor t = true) :
  colorOf (.str t) = .ok t
  := by
  rw [colorOf, textOf_str, trim_of_isColor h, if_pos h]

theorem positiveOf_float {x : Float} (h : 0.0 < x) :
  positiveOf (.float x) = .ok x
  := if_pos h

theorem distanceOf_float {x : Float} (h : 0.0 ≤ x) :
  distanceOf (.float x) = .ok x
  := if_pos h

theorem checkField_of_ok {α : Type} {fields : Fields} {name : Text} {value : Json}
    {check : Json → Except Fault α} {x : α} (usual : α) (hget : fields.get? name = some value)
    (hcheck : check value = .ok x) :
  checkField fields name usual check = ⟨x, []⟩
  := by
  rw [checkField, hget]
  simp only [hcheck]

/-! ### Styles -/

namespace Style

/-- A style that is accepted is read again, up to what is taken off the ends of its family. -/
theorem Accepted.ofFields_toFields {style : Style Float} (h : style.Accepted) :
  ofFields style.toFields = .ok { style with fontFamily := normalFamily style.fontFamily }
  := by
  have hsize := checkField_of_ok standard.fontSize
    (rfl : style.toFields.get? "font_size" = _) (positiveOf_float h.fontSize)
  have hfamily := checkField_of_ok standard.fontFamily
    (rfl : style.toFields.get? "font_family" = _) (familyOf_str style.fontFamily)
  have hmargin := checkField_of_ok standard.scopeMargin
    (rfl : style.toFields.get? "scope_margin" = _) (distanceOf_float h.scopeMargin)
  have hpadding := checkField_of_ok standard.scopePadding
    (rfl : style.toFields.get? "scope_padding" = _) (distanceOf_float h.scopePadding)
  have hcanvas := checkField_of_ok standard.canvasPadding
    (rfl : style.toFields.get? "canvas_padding" = _) (distanceOf_float h.canvasPadding)
  have hbackground := checkField_of_ok standard.backgroundColor
    (rfl : style.toFields.get? "background_color" = _) (colorOf_str h.backgroundColor)
  have hshade := checkField_of_ok standard.shadeColor
    (rfl : style.toFields.get? "shade_color" = _) (colorOf_str h.shadeColor)
  have hline := checkField_of_ok standard.lineColor
    (rfl : style.toFields.get? "line_color" = _) (colorOf_str h.lineColor)
  have hdash := checkField_of_ok standard.dashLength
    (rfl : style.toFields.get? "line_dash_length" = _) (positiveOf_float h.dashLength)
  have hspacing := checkField_of_ok standard.dashSpacing
    (rfl : style.toFields.get? "line_dash_spacing" = _) (positiveOf_float h.dashSpacing)
  have hhead := checkField_of_ok standard.headLength
    (rfl : style.toFields.get? "head_length" = _) (positiveOf_float h.headLength)
  rw [ofFields, check, hsize, hfamily, hmargin, hpadding, hcanvas, hbackground, hshade, hline,
    hdash, hspacing, hhead]
  rfl

theorem with_fontFamily_eq_self_iff (style : Style Float) (family : Text) :
  { style with fontFamily := family } = style ↔ family = style.fontFamily
  := by
  constructor
  · intro h
    apply congrArg fontFamily h
  · intro h
    rw [h]

/-- A style that was read is always accepted again, and then only its font family can differ; it is
the same style exactly if its family has neither white space nor a quote at its ends.  A colour
that was read is read again as it is, and normalizing a family once more changes nothing exactly
if there is nothing left at its ends. -/
theorem ofFields_reread {fields : Fields} {style : Style Float}
    (h : ofFields fields = .ok style) :
  ofFields style.toFields = .ok { style with fontFamily := normalFamily style.fontFamily }
    ∧ (ofFields style.toFields = .ok style ↔ style.fontFamily.Bare isFamilyMargin)
    ∧ (∀ value color, colorOf value = .ok color → colorOf (.str color) = .ok color)
    ∧ ∀ t, normalFamily (normalFamily t) = normalFamily t
      ↔ (normalFamily t).Bare isFamilyMargin
  := by
  have haccepted := accepted_ofFields h
  refine ⟨haccepted.ofFields_toFields, ?same, ?color, ?family⟩
  case same =>
    rw [haccepted.ofFields_toFields, Except.ok.injEq, with_fontFamily_eq_self_iff,
      normalFamily_eq_self_iff haccepted.fontFamily]
  case color =>
    intro value color hcolor
    apply colorOf_str (colorOf_ok hcolor)
  case family =>
    intro t
    apply normalFamily_eq_self_iff (familyOf_ok (familyOf_str t))

/-- A family in quotes and a colour with white space around it are read again as they are. -/
theorem ofFields_reread_quoted :
  let fields : Fields := [("font_family", .str " 'Open Sans' "), ("line_color", .str " #aBc ")]
  let style := { standard with fontFamily := "Open Sans", lineColor := "#aBc" }
  ofFields fields = .ok style ∧ ofFields style.toFields = .ok style
  := by
  intro fields style
  have hread : ofFields fields = .ok style := rfl
  obtain ⟨-, hsame, -⟩ := ofFields_reread hread
  use hread
  apply hsame.mpr
  constructor
  case first =>
    rintro c ⟨⟩
    rfl
  case last =>
    rintro c ⟨⟩
    rfl

/-- A family in single quotes inside double quotes keeps the single quotes, and loses them when the
style is read again. -/
theorem not_ofFields_reread_nested :
  ∃ style, ofFields [("font_family", .str ['"', '\'', 'A', '\'', '"'])] = .ok style
    ∧ ofFields style.toFields ≠ .ok style
  := by
  have hread : ofFields [("font_family", .str ['"', '\'', 'A', '\'', '"'])]
      = .ok { standard with fontFamily := ['\'', 'A', '\''] } := rfl
  use { standard with fontFamily := ['\'', 'A', '\''] }, hread
  rw [(accepted_ofFields hread).ofFields_toFields, Ne, Except.ok.injEq,
    with_fontFamily_eq_self_iff]
  decide

end Style

end BoxDiagram
