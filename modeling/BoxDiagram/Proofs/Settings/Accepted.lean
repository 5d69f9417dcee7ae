import BoxDiagram.Settings.Diagram

/-!
# Accepted settings

A field of a style has a value that passed its check or the usual value, and the usual values
pass their own checks.  The sizes of every style that is read are therefore positive or not
negative, its colours are colours, and its font family is not empty.
-/

namespace BoxDiagram

/-! ### Single fields -/

theorem positiveOf_ok {value : Json} {x : Float} (h : positiveOf value = .ok x) :
  0.0 < x
  := by
  rw [positiveOf] at h
  split at h
  · contradiction
  · split at h
    · next hpositive =>
        cases h
        apply hpositive
    · contradiction

theorem distanceOf_ok {value : Json} {x : Float} (h : distanceOf value = .ok x) :
  0.0 ≤ x
  := by
  rw [distanceOf] at h
  split at h
  · contradiction
  · split at h
    · next hdistance =>
        cases h
        apply hdistance
    · contradiction

theorem colorOf_ok {value : Json} {t : Text} (h : colorOf value = .ok t) :
  isColor t = true
  := by
  rw [colorOf] at h
  split at h
  · next hcolor =>
      cases h
      apply hcolor
  · contradiction

theorem toNat_of_isHexDigit {c : Char} (h : isHexDigit c = true) :
  0x30 ≤ c.toNat ∧ c.toNat < 0x7F
  := by
  simp only [isHexDigit, Char.isDigit, Bool.or_eq_true, Bool.and_eq_true, decide_eq_true_eq,
    Char.le_def, UInt32.le_iff_toNat_le, ge_iff_le] at h
  change (48 ≤ c.toNat ∧ c.toNat ≤ 57 ∨ 97 ≤ c.toNat ∧ c.toNat ≤ 102)
    ∨ 65 ≤ c.toNat ∧ c.toNat ≤ 70 at h
  omega

/-- The characters of a colour are printable characters of ASCII, and none is a space. -/
theorem toNat_of_isColor {t : Text} (h : isColor t = true) {c : Char} (hc : c ∈ t) :
  0x21 ≤ c.toNat ∧ c.toNat < 0x7F
  := by
  cases t with
  | nil => contradiction
  | cons d digits =>
      rw [isColor.eq_def] at h
      split at h
      · next digits heq =>
        obtain ⟨rfl, rfl⟩ := List.cons_eq_cons.mp heq
        obtain rfl | hc := List.mem_cons.mp hc
        · decide
        · have hdigit := List.all_eq_true.mp (Bool.and_eq_true_iff.mp h).2 c hc
          have hrange := toNat_of_isHexDigit hdigit
          omega
      · contradiction

theorem familyOf_ok {value : Json} {t : Text} (h : familyOf value = .ok t) :
  t ≠ []
  := by
  cases h
  rw [normalFamily]
  split
  · decide
  · next hfamily => simpa using hfamily

/-- A field has what its check asks for if the usual value has it, also where the field is missing
or faulty. -/
theorem checkField_value {α : Type} {p : α → Prop} {usual : α} {check : Json → Except Fault α}
    (husual : p usual) (hcheck : ∀ value x, check value = .ok x → p x) (fields : Fields)
    (name : Text) :
  p (checkField fields name usual check).value
  := by
  rw [checkField]
  split
  · apply husual
  · split
    · next x hx => apply hcheck _ x hx
    · apply husual

/-! ### Styles -/

namespace Style

/-- All fields of a style are as their checks ask. -/
structure Accepted (style : Style Float) : Prop where
  fontSize : 0.0 < style.fontSize
  fontFamily : style.fontFamily ≠ []
  scopeMargin : 0.0 ≤ style.scopeMargin
  scopePadding : 0.0 ≤ style.scopePadding
  canvasPadding : 0.0 ≤ style.canvasPadding
  backgroundColor : isColor style.backgroundColor = true
  shadeColor : isColor style.shadeColor = true
  lineColor : isColor style.lineColor = true
  dashLength : 0.0 < style.dashLength
  dashSpacing : 0.0 < style.dashSpacing
  headLength : 0.0 < style.headLength

/-- The usual style passes its own checks. -/
theorem accepted_standard :
  standard.Accepted
  := by
  constructor <;> decide

/-- Checking gives a style that would be accepted, whatever faults it finds. -/
theorem accepted_check (fields : Fields) :
  (check fields).value.Accepted
  := by
  obtain ⟨hsize, hfamily, hmargin, hpadding, hcanvas, hbackground, hshade, hline, hdash, hspacing,
    hhead⟩ := accepted_standard
  constructor
  case fontSize => apply checkField_value (p := (0.0 < ·)) hsize fun _ _ => positiveOf_ok
  case fontFamily => apply checkField_value (p := (· ≠ [])) hfamily fun _ _ => familyOf_ok
  case scopeMargin => apply checkField_value (p := (0.0 ≤ ·)) hmargin fun _ _ => distanceOf_ok
  case scopePadding => apply checkField_value (p := (0.0 ≤ ·)) hpadding fun _ _ => distanceOf_ok
  case canvasPadding => apply checkField_value (p := (0.0 ≤ ·)) hcanvas fun _ _ => distanceOf_ok
  case backgroundColor =>
    apply checkField_value (p := (isColor · = true)) hbackground fun _ _ => colorOf_ok
  case shadeColor => apply checkField_value (p := (isColor · = true)) hshade fun _ _ => colorOf_ok
  case lineColor => apply checkField_value (p := (isColor · = true)) hline fun _ _ => colorOf_ok
  case dashLength => apply checkField_value (p := (0.0 < ·)) hdash fun _ _ => positiveOf_ok
  case dashSpacing => apply checkField_value (p := (0.0 < ·)) hspacing fun _ _ => positiveOf_ok
  case headLength => apply checkField_value (p := (0.0 < ·)) hhead fun _ _ => positiveOf_ok

/-- A style that is read from fields has been accepted. -/
theorem accepted_ofFields {fields : Fields} {style : Style Float}
    (h : ofFields fields = .ok style) :
  style.Accepted
  := by
  rw [ofFields] at h
  split at h
  · cases h
    apply accepted_check
  · contradiction

/-- Every canvas padding from zero on is accepted, however great it is. -/
theorem ofFields_canvasPadding {x : Float} (h : 0.0 ≤ x) :
  ofFields [("canvas_padding", .float x)] = .ok { standard with canvasPadding := x }
  := by
  have hdistance : distanceOf (.float x) = .ok x := if_pos h
  have hget : Fields.get? [("canvas_padding", .float x)] "canvas_padding" = some (.float x) := rfl
  have hfield : checkField [("canvas_padding", .float x)] "canvas_padding"
      standard.canvasPadding distanceOf = ⟨x, []⟩ := by
    rw [checkField, hget]
    simp only [hdistance]
  simp only [ofFields, check, hfield]
  rfl

end Style

end BoxDiagram
