import BoxDiagram.Decimal.Reading
import BoxDiagram.Json.Printer
import BoxDiagram.Style

/-!
# Checking a style

A style is read from an object whose fields may be missing; fields of other names are left
out.  Sizes and distances are numbers, truth values, or texts that are numbers, and have to be
positive or at least not negative.  Colours are `#` and three or six hexadecimal digits with
white space around them.  A font family loses the white space and the quotes around it, and a
family of which nothing is left is the usual one.  All faults are found, in the order of the
fields.
-/

namespace BoxDiagram

/-- What is wrong with a setting. -/
inductive Fault where
  | unreadableNumber
  | notNumber
  | notPositive
  | negative
  | notColor (value : Json)
  | unknownMeasurer
  | notObject
  | unknownName

/-- The kind of a fault. -/
def Fault.kind : Fault → Text
  | .unreadableNumber => "float_parsing"
  | .notNumber => "float_type"
  | .notPositive => "greater_than"
  | .negative => "greater_than_equal"
  | .notColor _ => "value_error"
  | .unknownMeasurer => "literal_error"
  | .notObject => "model_type"
  | .unknownName => "extra_forbidden"

/-- What is said about a fault. -/
def Fault.message : Fault → Text
  | .unreadableNumber => "Input should be a valid number, unable to parse string as a number"
  | .notNumber => "Input should be a valid number"
  | .notPositive => "Input should be greater than 0"
  | .negative => "Input should be greater than or equal to 0"
  | .notColor value =>
    ("Value error, Expected a #RGB or #RRGGBB color, got " : Text) ++ value.shown
  | .unknownMeasurer => "Input should be 'pillow' or 'heuristic'"
  | .notObject => "Input should be a valid dictionary or instance of DiagramSettings"
  | .unknownName => "Extra inputs are not permitted"

/-- A fault and the names that lead to the setting. -/
structure FieldFault where
  location : List Text
  fault : Fault

/-- A setting that has been checked: its value, and the faults that were found. -/
structure Checked (α : Type) where
  value : α
  faults : List FieldFault

/-! ### Single values -/

/-- The number that a value stands for. -/
def numberOf : Json → Except Fault Float
  | .bool b => .ok (if b then 1.0 else 0.0)
  | .int n =>
    let x := (Numeral.decimal (n < 0) n.natAbs 0).toFloat
    if x.isInf then .error .notNumber else .ok x
  | .float x => .ok x
  | .str t =>
    match readLooseNumber t with
    | some n => .ok n.toFloat
    | none => .error .unreadableNumber
  | _ => .error .notNumber

/-- A value that has to be a number above zero. -/
def positiveOf (value : Json) : Except Fault Float :=
  match numberOf value with
  | .error e => .error e
  | .ok x => if 0.0 < x then .ok x else .error .notPositive

/-- A value that has to be a number from zero on. -/
def distanceOf (value : Json) : Except Fault Float :=
  match numberOf value with
  | .error e => .error e
  | .ok x => if 0.0 ≤ x then .ok x else .error .negative

/-- The text of a value; a missing one has none. -/
def textOf (value : Json) : Text := if value.isMissing then [] else value.plainText

/-- Whether a character is a hexadecimal digit. -/
def isHexDigit (c : Char) : Bool :=
  c.isDigit || ('a' ≤ c && c ≤ 'f') || ('A' ≤ c && c ≤ 'F')

/-- Whether a text is a colour. -/
def isColor : Text → Bool
  | '#' :: digits => (digits.length == 3 || digits.length == 6) && digits.all isHexDigit
  | _ => false

/-- A value that has to be a colour. -/
def colorOf (value : Json) : Except Fault Text :=
  let t := (textOf value).trim
  if isColor t then .ok t else .error (.notColor value)

/-- A family without the white space and the quotes around it. -/
def normalFamily (t : Text) : Text :=
  let family := Text.trimChar '"' (Text.trimChar '\'' t.trim)
  if family.isEmpty then Style.standard.fontFamily else family

/-- The font family that a value names. -/
def familyOf (value : Json) : Except Fault Text := .ok (normalFamily (textOf value))

/-! ### The object -/

/-- Check one field of an object, with a value for when it is missing or faulty. -/
def checkField {α : Type} (fields : Fields) (name : Text) (usual : α)
    (check : Json → Except Fault α) : Checked α :=
  match fields.get? name with
  | none => ⟨usual, []⟩
  | some value =>
    match check value with
    | .ok x => ⟨x, []⟩
    | .error fault => ⟨usual, [⟨[name], fault⟩]⟩

namespace Style

/-- The style that the fields of an object describe, and all faults in them. -/
def check (fields : Fields) : Checked (Style Float) :=
  let size := checkField fields "font_size" standard.fontSize positiveOf
  let family := checkField fields "font_family" standard.fontFamily familyOf
  let margin := checkField fields "scope_margin" standard.scopeMargin distanceOf
  let padding := checkField fields "scope_padding" standard.scopePadding distanceOf
  let canvas := checkField fields "canvas_padding" standard.canvasPadding distanceOf
  let background := checkField fields "background_color" standard.backgroundColor colorOf
  let shade := checkField fields "shade_color" standard.shadeColor colorOf
  let line := checkField fields "line_color" standard.lineColor colorOf
  let dash := checkField fields "line_dash_length" standard.dashLength positiveOf
  let spacing := checkField fields "line_dash_spacing" standard.dashSpacing positiveOf
  let head := checkField fields "head_length" standard.headLength positiveOf
  { value :=
      { fontSize := size.value, fontFamily := family.value, scopeMargin := margin.value,
        scopePadding := padding.value, canvasPadding := canvas.value,
        backgroundColor := background.value, shadeColor := shade.value, lineColor := line.value,
        dashLength := dash.value, dashSpacing := spacing.value, headLength := head.value },
    faults :=
      size.faults ++ family.faults ++ margin.faults ++ padding.faults ++ canvas.faults
        ++ background.faults ++ shade.faults ++ line.faults ++ dash.faults ++ spacing.faults
        ++ head.faults }

/-- The style that the fields of an object describe, or all faults in them. -/
def ofFields (fields : Fields) : Except (List FieldFault) (Style Float) :=
  let checked := check fields
  if checked.faults.isEmpty then .ok checked.value else .error checked.faults

/-- A style as an object. -/
def toFields (s : Style Float) : Fields :=
  [("font_size", .float s.fontSize), ("font_family", .str s.fontFamily),
   ("scope_margin", .float s.scopeMargin), ("scope_padding", .float s.scopePadding),
   ("canvas_padding", .float s.canvasPadding), ("background_color", .str s.backgroundColor),
   ("shade_color", .str s.shadeColor), ("line_color", .str s.lineColor),
   ("line_dash_length", .float s.dashLength), ("line_dash_spacing", .float s.dashSpacing),
   ("head_length", .float s.headLength)]

/-- The names of the fields of a style. -/
def fieldNames : List Text := standard.toFields.map (·.1)

end Style

end BoxDiagram
