import BoxDiagram.Json.Reader
import BoxDiagram.Settings.Overlay
import BoxDiagram.Settings.Source
import BoxDiagram.Text.Case

/-!
# A reader of the environment

A variable is matched by the lower case of its name.  One variable holds the style as a JSON
text, others hold single fields of it, which are laid over the former, and one names the
measurer.  A JSON null counts as not set, and then the single fields do not count either.
-/

namespace BoxDiagram

/-- What stands in front of the names of settings. -/
def settingsMark : Text := "boxdraft_"

/-- What stands between a setting and a field of it. -/
def nestingMark : Text := "__"

/-- The variables by the lower case of their names; of two with one name the later counts. -/
def Environment.byLowerName (env : Environment) : Fields :=
  env.foldl (fun fields (name, value) => Fields.set fields name.lower (.str value)) []

/-- The pieces of a text between the places where a mark stands, at most `fuel` cuts. -/
def cutPieces (mark : Text) : Nat → Text → List Text
  | 0, t => [t]
  | fuel + 1, t =>
    match t.cutAt mark with
    | none => [t]
    | some (front, rest) => front :: cutPieces mark fuel rest

/-- The fields of one setting that have a variable of their own. -/
def nestedVariables (setting : Text) (values : Fields) : Fields :=
  values.foldl (fun fields (name, value) =>
    match name.after? (settingsMark ++ setting ++ nestingMark) with
    | none => fields
    | some rest => fields.setAt value (cutPieces nestingMark rest.length rest)) []

/-- A field name of the style that differs by case alone, if there is one. -/
def canonicalName (name : Text) : Text :=
  (Style.fieldNames.find? fun known => known.lower == name.lower).getD name

/-- An object with its names as the style has them. -/
def canonicalFields (fields : Fields) : Fields :=
  fields.foldl (fun known (name, value) => known.set (canonicalName name) value) []

/-- How many lists and objects may stand inside each other in a variable. -/
def variableRoom : Nat := 975

/-- The value of a variable that holds a setting as a JSON text. -/
def readVariable (setting t : Text) : Except EnvironmentError Json :=
  match Json.read variableRoom t with
  | .ok value => .ok value
  | .error .malformed => .error (.unreadable setting)
  | .error .listTooDeep => .error .listTooDeep
  | .error .objectTooDeep => .error .objectTooDeep

/-- The style that the environment describes, if it does. -/
def Environment.style? (env : Environment) : Except EnvironmentError (Option Json) :=
  let values := env.byLowerName
  let nested := nestedVariables "diagram" values
  match values.get? (settingsMark ++ ("diagram" : Text)) with
  | some (.str t) =>
    match readVariable "diagram" t with
    | .error e => .error e
    | .ok (.obj fields) => .ok (some (.obj (canonicalFields (overlay fields nested))))
    | .ok .null => .ok none
    | .ok value => .ok (some value)
  | _ => .ok (if nested.isEmpty then none else some (.obj (canonicalFields nested)))

/-- The settings in the environment as an object. -/
def Environment.settings (env : Environment) : Except EnvironmentError Fields :=
  match env.style? with
  | .error e => .error e
  | .ok style =>
    let style : Fields := match style with
      | some value => [("diagram", value)]
      | none => []
    match env.byLowerName.get? (settingsMark ++ ("measurer" : Text)) with
    | some value => .ok (style.set "measurer" value)
    | none => .ok style

end BoxDiagram
