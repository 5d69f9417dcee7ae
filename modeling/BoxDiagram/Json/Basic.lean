import BoxDiagram.Text.Basic

/-!
# Values of documents and settings

A value is null, a truth value, a whole number of any size, a double, a text, a list of
values or an object, whose fields keep the order in which their names first came.
-/

namespace BoxDiagram

/-- A value. -/
inductive Json where
  | null
  | bool (b : Bool)
  | int (n : Int)
  | float (x : Float)
  | str (t : Text)
  | arr (items : List Json)
  | obj (fields : List (Text × Json))
  deriving Inhabited

/-- The fields of an object. -/
abbrev Fields := List (Text × Json)

namespace Fields

/-- The value of a field. -/
def get? (fields : Fields) (name : Text) : Option Json := List.lookup name fields

/-- Set a field: a known name keeps its place, a new one comes last. -/
def set (fields : Fields) (name : Text) (value : Json) : Fields :=
  if fields.any (·.1 == name) then
    fields.map fun (n, v) => if n == name then (n, value) else (n, v)
  else fields ++ [(name, value)]

/-- Set many fields in turn. -/
def setAll (fields : Fields) (more : Fields) : Fields :=
  more.foldl (fun fields (name, value) => fields.set name value) fields

end Fields

/-- A value that is null, false, zero, or empty counts as missing. -/
def Json.isMissing : Json → Bool
  | .null => true
  | .bool b => !b
  | .int n => n == 0
  | .float x => x == 0
  | .str t => t.isEmpty
  | .arr items => items.isEmpty
  | .obj fields => fields.isEmpty

end BoxDiagram
