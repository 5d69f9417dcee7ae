import BoxDiagram.Json.Basic

/-!
# Laying objects over each other

Where two sources of settings name the same field the upper one counts, except that two
objects under one name are laid over each other in turn.
-/

namespace BoxDiagram

mutual

/-- A value laid over the one that was there. -/
def overlayValue (below : Option Json) : Json → Json
  | .obj above =>
    match below with
    | some (.obj fields) => .obj (overlay fields above)
    | _ => .obj above
  | value => value

/-- The fields of one object laid over those of another. -/
def overlay (fields : Fields) : List (Text × Json) → Fields
  | [] => fields
  | (name, value) :: above =>
    overlay (fields.set name (overlayValue (fields.get? name) value)) above

end

/-- Set the field that a list of names leads to, through objects that are made as needed.  A value
on the way that is no object stays as it is. -/
def Fields.setAt (value : Json) : List Text → Fields → Fields
  | [], fields => fields
  | [name], fields => fields.set name value
  | name :: names, fields =>
    match fields.get? name with
    | none => fields.set name (.obj (setAt value names []))
    | some (.obj inner) => fields.set name (.obj (setAt value names inner))
    | some _ => fields

end BoxDiagram
