import BoxDiagram.Box

/-!
# Finding boxes by label

A label is looked up among some boxes one dotted part at a time.  A box with exactly this
label comes first; otherwise the first box is taken that has the label up to a dot and below
which the rest can be found.  A relation looks in the scope that declares it, and then among
the outermost boxes.
-/

namespace BoxDiagram

variable {α : Type}

mutual

/-- The box that a label names inside one box. -/
def findInside (label : Text) : Box α → Option (Box α)
  | ⟨_, _, _, _, _, _, _, _, _, _, boxes⟩ =>
    match boxes.find? (·.label == label) with
    | some b => some b
    | none => findDotted label boxes

/-- The box that a label names by its first dotted part among some boxes, and the rest inside. -/
def findDotted (label : Text) : List (Box α) → Option (Box α)
  | [] => none
  | b :: bs =>
    match label.after? (b.label ++ [pathSeparator]) with
    | none => findDotted label bs
    | some inner =>
      match findInside inner b with
      | some found => some found
      | none => findDotted label bs

end

/-- The box that a label names among some boxes. -/
def boxLabelled (boxes : List (Box α)) (label : Text) : Option (Box α) :=
  match boxes.find? (·.label == label) with
  | some b => some b
  | none => findDotted label boxes

/-- The first box with a given path among some boxes and all boxes in them. -/
def boxAtPath (boxes : List (Box α)) (path : Text) : Option (Box α) :=
  (Box.walkAll boxes).find? (·.pathLabel == path)

/-- The box that a label names in the scope at a path, or else among the outermost boxes. -/
def boxNamed (boxes : List (Box α)) (path label : Text) : Option (Box α) :=
  if path.isEmpty then boxLabelled boxes label
  else
    let siblings := match boxAtPath boxes path with
      | some scope => scope.boxes
      | none => []
    match boxLabelled siblings label with
    | some b => some b
    | none => boxLabelled boxes label

end BoxDiagram
