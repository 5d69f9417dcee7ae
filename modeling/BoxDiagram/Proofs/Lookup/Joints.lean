import BoxDiagram.Proofs.Layout.Sketches
import BoxDiagram.Proofs.Lookup.Spelling
import BoxDiagram.Scene
import Mathlib.Data.List.Forall2

/-!
# What connectors join

Looking up a label compares labels and paths, and never sizes or places.  So in two forests with
the same sketch a label names boxes with the same number in the walks through both.  A diagram
that is measured in another way has the same sketch; therefore the same relations are drawn, in
the same order and style, and each joins the boxes with the same two numbers.
-/

namespace BoxDiagram

open Scope

variable {α β : Type} {f : α → β}

/-! ### Looking up labels -/

theorem Box.pathLabel_map (b : Box α) :
  (b.map f).pathLabel = b.pathLabel
  := by
  rw [Box.pathLabel, Box.map_path, Box.map_label, Box.pathLabel]

theorem findSome?_congr {ι κ : Type} {g h : ι → Option κ} {is : List ι}
    (heq : ∀ i ∈ is, g i = h i) :
  is.findSome? g = is.findSome? h
  := by
  induction is with
  | nil => rfl
  | cons i is ih =>
      obtain ⟨hi, his⟩ := List.forall_mem_cons.mp heq
      rw [List.findSome?_cons, List.findSome?_cons, hi, ih his]

/-- Looking up a label does not depend on the numbers. -/
theorem boxLabelled_mapAll (boxes : List (Box α)) (label : Text) :
  boxLabelled (Box.mapAll f boxes) label = (boxLabelled boxes label).map (Box.map f)
  := by
  induction boxes using Box.forest_induction generalizing label with
  | step boxes ih =>
      have hinside : (boxes.findSome? fun a =>
            (label.after? (a.label ++ [pathSeparator])).bind
              (boxLabelled (Box.mapAll f a.boxes)))
          = boxes.findSome? fun a =>
            ((label.after? (a.label ++ [pathSeparator])).bind (boxLabelled a.boxes)).map
              (Box.map f) := by
        apply findSome?_congr
        intro a ha
        rw [Option.map_bind]
        congr 1
        funext rest
        apply ih a ha
      rw [boxLabelled_eq, boxLabelled_eq, Box.mapAll_eq_map, List.find?_map, List.findSome?_map,
        Option.map_or, List.map_findSome?]
      simp only [Function.comp_def, Box.map_label, Box.map_boxes, hinside]

theorem boxAtPath_mapAll (boxes : List (Box α)) (path : Text) :
  boxAtPath (Box.mapAll f boxes) path = (boxAtPath boxes path).map (Box.map f)
  := by
  rw [boxAtPath, Box.walkAll_mapAll, List.find?_map, boxAtPath]
  simp only [Function.comp_def, Box.pathLabel_map]

/-- What a label names at a path does not depend on the numbers. -/
theorem boxNamed_mapAll (boxes : List (Box α)) (path label : Text) :
  boxNamed (Box.mapAll f boxes) path label = (boxNamed boxes path label).map (Box.map f)
  := by
  rw [boxNamed, boxNamed, boxAtPath_mapAll, boxLabelled_mapAll]
  split
  · rfl
  · cases boxAtPath boxes path with
    | none => rfl
    | some a =>
        rw [Option.map_some]
        simp only [Box.map_boxes, boxLabelled_mapAll]
        cases boxLabelled a.boxes label <;> rfl

/-! ### The same places -/

/-- Two boxes have the same number in the walks through two forests. -/
def SamePlace (boxes : List (Box α)) (boxes' : List (Box β)) (b : Box α) (b' : Box β) : Prop :=
  ∃ i : Nat, (Box.walkAll boxes)[i]? = some b ∧ (Box.walkAll boxes')[i]? = some b'

/-- A label at a path names boxes at the same place of two forests with the same sketch, or it
names none in either. -/
theorem samePlace_boxNamed {boxes : List (Box α)} {boxes' : List (Box β)}
    (h : Box.sketchAll boxes = Box.sketchAll boxes') (path label : Text) :
  Option.Rel (SamePlace boxes boxes') (boxNamed boxes path label) (boxNamed boxes' path label)
  := by
  obtain ⟨pairs, rfl, rfl⟩ := Box.exists_pairs h
  rw [boxNamed_mapAll, boxNamed_mapAll]
  cases hpair : boxNamed pairs path label with
  | none => apply Option.Rel.none
  | some pair =>
      apply Option.Rel.some
      obtain ⟨i, hi⟩ := List.mem_iff_getElem?.mp (mem_walkAll_of_boxNamed hpair)
      use i
      rw [Box.walkAll_mapAll, Box.walkAll_mapAll, List.getElem?_map, List.getElem?_map, hi]
      constructor <;> rfl

variable [Scalar α] [Scalar β]

/-- A connector joins the boxes with two numbers in the walk through a forest. -/
def Connector.Joins (boxes : List (Box α)) (i j : Nat) (c : Connector α) : Prop :=
  ∃ a b, (Box.walkAll boxes)[i]? = some a ∧ (Box.walkAll boxes)[j]? = some b
    ∧ connectorEnds a b = (c.start, c.finish)

/-- Two connectors stand for the same relation, have the same style, and join the boxes with the
same numbers in the walks through two forests. -/
structure Connector.SameJoint (boxes : List (Box α)) (boxes' : List (Box β)) (c : Connector α)
    (c' : Connector β) : Prop where
  relation : c.relation = c'.relation
  style : c.style = c'.style
  joins : ∃ i j, c.Joins boxes i j ∧ c'.Joins boxes' i j

variable [Angular α] [Angular β] {boxes : List (Box α)} {boxes' : List (Box β)}

/-- Boxes at the same places are joined by connectors with the same joint. -/
theorem Connector.sameJoint_between {a b : Box α} {a' b' : Box β}
    (ha : SamePlace boxes boxes' a a') (hb : SamePlace boxes boxes' b b') (headLength : α)
    (headLength' : β) (relation : Relation) :
  Connector.SameJoint boxes boxes' (.between headLength relation a b)
    (.between headLength' relation a' b')
  := by
  obtain ⟨i, hi, hi'⟩ := ha
  obtain ⟨j, hj, hj'⟩ := hb
  constructor
  case relation => rfl
  case style => rfl
  case joins =>
    use i, j
    constructor
    · use a, b, hi, hj
      rfl
    · use a', b', hi', hj'
      rfl

/-- In two forests with the same sketch a relation has the same joint or is left out of both. -/
theorem sameJoint_connect (h : Box.sketchAll boxes = Box.sketchAll boxes') (headLength : α)
    (headLength' : β) (path : Text) (relation : Relation) :
  Option.Rel (Connector.SameJoint boxes boxes') (connect headLength boxes path relation)
    (connect headLength' boxes' path relation)
  := by
  have hstart := samePlace_boxNamed h path relation.start
  have hfinish := samePlace_boxNamed h path relation.finish
  rw [connect, connect]
  generalize boxNamed boxes path relation.start = start at hstart ⊢
  generalize boxNamed boxes' path relation.start = start' at hstart ⊢
  generalize boxNamed boxes path relation.finish = finish at hfinish ⊢
  generalize boxNamed boxes' path relation.finish = finish' at hfinish ⊢
  cases hstart with
  | none => apply Option.Rel.none
  | some ha =>
      cases hfinish with
      | none => apply Option.Rel.none
      | some hb =>
          apply Option.Rel.some
          apply Connector.sameJoint_between ha hb

/-- What is joined does not depend on how it is measured.  For every scope tree, two measurers and
two styles, over any two kinds of numbers,

* the two diagrams differ in nothing but their numbers;
* a label at any path names boxes with the same number in the walks through both diagrams, or it
  names none in either;
* every relation declared at any path is drawn in both or in neither, and where it is drawn it has
  the same style and joins the boxes with the same two numbers;
* so the connectors of the one diagram are those of the other, in the same order. -/
theorem connectors_sameJoint (s : Scope) (m : Measurer α) (style : Style α) (m' : Measurer β)
    (style' : Style β) :
  let scene := Scene.ofValid m style s
  let scene' := Scene.ofValid m' style' s
  Box.sketchAll scene.boxes = Box.sketchAll scene'.boxes
    ∧ (∀ path label, Option.Rel (SamePlace scene.boxes scene'.boxes)
        (boxNamed scene.boxes path label) (boxNamed scene'.boxes path label))
    ∧ (∀ path relation, Option.Rel (Connector.SameJoint scene.boxes scene'.boxes)
        (connect style.headLength scene.boxes path relation)
        (connect style'.headLength scene'.boxes path relation))
    ∧ List.Forall₂ (Connector.SameJoint scene.boxes scene'.boxes) scene.connectors
        scene'.connectors
  := by
  intro scene scene'
  have hsketch : Box.sketchAll scene.boxes = Box.sketchAll scene'.boxes :=
    Box.sketchAll_layoutBoxes m m' style.spacing style'.spacing s
  have hconnect := sameJoint_connect hsketch style.headLength style'.headLength
  refine ⟨hsketch, samePlace_boxNamed hsketch, hconnect, ?connectors⟩
  case connectors =>
    -- Both lists go through the same relations of the same scopes.
    apply List.rel_flatMap (R := Eq) (List.forall₂_refl _)
    rintro ⟨path, c⟩ _ rfl
    apply List.rel_filterMap (R := Eq) _ (List.forall₂_refl _)
    rintro relation _ rfl
    apply hconnect

end BoxDiagram
