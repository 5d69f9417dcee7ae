import BoxDiagram.Proofs.Document.Described
import BoxDiagram.Proofs.Layout.Naming
import BoxDiagram.Proofs.Layout.Rows
import BoxDiagram.Proofs.Lookup.Drawn
import BoxDiagram.Scene
import Mathlib.Algebra.Order.Ring.Rat

/-!
# Scopes as pictures

A scope is laid out in the same way wherever it is nested.  The boxes in a box that is made
from a scope are a copy of the diagram of that scope alone: their paths begin with the path of
the box, their places on the canvas are moved, and nothing else changes.  Where sums are exact
all places are moved by the same way, so the boxes of a scope that is listed several times are
moved copies of one picture.
-/

namespace BoxDiagram

open Scope

variable {α : Type}

/-! ### Copies -/

mutual

/-- A copy of a box and of all boxes in it, with other paths and other places on the canvas. -/
def Box.copy (path : Text → Text) (place : Point α → Point α) : Box α → Box α
  | ⟨label, front, x, y, width, height, rightAligned, inner, left, top, boxes⟩ =>
    let point := place ⟨left, top⟩
    { label, path := path front, x, y, width, height, rightAligned, inner,
      left := point.x, top := point.y, boxes := Box.copyAll path place boxes }

/-- Copies of boxes, with other paths and other places on the canvas. -/
def Box.copyAll (path : Text → Text) (place : Point α → Point α) : List (Box α) → List (Box α)
  | [] => []
  | b :: boxes => Box.copy path place b :: Box.copyAll path place boxes

end

variable {path path' : Text → Text} {place place' : Point α → Point α}

theorem Box.copy_eq (b : Box α) :
  b.copy path place
    = { b with
        path := path b.path, left := (place ⟨b.left, b.top⟩).x, top := (place ⟨b.left, b.top⟩).y,
        boxes := Box.copyAll path place b.boxes }
  := by
  cases b
  rw [Box.copy]

theorem Box.copyAll_eq_map (boxes : List (Box α)) :
  Box.copyAll path place boxes = boxes.map (Box.copy path place)
  := by
  induction boxes with
  | nil => rfl
  | cons b boxes ih => rw [Box.copyAll, ih, List.map_cons]

/-- A copy of a copy is a copy. -/
theorem Box.copyAll_copyAll (boxes : List (Box α)) :
  Box.copyAll path place (Box.copyAll path' place' boxes)
    = Box.copyAll (path ∘ path') (place ∘ place') boxes
  := by
  induction boxes using Box.forest_induction with
  | step boxes ih =>
      rw [Box.copyAll_eq_map, Box.copyAll_eq_map, Box.copyAll_eq_map, List.map_map]
      apply List.map_congr_left
      intro b hb
      rw [Function.comp_apply, Box.copy_eq, Box.copy_eq b, Box.copy_eq b, ih b hb]
      rfl

/-! ### Laying out copies -/

variable [Scalar α] {m : Measurer α} {sp : Spacing α}

theorem contentSize_copyAll (margin : α) (boxes : List (Box α)) :
  contentSize margin (Box.copyAll path place boxes) = contentSize margin boxes
  := by
  rw [contentSize, Box.copyAll_eq_map, List.foldl_map, List.foldl_map, contentSize]
  simp only [Box.copy_eq]

theorem rowHeight_copyAll (boxes : List (Box α)) :
  rowHeight (Box.copyAll path place boxes) = rowHeight boxes
  := by
  rw [rowHeight, Box.copyAll_eq_map, List.foldl_map, rowHeight]
  simp only [Box.copy_eq]

theorem slideRight_copyAll (margin edge : α) (boxes : List (Box α)) :
  slideRight margin edge (Box.copyAll path place boxes)
    = (Box.copyAll path place (slideRight margin edge boxes).1, (slideRight margin edge boxes).2)
  := by
  induction boxes with
  | nil => rfl
  | cons b boxes ih =>
      rw [Box.copyAll, slideRight_cons, slideRight_cons, ih, Box.copy_eq b]
      split
      · rw [Box.copyAll, Box.copy_eq]
      · rw [Box.copyAll, Box.copy_eq]

variable {front : Text} {nested : Text → Option (List (Box α))}

/-- A box that is made from copies is a copy. -/
theorem boxFor_copyAll (label : Text) (x y : α) (right : Bool)
    (boxes : Option (List (Box α))) :
  boxFor m sp (path front) label x y right (boxes.map (Box.copyAll path id))
    = (boxFor m sp front label x y right boxes).copy path id
  := by
  cases boxes with
  | none => rfl
  | some boxes =>
      rw [Option.map_some, boxFor, contentSize_copyAll, boxFor, Box.copy]
      rfl

theorem packRow_copyAll (x y : α) (labels : List (Text × Bool)) :
  packRow m sp (path front) (fun label => (nested label).map (Box.copyAll path id)) x y labels
    = (Box.copyAll path id (packRow m sp front nested x y labels).1,
      (packRow m sp front nested x y labels).2)
  := by
  induction labels generalizing x with
  | nil => rfl
  | cons label labels ih =>
      obtain ⟨label, right⟩ := label
      rw [packRow, packRow, boxFor_copyAll, ih, Box.copyAll, Box.copy_eq]

theorem packRows_copyAll (y edge : α) (rows : List Row) :
  packRows m sp (path front) (fun label => (nested label).map (Box.copyAll path id)) y edge rows
    = ((packRows m sp front nested y edge rows).1.map (Box.copyAll path id),
      (packRows m sp front nested y edge rows).2)
  := by
  induction rows generalizing y edge with
  | nil => rfl
  | cons row rows ih =>
      have hempty : ∀ boxes : List (Box α),
          (Box.copyAll path id boxes).isEmpty = boxes.isEmpty := by
        intro boxes
        cases boxes <;> rfl
      simp only [packRows_cons, packRow_copyAll, hempty, rowHeight_copyAll, ih, List.map_cons]

/-- Rows of boxes that are made from copies are copies. -/
theorem arrange_copyAll (rows : List Row) :
  arrange m sp (path front) (fun label => (nested label).map (Box.copyAll path id)) rows
    = Box.copyAll path id (arrange m sp front nested rows)
  := by
  simp only [arrange, packRows_copyAll]
  rw [Box.copyAll_eq_map, List.map_flatMap, List.flatMap_map]
  congr 1
  funext boxes
  rw [slideRight_copyAll, Box.copyAll_eq_map]

/-- Copies of the boxes of a scope are made from its rows and copies of the boxes of the scopes
nested in it. -/
theorem copyAll_scopeBoxes (s : Scope) :
  Box.copyAll path id (scopeBoxes m sp front s)
    = arrange m sp (path front)
        (fun label => (s.nested? label).map fun d =>
          Box.copyAll path id (scopeBoxes m sp (pathBelow front label) d))
        (s.layout.getD [])
  := by
  rw [scopeBoxes_eq, ← arrange_copyAll]
  congr 1
  funext label
  rw [Option.map_map]
  rfl

variable (m sp) in
/-- But for their paths, the boxes of a scope do not depend on the path of the scope. -/
theorem copyAll_scopeBoxes_anywhere (front front' : Text) (s : Scope) :
  Box.copyAll (fun _ => []) id (scopeBoxes m sp front s)
    = Box.copyAll (fun _ => []) id (scopeBoxes m sp front' s)
  := by
  induction s using tree_induction generalizing front front' with
  | step s ih =>
      rw [copyAll_scopeBoxes, copyAll_scopeBoxes]
      congr 1
      funext label
      cases hd : s.nested? label with
      | none => rfl
      | some d =>
          rw [Option.map_some, Option.map_some,
            ih d (List.mem_of_find?_eq_some hd) _ (pathBelow front' label)]

/-- A path in the diagram of a scope alone, where the scope is nested at a given path. -/
def pathWithin (front path : Text) : Text := if path.isEmpty then front else pathBelow front path

theorem pathWithin_pathBelow {front path label : Text} (h : path ≠ [] ∨ label ≠ []) :
  pathWithin front (pathBelow path label) = pathBelow (pathWithin front path) label
  := by
  cases front <;> cases path <;> cases label <;> simp_all [pathWithin, pathBelow]

/-- The boxes of a nested scope are those of the scope alone, at paths that begin with its own. -/
theorem scopeBoxes_pathWithin (front : Text) {path : Text} {s : Scope}
    (h : path ≠ [] ∨ s.nested? [] = none) :
  scopeBoxes m sp (pathWithin front path) s
    = Box.copyAll (pathWithin front) id (scopeBoxes m sp path s)
  := by
  induction s using tree_induction generalizing path with
  | step s ih =>
      rw [copyAll_scopeBoxes, scopeBoxes_eq]
      congr 1
      funext label
      cases hd : s.nested? label with
      | none => rfl
      | some d =>
          have hlabel : path ≠ [] ∨ label ≠ [] := by
            apply h.imp_right
            rintro hnone rfl
            rw [hnone] at hd
            contradiction
          have hbelow : pathBelow path label ≠ [] := by
            cases path <;> cases label <;> simp_all [pathBelow]
          rw [Option.map_some, Option.map_some, ← pathWithin_pathBelow hlabel,
            ih d (List.mem_of_find?_eq_some hd) (Or.inl hbelow)]

/-! ### Placing copies -/

/-- The boxes of a placed forest are copies of the boxes of the forest. -/
theorem copyAll_placeBoxes (start : Point α) (boxes : List (Box α)) :
  Box.copyAll path (fun _ => .origin) (placeBoxes start boxes)
    = Box.copyAll path (fun _ => .origin) boxes
  := by
  induction boxes using Box.forest_induction generalizing start with
  | step boxes ih =>
      rw [placeBoxes_eq_map, Box.copyAll_eq_map, Box.copyAll_eq_map, List.map_map]
      apply List.map_congr_left
      intro b hb
      rw [Function.comp_apply, Box.copy_eq, Box.copy_eq b, placeBox_eq, ih b hb]

/-- Copies at other paths are placed as the boxes are. -/
theorem placeBoxes_copyAll (start : Point α) (boxes : List (Box α)) :
  placeBoxes start (Box.copyAll path id boxes) = Box.copyAll path id (placeBoxes start boxes)
  := by
  induction boxes using Box.forest_induction generalizing start with
  | step boxes ih =>
      rw [placeBoxes_eq_map, placeBoxes_eq_map, Box.copyAll_eq_map, Box.copyAll_eq_map,
        List.map_map, List.map_map]
      apply List.map_congr_left
      intro b hb
      rw [Function.comp_apply, Function.comp_apply, Box.copy_eq, Box.copy_eq, placeBox_eq,
        placeBox_eq, Box.content, Box.content, ih b hb]
      rfl

variable (α) in
/-- Sums are exact: they may be taken in any order, and a difference is what is missing. -/
structure Scalar.ExactSums : Prop where
  add_assoc : ∀ a b c : α, a + b + c = a + (b + c)
  add_comm : ∀ a b : α, a + b = b + a
  add_sub_self : ∀ a b : α, a + (b - a) = b

theorem Rat.exactSums :
  Scalar.ExactSums ℚ
  where
  add_assoc := add_assoc
  add_comm := add_comm
  add_sub_self := add_sub_cancel

theorem Scalar.ExactSums.add_right_comm (h : Scalar.ExactSums α) (a b c : α) :
  a + b + c = a + c + b
  := by
  rw [h.add_assoc, h.add_comm b, h.add_assoc]

/-- Where sums are exact, boxes that start elsewhere are moved copies. -/
theorem placeBoxes_shift (h : Scalar.ExactSums α) (start way : Point α) (boxes : List (Box α)) :
  placeBoxes (start.shift way) boxes = Box.copyAll id (Point.shift · way) (placeBoxes start boxes)
  := by
  induction boxes using Box.forest_induction generalizing start with
  | step boxes ih =>
      rw [placeBoxes_eq_map, placeBoxes_eq_map, Box.copyAll_eq_map, List.map_map]
      apply List.map_congr_left
      intro b hb
      have hcontent : b.content (start.shift way) = (b.content start).shift way := by
        simp only [Box.content, Point.shift, h.add_right_comm _ way.x, h.add_right_comm _ way.y]
      rw [Function.comp_apply, placeBox_eq, hcontent, ih b hb, Box.copy_eq, placeBox_eq]
      simp only [Point.shift, h.add_right_comm _ way.x, h.add_right_comm _ way.y, id_eq]

/-! ### Nested scopes -/

/-- Where the content of a box begins on the canvas. -/
def Box.contentOrigin (b : Box α) : Point α := ⟨b.left + b.inner.x, b.top + b.inner.y⟩

/-- The way from the content of a diagram to the content of a box. -/
def contentShift (sp : Spacing α) (b : Box α) : Point α :=
  ⟨b.contentOrigin.x - sp.canvasPadding, b.contentOrigin.y - sp.canvasPadding⟩

variable {root c s : Scope} {siblings siblings' : List (Box α)} {b b' : Box α}

/-- The boxes in a box that is made from a scope are the boxes of the scope, placed at its
content. -/
theorem Drawn.boxes_eq (h : Drawn root (layoutBoxes m sp root) front c siblings)
    (hb : b ∈ siblings) (hs : c.nested? b.label = some s) :
  b.boxes = placeBoxes b.contentOrigin (scopeBoxes m sp b.pathLabel s)
  := by
  have hpath := h.path_of_mem hb
  obtain ⟨start, rfl⟩ := h.placed
  obtain ⟨a, ha, rfl⟩ := mem_placeBoxes.mp hb
  rw [placeBox_label] at hs
  rw [Box.pathLabel, hpath, placeBox_boxes, boxes_of_mem_scopeBoxes ha, hs, placeBox_label,
    Box.contentOrigin, placeBox_left, placeBox_top, placeBox_inner]
  rfl

/-- A box that is made from a scope has its content below its caption. -/
theorem Drawn.inner_eq (h : Drawn root (layoutBoxes m sp root) front c siblings)
    (hb : b ∈ siblings) (hs : c.nested? b.label = some s) :
  b.inner = ⟨0, (captionSize m sp b.label).height⟩
  := by
  obtain ⟨start, rfl⟩ := h.placed
  have hmade := (madeFrom_of_mem hb).2
  rw [hs] at hmade
  apply hmade.container_size.2

variable (m sp s b) in
/-- But for their paths, the boxes in a box are the diagram of a scope. -/
structure Box.Pictures : Prop where
  /-- But for paths and places they are the boxes of the scope alone. -/
  alike : Box.copyAll (fun _ => []) (fun _ => .origin) b.boxes
    = Box.copyAll (fun _ => []) (fun _ => .origin) (layoutBoxes m sp s)
  /-- Where sums are exact, all of them are moved by the same way. -/
  places : Scalar.ExactSums α → Box.copyAll (fun _ => []) id b.boxes
    = Box.copyAll (fun _ => []) (Point.shift · (contentShift sp b)) (layoutBoxes m sp s)

variable (m sp s b) in
/-- The boxes in a box are the diagram of a scope, at paths that begin with the path of the box. -/
structure Box.PicturesBelow : Prop where
  /-- But for places they are the boxes of the scope alone, with the path of the box before each
  path. -/
  paths : Box.copyAll id (fun _ => .origin) b.boxes
    = Box.copyAll (pathWithin b.pathLabel) (fun _ => .origin) (layoutBoxes m sp s)
  /-- Where sums are exact, they are a moved copy of the diagram of the scope. -/
  moved : Scalar.ExactSums α → b.boxes
    = Box.copyAll (pathWithin b.pathLabel) (Point.shift · (contentShift sp b)) (layoutBoxes m sp s)

/-- Where sums are exact, the content of a diagram is moved to the content of a box. -/
theorem shift_contentShift (hsums : Scalar.ExactSums α) (b : Box α) :
  (⟨sp.canvasPadding, sp.canvasPadding⟩ : Point α).shift (contentShift sp b) = b.contentOrigin
  := by
  rw [Point.shift, contentShift, hsums.add_sub_self, hsums.add_sub_self]

/-- A box is a picture of a scope when its boxes are the boxes of the scope at its path and its
content. -/
theorem Box.pictures_of_boxes_eq
    (h : b.boxes = placeBoxes b.contentOrigin (scopeBoxes m sp b.pathLabel s)) :
  b.Pictures m sp s
  := by
  constructor
  case alike =>
    have hsame := congrArg (Box.copyAll id fun _ => .origin)
      (copyAll_scopeBoxes_anywhere m sp b.pathLabel [] s)
    rw [Box.copyAll_copyAll, Box.copyAll_copyAll] at hsame
    rw [h, layoutBoxes, copyAll_placeBoxes, copyAll_placeBoxes]
    apply hsame
  case places =>
    intro hsums
    rw [h, layoutBoxes, ← placeBoxes_copyAll, copyAll_scopeBoxes_anywhere m sp _ [],
      ← shift_contentShift hsums, placeBoxes_shift hsums, placeBoxes_copyAll, Box.copyAll_copyAll]
    rfl

/-- The paths begin with the path of the box if no scope nested in the scope has an empty label. -/
theorem Box.picturesBelow_of_boxes_eq
    (h : b.boxes = placeBoxes b.contentOrigin (scopeBoxes m sp b.pathLabel s))
    (hlabel : s.nested? [] = none) :
  b.PicturesBelow m sp s
  := by
  have hwithin : scopeBoxes m sp b.pathLabel s
      = Box.copyAll (pathWithin b.pathLabel) id (scopeBoxes m sp [] s) := by
    rw [← scopeBoxes_pathWithin b.pathLabel (Or.inr hlabel)]
    rfl
  constructor
  case paths =>
    rw [h, layoutBoxes, copyAll_placeBoxes, copyAll_placeBoxes, hwithin, Box.copyAll_copyAll]
    rfl
  case moved =>
    intro hsums
    rw [h, layoutBoxes, hwithin, ← shift_contentShift hsums, placeBoxes_shift hsums,
      placeBoxes_copyAll, Box.copyAll_copyAll]
    rfl

omit [Scalar α] in
/-- In a settled diagram no scope that boxes are drawn for has an empty label nested in it. -/
theorem Drawn.nested?_nil_eq_none {boxes : List (Box α)} (hroot : Settled root.nested)
    (h : Drawn root boxes front c siblings) :
  c.nested? [] = none
  := by
  have hsettled : Settled c.nested := hroot.of_mem_withPaths h.mem_withPaths
  rw [Scope.nested?, List.find?_eq_none]
  intro d hd
  have hlabel := hsettled.label_ne_nil d hd
  simpa using hlabel

/-- A box that is made from a nested scope holds the diagram of that scope, as it is laid out
alone: the same boxes, and, where sums are exact, moved to the content of the box.  Their paths
begin with the path of the box if no scope nested in the scope has an empty label, and no scope of a
text has.  All boxes for one scope hold moved copies of one picture. -/
theorem layoutBoxes_compositional (h : Drawn root (layoutBoxes m sp root) front c siblings)
    (hb : b ∈ siblings) (hs : c.nested? b.label = some s) :
  b.Pictures m sp s
    ∧ (s.nested? [] = none → b.PicturesBelow m sp s)
    ∧ (∀ t, root = ofText t → s.nested? [] = none)
    ∧ (Scalar.ExactSums α → ∀ siblings', Drawn root (layoutBoxes m sp root) front c siblings' →
      ∀ b' ∈ siblings', b'.label = b.label →
        b'.boxes = Box.copyAll id (Point.shift · ⟨b'.left - b.left, b'.top - b.top⟩) b.boxes)
  := by
  have hboxes := h.boxes_eq hb hs
  refine ⟨Box.pictures_of_boxes_eq hboxes, Box.picturesBelow_of_boxes_eq hboxes, ?_, ?_⟩
  · rintro t rfl
    apply (h.nested hb hs).nested?_nil_eq_none (settled_ofText t)
  · intro hsums siblings' h' b' hb' hlabel
    have hs' : c.nested? b'.label = some s := by rw [hlabel, hs]
    have hpath : b'.pathLabel = b.pathLabel := by
      rw [Box.pathLabel, h'.path_of_mem hb', hlabel, Box.pathLabel, h.path_of_mem hb]
    have hinner : b'.inner = b.inner := by
      rw [h'.inner_eq hb' hs', hlabel, h.inner_eq hb hs]
    have hcontent : b'.contentOrigin
        = b.contentOrigin.shift ⟨b'.left - b.left, b'.top - b.top⟩ := by
      simp only [Box.contentOrigin, Point.shift, hinner, hsums.add_right_comm _ _ (_ - _),
        hsums.add_sub_self]
    rw [h'.boxes_eq hb' hs', hboxes, hpath, hcontent, placeBoxes_shift hsums]

/-- A scope that is listed on both sides of a row of another nested scope. -/
theorem layoutBoxes_compositional_sides :
  let pair : Scope := ⟨"pair", some [⟨["x"], ["y"]⟩], none, [], []⟩
  let outer : Scope :=
    ⟨"outer", some [⟨["pair"], ["pair"]⟩, ⟨["yyyyyyyyyyyyyyyyyyyy"], []⟩], none, [pair], []⟩
  let root : Scope := ⟨[], some [⟨["outer"], []⟩], none, [outer], []⟩
  let boxes := layoutBoxes Measurer.unit Spacing.unit root
  ∃ a b b', boxAt? boxes [0] = some a ∧ boxAt? boxes [0, 0] = some b ∧ boxAt? boxes [0, 1] = some b'
    ∧ b'.left - b.left = 13 ∧ b'.top - b.top = 0
    ∧ Drawn root boxes "outer" outer a.boxes ∧ b ∈ a.boxes ∧ outer.nested? b.label = some pair
    ∧ b.Pictures Measurer.unit Spacing.unit pair
    ∧ b.PicturesBelow Measurer.unit Spacing.unit pair
    ∧ b'.boxes = Box.copyAll id (Point.shift · ⟨13, 0⟩) b.boxes
  := by
  intro pair outer root boxes
  have houter : (boxAt? boxes [0]).map (·.label) = some ("outer" : Text) := by decide +kernel
  have hleft : (boxAt? boxes [0, 0]).map (fun b => (b.label, b.left, b.top))
      = some (("pair" : Text), 3, 6) := by decide +kernel
  have hright : (boxAt? boxes [0, 1]).map (fun b => (b.label, b.left, b.top))
      = some (("pair" : Text), 16, 6) := by decide +kernel
  obtain ⟨a, ha, halabel⟩ := Option.map_eq_some_iff.mp houter
  obtain ⟨b, hb, hbplace⟩ := Option.map_eq_some_iff.mp hleft
  obtain ⟨b', hb', hbplace'⟩ := Option.map_eq_some_iff.mp hright
  obtain ⟨hblabel, hbleft, hbtop⟩ : b.label = ("pair" : Text) ∧ b.left = 3 ∧ b.top = 6 := by
    simpa using hbplace
  obtain ⟨hblabel', hbleft', hbtop'⟩ : b'.label = ("pair" : Text) ∧ b'.left = 16 ∧ b'.top = 6 := by
    simpa using hbplace'
  have hx : b'.left - b.left = 13 := by rw [hbleft', hbleft]; norm_num
  have hy : b'.top - b.top = 0 := by rw [hbtop', hbtop]; norm_num
  have hfirst : boxes[0]? = some a := ha
  have hmem : a ∈ boxes := List.mem_of_getElem? hfirst
  have hinside : ∀ {i : Nat} {d : Box ℚ}, boxAt? boxes [0, i] = some d → d ∈ a.boxes := by
    intro i d hd
    obtain ⟨a', ha', hd⟩ := boxAt?_cons.mp hd
    obtain rfl := Option.some.inj (hfirst.symm.trans ha')
    apply List.mem_of_getElem? (i := i)
    simpa [boxAt?] using hd
  have hdrawn : Drawn root boxes "outer" outer a.boxes := by
    have houterScope : root.nested? a.label = some outer := by
      rw [halabel]
      rfl
    have h := Drawn.root.nested hmem houterScope
    rwa [halabel] at h
  have hpair : outer.nested? b.label = some pair := by
    rw [hblabel]
    rfl
  obtain ⟨hpictures, hbelow, -, hcopies⟩ := layoutBoxes_compositional hdrawn (hinside hb) hpair
  use a, b, b', ha, hb, hb', hx, hy, hdrawn, hinside hb, hpair, hpictures, hbelow rfl
  have hmoved := hcopies Rat.exactSums a.boxes hdrawn b' (hinside hb') (by rw [hblabel', hblabel])
  rwa [hx, hy] at hmoved

/-- A scope with an empty label is nested in another one: the path of the box in it is `A.`, not the
path of the box `A` alone.  And a scope is listed twice: its relation is drawn in the first box
only. -/
theorem not_layoutBoxes_compositional_unlabelled :
  let s : Scope := ⟨"A", some [⟨[[]], []⟩], none, [⟨[], some [⟨["x"], []⟩], none, [], []⟩], []⟩
  let root : Scope := ⟨[], some [⟨["A"], []⟩], none, [s], []⟩
  let twice : Scope := .ofText "layout:\n[p]\n[p]\n[p]:\nlayout:\n[x][y]\nrelations:\n[x]->[y]\n"
  let style : Style ℚ := ⟨14, "Georgia", 1, 1, 1, "white", "silver", "black", 5, 3, 10⟩
  let _angular : Angular ℚ := ⟨fun _ _ => 0, fun _ => 0, fun _ => 1, 0⟩
  let scene := Scene.ofValid Measurer.unit style twice
  (∃ b ∈ layoutBoxes Measurer.unit Spacing.unit root,
      root.nested? b.label = some s ∧ b.pathLabel = "A"
        ∧ (Box.walkAll b.boxes).map (·.path) = [("A" : Text), "A."]
        ∧ (Box.walkAll (layoutBoxes Measurer.unit Spacing.unit s)).map (·.path) = [[], []])
    ∧ twice.hasErrors = false ∧ scene.boxes.map (·.label) = [("p" : Text), "p"]
    ∧ scene.connectors.length = 1
  := by
  intro s root twice style _angular scene
  refine ⟨?_, by decide +kernel, by decide +kernel, by decide +kernel⟩
  have hbox : (layoutBoxes Measurer.unit Spacing.unit root).map
        (fun b => (b.label, b.pathLabel, (Box.walkAll b.boxes).map (·.path)))
      = [(("A" : Text), ("A" : Text), [("A" : Text), "A."])] := by
    decide +kernel
  have halone : (Box.walkAll (layoutBoxes Measurer.unit Spacing.unit s)).map (·.path)
      = [[], []] := by
    decide +kernel
  obtain ⟨b, rest, hboxes, hb, -⟩ := List.map_eq_cons_iff.mp hbox
  simp only [Prod.mk.injEq] at hb
  obtain ⟨hlabel, hpath, hpaths⟩ := hb
  use b
  rw [hboxes, hlabel]
  use List.mem_cons_self, rfl, hpath, hpaths

end BoxDiagram
