import BoxDiagram.Proofs.Decimal.Doubles
import BoxDiagram.Proofs.Results
import BoxDiagram.Svg.Drawing

/-!
# SVG drawings that can be written

A coordinate can be written exactly if it is finite.  So a call can be drawn exactly if all
numbers that it is given are finite, and a drawing that begins with a finite size can be made
exactly if this holds of all its calls.
-/

namespace BoxDiagram

/-! ### Coordinates -/

/-- A coordinate can be written exactly if it is finite. -/
theorem succeeds_coordinateText_iff {x : Float} :
  Succeeds (coordinateText x) ↔ IsFinite x
  := by
  rw [← exists_roundFloat_iff, coordinateText]
  apply succeeds_bind_ok_iff
  intro n
  split
  · apply succeeds_ok
  · split <;> apply succeeds_ok

namespace Svg

theorem succeeds_coordinates_iff (named : List (Text × Float)) :
  Succeeds (coordinates named) ↔ ∀ x ∈ named.map Prod.snd, IsFinite x
  := by
  induction named with
  | nil => simp [coordinates, succeeds_ok]
  | cons pair named ih =>
      obtain ⟨name, x⟩ := pair
      rw [coordinates, List.map_cons, List.forall_mem_cons, ← ih, ← succeeds_coordinateText_iff]
      apply succeeds_bind_iff
      intro t
      apply succeeds_bind_ok_iff
      intro rest
      apply succeeds_ok

theorem succeeds_pointText_iff (p : Point Float) :
  Succeeds (pointText p) ↔ IsFinite p.x ∧ IsFinite p.y
  := by
  rw [pointText, ← succeeds_coordinateText_iff, ← succeeds_coordinateText_iff]
  apply succeeds_bind_iff
  intro x
  apply succeeds_bind_ok_iff
  intro y
  apply succeeds_ok

end Svg

/-- The coordinates and lengths that a call is given. -/
def Call.numbers {α : Type} : Call α → List α
  | .setSize width height => [width, height]
  | .fillBackground _ => []
  | .fillRect x y width height _ | .strokeRect x y width height _ => [x, y, width, height]
  | .fillText _ x y _ _ => [x, y]
  | .strokeLine start finish _ dash =>
    [start.x, start.y, finish.x, finish.y] ++ (dash.map fun (length, gap) => [length, gap]).getD []
  | .fillPolygon points _ | .strokePolygon points _ => points.flatMap fun p => [p.x, p.y]

namespace Svg

theorem succeeds_rectangle_iff (x y width height : Float) (fill stroke : Text) :
  Succeeds (rectangle x y width height fill stroke)
    ↔ IsFinite x ∧ IsFinite y ∧ IsFinite width ∧ IsFinite height
  := by
  apply (succeeds_bind_ok_iff fun place => succeeds_ok _).trans
  simp [succeeds_coordinates_iff]

theorem succeeds_polygon_iff (points : List (Point Float)) (fill stroke : Text) :
  Succeeds (polygon points fill stroke)
    ↔ ∀ x ∈ points.flatMap (fun p => [p.x, p.y]), IsFinite x
  := by
  apply (succeeds_bind_ok_iff fun outline => succeeds_ok _).trans
  rw [pointsText, succeeds_map_iff, succeeds_mapM_iff]
  simp only [succeeds_pointText_iff, List.forall_mem_flatMap, List.forall_mem_cons,
    List.not_mem_nil, false_implies, implies_true, and_true]

theorem succeeds_dashAttributes_iff (dash : Option (Float × Float)) :
  Succeeds (dashAttributes dash)
    ↔ ∀ x ∈ (dash.map fun (length, gap) => [length, gap]).getD [], IsFinite x
  := by
  match dash with
  | none => simp [dashAttributes, succeeds_ok]
  | some (length, gap) =>
      rw [dashAttributes, Option.map_some, Option.getD_some, List.forall_mem_cons,
        List.forall_mem_singleton, ← succeeds_coordinateText_iff, ← succeeds_coordinateText_iff]
      apply succeeds_bind_iff
      intro t
      apply succeeds_bind_ok_iff
      intro u
      apply succeeds_ok

/-- A drawing whose size is finite. -/
structure Sized (s : Svg) : Prop where
  width : IsFinite s.width
  height : IsFinite s.height

/-- On a drawing of a finite size the element of a call can be made exactly if all its numbers are
finite; setting the size adds none. -/
theorem succeeds_elementOf_iff {s : Svg} (hs : s.Sized) {call : Call Float}
    (hcall : ∀ width height, call ≠ .setSize width height) :
  Succeeds (elementOf s.width s.height call) ↔ ∀ x ∈ call.numbers, IsFinite x
  := by
  cases call with
  | setSize width height => exact absurd rfl (hcall width height)
  | fillBackground color =>
      have hzero : IsFinite 0.0 := rfl
      rw [elementOf, succeeds_map_iff, succeeds_rectangle_iff]
      simp [Call.numbers, hzero, hs.width, hs.height]
  | fillRect x y width height color | strokeRect x y width height color =>
      rw [elementOf, succeeds_map_iff, succeeds_rectangle_iff]
      simp [Call.numbers]
  | fillText text x y color font =>
      apply (succeeds_bind_ok_iff fun place => succeeds_ok _).trans
      simp [succeeds_coordinates_iff, Call.numbers]
  | strokeLine start finish color dash =>
      rw [Call.numbers, List.forall_mem_append, ← succeeds_dashAttributes_iff]
      apply (succeeds_bind_iff fun ends => succeeds_bind_ok_iff fun dashes => succeeds_ok _).trans
      simp [succeeds_coordinates_iff]
  | fillPolygon points color | strokePolygon points color =>
      rw [elementOf, succeeds_map_iff, succeeds_polygon_iff, Call.numbers]

/-- The size of a drawing can be set exactly if it is finite. -/
theorem setSize_eq_none_iff (s : Svg) (width height : Float) :
  (s.setSize width height).2 = none ↔ IsFinite width ∧ IsFinite height
  := by
  rw [← succeeds_coordinateText_iff, ← succeeds_coordinateText_iff, setSize]
  cases coordinateText width with
  | error e => simp [not_succeeds_error]
  | ok w => cases coordinateText height <;> simp [not_succeeds_error, succeeds_ok]

theorem sized_setSize (s : Svg) {width height : Float} (hwidth : IsFinite width)
    (hheight : IsFinite height) :
  (s.setSize width height).1.Sized
  := by
  rw [setSize]
  cases coordinateText width with
  | error e => exact ⟨hwidth, hheight⟩
  | ok w => cases coordinateText height <;> exact ⟨hwidth, hheight⟩

/-- A call that does not set the size is drawn exactly if its element can be made, and keeps the
size. -/
theorem draw_of_element (s : Svg) {call : Call Float}
    (hcall : ∀ width height, call ≠ .setSize width height) :
  ((s.draw call).2 = none ↔ Succeeds (elementOf s.width s.height call))
    ∧ (s.draw call).1.width = s.width ∧ (s.draw call).1.height = s.height
  := by
  rw [draw]
  · cases elementOf s.width s.height call with
    | error e => simp [not_succeeds_error]
    | ok leaf => cases leaf <;> simp [succeeds_ok]
  · apply hcall

/-- A call can be drawn on a drawing of a finite size exactly if all its numbers are finite, and
then the size is finite afterwards. -/
theorem draw_eq_none_iff {s : Svg} (hs : s.Sized) (call : Call Float) :
  ((s.draw call).2 = none ↔ ∀ x ∈ call.numbers, IsFinite x)
    ∧ ((s.draw call).2 = none → (s.draw call).1.Sized)
  := by
  by_cases hcall : ∀ width height, call ≠ .setSize width height
  · obtain ⟨hnone, hwidth, hheight⟩ := s.draw_of_element hcall
    use hnone.trans (succeeds_elementOf_iff hs hcall)
    intro _
    constructor
    · rw [hwidth]
      apply hs.width
    · rw [hheight]
      apply hs.height
  · push Not at hcall
    obtain ⟨width, height, rfl⟩ := hcall
    have hdraw : s.draw (.setSize width height) = s.setSize width height := rfl
    rw [hdraw, setSize_eq_none_iff]
    constructor
    · simp [Call.numbers]
    · rintro ⟨hwidth, hheight⟩
      apply s.sized_setSize hwidth hheight

/-- Calls can be drawn on a drawing of a finite size exactly if all their numbers are finite. -/
theorem succeeds_drawAll_iff {s : Svg} (hs : s.Sized) (calls : List (Call Float)) :
  Succeeds (s.drawAll calls) ↔ ∀ call ∈ calls, ∀ x ∈ call.numbers, IsFinite x
  := by
  induction calls generalizing s with
  | nil => simp [drawAll, succeeds_ok]
  | cons call calls ih =>
      obtain ⟨hnone, hsized⟩ := draw_eq_none_iff hs call
      rw [drawAll, List.forall_mem_cons, ← hnone]
      match hdraw : s.draw call with
      | (s', some e) => simp [not_succeeds_error]
      | (s', none) =>
          rw [hdraw] at hsized
          rw [ih (hsized rfl)]
          simp

end Svg

end BoxDiagram
