import BoxDiagram.Excalidraw.Scene
import BoxDiagram.Proofs.Layout.Rows
import Mathlib.Order.Bounds.Defs

/-!
# Lines in exact numbers

A line is kept by its place, the points relative to that, and how far they extend.  Over exact
numbers the points, moved to the place of the line, are the points that were asked for.
-/

namespace BoxDiagram

namespace Excalidraw

/-- Going through a list and keeping one of two values each time ends with a value of the list
that bounds all of them. -/
theorem foldl_pick {β : Type} {pick : β → β → β} {r : β → β → Prop} (hrefl : ∀ a, r a a)
    (htrans : ∀ a b c, r a b → r b c → r a c) (hpick : ∀ a b, pick a b = a ∨ pick a b = b)
    (hleft : ∀ a b, r a (pick a b)) (hright : ∀ a b, r b (pick a b)) (a : β) (as : List β) :
  as.foldl pick a ∈ a :: as ∧ ∀ v ∈ a :: as, r v (as.foldl pick a)
  := by
  induction as generalizing a with
  | nil =>
      rw [List.foldl_nil]
      use List.mem_cons_self
      intro v hv
      rw [List.mem_singleton.mp hv]
      apply hrefl
  | cons b as ih =>
      obtain ⟨hmem, hbound⟩ := ih (pick a b)
      obtain ⟨hkept, hbounds⟩ := List.forall_mem_cons.mp hbound
      rw [List.foldl_cons]
      constructor
      · obtain hend | hend := List.mem_cons.mp hmem
        · rw [hend]
          obtain h | h := hpick a b <;>
          · rw [h]
            simp
        · apply List.mem_cons_of_mem _ (List.mem_cons_of_mem _ hend)
      · rw [List.forall_mem_cons, List.forall_mem_cons]
        use htrans _ _ _ (hleft a b) hkept, htrans _ _ _ (hright a b) hkept, hbounds

theorem isGreatest_foldl_larger (a : ℚ) (as : List ℚ) :
  IsGreatest {v | v ∈ a :: as} (as.foldl larger a)
  := by
  apply foldl_pick (r := (· ≤ ·)) le_refl (fun _ _ _ => le_trans) _ le_larger_left le_larger_right
  intro a b
  rw [larger]
  split
  · apply Or.inr rfl
  · apply Or.inl rfl

theorem isLeast_foldl_smaller (a : ℚ) (as : List ℚ) :
  IsLeast {v | v ∈ a :: as} (as.foldl smaller a)
  := by
  apply foldl_pick (r := (· ≥ ·)) le_refl (fun _ _ _ => ge_trans)
  all_goals
    intro a b
    rw [smaller]
    split
  · apply Or.inr rfl
  · apply Or.inl rfl
  · linarith
  · apply le_refl
  · apply le_refl
  · linarith

/-- The distance from the least to the greatest of some numbers. -/
def IsExtent (values : List ℚ) (d : ℚ) : Prop :=
  ∃ least greatest, IsLeast {v | v ∈ values} least ∧ IsGreatest {v | v ∈ values} greatest
    ∧ d = greatest - least

theorem isExtent_extent {values : List ℚ} (h : values ≠ []) :
  IsExtent values (extent values)
  := by
  cases values with
  | nil => contradiction
  | cons a as =>
      refine ⟨_, _, isLeast_foldl_smaller a as, isGreatest_foldl_larger a as, rfl⟩

/-- Measuring some numbers from one of them, or from any other, does not change their extent. -/
theorem isExtent_extent_sub {β : Type} {items : List β} (h : items ≠ []) (f : β → ℚ) (c : ℚ) :
  IsExtent (items.map f) (extent (items.map fun item => f item - c))
  := by
  have hne : items.map (fun item => f item - c) ≠ [] := by simpa using h
  obtain ⟨least, greatest, ⟨hleast, hlower⟩, ⟨hgreatest, hupper⟩, hextent⟩ := isExtent_extent hne
  obtain ⟨v, hv, rfl⟩ := List.mem_map.mp hleast
  obtain ⟨w, hw, rfl⟩ := List.mem_map.mp hgreatest
  refine ⟨f v, f w, ⟨List.mem_map_of_mem hv, ?lower⟩, ⟨List.mem_map_of_mem hw, ?upper⟩, ?extent⟩
  case lower =>
    intro u hu
    obtain ⟨item, hitem, rfl⟩ := List.mem_map.mp hu
    have hle := hlower (List.mem_map_of_mem hitem)
    linarith
  case upper =>
    intro u hu
    obtain ⟨item, hitem, rfl⟩ := List.mem_map.mp hu
    have hle := hupper (List.mem_map_of_mem hitem)
    linarith
  case extent =>
    rw [hextent]
    linarith

/-- A figure is the line through some points: its own points, moved to its place, are these, and
it is as wide and as high as they are. -/
structure Figure.Traces (f : Figure ℚ) (points : List (Point ℚ)) : Prop where
  line : ∃ style relative, f.shape = .line style relative
    ∧ relative.map (Point.shift ⟨f.x, f.y⟩) = points
  width : IsExtent (points.map Point.x) f.width
  height : IsExtent (points.map Point.y) f.height

theorem traces_lineFigure {stroke background style : Text} {points : List (Point ℚ)}
    {f : Figure ℚ} (h : lineFigure stroke background style points = .ok f) :
  f.Traces points
  := by
  cases points with
  | nil => contradiction
  | cons first more =>
      rw [lineFigure] at h
      obtain rfl := Except.ok.inj h
      constructor
      case line =>
        refine ⟨_, _, rfl, ?_⟩
        rw [List.map_map]
        apply List.map_id''
        rintro ⟨x, y⟩
        simp only [Function.comp_apply, Point.shift, Point.mk.injEq]
        constructor
        · apply add_sub_cancel
        · apply add_sub_cancel
      case width =>
        simp only [List.map_map]
        apply isExtent_extent_sub (List.cons_ne_nil _ _)
      case height =>
        simp only [List.map_map]
        apply isExtent_extent_sub (List.cons_ne_nil _ _)

end Excalidraw

end BoxDiagram
