import BoxDiagram.Proofs.Layout.Rows
import Mathlib.Data.List.Chain
import Mathlib.Data.List.Forall2

/-!
# Sliding a row

The boxes of a row are compared with those of the same row in which every label is packed to the
left.  Alignment moves the right-aligned boxes of the row to the right by one amount, and changes
nothing else: then they end at the right edge, and stand a margin apart as before.
-/

namespace BoxDiagram

/-! ### Packing to the left -/

/-- A row with its right labels behind its left ones. -/
def Row.toLeft (row : Row) : Row := ⟨row.all, []⟩

namespace Scope

mutual

/-- A scope tree with all labels of all rows packed to the left. -/
def toLeft : Scope → Scope
  | ⟨label, layout, relations, nested, messages⟩ =>
    ⟨label, layout.map (·.map Row.toLeft), relations, allToLeft nested, messages⟩

/-- Scope trees with all labels of all rows packed to the left. -/
def allToLeft : List Scope → List Scope
  | [] => []
  | s :: scopes => s.toLeft :: allToLeft scopes

end

theorem toLeft_label (s : Scope) :
  s.toLeft.label = s.label
  := by
  cases s
  rw [toLeft]

theorem toLeft_rows (s : Scope) :
  s.toLeft.layout.getD [] = (s.layout.getD []).map Row.toLeft
  := by
  obtain ⟨_, layout, _, _, _⟩ := s
  rw [toLeft]
  cases layout <;> rfl

/-- A label names the same nested scope, with its rows packed to the left. -/
theorem toLeft_nested? (s : Scope) (label : Text) :
  s.toLeft.nested? label = (s.nested? label).map toLeft
  := by
  obtain ⟨_, _, _, nested, _⟩ := s
  rw [toLeft, nested?, nested?]
  induction nested with
  | nil => rfl
  | cons c nested ih =>
      rw [allToLeft]
      by_cases h : c.label = label
      · rw [List.find?_cons_of_pos (by simpa [toLeft_label] using h),
          List.find?_cons_of_pos (by simpa using h), Option.map_some]
      · rw [List.find?_cons_of_neg (by simpa [toLeft_label] using h),
          List.find?_cons_of_neg (by simpa using h), ih]

end Scope

/-! ### Slid boxes -/

/-- A box is another one that has been slid by an amount if it is right-aligned, and not at all if
it is not; what is in them may differ. -/
structure Box.SlidFrom (shift : ℚ) (b packed : Box ℚ) : Prop where
  label : b.label = packed.label
  path : b.path = packed.path
  width : b.width = packed.width
  height : b.height = packed.height
  y : b.y = packed.y
  inner : b.inner = packed.inner
  x : b.x = packed.x + if b.rightAligned then shift else 0

/-- A row of a scope, its boxes, and its boxes when all labels are packed to the left. -/
structure SlidRow where
  row : Row
  boxes : List (Box ℚ)
  packed : List (Box ℚ)

/-- The right-aligned boxes of a row are its packed boxes for the right labels, all slid to the
right by one amount; they stand a margin apart, and the last of them ends at an edge. -/
structure SlidRow.Flush (margin edge : ℚ) (r : SlidRow) : Prop where
  labels : r.boxes.map sided = sidedLabels r.row
  slid : ∃ shift, 0 ≤ shift ∧ List.Forall₂ (Box.SlidFrom shift) r.boxes r.packed
  spaced : (r.boxes.filter (·.rightAligned)).IsChain fun a b => a.x + a.width + margin = b.x
  last : r.row.right ≠ [] → ∃ b, r.boxes.getLast? = some b ∧ b.x + b.width = edge

/-- The boxes of a scope and the boxes of the scope with all labels packed to the left: row by row
the boxes are slid to the right edge of the scope, and the boxes in two of them that stand for one
label are those of the scope that the label names, or none. -/
inductive Slid (margin : ℚ) : Scope → List (Box ℚ) → List (Box ℚ) → Prop where
  | scope {s : Scope} (edge : ℚ) (rows : List SlidRow) :
      rows.map SlidRow.row = s.layout.getD [] →
      (∀ r ∈ rows, r.Flush margin edge) →
      (∀ r ∈ rows, ∀ b ∈ r.boxes, b.x + b.width ≤ edge) →
      (∀ r ∈ rows, ∀ pair ∈ r.boxes.zip r.packed,
        s.nested? pair.1.label = none → pair.1.boxes = [] ∧ pair.2.boxes = []) →
      (∀ r ∈ rows, ∀ pair ∈ r.boxes.zip r.packed, ∀ c,
        s.nested? pair.1.label = some c → Slid margin c pair.1.boxes pair.2.boxes) →
      Slid margin s (rows.flatMap SlidRow.boxes) (rows.flatMap SlidRow.packed)

/-! ### One row -/

variable {m : Measurer ℚ} {sp : Spacing ℚ}

/-- Nested scopes take the same room in two layouts when the same labels name them and their
boxes have content of the same size. -/
def SameRoom (margin : ℚ) (nested nested' : Text → Option (List (Box ℚ))) : Prop :=
  ∀ label, Option.Rel (fun boxes boxes' => contentSize margin boxes = contentSize margin boxes')
    (nested label) (nested' label)

/-- The boxes for a label at one place have the same size when nested scopes take the same room,
whichever side the label is packed to. -/
theorem slidFrom_boxFor (path label : Text) (x y : ℚ) (right : Bool)
    {boxes boxes' : Option (List (Box ℚ))}
    (h : Option.Rel (fun b b' => contentSize sp.margin b = contentSize sp.margin b')
      boxes boxes') :
  Box.SlidFrom 0 (boxFor m sp path label x y right boxes)
    (boxFor m sp path label x y false boxes')
  := by
  have hx : x = x + if right then (0 : ℚ) else 0 := by split <;> rw [add_zero]
  cases h with
  | none =>
      constructor
      case x => apply hx
      all_goals rfl
  | some h =>
      constructor
      case x => apply hx
      case width =>
        change larger (contentSize sp.margin _).width _ = larger (contentSize sp.margin _).width _
        rw [h]
      case height =>
        change _ + (contentSize sp.margin _).height = _ + (contentSize sp.margin _).height
        rw [h]
      all_goals rfl

/-- Labels are packed to the same places on either side when nested scopes take the same room. -/
theorem forall₂_packRow {nested nested' : Text → Option (List (Box ℚ))}
    (h : SameRoom sp.margin nested nested') (path : Text) (x y : ℚ) (labels : List (Text × Bool)) :
  List.Forall₂ (Box.SlidFrom 0) (packRow m sp path nested x y labels).1
      (packRow m sp path nested' x y (labels.map fun l => (l.1, false))).1
    ∧ (packRow m sp path nested x y labels).2
      = (packRow m sp path nested' x y (labels.map fun l => (l.1, false))).2
  := by
  induction labels generalizing x with
  | nil =>
      constructor
      · apply List.Forall₂.nil
      · rfl
  | cons label labels ih =>
      have hbox : Box.SlidFrom 0 (boxFor m sp path label.1 x y label.2 (nested label.1))
          (boxFor m sp path label.1 x y false (nested' label.1)) :=
        slidFrom_boxFor path label.1 x y label.2 (h label.1)
      rw [List.map_cons, packRow, packRow, ← hbox.width]
      obtain ⟨hboxes, hbehind⟩ := ih (x + ((boxFor m sp path label.1 x y label.2
        (nested label.1)).width + sp.margin))
      constructor
      · apply List.Forall₂.cons hbox hboxes
      · apply hbehind

theorem sidedLabels_toLeft (row : Row) :
  sidedLabels row.toLeft = (sidedLabels row).map fun l => (l.1, false)
  := by
  rw [sidedLabels, sidedLabels, List.map_append, List.map_map, List.map_map]
  apply Eq.trans (List.append_nil _) List.map_append

/-- Each of some packed boxes begins a margin behind the one before it. -/
theorem Packed.isChain {margin x behind : ℚ} {boxes : List (Box ℚ)}
    (h : Packed margin x boxes behind) :
  boxes.IsChain fun a b => a.x + a.width + margin = b.x
  := by
  induction h with
  | nil x => apply List.IsChain.nil
  | @cons b boxes x behind hx h ih =>
      cases h with
      | nil => apply List.IsChain.singleton
      | cons hx' h =>
          apply List.IsChain.cons_cons _ ih
          rw [hx, hx', add_assoc]

/-- The last of some packed boxes ends a margin before the end of their range. -/
theorem Packed.getLast {margin x behind : ℚ} {boxes : List (Box ℚ)}
    (h : Packed margin x boxes behind) {b : Box ℚ} (hb : boxes.getLast? = some b) :
  b.x + b.width + margin = behind
  := by
  induction h with
  | nil x => contradiction
  | @cons c boxes x behind hx h ih =>
      cases h with
      | nil =>
          obtain rfl : c = b := by simpa using hb
          rw [hx, add_assoc]
      | cons hx' h =>
          rw [List.getLast?_cons_cons] at hb
          apply ih hb

/-- A box that is slid no further is the box. -/
theorem Box.slid_zero (b : Box ℚ) :
  b.slid 0 = b
  := by
  cases b
  rw [Box.slid, add_zero]
  split <;> rfl

theorem Box.SlidFrom.slid {b packed : Box ℚ} (h : Box.SlidFrom 0 b packed) (shift : ℚ) :
  Box.SlidFrom shift (b.slid shift) packed
  := by
  obtain ⟨hlabel, hpath, hwidth, hheight, hy, hinner, hx⟩ := h
  rw [Box.slid]
  by_cases hb : b.rightAligned = true
  · rw [if_pos hb]
    constructor <;> simp_all
  · rw [if_neg hb]
    constructor <;> simp_all

/-- The boxes of a row are those for its left labels and those for its right labels. -/
theorem exists_sides {row : Row} {boxes : List (Box ℚ)} (h : boxes.map sided = sidedLabels row) :
  ∃ left right, boxes = left ++ right ∧ (∀ b ∈ left, b.rightAligned = false)
    ∧ (∀ b ∈ right, b.rightAligned = true) ∧ (row.right ≠ [] → right ≠ [])
  := by
  obtain ⟨left, right, rfl, hleft, hright⟩ := List.map_eq_append_iff.mp h
  use left, right, rfl
  refine ⟨?_, ?_, ?_⟩
  · intro b hb
    have hside : sided b ∈ row.left.map (·, false) := by
      rw [← hleft]
      apply List.mem_map_of_mem hb
    obtain ⟨label, -, hside⟩ := List.mem_map.mp hside
    apply (congrArg Prod.snd hside).symm
  · intro b hb
    have hside : sided b ∈ row.right.map (·, true) := by
      rw [← hright]
      apply List.mem_map_of_mem hb
    obtain ⟨label, -, hside⟩ := List.mem_map.mp hside
    apply (congrArg Prod.snd hside).symm
  · rintro hne rfl
    apply hne
    simpa using hright.symm

/-- The right-aligned ones of some packed boxes stay a margin apart when they are slid. -/
theorem Packed.spaced_slid {margin x behind : ℚ} {boxes : List (Box ℚ)} {row : Row}
    (h : Packed margin x boxes behind) (hsided : boxes.map sided = sidedLabels row) (shift : ℚ) :
  ((boxes.map (Box.slid shift)).filter (·.rightAligned)).IsChain
    fun a b => a.x + a.width + margin = b.x
  := by
  obtain ⟨left, right, rfl, hleft, hright, -⟩ := exists_sides hsided
  have hnone : (left.map (Box.slid shift)).filter (·.rightAligned) = [] := by
    rw [List.filter_eq_nil_iff, List.forall_mem_map]
    intro b hb
    rw [Box.slid, hleft b hb]
    simp [hleft b hb]
  have hmoved : right.map (Box.slid shift) = right.map fun b => { b with x := b.x + shift } := by
    apply List.map_congr_left
    intro b hb
    rw [Box.slid, if_pos (hright b hb)]
  have hall : (right.map (Box.slid shift)).filter (·.rightAligned)
      = right.map (Box.slid shift) := by
    rw [hmoved, List.filter_eq_self, List.forall_mem_map]
    apply hright
  rw [List.map_append, List.filter_append, hnone, hall, hmoved]
  apply List.isChain_map_of_isChain _ _ h.isChain.right_of_append
  intro a b hab
  change a.x + shift + a.width + margin = b.x + shift
  linarith

/-- The last of some packed boxes is slid to the edge if it is right-aligned. -/
theorem Packed.last_slid {margin x behind : ℚ} {boxes : List (Box ℚ)} {row : Row}
    (h : Packed margin x boxes behind) (hsided : boxes.map sided = sidedLabels row)
    (hright : row.right ≠ []) (edge : ℚ) :
  ∃ b, (boxes.map (Box.slid (edge - (behind - margin)))).getLast? = some b
    ∧ b.x + b.width = edge
  := by
  obtain ⟨left, right, rfl, -, hsides, hne⟩ := exists_sides hsided
  have hlast := List.getLast?_eq_some_getLast (hne hright)
  have hplace := h.getLast (by rw [List.getLast?_append, hlast, Option.some_or])
  have hside := hsides _ (List.getLast_mem (hne hright))
  generalize right.getLast (hne hright) = b at hlast hplace hside
  use b.slid (edge - (behind - margin))
  constructor
  · rw [List.getLast?_map, List.getLast?_append, hlast, Option.some_or, Option.map_some]
  · rw [Box.slid, if_pos hside]
    change b.x + (edge - (behind - margin)) + b.width = edge
    linarith

/-- A row with its packed boxes, slid to an edge, and its boxes packed to the left. -/
def slidRow (m : Measurer ℚ) (sp : Spacing ℚ) (path : Text)
    (nested nested' : Text → Option (List (Box ℚ))) (y edge : ℚ) (row : Row) : SlidRow where
  row := row
  boxes := (slideRight sp.margin edge
    (packRow m sp path nested sp.margin y (sidedLabels row)).1).1
  packed := (packRow m sp path nested' sp.margin y (sidedLabels row.toLeft)).1

/-- When a packed row is slid to an edge not left of its own, its right-aligned boxes keep their
distances and end at that edge. -/
theorem flush_slidRow {nested nested' : Text → Option (List (Box ℚ))}
    (h : SameRoom sp.margin nested nested') (path : Text) (y : ℚ) (row : Row) {edge : ℚ}
    (hedge : (packRow m sp path nested sp.margin y (sidedLabels row)).1 ≠ [] →
      (packRow m sp path nested sp.margin y (sidedLabels row)).2 - sp.margin ≤ edge) :
  (slidRow m sp path nested nested' y edge row).Flush sp.margin edge
  := by
  rw [slidRow]
  have hpacked : Packed sp.margin sp.margin _ _ :=
    packed_packRow (m := m) path nested sp.margin y (sidedLabels row)
  have hsides : (packRow m sp path nested sp.margin y (sidedLabels row)).1.Pairwise _ :=
    pairwise_packRow ..
  have hsided := map_sided_packRow m sp path nested sp.margin y (sidedLabels row)
  have hsame := (forall₂_packRow (m := m) h path sp.margin y (sidedLabels row)).1
  rw [← sidedLabels_toLeft] at hsame
  generalize packRow m sp path nested sp.margin y (sidedLabels row) = packed at *
  have hslid := (hpacked.slideRight_eq hsides edge).1
  constructor
  case labels => rw [map_sided_slideRight, hsided]
  case slid =>
    rw [hslid]
    by_cases hne : packed.1 = []
    · rw [hne] at hsame ⊢
      use 0, le_refl 0, hsame
    · use edge - (packed.2 - sp.margin), sub_nonneg.mpr (hedge hne)
      rw [List.forall₂_map_left_iff]
      apply hsame.imp
      intro b p hbp
      apply hbp.slid
  case spaced =>
    rw [hslid]
    apply hpacked.spaced_slid hsided
  case last =>
    intro hright
    rw [hslid]
    apply hpacked.last_slid hsided hright

end BoxDiagram
