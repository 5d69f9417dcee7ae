import BoxDiagram.Proofs.Layout.Boxes
import Mathlib.Algebra.Order.Ring.Rat
import Mathlib.Tactic.Linarith

/-!
# Rows of boxes in exact numbers

Over the rational numbers the boxes of a row are packed a margin apart, and sliding the
right-aligned ones to an edge moves all of them by one amount: the distance from the right
edge of the row to that edge.  In the rows of a scope every box therefore stands a margin
behind all earlier boxes of its row or below all boxes of earlier rows.
-/

namespace BoxDiagram

/-! ### Greatest numbers -/

theorem larger_eq_max (a b : ℚ) :
  larger a b = max a b
  := by
  rw [larger, max_def]
  split <;> split <;> linarith

theorem le_larger_left (a b : ℚ) :
  a ≤ larger a b
  := by
  rw [larger_eq_max]
  apply le_max_left

theorem le_larger_right (a b : ℚ) :
  b ≤ larger a b
  := by
  rw [larger_eq_max]
  apply le_max_right

section Greatest

variable {β : Type} (f : β → ℚ)

theorem le_foldl_larger_init (l : List β) (a : ℚ) :
  a ≤ l.foldl (fun a b => larger a (f b)) a
  := by
  induction l generalizing a with
  | nil => apply le_refl
  | cons b l ih =>
      apply le_trans _ (ih _)
      apply le_larger_left

theorem le_foldl_larger {l : List β} {b : β} (h : b ∈ l) (a : ℚ) :
  f b ≤ l.foldl (fun a b => larger a (f b)) a
  := by
  induction l generalizing a with
  | nil => contradiction
  | cons c l ih =>
      obtain rfl | h := List.mem_cons.mp h
      · apply le_trans _ (le_foldl_larger_init f l _)
        apply le_larger_right
      · apply ih h

end Greatest

theorem greatest_nonneg {l : List ℚ} (h : ∀ a ∈ l, 0 ≤ a) :
  0 ≤ greatest l
  := by
  cases l with
  | nil => apply le_refl
  | cons a l =>
      apply le_trans (h a List.mem_cons_self)
      apply le_foldl_larger_init id

theorem le_greatest {l : List ℚ} {a : ℚ} (h : a ∈ l) :
  a ≤ greatest l
  := by
  cases l with
  | nil => contradiction
  | cons b l =>
      obtain rfl | h := List.mem_cons.mp h
      · apply le_foldl_larger_init id
      · apply le_foldl_larger id h

/-! ### Sizes -/

/-- A measurer by which no text has a negative width and no line a negative height. -/
structure Measurer.Nonneg (m : Measurer ℚ) : Prop where
  width : ∀ t, 0 ≤ m.width t
  lineHeight : 0 ≤ m.lineHeight

/-- Distances none of which is negative. -/
structure Spacing.Nonneg (sp : Spacing ℚ) : Prop where
  margin : 0 ≤ sp.margin
  padding : 0 ≤ sp.padding
  canvasPadding : 0 ≤ sp.canvasPadding

/-- The measurer by which every character is one wide and every line one high. -/
def Measurer.unit : Measurer ℚ := ⟨fun t => t.length, 1⟩

/-- Distances that are all one. -/
def Spacing.unit : Spacing ℚ := ⟨1, 1, 1⟩

theorem Measurer.unit_nonneg :
  Measurer.unit.Nonneg
  := by
  constructor
  · intro t
    apply Nat.cast_nonneg
  · apply zero_le_one

theorem Spacing.unit_nonneg :
  Spacing.unit.Nonneg
  := by
  constructor <;> apply zero_le_one

variable {m : Measurer ℚ} {sp : Spacing ℚ}

theorem leafSize_nonneg (hm : m.Nonneg) (hsp : sp.Nonneg) (label : Text) :
  0 ≤ (leafSize m sp label).width ∧ 0 ≤ (leafSize m sp label).height
  := by
  have hgreatest : 0 ≤ greatest (label.words.map m.width) := by
    apply greatest_nonneg
    intro a ha
    obtain ⟨w, -, rfl⟩ := List.mem_map.mp ha
    apply hm.width
  have hlines : 0 ≤ m.lineHeight * (label.words.length : ℚ) := by
    apply mul_nonneg hm.lineHeight
    apply Nat.cast_nonneg
  have hpadding := hsp.padding
  constructor
  · change 0 ≤ greatest (label.words.map m.width) + sp.padding * 2
    linarith
  · change 0 ≤ m.lineHeight * (label.words.length : ℚ) + sp.padding * 2
    linarith

theorem captionSize_height_nonneg (hm : m.Nonneg) (hsp : sp.Nonneg) (label : Text) :
  0 ≤ (captionSize m sp label).height
  := by
  have hline := hm.lineHeight
  have hpadding := hsp.padding
  change 0 ≤ m.lineHeight + sp.padding * 2
  linarith

/-- What holds some boxes reaches a margin behind each of them and at least over one margin. -/
theorem le_contentSize (margin : ℚ) {boxes : List (Box ℚ)} {b : Box ℚ} (hb : b ∈ boxes) :
  b.x + b.width + margin ≤ (contentSize margin boxes).width
    ∧ b.y + b.height + margin ≤ (contentSize margin boxes).height
  := by
  constructor
  · apply add_le_add_left
    apply le_foldl_larger (fun b : Box ℚ => b.x + b.width) hb
  · apply add_le_add_left
    apply le_foldl_larger (fun b : Box ℚ => b.y + b.height) hb

theorem margin_le_contentSize (margin : ℚ) (boxes : List (Box ℚ)) :
  margin ≤ (contentSize margin boxes).width ∧ margin ≤ (contentSize margin boxes).height
  := by
  constructor
  · apply le_add_of_nonneg_left
    apply le_foldl_larger_init
  · apply le_add_of_nonneg_left
    apply le_foldl_larger_init

/-- A box with no negative size, in which the boxes inside leave a margin to its right and lower
edges when they stand where its content begins. -/
structure Box.Sized (margin : ℚ) (b : Box ℚ) : Prop where
  width : 0 ≤ b.width
  height : 0 ≤ b.height
  inner_x : b.inner.x = 0
  inner_y : 0 ≤ b.inner.y
  fits : ∀ c ∈ b.boxes, c.x + c.width + margin ≤ b.width
    ∧ b.inner.y + (c.y + c.height) + margin ≤ b.height

/-- The box for a label has room for the boxes of the scope that the label names. -/
theorem sized_boxFor (hm : m.Nonneg) (hsp : sp.Nonneg) (path label : Text) (x y : ℚ)
    (rightAligned : Bool) (nested : Option (List (Box ℚ))) :
  (boxFor m sp path label x y rightAligned nested).Sized sp.margin
  := by
  cases nested with
  | none =>
      obtain ⟨hwidth, hheight⟩ := leafSize_nonneg hm hsp label
      constructor
      · apply hwidth
      · apply hheight
      · rfl
      · apply le_refl
      · intro c hc
        contradiction
  | some boxes =>
      have hcaption := captionSize_height_nonneg hm hsp label
      have hmargin := hsp.margin
      obtain ⟨hwidth, hheight⟩ := margin_le_contentSize sp.margin boxes
      constructor
      · change 0 ≤ larger (contentSize sp.margin boxes).width (captionSize m sp label).width
        apply le_trans _ (le_larger_left _ _)
        linarith
      · change 0 ≤ (captionSize m sp label).height + (contentSize sp.margin boxes).height
        linarith
      · rfl
      · apply hcaption
      · intro c (hc : c ∈ boxes)
        obtain ⟨hx, hy⟩ := le_contentSize sp.margin hc
        constructor
        · change _ ≤ larger (contentSize sp.margin boxes).width (captionSize m sp label).width
          apply le_trans hx (le_larger_left _ _)
        · change (captionSize m sp label).height + (c.y + c.height) + sp.margin
            ≤ (captionSize m sp label).height + (contentSize sp.margin boxes).height
          linarith

/-! ### One row -/

/-- Boxes are packed from one place to another when they stand in this order, a margin apart. -/
inductive Packed (margin : ℚ) : ℚ → List (Box ℚ) → ℚ → Prop where
  | nil (x : ℚ) : Packed margin x [] x
  | cons {b : Box ℚ} {boxes : List (Box ℚ)} {x behind : ℚ} :
      b.x = x → Packed margin (x + (b.width + margin)) boxes behind →
      Packed margin x (b :: boxes) behind

theorem packed_packRow (path : Text) (nested : Text → Option (List (Box ℚ))) (x y : ℚ)
    (labels : List (Text × Bool)) :
  Packed sp.margin x (packRow m sp path nested x y labels).1
    (packRow m sp path nested x y labels).2
  := by
  induction labels generalizing x with
  | nil => apply Packed.nil
  | cons label labels ih => apply Packed.cons (boxFor_x ..) (ih _)

/-- Packed boxes stand in the range they are packed in and end a margin before its end. -/
theorem Packed.between {margin x behind : ℚ} {boxes : List (Box ℚ)}
    (h : Packed margin x boxes behind) (hmargin : 0 ≤ margin) (hwidth : ∀ b ∈ boxes, 0 ≤ b.width) :
  x ≤ behind ∧ ∀ b ∈ boxes, x ≤ b.x ∧ b.x + b.width + margin ≤ behind
  := by
  induction h with
  | nil x => simp
  | @cons b boxes x behind hx h ih =>
      obtain ⟨hb, hwidth⟩ := List.forall_mem_cons.mp hwidth
      obtain ⟨hbehind, hboxes⟩ := ih hwidth
      constructor
      · linarith
      · rw [List.forall_mem_cons]
        constructor
        · constructor <;> linarith
        · intro c hc
          obtain ⟨hleft, hright⟩ := hboxes c hc
          constructor <;> linarith

/-- Each of some packed boxes begins at least a margin behind the earlier ones. -/
theorem Packed.pairwise {margin x behind : ℚ} {boxes : List (Box ℚ)}
    (h : Packed margin x boxes behind) (hmargin : 0 ≤ margin) (hwidth : ∀ b ∈ boxes, 0 ≤ b.width) :
  boxes.Pairwise fun a b => a.x + a.width + margin ≤ b.x
  := by
  induction h with
  | nil x => apply List.Pairwise.nil
  | @cons b boxes x behind hx h ih =>
      obtain ⟨-, hwidth⟩ := List.forall_mem_cons.mp hwidth
      apply List.Pairwise.cons _ (ih hwidth)
      intro c hc
      obtain ⟨hleft, -⟩ := (h.between hmargin hwidth).2 c hc
      linarith

/-- A box slid to the right by an amount if it is right-aligned. -/
def Box.slid (shift : ℚ) (b : Box ℚ) : Box ℚ :=
  if b.rightAligned then { b with x := b.x + shift } else b

/-- Sliding packed boxes of which the last are right-aligned moves these by one amount, the
distance from the end of the last box to the edge. -/
theorem Packed.slideRight_eq {margin x behind : ℚ} {boxes : List (Box ℚ)}
    (h : Packed margin x boxes behind)
    (hsides : boxes.Pairwise fun a b => a.rightAligned → b.rightAligned) (edge : ℚ) :
  (slideRight margin edge boxes).1 = boxes.map (Box.slid (edge - (behind - margin)))
    ∧ ((∀ b ∈ boxes, b.rightAligned) →
      (slideRight margin edge boxes).2 = x + (edge - (behind - margin)) - margin)
  := by
  induction h with
  | nil x =>
      constructor
      · rfl
      · intro _
        change edge = x + (edge - (x - margin)) - margin
        linarith
  | @cons b boxes x behind hx h ih =>
      obtain ⟨hlater, hsides⟩ := List.pairwise_cons.mp hsides
      obtain ⟨hboxes, hedge⟩ := ih hsides
      rw [slideRight_cons, hboxes]
      by_cases hb : b.rightAligned = true
      · have hedge := hedge fun c hc => hlater c hc hb
        have hplace : (slideRight margin edge boxes).2 - b.width
            = x + (edge - (behind - margin)) := by
          rw [hedge]
          linarith
        rw [if_pos hb, hplace, List.map_cons, Box.slid, if_pos hb, hx]
        constructor
        · rfl
        · intro _
          rfl
      · rw [if_neg hb, List.map_cons, Box.slid, if_neg hb]
        constructor
        · rfl
        · intro hall
          apply absurd (hall b List.mem_cons_self) hb

/-- A packed row that is slid to an edge not left of its own keeps its boxes a margin apart and
moves none of them to the left. -/
theorem Packed.spread_slideRight {margin x behind edge : ℚ} {boxes : List (Box ℚ)}
    (h : Packed margin x boxes behind) (hmargin : 0 ≤ margin) (hwidth : ∀ b ∈ boxes, 0 ≤ b.width)
    (hsides : boxes.Pairwise fun a b => a.rightAligned → b.rightAligned)
    (hedge : boxes ≠ [] → behind - margin ≤ edge) :
  (∀ b ∈ (slideRight margin edge boxes).1, x ≤ b.x)
    ∧ (slideRight margin edge boxes).1.Pairwise fun a b => a.x + a.width + margin ≤ b.x
  := by
  rw [(h.slideRight_eq hsides edge).1]
  by_cases hboxes : boxes = []
  · rw [hboxes]
    simp
  have hshift : 0 ≤ edge - (behind - margin) := by linarith [hedge hboxes]
  generalize edge - (behind - margin) = shift at hshift
  constructor
  · rw [List.forall_mem_map]
    intro b hb
    have hx := ((h.between hmargin hwidth).2 b hb).1
    rw [Box.slid]
    split
    · change x ≤ b.x + shift
      linarith
    · apply hx
  · rw [List.pairwise_map]
    apply ((h.pairwise hmargin hwidth).and hsides).imp
    rintro a b ⟨hx, hside⟩
    rw [Box.slid, Box.slid]
    by_cases ha : a.rightAligned = true
    · rw [if_pos ha, if_pos (hside ha)]
      change a.x + shift + a.width + margin ≤ b.x + shift
      linarith
    · rw [if_neg ha]
      split
      · change a.x + a.width + margin ≤ b.x + shift
        linarith
      · apply hx

/-- In a row no label packed to the left follows one aligned to the right. -/
theorem pairwise_sidedLabels (row : Row) :
  (sidedLabels row).Pairwise fun a b => a.2 → b.2
  := by
  rw [sidedLabels, List.pairwise_append, List.pairwise_map, List.pairwise_map]
  simp [List.pairwise_iff_getElem]

theorem pairwise_packRow (path : Text) (nested : Text → Option (List (Box ℚ))) (x y : ℚ)
    (row : Row) :
  (packRow m sp path nested x y (sidedLabels row)).1.Pairwise
    fun a b => a.rightAligned → b.rightAligned
  := by
  have h := pairwise_sidedLabels row
  rw [← map_sided_packRow m sp path nested x y (sidedLabels row), List.pairwise_map] at h
  apply h

/-! ### The rows of a scope -/

/-- One box stands before another when it ends a margin to its left or a margin above it. -/
def Box.Before (margin : ℚ) (a b : Box ℚ) : Prop :=
  a.x + a.width + margin ≤ b.x ∨ a.y + a.height + margin ≤ b.y

theorem rowHeight_nonneg (boxes : List (Box ℚ)) :
  0 ≤ rowHeight boxes
  := le_foldl_larger_init (fun b : Box ℚ => b.height) boxes 0

theorem le_rowHeight {boxes : List (Box ℚ)} {b : Box ℚ} (h : b ∈ boxes) :
  b.height ≤ rowHeight boxes
  := le_foldl_larger (fun b : Box ℚ => b.height) h 0

/-- The right edge of the rows so far is never behind that of all rows. -/
theorem edge_le_packRows (m : Measurer ℚ) (sp : Spacing ℚ) (path : Text)
    (nested : Text → Option (List (Box ℚ))) (y edge : ℚ) (rows : List Row) :
  edge ≤ (packRows m sp path nested y edge rows).2
  := by
  induction rows generalizing y edge with
  | nil => apply le_refl
  | cons row rows ih =>
      rw [packRows_cons]
      apply le_trans _ (ih _ _)
      split
      · apply le_refl
      · apply le_larger_left

/-- When the boxes of all rows are slid to an edge not left of any row, each box stands before
all later ones, and none stands nearer to the left or upper border than a margin. -/
theorem spread_packRows (hm : m.Nonneg) (hsp : sp.Nonneg) (path : Text)
    (nested : Text → Option (List (Box ℚ))) (y edge : ℚ) (rows : List Row) {edge' : ℚ}
    (hedge : (packRows m sp path nested y edge rows).2 ≤ edge') :
  (∀ b ∈ (packRows m sp path nested y edge rows).1.flatMap
      fun boxes => (slideRight sp.margin edge' boxes).1, sp.margin ≤ b.x ∧ y ≤ b.y)
    ∧ ((packRows m sp path nested y edge rows).1.flatMap
      fun boxes => (slideRight sp.margin edge' boxes).1).Pairwise (Box.Before sp.margin)
  := by
  induction rows generalizing y edge with
  | nil => simp [packRows]
  | cons row rows ih =>
      have hmargin := hsp.margin
      rw [packRows_cons] at hedge ⊢
      set packed := packRow m sp path nested sp.margin y (sidedLabels row)
      obtain ⟨hrest, hlater⟩ := ih _ _ hedge
      have hpacked : Packed sp.margin sp.margin packed.1 packed.2 := packed_packRow ..
      have hboxes : ∀ b ∈ packed.1, b.y = y ∧ b.Sized sp.margin := by
        intro b hb
        obtain ⟨label, right, x, -, rfl⟩ := mem_packRow hb
        constructor
        · apply boxFor_y
        · apply sized_boxFor hm hsp
      have hrow : packed.1 ≠ [] → packed.2 - sp.margin ≤ edge' := by
        intro hne
        apply le_trans _ ((edge_le_packRows ..).trans hedge)
        rw [if_neg (by simpa using hne)]
        apply le_larger_right
      obtain ⟨hleft, hapart⟩ := hpacked.spread_slideRight hmargin
        (fun b hb => (hboxes b hb).2.width) (pairwise_packRow ..) hrow
      have hslid : ∀ b ∈ (slideRight sp.margin edge' packed.1).1,
          b.y = y ∧ b.height ≤ rowHeight packed.1 := by
        intro b hb
        obtain ⟨c, hc, x, rfl⟩ := mem_slideRight hb
        constructor
        · apply (hboxes c hc).1
        · apply le_rowHeight hc
      have hheight := rowHeight_nonneg packed.1
      rw [List.flatMap_cons]
      constructor
      · intro b hb
        obtain hb | hb := List.mem_append.mp hb
        · use hleft b hb, (hslid b hb).1.ge
        · obtain ⟨hx, hy⟩ := hrest b hb
          use hx
          linarith
      · apply List.pairwise_append.mpr
        refine ⟨hapart.imp Or.inl, hlater, ?_⟩
        intro a ha b hb
        right
        obtain ⟨ha, hheight⟩ := hslid a ha
        have hb := (hrest b hb).2
        linarith

end BoxDiagram
