import BoxDiagram.Proofs.Layout.Tidy

/-!
# Boxes keep apart

Two boxes of a drawn diagram of which neither is in the other are a margin apart, side by side
or one above the other.  The addresses of such boxes part at some depth, and there each is in
one of two siblings that are apart.
-/

namespace BoxDiagram

/-- Two boxes are a distance apart on the canvas, along one of the axes. -/
def Box.Apart (distance : ℚ) (a b : Box ℚ) : Prop :=
  (a.right + distance ≤ b.left ∨ b.right + distance ≤ a.left)
    ∨ (a.bottom + distance ≤ b.top ∨ b.bottom + distance ≤ a.top)

theorem Box.Apart.symm {distance : ℚ} {a b : Box ℚ} (h : a.Apart distance b) :
  b.Apart distance a
  := h.imp Or.symm Or.symm

/-- The box at an address in a placed forest stands in the rectangle of the outermost box that
the address begins with. -/
theorem Tidy.inside_of_boxAt? {margin : ℚ} {boxes : List (Box ℚ)} (h : Tidy margin boxes)
    (hmargin : 0 ≤ margin) {start : Point ℚ} {i : ℕ} {address : List ℕ} {d : Box ℚ}
    (hd : boxAt? (placeBoxes start boxes) (i :: address) = some d) :
  ∃ b, boxes[i]? = some b
    ∧ (address ≠ [] → boxAt? (placeBoxes (b.content start) b.boxes) address = some d)
    ∧ d.Inside 0 (start.x + b.x) (start.y + b.y) (start.x + (b.x + b.width))
      (start.y + (b.y + b.height))
  := by
  obtain ⟨placed, hplaced, hd⟩ := boxAt?_cons.mp hd
  rw [placeBoxes_eq_map, List.getElem?_map, Option.map_eq_some_iff] at hplaced
  obtain ⟨b, hb, rfl⟩ := hplaced
  have hmem := List.mem_of_getElem? hb
  obtain ⟨hsized, hinner⟩ := h.of_mem_walkAll b (Box.mem_walkAll.mpr ⟨b, hmem, Or.inl rfl⟩)
  use b, hb
  obtain ⟨haddress, rfl⟩ | hd := hd
  · constructor
    · intro hne
      apply absurd haddress hne
    · apply hsized.inside
  · constructor
    · intro _
      rw [← placeBox_boxes]
      apply hd
    · have hinner_y := hsized.inner_y
      apply (hinner.inside_content hsized hmargin start d (mem_walkAll_of_boxAt? hd)).widen <;>
        linarith

/-- What stands in the rectangles of two boxes of which one is before the other is apart. -/
theorem Box.Before.apart {margin : ℚ} {b c : Box ℚ} (h : b.Before margin c) {start : Point ℚ}
    {d e : Box ℚ}
    (hd : d.Inside 0 (start.x + b.x) (start.y + b.y) (start.x + (b.x + b.width))
      (start.y + (b.y + b.height)))
    (he : e.Inside 0 (start.x + c.x) (start.y + c.y) (start.x + (c.x + c.width))
      (start.y + (c.y + c.height))) :
  d.Apart margin e
  := by
  have hright := hd.right
  have hbottom := hd.bottom
  have hleft := he.left
  have htop := he.top
  obtain h | h := h
  · left; left
    linarith
  · right; left
    linarith

theorem Tidy.before_of_lt {margin : ℚ} {boxes : List (Box ℚ)} (h : Tidy margin boxes)
    {i j : ℕ} (hij : i < j) {b c : Box ℚ} (hb : boxes[i]? = some b) (hc : boxes[j]? = some c) :
  b.Before margin c
  := by
  obtain ⟨hi, rfl⟩ := List.getElem?_eq_some_iff.mp hb
  obtain ⟨hj, rfl⟩ := List.getElem?_eq_some_iff.mp hc
  cases h with
  | step _ _ hbefore _ => apply List.pairwise_iff_getElem.mp hbefore i j hi hj hij

/-- Two boxes of a placed forest of tidy boxes are a margin apart if neither address continues
the other. -/
theorem Tidy.apart {margin : ℚ} {boxes : List (Box ℚ)} (h : Tidy margin boxes)
    (hmargin : 0 ≤ margin) {start : Point ℚ} {p q : List ℕ} {d e : Box ℚ}
    (hd : boxAt? (placeBoxes start boxes) p = some d)
    (he : boxAt? (placeBoxes start boxes) q = some e) (hpq : ¬ p <+: q) (hqp : ¬ q <+: p) :
  d.Apart margin e
  := by
  induction p generalizing boxes start q with
  | nil => apply absurd List.nil_prefix hpq
  | cons i p ih =>
      cases q with
      | nil => apply absurd List.nil_prefix hqp
      | cons j q =>
          obtain ⟨b, hb, hinner, hdb⟩ := h.inside_of_boxAt? hmargin hd
          obtain ⟨c, hc, hinner', hec⟩ := h.inside_of_boxAt? hmargin he
          obtain hij | rfl | hij := lt_trichotomy i j
          · apply (h.before_of_lt hij hb hc).apart hdb hec
          · obtain rfl := Option.some.inj (hb.symm.trans hc)
            rw [List.cons_prefix_cons, not_and] at hpq hqp
            have hpq := hpq rfl
            have hqp := hqp rfl
            have hp : p ≠ [] := by
              rintro rfl
              apply hpq List.nil_prefix
            have hq : q ≠ [] := by
              rintro rfl
              apply hqp List.nil_prefix
            apply ih (h.inner (List.mem_of_getElem? hb)) (hinner hp) (hinner' hq) hpq hqp
          · apply ((h.before_of_lt hij hc hb).apart hec hdb).symm

variable {m : Measurer ℚ} {sp : Spacing ℚ}

/-- Every box of a diagram has an address, and boxes of which neither is in the other are a
margin apart along one of the axes. -/
theorem layoutBoxes_apart (hm : m.Nonneg) (hsp : sp.Nonneg) (s : Scope) :
  (∀ d ∈ Box.walkAll (layoutBoxes m sp s), ∃ p, boxAt? (layoutBoxes m sp s) p = some d)
    ∧ ∀ p q d e, boxAt? (layoutBoxes m sp s) p = some d → boxAt? (layoutBoxes m sp s) q = some e →
      ¬ p <+: q → ¬ q <+: p → d.Apart sp.margin e
  := by
  constructor
  · intro d hd
    apply exists_boxAt? hd
  · intro p q d e hd he hpq hqp
    apply (tidy_scopeBoxes hm hsp [] s).apart hsp.margin hd he hpq hqp

/-- A right-aligned box in a nested scope is apart from a box of the row below that scope. -/
theorem layoutBoxes_apart_nested :
  let s : Scope :=
    ⟨[], some [⟨["a", "b"], []⟩, ⟨["c"], ["d"]⟩], none,
      [⟨"a", some [⟨["x"], ["y"]⟩], none, [], []⟩], []⟩
  let boxes := layoutBoxes Measurer.unit Spacing.unit s
  Measurer.unit.Nonneg ∧ Spacing.unit.Nonneg
    ∧ ∃ d e, boxAt? boxes [0, 1] = some d ∧ boxAt? boxes [3] = some e
      ∧ d.rightAligned ∧ e.rightAligned ∧ d.Apart 1 e
  := by
  intro s boxes
  refine ⟨Measurer.unit_nonneg, Spacing.unit_nonneg, ?_⟩
  have hd : ((boxAt? boxes [0, 1]).map (·.rightAligned)) = some true := by decide +kernel
  have he : ((boxAt? boxes [3]).map (·.rightAligned)) = some true := by decide +kernel
  obtain ⟨d, hd, hright⟩ := Option.map_eq_some_iff.mp hd
  obtain ⟨e, he, hright'⟩ := Option.map_eq_some_iff.mp he
  use d, e, hd, he, hright, hright'
  apply (layoutBoxes_apart Measurer.unit_nonneg Spacing.unit_nonneg s).2 [0, 1] [3] d e hd he
  · decide
  · decide

end BoxDiagram
