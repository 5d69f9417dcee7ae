import BoxDiagram.Proofs.Layout.Placing
import BoxDiagram.Proofs.Layout.Scopes
import BoxDiagram.Proofs.Layout.Sliding

/-!
# Right alignment

The boxes of a scope are compared with those of the same scope in which every label is packed
to the left.  Alignment moves right-aligned boxes to the right, those of one row by one
amount, and changes nothing else; so nested scopes keep their sizes, and the canvas does too.
Every row that has right-aligned boxes then ends at the right edge of its scope.
-/

namespace BoxDiagram

variable {m : Measurer ℚ} {sp : Spacing ℚ}

/-! ### The rows of a scope -/

theorem foldl_larger_congr {β : Type} {f : β → ℚ} {l l' : List β}
    (h : List.Forall₂ (fun b b' => f b = f b') l l') (a : ℚ) :
  l.foldl (fun a b => larger a (f b)) a = l'.foldl (fun a b => larger a (f b)) a
  := by
  induction h generalizing a with
  | nil => rfl
  | cons hb _ ih => rw [List.foldl_cons, List.foldl_cons, hb, ih]

/-- The greatest of some numbers is one that none of them exceeds and that is among them. -/
theorem foldl_larger_eq {β : Type} {f : β → ℚ} {l : List β} {a e : ℚ} (ha : a ≤ e)
    (hl : ∀ b ∈ l, f b ≤ e) (he : e = a ∨ ∃ b ∈ l, f b = e) :
  l.foldl (fun a b => larger a (f b)) a = e
  := by
  apply le_antisymm
  · clear he
    induction l generalizing a with
    | nil => apply ha
    | cons b l ih =>
        obtain ⟨hb, hl⟩ := List.forall_mem_cons.mp hl
        apply ih _ hl
        change larger a (f b) ≤ e
        rw [larger_eq_max]
        apply max_le ha hb
  · obtain rfl | ⟨b, hb, rfl⟩ := he
    · apply le_foldl_larger_init
    · apply le_foldl_larger f hb

/-- Boxes that are packed to the left stay where they are. -/
theorem slideRight_of_left {margin edge : ℚ} {boxes : List (Box ℚ)}
    (h : ∀ b ∈ boxes, b.rightAligned = false) :
  (slideRight margin edge boxes).1 = boxes
  := by
  induction boxes with
  | nil => rfl
  | cons b boxes ih =>
      obtain ⟨hb, hboxes⟩ := List.forall_mem_cons.mp h
      rw [slideRight_cons, hb, if_neg Bool.false_ne_true, ih hboxes]

/-- The first row of a scope leaves as much room to the others on either side when nested scopes
take the same room. -/
theorem packRows_toLeft_cons {nested nested' : Text → Option (List (Box ℚ))}
    (h : SameRoom sp.margin nested nested') (path : Text) (y edge : ℚ) (row : Row)
    (rows : List Row) :
  packRows m sp path nested' y edge ((row :: rows).map Row.toLeft)
    = let packed := packRow m sp path nested sp.margin y (sidedLabels row)
      let edge := if packed.1.isEmpty then edge else larger edge (packed.2 - sp.margin)
      let rest := packRows m sp path nested' (y + (rowHeight packed.1 + sp.margin)) edge
        (rows.map Row.toLeft)
      ((packRow m sp path nested' sp.margin y (sidedLabels row.toLeft)).1 :: rest.1, rest.2)
  := by
  obtain ⟨hboxes, hbehind⟩ := forall₂_packRow (m := m) h path sp.margin y (sidedLabels row)
  rw [← sidedLabels_toLeft] at hboxes hbehind
  have hheight := foldl_larger_congr (f := Box.height) (hboxes.imp fun _ _ hb => hb.height) 0
  have hempty := hboxes.length_eq
  rw [List.map_cons, packRows_cons]
  simp only [rowHeight, ← hheight, ← hbehind, List.isEmpty_iff_length_eq_zero, ← hempty]

/-- The rows of a scope reach as far to the right on either side when nested scopes take the same
room. -/
theorem packRows_toLeft_edge {nested nested' : Text → Option (List (Box ℚ))}
    (h : SameRoom sp.margin nested nested') (path : Text) (y edge : ℚ) (rows : List Row) :
  (packRows m sp path nested' y edge (rows.map Row.toLeft)).2
    = (packRows m sp path nested y edge rows).2
  := by
  induction rows generalizing y edge with
  | nil => rfl
  | cons row rows ih =>
      rw [packRows_toLeft_cons h, packRows_cons]
      apply ih

/-- A row does not reach beyond the right edge of the widest row. -/
theorem behind_le_edge {nested : Text → Option (List (Box ℚ))} {path : Text} {y edge : ℚ}
    {row : Row} {rows : List Row} {edge' : ℚ}
    (hedge : (packRows m sp path nested y edge (row :: rows)).2 ≤ edge')
    (hne : (packRow m sp path nested sp.margin y (sidedLabels row)).1 ≠ []) :
  (packRow m sp path nested sp.margin y (sidedLabels row)).2 - sp.margin ≤ edge'
  := by
  rw [packRows_cons] at hedge
  apply le_trans _ ((edge_le_packRows ..).trans hedge)
  rw [if_neg (by simpa using hne)]
  apply le_larger_right

variable (m sp) in
/-- The rows of a scope, slid to an edge not left of any of them, are flush with it. -/
theorem exists_slidRows {nested nested' : Text → Option (List (Box ℚ))}
    (h : SameRoom sp.margin nested nested') (path : Text) (y edge : ℚ) (rows : List Row)
    {edge' : ℚ} (hedge : (packRows m sp path nested y edge rows).2 ≤ edge') :
  ∃ slid : List SlidRow, slid.map SlidRow.row = rows ∧ (∀ r ∈ slid, r.Flush sp.margin edge')
    ∧ slid.flatMap SlidRow.boxes = (packRows m sp path nested y edge rows).1.flatMap
      (fun boxes => (slideRight sp.margin edge' boxes).1)
    ∧ slid.flatMap SlidRow.packed
      = (packRows m sp path nested' y edge (rows.map Row.toLeft)).1.flatMap
        (fun boxes => (slideRight sp.margin edge' boxes).1)
  := by
  induction rows generalizing y edge with
  | nil =>
      use []
      simp [packRows]
  | cons row rows ih =>
      have hflush := flush_slidRow h path y row (behind_le_edge hedge)
      rw [packRows_cons] at hedge
      obtain ⟨slid, hrows, hslid, hboxes, hpacked⟩ := ih _ _ hedge
      rw [packRows_toLeft_cons h, packRows_cons]
      use slidRow m sp path nested nested' y edge' row :: slid
      refine ⟨congrArg (row :: ·) hrows, List.forall_mem_cons.mpr ⟨hflush, hslid⟩, ?_, ?_⟩
      · rw [List.flatMap_cons, hboxes]
        rfl
      · rw [List.flatMap_cons, List.flatMap_cons, hpacked, slideRight_of_left]
        · rfl
        intro b hb
        have hside : sided b ∈ sidedLabels row.toLeft := by
          rw [← map_sided_packRow m sp path nested' sp.margin y (sidedLabels row.toLeft)]
          apply List.mem_map_of_mem hb
        rw [sidedLabels_toLeft] at hside
        obtain ⟨label, -, hside⟩ := List.mem_map.mp hside
        apply (congrArg Prod.snd hside).symm

/-- No box of a scope reaches beyond an edge that is not left of any row. -/
theorem right_le_edge (hm : m.Nonneg) (hsp : sp.Nonneg) (path : Text)
    (nested : Text → Option (List (Box ℚ))) (y edge : ℚ) (rows : List Row) {edge' : ℚ}
    (hedge : (packRows m sp path nested y edge rows).2 ≤ edge') :
  ∀ b ∈ (packRows m sp path nested y edge rows).1.flatMap
    fun boxes => (slideRight sp.margin edge' boxes).1, b.x + b.width ≤ edge'
  := by
  induction rows generalizing y edge with
  | nil => simp [packRows]
  | cons row rows ih =>
      have hbehind := behind_le_edge hedge
      rw [packRows_cons] at hedge ⊢
      have hpacked : Packed sp.margin sp.margin _ _ :=
        packed_packRow (m := m) path nested sp.margin y (sidedLabels row)
      rw [List.flatMap_cons, (hpacked.slideRight_eq (pairwise_packRow ..) edge').1,
        List.forall_mem_append, List.forall_mem_map]
      constructor
      · intro b hb
        have hwidth : ∀ c ∈ (packRow m sp path nested sp.margin y (sidedLabels row)).1,
            0 ≤ c.width := by
          intro c hc
          obtain ⟨label, right, x, -, rfl⟩ := mem_packRow hc
          apply (sized_boxFor hm hsp ..).width
        obtain ⟨-, hright⟩ := (hpacked.between hsp.margin hwidth).2 b hb
        have hbehind := hbehind (List.ne_nil_of_mem hb)
        rw [Box.slid]
        split
        · change b.x + _ + b.width ≤ edge'
          linarith
        · linarith
      · apply ih _ _ hedge

/-- The right edge of the widest row is the right edge of some box, unless there is none. -/
theorem edge_reached (path : Text) (nested : Text → Option (List (Box ℚ))) (y edge : ℚ)
    (rows : List Row) :
  (packRows m sp path nested y edge rows).2 = edge
    ∨ ∃ b ∈ (packRows m sp path nested y edge rows).1.flatMap
      fun boxes => (slideRight sp.margin (packRows m sp path nested y edge rows).2 boxes).1,
        b.x + b.width = (packRows m sp path nested y edge rows).2
  := by
  induction rows generalizing y edge with
  | nil =>
      left
      rfl
  | cons row rows ih =>
      have hpacked : Packed sp.margin sp.margin _ _ :=
        packed_packRow (m := m) path nested sp.margin y (sidedLabels row)
      have hsides : (packRow m sp path nested sp.margin y (sidedLabels row)).1.Pairwise _ :=
        pairwise_packRow ..
      rw [packRows_cons]
      generalize packRow m sp path nested sp.margin y (sidedLabels row) = packed at *
      dsimp only
      obtain hedge | ⟨b, hb, hright⟩ := ih (y + (rowHeight packed.1 + sp.margin))
        (if packed.1.isEmpty then edge else larger edge (packed.2 - sp.margin))
      · rw [hedge]
        by_cases hne : packed.1 = []
        · left
          simp [hne]
        · rw [if_neg (by simpa using hne), larger_eq_max]
          obtain hmax | hmax := max_choice edge (packed.2 - sp.margin)
          · left
            apply hmax
          · right
            have hlast := List.getLast?_eq_some_getLast hne
            use packed.1.getLast hne
            constructor
            · apply List.mem_append_left
              rw [hmax]
              change _ ∈ (slideRight sp.margin (packed.2 - sp.margin) packed.1).1
              rw [(hpacked.slideRight_eq hsides _).1, sub_self, List.mem_map]
              use packed.1.getLast hne, List.getLast_mem hne
              apply Box.slid_zero
            · have hplace := hpacked.getLast hlast
              rw [hmax]
              linarith
      · right
        use b, List.mem_append_right _ hb

/-- The content of a scope is as wide as the widest of its rows and a margin. -/
theorem contentSize_arrange_width (hm : m.Nonneg) (hsp : sp.Nonneg) (path : Text)
    (nested : Text → Option (List (Box ℚ))) (rows : List Row) :
  (contentSize sp.margin (arrange m sp path nested rows)).width
    = (packRows m sp path nested sp.margin 0 rows).2 + sp.margin
  := by
  apply congrArg (· + sp.margin)
  apply foldl_larger_eq (f := fun b : Box ℚ => b.x + b.width)
  · apply edge_le_packRows
  · apply right_le_edge hm hsp path nested sp.margin 0 rows (le_refl _)
  · apply edge_reached

/-- The boxes of the rows are related when those of each row are. -/
theorem forall₂_flatMap {rows : List SlidRow} {R : Box ℚ → Box ℚ → Prop}
    (h : ∀ r ∈ rows, List.Forall₂ R r.boxes r.packed) :
  List.Forall₂ R (rows.flatMap SlidRow.boxes) (rows.flatMap SlidRow.packed)
  := by
  induction rows with
  | nil => apply List.Forall₂.nil
  | cons r rows ih =>
      obtain ⟨hr, hrows⟩ := List.forall_mem_cons.mp h
      apply List.rel_append hr (ih hrows)

/-- The boxes made from some rows are flush with one edge, and none reaches beyond it. -/
theorem exists_slidRows_arrange (hm : m.Nonneg) (hsp : sp.Nonneg)
    {nested nested' : Text → Option (List (Box ℚ))} (h : SameRoom sp.margin nested nested')
    (path : Text) (rows : List Row) :
  ∃ (edge : ℚ) (slid : List SlidRow), slid.map SlidRow.row = rows
    ∧ (∀ r ∈ slid, r.Flush sp.margin edge)
    ∧ (∀ b ∈ slid.flatMap SlidRow.boxes, b.x + b.width ≤ edge)
    ∧ slid.flatMap SlidRow.boxes = arrange m sp path nested rows
    ∧ slid.flatMap SlidRow.packed = arrange m sp path nested' (rows.map Row.toLeft)
  := by
  have hedge := packRows_toLeft_edge (m := m) h path sp.margin 0 rows
  obtain ⟨slid, hrows, hflush, hboxes, hpacked⟩ :=
    exists_slidRows m sp h path sp.margin 0 rows (le_refl _)
  use (packRows m sp path nested sp.margin 0 rows).2, slid, hrows, hflush
  refine ⟨?_, hboxes, ?_⟩
  · rw [hboxes]
    apply right_le_edge hm hsp
    apply le_refl
  · rw [hpacked, ← hedge]
    rfl

/-- The boxes made from some rows have content of the same size on either side. -/
theorem contentSize_arrange_toLeft (hm : m.Nonneg) (hsp : sp.Nonneg)
    {nested nested' : Text → Option (List (Box ℚ))} (h : SameRoom sp.margin nested nested')
    (path : Text) (rows : List Row) :
  contentSize sp.margin (arrange m sp path nested rows)
    = contentSize sp.margin (arrange m sp path nested' (rows.map Row.toLeft))
  := by
  have hwidth := contentSize_arrange_width hm hsp path nested rows
  have hwidth' := contentSize_arrange_width hm hsp path nested' (rows.map Row.toLeft)
  rw [packRows_toLeft_edge h, ← hwidth] at hwidth'
  obtain ⟨edge, slid, -, hflush, -, hboxes, hpacked⟩ :=
    exists_slidRows_arrange hm hsp h path rows
  have hheight : (contentSize sp.margin (arrange m sp path nested rows)).height
      = (contentSize sp.margin (arrange m sp path nested' (rows.map Row.toLeft))).height := by
    apply congrArg (· + sp.margin)
    apply foldl_larger_congr (f := fun b : Box ℚ => b.y + b.height)
    rw [← hboxes, ← hpacked]
    apply forall₂_flatMap
    intro r hr
    obtain ⟨shift, -, hslid⟩ := (hflush r hr).slid
    apply hslid.imp
    intro b packed hb
    rw [hb.y, hb.height]
  cases hsize : contentSize sp.margin (arrange m sp path nested rows)
  cases hsize' : contentSize sp.margin (arrange m sp path nested' (rows.map Row.toLeft))
  simp_all

/-! ### Scopes -/

variable (m sp) in
/-- Nested scopes take the same room in a scope and in the scope packed to the left if they do so
themselves. -/
theorem sameRoom_nested {s : Scope} (path : Text)
    (h : ∀ c ∈ s.nested, ∀ path, contentSize sp.margin (scopeBoxes m sp path c)
      = contentSize sp.margin (scopeBoxes m sp path c.toLeft)) :
  SameRoom sp.margin
    (fun label => (s.nested? label).map (scopeBoxes m sp (pathBelow path label)))
    (fun label => (s.toLeft.nested? label).map (scopeBoxes m sp (pathBelow path label)))
  := by
  intro label
  dsimp only
  rw [Scope.toLeft_nested?]
  cases hc : s.nested? label with
  | none => apply Option.Rel.none
  | some c =>
      apply Option.Rel.some
      apply h c (List.mem_of_find?_eq_some hc)

/-- The boxes of a scope are those of the scope packed to the left, row by row slid to one edge, and
their content has the same size. -/
theorem slid_scopeBoxes (hm : m.Nonneg) (hsp : sp.Nonneg) (s : Scope) (path : Text) :
  Slid sp.margin s (scopeBoxes m sp path s) (scopeBoxes m sp path s.toLeft)
    ∧ contentSize sp.margin (scopeBoxes m sp path s)
      = contentSize sp.margin (scopeBoxes m sp path s.toLeft)
  := by
  induction s using Scope.tree_induction generalizing path with
  | step s ih =>
      have hroom := sameRoom_nested m sp path fun c hc path => (ih c hc path).2
      have hsize := contentSize_arrange_toLeft hm hsp hroom path (s.layout.getD [])
      obtain ⟨edge, rows, hrows, hflush, hright, hboxes, hpacked⟩ :=
        exists_slidRows_arrange hm hsp hroom path (s.layout.getD [])
      rw [← Scope.toLeft_rows, ← scopeBoxes_eq, ← scopeBoxes_eq] at hsize
      rw [← scopeBoxes_eq] at hboxes
      rw [← Scope.toLeft_rows, ← scopeBoxes_eq] at hpacked
      refine ⟨?_, hsize⟩
      -- what stands in two boxes for one label
      have hinner : ∀ r ∈ rows, ∀ pair ∈ r.boxes.zip r.packed,
          pair.1.boxes = ((s.nested? pair.1.label).map
              (scopeBoxes m sp (pathBelow path pair.1.label))).getD []
            ∧ pair.2.boxes = ((s.nested? pair.1.label).map
              fun c => scopeBoxes m sp (pathBelow path pair.1.label) c.toLeft).getD [] := by
        rintro r hr ⟨b, packed⟩ hpair
        obtain ⟨hb, hp⟩ := List.of_mem_zip hpair
        obtain ⟨shift, -, hslid⟩ := (hflush r hr).slid
        have hlabel := ((List.forall₂_iff_zip.mp hslid).2 hpair).label
        have hb : b ∈ scopeBoxes m sp path s := by
          rw [← hboxes]
          apply List.mem_flatMap_of_mem hr hb
        have hp : packed ∈ scopeBoxes m sp path s.toLeft := by
          rw [← hpacked]
          apply List.mem_flatMap_of_mem hr hp
        use boxes_of_mem_scopeBoxes hb
        rw [boxes_of_mem_scopeBoxes hp, ← hlabel, Scope.toLeft_nested?, Option.map_map]
        rfl
      rw [← hboxes, ← hpacked]
      apply Slid.scope edge rows hrows hflush
      case _ =>
        intro r hr b hb
        apply hright b (List.mem_flatMap_of_mem hr hb)
      case _ =>
        intro r hr pair hpair hnone
        obtain ⟨hb, hp⟩ := hinner r hr pair hpair
        rw [hb, hp, hnone]
        constructor <;> rfl
      case _ =>
        intro r hr pair hpair c hc
        obtain ⟨hb, hp⟩ := hinner r hr pair hpair
        rw [hb, hp, hc]
        apply (ih c (List.mem_of_find?_eq_some hc) _).1

/-! ### On the canvas -/

/-- Placing boxes on the canvas does not change the size of their content. -/
theorem contentSize_placeBoxes (margin : ℚ) (start : Point ℚ) (boxes : List (Box ℚ)) :
  contentSize margin (placeBoxes start boxes) = contentSize margin boxes
  := by
  rw [placeBoxes_eq_map, contentSize, contentSize, List.foldl_map, List.foldl_map]
  simp only [placeBox_x, placeBox_y, placeBox_width, placeBox_height]

/-- A row whose boxes are placed on two canvases. -/
def SlidRow.placed (start start' : Point ℚ) (r : SlidRow) : SlidRow where
  row := r.row
  boxes := placeBoxes start r.boxes
  packed := placeBoxes start' r.packed

/-- Placing the boxes of a row on the canvas changes none of their distances. -/
theorem SlidRow.Flush.placed {margin edge : ℚ} {r : SlidRow} (h : r.Flush margin edge)
    (start start' : Point ℚ) :
  (r.placed start start').Flush margin edge
  := by
  obtain ⟨hlabels, ⟨shift, hshift, hslid⟩, hspaced, hlast⟩ := h
  constructor
  case labels =>
    apply Eq.trans _ hlabels
    rw [SlidRow.placed, placeBoxes_eq_map, List.map_map]
    apply List.map_congr_left
    intro b _
    simp [sided]
  case slid =>
    use shift, hshift
    rw [SlidRow.placed, placeBoxes_eq_map, placeBoxes_eq_map, List.forall₂_map_left_iff,
      List.forall₂_map_right_iff]
    apply hslid.imp
    rintro b packed ⟨hlabel, hpath, hwidth, hheight, hy, hinner, hx⟩
    constructor <;> simpa
  case spaced =>
    rw [SlidRow.placed, placeBoxes_eq_map, List.filter_map]
    simpa [List.isChain_map, Function.comp_def] using hspaced
  case last =>
    intro hright
    obtain ⟨b, hb, hedge⟩ := hlast hright
    use placeBox start b
    simp [SlidRow.placed, placeBoxes_eq_map, hb, hedge]

/-- Boxes that are slid against packed ones stay so on the canvas. -/
theorem Slid.placed {margin : ℚ} {s : Scope} {boxes packed : List (Box ℚ)}
    (h : Slid margin s boxes packed) (start start' : Point ℚ) :
  Slid margin s (placeBoxes start boxes) (placeBoxes start' packed)
  := by
  induction h generalizing start start' with
  | @scope s edge rows hrows hflush hright hleaf _ ih =>
      have hboxes : placeBoxes start (rows.flatMap SlidRow.boxes)
          = (rows.map (SlidRow.placed start start')).flatMap SlidRow.boxes := by
        rw [placeBoxes_eq_map, List.map_flatMap, List.flatMap_map]
        simp only [SlidRow.placed, placeBoxes_eq_map]
      have hpacked : placeBoxes start' (rows.flatMap SlidRow.packed)
          = (rows.map (SlidRow.placed start start')).flatMap SlidRow.packed := by
        rw [placeBoxes_eq_map, List.map_flatMap, List.flatMap_map]
        simp only [SlidRow.placed, placeBoxes_eq_map]
      have hpairs : ∀ r : SlidRow, ∀ pair ∈ (r.placed start start').boxes.zip
          (r.placed start start').packed, ∃ b p, (b, p) ∈ r.boxes.zip r.packed
            ∧ pair = (placeBox start b, placeBox start' p) := by
        intro r pair hpair
        rw [SlidRow.placed, placeBoxes_eq_map, placeBoxes_eq_map, List.zip_map] at hpair
        obtain ⟨⟨b, p⟩, hmem, rfl⟩ := List.mem_map.mp hpair
        use b, p, hmem
        rfl
      rw [hboxes, hpacked]
      apply Slid.scope edge
      case _ =>
        rw [List.map_map]
        apply hrows
      case _ =>
        rw [List.forall_mem_map]
        intro r hr
        apply (hflush r hr).placed
      case _ =>
        rw [List.forall_mem_map]
        intro r hr b hb
        obtain ⟨c, hc, rfl⟩ := mem_placeBoxes.mp hb
        simpa using hright r hr c hc
      case _ =>
        rw [List.forall_mem_map]
        intro r hr pair hpair hnone
        obtain ⟨b, p, hmem, rfl⟩ := hpairs r pair hpair
        rw [placeBox_label] at hnone
        obtain ⟨hb, hp⟩ := hleaf r hr (b, p) hmem hnone
        rw [placeBox_boxes, placeBox_boxes, hb, hp]
        constructor <;> rfl
      case _ =>
        rw [List.forall_mem_map]
        intro r hr pair hpair c hc
        obtain ⟨b, p, hmem, rfl⟩ := hpairs r pair hpair
        rw [placeBox_label] at hc
        rw [placeBox_boxes, placeBox_boxes]
        apply ih r hr (b, p) hmem c hc

/-- Right alignment moves boxes to the right and does nothing else: every diagram is drawn with
the boxes of the same diagram packed to the left, slid row by row to the right edge of their
scope, on a canvas of the same size. -/
theorem layoutBoxes_slid (hm : m.Nonneg) (hsp : sp.Nonneg) (s : Scope) :
  Slid sp.margin s (layoutBoxes m sp s) (layoutBoxes m sp s.toLeft)
    ∧ canvasSize sp (layoutBoxes m sp s) = canvasSize sp (layoutBoxes m sp s.toLeft)
  := by
  obtain ⟨hslid, hsize⟩ := slid_scopeBoxes hm hsp s []
  constructor
  · apply hslid.placed
  · rw [canvasSize, canvasSize, layoutBoxes, layoutBoxes, contentSize_placeBoxes,
      contentSize_placeBoxes, hsize]

/-- Two rows of which the second is the wider one: the boxes `b` and `c` of the first slide to its
edge, and so does the box in the nested scope. -/
theorem layoutBoxes_slid_nested :
  let s : Scope :=
    ⟨[], some [⟨["a"], ["b", "c"]⟩, ⟨["inner", "wide label"], []⟩], none,
      [⟨"inner", some [⟨[], ["x"]⟩, ⟨["yyyyy"], []⟩], none, [], []⟩], []⟩
  let boxes := layoutBoxes Measurer.unit Spacing.unit s
  Measurer.unit.Nonneg ∧ Spacing.unit.Nonneg
    ∧ (Box.walkAll boxes).map (·.x) = [1, 11, 15, 1, 5, 1, 11]
    ∧ (Box.walkAll (layoutBoxes Measurer.unit Spacing.unit s.toLeft)).map (·.x)
      = [1, 5, 9, 1, 1, 1, 11]
    ∧ Slid 1 s boxes (layoutBoxes Measurer.unit Spacing.unit s.toLeft)
    ∧ canvasSize Spacing.unit boxes
      = canvasSize Spacing.unit (layoutBoxes Measurer.unit Spacing.unit s.toLeft)
  := by
  intro s boxes
  refine ⟨Measurer.unit_nonneg, Spacing.unit_nonneg, by decide +kernel, by decide +kernel, ?_⟩
  apply layoutBoxes_slid Measurer.unit_nonneg Spacing.unit_nonneg s

end BoxDiagram
