import BoxDiagram.Proofs.Decimal.Magnitudes
import BoxDiagram.Proofs.Document.Labelled
import BoxDiagram.Proofs.Layout.Placing
import BoxDiagram.Proofs.Layout.Scopes

/-!
# Extents of boxes

With doubles, a box is no larger than its label and the boxes in it account for, and no box of
a scope stands farther away than the boxes of the scope account for, if the distances and the
size of the font are at most one unit.  Each box accounts for the characters of its label and a
few units more.
-/

namespace BoxDiagram

open Scope

/-! ### What boxes account for -/

section

variable {α : Type}

/-- The units that some boxes and all boxes in them account for. -/
def Box.load (boxes : List (Box α)) : Nat :=
  ((Box.walkAll boxes).map fun b => b.label.length + 7).sum

/-- The units that a box may be wide and high. -/
def Box.room (b : Box α) : Nat := b.label.length + 6 + Box.load b.boxes

theorem Box.load_cons (b : Box α) (boxes : List (Box α)) :
  Box.load (b :: boxes) = b.room + 1 + Box.load boxes
  := by
  rw [load, walkAll, walk_eq, List.map_append, List.sum_append, List.map_cons, List.sum_cons,
    room, load, load]
  omega

theorem Box.load_append (front back : List (Box α)) :
  Box.load (front ++ back) = Box.load front + Box.load back
  := by
  induction front with
  | nil =>
      rw [List.nil_append, load, load, walkAll]
      simp
  | cons b front ih =>
      rw [List.cons_append, load_cons, load_cons, ih]
      omega

theorem Box.load_eq_sum (boxes : List (Box α)) :
  Box.load boxes = (boxes.map fun b => b.room + 1).sum
  := by
  induction boxes with
  | nil => rfl
  | cons b boxes ih => rw [load_cons, ih, List.map_cons, List.sum_cons]

theorem Box.load_flatMap {β : Type} (f : β → List (Box α)) (xs : List β) :
  Box.load (xs.flatMap f) = (xs.map fun x => Box.load (f x)).sum
  := by
  induction xs with
  | nil => rfl
  | cons x xs ih => rw [List.flatMap_cons, load_append, ih, List.map_cons, List.sum_cons]

theorem Box.load_flatten (rows : List (List (Box α))) :
  Box.load rows.flatten = (rows.map Box.load).sum
  := by
  rw [List.flatten_eq_flatMap, load_flatMap]
  rfl

theorem Box.room_lt_load {b : Box α} {boxes : List (Box α)} (hb : b ∈ boxes) :
  b.room < Box.load boxes
  := by
  obtain ⟨front, back, rfl⟩ := List.append_of_mem hb
  rw [load_append, load_cons]
  omega

theorem Box.room_lt_load_of_mem_walkAll {b : Box α} {boxes : List (Box α)}
    (hb : b ∈ Box.walkAll boxes) :
  b.room < Box.load boxes
  := by
  induction boxes using Box.forest_induction with
  | step boxes ih =>
      obtain ⟨a, ha, hb⟩ := Box.mem_walkAll.mp hb
      have houter := Box.room_lt_load ha
      obtain rfl | hb := hb
      · apply houter
      · have hinner := ih a ha hb
        rw [room] at houter
        omega

end

/-! ### Settings of at most one unit -/

/-- All distances of the layout are at most one unit. -/
structure Spacing.Moderate (sp : Spacing Float) : Prop where
  margin : Spans 1 sp.margin
  padding : Spans 1 sp.padding
  canvasPadding : Spans 1 sp.canvasPadding

/-- A text is measured to be at most one unit wide for each character, and a line to be at most one
unit high. -/
structure Measurer.Moderate (m : Measurer Float) : Prop where
  width : ∀ t, Spans t.length (m.width t)
  lineHeight : Spans 1 m.lineHeight

theorem one_le_unitLimit :
  1 ≤ unitLimit
  := by norm_num [unitLimit]

/-- The share of the font size that a character takes is between zero and one. -/
theorem exists_charShare (c : Char) :
  ∃ share, valueOf? (charShare c) = some share ∧ 0 ≤ share ∧ share ≤ 1
  := by
  have hblank : valueOf? 0.33 = some (5944751508129055 * 2 ^ (-54 : Int)) :=
    valueOf?_of_unpack (m := 5944751508129055) (by decide) rfl
  have hnarrow : valueOf? 0.3 = some (5404319552844595 * 2 ^ (-54 : Int)) :=
    valueOf?_of_unpack (m := 5404319552844595) (by decide) rfl
  have hwide : valueOf? 0.9 = some (8106479329266893 * 2 ^ (-53 : Int)) :=
    valueOf?_of_unpack (m := 8106479329266893) (by decide) rfl
  have hordinary : valueOf? 0.6 = some (5404319552844595 * 2 ^ (-53 : Int)) :=
    valueOf?_of_unpack (m := 5404319552844595) (by decide) rfl
  rw [charShare]
  split
  · refine ⟨_, hblank, ?_⟩
    norm_num
  · split
    · refine ⟨_, hnarrow, ?_⟩
      norm_num
    · split
      · refine ⟨_, hwide, ?_⟩
        norm_num
      · refine ⟨_, hordinary, ?_⟩
        norm_num

/-- Guessed widths are moderate if the font size is. -/
theorem moderate_guessing {fontSize : Float} (h : Spans 1 fontSize) :
  (Measurer.guessing fontSize).Moderate
  := by
  constructor
  case width =>
    intro t
    have hfold : ∀ (t : Text) (n : Nat) (x : Float), Spans n x →
        Spans (n + t.length) (t.foldl (fun width c => width + fontSize * charShare c) x) := by
      intro t
      induction t with
      | nil =>
          intro n x hx
          apply hx
      | cons c t ih =>
          intro n x hx
          obtain ⟨share, hshare, hnonneg, hle⟩ := exists_charShare c
          have hwidth := h.mul one_le_unitLimit hshare hnonneg (k := 1) (by simpa using hle)
          rw [List.length_cons, Nat.add_comm t.length, ← Nat.add_assoc]
          apply ih (n + 1) _ (hx.add hwidth)
    have hzero : Spans 0 0.0 := Spans.zero
    have hwidth := hfold t 0 0.0 hzero
    rwa [Nat.zero_add] at hwidth
  case lineHeight => apply h

/-! ### Words -/

theorem Text.sum_length_consFirst (c : Char) (pieces : List Text) :
  ((consFirst c pieces).map List.length).sum = (pieces.map List.length).sum + 1
  := by
  cases pieces with
  | nil => rfl
  | cons t pieces =>
      simp [consFirst]
      omega

theorem Text.sum_length_splitWhere (p : Char → Bool) (t : Text) :
  ((t.splitWhere p).map List.length).sum ≤ t.length
  := by
  induction t with
  | nil => simp [splitWhere]
  | cons c t ih =>
      rw [splitWhere]
      split
      · simp
        omega
      · rw [sum_length_consFirst, List.length_cons]
        omega

/-- The words of a text are no longer together than the text. -/
theorem Text.sum_length_words (t : Text) :
  (t.words.map List.length).sum ≤ t.length
  := by
  apply le_trans _ (sum_length_splitWhere isSpace t)
  apply List.Sublist.sum_le_sum
  · apply List.Sublist.map
    apply List.filter_sublist
  · intro n _
    apply Nat.zero_le

theorem Text.length_le_of_mem_words {t word : Text} (h : word ∈ t.words) :
  word.length ≤ t.length
  := by
  apply le_trans _ (sum_length_words t)
  apply List.single_le_sum (fun _ _ => Nat.zero_le _) _ (List.mem_map_of_mem h)

theorem Text.length_words_le (t : Text) :
  t.words.length ≤ t.length
  := by
  apply le_trans _ (sum_length_words t)
  rw [← List.length_map (f := List.length)]
  apply List.length_le_sum_of_one_le
  intro n hn
  obtain ⟨word, hword, rfl⟩ := List.mem_map.mp hn
  have hne : word ≠ [] := by simpa using (List.mem_filter.mp hword).2
  apply List.length_pos_iff.mpr hne

/-! ### Sizes -/

variable {m : Measurer Float} {sp : Spacing Float}

theorem spans_foldl_larger {β : Type} (f : β → Float) {n : Nat} {items : List β}
    (h : ∀ item ∈ items, Below n (f item)) {x : Float} (hx : Spans n x) :
  Spans n (items.foldl (fun y item => larger y (f item)) x)
  := by
  induction items generalizing x with
  | nil => apply hx
  | cons item items ih =>
      obtain ⟨hitem, hitems⟩ := List.forall_mem_cons.mp h
      apply ih hitems (hx.larger hitem)

theorem spans_greatest {n : Nat} {xs : List Float} (h : ∀ x ∈ xs, Spans n x) :
  Spans n (greatest xs)
  := by
  cases xs with
  | nil => apply Spans.zero.mono (Nat.zero_le n)
  | cons x xs =>
      obtain ⟨hx, hxs⟩ := List.forall_mem_cons.mp h
      apply spans_foldl_larger id (fun y hy => (hxs y hy).below) hx

theorem spans_padding (hsp : sp.Moderate) :
  Spans 2 (sp.padding * 2)
  := hsp.padding.double one_le_unitLimit

theorem spans_leafSize (hm : m.Moderate) (hsp : sp.Moderate) (label : Text) :
  Spans (label.length + 2) (leafSize m sp label).width
    ∧ Spans (label.length + 2) (leafSize m sp label).height
  := by
  constructor
  · apply Spans.add _ (spans_padding hsp)
    apply spans_greatest
    rw [List.forall_mem_map]
    intro word hword
    apply (hm.width word).mono (Text.length_le_of_mem_words hword)
  · apply Spans.add _ (spans_padding hsp)
    apply (hm.lineHeight.count label.words.length).mono (Text.length_words_le label)

theorem spans_captionSize (hm : m.Moderate) (hsp : sp.Moderate) (label : Text) :
  Spans (label.length + 2) (captionSize m sp label).width ∧ Spans 3 (captionSize m sp label).height
  := by
  constructor
  · apply (hm.width label).add (spans_padding hsp)
  · apply hm.lineHeight.add (spans_padding hsp)

/-- A box is no larger than its room, and the boxes in it begin at most three units below its upper
edge. -/
structure Box.Fits (b : Box Float) : Prop where
  width : Spans b.room b.width
  height : Spans b.room b.height
  innerX : Spans 0 b.inner.x
  innerY : Spans 3 b.inner.y

/-- A box stands at most `n` units away from where its siblings start and ends so. -/
structure Box.Stands (n : Nat) (b : Box Float) : Prop where
  x : Within n b.x
  right : Below n (b.x + b.width)
  y : Spans n b.y
  bottom : Spans n (b.y + b.height)

theorem Box.Stands.mono {n k : Nat} {b : Box Float} (h : b.Stands n) (hle : n ≤ k) :
  b.Stands k
  := ⟨h.x.mono hle, h.right.mono hle, h.y.mono hle, h.bottom.mono hle⟩

/-- What holds some boxes is at most a margin larger than where they end. -/
theorem spans_contentSize {n : Nat} (hsp : sp.Moderate) {boxes : List (Box Float)}
    (h : ∀ b ∈ boxes, b.Stands n) :
  Spans (n + 1) (contentSize sp.margin boxes).width
    ∧ Spans (n + 1) (contentSize sp.margin boxes).height
  := by
  have hzero : Spans n 0 := Spans.zero.mono (Nat.zero_le n)
  have hwidth := spans_foldl_larger (fun b : Box Float => b.x + b.width)
    (fun b hb => (h b hb).right) hzero
  have hheight := spans_foldl_larger (fun b : Box Float => b.y + b.height)
    (fun b hb => (h b hb).bottom.below) hzero
  use hwidth.add hsp.margin
  apply hheight.add hsp.margin

/-- The box for a label fits its room, if the boxes in it stand no farther away than they account
for. -/
theorem fits_boxFor (hm : m.Moderate) (hsp : sp.Moderate) (path label : Text) (x y : Float)
    (right : Bool) {nested : Option (List (Box Float))}
    (h : ∀ boxes ∈ nested, ∀ b ∈ boxes, b.Stands (Box.load boxes + 2)) :
  (boxFor m sp path label x y right nested).Fits
  := by
  cases nested with
  | none =>
      obtain ⟨hwidth, hheight⟩ := spans_leafSize hm hsp label
      have hroom : label.length + 2 ≤ (boxFor m sp path label x y right none).room := by
        rw [Box.room, boxFor_label]
        omega
      constructor
      case width => apply hwidth.mono hroom
      case height => apply hheight.mono hroom
      case innerX => apply Spans.zero
      case innerY => apply Spans.zero.mono (Nat.zero_le 3)
  | some boxes =>
      obtain ⟨hwidth, hheight⟩ := spans_contentSize hsp (h boxes rfl)
      obtain ⟨hcaption, hstrip⟩ := spans_captionSize hm hsp label
      have hroom : (boxFor m sp path label x y right (some boxes)).room
          = label.length + 6 + Box.load boxes := by
        rw [Box.room, boxFor_label, boxFor_boxes]
        rfl
      constructor
      case width =>
        rw [hroom]
        apply Spans.larger
        · apply hwidth.mono
          omega
        · apply hcaption.below.mono
          omega
      case height =>
        rw [hroom]
        apply (hstrip.add hheight).mono
        omega
      case innerX => apply Spans.zero
      case innerY => apply hstrip

/-! ### Rows -/

variable {path : Text} {nested : Text → Option (List (Box Float))}

theorem Box.Fits.with_x {b : Box Float} (h : b.Fits) (x : Float) :
  ({ b with x } : Box Float).Fits
  := ⟨h.width, h.height, h.innerX, h.innerY⟩

/-- The boxes of a packed row stand one behind the other, and end where the row ends. -/
theorem spans_packRow (hsp : sp.Moderate)
    (hfits : ∀ label x y right, (boxFor m sp path label x y right (nested label)).Fits)
    (y : Float) (labels : List (Text × Bool)) {n : Nat} {x : Float} (hx : Spans n x) :
  let packed := packRow m sp path nested x y labels
  (∀ b ∈ packed.1, Spans (n + Box.load packed.1) b.x
      ∧ Spans (n + Box.load packed.1) (b.x + b.width))
    ∧ Spans (n + Box.load packed.1) packed.2
  := by
  induction labels generalizing n x with
  | nil =>
      constructor
      · intro b hb
        contradiction
      · apply hx
  | cons label labels ih =>
      intro packed
      have hwidth := (hfits label.1 x y label.2).width
      obtain ⟨hboxes, hbehind⟩ := ih (hx.add (hwidth.add hsp.margin))
      have hload : Box.load packed.1
          = (boxFor m sp path label.1 x y label.2 (nested label.1)).room + 1
            + Box.load (packRow m sp path nested
                (x + ((boxFor m sp path label.1 x y label.2 (nested label.1)).width + sp.margin))
                y labels).1 := Box.load_cons _ _
      rw [hload, ← Nat.add_assoc]
      refine ⟨?boxes, hbehind⟩
      case boxes =>
        intro b hb
        obtain rfl | hb := List.mem_cons.mp hb
        · rw [boxFor_x]
          constructor
          · apply hx.mono
            omega
          · apply (hx.add hwidth).mono
            omega
        · apply hboxes b hb

theorem spans_rowHeight {boxes : List (Box Float)} {n : Nat}
    (h : ∀ b ∈ boxes, Spans n b.height) :
  Spans n (rowHeight boxes)
  := by
  have hzero : Spans n 0 := Spans.zero.mono (Nat.zero_le n)
  apply spans_foldl_larger Box.height (fun b hb => (h b hb).below) hzero

/-- A row with labels accounts for some units. -/
theorem load_packRow_pos {row : Row} (hrow : row.all ≠ []) (x y : Float) :
  0 < Box.load (packRow m sp path nested x y (sidedLabels row)).1
  := by
  obtain ⟨label, hlabel⟩ := List.exists_mem_of_ne_nil _ hrow
  have hall : (sidedLabels row).map Prod.fst = row.all := by
    simp [sidedLabels, Row.all, Function.comp_def]
  rw [← hall, ← map_sided_packRow m sp path nested x y (sidedLabels row),
    List.map_map] at hlabel
  obtain ⟨b, hb, -⟩ := List.mem_map.mp hlabel
  apply Nat.zero_lt_of_lt (Box.room_lt_load hb)

/-- The boxes of a row fit, stand no farther away than they account for, and leave the next row to
begin no farther away. -/
theorem stands_packRow (hsp : sp.Moderate)
    (hfits : ∀ label x y right, (boxFor m sp path label x y right (nested label)).Fits)
    {row : Row} (hrow : row.all ≠ []) {n : Nat} (hn : 1 ≤ n) {y : Float} (hy : Spans n y) :
  let packed := packRow m sp path nested sp.margin y (sidedLabels row)
  (∀ b ∈ packed.1, b.Fits ∧ b.Stands (n + Box.load packed.1))
    ∧ Spans (n + Box.load packed.1) (y + (rowHeight packed.1 + sp.margin))
    ∧ Below (n + Box.load packed.1) (packed.2 - sp.margin)
  := by
  intro packed
  obtain ⟨hx, hbehind⟩ := spans_packRow hsp hfits y (sidedLabels row) hsp.margin
  have hmade : ∀ b ∈ packed.1, b.Fits ∧ b.y = y := by
    intro b hb
    obtain ⟨label, right, x, -, rfl⟩ := mem_packRow hb
    use hfits label x y right
    apply boxFor_y
  have hload : 0 < Box.load packed.1 := load_packRow_pos hrow sp.margin y
  refine ⟨?stand, ?next, ?behind⟩
  case stand =>
    intro b hb
    obtain ⟨hfit, hyb⟩ := hmade b hb
    obtain ⟨hbx, hright⟩ := hx b hb
    have hroom := Box.room_lt_load hb
    use hfit
    constructor
    case x =>
      apply hbx.within.mono
      apply Nat.add_le_add_right hn
    case right =>
      apply hright.below.mono
      apply Nat.add_le_add_right hn
    case y =>
      rw [hyb]
      apply hy.mono
      omega
    case bottom =>
      rw [hyb]
      apply (hy.add hfit.height).mono
      omega
  case next =>
    have hheight : Spans (Box.load packed.1 - 1) (rowHeight packed.1) := by
      apply spans_rowHeight
      intro b hb
      have hroom := Box.room_lt_load hb
      apply (hmade b hb).1.height.mono
      omega
    apply (hy.add (hheight.add hsp.margin)).mono
    omega
  case behind =>
    apply Below.mono _ (Nat.add_le_add_right hn _)
    apply hbehind.below.sub_length hsp.margin
    omega

/-- The boxes of packed rows fit, and stand no farther away than they all account for; neither does
the right edge of the widest row. -/
theorem stands_packRows (hsp : sp.Moderate)
    (hfits : ∀ label x y right, (boxFor m sp path label x y right (nested label)).Fits)
    {rows : List Row} (hrows : ∀ row ∈ rows, row.all ≠ []) {n : Nat} (hn : 1 ≤ n) {y edge : Float}
    (hy : Spans n y) (hedge : Spans n edge) :
  let packed := packRows m sp path nested y edge rows
  (∀ boxes ∈ packed.1, ∀ b ∈ boxes, b.Fits ∧ b.Stands (n + Box.load packed.1.flatten))
    ∧ Spans (n + Box.load packed.1.flatten) packed.2
  := by
  induction rows generalizing n y edge with
  | nil =>
      constructor
      · intro boxes hboxes
        contradiction
      · apply hedge
  | cons row rows ih =>
      obtain ⟨hrow, hrows⟩ := List.forall_mem_cons.mp hrows
      obtain ⟨hboxes, hnext, hbehind⟩ := stands_packRow hsp hfits hrow hn hy
      rw [packRows_cons]
      generalize packRow m sp path nested sp.margin y (sidedLabels row) = packed
        at hboxes hnext hbehind
      have hwidest : Spans (n + Box.load packed.1)
          (if packed.1.isEmpty then edge else larger edge (packed.2 - sp.margin)) := by
        have hold := hedge.mono (Nat.le_add_right n (Box.load packed.1))
        split
        · apply hold
        · apply hold.larger hbehind
      obtain ⟨hrest, hlast⟩ := ih hrows (Nat.le_add_right_of_le hn) hnext hwidest
      simp only [List.flatten_cons, Box.load_append, ← Nat.add_assoc]
      refine ⟨?all, hlast⟩
      case all =>
        intro boxes hmem b hb
        obtain rfl | hmem := List.mem_cons.mp hmem
        · obtain ⟨hfit, hstand⟩ := hboxes b hb
          use hfit
          apply hstand.mono (Nat.le_add_right _ _)
        · apply hrest boxes hmem b hb

/-! ### Alignment -/

theorem Box.load_slideRight (margin edge : Float) (boxes : List (Box Float)) :
  Box.load (slideRight margin edge boxes).1 = Box.load boxes
  := by
  induction boxes with
  | nil => rfl
  | cons b boxes ih =>
      rw [slideRight_cons, load_cons, ← ih]
      split <;> exact load_cons _ _

/-- A box that is moved to end at a place stands at most a unit farther away. -/
theorem Box.Stands.endAt {n : Nat} {b : Box Float} (h : b.Stands n) (hfit : b.Fits)
    (hroom : b.room ≤ n) {right : Float} (hright : Below n right)
    (hleast : n ≤ unitLimit → Above n (right - b.width)) :
  ({ b with x := right - b.width } : Box Float).Stands (n + 1)
  := by
  constructor
  case x =>
    constructor
    case above =>
      intro hlimit
      apply (hleast (Nat.le_of_succ_le hlimit)).mono (Nat.le_succ n) hlimit
    case below => apply (hright.sub_length hfit.width hroom).mono (Nat.le_succ n)
  case right => apply hright.sub_add hfit.width hroom
  case y => apply h.y.mono (Nat.le_succ n)
  case bottom => apply h.bottom.mono (Nat.le_succ n)

/-- Boxes that slide to an edge still fit, and stand at most a unit farther away. -/
theorem stands_slideRight (hsp : sp.Moderate) {n : Nat} (hn : 1 ≤ n) {edge : Float}
    (hedge : Spans n edge) {boxes : List (Box Float)} (hload : Box.load boxes ≤ n)
    (h : ∀ b ∈ boxes, b.Fits ∧ b.Stands n) :
  let slid := slideRight sp.margin edge boxes
  (∀ b ∈ slid.1, b.Fits ∧ b.Stands (n + 1))
    ∧ Below n slid.2 ∧ (n ≤ unitLimit → Above (Box.load boxes) slid.2)
  := by
  induction boxes with
  | nil =>
      refine ⟨?_, hedge.below, ?_⟩
      · intro b hb
        contradiction
      · intro hlimit _
        apply (hedge.nonneg hlimit).mono
        simp [Box.load, Box.walkAll]
  | cons b boxes ih =>
      obtain ⟨⟨hfit, hstand⟩, h⟩ := List.forall_mem_cons.mp h
      rw [Box.load_cons] at hload
      obtain ⟨hslid, hbelow, habove⟩ := ih (by omega) h
      rw [slideRight_cons, Box.load_cons]
      split
      · have hroom : b.room ≤ n := by omega
        have hleast : n ≤ unitLimit → Above (Box.load boxes + b.room)
            ((slideRight sp.margin edge boxes).2 - b.width) := fun hlimit =>
          (habove hlimit).sub hfit.width.below
        refine ⟨?slid, ?behind, ?least⟩
        case slid =>
          simp only [List.forall_mem_cons]
          refine ⟨⟨hfit.with_x _, ?stands⟩, hslid⟩
          case stands =>
            apply hstand.endAt hfit hroom hbelow
            intro hlimit
            apply (hleast hlimit).mono
            omega
        case behind => apply (hbelow.sub_length hfit.width hroom).sub_length hsp.margin hn
        case least =>
          intro hlimit
          apply ((hleast hlimit).sub hsp.margin.below).mono
          omega
      · refine ⟨?kept, hbelow, ?lower⟩
        case kept =>
          simp only [List.forall_mem_cons]
          use ⟨hfit, hstand.mono (Nat.le_succ n)⟩
        case lower =>
          intro hlimit
          apply (habove hlimit).mono
          omega

theorem load_arrange (rows : List Row) :
  Box.load (arrange m sp path nested rows)
    = Box.load (packRows m sp path nested sp.margin 0 rows).1.flatten
  := by
  simp only [arrange, Box.load_flatMap, Box.load_slideRight, Box.load_flatten]

/-! ### Scopes -/

/-- The boxes of a forest fit and stand no farther away than their siblings account for. -/
inductive Compact : List (Box Float) → Prop where
  | step {boxes : List (Box Float)} :
      (∀ b ∈ boxes, b.Fits ∧ b.Stands (Box.load boxes + 2)) → (∀ b ∈ boxes, Compact b.boxes) →
      Compact boxes

theorem stands_arrange (hsp : sp.Moderate)
    (hfits : ∀ label x y right, (boxFor m sp path label x y right (nested label)).Fits)
    {rows : List Row} (hrows : ∀ row ∈ rows, row.all ≠ []) :
  let boxes := arrange m sp path nested rows
  ∀ b ∈ boxes, b.Fits ∧ b.Stands (Box.load boxes + 2)
  := by
  intro boxes b hb
  obtain ⟨hpacked, hedge⟩ := stands_packRows hsp hfits hrows (le_refl 1) hsp.margin
    (Spans.zero.mono (Nat.zero_le 1))
  obtain ⟨row, hrow, hb⟩ := List.mem_flatMap.mp hb
  rw [← load_arrange] at hpacked hedge
  have hload : Box.load row ≤ 1 + Box.load boxes := by
    rw [load_arrange, Box.load_flatten]
    apply Nat.le_add_left_of_le
    apply List.single_le_sum (fun _ _ => Nat.zero_le _) _ (List.mem_map_of_mem hrow)
  obtain ⟨hslid, -⟩ := stands_slideRight hsp (Nat.le_add_right 1 _) hedge hload (hpacked row hrow)
  have hunits : Box.load boxes + 2 = 1 + Box.load boxes + 1 := by omega
  rw [hunits]
  apply hslid b hb

/-- The boxes of a scope whose rows have labels are compact, and so are those in them. -/
theorem compact_scopeBoxes (hm : m.Moderate) (hsp : sp.Moderate) {s : Scope} (hs : Labelled s)
    (path : Text) :
  Compact (scopeBoxes m sp path s)
  := by
  induction s using tree_induction generalizing path with
  | step s ih =>
      have hnested : ∀ path label boxes,
          (s.nested? label).map (scopeBoxes m sp path) = some boxes → Compact boxes := by
        intro path label boxes hboxes
        obtain ⟨d, hd, rfl⟩ := Option.map_eq_some_iff.mp hboxes
        have hmem := List.mem_of_find?_eq_some hd
        apply ih d hmem (hs.nested d hmem)
      have hfits : ∀ label x y right, (boxFor m sp path label x y right
          ((s.nested? label).map (scopeBoxes m sp (pathBelow path label)))).Fits := by
        intro label x y right
        apply fits_boxFor hm hsp
        intro boxes hboxes b hb
        cases hnested _ _ _ hboxes with
        | step hstands _ => apply (hstands b hb).2
      constructor
      · rw [scopeBoxes_eq]
        apply stands_arrange hsp hfits hs.rows
      · intro b hb
        rw [boxes_of_mem_scopeBoxes hb]
        cases hd : (s.nested? b.label).map (scopeBoxes m sp (pathBelow path b.label)) with
        | none =>
            constructor <;>
            · intro c hc
              contradiction
        | some boxes => apply hnested _ _ _ hd

/-! ### Places on the canvas -/

theorem Box.load_placeBoxes (start : Point Float) (boxes : List (Box Float)) :
  Box.load (placeBoxes start boxes) = Box.load boxes
  := by
  induction boxes using Box.forest_induction generalizing start with
  | step boxes ih =>
      rw [load_eq_sum, load_eq_sum, placeBoxes_eq_map, List.map_map]
      apply congrArg List.sum
      apply List.map_congr_left
      intro b hb
      rw [Function.comp_apply, room, placeBox_label, placeBox_boxes, ih b hb, room]

theorem Box.room_placeBox (start : Point Float) (b : Box Float) :
  (placeBox start b).room = b.room
  := by rw [room, placeBox_label, placeBox_boxes, load_placeBoxes, room]

theorem Box.Fits.placeBox {b : Box Float} (h : b.Fits) (start : Point Float) :
  (placeBox start b).Fits
  := by
  constructor
  case width =>
    rw [room_placeBox, placeBox_width]
    apply h.width
  case height =>
    rw [room_placeBox, placeBox_height]
    apply h.height
  case innerX =>
    rw [placeBox_inner]
    apply h.innerX
  case innerY =>
    rw [placeBox_inner]
    apply h.innerY

theorem Box.Stands.placeBox {n : Nat} {b : Box Float} (h : b.Stands n) (start : Point Float) :
  (placeBox start b).Stands n
  := by
  constructor
  case x =>
    rw [placeBox_x]
    apply h.x
  case right =>
    rw [placeBox_x, placeBox_width]
    apply h.right
  case y =>
    rw [placeBox_y]
    apply h.y
  case bottom =>
    rw [placeBox_y, placeBox_height]
    apply h.bottom

/-- A box stands on the canvas at most `n` units away from the origin. -/
structure Box.Reaches (n : Nat) (b : Box Float) : Prop where
  left : Within n b.left
  top : Within n b.top

/-- Every box of a compact forest keeps its size on the canvas, and stands no farther away from the
start than the square of what the forest accounts for. -/
theorem reaches_placeBoxes {boxes : List (Box Float)} (h : Compact boxes) {n : Nat}
    {start : Point Float} (hx : Within n start.x) (hy : Within n start.y) :
  ∀ d ∈ Box.walkAll (placeBoxes start boxes),
    d.Fits ∧ d.Reaches (n + Box.load boxes * Box.load boxes)
  := by
  induction h generalizing n start with
  | @step boxes hstands _ ih =>
      intro d hd
      obtain ⟨placed, hplaced, hd⟩ := Box.mem_walkAll.mp hd
      obtain ⟨b, hb, rfl⟩ := mem_placeBoxes.mp hplaced
      obtain ⟨hfit, hstand⟩ := hstands b hb
      have hroom := Box.room_lt_load hb
      rw [Box.room] at hroom
      have hleft := hx.add hstand.x
      have htop := hy.add hstand.y.within
      obtain rfl | hd := hd
      · have hsquare : Box.load boxes + 2 ≤ Box.load boxes * Box.load boxes := by nlinarith
        use hfit.placeBox start
        constructor
        case left =>
          rw [placeBox_left]
          apply hleft.mono (Nat.add_le_add_left hsquare n)
        case top =>
          rw [placeBox_top]
          apply htop.mono (Nat.add_le_add_left hsquare n)
      · have hsquare : Box.load boxes + 5 + Box.load b.boxes * Box.load b.boxes
            ≤ Box.load boxes * Box.load boxes := by nlinarith
        rw [placeBox_boxes] at hd
        have hinnerX := (hleft.add hfit.innerX.within).mono (Nat.add_le_add_left (Nat.zero_le 3) _)
        have hinnerY := htop.add hfit.innerY.within
        obtain ⟨hdfit, hreach⟩ := ih b hb hinnerX hinnerY d hd
        use hdfit
        constructor
        case left =>
          apply hreach.left.mono
          omega
        case top =>
          apply hreach.top.mono
          omega

end BoxDiagram
