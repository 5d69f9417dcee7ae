import BoxDiagram.Proofs.Drawing.Calls
import BoxDiagram.Proofs.Layout.Extents
import BoxDiagram.Proofs.Lookup.Spelling
import BoxDiagram.Proofs.Settings.Accepted
import BoxDiagram.Proofs.Svg.Writing

/-!
# Finite drawings

Where all sizes of a style are at most one unit and the boxes of a diagram account for few
enough units, every number that a drawing is given is finite.  Places are counted in units, from
the boxes over the lines of text in them to the ends and heads of connectors.
-/

namespace BoxDiagram

open Scope

/-- The units that the boxes of a diagram may account for. -/
def loadLimit : Nat := 2 ^ 24

/-- The units that a place on the canvas may be away from the origin. -/
def placeLimit : Nat := 2 ^ 49

/-- The units that a number given to a call may be away from zero. -/
def numberLimit : Nat := 2 ^ 50

theorem placeLimit_le :
  placeLimit ≤ numberLimit
  := by norm_num [placeLimit, numberLimit]

theorem loadLimit_le :
  loadLimit ≤ numberLimit
  := by norm_num [loadLimit, numberLimit]

/-- Every number that a call is given is at most `n` units away from zero. -/
def Call.Within (n : Nat) (call : Call Float) : Prop :=
  ∀ x ∈ call.numbers, BoxDiagram.Within n x

/-! ### Boxes -/

/-- A box whose place and size are few enough units. -/
structure Box.Moderate (b : Box Float) : Prop where
  left : Within placeLimit b.left
  top : Within placeLimit b.top
  width : Spans loadLimit b.width
  height : Spans loadLimit b.height
  strip : Spans 3 b.inner.y
  label : b.label.length ≤ loadLimit

variable {m : Measurer Float} {style : Style Float} {font : Text}

/-- The words of a label are drawn within few units of the box. -/
theorem within_drawWords (hm : m.Moderate) {left width : Float} (hleft : Within placeLimit left)
    (hwidth : Within loadLimit width) {words : List Text}
    (hwords : ∀ w ∈ words, w.length ≤ loadLimit) {n : Nat} {y : Float} (hy : Within n y)
    (hn : n + words.length ≤ numberLimit) :
  ∀ call ∈ drawWords m style font left width y words, call.Within numberLimit
  := by
  induction words generalizing n y with
  | nil =>
      intro call hcall
      contradiction
  | cons word words ih =>
      obtain ⟨hword, hwords⟩ := List.forall_mem_cons.mp hwords
      rw [List.length_cons] at hn
      rw [drawWords, List.forall_mem_cons]
      constructor
      · rw [Call.Within, Call.numbers, List.forall_mem_cons, List.forall_mem_singleton]
        constructor
        · have hslack := (hwidth.sub ((hm.width word).mono hword).within).half
          apply (hleft.add hslack).mono
          norm_num [placeLimit, loadLimit, numberLimit]
        · apply hy.mono
          omega
      · apply ih hwords (hy.add hm.lineHeight.within)
        omega

/-- All sizes of a style are at most one unit. -/
structure Style.Moderate (style : Style Float) : Prop where
  fontSize : Spans 1 style.fontSize
  spacing : style.spacing.Moderate
  dashLength : Spans 1 style.dashLength
  dashSpacing : Spans 1 style.dashSpacing
  headLength : Spans 1 style.headLength

theorem within_firstBaseline (hm : m.Moderate) (hstyle : style.Moderate) {top : Float}
    (htop : Within placeLimit top) :
  Within (placeLimit + 1 + 1) (firstBaseline m style top)
  := (htop.add hstyle.spacing.padding.within).add hm.lineHeight.within

/-- A moderate box is drawn within few units. -/
theorem within_drawAlone (hm : m.Moderate) (hstyle : style.Moderate) {b : Box Float}
    (hb : b.Moderate) :
  ∀ call ∈ drawAlone m style font b, call.Within numberLimit
  := by
  have hbaseline := within_firstBaseline hm hstyle hb.top
  have hleft : Within numberLimit b.left := hb.left.mono placeLimit_le
  have htop : Within numberLimit b.top := hb.top.mono placeLimit_le
  have hwidth : Within numberLimit b.width := hb.width.within.mono loadLimit_le
  have hheight : Within numberLimit b.height := hb.height.within.mono loadLimit_le
  have houtline : (Call.strokeRect b.left b.top b.width b.height style.lineColor).Within
      numberLimit := by
    simp [Call.Within, Call.numbers, hleft, htop, hwidth, hheight]
  rw [drawAlone]
  split
  · have hstrip : Within numberLimit b.inner.y := hb.strip.within.mono (by norm_num [numberLimit])
    have htext : Within numberLimit (b.left + style.scopePadding) := by
      apply (hb.left.add hstyle.spacing.padding.within).mono
      norm_num [placeLimit, numberLimit]
    have hline : Within numberLimit (firstBaseline m style b.top) := by
      apply hbaseline.mono
      norm_num [placeLimit, numberLimit]
    rw [drawContainer]
    simp only [List.forall_mem_cons]
    refine ⟨?shade, ?caption, houtline, by simp⟩
    case shade => simp [Call.Within, Call.numbers, hleft, htop, hwidth, hstrip]
    case caption => simp [Call.Within, Call.numbers, htext, hline]
  · rw [drawLeaf, List.forall_mem_cons]
    use houtline
    apply within_drawWords hm hb.left hb.width.within _ hbaseline
    · have hwords := Text.length_words_le b.label
      have hlabel := hb.label
      rw [loadLimit] at hlabel
      rw [placeLimit, numberLimit]
      omega
    · intro word hword
      apply (Text.length_le_of_mem_words hword).trans hb.label

/-! ### Connectors -/

/-- The angular functions give numbers in their usual ranges. -/
structure BoundedAngles [Angular Float] : Prop where
  direction : ∀ y x, IsFinite y → IsFinite x →
    ∃ a, valueOf? (Angular.direction y x) = some a ∧ |a| ≤ 4
  spread : ∃ a, valueOf? (Angular.spread : Float) = some a ∧ |a| ≤ 4
  sine : ∀ angle, IsFinite angle → ∃ a, valueOf? (Angular.sine angle) = some a ∧ |a| ≤ 1
  cosine : ∀ angle, IsFinite angle → ∃ a, valueOf? (Angular.cosine angle) = some a ∧ |a| ≤ 1

/-- A point at most `n` units away from both axes. -/
structure Point.Within (n : Nat) (p : Point Float) : Prop where
  x : BoxDiagram.Within n p.x
  y : BoxDiagram.Within n p.y

theorem Point.Within.mono {n k : Nat} {p : Point Float} (h : p.Within n) (hle : n ≤ k) :
  p.Within k
  := ⟨h.x.mono hle, h.y.mono hle⟩

section

variable [Angular Float]

/-- Sums and differences of an angle and the spread are finite. -/
theorem isFinite_spread (h : BoundedAngles) {angle : Float}
    (hangle : ∃ a, valueOf? angle = some a ∧ |a| ≤ 4) :
  IsFinite (angle - Angular.spread) ∧ IsFinite (angle + Angular.spread)
  := by
  obtain ⟨a, ha, hale⟩ := hangle
  obtain ⟨b, hb, hble⟩ := h.spread
  obtain ⟨hleast, hmost⟩ := abs_le.mp hale
  obtain ⟨hleast', hmost'⟩ := abs_le.mp hble
  have height : Representable 8 := representable_nat (n := 8) (by norm_num)
  constructor
  · apply isFinite_of_bounds
    · apply (atLeast_of_value ha hleast).sub (atMost_of_value hb hmost') height.neg
      norm_num
    · apply (atMost_of_value ha hmost).sub (atLeast_of_value hb hleast') height
      norm_num
  · apply isFinite_of_bounds
    · apply (atLeast_of_value ha hleast).add (atLeast_of_value hb hleast') height.neg
      norm_num
    · apply (atMost_of_value ha hmost).add (atMost_of_value hb hmost') height
      norm_num

/-- Going back along an angle by one unit at most leads at most one unit farther away. -/
theorem within_backAlong (h : BoundedAngles) {n : Nat} {p : Point Float} (hp : p.Within n)
    {length angle : Float} (hlength : Spans 1 length) (hangle : IsFinite angle) :
  (backAlong p length angle).Within (n + 1)
  := by
  obtain ⟨c, hc, hcle⟩ := h.cosine angle hangle
  obtain ⟨s, hs, hsle⟩ := h.sine angle hangle
  constructor
  case x => apply hp.x.sub (hlength.within.mul hc hcle)
  case y => apply hp.y.sub (hlength.within.mul hs hsle)

/-- The points of a head are at most two units farther away than the ends of the line. -/
theorem within_outline (h : BoundedAngles) {n : Nat} (hn : n + n ≤ unitLimit)
    {start finish : Point Float} (hstart : start.Within n) (hfinish : finish.Within n)
    {length : Float} (hlength : Spans 1 length) (style : HeadStyle) :
  ∀ p ∈ (ArrowHead.ofLine start finish style length).outline, p.Within (n + 2)
  := by
  have hangle := h.direction (finish.y - start.y) (finish.x - start.x)
    ((hfinish.y.sub hstart.y).isFinite hn) ((hfinish.x.sub hstart.x).isFinite hn)
  obtain ⟨hless, hmore⟩ := isFinite_spread h hangle
  have htip := hfinish.mono (Nat.le_add_right n 2)
  have hsideA := within_backAlong h hfinish hlength hless
  have hsideB := within_backAlong h hfinish hlength hmore
  have hback := within_backAlong h hsideA hlength hmore
  simp only [ArrowHead.outline, ArrowHead.ofLine]
  cases style.isDiamond with
  | false =>
      simp only [Bool.false_eq_true, if_false, List.forall_mem_cons]
      exact ⟨htip, hsideA.mono (Nat.le_succ _), hsideB.mono (Nat.le_succ _), by simp⟩
  | true =>
      simp only [if_true, List.forall_mem_cons]
      exact ⟨htip, hsideA.mono (Nat.le_succ _), hback, hsideB.mono (Nat.le_succ _), by simp⟩

end

/-- An end of a connector on one axis is a side of a box or its centre. -/
theorem within_axisEnds {n : Nat} (before behind : Bool)
    {aStart aCenter aEnd bStart bCenter bEnd : Float}
    (ha : Within n aStart ∧ Within n aCenter ∧ Within n aEnd)
    (hb : Within n bStart ∧ Within n bCenter ∧ Within n bEnd) :
  let ends := axisEnds before behind aStart aCenter aEnd bStart bCenter bEnd
  Within n ends.1 ∧ Within n ends.2
  := by
  obtain ⟨haStart, haCenter, haEnd⟩ := ha
  obtain ⟨hbStart, hbCenter, hbEnd⟩ := hb
  rw [axisEnds]
  split
  · use haEnd
  · split
    · use haStart
    · use haCenter

/-- The sides and the centre of a moderate box. -/
theorem Box.Moderate.sides {b : Box Float} (hb : b.Moderate) :
  let n := placeLimit + loadLimit
  (Within n b.left ∧ Within n b.center.x ∧ Within n b.right)
    ∧ Within n b.top ∧ Within n b.center.y ∧ Within n b.bottom
  := by
  have hle : placeLimit ≤ placeLimit + loadLimit := Nat.le_add_right _ _
  refine ⟨⟨hb.left.mono hle, ?_, ?_⟩, hb.top.mono hle, ?_, ?_⟩
  · apply hb.left.add hb.width.within.half
  · apply hb.left.add hb.width.within
  · apply hb.top.add hb.height.within.half
  · apply hb.top.add hb.height.within

/-- The tip of a head and a corner on each side are on its outline. -/
theorem ArrowHead.mem_outline {α : Type} (h : ArrowHead α) :
  h.tip ∈ h.outline ∧ h.sideA ∈ h.outline ∧ h.sideB ∈ h.outline
  := by
  rw [outline]
  cases h.back <;> simp

/-- A head is drawn no farther away than its outline. -/
theorem within_drawHead {n : Nat} {connector : Connector Float}
    (h : ∀ p ∈ connector.head.outline, p.Within n) :
  ∀ call ∈ drawHead style connector, call.Within n
  := by
  rw [drawHead]
  split
  · obtain ⟨htip, hsideA, hsideB⟩ := connector.head.mem_outline
    simp [Call.Within, Call.numbers, (h _ htip).x, (h _ htip).y, (h _ hsideA).x, (h _ hsideA).y,
      (h _ hsideB).x, (h _ hsideB).y]
  · have hpoints : ∀ x ∈ connector.head.outline.flatMap (fun p => [p.x, p.y]),
        BoxDiagram.Within n x := by
      intro x hx
      obtain ⟨p, hp, hx⟩ := List.mem_flatMap.mp hx
      simp only [List.mem_cons, List.not_mem_nil, or_false] at hx
      obtain rfl | rfl := hx
      · apply (h p hp).x
      · apply (h p hp).y
    simp only [List.forall_mem_cons]
    exact ⟨hpoints, hpoints, by simp⟩

section

variable [Angular Float]

/-- A connector between moderate boxes is drawn within few units. -/
theorem within_drawConnector (h : BoundedAngles) (hstyle : style.Moderate) (relation : Relation)
    {a b : Box Float} (ha : a.Moderate) (hb : b.Moderate) :
  ∀ call ∈ drawConnector style (.between style.headLength relation a b), call.Within numberLimit
  := by
  let n := placeLimit + loadLimit
  have hn : n + 2 ≤ numberLimit := by norm_num [n, placeLimit, loadLimit, numberLimit]
  have hlimit : n + n ≤ unitLimit := by norm_num [n, placeLimit, loadLimit, unitLimit]
  obtain ⟨hax, hay⟩ := ha.sides
  obtain ⟨hbx, hby⟩ := hb.sides
  obtain ⟨hstartX, hfinishX⟩ := within_axisEnds (a.isLeftOf b) (a.isRightOf b) hax hbx
  obtain ⟨hstartY, hfinishY⟩ := within_axisEnds (a.isAbove b) (a.isBelow b) hay hby
  have hstart : (connectorEnds a b).1.Within n := ⟨hstartX, hstartY⟩
  have hfinish : (connectorEnds a b).2.Within n := ⟨hfinishX, hfinishY⟩
  have houtline := within_outline h hlimit hstart hfinish hstyle.headLength
    (ArrowStyle.ofArrow relation.arrow).head
  rw [drawConnector, List.forall_mem_cons]
  constructor
  · have hstart := hstart.mono (Nat.le_of_add_right_le hn)
    have hfinish := hfinish.mono (Nat.le_of_add_right_le hn)
    have hone : 1 ≤ numberLimit := by norm_num [numberLimit]
    have hlength := hstyle.dashLength.within.mono hone
    have hspacing := hstyle.dashSpacing.within.mono hone
    simp only [Connector.between]
    cases (ArrowStyle.ofArrow relation.arrow).line <;>
      simp [Call.Within, Call.numbers, Style.dash, hstart.x, hstart.y, hfinish.x, hfinish.y,
        hlength, hspacing]
  · apply within_drawHead
    intro p hp
    apply (houtline p hp).mono hn

end

/-! ### Scenes -/

/-- Every connector of a diagram joins two of its boxes. -/
theorem exists_between_of_mem_connectAll [Angular Float] {headLength : Float} {s : Scope}
    {boxes : List (Box Float)} {connector : Connector Float}
    (h : connector ∈ connectAll headLength s boxes) :
  ∃ relation, ∃ a ∈ Box.walkAll boxes, ∃ b ∈ Box.walkAll boxes,
    connector = .between headLength relation a b
  := by
  obtain ⟨⟨path, c⟩, -, h⟩ := List.mem_flatMap.mp h
  obtain ⟨relation, -, h⟩ := List.mem_filterMap.mp h
  rw [connect] at h
  split at h
  · next a b ha hb =>
      obtain rfl := Option.some.inj h
      use relation, a, mem_walkAll_of_boxNamed ha, b, mem_walkAll_of_boxNamed hb
  · contradiction

/-- The boxes of a diagram are moderate if they account for few enough units. -/
theorem moderate_of_mem_layoutBoxes (hm : m.Moderate) (hstyle : style.Moderate) {s : Scope}
    (hs : Labelled s) (hload : Box.load (layoutBoxes m style.spacing s) ≤ loadLimit) :
  ∀ b ∈ Box.walkAll (layoutBoxes m style.spacing s), b.Moderate
  := by
  intro b hb
  have hroom : b.room ≤ loadLimit := (Box.room_lt_load_of_mem_walkAll hb).le.trans hload
  have hlength : b.label.length ≤ b.room := by
    rw [Box.room]
    omega
  have hcanvas := hstyle.spacing.canvasPadding.within
  have hcompact := compact_scopeBoxes hm hstyle.spacing hs []
  obtain ⟨hfit, hreach⟩ := reaches_placeBoxes hcompact hcanvas hcanvas b hb
  rw [layoutBoxes, Box.load_placeBoxes] at hload
  have hplace : 1 + Box.load (scopeBoxes m style.spacing [] s)
      * Box.load (scopeBoxes m style.spacing [] s) ≤ placeLimit := by
    have hsquare := Nat.mul_le_mul hload hload
    rw [placeLimit]
    norm_num [loadLimit] at hsquare
    omega
  constructor
  case left => apply hreach.left.mono hplace
  case top => apply hreach.top.mono hplace
  case width => apply hfit.width.mono hroom
  case height => apply hfit.height.mono hroom
  case strip => apply hfit.innerY
  case label => apply hlength.trans hroom

/-- The canvas of a diagram is few units large if the boxes account for few enough units. -/
theorem within_canvasSize (hm : m.Moderate) (hstyle : style.Moderate) {s : Scope}
    (hs : Labelled s) (hload : Box.load (layoutBoxes m style.spacing s) ≤ loadLimit) :
  let size := canvasSize style.spacing (layoutBoxes m style.spacing s)
  Within numberLimit size.width ∧ Within numberLimit size.height
  := by
  have hcanvas := hstyle.spacing.canvasPadding.double one_le_unitLimit
  have hstands : ∀ b ∈ layoutBoxes m style.spacing s, b.Stands (loadLimit + 2) := by
    intro b hb
    obtain ⟨a, ha, rfl⟩ := mem_placeBoxes.mp hb
    rw [layoutBoxes, Box.load_placeBoxes] at hload
    apply Box.Stands.placeBox
    cases compact_scopeBoxes hm hstyle.spacing hs [] with
    | step hstands _ => apply (hstands a ha).2.mono (Nat.add_le_add_right hload 2)
  obtain ⟨hwidth, hheight⟩ := spans_contentSize hstyle.spacing hstands
  constructor
  · apply (hwidth.add hcanvas).within.mono
    norm_num [loadLimit, numberLimit]
  · apply (hheight.add hcanvas).within.mono
    norm_num [loadLimit, numberLimit]

/-- Every number that the drawing of a diagram is given is few units away from zero. -/
theorem within_drawScene [Angular Float] (h : BoundedAngles) (hm : m.Moderate)
    (hstyle : style.Moderate) {s : Scope} (hs : Labelled s)
    (hload : Box.load (layoutBoxes m style.spacing s) ≤ loadLimit) :
  ∀ call ∈ drawScene m style font (.ofValid m style s), call.Within numberLimit
  := by
  have hmoderate := moderate_of_mem_layoutBoxes hm hstyle hs hload
  obtain ⟨hwidth, hheight⟩ := within_canvasSize hm hstyle hs hload
  rw [drawScene, List.forall_mem_append, List.forall_mem_cons, List.forall_mem_cons]
  refine ⟨⟨?size, ?background, ?boxes⟩, ?connectors⟩
  case size =>
    rw [Call.Within, Call.numbers, List.forall_mem_cons, List.forall_mem_singleton]
    exact ⟨hwidth, hheight⟩
  case background => simp [Call.Within, Call.numbers]
  case boxes =>
    intro call hcall
    obtain ⟨b, hb, hcall⟩ := exists_mem_drawAlone hcall
    apply within_drawAlone hm hstyle (hmoderate b hb) call hcall
  case connectors =>
    intro call hcall
    obtain ⟨connector, hconnector, hcall⟩ := List.mem_flatMap.mp hcall
    obtain ⟨relation, a, ha, b, hb, rfl⟩ := exists_between_of_mem_connectAll hconnector
    apply within_drawConnector h hstyle relation (hmoderate a ha) (hmoderate b hb) call hcall

end BoxDiagram
