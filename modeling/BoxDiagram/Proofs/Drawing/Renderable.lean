import BoxDiagram.Proofs.Drawing.Finite
import BoxDiagram.Proofs.Drawing.Rendering
import BoxDiagram.Proofs.Excalidraw.Share

/-!
# Diagrams that can be rendered

For a valid diagram and an accepted style nothing but a number that is not finite can keep a
drawing from being made, and only an SVG drawing: every head has the points that it is drawn
by, and every polygon has points.  The checks of the settings do not exclude sizes so great
that their sums are infinite.  Where the sizes of the style and the extent of the diagram are
moderate, all numbers are finite.
-/

namespace BoxDiagram

open Scope

/-! ### Heads and polygons -/

section

variable {α : Type}

/-- The points of the polygon that a call draws. -/
def Call.polygon? : Call α → Option (List (Point α))
  | .fillPolygon points _ | .strokePolygon points _ => some points
  | _ => none

theorem ArrowHead.outline_ne_nil (h : ArrowHead α) :
  h.outline ≠ []
  := List.ne_nil_of_mem h.mem_outline.1

/-- The polygons for a connector have points. -/
theorem ne_nil_of_mem_drawConnector {style : Style α} {connector : Connector α} {call : Call α}
    (h : call ∈ drawConnector style connector) :
  ∀ points ∈ call.polygon?, points ≠ []
  := by
  rw [drawConnector, drawHead] at h
  intro points hpoints
  obtain rfl | h := List.mem_cons.mp h
  · contradiction
  · split at h <;> simp only [List.mem_cons, List.not_mem_nil, or_false] at h
    · obtain rfl | rfl := h <;> contradiction
    · obtain rfl | rfl := h <;>
      · obtain rfl := Option.some.inj hpoints
        apply ArrowHead.outline_ne_nil

variable [Scalar α] {m : Measurer α} {style : Style α} {font : Text}

/-- No box is drawn by polygons. -/
theorem polygon?_of_mem_drawAlone {b : Box α} {call : Call α}
    (h : call ∈ drawAlone m style font b) :
  call.polygon? = none
  := by
  rw [drawAlone] at h
  split at h
  · rw [drawContainer] at h
    simp only [List.mem_cons, List.not_mem_nil, or_false] at h
    obtain rfl | rfl | rfl := h <;> rfl
  · rw [drawLeaf] at h
    obtain rfl | h := List.mem_cons.mp h
    · rfl
    · obtain ⟨word, -, x, y, rfl⟩ := mem_drawWords h
      rfl

/-- Every polygon of a drawing has points. -/
theorem ne_nil_of_mem_drawScene {scene : Scene α} {call : Call α}
    (h : call ∈ drawScene m style font scene) :
  ∀ points ∈ call.polygon?, points ≠ []
  := by
  rw [drawScene] at h
  simp only [List.cons_append, List.mem_cons, List.mem_append, List.mem_flatMap] at h
  obtain rfl | rfl | h | ⟨connector, -, h⟩ := h
  · intro points hpoints
    contradiction
  · intro points hpoints
    contradiction
  · obtain ⟨b, -, h⟩ := exists_mem_drawAlone h
    intro points hpoints
    rw [polygon?_of_mem_drawAlone h] at hpoints
    contradiction
  · apply ne_nil_of_mem_drawConnector h

/-- The head of a connector that is drawn by lines has three points: its tip and its two sides. -/
theorem outline_of_plain [Angular α] {headLength : α} {relation : Relation} {a b : Box α}
    (h : (Connector.between headLength relation a b).style.head = .plain) :
  let head := (Connector.between headLength relation a b).head
  head.outline = [head.tip, head.sideA, head.sideB]
  := by
  have hplain : (ArrowStyle.ofArrow relation.arrow).head = .plain := h
  have hdiamond : (ArrowStyle.ofArrow relation.arrow).head.isDiamond = false := by
    rw [hplain]
    rfl
  simp only [Connector.between, ArrowHead.ofLine, hdiamond]
  rfl

end

/-! ### Moderate sizes -/

namespace Style

/-- The sizes of a style. -/
def sizes {α : Type} (style : Style α) : List α :=
  [style.fontSize, style.scopeMargin, style.scopePadding, style.canvasPadding, style.dashLength,
    style.dashSpacing, style.headLength]

theorem spans_one {x : Float} (h : AtLeast 0 x) (hx : AtMost greatUnit x) :
  Spans 1 x
  := by
  constructor
  case nonneg =>
    intro _
    apply h
  case below =>
    intro _
    rwa [Nat.cast_one, one_mul]

/-- An accepted style whose sizes are at most one unit is moderate. -/
theorem Accepted.moderate {style : Style Float} (h : style.Accepted)
    (hsizes : ∀ x ∈ style.sizes, AtMost greatUnit x) :
  style.Moderate
  := by
  have hpositive : ∀ {x : Float}, 0.0 < x → AtLeast 0 x := fun hx =>
    (atLeast_of_pos hx).mono leastPositive_pos.le
  simp only [sizes, List.forall_mem_cons] at hsizes
  obtain ⟨hsize, hmargin, hpadding, hcanvas, hdash, hspacing, hhead, -⟩ := hsizes
  constructor
  case fontSize => apply spans_one (hpositive h.fontSize) hsize
  case spacing =>
    constructor
    case margin => apply spans_one (atLeast_of_nonneg h.scopeMargin) hmargin
    case padding => apply spans_one (atLeast_of_nonneg h.scopePadding) hpadding
    case canvasPadding => apply spans_one (atLeast_of_nonneg h.canvasPadding) hcanvas
  case dashLength => apply spans_one (hpositive h.dashLength) hdash
  case dashSpacing => apply spans_one (hpositive h.dashSpacing) hspacing
  case headLength => apply spans_one (hpositive h.headLength) hhead

/-- The sizes of the usual style are at most one unit. -/
theorem atMost_standard :
  ∀ x ∈ standard.sizes, AtMost greatUnit x
  := by
  simp only [sizes, standard, List.forall_mem_cons]
  refine ⟨?_, ?_, ?_, ?_, ?_, ?_, ?_, by simp⟩
  all_goals
    apply atMost_greatUnit rfl
    decide

end Style

/-! ### Level connectors -/

/-- The angular functions as they are for a connector that leads to the right. -/
@[reducible]
def levelAngles : Angular Float where
  direction _ _ := 0
  sine angle := if angle < 0 then -0.49999999999999994 else 0.49999999999999994
  cosine _ := 0.8660254037844387
  spread := 0.5235987755982988

theorem boundedAngles_levelAngles :
  @BoundedAngles levelAngles
  := by
  have hsine : valueOf? 0.49999999999999994
      = some (((9007199254740991 : Nat) : ℚ) * 2 ^ (-54 : Int)) :=
    valueOf?_of_unpack (by decide) rfl
  have hsine' : valueOf? (-0.49999999999999994)
      = some (-(((9007199254740991 : Nat) : ℚ) * 2 ^ (-54 : Int))) :=
    (unpackedValue?_neg _).trans (congrArg _ hsine)
  have hcosine : valueOf? 0.8660254037844387
      = some (((7800463371553963 : Nat) : ℚ) * 2 ^ (-53 : Int)) :=
    valueOf?_of_unpack (by decide) rfl
  have hspread : valueOf? 0.5235987755982988
      = some (((4716158501352293 : Nat) : ℚ) * 2 ^ (-53 : Int)) :=
    valueOf?_of_unpack (by decide) rfl
  let _ := levelAngles
  constructor
  case direction =>
    intro y x _ _
    use 0, valueOf?_zero
    norm_num
  case spread =>
    refine ⟨_, hspread, ?_⟩
    norm_num [abs_le]
  case sine =>
    intro angle _
    simp only [Angular.sine]
    split
    · refine ⟨_, hsine', ?_⟩
      norm_num [abs_le]
    · refine ⟨_, hsine, ?_⟩
      norm_num [abs_le]
  case cosine =>
    intro angle _
    refine ⟨_, hcosine, ?_⟩
    norm_num [abs_le]

/-! ### Rendering -/

/-- A diagram of moderate extent is drawn as SVG in a style with moderate sizes. -/
theorem succeeds_drawAll_of_moderate [Angular Float] (hangles : BoundedAngles)
    {style : Style Float} (hstyle : style.Accepted)
    (hsizes : ∀ x ∈ style.sizes, AtMost greatUnit x) (t : Text)
    (hload : Box.load (Scene.ofValid (Measurer.guessing style.fontSize) style (ofText t)).boxes
      ≤ loadLimit) :
  let m := Measurer.guessing style.fontSize
  Succeeds (Svg.empty.drawAll
    (drawScene m style style.font (Scene.ofValid m style (ofText t))))
  := by
  have hempty : Svg.empty.Sized := ⟨rfl, rfl⟩
  have hmoderate := hstyle.moderate hsizes
  rw [Svg.succeeds_drawAll_iff hempty]
  intro call hcall x hx
  have hwithin := within_drawScene hangles (moderate_guessing hmoderate.fontSize) hmoderate
    (labelled_ofText t) hload call hcall x hx
  apply hwithin.isFinite
  norm_num [numberLimit, unitLimit]

/-- A valid diagram can be rendered in an accepted style with guessed widths, but for numbers that
are not finite.

* The diagram has a scene, and rendering makes the calls for it.
* These can all be drawn as an Excalidraw scene.
* The head of a connector that is drawn by lines has three points, and every polygon has points.
* The calls can all be drawn as SVG exactly if all numbers that they are given are finite.
* This is so if the sizes of the style are at most one unit, the boxes account for few enough units
  and the angular functions give numbers in their usual ranges. -/
theorem render_succeeds_iff [Angular Float] (t : Text) (fields : Fields) (style : Style Float)
    (hstyle : Style.ofFields fields = .ok style) (hvalid : (ofText t).hasErrors = false)
    (name : Text) (seed : Int) :
  let s := ofText t
  let m := Measurer.guessing style.fontSize
  let scene := Scene.ofValid m style s
  ∃ calls : List (Call Float),
    (render m style style.font recorder s).run.run [] = (.ok scene, calls)
      ∧ Succeeds ((ExcalidrawScene.empty name seed).drawAll calls)
      ∧ (∀ c ∈ scene.connectors, c.style.head = .plain →
          c.head.outline = [c.head.tip, c.head.sideA, c.head.sideB])
      ∧ (∀ call ∈ calls, ∀ points ∈ call.polygon?, points ≠ [])
      ∧ (Succeeds (Svg.empty.drawAll calls) ↔ ∀ call ∈ calls, ∀ x ∈ call.numbers, IsFinite x)
      ∧ ((∀ x ∈ style.sizes, AtMost greatUnit x) → Box.load scene.boxes ≤ loadLimit →
          BoundedAngles → Succeeds (Svg.empty.drawAll calls))
  := by
  intro s m scene
  have hempty : Svg.empty.Sized := ⟨rfl, rfl⟩
  use drawScene m style style.font scene
  refine ⟨?calls, ?excalidraw, ?heads, ?polygons, ?svg, ?moderate⟩
  case calls =>
    rw [run_render_of_valid hvalid, StateT.run_bind, run_forM_recorder, List.nil_append]
    rfl
  case excalidraw =>
    obtain ⟨drawn, hdrawn, -⟩ := ExcalidrawScene.exists_drawn m style style.font scene
      (ExcalidrawScene.elements_empty name seed)
    use drawn, hdrawn
  case heads =>
    intro c hc
    obtain ⟨relation, a, -, b, -, rfl⟩ := exists_between_of_mem_connectAll hc
    apply outline_of_plain
  case polygons =>
    intro call hcall
    apply ne_nil_of_mem_drawScene hcall
  case svg => apply Svg.succeeds_drawAll_iff hempty
  case moderate =>
    intro hsizes hload hangles
    apply succeeds_drawAll_of_moderate hangles (Style.accepted_ofFields hstyle) hsizes t hload

/-- Two boxes and the connector between them are rendered in the usual style. -/
theorem render_succeeds_iff_joined :
  letI := levelAngles
  let style := Style.standard
  let m := Measurer.guessing style.fontSize
  let s := ofText "layout:\n[A][B]\nrelations:\n[A]-->[B]\n"
  let scene := Scene.ofValid m style s
  Style.ofFields [] = .ok style ∧ s.hasErrors = false ∧ scene.connectors.length = 1
    ∧ ∃ calls : List (Call Float),
        (render m style style.font recorder s).run.run [] = (.ok scene, calls)
          ∧ Succeeds (Svg.empty.drawAll calls)
  := by
  intro style m s scene
  have hvalid : s.hasErrors = false := by decide +kernel
  have hload : Box.load scene.boxes ≤ loadLimit := by decide +kernel
  refine ⟨rfl, hvalid, by decide +kernel, ?_⟩
  obtain ⟨calls, hcalls, -, -, -, -, hmoderate⟩ :=
    @render_succeeds_iff levelAngles _ [] style rfl hvalid [] 1
  use calls, hcalls
  apply hmoderate Style.atMost_standard hload boundedAngles_levelAngles

/-- A canvas padding can be accepted although twice as much is not finite, and then the size of
the canvas cannot be written. -/
theorem not_render_succeeds_wide :
  let style := { Style.standard with canvasPadding := 1.5e308 }
  let m := Measurer.guessing style.fontSize
  let s := ofText "layout:\n[A]\n"
  Style.ofFields [("canvas_padding", .float 1.5e308)] = .ok style ∧ s.hasErrors = false
    ∧ ¬ Succeeds (Svg.empty.drawAll (drawScene m style style.font (Scene.ofValid m style s)))
  := by
  intro style m s
  refine ⟨?accepted, ?valid, ?fails⟩
  case accepted =>
    apply Style.ofFields_canvasPadding
    decide +kernel
  case valid => decide +kernel
  case fails =>
    let scene := Scene.ofValid m style s
    have hempty : Svg.empty.Sized := ⟨rfl, rfl⟩
    have hwidth : ¬ IsFinite scene.size.width := by decide +kernel
    rw [Svg.succeeds_drawAll_iff hempty]
    intro h
    apply hwidth
    apply h (.setSize scene.size.width scene.size.height)
    · rw [drawScene]
      apply List.mem_cons_self
    · apply List.mem_cons_self

end BoxDiagram
