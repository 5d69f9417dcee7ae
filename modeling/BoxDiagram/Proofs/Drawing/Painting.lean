import BoxDiagram.Proofs.Decimal.Bounds
import BoxDiagram.Proofs.Document.Described
import BoxDiagram.Proofs.Drawing.Rendering
import BoxDiagram.Proofs.Drawing.Texts
import BoxDiagram.Proofs.Lookup.Drawn
import BoxDiagram.Proofs.Settings.Accepted

/-!
# Painting every box once

Whether a box is painted as a container shows in its inner origin.  Where a caption has a
height this agrees with what the box was made from, and so the calls for a forest are those for
its boxes one after the other, outer boxes before the boxes in them.  A caption has a height
with doubles for every accepted style, because the font size is positive and the padding is not
negative.
-/

namespace BoxDiagram

open Scope

variable {α : Type}

/-! ### What a box was made from -/

/-- The nested scope that a box of a diagram was made from, found by the path and the label of the
box. -/
def Box.source? (s : Scope) (b : Box α) : Option Scope :=
  ((withPaths [] s).find? (·.1 == b.path)).bind (·.2.nested? b.label)

variable [Scalar α] {m : Measurer α} {style : Style α} {font : Text} {s c : Scope} {path : Text}
  {siblings : List (Box α)}

/-- The boxes drawn for a scope were made from the scopes nested in it. -/
theorem Drawn.source?_eq (hs : Settled s.nested)
    (h : Drawn s (layoutBoxes m style.spacing s) path c siblings) {b : Box α}
    (hb : b ∈ siblings) :
  b.source? s = c.nested? b.label
  := by
  rw [Box.source?, h.path_of_mem hb, ← List.head?_filter, hs.filter_withPaths h.mem_withPaths]
  rfl

/-- The boxes drawn for a scope were made from their sources. -/
theorem Drawn.madeFrom (hs : Settled s.nested)
    (h : Drawn s (layoutBoxes m style.spacing s) path c siblings) {b : Box α}
    (hb : b ∈ siblings) :
  b.MadeFrom m style.spacing c ((b.source? s).map (scopeBoxes m style.spacing b.pathLabel))
  := by
  rw [h.source?_eq hs hb]
  obtain ⟨start, rfl⟩ := h.placed
  apply (madeFrom_of_mem hb).2

/-- A box of a diagram was made from its source, somewhere. -/
theorem exists_madeFrom (hs : Settled s.nested) {b : Box α}
    (hb : b ∈ Box.walkAll (layoutBoxes m style.spacing s)) :
  ∃ c, b.MadeFrom m style.spacing c ((b.source? s).map (scopeBoxes m style.spacing b.pathLabel))
  := by
  have hroot : Drawn s (layoutBoxes m style.spacing s) [] s (layoutBoxes m style.spacing s) :=
    Drawn.root
  obtain ⟨path, c, siblings, hdrawn, hb⟩ := hroot.exists_of_mem_walkAll hb
  use c
  apply hdrawn.madeFrom hs hb

/-! ### Captions with a height -/

variable (m style) in
/-- Zero counts as zero, and the height of a caption does not. -/
structure Captioned : Prop where
  zero : ((0 : α) == 0) = true
  height : ∀ label, ((captionSize m style.spacing label).height == 0) = false

/-- With doubles, captions have a height for every accepted style. -/
theorem Style.Accepted.captioned {style : Style Float} (h : style.Accepted) :
  Captioned (.guessing style.fontSize) style
  := by
  constructor
  case zero => rfl
  case height =>
    intro label
    have hfont : AtLeast leastPositive style.fontSize := atLeast_of_pos h.fontSize
    have hpadding : AtLeast 0 style.scopePadding := atLeast_of_nonneg h.scopePadding
    have hdouble : AtLeast 0 (style.scopePadding * 2) := by
      apply hpadding.mul valueOf?_two (by norm_num) representable_zero
      norm_num
    have hheight : AtLeast leastPositive (style.fontSize + style.scopePadding * 2) := by
      apply hfont.add hdouble representable_leastPositive
      rw [add_zero]
    apply hheight.beq_zero leastPositive_pos

/-- A box is painted as a container exactly when it was made from a scope. -/
theorem Box.MadeFrom.isScope_eq (h : Captioned m style) {b : Box α}
    {inner : Option (List (Box α))} (hb : b.MadeFrom m style.spacing c inner) :
  b.isScope = inner.isSome
  := by
  cases inner with
  | none =>
      rw [Box.isScope, hb.leaf_size.2.2]
      simp [Point.origin, h.zero]
  | some boxes =>
      rw [Box.isScope, hb.container_size.2]
      simp [h.height]

/-- The calls for a box of a diagram alone are those for a container or for a leaf, as the box was
made. -/
theorem drawAlone_eq (h : Captioned m style) (hs : Settled s.nested) {b : Box α}
    (hb : b ∈ Box.walkAll (layoutBoxes m style.spacing s)) :
  drawAlone m style font b
    = if (b.source? s).isSome then drawContainer m style font b else drawLeaf m style font b
  := by
  obtain ⟨c, hmade⟩ := exists_madeFrom hs hb
  rw [drawAlone, hmade.isScope_eq h, Option.isSome_map]

/-- No box of a diagram that is painted as a leaf holds boxes. -/
theorem boxes_eq_nil_of_leaf (h : Captioned m style) (hs : Settled s.nested) {b : Box α}
    (hb : b ∈ Box.walkAll (layoutBoxes m style.spacing s)) (hleaf : b.isScope = false) :
  b.boxes = []
  := by
  obtain ⟨c, hmade⟩ := exists_madeFrom hs hb
  rw [hmade.isScope_eq h, Option.isSome_eq_false_iff, Option.isNone_iff_eq_none] at hleaf
  rw [hleaf] at hmade
  apply hmade.boxes_eq_nil

/-! ### The order of the calls -/

/-- If no leaf of a forest holds boxes, the calls for the forest are those for its boxes alone, in
the order of the walk. -/
theorem drawBoxes_eq_flatMap_walkAll {boxes : List (Box α)}
    (h : ∀ b ∈ Box.walkAll boxes, b.isScope = false → b.boxes = []) :
  drawBoxes m style font boxes = (Box.walkAll boxes).flatMap (drawAlone m style font)
  := by
  induction boxes using Box.forest_induction with
  | step boxes ih =>
      rw [drawBoxes_eq_flatMap, Box.walkAll_eq_flatMap, List.flatMap_assoc]
      apply List.flatMap_congr
      intro b hb
      have hinner : ∀ d ∈ Box.walkAll b.boxes, d ∈ Box.walkAll boxes := by
        intro d hd
        apply Box.mem_walkAll.mpr ⟨b, hb, Or.inr hd⟩
      rw [Box.walk_eq, List.flatMap_cons, drawBox_eq_drawAlone,
        ← ih b hb fun d hd => h d (hinner d hd)]
      split
      · rfl
      · next hleaf =>
          rw [h b (Box.mem_walkAll.mpr ⟨b, hb, Or.inl rfl⟩) (by simpa using hleaf)]
          rfl

omit [Scalar α] in
/-- In the walk of a forest the boxes in a box come directly after it. -/
theorem Box.walkAll_prefix {boxes before after : List (Box α)} {b : Box α}
    (h : Box.walkAll boxes = before ++ b :: after) :
  Box.walkAll b.boxes <+: after
  := by
  induction boxes using Box.forest_induction generalizing before after with
  | step boxes inside =>
      induction boxes generalizing before with
      | nil => simp [Box.walkAll] at h
      | cons a boxes ih =>
          rw [Box.walkAll, Box.walk_eq, List.cons_append] at h
          cases before with
          | nil =>
              obtain ⟨rfl, rfl⟩ := List.cons.inj h
              apply List.prefix_append
          | cons first before =>
              obtain ⟨-, h⟩ := List.cons.inj h
              obtain ⟨between, rfl, hrest⟩ | ⟨between, hin, hrest⟩ :=
                List.append_eq_append_iff.mp h
              · apply ih (fun d hd => inside d (List.mem_cons_of_mem _ hd)) hrest
              · cases between with
                | nil =>
                    have hfront : Box.walkAll boxes = [] ++ b :: after := hrest.symm
                    apply ih (fun d hd => inside d (List.mem_cons_of_mem _ hd)) hfront
                | cons d between =>
                    obtain ⟨rfl, rfl⟩ := List.cons.inj hrest
                    apply (inside a List.mem_cons_self hin).trans
                    apply List.prefix_append

/-! ### Outlines, shades and texts -/

/-- A rectangle on the canvas. -/
structure Rectangle (α : Type) where
  left : α
  top : α
  width : α
  height : α
  deriving DecidableEq

section

omit [Scalar α]

/-- The rectangle that a call outlines. -/
def Call.outline? : Call α → Option (Rectangle α)
  | .strokeRect x y width height _ => some ⟨x, y, width, height⟩
  | _ => none

/-- The rectangle that a call fills. -/
def Call.shade? : Call α → Option (Rectangle α)
  | .fillRect x y width height _ => some ⟨x, y, width, height⟩
  | _ => none

/-- The text that a call draws. -/
def Call.text? (call : Call α) : Option Text := call.textLine?.map (·.text)

/-- The rectangle of a box. -/
def Box.rectangle (b : Box α) : Rectangle α := ⟨b.left, b.top, b.width, b.height⟩

/-- A connector outlines no rectangle, fills none and draws no text. -/
theorem none_of_mem_drawConnector {connector : Connector α} {call : Call α}
    (h : call ∈ drawConnector style connector) :
  call.outline? = none ∧ call.shade? = none ∧ call.text? = none
  := by
  rw [drawConnector, drawHead] at h
  obtain rfl | h := List.mem_cons.mp h
  · use rfl, rfl
    rfl
  · split at h <;> simp only [List.mem_cons, List.not_mem_nil, or_false] at h <;>
      obtain rfl | rfl := h <;> exact ⟨rfl, rfl, rfl⟩

end

variable (m) in
/-- The strip for the caption of a box. -/
def Box.strip (sp : Spacing α) (b : Box α) : Rectangle α :=
  ⟨b.left, b.top, b.width, (captionSize m sp b.label).height⟩

/-- The words of a label are drawn in order, with nothing else. -/
theorem streams_drawWords (left width y : α) (words : List Text) :
  let calls := drawWords m style font left width y words
  calls.filterMap Call.outline? = [] ∧ calls.filterMap Call.shade? = []
    ∧ calls.filterMap Call.text? = words
  := by
  induction words generalizing y with
  | nil => exact ⟨rfl, rfl, rfl⟩
  | cons word words ih =>
      obtain ⟨houtline, hshade, htext⟩ := ih (y + m.lineHeight)
      refine ⟨houtline, hshade, ?text⟩
      case text => apply congrArg (word :: ·) htext

/-- A leaf is outlined, and the words of its label are drawn. -/
theorem streams_drawLeaf (b : Box α) :
  let calls := drawLeaf m style font b
  calls.filterMap Call.outline? = [b.rectangle] ∧ calls.filterMap Call.shade? = []
    ∧ calls.filterMap Call.text? = b.label.words
  := by
  obtain ⟨houtline, hshade, htext⟩ : _ ∧ _ ∧ _ :=
    streams_drawWords b.left b.width (firstBaseline m style b.top) b.label.words
  exact ⟨congrArg (b.rectangle :: ·) houtline, hshade, htext⟩

/-- A container has its strip filled, its label drawn and its outline drawn, in this order. -/
theorem streams_drawContainer {b : Box α}
    (hinner : b.inner.y = (captionSize m style.spacing b.label).height) :
  let calls := drawContainer m style font b
  calls.filterMap Call.outline? = [b.rectangle]
    ∧ calls.filterMap Call.shade? = [b.strip m style.spacing]
    ∧ calls.filterMap Call.text? = [b.label]
  := by
  refine ⟨rfl, ?shade, rfl⟩
  case shade =>
    rw [Box.strip, ← hinner]
    rfl

/-! ### Whole drawings -/

variable (m style font) in
/-- Some calls paint every box of a diagram once, and none below the strip of a box that it is in.

* First come the size of the canvas and its background, then the boxes, and then the connectors.
* The boxes are painted one after the other as the walk lists them, a box as a container if it was
  made from a scope and else as a leaf.
* One rectangle is outlined for each box, in the order of the walk.
* One strip is filled for each box that was made from a scope, in the order of the walk.
* The caption of each such box and the words of each other box are drawn, in the order of the walk.
* At every place of the walk with such a box, the boxes in it come next, and the calls for it, of
  which the first fills the strip, come before all calls for these. -/
structure Painted (s : Scope) (scene : Scene α) (calls : List (Call α)) : Prop where
  parts : calls = [.setSize scene.size.width scene.size.height,
      .fillBackground style.backgroundColor] ++ drawBoxes m style font scene.boxes
    ++ scene.connectors.flatMap (drawConnector style)
  boxes : drawBoxes m style font scene.boxes = (Box.walkAll scene.boxes).flatMap fun b =>
    if (b.source? s).isSome then drawContainer m style font b else drawLeaf m style font b
  outlines : calls.filterMap Call.outline? = (Box.walkAll scene.boxes).map Box.rectangle
  shades : calls.filterMap Call.shade? = (Box.walkAll scene.boxes).flatMap fun b =>
    if (b.source? s).isSome then [b.strip m style.spacing] else []
  texts : calls.filterMap Call.text? = (Box.walkAll scene.boxes).flatMap fun b =>
    if (b.source? s).isSome then [b.label] else b.label.words
  shadeFirst : ∀ before b after, Box.walkAll scene.boxes = before ++ b :: after →
    (b.source? s).isSome →
      Box.walkAll b.boxes <+: after
        ∧ calls = ([.setSize scene.size.width scene.size.height,
              .fillBackground style.backgroundColor]
            ++ before.flatMap (drawAlone m style font))
          ++ [.fillRect b.left b.top b.width (captionSize m style.spacing b.label).height
                style.shadeColor,
              .fillText b.label (b.left + style.scopePadding) (firstBaseline m style b.top)
                style.lineColor font,
              .strokeRect b.left b.top b.width b.height style.lineColor]
          ++ (after.flatMap (drawAlone m style font)
            ++ scene.connectors.flatMap (drawConnector style))

/-- The calls for a box of a diagram that was made from a scope, with the height of its strip. -/
theorem drawAlone_of_source (h : Captioned m style) (hs : Settled s.nested) {b : Box α}
    (hb : b ∈ Box.walkAll (layoutBoxes m style.spacing s)) (hsource : (b.source? s).isSome) :
  b.inner.y = (captionSize m style.spacing b.label).height
    ∧ drawAlone m style font b = drawContainer m style font b
  := by
  obtain ⟨c, hmade⟩ := exists_madeFrom hs hb
  obtain ⟨d, hd⟩ := Option.isSome_iff_exists.mp hsource
  rw [hd] at hmade
  rw [drawAlone_eq h hs hb, if_pos hsource, hmade.container_size.2]
  use rfl

/-- What the calls for a box of a diagram outline, fill and write. -/
theorem streams_drawAlone (h : Captioned m style) (hs : Settled s.nested) {b : Box α}
    (hb : b ∈ Box.walkAll (layoutBoxes m style.spacing s)) :
  let calls := drawAlone m style font b
  calls.filterMap Call.outline? = [b.rectangle]
    ∧ calls.filterMap Call.shade?
      = (if (b.source? s).isSome then [b.strip m style.spacing] else [])
    ∧ calls.filterMap Call.text? = if (b.source? s).isSome then [b.label] else b.label.words
  := by
  by_cases hsource : (b.source? s).isSome
  · obtain ⟨hinner, hcalls⟩ := drawAlone_of_source h hs hb hsource
    rw [if_pos hsource, if_pos hsource, hcalls]
    apply streams_drawContainer hinner
  · rw [drawAlone_eq h hs hb, if_neg hsource, if_neg hsource, if_neg hsource]
    apply streams_drawLeaf

/-- What the calls of a drawing are asked for is asked for box by box, if neither the canvas nor the
connectors are asked for it. -/
theorem filterMap_drawScene {β : Type} {f : Call α → Option β} {scene : Scene α}
    (hboxes : drawBoxes m style font scene.boxes
      = (Box.walkAll scene.boxes).flatMap (drawAlone m style font))
    (hsize : ∀ width height, f (.setSize width height) = none)
    (hback : ∀ color, f (.fillBackground color) = none)
    (hconnector : ∀ connector, ∀ call ∈ drawConnector style connector, f call = none) :
  (drawScene m style font scene).filterMap f
    = (Box.walkAll scene.boxes).flatMap fun b => (drawAlone m style font b).filterMap f
  := by
  have hconnectors : (scene.connectors.flatMap (drawConnector style)).filterMap f = [] := by
    rw [List.filterMap_eq_nil_iff]
    intro call hcall
    obtain ⟨connector, -, hcall⟩ := List.mem_flatMap.mp hcall
    apply hconnector connector call hcall
  rw [drawScene, hboxes, List.filterMap_append, hconnectors, List.append_nil,
    List.filterMap_cons_none (hsize _ _), List.filterMap_cons_none (hback _),
    List.filterMap_flatMap]

/-- Drawing a settled diagram whose captions have a height paints every box once. -/
theorem painted_drawScene [Angular α] (h : Captioned m style) (hs : Settled s.nested) :
  let scene := Scene.ofValid m style s
  Painted m style font s scene (drawScene m style font scene)
  := by
  intro scene
  have hboxes : drawBoxes m style font scene.boxes
      = (Box.walkAll scene.boxes).flatMap (drawAlone m style font) := by
    apply drawBoxes_eq_flatMap_walkAll
    intro b hb hleaf
    apply boxes_eq_nil_of_leaf h hs hb hleaf
  constructor
  case parts => rfl
  case boxes =>
    rw [hboxes]
    apply List.flatMap_congr
    intro b hb
    apply drawAlone_eq h hs hb
  case outlines =>
    rw [filterMap_drawScene hboxes (fun _ _ => rfl) (fun _ => rfl)
      fun _ _ hcall => (none_of_mem_drawConnector hcall).1, List.map_eq_flatMap]
    apply List.flatMap_congr
    intro b hb
    apply (streams_drawAlone h hs hb).1
  case shades =>
    rw [filterMap_drawScene hboxes (fun _ _ => rfl) (fun _ => rfl)
      fun _ _ hcall => (none_of_mem_drawConnector hcall).2.1]
    apply List.flatMap_congr
    intro b hb
    apply (streams_drawAlone h hs hb).2.1
  case texts =>
    rw [filterMap_drawScene hboxes (fun _ _ => rfl) (fun _ => rfl)
      fun _ _ hcall => (none_of_mem_drawConnector hcall).2.2]
    apply List.flatMap_congr
    intro b hb
    apply (streams_drawAlone h hs hb).2.2
  case shadeFirst =>
    intro before b after hwalk hsource
    use Box.walkAll_prefix hwalk
    have hb : b ∈ Box.walkAll scene.boxes := by simp [hwalk]
    obtain ⟨hinner, hcalls⟩ : _ ∧ drawAlone m style font b = _ :=
      drawAlone_of_source h hs hb hsource
    rw [drawScene, hboxes, hwalk, List.flatMap_append, List.flatMap_cons, hcalls, drawContainer,
      hinner]
    simp

/-- Every box is painted once and never under the shade of a box that it is in.  For every text
without errors and every style that is accepted, rendering with guessed widths makes exactly the
calls for the scene, and these paint every box of the scene; each box was made, among those of the
scope it is drawn for, from the scope that its path and its label name. -/
theorem render_paints_once [Angular Float] (t : Text) (fields : Fields) (style : Style Float)
    (hstyle : Style.ofFields fields = .ok style) (hvalid : (ofText t).hasErrors = false) :
  let s := ofText t
  let m := Measurer.guessing style.fontSize
  let scene := Scene.ofValid m style s
  ∃ calls : List (Call Float),
    (render m style style.font recorder s).run.run [] = (.ok scene, calls)
      ∧ Painted m style style.font s scene calls
      ∧ (∀ b ∈ Box.walkAll scene.boxes,
          ∃ path c siblings, Drawn s scene.boxes path c siblings ∧ b ∈ siblings)
      ∧ ∀ path c siblings, Drawn s scene.boxes path c siblings → ∀ b ∈ siblings,
          b.MadeFrom m style.spacing c ((b.source? s).map (scopeBoxes m style.spacing b.pathLabel))
  := by
  intro s m scene
  have hs : Settled s.nested := settled_ofText t
  use drawScene m style style.font scene
  refine ⟨?calls, ?painted, ?drawn, ?made⟩
  case calls =>
    rw [run_render_of_valid hvalid]
    rw [StateT.run_bind, run_forM_recorder, List.nil_append]
    rfl
  case painted =>
    apply painted_drawScene _ hs
    apply (Style.accepted_ofFields hstyle).captioned
  case drawn =>
    intro b hb
    have hroot : Drawn s scene.boxes [] s scene.boxes := Drawn.root
    apply hroot.exists_of_mem_walkAll hb
  case made =>
    intro path c siblings hdrawn b hb
    apply hdrawn.madeFrom hs hb

/-- A strip that is a quarter of a unit high, without padding, above a box in it. -/
theorem render_paints_once_thin :
  let fields : Fields := [("font_size", .float 0.25), ("scope_padding", .int 0)]
  let style : Style Float := { Style.standard with fontSize := 0.25, scopePadding := 0.0 }
  let t : Text := "layout:\n[A][two words]\n[A]:\nlayout:\n[inner]\n"
  let s := ofText t
  let scene := Scene.ofValid (Measurer.guessing style.fontSize) style s
  let record : Call Float → StateM (List (Call Float)) Unit := recorder
  Style.ofFields fields = .ok style ∧ s.hasErrors = false
    ∧ ∃ calls,
      (render (Measurer.guessing style.fontSize) style style.font record s).run.run []
          = (.ok scene, calls)
        ∧ (calls.filterMap Call.outline?).length = 3 ∧ (calls.filterMap Call.shade?).length = 1
        ∧ calls.filterMap Call.text? = (["A", "inner", "two", "words"] : List Text)
  := by
  intro fields style t s scene record
  have hstyle : Style.ofFields fields = .ok style := rfl
  have hvalid : s.hasErrors = false := by decide +kernel
  refine ⟨hstyle, hvalid, ?_⟩
  obtain ⟨calls, hrun, hpainted, -⟩ := render_paints_once t fields style hstyle hvalid
  use calls, hrun
  rw [hpainted.outlines, hpainted.shades, hpainted.texts]
  decide +kernel

end BoxDiagram
