import BoxDiagram.Proofs.Drawing.Calls
import BoxDiagram.Proofs.Layout.Containment
import BoxDiagram.Proofs.Layout.Naming
import BoxDiagram.Proofs.Lookup.Drawn
import Mathlib.Tactic.Ring

/-!
# Drawn texts fit their boxes

Layout makes a box as large as its label asks for, and drawing puts the words of the label into
the box.  Both cut the label into words and add the padding on their own.  In exact numbers they
agree: the words of a leaf and the caption of a container stay in the box, the padding away from
its sides, and the texts in a container stay below the strip of its caption.  A container is drawn
as one if the strip has a height, that is, if lines have one or there is padding; if not, it is
drawn as a leaf, and its label need not fit.
-/

namespace BoxDiagram

open Scope

/-! ### Lines of text -/

/-- A text on the canvas and the left end of its baseline. -/
structure TextLine (α : Type) where
  text : Text
  x : α
  y : α

section

variable {α : Type}

/-- The text that a call draws. -/
def Call.textLine? : Call α → Option (TextLine α)
  | .fillText text x y _ _ => some ⟨text, x, y⟩
  | _ => none

/-- The texts that some calls draw, in order. -/
def textLines (calls : List (Call α)) : List (TextLine α) := calls.filterMap Call.textLine?

theorem mem_textLines {calls : List (Call α)} {line : TextLine α} :
  line ∈ textLines calls ↔ ∃ call ∈ calls, call.textLine? = some line
  := List.mem_filterMap

/-- No connector draws a text. -/
theorem textLine?_of_mem_drawConnector {style : Style α} {connector : Connector α} {call : Call α}
    (h : call ∈ drawConnector style connector) :
  call.textLine? = none
  := by
  rw [drawConnector, drawHead] at h
  obtain rfl | h := List.mem_cons.mp h
  · rfl
  · split at h <;> simp only [List.mem_cons, List.not_mem_nil, or_false] at h <;>
      obtain rfl | rfl := h <;> rfl

variable [Scalar α] {m : Measurer α} {style : Style α} {font : Text}

/-- Every text of a drawing is drawn for one of its boxes. -/
theorem exists_mem_textLines_drawAlone {scene : Scene α} {line : TextLine α}
    (h : line ∈ textLines (drawScene m style font scene)) :
  ∃ n ∈ Box.walkAll scene.boxes, line ∈ textLines (drawAlone m style font n)
  := by
  obtain ⟨call, hcall, hline⟩ := mem_textLines.mp h
  rw [drawScene] at hcall
  simp only [List.cons_append, List.mem_cons, List.mem_append, List.mem_flatMap] at hcall
  obtain rfl | rfl | hcall | ⟨connector, -, hcall⟩ := hcall
  · contradiction
  · contradiction
  · obtain ⟨n, hn, hcall⟩ := exists_mem_drawAlone hcall
    use n, hn, mem_textLines.mpr ⟨call, hcall, hline⟩
  · rw [textLine?_of_mem_drawConnector hcall] at hline
    contradiction

/-- The one text of a container is its label. -/
theorem textLines_drawContainer (b : Box α) :
  textLines (drawContainer m style font b)
    = [⟨b.label, b.left + style.scopePadding, firstBaseline m style b.top⟩]
  := rfl

end

variable {m : Measurer ℚ} {style : Style ℚ} {font : Text}

/-- The texts of words are the words, each centred and a line below the one before. -/
theorem textLines_drawWords (left width y : ℚ) (words : List Text) :
  textLines (drawWords m style font left width y words)
    = words.mapIdx fun i word =>
        ⟨word, left + (width - m.width word) / 2, y + i * m.lineHeight⟩
  := by
  induction words generalizing y with
  | nil => rfl
  | cons word words ih =>
      have hstep : textLines (drawWords m style font left width y (word :: words))
          = ⟨word, left + (width - m.width word) / 2, y⟩
            :: textLines (drawWords m style font left width (y + m.lineHeight) words) := rfl
      rw [hstep, ih, List.mapIdx_cons]
      congr 1
      · simp
      · congr 1
        funext i word
        congr 1
        push_cast
        ring

/-- The texts of a leaf are the words of its label, the first a line below the padding. -/
theorem textLines_drawLeaf (n : Box ℚ) :
  textLines (drawLeaf m style font n)
    = n.label.words.mapIdx fun i word =>
        ⟨word, n.left + (n.width - m.width word) / 2,
          n.top + style.scopePadding + (i + 1) * m.lineHeight⟩
  := by
  have hstep : textLines (drawLeaf m style font n)
      = textLines (drawWords m style font n.left n.width (firstBaseline m style n.top)
          n.label.words) := rfl
  rw [hstep, textLines_drawWords]
  congr 1
  funext i word
  congr 1
  rw [firstBaseline]
  ring

/-! ### Leaves -/

/-- Some texts fit a box as the words of its label: they stand one below the other, keep the
padding to the left and right sides, and leave it above the first line and below the last
baseline. -/
structure Box.WordsFit (m : Measurer ℚ) (padding : ℚ) (n : Box ℚ) (lines : List (TextLine ℚ)) :
    Prop where
  words : lines.map (·.text) = n.label.words
  left : ∀ line ∈ lines, n.left + padding ≤ line.x
  right : ∀ line ∈ lines, line.x + m.width line.text ≤ n.right - padding
  baseline : ∀ (i : Nat) line, lines[i]? = some line →
    line.y = n.top + padding + (i + 1) * m.lineHeight
  last : ∀ line, lines.getLast? = some line → line.y = n.bottom - padding

/-- The words of a label fit a box of the size of the label. -/
theorem wordsFit_drawLeaf {n : Box ℚ}
    (hwidth : n.width = (leafSize m style.spacing n.label).width)
    (hheight : n.height = (leafSize m style.spacing n.label).height) :
  n.WordsFit m style.scopePadding (textLines (drawLeaf m style font n))
  := by
  replace hwidth : n.width = greatest (n.label.words.map m.width) + style.scopePadding * 2 := hwidth
  replace hheight : n.height = m.lineHeight * (n.label.words.length : ℚ) + style.scopePadding * 2 :=
    hheight
  have hword : ∀ word ∈ n.label.words, m.width word + style.scopePadding * 2 ≤ n.width := by
    intro word hword
    rw [hwidth]
    apply add_le_add_left
    apply le_greatest (List.mem_map_of_mem hword)
  rw [textLines_drawLeaf]
  constructor
  case words =>
    apply List.ext_getElem?
    intro i
    rw [List.getElem?_map, List.getElem?_mapIdx, Option.map_map]
    apply Option.map_id'
  case left =>
    intro line hline
    obtain ⟨i, hi, rfl⟩ := List.mem_mapIdx.mp hline
    have hfits := hword _ (List.getElem_mem hi)
    linarith
  case right =>
    intro line hline
    obtain ⟨i, hi, rfl⟩ := List.mem_mapIdx.mp hline
    have hfits := hword _ (List.getElem_mem hi)
    rw [Box.right]
    linarith
  case baseline =>
    intro i line hline
    rw [List.getElem?_mapIdx, Option.map_eq_some_iff] at hline
    obtain ⟨word, -, rfl⟩ := hline
    rfl
  case last =>
    intro line hline
    rw [List.getLast?_eq_getElem?, List.length_mapIdx, List.getElem?_mapIdx,
      Option.map_eq_some_iff] at hline
    obtain ⟨word, hword, rfl⟩ := hline
    have hlength : 0 < n.label.words.length := by
      apply List.length_pos_of_mem (List.mem_of_getElem? hword)
    rw [Box.bottom, hheight, Nat.cast_sub hlength]
    push_cast
    ring

/-! ### Containers -/

/-- A text fits a box as its caption: it is the label, begins at the padding, keeps it to the right
side and stands on it at the bottom of the strip above the content. -/
structure Box.CaptionFits (m : Measurer ℚ) (padding : ℚ) (n : Box ℚ) (line : TextLine ℚ) :
    Prop where
  text : line.text = n.label
  left : line.x = n.left + padding
  right : line.x + m.width line.text ≤ n.right - padding
  baseline : line.y = n.top + n.inner.y - padding

/-- The label of a container fits a box that has room for its caption. -/
theorem captionFits_drawContainer {n : Box ℚ} {content : ℚ}
    (hwidth : n.width = larger content (captionSize m style.spacing n.label).width)
    (hinner : n.inner = ⟨0, (captionSize m style.spacing n.label).height⟩) :
  n.CaptionFits m style.scopePadding
    ⟨n.label, n.left + style.scopePadding, firstBaseline m style n.top⟩
  := by
  have hcaption : m.width n.label + style.scopePadding * 2 ≤ n.width := by
    rw [hwidth]
    apply le_larger_right
  constructor
  case text => rfl
  case left => rfl
  case right =>
    rw [Box.right]
    linarith
  case baseline =>
    rw [hinner, firstBaseline]
    change n.top + style.scopePadding + m.lineHeight
      = n.top + (m.lineHeight + style.scopePadding * 2) - style.scopePadding
    ring

/-- A text stands clear of the strip above the content of a box: even the top of its line is a
margin and the padding below the strip, and its baseline is strictly below. -/
structure TextLine.ClearOf (m : Measurer ℚ) (sp : Spacing ℚ) (n : Box ℚ) (line : TextLine ℚ) :
    Prop where
  top : n.top + n.inner.y + (sp.margin + sp.padding) ≤ line.y - m.lineHeight
  baseline : n.top + n.inner.y < line.y

/-- No text of a box has its baseline above that of the first line. -/
theorem firstBaseline_le (hm : m.Nonneg) {d : Box ℚ} {line : TextLine ℚ}
    (h : line ∈ textLines (drawAlone m style font d)) :
  d.top + style.scopePadding + m.lineHeight ≤ line.y
  := by
  rw [drawAlone] at h
  split at h
  · rw [textLines_drawContainer, List.mem_singleton] at h
    rw [h]
    apply le_refl
  · rw [textLines_drawLeaf] at h
    obtain ⟨i, -, rfl⟩ := List.mem_mapIdx.mp h
    have hlines : 0 ≤ (i : ℚ) * m.lineHeight := by
      apply mul_nonneg _ hm.lineHeight
      apply Nat.cast_nonneg
    change _ ≤ d.top + style.scopePadding + ((i : ℚ) + 1) * m.lineHeight
    linarith

/-! ### Boxes of a diagram -/

/-- The texts for a box among those of the scope `c` fit.

* A box whose label names no nested scope is a leaf: the words of its label fit it.
* A box whose label names a nested scope is drawn with its caption, which fits it, and the texts
  of all boxes in it are clear of the strip of the caption. -/
structure Box.TextsFit (m : Measurer ℚ) (style : Style ℚ) (font : Text) (c : Scope) (n : Box ℚ) :
    Prop where
  leaf : c.nested? n.label = none →
    n.WordsFit m style.scopePadding (textLines (drawAlone m style font n))
  caption : (c.nested? n.label).isSome →
    ∃ line, textLines (drawAlone m style font n) = [line]
      ∧ n.CaptionFits m style.scopePadding line
  strip : (c.nested? n.label).isSome → ∀ d ∈ Box.walkAll n.boxes,
    ∀ line ∈ textLines (drawAlone m style font d), line.ClearOf m style.spacing n

variable {s c : Scope} {path : Text} {siblings : List (Box ℚ)}

/-- The texts for a box made from its label alone are the words of the label, and fit it. -/
theorem Box.MadeFrom.wordsFit {n : Box ℚ} (h : n.MadeFrom m style.spacing c none) :
  n.WordsFit m style.scopePadding (textLines (drawAlone m style font n))
  := by
  obtain ⟨hwidth, hheight, hinner⟩ := h.leaf_size
  have hscope : n.isScope = false := by
    rw [Box.isScope, hinner]
    rfl
  rw [drawAlone, if_neg (by simp [hscope])]
  apply wordsFit_drawLeaf hwidth hheight

/-- A box made from a nested scope has a strip for its caption exactly when the strip has a
height. -/
theorem Box.MadeFrom.isScope_iff {n : Box ℚ} {inner : List (Box ℚ)}
    (h : n.MadeFrom m style.spacing c (some inner)) :
  n.isScope = true ↔ m.lineHeight + style.scopePadding * 2 ≠ 0
  := by
  rw [Box.isScope, h.container_size.2]
  change (!((0 : ℚ) == 0 && m.lineHeight + style.scopePadding * 2 == 0)) = true ↔ _
  simp

theorem textsFit_of_drawn (hm : m.Nonneg) (hstyle : style.spacing.Nonneg)
    (hstrip : 0 < m.lineHeight ∨ 0 < style.scopePadding)
    (h : Drawn s (layoutBoxes m style.spacing s) path c siblings) {n : Box ℚ} (hn : n ∈ siblings) :
  n.TextsFit m style font c
  := by
  have hwalk := h.mem_walkAll n hn
  have hline := hm.lineHeight
  have hpadding : 0 ≤ style.scopePadding := hstyle.padding
  have hmargin : 0 ≤ style.scopeMargin := hstyle.margin
  have hheight : 0 < m.lineHeight + style.scopePadding * 2 := by
    obtain hpos | hpos := hstrip <;> linarith
  obtain ⟨start, rfl⟩ := h.placed
  have hmade := (madeFrom_of_mem hn).2
  have hcontainer : (c.nested? n.label).isSome →
      ∃ inner, n.MadeFrom m style.spacing c (some inner) := by
    intro hsome
    obtain ⟨d, hd⟩ := Option.isSome_iff_exists.mp hsome
    rw [hd] at hmade
    use scopeBoxes m style.spacing n.pathLabel d
    apply hmade
  constructor
  case leaf =>
    intro hnone
    rw [hnone] at hmade
    apply hmade.wordsFit
  case caption =>
    intro hsome
    obtain ⟨inner, hinner⟩ := hcontainer hsome
    obtain ⟨hwidth, hcaption⟩ := hinner.container_size
    use ⟨n.label, n.left + style.scopePadding, firstBaseline m style n.top⟩
    constructor
    · rw [drawAlone, if_pos (hinner.isScope_iff.mpr hheight.ne'), textLines_drawContainer]
    · apply captionFits_drawContainer hwidth hcaption
  case strip =>
    intro _ d hd line hline'
    have htop : n.top + n.inner.y + style.scopeMargin ≤ d.top :=
      (inside_box hm hstyle s hwalk hd).top
    have hfirst := firstBaseline_le hm hline'
    constructor
    case top =>
      change n.top + n.inner.y + (style.scopeMargin + style.scopePadding) ≤ _
      linarith
    case baseline => linarith

/-- If lines have a height or there is padding, every text of every drawing is drawn for one of its
boxes, and the texts for every box fit. -/
theorem drawScene_texts_fit [Angular ℚ] (hm : m.Nonneg) (hstyle : style.spacing.Nonneg)
    (hstrip : 0 < m.lineHeight ∨ 0 < style.scopePadding) (font : Text) (s : Scope) :
  let scene := Scene.ofValid m style s
  (∀ line ∈ textLines (drawScene m style font scene), ∃ path c siblings,
      Drawn s scene.boxes path c siblings
        ∧ ∃ n ∈ siblings, line ∈ textLines (drawAlone m style font n))
    ∧ ∀ path c siblings, Drawn s scene.boxes path c siblings →
        ∀ n ∈ siblings, n.TextsFit m style font c
  := by
  intro scene
  constructor
  · intro line hline
    obtain ⟨n, hn, hline⟩ := exists_mem_textLines_drawAlone hline
    have hroot : Drawn s (layoutBoxes m style.spacing s) [] s (layoutBoxes m style.spacing s) :=
      Drawn.root
    obtain ⟨path, c, siblings, hdrawn, hn⟩ := hroot.exists_of_mem_walkAll hn
    use path, c, siblings, hdrawn, n
  · intro path c siblings hdrawn n hn
    apply textsFit_of_drawn hm hstyle hstrip hdrawn hn

/-- A container with a caption around a leaf of two words, and a leaf at the right side. -/
theorem drawScene_texts_fit_captioned :
  let style : Style ℚ := ⟨14, "Georgia", 1, 1, 1, "white", "silver", "black", 5, 3, 10⟩
  let s : Scope :=
    ⟨[], some [⟨["inner"], ["x"]⟩], none,
      [⟨"inner", some [⟨["two words"], []⟩], none, [], []⟩], []⟩
  let _angular : Angular ℚ := ⟨fun _ _ => 0, fun _ => 0, fun _ => 1, 0⟩
  let scene := Scene.ofValid Measurer.unit style s
  Measurer.unit.Nonneg ∧ style.spacing.Nonneg
    ∧ (0 < Measurer.unit.lineHeight ∨ 0 < style.scopePadding)
    ∧ (textLines (drawScene Measurer.unit style "14px Georgia" scene)).map
        (fun line => (line.text, line.x, line.y))
      = ([("inner", 3, 4), ("two", 5, 8), ("words", 4, 9), ("x", 13, 4)] : List (Text × ℚ × ℚ))
    ∧ (∀ n ∈ scene.boxes, n.TextsFit Measurer.unit style "14px Georgia" s)
    ∧ ∀ d ∈ s.nested, ∀ n ∈ scene.boxes, s.nested? n.label = some d →
        ∀ leaf ∈ n.boxes, leaf.TextsFit Measurer.unit style "14px Georgia" d
  := by
  intro style s _angular scene
  have hstyle : style.spacing.Nonneg := Spacing.unit_nonneg
  have hstrip : 0 < Measurer.unit.lineHeight ∨ 0 < style.scopePadding := Or.inl one_pos
  obtain ⟨-, hfit⟩ := drawScene_texts_fit Measurer.unit_nonneg hstyle hstrip "14px Georgia" s
  refine ⟨Measurer.unit_nonneg, hstyle, hstrip, by decide +kernel, ?_, ?_⟩
  · apply hfit _ _ _ Drawn.root
  · intro d _ n hn hd
    apply hfit _ _ _ (Drawn.root.nested hn hd)

/-- Lines without a height and no padding: a box with a nested scope is drawn as a leaf.  Its
caption is not drawn, nor is what is in it, and no baseline of its words is at its bottom. -/
theorem not_drawScene_texts_fit_flat :
  let m : Measurer ℚ := ⟨fun t => 40 * (t.words.length : ℚ), 0⟩
  let style : Style ℚ := ⟨14, "Georgia", 30, 0, 15, "white", "silver", "black", 5, 3, 10⟩
  let s : Scope := .ofText "layout:\n[a b]\n[a b]:\nlayout:\n[x]\n"
  let _angular : Angular ℚ := ⟨fun _ _ => 0, fun _ => 0, fun _ => 1, 0⟩
  let scene := Scene.ofValid m style s
  let lines := textLines (drawScene m style "14px Georgia" scene)
  m.Nonneg ∧ style.spacing.Nonneg ∧ s.hasErrors = false
    ∧ lines.map (·.text) = [("a" : Text), ("b" : Text)]
    ∧ ∃ n ∈ scene.boxes, (s.nested? n.label).isSome = true
      ∧ n.boxes.map (·.label) = [("x" : Text)]
      ∧ ∀ line ∈ lines, line.text ≠ n.label ∧ line.y ≠ n.bottom - style.scopePadding
  := by
  intro m style s _angular scene lines
  refine ⟨?_, ?_, by decide +kernel, by decide +kernel, by decide +kernel⟩
  · constructor
    case width =>
      intro t
      apply mul_nonneg _ (Nat.cast_nonneg _)
      norm_num
    case lineHeight => apply le_refl
  · constructor <;> decide +kernel

end BoxDiagram
