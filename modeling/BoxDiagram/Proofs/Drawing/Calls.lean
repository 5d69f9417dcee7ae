import BoxDiagram.Drawing.Call
import BoxDiagram.Proofs.Layout.Placing
import BoxDiagram.Proofs.Text.Pieces

/-!
# The calls of a drawing

Every call for a box in a drawing is one of those for a container or for a leaf, and every
text that a call is given is a label, a word of a label, or a colour of the style.  The label
of an outermost box is drawn, as one text or word by word.
-/

namespace BoxDiagram

/-! ### Words -/

namespace Text

/-- The words of a text hold its characters but for the white space. -/
theorem mem_words (t : Text) (c : Char) :
  (∃ word ∈ t.words, c ∈ word) ↔ c ∈ t ∧ isSpace c = false
  := by
  rw [← mem_splitWhere]
  constructor
  · rintro ⟨word, hword, hc⟩
    use word, (List.mem_filter.mp hword).1
  · rintro ⟨word, hword, hc⟩
    use word
    rw [words, List.mem_filter]
    refine ⟨⟨hword, ?_⟩, hc⟩
    cases word with
    | nil => contradiction
    | cons _ _ => rfl

end Text

/-! ### Calls for boxes -/

variable {α : Type} [Scalar α] {m : Measurer α} {style : Style α} {font : Text}

theorem drawBoxes_eq_flatMap (boxes : List (Box α)) :
  drawBoxes m style font boxes = boxes.flatMap (drawBox m style font)
  := by
  induction boxes with
  | nil => rfl
  | cons b boxes ih => rw [drawBoxes, ih, List.flatMap_cons]

theorem drawBox_eq (b : Box α) :
  drawBox m style font b
    = if b.isScope then drawContainer m style font b ++ drawBoxes m style font b.boxes
      else drawLeaf m style font b
  := by
  cases b
  rw [drawBox]

variable (m style font) in
/-- The calls for a box without those for the boxes in it. -/
def drawAlone (b : Box α) : List (Call α) :=
  if b.isScope then drawContainer m style font b else drawLeaf m style font b

theorem drawBox_eq_drawAlone (b : Box α) :
  drawBox m style font b
    = drawAlone m style font b ++ if b.isScope then drawBoxes m style font b.boxes else []
  := by
  rw [drawBox_eq, drawAlone]
  split
  · rfl
  · rw [List.append_nil]

/-- Every call for boxes is one for a single box among them. -/
theorem exists_mem_drawAlone {call : Call α} {boxes : List (Box α)}
    (h : call ∈ drawBoxes m style font boxes) :
  ∃ b ∈ Box.walkAll boxes, call ∈ drawAlone m style font b
  := by
  induction boxes using Box.forest_induction with
  | step boxes ih =>
      rw [drawBoxes_eq_flatMap] at h
      obtain ⟨b, hb, h⟩ := List.mem_flatMap.mp h
      rw [drawBox_eq_drawAlone, List.mem_append] at h
      obtain h | h := h
      · use b, Box.mem_walkAll.mpr ⟨b, hb, Or.inl rfl⟩
      · split at h
        · obtain ⟨c, hc, h⟩ := ih b hb h
          use c, Box.mem_walkAll.mpr ⟨b, hb, Or.inr hc⟩
        · contradiction

/-- Every call for boxes is one for a container or a leaf among them. -/
theorem mem_drawBoxes {call : Call α} {boxes : List (Box α)}
    (h : call ∈ drawBoxes m style font boxes) :
  ∃ b ∈ Box.walkAll boxes, call ∈ drawContainer m style font b ∨ call ∈ drawLeaf m style font b
  := by
  obtain ⟨b, hb, h⟩ := exists_mem_drawAlone h
  use b, hb
  rw [drawAlone] at h
  split at h
  · apply Or.inl h
  · apply Or.inr h

theorem mem_drawWords {call : Call α} {left width y : α} {words : List Text}
    (h : call ∈ drawWords m style font left width y words) :
  ∃ word ∈ words, ∃ x y, call = .fillText word x y style.lineColor font
  := by
  induction words generalizing y with
  | nil => contradiction
  | cons word words ih =>
      obtain rfl | h := List.mem_cons.mp h
      · use word, List.mem_cons_self, left + (width - m.width word) / Scalar.two, y
      · obtain ⟨word', hword, hcall⟩ := ih h
        use word', List.mem_cons_of_mem _ hword

/-- Every word is drawn. -/
theorem exists_mem_drawWords {word : Text} {words : List Text} (h : word ∈ words)
    (left width y : α) :
  ∃ x y', .fillText word x y' style.lineColor font ∈ drawWords m style font left width y words
  := by
  induction words generalizing y with
  | nil => contradiction
  | cons first words ih =>
      obtain rfl | h := List.mem_cons.mp h
      · use left + (width - m.width word) / Scalar.two, y
        apply List.mem_cons_self
      · obtain ⟨x, y', hcall⟩ := ih h (y + m.lineHeight)
        use x, y'
        apply List.mem_cons_of_mem _ hcall

/-! ### Texts -/

omit [Scalar α] in
/-- The text and the colour that a call is given. -/
def Call.texts : Call α → List Text
  | .setSize _ _ => []
  | .fillText text _ _ color _ => [text, color]
  | .fillBackground color | .fillRect _ _ _ _ color | .strokeRect _ _ _ _ color
  | .strokeLine _ _ color _ | .fillPolygon _ color | .strokePolygon _ color => [color]

/-- The colours of a style. -/
def Style.colors (style : Style α) : List Text :=
  [style.backgroundColor, style.shadeColor, style.lineColor]

variable {c : Char}

/-- Every text that a call for a container is given is its label or a colour. -/
theorem mem_texts_drawContainer {b : Box α} {call : Call α}
    (h : call ∈ drawContainer m style font b) :
  ∀ t ∈ call.texts, t ∈ style.colors ∨ t = b.label
  := by
  have hshade : style.shadeColor ∈ style.colors := by simp [Style.colors]
  have hline : style.lineColor ∈ style.colors := by simp [Style.colors]
  rw [drawContainer] at h
  simp only [List.mem_cons, List.not_mem_nil, or_false] at h
  obtain rfl | rfl | rfl := h <;> simp [Call.texts, hshade, hline]

/-- Every text that a call for a leaf is given is a word of its label or a colour. -/
theorem mem_texts_drawLeaf {b : Box α} {call : Call α} (h : call ∈ drawLeaf m style font b) :
  ∀ t ∈ call.texts, t ∈ style.colors ∨ t ∈ b.label.words
  := by
  have hline : style.lineColor ∈ style.colors := by simp [Style.colors]
  rw [drawLeaf] at h
  obtain rfl | h := List.mem_cons.mp h
  · simp [Call.texts, hline]
  · obtain ⟨word, hword, x, y, rfl⟩ := mem_drawWords h
    simp [Call.texts, hline, hword]

omit [Scalar α] in
/-- Every text that a call for a connector is given is a colour. -/
theorem mem_texts_drawConnector {connector : Connector α} {call : Call α}
    (h : call ∈ drawConnector style connector) :
  ∀ t ∈ call.texts, t ∈ style.colors
  := by
  have hback : style.backgroundColor ∈ style.colors := by simp [Style.colors]
  have hline : style.lineColor ∈ style.colors := by simp [Style.colors]
  rw [drawConnector, drawHead] at h
  obtain rfl | h := List.mem_cons.mp h
  · simp [Call.texts, hline]
  · split at h <;> simp only [List.mem_cons, List.not_mem_nil, or_false] at h
    · obtain rfl | rfl := h <;> simp [Call.texts, hline]
    · obtain rfl | rfl := h
      · simp only [Call.texts, List.mem_singleton, forall_eq]
        split
        · apply hback
        · apply hline
      · simp [Call.texts, hline]

/-- Every character that a call for a drawing is given stands in a colour or in a label. -/
theorem mem_texts_drawScene {scene : Scene α} {call : Call α}
    (h : call ∈ drawScene m style font scene) {t : Text} (ht : t ∈ call.texts) (hc : c ∈ t) :
  (∃ color ∈ style.colors, c ∈ color) ∨ ∃ b ∈ Box.walkAll scene.boxes, c ∈ b.label
  := by
  have hback : style.backgroundColor ∈ style.colors := by simp [Style.colors]
  rw [drawScene] at h
  simp only [List.cons_append, List.mem_cons, List.mem_append, List.mem_flatMap] at h
  obtain rfl | rfl | h | ⟨connector, -, h⟩ := h
  · contradiction
  · left
    obtain rfl := List.mem_singleton.mp ht
    use style.backgroundColor
  · obtain ⟨b, hb, h | h⟩ := mem_drawBoxes h
    · obtain hcolor | rfl := mem_texts_drawContainer h t ht
      · left
        use t
      · right
        use b
    · obtain hcolor | hword := mem_texts_drawLeaf h t ht
      · left
        use t
      · right
        use b, hb
        apply ((Text.mem_words b.label c).mp ⟨t, hword, hc⟩).1
  · left
    use t, mem_texts_drawConnector h t ht

/-- Every character in the label of an outermost box is drawn, unless it is white space. -/
theorem exists_mem_texts_drawScene {scene : Scene α} {b : Box α} (hb : b ∈ scene.boxes)
    (hc : c ∈ b.label) (hspace : isSpace c = false) :
  ∃ call ∈ drawScene m style font scene, ∃ t ∈ call.texts, c ∈ t
  := by
  have hbox : ∃ call ∈ drawBox m style font b, ∃ t ∈ call.texts, c ∈ t := by
    rw [drawBox_eq]
    split
    · use .fillText b.label (b.left + style.scopePadding) (firstBaseline m style b.top)
        style.lineColor font
      constructor
      · simp [drawContainer]
      · use b.label
        simpa [Call.texts] using hc
    · obtain ⟨word, hword, hcword⟩ := (Text.mem_words b.label c).mpr ⟨hc, hspace⟩
      obtain ⟨x, y, hcall⟩ := exists_mem_drawWords hword b.left b.width
        (firstBaseline m style b.top)
      use .fillText word x y style.lineColor font, List.mem_cons_of_mem _ hcall, word
      simpa [Call.texts] using hcword
  obtain ⟨call, hcall, t, ht, hct⟩ := hbox
  refine ⟨call, ?_, t, ht, hct⟩
  rw [drawScene, drawBoxes_eq_flatMap]
  simp only [List.cons_append, List.mem_cons, List.mem_append, List.mem_flatMap]
  apply Or.inr (Or.inr (Or.inl ⟨b, hb, hcall⟩))

end BoxDiagram
