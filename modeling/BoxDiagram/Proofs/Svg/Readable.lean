import BoxDiagram.Proofs.Document.RoundTrip
import BoxDiagram.Proofs.Drawing.Renderable
import BoxDiagram.Proofs.Drawing.Texts
import BoxDiagram.Proofs.Lookup.Drawn
import BoxDiagram.Proofs.Settings.Accepted
import BoxDiagram.Proofs.Svg.Elements

/-!
# SVG drawings that can be read

A drawing is read back as XML with one element for each call, in order, that has the text which
the call was given.  This needs texts of characters that a document may hold: escaping does not
help a control character, and nothing keeps one out of a label or a font family.  So the
drawing of a valid diagram is readable exactly if every text that is drawn, and the family of
its font, have allowed characters, and otherwise it is no XML at all.
-/

namespace BoxDiagram

open Xml

namespace Svg

/-! ### Reading a drawing -/

/-- The elements among the content of an element. -/
def elementsOf (content : List Node) : List Node :=
  content.filter fun node => match node with
    | .text _ => false
    | .element _ _ _ => true

/-- A text is read as a drawing with an element for each call that adds one, in order: it has the
name and the text that belong to the call, and the attributes with which it was drawn. -/
def Readable (calls : List (Call Float)) (t : Text) : Prop :=
  ∃ attributes content, read? t = some (.element "svg" attributes content)
    ∧ List.Forall₂ (fun call node => ∃ width height leaf,
        elementOf width height call = .ok (some leaf)
          ∧ node = .element call.elementName leaf.attributes (textNodes call.caption))
      (calls.filter fun call => !call.elementName.isEmpty) (elementsOf content)

theorem elementsOf_lineNodes (leaves : List Leaf) :
  elementsOf (lineNodes leaves) = leaves.map Leaf.node
  := by
  have hlines : elementsOf (leaves.flatMap fun leaf => [.text ['\n', ' ', ' '], leaf.node])
      = leaves.map Leaf.node := by
    induction leaves with
    | nil => rfl
    | cons leaf leaves ih =>
        rw [List.flatMap_cons, elementsOf, List.filter_append, ← elementsOf, ← elementsOf, ih]
        rfl
  rw [lineNodes]
  split
  · next hnone =>
    rw [List.isEmpty_iff.mp hnone]
    rfl
  · rw [elementsOf, List.filter_append, ← elementsOf, hlines]
    apply List.append_nil

/-- What holds of the members of one list exactly if it holds of those of another that they are
related to holds of all of the one exactly if of all of the other. -/
theorem forall_mem_iff_of_forall₂ {ι κ : Type} {r : ι → κ → Prop} {p : ι → Prop} {q : κ → Prop}
    {is : List ι} {ks : List κ} (h : List.Forall₂ r is ks) (hpq : ∀ i k, r i k → (p i ↔ q k)) :
  (∀ i ∈ is, p i) ↔ ∀ k ∈ ks, q k
  := by
  induction h with
  | nil => simp
  | cons hik _ ih => rw [List.forall_mem_cons, List.forall_mem_cons, hpq _ _ hik, ih]

variable {calls : List (Call Float)} {s : Svg}

/-- A property of all calls that settings of the size have is one of those that add an element. -/
theorem forall_mem_filter_iff {p : Call Float → Prop}
    (hp : ∀ width height, p (.setSize width height)) :
  (∀ call ∈ calls.filter fun call => !call.elementName.isEmpty, p call) ↔ ∀ call ∈ calls, p call
  := by
  constructor
  · intro h call hcall
    by_cases hname : call.elementName = []
    · obtain ⟨width, height, rfl⟩ := exists_setSize hname
      apply hp
    · apply h call (List.mem_filter.mpr ⟨hcall, by simpa using hname⟩)
  · intro h call hcall
    apply h call (List.mem_filter.mp hcall).1

/-- The characters of a drawing are allowed exactly if those of the texts, colours and fonts of its
calls are. -/
theorem Depicts.allowed_iff (h : Depicts calls s) :
  Allowed s.toText ↔ ∀ call ∈ calls, Allowed call.caption ∧ ∀ look ∈ call.looks, Allowed look
  := by
  have hattributes : ∀ named ∈ (("xmlns" : Text), namespaceName) :: s.attributes,
      Allowed named.2 := by
    rw [List.forall_mem_cons]
    use by decide, h.allowed
  rw [toText, allowed_elementText h.wellNamed, and_iff_right hattributes, allowed_linesText,
    ← forall_mem_filter_iff
      (p := fun call => Allowed call.caption ∧ ∀ look ∈ call.looks, Allowed look)
      (fun _ _ => ⟨allowed_nil, List.forall_mem_nil _⟩)]
  symm
  apply forall_mem_iff_of_forall₂ h.shows
  intro call leaf hshows
  rw [allowed_write hshows.wellNamed, hshows.allowed_iff, hshows.text, and_comm]

/-- A drawing is readable if its characters are allowed and no text has a carriage return. -/
theorem Depicts.readable (h : Depicts calls s) (hallowed : Allowed s.toText)
    (hreturn : ∀ call ∈ calls, '\r' ∉ call.caption) :
  Readable calls s.toText
  := by
  have hleaves : ∀ leaf ∈ s.elements, WellNamed leaf.name leaf.attributes := by
    apply (forall_mem_iff_of_forall₂ h.shows fun _ _ hshows =>
      iff_of_true trivial hshows.wellNamed).mp
    intro call _
    trivial
  have htexts : ∀ leaf ∈ s.elements, '\r' ∉ leaf.text := by
    have hiff : (∀ call ∈ calls.filter fun call => !call.elementName.isEmpty, '\r' ∉ call.caption)
        ↔ ∀ leaf ∈ s.elements, '\r' ∉ leaf.text := by
      apply forall_mem_iff_of_forall₂ h.shows
      intro call leaf hshows
      rw [hshows.text]
    rw [← hiff]
    intro call hcall
    apply hreturn call (List.mem_filter.mp hcall).1
  have hnone := not_mem_elementText h.wellNamed (not_mem_linesText hleaves htexts)
  refine ⟨_, _, read?_element h.wellNamed hleaves hallowed hnone, ?_⟩
  rw [elementsOf_lineNodes, List.forall₂_map_right_iff]
  apply h.shows.imp
  intro call leaf hshows
  obtain ⟨width, height, hdrawn⟩ := hshows.drawn
  refine ⟨width, height, leaf, hdrawn, ?_⟩
  rw [Leaf.node, hshows.name, hshows.text]

/-- What is no XML is no readable drawing. -/
theorem not_readable {t : Text} (h : read? t = none) (calls : List (Call Float)) :
  ¬ Readable calls t
  := by
  rintro ⟨attributes, content, hread, -⟩
  rw [h] at hread
  contradiction

theorem read?_eq_none {t : Text} (h : ¬ Allowed t) :
  read? t = none
  := by
  rw [read?, if_neg]
  rw [List.all_eq_true]
  apply h

end Svg

/-! ### The texts of a diagram -/

namespace Scope

/-- Every label in the rows of a scope that a text describes can stand in a row. -/
theorem isRowLabel_of_hasLabel {t path label : Text} {c : Scope}
    (hc : (path, c) ∈ withPaths [] (ofText t)) (hlabel : c.HasLabel label) :
  IsRowLabel label
  := by
  obtain ⟨hroot, hnested⟩ := legible_addBlocks_blocksOf t
  rw [ofText, withPaths_validate] at hc
  obtain ⟨⟨q, d⟩, hd, heq⟩ := List.mem_map.mp hc
  obtain ⟨rfl, rfl⟩ := Prod.mk.inj heq
  have hlegible : d.Legible := by
    rw [withPaths_eq] at hd
    obtain hd | hd := List.mem_cons.mp hd
    · obtain ⟨-, rfl⟩ := Prod.mk.inj hd
      apply hroot
    · apply (hnested.of_mem (by decide) hd).2
  obtain ⟨row, hrow, hlabel⟩ := hlabel
  have hlayout : (validate q d).layout = d.layout := by
    cases d
    rfl
  rw [hlayout] at hrow
  cases hrows : d.layout with
  | none =>
      rw [hrows] at hrow
      contradiction
  | some rows =>
      rw [hrows] at hrow
      apply (hlegible.rows rows hrows row hrow).labels label hlabel

end Scope

section

variable {α : Type} [Scalar α] {m : Measurer α} {style : Style α} {font : Text}

/-- The boxes drawn for a text have labels that can stand in a row. -/
theorem isRowLabel_of_mem_walkAll {sp : Spacing α} {t : Text} {b : Box α}
    (h : b ∈ Box.walkAll (layoutBoxes m sp (Scope.ofText t))) :
  IsRowLabel b.label
  := by
  obtain ⟨path, c, siblings, hdrawn, hb⟩ := Drawn.exists_of_mem_walkAll .root h
  apply Scope.isRowLabel_of_hasLabel hdrawn.mem_withPaths (hdrawn.hasLabel_of_mem hb)

/-- A call of a drawing draws a text in the colour of lines and in the font of the drawing, or it
draws no text and is given colours of the style. -/
theorem mem_drawScene_cases {scene : Scene α} {call : Call α}
    (h : call ∈ drawScene m style font scene) :
  (∃ text x y, call = .fillText text x y style.lineColor font)
    ∨ (call.textLine? = none ∧ ∀ look ∈ call.looks, look ∈ style.colors)
  := by
  have hback : style.backgroundColor ∈ style.colors := by simp [Style.colors]
  have hshade : style.shadeColor ∈ style.colors := by simp [Style.colors]
  have hline : style.lineColor ∈ style.colors := by simp [Style.colors]
  rw [drawScene] at h
  simp only [List.cons_append, List.mem_cons, List.mem_append, List.mem_flatMap] at h
  obtain rfl | rfl | h | ⟨connector, -, h⟩ := h
  · apply Or.inr ⟨rfl, List.forall_mem_nil _⟩
  · apply Or.inr ⟨rfl, List.forall_mem_singleton.mpr hback⟩
  · obtain ⟨b, -, h | h⟩ := mem_drawBoxes h
    · rw [drawContainer] at h
      simp only [List.mem_cons, List.not_mem_nil, or_false] at h
      obtain rfl | rfl | rfl := h
      · apply Or.inr ⟨rfl, List.forall_mem_singleton.mpr hshade⟩
      · apply Or.inl ⟨_, _, _, rfl⟩
      · apply Or.inr ⟨rfl, List.forall_mem_singleton.mpr hline⟩
    · rw [drawLeaf] at h
      obtain rfl | h := List.mem_cons.mp h
      · apply Or.inr ⟨rfl, List.forall_mem_singleton.mpr hline⟩
      · obtain ⟨word, -, x, y, rfl⟩ := mem_drawWords h
        apply Or.inl ⟨_, _, _, rfl⟩
  · right
    have htexts := mem_texts_drawConnector h
    have hnone := textLine?_of_mem_drawConnector h
    cases call with
    | fillText text x y color font => contradiction
    | setSize width height => use rfl, List.forall_mem_nil _
    | _ => use rfl, htexts

omit [Scalar α] in
/-- Only calls for texts have one. -/
theorem caption_of_textLine? {call : Call α} (h : call.textLine? = none) :
  call.caption = []
  := by
  cases call <;> first | rfl | contradiction

omit [Scalar α] in
/-- A call for no text is given a colour or nothing. -/
theorem texts_of_textLine? {call : Call α} (h : call.textLine? = none) :
  call.texts = call.looks
  := by
  cases call <;> first | rfl | contradiction

end

theorem isPlain_of_isColor {t : Text} (h : isColor t = true) :
  t.IsPlain
  := by
  intro c hc
  have hrange := toNat_of_isColor h hc
  omega

theorem Style.Accepted.isPlain_colors {style : Style Float} (h : style.Accepted) :
  ∀ color ∈ style.colors, color.IsPlain
  := by
  rw [Style.colors, List.forall_mem_cons, List.forall_mem_cons, List.forall_mem_singleton]
  use isPlain_of_isColor h.backgroundColor, isPlain_of_isColor h.shadeColor,
    isPlain_of_isColor h.lineColor

theorem Style.allowed_font_iff (style : Style Float) :
  Allowed style.font ↔ Allowed style.fontFamily
  := by
  have hsize := (isPlain_generalText style.fontSize).allowed
  have hunit : isChar 'p' = true ∧ isChar 'x' = true ∧ isChar ' ' = true := by decide
  simp [Style.font, allowed_append, allowed_cons, hsize, hunit]

namespace Svg

variable {m : Measurer Float} {style : Style Float} {scene : Scene Float} {svg : Svg}

/-- The characters of the drawing of a scene are allowed exactly if those of all texts that are
drawn, and of the family of their font, are. -/
theorem allowed_drawScene_iff (hstyle : style.Accepted)
    (h : Svg.empty.drawAll (drawScene m style style.font scene) = .ok svg) :
  Allowed svg.toText
    ↔ ∀ text x y color font, .fillText text x y color font ∈ drawScene m style style.font scene →
      Allowed text ∧ Allowed style.fontFamily
  := by
  have hcolors : ∀ color ∈ style.colors, Allowed color := fun color hcolor =>
    (hstyle.isPlain_colors color hcolor).allowed
  rw [(depicts_empty.drawAll h).allowed_iff, List.nil_append]
  constructor
  · intro hall text x y color font hcall
    obtain ⟨htext, hlooks⟩ := hall _ hcall
    use htext
    rw [← style.allowed_font_iff]
    obtain ⟨_, _, _, heq⟩ | ⟨hnone, -⟩ := mem_drawScene_cases hcall
    · obtain ⟨-, -, -, -, rfl⟩ := Call.fillText.inj heq
      apply hlooks style.font
      simp [Call.looks]
    · contradiction
  · intro hall call hcall
    obtain ⟨text, x, y, rfl⟩ | ⟨hnone, hlooks⟩ := mem_drawScene_cases hcall
    · obtain ⟨htext, hfamily⟩ := hall _ _ _ _ _ hcall
      rw [Call.looks, List.forall_mem_cons, List.forall_mem_singleton, style.allowed_font_iff]
      use htext, hcolors style.lineColor (by simp [Style.colors])
    · rw [caption_of_textLine? hnone]
      use allowed_nil
      intro look hlook
      apply hcolors look (hlooks look hlook)

/-- No text that is drawn for a diagram has a carriage return. -/
theorem not_mem_caption {t : Text} (hstyle : style.Accepted) [Angular Float] {call : Call Float}
    (h : call ∈ drawScene m style style.font (Scene.ofValid m style (Scope.ofText t))) :
  '\r' ∉ call.caption
  := by
  intro hmem
  cases call with
  | fillText text x y color font =>
      have htext : text ∈ (Call.fillText text x y color font).texts := List.mem_cons_self
      obtain ⟨color, hcolor, hc⟩ | ⟨b, hb, hc⟩ := mem_texts_drawScene h htext hmem
      · have hplain := hstyle.isPlain_colors color hcolor '\r' hc
        revert hplain
        decide
      · have hline := (isRowLabel_of_mem_walkAll hb).oneLine '\r' hc
        contradiction
  | _ => contradiction

/-- A character that is neither allowed nor white space keeps a drawing from being read if it
stands in the label of an outermost box. -/
theorem read?_eq_none_of_label (hstyle : style.Accepted)
    (h : Svg.empty.drawAll (drawScene m style style.font scene) = .ok svg) {b : Box Float}
    (hb : b ∈ scene.boxes) {c : Char} (hc : c ∈ b.label) (hspace : isSpace c = false)
    (hforbidden : isChar c = false) :
  read? svg.toText = none
  := by
  apply read?_eq_none
  rw [allowed_drawScene_iff hstyle h]
  intro hall
  obtain ⟨call, hcall, t, ht, hct⟩ : ∃ call ∈ drawScene m style style.font scene,
      ∃ t ∈ call.texts, c ∈ t := exists_mem_texts_drawScene hb hc hspace
  have hallowed : Allowed t := by
    obtain ⟨text, x, y, rfl⟩ | ⟨hnone, hlooks⟩ := mem_drawScene_cases hcall
    · rw [Call.texts, List.mem_pair] at ht
      obtain rfl | rfl := ht
      · apply (hall _ _ _ _ _ hcall).1
      · apply (hstyle.isPlain_colors style.lineColor (by simp [Style.colors])).allowed
    · rw [texts_of_textLine? hnone] at ht
      apply (hstyle.isPlain_colors t (hlooks t ht)).allowed
  rw [hallowed c hct] at hforbidden
  contradiction

end Svg

/-! ### Readable drawings -/

open Scope

/-- The SVG drawing of a diagram is readable exactly if its texts are.  For every valid diagram,
accepted style and measurer, if the calls that rendering makes can be drawn,

* the drawing is read as one element for each call that adds one, in order, with its attributes
  and the text that the call was given, exactly if all its characters are allowed in XML;
* they are exactly if those of the texts that are drawn, and of the family of their font, are;
* otherwise it is no well-formed XML at all;
* so it is readable if all labels of the diagram and the font family have allowed characters;
* but a character in the label of an outermost box that is neither allowed nor white space keeps
  it from being read. -/
theorem render_readable_iff [Angular Float] (t : Text) (fields : Fields) (style : Style Float)
    (hstyle : Style.ofFields fields = .ok style) (hvalid : (ofText t).hasErrors = false)
    (m : Measurer Float) (svg : Svg)
    (hsvg : Svg.empty.drawAll
      (drawScene m style style.font (Scene.ofValid m style (ofText t))) = .ok svg) :
  let scene := Scene.ofValid m style (ofText t)
  let calls := drawScene m style style.font scene
  (render m style style.font recorder (ofText t)).run.run [] = (.ok scene, calls)
    ∧ (Svg.Readable calls svg.toText ↔ Allowed svg.toText)
    ∧ (Allowed svg.toText
      ↔ ∀ text x y color font, .fillText text x y color font ∈ calls →
        Allowed text ∧ Allowed style.fontFamily)
    ∧ (¬ Svg.Readable calls svg.toText → read? svg.toText = none)
    ∧ ((∀ b ∈ Box.walkAll scene.boxes, Allowed b.label) → Allowed style.fontFamily →
        Svg.Readable calls svg.toText)
    ∧ (∀ b ∈ scene.boxes, ∀ c ∈ b.label, isSpace c = false → isChar c = false →
        read? svg.toText = none)
  := by
  intro scene calls
  have haccepted := Style.accepted_ofFields hstyle
  have hdepicts : Svg.Depicts calls svg := Svg.depicts_empty.drawAll hsvg
  have hallowed := Svg.allowed_drawScene_iff haccepted hsvg
  have hreadable : Allowed svg.toText → Svg.Readable calls svg.toText := fun h =>
    hdepicts.readable h fun call hcall => Svg.not_mem_caption haccepted hcall
  have hrefused : ¬ Allowed svg.toText → ¬ Svg.Readable calls svg.toText := fun h =>
    Svg.not_readable (Svg.read?_eq_none h) calls
  refine ⟨?calls, ?readable, hallowed, ?refused, ?labels, ?outermost⟩
  case calls =>
    rw [run_render_of_valid hvalid, StateT.run_bind, run_forM_recorder, List.nil_append]
    rfl
  case readable => apply Iff.intro (not_imp_not.mp hrefused) hreadable
  case refused =>
    intro h
    apply Svg.read?_eq_none
    apply mt hreadable h
  case labels =>
    intro hlabels hfamily
    apply hreadable
    rw [hallowed]
    intro text x y color font hcall
    refine ⟨?_, hfamily⟩
    intro c hc
    have htext : text ∈ (Call.fillText text x y color font).texts := List.mem_cons_self
    obtain ⟨color, hcolor, hc⟩ | ⟨b, hb, hc⟩ := mem_texts_drawScene hcall htext hc
    · apply (haccepted.isPlain_colors color hcolor).allowed c hc
    · apply hlabels b hb c hc
  case outermost =>
    intro b hb c hc hspace hforbidden
    apply Svg.read?_eq_none_of_label haccepted hsvg hb hc hspace hforbidden

/-- Labels with brackets, ampersands and quotes are read back from a drawing in the usual style. -/
theorem render_readable_iff_markup :
  letI := levelAngles
  let style := Style.standard
  let m := Measurer.guessing style.fontSize
  let t : Text := "layout:\n[a<b][\"c\" & 'd']\n"
  let calls := drawScene m style style.font (Scene.ofValid m style (ofText t))
  Style.ofFields [] = .ok style ∧ (ofText t).hasErrors = false
    ∧ ∃ svg, Svg.empty.drawAll calls = .ok svg ∧ Svg.Readable calls svg.toText
  := by
  intro style m t calls
  have hvalid : (ofText t).hasErrors = false := by decide +kernel
  have hlabels : ∀ b ∈ Box.walkAll (@Scene.ofValid _ _ levelAngles m style (ofText t)).boxes,
      Allowed b.label := by decide +kernel
  obtain ⟨svg, hsvg⟩ : Succeeds (Svg.empty.drawAll calls) :=
    @succeeds_drawAll_of_moderate levelAngles boundedAngles_levelAngles _ Style.accepted_standard
      Style.atMost_standard t (by decide +kernel)
  obtain ⟨-, -, -, -, hreadable, -⟩ :=
    @render_readable_iff levelAngles t [] style rfl hvalid m svg hsvg
  have hfamily : Allowed Style.standard.fontFamily := by decide
  refine ⟨rfl, hvalid, svg, hsvg, hreadable hlabels hfamily⟩

/-- A control character is accepted in a label and drawn, and then the drawing is no XML. -/
theorem not_render_readable_control :
  letI := levelAngles
  let style := Style.standard
  let m := Measurer.guessing style.fontSize
  let t : Text := "layout:\n[\x01]\n"
  let calls := drawScene m style style.font (Scene.ofValid m style (ofText t))
  Style.ofFields [] = .ok style ∧ (ofText t).hasErrors = false
    ∧ ∃ svg, Svg.empty.drawAll calls = .ok svg ∧ read? svg.toText = none
      ∧ ¬ Svg.Readable calls svg.toText
  := by
  intro style m t calls
  have hvalid : (ofText t).hasErrors = false := by decide +kernel
  have hlabel : ∃ b ∈ (@Scene.ofValid _ _ levelAngles m style (ofText t)).boxes,
      '\x01' ∈ b.label := by decide +kernel
  obtain ⟨svg, hsvg⟩ : Succeeds (Svg.empty.drawAll calls) :=
    @succeeds_drawAll_of_moderate levelAngles boundedAngles_levelAngles _ Style.accepted_standard
      Style.atMost_standard t (by decide +kernel)
  obtain ⟨b, hb, hc⟩ := hlabel
  have hcontrol : isSpace '\x01' = false ∧ isChar '\x01' = false := by decide
  have hnone : read? svg.toText = none :=
    Svg.read?_eq_none_of_label Style.accepted_standard hsvg hb hc hcontrol.1 hcontrol.2
  refine ⟨rfl, hvalid, svg, hsvg, hnone, Svg.not_readable hnone calls⟩

end BoxDiagram
