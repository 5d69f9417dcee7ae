import BoxDiagram.Excalidraw.Share
import BoxDiagram.Proofs.Drawing.Calls
import BoxDiagram.Proofs.Excalidraw.Drawn
import BoxDiagram.Proofs.Lookup.Drawn
import BoxDiagram.Proofs.Lz.Phrases

/-!
# What a share address keeps

The document of every diagram without errors can be shared.  Its address is the base without
a fragment and a payload that stands for the low sixteen bits of the characters of the
document.  So the address keeps the document exactly when no label and no colour that is drawn
has a character beyond sixteen bits.
-/

namespace BoxDiagram

/-! ### Units of sixteen bits -/

namespace Text

/-- A text in units of sixteen bits: a character beyond them takes two. -/
def utf16 (t : Text) : List Lz.Code :=
  t.flatMap fun c =>
    if c.toNat < 0x10000 then [c.toNat]
    else [0xD800 + (c.toNat - 0x10000) / 0x400, 0xDC00 + (c.toNat - 0x10000) % 0x400]

/-- A text of characters that each take one unit. -/
def IsBasic (t : Text) : Prop := ∀ c ∈ t, c.toNat < 0x10000

instance (t : Text) : Decidable t.IsBasic :=
  List.decidableBAll _ t

theorem utf16_of_isBasic {t : Text} (h : t.IsBasic) :
  t.utf16 = t.map Lz.codeOf
  := by
  induction t with
  | nil => rfl
  | cons c t ih =>
      obtain ⟨hc, ht⟩ := List.forall_mem_cons.mp h
      rw [utf16, List.flatMap_cons, if_pos hc, ← utf16, ih ht, List.map_cons, Lz.codeOf,
        Nat.mod_eq_of_lt hc]
      rfl

theorem length_le_utf16 (t : Text) :
  t.length ≤ t.utf16.length
  := by
  induction t with
  | nil => apply Nat.le_refl
  | cons c t ih =>
      rw [utf16, List.flatMap_cons, ← utf16, List.length_append, List.length_cons]
      split
      · rw [List.length_singleton]
        omega
      · change List.length t + 1 ≤ 2 + (utf16 t).length
        omega

/-- A character beyond sixteen bits makes a text longer in units. -/
theorem length_lt_utf16 {t : Text} (h : ¬ t.IsBasic) :
  t.length < t.utf16.length
  := by
  induction t with
  | nil => simp [IsBasic] at h
  | cons c t ih =>
      have hle := length_le_utf16 t
      rw [utf16, List.flatMap_cons, ← utf16, List.length_append, List.length_cons]
      split
      · next hc =>
        have hlt := ih fun ht => h (List.forall_mem_cons.mpr ⟨hc, ht⟩)
        rw [List.length_singleton]
        omega
      · change List.length t + 1 < 2 + (utf16 t).length
        omega

end Text

/-- Compressed text gives the text back exactly when all its characters take one unit. -/
theorem Lz.expand_compress_eq_utf16 (t : Text) :
  expand (compress t) = some t.utf16 ↔ t.IsBasic
  := by
  rw [expand_compress, Option.some_inj]
  constructor
  · intro h
    by_contra hbasic
    have hlt := Text.length_lt_utf16 hbasic
    rw [← h, List.length_map] at hlt
    omega
  · intro h
    rw [Text.utf16_of_isBasic h]

/-! ### Drawing a scene -/

namespace Excalidraw

variable {α : Type} [Scalar α] [Lettering α] {m : Measurer α} {style : Style α} {font : Text}

theorem isFigure_drawBoxes {boxes : List (Box α)} {call : Call α}
    (h : call ∈ drawBoxes m style font boxes) :
  IsFigure call
  := by
  obtain ⟨b, -, h | h⟩ := mem_drawBoxes h
  · rw [drawContainer] at h
    simp only [List.mem_cons, List.not_mem_nil, or_false] at h
    obtain rfl | rfl | rfl := h <;> refine ⟨_, rfl⟩
  · rw [drawLeaf] at h
    obtain rfl | h := List.mem_cons.mp h
    · refine ⟨_, rfl⟩
    · obtain ⟨word, -, x, y, rfl⟩ := mem_drawWords h
      refine ⟨_, rfl⟩

/-- A head has points, so its outline can be drawn. -/
theorem isFigure_drawConnector {connector : Connector α} {call : Call α}
    (h : call ∈ drawConnector style connector) :
  IsFigure call
  := by
  have houtline : ∃ tip points, connector.head.outline = tip :: points := by
    rw [ArrowHead.outline]
    split <;> refine ⟨_, _, rfl⟩
  obtain ⟨tip, points, houtline⟩ := houtline
  rw [drawConnector, drawHead, houtline] at h
  obtain rfl | h := List.mem_cons.mp h
  · refine ⟨_, rfl⟩
  · split at h <;> simp only [List.mem_cons, List.not_mem_nil, or_false] at h <;>
      obtain rfl | rfl := h <;> refine ⟨_, rfl⟩

omit [Lettering α] in
theorem lineFigure_texts {stroke background line : Text} {points : List (Point α)} {f : Figure α}
    (h : some <$> lineFigure stroke background line points = .ok (some f)) :
  f.texts = [line, stroke, background]
  := by
  cases points with
  | nil => contradiction
  | cons first more =>
      obtain ⟨⟨⟩⟩ := h
      rfl

/-- A figure has the texts that its call was given, and otherwise plain ones. -/
theorem texts_figure {call : Call α} {f : Figure α} (h : figureOf call = .ok (some f)) :
  (∀ t ∈ f.texts, t.IsAscii ∨ t ∈ call.texts) ∧ call.texts ⊆ f.texts
  := by
  have hsolid : Text.IsAscii "solid" := by decide
  have hdashed : Text.IsAscii "dashed" := by decide
  have htransparent : transparent.IsAscii := by decide
  have hline : ∀ isDashed : Bool, Text.IsAscii (if isDashed then "dashed" else "solid") := by
    intro isDashed
    cases isDashed
    · apply hsolid
    · apply hdashed
  cases call with
  | setSize width height => cases h
  | fillBackground color => cases h
  | fillRect x y width height color | strokeRect x y width height color =>
      cases h
      simp [-String.reduceToList, Figure.texts, Shape.strokeStyle, Shape.texts, Call.texts, hsolid,
        htransparent]
  | fillText text x y color font =>
      cases h
      simp [-String.reduceToList, Figure.texts, Shape.strokeStyle, Shape.texts, Call.texts,
        textFigure, hsolid, htransparent]
  | strokeLine start finish color dash =>
      rw [lineFigure_texts h]
      simp [-String.reduceToList, Call.texts, hline, htransparent]
  | fillPolygon points color | strokePolygon points color =>
      rw [lineFigure_texts h]
      simp [-String.reduceToList, Call.texts, hsolid, htransparent]

/-- Beyond ASCII a figure has the characters that its call was given. -/
theorem mem_texts_figure {c : Char} (hc : 0x80 ≤ c.toNat) {call : Call α} {f : Figure α}
    (h : figureOf call = .ok (some f)) :
  (∃ t ∈ f.texts, c ∈ t) ↔ ∃ t ∈ call.texts, c ∈ t
  := by
  obtain ⟨hplain, hgiven⟩ := texts_figure h
  constructor
  · rintro ⟨t, ht, hct⟩
    obtain hascii | ht := hplain t ht
    · exfalso
      apply hascii.not_mem hc hct
    · use t
  · rintro ⟨t, ht, hct⟩
    use t, hgiven ht

end Excalidraw

/-- What holds of a figure exactly when it holds of its call holds of some figure exactly when it
holds of some call. -/
theorem exists_mem_iff_of_forall₂ {ι κ : Type} {R : ι → κ → Prop} {p : ι → Prop} {q : κ → Prop}
    (h : ∀ i k, R i k → (q k ↔ p i)) {is : List ι} {ks : List κ} (hall : List.Forall₂ R is ks) :
  (∃ k ∈ ks, q k) ↔ ∃ i ∈ is, p i
  := by
  induction hall with
  | nil => simp
  | cons hik _ ih => simp [h _ _ hik, ih]

namespace ExcalidrawScene

open Excalidraw

variable {m : Measurer Float} {style : Style Float} {font : Text}

theorem elements_empty (name : Text) (seed : Int) :
  (empty name seed : ExcalidrawScene Float).elements = []
  := rfl

/-- Drawing a scene sets the size and the background, and then draws the figures. -/
theorem drawAll_drawScene (s : ExcalidrawScene Float) (scene : Scene Float) :
  s.drawAll (drawScene m style font scene)
    = { s with
        width := scene.size.width, height := scene.size.height,
        backgroundColor := style.backgroundColor }.drawAll
      (drawBoxes m style font scene.boxes ++ scene.connectors.flatMap (drawConnector style))
  := rfl

/-- Every scene can be drawn, and beyond ASCII its document holds the characters that the calls were
given. -/
theorem exists_drawn (m : Measurer Float) (style : Style Float) (font : Text)
    (scene : Scene Float) {s : ExcalidrawScene Float} (hs : s.elements = []) :
  ∃ drawn : ExcalidrawScene Float,
    s.drawAll (drawScene m style font scene) = .ok drawn
      ∧ (∀ e ∈ drawn.elements, e.Plain)
      ∧ ∀ c : Char, 0x80 ≤ c.toNat →
        (c ∈ Json.compact (ExcalidrawDocument.ofScene drawn).json
          ↔ ∃ call ∈ drawScene m style font scene, ∃ t ∈ call.texts, c ∈ t)
  := by
  have hfigures : ∀ call ∈ drawBoxes m style font scene.boxes
      ++ scene.connectors.flatMap (drawConnector style), IsFigure call := by
    intro call hcall
    obtain hcall | hcall := List.mem_append.mp hcall
    · apply isFigure_drawBoxes hcall
    · obtain ⟨connector, -, hcall⟩ := List.mem_flatMap.mp hcall
      apply isFigure_drawConnector hcall
  have hstart : ∀ e ∈ s.elements, e.Plain := by
    rw [hs]
    intro e he
    contradiction
  obtain ⟨drawn, figures, hdrawn, hcolor, helements, hall, hplain⟩ :=
    drawAll_figures hfigures { s with
      width := scene.size.width, height := scene.size.height,
      backgroundColor := style.backgroundColor } hstart
  use drawn
  refine ⟨?drawn, hplain, ?characters⟩
  case drawn => rw [drawAll_drawScene, hdrawn]
  case characters =>
    intro c hc
    have hcalls := exists_mem_iff_of_forall₂ (fun _ _ hfigure => mem_texts_figure hc hfigure) hall
    rw [ExcalidrawDocument.mem_compact_ofScene hc hplain, hcolor, helements, hs, List.map_nil,
      List.nil_append, hcalls]
    simp [drawScene, Call.texts]

end ExcalidrawScene

/-! ### Sharing a document -/

namespace ExcalidrawDocument

/-- A text has characters beyond sixteen bits exactly if the texts that its characters beyond ASCII
come from have some. -/
theorem isBasic_iff_of_mem_iff {json : Text} {calls : List (Call Float)}
    (h : ∀ c : Char, 0x80 ≤ c.toNat → (c ∈ json ↔ ∃ call ∈ calls, ∃ u ∈ call.texts, c ∈ u)) :
  json.IsBasic ↔ ∀ call ∈ calls, ∀ u ∈ call.texts, u.IsBasic
  := by
  constructor
  · intro hjson call hcall u hu c hc
    by_contra hlt
    have hmem := (h c (by omega)).mpr ⟨call, hcall, u, hu, hc⟩
    apply hlt (hjson c hmem)
  · intro hcalls c hc
    by_contra hlt
    obtain ⟨call, hcall, u, hu, hc⟩ := (h c (by omega)).mp hc
    apply hlt (hcalls call hcall u hu c hc)

/-- A document that can be written has an address, whose payload can stand behind a number sign. -/
theorem shareAddress_of_write {d : ExcalidrawDocument} {json : Text}
    (h : Json.write Json.compact d.json = .ok json) (base : Text) :
  d.shareAddress base
      = .ok (withoutFragment base ++ ("#json=" : Text) ++ Lz.compress json)
    ∧ '#' ∉ Lz.compress json
  := by
  constructor
  · rw [shareAddress, payload, h]
    rfl
  · intro hmem
    have hletter := Lz.mem_letters_of_mem_lettersOfBits _ '#' hmem
    revert hletter
    decide

end ExcalidrawDocument

/-! ### Labels beyond sixteen bits -/

theorem isSpace_of_le {c : Char} (h : 0x10000 ≤ c.toNat) :
  isSpace c = false
  := by
  simp [isSpace]
  omega

section Labels

variable {α : Type} [Scalar α] [Angular α] {m : Measurer α} {style : Style α} {font : Text}
variable {s : Scope}

theorem Scene.ofScope_of_valid (h : s.hasErrors = false) :
  Scene.ofScope m style s = .ok (.ofValid m style s)
  := by
  rw [Scene.ofScope, h]
  rfl

/-- The labels in the outermost rows are drawn with their characters beyond sixteen bits. -/
theorem isBasic_label_of_drawScene
    (h : ∀ call ∈ drawScene m style font (.ofValid m style s), ∀ u ∈ call.texts, u.IsBasic)
    {label : Text} (hlabel : s.HasLabel label) :
  label.IsBasic
  := by
  have hroot : Drawn s (layoutBoxes m style.spacing s) [] s (layoutBoxes m style.spacing s) :=
    .root
  obtain ⟨b, hb, rfl⟩ := hroot.exists_mem hlabel
  intro c hc
  by_contra hlt
  have hspace : isSpace c = false := isSpace_of_le (by omega)
  obtain ⟨call, hcall, u, hu, hcu⟩ :
      ∃ call ∈ drawScene m style font (.ofValid m style s), ∃ u ∈ call.texts, c ∈ u :=
    exists_mem_texts_drawScene hb hc hspace
  apply hlt (h call hcall u hu c hcu)

/-- Nothing beyond sixteen bits is drawn but what stands in a colour or a label. -/
theorem isBasic_drawScene (hcolors : ∀ color ∈ style.colors, color.IsBasic)
    (hlabels : ∀ path c label, (path, c) ∈ s.withPaths [] → c.HasLabel label → label.IsBasic) :
  ∀ call ∈ drawScene m style font (.ofValid m style s), ∀ u ∈ call.texts, u.IsBasic
  := by
  have hroot : Drawn s (layoutBoxes m style.spacing s) [] s (layoutBoxes m style.spacing s) :=
    .root
  intro call hcall u hu c hc
  obtain ⟨color, hcolor, hc⟩ | ⟨b, hb, hc⟩ := mem_texts_drawScene hcall hu hc
  · apply hcolors color hcolor c hc
  · obtain ⟨path, d, siblings, hdrawn, hb⟩ := hroot.exists_of_mem_walkAll hb
    apply hlabels path d b.label hdrawn.mem_withPaths (hdrawn.hasLabel_of_mem hb) c hc

end Labels

/-! ### Lossless addresses -/

variable (m : Measurer Float) (style : Style Float) (font name : Text) (seed : Int) (base : Text)

open ExcalidrawDocument

/-- Every scene has a share address.  Its payload stands for the low sixteen bits of the characters
of the written document, and so for the document exactly when nothing beyond them is drawn. -/
theorem exists_shareAddress (scene : Scene Float) :
  ∃ drawn json payload,
    (ExcalidrawScene.empty name seed).drawAll (drawScene m style font scene) = .ok drawn
      ∧ Json.write Json.compact (ofScene drawn).json = .ok json
      ∧ (ofScene drawn).shareAddress base
        = .ok (withoutFragment base ++ ("#json=" : Text) ++ payload)
      ∧ '#' ∉ payload
      ∧ Lz.expand payload = some (json.map Lz.codeOf)
      ∧ (Lz.expand payload = some json.utf16
        ↔ ∀ call ∈ drawScene m style font scene, ∀ u ∈ call.texts, u.IsBasic)
  := by
  obtain ⟨drawn, hdrawn, hplain, hcharacters⟩ :=
    ExcalidrawScene.exists_drawn m style font scene (ExcalidrawScene.elements_empty name seed)
  have hwrite := write_ofScene hplain Json.compact
  obtain ⟨haddress, hfragment⟩ := shareAddress_of_write hwrite base
  use drawn, Json.compact (ofScene drawn).json, Lz.compress (Json.compact (ofScene drawn).json)
  refine ⟨hdrawn, hwrite, haddress, hfragment, Lz.expand_compress _, ?lossless⟩
  case lossless => rw [Lz.expand_compress_eq_utf16, isBasic_iff_of_mem_iff hcharacters]

/-- The document of every diagram without errors has a share address: the base without its fragment
and a payload without a number sign, which expands to the low sixteen bits of the characters of
the written document.  It gives the document back exactly when no text that is drawn has a
character beyond sixteen bits; so it does not if a label of the outermost rows has one, and it
does if neither the colours nor any labels have. -/
theorem shareAddress_lossless_iff {t : Text} (ht : (Scope.ofText t).hasErrors = false) :
  ∃ scene drawn json payload,
    Scene.ofScope m style (.ofText t) = .ok scene
      ∧ (ExcalidrawScene.empty name seed).drawAll (drawScene m style font scene) = .ok drawn
      ∧ Json.write Json.compact (ofScene drawn).json = .ok json
      ∧ (ofScene drawn).shareAddress base
        = .ok (withoutFragment base ++ ("#json=" : Text) ++ payload)
      ∧ '#' ∉ payload
      ∧ Lz.expand payload = some (json.map Lz.codeOf)
      ∧ (Lz.expand payload = some json.utf16
        ↔ ∀ call ∈ drawScene m style font scene, ∀ u ∈ call.texts, u.IsBasic)
      ∧ (∀ label, (Scope.ofText t).HasLabel label → ¬ label.IsBasic →
        Lz.expand payload ≠ some json.utf16)
      ∧ ((∀ color ∈ style.colors, color.IsBasic) →
        (∀ path c label, (path, c) ∈ (Scope.ofText t).withPaths [] → c.HasLabel label →
          label.IsBasic) →
        Lz.expand payload = some json.utf16)
  := by
  obtain ⟨drawn, json, payload, hdrawn, hwrite, haddress, hfragment, hexpand, hlossless⟩ :=
    exists_shareAddress m style font name seed base (.ofValid m style (.ofText t))
  refine ⟨_, drawn, json, payload, Scene.ofScope_of_valid ht, hdrawn, hwrite, haddress, hfragment,
    hexpand, hlossless, ?lost, ?kept⟩
  case lost =>
    intro label hlabel hbasic hkept
    apply hbasic
    apply isBasic_label_of_drawScene (hlossless.mp hkept) hlabel
  case kept =>
    intro hcolors hlabels
    apply hlossless.mpr
    apply isBasic_drawScene hcolors hlabels

/-- A diagram with accents, in the usual style. -/
theorem shareAddress_lossless_accents :
  let t : Text := "layout:\n[Café][b]\n[b]:\nlayout:\n[né]\n"
  ∃ scene drawn json payload,
    Scene.ofScope (.guessing 14.0) .standard (.ofText t) = .ok scene
      ∧ (ExcalidrawScene.empty "boxes" 1).drawAll
        (drawScene (.guessing 14.0) .standard Style.standard.font scene) = .ok drawn
      ∧ Json.write Json.compact (ofScene drawn).json = .ok json
      ∧ (ofScene drawn).shareAddress publicBase
        = .ok (withoutFragment publicBase ++ ("#json=" : Text) ++ payload)
      ∧ Lz.expand payload = some json.utf16
  := by
  intro t
  have ht : (Scope.ofText t).hasErrors = false := by decide +kernel
  have hcolors : ∀ color ∈ Style.standard.colors, color.IsBasic := by decide +kernel
  have hrows : ∀ entry ∈ (Scope.ofText t).withPaths [], ∀ row ∈ entry.2.layout.getD [],
      ∀ label ∈ row.all, label.IsBasic := by
    decide +kernel
  obtain ⟨scene, drawn, json, payload, hscene, hdrawn, hwrite, haddress, -, -, -, -, hkept⟩ :=
    shareAddress_lossless_iff (.guessing 14.0) .standard Style.standard.font "boxes" 1 publicBase ht
  refine ⟨scene, drawn, json, payload, hscene, hdrawn, hwrite, haddress, ?_⟩
  apply hkept hcolors
  rintro path c label hc ⟨row, hrow, hlabel⟩
  apply hrows (path, c) hc row hrow label hlabel

/-- A face beyond sixteen bits in a label comes back as another character. -/
theorem shareAddress_lossy_face :
  let t : Text := "layout:\n[😀]\n"
  (Scope.ofText t).hasErrors = false
    ∧ ∃ scene drawn json payload,
      Scene.ofScope (.guessing 14.0) .standard (.ofText t) = .ok scene
        ∧ (ExcalidrawScene.empty "boxes" 1).drawAll
          (drawScene (.guessing 14.0) .standard Style.standard.font scene) = .ok drawn
        ∧ Json.write Json.compact (ofScene drawn).json = .ok json
        ∧ (ofScene drawn).shareAddress publicBase
          = .ok (withoutFragment publicBase ++ ("#json=" : Text) ++ payload)
        ∧ '#' ∉ payload
        ∧ Lz.expand payload ≠ some json.utf16
  := by
  intro t
  have ht : (Scope.ofText t).hasErrors = false := by decide +kernel
  have hlabel : (Scope.ofText t).HasLabel "😀" := by
    have hlayout : (Scope.ofText t).layout = some [⟨["😀"], []⟩] := by decide +kernel
    rw [Scope.HasLabel, hlayout]
    decide
  have hface : ¬ Text.IsBasic "😀" := by decide +kernel
  obtain ⟨drawn, json, payload, hdrawn, hwrite, haddress, hfragment, -, hlossless⟩ :=
    exists_shareAddress (.guessing 14.0) .standard Style.standard.font "boxes" 1 publicBase
      (.ofValid (.guessing 14.0) .standard (.ofText t))
  refine ⟨ht, _, drawn, json, payload, Scene.ofScope_of_valid ht, hdrawn, hwrite, haddress,
    hfragment, ?_⟩
  intro hkept
  apply hface
  apply isBasic_label_of_drawScene (hlossless.mp hkept) hlabel

end BoxDiagram
