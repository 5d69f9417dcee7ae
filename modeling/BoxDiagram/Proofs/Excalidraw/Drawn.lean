import BoxDiagram.Excalidraw.Document
import BoxDiagram.Proofs.Json.Characters
import Mathlib.Data.List.Forall2

/-!
# Drawn Excalidraw documents

A scene that is drawn from calls for figures has one element for each call, in order.  The
document of a scene can always be written, because its numbers are small and its lists are
nested a few levels deep; beyond ASCII it holds the characters of the colours and texts that
the calls were given.
-/

namespace BoxDiagram

/-! ### Drawing figures -/

namespace Twister

theorem drawWithin_le (fuel : Nat) (g : Twister) :
  (drawWithin fuel g).1 ≤ greatestDraw
  := by
  induction fuel generalizing g with
  | zero =>
      change 1 ≤ greatestDraw
      decide
  | succ fuel ih =>
      rw [drawWithin]
      simp only
      split
      · next h => apply h
      · apply ih

theorem draw_le (g : Twister) :
  g.draw.1 ≤ greatestDraw
  := drawWithin_le _ g

end Twister

namespace Uuid

theorem isAscii_text (u : Uuid) :
  u.text.IsAscii
  := by
  have hdigits : Text.IsAscii (u.bytes.flatMap fun b => hexText 2 b.toNat) := by
    intro c hc
    obtain ⟨b, -, hc⟩ := List.mem_flatMap.mp hc
    apply isAscii_hexText _ _ c hc
  have hbetween : ∀ start stop,
      Text.IsAscii (Text.between (u.bytes.flatMap fun b => hexText 2 b.toNat) start stop) := by
    intro start stop
    apply hdigits.of_subset
    apply List.Subset.trans (List.take_subset _ _) (List.drop_subset _ _)
  rw [text]
  simp only [Text.join, Text.isAscii_append]
  refine ⟨⟨hdigits.of_subset (List.take_subset _ _), by decide⟩, ⟨hbetween _ _, by decide⟩,
    ⟨hbetween _ _, by decide⟩, ⟨hbetween _ _, by decide⟩,
    hdigits.of_subset (List.drop_subset _ _)⟩

end Uuid

namespace Excalidraw

/-- A call that asks for a figure. -/
def IsFigure {α : Type} [Scalar α] [Lettering α] (call : Call α) : Prop :=
  ∃ f, figureOf call = .ok (some f)

/-- An element whose identifier is plain and whose numbers are small, as drawing makes them. -/
structure Element.Plain {α : Type} (e : Element α) : Prop where
  id : e.id.IsAscii
  seed : e.seed ≤ Twister.greatestDraw
  versionNonce : e.versionNonce ≤ Twister.greatestDraw

end Excalidraw

namespace ExcalidrawScene

open Excalidraw

variable {α : Type}

theorem append_plain (s : ExcalidrawScene α) (f : Figure α) (h : ∀ e ∈ s.elements, e.Plain) :
  ∀ e ∈ (s.append f).elements, e.Plain
  := by
  intro e he
  obtain he | he := List.mem_append.mp he
  · apply h e he
  · obtain rfl := List.mem_singleton.mp he
    constructor
    · apply Uuid.isAscii_text
    · apply Twister.draw_le
    · apply Twister.draw_le

variable [Scalar α] [Lettering α]

theorem draw_figure {call : Call α} {f : Figure α} (h : figureOf call = .ok (some f))
    (s : ExcalidrawScene α) :
  s.draw call = .ok (s.append f)
  := by
  simp [draw, h]

/-- Calls for figures are drawn without failing; each appends its figure as an element. -/
theorem drawAll_figures {calls : List (Call α)} (h : ∀ call ∈ calls, IsFigure call)
    (s : ExcalidrawScene α) (hs : ∀ e ∈ s.elements, e.Plain) :
  ∃ drawn figures, s.drawAll calls = .ok drawn ∧ drawn.backgroundColor = s.backgroundColor
    ∧ drawn.elements.map Element.figure = s.elements.map Element.figure ++ figures
    ∧ List.Forall₂ (fun call f => figureOf call = .ok (some f)) calls figures
    ∧ ∀ e ∈ drawn.elements, e.Plain
  := by
  induction calls generalizing s with
  | nil =>
      use s, []
      refine ⟨rfl, rfl, by simp, .nil, hs⟩
  | cons call calls ih =>
      obtain ⟨⟨f, hf⟩, hcalls⟩ := List.forall_mem_cons.mp h
      obtain ⟨drawn, figures, hdrawn, hcolor, hfigures, hall, hplain⟩ :=
        ih hcalls (s.append f) (s.append_plain f hs)
      use drawn, f :: figures
      refine ⟨?drawn, hcolor, ?figures, .cons hf hall, hplain⟩
      case drawn => rw [drawAll, draw_figure hf, ← hdrawn]
      case figures =>
        rw [hfigures, append]
        simp

end ExcalidrawScene

/-! ### Documents that can be written -/

namespace Json

theorem fieldsObstacle_append (room : Nat) (front back : Fields) :
  fieldsObstacle room (front ++ back)
    = (fieldsObstacle room front).or (fieldsObstacle room back)
  := by
  induction front with
  | nil => rfl
  | cons field front ih =>
      obtain ⟨name, value⟩ := field
      rw [List.cons_append, fieldsObstacle, ih, fieldsObstacle, Option.or_assoc]

theorem itemsObstacle_eq_none {room : Nat} {items : List Json}
    (h : ∀ value ∈ items, obstacle room value = none) :
  itemsObstacle room items = none
  := by
  induction items with
  | nil => rfl
  | cons value items ih =>
      obtain ⟨hvalue, hitems⟩ := List.forall_mem_cons.mp h
      rw [itemsObstacle, hvalue, ih hitems]
      rfl

theorem obstacle_small {n : Nat} (h : n ≤ Twister.greatestDraw) (room : Nat) :
  obstacle room (.int n) = none
  := by
  rw [Twister.greatestDraw] at h
  rw [obstacle, if_pos]
  simp
  omega

end Json

namespace Excalidraw

open Json

theorem obstacle_element {e : Element Float} (h : e.Plain) (room : Nat) :
  obstacle (room + 3) e.json = none
  := by
  have hpoints : ∀ points : List (Point Float),
      itemsObstacle (room + 1) (points.map fun p => .arr [.float p.x, .float p.y]) = none := by
    intro points
    apply itemsObstacle_eq_none
    rw [List.forall_mem_map]
    intro p _
    rfl
  have hshape : fieldsObstacle (room + 2) e.figure.shape.fields = none := by
    cases e.figure.shape with
    | rectangle => rfl
    | text t fontSize => rfl
    | line style points =>
        rw [Shape.fields, fieldsObstacle, obstacle, if_neg (by simp), Nat.add_succ_sub_one,
          hpoints]
        rfl
  have hcommon : fieldsObstacle (room + 2) e.commonFields = none := by
    simp only [Element.commonFields, fieldsObstacle, obstacle_small h.seed,
      obstacle_small h.versionNonce]
    rfl
  rw [Element.json, obstacle, if_neg (by simp), Nat.add_succ_sub_one, fieldsObstacle_append,
    hcommon, hshape]
  rfl

end Excalidraw

/-- The document of a scene can be written in any form. -/
theorem ExcalidrawDocument.write_ofScene {s : ExcalidrawScene Float}
    (h : ∀ e ∈ s.elements, e.Plain) (form : Json → Text) :
  Json.write form (ofScene s).json = .ok (form (ofScene s).json)
  := by
  have helements : Json.itemsObstacle 252 (ofScene s).elements = none := by
    apply Json.itemsObstacle_eq_none
    intro value hvalue
    obtain ⟨e, he, rfl⟩ := List.mem_map.mp hvalue
    apply Excalidraw.obstacle_element (h e he) 249
  have hnone : Json.obstacle Json.depthLimit (ofScene s).json = none := by
    rw [json, Json.depthLimit, Json.obstacle, if_neg (by decide)]
    simp only [Json.fieldsObstacle, Json.obstacle, helements]
    rfl
  rw [Json.write, hnone]

/-! ### The characters of documents -/

variable {c : Char}

namespace Json

/-- Names in ASCII have no characters beyond it. -/
theorem mem_fieldTexts (hc : 0x80 ≤ c.toNat) {fields : Fields}
    (h : ∀ name ∈ fields.map Prod.fst, name.IsAscii) :
  (∃ t ∈ fieldTexts fields, c ∈ t) ↔ ∃ t ∈ fields.flatMap fun field => texts field.2, c ∈ t
  := by
  induction fields with
  | nil => simp [fieldTexts]
  | cons field fields ih =>
      obtain ⟨name, value⟩ := field
      obtain ⟨hname, hfields⟩ := List.forall_mem_cons.mp h
      have hnot : c ∉ name := hname.not_mem hc
      rw [fieldTexts, List.flatMap_cons]
      simp only [List.cons_append, List.mem_cons, List.mem_append, or_and_right, exists_or,
        exists_eq_left, hnot, false_or, ih hfields]

theorem itemTexts_eq (items : List Json) :
  itemTexts items = items.flatMap texts
  := by
  induction items with
  | nil => rfl
  | cons value values ih => rw [itemTexts, ih, List.flatMap_cons]

end Json

namespace Excalidraw

/-- The text of a shape, if it has one. -/
def Shape.texts {α : Type} : Shape α → List Text
  | .text t _ => [t]
  | _ => []

/-- The line style, the colours and the text of a figure. -/
def Figure.texts {α : Type} (f : Figure α) : List Text :=
  [f.shape.strokeStyle, f.strokeColor, f.backgroundColor] ++ f.shape.texts

theorem isAscii_commonFields (e : Element Float) :
  ∀ name ∈ e.commonFields.map Prod.fst, name.IsAscii
  := by
  simp only [Element.commonFields, List.map_cons, List.map_nil, List.forall_mem_cons]
  decide

theorem isAscii_shapeFields (shape : Shape Float) :
  ∀ name ∈ shape.fields.map Prod.fst, name.IsAscii
  := by
  cases shape <;> simp only [Shape.fields, List.map_cons, List.map_nil, List.forall_mem_cons] <;>
    decide

theorem texts_commonFields (e : Element Float) :
  (e.commonFields.flatMap fun field => Json.texts field.2)
    = [e.id, e.figure.shape.kind, "solid", e.figure.shape.strokeStyle, e.figure.strokeColor,
        e.figure.backgroundColor]
  := rfl

theorem isAscii_kind (shape : Shape Float) :
  shape.kind.IsAscii
  := by
  have hkind : shape.kind = ("rectangle" : Text) ∨ shape.kind = ("text" : Text)
      ∨ shape.kind = ("line" : Text) := by
    cases shape with
    | rectangle => apply Or.inl rfl
    | text t fontSize => apply Or.inr (Or.inl rfl)
    | line style points => apply Or.inr (Or.inr rfl)
  obtain hkind | hkind | hkind := hkind <;>
  · rw [hkind]
    decide

theorem mem_shapeFields (hc : 0x80 ≤ c.toNat) (shape : Shape Float) :
  (∃ t ∈ shape.fields.flatMap fun field => Json.texts field.2, c ∈ t) ↔ ∃ t ∈ shape.texts, c ∈ t
  := by
  have hleft : c ∉ ("left" : Text) := Text.IsAscii.not_mem (by decide) hc
  have htop : c ∉ ("top" : Text) := Text.IsAscii.not_mem (by decide) hc
  cases shape with
  | rectangle => rfl
  | text t fontSize =>
      change (∃ u ∈ [t, t, "left", "top"], c ∈ u) ↔ ∃ u ∈ [t], c ∈ u
      simp only [List.mem_cons, List.not_mem_nil, or_and_right, exists_or, exists_eq_left, hleft,
        htop, or_false, or_self]
  | line style points =>
      have hpoints : Json.itemTexts (points.map fun p => .arr [.float p.x, .float p.y]) = [] := by
        rw [Json.itemTexts_eq, List.flatMap_map, List.flatMap_eq_nil_iff]
        intro p _
        rfl
      rw [Shape.fields, List.flatMap_cons, Json.texts, hpoints]
      rfl

/-- Beyond ASCII an element holds the characters of its figure. -/
theorem mem_element (hc : 0x80 ≤ c.toNat) {e : Element Float} (h : e.Plain) :
  (∃ t ∈ Json.texts e.json, c ∈ t) ↔ ∃ t ∈ e.figure.texts, c ∈ t
  := by
  have hnames : ∀ name ∈ (e.commonFields ++ e.figure.shape.fields).map Prod.fst,
      name.IsAscii := by
    rw [List.map_append, List.forall_mem_append]
    use isAscii_commonFields e, isAscii_shapeFields _
  have hid : c ∉ e.id := h.id.not_mem hc
  have hkind : c ∉ e.figure.shape.kind := (isAscii_kind _).not_mem hc
  have hsolid : c ∉ ("solid" : Text) := Text.IsAscii.not_mem (by decide) hc
  rw [Element.json, Json.texts, Json.mem_fieldTexts hc hnames, List.flatMap_append,
    texts_commonFields, Figure.texts]
  simp only [List.mem_append, or_and_right, exists_or, mem_shapeFields hc, List.mem_cons,
    List.not_mem_nil, exists_eq_left, hid, hkind, hsolid, false_or, or_false]

end Excalidraw

/-- Beyond ASCII a document holds the characters of the background colour and of the figures. -/
theorem ExcalidrawDocument.mem_compact_ofScene (hc : 0x80 ≤ c.toNat) {s : ExcalidrawScene Float}
    (h : ∀ e ∈ s.elements, e.Plain) :
  c ∈ Json.compact (ofScene s).json
    ↔ c ∈ s.backgroundColor ∨ ∃ f ∈ s.elements.map Excalidraw.Element.figure, ∃ t ∈ f.texts, c ∈ t
  := by
  have helements : (∃ t ∈ (s.elements.map Excalidraw.Element.json).flatMap Json.texts, c ∈ t)
      ↔ ∃ f ∈ s.elements.map Excalidraw.Element.figure, ∃ t ∈ f.texts, c ∈ t := by
    constructor
    · rintro ⟨t, ht, hct⟩
      obtain ⟨value, hvalue, ht⟩ := List.mem_flatMap.mp ht
      obtain ⟨e, he, rfl⟩ := List.mem_map.mp hvalue
      use e.figure, List.mem_map_of_mem he
      apply (Excalidraw.mem_element hc (h e he)).mp ⟨t, ht, hct⟩
    · rintro ⟨f, hf, hct⟩
      obtain ⟨e, he, rfl⟩ := List.mem_map.mp hf
      obtain ⟨t, ht, hct⟩ := (Excalidraw.mem_element hc (h e he)).mpr hct
      use t, List.mem_flatMap.mpr ⟨_, List.mem_map_of_mem he, ht⟩
  have hascii : ∀ t ∈ (["type", "excalidraw", "version", "source", "boxdraft", "elements",
      "appState", "viewBackgroundColor", "gridSize", "currentItemFontFamily",
      "currentItemStrokeColor", "#1e1e1e", "files"] : List Text), c ∉ t := by
    intro t ht
    apply Text.IsAscii.not_mem _ hc
    revert t
    decide
  have htexts : Json.texts (ofScene s).json
      = (["type", "excalidraw", "version", "source", "boxdraft", "elements"] : List Text)
        ++ Json.itemTexts (s.elements.map Excalidraw.Element.json)
        ++ (["appState", "viewBackgroundColor", s.backgroundColor, "gridSize",
          "currentItemFontFamily", "currentItemStrokeColor", "#1e1e1e", "files"] : List Text) := by
    simp [json, ofScene, Json.texts, Json.fieldTexts]
  rw [Json.mem_compact hc, htexts, Json.itemTexts_eq]
  simp only [List.forall_mem_cons] at hascii
  simp only [List.mem_append, or_and_right, exists_or, helements, List.mem_cons,
    List.not_mem_nil, exists_eq_left, hascii, false_or, or_false]
  rw [or_comm]

end BoxDiagram
