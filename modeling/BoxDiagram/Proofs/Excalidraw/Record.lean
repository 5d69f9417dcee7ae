import BoxDiagram.Proofs.Excalidraw.Drawn
import BoxDiagram.Proofs.Excalidraw.Identifiers
import BoxDiagram.Proofs.Excalidraw.Lines
import BoxDiagram.Proofs.Random
import Mathlib.Data.List.Forall2
import Mathlib.Data.List.Nodup

/-!
# What a scene records

Drawing only ever appends to a scene.  Each element is stamped by its number: its identifier
comes from its kind and its number, and its two random numbers are two draws of the generator
that no other element uses, whichever calls have drawn the elements before it.  Over exact
numbers the points of a line, moved to its place, are the points that were asked for.
-/

namespace BoxDiagram

/-! ### Calls and figures -/

/-- Whether a call sets the size or the background of the canvas. -/
def Call.isSetting {α : Type} : Call α → Bool
  | .setSize _ _ => true
  | .fillBackground _ => true
  | _ => false

/-- The points of the line that a call asks for: a line has two, and a polygon ends where it
begins. -/
def Call.linePoints {α : Type} : Call α → Option (List (Point α))
  | .strokeLine start finish _ _ => some [start, finish]
  | .fillPolygon points _ => some (Excalidraw.closePolygon points)
  | .strokePolygon points _ => some (Excalidraw.closePolygon points)
  | _ => none

namespace Excalidraw

/-- The name that the element with a number gets its identifier from. -/
def elementName {α : Type} (shape : Shape α) (i : Nat) : Text := shape.kind ++ '|' :: natText i

/-- An element bears the stamps of its number in a scene with a name and a seed: the identifier
of its kind and number, and the two draws that belong to the number. -/
structure Element.Stamped {α : Type} (name : Text) (seed : Int) (i : Nat) (e : Element α) :
    Prop where
  id : e.id = ((Uuid.domainNames.ofName name).ofName (elementName e.figure.shape i)).text
  first : e.seed = (Twister.ofSeed seed).nthDraw (2 * i + 1)
  second : e.versionNonce = (Twister.ofSeed seed).nthDraw (2 * i + 2)

theorem bar_notMem_kind {α : Type} (shape : Shape α) :
  '|' ∉ shape.kind
  := by
  cases shape with
  | rectangle =>
      change '|' ∉ ("rectangle" : Text)
      decide
  | text t fontSize =>
      change '|' ∉ ("text" : Text)
      decide
  | line style points =>
      change '|' ∉ ("line" : Text)
      decide

theorem elementName_inj {α : Type} {shape shape' : Shape α} {i j : Nat}
    (h : elementName shape i = elementName shape' j) :
  i = j
  := by
  have hback : ∀ (shape : Shape α) i,
      (elementName shape i).dropWhile (· != '|') = '|' :: natText i := by
    intro shape i
    rw [elementName, List.dropWhile_append_of_pos, List.dropWhile_cons_of_neg (by decide)]
    intro c hc
    rw [bne_iff_ne]
    rintro rfl
    apply bar_notMem_kind shape hc
  apply natText_injective
  have hbars := hback shape i
  rw [h, hback] at hbars
  obtain ⟨-, htexts⟩ := List.cons_eq_cons.mp hbars
  rw [htexts]

variable {α : Type} [Scalar α] [Lettering α] {call : Call α}

/-- A call for a line or a polygon asks for the line through its points. -/
theorem figureOf_line {points : List (Point α)} (h : call.linePoints = some points) :
  ∃ stroke background style, figureOf call = some <$> lineFigure stroke background style points
  := by
  cases call with
  | strokeLine start finish color dash =>
      obtain rfl := Option.some.inj h
      use color, transparent, if dash.isSome then "dashed" else "solid"
      rfl
  | fillPolygon points color =>
      obtain rfl := Option.some.inj h
      use transparent, color, "solid"
      rfl
  | strokePolygon points color =>
      obtain rfl := Option.some.inj h
      use color, transparent, "solid"
      rfl
  | _ => contradiction

/-- Only settings ask for no figure. -/
theorem isSetting_of_figureOf (h : figureOf call = .ok none) :
  call.isSetting = true
  := by
  have hline : call.linePoints = none := by
    by_contra hline
    obtain ⟨points, hpoints⟩ := Option.ne_none_iff_exists'.mp hline
    obtain ⟨stroke, background, style, hfigure⟩ := figureOf_line hpoints
    rw [hfigure] at h
    cases points <;>
    · rw [lineFigure] at h
      simp at h
  cases call with
  | setSize width height => rfl
  | fillBackground color => rfl
  | fillRect x y width height color =>
      have hsome := Except.ok.inj h
      contradiction
  | strokeRect x y width height color =>
      have hsome := Except.ok.inj h
      contradiction
  | fillText text x y color font =>
      have hsome := Except.ok.inj h
      contradiction
  | _ => contradiction

end Excalidraw

namespace ExcalidrawScene

open Excalidraw

variable {α : Type} {name : Text} {seed : Int}

/-! ### Stamps -/

/-- A scene in the making has its scope and its generator from its name and its seed: the
generator has been asked for two draws for each element, and the elements bear the stamps of
their numbers. -/
structure Stamped (name : Text) (seed : Int) (s : ExcalidrawScene α) : Prop where
  scope : s.scope = Uuid.domainNames.ofName name
  random : s.random = (Twister.ofSeed seed).after (2 * s.elements.length)
  elements : ∀ i (e : Element α), s.elements[i]? = some e → e.Stamped name seed i

theorem Stamped.of_elements {s s' : ExcalidrawScene α} (h : s.Stamped name seed)
    (helements : s'.elements = s.elements) (hscope : s'.scope = s.scope)
    (hrandom : s'.random = s.random) :
  s'.Stamped name seed
  := by
  constructor
  case scope => rw [hscope, h.scope]
  case random => rw [hrandom, helements, h.random]
  case elements =>
    rw [helements]
    apply h.elements

theorem elements_append (s : ExcalidrawScene α) (f : Figure α) :
  (s.append f).elements = s.elements
    ++ [⟨s.nextId f, f, s.random.draw.1, s.random.draw.2.draw.1⟩]
  := by
  rw [append]

theorem random_append (s : ExcalidrawScene α) (f : Figure α) :
  (s.append f).random = s.random.draw.2.draw.2
  := by
  rw [append]

theorem scope_append (s : ExcalidrawScene α) (f : Figure α) :
  (s.append f).scope = s.scope
  := by
  rw [append]

/-- An appended figure gets the stamps of the next number. -/
theorem Stamped.append {s : ExcalidrawScene α} (h : s.Stamped name seed) (f : Figure α) :
  (s.append f).Stamped name seed
  := by
  constructor
  case scope => rw [scope_append, h.scope]
  case random =>
    rw [random_append, elements_append, h.random, List.length_append, List.length_singleton,
      Nat.mul_add, Twister.after_add_two]
  case elements =>
    intro i e he
    rw [elements_append] at he
    obtain hi | rfl | hi := Nat.lt_trichotomy i s.elements.length
    · rw [List.getElem?_append_left hi] at he
      apply h.elements i e he
    · rw [List.getElem?_concat_length, Option.some.injEq] at he
      subst he
      constructor
      case id => rw [nextId, h.scope, elementName]
      case first =>
        rw [h.random, Twister.nthDraw]
        rfl
      case second =>
        rw [h.random, Twister.nthDraw]
        rfl
    · rw [List.getElem?_eq_none] at he
      · contradiction
      · rw [List.length_append, List.length_singleton]
        omega

/-- The names that the elements of a scene get their identifiers from. -/
def elementNames (s : ExcalidrawScene α) : List Text :=
  s.elements.mapIdx fun i e => elementName e.figure.shape i

theorem nodup_elementNames (s : ExcalidrawScene α) :
  s.elementNames.Nodup
  := by
  rw [List.Nodup, elementNames, List.pairwise_iff_getElem]
  intro i j hi hj hlt
  rw [List.getElem_mapIdx, List.getElem_mapIdx]
  intro h
  have hij := elementName_inj h
  omega

theorem Stamped.ids_eq {s : ExcalidrawScene α} (h : s.Stamped name seed) :
  s.elements.map Element.id
    = s.elementNames.map fun n => ((Uuid.domainNames.ofName name).ofName n).text
  := by
  apply List.ext_getElem?
  intro i
  rw [elementNames, List.getElem?_map, List.getElem?_map, List.getElem?_mapIdx]
  cases he : s.elements[i]? with
  | none => rfl
  | some e =>
      rw [Option.map_some, Option.map_some, Option.map_some, (h.elements i e he).id]

/-- Two elements share an identifier only if two of their names do. -/
theorem Stamped.nodup_ids_iff {s : ExcalidrawScene α} (h : s.Stamped name seed) :
  (s.elements.map Element.id).Nodup
    ↔ Set.InjOn (Uuid.domainNames.ofName name).ofName {n | n ∈ s.elementNames}
  := by
  rw [h.ids_eq, List.nodup_map_iff_inj_on s.nodup_elementNames]
  constructor
  · intro hdistinct n hn n' hn' heq
    apply hdistinct n hn n' hn'
    rw [heq]
  · intro hdistinct n hn n' hn' heq
    apply hdistinct hn hn' (Uuid.text_injective heq)

variable [Scalar α]

theorem stamped_empty (name : Text) (seed : Int) :
  Stamped name seed (empty name seed : ExcalidrawScene α)
  := by
  constructor
  case scope => rfl
  case random => rw [empty, List.length_nil, Nat.mul_zero, Twister.after]
  case elements =>
    intro i e he
    contradiction

/-! ### One call -/

variable [Lettering α] {s s' : ExcalidrawScene α} {call : Call α}

/-- A setting is drawn without a trace in the elements, the scope or the generator. -/
theorem draw_setting (h : call.isSetting = true) (s : ExcalidrawScene α) :
  ∃ s', s.draw call = .ok s' ∧ s'.elements = s.elements ∧ s'.scope = s.scope
    ∧ s'.random = s.random
  := by
  cases call with
  | setSize width height => use { s with width, height }, rfl, rfl, rfl
  | fillBackground color => use { s with backgroundColor := color }, rfl, rfl, rfl
  | _ => contradiction

theorem draw_error {e : DrawError} (h : figureOf call = .error e) (s : ExcalidrawScene α) :
  s.draw call = .error e
  := by
  simp [draw, h]

/-- What one call does to a scene: a setting leaves the elements, the scope and the generator,
and any other call appends the figure that it asks for. -/
theorem draw_cases (h : s.draw call = .ok s') :
  (call.isSetting = true ∧ s'.elements = s.elements ∧ s'.scope = s.scope ∧ s'.random = s.random)
    ∨ (call.isSetting = false ∧ ∃ f, figureOf call = .ok (some f) ∧ s' = s.append f)
  := by
  cases hsetting : call.isSetting with
  | true =>
      obtain ⟨drawn, hdrawn, hkept⟩ := draw_setting hsetting s
      rw [h] at hdrawn
      obtain rfl := Except.ok.inj hdrawn
      apply Or.inl ⟨rfl, hkept⟩
  | false =>
      cases hfigure : figureOf call with
      | error e =>
          rw [draw_error hfigure] at h
          contradiction
      | ok f =>
          cases f with
          | none =>
              rw [isSetting_of_figureOf hfigure] at hsetting
              contradiction
          | some f =>
              rw [draw_figure hfigure] at h
              obtain rfl := Except.ok.inj h
              apply Or.inr ⟨rfl, f, rfl, rfl⟩

/-! ### All calls -/

theorem drawAll_cons {calls : List (Call α)} (h : s.drawAll (call :: calls) = .ok s') :
  ∃ next, s.draw call = .ok next ∧ next.drawAll calls = .ok s'
  := by
  rw [drawAll] at h
  cases hcall : s.draw call with
  | error e =>
      rw [hcall] at h
      contradiction
  | ok next =>
      rw [hcall] at h
      use next, rfl, h

theorem drawAll_append (s : ExcalidrawScene α) (before after : List (Call α)) :
  s.drawAll (before ++ after) = s.drawAll before >>= fun s => s.drawAll after
  := by
  induction before generalizing s with
  | nil => rfl
  | cons call before ih =>
      rw [List.cons_append, drawAll, drawAll]
      cases s.draw call with
      | error e => rfl
      | ok s' => apply ih

theorem Stamped.drawAll {calls : List (Call α)} (hs : s.Stamped name seed)
    (h : s.drawAll calls = .ok s') :
  s'.Stamped name seed
  := by
  induction calls generalizing s with
  | nil =>
      obtain rfl := Except.ok.inj h
      apply hs
  | cons call calls ih =>
      obtain ⟨next, hcall, hrest⟩ := drawAll_cons h
      apply ih _ hrest
      obtain ⟨-, helements, hscope, hrandom⟩ | ⟨-, f, -, rfl⟩ := draw_cases hcall
      · apply hs.of_elements helements hscope hrandom
      · apply hs.append f

/-- Drawing appends one element for each call that is no setting, in order, for the figure that
the call asks for. -/
theorem elements_drawAll {calls : List (Call α)} (h : s.drawAll calls = .ok s') :
  ∃ added, s'.elements = s.elements ++ added
    ∧ List.Forall₂ (fun call (e : Element α) => figureOf call = .ok (some e.figure))
      (calls.filter fun call => !call.isSetting) added
  := by
  induction calls generalizing s with
  | nil =>
      obtain rfl := Except.ok.inj h
      use []
      rw [List.append_nil]
      use rfl, .nil
  | cons call calls ih =>
      obtain ⟨next, hcall, hrest⟩ := drawAll_cons h
      obtain ⟨added, hadded, hfigures⟩ := ih hrest
      obtain ⟨hsetting, helements, -, -⟩ | ⟨hsetting, f, hf, rfl⟩ := draw_cases hcall
      · use added
        rw [hadded, helements, List.filter_cons_of_neg (by simp [hsetting])]
        use rfl, hfigures
      · rw [elements_append, List.append_assoc] at hadded
        rw [List.filter_cons_of_pos (by simp [hsetting])]
        refine ⟨_, hadded, .cons hf hfigures⟩

theorem elements_extended {calls : List (Call α)} (h : s.drawAll calls = .ok s') :
  s.elements <+: s'.elements
  := by
  obtain ⟨added, hadded, -⟩ := elements_drawAll h
  rw [hadded]
  apply List.prefix_append

theorem drawAll_split {before after : List (Call α)} (h : s.drawAll (before ++ after) = .ok s') :
  ∃ earlier, s.drawAll before = .ok earlier ∧ earlier.drawAll after = .ok s'
  := by
  rw [drawAll_append] at h
  cases hbefore : s.drawAll before with
  | error e =>
      rw [hbefore] at h
      contradiction
  | ok earlier =>
      rw [hbefore] at h
      use earlier, rfl, h

/-- What one call adds to the elements that stand before its turn. -/
theorem elements_draw (h : s.draw call = .ok s') :
  if call.isSetting then s'.elements = s.elements else ∃ e, s'.elements = s.elements ++ [e]
  := by
  obtain ⟨hsetting, helements, -, -⟩ | ⟨hsetting, f, hf, rfl⟩ := draw_cases h
  · rw [if_pos hsetting, helements]
  · rw [if_neg (by simp [hsetting]), elements_append]
    exact ⟨_, rfl⟩

end ExcalidrawScene

/-! ### The record -/

namespace ExcalidrawScene

open Excalidraw

/-- What the elements of a scene with a name and a seed tell of the calls that drew it. -/
structure Records {α : Type} [Scalar α] [Lettering α] (name : Text) (seed : Int)
    (calls : List (Call α)) (s : ExcalidrawScene α) : Prop where
  figures : List.Forall₂ (fun call (e : Element α) => figureOf call = .ok (some e.figure))
    (calls.filter fun call => !call.isSetting) s.elements
  turns : ∀ before call after, calls = before ++ call :: after →
    ∃ earlier later : ExcalidrawScene α, (empty name seed).drawAll before = .ok earlier
      ∧ earlier.draw call = .ok later
      ∧ (if call.isSetting then later.elements = earlier.elements
        else ∃ e, later.elements = earlier.elements ++ [e])
      ∧ later.elements <+: s.elements
  stamped : ∀ i (e : Element α), s.elements[i]? = some e → e.Stamped name seed i
  distinct : (s.elements.map Element.id).Nodup
    ↔ Set.InjOn (Uuid.domainNames.ofName name).ofName {n | n ∈ s.elementNames}

theorem records_of_drawAll {α : Type} [Scalar α] [Lettering α] {name : Text} {seed : Int}
    {calls : List (Call α)} {s : ExcalidrawScene α}
    (h : (empty name seed).drawAll calls = .ok s) :
  Records name seed calls s
  := by
  have hstamped := (stamped_empty name seed).drawAll h
  constructor
  case figures =>
    obtain ⟨added, hadded, hfigures⟩ := elements_drawAll h
    rw [hadded]
    apply hfigures
  case turns =>
    rintro before call after rfl
    obtain ⟨earlier, hearlier, hrest⟩ := drawAll_split h
    obtain ⟨later, hcall, hrest⟩ := drawAll_cons hrest
    refine ⟨earlier, later, hearlier, hcall, elements_draw hcall, elements_extended hrest⟩
  case stamped => apply hstamped.elements
  case distinct => apply hstamped.nodup_ids_iff

/-- A scene is a record of its drawing that only grows.  For every name, seed and sequence of
calls that is drawn without failing,

* a call for the size or the background adds no element, and every other call appends exactly
  one, for the figure that it asks for, after all earlier elements, which stay as they are;
* the element with number `i` has the identifier of the name with its kind and `i`, and the draws
  `2 i + 1` and `2 i + 2` of the generator with the seed, whatever the calls are; so identifiers
  are distinct exactly if those of the names are;
* the document of the first calls has a beginning of the elements of the document of all calls;
* in exact numbers every call for a line or a polygon gives a line whose points, moved to its
  place, are the points of the call, with the extents of these as its width and height. -/
theorem drawAll_records (name : Text) (seed : Int) :
  (∀ {α : Type} [Scalar α] [Lettering α] (calls : List (Call α)) (s : ExcalidrawScene α),
      (empty name seed).drawAll calls = .ok s → Records name seed calls s)
    ∧ (∀ (before after : List (Call Float)) (s : ExcalidrawScene Float),
      (empty name seed).drawAll (before ++ after) = .ok s →
      ∃ earlier, (empty name seed).drawAll before = .ok earlier
        ∧ (ExcalidrawDocument.ofScene earlier).elements
          <+: (ExcalidrawDocument.ofScene s).elements)
    ∧ (∀ (calls : List (Call ℚ)) (s : ExcalidrawScene ℚ),
      (empty name seed).drawAll calls = .ok s →
      List.Forall₂ (fun call (e : Element ℚ) =>
          ∀ points, call.linePoints = some points → e.figure.Traces points)
        (calls.filter fun call => !call.isSetting) s.elements)
  := by
  refine ⟨?records, ?documents, ?lines⟩
  case records =>
    intro α _ _ calls s h
    apply records_of_drawAll h
  case documents =>
    intro before after s h
    obtain ⟨earlier, hearlier, hrest⟩ := drawAll_split h
    use earlier, hearlier
    apply (elements_extended hrest).map
  case lines =>
    intro calls s h
    apply (records_of_drawAll h).figures.imp
    intro call e hfigure points hpoints
    obtain ⟨stroke, background, style, hline⟩ := figureOf_line hpoints
    rw [hline] at hfigure
    cases hf : lineFigure stroke background style points with
    | error error =>
        rw [hf] at hfigure
        contradiction
    | ok f =>
        rw [hf] at hfigure
        obtain rfl := Option.some.inj (Except.ok.inj hfigure)
        apply traces_lineFigure hf

/-- A line and a triangle on a canvas that gets its size first are recorded by two elements, and a
text behind a rectangle keeps the rectangle where it is. -/
theorem drawAll_records_triangle :
  (let calls : List (Call ℚ) := [.setSize 4 3, .strokeLine ⟨1, 2⟩ ⟨3, 2⟩ "#000000" none,
      .fillPolygon [⟨3, 2⟩, ⟨2, 1⟩, ⟨2, 3⟩] "#000000"]
    ∃ s, (empty "triangle" 1).drawAll calls = .ok s ∧ Records "triangle" 1 calls s
      ∧ List.Forall₂ (fun points (e : Element ℚ) => e.figure.Traces points)
        [[⟨1, 2⟩, ⟨3, 2⟩], [⟨3, 2⟩, ⟨2, 1⟩, ⟨2, 3⟩, ⟨3, 2⟩]] s.elements)
    ∧ (let before : List (Call Float) := [.strokeRect 0 0 4 3 "#000000"]
      ∃ earlier s, (empty "triangle" 1).drawAll before = .ok earlier
        ∧ (empty "triangle" 1).drawAll (before ++ [.fillText "A" 1 2 "#000000" "14px Georgia"])
          = .ok s
        ∧ (ExcalidrawDocument.ofScene earlier).elements
          <+: (ExcalidrawDocument.ofScene s).elements)
  := by
  obtain ⟨hrecords, hdocuments, hlines⟩ := drawAll_records "triangle" 1
  constructor
  · intro calls
    obtain ⟨s, hs⟩ : ∃ s, (empty "triangle" 1).drawAll calls = .ok s := ⟨_, rfl⟩
    refine ⟨s, hs, hrecords calls s hs, ?_⟩
    have htraces := hlines calls s hs
    generalize s.elements = elements at htraces ⊢
    obtain _ | ⟨hline, _ | ⟨hpolygon, hend⟩⟩ := htraces
    cases hend
    constructor
    · apply hline _ rfl
    · constructor
      · apply hpolygon _ rfl
      · constructor
  · intro before
    obtain ⟨s, hs⟩ : ∃ s, (empty "triangle" 1).drawAll
        (before ++ [.fillText "A" 1 2 "#000000" "14px Georgia"]) = .ok s := ⟨_, rfl⟩
    obtain ⟨earlier, hearlier, hprefix⟩ := hdocuments before _ s hs
    refine ⟨earlier, s, hearlier, hs, hprefix⟩

end ExcalidrawScene

end BoxDiagram
