import BoxDiagram.Proofs.Decimal.Characters
import BoxDiagram.Proofs.Svg.Writing
import BoxDiagram.Proofs.Xml.Characters

/-!
# The elements of SVG drawings

A drawing has one element for each call that adds one, in order, with the name and the text that
belong to the call.  The names of its elements and attributes are names, and the values of the
attributes have allowed characters if the colours and the fonts of the calls do.
-/

namespace BoxDiagram

open Xml

/-! ### Attributes -/

/-- Whether an element has a name, and attributes with different names. -/
def Xml.areNames (name : Text) (names : List Text) : Prop :=
  isName name = true ∧ (∀ n ∈ names, isName n = true) ∧ names.Nodup

instance (name : Text) (names : List Text) : Decidable (areNames name names) :=
  inferInstanceAs (Decidable (_ ∧ _))

theorem Xml.wellNamed_iff {name : Text} {attributes : Attributes} :
  WellNamed name attributes ↔ areNames name (attributes.map Prod.fst)
  := by
  constructor
  · intro h
    use h.element, List.forall_mem_map.mpr h.each, h.distinct
  · rintro ⟨helement, heach, hdistinct⟩
    use helement, List.forall_mem_map.mp heach, hdistinct

/-- Setting an attribute keeps the names, or adds one at the end. -/
theorem Attributes.map_fst_set (attributes : Attributes) (name value : Text) :
  (attributes.set name value).map Prod.fst
    = if name ∈ attributes.map Prod.fst then attributes.map Prod.fst
      else attributes.map Prod.fst ++ [name]
  := by
  rw [Attributes.set]
  by_cases h : name ∈ attributes.map Prod.fst
  · rw [if_pos h, if_pos (by simpa using h), List.map_map]
    apply List.map_congr_left
    rintro ⟨n, v⟩ _
    change (if (n == name) = true then (n, value) else (n, v)).1 = n
    split <;> rfl
  · rw [if_neg h, if_neg, List.map_append, List.map_singleton]
    simpa using h

theorem Attributes.set_cons {n name : Text} (h : n ≠ name) (v : Text) (attributes : Attributes)
    (value : Text) :
  Attributes.set ((n, v) :: attributes) name value = (n, v) :: attributes.set name value
  := by
  have hne : (n == name) = false := beq_eq_false_iff_ne.mpr h
  rw [Attributes.set, Attributes.set, List.any_cons, hne, Bool.false_or]
  split
  · rw [List.map_cons]
    simp [hne]
  · rfl

theorem Attributes.mem_set {attributes : Attributes} {name value : Text} {named : Text × Text}
    (h : named ∈ attributes.set name value) :
  named ∈ attributes ∨ named.2 = value
  := by
  rw [Attributes.set] at h
  split at h
  · obtain ⟨⟨n, v⟩, hmem, rfl⟩ := List.mem_map.mp h
    simp only
    split
    · apply Or.inr rfl
    · apply Or.inl hmem
  · obtain h | h := List.mem_append.mp h
    · apply Or.inl h
    · rw [List.mem_singleton.mp h]
      apply Or.inr rfl

/-! ### The elements of calls -/

theorem Text.IsPlain.allowed {t : Text} (h : t.IsPlain) :
  Allowed t
  := by
  intro c hc
  have hplain := h c hc
  simp only [isChar, inRanges, List.any_cons, List.any_nil, Bool.or_eq_true, Bool.and_eq_true,
    decide_eq_true_eq, Bool.false_eq_true, or_false]
  omega

/-- The name of the element that a call adds to an SVG drawing. -/
def Call.elementName {α : Type} : Call α → Text
  | .setSize _ _ => []
  | .fillBackground _ | .fillRect _ _ _ _ _ | .strokeRect _ _ _ _ _ => "rect"
  | .fillText _ _ _ _ _ => "text"
  | .strokeLine _ _ _ _ => "line"
  | .fillPolygon _ _ | .strokePolygon _ _ => "polygon"

/-- The text that a call draws, if any. -/
def Call.caption {α : Type} : Call α → Text
  | .fillText text _ _ _ _ => text
  | _ => []

/-- The colour and the font that a call is given. -/
def Call.looks {α : Type} : Call α → List Text
  | .setSize _ _ => []
  | .fillText _ _ _ color font => [color, font]
  | .fillBackground color | .fillRect _ _ _ _ color | .strokeRect _ _ _ _ color
  | .strokeLine _ _ color _ | .fillPolygon _ color | .strokePolygon _ color => [color]

namespace Svg

/-- An element shows a call: it has been drawn for the call on a canvas of some size, it has the
name and the text that belong to the call, and all values of its attributes are allowed if the
colour and the font of the call are. -/
structure Shows (call : Call Float) (leaf : Leaf) : Prop where
  drawn : ∃ width height, elementOf width height call = .ok (some leaf)
  name : leaf.name = call.elementName
  text : leaf.text = call.caption
  wellNamed : WellNamed leaf.name leaf.attributes
  allowed_iff : (∀ named ∈ leaf.attributes, Allowed named.2) ↔ ∀ look ∈ call.looks, Allowed look

/-- Coordinates are written under their names. -/
theorem coordinates_ok {named : List (Text × Float)} {attributes : Attributes}
    (h : coordinates named = .ok attributes) :
  attributes.map Prod.fst = named.map Prod.fst ∧ ∀ named ∈ attributes, Allowed named.2
  := by
  induction named generalizing attributes with
  | nil =>
      obtain rfl := Except.ok.inj h
      use rfl
      intro named hnamed
      contradiction
  | cons pair named ih =>
      obtain ⟨name, x⟩ := pair
      obtain ⟨t, ht, h⟩ := bind_eq_ok h
      obtain ⟨rest, hrest, h⟩ := bind_eq_ok h
      obtain rfl := Except.ok.inj h
      obtain ⟨hnames, hallowed⟩ := ih hrest
      rw [List.map_cons, List.map_cons, hnames, List.forall_mem_cons]
      use rfl, (isPlain_coordinateText ht).allowed, hallowed

theorem isPlain_join {texts : List Text} (h : ∀ t ∈ texts, t.IsPlain) :
  (Text.join [' '] texts).IsPlain
  := by
  induction texts with
  | nil => decide
  | cons t texts ih =>
      obtain ⟨ht, htexts⟩ := List.forall_mem_cons.mp h
      cases texts with
      | nil => apply ht
      | cons u texts =>
          rw [Text.join, Text.isPlain_append, Text.isPlain_append]
          · use ⟨ht, by decide⟩, ih htexts
          · simp

theorem isPlain_pointText {p : Point Float} {t : Text} (h : pointText p = .ok t) :
  t.IsPlain
  := by
  obtain ⟨x, hx, h⟩ := bind_eq_ok h
  obtain ⟨y, hy, h⟩ := bind_eq_ok h
  obtain rfl := Except.ok.inj h
  rw [Text.isPlain_append, Text.isPlain_cons]
  use isPlain_coordinateText hx, by decide, isPlain_coordinateText hy

theorem isPlain_of_mapM_pointText {points : List (Point Float)} {texts : List Text}
    (h : points.mapM pointText = .ok texts) :
  ∀ t ∈ texts, t.IsPlain
  := by
  induction points generalizing texts with
  | nil =>
      obtain rfl := Except.ok.inj h
      intro t ht
      contradiction
  | cons p points ih =>
      rw [List.mapM_cons] at h
      obtain ⟨t, ht, h⟩ := bind_eq_ok h
      obtain ⟨rest, hrest, h⟩ := bind_eq_ok h
      obtain rfl := Except.ok.inj h
      rw [List.forall_mem_cons]
      use isPlain_pointText ht, ih hrest

theorem allowed_paint (fill stroke : Text) :
  (∀ named ∈ paint fill stroke, Allowed named.2) ↔ Allowed fill ∧ Allowed stroke
  := by
  simp [paint]

theorem shows_rectangle {x y width height : Float} {fill stroke : Text} {leaf : Leaf}
    (h : rectangle x y width height fill stroke = .ok leaf) {call : Call Float}
    (hdrawn : ∃ width height, elementOf width height call = .ok (some leaf))
    (hname : call.elementName = "rect") (htext : call.caption = [])
    (hlooks : Allowed fill ∧ Allowed stroke ↔ ∀ look ∈ call.looks, Allowed look) :
  Shows call leaf
  := by
  obtain ⟨place, hplace, h⟩ := bind_eq_ok h
  obtain rfl := Except.ok.inj h
  obtain ⟨hnames, hallowed⟩ := coordinates_ok hplace
  constructor
  case drawn => apply hdrawn
  case name => rw [hname]
  case text => rw [htext]
  case wellNamed =>
    rw [wellNamed_iff, List.map_append, hnames]
    change areNames "rect" ["x", "y", "width", "height", "fill", "stroke"]
    decide
  case allowed_iff =>
    rw [List.forall_mem_append, allowed_paint, hlooks]
    apply and_iff_right hallowed

theorem shows_polygon {points : List (Point Float)} {fill stroke : Text} {leaf : Leaf}
    (h : polygon points fill stroke = .ok leaf) {call : Call Float}
    (hdrawn : ∃ width height, elementOf width height call = .ok (some leaf))
    (hname : call.elementName = "polygon") (htext : call.caption = [])
    (hlooks : Allowed fill ∧ Allowed stroke ↔ ∀ look ∈ call.looks, Allowed look) :
  Shows call leaf
  := by
  obtain ⟨outline, houtline, h⟩ := bind_eq_ok h
  obtain rfl := Except.ok.inj h
  obtain ⟨texts, htexts, rfl⟩ := map_eq_ok houtline
  have houtline := (isPlain_join (isPlain_of_mapM_pointText htexts)).allowed
  constructor
  case drawn => apply hdrawn
  case name => rw [hname]
  case text => rw [htext]
  case wellNamed =>
    rw [wellNamed_iff]
    change areNames "polygon" ["points", "fill", "stroke"]
    decide
  case allowed_iff =>
    rw [List.forall_mem_cons, allowed_paint, hlooks]
    apply and_iff_right houtline

/-- The dashes of a line are one allowed attribute or none. -/
theorem dashAttributes_ok {dash : Option (Float × Float)} {attributes : Attributes}
    (h : dashAttributes dash = .ok attributes) :
  attributes.map Prod.fst ∈ [[], [("stroke-dasharray" : Text)]]
    ∧ ∀ named ∈ attributes, Allowed named.2
  := by
  match dash with
  | none =>
      obtain rfl := Except.ok.inj h
      simp
  | some (length, spacing) =>
      obtain ⟨t, ht, h⟩ := bind_eq_ok h
      obtain ⟨u, hu, h⟩ := bind_eq_ok h
      obtain rfl := Except.ok.inj h
      rw [List.forall_mem_singleton]
      use by simp
      apply Text.IsPlain.allowed
      rw [Text.isPlain_append, Text.isPlain_cons]
      use isPlain_coordinateText ht, by decide, isPlain_coordinateText hu

theorem allowed_dropEnding (t : Text) :
  Allowed (t.dropEnding ['p', 'x']) ↔ Allowed t
  := by
  rw [Text.dropEnding]
  split
  · next h =>
    obtain ⟨front, rfl⟩ := List.isSuffixOf_iff_suffix.mp h
    have hunit : Allowed ['p', 'x'] := by decide
    simp [allowed_append, hunit]
  · rfl

/-- A font is split into one or two attributes, which are allowed if the font is. -/
theorem attributesOfFont_ok (font : Text) :
  (attributesOfFont font).map Prod.fst ∈ [[("font-size" : Text)], ["font-size", "font-family"]]
    ∧ ((∀ named ∈ attributesOfFont font, Allowed named.2) ↔ Allowed font)
  := by
  have hblank : isChar ' ' = true := by decide
  rw [attributesOfFont]
  cases hcut : font.cutAt [' '] with
  | none => simp [allowed_dropEnding]
  | some sides =>
      obtain ⟨size, family⟩ := sides
      obtain ⟨rfl, -⟩ := Text.cutAt_eq_some (List.cons_ne_nil _ _) hcut
      rw [Option.getD_some, allowed_append, allowed_append]
      simp only
      split
      · next hfamily =>
        rw [List.isEmpty_iff.mp hfamily]
        simp [allowed_dropEnding, allowed_nil, allowed_cons, hblank]
      · have hset : Attributes.set [("font-size", Text.dropEnding size ['p', 'x'])] "font-family"
            family
            = [(("font-size" : Text), Text.dropEnding size ['p', 'x']),
              ("font-family", family)] := rfl
        rw [hset]
        simp [allowed_dropEnding, allowed_nil, allowed_cons, hblank]

theorem shows_fillText {width height x y : Float} {text color font : Text} {leaf : Leaf}
    (h : elementOf width height (.fillText text x y color font) = .ok (some leaf)) :
  Shows (.fillText text x y color font) leaf
  := by
  obtain ⟨place, hplace, heq⟩ := bind_eq_ok h
  obtain rfl := Option.some.inj (Except.ok.inj heq)
  obtain ⟨hnames, hallowed⟩ := coordinates_ok hplace
  obtain ⟨hfont, hfontAllowed⟩ := attributesOfFont_ok font
  constructor
  case drawn => refine ⟨_, _, h⟩
  case name => rfl
  case text => rfl
  case wellNamed =>
    have hall : ∀ names ∈ ([["font-size"], ["font-size", "font-family"]] : List (List Text)),
        areNames "text" ((["x", "y", "fill"] : List Text) ++ names) := by decide
    rw [wellNamed_iff, List.map_append, List.map_append, hnames]
    apply hall _ hfont
  case allowed_iff =>
    rw [List.forall_mem_append, List.forall_mem_append, hfontAllowed, List.forall_mem_singleton,
      and_iff_right hallowed, Call.looks, List.forall_mem_cons, List.forall_mem_singleton]

theorem shows_strokeLine {width height : Float} {start finish : Point Float} {color : Text}
    {dash : Option (Float × Float)} {leaf : Leaf}
    (h : elementOf width height (.strokeLine start finish color dash) = .ok (some leaf)) :
  Shows (.strokeLine start finish color dash) leaf
  := by
  obtain ⟨ends, hends, heq⟩ := bind_eq_ok h
  obtain ⟨dashes, hdashes, heq⟩ := bind_eq_ok heq
  obtain rfl := Option.some.inj (Except.ok.inj heq)
  obtain ⟨hnames, hallowed⟩ := coordinates_ok hends
  obtain ⟨hdashNames, hdashAllowed⟩ := dashAttributes_ok hdashes
  constructor
  case drawn => refine ⟨_, _, h⟩
  case name => rfl
  case text => rfl
  case wellNamed =>
    have hall : ∀ names ∈ ([[], ["stroke-dasharray"]] : List (List Text)),
        areNames "line" ((["x1", "y1", "x2", "y2", "stroke"] : List Text) ++ names) := by decide
    rw [wellNamed_iff, List.map_append, List.map_append, hnames]
    apply hall _ hdashNames
  case allowed_iff =>
    rw [List.forall_mem_append, List.forall_mem_append, List.forall_mem_singleton,
      and_iff_right hallowed, and_iff_left hdashAllowed, Call.looks, List.forall_mem_singleton]

/-- The element of a call shows the call. -/
theorem shows_elementOf {width height : Float} {call : Call Float} {leaf : Leaf}
    (h : elementOf width height call = .ok (some leaf)) :
  Shows call leaf
  := by
  have hnone : Allowed ['n', 'o', 'n', 'e'] := by decide
  cases call with
  | setSize w h' =>
      have hnone := Except.ok.inj h
      contradiction
  | fillBackground color | fillRect x y w h' color =>
      obtain ⟨leaf', hleaf, heq⟩ := map_eq_ok h
      obtain rfl := Option.some.inj heq
      apply shows_rectangle hleaf ⟨_, _, h⟩ rfl rfl
      simp [Call.looks, hnone]
  | strokeRect x y w h' color =>
      obtain ⟨leaf', hleaf, heq⟩ := map_eq_ok h
      obtain rfl := Option.some.inj heq
      apply shows_rectangle hleaf ⟨_, _, h⟩ rfl rfl
      simp [Call.looks, hnone]
  | fillText text x y color font => apply shows_fillText h
  | strokeLine start finish color dash => apply shows_strokeLine h
  | fillPolygon points color =>
      obtain ⟨leaf', hleaf, heq⟩ := map_eq_ok h
      obtain rfl := Option.some.inj heq
      apply shows_polygon hleaf ⟨_, _, h⟩ rfl rfl
      simp [Call.looks, hnone]
  | strokePolygon points color =>
      obtain ⟨leaf', hleaf, heq⟩ := map_eq_ok h
      obtain rfl := Option.some.inj heq
      apply shows_polygon hleaf ⟨_, _, h⟩ rfl rfl
      simp [Call.looks, hnone]

/-! ### Drawings -/

/-- A drawing that shows some calls: its elements show the calls that add one, in order, and its
own names are names and its own attributes allowed. -/
structure Depicts (calls : List (Call Float)) (s : Svg) : Prop where
  shows : List.Forall₂ Shows (calls.filter fun call => !call.elementName.isEmpty) s.elements
  wellNamed : WellNamed "svg" (("xmlns", namespaceName) :: s.attributes)
  allowed : ∀ named ∈ s.attributes, Allowed named.2

theorem depicts_empty :
  Depicts [] empty
  := by
  constructor
  case shows => apply List.Forall₂.nil
  case wellNamed =>
    rw [wellNamed_iff]
    decide
  case allowed => decide

/-- A drawing with some attributes, to which more with other names are added. -/
theorem wellNamed_set {name n value : Text} {attributes : Attributes}
    (h : WellNamed name attributes) (hn : isName n = true) :
  WellNamed name (attributes.set n value)
  := by
  rw [wellNamed_iff] at h ⊢
  obtain ⟨hname, heach, hdistinct⟩ := h
  rw [Attributes.map_fst_set]
  split
  · use hname, heach, hdistinct
  · next hnew =>
    refine ⟨hname, ?_, ?_⟩
    · simpa [or_imp, forall_and, hn] using heach
    · rw [List.nodup_append_comm]
      simpa [hnew] using hdistinct

/-- An attribute of its own keeps what a drawing depicts. -/
theorem Depicts.setAttribute {calls : List (Call Float)} {s : Svg} (h : Depicts calls s)
    (name : Text) (hname : isName name = true ∧ name ≠ "xmlns") {value : Text}
    (hvalue : Allowed value) :
  Depicts calls { s with attributes := s.attributes.set name value }
  := by
  obtain ⟨hname, hne⟩ := hname
  constructor
  case shows => apply h.shows
  case wellNamed =>
    rw [← Attributes.set_cons hne.symm]
    apply wellNamed_set h.wellNamed hname
  case allowed =>
    intro named hnamed
    obtain hold | hnew := Attributes.mem_set hnamed
    · apply h.allowed named hold
    · rw [hnew]
      apply hvalue

/-- A size that can be set keeps what a drawing depicts. -/
theorem Depicts.setSize {calls : List (Call Float)} {s : Svg} (h : Depicts calls s)
    {width height : Float} (hsize : (s.setSize width height).2 = none) :
  Depicts calls (s.setSize width height).1
  := by
  have hsized : Depicts calls { s with width, height } := ⟨h.shows, h.wellNamed, h.allowed⟩
  rw [Svg.setSize] at hsize ⊢
  cases hw : coordinateText width with
  | error e =>
      rw [hw] at hsize
      contradiction
  | ok w =>
      rw [hw] at hsize
      cases hh : coordinateText height with
      | error e =>
          rw [hh] at hsize
          contradiction
      | ok t =>
          have hw := isPlain_coordinateText hw
          have ht := isPlain_coordinateText hh
          have hbox : Text.IsPlain ('0' :: ' ' :: '0' :: ' ' :: w ++ ' ' :: t) := by
            simp only [List.cons_append, Text.isPlain_cons, Text.isPlain_append]
            refine ⟨by decide, by decide, by decide, by decide, hw, by decide, ht⟩
          have hwidth := hsized.setAttribute "width" (by decide) hw.allowed
          have hheight := hwidth.setAttribute "height" (by decide) ht.allowed
          apply hheight.setAttribute "viewBox" (by decide) hbox.allowed

/-- Only setting the size adds no element. -/
theorem exists_leaf_of_elementOf {width height : Float} {call : Call Float} {leaf : Option Leaf}
    (h : elementOf width height call = .ok leaf) (hcall : call.elementName ≠ []) :
  ∃ l, leaf = some l
  := by
  cases call with
  | setSize w h' => contradiction
  | fillText text x y color font =>
      obtain ⟨place, -, h⟩ := bind_eq_ok h
      refine ⟨_, (Except.ok.inj h).symm⟩
  | strokeLine start finish color dash =>
      obtain ⟨ends, -, h⟩ := bind_eq_ok h
      obtain ⟨dashes, -, h⟩ := bind_eq_ok h
      refine ⟨_, (Except.ok.inj h).symm⟩
  | _ =>
      obtain ⟨l, -, heq⟩ := map_eq_ok h
      refine ⟨l, heq.symm⟩

theorem exists_setSize {call : Call Float} (h : call.elementName = []) :
  ∃ width height, call = .setSize width height
  := by
  cases call with
  | setSize width height => use width, height
  | _ => contradiction

/-- A call that is drawn adds its element, if it has one. -/
theorem Depicts.draw {calls : List (Call Float)} {s s' : Svg} (h : Depicts calls s)
    {call : Call Float} (hdraw : s.draw call = (s', none)) :
  Depicts (calls ++ [call]) s'
  := by
  by_cases hname : call.elementName = []
  · obtain ⟨width, height, rfl⟩ := exists_setSize hname
    have hsize : s.setSize width height = (s', none) := hdraw
    have hset : Depicts calls (s.setSize width height).1 := h.setSize (by rw [hsize])
    rw [hsize] at hset
    constructor
    case shows =>
      have hempty : (Call.setSize width height).elementName.isEmpty = true := rfl
      rw [List.filter_append, List.filter_cons_of_neg (by rw [hempty]; decide), List.filter_nil,
        List.append_nil]
      apply hset.shows
    case wellNamed => apply hset.wellNamed
    case allowed => apply hset.allowed
  · have hcall : ∀ width height, call ≠ .setSize width height := by
      rintro width height rfl
      contradiction
    rw [Svg.draw] at hdraw
    · cases helement : elementOf s.width s.height call with
      | error e =>
          rw [helement] at hdraw
          obtain ⟨-, herror⟩ := Prod.mk.inj hdraw
          contradiction
      | ok leaf =>
          obtain ⟨leaf, rfl⟩ := exists_leaf_of_elementOf helement hname
          rw [helement] at hdraw
          obtain ⟨rfl, -⟩ := Prod.mk.inj hdraw
          constructor
          case shows =>
            rw [List.filter_append, List.filter_cons_of_pos (by simpa using hname)]
            apply List.rel_append h.shows (.cons (shows_elementOf helement) .nil)
          case wellNamed => apply h.wellNamed
          case allowed => apply h.allowed
    · apply hcall

/-- A drawing depicts the calls that it is drawn by. -/
theorem Depicts.drawAll {before calls : List (Call Float)} {s s' : Svg} (h : Depicts before s)
    (hdraw : s.drawAll calls = .ok s') :
  Depicts (before ++ calls) s'
  := by
  induction calls generalizing before s with
  | nil =>
      obtain rfl := Except.ok.inj hdraw
      rw [List.append_nil]
      apply h
  | cons call calls ih =>
      rw [Svg.drawAll] at hdraw
      cases hcall : s.draw call with
      | mk next error =>
          rw [hcall] at hdraw
          cases error with
          | some error => contradiction
          | none =>
              rw [List.append_cons]
              apply ih (h.draw hcall) hdraw

end Svg

end BoxDiagram
