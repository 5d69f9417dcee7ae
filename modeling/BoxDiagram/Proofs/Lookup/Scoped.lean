import BoxDiagram.Connector
import BoxDiagram.Proofs.Document.Described
import BoxDiagram.Proofs.Layout.Rows
import BoxDiagram.Proofs.Lookup.Drawn

/-!
# Looking up labels in scopes

A label is looked up in the scope that declares a relation: first among the boxes drawn for
that scope, and then in the whole drawing.  The scope is found again by its path.  Where labels
have dots in them a box that is drawn for no scope may have the same path and come first; then
the scope is *hidden* behind it and nothing is found in the scope.  Lookup goes by the scope
exactly when the scope is not hidden.
-/

namespace BoxDiagram

open Scope

variable {α : Type}

/-- A chain that begins among the boxes drawn for the scope at a path spells a label. -/
def SpelledAt (s : Scope) (boxes : List (Box α)) (path label : Text) : Prop :=
  ∃ c siblings b, Drawn s boxes path c siblings ∧ Spells siblings label b

/-- A label is looked up by scope at a path when what it spells there is found there, and else
what it spells in the whole drawing, if anything. -/
structure LookedUp (s : Scope) (boxes : List (Box α)) (path label : Text) : Prop where
  relative : SpelledAt s boxes path label →
    ∃ b c siblings, boxNamed boxes path label = some b ∧ Drawn s boxes path c siblings
      ∧ b ∈ Box.walkAll siblings ∧ b.pathLabel = pathBelow path label
  absolute : ¬ SpelledAt s boxes path label → (∃ b ∈ Box.walkAll boxes, b.pathLabel = label) →
    ∃ b ∈ Box.walkAll boxes, boxNamed boxes path label = some b ∧ b.pathLabel = label
  missing : ¬ SpelledAt s boxes path label → (∀ b ∈ Box.walkAll boxes, b.pathLabel ≠ label) →
    boxNamed boxes path label = none

/-- The scope at a path is hidden when the first box with that path is drawn for no scope. -/
def Hidden (s : Scope) (boxes : List (Box α)) (path : Text) : Prop :=
  path ≠ [] ∧ ∃ b, boxAtPath boxes path = some b ∧
    ∀ p c siblings, Drawn s boxes p c siblings → b ∈ siblings → c.nested? b.label = none

/-- A box with a label is one of some boxes drawn for a scope at a path. -/
def LabelledAt (s : Scope) (boxes : List (Box α)) (path : Text) (c : Scope) (label : Text)
    (b : Box α) : Prop :=
  ∃ siblings, Drawn s boxes path c siblings ∧ b ∈ siblings ∧ b.label = label

/-! ### The two steps of a lookup -/

/-- Below the root a label is looked up among the boxes in the first box with the path, and then
among the outermost boxes. -/
theorem boxNamed_eq {boxes : List (Box α)} {path : Text} (hpath : path ≠ []) {b : Box α}
    (hb : boxAtPath boxes path = some b) (label : Text) :
  boxNamed boxes path label = (boxLabelled b.boxes label).or (boxLabelled boxes label)
  := by
  rw [boxNamed, if_neg (by simpa using hpath), hb]
  simp only
  cases boxLabelled b.boxes label <;> rfl

theorem boxNamed_root (boxes : List (Box α)) (label : Text) :
  boxNamed boxes [] label = boxLabelled boxes label
  := rfl

/-- A label is longer below a path than alone. -/
theorem pathBelow_ne_label {path : Text} (hpath : path ≠ []) (label : Text) :
  pathBelow path label ≠ label
  := by
  intro h
  have hlength := congrArg List.length h
  rw [pathBelow_of_ne_nil hpath, List.length_append, List.length_cons] at hlength
  omega

variable [Scalar α] {m : Measurer α} {sp : Spacing α} {s c : Scope} {path label : Text}
  {siblings : List (Box α)}

/-- Lookup goes by the scope at a path when it begins among boxes drawn for the scope, and also
when it finds nothing there because no chain spells the label. -/
theorem lookedUp_of_local (hs : Settled s.nested) (found : Option (Box α))
    (heq : boxNamed (layoutBoxes m sp s) path label
      = found.or (boxLabelled (layoutBoxes m sp s) label))
    (hfound : ∀ b, found = some b → ∃ c siblings, Drawn s (layoutBoxes m sp s) path c siblings
      ∧ b ∈ Box.walkAll siblings ∧ b.pathLabel = pathBelow path label)
    (hnone : found = none ↔ ¬ SpelledAt s (layoutBoxes m sp s) path label) :
  LookedUp s (layoutBoxes m sp s) path label
  := by
  constructor
  case relative =>
    intro hspelled
    cases found with
    | none => apply absurd hspelled (hnone.mp rfl)
    | some b =>
        obtain ⟨c, siblings, hdrawn, hb⟩ := hfound b rfl
        use b, c, siblings, heq, hdrawn
  case absolute =>
    rintro hspelled ⟨b, hb⟩
    rw [hnone.mpr hspelled, Option.none_or] at heq
    have hsome := ((spells_layoutBoxes_iff hs).mpr hb).isSome_boxLabelled
    obtain ⟨a, ha⟩ := Option.isSome_iff_exists.mp hsome
    obtain ⟨hmem, hlabel⟩ := (spells_layoutBoxes_iff hs).mp (spells_of_boxLabelled ha)
    use a, hmem, heq.trans ha
  case missing =>
    intro hspelled hmissing
    rw [heq, hnone.mpr hspelled, Option.none_or, boxLabelled_eq_none_iff]
    intro b hb
    obtain ⟨hmem, hlabel⟩ := (spells_layoutBoxes_iff hs).mp hb
    apply hmissing b hmem hlabel

/-- Lookup goes by the scope when it begins among boxes drawn for the scope. -/
theorem lookedUp_of_drawn (hs : Settled s.nested)
    (h : Drawn s (layoutBoxes m sp s) path c siblings)
    (heq : boxNamed (layoutBoxes m sp s) path label
      = (boxLabelled siblings label).or (boxLabelled (layoutBoxes m sp s) label)) :
  LookedUp s (layoutBoxes m sp s) path label
  := by
  apply lookedUp_of_local hs _ heq
  · intro b hb
    have hspells := spells_of_boxLabelled hb
    use c, siblings, h, hspells.mem_walkAll
    apply h.pathLabel_of_spells hs hspells
  · rw [boxLabelled_eq_none_iff, ← not_exists, not_iff_not]
    constructor
    · rintro ⟨b, hb⟩
      use c, siblings, b, h
    · rintro ⟨c', siblings', b, h', hb⟩
      apply (h'.exists_spells_iff hs h).mp
      use b

/-! ### Hidden scopes -/

/-- For a scope below the root that boxes are drawn for, a first box has its path. -/
theorem Drawn.exists_boxAtPath (h : Drawn s (layoutBoxes m sp s) path c siblings)
    (hpath : path ≠ []) :
  ∃ b, boxAtPath (layoutBoxes m sp s) path = some b
  := by
  apply Option.isSome_iff_exists.mp
  apply List.find?_isSome.mpr
  cases h with
  | root => contradiction
  | @nested path c d siblings b h hb hd =>
      use b, h.mem_walkAll b hb
      rw [Box.pathLabel, h.path_of_mem hb, beq_self_eq_true]

/-- The boxes in the first box with the path of a scope that is not hidden are drawn for the
scope. -/
theorem exists_drawn_of_not_hidden (hpath : path ≠ []) {b : Box α}
    (hb : boxAtPath (layoutBoxes m sp s) path = some b)
    (hhidden : ¬ Hidden s (layoutBoxes m sp s) path) :
  ∃ c, Drawn s (layoutBoxes m sp s) path c b.boxes
  := by
  have hlabel : b.pathLabel = path := by simpa using List.find?_some hb
  by_contra hnone
  apply hhidden
  use hpath, b, hb
  intro p c siblings h hmem
  by_contra hd
  obtain ⟨d, hd⟩ := Option.ne_none_iff_exists'.mp hd
  apply hnone
  use d
  rw [← hlabel, Box.pathLabel, h.path_of_mem hmem]
  apply h.nested hmem hd

/-- Where no label has a dot, no scope is hidden. -/
theorem Hidden.exists_dot (hs : Settled s.nested) (h : Hidden s (layoutBoxes m sp s) path)
    (hdrawn : Drawn s (layoutBoxes m sp s) path c siblings) :
  ∃ b ∈ Box.walkAll (layoutBoxes m sp s), pathSeparator ∈ b.label
  := by
  by_contra hdot
  push Not at hdot
  obtain ⟨hpath, b, hb, hnone⟩ := h
  have hmem := List.mem_of_find?_eq_some hb
  have hlabel : b.pathLabel = path := by simpa using List.find?_some hb
  obtain ⟨q, d, others, hothers, hother⟩ := Drawn.root.exists_of_mem_walkAll hmem
  cases hdrawn with
  | root => contradiction
  | @nested p e c siblings a h ha hc =>
      rw [Box.pathLabel, hothers.path_of_mem hother] at hlabel
      obtain ⟨rfl, hsame⟩ := pathBelow_inj (hdot b hmem) (hdot a (h.mem_walkAll a ha)) hlabel
      obtain rfl := h.scope_unique hs hothers
      have hbnone := hnone q e others hothers hother
      rw [hsame, hc] at hbnone
      contradiction

/-- Nothing is in the box that hides a scope. -/
theorem Hidden.exists_boxAtPath (h : Hidden s (layoutBoxes m sp s) path) :
  ∃ b, boxAtPath (layoutBoxes m sp s) path = some b ∧ b.boxes = []
  := by
  obtain ⟨-, b, hb, hnone⟩ := h
  use b, hb
  obtain ⟨p, c, siblings, hdrawn, hmem⟩ :=
    Drawn.root.exists_of_mem_walkAll (List.mem_of_find?_eq_some hb)
  apply hdrawn.boxes_eq_nil hmem
  apply hnone p c siblings hdrawn hmem

/-- In a hidden scope a label is looked up in the whole drawing only. -/
theorem Hidden.boxNamed_eq (h : Hidden s (layoutBoxes m sp s) path) (label : Text) :
  boxNamed (layoutBoxes m sp s) path label = boxLabelled (layoutBoxes m sp s) label
  := by
  obtain ⟨b, hb, hnil⟩ := h.exists_boxAtPath
  rw [BoxDiagram.boxNamed_eq h.1 hb, hnil]
  rfl

/-- In a hidden scope no label names a box at the path of the scope and the label. -/
theorem Hidden.pathLabel_ne (hs : Settled s.nested) (h : Hidden s (layoutBoxes m sp s) path)
    {b : Box α} (hb : boxNamed (layoutBoxes m sp s) path label = some b) :
  b.pathLabel ≠ pathBelow path label
  := by
  rw [h.boxNamed_eq] at hb
  rw [((spells_layoutBoxes_iff hs).mp (spells_of_boxLabelled hb)).2]
  apply (pathBelow_ne_label h.1 label).symm

/-- In a scope that is not hidden a label is looked up among boxes drawn for the scope first. -/
theorem Drawn.exists_boxNamed_eq (h : Drawn s (layoutBoxes m sp s) path c siblings)
    (hhidden : ¬ Hidden s (layoutBoxes m sp s) path) :
  ∃ c siblings, Drawn s (layoutBoxes m sp s) path c siblings ∧ ∀ label,
    boxNamed (layoutBoxes m sp s) path label
      = (boxLabelled siblings label).or (boxLabelled (layoutBoxes m sp s) label)
  := by
  by_cases hpath : path = []
  · use s, layoutBoxes m sp s
    rw [hpath]
    use Drawn.root
    intro label
    rw [boxNamed_root, Option.or_self]
  · obtain ⟨b, hb⟩ := h.exists_boxAtPath hpath
    obtain ⟨d, hd⟩ := exists_drawn_of_not_hidden hpath hb hhidden
    use d, b.boxes, hd
    apply boxNamed_eq hpath hb

/-! ### Lookup and hidden scopes -/

/-- Lookup goes by the scope unless the scope is hidden and the label spells something in it. -/
theorem lookedUp_iff (hs : Settled s.nested)
    (h : Drawn s (layoutBoxes m sp s) path c siblings) (label : Text) :
  LookedUp s (layoutBoxes m sp s) path label
    ↔ ¬ (Hidden s (layoutBoxes m sp s) path ∧ SpelledAt s (layoutBoxes m sp s) path label)
  := by
  constructor
  · rintro hlooked ⟨hhidden, hspelled⟩
    obtain ⟨b, -, -, hb, -, -, hlabel⟩ := hlooked.relative hspelled
    apply hhidden.pathLabel_ne hs hb hlabel
  · intro hnot
    by_cases hhidden : Hidden s (layoutBoxes m sp s) path
    · apply lookedUp_of_local hs none
      · apply hhidden.boxNamed_eq
      · intro b hb
        contradiction
      · apply iff_of_true rfl
        intro hspelled
        apply hnot ⟨hhidden, hspelled⟩
    · obtain ⟨d, siblings', h', heq⟩ := h.exists_boxNamed_eq hhidden
      apply lookedUp_of_drawn hs h' (heq label)

/-- In a scope that is not hidden a label from its rows names one of its boxes. -/
theorem exists_labelledAt (hs : Settled s.nested)
    (h : Drawn s (layoutBoxes m sp s) path c siblings)
    (hhidden : ¬ Hidden s (layoutBoxes m sp s) path) (hlabel : c.HasLabel label) :
  ∃ b, boxNamed (layoutBoxes m sp s) path label = some b
    ∧ LabelledAt s (layoutBoxes m sp s) path c label b
  := by
  obtain ⟨d, siblings', h', heq⟩ := h.exists_boxNamed_eq hhidden
  obtain rfl := h.scope_unique hs h'
  obtain ⟨b, hmem, hb, hown⟩ := boxLabelled_of_mem (h'.exists_mem hlabel)
  use b
  constructor
  · rw [heq, hb, Option.some_or]
  · use siblings', h', hmem

/-- A label from the rows of a scope names one of its boxes exactly when the scope is not
hidden. -/
theorem exists_labelledAt_iff (hs : Settled s.nested)
    (h : Drawn s (layoutBoxes m sp s) path c siblings) (hlabel : c.HasLabel label) :
  (∃ b, boxNamed (layoutBoxes m sp s) path label = some b
      ∧ LabelledAt s (layoutBoxes m sp s) path c label b)
    ↔ ¬ Hidden s (layoutBoxes m sp s) path
  := by
  constructor
  · rintro ⟨b, hb, siblings', h', hmem, hown⟩ hhidden
    apply hhidden.pathLabel_ne hs hb
    rw [Box.pathLabel, h'.path_of_mem hmem, hown]
  · intro hhidden
    apply exists_labelledAt hs h hhidden hlabel

variable [Angular α]

/-- In a scope that is not hidden every relation between labels from its rows is drawn between
its boxes. -/
theorem exists_connector (hs : Settled s.nested)
    (h : Drawn s (layoutBoxes m sp s) path c siblings)
    (hhidden : ¬ Hidden s (layoutBoxes m sp s) path) (headLength : α) {r : Relation}
    (hr : r ∈ c.relations.getD []) (hstart : c.HasLabel r.start) (hfinish : c.HasLabel r.finish) :
  ∃ a b, LabelledAt s (layoutBoxes m sp s) path c r.start a
    ∧ LabelledAt s (layoutBoxes m sp s) path c r.finish b
    ∧ Connector.between headLength r a b ∈ connectAll headLength s (layoutBoxes m sp s)
  := by
  obtain ⟨a, ha, hown⟩ := exists_labelledAt hs h hhidden hstart
  obtain ⟨b, hb, hown'⟩ := exists_labelledAt hs h hhidden hfinish
  use a, b, hown, hown'
  rw [connectAll, List.mem_flatMap]
  use (path, c), h.mem_withPaths
  rw [List.mem_filterMap]
  use r, hr
  rw [connect, ha, hb]

/-- In the drawing of a text, lookup from a scope that boxes are drawn for goes by the scope
unless the scope is hidden and the label spells something in it; a label from the rows of the
scope names one of its boxes exactly when the scope is not hidden, and then every relation
between two such labels is drawn between these boxes.  Only where a label has a dot can a scope
be hidden. -/
theorem lookedUp_ofText (t : Text) (m : Measurer α) (sp : Spacing α) (path : Text) (c : Scope)
    (siblings : List (Box α))
    (h : Drawn (ofText t) (layoutBoxes m sp (ofText t)) path c siblings) :
  let s := ofText t
  let boxes := layoutBoxes m sp s
  (∀ label, LookedUp s boxes path label ↔ ¬ (Hidden s boxes path ∧ SpelledAt s boxes path label))
    ∧ (∀ label, c.HasLabel label →
      ((∃ b, boxNamed boxes path label = some b ∧ LabelledAt s boxes path c label b)
        ↔ ¬ Hidden s boxes path))
    ∧ (¬ Hidden s boxes path → ∀ headLength, ∀ r ∈ c.relations.getD [],
      c.HasLabel r.start → c.HasLabel r.finish →
        ∃ a b, LabelledAt s boxes path c r.start a ∧ LabelledAt s boxes path c r.finish b
          ∧ Connector.between headLength r a b ∈ connectAll headLength s boxes)
    ∧ (Hidden s boxes path → ∃ b ∈ Box.walkAll boxes, pathSeparator ∈ b.label)
  := by
  intro s boxes
  have hs := settled_ofText t
  refine ⟨lookedUp_iff hs h, ?_, ?_, ?_⟩
  · intro label hlabel
    apply exists_labelledAt_iff hs h hlabel
  · intro hhidden headLength r hr hstart hfinish
    apply exists_connector hs h hhidden headLength hr hstart hfinish
  · intro hhidden
    apply hhidden.exists_dot hs h

/-- A nested scope with two boxes and no dot in any label. -/
theorem lookedUp_ofText_nested :
  let t : Text := "layout:\n[A]\n[A]:\nlayout:\n[x][y]\nrelations:\n[x]->[y]\n"
  let s := ofText t
  let boxes := layoutBoxes Measurer.unit Spacing.unit s
  ∃ c siblings, Drawn s boxes "A" c siblings ∧ c.HasLabel "x" ∧ ∀ label, LookedUp s boxes "A" label
  := by
  intro t s boxes
  have hlayout : s.layout = some [⟨["A"], []⟩] := by decide +kernel
  have hnested : (s.nested? "A").map (·.layout) = some (some [⟨["x", "y"], []⟩]) := by
    decide +kernel
  have hdots : ∀ b ∈ Box.walkAll boxes, pathSeparator ∉ b.label := by decide +kernel
  obtain ⟨c, hc, hrows⟩ := Option.map_eq_some_iff.mp hnested
  clear hnested
  have hlabel : s.HasLabel "A" := by
    rw [HasLabel, hlayout]
    decide
  have hlabel' : c.HasLabel "x" := by
    rw [HasLabel, hrows]
    decide
  obtain ⟨siblings, h⟩ := (Drawn.root : Drawn s boxes [] s boxes).exists_nested hlabel hc
  rw [pathBelow_nil_left] at h
  have hangular : Angular ℚ := ⟨fun _ _ => 0, fun _ => 0, fun _ => 1, 0⟩
  obtain ⟨hlooked, -, -, hdot⟩ :=
    lookedUp_ofText t Measurer.unit Spacing.unit "A" c siblings h
  use c, siblings, h, hlabel'
  intro label
  apply (hlooked label).mpr
  rintro ⟨hhidden, -⟩
  obtain ⟨b, hb, hlabel⟩ := hdot hhidden
  apply hdots b hb hlabel

/-- A box that is labelled with the path of a scope takes the place of the scope: the label `x`
names nothing in the scope `A.B`, though it is the label of a box there. -/
theorem not_lookedUp_hidden :
  let t : Text :=
    "layout:\n[A.B][A]\n[A]:\nlayout:\n[B]\n[A.B]:\nlayout:\n[x][y]\nrelations:\n[x]->[y]\n"
  let s := ofText t
  let boxes := layoutBoxes Measurer.unit Spacing.unit s
  s.hasErrors = false ∧ (∃ c siblings, Drawn s boxes "A.B" c siblings ∧ c.HasLabel "x")
    ∧ boxNamed boxes "A.B" "x" = none ∧ ¬ LookedUp s boxes "A.B" "x"
  := by
  intro t s boxes
  have herrors : s.hasErrors = false := by decide +kernel
  have hlayout : s.layout = some [⟨["A.B", "A"], []⟩] := by decide +kernel
  have houter : (s.nested? "A").map (·.layout) = some (some [⟨["B"], []⟩]) := by decide +kernel
  have hinner : ((s.nested? "A").bind (·.nested? "B")).map (·.layout)
      = some (some [⟨["x", "y"], []⟩]) := by
    decide +kernel
  have hnone : (boxNamed boxes "A.B" "x").isNone := by decide +kernel
  have hpath : pathBelow (pathBelow [] "A") "B" = "A.B" := by decide
  obtain ⟨c, hc, hrows⟩ := Option.map_eq_some_iff.mp houter
  rw [hc, Option.bind_some] at hinner
  obtain ⟨d, hd, hrows'⟩ := Option.map_eq_some_iff.mp hinner
  have hA : s.HasLabel "A" := by
    rw [HasLabel, hlayout]
    decide
  have hB : c.HasLabel "B" := by
    rw [HasLabel, hrows]
    decide
  have hx : d.HasLabel "x" := by
    rw [HasLabel, hrows']
    decide
  obtain ⟨outer, houter⟩ := (Drawn.root : Drawn s boxes [] s boxes).exists_nested hA hc
  obtain ⟨inner, hdrawn⟩ := houter.exists_nested hB hd
  rw [hpath] at hdrawn
  rw [Option.isNone_iff_eq_none] at hnone
  refine ⟨herrors, ⟨d, inner, hdrawn, hx⟩, hnone, ?_⟩
  intro hlooked
  obtain ⟨b, hb, hlabel⟩ := hdrawn.exists_mem hx
  have hspelled : SpelledAt s boxes "A.B" "x" := by
    use d, inner, b, hdrawn
    rw [← hlabel]
    apply Spells.last hb
  obtain ⟨a, -, -, ha, -⟩ := hlooked.relative hspelled
  apply Option.some_ne_none a (ha.symm.trans hnone)

end BoxDiagram
