import BoxDiagram.Proofs.Document.Described
import BoxDiagram.Proofs.Layout.Rows
import BoxDiagram.Proofs.Lookup.Drawn

/-!
# Which box a label names

Several chains of boxes may spell one label, because labels may have dots in them and siblings
may have the same label.  Lookup finds a box whenever there is a chain, and its choice is fixed:
the first box that has the whole label, and else what the rest of the label names in the first
box with a dotted part of it where the rest is spelled at all.  In a drawing the chains spell the
paths of the boxes, so a path names a box exactly when some box has it.
-/

namespace BoxDiagram

open Scope

variable {α : Type}

/-! ### Chains of boxes -/

/-- A chain of boxes, each in the one before, leads from some boxes to a box. -/
structure Leads (boxes chain : List (Box α)) (b : Box α) : Prop where
  starts : ∃ a ∈ boxes, chain.head? = some a
  inside : chain.IsChain fun c d => d ∈ c.boxes
  ends : chain.getLast? = some b

/-- The text that the labels along a chain spell, with a dot between each two. -/
def spelling (chain : List (Box α)) : Text := Text.join [pathSeparator] (chain.map Box.label)

theorem leads_singleton_iff {boxes : List (Box α)} {a b : Box α} :
  Leads boxes [a] b ↔ a ∈ boxes ∧ a = b
  := by
  constructor
  · rintro ⟨⟨_, ha, ⟨⟩⟩, -, hends⟩
    use ha
    rwa [List.getLast?_singleton, Option.some_inj] at hends
  · rintro ⟨ha, rfl⟩
    constructor
    case starts => use a, ha; rfl
    case inside => apply List.IsChain.singleton
    case ends => rfl

theorem leads_cons_cons_iff {boxes chain : List (Box α)} {a b c : Box α} :
  Leads boxes (a :: c :: chain) b ↔ a ∈ boxes ∧ Leads a.boxes (c :: chain) b
  := by
  constructor
  · rintro ⟨⟨_, ha, ⟨⟩⟩, hinside, hends⟩
    obtain ⟨hc, hinside⟩ := List.isChain_cons_cons.mp hinside
    use ha
    constructor
    case starts => use c, hc; rfl
    case inside => apply hinside
    case ends => simpa using hends
  · rintro ⟨ha, ⟨_, hc, ⟨⟩⟩, hinside, hends⟩
    constructor
    case starts => use a, ha; rfl
    case inside => apply List.isChain_cons_cons.mpr ⟨hc, hinside⟩
    case ends => simpa using hends

theorem spelling_cons_cons (a c : Box α) (chain : List (Box α)) :
  spelling (a :: c :: chain) = a.label ++ pathSeparator :: spelling (c :: chain)
  := by
  simp [spelling, Text.join]

/-- A text is spelled by some boxes exactly when the labels along a chain from them are that
text. -/
theorem spells_iff_exists_chain {boxes : List (Box α)} {label : Text} {b : Box α} :
  Spells boxes label b ↔ ∃ chain, Leads boxes chain b ∧ spelling chain = label
  := by
  constructor
  · intro h
    induction h with
    | @last boxes b hb =>
        use [b], leads_singleton_iff.mpr ⟨hb, rfl⟩
        rfl
    | @step boxes a b rest ha _ ih =>
        obtain ⟨chain, hchain, rfl⟩ := ih
        cases chain with
        | nil =>
            obtain ⟨_, -, hstart⟩ := hchain.starts
            contradiction
        | cons c chain =>
            use a :: c :: chain, leads_cons_cons_iff.mpr ⟨ha, hchain⟩
            apply spelling_cons_cons
  · rintro ⟨chain, hchain, rfl⟩
    induction chain generalizing boxes with
    | nil =>
        obtain ⟨_, -, hstart⟩ := hchain.starts
        contradiction
    | cons a chain ih =>
        cases chain with
        | nil =>
            obtain ⟨ha, rfl⟩ := leads_singleton_iff.mp hchain
            apply Spells.last ha
        | cons c chain =>
            obtain ⟨ha, hchain⟩ := leads_cons_cons_iff.mp hchain
            rw [spelling_cons_cons]
            apply Spells.step ha (ih hchain)

/-! ### The choice among chains -/

/-- The box that a label chooses among some boxes.  The first box with the whole label comes
first; if no box has it, the rest of the label chooses in the first box whose label and a dot
begin the label, among those in which the rest is spelled. -/
inductive Chosen : List (Box α) → Text → Box α → Prop where
  | whole {front back : List (Box α)} {b : Box α} :
      (∀ c ∈ front, c.label ≠ b.label) → Chosen (front ++ b :: back) b.label b
  | dotted {front back : List (Box α)} {a b : Box α} {rest : Text} :
      (∀ c ∈ front ++ a :: back, c.label ≠ a.label ++ pathSeparator :: rest) →
      (∀ c ∈ front, ∀ rest', a.label ++ pathSeparator :: rest = c.label ++ pathSeparator :: rest' →
        ∀ d, ¬ Spells c.boxes rest' d) →
      Chosen a.boxes rest b → Chosen (front ++ a :: back) (a.label ++ pathSeparator :: rest) b

/-- Below one box a label finds what its rest names in the box. -/
theorem lookup_below_eq_some_iff {a b : Box α} {label : Text} :
  (label.after? (a.label ++ [pathSeparator])).bind (boxLabelled a.boxes) = some b
    ↔ ∃ rest, label = a.label ++ pathSeparator :: rest ∧ boxLabelled a.boxes rest = some b
  := by
  rw [Option.bind_eq_some_iff]
  simp only [Text.after?_eq_some_iff, List.append_assoc, List.singleton_append]

/-- Below one box a label finds nothing when its rest is not spelled there. -/
theorem lookup_below_eq_none_iff {a : Box α} {label : Text} :
  (label.after? (a.label ++ [pathSeparator])).bind (boxLabelled a.boxes) = none
    ↔ ∀ rest, label = a.label ++ pathSeparator :: rest → ∀ d, ¬ Spells a.boxes rest d
  := by
  rw [Option.bind_eq_none_iff]
  simp only [Text.after?_eq_some_iff, List.append_assoc, List.singleton_append,
    boxLabelled_eq_none_iff]

/-- What lookup finds is chosen. -/
theorem chosen_of_boxLabelled {boxes : List (Box α)} {label : Text} {b : Box α}
    (h : boxLabelled boxes label = some b) :
  Chosen boxes label b
  := by
  induction boxes using Box.forest_induction generalizing label with
  | step boxes ih =>
      rw [boxLabelled_eq, Option.or_eq_some_iff] at h
      obtain h | ⟨hnone, h⟩ := h
      · obtain ⟨hb, front, back, rfl, hfront⟩ := List.find?_eq_some_iff_append.mp h
        obtain rfl : b.label = label := by simpa using hb
        apply Chosen.whole
        simpa using hfront
      · obtain ⟨front, a, back, rfl, ha, hfront⟩ := List.findSome?_eq_some_iff.mp h
        obtain ⟨rest, rfl, hrest⟩ := lookup_below_eq_some_iff.mp ha
        apply Chosen.dotted
        · rw [List.find?_eq_none] at hnone
          simpa only [beq_iff_eq] using hnone
        · intro c hc
          apply lookup_below_eq_none_iff.mp (hfront c hc)
        · apply ih a (by simp) hrest

/-- What is chosen is what lookup finds. -/
theorem Chosen.boxLabelled_eq_some {boxes : List (Box α)} {label : Text} {b : Box α}
    (h : Chosen boxes label b) :
  boxLabelled boxes label = some b
  := by
  induction h with
  | @whole front back b hfront =>
      rw [boxLabelled_eq, Option.or_eq_some_iff, List.find?_eq_some_iff_append]
      left
      use BEq.rfl, front, back, rfl
      simpa using hfront
  | @dotted front back a b rest hwhole hfront _ ih =>
      rw [boxLabelled_eq, Option.or_eq_some_iff, List.findSome?_eq_some_iff]
      right
      constructor
      · rw [List.find?_eq_none]
        simpa only [beq_iff_eq] using hwhole
      · use front, a, back, rfl, lookup_below_eq_some_iff.mpr ⟨rest, rfl, ih⟩
        intro c hc
        apply lookup_below_eq_none_iff.mpr (hfront c hc)

/-! ### Lookup -/

/-- Looking up a label among any boxes finds a box exactly when a chain of boxes spells the label,
and the box it finds ends such a chain and is the one that the label chooses.  In a drawing whose
outermost scopes are labelled, as those of every text are, a path so names a box that has it
exactly when some box has it. -/
theorem boxLabelled_chosen [Scalar α] (boxes : List (Box α)) (label : Text) :
  ((∃ b, boxLabelled boxes label = some b)
      ↔ ∃ b chain, Leads boxes chain b ∧ spelling chain = label)
    ∧ (∀ b, boxLabelled boxes label = some b →
      ∃ chain, Leads boxes chain b ∧ spelling chain = label)
    ∧ (∀ b, boxLabelled boxes label = some b ↔ Chosen boxes label b)
    ∧ (∀ (m : Measurer α) (sp : Spacing α) (s : Scope), (∀ d ∈ s.nested, d.label ≠ []) →
      boxes = layoutBoxes m sp s →
        ((∃ b, boxLabelled boxes label = some b ∧ b.pathLabel = label)
          ↔ ∃ b ∈ Box.walkAll boxes, b.pathLabel = label))
    ∧ ∀ t, ∀ d ∈ (ofText t).nested, d.label ≠ []
  := by
  have hsound : ∀ b, boxLabelled boxes label = some b →
      ∃ chain, Leads boxes chain b ∧ spelling chain = label := by
    intro b hb
    apply spells_iff_exists_chain.mp (spells_of_boxLabelled hb)
  refine ⟨?_, hsound, ?_, ?_, ?_⟩
  · constructor
    · rintro ⟨b, hb⟩
      obtain ⟨chain, hchain⟩ := hsound b hb
      use b, chain
    · rintro ⟨b, hb⟩
      apply Option.isSome_iff_exists.mp (spells_iff_exists_chain.mpr hb).isSome_boxLabelled
  · intro b
    use chosen_of_boxLabelled, Chosen.boxLabelled_eq_some
  · rintro m sp s hlabels rfl
    constructor
    · rintro ⟨b, hb, hlabel⟩
      use b, (spells_of_boxLabelled hb).mem_walkAll
    · rintro ⟨a, ha⟩
      have hspells := (spells_layoutBoxes_iff_of_labelled hlabels).mpr ha
      obtain ⟨b, hb⟩ := Option.isSome_iff_exists.mp hspells.isSome_boxLabelled
      use b, hb
      apply ((spells_layoutBoxes_iff_of_labelled hlabels).mp (spells_of_boxLabelled hb)).2
  · intro t
    apply (settled_ofText t).label_ne_nil

/-- The label `A.B.x` begins like the first box `A`, in which nothing is called `B.x`; it is looked
up further in the box `A.B`. -/
theorem boxLabelled_chosen_second :
  let s : Scope :=
    ⟨[], some [⟨["A", "A.B"], []⟩], none,
      [⟨"A.B", some [⟨["x"], []⟩], none, [], []⟩, ⟨"A", some [⟨["C"], []⟩], none, [], []⟩], []⟩
  let boxes := layoutBoxes Measurer.unit Spacing.unit s
  (∀ d ∈ s.nested, d.label ≠ []) ∧ boxes.map Box.label = ["A", "A.B"]
    ∧ ∃ b, boxLabelled boxes "A.B.x" = some b ∧ b.pathLabel = "A.B.x"
  := by
  intro s boxes
  have hlabels : ∀ d ∈ s.nested, d.label ≠ [] := by decide
  have hbox : ((Box.walkAll boxes).map Box.pathLabel).contains "A.B.x" := by decide +kernel
  refine ⟨hlabels, by decide +kernel, ?_⟩
  obtain ⟨-, -, -, hpaths, -⟩ := boxLabelled_chosen boxes "A.B.x"
  apply (hpaths Measurer.unit Spacing.unit s hlabels rfl).mpr
  simpa [eq_comm] using hbox

/-- An outermost scope with an empty label: the box in it has the path `x`, but its chain spells
`.x`, and looking up `x` finds nothing. -/
theorem not_boxLabelled_chosen_unlabelled :
  let s : Scope := ⟨[], some [⟨[[]], []⟩], none, [⟨[], some [⟨["x"], []⟩], none, [], []⟩], []⟩
  let boxes := layoutBoxes Measurer.unit Spacing.unit s
  (∃ b ∈ Box.walkAll boxes, b.pathLabel = "x") ∧ boxLabelled boxes "x" = none
  := by
  intro s boxes
  have hpaths : ("x" : Text) ∈ (Box.walkAll boxes).map Box.pathLabel := by decide +kernel
  have hnone : (boxLabelled boxes "x").isNone = true := by decide +kernel
  constructor
  · apply List.mem_map.mp hpaths
  · apply Option.isNone_iff_eq_none.mp hnone

end BoxDiagram
