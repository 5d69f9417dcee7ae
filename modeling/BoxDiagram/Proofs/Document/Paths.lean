import BoxDiagram.Document.Scope
import Mathlib.Data.List.Nodup
import Mathlib.Tactic.Use

/-!
# Paths of nested scopes

The paths that a walk gives to the scopes nested in a scope.  Walking from a path gives
the paths of a walk from the root, each below that path.  Sibling scopes are *settled* when
every path leads to one of them at most: no path of a later sibling is the label of an
earlier one or begins with that label and a dot.  The paths of settled scopes are pairwise
distinct and none is empty.
-/

namespace BoxDiagram

/-! ### Beginnings of texts -/

/-- A text is cut after a beginning exactly when it is that beginning and the rest. -/
theorem Text.after?_eq_some_iff {t start rest : Text} :
  t.after? start = some rest ↔ t = start ++ rest
  := by
  rw [Text.after?]
  constructor
  · intro h
    split at h
    · next hp =>
      obtain ⟨u, rfl⟩ := List.isPrefixOf_iff_prefix.mp hp
      simp_all
    · contradiction
  · rintro rfl
    simp

/-- No cut is made exactly when the text does not begin so. -/
theorem Text.after?_eq_none_iff {t start : Text} :
  t.after? start = none ↔ ¬ start <+: t
  := by
  simp [Text.after?]

/-! ### Labels below a path -/

theorem pathBelow_nil_left (label : Text) :
  pathBelow [] label = label
  := rfl

theorem pathBelow_of_ne_nil {parent : Text} (h : parent ≠ []) (label : Text) :
  pathBelow parent label = parent ++ pathSeparator :: label
  := by
  simp [pathBelow, h]

/-- A label below a path that is not empty can be put below a further path in either order. -/
theorem pathBelow_pathBelow {front path : Text} (h : path ≠ []) (label : Text) :
  pathBelow front (pathBelow path label) = pathBelow (pathBelow front path) label
  := by
  by_cases hf : front = []
  · rw [hf, pathBelow_nil_left, pathBelow_nil_left]
  · rw [pathBelow_of_ne_nil hf, pathBelow_of_ne_nil h, pathBelow_of_ne_nil hf,
      pathBelow_of_ne_nil (by simp)]
    simp

/-- A path whose last label has no dot determines that label and the path above. -/
theorem pathBelow_inj {parent parent' label label' : Text} (h : pathSeparator ∉ label)
    (h' : pathSeparator ∉ label') (heq : pathBelow parent label = pathBelow parent' label') :
  parent = parent' ∧ label = label'
  := by
  by_cases hparent : parent = []
  · by_cases hparent' : parent' = []
    · rw [hparent, hparent'] at heq ⊢
      use rfl, heq
    · rw [hparent, pathBelow_nil_left, pathBelow_of_ne_nil hparent'] at heq
      rw [heq] at h
      simp at h
  · by_cases hparent' : parent' = []
    · rw [hparent', pathBelow_nil_left, pathBelow_of_ne_nil hparent] at heq
      rw [← heq] at h'
      simp at h'
    · rw [pathBelow_of_ne_nil hparent, pathBelow_of_ne_nil hparent'] at heq
      obtain ⟨front, rfl, hfront⟩ | ⟨front, rfl, hfront⟩ := List.append_eq_append_iff.mp heq
      · cases front with
        | nil => simpa using hfront
        | cons _ front =>
            obtain ⟨rfl, rfl⟩ := List.cons.inj hfront
            simp at h
      · cases front with
        | nil => simpa [eq_comm] using hfront
        | cons _ front =>
            obtain ⟨rfl, rfl⟩ := List.cons.inj hfront
            simp at h'

namespace Scope

/-! ### Scopes in scopes -/

mutual

theorem tree_induction_inside {motive : Scope → Prop}
    (step : ∀ s, (∀ c ∈ s.nested, motive c) → motive s) :
    ∀ s : Scope, motive s
  | ⟨_, _, _, nested, _⟩ => step _ (tree_induction_all step nested)

theorem tree_induction_all {motive : Scope → Prop}
    (step : ∀ s, (∀ c ∈ s.nested, motive c) → motive s) :
    ∀ scopes : List Scope, ∀ s ∈ scopes, motive s
  | [], _, h => by contradiction
  | c :: scopes, s, h => by
      obtain h | h := List.mem_cons.mp h
      · rw [h]
        apply tree_induction_inside step c
      · apply tree_induction_all step scopes s h

end

/-- What holds of a scope when it holds of the scopes nested in it holds of all scopes. -/
theorem tree_induction {motive : Scope → Prop}
    (step : ∀ s, (∀ c ∈ s.nested, motive c) → motive s) (s : Scope) :
  motive s
  := tree_induction_inside step s

/-! ### Walks from a path -/

/-- The walk of a scope is the scope itself and the walk of the scopes nested in it. -/
theorem withPaths_eq (path : Text) (s : Scope) :
  withPaths path s = (path, s) :: nestedWithPaths path s.nested
  := by
  cases s
  rfl

/-- A walk begins with the scope itself. -/
theorem self_mem_withPaths (path : Text) (s : Scope) :
  (path, s) ∈ withPaths path s
  := by
  rw [withPaths_eq]
  apply List.mem_cons_self

mutual

/-- Walking a scope from a path below `front` puts all paths of the walk below `front`. -/
theorem withPaths_below {front path : Text} (h : path ≠ []) :
    ∀ s : Scope, withPaths (pathBelow front path) s
      = (withPaths path s).map (Prod.map (pathBelow front) id)
  | ⟨_, _, _, nested, _⟩ => by
      rw [withPaths_eq, withPaths_eq, nestedWithPaths_below h nested]
      rfl

/-- Walking sibling scopes from a path below `front` puts all paths of the walk below
`front`. -/
theorem nestedWithPaths_below {front path : Text} (h : path ≠ []) :
    ∀ scopes : List Scope, nestedWithPaths (pathBelow front path) scopes
      = (nestedWithPaths path scopes).map (Prod.map (pathBelow front) id)
  | [] => rfl
  | s :: scopes => by
      have hs : pathBelow path s.label ≠ [] := by simp [pathBelow_of_ne_nil h]
      rw [nestedWithPaths, nestedWithPaths, ← pathBelow_pathBelow h, withPaths_below hs s,
        nestedWithPaths_below h scopes, List.map_append]

end

/-- Walking labelled siblings from a path puts the paths of the walk from the root below it. -/
theorem nestedWithPaths_eq_map (front : Text) {scopes : List Scope}
    (h : ∀ s ∈ scopes, s.label ≠ []) :
  nestedWithPaths front scopes = (nestedWithPaths [] scopes).map (Prod.map (pathBelow front) id)
  := by
  induction scopes with
  | nil => rfl
  | cons s scopes ih =>
      obtain ⟨hs, hscopes⟩ := List.forall_mem_cons.mp h
      rw [nestedWithPaths, nestedWithPaths, ih hscopes, List.map_append, pathBelow_nil_left,
        withPaths_below hs s]

/-- The paths of sibling scopes and of all scopes below them, parents first. -/
def nestedPaths (scopes : List Scope) : List Text := (nestedWithPaths [] scopes).map Prod.fst

/-- The paths of sibling scopes and of all scopes below them, each with the rows and the
relations of its scope. -/
def outline (scopes : List Scope) : List (Text × Option (List Row) × Option (List Relation)) :=
  (nestedWithPaths [] scopes).map fun (path, s) => (path, s.layout, s.relations)

theorem nestedPaths_eq_map_outline (scopes : List Scope) :
  nestedPaths scopes = (outline scopes).map Prod.fst
  := by
  simp [nestedPaths, outline]

/-- The outline of siblings is the first of them, what is nested in it, and the others. -/
theorem outline_cons {s : Scope} (hs : s.label ≠ []) (hn : ∀ c ∈ s.nested, c.label ≠ [])
    (scopes : List Scope) :
  outline (s :: scopes)
    = (s.label, s.layout, s.relations)
      :: (outline s.nested).map (Prod.map (s.label ++ pathSeparator :: ·) id) ++ outline scopes
  := by
  have hbelow : pathBelow s.label = (s.label ++ pathSeparator :: ·) := by
    funext label
    apply pathBelow_of_ne_nil hs
  rw [outline, nestedWithPaths, pathBelow_nil_left, withPaths_eq, nestedWithPaths_eq_map _ hn,
    hbelow]
  simp [outline]

theorem mem_nestedPaths_cons {s : Scope} (hs : s.label ≠ []) (hn : ∀ c ∈ s.nested, c.label ≠ [])
    (scopes : List Scope) (path : Text) :
  path ∈ nestedPaths (s :: scopes)
    ↔ path = s.label
      ∨ (∃ inner ∈ nestedPaths s.nested, path = s.label ++ pathSeparator :: inner)
      ∨ path ∈ nestedPaths scopes
  := by
  rw [nestedPaths_eq_map_outline, outline_cons hs hn, nestedPaths_eq_map_outline,
    nestedPaths_eq_map_outline]
  simp [eq_comm]

/-- A walk from a path gives each sibling its label below that path. -/
theorem mem_nestedWithPaths_of_mem (front : Text) {s : Scope} {scopes : List Scope}
    (h : s ∈ scopes) :
  (pathBelow front s.label, s) ∈ nestedWithPaths front scopes
  := by
  induction scopes with
  | nil => contradiction
  | cons t scopes ih =>
      rw [nestedWithPaths, withPaths_eq, List.mem_append]
      obtain rfl | h := List.mem_cons.mp h
      · left
        apply List.mem_cons_self
      · right
        apply ih h

mutual

/-- The walk of a scope goes on with the scopes nested in any scope that it passes. -/
theorem mem_withPaths_nested {path front : Text} {c d : Scope} (hd : d ∈ c.nested) :
    ∀ s : Scope, (path, c) ∈ withPaths front s → (pathBelow path d.label, d) ∈ withPaths front s
  | ⟨label, layout, relations, nested, messages⟩, h => by
      rw [withPaths_eq] at h ⊢
      apply List.mem_cons_of_mem
      obtain h | h := List.mem_cons.mp h
      · obtain ⟨rfl, rfl⟩ := Prod.mk.inj h
        apply mem_nestedWithPaths_of_mem _ hd
      · apply mem_nestedWithPaths_nested hd nested h

theorem mem_nestedWithPaths_nested {path front : Text} {c d : Scope} (hd : d ∈ c.nested) :
    ∀ scopes : List Scope, (path, c) ∈ nestedWithPaths front scopes →
      (pathBelow path d.label, d) ∈ nestedWithPaths front scopes
  | [], h => by contradiction
  | s :: scopes, h => by
      rw [nestedWithPaths, List.mem_append] at h ⊢
      apply h.imp (mem_withPaths_nested hd s) (mem_nestedWithPaths_nested hd scopes)

end

/-- The label of a sibling is the path of that sibling. -/
theorem label_mem_nestedPaths {s : Scope} {scopes : List Scope} (h : s ∈ scopes) :
  s.label ∈ nestedPaths scopes
  := List.mem_map_of_mem (mem_nestedWithPaths_of_mem [] h)

/-! ### Settled scopes -/

/-- Sibling scopes are settled when they are labelled, no path of a later sibling is the label
of an earlier one or begins with that label and a dot, and the scopes nested in each of them are
settled. -/
inductive Settled : List Scope → Prop where
  | nil : Settled []
  | cons {s : Scope} {scopes : List Scope} :
      s.label ≠ [] → Settled s.nested →
      (∀ path ∈ nestedPaths scopes, path ≠ s.label ∧ ¬ s.label ++ [pathSeparator] <+: path) →
      Settled scopes → Settled (s :: scopes)

theorem Settled.label_ne_nil {scopes : List Scope} (h : Settled scopes) :
  ∀ s ∈ scopes, s.label ≠ []
  := by
  induction h with
  | nil => simp
  | cons hs _ _ _ _ ih =>
      rw [List.forall_mem_cons]
      use hs

theorem Settled.path_ne_nil {scopes : List Scope} (h : Settled scopes) :
  ∀ path ∈ nestedPaths scopes, path ≠ []
  := by
  induction h with
  | nil => simp [nestedPaths, nestedWithPaths]
  | cons hs hn _ _ _ ih =>
      intro path hpath
      obtain rfl | ⟨inner, -, rfl⟩ | hpath :=
        (mem_nestedPaths_cons hs hn.label_ne_nil _ _).mp hpath
      · apply hs
      · simp
      · apply ih path hpath

/-- No two settled scopes have the same path. -/
theorem Settled.nodup {scopes : List Scope} (h : Settled scopes) :
  (nestedPaths scopes).Nodup
  := by
  induction h with
  | nil => simp [nestedPaths, nestedWithPaths]
  | @cons s scopes hs hn happart _ ihn ih =>
      have hcons : nestedPaths (s :: scopes)
          = (s.label :: (nestedPaths s.nested).map (s.label ++ pathSeparator :: ·))
            ++ nestedPaths scopes := by
        rw [nestedPaths_eq_map_outline, outline_cons hs hn.label_ne_nil]
        simp [nestedPaths_eq_map_outline]
      rw [hcons]
      apply List.Nodup.append
      · apply List.nodup_cons.mpr
        constructor
        · simp
        · apply ihn.map
          intro p q hpq
          simpa using hpq
      · apply ih
      · intro path hpath hlater
        obtain rfl | hpath := List.mem_cons.mp hpath
        · apply (happart _ hlater).1 rfl
        · obtain ⟨inner, -, rfl⟩ := List.mem_map.mp hpath
          apply (happart _ hlater).2
          simp

/-- No path of settled scopes stands in their outline with different rows or relations. -/
theorem Settled.outline_unique {scopes : List Scope} (h : Settled scopes) {path : Text}
    {entry entry' : Option (List Row) × Option (List Relation)}
    (hentry : (path, entry) ∈ outline scopes) (hentry' : (path, entry') ∈ outline scopes) :
  entry = entry'
  := by
  have hnodup := h.nodup
  rw [nestedPaths_eq_map_outline] at hnodup
  have heq := List.inj_on_of_nodup_map hnodup hentry hentry' rfl
  simpa using heq

/-- No two settled siblings have the same label, and no label and a dot begins the label of a
later sibling. -/
theorem Settled.labels_apart {scopes : List Scope} (h : Settled scopes) :
  scopes.Pairwise fun s t => s.label ≠ t.label ∧ ¬ s.label ++ [pathSeparator] <+: t.label
  := by
  induction h with
  | nil => apply List.Pairwise.nil
  | cons _ _ happart _ _ ih =>
      apply List.Pairwise.cons _ ih
      intro t ht
      obtain ⟨hne, hpre⟩ := happart _ (label_mem_nestedPaths ht)
      use hne.symm

/-- Every scope below settled scopes has settled scopes nested in it. -/
theorem Settled.nested {scopes : List Scope} (h : Settled scopes) {front path : Text} {s : Scope}
    (hs : (path, s) ∈ nestedWithPaths front scopes) :
  Settled s.nested
  := by
  induction h generalizing front with
  | nil => contradiction
  | cons _ hn _ _ ihn ih =>
      rw [nestedWithPaths, withPaths_eq] at hs
      obtain (⟨⟨⟩⟩ | hs) | hs := (List.mem_append.trans (or_congr_left List.mem_cons)).mp hs
      · apply hn
      · apply ihn hs
      · apply ih hs

/-- Every scope of a walk has settled scopes nested in it if the walk begins with such a scope. -/
theorem Settled.of_mem_withPaths {s c : Scope} (h : Settled s.nested) {front path : Text}
    (hc : (path, c) ∈ withPaths front s) :
  Settled c.nested
  := by
  rw [withPaths_eq] at hc
  obtain hc | hc := List.mem_cons.mp hc
  · rw [(Prod.mk.inj hc).2]
    apply h
  · apply h.nested hc

/-- No two scopes of a walk from the root have the same path, if settled scopes are nested in it. -/
theorem Settled.nodup_withPaths {s : Scope} (h : Settled s.nested) :
  ((withPaths [] s).map Prod.fst).Nodup
  := by
  rw [withPaths_eq, List.map_cons, List.nodup_cons]
  constructor
  · intro hmem
    apply h.path_ne_nil [] hmem rfl
  · apply h.nodup

/-- The scopes of a walk that have the path of one of them are that one alone. -/
theorem Settled.filter_withPaths {s c : Scope} (h : Settled s.nested) {path : Text}
    (hc : (path, c) ∈ withPaths [] s) :
  (withPaths [] s).filter (·.1 == path) = [(path, c)]
  := by
  have hnodup := h.nodup_withPaths
  obtain ⟨front, back, heq⟩ := List.append_of_mem hc
  rw [heq, List.map_append, List.map_cons, List.nodup_middle, List.nodup_cons,
    ← List.map_append] at hnodup
  have hother : ∀ entry ∈ front ++ back, entry.1 ≠ path := by
    rintro ⟨p, d⟩ hentry rfl
    apply hnodup.1 (List.mem_map.mpr ⟨(p, d), hentry, rfl⟩)
  rw [List.forall_mem_append] at hother
  rw [heq, List.filter_append, List.filter_cons_of_pos (by simp),
    List.filter_eq_nil_iff.mpr (by simpa using hother.1),
    List.filter_eq_nil_iff.mpr (by simpa using hother.2), List.nil_append]

/-- Among settled scopes a label names the one that has it. -/
theorem Settled.nested?_eq_some_iff {s d : Scope} (h : Settled s.nested) {label : Text} :
  s.nested? label = some d ↔ d ∈ s.nested ∧ d.label = label
  := by
  have hnodup : (s.nested.map (·.label)).Nodup :=
    List.pairwise_map.mpr (h.labels_apart.imp And.left)
  constructor
  · intro hd
    use List.mem_of_find?_eq_some hd
    simpa using List.find?_some hd
  · rintro ⟨hd, rfl⟩
    have hsome : (s.nested? d.label).isSome := by
      apply List.find?_isSome.mpr
      use d, hd, beq_self_eq_true d.label
    obtain ⟨e, he⟩ := Option.isSome_iff_exists.mp hsome
    have hlabel : e.label = d.label := by simpa using List.find?_some he
    rw [he, List.inj_on_of_nodup_map hnodup (List.mem_of_find?_eq_some he) hd hlabel]

end Scope

end BoxDiagram
