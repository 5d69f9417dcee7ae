import BoxDiagram.Proofs.Document.Declaring

/-!
# Declarations in another order

Two paths are *unrelated* when they differ and neither begins with the other and a dot.  An
order of declarations is *parent-first* when no path stands after a path that begins with it and
a dot.  Declaring unrelated paths in either order gives the same scopes up to *shuffling*:
siblings with unrelated labels may change places, here and at any depth below.  Any two
parent-first orders of the same paths differ by exchanges of unrelated paths only, so they
declare the same scopes up to shuffling.  A shuffle does not change which scopes a walk passes,
nor their paths and parents.
-/

namespace BoxDiagram

namespace Scope

/-! ### Unrelated paths -/

/-- Two paths are unrelated when they differ and neither begins with the other and a dot. -/
structure Unrelated (p q : Text) : Prop where
  ne : p ≠ q
  not_below : ¬ p ++ [pathSeparator] <+: q
  not_above : ¬ q ++ [pathSeparator] <+: p

variable {p q : Text}

theorem Unrelated.symm (h : Unrelated p q) :
  Unrelated q p
  := ⟨h.ne.symm, h.not_above, h.not_below⟩

/-- What stands after a common beginning of unrelated paths is unrelated. -/
theorem Unrelated.of_append {front : Text} (h : Unrelated (front ++ p) (front ++ q)) :
  Unrelated p q
  := by
  constructor
  case ne =>
    rintro rfl
    apply h.ne rfl
  case not_below =>
    intro hpre
    apply h.not_below
    rw [List.append_assoc]
    apply (List.prefix_append_right_inj front).mpr hpre
  case not_above =>
    intro hpre
    apply h.not_above
    rw [List.append_assoc]
    apply (List.prefix_append_right_inj front).mpr hpre

/-- No path begins with two unrelated labels, each with a dot after it. -/
theorem Unrelated.not_both (h : Unrelated p q) {path : Text} (hp : p ++ [pathSeparator] <+: path) :
  ¬ q ++ [pathSeparator] <+: path
  := by
  intro hq
  obtain hpq | hqp := List.prefix_or_prefix_of_prefix hp hq
  · obtain heq | hpre := List.prefix_concat_iff.mp hpq
    · apply h.ne (List.append_cancel_right heq)
    · apply h.not_below hpre
  · obtain heq | hpre := List.prefix_concat_iff.mp hqp
    · apply h.ne (List.append_cancel_right heq).symm
    · apply h.not_above hpre

/-! ### Shuffled siblings -/

/-- Siblings shuffled so that only siblings with unrelated labels change places, here and among
the scopes nested in them. -/
inductive Shuffled : List Scope → List Scope → Prop where
  | nil : Shuffled [] []
  | cons {s : Scope} {nested scopes scopes' : List Scope} :
      Shuffled s.nested nested → Shuffled scopes scopes' →
      Shuffled (s :: scopes) ({ s with nested } :: scopes')
  | swap {s t : Scope} (scopes : List Scope) :
      Unrelated s.label t.label → Shuffled (s :: t :: scopes) (t :: s :: scopes)
  | trans {scopes scopes' scopes'' : List Scope} :
      Shuffled scopes scopes' → Shuffled scopes' scopes'' → Shuffled scopes scopes''

/-- A sibling may stay in front if the scopes nested in it may stay where they are. -/
theorem Shuffled.cons_of_nested {s : Scope} {scopes scopes' : List Scope}
    (hs : Shuffled s.nested s.nested) (h : Shuffled scopes scopes') :
  Shuffled (s :: scopes) (s :: scopes')
  := by
  cases s
  apply Shuffled.cons hs h

theorem shuffled_of_forall {scopes : List Scope}
    (h : ∀ s ∈ scopes, Shuffled s.nested s.nested) :
  Shuffled scopes scopes
  := by
  induction scopes with
  | nil => apply Shuffled.nil
  | cons s scopes ih =>
      obtain ⟨hs, hscopes⟩ := List.forall_mem_cons.mp h
      apply Shuffled.cons_of_nested hs (ih hscopes)

/-- All siblings may stay where they are. -/
theorem Shuffled.refl (scopes : List Scope) :
  Shuffled scopes scopes
  := by
  apply shuffled_of_forall
  intro s _
  apply tree_induction (motive := fun s => Shuffled s.nested s.nested)
  intro s ih
  apply shuffled_of_forall ih

/-- Any sibling may stay in front. -/
theorem Shuffled.cons_self (s : Scope) {scopes scopes' : List Scope}
    (h : Shuffled scopes scopes') :
  Shuffled (s :: scopes) (s :: scopes')
  := Shuffled.cons_of_nested (Shuffled.refl s.nested) h

/-- A scope is a reordering of another when they differ by a shuffle of the scopes nested in
them. -/
def Reordered (s t : Scope) : Prop := ∃ nested, Shuffled s.nested nested ∧ t = { s with nested }

theorem Reordered.refl (s : Scope) :
  Reordered s s
  := by
  use s.nested, Shuffled.refl s.nested
  cases s
  rfl

theorem Reordered.trans {s t u : Scope} (h : Reordered s t) (h' : Reordered t u) :
  Reordered s u
  := by
  obtain ⟨nested, hnested, rfl⟩ := h
  obtain ⟨nested', hnested', rfl⟩ := h'
  use nested', hnested.trans hnested'

/-- A reordering of the first sibling and a shuffle of the others shuffle them all. -/
theorem Reordered.cons {s t : Scope} {scopes scopes' : List Scope} (h : Reordered s t)
    (hscopes : Shuffled scopes scopes') :
  Shuffled (s :: scopes) (t :: scopes')
  := by
  obtain ⟨nested, hnested, rfl⟩ := h
  apply Shuffled.cons hnested hscopes

/-! ### Taken labels -/

/-- A path is taken among sibling scopes when it is empty or the label of one of them. -/
def Taken (scopes : List Scope) (path : Text) : Prop :=
  path = [] ∨ ∃ c ∈ scopes, c.label = path

variable {make make' : Text → Scope} {path : Text}

theorem declare_of_taken {s : Scope} (h : Taken s.nested path) :
  declare make path s = s
  := by
  rw [declare_eq]
  apply if_pos h

theorem declare_of_not_taken {s : Scope} (h : ¬ Taken s.nested path) :
  declare make path s = { s with nested := declareAmong make path s.nested }
  := by
  rw [declare_eq]
  apply if_neg h

/-- The same paths are taken among shuffled siblings. -/
theorem Shuffled.taken_iff {scopes scopes' : List Scope} (h : Shuffled scopes scopes')
    (path : Text) :
  Taken scopes path ↔ Taken scopes' path
  := by
  apply or_congr_right
  induction h with
  | nil => rfl
  | cons _ _ _ ih => simp only [List.mem_cons, exists_eq_or_imp, ih]
  | swap => simp only [List.mem_cons, exists_eq_or_imp, or_left_comm]
  | trans _ _ ih ih' => rw [ih, ih']

/-- Declaring a path among siblings takes no other path. -/
theorem taken_declareAmong (hmake : ∀ label, (make label).label = label) (hne : p ≠ path)
    (scopes : List Scope) :
  Taken (declareAmong make path scopes) p ↔ Taken scopes p
  := by
  apply or_congr_right
  induction scopes with
  | nil => simp [declareAmong, hmake, hne.symm]
  | cons s scopes ih =>
      rw [declareAmong]
      split
      · simp only [List.mem_cons, exists_eq_or_imp, declare_label]
      · simp only [List.mem_cons, exists_eq_or_imp, ih]

/-- Declaring a path in a scope takes no other path. -/
theorem taken_declare (hmake : ∀ label, (make label).label = label) (hne : p ≠ path) (s : Scope) :
  Taken (declare make path s).nested p ↔ Taken s.nested p
  := by
  rw [declare_eq]
  split
  · rfl
  · apply taken_declareAmong hmake hne

/-! ### Declaring in shuffled scopes -/

/-- Declaring a path in a scope and in its reordering gives reorderings, if declaring it among
the nested scopes gives shuffled ones. -/
theorem reordered_declare_of_nested {s : Scope} {nested : List Scope}
    (h : Shuffled s.nested nested)
    (hdeclared : Shuffled (declareAmong make path s.nested) (declareAmong make path nested)) :
  Reordered (declare make path s) (declare make path { s with nested })
  := by
  by_cases htaken : Taken s.nested path
  · rw [declare_of_taken htaken, declare_of_taken ((h.taken_iff path).mp htaken)]
    use nested
  · rw [declare_of_not_taken htaken, declare_of_not_taken (mt (h.taken_iff path).mpr htaken)]
    use declareAmong make path nested

/-- Declaring one path keeps shuffled siblings shuffled. -/
theorem Shuffled.declareAmong {scopes scopes' : List Scope} (h : Shuffled scopes scopes')
    (make : Text → Scope) (path : Text) :
  Shuffled (declareAmong make path scopes) (declareAmong make path scopes')
  := by
  induction h generalizing path with
  | nil => apply Shuffled.refl
  | @cons s nested scopes scopes' hnested hscopes ihn ih =>
      rw [Scope.declareAmong, Scope.declareAmong]
      cases path.after? (s.label ++ [pathSeparator]) with
      | some inner => apply (reordered_declare_of_nested hnested (ihn inner)).cons hscopes
      | none => apply Shuffled.cons hnested (ih path)
  | @swap s t scopes hlabels =>
      -- the path leads into one of the two scopes at most
      simp only [Scope.declareAmong]
      cases hs : path.after? (s.label ++ [pathSeparator]) with
      | some inner =>
          have ht : path.after? (t.label ++ [pathSeparator]) = none := by
            apply Text.after?_eq_none_iff.mpr
            apply hlabels.not_both
            rw [Text.after?_eq_some_iff.mp hs]
            apply List.prefix_append
          rw [ht]
          apply Shuffled.swap
          rw [declare_label]
          apply hlabels
      | none =>
          cases path.after? (t.label ++ [pathSeparator]) with
          | some inner =>
              apply Shuffled.swap
              rw [declare_label]
              apply hlabels
          | none => apply Shuffled.swap _ hlabels
  | trans _ _ ih ih' => apply (ih path).trans (ih' path)

/-- Declaring one path in reorderings gives reorderings. -/
theorem Reordered.declare {s t : Scope} (h : Reordered s t) (make : Text → Scope) (path : Text) :
  Reordered (declare make path s) (declare make path t)
  := by
  obtain ⟨nested, hnested, rfl⟩ := h
  apply reordered_declare_of_nested hnested (hnested.declareAmong make path)

/-! ### Exchanging two declarations -/

/-- Unrelated paths can be declared in a scope in either order, if they can be among the scopes
nested in it. -/
theorem Unrelated.declare_of_nested (h : Unrelated p q) {s : Scope}
    (hmake : ∀ label, (make label).label = label) (hmake' : ∀ label, (make' label).label = label)
    (hnested : Shuffled (declareAmong make p (declareAmong make' q s.nested))
      (declareAmong make' q (declareAmong make p s.nested))) :
  Reordered (declare make p (declare make' q s)) (declare make' q (declare make p s))
  := by
  by_cases hp : Taken s.nested p
  · rw [declare_of_taken ((taken_declare hmake' h.ne s).mpr hp), declare_of_taken hp]
    apply Reordered.refl
  · by_cases hq : Taken s.nested q
    · rw [declare_of_taken hq, declare_of_taken ((taken_declare hmake h.ne.symm s).mpr hq)]
      apply Reordered.refl
    · rw [declare_of_not_taken (mt (taken_declare hmake' h.ne s).mp hp),
        declare_of_not_taken (mt (taken_declare hmake h.ne.symm s).mp hq),
        declare_of_not_taken hp, declare_of_not_taken hq]
      use declareAmong make' q (declareAmong make p s.nested)

/-- Unrelated paths can be declared among siblings in either order, if they can be among the
scopes nested in each of them. -/
theorem Unrelated.declareAmong_of_nested (h : Unrelated p q) {scopes : List Scope}
    (hmake : ∀ label, (make label).label = label) (hmake' : ∀ label, (make' label).label = label)
    (hnested : ∀ s ∈ scopes, ∀ {p q : Text}, Unrelated p q →
      Shuffled (declareAmong make p (declareAmong make' q s.nested))
        (declareAmong make' q (declareAmong make p s.nested))) :
  Shuffled (declareAmong make p (declareAmong make' q scopes))
    (declareAmong make' q (declareAmong make p scopes))
  := by
  induction scopes with
  | nil =>
      have hp : p.after? (q ++ [pathSeparator]) = none := Text.after?_eq_none_iff.mpr h.not_above
      have hq : q.after? (p ++ [pathSeparator]) = none := Text.after?_eq_none_iff.mpr h.not_below
      simp only [declareAmong, hmake, hmake', hp, hq]
      apply Shuffled.swap
      rw [hmake, hmake']
      apply h.symm
  | cons s scopes ih =>
      obtain ⟨hs, hscopes⟩ := List.forall_mem_cons.mp hnested
      cases hp : p.after? (s.label ++ [pathSeparator]) with
      | some p' =>
          cases hq : q.after? (s.label ++ [pathSeparator]) with
          | some q' =>
              -- both paths lead into the scope, and what is left of them is unrelated
              simp only [declareAmong, hp, hq, declare_label]
              rw [Text.after?_eq_some_iff.mp hp, Text.after?_eq_some_iff.mp hq] at h
              apply (h.of_append.declare_of_nested hmake hmake' (hs h.of_append)).cons
              apply Shuffled.refl
          | none =>
              simp only [declareAmong, hp, hq, declare_label]
              apply Shuffled.refl
      | none =>
          cases hq : q.after? (s.label ++ [pathSeparator]) with
          | some q' =>
              simp only [declareAmong, hp, hq, declare_label]
              apply Shuffled.refl
          | none =>
              simp only [declareAmong, hp, hq]
              apply Shuffled.cons_self s (ih hscopes)

/-- Unrelated paths can be declared in either order. -/
theorem Unrelated.declare (h : Unrelated p q) (hmake : ∀ label, (make label).label = label)
    (hmake' : ∀ label, (make' label).label = label) (s : Scope) :
  Reordered (declare make p (declare make' q s)) (declare make' q (declare make p s))
  := by
  apply h.declare_of_nested hmake hmake'
  induction s using tree_induction generalizing p q with
  | step s ih => apply h.declareAmong_of_nested hmake hmake' ih

/-! ### Parent-first orders -/

/-- Take up groups of parts in order, each under its reference. -/
def addGroups (groups : List (Text × List Block)) (s : Scope) : Scope :=
  addBlocks (groups.map fun (reference, parts) => .group reference parts) s

/-- An order of paths is parent-first when no path stands after one that begins with it and a
dot. -/
def ParentFirst (paths : List Text) : Prop :=
  paths.Pairwise fun path later => ¬ later ++ [pathSeparator] <+: path

instance : DecidablePred ParentFirst := fun _ => List.instDecidablePairwise _

variable {groups groups' : List (Text × List Block)}

theorem addSection_label (s : Scope) (part : Section) :
  (s.addSection part).label = s.label
  := by
  rw [addSection_eq]

theorem addBlocks_label (blocks : List Block) (s : Scope) :
  (addBlocks blocks s).label = s.label
  := by
  induction blocks generalizing s with
  | nil => rfl
  | cons block blocks ih =>
      rw [addBlocks, ih]
      cases block with
      | plain part => apply addSection_label
      | group reference parts => apply declare_label

/-- Unrelated groups can be taken up in either order. -/
theorem Unrelated.addGroup (h : Unrelated p q) (parts parts' : List Block) (s : Scope) :
  Reordered (addGroup p parts (addGroup q parts' s)) (addGroup q parts' (addGroup p parts s))
  := by
  apply h.declare
  · intro label
    apply addBlocks_label
  · intro label
    apply addBlocks_label

/-- Taking up groups in reorderings gives reorderings. -/
theorem Reordered.addGroups {s t : Scope} (h : Reordered s t) (groups : List (Text × List Block)) :
  Reordered (addGroups groups s) (addGroups groups t)
  := by
  induction groups generalizing s t with
  | nil => apply h
  | cons group groups ih =>
      apply ih
      apply h.declare

/-- A group can be taken up before those in front of it that are unrelated to it. -/
theorem reordered_addGroups_move {group : Text × List Block} {front : List (Text × List Block)}
    (h : ∀ other ∈ front, Unrelated other.1 group.1) (back : List (Text × List Block))
    (s : Scope) :
  Reordered (addGroups (group :: (front ++ back)) s) (addGroups (front ++ group :: back) s)
  := by
  induction front generalizing s with
  | nil => apply Reordered.refl
  | cons other front ih =>
      obtain ⟨hother, hfront⟩ := List.forall_mem_cons.mp h
      apply Reordered.trans _ (ih hfront (addGroup other.1 other.2 s))
      apply (hother.addGroup other.2 group.2 s).addGroups

/-- All parent-first orders of the same groups declare the same scopes up to shuffling. -/
theorem reordered_addGroups (hperm : groups.Perm groups') (hnodup : (groups.map Prod.fst).Nodup)
    (h : ParentFirst (groups.map Prod.fst)) (h' : ParentFirst (groups'.map Prod.fst)) (s : Scope) :
  Reordered (addGroups groups s) (addGroups groups' s)
  := by
  induction groups generalizing groups' s with
  | nil =>
      rw [hperm.nil_eq]
      apply Reordered.refl
  | cons group groups ih =>
      obtain ⟨front, back, rfl⟩ := List.append_of_mem (hperm.mem_iff.mp List.mem_cons_self)
      have hrest : groups.Perm (front ++ back) := (hperm.trans List.perm_middle).cons_inv
      obtain ⟨hnew, hnodup⟩ := List.nodup_cons.mp hnodup
      obtain ⟨hfirst, h⟩ := List.pairwise_cons.mp h
      rw [List.map_append, List.map_cons] at h'
      have hfront : ∀ other ∈ front, Unrelated other.1 group.1 := by
        intro other hother
        have hmem : other.1 ∈ groups.map Prod.fst :=
          List.mem_map_of_mem (hrest.mem_iff.mpr (List.mem_append_left _ hother))
        constructor
        case ne =>
          intro heq
          apply hnew (heq ▸ hmem)
        case not_below => apply hfirst _ hmem
        case not_above =>
          apply (List.pairwise_append.mp h').2.2 _ (List.mem_map_of_mem hother)
          apply List.mem_cons_self
      have hothers : ParentFirst ((front ++ back).map Prod.fst) := by
        rw [List.map_append]
        apply List.Pairwise.sublist _ h'
        apply (List.sublist_cons_self _ _).append_left
      apply Reordered.trans _ (reordered_addGroups_move hfront back s)
      apply ih hrest hnodup h hothers

/-! ### Walks of reorderings -/

/-- What a walk of shuffled siblings collects is the same up to order, if so is what it collects
from each scope. -/
theorem Shuffled.flatMap_perm {β : Type} {entries : Text × Scope → List β}
    (hentries : ∀ (path : Text) {s : Scope} {nested : List Scope}, Shuffled s.nested nested →
      (entries (path, s)).Perm (entries (path, { s with nested })))
    {scopes scopes' : List Scope} (h : Shuffled scopes scopes') (path : Text) :
  ((nestedWithPaths path scopes).flatMap entries).Perm
    ((nestedWithPaths path scopes').flatMap entries)
  := by
  induction h generalizing path with
  | nil => apply List.Perm.refl
  | cons hnested _ ihn ih =>
      simp only [nestedWithPaths, withPaths_eq, List.flatMap_append, List.flatMap_cons]
      apply ((hentries _ hnested).append (ihn _)).append (ih path)
  | swap scopes _ =>
      simp only [nestedWithPaths, List.flatMap_append, ← List.append_assoc]
      apply List.Perm.append_right
      apply List.perm_append_comm
  | trans _ _ ih ih' => apply (ih path).trans (ih' path)

theorem Reordered.flatMap_perm {β : Type} {entries : Text × Scope → List β}
    (hentries : ∀ (path : Text) {s : Scope} {nested : List Scope}, Shuffled s.nested nested →
      (entries (path, s)).Perm (entries (path, { s with nested })))
    {s t : Scope} (h : Reordered s t) (path : Text) :
  ((withPaths path s).flatMap entries).Perm ((withPaths path t).flatMap entries)
  := by
  obtain ⟨nested, hnested, rfl⟩ := h
  rw [withPaths_eq, withPaths_eq, List.flatMap_cons, List.flatMap_cons]
  apply (hentries path hnested).append (hnested.flatMap_perm hentries path)

/-- The scopes of a walk, each with its path, rows and relations. -/
def contents (s : Scope) : List (Text × Option (List Row) × Option (List Relation)) :=
  (withPaths [] s).map fun (path, c) => (path, c.layout, c.relations)

/-- The scopes below a scope, each with the path of its parent and its own path, rows and
relations. -/
def descent (s : Scope) : List (Text × Text × Option (List Row) × Option (List Relation)) :=
  (withPaths [] s).flatMap fun (path, c) =>
    c.nested.map fun d => (path, pathBelow path d.label, d.layout, d.relations)

/-- Reorderings have the same paths, each with the same rows and relations. -/
theorem Reordered.contents_perm {s t : Scope} (h : Reordered s t) :
  (contents s).Perm (contents t)
  := by
  rw [contents, contents, List.map_eq_flatMap, List.map_eq_flatMap]
  apply h.flatMap_perm
  intro path s nested _
  apply List.Perm.refl

/-- Whatever is read off each sibling but for the scopes nested in it is the same up to order
for shuffled siblings. -/
theorem Shuffled.map_perm {β : Type} {entry : Scope → β}
    (hentry : ∀ (s : Scope) (nested : List Scope), entry s = entry { s with nested })
    {scopes scopes' : List Scope} (h : Shuffled scopes scopes') :
  (scopes.map entry).Perm (scopes'.map entry)
  := by
  induction h with
  | nil => apply List.Perm.refl
  | @cons s nested _ _ _ _ _ ih =>
      rw [List.map_cons, List.map_cons, hentry s nested]
      apply ih.cons
  | swap => apply List.Perm.swap
  | trans _ _ ih ih' => apply ih.trans ih'

/-- Reorderings have the same scopes below the same parents. -/
theorem Reordered.descent_perm {s t : Scope} (h : Reordered s t) :
  (descent s).Perm (descent t)
  := by
  apply h.flatMap_perm
  intro path s nested hnested
  apply hnested.map_perm
  intro d nested
  rfl

end Scope

end BoxDiagram
