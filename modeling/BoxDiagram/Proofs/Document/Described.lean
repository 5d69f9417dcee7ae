import BoxDiagram.Proofs.Document.Declaring

/-!
# The scopes that a text describes

The groups of a text hold plain sections only, so reading a text declares its references one
after the other.  Validation keeps every label and every path.  The scopes that a text
describes are therefore settled: a path leads to one of them at most.
-/

namespace BoxDiagram

namespace Scope

/-! ### Reading a text -/

/-- Reading blocks is reading the front ones and then the others. -/
theorem addBlocks_append (front back : List Block) (s : Scope) :
  addBlocks (front ++ back) s = addBlocks back (addBlocks front s)
  := by
  induction front generalizing s with
  | nil => rfl
  | cons block front ih => rw [List.cons_append, addBlocks, ih, addBlocks]

/-- Reading the references among sections keeps the nested scopes settled. -/
theorem settled_addBlocks_referenceGroups (sections : List Section) {s : Scope}
    (h : Settled s.nested) :
  Settled (addBlocks (referenceGroups sections) s).nested
  := by
  induction sections generalizing s with
  | nil => apply h
  | cons part sections ih =>
      rw [referenceGroups]
      split
      · rw [addBlocks]
        apply ih
        apply settled_addGroup h
      · apply ih h

/-- The scopes nested in what a text describes are settled before validation. -/
theorem settled_addBlocks_blocksOf (t : Text) :
  Settled (addBlocks (blocksOf t) (empty [])).nested
  := by
  rw [blocksOf, groupSections, addBlocks_append]
  apply settled_addBlocks_referenceGroups
  rw [addBlocks_plain]
  apply Settled.nil

/-! ### Validating -/

theorem validate_label (path : Text) (s : Scope) :
  (validate path s).label = s.label
  := by
  cases s
  rw [validate]

theorem validate_nested (path : Text) (s : Scope) :
  (validate path s).nested = validateNested path s.nested
  := by
  cases s
  rw [validate]

mutual

/-- Validation keeps the paths of a scope and all scopes below it. -/
theorem paths_validate (front path : Text) : ∀ s : Scope,
    (withPaths front (validate path s)).map Prod.fst = (withPaths front s).map Prod.fst
  | ⟨label, layout, relations, nested, messages⟩ => by
      rw [withPaths_eq, withPaths_eq, validate_nested, List.map_cons, List.map_cons,
        paths_validateNested front path nested]

/-- Validation keeps the paths of nested scopes. -/
theorem paths_validateNested (front path : Text) : ∀ scopes : List Scope,
    (nestedWithPaths front (validateNested path scopes)).map Prod.fst
      = (nestedWithPaths front scopes).map Prod.fst
  | [] => rfl
  | s :: scopes => by
      rw [validateNested, nestedWithPaths, nestedWithPaths, validate_label, List.map_append,
        List.map_append, paths_validate _ _ s, paths_validateNested front path scopes]

end

/-- Validated scopes are settled if they are settled before. -/
theorem Settled.validateNested {scopes : List Scope} (h : Settled scopes) (path : Text) :
  Settled (validateNested path scopes)
  := by
  induction h generalizing path with
  | nil => apply Settled.nil
  | @cons s scopes hs hn happart _ ihn ih =>
      rw [Scope.validateNested]
      apply Settled.cons
      · rw [validate_label]
        apply hs
      · rw [validate_nested]
        apply ihn
      · rw [validate_label, nestedPaths, paths_validateNested]
        apply happart
      · apply ih

/-- The scopes nested in what a text describes are settled. -/
theorem settled_ofText (t : Text) :
  Settled (ofText t).nested
  := by
  rw [ofText, validate_nested]
  apply (settled_addBlocks_blocksOf t).validateNested

end Scope

end BoxDiagram
