import BoxDiagram.Files.Tree
import Mathlib.Tactic.Use

/-!
# Folders in a tree of files

Where a path leads depends on the folders alone, and a path that leads somewhere leads there in
every tree with more folders.  Making folders only adds folders, and folders that are there are
not made again.
-/

namespace BoxDiagram

/-! ### Names of paths -/

namespace Path

variable (p : Path) (name : Text)

@[simp]
theorem parent_child : (p.child name).parent = p
  := by
  rw [parent, child, List.dropLast_concat]

@[simp]
theorem name_child : (p.child name).name = name
  := by
  simp [Path.name, child]

/-- A name is its stem and its suffix. -/
theorem splitName_append :
  (splitName name).1 ++ (splitName name).2 = name
  := by
  have hsplit := List.takeWhile_append_dropWhile (p := (· != '.')) (l := name.reverse)
  rw [splitName]
  split
  · apply List.append_nil
  · next h =>
    simp only [Bool.or_eq_true, beq_iff_eq, not_or, List.length_reverse] at h
    cases hrest : name.reverse.dropWhile (· != '.') with
    | nil =>
        rw [hrest, List.append_nil] at hsplit
        rw [hsplit, List.length_reverse] at h
        exact absurd rfl h.1.1
    | cons c rest =>
        have hdot : c = '.' := by
          have hhead := List.head?_dropWhile_not (· != '.') name.reverse
          rw [hrest] at hhead
          simpa using hhead
        rw [hrest, hdot] at hsplit
        have hname : name
            = rest.reverse ++ '.' :: (name.reverse.takeWhile (· != '.')).reverse := by
          have hreverse := congrArg List.reverse hsplit.symm
          simpa using hreverse
        generalize (name.reverse.takeWhile (· != '.')).reverse = suffix at hname ⊢
        rw [hname, List.length_append, List.length_cons]
        have hlen : rest.reverse.length + (suffix.length + 1) - suffix.length - 1
            = rest.reverse.length := by
          omega
        rw [hlen, List.take_left]

theorem stem_append_suffix :
  p.stem ++ p.suffix = p.name
  := splitName_append _

/-- A path with a name is the path of a file in its folder. -/
theorem child_parent (h : p.name ≠ []) :
  p.parent.child p.name = p
  := by
  obtain ⟨root, parts⟩ := p
  have hparts : parts ≠ [] := by
    rintro rfl
    apply h rfl
  rw [parent, child, Path.name]
  simp only [List.getLast?_eq_some_getLast hparts, Option.getD_some, List.dropLast_concat_getLast]

/-- The file beside a file with a name is found by the name with an ending behind it. -/
theorem withSuffix?_eq_some {q : Path} {ending : Text} :
  p.withSuffix? (p.suffix ++ ending) = some q
    ↔ p.name ≠ [] ∧ p.parent.child (p.name ++ ending) = q
  := by
  rw [withSuffix?, ← List.append_assoc, stem_append_suffix]
  by_cases h : p.name = [] <;> simp [h]

end Path

namespace FileTree

variable {tree tree' : FileTree} {p : Path} {place : Place}

theorem entry?_of_ne_nil (h : place ≠ []) :
  tree.entry? place
    = if tree.folders.contains place then some .folder
      else (List.lookup place tree.files).map .file
  := by
  cases place with
  | nil => contradiction
  | cons name place => rfl

/-- Folders are the root folder and those that are listed. -/
theorem entry?_eq_folder :
  tree.entry? place = some .folder ↔ place = [] ∨ place ∈ tree.folders
  := by
  by_cases h : place = []
  · rw [h]
    simp [FileTree.entry?]
  · rw [entry?_of_ne_nil h]
    by_cases hmem : place ∈ tree.folders
    · simp [hmem]
    · simp [h, hmem]

theorem entry?_eq_folder_iff (h : tree'.folders = tree.folders) :
  tree'.entry? place = some .folder ↔ tree.entry? place = some .folder
  := by
  rw [entry?_eq_folder, entry?_eq_folder, h]

/-- Files are those that are listed first for places without folders. -/
theorem entry?_eq_file {data : Bytes} :
  tree.entry? place = some (.file data)
    ↔ place ≠ [] ∧ place ∉ tree.folders ∧ List.lookup place tree.files = some data
  := by
  by_cases h : place = []
  · rw [h]
    simp [FileTree.entry?]
  · rw [entry?_of_ne_nil h]
    by_cases hmem : place ∈ tree.folders
    · simp [hmem]
    · simp [h, hmem]

/-! ### Where paths lead -/

/-- A path that leads somewhere leads there in a tree with more folders. -/
theorem follow_of_folders (h : tree.folders ⊆ tree'.folders) {folder : Place} {names : List Text}
    (hplace : tree.follow p folder names = .ok place) :
  tree'.follow p folder names = .ok place
  := by
  induction names generalizing folder with
  | nil => apply hplace
  | cons name names ih =>
      rw [follow] at hplace ⊢
      split at hplace
      · next hup =>
        rw [if_pos hup]
        apply ih hplace
      · next hup =>
        rw [if_neg hup]
        split at hplace
        · contradiction
        · next hshort =>
          rw [if_neg hshort]
          split at hplace
          · next hlast =>
            rw [if_pos hlast]
            apply hplace
          · next hlast =>
            rw [if_neg hlast]
            split at hplace
            · next hfolder =>
              have hfolder' := entry?_eq_folder.mpr ((entry?_eq_folder.mp hfolder).imp id (h ·))
              rw [hfolder']
              apply ih hplace
            · contradiction
            · contradiction

theorem placeOf_of_folders (hworking : tree'.working = tree.working)
    (h : tree.folders ⊆ tree'.folders) (hplace : tree.placeOf p = .ok place) :
  tree'.placeOf p = .ok place
  := by
  rw [placeOf] at hplace ⊢
  split at hplace
  · contradiction
  · next hnull =>
    rw [if_neg hnull]
    split at hplace
    · contradiction
    · next hshort =>
      rw [if_neg hshort, hworking]
      apply follow_of_folders h hplace

/-- Where paths lead depends on the folders alone. -/
theorem placeOf_eq_ok_iff (hworking : tree'.working = tree.working)
    (h : tree'.folders = tree.folders) :
  tree'.placeOf p = .ok place ↔ tree.placeOf p = .ok place
  := by
  constructor
  · apply placeOf_of_folders hworking.symm
    rw [h]
    apply List.Subset.refl
  · apply placeOf_of_folders hworking
    rw [h]
    apply List.Subset.refl

/-- The last name of a path is the last name on the way to its place. -/
theorem getLast?_of_follow {folder : Place} {names : List Text} {name : Text}
    (hname : name ≠ stepUp) (h : tree.follow p folder (names ++ [name]) = .ok place) :
  place.getLast? = some name
  := by
  induction names generalizing folder with
  | nil =>
      rw [List.nil_append, follow, if_neg (by simpa using hname)] at h
      split at h
      · contradiction
      · obtain rfl := Except.ok.inj h
        simp
  | cons first names ih =>
      rw [List.cons_append, follow] at h
      split at h
      · apply ih h
      · split at h
        · contradiction
        · rw [if_neg (by simp)] at h
          split at h
          · apply ih h
          · contradiction
          · contradiction

theorem getLast?_of_placeOf {name : Text} (hname : name ≠ stepUp)
    (h : tree.placeOf (p.child name) = .ok place) :
  place.getLast? = some name
  := by
  rw [placeOf] at h
  split at h
  · contradiction
  · split at h
    · contradiction
    · apply getLast?_of_follow hname h

/-! ### Making folders -/

/-- Some folders more, none in the place of a file, and the same files. -/
structure Grown (tree tree' : FileTree) : Prop where
  working : tree'.working = tree.working
  files : tree'.files = tree.files
  folders : tree.folders ⊆ tree'.folders
  kept : ∀ {place data}, tree.entry? place = some (.file data) → place ∉ tree'.folders

/-- The files in a grown tree are those that were there before. -/
theorem Grown.entry?_eq_file (h : tree.Grown tree') {data : Bytes} :
  tree'.entry? place = some (.file data) ↔ tree.entry? place = some (.file data)
  := by
  constructor
  · intro hfile
    obtain ⟨hne, hfolder, hlookup⟩ := FileTree.entry?_eq_file.mp hfile
    apply FileTree.entry?_eq_file.mpr
    refine ⟨hne, fun hmem => hfolder (h.folders hmem), ?_⟩
    rw [← h.files, hlookup]
  · intro hfile
    obtain ⟨hne, -, hlookup⟩ := FileTree.entry?_eq_file.mp hfile
    apply FileTree.entry?_eq_file.mpr
    refine ⟨hne, h.kept hfile, ?_⟩
    rw [h.files, hlookup]

theorem Grown.refl (tree : FileTree) :
  tree.Grown tree
  := ⟨rfl, rfl, List.Subset.refl _, fun hfile => (FileTree.entry?_eq_file.mp hfile).2.1⟩

theorem Grown.trans {tree'' : FileTree} (h : tree.Grown tree') (h' : tree'.Grown tree'') :
  tree.Grown tree''
  := by
  constructor
  case working => apply h'.working.trans h.working
  case files => apply h'.files.trans h.files
  case folders => apply List.Subset.trans h.folders h'.folders
  case kept =>
    intro place data hfile
    apply h'.kept (h.entry?_eq_file.mpr hfile)

/-- The folder at a path is there, as far as the path names one. -/
def HasFolderAt (tree : FileTree) (p : Path) : Prop :=
  p.parts = [] ∨ ∃ place, tree.placeOf p = .ok place ∧ tree.entry? place = some .folder

theorem HasFolderAt.of_folders (h : tree.HasFolderAt p) (hworking : tree'.working = tree.working)
    (hfolders : tree.folders ⊆ tree'.folders) :
  tree'.HasFolderAt p
  := by
  apply h.imp_right
  rintro ⟨place, hplace, hfolder⟩
  use place, placeOf_of_folders hworking hfolders hplace
  apply entry?_eq_folder.mpr ((entry?_eq_folder.mp hfolder).imp id (hfolders ·))

/-- A folder that is there is not made again. -/
theorem makeFolders_of_hasFolderAt (h : tree.HasFolderAt p) :
  tree.makeFolders p = .ok tree
  := by
  obtain hparts | ⟨place, hplace, hfolder⟩ := h
  · rw [makeFolders, hparts]
    rfl
  · rw [makeFolders]
    cases hnames : p.parts.reverse with
    | nil => rfl
    | cons name up =>
        have hp : (⟨p.root, (name :: up).reverse⟩ : Path) = p := by
          rw [← hnames, List.reverse_reverse]
        rw [makeFoldersUp]
        simp only [hp, makeFolder, hplace, hfolder]

theorem grown_addFolder (hentry : tree.entry? place = none) :
  tree.Grown (tree.addFolder place) ∧ entry? (tree.addFolder place) place = some .folder
  := by
  rw [addFolder, hentry]
  constructor
  · constructor
    case working => rfl
    case files => rfl
    case folders => apply List.subset_append_left
    case kept =>
      intro other data hfile hmem
      obtain hmem | hmem := List.mem_append.mp hmem
      · apply (FileTree.entry?_eq_file.mp hfile).2.1 hmem
      · rw [List.mem_singleton.mp hmem, hentry] at hfile
        contradiction
  · apply entry?_eq_folder.mpr
    simp

/-- Making a folder leaves the files and has the folder there. -/
theorem grown_makeFolder (h : tree.makeFolder p = .ok tree') :
  tree.Grown tree' ∧ tree'.HasFolderAt p
  := by
  rw [makeFolder] at h
  split at h
  · contradiction
  · next place hplace =>
    split at h
    · next hentry =>
      obtain rfl := Except.ok.inj h
      obtain ⟨hgrown, hfolder⟩ := grown_addFolder hentry
      use hgrown
      right
      use place, placeOf_of_folders hgrown.working hgrown.folders hplace
    · next hentry =>
      obtain rfl := Except.ok.inj h
      use Grown.refl tree
      right
      use place
    · contradiction

/-- Making folders leaves the files and has the folder there. -/
theorem grown_makeFoldersUp {root : Text} {names : List Text}
    (h : tree.makeFoldersUp root names = .ok tree') :
  tree.Grown tree' ∧ tree'.HasFolderAt ⟨root, names.reverse⟩
  := by
  induction names generalizing tree' with
  | nil =>
      obtain rfl := Except.ok.inj h
      use Grown.refl tree
      apply Or.inl rfl
  | cons name up ih =>
      rw [makeFoldersUp] at h
      split at h
      · split at h
        · contradiction
        · next hup =>
          obtain ⟨hgrown, -⟩ := ih hup
          obtain ⟨hgrown', hfolder⟩ := grown_makeFolder h
          use hgrown.trans hgrown'
      · apply grown_makeFolder h

theorem grown_makeFolders (h : tree.makeFolders p = .ok tree') :
  tree.Grown tree' ∧ tree'.HasFolderAt p
  := by
  have hp : (⟨p.root, p.parts.reverse.reverse⟩ : Path) = p := by rw [List.reverse_reverse]
  rw [← hp]
  apply grown_makeFoldersUp h

/-! ### Reading -/

/-- Data are read from the file where a path leads. -/
theorem read_eq_ok {data : Bytes} :
  tree.read p = .ok data
    ↔ ∃ place, tree.placeOf p = .ok place ∧ tree.entry? place = some (.file data)
  := by
  rw [read]
  cases tree.placeOf p with
  | error e => simp
  | ok place =>
      cases hentry : tree.entry? place with
      | none => simp [hentry]
      | some entry => cases entry <;> simp [hentry]

/-- A file that can be read is there. -/
theorem has_of_readText {t : Text} (h : tree.readText p = .ok t) :
  tree.has p = .ok true
  := by
  rw [readText] at h
  split at h
  · contradiction
  · next hread =>
    obtain ⟨place, hplace, hentry⟩ := read_eq_ok.mp hread
    rw [has, find, lookUp, hplace]
    change Except.ok (Option.isSome (tree.entry? place)) = _
    rw [hentry]
    rfl

end FileTree

end BoxDiagram
