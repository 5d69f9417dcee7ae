import BoxDiagram.Proofs.Files.Folders

/-!
# Saving files

Data saved at a path are in the file at its place, the file beside it is gone, and every other
file is as it was.  Whether data can be saved depends on the folders alone, and saving changes
none of them.
-/

namespace BoxDiagram.FileTree

variable {tree tree' : FileTree} {p : Path} {place other beside target : Place}
variable {data : Bytes}

/-! ### Changing a file -/

theorem lookup_cons_eq_ite (q : Place) (d : Bytes) (files : List (Place × Bytes)) :
  List.lookup place ((q, d) :: files) = if place = q then some d else List.lookup place files
  := by
  by_cases h : place = q
  · rw [h, List.lookup_cons_self, if_pos rfl]
  · rw [List.lookup_cons, beq_false_of_ne h, if_neg h]

/-- Other data at a place, if a file is there. -/
theorem lookup_map (files : List (Place × Bytes)) :
  List.lookup other (files.map fun (q, d) => if q == place then (q, data) else (q, d))
    = (List.lookup other files).map fun d => if other = place then data else d
  := by
  induction files with
  | nil => rfl
  | cons file files ih =>
      obtain ⟨q, d⟩ := file
      rw [List.map_cons, lookup_cons_eq_ite, lookup_cons_eq_ite, ih]
      by_cases hq : q = place
      · rw [hq]
        by_cases hother : other = place <;> simp [hother]
      · by_cases hother : other = q <;> simp [hq, hother]

theorem isSome_lookup (files : List (Place × Bytes)) :
  (List.lookup place files).isSome = files.any (·.1 == place)
  := by
  rw [Bool.eq_iff_iff, List.lookup_isSome_iff, List.any_eq_true]
  simp only [beq_iff_eq, @eq_comm _ place]

theorem lookup_setFile_self :
  List.lookup place (tree.setFile place data).files = some data
  := by
  rw [setFile]
  split
  · next hany =>
    rw [← isSome_lookup, Option.isSome_iff_exists] at hany
    obtain ⟨d, hd⟩ := hany
    rw [lookup_map, hd, Option.map_some, if_pos rfl]
  · next hany =>
    rw [← isSome_lookup, Option.not_isSome_iff_eq_none] at hany
    rw [List.lookup_append, hany, Option.none_or, List.lookup_cons_self]

theorem lookup_setFile_of_ne (h : other ≠ place) :
  List.lookup other (tree.setFile place data).files = List.lookup other tree.files
  := by
  rw [setFile]
  split
  · simp only [lookup_map, if_neg h, Option.map_id']
  · rw [List.lookup_append, lookup_cons_eq_ite, if_neg h, List.lookup_nil, Option.or_none]

theorem lookup_removeFile_self :
  List.lookup place (tree.removeFile place).files = none
  := by
  rw [← Option.not_isSome_iff_eq_none, isSome_lookup, removeFile, List.any_filter]
  simp

theorem lookup_removeFile_of_ne (h : other ≠ place) :
  List.lookup other (tree.removeFile place).files = List.lookup other tree.files
  := by
  rw [removeFile]
  induction tree.files with
  | nil => rfl
  | cons file files ih =>
      obtain ⟨q, d⟩ := file
      rw [List.filter_cons, lookup_cons_eq_ite, ← ih]
      by_cases hq : q = place
      · rw [if_neg (by simpa using hq), hq, if_neg h]
      · rw [if_pos (by simpa using hq), lookup_cons_eq_ite]

@[simp]
theorem working_setFile :
  (tree.setFile place data).working = tree.working
  := by
  rw [setFile]
  split <;> rfl

@[simp]
theorem folders_setFile :
  (tree.setFile place data).folders = tree.folders
  := by
  rw [setFile]
  split <;> rfl

/-- The file that is set has the data, unless a folder stands there. -/
theorem entry?_setFile_self (h : tree.entry? place ≠ some .folder) :
  entry? (tree.setFile place data) place = some (.file data)
  := by
  rw [Ne, entry?_eq_folder, not_or] at h
  apply entry?_eq_file.mpr
  rw [folders_setFile]
  use h.1, h.2, lookup_setFile_self

/-- Nothing else changes when a file is set. -/
theorem entry?_setFile_of_ne (h : other ≠ place) :
  entry? (tree.setFile place data) other = tree.entry? other
  := by
  cases other with
  | nil => rfl
  | cons name names => simp [entry?_of_ne_nil, lookup_setFile_of_ne h]

/-- Nothing else changes when a file is removed. -/
theorem entry?_removeFile_of_ne (h : other ≠ place) :
  entry? (tree.removeFile place) other = tree.entry? other
  := by
  cases other with
  | nil => rfl
  | cons name names =>
      rw [entry?_of_ne_nil (by simp), entry?_of_ne_nil (by simp), lookup_removeFile_of_ne h]
      rfl

theorem entry?_removeFile_ne_file :
  entry? (tree.removeFile place) place ≠ some (.file data)
  := by
  intro h
  obtain ⟨-, -, hlookup⟩ := entry?_eq_file.mp h
  rw [lookup_removeFile_self] at hlookup
  contradiction

/-- The ending of the name of a file beside another. -/
def besideEnding : Text := ['.', 't', 'm', 'p']

/-! ### The steps of saving -/

/-- Data can be written where a path leads and no folder stands. -/
theorem write_eq_ok :
  tree.write p data = .ok tree'
    ↔ ∃ place, tree.placeOf p = .ok place ∧ tree.entry? place ≠ some .folder
      ∧ tree.setFile place data = tree'
  := by
  rw [write]
  cases tree.placeOf p with
  | error e => simp
  | ok place =>
      simp only [Except.ok.injEq, exists_eq_left']
      split
      · next hfolder => simp [hfolder]
      · next hfree =>
        have hfree' : tree.entry? place ≠ some .folder := hfree
        simp [hfree']

/-- A file can be moved to a place without a folder, if neither path ends with a step up. -/
theorem replace_eq_ok {q : Path} :
  tree.replace q p = .ok tree'
    ↔ q.name ≠ stepUp ∧ p.name ≠ stepUp ∧ ∃ beside target data, tree.placeOf q = .ok beside
      ∧ tree.placeOf p = .ok target ∧ tree.entry? beside = some (.file data)
      ∧ tree.entry? target ≠ some .folder
      ∧ (tree.removeFile beside).setFile target data = tree'
  := by
  rw [replace]
  cases tree.placeOf q with
  | error e => simp
  | ok beside =>
      cases tree.placeOf p with
      | error e => simp
      | ok target =>
          by_cases hq : q.name = stepUp
          · simp [hq]
          · by_cases hp : p.name = stepUp
            · simp [hp]
            · cases hbeside : tree.entry? beside with
              | none => simp [hq, hp, hbeside]
              | some entry =>
                  cases entry with
                  | folder => simp [hq, hp, hbeside]
                  | file data =>
                      cases htarget : tree.entry? target with
                      | none => simp [hq, hp, hbeside, htarget]
                      | some entry => cases entry <;> simp [hq, hp, hbeside, htarget]

/-- Before data are saved the folder is made, and the file beside it is named. -/
theorem prepare_eq_ok {q : Path} :
  tree.prepare p = (tree', .ok q)
    ↔ tree.makeFolders p.parent = .ok tree' ∧ p.withSuffix? (p.suffix ++ besideEnding) = some q
  := by
  rw [prepare, ← besideEnding]
  cases tree.makeFolders p.parent with
  | error e => simp
  | ok made => cases p.withSuffix? (p.suffix ++ besideEnding) <;> simp

/-- Data are saved if they can be written beside the file, and that can be moved. -/
theorem save_eq_none :
  tree.save p data = (tree', none)
    ↔ ∃ made q written, tree.prepare p = (made, .ok q) ∧ made.write q data = .ok written
      ∧ written.replace q p = .ok tree'
  := by
  rw [save]
  cases tree.prepare p with
  | mk made beside =>
      cases beside with
      | error e => simp
      | ok q =>
          cases hwrite : made.write q data with
          | error e => simp [hwrite]
          | ok written =>
              constructor
              · intro h
                use made, q, written, rfl, hwrite
                cases hreplace : written.replace q p <;> simp_all
              · rintro ⟨made', q', written', hprepare, hwrite', hreplace⟩
                obtain ⟨rfl, hq⟩ := Prod.mk.inj hprepare
                obtain rfl := Except.ok.inj hq
                rw [hwrite] at hwrite'
                obtain rfl := Except.ok.inj hwrite'
                simp only [hwrite, hreplace]

/-! ### Saving -/

/-- The tree after data were written to a file and that was moved to another place. -/
def saved (tree : FileTree) (beside target : Place) (data : Bytes) : FileTree :=
  ((tree.setFile beside data).removeFile beside).setFile target data

@[simp]
theorem working_saved :
  (tree.saved beside target data).working = tree.working
  := by
  rw [saved, working_setFile, removeFile, working_setFile]

@[simp]
theorem folders_saved :
  (tree.saved beside target data).folders = tree.folders
  := by
  rw [saved, folders_setFile, removeFile, folders_setFile]

/-- The data are saved. -/
theorem entry?_saved_target (h : tree.entry? target ≠ some .folder) :
  entry? (tree.saved beside target data) target = some (.file data)
  := by
  apply entry?_setFile_self
  rw [Ne, entry?_eq_folder] at h ⊢
  rwa [removeFile, folders_setFile]

/-- The file beside the saved one is gone. -/
theorem entry?_saved_beside (hne : beside ≠ target) (h : tree.entry? beside ≠ some .folder) :
  entry? (tree.saved beside target data) beside = none
  := by
  rw [Ne, entry?_eq_folder, not_or] at h
  have hfolder : (tree.saved beside target data).folders.contains beside = false := by
    rw [folders_saved]
    simpa using h.2
  rw [entry?_of_ne_nil h.1, hfolder, saved, lookup_setFile_of_ne hne, lookup_removeFile_self]
  rfl

/-- Saving changes nothing but the file and the one beside it. -/
theorem entry?_saved_of_ne (htarget : other ≠ target) (hbeside : other ≠ beside) :
  entry? (tree.saved beside target data) other = tree.entry? other
  := by
  rw [saved, entry?_setFile_of_ne htarget, entry?_removeFile_of_ne hbeside,
    entry?_setFile_of_ne hbeside]

/-- Every file after saving was there before or is the one that was saved. -/
theorem entry?_saved_eq_file {data' : Bytes}
    (h : entry? (tree.saved beside target data) other = some (.file data')) :
  tree.entry? other = some (.file data') ∨ (other = target ∧ data' = data)
  := by
  by_cases htarget : other = target
  · right
    use htarget
    obtain ⟨-, -, hlookup⟩ := entry?_eq_file.mp h
    rw [htarget, saved, lookup_setFile_self] at hlookup
    apply (Option.some.inj hlookup).symm
  · left
    by_cases hbeside : other = beside
    · rw [saved, entry?_setFile_of_ne htarget, hbeside] at h
      exact absurd h entry?_removeFile_ne_file
    · rwa [entry?_saved_of_ne htarget hbeside] at h

/-- What is asked of a tree so that data can be saved at a path: its folder is there, and its
place, and the one of the file beside it, are found and hold no folders. -/
structure Savable (tree : FileTree) (p : Path) (beside target : Place) : Prop where
  folder : tree.HasFolderAt p.parent
  besidePlace : ∃ q, p.withSuffix? (p.suffix ++ besideEnding) = some q ∧ q.name ≠ stepUp
    ∧ tree.placeOf q = .ok beside
  name : p.name ≠ stepUp
  targetPlace : tree.placeOf p = .ok target
  besideFree : tree.entry? beside ≠ some .folder
  targetFree : tree.entry? target ≠ some .folder

/-- Whether data can be saved depends on the folders alone. -/
theorem Savable.of_folders (h : tree.Savable p beside target)
    (hworking : tree'.working = tree.working) (hfolders : tree'.folders = tree.folders) :
  tree'.Savable p beside target
  := by
  obtain ⟨q, hq, hname, hplace⟩ := h.besidePlace
  constructor
  case folder =>
    apply h.folder.of_folders hworking
    rw [hfolders]
    apply List.Subset.refl
  case besidePlace => use q, hq, hname, (placeOf_eq_ok_iff hworking hfolders).mpr hplace
  case name => apply h.name
  case targetPlace => apply (placeOf_eq_ok_iff hworking hfolders).mpr h.targetPlace
  case besideFree =>
    rw [Ne, entry?_eq_folder_iff hfolders]
    apply h.besideFree
  case targetFree =>
    rw [Ne, entry?_eq_folder_iff hfolders]
    apply h.targetFree

/-- The path of the file beside the one at a path. -/
def besidePath (p : Path) : Path := p.parent.child (p.name ++ besideEnding)

theorem Savable.name_ne_nil (h : tree.Savable p beside target) :
  p.name ≠ []
  := by
  obtain ⟨q, hq, -⟩ := h.besidePlace
  apply (p.withSuffix?_eq_some.mp hq).1

theorem Savable.placeOf_besidePath (h : tree.Savable p beside target) :
  tree.placeOf (besidePath p) = .ok beside
  := by
  obtain ⟨q, hq, -, hplace⟩ := h.besidePlace
  rw [besidePath, (p.withSuffix?_eq_some.mp hq).2, hplace]

theorem Savable.getLast?_target (h : tree.Savable p beside target) :
  target.getLast? = some p.name
  := by
  apply getLast?_of_placeOf h.name
  rw [p.child_parent h.name_ne_nil]
  apply h.targetPlace

theorem Savable.getLast?_beside (h : tree.Savable p beside target) :
  beside.getLast? = some (p.name ++ besideEnding)
  := by
  obtain ⟨q, hq, hname, -⟩ := h.besidePlace
  rw [← (p.withSuffix?_eq_some.mp hq).2, Path.name_child] at hname
  apply getLast?_of_placeOf hname h.placeOf_besidePath

theorem Savable.beside_ne_target (h : tree.Savable p beside target) :
  beside ≠ target
  := by
  rintro rfl
  have hname := Option.some.inj (h.getLast?_beside.symm.trans h.getLast?_target)
  have hlength := congrArg List.length hname
  simp [besideEnding] at hlength

/-- Data can be saved once the folder is made, exactly if they are saved. -/
theorem save_eq_none_iff_savable :
  tree.save p data = (tree', none)
    ↔ ∃ made beside target, tree.makeFolders p.parent = .ok made ∧ made.Savable p beside target
      ∧ made.saved beside target data = tree'
  := by
  rw [save_eq_none]
  constructor
  · rintro ⟨made, q, written, hprepare, hwrite, hreplace⟩
    obtain ⟨hmade, hq⟩ := prepare_eq_ok.mp hprepare
    obtain ⟨beside, hbeside, hbesideFree, rfl⟩ := write_eq_ok.mp hwrite
    obtain ⟨hqname, hname, beside', target, data', hbeside', htarget, hfile, htargetFree, rfl⟩ :=
      replace_eq_ok.mp hreplace
    rw [placeOf_eq_ok_iff working_setFile folders_setFile] at hbeside' htarget
    rw [Ne, entry?_eq_folder_iff folders_setFile] at htargetFree
    obtain rfl := Except.ok.inj (hbeside.symm.trans hbeside')
    rw [entry?_setFile_self hbesideFree] at hfile
    obtain ⟨⟩ := hfile
    have hsavable : made.Savable p beside target :=
      ⟨(grown_makeFolders hmade).2, ⟨q, hq, hqname, hbeside⟩, hname, htarget, hbesideFree,
        htargetFree⟩
    refine ⟨made, beside, target, hmade, hsavable, rfl⟩
  · rintro ⟨made, beside, target, hmade, hsavable, rfl⟩
    obtain ⟨q, hq, hqname, hbeside⟩ := hsavable.besidePlace
    have hset : (made.setFile beside data).Savable p beside target :=
      hsavable.of_folders working_setFile folders_setFile
    use made, q, made.setFile beside data
    refine ⟨prepare_eq_ok.mpr ⟨hmade, hq⟩, ?written, ?replaced⟩
    case written => apply write_eq_ok.mpr ⟨beside, hbeside, hsavable.besideFree, rfl⟩
    case replaced =>
      have hbeside' : (made.setFile beside data).placeOf q = .ok beside :=
        (placeOf_eq_ok_iff working_setFile folders_setFile).mpr hbeside
      apply replace_eq_ok.mpr ⟨hqname, hsavable.name, beside, target, data, hbeside',
        hset.targetPlace, entry?_setFile_self hsavable.besideFree, hset.targetFree, rfl⟩

/-- Whether data are saved does not depend on the data. -/
theorem exists_save_of_save (h : (tree.save p data).2 = none) (data' : Bytes) :
  ∃ tree', tree.save p data' = (tree', none)
  := by
  obtain ⟨made, beside, target, hmade, hsavable, -⟩ :=
    save_eq_none_iff_savable.mp (Prod.ext rfl h : tree.save p data = (_, none))
  use made.saved beside target data'
  apply save_eq_none_iff_savable.mpr
  use made, beside, target

/-- What is left when data were put at a path: its file holds them, the file beside it is gone, and
every other file is as it was. -/
structure Put (tree tree' : FileTree) (p : Path) (data : Bytes) (beside target : Place) : Prop where
  targetPlace : tree'.placeOf p = .ok target
  besidePlace : tree'.placeOf (besidePath p) = .ok beside
  file : tree'.entry? target = some (.file data)
  gone : tree'.entry? beside = none
  others : ∀ other, other ≠ target → other ≠ beside → ∀ data',
    tree'.entry? other = some (.file data') ↔ tree.entry? other = some (.file data')

/-- Saving puts the data at the path. -/
theorem exists_put_of_save (h : tree.save p data = (tree', none)) :
  ∃ beside target, tree.Put tree' p data beside target
  := by
  obtain ⟨made, beside, target, hmade, hsavable, rfl⟩ := save_eq_none_iff_savable.mp h
  use beside, target
  constructor
  case targetPlace =>
    apply (placeOf_eq_ok_iff working_saved folders_saved).mpr hsavable.targetPlace
  case besidePlace =>
    apply (placeOf_eq_ok_iff working_saved folders_saved).mpr hsavable.placeOf_besidePath
  case file => apply entry?_saved_target hsavable.targetFree
  case gone => apply entry?_saved_beside hsavable.beside_ne_target hsavable.besideFree
  case others =>
    intro other htarget hbeside data'
    rw [entry?_saved_of_ne htarget hbeside, (grown_makeFolders hmade).1.entry?_eq_file]

/-- Where data can be saved, they are. -/
theorem Savable.save (h : tree.Savable p beside target) (data : Bytes) :
  tree.save p data = (tree.saved beside target data, none)
  := by
  apply save_eq_none_iff_savable.mpr
  use tree, beside, target, makeFolders_of_hasFolderAt h.folder, h

end BoxDiagram.FileTree
