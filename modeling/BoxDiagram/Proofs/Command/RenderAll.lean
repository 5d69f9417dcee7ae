import BoxDiagram.Proofs.Command.Batch
import BoxDiagram.Proofs.Command.Render
import Mathlib.Data.List.Nodup

/-!
# Rendering all diagrams keeps those with stems of their own

When all diagrams of a folder are rendered, the exit code says whether some have errors, and
every file that is written is what rendering one of the valid diagrams alone writes.  Each valid
diagram has an output of its own exactly if no two valid diagrams have the same stem: the names
of the outputs leave the suffix out, so a later diagram takes the place of an earlier one.
-/

namespace BoxDiagram

/-! ### Reading the diagrams -/

namespace FileTree

variable {tree : FileTree}

theorem readText_of_mem_mapM {paths : List Path} {diagrams : List (Path × Text)}
    (h : paths.mapM tree.readDiagram = .ok diagrams) :
  ∀ d ∈ diagrams, tree.readText d.1 = .ok d.2
  := by
  induction paths generalizing diagrams with
  | nil =>
      obtain rfl := Except.ok.inj h
      intro d hd
      contradiction
  | cons path paths ih =>
      rw [List.mapM_cons, readDiagram] at h
      cases hread : tree.readText path with
      | error e =>
          rw [hread] at h
          contradiction
      | ok t =>
          cases hmore : paths.mapM tree.readDiagram with
          | error e =>
              rw [hread, hmore] at h
              contradiction
          | ok more =>
              rw [hread, hmore] at h
              obtain rfl := Except.ok.inj h
              change ∀ d ∈ (path, t) :: more, tree.readText d.1 = .ok d.2
              rw [List.forall_mem_cons]
              use hread
              apply ih hmore

/-- The diagrams of a folder have the texts of their files. -/
theorem readText_of_mem_readDiagrams {folder : Path} {diagrams : List (Path × Text)}
    (h : tree.readDiagrams folder = .ok diagrams) :
  ∀ d ∈ diagrams, tree.readText d.1 = .ok d.2
  := by
  rw [readDiagrams] at h
  split at h
  · contradiction
  · apply readText_of_mem_mapM h

/-- The diagrams of a folder whose names come in order. -/
theorem readDiagrams_of_sorted {folder : Path} (place : Place) (names : List Text)
    {diagrams : List (Path × Text)} (hfolder : tree.folderAt folder = .ok (some place))
    (hnames : ((tree.folders ++ tree.files.map (·.1)).filter fun q =>
      q.dropLast == place && !q.isEmpty).filterMap List.getLast? = names)
    (hsorted : names.Pairwise fun t u => (!u.before t) = true)
    (hread : ((names.filter isDiagramName).map folder.child).mapM tree.readDiagram = .ok diagrams) :
  tree.readDiagrams folder = .ok diagrams
  := by
  have hsame : tree.namesIn place = names := by
    rw [namesIn, hnames]
    apply List.mergeSort_of_pairwise hsorted
  rw [readDiagrams, diagramPaths, hfolder]
  simp only
  rw [hsame, hread]

end FileTree

namespace Action

variable {kit : Toolkit} {settings : Settings} {inputs outputs : Path} {format : Format}
variable {config : Option Path} {s : Session} {d e : Path × Text} {diagrams : List (Path × Text)}

/-! ### Rendering one diagram alone -/

/-- Rendering a diagram file alone to its file in a folder. -/
def alone (kit : Toolkit) (outputs : Path) (format : Format) (config : Option Path) (s : Session)
    (d : Path × Text) : Except Stop Unit × Session :=
  (perform (.render d.1 (some (targetFor outputs format d)) format config)).runOn kit s

/-- A file that rendering a diagram alone writes. -/
def WrittenAlone (kit : Toolkit) (outputs : Path) (format : Format) (config : Option Path)
    (s : Session) (d : Path × Text) (place : Place) (data : Bytes) : Prop :=
  (alone kit outputs format config s d).2.tree.placeOf (targetFor outputs format d) = .ok place
    ∧ FileTree.entry? (alone kit outputs format config s d).2.tree place = some (.file data)

/-- The file of a diagram holds what rendering the diagram alone writes. -/
def HasOutput (kit : Toolkit) (outputs : Path) (format : Format) (config : Option Path)
    (s : Session) (after : FileTree) (d : Path × Text) : Prop :=
  ∃ data, (alone kit outputs format config s d).2.tree.read (targetFor outputs format d) = .ok data
    ∧ after.read (targetFor outputs format d) = .ok data

theorem targetFor_eq_iff :
  targetFor outputs format d = targetFor outputs format e ↔ d.1.stem = e.1.stem
  := by
  constructor
  · intro h
    have hname := congrArg Path.name h
    rw [targetFor, targetFor, Path.name_child, Path.name_child] at hname
    apply List.append_cancel_right hname
  · intro h
    rw [targetFor, targetFor, h]

/-- A diagram that can be read and has no errors is rendered to its file. -/
theorem alone_eq (hload : Settings.loadWith kit.settings s.tree s.env config = .ok settings)
    (hread : s.tree.readText d.1 = .ok d.2) (hd : IsValid d) :
  alone kit outputs format config s d
    = (renderTo settings (.ofText d.2) format (targetFor outputs format d)).runOn kit s
  := by
  rw [alone, perform, run_render hload hread hd]
  rfl

/-- A diagram that is rendered alone has an output once the folder is made. -/
theorem exists_output_of_alone
    (hload : Settings.loadWith kit.settings s.tree s.env config = .ok settings)
    (hread : s.tree.readText d.1 = .ok d.2) (hd : IsValid d)
    (h : (alone kit outputs format config s d).1 = .ok ()) :
  ∃ made beside target data, s.tree.makeFolders outputs = .ok made
    ∧ Output kit settings outputs format { s with tree := made } d beside target data
    ∧ (alone kit outputs format config s d).2.tree = made.saved beside target data
  := by
  obtain ⟨t, tree, shown, ht, hsave, hshown, hs⟩ :=
    renderTo_eq_ok.mp ((alone_eq hload hread hd).symm.trans (Prod.ext h rfl))
  obtain ⟨made, beside, target, hmade, hsavable, htree⟩ :=
    FileTree.save_eq_none_iff_savable.mp hsave
  rw [targetFor, Path.parent_child] at hmade
  refine ⟨made, beside, target, t.encode, hmade, ⟨hsavable, ⟨t, ht, rfl⟩, ⟨shown, hshown⟩⟩, ?_⟩
  rw [htree]
  apply (congrArg Session.tree hs).symm

/-- A diagram is always rendered as an Excalidraw document if text is measured without a font, its
file can be saved and the message can be shown. -/
theorem alone_excalidraw (hload : Settings.loadWith kit.settings s.tree s.env config = .ok settings)
    (hguessed : settings.measurer = .guessed) (hread : s.tree.readText d.1 = .ok d.2)
    (hd : IsValid d) (hsave : (s.tree.save (targetFor outputs .excalidraw d) []).2 = none)
    (hshown : ∃ shown,
      kit.console.show? (writtenNotice (targetFor outputs .excalidraw d)) = .ok shown) :
  (alone kit outputs .excalidraw config s d).1 = .ok ()
  := by
  obtain ⟨t, ht⟩ := exists_rendered_excalidraw hguessed hd s.fonts s.findFont
    (targetFor outputs .excalidraw d).stem
  obtain ⟨tree, htree⟩ := FileTree.exists_save_of_save hsave t.encode
  obtain ⟨shown, hshown⟩ := hshown
  rw [alone_eq hload hread hd, renderTo_eq_ok.mpr ⟨t, tree, shown, ht, htree, hshown, rfl⟩]

/-- All valid diagrams of a folder are rendered as Excalidraw documents if text is measured without
a font, the files can be saved and the messages can be shown. -/
theorem exists_settings_excalidraw
    (hguessed : (Settings.loadWith kit.settings s.tree s.env config).toOption.map (·.measurer)
      = some .guessed)
    (hread : s.tree.readDiagrams inputs = .ok diagrams)
    (hsave : ∀ d ∈ diagrams, (s.tree.save (targetFor outputs .excalidraw d) []).2 = none)
    (hshown : ∀ d ∈ diagrams,
      (kit.console.show? (writtenNotice (targetFor outputs .excalidraw d))).isOk = true) :
  ∃ settings, Settings.loadWith kit.settings s.tree s.env config = .ok settings
    ∧ ∀ d ∈ diagrams, IsValid d → (alone kit outputs .excalidraw config s d).1 = .ok ()
  := by
  cases hload : Settings.loadWith kit.settings s.tree s.env config with
  | error e =>
      rw [hload] at hguessed
      contradiction
  | ok settings =>
      use settings, rfl
      intro d hd hvalid
      have hmeasurer : settings.measurer = .guessed := by
        rw [hload] at hguessed
        apply Option.some.inj hguessed
      have hd' := FileTree.readText_of_mem_readDiagrams hread d hd
      apply alone_excalidraw hload hmeasurer hd' hvalid (hsave d hd)
      apply isOk_iff.mp (hshown d hd)

/-- What rendering a diagram alone writes is its output. -/
theorem writtenAlone_iff {made : FileTree} {beside target place : Place} {data data' : Bytes}
    (houtput : Output kit settings outputs format { s with tree := made } d beside target data)
    (htree : (alone kit outputs format config s d).2.tree = made.saved beside target data) :
  WrittenAlone kit outputs format config s d place data' ↔ place = target ∧ data' = data
  := by
  have hplace : (made.saved beside target data).placeOf (targetFor outputs format d) = .ok target :=
    (FileTree.placeOf_eq_ok_iff FileTree.working_saved FileTree.folders_saved).mpr
      houtput.savable.targetPlace
  have hfile : FileTree.entry? (made.saved beside target data) target = some (.file data) :=
    FileTree.entry?_saved_target houtput.savable.targetFree
  rw [WrittenAlone, htree, hplace]
  constructor
  · rintro ⟨hp, hentry⟩
    obtain rfl := Except.ok.inj hp
    rw [hfile] at hentry
    obtain ⟨⟩ := hentry
    trivial
  · rintro ⟨rfl, rfl⟩
    use rfl, hfile

/-! ### Running the batch -/

theorem run_renderAll (hload : Settings.loadWith kit.settings s.tree s.env config = .ok settings)
    (hread : s.tree.readDiagrams inputs = .ok diagrams) :
  (renderAll inputs outputs format config).runOn kit s
    = if diagrams.isEmpty then (print (noneNotice inputs)).runOn kit s
      else
        match s.tree.makeFolders outputs with
        | .error e => (.error (.failure (.file e)), s)
        | .ok made =>
          match (renderEach settings format outputs diagrams).runOn kit { s with tree := made } with
          | (.ok faulty, s') => (if faulty then .error (.exit 1) else .ok (), s')
          | (.error e, s') => (.error e, s')
  := by
  rw [renderAll, run_bind, run_loadSettings hload]
  simp only
  rw [run_bind, run_get]
  simp only
  rw [run_bind, run_orFail, hread]
  simp only [mapError_ok]
  split
  · rfl
  · rw [run_bind, run_orFail]
    cases s.tree.makeFolders outputs with
    | error e => rfl
    | ok made =>
        simp only [mapError_ok]
        rw [run_bind]
        change (renderEach settings format outputs diagrams >>= fun faulty =>
          if faulty then exit 1 else pure ()).runOn kit { s with tree := made } = _
        rw [run_bind]
        cases (renderEach settings format outputs diagrams).runOn kit { s with tree := made } with
        | mk result s' =>
            cases result with
            | error e => rfl
            | ok faulty => cases faulty <;> rfl

/-- A batch with diagram files goes through them once the folder is made; if that cannot be made, no
diagram is valid. -/
theorem renderAll_cases (hload : Settings.loadWith kit.settings s.tree s.env config = .ok settings)
    (hread : s.tree.readDiagrams inputs = .ok diagrams)
    (hrender : ∀ d ∈ diagrams, IsValid d → (alone kit outputs format config s d).1 = .ok ())
    (hne : diagrams ≠ []) :
  (∃ made result s', s.tree.makeFolders outputs = .ok made
      ∧ (∀ d ∈ diagrams, IsValid d → ∃ beside target data,
        Output kit settings outputs format { s with tree := made } d beside target data
          ∧ (alone kit outputs format config s d).2.tree = made.saved beside target data)
      ∧ BatchRun kit settings outputs format { s with tree := made } diagrams made result s'.tree
      ∧ (renderAll inputs outputs format config).runOn kit s
        = ((match result with
            | .ok faulty => if faulty then .error (.exit 1) else .ok ()
            | .error e => .error e), s'))
    ∨ ((∀ d ∈ diagrams, ¬ IsValid d)
      ∧ ∃ e, (renderAll inputs outputs format config).runOn kit s
        = (.error (.failure (.file e)), s))
  := by
  have hempty : ¬ diagrams.isEmpty = true := by simpa using hne
  have houtput : ∀ d ∈ diagrams, IsValid d → ∃ made beside target data,
      s.tree.makeFolders outputs = .ok made
        ∧ Output kit settings outputs format { s with tree := made } d beside target data
        ∧ (alone kit outputs format config s d).2.tree = made.saved beside target data := by
    intro d hd hvalid
    apply exists_output_of_alone hload (FileTree.readText_of_mem_readDiagrams hread d hd) hvalid
    apply hrender d hd hvalid
  rw [run_renderAll hload hread, if_neg hempty]
  cases hmake : s.tree.makeFolders outputs with
  | error e =>
      right
      constructor
      · intro d hd hvalid
        obtain ⟨made, -, -, -, hmade, -⟩ := houtput d hd hvalid
        rw [hmake] at hmade
        contradiction
      · use e
  | ok made =>
      left
      have houtput' : ∀ d ∈ diagrams, IsValid d → ∃ beside target data,
          Output kit settings outputs format { s with tree := made } d beside target data
            ∧ (alone kit outputs format config s d).2.tree = made.saved beside target data := by
        intro d hd hvalid
        obtain ⟨made', beside, target, data, hmade, h⟩ := houtput d hd hvalid
        rw [hmake] at hmade
        obtain rfl := Except.ok.inj hmade
        use beside, target, data
      have houtputs : ∀ d ∈ diagrams, IsValid d → ∃ beside target data,
          Output kit settings outputs format { s with tree := made } d beside target data := by
        intro d hd hvalid
        obtain ⟨beside, target, data, h, -⟩ := houtput' d hd hvalid
        use beside, target, data
      obtain ⟨result, s', hrun, hbatch⟩ := exists_batchRun houtputs ⟨rfl, rfl, rfl, rfl⟩
      refine ⟨made, result, s', rfl, houtput', hbatch, ?_⟩
      simp only [hrun]
      cases result <;> rfl

/-! ### What is left after a batch -/

/-- Every valid diagram has an output of its own: its file holds what rendering it alone writes, and
no other valid diagram has that file. -/
def AllKept (kit : Toolkit) (outputs : Path) (format : Format) (config : Option Path) (s : Session)
    (after : FileTree) (diagrams : List (Path × Text)) : Prop :=
  ∀ front d back, diagrams = front ++ d :: back → IsValid d →
    HasOutput kit outputs format config s after d
      ∧ ∀ e ∈ front ++ back, IsValid e → targetFor outputs format e ≠ targetFor outputs format d

/-- The exit code says whether there are diagrams with errors. -/
theorem exitCode_renderAll
    (hload : Settings.loadWith kit.settings s.tree s.env config = .ok settings)
    (hread : s.tree.readDiagrams inputs = .ok diagrams)
    (hrender : ∀ d ∈ diagrams, IsValid d → (alone kit outputs format config s d).1 = .ok ())
    (hnone : diagrams = [] → ∃ shown, kit.console.show? (noneNotice inputs) = .ok shown) :
  exitCode ((renderAll inputs outputs format config).runOn kit s).1
    = if anyFaulty diagrams then 1 else 0
  := by
  by_cases hne : diagrams = []
  · obtain ⟨shown, hshown⟩ := hnone hne
    rw [run_renderAll hload hread, hne, List.isEmpty_nil, if_pos rfl, run_print, hshown]
    rfl
  · obtain ⟨made, result, s', -, -, hbatch, hrun⟩ | ⟨hall, e, hrun⟩ :=
      renderAll_cases hload hread hrender hne
    · rw [hrun]
      obtain rfl | ⟨hfaulty, e, rfl⟩ := hbatch.result_cases
      · cases anyFaulty diagrams <;> rfl
      · rw [hfaulty]
        rfl
    · have hfaulty : anyFaulty diagrams = true := by
        obtain ⟨d, more, rfl⟩ := List.exists_cons_of_ne_nil hne
        apply anyFaulty_iff.mpr
        use d, List.mem_cons_self, hall d List.mem_cons_self
      rw [hrun, hfaulty]
      rfl

/-- Every file that is written is what rendering one of the valid diagrams alone writes. -/
theorem entry?_renderAll (hload : Settings.loadWith kit.settings s.tree s.env config = .ok settings)
    (hread : s.tree.readDiagrams inputs = .ok diagrams)
    (hrender : ∀ d ∈ diagrams, IsValid d → (alone kit outputs format config s d).1 = .ok ())
    {place : Place} {data : Bytes}
    (hfile : FileTree.entry? ((renderAll inputs outputs format config).runOn kit s).2.tree place
      = some (.file data)) :
  s.tree.entry? place = some (.file data)
    ∨ ∃ d ∈ diagrams, IsValid d ∧ WrittenAlone kit outputs format config s d place data
  := by
  by_cases hne : diagrams = []
  · left
    rw [run_renderAll hload hread, hne, List.isEmpty_nil, if_pos rfl, run_print] at hfile
    cases hshow : kit.console.show? (noneNotice inputs) <;> rw [hshow] at hfile <;> apply hfile
  · obtain ⟨made, result, s', hmade, houtput, hbatch, hrun⟩ | ⟨-, e, hrun⟩ :=
      renderAll_cases hload hread hrender hne
    · rw [hrun] at hfile
      obtain hfile | ⟨d, hd, hvalid, beside, hout⟩ := hbatch.entry?_eq_file hfile
      · left
        apply (FileTree.grown_makeFolders hmade).1.entry?_eq_file.mp hfile
      · right
        obtain ⟨beside', target, data', hout', htree⟩ := houtput d hd hvalid
        use d, hd, hvalid
        apply (writtenAlone_iff hout' htree).mpr (hout.unique hout')
    · left
      rw [hrun] at hfile
      apply hfile

/-- If all notices can be shown, the last valid diagram with a stem has its output. -/
theorem hasOutput_renderAll
    (hload : Settings.loadWith kit.settings s.tree s.env config = .ok settings)
    (hread : s.tree.readDiagrams inputs = .ok diagrams)
    (hrender : ∀ d ∈ diagrams, IsValid d → (alone kit outputs format config s d).1 = .ok ())
    (hshown : ∀ d ∈ diagrams, ¬ IsValid d →
      ∃ shown, kit.console.show? (skippedNotice d) = .ok shown)
    {front back : List (Path × Text)} (hsplit : diagrams = front ++ d :: back) (hd : IsValid d)
    (hlast : ∀ e ∈ back, IsValid e → e.1.stem ≠ d.1.stem) :
  HasOutput kit outputs format config s
    ((renderAll inputs outputs format config).runOn kit s).2.tree d
  := by
  have hmem : d ∈ diagrams := by
    rw [hsplit]
    simp
  obtain ⟨made, result, s', -, houtput, hbatch, hrun⟩ | ⟨hall, -⟩ :=
    renderAll_cases hload hread hrender (List.ne_nil_of_mem hmem)
  · obtain ⟨beside, target, data, hout, htree⟩ := houtput d hmem hd
    obtain ⟨hworking, hfolders⟩ := hbatch.folders
    use data
    constructor
    · apply FileTree.read_eq_ok.mpr
      use target
      apply (writtenAlone_iff hout htree).mpr ⟨rfl, rfl⟩
    · rw [hrun]
      apply FileTree.read_eq_ok.mpr
      use target
      constructor
      · apply (FileTree.placeOf_eq_ok_iff hworking hfolders).mpr hout.savable.targetPlace
      · apply hbatch.entry?_last rfl hshown hsplit hd hout hlast
  · exact absurd hd (hall d hmem)

/-! ### Outputs of their own -/

/-- A relation holds between every item and the later ones exactly if it holds pairwise. -/
theorem pairwise_iff_forall_split {α : Type} {R : α → α → Prop} {l : List α} :
  l.Pairwise R ↔ ∀ front a back, l = front ++ a :: back → ∀ b ∈ back, R a b
  := by
  constructor
  · rintro h front a back rfl b hb
    apply List.rel_of_pairwise_cons (List.pairwise_append.mp h).2.1 hb
  · intro h
    induction l with
    | nil => apply List.Pairwise.nil
    | cons a l ih =>
        apply List.pairwise_cons.mpr
        use h [] a l rfl
        apply ih
        rintro front b back rfl
        apply h (a :: front) b back rfl

/-- The stems of valid diagrams differ exactly if each differs from those of later ones. -/
theorem nodup_stems_iff :
  ((diagrams.filter fun d => IsValid d).map fun d => d.1.stem).Nodup
    ↔ ∀ front d back, diagrams = front ++ d :: back → ∀ e ∈ back,
      IsValid d → IsValid e → d.1.stem ≠ e.1.stem
  := by
  rw [← pairwise_iff_forall_split, List.Nodup, List.pairwise_map, List.pairwise_filter]
  simp only [decide_eq_true_eq]

/-- If all notices can be shown, all valid diagrams are kept exactly if their stems differ. -/
theorem allKept_renderAll_iff
    (hload : Settings.loadWith kit.settings s.tree s.env config = .ok settings)
    (hread : s.tree.readDiagrams inputs = .ok diagrams)
    (hrender : ∀ d ∈ diagrams, IsValid d → (alone kit outputs format config s d).1 = .ok ())
    (hshown : ∀ d ∈ diagrams, ¬ IsValid d →
      ∃ shown, kit.console.show? (skippedNotice d) = .ok shown) :
  AllKept kit outputs format config s
      ((renderAll inputs outputs format config).runOn kit s).2.tree diagrams
    ↔ ((diagrams.filter fun d => IsValid d).map fun d => d.1.stem).Nodup
  := by
  rw [nodup_stems_iff]
  constructor
  · intro h front d back hsplit e he hd hvalid hstem
    apply (h front d back hsplit hd).2 e (List.mem_append_right _ he) hvalid
    apply targetFor_eq_iff.mpr hstem.symm
  · intro h front d back hsplit hd
    constructor
    · apply hasOutput_renderAll hload hread hrender hshown hsplit hd
      intro e he hvalid
      apply (h front d back hsplit e he hd hvalid).symm
    · intro e he hvalid htarget
      have hstem := targetFor_eq_iff.mp htarget
      obtain he | he := List.mem_append.mp he
      · obtain ⟨front', middle, rfl⟩ := List.append_of_mem he
        apply h front' e (middle ++ d :: back) _ d _ hvalid hd hstem
        · rw [hsplit]
          simp
        · simp
      · apply h front d back hsplit e he hd hvalid hstem.symm

end Action

/-! ### The command line -/

open BoxDiagram.Action

theorem Toolkit.run_renderAll {kit : Toolkit} {arguments : List Text} {inputs outputs : Path}
    {format : Format} {config : Option Path}
    (h : kit.request arguments = .ok (.renderAll inputs outputs format config)) (s : Session) :
  (kit.run arguments s).1.code
      = exitCode ((renderAll inputs outputs format config).runOn kit s).1
    ∧ (kit.run arguments s).2 = ((renderAll inputs outputs format config).runOn kit s).2
  := kit.run_of_request h s

/-- Whatever commands rely on, when a folder is rendered whose diagrams can be read and rendered,
the exit code is one exactly if some diagram has errors, and every file that is written is what
rendering one of the valid diagrams alone writes; this asks that the notice can be shown if there
are no diagrams.  If all notices about diagrams with errors can be shown, the last valid diagram
with a stem has its output, and every valid diagram has an output of its own exactly if their stems
differ. -/
theorem renderAll_keeps_iff {kit : Toolkit} {arguments : List Text} {inputs outputs : Path}
    {format : Format} {config : Option Path} {s : Session} {settings : Settings}
    {diagrams : List (Path × Text)}
    (hrequest : kit.request arguments = .ok (.renderAll inputs outputs format config))
    (hload : Settings.loadWith kit.settings s.tree s.env config = .ok settings)
    (hread : s.tree.readDiagrams inputs = .ok diagrams)
    (hrender : ∀ d ∈ diagrams, IsValid d → (alone kit outputs format config s d).1 = .ok ()) :
  let outcome := (kit.run arguments s).1
  let after := (kit.run arguments s).2.tree
  ((diagrams = [] → ∃ shown, kit.console.show? (noneNotice inputs) = .ok shown) →
      (outcome.code = 1 ↔ ∃ d ∈ diagrams, ¬ IsValid d))
    ∧ (∀ place data, after.entry? place = some (.file data) →
      s.tree.entry? place = some (.file data)
        ∨ ∃ d ∈ diagrams, IsValid d ∧ WrittenAlone kit outputs format config s d place data)
    ∧ ((∀ d ∈ diagrams, ¬ IsValid d → ∃ shown, kit.console.show? (skippedNotice d) = .ok shown) →
      (∀ front d back, diagrams = front ++ d :: back → IsValid d →
          (∀ e ∈ back, IsValid e → e.1.stem ≠ d.1.stem) →
          HasOutput kit outputs format config s after d)
        ∧ (AllKept kit outputs format config s after diagrams
          ↔ ((diagrams.filter fun d => IsValid d).map fun d => d.1.stem).Nodup))
  := by
  intro outcome after
  obtain ⟨hcode, hsession⟩ := Toolkit.run_renderAll hrequest s
  have hafter : after = ((renderAll inputs outputs format config).runOn kit s).2.tree :=
    congrArg Session.tree hsession
  rw [hafter]
  refine ⟨?code, ?files, ?kept⟩
  case code =>
    intro hnone
    rw [hcode, exitCode_renderAll hload hread hrender hnone, ← anyFaulty_iff]
    cases anyFaulty diagrams <;> simp
  case files =>
    intro place data hfile
    apply entry?_renderAll hload hread hrender hfile
  case kept =>
    intro hshown
    constructor
    · intro front d back hsplit hd hlast
      apply hasOutput_renderAll hload hread hrender hshown hsplit hd hlast
    · apply allKept_renderAll_iff hload hread hrender hshown

/-- Two valid diagrams with stems of their own, and one with errors. -/
theorem renderAll_keeps_different_stems :
  let files : List (Place × Bytes) :=
    [(["a.txt"], Text.encode "layout:\n[x]\n"), (["b.boxdraft"], Text.encode "layout:\n[y]\n"),
      (["c.txt"], Text.encode "relations:\n")]
  let s : Session :=
    ⟨⟨[], [], [], files⟩, [("BOXDRAFT_MEASURER", "heuristic")], .none, fun _ => .ok none, []⟩
  let arguments : List Text :=
    ["render-all", "--input-dir", ".", "--output-dir", "out", "--format", "excalidraw"]
  let diagrams : List (Path × Text) :=
    [(⟨[], ["a.txt"]⟩, "layout:\n[x]\n"), (⟨[], ["b.boxdraft"]⟩, "layout:\n[y]\n"),
      (⟨[], ["c.txt"]⟩, "relations:\n")]
  (Toolkit.simple.run arguments s).1.code = 1
    ∧ AllKept Toolkit.simple ⟨[], ["out"]⟩ .excalidraw none s
      (Toolkit.simple.run arguments s).2.tree diagrams
  := by
  intro files s arguments diagrams
  have hrequest : Toolkit.simple.request arguments
      = .ok (.renderAll ⟨[], []⟩ ⟨[], ["out"]⟩ .excalidraw none) := by
    apply Toolkit.simple_request
    decide +kernel
  have hmeasurer : (Settings.loadWith Toolkit.simple.settings s.tree s.env none).toOption.map
      (·.measurer) = some .guessed := by
    decide +kernel
  have hread : s.tree.readDiagrams ⟨[], []⟩ = .ok diagrams := by
    apply FileTree.readDiagrams_of_sorted [] ["a.txt", "b.boxdraft", "c.txt"] <;> decide +kernel
  have hsave : ∀ d ∈ diagrams,
      (s.tree.save (targetFor ⟨[], ["out"]⟩ .excalidraw d) []).2 = none := by
    decide +kernel
  have hwritten : ∀ d ∈ diagrams,
      (Toolkit.simple.console.show?
        (writtenNotice (targetFor ⟨[], ["out"]⟩ .excalidraw d))).isOk = true := by
    decide +kernel
  have hskipped : ∀ d ∈ diagrams, (Toolkit.simple.console.show? (skippedNotice d)).isOk = true := by
    decide +kernel
  have hfaulty : ∃ d ∈ diagrams, ¬ IsValid d := by decide +kernel
  have hstems : ((diagrams.filter fun d => IsValid d).map fun d => d.1.stem).Nodup := by
    decide +kernel
  obtain ⟨settings, hload, hrender⟩ :=
    exists_settings_excalidraw hmeasurer hread hsave hwritten
  obtain ⟨hcode, -, hkept⟩ := renderAll_keeps_iff hrequest hload hread hrender
  refine ⟨(hcode ?_).mpr hfaulty, (hkept ?_).2.mpr hstems⟩
  case refine_1 =>
    intro hempty
    exact absurd hempty (List.cons_ne_nil _ _)
  case refine_2 =>
    intro d hd _
    apply isOk_iff.mp (hskipped d hd)

/-- Two valid diagrams with one stem: the command succeeds, but the output of the first is lost, and
every file that is written has the one name. -/
theorem renderAll_loses_same_stem :
  let files : List (Place × Bytes) :=
    [(["a.boxdraft"], Text.encode "layout:\n[x]\n"), (["a.txt"], Text.encode "layout:\n[y]\n")]
  let s : Session :=
    ⟨⟨[], [], [], files⟩, [("BOXDRAFT_MEASURER", "heuristic")], .none, fun _ => .ok none, []⟩
  let arguments : List Text :=
    ["render-all", "--input-dir", ".", "--output-dir", "out", "--format", "excalidraw"]
  let diagrams : List (Path × Text) :=
    [(⟨[], ["a.boxdraft"]⟩, "layout:\n[x]\n"), (⟨[], ["a.txt"]⟩, "layout:\n[y]\n")]
  s.tree.readDiagrams ⟨[], []⟩ = .ok diagrams
    ∧ (∃ settings, Settings.loadWith Toolkit.simple.settings s.tree s.env none = .ok settings)
    ∧ (∀ d ∈ diagrams, IsValid d
      ∧ (alone Toolkit.simple ⟨[], ["out"]⟩ .excalidraw none s d).1 = .ok ())
    ∧ (Toolkit.simple.run arguments s).1.code = 0
    ∧ ¬ AllKept Toolkit.simple ⟨[], ["out"]⟩ .excalidraw none s
      (Toolkit.simple.run arguments s).2.tree diagrams
    ∧ ∀ place data,
      FileTree.entry? (Toolkit.simple.run arguments s).2.tree place = some (.file data) →
      s.tree.entry? place = some (.file data) ∨ place.getLast? = some ("a.excalidraw" : Text)
  := by
  intro files s arguments diagrams
  have hrequest : Toolkit.simple.request arguments
      = .ok (.renderAll ⟨[], []⟩ ⟨[], ["out"]⟩ .excalidraw none) := by
    apply Toolkit.simple_request
    decide +kernel
  have hmeasurer : (Settings.loadWith Toolkit.simple.settings s.tree s.env none).toOption.map
      (·.measurer) = some .guessed := by
    decide +kernel
  have hread : s.tree.readDiagrams ⟨[], []⟩ = .ok diagrams := by
    apply FileTree.readDiagrams_of_sorted [] ["a.boxdraft", "a.txt"] <;> decide +kernel
  have hsave : ∀ d ∈ diagrams,
      (s.tree.save (targetFor ⟨[], ["out"]⟩ .excalidraw d) []).2 = none := by
    decide +kernel
  have hwritten : ∀ d ∈ diagrams,
      (Toolkit.simple.console.show?
        (writtenNotice (targetFor ⟨[], ["out"]⟩ .excalidraw d))).isOk = true := by
    decide +kernel
  have hvalid : ∀ d ∈ diagrams, IsValid d := by decide +kernel
  have hnone : anyFaulty diagrams = false := by decide +kernel
  have htarget : ∀ d ∈ diagrams,
      targetFor ⟨[], ["out"]⟩ .excalidraw d = Path.child ⟨[], ["out"]⟩ "a.excalidraw" := by
    decide +kernel
  have hstems : ¬ ((diagrams.filter fun d => IsValid d).map fun d => d.1.stem).Nodup := by
    decide +kernel
  obtain ⟨settings, hload, hrender⟩ :=
    exists_settings_excalidraw hmeasurer hread hsave hwritten
  obtain ⟨hcode, hsession⟩ := Toolkit.run_renderAll hrequest s
  rw [hcode, hsession]
  refine ⟨hread, ⟨settings, hload⟩, ?rendered, ?code, ?lost, ?files⟩
  case rendered =>
    intro d hd
    use hvalid d hd, hrender d hd (hvalid d hd)
  case code =>
    rw [exitCode_renderAll hload hread hrender, hnone]
    · rfl
    · intro hempty
      exact absurd hempty (List.cons_ne_nil _ _)
  case lost =>
    apply (allKept_renderAll_iff hload hread hrender _).not.mpr hstems
    intro d hd hd'
    exact absurd (hvalid d hd) hd'
  case files =>
    intro place data hfile
    obtain hfile | ⟨d, hd, -, hplace, -⟩ := entry?_renderAll hload hread hrender hfile
    · apply Or.inl hfile
    · right
      rw [htarget d hd] at hplace
      apply FileTree.getLast?_of_placeOf (by decide +kernel) hplace

end BoxDiagram
