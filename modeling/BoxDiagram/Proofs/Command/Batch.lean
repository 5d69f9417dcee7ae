import BoxDiagram.Proofs.Command.Actions

/-!
# Rendering all diagrams of a folder

A batch goes through the diagram files in order.  A valid one is rendered to a file named for
its stem, and any other is told in a notice; only a notice that cannot be shown stops the batch.
So every file that a batch writes is the output of a valid diagram, and the output of the last
valid diagram with a stem stays.  Valid diagrams that share a stem share a file, and all but the
last of them are lost.
-/

namespace BoxDiagram

namespace Action

/-! ### Outputs of a batch -/

/-- A diagram file without errors in its text. -/
def IsValid (d : Path × Text) : Prop := (Scope.ofText d.2).hasErrors = false

instance (d : Path × Text) : Decidable (IsValid d) :=
  inferInstanceAs (Decidable ((Scope.ofText d.2).hasErrors = false))

/-- The file that a batch renders a diagram file to. -/
def targetFor (outputs : Path) (format : Format) (d : Path × Text) : Path :=
  outputs.child (d.1.stem ++ format.suffix)

/-- What is said about a diagram file with errors. -/
def skippedNotice (d : Path × Text) : Text :=
  colored "red" "Skipped"
    (' ' :: d.1.text ++ ':' :: ' ' :: Text.join [';', ' '] (Scope.ofText d.2).messages)

/-- What is said when there are no diagram files. -/
def noneNotice (inputs : Path) : Text :=
  colored "yellow" (("No diagram files found in " : Text) ++ inputs.text) []

/-- In a session a diagram file can be rendered to its file: the places of that and of the file
beside it, and the data. -/
structure Output (kit : Toolkit) (settings : Settings) (outputs : Path) (format : Format)
    (s : Session) (d : Path × Text) (beside target : Place) (data : Bytes) : Prop where
  savable : s.tree.Savable (targetFor outputs format d) beside target
  rendered : ∃ t, settings.rendered s.fonts s.findFont (.ofText d.2)
    (targetFor outputs format d).stem format = .ok t ∧ t.encode = data
  shown : ∃ shown, kit.console.show? (writtenNotice (targetFor outputs format d)) = .ok shown

/-- A session with the fonts and the folders of another. -/
structure Alike (s u : Session) : Prop where
  fonts : u.fonts = s.fonts
  findFont : u.findFont = s.findFont
  working : u.tree.working = s.tree.working
  folders : u.tree.folders = s.tree.folders

variable {kit : Toolkit} {settings : Settings} {outputs : Path} {format : Format} {s u : Session}
variable {d e : Path × Text} {place beside target beside' target' : Place} {data data' : Bytes}

theorem Output.of_alike (h : Output kit settings outputs format s d beside target data)
    (hu : Alike s u) :
  Output kit settings outputs format u d beside target data
  := by
  constructor
  case savable => apply h.savable.of_folders hu.working hu.folders
  case rendered =>
    rw [hu.fonts, hu.findFont]
    apply h.rendered
  case shown => apply h.shown

/-- A diagram has one output at most. -/
theorem Output.unique (h : Output kit settings outputs format s d beside target data)
    (h' : Output kit settings outputs format s d beside' target' data') :
  target = target' ∧ data = data'
  := by
  constructor
  · apply Except.ok.inj (h.savable.targetPlace.symm.trans h'.savable.targetPlace)
  · obtain ⟨t, ht, rfl⟩ := h.rendered
    obtain ⟨t', ht', rfl⟩ := h'.rendered
    rw [Except.ok.inj (ht.symm.trans ht')]

theorem Output.getLast?_target (h : Output kit settings outputs format s d beside target data) :
  target.getLast? = some (d.1.stem ++ format.suffix)
  := by
  rw [h.savable.getLast?_target, targetFor, Path.name_child]

theorem Output.getLast?_beside (h : Output kit settings outputs format s d beside target data) :
  beside.getLast? = some (d.1.stem ++ format.suffix ++ FileTree.besideEnding)
  := by
  rw [h.savable.getLast?_beside, targetFor, Path.name_child]

/-- The outputs of diagrams with different stems are different files. -/
theorem Output.target_ne (h : Output kit settings outputs format s d beside target data)
    (h' : Output kit settings outputs format s e beside' target' data')
    (hstem : d.1.stem ≠ e.1.stem) :
  target ≠ target'
  := by
  rintro rfl
  apply hstem
  apply List.append_cancel_right
  apply Option.some.inj (h.getLast?_target.symm.trans h'.getLast?_target)

/-- No output is the file beside an output. -/
theorem Output.target_ne_beside (h : Output kit settings outputs format s d beside target data)
    (h' : Output kit settings outputs format s e beside' target' data') :
  target ≠ beside'
  := by
  rintro rfl
  have hname := Option.some.inj (h.getLast?_target.symm.trans h'.getLast?_beside)
  have hlast := congrArg List.getLast? hname
  have hending : List.getLast? FileTree.besideEnding = some 'p' := rfl
  obtain ⟨c, hc, hne⟩ : ∃ c, List.getLast? format.suffix = some c ∧ c ≠ 'p' := by
    cases format
    · use 'g', rfl
      decide
    · use 'w', rfl
      decide
  rw [List.getLast?_append, List.getLast?_append, hending, hc] at hlast
  apply hne (Option.some.inj hlast)

/-! ### A batch step by step -/

/-- What a batch does with some diagram files: the files before it, what it gives, and the files
after it. -/
inductive BatchRun (kit : Toolkit) (settings : Settings) (outputs : Path) (format : Format)
    (s : Session) : List (Path × Text) → FileTree → Except Stop Bool → FileTree → Prop where
  | done (tree : FileTree) : BatchRun kit settings outputs format s [] tree (.ok false) tree
  | rendered {d : Path × Text} {more : List (Path × Text)} {beside target : Place} {data : Bytes}
      {tree tree' : FileTree} {result : Except Stop Bool} :
      IsValid d → Output kit settings outputs format s d beside target data →
      BatchRun kit settings outputs format s more (tree.saved beside target data) result tree' →
      BatchRun kit settings outputs format s (d :: more) tree result tree'
  | skipped {d : Path × Text} {more : List (Path × Text)} {shown : Text}
      {tree tree' : FileTree} {result : Except Stop Bool} :
      ¬ IsValid d → kit.console.show? (skippedNotice d) = .ok shown →
      BatchRun kit settings outputs format s more tree result tree' →
      BatchRun kit settings outputs format s (d :: more) tree ((fun _ => true) <$> result) tree'
  | stopped {d : Path × Text} {more : List (Path × Text)} {e : MarkupError}
      {tree : FileTree} :
      ¬ IsValid d → kit.console.show? (skippedNotice d) = .error e →
      BatchRun kit settings outputs format s (d :: more) tree (.error (.failure (.markup e))) tree

variable {diagrams : List (Path × Text)} {tree tree' : FileTree} {result : Except Stop Bool}

/-- A batch takes one diagram, by rendering it or by a notice about it, and then the others. -/
theorem renderEach_cons (d : Path × Text) (more : List (Path × Text)) :
  renderEach settings format outputs (d :: more)
    = (if IsValid d then renderTo settings (.ofText d.2) format (targetFor outputs format d)
        else print (skippedNotice d)) >>= fun _ =>
      (fun others => (Scope.ofText d.2).hasErrors || others)
        <$> renderEach settings format outputs more
  := by
  obtain ⟨path, t⟩ := d
  rw [renderEach, ← bind_pure_comp]
  by_cases hvalid : IsValid (path, t)
  · have hnone : (Scope.ofText t).hasErrors = false := hvalid
    rw [if_pos hvalid]
    simp only [hnone, Bool.false_eq_true, if_false]
    rfl
  · have hfaulty : (Scope.ofText t).hasErrors = true := by
      simpa [IsValid] using hvalid
    rw [if_neg hvalid]
    simp only [hfaulty, if_true]
    rfl

/-- A batch goes through the first diagrams and then through the others. -/
theorem renderEach_append (front back : List (Path × Text)) :
  renderEach settings format outputs (front ++ back)
    = renderEach settings format outputs front >>= fun faulty =>
      (fun others => faulty || others) <$> renderEach settings format outputs back
  := by
  induction front with
  | nil => simp [renderEach]
  | cons d front ih =>
      rw [List.cons_append, renderEach_cons, renderEach_cons, ih]
      simp only [map_bind, Functor.map_map, bind_assoc, bind_map_left, Bool.or_assoc]

theorem run_renderEach_of_valid (hd : IsValid d) (more : List (Path × Text)) {u' : Session}
    (h : (renderTo settings (.ofText d.2) format (targetFor outputs format d)).runOn kit u
      = (.ok (), u')) :
  (renderEach settings format outputs (d :: more)).runOn kit u
    = (renderEach settings format outputs more).runOn kit u'
  := by
  have hvalid : (Scope.ofText d.2).hasErrors = false := hd
  rw [renderEach_cons, if_pos hd, run_bind, h]
  simp only [hvalid, Bool.false_or, id_map']

theorem run_renderEach_of_not_valid (hd : ¬ IsValid d) (more : List (Path × Text)) :
  (renderEach settings format outputs (d :: more)).runOn kit u
    = match kit.console.show? (skippedNotice d) with
      | .error e => (.error (.failure (.markup e)), u)
      | .ok shown =>
        let (result, u') := (renderEach settings format outputs more).runOn kit
          { u with printed := u.printed ++ shown ++ ['\n'] }
        ((fun _ => true) <$> result, u')
  := by
  have hfaulty : (Scope.ofText d.2).hasErrors = true := by
    simpa [IsValid] using hd
  rw [renderEach_cons, if_neg hd, run_bind, run_print]
  cases kit.console.show? (skippedNotice d) with
  | error e => rfl
  | ok shown =>
      simp only
      rw [run_map, hfaulty]
      simp only [Bool.true_or]

/-- If every valid diagram has an output, a batch goes through the diagrams step by step. -/
theorem exists_batchRun
    (h : ∀ d ∈ diagrams, IsValid d →
      ∃ beside target data, Output kit settings outputs format s d beside target data)
    (hu : Alike s u) :
  ∃ result u', (renderEach settings format outputs diagrams).runOn kit u = (result, u')
    ∧ BatchRun kit settings outputs format s diagrams u.tree result u'.tree
  := by
  induction diagrams generalizing u with
  | nil =>
      use .ok false, u
      constructor
      · rfl
      · apply BatchRun.done
  | cons d more ih =>
      obtain ⟨hd, hmore⟩ := List.forall_mem_cons.mp h
      by_cases hvalid : IsValid d
      · obtain ⟨beside, target, data, houtput⟩ := hd hvalid
        have houtput' := houtput.of_alike hu
        obtain ⟨t, ht, rfl⟩ := houtput'.rendered
        obtain ⟨shown, hshown⟩ := houtput'.shown
        have hrun := renderTo_eq_ok.mpr
          ⟨t, _, shown, ht, houtput'.savable.save t.encode, hshown, rfl⟩
        have hu' : Alike s { u with
            tree := u.tree.saved beside target t.encode,
            printed := u.printed ++ shown ++ ['\n'] } := by
          constructor
          case fonts => apply hu.fonts
          case findFont => apply hu.findFont
          case working => rw [FileTree.working_saved, hu.working]
          case folders => rw [FileTree.folders_saved, hu.folders]
        obtain ⟨result, u', hresult, hbatch⟩ := ih hmore hu'
        use result, u'
        constructor
        · rw [run_renderEach_of_valid hvalid more hrun, hresult]
        · apply BatchRun.rendered hvalid houtput hbatch
      · cases hshown : kit.console.show? (skippedNotice d) with
        | error e =>
            use .error (.failure (.markup e)), u
            constructor
            · rw [run_renderEach_of_not_valid hvalid, hshown]
            · apply BatchRun.stopped hvalid hshown
        | ok shown =>
            have hu' : Alike s { u with printed := u.printed ++ shown ++ ['\n'] } :=
              ⟨hu.fonts, hu.findFont, hu.working, hu.folders⟩
            obtain ⟨result, u', hresult, hbatch⟩ := ih hmore hu'
            use (fun _ => true) <$> result, u'
            constructor
            · rw [run_renderEach_of_not_valid hvalid, hshown]
              simp only [hresult]
            · apply BatchRun.skipped hvalid hshown hbatch

/-! ### What a batch leaves -/

/-- Whether some diagram files have errors. -/
def anyFaulty (diagrams : List (Path × Text)) : Bool := diagrams.any fun d => !decide (IsValid d)

theorem anyFaulty_iff :
  anyFaulty diagrams = true ↔ ∃ d ∈ diagrams, ¬ IsValid d
  := by
  simp [anyFaulty]

theorem anyFaulty_cons_of_valid (hd : IsValid d) (more : List (Path × Text)) :
  anyFaulty (d :: more) = anyFaulty more
  := by
  simp [anyFaulty, hd]

theorem anyFaulty_cons_of_not_valid (hd : ¬ IsValid d) (more : List (Path × Text)) :
  anyFaulty (d :: more) = true
  := by
  simp [anyFaulty, hd]

/-- A batch says whether there are diagrams with errors; if it is stopped, there are some. -/
theorem BatchRun.result_cases
    (h : BatchRun kit settings outputs format s diagrams tree result tree') :
  result = .ok (anyFaulty diagrams)
    ∨ (anyFaulty diagrams = true ∧ ∃ e, result = .error (.failure e))
  := by
  induction h with
  | done => apply Or.inl rfl
  | rendered hd _ _ ih =>
      rw [anyFaulty_cons_of_valid hd]
      apply ih
  | skipped hd _ _ ih =>
      rw [anyFaulty_cons_of_not_valid hd]
      obtain rfl | ⟨-, e, rfl⟩ := ih
      · apply Or.inl rfl
      · apply Or.inr ⟨rfl, e, rfl⟩
  | @stopped d more e tree hd _ =>
      rw [anyFaulty_cons_of_not_valid hd]
      apply Or.inr ⟨rfl, .markup e, rfl⟩

/-- If all notices can be shown, a batch goes through all its diagrams. -/
theorem BatchRun.result_of_shown
    (h : BatchRun kit settings outputs format s diagrams tree result tree')
    (hshown : ∀ d ∈ diagrams, ¬ IsValid d →
      ∃ shown, kit.console.show? (skippedNotice d) = .ok shown) :
  result = .ok (anyFaulty diagrams)
  := by
  induction h with
  | done => rfl
  | rendered hd _ _ ih =>
      rw [anyFaulty_cons_of_valid hd]
      apply ih (List.forall_mem_cons.mp hshown).2
  | skipped hd _ _ ih =>
      rw [anyFaulty_cons_of_not_valid hd, ih (List.forall_mem_cons.mp hshown).2]
      rfl
  | @stopped d more e tree hd hstop =>
      obtain ⟨shown, hshow⟩ := hshown d List.mem_cons_self hd
      rw [hstop] at hshow
      contradiction

/-- Every file after a batch was there before or is the output of a valid diagram. -/
theorem BatchRun.entry?_eq_file
    (h : BatchRun kit settings outputs format s diagrams tree result tree')
    (hfile : tree'.entry? place = some (.file data)) :
  tree.entry? place = some (.file data)
    ∨ ∃ d ∈ diagrams, IsValid d
      ∧ ∃ beside, Output kit settings outputs format s d beside place data
  := by
  induction h with
  | done => apply Or.inl hfile
  | @rendered d more beside target written tree tree' result hd houtput _ ih =>
      obtain hsaved | ⟨e, he, hout⟩ := ih hfile
      · obtain hfile | ⟨rfl, rfl⟩ := FileTree.entry?_saved_eq_file hsaved
        · apply Or.inl hfile
        · right
          use d, List.mem_cons_self, hd, beside
      · right
        use e, List.mem_cons_of_mem _ he
  | skipped _ _ _ ih =>
      obtain hfile | ⟨e, he, hout⟩ := ih hfile
      · apply Or.inl hfile
      · right
        use e, List.mem_cons_of_mem _ he
  | stopped => apply Or.inl hfile

/-- A batch makes no folders. -/
theorem BatchRun.folders
    (h : BatchRun kit settings outputs format s diagrams tree result tree') :
  tree'.working = tree.working ∧ tree'.folders = tree.folders
  := by
  induction h with
  | done => trivial
  | rendered _ _ _ ih => rwa [FileTree.working_saved, FileTree.folders_saved] at ih
  | skipped _ _ _ ih => apply ih
  | stopped => trivial

/-- A batch changes only the outputs of valid diagrams and the files beside them. -/
theorem BatchRun.entry?_of_ne
    (h : BatchRun kit settings outputs format s diagrams tree result tree')
    (hne : ∀ d ∈ diagrams, IsValid d → ∀ beside target data,
      Output kit settings outputs format s d beside target data →
        place ≠ target ∧ place ≠ beside) :
  tree'.entry? place = tree.entry? place
  := by
  induction h with
  | done => rfl
  | rendered hd houtput _ ih =>
      obtain ⟨hne, hmore⟩ := List.forall_mem_cons.mp hne
      obtain ⟨htarget, hbeside⟩ := hne hd _ _ _ houtput
      rw [ih hmore, FileTree.entry?_saved_of_ne htarget hbeside]
  | skipped _ _ _ ih => apply ih (List.forall_mem_cons.mp hne).2
  | stopped => rfl

/-- The output of the last valid diagram with a stem stays. -/
theorem BatchRun.entry?_last
    (h : BatchRun kit settings outputs format s diagrams tree result tree')
    (hfolders : tree.folders = s.tree.folders)
    (hshown : ∀ d ∈ diagrams, ¬ IsValid d →
      ∃ shown, kit.console.show? (skippedNotice d) = .ok shown)
    {front back : List (Path × Text)} (hsplit : diagrams = front ++ d :: back) (hd : IsValid d)
    (houtput : Output kit settings outputs format s d beside target data)
    (hlast : ∀ e ∈ back, IsValid e → e.1.stem ≠ d.1.stem) :
  tree'.entry? target = some (.file data)
  := by
  induction h generalizing front with
  | done => simp at hsplit
  | @rendered e more beside' target' data' tree tree' result he houtput' hmore ih =>
      cases front with
      | nil =>
          obtain ⟨rfl, rfl⟩ := List.cons.inj hsplit
          obtain ⟨rfl, rfl⟩ := houtput.unique houtput'
          have hfree : tree.entry? target ≠ some .folder := by
            rw [Ne, FileTree.entry?_eq_folder_iff hfolders]
            apply houtput.savable.targetFree
          rw [hmore.entry?_of_ne, FileTree.entry?_saved_target hfree]
          intro e' he' hvalid _ _ _ hout
          use houtput.target_ne hout (hlast e' he' hvalid).symm, houtput.target_ne_beside hout
      | cons e' front =>
          obtain ⟨rfl, rfl⟩ := List.cons.inj hsplit
          apply ih _ (List.forall_mem_cons.mp hshown).2 rfl
          rw [FileTree.folders_saved, hfolders]
  | skipped he _ _ ih =>
      cases front with
      | nil =>
          obtain ⟨rfl, rfl⟩ := List.cons.inj hsplit
          contradiction
      | cons e' front =>
          obtain ⟨rfl, rfl⟩ := List.cons.inj hsplit
          apply ih hfolders (List.forall_mem_cons.mp hshown).2 rfl
  | stopped he herror =>
      obtain ⟨shown, hshown⟩ := (List.forall_mem_cons.mp hshown).1 he
      rw [hshown] at herror
      contradiction

end Action

end BoxDiagram
