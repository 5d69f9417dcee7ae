import BoxDiagram.Proofs.Command.RenderAll

/-!
# Going on with a batch

A batch comes to a diagram when it has gone through those in front of it.  If the diagram has
errors and the notice about it can be shown, the batch goes on with the others; if not, it stops
there.  Either way the exit code is one.
-/

namespace BoxDiagram

namespace Action

variable {kit : Toolkit} {settings : Settings} {outputs : Path} {format : Format} {s u : Session}
variable {d : Path × Text} {front back : List (Path × Text)}

/-! ### Exit codes -/

/-- A part of a command that never ends it with an exit code. -/
def NeverExits {α : Type} (a : Action α) : Prop :=
  ∀ kit s code, (a.runOn kit s).1 ≠ .error (.exit code)

theorem NeverExits.bind {α β : Type} {a : Action α} {f : α → Action β} (ha : NeverExits a)
    (hf : ∀ x, NeverExits (f x)) :
  NeverExits (a >>= f)
  := by
  intro kit s code
  rw [run_bind]
  cases hrun : a.runOn kit s with
  | mk result s' =>
      cases result with
      | ok x => apply hf
      | error stop =>
          intro hstop
          apply ha kit s code
          rw [hrun, Except.error.inj hstop]

theorem neverExits_pure {α : Type} (x : α) :
  NeverExits (pure x : Action α)
  := by
  intro kit s code hstop
  have hok : (.ok x : Except Stop α) = .error (.exit code) := hstop
  contradiction

theorem neverExits_print (message : Text) :
  NeverExits (print message)
  := by
  intro kit s code
  rw [run_print]
  cases kit.console.show? message <;> simp

theorem neverExits_renderTo (scope : Scope) (target : Path) :
  NeverExits (renderTo settings scope format target)
  := by
  intro kit s code
  rw [run_renderTo]
  cases settings.rendered s.fonts s.findFont scope target.stem format with
  | error e => simp
  | ok t =>
      cases hsave : s.tree.save target t.encode with
      | mk tree error =>
          cases error with
          | some e => simp [hsave]
          | none => cases kit.console.show? (writtenNotice target) <;> simp [hsave]

/-- A batch ends a command with a failure or not at all. -/
theorem neverExits_renderEach (diagrams : List (Path × Text)) :
  NeverExits (renderEach settings format outputs diagrams)
  := by
  induction diagrams with
  | nil =>
      rw [renderEach]
      apply neverExits_pure
  | cons d diagrams ih =>
      rw [renderEach_cons]
      apply NeverExits.bind
      · split
        · apply neverExits_renderTo
        · apply neverExits_print
      · intro _
        rw [← bind_pure_comp]
        apply ih.bind
        intro others
        apply neverExits_pure

/-! ### Going on with a batch -/

/-- How a command ends whose batch has left out a diagram and goes on with others. -/
def goesOn (kit : Toolkit) (settings : Settings) (format : Format) (outputs : Path)
    (back : List (Path × Text)) (u : Session) : Outcome × Session :=
  match (renderEach settings format outputs back).runOn kit u with
  | (.ok _, after) => (⟨1, none⟩, after)
  | (.error stop, after) => (outcomeOf (.error stop), after)

theorem code_goesOn (back : List (Path × Text)) (u : Session) :
  (goesOn kit settings format outputs back u).1.code = 1
  := by
  have hnever : NeverExits (renderEach settings format outputs back) := neverExits_renderEach back
  rw [goesOn]
  cases hrun : (renderEach settings format outputs back).runOn kit u with
  | mk result after =>
      cases result with
      | ok others => rfl
      | error stop =>
          cases stop with
          | failure e => rfl
          | exit code =>
              exfalso
              apply hnever kit u code
              rw [hrun]

/-- The batch of a command has come to a diagram in a session, and others are still to come. -/
def Reached (kit : Toolkit) (s : Session) (inputs outputs : Path) (format : Format)
    (settings : Settings) (d : Path × Text) (back : List (Path × Text)) (u : Session) : Prop :=
  ∃ front made faulty, s.tree.readDiagrams inputs = .ok (front ++ d :: back)
    ∧ s.tree.makeFolders outputs = .ok made
    ∧ (renderEach settings format outputs front).runOn kit { s with tree := made } = (.ok faulty, u)

/-- A batch comes to a diagram if every one in front of it can be rendered alone or told in a
notice. -/
theorem exists_reached {inputs : Path} {config : Option Path} {made : FileTree}
    (hload : Settings.loadWith kit.settings s.tree s.env config = .ok settings)
    (hread : s.tree.readDiagrams inputs = .ok (front ++ d :: back))
    (hmade : s.tree.makeFolders outputs = .ok made)
    (hrender : ∀ e ∈ front, IsValid e → (alone kit outputs format config s e).1 = .ok ())
    (hshown : ∀ e ∈ front, ¬ IsValid e → ∃ shown, kit.console.show? (skippedNotice e) = .ok shown) :
  ∃ u, Reached kit s inputs outputs format settings d back u
  := by
  have houtput : ∀ e ∈ front, IsValid e → ∃ beside target data,
      Output kit settings outputs format { s with tree := made } e beside target data := by
    intro e he hvalid
    have hmem : e ∈ front ++ d :: back := List.mem_append_left _ he
    obtain ⟨made', beside, target, data, hmade', h, -⟩ := exists_output_of_alone hload
      (FileTree.readText_of_mem_readDiagrams hread e hmem) hvalid (hrender e he hvalid)
    obtain rfl := Except.ok.inj (hmade.symm.trans hmade')
    use beside, target, data
  obtain ⟨result, u, hrun, hbatch⟩ := exists_batchRun houtput ⟨rfl, rfl, rfl, rfl⟩
  rw [hbatch.result_of_shown hshown] at hrun
  use u, front, made, anyFaulty front

/-- A diagram with errors that a batch has come to is left out with a notice. -/
theorem run_renderAll_of_reached {inputs : Path} {config : Option Path}
    (hload : Settings.loadWith kit.settings s.tree s.env config = .ok settings)
    (h : Reached kit s inputs outputs format settings d back u) (hd : ¬ IsValid d) :
  (renderAll inputs outputs format config).runOn kit s
    = match kit.console.show? (skippedNotice d) with
      | .error e => (.error (.failure (.markup e)), u)
      | .ok shown =>
        match (renderEach settings format outputs back).runOn kit
            { u with printed := u.printed ++ shown ++ ['\n'] } with
        | (.ok _, after) => (.error (.exit 1), after)
        | (.error stop, after) => (.error stop, after)
  := by
  obtain ⟨front, made, faulty, hread, hmade, hfront⟩ := h
  rw [run_renderAll hload hread, if_neg (by simp), hmade]
  simp only
  rw [renderEach_append, run_bind, hfront]
  simp only
  rw [run_map, run_renderEach_of_not_valid hd]
  cases kit.console.show? (skippedNotice d) with
  | error e => rfl
  | ok shown =>
      simp only
      generalize (renderEach settings format outputs back).runOn kit
        { u with printed := u.printed ++ shown ++ ['\n'] } = more
      obtain ⟨stop | others, after⟩ := more
      · rfl
      · cases faulty <;> rfl

theorem run_of_reached {arguments : List Text} {inputs : Path} {config : Option Path}
    (hrequest : kit.request arguments = .ok (.renderAll inputs outputs format config))
    (hload : Settings.loadWith kit.settings s.tree s.env config = .ok settings)
    (h : Reached kit s inputs outputs format settings d back u) (hd : ¬ IsValid d) :
  kit.run arguments s
    = match kit.console.show? (skippedNotice d) with
      | .error e => (⟨1, some (.markup e)⟩, u)
      | .ok shown =>
        goesOn kit settings format outputs back { u with printed := u.printed ++ shown ++ ['\n'] }
  := by
  rw [Toolkit.run_eq hrequest, perform, run_renderAll_of_reached hload h hd]
  cases kit.console.show? (skippedNotice d) with
  | error e => rfl
  | ok shown =>
      simp only [goesOn]
      generalize (renderEach settings format outputs back).runOn kit
        { u with printed := u.printed ++ shown ++ ['\n'] } = more
      obtain ⟨stop | others, after⟩ := more <;> rfl

end Action

end BoxDiagram
