import BoxDiagram.Proofs.Command.SimpleConsole
import BoxDiagram.Proofs.Command.Skipping
import BoxDiagram.Proofs.Document.Faults
import BoxDiagram.Proofs.Document.RoundTrip

/-!
# Reports of errors

The messages about a diagram with errors are printed one by one, each behind the path of its
file, or together in a notice of a batch.  They hold the paths of scopes, and what is printed may
hold markup.  So on a console that reads tags, a file with a plain path is reported as it is
exactly if its messages have no tags.  A message with a tag shows as something else, or not at all,
and in the latter case the command fails: what was to come after it, be it a message or a diagram,
gets lost.
-/

namespace BoxDiagram

open Markup

/-! ### The messages of a text -/

namespace Scope

theorem oneLine_missingLayout {path : Text} (h : path.OneLine) :
  (missingLayout path).OneLine
  := by
  have hmessage : Text.OneLine ("No layout section." : Text) := by decide
  rw [missingLayout]
  split
  · apply hmessage
  · rw [Text.oneLine_append, Text.oneLine_cons, Text.oneLine_cons]
    use h, by decide, by decide, hmessage

/-- Every message about a text is one line. -/
theorem oneLine_of_mem_messages {t m : Text} (h : m ∈ (ofText t).messages) :
  m.OneLine
  := by
  obtain ⟨-, hnested⟩ := legible_addBlocks_blocksOf t
  have hroot : Text.OneLine [] := by decide
  rw [ofText, validate_messages, faults_eq] at h
  obtain ⟨⟨path, c⟩, hmem, rfl⟩ := List.mem_map.mp h
  apply oneLine_missingLayout
  have hwalk := (List.mem_filter.mp hmem).1
  rw [withPaths_eq] at hwalk
  obtain heq | hwalk := List.mem_cons.mp hwalk
  · obtain ⟨rfl, -⟩ := Prod.mk.inj heq
    apply hroot
  · apply (hnested.of_mem hroot hwalk).1

theorem newline_not_mem_of_mem_messages {t m : Text} (h : m ∈ (ofText t).messages) :
  '\n' ∉ m
  := by
  intro hmem
  have hbreak := oneLine_of_mem_messages h '\n' hmem
  contradiction

end Scope

/-- A path of printable ASCII characters without brackets, in front of a colon with nothing in it
that a console takes for a sign. -/
structure Path.IsPlain (console : Console) (p : Path) : Prop where
  unbracketed : Unbracketed p.text
  no_sign : ∀ word, console.isSign word = true → ¬ ':' :: word ++ [':'] <:+: p.text ++ [':']

theorem Path.IsPlain.literal {console : Console} {p : Path} (h : p.IsPlain console) :
  console.Literal (p.text ++ [':'])
  := by
  have hcolon : Unbracketed [':'] := by decide
  have hplain : Unbracketed (p.text ++ [':']) := List.forall_mem_append.mpr ⟨h.unbracketed, hcolon⟩
  apply Console.literal_of_unbracketed hplain (by simp) h.no_sign

namespace Action

variable {kit : Toolkit} {input : Path} {m : Text} {messages : List Text} {s : Session}

/-! ### Messages one by one -/

/-- What is printed for a message about a file. -/
def faultNotice (input : Path) (message : Text) : Text :=
  colored "red" (input.text ++ [':']) (' ' :: message)

/-- How a message about a file is reported. -/
def faultText (input : Path) (message : Text) : Text := input.text ++ ':' :: ' ' :: message

/-- The line that reports a message about a file. -/
def faultLine (input : Path) (message : Text) : Text := faultText input message ++ ['\n']

theorem faultText_eq (input : Path) (m : Text) :
  faultText input m = input.text ++ [':'] ++ ' ' :: m
  := by
  simp [faultText]

theorem newline_not_mem_faultText (h : input.IsPlain kit.console) (hm : '\n' ∉ m) :
  '\n' ∉ faultText input m
  := by
  have hfront : '\n' ∉ input.text := h.unbracketed.not_mem (by decide)
  simpa [faultText, hm] using hfront

section ReadsTags

variable (hconsole : kit.console.ReadsTags) (hinput : input.IsPlain kit.console)

include hconsole

theorem clean_space (h : kit.console.Clean m) :
  kit.console.Clean (' ' :: m)
  := Console.clean_nil.append_space hconsole h

include hinput

/-- A message about a plain file shows as it is exactly if it has no tag. -/
theorem show?_faultNotice_iff (hm : kit.console.Clean m) :
  kit.console.show? (faultNotice input m) = .ok (faultText input m) ↔ Untagged m
  := by
  rw [faultText_eq, faultNotice, hconsole.show?_red_iff hinput.literal (clean_space hconsole hm)]
  apply untagged_append_iff (t := [' ']) (by decide)

theorem show?_faultNotice_error (hm : kit.console.Clean m) (h : ClosesFirst m) :
  ∃ e, kit.console.show? (faultNotice input m) = .error e
  := by
  apply hconsole.show?_red_error hinput.literal (clean_space hconsole hm)
  apply h.append (t := [' ']) (by decide)

theorem newline_not_mem_of_show? (hm : kit.console.Clean m) (hline : '\n' ∉ m) {shown : Text}
    (h : kit.console.show? (faultNotice input m) = .ok shown) :
  '\n' ∉ shown
  := by
  apply hconsole.newline_not_mem hinput.literal (clean_space hconsole hm) _ h
  rw [← faultText_eq]
  apply newline_not_mem_faultText hinput hline

end ReadsTags

theorem run_printFaults_cons :
  (printFaults input (m :: messages)).runOn kit s
    = match kit.console.show? (faultNotice input m) with
      | .error e => (.error (.failure (.markup e)), s)
      | .ok shown =>
        (printFaults input messages).runOn kit { s with printed := s.printed ++ shown ++ ['\n'] }
  := by
  rw [printFaults, run_bind, run_print, faultNotice]
  cases kit.console.show? (colored "red" (input.text ++ [':']) (' ' :: m)) <;> rfl

/-- Printing messages changes nothing but what has been printed, and goes on to the end unless one
cannot be shown. -/
theorem run_printFaults_cases (kit : Toolkit) (input : Path) (messages : List Text) (s : Session) :
  ∃ more,
    (printFaults input messages).runOn kit s = (.ok (), { s with printed := s.printed ++ more })
    ∨ ∃ e, (printFaults input messages).runOn kit s
      = (.error (.failure (.markup e)), { s with printed := s.printed ++ more })
  := by
  induction messages generalizing s with
  | nil =>
      use []
      left
      rw [List.append_nil]
      rfl
  | cons m messages ih =>
      rw [run_printFaults_cons]
      cases kit.console.show? (faultNotice input m) with
      | error e =>
          use []
          right
          use e
          rw [List.append_nil]
      | ok shown =>
          obtain ⟨more, hrun⟩ := ih { s with printed := s.printed ++ shown ++ ['\n'] }
          use shown ++ ['\n'] ++ more
          simpa only [List.append_assoc] using hrun

theorem append_faultLines (printed : Text) (input : Path) (m : Text) (messages : List Text) :
  printed ++ (m :: messages).flatMap (faultLine input)
    = printed ++ faultText input m ++ ['\n'] ++ messages.flatMap (faultLine input)
  := by
  simp [faultLine]

section ReadsTags

variable (hconsole : kit.console.ReadsTags) (hinput : input.IsPlain kit.console)

include hconsole hinput

/-- Clean messages about a plain file are printed as they are exactly if they have no tags. -/
theorem run_printFaults_iff (hlines : ∀ m ∈ messages, '\n' ∉ m)
    (hclean : ∀ m ∈ messages, kit.console.Clean m) :
  (printFaults input messages).runOn kit s
      = (.ok (), { s with printed := s.printed ++ messages.flatMap (faultLine input) })
    ↔ ∀ m ∈ messages, Untagged m
  := by
  induction messages generalizing s with
  | nil =>
      rw [List.flatMap_nil, List.append_nil]
      constructor
      · intro _ m hm
        contradiction
      · intro _
        rfl
  | cons m messages ih =>
      obtain ⟨hline, hlines⟩ := List.forall_mem_cons.mp hlines
      obtain ⟨hm, hclean⟩ := List.forall_mem_cons.mp hclean
      rw [run_printFaults_cons, List.forall_mem_cons, append_faultLines,
        ← show?_faultNotice_iff hconsole hinput hm]
      cases hshow : kit.console.show? (faultNotice input m) with
      | error e => simp
      | ok shown =>
          rw [Except.ok.injEq]
          constructor
          · intro h
            obtain ⟨more, hrun | ⟨e, hrun⟩⟩ := run_printFaults_cases kit input messages
              { s with printed := s.printed ++ shown ++ ['\n'] }
            · have hprinted := congrArg (fun r => r.2.printed) (hrun.symm.trans h)
              simp only [List.append_assoc, List.singleton_append] at hprinted
              have hsame := List.append_cancel_left hprinted
              obtain ⟨rfl, -⟩ := eq_of_append_cons_eq
                (newline_not_mem_of_show? hconsole hinput hm hline hshow)
                (newline_not_mem_faultText hinput hline) hsame
              use rfl
              apply (ih hlines hclean).mp h
            · have hresult := congrArg Prod.fst (h.symm.trans hrun)
              contradiction
          · rintro ⟨rfl, hall⟩
            apply (ih hlines hclean).mpr hall

/-- Messages are printed up to one whose first tag has nothing to close. -/
theorem run_printFaults_of_closesFirst {before after : List Text}
    (hbefore : ∀ m ∈ before, kit.console.Clean m ∧ Untagged m) (hm : kit.console.Clean m)
    (hcloses : ClosesFirst m) :
  ∃ e, (printFaults input (before ++ m :: after)).runOn kit s
    = (.error (.failure (.markup e)),
      { s with printed := s.printed ++ before.flatMap (faultLine input) })
  := by
  induction before generalizing s with
  | nil =>
      obtain ⟨e, he⟩ := show?_faultNotice_error hconsole hinput hm hcloses
      use e
      rw [List.nil_append, run_printFaults_cons, he, List.flatMap_nil, List.append_nil]
  | cons first before ih =>
      obtain ⟨⟨hclean, huntagged⟩, hbefore⟩ := List.forall_mem_cons.mp hbefore
      have hshow := (show?_faultNotice_iff hconsole hinput hclean).mpr huntagged
      rw [List.cons_append, run_printFaults_cons, hshow, append_faultLines]
      apply ih hbefore

end ReadsTags

/-! ### Commands on one diagram -/

/-- How a part of a command ends that has come to the end of its messages about errors, or not. -/
def afterFaults {α : Type} : Except Stop Unit × Session → Except Stop α × Session
  | (.ok (), s) => (.error (.exit 1), s)
  | (.error stop, s) => (.error stop, s)

/-- Nothing follows the messages about errors. -/
theorem run_bind_of_afterFaults {α β : Type} {a : Action α} {r : Except Stop Unit × Session}
    (h : a.runOn kit s = afterFaults r) (f : α → Action β) :
  (a >>= f).runOn kit s = afterFaults r
  := by
  rw [run_bind, h]
  obtain ⟨stop | ⟨⟨⟩⟩, s'⟩ := r <;> rfl

theorem run_readDiagram_of_hasErrors {t : Text} (h : s.tree.readText input = .ok t)
    (hfaulty : (Scope.ofText t).hasErrors = true) :
  (readDiagram input).runOn kit s
    = afterFaults ((printFaults input (Scope.ofText t).messages).runOn kit s)
  := by
  rw [readDiagram, run_bind, run_get]
  simp only
  rw [run_bind, run_orFail, FileTree.has_of_readText h]
  simp only [mapError_ok, Bool.not_true, Bool.false_eq_true, if_false]
  rw [run_bind, run_orFail, h]
  simp only [mapError_ok, hfaulty, if_true]
  rw [run_bind]
  obtain ⟨more, hrun | ⟨e, hrun⟩⟩ := run_printFaults_cases kit input (Scope.ofText t).messages s <;>
    rw [hrun] <;> rfl

end Action

/-- A request that begins with reading the diagram in a file, once the settings are loaded. -/
inductive Request.Reads (kit : Toolkit) (s : Session) (input : Path) : Request → Prop where
  | render {output config : Option Path} {format : Format} {settings : Settings} :
      Settings.loadWith kit.settings s.tree s.env config = .ok settings →
      Reads kit s input (.render input output format config)
  | validate : Reads kit s input (.validate input)
  | url {base : Text} {config : Option Path} {settings : Settings} :
      Settings.loadWith kit.settings s.tree s.env config = .ok settings →
      Reads kit s input (.url input base config)

namespace Action

variable {kit : Toolkit} {input : Path} {s : Session} {t : Text}

/-- A request that reads a diagram with errors comes to its messages and to nothing else. -/
theorem run_perform_of_hasErrors {request : Request} (hreads : request.Reads kit s input)
    (h : s.tree.readText input = .ok t) (hfaulty : (Scope.ofText t).hasErrors = true) :
  (perform request).runOn kit s
    = afterFaults ((printFaults input (Scope.ofText t).messages).runOn kit s)
  := by
  have hread : (readDiagram input).runOn kit s
      = afterFaults ((printFaults input (Scope.ofText t).messages).runOn kit s) :=
    run_readDiagram_of_hasErrors h hfaulty
  cases hreads with
  | render hload =>
      rw [perform, render, run_bind, run_loadSettings hload]
      apply run_bind_of_afterFaults hread
  | validate =>
      rw [perform, validate]
      apply run_bind_of_afterFaults hread
  | url hload =>
      rw [perform, url, run_bind, run_loadSettings hload]
      apply run_bind_of_afterFaults hread

/-- A command that reads a diagram with errors ends with the exit code one and changes nothing but
what has been printed. -/
theorem run_of_hasErrors {arguments : List Text} {request : Request}
    (hrequest : kit.request arguments = .ok request) (hreads : request.Reads kit s input)
    (h : s.tree.readText input = .ok t) (hfaulty : (Scope.ofText t).hasErrors = true) :
  (kit.run arguments s).1.code = 1
    ∧ ∃ more, (kit.run arguments s).2 = { s with printed := s.printed ++ more }
  := by
  rw [Toolkit.run_eq hrequest, run_perform_of_hasErrors hreads h hfaulty]
  obtain ⟨more, hrun | ⟨e, hrun⟩⟩ := run_printFaults_cases kit input (Scope.ofText t).messages s <;>
    rw [hrun] <;> exact ⟨rfl, more, rfl⟩

section ReadsTags

variable {arguments : List Text} {request : Request}
variable (hconsole : kit.console.ReadsTags) (hrequest : kit.request arguments = .ok request)
variable (hreads : request.Reads kit s input) (hinput : input.IsPlain kit.console)
variable (h : s.tree.readText input = .ok t) (hfaulty : (Scope.ofText t).hasErrors = true)

include hconsole hrequest hreads hinput h hfaulty

/-- A command reports the clean messages about a plain file as they are exactly if they have no
tags. -/
theorem run_reports_iff (hclean : ∀ m ∈ (Scope.ofText t).messages, kit.console.Clean m) :
  kit.run arguments s
      = (⟨1, none⟩,
        { s with printed := s.printed ++ (Scope.ofText t).messages.flatMap (faultLine input) })
    ↔ ∀ m ∈ (Scope.ofText t).messages, Untagged m
  := by
  have hlines : ∀ m ∈ (Scope.ofText t).messages, '\n' ∉ m :=
    fun m hm => Scope.newline_not_mem_of_mem_messages hm
  rw [Toolkit.run_eq hrequest, run_perform_of_hasErrors hreads h hfaulty,
    ← run_printFaults_iff hconsole hinput hlines hclean (s := s)]
  obtain ⟨more, hrun | ⟨e, hrun⟩⟩ := run_printFaults_cases kit input (Scope.ofText t).messages s
  · rw [hrun]
    simp [afterFaults, outcomeOf]
  · rw [hrun]
    simp [afterFaults, outcomeOf]

/-- A command fails at a message whose first tag has nothing to close. -/
theorem run_of_closesFirst {before after : List Text} {m : Text}
    (hmessages : (Scope.ofText t).messages = before ++ m :: after)
    (hbefore : ∀ m ∈ before, kit.console.Clean m ∧ Untagged m) (hm : kit.console.Clean m)
    (hcloses : ClosesFirst m) :
  ∃ e, kit.run arguments s
    = (⟨1, some (.markup e)⟩,
      { s with printed := s.printed ++ before.flatMap (faultLine input) })
  := by
  obtain ⟨e, hrun⟩ :=
    run_printFaults_of_closesFirst hconsole hinput hbefore hm hcloses (s := s)
  use e
  rw [Toolkit.run_eq hrequest, run_perform_of_hasErrors hreads h hfaulty, hmessages, hrun]
  rfl

end ReadsTags

/-! ### Notices of a batch -/

/-- The messages about a diagram file, as one text. -/
def joinedMessages (d : Path × Text) : Text := Text.join [';', ' '] (Scope.ofText d.2).messages

/-- The path of a diagram file between a space and a colon. -/
def skippedPath (d : Path × Text) : Text := ' ' :: (d.1.text ++ [':'])

/-- How a batch reports a diagram file with errors. -/
def skippedText (d : Path × Text) : Text :=
  ("Skipped" : Text) ++ (skippedPath d ++ ' ' :: joinedMessages d)

section ReadsTags

variable {d : Path × Text}
variable (hconsole : kit.console.ReadsTags) (hplain : d.1.IsPlain kit.console)

theorem literal_skipped (console : Console) :
  console.Literal ("Skipped" : Text)
  := by
  apply Console.literal_of_unbracketed (by decide) (by decide)
  intro word _ hsign
  have hcolon : ':' ∈ ("Skipped" : Text) := hsign.subset (by simp)
  revert hcolon
  decide

theorem skippedNotice_eq (d : Path × Text) :
  skippedNotice d = colored "red" "Skipped" (skippedPath d ++ ' ' :: joinedMessages d)
  := by
  simp [skippedNotice, joinedMessages, colored, skippedPath]

include hplain

theorem opening_not_mem_skippedPath :
  '[' ∉ skippedPath d ++ [' ']
  := by
  have hopening := hplain.unbracketed.no_opening
  simp [skippedPath, hopening]

include hconsole

theorem clean_skipped (h : kit.console.Clean (joinedMessages d)) :
  kit.console.Clean (skippedPath d ++ ' ' :: joinedMessages d)
  := (clean_space hconsole hplain.literal.toClean).append_space hconsole h

/-- The notice about a plain file shows clean messages as they are exactly if they have no tag. -/
theorem show?_skippedNotice_iff (h : kit.console.Clean (joinedMessages d)) :
  kit.console.show? (skippedNotice d) = .ok (skippedText d) ↔ Untagged (joinedMessages d)
  := by
  rw [skippedNotice_eq]
  apply (hconsole.show?_red_iff (literal_skipped _) (clean_skipped hconsole hplain h)).trans
  rw [List.append_cons, untagged_append_iff (opening_not_mem_skippedPath hplain)]

theorem show?_skippedNotice_error (h : kit.console.Clean (joinedMessages d))
    (hcloses : ClosesFirst (joinedMessages d)) :
  ∃ e, kit.console.show? (skippedNotice d) = .error e
  := by
  rw [skippedNotice_eq]
  apply hconsole.show?_red_error (literal_skipped _) (clean_skipped hconsole hplain h)
  rw [List.append_cons]
  apply hcloses.append (opening_not_mem_skippedPath hplain)

end ReadsTags

end Action

/-! ### The command line -/

open BoxDiagram.Action

/-- On a console that reads tags, a command that reads one diagram with errors, from a file with a
plain path, ends with the exit code one and changes nothing but what has been printed.  If only
tags can be taken for something else in its messages, it reports all of them as they are, line by
line and without a failure, exactly if none of them has a tag; and it fails at the first one that
has, if the first tag in it closes a style, so that the later ones get lost.  A batch that has come
to such a file ends with the exit code one too.  If the messages have no tags it reports them
together as they are and goes on with the other files; otherwise the command fails at once, or it
reports something else; and it fails at once if their first tag closes a style.  A batch comes to
every file if it can render or report those in front of it. -/
theorem reports_verbatim_iff (kit : Toolkit) (hconsole : kit.console.ReadsTags)
    (arguments : List Text) (s : Session) :
  (∀ request input t, kit.request arguments = .ok request → request.Reads kit s input →
      input.IsPlain kit.console → s.tree.readText input = .ok t →
      (Scope.ofText t).hasErrors = true →
    let messages := (Scope.ofText t).messages
    let reported (messages : List Text) : Session :=
      { s with printed := s.printed ++ messages.flatMap (faultLine input) }
    (kit.run arguments s).1.code = 1
      ∧ (∃ more, (kit.run arguments s).2 = { s with printed := s.printed ++ more })
      ∧ ((∀ m ∈ messages, kit.console.Clean m) →
        (kit.run arguments s = (⟨1, none⟩, reported messages) ↔ ∀ m ∈ messages, Untagged m))
      ∧ ∀ before m after, messages = before ++ m :: after →
        (∀ m ∈ before, kit.console.Clean m ∧ Untagged m) → kit.console.Clean m → ClosesFirst m →
        ∃ e, kit.run arguments s = (⟨1, some (.markup e)⟩, reported before))
    ∧ ∀ inputs outputs format config settings,
      kit.request arguments = .ok (.renderAll inputs outputs format config) →
      Settings.loadWith kit.settings s.tree s.env config = .ok settings →
      (∀ d back u, Reached kit s inputs outputs format settings d back u →
          d.1.IsPlain kit.console → ¬ IsValid d →
        let told (shown : Text) : Session := { u with printed := u.printed ++ shown ++ ['\n'] }
        (kit.run arguments s).1.code = 1
          ∧ (kit.console.Clean (joinedMessages d) →
            (Untagged (joinedMessages d) →
                kit.run arguments s
                  = goesOn kit settings format outputs back (told (skippedText d)))
              ∧ (¬ Untagged (joinedMessages d) →
                (∃ e, kit.run arguments s = (⟨1, some (.markup e)⟩, u))
                  ∨ ∃ shown ≠ skippedText d,
                    kit.run arguments s = goesOn kit settings format outputs back (told shown))
              ∧ (ClosesFirst (joinedMessages d) →
                ∃ e, kit.run arguments s = (⟨1, some (.markup e)⟩, u))))
        ∧ ∀ front d back made, s.tree.readDiagrams inputs = .ok (front ++ d :: back) →
          s.tree.makeFolders outputs = .ok made →
          (∀ e ∈ front, IsValid e → (alone kit outputs format config s e).1 = .ok ()) →
          (∀ e ∈ front, ¬ IsValid e → e.1.IsPlain kit.console
            ∧ kit.console.Clean (joinedMessages e) ∧ Untagged (joinedMessages e)) →
          ∃ u, Reached kit s inputs outputs format settings d back u
  := by
  refine ⟨?single, ?batch⟩
  case single =>
    intro request input t hrequest hreads hinput ht hfaulty messages reported
    obtain ⟨hcode, hprinted⟩ := run_of_hasErrors hrequest hreads ht hfaulty
    refine ⟨hcode, hprinted, ?_, ?_⟩
    · intro hclean
      apply run_reports_iff hconsole hrequest hreads hinput ht hfaulty hclean
    · intro before m after hmessages hbefore hm hcloses
      apply run_of_closesFirst hconsole hrequest hreads hinput ht hfaulty hmessages hbefore hm
        hcloses
  case batch =>
    intro inputs outputs format config settings hrequest hload
    constructor
    · intro d back u hreached hplain hd told
      have hrun := run_of_reached hrequest hload hreached hd
      constructor
      · rw [hrun]
        cases kit.console.show? (skippedNotice d) with
        | error e => rfl
        | ok shown => apply code_goesOn
      · intro hclean
        have hiff := show?_skippedNotice_iff hconsole hplain hclean
        refine ⟨?_, ?_, ?_⟩
        · intro huntagged
          rw [hrun, hiff.mpr huntagged]
        · intro htagged
          rw [hrun]
          cases hshow : kit.console.show? (skippedNotice d) with
          | error e =>
              left
              use e
          | ok shown =>
              right
              use shown
              constructor
              · rintro rfl
                apply htagged (hiff.mp hshow)
              · rfl
        · intro hcloses
          obtain ⟨e, he⟩ := show?_skippedNotice_error hconsole hplain hclean hcloses
          use e
          rw [hrun, he]
    · intro front d back made hread hmade hrender hreport
      apply exists_reached hload hread hmade hrender
      intro e he hfaulty
      obtain ⟨hplain, hclean, huntagged⟩ := hreport e he hfaulty
      use skippedText e
      apply (show?_skippedNotice_iff hconsole hplain hclean).mpr huntagged

/-- A diagram with a scope without rows is reported by a command on it, and by a batch that goes on
with another one and comes to it. -/
theorem reports_verbatim_iff_nested :
  let t : Text := "layout:\n[x]\n[p]:\n"
  let more : Text := "relations:\n"
  let files : List (Place × Bytes) := [(["a.txt"], t.encode), (["b.txt"], more.encode)]
  let s : Session := ⟨⟨[], [], [], files⟩, [], .none, fun _ => .ok none, []⟩
  let batch : List Text := ["render-all", "--input-dir", ".", "--output-dir", "out"]
  Toolkit.simple.run ["validate", "a.txt"] s
      = (⟨1, none⟩, { s with printed := "a.txt: p: No layout section.\n" })
    ∧ ∃ settings tree, Toolkit.simple.run batch s
        = goesOn Toolkit.simple settings .svg ⟨[], ["out"]⟩ [(⟨[], ["b.txt"]⟩, more)]
          { s with tree, printed := "Skipped a.txt: p: No layout section.\n" }
      ∧ ∃ u, Reached Toolkit.simple s ⟨[], []⟩ ⟨[], ["out"]⟩ .svg settings
        (⟨[], ["b.txt"]⟩, more) [] u
  := by
  intro t more files s batch
  let input : Path := ⟨[], ["a.txt"]⟩
  let outputs : Path := ⟨[], ["out"]⟩
  let message : Text := "p: No layout section."
  have hconsole : Toolkit.simple.console.ReadsTags := readsTags_console
  have hplain : input.IsPlain Toolkit.simple.console := by
    constructor
    case unbracketed => decide +kernel
    case no_sign => apply (literal_console _ _).no_sign <;> decide +kernel
  have hread : s.tree.readText input = .ok t := by decide +kernel
  have hfaulty : (Scope.ofText t).hasErrors = true := by decide +kernel
  have hmessages : (Scope.ofText t).messages = [message] := by decide +kernel
  have hliteral : Toolkit.simple.console.Literal message := by
    apply literal_console <;> decide +kernel
  have hprinted : s.printed = [] := rfl
  have hline : [message].flatMap (faultLine input) = "a.txt: p: No layout section.\n" := by
    decide +kernel
  have hvalidate : Toolkit.simple.request ["validate", "a.txt"] = .ok (.validate input) := by
    apply Toolkit.simple_request
    decide +kernel
  have hbatch : Toolkit.simple.request batch
      = .ok (.renderAll ⟨[], []⟩ outputs .svg none) := by
    apply Toolkit.simple_request
    decide +kernel
  have hload : (Settings.loadWith Toolkit.simple.settings s.tree s.env none).isOk = true := by
    decide +kernel
  have hmade : (s.tree.makeFolders outputs).isOk = true := by decide +kernel
  have hdiagrams : s.tree.readDiagrams ⟨[], []⟩ = .ok [(input, t), (⟨[], ["b.txt"]⟩, more)] := by
    apply FileTree.readDiagrams_of_sorted [] ["a.txt", "b.txt"] <;> decide +kernel
  have hd : ¬ IsValid (input, t) := by
    rw [IsValid, hfaulty]
    decide
  have hjoined : joinedMessages (input, t) = message := by decide +kernel
  have hskipped : skippedText (input, t) = "Skipped a.txt: p: No layout section." := by
    decide +kernel
  obtain ⟨settings, hsettings⟩ := isOk_iff.mp hload
  obtain ⟨tree, htree⟩ := isOk_iff.mp hmade
  have hreached : Reached Toolkit.simple s ⟨[], []⟩ outputs .svg settings (input, t)
      [(⟨[], ["b.txt"]⟩, more)] { s with tree } := ⟨[], tree, false, hdiagrams, htree, rfl⟩
  clear_value s t more
  constructor
  · obtain ⟨-, -, hreports, -⟩ :=
      (reports_verbatim_iff Toolkit.simple hconsole ["validate", "a.txt"] s).1 _ _ _ hvalidate
        .validate hplain hread hfaulty
    rw [hmessages] at hreports
    simp only [hline, hprinted, List.nil_append] at hreports
    apply (hreports _).mpr
    · rw [List.forall_mem_singleton]
      apply hliteral.untagged
    · rw [List.forall_mem_singleton]
      apply hliteral.toClean
  · obtain ⟨hreports, hcomes⟩ :=
      (reports_verbatim_iff Toolkit.simple hconsole batch s).2 _ _ _ _ _ hbatch hsettings
    refine ⟨settings, tree, ?_, ?_⟩
    · obtain ⟨-, hreports⟩ := hreports _ _ _ hreached hplain hd
      rw [hjoined, hskipped, hprinted] at hreports
      apply (hreports hliteral.toClean).1 hliteral.untagged
    · apply hcomes [(input, t)] _ [] tree hdiagrams htree
      · intro e he hvalid
        rw [List.mem_singleton.mp he] at hvalid
        exact absurd hvalid hd
      · intro e he _
        rw [List.mem_singleton.mp he, hjoined]
        use hplain, hliteral.toClean, hliteral.untagged

/-- Labels that read as tags: a message about one loses a part of its path, and a message about
another ends a batch, before the second diagram is reported. -/
theorem not_reports_verbatim_tags :
  let closing : Text := "layout:\n[x]\n[p[/b]]:\n"
  let opening : Text := "layout:\n[x]\n[p[b]]:\n"
  let files : List (Place × Bytes) := [(["a.txt"], closing.encode), (["b.txt"], opening.encode)]
  let s : Session := ⟨⟨[], [], [], files⟩, [], .none, fun _ => .ok none, []⟩
  let batch : List Text := ["render-all", "--input-dir", ".", "--output-dir", "out"]
  (Scope.ofText closing).messages = [("p[/b]: No layout section." : Text)]
    ∧ (Scope.ofText opening).messages = [("p[b]: No layout section." : Text)]
    ∧ (Toolkit.simple.run ["validate", "b.txt"] s).2.printed = "b.txt: p: No layout section.\n"
    ∧ (∃ e, (Toolkit.simple.run batch s).1.failure = some (.markup e))
    ∧ (Toolkit.simple.run batch s).2.printed = []
  := by
  intro closing opening files s batch
  let outputs : Path := ⟨[], ["out"]⟩
  let d : Path × Text := (⟨[], ["a.txt"]⟩, closing)
  have hclosing : (Scope.ofText closing).messages = [("p[/b]: No layout section." : Text)] := by
    decide +kernel
  have hopening : (Scope.ofText opening).messages = [("p[b]: No layout section." : Text)] := by
    decide +kernel
  have hvalidate : (Toolkit.simple.run ["validate", "b.txt"] s).2.printed
      = "b.txt: p: No layout section.\n" := by
    decide +kernel
  have hbatch : Toolkit.simple.request batch
      = .ok (.renderAll ⟨[], []⟩ outputs .svg none) := by
    apply Toolkit.simple_request
    decide +kernel
  have hload : (Settings.loadWith Toolkit.simple.settings s.tree s.env none).isOk = true := by
    decide +kernel
  have hmade : (s.tree.makeFolders outputs).isOk = true := by decide +kernel
  have hdiagrams : s.tree.readDiagrams ⟨[], []⟩ = .ok [d, (⟨[], ["b.txt"]⟩, opening)] := by
    apply FileTree.readDiagrams_of_sorted [] ["a.txt", "b.txt"] <;> decide +kernel
  have hd : ¬ IsValid d := by decide +kernel
  have hshow : Toolkit.simple.console.show? (skippedNotice d)
      = .error (unmatchedClosing "/b" 24) := by
    decide +kernel
  have hprinted : s.printed = [] := rfl
  obtain ⟨settings, hsettings⟩ := isOk_iff.mp hload
  obtain ⟨tree, htree⟩ := isOk_iff.mp hmade
  have hreached : Reached Toolkit.simple s ⟨[], []⟩ outputs .svg settings d
      [(⟨[], ["b.txt"]⟩, opening)] { s with tree } := ⟨[], tree, false, hdiagrams, htree, rfl⟩
  clear_value s d closing opening
  refine ⟨hclosing, hopening, hvalidate, ?_⟩
  rw [run_of_reached hbatch hsettings hreached hd, hshow]
  apply And.intro ⟨_, rfl⟩ hprinted

end BoxDiagram
