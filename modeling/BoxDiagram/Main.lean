import BoxDiagram.Command.Run

/-!
# The program

The outer layer: it looks at the files and variables that a request is about, runs the command
line on them with the simple toolkit, and then writes what has changed.  There is nothing here that
could load a font, so text is measured without one whatever the settings ask for, and the folders in
which fonts are kept are not looked at.
-/

namespace BoxDiagram.Main

/-- The names of the variables that settings are read from. -/
def variableNames : List Text :=
  let upper (t : Text) : Text := t.map Char.toUpper
  [Settings.pathVariable, upper (settingsMark ++ ("measurer" : Text)),
    upper (settingsMark ++ ("diagram" : Text))]
    ++ Style.fieldNames.map fun name =>
      upper (settingsMark ++ ("diagram" : Text) ++ nestingMark ++ name)

/-- The variables that are set. -/
def environment : IO Environment :=
  variableNames.filterMapM fun name => do
    let value ← IO.getEnv (String.ofList name)
    return value.map fun v => (name, v.toList)

/-- The place that names lead to from a folder. -/
def placeFrom (folder : Place) : List Text → Place
  | [] => folder
  | name :: names =>
    placeFrom (if name == ['.', '.'] then folder.dropLast else folder ++ [name]) names

/-- A place as the system names it. -/
def systemName (p : Place) : String := String.ofList ('/' :: Text.join ['/'] p)

/-- The names in the folder at a place, if there is one. -/
def namesAt (p : Place) : IO (Option (List Text)) :=
  try
    let name ← IO.FS.realPath (systemName p)
    let entries ← name.readDir
    return some (entries.toList.map fun entry => entry.fileName.toList)
  catch _ => return none

/-- Look at what stands at a place. -/
def look (tree : FileTree) (p : Place) : IO FileTree := do
  if (← namesAt p).isSome then return tree.addFolder p
  try
    let data ← IO.FS.readBinFile (systemName p)
    return tree.setFile p data.toList
  catch _ => return tree

/-- Look at everything on the way to a place. -/
def lookAlong (tree : FileTree) (p : Place) : IO FileTree :=
  (List.range p.length).foldlM (fun tree n => look tree (p.take (n + 1))) tree

/-- Look at everything on the way to a path, and at what stands directly in it if it is a folder. -/
def lookAt (tree : FileTree) (path : Path) : IO FileTree := do
  let p := placeFrom (if path.root.isEmpty then tree.working else []) path.parts
  let tree ← lookAlong tree p
  ((← namesAt p).getD []).foldlM (fun tree name => look tree (p ++ [name])) tree

/-- The paths that a request is about. -/
def pathsOf (env : Environment) : Request → List Path
  | .render input output format config =>
    [input, output.getD ((input.withSuffix? format.suffix).getD input)] ++ settingsPaths config
  | .renderAll inputs outputs _ config => [inputs, outputs] ++ settingsPaths config
  | .validate input => [input]
  | .url input _ config => input :: settingsPaths config
where
  settingsPaths (config : Option Path) : List Path :=
    [Settings.usualPath] ++ config.toList
      ++ (List.lookup Settings.pathVariable env).toList.map Path.ofText

/-- The file in which the system lists its users. -/
def usersFile : String := "/etc/passwd"

/-- The user and the home folder that a line of the list of users names. -/
def userOfLine? (line : Text) : Option (Text × Path) :=
  match line.splitWhere (· == ':') with
  | name :: _ :: _ :: _ :: _ :: folder :: _ => some (name, .ofText folder)
  | _ => none

/-- The home folders of users, that of the own user under no name. -/
def homes : IO (List (Text × Path)) := do
  let own ← IO.getEnv "HOME"
  let users ← try pure (← IO.FS.readFile usersFile).toList catch _ => pure []
  let own := own.map fun folder => ([], Path.ofText folder.toList)
  return own.toList ++ (Text.lines users).filterMap userOfLine?

/-- Write the folders and files of one tree that are not in another. -/
def writeChanges (before after : FileTree) : IO Unit := do
  for p in after.folders do
    if !before.folders.contains p then IO.FS.createDirAll (systemName p)
  for (p, data) in after.files do
    if List.lookup p before.files != some data then
      let beside := systemName p ++ ".tmp"
      IO.FS.writeBinFile beside ⟨data.toArray⟩
      IO.FS.rename beside (systemName p)

/-- What is said about a failure that no command handles. -/
def failureMessage : Failure → Text
  | .settings (.fileNotFound p) => configNotFound p
  | .settings (.environment e) => e.message
  | .settings (.file e) => e.message
  | .settings (.unreadable p e) => e.message p.text
  | .settings (.invalid l) =>
    Text.join ['\n'] (l.map fun f => Text.join ['.'] f.location ++ ':' :: ' ' :: f.fault.message)
  | .file e => e.message
  | .number e => e.message
  | .font e => e.message
  | .drawing e => e.message
  | .writing e => e.message
  | .markup e => e.message
  | .diagram e => e.message

/-- What a command line works with: files and variables, and no fonts that could be loaded. -/
def session (tree : FileTree) (env : Environment) : Session where
  tree
  env
  fonts := .none
  findFont := tree.systemFontFile
  printed := []

/-- Run a command line on the files and variables of the system. -/
def run (arguments : List String) : IO UInt32 := do
  let arguments := arguments.map String.toList
  let env ← environment
  let working := (Path.ofText (← IO.currentDir).toString.toList).parts
  let tree := FileTree.empty working (← homes)
  let paths := match Request.ofCommandLine arguments with
    | .ok request => pathsOf env request
    | .error _ => []
  let tree ← (paths ++ paths.filterMap fun p => (tree.expandHome p).toOption).foldlM lookAt tree
  let (outcome, after) := runCommandLine arguments (session tree env)
  writeChanges tree after.tree
  IO.print (String.ofList after.printed)
  match outcome.failure with
  | some e => IO.eprintln (String.ofList (failureMessage e))
  | none => pure ()
  return outcome.code.toUInt32

end BoxDiagram.Main

/-- Run the command line of the program. -/
def main (arguments : List String) : IO UInt32 := BoxDiagram.Main.run arguments
