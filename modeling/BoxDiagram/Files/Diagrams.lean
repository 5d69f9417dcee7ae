import BoxDiagram.Files.Tree

/-!
# Diagram files

The diagram files of a folder are those directly in it whose names end in `.boxdraft` or
`.txt`, in the order of their names.
-/

namespace BoxDiagram.FileTree

/-- The endings of diagram files. -/
def diagramEndings : List Text := [".boxdraft", ".txt"]

/-- Whether a name is that of a diagram file. -/
def isDiagramName (name : Text) : Bool := diagramEndings.any fun ending => ending.isSuffixOf name

/-- The paths of the diagram files in a folder. -/
def diagramPaths (tree : FileTree) (folder : Path) : Except FileError (List Path) :=
  match tree.folderAt folder with
  | .error e => .error e
  | .ok none => .ok []
  | .ok (some place) => .ok (((tree.namesIn place).filter isDiagramName).map folder.child)

/-- A diagram file with its text. -/
def readDiagram (tree : FileTree) (p : Path) : Except FileError (Path × Text) :=
  (fun t => (p, t)) <$> tree.readText p

/-- The diagram files in a folder, each with its text. -/
def readDiagrams (tree : FileTree) (folder : Path) : Except FileError (List (Path × Text)) :=
  match tree.diagramPaths folder with
  | .error e => .error e
  | .ok paths => paths.mapM tree.readDiagram

end BoxDiagram.FileTree
