import BoxDiagram.Files.Error

/-!
# A tree of files

The files that a program sees are a value: the working folder, the home folders of users, the
folders there are, and the files with their data, each at its place.  Operations on paths go
only through folders that exist, and `..` leads one folder up.  Names and paths have a greatest
length, and no path holds a null character.
-/

namespace BoxDiagram

/-- The names on the way from the root folder. -/
abbrev Place := List Text

/-- The working folder, the home folders of users by their names, and the folders and files there
are.  The own user has no name, and the root folder is not listed. -/
structure FileTree where
  working : Place
  homes : List (Text × Path)
  folders : List Place
  files : List (Place × Bytes)
  deriving Repr

/-- What stands at a place. -/
inductive Entry where
  | folder
  | file (data : Bytes)

namespace FileTree

/-! ### Looking -/

/-- What stands at a place. -/
def entry? (tree : FileTree) (p : Place) : Option Entry :=
  match p with
  | [] => some .folder
  | p =>
    if tree.folders.contains p then some .folder
    else (List.lookup p tree.files).map .file

/-- The greatest number of bytes in a name. -/
def nameLimit : Nat := 255

/-- The greatest number of bytes in a path. -/
def pathLimit : Nat := 4095

/-- The name that leads one folder up. -/
def stepUp : Text := ['.', '.']

/-- Follow the names on a path from a folder: the place they lead to, whose folder exists. -/
def follow (tree : FileTree) (p : Path) (folder : Place) : List Text → Except FileError Place
  | [] => .ok folder
  | name :: names =>
    if name == stepUp then follow tree p folder.dropLast names
    else if nameLimit < (Text.encode name).length then .error (.nameTooLong p)
    else if names.isEmpty then .ok (folder ++ [name])
    else
      match tree.entry? (folder ++ [name]) with
      | some .folder => follow tree p (folder ++ [name]) names
      | some (.file _) => .error (.notFolder p)
      | none => .error (.notFound p)

/-- The place that a path leads to. -/
def placeOf (tree : FileTree) (p : Path) : Except FileError Place :=
  if p.parts.any fun part => part.contains (Char.ofNat 0) then .error .nullCharacter
  else if pathLimit < (Text.encode p.text).length then .error (.nameTooLong p)
  else tree.follow p (if p.root.isEmpty then tree.working else []) p.parts

/-- The place that a path leads to, if it leads to one.  A path that is too long cannot be looked
up. -/
def lookUp (tree : FileTree) (p : Path) : Except FileError (Option Place) :=
  match tree.placeOf p with
  | .ok place => .ok (some place)
  | .error (.nameTooLong p) => .error (.nameTooLong p)
  | .error _ => .ok none

/-- What stands where a path leads, if anything does. -/
def find (tree : FileTree) (p : Path) : Except FileError (Option Entry) :=
  (fun place => place.bind tree.entry?) <$> tree.lookUp p

/-- Whether anything stands where a path leads. -/
def has (tree : FileTree) (p : Path) : Except FileError Bool := Option.isSome <$> tree.find p

/-- Whether a folder stands at a place. -/
def hasFolder (tree : FileTree) (p : Place) : Bool :=
  match tree.entry? p with
  | some .folder => true
  | _ => false

/-- The place of the folder at a path, if there is one. -/
def folderAt (tree : FileTree) (p : Path) : Except FileError (Option Place) :=
  (fun place => place.filter tree.hasFolder) <$> tree.lookUp p

/-- A path with the home folder of a user for a first name that is `~` and the name of the user. -/
def expandHome (tree : FileTree) (p : Path) : Except FileError Path :=
  match p.root, p.parts with
  | [], ('~' :: user) :: parts =>
    match List.lookup user tree.homes with
    | some home => .ok { home with parts := home.parts ++ parts }
    | none => .error .unknownUser
  | _, _ => .ok p

/-- The data of the file at a path. -/
def read (tree : FileTree) (p : Path) : Except FileError Bytes :=
  match tree.placeOf p with
  | .error e => .error e
  | .ok place =>
    match tree.entry? place with
    | none => .error (.notFound p)
    | some .folder => .error (.isFolder p)
    | some (.file data) => .ok data

/-- A text with every line ended by a line feed. -/
def lineFeeds : Text → Text
  | [] => []
  | '\r' :: '\n' :: t => '\n' :: lineFeeds t
  | '\r' :: t => '\n' :: lineFeeds t
  | c :: t => c :: lineFeeds t

/-- The text of the file at a path. -/
def readText (tree : FileTree) (p : Path) : Except FileError Text :=
  match tree.read p with
  | .error e => .error e
  | .ok data =>
    match decodeText data with
    | .error e => .error (.notText e)
    | .ok t => .ok (lineFeeds t)

/-- The names in the folder at a place, by code points. -/
def namesIn (tree : FileTree) (p : Place) : List Text :=
  let places := (tree.folders ++ tree.files.map (·.1)).filter fun q =>
    q.dropLast == p && !q.isEmpty
  (places.filterMap List.getLast?).mergeSort fun t u => !u.before t

/-- The folder at a place and all folders below it, outer folders first. -/
def foldersFrom (tree : FileTree) (p : Place) : List Place :=
  let below := tree.folders.filter fun q => p.isPrefixOf q && q != p
  p :: below.mergeSort fun q r => !Path.partsBefore r q

/-! ### Changing -/

/-- Make a folder at a place. -/
def addFolder (tree : FileTree) (p : Place) : FileTree :=
  if (tree.entry? p).isSome then tree else { tree with folders := tree.folders ++ [p] }

/-- Make the folders on the way to a place. -/
def addFoldersTo (tree : FileTree) (p : Place) : FileTree :=
  (List.range p.length).foldl (fun tree n => tree.addFolder (p.take n)) tree

/-- A working folder without files, for users with some home folders. -/
def empty (working : Place) (homes : List (Text × Path)) : FileTree :=
  let tree : FileTree := ⟨working, homes, [], []⟩
  (tree.addFoldersTo working).addFolder working

/-- Put data into the file at a place. -/
def setFile (tree : FileTree) (p : Place) (data : Bytes) : FileTree :=
  if tree.files.any (·.1 == p) then
    { tree with files := tree.files.map fun (q, d) => if q == p then (q, data) else (q, d) }
  else { tree with files := tree.files ++ [(p, data)] }

/-- Remove the file at a place. -/
def removeFile (tree : FileTree) (p : Place) : FileTree :=
  { tree with files := tree.files.filter (·.1 != p) }

/-- Make the folder at a path, if it is missing. -/
def makeFolder (tree : FileTree) (p : Path) : Except FileError FileTree :=
  match tree.placeOf p with
  | .error e => .error e
  | .ok place =>
    match tree.entry? place with
    | none => .ok (tree.addFolder place)
    | some .folder => .ok tree
    | some (.file _) => .error (.alreadyExists p)

/-- Make the folder whose path has these names, last one first, and all folders on the way. -/
def makeFoldersUp (tree : FileTree) (root : Text) : List Text → Except FileError FileTree
  | [] => .ok tree
  | name :: up =>
    let path : Path := ⟨root, (name :: up).reverse⟩
    match tree.makeFolder path with
    | .error (.notFound _) =>
      match makeFoldersUp tree root up with
      | .error e => .error e
      | .ok tree => tree.makeFolder path
    | made => made

/-- Make the folder at a path and all folders on the way, as far as they are missing. -/
def makeFolders (tree : FileTree) (p : Path) : Except FileError FileTree :=
  tree.makeFoldersUp p.root p.parts.reverse

/-- Write data to the file at a path. -/
def write (tree : FileTree) (p : Path) (data : Bytes) : Except FileError FileTree :=
  match tree.placeOf p with
  | .error e => .error e
  | .ok place =>
    match tree.entry? place with
    | some .folder => .error (.isFolder p)
    | _ => .ok (tree.setFile place data)

/-- Move the file at one path over the file at another.  The last name of either has to be a name
and no step up. -/
def replace (tree : FileTree) (source target : Path) : Except FileError FileTree :=
  match tree.placeOf source, tree.placeOf target with
  | .error e, _ => .error e
  | _, .error e => .error e
  | .ok p, .ok q =>
    if source.name == stepUp || target.name == stepUp then .error (.replacesStep source target)
    else
      match tree.entry? p, tree.entry? q with
      | some (.file _), some .folder => .error (.replacesFolder source target)
      | some (.file data), _ => .ok ((tree.removeFile p).setFile q data)
      | _, _ => .error (.notFound source)

/-! ### Saving -/

/-- Make ready for saving at a path: make its folder, and name the file beside it. -/
def prepare (tree : FileTree) (p : Path) : FileTree × Except FileError Path :=
  match tree.makeFolders p.parent with
  | .error e => (tree, .error e)
  | .ok tree =>
    match p.withSuffix? (p.suffix ++ ['.', 't', 'm', 'p']) with
    | none => (tree, .error (.emptyName p))
    | some beside => (tree, .ok beside)

/-- Save data at a path: make its folder, write a file beside it, and move that over it.  The
tree that is left says what a failure has already changed. -/
def save (tree : FileTree) (p : Path) (data : Bytes) : FileTree × Option FileError :=
  match tree.prepare p with
  | (tree, .error e) => (tree, some e)
  | (tree, .ok beside) =>
    match tree.write beside data with
    | .error e => (tree, some e)
    | .ok tree =>
      match tree.replace beside p with
      | .error e => (tree, some e)
      | .ok tree => (tree, none)

end FileTree

end BoxDiagram
