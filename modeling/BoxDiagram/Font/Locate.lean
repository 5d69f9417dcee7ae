import BoxDiagram.Files.Tree
import BoxDiagram.Text.Case

/-!
# Finding the file of a font

A family is compared with the names of font files by their letters and digits alone.  A file
named for the family fits best, then one whose name begins with it, and then one whose name
holds it.  Of equally good files the one found first is taken: font folders in order, files of
the one kind before those of the other, outer folders before those in them.
-/

namespace BoxDiagram

/-- Whether a character counts in the comparison of names: an ASCII letter or digit, or one of the
four letters that differ from an ASCII letter by case alone. -/
def isNameChar (c : Char) : Bool :=
  c.isAlphanum || c.toNat == 0x130 || c.toNat == 0x131 || c.toNat == 0x17F || c.toNat == 0x212A

/-- A name as it is compared. -/
def plainName (t : Text) : Text := Text.lower (t.filter isNameChar)

/-- How well a file name fits a family, both as they are compared; zero is best. -/
def fitOf (family stem : Text) : Option Nat :=
  let aliases : List Text := [family, family ++ ['m', 't'], family ++ ['p', 's', 'm', 't']]
  if aliases.contains stem then some 0
  else if family.isPrefixOf stem then some 1
  else if stem.has family then some 2
  else none

/-- The endings of font files. -/
def fontEndings : List Text := [".ttf", ".ttc"]

/-- The folders in which systems keep fonts. -/
def systemFontFolders : List Path :=
  (["/System/Library/Fonts", "/System/Library/Fonts/Supplemental", "/Library/Fonts",
    "~/Library/Fonts", "/usr/share/fonts", "/usr/local/share/fonts", "C:/Windows/Fonts"] :
    List Text).map Path.ofText

namespace FileTree

/-- The paths with an ending in the folder of a path, which stands at a place, and all folders in
it. -/
def pathsEnding (tree : FileTree) (folder : Path) (place : Place) (ending : Text) : List Path :=
  (tree.foldersFrom place).flatMap fun p =>
    ((tree.namesIn p).filter fun name => ending.isSuffixOf name).map fun name =>
      { folder with parts := folder.parts ++ p.drop place.length ++ [name] }

/-- The paths of font files in some folders, those that are missing left out. -/
def fontPaths (tree : FileTree) : List Path → Except FileError (List Path)
  | [] => .ok []
  | folder :: folders =>
    match tree.folderAt folder with
    | .error e => .error e
    | .ok none => fontPaths tree folders
    | .ok (some place) =>
      (fontEndings.flatMap (tree.pathsEnding folder place) ++ ·) <$> fontPaths tree folders

/-- The better of two fits; of two equally good ones the first. -/
def betterFit (best : Option (Nat × Path)) (p : Path) (fit : Nat) : Option (Nat × Path) :=
  match best with
  | none => some (fit, p)
  | some (bestFit, q) => if fit < bestFit then some (fit, p) else some (bestFit, q)

/-- The path that fits a name best, both as they are compared. -/
def bestFit (name : Text) (paths : List Path) : Option Path :=
  let best := paths.foldl (fun best p =>
    match fitOf name (plainName p.stem) with
    | none => best
    | some fit => betterFit best p fit) none
  best.map (·.2)

/-- The file that fits a family best in some folders. -/
def bestFontFile (tree : FileTree) (folders : List Path) (family : Text) :
    Except FileError (Option Path) :=
  let name := plainName family
  if name.isEmpty then .ok none else bestFit name <$> tree.fontPaths folders

/-- The folders in which a system with these files keeps fonts, with home folders put in. -/
def fontFolders (tree : FileTree) : List Path :=
  systemFontFolders.map fun folder => (tree.expandHome folder).toOption.getD folder

/-- The file that fits a family best on a system with these files. -/
def systemFontFile (tree : FileTree) : Text → Except FileError (Option Path) :=
  tree.bestFontFile tree.fontFolders

end FileTree

end BoxDiagram
