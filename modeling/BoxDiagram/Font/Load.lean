import BoxDiagram.Decimal.Rounding
import BoxDiagram.Font.Locate
import BoxDiagram.Measurer

/-!
# Loading a font

A generic family stands for a list of families.  The files of these families are tried in
order, then a file that most systems have, and then the font that needs no file.  A measurer
takes its widths from the font that loads; without a font it guesses them, and without an
outline font a line is as high as the font size.
-/

namespace BoxDiagram

/-- A font that has been loaded. -/
structure Font where
  hasOutlines : Bool
  width : Text → Float
  ascent : Float
  descent : Float

/-- What can be loaded at a size: the font in a file, and the font that needs no file. -/
structure FontSystem where
  ofFile : Text → Int → Option Font
  builtIn : Int → Option Font

/-- Nothing can be loaded. -/
def FontSystem.none : FontSystem := ⟨fun _ _ => .none, fun _ => .none⟩

/-- The files found for families, by the lower case of the family. -/
abbrev FontCache := List (Text × Option Path)

/-- A way to find the file of a family. -/
abbrev FontFinder := Text → Except FileError (Option Path)

/-- Why the search for a font failed. -/
inductive FontError where
  | size (error : RoundingError)
  | file (error : FileError)
  deriving DecidableEq, Repr

/-- What is said about a search that failed. -/
def FontError.message : FontError → Text
  | .size e => e.message
  | .file e => e.message

/-- The families that a family stands for. -/
def familiesOf (family : Text) : List Text :=
  let name := family.lower
  if name == ("sans-serif" : Text) then ["Helvetica", "Arial", "Liberation Sans", "DejaVu Sans"]
  else if name == ("serif" : Text) then
    ["Georgia", "Times New Roman", "Liberation Serif", "DejaVu Serif"]
  else if name == ("monospace" : Text) then ["Courier New", "Liberation Mono", "DejaVu Sans Mono"]
  else [family]

/-- The file that most systems have. -/
def commonFile : Text := "DejaVuSans.ttf"

/-- The file of a family, looked up if it is not known yet. -/
def cacheFamily (find : FontFinder) (cache : FontCache) (family : Text) :
    Except FileError (Option Path × FontCache) :=
  let key := family.lower
  match List.lookup key cache with
  | some file => .ok (file, cache)
  | none => (fun file => (file, cache ++ [(key, file)])) <$> find family

/-- The files of some families, looked up once for each family. -/
def cacheFamilies (find : FontFinder) (cache : FontCache) :
    List Text → Except FileError (List Path × FontCache)
  | [] => .ok ([], cache)
  | family :: families =>
    match cacheFamily find cache family with
    | .error e => .error e
    | .ok (file, cache) =>
      (fun (files, cache) => (file.toList ++ files, cache)) <$> cacheFamilies find cache families

/-- An attempt to load a font, from a file or without one. -/
structure FontAttempt where
  file : Option Text
  size : Int
  deriving DecidableEq, Repr

/-- Try files in order and then the font that needs no file; also says what was tried. -/
def tryFonts (system : FontSystem) (size : Int) : List Text → Option Font × List FontAttempt
  | [] => (system.builtIn size, [⟨none, size⟩])
  | file :: files =>
    match system.ofFile file size with
    | some font => (some font, [⟨some file, size⟩])
    | none =>
      let (font, attempts) := tryFonts system size files
      (font, ⟨some file, size⟩ :: attempts)

/-- What came of loading a font. -/
structure FontSearch where
  font : Option Font
  attempts : List FontAttempt
  cache : FontCache

/-- Load the font of a family at a size, which is rounded to a whole number from one on. -/
def searchFont (system : FontSystem) (find : FontFinder) (cache : FontCache) (family : Text)
    (fontSize : Float) : Except FontError FontSearch := do
  let size := max 1 (← (roundFloat fontSize).mapError .size)
  let (files, cache) ← (cacheFamilies find cache (familiesOf family)).mapError .file
  let (font, attempts) := tryFonts system size (files.map Path.text ++ [commonFile])
  return ⟨font, attempts, cache⟩

/-- The measurer of a font at a size, or without a font. -/
def Measurer.ofFont (fontSize : Float) : Option Font → Measurer Float
  | none => .guessing fontSize
  | some font =>
    let height := larger (font.ascent + font.descent) fontSize
    ⟨font.width, if font.hasOutlines then height else fontSize⟩

/-- The measurer of the font of a family. -/
def Measurer.ofFamily (system : FontSystem) (find : FontFinder) (family : Text)
    (fontSize : Float) : Except FontError (Measurer Float) :=
  (fun search => Measurer.ofFont fontSize search.font)
    <$> searchFont system find [] family fontSize

end BoxDiagram
