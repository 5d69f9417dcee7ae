import BoxDiagram.Files.Path
import BoxDiagram.Text.Utf8

/-!
# Errors of files

An operation on files that fails says why, in the words in which systems report it.
-/

namespace BoxDiagram

/-- Why an operation on files failed. -/
inductive FileError where
  | notFound (path : Path)
  | isFolder (path : Path)
  | notFolder (path : Path)
  | alreadyExists (path : Path)
  | nameTooLong (path : Path)
  | replacesFolder (source target : Path)
  | replacesStep (source target : Path)
  | emptyName (path : Path)
  | nullCharacter
  | unknownUser
  | notText (error : Utf8Error)
  deriving DecidableEq, Repr

/-- A path in quotes. -/
def Path.quoted (p : Path) : Text := p.text.quoted

/-- Two paths in quotes with an arrow between them. -/
def Path.quotedPair (p q : Path) : Text := p.quoted ++ (" -> " : Text) ++ q.quoted

/-- What is said about an operation that failed. -/
def FileError.message : FileError → Text
  | .notFound p => ("[Errno 2] No such file or directory: " : Text) ++ p.quoted
  | .isFolder p => ("[Errno 21] Is a directory: " : Text) ++ p.quoted
  | .notFolder p => ("[Errno 20] Not a directory: " : Text) ++ p.quoted
  | .alreadyExists p => ("[Errno 17] File exists: " : Text) ++ p.quoted
  | .nameTooLong p => ("[Errno 36] File name too long: " : Text) ++ p.quoted
  | .replacesFolder p q => ("[Errno 21] Is a directory: " : Text) ++ p.quotedPair q
  | .replacesStep p q => ("[Errno 16] Device or resource busy: " : Text) ++ p.quotedPair q
  | .emptyName p => ("PosixPath(" : Text) ++ p.quoted ++ (") has an empty name" : Text)
  | .nullCharacter => "embedded null byte"
  | .unknownUser => "Could not determine home directory."
  | .notText e => e.message

end BoxDiagram
