/-!
# FeatureScript.Files.FileSystem

What a run asks of a file system: what stands at a path, which entries a directory has, and the text
of a file. Names of entries are bytes, for not every name is a text.
-/

namespace FeatureScript

/-- Why a file or a directory cannot be used. -/
inductive FileError where
  | notFound
  | notDirectory
  | isDirectory
  | nameTooLong
  | tooManyLinks
  /-- The path has a character with code zero. -/
  | zeroInPath
  /-- The bytes of the file are no text. -/
  | notText
  deriving DecidableEq, Repr

/-- The text of an error with its number. -/
def numbered (text : String) (number : Nat) : String :=
  text ++ " (os error " ++ toString number ++ ")"

def FileError.message : FileError → String
  | .notFound => numbered "No such file or directory" 2
  | .notDirectory => numbered "Not a directory" 20
  | .isDirectory => numbered "Is a directory" 21
  | .nameTooLong => numbered "File name too long" 36
  | .tooManyLinks => numbered "Too many levels of symbolic links" 40
  | .zeroInPath => "file name contained an unexpected NUL byte"
  | .notText => "stream did not contain valid UTF-8"

/-- What can stand at a path. -/
inductive FileKind where
  | file
  | directory
  | link
  deriving DecidableEq, Repr

/-- The name of an entry of a directory. -/
abbrev FileName := List UInt8

/-- The name as a text, if it is one. -/
def FileName.text? (name : FileName) : Option String := String.fromUTF8? ⟨name.toArray⟩

structure DirectoryEntry where
  name : FileName
  kind : FileKind
  deriving DecidableEq, Repr

/-- A file system that does not change. -/
structure FileSystem where
  /-- What stands at a path; a link in the last place is not followed. -/
  kind : String → Except FileError FileKind
  /-- What stands at the end of a path, links followed. -/
  targetKind : String → Except FileError FileKind
  /-- The entries of a directory, in any order. -/
  entries : String → Except FileError (List DirectoryEntry)
  /-- The text of a file. -/
  readText : String → Except FileError String

namespace FileSystem

/-- A directory stands at the end of the path. -/
def isDirectory (fs : FileSystem) (path : String) : Bool :=
  match fs.targetKind path with
  | .ok .directory => true
  | _ => false

end FileSystem
end FeatureScript
