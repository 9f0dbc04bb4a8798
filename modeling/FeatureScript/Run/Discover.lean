import FeatureScript.Files.FileSystem
import FeatureScript.Run.Error
import FeatureScript.Run.Helper

/-!
# FeatureScript.Run.Discover

The feature files of a directory: its own regular files, not those of directories in it and not the
targets of links, in ascending order of the bytes of their names. Names that are no text are passed
over.
-/

namespace FeatureScript

/-- Names in ascending order. -/
def sortNames (names : List FileName) : List FileName := names.mergeSort fun a b => decide (a ≤ b)

/-- The path of a file under a name, if it is a feature file. -/
def featurePath? (dir : String) (name : FileName) : Option String :=
  match name.text? with
  | none => none
  | some name =>
    let path := Path.join dir name
    if (helperName? path).isSome then some path else none

/-- The feature files among the entries of a directory. -/
def featurePaths (dir : String) (entries : List DirectoryEntry) : List String :=
  let files := entries.filter fun entry => entry.kind = .file
  (sortNames (files.map DirectoryEntry.name)).filterMap (featurePath? dir)

/-- The paths of the feature files of a directory. A file in its place has none. -/
def discover (fs : FileSystem) (dir : String) : Except RunError (List String) :=
  match fs.kind dir with
  | .error e => .error (.unlisted dir e)
  | .ok _ =>
    match fs.targetKind dir with
    | .error e => .error (.unlisted dir e)
    | .ok .directory =>
      match fs.entries dir with
      | .error e => .error (.unlisted dir e)
      | .ok entries => .ok (featurePaths dir entries)
    | .ok _ => .ok []

end FeatureScript
