import FeatureScript.Files.Tree
import FeatureScript.Run.Program

/-!
# FeatureScript.Main

The program `plainbdd`. It has no definitions of its own, so every step is missing, and the advice
shows how to write them.

The files it may look at are named on standard input, one path on a line, as `find features` lists
them. They are read first; the run itself sees them as a tree.
-/

namespace FeatureScript
namespace Main

/-- The lines of standard input; a terminal has none. -/
def inputLines : IO (List String) := do
  let input ← IO.getStdin
  if ← input.isTty then return []
  let mut text := ""
  repeat
    let line ← input.getLine
    if line.isEmpty then break
    text := text ++ line
  return (Text.lines text.toList).map String.ofList

/-- What stands at a path. What cannot be read as a file is taken for a directory. -/
def readNode (path : String) : IO Node := do
  try
    return .file (← IO.FS.readBinFile path)
  catch _ =>
    return .directory

/-- Adds what stands at a path to a tree. -/
def addPath (t : Tree) (path : String) : IO Tree := do
  return t.add path.toUTF8.toList (← readNode path)

/-- The variables that the program looks at. -/
def environment : IO Environment := do
  let values ← Environment.names.mapM fun name => do return (name, ← IO.getEnv name)
  return fun name => (values.lookup name).join

/-- Runs the program and returns its exit status. -/
def run (arguments : List String) : IO UInt32 := do
  let tree ← (← inputLines).foldlM addPath Tree.empty
  let output ← IO.getStdout
  let terminal ← output.isTty
  let (exit, trouble, pipe) := runProgram Pipe.sink terminal tree.fileSystem Catalog.empty
    (← environment) arguments {}
  output.write (Pipe.sink.written pipe)
  output.flush
  match trouble with
  | some trouble => IO.eprintln trouble.message
  | none => pure ()
  return exit.code.toUInt32

end Main
end FeatureScript

def main (arguments : List String) : IO UInt32 := FeatureScript.Main.run arguments
