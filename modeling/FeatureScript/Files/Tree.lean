import FeatureScript.Files.FileSystem
import FeatureScript.Text.Split

/-!
# FeatureScript.Files.Tree

A tree of files, directories and links, as a file system. Its root is the current directory.

A path is walked name by name. Each name but the first is looked up in a directory, so a slash
behind the last name asks for a directory too. A link is replaced by its target; one path may follow
at most forty of them. The limits on the length of names and paths are counted in bytes.

Everything outside of the tree counts as one empty directory, which is its own parent.
-/

namespace FeatureScript

/-- A file, a directory or a link. The target of a link is a path, relative to its directory. -/
inductive Node where
  | file (content : ByteArray)
  | directory
  | link (target : List UInt8)

def Node.kind : Node → FileKind
  | .file _ => .file
  | .directory => .directory
  | .link _ => .link

/-- Where something stands: the names from the innermost one to the root of the tree, or outside. -/
inductive Place where
  | inside (names : List FileName)
  | outside
  deriving DecidableEq, Repr

namespace Place

def child (name : FileName) : Place → Place
  | inside names => inside (name :: names)
  | outside => outside

def parent : Place → Place
  | inside (_ :: names) => inside names
  | inside [] => outside
  | outside => outside

end Place

/-- What stands where; the root is not listed. -/
structure Tree where
  nodes : List (List FileName × Node)

namespace Tree

def empty : Tree := ⟨[]⟩

/-- The node at a place. -/
def node? (t : Tree) : Place → Option Node
  | .inside [] | .outside => some .directory
  | .inside names => t.nodes.lookup names

/-- What stands in a directory under a name; outside of the tree, nothing does. -/
def entry? (t : Tree) (dir : Place) (name : FileName) : Option Node :=
  match dir with
  | .inside names => t.nodes.lookup (name :: names)
  | .outside => none

def isDirectoryAt (t : Tree) (place : Place) : Bool :=
  match t.node? place with
  | some .directory => true
  | _ => false

/-! ## Walking a path -/

def slash : UInt8 := 47

def dot : FileName := [46]

def dotDot : FileName := [46, 46]

/-- The number of links that one path may follow. -/
def linkLimit : Nat := 40

def nameLimit : Nat := 255

/-- A path is shorter than this. -/
def pathLimit : Nat := 4096

/-- Where a path starts, seen from a directory. -/
def start (here : Place) (path : List UInt8) : Place :=
  if path.head? = some slash then .outside else here

/-- Walks along names, and follows up to `links` links; a link in the last place is followed if
`follow` says so. -/
def walk (t : Tree) (follow : Bool) (links : Nat) (here : Place) :
    List FileName → Except FileError Place
  | [] => .ok here
  | name :: rest =>
    if !t.isDirectoryAt here then .error .notDirectory
    else if name = [] ∨ name = dot then t.walk follow links here rest
    else if name = dotDot then t.walk follow links here.parent rest
    else if nameLimit < name.length then .error .nameTooLong
    else
      match t.entry? here name with
      | none => .error .notFound
      | some (.link target) =>
        if rest.isEmpty && !follow then .ok (here.child name)
        else
          match links with
          | 0 => .error .tooManyLinks
          | links + 1 => t.walk follow links (start here target) (Text.split slash target ++ rest)
      | some _ => t.walk follow links (here.child name) rest
termination_by names => (links, names.length)

/-- The place a path leads to from the root of the tree. -/
def locate (t : Tree) (follow : Bool) (path : String) : Except FileError Place :=
  let bytes := path.toUTF8.toList
  if bytes.contains 0 then .error .zeroInPath
  else if bytes.isEmpty then .error .notFound
  else if pathLimit ≤ bytes.length then .error .nameTooLong
  else t.walk follow linkLimit (start (.inside []) bytes) (Text.split slash bytes)

/-- The node a path leads to, with its place. -/
def find (t : Tree) (follow : Bool) (path : String) : Except FileError (Place × Node) :=
  match t.locate follow path with
  | .error e => .error e
  | .ok place =>
    match t.node? place with
    | some node => .ok (place, node)
    | none => .error .notFound

/-! ## The file system -/

/-- The entry of a directory that a node is, if it stands there. -/
def entryOf? (dir : List FileName) : List FileName × Node → Option DirectoryEntry
  | (name :: names, node) => if names = dir then some ⟨name, node.kind⟩ else none
  | ([], _) => none

def entriesOf (t : Tree) : Place → List DirectoryEntry
  | .inside dir => t.nodes.filterMap (entryOf? dir)
  | .outside => []

def fileSystem (t : Tree) : FileSystem where
  kind path := (t.find false path).map fun found => found.2.kind
  targetKind path := (t.find true path).map fun found => found.2.kind
  entries path :=
    match t.find true path with
    | .ok (place, .directory) => .ok (t.entriesOf place)
    | .ok _ => .error .notDirectory
    | .error e => .error e
  readText path :=
    match t.find true path with
    | .ok (_, .file content) =>
      match String.fromUTF8? content with
      | some text => .ok text
      | none => .error .notText
    | .ok _ => .error .isDirectory
    | .error e => .error e

/-! ## Growing a tree -/

/-- Puts a node at a place, instead of what stood there. -/
def put (t : Tree) (place : Place) (node : Node) : Tree :=
  match place with
  | .inside [] | .outside => t
  | .inside names => ⟨(names, node) :: t.nodes.filter fun entry => entry.1 ≠ names⟩

/-- The place where names lead to, links followed, with the directories on the way made where they
are missing. Nothing has to stand at the last one. -/
def reach (t : Tree) (links : Nat) (here : Place) : List FileName → Tree × Place
  | [] => (t, here)
  | name :: rest =>
    if name = [] ∨ name = dot then t.reach links here rest
    else if name = dotDot then t.reach links here.parent rest
    else
      match t.entry? here name with
      | some (.link target) =>
        match links with
        | 0 => (t, here.child name)
        | links + 1 => t.reach links (start here target) (Text.split slash target ++ rest)
      | some _ => t.reach links (here.child name) rest
      | none =>
        if rest.isEmpty then (t, here.child name)
        else (t.put (here.child name) .directory).reach links (here.child name) rest
termination_by names => (links, names.length)

/-- Adds a node at a path, and the directories above it. A file is written through the links on its
path; a link is made in its own place. -/
def add (t : Tree) (path : List UInt8) (node : Node) : Tree :=
  let names := (Text.split slash path).filter fun name => name ≠ []
  match node with
  | .link _ =>
    let (t, dir) := t.reach linkLimit (start (.inside []) path) (names.dropLast ++ [dot])
    t.put (dir.child (names.getLastD [])) node
  | _ =>
    let (t, place) := t.reach linkLimit (start (.inside []) path) names
    t.put place node

end Tree
end FeatureScript
