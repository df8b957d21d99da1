import SessionHost.Engine.Call
import SessionHost.Storage.Path
import SessionHost.Text.Utf8

namespace SessionHost

/-!
# The file tree

The tree is an array of nodes, and a directory gives the names of other nodes
and the directory above it.  The first node is the root.  Engine libraries are
in the tree too, as files that export entry points.

Following a path checks that every node on the way is a directory before the
next name is looked at.  The last name may be free: then the directory that
would hold it exists, and a file can be created there.
-/

/-- Why the file tree refuses. -/
inductive FileError where
  | notFound
  | notADirectory
  | isADirectory
  | alreadyExists
  | noSpace
  | nameTooLong
  /-- The path holds a NUL. -/
  | interiorNul
  /-- The file's content is no UTF-8. -/
  | notText
deriving DecidableEq, Repr

def FileError.message : FileError → String
  | notFound => "No such file or directory (os error 2)"
  | notADirectory => "Not a directory (os error 20)"
  | isADirectory => "Is a directory (os error 21)"
  | alreadyExists => "File exists (os error 17)"
  | noSpace => "No space left on device (os error 28)"
  | nameTooLong => "File name too long (os error 36)"
  | interiorNul => "file name contained an unexpected NUL byte"
  | notText => "stream did not contain valid UTF-8"

/-- The number of a node. -/
abbrev NodeId := Nat

inductive Node where
  | directory (above : NodeId) (entries : List (Bytes × NodeId))
  | file (content : Bytes)
  /-- An engine library with the entry points that it exports. -/
  | library (exports : List Symbol)
  /-- A device that is always empty.  Nothing of what is written is kept; one
  that is full even refuses it. -/
  | device (full : Bool)
deriving DecidableEq, Repr

/-- The number of the outermost directory, which is its own parent. -/
def Node.root : NodeId := 0

structure FileTree where
  nodes : Array Node := #[.directory Node.root []]
  /-- The directory where relative paths begin. -/
  working : NodeId := Node.root
  /-- The libraries that the system finds by their bare names.  None of them is
  an engine. -/
  system : List Bytes := []
deriving DecidableEq, Repr

namespace FileTree

/-- Where a path leads. -/
inductive Spot where
  /-- To something that is there. -/
  | taken (id : NodeId)
  /-- To a name that is free in a directory. -/
  | free (directory : NodeId) (name : Bytes)
deriving DecidableEq, Repr

/-! ## Following paths -/

/-- The most bytes that a name may have. -/
def longestName : Nat := 255

/-- The most bytes that a path may have. -/
def longestPath : Nat := 4095

/-- Follow names from a node. -/
def walk (tree : FileTree) : NodeId → List Bytes → Except FileError Spot
  | id, [] => .ok (.taken id)
  | id, name :: rest =>
    match tree.nodes[id]? with
    | some (.directory above entries) =>
      if name = Path.here then tree.walk id rest
      else if name = Path.above then tree.walk above rest
      else if longestName < name.length then .error .nameTooLong
      else match entries.lookup name with
        | some next => tree.walk next rest
        | none => if rest.isEmpty then .ok (.free id name) else .error .notFound
    | _ => .error .notADirectory

/-- Follow names from where a path begins, if the path can be used at all. -/
def follow (tree : FileTree) (path : Path) (names : List Bytes) : Except FileError Spot :=
  if path.hasNul then .error .interiorNul
  else if path.isEmpty then .error .notFound
  else if longestPath < path.length then .error .nameTooLong
  else tree.walk (if path.isAbsolute then Node.root else tree.working) names

/-- Where a path leads. -/
def resolve (tree : FileTree) (path : Path) : Except FileError Spot :=
  tree.follow path path.names

/-- What stands where a path leads.  A slash at the end asks for a directory. -/
def lookup (tree : FileTree) (path : Path) : Except FileError Node := do
  match ← tree.resolve path with
  | .free _ _ => .error .notFound
  | .taken id =>
    match tree.nodes[id]? with
    | none => .error .notFound
    | some (.directory above entries) => .ok (.directory above entries)
    | some node => if path.endsInSlash then .error .notADirectory else .ok node

def has (tree : FileTree) (path : Path) : Bool :=
  match tree.lookup path with
  | .ok _ => true
  | .error _ => false

def isDirectory (tree : FileTree) (path : Path) : Bool :=
  match tree.lookup path with
  | .ok (.directory _ _) => true
  | _ => false

/-! ## Reading -/

/-- The content of a file.  An engine library has no readable content. -/
def read (tree : FileTree) (path : Path) : Except FileError Bytes := do
  match ← tree.lookup path with
  | .directory _ _ => .error .isADirectory
  | .file content => .ok content
  | .library _ => .error .notText
  | .device _ => .ok []

def readText (tree : FileTree) (path : Path) : Except FileError String := do
  let content ← tree.read path
  match Utf8.decode? content with
  | some text => .ok text
  | none => .error .notText

/-! ## Writing -/

/-- Give a node a name that is free in a directory. -/
def enter (tree : FileTree) (directory : NodeId) (name : Bytes) (id : NodeId) : FileTree :=
  { tree with
    nodes := tree.nodes.modify directory fun
      | .directory above entries => .directory above ((name, id) :: entries)
      | other => other }

/-- Add a node to a directory under a name that is free there. -/
def add (tree : FileTree) (directory : NodeId) (name : Bytes) (node : Node) : FileTree :=
  { tree with nodes := tree.nodes.push node }.enter directory name tree.nodes.size

/-- Put a node in the place of another one. -/
def replace (tree : FileTree) (id : NodeId) (node : Node) : FileTree :=
  { tree with nodes := tree.nodes.modify id fun _ => node }

/-- Put a node where a path leads, if there is a directory for it. -/
def put (tree : FileTree) (path : Path) (node : Node) : FileTree :=
  match tree.resolve path with
  | .ok (.taken id) => tree.replace id node
  | .ok (.free directory name) => tree.add directory name node
  | .error _ => tree

/-- Give what a path leads to a second name, where another path leads. -/
def link (tree : FileTree) (target path : Path) : FileTree :=
  match tree.resolve target, tree.resolve path with
  | .ok (.taken id), .ok (.free directory name) => tree.enter directory name id
  | _, _ => tree

/-- Write a file, new or not.  A path with a slash at its end names no file, and
that is noticed before its last name is looked at. -/
def write (tree : FileTree) (path : Path) (content : Bytes) : Except FileError FileTree := do
  if path.endsInSlash then
    let _ ← tree.follow path (path.names.dropLast ++ [Path.here])
    .error .isADirectory
  else match ← tree.resolve path with
    | .free directory name => .ok (tree.add directory name (.file content))
    | .taken id =>
      match tree.nodes[id]? with
      | some (.directory _ _) => .error .isADirectory
      | some (.device full) => if full && !content.isEmpty then .error .noSpace else .ok tree
      | _ => .ok (tree.replace id (.file content))

/-- Make one directory. -/
def makeDirectory (tree : FileTree) (path : Path) : Except FileError FileTree := do
  match ← tree.resolve path with
  | .taken _ => .error .alreadyExists
  | .free directory name => .ok (tree.add directory name (.directory directory []))

/-- Make a directory unless there is one. -/
def ensureDirectory (tree : FileTree) (path : Path) : Option FileError × FileTree :=
  match tree.makeDirectory path with
  | .ok made => (none, made)
  | .error error => (if tree.isDirectory path then none else some error, tree)

/-- Make a directory, and those above it where they are missing.  What was made
before a failure stays. -/
def makeAll (tree : FileTree) (path : Path) : Option FileError × FileTree :=
  if path.isEmpty then (none, tree)
  else match tree.ensureDirectory path with
    | (some .notFound, _) =>
      match _found : path.parent? with
      | none => (some .notFound, tree)
      | some directory =>
        match tree.makeAll directory with
        | (some error, tree) => (some error, tree)
        | (none, tree) => tree.ensureDirectory path
    | outcome => outcome
termination_by path.length
decreasing_by exact Path.parent?_length (by assumption)

/-- The tree with another working directory, if the path leads to one. -/
def workIn (tree : FileTree) (path : Path) : FileTree :=
  match tree.resolve path with
  | .ok (.taken id) => if tree.isDirectory path then { tree with working := id } else tree
  | _ => tree

end FileTree

end SessionHost
