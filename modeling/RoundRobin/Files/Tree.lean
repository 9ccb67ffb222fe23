import RoundRobin.Files.Path

namespace RoundRobin

/-!
# Trees of files

A tree of files has files and directories at places below its root. A path is
followed name by name, from the root or from the working directory, and every
place that is left on the way must be a directory.
-/

/-- A place in a tree of files: the names on the way to it, the last one first. -/
abbrev Place :=
  List String

/-- What is at a place. -/
inductive FileNode where
  | file (content : ByteArray)
  | directory

/-- Files and directories, and the place where relative paths start. -/
structure FileTree where
  /-- What is at the places below the root; the first entry of a place counts. -/
  entries : List (Place × FileNode) := []
  workingDirectory : Place := []

namespace FileTree

/-- What is at a place; the root is a directory. -/
def node?
    (tree : FileTree)
    (place : Place) :
    Option FileNode :=
  if place.isEmpty then some .directory else tree.entries.lookup place

/-- Whether there is a directory at a place. -/
def isDirectory
    (tree : FileTree)
    (place : Place) :
    Bool :=
  match tree.node? place with
  | some .directory => true
  | _ => false

/-- Put something at a place. -/
def put
    (tree : FileTree)
    (place : Place)
    (node : FileNode) :
    FileTree :=
  { tree with entries := (place, node) :: tree.entries }

/-- What was put at a place is there. -/
@[simp] theorem node?_put_self
    (tree : FileTree)
    (name : String)
    (place : Place)
    (node : FileNode) :
    (tree.put (name :: place) node).node? (name :: place) = some node := by
  simp [node?, put]

/-- The place that a name leads to from another. -/
def towards
    (place : Place)
    (name : String) :
    Place :=
  if Path.staysInPlace name then place
  else if name == ".." then place.tail
  else name :: place

/-- Where a path starts to be followed. -/
def startOf
    (tree : FileTree)
    (path : String) :
    Place :=
  if Path.isAbsolute path then [] else tree.workingDirectory

/-- Follow names from a place; only a directory can be left. -/
def follow?
    (tree : FileTree)
    (place : Place) :
    List String →
    Option Place
  | [] => some place
  | name :: rest =>
      if tree.isDirectory place then tree.follow? (towards place name) rest
      else none

/--
The place that a path leads to, whether or not there is something. The empty
path leads nowhere, and neither does one that is not usable.
-/
def resolve?
    (tree : FileTree)
    (path : String) :
    Option Place :=
  if path.isEmpty || !Path.isUsable path then none
  else tree.follow? (tree.startOf path) (Path.names path)

/-- What a path leads to. -/
def find?
    (tree : FileTree)
    (path : String) :
    Option FileNode :=
  (tree.resolve? path).bind tree.node?

/-- Make directories on the way along names, where there is nothing yet. -/
def makeWay?
    (place : Place) :
    List String →
    FileTree →
    Option FileTree
  | [], tree => some tree
  | name :: rest, tree =>
      let next := towards place name
      match tree.node? next with
      | some .directory => makeWay? next rest tree
      | some (.file _) => none
      | none => makeWay? next rest (tree.put next .directory)

/-- Make the directory that a path leads to and all directories on the way. -/
def makeDirectories?
    (tree : FileTree)
    (path : String) :
    Option FileTree :=
  if Path.isUsable path then makeWay? (tree.startOf path) (Path.names path) tree
  else none

/-- Write a file; its directory must be there. -/
def write?
    (tree : FileTree)
    (path : String)
    (content : ByteArray) :
    Option FileTree :=
  match tree.resolve? path with
  | none => none
  | some place =>
      if tree.isDirectory place then none
      else some (tree.put place (.file content))

end FileTree

end RoundRobin
