import Bindery.Command.PathText
import Bindery.Files

set_option autoImplicit false
set_option relaxedAutoImplicit false

/-!
Trees of text files around a working directory. Of what lies outside of the working directory only
the directories and the device that every system has are known, and what is made there.
-/

namespace Bindery.Command

/-- A directory that the names of places count from. -/
inductive Base where
  | working
  /-- A directory above the working directory, its parent being the nearest one. -/
  | above (distance : Nat)
  | root
  deriving DecidableEq, Repr

structure Place where
  base : Base
  path : List String
  deriving DecidableEq, Repr

namespace Place

def child (place : Place) (name : String) : Place := ⟨place.base, place.path ++ [name]⟩

def parent (place : Place) : Place :=
  match place.path, place.base with
  | [], .working => ⟨.above 0, []⟩
  | [], .above distance => ⟨.above (distance + 1), []⟩
  | [], .root => place
  | path, base => ⟨base, path.dropLast⟩

/-- Whether a place is another one or lies below it. -/
def isWithin (inner outer : Place) : Bool :=
  inner.base == outer.base && outer.path.isPrefixOf inner.path

/-- The directories that every system has below its root. -/
def standard : List Place := [⟨.root, ["dev"]⟩, ⟨.root, ["tmp"]⟩]

/-- The device that is always empty and keeps nothing. -/
def null : Place := ⟨.root, ["dev", "null"]⟩

def start (path : String) : Place := if isAbsolute path then ⟨.root, []⟩ else ⟨.working, []⟩

end Place

def maxName : Nat := 255

def maxPath : Nat := 4095

/-- The files of a tree, and directories beyond those that files are in. -/
structure FileTree where
  files : List (Place × String) := []
  directories : List Place := Place.standard

inductive Node where
  | file (text : String)
  | directory
  | absent

namespace FileTree

/-- The tree of files with the given paths in the working directory. -/
def ofFiles (files : List (String × String)) : FileTree :=
  { files := files.map fun (path, text) => (⟨.working, components path⟩, text) }

def node (tree : FileTree) (place : Place) : Node :=
  if place == Place.null then .file ""
  else
    match tree.files.find? fun f => f.1 == place with
    | some f => .file f.2
    | none =>
      if place.path.isEmpty || tree.directories.any (·.isWithin place) ||
          tree.files.any fun f => f.1.isWithin place then .directory
      else .absent

def lookup (tree : FileTree) (place : Place) (name : String) : Except FileFault Node :=
  if name.utf8ByteSize > maxName then .error .nameTooLong else .ok (tree.node (place.child name))

def enter (tree : FileTree) (place : Place) (component : String) : Except FileFault Place :=
  match component with
  | "." => .ok place
  | ".." => .ok place.parent
  | name =>
    match tree.lookup place name with
    | .error fault => .error fault
    | .ok .directory => .ok (place.child name)
    | .ok (.file _) => .error .notDirectory
    | .ok .absent => .error .notFound

def walk (tree : FileTree) (start : Place) (cs : List String) : Except FileFault Place :=
  cs.foldlM tree.enter start

def isDirectory (tree : FileTree) (start : Place) (cs : List String) : Bool :=
  (tree.walk start cs).isOk

/-- The directory that components lead into, and the last component. -/
def parentOf (tree : FileTree) (start : Place) (cs : List String) :
    Except FileFault (Place × String) := do
  let place ← tree.walk start cs.dropLast
  pure (place, cs.getLast?.getD ".")

def checkLength (path : String) : Except FileFault Unit :=
  if path.utf8ByteSize > maxPath then .error .nameTooLong else .ok ()

/-- Whether a component stands for a directory wherever it is. -/
def isStep (component : String) : Bool := component == "." || component == ".."

def read (tree : FileTree) (path : String) : Except FileFault String := do
  checkLength path
  let (place, name) ← tree.parentOf (Place.start path)
    (if endsWithSlash path then components path ++ ["."] else components path)
  if isStep name then throw .isDirectory
  match ← tree.lookup place name with
  | .file text => pure text
  | .directory => throw .isDirectory
  | .absent => throw .notFound

def setFile (tree : FileTree) (place : Place) (text : String) : FileTree :=
  if place == Place.null then tree
  else if tree.files.any fun f => f.1 == place then
    { tree with files := tree.files.map fun f => if f.1 == place then (place, text) else f }
  else { tree with files := tree.files ++ [(place, text)] }

/-- Writes the file at a path. A path that ends with a slash names a directory, also if there is
none. -/
def write (tree : FileTree) (path text : String) : Except FileFault FileTree := do
  checkLength path
  let (place, name) ← tree.parentOf (Place.start path) (components path)
  if isStep name || endsWithSlash path then throw .isDirectory
  match ← tree.lookup place name with
  | .directory => throw .isDirectory
  | _ => pure (tree.setFile (place.child name) text)

def makeDirectory (tree : FileTree) (start : Place) (cs : List String) :
    Except FileFault FileTree := do
  let (place, name) ← tree.parentOf start cs
  if isStep name then throw .alreadyExists
  match ← tree.lookup place name with
  | .absent => pure { tree with directories := tree.directories ++ [place.child name] }
  | _ => throw .alreadyExists

def ensureDirectory (tree : FileTree) (start : Place) (cs : List String) :
    Except FileFault FileTree :=
  match tree.makeDirectory start cs with
  | .ok made => .ok made
  | .error fault => if tree.isDirectory start cs then .ok tree else .error fault

/-- Makes a directory with its parents, given its components from the last to the first. -/
def ensureParents (tree : FileTree) (start : Place) : List String → Except FileFault FileTree
  | [] => .ok tree
  | c :: parents =>
    match tree.ensureDirectory start (c :: parents).reverse with
    | .error .notFound => do
      let tree ← tree.ensureParents start parents
      tree.ensureDirectory start (c :: parents).reverse
    | result => result

def makeDirectories (tree : FileTree) (path : String) : Except FileFault FileTree := do
  checkLength path
  let start := Place.start path
  match tree.ensureDirectory start (components path) with
  | .error .notFound =>
    let tree ← tree.ensureParents start (normalized (components path)).dropLast.reverse
    tree.ensureDirectory start (components path)
  | result => result

/-- The files of the working directory that are new or have another text than in an earlier tree. -/
def changes (tree earlier : FileTree) : List (String × String) :=
  tree.files.filterMap fun (place, text) =>
    if place.base != .working || earlier.files.lookup place == some text then none
    else some ("/".intercalate place.path, text)

end FileTree

end Bindery.Command
