import Bindery.Command.FileTree

set_option autoImplicit false
set_option relaxedAutoImplicit false

/-!
What a command needs of its surroundings.
-/

namespace Bindery.Command

/-- Access to files and to the directory of the crate being built. -/
structure FileSystem (m : Type → Type) where
  crateDirectory : m (Option String)
  read : String → m (Except FileFault StoredFile)
  write : String → String → m (Except FileFault Unit)
  makeDirectories : String → m (Except FileFault Unit)

/-- Applies a change that may fail to a tree. -/
def FileTree.change (f : FileTree → Except FileFault FileTree) :
    StateM FileTree (Except FileFault Unit) := fun tree =>
  match f tree with
  | .ok changed => (.ok (), changed)
  | .error fault => (.error fault, tree)

def FileTree.fileSystem (crateDirectory : Option String) : FileSystem (StateM FileTree) where
  crateDirectory := pure crateDirectory
  read path := fun tree => ((tree.read path).map fun text => ⟨text.toUTF8, 0⟩, tree)
  write path text := FileTree.change fun tree => tree.write path text
  makeDirectories path := FileTree.change fun tree => tree.makeDirectories path

end Bindery.Command
