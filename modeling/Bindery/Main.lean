import Bindery.Command.Run

set_option autoImplicit false
set_option relaxedAutoImplicit false

/-!
The command line program.
-/

namespace Bindery.Main

open Command

/-- The fault behind an error of the operating system. -/
def faultOf : IO.Error → FileFault
  | .noFileOrDirectory .. => .notFound
  | .alreadyExists .. => .alreadyExists
  | .inappropriateType .. => .isDirectory
  | .illegalOperation .. => .isDirectory
  | .invalidArgument .. => .nameTooLong
  | _ => .notDirectory

def attempt {α : Type} (action : IO α) : IO (Except FileFault α) := do
  try
    pure (.ok (← action))
  catch e => pure (.error (faultOf e))

def machine : FileSystem IO where
  crateDirectory := IO.getEnv "CARGO_MANIFEST_DIR"
  read path := attempt do
    let contents ← IO.FS.readBinFile path
    pure ⟨contents, 0⟩
  write path text := attempt (IO.FS.writeFile path text)
  makeDirectories path := attempt (IO.FS.createDirAll path)

def entryLine (e : Entry) : String := "[" ++ e.level.name ++ "] " ++ e.message

end Bindery.Main

def main (args : List String) : IO UInt32 := do
  let (entries, outcome) ← Bindery.Command.run Bindery.Main.machine args
  for e in entries do
    IO.eprintln (Bindery.Main.entryLine e)
  IO.print outcome.output
  IO.eprint outcome.errors
  pure outcome.code.toUInt32
