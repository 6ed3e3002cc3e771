import Bindery.Command.FileSystem
import Bindery.Command.Invocation
import Bindery.Command.Report
import Bindery.Description.Reading
import Bindery.Generate
import Bindery.Symbols

set_option autoImplicit false
set_option relaxedAutoImplicit false

/-!
Running commands: a command reads a description, does its work, and either prints a text or ends
with a report. Files are written only after everything has been generated.
-/

namespace Bindery.Command

/-- A piece of a command: it uses its surroundings, writes journal entries, and may end with a
report. -/
def Job (m : Type → Type) (α : Type) : Type := m (Run Report α)

namespace Job

variable {m : Type → Type} [Monad m] {α β : Type}

def ofRun (r : Run Report α) : Job m α := (pure r : m (Run Report α))

def andThen (job : Job m α) (next : α → Job m β) : Job m β :=
  show m (Run Report β) from do
    let first ← (job : m (Run Report α))
    match first.result with
    | .error report => pure ⟨first.entries, .error report⟩
    | .ok a =>
      let second ← (next a : m (Run Report β))
      pure ⟨first.entries ++ second.entries, second.result⟩

instance : Monad (Job m) where
  pure a := ofRun (pure a)
  bind := andThen

def lift (action : m α) : Job m α :=
  show m (Run Report α) from do
    let a ← action
    pure (pure a)

/-- Uses a file or directory; a fault is a report with the given message. -/
def attempt (message : String) (action : m (Except FileFault α)) : Job m α :=
  show m (Run Report α) from do
    match ← action with
    | .ok a => pure (pure a)
    | .error fault => pure (Run.fail ⟨message, [.text fault.message]⟩)

end Job

variable {m : Type → Type} [Monad m]

def readItems (fs : FileSystem m) (path : String) : Job m Items := do
  let text ← Job.attempt ("failed to read `" ++ path ++ "`") (do
    let file ← fs.read path
    pure (file.bind StoredFile.text))
  match Items.parse text with
  | .error _ =>
    Job.ofRun (Run.fail ⟨"`" ++ path ++ "` is not a valid interface description", [.unreadable]⟩)
  | .ok items =>
    Job.ofRun (Run.note .debug ("read " ++ path))
    pure items

def writeFile (fs : FileSystem m) (path text : String) : Job m Unit := do
  Job.attempt ("failed to write `" ++ path ++ "`") (fs.write path text)
  Job.ofRun (Run.note .info ("wrote " ++ path))

/-- Writes files into a directory, one after the other. -/
def writeFiles (fs : FileSystem m) (directory : String) : List OutputFile → Job m Unit
  | [] => pure ()
  | file :: rest => do
    writeFile fs (joinPath directory file.name) file.contents
    writeFiles fs directory rest

/-- What the generator sees: the manifest of the crate being built and no other file. -/
def surroundings (fs : FileSystem m) : m Environment := do
  let directory ← fs.crateDirectory
  let bare : Environment := ⟨directory, fun _ => .error .notFound⟩
  match bare.manifestPath? with
  | none => pure bare
  | some path =>
    let file ← fs.read path
    pure ⟨directory, fun asked => if asked = path then file else .error .notFound⟩

def causesOf (e : GenerateError) : List Cause :=
  .text e.message ::
    match e with
    | .readManifest _ fault => [.text fault.message]
    | .parseManifest _ => [.unreadable]
    | _ => []

def stemOf (r : GenerateRequest) : Except Report String :=
  match r.stem with
  | some stem => .ok stem
  | none =>
    match fileStem? r.file with
    | some stem => .ok stem
    | none => .error ⟨"cannot derive an output name from `" ++ r.file ++ "`", []⟩

def optionsOf (r : GenerateRequest) (stem : String) : Options :=
  let base : Options :=
    { stem
      linkName := r.library
      symbolPrefix := r.symbolTag
      headerPrefix := r.headerTag
      runtimePath := r.runtimePath }
  base.retarget r.targets

def runGenerate (fs : FileSystem m) (r : GenerateRequest) : Job m String := do
  let items ← readItems fs r.file
  let stem ← Job.ofRun (Run.ofExcept (stemOf r))
  let env ← Job.lift (surroundings fs)
  let files ← Job.ofRun
    ((generate env (optionsOf r stem) items []).2.mapError fun e =>
      ⟨"cannot generate bindings for `" ++ r.file ++ "`", causesOf e⟩)
  Job.attempt ("failed to create `" ++ r.output ++ "`") (fs.makeDirectories r.output)
  writeFiles fs r.output files
  pure ""

def invalidReport (problems : List Problem) : Report := ⟨Problem.summary problems, []⟩

def runCheck (fs : FileSystem m) (file : String) : Job m String := do
  let items ← readItems fs file
  Job.ofRun (items.validate.mapError invalidReport)
  pure (file ++ ": " ++ toString items.structs.length ++ " structs, " ++
    toString items.abstractStructs.length ++ " abstract structs, " ++
    toString items.functions.length ++ " functions\n")

def runSymbols (fs : FileSystem m) (r : SymbolsRequest) : Job m String := do
  let items ← readItems fs r.file
  Job.ofRun (items.validate.mapError invalidReport)
  let text := Symbols.render items { symbolPrefix := r.symbolTag } r.format
  match r.output with
  | some path =>
    writeFile fs path text
    pure ""
  | none => pure text

/-- Does what is asked; the value is the text to print. -/
def perform (fs : FileSystem m) : Request → Job m String
  | .generate r => runGenerate fs r
  | .check file => runCheck fs file
  | .symbols r => runSymbols fs r

structure Outcome where
  code : Nat
  output : String
  errors : String
  deriving DecidableEq, Repr

def usage : String :=
  "Usage: vellum [OPTIONS] <COMMAND>\n\nCommands:\n" ++
    "  generate  Write bindings for an interface description\n" ++
    "  check     Validate an interface description\n" ++
    "  symbols   List the exported symbols\n"

def Stop.outcome : Stop → Outcome
  | .refused => ⟨2, "", usage⟩
  | .help => ⟨0, usage, ""⟩
  | .version => ⟨0, "vellum 0.1.0\n", ""⟩

def outcomeOf (run : Run Report String) : Outcome :=
  match run.result with
  | .ok text => ⟨0, text, ""⟩
  | .error report => ⟨1, "", report.render⟩

/-- Runs the command line: the entries to show and how it ends. -/
def run (fs : FileSystem m) (args : List String) : m (List Entry × Outcome) := do
  match parse args with
  | .error stop => pure ([], stop.outcome)
  | .ok invocation =>
    let done ← (perform fs invocation.request : m (Run Report String))
    let shown := shownLevels invocation.volume
    pure (done.entries.filter fun e => shown.contains e.level, outcomeOf done)

end Bindery.Command
