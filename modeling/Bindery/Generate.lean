import Bindery.Header.File
import Bindery.Loader.File
import Bindery.ManifestCache
import Bindery.Validity.Check
import Bindery.Wrapper.Declaration

set_option autoImplicit false
set_option relaxedAutoImplicit false

/-!
Generating bindings. The options are checked first and the description second; then each target
makes its files on its own, in the order of the targets, and the first one that fails ends the run.
-/

namespace Bindery

structure OutputFile where
  name : String
  contents : String
  deriving DecidableEq, Repr

namespace Generate

variable {α : Type}

/-- Where the wrapper file finds the ownership types: at the path in the options, else where the
manifest of the crate being built has them. -/
def runtimePath (env : Environment) (options : Options) (cache : ManifestCache) :
    ManifestCache × Run GenerateError CratePath :=
  match options.runtimePath with
  | some text =>
    match CratePath.parse? text with
    | some path => (cache, pure path)
    | none => (cache, Run.fail (.invalidPath text))
  | none =>
    let (cache, found) := cache.shared env
    (cache, do
      match ← found with
      | some manifest => pure manifest.runtimePath
      | none => pure (Manifest.defaultPath Manifest.runtimeCrate))

def wrapperText (options : Options) (items : Items) (rt : CratePath) :
    Run GenerateError String := do
  Run.note .debug ("runtime crate resolved to `" ++ rt.render ++ "`")
  Run.ofExcept (Wrapper.checkNames (Wrapper.usedNames items))
  let _ ← Run.forEach (fun f => Run.note .trace ("wrapper `" ++ f.name ++ "`")) items.functions
  pure (Wrapper.file rt options items)

def interfaceText (options : Options) (items : Items) : Run GenerateError String := do
  let ts ← Run.ofExcept (Header.typedefs options.resolvedHeaderPrefix items)
  Run.note .trace (toString ts.length ++ " C typedefs")
  pure (Header.interfaceText options (Header.declarations items ts))

def loaderText (options : Options) (items : Items) : Run GenerateError String := do
  Run.ofExcept (Loader.checkNames (Loader.classNames items))
  let _ ← Run.forEach (fun f => Run.note .trace ("ctypes declaration `" ++ f.name ++ "`"))
    items.functions
  pure (Loader.file options items)

/-- The main file of a target for a valid description with its structs in layout order. -/
def mainText (env : Environment) (options : Options) (items : Items) (cache : ManifestCache) :
    Target → ManifestCache × Run GenerateError String
  | .rust =>
    let (cache, path) := runtimePath env options cache
    (cache, path >>= wrapperText options items)
  | .c => (cache, interfaceText options items)
  | .python => (cache, loaderText options items)

def ending : Target → String
  | .rust => ".rs"
  | .c => ".h"
  | .python => ".py"

/-- The files of a target, given its main file. -/
def filesOf (options : Options) (items : Items) (t : Target) (main : String) : List OutputFile :=
  let first : OutputFile := ⟨options.stem ++ ending t, main⟩
  match t with
  | .c => [first, ⟨options.stem ++ "_export.h", Header.implementationText options items⟩]
  | _ => [first]

/-- The files of several targets, up to the first one that fails. -/
def targetFiles (env : Environment) (options : Options) (items : Items) :
    List Target → ManifestCache → ManifestCache × Run GenerateError (List OutputFile)
  | [], cache => (cache, pure [])
  | t :: ts, cache =>
    let start : Run GenerateError Unit :=
      Run.note .debug ("generating " ++ t.name ++ " bindings for `" ++ options.stem ++ "`")
    let (cache, main) := mainText env options items cache t
    match main.result with
    | .error _ => (cache, start >>= fun _ => main.andThen fun _ => pure [])
    | .ok _ =>
      let (cache, rest) := targetFiles env options items ts cache
      (cache, do
        start
        let text ← main
        let files ← rest
        pure (filesOf options items t text ++ files))

/-- Checks options and description, then goes on with the description in layout order. -/
def checked (options : Options) (items : Items) (cache : ManifestCache)
    (next : Items → ManifestCache × Run GenerateError α) : ManifestCache × Run GenerateError α :=
  let start : Run GenerateError Items := do
    Run.ofExcept options.check
    items.validated.mapError .invalid
  match start.result with
  | .error e => (cache, ⟨start.entries, .error e⟩)
  | .ok arranged =>
    let (cache, rest) := next arranged
    (cache, start >>= fun _ => rest)

end Generate

/-- Generates the files of all targets in the options. -/
def generate (env : Environment) (options : Options) (items : Items) (cache : ManifestCache) :
    ManifestCache × Run GenerateError (List OutputFile) :=
  Generate.checked options items cache fun arranged =>
    Generate.targetFiles env options arranged options.targets cache

/-- Generates the main file of one target, whatever targets the options list. -/
def generateMain (env : Environment) (options : Options) (items : Items) (t : Target)
    (cache : ManifestCache) : ManifestCache × Run GenerateError String :=
  Generate.checked options items cache fun arranged =>
    Generate.mainText env options arranged cache t

end Bindery
