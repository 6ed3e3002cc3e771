import Bindery.Generate

set_option autoImplicit false
set_option relaxedAutoImplicit false

/-!
Sessions in the directory of a crate: its manifest is written, removed, and read in between runs of
the generator, which share one cache.
-/

namespace Bindery

structure CrateSession where
  directory : String
  file : Option StoredFile := none
  /-- Whether the crate is the one being built. -/
  entered : Bool := false
  cache : ManifestCache := []

namespace CrateSession

inductive Step where
  | write (file : StoredFile)
  | remove
  | enter
  | leave
  | shared
  | read
  | generate (options : Options) (items : Items)
  | generateMain (options : Options) (items : Items) (target : Target)

inductive Reply where
  | done
  | path (result : Except GenerateError (Option CratePath))
  | files (result : Except GenerateError (List OutputFile))
  | text (result : Except GenerateError String)

def manifestPath (s : CrateSession) : String := manifestIn s.directory

def environment (s : CrateSession) : Environment where
  crateDirectory := if s.entered then some s.directory else none
  read path :=
    if path = s.manifestPath then
      match s.file with
      | some file => .ok file
      | none => .error .notFound
    else .error .notFound

/-- Takes a step: the state after it, the entries it writes, and the reply. -/
def step (s : CrateSession) : Step → CrateSession × List Entry × Reply
  | .write file => ({ s with file := some file }, [], .done)
  | .remove => ({ s with file := none }, [], .done)
  | .enter => ({ s with entered := true }, [], .done)
  | .leave => ({ s with entered := false }, [], .done)
  | .shared =>
    let (cache, run) := s.cache.shared s.environment
    ({ s with cache }, run.entries, .path (run.result.map fun m => m.map Manifest.runtimePath))
  | .read =>
    let found := Manifest.readAt s.environment s.manifestPath
    (s, [], .path (found.map fun dated => some dated.manifest.runtimePath))
  | .generate options items =>
    let (cache, run) := Bindery.generate s.environment options items s.cache
    ({ s with cache }, run.entries, .files run.result)
  | .generateMain options items target =>
    let (cache, run) := Bindery.generateMain s.environment options items target s.cache
    ({ s with cache }, run.entries, .text run.result)

end CrateSession

end Bindery
