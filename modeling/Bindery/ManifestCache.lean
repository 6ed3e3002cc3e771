import Bindery.GenerateError
import Bindery.Journal
import Bindery.Manifest

set_option autoImplicit false
set_option relaxedAutoImplicit false

/-!
The manifest of the crate being built, kept in memory for as long as its file is not written again.
-/

namespace Bindery

/-- What a run sees of its surroundings. -/
structure Environment where
  crateDirectory : Option String
  read : String → Except FileFault StoredFile

def manifestIn (directory : String) : String :=
  if directory.isEmpty || directory.toList.getLast? == some '/' then directory ++ "Cargo.toml"
  else directory ++ "/Cargo.toml"

def Environment.manifestPath? (env : Environment) : Option String :=
  env.crateDirectory.map manifestIn

/-- A manifest and when its file was written. -/
structure DatedManifest where
  manifest : Manifest
  modified : Int

namespace Manifest

def ofFile (path : String) (file : StoredFile) : Except GenerateError DatedManifest :=
  match file.text with
  | .error fault => .error (.readManifest path fault)
  | .ok text =>
    match parse? text with
    | none => .error (.parseManifest path)
    | some manifest => .ok ⟨manifest, file.modified⟩

def readAt (env : Environment) (path : String) : Except GenerateError DatedManifest :=
  match env.read path with
  | .error fault => .error (.readManifest path fault)
  | .ok file => ofFile path file

end Manifest

abbrev ManifestCache := Named DatedManifest

namespace ManifestCache

/-- The kept manifest of a path, if the file has not been written since. -/
def current? (cache : ManifestCache) (env : Environment) (path : String) : Option Manifest :=
  match cache.get? path, env.read path with
  | some kept, .ok file => if kept.modified = file.modified then some kept.manifest else none
  | _, _ => none

/-- The manifest of the crate being built, read again only if it was written since. -/
def shared (cache : ManifestCache) (env : Environment) :
    ManifestCache × Run GenerateError (Option Manifest) :=
  match env.manifestPath? with
  | none => (cache, pure none)
  | some path =>
    match cache.current? env path with
    | some manifest => (cache, pure (some manifest))
    | none =>
      match Manifest.readAt env path with
      | .error e => (cache, ⟨[⟨.debug, "reading " ++ path⟩], .error e⟩)
      | .ok dated =>
        (cache.set path dated, ⟨[⟨.debug, "reading " ++ path⟩], .ok (some dated.manifest)⟩)

end ManifestCache

end Bindery
