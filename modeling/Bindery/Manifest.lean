import Bindery.CratePath
import Bindery.Toml.Document

set_option autoImplicit false
set_option relaxedAutoImplicit false

/-!
Manifests: a crate's list of dependencies, which tells under which path its code finds another
crate.
-/

namespace Bindery

structure Manifest where
  entries : Toml.Entries

namespace Manifest

def runtimeCrate : String := "vellum_abi"

/-- The crate that hands on the others as modules of its own. -/
def facadeCrate : String := "vellum"

/-- What the names of the crates begin with that the facade hands on. -/
def facadeTag : String := "vellum_"

def parse? (text : String) : Option Manifest := (Toml.parse? text).map Manifest.mk

def tableNames : List String := ["dependencies", "dev-dependencies"]

def underscored (key : String) : String :=
  String.ofList (key.toList.map fun c => if c == '-' then '_' else c)

/-- The crate that a dependency stands for when it does not go by its key. -/
def package? (dependency : Toml.Value) : Option String :=
  dependency.entries?.bind fun entries => (entries.get? "package").bind Toml.Value.text?

def afterTag? (tag name : String) : Option String :=
  if tag.toList.isPrefixOf name.toList then some (String.ofList (name.toList.drop tag.length))
  else none

/-- The path of a crate that dependencies provide: under its own name, under the key of the first
dependency that stands for it, or as a module of the facade. -/
def locate? (dependencies : Toml.Entries) (name : String) : Option String :=
  if dependencies.contains name then some ("::" ++ name)
  else
    match dependencies.find? fun e => package? e.2 == some name with
    | some e => some ("::" ++ underscored e.1)
    | none =>
      if dependencies.contains facadeCrate then
        (afterTag? facadeTag name).map fun module => "::" ++ facadeCrate ++ "::" ++ module
      else none

def dependencyTables (m : Manifest) : List Toml.Entries :=
  tableNames.filterMap fun key => (m.entries.get? key).bind Toml.Value.entries?

def defaultPath (name : String) : CratePath :=
  match CratePath.name? name with
  | some segment => ⟨true, [segment]⟩
  | none => CratePath.root runtimeCrate

/-- A way to read paths. The two paths that the rules spell out can be read, the first as the path
that a crate has by its name alone. -/
structure PathReader (P : Type) where
  read : String → Option P
  fallback : String → P
  runtime : read "::vellum_abi" = some (fallback "vellum_abi")
  facade : (read "::vellum::abi").isSome

def plainPaths : PathReader CratePath where
  read := CratePath.parse?
  fallback := defaultPath
  runtime := by decide +kernel
  facade := by decide +kernel

variable {P : Type}

/-- The path of a crate as a manifest's crate sees it, by a way to read paths. -/
def cratePathBy (paths : PathReader P) (m : Manifest) (name : String) : P :=
  match m.dependencyTables.findSome? fun dependencies => locate? dependencies name with
  | some path => (paths.read path).getD (paths.fallback name)
  | none => paths.fallback name

def cratePath (m : Manifest) (name : String) : CratePath := m.cratePathBy plainPaths name

def runtimePath (m : Manifest) : CratePath := m.cratePath runtimeCrate

end Manifest

end Bindery
