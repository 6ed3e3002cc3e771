import Bindery.Proofs.Loader.Names
import Bindery.Proofs.Outcome

set_option autoImplicit false
set_option relaxedAutoImplicit false

/-!
Whether the names of structs stand for their classes. Classes are found wherever they are used,
unless a signature uses one that is named like a parameter or variable of the loading function, or
one has a name that the language keeps to itself without counting it among its keywords.
-/

namespace Bindery

namespace Loader

namespace Statement

def usesNow : Statement → List String
  | .layout name fields => name :: fields.flatMap fun f => f.2.names
  | _ => []

def usesLater (s : Statement) : List String := s.routine.elim [] Routine.typeNames

def locals (s : Statement) : List String := s.routine.elim [] Routine.locals

end Statement

/-- A module in which the given names are bound without touching the language, and stand for their
classes wherever they are looked up. -/
structure Scoped (classes : List String) (contents : List Statement) : Prop where
  bindable : ∀ s ∈ contents, ∀ name ∈ s.binds, name ∉ words
  now : EachAfter (fun before s => ∀ name ∈ s.usesNow, name ∈ classes →
    StandsForClass [] before name) contents
  later : ∀ s ∈ contents, ∀ name ∈ s.usesLater, name ∈ classes →
    StandsForClass s.locals contents name

theorem not_standsForClass_of_local {locals : List String} {run : List Statement} {name : String}
    (hidden : name ∈ locals) : ¬ StandsForClass locals run name := by
  rintro ⟨docs, found⟩
  unfold meaning at found
  rw [if_pos hidden] at found
  split at found <;> simp at found

section Assembly

variable {options : Options} {items : Items}

theorem uses_front {s : Statement} (member : s ∈ front items) :
    s.usesNow = [] ∧ s.usesLater = [] := by
  have fixed : ∀ s ∈ supportStatements, s.usesNow = [] ∧ s.usesLater = [] := by
    simp [supportStatements, Statement.usesNow, Statement.usesLater, Statement.routine]
  rcases front_cases member with support | ⟨name, -, docs, rfl⟩
  · exact fixed s support
  · exact ⟨rfl, rfl⟩

theorem eq_loadStatement_of_usesLater {s : Statement} (member : s ∈ statements options items)
    {name : String} (used : name ∈ s.usesLater) : s = loadStatement options items := by
  rcases statements_cases member with first | ⟨target, fields, rfl⟩ | load
  · simp [(uses_front first).2] at used
  · simp [Statement.usesLater, Statement.routine] at used
  · exact load

theorem mem_usesLater_load {name : String} :
    name ∈ (loadStatement options items).usesLater ↔
      ∃ f ∈ items.functions, ∃ t ∈ f.params.map Param.ty ++ f.returns.toList,
        name ∈ (denote t).names := by
  rw [loadStatement, Statement.usesLater, Statement.routine, Option.elim_some, Routine.typeNames,
    symbols_loading, List.flatMap_map, List.mem_flatMap]
  refine exists_congr fun f => and_congr_right fun _ => ?_
  cases returned : f.returns with
  | none => simp [symbolOf, returned, denoteResult, Expr.names]
  | some t => simp [symbolOf, returned, denoteResult, or_and_right, exists_or]

variable (free : ∀ name ∈ classNames items, name ∉ reserved)

include free

theorem standsForClass_now (usable : "__debug__" ∉ classNames items) :
    EachAfter (fun before s => ∀ name ∈ s.usesNow, name ∈ classNames items →
      StandsForClass [] before name) (statements options items) := by
  rw [statements_eq]
  -- Only the part in the middle, the layouts, looks names up at once.
  refine ((EachAfter.of_forall ?_).append (.of_subset ?_)).append (.of_forall ?_)
  · intro before s member name used
    simp [(uses_front member).1] at used
  · intro before within s _ name _ listed
    have noWord := notMem_words_of_class free usable listed
    have some : front items ++ before ⊆ statements options items := by
      refine List.append_subset.mpr ⟨front_subset, fun s member => ?_⟩
      exact List.mem_append_left _ (List.mem_append_right _ (within member))
    exact standsForClass free listed noWord (by simp) (List.subset_append_left _ _) some
  · intro before s member name used
    obtain rfl := List.mem_singleton.mp member
    simp [loadStatement, Statement.usesNow] at used

theorem standsForClass_later_iff (usable : "__debug__" ∉ classNames items)
    (known : ∀ f ∈ items.functions, ∀ t ∈ f.params.map Param.ty ++ f.returns.toList,
      ∀ name, (Ty.named name).Inside t → name ∈ classNames items) :
    (∀ s ∈ statements options items, ∀ name ∈ s.usesLater, name ∈ classNames items →
        StandsForClass s.locals (statements options items) name) ↔
      ∀ f ∈ items.functions, ∀ t ∈ f.params.map Param.ty ++ f.returns.toList,
        ¬ (Ty.named "path").Inside t ∧ ¬ (Ty.named "lib").Inside t := by
  have locals : (loadStatement options items).locals = ["path", "lib"] := locals_loading _ _
  constructor
  · intro found f member t used
    have clear : ∀ name ∈ ["path", "lib"], ¬ (Ty.named name).Inside t := by
      intro name hidden inside
      have listed := known f member t used name inside
      have looked : name ∈ (loadStatement options items).usesLater := mem_usesLater_load.mpr
        ⟨f, member, t, used, (mem_names_denote (free name listed)).mpr inside⟩
      exact not_standsForClass_of_local (locals ▸ hidden)
        (found _ loadStatement_mem name looked listed)
    exact ⟨clear "path" (by decide), clear "lib" (by decide)⟩
  · intro clear s member name used listed
    obtain rfl := eq_loadStatement_of_usesLater member used
    obtain ⟨f, function, t, inSignature, mention⟩ := mem_usesLater_load.mp used
    have inside := (mem_names_denote (free name listed)).mp mention
    obtain ⟨noPath, noLib⟩ := clear f function t inSignature
    have unhidden : name ∉ (loadStatement options items).locals := by
      rw [locals]
      intro hidden
      rcases List.mem_cons.mp hidden with rfl | rest
      · exact noPath inside
      · obtain rfl := List.mem_singleton.mp rest
        exact noLib inside
    exact standsForClass free listed
      (notMem_words_of_class free usable listed) unhidden front_subset
      (List.Subset.refl _)

theorem scoped_iff (known : ∀ f ∈ items.functions, ∀ t ∈ f.params.map Param.ty ++ f.returns.toList,
      ∀ name, (Ty.named name).Inside t → name ∈ classNames items) :
    Scoped (classNames items) (statements options items) ↔
      "__debug__" ∉ classNames items ∧
        ∀ f ∈ items.functions, ∀ t ∈ f.params.map Param.ty ++ f.returns.toList,
          ¬ (Ty.named "path").Inside t ∧ ¬ (Ty.named "lib").Inside t := by
  constructor
  · intro resolved
    have usable := (bindable_iff free).mp resolved.bindable
    exact ⟨usable, (standsForClass_later_iff free usable known).mp resolved.later⟩
  · rintro ⟨usable, clear⟩
    exact {
      bindable := (bindable_iff free).mpr usable
      now := standsForClass_now free usable
      later := (standsForClass_later_iff free usable known).mpr clear }

end Assembly

end Loader

section Generated

open Loader

/-- In the generated loader module the names of structs stand for their classes exactly if no struct
is named like the constant that cannot be bound and no signature uses a struct that is named like
the parameter or the variable of the loading function. -/
theorem class_names_resolve_iff {env : Environment} {options : Options} {items : Items}
    {cache : ManifestCache} {text : String}
    (made : (generateMain env options items .python cache).2.result = .ok text) :
    ∃ out, items.validated.result = .ok out ∧
      text = moduleText options (statements options out) ∧
      (∀ s ∈ statements options out, ∀ r, s.routine = some r → r.spell = s.spell) ∧
      (Scoped (classNames out) (statements options out) ↔
        "__debug__" ∉ items.structNames ++ items.abstractNames ∧
          ∀ f ∈ items.functions, ∀ t ∈ f.params.map Param.ty ++ f.returns.toList,
            ¬ (Ty.named "path").Inside t ∧ ¬ (Ty.named "lib").Inside t) := by
  obtain ⟨-, out, valid, rendered⟩ := generateMain_ok_iff.mp made
  obtain ⟨checked, rfl⟩ := loaderText_ok_iff.mp rendered
  have accepted : items.arranged = .ok out := valid
  have free := checkNames_ok_iff.mp checked
  have functions := Items.functions_of_arranged accepted
  refine ⟨out, valid, file_eq options out, fun _ _ _ => spell_of_routine, ?_⟩
  rw [scoped_iff free, Items.mem_classNames_iff accepted, functions]
  intro f member t used name inside
  rw [functions] at member
  exact Items.mem_classNames_of_inside accepted
    (Items.signature_mem_declaredTypes member used) inside

/-- Two structs that the loading function hides: its parameter and its variable have their names. -/
def hiddenStructs : Items where
  structs := [
    { name := "path", fields := [{ name := "x", ty := .primitive .u32 }] },
    { name := "lib", fields := [{ name := "next", ty := .pointer .mutable (.named "path") }] }]
  functions := [
    { name := "f"
      params := [{ name := "p", ty := .pointer .mutable (.named "path") }]
      returns := some (.named "lib") }]

theorem hiddenStructs_unscoped :
    (generateMain bareEnvironment {} hiddenStructs .python []).2.result =
        .ok (moduleText {} (statements {} hiddenStructs)) ∧
      (loadStatement {} hiddenStructs).usesLater = ["ct", "path", "lib"] ∧
      (∀ name ∈ ["path", "lib"], name ∈ classNames hiddenStructs ∧
        meaning (loadStatement {} hiddenStructs).locals (statements {} hiddenStructs) name =
          .inner) := by
  have valid : hiddenStructs.validated.result = .ok hiddenStructs := rfl
  have locals : (loadStatement {} hiddenStructs).locals = ["path", "lib"] := locals_loading _ _
  have noWord : ∀ name ∈ ["path", "lib"], name ∉ words := by decide
  refine ⟨?_, by decide, fun name hidden => ⟨?_, ?_⟩⟩
  · rw [generateMain_python_ok rfl valid rfl, file_eq]
  · exact hidden
  · rw [meaning, if_neg (noWord name hidden), if_pos (locals ▸ hidden)]

def nodes : Items where
  structs := [
    { name := "node"
      fields := [
        { name := "next", ty := .pointer .mutable (.named "node") },
        { name := "value", ty := .owned (.slice .mutable (.named "cell")) }] },
    { name := "cell", fields := [{ name := "lib", ty := .primitive .u32 }] }]
  functions := [
    { name := "find"
      params := [{ name := "path", ty := .string .const }]
      returns := some (.pointer .const (.named "node")) }]

theorem nodes_scoped :
    (generateMain bareEnvironment {} nodes .python []).2.result =
        .ok (moduleText {} (statements {} nodes)) ∧
      Scoped (classNames nodes) (statements {} nodes) := by
  have valid : nodes.validated.result = .ok nodes := rfl
  have made : (generateMain bareEnvironment {} nodes .python []).2.result =
      .ok (moduleText {} (statements {} nodes)) := by
    rw [generateMain_python_ok rfl valid rfl, file_eq]
  have clear : ∀ f ∈ nodes.functions, ∀ t ∈ f.params.map Param.ty ++ f.returns.toList,
      "path" ∉ (denote t).names ∧ "lib" ∉ (denote t).names := by decide
  obtain ⟨out, validToo, -, -, resolves⟩ := class_names_resolve_iff made
  obtain rfl : nodes = out := Except.ok.inj (valid.symm.trans validToo)
  refine ⟨made, resolves.mpr ⟨by decide, fun f member t used => ?_⟩⟩
  rw [← mem_names_denote (by decide), ← mem_names_denote (by decide)]
  exact clear f member t used

end Generated

end Bindery
