import Bindery.Proofs.Generate
import Bindery.Proofs.Header.Prefixes

set_option autoImplicit false
set_option relaxedAutoImplicit false

/-!
The implementation header as syntax of C. It expects functions that the library defines and it
defines the exported ones, each of which calls an expected one. Inside such a definition a parameter
hides a function of the same name, and a function that the header defines itself is not the
library's any more. The expected names are always distinct, but the header can define one of them:
whether it does comes down to the names of two functions.
-/

namespace Bindery

namespace Header

structure Signature where
  name : String
  params : List Member
  result : CType

def Signature.spell (s : Signature) : String :=
  s.result.declare (s.name ++ "(" ++
    parameters (s.params.map fun p => p.type.declare p.name) ++ ")")

/-- The definition of a function that only calls another one. -/
structure Forwarder where
  head : Signature
  callee : String
  args : List String
  answers : Bool

def Forwarder.spell (options : Options) (d : Forwarder) : String :=
  let call := d.callee ++ "(" ++ ", ".intercalate d.args ++ ");"
  exportMacro options ++ " " ++ d.head.spell ++ " \x7b\n    " ++
    (if d.answers then "return " ++ call else call) ++ "\n\x7d\n\n"

/-- The implementation header: the functions that it expects and those that it defines. -/
structure Implementation where
  expects : List Signature
  defines : List Forwarder

namespace Implementation

def spell (options : Options) (header : Implementation) : String :=
  let macroName := macroTag options ++ "_EXPORTS"
  opening (implementationGuard options) ++
    "#ifndef " ++ macroName ++ "\n#define " ++ macroName ++ "\n#endif\n" ++
    "#include \"" ++ options.stem ++ ".h\"\n\n" ++ openLinkage ++
    String.join (header.expects.map fun s => s.spell ++ ";\n") ++
    "\n" ++ String.join (header.defines.map (Forwarder.spell options)) ++ closeLinkage ++
    closing (implementationGuard options)

def expectedNames (header : Implementation) : List String := header.expects.map Signature.name

def definedNames (header : Implementation) : List String :=
  header.defines.map fun d => d.head.name

end Implementation

/-- What a call in the body of a definition can reach. -/
inductive Reached where
  | parameter
  | ownDefinition
  | library
  | nothing
  deriving DecidableEq

/-- What the call of a definition reaches: the innermost meaning of the name that it calls. -/
def Implementation.reached (header : Implementation) (d : Forwarder) : Reached :=
  if d.callee ∈ d.head.params.map Member.name then .parameter
  else if d.callee ∈ header.definedNames then .ownDefinition
  else if d.callee ∈ header.expectedNames then .library
  else .nothing

theorem Implementation.reached_eq_library_iff {header : Implementation} {d : Forwarder} :
    header.reached d = .library ↔ d.callee ∈ header.expectedNames ∧
      d.callee ∉ header.definedNames ∧ d.callee ∉ d.head.params.map Member.name := by
  unfold reached
  split_ifs <;> simp_all

/-! ### The header of a description -/

def signature (tag : String) (f : Function) (name : String) : Signature where
  name := name
  params := f.params.map (paramMember tag)
  result := denoteResult tag f.returns

def forwarder (options : Options) (f : Function) : Forwarder where
  head := signature options.resolvedHeaderPrefix f (options.symbol f.name)
  callee := implementationName options f
  args := f.params.map Param.name
  answers := f.returns.isSome

def implementation (options : Options) (functions : List Function) : Implementation where
  expects := functions.map fun f =>
    signature options.resolvedHeaderPrefix f (implementationName options f)
  defines := functions.map (forwarder options)

theorem spell_signature (tag : String) (f : Function) (name : String) :
    (signature tag f name).spell = prototype tag f name :=
  (prototype_eq tag f name).symm

theorem spell_forwarder (options : Options) (f : Function) :
    (forwarder options f).spell options = exportDefinition options f := by
  rw [Forwarder.spell, forwarder, exportDefinition, spell_signature]

theorem implementationText_eq (options : Options) (items : Items) :
    implementationText options items = (implementation options items.functions).spell options := by
  have expected : (implementation options items.functions).expects.map (fun s => s.spell ++ ";\n") =
      items.functions.map (implementationDecl options) := by
    simp [implementation, spell_signature, implementationDecl, Function.comp_def]
  have defined : (implementation options items.functions).defines.map (Forwarder.spell options) =
      items.functions.map (exportDefinition options) := by
    simp [implementation, spell_forwarder, Function.comp_def]
  unfold implementationText Implementation.spell
  rw [expected, defined]

@[simp]
theorem expectedNames_implementation (options : Options) (functions : List Function) :
    (implementation options functions).expectedNames =
      functions.map (implementationName options) := by
  simp [Implementation.expectedNames, implementation, signature, Function.comp_def]

@[simp]
theorem definedNames_implementation (options : Options) (functions : List Function) :
    (implementation options functions).definedNames =
      functions.map fun f => options.symbol f.name := by
  simp [Implementation.definedNames, implementation, forwarder, signature, Function.comp_def]

theorem nodup_expectedNames {options : Options} {functions : List Function}
    (distinct : (functions.map Function.name).Nodup) :
    (implementation options functions).expectedNames.Nodup := by
  have fronted := nodup_map_append (options.resolvedHeaderPrefix ++ "_export_") distinct
  rw [List.map_map] at fronted
  rw [expectedNames_implementation]
  exact fronted

theorem nodup_definedNames {options : Options} {functions : List Function}
    (distinct : (functions.map Function.name).Nodup) :
    (implementation options functions).definedNames.Nodup := by
  have fronted := nodup_map_append options.symbolPrefix distinct
  rw [List.map_map] at fronted
  rw [definedNames_implementation]
  exact fronted

/-! ### When the header defines what it expects -/

theorem symbol_eq_implementationName_iff {options : Options} {f : Function} {g : String} :
    options.symbol g = implementationName options f ↔ Captures options ("export_" ++ f.name) g := by
  have spaced : implementationName options f =
      options.resolvedHeaderPrefix ++ "_" ++ ("export_" ++ f.name) := by
    simp [implementationName, ← String.toList_inj]
  rw [spaced]
  exact symbol_eq_iff_captures (by simp)

theorem disjoint_implementation_iff {options : Options} {functions : List Function} :
    (implementation options functions).expectedNames.Disjoint
        (implementation options functions).definedNames ↔
      ∀ f ∈ functions, ∀ g ∈ functions, ¬ Captures options ("export_" ++ f.name) g.name := by
  rw [expectedNames_implementation, definedNames_implementation]
  constructor
  · intro apart f expected g defined captured
    have same := symbol_eq_implementationName_iff.mpr captured
    exact apart (List.mem_map_of_mem expected) (List.mem_map.mpr ⟨g, defined, same⟩)
  · intro apart name expected defined
    obtain ⟨f, member, rfl⟩ := List.mem_map.mp expected
    obtain ⟨g, other, same⟩ := List.mem_map.mp defined
    exact apart f member g other (symbol_eq_implementationName_iff.mp same)

theorem reached_implementation_iff {options : Options} {functions : List Function} :
    (∀ d ∈ (implementation options functions).defines,
        (implementation options functions).reached d = .library) ↔
      (∀ f ∈ functions, ∀ g ∈ functions, ¬ Captures options ("export_" ++ f.name) g.name) ∧
        ∀ f ∈ functions, implementationName options f ∉ f.params.map Param.name := by
  have names (f : Function) : (forwarder options f).head.params.map Member.name =
      f.params.map Param.name := by
    simp [forwarder, signature, paramMember, Function.comp_def]
  have expected {f : Function} (member : f ∈ functions) :
      implementationName options f ∈ (implementation options functions).expectedNames := by
    rw [expectedNames_implementation]
    exact List.mem_map_of_mem member
  have defines : (implementation options functions).defines = functions.map (forwarder options) :=
    rfl
  rw [← disjoint_implementation_iff, defines, List.forall_mem_map]
  simp only [Implementation.reached_eq_library_iff, names]
  constructor
  · intro reaches
    refine ⟨fun name wanted defined => ?_, fun f member => (reaches f member).2.2⟩
    rw [expectedNames_implementation] at wanted
    obtain ⟨f, member, rfl⟩ := List.mem_map.mp wanted
    exact (reaches f member).2.1 defined
  · rintro ⟨apart, unhidden⟩ f member
    exact ⟨expected member, fun defined => apart (expected member) defined, unhidden f member⟩

end Header

section Generated

open Header

variable {env : Environment} {options : Options} {items : Items} {cache : ManifestCache}
  {files : List OutputFile}

/-- The generated implementation header expects distinct names. It keeps away from defining them
exactly if no function captures another, and then every exported function calls the library unless
it has a parameter with the name that it calls. -/
theorem implementations_apart_iff
    (made : (generate env options items cache).2.result = .ok files)
    (targeted : .c ∈ options.targets) :
    ∃ header : Implementation,
      ⟨options.stem ++ "_export.h", header.spell options⟩ ∈ files ∧
      header.expectedNames = items.functions.map (implementationName options) ∧
      header.definedNames = items.functions.map (fun f => options.symbol f.name) ∧
      header.defines.map Forwarder.callee = header.expectedNames ∧
      (∀ d ∈ header.defines, d.args = d.head.params.map Member.name) ∧
      header.expectedNames.Nodup ∧ header.definedNames.Nodup ∧
      (header.expectedNames.Disjoint header.definedNames ↔
        ∀ f ∈ items.functions, ∀ g ∈ items.functions,
          ¬ Captures options ("export_" ++ f.name) g.name) ∧
      ((∀ d ∈ header.defines, header.reached d = .library) ↔
        (∀ f ∈ items.functions, ∀ g ∈ items.functions,
          ¬ Captures options ("export_" ++ f.name) g.name) ∧
          ∀ f ∈ items.functions, implementationName options f ∉ f.params.map Param.name) := by
  obtain ⟨-, out, ts, valid, -, -, written⟩ := generated_headers made targeted
  rw [implementationText_eq, Items.functions_of_arranged valid] at written
  have distinct := Items.nodup_functionNames_of_arranged valid
  refine ⟨implementation options items.functions, written, expectedNames_implementation _ _,
    definedNames_implementation _ _, ?_, ?_, nodup_expectedNames distinct,
    nodup_definedNames distinct, disjoint_implementation_iff, reached_implementation_iff⟩
  · simp [Implementation.expectedNames, implementation, forwarder, signature, Function.comp_def]
  · simp [implementation, forwarder, signature, paramMember, Function.comp_def]

def capturedLength : Items where
  functions := [
    { name := "len", returns := some (.primitive .usize) },
    { name := "export_len", returns := some (.primitive .usize) }]

theorem capturedLength_not_apart :
    ∃ files, (generate bareEnvironment setOff capturedLength []).2.result = .ok files ∧
      ⟨"st_export.h", (implementation setOff capturedLength.functions).spell setOff⟩ ∈ files ∧
      (implementation setOff capturedLength.functions).expectedNames =
        ["st_export_len", "st_export_export_len"] ∧
      (implementation setOff capturedLength.functions).definedNames = ["st_len", "st_export_len"] ∧
      (implementation setOff capturedLength.functions).defines.map
        (implementation setOff capturedLength.functions).reached = [.ownDefinition, .library] := by
  have valid : capturedLength.validated.result = .ok capturedLength := rfl
  have found : typedefs setOff.resolvedHeaderPrefix capturedLength = .ok [] := rfl
  refine ⟨_, generate_c_ok rfl valid found rfl, ?_, by decide, by decide, by decide⟩
  rw [implementationText_eq]
  exact .tail _ (.head _)

def storeFunctions : Items where
  functions := [
    { name := "len", returns := some (.primitive .usize) },
    { name := "export_all"
      params := [
        { name := "len", ty := .primitive .usize },
        { name := "each", ty := .function [.string .const] none }] }]

theorem storeFunctions_apart :
    ∃ files header,
      (generate bareEnvironment setOff storeFunctions []).2.result = .ok files ∧
      Target.c ∈ setOff.targets ∧ ⟨"st_export.h", Implementation.spell setOff header⟩ ∈ files ∧
      header.expectedNames = ["st_export_len", "st_export_export_all"] ∧
      header.expectedNames.Disjoint header.definedNames ∧
      ∀ d ∈ header.defines, header.reached d = .library := by
  have valid : storeFunctions.validated.result = .ok storeFunctions := rfl
  have found : typedefs setOff.resolvedHeaderPrefix storeFunctions =
      .ok [.function [.string .const] none] := rfl
  have made : (generate bareEnvironment setOff storeFunctions []).2.result = .ok _ :=
    generate_c_ok rfl valid found rfl
  have different : ∀ f ∈ storeFunctions.functions, ∀ g ∈ storeFunctions.functions,
      setOff.symbol g.name ≠ implementationName setOff f := by decide
  have apart : ∀ f ∈ storeFunctions.functions, ∀ g ∈ storeFunctions.functions,
      ¬ Captures setOff ("export_" ++ f.name) g.name := fun f expected g defined captured =>
    different f expected g defined (symbol_eq_implementationName_iff.mpr captured)
  obtain ⟨header, written, expected, -, -, -, -, -, disjoint, reaches⟩ :=
    implementations_apart_iff made (by decide)
  exact ⟨_, header, made, by decide, written, expected.trans (by decide), disjoint.mpr apart,
    reaches.mpr ⟨apart, by decide⟩⟩

end Generated

end Bindery
