import Bindery.Proofs.Header.Forwarding
import Bindery.Proofs.Header.Words

set_option autoImplicit false
set_option relaxedAutoImplicit false

/-!
Identifiers of the headers. What the headers make up is usable: macros, typedefs with their members,
and the names of implementations. Declared names are words too, but they are written as they are,
and so are exported symbols behind their prefix; the guards begin with the name of the files. The
identifiers are usable exactly if none of these is in the way.
-/

namespace Bindery

namespace Header

/-! ### The beginning of the headers -/

/-- A line for the preprocessor: a name between two pieces of text, or text without one. -/
inductive Directive where
  | plain (text : String)
  | naming (before name after : String)

def Directive.spell : Directive → String
  | .plain text => text ++ "\n"
  | .naming before name after => before ++ name ++ (after ++ "\n")

def Directive.names : Directive → List String
  | .plain _ => []
  | .naming _ name _ => [name]

def spellLines (lines : List Directive) : String := String.join (lines.map Directive.spell)

def guardLines (guard : String) : List Directive :=
  [.naming "#ifndef " guard "", .naming "#define " guard "", .plain ""]

def inclusionLines : List Directive :=
  [.plain "#include <stdbool.h>", .plain "#include <stddef.h>", .plain "#include <stdint.h>",
    .plain ""]

def macroLines (options : Options) : List Directive :=
  [.naming "#ifndef " (exportMacro options) "",
    .naming "#  if !defined(" (macroTag options ++ "_SHARED") ")",
    .naming "#    define " (exportMacro options) "",
    .plain "#  elif defined(_WIN32) || defined(__CYGWIN__)",
    .naming "#    if defined(" (macroTag options ++ "_EXPORTS") ")",
    .naming "#      define " (exportMacro options) " __declspec(dllexport)",
    .plain "#    else",
    .naming "#      define " (exportMacro options) " __declspec(dllimport)",
    .plain "#    endif",
    .plain "#  else",
    .naming "#    define " (exportMacro options) " __attribute__((visibility(\"default\")))",
    .plain "#  endif",
    .plain "#endif",
    .plain ""]

def exportingLines (options : Options) : List Directive :=
  [.naming "#ifndef " (macroTag options ++ "_EXPORTS") "",
    .naming "#define " (macroTag options ++ "_EXPORTS") "",
    .plain "#endif"]

def interfaceLines (options : Options) : List Directive :=
  guardLines (interfaceGuard options) ++ inclusionLines ++ macroLines options

def implementationLines (options : Options) : List Directive :=
  guardLines (implementationGuard options) ++ exportingLines options

theorem spellLines_append (first second : List Directive) :
    spellLines (first ++ second) = spellLines first ++ spellLines second := by
  rw [spellLines, List.map_append, String.join_append]
  rfl

theorem newline_define (rest : String) : "\n" ++ ("#define " ++ rest) = "\n#define " ++ rest := by
  rw [← String.append_assoc]
  rfl

theorem opening_eq (guard : String) : opening guard = notice ++ spellLines (guardLines guard) := by
  have last : "\n" ++ "\n" = "\n\n" := by decide +kernel
  simp only [guardLines, spellLines, List.map_cons, List.map_nil, Directive.spell,
    String.join_cons, String.join_nil, String.append_empty, String.reduceAppend]
  simp only [opening, String.append_assoc, newline_define, last, -String.reduceAppend]

theorem inclusions_eq : inclusions = spellLines inclusionLines := by decide +kernel

theorem macroDefinition_eq (options : Options) :
    macroDefinition options = spellLines (macroLines options) := by
  have shared (rest : String) : "_SHARED" ++ (")\n" ++ rest) = "_SHARED)\n" ++ rest := by
    rw [← String.append_assoc]
    rfl
  have exports (rest : String) : "_EXPORTS" ++ (")\n" ++ rest) = "_EXPORTS)\n" ++ rest := by
    rw [← String.append_assoc]
    rfl
  have last : "#  endif\n" ++ "#endif\n\n" = "#  endif\n#endif\n\n" := by decide +kernel
  -- The end of each line is put together before the lines are, since only that much is literal.
  simp only [macroLines, spellLines, List.map_cons, List.map_nil, Directive.spell,
    String.join_cons, String.join_nil, String.append_empty, String.reduceAppend]
  unfold macroDefinition
  generalize exportMacro options = abi
  generalize macroTag options = tag
  simp only [String.append_assoc, shared, exports, last, -String.reduceAppend]

theorem exporting_eq (options : Options) (rest : String) :
    "#ifndef " ++ (macroTag options ++ "_EXPORTS") ++ "\n#define " ++
        (macroTag options ++ "_EXPORTS") ++ "\n#endif\n" ++ rest =
      spellLines (exportingLines options) ++ rest := by
  have last (rest : String) : "\n" ++ ("#endif\n" ++ rest) = "\n#endif\n" ++ rest := by
    rw [← String.append_assoc]
    rfl
  simp only [exportingLines, spellLines, List.map_cons, List.map_nil, Directive.spell,
    String.join_cons, String.join_nil, String.append_empty, String.reduceAppend]
  simp only [String.append_assoc, newline_define, last, -String.reduceAppend]

theorem fileText_front (options : Options) (header : List CDecl) :
    ∃ rest, fileText options header = notice ++ spellLines (interfaceLines options) ++ rest := by
  rw [fileText, opening_eq, inclusions_eq, macroDefinition_eq, interfaceLines, spellLines_append,
    spellLines_append]
  simp only [String.append_assoc]
  exact ⟨_, rfl⟩

theorem implementation_front (options : Options) (header : Implementation) :
    ∃ rest, header.spell options = notice ++ spellLines (implementationLines options) ++ rest := by
  unfold Implementation.spell
  rw [opening_eq, implementationLines, spellLines_append]
  have text := exporting_eq options
  simp only [String.append_assoc] at text ⊢
  simp only [text]
  exact ⟨_, rfl⟩

def macros (options : Options) : List String :=
  (interfaceLines options ++ implementationLines options).flatMap Directive.names

theorem mem_macros_iff {options : Options} {name : String} :
    name ∈ macros options ↔ name ∈ [interfaceGuard options, implementationGuard options,
      exportMacro options, macroTag options ++ "_SHARED", macroTag options ++ "_EXPORTS"] := by
  simp only [macros, interfaceLines, implementationLines, guardLines, inclusionLines, macroLines,
    exportingLines, List.flatMap_append, List.flatMap_cons, List.flatMap_nil, Directive.names,
    List.mem_append, List.mem_cons, List.not_mem_nil]
  grind

/-! ### Names that are made up -/

theorem isWord_of_isPrefix {name : String} (proper : name ≠ "")
    (checked : Options.isPrefix name = true) : IsWord name :=
  ⟨proper, Options.isPrefix_iff.mp checked⟩

theorem usable_macros_iff {options : Options} (sound : options.Sound) {edition : Edition} :
    (∀ name ∈ macros options, Usable edition name) ↔
      ∀ c, options.stem.toList.head? = some c → ¬ ('0' ≤ c ∧ c ≤ '9') := by
  have tag : IsWord (macroTag options) := isWord_capitals sound.headers
  have ending : implementationGuard options = guardName options.stem ++ "_EXPORT" ++ "_H" := by
    rw [implementationGuard, String.append_assoc]
    rfl
  simp only [mem_macros_iff]
  constructor
  · intro usable
    have guard := (usable (interfaceGuard options) List.mem_cons_self).word
    exact (isWord_guard_iff (isWord_of_isPrefix (by decide) (by decide))).mp guard
  · intro plain
    have guard {ending : String} (word : IsWord ending) :
        IsWord (guardName options.stem ++ ending) :=
      (isWord_guard_iff word).mpr plain
    have interface : Usable edition (interfaceGuard options) :=
      usable_of_mark (by decide) (guard (isWord_of_isPrefix (by decide) (by decide)))
    have implementation : Usable edition (implementationGuard options) := by
      rw [ending]
      refine usable_of_mark (by decide) ?_
      exact (guard (isWord_of_isPrefix (by decide) (by decide))).append (by decide)
    have tagged : ∀ mark ∈ ["_ABI", "_SHARED", "_EXPORTS"],
        Usable edition (macroTag options ++ mark) := by
      intro mark listed
      have marked : ∀ m ∈ ["_ABI", "_SHARED", "_EXPORTS"], m ∈ marks ∧ IsContinuation m := by decide
      exact usable_of_mark (marked mark listed).1 (tag.append (marked mark listed).2)
    simpa [interface, implementation, exportMacro] using tagged

theorem typedefName_marked (tag : String) {t : Ty} (carrier : isCarrier t = true) :
    ∃ mark ∈ marks, ∃ rest, typedefName tag t = tag ++ mark ++ rest := by
  unfold isCarrier at carrier
  split at carrier
  · rename_i m element
    refine ⟨"_slice_", by decide, m.name ++ "_" ++ mangle element, ?_⟩
    simp [typedefName, mangle, ← String.toList_inj]
  · rename_i m pointee
    refine ⟨"_owned_", by decide, "ptr_" ++ mangle pointee, ?_⟩
    simp [typedefName, mangle, ← String.toList_inj]
  · rename_i m element
    refine ⟨"_owned_", by decide, "slice_" ++ mangle element, ?_⟩
    simp [typedefName, mangle, ← String.toList_inj]
  · rename_i args returns
    refine ⟨"_fn_", by decide, mangleResult returns ++ "_args" ++ mangleArgs args, ?_⟩
    simp [typedefName, mangle, ← String.toList_inj]
  · rename_i args returns
    refine ⟨"_closure_", by decide, mangleResult returns ++ "_args" ++ mangleArgs args, ?_⟩
    simp [typedefName, mangle, ← String.toList_inj]
  · simp at carrier

theorem usable_typedefName {tag : String} (front : IsWord tag) {t : Ty}
    (carrier : isCarrier t = true) (names : ∀ name ∈ t.names, IsContinuation name)
    {edition : Edition} : Usable edition (typedefName tag t) := by
  refine ⟨(front.append (by decide)).append (isContinuation_mangle names), ?_⟩
  obtain ⟨mark, listed, rest, same⟩ := typedefName_marked tag carrier
  rw [same]
  exact not_keyword_of_mark listed tag rest edition

theorem usable_implementationName {options : Options} (front : IsWord options.resolvedHeaderPrefix)
    {f : Function} (named : IsContinuation f.name) {edition : Edition} :
    Usable edition (implementationName options f) :=
  ⟨(front.append (by decide)).append named, not_keyword_of_mark (by decide) _ _ _⟩

def memberWords : List String := ["data", "len", "deleter", "slice", "caller", "state"]

theorem usable_memberWords (edition : Edition) {name : String} (listed : name ∈ memberWords) :
    Usable edition name := by
  have words : ∀ m ∈ memberWords, m ≠ "" ∧ Options.isPrefix m = true := by decide
  have free : ∀ m ∈ memberWords, m ∉ Edition.c23.keywords := by decide
  obtain ⟨proper, checked⟩ := words name listed
  exact ⟨isWord_of_isPrefix proper checked,
    fun keyword => free name listed (keywords_subset edition keyword)⟩

/-! ### Names of the headers -/

/-- The names that a declaration brings, members and parameters included. -/
def CDecl.names : CDecl → List String
  | .forward name => [name]
  | .record name members => name :: members.map Member.name
  | .synonym name _ => [name]
  | .struct _ name members => name :: members.map Member.name
  | .prototype _ symbol params _ => symbol :: params.map Member.name

def Signature.names (s : Signature) : List String := s.name :: s.params.map Member.name

def Implementation.names (header : Implementation) : List String :=
  header.expects.flatMap Signature.names ++ header.defines.flatMap fun d => d.head.names

theorem mem_names_typedefOf {tag : String} {t : Ty} {name : String}
    (brought : name ∈ (typedefOf tag t).names) :
    name = typedefName tag t ∨ name ∈ memberWords := by
  unfold typedefOf at brought
  split at brought
  all_goals
    simp only [CDecl.names, deleter, memberWords, List.map_cons, List.map_nil, List.mem_cons,
      List.not_mem_nil] at brought ⊢
    tauto

end Header

/-- The names that stand in C as they are declared. -/
def Items.verbatimNames (items : Items) : List String :=
  items.structNames ++ items.abstractNames ++
    items.structs.flatMap (fun s => s.fields.map Field.name) ++
    items.functions.flatMap fun f => f.params.map Param.name

namespace Header

theorem mem_names_interface {options : Options} {items : Items} {ts : List Ty} {name : String} :
    name ∈ ((declarations items ts).map (Declaration.inC options)).flatMap CDecl.names ↔
      name ∈ items.verbatimNames ∨ (∃ f ∈ items.functions, name = options.symbol f.name) ∨
        ∃ t ∈ ts, name ∈ (typedefOf options.resolvedHeaderPrefix t).names := by
  rw [declarations_inC]
  simp only [announcements, uses, Items.verbatimNames, Items.structNames, Items.abstractNames,
    CDecl.names, Declaration.inC, fieldMember, paramMember, List.flatMap_append, List.flatMap_map,
    List.mem_append, List.mem_flatMap, List.mem_cons, List.mem_map, List.not_mem_nil, List.map_map,
    Function.comp_def]
  grind

theorem mem_names_implementation {options : Options} {functions : List Function} {name : String} :
    name ∈ (implementation options functions).names ↔
      ∃ f ∈ functions, name = implementationName options f ∨ name = options.symbol f.name ∨
        name ∈ f.params.map Param.name := by
  simp only [Implementation.names, implementation, Signature.names, forwarder, signature,
    List.flatMap_map, List.mem_append, List.mem_flatMap, List.mem_cons, List.map_map,
    Function.comp_def, paramMember]
  grind

end Header

theorem Items.verbatimNames_subset {items : Items} {name : String}
    (listed : name ∈ items.verbatimNames) : name ∈ items.declaredNames := by
  simp only [verbatimNames, declaredNames, List.mem_append] at listed ⊢
  tauto

section Generated

open Header

variable {env : Environment} {options : Options} {items out : Items} {cache : ManifestCache}
  {files : List OutputFile}

theorem Items.mem_verbatimNames_iff (accepted : items.arranged = .ok out) {name : String} :
    name ∈ out.verbatimNames ↔ name ∈ items.verbatimNames := by
  have structs := Items.structs_perm_of_arranged accepted
  simp only [verbatimNames, structNames, abstractNames, List.mem_append, List.mem_flatMap,
    (structs.map Struct.name).mem_iff, structs.mem_iff,
    Items.abstractStructs_of_arranged accepted, Items.functions_of_arranged accepted]

section Usable

variable (accepted : items.arranged = .ok out)

include accepted

theorem isContinuation_of_needed {u : Ty} (needed : NeedsTypedef items u) :
    ∀ name ∈ u.names, IsContinuation name := by
  intro name used
  obtain ⟨-, t, declared, part⟩ := needed
  have inside := Ty.inside_of_part part (Ty.mem_names_iff.mp used) (by simp)
  have known := Items.mem_names_of_arranged accepted declared inside
  have named := Items.isName_of_declared accepted
    (Items.mem_declaredNames.mpr (.inl (List.mem_append.mpr known)))
  exact (isWord_of_isName named).continuation

theorem isWord_function {f : Function} (member : f ∈ out.functions) : IsWord f.name := by
  rw [Items.functions_of_arranged accepted] at member
  refine isWord_of_isName (Items.isName_of_declared accepted ?_)
  exact Items.mem_declaredNames.mpr (.inr (.inl ⟨f, member, .inl rfl⟩))

variable {edition : Edition} (names : ∀ name ∈ items.verbatimNames, name ∉ edition.keywords)

include names in
theorem usable_verbatim {name : String} (listed : name ∈ out.verbatimNames) :
    Usable edition name := by
  have own := (Items.mem_verbatimNames_iff accepted).mp listed
  have named := Items.isName_of_declared accepted (Items.verbatimNames_subset own)
  exact ⟨isWord_of_isName named, names name own⟩

variable (sound : options.Sound)
  (symbols : ∀ f ∈ items.functions, options.symbol f.name ∉ edition.keywords)

include sound symbols

theorem usable_symbol {f : Function} (member : f ∈ out.functions) :
    Usable edition (options.symbol f.name) := by
  refine ⟨sound.symbols.append_word (isWord_function accepted member), symbols f ?_⟩
  rwa [← Items.functions_of_arranged accepted]

include names

theorem usable_interface {ts : List Ty}
    (collected : Collected options.resolvedHeaderPrefix ((declaredTypes out).flatMap carriers) ts)
    {name : String}
    (declared : name ∈
      ((declarations out ts).map (Declaration.inC options)).flatMap CDecl.names) :
    Usable edition name := by
  rcases mem_names_interface.mp declared with listed | ⟨f, member, rfl⟩ | ⟨t, stored, brought⟩
  · exact usable_verbatim accepted names listed
  · exact usable_symbol accepted sound symbols member
  · rcases mem_names_typedefOf brought with rfl | word
    · have needed := (Items.needsTypedef_iff accepted).mp (collected.needs stored)
      exact usable_typedefName sound.headers needed.1 (isContinuation_of_needed accepted needed)
    · exact usable_memberWords edition word

theorem usable_implementation {name : String}
    (brought : name ∈ (implementation options out.functions).names) : Usable edition name := by
  obtain ⟨f, member, rfl | rfl | param⟩ := mem_names_implementation.mp brought
  · exact usable_implementationName sound.headers (isWord_function accepted member).continuation
  · exact usable_symbol accepted sound symbols member
  · refine usable_verbatim accepted names (List.mem_append_right _ ?_)
    exact List.mem_flatMap.mpr ⟨f, member, param⟩

end Usable

/-- For any edition of C, all identifiers of the two generated headers are usable exactly if the
name of the files does not begin with a digit and neither a name that is written as it is declared
nor an exported symbol is a keyword. -/
theorem identifiers_usable_iff (made : (generate env options items cache).2.result = .ok files)
    (targeted : .c ∈ options.targets) (edition : Edition) :
    ∃ out ts, items.validated.result = .ok out ∧
      ⟨options.stem ++ ".h",
        fileText options ((declarations out ts).map (Declaration.inC options))⟩ ∈ files ∧
      ⟨options.stem ++ "_export.h", (implementation options out.functions).spell options⟩ ∈ files ∧
      (∃ rest, fileText options ((declarations out ts).map (Declaration.inC options)) =
        notice ++ spellLines (interfaceLines options) ++ rest) ∧
      (∃ rest, (implementation options out.functions).spell options =
        notice ++ spellLines (implementationLines options) ++ rest) ∧
      ((∀ name ∈ macros options ++
          ((declarations out ts).map (Declaration.inC options)).flatMap CDecl.names ++
          (implementation options out.functions).names, Usable edition name) ↔
        (∀ c, options.stem.toList.head? = some c → ¬ ('0' ≤ c ∧ c ≤ '9')) ∧
          (∀ name ∈ items.verbatimNames, name ∉ edition.keywords) ∧
          ∀ f ∈ items.functions, options.symbol f.name ∉ edition.keywords) := by
  obtain ⟨checked, out, ts, valid, found, interface, written⟩ := generated_headers made targeted
  rw [implementationText_eq] at written
  refine ⟨out, ts, valid, interface, written, fileText_front _ _, implementation_front _ _, ?_⟩
  have accepted : items.arranged = .ok out := valid
  have sound := Options.check_ok_iff.mp checked
  have collected := typedefs_collected found
  simp only [List.mem_append, or_imp, forall_and, usable_macros_iff sound, and_assoc]
  refine and_congr_right fun _ => ?_
  constructor
  · -- The interface alone has every name that the condition is about.
    rintro ⟨declared, -⟩
    constructor
    · intro name listed
      have written := (Items.mem_verbatimNames_iff accepted).mpr listed
      exact (declared name (mem_names_interface.mpr (.inl written))).free
    · intro f member
      rw [← Items.functions_of_arranged accepted] at member
      exact (declared _ (mem_names_interface.mpr (.inr (.inl ⟨f, member, rfl⟩)))).free
  · rintro ⟨names, symbols⟩
    exact ⟨fun _ => usable_interface accepted names sound symbols collected,
      fun _ => usable_implementation accepted names sound symbols⟩

def keywordField : Items where
  structs := [{ name := "S", fields := [{ name := "int", ty := .primitive .i32 }] }]

def numbered : Options where
  stem := "3d"
  targets := [.c]

theorem keywordField_unusable :
    ∃ files, (generate bareEnvironment numbered keywordField []).2.result = .ok files ∧
      ⟨"3d.h", fileText numbered
        ((declarations keywordField []).map (Declaration.inC numbered))⟩ ∈ files ∧
      "int" ∈ ((declarations keywordField []).map (Declaration.inC numbered)).flatMap CDecl.names ∧
      (∀ edition, ¬ Usable edition "int") ∧
      "3D_H" ∈ macros numbered ∧ ∀ edition, ¬ Usable edition "3D_H" := by
  have valid : keywordField.validated.result = .ok keywordField := rfl
  have found : typedefs numbered.resolvedHeaderPrefix keywordField = .ok [] := rfl
  refine ⟨_, generate_c_ok rfl valid found rfl, ?_, by decide, ?_, by decide, ?_⟩
  · rw [interfaceText_eq numbered _ (by simp [declarations, keywordField])]
    exact .head _
  · intro edition usable
    refine usable.free ?_
    cases edition <;> decide
  · intro edition usable
    exact usable.word.2.2 '3' rfl (by decide)

theorem visitor_usable :
    ∃ files out ts, (generate bareEnvironment setOff visitor []).2.result = .ok files ∧
      Target.c ∈ setOff.targets ∧
      ⟨"st.h", fileText setOff ((declarations out ts).map (Declaration.inC setOff))⟩ ∈ files ∧
      ⟨"st_export.h", (implementation setOff out.functions).spell setOff⟩ ∈ files ∧
      ∀ name ∈ macros setOff ++
          ((declarations out ts).map (Declaration.inC setOff)).flatMap CDecl.names ++
          (implementation setOff out.functions).names, Usable .c23 name := by
  have valid : visitor.validated.result = .ok visitor := rfl
  have found : typedefs setOff.resolvedHeaderPrefix visitor = .ok visitorTypedefs := rfl
  have made : (generate bareEnvironment setOff visitor []).2.result = .ok _ :=
    generate_c_ok rfl valid found rfl
  have letter : ∀ c, setOff.stem.toList.head? = some c → ¬ ('0' ≤ c ∧ c ≤ '9') := by
    rintro c first
    obtain rfl : 's' = c := by simpa [setOff] using first
    decide
  obtain ⟨out, ts, -, interface, implementation, -, -, usable⟩ :=
    identifiers_usable_iff made (by decide) .c23
  exact ⟨_, out, ts, made, by decide, interface, implementation,
    usable.mpr ⟨letter, by decide, by decide⟩⟩

end Generated

end Bindery
