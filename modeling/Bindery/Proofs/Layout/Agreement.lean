import Bindery.Proofs.Layout.Loading
import Bindery.Proofs.Loader.Scoping

set_option autoImplicit false
set_option relaxedAutoImplicit false

/-!
The header and the loader module describe the same memory, as far as the module can be run. The
header is read declaration by declaration, next to the description itself: what a declaration adds
to what has been read so far is what the description says at that place.
-/

namespace Bindery.Header

open Layout

variable {m : Machine} {tag : String}

/-! ### Types and members of the header -/

/-- The extents of types under the names of their typedefs. -/
def typedefTable (m : Machine) (tag : String) (ts : List Ty) : Named Extent :=
  ts.map fun t => (typedefName tag t, fixedExtent m t)

/-- The typedefs that a type needs are known. -/
def Knows (m : Machine) (tag : String) (typedefs : Named Extent) (t : Ty) : Prop :=
  ∀ u ∈ carriers t, typedefs.get? (typedefName tag u) = some (fixedExtent m u)

theorem carriers_array (element : Ty) (len : UInt64) :
    carriers (.array element len) = carriers element := by
  rw [carriers_eq]
  simp [Ty.parts, Ty.children, isCarrier]

theorem extent?_carrier {scope : Scope} {t : Ty} (carrier : isCarrier t = true)
    (knows : Knows m tag scope.typedefs t) (isConst : Bool) :
    (denote tag isConst t).extent? m scope = some (fixedExtent m t) := by
  rw [denote_carrier tag isConst carrier]
  exact knows t (mem_carriers_iff.mpr ⟨carrier, .refl⟩)

theorem extent?_denote {scope : Scope} {t : Ty} (owns : t.OwnsReferences)
    (knows : Knows m tag scope.typedefs t) (isConst : Bool) :
    (denote tag isConst t).extent? m scope = Layout.extent? m scope.structs t := by
  induction t using Ty.size_induction with
  | step t ih =>
    cases t with
    | primitive p => cases p <;> rfl
    | array element len =>
      have inner := ih element (Ty.size_lt_of_mem_children List.mem_cons_self)
        (owns.part (.of_mem List.mem_cons_self)) (by rwa [Knows, carriers_array] at knows)
      rw [denote, CType.extent?, inner, Layout.extent?]
    | owned inner =>
      rw [extent?_carrier (isCarrier_owned (owns inner .refl)) knows]
      rfl
    | slice _ _ | function _ _ | closure _ _ => exact extent?_carrier rfl knows isConst
    | named _ | pointer _ _ | string _ => rfl

theorem extent?_members (scope : Scope) {fields : List Field}
    (owns : ∀ f ∈ fields, f.ty.OwnsReferences)
    (knows : ∀ f ∈ fields, Knows m tag scope.typedefs f.ty) :
    (fields.map (fieldMember tag)).mapM (Member.extent? m scope) =
      fields.mapM fun f => (Layout.extent? m scope.structs f.ty).map fun e => (f.name, e) := by
  rw [List.mapM_map]
  refine mapM_congr fun f field => ?_
  exact congrArg (Option.map _) (extent?_denote (owns f field) (knows f field) false)

theorem paramExtent?_denote {scope : Scope} {t : Ty} (owns : t.OwnsReferences)
    (knows : Knows m tag scope.typedefs t) (single : t.isArray = false) :
    (denote tag false t).paramExtent? m scope = Layout.extent? m scope.structs t := by
  rw [← extent?_denote owns knows false]
  cases t with
  | array element len => cases single
  | _ => rfl

theorem resultExtent?_denote {scope : Scope} {returns : Option Ty}
    (owns : ∀ t ∈ returns.toList, t.OwnsReferences)
    (knows : ∀ t ∈ returns.toList, Knows m tag scope.typedefs t)
    (single : ∀ t ∈ returns.toList, t.isArray = false) :
    (denoteResult tag returns).resultExtent? m scope =
      Layout.resultExtent? m scope.structs returns := by
  cases returns with
  | none => rfl
  | some t =>
    have extent := extent?_denote (owns t List.mem_cons_self) (knows t List.mem_cons_self) false
    rw [denoteResult, Layout.resultExtent?, ← extent]
    cases t with
    | array element len => cases single _ List.mem_cons_self
    | _ => rfl

/-! ### The typedefs -/

theorem fixedExtent_inC {t : Ty} (carrier : isCarrier t = true) :
    fixedExtent m t.inC = fixedExtent m t := by
  unfold isCarrier at carrier
  split at carrier
  all_goals simp_all [Ty.inC, fixedExtent]

theorem get?_typedefTable {ts : List Ty} (carriers : ∀ t ∈ ts, isCarrier t = true)
    (distinct : (ts.map (typedefName tag)).Nodup) {t u : Ty} (defined : t ∈ ts)
    (carrier : isCarrier u = true) (same : t.inC = u.inC) :
    (typedefTable m tag ts).get? (typedefName tag u) = some (fixedExtent m u) := by
  have name : typedefName tag t = typedefName tag u := by
    rw [← typedefName_inC tag t, same, typedefName_inC]
  have extent : fixedExtent m t = fixedExtent m u := by
    rw [← fixedExtent_inC (carriers t defined), same, fixedExtent_inC carrier]
  have names : (typedefTable m tag ts).map Prod.fst = ts.map (typedefName tag) := by
    simp [typedefTable, Function.comp_def]
  rw [← name, ← extent]
  exact Named.get?_of_mem (names ▸ distinct) (List.mem_map.mpr ⟨t, defined, rfl⟩)

theorem read_typedefOf {typedefs : Named Extent} {t : Ty} (carrier : isCarrier t = true)
    (knows : ∀ u ∈ t.parts, Knows m tag typedefs u) :
    (typedefOf tag t).read m { typedefs } =
      some { typedefs := typedefs ++ [(typedefName tag t, fixedExtent m t)] } := by
  unfold isCarrier at carrier
  split at carrier
  · rfl
  · rfl
  · -- An owned slice contains a view, whose typedef stands before it.
    rename_i mutability element
    have view := knows _ List.mem_cons_self (.slice .mutable element)
      (mem_carriers_iff.mpr ⟨rfl, .refl⟩)
    simp [typedefOf, CDecl.read, Member.extent?, CType.extent?, Base.extent?, view, deleter,
      CType.callback, fixedExtent, ownedSliceLayout]
  · rfl
  · rfl
  · simp at carrier

section Assembly

variable {options : Options} {items : Items} {ts : List Ty}

theorem read_typedefs
    (collected : Collected options.resolvedHeaderPrefix
      ((declaredTypes items).flatMap carriers) ts) :
    readFrom m {} (ts.map (typedefOf options.resolvedHeaderPrefix)) =
      some { typedefs := typedefTable m options.resolvedHeaderPrefix ts } := by
  rw [readFrom, List.foldlM_map]
  let state (before : List Ty) : Scope :=
    { typedefs := typedefTable m options.resolvedHeaderPrefix before }
  refine foldlM_of_eachAfter state ?_
  -- What a definition contains is defined before it, under a name that nothing else has.
  intro before t after split
  have known : ∀ u ∈ before, isCarrier u = true := fun u member =>
    (collected.needs (by simp [split, member])).1
  have distinct : (before.map (typedefName options.resolvedHeaderPrefix)).Nodup := by
    have whole := collected.distinct
    rw [split, List.map_append] at whole
    exact whole.of_append_left
  have knows : ∀ v ∈ t.parts,
      Knows m options.resolvedHeaderPrefix
        (typedefTable m options.resolvedHeaderPrefix before) v := by
    intro v part u listed
    obtain ⟨w, member, same⟩ := collected.ordered before t after split v part u listed
    exact get?_typedefTable known distinct member (mem_carriers_iff.mp listed).1 same
  have carrier := (collected.needs (by simp [split] : t ∈ ts)).1
  rw [read_typedefOf carrier knows]
  simp [state, typedefTable]

theorem knows_declared
    (collected : Collected options.resolvedHeaderPrefix ((declaredTypes items).flatMap carriers) ts)
    {t : Ty} (declared : t ∈ declaredTypes items) :
    Knows m options.resolvedHeaderPrefix (typedefTable m options.resolvedHeaderPrefix ts) t := by
  intro u listed
  have known : ∀ u ∈ ts, isCarrier u = true := fun u member => (collected.needs member).1
  obtain ⟨w, member, same⟩ := collected.covers u (List.mem_flatMap.mpr ⟨t, declared, listed⟩)
  exact get?_typedefTable known collected.distinct member (mem_carriers_iff.mp listed).1 same

/-! ### Structs and functions of the header -/

theorem read_struct {typedefs : Named Extent} {s : Struct} (known : Named StructLayout)
    (owns : ∀ f ∈ s.fields, f.ty.OwnsReferences)
    (knows : ∀ f ∈ s.fields, Knows m options.resolvedHeaderPrefix typedefs f.ty) :
    ((Declaration.struct s).inC options).read m { typedefs, structs := known } =
      (addLayout m known s).map fun structs => { typedefs, structs } := by
  have members := extent?_members { typedefs, structs := known } owns knows
  rw [Declaration.inC, CDecl.read, members, addLayout, structLayout?]
  cases s.fields.mapM fun f => (Layout.extent? m known f.ty).map fun e => (f.name, e) <;> rfl

theorem read_function {scope : Scope} {f : Function}
    (owns : ∀ t ∈ f.params.map Param.ty ++ f.returns.toList, t.OwnsReferences)
    (knows : ∀ t ∈ f.params.map Param.ty ++ f.returns.toList,
      Knows m options.resolvedHeaderPrefix scope.typedefs t)
    (single : ∀ t ∈ f.params.map Param.ty ++ f.returns.toList, t.isArray = false) :
    ((Declaration.function f).inC options).read m scope =
      (functionLayout? m options scope.structs f).map fun layout =>
        { scope with functions := scope.functions ++ [layout] } := by
  have inParams : ∀ p ∈ f.params, p.ty ∈ f.params.map Param.ty ++ f.returns.toList :=
    fun p param => List.mem_append_left _ (List.mem_map_of_mem param)
  have inResult : ∀ t ∈ f.returns.toList, t ∈ f.params.map Param.ty ++ f.returns.toList :=
    fun t result => List.mem_append_right _ result
  have params : (f.params.map (paramMember options.resolvedHeaderPrefix)).mapM
      (fun p => p.type.paramExtent? m scope) =
        f.params.mapM fun p => Layout.extent? m scope.structs p.ty := by
    rw [List.mapM_map]
    refine mapM_congr fun p param => ?_
    have used := inParams p param
    exact paramExtent?_denote (owns _ used) (knows _ used) (single _ used)
  have result := resultExtent?_denote (fun t returned => owns t (inResult t returned))
    (fun t returned => knows t (inResult t returned))
    (fun t returned => single t (inResult t returned))
  rw [Declaration.inC, CDecl.read, params, result, functionLayout?]
  cases f.params.mapM fun p => Layout.extent? m scope.structs p.ty with
  | none => rfl
  | some params => cases Layout.resultExtent? m scope.structs f.returns <;> rfl

theorem read_announcements (scope : Scope) :
    readFrom m scope (announcements items) = some scope := by
  refine foldlM_of_idle fun d member => ?_
  rcases List.mem_append.mp member with abstract | struct
  · obtain ⟨s, -, rfl⟩ := List.mem_map.mp abstract
    rfl
  · obtain ⟨s, -, rfl⟩ := List.mem_map.mp struct
    rfl

theorem readFrom_append (scope : Scope) (first second : List CDecl) :
    readFrom m scope (first ++ second) = (readFrom m scope first).bind (readFrom m · second) :=
  List.foldlM_append

section Run

variable {described : Items} (arranged : described.arranged = .ok items)
  (collected : Collected options.resolvedHeaderPrefix ((declaredTypes items).flatMap carriers) ts)

include arranged collected

theorem read_structs :
    readFrom m { typedefs := typedefTable m options.resolvedHeaderPrefix ts }
        (items.structs.map fun s => (Declaration.struct s).inC options) =
      (items.structs.foldlM (addLayout m) []).map fun structs =>
        { typedefs := typedefTable m options.resolvedHeaderPrefix ts, structs } := by
  let state (structs : Named StructLayout) : Scope :=
    { typedefs := typedefTable m options.resolvedHeaderPrefix ts, structs }
  rw [readFrom, List.foldlM_map]
  refine foldlM_view state ?_ []
  intro known s struct
  have declared := fun f field => Items.field_mem_declaredTypes (f := f) struct field
  have owns := (accepted_of_arranged arranged).owns
  exact read_struct known (fun f field => owns _ (declared f field))
    fun f field => knows_declared collected (declared f field)

theorem read_functions (known : Named StructLayout) :
    readFrom m { typedefs := typedefTable m options.resolvedHeaderPrefix ts, structs := known }
        (items.functions.map fun f => (Declaration.function f).inC options) =
      (items.functions.mapM (functionLayout? m options known)).map fun functions =>
        { typedefs := typedefTable m options.resolvedHeaderPrefix ts, structs := known,
          functions } := by
  let state (functions : List FunctionLayout) : Scope :=
    { typedefs := typedefTable m options.resolvedHeaderPrefix ts, structs := known, functions }
  rw [readFrom, List.foldlM_map]
  refine foldlM_collect state ?_ []
  intro functions f function
  have declared := fun t used => Items.signature_mem_declaredTypes (t := t) function used
  have owns := (accepted_of_arranged arranged).owns
  refine read_function (fun t used => owns t (declared t used))
    (fun t used => knows_declared collected (declared t used)) ?_
  -- An array would be read as a pointer here, but no accepted function takes or returns one.
  obtain ⟨order, -, rfl⟩ := Items.arranged_eq arranged
  exact fun t => Items.isArray_signature arranged function

/-- Reading the header of an accepted description gives the layouts of the description. -/
theorem readFrom_declarations :
    readFrom m {} ((declarations items ts).map (Declaration.inC options)) =
      (layouts? m options items).map fun layouts =>
        { typedefs := typedefTable m options.resolvedHeaderPrefix ts, structs := layouts.1,
          functions := layouts.2 } := by
  rw [declarations_inC, readFrom_append, readFrom_append, read_announcements, Option.bind_some,
    read_typedefs collected, Option.bind_some, uses, readFrom_append,
    read_structs arranged collected]
  simp [layouts?, read_functions arranged collected, Option.bind_map, Option.map_bind,
    Function.comp_def]

end Run

end Assembly

end Bindery.Header

/-! ### Generated files -/

namespace Bindery.Layout

/-- What was read of a header is about a description: every struct with all its fields and every
function with all its arguments. -/
structure Describes (options : Options) (items : Items) (header : Header.Scope) : Prop where
  outlines : header.structs.map outline =
    items.structs.map fun s => (s.name, s.fields.map Field.name)
  shapes : header.functions.map FunctionLayout.shape =
    items.functions.map fun f => (options.symbol f.name, f.params.length, f.returns.isSome)

/-- A function takes or returns a struct, however deep in a type, that is named like the parameter
or the variable of the loading function. -/
def UsesHidden (items : Items) : Prop :=
  ∃ f ∈ items.functions, ∃ t ∈ f.params.map Param.ty ++ f.returns.toList,
    (Ty.named "path").Inside t ∨ (Ty.named "lib").Inside t

/-- A header and a loader module that were read lay out the same structs, and the same functions if
the loading function can be run. -/
structure Agree (m : Machine) (items : Items) (header : Header.Scope) (loader : Loader.Scope) :
    Prop where
  structs : header.structs = loader.structs
  functions : ¬ UsesHidden items → loader.functions? m = some header.functions
  hidden : UsesHidden items → loader.functions? m = none

theorem loader_agrees {m : Machine} {options : Options} {items out : Items}
    (arranged : items.arranged = .ok out)
    (free : ∀ name ∈ Loader.classNames out, name ∉ Loader.reserved) {header : Header.Scope}
    (laid : layouts? m options out = some (header.structs, header.functions)) :
    (Loader.readFrom m {} (Loader.statements options out) = none ↔
        "__debug__" ∈ items.structNames ++ items.abstractNames) ∧
      ∀ state, Loader.readFrom m {} (Loader.statements options out) = some state →
        Agree m items header state := by
  have known : ∀ t ∈ Header.declaredTypes out, ∀ name, (Ty.named name).Inside t →
      name ∈ Loader.classNames out := fun t declared name inside =>
    Items.mem_classNames_of_inside arranged
      ((Items.mem_declaredTypes_iff arranged).mp declared) inside
  have owns := (Header.accepted_of_arranged arranged).owns
  have functions := Items.functions_of_arranged arranged
  obtain ⟨structs, inOrder, declared⟩ := Option.bind_eq_some_iff.mp laid
  obtain ⟨named, listed, same⟩ := Option.map_eq_some_iff.mp declared
  obtain ⟨rfl, rfl⟩ := Prod.mk.inj same
  rw [← Items.mem_classNames_iff arranged]
  by_cases usable : "__debug__" ∈ Loader.classNames out
  · have stuck : Loader.readFrom m {} (Loader.statements options out) = none :=
      Loader.readFrom_statements_eq_none usable
    simp [stuck, usable]
  · have read : Loader.readFrom m {} (Loader.statements options out) = _ :=
      Loader.readFrom_statements free known owns usable
    rw [inOrder, Option.map_some] at read
    refine ⟨by simp [read, usable], fun state found => ?_⟩
    obtain rfl := Option.some.inj (read.symm.trans found)
    refine ⟨rfl, fun clear => ?_, ?_⟩
    · rw [Loader.functions?_eq free known owns usable, listed]
      intro f function t used
      rw [functions] at function
      exact not_or.mp fun hidden => clear ⟨f, function, t, used, hidden⟩
    · rintro ⟨f, function, t, used, hidden⟩
      rw [← functions] at function
      exact Loader.functions?_eq_none free known _ function used hidden

/-- On every machine, the header and the loader module of a description can be read to their ends,
and they agree on the size, the alignment and the offsets of every struct and on what every function
takes and returns. Two kinds of names are in the way. A class cannot have the name of the constant
that is no keyword, so that the module does not load. A struct that is named like the parameter or
the variable of the loading function is not found in a signature, so that no symbol can be
declared. -/
theorem generated_files_agree {env env' : Environment} {options : Options} {items : Items}
    {cache cache' : ManifestCache} {header loader : String}
    (declared : (generateMain env options items .c cache).2.result = .ok header)
    (loaded : (generateMain env' options items .python cache').2.result = .ok loader) :
    ∃ out ts, items.validated.result = .ok out ∧
      out.structs.Perm items.structs ∧ out.functions = items.functions ∧
      Header.typedefs options.resolvedHeaderPrefix out = .ok ts ∧
      header = Header.fileText options
        ((Header.declarations out ts).map (Header.Declaration.inC options)) ∧
      loader = Loader.moduleText options (Loader.statements options out) ∧
      (∀ s ∈ Loader.statements options out, ∀ r, s.routine = some r → r.spell = s.spell) ∧
      ∀ m : Machine, ∃ scope,
        Header.readFrom m {} ((Header.declarations out ts).map (Header.Declaration.inC options)) =
          some scope ∧
        Describes options out scope ∧
        (Loader.readFrom m {} (Loader.statements options out) = none ↔
          "__debug__" ∈ items.structNames ++ items.abstractNames) ∧
        ∀ state, Loader.readFrom m {} (Loader.statements options out) = some state →
          Agree m items scope state := by
  obtain ⟨out, ts, valid, found, text⟩ := generated_header declared
  obtain ⟨-, other, validToo, rendered⟩ := generateMain_ok_iff.mp loaded
  obtain ⟨checked, rfl⟩ := loaderText_ok_iff.mp rendered
  obtain rfl : out = other := Except.ok.inj (valid.symm.trans validToo)
  have arranged : items.arranged = .ok out := valid
  have permuted := Items.structs_perm_of_arranged arranged
  refine ⟨out, ts, valid, permuted, Items.functions_of_arranged arranged, found, text,
    Loader.file_eq options out, fun _ _ _ => Loader.spell_of_routine, ?_⟩
  intro m
  obtain ⟨structs, functions, laid, outlines, shapes⟩ :=
    exists_layouts_of_arranged m options arranged
  have fromHeader :=
    Header.readFrom_declarations (m := m) arranged (Header.typedefs_collected found)
  rw [laid, Option.map_some] at fromHeader
  exact ⟨_, fromHeader, ⟨outlines, shapes⟩,
    loader_agrees arranged (Loader.checkNames_ok_iff.mp checked) laid⟩

/-- A machine with addresses of eight bytes on which every scalar is aligned to its size. -/
def wideMachine : Machine where
  width := 8
  align
    | .boolean => 1
    | .integer bytes => bytes
    | .real bytes => bytes
    | .word => 8
    | .address => 8

def mixedItems : Items where
  abstractStructs := [{ name := "Handle" }]
  structs := [
    { name := "Mixed", fields := [
        { name := "flag", ty := .primitive .bool },
        { name := "parts", ty := .array (.named "Part") 3 },
        { name := "handle", ty := .pointer .mutable (.named "Handle") },
        { name := "title", ty := .string .const },
        { name := "view", ty := .slice .const (.primitive .u16) },
        { name := "own", ty := .owned (.pointer .mutable (.named "Part")) },
        { name := "block", ty := .owned (.slice .mutable (.primitive .u8)) },
        { name := "hook", ty := .function [.primitive .i32] none },
        { name := "job", ty := .closure [.named "Part"] (some (.primitive .bool)) }] },
    { name := "Part", fields := [
        { name := "kind", ty := .primitive .u8 }, { name := "weight", ty := .primitive .f64 }] }]
  functions := [
    { name := "pick", params := [{ name := "from", ty := .pointer .const (.named "Mixed") },
        { name := "at", ty := .primitive .usize }], returns := some (.named "Part") }]

def mixedArranged : Items := { mixedItems with structs := mixedItems.structs.reverse }

def mixedTypedefs : List Ty :=
  [.slice .const (.primitive .u16), .owned (.pointer .mutable (.named "Part")),
    .slice .mutable (.primitive .u8), .owned (.slice .mutable (.primitive .u8)),
    .function [.primitive .i32] none, .closure [.named "Part"] (some (.primitive .bool))]

theorem mixedItems_agree :
    (generateMain bareEnvironment {} mixedItems .c []).2.result =
        .ok (Header.interfaceText {} (Header.declarations mixedArranged mixedTypedefs)) ∧
      (generateMain bareEnvironment {} mixedItems .python []).2.result =
        .ok (Loader.file {} mixedArranged) ∧
      ∃ scope state,
        Header.readFrom wideMachine {}
          ((Header.declarations mixedArranged mixedTypedefs).map (Header.Declaration.inC {})) =
            some scope ∧
        Loader.readFrom wideMachine {} (Loader.statements {} mixedArranged) = some state ∧
        state.structs = scope.structs ∧ state.functions? wideMachine = some scope.functions ∧
        scope.structs.get? "Part" = some ⟨16, 8, [("kind", 0), ("weight", 8)]⟩ ∧
        scope.functions = [⟨"pick", [⟨8, 8⟩, ⟨8, 8⟩], some ⟨16, 8⟩⟩] := by
  have valid : mixedItems.validated.result = .ok mixedArranged := rfl
  have found : Header.typedefs ({} : Options).resolvedHeaderPrefix mixedArranged =
      .ok mixedTypedefs := rfl
  have header : (generateMain bareEnvironment {} mixedItems .c []).2.result = _ :=
    generateMain_c_ok rfl valid found
  have loader : (generateMain bareEnvironment {} mixedItems .python []).2.result = _ :=
    generateMain_python_ok rfl valid rfl
  refine ⟨header, loader, ?_⟩
  obtain ⟨out, ts, validToo, -, -, foundToo, -, -, -, agree⟩ := generated_files_agree header loader
  obtain rfl : mixedArranged = out := Except.ok.inj (valid.symm.trans validToo)
  obtain rfl : mixedTypedefs = ts := Except.ok.inj (found.symm.trans foundToo)
  obtain ⟨scope, read, -, stuck, same⟩ := agree wideMachine
  obtain ⟨state, loaded⟩ := Option.ne_none_iff_exists'.mp (mt stuck.mp (by decide))
  obtain ⟨structs, functions, -⟩ := same state loaded
  have clear : ¬ UsesHidden mixedItems := by
    have names : ∀ f ∈ mixedItems.functions, ∀ t ∈ f.params.map Param.ty ++ f.returns.toList,
        "path" ∉ (Loader.denote t).names ∧ "lib" ∉ (Loader.denote t).names := by decide
    rintro ⟨f, function, t, used, hidden⟩
    obtain ⟨noPath, noLib⟩ := names f function t used
    rw [Loader.mem_names_denote (by decide)] at noPath noLib
    exact hidden.elim noPath noLib
  refine ⟨scope, state, read, loaded, structs.symm, functions clear, ?_⟩
  have contents : (Header.readFrom wideMachine {}
      ((Header.declarations mixedArranged mixedTypedefs).map (Header.Declaration.inC {}))).map
        (fun scope => (scope.structs.get? "Part", scope.functions)) =
      some (some ⟨16, 8, [("kind", 0), ("weight", 8)]⟩,
        [⟨"pick", [⟨8, 8⟩, ⟨8, 8⟩], some ⟨16, 8⟩⟩]) :=
    rfl
  rw [read, Option.map_some] at contents
  exact Prod.mk.inj (Option.some.inj contents)

theorem hiddenStructs_undeclared :
    (generateMain bareEnvironment {} hiddenStructs .c []).2.result =
        .ok (Header.interfaceText {} (Header.declarations hiddenStructs [])) ∧
      (generateMain bareEnvironment {} hiddenStructs .python []).2.result =
        .ok (Loader.file {} hiddenStructs) ∧
      ∃ scope state,
        Header.readFrom wideMachine {}
          ((Header.declarations hiddenStructs []).map (Header.Declaration.inC {})) = some scope ∧
        Loader.readFrom wideMachine {} (Loader.statements {} hiddenStructs) = some state ∧
        scope.functions = [⟨"f", [⟨8, 8⟩], some ⟨8, 8⟩⟩] ∧
        state.functions? wideMachine = none := by
  have valid : hiddenStructs.validated.result = .ok hiddenStructs := rfl
  have found : Header.typedefs ({} : Options).resolvedHeaderPrefix hiddenStructs = .ok [] := rfl
  refine ⟨generateMain_c_ok rfl valid found, generateMain_python_ok rfl valid rfl, ?_⟩
  let scope : Header.Scope :=
    { structs := [("path", ⟨4, 4, [("x", 0)]⟩), ("lib", ⟨8, 8, [("next", 0)]⟩)]
      functions := [⟨"f", [⟨8, 8⟩], some ⟨8, 8⟩⟩] }
  have laid : layouts? wideMachine {} hiddenStructs = some (scope.structs, scope.functions) := rfl
  have arranged : hiddenStructs.arranged = .ok hiddenStructs := valid
  obtain ⟨stuck, same⟩ := loader_agrees arranged (by decide) laid
  obtain ⟨state, loaded⟩ := Option.ne_none_iff_exists'.mp (mt stuck.mp (by decide))
  have hidden : UsesHidden hiddenStructs :=
    ⟨_, List.mem_cons_self, .named "lib", List.mem_cons_of_mem _ List.mem_cons_self, .inr .refl⟩
  exact ⟨scope, state, rfl, loaded, rfl, (same state loaded).hidden hidden⟩

end Bindery.Layout
