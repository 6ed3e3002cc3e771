import Bindery.Proofs.Header.Parts
import Bindery.Proofs.Loader.Syntax

set_option autoImplicit false
set_option relaxedAutoImplicit false

/-!
What the names in the loader module stand for. A statement of the module binds names from then on,
and an expression of the module sees the latest binding before it. The body of a function runs when
the module is complete; there the parameters and variables of the function come first. The words of
the language are no names at all.
-/

namespace Bindery.Loader

/-! ### Names of expressions -/

mutual

def Expr.names : Expr → List String
  | .name text => [text]
  | .absent => []
  | .member _ => ["ct"]
  | .call callee args => callee.names ++ Expr.namesAll args
  | .array element _ => element.names
  | .spread text => [text]

def Expr.namesAll : List Expr → List String
  | [] => []
  | e :: es => e.names ++ Expr.namesAll es

end

theorem Expr.namesAll_eq_flatMap (es : List Expr) : Expr.namesAll es = es.flatMap Expr.names := by
  induction es with
  | nil => rfl
  | cons e es ih => rw [Expr.namesAll, ih, List.flatMap_cons]

theorem mem_names_signature {callee : Expr} {args : List Ty} {returns : Option Ty} {name : String} :
    name ∈ (Expr.call callee (denoteResult returns :: denoteAll args)).names ↔
      name ∈ callee.names ∨ ∃ t ∈ args ++ returns.toList, name ∈ (denote t).names := by
  rw [Expr.names, List.mem_append, Expr.namesAll_eq_flatMap, List.flatMap_cons, denoteAll_eq_map,
    List.flatMap_map]
  cases returns with
  | none => simp [denoteResult, Expr.names]
  | some t => simp [denoteResult, or_and_right, exists_or, or_comm]

theorem mem_names_denote {t : Ty} {name : String} (free : name ∉ reserved) :
    name ∈ (denote t).names ↔ (Ty.named name).Inside t := by
  have fixed : name ≠ "ct" ∧ name ≠ "Slice" ∧ name ≠ "OwnedPtr" ∧ name ≠ "OwnedSlice" ∧
      name ≠ "Closure" := by
    refine ⟨?_, ?_, ?_, ?_, ?_⟩ <;> rintro rfl <;> exact free (by decide)
  obtain ⟨noLibrary, noSlice, noOwnedPtr, noOwnedSlice, noClosure⟩ := fixed
  induction t using Ty.size_induction with
  | step t ih =>
    have inside : ∀ u ∈ t.children, (name ∈ (denote u).names ↔ (Ty.named name).Inside u) :=
      fun u child => ih u (Ty.size_lt_of_mem_children child)
    rw [Ty.Inside, Relation.ReflTransGen.cases_head_iff]
    cases t with
    | primitive p => simp [denote, Expr.names, Ty.children, noLibrary]
    | named own => simp [denote, Expr.names, Ty.children, eq_comm]
    | string m => simp [denote, Expr.names, Ty.children, noLibrary]
    | pointer m pointee =>
      have target := inside pointee List.mem_cons_self
      simp [denote, pointerExpr, Expr.names, Expr.namesAll, Ty.children, noLibrary,
        target, Ty.Inside]
    | slice m element =>
      have target := inside element List.mem_cons_self
      simp [denote, Expr.names, Expr.namesAll, Ty.children, noSlice, target, Ty.Inside]
    | array element len =>
      have target := inside element List.mem_cons_self
      simp [denote, Expr.names, Ty.children, target, Ty.Inside]
    | function args returns =>
      rw [denote, callbackExpr, mem_names_signature]
      simp only [Expr.names, List.mem_singleton, noLibrary, reduceCtorEq, false_or]
      exact exists_congr fun u => and_congr_right fun child => inside u child
    | closure args returns =>
      rw [denote, mem_names_signature]
      simp only [Expr.names, List.mem_singleton, noClosure, reduceCtorEq, false_or]
      exact exists_congr fun u => and_congr_right fun child => inside u child
    | owned inner =>
      have content := inside inner List.mem_cons_self
      -- What is owned is spelled by another class, with the same names inside.
      have owner : name ∈ (denote (.owned inner)).names ↔ name ∈ (denote inner).names := by
        cases inner <;>
          simp [denote, pointerExpr, Expr.names, Expr.namesAll, noLibrary, noSlice, noOwnedPtr,
            noOwnedSlice]
      rw [owner, content]
      simp [Ty.children, Ty.Inside]

/-! ### What statements bind -/

def keywords : List String :=
  ["False", "None", "True", "and", "as", "assert", "async", "await", "break", "class", "continue",
    "def", "del", "elif", "else", "except", "finally", "for", "from", "global",
    "if", "import", "in", "is", "lambda", "nonlocal", "not", "or", "pass", "raise", "return", "try",
    "while", "with", "yield"]

/-- What cannot be bound: the keywords, and one constant that is no keyword. -/
def words : List String := keywords ++ ["__debug__"]

/-- The name that a line at the left margin binds, be it an import, a definition or an
assignment. -/
def boundBy (line : List Char) : Option String :=
  match line.splitOn ' ' with
  | first :: second :: rest =>
    if first = "import".toList then (second :: rest).getLast?.map String.ofList
    else if first = "class".toList ∨ first = "def".toList then
      some (String.ofList (second.takeWhile Text.Identifier.isAsciiContinue))
    else if first ≠ [] ∧ second = "=".toList then some (String.ofList first)
    else none
  | _ => none

def boundNames (text : String) : List String := (text.toList.splitOn '\n').filterMap boundBy

theorem boundNames_unlines (lines : List String) :
    boundNames (unlines lines) = lines.flatMap boundNames := by
  induction lines with
  | nil => rfl
  | cons line rest ih =>
    have joined : (unlines (line :: rest)).toList = line.toList ++
        '\n' :: (unlines rest).toList := by
      simp [unlines]
    rw [boundNames, joined, List.splitOn_append_cons_self, List.filterMap_append, ← boundNames,
      ← boundNames, ih, List.flatMap_cons]

/-- The names that a statement binds in the module. Giving a class its fields binds nothing. -/
def Statement.binds : Statement → List String
  | .other text => boundNames text
  | .factory f => [f.name]
  | .opened name _ => [name]
  | .layout _ _ => []
  | .load _ _ => ["load"]

theorem boundNames_importLines : boundNames importLines = ["ct", "functools"] := by
  rw [importLines, boundNames_unlines]
  decide +kernel

theorem boundNames_ownerClass : boundNames ownerClass = ["_Owner"] := by
  rw [ownerClass, boundNames_unlines]
  decide +kernel

theorem boundNames_declareFunction : boundNames declareFunction = ["_declare"] := by
  rw [declareFunction, boundNames_unlines]
  decide +kernel

def fixedNames : List String :=
  ["ct", "functools", "_Owner", "Slice", "OwnedPtr", "OwnedSlice", "Closure", "_declare", "load"]

theorem fixedNames_reserved : ∀ name ∈ fixedNames, name ∈ reserved := by decide

theorem fixedNames_noWord : ∀ name ∈ fixedNames, name ∉ words := by decide

theorem map_binds_support : supportStatements.map Statement.binds =
    [["ct", "functools"], ["_Owner"], ["Slice"], ["OwnedPtr"], ["OwnedSlice"], ["Closure"],
      ["_declare"]] := by
  simp only [supportStatements, List.map_cons, List.map_nil, Statement.binds,
    boundNames_importLines, boundNames_ownerClass, boundNames_declareFunction]
  rfl

theorem mem_fixedNames_of_support {s : Statement} (member : s ∈ supportStatements) {name : String}
    (binds : name ∈ s.binds) : name ∈ fixedNames := by
  have all : ∀ names ∈ supportStatements.map Statement.binds, ∀ n ∈ names, n ∈ fixedNames := by
    rw [map_binds_support]
    decide
  exact all s.binds (List.mem_map_of_mem member) name binds

/-! ### The loading function -/

inductive Step where
  | assign (target : String) (value : Expr)
  | declare (library : String) (symbol : Symbol)
  | give (name : String)

def Step.spell : Step → String
  | .assign target value => "    " ++ target ++ " = " ++ value.spell ++ "\n"
  | .declare library s =>
    "    _declare(" ++ library ++ ", \"" ++ s.name ++ "\", [" ++
      ", ".intercalate (s.args.map Expr.spell) ++ "], " ++ s.result.spell ++ ")\n"
  | .give name => "    return " ++ name ++ "\n"

structure Routine where
  name : String
  params : List String
  docs : List String
  steps : List Step

def Routine.spell (r : Routine) : String :=
  "\n\ndef " ++ r.name ++ "(" ++ ", ".intercalate r.params ++ "):\n" ++ docString "    " r.docs ++
    String.join (r.steps.map Step.spell)

/-- The names of a function that hide those of the module: its parameters, and whatever is assigned
anywhere in its body. -/
def Routine.locals (r : Routine) : List String :=
  r.params ++ r.steps.filterMap fun
    | .assign target _ => some target
    | _ => none

def Routine.symbols (r : Routine) : List Symbol :=
  r.steps.filterMap fun
    | .declare _ symbol => some symbol
    | _ => none

def Routine.typeNames (r : Routine) : List String :=
  r.symbols.flatMap fun s => s.args.flatMap Expr.names ++ s.result.names

def loading (docs : List String) (symbols : List Symbol) : Routine where
  name := "load"
  params := ["path"]
  docs := docs
  steps := .assign "lib" (.call (.member "CDLL") [.name "path"]) :: symbols.map (.declare "lib") ++
    [.give "lib"]

theorem spell_declare (s : Symbol) : (Step.declare "lib" s).spell = s.spell := by
  have start : "    _declare(" ++ "lib" ++ ", \"" = "    _declare(lib, \"" := by decide +kernel
  exact congrArg (fun start => start ++ s.name ++ "\", [" ++
    ", ".intercalate (s.args.map Expr.spell) ++ "], " ++ s.result.spell ++ ")\n") start

theorem spell_loading (docs : List String) (symbols : List Symbol) :
    (loading docs symbols).spell = (Statement.load docs symbols).spell := by
  have head : "\n\ndef " ++ "load" ++ "(" ++ ", ".intercalate ["path"] ++ "):\n" =
      "\n\ndef load(path):\n" := by decide +kernel
  have assigned : (Step.assign "lib" (.call (.member "CDLL") [.name "path"])).spell =
      "    lib = ct.CDLL(path)\n" := by decide +kernel
  have declared : (symbols.map (Step.declare "lib")).map Step.spell = symbols.map Symbol.spell := by
    rw [List.map_map]
    exact List.map_congr_left fun s _ => spell_declare s
  have returned : (Step.give "lib").spell = "    return lib\n" := by decide +kernel
  have steps : String.join ((loading docs symbols).steps.map Step.spell) =
      "    lib = ct.CDLL(path)\n" ++ (String.join (symbols.map Symbol.spell) ++
        "    return lib\n") := by
    rw [loading, List.cons_append, List.map_cons, List.map_append, declared, assigned,
      List.map_singleton, returned, String.join_cons, String.join_append, String.join_cons,
      String.join_nil, String.append_empty]
  have grouped (a b c d e : String) : a ++ b ++ (c ++ (d ++ e)) = a ++ b ++ c ++ d ++ e := by
    simp only [String.append_assoc]
  calc (loading docs symbols).spell
      = "\n\ndef load(path):\n" ++ docString "    " docs ++
          String.join ((loading docs symbols).steps.map Step.spell) :=
        congrArg (fun head => head ++ docString "    " docs ++
          String.join ((loading docs symbols).steps.map Step.spell)) head
    _ = (Statement.load docs symbols).spell := by
        rw [steps]
        exact grouped _ _ _ _ _

theorem locals_loading (docs : List String) (symbols : List Symbol) :
    (loading docs symbols).locals = ["path", "lib"] := by
  simp [Routine.locals, loading, List.filterMap_append, List.filterMap_map]

theorem symbols_loading (docs : List String) (symbols : List Symbol) :
    (loading docs symbols).symbols = symbols := by
  simp [Routine.symbols, loading, List.filterMap_append, List.filterMap_map]

def Statement.routine : Statement → Option Routine
  | .load docs symbols => some (loading docs symbols)
  | _ => none

theorem spell_of_routine {s : Statement} {r : Routine} (defines : s.routine = some r) :
    r.spell = s.spell := by
  cases s with
  | load docs symbols =>
    obtain rfl := Option.some.inj defines
    exact spell_loading docs symbols
  | _ => simp [Statement.routine] at defines

/-! ### Looking names up -/

/-- What a name stands for: a word of the language, a parameter or variable of the function around
it, what a statement of the module binds, or nothing that the module knows. -/
inductive Meaning where
  | word
  | inner
  | bound (s : Statement)
  | unknown

/-- The meaning of a name inside a function with the given names of its own, after some statements
of the module have run. -/
def meaning (locals : List String) (run : List Statement) (name : String) : Meaning :=
  if name ∈ words then .word
  else if name ∈ locals then .inner
  else match run.reverse.find? fun s => name ∈ s.binds with
    | some s => .bound s
    | none => .unknown

theorem meaning_of_hidden {locals : List String} {run : List Statement} {name : String}
    (noWord : name ∉ words) (hidden : name ∈ locals) : meaning locals run name = .inner := by
  rw [meaning, if_neg noWord, if_pos hidden]

theorem exists_meaning {kind : Statement → Prop} {locals : List String} {run : List Statement}
    {name : String} (noWord : name ∉ words) (unhidden : name ∉ locals)
    (bound : ∃ s ∈ run, name ∈ s.binds) (only : ∀ s ∈ run, name ∈ s.binds → kind s) :
    ∃ s, kind s ∧ meaning locals run name = .bound s := by
  rw [meaning, if_neg noWord, if_neg unhidden]
  cases found : run.reverse.find? fun s => name ∈ s.binds with
  | none =>
    obtain ⟨s, member, binds⟩ := bound
    have free := List.find?_eq_none.mp found s (List.mem_reverse.mpr member)
    simp [binds] at free
  | some s =>
    have binds : name ∈ s.binds := by simpa using List.find?_some found
    exact ⟨s, only s (List.mem_reverse.mp (List.mem_of_find?_eq_some found)) binds, rfl⟩

/-- Whether a name stands for the class that is opened under it. -/
def StandsForClass (locals : List String) (run : List Statement) (name : String) : Prop :=
  ∃ docs, meaning locals run name = .bound (.opened name docs)

/-! ### The statements of a description -/

section Assembly

variable {options : Options} {items : Items}

def front (items : Items) : List Statement :=
  supportStatements ++ items.abstractStructs.map (fun s => .opened s.name (abstractDocs s)) ++
    items.structs.map fun s => .opened s.name (structDocs s)

theorem opened_of_class {name : String} (listed : name ∈ classNames items) :
    ∃ s ∈ front items, name ∈ s.binds := by
  rcases List.mem_append.mp listed with abstract | struct
  · obtain ⟨s, member, rfl⟩ := List.mem_map.mp abstract
    exact ⟨.opened s.name (abstractDocs s), List.mem_append_left _ (List.mem_append_right _
      (List.mem_map.mpr ⟨s, member, rfl⟩)), List.mem_cons_self⟩
  · obtain ⟨s, member, rfl⟩ := List.mem_map.mp struct
    exact ⟨.opened s.name (structDocs s), List.mem_append_right _
      (List.mem_map.mpr ⟨s, member, rfl⟩), List.mem_cons_self⟩

theorem front_cases {s : Statement} (member : s ∈ front items) :
    s ∈ supportStatements ∨ ∃ name ∈ classNames items, ∃ docs, s = .opened name docs := by
  rcases List.mem_append.mp member with first | struct
  · rcases List.mem_append.mp first with support | abstract
    · exact .inl support
    · obtain ⟨a, declared, rfl⟩ := List.mem_map.mp abstract
      exact .inr ⟨a.name, List.mem_append_left _ (List.mem_map_of_mem declared), _, rfl⟩
  · obtain ⟨a, declared, rfl⟩ := List.mem_map.mp struct
    exact .inr ⟨a.name, List.mem_append_right _ (List.mem_map_of_mem declared), _, rfl⟩

def loadStatement (options : Options) (items : Items) : Statement :=
  .load (loadDocs options items.functions) (items.functions.map (symbolOf options))

theorem statements_eq : statements options items =
    front items ++ items.structs.map (fun s => .layout s.name (typedNames s)) ++
      [loadStatement options items] := rfl

theorem front_subset : front items ⊆ statements options items := fun _ member =>
  List.mem_append_left _ (List.mem_append_left _ member)

theorem loadStatement_mem : loadStatement options items ∈ statements options items :=
  List.mem_append_right _ List.mem_cons_self

theorem statements_cases {s : Statement} (member : s ∈ statements options items) :
    s ∈ front items ∨ (∃ name fields, s = .layout name fields) ∨
      s = loadStatement options items := by
  rcases List.mem_append.mp member with first | last
  · rcases List.mem_append.mp first with front | layout
    · exact .inl front
    · obtain ⟨t, -, rfl⟩ := List.mem_map.mp layout
      exact .inr (.inl ⟨_, _, rfl⟩)
  · exact .inr (.inr (List.mem_singleton.mp last))

theorem binding_cases {s : Statement} (member : s ∈ statements options items) {name : String}
    (binds : name ∈ s.binds) :
    s ∈ supportStatements ∨ (name ∈ classNames items ∧ ∃ docs, s = .opened name docs) ∨
      name = "load" := by
  rcases statements_cases member with first | ⟨target, fields, rfl⟩ | rfl
  · rcases front_cases first with support | ⟨own, listed, docs, rfl⟩
    · exact .inl support
    · obtain rfl := List.mem_singleton.mp binds
      exact .inr (.inl ⟨listed, docs, rfl⟩)
  · simp [Statement.binds] at binds
  · exact .inr (.inr (List.mem_singleton.mp binds))

theorem binds_cases {s : Statement} (member : s ∈ statements options items) {name : String}
    (binds : name ∈ s.binds) :
    name ∈ fixedNames ∨ (name ∈ classNames items ∧ ∃ docs, s = .opened name docs) := by
  rcases binding_cases member binds with support | opened | rfl
  · exact .inl (mem_fixedNames_of_support support binds)
  · exact .inr opened
  · exact .inl (by decide)

variable (free : ∀ name ∈ classNames items, name ∉ reserved)

include free

theorem standsForClass {name : String} (listed : name ∈ classNames items) (noWord : name ∉ words)
    {locals : List String} (unhidden : name ∉ locals) {run : List Statement}
    (whole : front items ⊆ run) (within : run ⊆ statements options items) :
    StandsForClass locals run name := by
  have only : ∀ s ∈ run, name ∈ s.binds → ∃ docs, s = .opened name docs := by
    intro s stored binds
    rcases binds_cases (within stored) binds with support | ⟨-, opened⟩
    · exact absurd (fixedNames_reserved name support) (free name listed)
    · exact opened
  obtain ⟨s, member, binds⟩ := opened_of_class listed
  obtain ⟨_, ⟨docs, rfl⟩, found⟩ := exists_meaning noWord unhidden ⟨s, whole member, binds⟩ only
  exact ⟨docs, found⟩

theorem mem_words_iff_of_class {name : String} (listed : name ∈ classNames items) :
    name ∈ words ↔ name = "__debug__" := by
  have kept : ∀ k ∈ keywords, k ∈ reserved := by decide
  rw [words, List.mem_append, List.mem_singleton]
  exact or_iff_right fun keyword => free name listed (kept name keyword)

theorem notMem_words_of_class (usable : "__debug__" ∉ classNames items) {name : String}
    (listed : name ∈ classNames items) : name ∉ words := by
  rw [mem_words_iff_of_class free listed]
  rintro rfl
  exact usable listed

theorem bindable_iff :
    (∀ s ∈ statements options items, ∀ name ∈ s.binds, name ∉ words) ↔
      "__debug__" ∉ classNames items := by
  constructor
  · intro bindable listed
    obtain ⟨s, member, binds⟩ := opened_of_class listed
    exact bindable s (front_subset member) _ binds (by decide)
  · intro usable s member name binds word
    rcases binds_cases member binds with support | ⟨listed, -⟩
    · exact fixedNames_noWord name support word
    · exact notMem_words_of_class free usable listed word

end Assembly

end Bindery.Loader
