import Bindery.Proofs.Command.Jobs
import Bindery.Proofs.Header.Forwarding
import Bindery.Proofs.Header.Words
import Bindery.Proofs.Wrapper.Attributes

set_option autoImplicit false
set_option relaxedAutoImplicit false

/-!
The command that lists symbols and the generator. Both formats of the list can be read back, and
every generated file uses the symbols of the list; but the command does not look at the prefix. Main
statement: what a successful run lists agrees with the generator exactly if the prefix may stand in
front of names.
-/

namespace Bindery

namespace Symbols

/-! ### Reading symbols back -/

def lines? (text : String) : Option (List String) :=
  let pieces := text.toList.splitOn '\n'
  if pieces.getLast? = some [] then some (pieces.dropLast.map String.ofList) else none

def entries? : List String → Option (List String)
  | [] => none
  | line :: rest =>
    if line = "local: *;" then some []
    else if line.toList.getLast? = some ';' then
      (entries? rest).map (String.ofList line.toList.dropLast :: ·)
    else none

def script? : List String → Option (List String)
  | [] => none
  | line :: rest => if line = "global:" then entries? rest else script? rest

def unindented (line : String) : String := String.ofList (line.toList.dropWhile (· == ' '))

def read? : SymbolFormat → String → Option (List String)
  | .list, text => lines? text
  | .versionScript, text => (lines? text).bind fun lines => script? (lines.map unindented)

theorem lines?_join {lines : List String} (unbroken : ∀ line ∈ lines, '\n' ∉ line.toList) :
    lines? (String.join (lines.map (· ++ "\n"))) = some lines := by
  have pieces : (String.join (lines.map (· ++ "\n"))).toList.splitOn '\n' =
      lines.map String.toList ++ [[]] := by
    induction lines with
    | nil => rfl
    | cons line lines ih =>
      have whole : ∀ c ∈ line.toList, (c == '\n') = false := by
        intro c member
        rw [beq_eq_false_iff_ne]
        rintro rfl
        exact unbroken line List.mem_cons_self member
      have split : (String.join ((line :: lines).map (· ++ "\n"))).toList =
          line.toList ++ '\n' :: (String.join (lines.map (· ++ "\n"))).toList := by
        simp
      rw [split, List.splitOn_eq_splitOnP, List.splitOnP_append_cons_of_forall_mem whole '\n' rfl,
        ← List.splitOn_eq_splitOnP, ih fun other member =>
        unbroken other (List.mem_cons_of_mem _ member)]
      rfl
  rw [lines?, pieces]
  simp [Function.comp_def]

theorem entries?_symbols {symbols : List String} (words : ∀ s ∈ symbols, IsContinuation s)
    (rest : List String) :
    entries? (symbols.map (· ++ ";") ++ "local: *;" :: rest) = some symbols := by
  induction symbols with
  | nil => simp [entries?]
  | cons s symbols ih =>
    have other : s ++ ";" ≠ "local: *;" := by
      intro same
      have blank : ' ' ∈ (s ++ ";").toList := by
        rw [same]
        decide
      have inside : ' ' ∈ s.toList := by simpa using blank
      exact absurd (words s List.mem_cons_self ' ' inside) (by decide)
    have later := ih fun t member => words t (List.mem_cons_of_mem s member)
    rw [List.map_cons, List.cons_append, entries?, if_neg other, later]
    simp

theorem unindented_entry {s : String} (word : IsContinuation s) :
    unindented ("    " ++ s ++ ";") = s ++ ";" := by
  have front : (s ++ ";").toList.dropWhile (· == ' ') = (s ++ ";").toList := by
    cases chars : s.toList with
    | nil => simp [chars]
    | cons c cs =>
      have noBlank : c ≠ ' ' := by
        rintro rfl
        exact absurd (word ' ' (by simp [chars])) (by decide)
      simp [chars, noBlank]
  have blanks : ("    " ++ s ++ ";").toList.dropWhile (· == ' ') =
      (s ++ ";").toList.dropWhile (· == ' ') := by
    simp [String.toList_append]
  rw [unindented, blanks, front, String.ofList_toList]

def scriptLines (symbols : List String) : List String :=
  ["\x7b", "  global:"] ++ symbols.map (fun s => "    " ++ s ++ ";") ++ ["  local: *;", "\x7d;"]

theorem render_versionScript (items : Items) (options : Options) :
    render items options .versionScript =
      String.join ((scriptLines (exported items options)).map (· ++ "\n")) := by
  have each : (exported items options).map (fun s => "    " ++ s ++ ";\n") =
      ((exported items options).map fun s => "    " ++ s ++ ";").map (· ++ "\n") := by
    rw [List.map_map]
    refine List.map_congr_left fun s _ => ?_
    simp [← String.toList_inj]
  rw [render, each, scriptLines, List.map_append, List.map_append, String.join_append,
    String.join_append]
  simp

theorem read?_render {items : Items} {options : Options}
    (words : ∀ s ∈ exported items options, IsContinuation s) (format : SymbolFormat) :
    read? format (render items options format) = some (exported items options) := by
  have unbroken : ∀ s ∈ exported items options, '\n' ∉ s.toList := fun s member newline =>
    absurd (words s member '\n' newline) (by decide)
  cases format with
  | list => exact lines?_join unbroken
  | versionScript =>
    have lines : lines? (render items options .versionScript) =
        some (scriptLines (exported items options)) := by
      rw [render_versionScript]
      refine lines?_join fun line member => ?_
      have fixed : ∀ line ∈ ["\x7b", "  global:", "  local: *;", "\x7d;"], '\n' ∉ line.toList := by
        decide
      rcases List.mem_append.mp member with front | last
      · rcases List.mem_append.mp front with first | entry
        · exact fixed line (List.mem_append_left _ first)
        · obtain ⟨s, listed, rfl⟩ := List.mem_map.mp entry
          simpa using unbroken s listed
      · exact fixed line (List.mem_append_right ["\x7b", "  global:"] last)
    have trimmed : (scriptLines (exported items options)).map unindented =
        "\x7b" :: "global:" :: ((exported items options).map (· ++ ";") ++
          "local: *;" :: ["\x7d;"]) := by
      have entries : ((exported items options).map fun s => "    " ++ s ++ ";").map unindented =
          (exported items options).map (· ++ ";") := by
        rw [List.map_map]
        exact List.map_congr_left fun s listed => unindented_entry (words s listed)
      have opening : ["\x7b", "  global:"].map unindented = ["\x7b", "global:"] := by decide
      have closing : ["  local: *;", "\x7d;"].map unindented = ["local: *;", "\x7d;"] := by decide
      rw [scriptLines, List.map_append, List.map_append, entries, opening, closing]
      rfl
    rw [read?, lines, Option.bind_some, trimmed, script?, if_neg (by decide), script?, if_pos rfl]
    exact entries?_symbols words _

end Symbols

/-! ### Symbols of the generated files -/

def Header.CDecl.symbol? : CDecl → Option String
  | .prototype _ symbol _ _ => some symbol
  | _ => none

def Loader.Statement.declared : Statement → List String
  | .load _ symbols => symbols.map Symbol.name
  | _ => []

namespace Symbols

/-- A generated file in which some symbols stand, in their order: as the symbols to link and to
export in the wrapper file, as the functions that the headers declare and define, and as the symbols
that the loader module declares. -/
inductive Carries (options : Options) (symbols : List String) : OutputFile → Prop where
  | wrapper {rt : CratePath} {items : Items}
    (linked : Wrapper.symbolsOf Wrapper.linkName? (Wrapper.parts rt options items) = symbols)
    (exported : Wrapper.symbolsOf Wrapper.exportName? (Wrapper.parts rt options items) = symbols) :
    Carries options symbols ⟨options.stem ++ ".rs", Wrapper.file rt options items⟩
  | interface {items : Items} {ts : List Ty}
    (declared : ((Header.declarations items ts).map (Header.Declaration.inC options)).filterMap
      Header.CDecl.symbol? = symbols) :
    Carries options symbols ⟨options.stem ++ ".h", Header.fileText options
      ((Header.declarations items ts).map (Header.Declaration.inC options))⟩
  | implementation {functions : List Function}
    (defined : (Header.implementation options functions).definedNames = symbols) :
    Carries options symbols
      ⟨options.stem ++ "_export.h", (Header.implementation options functions).spell options⟩
  | loader {items : Items}
    (declared : (Loader.statements options items).flatMap Loader.Statement.declared = symbols) :
    Carries options symbols
      ⟨options.stem ++ ".py", Loader.moduleText options (Loader.statements options items)⟩

theorem prototypes_declarations (options : Options) (items : Items) (ts : List Ty) :
    ((Header.declarations items ts).map (Header.Declaration.inC options)).filterMap
      Header.CDecl.symbol? = exported items options := by
  have typedefs (t : Ty) : (Header.typedefOf options.resolvedHeaderPrefix t).symbol? = none := by
    unfold Header.typedefOf
    split <;> rfl
  have silent {α : Type} (declaration : α → Header.Declaration)
      (none : ∀ a, ((declaration a).inC options).symbol? = none) (as : List α) :
      ((as.map declaration).map (Header.Declaration.inC options)).filterMap
        Header.CDecl.symbol? = [] := by
    simp [none]
  simp only [Header.declarations, List.map_append, List.filterMap_append,
    silent (fun s : AbstractStruct => .forward s.name) fun _ => rfl,
    silent (fun s : Struct => .forward s.name) fun _ => rfl,
    silent .typedef typedefs, silent .struct fun _ => rfl]
  rw [List.map_map, List.filterMap_map, List.nil_append, List.nil_append, List.nil_append]
  exact congrFun (List.filterMap_eq_map (f := fun f : Function => options.symbol f.name)) _

theorem declared_statements (options : Options) (items : Items) :
    (Loader.statements options items).flatMap Loader.Statement.declared =
      exported items options := by
  have support : Loader.supportStatements.flatMap Loader.Statement.declared = [] := rfl
  simp [Loader.statements, support, Loader.Statement.declared, Loader.symbolOf, exported,
    List.flatMap_map, Wrapper.flatMap_empty, Function.comp_def]

theorem carries_of_mainText {env : Environment} {options : Options} {items : Items}
    {cache : ManifestCache} {t : Target} {text : String}
    (made : (Generate.mainText env options items cache t).2.result = .ok text) {file : OutputFile}
    (member : file ∈ Generate.filesOf options items t text) :
    Carries options (exported items options) file := by
  cases t with
  | rust =>
    obtain rfl : file = ⟨options.stem ++ ".rs", text⟩ := by
      simpa [Generate.filesOf, Generate.ending] using member
    obtain ⟨rt, rfl⟩ := wrapper_of_mainText made
    exact .wrapper (Wrapper.linked_parts rt options items) (Wrapper.exported_parts rt options items)
  | c =>
    obtain ⟨ts, -, rfl⟩ := interfaceText_spelled made
    rw [Generate.filesOf, Header.implementationText_eq] at member
    rcases List.mem_cons.mp member with rfl | other
    · exact .interface (prototypes_declarations options items ts)
    · obtain rfl := List.mem_singleton.mp other
      exact .implementation (Header.definedNames_implementation options items.functions)
  | python =>
    obtain ⟨-, rfl⟩ := loaderText_ok_iff.mp made
    obtain rfl : file = ⟨options.stem ++ ".py", Loader.file options items⟩ := by
      simpa [Generate.filesOf, Generate.ending] using member
    rw [Loader.file_eq]
    exact .loader (declared_statements options items)

theorem carries_of_generate {env : Environment} {options : Options} {items : Items}
    {cache : ManifestCache} {files : List OutputFile}
    (made : (generate env options items cache).2.result = .ok files) {file : OutputFile}
    (member : file ∈ files) : Carries options (exported items options) file := by
  obtain ⟨-, out, valid, rendered⟩ := checked_ok_iff.mp made
  obtain ⟨t, cache, text, main, own⟩ := mainText_of_file rendered member
  have same : exported out options = exported items options := by
    rw [exported, exported, Items.functions_of_arranged valid]
  exact same ▸ carries_of_mainText main own

end Symbols

/-! ### Prefixes -/

theorem FrontsNames.of_append {a b : String} (front : FrontsNames (a ++ b)) : FrontsNames a := by
  refine ⟨fun c member => front.1 c (by simp [member]), fun c first => front.2 c ?_⟩
  rw [String.toList_append, List.head?_append, first]
  rfl

theorem Options.sound_of_frontsNames {options : Options} (front : FrontsNames options.symbolPrefix)
    (derived : options.headerPrefix = none) (targeted : options.targets ≠ []) : options.Sound := by
  obtain ⟨n, whole, plain⟩ := Header.trimUnderscores_spec options.symbolPrefix
  have resolved := Header.resolvedHeaderPrefix_of_derived derived whole plain
  refine ⟨targeted, front, ?_⟩
  rw [resolved]
  split
  case isTrue => exact ⟨by decide, Options.isPrefix_iff.mp (by decide)⟩
  case isFalse proper => exact ⟨proper, (whole ▸ front).of_append⟩

namespace Symbols

/-- What is listed for a description agrees with the generator: it accepts the prefix, the text
reads back as the symbols of the functions in declaration order, no two are the same, and every
generated file carries them. -/
structure Agrees (items : Items) (tag : String) (format : SymbolFormat) (text : String) : Prop where
  accepted : ∀ options : Options, options.symbolPrefix = tag → options.headerPrefix = none →
    options.targets ≠ [] → options.check = .ok ()
  listed : read? format text = some (items.functionNames.map (tag ++ ·))
  distinct : (items.functionNames.map (tag ++ ·)).Nodup
  generated : ∀ env (options : Options) cache files, options.symbolPrefix = tag →
    options.headerPrefix = none → (generate env options items cache).2.result = .ok files →
    ∀ file ∈ files, Carries options (items.functionNames.map (tag ++ ·)) file

theorem exported_eq (items : Items) (options : Options) :
    exported items options = items.functionNames.map (options.symbolPrefix ++ ·) := by
  rw [exported, Items.functionNames, List.map_map]
  rfl

theorem agrees_render_iff {items out : Items}
    (valid : items.validated.result = .ok out) (tag : String)
    (format : SymbolFormat) :
    Agrees items tag format (render items { symbolPrefix := tag } format) ↔ FrontsNames tag := by
  constructor
  · intro agrees
    have checked := agrees.accepted { symbolPrefix := tag } rfl rfl (by simp)
    exact (Options.check_ok_iff.mp checked).symbols
  · intro front
    refine ⟨?_, ?_, Header.nodup_map_append tag (Items.nodup_functionNames_of_arranged valid), ?_⟩
    · rintro options rfl derived targeted
      exact Options.check_ok_iff.mpr (Options.sound_of_frontsNames front derived targeted)
    · have words : ∀ s ∈ exported items { symbolPrefix := tag }, IsContinuation s := by
        intro s member
        obtain ⟨f, listed, rfl⟩ := List.mem_map.mp member
        have declared : f.name ∈ items.declaredNames := by
          have own : f.name ∈ items.functionNames := List.mem_map_of_mem listed
          simp [Items.declaredNames, own]
        exact (front.append_word
          (isWord_of_isName (Items.isName_of_declared valid declared))).continuation
      rw [read?_render words, exported_eq]
    · rintro env options cache files rfl - made file member
      exact exported_eq items options ▸ carries_of_generate made member

end Symbols

/-! ### The command -/

namespace Command

variable {crate : Option String} {tree after : FileTree} {entries : List Entry}

/-- What a request to list symbols reads and leaves: the description, and its symbols either printed
or written to a file. -/
structure Lists (tree after : FileTree) (r : SymbolsRequest) (output : String) (items : Items)
    (text : String) : Prop where
  described : ∃ source, tree.read r.file = .ok source ∧ Items.parse source = .ok items
  valid : ∃ out, items.validated.result = .ok out
  rendered : text = Symbols.render items { symbolPrefix := r.symbolTag } r.format
  left : match r.output with
    | none => output = text ∧ after = tree
    | some path => output = "" ∧ tree.write path text = .ok after

theorem runSymbols_ok {r : SymbolsRequest} {output : String}
    (done : (runSymbols (FileTree.fileSystem crate) r).over tree = (⟨entries, .ok output⟩, after)) :
    ∃ items text, Lists tree after r output items text := by
  obtain ⟨items, left, _, _, read, checking⟩ := Job.ok_of_bind done
  obtain ⟨rfl, described⟩ := readItems_ok read
  obtain ⟨_, middle, _, _, checked, writing⟩ := Job.ok_of_bind checking
  have valid : (∃ out, items.validated.result = .ok out) ∧ middle = left := by
    have passed : (items.validate.mapError invalidReport, left) = (_, middle) := checked
    obtain ⟨reported, rfl⟩ := Prod.mk.inj passed
    cases arranged : items.arranged with
    | error problems =>
      have failed := congrArg Run.result reported
      rw [Run.mapError, Items.validate, arranged] at failed
      cases failed
    | ok out => exact ⟨⟨out, arranged⟩, rfl⟩
  obtain ⟨valid, rfl⟩ := valid
  refine ⟨items, _, described, valid, rfl, ?_⟩
  cases target : r.output with
  | none =>
    rw [target] at writing
    cases writing
    exact ⟨rfl, rfl⟩
  | some path =>
    rw [target] at writing
    obtain ⟨_, last, _, _, written, final⟩ := Job.ok_of_bind writing
    cases final
    obtain ⟨_, _, _, _, attempted, noted⟩ := Job.ok_of_bind written
    cases noted
    refine ⟨rfl, ?_⟩
    have changed : FileTree.change (fun files => files.write path _) middle = (.ok _, after) :=
      Job.ok_of_attempt attempted
    unfold FileTree.change at changed
    split at changed
    case h_1 made written => exact written.trans (congrArg Except.ok (Prod.mk.inj changed).2)
    case h_2 => cases changed

/-- What a successful run lists agrees with the generator exactly if the prefix may stand in front
of names: the command leaves it unchecked. -/
theorem listed_symbols_agree_iff {args : List String} {r : SymbolsRequest} {volume : Int}
    (asked : parse args = .ok ⟨.symbols r, volume⟩)
    (succeeds : ((run (FileTree.fileSystem crate) args).run tree).1.2.code = 0) :
    ∃ items text,
      Lists tree ((run (FileTree.fileSystem crate) args).run tree).2 r
        ((run (FileTree.fileSystem crate) args).run tree).1.2.output items text ∧
      (Symbols.Agrees items r.symbolTag r.format text ↔ FrontsNames r.symbolTag) := by
  have ended : (run (FileTree.fileSystem crate) args).run tree =
      ((((runSymbols (FileTree.fileSystem crate) r).over tree).1.entries.filter
          fun e => (shownLevels volume).contains e.level,
        outcomeOf ((runSymbols (FileTree.fileSystem crate) r).over tree).1),
        ((runSymbols (FileTree.fileSystem crate) r).over tree).2) := by
    rw [run, asked]
    rfl
  rcases pair : (runSymbols (FileTree.fileSystem crate) r).over tree with ⟨⟨entries, result⟩, after⟩
  rw [ended, pair] at succeeds ⊢
  cases result with
  | error report => simp [outcomeOf] at succeeds
  | ok output =>
    obtain ⟨items, text, lists⟩ := runSymbols_ok pair
    obtain ⟨out, valid⟩ := lists.valid
    have agrees := Symbols.agrees_render_iff valid r.symbolTag r.format
    rw [← lists.rendered] at agrees
    exact ⟨items, text, lists, agrees⟩

def oneFunction : String := "\x7b\"functions\":[\x7b\"name\":\"f\"\x7d]\x7d"

theorem digit_prefix_listed :
    ((run (FileTree.fileSystem none) ["symbols", "a.json", "-p", "1bad-"]).run
      (FileTree.ofFiles [("a.json", oneFunction)])).1.2 = ⟨0, "1bad-f\n", ""⟩ ∧
    ∀ options : Options, options.symbolPrefix = "1bad-" → options.check ≠ .ok () := by
  refine ⟨by decide +kernel, fun options same passed => ?_⟩
  have front := (Options.check_ok_iff.mp passed).symbols
  rw [same, ← Options.isPrefix_iff] at front
  exact absurd front (by decide)

def scriptArgs : List String := ["symbols", "a.json", "-p", "kv_", "-f", "gnu-version-script"]

/-- Three functions, declared in another order than that of their names. -/
def storeItems : Items where
  functions := [{ name := "put" }, { name := "get" }, { name := "len" }]

def storeSource : String :=
  "\x7b\"functions\":[\x7b\"name\":\"put\"\x7d,\n" ++
    "\x7b\"name\":\"get\"\x7d,\n\x7b\"name\":\"len\"\x7d]\x7d\n"

def scriptText : String :=
  "\x7b\n  global:\n    kv_put;\n    kv_get;\n    kv_len;\n  local: *;\n\x7d;\n"

theorem word_prefix_agrees :
    ((run (FileTree.fileSystem none) scriptArgs).run
      (FileTree.ofFiles [("a.json", storeSource)])).1.2 = ⟨0, scriptText, ""⟩ ∧
    Symbols.Agrees storeItems "kv_" .versionScript scriptText := by
  have asked : parse scriptArgs = .ok ⟨.symbols ⟨"a.json", .versionScript, "kv_", none⟩, 0⟩ := rfl
  have ended : ((run (FileTree.fileSystem none) scriptArgs).run
      (FileTree.ofFiles [("a.json", storeSource)])).1.2 = ⟨0, scriptText, ""⟩ := by decide +kernel
  have succeeds : ((run (FileTree.fileSystem none) scriptArgs).run
      (FileTree.ofFiles [("a.json", storeSource)])).1.2.code = 0 := by rw [ended]
  obtain ⟨items, text, lists, agrees⟩ := listed_symbols_agree_iff asked succeeds
  have printed : scriptText = text := by rw [← lists.left.1, ended]
  have described : items = storeItems := by
    obtain ⟨source, stored, parsed⟩ := lists.described
    have contents : FileTree.read (FileTree.ofFiles [("a.json", storeSource)]) "a.json" =
      .ok storeSource := rfl
    obtain rfl : storeSource = source := Except.ok.inj (contents.symm.trans stored)
    have value : (Items.parse storeSource).toOption = some storeItems := by decide +kernel
    rw [parsed] at value
    exact Option.some.inj value
  rw [printed, ← described]
  exact ⟨printed ▸ ended, agrees.mpr (Options.isPrefix_iff.mp (by decide))⟩

end Command

end Bindery
