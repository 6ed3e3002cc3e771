import Bindery.Proofs.Command.Jobs
import Bindery.Proofs.Targets

set_option autoImplicit false
set_option relaxedAutoImplicit false

/-!
Writing bindings. The command that writes bindings changes nothing before all of them are made:
where a target fails, it ends with that target's error and has neither made a directory nor written
a file, whatever making directories and writing files would have done.
-/

namespace Bindery.Command

def FileTree.changedBy (crate : Option String)
    (write : String → String → StateM FileTree (Except FileFault Unit))
    (make : String → StateM FileTree (Except FileFault Unit)) : FileSystem (StateM FileTree) :=
  { FileTree.fileSystem crate with write, makeDirectories := make }

def environmentOf (crate : Option String) (tree : FileTree) : Environment :=
  (StateT.run (m := Id) (surroundings (FileTree.fileSystem crate)) tree).1

/-- Whether a command line asks, over a tree, to generate with given surroundings and options the
bindings of a description. -/
structure Asks (crate : Option String) (tree : FileTree) (args : List String) (r : GenerateRequest)
    (env : Environment) (options : Options) (items : Items) : Prop where
  parsed : ∃ volume, parse args = .ok ⟨.generate r, volume⟩
  described : ∃ source, tree.read r.file = .ok source ∧ Items.parse source = .ok items
  named : ∃ stem, stemOf r = .ok stem ∧ optionsOf r stem = options
  surrounded : environmentOf crate tree = env

def failureOutcome (r : GenerateRequest) (e : GenerateError) : Outcome :=
  ⟨1, "", (⟨"cannot generate bindings for `" ++ r.file ++ "`", causesOf e⟩ : Report).render⟩

section Failing

variable {crate : Option String} {write : String → String → StateM FileTree (Except FileFault Unit)}
  {make : String → StateM FileTree (Except FileFault Unit)} {tree : FileTree}

theorem ends_readItems {path source : String} {items : Items} (read : tree.read path = .ok source)
    (parsed : Items.parse source = .ok items) :
    (readItems (FileTree.changedBy crate write make) path).Ends tree (.ok items) tree := by
  have stored : StateT.run (m := Id)
      (do
        let file ← (FileTree.changedBy crate write make).read path
        pure (file.bind StoredFile.text)) tree = (.ok source, tree) := by
    change (((tree.read path).map fun text => (⟨text.toUTF8, 0⟩ : StoredFile)).bind StoredFile.text,
      tree) = _
    rw [read, Except.map, Except.bind, text_of_toUTF8]
  refine (Job.ends_attempt stored).andThen ?_
  rw [parsed]
  exact (Job.ends_ofRun rfl).andThen (Job.ends_ofRun rfl)

theorem ends_surroundings :
    (Job.lift (surroundings (FileTree.changedBy crate write make))).Ends tree
      (.ok (environmentOf crate tree)) tree := by
  cases crate with
  | none => exact ⟨[], rfl⟩
  | some directory => exact ⟨[], rfl⟩

theorem ends_runGenerate {r : GenerateRequest} {stem source : String} {items : Items}
    {e : GenerateError} (read : tree.read r.file = .ok source)
    (parsed : Items.parse source = .ok items) (named : stemOf r = .ok stem)
    (failed : (generate (environmentOf crate tree) (optionsOf r stem) items []).2.result =
      .error e) :
    (runGenerate (FileTree.changedBy crate write make) r).Ends tree
      (.error ⟨"cannot generate bindings for `" ++ r.file ++ "`", causesOf e⟩) tree := by
  have stemmed : (Run.ofExcept (stemOf r)).result = .ok stem := by rw [Run.result_ofExcept, named]
  have reported : ((generate (environmentOf crate tree) (optionsOf r stem) items []).2.mapError
      fun e => (⟨"cannot generate bindings for `" ++ r.file ++ "`", causesOf e⟩ : Report)).result =
      .error ⟨"cannot generate bindings for `" ++ r.file ++ "`", causesOf e⟩ := by
    rw [Run.mapError, failed]
    rfl
  -- Whatever would come behind the failed piece is left out of the run.
  exact (ends_readItems read parsed).andThen ((Job.ends_ofRun stemmed).andThen
    (ends_surroundings.andThen ((Job.ends_ofRun reported).stop _)))

theorem Asks.run_failed {args : List String} {r : GenerateRequest} {env : Environment}
    {options : Options} {items : Items} {e : GenerateError}
    (asks : Asks crate tree args r env options items)
    (failed : (generate env options items []).2.result = .error e) :
    ((run (FileTree.changedBy crate write make) args).run tree).1.2 = failureOutcome r e ∧
      ((run (FileTree.changedBy crate write make) args).run tree).2 = tree := by
  obtain ⟨volume, parsed⟩ := asks.parsed
  obtain ⟨source, read, described⟩ := asks.described
  obtain ⟨stem, named, rfl⟩ := asks.named
  obtain rfl := asks.surrounded
  exact run_of_ends parsed (ends_runGenerate read described named failed)

end Failing

/-- Generating is generating for each target: it succeeds exactly if every target alone does, with
the files of all targets in the order of the targets, each made of what its own generator makes;
else it fails like the first target that fails, and a command that asked for the bindings has
changed nothing. -/
theorem generate_all_or_nothing (env : Environment) (items : Items) (cache : ManifestCache)
    {options : Options} (checked : options.check = .ok ()) :
    ByTargets (generateAlone env options items cache) options.targets
      (generate env options items cache).2.result ∧
    (∀ t own, generateAlone env options items cache t = .ok own ↔
      ∃ text, (generateMain env options items t cache).2.result = .ok text ∧
        TargetFiles options items t text own) ∧
    (∀ t e, generateAlone env options items cache t = .error e ↔
      (generateMain env options items t cache).2.result = .error e) ∧
    ∀ crate tree args r, Asks crate tree args r env options items →
      ∀ before t after e, options.targets = before ++ t :: after →
        (∀ u ∈ before, ∃ own, generateAlone env options items [] u = .ok own) →
        generateAlone env options items [] t = .error e →
        ∀ write make,
          ((run (FileTree.changedBy crate write make) args).run tree).1.2 = failureOutcome r e ∧
            ((run (FileTree.changedBy crate write make) args).run tree).2 = tree := by
  refine ⟨generate_byTargets checked, fun t => (generateAlone_main checked t).1,
    fun t => (generateAlone_main checked t).2, ?_⟩
  intro crate tree args r asks before t after e order earlier failed write make
  have first : (generate env options items []).2.result = .error e :=
    ((generate_byTargets checked).fails e).mpr ⟨before, t, after, order, earlier, failed⟩
  exact asks.run_failed first

def selfText : String :=
  "\x7b\"structs\":[\x7b\"name\":\"Self\",\"fields\":[" ++
    "\x7b\"name\":\"n\",\"ty\":\x7b\"primitive\":\"u8\"\x7d\x7d]\x7d]\x7d"

def selfItems : Items where
  structs := [{ name := "Self", fields := [{ name := "n", ty := .primitive .u8 }] }]

def selfTree : FileTree := FileTree.ofFiles [("a.json", selfText)]

def selfArgs : List String := ["generate", "a.json", "-t", "python", "-t", "rust", "-t", "c"]

def selfRequest : GenerateRequest :=
  ⟨"a.json", [.python, .rust, .c], ".", none, none, "", none, none⟩

theorem selfArgs_change_nothing :
    (∃ own, generateAlone (environmentOf none selfTree) (optionsOf selfRequest "a") selfItems []
      .python = .ok own) ∧
    ((run (FileTree.fileSystem none) selfArgs).run selfTree).1.2 =
      failureOutcome selfRequest (.reservedIdentifier "Self" .rust) ∧
    ((run (FileTree.fileSystem none) selfArgs).run selfTree).2 = selfTree := by
  have checked : (optionsOf selfRequest "a").check = .ok () := by decide +kernel
  have asks : Asks none selfTree selfArgs selfRequest (environmentOf none selfTree)
      (optionsOf selfRequest "a") selfItems := by
    have contents : selfTree.read "a.json" = .ok selfText := rfl
    have value : (Items.parse selfText).toOption = some selfItems := by decide +kernel
    have described : Items.parse selfText = .ok selfItems := by
      cases parsed : Items.parse selfText with
      | error e =>
        rw [parsed] at value
        cases value
      | ok items =>
        rw [parsed] at value
        exact congrArg _ (Option.some.inj value)
    exact ⟨⟨0, rfl⟩, ⟨selfText, contents, described⟩, ⟨"a", rfl, rfl⟩, rfl⟩
  have python : ∃ own, generateAlone (environmentOf none selfTree) (optionsOf selfRequest "a")
      selfItems [] .python = .ok own := ⟨_, rfl⟩
  have rust : generateAlone (environmentOf none selfTree) (optionsOf selfRequest "a") selfItems []
      .rust = .error (.reservedIdentifier "Self" .rust) := rfl
  have order : (optionsOf selfRequest "a").targets = [.python] ++ .rust :: [.c] := rfl
  refine ⟨python, ?_⟩
  exact (generate_all_or_nothing _ selfItems [] checked).2.2.2 none selfTree selfArgs
    selfRequest asks
    [.python] .rust [.c] _ order (by simpa using python) rust
    (FileTree.fileSystem none).write (FileTree.fileSystem none).makeDirectories

end Bindery.Command
