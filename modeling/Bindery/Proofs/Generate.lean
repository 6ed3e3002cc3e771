import Bindery.Generate
import Bindery.Proofs.Header.Typedefs
import Bindery.Proofs.Loader.Syntax

set_option autoImplicit false
set_option relaxedAutoImplicit false

/-!
When a target's main file is made, and what it is then: the options pass their check, the
description is valid, and the file is spelled from the description in layout order. All targets
together come to what they come to one by one, once it is settled where the ownership types are
found.
-/

namespace Bindery

variable {env : Environment} {options : Options} {items : Items} {cache : ManifestCache}
  {text : String}

theorem checked_ok_iff {α : Type} {next : Items → ManifestCache × Run GenerateError α} {a : α} :
    (Generate.checked options items cache next).2.result = .ok a ↔
      options.check = .ok () ∧ ∃ out, items.validated.result = .ok out ∧
        (next out).2.result = .ok a := by
  rw [Generate.checked]
  rcases check : options.check with e | ⟨⟩
  · simp [Except.bind]
  · rcases valid : items.validated.result with e | out
    · simp [Except.bind, Run.mapError, Except.mapError, valid]
    · simp [Except.bind, Run.mapError, Except.mapError, valid]

theorem generateMain_ok_iff {t : Target} :
    (generateMain env options items t cache).2.result = .ok text ↔
      options.check = .ok () ∧ ∃ out, items.validated.result = .ok out ∧
        (Generate.mainText env options out cache t).2.result = .ok text :=
  checked_ok_iff

theorem result_forEach_note {ε α : Type} (level : Level) (message : α → String) (as : List α) :
    (Run.forEach (fun a => (Run.note level (message a) : Run ε Unit)) as).result =
      .ok (as.map fun _ => ()) := by
  induction as with
  | nil => rfl
  | cons a as ih => simp [Run.forEach, ih, Except.bind]

theorem loaderText_ok_iff :
    (Generate.loaderText options items).result = .ok text ↔
      Loader.checkNames (Loader.classNames items) = .ok () ∧ Loader.file options items = text := by
  rcases check : Loader.checkNames (Loader.classNames items) with e | ⟨⟩
  · simp [Generate.loaderText, check, Except.bind]
  · simp [Generate.loaderText, check, result_forEach_note, Except.bind]

theorem wrapperText_ok_iff {rt : CratePath} :
    (Generate.wrapperText options items rt).result = .ok text ↔
      Wrapper.checkNames (Wrapper.usedNames items) = .ok () ∧
        Wrapper.file rt options items = text := by
  rcases check : Wrapper.checkNames (Wrapper.usedNames items) with e | ⟨⟩
  · simp [Generate.wrapperText, check, Except.bind]
  · simp [Generate.wrapperText, check, result_forEach_note, Except.bind]

theorem mainText_rust_ok {path : String} {rt : CratePath} (given : options.runtimePath = some path)
    (parsed : CratePath.parse? path = some rt)
    (names : Wrapper.checkNames (Wrapper.usedNames items) = .ok ()) :
    (Generate.mainText env options items cache .rust).2.result =
      .ok (Wrapper.file rt options items) := by
  have rendered : (Generate.wrapperText options items rt).result =
      .ok (Wrapper.file rt options items) := wrapperText_ok_iff.mpr ⟨names, rfl⟩
  simp [Generate.mainText, Generate.runtimePath, given, parsed, Except.bind, rendered]

theorem wrapper_of_mainText
    (made : (Generate.mainText env options items cache .rust).2.result = .ok text) :
    ∃ rt, Wrapper.file rt options items = text := by
  rw [Generate.mainText, Run.result_bind] at made
  cases path : (Generate.runtimePath env options cache).2.result with
  | error e => simp [path, Except.bind] at made
  | ok rt =>
    rw [path] at made
    exact ⟨rt, (wrapperText_ok_iff.mp made).2⟩

theorem generateMain_c_ok {out : Items} {ts : List Ty} (checked : options.check = .ok ())
    (valid : items.validated.result = .ok out)
    (found : Header.typedefs options.resolvedHeaderPrefix out = .ok ts) :
    (generateMain env options items .c cache).2.result =
      .ok (Header.interfaceText options (Header.declarations out ts)) := by
  refine generateMain_ok_iff.mpr ⟨checked, out, valid, ?_⟩
  simp [Generate.mainText, Generate.interfaceText, found, Except.bind]

theorem generate_c_ok {out : Items} {ts : List Ty} (checked : options.check = .ok ())
    (valid : items.validated.result = .ok out)
    (found : Header.typedefs options.resolvedHeaderPrefix out = .ok ts)
    (only : options.targets = [.c]) :
    (generate env options items cache).2.result =
      .ok [⟨options.stem ++ ".h", Header.interfaceText options (Header.declarations out ts)⟩,
        ⟨options.stem ++ "_export.h", Header.implementationText options out⟩] := by
  refine checked_ok_iff.mpr ⟨checked, out, valid, ?_⟩
  have rendered : (Generate.mainText env options out cache .c).2.result =
      .ok (Header.interfaceText options (Header.declarations out ts)) := by
    simp [Generate.mainText, Generate.interfaceText, found, Except.bind]
  simp [only, Generate.targetFiles, rendered, Except.bind, Generate.filesOf, Generate.ending]

theorem generateMain_python_ok {out : Items} (checked : options.check = .ok ())
    (valid : items.validated.result = .ok out)
    (names : Loader.checkNames (Loader.classNames out) = .ok ()) :
    (generateMain env options items .python cache).2.result = .ok (Loader.file options out) :=
  generateMain_ok_iff.mpr ⟨checked, out, valid, loaderText_ok_iff.mpr ⟨names, rfl⟩⟩

def bareEnvironment : Environment := ⟨none, fun _ => .error .notFound⟩

theorem interfaceText_spelled
    (rendered : (Generate.interfaceText options items).result = .ok text) :
    ∃ ts, Header.typedefs options.resolvedHeaderPrefix items = .ok ts ∧
      text = Header.fileText options
        ((Header.declarations items ts).map (Header.Declaration.inC options)) := by
  obtain ⟨ts, found, rfl⟩ := Header.interfaceText_ok rendered
  refine ⟨ts, found, Header.interfaceText_eq options _ fun t listed => ?_⟩
  have member : t ∈ ts := by simpa [Header.declarations] using listed
  exact ((Header.typedefs_collected found).needs member).1

theorem generated_header (made : (generateMain env options items .c cache).2.result = .ok text) :
    ∃ out ts, items.validated.result = .ok out ∧
      Header.typedefs options.resolvedHeaderPrefix out = .ok ts ∧
      text = Header.fileText options
        ((Header.declarations out ts).map (Header.Declaration.inC options)) := by
  obtain ⟨-, out, valid, rendered⟩ := generateMain_ok_iff.mp made
  obtain ⟨ts, found, spelled⟩ := interfaceText_spelled rendered
  exact ⟨out, ts, valid, found, spelled⟩

theorem targetFiles_cons_ok {t : Target} {ts : List Target} {files : List OutputFile}
    (made : (Generate.targetFiles env options items (t :: ts) cache).2.result = .ok files) :
    ∃ text rest, (Generate.mainText env options items cache t).2.result = .ok text ∧
      (Generate.targetFiles env options items ts
        (Generate.mainText env options items cache t).1).2.result = .ok rest ∧
      files = Generate.filesOf options items t text ++ rest := by
  rw [Generate.targetFiles] at made
  cases main : (Generate.mainText env options items cache t).2.result with
  | error e => simp [main, Run.andThen, Except.bind] at made
  | ok text =>
    cases later : (Generate.targetFiles env options items ts
      (Generate.mainText env options items cache t).1).2.result with
    | error e => simp [main, later, Except.bind] at made
    | ok rest =>
      refine ⟨text, rest, rfl, rfl, ?_⟩
      simpa [main, later, Except.bind, eq_comm] using made

theorem targetFiles_parts {ts : List Target} {files : List OutputFile}
    (made : (Generate.targetFiles env options items ts cache).2.result = .ok files) :
    ∃ parts : List (Target × String), parts.map Prod.fst = ts ∧
      (∀ e ∈ parts, ∃ cache, (Generate.mainText env options items cache e.1).2.result = .ok e.2) ∧
      files = parts.flatMap fun e => Generate.filesOf options items e.1 e.2 := by
  induction ts generalizing cache files with
  | nil =>
    obtain rfl : [] = files := by simpa [Generate.targetFiles] using made
    exact ⟨[], rfl, by simp, rfl⟩
  | cons t ts ih =>
    obtain ⟨text, rest, main, later, rfl⟩ := targetFiles_cons_ok made
    obtain ⟨parts, targets, each, rfl⟩ := ih later
    exact ⟨(t, text) :: parts, by rw [List.map_cons, targets],
      List.forall_mem_cons.mpr ⟨⟨cache, main⟩, each⟩, rfl⟩

theorem mainText_of_target {ts : List Target} {files : List OutputFile}
    (made : (Generate.targetFiles env options items ts cache).2.result = .ok files) {t : Target}
    (targeted : t ∈ ts) :
    ∃ cache text, (Generate.mainText env options items cache t).2.result = .ok text ∧
      Generate.filesOf options items t text ⊆ files := by
  obtain ⟨parts, rfl, each, rfl⟩ := targetFiles_parts made
  obtain ⟨e, member, rfl⟩ := List.mem_map.mp targeted
  obtain ⟨cache, main⟩ := each e member
  exact ⟨cache, e.2, main, fun file own => List.mem_flatMap.mpr ⟨e, member, own⟩⟩

theorem mainText_of_file {ts : List Target} {files : List OutputFile}
    (made : (Generate.targetFiles env options items ts cache).2.result = .ok files)
    {file : OutputFile} (member : file ∈ files) :
    ∃ t cache text, (Generate.mainText env options items cache t).2.result = .ok text ∧
      file ∈ Generate.filesOf options items t text := by
  obtain ⟨parts, -, each, rfl⟩ := targetFiles_parts made
  obtain ⟨e, listed, own⟩ := List.mem_flatMap.mp member
  obtain ⟨cache, main⟩ := each e listed
  exact ⟨e.1, cache, e.2, main, own⟩

theorem generated_headers {files : List OutputFile}
    (made : (generate env options items cache).2.result = .ok files)
    (targeted : .c ∈ options.targets) :
    options.check = .ok () ∧ ∃ out ts, items.validated.result = .ok out ∧
      Header.typedefs options.resolvedHeaderPrefix out = .ok ts ∧
      ⟨options.stem ++ ".h", Header.fileText options
        ((Header.declarations out ts).map (Header.Declaration.inC options))⟩ ∈ files ∧
      ⟨options.stem ++ "_export.h", Header.implementationText options out⟩ ∈ files := by
  obtain ⟨checked, out, valid, rendered⟩ := checked_ok_iff.mp made
  obtain ⟨_, text, main, within⟩ := mainText_of_target rendered targeted
  obtain ⟨ts, found, rfl⟩ := interfaceText_spelled main
  exact ⟨checked, out, ts, valid, found, within (.head _), within (.tail _ (.head _))⟩

theorem generated_loader
    (made : (generateMain env options items .python cache).2.result = .ok text) :
    ∃ out, items.validated.result = .ok out ∧
      text = Loader.moduleText options (Loader.statements options out) := by
  obtain ⟨-, out, valid, rendered⟩ := generateMain_ok_iff.mp made
  obtain ⟨-, rfl⟩ := loaderText_ok_iff.mp rendered
  exact ⟨out, valid, Loader.file_eq options out⟩

namespace Generate

variable {known : ManifestCache → Prop} {path : Except GenerateError CratePath}

def mainAt (path : Except GenerateError CratePath) (options : Options) (items : Items) :
    Target → Except GenerateError String
  | .rust => path.bind fun rt => (wrapperText options items rt).result
  | .c => (interfaceText options items).result
  | .python => (loaderText options items).result

def filesAt (path : Except GenerateError CratePath) (options : Options) (items : Items) :
    List Target → Except GenerateError (List OutputFile)
  | [] => .ok []
  | t :: ts =>
    (mainAt path options items t).bind fun text =>
      (filesAt path options items ts).map (filesOf options items t text ++ ·)

def whenChecked {α : Type} (options : Options) (items : Items)
    (next : Items → Except GenerateError α) : Except GenerateError α :=
  options.check.bind fun _ => (items.validated.result.mapError GenerateError.invalid).bind next

/-- Whether looking for the ownership types with any cache of a kind comes to one result and leaves
a cache of that kind. -/
def Settles (env : Environment) (options : Options) (known : ManifestCache → Prop)
    (path : Except GenerateError CratePath) : Prop :=
  ∀ cache, known cache →
    (runtimePath env options cache).2.result = path ∧ known (runtimePath env options cache).1

theorem Settles.mainText (settles : Settles env options known path) (knows : known cache)
    (t : Target) :
    (Generate.mainText env options items cache t).2.result = mainAt path options items t ∧
      known (Generate.mainText env options items cache t).1 := by
  cases t with
  | rust =>
    obtain ⟨found, kept⟩ := settles cache knows
    refine ⟨?_, kept⟩
    simp only [Generate.mainText, Run.result_bind, found, mainAt]
  | c => exact ⟨rfl, knows⟩
  | python => exact ⟨rfl, knows⟩

theorem Settles.targetFiles (settles : Settles env options known path) (knows : known cache)
    (ts : List Target) :
    (Generate.targetFiles env options items ts cache).2.result = filesAt path options items ts ∧
      known (Generate.targetFiles env options items ts cache).1 := by
  induction ts generalizing cache with
  | nil => exact ⟨rfl, knows⟩
  | cons t ts ih =>
    obtain ⟨made, kept⟩ : _ = mainAt path options items t ∧ _ := settles.mainText knows t
    simp only [Generate.targetFiles, filesAt, ← made]
    cases main : (Generate.mainText env options items cache t).2.result with
    | error e =>
      refine ⟨?_, kept⟩
      simp [Run.andThen, main, Except.bind]
    | ok text =>
      obtain ⟨rest, still⟩ := ih kept
      refine ⟨?_, still⟩
      simp [main, rest, Except.bind, Except.map]

theorem checked_result {α : Type} {next : Items → ManifestCache × Run GenerateError α}
    {result : Items → Except GenerateError α}
    (goesOn : ∀ out, (next out).2.result = result out ∧ known (next out).1) (knows : known cache) :
    (checked options items cache next).2.result = whenChecked options items result ∧
      known (checked options items cache next).1 := by
  unfold checked whenChecked
  cases check : options.check with
  | error e =>
    constructor
    · simp [Except.bind]
    · simpa [Except.bind] using knows
  | ok _ =>
    cases valid : items.validated.result with
    | error problems =>
      constructor
      · simp [Except.bind, Run.mapError, Except.mapError, valid]
      · simpa [Except.bind, Run.mapError, Except.mapError, valid] using knows
    | ok out =>
      obtain ⟨made, kept⟩ := goesOn out
      constructor
      · simp [Except.bind, Run.mapError, Except.mapError, valid, made]
      · simpa [Except.bind, Run.mapError, Except.mapError, valid] using kept

theorem Settles.generate (settles : Settles env options known path) (knows : known cache) :
    (Bindery.generate env options items cache).2.result =
        whenChecked options items (fun out => filesAt path options out options.targets) ∧
      known (Bindery.generate env options items cache).1 :=
  checked_result (fun _ => settles.targetFiles knows options.targets) knows

theorem Settles.generateMain (settles : Settles env options known path) (knows : known cache)
    (t : Target) :
    (Bindery.generateMain env options items t cache).2.result =
        whenChecked options items (fun out => mainAt path options out t) ∧
      known (Bindery.generateMain env options items t cache).1 :=
  checked_result (fun _ => settles.mainText knows t) knows

end Generate

end Bindery
