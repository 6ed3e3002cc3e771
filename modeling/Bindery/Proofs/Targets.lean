import Bindery.Proofs.ManifestCache
import Bindery.Proofs.Outcome

set_option autoImplicit false
set_option relaxedAutoImplicit false

/-!
Several targets at once. Whatever is kept in memory, looking for the ownership types again finds
what was found before, so each target comes to what it comes to alone. Generating for several
targets then succeeds exactly if generating for each of them does, and otherwise fails like the
first one that fails.
-/

namespace Bindery

/-- Generating for all targets is generating for each of them: it succeeds if all do, with their
files one after the other, and else fails like the first that fails. -/
structure ByTargets (alone : Target → Except GenerateError (List OutputFile))
    (targets : List Target)
    (all : Except GenerateError (List OutputFile)) : Prop where
  succeeds : (∃ files, all = .ok files) ↔ ∀ t ∈ targets, ∃ own, alone t = .ok own
  joined : ∀ files, all = .ok files →
    ∃ parts, List.Forall₂ (fun t own => alone t = .ok own) targets parts ∧ files = parts.flatten
  fails : ∀ e, all = .error e ↔
    ∃ before t after, targets = before ++ t :: after ∧ (∀ u ∈ before, ∃ own, alone u = .ok own) ∧
      alone t = .error e

/-- The files of one target around the text of its main file. -/
inductive TargetFiles (options : Options) (items : Items) :
    Target → String → List OutputFile → Prop where
  | rust {text : String} : TargetFiles options items .rust text [⟨options.stem ++ ".rs", text⟩]
  | c {text : String} {out : Items} (valid : items.validated.result = .ok out) :
    TargetFiles options items .c text
      [⟨options.stem ++ ".h", text⟩,
        ⟨options.stem ++ "_export.h", Header.implementationText options out⟩]
  | python {text : String} : TargetFiles options items .python text [⟨options.stem ++ ".py", text⟩]

def Options.only (options : Options) (t : Target) : Options := { options with targets := [t] }

def generateAlone (env : Environment) (options : Options) (items : Items) (cache : ManifestCache)
    (t : Target) : Except GenerateError (List OutputFile) :=
  (generate env (options.only t) items cache).2.result

variable {env : Environment} {options : Options} {items : Items} {cache : ManifestCache}

theorem ManifestCache.shared_again (cache : ManifestCache) (env : Environment) :
    ((cache.shared env).1.shared env).2.result = (cache.shared env).2.result ∧
      ((cache.shared env).1.shared env).1 = (cache.shared env).1 := by
  cases place : env.manifestPath? with
  | none => simp only [ManifestCache.shared, place, and_self]
  | some path =>
    cases found : cache.current? env path with
    | some manifest => simp only [ManifestCache.shared, place, found, and_self]
    | none =>
      cases read : Manifest.readAt env path with
      | error e => simp only [ManifestCache.shared, place, found, read, and_self]
      | ok now =>
        -- What has just been read has the date of its file.
        have kept : current? (cache.set path now) env path = some now.manifest := by
          cases present : env.read path with
          | error fault =>
            rw [Manifest.readAt, present] at read
            cases read
          | ok file =>
            rw [Manifest.readAt, present] at read
            simp only [current?, Named.get?_set_self, present, modified_ofFile read, if_true]
        simp only [ManifestCache.shared, place, found, read, kept]
        exact ⟨rfl, trivial⟩

namespace Generate

variable {path : Except GenerateError CratePath} {out : Items}

theorem settles_again (env : Environment) (options : Options) (cache : ManifestCache) :
    Settles env options (fun kept => kept = cache ∨ kept = (runtimePath env options cache).1)
      (runtimePath env options cache).2.result := by
  have again : (runtimePath env options (runtimePath env options cache).1).2.result =
        (runtimePath env options cache).2.result ∧
      (runtimePath env options (runtimePath env options cache).1).1 =
        (runtimePath env options cache).1 := by
    cases given : options.runtimePath with
    | some text =>
      cases parsed : CratePath.parse? text with
      | some place => simp only [runtimePath, given, parsed, and_self]
      | none => simp only [runtimePath, given, parsed, and_self]
    | none =>
      obtain ⟨same, kept⟩ := cache.shared_again env
      simp only [runtimePath, given, Run.result_bind, same, kept, and_self]
  rintro kept (rfl | rfl)
  · exact ⟨rfl, Or.inr rfl⟩
  · exact ⟨again.1, Or.inr again.2⟩

theorem check_only (checked : options.check = .ok ()) (t : Target) :
    (options.only t).check = .ok () := by
  have sound := Options.check_ok_iff.mp checked
  exact Options.check_ok_iff.mpr ⟨List.cons_ne_nil t [], sound.symbols, sound.headers⟩

theorem whenChecked_of_ok {α : Type} {next : Items → Except GenerateError α}
    (checked : options.check = .ok ()) :
    whenChecked options items next =
      (items.validated.result.mapError GenerateError.invalid).bind next := by
  rw [whenChecked, checked, Except.bind]

/-- The targets other than the one in question leave no trace in its files. -/
theorem filesAt_only (t : Target) :
    filesAt path (options.only t) out (options.only t).targets =
      (mainAt path options out t).map (filesOf options out t) := by
  have main : mainAt path (options.only t) out t = mainAt path options out t := by cases t <;> rfl
  have files : filesOf (options.only t) out t = filesOf options out t := by cases t <;> rfl
  have single : (options.only t).targets = [t] := rfl
  rw [single, filesAt, filesAt, main, files]
  cases mainAt path options out t <;> simp [Except.bind, Except.map]

theorem generate_results (env : Environment) (items : Items) (cache : ManifestCache)
    (checked : options.check = .ok ()) :
    ∃ path, (generate env options items cache).2.result =
        (items.validated.result.mapError GenerateError.invalid).bind
          (fun out => filesAt path options out options.targets) ∧
      (∀ t, generateAlone env options items cache t =
        (items.validated.result.mapError GenerateError.invalid).bind
          fun out => (mainAt path options out t).map (filesOf options out t)) ∧
      ∀ t, (generateMain env options items t cache).2.result =
        (items.validated.result.mapError GenerateError.invalid).bind
          fun out => mainAt path options out t := by
  have settles := settles_again env options cache
  refine ⟨(runtimePath env options cache).2.result, ?_, fun t => ?_, fun t => ?_⟩
  · rw [(settles.generate (Or.inl rfl)).1, whenChecked_of_ok checked]
  · have alone : Settles env (options.only t) _ _ := settles_again env (options.only t) cache
    rw [generateAlone, (alone.generate (Or.inl rfl)).1, whenChecked_of_ok (check_only checked t)]
    simp only [filesAt_only]
    rfl
  · rw [(settles.generateMain (Or.inl rfl) t).1, whenChecked_of_ok checked]

theorem filesAt_joined {ts : List Target} {files : List OutputFile}
    (made : filesAt path options out ts = .ok files) :
    ∃ parts, List.Forall₂
        (fun t own => (mainAt path options out t).map (filesOf options out t) = .ok own) ts parts ∧
      files = parts.flatten := by
  induction ts generalizing files with
  | nil =>
    cases made
    exact ⟨[], .nil, rfl⟩
  | cons t ts ih =>
    cases main : mainAt path options out t with
    | error e => simp [filesAt_cons_error ts main] at made
    | ok text =>
      rw [filesAt_cons_ok ts main] at made
      cases rest : filesAt path options out ts with
      | error e => simp [rest, Except.map] at made
      | ok later =>
        obtain ⟨parts, each, rfl⟩ := ih rest
        have joined : filesOf options out t text ++ parts.flatten = files := by
          simpa [rest, Except.map] using made
        refine ⟨filesOf options out t text :: parts, .cons ?_ each, joined.symm⟩
        rw [main, Except.map]

theorem map_ok_iff {α β ε : Type} {result : Except ε α} (f : α → β) :
    (∃ b, result.map f = .ok b) ↔ ∃ a, result = .ok a := by
  cases result <;> simp [Except.map]

theorem map_error_iff {α β ε : Type} {result : Except ε α} (f : α → β) {e : ε} :
    result.map f = .error e ↔ result = .error e := by
  cases result <;> simp [Except.map]

theorem byTargets_filesAt (ts : List Target) :
    ByTargets (fun t => (mainAt path options out t).map (filesOf options out t)) ts
      (filesAt path options out ts) where
  succeeds := by simp only [map_ok_iff, filesAt_ok_iff]
  joined _ made := filesAt_joined made
  fails e := by simp only [map_ok_iff, map_error_iff, filesAt_error_iff]

theorem byTargets_error {ts : List Target} (e : GenerateError) (targeted : ts ≠ []) :
    ByTargets (fun _ => .error e) ts (.error e) := by
  obtain ⟨t, rest, rfl⟩ := List.exists_cons_of_ne_nil targeted
  constructor
  · constructor
    · rintro ⟨files, made⟩
      cases made
    · intro each
      obtain ⟨own, made⟩ := each t (.head rest)
      cases made
  · intro files made
    cases made
  · intro other
    constructor
    · intro same
      exact ⟨[], t, rest, rfl, by simp, same⟩
    · rintro ⟨_, _, _, _, _, same⟩
      exact same

theorem targetFiles_iff (valid : items.validated.result = .ok out) {t : Target} {text : String}
    {own : List OutputFile} :
    TargetFiles options items t text own ↔ filesOf options out t text = own := by
  constructor
  · intro files
    cases files with
    | rust => rfl
    | c found =>
      obtain rfl := Except.ok.inj (valid.symm.trans found)
      rfl
    | python => rfl
  · rintro rfl
    cases t with
    | rust => exact .rust
    | c => exact .c valid
    | python => exact .python

end Generate

open Generate

theorem generate_byTargets (checked : options.check = .ok ()) :
    ByTargets (generateAlone env options items cache) options.targets
      (generate env options items cache).2.result := by
  obtain ⟨path, all, alone, -⟩ := generate_results env items cache checked
  rw [all, funext alone]
  cases items.validated.result with
  | error problems => exact byTargets_error _ (Options.check_ok_iff.mp checked).targeted
  | ok out => exact byTargets_filesAt options.targets

theorem generateAlone_main (checked : options.check = .ok ()) (t : Target) :
    (∀ own, generateAlone env options items cache t = .ok own ↔
      ∃ text, (generateMain env options items t cache).2.result = .ok text ∧
        TargetFiles options items t text own) ∧
    ∀ e, generateAlone env options items cache t = .error e ↔
      (generateMain env options items t cache).2.result = .error e := by
  obtain ⟨path, -, alone, main⟩ := generate_results env items cache checked
  rw [alone, main]
  cases valid : items.validated.result with
  | error problems => simp [Except.mapError, Except.bind]
  | ok out =>
    simp only [Except.mapError, Except.bind, map_error_iff, targetFiles_iff valid, implies_true,
      and_true]
    cases mainAt path options out t <;> simp [Except.map]

end Bindery
