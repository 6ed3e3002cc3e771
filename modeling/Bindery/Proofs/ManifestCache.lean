import Bindery.CrateSession
import Bindery.Proofs.Generate

set_option autoImplicit false
set_option relaxedAutoImplicit false

/-!
The cache of manifests cannot be noticed. Every manifest it keeps is what one of the files written
so far holds, dated like that file. If files of one date have one text, then a kept manifest with
the date of the present file is that file's own, so a session replies as if it read the file each
time.
-/

namespace Bindery

def Environment.manifest (env : Environment) : Except GenerateError (Option Manifest) :=
  match env.manifestPath? with
  | none => .ok none
  | some path => (Manifest.readAt env path).map fun dated => some dated.manifest

/-- Where the wrapper file finds the ownership types when nothing is kept in memory. -/
def Environment.runtimePath (env : Environment) (options : Options) :
    Except GenerateError CratePath :=
  match options.runtimePath with
  | some text =>
    match CratePath.parse? text with
    | some path => .ok path
    | none => .error (.invalidPath text)
  | none =>
    env.manifest.map fun found =>
      (found.map Manifest.runtimePath).getD (Manifest.defaultPath Manifest.runtimeCrate)

namespace ManifestCache

/-- Whether every kept manifest comes from one of the files. -/
def FilledFrom (written : List StoredFile) (cache : ManifestCache) : Prop :=
  ∀ path kept, cache.get? path = some kept →
    ∃ file ∈ written, Manifest.ofFile path file = .ok kept

/-- Whether files of one date have one text. -/
def Dated (written : List StoredFile) : Prop :=
  ∀ first ∈ written, ∀ second ∈ written,
    first.modified = second.modified → first.contents = second.contents

def Shows (written : List StoredFile) (env : Environment) : Prop :=
  ∀ path file, env.read path = .ok file → file ∈ written

variable {written : List StoredFile} {cache : ManifestCache} {env : Environment}

theorem modified_ofFile {path : String} {file : StoredFile} {dated : DatedManifest}
    (read : Manifest.ofFile path file = .ok dated) : dated.modified = file.modified := by
  unfold Manifest.ofFile at read
  split at read
  · cases read
  · split at read
    · cases read
    · cases read
      rfl

/-- A kept manifest that passes for the present one is the present one. -/
theorem FilledFrom.current (filled : FilledFrom written cache) (dated : Dated written)
    (shows : Shows written env) {path : String} {manifest : Manifest}
    (found : cache.current? env path = some manifest) :
    ∃ now, Manifest.readAt env path = .ok now ∧ now.manifest = manifest := by
  unfold current? at found
  split at found
  · rename_i kept file keeps present
    split at found
    · rename_i same
      cases found
      obtain ⟨source, listed, held⟩ := filled path kept keeps
      have sameTime : source.modified = file.modified := (modified_ofFile held).symm.trans same
      have sameText := dated source listed file (shows path file present) sameTime
      have sameFile : source = file := by
        cases source
        cases file
        simp_all
      refine ⟨kept, ?_, rfl⟩
      rw [Manifest.readAt, present, ← sameFile]
      exact held
    · cases found
  · cases found

theorem FilledFrom.set (filled : FilledFrom written cache)
    (shows : Shows written env) {path : String}
    {now : DatedManifest} (read : Manifest.readAt env path = .ok now) :
    FilledFrom written (Named.set path now cache) := by
  intro other kept keeps
  by_cases same : path = other
  · subst same
    rw [Named.get?_set_self] at keeps
    cases keeps
    unfold Manifest.readAt at read
    split at read
    · cases read
    · rename_i file present
      exact ⟨file, shows path file present, read⟩
  · rw [Named.get?_set_of_ne _ _ same] at keeps
    exact filled other kept keeps

/-- Looking at the shared manifest is reading it, and keeps the cache filled from the files. -/
theorem FilledFrom.shared (filled : FilledFrom written cache) (dated : Dated written)
    (shows : Shows written env) :
    (cache.shared env).2.result = env.manifest ∧ FilledFrom written (cache.shared env).1 := by
  cases place : env.manifestPath? with
  | none =>
    simp only [ManifestCache.shared, Environment.manifest, place]
    exact ⟨rfl, filled⟩
  | some path =>
    cases found : cache.current? env path with
    | some manifest =>
      obtain ⟨now, read, rfl⟩ := filled.current dated shows found
      simp only [ManifestCache.shared, Environment.manifest, place, found, read]
      exact ⟨rfl, filled⟩
    | none =>
      cases read : Manifest.readAt env path with
      | error e =>
        simp only [ManifestCache.shared, Environment.manifest, place, found, read]
        exact ⟨rfl, filled⟩
      | ok now =>
        simp only [ManifestCache.shared, Environment.manifest, place, found, read]
        exact ⟨rfl, filled.set shows read⟩

theorem settles_runtimePath (dated : Dated written) (shows : Shows written env)
    (options : Options) :
    Generate.Settles env options (FilledFrom written) (env.runtimePath options) := by
  intro cache filled
  cases given : options.runtimePath with
  | some text =>
    cases parsed : CratePath.parse? text with
    | some path =>
      simp only [Generate.runtimePath, Environment.runtimePath, given, parsed]
      exact ⟨rfl, filled⟩
    | none =>
      simp only [Generate.runtimePath, Environment.runtimePath, given, parsed]
      exact ⟨rfl, filled⟩
  | none =>
    obtain ⟨found, kept⟩ := filled.shared dated shows
    simp only [Generate.runtimePath, Environment.runtimePath, given, Run.result_bind, found]
    refine ⟨?_, kept⟩
    rcases env.manifest with e | none | manifest <;> rfl

end ManifestCache

namespace CrateSession

/-- What a step replies when the manifest is read from its file each time. -/
def answer (s : CrateSession) : Step → Reply
  | .write _ => .done
  | .remove => .done
  | .enter => .done
  | .leave => .done
  | .shared => .path (s.environment.manifest.map fun m => m.map Manifest.runtimePath)
  | .read =>
    .path ((Manifest.readAt s.environment s.manifestPath).map
      fun dated => some dated.manifest.runtimePath)
  | .generate options items =>
    .files (Generate.whenChecked options items fun out =>
      Generate.filesAt (s.environment.runtimePath options) options out options.targets)
  | .generateMain options items t =>
    .text (Generate.whenChecked options items fun out =>
      Generate.mainAt (s.environment.runtimePath options) options out t)

/-- What a step does to the file and to where the build runs. Looking does nothing to them. -/
def proceed (s : CrateSession) : Step → CrateSession
  | .write file => { s with file := some file }
  | .remove => { s with file := none }
  | .enter => { s with entered := true }
  | .leave => { s with entered := false }
  | _ => s

def run (s : CrateSession) (steps : List Step) : CrateSession :=
  steps.foldl (fun s st => (s.step st).1) s

def replies (s : CrateSession) : List Step → List Reply
  | [] => []
  | st :: rest => (s.step st).2.2 :: replies (s.step st).1 rest

def answers (s : CrateSession) : List Step → List Reply
  | [] => []
  | st :: rest => s.answer st :: answers (s.proceed st) rest

def Step.written : Step → Option StoredFile
  | .write file => some file
  | _ => none

def writes (steps : List Step) : List StoredFile := steps.filterMap Step.written

def Step.looks : Step → Bool
  | .write _ => false
  | .remove => false
  | .enter => false
  | .leave => false
  | _ => true

variable {written : List StoredFile} {s : CrateSession}

/-- What every step keeps when all writes are among `written`. -/
structure Sound (written : List StoredFile) (s : CrateSession) : Prop where
  file : ∀ file ∈ s.file, file ∈ written
  cache : ManifestCache.FilledFrom written s.cache

/-- Whether two sessions differ at most in what they keep in memory. -/
def Alike (s t : CrateSession) : Prop :=
  s.directory = t.directory ∧ s.file = t.file ∧ s.entered = t.entered

theorem Alike.answer {t : CrateSession} (alike : s.Alike t) (st : Step) :
    s.answer st = t.answer st := by
  obtain ⟨directory, file, entered, cache⟩ := s
  obtain ⟨directory', file', entered', cache'⟩ := t
  obtain ⟨rfl, rfl, rfl⟩ := alike
  cases st <;> rfl

theorem Alike.proceed {t : CrateSession} (alike : s.Alike t) (st : Step) :
    (s.proceed st).Alike (t.proceed st) := by
  obtain ⟨sameDirectory, sameFile, samePlace⟩ := alike
  cases st with
  | write file => exact ⟨sameDirectory, rfl, samePlace⟩
  | remove => exact ⟨sameDirectory, rfl, samePlace⟩
  | enter => exact ⟨sameDirectory, sameFile, rfl⟩
  | leave => exact ⟨sameDirectory, sameFile, rfl⟩
  | _ => exact ⟨sameDirectory, sameFile, samePlace⟩

theorem Sound.shows (sound : s.Sound written) : ManifestCache.Shows written s.environment := by
  intro path file present
  simp only [environment] at present
  split at present
  · split at present
    · rename_i held
      cases present
      exact sound.file file held
    · cases present
  · cases present

theorem writes_cons_subset {st : Step} {rest : List Step} :
    writes (st :: rest) ⊆ written ↔
      (∀ file ∈ st.written, file ∈ written) ∧ writes rest ⊆ written := by
  rcases wrote : st.written with _ | file
  · simp [writes, wrote]
  · simp [writes, wrote]

theorem writes_append (before after : List Step) :
    writes (before ++ after) = writes before ++ writes after :=
  List.filterMap_append

theorem step_alike (s : CrateSession) (st : Step) : (s.step st).1.Alike (s.proceed st) := by
  cases st <;> exact ⟨rfl, rfl, rfl⟩

theorem Sound.step (sound : s.Sound written) (dated : ManifestCache.Dated written) {st : Step}
    (listed : ∀ file ∈ st.written, file ∈ written) :
    (s.step st).2.2 = s.answer st ∧ (s.step st).1.Sound written := by
  have shows := sound.shows
  cases st with
  | write file =>
    refine ⟨rfl, ?_, sound.cache⟩
    intro other held
    cases held
    exact listed file rfl
  | remove =>
    refine ⟨rfl, ?_, sound.cache⟩
    intro other held
    cases held
  | enter => exact ⟨rfl, sound.file, sound.cache⟩
  | leave => exact ⟨rfl, sound.file, sound.cache⟩
  | shared =>
    obtain ⟨found, kept⟩ := sound.cache.shared dated shows
    exact ⟨by simp only [CrateSession.step, answer, found], sound.file, kept⟩
  | read => exact ⟨rfl, sound⟩
  | generate options items =>
    have settles := ManifestCache.settles_runtimePath dated shows options
    obtain ⟨made, kept⟩ : _ = Generate.whenChecked options items _ ∧ _ :=
      settles.generate sound.cache
    exact ⟨by simp only [CrateSession.step, answer, made], sound.file, kept⟩
  | generateMain options items t =>
    have settles := ManifestCache.settles_runtimePath dated shows options
    obtain ⟨made, kept⟩ : _ = Generate.whenChecked options items _ ∧ _ :=
      settles.generateMain sound.cache t
    exact ⟨by simp only [CrateSession.step, answer, made], sound.file, kept⟩

theorem Sound.replies (sound : s.Sound written) (dated : ManifestCache.Dated written)
    {t : CrateSession} (alike : s.Alike t) {steps : List Step} (listed : writes steps ⊆ written) :
    s.replies steps = t.answers steps := by
  induction steps generalizing s t with
  | nil => rfl
  | cons st rest ih =>
    obtain ⟨here, later⟩ := writes_cons_subset.mp listed
    obtain ⟨replied, still⟩ := sound.step dated here
    have onward : (s.step st).1.Alike (t.proceed st) := by
      obtain ⟨sameDirectory, sameFile, samePlace⟩ := s.step_alike st
      obtain ⟨nextDirectory, nextFile, nextPlace⟩ := alike.proceed st
      exact ⟨sameDirectory.trans nextDirectory, sameFile.trans nextFile,
        samePlace.trans nextPlace⟩
    simp only [CrateSession.replies, answers, replied, alike.answer st, ih still onward later]

theorem Sound.run (sound : s.Sound written) (dated : ManifestCache.Dated written)
    {steps : List Step} (listed : writes steps ⊆ written) : (s.run steps).Sound written := by
  induction steps generalizing s with
  | nil => exact sound
  | cons st rest ih =>
    obtain ⟨here, later⟩ := writes_cons_subset.mp listed
    exact ih (sound.step dated here).2 later

theorem environment_manifestPath? (s : CrateSession) :
    s.environment.manifestPath? = if s.entered then some s.manifestPath else none := by
  rcases entered : s.entered <;>
    simp [Environment.manifestPath?, environment, entered, manifestPath]

theorem environment_manifest (s : CrateSession) :
    s.environment.manifest =
      if s.entered then
        (Manifest.readAt s.environment s.manifestPath).map fun now => some now.manifest
      else .ok none := by
  unfold Environment.manifest
  rw [environment_manifestPath?]
  rcases s.entered <;> rfl

theorem Sound.runtimePath (sound : s.Sound written) (dated : ManifestCache.Dated written)
    {options : Options} (unset : options.runtimePath = none) :
    (Generate.runtimePath s.environment options s.cache).2.result =
      if s.entered then
        (Manifest.readAt s.environment s.manifestPath).map fun now => now.manifest.runtimePath
      else .ok (Manifest.defaultPath Manifest.runtimeCrate) := by
  rw [(ManifestCache.settles_runtimePath dated sound.shows options s.cache sound.cache).1]
  simp only [Environment.runtimePath, unset, environment_manifest]
  rcases s.entered
  · rfl
  · rcases Manifest.readAt s.environment s.manifestPath with e | now <;> rfl

/-- If writes of one date write one text, then a session replies throughout as one that reads the
manifest from its file at each step. At every moment the shared manifest is the one a reader finds,
or none outside of a build, the generator finds the ownership types where that manifest has them,
and whatever looking comes to, a failure included, all later replies are as if nobody had looked. -/
theorem cache_unnoticed (directory : String) (steps : List Step)
    (dated : ManifestCache.Dated (writes steps)) :
    replies { directory } steps = answers { directory } steps ∧
      ∀ before st after, steps = before ++ st :: after →
        let s := run { directory } before
        (s.entered = true → (s.step .shared).2.2 = (s.step .read).2.2) ∧
          (s.entered = false → (s.step .shared).2.2 = .path (.ok none)) ∧
          (∀ options, options.runtimePath = none →
            (Generate.runtimePath s.environment options s.cache).2.result =
              if s.entered then
                (Manifest.readAt s.environment s.manifestPath).map
                  fun now => now.manifest.runtimePath
              else .ok (Manifest.defaultPath Manifest.runtimeCrate)) ∧
          (st.looks = true → replies (s.step st).1 after = replies s after) := by
  have start : Sound (writes steps) { directory } := by
    refine ⟨?_, ?_⟩
    · intro file held
      cases held
    · intro path kept keeps
      cases keeps
  refine ⟨start.replies dated ⟨rfl, rfl, rfl⟩ (List.Subset.refl _), ?_⟩
  intro before st after split s
  rw [split, writes_append] at dated start
  have sound : s.Sound (writes before ++ writes (st :: after)) :=
    start.run dated (List.subset_append_left _ _)
  obtain ⟨here, later⟩ := writes_cons_subset.mp (List.subset_append_right (writes before)
    (writes (st :: after)))
  have shared : (s.step .shared).2.2 = s.answer .shared :=
    (sound.step dated (by intro file wrote; cases wrote)).1
  refine ⟨?_, ?_, ?_, ?_⟩
  · intro entered
    rw [shared]
    simp only [answer, CrateSession.step, environment_manifest, entered]
    rcases Manifest.readAt s.environment s.manifestPath with e | now <;> rfl
  · intro outside
    rw [shared]
    simp only [answer, environment_manifest, outside]
    rfl
  · intro options unset
    exact sound.runtimePath dated unset
  · intro looks
    have unmoved : s.proceed st = s := by
      cases st with
      | write file => cases looks
      | remove => cases looks
      | enter => cases looks
      | leave => cases looks
      | _ => rfl
    have alike : (s.step st).1.Alike s := by
      have proceeded := s.step_alike st
      rwa [unmoved] at proceeded
    rw [(sound.step dated here).2.replies dated alike later,
      sound.replies dated ⟨rfl, rfl, rfl⟩ later]

def restored : List Step :=
  [.enter, .write ⟨⟨#[]⟩, 1⟩, .shared, .write ⟨⟨#[0x61]⟩, 2⟩, .shared, .remove, .shared,
    .write ⟨⟨#[]⟩, 1⟩, .shared, .leave, .shared]

theorem restored_unnoticed :
    ManifestCache.Dated (writes restored) ∧
      replies { directory := "c" } restored = answers { directory := "c" } restored := by
  have dated : ManifestCache.Dated (writes restored) := by
    unfold ManifestCache.Dated
    decide
  exact ⟨dated, (cache_unnoticed "c" restored dated).1⟩

end CrateSession

end Bindery
