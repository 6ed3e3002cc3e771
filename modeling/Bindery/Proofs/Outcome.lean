import Bindery.Proofs.Wrapper.Identifiers

set_option autoImplicit false
set_option relaxedAutoImplicit false

/-!
What generating comes to. The options are checked in a fixed order, then the description, then every
target by a condition of its own on the declared names or types; generating fails exactly if one of
these conditions does, and it fails with the first one. Nothing else can go wrong: in particular
every identifier that is written can be made one.
-/

namespace Bindery

/-- Whether a text may stand in front of names. -/
def FrontsNames (text : String) : Prop :=
  (∀ c ∈ text.toList, IsLetter c ∨ ('0' ≤ c ∧ c ≤ '9')) ∧
    ∀ c, text.toList.head? = some c → ¬ ('0' ≤ c ∧ c ≤ '9')

structure Options.Sound (options : Options) : Prop where
  targeted : options.targets ≠ []
  symbols : FrontsNames options.symbolPrefix
  headers : options.resolvedHeaderPrefix ≠ "" ∧ FrontsNames options.resolvedHeaderPrefix

def Items.declaredNames (items : Items) : List String :=
  items.structNames ++ items.abstractNames ++ items.functionNames ++
    items.structs.flatMap (fun s => s.fields.map Field.name) ++
    items.functions.flatMap fun f => f.params.map Param.name

/-- Whether two types need the same typedef name although C tells them apart. -/
def Header.Collide (tag : String) (t u : Ty) : Prop :=
  typedefName tag t = typedefName tag u ∧ t.inC ≠ u.inC

/-- Whether a target can be generated for a description. -/
def Items.Fits (items : Items) (tag : String) : Target → Prop
  | .rust => ∀ name ∈ items.declaredNames, name ∉ Wrapper.reserved
  | .c => ∀ t u, Header.NeedsTypedef items t → Header.NeedsTypedef items u →
      ¬ Header.Collide tag t u
  | .python => ∀ name ∈ items.structNames ++ items.abstractNames, name ∉ Loader.reserved

def FirstIn (words names : List String) (name : String) : Prop :=
  ∃ before after, names = before ++ name :: after ∧ name ∈ words ∧ ∀ n ∈ before, n ∉ words

/-- Whether a name is that of the first type that collides with one that came before it. -/
def Header.FirstClash (tag : String) (seen ts : List Ty) (name : String) : Prop :=
  ∃ before t after, ts = before ++ t :: after ∧ name = typedefName tag t ∧
    (∀ u ∈ seen ++ before, ∀ v ∈ seen ++ before, ¬ Collide tag u v) ∧
    ∃ u ∈ seen ++ before, Collide tag u t

/-- Whether an error is the one of a target, for a description in layout order. -/
def Items.Refused (out : Items) (tag : String) : Target → GenerateError → Prop
  | .rust, e => ∃ name, FirstIn Wrapper.reserved (Wrapper.usedNames out) name ∧
      e = .reservedIdentifier name .rust
  | .c, e => ∃ name,
      Header.FirstClash tag [] ((Header.declaredTypes out).flatMap Header.carriers) name ∧
      e = .typedefCollision name
  | .python, e => ∃ name, FirstIn Loader.reserved (Loader.classNames out) name ∧
      e = .reservedIdentifier name .python

/-- Whether an error is that of the first condition that the options fail. -/
inductive Options.Fault (options : Options) : GenerateError → Prop where
  | noTargets (none : options.targets = []) : Fault options .noTargets
  | symbols (targeted : options.targets ≠ []) (bad : ¬ FrontsNames options.symbolPrefix) :
    Fault options (.invalidPrefix options.symbolPrefix)
  | headers (targeted : options.targets ≠ []) (symbols : FrontsNames options.symbolPrefix)
    (bad : ¬ (options.resolvedHeaderPrefix ≠ "" ∧ FrontsNames options.resolvedHeaderPrefix)) :
    Fault options (.invalidPrefix options.resolvedHeaderPrefix)

/-- Whether an error is that of the first condition that fails. -/
inductive FirstFault (options : Options) (items : Items) : GenerateError → Prop where
  | options {e : GenerateError} (fault : options.Fault e) : FirstFault options items e
  | invalid (sound : options.Sound) {problems : List Problem}
    (reported : items.validate.result = .error problems) :
    FirstFault options items (.invalid problems)
  | target (sound : options.Sound) {out : Items} (valid : items.validated.result = .ok out)
    {before after : List Target} {t : Target} (order : options.targets = before ++ t :: after)
    (earlier : ∀ u ∈ before, items.Fits options.resolvedHeaderPrefix u) {e : GenerateError}
    (refused : out.Refused options.resolvedHeaderPrefix t e) :
    FirstFault options items e

/-! ### Options -/

namespace Options

variable {options : Options}

theorem isPrefix_iff {text : String} : isPrefix text = true ↔ FrontsNames text := by
  have letters : text.toList.all (fun c => c.isAlphanum || c == '_') = true ↔
      ∀ c ∈ text.toList, IsLetter c ∨ ('0' ≤ c ∧ c ≤ '9') := by
    rw [List.all_eq_true]
    exact forall_congr' fun c => imp_congr_right fun _ => isAsciiContinue_iff c
  rw [isPrefix, Bool.and_eq_true, letters, FrontsNames]
  refine and_congr_right fun _ => ?_
  cases text.toList with
  | nil => simp
  | cons c cs => simp [← isDigit_iff]

theorem check_ok_iff : options.check = .ok () ↔ options.Sound := by
  unfold check
  constructor
  · intro passed
    split_ifs at passed with untargeted badSymbols badHeaders
    refine ⟨by simpa using untargeted, isPrefix_iff.mp (by simpa using badSymbols), ?_⟩
    simpa [← isPrefix_iff] using badHeaders
  · rintro ⟨targeted, symbols, headers⟩
    simp [targeted, isPrefix_iff.mpr symbols, headers.1, isPrefix_iff.mpr headers.2]

theorem check_error_iff {e : GenerateError} : options.check = .error e ↔ options.Fault e := by
  constructor
  · intro failed
    unfold check at failed
    split_ifs at failed with untargeted badSymbols badHeaders
    · cases failed
      exact .noTargets (by simpa using untargeted)
    · cases failed
      exact .symbols (by simpa using untargeted) (by simpa [← isPrefix_iff] using badSymbols)
    · cases failed
      refine .headers (by simpa using untargeted) (isPrefix_iff.mp (by simpa using badSymbols)) ?_
      simpa [← isPrefix_iff, imp_iff_not_or] using badHeaders
  · intro fault
    unfold check
    cases fault with
    | noTargets none => simp [none]
    | symbols targeted bad => simp_all [← isPrefix_iff]
    | headers targeted symbols bad =>
      have refused : (options.resolvedHeaderPrefix.isEmpty ||
          !isPrefix options.resolvedHeaderPrefix) = true := by
        simpa [← isPrefix_iff, imp_iff_not_or] using bad
      simp [targeted, isPrefix_iff.mpr symbols, refused]

end Options

/-! ### Names that are reserved -/

theorem find?_eq_some_iff_firstIn {words names : List String} {name : String} :
    names.find? (fun n => words.contains n) = some name ↔ FirstIn words names name := by
  rw [List.find?_eq_some_iff_append]
  simp only [Bool.not_eq_true', List.contains_eq_mem, decide_eq_false_iff_not, decide_eq_true_eq,
    FirstIn]
  constructor
  · rintro ⟨taken, before, after, order, earlier⟩
    exact ⟨before, after, order, taken, earlier⟩
  · rintro ⟨before, after, order, taken, earlier⟩
    exact ⟨taken, before, after, order, earlier⟩

theorem find?_eq_none_iff_free {words names : List String} :
    names.find? (fun n => words.contains n) = none ↔ ∀ n ∈ names, n ∉ words := by
  simp [List.find?_eq_none]

theorem Wrapper.checkNames_ok_iff {names : List String} :
    Wrapper.checkNames names = .ok () ↔ ∀ n ∈ names, n ∉ Wrapper.reserved := by
  rw [← find?_eq_none_iff_free, Wrapper.checkNames]
  split <;> simp_all

theorem Loader.checkNames_ok_iff {names : List String} :
    Loader.checkNames names = .ok () ↔ ∀ n ∈ names, n ∉ Loader.reserved := by
  rw [← find?_eq_none_iff_free, Loader.checkNames]
  split <;> simp_all

/-! ### Types that collide -/

namespace Header

variable {tag : String} {seen defined ts : List Ty}

theorem Collide.symm {t u : Ty} (collide : Collide tag t u) : Collide tag u t :=
  ⟨collide.1.symm, collide.2.symm⟩

/-- The defined types cover the ones that were seen, none of which collide. -/
structure Represents (tag : String) (seen defined : List Ty) : Prop
    extends Covers seen defined where
  apart : ∀ t ∈ seen, ∀ u ∈ seen, ¬ Collide tag t u

theorem typedefName_of_inC {t u : Ty} (same : t.inC = u.inC) :
    typedefName tag t = typedefName tag u := by
  rw [← typedefName_inC, same, typedefName_inC]

theorem apart_snoc {t : Ty} (apart : ∀ u ∈ seen, ∀ v ∈ seen, ¬ Collide tag u v)
    (clear : ∀ u ∈ seen, ¬ Collide tag u t) :
    ∀ u ∈ seen ++ [t], ∀ v ∈ seen ++ [t], ¬ Collide tag u v := by
  intro u first v second collide
  rw [List.mem_append, List.mem_singleton] at first second
  rcases first with old | rfl
  · rcases second with older | rfl
    · exact apart u old v older collide
    · exact clear u old collide
  · rcases second with older | rfl
    · exact clear v older collide.symm
    · exact collide.2 rfl

theorem firstClash_cons {t : Ty} {name : String} (clear : ∀ u ∈ seen, ¬ Collide tag u t) :
    FirstClash tag seen (t :: ts) name ↔ FirstClash tag (seen ++ [t]) ts name := by
  constructor
  · rintro ⟨before, u, after, order, named, apart, met⟩
    cases before with
    | nil =>
      obtain ⟨rfl, rfl⟩ := List.cons.inj order
      obtain ⟨v, old, collide⟩ := met
      exact absurd collide (clear v (by simpa using old))
    | cons first before =>
      obtain ⟨rfl, rfl⟩ := List.cons.inj order
      rw [List.append_cons] at apart met
      exact ⟨before, u, after, rfl, named, apart, met⟩
  · rintro ⟨before, u, after, rfl, named, apart, met⟩
    rw [← List.append_cons] at apart met
    exact ⟨t :: before, u, after, rfl, named, apart, met⟩

namespace Represents

theorem nil (tag : String) : Represents tag [] [] := ⟨.nil, by simp⟩

theorem define {t : Ty} (represents : Represents tag seen defined)
    (clear : ∀ u ∈ seen, ¬ Collide tag u t) : Represents tag (seen ++ [t]) (defined ++ [t]) :=
  ⟨represents.toCovers.define, apart_snoc represents.apart clear⟩

theorem skip {t u : Ty} (represents : Represents tag seen defined) (listed : u ∈ defined)
    (same : u.inC = t.inC) (clear : ∀ u ∈ seen, ¬ Collide tag u t) :
    Represents tag (seen ++ [t]) defined :=
  ⟨represents.toCovers.skip listed same, apart_snoc represents.apart clear⟩

theorem clear_of_fresh {t : Ty} (represents : Represents tag seen defined)
    (fresh : ∀ u ∈ defined, typedefName tag u ≠ typedefName tag t) :
    ∀ u ∈ seen, ¬ Collide tag u t := by
  intro u member collide
  obtain ⟨v, listed, same⟩ := represents.covers u member
  exact fresh v listed ((typedefName_of_inC same).trans collide.1)

theorem clear_of_same {t u : Ty} (represents : Represents tag seen defined) (listed : u ∈ defined)
    (same : u.inC = t.inC) : ∀ v ∈ seen, ¬ Collide tag v t := by
  intro v member collide
  have named : typedefName tag v = typedefName tag u :=
    collide.1.trans (typedefName_of_inC same).symm
  exact represents.apart v member u (represents.known u listed) ⟨named, same ▸ collide.2⟩

end Represents

/-- Defining types one after the other goes through exactly if no two of them collide, and else
stops at the first that collides with an earlier one. -/
theorem define_iff (represents : Represents tag seen defined) (ts : List Ty) :
    ((∃ out, define tag defined ts = .ok out) ↔
        ∀ t ∈ seen ++ ts, ∀ u ∈ seen ++ ts, ¬ Collide tag t u) ∧
      ∀ name, define tag defined ts = .error name ↔ FirstClash tag seen ts name := by
  induction ts generalizing seen defined with
  | nil =>
    refine ⟨?_, fun name => ?_⟩
    · simpa [define] using represents.apart
    · constructor
      · intro failed
        cases failed
      · rintro ⟨before, t, after, order, -⟩
        simp at order
  | cons t ts ih =>
    -- A type that collides with nothing moves to the front, whether or not it is defined.
    have forward : ∀ {defined' : List Ty}, Represents tag (seen ++ [t]) defined' →
        (∀ u ∈ seen, ¬ Collide tag u t) → define tag defined (t :: ts) = define tag defined' ts →
        ((∃ out, define tag defined (t :: ts) = .ok out) ↔
            ∀ v ∈ seen ++ t :: ts, ∀ u ∈ seen ++ t :: ts, ¬ Collide tag v u) ∧
          ∀ name, define tag defined (t :: ts) = .error name ↔
            FirstClash tag seen (t :: ts) name := by
      intro defined' grown clear goesOn
      obtain ⟨accepts, refuses⟩ := ih grown
      rw [← List.append_cons] at accepts
      refine ⟨goesOn ▸ accepts, fun name => ?_⟩
      rw [goesOn, refuses name, firstClash_cons clear]
    cases found : defined.find? fun u => typedefName tag u == typedefName tag t with
    | none =>
      have fresh : ∀ u ∈ defined, typedefName tag u ≠ typedefName tag t := by
        simpa [List.find?_eq_none] using found
      have clear := represents.clear_of_fresh fresh
      exact forward (represents.define clear) clear (by simp only [define, found])
    | some u =>
      have listed := List.mem_of_find?_eq_some found
      have named : typedefName tag u = typedefName tag t := by simpa using List.find?_some found
      by_cases same : u.inC = t.inC
      · have clear := represents.clear_of_same listed same
        exact forward (represents.skip listed same clear) clear
          (by simp only [define, found, same, if_true])
      · have stops : define tag defined (t :: ts) = .error (typedefName tag t) := by
          simp only [define, found, same, if_false]
        have member : u ∈ seen := represents.known u listed
        have collide : Collide tag u t := ⟨named, same⟩
        rw [stops]
        refine ⟨?_, fun name => ⟨?_, ?_⟩⟩
        · constructor
          · rintro ⟨out, done⟩
            cases done
          · intro apart
            exact absurd collide (apart u (List.mem_append_left _ member) t (by simp))
        · intro same
          obtain rfl := Except.error.inj same
          exact ⟨[], t, ts, rfl, rfl, by simpa using represents.apart, u, by simpa using member,
            collide⟩
        · rintro ⟨before, v, after, order, rfl, apart, -⟩
          cases before with
          | nil => rw [(List.cons.inj order).1]
          | cons first before =>
            obtain ⟨rfl, -⟩ := List.cons.inj order
            exact absurd collide (apart u (List.mem_append_left _ member) t (by simp))

theorem typedefs_ok_iff {items : Items} :
    (∃ ts, typedefs tag items = .ok ts) ↔
      ∀ t u, NeedsTypedef items t → NeedsTypedef items u → ¬ Collide tag t u := by
  have accepts := (define_iff (Represents.nil tag) ((declaredTypes items).flatMap carriers)).1
  have reached : (∃ ts, typedefs tag items = .ok ts) ↔
      ∃ out, define tag [] ((declaredTypes items).flatMap carriers) = .ok out := by
    unfold typedefs
    cases define tag [] ((declaredTypes items).flatMap carriers) <;> simp [Except.mapError]
  rw [reached, accepts]
  simp only [List.nil_append, mem_flatMap_carriers_iff]
  constructor
  · intro apart t u first second
    exact apart t first u second
  · intro apart t first u second
    exact apart t u first second

theorem typedefs_error_iff {items : Items} {e : GenerateError} :
    typedefs tag items = .error e ↔
      ∃ name, FirstClash tag [] ((declaredTypes items).flatMap carriers) name ∧
        e = .typedefCollision name := by
  have refuses := (define_iff (Represents.nil tag) ((declaredTypes items).flatMap carriers)).2
  unfold typedefs
  constructor
  · intro failed
    cases outcome : define tag [] ((declaredTypes items).flatMap carriers) with
    | ok out => simp [outcome, Except.mapError] at failed
    | error name =>
      refine ⟨name, (refuses name).mp outcome, ?_⟩
      simpa [outcome, Except.mapError, eq_comm] using failed
  · rintro ⟨name, clash, rfl⟩
    simp [(refuses name).mpr clash, Except.mapError]

end Header

/-! ### Descriptions in layout order -/

namespace Items

variable {items out : Items}

theorem mem_declaredTypes_iff (accepted : items.arranged = .ok out) {t : Ty} :
    t ∈ Header.declaredTypes out ↔ t ∈ Header.declaredTypes items := by
  refine ⟨mem_declaredTypes_of_arranged accepted, fun declared => ?_⟩
  rcases List.mem_append.mp declared with field | signature
  · obtain ⟨s, struct, inFields⟩ := List.mem_flatMap.mp field
    have member := (structs_perm_of_arranged accepted).symm.subset struct
    exact List.mem_append_left _ (List.mem_flatMap.mpr ⟨s, member, inFields⟩)
  · obtain ⟨order, -, rfl⟩ := arranged_eq accepted
    exact List.mem_append_right _ signature

theorem needsTypedef_iff (accepted : items.arranged = .ok out) {t : Ty} :
    Header.NeedsTypedef out t ↔ Header.NeedsTypedef items t := by
  simp only [Header.NeedsTypedef, mem_declaredTypes_iff accepted]

theorem mem_classNames_iff (accepted : items.arranged = .ok out) {name : String} :
    name ∈ Loader.classNames out ↔ name ∈ items.structNames ++ items.abstractNames := by
  have listed : Loader.classNames out = out.abstractNames ++ out.structNames := rfl
  rw [listed, List.mem_append, List.mem_append, (structNames_perm_of_arranged accepted).mem_iff,
    abstractNames_of_arranged accepted, or_comm]

theorem mem_classNames_of_inside (accepted : items.arranged = .ok out) {t : Ty}
    (declared : t ∈ Header.declaredTypes items) {name : String}
    (inside : (Ty.named name).Inside t) :
    name ∈ Loader.classNames out :=
  (mem_classNames_iff accepted).mpr
    (List.mem_append.mpr (mem_names_of_arranged accepted declared inside))

theorem mem_declaredNames {name : String} :
    name ∈ items.declaredNames ↔
      name ∈ items.structNames ++ items.abstractNames ∨
      (∃ f ∈ items.functions, name = f.name ∨ ∃ p ∈ f.params, name = p.name) ∨
      ∃ s ∈ items.structs, ∃ f ∈ s.fields, name = f.name := by
  simp only [declaredNames, functionNames, List.mem_append, List.mem_flatMap, List.mem_map]
  grind

theorem mem_declaredNames_of_type (accepted : items.arranged = .ok out) {t : Ty}
    (declared : t ∈ Header.declaredTypes items) {name : String} (used : name ∈ t.names) :
    name ∈ items.declaredNames := by
  have known := mem_names_of_arranged accepted declared (Ty.mem_names_iff.mp used)
  exact mem_declaredNames.mpr (.inl (List.mem_append.mpr known))

theorem mem_declaredNames_of_struct (accepted : items.arranged = .ok out) {s : Struct}
    (struct : s ∈ items.structs) {name : String} (used : name ∈ Wrapper.structNames s) :
    name ∈ items.declaredNames := by
  rcases List.mem_cons.mp used with rfl | inside
  · refine mem_declaredNames.mpr (.inl (List.mem_append_left _ ?_))
    exact List.mem_map_of_mem struct
  · obtain ⟨f, field, mention⟩ := List.mem_flatMap.mp inside
    rcases List.mem_cons.mp mention with rfl | typed
    · exact mem_declaredNames.mpr (.inr (.inr ⟨s, struct, f, field, rfl⟩))
    · exact mem_declaredNames_of_type accepted (field_mem_declaredTypes struct field) typed

theorem mem_declaredNames_of_function (accepted : items.arranged = .ok out) {f : Function}
    (member : f ∈ items.functions) {name : String} (used : name ∈ Wrapper.functionNames f) :
    name ∈ items.declaredNames := by
  have signature : ∀ t ∈ f.params.map Param.ty ++ f.returns.toList, name ∈ t.names →
      name ∈ items.declaredNames := fun t listed typed =>
    mem_declaredNames_of_type accepted (signature_mem_declaredTypes member listed) typed
  rcases List.mem_append.mp used with inParams | returned
  · rcases List.mem_cons.mp inParams with rfl | inside
    · exact mem_declaredNames.mpr (.inr (.inl ⟨f, member, .inl rfl⟩))
    · obtain ⟨p, param, mention⟩ := List.mem_flatMap.mp inside
      rcases List.mem_cons.mp mention with rfl | typed
      · exact mem_declaredNames.mpr (.inr (.inl ⟨f, member, .inr ⟨p, param, rfl⟩⟩))
      · exact signature p.ty (List.mem_append_left _ (List.mem_map_of_mem param)) typed
  · obtain ⟨t, result, typed⟩ := List.mem_flatMap.mp returned
    exact signature t (List.mem_append_right _ result) typed

theorem mem_usedNames_of_declared {name : String} (declared : name ∈ items.declaredNames) :
    name ∈ Wrapper.usedNames items := by
  rcases mem_declaredNames.mp declared with
    named | ⟨f, member, mention⟩ | ⟨s, struct, f, field, rfl⟩
  · rcases List.mem_append.mp named with complete | abstracted
    · obtain ⟨s, struct, rfl⟩ := List.mem_map.mp complete
      refine List.mem_append_left _ (List.mem_append_right _ ?_)
      exact List.mem_flatMap.mpr ⟨s, struct, List.mem_cons_self⟩
    · exact List.mem_append_left _ (List.mem_append_left _ abstracted)
  · refine List.mem_append_right _ (List.mem_flatMap.mpr ⟨f, member, List.mem_append_left _ ?_⟩)
    rcases mention with rfl | ⟨p, param, rfl⟩
    · exact List.mem_cons_self
    · exact List.mem_cons_of_mem _ (List.mem_flatMap.mpr ⟨p, param, List.mem_cons_self⟩)
  · refine List.mem_append_left _ (List.mem_append_right _ ?_)
    refine List.mem_flatMap.mpr ⟨s, struct, List.mem_cons_of_mem _ ?_⟩
    exact List.mem_flatMap.mpr ⟨f, field, List.mem_cons_self⟩

theorem mem_usedNames_iff (accepted : items.arranged = .ok out) {name : String} :
    name ∈ Wrapper.usedNames out ↔ name ∈ items.declaredNames := by
  have structs := structs_perm_of_arranged accepted
  have rearranged : name ∈ Wrapper.usedNames out ↔ name ∈ Wrapper.usedNames items := by
    simp only [Wrapper.usedNames, List.mem_append, List.mem_flatMap, structs.mem_iff,
      abstractStructs_of_arranged accepted, functions_of_arranged accepted]
  rw [rearranged]
  refine ⟨fun used => ?_, mem_usedNames_of_declared⟩
  rcases List.mem_append.mp used with inStruct | inFunction
  · rcases List.mem_append.mp inStruct with abstracted | complete
    · exact mem_declaredNames.mpr (.inl (List.mem_append_right _ abstracted))
    · obtain ⟨s, struct, mention⟩ := List.mem_flatMap.mp complete
      exact mem_declaredNames_of_struct accepted struct mention
  · obtain ⟨f, member, mention⟩ := List.mem_flatMap.mp inFunction
    exact mem_declaredNames_of_function accepted member mention

theorem declared_spot {name : String} (declared : name ∈ items.declaredNames) :
    ∃ scope earlier, .declared scope earlier name ∈ items.spots := by
  have global : ∀ {n}, n ∈ items.structNames ++ items.abstractNames ++ items.functionNames →
      ∃ scope earlier, .declared scope earlier n ∈ items.spots := by
    intro n listed
    obtain ⟨earlier, entry⟩ := mem_withEarlier id [] listed
    exact ⟨.items, earlier, nameSpot_mem (List.mem_map.mpr ⟨(earlier, n), entry, rfl⟩)⟩
  rcases mem_declaredNames.mp declared with
    named | ⟨f, member, mention⟩ | ⟨s, struct, f, field, rfl⟩
  · exact global (List.mem_append_left _ named)
  · rcases mention with rfl | ⟨p, param, rfl⟩
    · exact global (List.mem_append_right _ (List.mem_map_of_mem member))
    · obtain ⟨earlier, entry⟩ := mem_withEarlier Param.name [] param
      have own : .declared (.params f.name) earlier p.name ∈ paramSpots f :=
        List.mem_flatMap.mpr ⟨(earlier, p), entry, List.mem_cons_self⟩
      refine ⟨.params f.name, earlier, List.mem_append_right _ ?_⟩
      exact List.mem_flatMap.mpr ⟨f, member, List.mem_append_left _ own⟩
  · obtain ⟨earlier, entry⟩ := mem_withEarlier Field.name [] field
    have own : .declared (.fields s.name) earlier f.name ∈ fieldSpots s :=
      List.mem_flatMap.mpr ⟨(earlier, f), entry, List.mem_cons_self⟩
    refine ⟨.fields s.name, earlier, List.mem_append_left _ (List.mem_append_right _ ?_)⟩
    exact List.mem_flatMap.mpr ⟨s, struct, own⟩

theorem isName_of_declared (accepted : items.arranged = .ok out) {name : String}
    (declared : name ∈ items.declaredNames) : IsName name := by
  obtain ⟨scope, earlier, spot⟩ := declared_spot declared
  by_contra irregular
  exact not_faulty_of_arranged accepted spot _ (.invalidIdentifier irregular)

end Items

/-! ### Targets -/

namespace Generate

variable {options : Options} {items out : Items} {rt : CratePath}
  {path : Except GenerateError CratePath}

theorem mainAt_ok_iff (accepted : items.arranged = .ok out) (t : Target) :
    (∃ text, mainAt (.ok rt) options out t = .ok text) ↔
      items.Fits options.resolvedHeaderPrefix t := by
  cases t with
  | rust =>
    have checked : Wrapper.checkNames (Wrapper.usedNames out) = .ok () ↔
        ∀ name ∈ items.declaredNames, name ∉ Wrapper.reserved := by
      simp only [Wrapper.checkNames_ok_iff, Items.mem_usedNames_iff accepted]
    simp [mainAt, Except.bind, wrapperText_ok_iff, checked, Items.Fits]
  | c =>
    have made : (∃ text, (interfaceText options out).result = .ok text) ↔
        ∃ ts, Header.typedefs options.resolvedHeaderPrefix out = .ok ts := by
      unfold interfaceText
      cases Header.typedefs options.resolvedHeaderPrefix out <;> simp [Except.bind]
    rw [mainAt, made, Header.typedefs_ok_iff]
    simp only [Items.needsTypedef_iff accepted, Items.Fits]
  | python =>
    have checked : Loader.checkNames (Loader.classNames out) = .ok () ↔
        ∀ name ∈ items.structNames ++ items.abstractNames, name ∉ Loader.reserved := by
      simp only [Loader.checkNames_ok_iff, Items.mem_classNames_iff accepted]
    simp [mainAt, loaderText_ok_iff, checked, Items.Fits]

theorem mainAt_error_iff (t : Target) {e : GenerateError} :
    mainAt (.ok rt) options out t = .error e ↔ out.Refused options.resolvedHeaderPrefix t e := by
  cases t with
  | rust =>
    simp only [mainAt, Items.Refused, ← find?_eq_some_iff_firstIn]
    unfold wrapperText Wrapper.checkNames
    cases (Wrapper.usedNames out).find? fun n => Wrapper.reserved.contains n with
    | none => simp [result_forEach_note, Except.bind]
    | some name => simp [Except.bind, eq_comm]
  | c =>
    have made : (interfaceText options out).result = .error e ↔
        Header.typedefs options.resolvedHeaderPrefix out = .error e := by
      unfold interfaceText
      cases Header.typedefs options.resolvedHeaderPrefix out <;> simp [Except.bind]
    rw [mainAt, made, Header.typedefs_error_iff, Items.Refused]
  | python =>
    simp only [mainAt, Items.Refused, ← find?_eq_some_iff_firstIn]
    unfold loaderText Loader.checkNames
    cases (Loader.classNames out).find? fun n => Loader.reserved.contains n with
    | none => simp [result_forEach_note, Except.bind]
    | some name => simp [Except.bind, eq_comm]

theorem filesAt_cons_error {t : Target} {e : GenerateError} (ts : List Target)
    (failed : mainAt path options out t = .error e) :
    filesAt path options out (t :: ts) = .error e := by
  simp [filesAt, failed, Except.bind]

theorem filesAt_cons_ok {t : Target} {text : String} (ts : List Target)
    (made : mainAt path options out t = .ok text) :
    filesAt path options out (t :: ts) =
      (filesAt path options out ts).map (filesOf options out t text ++ ·) := by
  simp [filesAt, made, Except.bind]

theorem filesAt_ok_iff (ts : List Target) :
    (∃ files, filesAt path options out ts = .ok files) ↔
      ∀ t ∈ ts, ∃ text, mainAt path options out t = .ok text := by
  induction ts with
  | nil => simp [filesAt]
  | cons t ts ih =>
    rw [List.forall_mem_cons, ← ih]
    cases main : mainAt path options out t with
    | error e => simp [filesAt_cons_error ts main]
    | ok text =>
      rw [filesAt_cons_ok ts main]
      cases filesAt path options out ts <;> simp [Except.map]

theorem filesAt_error_iff (ts : List Target) {e : GenerateError} :
    filesAt path options out ts = .error e ↔
      ∃ before t after, ts = before ++ t :: after ∧
        (∀ u ∈ before, ∃ text, mainAt path options out u = .ok text) ∧
        mainAt path options out t = .error e := by
  induction ts with
  | nil => simp [filesAt]
  | cons t ts ih =>
    constructor
    · intro failed
      cases main : mainAt path options out t with
      | error other =>
        rw [filesAt_cons_error ts main] at failed
        obtain rfl := Except.error.inj failed
        exact ⟨[], t, ts, rfl, by simp, main⟩
      | ok text =>
        rw [filesAt_cons_ok ts main] at failed
        have later : filesAt path options out ts = .error e := by
          cases rest : filesAt path options out ts <;> simp_all [Except.map]
        obtain ⟨before, u, after, rfl, earlier, failed⟩ := ih.mp later
        exact ⟨t :: before, u, after, rfl, List.forall_mem_cons.mpr ⟨⟨text, main⟩, earlier⟩, failed⟩
    · rintro ⟨before, u, after, order, earlier, failed⟩
      cases before with
      | nil =>
        obtain ⟨rfl, -⟩ := List.cons.inj order
        exact filesAt_cons_error ts failed
      | cons first before =>
        obtain ⟨rfl, rfl⟩ := List.cons.inj order
        obtain ⟨⟨text, main⟩, earlier⟩ := List.forall_mem_cons.mp earlier
        have later := ih.mpr ⟨before, u, after, rfl, earlier, failed⟩
        rw [filesAt_cons_ok _ main, later]
        rfl

variable {α : Type} {next : Items → Except GenerateError α}

theorem whenChecked_ok_iff {a : α} :
    whenChecked options items next = .ok a ↔
      options.Sound ∧ ∃ out, items.validated.result = .ok out ∧ next out = .ok a := by
  rw [whenChecked, ← Options.check_ok_iff]
  cases options.check with
  | error e => simp [Except.bind]
  | ok _ => cases items.validated.result <;> simp [Except.bind, Except.mapError]

theorem whenChecked_error_iff {e : GenerateError} :
    whenChecked options items next = .error e ↔
      options.Fault e ∨
      options.Sound ∧ ((∃ ps, items.validated.result = .error ps ∧ e = .invalid ps) ∨
        ∃ out, items.validated.result = .ok out ∧ next out = .error e) := by
  rw [whenChecked, ← Options.check_ok_iff, ← Options.check_error_iff]
  cases options.check with
  | error e => simp [Except.bind]
  | ok _ => cases items.validated.result <;> simp [Except.bind, Except.mapError, eq_comm]

end Generate

theorem Items.validate_result (items : Items) :
    items.validate.result = items.validated.result.map fun _ => () := rfl

section Given

open Generate

variable {env : Environment} {options : Options} {items : Items} {cache : ManifestCache}
  {path : String} {rt : CratePath}

theorem generate_result (given : options.runtimePath = some path)
    (parsed : CratePath.parse? path = some rt) :
    (generate env options items cache).2.result =
      whenChecked options items fun out => filesAt (.ok rt) options out options.targets := by
  have settles : Settles env options (fun _ => True) (.ok rt) := by
    intro cache _
    simp [runtimePath, given, parsed]
  exact (settles.generate trivial).1

theorem generate_ok_iff (given : options.runtimePath = some path)
    (parsed : CratePath.parse? path = some rt) :
    (∃ files, (generate env options items cache).2.result = .ok files) ↔
      options.Sound ∧ items.validate.result = .ok () ∧
        ∀ t ∈ options.targets, items.Fits options.resolvedHeaderPrefix t := by
  simp only [generate_result given parsed, whenChecked_ok_iff]
  constructor
  · rintro ⟨files, sound, out, valid, made⟩
    have passed : items.validate.result = .ok () := by
      simp [Items.validate_result, valid, Except.map]
    refine ⟨sound, passed, fun t member => ?_⟩
    exact (mainAt_ok_iff valid t).mp ((filesAt_ok_iff _).mp ⟨files, made⟩ t member)
  · rintro ⟨sound, passed, fits⟩
    cases valid : items.validated.result with
    | error ps => simp [Items.validate_result, valid, Except.map] at passed
    | ok out =>
      have each : ∀ t ∈ options.targets, ∃ text, mainAt (.ok rt) options out t = .ok text :=
        fun t member => (mainAt_ok_iff valid t).mpr (fits t member)
      obtain ⟨files, made⟩ := (filesAt_ok_iff options.targets).mpr each
      exact ⟨files, sound, out, rfl, made⟩

theorem generate_error_iff (given : options.runtimePath = some path)
    (parsed : CratePath.parse? path = some rt) {e : GenerateError} :
    (generate env options items cache).2.result = .error e ↔ FirstFault options items e := by
  rw [generate_result given parsed, whenChecked_error_iff]
  constructor
  · rintro (fault | ⟨sound, ⟨ps, refused, rfl⟩ | ⟨out, valid, failed⟩⟩)
    · exact .options fault
    · have reported : items.validate.result = .error ps := by
        simp [Items.validate_result, refused, Except.map]
      exact .invalid sound reported
    · obtain ⟨before, t, after, order, earlier, refused⟩ := (filesAt_error_iff _).mp failed
      have fits : ∀ u ∈ before, items.Fits options.resolvedHeaderPrefix u := fun u member =>
        (mainAt_ok_iff valid u).mp (earlier u member)
      exact .target sound valid order fits ((mainAt_error_iff t).mp refused)
  · intro fault
    cases fault with
    | options fault => exact .inl fault
    | invalid sound reported =>
      refine .inr ⟨sound, .inl ?_⟩
      cases valid : items.validated.result with
      | ok out => simp [Items.validate_result, valid, Except.map] at reported
      | error ps => simpa [Items.validate_result, valid, Except.map, eq_comm] using reported
    | target sound valid order fits refused =>
      refine .inr ⟨sound, .inr ⟨_, valid, (filesAt_error_iff _).mpr ?_⟩⟩
      exact ⟨_, _, _, order, fun u member => (mainAt_ok_iff valid u).mpr (fits u member),
        (mainAt_error_iff _).mpr refused⟩

theorem isName_of_used {out : Items} (valid : items.validated.result = .ok out) {name : String}
    (used : name ∈ Wrapper.usedNames out) : IsName name :=
  Items.isName_of_declared valid ((Items.mem_usedNames_iff valid).mp used)

theorem generated_wrapper (given : options.runtimePath = some path)
    (parsed : CratePath.parse? path = some rt) {files : List OutputFile}
    (made : (generate env options items cache).2.result = .ok files)
    (targeted : .rust ∈ options.targets) :
    ∃ out, items.validated.result = .ok out ∧
      ⟨options.stem ++ ".rs", Wrapper.file rt options out⟩ ∈ files ∧
      ∀ name ∈ Wrapper.usedNames out, name ∉ Wrapper.reserved := by
  obtain ⟨-, out, valid, made⟩ := checked_ok_iff.mp made
  obtain ⟨_, text, main, within⟩ := mainText_of_target made targeted
  have wrapped : (wrapperText options out rt).result = .ok text := by
    simpa [Generate.mainText, runtimePath, given, parsed, Except.bind] using main
  obtain ⟨names, rfl⟩ := wrapperText_ok_iff.mp wrapped
  exact ⟨out, valid, within (by simp [filesOf, ending]), Wrapper.checkNames_ok_iff.mp names⟩

/-- Generating with a given path of the ownership types succeeds exactly if the options are sound,
the description is valid and it fits every target; else it fails with the first of these conditions
that does not hold. Making identifiers never fails: what is used as a name is a name, and what the
wrapper file is made of can be made identifiers. -/
theorem generate_fails_exactly (given : options.runtimePath = some path)
    (parsed : CratePath.parse? path = some rt) :
    ((∃ files, (generate env options items cache).2.result = .ok files) ↔
      options.Sound ∧ items.validate.result = .ok () ∧
        ∀ t ∈ options.targets, items.Fits options.resolvedHeaderPrefix t) ∧
    (∀ e, (generate env options items cache).2.result = .error e ↔ FirstFault options items e) ∧
    (∀ out, items.validated.result = .ok out → ∀ name ∈ Wrapper.usedNames out,
      IsName name ∧ (name ∉ Wrapper.reserved → Wrapper.Nameable name)) ∧
    ∀ files, (generate env options items cache).2.result = .ok files → .rust ∈ options.targets →
      ∃ out, items.validated.result = .ok out ∧
        ⟨options.stem ++ ".rs", Wrapper.file rt options out⟩ ∈ files ∧
        (∀ name ∈ Wrapper.usedNames out, name ∉ Wrapper.reserved) ∧
        ∀ part ∈ Wrapper.parts rt options out, Wrapper.Made part := by
  refine ⟨generate_ok_iff given parsed, fun e => generate_error_iff given parsed, ?_, ?_⟩
  · intro out valid name used
    have regular := isName_of_used valid used
    exact ⟨regular, fun free => Wrapper.isIdent_of_isName regular free⟩
  · intro files made targeted
    obtain ⟨out, valid, written, free⟩ := generated_wrapper given parsed made targeted
    have nameable : ∀ name ∈ Wrapper.usedNames out, Wrapper.Nameable name := fun name used =>
      Wrapper.isIdent_of_isName (isName_of_used valid used) (free name used)
    exact ⟨out, valid, written, free,
      Wrapper.made_parts (CratePath.made_tokens parsed) options nameable⟩

end Given

def selfNamed : Items where
  structs := [
    { name := "Self", fields := [{ name := "view", ty := .slice .const (.primitive .u8) }] }]

def placedFor (targets : List Target) : Options := { Wrapper.placedOptions with targets }

theorem selfNamed_outcomes :
    CratePath.parse? "::vellum_abi" = some (CratePath.root "vellum_abi") ∧
    (generate bareEnvironment (placedFor [.c, .rust, .python]) selfNamed []).2.result =
      .error (.reservedIdentifier "Self" .rust) ∧
    ∃ files, (generate bareEnvironment (placedFor [.python, .c]) selfNamed []).2.result =
      .ok files := by
  have tag : ∀ ts, (placedFor ts).resolvedHeaderPrefix = "vellum" := fun _ => rfl
  have sound : ∀ t ts, (placedFor (t :: ts)).Sound := by
    intro t ts
    have bare : Options.isPrefix "" = true := by decide
    have tagged : Options.isPrefix "vellum" = true := by decide
    refine ⟨by simp [placedFor], Options.isPrefix_iff.mp bare, ?_⟩
    rw [tag]
    exact ⟨by decide, Options.isPrefix_iff.mp tagged⟩
  have valid : selfNamed.validated.result = .ok selfNamed := rfl
  have used : Wrapper.usedNames selfNamed = ["Self", "view"] := by decide +kernel
  have apart : selfNamed.Fits "vellum" .c := by
    have only : ∀ t, Header.NeedsTypedef selfNamed t → t = .slice .const (.primitive .u8) := by
      intro t needed
      simpa [Header.declaredTypes, selfNamed, Header.carriers] using
        Header.mem_flatMap_carriers_iff.mpr needed
    intro t u first second collide
    exact collide.2 (by rw [only t first, only u second])
  have classes : selfNamed.Fits "vellum" .python := by
    intro name member
    have only : name = "Self" := by
      simpa [selfNamed, Items.structNames, Items.abstractNames] using member
    rw [only]
    decide
  refine ⟨Wrapper.parse?_placed, ?_, ?_⟩
  · refine ((generate_fails_exactly rfl Wrapper.parse?_placed).2.1 _).mpr ?_
    have order : (placedFor [.c, .rust, .python]).targets = [.c] ++ .rust :: [.python] := rfl
    have first : FirstIn Wrapper.reserved (Wrapper.usedNames selfNamed) "Self" :=
      ⟨[], ["view"], used, by decide, by simp⟩
    refine .target (sound _ _) valid order ?_ ⟨"Self", first, rfl⟩
    rw [tag]
    simpa using apart
  · refine (generate_fails_exactly rfl Wrapper.parse?_placed).1.mpr ⟨sound _ _, rfl, ?_⟩
    rw [tag]
    simpa [placedFor] using ⟨classes, apart⟩

end Bindery
