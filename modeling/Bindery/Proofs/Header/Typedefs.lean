import Bindery.Generate
import Bindery.Proofs.Header.Parts
import Bindery.Proofs.Precede

set_option autoImplicit false
set_option relaxedAutoImplicit false

/-!
The typedefs of a header are closed. The types that need a typedef are listed after their parts, and
defining them one after the other keeps that order, so whatever a declaration mentions is defined
once and before it, with the definition of the type that the mention stands for.
-/

namespace Bindery.Header

/-! ### What is listed for a type -/

theorem carriersAll_eq_flatMap (ts : List Ty) : carriersAll ts = ts.flatMap carriers := by
  induction ts with
  | nil => rfl
  | cons t ts ih => rw [carriersAll, ih, List.flatMap_cons]

theorem carriersOption_eq_flatMap (t : Option Ty) :
    carriersOption t = t.toList.flatMap carriers := by
  cases t <;> simp [carriersOption]

/-- What is listed for a type is what is listed for its parts, and then the type itself if it needs
a typedef. -/
theorem carriers_eq (t : Ty) :
    carriers t = t.parts.flatMap carriers ++ if isCarrier t then [t] else [] := by
  cases t with
  | owned inner => cases inner <;> simp [carriers, isCarrier, Ty.parts, Ty.children]
  | _ =>
    simp [carriers, isCarrier, Ty.parts, Ty.children, carriersAll_eq_flatMap,
      carriersOption_eq_flatMap]

theorem mem_carriers_iff {t u : Ty} : u ∈ carriers t ↔ isCarrier u = true ∧ u.Part t := by
  induction t using Ty.size_induction with
  | step t ih =>
    have below : (∃ v ∈ t.parts, u ∈ carriers v) ↔
        isCarrier u = true ∧ ∃ v ∈ t.parts, u.Part v := by
      constructor
      · rintro ⟨v, part, listed⟩
        obtain ⟨carrier, within⟩ := (ih v (Ty.size_lt_of_mem_parts part)).mp listed
        exact ⟨carrier, v, part, within⟩
      · rintro ⟨carrier, v, part, within⟩
        exact ⟨v, part, (ih v (Ty.size_lt_of_mem_parts part)).mpr ⟨carrier, within⟩⟩
    rw [carriers_eq, List.mem_append, List.mem_flatMap, below, Ty.part_iff, List.mem_ite_nil_right,
      List.mem_singleton]
    constructor
    · rintro (⟨carrier, within⟩ | ⟨carrier, rfl⟩)
      · exact ⟨carrier, .inr within⟩
      · exact ⟨carrier, .inl rfl⟩
    · rintro ⟨carrier, rfl | within⟩
      · exact .inr ⟨carrier, rfl⟩
      · exact .inl ⟨carrier, within⟩

/-- Everything that is listed for the parts of a type is among the given types. -/
def Supplied (before : List Ty) (t : Ty) : Prop := ∀ v ∈ t.parts, ∀ u ∈ carriers v, u ∈ before

theorem Supplied.grow (before more : List Ty) (t : Ty) (supplied : Supplied before t) :
    Supplied (more ++ before) t :=
  fun v part u listed => List.mem_append_right _ (supplied v part u listed)

theorem carriers_supplied (t : Ty) : EachAfter Supplied (carriers t) := by
  induction t using Ty.size_induction with
  | step t ih =>
    have parts : EachAfter Supplied (t.parts.flatMap carriers) :=
      .flatMap Supplied.grow fun u part => ih u (Ty.size_lt_of_mem_parts part)
    rw [carriers_eq]
    split
    · exact parts.concat fun v part u listed => List.mem_flatMap.mpr ⟨v, part, listed⟩
    · rwa [List.append_nil]

/-! ### Defining the types -/

/-- Some types have been seen, and of these some were defined, at least one for each form in C. -/
structure Covers (seen defined : List Ty) : Prop where
  known : ∀ t ∈ defined, t ∈ seen
  covers : ∀ u ∈ seen, ∃ t ∈ defined, t.inC = u.inC

namespace Covers

variable {seen defined : List Ty} {t u : Ty}

theorem nil : Covers [] [] := ⟨by simp, by simp⟩

theorem define (covered : Covers seen defined) : Covers (seen ++ [t]) (defined ++ [t]) where
  known u member := by
    rcases List.mem_append.mp member with old | new
    · exact List.mem_append_left _ (covered.known u old)
    · exact List.mem_append_right _ new
  covers u member := by
    rcases List.mem_append.mp member with old | new
    · obtain ⟨w, found, same⟩ := covered.covers u old
      exact ⟨w, List.mem_append_left _ found, same⟩
    · exact ⟨u, List.mem_append_right _ new, rfl⟩

theorem skip (covered : Covers seen defined) (found : u ∈ defined) (same : u.inC = t.inC) :
    Covers (seen ++ [t]) defined where
  known w member := List.mem_append_left _ (covered.known w member)
  covers w member := by
    rcases List.mem_append.mp member with old | new
    · exact covered.covers w old
    · obtain rfl := List.mem_singleton.mp new
      exact ⟨u, found, same⟩

end Covers

/-- The defined types cover the ones that were seen, each under a name of its own and after what its
definition needs. -/
structure Collected (tag : String) (seen defined : List Ty) : Prop extends Covers seen defined where
  distinct : (defined.map (typedefName tag)).Nodup
  ordered : EachAfter (fun before t => ∀ v ∈ t.parts, ∀ u ∈ carriers v,
    ∃ w ∈ before, w.inC = u.inC) defined

theorem Collected.nil (tag : String) : Collected tag [] [] := ⟨.nil, List.nodup_nil, .nil⟩

theorem Collected.define {tag : String} {seen defined : List Ty}
    (collected : Collected tag seen defined) {t : Ty} (supplied : Supplied seen t)
    (fresh : typedefName tag t ∉ defined.map (typedefName tag)) :
    Collected tag (seen ++ [t]) (defined ++ [t]) where
  toCovers := collected.toCovers.define
  distinct := by
    rw [List.map_append, List.map_singleton, ← List.concat_eq_append]
    exact collected.distinct.concat fresh
  ordered := by
    exact collected.ordered.concat fun v part u listed =>
      collected.covers u (supplied v part u listed)

theorem Collected.skip {tag : String} {seen defined : List Ty}
    (collected : Collected tag seen defined) {t u : Ty} (found : u ∈ defined)
    (same : u.inC = t.inC) :
    Collected tag (seen ++ [t]) defined :=
  { collected with toCovers := collected.toCovers.skip found same }

/-- Defining a list of types, each after its parts, collects all of them. -/
theorem define_collected {tag : String} {seen defined ts out : List Ty}
    (collected : Collected tag seen defined)
    (supplied : EachAfter (fun before t => Supplied (seen ++ before) t) ts)
    (done : define tag defined ts = .ok out) : Collected tag (seen ++ ts) out := by
  induction ts generalizing seen defined with
  | nil =>
    obtain rfl : defined = out := by simpa [Header.define] using done
    simpa using collected
  | cons t ts ih =>
    have here : Supplied seen t := by simpa using supplied [] t ts rfl
    have later : EachAfter (fun before u => Supplied ((seen ++ [t]) ++ before) u) ts := by
      intro before u after split
      simpa using supplied (t :: before) u after (by rw [split]; rfl)
    rw [← List.singleton_append, ← List.append_assoc]
    rw [Header.define] at done
    split at done
    · rename_i none
      have fresh : typedefName tag t ∉ defined.map (typedefName tag) := by
        intro known
        obtain ⟨u, member, same⟩ := List.mem_map.mp known
        exact List.find?_eq_none.mp none u member (by simp [same])
      exact ih (collected.define here fresh) later done
    · rename_i u found
      split at done
      · rename_i same
        exact ih (collected.skip (List.mem_of_find?_eq_some found) same) later done
      · simp at done

/-- The typedefs of a header collect all parts of the declared types that need one. -/
theorem typedefs_collected {tag : String} {items : Items} {ts : List Ty}
    (found : typedefs tag items = .ok ts) :
    Collected tag ((declaredTypes items).flatMap carriers) ts := by
  have done : define tag [] ((declaredTypes items).flatMap carriers) = .ok ts := by
    unfold typedefs at found
    cases outcome : define tag [] ((declaredTypes items).flatMap carriers) with
    | error name => simp [outcome, Except.mapError] at found
    | ok defined => simpa [outcome, Except.mapError] using found
  have supplied : EachAfter Supplied ((declaredTypes items).flatMap carriers) :=
    .flatMap Supplied.grow fun t _ => carriers_supplied t
  simpa using define_collected (Collected.nil tag) (by simpa using supplied) done

/-! ### What declarations mention -/

theorem alias_mem_bases_denote {tag : String} {isConst : Bool} {t : Ty} (owns : t.OwnsReferences)
    {name : String} (mention : .alias name ∈ (denote tag isConst t).bases) :
    ∃ u ∈ carriers t, name = typedefName tag u := by
  have itself : ∀ {t : Ty} {isConst}, isCarrier t = true →
      .alias name ∈ (denote tag isConst t).bases → ∃ u ∈ carriers t, name = typedefName tag u := by
    intro t isConst carrier mention
    refine ⟨t, mem_carriers_iff.mpr ⟨carrier, .refl⟩, ?_⟩
    simpa [denote_carrier tag isConst carrier, CType.bases] using mention
  induction t using Ty.size_induction generalizing isConst with
  | step t ih =>
    have below : ∀ {isConst}, ∀ u ∈ t.parts, .alias name ∈ (denote tag isConst u).bases →
        ∃ w ∈ carriers u, name = typedefName tag w :=
      fun u part => ih u (Ty.size_lt_of_mem_parts part) (owns.part (.of_mem part))
    cases t with
    | primitive p => simp [denote, CType.bases] at mention
    | string m => simp [denote, CType.bases] at mention
    | named other => simp [denote, CType.bases] at mention
    | pointer m pointee =>
      rw [denote, CType.bases] at mention
      exact below pointee List.mem_cons_self mention
    | array element len =>
      rw [denote, CType.bases] at mention
      exact below element List.mem_cons_self mention
    | owned inner => exact itself (isCarrier_owned (owns inner .refl)) mention
    | _ => exact itself rfl mention

theorem struct_mem_bases_denote {tag : String} {isConst : Bool} {t : Ty} {name : String}
    (mention : .struct name ∈ (denote tag isConst t).bases) : (Ty.named name).Part t := by
  induction t using Ty.size_induction generalizing isConst with
  | step t ih =>
    have below : ∀ {isConst}, ∀ u ∈ t.parts, .struct name ∈ (denote tag isConst u).bases →
        (Ty.named name).Part t :=
      fun u part within => .head part (ih u (Ty.size_lt_of_mem_parts part) within)
    cases t with
    | named other =>
      obtain rfl : name = other := by simpa [denote, CType.bases] using mention
      exact .refl
    | pointer m pointee =>
      rw [denote, CType.bases] at mention
      exact below pointee List.mem_cons_self mention
    | array element len =>
      rw [denote, CType.bases] at mention
      exact below element List.mem_cons_self mention
    | _ => simp [denote, CType.bases] at mention

def Base.isPlain : Base → Bool
  | .struct _ => false
  | .alias _ => false
  | _ => true

theorem mem_bases_callback {params : List CType} {result : CType} {b : Base} :
    b ∈ (CType.callback params result).bases ↔ (∃ t ∈ params, b ∈ t.bases) ∨ b ∈ result.bases := by
  rw [CType.callback, CType.bases, CType.bases, CType.basesAll_eq_flatMap, List.mem_append,
    List.mem_flatMap]

theorem mem_bases_denoteResult {tag : String} {returns : Option Ty} {b : Base}
    (mention : b ∈ (denoteResult tag returns).bases) :
    b.isPlain = true ∨ ∃ t ∈ returns.toList, b ∈ (denote tag false t).bases := by
  cases returns with
  | none =>
    obtain rfl : b = .void := by simpa [denoteResult, CType.bases] using mention
    exact .inl rfl
  | some t => exact .inr ⟨t, List.mem_cons_self, mention⟩

theorem isPlain_of_anything {b : Base} (mention : b ∈ CType.anything.bases) : b.isPlain = true := by
  obtain rfl : b = .void := by simpa [CType.anything, CType.bases] using mention
  rfl

theorem mem_bases_deleter {value : CType} {b : Base}
    (mention : b ∈ (deleter value).type.bases) : b.isPlain = true ∨ b ∈ value.bases := by
  rcases mem_bases_callback.mp mention with ⟨t, only, within⟩ | result
  · obtain rfl := List.mem_singleton.mp only
    exact .inr within
  · obtain rfl : b = .void := by simpa [CType.bases] using result
    exact .inl rfl

theorem mem_bases_denoteArgs {tag : String} {args : List Ty} {b : Base}
    (mention : ∃ t ∈ args.map (denote tag false), b ∈ t.bases) :
    ∃ t ∈ args, b ∈ (denote tag false t).bases := by
  obtain ⟨_, member, within⟩ := mention
  obtain ⟨t, arg, rfl⟩ := List.mem_map.mp member
  exact ⟨t, arg, within⟩

theorem mem_bases_pair {name : String} {first second : Member} {b : Base}
    (mention : b ∈ (CDecl.record name [first, second]).bases) :
    b ∈ first.type.bases ∨ b ∈ second.type.bases := by
  simpa [CDecl.bases] using mention

theorem mem_bases_typedefOf {tag : String} {t : Ty} {b : Base}
    (mention : b ∈ (typedefOf tag t).bases) :
    b.isPlain = true ∨ ∃ v ∈ t.parts, ∃ isConst, b ∈ (denote tag isConst v).bases := by
  unfold typedefOf at mention
  split at mention
  · rename_i m element
    rcases mem_bases_pair mention with data | len
    · exact .inr ⟨element, List.mem_cons_self, _, data⟩
    · obtain rfl : b = .primitive .usize := by simpa [CType.bases] using len
      exact .inl rfl
  · rename_i m pointee
    rcases mem_bases_pair mention with data | deleter
    · exact .inr ⟨pointee, List.mem_cons_self, _, data⟩
    · rcases mem_bases_deleter deleter with plain | data
      · exact .inl plain
      · exact .inr ⟨pointee, List.mem_cons_self, _, data⟩
  · rename_i m element
    rcases mem_bases_pair mention with view | deleter
    · exact .inr ⟨_, List.mem_cons_self, false, view⟩
    · rcases mem_bases_deleter deleter with plain | view
      · exact .inl plain
      · exact .inr ⟨_, List.mem_cons_self, false, view⟩
  · rename_i args returns
    rcases mem_bases_callback.mp mention with arguments | result
    · obtain ⟨u, arg, within⟩ := mem_bases_denoteArgs arguments
      exact .inr ⟨u, List.mem_append_left _ arg, false, within⟩
    · exact (mem_bases_denoteResult result).imp_right fun ⟨u, returned, within⟩ =>
        ⟨u, List.mem_append_right _ returned, false, within⟩
  · rename_i args returns
    simp only [CDecl.bases, List.flatMap_cons, List.flatMap_nil, List.append_nil,
      List.mem_append] at mention
    rcases mention with caller | state | deleter
    · rcases mem_bases_callback.mp caller with ⟨u, member, within⟩ | result
      · rcases List.mem_cons.mp member with rfl | argument
        · exact .inl (isPlain_of_anything within)
        · obtain ⟨u, arg, within⟩ := mem_bases_denoteArgs ⟨u, argument, within⟩
          exact .inr ⟨u, List.mem_append_left _ arg, false, within⟩
      · exact (mem_bases_denoteResult result).imp_right fun ⟨u, returned, within⟩ =>
          ⟨u, List.mem_append_right _ returned, false, within⟩
    · exact .inl (isPlain_of_anything state)
    · rcases mem_bases_deleter deleter with plain | state
      · exact .inl plain
      · exact .inl (isPlain_of_anything state)
  · simp [CDecl.bases] at mention

/-! ### The whole header -/

/-- A part of a declared type that needs a typedef. -/
def NeedsTypedef (items : Items) (u : Ty) : Prop :=
  isCarrier u = true ∧ ∃ t ∈ declaredTypes items, u.Part t

theorem mem_flatMap_carriers_iff {items : Items} {u : Ty} :
    u ∈ (declaredTypes items).flatMap carriers ↔ NeedsTypedef items u := by
  simp only [List.mem_flatMap, mem_carriers_iff, NeedsTypedef]
  constructor
  · rintro ⟨t, declared, carrier, part⟩
    exact ⟨carrier, t, declared, part⟩
  · rintro ⟨carrier, t, declared, part⟩
    exact ⟨t, declared, carrier, part⟩

/-- A header in which everything that a declaration mentions is declared before it: a typedef name
by the one typedef of that name, which defines the type that the name stands for, and a struct by an
announcement. -/
structure ClosedHeader (tag : String) (items : Items) (header : List CDecl) : Prop where
  defined : EachAfter (fun before d => ∀ name, .alias name ∈ d.bases →
    ∃ u, NeedsTypedef items u ∧ name = typedefName tag u ∧ typedefOf tag u ∈ before) header
  unique : ∀ d ∈ header, ∀ name, d.defines = some name →
    header.countP (fun e => e.defines = some name) = 1
  faithful : ∀ u, NeedsTypedef items u → typedefOf tag u ∈ header
  announced : EachAfter (fun before d => ∀ name, .struct name ∈ d.bases →
    .forward name ∈ before) header

theorem defines_typedefOf (tag : String) (t : Ty) :
    (typedefOf tag t).defines = some (typedefName tag t) := by
  unfold typedefOf
  split <;> rfl

/-- What the declared types of a description promise once it is accepted. -/
structure Accepted (items : Items) : Prop where
  owns : ∀ t ∈ declaredTypes items, t.OwnsReferences
  named : ∀ t ∈ declaredTypes items, ∀ name, (Ty.named name).Part t →
    name ∈ items.structNames ∨ name ∈ items.abstractNames

theorem accepted_of_arranged {items out : Items} (arranged : items.arranged = .ok out) :
    Accepted out where
  owns t declared :=
    Items.ownsReferences_of_arranged arranged
      (Items.mem_declaredTypes_of_arranged arranged declared)
  named t declared name part := by
    have inside := Ty.inside_of_part part .refl (by simp : ∀ m e, Ty.named name ≠ .slice m e)
    have known := Items.mem_names_of_arranged arranged
      (Items.mem_declaredTypes_of_arranged arranged declared) inside
    rwa [(Items.structNames_perm_of_arranged arranged).mem_iff,
      Items.abstractNames_of_arranged arranged]

theorem NeedsTypedef.owns {items : Items} (accepted : Accepted items) {u : Ty}
    (needed : NeedsTypedef items u) : u.OwnsReferences := by
  obtain ⟨-, t, declared, part⟩ := needed
  exact (accepted.owns t declared).part part

theorem NeedsTypedef.part {items : Items} {t v u : Ty} (needed : NeedsTypedef items t)
    (part : v ∈ t.parts) (listed : u ∈ carriers v) : NeedsTypedef items u := by
  obtain ⟨-, top, declared, within⟩ := needed
  obtain ⟨carrier, below⟩ := mem_carriers_iff.mp listed
  exact ⟨carrier, top, declared, within.trans (.head part below)⟩

theorem typedefOf_eq_of_inC {tag : String} {items : Items} (accepted : Accepted items) {t u : Ty}
    (first : NeedsTypedef items t) (second : NeedsTypedef items u) (same : t.inC = u.inC) :
    typedefOf tag t = typedefOf tag u := by
  rw [← typedefOf_inC tag first.1 (first.owns accepted), same,
    typedefOf_inC tag second.1 (second.owns accepted)]

section Assembly

variable {options : Options} {items : Items} {ts : List Ty}

def announcements (items : Items) : List CDecl :=
  items.abstractStructs.map (fun s => .forward s.name) ++
    items.structs.map fun s => .forward s.name

def uses (options : Options) (items : Items) : List CDecl :=
  items.structs.map (fun s => (Declaration.struct s).inC options) ++
    items.functions.map fun f => (Declaration.function f).inC options

theorem declarations_inC (options : Options) (items : Items) (ts : List Ty) :
    (declarations items ts).map (Declaration.inC options) =
      announcements items ++ ts.map (typedefOf options.resolvedHeaderPrefix) ++
        uses options items := by
  simp [declarations, announcements, uses, Declaration.inC, Function.comp_def]

theorem forward_mem_announcements {name : String}
    (known : name ∈ items.structNames ∨ name ∈ items.abstractNames) :
    .forward name ∈ announcements items := by
  rcases known with struct | abstract
  · obtain ⟨s, member, rfl⟩ := List.mem_map.mp struct
    exact List.mem_append_right _ (List.mem_map.mpr ⟨s, member, rfl⟩)
  · obtain ⟨s, member, rfl⟩ := List.mem_map.mp abstract
    exact List.mem_append_left _ (List.mem_map.mpr ⟨s, member, rfl⟩)

theorem bases_announcements {d : CDecl} (member : d ∈ announcements items) : d.bases = [] := by
  rcases List.mem_append.mp member with abstract | struct
  · obtain ⟨s, -, rfl⟩ := List.mem_map.mp abstract
    rfl
  · obtain ⟨s, -, rfl⟩ := List.mem_map.mp struct
    rfl

theorem mem_bases_uses {d : CDecl} (member : d ∈ uses options items) {b : Base}
    (mention : b ∈ d.bases) :
    b.isPlain = true ∨ (∃ name ∈ items.structNames, b = .struct name) ∨
      ∃ t ∈ declaredTypes items, b ∈ (denote options.resolvedHeaderPrefix false t).bases := by
  rcases List.mem_append.mp member with struct | function
  · obtain ⟨s, inStructs, rfl⟩ := List.mem_map.mp struct
    rcases List.mem_cons.mp mention with rfl | inField
    · exact .inr (.inl ⟨s.name, List.mem_map.mpr ⟨s, inStructs, rfl⟩, rfl⟩)
    · obtain ⟨m, line, within⟩ := List.mem_flatMap.mp inField
      obtain ⟨f, field, rfl⟩ := List.mem_map.mp line
      exact .inr (.inr ⟨f.ty, Items.field_mem_declaredTypes inStructs field, within⟩)
  · obtain ⟨f, inFunctions, rfl⟩ := List.mem_map.mp function
    rcases List.mem_append.mp mention with inParam | inResult
    · obtain ⟨m, line, within⟩ := List.mem_flatMap.mp inParam
      obtain ⟨p, param, rfl⟩ := List.mem_map.mp line
      have declared := Items.signature_mem_declaredTypes inFunctions
        (List.mem_append_left _ (List.mem_map_of_mem param))
      exact .inr (.inr ⟨p.ty, declared, within⟩)
    · rcases mem_bases_denoteResult inResult with plain | ⟨t, result, within⟩
      · exact .inl plain
      · have declared := Items.signature_mem_declaredTypes inFunctions
          (List.mem_append_right _ result)
        exact .inr (.inr ⟨t, declared, within⟩)

variable (accepted : Accepted items)
  (collected : Collected options.resolvedHeaderPrefix ((declaredTypes items).flatMap carriers) ts)

include collected in
theorem Collected.needs {t : Ty} (member : t ∈ ts) : NeedsTypedef items t :=
  mem_flatMap_carriers_iff.mp (collected.known t member)

include accepted collected in
theorem Collected.typedefOf_mem {u : Ty} (needed : NeedsTypedef items u) {before : List Ty}
    (within : before ⊆ ts) (covered : ∃ w ∈ before, w.inC = u.inC) :
    typedefOf options.resolvedHeaderPrefix u ∈
      before.map (typedefOf options.resolvedHeaderPrefix) := by
  obtain ⟨w, member, same⟩ := covered
  exact List.mem_map.mpr
    ⟨w, member, typedefOf_eq_of_inC accepted (collected.needs (within member)) needed same⟩

include accepted collected in
theorem closed_defined :
    EachAfter (fun before d => ∀ name, .alias name ∈ d.bases →
        ∃ u, NeedsTypedef items u ∧ name = typedefName options.resolvedHeaderPrefix u ∧
          typedefOf options.resolvedHeaderPrefix u ∈ before)
      (announcements items ++ ts.map (typedefOf options.resolvedHeaderPrefix) ++
        uses options items) := by
  refine (EachAfter.append (.of_forall ?_) (.map (collected.ordered.mono ?_))).append
    (.of_forall ?_)
  · intro before d member name mention
    simp [bases_announcements member] at mention
  · intro before within t member needs name mention
    rcases mem_bases_typedefOf mention with plain | ⟨v, part, isConst, spelled⟩
    · simp [Base.isPlain] at plain
    · have needed := collected.needs member
      obtain ⟨u, listed, rfl⟩ :=
        alias_mem_bases_denote ((needed.owns accepted).part (.of_mem part)) spelled
      have below := needed.part part listed
      exact ⟨u, below, rfl, List.mem_append_right _
        (collected.typedefOf_mem accepted below within (needs v part u listed))⟩
  · intro before d member name mention
    rcases mem_bases_uses member mention with plain | ⟨_, -, other⟩ | ⟨t, declared, spelled⟩
    · simp [Base.isPlain] at plain
    · simp at other
    · obtain ⟨u, listed, rfl⟩ := alias_mem_bases_denote (accepted.owns t declared) spelled
      obtain ⟨carrier, part⟩ := mem_carriers_iff.mp listed
      have needed : NeedsTypedef items u := ⟨carrier, t, declared, part⟩
      have covered := collected.covers u (mem_flatMap_carriers_iff.mpr needed)
      exact ⟨u, needed, rfl, List.mem_append_left _ (List.mem_append_right _
        (collected.typedefOf_mem accepted needed (List.Subset.refl ts) covered))⟩

include accepted collected in
theorem closed_announced :
    EachAfter (fun before d => ∀ name, .struct name ∈ d.bases → .forward name ∈ before)
      (announcements items ++ ts.map (typedefOf options.resolvedHeaderPrefix) ++
        uses options items) := by
  refine (EachAfter.append (.of_forall ?_) (.map (collected.ordered.mono ?_))).append
    (.of_forall ?_)
  · intro before d member name mention
    simp [bases_announcements member] at mention
  · intro before within t member _ name mention
    rcases mem_bases_typedefOf mention with plain | ⟨v, part, isConst, spelled⟩
    · simp [Base.isPlain] at plain
    · obtain ⟨-, top, declared, below⟩ := collected.needs member
      have named := below.trans (.head part (struct_mem_bases_denote spelled))
      exact List.mem_append_left _
        (forward_mem_announcements (accepted.named top declared name named))
  · intro before d member name mention
    refine List.mem_append_left _ (List.mem_append_left _ (forward_mem_announcements ?_))
    rcases mem_bases_uses member mention with plain | ⟨own, struct, same⟩ | ⟨t, declared, spelled⟩
    · simp [Base.isPlain] at plain
    · obtain rfl : name = own := by simpa using same
      exact .inl struct
    · exact accepted.named t declared name (struct_mem_bases_denote spelled)

theorem defines_announcements {d : CDecl} (member : d ∈ announcements items) :
    d.defines = none := by
  rcases List.mem_append.mp member with abstract | struct
  · obtain ⟨s, -, rfl⟩ := List.mem_map.mp abstract
    rfl
  · obtain ⟨s, -, rfl⟩ := List.mem_map.mp struct
    rfl

theorem defines_uses {d : CDecl} (member : d ∈ uses options items) : d.defines = none := by
  rcases List.mem_append.mp member with struct | function
  · obtain ⟨s, -, rfl⟩ := List.mem_map.mp struct
    rfl
  · obtain ⟨f, -, rfl⟩ := List.mem_map.mp function
    rfl

theorem countP_defines_eq_zero {ds : List CDecl} (none : ∀ d ∈ ds, d.defines = none)
    (name : String) : ds.countP (fun d => d.defines = some name) = 0 := by
  rw [List.countP_eq_zero]
  intro d member
  simp [none d member]

include collected in
theorem closed_unique {d : CDecl}
    (member : d ∈ announcements items ++ ts.map (typedefOf options.resolvedHeaderPrefix) ++
      uses options items) {name : String} (defines : d.defines = some name) :
    (announcements items ++ ts.map (typedefOf options.resolvedHeaderPrefix) ++
      uses options items).countP (fun e => e.defines = some name) = 1 := by
  have known : name ∈ ts.map (typedefName options.resolvedHeaderPrefix) := by
    rcases List.mem_append.mp member with first | use
    · rcases List.mem_append.mp first with announced | typedef
      · simp [defines_announcements announced] at defines
      · obtain ⟨t, stored, rfl⟩ := List.mem_map.mp typedef
        obtain rfl : typedefName options.resolvedHeaderPrefix t = name := by
          simpa [defines_typedefOf] using defines
        exact List.mem_map.mpr ⟨t, stored, rfl⟩
    · simp [defines_uses use] at defines
  have names : (ts.map (typedefOf options.resolvedHeaderPrefix)).countP
      (fun e => e.defines = some name) =
        (ts.map (typedefName options.resolvedHeaderPrefix)).count name := by
    simp [List.countP_map, List.count, Function.comp_def, defines_typedefOf, beq_eq_decide]
  rw [List.countP_append, List.countP_append,
    countP_defines_eq_zero (fun d => defines_announcements) name,
    countP_defines_eq_zero (fun d => defines_uses) name, names,
    List.count_eq_one_of_mem collected.distinct known]

end Assembly

theorem interfaceText_ok {options : Options} {items : Items} {text : String}
    (rendered : (Generate.interfaceText options items).result = .ok text) :
    ∃ ts, typedefs options.resolvedHeaderPrefix items = .ok ts ∧
      text = interfaceText options (declarations items ts) := by
  cases found : typedefs options.resolvedHeaderPrefix items with
  | error e => simp [Generate.interfaceText, found, Except.bind] at rendered
  | ok ts =>
    refine ⟨ts, rfl, ?_⟩
    simpa [Generate.interfaceText, found, Except.bind, eq_comm] using rendered

/-- The interface header of an accepted description spells declarations in which every mention of a
typedef or of a struct comes after what it refers to. -/
theorem interface_typedefs_closed {items out : Items} {options : Options} {text : String}
    (accepted : items.validated.result = .ok out)
    (rendered : (Generate.interfaceText options out).result = .ok text) :
    ∃ ts, text = fileText options ((declarations out ts).map (Declaration.inC options)) ∧
      ClosedHeader options.resolvedHeaderPrefix out
        ((declarations out ts).map (Declaration.inC options)) := by
  have sound := accepted_of_arranged accepted
  obtain ⟨ts, found, rfl⟩ := interfaceText_ok rendered
  have collected := typedefs_collected found
  have carriers : ∀ t, .typedef t ∈ declarations out ts → isCarrier t = true := by
    intro t listed
    have member : t ∈ ts := by simpa [declarations] using listed
    exact (collected.needs member).1
  refine ⟨ts, interfaceText_eq options _ carriers, ?_⟩
  rw [declarations_inC]
  exact {
    defined := closed_defined sound collected
    unique := fun _ member _ defines => closed_unique collected member defines
    faithful := fun u needed => List.mem_append_left _ (List.mem_append_right _
      (collected.typedefOf_mem sound needed (List.Subset.refl ts)
        (collected.covers u (mem_flatMap_carriers_iff.mpr needed))))
    announced := closed_announced sound collected }

def visitor : Items where
  structs := [{ name := "entry", fields := [{ name := "key", ty := .string .const }] }]
  functions := [
    { name := "visit"
      params := [{ name := "each", ty := .closure [.slice .const (.named "entry")] none }]
      returns := some (.owned (.slice .const (.pointer .const (.named "entry")))) }]

def visitorTypedefs : List Ty :=
  [.slice .const (.named "entry"), .closure [.slice .const (.named "entry")] none,
    .slice .mutable (.pointer .const (.named "entry")),
    .owned (.slice .const (.pointer .const (.named "entry")))]

theorem visitor_typedefs_closed :
    visitor.validated.result = .ok visitor ∧
      (Generate.interfaceText { headerPrefix := some "kv" } visitor).result =
        .ok (interfaceText { headerPrefix := some "kv" } (declarations visitor visitorTypedefs)) ∧
      ∃ ts, interfaceText { headerPrefix := some "kv" } (declarations visitor visitorTypedefs) =
          fileText { headerPrefix := some "kv" }
            ((declarations visitor ts).map (Declaration.inC { headerPrefix := some "kv" })) ∧
        ClosedHeader "kv" visitor
          ((declarations visitor ts).map (Declaration.inC { headerPrefix := some "kv" })) := by
  have accepted : visitor.validated.result = .ok visitor := rfl
  have found : typedefs "kv" visitor = .ok visitorTypedefs := rfl
  have rendered : (Generate.interfaceText { headerPrefix := some "kv" } visitor).result =
      .ok (interfaceText { headerPrefix := some "kv" } (declarations visitor visitorTypedefs)) := by
    simp [Generate.interfaceText, Options.resolvedHeaderPrefix, found, Except.bind]
  exact ⟨accepted, rendered, interface_typedefs_closed accepted rendered⟩

end Bindery.Header
