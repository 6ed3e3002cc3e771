import Bindery.Proofs.Header.Prefixes
import Bindery.Proofs.Outcome

set_option autoImplicit false
set_option relaxedAutoImplicit false

/-!
Names that the interface header declares at file scope. C keeps the tags of structs apart from all
other identifiers, and a tag may be given a body once. Typedefs never share a name, nor do structs
or functions, so a name is declared twice only if a typedef has the name of a struct or the symbol
of a function.
-/

namespace Bindery

namespace Header

namespace CDecl

def body : CDecl → Option String
  | .record name _ => some name
  | .struct _ name _ => some name
  | _ => none

/-- The identifier that a declaration declares, tags apart. -/
def identifier : CDecl → Option String
  | .record name _ => some name
  | .synonym name _ => some name
  | .prototype _ symbol _ _ => some symbol
  | _ => none

end CDecl

def isRecord : Ty → Bool
  | .function _ _ => false
  | _ => true

theorem body_typedefOf (tag : String) (t : Ty) :
    (typedefOf tag t).body = if isRecord t then some (typedefName tag t) else none := by
  unfold typedefOf
  split
  case h_6 slice pointed owned function closure =>
    have record : isRecord t = true := by
      cases t with
      | function args returns => exact absurd rfl (function args returns)
      | _ => rfl
    simp [CDecl.body, record]
  all_goals rfl

theorem identifier_typedefOf (tag : String) (t : Ty) :
    (typedefOf tag t).identifier = some (typedefName tag t) := by
  unfold typedefOf
  split <;> rfl

theorem isRecord_inC {t : Ty} (carrier : isCarrier t = true) : isRecord t.inC = isRecord t := by
  unfold isCarrier at carrier
  split at carrier <;> simp_all [Ty.inC, isRecord]

theorem head_mangle {t : Ty} (carrier : isCarrier t = true) :
    (mangle t).toList.head? ≠ some '_' := by
  unfold isCarrier at carrier
  split at carrier <;> simp_all [mangle]

section Assembly

variable {options : Options} {items : Items} {ts : List Ty}

theorem filterMap_announcements {φ : CDecl → Option String}
    (none : ∀ name, φ (.forward name) = none) :
    (announcements items).filterMap φ = [] := by
  rw [List.filterMap_eq_nil_iff]
  intro d member
  rcases List.mem_append.mp member with abstract | struct
  · obtain ⟨s, -, rfl⟩ := List.mem_map.mp abstract
    exact none s.name
  · obtain ⟨s, -, rfl⟩ := List.mem_map.mp struct
    exact none s.name

theorem bodies_eq :
    (announcements items ++ ts.map (typedefOf options.resolvedHeaderPrefix) ++
        uses options items).filterMap CDecl.body =
      (ts.filter isRecord).map (typedefName options.resolvedHeaderPrefix) ++ items.structNames := by
  have records : (ts.map (typedefOf options.resolvedHeaderPrefix)).filterMap CDecl.body =
      (ts.filter isRecord).map (typedefName options.resolvedHeaderPrefix) := by
    induction ts with
    | nil => rfl
    | cons t ts ih =>
      rw [List.map_cons, List.filterMap_cons, body_typedefOf, List.filter_cons, ih]
      split <;> simp_all
  have structs : (uses options items).filterMap CDecl.body = items.structNames := by
    rw [uses, List.filterMap_append, List.filterMap_map, List.filterMap_map]
    simp [Function.comp_def, Declaration.inC, CDecl.body, Items.structNames]
  rw [List.filterMap_append, List.filterMap_append, filterMap_announcements (fun _ => rfl), records,
    structs, List.nil_append]

theorem identifiers_eq :
    (announcements items ++ ts.map (typedefOf options.resolvedHeaderPrefix) ++
        uses options items).filterMap CDecl.identifier =
      ts.map (typedefName options.resolvedHeaderPrefix) ++
        items.functions.map fun f => options.symbol f.name := by
  have typedefs : (ts.map (typedefOf options.resolvedHeaderPrefix)).filterMap CDecl.identifier =
      ts.map (typedefName options.resolvedHeaderPrefix) := by
    simp [List.filterMap_map, identifier_typedefOf]
  have symbols : (uses options items).filterMap CDecl.identifier =
      items.functions.map fun f => options.symbol f.name := by
    rw [uses, List.filterMap_append, List.filterMap_map, List.filterMap_map]
    simp [Function.comp_def, Declaration.inC, CDecl.identifier]
  rw [List.filterMap_append, List.filterMap_append,
    filterMap_announcements (fun _ => rfl), typedefs, symbols, List.nil_append]

variable
  (collected : Collected options.resolvedHeaderPrefix ((declaredTypes items).flatMap carriers) ts)

include collected

theorem Collected.mem_names_iff {select : Ty → Bool}
    (stable : ∀ t, isCarrier t = true → select t.inC = select t) {name : String} :
    name ∈ (ts.filter select).map (typedefName options.resolvedHeaderPrefix) ↔
      ∃ u, NeedsTypedef items u ∧ select u = true ∧
        typedefName options.resolvedHeaderPrefix u = name := by
  constructor
  · intro member
    obtain ⟨t, kept, rfl⟩ := List.mem_map.mp member
    obtain ⟨stored, selected⟩ := List.mem_filter.mp kept
    exact ⟨t, collected.needs stored, selected, rfl⟩
  · -- The type itself need not be stored, only one that is the same in C.
    rintro ⟨u, needed, selected, rfl⟩
    obtain ⟨t, stored, same⟩ := collected.covers u (mem_flatMap_carriers_iff.mpr needed)
    have selectedToo : select t = true := by
      rw [← stable t (collected.needs stored).1, same, stable u needed.1]
      exact selected
    exact List.mem_map.mpr
      ⟨t, List.mem_filter.mpr ⟨stored, selectedToo⟩, typedefName_of_inC same⟩

theorem nodup_bodies_iff (structs : items.structNames.Nodup) :
    ((announcements items ++ ts.map (typedefOf options.resolvedHeaderPrefix) ++
        uses options items).filterMap CDecl.body).Nodup ↔
      ∀ name ∈ items.structNames, ∀ u, NeedsTypedef items u → isRecord u = true →
        typedefName options.resolvedHeaderPrefix u ≠ name := by
  have records : ((ts.filter isRecord).map (typedefName options.resolvedHeaderPrefix)).Nodup :=
    collected.distinct.sublist (List.filter_sublist.map _)
  rw [bodies_eq, List.nodup_append]
  constructor
  · rintro ⟨-, -, apart⟩ name struct u needed record
    exact apart _ ((collected.mem_names_iff fun _ => isRecord_inC).mpr ⟨u, needed, record, rfl⟩)
      name struct
  · intro apart
    refine ⟨records, structs, fun first typedef second struct same => ?_⟩
    obtain ⟨u, needed, record, named⟩ :=
      (collected.mem_names_iff fun _ => isRecord_inC).mp typedef
    exact apart second struct u needed record (named.trans same)

theorem nodup_identifiers_iff (functions : items.functionNames.Nodup) :
    ((announcements items ++ ts.map (typedefOf options.resolvedHeaderPrefix) ++
        uses options items).filterMap CDecl.identifier).Nodup ↔
      ∀ f ∈ items.functions, ∀ u, NeedsTypedef items u → ¬ Captures options (mangle u) f.name := by
  have symbols : (items.functions.map fun f => options.symbol f.name).Nodup := by
    have fronted := nodup_map_append options.symbolPrefix functions
    rw [Items.functionNames, List.map_map] at fronted
    exact fronted
  have names {name : String} : name ∈ ts.map (typedefName options.resolvedHeaderPrefix) ↔
      ∃ u, NeedsTypedef items u ∧ typedefName options.resolvedHeaderPrefix u = name := by
    simpa using @Collected.mem_names_iff _ _ _ collected (fun _ => true) (fun _ _ => rfl) name
  have captured {u : Ty} (needed : NeedsTypedef items u) {f : Function} :
      typedefName options.resolvedHeaderPrefix u = options.symbol f.name ↔
        Captures options (mangle u) f.name := by
    rw [← symbol_eq_iff_captures (head_mangle needed.1), typedefName, eq_comm]
  rw [identifiers_eq, List.nodup_append]
  constructor
  · rintro ⟨-, -, apart⟩ f member u needed capture
    exact apart _ (names.mpr ⟨u, needed, rfl⟩) _
      (List.mem_map.mpr ⟨f, member, rfl⟩) ((captured needed).mpr capture)
  · intro apart
    refine ⟨collected.distinct, symbols, fun first typedef second symbol same => ?_⟩
    obtain ⟨u, needed, rfl⟩ := names.mp typedef
    obtain ⟨f, member, rfl⟩ := List.mem_map.mp symbol
    exact apart f member u needed ((captured needed).mp same)

end Assembly

end Header

section Generated

open Header

variable {env : Environment} {options : Options} {items : Items} {cache : ManifestCache}
  {text : String}

/-- The generated interface header gives every tag one body exactly if no typedef of a struct has
the name of a declared struct, and declares every other identifier once exactly if no function
captures the name of a typedef. -/
theorem declared_once_iff (made : (generateMain env options items .c cache).2.result = .ok text) :
    ∃ out ts, items.validated.result = .ok out ∧
      text = fileText options ((declarations out ts).map (Declaration.inC options)) ∧
      ((((declarations out ts).map (Declaration.inC options)).filterMap CDecl.body).Nodup ↔
        ∀ name ∈ items.structNames, ∀ u, NeedsTypedef items u → isRecord u = true →
          typedefName options.resolvedHeaderPrefix u ≠ name) ∧
      ((((declarations out ts).map (Declaration.inC options)).filterMap CDecl.identifier).Nodup ↔
        ∀ f ∈ items.functions, ∀ u, NeedsTypedef items u →
          ¬ Captures options (mangle u) f.name) := by
  obtain ⟨out, ts, valid, found, spelled⟩ := generated_header made
  have accepted : items.arranged = .ok out := valid
  have collected := typedefs_collected found
  have structs := (Items.structs_perm_of_arranged accepted).map Struct.name
  have functions := Items.functions_of_arranged accepted
  refine ⟨out, ts, valid, spelled, ?_, ?_⟩
  · have distinct : out.structNames.Nodup :=
      structs.nodup_iff.mpr (Items.nodup_structNames_of_arranged accepted)
    rw [declarations_inC, nodup_bodies_iff collected distinct]
    simp only [Items.needsTypedef_iff accepted, Items.structNames, structs.mem_iff]
  · have distinct : out.functionNames.Nodup := by
      rw [Items.functionNames, functions]
      exact Items.nodup_functionNames_of_arranged accepted
    rw [declarations_inC, nodup_identifiers_iff collected distinct]
    simp only [Items.needsTypedef_iff accepted, functions]

/-- A struct and a function that take the names of typedefs which the header needs. -/
def takenNames : Items where
  structs :=
    [{ name := "vellum_slice_const_u8", fields := [{ name := "x", ty := .primitive .u32 }] }]
  functions := [
    { name := "f", params := [{ name := "b", ty := .slice .const (.primitive .u8) }] },
    { name := "vellum_slice_mut_u8"
      params := [{ name := "b", ty := .slice .mutable (.primitive .u8) }] }]

def takenTypedefs : List Ty :=
  [.slice .const (.primitive .u8), .slice .mutable (.primitive .u8)]

theorem takenNames_declared_twice :
    (generateMain bareEnvironment {} takenNames .c []).2.result =
        .ok (fileText {} ((declarations takenNames takenTypedefs).map (Declaration.inC {}))) ∧
      ((declarations takenNames takenTypedefs).map (Declaration.inC {})).filterMap CDecl.body =
        ["vellum_slice_const_u8", "vellum_slice_mut_u8", "vellum_slice_const_u8"] ∧
      ((declarations takenNames takenTypedefs).map (Declaration.inC {})).filterMap
          CDecl.identifier =
        ["vellum_slice_const_u8", "vellum_slice_mut_u8", "f", "vellum_slice_mut_u8"] := by
  have valid : takenNames.validated.result = .ok takenNames := rfl
  have found : typedefs "vellum" takenNames = .ok takenTypedefs := rfl
  have made : (generateMain bareEnvironment {} takenNames .c []).2.result = .ok _ :=
    generateMain_c_ok rfl valid found
  rw [interfaceText_eq {} _ (by simp [declarations, takenNames, takenTypedefs, isCarrier])] at made
  exact ⟨made, by decide, by decide⟩

theorem visitor_declared_once :
    ∃ text ts, (generateMain bareEnvironment setOff visitor .c []).2.result = .ok text ∧
      text = fileText setOff
        ((declarations visitor ts).map (Declaration.inC setOff)) ∧
      (((declarations visitor ts).map (Declaration.inC setOff)).filterMap
        CDecl.body).Nodup ∧
      (((declarations visitor ts).map (Declaration.inC setOff)).filterMap
        CDecl.identifier).Nodup := by
  have valid : visitor.validated.result = .ok visitor := rfl
  have found : typedefs setOff.resolvedHeaderPrefix visitor = .ok visitorTypedefs := rfl
  have made : (generateMain bareEnvironment setOff visitor .c []).2.result = .ok _ :=
    generateMain_c_ok rfl valid found
  have tags : ∀ u ∈ (declaredTypes visitor).flatMap carriers, ∀ name ∈ visitor.structNames,
      typedefName setOff.resolvedHeaderPrefix u ≠ name := by decide
  have symbols : ∀ u ∈ (declaredTypes visitor).flatMap carriers, ∀ f ∈ visitor.functions,
      setOff.symbol f.name ≠ typedefName setOff.resolvedHeaderPrefix u := by decide
  obtain ⟨out, ts, validToo, spelled, bodies, identifiers⟩ := declared_once_iff made
  obtain rfl : visitor = out := Except.ok.inj (valid.symm.trans validToo)
  refine ⟨_, ts, made, spelled, bodies.mpr ?_, identifiers.mpr ?_⟩
  · intro name struct u needed _
    exact tags u (mem_flatMap_carriers_iff.mpr needed) name struct
  · intro f member u needed captured
    have same := (symbol_eq_iff_captures (head_mangle needed.1)).mpr captured
    exact symbols u (mem_flatMap_carriers_iff.mpr needed) f member same

end Generated

end Bindery
