import Bindery.Proofs.Validity.Order
import Bindery.Validity.Check

set_option autoImplicit false
set_option relaxedAutoImplicit false

/-!
What is wrong with a description, said without the check. A description has spots: its declared
names, each with the names before it in the same scope, and the types it uses, each with the types
around it. A spot has faults of its own, and the check reports exactly the faults of all spots and,
if some struct contains itself, one such struct.
-/

namespace Bindery

inductive Scope where
  | items
  | fields (owner : String)
  | params (function : String)

/-- A spot of a description at which something may be wrong: a declared name with the names declared
before it, or a type inside the type at a site, with the types around it; the nearest come first. -/
inductive Spot where
  | declared (scope : Scope) (earlier : List String) (name : String)
  | use (site : Site) (above : List Ty) (ty : Ty)

def IsLetter (c : Char) : Prop := ('A' ≤ c ∧ c ≤ 'Z') ∨ ('a' ≤ c ∧ c ≤ 'z') ∨ c = '_'

/-- A letter, then letters and digits, but not the underscore alone. -/
def IsName (name : String) : Prop :=
  name ≠ "_" ∧ ∃ first rest, name.toList = first :: rest ∧ IsLetter first ∧
    ∀ c ∈ rest, IsLetter c ∨ ('0' ≤ c ∧ c ≤ '9')

def Ty.isOwned : Ty → Bool
  | .owned _ => true
  | _ => false

/-- The nearest of the types around a spot that is not an owned one is a pointer. -/
def BehindPointer (above : List Ty) : Prop :=
  ∃ m pointee, above.find? (fun t => !t.isOwned) = some (.pointer m pointee)

/-- A type is the type of an argument or of a result. -/
inductive HandedOver : Site → List Ty → Prop where
  | argument (function arg : String) : HandedOver (.argument function arg) []
  | returns (function : String) : HandedOver (.returns function) []
  | function (site : Site) (args : List Ty) (returns : Option Ty) (above : List Ty) :
    HandedOver site (.function args returns :: above)
  | closure (site : Site) (args : List Ty) (returns : Option Ty) (above : List Ty) :
    HandedOver site (.closure args returns :: above)

namespace Items

def structNames (items : Items) : List String := items.structs.map Struct.name

def abstractNames (items : Items) : List String := items.abstractStructs.map AbstractStruct.name

def functionNames (items : Items) : List String := items.functions.map Function.name

/-- What is wrong at a spot by itself. -/
inductive Faulty (items : Items) : Spot → Problem → Prop where
  | invalidIdentifier {scope : Scope} {earlier : List String} {name : String}
    (irregular : ¬ IsName name) :
    Faulty items (.declared scope earlier name) (.invalidIdentifier name)
  | duplicateItem {earlier : List String} {name : String} (again : name ∈ earlier) :
    Faulty items (.declared .items earlier name) (.duplicateItem name)
  | duplicateField {owner : String} {earlier : List String} {name : String}
    (again : name ∈ earlier) :
    Faulty items (.declared (.fields owner) earlier name) (.duplicateField owner name)
  | duplicateArg {function : String} {earlier : List String} {name : String}
    (again : name ∈ earlier) :
    Faulty items (.declared (.params function) earlier name) (.duplicateArg function name)
  | unknownType {site : Site} {above : List Ty} {name : String}
    (noStruct : name ∉ items.structNames) (noAbstract : name ∉ items.abstractNames)
    (noFunction : name ∉ items.functionNames) :
    Faulty items (.use site above (.named name)) (.unknownType name site)
  | notAType {site : Site} {above : List Ty} {name : String}
    (noStruct : name ∉ items.structNames) (noAbstract : name ∉ items.abstractNames)
    (function : name ∈ items.functionNames) :
    Faulty items (.use site above (.named name)) (.notAType name site)
  | unsized {site : Site} {above : List Ty} {name : String}
    (noStruct : name ∉ items.structNames) (abstract : name ∈ items.abstractNames)
    (held : ¬ BehindPointer above) :
    Faulty items (.use site above (.named name)) (.unsized name site)
  | invalidOwned {site : Site} {above : List Ty} {inner : Ty}
    (noPointer : ∀ m pointee, inner ≠ .pointer m pointee)
    (noSlice : ∀ m element, inner ≠ .slice m element) :
    Faulty items (.use site above (.owned inner)) (.invalidOwned site)
  | zeroLengthArray {site : Site} {above : List Ty} {element : Ty} :
    Faulty items (.use site above (.array element 0)) (.zeroLengthArray site)
  | closureArity {site : Site} {above : List Ty} {args : List Ty} {returns : Option Ty}
    (many : 8 < args.length) :
    Faulty items (.use site above (.closure args returns)) (.closureArity site args.length 8)
  | arrayByValue {site : Site} {above : List Ty} {element : Ty} {len : UInt64}
    (handed : HandedOver site above) :
    Faulty items (.use site above (.array element len)) (.arrayByValue site)

end Items

/-- The spots of a type: the type itself and, below it, the spots of the types inside it. -/
def Ty.spots (site : Site) (above : List Ty) (t : Ty) : List Spot :=
  .use site above t :: t.children.attach.flatMap fun ⟨u, _⟩ => u.spots site (t :: above)
termination_by t.size
decreasing_by exact size_lt_of_mem_children ‹_›

theorem Ty.spots_eq (site : Site) (above : List Ty) (t : Ty) :
    t.spots site above =
      .use site above t :: t.children.flatMap fun u => u.spots site (t :: above) := by
  rw [Ty.spots]
  simp [List.flatMap_subtype]

def withEarlier {α : Type} (nameOf : α → String) (earlier : List String) :
    List α → List (List String × α)
  | [] => []
  | a :: rest => (earlier, a) :: withEarlier nameOf (nameOf a :: earlier) rest

namespace Items

/-- The spots of a struct: each field's name, followed by the spots of its type. -/
def fieldSpots (s : Struct) : List Spot :=
  (withEarlier Field.name [] s.fields).flatMap fun (earlier, f) =>
    .declared (.fields s.name) earlier f.name :: f.ty.spots (.field s.name f.name) []

def paramSpots (f : Function) : List Spot :=
  (withEarlier Param.name [] f.params).flatMap fun (earlier, p) =>
    .declared (.params f.name) earlier p.name :: p.ty.spots (.argument f.name p.name) []

def resultSpots (f : Function) : List Spot :=
  f.returns.toList.flatMap fun t => t.spots (.returns f.name) []

def nameSpots (items : Items) : List Spot :=
  (withEarlier id [] (items.structNames ++ items.abstractNames ++ items.functionNames)).map
    fun (earlier, name) => .declared .items earlier name

def spots (items : Items) : List Spot :=
  items.nameSpots ++ items.structs.flatMap fieldSpots ++
    items.functions.flatMap fun f => paramSpots f ++ resultSpots f

end Items

/-! ### What the check looks at, spot by spot -/

namespace Ty

def isSignature : Ty → Bool
  | .function _ _ => true
  | .closure _ _ => true
  | _ => false

/-- Whether the values inside a type are held by value, given whether the type itself is. -/
def holds (byValue : Bool) : Ty → Bool
  | .pointer _ _ => false
  | .owned _ => byValue
  | _ => true

def ownProblems (kindOf? : String → Option ItemKind) (site : Site) (byValue : Bool) :
    Ty → List Problem
  | .named name => nameProblems kindOf? site byValue name
  | .owned inner => if inner.isReference then [] else [.invalidOwned site]
  | .array _ len => if len = 0 then [.zeroLengthArray site] else []
  | .closure args _ =>
    if maxClosureArgs < args.length then [.closureArity site args.length maxClosureArgs] else []
  | _ => []

theorem problemsAll_eq (kindOf? : String → Option ItemKind) (site : Site) (ts : List Ty) :
    problemsAll kindOf? site ts =
      ts.flatMap fun t => passingProblems site t ++ t.problems kindOf? site true := by
  induction ts with
  | nil => rfl
  | cons t ts ih => rw [problemsAll, ih, List.flatMap_cons]

theorem problemsOption_eq (kindOf? : String → Option ItemKind) (site : Site) (t : Option Ty) :
    problemsOption kindOf? site t =
      t.toList.flatMap fun t => passingProblems site t ++ t.problems kindOf? site true := by
  cases t <;> simp [problemsOption]

/-- The problems of a type are its own ones and then those of the types inside it, in order. -/
theorem problems_eq (kindOf? : String → Option ItemKind) (site : Site) (byValue : Bool) (t : Ty) :
    t.problems kindOf? site byValue =
      t.ownProblems kindOf? site byValue ++ t.children.flatMap fun u =>
        (if t.isSignature then passingProblems site u else []) ++
          u.problems kindOf? site (t.holds byValue) := by
  cases t <;>
    simp [problems, ownProblems, children, isSignature, holds, problemsAll_eq, problemsOption_eq]

end Ty

/-- Whether a value is held below the given types and not only pointed to. -/
def heldBelow : List Ty → Bool
  | [] => true
  | t :: above => t.holds (heldBelow above)

def isHandedOver (site : Site) : List Ty → Bool
  | [] =>
    match site with
    | .field _ _ => false
    | .argument _ _ => true
    | .returns _ => true
  | t :: _ => t.isSignature

def Scope.duplicate (name : String) : Scope → Problem
  | .items => .duplicateItem name
  | .fields owner => .duplicateField owner name
  | .params function => .duplicateArg function name

def Spot.problems (items : Items) : Spot → List Problem
  | .declared scope earlier name =>
    identifierProblems name ++ repeatProblems earlier name (scope.duplicate name)
  | .use site above t =>
    (if isHandedOver site above then Ty.passingProblems site t else []) ++
      t.ownProblems items.kindOf? site (heldBelow above)

theorem Ty.problems_spots (items : Items) (site : Site) (above : List Ty) (t : Ty) :
    (if isHandedOver site above then passingProblems site t else []) ++
        t.problems items.kindOf? site (heldBelow above) =
      (t.spots site above).flatMap (Spot.problems items) := by
  -- Strong induction on the size: the types inside are checked below one more type.
  induction bound : t.size using Nat.strongRecOn generalizing t above with
  | _ n ih =>
    subst bound
    have inside : ∀ u ∈ t.children,
        (if t.isSignature then passingProblems site u else []) ++
            u.problems items.kindOf? site (t.holds (heldBelow above)) =
          (u.spots site (t :: above)).flatMap (Spot.problems items) := by
      intro u member
      exact ih u.size (size_lt_of_mem_children member) (t :: above) u rfl
    rw [problems_eq, spots_eq, List.flatMap_cons, List.flatMap_assoc, Spot.problems,
      List.append_assoc, List.flatMap_congr inside]

namespace Items

theorem nameProblems_eq (items : Items) (seen names : List String) :
    nameProblems seen names =
      ((withEarlier id seen names).map fun (earlier, name) =>
        Spot.declared .items earlier name).flatMap (Spot.problems items) := by
  induction names generalizing seen with
  | nil => rfl
  | cons name names ih =>
    rw [nameProblems, ih (name :: seen)]
    rfl

theorem fieldProblems_eq (items : Items) (owner : String) (seen : List String)
    (fields : List Field) :
    items.fieldProblems owner seen fields =
      ((withEarlier Field.name seen fields).flatMap fun (earlier, f) =>
        .declared (.fields owner) earlier f.name :: f.ty.spots (.field owner f.name) []).flatMap
          (Spot.problems items) := by
  induction fields generalizing seen with
  | nil => rfl
  | cons f fields ih =>
    have checked := f.ty.problems_spots items (.field owner f.name) []
    rw [isHandedOver, heldBelow, if_neg Bool.false_ne_true, List.nil_append] at checked
    rw [fieldProblems, ih (f.name :: seen), checked, withEarlier, List.flatMap_cons,
      List.flatMap_append, List.flatMap_cons]
    rfl

theorem paramProblems_eq (items : Items) (function : String) (seen : List String)
    (params : List Param) :
    items.paramProblems function seen params =
      ((withEarlier Param.name seen params).flatMap fun (earlier, p) =>
        .declared (.params function) earlier p.name ::
          p.ty.spots (.argument function p.name) []).flatMap (Spot.problems items) := by
  induction params generalizing seen with
  | nil => rfl
  | cons p params ih =>
    have checked := p.ty.problems_spots items (.argument function p.name) []
    rw [isHandedOver, heldBelow, if_pos rfl] at checked
    rw [paramProblems, ih (p.name :: seen), checked, withEarlier, List.flatMap_cons,
      List.flatMap_append, List.flatMap_cons]
    rfl

theorem resultProblems_eq (items : Items) (f : Function) :
    Ty.problemsOption items.kindOf? (.returns f.name) f.returns =
      (resultSpots f).flatMap (Spot.problems items) := by
  rw [Ty.problemsOption_eq, resultSpots, List.flatMap_assoc]
  refine List.flatMap_congr fun t _ => ?_
  exact t.problems_spots items (.returns f.name) []

theorem declarationProblems_eq (items : Items) :
    items.declarationProblems = items.spots.flatMap (Spot.problems items) := by
  have names : items.names.map Prod.fst =
      items.structNames ++ items.abstractNames ++ items.functionNames := by
    simp [Items.names, structNames, abstractNames, functionNames, Function.comp_def]
  simp only [declarationProblems, spots, List.flatMap_append, List.flatMap_assoc, names,
    nameProblems_eq items, fieldProblems_eq, paramProblems_eq, resultProblems_eq, nameSpots,
    fieldSpots, paramSpots]

end Items

/-! ### The problems of a spot are its faults -/

theorem isUpper_iff (c : Char) : c.isUpper = true ↔ 'A' ≤ c ∧ c ≤ 'Z' := decide_eq_true_iff

theorem isLower_iff (c : Char) : c.isLower = true ↔ 'a' ≤ c ∧ c ≤ 'z' := by
  have both : c.isLower = true ↔ decide ('a' ≤ c) = true ∧ decide (c ≤ 'z') = true :=
    Bool.and_eq_true_iff
  rw [both, decide_eq_true_iff, decide_eq_true_iff]

theorem isDigit_iff (c : Char) : c.isDigit = true ↔ '0' ≤ c ∧ c ≤ '9' := by
  have both : c.isDigit = true ↔ decide ('0' ≤ c) = true ∧ decide (c ≤ '9') = true :=
    Bool.and_eq_true_iff
  rw [both, decide_eq_true_iff, decide_eq_true_iff]

theorem isAsciiStart_iff (c : Char) : Text.Identifier.isAsciiStart c = true ↔ IsLetter c := by
  have letter : c.isAlpha = true ↔ c.isUpper = true ∨ c.isLower = true := Bool.or_eq_true_iff
  rw [Text.Identifier.isAsciiStart, Bool.or_eq_true, letter, isUpper_iff, isLower_iff, beq_iff_eq,
    or_assoc, IsLetter]

theorem isAsciiContinue_iff (c : Char) :
    Text.Identifier.isAsciiContinue c = true ↔ IsLetter c ∨ ('0' ≤ c ∧ c ≤ '9') := by
  have either : c.isAlphanum = true ↔ c.isAlpha = true ∨ c.isDigit = true := Bool.or_eq_true_iff
  rw [← isAsciiStart_iff, ← isDigit_iff, Text.Identifier.isAsciiContinue,
    Text.Identifier.isAsciiStart, Bool.or_eq_true, Bool.or_eq_true, either, or_right_comm]

theorem isIdentifier_iff (name : String) :
    Text.Identifier.isIdentifier name = true ↔ IsName name := by
  rw [Text.Identifier.isIdentifier, IsName]
  cases letters : name.toList with
  | nil => simp
  | cons first rest =>
    simp [isAsciiStart_iff, isAsciiContinue_iff]
    tauto

theorem mem_identifierProblems {p : Problem} {name : String} :
    p ∈ identifierProblems name ↔ ¬ IsName name ∧ p = .invalidIdentifier name := by
  rw [identifierProblems, ← isIdentifier_iff]
  split <;> simp_all

theorem mem_repeatProblems {p problem : Problem} {earlier : List String} {name : String} :
    p ∈ repeatProblems earlier name problem ↔ name ∈ earlier ∧ p = problem := by
  rw [repeatProblems]
  split <;> simp_all

theorem heldBelow_iff (above : List Ty) : heldBelow above = true ↔ ¬ BehindPointer above := by
  induction above with
  | nil => simp [heldBelow, BehindPointer]
  | cons t above ih =>
    cases t with
    | owned inner => simpa [heldBelow, Ty.holds, BehindPointer, Ty.isOwned] using ih
    | _ => simp [heldBelow, Ty.holds, BehindPointer, Ty.isOwned]

theorem isHandedOver_iff (site : Site) (above : List Ty) :
    isHandedOver site above = true ↔ HandedOver site above := by
  constructor
  · intro handed
    cases above with
    | nil =>
      cases site with
      | field owner name => simp [isHandedOver] at handed
      | argument function arg => exact .argument function arg
      | returns function => exact .returns function
    | cons t above =>
      cases t with
      | function args returns => exact .function site args returns above
      | closure args returns => exact .closure site args returns above
      | _ => simp [isHandedOver, Ty.isSignature] at handed
  · intro handed
    cases handed <;> rfl

theorem isReference_eq_false_iff (t : Ty) :
    t.isReference = false ↔
      (∀ m pointee, t ≠ .pointer m pointee) ∧ ∀ m element, t ≠ .slice m element := by
  cases t <;> simp [Ty.isReference]

theorem Items.kindOf?_eq (items : Items) (name : String) :
    items.kindOf? name =
      if name ∈ items.structNames then some .struct
      else if name ∈ items.abstractNames then some .abstractStruct
      else if name ∈ items.functionNames then some .function
      else none := by
  simp [Items.kindOf?, structNames, abstractNames, functionNames]

theorem mem_passing {p : Problem} {site : Site} {above : List Ty} {t : Ty} :
    p ∈ (if isHandedOver site above then Ty.passingProblems site t else []) ↔
      HandedOver site above ∧ (∃ element len, t = .array element len) ∧
        p = .arrayByValue site := by
  rw [← isHandedOver_iff]
  cases t <;> simp [Ty.passingProblems, Ty.isArray]

theorem mem_nameProblems {items : Items} {p : Problem} {site : Site} {above : List Ty}
    {name : String} :
    p ∈ Ty.nameProblems items.kindOf? site (heldBelow above) name ↔
      items.Faulty (.use site above (.named name)) p := by
  constructor
  · intro reported
    rw [Ty.nameProblems, Items.kindOf?_eq] at reported
    by_cases struct : name ∈ items.structNames
    · simp [struct] at reported
    by_cases abstract : name ∈ items.abstractNames
    · simp only [struct, abstract, if_true, if_false, List.mem_ite_nil_right, List.mem_singleton,
        heldBelow_iff] at reported
      obtain ⟨held, rfl⟩ := reported
      exact .unsized struct abstract held
    by_cases function : name ∈ items.functionNames
    · simp only [struct, abstract, function, if_true, if_false, List.mem_singleton] at reported
      subst reported
      exact .notAType struct abstract function
    · simp only [struct, abstract, function, if_false, List.mem_singleton] at reported
      subst reported
      exact .unknownType struct abstract function
  · intro fault
    cases fault <;> simp_all [Ty.nameProblems, Items.kindOf?_eq, heldBelow_iff]

/-- The check reports a problem for a spot exactly if the spot has that fault. -/
theorem Spot.mem_problems_iff {items : Items} {spot : Spot} {p : Problem} :
    p ∈ spot.problems items ↔ items.Faulty spot p := by
  cases spot with
  | declared scope earlier name =>
    rw [Spot.problems, List.mem_append, mem_identifierProblems, mem_repeatProblems]
    constructor
    · rintro (⟨irregular, rfl⟩ | ⟨again, rfl⟩)
      · exact .invalidIdentifier irregular
      · cases scope with
        | items => exact .duplicateItem again
        | fields owner => exact .duplicateField again
        | params function => exact .duplicateArg again
    · intro fault
      cases fault with
      | invalidIdentifier irregular => exact .inl ⟨irregular, rfl⟩
      | duplicateItem again => exact .inr ⟨again, rfl⟩
      | duplicateField again => exact .inr ⟨again, rfl⟩
      | duplicateArg again => exact .inr ⟨again, rfl⟩
  | use site above t =>
    rw [Spot.problems, List.mem_append, mem_passing]
    constructor
    · rintro (⟨handed, ⟨element, len, rfl⟩, rfl⟩ | own)
      · exact .arrayByValue handed
      · cases t with
        | named name => exact mem_nameProblems.mp own
        | owned inner =>
          simp only [Ty.ownProblems, List.mem_ite_nil_left, List.mem_singleton,
            Bool.not_eq_true, isReference_eq_false_iff] at own
          obtain ⟨⟨noPointer, noSlice⟩, rfl⟩ := own
          exact .invalidOwned noPointer noSlice
        | array element len =>
          simp only [Ty.ownProblems, List.mem_ite_nil_right, List.mem_singleton] at own
          obtain ⟨rfl, rfl⟩ := own
          exact .zeroLengthArray
        | closure args returns =>
          simp only [Ty.ownProblems, List.mem_ite_nil_right, List.mem_singleton] at own
          obtain ⟨many, rfl⟩ := own
          exact .closureArity many
        | _ => simp [Ty.ownProblems] at own
    · intro fault
      cases fault with
      | arrayByValue handed => exact .inl ⟨handed, ⟨_, _, rfl⟩, rfl⟩
      | unknownType noStruct noAbstract noFunction =>
        exact .inr (mem_nameProblems.mpr (.unknownType noStruct noAbstract noFunction))
      | notAType noStruct noAbstract function =>
        exact .inr (mem_nameProblems.mpr (.notAType noStruct noAbstract function))
      | unsized noStruct abstract held =>
        exact .inr (mem_nameProblems.mpr (.unsized noStruct abstract held))
      | invalidOwned noPointer noSlice =>
        have wrong := (isReference_eq_false_iff _).mpr ⟨noPointer, noSlice⟩
        exact .inr (by simp [Ty.ownProblems, wrong])
      | zeroLengthArray => exact .inr (by simp [Ty.ownProblems])
      | closureArity many => exact .inr (by simp [Ty.ownProblems, maxClosureArgs, many])

instance (items : Items) (spot : Spot) (p : Problem) : Decidable (items.Faulty spot p) :=
  decidable_of_iff (p ∈ spot.problems items) Spot.mem_problems_iff

theorem Ty.nodup_ownProblems (kindOf? : String → Option ItemKind) (site : Site) (byValue : Bool)
    (t : Ty) : (t.ownProblems kindOf? site byValue).Nodup := by
  cases t with
  | named name =>
    rw [ownProblems, nameProblems]
    cases kindOf? name with
    | none => simp
    | some kind => cases kind <;> cases byValue <;> simp
  | owned inner | array element len | closure args returns =>
    rw [ownProblems]
    split <;> simp
  | _ => simp [ownProblems]

theorem Ty.arrayByValue_notMem_ownProblems (kindOf? : String → Option ItemKind) (site : Site)
    (byValue : Bool) (t : Ty) : .arrayByValue site ∉ t.ownProblems kindOf? site byValue := by
  cases t with
  | named name =>
    rw [ownProblems, nameProblems]
    cases kindOf? name with
    | none => simp
    | some kind => cases kind <;> simp
  | _ => simp [ownProblems]

theorem Spot.nodup_problems (items : Items) (spot : Spot) : (spot.problems items).Nodup := by
  cases spot with
  | declared scope earlier name =>
    rw [Spot.problems, identifierProblems, repeatProblems]
    split <;> split <;> cases scope <;> simp [Scope.duplicate]
  | use site above t =>
    have own := t.nodup_ownProblems items.kindOf? site (heldBelow above)
    have apart := t.arrayByValue_notMem_ownProblems items.kindOf? site (heldBelow above)
    rw [Spot.problems, Ty.passingProblems]
    split
    · split
      · exact List.nodup_cons.mpr ⟨apart, own⟩
      · exact own
    · exact own

theorem Spot.count_problems (items : Items) (spot : Spot) (p : Problem) :
    (spot.problems items).count p = if items.Faulty spot p then 1 else 0 := by
  by_cases fault : items.Faulty spot p
  · rw [if_pos fault]
    exact List.count_eq_one_of_mem (spot.nodup_problems items) (mem_problems_iff.mpr fault)
  · rw [if_neg fault]
    exact List.count_eq_zero_of_not_mem fun reported => fault (mem_problems_iff.mp reported)

def Problem.isCycle : Problem → Bool
  | .cycle _ => true
  | _ => false

theorem Items.Faulty.not_cycle {items : Items} {spot : Spot} {p : Problem}
    (fault : items.Faulty spot p) : p.isCycle = false := by
  cases fault <;> rfl

namespace Items

/-- A list of problems says exactly what is wrong with a description: each problem is listed once
for each spot with that fault, and if some struct contains itself, one such struct is listed. -/
structure IsReport (items : Items) (ps : List Problem) : Prop where
  faults : ∀ p, p.isCycle = false →
    ps.count p = items.spots.countP fun spot => items.Faulty spot p
  cycles : (ps.filter Problem.isCycle = [] ∧ ∀ i, ¬ items.ContainsItself i) ∨
    ∃ i s, items.structs[i]? = some s ∧ items.ContainsItself i ∧
      ps.filter Problem.isCycle = [.cycle s.name]

theorem count_declarationProblems (items : Items) (p : Problem) :
    items.declarationProblems.count p = items.spots.countP fun spot => items.Faulty spot p := by
  rw [declarationProblems_eq]
  induction items.spots with
  | nil => rfl
  | cons spot spots ih =>
    rw [List.flatMap_cons, List.count_append, ih, Spot.count_problems, List.countP_cons,
      Nat.add_comm]
    simp only [decide_eq_true_eq]

theorem not_cycle_of_mem_declarationProblems {items : Items} {p : Problem}
    (reported : p ∈ items.declarationProblems) : p.isCycle = false := by
  rw [declarationProblems_eq, List.mem_flatMap] at reported
  obtain ⟨spot, -, own⟩ := reported
  exact (Spot.mem_problems_iff.mp own).not_cycle

theorem count_cycleProblems {items : Items} {p : Problem} (other : p.isCycle = false) :
    items.cycleProblems.count p = 0 := by
  apply List.count_eq_zero_of_not_mem
  rw [cycleProblems]
  split
  · simp
  · rw [List.mem_singleton]
    rintro rfl
    simp [Problem.isCycle] at other

theorem filter_isCycle_problems (items : Items) :
    items.problems.filter Problem.isCycle = items.cycleProblems := by
  have none : items.declarationProblems.filter Problem.isCycle = [] := by
    rw [List.filter_eq_nil_iff]
    intro p reported
    simp [not_cycle_of_mem_declarationProblems reported]
  rw [problems, List.filter_append, none, List.nil_append, cycleProblems]
  split <;> simp [Problem.isCycle]

theorem isReport_problems (items : Items) : items.IsReport items.problems where
  faults p other := by
    rw [problems, List.count_append, count_cycleProblems other, count_declarationProblems,
      Nat.add_zero]
  cycles := by
    rw [filter_isCycle_problems, cycleProblems]
    cases found : items.layoutOrder with
    | ok order => exact .inl ⟨rfl, not_containsItself_of_layoutOrder found⟩
    | error name =>
      obtain ⟨i, s, placed, rfl, contained⟩ := containsItself_of_layoutOrder_error found
      exact .inr ⟨i, s, placed, contained, rfl⟩

theorem IsReport.problems_eq_nil {items : Items} (clean : items.IsReport []) :
    items.problems = [] := by
  have acyclic : items.problems.filter Problem.isCycle = [] := by
    rcases items.isReport_problems.cycles with ⟨empty, -⟩ | ⟨i, s, -, contained, -⟩
    · exact empty
    · rcases clean.cycles with ⟨-, free⟩ | ⟨_, _, -, -, impossible⟩
      · exact absurd contained (free i)
      · simp at impossible
  rw [List.eq_nil_iff_forall_not_mem]
  intro p reported
  cases kind : p.isCycle with
  | true => exact List.filter_eq_nil_iff.mp acyclic p reported kind
  | false =>
    have counted := items.isReport_problems.faults p kind
    rw [← clean.faults p kind, List.count_nil, List.count_eq_zero] at counted
    exact counted reported

theorem arranged_ok {items out : Items} (accepted : items.arranged = .ok out) :
    items.problems = [] := by
  unfold arranged at accepted
  split at accepted <;> simp_all

theorem arranged_error {items : Items} {ps : List Problem} (refused : items.arranged = .error ps) :
    ps = items.problems ∧ ps ≠ [] := by
  unfold arranged at refused
  split at refused
  · simp at refused
  · simp at refused
  · simp only [Except.error.injEq] at refused
    refine ⟨refused.symm, ?_⟩
    rintro rfl
    cases found : items.layoutOrder <;> simp_all

/-- The check reports exactly what is wrong with a description, and accepts it if that is
nothing. -/
theorem validate_reports_exactly (items : Items) :
    (∀ ps, items.validate.result = .error ps → items.IsReport ps) ∧
      (items.validate.result = .ok () ↔ items.IsReport []) := by
  cases outcome : items.arranged with
  | ok out =>
    have empty := arranged_ok outcome
    have report := items.isReport_problems
    rw [empty] at report
    simp [validate, outcome, Except.map, report]
  | error ps =>
    obtain ⟨rfl, wrong⟩ := arranged_error outcome
    have faulty : ¬ items.IsReport [] := fun clean => wrong clean.problems_eq_nil
    simp [validate, outcome, Except.map, faulty, items.isReport_problems]

end Items

end Bindery
