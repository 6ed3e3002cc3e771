import Bindery.Text.Identifier
import Bindery.Validity.LayoutOrder
import Bindery.Validity.Problem

set_option autoImplicit false
set_option relaxedAutoImplicit false

/-!
Checking descriptions. Problems are listed in the order of the declarations they belong to: first
the declared names, then the fields of the structs, then the parameters and results of the
functions, and last a struct that contains itself.
-/

namespace Bindery

def maxClosureArgs : Nat := 8

namespace Ty

/-- Whether a type is a pointer or a slice, the types that can be owned. -/
def isReference : Ty → Bool
  | .pointer _ _ => true
  | .slice _ _ => true
  | _ => false

def isArray : Ty → Bool
  | .array _ _ => true
  | _ => false

def nameProblems (kindOf? : String → Option ItemKind) (site : Site) (byValue : Bool)
    (name : String) : List Problem :=
  match kindOf? name with
  | none => [.unknownType name site]
  | some .function => [.notAType name site]
  | some .abstractStruct => if byValue then [.unsized name site] else []
  | some .struct => []

/-- An array cannot be handed to a function or returned by one. -/
def passingProblems (site : Site) (t : Ty) : List Problem :=
  if t.isArray then [.arrayByValue site] else []

mutual

/-- The problems of a type; `byValue` tells whether a value of it is held here and not only pointed
to. -/
def problems (kindOf? : String → Option ItemKind) (site : Site) :
    (byValue : Bool) → Ty → List Problem
  | _, .primitive _ => []
  | _, .string _ => []
  | byValue, .named name => nameProblems kindOf? site byValue name
  | _, .pointer _ pointee => pointee.problems kindOf? site false
  | _, .slice _ element => element.problems kindOf? site true
  | byValue, .owned inner =>
    (if inner.isReference then [] else [.invalidOwned site]) ++ inner.problems kindOf? site byValue
  | _, .array element len =>
    (if len = 0 then [.zeroLengthArray site] else []) ++ element.problems kindOf? site true
  | _, .function args returns =>
    problemsAll kindOf? site args ++ problemsOption kindOf? site returns
  | _, .closure args returns =>
    (if maxClosureArgs < args.length then [.closureArity site args.length maxClosureArgs]
      else []) ++
      (problemsAll kindOf? site args ++ problemsOption kindOf? site returns)

def problemsAll (kindOf? : String → Option ItemKind) (site : Site) : List Ty → List Problem
  | [] => []
  | t :: ts =>
    passingProblems site t ++ t.problems kindOf? site true ++ problemsAll kindOf? site ts

def problemsOption (kindOf? : String → Option ItemKind) (site : Site) : Option Ty → List Problem
  | none => []
  | some t => passingProblems site t ++ t.problems kindOf? site true

end

end Ty

def identifierProblems (name : String) : List Problem :=
  if Text.Identifier.isIdentifier name then [] else [.invalidIdentifier name]

/-- The problem of a name that was declared before. -/
def repeatProblems (seen : List String) (name : String) (problem : Problem) : List Problem :=
  if seen.contains name then [problem] else []

namespace Items

def nameProblems (seen : List String) : List String → List Problem
  | [] => []
  | name :: names =>
    identifierProblems name ++ repeatProblems seen name (.duplicateItem name) ++
      nameProblems (name :: seen) names

def fieldProblems (items : Items) (owner : String) (seen : List String) :
    List Field → List Problem
  | [] => []
  | f :: fields =>
    identifierProblems f.name ++ repeatProblems seen f.name (.duplicateField owner f.name) ++
      f.ty.problems items.kindOf? (.field owner f.name) true ++
      fieldProblems items owner (f.name :: seen) fields

def paramProblems (items : Items) (function : String) (seen : List String) :
    List Param → List Problem
  | [] => []
  | p :: params =>
    let site := Site.argument function p.name
    identifierProblems p.name ++ repeatProblems seen p.name (.duplicateArg function p.name) ++
      (Ty.passingProblems site p.ty ++ p.ty.problems items.kindOf? site true) ++
      paramProblems items function (p.name :: seen) params

def declarationProblems (items : Items) : List Problem :=
  nameProblems [] (items.names.map Prod.fst) ++
    items.structs.flatMap (fun s => items.fieldProblems s.name [] s.fields) ++
    items.functions.flatMap fun f =>
      items.paramProblems f.name [] f.params ++
        Ty.problemsOption items.kindOf? (.returns f.name) f.returns

/-- The problem of a struct that contains itself, if there is one. -/
def cycleProblems (items : Items) : List Problem :=
  match items.layoutOrder with
  | .ok _ => []
  | .error name => [.cycle name]

def problems (items : Items) : List Problem :=
  items.declarationProblems ++ items.cycleProblems

def arrangeBy (items : Items) (order : List Nat) : Items :=
  { items with structs := order.filterMap fun i => items.structs[i]? }

/-- The description with its structs in layout order, if it has no problems. -/
def arranged (items : Items) : Except (List Problem) Items :=
  match items.problems, items.layoutOrder with
  | [], .ok order => .ok (items.arrangeBy order)
  | [], .error _ => .ok items
  | problems, _ => .error problems

def describeOrder (order : List Nat) : String :=
  "[" ++ ", ".intercalate (order.map toString) ++ "]"

/-- The entries that finding the layout order writes. -/
def orderEntries (items : Items) : List Entry :=
  match items.layoutOrder with
  | .ok order => [⟨.trace, "struct order: " ++ describeOrder order⟩]
  | .error _ => []

def checkEntries (items : Items) : List Entry :=
  items.declarationProblems.map Problem.entry ++ items.orderEntries ++
    items.cycleProblems.map Problem.entry ++
    [⟨.debug,
      "validated " ++ toString items.structs.length ++ " structs, " ++
        toString items.abstractStructs.length ++ " abstract structs, " ++
        toString items.functions.length ++ " functions: " ++
        toString items.problems.length ++ " problem(s)"⟩]

def validate (items : Items) : Run (List Problem) Unit :=
  ⟨items.checkEntries, items.arranged.map fun _ => ()⟩

def validated (items : Items) : Run (List Problem) Items :=
  ⟨items.checkEntries, items.arranged⟩

end Items

end Bindery
