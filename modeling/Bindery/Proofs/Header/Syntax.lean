import Bindery.Header.File

set_option autoImplicit false
set_option relaxedAutoImplicit false

/-!
The interface header as syntax of C. Types and declarations are trees, with every use of a typedef
name and of a struct tag at a place of its own, and one function spells them. The text of the header
is the spelling of such a tree.
-/

namespace Bindery.Header

inductive Base where
  | primitive (p : Primitive)
  | char
  | void
  | struct (name : String)
  | alias (name : String)
  deriving DecidableEq

def Base.text : Base → String
  | .primitive p => primitiveName p
  | .char => "char"
  | .void => "void"
  | .struct name => "struct " ++ name
  | .alias name => name

inductive CType where
  | base (isConst : Bool) (leaf : Base)
  | pointer (isConst : Bool) (target : CType)
  | array (element : CType) (len : UInt64)
  | function (params : List CType) (result : CType)

def parameters (params : List String) : String :=
  if params.isEmpty then "void" else ", ".intercalate params

/-- The declarator of a function, which binds tighter than a pointer. -/
def functionOf (params : String) (declarator : String) : String :=
  match declarator.toList with
  | '*' :: _ => "(" ++ declarator ++ ")(" ++ params ++ ")"
  | _ => declarator ++ "(" ++ params ++ ")"

theorem functionOf_star (params declarator : String) :
    functionOf params ("*" ++ declarator) = "(*" ++ declarator ++ ")(" ++ params ++ ")" := by
  have star : ("*" ++ declarator).toList = '*' :: declarator.toList := by simp
  unfold functionOf
  rw [star]
  simp only [← String.append_assoc]
  rfl

namespace CType

mutual

/-- Declares a declarator of a type, from the inside out. -/
def declare (declarator : String) : CType → String
  | .base isConst leaf => joined (qualified isConst leaf.text) declarator
  | .pointer isConst target => target.declare (pointerTo isConst declarator)
  | .array element len => element.declare (arrayOf len declarator)
  | .function params result =>
    result.declare (functionOf (parameters (abstracts params)) declarator)

def abstracts : List CType → List String
  | [] => []
  | t :: ts => t.declare "" :: abstracts ts

end

mutual

def bases : CType → List Base
  | .base _ leaf => [leaf]
  | .pointer _ target => target.bases
  | .array element _ => element.bases
  | .function params result => basesAll params ++ result.bases

def basesAll : List CType → List Base
  | [] => []
  | t :: ts => t.bases ++ basesAll ts

end

theorem abstracts_eq_map (ts : List CType) : abstracts ts = ts.map (declare "") := by
  induction ts with
  | nil => rfl
  | cons t ts ih => rw [abstracts, ih, List.map_cons]

theorem basesAll_eq_flatMap (ts : List CType) : basesAll ts = ts.flatMap bases := by
  induction ts with
  | nil => rfl
  | cons t ts ih => rw [basesAll, ih, List.flatMap_cons]

def callback (params : List CType) (result : CType) : CType :=
  .pointer false (.function params result)

def anything : CType := .pointer false (.base false .void)

theorem declare_callback (params : List CType) (result : CType) (name : String) :
    (callback params result).declare name =
      result.declare ("(*" ++ name ++ ")(" ++ parameters (params.map (declare "")) ++ ")") := by
  rw [callback, declare, declare, pointerTo, if_neg Bool.false_ne_true, functionOf_star,
    abstracts_eq_map]

end CType

structure Member where
  docs : List String := []
  name : String
  type : CType

def Member.line (m : Member) : String :=
  docBlock "    " m.docs ++ "    " ++ m.type.declare m.name ++ ";\n"

/-- A declaration of C: a struct announced, a typedef of a struct, a typedef of another type, a
struct with its members, or a function. -/
inductive CDecl where
  | forward (name : String)
  | record (name : String) (members : List Member)
  | synonym (name : String) (type : CType)
  | struct (docs : List String) (name : String) (members : List Member)
  | prototype (docs : List String) (symbol : String) (params : List Member) (result : CType)

namespace CDecl

def spell (options : Options) : CDecl → String
  | .forward name => "struct " ++ name ++ ";\n"
  | .record name members =>
    "typedef struct " ++ name ++ " \x7b\n" ++ String.join (members.map Member.line) ++ "\x7d " ++
      name ++ ";" ++ "\n\n"
  | .synonym name type => "typedef " ++ type.declare name ++ ";" ++ "\n\n"
  | .struct docs name members =>
    docBlock "" docs ++ "struct " ++ name ++ " \x7b\n" ++ String.join (members.map Member.line) ++
      "\x7d;\n\n"
  | .prototype docs symbol params result =>
    docBlock "" docs ++ exportMacro options ++ " " ++
      result.declare
        (symbol ++ "(" ++ parameters (params.map fun p => p.type.declare p.name) ++ ")") ++ ";\n\n"

theorem spell_synonym (options : Options) (name : String) (type : CType) :
    (synonym name type).spell options = "typedef " ++ type.declare name ++ ";" ++ "\n\n" :=
  rfl

def isForward : CDecl → Bool
  | .forward _ => true
  | _ => false

def defines : CDecl → Option String
  | .record name _ => some name
  | .synonym name _ => some name
  | _ => none

/-- The bases that a declaration mentions; a struct with its members mentions its own tag. -/
def bases : CDecl → List Base
  | .forward _ => []
  | .record _ members => members.flatMap fun m => m.type.bases
  | .synonym _ type => type.bases
  | .struct _ name members => .struct name :: members.flatMap fun m => m.type.bases
  | .prototype _ _ params result => (params.flatMap fun p => p.type.bases) ++ result.bases

end CDecl

def fileText (options : Options) (header : List CDecl) : String :=
  let forwards := header.takeWhile CDecl.isForward
  let others := header.dropWhile CDecl.isForward
  opening (interfaceGuard options) ++ inclusions ++ macroDefinition options ++ openLinkage ++
    (String.join (forwards.map (CDecl.spell options)) ++ (if forwards.isEmpty then "" else "\n") ++
      String.join (others.map (CDecl.spell options))) ++
    closeLinkage ++ closing (interfaceGuard options)

/-! ### The syntax of a description -/

def denote (tag : String) (isConst : Bool) : Ty → CType
  | .primitive p => .base isConst (.primitive p)
  | .named name => .base isConst (.struct name)
  | .pointer m pointee => .pointer isConst (denote tag (!m.isMutable) pointee)
  | .string m => .pointer isConst (.base (!m.isMutable) .char)
  | .array element len => .array (denote tag isConst element) len
  | t => .base isConst (.alias (typedefName tag t))

def denoteResult (tag : String) : Option Ty → CType
  | none => .base false .void
  | some t => denote tag false t

def deleter (value : CType) : Member :=
  { name := "deleter", type := .callback [value] (.base false .void) }

/-- The definition of the typedef that stands for a type. -/
def typedefOf (tag : String) (t : Ty) : CDecl :=
  match t with
  | .slice m element =>
    .record (typedefName tag t)
      [{ name := "data", type := .pointer false (denote tag (!m.isMutable) element) },
        { name := "len", type := .base false (.primitive .usize) }]
  | .owned (.pointer _ pointee) =>
    let data := CType.pointer false (denote tag false pointee)
    .record (typedefName tag t) [{ name := "data", type := data }, deleter data]
  | .owned (.slice _ element) =>
    let view := CType.base false (.alias (typedefName tag (.slice .mutable element)))
    .record (typedefName tag t) [{ name := "slice", type := view }, deleter view]
  | .function args returns =>
    .synonym (typedefName tag t)
      (.callback (args.map (denote tag false)) (denoteResult tag returns))
  | .closure args returns =>
    .record (typedefName tag t)
      [{ name := "caller",
         type := .callback (.anything :: args.map (denote tag false)) (denoteResult tag returns) },
        { name := "state", type := .anything }, deleter .anything]
  | _ => .record (typedefName tag t) []

/-- Whether a type has a typedef of its own. -/
def isCarrier : Ty → Bool
  | .slice _ _ => true
  | .owned (.pointer _ _) => true
  | .owned (.slice _ _) => true
  | .function _ _ => true
  | .closure _ _ => true
  | _ => false

def fieldMember (tag : String) (f : Field) : Member where
  docs := f.docs
  name := f.name
  type := denote tag false f.ty

def paramMember (tag : String) (p : Param) : Member where
  name := p.name
  type := denote tag false p.ty

def Declaration.inC (options : Options) : Declaration → CDecl
  | .forward name => .forward name
  | .typedef t => typedefOf options.resolvedHeaderPrefix t
  | .struct s =>
    .struct s.docs s.name (s.fields.map (fieldMember options.resolvedHeaderPrefix))
  | .function f =>
    .prototype f.docs (options.symbol f.name)
      (f.params.map (paramMember options.resolvedHeaderPrefix))
      (denoteResult options.resolvedHeaderPrefix f.returns)

theorem stringBase_eq (m : Mutability) : stringBase m = qualified (!m.isMutable) "char" := by
  cases m <;> rfl

theorem declareQualified_eq (tag : String) (isConst : Bool) (declarator : String) (t : Ty) :
    declareQualified tag isConst declarator t = (denote tag isConst t).declare declarator := by
  fun_induction declareQualified tag isConst declarator t with
  | case3 isConst declarator m pointee ih => rw [ih, denote, CType.declare]
  | case4 isConst declarator m =>
    rw [stringBase_eq, denote, CType.declare, CType.declare, Base.text]
  | case5 isConst declarator element len ih => rw [ih, denote, CType.declare]
  | _ => simp_all [denote, CType.declare, Base.text]

theorem declare_eq (tag : String) (t : Ty) (name : String) :
    declare tag t name = (denote tag false t).declare name :=
  declareQualified_eq tag false name t

theorem declareReturn_eq (tag : String) (returns : Option Ty) (declarator : String) :
    declareReturn tag returns declarator = (denoteResult tag returns).declare declarator := by
  cases returns with
  | none => rfl
  | some t => exact declare_eq tag t declarator

theorem argumentTypes_eq (tag : String) (args : List Ty) :
    argumentTypes tag args = (args.map (denote tag false)).map (CType.declare "") := by
  simp [argumentTypes, declare_eq]

theorem line_of_undocumented (name : String) (type : CType) :
    Member.line { name, type } = "    " ++ type.declare name ++ ";\n" := by
  simp [Member.line, docBlock]

theorem recordDefinition_eq (options : Options) (name : String) {members : List Member}
    (plain : ∀ m ∈ members, m.docs = []) :
    recordDefinition name (members.map fun m => m.type.declare m.name) ++ "\n\n" =
      (CDecl.record name members).spell options := by
  have lines : (members.map fun m => m.type.declare m.name).map (fun m => "    " ++ m ++ ";\n") =
      members.map Member.line := by
    rw [List.map_map]
    refine List.map_congr_left fun m member => ?_
    obtain ⟨docs, name, type⟩ := m
    obtain rfl : docs = [] := plain _ member
    exact (line_of_undocumented name type).symm
  exact congrArg (fun lines => "typedef struct " ++ name ++ " \x7b\n" ++ String.join lines ++
    "\x7d " ++ name ++ ";" ++ "\n\n") lines

theorem declare_deleter (value : CType) :
    (deleter value).type.declare (deleter value).name =
      "void (*deleter)(" ++ value.declare "" ++ ")" := by
  rw [deleter, CType.declare_callback]
  simp [CType.declare, joined, qualified, Base.text, parameters, ← String.append_assoc]

theorem definition_eq (options : Options) (tag : String) {t : Ty} (carrier : isCarrier t = true) :
    definition tag t ++ "\n\n" = (typedefOf tag t).spell options := by
  unfold isCarrier at carrier
  split at carrier
  · rename_i m element
    rw [typedefOf, ← recordDefinition_eq options _ (by simp), definition, declare_eq, denote]
    rfl
  · rename_i m pointee
    rw [typedefOf, ← recordDefinition_eq options _ (by simp [deleter])]
    simp only [List.map_cons, List.map_nil, declare_deleter]
    rw [definition, declare_eq, declare_eq, denote]
    rfl
  · rename_i m element
    rw [typedefOf, ← recordDefinition_eq options _ (by simp [deleter])]
    simp only [List.map_cons, List.map_nil, declare_deleter]
    have spaced (view : String) : view ++ " slice" = view ++ " " ++ "slice" := by
      rw [String.append_assoc]
      rfl
    simp [definition, CType.declare, joined, qualified, Base.text, spaced]
  · rename_i args returns
    have params : (if args.isEmpty then "void" else ", ".intercalate (argumentTypes tag args)) =
        parameters ((args.map (denote tag false)).map (CType.declare "")) := by
      simp [parameters, argumentTypes_eq]
    rw [typedefOf, CDecl.spell_synonym, CType.declare_callback]
    simp only [definition, declareReturn_eq, params]
  · rename_i args returns
    rw [typedefOf, ← recordDefinition_eq options _ (by simp [deleter])]
    simp only [List.map_cons, List.map_nil, declare_deleter, CType.declare_callback]
    rw [definition, declareReturn_eq, argumentTypes_eq]
    rfl
  · simp at carrier

theorem fieldText_eq (tag : String) (f : Field) :
    fieldText tag f = (fieldMember tag f).line := by
  rw [fieldText, declare_eq, fieldMember, Member.line]

theorem prototype_eq (tag : String) (f : Function) (symbol : String) :
    prototype tag f symbol =
      (denoteResult tag f.returns).declare
        (symbol ++ "(" ++
          parameters ((f.params.map (paramMember tag)).map fun p => p.type.declare p.name) ++
          ")") := by
  rw [prototype, declareReturn_eq]
  simp [parameterList, parameters, declare_eq, paramMember, Function.comp_def]

theorem render_eq (options : Options) (d : Declaration)
    (carrier : ∀ t, d = .typedef t → isCarrier t = true) :
    d.render options = (d.inC options).spell options := by
  cases d with
  | forward name => rfl
  | typedef t => exact definition_eq options _ (carrier t rfl)
  | struct s =>
    have lines : s.fields.map (fieldText options.resolvedHeaderPrefix) =
        (s.fields.map (fieldMember options.resolvedHeaderPrefix)).map Member.line := by
      rw [List.map_map]
      exact List.map_congr_left fun f _ => fieldText_eq _ f
    exact congrArg (fun lines => docBlock "" s.docs ++ "struct " ++ s.name ++ " \x7b\n" ++
      String.join lines ++ "\x7d;\n\n") lines
  | function f =>
    have text := prototype_eq options.resolvedHeaderPrefix f (options.symbol f.name)
    exact congrArg (fun text => docBlock "" f.docs ++ exportMacro options ++ " " ++ text ++ ";\n\n")
      text

theorem isForward_inC (options : Options) (d : Declaration) :
    (d.inC options).isForward = d.isForward := by
  cases d with
  | typedef t =>
    rw [Declaration.inC, typedefOf.eq_def]
    split <;> rfl
  | _ => rfl

theorem interfaceText_eq (options : Options) (ds : List Declaration)
    (carriers : ∀ t, .typedef t ∈ ds → isCarrier t = true) :
    interfaceText options ds = fileText options (ds.map (Declaration.inC options)) := by
  have forwards : (CDecl.isForward ∘ Declaration.inC options) = Declaration.isForward :=
    funext (isForward_inC options)
  have spelled : ∀ part ⊆ ds, part.map (Declaration.render options) =
      (part.map (Declaration.inC options)).map (CDecl.spell options) := by
    intro part within
    rw [List.map_map]
    refine List.map_congr_left fun d member => render_eq options d ?_
    rintro t rfl
    exact carriers t (within member)
  rw [interfaceText, renderAll, fileText, List.takeWhile_map, List.dropWhile_map, forwards,
    spelled _ (List.takeWhile_subset _), spelled _ (List.dropWhile_subset _)]
  simp

end Bindery.Header
