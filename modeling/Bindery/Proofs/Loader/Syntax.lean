import Bindery.Loader.File

set_option autoImplicit false
set_option relaxedAutoImplicit false

/-!
The loader module as statements. Each statement that gives a type its layout is a tree: a class that
is made for its element types, a list of fields that is assigned to a class, and the symbols that
are declared. The text of the module is the spelling of such statements.
-/

namespace Bindery.Loader

/-- An expression: a name, nothing, a member of the foreign-function library, a call, an array of
values of a type, or further arguments spread out in a call. -/
inductive Expr where
  | name (text : String)
  | absent
  | member (text : String)
  | call (callee : Expr) (args : List Expr)
  | array (element : Expr) (len : Nat)
  | spread (text : String)

namespace Expr

mutual

def spell : Expr → String
  | .name text => text
  | .absent => "None"
  | .member text => "ct." ++ text
  | .call callee args => callee.spell ++ "(" ++ ", ".intercalate (spellAll args) ++ ")"
  | .array element len => "(" ++ element.spell ++ " * " ++ toString len ++ ")"
  | .spread text => "*" ++ text

def spellAll : List Expr → List String
  | [] => []
  | e :: es => e.spell :: spellAll es

end

end Expr

abbrev TypedName := String × Expr

def entry (f : TypedName) : String := "(\"" ++ f.1 ++ "\", " ++ f.2.spell ++ ")"

/-- A function that makes a class for given types: its parameters, what it works out first, the
fields of the class, and the lines of its methods. -/
structure Factory where
  name : String
  params : List String
  further : List String := []
  note : String
  locals : List TypedName
  bases : List String
  fields : List TypedName
  methods : List String

def Factory.opening (f : Factory) : String :=
  "@functools.cache\ndef " ++ f.name ++ "(" ++
    ", ".intercalate (f.params ++ f.further.map fun name => "*" ++ name) ++ "):\n    \"\"\"" ++
    f.note ++ "\"\"\"\n" ++
    String.join (f.locals.map fun l => "    " ++ l.1 ++ " = " ++ l.2.spell ++ "\n") ++
    "\n    class " ++ f.name ++ "(" ++ ", ".intercalate f.bases ++ "):\n        _fields_ = [" ++
    ", ".intercalate (f.fields.map entry) ++ "]\n"

def Factory.closing (f : Factory) : String := "    return " ++ f.name ++ "\n\n\n"

def Factory.spell (f : Factory) : String := f.opening ++ unlines f.methods ++ f.closing

structure Symbol where
  name : String
  args : List Expr
  result : Expr

inductive Statement where
  | other (text : String)
  | factory (f : Factory)
  | opened (name : String) (docs : List String)
  | layout (name : String) (fields : List TypedName)
  | load (docs : List String) (symbols : List Symbol)

def Symbol.spell (s : Symbol) : String :=
  "    _declare(lib, \"" ++ s.name ++ "\", [" ++
    ", ".intercalate (s.args.map Expr.spell) ++ "], " ++
    s.result.spell ++ ")\n"

def Statement.spell : Statement → String
  | .other text => text
  | .factory f => f.spell
  | .opened name docs => classText name docs
  | .layout name fields =>
    "\n\n" ++ name ++ "._fields_ = [" ++
      (if fields.isEmpty then ""
        else "\n" ++ String.join (fields.map fun f => "    " ++ entry f ++ ",\n")) ++ "]\n"
  | .load docs symbols =>
    "\n\ndef load(path):\n" ++ docString "    " docs ++ "    lib = ct.CDLL(path)\n" ++
      String.join (symbols.map Symbol.spell) ++ "    return lib\n"

/-! ### The statements of a description -/

def pointerExpr (target : Expr) : Expr := .call (.member "POINTER") [target]

def callbackExpr (result : Expr) (args : List Expr) : Expr :=
  .call (.member "CFUNCTYPE") (result :: args)

def primitiveMember : Primitive → String
  | .bool => "c_bool"
  | .i8 => "c_int8"
  | .i16 => "c_int16"
  | .i32 => "c_int32"
  | .i64 => "c_int64"
  | .isize => "c_ssize_t"
  | .u8 => "c_uint8"
  | .u16 => "c_uint16"
  | .u32 => "c_uint32"
  | .u64 => "c_uint64"
  | .usize => "c_size_t"
  | .f32 => "c_float"
  | .f64 => "c_double"

mutual

def denote : Ty → Expr
  | .primitive p => .member (primitiveMember p)
  | .named name => .name name
  | .pointer _ pointee => pointerExpr (denote pointee)
  | .string _ => .member "c_char_p"
  | .slice _ element => .call (.name "Slice") [denote element]
  | .owned (.pointer _ pointee) => .call (.name "OwnedPtr") [denote pointee]
  | .owned (.slice _ element) => .call (.name "OwnedSlice") [denote element]
  | .owned other => denote other
  | .function args returns => callbackExpr (denoteResult returns) (denoteAll args)
  | .closure args returns => .call (.name "Closure") (denoteResult returns :: denoteAll args)
  | .array element len => .array (denote element) len.toNat

def denoteResult : Option Ty → Expr
  | none => .absent
  | some t => denote t

def denoteAll : List Ty → List Expr
  | [] => []
  | t :: ts => denote t :: denoteAll ts

end

theorem denoteAll_eq_map (ts : List Ty) : denoteAll ts = ts.map denote := by
  induction ts with
  | nil => rfl
  | cons t ts ih => rw [denoteAll, ih, List.map_cons]

def sliceClass : Factory where
  name := "Slice"
  params := ["element"]
  note := "A borrowed `\x7bdata, len\x7d` view of `element` values."
  locals := [("pointer", pointerExpr (.name "element"))]
  bases := ["ct.Structure"]
  fields := [("data", .name "pointer"), ("len", .member "c_size_t")]
  methods := sliceMethods

def ownedPtrClass : Factory where
  name := "OwnedPtr"
  params := ["element"]
  note := "One `element` and the deleter that frees it."
  locals := [("pointer", pointerExpr (.name "element"))]
  bases := ["_Owner", "ct.Structure"]
  fields := [("data", .name "pointer"), ("deleter", callbackExpr .absent [.name "pointer"])]
  methods := ownedPtrMethods

def ownedSliceClass : Factory where
  name := "OwnedSlice"
  params := ["element"]
  note := "A block of `element` values and the deleter that frees it."
  locals := [("view", .call (.name "Slice") [.name "element"])]
  bases := ["_Owner", "ct.Structure"]
  fields := [("slice", .name "view"), ("deleter", callbackExpr .absent [.name "view"])]
  methods := ownedSliceMethods

def closureClass : Factory where
  name := "Closure"
  params := ["restype"]
  further := ["argtypes"]
  note := "A `\x7bcaller, state, deleter\x7d` callable."
  locals :=
    [("caller", callbackExpr (.name "restype") [.member "c_void_p", .spread "argtypes"]),
      ("deleter", callbackExpr .absent [.member "c_void_p"])]
  bases := ["_Owner", "ct.Structure"]
  fields :=
    [("caller", .name "caller"), ("state", .member "c_void_p"), ("deleter", .name "deleter")]
  methods := closureMethods

def supportStatements : List Statement :=
  [.other importLines, .other ownerClass, .factory sliceClass, .factory ownedPtrClass,
    .factory ownedSliceClass, .factory closureClass, .other declareFunction]

def typedNames (s : Struct) : List TypedName := s.fields.map fun f => (f.name, denote f.ty)

def symbolOf (options : Options) (f : Function) : Symbol where
  name := options.symbol f.name
  args := f.params.map fun p => denote p.ty
  result := denoteResult f.returns

/-- The statements of the loader module, after the lines that say what it is. -/
def statements (options : Options) (items : Items) : List Statement :=
  supportStatements ++ items.abstractStructs.map (fun s => .opened s.name (abstractDocs s)) ++
    items.structs.map (fun s => .opened s.name (structDocs s)) ++
    items.structs.map (fun s => .layout s.name (typedNames s)) ++
    [.load (loadDocs options items.functions) (items.functions.map (symbolOf options))]

def moduleText (options : Options) (contents : List Statement) : String :=
  "# @generated by vellum. Do not edit.\n\"\"\"ctypes bindings for `" ++ options.stem ++
    "`.\"\"\"\n\n" ++ String.join (contents.map Statement.spell)

theorem spell_primitive (p : Primitive) :
    (Expr.member (primitiveMember p)).spell = primitiveExpr p := by
  cases p <;> rfl

theorem unlines_append (lines more : List String) :
    unlines (lines ++ more) = unlines lines ++ unlines more := by
  rw [unlines, List.map_append, String.join_append]
  rfl

theorem Factory.spell_eq {f : Factory} {first last : List String}
    (opens : f.opening = unlines first)
    (closes : f.closing = unlines last) : f.spell = unlines (first ++ f.methods ++ last) := by
  rw [Factory.spell, opens, closes, unlines_append, unlines_append]

theorem spell_sliceClass : sliceClass.spell = sliceFactory :=
  Factory.spell_eq (by decide +kernel) (by decide +kernel)

theorem spell_ownedPtrClass : ownedPtrClass.spell = ownedPtrFactory :=
  Factory.spell_eq (by decide +kernel) (by decide +kernel)

theorem spell_ownedSliceClass : ownedSliceClass.spell = ownedSliceFactory :=
  Factory.spell_eq (by decide +kernel) (by decide +kernel)

theorem spell_closureClass : closureClass.spell = closureFactory :=
  Factory.spell_eq (by decide +kernel) (by decide +kernel)

theorem spell_supportStatements :
    String.join (supportStatements.map Statement.spell) = support := by
  have spelled : supportStatements.map Statement.spell =
      [importLines, ownerClass, sliceFactory, ownedPtrFactory, ownedSliceFactory, closureFactory,
        declareFunction] := by
    rw [← spell_sliceClass, ← spell_ownedPtrClass, ← spell_ownedSliceClass, ← spell_closureClass]
    rfl
  have joined (a b c d e f g : String) :
      String.join [a, b, c, d, e, f, g] = a ++ b ++ c ++ d ++ e ++ f ++ g := by
    simp only [String.join_cons, String.join_nil, String.append_empty, String.append_assoc]
  exact (congrArg String.join spelled).trans (joined _ _ _ _ _ _ _)

theorem intercalate_cons (first : String) (rest : List String) :
    ", ".intercalate (first :: rest) =
      first ++ String.join (rest.map fun text => ", " ++ text) := by
  induction rest generalizing first with
  | nil => simp
  | cons second rest ih =>
    rw [String.intercalate_cons_cons, ih]
    simp [String.append_assoc]

theorem spell_call_one (callee arg : Expr) :
    (Expr.call callee [arg]).spell = callee.spell ++ "(" ++ arg.spell ++ ")" := by
  rw [Expr.spell, Expr.spellAll, Expr.spellAll, String.intercalate_singleton]

theorem furtherExprs_eq {ts : List Ty} (spelled : ∀ t ∈ ts, (denote t).spell = expr t) :
    furtherExprs ts =
      String.join ((Expr.spellAll (denoteAll ts)).map fun text => ", " ++ text) := by
  induction ts with
  | nil => rfl
  | cons t ts ih =>
    rw [furtherExprs, ih fun u member => spelled u (List.mem_cons_of_mem _ member), denoteAll,
      Expr.spellAll, spelled t List.mem_cons_self, List.map_cons, String.join_cons]

theorem spell_denoteResult {r : Option Ty} (spelled : ∀ t ∈ r.toList, (denote t).spell = expr t) :
    (denoteResult r).spell = resultExpr r := by
  cases r with
  | none => rfl
  | some t => exact spelled t List.mem_cons_self

theorem spell_call_signature (callee : Expr) {args : List Ty} {r : Option Ty}
    (spelled : ∀ t ∈ args ++ r.toList, (denote t).spell = expr t) :
    (Expr.call callee (denoteResult r :: denoteAll args)).spell =
      callee.spell ++ "(" ++ resultExpr r ++ furtherExprs args ++ ")" := by
  have arguments := furtherExprs_eq fun t member => spelled t (List.mem_append_left _ member)
  have result := spell_denoteResult fun t member => spelled t (List.mem_append_right _ member)
  rw [Expr.spell, Expr.spellAll, intercalate_cons, ← arguments, result,
    ← @String.append_assoc (callee.spell ++ "(")]

theorem spell_denote (t : Ty) : (denote t).spell = expr t := by
  induction t using Ty.size_induction with
  | step t ih =>
    have inside : ∀ u ∈ t.children, (denote u).spell = expr u := fun u child =>
      ih u (Ty.size_lt_of_mem_children child)
    cases t with
    | primitive p => exact spell_primitive p
    | named name => rfl
    | string m => rfl
    | pointer m pointee =>
      exact (spell_call_one (.member "POINTER") _).trans
        (congrArg (fun text => "ct.POINTER(" ++ text ++ ")") (inside pointee List.mem_cons_self))
    | slice m element =>
      exact (spell_call_one (.name "Slice") _).trans
        (congrArg (fun text => "Slice(" ++ text ++ ")") (inside element List.mem_cons_self))
    | array element len =>
      rw [denote, Expr.spell, inside element List.mem_cons_self]
      rfl
    | function args returns => exact spell_call_signature (.member "CFUNCTYPE") inside
    | closure args returns => exact spell_call_signature (.name "Closure") inside
    | owned inner =>
      have content := inside inner List.mem_cons_self
      cases inner with
      | pointer m pointee =>
        have target := ih pointee (Ty.size_lt_of_owned List.mem_cons_self)
        exact (spell_call_one (.name "OwnedPtr") _).trans
          (congrArg (fun text => "OwnedPtr(" ++ text ++ ")") target)
      | slice m element =>
        have target := ih element (Ty.size_lt_of_owned List.mem_cons_self)
        exact (spell_call_one (.name "OwnedSlice") _).trans
          (congrArg (fun text => "OwnedSlice(" ++ text ++ ")") target)
      | _ => exact content

/-! ### The text of the module -/

theorem line_eq (f : Field) : "    " ++ entry (f.name, denote f.ty) ++ ",\n" = fieldText f := by
  have grouped (a b c d e g h : String) :
      a ++ (b ++ c ++ d ++ e ++ g) ++ h = a ++ b ++ c ++ d ++ e ++ (g ++ h) := by
    simp only [String.append_assoc]
  have text : "    " ++ entry (f.name, denote f.ty) ++ ",\n" =
      "    (\"" ++ f.name ++ "\", " ++ (denote f.ty).spell ++ "),\n" :=
    grouped "    " "(\"" f.name "\", " (denote f.ty).spell ")" ",\n"
  exact text.trans
    (congrArg (fun type => "    (\"" ++ f.name ++ "\", " ++ type ++ "),\n") (spell_denote f.ty))

theorem spell_layout (s : Struct) :
    (Statement.layout s.name (typedNames s)).spell = layoutText s := by
  have lines : (typedNames s).map (fun f => "    " ++ entry f ++ ",\n") =
      s.fields.map fieldText := by
    rw [typedNames, List.map_map]
    exact List.map_congr_left fun f _ => line_eq f
  have empty : (typedNames s).isEmpty = s.fields.isEmpty := List.isEmpty_map
  exact congr (congrArg (fun (none : Bool) lines => "\n\n" ++ s.name ++ "._fields_ = [" ++
    (if none then "" else "\n" ++ String.join lines) ++ "]\n") empty) lines

theorem spell_symbol (options : Options) (f : Function) :
    (symbolOf options f).spell = declareText options f := by
  have arguments : (f.params.map fun p => denote p.ty).map Expr.spell =
      (f.params.map Param.ty).map expr := by
    rw [List.map_map, List.map_map]
    exact List.map_congr_left fun p _ => spell_denote p.ty
  have result := spell_denoteResult fun t (_ : t ∈ f.returns.toList) => spell_denote t
  exact congr (congrArg (fun args result => "    _declare(lib, \"" ++ options.symbol f.name ++
    "\", [" ++ ", ".intercalate args ++ "], " ++ result ++ ")\n") arguments) result

theorem spell_load (options : Options) (functions : List Function) :
    (Statement.load (loadDocs options functions) (functions.map (symbolOf options))).spell =
      loadText options functions := by
  have symbols : (functions.map (symbolOf options)).map Symbol.spell =
      functions.map (declareText options) := by
    rw [List.map_map]
    exact List.map_congr_left fun f _ => spell_symbol options f
  exact congrArg (fun symbols => "\n\ndef load(path):\n" ++
    docString "    " (loadDocs options functions) ++ "    lib = ct.CDLL(path)\n" ++
    String.join symbols ++ "    return lib\n") symbols

theorem spell_statements (options : Options) (items : Items) :
    String.join ((statements options items).map Statement.spell) =
      support ++
        String.join (items.abstractStructs.map fun s => classText s.name (abstractDocs s)) ++
        String.join (items.structs.map fun s => classText s.name (structDocs s)) ++
        String.join (items.structs.map layoutText) ++ loadText options items.functions := by
  have layouts : (items.structs.map fun s => Statement.layout s.name (typedNames s)).map
      Statement.spell = items.structs.map layoutText := by
    rw [List.map_map]
    exact List.map_congr_left fun s _ => spell_layout s
  have last : String.join ([Statement.load (loadDocs options items.functions)
      (items.functions.map (symbolOf options))].map Statement.spell) =
        loadText options items.functions := by
    rw [List.map_singleton, String.join_cons, String.join_nil, String.append_empty, spell_load]
  rw [statements, List.map_append, List.map_append, List.map_append, List.map_append,
    String.join_append, String.join_append, String.join_append, String.join_append,
    spell_supportStatements, layouts, last, List.map_map, List.map_map]
  rfl

theorem file_eq (options : Options) (items : Items) :
    file options items = moduleText options (statements options items) := by
  have grouped (a b c d e f : String) :
      a ++ b ++ c ++ d ++ e ++ f = a ++ (b ++ c ++ d ++ e ++ f) := by
    simp only [String.append_assoc]
  exact (grouped _ _ _ _ _ _).trans (congrArg (_ ++ ·) (spell_statements options items).symm)

end Bindery.Loader
