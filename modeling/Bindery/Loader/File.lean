import Bindery.Loader.Documentation
import Bindery.Loader.Expression
import Bindery.Loader.Support
import Bindery.Options
import Bindery.Description.Items

set_option autoImplicit false
set_option relaxedAutoImplicit false

/-!
The loader module: a class for every struct, their layouts once all classes exist, and a function
that loads a library and declares its symbols.
-/

namespace Bindery.Loader

/-- Words of the language and names of the fixed part, none of which can name a class. -/
def reserved : List String :=
  ["False", "None", "True", "and", "as", "assert", "async", "await", "break", "class", "continue",
    "def", "del", "elif", "else", "except", "finally", "for", "from", "global", "if", "import",
    "in", "is", "lambda", "nonlocal", "not", "or", "pass", "raise", "return", "try", "while",
    "with",
    "yield", "ct", "functools", "load", "Slice", "OwnedPtr", "OwnedSlice", "Closure", "_Owner",
    "_declare"]

def classNames (items : Items) : List String :=
  items.abstractStructs.map AbstractStruct.name ++ items.structs.map Struct.name

/-- Refuses the first name that cannot name a class. -/
def checkNames (names : List String) : Except GenerateError Unit :=
  match names.find? fun name => reserved.contains name with
  | some name => .error (.reservedIdentifier name .python)
  | none => .ok ()

/-- Lines of documentation followed by further ones, with a blank line between them. -/
def appendDocs (docs further : List String) : List String :=
  if further.isEmpty then docs
  else if docs.isEmpty then further
  else docs ++ "" :: further

def abstractDocs (s : AbstractStruct) : List String :=
  appendDocs s.docs ["Opaque type; only used behind pointers."]

def fieldDocs (f : Field) : List String :=
  match f.docs with
  | [] => []
  | first :: rest => ("- " ++ f.name ++ ": " ++ first) :: rest.map fun line => "  " ++ line

def structDocs (s : Struct) : List String :=
  match s.fields.flatMap fieldDocs with
  | [] => s.docs
  | lines => appendDocs s.docs ("Fields:" :: lines)

def classText (name : String) (docs : List String) : String :=
  "\n\nclass " ++ name ++ "(ct.Structure):\n" ++
    (if docs.isEmpty then "    pass\n" else docString "    " docs)

def fieldText (f : Field) : String := "    (\"" ++ f.name ++ "\", " ++ expr f.ty ++ "),\n"

def layoutText (s : Struct) : String :=
  "\n\n" ++ s.name ++ "._fields_ = [" ++
    (if s.fields.isEmpty then "" else "\n" ++ String.join (s.fields.map fieldText)) ++ "]\n"

/-- The documentation of a function in that of the loading function. -/
def functionDocs (options : Options) (f : Function) : List String :=
  "" :: ("- " ++ options.symbol f.name) :: f.docs.map fun line => "  " ++ line

def loadDocs (options : Options) (functions : List Function) : List String :=
  let first := "Loads the shared library at `path` and declares its functions."
  if functions.isEmpty then [first]
  else first :: "" :: "Functions:" :: functions.flatMap (functionDocs options)

/-- The declaration of an exported symbol. -/
def declareText (options : Options) (f : Function) : String :=
  "    _declare(lib, \"" ++ options.symbol f.name ++ "\", [" ++ exprs (f.params.map Param.ty) ++
    "], " ++ resultExpr f.returns ++ ")\n"

def loadText (options : Options) (functions : List Function) : String :=
  "\n\ndef load(path):\n" ++ docString "    " (loadDocs options functions) ++
    "    lib = ct.CDLL(path)\n" ++ String.join (functions.map (declareText options)) ++
    "    return lib\n"

def file (options : Options) (items : Items) : String :=
  "# @generated by vellum. Do not edit.\n\"\"\"ctypes bindings for `" ++ options.stem ++
    "`.\"\"\"\n\n" ++ support ++
    String.join (items.abstractStructs.map fun s => classText s.name (abstractDocs s)) ++
    String.join (items.structs.map fun s => classText s.name (structDocs s)) ++
    String.join (items.structs.map layoutText) ++ loadText options items.functions

end Bindery.Loader
