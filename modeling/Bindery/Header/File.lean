import Bindery.Header.Documentation
import Bindery.Header.Typedef
import Bindery.Options

set_option autoImplicit false
set_option relaxedAutoImplicit false

/-!
The two headers: one that declares the interface, and one for a library that implements it in C.
-/

namespace Bindery.Header

/-- A declaration of the interface header. -/
inductive Declaration where
  | forward (name : String)
  | typedef (t : Ty)
  | struct (s : Struct)
  | function (f : Function)
  deriving DecidableEq

/-- The declarations of the interface header with the given typedefs, in the order in which they are
written. -/
def declarations (items : Items) (typedefs : List Ty) : List Declaration :=
  items.abstractStructs.map (fun s => .forward s.name) ++
    items.structs.map (fun s => .forward s.name) ++ typedefs.map .typedef ++
    items.structs.map .struct ++ items.functions.map .function

def capitals (text : String) : String := String.ofList (text.toList.map Char.toUpper)

/-- The name that keeps a header from being read twice. -/
def guardName (stem : String) : String :=
  String.ofList (stem.toList.map fun c => if c.isAlphanum then c.toUpper else '_')

/-- What the macros of the headers begin with. -/
def macroTag (options : Options) : String := capitals options.resolvedHeaderPrefix

/-- The macro in front of every exported function. -/
def exportMacro (options : Options) : String := macroTag options ++ "_ABI"

def notice : String := "/* @generated by vellum. Do not edit. */\n"

def opening (guard : String) : String :=
  notice ++ "#ifndef " ++ guard ++ "\n#define " ++ guard ++ "\n\n"

def closing (guard : String) : String := "\n#endif /* " ++ guard ++ " */\n"

/-- Starts the declarations that C++ must treat as C. -/
def openLinkage : String := "#ifdef __cplusplus\nextern \"C\" \x7b\n#endif\n\n"

def closeLinkage : String := "#ifdef __cplusplus\n\x7d\n#endif\n"

def inclusions : String := "#include <stdbool.h>\n#include <stddef.h>\n#include <stdint.h>\n\n"

def macroDefinition (options : Options) : String :=
  let tag := macroTag options
  let abi := exportMacro options
  "#ifndef " ++ abi ++ "\n" ++
    "#  if !defined(" ++ tag ++ "_SHARED)\n" ++
    "#    define " ++ abi ++ "\n" ++
    "#  elif defined(_WIN32) || defined(__CYGWIN__)\n" ++
    "#    if defined(" ++ tag ++ "_EXPORTS)\n" ++
    "#      define " ++ abi ++ " __declspec(dllexport)\n" ++
    "#    else\n" ++
    "#      define " ++ abi ++ " __declspec(dllimport)\n" ++
    "#    endif\n" ++
    "#  else\n" ++
    "#    define " ++ abi ++ " __attribute__((visibility(\"default\")))\n" ++
    "#  endif\n" ++
    "#endif\n\n"

def fieldText (tag : String) (f : Field) : String :=
  docBlock "    " f.docs ++ "    " ++ declare tag f.ty f.name ++ ";\n"

def Declaration.render (options : Options) : Declaration → String
  | .forward name => "struct " ++ name ++ ";\n"
  | .typedef t => definition options.resolvedHeaderPrefix t ++ "\n\n"
  | .struct s =>
    docBlock "" s.docs ++ "struct " ++ s.name ++ " \x7b\n" ++
      String.join (s.fields.map (fieldText options.resolvedHeaderPrefix)) ++ "\x7d;\n\n"
  | .function f =>
    docBlock "" f.docs ++ exportMacro options ++ " " ++
      prototype options.resolvedHeaderPrefix f (options.symbol f.name) ++ ";\n\n"

/-- Whether a declaration only announces a struct. -/
def Declaration.isForward : Declaration → Bool
  | .forward _ => true
  | _ => false

/-- Declarations as text, with a blank line after those that only announce a struct. -/
def renderAll (options : Options) (ds : List Declaration) : String :=
  let forwards := ds.takeWhile Declaration.isForward
  let others := ds.dropWhile Declaration.isForward
  String.join (forwards.map (Declaration.render options)) ++
    (if forwards.isEmpty then "" else "\n") ++ String.join (others.map (Declaration.render options))

def interfaceGuard (options : Options) : String := guardName options.stem ++ "_H"

def interfaceText (options : Options) (ds : List Declaration) : String :=
  opening (interfaceGuard options) ++ inclusions ++ macroDefinition options ++ openLinkage ++
    renderAll options ds ++ closeLinkage ++ closing (interfaceGuard options)

def implementationGuard (options : Options) : String := guardName options.stem ++ "_EXPORT_H"

/-- The function that a library has to define for a function of the interface. -/
def implementationName (options : Options) (f : Function) : String :=
  options.resolvedHeaderPrefix ++ "_export_" ++ f.name

def implementationDecl (options : Options) (f : Function) : String :=
  prototype options.resolvedHeaderPrefix f (implementationName options f) ++ ";\n"

/-- The exported function, which calls the one that the library defines. -/
def exportDefinition (options : Options) (f : Function) : String :=
  let call :=
    implementationName options f ++ "(" ++ ", ".intercalate (f.params.map Param.name) ++ ");"
  exportMacro options ++ " " ++
    prototype options.resolvedHeaderPrefix f (options.symbol f.name) ++ " \x7b\n    " ++
    (if f.returns.isSome then "return " ++ call else call) ++ "\n\x7d\n\n"

def implementationText (options : Options) (items : Items) : String :=
  let macroName := macroTag options ++ "_EXPORTS"
  opening (implementationGuard options) ++
    "#ifndef " ++ macroName ++ "\n#define " ++ macroName ++ "\n#endif\n" ++
    "#include \"" ++ options.stem ++ ".h\"\n\n" ++ openLinkage ++
    String.join (items.functions.map (implementationDecl options)) ++
    "\n" ++ String.join (items.functions.map (exportDefinition options)) ++ closeLinkage ++
    closing (implementationGuard options)

end Bindery.Header
