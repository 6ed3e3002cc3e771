import Bindery.Options
import Bindery.Wrapper.Projection

set_option autoImplicit false
set_option relaxedAutoImplicit false

/-!
The parts of the wrapper file: declarations of the structs, the functions as they are imported, a
wrapper for each of them, and a way to export implementations.
-/

namespace Bindery.Wrapper

def docLine (line : String) : Stream := attr [word "doc", mark '=', text line]

def docLines (lines : List String) : Stream := lines.flatMap fun line => docLine (" " ++ line)

def layoutAttr : Stream := attr [word "repr", parens [word "C"]]

/-- A struct whose fields are hidden: it has no size and cannot be made or moved. -/
def abstractStruct (s : AbstractStruct) : Stream :=
  docLines s.docs ++ layoutAttr ++
    [word "pub", word "struct", ident s.name,
      braces
        ([word "_opaque", mark ':',
            brackets [word "u8", mark ';', .literal (.number 0)], mark ',',
            word "_marker", mark ':'] ++
          absolute ["core", "marker", "PhantomData"] ++
          angled [parens ([mark '*', word "mut", word "u8", mark ','] ++
            absolute ["core", "marker", "PhantomPinned"])] ++
          [mark ','])]

def fieldDecl (rt : CratePath) (f : Field) : Stream :=
  docLines f.docs ++ [word "pub", ident f.name, mark ':'] ++ pod rt f.ty ++ [mark ',']

def completeStruct (rt : CratePath) (s : Struct) : Stream :=
  docLines s.docs ++ layoutAttr ++
    attr [word "derive",
      parens (commaSeparated [[word "Debug"], [word "Clone"], [word "Copy"]])] ++
    [word "pub", word "struct", ident s.name, braces (s.fields.flatMap (fieldDecl rt))]

def paramDecl (name : String) (ty : Stream) : Stream := ident name :: mark ':' :: ty

def podParams (rt : CratePath) (f : Function) : Stream :=
  commaSeparated (f.params.map fun p => paramDecl p.name (pod rt p.ty))

def importDecl (rt : CratePath) (options : Options) (f : Function) : Stream :=
  attr [word "link_name", mark '=', text (options.symbol f.name)] ++
    [word "pub", word "fn", ident f.name, parens (podParams rt f)] ++
    podReturn rt f.returns ++ [mark ';']

def importModule : Token := word "__vellum_private_abi"

def linkAttr (library : String) : Stream :=
  attr [word "cfg_attr",
    parens (commaSeparated
      [[word "all",
          parens (commaSeparated
            [[word "vellum_shared"], [word "not", parens [word "vellum_export"]]])],
        [word "link",
          parens (commaSeparated
            [[word "name", mark '=', text library], [word "kind", mark '=', text "dylib"]])]])]

def imports (rt : CratePath) (options : Options) (functions : List Function) : Stream :=
  attr [word "doc", parens [word "hidden"]] ++
    attr [word "allow", parens [word "unused_imports"]] ++
    [word "mod", importModule,
      braces
        ([word "use", word "super"] ++ colons ++ [mark '*', mark ';'] ++
          (options.linkName.map linkAttr).getD [] ++
          [word "unsafe", word "extern", text "C",
            braces (functions.flatMap (importDecl rt options))])]

/-- A parameter as it is handed on to the imported function. -/
def forwarded (p : Param) : Stream :=
  if isWrapped p.ty then [ident p.name, mark '.', word "into_raw", parens []] else [ident p.name]

def importCall (f : Function) : Stream :=
  importModule :: colons ++ [ident f.name, parens (commaSeparated (f.params.map forwarded))]

/-- The call of the imported function with its result in wrapper form. -/
def wrappedCall (rt : CratePath) (f : Function) : Stream :=
  match f.returns.bind (owner? rt) with
  | some owner => owner ++ colons ++ [word "from_raw", parens (importCall f)]
  | none => importCall f

def wrappedReturn (rt : CratePath) : Option Ty → Stream
  | none => []
  | some t => arrow ++ wrapped rt t

/-- What a caller of a wrapper has to ensure. -/
def safetyNote (options : Options) (f : Function) : String :=
  " Calls `" ++ options.symbol f.name ++
    "` across the library boundary. Pointer and slice arguments must be valid " ++
    "for the accesses the implementation performs."

/-- The wrapper of a function: it hands owned values over in plain form and takes the result
back. -/
def wrapperDecl (rt : CratePath) (options : Options) (f : Function) : Stream :=
  docLines f.docs ++ (if f.docs.isEmpty then [] else docLine "") ++
    attr [word "doc", mark '=', .literal (.verbatim " # Safety")] ++
    attr [word "doc", mark '=', .literal (.verbatim "")] ++
    docLine (safetyNote options f) ++
    attr [word "inline"] ++
    [word "pub", word "unsafe", word "fn", ident f.name,
      parens (commaSeparated (f.params.map fun p => paramDecl p.name (wrapped rt p.ty)))] ++
    wrappedReturn rt f.returns ++
    [braces [word "unsafe", braces (wrappedCall rt f)]]

/-- The name of the constant that fixes the signature of an implementation. -/
def signatureName (f : Function) : Token := word ("__VELLUM_EXPECTED_SIGNATURE_" ++ f.name)

def implementation : Stream := [mark '$', parens [mark '$', word "imp"], mark '+']

/-- The exported form of a function: it checks the signature of the implementation and calls it. -/
def exportDecl (rt : CratePath) (options : Options) (f : Function) : Stream :=
  attr [word "unsafe", parens [word "export_name", mark '=', text (options.symbol f.name)]] ++
    [word "extern", text "C", word "fn", word ("__vellum_export_" ++ f.name),
      parens (podParams rt f)] ++
    podReturn rt f.returns ++
    [braces
      (attr [word "allow", parens [word "non_upper_case_globals"]] ++
        [word "const", signatureName f, mark ':', word "unsafe"] ++
        signature (f.params.map fun p => pod rt p.ty) (podReturn rt f.returns) ++
        [mark '='] ++ implementation ++ colons ++ [ident f.name, mark ';'] ++
        runtimeItem rt "guard" ++
        [parens
          (word "move" :: pair '|' '|' ++
            [word "unsafe",
              braces [signatureName f,
                parens (commaSeparated (f.params.map fun p => [ident p.name]))]])])]

def exportNote : String :=
  " Exports an implementation of these bindings.\n\n " ++
    "`vellum_implement!(path::to::module)` expects `module` to define one function per " ++
    "declaration, named after it and taking and returning the POD types. A missing function " ++
    "or a signature mismatch fails to compile at `__VELLUM_EXPECTED_SIGNATURE_<name>`."

def exports (rt : CratePath) (options : Options) (functions : List Function) : Stream :=
  docLine exportNote ++
    attr [word "allow", parens [word "unused_macros"]] ++
    [word "macro_rules", mark '!', word "vellum_implement",
      braces
        ([parens [mark '$', parens [mark '$', word "imp", mark ':', word "tt"], mark '+']] ++
          pair '=' '>' ++
          [braces
            [word "const", word "_", mark ':', parens [], mark '=',
              braces (functions.flatMap (exportDecl rt options)), mark ';'],
            mark ';'])]

def functionNames (f : Function) : List String :=
  f.name :: f.params.flatMap (fun p => p.name :: p.ty.names) ++
    f.returns.toList.flatMap Ty.names

def structNames (s : Struct) : List String :=
  s.name :: s.fields.flatMap fun f => f.name :: f.ty.names

/-- The names that a description uses, in the order in which they are written. -/
def usedNames (items : Items) : List String :=
  items.abstractStructs.map AbstractStruct.name ++ items.structs.flatMap structNames ++
    items.functions.flatMap functionNames

def parts (rt : CratePath) (options : Options) (items : Items) : List Stream :=
  items.abstractStructs.map abstractStruct ++ items.structs.map (completeStruct rt) ++
    [imports rt options items.functions] ++ items.functions.map (wrapperDecl rt options) ++
    [exports rt options items.functions]

def file (rt : CratePath) (options : Options) (items : Items) : String :=
  "// @generated by vellum. Do not edit.\n" ++
    String.join ((parts rt options items).map fun part => "\n" ++ renderStream part ++ "\n")

end Bindery.Wrapper
