import Bindery.GenerateError

set_option autoImplicit false
set_option relaxedAutoImplicit false

/-!
What the generator is asked to do.
-/

namespace Bindery

structure Options where
  stem : String := "bindings"
  /-- The languages to generate for, without repetition. -/
  targets : List Target := [.rust]
  linkName : Option String := none
  symbolPrefix : String := ""
  /-- What stands in front of the names that the headers define. -/
  headerPrefix : Option String := none
  runtimePath : Option String := none
  deriving DecidableEq, Repr

namespace Options

def target (options : Options) (t : Target) : Options :=
  if t ∈ options.targets then options else { options with targets := options.targets ++ [t] }

def retarget (options : Options) (ts : List Target) : Options :=
  ts.foldl target { options with targets := [] }

def trimUnderscores (text : String) : String :=
  String.ofList (text.toList.reverse.dropWhile (· == '_')).reverse

/-- What stands in front of the names that the headers define; unless it is given, the symbol prefix
without the underscores at its end. -/
def resolvedHeaderPrefix (options : Options) : String :=
  match options.headerPrefix with
  | some text => text
  | none =>
    match trimUnderscores options.symbolPrefix with
    | "" => "vellum"
    | text => text

def symbol (options : Options) (name : String) : String := options.symbolPrefix ++ name

/-- Whether text may stand in front of a symbol: letters, digits and underscores of ASCII, not
beginning with a digit. -/
def isPrefix (text : String) : Bool :=
  text.toList.all (fun c => c.isAlphanum || c == '_') &&
    match text.toList with
    | [] => true
    | c :: _ => !c.isDigit

def check (options : Options) : Except GenerateError Unit :=
  if options.targets.isEmpty then .error .noTargets
  else if !isPrefix options.symbolPrefix then .error (.invalidPrefix options.symbolPrefix)
  else if options.resolvedHeaderPrefix.isEmpty || !isPrefix options.resolvedHeaderPrefix then
    .error (.invalidPrefix options.resolvedHeaderPrefix)
  else .ok ()

end Options

end Bindery
