import Bindery.Target

set_option autoImplicit false
set_option relaxedAutoImplicit false

/-!
Arguments of the command line. Options are long with two dashes or short with one; a value follows
its option as the next argument or is attached to it, and everything after a bare pair of dashes is
taken as it stands. Arguments are read from left to right, and the first one that ends the reading
decides how it ends.
-/

namespace Bindery.Command

inductive Flag where
  | verbose
  | quiet
  | help
  | version
  deriving DecidableEq, Repr

inductive Setting where
  | target
  | output
  | stem
  | library
  | symbolTag
  | headerTag
  | runtimePath
  | format
  deriving DecidableEq, Repr

inductive OptionKind where
  | flag (f : Flag)
  | setting (s : Setting)
  deriving DecidableEq, Repr

/-- The options of a command by their long and short names. -/
structure OptionTable where
  long : List (String × OptionKind)
  short : List (Char × OptionKind)

inductive Stop where
  | refused
  | help
  | version
  deriving DecidableEq, Repr

inductive Given where
  | flag (f : Flag)
  | setting (s : Setting) (value : String)
  | plain (text : String)
  deriving DecidableEq, Repr

inductive Spelling where
  | separator
  | long (name : String) (attached : Option String)
  | short (letters : List Char)
  | plain
  deriving DecidableEq, Repr

def splitAttached (cs : List Char) : String × Option String :=
  match cs.dropWhile (· != '=') with
  | [] => (String.ofList cs, none)
  | _ :: value => (String.ofList (cs.takeWhile (· != '=')), some (String.ofList value))

def spelling (arg : String) : Spelling :=
  match arg.toList with
  | ['-', '-'] => .separator
  | '-' :: '-' :: rest => .long (splitAttached rest).1 (splitAttached rest).2
  | '-' :: c :: rest => .short (c :: rest)
  | _ => .plain

def accepts : Setting → String → Bool
  | .target, value => (Target.ofName? value).isSome
  | .format, value => (SymbolFormat.ofName? value).isSome
  | .output, value => !value.isEmpty
  | _, _ => true

def Setting.isRepeatable (s : Setting) : Bool := s == .target

def Given.sets (s : Setting) : Given → Bool
  | .setting t _ => t == s
  | _ => false

/-- Whether an argument is neither an option nor the value of one. -/
def Given.isPlain : Given → Bool
  | .plain _ => true
  | _ => false

/-- Whether an argument may follow those that were read before it: a command works on one file, and
most settings have one value. -/
def mayFollow (before : List Given) : Given → Bool
  | .flag _ => true
  | .setting s value => accepts s value && (s.isRepeatable || !before.any (Given.sets s))
  | .plain text => !text.isEmpty && !before.any Given.isPlain

def accept (before : List Given) (g : Given) : Except Stop (List Given) :=
  if mayFollow before g then .ok (before ++ [g]) else .error .refused

/-- A flag, unless it ends the reading of the arguments. -/
def raised : Flag → Except Stop Given
  | .help => .error .help
  | .version => .error .version
  | f => .ok (.flag f)

/-- Reads a cluster of short options: the flags in it, and the setting that ends it with the value
that is attached, if there is one. -/
def cluster (table : OptionTable) :
    List Char → Except Stop (List Given × Option (Setting × Option String))
  | [] => .ok ([], none)
  | c :: rest =>
    match table.short.lookup c with
    | none => .error .refused
    | some (.flag f) => do
      let first ← raised f
      let (more, last) ← cluster table rest
      pure (first :: more, last)
    | some (.setting s) =>
      match rest with
      | [] => .ok ([], some (s, none))
      | '=' :: value => .ok ([], some (s, some (String.ofList value)))
      | value => .ok ([], some (s, some (String.ofList value)))

/-- Reads the arguments of a command after those that were read before; a setting may still be
waiting for its value. -/
def scan (table : OptionTable) (before : List Given) :
    Option Setting → List String → Except Stop (List Given)
  | none, [] => .ok before
  | some _, [] => .error .refused
  | some s, value :: rest =>
    match spelling value with
    | .plain => do scan table (← accept before (.setting s value)) none rest
    | _ => .error .refused
  | none, arg :: rest =>
    match spelling arg with
    | .separator => (rest.map Given.plain).foldlM accept before
    | .plain => do scan table (← accept before (.plain arg)) none rest
    | .long name attached =>
      match table.long.lookup name, attached with
      | none, _ => .error .refused
      | some (.flag _), some _ => .error .refused
      | some (.flag f), none => do scan table (before ++ [← raised f]) none rest
      | some (.setting s), some value => do
        scan table (← accept before (.setting s value)) none rest
      | some (.setting s), none => scan table before (some s) rest
    | .short letters => do
      match ← cluster table letters with
      | (flags, none) => scan table (before ++ flags) none rest
      | (flags, some (s, some value)) =>
        scan table (← accept (before ++ flags) (.setting s value)) none rest
      | (flags, some (s, none)) => scan table (before ++ flags) (some s) rest

end Bindery.Command
