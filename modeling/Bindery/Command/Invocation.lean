import Bindery.Command.Arguments
import Bindery.Journal

set_option autoImplicit false
set_option relaxedAutoImplicit false

/-!
What the command line asks for.
-/

namespace Bindery.Command

structure GenerateRequest where
  file : String
  targets : List Target
  output : String
  stem : Option String
  library : Option String
  symbolTag : String
  headerTag : Option String
  runtimePath : Option String
  deriving DecidableEq, Repr

structure SymbolsRequest where
  file : String
  format : SymbolFormat
  symbolTag : String
  output : Option String
  deriving DecidableEq, Repr

inductive Request where
  | generate (r : GenerateRequest)
  | check (file : String)
  | symbols (r : SymbolsRequest)
  deriving DecidableEq, Repr

/-- What to do and how much to say about it; a negative volume says nothing. -/
structure Invocation where
  request : Request
  volume : Int
  deriving DecidableEq, Repr

/-- The options of every command. -/
def commonOptions : OptionTable where
  long := [("verbose", .flag .verbose), ("quiet", .flag .quiet), ("help", .flag .help)]
  short := [('v', .flag .verbose), ('q', .flag .quiet), ('h', .flag .help)]

def OptionTable.append (a b : OptionTable) : OptionTable := ⟨a.long ++ b.long, a.short ++ b.short⟩

def rootOptions : OptionTable :=
  commonOptions.append ⟨[("version", .flag .version)], [('V', .flag .version)]⟩

def generateOptions : OptionTable :=
  commonOptions.append
    { long :=
        [("target", .setting .target), ("output", .setting .output), ("stem", .setting .stem),
          ("lib", .setting .library), ("prefix", .setting .symbolTag),
          ("header-prefix", .setting .headerTag), ("runtime-path", .setting .runtimePath)]
      short := [('t', .setting .target), ('o', .setting .output), ('p', .setting .symbolTag)] }

def symbolsOptions : OptionTable :=
  commonOptions.append
    { long :=
        [("format", .setting .format), ("prefix", .setting .symbolTag),
          ("output", .setting .output)]
      short := [('f', .setting .format), ('p', .setting .symbolTag), ('o', .setting .output)] }

def valuesOf (s : Setting) (givens : List Given) : List String :=
  givens.filterMap fun g =>
    match g with
    | .setting t value => if t = s then some value else none
    | _ => none

def single (s : Setting) (givens : List Given) : Option String := (valuesOf s givens).head?

def fileOf (givens : List Given) : Except Stop String :=
  let plain := givens.findSome? fun g =>
    match g with
    | .plain text => some text
    | _ => none
  match plain with
  | some file => .ok file
  | none => .error .refused

def countOf (f : Flag) (givens : List Given) : Nat := givens.count (.flag f)

/-- How much to say; it cannot be both more and less than usual. -/
def volumeOf (givens : List Given) : Except Stop Int :=
  let louder := countOf .verbose givens
  let quieter := countOf .quiet givens
  if 0 < louder ∧ 0 < quieter then .error .refused else .ok ((louder : Int) - quieter)

def generateRequest (givens : List Given) : Except Stop GenerateRequest := do
  let named := (valuesOf .target givens).filterMap Target.ofName?
  pure
    { file := ← fileOf givens
      targets := if named.isEmpty then [.rust] else named
      output := (single .output givens).getD "."
      stem := single .stem givens
      library := single .library givens
      symbolTag := (single .symbolTag givens).getD ""
      headerTag := single .headerTag givens
      runtimePath := single .runtimePath givens }

def symbolsRequest (givens : List Given) : Except Stop SymbolsRequest := do
  let format := (single .format givens).bind SymbolFormat.ofName?
  pure
    { file := ← fileOf givens
      format := format.getD SymbolFormat.default
      symbolTag := (single .symbolTag givens).getD ""
      output := single .output givens }

def commandNames : List String := ["generate", "check", "symbols", "help"]

/-- What comes of asking for help on the given words: nothing or one command may be named. -/
def helpOn : List String → Stop
  | [] => .help
  | [name] => if name ∈ commandNames then .help else .refused
  | _ => .refused

def requestOf (name : String) (args : List String) : Except Stop (Request × Int) :=
  match name with
  | "generate" => do
    let givens ← scan generateOptions [] none args
    pure (.generate (← generateRequest givens), ← volumeOf givens)
  | "check" => do
    let givens ← scan commonOptions [] none args
    pure (.check (← fileOf givens), ← volumeOf givens)
  | "symbols" => do
    let givens ← scan symbolsOptions [] none args
    pure (.symbols (← symbolsRequest givens), ← volumeOf givens)
  | "help" => .error (helpOn args)
  | _ => .error .refused

/-- Reads the arguments of the command line: flags, the name of a command, and its own arguments. -/
def parseFrom (before : List Given) : List String → Except Stop Invocation
  | [] => .error .refused
  | arg :: rest =>
    match spelling arg with
    | .separator => .error .refused
    | .plain => do
      let (request, volume) ← requestOf arg rest
      let outer ← volumeOf before
      pure ⟨request, if volume = 0 then outer else volume⟩
    | _ => do parseFrom (← scan rootOptions before none [arg]) rest

def parse (args : List String) : Except Stop Invocation := parseFrom [] args

/-- The levels of entries that are shown at a volume. -/
def shownLevels (volume : Int) : List Level :=
  [Level.error, .warn, .info, .debug, .trace].take (volume + 1).toNat

end Bindery.Command
