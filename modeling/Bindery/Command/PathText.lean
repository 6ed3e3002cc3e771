set_option autoImplicit false
set_option relaxedAutoImplicit false

/-!
Paths of files as text.
-/

namespace Bindery.Command

def splitSlashes : List Char → List (List Char)
  | [] => [[]]
  | c :: cs =>
    if c == '/' then [] :: splitSlashes cs
    else
      match splitSlashes cs with
      | [] => [[c]]
      | part :: parts => (c :: part) :: parts

/-- The components of a path; repeated slashes count as one. -/
def components (path : String) : List String :=
  (splitSlashes path.toList).filterMap fun part =>
    if part.isEmpty then none else some (String.ofList part)

def isAbsolute (path : String) : Bool := path.toList.head? == some '/'

def endsWithSlash (path : String) : Bool := path.toList.getLast? == some '/'

/-- Components without the steps that lead nowhere, except for one at the front. -/
def normalized : List String → List String
  | [] => []
  | c :: cs => c :: cs.filter (· != ".")

/-- A path below another one; an absolute path stands for itself. -/
def joinPath (base name : String) : String :=
  if isAbsolute name then name
  else if base.isEmpty || endsWithSlash base then base ++ name
  else base ++ "/" ++ name

/-- A file name without its ending. A dot at the front does not begin an ending. -/
def dropEnding (name : List Char) : List Char :=
  match (name.reverse.dropWhile (· != '.')).tail.reverse with
  | [] => name
  | stem => stem

/-- The name of the file at a path without its ending, if the path names a file. -/
def fileStem? (path : String) : Option String :=
  match (normalized (components path)).getLast? with
  | none => none
  | some "." => none
  | some ".." => none
  | some name => some (String.ofList (dropEnding name.toList))

end Bindery.Command
