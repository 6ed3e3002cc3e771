set_option autoImplicit false
set_option relaxedAutoImplicit false

/-!
Reports of failed commands: a message, and the causes below it from the nearest to the farthest.
-/

namespace Bindery.Command

inductive Cause where
  | text (s : String)
  /-- A text could not be read; a report ends before the place in it is told. -/
  | unreadable
  deriving DecidableEq, Repr

/-- A failure with its causes. -/
structure Report where
  message : String
  causes : List Cause
  deriving DecidableEq, Repr

/-- Text with an indentation in front of its lines, which may differ for the first one. -/
def indented (first others : String) (text : String) : String :=
  first ++ ("\n" ++ others).intercalate (text.splitOn "\n")

def column (n : Nat) : String := "".pushn ' ' (5 - (toString n).length) ++ toString n

def numbered : Nat → List Cause → String
  | _, [] => "\n"
  | _, .unreadable :: _ => ""
  | n, .text s :: rest => "\n" ++ indented (column n ++ ": ") "       " s ++ numbered (n + 1) rest

/-- A report as text. A single cause is not numbered. -/
def Report.render (r : Report) : String :=
  "Error: " ++ r.message ++
    match r.causes with
    | [] => "\n"
    | [.unreadable] => ""
    | [.text s] => "\n\nCaused by:\n" ++ indented "    " "    " s ++ "\n"
    | causes => "\n\nCaused by:" ++ numbered 0 causes

end Bindery.Command
