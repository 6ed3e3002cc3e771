set_option autoImplicit false
set_option relaxedAutoImplicit false

/-!
Files as the library sees them, and the reasons for which one cannot be used.
-/

namespace Bindery

inductive FileFault where
  | notFound
  | isDirectory
  | notDirectory
  | alreadyExists
  | nameTooLong
  | notText
  deriving DecidableEq, Repr

def FileFault.message : FileFault → String
  | .notFound => "No such file or directory (os error 2)"
  | .isDirectory => "Is a directory (os error 21)"
  | .notDirectory => "Not a directory (os error 20)"
  | .alreadyExists => "File exists (os error 17)"
  | .nameTooLong => "File name too long (os error 36)"
  | .notText => "stream did not contain valid UTF-8"

/-- The contents of a file and when it was last written. -/
structure StoredFile where
  contents : ByteArray
  modified : Int

def StoredFile.text (file : StoredFile) : Except FileFault String :=
  match String.fromUTF8? file.contents with
  | some text => .ok text
  | none => .error .notText

end Bindery
