import Bindery.Decimal.Notation
import Bindery.Json.Numeral
import Bindery.Text.Quoted

set_option autoImplicit false
set_option relaxedAutoImplicit false

/-!
What is wrong with text that is meant to describe a value: it is no JSON, or it is JSON of the wrong
shape. A complaint is a cause; its wording is in one place.
-/

namespace Bindery.Json

/-- What stands where something else was expected. -/
inductive Found where
  | null
  | boolean (b : Bool)
  | number (n : Number)
  | string (s : String)
  | sequence
  | map
  | unitVariant

inductive Complaint where
  | invalidType (found : Found) (expected : String)
  | invalidValue (found : Found) (expected : String)
  | invalidLength (length : Nat) (expected : String)
  | missingField (name : String)
  | duplicateField (name : String)
  | unknownVariant (name : String) (known : List String)

/-- Why a value could not be read. -/
inductive ReadError where
  | fault (f : Fault)
  | unfit (c : Complaint)

def Found.describe : Found → String
  | .null => "null"
  | .boolean b => "boolean `" ++ (if b then "true" else "false") ++ "`"
  | .number (.integer n) => "integer `" ++ toString n ++ "`"
  | .number (.float x) => "floating point `" ++ Decimal.Notation.render x ++ "`"
  | .string s => "string " ++ Text.Quoted.quote s
  | .sequence => "sequence"
  | .map => "map"
  | .unitVariant => "unit variant"

/-- The known variants as messages list them. -/
def describeVariants : List String → String
  | [] => "there are no variants"
  | [a] => "expected `" ++ a ++ "`"
  | [a, b] => "expected `" ++ a ++ "` or `" ++ b ++ "`"
  | names => "expected one of " ++ ", ".intercalate (names.map fun n => "`" ++ n ++ "`")

def Complaint.message : Complaint → String
  | .invalidType found expected => "invalid type: " ++ found.describe ++ ", expected " ++ expected
  | .invalidValue found expected => "invalid value: " ++ found.describe ++ ", expected " ++ expected
  | .invalidLength length expected =>
    "invalid length " ++ toString length ++ ", expected " ++ expected
  | .missingField name => "missing field `" ++ name ++ "`"
  | .duplicateField name => "duplicate field `" ++ name ++ "`"
  | .unknownVariant name known => "unknown variant `" ++ name ++ "`, " ++ describeVariants known

end Bindery.Json
