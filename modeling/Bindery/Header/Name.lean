import Bindery.Description.Ty

set_option autoImplicit false
set_option relaxedAutoImplicit false

/-!
Names that the headers give to types which C has no notation for. Such a name is spelled from the
parts of the type, so one type has one name wherever it occurs.
-/

namespace Bindery.Header

def primitiveName : Primitive → String
  | .bool => "bool"
  | .i8 => "int8_t"
  | .i16 => "int16_t"
  | .i32 => "int32_t"
  | .i64 => "int64_t"
  | .isize => "ptrdiff_t"
  | .u8 => "uint8_t"
  | .u16 => "uint16_t"
  | .u32 => "uint32_t"
  | .u64 => "uint64_t"
  | .usize => "size_t"
  | .f32 => "float"
  | .f64 => "double"

mutual

/-- A type spelled as a piece of an identifier. -/
def mangle : Ty → String
  | .primitive p => p.name
  | .named name => name
  | .pointer .const pointee => "const_" ++ mangle pointee ++ "_ptr"
  | .pointer .mutable pointee => mangle pointee ++ "_ptr"
  | .string .const => "const_char_ptr"
  | .string .mutable => "char_ptr"
  | .slice m element => "slice_" ++ m.name ++ "_" ++ mangle element
  | .owned (.pointer _ pointee) => "owned_ptr_" ++ mangle pointee
  | .owned (.slice _ element) => "owned_slice_" ++ mangle element
  | .owned other => mangle other
  | .function args returns => "fn_" ++ mangleResult returns ++ "_args" ++ mangleArgs args
  | .closure args returns => "closure_" ++ mangleResult returns ++ "_args" ++ mangleArgs args
  | .array element len => "array_" ++ mangle element ++ "_" ++ toString len.toNat

def mangleResult : Option Ty → String
  | none => "void"
  | some t => mangle t

def mangleArgs : List Ty → String
  | [] => ""
  | t :: ts => "_" ++ mangle t ++ mangleArgs ts

end

/-- The name of a type under the prefix of the headers. -/
def typedefName (tag : String) (t : Ty) : String := tag ++ "_" ++ mangle t

end Bindery.Header
