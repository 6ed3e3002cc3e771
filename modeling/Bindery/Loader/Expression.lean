import Bindery.Description.Ty

set_option autoImplicit false
set_option relaxedAutoImplicit false

/-!
Types as expressions of the loader module. The expressions do not tell what may be written from what
may not.
-/

namespace Bindery.Loader

def primitiveExpr : Primitive → String
  | .bool => "ct.c_bool"
  | .i8 => "ct.c_int8"
  | .i16 => "ct.c_int16"
  | .i32 => "ct.c_int32"
  | .i64 => "ct.c_int64"
  | .isize => "ct.c_ssize_t"
  | .u8 => "ct.c_uint8"
  | .u16 => "ct.c_uint16"
  | .u32 => "ct.c_uint32"
  | .u64 => "ct.c_uint64"
  | .usize => "ct.c_size_t"
  | .f32 => "ct.c_float"
  | .f64 => "ct.c_double"

mutual

def expr : Ty → String
  | .primitive p => primitiveExpr p
  | .named name => name
  | .pointer _ pointee => "ct.POINTER(" ++ expr pointee ++ ")"
  | .string _ => "ct.c_char_p"
  | .slice _ element => "Slice(" ++ expr element ++ ")"
  | .owned (.pointer _ pointee) => "OwnedPtr(" ++ expr pointee ++ ")"
  | .owned (.slice _ element) => "OwnedSlice(" ++ expr element ++ ")"
  | .owned other => expr other
  | .function args returns => "ct.CFUNCTYPE(" ++ resultExpr returns ++ furtherExprs args ++ ")"
  | .closure args returns => "Closure(" ++ resultExpr returns ++ furtherExprs args ++ ")"
  | .array element len => "(" ++ expr element ++ " * " ++ toString len.toNat ++ ")"

def resultExpr : Option Ty → String
  | none => "None"
  | some t => expr t

def furtherExprs : List Ty → String
  | [] => ""
  | t :: ts => ", " ++ expr t ++ furtherExprs ts

end

def exprs (ts : List Ty) : String := ", ".intercalate (ts.map expr)

end Bindery.Loader
