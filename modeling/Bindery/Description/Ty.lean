set_option autoImplicit false
set_option relaxedAutoImplicit false

/-!
Types of an interface description, and the walk over everything a type is made of.
-/

namespace Bindery

/-- Types whose layout does not depend on the description. -/
inductive Primitive where
  | bool
  | i8
  | i16
  | i32
  | i64
  | isize
  | u8
  | u16
  | u32
  | u64
  | usize
  | f32
  | f64
  deriving DecidableEq, Repr

namespace Primitive

def all : List Primitive :=
  [.bool, .i8, .i16, .i32, .i64, .isize, .u8, .u16, .u32, .u64, .usize, .f32, .f64]

def name : Primitive → String
  | .bool => "bool"
  | .i8 => "i8"
  | .i16 => "i16"
  | .i32 => "i32"
  | .i64 => "i64"
  | .isize => "isize"
  | .u8 => "u8"
  | .u16 => "u16"
  | .u32 => "u32"
  | .u64 => "u64"
  | .usize => "usize"
  | .f32 => "f32"
  | .f64 => "f64"

def ofName? (name : String) : Option Primitive :=
  all.find? fun p => p.name == name

@[simp]
theorem ofName?_name (p : Primitive) : ofName? p.name = some p := by
  cases p <;> decide

end Primitive

/-- Whether what a pointer, string or slice refers to may be written. -/
inductive Mutability where
  | const
  | mutable
  deriving DecidableEq, Repr

namespace Mutability

def all : List Mutability := [.const, .mutable]

/-- The mutability of a reference that does not say. -/
def default : Mutability := .const

def name : Mutability → String
  | .const => "const"
  | .mutable => "mut"

def isMutable : Mutability → Bool
  | .const => false
  | .mutable => true

def ofName? (name : String) : Option Mutability :=
  all.find? fun m => m.name == name

@[simp]
theorem ofName?_name (m : Mutability) : ofName? m.name = some m := by
  cases m <;> decide

end Mutability

inductive Ty where
  | primitive (p : Primitive)
  | pointer (mutability : Mutability) (pointee : Ty)
  | string (mutability : Mutability)
  | slice (mutability : Mutability) (element : Ty)
  | owned (inner : Ty)
  | function (args : List Ty) (returns : Option Ty)
  | closure (args : List Ty) (returns : Option Ty)
  | array (element : Ty) (len : UInt64)
  | named (name : String)

namespace Ty

/-- The types directly inside a type, in declaration order. -/
def children : Ty → List Ty
  | .primitive _ => []
  | .pointer _ pointee => [pointee]
  | .string _ => []
  | .slice _ element => [element]
  | .owned inner => [inner]
  | .function args returns => args ++ returns.toList
  | .closure args returns => args ++ returns.toList
  | .array element _ => [element]
  | .named _ => []

/-- The declared name whose layout a value of this type contains. -/
def byValueName : Ty → Option String
  | .named name => some name
  | .array element _ => element.byValueName
  | _ => none

mutual

/-- The number of types that a type is made of, itself included. -/
def size : Ty → Nat
  | .primitive _ => 1
  | .pointer _ pointee => pointee.size + 1
  | .string _ => 1
  | .slice _ element => element.size + 1
  | .owned inner => inner.size + 1
  | .function args returns => sizeAll args + sizeOption returns + 1
  | .closure args returns => sizeAll args + sizeOption returns + 1
  | .array element _ => element.size + 1
  | .named _ => 1

def sizeAll : List Ty → Nat
  | [] => 0
  | t :: ts => t.size + sizeAll ts

def sizeOption : Option Ty → Nat
  | none => 0
  | some t => t.size

end

theorem sizeAll_append (ts us : List Ty) : sizeAll (ts ++ us) = sizeAll ts + sizeAll us := by
  induction ts with
  | nil => simp [sizeAll]
  | cons t ts ih => simp [sizeAll, ih, Nat.add_assoc]

theorem sizeAll_toList (t : Option Ty) : sizeAll t.toList = sizeOption t := by
  cases t <;> simp [sizeAll, sizeOption]

theorem size_eq_children (t : Ty) : t.size = sizeAll t.children + 1 := by
  cases t <;> simp [size, children, sizeAll, sizeAll_append, sizeAll_toList]

theorem size_lt_of_mem_children {t u : Ty} (inside : u ∈ t.children) : u.size < t.size := by
  have within : ∀ ts : List Ty, u ∈ ts → u.size ≤ sizeAll ts := by
    intro ts member
    induction ts with
    | nil => simp at member
    | cons first rest ih =>
      rw [sizeAll]
      rcases List.mem_cons.mp member with rfl | later
      · omega
      · have bound := ih later
        omega
  have bound := within _ inside
  have total := t.size_eq_children
  omega

theorem size_lt_of_owned {inner u : Ty} (inside : u ∈ inner.children) :
    u.size < (owned inner).size :=
  Nat.lt_trans (size_lt_of_mem_children inside) (size_lt_of_mem_children List.mem_cons_self)

theorem size_induction {P : Ty → Prop} (step : ∀ t, (∀ u : Ty, u.size < t.size → P u) → P t)
    (t : Ty) : P t := by
  induction bound : t.size using Nat.strongRecOn generalizing t with
  | _ n ih =>
    subst bound
    exact step t fun u smaller => ih u.size smaller u rfl

theorem sizeAll_reverse (ts : List Ty) : sizeAll ts.reverse = sizeAll ts := by
  induction ts with
  | nil => rfl
  | cons t ts ih =>
    rw [List.reverse_cons, sizeAll_append, ih]
    simp only [sizeAll]
    omega

/-- A walk over types: the stack of those that are still to be visited, the next one last. -/
structure Walk where
  stack : Array Ty

namespace Walk

def start (t : Ty) : Walk := ⟨#[t]⟩

/-- The next type of a walk, and the walk behind it. The children of the type take its place in
reverse, so that the first of them comes next. -/
def next (w : Walk) : Option (Ty × Walk) :=
  w.stack.back?.map fun t => (t, ⟨w.stack.pop ++ t.children.reverse⟩)

def size (w : Walk) : Nat := sizeAll w.stack.toList

theorem eq_of_next {w rest : Walk} {t : Ty} (taken : w.next = some (t, rest)) :
    ∃ below : Array Ty, w = ⟨below.push t⟩ ∧ rest = ⟨below ++ t.children.reverse⟩ := by
  obtain ⟨stack⟩ := w
  by_cases empty : stack = #[]
  · simp [next, empty] at taken
  · obtain ⟨below, top, rfl⟩ := Array.exists_push_of_ne_empty empty
    obtain ⟨rfl, rfl⟩ : top = t ∧ ⟨below ++ top.children.reverse⟩ = rest := by
      simpa [next] using taken
    exact ⟨below, rfl, rfl⟩

theorem size_of_next {w rest : Walk} {t : Ty} (taken : w.next = some (t, rest)) :
    w.size = rest.size + 1 := by
  obtain ⟨below, rfl, rfl⟩ := eq_of_next taken
  have total := t.size_eq_children
  simp only [size, Array.toList_push, Array.toList_appendList, sizeAll_append, sizeAll_reverse,
    sizeAll]
  omega

def visited (w : Walk) : List Ty :=
  match taken : w.next with
  | none => []
  | some (t, rest) =>
    have := size_of_next taken
    t :: rest.visited
termination_by w.size

end Walk

/-- A type and everything it is made of, each type before what is inside it. -/
def tree (t : Ty) : List Ty := (Walk.start t).visited

mutual

def same : Ty → Ty → Bool
  | .primitive p, .primitive q => p == q
  | .pointer m t, .pointer n u => m == n && t.same u
  | .string m, .string n => m == n
  | .slice m t, .slice n u => m == n && t.same u
  | .owned t, .owned u => t.same u
  | .function ts r, .function us s => sameAll ts us && sameOption r s
  | .closure ts r, .closure us s => sameAll ts us && sameOption r s
  | .array t m, .array u n => t.same u && m == n
  | .named a, .named b => a == b
  | _, _ => false

def sameAll : List Ty → List Ty → Bool
  | [], [] => true
  | t :: ts, u :: us => t.same u && sameAll ts us
  | _, _ => false

def sameOption : Option Ty → Option Ty → Bool
  | none, none => true
  | some t, some u => t.same u
  | _, _ => false

end

mutual

theorem same_iff (t u : Ty) : t.same u = true ↔ t = u := by
  cases t <;> cases u <;> simp [same, same_iff, sameAll_iff, sameOption_iff]

theorem sameAll_iff (ts us : List Ty) : sameAll ts us = true ↔ ts = us := by
  cases ts <;> cases us <;> simp [sameAll, same_iff, sameAll_iff]

theorem sameOption_iff (t u : Option Ty) : sameOption t u = true ↔ t = u := by
  cases t <;> cases u <;> simp [sameOption, same_iff]

end

instance : DecidableEq Ty := fun t u => decidable_of_iff (t.same u = true) (same_iff t u)

end Ty

end Bindery
