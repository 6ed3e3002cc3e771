import Bindery.Description.Items
import Bindery.Json.Reader

set_option autoImplicit false
set_option relaxedAutoImplicit false

/-!
Reading descriptions from JSON text. Records may be written as objects or as their fields in
brackets, types are objects whose one key names the kind of type, and keys that mean nothing are
passed over.
-/

namespace Bindery.Reading

open Json (Complaint Reader)
open Json.Reader (FieldRule)

variable {α β σ : Type}

def mapped (f : α → β) (reader : Reader α) : Reader β := fun ts =>
  match reader ts with
  | .error e => .error e
  | .ok (a, rest) => .ok (f a, rest)

/-- The rule of a field that is kept in one component of a record. -/
def rule (name : String) (required : Bool) (get : σ → Option α) (set : σ → α → σ)
    (reader : Reader α) : FieldRule σ where
  name := name
  required := required
  present := fun state => (get state).isSome
  read := fun state => mapped (set state) reader

/-- Reads a value that is nothing but its name. -/
def unitVariant (names : List String) (ofName? : String → Option α) (depth : Nat) : Reader α :=
  let resolve (name : String) : Except Complaint α :=
    match ofName? name with
    | some a => .ok a
    | none => .error (.unknownVariant name names)
  Reader.variant names resolve depth fun _ _ name ts =>
    match Reader.null ts with
    | .error e => .error e
    | .ok ((), rest) =>
      match resolve name with
      | .error c => .error (.unfit c)
      | .ok a => .ok (a, rest)

def primitive (depth : Nat) : Reader Primitive :=
  unitVariant (Primitive.all.map Primitive.name) Primitive.ofName? depth

def mutability (depth : Nat) : Reader Mutability :=
  unitVariant (Mutability.all.map Mutability.name) Mutability.ofName? depth

/-- The kinds of types, in the order in which messages list them. -/
def tyNames : List String :=
  ["primitive", "pointer", "string", "slice", "owned", "function", "closure", "array", "named"]

/-- A kind of type alone is no type; the complaint says what its key should have held. -/
def bareTy (name : String) : Except Complaint Ty :=
  let body :=
    if name ∈ ["pointer", "string", "slice", "array"] then "struct variant" else "newtype variant"
  .error (.invalidType .unitVariant body)

/-- A reference while it is being read: its mutability and what it refers to. -/
structure ReferenceParts where
  mutability : Option Mutability := none
  target : Option Ty := none

def ReferenceParts.finish (target : String) (make : Mutability → Ty → Ty) (r : ReferenceParts) :
    Except Complaint Ty :=
  match r.target with
  | none => .error (.missingField target)
  | some t => .ok (make (r.mutability.getD .default) t)

structure SignatureParts where
  args : Option (List Ty) := none
  returns : Option (Option Ty) := none

def SignatureParts.finish (make : List Ty → Option Ty → Ty) (s : SignatureParts) :
    Except Complaint Ty :=
  .ok (make (s.args.getD []) (s.returns.getD none))

structure ArrayParts where
  element : Option Ty := none
  len : Option UInt64 := none

def ArrayParts.finish (a : ArrayParts) : Except Complaint Ty :=
  match a.element, a.len with
  | none, _ => .error (.missingField "element")
  | some _, none => .error (.missingField "len")
  | some t, some n => .ok (.array t n)

def ty (depth : Nat) : Reader Ty :=
  Reader.variant tyNames bareTy depth fun d _ name =>
    match name with
    | "primitive" => mapped .primitive (primitive d)
    | "pointer" =>
      Reader.record "struct variant Type::Pointer" {} (ReferenceParts.finish "pointee" .pointer) d
        fun e _ =>
          [rule "mutability" false (·.mutability) (fun s m => { s with mutability := some m })
              (mutability e),
            rule "pointee" true (·.target) (fun s t => { s with target := some t }) (ty e)]
    | "string" =>
      Reader.record "struct variant Type::String" none
        (fun m => .ok (.string (m.getD .default))) d
        fun e _ => [rule "mutability" false id (fun _ m => some m) (mutability e)]
    | "slice" =>
      Reader.record "struct variant Type::Slice" {} (ReferenceParts.finish "element" .slice) d
        fun e _ =>
          [rule "mutability" false (·.mutability) (fun s m => { s with mutability := some m })
              (mutability e),
            rule "element" true (·.target) (fun s t => { s with target := some t }) (ty e)]
    | "owned" => mapped .owned (ty d)
    | "function" =>
      Reader.record "struct FnSignature" {} (SignatureParts.finish .function) d
        fun e _ =>
          [rule "args" false (·.args) (fun s ts => { s with args := some ts })
              (Reader.list e fun f _ => ty f),
            rule "returns" false (·.returns) (fun s r => { s with returns := some r })
              (Reader.optional (ty e))]
    | "closure" =>
      Reader.record "struct FnSignature" {} (SignatureParts.finish .closure) d
        fun e _ =>
          [rule "args" false (·.args) (fun s ts => { s with args := some ts })
              (Reader.list e fun f _ => ty f),
            rule "returns" false (·.returns) (fun s r => { s with returns := some r })
              (Reader.optional (ty e))]
    | "array" =>
      Reader.record "struct variant Type::Array" {} ArrayParts.finish d
        fun e _ =>
          [rule "element" true (·.element) (fun s t => { s with element := some t }) (ty e),
            rule "len" true (·.len) (fun s n => { s with len := some n }) Reader.word64]
    | _ => mapped .named Reader.string
termination_by depth
decreasing_by all_goals omega

def docs (depth : Nat) : Reader (List String) :=
  Reader.list depth fun _ _ => Reader.string

/-- A declaration while it is being read: its name, its documentation, its members, and what else
belongs to it. -/
structure DeclarationParts (μ ρ : Type) where
  name : Option String := none
  docs : Option (List String) := none
  members : Option μ := none
  extra : Option ρ := none

def nameRule {μ ρ : Type} : FieldRule (DeclarationParts μ ρ) :=
  rule "name" true (·.name) (fun s n => { s with name := some n }) Reader.string

def docsRule {μ ρ : Type} (depth : Nat) : FieldRule (DeclarationParts μ ρ) :=
  rule "docs" false (·.docs) (fun s ls => { s with docs := some ls }) (docs depth)

def membersRule {μ ρ : Type} (name : String) (required : Bool) (reader : Reader μ) :
    FieldRule (DeclarationParts μ ρ) :=
  rule name required (·.members) (fun s m => { s with members := some m }) reader

def named {μ ρ : Type} (s : DeclarationParts μ ρ) (make : String → Except Complaint α) :
    Except Complaint α :=
  match s.name with
  | none => .error (.missingField "name")
  | some name => make name

def typed {ρ : Type} (s : DeclarationParts Ty ρ) (make : Ty → α) : Except Complaint α :=
  match s.members with
  | none => .error (.missingField "ty")
  | some t => .ok (make t)

def field (depth : Nat) : Reader Field :=
  Reader.record "struct Field" ({} : DeclarationParts Ty Unit)
    (fun s => named s fun name => typed s fun ty => { name, ty, docs := s.docs.getD [] }) depth
    fun d _ => [nameRule, membersRule "ty" true (ty d), docsRule d]

def struct (depth : Nat) : Reader Struct :=
  Reader.record "struct Struct" ({} : DeclarationParts (List Field) Unit)
    (fun s => named s fun name =>
      .ok { name, docs := s.docs.getD [], fields := s.members.getD [] }) depth
    fun d _ =>
      [nameRule, docsRule d, membersRule "fields" false (Reader.list d fun e _ => field e)]

def abstractStruct (depth : Nat) : Reader AbstractStruct :=
  Reader.record "struct AbstractStruct" ({} : DeclarationParts Unit Unit)
    (fun s => named s fun name => .ok { name, docs := s.docs.getD [] }) depth
    fun d _ => [nameRule, docsRule d]

def param (depth : Nat) : Reader Param :=
  Reader.record "struct Arg" ({} : DeclarationParts Ty Unit)
    (fun s => named s fun name => typed s fun ty => { name, ty }) depth
    fun d _ => [nameRule, membersRule "ty" true (ty d)]

def function (depth : Nat) : Reader Function :=
  Reader.record "struct Function" ({} : DeclarationParts (List Param) (Option Ty))
    (fun s => named s fun name => .ok
      { name
        docs := s.docs.getD []
        params := s.members.getD []
        returns := s.extra.getD none }) depth
    fun d _ =>
      [nameRule, docsRule d, membersRule "args" false (Reader.list d fun e _ => param e),
        rule "returns" false (·.extra) (fun s r => { s with extra := some r })
          (Reader.optional (ty d))]

structure ItemsParts where
  structs : Option (List Struct) := none
  abstractStructs : Option (List AbstractStruct) := none
  functions : Option (List Function) := none

def ItemsParts.finish (s : ItemsParts) : Except Complaint Items :=
  .ok
    { structs := s.structs.getD []
      abstractStructs := s.abstractStructs.getD []
      functions := s.functions.getD [] }

def items (depth : Nat) : Reader Items :=
  Reader.record "struct Items" {} ItemsParts.finish depth fun d _ =>
    [rule "structs" false (·.structs) (fun s ss => { s with structs := some ss })
        (Reader.list d fun e _ => struct e),
      rule "abstract_structs" false (·.abstractStructs)
        (fun s ss => { s with abstractStructs := some ss })
        (Reader.list d fun e _ => abstractStruct e),
      rule "functions" false (·.functions) (fun s fs => { s with functions := some fs })
        (Reader.list d fun e _ => function e)]

end Bindery.Reading

namespace Bindery

def Ty.parse (text : String) : Except Json.ReadError Ty :=
  Json.Reader.text (Reading.ty Json.Reader.depthLimit) text

def Items.parse (text : String) : Except Json.ReadError Items :=
  Json.Reader.text (Reading.items Json.Reader.depthLimit) text

end Bindery
