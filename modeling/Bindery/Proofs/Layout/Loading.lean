import Bindery.Proofs.Layout.Described
import Mathlib.Data.List.Pairwise

set_option autoImplicit false
set_option relaxedAutoImplicit false

/-!
The loader module is read next to its description. What is looked up in the fixed part is found
there at any time, since no class can have its names. Once all classes are open, the expression of a
type gives a type of the extent that the description says, unless the function around it hides a
name that the expression mentions: then it gives nothing at all.
-/

namespace Bindery.Loader

open Layout

/-! ### Expressions -/

section Expressions

variable {m : Machine} {lookUp : String → Referent} {call : Factory → List Value → Option Value}

mutual

theorem Expr.value?_eq_none {name : String} (useless : lookUp name = .other) :
    (e : Expr) → name ∈ e.names → e.value? m lookUp call = none
  | .name text, mention => by
    obtain rfl := List.mem_singleton.mp mention
    simp [Expr.value?, useless]
  | .absent, mention => absurd mention List.not_mem_nil
  | .member text, mention => by
    obtain rfl := List.mem_singleton.mp mention
    simp [Expr.value?, useless]
  | .call callee args, mention => by
    -- The callee is looked up first; if it is there, the arguments fail.
    have arguments := Expr.values?_eq_none useless args
    rcases List.mem_append.mp mention with inCallee | inArgs
    · cases callee with
      | member text =>
        obtain rfl := List.mem_singleton.mp inCallee
        simp [Expr.value?, useless]
      | name text =>
        obtain rfl := List.mem_singleton.mp inCallee
        simp [Expr.value?, useless]
      | _ => simp [Expr.value?]
    · cases callee with
      | member text => cases found : lookUp "ct" <;> simp [Expr.value?, arguments inArgs, found]
      | name text => cases found : lookUp text <;> simp [Expr.value?, arguments inArgs, found]
      | _ => simp [Expr.value?]
  | .array element len, mention => by
    simp [Expr.value?, Expr.value?_eq_none useless element mention]
  | .spread text, mention => by simp [Expr.value?]

theorem Expr.values?_eq_none {name : String} (useless : lookUp name = .other) :
    (es : List Expr) → name ∈ Expr.namesAll es → Expr.values? m lookUp call es = none
  | [], mention => absurd mention List.not_mem_nil
  | e :: es, mention => by
    rcases List.mem_append.mp mention with inFirst | inRest
    · have first := Expr.value?_eq_none useless e inFirst
      cases e with
      | spread text =>
        obtain rfl := List.mem_singleton.mp inFirst
        simp [Expr.values?, useless]
      | _ => simp [Expr.values?, first]
    · have rest := Expr.values?_eq_none useless es inRest
      cases e with
      | spread text => cases found : lookUp text <;> simp [Expr.values?, rest, found]
      | _ => simp [Expr.values?, rest]

end

theorem denote_ne_spread (t : Ty) (text : String) : denote t ≠ .spread text := by
  induction t using Ty.size_induction with
  | step t ih =>
    cases t with
    | owned inner =>
      have content := ih inner (Ty.size_lt_of_mem_children List.mem_cons_self)
      cases inner <;> simp_all [denote]
    | _ => simp [denote, pointerExpr, callbackExpr]

theorem values?_denote_cons (t : Ty) (es : List Expr) :
    Expr.values? m lookUp call (denote t :: es) =
      ((denote t).value? m lookUp call).bind fun v =>
        (Expr.values? m lookUp call es).map (v :: ·) := by
  rw [Expr.values?]
  exact denote_ne_spread t

theorem values?_denoteAll {extent : Ty → Option Extent} {ts : List Ty}
    (each : ∀ t ∈ ts, (denote t).value? m lookUp call = some (.type (extent t))) :
    Expr.values? m lookUp call (denoteAll ts) = some (ts.map fun t => .type (extent t)) := by
  induction ts with
  | nil => rfl
  | cons t ts ih =>
    have rest := ih fun u member => each u (List.mem_cons_of_mem _ member)
    rw [denoteAll, values?_denote_cons, each t List.mem_cons_self, rest]
    rfl

theorem values?_signature {extent : Ty → Option Extent} {args : List Ty} {returns : Option Ty}
    (each : ∀ t ∈ args ++ returns.toList,
      (denote t).value? m lookUp call = some (.type (extent t))) :
    ∃ result, Expr.values? m lookUp call (denoteResult returns :: denoteAll args) =
      some (result :: args.map fun t => .type (extent t)) := by
  have arguments := values?_denoteAll fun t member => each t (List.mem_append_left _ member)
  cases returns with
  | none => exact ⟨.absent, by simp [denoteResult, Expr.values?, Expr.value?, arguments]⟩
  | some t =>
    have result := each t (List.mem_append_right _ List.mem_cons_self)
    exact ⟨.type (extent t), by rw [denoteResult, values?_denote_cons, result, arguments]; rfl⟩

end Expressions

/-! ### The fixed part -/

theorem binds_support_unique {s t : Statement} (first : s ∈ supportStatements)
    (second : t ∈ supportStatements) {name : String} (own : name ∈ s.binds)
    (also : name ∈ t.binds) : s = t := by
  have apart : (supportStatements.map Statement.binds).Pairwise List.Disjoint := by
    rw [map_binds_support]
    simp
  have symmetric : Std.Symm fun s t : Statement => s.binds.Disjoint t.binds :=
    ⟨fun _ _ disjoint _ later earlier => disjoint earlier later⟩
  by_contra different
  exact (List.pairwise_map.mp apart).forall first second different own also

/-- All classes are open: the statements in front of the layouts have run, and only statements of
the module. -/
structure ClassesOpen (options : Options) (items : Items) (run : List Statement) : Prop where
  front : front items <+: run
  within : run ⊆ statements options items

theorem ClassesOpen.deep {options : Options} {items : Items} {run : List Statement}
    (opened : ClassesOpen options items run) : ∃ depth, run.length = depth + 2 := by
  have long := opened.front.length_le
  have support : 7 ≤ (Loader.front items).length := by simp [Loader.front, supportStatements]
  exact ⟨run.length - 2, by omega⟩

section Lookup

variable {m : Machine} {options : Options} {items : Items} {scope : Scope}

theorem lookUp_inner (scope : Scope) {hidden : List String} {name : String}
    (inner : name ∉ words ∧ name ∈ hidden) (held : Named Referent) :
    scope.lookUp ⟨hidden, held⟩ name = (held.get? name).getD .other := by
  simp only [Scope.lookUp, meaning_of_hidden inner.1 inner.2]

variable (free : ∀ name ∈ classNames items, name ∉ reserved)
  (opened : ClassesOpen options items scope.defined)

include free opened

theorem meaning_support {s : Statement} (member : s ∈ supportStatements) {name : String}
    (binds : name ∈ s.binds) {locals : List String} (unhidden : name ∉ locals) :
    meaning locals scope.defined name = .bound s := by
  have kept := mem_fixedNames_of_support member binds
  have only : ∀ t ∈ scope.defined, name ∈ t.binds → t = s := by
    intro t stored also
    rcases binding_cases (opened.within stored) also with support | ⟨listed, -⟩ | rfl
    · exact binds_support_unique support member also binds
    · exact absurd (fixedNames_reserved name kept) (free name listed)
    · have later : ∀ names ∈ supportStatements.map Statement.binds, "load" ∉ names := by
        rw [map_binds_support]
        decide
      exact absurd binds (later s.binds (List.mem_map_of_mem member))
  have stored : s ∈ scope.defined :=
    opened.front.subset (List.mem_append_left _ (List.mem_append_left _ member))
  obtain ⟨_, rfl, found⟩ :=
    exists_meaning (fixedNames_noWord name kept) unhidden ⟨s, stored, binds⟩ only
  exact found

theorem lookUp_library {hidden : List String} (outer : "ct" ∉ hidden) (held : Named Referent) :
    scope.lookUp ⟨hidden, held⟩ "ct" = .library := by
  have binds : "ct" ∈ (Statement.other importLines).binds := by
    simp [Statement.binds, boundNames_importLines]
  have imports : importsLibrary importLines "ct" = true := by decide +kernel
  have found := meaning_support free opened List.mem_cons_self binds outer
  simp only [Scope.lookUp, found, imports, if_true]

theorem lookUp_factory {f : Factory} (member : .factory f ∈ supportStatements)
    {hidden : List String} (outer : f.name ∉ hidden) (held : Named Referent) :
    scope.lookUp ⟨hidden, held⟩ f.name = .factory f := by
  have found := meaning_support free opened member List.mem_cons_self outer
  simp only [Scope.lookUp, found]

theorem lookUp_class {name : String} (listed : name ∈ classNames items) (noWord : name ∉ words)
    {hidden : List String} (outer : name ∉ hidden) (held : Named Referent) :
    scope.lookUp ⟨hidden, held⟩ name =
      .value (.type ((scope.structs.get? name).map StructLayout.extent)) := by
  obtain ⟨docs, found⟩ :=
    standsForClass free listed noWord outer opened.front.subset opened.within
  simp only [Scope.lookUp, found]

/-! ### What the factories make -/

theorem call_slice (depth : Nat) (v : Value) :
    call m scope (depth + 1) sliceClass [v] = some (.type (some (viewLayout m).extent)) := by
  have library := lookUp_library free opened (by decide : "ct" ∉ sliceClass.hidden)
  have inner {name} (own : name ∉ words ∧ name ∈ sliceClass.hidden) := lookUp_inner scope own
  have takes : sliceClass.take? [v] = some [("element", .value v)] := rfl
  have locals : sliceClass.locals = [("pointer", pointerExpr (.name "element"))] := rfl
  have fields : sliceClass.fields = [("data", .name "pointer"), ("len", .member "c_size_t")] := rfl
  have element := inner (by decide : "element" ∉ words ∧ _)
  have pointer := inner (by decide : "pointer" ∉ words ∧ _)
  simp only [call, takes, locals, fields, List.foldlM, List.mapM_cons, List.mapM_nil, pointerExpr,
    fieldExtent?, Expr.value?, Expr.values?, library, element, pointer]
  rfl

theorem call_ownedPtr (depth : Nat) (v : Value) :
    call m scope (depth + 1) ownedPtrClass [v] =
      some (.type (some (ownedPointerLayout m).extent)) := by
  have library := lookUp_library free opened (by decide : "ct" ∉ ownedPtrClass.hidden)
  have inner {name} (own : name ∉ words ∧ name ∈ ownedPtrClass.hidden) := lookUp_inner scope own
  have takes : ownedPtrClass.take? [v] = some [("element", .value v)] := rfl
  have locals : ownedPtrClass.locals = [("pointer", pointerExpr (.name "element"))] := rfl
  have fields : ownedPtrClass.fields =
    [("data", .name "pointer"), ("deleter", callbackExpr .absent [.name "pointer"])] := rfl
  have element := inner (by decide : "element" ∉ words ∧ _)
  have pointer := inner (by decide : "pointer" ∉ words ∧ _)
  simp only [call, takes, locals, fields, List.foldlM, List.mapM_cons, List.mapM_nil, pointerExpr,
    callbackExpr, fieldExtent?, Expr.value?, Expr.values?, library, element, pointer]
  rfl

theorem call_ownedSlice (depth : Nat) (v : Value) :
    call m scope (depth + 2) ownedSliceClass [v] =
      some (.type (some (ownedSliceLayout m).extent)) := by
  have library := lookUp_library free opened (by decide : "ct" ∉ ownedSliceClass.hidden)
  have slice (held) : scope.lookUp ⟨ownedSliceClass.hidden, held⟩ "Slice" = .factory sliceClass :=
    lookUp_factory (f := sliceClass) free opened (by simp [supportStatements]) (by decide) held
  have inner {name} (own : name ∉ words ∧ name ∈ ownedSliceClass.hidden) := lookUp_inner scope own
  have takes : ownedSliceClass.take? [v] = some [("element", .value v)] := rfl
  have locals : ownedSliceClass.locals = [("view", .call (.name "Slice") [.name "element"])] := rfl
  have fields : ownedSliceClass.fields =
    [("slice", .name "view"), ("deleter", callbackExpr .absent [.name "view"])] := rfl
  have element := inner (by decide : "element" ∉ words ∧ _)
  have view := inner (by decide : "view" ∉ words ∧ _)
  rw [call]
  simp only [takes, locals, fields, List.foldlM, List.mapM_cons, List.mapM_nil, callbackExpr,
    fieldExtent?, Expr.value?, Expr.values?, library, slice, element, view, Named.get?_cons,
    Option.bind_eq_bind, Option.bind_some, Option.map_some, Option.getD_some, if_true,
    call_slice free opened]
  rfl

theorem call_closure (depth : Nat) (result : Value) {types : List Value}
    (all : types.all Value.isType = true) :
    call m scope (depth + 1) closureClass (result :: types) =
      some (.type (some (closureLayout m).extent)) := by
  have library := lookUp_library free opened (by decide : "ct" ∉ closureClass.hidden)
  have inner {name} (own : name ∉ words ∧ name ∈ closureClass.hidden) := lookUp_inner scope own
  have takes : closureClass.take? (result :: types) =
      some [("restype", .value result), ("argtypes", .values types)] := by
    simp [Factory.take?, closureClass]
  have locals : closureClass.locals =
    [("caller", callbackExpr (.name "restype") [.member "c_void_p", .spread "argtypes"]),
      ("deleter", callbackExpr .absent [.member "c_void_p"])] := rfl
  have fields : closureClass.fields = [("caller", .name "caller"), ("state", .member "c_void_p"),
    ("deleter", .name "deleter")] := rfl
  have restype := inner (by decide : "restype" ∉ words ∧ _)
  have argtypes := inner (by decide : "argtypes" ∉ words ∧ _)
  have caller := inner (by decide : "caller" ∉ words ∧ _)
  have deleter := inner (by decide : "deleter" ∉ words ∧ _)
  have callback : libraryCall? m "CFUNCTYPE" (result :: .type (some (m.extent .address)) :: types) =
      some (.type (some (m.extent .address))) := if_pos all
  simp only [call, takes, locals, fields, List.foldlM, List.mapM_cons, List.mapM_nil, callbackExpr,
    fieldExtent?, Expr.value?, Expr.values?, library, restype, argtypes, caller, deleter,
    Named.get?_cons, Option.bind_eq_bind, Option.bind_some, Option.map_some, Option.getD_some,
    String.reduceEq, if_true, if_false, scalar?, List.append_nil, callback]
  rfl

/-! ### Types -/

section Types

variable {locals : List String} (plain : ∀ name ∈ fixedNames, name ∉ locals)

include plain

theorem value?_libraryCall (makes : Factory → List Value → Option Value) (text : String)
    (args : List Expr) :
    (Expr.call (.member text) args).value? m (scope.lookUp { hidden := locals }) makes =
      (Expr.values? m (scope.lookUp { hidden := locals }) makes args).bind
        (libraryCall? m text) := by
  simp only [Expr.value?, lookUp_library free opened (plain "ct" (by decide))]

theorem value?_factoryCall (makes : Factory → List Value → Option Value) {f : Factory}
    (member : .factory f ∈ supportStatements) (args : List Expr) :
    (Expr.call (.name f.name) args).value? m (scope.lookUp { hidden := locals }) makes =
      (Expr.values? m (scope.lookUp { hidden := locals }) makes args).bind (makes f) := by
  have outer : f.name ∉ locals :=
    plain f.name (mem_fixedNames_of_support member List.mem_cons_self)
  simp only [Expr.value?, lookUp_factory free opened member outer]

/-- The expression of a type gives a type of its extent where nothing hides the structs inside. -/
theorem value?_denote (depth : Nat) {t : Ty} (owns : t.OwnsReferences)
    (known : ∀ name, (Ty.named name).Inside t →
      name ∈ classNames items ∧ name ∉ words ∧ name ∉ locals) :
    (denote t).value? m (scope.lookUp { hidden := locals }) (call m scope (depth + 2)) =
      some (.type (Layout.extent? m scope.structs t)) := by
  have library := lookUp_library free opened (plain "ct" (by decide))
  have libraryCall := value?_libraryCall (m := m) free opened plain (call m scope (depth + 2))
  have factoryCall {f : Factory} (member : .factory f ∈ supportStatements) :=
    value?_factoryCall (m := m) free opened plain (call m scope (depth + 2)) member
  induction t using Ty.size_induction with
  | step t ih =>
    have inside : ∀ u ∈ t.children,
        (denote u).value? m (scope.lookUp { hidden := locals }) (call m scope (depth + 2)) =
          some (.type (Layout.extent? m scope.structs u)) := fun u child =>
      ih u (Ty.size_lt_of_mem_children child) (owns.child child)
        fun name within => known name (Ty.inside_of_child child within)
    cases t with
    | primitive p => cases p <;> simp only [denote, Expr.value?, library] <;> rfl
    | string _ => simp only [denote, Expr.value?, library]; rfl
    | named name =>
      obtain ⟨listed, noWord, unhidden⟩ := known name .refl
      simp only [denote, Expr.value?, lookUp_class free opened listed noWord unhidden,
        Layout.extent?]
    | pointer _ pointee =>
      rw [denote, pointerExpr, libraryCall, values?_denote_cons, inside pointee List.mem_cons_self]
      rfl
    | slice _ element =>
      refine (factoryCall (f := sliceClass) (by simp [supportStatements]) _).trans ?_
      rw [values?_denote_cons, inside element List.mem_cons_self]
      exact call_slice free opened (depth + 1) _
    | array element len =>
      rw [denote, Expr.value?, inside element List.mem_cons_self, Layout.extent?]
    | function args returns =>
      obtain ⟨result, signature⟩ := values?_signature inside
      rw [denote, callbackExpr, libraryCall, signature]
      simp [libraryCall?, Value.isType, Layout.extent?, fixedExtent]
    | closure args returns =>
      obtain ⟨result, signature⟩ := values?_signature inside
      refine (factoryCall (f := closureClass) (by simp [supportStatements]) _).trans ?_
      rw [signature]
      exact call_closure free opened (depth + 1) result (by simp [Value.isType])
    | owned inner =>
      have reference := owns inner .refl
      have content : ∀ u ∈ inner.children,
          (denote u).value? m (scope.lookUp { hidden := locals }) (call m scope (depth + 2)) =
            some (.type (Layout.extent? m scope.structs u)) := fun u child =>
        ih u (Ty.size_lt_of_owned child) ((owns.child List.mem_cons_self).child child)
          fun name within => known name
            (Ty.inside_of_child List.mem_cons_self (Ty.inside_of_child child within))
      cases inner with
      | pointer _ pointee =>
        refine (factoryCall (f := ownedPtrClass) (by simp [supportStatements]) _).trans ?_
        rw [values?_denote_cons, content pointee List.mem_cons_self]
        exact call_ownedPtr free opened (depth + 1) _
      | slice _ element =>
        refine (factoryCall (f := ownedSliceClass) (by simp [supportStatements]) _).trans ?_
        rw [values?_denote_cons, content element List.mem_cons_self]
        exact call_ownedSlice free opened depth _
      | _ => cases reference

end Types

/-! ### Structs and functions -/

section Reading

variable (usable : ∀ name ∈ classNames items, name ∉ words)

include usable

theorem read_layout {s : Struct} (struct : s.name ∈ classNames items)
    (owns : ∀ f ∈ s.fields, f.ty.OwnsReferences)
    (known : ∀ f ∈ s.fields, ∀ name, (Ty.named name).Inside f.ty → name ∈ classNames items) :
    (Statement.layout s.name (typedNames s)).read m scope =
      (addLayout m scope.structs s).map fun structs => { scope with structs } := by
  obtain ⟨depth, deep⟩ := opened.deep
  have plain : ∀ name ∈ fixedNames, name ∉ ([] : List String) := fun _ _ => List.not_mem_nil
  have members : (typedNames s).mapM
      (fieldExtent? m (scope.lookUp {}) (call m scope scope.defined.length)) =
        s.fields.mapM fun f => (Layout.extent? m scope.structs f.ty).map fun e => (f.name, e) := by
    rw [typedNames, List.mapM_map, deep]
    refine mapM_congr fun f field => ?_
    have given := value?_denote (m := m) free opened plain depth (owns f field) fun name inside =>
      ⟨known f field name inside, usable name (known f field name inside), List.not_mem_nil⟩
    exact congrArg (fun v => (Option.bind v Value.extent?).map fun e => (f.name, e)) given
  obtain ⟨docs, found⟩ := standsForClass free struct (usable _ struct) List.not_mem_nil
    opened.front.subset opened.within
  simp only [Statement.read, found, members, addLayout, structLayout?]
  cases s.fields.mapM fun f =>
    (Layout.extent? m scope.structs f.ty).map fun e => (f.name, e) <;> rfl

theorem read_symbol {locals : List String} (plain : ∀ name ∈ fixedNames, name ∉ locals)
    {f : Function} (owns : ∀ t ∈ f.params.map Param.ty ++ f.returns.toList, t.OwnsReferences)
    (known : ∀ t ∈ f.params.map Param.ty ++ f.returns.toList, ∀ name, (Ty.named name).Inside t →
      name ∈ classNames items ∧ name ∉ locals) :
    (symbolOf options f).read m (scope.lookUp { hidden := locals })
        (call m scope scope.defined.length) =
      functionLayout? m options scope.structs f := by
  obtain ⟨depth, deep⟩ := opened.deep
  have given (t) (used : t ∈ f.params.map Param.ty ++ f.returns.toList) :
      (denote t).value? m (scope.lookUp { hidden := locals }) (call m scope (depth + 2)) =
        some (.type (Layout.extent? m scope.structs t)) :=
    value?_denote free opened plain depth (owns t used) fun name inside =>
      have ⟨listed, unhidden⟩ := known t used name inside
      ⟨listed, usable name listed, unhidden⟩
  have params : (f.params.map fun p => denote p.ty).mapM (fun e =>
      (e.value? m (scope.lookUp { hidden := locals }) (call m scope (depth + 2))).bind
        Value.extent?) = f.params.mapM fun p => Layout.extent? m scope.structs p.ty := by
    rw [List.mapM_map]
    refine mapM_congr fun p param => ?_
    exact congrArg (Option.bind · Value.extent?)
      (given p.ty (List.mem_append_left _ (List.mem_map_of_mem param)))
  have result : ((denoteResult f.returns).value? m (scope.lookUp { hidden := locals })
      (call m scope (depth + 2))).bind Value.resultExtent? =
        Layout.resultExtent? m scope.structs f.returns := by
    cases returns : f.returns with
    | none => rfl
    | some t =>
      rw [denoteResult, given t (by simp [returns])]
      rfl
  rw [deep, Symbol.read, symbolOf, params, result]
  rfl

end Reading

end Lookup

theorem read_symbol_hidden {m : Machine} {options : Options} {scope : Scope} {locals : List String}
    {f : Function} {t : Ty} (used : t ∈ f.params.map Param.ty ++ f.returns.toList) {name : String}
    (inside : (Ty.named name).Inside t) (free : name ∉ reserved) (noWord : name ∉ words)
    (hidden : name ∈ locals) (makes : Factory → List Value → Option Value) :
    (symbolOf options f).read m (scope.lookUp { hidden := locals }) makes = none := by
  have useless : scope.lookUp { hidden := locals } name = .other :=
    lookUp_inner scope ⟨noWord, hidden⟩ []
  have failed : (denote t).value? m (scope.lookUp { hidden := locals }) makes = none :=
    Expr.value?_eq_none useless _ ((mem_names_denote free).mpr inside)
  rcases List.mem_append.mp used with param | result
  · obtain ⟨p, member, rfl⟩ := List.mem_map.mp param
    have params : (symbolOf options f).args.mapM (fun e =>
        (e.value? m (scope.lookUp { hidden := locals }) makes).bind Value.extent?) = none :=
      mapM_eq_none (List.mem_map.mpr ⟨p, member, rfl⟩) (by rw [failed]; rfl)
    rw [Symbol.read, params]
    rfl
  · have returns : f.returns = some t := by simpa using result
    simp [Symbol.read, symbolOf, returns, denoteResult, failed]

/-! ### The module -/

section Module

variable {m : Machine} {scope : Scope} {s : Statement}

theorem read_of_bindable (noLayout : ∀ name fields, s ≠ .layout name fields)
    (bindable : ∀ name ∈ s.binds, name ∉ words) :
    s.read m scope = some { scope with defined := scope.defined ++ [s] } := by
  have clear : (s.binds.any fun name => words.contains name) = false := by simpa using bindable
  cases s with
  | layout name fields => exact absurd rfl (noLayout name fields)
  | _ => simp only [Statement.read, clear]; rfl

theorem read_of_word {name : String} (binds : name ∈ s.binds) (word : name ∈ words)
    (scope : Scope) :
    s.read m scope = none := by
  have taken : (s.binds.any fun name => words.contains name) = true :=
    List.any_eq_true.mpr ⟨name, binds, by simpa using word⟩
  cases s with
  | layout name fields => simp [Statement.binds] at binds
  | _ => simp only [Statement.read, taken]; rfl

theorem readFrom_defining (scope : Scope) {contents : List Statement}
    (noLayout : ∀ s ∈ contents, ∀ name fields, s ≠ .layout name fields)
    (bindable : ∀ s ∈ contents, ∀ name ∈ s.binds, name ∉ words) :
    readFrom m scope contents = some { scope with defined := scope.defined ++ contents } := by
  induction contents generalizing scope with
  | nil => simp [readFrom]
  | cons s contents ih =>
    obtain ⟨first, others⟩ := List.forall_mem_cons.mp noLayout
    obtain ⟨here, later⟩ := List.forall_mem_cons.mp bindable
    rw [readFrom, List.foldlM_cons, read_of_bindable first here]
    simpa [readFrom] using ih { scope with defined := scope.defined ++ [s] } others later

theorem readFrom_append (scope : Scope) (first second : List Statement) :
    readFrom m scope (first ++ second) = (readFrom m scope first).bind (readFrom m · second) :=
  List.foldlM_append

end Module

section Assembly

variable {m : Machine} {options : Options} {items : Items}

theorem front_noLayout {s : Statement} (member : s ∈ front items) (name : String)
    (fields : List TypedName) : s ≠ .layout name fields := by
  have fixed : ∀ s ∈ supportStatements, s ≠ .layout name fields := by simp [supportStatements]
  rcases front_cases member with support | ⟨own, -, docs, rfl⟩
  · exact fixed s support
  · simp

theorem front_routine {s : Statement} (member : s ∈ front items) : s.routine = none := by
  have fixed : ∀ s ∈ supportStatements, s.routine = none := by
    simp [supportStatements, Statement.routine]
  rcases front_cases member with support | ⟨own, -, docs, rfl⟩
  · exact fixed s support
  · rfl

/-- What is left of the names in a loader module once it has been read to its end. -/
def loaded (options : Options) (items : Items) : List Statement :=
  front items ++ [loadStatement options items]

theorem front_open : ClassesOpen options items (front items) :=
  ⟨List.prefix_refl _, front_subset⟩

theorem loaded_open : ClassesOpen options items (loaded options items) :=
  ⟨List.prefix_append _ _, List.append_subset.mpr ⟨front_subset, List.subset_append_right _ _⟩⟩

theorem readFrom_statements_eq_none (unusable : "__debug__" ∈ classNames items) :
    readFrom m {} (statements options items) = none := by
  obtain ⟨s, member, binds⟩ := opened_of_class unusable
  exact foldlM_eq_none (front_subset member) (read_of_word binds (by decide)) {}

theorem functions?_loaded (structs : Named StructLayout) :
    Scope.functions? m { defined := loaded options items, structs } =
      items.functions.mapM fun f =>
        (symbolOf options f).read m
          (Scope.lookUp { defined := loaded options items, structs } { hidden := ["path", "lib"] })
          (call m { defined := loaded options items, structs } (loaded options items).length) := by
  have none : (front items).filterMap Statement.routine = [] :=
    List.filterMap_eq_nil_iff.mpr fun s => front_routine
  have one : (loaded options items).filterMap Statement.routine =
      [loading (loadDocs options items.functions) (items.functions.map (symbolOf options))] := by
    rw [loaded, List.filterMap_append, none]
    rfl
  have single (scope : Scope) (r : Routine) :
      ([r].mapM (Routine.read m scope)).map List.flatten = r.read m scope := by
    cases read : r.read m scope <;> simp [read]
  rw [Scope.functions?, one, single, Routine.read, symbols_loading, locals_loading, List.mapM_map]
  rfl

variable (free : ∀ name ∈ classNames items, name ∉ reserved)
  (known : ∀ t ∈ Header.declaredTypes items, ∀ name, (Ty.named name).Inside t →
    name ∈ classNames items)
  (owns : ∀ t ∈ Header.declaredTypes items, t.OwnsReferences)

include free known owns

theorem read_layouts (usable : "__debug__" ∉ classNames items) :
    readFrom m { defined := front items }
        (items.structs.map fun s => .layout s.name (typedNames s)) =
      (items.structs.foldlM (addLayout m) []).map fun structs =>
        { defined := front items, structs } := by
  let state (structs : Named StructLayout) : Scope := { defined := front items, structs }
  rw [readFrom, List.foldlM_map]
  refine foldlM_view state ?_ []
  intro structs s struct
  have named : s.name ∈ classNames items := List.mem_append_right _ (List.mem_map_of_mem struct)
  have declared := fun f field => Items.field_mem_declaredTypes (f := f) struct field
  have opened : ClassesOpen {} items (state structs).defined := front_open
  exact read_layout free opened (fun _ => notMem_words_of_class free usable) named
    (fun f field => owns _ (declared f field)) fun f field => known _ (declared f field)

theorem readFrom_statements (usable : "__debug__" ∉ classNames items) :
    readFrom m {} (statements options items) =
      (items.structs.foldlM (addLayout m) []).map fun structs =>
        { defined := loaded options items, structs } := by
  have bindable : ∀ s ∈ statements options items, ∀ name ∈ s.binds, name ∉ words :=
    (bindable_iff free).mpr usable
  have first : readFrom m {} (front items) = some { defined := front items } :=
    readFrom_defining {} (fun s => front_noLayout) fun s member => bindable s (front_subset member)
  have last (scope : Scope) : readFrom m scope [loadStatement options items] =
      some { scope with defined := scope.defined ++ [loadStatement options items] } :=
    readFrom_defining scope (by simp [loadStatement]) fun s member =>
      bindable s (List.mem_append_right _ member)
  rw [statements_eq, readFrom_append, readFrom_append, first, Option.bind_some,
    read_layouts free known owns usable]
  cases items.structs.foldlM (addLayout m) [] with
  | none => rfl
  | some structs => exact last { defined := front items, structs }

theorem functions?_eq (usable : "__debug__" ∉ classNames items) (structs : Named StructLayout)
    (clear : ∀ f ∈ items.functions, ∀ t ∈ f.params.map Param.ty ++ f.returns.toList,
      ¬ (Ty.named "path").Inside t ∧ ¬ (Ty.named "lib").Inside t) :
    Scope.functions? m { defined := loaded options items, structs } =
      items.functions.mapM (functionLayout? m options structs) := by
  rw [functions?_loaded]
  refine mapM_congr fun f function => ?_
  have declared := fun t used => Items.signature_mem_declaredTypes (t := t) function used
  have plain : ∀ name ∈ fixedNames, name ∉ ["path", "lib"] := by decide
  let scope : Scope := { defined := loaded options items, structs }
  have opened : ClassesOpen options items scope.defined := loaded_open
  refine read_symbol free opened (fun _ => notMem_words_of_class free usable) plain
    (fun t used => owns t (declared t used)) fun t used name inside => ?_
  refine ⟨known t (declared t used) name inside, fun hidden => ?_⟩
  obtain ⟨noPath, noLib⟩ := clear f function t used
  rcases List.mem_cons.mp hidden with rfl | rest
  · exact noPath inside
  · obtain rfl := List.mem_singleton.mp rest
    exact noLib inside

omit owns in
/-- Running the loading function fails if it hides a struct of a signature. -/
theorem functions?_eq_none (structs : Named StructLayout) {f : Function}
    (function : f ∈ items.functions) {t : Ty}
    (used : t ∈ f.params.map Param.ty ++ f.returns.toList)
    (hidden : (Ty.named "path").Inside t ∨ (Ty.named "lib").Inside t) :
    Scope.functions? m { defined := loaded options items, structs } = none := by
  have fails : ∀ name ∈ ["path", "lib"], (Ty.named name).Inside t →
      Scope.functions? m { defined := loaded options items, structs } = none := by
    intro name listed inside
    have noWord : ∀ name ∈ ["path", "lib"], name ∉ words := by decide
    have unreserved :=
      free name (known t (Items.signature_mem_declaredTypes function used) name inside)
    rw [functions?_loaded]
    exact mapM_eq_none function
      (read_symbol_hidden used inside unreserved (noWord name listed) listed _)
  rcases hidden with path | lib
  · exact fails "path" (by decide) path
  · exact fails "lib" (by decide) lib

end Assembly

end Bindery.Loader
