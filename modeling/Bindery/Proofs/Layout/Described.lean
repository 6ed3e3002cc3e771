import Bindery.Proofs.Header.Parts
import Bindery.Proofs.Layout.Reading
import Bindery.Proofs.Named
import Mathlib.Data.List.Induction

set_option autoImplicit false
set_option relaxedAutoImplicit false

/-!
The memory that a description stands for, without any file. A type that is carried by a struct of
its own has a fixed extent, whatever it is made of, and all other types get theirs from the structs
before them. Once the structs stand in layout order, each of them has a layout.
-/

namespace Bindery.Layout

section Runs

variable {α β σ τ : Type}

theorem exists_mapM {f : α → Option β} {seen : α → σ} {view : β → σ} {as : List α}
    (each : ∀ a ∈ as, ∃ b, f a = some b ∧ view b = seen a) :
    ∃ bs, as.mapM f = some bs ∧ bs.map view = as.map seen := by
  induction as with
  | nil => exact ⟨[], rfl, rfl⟩
  | cons a as ih =>
    obtain ⟨b, found, same⟩ := each a List.mem_cons_self
    obtain ⟨bs, rest, others⟩ := ih fun c member => each c (List.mem_cons_of_mem _ member)
    refine ⟨b :: bs, ?_, ?_⟩
    · simp [List.mapM_cons, found, rest]
    · rw [List.map_cons, List.map_cons, same, others]

theorem mapM_congr {f g : α → Option β} {as : List α} (each : ∀ a ∈ as, f a = g a) :
    as.mapM f = as.mapM g := by
  induction as with
  | nil => rfl
  | cons a as ih =>
    have rest := ih fun b member => each b (List.mem_cons_of_mem _ member)
    simp only [List.mapM_cons, each a List.mem_cons_self, rest]

theorem mapM_eq_none {f : α → Option β} {as : List α} {a : α} (member : a ∈ as)
    (fails : f a = none) : as.mapM f = none := by
  induction as with
  | nil => simp at member
  | cons first as ih =>
    rw [List.mapM_cons]
    rcases List.mem_cons.mp member with rfl | later
    · rw [fails]
      rfl
    · rw [ih later]
      cases f first <;> rfl

theorem foldlM_eq_none {f : σ → α → Option σ} {as : List α} {a : α} (member : a ∈ as)
    (fails : ∀ s, f s a = none) (s : σ) : as.foldlM f s = none := by
  induction as generalizing s with
  | nil => simp at member
  | cons first as ih =>
    rw [List.foldlM_cons]
    rcases List.mem_cons.mp member with rfl | later
    · rw [fails]
      rfl
    · cases f s first with
      | none => rfl
      | some s => exact ih later s

theorem foldlM_view {f : σ → α → Option σ} {g : τ → α → Option τ} (view : τ → σ) {as : List α}
    (step : ∀ t, ∀ a ∈ as, f (view t) a = (g t a).map view) (t : τ) :
    as.foldlM f (view t) = (as.foldlM g t).map view := by
  induction as generalizing t with
  | nil => rfl
  | cons a as ih =>
    have rest := ih fun t b member => step t b (List.mem_cons_of_mem _ member)
    rw [List.foldlM_cons, List.foldlM_cons, step t a List.mem_cons_self]
    cases g t a with
    | none => rfl
    | some t => exact rest t

theorem foldlM_collect {f : σ → α → Option σ} {g : α → Option β}
    (holding : List β → σ) {as : List α}
    (step : ∀ bs, ∀ a ∈ as, f (holding bs) a = (g a).map fun b => holding (bs ++ [b]))
    (bs : List β) :
    as.foldlM f (holding bs) = (as.mapM g).map fun more => holding (bs ++ more) := by
  induction as generalizing bs with
  | nil => simp
  | cons a as ih =>
    have rest := ih fun bs c member => step bs c (List.mem_cons_of_mem _ member)
    rw [List.foldlM_cons, List.mapM_cons, step bs a List.mem_cons_self]
    cases g a with
    | none => rfl
    | some b =>
      have next := rest (bs ++ [b])
      cases others : as.mapM g <;> simp_all

theorem foldlM_of_idle {f : σ → α → Option σ} {as : List α} {s : σ}
    (idle : ∀ a ∈ as, f s a = some s) : as.foldlM f s = some s := by
  induction as with
  | nil => rfl
  | cons a as ih =>
    rw [List.foldlM_cons, idle a List.mem_cons_self]
    exact ih fun b member => idle b (List.mem_cons_of_mem _ member)

theorem foldlM_of_eachAfter {f : σ → α → Option σ} (state : List α → σ) {as : List α}
    (steps : EachAfter (fun before a => f (state before) a = some (state (before ++ [a]))) as) :
    as.foldlM f (state []) = some (state as) := by
  have onward : ∀ rest done, as = done ++ rest → rest.foldlM f (state done) = some (state as) := by
    intro rest
    induction rest with
    | nil =>
      rintro done rfl
      simp
    | cons a rest ih =>
      intro done split
      rw [List.foldlM_cons, steps done a rest split]
      exact ih (done ++ [a]) (by simp [split])
  exact onward as [] rfl

end Runs

/-! ### Types -/

def scalarOf : Primitive → Scalar
  | .bool => .boolean
  | .i8 | .u8 => .integer 1
  | .i16 | .u16 => .integer 2
  | .i32 | .u32 => .integer 4
  | .i64 | .u64 => .integer 8
  | .isize | .usize => .word
  | .f32 => .real 4
  | .f64 => .real 8

def viewLayout (m : Machine) : StructLayout :=
  ofMembers [("data", m.extent .address), ("len", m.extent .word)]

def ownedPointerLayout (m : Machine) : StructLayout :=
  ofMembers [("data", m.extent .address), ("deleter", m.extent .address)]

def ownedSliceLayout (m : Machine) : StructLayout :=
  ofMembers [("slice", (viewLayout m).extent), ("deleter", m.extent .address)]

def closureLayout (m : Machine) : StructLayout :=
  ofMembers [("caller", m.extent .address), ("state", m.extent .address),
    ("deleter", m.extent .address)]

/-- The extent of a type that does not depend on what it is made of. -/
def fixedExtent (m : Machine) : Ty → Extent
  | .slice _ _ => (viewLayout m).extent
  | .owned (.pointer _ _) => (ownedPointerLayout m).extent
  | .owned (.slice _ _) => (ownedSliceLayout m).extent
  | .closure _ _ => (closureLayout m).extent
  | _ => m.extent .address

def extent? (m : Machine) (known : Named StructLayout) : Ty → Option Extent
  | .primitive p => some (m.extent (scalarOf p))
  | .named name => (known.get? name).map StructLayout.extent
  | .array element len => (extent? m known element).map fun e => e.times len.toNat
  | t => some (fixedExtent m t)

def resultExtent? (m : Machine) (known : Named StructLayout) : Option Ty → Option (Option Extent)
  | none => some none
  | some t => (extent? m known t).map some

theorem exists_extent {m : Machine} {known : Named StructLayout} {t : Ty}
    (sized : ∀ name, t.byValueName = some name → name ∈ known.map Prod.fst) :
    ∃ e, extent? m known t = some e := by
  fun_induction Ty.byValueName t with
  | case1 name =>
    obtain ⟨layout, found⟩ := Named.exists_get? (sized name rfl)
    exact ⟨layout.extent, by rw [extent?, found, Option.map_some]⟩
  | case2 element len ih =>
    obtain ⟨e, found⟩ := ih sized
    exact ⟨_, by rw [extent?, found, Option.map_some]⟩
  | case3 t noName noArray => cases t <;> simp_all [extent?]

/-! ### Structs and functions -/

def structLayout? (m : Machine) (known : Named StructLayout) (s : Struct) :
    Option StructLayout := do
  let members ← s.fields.mapM fun f => (extent? m known f.ty).map fun e => (f.name, e)
  some (ofMembers members)

def addLayout (m : Machine) (known : Named StructLayout) (s : Struct) :
    Option (Named StructLayout) :=
  (structLayout? m known s).map fun layout => known ++ [(s.name, layout)]

def functionLayout? (m : Machine) (options : Options) (known : Named StructLayout) (f : Function) :
    Option FunctionLayout := do
  let params ← f.params.mapM fun p => extent? m known p.ty
  let result ← resultExtent? m known f.returns
  some ⟨options.symbol f.name, params, result⟩

def layouts? (m : Machine) (options : Options) (items : Items) :
    Option (Named StructLayout × List FunctionLayout) :=
  (items.structs.foldlM (addLayout m) []).bind fun structs =>
    (items.functions.mapM (functionLayout? m options structs)).map fun functions =>
      (structs, functions)

def outline (e : String × StructLayout) : String × List String := (e.1, e.2.offsets.map Prod.fst)

/-- The symbol of a function, the number of its arguments and whether it has a result. -/
def FunctionLayout.shape (f : FunctionLayout) : String × Nat × Bool :=
  (f.symbol, f.params.length, f.result.isSome)

theorem names_of_outlines {known : Named StructLayout} {structs : List Struct}
    (outlines : known.map outline = structs.map fun s => (s.name, s.fields.map Field.name)) :
    known.map Prod.fst = structs.map Struct.name := by
  simpa [Function.comp_def, outline] using congrArg (List.map Prod.fst) outlines

theorem exists_structLayout {m : Machine} {known : Named StructLayout} {s : Struct}
    (sized : ∀ f ∈ s.fields, ∀ name, f.ty.byValueName = some name → name ∈ known.map Prod.fst) :
    ∃ layout, structLayout? m known s = some layout ∧
      layout.offsets.map Prod.fst = s.fields.map Field.name := by
  have each : ∀ f ∈ s.fields, ∃ x : String × Extent,
      ((extent? m known f.ty).map fun e => (f.name, e)) = some x ∧ x.1 = f.name := by
    intro f field
    obtain ⟨e, found⟩ := exists_extent (sized f field)
    exact ⟨(f.name, e), by rw [found, Option.map_some], rfl⟩
  obtain ⟨members, found, names⟩ := exists_mapM each
  exact ⟨ofMembers members, by simp [structLayout?, found], (names_place 0 members).trans names⟩

theorem exists_layouts (m : Machine) {structs : List Struct}
    (ordered : EachAfter (fun before s => ∀ f ∈ s.fields, ∀ name, f.ty.byValueName = some name →
      name ∈ before.map Struct.name) structs) :
    ∃ known, structs.foldlM (addLayout m) [] = some known ∧
      known.map outline = structs.map fun s => (s.name, s.fields.map Field.name) := by
  -- From the front: the last struct finds the layouts of all the others.
  induction structs using List.reverseRecOn with
  | nil => exact ⟨[], rfl, rfl⟩
  | append_singleton structs s ih =>
    obtain ⟨initial, -⟩ := EachAfter.append_iff.mp ordered
    obtain ⟨known, found, outlines⟩ := ih initial
    have sized : ∀ f ∈ s.fields, ∀ name, f.ty.byValueName = some name →
        name ∈ known.map Prod.fst := by
      rw [names_of_outlines outlines]
      exact ordered structs s [] rfl
    obtain ⟨layout, laid, members⟩ := exists_structLayout (m := m) sized
    refine ⟨known ++ [(s.name, layout)], ?_, ?_⟩
    · simp [List.foldlM_append, found, addLayout, laid]
    · simp [outlines, outline, members]

theorem exists_functionLayout (m : Machine) (options : Options) {known : Named StructLayout}
    {f : Function} (sized : ∀ t ∈ f.params.map Param.ty ++ f.returns.toList, ∀ name,
      t.byValueName = some name → name ∈ known.map Prod.fst) :
    ∃ layout, functionLayout? m options known f = some layout ∧
      layout.shape = (options.symbol f.name, f.params.length, f.returns.isSome) := by
  have each : ∀ p ∈ f.params, ∃ e, extent? m known p.ty = some e ∧ () = () := by
    intro p param
    obtain ⟨e, found⟩ := exists_extent (m := m)
      (sized p.ty (List.mem_append_left _ (List.mem_map_of_mem param)))
    exact ⟨e, found, rfl⟩
  obtain ⟨params, found, count⟩ := exists_mapM each
  have length : params.length = f.params.length := by simpa using congrArg List.length count
  cases returns : f.returns with
  | none =>
    refine ⟨⟨options.symbol f.name, params, none⟩, ?_, ?_⟩
    · simp [functionLayout?, found, returns, resultExtent?]
    · simp [FunctionLayout.shape, length]
  | some t =>
    obtain ⟨e, result⟩ := exists_extent (m := m)
      (sized t (List.mem_append_right _ (by simp [returns])))
    refine ⟨⟨options.symbol f.name, params, some e⟩, ?_, ?_⟩
    · simp [functionLayout?, found, returns, resultExtent?, result]
    · simp [FunctionLayout.shape, length]

/-- The layouts of an accepted description: each struct has all its fields and each function all its
arguments. -/
theorem exists_layouts_of_arranged (m : Machine) (options : Options) {items out : Items}
    (arranged : items.arranged = .ok out) :
    ∃ structs functions, layouts? m options out = some (structs, functions) ∧
      structs.map outline = out.structs.map (fun s => (s.name, s.fields.map Field.name)) ∧
      functions.map FunctionLayout.shape = out.functions.map fun f =>
        (options.symbol f.name, f.params.length, f.returns.isSome) := by
  obtain ⟨structs, laid, outlines⟩ := exists_layouts m (Items.contained_before arranged)
  have each : ∀ f ∈ out.functions, ∃ layout, functionLayout? m options structs f = some layout ∧
      layout.shape = (options.symbol f.name, f.params.length, f.returns.isSome) := by
    intro f function
    refine exists_functionLayout m options fun t used name contained => ?_
    rw [names_of_outlines outlines]
    exact Items.mem_structNames_of_declared arranged
      (Items.signature_mem_declaredTypes function used) contained
  obtain ⟨functions, found, shapes⟩ := exists_mapM each
  exact ⟨structs, functions, by simp [layouts?, laid, found], outlines, shapes⟩

end Bindery.Layout
