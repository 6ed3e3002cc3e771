import Bindery.Description.Reading
import Bindery.Description.Writing
import Bindery.Proofs.Json.Reading

set_option autoImplicit false
set_option relaxedAutoImplicit false

/-!
What is written as JSON is read back. The argument follows the description: each part is returned
from its tokens by the reader for that part, provided that the reader may open as many brackets as
the tokens have open at once.
-/

namespace Bindery.Reading

open Json (Token Reader Block)
open Json.Reader
open Json.Writer (quoted natural)

variable {α β σ : Type}

theorem returns_mapped (f : α → β) {reader : Nat → Reader α} {a : α} {ts : List Token}
    (returns : Returns reader a ts) : Returns (fun depth => mapped f (reader depth)) (f a) ts := by
  obtain ⟨height, block, reads⟩ := returns
  refine ⟨height, block, fun depth enough rest => ?_⟩
  simp [mapped, reads depth enough rest]

theorem fills_member {rules : Nat → List (FieldRule σ)} {state last : σ} {name : String}
    {required : Bool} {get : σ → Option α} {set : σ → α → σ} {reader : Nat → Reader α} {a : α}
    {ts : List Token} {parts : List (List Token)}
    (found : ∀ depth, (rules depth).find? (fun r => r.name == name) =
      some (rule name required get set (reader depth)))
    (unread : get state = none) (returns : Returns reader a ts)
    (more : Fills rules (set state a) parts last) :
    Fills rules state (Json.Writer.member name ts :: parts) last := by
  have absent : ∀ depth, (rule name required get set (reader depth)).present state = false := by
    intro depth
    show (get state).isSome = false
    rw [unread]
    rfl
  exact (Fills.single found absent (returns_mapped (set state) returns)).append more

theorem returns_name {names : List String} {ofName? : String → Option α} {a : α} {name : String}
    (listed : name ∈ names) (resolved : ofName? name = some a) :
    Returns (unitVariant names ofName?) a [quoted name] :=
  returns_flat (.quoted name) fun depth => reads_bare listed (by simp only [resolved]) depth _

theorem returns_primitive (p : Primitive) : Returns primitive p [quoted p.name] := by
  have listed : p.name ∈ Primitive.all.map Primitive.name := by cases p <;> decide
  exact returns_name listed (Primitive.ofName?_name p)

theorem returns_mutability (m : Mutability) : Returns mutability m [quoted m.name] := by
  have listed : m.name ∈ Mutability.all.map Mutability.name := by cases m <;> decide
  exact returns_name listed (Mutability.ofName?_name m)

theorem returns_string (s : String) : Returns (fun _ => Json.Reader.string) s [quoted s] :=
  returns_flat (.quoted s) fun _ => reads_string s

/-! ### Types -/

theorem tokens_openBrace (t : Ty) : ∃ ts, t.tokens = .mark .openBrace :: ts := by
  cases t <;> exact ⟨_, by rw [Ty.tokens]; rfl⟩

theorem starts_tokens (t : Ty) : Starts t.tokens := by
  obtain ⟨ts, eq⟩ := tokens_openBrace t
  rw [eq]
  exact .object ts

theorem tokensAll_eq_map (ts : List Ty) : Ty.tokensAll ts = ts.map Ty.tokens := by
  induction ts with
  | nil => rfl
  | cons t ts ih => rw [Ty.tokensAll, ih, List.map_cons]

theorem returns_optional {t : Ty} (returns : Returns ty t t.tokens) :
    Returns (fun depth => optional (ty depth)) (some t) t.tokens := by
  obtain ⟨height, block, reads⟩ := returns
  obtain ⟨ts, eq⟩ := tokens_openBrace t
  rw [eq] at block reads ⊢
  exact ⟨height, block, fun depth enough => reads_optional (reads depth enough)⟩

theorem fills_returns {rules : Nat → List (FieldRule σ)} {state last : σ} {required : Bool}
    {get : σ → Option (Option Ty)} {set : σ → Option Ty → σ} {r : Option Ty}
    (found : ∀ depth, (rules depth).find? (fun r => r.name == "returns") =
      some (rule "returns" required get set (optional (ty depth))))
    (unread : get state = none) (returns : ∀ t, r = some t → Returns ty t t.tokens)
    (ends : r.elim state (fun t => set state (some t)) = last) :
    Fills rules state (Ty.tokensReturn r) last := by
  subst ends
  cases r with
  | none => exact .nil rules state
  | some t =>
    exact fills_member found unread (returns_optional (returns t rfl)) (.nil rules _)

theorem returns_signature {expected : String} (make : List Ty → Option Ty → Ty) {args : List Ty}
    {r : Option Ty} (argument : ∀ t ∈ args, Returns ty t t.tokens)
    (returns : ∀ t, r = some t → Returns ty t t.tokens) :
    Returns
      (fun depth => record expected {} (SignatureParts.finish make) depth fun d _ =>
        [rule "args" false (·.args) (fun s ts => { s with args := some ts })
            (Json.Reader.list d fun e _ => ty e),
          rule "returns" false (·.returns) (fun s r => { s with returns := some r })
            (optional (ty d))])
      (make args r)
      (Json.Writer.object
        (Json.Writer.member "args" (Json.Writer.list (Ty.tokensAll args)) ::
          Ty.tokensReturn r)) := by
  have list := returns_list argument fun t _ => starts_tokens t
  rw [← tokensAll_eq_map] at list
  refine returns_record (fills_member (fun _ => rfl) rfl list
    (fills_returns (fun _ => rfl) rfl returns rfl)) ?_
  cases r <;> rfl

theorem returns_word64 (n : UInt64) : Returns (fun _ => word64) n [natural n.toNat] :=
  returns_flat (.natural n.toNat) fun _ => reads_word64 n

theorem returns_ty (t : Ty) : Returns ty t t.tokens := by
  have unfolded := funext Reading.ty.eq_1
  induction t using Ty.size_induction with
  | _ t ih =>
    have inner : ∀ u ∈ t.children, Returns ty u u.tokens := fun u member =>
      ih u (Ty.size_lt_of_mem_children member)
    rw [unfolded]
    cases t with
    | primitive p =>
      exact returns_variant (by decide) (returns_mapped _ (returns_primitive p))
    | pointer m t =>
      have target := inner t (by simp [Ty.children])
      exact returns_variant (by decide)
        (returns_record (fills_member (fun _ => rfl) rfl (returns_mutability m)
          (fills_member (fun _ => rfl) rfl target (.nil _ _))) rfl)
    | string m =>
      exact returns_variant (by decide)
        (returns_record (fills_member (fun _ => rfl) rfl (returns_mutability m) (.nil _ _)) rfl)
    | slice m t =>
      have target := inner t (by simp [Ty.children])
      exact returns_variant (by decide)
        (returns_record (fills_member (fun _ => rfl) rfl (returns_mutability m)
          (fills_member (fun _ => rfl) rfl target (.nil _ _))) rfl)
    | owned t =>
      exact returns_variant (by decide) (returns_mapped _ (inner t (by simp [Ty.children])))
    | function args r =>
      have argument : ∀ t ∈ args, Returns ty t t.tokens := fun t member =>
        inner t (by simp [Ty.children, member])
      exact returns_variant (by decide)
        (returns_signature .function argument fun t eq => inner t (by simp [Ty.children, eq]))
    | closure args r =>
      have argument : ∀ t ∈ args, Returns ty t t.tokens := fun t member =>
        inner t (by simp [Ty.children, member])
      exact returns_variant (by decide)
        (returns_signature .closure argument fun t eq => inner t (by simp [Ty.children, eq]))
    | array t n =>
      have element := inner t (by simp [Ty.children])
      exact returns_variant (by decide)
        (returns_record (fills_member (fun _ => rfl) rfl element
          (fills_member (fun _ => rfl) rfl (returns_word64 n) (.nil _ _))) rfl)
    | named s =>
      exact returns_variant (by decide) (returns_mapped _ (returns_string s))

/-! ### Declarations -/

/-- What is kept of written documentation: empty documentation is not written at all. -/
def keptDocs (lines : List String) : Option (List String) :=
  if lines = [] then none else some lines

@[simp]
theorem keptDocs_getD (lines : List String) : (keptDocs lines).getD [] = lines := by
  by_cases empty : lines = []
  · simp [keptDocs, empty]
  · simp [keptDocs, empty]

theorem returns_docs (lines : List String) :
    Returns docs lines (Json.Writer.list (lines.map fun line => [quoted line])) :=
  returns_list (fun line _ => returns_string line) fun _ _ => .string _ _

theorem fills_docs {μ ρ : Type} {rules : Nat → List (FieldRule (DeclarationParts μ ρ))}
    {state : DeclarationParts μ ρ} (lines : List String)
    (found : ∀ depth, (rules depth).find? (fun r => r.name == "docs") = some (docsRule depth))
    (unread : state.docs = none) :
    Fills rules state (docsMember lines) { state with docs := keptDocs lines } := by
  cases lines with
  | nil =>
    have same : { state with docs := keptDocs [] } = state := by
      cases state
      simp_all [keptDocs]
    rw [same]
    exact .nil rules state
  | cons line lines =>
    exact fills_member found unread (returns_docs (line :: lines)) (.nil rules _)

theorem returns_field (f : Field) : Returns field f f.tokens := by
  refine returns_record (.append
    (fills_member (fun _ => rfl) rfl (returns_string f.name)
      (fills_member (fun _ => rfl) rfl (returns_ty f.ty) (.nil _ _)))
    (fills_docs f.docs (fun _ => rfl) rfl)) ?_
  simp [named, typed]

theorem returns_struct (s : Struct) : Returns struct s s.tokens := by
  have fields := returns_list (fun f (_ : f ∈ s.fields) => returns_field f) fun _ _ => .object _
  refine returns_record (.append
    (.append (fills_member (fun _ => rfl) rfl (returns_string s.name) (.nil _ _))
      (fills_docs s.docs (fun _ => rfl) rfl))
    (fills_member (fun _ => rfl) rfl fields (.nil _ _))) ?_
  simp [named]

theorem returns_abstractStruct (s : AbstractStruct) : Returns abstractStruct s s.tokens := by
  refine returns_record (.append
    (fills_member (fun _ => rfl) rfl (returns_string s.name) (.nil _ _))
    (fills_docs s.docs (fun _ => rfl) rfl)) ?_
  simp [named]

theorem returns_param (p : Param) : Returns param p p.tokens :=
  returns_record (fills_member (fun _ => rfl) rfl (returns_string p.name)
    (fills_member (fun _ => rfl) rfl (returns_ty p.ty) (.nil _ _))) rfl

theorem returns_function (f : Function) : Returns function f f.tokens := by
  have params := returns_list (fun p (_ : p ∈ f.params) => returns_param p) fun _ _ => .object _
  refine returns_record (.append
    (.append
      (.append (fills_member (fun _ => rfl) rfl (returns_string f.name) (.nil _ _))
        (fills_docs f.docs (fun _ => rfl) rfl))
      (fills_member (fun _ => rfl) rfl params (.nil _ _)))
    (fills_returns (fun _ => rfl) rfl (fun t _ => returns_ty t) rfl)) ?_
  obtain ⟨name, docs, params, returns⟩ := f
  cases returns <;> simp [named]

theorem returns_items (i : Items) : Returns items i i.tokens := by
  have structs := returns_list (fun s (_ : s ∈ i.structs) => returns_struct s) fun _ _ => .object _
  have abstracts := returns_list
    (fun s (_ : s ∈ i.abstractStructs) => returns_abstractStruct s) fun _ _ => .object _
  have functions :=
    returns_list (fun f (_ : f ∈ i.functions) => returns_function f) fun _ _ => .object _
  exact returns_record (fills_member (fun _ => rfl) rfl structs
    (fills_member (fun _ => rfl) rfl abstracts
      (fills_member (fun _ => rfl) rfl functions (.nil _ _)))) rfl

end Bindery.Reading

namespace Bindery

/-- Every description whose JSON text has at most 127 brackets open at once is read back from that
text as it was. -/
theorem parse_render_items (items : Items) (shallow : Json.bracketDepth items.render ≤ 127) :
    Items.parse items.render = .ok items :=
  Json.Reader.text_of_returns (Reading.returns_items items) shallow

def sampleItems : Items where
  structs :=
    [{ name := "Naïve \"S\"", docs := ["\\ \t\x01\x7f", "", "日本 😀 \x7b[\x7d"]
       fields :=
        [{ name := "a", ty := .array (.owned (.slice .mutable (.primitive .u8))) 0xffffffffffffffff
           docs := [] },
          { name := "b", ty := .pointer .const (.closure [.string .mutable] none)
            docs := ["/* */"] }] }]
  abstractStructs := [{ name := "", docs := [] }]
  functions :=
    [{ name := "f", docs := []
       params := [{ name := "x", ty := .function [] (some (.named "Naïve \"S\"")) }]
       returns := some (.primitive .usize) }]

theorem parse_render_sampleItems :
    Json.bracketDepth sampleItems.render ≤ 127 ∧
      Items.parse sampleItems.render = .ok sampleItems := by
  have shallow : Json.bracketDepth sampleItems.render ≤ 127 := by
    rw [Json.bracketDepth, Items.render, Json.Writer.text, String.toList_ofList]
    decide +kernel
  exact ⟨shallow, parse_render_items sampleItems shallow⟩

end Bindery
