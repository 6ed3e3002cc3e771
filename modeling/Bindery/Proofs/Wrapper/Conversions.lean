import Bindery.Proofs.Wrapper.Functions

set_option autoImplicit false
set_option relaxedAutoImplicit false

/-!
What a wrapper converts. A type has a wrapper form of its own exactly if it is an owned reference or
a closure, and then both forms are one path apart and have the same parameter. A wrapper hands on an
argument in plain form exactly if its two forms differ, and takes the result back exactly if its two
forms do; the import, the export and the signature that an implementation is checked against are all
plain.
-/

namespace Bindery.Wrapper

/-! ### Reading bodies -/

/-- What a wrapper does: which function it calls with which arguments, and what adopts the
result. -/
structure Forwarding where
  owner : Option Stream
  name : Token
  arguments : List Stream

def importCall? : Stream → Option (Token × List Stream)
  | [.ident "__vellum_private_abi" _, .mark ':' _, .mark ':' _, name,
      .group .parenthesis arguments] => some (name, pieces arguments)
  | _ => none

def adoption? (ts : Stream) : Option (Stream × Stream) :=
  match ts.reverse with
  | .group .parenthesis inner :: .ident "from_raw" _ :: .mark ':' _ :: .mark ':' _ :: path =>
    some (path.reverse, inner)
  | _ => none

def forwarding? : Stream → Option Forwarding
  | [.ident "unsafe" _, .group .brace call] =>
    match importCall? call with
    | some (name, arguments) => some ⟨none, name, arguments⟩
    | none =>
      (adoption? call).bind fun (owner, inner) =>
        (importCall? inner).map fun (name, arguments) => ⟨some owner, name, arguments⟩
  | _ => none

structure ConstantSignature where
  name : Token
  arguments : List Stream
  result : Option Stream

def constant? : Stream → Option ConstantSignature
  | [] => none
  | .ident "const" _ :: name :: .mark ':' _ :: .ident "unsafe" _ :: .ident "fn" _ ::
      .group .parenthesis arguments :: rest =>
    some ⟨name, pieces arguments, resultType? (rest.takeWhile fun t => !t.isEnd)⟩
  | _ :: ts => constant? ts

/-! ### Conversions -/

/-- The types with a wrapper form of their own: the wrapper, and its parameter in plain form. -/
inductive Owns (rt : CratePath) : Ty → String → Stream → Prop where
  | pointer (m : Mutability) (t : Ty) : Owns rt (.owned (.pointer m t)) "OwnedPtr" (pod rt t)
  | slice (m : Mutability) (t : Ty) : Owns rt (.owned (.slice m t)) "OwnedSlice" (pod rt t)
  | closure (args : List Ty) (r : Option Ty) :
      Owns rt (.closure args r) "Closure" (signature (args.map (pod rt)) (podReturn rt r))

/-- The two forms of a type, which differ in the name in front of their parameter only. -/
structure TwoForms (rt : CratePath) (t : Ty) (head : String) (parameter : Stream) : Prop where
  owns : Owns rt t head parameter
  wrapper : wrapped rt t =
    runtimeItem rt head ++ ([.mark '<' false] ++ parameter ++ [.mark '>' false])
  plain : pod rt t =
    runtimeItem rt ("Raw" ++ head) ++ ([.mark '<' false] ++ parameter ++ [.mark '>' false])

structure Forwards (rt : CratePath) (p : Param) (argument : Stream) : Prop where
  converted : argument = [.ident p.name (decide (p.name ∈ keywords)), .mark '.' false,
    .ident "into_raw" false, .group .parenthesis []] ↔ wrapped rt p.ty ≠ pod rt p.ty
  unchanged : argument = [.ident p.name (decide (p.name ∈ keywords))] ↔
    wrapped rt p.ty = pod rt p.ty

structure Adopts (rt : CratePath) (returns : Option Ty) (owner : Option Stream) : Prop where
  needed : (∃ path, owner = some path) ↔ ∃ t, returns = some t ∧ wrapped rt t ≠ pod rt t
  headed : ∀ path, owner = some path → ∃ t head parameter, returns = some t ∧
    TwoForms rt t head parameter ∧ path = runtimeItem rt head

structure Bridge where
  imported : FunctionItem
  wrapper : FunctionItem
  exported : FunctionItem

/-- Whether three functions are the import, the wrapper and the export of a declared one. -/
structure Converts (rt : CratePath) (f : Function) (b : Bridge) : Prop where
  names : b.imported.name = ident f.name ∧ b.wrapper.name = ident f.name ∧
    b.exported.name = word ("__vellum_export_" ++ f.name)
  imports : b.imported.params = parametersIn (pod rt) f ∧
    b.imported.result = f.returns.map (pod rt) ∧ b.imported.body = none
  wraps : b.wrapper.params = parametersIn (wrapped rt) f ∧
    b.wrapper.result = f.returns.map (wrapped rt)
  exports : b.exported.params = b.imported.params ∧ b.exported.result = b.imported.result
  expects : ∃ body, b.exported.body = some body ∧ constant? body =
    some ⟨signatureName f, b.imported.params.map Parameter.type, b.imported.result⟩
  calls : ∃ body call, b.wrapper.body = some body ∧ forwarding? body = some call ∧
    call.name = ident f.name ∧ List.Forall₂ (Forwards rt) f.params call.arguments ∧
    Adopts rt f.returns call.owner
  nested : ∀ t ∈ f.params.map Param.ty ++ f.returns.toList, wrapped rt t ≠ pod rt t →
    ∃ head parameter, TwoForms rt t head parameter

/-! ### The two forms of a type -/

variable {rt : CratePath} {t : Ty} {head : String} {parameter : Stream}

theorem Owns.twoForms (owns : Owns rt t head parameter) : TwoForms rt t head parameter := by
  refine ⟨owns, ?_, ?_⟩
  · cases owns with
    | pointer m t => rfl
    | slice m t => rfl
    | closure args r =>
      rw [wrapped, podAll_eq_map]
      rfl
  · cases owns with
    | pointer m t =>
      rw [pod]
      rfl
    | slice m t =>
      rw [pod]
      rfl
    | closure args r =>
      rw [pod, podAll_eq_map]
      rfl

theorem Owns.owner?_eq (owns : Owns rt t head parameter) :
    owner? rt t = some (runtimeItem rt head) := by
  cases owns <;> rfl

theorem TwoForms.differ (forms : TwoForms rt t head parameter) : wrapped rt t ≠ pod rt t := by
  rw [forms.wrapper, forms.plain]
  intro same
  have paths := List.append_inj_left' same rfl
  have names : head = "Raw" ++ head := by simpa [runtimeItem, word] using paths
  have lengths := congrArg String.length names
  have long : "Raw".length = 3 := rfl
  rw [String.length_append] at lengths
  omega

theorem owns_or_plain (rt : CratePath)
    (reference : ∀ inner, t = .owned inner → inner.isReference = true) :
    (isWrapped t = true ∧ ∃ head parameter, Owns rt t head parameter) ∨
      (isWrapped t = false ∧ wrapped rt t = pod rt t ∧ owner? rt t = none) := by
  cases t with
  | owned inner =>
    have isReference := reference inner rfl
    cases inner with
    | pointer m t => exact .inl ⟨rfl, _, _, .pointer m t⟩
    | slice m t => exact .inl ⟨rfl, _, _, .slice m t⟩
    | _ => simp [Ty.isReference] at isReference
  | closure args r => exact .inl ⟨rfl, _, _, .closure args r⟩
  | _ => exact .inr ⟨rfl, rfl, rfl⟩

theorem exists_twoForms (reference : ∀ inner, t = .owned inner → inner.isReference = true)
    (differ : wrapped rt t ≠ pod rt t) : ∃ head parameter, TwoForms rt t head parameter := by
  rcases owns_or_plain rt reference with ⟨-, head, parameter, owns⟩ | ⟨-, same, -⟩
  · exact ⟨head, parameter, owns.twoForms⟩
  · exact absurd same differ

theorem forwards_forwarded {p : Param}
    (reference : ∀ inner, p.ty = .owned inner → inner.isReference = true) :
    Forwards rt p (forwarded p) := by
  have spelled : Token.ident p.name (decide (p.name ∈ keywords)) = ident p.name := by
    rw [ident, List.contains_eq_mem]
  rcases owns_or_plain rt reference with ⟨wraps, head, parameter, owns⟩ | ⟨wraps, same, -⟩
  · have differ := owns.twoForms.differ
    have handed : forwarded p = [ident p.name, mark '.', word "into_raw", parens []] := if_pos wraps
    constructor <;> simp [spelled, handed, differ, mark, word, parens]
  · have handed : forwarded p = [ident p.name] := if_neg (by simp [wraps])
    constructor <;> simp [spelled, handed, same]

theorem adopts_owner {returns : Option Ty}
    (references : ∀ t ∈ returns.toList, ∀ inner, t = .owned inner → inner.isReference = true) :
    Adopts rt returns (returns.bind (owner? rt)) := by
  cases returns with
  | none => constructor <;> simp
  | some t =>
    rcases owns_or_plain rt (references t List.mem_cons_self) with
      ⟨-, head, parameter, owns⟩ | ⟨-, same, unowned⟩
    · have differ := owns.twoForms.differ
      have adopter : (some t).bind (owner? rt) = some (runtimeItem rt head) := owns.owner?_eq
      constructor
      · simp [adopter, differ]
      · intro path found
        obtain rfl := Option.some.inj (adopter.symm.trans found)
        exact ⟨t, head, parameter, rfl, owns.twoForms, rfl⟩
    · constructor <;> simp [same, unowned]

/-! ### Bodies as they are read -/

theorem importCall?_importCall (f : Function) :
    importCall? (importCall f) = some (ident f.name, f.params.map forwarded) := by
  have read : pieces (commaSeparated (f.params.map forwarded)) = f.params.map forwarded := by
    refine pieces_commaSeparated fun ts member => ?_
    obtain ⟨p, -, rfl⟩ := List.mem_map.mp member
    unfold forwarded
    split <;> simp [ident, mark, word, parens, Token.isComma]
  have call : importCall? (importCall f) =
      some (ident f.name, pieces (commaSeparated (f.params.map forwarded))) := rfl
  rw [call, read]

theorem length_of_importCall? {ts : Stream} {call : Token × List Stream}
    (found : importCall? ts = some call) : ts.length = 5 := by
  unfold importCall? at found
  split at found
  · rfl
  · cases found

theorem adoption?_eq (owner inner : Stream) :
    adoption? (owner ++ colons ++ [word "from_raw", parens inner]) = some (owner, inner) := by
  have reversed : (owner ++ colons ++ [word "from_raw", parens inner]).reverse =
      .group .parenthesis inner :: .ident "from_raw" false :: .mark ':' false :: .mark ':' true ::
        owner.reverse := by
    simp [colons, pair, word, parens]
  rw [adoption?, reversed]
  simp

theorem forwarding?_wrappedCall (rt : CratePath) (f : Function) :
    forwarding? [word "unsafe", braces (wrappedCall rt f)] =
      some ⟨f.returns.bind (owner? rt), ident f.name, f.params.map forwarded⟩ := by
  cases adopter : f.returns.bind (owner? rt) with
  | none =>
    have call : wrappedCall rt f = importCall f := by rw [wrappedCall, adopter]
    simp [forwarding?, word, braces, call, importCall?_importCall]
  | some owner =>
    have call : wrappedCall rt f = owner ++ colons ++ [word "from_raw", parens (importCall f)] := by
      rw [wrappedCall, adopter]
    obtain ⟨t, -, owned⟩ := Option.bind_eq_some_iff.mp adopter
    obtain ⟨head, -, rfl⟩ := owner?_eq owned
    -- The adopting call is longer than a call of an imported function.
    have longer : importCall? (wrappedCall rt f) = none := by
      cases found : importCall? (wrappedCall rt f) with
      | none => rfl
      | some other =>
        have short := length_of_importCall? found
        rw [call] at short
        simp [runtimeItem, colons, pair] at short
    have adopted : adoption? (wrappedCall rt f) = some (runtimeItem rt head, importCall f) := by
      rw [call, adoption?_eq]
    simp [forwarding?, word, braces, longer, adopted, importCall?_importCall]

example :
    forwarding? [word "unsafe", braces (wrappedCall (CratePath.root "rt")
      { name := "from_raw"
        params := [⟨"run", .closure [] none⟩, ⟨"fn", .primitive .u8⟩]
        returns := some (.owned (.slice .const (.primitive .u8))) })] =
    some ⟨some (runtimeItem (CratePath.root "rt") "OwnedSlice"), ident "from_raw",
      [[ident "run", mark '.', word "into_raw", parens []], [ident "fn"]]⟩ := rfl

theorem constant?_exportBody {f : Function} (nonempty : ∀ p ∈ f.params, pod rt p.ty ≠ []) :
    constant? (exportBody rt f) = some ⟨signatureName f, f.params.map fun p => pod rt p.ty,
      f.returns.map (pod rt)⟩ := by
  let rest : Stream :=
    implementation ++ colons ++ [ident f.name, mark ';'] ++ runtimeItem rt "guard" ++
    [parens
      (word "move" :: pair '|' '|' ++
        [word "unsafe",
          braces [signatureName f,
            parens (commaSeparated (f.params.map fun p => [ident p.name]))]])]
  have body : exportBody rt f = attr [word "allow", parens [word "non_upper_case_globals"]] ++
      (word "const" :: signatureName f :: mark ':' :: word "unsafe" :: word "fn" ::
        parens (commaSeparated (f.params.map fun p => pod rt p.ty)) ::
        (podReturn rt f.returns ++ mark '=' :: rest)) := by
    simp [exportBody, signature, rest]
  have arguments : pieces (commaSeparated (f.params.map fun p => pod rt p.ty)) =
      f.params.map fun p => pod rt p.ty := by
    refine pieces_commaSeparated fun ts member => ?_
    obtain ⟨p, listed, rfl⟩ := List.mem_map.mp member
    exact ⟨nonempty p listed, fun t inType => ((TypeLike.pod rt p.ty).undivided t inType).1⟩
  have taken : (podReturn rt f.returns ++ mark '=' :: rest).takeWhile (fun t => !t.isEnd) =
      podReturn rt f.returns := (typeLike_podReturn rt f.returns).takeWhile_eq rfl rest
  have read : constant? (exportBody rt f) = some ⟨signatureName f,
      pieces (commaSeparated (f.params.map fun p => pod rt p.ty)),
      resultType? ((podReturn rt f.returns ++ mark '=' :: rest).takeWhile fun t => !t.isEnd)⟩ := by
    rw [body]
    rfl
  rw [read, arguments, taken, resultType?_podReturn]

/-! ### The wrapper file -/

def bridge (rt : CratePath) (f : Function) : Bridge :=
  ⟨importedItem rt f, wrapperItem rt f, exportedItem rt f⟩

theorem converts_bridge {f : Function}
    (references : ∀ t ∈ f.params.map Param.ty ++ f.returns.toList, ∀ inner, t = .owned inner →
      inner.isReference = true) : Converts rt f (bridge rt f) := by
  have ofParam (p : Param) (listed : p ∈ f.params) :
      p.ty ∈ f.params.map Param.ty ++ f.returns.toList :=
    List.mem_append_left _ (List.mem_map_of_mem listed)
  have nonempty : ∀ p ∈ f.params, pod rt p.ty ≠ [] := by
    intro p listed
    obtain ⟨form, has⟩ := exists_hasForm rt (references p.ty (ofParam p listed))
    exact pod_ne_nil has
  have arguments : List.Forall₂ (Forwards rt) f.params (f.params.map forwarded) := by
    rw [List.forall₂_map_right_iff, List.forall₂_same]
    exact fun p listed => forwards_forwarded (references p.ty (ofParam p listed))
  have adopter : Adopts rt f.returns (f.returns.bind (owner? rt)) :=
    adopts_owner fun t returned => references t (List.mem_append_right _ returned)
  have types : (parametersIn (pod rt) f).map Parameter.type =
      f.params.map fun p => pod rt p.ty := by
    rw [parametersIn, List.map_map]
    rfl
  refine ⟨⟨rfl, rfl, rfl⟩, ⟨rfl, rfl, rfl⟩, ⟨rfl, rfl⟩, ⟨rfl, rfl⟩, ?_, ?_, ?_⟩
  · refine ⟨exportBody rt f, rfl, ?_⟩
    rw [constant?_exportBody nonempty, ← types]
    rfl
  · exact ⟨_, _, rfl, forwarding?_wrappedCall rt f, rfl, arguments, adopter⟩
  · exact fun t used differ => exists_twoForms (references t used) differ

/-- Every declared function stands in the wrapper file three times, as an import, a wrapper and an
export, and no other function stands there. The wrapper converts the arguments and the result whose
wrapper form is not their plain form, and no others; the other two forms are plain. -/
theorem wrappers_convert_exactly {items out : Items} (valid : items.validated.result = .ok out)
    (options : Options) :
    (∀ rt, ∃ bridges : List Bridge,
      (parts rt options out).flatMap functionsIn = bridges.map Bridge.imported ++
        bridges.map Bridge.wrapper ++ bridges.map Bridge.exported ∧
      List.Forall₂ (Converts rt) items.functions bridges) ∧
    ∀ env cache text, (generateMain env options items .rust cache).2.result = .ok text →
      ∃ rt, file rt options out = text := by
  constructor
  · intro rt
    have same : out.functions = items.functions := Items.functions_of_arranged valid
    refine ⟨items.functions.map (bridge rt), ?_, ?_⟩
    · rw [functions_parts, same, List.map_map, List.map_map, List.map_map]
      rfl
    · rw [List.forall₂_map_right_iff, List.forall₂_same]
      intro f declared
      refine converts_bridge fun t used inner owned => ?_
      have owns := Items.ownsReferences_of_arranged valid
        (Items.signature_mem_declaredTypes declared used)
      subst owned
      exact owns inner .refl
  · intro env cache text made
    obtain ⟨-, found, validToo, rendered⟩ := generateMain_ok_iff.mp made
    obtain rfl := Except.ok.inj (valid.symm.trans validToo)
    exact wrapper_of_mainText rendered

theorem callbacks_convert :
    (∃ bridges : List Bridge,
      (parts (CratePath.root "vellum_abi") placedOptions callbacks).flatMap functionsIn =
        bridges.map Bridge.imported ++ bridges.map Bridge.wrapper ++ bridges.map Bridge.exported ∧
      List.Forall₂ (Converts (CratePath.root "vellum_abi")) callbacks.functions bridges) ∧
    ∃ text rt, (generateMain bareEnvironment placedOptions callbacks .rust []).2.result = .ok text ∧
      file rt placedOptions callbacks = text := by
  have valid : callbacks.validated.result = .ok callbacks := rfl
  have names : checkNames (usedNames callbacks) = .ok () := by decide +kernel
  have rendered : (Generate.mainText bareEnvironment placedOptions callbacks [] .rust).2.result =
      .ok (file (CratePath.root "vellum_abi") placedOptions callbacks) :=
    mainText_rust_ok rfl parse?_placed names
  have made := generateMain_ok_iff.mpr ⟨rfl, callbacks, valid, rendered⟩
  obtain ⟨converted, written⟩ := wrappers_convert_exactly valid placedOptions
  obtain ⟨rt, same⟩ := written bareEnvironment [] _ made
  exact ⟨converted (CratePath.root "vellum_abi"), _, rt, made, same⟩

end Bindery.Wrapper
