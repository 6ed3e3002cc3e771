import Bindery.Proofs.Wrapper.Readable

set_option autoImplicit false
set_option relaxedAutoImplicit false

/-!
The attributes of the wrapper file, at any depth, and the symbols that they give. Types, calls and
signatures hold no attribute, so what is found in a declaration is what stands in front of its
parts: the symbols to link are those of the imported functions and the symbols to export are those
of the exported ones, each in declaration order.
-/

namespace Bindery.Wrapper

mutual

def Token.attributes : Token → List Stream
  | .group _ inner => attributesIn inner
  | _ => []

/-- What stands in brackets behind a number sign, from the outside in. -/
def attributesIn : Stream → List Stream
  | [] => []
  | .mark '#' _ :: .group .bracket inner :: ts => inner :: attributesIn inner ++ attributesIn ts
  | t :: ts => t.attributes ++ attributesIn ts

end

def linkName? : Stream → Option String
  | [.ident "link_name" _, .mark '=' _, .literal (.string symbol)] => some symbol
  | _ => none

def exportName? : Stream → Option String
  | [.ident "unsafe" _,
      .group .parenthesis [.ident "export_name" _, .mark '=' _, .literal (.string symbol)]] =>
    some symbol
  | _ => none

def symbolsOf (pick : Stream → Option String) (file : List Stream) : List String :=
  (file.flatMap attributesIn).filterMap pick

/-! ### Streams without attributes -/

mutual

def Token.isQuiet : Token → Bool
  | .mark c _ => c != '#'
  | .group _ inner => isQuiet inner
  | _ => true

def isQuiet : Stream → Bool
  | [] => true
  | t :: ts => t.isQuiet && isQuiet ts

end

theorem attributesIn_cons {t : Token} (quiet : t.isQuiet = true) (ts : Stream) :
    attributesIn (t :: ts) = t.attributes ++ attributesIn ts := by
  rw [attributesIn]
  rintro glued inner others rfl -
  simp [Token.isQuiet] at quiet

mutual

theorem Token.attributes_of_isQuiet : ∀ t : Token, t.isQuiet = true → t.attributes = []
  | .group _ inner, quiet => by
    have inside := attributesIn_of_isQuiet inner quiet []
    rwa [List.append_nil, attributesIn] at inside
  | .ident .., _ => rfl
  | .mark .., _ => rfl
  | .literal _, _ => rfl

theorem attributesIn_of_isQuiet : ∀ ts : Stream, isQuiet ts = true → ∀ rest,
    attributesIn (ts ++ rest) = attributesIn rest
  | [], _, _ => rfl
  | t :: ts, quiet, rest => by
    obtain ⟨first, others⟩ : t.isQuiet = true ∧ isQuiet ts = true := by
      simpa [isQuiet] using quiet
    rw [List.cons_append, attributesIn_cons first, t.attributes_of_isQuiet first,
      attributesIn_of_isQuiet ts others rest, List.nil_append]

end

@[simp]
theorem isQuiet_nil : isQuiet [] = true := rfl

@[simp]
theorem isQuiet_cons (t : Token) (ts : Stream) :
    isQuiet (t :: ts) = (t.isQuiet && isQuiet ts) := rfl

@[simp]
theorem isQuiet_append (ts us : Stream) : isQuiet (ts ++ us) = (isQuiet ts && isQuiet us) := by
  induction ts with
  | nil => rfl
  | cons t ts ih => rw [List.cons_append, isQuiet_cons, ih, isQuiet_cons, Bool.and_assoc]

@[simp]
theorem isQuiet_word (name : String) : (word name).isQuiet = true := rfl

@[simp]
theorem isQuiet_ident (name : String) : (ident name).isQuiet = true := rfl

@[simp]
theorem isQuiet_literal (l : Literal) : (Token.literal l).isQuiet = true := rfl

@[simp]
theorem isQuiet_mark (c : Char) : (mark c).isQuiet = (c != '#') := rfl

@[simp]
theorem isQuiet_group (d : Delimiter) (ts : Stream) : (Token.group d ts).isQuiet = isQuiet ts := rfl

@[simp]
theorem isQuiet_parens (ts : Stream) : (parens ts).isQuiet = isQuiet ts := rfl

@[simp]
theorem isQuiet_angled (ts : Stream) : isQuiet (angled ts) = isQuiet ts := by simp [angled]

theorem isQuiet_commaSeparated {tss : List Stream} (each : ∀ ts ∈ tss, isQuiet ts = true) :
    isQuiet (commaSeparated tss) = true := by
  fun_induction commaSeparated tss with
  | case1 => rfl
  | case2 ts => exact each ts List.mem_cons_self
  | case3 ts rest _ ih =>
    have first := each ts List.mem_cons_self
    have others := ih fun us member => each us (List.mem_cons_of_mem ts member)
    simp [first, others]

theorem isQuiet_commaSeparated_map {α : Type} {f : α → Stream} (each : ∀ a, isQuiet (f a) = true)
    (as : List α) : isQuiet (commaSeparated (as.map f)) = true := by
  refine isQuiet_commaSeparated fun ts member => ?_
  obtain ⟨a, -, rfl⟩ := List.mem_map.mp member
  exact each a

theorem isQuiet_segmentTokens (segments : List Segment) :
    isQuiet (CratePath.segmentTokens segments) = true := by
  fun_induction CratePath.segmentTokens segments with
  | case1 => rfl
  | case2 s => rfl
  | case3 s rest _ ih => simpa [CratePath.segmentToken, colons, pair, Token.isQuiet] using ih

theorem isQuiet_runtimeItem (rt : CratePath) (name : String) :
    isQuiet (runtimeItem rt name) = true := by
  have path : isQuiet rt.tokens = true := by
    unfold CratePath.tokens
    split <;> simp [isQuiet_segmentTokens, colons, pair, Token.isQuiet]
  simp [runtimeItem, path, colons, pair, Token.isQuiet]

theorem isQuiet_signature {args : List Stream} {returns : Stream}
    (each : ∀ ts ∈ args, isQuiet ts = true) (result : isQuiet returns = true) :
    isQuiet (signature args returns) = true := by
  have arguments := isQuiet_commaSeparated each
  simp [signature, arguments, result]

theorem quiet_kept (rt : CratePath) : Kept rt (fun _ => True) (isQuiet · = true) where
  nothing := rfl
  primitive _ := rfl
  named _ _ := rfl
  character := rfl
  pointer m ts quiet := by cases m <;> simp [pointerTo, mutabilityWord, quiet]
  array ts len quiet := by simp [brackets, quiet]
  item name _ ts quiet := by simp [isQuiet_runtimeItem, quiet]
  result ts quiet := by simp [arrow, pair, Token.isQuiet, quiet]
  signature args returns := isQuiet_signature
  callback ts quiet := by
    have front : isQuiet (absolute ["core", "option", "Option"]) = true := rfl
    simp [front, text, quiet]

theorem isQuiet_pod (rt : CratePath) (t : Ty) : isQuiet (pod rt t) = true :=
  (quiet_kept rt).pod fun _ _ => trivial

theorem isQuiet_podReturn (rt : CratePath) (returns : Option Ty) :
    isQuiet (podReturn rt returns) = true :=
  (quiet_kept rt).podReturn fun t _ => isQuiet_pod rt t

theorem isQuiet_wrapped (rt : CratePath) (t : Ty) : isQuiet (wrapped rt t) = true :=
  (quiet_kept rt).wrapped fun _ _ => trivial

theorem isQuiet_wrappedReturn (rt : CratePath) (returns : Option Ty) :
    isQuiet (wrappedReturn rt returns) = true := by
  cases returns with
  | none => rfl
  | some t => exact (quiet_kept rt).result _ (isQuiet_wrapped rt t)

theorem isQuiet_params {params : List Param} {type : Param → Stream}
    (each : ∀ p, isQuiet (type p) = true) :
    isQuiet (commaSeparated (params.map fun p => paramDecl p.name (type p))) = true := by
  refine isQuiet_commaSeparated_map (fun p => ?_) params
  simp [paramDecl, each p]

theorem isQuiet_podParams (rt : CratePath) (f : Function) : isQuiet (podParams rt f) = true :=
  isQuiet_params fun p => isQuiet_pod rt p.ty

theorem isQuiet_importCall (f : Function) : isQuiet (importCall f) = true := by
  have arguments : isQuiet (commaSeparated (f.params.map forwarded)) = true := by
    refine isQuiet_commaSeparated_map (fun p => ?_) f.params
    unfold forwarded
    split <;> rfl
  simp [importCall, importModule, colons, pair, Token.isQuiet, arguments]

theorem isQuiet_wrappedCall (rt : CratePath) (f : Function) :
    isQuiet (wrappedCall rt f) = true := by
  unfold wrappedCall
  split
  case h_1 owner found =>
    obtain ⟨t, -, owned⟩ := Option.bind_eq_some_iff.mp found
    have path : isQuiet owner = true := by
      unfold owner? at owned
      split at owned <;> cases owned <;> exact isQuiet_runtimeItem rt _
    simp [path, colons, pair, Token.isQuiet, isQuiet_importCall]
  case h_2 => exact isQuiet_importCall f

/-! ### The symbols of a declaration -/

/-- A stream adds some symbols, whatever follows it. -/
def Names (pick : Stream → Option String) (ts : Stream) (symbols : List String) : Prop :=
  ∀ rest, (attributesIn (ts ++ rest)).filterMap pick =
    symbols ++ (attributesIn rest).filterMap pick

def plainWords : List String := ["doc", "repr", "derive", "allow", "inline", "cfg_attr"]

theorem flatMap_empty {α : Type} (as : List α) : as.flatMap (fun _ => ([] : List String)) = [] :=
  List.flatMap_eq_nil_iff.mpr fun _ _ => rfl

namespace Names

variable {pick : Stream → Option String}

theorem whole {ts : Stream} {symbols : List String} (names : Names pick ts symbols) :
    (attributesIn ts).filterMap pick = symbols := by
  have alone := names []
  rwa [List.append_nil, attributesIn, List.filterMap_nil, List.append_nil] at alone

theorem nil : Names pick [] [] := fun _ => rfl

theorem append {ts us : Stream} {symbols others : List String} (first : Names pick ts symbols)
    (second : Names pick us others) : Names pick (ts ++ us) (symbols ++ others) := by
  intro rest
  rw [List.append_assoc, first, second, List.append_assoc]

theorem flatMap {α : Type} {f : α → Stream} {symbols : α → List String} {as : List α}
    (each : ∀ a ∈ as, Names pick (f a) (symbols a)) :
    Names pick (as.flatMap f) (as.flatMap symbols) := by
  induction as with
  | nil => exact nil
  | cons a as ih =>
    exact (each a List.mem_cons_self).append (ih fun b member => each b
      (List.mem_cons_of_mem a member))

theorem flatMap_nil {α : Type} {f : α → Stream} {as : List α} (each : ∀ a, Names pick (f a) []) :
    Names pick (as.flatMap f) [] := by
  have names : Names pick (as.flatMap f) (as.flatMap fun _ => []) := flatMap fun a _ => each a
  rwa [flatMap_empty] at names

theorem quiet {ts : Stream} (quiet : isQuiet ts = true) : Names pick ts [] := by
  intro rest
  rw [attributesIn_of_isQuiet ts quiet, List.nil_append]

theorem followed {ts us : Stream} {symbols : List String} (names : Names pick ts symbols)
    (noMore : Names pick us []) : Names pick (ts ++ us) symbols := by
  have both := names.append noMore
  rwa [List.append_nil] at both

theorem group {d : Delimiter} {inner : Stream} {symbols : List String}
    (names : Names pick inner symbols) : Names pick [.group d inner] symbols := by
  intro rest
  have split : attributesIn (.group d inner :: rest) = attributesIn inner ++ attributesIn rest := by
    rw [attributesIn, Token.attributes]
    intro glued contents others wrong
    exact Token.noConfusion wrong
  rw [List.singleton_append, split, List.filterMap_append, names.whole]

theorem attr {contents : Stream} (quiet : isQuiet contents = true) :
    Names pick (attr contents) (pick contents).toList := by
  intro rest
  have inside := attributesIn_of_isQuiet contents quiet []
  rw [List.append_nil] at inside
  have split : attributesIn (Wrapper.attr contents ++ rest) = contents :: attributesIn rest := by
    rw [Wrapper.attr, mark, brackets, List.cons_append, List.cons_append, attributesIn, inside]
    rfl
  rw [split, List.filterMap_cons]
  cases pick contents <;> rfl

end Names

def linkContents (symbol : String) : Stream := [word "link_name", mark '=', text symbol]

def exportContents (symbol : String) : Stream :=
  [word "unsafe", parens [word "export_name", mark '=', text symbol]]

theorem names_importDecl {pick : Stream → Option String} (rt : CratePath) (options : Options)
    (f : Function) :
    Names pick (importDecl rt options f) (pick (linkContents (options.symbol f.name))).toList := by
  have linked : Names pick (attr (linkContents (options.symbol f.name))) _ := .attr rfl
  have result : isQuiet (podReturn rt f.returns) = true := isQuiet_podReturn rt f.returns
  exact ((linked.followed (.quiet (by simpa using isQuiet_podParams rt f))).followed
    (.quiet result)).followed (.quiet rfl)

section Declarations

variable {pick : Stream → Option String}
  (ignores : ∀ name ∈ plainWords, ∀ ts, pick (word name :: ts) = none)

include ignores

theorem names_plainAttr {name : String} (plain : name ∈ plainWords) {ts : Stream}
    (quiet : isQuiet ts = true) : Names pick (attr (word name :: ts)) [] := by
  have names : Names pick (attr (word name :: ts)) (pick (word name :: ts)).toList :=
    .attr (by simpa using quiet)
  rwa [ignores name plain] at names

theorem names_docLine (line : String) : Names pick (docLine line) [] :=
  names_plainAttr ignores (by decide) (by simp [text])

theorem names_docLines (lines : List String) : Names pick (docLines lines) [] :=
  .flatMap_nil fun line => names_docLine ignores (" " ++ line)

theorem names_layoutAttr : Names pick layoutAttr [] := names_plainAttr ignores (by decide) rfl

theorem names_abstractStruct (s : AbstractStruct) : Names pick (abstractStruct s) [] :=
  ((names_docLines ignores s.docs).append (names_layoutAttr ignores)).append (.quiet rfl)

theorem names_completeStruct (rt : CratePath) (s : Struct) :
    Names pick (completeStruct rt s) [] := by
  have field (f : Field) : Names pick (fieldDecl rt f) [] :=
    (((names_docLines ignores f.docs).append (.quiet rfl)).append
      (.quiet (isQuiet_pod rt f.ty))).append
      (.quiet rfl)
  have derived : Names pick (attr [word "derive",
      parens (commaSeparated [[word "Debug"], [word "Clone"], [word "Copy"]])]) [] :=
    names_plainAttr ignores (by decide) rfl
  have head : Names pick [word "pub", word "struct", ident s.name] [] := .quiet rfl
  exact (((names_docLines ignores s.docs).append (names_layoutAttr ignores)).append derived).append
    (head.append (Names.group (.flatMap_nil field)))

theorem names_wrapperDecl (rt : CratePath) (options : Options) (f : Function) :
    Names pick (wrapperDecl rt options f) [] := by
  have blank : Names pick (if f.docs.isEmpty then [] else docLine "") [] := by
    split
    · exact .nil
    · exact names_docLine ignores ""
  have verbatim (line : String) :
      Names pick (attr [word "doc", mark '=', .literal (.verbatim line)]) [] :=
    names_plainAttr ignores (by decide) rfl
  have inlined : Names pick (attr [word "inline"]) [] := names_plainAttr ignores (by decide) rfl
  have notes :=
    ((((names_docLines ignores f.docs).append blank).append (verbatim " # Safety")).append
    (verbatim "")).append (names_docLine ignores (safetyNote options f))
  have params : isQuiet (commaSeparated
      (f.params.map fun p => paramDecl p.name (wrapped rt p.ty))) = true :=
    isQuiet_params fun p => isQuiet_wrapped rt p.ty
  exact (((notes.append inlined).append (.quiet (by simpa using params))).append
    (.quiet (isQuiet_wrappedReturn rt f.returns))).append
    (.quiet (by simpa [braces] using isQuiet_wrappedCall rt f))

theorem names_imports (rt : CratePath) (options : Options) (functions : List Function) :
    Names pick (imports rt options functions)
      (functions.flatMap fun f => (pick (linkContents (options.symbol f.name))).toList) := by
  have library : Names pick ((options.linkName.map linkAttr).getD []) [] := by
    cases options.linkName with
    | none => exact .nil
    | some library => exact names_plainAttr ignores (by decide) (by simp [commaSeparated, text])
  have hidden : Names pick (attr [word "doc", parens [word "hidden"]]) [] :=
    names_plainAttr ignores (by decide) rfl
  have unused : Names pick (attr [word "allow", parens [word "unused_imports"]]) [] :=
    names_plainAttr ignores (by decide) rfl
  have opening : Names pick ([word "use", word "super"] ++ colons ++ [mark '*', mark ';']) [] :=
    .quiet rfl
  have block : Names pick [word "unsafe", word "extern", text "C"] [] := .quiet rfl
  have module : Names pick [word "mod", importModule] [] := .quiet rfl
  have each : Names pick (functions.flatMap (importDecl rt options)) _ :=
    .flatMap fun f _ => names_importDecl rt options f
  exact (hidden.append unused).append
    (module.append ((opening.append library).append (block.append each.group)).group)

theorem names_exportDecl (rt : CratePath) (options : Options) (f : Function) :
    Names pick (exportDecl rt options f)
      (pick (exportContents (options.symbol f.name))).toList := by
  have result : isQuiet (podReturn rt f.returns) = true := isQuiet_podReturn rt f.returns
  have expected : isQuiet (signature (f.params.map fun p => pod rt p.ty) (podReturn rt f.returns)) =
      true := by
    refine isQuiet_signature (fun ts member => ?_) result
    obtain ⟨p, -, rfl⟩ := List.mem_map.mp member
    exact isQuiet_pod rt p.ty
  have handed : isQuiet (commaSeparated (f.params.map fun p => [ident p.name])) = true :=
    isQuiet_commaSeparated_map (fun _ => rfl) f.params
  have exported : Names pick (attr (exportContents (options.symbol f.name))) _ := .attr rfl
  have allowed : Names pick (attr [word "allow", parens [word "non_upper_case_globals"]]) [] :=
    names_plainAttr ignores (by decide) rfl
  refine ((exported.followed (.quiet ?_)).followed (.quiet result)).followed (Names.group ?_)
  · simpa [text] using isQuiet_podParams rt f
  · refine (((((((allowed.append (.quiet rfl)).append (.quiet expected)).append (.quiet rfl)).append
      (.quiet rfl)).append (.quiet rfl)).append (.quiet rfl)).append
      (.quiet (isQuiet_runtimeItem rt "guard"))).append (.quiet ?_)
    simpa [pair, Token.isQuiet, braces, signatureName] using handed

theorem names_exports (rt : CratePath) (options : Options) (functions : List Function) :
    Names pick (exports rt options functions)
      (functions.flatMap fun f => (pick (exportContents (options.symbol f.name))).toList) := by
  have unused : Names pick (attr [word "allow", parens [word "unused_macros"]]) [] :=
    names_plainAttr ignores (by decide) rfl
  have each : Names pick (functions.flatMap (exportDecl rt options)) _ :=
    .flatMap fun f _ => names_exportDecl ignores rt options f
  have before : Names pick [word "const", word "_", mark ':', parens [], mark '='] [] := .quiet rfl
  have after : Names pick [mark ';'] [] := .quiet rfl
  have pattern : Names pick
      ([parens [mark '$', parens [mark '$', word "imp", mark ':', word "tt"], mark '+']] ++
        pair '=' '>') [] := .quiet rfl
  have name : Names pick [word "macro_rules", mark '!', word "vellum_implement"] [] := .quiet rfl
  have constant := before.append ((Names.group (d := .brace) each).followed after)
  exact ((names_docLine ignores exportNote).append unused).append
    (name.append (pattern.append (constant.group.followed after)).group)

theorem symbolsOf_parts (rt : CratePath) (options : Options) (items : Items) :
    symbolsOf pick (parts rt options items) =
      items.functions.flatMap (fun f => (pick (linkContents (options.symbol f.name))).toList) ++
      items.functions.flatMap
        (fun f => (pick (exportContents (options.symbol f.name))).toList) := by
  have joined : symbolsOf pick (parts rt options items) =
      (parts rt options items).flatMap fun part => (attributesIn part).filterMap pick :=
    List.filterMap_flatMap
  have abstracts (s : AbstractStruct) : (attributesIn (abstractStruct s)).filterMap pick = [] :=
    (names_abstractStruct ignores s).whole
  have structs (s : Struct) : (attributesIn (completeStruct rt s)).filterMap pick = [] :=
    (names_completeStruct ignores rt s).whole
  have wrappers (f : Function) : (attributesIn (wrapperDecl rt options f)).filterMap pick = [] :=
    (names_wrapperDecl ignores rt options f).whole
  rw [joined]
  simp [parts, List.flatMap_map, abstracts, structs, wrappers, flatMap_empty,
    (names_imports ignores rt options items.functions).whole,
    (names_exports ignores rt options items.functions).whole]

end Declarations

theorem ignores_of_begins {pick : Stream → Option String} {front : String}
    (begins : ∀ ts symbol, pick ts = some symbol → ∃ raw, ts.head? = some (.ident front raw))
    (apart : front ∉ plainWords) : ∀ name ∈ plainWords, ∀ ts, pick (word name :: ts) = none := by
  intro name plain ts
  cases found : pick (word name :: ts) with
  | none => rfl
  | some symbol =>
    obtain ⟨raw, first⟩ := begins _ symbol found
    obtain ⟨rfl, -⟩ : name = front ∧ _ := by simpa [word] using first
    exact absurd plain apart

theorem linked_parts (rt : CratePath) (options : Options) (items : Items) :
    symbolsOf linkName? (parts rt options items) =
      items.functions.map fun f => options.symbol f.name := by
  have begins (ts : Stream) (symbol : String) (found : linkName? ts = some symbol) :
      ∃ raw, ts.head? = some (.ident "link_name" raw) := by
    unfold linkName? at found
    split at found
    · exact ⟨_, rfl⟩
    · cases found
  have linked (symbol : String) : linkName? (linkContents symbol) = some symbol := rfl
  have other (symbol : String) : linkName? (exportContents symbol) = none := rfl
  simp only [symbolsOf_parts (ignores_of_begins begins (by decide)), linked, other,
    Option.toList_some, Option.toList_none, flatMap_empty, List.append_nil, List.map_eq_flatMap]

theorem exported_parts (rt : CratePath) (options : Options) (items : Items) :
    symbolsOf exportName? (parts rt options items) =
      items.functions.map fun f => options.symbol f.name := by
  have begins (ts : Stream) (symbol : String) (found : exportName? ts = some symbol) :
      ∃ raw, ts.head? = some (.ident "unsafe" raw) := by
    unfold exportName? at found
    split at found
    · exact ⟨_, rfl⟩
    · cases found
  have other (symbol : String) : exportName? (linkContents symbol) = none := rfl
  have exported (symbol : String) : exportName? (exportContents symbol) = some symbol := rfl
  simp only [symbolsOf_parts (ignores_of_begins begins (by decide)), other, exported,
    Option.toList_some, Option.toList_none, flatMap_empty, List.nil_append, List.map_eq_flatMap]

end Bindery.Wrapper
