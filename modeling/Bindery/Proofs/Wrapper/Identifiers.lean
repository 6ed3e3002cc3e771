import Bindery.Proofs.Description.Walk
import Bindery.Proofs.Wrapper.Readable

set_option autoImplicit false
set_option relaxedAutoImplicit false

/-!
Every identifier of the wrapper file can be made. Identifiers come from three places: from the fixed
text, from the path of the ownership types, which was read as one, and from names that the
description uses. If those names can be made identifiers, all of the file can.
-/

namespace Bindery.Wrapper

open Text.Identifier (isStart isContinue isAsciiStart isAsciiContinue)

/-- Whether a text can be made an identifier, possibly a raw one. -/
structure IsIdent (name : String) (raw : Bool) : Prop where
  spelled : ∃ first rest, name.toList = first :: rest ∧ isStart first = true ∧
    ∀ c ∈ rest, isContinue c = true
  free : raw = true → name ∉ "_" :: reserved

mutual

def Token.idents : Token → List (String × Bool)
  | .ident name raw => [(name, raw)]
  | .mark _ _ => []
  | .literal _ => []
  | .group _ inner => streamIdents inner

def streamIdents : Stream → List (String × Bool)
  | [] => []
  | t :: ts => t.idents ++ streamIdents ts

end

def Token.Made (t : Token) : Prop := ∀ i ∈ t.idents, IsIdent i.1 i.2

def Made (ts : Stream) : Prop := ∀ i ∈ streamIdents ts, IsIdent i.1 i.2

section Spelling

theorem toNat_lt_of_isLetter {c : Char} (letter : IsLetter c) : c.toNat < 128 := by
  rcases letter with ⟨-, upper⟩ | ⟨-, lower⟩ | rfl
  · have bound : c.toNat ≤ 90 := upper
    omega
  · have bound : c.toNat ≤ 122 := lower
    omega
  · decide

theorem isStart_of_ascii {c : Char} (ascii : isAsciiStart c = true) : isStart c = true := by
  have small := toNat_lt_of_isLetter ((isAsciiStart_iff c).mp ascii)
  rw [isStart, if_pos small, ascii]

theorem isContinue_of_ascii {c : Char} (ascii : isAsciiContinue c = true) :
    isContinue c = true := by
  have small : c.toNat < 128 := by
    rcases (isAsciiContinue_iff c).mp ascii with letter | ⟨-, digit⟩
    · exact toNat_lt_of_isLetter letter
    · have bound : c.toNat ≤ 57 := digit
      omega
  rw [isContinue, if_pos small, ascii]

theorem isContinue_of_isStart {c : Char} (start : isStart c = true) : isContinue c = true := by
  unfold isStart at start
  split at start
  · exact isContinue_of_ascii ((isAsciiContinue_iff c).mpr (.inl ((isAsciiStart_iff c).mp start)))
  · rename_i large
    rw [isContinue, if_neg large, start, Bool.true_or]

def isPlain (name : String) : Bool :=
  match name.toList with
  | [] => false
  | c :: cs => isAsciiStart c && cs.all isAsciiContinue

theorem isIdent_of_isPlain {name : String} (plain : isPlain name = true) : IsIdent name false := by
  unfold isPlain at plain
  refine ⟨?_, by simp⟩
  cases letters : name.toList with
  | nil => simp [letters] at plain
  | cons first rest =>
    simp only [letters, Bool.and_eq_true, List.all_eq_true] at plain
    exact ⟨first, rest, rfl, isStart_of_ascii plain.1,
      fun c member => isContinue_of_ascii (plain.2 c member)⟩

theorem isIdent_of_isName {name : String} (named : IsName name) (free : name ∉ reserved) :
    IsIdent name (keywords.contains name) := by
  obtain ⟨notBlank, first, rest, letters, letter, others⟩ := named
  refine ⟨⟨first, rest, letters, isStart_of_ascii ((isAsciiStart_iff first).mpr letter), ?_⟩, ?_⟩
  · intro c member
    exact isContinue_of_ascii ((isAsciiContinue_iff c).mpr (others c member))
  · intro _ member
    rcases List.mem_cons.mp member with blank | taken
    · exact notBlank blank
    · exact free taken

/-- A plain word in front of an identifier makes another one. -/
theorem IsIdent.append {front name : String} {raw : Bool} (plain : isPlain front = true)
    (ident : IsIdent name raw) : IsIdent (front ++ name) false := by
  obtain ⟨⟨first, rest, letters, start, others⟩, -⟩ := isIdent_of_isPlain plain
  obtain ⟨⟨c, cs, spelled, begins, later⟩, -⟩ := ident
  refine ⟨⟨first, rest ++ c :: cs, ?_, start, ?_⟩, by simp⟩
  · rw [String.toList_append, letters, spelled, List.cons_append]
  · intro d member
    rcases List.mem_append.mp member with inFront | inName
    · exact others d inFront
    · rcases List.mem_cons.mp inName with rfl | behind
      · exact isContinue_of_isStart begins
      · exact later d behind

end Spelling

section Streams

@[simp]
theorem made_nil : Made [] := by
  intro i member
  cases member

@[simp]
theorem made_cons {t : Token} {ts : Stream} : Made (t :: ts) ↔ t.Made ∧ Made ts := by
  simp only [Made, Token.Made, streamIdents, List.forall_mem_append]

@[simp]
theorem made_append {ts us : Stream} : Made (ts ++ us) ↔ Made ts ∧ Made us := by
  induction ts with
  | nil => simp
  | cons t ts ih => simp [ih, and_assoc]

@[simp]
theorem made_flatMap {α : Type} {f : α → Stream} {as : List α} :
    Made (as.flatMap f) ↔ ∀ a ∈ as, Made (f a) := by
  induction as with
  | nil => simp
  | cons a as ih => simp [ih]

@[simp]
theorem made_identToken {name : String} {raw : Bool} :
    (Token.ident name raw).Made ↔ IsIdent name raw := by
  simp [Token.Made, Token.idents]

def Nameable (name : String) : Prop := IsIdent name (keywords.contains name)

@[simp]
theorem made_ident {name : String} : (ident name).Made ↔ Nameable name := made_identToken

@[simp]
theorem made_word {name : String} : (word name).Made ↔ IsIdent name false := made_identToken

@[simp]
theorem made_mark (c : Char) : (mark c).Made := by simp [mark, Token.Made, Token.idents]

@[simp]
theorem made_literal (l : Literal) : (Token.literal l).Made := by simp [Token.Made, Token.idents]

@[simp]
theorem made_text (s : String) : (text s).Made := made_literal _

@[simp]
theorem made_group {d : Delimiter} {ts : Stream} : (Token.group d ts).Made ↔ Made ts := by
  simp [Token.Made, Token.idents, Made]

@[simp]
theorem made_parens {ts : Stream} : (parens ts).Made ↔ Made ts := made_group

@[simp]
theorem made_brackets {ts : Stream} : (brackets ts).Made ↔ Made ts := made_group

@[simp]
theorem made_braces {ts : Stream} : (braces ts).Made ↔ Made ts := made_group

@[simp]
theorem made_pair (c d : Char) : Made (pair c d) := by
  simp [pair, Token.Made, Token.idents]

@[simp]
theorem made_colons : Made colons := made_pair _ _

@[simp]
theorem made_arrow : Made arrow := made_pair _ _

@[simp]
theorem made_angled {ts : Stream} : Made (angled ts) ↔ Made ts := by simp [angled]

@[simp]
theorem made_attr {ts : Stream} : Made (attr ts) ↔ Made ts := by simp [attr]

@[simp]
theorem made_commaSeparated {tss : List Stream} :
    Made (commaSeparated tss) ↔ ∀ ts ∈ tss, Made ts := by
  induction tss with
  | nil => simp [commaSeparated]
  | cons ts rest ih => cases rest <;> simp_all [commaSeparated]

@[simp]
theorem made_absolute {names : List String} :
    Made (absolute names) ↔ ∀ name ∈ names, IsIdent name false := by
  simp [absolute]

end Streams

end Bindery.Wrapper

namespace Bindery.CratePath

open Text.Identifier (isStart isContinue)
open Wrapper (IsIdent Made)

theorem isIdent_identifier? {cs rest : List Char} {name : String} {raw : Bool}
    (found : identifier? cs = some (name, rest)) (free : raw = true → name ∉ "_" :: pathWords) :
    IsIdent name raw := by
  unfold identifier? at found
  split at found
  · cases found
  · split at found
    · rename_i c cs start
      cases found
      refine ⟨⟨c, cs.takeWhile isContinue, by simp, start, ?_⟩, ?_⟩
      · intro d member
        exact List.all_eq_true.mp List.all_takeWhile d member
      · intro isRaw member
        refine free isRaw ?_
        simp only [Wrapper.reserved, pathWords, List.mem_cons] at member ⊢
        tauto
    · cases found

theorem isIdent_segment? {cs rest : List Char} {s : Segment}
    (found : segment? cs = some (s, rest)) : IsIdent s.name s.raw := by
  unfold segment? at found
  split at found
  · split at found
    · cases found
    · rename_i name after identified
      split at found
      · cases found
      · rename_i free
        cases found
        exact isIdent_identifier? identified fun _ => free
  · obtain ⟨⟨name, after⟩, identified, same⟩ := Option.map_eq_some_iff.mp found
    cases same
    exact isIdent_identifier? identified (by simp)

theorem isIdent_pieces? {cs : List Char} {ps : List Piece} (read : pieces? cs = some ps)
    {s : Segment} (member : .segment s ∈ ps) : IsIdent s.name s.raw := by
  induction size : cs.length using Nat.strongRecOn generalizing cs ps with
  | _ n ih =>
    subst size
    unfold pieces? at read
    split at read
    · cases read
      cases member
    · rename_i c rest
      split at read
      · exact ih _ (Nat.lt_succ_self _) read member rfl
      · split at read
        · split at read
          · rename_i after
            obtain ⟨later, reads, rfl⟩ := Option.map_eq_some_iff.mp read
            have shorter : after.length < (c :: ':' :: after).length := by
              simp only [List.length_cons]
              omega
            exact ih _ shorter reads (by simpa using member) rfl
          · cases read
        · split at read
          · rename_i after comment
            exact ih _ (afterComment?_length comment) read member rfl
          · split at read
            · cases read
            · rename_i t after found
              obtain ⟨later, reads, rfl⟩ := Option.map_eq_some_iff.mp read
              rcases List.mem_cons.mp member with same | behind
              · cases same
                exact isIdent_segment? found
              · exact ih _ (segment?_length found) reads behind rfl

theorem segment_mem_of_segments? {allowed : Segment → Bool} {ps : List Piece}
    {segments : List Segment} (read : segments? allowed ps = some segments) {s : Segment}
    (member : s ∈ segments) : .segment s ∈ ps := by
  fun_induction segments? allowed ps generalizing segments with
  | case1 t ok =>
    cases read
    rw [List.mem_singleton.mp member]
    exact List.mem_cons_self
  | case2 => cases read
  | case3 t rest ok ih =>
    obtain ⟨later, reads, rfl⟩ := Option.map_eq_some_iff.mp read
    rcases List.mem_cons.mp member with rfl | behind
    · exact List.mem_cons_self
    · exact List.mem_cons_of_mem _ (List.mem_cons_of_mem _ (ih reads behind))
  | case4 => cases read
  | case5 => cases read

theorem isIdent_parse? {text : String} {rt : CratePath} (parsed : parse? text = some rt) :
    ∀ s ∈ rt.segments, IsIdent s.name s.raw := by
  intro s member
  unfold parse? at parsed
  split at parsed
  · cases parsed
  · rename_i rest read
    obtain ⟨segments, found, rfl⟩ := Option.map_eq_some_iff.mp parsed
    exact isIdent_pieces? read (List.mem_cons_of_mem _ (segment_mem_of_segments? found member))
  · rename_i rest _ read
    obtain ⟨segments, found, rfl⟩ := Option.map_eq_some_iff.mp parsed
    exact isIdent_pieces? read (segment_mem_of_segments? found member)

theorem made_segmentTokens {segments : List Segment} :
    Made (segmentTokens segments) ↔ ∀ s ∈ segments, IsIdent s.name s.raw := by
  induction segments with
  | nil => simp [segmentTokens]
  | cons s rest ih => cases rest <;> simp_all [segmentTokens, segmentToken]

theorem made_tokens {text : String} {rt : CratePath} (parsed : parse? text = some rt) :
    Made rt.tokens := by
  have segments := made_segmentTokens.mpr (isIdent_parse? parsed)
  unfold tokens
  split <;> simpa using segments

end Bindery.CratePath

namespace Bindery.Ty

theorem mem_tree_iff {t u : Ty} : u ∈ t.tree ↔ u.Inside t := by
  induction t using size_induction with
  | step t ih =>
    have below : u ∈ t.children.flatMap tree ↔ ∃ v ∈ t.children, u.Inside v := by
      rw [List.mem_flatMap]
      refine exists_congr fun v => and_congr_right fun child => ?_
      exact ih v (size_lt_of_mem_children child)
    rw [tree_eq, List.mem_cons, below, Inside, Relation.ReflTransGen.cases_head_iff, eq_comm]
    rfl

theorem mem_names_iff {t : Ty} {name : String} : name ∈ t.names ↔ (Ty.named name).Inside t := by
  rw [← mem_tree_iff, names, List.mem_filterMap]
  constructor
  · rintro ⟨u, member, found⟩
    cases u <;> simp_all
  · intro member
    exact ⟨.named name, member, rfl⟩

theorem mem_names_of_child {t u : Ty} (child : u ∈ t.children) {name : String}
    (used : name ∈ u.names) : name ∈ t.names :=
  mem_names_iff.mpr (inside_of_child child (mem_names_iff.mp used))

end Bindery.Ty

namespace Bindery.Wrapper

theorem made_signature {args : List Stream} {returns : Stream} :
    Made (signature args returns) ↔ (∀ a ∈ args, Made a) ∧ Made returns := by
  simp (disch := decide) [signature, isIdent_of_isPlain]

theorem made_docLine (line : String) : Made (docLine line) := by
  simp (disch := decide) [docLine, isIdent_of_isPlain]

theorem made_docLines (lines : List String) : Made (docLines lines) := by
  simp [docLines, made_docLine]

theorem made_layoutAttr : Made layoutAttr := by
  simp (disch := decide) [layoutAttr, isIdent_of_isPlain]

theorem made_abstractStruct {s : AbstractStruct} (named : Nameable s.name) :
    Made (abstractStruct s) := by
  simp (disch := decide) [abstractStruct, made_docLines, made_layoutAttr, named,
    isIdent_of_isPlain]

section Names

variable {f : Function} (names : ∀ name ∈ functionNames f, Nameable name)

include names

theorem nameable_function : Nameable f.name := names f.name List.mem_cons_self

theorem nameable_ofParam {p : Param} (param : p ∈ f.params) :
    ∀ name ∈ p.name :: p.ty.names, Nameable name := by
  intro name mention
  refine names name (List.mem_append_left _ (List.mem_cons_of_mem _ ?_))
  exact List.mem_flatMap.mpr ⟨p, param, mention⟩

theorem nameable_param {p : Param} (param : p ∈ f.params) : Nameable p.name :=
  nameable_ofParam names param p.name List.mem_cons_self

theorem nameable_paramType {p : Param} (param : p ∈ f.params) :
    ∀ name ∈ p.ty.names, Nameable name :=
  fun name mention => nameable_ofParam names param name (List.mem_cons_of_mem _ mention)

theorem nameable_result {t : Ty} (result : t ∈ f.returns.toList) :
    ∀ name ∈ t.names, Nameable name := by
  intro name mention
  exact names name (List.mem_append_right _ (List.mem_flatMap.mpr ⟨t, result, mention⟩))

theorem made_importCall : Made (importCall f) := by
  have handed : ∀ p ∈ f.params, Made (forwarded p) := by
    intro p param
    have named := nameable_param names param
    unfold forwarded
    split <;> simp (disch := decide) [named, isIdent_of_isPlain]
  simpa (disch := decide) [importCall, importModule, nameable_function names, isIdent_of_isPlain]
    using handed

end Names

section Parts

variable {rt : CratePath} (path : Made rt.tokens)

include path

theorem made_runtimeItem {name : String} (plain : isPlain name = true) :
    Made (runtimeItem rt name) := by
  simp [runtimeItem, path, isIdent_of_isPlain plain]

theorem made_kept : Kept rt Nameable Made where
  nothing := made_nil
  primitive p := by cases p <;> simp (disch := decide) [Primitive.name, isIdent_of_isPlain]
  named name nameable := by simp [nameable]
  character := by simp (disch := decide) [isIdent_of_isPlain]
  pointer m ts made := by
    cases m <;> simp (disch := decide) [pointerTo, mutabilityWord, made, isIdent_of_isPlain]
  array ts len made := by simp [made]
  item name listed ts made := by
    have plain : ∀ name ∈ itemNames, isPlain name = true := by decide
    simp [made, made_runtimeItem path (plain name listed)]
  result ts made := by simp [made]
  signature args returns each made := made_signature.mpr ⟨each, made⟩
  callback ts made := by simp (disch := decide) [made, isIdent_of_isPlain]

theorem made_pod {t : Ty} (names : ∀ name ∈ t.names, Nameable name) : Made (pod rt t) :=
  (made_kept path).pod fun name inside => names name (Ty.mem_names_iff.mpr inside)

theorem made_wrapped {t : Ty} (names : ∀ name ∈ t.names, Nameable name) : Made (wrapped rt t) :=
  (made_kept path).wrapped fun name inside => names name (Ty.mem_names_iff.mpr inside)

theorem made_owner? {t : Ty} {owner : Stream} (found : owner? rt t = some owner) : Made owner := by
  unfold owner? at found
  split at found
  · cases found
    exact made_runtimeItem path (by decide)
  · cases found
    exact made_runtimeItem path (by decide)
  · cases found
    exact made_runtimeItem path (by decide)
  · cases found

theorem made_completeStruct {s : Struct} (names : ∀ name ∈ structNames s, Nameable name) :
    Made (completeStruct rt s) := by
  have named : Nameable s.name := names s.name List.mem_cons_self
  have fields : ∀ f ∈ s.fields, Made (fieldDecl rt f) := by
    intro f member
    have used : ∀ name ∈ f.name :: f.ty.names, Nameable name := fun name mention =>
      names name (List.mem_cons_of_mem _ (List.mem_flatMap.mpr ⟨f, member, mention⟩))
    have type := made_pod path fun name mention => used name (List.mem_cons_of_mem _ mention)
    simp (disch := decide) [fieldDecl, made_docLines, used f.name List.mem_cons_self, type,
      isIdent_of_isPlain]
  simpa (disch := decide) [completeStruct, made_docLines, made_layoutAttr, named,
    isIdent_of_isPlain] using fields

section Functions

variable (options : Options) {f : Function} (names : ∀ name ∈ functionNames f, Nameable name)

include names

theorem made_podReturn : Made (podReturn rt f.returns) := by
  cases returned : f.returns with
  | none => exact made_nil
  | some t =>
    have listed : t ∈ f.returns.toList := by simp [returned]
    have result := made_pod path (nameable_result names listed)
    simp [podReturn, result]

theorem made_wrappedReturn : Made (wrappedReturn rt f.returns) := by
  cases returned : f.returns with
  | none => exact made_nil
  | some t =>
    have listed : t ∈ f.returns.toList := by simp [returned]
    have result := made_wrapped path (nameable_result names listed)
    simp [wrappedReturn, result]

theorem made_podParams : Made (podParams rt f) := by
  have params : ∀ p ∈ f.params, Nameable p.name ∧ Made (pod rt p.ty) := fun p param =>
    ⟨nameable_param names param, made_pod path (nameable_paramType names param)⟩
  simpa [podParams, paramDecl] using params

theorem made_importDecl : Made (importDecl rt options f) := by
  simp (disch := decide) [importDecl, nameable_function names, made_podParams path names,
    made_podReturn path names, isIdent_of_isPlain]

theorem made_wrappedCall : Made (wrappedCall rt f) := by
  have called : Made (importCall f) := made_importCall names
  unfold wrappedCall
  split
  · rename_i owner found
    obtain ⟨t, -, owned⟩ := Option.bind_eq_some_iff.mp found
    simp (disch := decide) [called, made_owner? path owned, isIdent_of_isPlain]
  · exact called

theorem made_wrapperDecl : Made (wrapperDecl rt options f) := by
  have params : ∀ p ∈ f.params, Nameable p.name ∧ Made (wrapped rt p.ty) := fun p param =>
    ⟨nameable_param names param, made_wrapped path (nameable_paramType names param)⟩
  have blank : Made (if f.docs = [] then [] else docLine "") := by
    split
    · exact made_nil
    · exact made_docLine ""
  simpa (disch := decide) [wrapperDecl, paramDecl, made_docLines, made_docLine, blank,
    nameable_function names, made_wrappedReturn path names, made_wrappedCall path names,
    isIdent_of_isPlain] using params

theorem made_exportDecl : Made (exportDecl rt options f) := by
  have exported : IsIdent ("__vellum_export_" ++ f.name) false :=
    (nameable_function names).append (by decide)
  have expected : IsIdent ("__VELLUM_EXPECTED_SIGNATURE_" ++ f.name) false :=
    (nameable_function names).append (by decide)
  have params : (∀ p ∈ f.params, Made (pod rt p.ty)) ∧ ∀ p ∈ f.params, Nameable p.name :=
    ⟨fun p param => made_pod path (nameable_paramType names param),
      fun p param => nameable_param names param⟩
  have guarded : Made (runtimeItem rt "guard") := made_runtimeItem path (by decide)
  simpa (disch := decide) [exportDecl, signatureName, implementation, made_signature, exported,
    expected, guarded, nameable_function names, made_podParams path names,
    made_podReturn path names, isIdent_of_isPlain] using params

end Functions

theorem made_imports (options : Options) {functions : List Function}
    (names : ∀ f ∈ functions, ∀ name ∈ functionNames f, Nameable name) :
    Made (imports rt options functions) := by
  have each : ∀ f ∈ functions, Made (importDecl rt options f) := fun f member =>
    made_importDecl path options (names f member)
  have linked : Made ((options.linkName.map linkAttr).getD []) := by
    cases options.linkName with
    | none => exact made_nil
    | some library =>
      simp (disch := decide) [linkAttr, isIdent_of_isPlain]
  simpa (disch := decide) [imports, importModule, linked, isIdent_of_isPlain] using each

theorem made_exports (options : Options) {functions : List Function}
    (names : ∀ f ∈ functions, ∀ name ∈ functionNames f, Nameable name) :
    Made (exports rt options functions) := by
  have each : ∀ f ∈ functions, Made (exportDecl rt options f) := fun f member =>
    made_exportDecl path options (names f member)
  simpa (disch := decide) [exports, made_docLine, isIdent_of_isPlain] using each

theorem made_parts (options : Options) {items : Items}
    (names : ∀ name ∈ usedNames items, Nameable name) :
    ∀ part ∈ parts rt options items, Made part := by
  have abstracts : ∀ s ∈ items.abstractStructs, Nameable s.name := fun s member =>
    names s.name (List.mem_append_left _ (List.mem_append_left _ (List.mem_map_of_mem member)))
  have structs : ∀ s ∈ items.structs, ∀ name ∈ structNames s, Nameable name :=
    fun s member name used => names name
      (List.mem_append_left _ (List.mem_append_right _ (List.mem_flatMap.mpr ⟨s, member, used⟩)))
  have functions : ∀ f ∈ items.functions, ∀ name ∈ functionNames f, Nameable name :=
    fun f member name used => names name
      (List.mem_append_right _ (List.mem_flatMap.mpr ⟨f, member, used⟩))
  simp only [parts, List.forall_mem_append, List.forall_mem_map, List.forall_mem_singleton]
  refine ⟨⟨⟨⟨?_, ?_⟩, made_imports path options functions⟩, ?_⟩,
    made_exports path options functions⟩
  · exact fun s member => made_abstractStruct (abstracts s member)
  · exact fun s member => made_completeStruct path (structs s member)
  · exact fun f member => made_wrapperDecl path options (functions f member)

end Parts

end Bindery.Wrapper
