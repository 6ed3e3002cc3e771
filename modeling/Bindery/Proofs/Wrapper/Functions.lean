import Bindery.Proofs.Wrapper.Attributes

set_option autoImplicit false
set_option relaxedAutoImplicit false

/-!
The functions of the wrapper file, at any depth: a function is read where the word for it stands in
front of a name and parentheses. Types hold that word only in front of parentheses or inside of a
path, so the functions of the file are the imported ones, then the wrappers, then the exported ones,
each in declaration order, with the parameters and results that they were declared with.
-/

namespace Bindery.Wrapper

/-! ### Reading functions -/

structure Parameter where
  name : Option Token
  type : Stream

/-- A function as it is read; one that is only declared has no body. -/
structure FunctionItem where
  name : Token
  params : List Parameter
  result : Option Stream
  body : Option Stream

def Token.isComma : Token → Bool
  | .mark c _ => c == ','
  | _ => false

def Token.isEnd : Token → Bool
  | .mark c _ => c == ';' || c == '='
  | .group .brace _ => true
  | _ => false

def pieces (ts : Stream) : List Stream := if ts.isEmpty then [] else ts.splitOnP Token.isComma

def parameter : Stream → Parameter
  | name :: .mark ':' _ :: type => ⟨some name, type⟩
  | ts => ⟨none, ts⟩

def resultType? : Stream → Option Stream
  | .mark '-' _ :: .mark '>' _ :: type => some type
  | _ => none

def bodyOf? : Token → Option Stream
  | .group .brace inner => some inner
  | _ => none

def heading? : Stream → Option FunctionItem
  | .ident name raw :: .group .parenthesis params :: rest =>
    some
      { name := .ident name raw
        params := (pieces params).map parameter
        result := resultType? (rest.takeWhile fun t => !t.isEnd)
        body := (rest.find? Token.isEnd).bind bodyOf? }
  | _ => none

def Token.isFn : Token → Bool
  | .ident name raw => name == "fn" && !raw
  | _ => false

mutual

def Token.functions : Token → List FunctionItem
  | .group _ inner => functionsIn inner
  | _ => []

/-- The functions in a stream, from the outside in. -/
def functionsIn : Stream → List FunctionItem
  | [] => []
  | t :: ts => (if t.isFn then heading? ts else none).toList ++ t.functions ++ functionsIn ts

end

/-! ### Streams without functions -/

def beginsNameless : Stream → Bool
  | .mark _ _ :: _ => true
  | .group _ _ :: _ => true
  | _ => false

mutual

def Token.isBare : Token → Bool
  | .group _ inner => isBare inner
  | _ => true

/-- Whether no name follows the word for a function, at any depth. -/
def isBare : Stream → Bool
  | [] => true
  | t :: ts => (!t.isFn || beginsNameless ts) && t.isBare && isBare ts

end

theorem heading?_of_nameless {ts : Stream} (nameless : beginsNameless ts = true) (rest : Stream) :
    heading? (ts ++ rest) = none := by
  cases ts with
  | nil => simp [beginsNameless] at nameless
  | cons t ts =>
    cases t with
    | ident name raw => simp [beginsNameless] at nameless
    | literal l => simp [beginsNameless] at nameless
    | mark c glued => rfl
    | group d inner => rfl

mutual

theorem Token.functions_of_isBare : ∀ t : Token, t.isBare = true → t.functions = []
  | .group _ inner, bare => by
    have inside := functionsIn_of_isBare inner bare []
    rwa [List.append_nil, functionsIn] at inside
  | .ident .., _ => rfl
  | .mark .., _ => rfl
  | .literal _, _ => rfl

theorem functionsIn_of_isBare : ∀ ts : Stream, isBare ts = true → ∀ rest,
    functionsIn (ts ++ rest) = functionsIn rest
  | [], _, _ => rfl
  | t :: ts, bare, rest => by
    obtain ⟨⟨nameless, first⟩, others⟩ :
        ((t.isFn = false ∨ beginsNameless ts = true) ∧ t.isBare = true) ∧ isBare ts = true := by
      simpa [isBare] using bare
    have noHeading : (if t.isFn then heading? (ts ++ rest) else none) = none := by
      rcases nameless with other | nameless
      · simp [other]
      · simp [heading?_of_nameless nameless]
    rw [List.cons_append, functionsIn, noHeading, t.functions_of_isBare first,
      functionsIn_of_isBare ts others rest]
    rfl

end

theorem isBare_cons {t : Token} (other : t.isFn = false) (ts : Stream) :
    isBare (t :: ts) = (t.isBare && isBare ts) := by
  simp [isBare, other]

@[simp]
theorem isFn_mark (c : Char) : (mark c).isFn = false := rfl

@[simp]
theorem isFn_group (d : Delimiter) (ts : Stream) : (Token.group d ts).isFn = false := rfl

@[simp]
theorem isFn_ident (name : String) : (ident name).isFn = false := by
  by_cases same : name = "fn"
  · subst same
    decide
  · simp [ident, Token.isFn, same]

theorem isBare_append {ts us : Stream} (first : isBare ts = true) (second : isBare us = true) :
    isBare (ts ++ us) = true := by
  induction ts with
  | nil => exact second
  | cons t ts ih =>
    obtain ⟨⟨nameless, bare⟩, others⟩ :
        ((t.isFn = false ∨ beginsNameless ts = true) ∧ t.isBare = true) ∧ isBare ts = true := by
      simpa [isBare] using first
    have still : t.isFn = false ∨ beginsNameless (ts ++ us) = true := by
      refine nameless.imp_right fun begins => ?_
      cases ts with
      | nil => simp [beginsNameless] at begins
      | cons u ts => cases u <;> simp_all [beginsNameless]
    simpa [isBare, bare, ih others] using still

theorem isBare_commaSeparated {tss : List Stream} (each : ∀ ts ∈ tss, isBare ts = true) :
    isBare (commaSeparated tss) = true := by
  fun_induction commaSeparated tss with
  | case1 => rfl
  | case2 ts => exact each ts List.mem_cons_self
  | case3 ts rest _ ih =>
    refine isBare_append (each ts List.mem_cons_self) ?_
    rw [isBare_cons (isFn_mark ',')]
    exact ih fun us member => each us (List.mem_cons_of_mem ts member)

/-- A path has no function, since two colons follow each of its segments but the last. -/
theorem isBare_segmentTokens (segments : List Segment) {ts : Stream} (bare : isBare ts = true) :
    isBare (CratePath.segmentTokens segments ++ (colons ++ ts)) = true := by
  fun_induction CratePath.segmentTokens segments with
  | case1 => simpa [colons, pair, isBare, Token.isFn, Token.isBare] using bare
  | case2 s =>
    simpa [CratePath.segmentToken, colons, pair, isBare, Token.isBare, beginsNameless, Token.isFn]
      using bare
  | case3 s rest _ ih =>
    rw [List.append_assoc]
    simpa [CratePath.segmentToken, colons, pair, isBare, Token.isBare, beginsNameless, Token.isFn]
      using ih

theorem isBare_runtimeItem (rt : CratePath) {name : String} (other : (word name).isFn = false) :
    isBare (runtimeItem rt name) = true := by
  have last : isBare [word name] = true := by
    rw [isBare_cons other]
    rfl
  have path := isBare_segmentTokens rt.segments last
  rw [runtimeItem, CratePath.tokens, List.append_assoc, List.append_assoc]
  refine isBare_append ?_ path
  split <;> rfl

/-! ### Types -/

/-- Streams that are read as one type: no function is in them, and no mark ends them. -/
structure TypeLike (ts : Stream) : Prop where
  bare : isBare ts = true
  undivided : ∀ t ∈ ts, t.isComma = false ∧ t.isEnd = false

namespace TypeLike

variable {rt : CratePath} {ts us : Stream}

theorem nil : TypeLike [] := ⟨rfl, by simp⟩

theorem append (first : TypeLike ts) (second : TypeLike us) : TypeLike (ts ++ us) := by
  refine ⟨isBare_append first.bare second.bare, fun t member => ?_⟩
  rcases List.mem_append.mp member with left | right
  · exact first.undivided t left
  · exact second.undivided t right

theorem takeWhile_eq (type : TypeLike ts) {last : Token} (ends : last.isEnd = true)
    (rest : Stream) :
    (ts ++ last :: rest).takeWhile (fun t => !t.isEnd) = ts := by
  have inside : ∀ t ∈ ts, (!t.isEnd) = true := fun t member => by simp [(type.undivided t member).2]
  rw [List.takeWhile_append_of_pos inside]
  simp [ends]

theorem cons {t : Token} (other : t.isFn = false) (bare : t.isBare = true)
    (undivided : t.isComma = false ∧ t.isEnd = false) (rest : TypeLike ts) :
      TypeLike (t :: ts) := by
  refine ⟨?_, List.forall_mem_cons.mpr ⟨undivided, rest.undivided⟩⟩
  rw [isBare_cons other, bare, rest.bare]
  rfl

theorem ident (name : String) : TypeLike [Wrapper.ident name] :=
  cons (isFn_ident name) rfl ⟨rfl, rfl⟩ nil

theorem angled (inner : TypeLike ts) : TypeLike (Wrapper.angled ts) :=
  cons rfl rfl ⟨rfl, rfl⟩ (inner.append (cons rfl rfl ⟨rfl, rfl⟩ nil))

theorem arrow (type : TypeLike ts) : TypeLike (Wrapper.arrow ++ ts) :=
  cons rfl rfl ⟨rfl, rfl⟩ (cons rfl rfl ⟨rfl, rfl⟩ type)

theorem pointerTo (m : Mutability) (pointee : TypeLike ts) : TypeLike (Wrapper.pointerTo m ts) := by
  cases m with
  | const => exact cons rfl rfl ⟨rfl, rfl⟩ (cons (by decide) rfl ⟨rfl, rfl⟩ pointee)
  | mutable => exact cons rfl rfl ⟨rfl, rfl⟩ (cons (by decide) rfl ⟨rfl, rfl⟩ pointee)

theorem absolute {names : List String} (others : ∀ name ∈ names, (word name).isFn = false) :
    TypeLike (Wrapper.absolute names) := by
  induction names with
  | nil => exact nil
  | cons name names ih =>
    have last : TypeLike [word name] := cons (others name List.mem_cons_self) rfl ⟨rfl, rfl⟩ nil
    have later := ih fun other member => others other (List.mem_cons_of_mem name member)
    exact (cons rfl rfl ⟨rfl, rfl⟩ (cons rfl rfl ⟨rfl, rfl⟩ last)).append later

theorem undivided_colons {t : Token} (member : t ∈ colons) :
    t.isComma = false ∧ t.isEnd = false := by
  have one : t = .mark ':' true ∨ t = .mark ':' false := by simpa [colons, pair] using member
  rcases one with rfl | rfl <;> exact ⟨rfl, rfl⟩

theorem undivided_segmentTokens (segments : List Segment) :
    ∀ t ∈ CratePath.segmentTokens segments, t.isComma = false ∧ t.isEnd = false := by
  fun_induction CratePath.segmentTokens segments with
  | case1 => simp
  | case2 s => simp [CratePath.segmentToken, Token.isComma, Token.isEnd]
  | case3 s rest _ ih =>
    intro t member
    rcases List.mem_append.mp member with front | later
    · rcases List.mem_cons.mp front with rfl | between
      · exact ⟨rfl, rfl⟩
      · exact undivided_colons between
    · exact ih t later

theorem undivided_tokens (rt : CratePath) {t : Token} (member : t ∈ rt.tokens) :
    t.isComma = false ∧ t.isEnd = false := by
  rcases List.mem_append.mp member with front | segments
  · split at front
    · exact undivided_colons front
    · simp at front
  · exact undivided_segmentTokens rt.segments t segments

theorem runtimeItem (rt : CratePath) {name : String} (other : (word name).isFn = false) :
    TypeLike (Wrapper.runtimeItem rt name) := by
  refine ⟨isBare_runtimeItem rt other, fun t member => ?_⟩
  rcases List.mem_append.mp member with front | last
  · rcases List.mem_append.mp front with path | between
    · exact undivided_tokens rt path
    · exact undivided_colons between
  · obtain rfl := List.mem_singleton.mp last
    exact ⟨rfl, rfl⟩

theorem signature {args : List Stream} {returns : Stream} (each : ∀ ts ∈ args, isBare ts = true)
    (result : TypeLike returns) : TypeLike (Wrapper.signature args returns) := by
  constructor
  · have arguments := isBare_commaSeparated each
    simp [Wrapper.signature, word, parens, isBare, beginsNameless, Token.isBare,
      arguments, result.bare]
  · refine List.forall_mem_cons.mpr ⟨⟨rfl, rfl⟩, List.forall_mem_cons.mpr ⟨⟨rfl, rfl⟩, ?_⟩⟩
    exact result.undivided

theorem kept (rt : CratePath) : Kept rt (fun _ => True) TypeLike where
  nothing := nil
  primitive p := cons (by cases p <;> decide) rfl ⟨rfl, rfl⟩ nil
  named name _ := ident name
  character := absolute (by decide)
  pointer m ts := pointerTo m
  array ts len type := cons rfl (isBare_append type.bare rfl) ⟨rfl, rfl⟩ nil
  item name listed ts type := by
    have others : ∀ name ∈ itemNames, (word name).isFn = false := by decide
    exact (runtimeItem rt (others name listed)).append type.angled
  result ts := arrow
  signature args returns each := signature fun ts member => (each ts member).bare
  callback ts type := (absolute (by decide)).append (cons (by decide) rfl ⟨rfl, rfl⟩
    (cons (by decide) rfl ⟨rfl, rfl⟩ (cons rfl rfl ⟨rfl, rfl⟩ type))).angled

theorem pod (rt : CratePath) (t : Ty) : TypeLike (Wrapper.pod rt t) :=
  (kept rt).pod fun _ _ => trivial

theorem wrapped (rt : CratePath) (t : Ty) : TypeLike (Wrapper.wrapped rt t) :=
  (kept rt).wrapped fun _ _ => trivial

end TypeLike

/-! ### The parts of a heading -/

theorem pieces_commaSeparated {tss : List Stream}
    (sound : ∀ ts ∈ tss, ts ≠ [] ∧ ∀ t ∈ ts, t.isComma = false) :
    pieces (commaSeparated tss) = tss := by
  have split : tss ≠ [] → (commaSeparated tss).splitOnP Token.isComma = tss := by
    intro nonempty
    fun_induction commaSeparated tss with
    | case1 => contradiction
    | case2 ts => exact List.splitOnP_eq_singleton (sound ts List.mem_cons_self).2
    | case3 ts rest several ih =>
      have later := ih (fun us member => sound us (List.mem_cons_of_mem ts member))
        (by simpa using several)
      rw [List.splitOnP_append_cons ts _ rfl, later,
        List.splitOnP_eq_singleton (sound ts List.mem_cons_self).2]
      rfl
  cases tss with
  | nil => rfl
  | cons ts rest =>
    have nonempty : commaSeparated (ts :: rest) ≠ [] :=
      commaSeparated_ne_nil (sound ts List.mem_cons_self).1
    rw [pieces, if_neg (by simpa using nonempty), split (List.cons_ne_nil ts rest)]

theorem parameters_read {params : List Param} {type : Ty → Stream}
    (types : ∀ p ∈ params, TypeLike (type p.ty)) :
    (pieces (commaSeparated (params.map fun p => paramDecl p.name (type p.ty)))).map parameter =
      params.map fun p => ⟨some (ident p.name), type p.ty⟩ := by
  rw [pieces_commaSeparated, List.map_map]
  · rfl
  · intro ts member
    obtain ⟨p, listed, rfl⟩ := List.mem_map.mp member
    refine ⟨List.cons_ne_nil _ _, ?_⟩
    refine List.forall_mem_cons.mpr ⟨rfl, List.forall_mem_cons.mpr ⟨rfl, fun t inType => ?_⟩⟩
    exact ((types p listed).undivided t inType).1

theorem isBare_parameters {params : List Param} {type : Ty → Stream}
    (types : ∀ p ∈ params, TypeLike (type p.ty)) :
    isBare (commaSeparated (params.map fun p => paramDecl p.name (type p.ty))) = true := by
  refine isBare_commaSeparated fun ts member => ?_
  obtain ⟨p, listed, rfl⟩ := List.mem_map.mp member
  rw [paramDecl, isBare_cons (isFn_ident p.name), isBare_cons (isFn_mark ':')]
  exact (types p listed).bare

/-! ### The functions of a declaration -/

/-- A stream adds some functions, whatever follows it. -/
def Declares (ts : Stream) (items : List FunctionItem) : Prop :=
  ∀ rest, functionsIn (ts ++ rest) = items ++ functionsIn rest

namespace Declares

variable {ts us : Stream} {items others : List FunctionItem}

theorem whole (declares : Declares ts items) : functionsIn ts = items := by
  have alone := declares []
  rwa [List.append_nil, functionsIn, List.append_nil] at alone

theorem bare (bare : isBare ts = true) : Declares ts [] :=
  fun rest => functionsIn_of_isBare ts bare rest

theorem append (first : Declares ts items) (second : Declares us others) :
    Declares (ts ++ us) (items ++ others) := by
  intro rest
  rw [List.append_assoc, first, second, List.append_assoc]

theorem behind (front : Stream) (free : isBare front = true) (declares : Declares ts items) :
    Declares (front ++ ts) items :=
  (Declares.bare free).append declares

theorem followed (declares : Declares ts items) (rest : Stream) (free : isBare rest = true) :
    Declares (ts ++ rest) items := by
  have both := declares.append (.bare free)
  rwa [List.append_nil] at both

theorem group {d : Delimiter} (declares : Declares ts items) : Declares [.group d ts] items := by
  intro rest
  rw [List.singleton_append, functionsIn, Token.functions, declares.whole]
  rfl

theorem flatMap {α : Type} {f : α → Stream} {item : α → FunctionItem} {as : List α}
    (each : ∀ a ∈ as, Declares (f a) [item a]) : Declares (as.flatMap f) (as.map item) := by
  induction as with
  | nil => exact .bare rfl
  | cons a as ih =>
    exact (each a List.mem_cons_self).append (ih fun b member => each b
      (List.mem_cons_of_mem a member))

theorem function {name : String} {raw : Bool} {params result : Stream} (last : Token)
    (other : (Token.ident name raw).isFn = false) (inside : isBare params = true)
    (type : TypeLike result) (ends : last.isEnd = true) (free : isBare [last] = true) :
    Declares (word "fn" :: .ident name raw :: parens params :: (result ++ [last]))
      [⟨.ident name raw, (pieces params).map parameter, resultType? result, bodyOf? last⟩] := by
  intro rest
  have taken : ((result ++ [last]) ++ rest).takeWhile (fun t => !t.isEnd) = result := by
    rw [List.append_assoc]
    exact type.takeWhile_eq ends rest
  have found : ((result ++ [last]) ++ rest).find? Token.isEnd = some last := by
    have before : result.find? Token.isEnd = none :=
      List.find?_eq_none.mpr fun t member => by simp [(type.undivided t member).2]
    simp [before, ends]
  have read : heading? (.ident name raw :: parens params :: ((result ++ [last]) ++ rest)) =
      some ⟨.ident name raw, (pieces params).map parameter, resultType? result, bodyOf? last⟩ := by
    rw [parens, heading?, taken, found]
    rfl
  have remaining : isBare (.ident name raw :: parens params :: (result ++ [last])) = true := by
    rw [isBare_cons other, parens, isBare_cons (isFn_group _ _), isBare_append type.bare free]
    simpa [Token.isBare] using inside
  have first : (word "fn").isFn = true := by decide
  have later := functionsIn_of_isBare _ remaining rest
  rw [List.cons_append, List.cons_append] at later
  rw [List.cons_append, functionsIn, if_pos first, List.cons_append, List.cons_append, read, later]
  rfl

end Declares

theorem isBare_flatMap {α : Type} {f : α → Stream} {as : List α}
    (each : ∀ a ∈ as, isBare (f a) = true) : isBare (as.flatMap f) = true := by
  induction as with
  | nil => rfl
  | cons a as ih =>
    exact isBare_append (each a List.mem_cons_self)
      (ih fun b member => each b (List.mem_cons_of_mem a member))

theorem isBare_docLine (line : String) : isBare (docLine line) = true := rfl

theorem isBare_docLines (lines : List String) : isBare (docLines lines) = true :=
  isBare_flatMap fun line _ => isBare_docLine (" " ++ line)

theorem isBare_named (front : Stream) (free : isBare front = true) (name : String) {ts : Stream}
    (rest : isBare ts = true) : isBare (front ++ ident name :: ts) = true := by
  refine isBare_append free ?_
  rw [isBare_cons (isFn_ident name)]
  exact rest

theorem isBare_abstractStruct (s : AbstractStruct) : isBare (abstractStruct s) = true :=
  isBare_append (isBare_append (isBare_docLines s.docs) rfl)
    (isBare_named [word "pub", word "struct"] rfl s.name rfl)

theorem isBare_completeStruct (rt : CratePath) (s : Struct) :
    isBare (completeStruct rt s) = true := by
  have field (f : Field) : isBare (fieldDecl rt f) = true := by
    refine isBare_append (isBare_append (isBare_append (isBare_docLines f.docs) ?_)
      (TypeLike.pod rt f.ty).bare) rfl
    exact isBare_named [word "pub"] rfl f.name rfl
  have fields : isBare [braces (s.fields.flatMap (fieldDecl rt))] = true := by
    rw [braces, isBare_cons (isFn_group _ _), Token.isBare, isBare_flatMap fun f _ => field f]
    rfl
  exact isBare_append (isBare_append (isBare_append (isBare_docLines s.docs) rfl) rfl)
    (isBare_named [word "pub", word "struct"] rfl s.name fields)

theorem isFn_append (front : String) (long : 2 < front.length) (name : String) :
    (word (front ++ name)).isFn = false := by
  have different : front ++ name ≠ "fn" := by
    intro same
    have lengths := congrArg String.length same
    have short : "fn".length = 2 := rfl
    rw [String.length_append] at lengths
    omega
  simp [word, Token.isFn, different]

theorem isBare_group {d : Delimiter} {ts : Stream} (bare : isBare ts = true) :
    isBare [.group d ts] = true := by
  rw [isBare_cons (isFn_group d ts), Token.isBare, bare]
  rfl

theorem isBare_importCall (f : Function) : isBare (importCall f) = true := by
  have each : isBare (commaSeparated (f.params.map forwarded)) = true := by
    refine isBare_commaSeparated fun ts member => ?_
    obtain ⟨p, -, rfl⟩ := List.mem_map.mp member
    unfold forwarded
    split
    · exact isBare_named [] rfl p.name rfl
    · exact isBare_named [] rfl p.name rfl
  exact isBare_named (importModule :: colons) rfl f.name (isBare_group each)

theorem owner?_eq {rt : CratePath} {t : Ty} {owner : Stream} (found : owner? rt t = some owner) :
    ∃ head ∈ ["OwnedPtr", "OwnedSlice", "Closure"], owner = runtimeItem rt head := by
  unfold owner? at found
  split at found <;> cases found
  · exact ⟨"OwnedPtr", by simp, rfl⟩
  · exact ⟨"OwnedSlice", by simp, rfl⟩
  · exact ⟨"Closure", by simp, rfl⟩

theorem isBare_wrappedCall (rt : CratePath) (f : Function) : isBare (wrappedCall rt f) = true := by
  unfold wrappedCall
  split
  case h_1 owner found =>
    obtain ⟨t, -, owned⟩ := Option.bind_eq_some_iff.mp found
    obtain ⟨head, known, rfl⟩ := owner?_eq owned
    have others : ∀ head ∈ ["OwnedPtr", "OwnedSlice", "Closure"],
        (word head).isFn = false := by decide
    refine isBare_append (isBare_append (isBare_runtimeItem rt (others head known)) rfl) ?_
    rw [isBare_cons (by decide)]
    exact isBare_group (isBare_importCall f)
  case h_2 => exact isBare_importCall f

/-! ### The functions of the file -/

def parametersIn (type : Ty → Stream) (f : Function) : List Parameter :=
  f.params.map fun p => ⟨some (ident p.name), type p.ty⟩

def importedItem (rt : CratePath) (f : Function) : FunctionItem where
  name := ident f.name
  params := parametersIn (pod rt) f
  result := f.returns.map (pod rt)
  body := none

def wrapperItem (rt : CratePath) (f : Function) : FunctionItem where
  name := ident f.name
  params := parametersIn (wrapped rt) f
  result := f.returns.map (wrapped rt)
  body := some [word "unsafe", braces (wrappedCall rt f)]

def exportBody (rt : CratePath) (f : Function) : Stream :=
  attr [word "allow", parens [word "non_upper_case_globals"]] ++
    [word "const", signatureName f, mark ':', word "unsafe"] ++
    signature (f.params.map fun p => pod rt p.ty) (podReturn rt f.returns) ++
    [mark '='] ++ implementation ++ colons ++ [ident f.name, mark ';'] ++
    runtimeItem rt "guard" ++
    [parens
      (word "move" :: pair '|' '|' ++
        [word "unsafe",
          braces [signatureName f,
            parens (commaSeparated (f.params.map fun p => [ident p.name]))]])]

def exportedItem (rt : CratePath) (f : Function) : FunctionItem where
  name := word ("__vellum_export_" ++ f.name)
  params := parametersIn (pod rt) f
  result := f.returns.map (pod rt)
  body := some (exportBody rt f)

theorem resultType?_podReturn (rt : CratePath) (returns : Option Ty) :
    resultType? (podReturn rt returns) = returns.map (pod rt) := by
  cases returns <;> rfl

theorem resultType?_wrappedReturn (rt : CratePath) (returns : Option Ty) :
    resultType? (wrappedReturn rt returns) = returns.map (wrapped rt) := by
  cases returns <;> rfl

theorem typeLike_podReturn (rt : CratePath) (returns : Option Ty) :
    TypeLike (podReturn rt returns) :=
  (TypeLike.kept rt).podReturn fun t _ => .pod rt t

theorem typeLike_wrappedReturn (rt : CratePath) (returns : Option Ty) :
    TypeLike (wrappedReturn rt returns) := by
  cases returns with
  | none => exact .nil
  | some t => exact (TypeLike.wrapped rt t).arrow

theorem declares_importDecl (rt : CratePath) (options : Options) (f : Function) :
    Declares (importDecl rt options f) [importedItem rt f] := by
  have types : ∀ p ∈ f.params, TypeLike (pod rt p.ty) := fun p _ => .pod rt p.ty
  have read : Declares (word "fn" :: ident f.name :: parens (podParams rt f) ::
      (podReturn rt f.returns ++ [mark ';'])) [importedItem rt f] := by
    rw [importedItem, parametersIn, ← parameters_read types, ← resultType?_podReturn]
    exact .function (mark ';') (isFn_ident f.name) (isBare_parameters types)
      (typeLike_podReturn rt f.returns) rfl rfl
  exact read.behind (attr [word "link_name", mark '=', text (options.symbol f.name)] ++
    [word "pub"]) rfl

theorem declares_wrapperDecl (rt : CratePath) (options : Options) (f : Function) :
    Declares (wrapperDecl rt options f) [wrapperItem rt f] := by
  have types : ∀ p ∈ f.params, TypeLike (wrapped rt p.ty) := fun p _ => .wrapped rt p.ty
  have call : isBare [word "unsafe", braces (wrappedCall rt f)] = true := by
    rw [isBare_cons (by decide)]
    exact isBare_group (isBare_wrappedCall rt f)
  have read : Declares (word "fn" :: ident f.name ::
      parens (commaSeparated (f.params.map fun p => paramDecl p.name (wrapped rt p.ty))) ::
      (wrappedReturn rt f.returns ++ [braces [word "unsafe", braces (wrappedCall rt f)]]))
      [wrapperItem rt f] := by
    rw [wrapperItem, parametersIn, ← parameters_read types, ← resultType?_wrappedReturn]
    exact .function _ (isFn_ident f.name) (isBare_parameters types)
      (typeLike_wrappedReturn rt f.returns) rfl (isBare_group call)
  have blank : isBare (if f.docs.isEmpty then [] else docLine "") = true := by split <;> rfl
  have notes : isBare (docLines f.docs ++ (if f.docs.isEmpty then [] else docLine "") ++
      attr [word "doc", mark '=', .literal (.verbatim " # Safety")] ++
      attr [word "doc", mark '=', .literal (.verbatim "")] ++
      docLine (safetyNote options f) ++ attr [word "inline"] ++
      [word "pub", word "unsafe"]) = true :=
    isBare_append (isBare_append (isBare_append (isBare_append (isBare_append
      (isBare_append (isBare_docLines f.docs) blank) rfl) rfl) rfl) rfl) rfl
  have declared := read.behind _ notes
  simpa [wrapperDecl] using declared

theorem isBare_exportBody (rt : CratePath) (f : Function) : isBare (exportBody rt f) = true := by
  have constant : (signatureName f).isFn = false :=
    isFn_append "__VELLUM_EXPECTED_SIGNATURE_" (by decide) f.name
  have expected : isBare (signature (f.params.map fun p => pod rt p.ty) (podReturn rt f.returns)) =
      true := by
    refine (TypeLike.signature (fun ts member => ?_) (typeLike_podReturn rt f.returns)).bare
    obtain ⟨p, -, rfl⟩ := List.mem_map.mp member
    exact (TypeLike.pod rt p.ty).bare
  have handed : isBare (commaSeparated (f.params.map fun p => [ident p.name])) = true := by
    refine isBare_commaSeparated fun ts member => ?_
    obtain ⟨p, -, rfl⟩ := List.mem_map.mp member
    exact (TypeLike.ident p.name).bare
  have opening : isBare [word "const", signatureName f, mark ':', word "unsafe"] = true := by
    rw [isBare_cons (by decide), isBare_cons constant]
    rfl
  have call : isBare [signatureName f,
      parens (commaSeparated (f.params.map fun p => [ident p.name]))] = true := by
    rw [isBare_cons constant]
    exact isBare_group handed
  have guarded : isBare (word "move" :: pair '|' '|' ++ [word "unsafe", braces
      [signatureName f,
        parens (commaSeparated (f.params.map fun p => [ident p.name]))]]) = true := by
    refine isBare_append rfl ?_
    rw [isBare_cons (by decide)]
    exact isBare_group call
  exact isBare_append (isBare_append (isBare_append (isBare_append (isBare_append (isBare_append
    (isBare_append (isBare_append rfl opening) expected) rfl) rfl) rfl)
    (isBare_named [] rfl f.name rfl)) (isBare_runtimeItem rt (by decide))) (isBare_group guarded)

theorem declares_exportDecl (rt : CratePath) (options : Options) (f : Function) :
    Declares (exportDecl rt options f) [exportedItem rt f] := by
  have types : ∀ p ∈ f.params, TypeLike (pod rt p.ty) := fun p _ => .pod rt p.ty
  have read :
      Declares (word "fn" :: word ("__vellum_export_" ++ f.name) :: parens (podParams rt f) ::
      (podReturn rt f.returns ++ [braces (exportBody rt f)])) [exportedItem rt f] := by
    rw [exportedItem, parametersIn, ← parameters_read types, ← resultType?_podReturn]
    exact .function _ (isFn_append "__vellum_export_" (by decide) f.name) (isBare_parameters types)
      (typeLike_podReturn rt f.returns) rfl (isBare_group (isBare_exportBody rt f))
  exact read.behind (attr [word "unsafe", parens [word "export_name", mark '=',
    text (options.symbol f.name)]] ++ [word "extern", text "C"]) rfl

theorem declares_imports (rt : CratePath) (options : Options) (functions : List Function) :
    Declares (imports rt options functions) (functions.map (importedItem rt)) := by
  have each : Declares [braces (functions.flatMap (importDecl rt options))] _ :=
    .group (.flatMap fun f _ => declares_importDecl rt options f)
  have library : isBare ((options.linkName.map linkAttr).getD []) = true := by
    cases options.linkName <;> rfl
  have opening : isBare ([word "use", word "super"] ++ colons ++ [mark '*', mark ';'] ++
      (options.linkName.map linkAttr).getD []) = true := isBare_append rfl library
  have block := (each.behind [word "unsafe", word "extern", text "C"] rfl).behind _ opening
  exact (block.group.behind [word "mod", importModule] rfl).behind
    (attr [word "doc", parens [word "hidden"]] ++
      attr [word "allow", parens [word "unused_imports"]]) rfl

theorem declares_exports (rt : CratePath) (options : Options) (functions : List Function) :
    Declares (exports rt options functions) (functions.map (exportedItem rt)) := by
  have each : Declares [braces (functions.flatMap (exportDecl rt options))] _ :=
    .group (.flatMap fun f _ => declares_exportDecl rt options f)
  have constant : Declares [word "const", word "_", mark ':', parens [], mark '=',
      braces (functions.flatMap (exportDecl rt options)), mark ';'] _ :=
    (each.followed [mark ';'] rfl).behind [word "const", word "_", mark ':',
      parens [], mark '='] rfl
  have arm := (constant.group (d := .brace)).followed [mark ';'] rfl
  have rule := arm.behind ([parens [mark '$', parens [mark '$', word "imp", mark ':', word "tt"],
    mark '+']] ++ pair '=' '>') rfl
  exact (rule.group.behind [word "macro_rules", mark '!', word "vellum_implement"] rfl).behind
    (docLine exportNote ++ attr [word "allow", parens [word "unused_macros"]]) rfl

theorem functions_parts (rt : CratePath) (options : Options) (items : Items) :
    (parts rt options items).flatMap functionsIn =
      items.functions.map (importedItem rt) ++ items.functions.map (wrapperItem rt) ++
        items.functions.map (exportedItem rt) := by
  have abstracts : items.abstractStructs.flatMap (fun s => functionsIn (abstractStruct s)) = [] :=
    List.flatMap_eq_nil_iff.mpr fun s _ => (Declares.bare (isBare_abstractStruct s)).whole
  have structs : items.structs.flatMap (fun s => functionsIn (completeStruct rt s)) = [] :=
    List.flatMap_eq_nil_iff.mpr fun s _ => (Declares.bare (isBare_completeStruct rt s)).whole
  have wrappers (f : Function) : functionsIn (wrapperDecl rt options f) = [wrapperItem rt f] :=
    (declares_wrapperDecl rt options f).whole
  simp [parts, List.flatMap_map, abstracts, structs, wrappers, ← List.map_eq_flatMap,
    (declares_imports rt options items.functions).whole,
    (declares_exports rt options items.functions).whole]

end Bindery.Wrapper
