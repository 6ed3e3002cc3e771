import Bindery.Proofs.Generate
import Bindery.Proofs.Wrapper.Forms

set_option autoImplicit false
set_option relaxedAutoImplicit false

/-!
Reading a type back from its plain form. A plain form is a single token, a pointer, or a path
applied to something in angle marks; the last word of the path and the tokens inside determine the
type, except that a declared name may be spelled like a primitive. Main statement: plain forms tell
the types of an accepted description apart exactly if no declared name is spelled like a primitive
in use.
-/

namespace Bindery.Wrapper

/-- The paths that are applied to something in angle marks. -/
inductive Head where
  | slice (m : Mutability)
  | ownedPointer
  | ownedSlice
  | option
  | closure
  deriving DecidableEq

def Head.name : Head → String
  | .slice m => sliceName m
  | .ownedPointer => "RawOwnedPtr"
  | .ownedSlice => "RawOwnedSlice"
  | .option => "Option"
  | .closure => "RawClosure"

def Head.front (rt : CratePath) : Head → Stream
  | .option => absolute ["core", "option"] ++ colons
  | _ => rt.tokens ++ colons

/-- The outermost level of a plain form. -/
inductive Form where
  | single (t : Token)
  | pointer (m : Mutability) (pointee : Stream)
  | applied (head : Head) (inner : Stream)

def Form.stream (rt : CratePath) : Form → Stream
  | .single t => [t]
  | .pointer m pointee => pointerTo m pointee
  | .applied head inner => head.front rt ++ [word head.name] ++ angled inner

def charPath : Stream := absolute ["core", "ffi", "c_char"]

/-- The outermost level of each type's plain form. -/
inductive HasForm (rt : CratePath) : Ty → Form → Prop where
  | primitive (p : Primitive) : HasForm rt (.primitive p) (.single (word p.name))
  | named (name : String) : HasForm rt (.named name) (.single (ident name))
  | array (t : Ty) (n : UInt64) : HasForm rt (.array t n)
      (.single (brackets (pod rt t ++ [mark ';', .literal (.number n.toNat)])))
  | pointer (m : Mutability) (t : Ty) : HasForm rt (.pointer m t) (.pointer m (pod rt t))
  | string (m : Mutability) : HasForm rt (.string m) (.pointer m charPath)
  | slice (m : Mutability) (t : Ty) : HasForm rt (.slice m t) (.applied (.slice m) (pod rt t))
  | ownedPointer (m : Mutability) (t : Ty) :
      HasForm rt (.owned (.pointer m t)) (.applied .ownedPointer (pod rt t))
  | ownedSlice (m : Mutability) (t : Ty) :
      HasForm rt (.owned (.slice m t)) (.applied .ownedSlice (pod rt t))
  | function (args : List Ty) (r : Option Ty) : HasForm rt (.function args r)
      (.applied .option (word "unsafe" :: word "extern" :: text "C" ::
        signature (podAll rt args) (podReturn rt r)))
  | closure (args : List Ty) (r : Option Ty) : HasForm rt (.closure args r)
      (.applied .closure (signature (podAll rt args) (podReturn rt r)))

theorem HasForm.pod_eq {rt : CratePath} {t : Ty} {f : Form} (form : HasForm rt t f) :
    pod rt t = f.stream rt := by
  cases form with
  | function args r => simp [pod, Form.stream, Head.front, Head.name, absolute]
  | _ => simp [pod, Form.stream, Head.front, Head.name, runtimeItem, charPath]

theorem exists_hasForm (rt : CratePath) {t : Ty}
    (reference : ∀ inner, t = .owned inner → inner.isReference = true) : ∃ f, HasForm rt t f := by
  cases t with
  | owned inner =>
    have isReference := reference inner rfl
    cases inner with
    | pointer m t => exact ⟨_, .ownedPointer m t⟩
    | slice m t => exact ⟨_, .ownedSlice m t⟩
    | _ => simp [Ty.isReference] at isReference
  | primitive p => exact ⟨_, .primitive p⟩
  | named name => exact ⟨_, .named name⟩
  | array t n => exact ⟨_, .array t n⟩
  | pointer m t => exact ⟨_, .pointer m t⟩
  | string m => exact ⟨_, .string m⟩
  | slice m t => exact ⟨_, .slice m t⟩
  | function args r => exact ⟨_, .function args r⟩
  | closure args r => exact ⟨_, .closure args r⟩

/-! ### Paths hold no angle marks -/

theorem mark_of_mem_segmentTokens {ss : List Segment} {c : Char} {glued : Bool}
    (member : .mark c glued ∈ CratePath.segmentTokens ss) : c = ':' := by
  induction ss with
  | nil => simp [CratePath.segmentTokens] at member
  | cons s ss ih =>
    cases ss with
    | nil => simp [CratePath.segmentTokens, CratePath.segmentToken] at member
    | cons r ss =>
      rw [CratePath.segmentTokens] at member
      · rcases List.mem_append.mp member with first | later
        · simp [CratePath.segmentToken, colons, pair] at first
          tauto
        · exact ih later
      · simp

theorem mark_of_mem_tokens {rt : CratePath} {c : Char} {glued : Bool}
    (member : .mark c glued ∈ rt.tokens) : c = ':' := by
  rcases List.mem_append.mp member with first | segments
  · split at first
    · simp [colons, pair] at first
      tauto
    · simp at first
  · exact mark_of_mem_segmentTokens segments

theorem mark_of_mem_front {rt : CratePath} {head : Head} {c : Char} {glued : Bool}
    (member : .mark c glued ∈ head.front rt) : c = ':' := by
  have inColons : Token.mark c glued ∈ colons → c = ':' := by
    simp [colons, pair]
    tauto
  cases head with
  | option =>
    simp [Head.front, absolute, colons, pair, word] at member
    tauto
  | _ =>
    rcases List.mem_append.mp member with path | last
    · exact mark_of_mem_tokens path
    · exact inColons last

theorem mark_of_mem_path {rt : CratePath} {head : Head} {c : Char} {glued : Bool}
    (member : .mark c glued ∈ head.front rt ++ [word head.name]) : c = ':' := by
  rcases List.mem_append.mp member with front | last
  · exact mark_of_mem_front front
  · simp [word] at last

theorem append_cons_inj {α : Type} {a : α} {xs ys us vs : List α} (fresh : a ∉ xs)
    (freshToo : a ∉ ys) (same : xs ++ a :: us = ys ++ a :: vs) : xs = ys ∧ us = vs := by
  induction xs generalizing ys with
  | nil =>
    cases ys with
    | nil => exact ⟨rfl, (List.cons.inj same).2⟩
    | cons y ys =>
      have first : a = y := (List.cons.inj same).1
      exact absurd (first ▸ List.mem_cons_self) freshToo
  | cons x xs ih =>
    cases ys with
    | nil =>
      have first : x = a := (List.cons.inj same).1
      exact absurd (first ▸ List.mem_cons_self) fresh
    | cons y ys =>
      obtain ⟨rfl, rest⟩ := List.cons.inj same
      obtain ⟨rfl, rfl⟩ := ih (fun later => fresh (List.mem_cons_of_mem _ later))
        (fun later => freshToo (List.mem_cons_of_mem _ later)) rest
      exact ⟨rfl, rfl⟩

theorem Head.name_injective {h k : Head} (same : h.name = k.name) : h = k := by
  revert same
  rcases h with (_ | _) | _ | _ | _ | _ <;> rcases k with (_ | _) | _ | _ | _ | _ <;> decide

theorem mutabilityWord_injective {m n : Mutability} (same : mutabilityWord m = mutabilityWord n) :
    m = n := by
  cases m <;> cases n <;> simp_all [mutabilityWord, word]

theorem applied_ne_pointer {rt : CratePath} {head : Head} {inner pointee : Stream}
    {m : Mutability} :
    (Form.applied head inner).stream rt ≠ (Form.pointer m pointee).stream rt := by
  intro same
  have nonempty : head.front rt ++ [word head.name] ≠ [] := by simp
  obtain ⟨first, rest, path⟩ := List.exists_cons_of_ne_nil nonempty
  simp only [Form.stream, pointerTo, path] at same
  have star : first = mark '*' := (List.cons.inj same).1
  have member : mark '*' ∈ head.front rt ++ [word head.name] := by
    rw [path, star]
    exact List.mem_cons_self
  exact absurd (mark_of_mem_path member) (by decide)

theorem Form.stream_injective {rt : CratePath} {f g : Form} (same : f.stream rt = g.stream rt) :
    f = g := by
  -- Only the one-token form is that short, and only a pointer begins with a star.
  cases f with
  | single t =>
    cases g with
    | single u => rw [(List.cons.inj same).1]
    | pointer m pointee => simp [stream, pointerTo] at same
    | applied head inner =>
      have lengths := congrArg List.length same
      simp only [stream, angled, List.length_append, List.length_cons, List.length_nil] at lengths
      omega
  | pointer m pointee =>
    cases g with
    | single u => simp [stream, pointerTo] at same
    | pointer n other =>
      simp only [stream, pointerTo, List.cons.injEq] at same
      rw [mutabilityWord_injective same.2.1, same.2.2]
    | applied head inner => exact absurd same.symm applied_ne_pointer
  | applied head inner =>
    cases g with
    | single u =>
      have lengths := congrArg List.length same
      simp only [stream, angled, List.length_append, List.length_cons, List.length_nil] at lengths
      omega
    | pointer m pointee => exact absurd same applied_ne_pointer
    | applied other content =>
      have plain : ∀ h : Head, mark '<' ∉ h.front rt ++ [word h.name] := fun h member =>
        absurd (mark_of_mem_path member) (by decide)
      obtain ⟨path, rest⟩ := append_cons_inj (plain head) (plain other) same
      have name : head.name = other.name := by
        have last := List.append_inj_right' path rfl
        simpa [word] using last
      rw [Head.name_injective name, List.append_cancel_right rest]

theorem pod_ne_charPath {rt : CratePath} {t : Ty} {f : Form} (form : HasForm rt t f) :
    pod rt t ≠ charPath := by
  rw [form.pod_eq]
  cases f with
  | single u => simp [Form.stream, charPath, absolute, colons, pair]
  | pointer m pointee => simp [Form.stream, pointerTo, charPath, absolute, colons, pair, mark]
  | applied head inner =>
    intro same
    have member : mark '<' ∈ charPath := by
      rw [← same]
      simp [Form.stream, angled]
    simp [charPath, absolute, colons, pair, mark, word] at member

/-! ### Argument lists -/

theorem commaSeparated_ne_nil {part : Stream} {parts : List Stream} (nonempty : part ≠ []) :
    commaSeparated (part :: parts) ≠ [] := by
  cases parts <;> simp [commaSeparated, nonempty]

theorem commaSeparated_injective {parts others : List Stream}
    (sound : ∀ s ∈ parts, s ≠ [] ∧ mark ',' ∉ s) (soundToo : ∀ s ∈ others, s ≠ [] ∧ mark ',' ∉ s)
    (same : commaSeparated parts = commaSeparated others) : parts = others := by
  induction parts generalizing others with
  | nil =>
    cases others with
    | nil => rfl
    | cons other others =>
      exact absurd same.symm (commaSeparated_ne_nil (soundToo other List.mem_cons_self).1)
  | cons part parts ih =>
    have first := sound part List.mem_cons_self
    have later : ∀ s ∈ parts, s ≠ [] ∧ mark ',' ∉ s := fun s member =>
      sound s (List.mem_cons_of_mem _ member)
    cases others with
    | nil => exact absurd same (commaSeparated_ne_nil first.1)
    | cons other others =>
      have firstToo := soundToo other List.mem_cons_self
      -- Whether a comma follows the first part says whether there is a second one.
      cases parts with
      | nil =>
        cases others with
        | nil => exact congrArg (fun s => [s]) same
        | cons next others =>
          have whole : part = other ++ mark ',' :: commaSeparated (next :: others) := same
          exact absurd (by simp [whole]) first.2
      | cons second parts =>
        cases others with
        | nil =>
          have whole : part ++ mark ',' :: commaSeparated (second :: parts) = other := same
          exact absurd (by simp [← whole]) firstToo.2
        | cons next others =>
          obtain ⟨rfl, rest⟩ := append_cons_inj first.2 firstToo.2 same
          rw [ih later (fun s member => soundToo s (List.mem_cons_of_mem _ member)) rest]

theorem pod_ne_nil {rt : CratePath} {t : Ty} {f : Form} (form : HasForm rt t f) :
    pod rt t ≠ [] := by
  rw [form.pod_eq]
  cases f <;> simp [Form.stream, pointerTo]

theorem comma_kept (rt : CratePath) : Kept rt (fun _ => True) (mark ',' ∉ ·) where
  nothing := List.not_mem_nil
  primitive p := by simp [mark, word]
  named name _ := by simp [mark, ident]
  character := by simp [absolute, colons, pair, mark, word]
  pointer m ts free := by cases m <;> simpa [pointerTo, mark, mutabilityWord, word] using free
  array ts len _ := by simp [mark, brackets]
  item name _ ts free member := by
    rcases List.mem_append.mp member with path | rest
    · rcases List.mem_append.mp path with front | last
      · have place : mark ',' ∈ Head.closure.front rt := front
        exact absurd (mark_of_mem_front place) (by decide)
      · simp [mark, word] at last
    · exact free (by simpa [angled, mark] using rest)
  result ts free := by simpa [arrow, pair, mark] using free
  signature args returns _ free := by simpa [signature, mark, word, parens] using free
  callback ts free := by simpa [absolute, colons, pair, angled, mark, word, text] using free

theorem comma_notMem_pod (rt : CratePath) (t : Ty) : mark ',' ∉ pod rt t :=
  (comma_kept rt).pod fun _ _ => trivial

section Collection

-- A collection of types with all that is inside them, in which only references are owned and no
-- name is spelled like a primitive.
variable {rt : CratePath} {O : Ty → Prop} (closed : ∀ t, O t → ∀ u ∈ t.children, O u)
  (references : ∀ inner, O (.owned inner) → inner.isReference = true)

include references in
theorem hasForm_of_mem {t : Ty} (known : O t) : ∃ f, HasForm rt t f :=
  exists_hasForm rt fun inner eq => references inner (eq ▸ known)

include closed in
theorem mem_of_owned {inner u : Ty} (known : O (.owned inner)) (child : u ∈ inner.children) : O u :=
  closed inner (closed _ known inner List.mem_cons_self) u child

include references in
theorem map_pod_eq {args others : List Ty} (known : ∀ t ∈ args, O t) (knownToo : ∀ t ∈ others, O t)
    (same : commaSeparated (podAll rt args) = commaSeparated (podAll rt others)) :
    args.map (pod rt) = others.map (pod rt) := by
  have sound : ∀ ts : List Ty, (∀ t ∈ ts, O t) → ∀ s ∈ ts.map (pod rt), s ≠ [] ∧ mark ',' ∉ s := by
    intro ts all s member
    obtain ⟨t, stored, rfl⟩ := List.mem_map.mp member
    obtain ⟨f, form⟩ := hasForm_of_mem references (all t stored)
    exact ⟨pod_ne_nil form, comma_notMem_pod rt t⟩
  rw [podAll_eq_map, podAll_eq_map] at same
  exact commaSeparated_injective (sound args known) (sound others knownToo) same

theorem map_inC_eq {args others : List Ty}
    (each : ∀ t ∈ args, ∀ u ∈ others, pod rt t = pod rt u → t.inC = u.inC)
    (same : args.map (pod rt) = others.map (pod rt)) : args.map Ty.inC = others.map Ty.inC := by
  induction args generalizing others with
  | nil =>
    cases others with
    | nil => rfl
    | cons u others => simp at same
  | cons t args ih =>
    cases others with
    | nil => simp at same
    | cons u others =>
      obtain ⟨first, rest⟩ := List.cons.inj same
      have later := ih
        (fun v member w memberToo =>
          each v (List.mem_cons_of_mem _ member) w (List.mem_cons_of_mem _ memberToo)) rest
      rw [List.map_cons, List.map_cons, later, each t List.mem_cons_self u List.mem_cons_self first]

theorem podReturn_eq_map_inC {r s : Option Ty}
    (each : ∀ t ∈ r.toList, ∀ u ∈ s.toList, pod rt t = pod rt u → t.inC = u.inC)
    (same : podReturn rt r = podReturn rt s) : r.map Ty.inC = s.map Ty.inC := by
  cases r with
  | none =>
    cases s with
    | none => rfl
    | some u => simp [podReturn, arrow, pair] at same
  | some t =>
    cases s with
    | none => simp [podReturn, arrow, pair] at same
    | some u =>
      have tokens : pod rt t = pod rt u := List.append_cancel_left same
      exact congrArg some (each t List.mem_cons_self u List.mem_cons_self tokens)

include references in
theorem signature_inC_eq {args others : List Ty} {r s : Option Ty}
    (known : ∀ t ∈ args ++ r.toList, O t) (knownToo : ∀ t ∈ others ++ s.toList, O t)
    (each : ∀ t ∈ args ++ r.toList, ∀ u ∈ others ++ s.toList, pod rt t = pod rt u →
      t.inC = u.inC)
    (same : signature (podAll rt args) (podReturn rt r) =
      signature (podAll rt others) (podReturn rt s)) :
    Ty.inCAll args = Ty.inCAll others ∧ Ty.inCOption r = Ty.inCOption s := by
  obtain ⟨parameters, results⟩ : commaSeparated (podAll rt args) =
      commaSeparated (podAll rt others) ∧
      podReturn rt r = podReturn rt s := by
    simpa [signature, parens] using same
  have tokens := map_pod_eq references
    (fun t member => known t (List.mem_append_left _ member))
    (fun t member => knownToo t (List.mem_append_left _ member)) parameters
  rw [Header.inCAll_eq_map, Header.inCAll_eq_map, Header.inCOption_eq_map, Header.inCOption_eq_map]
  constructor
  · exact map_inC_eq (fun t member u memberToo =>
      each t (List.mem_append_left _ member) u (List.mem_append_left _ memberToo)) tokens
  · exact podReturn_eq_map_inC (fun t member u memberToo =>
      each t (List.mem_append_right _ member) u (List.mem_append_right _ memberToo)) results

variable (apart : ∀ p : Primitive, O (.primitive p) → ¬ O (.named p.name)) {a b : Ty}
  (known : O a) (knownToo : O b)
  (inside : ∀ t, t.size < a.size → O t → ∀ u, O u → pod rt t = pod rt u → t.inC = u.inC)

include closed known knownToo inside in
theorem inC_eq_of_children {t u : Ty} (child : t ∈ a.children) (childToo : u ∈ b.children)
    (same : pod rt t = pod rt u) : t.inC = u.inC :=
  inside t (Ty.size_lt_of_mem_children child) (closed a known t child) u
    (closed b knownToo u childToo) same

include closed apart known knownToo inside in
theorem inC_eq_of_single {t u : Token} (form : HasForm rt a (.single t))
    (formToo : HasForm rt b (.single u)) (level : t = u) : a.inC = b.inC := by
  cases form with
  | primitive p =>
    cases formToo with
    | primitive q =>
      have resolved := Primitive.ofName?_name p
      rw [(Token.ident.inj level).1, Primitive.ofName?_name] at resolved
      rw [Option.some.inj resolved]
    | named name =>
      have names : p.name = name := (Token.ident.inj level).1
      exact absurd (names ▸ knownToo) (apart p known)
    | array u n => cases level
  | named name =>
    cases formToo with
    | primitive p =>
      have names : name = p.name := (Token.ident.inj level).1
      exact absurd (names ▸ known) (apart p knownToo)
    | named other => rw [(Token.ident.inj level).1]
    | array u n => cases level
  | array t n =>
    cases formToo with
    | primitive p => cases level
    | named name => cases level
    | array u k =>
      obtain ⟨element, rest⟩ := List.append_inj' (Token.group.inj level).2 rfl
      have lengths : n = k := UInt64.toNat_inj.mp (by simpa using rest)
      have same := inC_eq_of_children closed known knownToo inside (t := t) (u := u)
        List.mem_cons_self List.mem_cons_self element
      rw [Ty.inC, Ty.inC, same, lengths]

include closed references known knownToo inside in
theorem inC_eq_of_pointer {m k : Mutability} {x y : Stream} (form : HasForm rt a (.pointer m x))
    (formToo : HasForm rt b (.pointer k y)) (level : m = k) (target : x = y) : a.inC = b.inC := by
  subst level
  cases form with
  | pointer m t =>
    cases formToo with
    | pointer m u =>
      have same := inC_eq_of_children closed known knownToo inside (t := t) (u := u)
        List.mem_cons_self List.mem_cons_self target
      rw [Ty.inC, Ty.inC, same]
    | string m =>
      obtain ⟨f, inner⟩ := hasForm_of_mem references (closed _ known t List.mem_cons_self)
      exact absurd target (pod_ne_charPath inner)
  | string m =>
    cases formToo with
    | pointer m u =>
      obtain ⟨f, inner⟩ := hasForm_of_mem references (closed _ knownToo u List.mem_cons_self)
      exact absurd target.symm (pod_ne_charPath inner)
    | string m => rfl

include closed references known knownToo inside in
theorem inC_eq_of_applied {head : Head} {x y : Stream} (form : HasForm rt a (.applied head x))
    (formToo : HasForm rt b (.applied head y)) (content : x = y) : a.inC = b.inC := by
  have signatures : ∀ {args others : List Ty} {r s : Option Ty}, a.children = args ++ r.toList →
      b.children = others ++ s.toList →
      signature (podAll rt args) (podReturn rt r) = signature (podAll rt others) (podReturn rt s) →
      Ty.inCAll args = Ty.inCAll others ∧ Ty.inCOption r = Ty.inCOption s := by
    intro args others r s ofA ofB tokens
    refine signature_inC_eq references (ofA ▸ closed a known) (ofB ▸ closed b knownToo) ?_
      tokens
    intro t child u childToo
    exact inC_eq_of_children closed known knownToo inside (ofA ▸ child) (ofB ▸ childToo)
  cases form with
  | slice m t =>
    cases formToo with
    | slice m u =>
      have same := inC_eq_of_children closed known knownToo inside (t := t) (u := u)
        List.mem_cons_self List.mem_cons_self content
      rw [Ty.inC, Ty.inC, same]
  | ownedPointer m t =>
    cases formToo with
    | ownedPointer k u =>
      have same := inside t (Ty.size_lt_of_owned List.mem_cons_self)
        (mem_of_owned closed known List.mem_cons_self) u
        (mem_of_owned closed knownToo List.mem_cons_self) content
      rw [Ty.inC, Ty.inC, same]
  | ownedSlice m t =>
    cases formToo with
    | ownedSlice k u =>
      have same := inside t (Ty.size_lt_of_owned List.mem_cons_self)
        (mem_of_owned closed known List.mem_cons_self) u
        (mem_of_owned closed knownToo List.mem_cons_self) content
      rw [Ty.inC, Ty.inC, same]
  | function args r =>
    cases formToo with
    | function others s =>
      obtain ⟨parameters, results⟩ := signatures rfl rfl (by simpa using content)
      rw [Ty.inC, Ty.inC, parameters, results]
  | closure args r =>
    cases formToo with
    | closure others s =>
      obtain ⟨parameters, results⟩ := signatures rfl rfl content
      rw [Ty.inC, Ty.inC, parameters, results]

omit known knownToo inside

include closed references apart in
/-- Types with the same plain form differ at most in the mutability of what they own. -/
theorem inC_eq_of_pod_eq {a b : Ty} (known : O a) (knownToo : O b)
    (same : pod rt a = pod rt b) : a.inC = b.inC := by
  induction a using Ty.size_induction generalizing b with
  | step a ih =>
    have inside : ∀ t, t.size < a.size → O t → ∀ u, O u → pod rt t = pod rt u → t.inC = u.inC :=
      fun t smaller member u => ih t smaller member
    obtain ⟨f, form⟩ := hasForm_of_mem references known
    obtain ⟨g, formToo⟩ := hasForm_of_mem references knownToo
    rw [form.pod_eq, formToo.pod_eq] at same
    obtain rfl : f = g := Form.stream_injective same
    cases f with
    | single t => exact inC_eq_of_single closed apart known knownToo inside form formToo rfl
    | pointer m s =>
      exact inC_eq_of_pointer closed references known knownToo inside form formToo rfl rfl
    | applied head s =>
      exact inC_eq_of_applied closed references known knownToo inside form formToo rfl

end Collection

end Bindery.Wrapper

namespace Bindery

namespace Wrapper

theorem pod_named_eq_primitive_iff {rt : CratePath} {name : String} {p : Primitive} :
    pod rt (.named name) = pod rt (.primitive p) ↔ name = p.name := by
  constructor
  · intro same
    have tokens : ident name = word p.name := by simpa [pod] using same
    exact (Token.ident.inj tokens).1
  · rintro rfl
    cases p <;> rfl

/-- Plain forms tell the types of an accepted description apart exactly if no struct in use is named
like a primitive in use. The token of a primitive names a declared struct exactly if the struct has
the primitive's name. -/
theorem plain_forms_separate_iff {env : Environment} {options : Options} {items : Items}
    {cache : ManifestCache} {text : String}
    (accepted : (generateMain env options items .rust cache).2.result = .ok text) (rt : CratePath) :
    ((∀ a b, items.Occurs a → items.Occurs b → pod rt a = pod rt b → a.inC = b.inC) ↔
        ∀ p : Primitive, items.Occurs (.primitive p) → ¬ items.Occurs (.named p.name)) ∧
      ((∀ name ∈ items.structNames ++ items.abstractNames, ∀ p : Primitive,
          pod rt (.named name) ≠ pod rt (.primitive p)) ↔
        ∀ p : Primitive, p.name ∉ items.structNames ++ items.abstractNames) := by
  obtain ⟨-, out, valid, -⟩ := generateMain_ok_iff.mp accepted
  refine ⟨⟨fun separate p used named => ?_, fun apart a b known knownToo same => ?_⟩,
    ⟨fun uncaptured p declared => ?_, fun apart name declared p same => ?_⟩⟩
  · have confused := separate _ _ named used (pod_named_eq_primitive_iff.mpr rfl)
    simp [Ty.inC] at confused
  · exact inC_eq_of_pod_eq (fun t occurs u child => occurs.child child)
      (fun inner occurs => occurs.isReference valid) apart known knownToo same
  · exact uncaptured p.name declared p (pod_named_eq_primitive_iff.mpr rfl)
  · exact apart p (pod_named_eq_primitive_iff.mp same ▸ declared)

def shadowedByte : Items where
  structs := [
    { name := "u8", fields := [{ name := "x", ty := .primitive .u32 }] },
    { name := "P"
      fields := [{ name := "a", ty := .primitive .u8 }, { name := "b", ty := .named "u8" }] }]

def callbacks : Items where
  structs := [
    { name := "fn", fields := [{ name := "data", ty := .owned (.slice .const (.primitive .u8)) }] }]
  functions := [
    { name := "call"
      params := [
        { name := "each", ty := .closure [.slice .mutable (.named "fn"), .string .const] none },
        { name := "all", ty := .function [.pointer .const (.named "fn")] (some (.primitive .u8)) }]
      returns := some (.owned (.pointer .const (.array (.named "fn") 2))) }]

def placedOptions : Options := { runtimePath := some "::vellum_abi" }

theorem parse?_placed :
    CratePath.parse? "::vellum_abi" = some (CratePath.root "vellum_abi") := by
  decide +kernel

theorem shadowedByte_confused :
    (∃ text, (generateMain bareEnvironment placedOptions shadowedByte .rust []).2.result =
        .ok text) ∧
      shadowedByte.Occurs (.primitive .u8) ∧ shadowedByte.Occurs (.named "u8") ∧
      pod (CratePath.root "vellum_abi") (.primitive .u8) =
        pod (CratePath.root "vellum_abi") (.named "u8") ∧
      (Ty.primitive .u8).inC ≠ (Ty.named "u8").inC := by
  have valid : shadowedByte.validated.result = .ok shadowedByte := rfl
  have names : checkNames (usedNames shadowedByte) = .ok () := by decide +kernel
  have rendered : (Generate.mainText bareEnvironment placedOptions shadowedByte [] .rust).2.result =
      .ok (file (CratePath.root "vellum_abi") placedOptions shadowedByte) :=
    mainText_rust_ok rfl parse?_placed names
  refine ⟨⟨_, generateMain_ok_iff.mpr ⟨rfl, shadowedByte, valid, rendered⟩⟩, ?_, ?_, rfl, ?_⟩
  · exact ⟨.primitive .u8, by simp [shadowedByte, Header.declaredTypes], .refl⟩
  · exact ⟨.named "u8", by simp [shadowedByte, Header.declaredTypes], .refl⟩
  · simp [Ty.inC]

theorem callbacks_separated :
    (generateMain bareEnvironment placedOptions callbacks .rust []).2.result =
        .ok (file (CratePath.root "vellum_abi") placedOptions callbacks) ∧
      ∀ a b, callbacks.Occurs a → callbacks.Occurs b →
        pod (CratePath.root "vellum_abi") a = pod (CratePath.root "vellum_abi") b →
        a.inC = b.inC := by
  have valid : callbacks.validated.result = .ok callbacks := rfl
  have names : checkNames (usedNames callbacks) = .ok () := by decide +kernel
  have rendered : (Generate.mainText bareEnvironment placedOptions callbacks [] .rust).2.result =
      .ok (file (CratePath.root "vellum_abi") placedOptions callbacks) :=
    mainText_rust_ok rfl parse?_placed names
  have accepted := generateMain_ok_iff.mpr ⟨rfl, callbacks, valid, rendered⟩
  refine ⟨accepted, (plain_forms_separate_iff accepted (CratePath.root "vellum_abi")).1.mpr ?_⟩
  rintro p - ⟨t, declared, inside⟩
  have arranged : callbacks.arranged = .ok callbacks := valid
  have known := Items.mem_names_of_arranged arranged declared inside
  have declaredNames : callbacks.structNames = ["fn"] ∧ callbacks.abstractNames = [] := ⟨rfl, rfl⟩
  rw [declaredNames.1, declaredNames.2] at known
  cases p <;> simp [Primitive.name] at known

end Wrapper

end Bindery
