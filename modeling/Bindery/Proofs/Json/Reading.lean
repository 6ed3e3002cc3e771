import Bindery.Json.Reader
import Bindery.Proofs.Json.Lexing

set_option autoImplicit false
set_option relaxedAutoImplicit false

/-!
What the readers make of written values. A list is read element by element and an object member by
member, so what one step takes from the tokens is enough to know what the whole run returns.
-/

namespace Bindery.Json.Reader

open Writer (quoted natural separated)

variable {α σ : Type}

/-- A reader takes a value, and nothing more, from tokens that begin with it. -/
def Reads (reader : Reader α) (a : α) (ts : List Token) : Prop :=
  ∀ rest, reader (ts ++ rest) = .ok (a, rest)

theorem reads_string (s : String) : Reads string s [quoted s] := fun _ => rfl

theorem absorb_digits {significand : Nat} {ds : List Char}
    (fits : Nat.ofDigitChars 10 ds significand ≤ Numeral.wordMax) :
    Numeral.absorb significand ds = (Nat.ofDigitChars 10 ds significand, []) := by
  induction ds generalizing significand with
  | nil => rfl
  | cons d ds ih =>
    have next : 10 * significand + (d.toNat - '0'.toNat) =
        significand * 10 + Numeral.digitValue d := by
      rw [Nat.mul_comm]
      rfl
    rw [Nat.ofDigitChars_cons, next] at fits ⊢
    have grows : significand * 10 + Numeral.digitValue d ≤
        Nat.ofDigitChars 10 ds (significand * 10 + Numeral.digitValue d) := by
      rw [Nat.ofDigitChars_eq_ofDigitChars_zero]
      have positive := Nat.one_le_pow ds.length 10 (by decide)
      have scaled := Nat.mul_le_mul_right (significand * 10 + Numeral.digitValue d) positive
      omega
    rw [Numeral.absorb, if_pos (Nat.le_trans grows fits), ih fits]

theorem reads_word64 (n : UInt64) : Reads word64 n [natural n.toNat] := by
  intro rest
  have bound : n.toNat ≤ Numeral.wordMax := Nat.le_of_lt_succ n.toNat_lt
  have whole : Numeral.absorb 0 (Nat.toDigits 10 n.toNat) = (n.toNat, []) := by
    have digits := Nat.ofDigitChars_ten_toDigits (n := n.toNat)
    rw [absorb_digits (by rw [digits]; exact bound), digits]
  simp [natural, word64, Numeral.value, whole]

theorem reads_optional {reader : Reader α} {a : α} {ts : List Token}
    (reads : Reads reader a (.mark .openBrace :: ts)) :
    Reads (optional reader) (some a) (.mark .openBrace :: ts) := by
  intro rest
  have read := reads rest
  rw [List.cons_append] at read ⊢
  simp [optional, read]

def continued : List (List Token) → List Token
  | [] => []
  | parts => .mark .comma :: separated parts

theorem separated_cons (part : List Token) (parts : List (List Token)) :
    separated (part :: parts) = part ++ continued parts := by
  cases parts with
  | nil => simp [separated, continued]
  | cons next parts => rfl

theorem length_le_separated {parts : List (List Token)} (filled : ∀ part ∈ parts, part ≠ []) :
    parts.length ≤ (separated parts).length := by
  induction parts with
  | nil => exact Nat.le_refl _
  | cons part parts ih =>
    have here := List.length_pos_iff.mpr (filled part List.mem_cons_self)
    have rest := ih fun p member => filled p (List.mem_cons_of_mem part member)
    have longer : (separated parts).length ≤ (continued parts).length := by
      cases parts with
      | nil => exact Nat.le_refl _
      | cons next parts => exact Nat.le_succ _
    rw [separated_cons, List.length_append, List.length_cons]
    omega

/-! ### Lists -/

inductive Starts : List Token → Prop where
  | object (ts : List Token) : Starts (.mark .openBrace :: ts)
  | string (s : String) (ts : List Token) : Starts (quoted s :: ts)

theorem Starts.ne_nil {ts : List Token} (starts : Starts ts) : ts ≠ [] := by
  cases starts <;> simp

theorem next_element {ts : List Token} (starts : Starts ts) (rest : List Token) :
    next true (ts ++ rest) = .ok (.element (ts ++ rest)) ∧
      next false (.mark .comma :: (ts ++ rest)) = .ok (.element (ts ++ rest)) := by
  cases starts <;> exact ⟨rfl, rfl⟩

section Lists

variable {item : Reader α} {write : α → List Token} {as : List α}
  (each : ∀ a ∈ as, Reads item a (write a)) (starts : ∀ a ∈ as, Starts (write a))

include each starts in
theorem elements_continued {bound : List Token} (enough : as.length < bound.length)
    (rest : List Token) :
    elements item bound false (continued (as.map write) ++ .mark .closeBracket :: rest) =
      .ok (as, rest) := by
  induction as generalizing bound with
  | nil =>
    cases bound with
    | nil => simp at enough
    | cons b bound => rfl
  | cons a as ih =>
    cases bound with
    | nil => simp at enough
    | cons b bound =>
      have here := each a List.mem_cons_self
      have found := next_element (starts a List.mem_cons_self)
        (continued (as.map write) ++ .mark .closeBracket :: rest)
      have later := ih (fun a member => each a (List.mem_cons_of_mem _ member))
        (fun a member => starts a (List.mem_cons_of_mem _ member))
        (Nat.lt_of_succ_lt_succ enough)
      rw [List.map_cons, continued, separated_cons, List.cons_append, List.append_assoc, elements,
        found.2]
      · simp only [here _, later]
      · simp

include each starts in
theorem elements_separated {bound : List Token} (enough : as.length < bound.length)
    (rest : List Token) :
    elements item bound true (separated (as.map write) ++ .mark .closeBracket :: rest) =
      .ok (as, rest) := by
  cases bound with
  | nil => simp at enough
  | cons b bound =>
    cases as with
    | nil => rfl
    | cons a as =>
      have here := each a List.mem_cons_self
      have found := next_element (starts a List.mem_cons_self)
        (continued (as.map write) ++ .mark .closeBracket :: rest)
      have later := elements_continued (fun a member => each a (List.mem_cons_of_mem _ member))
        (fun a member => starts a (List.mem_cons_of_mem _ member))
        (Nat.lt_of_succ_lt_succ enough) rest
      rw [List.map_cons, separated_cons, List.append_assoc, elements, found.1]
      simp only [here _, later]

end Lists

theorem reads_list {d : Nat} {item : (e : Nat) → e < d + 1 → Reader α} {write : α → List Token}
    {as : List α} (each : ∀ a ∈ as, Reads (item d (Nat.lt_succ_self d)) a (write a))
    (starts : ∀ a ∈ as, Starts (write a)) :
    Reads (list (d + 1) item) as (Writer.list (as.map write)) := by
  intro rest
  have filled : ∀ part ∈ as.map write, part ≠ [] := by
    intro part member
    obtain ⟨a, stored, rfl⟩ := List.mem_map.mp member
    exact (starts a stored).ne_nil
  have enough : as.length <
      (Token.mark .openBracket :: (separated (as.map write) ++
        .mark .closeBracket :: rest)).length := by
    have long := length_le_separated filled
    simp only [List.length_map, List.length_cons, List.length_append] at long ⊢
    omega
  have read := elements_separated each starts enough rest
  simpa [Writer.list, list] using read

/-! ### Records -/

/-- The members of an object taken into a record one after another. Each has a rule of its own, and
no field is given twice. -/
inductive Steps (rules : List (FieldRule σ)) : σ → List (List Token) → σ → Prop where
  | done (state : σ) : Steps rules state [] state
  | step {state next last : σ} {key : String} {value : List Token} {members : List (List Token)}
    {r : FieldRule σ} (found : rules.find? (fun r => r.name == key) = some r)
    (absent : r.present state = false) (reads : Reads (r.read state) next value)
    (later : Steps rules next members last) :
    Steps rules state (Writer.member key value :: members) last

theorem Steps.append {rules : List (FieldRule σ)} {state next last : σ}
    {first second : List (List Token)} (start : Steps rules state first next)
    (finish : Steps rules next second last) : Steps rules state (first ++ second) last := by
  induction start with
  | done => exact finish
  | step found absent reads _ ih => exact .step found absent reads (ih finish)

theorem Steps.filled {rules : List (FieldRule σ)} {state last : σ} {parts : List (List Token)}
    (steps : Steps rules state parts last) : ∀ part ∈ parts, part ≠ [] := by
  induction steps with
  | done => simp
  | step _ _ _ _ ih =>
    intro part member
    rcases List.mem_cons.mp member with rfl | later
    · simp [Writer.member]
    · exact ih part later

theorem member_step {rules : List (FieldRule σ)} {state next : σ} {key : String}
    {value : List Token} {r : FieldRule σ}
    (found : rules.find? (fun r => r.name == key) = some r) (absent : r.present state = false)
    (reads : Reads (r.read state) next value) (rest : List Token) :
    member rules key state (.mark .colon :: (value ++ rest)) = .ok (next, rest) := by
  simp [member, found, absent, mark, reads rest]

theorem members_continued {rules : List (FieldRule σ)} {state last : σ}
    {parts : List (List Token)} (steps : Steps rules state parts last) {bound : List Token}
    (enough : parts.length < bound.length) (rest : List Token) :
    members rules bound false state (continued parts ++ .mark .closeBrace :: rest) =
      .ok (last, rest) := by
  induction steps generalizing bound with
  | done state =>
    cases bound with
    | nil => simp at enough
    | cons b bound => rfl
  | @step state next last k value parts r found absent reads steps ih =>
    cases bound with
    | nil => simp at enough
    | cons b bound =>
      have here := member_step found absent reads (continued parts ++ .mark .closeBrace :: rest)
      have later := ih (Nat.lt_of_succ_lt_succ enough)
      rw [continued, separated_cons]
      · simp only [Writer.member, quoted, List.cons_append, List.append_assoc, members, key,
          Bool.false_eq_true, if_false, here, later]
      · simp

theorem members_separated {rules : List (FieldRule σ)} {state last : σ}
    {parts : List (List Token)} (steps : Steps rules state parts last) {bound : List Token}
    (enough : parts.length < bound.length) (rest : List Token) :
    members rules bound true state (separated parts ++ .mark .closeBrace :: rest) =
      .ok (last, rest) := by
  cases bound with
  | nil => simp at enough
  | cons b bound =>
    cases steps with
    | done state => rfl
    | @step _ next _ k value parts r found absent reads steps =>
      have here := member_step found absent reads (continued parts ++ .mark .closeBrace :: rest)
      have later := members_continued steps (Nat.lt_of_succ_lt_succ enough) rest
      rw [separated_cons]
      simp only [Writer.member, quoted, List.cons_append, List.append_assoc, members, key, if_true,
        here, later]

theorem reads_record {expected : String} {initial last : σ} {finish : σ → Except Complaint α}
    {d : Nat} {rules : (e : Nat) → e < d + 1 → List (FieldRule σ)} {parts : List (List Token)}
    {a : α} (steps : Steps (rules d (Nat.lt_succ_self d)) initial parts last)
    (done : finish last = .ok a) :
    Reads (record expected initial finish (d + 1) rules) a (Writer.object parts) := by
  intro rest
  have enough : parts.length <
      (Token.mark .openBrace :: (separated parts ++ .mark .closeBrace :: rest)).length := by
    have long := length_le_separated steps.filled
    simp only [List.length_cons, List.length_append]
    omega
  have read := members_separated steps enough rest
  simp [Writer.object, record, read, complete, done]

/-! ### Variants -/

theorem reads_variant {names : List String} {bare : String → Except Complaint α} {d : Nat}
    {body : (e : Nat) → e < d + 1 → String → Reader α} {name : String} {a : α}
    {value : List Token} (listed : name ∈ names)
    (reads : Reads (body d (Nat.lt_succ_self d) name) a value) :
    Reads (variant names bare (d + 1) body) a (Writer.object [Writer.member name value]) := by
  intro rest
  have read := reads (.mark .closeBrace :: rest)
  simp [Writer.object, Writer.member, separated, quoted, variant, variantKey, known, listed, mark,
    read]

theorem reads_bare {names : List String} {bare : String → Except Complaint α} {name : String}
    {a : α} (listed : name ∈ names) (resolved : bare name = .ok a) (depth : Nat)
    (body : (e : Nat) → e < depth → String → Reader α) :
    Reads (variant names bare depth body) a [quoted name] := by
  intro rest
  simp [quoted, variant, known, listed, resolved]

/-! ### Values and the brackets they need -/

/-- Written tokens from which a reader gets the value back as soon as it may open as many brackets
as they have open at once. -/
def Returns (reader : Nat → Reader α) (a : α) (ts : List Token) : Prop :=
  ∃ height, Block height ts ∧ ∀ depth, height ≤ depth → Reads (reader depth) a ts

/-- Written members of an object that are taken into a record in the same way. -/
def Fills (rules : Nat → List (FieldRule σ)) (state : σ) (parts : List (List Token)) (last : σ) :
    Prop :=
  ∃ blocks : List (Nat × List Token), blocks.map Prod.snd = parts ∧
    (∀ b ∈ blocks, Block b.1 b.2) ∧
    ∀ depth, (∀ b ∈ blocks, b.1 ≤ depth) → Steps (rules depth) state parts last

theorem returns_flat {reader : Nat → Reader α} {a : α} {ts : List Token} (block : Block 0 ts)
    (reads : ∀ depth, Reads (reader depth) a ts) : Returns reader a ts :=
  ⟨0, block, fun depth _ => reads depth⟩

theorem Fills.nil (rules : Nat → List (FieldRule σ)) (state : σ) : Fills rules state [] state :=
  ⟨[], rfl, by simp, fun _ _ => .done state⟩

theorem Fills.append {rules : Nat → List (FieldRule σ)} {state next last : σ}
    {first second : List (List Token)} (start : Fills rules state first next)
    (finish : Fills rules next second last) : Fills rules state (first ++ second) last := by
  obtain ⟨blocks, rfl, sound, steps⟩ := start
  obtain ⟨others, rfl, soundToo, stepsToo⟩ := finish
  refine ⟨blocks ++ others, List.map_append, ?_, fun depth enough => ?_⟩
  · intro b member
    rcases List.mem_append.mp member with left | right
    · exact sound b left
    · exact soundToo b right
  · have left := steps depth fun b member => enough b (List.mem_append_left _ member)
    have right := stepsToo depth fun b member => enough b (List.mem_append_right _ member)
    exact left.append right

theorem Fills.single {rules : Nat → List (FieldRule σ)} {state next : σ} {key : String}
    {value : List Token} {r : Nat → FieldRule σ}
    (found : ∀ depth, (rules depth).find? (fun r => r.name == key) = some (r depth))
    (absent : ∀ depth, (r depth).present state = false)
    (returns : Returns (fun depth => (r depth).read state) next value) :
    Fills rules state [Writer.member key value] next := by
  obtain ⟨height, block, reads⟩ := returns
  refine ⟨[(height, Writer.member key value)], rfl, ?_, fun depth enough => ?_⟩
  · intro b member
    obtain rfl := List.mem_singleton.mp member
    exact block.member key
  · have fits : height ≤ depth := enough _ List.mem_cons_self
    exact .step (found depth) (absent depth) (reads depth fits) (.done next)

theorem returns_list {item : Nat → Reader α} {write : α → List Token} {as : List α}
    (each : ∀ a ∈ as, Returns item a (write a)) (starts : ∀ a ∈ as, Starts (write a)) :
    Returns (fun depth => list depth fun e _ => item e) as (Writer.list (as.map write)) := by
  choose! height block reads using each
  have sound : ∀ b ∈ as.map fun a => (height a, write a), Block b.1 b.2 := by
    intro b member
    obtain ⟨a, stored, rfl⟩ := List.mem_map.mp member
    exact block a stored
  have whole := Block.list sound
  rw [List.map_map, List.map_map] at whole
  refine ⟨_, whole, fun depth enough => ?_⟩
  obtain ⟨d, rfl⟩ := Nat.exists_eq_add_of_le' (Nat.le_trans (Nat.le_add_left 1 _) enough)
  refine reads_list (fun a member => reads a member d ?_) starts
  have lower := Block.le_highest (List.mem_map_of_mem (f := height) member)
  exact Nat.le_trans lower (Nat.le_of_succ_le_succ enough)

theorem returns_record {expected : String} {initial last : σ} {finish : σ → Except Complaint α}
    {rules : Nat → List (FieldRule σ)} {parts : List (List Token)} {a : α}
    (fills : Fills rules initial parts last) (done : finish last = .ok a) :
    Returns (fun depth => record expected initial finish depth fun e _ => rules e) a
      (Writer.object parts) := by
  obtain ⟨blocks, rfl, sound, steps⟩ := fills
  refine ⟨_, Block.object sound, fun depth enough => ?_⟩
  obtain ⟨d, rfl⟩ := Nat.exists_eq_add_of_le' (Nat.le_trans (Nat.le_add_left 1 _) enough)
  refine reads_record (steps d fun b member => ?_) done
  have lower := Block.le_highest (List.mem_map_of_mem (f := Prod.fst) member)
  exact Nat.le_trans lower (Nat.le_of_succ_le_succ enough)

theorem returns_variant {names : List String} {bare : String → Except Complaint α}
    {body : Nat → String → Reader α} {name : String} {a : α} {value : List Token}
    (listed : name ∈ names) (returns : Returns (fun depth => body depth name) a value) :
    Returns (fun depth => variant names bare depth fun e _ => body e) a
      (Writer.object [Writer.member name value]) := by
  obtain ⟨height, block, reads⟩ := returns
  have sound : ∀ b ∈ [(height, Writer.member name value)], Block b.1 b.2 := by
    intro b member
    obtain rfl := List.mem_singleton.mp member
    exact block.member name
  refine ⟨_, Block.object sound, fun depth enough => ?_⟩
  have fits : height + 1 ≤ depth := by simpa [Block.highest] using enough
  obtain ⟨d, rfl⟩ := Nat.exists_eq_add_of_le' (Nat.le_trans (Nat.le_add_left 1 _) fits)
  exact reads_variant listed (reads d (Nat.le_of_succ_le_succ fits))

theorem text_of_returns {reader : Nat → Reader α} {a : α} {ts : List Token}
    (returns : Returns reader a ts) {depth : Nat}
    (shallow : bracketDepth (Writer.text ts) ≤ depth) :
    text (reader depth) (Writer.text ts) = .ok a := by
  obtain ⟨height, block, reads⟩ := returns
  rw [block.bracketDepth_text] at shallow
  have read := reads depth shallow []
  rw [List.append_nil] at read
  simp [text, block.tokens_text, read]

end Bindery.Json.Reader
