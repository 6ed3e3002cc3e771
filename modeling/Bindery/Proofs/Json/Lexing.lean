import Bindery.Json.Lexer
import Bindery.Json.Writer
import Mathlib.Tactic.Common

set_option autoImplicit false
set_option relaxedAutoImplicit false

/-!
Written tokens are read back from their text. Numbers need a mark after them, which is what follows
every value in a list, in an object and at the end of a text.
-/

namespace Bindery.Json

open Writer (escape token quoted natural)

/-! ### Strings -/

theorem hexDigit?_hexDigit {n : Nat} (small : n < 16) :
    Lexer.hexDigit? (Writer.hexDigit n) = some n := by
  revert n
  decide

theorem hexQuad?_control {n : Nat} (small : n < 32) :
    Lexer.hexQuad? '0' '0' (Writer.hexDigit (n / 16)) (Writer.hexDigit (n % 16)) = some n := by
  have zero : Lexer.hexDigit? '0' = some 0 := by decide
  have high := hexDigit?_hexDigit (n := n / 16) (by omega)
  have low := hexDigit?_hexDigit (n := n % 16) (by omega)
  simp only [Lexer.hexQuad?, zero, high, low, bind, Option.bind, pure]
  congr 1
  omega

theorem string_numbered {a b c d : Char} {n : Nat} (value : Lexer.hexQuad? a b c d = some n)
    (low : n < 0xD800) (cs : List Char) :
    Lexer.string ('\\' :: 'u' :: a :: b :: c :: d :: cs) =
      (Lexer.string cs).cons (Char.ofNat n) := by
  have noTrailing : ¬ (0xDC00 ≤ n ∧ n ≤ 0xDFFF) := by omega
  have noLeading : ¬ (0xD800 ≤ n ∧ n ≤ 0xDBFF) := by omega
  rw [Lexer.string.eq_def]
  simp [value, noTrailing, noLeading]

theorem string_short {e c : Char} (short : Lexer.shortEscape? e = some c) (cs : List Char) :
    Lexer.string ('\\' :: e :: cs) = (Lexer.string cs).cons c := by
  have plain : e ≠ 'u' := by
    rintro rfl
    simp [Lexer.shortEscape?] at short
  rw [Lexer.string, short]
  · rintro a b d f rest rfl
    exact absurd rfl plain
  · exact plain

theorem string_plain {c : Char} (noBackslash : c ≠ '\\') (noQuote : c ≠ '"')
    (printed : ¬ c.toNat < 32) (cs : List Char) :
    Lexer.string (c :: cs) = (Lexer.string cs).cons c := by
  have unquoted : ¬ (c == '"') = true := by simpa using noQuote
  rw [Lexer.string, if_neg unquoted, if_neg printed]
  -- No other branch is taken, since they all begin with a backslash.
  · intro _ _ _ _ _ backslash
    exact absurd backslash noBackslash
  · intro _ backslash
    exact absurd backslash noBackslash
  · intro backslash
    exact absurd backslash noBackslash
  · intro _ _ backslash
    exact absurd backslash noBackslash

theorem string_quote (cs : List Char) : Lexer.string ('"' :: cs) = ⟨.ok [], .ok cs⟩ := rfl

theorem string_escape (c : Char) (cs : List Char) :
    Lexer.string (escape c ++ cs) = (Lexer.string cs).cons c := by
  unfold escape
  split_ifs with quote backslash back feed line carriage tab control
  · obtain rfl : c = '"' := by simpa using quote
    exact string_short (by decide) cs
  · obtain rfl : c = '\\' := by simpa using backslash
    exact string_short (by decide) cs
  · obtain rfl : c = '\x08' := by simpa using back
    exact string_short (by decide) cs
  · obtain rfl : c = '\x0c' := by simpa using feed
    exact string_short (by decide) cs
  · obtain rfl : c = '\n' := by simpa using line
    exact string_short (by decide) cs
  · obtain rfl : c = '\r' := by simpa using carriage
    exact string_short (by decide) cs
  · obtain rfl : c = '\t' := by simpa using tab
    exact string_short (by decide) cs
  · have value := string_numbered (hexQuad?_control control) (by omega) cs
    rwa [Char.ofNat_toNat] at value
  · exact string_plain (by simpa using backslash) (by simpa using quote) control cs

theorem string_escaped (s cs : List Char) :
    Lexer.string (s.flatMap escape ++ '"' :: cs) = ⟨.ok s, .ok cs⟩ := by
  induction s with
  | nil => exact string_quote cs
  | cons c s ih => rw [List.flatMap_cons, List.append_assoc, string_escape, ih]; rfl

/-! ### Numbers -/

/-- Text that is at its end or goes on with a mark. -/
def Delimited (cs : List Char) : Prop := ∀ c ∈ cs.head?, (Mark.ofChar? c).isSome

theorem char_of_mark {c : Char} (marked : (Mark.ofChar? c).isSome) : ∃ m : Mark, c = m.char := by
  unfold Mark.ofChar? at marked
  split_ifs at marked with brace endBrace bracket endBracket comma colon
  · exact ⟨.openBrace, beq_iff_eq.mp brace⟩
  · exact ⟨.closeBrace, beq_iff_eq.mp endBrace⟩
  · exact ⟨.openBracket, beq_iff_eq.mp bracket⟩
  · exact ⟨.closeBracket, beq_iff_eq.mp endBracket⟩
  · exact ⟨.comma, beq_iff_eq.mp comma⟩
  · exact ⟨.colon, beq_iff_eq.mp colon⟩
  · simp at marked

theorem not_isDigit_of_mark {c : Char} (marked : (Mark.ofChar? c).isSome) : c.isDigit = false := by
  obtain ⟨m, rfl⟩ := char_of_mark marked
  cases m <;> rfl

theorem mark_of_delimited {c : Char} {cs : List Char} (delimited : Delimited (c :: cs)) :
    (Mark.ofChar? c).isSome :=
  delimited c rfl

theorem takeWhile_digits {ds cs : List Char} (digits : ∀ d ∈ ds, d.isDigit = true)
    (delimited : Delimited cs) :
    (ds ++ cs).takeWhile Char.isDigit = ds ∧ (ds ++ cs).dropWhile Char.isDigit = cs := by
  have stop : cs.takeWhile Char.isDigit = [] ∧ cs.dropWhile Char.isDigit = cs := by
    cases cs with
    | nil => simp
    | cons c cs => simp [not_isDigit_of_mark (mark_of_delimited delimited)]
  rw [List.takeWhile_append_of_pos digits, List.dropWhile_append_of_pos digits, stop.1, stop.2]
  simp

theorem exponent_delimited (sign : Bool) (whole : List Char) {cs : List Char}
    (delimited : Delimited cs) :
    Lexer.exponent sign whole none cs = ⟨.ok ⟨sign, whole, none, none⟩, .ok cs⟩ := by
  cases cs with
  | nil => rfl
  | cons c cs =>
    have marked := mark_of_delimited delimited
    have noExponent : (c == 'e' || c == 'E') = false := by
      obtain ⟨m, rfl⟩ := char_of_mark marked
      cases m <;> rfl
    simp [Lexer.exponent, noExponent]

theorem afterWhole_delimited (sign : Bool) (whole : List Char) {cs : List Char}
    (delimited : Delimited cs) :
    Lexer.afterWhole sign whole cs = ⟨.ok ⟨sign, whole, none, none⟩, .ok cs⟩ := by
  have noPoint : ∀ rest, cs ≠ '.' :: rest := by
    rintro rest rfl
    have marked := mark_of_delimited delimited
    simp [Mark.ofChar?] at marked
  unfold Lexer.afterWhole
  split
  · exact absurd rfl (noPoint _)
  · exact exponent_delimited sign whole delimited

theorem toDigits_eq_zero_cons {n : Nat} {ds : List Char} (digits : Nat.toDigits 10 n = '0' :: ds) :
    ds = [] := by
  induction n using Nat.strongRecOn generalizing ds with
  | _ n ih =>
    by_cases small : n < 10
    · rw [Nat.toDigits_of_lt_base small] at digits
      simpa using (List.cons.inj digits).2.symm
    · rw [Nat.toDigits_of_base_le (by decide) (by omega)] at digits
      cases upper : Nat.toDigits 10 (n / 10) with
      | nil => exact absurd upper Nat.toDigits_ne_nil
      | cons c es =>
        obtain ⟨rfl, -⟩ : c = '0' ∧ es ++ [(n % 10).digitChar] = ds := by
          simpa [upper] using digits
        obtain rfl := ih (n / 10) (by omega) upper
        have value : n / 10 = 0 := by
          rw [← Nat.ofDigitChars_ten_toDigits (n := n / 10), upper]
          rfl
        omega

theorem number_digits (n : Nat) {cs : List Char} (delimited : Delimited cs) :
    Lexer.number false (Nat.toDigits 10 n ++ cs) =
      ⟨.ok ⟨false, Nat.toDigits 10 n, none, none⟩, .ok cs⟩ := by
  have all : ∀ d ∈ Nat.toDigits 10 n, d.isDigit = true :=
    fun d member => Nat.isDigit_of_mem_toDigits (by decide) (by decide) member
  cases digits : Nat.toDigits 10 n with
  | nil => exact absurd digits Nat.toDigits_ne_nil
  | cons c ds =>
    rw [digits] at all
    have rest := takeWhile_digits (fun d member => all d (List.mem_cons_of_mem c member)) delimited
    rw [List.cons_append, Lexer.number.eq_def]
    simp only
    split_ifs with zero first
    · -- A zero stands alone, and what follows it is no digit.
      obtain rfl : c = '0' := by simpa using zero
      obtain rfl := toDigits_eq_zero_cons digits
      rw [List.nil_append]
      split
      · rename_i d after
        rw [if_neg (by simp [not_isDigit_of_mark (mark_of_delimited delimited)])]
        exact afterWhole_delimited false _ delimited
      · exact afterWhole_delimited false _ delimited
    · rw [rest.1, rest.2]
      exact afterWhole_delimited false _ delimited
    · exact absurd (all c List.mem_cons_self) first

/-! ### Tokens -/

theorem tokens_nil : Lexer.tokens [] = [] := by rw [Lexer.tokens]

theorem tokens_mark (m : Mark) (cs : List Char) :
    Lexer.tokens (m.char :: cs) = .mark m :: Lexer.tokens cs := by
  have visible : isBlank m.char = false := by cases m <;> rfl
  rw [Lexer.tokens]
  simp [visible]

theorem tokens_quoted (s : String) (cs : List Char) :
    Lexer.tokens (token (quoted s) ++ cs) = quoted s :: Lexer.tokens cs := by
  have scanned := string_escaped s.toList cs
  have spelled : token (quoted s) ++ cs = '"' :: (s.toList.flatMap escape ++ '"' :: cs) := by
    simp [token, quoted]
  rw [spelled, Lexer.tokens, scanned]
  simp [isBlank, Mark.ofChar?, quoted, Except.map]

theorem tokens_digit {c : Char} {cs rest : List Char} {n : Numeral} (digit : c.isDigit = true)
    (scanned : Lexer.number false (c :: cs) = ⟨.ok n, .ok rest⟩) :
    Lexer.tokens (c :: cs) = .number (.ok n) :: Lexer.tokens rest := by
  have noMark : Mark.ofChar? c = none := by
    by_contra marked
    have other := not_isDigit_of_mark (Option.isSome_iff_ne_none.mpr marked)
    simp [other] at digit
  have others : ¬ isBlank c ∧ ¬ (c == '"') ∧ ¬ (c == '-') := by
    refine ⟨fun blank => ?_, fun quote => ?_, fun minus => ?_⟩
    · simp only [isBlank, Bool.or_eq_true, beq_iff_eq] at blank
      rcases blank with ((rfl | rfl) | rfl) | rfl <;> simp at digit
    · obtain rfl : c = '"' := by simpa using quote
      simp at digit
    · obtain rfl : c = '-' := by simpa using minus
      simp at digit
  obtain ⟨visible, noQuote, noMinus⟩ := others
  have whole : Lexer.number (c == '-') (if (c == '-') = true then cs else c :: cs) =
      ⟨.ok n, .ok rest⟩ := by
    rw [if_neg noMinus, Bool.eq_false_iff.mpr noMinus, scanned]
  rw [Lexer.tokens, if_neg visible, noMark]
  dsimp only
  rw [if_neg noQuote, if_pos (by simp [digit]), whole]

theorem tokens_natural (n : Nat) {cs : List Char} (delimited : Delimited cs) :
    Lexer.tokens (token (natural n) ++ cs) = natural n :: Lexer.tokens cs := by
  have spelled : token (natural n) = Nat.toDigits 10 n := by
    simp [token, natural, Writer.numeral]
  have scanned := number_digits n delimited
  rw [spelled]
  cases digits : Nat.toDigits 10 n with
  | nil => exact absurd digits Nat.toDigits_ne_nil
  | cons c ds =>
    have digit : c.isDigit = true :=
      Nat.isDigit_of_mem_toDigits (n := n) (by decide) (by decide) (digits ▸ List.mem_cons_self)
    rw [digits] at scanned
    rw [natural, digits]
    exact tokens_digit digit scanned

/-! ### Brackets -/

/-- The most brackets that are open at once in text, given how many are open before it. Brackets in
strings do not count, and a backslash in a string takes the next character with it. -/
def deepest : (inString : Bool) → (depth : Nat) → List Char → Nat
  | _, depth, [] => depth
  | true, depth, '\\' :: _ :: cs => deepest true depth cs
  | true, depth, c :: cs => deepest (c != '"') depth cs
  | false, depth, c :: cs =>
    if c == '"' then deepest true depth cs
    else if c == '{' || c == '[' then deepest false (depth + 1) cs
    else if c == '}' || c == ']' then max depth (deepest false (depth - 1) cs)
    else deepest false depth cs

def bracketDepth (text : String) : Nat := deepest false 0 text.toList

theorem le_deepest (inString : Bool) (depth : Nat) (cs : List Char) :
    depth ≤ deepest inString depth cs := by
  fun_induction deepest inString depth cs with
  | case1 => exact Nat.le_refl _
  | case5 _ _ _ _ _ ih => omega
  | case6 => exact Nat.le_max_left _ _
  | _ => assumption

theorem deepest_inside {c : Char} (noBackslash : c ≠ '\\') (noQuote : c ≠ '"') (depth : Nat)
    (cs : List Char) : deepest true depth (c :: cs) = deepest true depth cs := by
  have goesOn : (c != '"') = true := by simpa using noQuote
  rw [deepest, goesOn]
  intro _ _ same _
  exact noBackslash same

theorem deepest_escape (c : Char) (depth : Nat) (cs : List Char) :
    deepest true depth (escape c ++ cs) = deepest true depth cs := by
  have digit : ∀ n, n < 16 → Writer.hexDigit n ≠ '\\' ∧ Writer.hexDigit n ≠ '"' := by decide
  unfold escape
  split_ifs with quote backslash back feed line carriage tab control
  · rfl
  · rfl
  · rfl
  · rfl
  · rfl
  · rfl
  · rfl
  · have high := digit (c.toNat / 16) (by omega)
    have low := digit (c.toNat % 16) (by omega)
    show deepest true depth ('0' :: '0' :: _ :: _ :: cs) = _
    rw [deepest_inside (by decide) (by decide), deepest_inside (by decide) (by decide),
      deepest_inside high.1 high.2, deepest_inside low.1 low.2]
  · exact deepest_inside (by simpa using backslash) (by simpa using quote) depth cs

theorem deepest_quoted (s : String) (depth : Nat) (cs : List Char) :
    deepest false depth (token (quoted s) ++ cs) = deepest false depth cs := by
  have inside : ∀ letters : List Char,
      deepest true depth (letters.flatMap escape ++ '"' :: cs) = deepest false depth cs := by
    intro letters
    induction letters with
    | nil => rfl
    | cons c letters ih => rw [List.flatMap_cons, List.append_assoc, deepest_escape, ih]
  have spelled : token (quoted s) ++ cs = '"' :: (s.toList.flatMap escape ++ '"' :: cs) := by
    simp [token, quoted]
  rw [spelled, ← inside s.toList]
  rfl

theorem deepest_natural (n depth : Nat) (cs : List Char) :
    deepest false depth (token (natural n) ++ cs) = deepest false depth cs := by
  have digits : ∀ ds : List Char, (∀ d ∈ ds, d.isDigit = true) →
      deepest false depth (ds ++ cs) = deepest false depth cs := by
    intro ds all
    induction ds with
    | nil => rfl
    | cons d ds ih =>
      have digit := all d List.mem_cons_self
      have rest := ih fun e member => all e (List.mem_cons_of_mem d member)
      rw [List.cons_append, deepest, rest]
      split_ifs with quote opened closed
      · obtain rfl : d = '"' := by simpa using quote
        simp at digit
      · rcases (by simpa using opened : d = '{' ∨ d = '[') with rfl | rfl <;> simp at digit
      · rcases (by simpa using closed : d = '}' ∨ d = ']') with rfl | rfl <;> simp at digit
      · rfl
  have spelled : token (natural n) = Nat.toDigits 10 n := by
    simp [token, natural, Writer.numeral]
  rw [spelled]
  exact digits _ fun d member => Nat.isDigit_of_mem_toDigits (by decide) (by decide) member

/-! ### Blocks -/

/-- Tokens that can be read back from their text, and that leave as many brackets open as there
were, with at most `height` more open in between. -/
structure Block (height : Nat) (ts : List Token) : Prop where
  lexed : ∀ after, Delimited after →
    Lexer.tokens (ts.flatMap token ++ after) = ts ++ Lexer.tokens after
  deepest : ∀ depth after,
    deepest false depth (ts.flatMap token ++ after) =
      max (depth + height) (deepest false depth after)

namespace Block

theorem flat {ts : List Token}
    (lexed : ∀ after, Delimited after →
      Lexer.tokens (ts.flatMap token ++ after) = ts ++ Lexer.tokens after)
    (level : ∀ depth after,
      Json.deepest false depth (ts.flatMap token ++ after) = Json.deepest false depth after) :
    Block 0 ts where
  lexed := lexed
  deepest depth after := by
    rw [level, Nat.add_zero, Nat.max_eq_right (le_deepest false depth after)]

theorem empty : Block 0 [] := flat (by simp) (by simp)

theorem quoted (s : String) : Block 0 [quoted s] :=
  flat (by simpa using fun after _ => tokens_quoted s after)
    (by simpa using deepest_quoted s)

theorem natural (n : Nat) : Block 0 [natural n] :=
  flat (by simpa using fun after => tokens_natural n) (by simpa using deepest_natural n)

theorem append {k l : Nat} {ts us : List Token} (first : Block k ts) (second : Block l us)
    (separate : ∃ m vs, us = .mark m :: vs) : Block (max k l) (ts ++ us) where
  lexed after delimited := by
    have between : Delimited (us.flatMap token ++ after) := by
      obtain ⟨m, vs, rfl⟩ := separate
      intro c head
      obtain rfl : m.char = c := by simpa [token] using head
      rw [Mark.ofChar?_char]
      rfl
    rw [List.flatMap_append, List.append_assoc, first.lexed _ between, second.lexed _ delimited,
      List.append_assoc]
  deepest depth after := by
    rw [List.flatMap_append, List.append_assoc, first.deepest, second.deepest]
    omega

theorem mark {m : Mark} {k : Nat} {ts : List Token} (block : Block k ts)
    (level : ∀ depth cs, Json.deepest false depth (m.char :: cs) = Json.deepest false depth cs) :
    Block k (.mark m :: ts) where
  lexed after delimited := by
    rw [List.flatMap_cons, token, List.append_assoc, List.singleton_append, tokens_mark,
      block.lexed after delimited, List.cons_append]
  deepest depth after := by
    rw [List.flatMap_cons, token, List.append_assoc, List.singleton_append, level, block.deepest]

theorem member (key : String) {k : Nat} {value : List Token} (block : Block k value) :
    Block k (Writer.member key value) := by
  have colon : Block k (.mark .colon :: value) := block.mark fun _ _ => rfl
  have both := (quoted key).append colon ⟨_, _, rfl⟩
  rwa [Nat.zero_max] at both

def highest (heights : List Nat) : Nat := heights.foldr max 0

theorem separated {blocks : List (Nat × List Token)} (each : ∀ b ∈ blocks, Block b.1 b.2) :
    Block (highest (blocks.map Prod.fst)) (Writer.separated (blocks.map Prod.snd)) := by
  induction blocks with
  | nil => exact empty
  | cons b blocks ih =>
    have here := each b List.mem_cons_self
    have rest := ih fun c member => each c (List.mem_cons_of_mem b member)
    cases blocks with
    | nil => simpa [highest, Writer.separated] using here
    | cons c blocks =>
      have comma := rest.mark (m := .comma) fun _ _ => rfl
      exact here.append comma ⟨_, _, rfl⟩

theorem enclosed {o c : Mark} {k : Nat} {ts : List Token} (block : Block k ts)
    (opens : ∀ depth cs, Json.deepest false depth (o.char :: cs) =
      Json.deepest false (depth + 1) cs)
    (closes : ∀ depth cs, Json.deepest false (depth + 1) (c.char :: cs) =
      max (depth + 1) (Json.deepest false depth cs)) :
    Block (k + 1) (.mark o :: ts ++ [.mark c]) where
  lexed after delimited := by
    have closed : Delimited (c.char :: after) := by
      intro d head
      obtain rfl : c.char = d := by simpa using head
      rw [Mark.ofChar?_char]
      rfl
    simp only [List.flatMap_append, List.flatMap_cons, List.flatMap_nil, token, List.append_nil,
      List.append_assoc, List.cons_append, List.nil_append, tokens_mark]
    rw [block.lexed _ closed, tokens_mark]
  deepest depth after := by
    simp only [List.flatMap_append, List.flatMap_cons, List.flatMap_nil, token, List.append_nil,
      List.append_assoc, List.cons_append, List.nil_append, opens]
    rw [block.deepest, closes]
    omega

theorem list {blocks : List (Nat × List Token)} (each : ∀ b ∈ blocks, Block b.1 b.2) :
    Block (highest (blocks.map Prod.fst) + 1) (Writer.list (blocks.map Prod.snd)) :=
  (separated each).enclosed (fun _ _ => rfl) fun _ _ => rfl

theorem object {blocks : List (Nat × List Token)} (each : ∀ b ∈ blocks, Block b.1 b.2) :
    Block (highest (blocks.map Prod.fst) + 1) (Writer.object (blocks.map Prod.snd)) :=
  (separated each).enclosed (fun _ _ => rfl) fun _ _ => rfl

theorem le_highest {heights : List Nat} {k : Nat} (member : k ∈ heights) : k ≤ highest heights := by
  induction heights with
  | nil => simp at member
  | cons h heights ih =>
    rw [highest, List.foldr_cons]
    rcases List.mem_cons.mp member with rfl | later
    · exact Nat.le_max_left _ _
    · exact Nat.le_trans (ih later) (Nat.le_max_right _ _)

theorem tokens_text {k : Nat} {ts : List Token} (block : Block k ts) :
    Lexer.tokens (Writer.text ts).toList = ts := by
  have whole := block.lexed [] (by simp [Delimited])
  simpa [Writer.text, tokens_nil] using whole

theorem bracketDepth_text {k : Nat} {ts : List Token} (block : Block k ts) :
    bracketDepth (Writer.text ts) = k := by
  have whole := block.deepest 0 []
  simpa [bracketDepth, Writer.text, Json.deepest] using whole

end Block

end Bindery.Json
