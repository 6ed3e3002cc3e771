import Bindery.Options
import Mathlib.Data.List.DropRight
import Mathlib.Data.List.Nodup

set_option autoImplicit false
set_option relaxedAutoImplicit false

/-!
The two prefixes of the headers. Exported symbols stand behind the symbol prefix and every other
name behind the header prefix and an underscore. Unless it is given, the header prefix is the symbol
prefix without the underscores at its end, so the two families of names can meet in three ways.
-/

namespace Bindery.Header

theorem nodup_map_append (front : String) {names : List String} (distinct : names.Nodup) :
    (names.map (front ++ ·)).Nodup :=
  distinct.map fun _ _ same => String.append_right_inj front |>.mp same

def EndsInUnderscore (text : String) : Prop := text.toList.getLast? = some '_'

/-- Whether a function has the symbol that the headers make of a word of their own. -/
inductive Captures (options : Options) (own : String) : String → Prop where
  | given {tag g : String} (given : options.headerPrefix = some tag)
    (same : options.symbolPrefix ++ g = tag ++ "_" ++ own) : Captures options own g
  | bare (derived : options.headerPrefix = none) (empty : options.symbolPrefix = "") :
    Captures options own ("vellum_" ++ own)
  | joined (derived : options.headerPrefix = none) (proper : options.symbolPrefix ≠ "")
    (plain : ¬ EndsInUnderscore options.symbolPrefix) : Captures options own ("_" ++ own)
  | separated {word : String} (derived : options.headerPrefix = none)
    (one : options.symbolPrefix = word ++ "_") (proper : word ≠ "")
    (plain : ¬ EndsInUnderscore word) : Captures options own own

theorem trimUnderscores_spec (text : String) :
    ∃ n, text = Options.trimUnderscores text ++ String.ofList (List.replicate n '_') ∧
      ¬ EndsInUnderscore (Options.trimUnderscores text) := by
  have dropped : (Options.trimUnderscores text).toList =
      text.toList.rdropWhile (· == '_') := by
    simp [Options.trimUnderscores, List.rdropWhile]
  have tail : text.toList.rtakeWhile (· == '_') =
      List.replicate (text.toList.rtakeWhile (· == '_')).length '_' := by
    refine List.eq_replicate_of_mem fun c member => ?_
    simpa using List.mem_rtakeWhile_imp member
  refine ⟨(text.toList.rtakeWhile (· == '_')).length, ?_, ?_⟩
  · apply String.toList_inj.mp
    rw [String.toList_append, dropped, String.toList_ofList, ← tail,
      List.rdropWhile_append_rtakeWhile]
  · intro ends
    rw [EndsInUnderscore, dropped] at ends
    obtain ⟨front, whole⟩ := List.getLast?_eq_some_iff.mp ends
    have proper : text.toList.rdropWhile (· == '_') ≠ [] := by simp [whole]
    have last := List.rdropWhile_last_not _ _ proper
    simp [whole] at last

theorem trimUnderscores_append {word : String} (plain : ¬ EndsInUnderscore word) (n : Nat) :
    Options.trimUnderscores (word ++ String.ofList (List.replicate n '_')) = word := by
  have stops : word.toList.rdropWhile (· == '_') = word.toList := by
    refine List.rdropWhile_eq_self_iff.mpr fun proper last => plain ?_
    rw [EndsInUnderscore, List.getLast?_eq_some_getLast proper]
    simpa using last
  induction n with
  | zero => simpa [Options.trimUnderscores, List.rdropWhile] using congrArg String.ofList stops
  | succ n ih =>
    rw [List.replicate_succ']
    simpa [Options.trimUnderscores] using ih

theorem resolvedHeaderPrefix_of_derived {options : Options} {word : String} {n : Nat}
    (derived : options.headerPrefix = none)
    (whole : options.symbolPrefix = word ++ String.ofList (List.replicate n '_'))
    (plain : ¬ EndsInUnderscore word) :
    options.resolvedHeaderPrefix = if word = "" then "vellum" else word := by
  rw [Options.resolvedHeaderPrefix, derived]
  simp only [whole, trimUnderscores_append plain]
  split <;> simp_all

/-- Behind the same word, the underscores of the symbol prefix are part of the one that sets off the
header's own word. -/
theorem underscores_append_eq_iff {own g : String} (bare : own.toList.head? ≠ some '_') {n : Nat} :
    String.ofList (List.replicate n '_') ++ g = "_" ++ own ↔
      (n = 0 ∧ g = "_" ++ own) ∨ (n = 1 ∧ g = own) := by
  simp only [← String.toList_inj, String.toList_append, String.toList_ofList]
  match n with
  | 0 => simp
  | 1 => simp
  | n + 2 =>
    have second : ('_' :: (List.replicate n '_' ++ g.toList)) ≠ own.toList := by
      intro same
      simp [← same] at bare
    simpa [List.replicate_succ] using second

theorem underscores_append_eq_vellum_iff {own g : String} {n : Nat} :
    String.ofList (List.replicate n '_') ++ g = "vellum_" ++ own ↔
      n = 0 ∧ g = "vellum_" ++ own := by
  simp only [← String.toList_inj, String.toList_append, String.toList_ofList]
  cases n <;> simp [List.replicate_succ]

/-- A symbol meets a name of the headers exactly if its function captures the word of that name. -/
theorem symbol_eq_iff_captures {options : Options} {own g : String}
    (bare : own.toList.head? ≠ some '_') :
    options.symbol g = options.resolvedHeaderPrefix ++ "_" ++ own ↔ Captures options own g := by
  rw [Options.symbol]
  constructor
  · intro same
    cases chosen : options.headerPrefix with
    | some tag =>
      refine .given chosen ?_
      simpa [Options.resolvedHeaderPrefix, chosen] using same
    | none =>
      -- The prefix is a word and `n` underscores: only `n ≤ 1` leaves room for the header's own.
      obtain ⟨n, whole, plain⟩ := trimUnderscores_spec options.symbolPrefix
      rw [resolvedHeaderPrefix_of_derived chosen whole plain] at same
      generalize Options.trimUnderscores options.symbolPrefix = word at whole plain same
      rw [whole] at same
      split_ifs at same with blank
      · subst blank
        obtain ⟨rfl, rfl⟩ := underscores_append_eq_vellum_iff.mp (by simpa using same)
        exact .bare chosen (by simpa using whole)
      · rw [String.append_assoc, String.append_assoc, String.append_right_inj] at same
        rcases (underscores_append_eq_iff bare).mp same with ⟨rfl, rfl⟩ | ⟨rfl, rfl⟩
        · obtain rfl : word = options.symbolPrefix := by simpa using whole.symm
          exact .joined chosen blank plain
        · exact .separated chosen whole blank plain
  · intro captured
    cases captured with
    | given chosen same => simpa [Options.resolvedHeaderPrefix, chosen] using same
    | bare derived empty =>
      simp [Options.resolvedHeaderPrefix, derived, empty, Options.trimUnderscores]
    | joined derived proper plain =>
      have whole : options.symbolPrefix =
          options.symbolPrefix ++ String.ofList (List.replicate 0 '_') := by simp
      rw [resolvedHeaderPrefix_of_derived derived whole plain, if_neg proper,
        String.append_assoc]
    | @separated word derived one proper plain =>
      have whole : options.symbolPrefix = word ++ String.ofList (List.replicate 1 '_') := one
      rw [resolvedHeaderPrefix_of_derived derived whole plain, if_neg proper, one]

def setOff : Options where
  stem := "st"
  targets := [.c]
  symbolPrefix := "st_"

end Bindery.Header
