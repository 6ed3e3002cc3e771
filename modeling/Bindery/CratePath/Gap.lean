set_option autoImplicit false
set_option relaxedAutoImplicit false

/-!
What may stand between the tokens of a path: white space and comments. A comment that documents
something is a token of its own and no gap.
-/

namespace Bindery.CratePath

def isSpace (c : Char) : Bool :=
  let n := c.toNat
  n == 32 || 9 ≤ n && n ≤ 13 || n == 0x85 || n == 0xA0 || n == 0x1680 ||
    0x2000 ≤ n && n ≤ 0x200A || n == 0x200E || n == 0x200F || n == 0x2028 || n == 0x2029 ||
    n == 0x202F || n == 0x205F || n == 0x3000

/-- What follows the first line of text, from the line end on. -/
def afterLine (cs : List Char) : List Char := cs.dropWhile (· != '\n')

/-- What follows a block comment, given its text after the opening and how many comments within it
are open; nothing if it does not end. -/
def afterBlock? : Nat → List Char → Option (List Char)
  | _, [] => none
  | inner, '/' :: '*' :: rest => afterBlock? (inner + 1) rest
  | 0, '*' :: '/' :: rest => some rest
  | inner + 1, '*' :: '/' :: rest => afterBlock? inner rest
  | inner, _ :: rest => afterBlock? inner rest

/-- What follows the comment at the front of text, if one stands there that documents nothing. -/
def afterComment? : List Char → Option (List Char)
  | '/' :: '/' :: '/' :: '/' :: rest => some (afterLine rest)
  | '/' :: '/' :: '/' :: _ => none
  | '/' :: '/' :: '!' :: _ => none
  | '/' :: '/' :: rest => some (afterLine rest)
  | '/' :: '*' :: '*' :: '/' :: rest => some rest
  | '/' :: '*' :: '*' :: '*' :: rest => afterBlock? 0 ('*' :: '*' :: rest)
  | '/' :: '*' :: '*' :: _ => none
  | '/' :: '*' :: '!' :: _ => none
  | '/' :: '*' :: rest => afterBlock? 0 rest
  | _ => none

theorem afterLine_length (cs : List Char) : (afterLine cs).length ≤ cs.length :=
  (List.dropWhile_sublist _).length_le

theorem afterBlock?_length {inner : Nat} {cs rest : List Char}
    (h : afterBlock? inner cs = some rest) : rest.length < cs.length := by
  fun_induction afterBlock? inner cs with
  | case1 => cases h
  | case2 _ _ ih => exact Nat.lt_succ_of_lt (Nat.lt_succ_of_lt (ih h))
  | case3 => cases h; exact Nat.lt_succ_of_lt (Nat.lt_succ_self _)
  | case4 _ _ ih => exact Nat.lt_succ_of_lt (Nat.lt_succ_of_lt (ih h))
  | case5 _ _ _ _ _ _ ih => exact Nat.lt_succ_of_lt (ih h)

theorem afterComment?_length {cs rest : List Char} (h : afterComment? cs = some rest) :
    rest.length < cs.length := by
  unfold afterComment? at h
  split at h
  · cases h
    rename_i tail
    have := afterLine_length tail
    simp only [List.length_cons]
    omega
  · cases h
  · cases h
  · cases h
    rename_i tail _ _ _
    have := afterLine_length tail
    simp only [List.length_cons]
    omega
  · cases h
    simp only [List.length_cons]
    omega
  · have := afterBlock?_length h
    simp only [List.length_cons] at this ⊢
    omega
  · cases h
  · cases h
  · have := afterBlock?_length h
    simp only [List.length_cons]
    omega
  · cases h

end Bindery.CratePath
