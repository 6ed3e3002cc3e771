set_option autoImplicit false
set_option relaxedAutoImplicit false

/-!
Values under names, in the order in which the names first appear. Main statements: setting a name
changes what is found under that name and under no other, and so does leaving it out.
-/

namespace Bindery

abbrev Named (α : Type) := List (String × α)

namespace Named

variable {α : Type}

def get? (names : Named α) (name : String) : Option α :=
  (names.find? fun e => e.1 == name).map Prod.snd

def contains (names : Named α) (name : String) : Bool := (get? names name).isSome

/-- Sets the value under a name; a new name goes to the end. -/
def set (name : String) (a : α) : Named α → Named α
  | [] => [(name, a)]
  | e :: rest => if e.1 == name then (name, a) :: rest else e :: set name a rest

def erase (names : Named α) (name : String) : Named α := names.filter fun e => e.1 != name

def sorted (names : Named α) : Named α := names.mergeSort fun a b => !(b.1 < a.1)

@[simp]
theorem get?_nil (name : String) : get? ([] : Named α) name = none := rfl

theorem get?_cons (e : String × α) (names : Named α) (name : String) :
    get? (e :: names) name = if e.1 = name then some e.2 else get? names name := by
  by_cases h : e.1 = name <;> simp [get?, h]

@[simp]
theorem get?_set_self (name : String) (a : α) (names : Named α) :
    get? (set name a names) name = some a := by
  induction names with
  | nil => simp [set, get?_cons]
  | cons e rest ih =>
    by_cases h : e.1 = name
    · simp [set, h, get?_cons]
    · simp [set, h, get?_cons, ih]

theorem get?_set_of_ne {name other : String} (a : α) (names : Named α) (h : name ≠ other) :
    get? (set name a names) other = get? names other := by
  induction names with
  | nil => simp [set, get?_cons, h]
  | cons e rest ih =>
    by_cases he : e.1 = name
    · simp [set, he, get?_cons, h]
    · simp [set, he, get?_cons, ih]

@[simp]
theorem get?_erase_self (name : String) (names : Named α) :
    get? (erase names name) name = none := by
  induction names with
  | nil => rfl
  | cons e rest ih =>
    by_cases h : e.1 = name
    · have skipped : erase (e :: rest) name = erase rest name := by simp [erase, h]
      rw [skipped, ih]
    · have kept : erase (e :: rest) name = e :: erase rest name := by simp [erase, h]
      rw [kept, get?_cons, if_neg h, ih]

theorem get?_erase_of_ne {name other : String} (names : Named α) (h : name ≠ other) :
    get? (erase names name) other = get? names other := by
  induction names with
  | nil => rfl
  | cons e rest ih =>
    by_cases he : e.1 = name
    · have skipped : erase (e :: rest) name = erase rest name := by simp [erase, he]
      have different : e.1 ≠ other := fun same => h (he.symm.trans same)
      rw [skipped, ih, get?_cons, if_neg different]
    · have kept : erase (e :: rest) name = e :: erase rest name := by simp [erase, he]
      rw [kept, get?_cons, get?_cons, ih]

end Named

end Bindery
