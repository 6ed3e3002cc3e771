set_option autoImplicit false
set_option relaxedAutoImplicit false

/-!
Journals: what a computation reports along the way, kept apart from what it returns. Entries written
before a failure are kept.
-/

namespace Bindery

/-- How much an entry matters. -/
inductive Level where
  | error
  | warn
  | info
  | debug
  | trace
  deriving DecidableEq, Repr

def Level.name : Level → String
  | .error => "ERROR"
  | .warn => "WARN"
  | .info => "INFO"
  | .debug => "DEBUG"
  | .trace => "TRACE"

structure Entry where
  level : Level
  message : String
  deriving DecidableEq, Repr

/-- A computation that may fail, with the entries it has written. -/
structure Run (ε α : Type) where
  entries : List Entry
  result : Except ε α

namespace Run

variable {ε ε' α β : Type}

def ofExcept (result : Except ε α) : Run ε α := ⟨[], result⟩

def note (level : Level) (message : String) : Run ε Unit := ⟨[⟨level, message⟩], .ok ()⟩

def fail (e : ε) : Run ε α := ⟨[], .error e⟩

def andThen (m : Run ε α) (f : α → Run ε β) : Run ε β :=
  match m.result with
  | .error e => ⟨m.entries, .error e⟩
  | .ok a =>
    let next := f a
    ⟨m.entries ++ next.entries, next.result⟩

/-- States an error in the words of an enclosing computation. -/
def mapError (f : ε → ε') (m : Run ε α) : Run ε' α :=
  ⟨m.entries, m.result.mapError f⟩

instance : Monad (Run ε) where
  pure a := ⟨[], .ok a⟩
  bind := andThen

@[simp]
theorem result_pure (a : α) : (pure a : Run ε α).result = .ok a := rfl

@[simp]
theorem result_bind (m : Run ε α) (f : α → Run ε β) :
    (m >>= f).result = m.result.bind fun a => (f a).result := by
  show (andThen m f).result = _
  unfold andThen
  cases m.result <;> rfl

@[simp]
theorem result_ofExcept (result : Except ε α) : (ofExcept result).result = result := rfl

@[simp]
theorem result_note (level : Level) (message : String) :
    (note level message : Run ε Unit).result = .ok () := rfl

/-- The values of a computation on each element, in order, up to the first failure. -/
def forEach (f : α → Run ε β) : List α → Run ε (List β)
  | [] => pure []
  | a :: as => do
    let b ← f a
    let bs ← forEach f as
    pure (b :: bs)

end Run

end Bindery
