set_option autoImplicit false
set_option relaxedAutoImplicit false

/-!
Stores: texts under keys, in ascending order of the keys.
-/

namespace Bindery.KeyValue

abbrev Bytes := List UInt8

/-- Whether a text comes before another: byte by byte, and a text before every longer one that
begins with it. -/
def before : Bytes → Bytes → Bool
  | _, [] => false
  | [], _ :: _ => true
  | a :: as, b :: bs => a < b || (a == b && before as bs)

abbrev KeyEntry := Bytes × Bytes

/-- The entries of a store, in ascending order of their keys. -/
abbrev Store := List KeyEntry

namespace Store

def get? (store : Store) (key : Bytes) : Option Bytes :=
  (store.find? fun e => e.1 == key).map Prod.snd

def set (key text : Bytes) : Store → Store
  | [] => [(key, text)]
  | e :: rest =>
    if e.1 == key then (key, text) :: rest
    else if before key e.1 then (key, text) :: e :: rest
    else e :: set key text rest

def delete (store : Store) (key : Bytes) : Store := store.filter fun e => e.1 != key

def contains (store : Store) (key : Bytes) : Bool := (store.get? key).isSome

end Store

end Bindery.KeyValue
