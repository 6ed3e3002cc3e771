import Bindery.Proofs.Header.Parts
import Bindery.Wrapper.Projection

set_option autoImplicit false
set_option relaxedAutoImplicit false

/-!
How the forms of types are built up. A property of streams that the pieces of a form hand on to the
whole holds of the plain form and of the wrapper form of every type.
-/

namespace Bindery.Wrapper

theorem podAll_eq_map (rt : CratePath) (ts : List Ty) : podAll rt ts = ts.map (pod rt) := by
  induction ts with
  | nil => rfl
  | cons t ts ih => rw [podAll, ih, List.map_cons]

def itemNames : List String :=
  ["Slice", "SliceMut", "RawOwnedPtr", "RawOwnedSlice", "RawClosure", "OwnedPtr", "OwnedSlice",
    "Closure"]

/-- A property of streams that is kept when forms of types are built, as long as the names of
structs are good ones. -/
structure Kept (rt : CratePath) (good : String → Prop) (P : Stream → Prop) : Prop where
  nothing : P []
  primitive : ∀ p : Primitive, P [word p.name]
  named : ∀ name, good name → P [ident name]
  character : P (absolute ["core", "ffi", "c_char"])
  pointer : ∀ m ts, P ts → P (pointerTo m ts)
  array : ∀ ts len, P ts → P [brackets (ts ++ [mark ';', .literal (.number len)])]
  item : ∀ name ∈ itemNames, ∀ ts, P ts → P (runtimeItem rt name ++ angled ts)
  result : ∀ ts, P ts → P (arrow ++ ts)
  signature : ∀ args returns, (∀ ts ∈ args, P ts) → P returns → P (signature args returns)
  callback : ∀ ts, P ts → P (absolute ["core", "option", "Option"] ++
    angled (word "unsafe" :: word "extern" :: text "C" :: ts))

namespace Kept

variable {rt : CratePath} {good : String → Prop} {P : Stream → Prop} (kept : Kept rt good P)

include kept

theorem podReturn {returns : Option Ty} (each : ∀ t ∈ returns.toList, P (pod rt t)) :
    P (Wrapper.podReturn rt returns) := by
  cases returns with
  | none => exact kept.nothing
  | some t => exact kept.result _ (each t List.mem_cons_self)

theorem podSignature {args : List Ty} {returns : Option Ty}
    (each : ∀ t ∈ args ++ returns.toList, P (pod rt t)) :
    P (Wrapper.signature (podAll rt args) (Wrapper.podReturn rt returns)) := by
  refine kept.signature _ _ (fun ts member => ?_)
    (kept.podReturn fun t result => each t (List.mem_append_right _ result))
  rw [podAll_eq_map] at member
  obtain ⟨t, arg, rfl⟩ := List.mem_map.mp member
  exact each t (List.mem_append_left _ arg)

theorem pod {t : Ty} (names : ∀ name, (Ty.named name).Inside t → good name) :
    P (Wrapper.pod rt t) := by
  induction t using Ty.size_induction with
  | step t ih =>
    have inside : ∀ u ∈ t.children, P (Wrapper.pod rt u) := fun u child =>
      ih u (Ty.size_lt_of_mem_children child) fun name within =>
        names name (Ty.inside_of_child child within)
    cases t with
    | primitive p => exact kept.primitive p
    | named name => exact kept.named name (names name .refl)
    | string m => exact kept.pointer m _ kept.character
    | pointer m pointee => exact kept.pointer m _ (inside pointee List.mem_cons_self)
    | slice m element =>
      exact kept.item _ (by cases m <;> decide) _ (inside element List.mem_cons_self)
    | array element len => exact kept.array _ _ (inside element List.mem_cons_self)
    | function args returns => exact kept.callback _ (kept.podSignature inside)
    | closure args returns => exact kept.item _ (by decide) _ (kept.podSignature inside)
    | owned inner =>
      -- The plain form looks through an owned reference at what it refers to.
      have content : ∀ u ∈ inner.children, P (Wrapper.pod rt u) := fun u child =>
        ih u (Ty.size_lt_of_owned child) fun name within =>
          names name (Ty.inside_of_child List.mem_cons_self (Ty.inside_of_child child within))
      have whole := inside inner List.mem_cons_self
      cases inner with
      | pointer m pointee => exact kept.item _ (by decide) _ (content pointee List.mem_cons_self)
      | slice m element => exact kept.item _ (by decide) _ (content element List.mem_cons_self)
      | _ => exact whole

theorem wrapped {t : Ty} (names : ∀ name, (Ty.named name).Inside t → good name) :
    P (Wrapper.wrapped rt t) := by
  have inside : ∀ u ∈ t.children, P (Wrapper.pod rt u) := fun u child =>
    kept.pod fun name within => names name (Ty.inside_of_child child within)
  cases t with
  | closure args returns => exact kept.item _ (by decide) _ (kept.podSignature inside)
  | owned inner =>
    have content : ∀ u ∈ inner.children, P (Wrapper.pod rt u) := fun u child =>
      kept.pod fun name within =>
        names name (Ty.inside_of_child List.mem_cons_self (Ty.inside_of_child child within))
    cases inner with
    | pointer m pointee => exact kept.item _ (by decide) _ (content pointee List.mem_cons_self)
    | slice m element => exact kept.item _ (by decide) _ (content element List.mem_cons_self)
    | _ => exact kept.pod names
  | _ => exact kept.pod names

end Kept

end Bindery.Wrapper
